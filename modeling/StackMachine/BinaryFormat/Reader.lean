import StackMachine.BigEndian
import StackMachine.BinaryFormat.Layout
import StackMachine.Program
import StackMachine.Text.Utf8

/-!
# Reading the binary format

A reader takes what it needs off the front of the bytes and leaves the rest.  Every read names the
section it belongs to, so that a container that ends too early is reported with the section in which
it ends.
-/

namespace StackMachine.BinaryFormat

/-- A reader of bytes. -/
abbrev Reader (α : Type) : Type :=
  StateT (List UInt8) (Except LoadError) α

namespace Reader

/-- Reads a number of bytes. -/
def take (part : Section) (n : Nat) : Reader (List UInt8) := fun bytes =>
  let front := bytes.take n
  if front.length = n then .ok (front, bytes.drop n) else .error (.truncated part)

/-- Reads one byte. -/
def byte (part : Section) : Reader UInt8
  | [] => .error (.truncated part)
  | b :: rest => .ok (b, rest)

/-- Reads a number of the given width. -/
def number (part : Section) (width : Nat) : Reader Nat :=
  BigEndian.decode <$> take part width

/-- Reads a word. -/
def word (part : Section) : Reader Word :=
  BigEndian.decodeWord <$> take part 8

/-- Reads a text behind its length. -/
def text (part : Section) : Reader String := do
  let length ← number part lengthWidth
  let bytes ← take part length
  match Utf8.decode? bytes with
  | some s => return s
  | none => throw .invalidUtf8

/-- Reads a number of records. -/
def records {α : Type} (record : Reader α) : Nat → Reader (List α)
  | 0 => return []
  | n + 1 => do
    let first ← record
    let others ← records record n
    return first :: others

/-- Reads a table: its count, then its records. -/
def table {α : Type} (part : Section) (record : Reader α) : Reader (List α) := do
  let n ← number part countWidth
  records record n

/-- Reads the magic bytes, the version and the reserved field. -/
def header : Reader Unit := do
  let front ← take .header magic.length
  if front ≠ magic then throw .invalidMagic
  let v ← byte .header
  if v ≠ version then throw (.unsupportedVersion v)
  let _ ← take .header reservedWidth

/-- Reads a mnemonic, by its byte or spelled out. -/
def mnemonic : Reader Mnemonic := do
  let b ← byte .code
  if b = unknownMark then
    return .unknown (← text .code)
  else
    return mnemonicOfByte b

/-- Reads an instruction. -/
def instruction : Reader Instruction := do
  let mnemonic ← mnemonic
  let operand ← word .code
  return { mnemonic, operand }

/-- Reads a program. -/
def program : Reader Program := do
  header
  let code ← table .code instruction
  let consts ← table .consts (word .consts)
  let names ← table .names (text .names)
  return { code := code.toArray, consts := consts.toArray, names := names.toArray }

end Reader

/-- Reads a binary container. -/
def read (bytes : List UInt8) : Except LoadError Program := do
  let (p, rest) ← Reader.program bytes
  if rest = [] then .ok p else .error .trailingData

end StackMachine.BinaryFormat
