import StackMachine.Program
import StackMachine.Text.Blank
import StackMachine.Text.Lines
import StackMachine.Text.Utf8

/-!
# Reading the text format

A text container holds three tables in its lines: code, constants, names.  Each is a line with its
count and then a line for each of its records.  Nothing but blank lines may follow the last name.
The first line that is wrong decides what is reported.
-/

namespace StackMachine.TextFormat

open Text (Line)

/-- Reads the line with the count of a table. -/
def count (part : Section) : List Line → Except LoadError (Nat × List Line)
  | [] => .error (.truncated part)
  | line :: rest =>
    match Decimal.size? (Text.trim line.chars) with
    | some n => .ok (n, rest)
    | none => .error (.invalidCount line.number line.text)

/-- Reads as many records as the count says. -/
def records {α : Type} (part : Section) (record : Line → Except LoadError α) :
    Nat → List Line → Except LoadError (List α × List Line)
  | 0, lines => .ok ([], lines)
  | _ + 1, [] => .error (.truncated part)
  | n + 1, line :: rest => do
    let first ← record line
    let (others, rest) ← records part record n rest
    .ok (first :: others, rest)

/-- Reads a table: its count, then its records. -/
def table {α : Type} (part : Section) (record : Line → Except LoadError α) (lines : List Line) :
    Except LoadError (List α × List Line) := do
  let (n, rest) ← count part lines
  records part record n rest

/-- Reads an instruction: a mnemonic and perhaps an operand. -/
def instruction (line : Line) : Except LoadError Instruction :=
  match Text.words line.chars with
  | [] => .error (.invalidInstruction line.number line.text)
  | [name] => .ok { mnemonic := .ofText (String.ofList name) }
  | name :: operand :: more =>
    match Decimal.word? operand with
    | none => .error (.invalidInteger line.number (String.ofList operand))
    | some w =>
      if more = [] then
        .ok { mnemonic := .ofText (String.ofList name), operand := w }
      else
        .error (.invalidInstruction line.number line.text)

/-- Reads a constant. -/
def constant (line : Line) : Except LoadError Word :=
  let digits := Text.trim line.chars
  match Decimal.word? digits with
  | some w => .ok w
  | none => .error (.invalidInteger line.number (String.ofList digits))

/-- Reads a name, which is the whole line as it stands. -/
def name (line : Line) : Except LoadError String :=
  .ok line.text

/-- Reads a program off the lines of a text. -/
def ofLines (lines : List Line) : Except LoadError Program := do
  let (code, lines) ← table .code instruction lines
  let (consts, lines) ← table .consts constant lines
  let (names, lines) ← table .names name lines
  if lines.all fun line => line.chars.all Text.isBlank then
    .ok { code := code.toArray, consts := consts.toArray, names := names.toArray }
  else
    .error .trailingData

/-- Reads a text container. -/
def read (bytes : List UInt8) : Except LoadError Program :=
  match Utf8.decode? bytes with
  | none => .error .invalidUtf8
  | some text => ofLines (Text.lines text.toList)

end StackMachine.TextFormat
