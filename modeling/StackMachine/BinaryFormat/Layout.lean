import StackMachine.Instruction

/-!
# The layout of the binary format

A binary container starts with the magic bytes, a version and three reserved bytes.  The tables of
code, constants and names follow, each with its count in front.  An instruction is a byte for its
opcode and a word for its operand; a mnemonic that is not known is spelled out behind the byte
`unknownMark`.  Numbers are big-endian.
-/

namespace StackMachine.BinaryFormat

/-- The bytes every binary container starts with: `MPBC`. -/
def magic : List UInt8 :=
  [0x4D, 0x50, 0x42, 0x43]

/-- The version of the layout. -/
def version : UInt8 :=
  1

/-- The width of the reserved field, which is written as zeros and not looked at. -/
def reservedWidth : Nat :=
  3

/-- The width of a count in front of a table. -/
def countWidth : Nat :=
  4

/-- The width of a length in front of a text. -/
def lengthWidth : Nat :=
  2

/-- The byte that announces a mnemonic spelled out. -/
def unknownMark : UInt8 :=
  0xFF

/-- A byte as two upper-case hexadecimal digits. -/
def hexDigits (b : UInt8) : List Char :=
  [b.toNat / 16, b.toNat % 16].map fun d => (Nat.digitChar d).toUpper

/-- The mnemonic of an opcode byte.  A byte that belongs to no opcode gives a mnemonic that is not
known and shows the byte. -/
def mnemonicOfByte (b : UInt8) : Mnemonic :=
  match Opcode.ofByte? b with
  | some op => .known op
  | none => .unknown ("0x" ++ String.ofList (hexDigits b))

/-- No opcode has the byte that announces a spelling. -/
theorem byte_ne_unknownMark (op : Opcode) : op.byte ≠ unknownMark := by
  have h : ∀ op ∈ Opcode.all, op.byte ≠ unknownMark := by decide
  exact h op op.mem_all

end StackMachine.BinaryFormat
