import StackMachine.Fault

/-!
# Instructions

An instruction is a mnemonic and an operand.  A container may hold mnemonics that the machine does
not know; they are kept as they are and stop a run only when it comes to execute one.
-/

namespace StackMachine

/-! ## Columns

A field that is narrower than its column is filled with spaces; a wider one stands as it is.  Widths
count characters. -/

namespace Text

/-- Fills a field with spaces on its right. -/
def padRight (width : Nat) (field : String) : String :=
  field ++ String.ofList (List.replicate (width - field.length) ' ')

/-- Fills a field with spaces on its left. -/
def padLeft (width : Nat) (field : String) : String :=
  String.ofList (List.replicate (width - field.length) ' ') ++ field

end Text

/-! ## Mnemonics and operands -/

/-- The name of an operation, known or not. -/
inductive Mnemonic : Type where
  | known (op : Opcode)
  | unknown (text : String)
deriving DecidableEq, Repr

namespace Mnemonic

/-- The name as it is written. -/
def text : Mnemonic → String
  | known op => op.name
  | unknown text => text

/-- Reads a name, which is known if it is exactly that of an opcode. -/
def ofText (s : String) : Mnemonic :=
  match Opcode.ofName? s with
  | some op => known op
  | none => unknown s

/-- What is read is what was written. -/
@[simp] theorem text_ofText (s : String) : (ofText s).text = s := by
  unfold ofText
  cases h : Opcode.ofName? s with
  | none => rfl
  | some op => exact Opcode.ofName?_eq_some_iff.mp h

@[simp] theorem ofText_name (op : Opcode) : ofText op.name = known op := by
  simp [ofText, Opcode.ofName?_name]

end Mnemonic

/-- A mnemonic and its operand, zero where none was given. -/
structure Instruction : Type where
  mnemonic : Mnemonic
  operand : Word := 0
deriving DecidableEq, Repr

namespace Instruction

/-- Whether the operand is shown: where it means something, or is not zero. -/
def hasOperand (i : Instruction) : Bool :=
  match i.mnemonic with
  | .known op => op.takesOperand || i.operand != 0
  | .unknown _ => i.operand != 0

/-- The opcode to execute. -/
def decode (i : Instruction) : Except Fault Opcode :=
  match i.mnemonic with
  | .known op => .ok op
  | .unknown text => .error (.unknownOpcode text)

/-- The instruction as a listing shows it, its operand in a column of its own. -/
def render (i : Instruction) : String :=
  if i.hasOperand then
    Text.padRight 20 i.mnemonic.text ++ " " ++ Decimal.ofWord i.operand
  else
    i.mnemonic.text

end Instruction

end StackMachine
