import StackMachine.Draft
import StackMachine.Program

/-!
# Writing the text format

Tables are written in order, every count and every record on a line of its own.  A name that holds a
line break has no such line, and the writer stops in front of it.
-/

namespace StackMachine.TextFormat

/-- A text on a line of its own. -/
def line (s : String) : Draft :=
  .ofText (s ++ "\n")

/-- An instruction, with its operand if that is shown. -/
def instructionText (i : Instruction) : String :=
  if i.hasOperand then
    i.mnemonic.text ++ " " ++ Decimal.ofWord i.operand
  else
    i.mnemonic.text

/-- A name on a line of its own, if one line can hold it. -/
def nameLine (name : String) : Draft :=
  if '\n' ∈ name.toList ∨ '\r' ∈ name.toList then
    .refuse .lineBreakInName
  else
    line name

/-- A table: its count, then its records. -/
def writeTable (records : List Draft) : Draft :=
  line (Decimal.ofNat records.length) ++ Draft.concat records

/-- Writes a text container. -/
def write (p : Program) : Draft :=
  writeTable (p.code.toList.map fun i => line (instructionText i))
    ++ writeTable (p.consts.toList.map fun w => line (Decimal.ofWord w))
    ++ writeTable (p.names.toList.map nameLine)

end StackMachine.TextFormat
