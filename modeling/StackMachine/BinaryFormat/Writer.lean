import StackMachine.BigEndian
import StackMachine.BinaryFormat.Layout
import StackMachine.Draft
import StackMachine.Program

/-!
# Writing the binary format

Counts and lengths have fixed widths.  The writer stops in front of a table with too many records
and in front of a text with too many bytes.
-/

namespace StackMachine.BinaryFormat

/-- A number in a field of the given width, if it fits. -/
def field (width n : Nat) (otherwise : Refusal) : Draft :=
  if n < BigEndian.capacity width then .ofBytes (BigEndian.encode width n) else .refuse otherwise

/-- A text behind its length. -/
def textField (s : String) : Draft :=
  let bytes := Utf8.encode s
  field lengthWidth bytes.length .nameTooLong ++ .ofBytes bytes

/-- A mnemonic, as the byte of its opcode or spelled out. -/
def mnemonicField : Mnemonic → Draft
  | .known op => .ofBytes [op.byte]
  | .unknown text => .ofBytes [unknownMark] ++ textField text

def instructionField (i : Instruction) : Draft :=
  mnemonicField i.mnemonic ++ .ofBytes (BigEndian.encodeWord i.operand)

/-- A table: its count, then its records. -/
def writeTable (records : List Draft) : Draft :=
  field countWidth records.length .sectionTooLarge ++ Draft.concat records

def headerField : Draft :=
  .ofBytes (magic ++ [version] ++ List.replicate reservedWidth 0)

/-- Writes a binary container. -/
def write (p : Program) : Draft :=
  headerField
    ++ writeTable (p.code.toList.map instructionField)
    ++ writeTable (p.consts.toList.map fun w => .ofBytes (BigEndian.encodeWord w))
    ++ writeTable (p.names.toList.map textField)

end StackMachine.BinaryFormat
