import StackMachine.Text.Quoted

/-!
# Reasons why a container is refused

Each reason says what is wrong and, for a text, in which line; `LoadError.message` puts it in words.
-/

namespace StackMachine

/-- The parts of a container, in their order. -/
inductive Section : Type where
  | header
  | code
  | consts
  | names
deriving DecidableEq, Repr

namespace Section

def name : Section → String
  | header => "header"
  | code => "code"
  | consts => "consts"
  | names => "names"

end Section

/-- Why a program could not be loaded. -/
inductive LoadError : Type where
  /-- The container could not be read at all. -/
  | io (message : String)
  /-- The container ends inside a section. -/
  | truncated (part : Section)
  /-- A line that has to hold a record count holds something else. -/
  | invalidCount (line : Nat) (text : String)
  /-- A constant or an operand is no integer that fits a word. -/
  | invalidInteger (line : Nat) (text : String)
  /-- A line is neither a mnemonic nor a mnemonic and an operand. -/
  | invalidInstruction (line : Nat) (text : String)
  /-- Something follows the name table. -/
  | trailingData
  /-- A binary container starts with other bytes. -/
  | invalidMagic
  /-- A binary container is of a version that is not known. -/
  | unsupportedVersion (version : UInt8)
  /-- Some bytes are no text. -/
  | invalidUtf8
deriving DecidableEq, Repr

namespace LoadError

def message : LoadError → String
  | io message => s!"io error: {message}"
  | truncated part =>
    let name := part.name
    s!"bytecode is truncated in the {name} section"
  | invalidCount line text =>
    let quoted := Text.quote text
    s!"line {line}: invalid record count {quoted}"
  | invalidInteger line text =>
    let quoted := Text.quote text
    s!"line {line}: invalid integer {quoted}"
  | invalidInstruction line text =>
    let quoted := Text.quote text
    s!"line {line}: malformed instruction {quoted}"
  | trailingData => "unexpected data after the name table"
  | invalidMagic => "invalid bytecode magic number"
  | unsupportedVersion version =>
    let number := version.toNat
    s!"unsupported bytecode version: {number}"
  | invalidUtf8 => "name is not valid utf-8"

end LoadError

end StackMachine
