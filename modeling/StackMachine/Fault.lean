import StackMachine.LoadError
import StackMachine.Opcode
import StackMachine.Text.Decimal

/-!
# Faults and states

A program runs until it comes to its end or to a fault, which stops it for good.  A program that could
not even be loaded has failed in the same way, before its first instruction.
-/

namespace StackMachine

/-- What stopped a program. -/
inductive Fault : Type where
  /-- There is no program to run. -/
  | load (error : LoadError)
  /-- A push found the stack full. -/
  | stackOverflow (limit : Nat)
  /-- A pop found the stack empty. -/
  | stackUnderflow
  /-- A global was read before it was stored. -/
  | unboundName (name : String)
  | divisionByZero
  | invalidJumpTarget (operand : Word)
  | unknownOpcode (name : String)
  | invalidConstantIndex (operand : Word)
  | invalidNameIndex (operand : Word)
  /-- A result does not fit a word. -/
  | arithmeticOverflow (op : Arith)
  /-- A line could not be written, or lines could not be passed on. -/
  | output (message : String)
deriving DecidableEq, Repr

namespace Fault

/-- Whether the program could not even be loaded. -/
def isLoad : Fault → Bool
  | load _ => true
  | _ => false

def message : Fault → String
  | load e => "failed to load bytecode: " ++ e.message
  | stackOverflow limit => s!"stack overflow (limit {limit})"
  | stackUnderflow => "stack underflow"
  | unboundName name => s!"undefined variable: {name}"
  | divisionByZero => "division by zero"
  | invalidJumpTarget operand => "invalid jump target: " ++ Decimal.ofWord operand
  | unknownOpcode name => s!"unknown opcode: {name}"
  | invalidConstantIndex operand => "invalid constant index: " ++ Decimal.ofWord operand
  | invalidNameIndex operand => "invalid name index: " ++ Decimal.ofWord operand
  | arithmeticOverflow op => "integer overflow in " ++ op.name
  | output message => s!"io error: {message}"

end Fault

/-- How far a machine has come.  Which fault it came to is recorded apart from that. -/
inductive RunState : Type where
  | running
  | halted
  | faulted
deriving DecidableEq, Repr

namespace RunState

def name : RunState → String
  | running => "Running"
  | halted => "Halted"
  | faulted => "Faulted"

end RunState

end StackMachine
