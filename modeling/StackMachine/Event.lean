import StackMachine.Fault

/-!
# Events

A run leaves a trace of events, each with a level, a message and some fields.
-/

namespace StackMachine

/-- How important an event is, the most important first. -/
inductive Level : Type where
  | error
  | warn
  | info
  | debug
  | trace
deriving DecidableEq, Repr

namespace Level

/-- The place of a level in that order. -/
def rank : Level → Nat
  | error => 1
  | warn => 2
  | info => 3
  | debug => 4
  | trace => 5

def name : Level → String
  | error => "ERROR"
  | warn => "WARN"
  | info => "INFO"
  | debug => "DEBUG"
  | trace => "TRACE"

end Level

/-- The value of a field. -/
inductive Field : Type where
  | number (n : Int)
  | text (s : String)
deriving DecidableEq, Repr

namespace Field

def render : Field → String
  | number n => Decimal.ofInt n
  | text s => s

end Field

inductive Event : Type where
  /-- A file is about to be loaded. -/
  | loading (path : String)
  /-- A program was loaded, with tables of these sizes. -/
  | loaded (code consts names : Nat)
  /-- An instruction is about to be executed. -/
  | dispatch (ip : Nat) (op : Opcode) (operand : Word)
  /-- A run came to a fault. -/
  | faulted (ip : Nat) (fault : Fault)
  /-- A run came to its end. -/
  | halted (executed : UInt64) (depth globals : Nat)
  /-- A program was run, to its end or to a fault. -/
  | finished (state : RunState) (executed : UInt64)
deriving DecidableEq, Repr

namespace Event

def level : Event → Level
  | loading _ | loaded .. | halted .. | finished .. => .debug
  | dispatch .. => .trace
  | faulted .. => .warn

/-- The part of the program that an event comes from. -/
def source : Event → String
  | loading _ | finished .. => "mpvm"
  | loaded .. => "mpvm_core::loader::loader"
  | dispatch .. | faulted .. | halted .. => "mpvm_core::vm::vm"

def message : Event → String
  | loading _ => "loading bytecode"
  | loaded .. => "bytecode loaded"
  | dispatch .. => "dispatch"
  | faulted .. => "run faulted"
  | halted .. => "run halted"
  | finished .. => "run finished"

def fields : Event → List (String × Field)
  | loading path => [("path", .text path)]
  | loaded code consts names =>
    [("code", .number code), ("consts", .number consts), ("names", .number names)]
  | dispatch ip op operand =>
    [("ip", .number ip), ("opcode", .text op.name), ("arg", .number operand.toInt)]
  | faulted ip fault => [("ip", .number ip), ("error", .text fault.message)]
  | halted executed depth globals =>
    [("executed", .number executed.toNat), ("stack_depth", .number depth),
      ("globals", .number globals)]
  | finished state executed =>
    [("state", .text state.name), ("executed", .number executed.toNat)]

/-- The event on one line. -/
def render (e : Event) : String :=
  e.level.name ++ " " ++ e.message
    ++ String.join (e.fields.map fun (key, value) => " " ++ key ++ "=" ++ value.render)

end Event

end StackMachine
