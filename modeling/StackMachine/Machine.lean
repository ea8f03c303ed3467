import StackMachine.Arithmetic
import StackMachine.Event
import StackMachine.Globals
import StackMachine.Program
import StackMachine.Sink
import StackMachine.Stack

/-!
# The machine

A machine executes a program one instruction at a time.  `Machine.step` is the whole semantics: it
fetches the instruction, takes the operands off the stack, works out what is to be done with them
(`action`) and does it (`perform`).  A fault leaves the machine at the instruction it arose in, with
the operands of that instruction gone.

A run is a sequence of steps.  It may go on forever, so `settle` and `run` are given the number of
steps they may take; `run` answers `none` if the machine is still running after that many.
-/

namespace StackMachine

/-- How many values the stack may hold if nothing else is said. -/
def defaultMaxStack : Nat :=
  10000

structure Config : Type where
  /-- How many values the stack may hold. -/
  maxStack : Nat := defaultMaxStack
  overflow : OverflowPolicy := .fault
deriving DecidableEq, Repr

/-- What an instruction does once its operands are off the stack. -/
inductive Action : Type where
  | push (value : Word)
  | store (name : String) (value : Word)
  | print (value : Word)
  | jump (target : Nat)
  | next
  | halt
deriving DecidableEq, Repr

structure Machine : Type where
  /-- The position of the next instruction. -/
  ip : Nat := 0
  stack : Stack := .empty
  globals : Globals := {}
  state : RunState := .running
  /-- The fault on record, if the machine came to one. -/
  fault : Option Fault := none
  /-- How many instructions were executed, modulo `2^64`. -/
  executed : UInt64 := 0
  /-- Where printed lines go. -/
  sink : Sink := {}
  /-- What happened so far, the latest first. -/
  log : List Event := []

namespace Machine

/-- What happened so far. -/
def events (m : Machine) : List Event :=
  m.log.reverse

/-- The machine takes its next step: it is running, and no fault is on record. -/
structure Running (m : Machine) : Prop where
  state : m.state = .running
  fault : m.fault = none

instance (m : Machine) : Decidable m.Running :=
  decidable_of_iff (m.state = .running ∧ m.fault = none)
    ⟨fun h => ⟨h.1, h.2⟩, fun h => ⟨h.state, h.fault⟩⟩

/-- What a step answers that left this machine behind: the fault on record, or else the state. -/
def report (m : Machine) : Except Fault RunState :=
  match m.fault with
  | some f => .error f
  | none => .ok m.state

/-! ## One instruction -/

/-- What an opcode does with the values it took off the stack.  Where it got fewer than it needs,
the stack ran out. -/
def action (p : Program) (cfg : Config) (globals : Globals) (op : Opcode) (operand : Word)
    (args : List Word) : Except Fault Action :=
  match op, args with
  | .loadConst, [] => do
    let value ← p.constant operand
    return .push value
  | .loadName, [] => do
    let name ← p.nameAt operand
    let value ← globals.load name
    return .push value
  | .storeName, [value] => do
    let name ← p.nameAt operand
    return .store name value
  | .arith arith, [a, b] => do
    let value ← arith.eval cfg.overflow a b
    return .push value
  | .compare rel, [a, b] => return .push (Word.ofBool (rel.holds a b))
  | .jump, [] => do
    let target ← p.jumpTarget operand
    return .jump target
  | .jumpIf sense, [value] =>
    if value.truthy = sense then do
      let target ← p.jumpTarget operand
      return .jump target
    else
      return .next
  | .pop, [_] => return .next
  | .print, [value] => return .print value
  | .halt, [] => return .halt
  | _, _ => throw .stackUnderflow

/-- Stops at a fault. -/
def fail (m : Machine) (f : Fault) : Machine :=
  { m with state := .faulted, fault := some f, log := .faulted m.ip f :: m.log }

/-- Carries out an action. -/
def perform (cfg : Config) (m : Machine) : Action → Machine
  | .push value =>
    match m.stack.pushWithin cfg.maxStack value with
    | .ok stack => { m with stack, ip := m.ip + 1 }
    | .error f => m.fail f
  | .store name value => { m with globals := m.globals.store name value, ip := m.ip + 1 }
  | .print value =>
    match m.sink.write (Utf8.encode (Decimal.ofWord value ++ "\n")) with
    | (sink, none) => { m with sink, ip := m.ip + 1 }
    | (sink, some e) => { m with sink }.fail (.output e.message)
  | .jump target => { m with ip := target }
  | .next => { m with ip := m.ip + 1 }
  | .halt => { m with state := .halted }

/-- Executes an instruction of a known opcode. -/
def execute (p : Program) (cfg : Config) (op : Opcode) (operand : Word) (m : Machine) : Machine :=
  let (args, stack) := m.stack.popMany op.pops
  let m := { m with
    stack
    executed := m.executed + 1
    log := .dispatch m.ip op operand :: m.log }
  match action p cfg m.globals op operand args with
  | .ok a => m.perform cfg a
  | .error f => m.fail f

/-- Executes the next instruction, if the machine is running.  Past the last instruction it
halts. -/
def step (p : Program) (cfg : Config) (m : Machine) : Machine :=
  if m.Running then
    match p.code[m.ip]? with
    | none => { m with state := .halted }
    | some i =>
      match i.decode with
      | .ok op => m.execute p cfg op i.operand
      | .error f => m.fail f
  else
    m

/-! ## Runs -/

/-- Takes steps while the machine is running, at most `fuel` of them. -/
def settle (p : Program) (cfg : Config) : Nat → Machine → Machine
  | 0, m => m
  | fuel + 1, m => if m.Running then settle p cfg fuel (m.step p cfg) else m

/-- Concludes a run.  After the end of a program what was printed is flushed, and a failure to do so
is the result of the run although no fault is recorded; after a fault nothing is flushed. -/
def conclude (m : Machine) : Machine × Except Fault Unit :=
  match m.report with
  | .error f => (m, .error f)
  | .ok _ =>
    match m.sink.flush with
    | (sink, some e) => ({ m with sink }, .error (.output e.message))
    | (sink, none) =>
      let log := .halted m.executed m.stack.depth m.globals.size :: m.log
      ({ m with sink, log }, .ok ())

/-- Runs a program to its end or to a fault, if that takes at most `fuel` steps. -/
def run (p : Program) (cfg : Config) (fuel : Nat) (m : Machine) :
    Option (Machine × Except Fault Unit) :=
  let settled := m.settle p cfg fuel
  if settled.Running then none else some settled.conclude

/-- A machine that does not run takes no step. -/
theorem step_of_not_running {p : Program} {cfg : Config} {m : Machine} (h : ¬ m.Running) :
    m.step p cfg = m :=
  if_neg h

/-- Steps that are not needed change nothing. -/
theorem settle_of_not_running {p : Program} {cfg : Config} {m : Machine} (fuel : Nat)
    (h : ¬ m.Running) : m.settle p cfg fuel = m := by
  cases fuel with
  | zero => rfl
  | succ fuel => exact if_neg h

end Machine

end StackMachine
