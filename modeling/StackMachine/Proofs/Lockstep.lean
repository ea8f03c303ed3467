import StackMachine.Proofs.Schedules

/-!
# Machines in lockstep

Two machines that execute the same program under different circumstances, say with another
configuration or another sink, are compared step by step.  One of them is looked at through a `View`
that leaves alone whatever a step reads.  `View.step_eq` then reduces the comparison of a step to
what the instruction at hand answers and to what comes of its action, and `after_lockstep` carries it
through runs of any length.

Most such comparisons hold as long as the first machine has not stopped at some kind of fault.  A
machine that has stopped stays as it is, so it is enough to know this of the last step.
-/

namespace StackMachine

namespace Machine

section

variable {p : Program} {cfg cfg' : Config} {m : Machine} {op : Opcode} {operand : Word}

/-! ## The instruction at hand -/

/-- Behind the last instruction a machine halts. -/
theorem step_of_fetch_none (running : m.Running) (fetch : p.code[m.ip]? = none) :
    m.step p cfg = { m with state := .halted } := by
  simp [step, running, fetch]

/-- An instruction that the machine does not know stops it before anything else is done. -/
theorem step_of_unknown {text : String} (running : m.Running)
    (fetch : p.code[m.ip]? = some ⟨.unknown text, operand⟩) :
    m.step p cfg = m.fail (.unknownOpcode text) := by
  simp [step, running, fetch, Instruction.decode]

/-- The machine is about to execute an instruction of a known opcode. -/
structure Fetches (p : Program) (m : Machine) (op : Opcode) (operand : Word) : Prop where
  running : m.Running
  fetch : p.code[m.ip]? = some ⟨.known op, operand⟩

theorem Fetches.step_eq_execute (h : Fetches p m op operand) :
    m.step p cfg = m.execute p cfg op operand := by
  simp [step, h.running, h.fetch, Instruction.decode]

theorem Fetches.step_eq_perform {a : Action} (h : Fetches p m op operand)
    (act : action p cfg m.globals op operand (m.operands op) = .ok a) :
    m.step p cfg = (m.dispatched op operand).perform cfg a := by
  rw [h.step_eq_execute, execute_of_ok act]

theorem Fetches.step_eq_fail {f : Fault} (h : Fetches p m op operand)
    (act : action p cfg m.globals op operand (m.operands op) = .error f) :
    m.step p cfg = (m.dispatched op operand).fail f := by
  rw [h.step_eq_execute, execute_of_error act]

/-! ## Views -/

/-- A view of machines shows what a step reads as it is, and does not interfere with what every step
does in the same way. -/
structure View (view : Machine → Machine) : Prop where
  state : ∀ m, (view m).state = m.state
  fault : ∀ m, (view m).fault = m.fault
  ip : ∀ m, (view m).ip = m.ip
  stack : ∀ m, (view m).stack = m.stack
  globals : ∀ m, (view m).globals = m.globals
  halted : ∀ m, view { m with state := .halted } = { view m with state := .halted }
  failed : ∀ m f, view (m.fail f) = (view m).fail f
  dispatched : ∀ m op operand, view (m.dispatched op operand) = (view m).dispatched op operand

/-- A machine as it is. -/
theorem View.refl : View id :=
  ⟨fun _ => rfl, fun _ => rfl, fun _ => rfl, fun _ => rfl, fun _ => rfl, fun _ => rfl,
    fun _ _ => rfl, fun _ _ _ => rfl⟩

theorem View.running_iff {view : Machine → Machine} (h : View view) (m : Machine) :
    (view m).Running ↔ m.Running :=
  ⟨fun running => ⟨h.state m ▸ running.state, h.fault m ▸ running.fault⟩,
    fun running => ⟨(h.state m).trans running.state, (h.fault m).trans running.fault⟩⟩

/-- To push looks the same through whatever shows the stack as it is. -/
theorem perform_push_comm (view : Machine → Machine) (value : Word)
    (stack : (view m).stack = m.stack)
    (pushed : view { m with stack := m.stack.push value, ip := m.ip + 1 } =
      { view m with stack := m.stack.push value, ip := (view m).ip + 1 })
    (failed : ∀ limit, view (m.fail (.stackOverflow limit)) = (view m).fail (.stackOverflow limit)) :
    (view m).perform cfg (.push value) = view (m.perform cfg (.push value)) := by
  by_cases room : m.stack.depth < cfg.maxStack
  · have room' : (view m).stack.depth < cfg.maxStack := by rwa [stack]
    rw [perform_push_of_lt value room, perform_push_of_lt value room', pushed, stack]
  · have full := Nat.le_of_not_lt room
    have full' : cfg.maxStack ≤ (view m).stack.depth := by rwa [stack]
    rw [perform_push_of_le value full, perform_push_of_le value full', failed]

/-- To print looks the same through whatever shows the sink as it is. -/
theorem perform_print_comm (view : Machine → Machine) (value : Word)
    (sink : (view m).sink = m.sink)
    (printed : ∀ sink, view { m with sink, ip := m.ip + 1 } =
      { view m with sink, ip := (view m).ip + 1 })
    (failed : ∀ sink text, view ({ m with sink }.fail (.output text)) =
      { view m with sink }.fail (.output text)) :
    (view m).perform cfg (.print value) = view (m.perform cfg (.print value)) := by
  rcases write : m.sink.write (Utf8.encode (Decimal.ofWord value ++ "\n")) with ⟨after, failure⟩
  have write' : (view m).sink.write (Utf8.encode (Decimal.ofWord value ++ "\n")) =
      (after, failure) := by
    rw [sink, write]
  rcases failure with _ | e
  · rw [perform_print_of_none write, perform_print_of_none write', printed]
  · rw [perform_print_of_some write, perform_print_of_some write', failed]

/-- A step looks the same through a view if the instruction at hand gives the same answer in both
machines and its action looks the same. -/
theorem View.step_eq {view : Machine → Machine} (h : View view)
    (answers : ∀ op operand, Fetches p m op operand →
      action p cfg' m.globals op operand (m.operands op) =
        action p cfg m.globals op operand (m.operands op))
    (performs : ∀ op operand a, Fetches p m op operand →
      action p cfg m.globals op operand (m.operands op) = .ok a →
        (view (m.dispatched op operand)).perform cfg' a =
          view ((m.dispatched op operand).perform cfg a)) :
    (view m).step p cfg' = view (m.step p cfg) := by
  by_cases running : m.Running
  · have running' : (view m).Running := (h.running_iff m).mpr running
    have same : p.code[(view m).ip]? = p.code[m.ip]? := by rw [h.ip]
    cases fetch : p.code[m.ip]? with
    | none =>
        rw [step_of_fetch_none running fetch, step_of_fetch_none running' (same.trans fetch),
          h.halted]
    | some i =>
        obtain ⟨mnemonic, operand⟩ := i
        cases mnemonic with
        | unknown text =>
            rw [step_of_unknown running fetch, step_of_unknown running' (same.trans fetch), h.failed]
        | known op =>
            have here : Fetches p m op operand := ⟨running, fetch⟩
            have there : Fetches p (view m) op operand := ⟨running', same.trans fetch⟩
            have operands_eq : (view m).operands op = m.operands op := by
              rw [operands, operands, h.stack]
            have answer := answers op operand here
            cases act : action p cfg m.globals op operand (m.operands op) with
            | error f =>
                rw [act, ← h.globals, ← operands_eq] at answer
                rw [here.step_eq_fail act, there.step_eq_fail answer, h.failed, h.dispatched]
            | ok a =>
                rw [act, ← h.globals, ← operands_eq] at answer
                rw [here.step_eq_perform act, there.step_eq_perform answer, ← h.dispatched]
                exact performs op operand a here act
  · have stopped : ¬ (view m).Running := mt (h.running_iff m).mp running
    rw [step_of_not_running running, step_of_not_running stopped]

end

/-! ## Runs of new machines -/

/-- A new machine with this sink, after a number of steps. -/
def after (p : Program) (cfg : Config) (sink : Sink) (n : Nat) : Machine :=
  (step p cfg)^[n] { sink }

section

variable {p : Program} {cfg cfg' : Config} {sink sink' : Sink} {k n : Nat}

theorem after_succ (p : Program) (cfg : Config) (sink : Sink) (n : Nat) :
    after p cfg sink (n + 1) = (after p cfg sink n).step p cfg :=
  Function.iterate_succ_apply' _ _ _

theorem reachable_after (p : Program) (cfg : Config) (sink : Sink) (n : Nat) :
    Reachable p cfg (after p cfg sink n) := by
  induction n with
  | zero => exact .fresh sink []
  | succ n ih =>
      rw [after_succ]
      exact ih.step

/-- Machines that start in the same view and are kept there by each step stay there. -/
theorem after_lockstep (view : Machine → Machine) (start : { sink := sink' } = view { sink })
    (follows : ∀ k < n, (view (after p cfg sink k)).step p cfg' =
      view ((after p cfg sink k).step p cfg))
    (le : k ≤ n) : after p cfg' sink' k = view (after p cfg sink k) := by
  induction k with
  | zero => exact start
  | succ k ih => rw [after_succ, after_succ, ih (Nat.le_of_succ_le le), follows k le]

/-- A machine that has stopped stays as it is. -/
theorem after_eq_of_le (le : k ≤ n) (stopped : ¬ (after p cfg sink k).Running) :
    after p cfg sink n = after p cfg sink k := by
  obtain ⟨more, rfl⟩ := Nat.exists_eq_add_of_le' le
  rw [after, Function.iterate_add_apply]
  exact Function.iterate_fixed (step_of_not_running stopped) more

/-- A machine that runs was running before. -/
theorem running_of_succ (running : (after p cfg sink (n + 1)).Running) :
    (after p cfg sink n).Running := by
  by_contra stopped
  rw [after_succ, step_of_not_running stopped] at running
  exact stopped running

/-- A fault that is not there after some steps was not there before. -/
theorem fault_ne_of_le {f : Fault} (le : k ≤ n) (sound : (after p cfg sink n).fault ≠ some f) :
    (after p cfg sink k).fault ≠ some f := by
  intro faulted
  apply sound
  rw [after_eq_of_le le (not_running_of_fault faulted), faulted]

end

end Machine

end StackMachine
