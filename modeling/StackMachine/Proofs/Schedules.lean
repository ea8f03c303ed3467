import Mathlib.Logic.Function.Iterate
import StackMachine.Proofs.Reachability

/-!
# Schedules of calls

A machine is driven by single steps and by whole runs, in any order.  `Calls` says what a sequence of
such calls leads to and what they answer.

Where one run of a new machine comes to an end, every schedule that is long enough comes to the same
one.  Up to its first run a schedule is made of steps, and a run that follows steps is the run that
would have been without them, since `settle` is `step` iterated and a machine that stopped is a fixed
point of it.  From then on the machine has stopped, and what is left of the schedule is absorbed:
after a fault without any effect, after a halt with one flush for each run, whatever becomes of it.
-/

namespace StackMachine

namespace Machine

/-! ## Calls and their answers -/

/-- How a machine is driven. -/
inductive Call : Type where
  | step
  | run
deriving DecidableEq, Repr

/-- What a call answers. -/
inductive Answer : Type where
  | stepped (result : Except Fault RunState)
  | ran (result : Except Fault Unit)

/-- Calls one after another: the machine they start from, the calls, the machine they lead to and
their answers.  A run may take as many steps as it needs. -/
inductive Calls (p : Program) (cfg : Config) :
    Machine → List Call → Machine → List Answer → Prop where
  | done {m : Machine} : Calls p cfg m [] m []
  | step {m m' : Machine} {cs : List Call} {answers : List Answer}
      (rest : Calls p cfg (m.step p cfg) cs m' answers) :
      Calls p cfg m (.step :: cs) m' (.stepped (m.step p cfg).report :: answers)
  | run {m after m' : Machine} {result : Except Fault Unit} {cs : List Call}
      {answers : List Answer} (fuel : Nat) (ran : m.run p cfg fuel = some (after, result))
      (rest : Calls p cfg after cs m' answers) :
      Calls p cfg m (.run :: cs) m' (.ran result :: answers)

/-- Two machines show the same outcome.  How often their sinks were flushed and what was logged may
differ. -/
structure Agrees (m m' : Machine) : Prop where
  state : m.state = m'.state
  fault : m.fault = m'.fault
  ip : m.ip = m'.ip
  stack : m.stack = m'.stack
  globals : m.globals = m'.globals
  executed : m.executed = m'.executed
  /-- What was printed. -/
  content : m.sink.content = m'.sink.content

/-- How a call is answered after a fault. -/
def Call.afterFault (f : Fault) : Call → Answer
  | step => .stepped (.error f)
  | run => .ran (.error f)

/-- What a run answers that ends with a flush of this sink. -/
def flushResult (s : Sink) : Except Fault Unit :=
  match s.flushError s.flushes with
  | some e => .error (.output e.message)
  | none => .ok ()

/-- How calls are answered by a machine that has come to this state without a fault.  Each run still
flushes the sink, and tells if that fails. -/
def answersAtRest (state : RunState) : Sink → List Call → List Answer
  | _, [] => []
  | s, .step :: cs => .stepped (.ok state) :: answersAtRest state s cs
  | s, .run :: cs => .ran (flushResult s) :: answersAtRest state s.flush.1 cs

end Machine

/-- How many of the next `n` flushes succeed. -/
def Sink.successes (s : Sink) (n : Nat) : Nat :=
  (List.range n).countP fun k => (s.flushError (s.flushes + k)).isNone

namespace Machine

/-- The machine after a number of further runs that took no step: each of them flushed the sink, and is
in the log if that succeeded. -/
def flushed (m : Machine) (runs : Nat) : Machine :=
  { m with
    sink := { m.sink with flushes := m.sink.flushes + runs }
    log := List.replicate (m.sink.successes runs)
      (.halted m.executed m.stack.depth m.globals.size) ++ m.log }

section

variable {p : Program} {cfg : Config} {m m' : Machine}

/-! ## Runs as iterated steps -/

theorem settle_eq_iterate (fuel : Nat) (m : Machine) :
    m.settle p cfg fuel = (step p cfg)^[fuel] m := by
  induction fuel generalizing m with
  | zero => rfl
  | succ fuel ih =>
      by_cases running : m.Running
      · rw [settle, if_pos running, ih, Function.iterate_succ_apply]
      · have fixed : m.step p cfg = m := step_of_not_running running
        rw [settle_of_not_running _ running, Function.iterate_fixed fixed]

/-- However many steps are taken until a machine has stopped, it is the same machine. -/
theorem iterate_eq_of_stopped {n k : Nat} (hn : ¬ ((step p cfg)^[n] m).Running)
    (hk : ¬ ((step p cfg)^[k] m).Running) :
    (step p cfg)^[n] m = (step p cfg)^[k] m := by
  calc (step p cfg)^[n] m
      = (step p cfg)^[k] ((step p cfg)^[n] m) :=
        (Function.iterate_fixed (step_of_not_running hn) k).symm
    _ = (step p cfg)^[n] ((step p cfg)^[k] m) := by
        rw [← Function.iterate_add_apply, ← Function.iterate_add_apply, Nat.add_comm]
    _ = (step p cfg)^[k] m := Function.iterate_fixed (step_of_not_running hk) n

/-- A run ends if the machine has stopped after that many steps, and it concludes there. -/
theorem run_eq_some_iff {fuel : Nat} {r : Machine × Except Fault Unit} :
    m.run p cfg fuel = some r ↔
      ¬ ((step p cfg)^[fuel] m).Running ∧ ((step p cfg)^[fuel] m).conclude = r := by
  rw [← settle_eq_iterate]
  unfold run
  dsimp only
  split
  next running => simp [running]
  next stopped => simp [stopped]

/-- The fuel decides whether a run ends, and nothing else. -/
theorem run_unique {fuel fuel' : Nat} {r r' : Machine × Except Fault Unit}
    (h : m.run p cfg fuel = some r) (h' : m.run p cfg fuel' = some r') : r = r' := by
  obtain ⟨stopped, hr⟩ := run_eq_some_iff.mp h
  obtain ⟨stopped', hr'⟩ := run_eq_some_iff.mp h'
  rw [← hr, ← hr', iterate_eq_of_stopped stopped stopped']

/-- A run is the same after some steps as without them. -/
theorem run_iterate {fuel : Nat} {r : Machine × Except Fault Unit} (n : Nat)
    (h : m.run p cfg fuel = some r) : ((step p cfg)^[n] m).run p cfg fuel = some r := by
  obtain ⟨stopped, hr⟩ := run_eq_some_iff.mp h
  -- The steps may as well come behind the run, where they do nothing.
  have same : (step p cfg)^[fuel] ((step p cfg)^[n] m) = (step p cfg)^[fuel] m := by
    rw [← Function.iterate_add_apply, Nat.add_comm, Function.iterate_add_apply]
    exact Function.iterate_fixed (step_of_not_running stopped) n
  rw [run_eq_some_iff, same]
  exact ⟨stopped, hr⟩

/-- The run of a machine that has stopped takes no step. -/
theorem run_of_not_running (fuel : Nat) (stopped : ¬ m.Running) :
    m.run p cfg fuel = some m.conclude := by
  have same : (step p cfg)^[fuel] m = m :=
    Function.iterate_fixed (step_of_not_running stopped) fuel
  rw [run_eq_some_iff, same]
  exact ⟨stopped, rfl⟩

/-! ## The end of a run -/

theorem not_running_of_fault {f : Fault} (faulted : m.fault = some f) : ¬ m.Running :=
  fun running => by cases running.fault.symm.trans faulted

theorem not_running_of_state (stopped : m.state ≠ .running) : ¬ m.Running :=
  fun running => stopped running.state

theorem conclude_of_fault {f : Fault} (faulted : m.fault = some f) :
    m.conclude = (m, .error f) := by
  simp [conclude, report, faulted]

theorem conclude_of_sound (sound : m.fault = none) :
    m.conclude = (m.flushed 1, flushResult m.sink) := by
  cases failure : m.sink.flushError m.sink.flushes with
  | none => simp [conclude, report, sound, Sink.flush, flushed, flushResult, Sink.successes, failure]
  | some e => simp [conclude, report, sound, Sink.flush, flushed, flushResult, Sink.successes, failure]

theorem Agrees.refl (m : Machine) : Agrees m m :=
  ⟨rfl, rfl, rfl, rfl, rfl, rfl, rfl⟩

theorem Agrees.symm (h : Agrees m m') : Agrees m' m :=
  ⟨h.state.symm, h.fault.symm, h.ip.symm, h.stack.symm, h.globals.symm, h.executed.symm,
    h.content.symm⟩

theorem Agrees.not_running (h : Agrees m m') (stopped : ¬ m'.Running) : ¬ m.Running :=
  fun running => stopped ⟨h.state ▸ running.state, h.fault ▸ running.fault⟩

theorem agrees_flushed (m : Machine) (runs : Nat) : Agrees (m.flushed runs) m :=
  ⟨rfl, rfl, rfl, rfl, rfl, rfl, rfl⟩

/-- The end of a run changes nothing in its outcome. -/
theorem agrees_conclude (m : Machine) : Agrees m.conclude.1 m := by
  cases recorded : m.fault with
  | none =>
      rw [conclude_of_sound recorded]
      exact agrees_flushed m 1
  | some f =>
      rw [conclude_of_fault recorded]
      exact Agrees.refl m

/-- The outcome of a run is that of its steps, which have stopped the machine. -/
theorem agrees_of_run {fuel : Nat} {result : Except Fault Unit}
    (h : m.run p cfg fuel = some (m', result)) :
    ¬ ((step p cfg)^[fuel] m).Running ∧ Agrees m' ((step p cfg)^[fuel] m) := by
  obtain ⟨stopped, hr⟩ := run_eq_some_iff.mp h
  have agrees := agrees_conclude ((step p cfg)^[fuel] m)
  rw [hr] at agrees
  exact ⟨stopped, agrees⟩

/-- A run that succeeds has no fault on record. -/
theorem fault_eq_none_of_run_ok {fuel : Nat} (h : m.run p cfg fuel = some (m', .ok ())) :
    m'.fault = none := by
  rw [(agrees_of_run h).2.fault]
  cases recorded : ((step p cfg)^[fuel] m).fault with
  | none => rfl
  | some f =>
      have hr := (run_eq_some_iff.mp h).2
      rw [conclude_of_fault recorded] at hr
      cases hr

/-- A machine that calls led to and whose run succeeds has halted. -/
theorem halted_of_run_ok {fuel : Nat} (reach : Reachable p cfg m)
    (h : m.run p cfg fuel = some (m', .ok ())) : m'.state = .halted := by
  obtain ⟨stopped, agrees⟩ := agrees_of_run h
  have reach' : Reachable p cfg m' := .run fuel reach h
  rcases reach'.stopped (agrees.not_running stopped) with ⟨halted, _⟩ | ⟨f, _, faulted⟩
  · exact halted
  · cases (fault_eq_none_of_run_ok h).symm.trans faulted

theorem successes_succ (s : Sink) (n : Nat) :
    s.successes (n + 1) = s.flush.1.successes n + s.successes 1 := by
  have later : (fun k => (s.flushError (s.flushes + k)).isNone) ∘ Nat.succ =
      fun k => (s.flushError (s.flushes + 1 + k)).isNone := by
    funext k
    show (s.flushError (s.flushes + (k + 1))).isNone = _
    rw [Nat.add_assoc, Nat.add_comm 1]
  rw [Sink.successes, List.range_succ_eq_map, List.countP_cons, List.countP_map, later]
  simp [Sink.successes, Sink.flush]

theorem flushed_zero (m : Machine) : m.flushed 0 = m := by
  simp [flushed, Sink.successes]

theorem flushed_succ (m : Machine) (n : Nat) : (m.flushed 1).flushed n = m.flushed (n + 1) := by
  have flushes : m.sink.flushes + 1 + n = m.sink.flushes + (n + 1) := by omega
  have count : m.sink.successes (n + 1) =
      (m.flushed 1).sink.successes n + m.sink.successes 1 := successes_succ m.sink n
  simp only [flushed] at count ⊢
  rw [count, ← List.replicate_append_replicate, List.append_assoc, flushes]

/-! ## Schedules -/

theorem Calls.append {cs ds : List Call} {between : Machine} {answers answers' : List Answer}
    (first : Calls p cfg m cs between answers) (second : Calls p cfg between ds m' answers') :
    Calls p cfg m (cs ++ ds) m' (answers ++ answers') := by
  induction first with
  | done => exact second
  | step rest ih => exact .step (ih second)
  | run fuel ran rest ih => exact .run fuel ran (ih second)

/-- Calls have one outcome. -/
theorem Calls.unique {cs : List Call} {m'' : Machine} {answers answers' : List Answer}
    (h : Calls p cfg m cs m' answers) (h' : Calls p cfg m cs m'' answers') :
    m' = m'' ∧ answers = answers' := by
  induction h generalizing m'' answers' with
  | done =>
      cases h'
      exact ⟨rfl, rfl⟩
  | step rest ih =>
      cases h' with
      | step rest' =>
          obtain ⟨rfl, rfl⟩ := ih rest'
          exact ⟨rfl, rfl⟩
  | run fuel ran rest ih =>
      cases h' with
      | run fuel' ran' rest' =>
          -- The two runs may have been given different fuel.
          cases run_unique ran ran'
          obtain ⟨rfl, rfl⟩ := ih rest'
          exact ⟨rfl, rfl⟩

/-- To know one outcome of calls is to know when they have which. -/
theorem Calls.iff_of {cs : List Call} {end' : Machine} {answers answers' : List Answer}
    (h : Calls p cfg m cs end' answers') :
    Calls p cfg m cs m' answers ↔ m' = end' ∧ answers = answers' := by
  constructor
  · intro h'
    exact h'.unique h
  · rintro ⟨rfl, rfl⟩
    exact h

/-- A schedule without a run is as many steps. -/
theorem exists_calls_steps {cs : List Call} (steps : .run ∉ cs) (m : Machine) :
    ∃ answers, Calls p cfg m cs ((step p cfg)^[cs.length] m) answers := by
  induction cs generalizing m with
  | nil => exact ⟨[], .done⟩
  | cons c cs ih =>
      rw [List.mem_cons, not_or] at steps
      cases c with
      | run => exact absurd rfl steps.1
      | step =>
          obtain ⟨answers, rest⟩ := ih steps.2 (m.step p cfg)
          exact ⟨_, .step rest⟩

/-- After a fault no call has an effect. -/
theorem calls_of_fault {f : Fault} (faulted : m.fault = some f) (cs : List Call) :
    Calls p cfg m cs m (cs.map (Call.afterFault f)) := by
  have stopped : ¬ m.Running := not_running_of_fault faulted
  induction cs with
  | nil => exact .done
  | cons c cs ih =>
      cases c with
      | step =>
          have fixed : m.step p cfg = m := step_of_not_running stopped
          have answer : (m.step p cfg).report = .error f := by simp [fixed, report, faulted]
          rw [List.map_cons, Call.afterFault, ← answer]
          exact .step (fixed.symm ▸ ih)
      | run =>
          have ran : m.run p cfg 0 = some (m, .error f) := by
            rw [run_of_not_running 0 stopped, conclude_of_fault faulted]
          exact .run 0 ran ih

/-- After a halt steps have no effect, and each run flushes. -/
theorem calls_at_rest (sound : m.fault = none) (rest : m.state ≠ .running) (cs : List Call) :
    Calls p cfg m cs (m.flushed (cs.count .run)) (answersAtRest m.state m.sink cs) := by
  have stopped : ¬ m.Running := not_running_of_state rest
  -- For all such machines at once, since a run counts a flush.
  induction cs generalizing m with
  | nil =>
      rw [List.count_nil, flushed_zero]
      exact .done
  | cons c cs ih =>
      cases c with
      | step =>
          have fixed : m.step p cfg = m := step_of_not_running stopped
          have answer : (m.step p cfg).report = .ok m.state := by simp [fixed, report, sound]
          rw [answersAtRest, ← answer, List.count_cons_of_ne (by decide)]
          exact .step (fixed.symm ▸ ih sound rest stopped)
      | run =>
          have ran : m.run p cfg 0 = some (m.flushed 1, flushResult m.sink) := by
            rw [run_of_not_running 0 stopped, conclude_of_sound sound]
          have rest' : ¬ (m.flushed 1).Running := not_running_of_state rest
          have more := ih (m := m.flushed 1) sound rest rest'
          rw [flushed_succ] at more
          rw [List.count_cons_self]
          exact .run 0 ran more

/-- Calls on a machine that has stopped leave its outcome as it is. -/
theorem exists_calls_of_stopped (stopped : ¬ m.Running) (cs : List Call) :
    ∃ m' answers, Calls p cfg m cs m' answers ∧ Agrees m' m := by
  cases recorded : m.fault with
  | some f => exact ⟨_, _, calls_of_fault recorded cs, Agrees.refl m⟩
  | none =>
      have rest : m.state ≠ .running := fun running => stopped ⟨running, recorded⟩
      exact ⟨_, _, calls_at_rest recorded rest cs, agrees_flushed m _⟩

/-- A schedule with a run comes to the end of that run: the steps before it do not matter, and the
calls after it are absorbed. -/
theorem exists_calls_of_run_mem {fuel : Nat} {single : Machine} {result : Except Fault Unit}
    {cs : List Call} (ran : m.run p cfg fuel = some (single, result)) (mem : .run ∈ cs) :
    ∃ m' answers, Calls p cfg m cs m' answers ∧ Agrees m' single := by
  obtain ⟨before, after, rfl, steps⟩ := List.eq_append_cons_of_mem mem
  obtain ⟨_, stepped⟩ := exists_calls_steps (p := p) steps m
  have stopped : ¬ single.Running := by
    obtain ⟨hs, agrees⟩ := agrees_of_run ran
    exact agrees.not_running hs
  obtain ⟨m', _, absorbed, agrees⟩ := exists_calls_of_stopped stopped after
  exact ⟨m', _, stepped.append (.run fuel (run_iterate before.length ran) absorbed), agrees⟩

/-- A schedule of steps only that stops the machine comes to the end of a run. -/
theorem exists_calls_of_steps {fuel : Nat} {single : Machine} {result : Except Fault Unit}
    {cs : List Call} (ran : m.run p cfg fuel = some (single, result)) (steps : .run ∉ cs)
    (enough : ¬ ((step p cfg)^[cs.length] m).Running) :
    ∃ m' answers, Calls p cfg m cs m' answers ∧ Agrees m' single := by
  obtain ⟨answers, stepped⟩ := exists_calls_steps (p := p) steps m
  obtain ⟨stopped, agrees⟩ := agrees_of_run ran
  rw [iterate_eq_of_stopped stopped enough] at agrees
  exact ⟨_, answers, stepped, agrees.symm⟩

end

/-- **Schedules do not matter.**  If a run of a machine comes to an end, every schedule with a run
in it, or with steps enough for the machine to stop, has an outcome and it is that of the run.  After
a fault every call is answered by the fault and does nothing; after a halt steps do nothing and each
run flushes once, which may fail one time and succeed another.  So a run succeeds only on a machine
that halts. -/
theorem schedule_independent (p : Program) (cfg : Config) :
    (∀ (m single : Machine) (fuel : Nat) (result : Except Fault Unit),
      m.run p cfg fuel = some (single, result) → ∀ cs : List Call,
        .run ∈ cs ∨ ¬ ((step p cfg)^[cs.count .step] m).Running →
          (∃ m' answers, Calls p cfg m cs m' answers) ∧
            ∀ m' answers, Calls p cfg m cs m' answers → Agrees m' single) ∧
    (∀ (m : Machine) (f : Fault), m.fault = some f → ∀ cs m' answers,
      Calls p cfg m cs m' answers ↔ m' = m ∧ answers = cs.map (Call.afterFault f)) ∧
    (∀ m : Machine, m.fault = none → m.state = .halted → ∀ cs m' answers,
      Calls p cfg m cs m' answers ↔
        m' = m.flushed (cs.count .run) ∧ answers = answersAtRest .halted m.sink cs) ∧
    (∀ (m m' : Machine) (fuel : Nat), Reachable p cfg m → m.run p cfg fuel = some (m', .ok ()) →
      m'.state = .halted) := by
  refine ⟨?_, ?_, ?_, ?_⟩
  · intro m single fuel result ran cs enough
    have reached : ∃ m' answers, Calls p cfg m cs m' answers ∧ Agrees m' single := by
      by_cases mem : .run ∈ cs
      · exact exists_calls_of_run_mem ran mem
      · have all : ∀ c ∈ cs, .step = c := by
          intro c hc
          cases c with
          | step => rfl
          | run => exact absurd hc mem
        rw [List.count_eq_length.mpr all] at enough
        exact exists_calls_of_steps ran mem (enough.resolve_left mem)
    obtain ⟨m', answers, calls, agrees⟩ := reached
    refine ⟨⟨m', answers, calls⟩, ?_⟩
    intro m'' answers' calls'
    obtain ⟨rfl, -⟩ := calls'.unique calls
    exact agrees
  · intro m f faulted cs m' answers
    exact (calls_of_fault faulted cs).iff_of
  · intro m sound halted cs m' answers
    rw [← halted]
    exact (calls_at_rest sound (by simp [halted]) cs).iff_of
  · intro m m' fuel reach ran
    exact halted_of_run_ok reach ran

/-- Prints a constant and comes to the end of the code. -/
def announce : Program where
  code := #[⟨.known .loadConst, 0⟩, ⟨.known .print, 0⟩]
  consts := #[42]
  names := #[]

/-- A sink whose first flush fails, for a reason of its own. -/
def flushedLate : Sink :=
  { flushError := fun n => if n = 0 then some (.failed "busy") else none }

/-- A sink that cannot be flushed at first lets the program halt, and a later run succeeds.  One that is
too small makes it fault in the middle of its line, and one without a limit takes the line. -/
theorem schedule_independent_announce :
    (∃ m : Machine, Machine.run announce {} 3 { sink := flushedLate } =
          some (m, .error (.output "busy")) ∧
        m.state = .halted ∧ m.sink.content = [52, 50, 10] ∧
        (∃ m' answers, Calls announce {} { sink := flushedLate } [.step, .step, .step]
          m' answers ∧ Agrees m' m) ∧
        Calls announce {} m [.run, .step, .run] (m.flushed 2)
          [.ran (.ok ()), .stepped (.ok .halted), .ran (.ok ())]) ∧
    (∃ m : Machine, Machine.run announce {} 3 { sink := { room := some 1 } } =
          some (m, .error (.output "failed to write whole buffer")) ∧
        m.fault = some (.output "failed to write whole buffer") ∧ m.sink.content = [52] ∧
        (∃ m' answers, Calls announce {} { sink := { room := some 1 } } [.step, .run, .step, .run]
          m' answers ∧ Agrees m' m) ∧
        Calls announce {} m [.run, .step] m
          [.ran (.error (.output "failed to write whole buffer")),
            .stepped (.error (.output "failed to write whole buffer"))]) ∧
    (∃ m : Machine, Machine.run announce {} 3 {} = some (m, .ok ()) ∧ m.state = .halted) := by
  obtain ⟨outcome, afterFault, afterHalt, succeeds⟩ := schedule_independent announce {}
  refine ⟨⟨_, rfl, by decide, by decide, ?_, ?_⟩, ⟨_, rfl, by decide, by decide, ?_, ?_⟩,
    ⟨_, rfl, succeeds {} _ 3 (.fresh {} []) rfl⟩⟩
  · obtain ⟨⟨m', answers, calls⟩, agrees⟩ := outcome { sink := flushedLate } _ 3 _ rfl
      [.step, .step, .step] (Or.inr (by decide))
    exact ⟨m', answers, calls, agrees m' answers calls⟩
  · exact (afterHalt _ (by decide) (by decide) _ _ _).mpr ⟨rfl, rfl⟩
  · obtain ⟨⟨m', answers, calls⟩, agrees⟩ := outcome { sink := { room := some 1 } } _ 3 _ rfl
      [.step, .run, .step, .run] (Or.inl (by decide))
    exact ⟨m', answers, calls, agrees m' answers calls⟩
  · exact (afterFault _ _ (by decide) _ _ _).mpr ⟨rfl, rfl⟩

end Machine

end StackMachine
