import Mathlib.Data.Nat.Init
import StackMachine.Proofs.BalancedStack
import StackMachine.Proofs.EventTrace

/-!
# Programs that only jump forward

A program whose jumps all lead forward comes to an end.  The measure is the position: every step of a
machine that goes on afterwards has moved it forward (`ip_lt_ip_succ`), and it never leaves the code by
more than one.  A step that does not move it stops the machine, be it at a halt, at a fault or at the end
of the code.  Jumps whose target is not in the code are among the faults, so nothing is asked of them.
-/

namespace StackMachine

namespace Program

/-- Every jump to an instruction of the program leads forward. -/
def Forward (p : Program) : Prop :=
  ∀ i op operand target, p.code[i]? = some ⟨.known op, operand⟩ → op.jumps = true →
    p.jumpTarget operand = .ok target → i < target

/-- Whether the instruction at position `i` leads forward, if it jumps at all. -/
def forwardAt (p : Program) (i : Nat) : Bool :=
  match p.code[i]? with
  | some ⟨.known op, operand⟩ =>
    match p.jumpTarget operand with
    | .ok target => !op.jumps || decide (i < target)
    | .error _ => true
  | _ => true

theorem forwardAt_iff {p : Program} {i : Nat} :
    p.forwardAt i = true ↔
      ∀ op operand target, p.code[i]? = some ⟨.known op, operand⟩ → op.jumps = true →
        p.jumpTarget operand = .ok target → i < target := by
  unfold forwardAt
  split
  next op operand fetch =>
    split
    next target target_ok =>
      constructor
      · intro ahead op' operand' target' fetch' jumps target_ok'
        cases fetch.symm.trans fetch'
        cases target_ok.symm.trans target_ok'
        simpa [jumps] using ahead
      · intro h
        cases jumps : op.jumps with
        | false => rfl
        | true => simpa using h op operand target fetch jumps target_ok
    next f outside =>
      refine ⟨fun _ op' operand' target' fetch' _ target_ok' => ?_, fun _ => rfl⟩
      cases fetch.symm.trans fetch'
      cases outside.symm.trans target_ok'
  next unknown =>
    refine ⟨fun _ op operand target fetch => ?_, fun _ => rfl⟩
    exact absurd fetch (unknown op operand)

instance (p : Program) : Decidable p.Forward :=
  decidable_of_iff (∀ i < p.size, p.forwardAt i = true)
    ⟨fun h i op operand target fetch =>
        forwardAt_iff.mp (h i (Array.getElem?_eq_some_iff.mp fetch).1) op operand target fetch,
      fun h i _ => forwardAt_iff.mpr (h i)⟩

end Program

namespace Machine

section

variable {p : Program} {cfg : Config} {sink : Sink} {m : Machine} {visits : List Visit}
  {ends j k n : Nat}

/-! ## Positions grow -/

/-- Whatever an instruction leads to lies behind it. -/
theorem lt_of_leads {v : Visit} {next : Nat} (forward : p.Forward)
    (stored : p.code[v.ip]? = some ⟨.known v.op, v.operand⟩) (leads : v.Leads p next) :
    v.ip < next := by
  have ahead := fun jumps => forward v.ip v.op v.operand next stored jumps
  unfold Visit.Leads at leads
  split at leads
  next => exact leads.elim
  next jump => exact ahead (by rw [jump]; rfl) leads
  next sense jumpIf =>
    rcases leads with rfl | target_ok
    · exact Nat.lt_succ_self _
    · exact ahead (by rw [jumpIf]; rfl) target_ok
  next =>
    rw [leads]
    exact Nat.lt_succ_self _

/-- A step after which the machine still runs has moved it forward. -/
theorem ip_lt_ip_succ (forward : p.Forward)
    (running : (after p cfg sink (n + 1)).Running) :
    (after p cfg sink n).ip < (after p cfg sink (n + 1)).ip := by
  cases logged_after (running_of_succ running) with
  | dispatched v here _ _ leads =>
      have stored : p.code[v.ip]? = some ⟨.known v.op, v.operand⟩ := by
        rw [here.ip]
        exact here.fetches.fetch
      have ahead := lt_of_leads forward stored (leads running)
      rwa [here.ip] at ahead
  | ended state => cases state.symm.trans running.state
  | undecoded _ _ _ fault => cases running.fault.symm.trans fault

theorem ip_lt_ip (forward : p.Forward) (running : (after p cfg sink k).Running)
    (lt : j < k) : (after p cfg sink j).ip < (after p cfg sink k).ip := by
  induction k, lt using Nat.le_induction with
  | base => exact ip_lt_ip_succ forward running
  | succ k _ ih => exact Nat.lt_trans (ih (running_of_succ running)) (ip_lt_ip_succ forward running)

/-- A machine that has run for `n` steps has come at least to position `n`. -/
theorem le_ip_of_running (forward : p.Forward) (running : (after p cfg sink n).Running) :
    n ≤ (after p cfg sink n).ip := by
  induction n with
  | zero => exact Nat.zero_le _
  | succ n ih => exact Nat.lt_of_le_of_lt (ih (running_of_succ running)) (ip_lt_ip_succ forward running)

/-! ## The end of the run -/

/-- There are not enough positions to run any longer. -/
theorem stopped_after (forward : p.Forward) (cfg : Config) (sink : Sink) :
    ¬ (after p cfg sink (p.size + 1)).Running := by
  intro running
  have low := le_ip_of_running forward running
  have high := (reachable_after p cfg sink (p.size + 1)).ip_le
  omega

/-- Each visit is of a later position than those before it. -/
theorem Traced.increasing (h : Traced p cfg m visits ends) (forward : p.Forward) :
    visits.Pairwise fun v w => v.ip < w.ip := by
  rw [List.pairwise_iff_getElem]
  intro j k hj hk lt
  have here := h.visited j _ (List.getElem?_eq_getElem hj)
  have there := h.visited k _ (List.getElem?_eq_getElem hk)
  rw [here.ip, there.ip]
  exact ip_lt_ip forward there.fetches.running lt

/-- There are no more visits than positions. -/
theorem Traced.length_le (h : Traced p cfg m visits ends) (forward : p.Forward) :
    visits.length ≤ p.size := by
  cases last : visits.length with
  | zero => exact Nat.zero_le _
  | succ k =>
      have here := h.visited k _ (List.getElem?_eq_getElem (by omega))
      have low := le_ip_of_running forward here.fetches.running
      exact Nat.lt_of_le_of_lt low (lt_size_of_fetch here.fetches.fetch)

/-- **Programs that only jump forward terminate.**  A run of a new machine halts or faults after at most
one step more than there are instructions.  It dispatches no position twice, going by the log, which has
an entry for each instruction executed, and so it executes no more instructions than there are. -/
theorem forward_run_terminates (forward : p.Forward) (cfg : Config) (sink : Sink) :
    ∃ m result, ({ sink } : Machine).run p cfg (p.size + 1) = some (m, result) ∧
      (m.state = .halted ∨ m.state = .faulted ∧ ∃ f, m.fault = some f) ∧
      ((m.events.filterMap Event.visit?).map Visit.ip).Nodup ∧
      (m.events.filterMap Event.visit?).length ≤ p.size ∧
      m.executed = UInt64.ofNat (m.events.filterMap Event.visit?).length ∧
      m.executed.toNat ≤ p.size := by
  have ran : ({ sink } : Machine).run p cfg (p.size + 1) = some (_, _) :=
    run_eq_some_iff.mpr ⟨stopped_after forward cfg sink, rfl⟩
  obtain ⟨visits, traced⟩ := (Calls.run _ ran .done).traced ((traced_new p cfg).redirect sink)
  have stopped := (agrees_of_run ran).2.not_running (agrees_of_run ran).1
  refine ⟨_, _, ran, ?_, ?_⟩
  · rcases traced.reach.stopped stopped with ⟨halted, _⟩ | ⟨f, state, faulted⟩
    · exact Or.inl halted
    · exact Or.inr ⟨state, f, faulted⟩
  · rw [traced.filterMap_visit?]
    have few := traced.length_le forward
    refine ⟨?_, few, traced.executed, ?_⟩
    · rw [List.nodup_iff_pairwise_ne, List.pairwise_map]
      exact (traced.increasing forward).imp Nat.ne_of_lt
    · rw [traced.executed, UInt64.toNat_ofNat']
      exact Nat.le_trans (Nat.mod_le _ _) few

end

/-- Jumps forward twice and then to an instruction that is not there. -/
def leapAhead : Program where
  code := #[⟨.known .loadConst, 0⟩, ⟨.known (.jumpIf true), 3⟩, ⟨.known .jump, -1⟩,
    ⟨.known .loadConst, 0⟩, ⟨.known (.jumpIf false), 7⟩, ⟨.known .jump, 6⟩, ⟨.known .jump, 8⟩]
  consts := #[1]
  names := #[]

/-- The run skips one instruction and faults at the last. -/
theorem forward_run_terminates_leapAhead :
    leapAhead.Forward ∧
      ∃ m result, ({} : Machine).run leapAhead {} 8 = some (m, result) ∧
        (m.state = .halted ∨ m.state = .faulted ∧ ∃ f, m.fault = some f) ∧
        ((m.events.filterMap Event.visit?).map Visit.ip).Nodup ∧ m.executed.toNat ≤ 7 ∧
        m.fault = some (.invalidJumpTarget 8) ∧ m.executed = 6 := by
  have forward : leapAhead.Forward := by decide +kernel
  obtain ⟨m, result, ran, ends, once, _, _, few⟩ := forward_run_terminates forward {} {}
  have evaluated : (({} : Machine).run leapAhead {} (leapAhead.size + 1)).map
      (fun r => (r.1.fault, r.1.executed)) = some (some (.invalidJumpTarget 8), 6) := by
    decide +kernel
  rw [ran] at evaluated
  obtain ⟨fault, executed⟩ := Prod.mk.inj (Option.some.inj evaluated)
  exact ⟨forward, m, result, ran, ends, once, few, fault, executed⟩

end Machine

end StackMachine
