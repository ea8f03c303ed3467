import Mathlib.Data.List.Basic
import StackMachine.Proofs.Lockstep

/-!
# Runs under two configurations

A configuration says what becomes of a result that no word can hold, and how many values the stack may
hold.  Neither matters before it is asked for.  A machine that wraps goes along with one that faults
until an overflow stops the latter (`after_wrap_eq`), and then goes on, since two operands have made
room for one result.  Two limits of the stack make no difference as long as the stack under one of
them neither overflows nor grows beyond the other (`after_limit_eq`), in whichever way the two are
ordered.
-/

namespace StackMachine

/-! ## Policies on operands -/

namespace Arith

/-- Either the policies agree on a word, or one of them overflows where the other has a result. -/
theorem resolve_agrees_or_overflows (op : Arith) (checked : Option Word) (wrapped : Word) :
    (∃ w, ∀ policy : OverflowPolicy, policy.resolve op checked wrapped = .ok w) ∨
      (OverflowPolicy.fault.resolve op checked wrapped = .error (.arithmeticOverflow op) ∧
        OverflowPolicy.wrap.resolve op checked wrapped = .ok wrapped) := by
  cases checked with
  | some w => exact Or.inl ⟨w, fun _ => rfl⟩
  | none => exact Or.inr ⟨rfl, rfl⟩

/-- Either the policies agree, on a word or on a division by zero, or one of them overflows where the
other has a result. -/
theorem eval_agrees_or_overflows (op : Arith) (a b : Word) :
    (op.eval .wrap a b = op.eval .fault a b ∧
        ∀ op', op.eval .fault a b ≠ .error (.arithmeticOverflow op')) ∨
      (op.eval .fault a b = .error (.arithmeticOverflow op) ∧ ∃ w, op.eval .wrap a b = .ok w) := by
  by_cases zero : op = .div ∧ b = 0
  · obtain ⟨rfl, rfl⟩ := zero
    exact Or.inl ⟨rfl, nofun⟩
  · obtain ⟨checked, wrapped, eval_eq⟩ : ∃ checked wrapped, ∀ policy : OverflowPolicy,
        op.eval policy a b = policy.resolve op checked wrapped := by
      cases op with
      | add | sub | mul => exact ⟨_, _, fun _ => rfl⟩
      | div => exact ⟨_, _, fun _ => if_neg fun b_zero => zero ⟨rfl, b_zero⟩⟩
    rw [eval_eq, eval_eq]
    rcases resolve_agrees_or_overflows op checked wrapped with ⟨w, same⟩ | ⟨overflow, wraps⟩
    · rw [same, same]
      exact Or.inl ⟨rfl, nofun⟩
    · exact Or.inr ⟨overflow, _, wraps⟩

/-- To wrap is never to overflow. -/
theorem eval_wrap_ne_overflow (op op' : Arith) (a b : Word) :
    op.eval .wrap a b ≠ .error (.arithmeticOverflow op') := by
  rcases op.eval_agrees_or_overflows a b with ⟨same, sound⟩ | ⟨_, w, fit⟩
  · rw [same]
    exact sound op'
  · rw [fit]
    nofun

end Arith

namespace Machine

section

variable {p : Program} {cfg : Config} {m : Machine} {limit limit' : Nat} {sink : Sink} {n : Nat}

/-! ## Policies on steps -/

theorem action_arith (p : Program) (limit : Nat) (policy : OverflowPolicy) (g : Globals)
    (arith : Arith) (w a b : Word) :
    action p ⟨limit, policy⟩ g (.arith arith) w [a, b] =
      (arith.eval policy a b >>= fun value => .ok (.push value)) := rfl

/-- Only arithmetic asks for the policy, and only if it overflows. -/
theorem action_wrap_eq {g : Globals} {op : Opcode} {w : Word} {args : List Word}
    (sound : ∀ arith, action p ⟨limit, .fault⟩ g op w args ≠ .error (.arithmeticOverflow arith)) :
    action p ⟨limit, .wrap⟩ g op w args = action p ⟨limit, .fault⟩ g op w args := by
  by_cases full : args.length = op.pops
  · cases op with
    | loadConst | loadName | jump | halt =>
        obtain rfl := List.length_eq_zero_iff.mp full
        rfl
    | storeName | jumpIf | pop | print =>
        obtain ⟨v, rfl⟩ := List.length_eq_one_iff.mp full
        rfl
    | compare rel =>
        obtain ⟨a, b, rfl⟩ := List.length_eq_two.mp full
        rfl
    | arith arith =>
        obtain ⟨a, b, rfl⟩ := List.length_eq_two.mp full
        rcases arith.eval_agrees_or_overflows a b with ⟨same, _⟩ | ⟨overflow, _⟩
        · rw [action_arith, action_arith, same]
        · refine absurd ?_ (sound arith)
          rw [action_arith, overflow]
          rfl
  · rw [action_of_length_ne full, action_of_length_ne full]

/-- A step that does not overflow is the same under both policies. -/
theorem step_wrap_eq
    (sound : ∀ arith, (m.step p ⟨limit, .fault⟩).fault ≠ some (.arithmeticOverflow arith)) :
    m.step p ⟨limit, .wrap⟩ = m.step p ⟨limit, .fault⟩ := by
  refine View.refl.step_eq ?_ ?_
  · intro op operand here
    apply action_wrap_eq
    intro arith act
    apply sound arith
    rw [here.step_eq_fail act]
    rfl
  · intro op operand a here act
    cases a <;> rfl

/-- An overflow comes from two operands of an arithmetic instruction. -/
theorem exists_operands_of_overflow {arith : Arith} (running : m.Running)
    (overflow : (m.step p cfg).fault = some (.arithmeticOverflow arith)) :
    ∃ operand a b, Fetches p m (.arith arith) operand ∧ m.operands (.arith arith) = [a, b] ∧
      arith.eval cfg.overflow a b = .error (.arithmeticOverflow arith) := by
  have ending : Step p cfg m (m.step p cfg) := step_of_running running
  generalize m.step p cfg = m' at ending overflow
  cases ending with
  | undecoded | overflowed | unprinted => cases overflow
  | ended | pushed | stored | printed | jumped | passed | halted =>
      cases running.fault.symm.trans overflow
  | @refused op operand f fetch act =>
      cases overflow
      have full : (m.operands op).length = op.pops := by
        by_contra short
        rw [action_of_length_ne short] at act
        cases act
      have refuses := refuses_of_action full act
      generalize operands_eq : m.operands op = args at refuses
      cases refuses with
      | arithmeticOverflow unfit => exact ⟨operand, _, _, ⟨running, fetch⟩, operands_eq, unfit⟩

/-- Where one policy overflows, the other finds room for its result. -/
theorem step_wrap_running {arith : Arith} (running : m.Running)
    (depth_le : m.stack.depth ≤ limit)
    (overflow : (m.step p ⟨limit, .fault⟩).fault = some (.arithmeticOverflow arith)) :
    (m.step p ⟨limit, .wrap⟩).Running := by
  obtain ⟨operand, a, b, here, operands_eq, unfit⟩ := exists_operands_of_overflow running overflow
  obtain ⟨value, fit⟩ : ∃ value, arith.eval .wrap a b = .ok value := by
    rcases arith.eval_agrees_or_overflows a b with ⟨_, sound⟩ | ⟨_, fit⟩
    · exact absurd unfit (sound arith)
    · exact fit
  have act : action p ⟨limit, .wrap⟩ m.globals (.arith arith) operand (m.operands (.arith arith)) =
      .ok (.push value) := by
    rw [operands_eq, action_arith, fit]
    rfl
  -- Two operands have made room for one result.
  have room : (m.dispatched (.arith arith) operand).stack.depth < limit := by
    have two : (m.operands (.arith arith)).length = 2 := by rw [operands_eq]; rfl
    rw [operands, Stack.length_popMany] at two
    rw [dispatched_depth]
    simp only [Opcode.pops] at two ⊢
    omega
  rw [here.step_eq_perform act, perform_push_of_lt value room]
  exact ⟨running.state, running.fault⟩

/-- No machine that wraps ever stops at an overflow. -/
theorem Reachable.fault_ne_overflow (h : Reachable p ⟨limit, .wrap⟩ m) (arith : Arith) :
    m.fault ≠ some (.arithmeticOverflow arith) := by
  refine h.holds (P := fun m => m.fault ≠ some (.arithmeticOverflow arith)) nofun
    (fun _ _ _ hsound => hsound) ?_
  intro m _ running _ _ overflow
  obtain ⟨_, a, b, _, _, unfit⟩ := exists_operands_of_overflow running overflow
  exact arith.eval_wrap_ne_overflow arith a b unfit

/-! ## Policies on runs -/

theorem after_wrap_eq
    (sound : ∀ arith,
      (after p ⟨limit, .fault⟩ sink n).fault ≠ some (.arithmeticOverflow arith))
    {k : Nat} (le : k ≤ n) :
    after p ⟨limit, .wrap⟩ sink k = after p ⟨limit, .fault⟩ sink k := by
  refine after_lockstep id rfl ?_ le
  intro k lt
  apply step_wrap_eq
  intro arith
  rw [id, ← after_succ]
  exact fault_ne_of_le lt (sound arith)

/-- The error of a run is the fault of its machine, unless it comes from the last flush. -/
theorem fault_of_run_error {fuel : Nat} {m' : Machine} {f : Fault}
    (h : m.run p cfg fuel = some (m', .error f)) :
    m'.fault = some f ∨ ∃ message, f = .output message := by
  obtain ⟨_, concluded⟩ := run_eq_some_iff.mp h
  cases recorded : ((step p cfg)^[fuel] m).fault with
  | some f' =>
      rw [conclude_of_fault recorded] at concluded
      cases concluded
      exact Or.inl recorded
  | none =>
      rw [conclude_of_sound recorded] at concluded
      have flush := congrArg Prod.snd concluded
      dsimp only [flushResult] at flush
      split at flush
      next e _ =>
        cases flush
        exact Or.inr ⟨e.message, rfl⟩
      next => cases flush

/-- **To wrap is a conservative extension.**  Before an overflow a machine that wraps is the very
machine that would fault.  Where the latter stops at an overflow, the former has done all the same
steps before and is still running after this one.  No overflow ever stops it, and none is the result
of a run. -/
theorem wrap_extends_fault (p : Program) (limit : Nat) (sink : Sink) :
    (∀ n, (∀ arith,
        (after p ⟨limit, .fault⟩ sink n).fault ≠ some (.arithmeticOverflow arith)) →
      after p ⟨limit, .wrap⟩ sink n = after p ⟨limit, .fault⟩ sink n) ∧
    (∀ n arith, (after p ⟨limit, .fault⟩ sink n).state = .running →
      (after p ⟨limit, .fault⟩ sink (n + 1)).fault = some (.arithmeticOverflow arith) →
        (∀ k ≤ n, after p ⟨limit, .wrap⟩ sink k = after p ⟨limit, .fault⟩ sink k) ∧
          (after p ⟨limit, .wrap⟩ sink (n + 1)).state = .running) ∧
    (∀ n arith, (after p ⟨limit, .wrap⟩ sink n).fault ≠ some (.arithmeticOverflow arith)) ∧
    (∀ fuel m' arith, ({ sink } : Machine).run p ⟨limit, .wrap⟩ fuel ≠
      some (m', .error (.arithmeticOverflow arith))) := by
  refine ⟨?_, ?_, ?_, ?_⟩
  · intro n sound
    exact after_wrap_eq sound (Nat.le_refl n)
  · intro n arith state overflow
    have reach := reachable_after p ⟨limit, .fault⟩ sink n
    have running := reach.running state
    have same : ∀ k ≤ n, after p ⟨limit, .wrap⟩ sink k = after p ⟨limit, .fault⟩ sink k := by
      intro k le
      exact after_wrap_eq (by simp [running.fault]) le
    refine ⟨same, ?_⟩
    rw [after_succ] at overflow
    rw [after_succ, same n (Nat.le_refl n)]
    exact (step_wrap_running running reach.depth_le overflow).state
  · intro n arith
    exact (reachable_after p ⟨limit, .wrap⟩ sink n).fault_ne_overflow arith
  · intro fuel m' arith ran
    have reach : Reachable p ⟨limit, .wrap⟩ m' := .run fuel (.fresh sink []) ran
    rcases fault_of_run_error ran with faulted | ⟨message, flush⟩
    · exact reach.fault_ne_overflow arith faulted
    · cases flush

end

/-- Squares a global again and again. -/
def squaring : Program where
  code := #[⟨.known .loadConst, 0⟩, ⟨.known .storeName, 0⟩,
    ⟨.known .loadName, 0⟩, ⟨.known .loadName, 0⟩, ⟨.known (.arith .mul), 0⟩,
    ⟨.known .storeName, 0⟩, ⟨.known .jump, 2⟩]
  consts := #[65536]
  names := #["x"]

/-- The second square of `2^16` does not fit a word.  The machine that wraps has been the same until
then, and goes on with the lower half of the square. -/
theorem wrap_extends_fault_squaring :
    (∀ arith, (after squaring ⟨2, .fault⟩ {} 9).fault ≠ some (.arithmeticOverflow arith)) ∧
      after squaring ⟨2, .wrap⟩ {} 9 = after squaring ⟨2, .fault⟩ {} 9 ∧
      (after squaring ⟨2, .fault⟩ {} 9).state = .running ∧
      (after squaring ⟨2, .fault⟩ {} 10).fault = some (.arithmeticOverflow .mul) ∧
      (after squaring ⟨2, .wrap⟩ {} 10).state = .running ∧
      (after squaring ⟨2, .wrap⟩ {} 10).stack.toList = [0] ∧
      ∀ n arith, (after squaring ⟨2, .wrap⟩ {} n).fault ≠ some (.arithmeticOverflow arith) := by
  obtain ⟨before, at_overflow, never, _⟩ := wrap_extends_fault squaring 2 {}
  have running : (after squaring ⟨2, .fault⟩ {} 9).Running := by decide +kernel
  have overflow : (after squaring ⟨2, .fault⟩ {} 10).fault = some (.arithmeticOverflow .mul) := by
    decide +kernel
  have sound : ∀ arith,
      (after squaring ⟨2, .fault⟩ {} 9).fault ≠ some (.arithmeticOverflow arith) := by
    simp [running.fault]
  exact ⟨sound, before 9 sound, running.state, overflow, (at_overflow 9 .mul running.state overflow).2,
    by decide +kernel, never⟩

/-! ## Limits on steps -/

section

variable {p : Program} {overflow : OverflowPolicy} {m : Machine} {limit limit' : Nat} {sink : Sink}
  {k n : Nat}

/-- A step under one limit that does not overflow the stack, and leaves no more on it than another
limit allows, is the same under the other. -/
theorem step_limit_eq
    (sound : ∀ full, (m.step p ⟨limit, overflow⟩).fault ≠ some (.stackOverflow full))
    (within : (m.step p ⟨limit, overflow⟩).stack.depth ≤ limit') :
    m.step p ⟨limit', overflow⟩ = m.step p ⟨limit, overflow⟩ := by
  refine View.refl.step_eq (fun _ _ _ => rfl) ?_
  intro op operand a here act
  rw [here.step_eq_perform act] at sound within
  cases a with
  | store | print | jump | next | halt => rfl
  | push value =>
      by_cases room : (m.dispatched op operand).stack.depth < limit
      · -- The value is on the stack after the step, and there was room for it before.
        rw [perform_push_of_lt value room] at within
        have room' : (m.dispatched op operand).stack.depth < limit' := within
        exact (perform_push_of_lt value room').trans (perform_push_of_lt value room).symm
      · refine absurd ?_ (sound limit)
        rw [perform_push_of_le value (Nat.le_of_not_lt room)]
        rfl

/-! ## Limits on runs -/

/-- Neither limit matters as long as the stack under one of them does not overflow and stays within
the other. -/
theorem after_limit_eq
    (sound : ∀ full, (after p ⟨limit, overflow⟩ sink n).fault ≠ some (.stackOverflow full))
    (within : ∀ k ≤ n, (after p ⟨limit, overflow⟩ sink k).stack.depth ≤ limit') (le : k ≤ n) :
    after p ⟨limit', overflow⟩ sink k = after p ⟨limit, overflow⟩ sink k := by
  refine after_lockstep id rfl ?_ le
  intro k lt
  apply step_limit_eq
  · intro full
    rw [id, ← after_succ]
    exact fault_ne_of_le lt (sound full)
  · rw [id, ← after_succ]
    exact within (k + 1) lt

/-- **A larger stack changes nothing before the smaller one is full.**  A run that does not overflow
its stack is the same run with any larger limit.  Conversely, a run whose stack never grows beyond a
smaller limit, and does not overflow either, is the same run with that limit. -/
theorem stack_limit_monotone (p : Program) (overflow : OverflowPolicy) (sink : Sink)
    {small large : Nat} (le : small ≤ large) (n : Nat) :
    ((∀ full, (after p ⟨small, overflow⟩ sink n).fault ≠ some (.stackOverflow full)) →
      ∀ k ≤ n, after p ⟨large, overflow⟩ sink k = after p ⟨small, overflow⟩ sink k) ∧
    ((∀ k ≤ n, (after p ⟨large, overflow⟩ sink k).stack.depth ≤ small) →
      (∀ full, (after p ⟨large, overflow⟩ sink n).fault ≠ some (.stackOverflow full)) →
        ∀ k ≤ n, after p ⟨small, overflow⟩ sink k = after p ⟨large, overflow⟩ sink k) := by
  constructor
  · intro sound k
    apply after_limit_eq sound
    intro k _
    exact Nat.le_trans (reachable_after p ⟨small, overflow⟩ sink k).depth_le le
  · intro within sound k
    exact after_limit_eq sound within

end

/-- Squaring needs room for two values at a time, however long it goes on. -/
theorem stack_limit_monotone_squaring :
    2 ≤ defaultMaxStack ∧
      (∀ full, (after squaring ⟨2, .wrap⟩ {} 13).fault ≠ some (.stackOverflow full)) ∧
      (∀ k ≤ 13, after squaring ⟨defaultMaxStack, .wrap⟩ {} k = after squaring ⟨2, .wrap⟩ {} k) ∧
      (∀ k ≤ 13, (after squaring ⟨defaultMaxStack, .wrap⟩ {} k).stack.depth ≤ 2) ∧
      (∀ full, (after squaring ⟨defaultMaxStack, .wrap⟩ {} 13).fault ≠
        some (.stackOverflow full)) ∧
      ∀ k ≤ 13, after squaring ⟨2, .wrap⟩ {} k = after squaring ⟨defaultMaxStack, .wrap⟩ {} k := by
  have le : 2 ≤ defaultMaxStack := by decide
  obtain ⟨raise, lower⟩ := stack_limit_monotone squaring .wrap {} le 13
  have small : (after squaring ⟨2, .wrap⟩ {} 13).fault = none := by decide +kernel
  have large : (after squaring ⟨defaultMaxStack, .wrap⟩ {} 13).fault = none := by
    decide +kernel
  have within : ∀ k ≤ 13, (after squaring ⟨defaultMaxStack, .wrap⟩ {} k).stack.depth ≤ 2 := by
    decide +kernel
  exact ⟨le, by simp [small], raise (by simp [small]), within, by simp [large],
    lower within (by simp [large])⟩

end Machine

end StackMachine
