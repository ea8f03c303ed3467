import Mathlib.Data.Int.ModEq
import StackMachine.Proofs.Snapshots

/-!
# Exact arithmetic

Sums, differences, products and quotients are compared with those of the integers.  `Arith.Exact` says
which integer is meant, for quotients by their size and their sign.  A result that a word can hold is
left on the stack, whatever the policy.  Any other is an overflow: it is flagged, or replaced by the one
word that agrees with it modulo `2^64`.  Among all quotients there is one overflow only, that of the
least word by minus one.
-/

namespace StackMachine

/-! ## Integers that words stand for -/

namespace Word

/-- The integers that words stand for. -/
def InRange (r : Int) : Prop :=
  -2 ^ 63 ≤ r ∧ r < 2 ^ 63

theorem inRange_toInt (w : Word) : InRange w.toInt :=
  ⟨w.le_toInt, w.toInt_lt⟩

theorem exists_toInt_eq {r : Int} (h : InRange r) : ∃ w : Word, w.toInt = r :=
  ⟨Int64.ofInt r, Int64.toInt_ofInt_of_le h.1 h.2⟩

theorem ofInt?_eq_none {r : Int} (h : ¬ InRange r) : ofInt? r = none := by
  cases found : ofInt? r with
  | none => rfl
  | some w =>
      rw [ofInt?_eq_some_iff] at found
      exact absurd (found ▸ inRange_toInt w) h

/-- Every integer agrees with one word modulo `2^64`. -/
theorem modEq_iff_eq_ofInt {w : Word} {r : Int} :
    w.toInt ≡ r [ZMOD 2 ^ 64] ↔ w = Int64.ofInt r := by
  constructor
  · intro h
    have same : w.toInt.bmod (2 ^ 64) = r.bmod (2 ^ 64) := by
      rw [← Int.emod_bmod, ← Int.emod_bmod r]
      exact congrArg (Int.bmod · (2 ^ 64)) h
    rw [eq_comm, Int64.ofInt_eq_iff_bmod_eq_toInt, ← same]
    exact ((Int64.ofInt_eq_iff_bmod_eq_toInt _ _).mp (Int64.ofInt_toInt w))
  · rintro rfl
    rw [Int64.toInt_ofInt]
    exact Int.bmod_emod

end Word

/-! ## Results among the integers -/

namespace Arith

/-- The integer `r` is the exact result of the operation.  A quotient has the size of the quotient of
the sizes, rounded down, and it is negative exactly if the signs differ, unless it is zero. -/
inductive Exact : Arith → Int → Int → Int → Prop where
  | add (a b : Int) : Exact .add a b (a + b)
  | sub (a b : Int) : Exact .sub a b (a - b)
  | mul (a b : Int) : Exact .mul a b (a * b)
  | div {a b q : Int} (size : q.natAbs = a.natAbs / b.natAbs)
      (sign : q ≠ 0 → (q < 0 ↔ a.sign ≠ b.sign)) : Exact .div a b q

theorem tdiv_neg_iff {a b : Int} (h : a.tdiv b ≠ 0) : a.tdiv b < 0 ↔ a.sign ≠ b.sign := by
  have ha : a ≠ 0 := by
    rintro rfl
    exact h (Int.zero_tdiv b)
  have hb : b ≠ 0 := by
    rintro rfl
    exact h (Int.tdiv_zero a)
  have sign_eq : (a.tdiv b).sign = a.sign * b.sign := by
    rw [Int.sign_tdiv]
    refine if_neg fun smaller => h ?_
    exact Int.sign_eq_zero_iff_zero.mp ((Int.sign_tdiv a b).trans (if_pos smaller))
  rw [← Int.sign_eq_neg_one_iff_neg, sign_eq]
  rcases Int.lt_or_gt_of_ne ha with ha | ha <;> rcases Int.lt_or_gt_of_ne hb with hb | hb <;>
    simp [ha, hb, Int.sign_eq_neg_one_of_neg, Int.sign_eq_one_of_pos]

theorem exact_tdiv (a b : Int) : Exact .div a b (a.tdiv b) :=
  .div (Int.natAbs_tdiv a b) tdiv_neg_iff

/-- Size and sign leave no choice. -/
theorem eq_tdiv_of_exact {a b q : Int} (h : Exact .div a b q) : q = a.tdiv b := by
  cases h with
  | div size sign =>
      have size_eq : q.natAbs = (a.tdiv b).natAbs := size.trans (Int.natAbs_tdiv a b).symm
      rcases Int.natAbs_eq_natAbs_iff.mp size_eq with same | opposite
      · exact same
      · by_cases zero : a.tdiv b = 0
        · rw [opposite, zero, Int.neg_zero]
        · -- Both are negative, or neither is.
          have signs := (tdiv_neg_iff zero).trans (sign (by omega)).symm
          omega

/-- The exact result. -/
def exact : Arith → Int → Int → Int
  | add, a, b => a + b
  | sub, a, b => a - b
  | mul, a, b => a * b
  | div, a, b => a.tdiv b

theorem exact_iff {op : Arith} {a b r : Int} : Exact op a b r ↔ r = op.exact a b := by
  constructor
  · intro h
    cases h with
    | add | sub | mul => rfl
    | div size sign => exact eq_tdiv_of_exact (.div size sign)
  · rintro rfl
    cases op with
    | add => exact .add a b
    | sub => exact .sub a b
    | mul => exact .mul a b
    | div => exact exact_tdiv a b

/-- There is one quotient that no word can hold. -/
theorem not_inRange_quotient_iff {a b q : Int} (h : Exact .div a b q) (inRange : Word.InRange a) :
    ¬ Word.InRange q ↔ a = -2 ^ 63 ∧ b = -1 := by
  obtain ⟨low, high⟩ := inRange
  cases h with
  | div size sign =>
      constructor
      · intro unfit
        have smaller : a.natAbs / b.natAbs ≤ a.natAbs := Nat.div_le_self _ _
        -- Its size is at most that of `a`, so it is just one too large.
        have q_eq : q = 2 ^ 63 := by
          unfold Word.InRange at unfit
          omega
        have b_size : b.natAbs = 1 := by
          by_contra other
          rcases Nat.eq_zero_or_pos b.natAbs with zero | positive
          · rw [zero, Nat.div_zero] at size
            omega
          · have halved : a.natAbs / b.natAbs ≤ a.natAbs / 2 :=
              Nat.div_le_div_left (by omega) (by decide)
            omega
        rw [b_size, Nat.div_one] at size
        have a_eq : a = -2 ^ 63 := by omega
        refine ⟨a_eq, ?_⟩
        rcases Int.natAbs_eq b with positive | negative
        · rw [a_eq, positive, b_size] at sign
          exact absurd ((sign (by omega)).mpr (by decide)) (by omega)
        · rw [negative, b_size]
          rfl
      · rintro ⟨rfl, rfl⟩ fits
        have q_size : q.natAbs = 2 ^ 63 := size
        have nonneg : ¬ q < 0 := fun negative => (sign (by omega)).mp negative rfl
        have below : q < 2 ^ 63 := fits.2
        omega

/-! ## Results on words -/

section

variable {op : Arith} {a b w : Word} {r : Int} {policy : OverflowPolicy}

theorem quotient_eq_ofInt (a b : Word) : a / b = Int64.ofInt (a.toInt.tdiv b.toInt) := by
  rw [← Int64.toInt_inj, Int64.toInt_div, Int64.toInt_ofInt]

/-- Unless it divides by zero, each operation resolves its exact result: the checked one is the word
that stands for it, and the wrapped one agrees with it. -/
theorem eval_eq_resolve (defined : ¬ (op = .div ∧ b = 0)) :
    op.eval policy a b = policy.resolve op (Word.ofInt? (op.exact a.toInt b.toInt))
      (Int64.ofInt (op.exact a.toInt b.toInt)) := by
  cases op with
  | add =>
      rw [exact, Int64.ofInt_add, Int64.ofInt_toInt, Int64.ofInt_toInt]
      rfl
  | sub =>
      rw [exact, Int64.ofInt_sub, Int64.ofInt_toInt, Int64.ofInt_toInt]
      rfl
  | mul =>
      rw [exact, Int64.ofInt_mul, Int64.ofInt_toInt, Int64.ofInt_toInt]
      rfl
  | div =>
      have divisor : b ≠ 0 := fun zero => defined ⟨rfl, zero⟩
      rw [eval, divide, if_neg divisor, Word.checkedDiv, if_neg divisor, quotient_eq_ofInt]
      rfl

/-- A result that a word can hold is the same under every policy. -/
theorem eval_of_exact (defined : ¬ (op = .div ∧ b = 0)) (exact : op.Exact a.toInt b.toInt w.toInt) :
    op.eval policy a b = .ok w := by
  rw [exact_iff] at exact
  rw [eval_eq_resolve defined, ← exact, Word.ofInt?_toInt]
  rfl

theorem eval_fault_of_not_inRange (defined : ¬ (op = .div ∧ b = 0))
    (exact : op.Exact a.toInt b.toInt r) (unfit : ¬ Word.InRange r) :
    op.eval .fault a b = .error (.arithmeticOverflow op) := by
  rw [exact_iff] at exact
  rw [eval_eq_resolve defined, ← exact, Word.ofInt?_eq_none unfit]
  rfl

theorem eval_wrap_of_not_inRange (defined : ¬ (op = .div ∧ b = 0))
    (exact : op.Exact a.toInt b.toInt r) (unfit : ¬ Word.InRange r) :
    op.eval .wrap a b = .ok (Int64.ofInt r) := by
  rw [exact_iff] at exact
  rw [eval_eq_resolve defined, ← exact, Word.ofInt?_eq_none unfit]
  rfl

end

end Arith

/-! ## Steps that compute -/

namespace Machine

/-- The next step succeeds and leaves these values on the stack, the bottom one first. -/
def Leaves (p : Program) (cfg : Config) (m : Machine) (values : List Word) : Prop :=
  (m.step p cfg).report = .ok .running ∧ (m.step p cfg).stack.toList = values

section

variable {p : Program} {cfg : Config} {m : Machine} {op : Arith} {operand a b w : Word}
  {s : List Word}

/-- A result finds room on the stack, since its operands have left it. -/
theorem leaves_of_eval (reach : Reachable p cfg m) (here : Fetches p m (.arith op) operand)
    (stack_eq : m.stack.toList = s ++ [a, b]) (value : op.eval cfg.overflow a b = .ok w) :
    Leaves p cfg m (s ++ [w]) := by
  have room : s.length < cfg.maxStack := by
    have depth_le := reach.depth_le
    rw [← Stack.length_toList, stack_eq, List.length_append] at depth_le
    exact Nat.lt_of_lt_of_le (by simp) depth_le
  have looks : m.snapshot = ⟨.running, none, m.ip, s ++ [a, b], m.globals, m.sink⟩ := by
    rw [← stack_eq, ← here.running.state, ← here.running.fault]
    rfl
  obtain ⟨after_eq, _⟩ := (runs_of_acts s here.fetch (.arith value) room).leads m looks
  have state_eq : (m.step p cfg).state = .running := congrArg Snapshot.state after_eq
  have fault_eq : (m.step p cfg).fault = none := congrArg Snapshot.fault after_eq
  exact ⟨by simp [report, state_eq, fault_eq], congrArg Snapshot.stack after_eq⟩

theorem report_of_refuses {f : Fault} (here : Fetches p m (.arith op) operand)
    (stack_eq : m.stack.toList = s ++ [a, b])
    (refuses : Refuses p cfg m.globals (.arith op) operand [a, b] f) :
    (m.step p cfg).report = .error f := by
  have taken : m.operands (.arith op) = [a, b] := (Stack.popMany_of_toList stack_eq).1
  have act : action p cfg m.globals (.arith op) operand (m.operands (.arith op)) = .error f := by
    rw [taken, refuses.action_eq]
  rw [here.step_eq_fail act]
  rfl

/-- **Arithmetic is exact or flagged.**  Let `a` and `b` be the operands of an arithmetic instruction, `b`
on top.  A division by zero is a fault.  Everything else has one exact result `r` among the integers.
If a word can hold it, the step leaves it on the stack under either policy.  Otherwise the step faults,
naming the operation, or it leaves the one word that agrees with `r` modulo `2^64`, as the policy says.

For a quotient the second case is that of the least word by minus one, and what is left when it wraps
is the least word again. -/
theorem arithmetic_exact_or_flagged (reach : Reachable p cfg m)
    (here : Fetches p m (.arith op) operand) (stack_eq : m.stack.toList = s ++ [a, b]) :
    (op = .div ∧ b = 0 → (m.step p cfg).report = .error .divisionByZero) ∧
    (¬ (op = .div ∧ b = 0) →
      (∃! r, op.Exact a.toInt b.toInt r) ∧
      ∀ r, op.Exact a.toInt b.toInt r →
        (Word.InRange r → ∃ w, w.toInt = r ∧ Leaves p cfg m (s ++ [w])) ∧
        (¬ Word.InRange r → cfg.overflow = .fault →
          (m.step p cfg).report = .error (.arithmeticOverflow op)) ∧
        (¬ Word.InRange r → cfg.overflow = .wrap →
          ∃ w, (∀ v : Word, v.toInt ≡ r [ZMOD 2 ^ 64] ↔ v = w) ∧ Leaves p cfg m (s ++ [w])) ∧
        (op = .div → (¬ Word.InRange r ↔ a.toInt = -2 ^ 63 ∧ b.toInt = -1) ∧
          (¬ Word.InRange r → cfg.overflow = .wrap →
            ∃ w, w.toInt = -2 ^ 63 ∧ Leaves p cfg m (s ++ [w])))) := by
  constructor
  · rintro ⟨rfl, rfl⟩
    exact report_of_refuses here stack_eq .divisionByZero
  · intro defined
    refine ⟨⟨_, Arith.exact_iff.mpr rfl, fun _ => Arith.exact_iff.mp⟩, ?_⟩
    intro r exact
    have wraps : ¬ Word.InRange r → cfg.overflow = .wrap →
        Leaves p cfg m (s ++ [Int64.ofInt r]) := by
      intro unfit policy
      apply leaves_of_eval reach here stack_eq
      rw [policy]
      exact Arith.eval_wrap_of_not_inRange defined exact unfit
    refine ⟨?_, ?_, ?_, ?_⟩
    · intro fits
      obtain ⟨w, rfl⟩ := Word.exists_toInt_eq fits
      exact ⟨w, rfl, leaves_of_eval reach here stack_eq (Arith.eval_of_exact defined exact)⟩
    · intro unfit policy
      apply report_of_refuses here stack_eq
      apply Refuses.arithmeticOverflow
      rw [policy]
      exact Arith.eval_fault_of_not_inRange defined exact unfit
    · intro unfit policy
      exact ⟨_, fun _ => Word.modEq_iff_eq_ofInt, wraps unfit policy⟩
    · rintro rfl
      have overflow := Arith.not_inRange_quotient_iff exact (Word.inRange_toInt a)
      refine ⟨overflow, ?_⟩
      intro unfit policy
      obtain ⟨least, minusOne⟩ := overflow.mp unfit
      refine ⟨_, ?_, wraps unfit policy⟩
      rw [Arith.eq_tdiv_of_exact exact, least, minusOne]
      decide

end

/-- Pushes two constants and computes with them. -/
def compute (op : Arith) (a b : Word) : Program where
  code := #[⟨.known .loadConst, 0⟩, ⟨.known .loadConst, 1⟩, ⟨.known (.arith op), 0⟩]
  consts := #[a, b]
  names := #[]

theorem runs_compute (op : Arith) (a b : Word) (policy : OverflowPolicy) (s : Sink) :
    Runs (compute op a b) ⟨2, policy⟩ 2 ⟨.running, none, 0, [], {}, s⟩
      ⟨.running, none, 2, [a, b], {}, s⟩ := by
  have first : Runs (compute op a b) ⟨2, policy⟩ 1 ⟨.running, none, 0, [], {}, s⟩
      ⟨.running, none, 1, [a], {}, s⟩ := runs_of_acts [] rfl (.loadConst rfl) Nat.two_pos
  have second : Runs (compute op a b) ⟨2, policy⟩ 1 ⟨.running, none, 1, [a], {}, s⟩
      ⟨.running, none, 2, [a, b], {}, s⟩ := runs_of_acts [a] rfl (.loadConst rfl) Nat.one_lt_two
  exact first.trans second

/-- A quotient of mixed signs is cut toward zero.  The least word by minus one is an overflow, or the
least word again.  To divide by zero is a fault even where results wrap. -/
theorem arithmetic_exact_or_flagged_compute :
    (∃ w, w.toInt = -3 ∧
      Leaves (compute .div (-7) 2) ⟨2, .fault⟩ (after (compute .div (-7) 2) ⟨2, .fault⟩ {} 2) [w]) ∧
    ((after (compute .div Int64.minValue (-1)) ⟨2, .fault⟩ {} 2).step
      (compute .div Int64.minValue (-1)) ⟨2, .fault⟩).report = .error (.arithmeticOverflow .div) ∧
    (∃ w, w.toInt = -2 ^ 63 ∧ Leaves (compute .div Int64.minValue (-1)) ⟨2, .wrap⟩
      (after (compute .div Int64.minValue (-1)) ⟨2, .wrap⟩ {} 2) [w]) ∧
    ((after (compute .div 5 0) ⟨2, .wrap⟩ {} 2).step (compute .div 5 0) ⟨2, .wrap⟩).report =
      .error .divisionByZero := by
  have looks : ∀ a b policy, (after (compute .div a b) ⟨2, policy⟩ {} 2).snapshot =
      ⟨.running, none, 2, [] ++ [a, b], {}, {}⟩ :=
    fun a b policy => ((runs_compute .div a b policy {}).leads {} rfl).1
  have computes := fun (a b : Word) (policy : OverflowPolicy) =>
    arithmetic_exact_or_flagged (reachable_after (compute .div a b) ⟨2, policy⟩ {} 2)
      (fetches_of_snapshot (looks a b policy) rfl) (toList_of_snapshot (looks a b policy))
  obtain ⟨_, quotient⟩ := (computes (-7) 2 .fault).2 (by decide)
  obtain ⟨_, faults⟩ := (computes Int64.minValue (-1) .fault).2 (by decide)
  obtain ⟨_, wraps⟩ := (computes Int64.minValue (-1) .wrap).2 (by decide)
  obtain ⟨fits, _⟩ := quotient (-3) (.div (by decide) (by decide))
  obtain ⟨_, flagged, _, overflow⟩ := faults _ (Arith.exact_tdiv _ _)
  obtain ⟨_, _, _, least⟩ := wraps _ (Arith.exact_tdiv _ _)
  have unfit := (overflow rfl).1.mpr ⟨Int64.toInt_minValue, by decide⟩
  exact ⟨fits ⟨by decide, by decide⟩, flagged unfit rfl, (least rfl).2 unfit rfl,
    (computes 5 0 .wrap).1 ⟨rfl, rfl⟩⟩

end Machine

end StackMachine
