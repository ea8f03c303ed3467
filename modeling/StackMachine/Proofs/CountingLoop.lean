import StackMachine.Proofs.ExactArithmetic

/-!
# A loop that counts

A program counts a global up from zero as long as it is below a constant `n`, and prints it each time.
The machine comes to the head of the loop again and again, each time with an empty stack, the global one
larger and one more line in the sink; ten instructions lead from one time to the next (`runs_round`).
From there an induction over the rounds gives the whole run, for every `n`.
-/

namespace StackMachine

namespace Machine

/-- Prints the numbers from zero to `n`, without `n`. -/
def countingLoop (n : Word) : Program where
  code := #[
    -- Start at zero, and go to the condition.
    ⟨.known .loadConst, 0⟩, ⟨.known .storeName, 0⟩, ⟨.known .jump, 9⟩,
    -- Print the number and add one.
    ⟨.known .loadName, 0⟩, ⟨.known .print, 0⟩,
    ⟨.known .loadName, 0⟩, ⟨.known .loadConst, 1⟩, ⟨.known (.arith .add), 0⟩, ⟨.known .storeName, 0⟩,
    -- Go on as long as it is below the constant.
    ⟨.known .loadName, 0⟩, ⟨.known .loadConst, 2⟩, ⟨.known (.compare .lt), 0⟩,
    ⟨.known (.jumpIf true), 3⟩, ⟨.known .halt, 0⟩]
  consts := #[0, 1, n]
  names := #["i"]

/-- The globals of the loop. -/
def counter (w : Word) : Globals :=
  ⟨[("i", w)]⟩

/-- The numbers below `k` in decimal, in order and each on a line of its own. -/
def numberLines (k : Nat) : List UInt8 :=
  (List.range k).flatMap fun i => Utf8.encode (toString i ++ "\n")

/-- At the head of the loop, where the condition is looked at. -/
def atHead (w : Word) (s : Sink) : Snapshot :=
  ⟨.running, none, 9, [], counter w, s⟩

theorem load_counter (w : Word) : (counter w).load "i" = .ok w := rfl

section

variable {n w v : Word} {cfg : Config} {s : Sink}

theorem runs_start (two : 2 ≤ cfg.maxStack) :
    Runs (countingLoop n) cfg 3 ⟨.running, none, 0, [], {}, s⟩ (atHead 0 s) := by
  have load : Runs (countingLoop n) cfg 1 ⟨.running, none, 0, [], {}, s⟩
      ⟨.running, none, 1, [0], {}, s⟩ :=
    runs_of_acts [] rfl (.loadConst rfl) (Nat.lt_of_lt_of_le Nat.two_pos two)
  have store : Runs (countingLoop n) cfg 1 ⟨.running, none, 1, [0], {}, s⟩
      ⟨.running, none, 2, [], counter 0, s⟩ := runs_of_acts [] rfl (.storeName rfl) trivial
  have jump : Runs (countingLoop n) cfg 1 ⟨.running, none, 2, [], counter 0, s⟩ (atHead 0 s) :=
    runs_of_acts [] rfl (.jump rfl) trivial
  exact (load.trans store).trans jump

/-- The condition is left on the stack. -/
theorem runs_condition (two : 2 ≤ cfg.maxStack) :
    Runs (countingLoop n) cfg 3 (atHead w s)
      ⟨.running, none, 12, [Word.ofBool (decide (w < n))], counter w, s⟩ := by
  have one : 0 < cfg.maxStack := Nat.lt_of_lt_of_le Nat.two_pos two
  have load : Runs (countingLoop n) cfg 1 (atHead w s) ⟨.running, none, 10, [w], counter w, s⟩ :=
    runs_of_acts [] rfl (.loadName rfl (load_counter w)) one
  have limit : Runs (countingLoop n) cfg 1 ⟨.running, none, 10, [w], counter w, s⟩
      ⟨.running, none, 11, [w, n], counter w, s⟩ := runs_of_acts [w] rfl (.loadConst rfl) two
  have pushes : Acts (countingLoop n) cfg (counter w) (.compare .lt) 0 [w, n]
      (.push (Word.ofBool (decide (w < n)))) := .compare
  have compare : Runs (countingLoop n) cfg 1 ⟨.running, none, 11, [w, n], counter w, s⟩
      ⟨.running, none, 12, [Word.ofBool (decide (w < n))], counter w, s⟩ :=
    runs_of_acts [] rfl pushes one
  exact (load.trans limit).trans compare

/-- What is printed goes to the sink, and the number grows by one. -/
theorem runs_body {s' : Sink} (two : 2 ≤ cfg.maxStack)
    (write : s.write (Utf8.encode (Decimal.ofWord w ++ "\n")) = (s', none))
    (next : v.toInt = w.toInt + 1) :
    Runs (countingLoop n) cfg 6 ⟨.running, none, 3, [], counter w, s⟩ (atHead v s') := by
  have one : 0 < cfg.maxStack := Nat.lt_of_lt_of_le Nat.two_pos two
  have sum : Arith.add.eval cfg.overflow w 1 = .ok v := by
    refine Arith.eval_of_exact nofun ?_
    rw [next]
    exact .add w.toInt 1
  have shown : Runs (countingLoop n) cfg 1 ⟨.running, none, 3, [], counter w, s⟩
      ⟨.running, none, 4, [w], counter w, s⟩ :=
    runs_of_acts [] rfl (.loadName rfl (load_counter w)) one
  have print : Runs (countingLoop n) cfg 1 ⟨.running, none, 4, [w], counter w, s⟩
      ⟨.running, none, 5, [], counter w, s'⟩ := runs_print [] rfl write
  have load : Runs (countingLoop n) cfg 1 ⟨.running, none, 5, [], counter w, s'⟩
      ⟨.running, none, 6, [w], counter w, s'⟩ :=
    runs_of_acts [] rfl (.loadName rfl (load_counter w)) one
  have increment : Runs (countingLoop n) cfg 1 ⟨.running, none, 6, [w], counter w, s'⟩
      ⟨.running, none, 7, [w, 1], counter w, s'⟩ := runs_of_acts [w] rfl (.loadConst rfl) two
  have add : Runs (countingLoop n) cfg 1 ⟨.running, none, 7, [w, 1], counter w, s'⟩
      ⟨.running, none, 8, [v], counter w, s'⟩ := runs_of_acts [] rfl (.arith sum) one
  have stores : Acts (countingLoop n) cfg (counter w) .storeName 0 [v] (.store "i" v) :=
    .storeName rfl
  have store : Runs (countingLoop n) cfg 1 ⟨.running, none, 8, [v], counter w, s'⟩ (atHead v s') :=
    runs_of_acts [] rfl stores trivial
  exact ((((shown.trans print).trans load).trans increment).trans add).trans store

/-- The last number is not printed any more. -/
theorem runs_exit (two : 2 ≤ cfg.maxStack) (reached : ¬ w < n) :
    Runs (countingLoop n) cfg 5 (atHead w s) ⟨.halted, none, 13, [], counter w, s⟩ := by
  have condition := runs_condition (n := n) (w := w) (s := s) two
  rw [decide_eq_false reached] at condition
  have leave : Runs (countingLoop n) cfg 1 ⟨.running, none, 12, [Word.ofBool false], counter w, s⟩
      ⟨.running, none, 13, [], counter w, s⟩ :=
    runs_of_acts [] rfl (.untaken (by decide)) trivial
  have halt : Runs (countingLoop n) cfg 1 ⟨.running, none, 13, [], counter w, s⟩
      ⟨.halted, none, 13, [], counter w, s⟩ :=
    runs_of_acts [] rfl .halt trivial
  exact (condition.trans leave).trans halt

/-! ## Rounds -/

/-- The number that the loop counts to is a word, since it is not larger than `n`. -/
theorem toInt_ofNat_toNat (n : Word) : (Int64.ofNat n.toInt.toNat).toInt = max n.toInt 0 := by
  have high := n.toInt_lt
  rw [Int64.toInt_ofNat_of_lt (by omega)]
  omega

theorem numberLines_succ (k : Nat) :
    numberLines (k + 1) = numberLines k ++ Utf8.encode (toString k ++ "\n") := by
  simp [numberLines, List.range_succ]

/-- The sink with the lines of the numbers below `k`. -/
def counted (s : Sink) (k : Nat) : Sink :=
  { s with taken := (numberLines k).reverse ++ s.taken }

theorem ofWord_eq_toString {k : Nat} (h : w.toInt = k) : Decimal.ofWord w = toString k := by
  rw [Decimal.ofWord, h, Decimal.ofInt, if_neg (by omega)]
  rfl

theorem write_counted {k : Nat} (unlimited : s.room = none) (h : w.toInt = k) :
    (counted s k).write (Utf8.encode (Decimal.ofWord w ++ "\n")) = (counted s (k + 1), none) := by
  have room : (counted s k).room = none := unlimited
  rw [Sink.write_unlimited room, ofWord_eq_toString h]
  simp [counted, numberLines_succ]

/-- **One round of the loop.** -/
theorem runs_round {k : Nat} (two : 2 ≤ cfg.maxStack) (unlimited : s.room = none)
    (below : k < n.toInt) :
    Runs (countingLoop n) cfg 10 (atHead (Int64.ofNat k) (counted s k))
      (atHead (Int64.ofNat (k + 1)) (counted s (k + 1))) := by
  have high := n.toInt_lt
  have now : (Int64.ofNat k).toInt = k := Int64.toInt_ofNat_of_lt (by omega)
  have next : (Int64.ofNat (k + 1)).toInt = (k + 1 : Nat) := Int64.toInt_ofNat_of_lt (by omega)
  have condition := runs_condition (n := n) (w := Int64.ofNat k) (s := counted s k) two
  rw [decide_eq_true (by rw [Int64.lt_iff_toInt_lt, now]; exact below)] at condition
  have enter : Runs (countingLoop n) cfg 1
      ⟨.running, none, 12, [Word.ofBool true], counter (Int64.ofNat k), counted s k⟩
      ⟨.running, none, 3, [], counter (Int64.ofNat k), counted s k⟩ :=
    runs_of_acts [] rfl (.taken (by decide) rfl) trivial
  have body := runs_body (n := n) two (write_counted unlimited now)
    (show (Int64.ofNat (k + 1)).toInt = (Int64.ofNat k).toInt + 1 by rw [next, now]; rfl)
  exact (condition.trans enter).trans body

theorem runs_rounds {k : Nat} (two : 2 ≤ cfg.maxStack) (unlimited : s.room = none)
    (le : k ≤ n.toInt.toNat) :
    Runs (countingLoop n) cfg (10 * k) (atHead 0 s) (atHead (Int64.ofNat k) (counted s k)) := by
  induction k with
  | zero => exact .refl _ _ _
  | succ k ih => exact (ih (by omega)).trans (runs_round two unlimited (by omega))

/-- The whole run, up to the halt. -/
theorem runs_countingLoop (two : 2 ≤ cfg.maxStack) (unlimited : s.room = none) :
    Runs (countingLoop n) cfg (10 * n.toInt.toNat + 8) ⟨.running, none, 0, [], {}, s⟩
      ⟨.halted, none, 13, [], counter (Int64.ofNat n.toInt.toNat), counted s n.toInt.toNat⟩ := by
  have rounds := runs_rounds (n := n) two unlimited (Nat.le_refl _)
  have reached : ¬ Int64.ofNat n.toInt.toNat < n := by
    rw [Int64.lt_iff_toInt_lt, toInt_ofNat_toNat]
    omega
  have whole := ((runs_start two).trans rounds).trans (runs_exit two reached)
  rwa [show 3 + 10 * n.toInt.toNat + 5 = 10 * n.toInt.toNat + 8 by omega] at whole

end

/-- The run ends with the flush. -/
theorem exists_run_countingLoop (n : Word) (cfg : Config) (two : 2 ≤ cfg.maxStack) {sink : Sink}
    (unlimited : sink.room = none) :
    ∃ m : Machine, ({ sink } : Machine).run (countingLoop n) cfg (10 * n.toInt.toNat + 8) =
        some (m.flushed 1, flushResult sink) ∧
      m.snapshot =
        ⟨.halted, none, 13, [], counter (Int64.ofNat n.toInt.toNat), counted sink n.toInt.toNat⟩ ∧
      m.executed = UInt64.ofNat (10 * n.toInt.toNat + 8) := by
  obtain ⟨looks, executed⟩ := (runs_countingLoop (n := n) two unlimited).leads { sink } rfl
  refine ⟨_, ?_, looks, executed.trans (UInt64.zero_add _)⟩
  obtain ⟨halted, sound, _, _, _, sink_eq⟩ := Snapshot.mk.inj looks
  rw [run_eq_some_iff]
  refine ⟨not_running_of_state (by rw [halted]; decide), ?_⟩
  rw [conclude_of_sound sound, sink_eq]
  rfl

theorem toNat_executed_countingLoop (n : Word) :
    ((UInt64.ofNat (10 * n.toInt.toNat + 8)).toNat : Int) = (10 * max n.toInt 0 + 8) % 2 ^ 64 := by
  rw [UInt64.toNat_ofNat', Int.natCast_emod]
  push_cast
  rw [Int.ofNat_toNat]

/-- **The loop counts to every bound.**  Whatever the policy, on a stack for two values and with a sink
without a limit, the loop halts at its last instruction with nothing on the stack.  The global has
counted up to `n`, or is zero if `n` is less, and the numbers below it are in the sink, a line for
each.  Ten instructions were executed for each of them, and eight more.  The machine says so as long as
64 bits can hold their number, and tells the rest modulo `2^64` beyond. -/
theorem counting_loop_counts (n : Word) (cfg : Config) (two : 2 ≤ cfg.maxStack) (sink : Sink)
    (unlimited : sink.room = none) :
    ∃ m, ({ sink } : Machine).run (countingLoop n) cfg (10 * n.toInt.toNat + 8) =
        some (m, flushResult sink) ∧
      m.state = .halted ∧ m.fault = none ∧ m.ip = 13 ∧ m.stack.toList = [] ∧
      (m.globals.get? "i").map Int64.toInt = some (max n.toInt 0) ∧
      m.sink.content = sink.content ++ numberLines n.toInt.toNat ∧
      (m.executed.toNat : Int) = (10 * max n.toInt 0 + 8) % 2 ^ 64 ∧
      (n.toInt ≤ 1844674407370955160 → (m.executed.toNat : Int) = 10 * max n.toInt 0 + 8) := by
  obtain ⟨m, ran, looks, executed⟩ := exists_run_countingLoop n cfg two unlimited
  obtain ⟨halted, sound, ip_eq, stack_eq, globals_eq, sink_eq⟩ := Snapshot.mk.inj looks
  have count : ((m.flushed 1).executed.toNat : Int) = (10 * max n.toInt 0 + 8) % 2 ^ 64 := by
    rw [← toNat_executed_countingLoop, ← executed]
    rfl
  refine ⟨m.flushed 1, ran, halted, sound, ip_eq, stack_eq, ?_, ?_, count, ?_⟩
  · show (m.globals.get? "i").map Int64.toInt = _
    rw [globals_eq, ← toInt_ofNat_toNat]
    rfl
  · show m.sink.content = _
    rw [sink_eq]
    simp [counted, Sink.content]
  · intro small
    rw [count]
    omega

/-- Three lines of a loop to three, and none of one to the least word. -/
theorem counting_loop_counts_three :
    (∃ m, ({} : Machine).run (countingLoop 3) ⟨2, .fault⟩ 38 = some (m, .ok ()) ∧
      m.state = .halted ∧ (m.globals.get? "i").map Int64.toInt = some 3 ∧
      m.sink.content = [48, 10, 49, 10, 50, 10] ∧ (m.executed.toNat : Int) = 38) ∧
    (∃ m, ({} : Machine).run (countingLoop Int64.minValue) ⟨2, .wrap⟩ 8 = some (m, .ok ()) ∧
      m.state = .halted ∧ (m.globals.get? "i").map Int64.toInt = some 0 ∧
      m.sink.content = [] ∧ (m.executed.toNat : Int) = 8) := by
  constructor
  · obtain ⟨m, ran, halted, _, _, _, counted_eq, content_eq, _, executed⟩ :=
      counting_loop_counts 3 ⟨2, .fault⟩ (Nat.le_refl 2) {} rfl
    exact ⟨m, ran, halted, counted_eq, content_eq.trans (by decide +kernel), executed (by decide)⟩
  · obtain ⟨m, ran, halted, _, _, _, counted_eq, content_eq, _, executed⟩ :=
      counting_loop_counts Int64.minValue ⟨2, .wrap⟩ (Nat.le_refl 2) {} rfl
    exact ⟨m, ran, halted, counted_eq, content_eq.trans (by decide +kernel), executed (by decide)⟩

/-- The least bound for which the count no longer fits.  The loop halts as it should, and the machine
tells of two instructions. -/
theorem counting_loop_miscounts :
    ∃ fuel m, ({} : Machine).run (countingLoop 1844674407370955161) ⟨2, .fault⟩ fuel =
        some (m, .ok ()) ∧
      m.state = .halted ∧ m.executed.toNat = 2 ∧
      (m.executed.toNat : Int) ≠ 10 * max (1844674407370955161 : Word).toInt 0 + 8 := by
  obtain ⟨m, ran, looks, executed⟩ := exists_run_countingLoop 1844674407370955161 ⟨2, .fault⟩
    (Nat.le_refl 2) (rfl : ({} : Sink).room = none)
  have count : (m.flushed 1).executed.toNat = 2 := by
    show m.executed.toNat = 2
    rw [executed]
    decide +kernel
  refine ⟨_, m.flushed 1, ran, congrArg Snapshot.state looks, count, ?_⟩
  rw [count]
  decide +kernel

end Machine

end StackMachine
