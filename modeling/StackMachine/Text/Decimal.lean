import StackMachine.Word

/-!
# Decimal numbers

Numbers are written without a plus sign and without leading zeros, and read more generously: a sign
may stand in front and any number of zeros may follow it.  Only the ten ASCII digits are digits.
What is written reads back (`nat?_toDigits`, `word?_ofWord`).
-/

namespace StackMachine.Decimal

/-- The decimal digits of a natural number. -/
def ofNat (n : Nat) : String :=
  String.ofList (Nat.toDigits 10 n)

/-- An integer in decimal, with a minus sign below zero. -/
def ofInt (i : Int) : String :=
  if i < 0 then "-" ++ ofNat i.natAbs else ofNat i.natAbs

/-- A word in decimal. -/
def ofWord (w : Word) : String :=
  ofInt w.toInt

/-- Reads one or more digits and nothing else. -/
def nat? (cs : List Char) : Option Nat :=
  if cs ≠ [] ∧ cs.all Char.isDigit then some (Nat.ofDigitChars 10 cs 0) else none

/-- Reads a size: digits, after a plus sign if there is one, of a number that fits 64 bits. -/
def size? (cs : List Char) : Option Nat :=
  let digits := match cs with
    | '+' :: ds => ds
    | ds => ds
  (nat? digits).filter (· < UInt64.size)

/-- Reads an integer: digits, after one sign if there is one. -/
def int? : List Char → Option Int
  | '-' :: ds => (nat? ds).map fun n => -(n : Int)
  | '+' :: ds => (nat? ds).map fun n => (n : Int)
  | ds => (nat? ds).map fun n => (n : Int)

/-- Reads an integer that a word can hold. -/
def word? (cs : List Char) : Option Word :=
  (int? cs).bind Word.ofInt?

theorem nat?_toDigits (n : Nat) : nat? (Nat.toDigits 10 n) = some n := by
  have hd : (Nat.toDigits 10 n).all Char.isDigit = true := by
    rw [List.all_eq_true]
    exact fun c hc => Nat.isDigit_of_mem_toDigits (by decide) (by decide) hc
  have hn : Nat.toDigits 10 n ≠ [] := Nat.toDigits_ne_nil
  simp [nat?, hn, hd, Nat.ofDigitChars_ten_toDigits]

/-- A number that is written starts with a digit, never with a sign. -/
theorem toDigits_eq_cons (n : Nat) :
    ∃ c ds, Nat.toDigits 10 n = c :: ds ∧ c.isDigit = true := by
  cases h : Nat.toDigits 10 n with
  | nil => exact absurd h Nat.toDigits_ne_nil
  | cons c ds =>
    have hc : c ∈ Nat.toDigits 10 n := h ▸ List.mem_cons_self
    exact ⟨c, ds, rfl, Nat.isDigit_of_mem_toDigits (by decide) (by decide) hc⟩

theorem int?_of_isDigit {c : Char} {ds : List Char} (h : c.isDigit = true) :
    int? (c :: ds) = (nat? (c :: ds)).map fun n => (n : Int) := by
  unfold int?
  split
  next heq => simp only [List.cons.injEq] at heq; rw [heq.1] at h; exact absurd h (by decide)
  next heq => simp only [List.cons.injEq] at heq; rw [heq.1] at h; exact absurd h (by decide)
  next => rfl

theorem int?_ofInt (i : Int) : int? (ofInt i).toList = some i := by
  unfold ofInt ofNat
  split
  next h =>
    simp only [String.toList_append, String.toList_ofList]
    show (nat? (Nat.toDigits 10 i.natAbs)).map (fun n => -(n : Int)) = some i
    rw [nat?_toDigits]
    have hi : -(i.natAbs : Int) = i := by omega
    exact congrArg some hi
  next h =>
    rw [String.toList_ofList]
    obtain ⟨c, ds, hc, hd⟩ := toDigits_eq_cons i.natAbs
    rw [hc, int?_of_isDigit hd, ← hc, nat?_toDigits]
    have hi : (i.natAbs : Int) = i := by omega
    exact congrArg some hi

theorem word?_ofWord (w : Word) : word? (ofWord w).toList = some w := by
  simp [word?, ofWord, int?_ofInt]

theorem size?_ofNat {n : Nat} (h : n < UInt64.size) : size? (ofNat n).toList = some n := by
  obtain ⟨c, ds, hc, hd⟩ := toDigits_eq_cons n
  have hp : c ≠ '+' := by rintro rfl; exact absurd hd (by decide)
  have hs : size? (c :: ds) = (nat? (c :: ds)).filter (· < UInt64.size) := by
    unfold size?
    split
    next heq => simp only [List.cons.injEq] at heq; exact absurd heq.1 hp
    next => rfl
  rw [ofNat, String.toList_ofList, hc, hs, ← hc, nat?_toDigits]
  exact Option.filter_eq_some_iff.mpr ⟨rfl, decide_eq_true h⟩

end StackMachine.Decimal
