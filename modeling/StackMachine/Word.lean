/-!
# Words

The machine computes with signed 64-bit words.  A word stands for an integer between `-2^63` and
`2^63 - 1`; `Word.ofInt?` finds the word of an integer when there is one, and so draws the line
between an exact result and an overflow.
-/

namespace StackMachine

/-- A signed 64-bit word. -/
abbrev Word : Type := Int64

namespace Word

/-- The word that stands for an integer, if the integer is in range. -/
def ofInt? (i : Int) : Option Word :=
  if (Int64.ofInt i).toInt = i then some (Int64.ofInt i) else none

/-- Words and the integers in range correspond one to one. -/
theorem ofInt?_eq_some_iff {i : Int} {w : Word} : ofInt? i = some w ↔ w.toInt = i := by
  unfold ofInt?
  constructor
  · intro h
    split at h
    next hi => exact Option.some.inj h ▸ hi
    next => cases h
  · rintro rfl
    simp

@[simp] theorem ofInt?_toInt (w : Word) : ofInt? w.toInt = some w :=
  ofInt?_eq_some_iff.mpr rfl

/-- Comparisons leave one for true and zero for false. -/
def ofBool (b : Bool) : Word :=
  if b then 1 else 0

/-- Every word but zero counts as true. -/
def truthy (w : Word) : Bool :=
  w != 0

@[simp] theorem truthy_ofBool (b : Bool) : truthy (ofBool b) = b := by
  cases b <;> decide

/-- The position a word names in a table: words below zero name none. -/
def index? (w : Word) : Option Nat :=
  if 0 ≤ w.toInt then some w.toInt.toNat else none

end Word

end StackMachine
