/-!
# Classes of characters, and blanks

A class of characters is given by the ranges of code points that make it up.

Blanks are the characters of the Unicode property White_Space.  They separate the words of a line
and may surround a number; no other character does, however invisible it is.
-/

namespace StackMachine.Text

/-! ## Ranges of characters -/

/-- The code points from `first` to `last`, both included. -/
structure CharRange where
  first : Nat
  last : Nat
deriving DecidableEq, Repr

namespace CharRange

/-- Whether a character lies in the range. -/
def contains (r : CharRange) (c : Char) : Bool :=
  r.first ≤ c.toNat && c.toNat ≤ r.last

/-- Whether a character lies in one of some ranges. -/
def anyContains (rs : List CharRange) (c : Char) : Bool :=
  rs.any (·.contains c)

end CharRange

/-! ## Blanks -/

/-- The property White_Space. -/
def whiteSpace : List CharRange :=
  [⟨0x09, 0x0D⟩, ⟨0x20, 0x20⟩, ⟨0x85, 0x85⟩, ⟨0xA0, 0xA0⟩, ⟨0x1680, 0x1680⟩, ⟨0x2000, 0x200A⟩,
    ⟨0x2028, 0x2029⟩, ⟨0x202F, 0x202F⟩, ⟨0x205F, 0x205F⟩, ⟨0x3000, 0x3000⟩]

/-- A character of the property White_Space. -/
def isBlank (c : Char) : Bool :=
  CharRange.anyContains whiteSpace c

/-- A text without the blanks at both its ends. -/
def trim (cs : List Char) : List Char :=
  ((cs.dropWhile isBlank).reverse.dropWhile isBlank).reverse

/-- The maximal runs of characters between blanks. -/
def words (cs : List Char) : List (List Char) :=
  (cs.splitOnP isBlank).filter (· ≠ [])

/-- A text without blanks that is not empty is its own only word. -/
theorem words_eq_singleton {cs : List Char} (hne : cs ≠ []) (h : ∀ c ∈ cs, isBlank c = false) :
    words cs = [cs] := by
  simp [words, List.splitOnP_eq_singleton h, hne]

/-- A text without blanks is trimmed already. -/
theorem trim_eq_self {cs : List Char} (h : ∀ c ∈ cs, isBlank c = false) : trim cs = cs := by
  have dropNone : ∀ ds : List Char, (∀ c ∈ ds, isBlank c = false) → ds.dropWhile isBlank = ds := by
    intro ds hd
    cases ds with
    | nil => rfl
    | cons d ds => simp [hd d List.mem_cons_self]
  rw [trim, dropNone cs h, dropNone cs.reverse (by simpa using h), List.reverse_reverse]

end StackMachine.Text
