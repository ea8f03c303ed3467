import StackMachine.Text.Blank
import StackMachine.Text.Decimal
import StackMachine.Text.Lines
import StackMachine.Text.Utf8

/-!
# Lines that are read as they were written

What the text format needs to know about characters: decimal numbers hold no blanks, words are free
of blanks and never empty, and a text made of unbroken lines is cut into just these lines.
-/

namespace StackMachine

/-! ## Texts as bytes -/

namespace Utf8

/-- A text is stored as its characters one after another. -/
theorem encode_ofList (cs : List Char) :
    encode (String.ofList cs) = cs.flatMap String.utf8EncodeChar := by
  simp [encode, String.toUTF8, List.utf8Encode]

/-- If the bytes of a text start with those of another, so do its characters. -/
theorem toList_prefix_of_encode_prefix {s t : String} (h : encode s <+: encode t) :
    s.toList <+: t.toList := by
  obtain ⟨rest, hrest⟩ := h
  apply List.isPrefix_of_utf8Encode_append_eq_utf8Encode ⟨rest.toArray⟩
  rw [String.utf8Encode_toList, String.utf8Encode_toList]
  apply ByteArray.ext
  apply Array.toList_inj.mp
  simpa [encode] using hrest

/-- A byte below 128 is the character with its number, and part of no other character. -/
theorem toNat_eq_of_mem_utf8EncodeChar {c : Char} {b : UInt8} (h : b ∈ String.utf8EncodeChar c)
    (ascii : b.toNat < 128) : c.toNat = b.toNat := by
  -- The bytes of longer encodings are 128 at least.
  simp only [String.utf8EncodeChar] at h
  split at h
  next hsmall =>
    rw [List.mem_singleton] at h
    subst h
    show c.val.toNat = _
    simp only [UInt8.toNat_ofNat']
    omega
  next =>
    split at h
    next =>
      simp only [List.mem_cons, List.not_mem_nil, or_false] at h
      rcases h with rfl | rfl <;> simp only [UInt8.toNat_ofNat'] at ascii <;> omega
    next =>
      split at h
      next =>
        simp only [List.mem_cons, List.not_mem_nil, or_false] at h
        rcases h with rfl | rfl | rfl <;> simp only [UInt8.toNat_ofNat'] at ascii <;> omega
      next =>
        simp only [List.mem_cons, List.not_mem_nil, or_false] at h
        rcases h with rfl | rfl | rfl | rfl <;> simp only [UInt8.toNat_ofNat'] at ascii <;> omega

/-- The byte of the line feed is part of no other character. -/
theorem eq_feed_of_mem {c : Char} (h : 10 ∈ String.utf8EncodeChar c) : c = '\n' :=
  Char.toNat_inj.mp (toNat_eq_of_mem_utf8EncodeChar h (by decide))

end Utf8

/-! ## Numbers hold no blanks -/

namespace Text

theorem isBlank_of_isDigit {c : Char} (h : c.isDigit = true) : isBlank c = false := by
  obtain ⟨hlow, hhigh⟩ := Char.isDigit_iff_toNat.mp h
  have hlow : 48 ≤ c.toNat := hlow
  have hhigh : c.toNat ≤ 57 := hhigh
  rw [isBlank, CharRange.anyContains, List.any_eq_false]
  intro r hr
  simp only [whiteSpace, List.mem_cons, List.not_mem_nil, or_false] at hr
  simp only [CharRange.contains, Bool.and_eq_true, decide_eq_true_eq]
  rcases hr with rfl | rfl | rfl | rfl | rfl | rfl | rfl | rfl | rfl | rfl <;> grind

end Text

namespace Decimal

theorem isDigit_of_mem_ofNat {n : Nat} {c : Char} (h : c ∈ (ofNat n).toList) :
    c.isDigit = true := by
  rw [ofNat, String.toList_ofList] at h
  exact Nat.isDigit_of_mem_toDigits (by decide) (by decide) h

theorem not_isBlank_of_mem_ofNat {n : Nat} {c : Char} (h : c ∈ (ofNat n).toList) :
    Text.isBlank c = false :=
  Text.isBlank_of_isDigit (isDigit_of_mem_ofNat h)

theorem not_isBlank_of_mem_ofWord {w : Word} {c : Char} (h : c ∈ (ofWord w).toList) :
    Text.isBlank c = false := by
  unfold ofWord ofInt at h
  split at h
  next =>
    rw [String.toList_append, List.mem_append] at h
    rcases h with hsign | hdigit
    · have hc : c = '-' := by simpa using hsign
      subst hc
      decide
    · exact not_isBlank_of_mem_ofNat hdigit
  next => exact not_isBlank_of_mem_ofNat h

theorem ofWord_ne_nil (w : Word) : (ofWord w).toList ≠ [] := by
  intro h
  have hread := word?_ofWord w
  rw [h] at hread
  cases hread

end Decimal

/-! ## Words -/

namespace Text

/-- The pieces of a split hold no separator, if what was gathered before the split holds none. -/
theorem free_of_mem_splitOnPPrepend {α : Type} {sep : α → Bool} {xs gathered piece : List α}
    (hgathered : ∀ x ∈ gathered, sep x = false)
    (h : piece ∈ List.splitOnPPrepend sep xs gathered) : ∀ x ∈ piece, sep x = false := by
  fun_induction List.splitOnPPrepend sep xs gathered with
  | case1 gathered =>
      rw [List.mem_singleton] at h
      subst h
      simpa using hgathered
  | case2 gathered y ys hy ih =>
      rcases List.mem_cons.mp h with rfl | h
      · simpa using hgathered
      · exact ih (by simp) h
  | case3 gathered y ys hy ih =>
      exact ih (by simpa [hy] using hgathered) h

/-- A word is not empty and holds no blank. -/
theorem word_of_mem_words {cs word : List Char} (h : word ∈ words cs) :
    word ≠ [] ∧ ∀ c ∈ word, isBlank c = false := by
  obtain ⟨hpiece, hne⟩ := List.mem_filter.mp h
  rw [List.splitOnP_eq_splitOnPPrepend] at hpiece
  exact ⟨by simpa using hne, free_of_mem_splitOnPPrepend (by simp) hpiece⟩

theorem words_append_blank {b : Char} (hb : isBlank b = true) (cs ds : List Char) :
    words (cs ++ b :: ds) = words cs ++ words ds := by
  rw [words, List.splitOnP_append_cons cs ds hb, List.filter_append]
  rfl

/-! ## Unbroken lines -/

/-- A text without a character that ends a line or is dropped at its end. -/
def Unbroken (cs : List Char) : Prop :=
  '\n' ∉ cs ∧ '\r' ∉ cs

instance : DecidablePred Unbroken := fun cs =>
  inferInstanceAs (Decidable ('\n' ∉ cs ∧ '\r' ∉ cs))

theorem Unbroken.append {cs ds : List Char} (hc : Unbroken cs) (hd : Unbroken ds) :
    Unbroken (cs ++ ds) := by
  simp only [Unbroken, List.mem_append, not_or]
  exact ⟨⟨hc.1, hd.1⟩, hc.2, hd.2⟩

theorem unbroken_of_no_blank {cs : List Char} (h : ∀ c ∈ cs, isBlank c = false) :
    Unbroken cs := by
  constructor
  · intro hmem
    exact absurd (h _ hmem) (by decide)
  · intro hmem
    exact absurd (h _ hmem) (by decide)

/-- Unbroken lines are read back as they were written. -/
theorem splitLines_unlines_of_unbroken {ls : List (List Char)} (h : ∀ l ∈ ls, Unbroken l) :
    splitLines (unlines ls) = ls := by
  apply splitLines_unlines
  intro l hl
  exact ⟨(h l hl).1, fun hlast => (h l hl).2 (List.mem_of_getLast? hlast)⟩

end Text

theorem Decimal.unbroken_ofNat (n : Nat) : Text.Unbroken (ofNat n).toList :=
  Text.unbroken_of_no_blank fun _ hc => not_isBlank_of_mem_ofNat hc

theorem Decimal.unbroken_ofWord (w : Word) : Text.Unbroken (ofWord w).toList :=
  Text.unbroken_of_no_blank fun _ hc => not_isBlank_of_mem_ofWord hc

/-! ## Numbered lines -/

namespace Text

/-- Lines with their numbers, counted from `n` on. -/
def number (n : Nat) (ls : List (List Char)) : List Line :=
  (ls.zipIdx n).map fun (cs, n) => ⟨n, cs⟩

theorem lines_eq_number (text : List Char) : lines text = number 1 (splitLines text) := rfl

@[simp] theorem number_nil (n : Nat) : number n [] = [] := rfl

@[simp] theorem number_cons (n : Nat) (l : List Char) (ls : List (List Char)) :
    number n (l :: ls) = ⟨n, l⟩ :: number (n + 1) ls := rfl

end Text

end StackMachine
