import Mathlib.Data.List.TakeWhile
import StackMachine.Proofs.TextLines

/-!
# Lexical rules

What lines, words and numbers are, said without the functions that find them: a text is its lines and
their ends put together, a line is its words with blanks between and around them, and a number is what
its digits denote.  Each function finds exactly what its rule describes (`splitLines_eq_iff`,
`words_eq_cons_iff`, `holds_trim_iff`, `nat?_eq_some_iff`), so later proofs need the rules only.
-/

namespace StackMachine

namespace Text

/-! ## Lines -/

/-- The lines of a text.  A line ends with a line feed, before which one carriage return may stand;
the last line may do without. -/
inductive Lines : List Char → List (List Char) → Prop where
  | none : Lines [] []
  | unended {l : List Char} (nonempty : l ≠ []) (unbroken : '\n' ∉ l) : Lines l [l]
  | feed {l rest : List Char} {ls : List (List Char)} (unbroken : '\n' ∉ l)
      (plain : l.getLast? ≠ some '\r') (others : Lines rest ls) :
      Lines (l ++ '\n' :: rest) (l :: ls)
  | returnFeed {l rest : List Char} {ls : List (List Char)} (unbroken : '\n' ∉ l)
      (others : Lines rest ls) : Lines (l ++ '\r' :: '\n' :: rest) (l :: ls)

theorem splitLines_of_no_feed {l : List Char} (nonempty : l ≠ []) (unbroken : '\n' ∉ l) :
    splitLines l = [l] := by
  have hpieces : l.splitOn '\n' = [l] := by
    rw [List.splitOn_eq_splitOnP]
    refine List.splitOnP_eq_singleton fun c hc => ?_
    exact beq_false_of_ne fun heq => unbroken (heq ▸ hc)
  simp [splitLines, hpieces, nonempty]

theorem Lines.splitLines_eq {text : List Char} {ls : List (List Char)} (h : Lines text ls) :
    splitLines text = ls := by
  induction h with
  | none => rfl
  | unended nonempty unbroken => exact splitLines_of_no_feed nonempty unbroken
  | feed unbroken plain _ ih =>
      rw [splitLines_cons_line unbroken, ih, dropReturn, if_neg plain]
  | @returnFeed l rest ls unbroken _ ih =>
      have hreturn : '\n' ∉ l ++ ['\r'] := by simpa using unbroken
      have hline : l ++ '\r' :: '\n' :: rest = (l ++ ['\r']) ++ '\n' :: rest := by simp
      rw [hline, splitLines_cons_line hreturn, ih]
      simp [dropReturn]

theorem lines_splitLines (text : List Char) : Lines text (splitLines text) := by
  -- The induction is on the length: a line with its end is cut off the front.
  induction hn : text.length using Nat.strongRecOn generalizing text with
  | ind n ih =>
      by_cases hfeed : '\n' ∈ text
      · obtain ⟨l, rest, rfl, unbroken⟩ := List.eq_append_cons_of_mem hfeed
        have others : Lines rest (splitLines rest) := by
          refine ih rest.length ?_ rest rfl
          rw [← hn, List.length_append, List.length_cons]
          omega
        rw [splitLines_cons_line unbroken]
        by_cases hreturn : l.getLast? = some '\r'
        · obtain ⟨l, rfl⟩ := List.getLast?_eq_some_iff.mp hreturn
          have hl : '\n' ∉ l := fun hmem => unbroken (List.mem_append_left _ hmem)
          simpa [dropReturn] using Lines.returnFeed hl others
        · rw [dropReturn, if_neg hreturn]
          exact .feed unbroken hreturn others
      · by_cases hempty : text = []
        · rw [hempty]
          exact .none
        · rw [splitLines_of_no_feed hempty hfeed]
          exact .unended hempty hfeed

/-- A text is cut into its lines. -/
theorem splitLines_eq_iff {text : List Char} {ls : List (List Char)} :
    splitLines text = ls ↔ Lines text ls := by
  constructor
  · rintro rfl
    exact lines_splitLines text
  · exact Lines.splitLines_eq

/-- No line holds a line feed. -/
theorem Lines.unbroken {text : List Char} {ls : List (List Char)} (h : Lines text ls) :
    ∀ l ∈ ls, '\n' ∉ l := by
  induction h with
  | none => nofun
  | unended _ unbroken => exact List.forall_mem_singleton.mpr unbroken
  | feed unbroken _ _ ih => exact List.forall_mem_cons.mpr ⟨unbroken, ih⟩
  | returnFeed unbroken _ ih => exact List.forall_mem_cons.mpr ⟨unbroken, ih⟩

/-- The first line starts as the text does, unless the text starts with a line end. -/
theorem Lines.head?_eq {c : Char} {rest l : List Char} {ls : List (List Char)}
    (h : Lines (c :: rest) (l :: ls)) (hfeed : c ≠ '\n') (hreturn : c ≠ '\r') :
    l.head? = some c := by
  generalize htext : c :: rest = text at h
  cases h with
  | unended => rw [← htext, List.head?_cons]
  | feed =>
      cases l with
      | nil => exact absurd (List.cons.inj htext).1 hfeed
      | cons d l => rw [(List.cons.inj htext).1, List.head?_cons]
  | returnFeed =>
      cases l with
      | nil => exact absurd (List.cons.inj htext).1 hreturn
      | cons d l => rw [(List.cons.inj htext).1, List.head?_cons]

/-! ## Blanks -/

/-- Nothing but blanks. -/
def Blank (cs : List Char) : Prop :=
  ∀ c ∈ cs, isBlank c = true

instance (cs : List Char) : Decidable (Blank cs) :=
  decidable_of_iff (cs.all isBlank = true) List.all_eq_true

/-- Some characters, none of them a blank. -/
structure Solid (cs : List Char) : Prop where
  nonempty : cs ≠ []
  no_blank : ∀ c ∈ cs, isBlank c = false

/-- A line that holds nothing but `content`, apart from blanks around it. -/
def Padded (content line : List Char) : Prop :=
  ∃ before after, Blank before ∧ Blank after ∧ line = before ++ content ++ after

/-- What a line holds between the blanks at its ends. -/
structure Trimmed (content line : List Char) : Prop where
  padded : Padded content line
  front : ∀ c ∈ content.head?, isBlank c = false
  back : ∀ c ∈ content.getLast?, isBlank c = false

theorem blank_takeWhile (cs : List Char) : Blank (cs.takeWhile isBlank) := by
  intro c hc
  exact List.mem_takeWhile_imp hc

theorem dropWhile_blank_append {before rest : List Char} (h : Blank before) :
    (before ++ rest).dropWhile isBlank = rest.dropWhile isBlank := by
  rw [List.dropWhile_append, List.dropWhile_eq_nil_iff.mpr h]
  rfl

theorem dropWhile_eq_self {cs : List Char} (h : ∀ c ∈ cs.head?, isBlank c = false) :
    cs.dropWhile isBlank = cs := by
  cases cs with
  | nil => rfl
  | cons c cs => simp [h c rfl]

theorem not_isBlank_of_head_dropWhile {c : Char} {cs : List Char}
    (h : c ∈ (cs.dropWhile isBlank).head?) : isBlank c = false := by
  have hhead := List.head?_dropWhile_not isBlank cs
  rwa [Option.mem_def.mp h] at hhead

theorem trimmed_trim (line : List Char) : Trimmed (trim line) line := by
  have hfront := List.takeWhile_append_dropWhile (p := isBlank) (l := line)
  have hback :=
    List.takeWhile_append_dropWhile (p := isBlank) (l := (line.dropWhile isBlank).reverse)
  have hcore : trim line ++ ((line.dropWhile isBlank).reverse.takeWhile isBlank).reverse =
      line.dropWhile isBlank := by
    have hreverse := congrArg List.reverse hback
    rwa [List.reverse_append, List.reverse_reverse] at hreverse
  refine ⟨⟨line.takeWhile isBlank, ((line.dropWhile isBlank).reverse.takeWhile isBlank).reverse,
    blank_takeWhile line, ?_, ?_⟩, ?_, ?_⟩
  · intro c hc
    exact blank_takeWhile _ c (List.mem_reverse.mp hc)
  · rw [List.append_assoc, hcore, hfront]
  · intro c hc
    have hhead : c ∈ (line.dropWhile isBlank).head? := by
      rw [← hcore, List.head?_append, Option.mem_def.mp hc]
      rfl
    exact not_isBlank_of_head_dropWhile hhead
  · intro c hc
    rw [trim, List.getLast?_reverse] at hc
    exact not_isBlank_of_head_dropWhile hc

theorem Trimmed.trim_eq {content line : List Char} (h : Trimmed content line) :
    trim line = content := by
  obtain ⟨⟨before, after, hbefore, hafter, rfl⟩, front, back⟩ := h
  have hreverse : Blank after.reverse := fun c hc => hafter c (List.mem_reverse.mp hc)
  rw [trim, List.append_assoc, dropWhile_blank_append hbefore]
  cases content with
  | nil =>
      rw [List.nil_append, List.dropWhile_eq_nil_iff.mpr hafter]
      rfl
  | cons c cs =>
      have hfront : (c :: cs ++ after).dropWhile isBlank = c :: cs ++ after := dropWhile_eq_self front
      have hback : (c :: cs ++ after).reverse.dropWhile isBlank = (c :: cs).reverse := by
        rw [List.reverse_append, dropWhile_blank_append hreverse]
        apply dropWhile_eq_self
        rwa [List.head?_reverse]
      rw [hfront, hback, List.reverse_reverse]

/-- Trimming a line leaves what it holds between the blanks at its ends. -/
theorem trim_eq_iff {content line : List Char} : trim line = content ↔ Trimmed content line := by
  constructor
  · rintro rfl
    exact trimmed_trim line
  · exact Trimmed.trim_eq

theorem Solid.cons {c : Char} {cs : List Char} (hc : isBlank c = false) (h : Solid cs) :
    Solid (c :: cs) :=
  ⟨nofun, List.forall_mem_cons.mpr ⟨hc, h.no_blank⟩⟩

theorem Solid.trimmed {content line : List Char} (solid : Solid content)
    (h : Padded content line) : Trimmed content line where
  padded := h
  front := fun c hc => solid.no_blank c (List.mem_of_mem_head? hc)
  back := fun c hc => solid.no_blank c (List.mem_of_mem_getLast? hc)

/-- What is left of a line without the blanks around it is of some solid kind exactly if the line
holds, apart from blanks, something of that kind. -/
theorem holds_trim_iff {P : List Char → Prop} (solid : ∀ {cs}, P cs → Solid cs) {line : List Char} :
    P (trim line) ↔ ∃ content, Padded content line ∧ P content := by
  constructor
  · intro h
    exact ⟨trim line, (trimmed_trim line).padded, h⟩
  · rintro ⟨content, padded, h⟩
    rwa [((solid h).trimmed padded).trim_eq]

/-! ## Words -/

theorem words_cons_blank {b : Char} (hb : isBlank b = true) (cs : List Char) :
    words (b :: cs) = words cs := by
  have h := words_append_blank hb [] cs
  rwa [List.nil_append] at h

theorem words_blank_append {before : List Char} (h : Blank before) (rest : List Char) :
    words (before ++ rest) = words rest := by
  induction before with
  | nil => rfl
  | cons b before ih =>
      rw [List.cons_append, words_cons_blank (h b List.mem_cons_self),
        ih fun c hc => h c (List.mem_cons_of_mem b hc)]

/-- Where a word may end: at the end of the line or at a blank. -/
def EndsWord (rest : List Char) : Prop :=
  ∀ c ∈ rest.head?, isBlank c = true

theorem words_solid_append {w rest : List Char} (solid : Solid w) (hend : EndsWord rest) :
    words (w ++ rest) = w :: words rest := by
  have hw := words_eq_singleton solid.nonempty solid.no_blank
  cases rest with
  | nil => rw [List.append_nil, hw]; rfl
  | cons b rest =>
      have hb : isBlank b = true := hend b rfl
      rw [words_append_blank hb, hw, words_cons_blank hb]
      rfl

/-- A line is blank, or it has a first word. -/
theorem blank_or_solid (cs : List Char) :
    Blank cs ∨
      ∃ before w rest, cs = before ++ (w ++ rest) ∧ Blank before ∧ Solid w ∧ EndsWord rest := by
  have hfront := List.takeWhile_append_dropWhile (p := isBlank) (l := cs)
  cases hcore : cs.dropWhile isBlank with
  | nil => exact Or.inl (List.dropWhile_eq_nil_iff.mp hcore)
  | cons c core =>
      have hsplit := List.takeWhile_append_dropWhile (p := fun c => !isBlank c) (l := c :: core)
      have hc : isBlank c = false := not_isBlank_of_head_dropWhile (by rw [hcore]; rfl)
      refine Or.inr ⟨cs.takeWhile isBlank, (c :: core).takeWhile fun c => !isBlank c,
        (c :: core).dropWhile fun c => !isBlank c, ?_, blank_takeWhile cs, ⟨?_, ?_⟩, ?_⟩
      · rw [hsplit, ← hcore, hfront]
      · simp [hc]
      · intro d hd
        simpa using List.mem_takeWhile_imp hd
      · intro d hd
        have hhead := List.head?_dropWhile_not (fun c => !isBlank c) (c :: core)
        rw [Option.mem_def.mp hd] at hhead
        simpa using hhead

/-- The first word of a line and what follows it. -/
theorem words_eq_cons_iff {cs w : List Char} {ws : List (List Char)} :
    words cs = w :: ws ↔
      ∃ before rest, cs = before ++ (w ++ rest) ∧ Blank before ∧ Solid w ∧ EndsWord rest ∧
        words rest = ws := by
  constructor
  · intro h
    rcases blank_or_solid cs with hblank | ⟨before, w', rest, rfl, hbefore, solid, hend⟩
    · have hnil := words_blank_append hblank []
      rw [List.append_nil, h] at hnil
      cases hnil
    · rw [words_blank_append hbefore, words_solid_append solid hend] at h
      cases h
      exact ⟨before, rest, rfl, hbefore, solid, hend, rfl⟩
  · rintro ⟨before, rest, rfl, hbefore, solid, hend, rfl⟩
    rw [words_blank_append hbefore, words_solid_append solid hend]

/-- The first word of a line and what follows it. -/
def FirstWord (word rest line : List Char) : Prop :=
  ∃ before, line = before ++ (word ++ rest) ∧ Blank before ∧ Solid word ∧ EndsWord rest

/-- The second word of a line. -/
def SecondWord (word line : List Char) : Prop :=
  ∃ first rest more, FirstWord first rest line ∧ FirstWord word more rest

theorem secondWord_iff {word line : List Char} :
    SecondWord word line ↔ ∃ first more, words line = first :: word :: more := by
  constructor
  · rintro ⟨first, rest, more, ⟨before, hline, hbefore, solid, hend⟩, gap, hrest, hgap, solid', hend'⟩
    have hwords : words rest = word :: words more :=
      words_eq_cons_iff.mpr ⟨gap, more, hrest, hgap, solid', hend', rfl⟩
    exact ⟨first, words more,
      words_eq_cons_iff.mpr ⟨before, rest, hline, hbefore, solid, hend, hwords⟩⟩
  · rintro ⟨first, ws, hwords⟩
    obtain ⟨before, rest, hline, hbefore, solid, hend, hwords⟩ := words_eq_cons_iff.mp hwords
    obtain ⟨gap, more, hrest, hgap, solid', hend', -⟩ := words_eq_cons_iff.mp hwords
    exact ⟨first, rest, more, ⟨before, hline, hbefore, solid, hend⟩,
      gap, hrest, hgap, solid', hend'⟩

/-- A line without words. -/
theorem words_eq_nil_iff {cs : List Char} : words cs = [] ↔ Blank cs := by
  constructor
  · intro h
    rcases blank_or_solid cs with hblank | ⟨before, w, rest, rfl, hbefore, solid, hend⟩
    · exact hblank
    · rw [words_blank_append hbefore, words_solid_append solid hend] at h
      cases h
  · intro hblank
    have hnil := words_blank_append hblank []
    rwa [List.append_nil] at hnil

theorem endsWord_of_blank {rest : List Char} (h : Blank rest) : EndsWord rest := by
  intro c hc
  exact h c (List.mem_of_mem_head? hc)

/-- A line of one word. -/
theorem words_eq_one_iff {cs w : List Char} : words cs = [w] ↔ Solid w ∧ Padded w cs := by
  rw [words_eq_cons_iff]
  constructor
  · rintro ⟨before, after, rfl, hbefore, solid, -, hafter⟩
    exact ⟨solid, before, after, hbefore, words_eq_nil_iff.mp hafter, by simp⟩
  · rintro ⟨solid, before, after, hbefore, hafter, rfl⟩
    exact ⟨before, after, by simp, hbefore, solid, endsWord_of_blank hafter,
      words_eq_nil_iff.mpr hafter⟩

/-- A line of two words, with a gap between them. -/
theorem words_eq_two_iff {cs w v : List Char} :
    words cs = [w, v] ↔
      Solid w ∧ Solid v ∧ ∃ gap, gap ≠ [] ∧ Blank gap ∧ Padded (w ++ gap ++ v) cs := by
  rw [words_eq_cons_iff]
  constructor
  · rintro ⟨before, rest, rfl, hbefore, solid, hend, hrest⟩
    obtain ⟨solid', gap, after, hgap, hafter, rfl⟩ := words_eq_one_iff.mp hrest
    refine ⟨solid, solid', gap, ?_, hgap, before, after, hbefore, hafter, by simp⟩
    -- Without a gap the first word would go on.
    rintro rfl
    cases v with
    | nil => exact solid'.nonempty rfl
    | cons c v =>
        have hblank : isBlank c = true := hend c rfl
        rw [solid'.no_blank c List.mem_cons_self] at hblank
        cases hblank
  · rintro ⟨solid, solid', gap, hne, hgap, before, after, hbefore, hafter, rfl⟩
    refine ⟨before, gap ++ v ++ after, by simp, hbefore, solid, ?_,
      words_eq_one_iff.mpr ⟨solid', gap, after, hgap, hafter, rfl⟩⟩
    cases gap with
    | nil => exact absurd rfl hne
    | cons b gap =>
        intro c hc
        cases hc
        exact hgap b List.mem_cons_self

end Text

/-! ## Numbers -/

namespace Decimal

/-- Decimal digits, the highest first, and the number they denote. -/
inductive Numeral : List Char → Nat → Prop where
  | digit {c : Char} (h : c.isDigit = true) : Numeral [c] (c.toNat - '0'.toNat)
  | snoc {cs : List Char} {n : Nat} {c : Char} (front : Numeral cs n) (h : c.isDigit = true) :
      Numeral (cs ++ [c]) (10 * n + (c.toNat - '0'.toNat))

theorem Numeral.isDigit {cs : List Char} {n : Nat} (h : Numeral cs n) :
    cs ≠ [] ∧ ∀ c ∈ cs, c.isDigit = true := by
  induction h with
  | digit h => simpa using h
  | snoc _ h ih =>
      refine ⟨by simp, fun c hc => ?_⟩
      rcases List.mem_append.mp hc with hc | hc
      · exact ih.2 c hc
      · rwa [List.mem_singleton.mp hc]

theorem Numeral.solid {cs : List Char} {n : Nat} (h : Numeral cs n) : Text.Solid cs :=
  ⟨h.isDigit.1, fun c hc => Text.isBlank_of_isDigit (h.isDigit.2 c hc)⟩

/-- Digits that follow a number make it a longer one. -/
theorem Numeral.append {cs ds : List Char} {n : Nat} (h : Numeral cs n)
    (hds : ∀ c ∈ ds, c.isDigit = true) : Numeral (cs ++ ds) (Nat.ofDigitChars 10 ds n) := by
  induction ds generalizing cs n with
  | nil => rwa [List.append_nil]
  | cons d ds ih =>
      have hlonger := h.snoc (hds d List.mem_cons_self)
      have hrest := ih hlonger fun c hc => hds c (List.mem_cons_of_mem d hc)
      rwa [List.append_assoc, List.singleton_append, ← Nat.ofDigitChars_cons] at hrest

theorem Numeral.ofDigitChars_eq {cs : List Char} {n : Nat} (h : Numeral cs n) :
    Nat.ofDigitChars 10 cs 0 = n := by
  induction h with
  | digit => simp [Nat.ofDigitChars]
  | snoc _ _ ih =>
      rw [← ih]
      simp [Nat.ofDigitChars]

theorem nat?_eq_some_iff {cs : List Char} {n : Nat} : nat? cs = some n ↔ Numeral cs n := by
  unfold nat?
  constructor
  · intro h
    split at h
    next hdigits =>
      cases h
      obtain ⟨hne, hall⟩ := hdigits
      cases cs with
      | nil => exact absurd rfl hne
      | cons c cs =>
          simp only [List.all_cons, Bool.and_eq_true, List.all_eq_true] at hall
          have hfirst : Numeral [c] (10 * 0 + (c.toNat - '0'.toNat)) := by
            simpa using Numeral.digit hall.1
          rw [Nat.ofDigitChars_cons]
          exact hfirst.append hall.2
    next => cases h
  · intro h
    obtain ⟨hne, hdigits⟩ := h.isDigit
    rw [if_pos ⟨hne, List.all_eq_true.mpr hdigits⟩, h.ofDigitChars_eq]

/-- A number does not start with a sign. -/
theorem Numeral.head_isDigit {c : Char} {ds : List Char} {n : Nat} (h : Numeral (c :: ds) n) :
    c.isDigit = true :=
  h.isDigit.2 c List.mem_cons_self

/-- A size: a number, perhaps with a plus sign in front. -/
inductive Size : List Char → Nat → Prop where
  | plain {ds : List Char} {n : Nat} (digits : Numeral ds n) : Size ds n
  | plus {ds : List Char} {n : Nat} (digits : Numeral ds n) : Size ('+' :: ds) n

/-- An integer: a number, perhaps with a sign in front. -/
inductive Literal : List Char → Int → Prop where
  | plain {ds : List Char} {n : Nat} (digits : Numeral ds n) : Literal ds n
  | plus {ds : List Char} {n : Nat} (digits : Numeral ds n) : Literal ('+' :: ds) n
  | minus {ds : List Char} {n : Nat} (digits : Numeral ds n) : Literal ('-' :: ds) (-n)

theorem Size.solid {cs : List Char} {n : Nat} (h : Size cs n) : Text.Solid cs := by
  cases h with
  | plain digits => exact digits.solid
  | plus digits => exact digits.solid.cons (by decide)

theorem Literal.solid {cs : List Char} {i : Int} (h : Literal cs i) : Text.Solid cs := by
  cases h with
  | plain digits => exact digits.solid
  | plus digits => exact digits.solid.cons (by decide)
  | minus digits => exact digits.solid.cons (by decide)

theorem size?_eq_some_iff {cs : List Char} {n : Nat} :
    size? cs = some n ↔ Size cs n ∧ n < UInt64.size := by
  unfold size?
  split
  next ds =>
    rw [Option.filter_eq_some_iff, nat?_eq_some_iff, decide_eq_true_iff]
    refine and_congr_left fun _ => ⟨Size.plus, fun h => ?_⟩
    cases h with
    | plain digits => exact absurd digits.head_isDigit (by decide)
    | plus digits => exact digits
  next unsigned =>
    rw [Option.filter_eq_some_iff, nat?_eq_some_iff, decide_eq_true_iff]
    refine and_congr_left fun _ => ⟨Size.plain, fun h => ?_⟩
    cases h with
    | plain digits => exact digits
    | plus digits => exact absurd rfl (unsigned _)

/-- Digits behind a sign, with what the sign does to their number. -/
theorem map_nat?_eq_some_iff {ds : List Char} {f : Int → Int} {i : Int} :
    Option.map f (do let n ← nat? ds; pure (n : Int)) = some i ↔
      ∃ n : Nat, Numeral ds n ∧ f n = i := by
  simp only [Option.map_eq_some_iff, Option.bind_eq_bind, Option.bind_eq_some_iff, Option.pure_def,
    Option.some.injEq, nat?_eq_some_iff]
  constructor
  · rintro ⟨_, ⟨n, digits, rfl⟩, rfl⟩
    exact ⟨n, digits, rfl⟩
  · rintro ⟨n, digits, rfl⟩
    exact ⟨n, ⟨n, digits, rfl⟩, rfl⟩

theorem int?_eq_some_iff {cs : List Char} {i : Int} : int? cs = some i ↔ Literal cs i := by
  unfold int?
  split
  next ds =>
    rw [map_nat?_eq_some_iff]
    constructor
    · rintro ⟨n, digits, rfl⟩
      exact .minus digits
    · intro h
      cases h with
      | plain digits => exact absurd digits.head_isDigit (by decide)
      | minus digits => exact ⟨_, digits, rfl⟩
  next ds =>
    rw [map_nat?_eq_some_iff]
    constructor
    · rintro ⟨n, digits, rfl⟩
      exact .plus digits
    · intro h
      cases h with
      | plain digits => exact absurd digits.head_isDigit (by decide)
      | plus digits => exact ⟨_, digits, rfl⟩
  next notMinus notPlus =>
    rw [map_nat?_eq_some_iff]
    constructor
    · rintro ⟨n, digits, rfl⟩
      exact .plain digits
    · intro h
      cases h with
      | plain digits => exact ⟨_, digits, rfl⟩
      | plus digits => exact absurd rfl (notPlus _)
      | minus digits => exact absurd rfl (notMinus _)

/-- A word is read off an integer that it stands for. -/
theorem word?_eq_some_iff {cs : List Char} {w : Word} : word? cs = some w ↔ Literal cs w.toInt := by
  simp only [word?, Option.bind_eq_some_iff, int?_eq_some_iff, Word.ofInt?_eq_some_iff]
  constructor
  · rintro ⟨i, hliteral, rfl⟩
    exact hliteral
  · intro h
    exact ⟨_, h, rfl⟩

end Decimal

end StackMachine
