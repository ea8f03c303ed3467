import StackMachine.Proofs.TextGrammar

/-!
# The normal form of a text

A text may be spelled in many ways: with signs, zeros and blanks that say nothing, with either kind of
line end, with blank lines behind the last name.  Written again it is spelled in one way only.  What
makes this work is that the reader cannot bring forth what the writer would spoil: mnemonics come from
words and names from lines.  The one thing in the way is a carriage return, which a line may hold and
the writer refuses.
-/

namespace StackMachine.TextFormat

/-! ## Names that come from lines -/

theorem eq_map_toList_of_nameLines {lines : List (List Char)} {names : List String}
    (h : List.Forall₂ NameLine lines names) : lines = names.map String.toList := by
  induction h with
  | nil => rfl
  | cons hname _ ih => rw [List.map_cons, hname, ih]

/-- A name that was read holds no line feed, for it was a line. -/
theorem no_feed_of_read {bytes : List UInt8} {p : Program} (h : read bytes = .ok p) :
    ∀ name ∈ p.names, '\n' ∉ name.toList := by
  obtain ⟨text, -, code, consts, names, tail, hlines, container⟩ := read_eq_ok_iff.mp h
  cases container.names with
  | @intro count lines _ _ recorded =>
      intro name hname
      have hline : name.toList ∈ lines := by
        rw [eq_map_toList_of_nameLines recorded]
        exact List.mem_map_of_mem (Array.mem_toList_iff.mpr hname)
      refine hlines.unbroken _ (List.mem_append_left _ (List.mem_append_right _ ?_))
      exact List.mem_cons_of_mem count hline

/-! ## Programs that were read off a text -/

/-- Of a program that was read off a text, the writer refuses carriage returns in names and nothing
else. -/
theorem write_complete_iff_of_read {bytes : List UInt8} {p : Program} (h : read bytes = .ok p) :
    (write p).refusal = none ↔ ∀ name ∈ p.names, '\r' ∉ name.toList := by
  rw [write_complete_iff]
  constructor
  · intro unbroken name hname
    exact (unbroken name hname).2
  · intro plain name hname
    exact ⟨no_feed_of_read h name hname, plain name hname⟩

/-- What the writer does not refuse is loaded as the program it was. -/
theorem load_write_of_read {bytes : List UInt8} {p : Program} (h : read bytes = .ok p)
    (complete : (write p).refusal = none) : Container.load (write p).bytes = .ok p := by
  have unbroken := write_complete_iff.mp complete
  obtain ⟨mnemonics, counts⟩ := readable_of_read h
  rw [write_eq_linesDraft unbroken, load_linesDraft,
    read_linesDraft (unbroken_containerLines mnemonics unbroken),
    ofLines_containerLines mnemonics counts]

/-! ## The normal form -/

/-- What a program is written as: every sink without a limit takes just these bytes. -/
def WrittenAs (p : Program) (bytes : List UInt8) : Prop :=
  ∀ s : Sink, s.room = none →
    ((write p).deliver s).2 = none ∧ ((write p).deliver s).1.content = s.content ++ bytes

theorem writtenAs_iff {p : Program} {bytes : List UInt8} :
    WrittenAs p bytes ↔ (write p).refusal = none ∧ (write p).bytes = bytes := by
  constructor
  · intro h
    obtain ⟨delivered, content⟩ := h {} rfl
    rw [Draft.content_deliver_unlimited _ rfl] at content
    exact ⟨(Draft.deliver_unlimited_eq_none_iff _ rfl).mp delivered,
      List.append_cancel_left content⟩
  · rintro ⟨complete, rfl⟩ s unlimited
    exact ⟨(Draft.deliver_unlimited_eq_none_iff _ unlimited).mpr complete,
      Draft.content_deliver_unlimited _ unlimited⟩

/-- **Writing brings a text into its normal form.**  A program that was read off a text is written
into a sink without a limit, unless a name of it holds a carriage return; then it is refused.  The
bytes that are written load as the same program, and this is written as the same bytes again.
However another text is spelled, it is written as these bytes exactly if it describes the same
program. -/
theorem text_normal_form {bytes : List UInt8} {p : Program} (h : read bytes = .ok p) (s : Sink)
    (unlimited : s.room = none) :
    (((write p).deliver s).2 = none ↔ ∀ name ∈ p.names, '\r' ∉ name.toList) ∧
      (((write p).deliver s).2 = none →
        ∃ written, ((write p).deliver s).1.content = s.content ++ written ∧
          Container.load written = .ok p ∧
          (∀ q, Container.load written = .ok q → WrittenAs q written) ∧
          ∀ other q, read other = .ok q → (WrittenAs q written ↔ q = p)) := by
  rw [Draft.deliver_unlimited_eq_none_iff _ unlimited]
  refine ⟨write_complete_iff_of_read h, fun complete => ?_⟩
  have loaded := load_write_of_read h complete
  have again : WrittenAs p (write p).bytes := writtenAs_iff.mpr ⟨complete, rfl⟩
  refine ⟨(write p).bytes, Draft.content_deliver_unlimited _ unlimited, loaded, ?_, ?_⟩
  · intro q hq
    obtain rfl : p = q := Except.ok.inj (loaded.symm.trans hq)
    exact again
  · intro other q hother
    constructor
    · intro alike
      obtain ⟨complete', hbytes⟩ := writtenAs_iff.mp alike
      have loaded' := load_write_of_read hother complete'
      rw [hbytes, loaded] at loaded'
      exact (Except.ok.inj loaded').symm
    · rintro rfl
      exact again

/-- A text that makes use of every freedom in spelling. -/
def lavish : String :=
  "+002\r\n\tJUMP  +00\r\nADD -0\n 01 \n-007\r\n1\r\n x \r\n \n\r\n"

/-- The program that it describes. -/
def plainSpoken : Program where
  code := #[⟨.known .jump, 0⟩, ⟨.known (.arith .add), 0⟩]
  consts := #[-7]
  names := #[" x "]

/-- A text with a carriage return inside of its only name. -/
def returnInName : String :=
  "0\n0\n1\na\rb\n"

/-- The lavish text is written as a plain one, which loads and is written as itself.  The other text
is read and cannot be written. -/
theorem text_normal_form_lavish :
    read (Utf8.encode lavish) = .ok plainSpoken ∧ ((write plainSpoken).deliver {}).2 = none ∧
      Container.load (Utf8.encode "2\nJUMP 0\nADD\n1\n-7\n1\n x \n") = .ok plainSpoken ∧
      WrittenAs plainSpoken (Utf8.encode "2\nJUMP 0\nADD\n1\n-7\n1\n x \n") ∧
      read (Utf8.encode returnInName) = .ok ⟨#[], #[], #["a\rb"]⟩ ∧
      ((write ⟨#[], #[], #["a\rb"]⟩).deliver {}).2 ≠ none := by
  have hlavish : read (Utf8.encode lavish) = .ok plainSpoken := by
    rw [read_encode]
    decide +kernel
  have hreturn : read (Utf8.encode returnInName) = .ok ⟨#[], #[], #["a\rb"]⟩ := by
    rw [read_encode]
    decide +kernel
  obtain ⟨writable, normal⟩ := text_normal_form hlavish {} rfl
  have delivered : ((write plainSpoken).deliver {}).2 = none := writable.mpr (by decide)
  obtain ⟨written, content, loaded, again, -⟩ := normal delivered
  obtain rfl : written = Utf8.encode "2\nJUMP 0\nADD\n1\n-7\n1\n x \n" := by
    have hcontent : ((write plainSpoken).deliver {}).1.content =
        Utf8.encode "2\nJUMP 0\nADD\n1\n-7\n1\n x \n" := by decide +kernel
    rw [content] at hcontent
    exact hcontent
  refine ⟨hlavish, delivered, loaded, again plainSpoken loaded, hreturn, ?_⟩
  intro hdelivered
  exact absurd ((text_normal_form hreturn {} rfl).1.mp hdelivered) (by decide)

end StackMachine.TextFormat
