import StackMachine.Proofs.BinaryRoundTrip
import StackMachine.Proofs.Lockstep
import StackMachine.Proofs.TextRoundTrip

/-!
# Programs written as text

The text writer looks at names and lets every mnemonic pass.  So it also writes programs that a text
cannot hold, as a binary container may well contain them.  If their mnemonics are words, the text is
loaded without complaint, but a mnemonic that was kept apart from the opcode whose name it spells has
become that opcode (`load_write_of_words`).  The program that is loaded is then another one, and does
something else.
-/

namespace StackMachine.TextFormat

open Text (Unbroken)

/-- A text of words is loaded as the program that its words spell. -/
theorem load_write_of_words {p : Program} (hnames : ∀ name ∈ p.names, Unbroken name.toList)
    (hwords : ∀ i ∈ p.code, IsWord i.mnemonic) (hcounts : CountsFit p) :
    Container.load (write p).bytes = .ok (respellAll p) := by
  rw [write_eq_linesDraft hnames, load_linesDraft,
    read_linesDraft (unbroken_containerLines_of_words hwords hnames),
    ofLines_containerLines_of_words hwords hcounts]

/-- A text that is loaded as the program it was written for has mnemonics that a text can hold. -/
theorem readable_of_load_write {p : Program} (hnames : ∀ name ∈ p.names, Unbroken name.toList)
    (h : Container.load (write p).bytes = .ok p) :
    (∀ i ∈ p.code, Readable i.mnemonic) ∧ CountsFit p := by
  rw [write_eq_linesDraft hnames, load_linesDraft] at h
  exact readable_of_read h

/-- **What a text writer emits loads back only if it is readable.**  Into a sink without a limit a
program may be written successfully and yet not be the one that is loaded from the bytes.  It is
exactly if each mnemonic is known, or is a word that no opcode goes by.  (The counts of tables in
memory always fit.)  Where all mnemonics are words, what is loaded is always a program, the one with
every mnemonic that spells an opcode turned into it. -/
theorem text_loads_back_iff (p : Program) (s : Sink) (unlimited : s.room = none)
    (written : ((write p).deliver s).2 = none) :
    ∃ bytes, ((write p).deliver s).1.content = s.content ++ bytes ∧
      (Container.load bytes = .ok p ↔ (∀ i ∈ p.code, Readable i.mnemonic) ∧ CountsFit p) ∧
      ((∀ i ∈ p.code, IsWord i.mnemonic) → CountsFit p →
        Container.load bytes = .ok (respellAll p)) := by
  rw [Draft.deliver_unlimited_eq_none_iff _ unlimited, write_complete_iff] at written
  refine ⟨(write p).bytes, Draft.content_deliver_unlimited _ unlimited, ⟨?_, ?_⟩, ?_⟩
  · exact readable_of_load_write written
  · rintro ⟨hmnemonics, hcounts⟩
    have hwords : ∀ i ∈ p.code, IsWord i.mnemonic := fun i hi => (hmnemonics i hi).word
    rw [load_write_of_words written hwords hcounts, respellAll_eq_self hmnemonics]
  · exact load_write_of_words written

/-- Between two known opcodes stands a mnemonic that is not known, although it spells one. -/
def disguised : Program where
  code := #[⟨.known .loadConst, 0⟩, ⟨.unknown "PRINT", 0⟩, ⟨.known .halt, 0⟩]
  consts := #[42]
  names := #[]

theorem text_loads_back_iff_disguised :
    ({} : Sink).room = none ∧ ((write disguised).deliver {}).2 = none ∧
      (∀ i ∈ disguised.code, IsWord i.mnemonic) ∧
      ∃ bytes, ((write disguised).deliver {}).1.content = ({} : Sink).content ++ bytes ∧
        Container.load bytes ≠ .ok disguised ∧
        Container.load bytes = .ok (respellAll disguised) := by
  have written : ((write disguised).deliver {}).2 = none := by decide
  have words : ∀ i ∈ disguised.code, IsWord i.mnemonic := by decide
  have counts : CountsFit disguised := ⟨by decide, by decide, by decide⟩
  have unreadable : ¬ ∀ i ∈ disguised.code, Readable i.mnemonic := by decide
  obtain ⟨bytes, content, back, spelled⟩ := text_loads_back_iff disguised {} rfl written
  exact ⟨rfl, written, words, bytes, content, fun loaded => unreadable (back.mp loaded).1,
    spelled words counts⟩

/-- A binary container holds the program, and it stops at the mnemonic that is not known.  It is
written as text without an error; the text is loaded without one, and the program so loaded prints a
line and halts. -/
theorem text_changes_disguised :
    Container.load (BinaryFormat.write disguised).bytes = .ok disguised ∧
      ((write disguised).deliver {}).2 = none ∧
      Container.load ((write disguised).deliver {}).1.content = .ok (respellAll disguised) ∧
      respellAll disguised ≠ disguised ∧
      (Machine.after disguised {} {} 3).fault = some (.unknownOpcode "PRINT") ∧
      (Machine.after (respellAll disguised) {} {} 3).state = .halted ∧
      (Machine.after (respellAll disguised) {} {} 3).sink.content = Utf8.encode "42\n" := by
  have names : ∀ name ∈ disguised.names, Unbroken name.toList := by decide
  have words : ∀ i ∈ disguised.code, IsWord i.mnemonic := by decide
  have counts : CountsFit disguised := ⟨by decide, by decide, by decide⟩
  have content : ((write disguised).deliver {}).1.content = (write disguised).bytes :=
    Draft.content_deliver_unlimited _ rfl
  refine ⟨BinaryFormat.load_write_of_complete (by decide), by decide, ?_, by decide +kernel,
    by decide, by decide +kernel, by decide +kernel⟩
  rw [content]
  exact load_write_of_words names words counts

end StackMachine.TextFormat
