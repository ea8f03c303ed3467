import Mathlib.Data.List.Infix
import StackMachine.Proofs.BinaryImage
import StackMachine.Proofs.TextLines

/-!
# Writes that do not come to their end

A write may stop anywhere: the sink is full, or the writer comes upon something that its fields cannot
hold.  What the sink has taken by then is a beginning of the container, and `Draft.Unfinished` says
which beginnings can be left so.  The counts are written before their records and the lengths before
their texts, so a reader that gets such a beginning still waits for bytes when it ends (`Notices`).
Where not even the magic bytes were taken the text reader is asked, and it finds no count.
-/

namespace StackMachine

/-! ## What is left of a draft -/

namespace Sink

theorem admits_isPrefix (s : Sink) (bytes : List UInt8) : s.admits bytes <+: bytes := by
  unfold admits
  split
  next => exact List.prefix_rfl
  next room _ => exact List.take_prefix room bytes

/-- A write succeeds if the sink has room for all of it. -/
theorem write_eq_none_iff {s : Sink} {bytes : List UInt8} :
    (s.write bytes).2 = none ↔ s.admits bytes = bytes := by
  have whole : s.admits bytes = bytes ↔ (s.admits bytes).length = bytes.length :=
    ⟨congrArg List.length, (s.admits_isPrefix bytes).eq_of_length⟩
  rw [whole]
  simp [write]

end Sink

namespace Draft

/-- These bytes can be left of a draft that was not written to its end: some are missing, or the writer
stopped behind them. -/
structure Unfinished (d : Draft) (bytes : List UInt8) : Prop where
  beginning : bytes <+: d.bytes
  unfinished : bytes ≠ d.bytes ∨ d.refusal ≠ none

section

variable {d e : Draft} {bytes : List UInt8}

theorem content_deliver (d : Draft) (s : Sink) :
    (d.deliver s).1.content = s.content ++ s.admits d.bytes := by
  rw [← Sink.content_write]
  unfold deliver
  split
  next h => rw [h]
  next h => rw [h]

theorem deliver_eq_none_iff {s : Sink} :
    (d.deliver s).2 = none ↔ s.admits d.bytes = d.bytes ∧ d.refusal = none := by
  rw [← Sink.write_eq_none_iff]
  unfold deliver
  split
  next h => simp [h]
  next h => simp [h]

/-- A delivery that fails leaves the draft unfinished. -/
theorem unfinished_of_deliver {s : Sink} (failed : (d.deliver s).2 ≠ none) :
    d.Unfinished (s.admits d.bytes) where
  beginning := s.admits_isPrefix d.bytes
  unfinished := by
    rwa [Ne, deliver_eq_none_iff, not_and_or] at failed

theorem not_unfinished_empty : ¬ (ofBytes []).Unfinished bytes := by
  rintro ⟨beginning, missing | refused⟩
  · exact missing (List.prefix_nil.mp beginning)
  · exact refused rfl

theorem Unfinished.eq_nil {r : Refusal} (h : (refuse r).Unfinished bytes) : bytes = [] :=
  List.prefix_nil.mp h.beginning

/-- Some of the bytes of a draft without a refusal are missing. -/
theorem Unfinished.length_lt {whole : List UInt8} (h : (ofBytes whole).Unfinished bytes) :
    bytes.length < whole.length := by
  have missing : bytes ≠ whole := h.unfinished.resolve_right (not_not.mpr rfl)
  refine Nat.lt_of_le_of_ne h.beginning.length_le fun same => ?_
  exact missing (h.beginning.eq_of_length same)

/-- Of two drafts in a row, the first is unfinished, or else it is there and the second is. -/
theorem Unfinished.append (h : (d ++ e).Unfinished bytes) :
    d.Unfinished bytes ∨
      d.refusal = none ∧ ∃ rest, bytes = d.bytes ++ rest ∧ e.Unfinished rest := by
  obtain ⟨beginning, unfinished⟩ := h
  cases refusal : d.refusal with
  | some r =>
      obtain ⟨dbytes, _⟩ := d
      cases refusal
      exact Or.inl ⟨beginning, Or.inr nofun⟩
  | none =>
      rw [bytes_append_of_complete refusal] at beginning unfinished
      by_cases whole : d.bytes <+: bytes
      · obtain ⟨rest, rfl⟩ := whole
        refine Or.inr ⟨rfl, rest, rfl, (List.prefix_append_right_inj _).mp beginning, ?_⟩
        rcases unfinished with missing | refused
        · exact Or.inl fun same => missing (congrArg (d.bytes ++ ·) same)
        · exact Or.inr fun none => refused (refusal_append_eq_none_iff.mpr ⟨refusal, none⟩)
      · have within : bytes <+: d.bytes :=
          (List.prefix_or_prefix_of_prefix beginning (List.prefix_append _ _)).resolve_right whole
        refine Or.inl ⟨within, Or.inl fun same => ?_⟩
        exact whole (same ▸ List.prefix_rfl)

end

end Draft

namespace BinaryFormat

namespace Reader

/-! ## Readers that notice -/

section

variable {α β : Type} {part : Section} {reader : Reader α} {next : α → Reader β} {d e : Draft}
  {a : α} {f : α → β}

/-- Whatever is left of an unfinished draft, the reader finds that a section ends too early. -/
def Notices (reader : Reader α) (d : Draft) : Prop :=
  ∀ bytes, d.Unfinished bytes → ∃ part, reader bytes = .error (.truncated part)

theorem Notices.empty (reader : Reader α) : Notices reader (.ofBytes []) :=
  fun _ unfinished => absurd unfinished Draft.not_unfinished_empty

/-- Where the writer stopped at once, nothing is there to be read. -/
theorem Notices.refuse (h : reader [] = .error (.truncated part)) (r : Refusal) :
    Notices reader (.refuse r) := by
  intro bytes unfinished
  rw [unfinished.eq_nil]
  exact ⟨part, h⟩

theorem Takes.notices {bytes : List UInt8} (h : Takes part reader bytes a) :
    Notices reader (.ofBytes bytes) := by
  intro left unfinished
  refine ⟨part, ?_⟩
  rw [List.prefix_iff_eq_take.mp unfinished.beginning]
  exact h.cut _ unfinished.length_lt

/-- In a sequence, the first reader notices if its draft is unfinished, and else the second does. -/
theorem Notices.bind (back : ReadsBack reader d a) (first : Notices reader d)
    (second : Notices (next a) e) : Notices (reader >>= next) (d ++ e) := by
  intro bytes unfinished
  rcases unfinished.append with here | ⟨complete, rest, rfl, there⟩
  · obtain ⟨part, short⟩ := first bytes here
    refine ⟨part, ?_⟩
    show (reader bytes >>= fun x => next x.1 x.2) = _
    rw [short]
    rfl
  · obtain ⟨part, short⟩ := second rest there
    refine ⟨part, ?_⟩
    show (reader (d.bytes ++ rest) >>= fun x => next x.1 x.2) = _
    rw [back complete]
    exact short

theorem Notices.finish (h : Notices reader d) : Notices (reader >>= next) d := by
  intro bytes unfinished
  obtain ⟨part, short⟩ := h bytes unfinished
  refine ⟨part, ?_⟩
  show (reader bytes >>= fun x => next x.1 x.2) = _
  rw [short]
  rfl

end

/-! ### Fields -/

theorem field_notices (part : Section) (width n : Nat) (otherwise : Refusal) (pos : 0 < width) :
    Notices (number part width) (field width n otherwise) := by
  unfold field
  split
  next fits => exact (number_takes part fits).notices
  next =>
    have missing : number part width [] = .error (.truncated part) := by
      cases width with
      | zero => cases pos
      | succ width => rfl
    exact Notices.refuse missing otherwise

theorem word_notices (part : Section) (w : Word) :
    Notices (word part) (.ofBytes (BigEndian.encodeWord w)) :=
  ((word_exact part).takes w).notices

/-- A text that is too long is not even begun. -/
theorem text_notices (part : Section) (s : String) : Notices (text part) (textField s) := by
  have length := field_notices part lengthWidth (Utf8.encode s).length .nameTooLong (by decide)
  have bytes := (take_takes part (Eq.refl (Utf8.encode s).length)).notices
  exact length.bind (number_readsBack part _ _ _) bytes.finish

/-! ### Records -/

/-- A mnemonic that is too long has been announced. -/
theorem mnemonic_notices (mn : Mnemonic) : Notices mnemonic (mnemonicField mn) := by
  have announced (b : UInt8) : Notices (byte .code) (.ofBytes [b]) := (byte_takes .code b).notices
  cases mn with
  | known op => exact (announced op.byte).finish
  | unknown text =>
      refine (announced unknownMark).bind (byte_readsBack .code unknownMark) ?_
      rw [if_pos rfl]
      exact (text_notices .code text).finish

theorem instruction_notices (i : Instruction) : Notices instruction (instructionField i) :=
  (mnemonic_notices i.mnemonic).bind (mnemonic_readsBack i.mnemonic)
    (word_notices .code i.operand).finish

theorem records_notices {α : Type} {record : Reader α} {write : α → Draft}
    (back : ∀ a, ReadsBack record (write a) a) (h : ∀ a, Notices record (write a)) (as : List α) :
    Notices (records record as.length) (Draft.concat (as.map write)) := by
  induction as with
  | nil => exact Notices.empty _
  | cons a as ih => exact (h a).bind (back a) ih.finish

/-- The count was written for all records, so one that is missing is missed. -/
theorem table_notices {α : Type} (part : Section) {record : Reader α} {write : α → Draft}
    (back : ∀ a, ReadsBack record (write a) a) (h : ∀ a, Notices record (write a)) (as : List α) :
    Notices (table part record) (writeTable (as.map write)) := by
  have count := field_notices part countWidth (as.map write).length .sectionTooLarge (by decide)
  refine count.bind (number_readsBack part _ _ _) ?_
  rw [List.length_map]
  exact records_notices back h as

theorem header_notices : Notices header headerField := by
  have zeros : (List.replicate reservedWidth (0 : UInt8)).length = reservedWidth := rfl
  exact (header_takes zeros).notices

theorem program_notices (p : Program) : Notices program (write p) := by
  have code := table_notices .code instruction_readsBack instruction_notices p.code.toList
  have consts := table_notices .consts (word_readsBack .consts) (word_notices .consts)
    p.consts.toList
  have names := table_notices .names (text_readsBack .names) (text_notices .names) p.names.toList
  unfold write
  rw [Draft.append_assoc, Draft.append_assoc]
  refine header_notices.bind header_readsBack ?_
  refine code.bind (table_readsBack .code instruction_readsBack _) ?_
  exact consts.bind (table_readsBack .consts (word_readsBack .consts) _) names.finish

end Reader

/-! ## What is left of a container -/

variable {p : Program} {bytes : List UInt8}

theorem read_unfinished (h : (write p).Unfinished bytes) :
    ∃ part, read bytes = .error (.truncated part) := by
  obtain ⟨part, short⟩ := Reader.program_notices p bytes h
  refine ⟨part, ?_⟩
  show (Reader.program bytes >>= _) = _
  rw [short]
  rfl

/-- A beginning of the magic bytes is no text container. -/
theorem text_read_take_magic {k : Nat} (hk : k < magic.length) :
    ∃ e, TextFormat.read (magic.take k) = .error e := by
  match k, hk with
  | 0, _ => exact ⟨.truncated .code, by decide +kernel⟩
  | 1, _ => exact ⟨.invalidCount 1 "M", by decide +kernel⟩
  | 2, _ => exact ⟨.invalidCount 1 "MP", by decide +kernel⟩
  | 3, _ => exact ⟨.invalidCount 1 "MPB", by decide +kernel⟩

theorem magic_isPrefix_write (p : Program) : magic <+: (write p).bytes := by
  unfold write
  rw [Draft.append_assoc, Draft.append_assoc]
  exact List.prefix_append magic _

/-- Nothing that is left of an unfinished container can be loaded, by either reader. -/
theorem load_unfinished (h : (write p).Unfinished bytes) :
    ∃ e, Container.load bytes = .error e := by
  unfold Container.load
  split
  next =>
    obtain ⟨part, short⟩ := read_unfinished h
    exact ⟨_, short⟩
  next other =>
    rw [List.isPrefixOf_iff_prefix] at other
    -- Both are beginnings of the container, so what is left is one of the magic bytes.
    have within : bytes <+: magic :=
      (List.prefix_or_prefix_of_prefix h.beginning (magic_isPrefix_write p)).resolve_right other
    have short : bytes.length < magic.length := by
      refine Nat.lt_of_le_of_ne within.length_le fun same => ?_
      exact other (within.eq_of_length same ▸ List.prefix_rfl)
    rw [List.prefix_iff_eq_take.mp within]
    exact text_read_take_magic short

/-- **A failed write leaves nothing that can be loaded.**  Whatever the limit of the sink, it takes the
beginning that fits of what it would take without a limit.  If the write succeeds, this is a container
of the program; if it fails, because the sink is full or because the writer stopped, it is no
container of any program. -/
theorem failed_write_unloadable (p : Program) (limit : Option Nat) (overrun : SinkError)
    (flushError : Nat → Option SinkError) :
    let whole := (write p).deliver { overrun, flushError }
    let written := (write p).deliver { room := limit, overrun, flushError }
    written.1.content <+: whole.1.content ∧
      (∀ n, limit = some n → written.1.content = whole.1.content.take n) ∧
      (written.2 = none → Container.load written.1.content = .ok p) ∧
      (written.2 ≠ none → ∃ e, Container.load written.1.content = .error e) := by
  intro whole written
  have all : whole.1.content = (write p).bytes := Draft.content_deliver _ _
  have some_of : written.1.content =
      ({ room := limit, overrun, flushError } : Sink).admits (write p).bytes :=
    Draft.content_deliver _ _
  rw [all, some_of]
  refine ⟨Sink.admits_isPrefix _ _, ?_, ?_, ?_⟩
  · rintro n rfl
    rfl
  · intro succeeded
    obtain ⟨fits, complete⟩ := Draft.deliver_eq_none_iff.mp succeeded
    rw [fits]
    exact load_write_of_complete complete
  · intro failed
    exact load_unfinished (Draft.unfinished_of_deliver failed)

/-- A program whose second name is one byte too long. -/
def overlong : Program where
  code := #[⟨.unknown "FROB", 3⟩]
  names := #["x", String.ofList (List.replicate 65536 'a')]

/-- The writer stops between two names.  A sink that stalls after half the magic bytes leaves a
beginning for the text reader, and one that is full before the last byte leaves a name cut short. -/
theorem failed_write_unloadable_overlong :
    ((write overlong).deliver {}).2 ≠ none ∧
      (∃ e, Container.load ((write overlong).deliver {}).1.content = .error e) ∧
      ((write lookalikes).deliver { room := some 2 }).2 = some (.sink .stalled) ∧
      ((write lookalikes).deliver { room := some 2 }).1.content = [0x4D, 0x50] ∧
      (∃ e, Container.load ((write lookalikes).deliver { room := some 2 }).1.content = .error e) ∧
      ((write lookalikes).deliver { room := some 69, overrun := .failed "full" }).2 =
        some (.sink (.failed "full")) ∧
      (∃ e, Container.load
        ((write lookalikes).deliver { room := some 69, overrun := .failed "full" }).1.content =
          .error e) ∧
      Container.load ((write lookalikes).deliver { room := some 70 }).1.content = .ok lookalikes := by
  have size : (String.ofList (List.replicate 65536 'a')).utf8ByteSize = 65536 := by
    rw [← Utf8.length_encode, Utf8.encode_ofList, List.length_flatMap, List.map_replicate,
      List.sum_replicate_nat]
    rfl
  have stopped : ((write overlong).deliver {}).2 ≠ none := by
    rw [Ne, Draft.deliver_eq_none_iff, write_complete_iff]
    rintro ⟨_, encodable⟩
    have fits : (String.ofList (List.replicate 65536 'a')).utf8ByteSize ≤ 65535 :=
      encodable.names _ (Array.mem_of_getElem? (i := 1) rfl)
    rw [size] at fits
    exact absurd fits (by decide)
  have stalled : ((write lookalikes).deliver { room := some 2 }).2 = some (.sink .stalled) := by decide
  have full : ((write lookalikes).deliver { room := some 69, overrun := .failed "full" }).2 =
      some (.sink (.failed "full")) := by decide
  have fits : ((write lookalikes).deliver { room := some 70 }).2 = none := by decide
  obtain ⟨_, _, _, refused⟩ := failed_write_unloadable overlong none .stalled fun _ => none
  obtain ⟨_, _, _, cut⟩ := failed_write_unloadable lookalikes (some 2) .stalled fun _ => none
  obtain ⟨_, _, _, short⟩ := failed_write_unloadable lookalikes (some 69) (.failed "full")
    fun _ => none
  obtain ⟨_, _, enough, _⟩ := failed_write_unloadable lookalikes (some 70) .stalled fun _ => none
  exact ⟨stopped, refused stopped, stalled, by decide, cut (by simp [stalled]), full,
    short (by simp [full]), enough fits⟩

end BinaryFormat

end StackMachine
