import StackMachine.BinaryFormat.Writer
import StackMachine.Container
import StackMachine.Proofs.Delivery

/-!
# The binary format loses nothing

The writer refuses what its fields cannot hold, and nothing else; what it writes, the reader reads
back.  Both formats of a record, the bytes and the value, are tied together by `ReadsBack`: the
reader takes exactly the bytes of a complete draft off the front and leaves the rest as it is, so
that records can be put in a row without a thought for what follows them.
-/

namespace StackMachine.BinaryFormat

namespace Reader

/-! ## Reading back in sequence -/

/-- The reader takes a complete draft off the front of any bytes and finds the value there. -/
def ReadsBack {α : Type} (reader : Reader α) (d : Draft) (a : α) : Prop :=
  d.refusal = none → ∀ rest, reader (d.bytes ++ rest) = .ok (a, rest)

theorem ReadsBack.pure {α : Type} (a : α) : ReadsBack (Pure.pure a) (.ofBytes []) a :=
  fun _ _ => rfl

theorem ReadsBack.bind {α β : Type} {reader : Reader α} {next : α → Reader β} {d e : Draft}
    {a : α} {b : β} (first : ReadsBack reader d a) (second : ReadsBack (next a) e b) :
    ReadsBack (reader >>= next) (d ++ e) b := by
  intro complete rest
  obtain ⟨hd, he⟩ := Draft.refusal_append_eq_none_iff.mp complete
  rw [Draft.bytes_append_of_complete hd, List.append_assoc]
  show (reader (d.bytes ++ (e.bytes ++ rest)) >>= fun x => next x.1 x.2) = .ok (b, rest)
  rw [first hd]
  exact second he rest

/-- What is worked out from a value that was read needs no further bytes. -/
theorem ReadsBack.finish {α β : Type} {reader : Reader α} {next : α → Reader β} {d : Draft}
    {a : α} {b : β} (h : ReadsBack reader d a) (done : ∀ rest, next a rest = .ok (b, rest)) :
    ReadsBack (reader >>= next) d b := by
  intro complete rest
  show (reader (d.bytes ++ rest) >>= fun x => next x.1 x.2) = .ok (b, rest)
  rw [h complete]
  exact done rest

theorem ReadsBack.map {α β : Type} {reader : Reader α} {d : Draft} {a : α} {b : β} {f : α → β}
    (h : ReadsBack reader d a) (hf : f a = b) : ReadsBack (f <$> reader) d b := by
  intro complete rest
  show (reader (d.bytes ++ rest) >>= fun x => Except.ok (f x.1, x.2)) = .ok (b, rest)
  rw [h complete, ← hf]
  rfl

/-! ## Fields -/

theorem take_readsBack (part : Section) {bytes : List UInt8} {n : Nat} (h : bytes.length = n) :
    ReadsBack (take part n) (.ofBytes bytes) bytes := by
  intro _ rest
  subst h
  simp [take]

theorem byte_readsBack (part : Section) (b : UInt8) : ReadsBack (byte part) (.ofBytes [b]) b :=
  fun _ _ => rfl

theorem number_readsBack (part : Section) (width n : Nat) (otherwise : Refusal) :
    ReadsBack (number part width) (field width n otherwise) n := by
  unfold field
  split
  next fits =>
    have bytes := take_readsBack part (BigEndian.length_encode width n)
    exact bytes.map (BigEndian.decode_encode fits)
  next =>
    intro complete
    cases complete

theorem word_readsBack (part : Section) (w : Word) :
    ReadsBack (word part) (.ofBytes (BigEndian.encodeWord w)) w := by
  have bytes := take_readsBack part (BigEndian.length_encodeWord w)
  exact bytes.map (BigEndian.decodeWord_encodeWord w)

theorem text_readsBack (part : Section) (s : String) : ReadsBack (text part) (textField s) s := by
  have length := number_readsBack part lengthWidth (Utf8.encode s).length .nameTooLong
  have bytes := take_readsBack part (Eq.refl (Utf8.encode s).length)
  refine length.bind (bytes.finish fun rest => ?_)
  rw [Utf8.decode?_encode]
  rfl

/-! ## Records -/

/-- A mnemonic that is known is found by its byte; any other is spelled out, whatever its text. -/
theorem mnemonic_readsBack (mn : Mnemonic) : ReadsBack mnemonic (mnemonicField mn) mn := by
  cases mn with
  | known op =>
      refine (byte_readsBack .code op.byte).finish fun rest => ?_
      rw [if_neg (byte_ne_unknownMark op)]
      simp only [mnemonicOfByte, Opcode.ofByte?_byte]
      rfl
  | unknown text =>
      refine (byte_readsBack .code unknownMark).bind ?_
      rw [if_pos rfl]
      exact (text_readsBack .code text).finish fun _ => rfl

theorem instruction_readsBack (i : Instruction) :
    ReadsBack instruction (instructionField i) i :=
  (mnemonic_readsBack i.mnemonic).bind
    ((word_readsBack .code i.operand).finish fun _ => rfl)

/-- Records in a row are read back in their order. -/
theorem records_readsBack {α : Type} {record : Reader α} {write : α → Draft}
    (h : ∀ a, ReadsBack record (write a) a) (as : List α) :
    ReadsBack (records record as.length) (Draft.concat (as.map write)) as := by
  induction as with
  | nil => exact ReadsBack.pure []
  | cons a as ih => exact (h a).bind (ih.finish fun _ => rfl)

theorem table_readsBack {α : Type} (part : Section) {record : Reader α} {write : α → Draft}
    (h : ∀ a, ReadsBack record (write a) a) (as : List α) :
    ReadsBack (table part record) (writeTable (as.map write)) as := by
  have count := number_readsBack part countWidth (as.map write).length .sectionTooLarge
  refine count.bind ?_
  rw [List.length_map]
  exact records_readsBack h as

theorem header_readsBack : ReadsBack header headerField () :=
  fun _ _ => rfl

/-- A whole program is read back, as far as its container goes. -/
theorem program_readsBack (p : Program) : ReadsBack program (write p) p := by
  have code := table_readsBack .code instruction_readsBack p.code.toList
  have consts := table_readsBack .consts (word_readsBack .consts) p.consts.toList
  have names := table_readsBack .names (text_readsBack .names) p.names.toList
  unfold write
  rw [Draft.append_assoc, Draft.append_assoc]
  exact header_readsBack.bind (code.bind (consts.bind (names.finish fun _ => rfl)))

end Reader

/-! ## Complete containers -/

/-- What is written whole is read back whole. -/
theorem read_write_of_complete {p : Program} (complete : (write p).refusal = none) :
    read (write p).bytes = .ok p := by
  have h := Reader.program_readsBack p complete []
  rw [List.append_nil] at h
  show (Reader.program (write p).bytes >>= _) = _
  rw [h]
  rfl

/-- A container that is written whole starts with the magic bytes, so it is loaded as binary. -/
theorem load_write_of_complete {p : Program} (complete : (write p).refusal = none) :
    Container.load (write p).bytes = .ok p := by
  have hm : magic.isPrefixOf (write p).bytes = true := by
    unfold write
    rw [Draft.append_assoc, Draft.append_assoc]
    rfl
  rw [Container.load, if_pos hm, read_write_of_complete complete]

/-! ## What can be written -/

/-- What the fields of the format can hold: fewer than `2^32` records in a table, and at most 65535
bytes in a name or in a mnemonic that is spelled out. -/
structure Encodable (p : Program) : Prop where
  code_size : p.code.size < UInt32.size
  consts_size : p.consts.size < UInt32.size
  names_size : p.names.size < UInt32.size
  mnemonics : ∀ i ∈ p.code, ∀ text, i.mnemonic = .unknown text → text.utf8ByteSize ≤ 65535
  names : ∀ name ∈ p.names, name.utf8ByteSize ≤ 65535

theorem field_complete_iff {width n : Nat} {otherwise : Refusal} :
    (field width n otherwise).refusal = none ↔ n < BigEndian.capacity width := by
  unfold field
  split
  next fits => simp [fits]
  next fits => simp [fits, Draft.refuse]

theorem textField_complete_iff {s : String} :
    (textField s).refusal = none ↔ s.utf8ByteSize ≤ 65535 := by
  have hcap : s.utf8ByteSize < BigEndian.capacity lengthWidth ↔ s.utf8ByteSize ≤ 65535 :=
    Nat.lt_succ_iff
  simp [textField, Draft.refusal_append_eq_none_iff, field_complete_iff, hcap]

theorem instructionField_complete_iff {i : Instruction} :
    (instructionField i).refusal = none ↔
      ∀ text, i.mnemonic = .unknown text → text.utf8ByteSize ≤ 65535 := by
  rw [instructionField, Draft.refusal_append_eq_none_iff]
  cases i.mnemonic with
  | known op => simp [mnemonicField]
  | unknown text => simp [mnemonicField, textField_complete_iff]

/-- A table is complete if its count fits and each of its records is complete. -/
theorem writeTable_complete_iff {α : Type} {record : α → Draft} {as : List α} :
    (writeTable (as.map record)).refusal = none ↔
      as.length < UInt32.size ∧ ∀ a ∈ as, (record a).refusal = none := by
  rw [writeTable, Draft.refusal_append_eq_none_iff, field_complete_iff, List.length_map,
    Draft.refusal_concat_map_eq_none_iff]
  rfl

/-- The writer refuses only what the fields cannot hold. -/
theorem write_complete_iff {p : Program} : (write p).refusal = none ↔ Encodable p := by
  simp only [write, Draft.refusal_append_eq_none_iff, writeTable_complete_iff,
    instructionField_complete_iff, textField_complete_iff]
  constructor
  · rintro ⟨⟨⟨-, hcode, hmnemonics⟩, hconsts, -⟩, hnames, htexts⟩
    exact ⟨by simpa using hcode, by simpa using hconsts, by simpa using hnames,
      by simpa using hmnemonics, by simpa using htexts⟩
  · intro h
    refine ⟨⟨⟨rfl, ?_, ?_⟩, ?_, ?_⟩, ?_, ?_⟩
    · simpa using h.code_size
    · simpa using h.mnemonics
    · simpa using h.consts_size
    · intro w _
      rfl
    · simpa using h.names_size
    · simpa using h.names

/-! ## The round trip -/

/-- **Nothing is lost in the binary format.**  Into a sink without a limit, a program is written
exactly if the fields can hold it, and the bytes that the sink then took are a container of that
very program: known and unknown mnemonics stay apart, whatever their texts. -/
theorem binary_round_trip (p : Program) (s : Sink) (unlimited : s.room = none) :
    (((write p).deliver s).2 = none ↔ Encodable p) ∧
      (((write p).deliver s).2 = none →
        ∃ bytes, ((write p).deliver s).1.content = s.content ++ bytes ∧
          Container.load bytes = .ok p ∧ read bytes = .ok p) := by
  rw [Draft.deliver_unlimited_eq_none_iff _ unlimited]
  refine ⟨write_complete_iff, fun complete => ⟨(write p).bytes, ?_, ?_, ?_⟩⟩
  · exact Draft.content_deliver_unlimited _ unlimited
  · exact load_write_of_complete complete
  · exact read_write_of_complete complete

/-- A program of lookalikes: the name of an opcode as a mnemonic that is not known, a mnemonic
without a text, and names that hold line breaks or nothing. -/
def lookalikes : Program where
  code := #[⟨.unknown "ADD", -1⟩, ⟨.known (.arith .add), 5⟩, ⟨.unknown "", 0⟩]
  consts := #[-7]
  names := #["a\r\nb", ""]

theorem binary_round_trip_lookalikes :
    ({} : Sink).room = none ∧ Encodable lookalikes ∧
      ∃ bytes, ((write lookalikes).deliver {}).1.content = ({} : Sink).content ++ bytes ∧
        Container.load bytes = .ok lookalikes ∧ read bytes = .ok lookalikes := by
  have h := binary_round_trip lookalikes {} rfl
  have written : ((write lookalikes).deliver {}).2 = none := by decide
  exact ⟨rfl, h.1.mp written, h.2 written⟩

end StackMachine.BinaryFormat
