import StackMachine.Proofs.BinaryRoundTrip
import StackMachine.Proofs.Results

/-!
# Binary containers taken apart

An image is a binary container taken apart: the reserved bytes, and for every table its records as
they are stored.  It knows more than the program it stands for, because the reader makes no
difference between some containers: it skips the reserved bytes, and it shows a byte that belongs to
no opcode as if that byte had been spelled out.

The reader accepts exactly the bytes of images (`read_eq_ok_iff`).  Every piece of an image says where
it ends, so a reader that is given a piece takes just this piece, and one that is given less complains
that its section ends too early (`Takes`).
-/

namespace StackMachine.BinaryFormat

/-! ## Images -/

/-- A text that its length field can count. -/
structure ShortText : Type where
  text : String
  fits : text.utf8ByteSize ≤ 65535

/-- Some records that their count can count. -/
structure Table (α : Type) : Type where
  entries : List α
  fits : entries.length < UInt32.size

/-- How the opcode of an instruction is stored: as a byte, which need not belong to an opcode, or
spelled out. -/
inductive StoredOpcode : Type where
  | byte (b : UInt8) (plain : b ≠ unknownMark)
  | spelled (name : ShortText)

structure StoredInstruction : Type where
  opcode : StoredOpcode
  operand : Word

/-- A binary container taken apart. -/
structure Image : Type where
  reserved : List UInt8
  code : Table StoredInstruction
  consts : Table Word
  names : Table ShortText
  reserved_length : reserved.length = reservedWidth

/-! ## The bytes of an image -/

def ShortText.bytes (t : ShortText) : List UInt8 :=
  BigEndian.encode lengthWidth t.text.utf8ByteSize ++ Utf8.encode t.text

/-- A table is its count and then its records. -/
def Table.bytes {α : Type} (record : α → List UInt8) (t : Table α) : List UInt8 :=
  BigEndian.encode countWidth t.entries.length ++ t.entries.flatMap record

def StoredOpcode.bytes : StoredOpcode → List UInt8
  | byte b _ => [b]
  | spelled name => unknownMark :: name.bytes

/-- An instruction with its opcode stored in the given way. -/
def StoredInstruction.layout (opcode : StoredOpcode → List UInt8) (i : StoredInstruction) :
    List UInt8 :=
  opcode i.opcode ++ BigEndian.encodeWord i.operand

def headerBytes (reserved : List UInt8) : List UInt8 :=
  magic ++ [version] ++ reserved

/-- A container with the given reserved field and its opcodes stored in the given way. -/
def Image.layout (img : Image) (reserved : List UInt8) (opcode : StoredOpcode → List UInt8) :
    List UInt8 :=
  headerBytes reserved ++ img.code.bytes (StoredInstruction.layout opcode) ++
    img.consts.bytes BigEndian.encodeWord ++ img.names.bytes ShortText.bytes

def Image.bytes (img : Image) : List UInt8 :=
  img.layout img.reserved StoredOpcode.bytes

/-! ## The program of an image -/

def StoredOpcode.mnemonic : StoredOpcode → Mnemonic
  | byte b _ => mnemonicOfByte b
  | spelled name => .unknown name.text

def StoredInstruction.instruction (i : StoredInstruction) : Instruction :=
  ⟨i.opcode.mnemonic, i.operand⟩

def Image.program (img : Image) : Program where
  code := (img.code.entries.map StoredInstruction.instruction).toArray
  consts := img.consts.entries.toArray
  names := (img.names.entries.map ShortText.text).toArray

namespace Reader

/-! ## Taking a piece and nothing else -/

section

variable {α β : Type} {part : Section} {reader : Reader α} {next : α → Reader β}
  {bytes others : List UInt8} {a : α} {b : β}

/-- What is read in two steps is read by each of them in turn. -/
theorem seq_eq_ok {input rest : List UInt8} (h : (reader >>= next) input = .ok (b, rest)) :
    ∃ a between, reader input = .ok (a, between) ∧ next a between = .ok (b, rest) := by
  obtain ⟨⟨a, between⟩, hfirst, hnext⟩ := bind_eq_ok (x := reader input) h
  exact ⟨a, between, hfirst, hnext⟩

theorem map_eq_ok {f : α → β} {input rest : List UInt8} (h : (f <$> reader) input = .ok (b, rest)) :
    ∃ a, reader input = .ok (a, rest) ∧ f a = b := by
  obtain ⟨⟨a, between⟩, hfirst, hdone⟩ := bind_eq_ok (x := reader input) h
  cases hdone
  exact ⟨a, hfirst, rfl⟩

/-- The reader takes just these bytes, whatever follows, and of fewer it says that its section ends
too early. -/
structure Takes (part : Section) (reader : Reader α) (bytes : List UInt8) (a : α) : Prop where
  readsBack : ReadsBack reader (.ofBytes bytes) a
  cut : ∀ k < bytes.length, reader (bytes.take k) = .error (.truncated part)

/-- In a sequence, the next reader goes on behind the piece. -/
theorem Takes.seq (h : Takes part reader bytes a) (rest : List UInt8) :
    (reader >>= next) (bytes ++ rest) = next a rest := by
  have hfound : reader (bytes ++ rest) = .ok (a, rest) := h.readsBack rfl rest
  show (reader (bytes ++ rest) >>= fun x => next x.1 x.2) = _
  rw [hfound]
  rfl

/-- A cut in the first piece is noticed by the first reader, -/
theorem Takes.cut_first (first : Takes part reader bytes a) {k : Nat} (hk : k < bytes.length)
    (others : List UInt8) :
    (reader >>= next) ((bytes ++ others).take k) = .error (.truncated part) := by
  rw [List.take_append_of_le_length (Nat.le_of_lt hk)]
  show (reader (bytes.take k) >>= fun x => next x.1 x.2) = _
  rw [first.cut k hk]
  rfl

/-- and a cut behind it is left to the second. -/
theorem Takes.cut_second (first : Takes part reader bytes a) {k : Nat} (hk : bytes.length ≤ k)
    (others : List UInt8) :
    (reader >>= next) ((bytes ++ others).take k) = next a (others.take (k - bytes.length)) := by
  rw [List.take_append, List.take_of_length_le hk, first.seq]

theorem Takes.bind (first : Takes part reader bytes a) (second : Takes part (next a) others b) :
    Takes part (reader >>= next) (bytes ++ others) b where
  readsBack := first.readsBack.bind second.readsBack
  cut := by
    intro k hk
    by_cases hfirst : k < bytes.length
    · exact first.cut_first hfirst others
    · have hsecond : bytes.length ≤ k := Nat.le_of_not_lt hfirst
      rw [first.cut_second hsecond]
      rw [List.length_append] at hk
      exact second.cut _ (by omega)

theorem Takes.finish (h : Takes part reader bytes a) (done : ∀ rest, next a rest = .ok (b, rest)) :
    Takes part (reader >>= next) bytes b where
  readsBack := h.readsBack.finish done
  cut := by
    intro k hk
    rw [← List.append_nil bytes]
    exact h.cut_first hk []

theorem Takes.map {f : α → β} (h : Takes part reader bytes a) (hf : f a = b) :
    Takes part (f <$> reader) bytes b := by
  subst hf
  show Takes part (reader >>= fun a => pure (f a)) bytes (f a)
  exact h.finish fun _ => rfl

end

/-! ## Readers that know their pieces -/

/-- The reader accepts pieces of one kind and takes them whole: what it read was such a piece. -/
structure Exact {α β : Type} (part : Section) (reader : Reader α) (bytes : β → List UInt8)
    (value : β → α) : Prop where
  takes : ∀ x, Takes part reader (bytes x) (value x)
  sound : ∀ {input a rest}, reader input = .ok (a, rest) →
    ∃ x, input = bytes x ++ rest ∧ value x = a

/-! ### Fields -/

theorem take_takes (part : Section) {bytes : List UInt8} {n : Nat} (h : bytes.length = n) :
    Takes part (take part n) bytes bytes where
  readsBack := take_readsBack part h
  cut := by
    intro k hk
    have hshort : ((bytes.take k).take n).length ≠ n := by
      simp only [List.length_take]
      omega
    exact if_neg hshort

theorem take_eq_ok {part : Section} {n : Nat} {input front rest : List UInt8}
    (h : take part n input = .ok (front, rest)) : input = front ++ rest ∧ front.length = n := by
  unfold take at h
  dsimp only at h
  split at h
  next hlength =>
    cases h
    exact ⟨(List.take_append_drop n input).symm, hlength⟩
  next => cases h

theorem byte_takes (part : Section) (b : UInt8) : Takes part (byte part) [b] b where
  readsBack := byte_readsBack part b
  cut := by
    intro k hk
    obtain rfl : k = 0 := Nat.lt_one_iff.mp hk
    rfl

theorem byte_eq_ok {part : Section} {input rest : List UInt8} {b : UInt8}
    (h : byte part input = .ok (b, rest)) : input = b :: rest := by
  cases input with
  | nil => cases h
  | cons first others =>
      cases h
      rfl

theorem number_takes (part : Section) {width n : Nat} (fits : n < BigEndian.capacity width) :
    Takes part (number part width) (BigEndian.encode width n) n :=
  (take_takes part (BigEndian.length_encode width n)).map (BigEndian.decode_encode fits)

theorem number_eq_ok {part : Section} {width n : Nat} {input rest : List UInt8}
    (h : number part width input = .ok (n, rest)) :
    input = BigEndian.encode width n ++ rest ∧ n < BigEndian.capacity width := by
  obtain ⟨digits, htake, rfl⟩ := map_eq_ok h
  obtain ⟨rfl, rfl⟩ := take_eq_ok htake
  exact ⟨by rw [BigEndian.encode_decode], BigEndian.decode_lt digits⟩

theorem word_exact (part : Section) : Exact part (word part) BigEndian.encodeWord id where
  takes := by
    intro w
    have bytes := take_takes part (BigEndian.length_encodeWord w)
    exact bytes.map (BigEndian.decodeWord_encodeWord w)
  sound := by
    intro input w rest h
    obtain ⟨digits, htake, rfl⟩ := map_eq_ok h
    obtain ⟨rfl, hlength⟩ := take_eq_ok htake
    exact ⟨BigEndian.decodeWord digits, by rw [BigEndian.encodeWord_decodeWord hlength], rfl⟩

theorem text_exact (part : Section) :
    Exact part (text part) ShortText.bytes ShortText.text where
  takes := by
    intro t
    have fits : t.text.utf8ByteSize < BigEndian.capacity lengthWidth := Nat.lt_succ_of_le t.fits
    have length := number_takes part fits
    have bytes := take_takes part (Utf8.length_encode t.text)
    refine length.bind (bytes.finish fun rest => ?_)
    rw [Utf8.decode?_encode]
    rfl
  sound := by
    intro input s rest h
    obtain ⟨n, afterLength, hlength, hbody⟩ := seq_eq_ok h
    obtain ⟨bytes, afterBytes, hbytes, hdone⟩ := seq_eq_ok hbody
    obtain ⟨rfl, hcount⟩ := number_eq_ok hlength
    obtain ⟨rfl, rfl⟩ := take_eq_ok hbytes
    cases hdecode : Utf8.decode? bytes with
    | none =>
        rw [hdecode] at hdone
        cases hdone
    | some decoded =>
        rw [hdecode] at hdone
        cases hdone
        obtain rfl := Utf8.decode?_eq_some_iff.mp hdecode
        refine ⟨⟨s, Nat.le_of_lt_succ hcount⟩, ?_, rfl⟩
        rw [ShortText.bytes, List.append_assoc, Utf8.length_encode]

/-! ### Records -/

theorem mnemonic_exact :
    Exact .code mnemonic StoredOpcode.bytes StoredOpcode.mnemonic where
  takes := by
    intro opcode
    cases opcode with
    | byte b plain =>
        refine (byte_takes .code b).finish fun rest => ?_
        rw [if_neg plain]
        rfl
    | spelled name =>
        refine (byte_takes .code unknownMark).bind ?_
        rw [if_pos rfl]
        exact ((text_exact .code).takes name).finish fun _ => rfl
  sound := by
    intro input mn rest h
    obtain ⟨b, between, hbyte, hbranch⟩ := seq_eq_ok h
    obtain rfl := byte_eq_ok hbyte
    split at hbranch
    next hmark =>
      obtain ⟨s, afterText, htext, hdone⟩ := seq_eq_ok hbranch
      cases hdone
      obtain ⟨name, rfl, rfl⟩ := (text_exact .code).sound htext
      exact ⟨.spelled name, by rw [hmark]; rfl, rfl⟩
    next plain =>
      cases hbranch
      exact ⟨.byte b plain, rfl, rfl⟩

theorem instruction_exact :
    Exact .code instruction (StoredInstruction.layout StoredOpcode.bytes)
      StoredInstruction.instruction where
  takes := by
    intro i
    exact (mnemonic_exact.takes i.opcode).bind
      (((word_exact .code).takes i.operand).finish fun _ => rfl)
  sound := by
    intro input i rest h
    obtain ⟨mn, between, hmnemonic, h⟩ := seq_eq_ok h
    obtain ⟨w, afterWord, hword, hdone⟩ := seq_eq_ok h
    cases hdone
    obtain ⟨opcode, rfl, rfl⟩ := mnemonic_exact.sound hmnemonic
    obtain ⟨operand, rfl, rfl⟩ := (word_exact .code).sound hword
    exact ⟨⟨opcode, operand⟩, by rw [StoredInstruction.layout, List.append_assoc], rfl⟩

section

variable {α β : Type} {part : Section} {record : Reader α} {bytes : β → List UInt8}
  {value : β → α}

theorem Exact.records_takes (h : Exact part record bytes value) (xs : List β) :
    Takes part (records record xs.length) (xs.flatMap bytes) (xs.map value) := by
  induction xs with
  | nil =>
      refine ⟨ReadsBack.pure [], fun k hk => ?_⟩
      cases hk
  | cons x xs ih => exact (h.takes x).bind (ih.finish fun _ => rfl)

theorem Exact.records_sound (h : Exact part record bytes value) {n : Nat}
    {input rest : List UInt8} {as : List α} (hrecords : records record n input = .ok (as, rest)) :
    ∃ xs : List β, xs.length = n ∧ input = xs.flatMap bytes ++ rest ∧ xs.map value = as := by
  induction n generalizing input as with
  | zero =>
      cases hrecords
      exact ⟨[], rfl, rfl, rfl⟩
  | succ n ih =>
      obtain ⟨a, between, hfirst, hrecords⟩ := seq_eq_ok hrecords
      obtain ⟨others, afterOthers, hothers, hdone⟩ := seq_eq_ok hrecords
      cases hdone
      obtain ⟨x, rfl, rfl⟩ := h.sound hfirst
      obtain ⟨xs, rfl, rfl, rfl⟩ := ih hothers
      exact ⟨x :: xs, rfl, by rw [List.flatMap_cons, List.append_assoc], rfl⟩

/-- A table is known by its count, if its records are known. -/
theorem Exact.table (h : Exact part record bytes value) :
    Exact part (Reader.table part record) (Table.bytes bytes) fun t => t.entries.map value where
  takes := by
    intro t
    have fits : t.entries.length < BigEndian.capacity countWidth := t.fits
    have count := number_takes part fits
    exact count.bind (h.records_takes t.entries)
  sound := by
    intro input as rest hread
    obtain ⟨n, between, hcount, hrecords⟩ := seq_eq_ok hread
    obtain ⟨rfl, fits⟩ := number_eq_ok hcount
    obtain ⟨xs, rfl, rfl, rfl⟩ := h.records_sound hrecords
    exact ⟨⟨xs, fits⟩, by rw [Table.bytes, List.append_assoc], rfl⟩

end

/-! ### The header -/

theorem header_takes {reserved : List UInt8} (h : reserved.length = reservedWidth) :
    Takes .header header (headerBytes reserved) () := by
  match reserved, h with
  | [r₁, r₂, r₃], _ =>
      refine ⟨fun _ _ => rfl, fun k hk => ?_⟩
      match k, hk with
      | 0, _ | 1, _ | 2, _ | 3, _ | 4, _ | 5, _ | 6, _ | 7, _ => rfl

theorem header_eq_ok {input rest : List UInt8} (h : header input = .ok ((), rest)) :
    ∃ reserved : List UInt8, reserved.length = reservedWidth ∧
      input = headerBytes reserved ++ rest := by
  obtain ⟨front, afterMagic, hmagic, hbody⟩ := seq_eq_ok h
  obtain ⟨rfl, -⟩ := take_eq_ok hmagic
  dsimp only at hbody
  split at hbody
  next => cases hbody
  next hfront =>
    have hfront := Decidable.not_not.mp hfront
    obtain ⟨v, afterVersion, hversion, htail⟩ := seq_eq_ok hbody
    obtain rfl := byte_eq_ok hversion
    split at htail
    next => cases htail
    next hv =>
      have hv := Decidable.not_not.mp hv
      obtain ⟨reserved, afterReserved, hreserved, hdone⟩ := seq_eq_ok htail
      cases hdone
      obtain ⟨rfl, hlength⟩ := take_eq_ok hreserved
      exact ⟨reserved, hlength, by simp [headerBytes, hfront, hv]⟩

/-! ## Whole containers -/

theorem program_bytes (img : Image) (rest : List UInt8) :
    program (img.bytes ++ rest) = .ok (img.program, rest) := by
  have header := header_takes img.reserved_length
  have code := instruction_exact.table.takes img.code
  have consts := (word_exact .consts).table.takes img.consts
  have names := (text_exact .names).table.takes img.names
  rw [List.map_id] at consts
  simp only [Image.bytes, Image.layout, List.append_assoc]
  rw [program, header.seq, code.seq, consts.seq, names.seq]
  rfl

theorem exists_image_of_program {input rest : List UInt8} {p : Program}
    (h : program input = .ok (p, rest)) :
    ∃ img : Image, input = img.bytes ++ rest ∧ img.program = p := by
  obtain ⟨⟨⟩, afterHeader, hheader, hbody⟩ := seq_eq_ok h
  obtain ⟨code, afterCode, hcode, hbody⟩ := seq_eq_ok hbody
  obtain ⟨consts, afterConsts, hconsts, hbody⟩ := seq_eq_ok hbody
  obtain ⟨names, afterNames, hnames, hdone⟩ := seq_eq_ok hbody
  cases hdone
  obtain ⟨reserved, hreserved, rfl⟩ := header_eq_ok hheader
  obtain ⟨code, rfl, rfl⟩ := instruction_exact.table.sound hcode
  obtain ⟨consts, rfl, rfl⟩ := (word_exact .consts).table.sound hconsts
  obtain ⟨names, rfl, rfl⟩ := (text_exact .names).table.sound hnames
  refine ⟨⟨reserved, code, consts, names, hreserved⟩, ?_, ?_⟩
  · simp [Image.bytes, Image.layout]
  · simp [Image.program]

end Reader

theorem read_bytes (img : Image) : read img.bytes = .ok img.program := by
  have h := Reader.program_bytes img []
  rw [List.append_nil] at h
  show (Reader.program img.bytes >>= _) = _
  rw [h]
  rfl

/-- The reader accepts the bytes of images and nothing else. -/
theorem read_eq_ok_iff {bytes : List UInt8} {p : Program} :
    read bytes = .ok p ↔ ∃ img : Image, img.bytes = bytes ∧ img.program = p := by
  constructor
  · intro h
    obtain ⟨⟨p', rest⟩, hprogram, h⟩ := bind_eq_ok h
    dsimp only at h
    split at h
    next hrest =>
      cases h
      subst hrest
      obtain ⟨img, rfl, rfl⟩ := Reader.exists_image_of_program hprogram
      exact ⟨img, (List.append_nil _).symm, rfl⟩
    next => cases h
  · rintro ⟨img, rfl, rfl⟩
    exact read_bytes img

end StackMachine.BinaryFormat
