import StackMachine.Proofs.BinaryFraming

/-!
# The normal form of binary containers

The writer stores a program in one way, whatever container it was read from.  Reading a container and
writing it again therefore brings it into a normal form: the reserved bytes become zero, and a byte
that belongs to no opcode is spelled out.  Nothing else changes, so a container without such bytes
comes back as it was, and every byte that has to be spelled out costs six bytes more.
-/

namespace StackMachine.BinaryFormat

/-! ## The normal form -/

/-- The ASCII code of an upper-case hexadecimal digit. -/
def hexCode (digit : UInt8) : UInt8 :=
  if digit < 10 then 0x30 + digit else 0x37 + digit

namespace StoredOpcode

/-- Whether the opcode is stored as a byte that belongs to none. -/
def unassigned : StoredOpcode → Bool
  | byte b _ => (Opcode.ofByte? b).isNone
  | spelled _ => false

/-- The bytes of an opcode in normal form.  In place of a byte that belongs to no opcode stand the
mark, the length four and the text `0x` with the two digits of the byte. -/
def normalBytes : StoredOpcode → List UInt8
  | byte b _ =>
    if (Opcode.ofByte? b).isNone then
      [0xFF, 0x00, 0x04, 0x30, 0x78, hexCode (b / 16), hexCode (b % 16)]
    else
      [b]
  | spelled name => unknownMark :: name.bytes

end StoredOpcode

/-- The bytes of an image in normal form. -/
def Image.normalBytes (img : Image) : List UInt8 :=
  img.layout [0, 0, 0] StoredOpcode.normalBytes

/-! ## What the writer writes -/

theorem field_eq_ofBytes {width n : Nat} {otherwise : Refusal} (fits : n < BigEndian.capacity width) :
    field width n otherwise = .ofBytes (BigEndian.encode width n) :=
  if_pos fits

theorem textField_eq_ofBytes (t : ShortText) : textField t.text = .ofBytes t.bytes := by
  have fits : (Utf8.encode t.text).length < BigEndian.capacity lengthWidth :=
    Nat.lt_succ_of_le t.fits
  rw [textField, field_eq_ofBytes fits]
  rfl

theorem encode_hexDigit {d : Nat} (h : d < 16) :
    Utf8.encode (String.ofList [(Nat.digitChar d).toUpper]) = [hexCode (UInt8.ofNat d)] := by
  have digits : ∀ d < 16,
      Utf8.encode (String.ofList [(Nat.digitChar d).toUpper]) = [hexCode (UInt8.ofNat d)] := by
    decide
  exact digits d h

/-- The two digits of a byte take a byte each. -/
theorem encode_hexDigits (b : UInt8) :
    Utf8.encode (String.ofList (hexDigits b)) = [hexCode (b / 16), hexCode (b % 16)] := by
  have hlt : b.toNat < 256 := b.toNat_lt
  have hhigh : UInt8.ofNat (b.toNat / 16) = b / 16 := UInt8.toNat_inj.mp (by simp; omega)
  have hlow : UInt8.ofNat (b.toNat % 16) = b % 16 := UInt8.toNat_inj.mp (by simp; omega)
  have hsplit : hexDigits b =
      [(Nat.digitChar (b.toNat / 16)).toUpper] ++ [(Nat.digitChar (b.toNat % 16)).toUpper] := rfl
  rw [hsplit, String.ofList_append, Utf8.encode_append, encode_hexDigit (by omega),
    encode_hexDigit (by omega), hhigh, hlow]
  rfl

/-- A byte that belongs to no opcode is spelled out in four bytes. -/
theorem textField_hexDigits (b : UInt8) :
    textField ("0x" ++ String.ofList (hexDigits b)) =
      .ofBytes [0x00, 0x04, 0x30, 0x78, hexCode (b / 16), hexCode (b % 16)] := by
  have hx : Utf8.encode "0x" = [0x30, 0x78] := by decide
  have hlength : field lengthWidth 4 .nameTooLong = .ofBytes [0x00, 0x04] := by decide
  simp only [textField, Utf8.encode_append, encode_hexDigits, hx]
  exact congrArg (· ++ Draft.ofBytes [0x30, 0x78, hexCode (b / 16), hexCode (b % 16)]) hlength

theorem mnemonicField_eq_ofBytes (opcode : StoredOpcode) :
    mnemonicField opcode.mnemonic = .ofBytes opcode.normalBytes := by
  cases opcode with
  | byte b plain =>
      cases hop : Opcode.ofByte? b with
      | some op =>
          obtain rfl := Opcode.ofByte?_eq_some_iff.mp hop
          simp [StoredOpcode.mnemonic, StoredOpcode.normalBytes, mnemonicOfByte, mnemonicField, hop]
      | none =>
          simp only [StoredOpcode.mnemonic, StoredOpcode.normalBytes, mnemonicOfByte, mnemonicField,
            hop, textField_hexDigits]
          rfl
  | spelled name =>
      rw [StoredOpcode.mnemonic, mnemonicField, textField_eq_ofBytes]
      rfl

theorem instructionField_eq_ofBytes (i : StoredInstruction) :
    instructionField i.instruction =
      .ofBytes (i.layout StoredOpcode.normalBytes) := by
  rw [instructionField, StoredInstruction.instruction, mnemonicField_eq_ofBytes]
  rfl

theorem writeTable_eq_ofBytes {α β : Type} {record : α → Draft} {value : β → α}
    {bytes : β → List UInt8} (h : ∀ x, record (value x) = .ofBytes (bytes x)) (t : Table β) :
    writeTable ((t.entries.map value).map record) = .ofBytes (t.bytes bytes) := by
  have hrecords : (t.entries.map value).map record = t.entries.map fun x => .ofBytes (bytes x) := by
    rw [List.map_map]
    exact List.map_congr_left fun x _ => h x
  have fits : (t.entries.map fun x => Draft.ofBytes (bytes x)).length <
      BigEndian.capacity countWidth := by
    rw [List.length_map]
    exact t.fits
  rw [hrecords, writeTable, field_eq_ofBytes fits, Draft.concat_map_ofBytes, List.length_map]
  rfl

/-- The program of an image is written in the normal form of the image. -/
theorem write_program (img : Image) : write img.program = .ofBytes img.normalBytes := by
  have code := writeTable_eq_ofBytes instructionField_eq_ofBytes img.code
  have consts := @writeTable_eq_ofBytes Word Word (fun w => .ofBytes (BigEndian.encodeWord w)) id
    BigEndian.encodeWord (fun _ => rfl) img.consts
  have names := writeTable_eq_ofBytes textField_eq_ofBytes img.names
  rw [List.map_id] at consts
  rw [write, Image.program, code, consts, names]
  rfl

/-! ## How far a container is from its normal form -/

theorem StoredOpcode.length_normalBytes (opcode : StoredOpcode) :
    opcode.normalBytes.length =
      opcode.bytes.length + if opcode.unassigned then 6 else 0 := by
  cases opcode with
  | byte b plain =>
      cases hop : (Opcode.ofByte? b).isNone with
      | false => simp [normalBytes, bytes, unassigned, hop]
      | true => simp [normalBytes, bytes, unassigned, hop]
  | spelled name => rfl

theorem StoredOpcode.normalBytes_of_assigned {opcode : StoredOpcode}
    (h : opcode.unassigned = false) : opcode.normalBytes = opcode.bytes := by
  cases opcode with
  | byte b plain =>
      rw [unassigned] at h
      simp [normalBytes, bytes, h]
  | spelled name => rfl

theorem length_flatMap_normalBytes (code : List StoredInstruction) :
    (code.flatMap (StoredInstruction.layout StoredOpcode.normalBytes)).length =
      (code.flatMap (StoredInstruction.layout StoredOpcode.bytes)).length +
        6 * code.countP (·.opcode.unassigned) := by
  induction code with
  | nil => rfl
  | cons i code ih =>
      have hopcode := i.opcode.length_normalBytes
      simp only [List.flatMap_cons, List.length_append, StoredInstruction.layout, List.countP_cons,
        ih, hopcode]
      split <;> omega

namespace Image

variable (img : Image)

/-- Every byte that is spelled out costs six bytes more. -/
theorem length_normalBytes :
    img.normalBytes.length =
      img.bytes.length + 6 * img.code.entries.countP (·.opcode.unassigned) := by
  have hcode := length_flatMap_normalBytes img.code.entries
  have hreserved : img.reserved.length = 3 := img.reserved_length
  simp only [normalBytes, bytes, layout, headerBytes, Table.bytes, List.length_append, hcode,
    hreserved, List.length_cons, List.length_nil]
  omega

/-- A container is in normal form if its reserved bytes are zero and it has no byte to spell out. -/
theorem normalBytes_eq_iff :
    img.normalBytes = img.bytes ↔
      img.reserved = [0, 0, 0] ∧ ∀ i ∈ img.code.entries, i.opcode.unassigned = false := by
  constructor
  · intro h
    have hlength := img.length_normalBytes
    rw [h] at hlength
    have hcount : img.code.entries.countP (·.opcode.unassigned) = 0 := by omega
    refine ⟨?_, ?_⟩
    · -- The headers are equally long, so they agree.
      have hheader : (headerBytes [0, 0, 0]).length = (headerBytes img.reserved).length := by
        rw [img.length_headerBytes]
        rfl
      simp only [normalBytes, bytes, layout, List.append_assoc] at h
      have hreserved := (List.append_inj h hheader).1
      exact (List.append_cancel_left hreserved).symm
    · intro i hi
      simpa using List.countP_eq_zero.mp hcount i hi
  · rintro ⟨hreserved, hassigned⟩
    have hcode : img.code.entries.flatMap (StoredInstruction.layout StoredOpcode.normalBytes) =
        img.code.entries.flatMap (StoredInstruction.layout StoredOpcode.bytes) := by
      rw [List.flatMap_def, List.flatMap_def]
      refine congrArg List.flatten (List.map_congr_left fun i hi => ?_)
      rw [StoredInstruction.layout, StoredOpcode.normalBytes_of_assigned (hassigned i hi)]
      rfl
    simp only [normalBytes, bytes, layout, Table.bytes, hcode, hreserved]

end Image

/-- **Reading and writing again brings a binary container into its normal form.**  Into a sink without
a limit every program that was read is written.  The bytes are read as the same program, and they are
those of the container with zeros in the reserved field and with every byte that belongs to no opcode
spelled out.  So a container comes back as it was exactly if it was in normal form, and it grows by
six bytes for every byte that was spelled out. -/
theorem binary_normal_form {bytes : List UInt8} {p : Program} (h : read bytes = .ok p) (s : Sink)
    (unlimited : s.room = none) :
    ∃ written, ((write p).deliver s).2 = none ∧
      ((write p).deliver s).1.content = s.content ++ written ∧
      read written = .ok p ∧
      (∃ img : Image, img.bytes = bytes) ∧
      ∀ img : Image, img.bytes = bytes →
        written = img.normalBytes ∧
          (written = bytes ↔
            img.reserved = [0, 0, 0] ∧ ∀ i ∈ img.code.entries, i.opcode.unassigned = false) ∧
          written.length = bytes.length + 6 * img.code.entries.countP (·.opcode.unassigned) := by
  have hwrite : ∀ img : Image, img.bytes = bytes → write p = .ofBytes img.normalBytes := by
    rintro img rfl
    obtain rfl : img.program = p := Except.ok.inj ((read_bytes img).symm.trans h)
    exact write_program img
  obtain ⟨img, hbytes, -⟩ := read_eq_ok_iff.mp h
  have complete : (write p).refusal = none := by rw [hwrite img hbytes]; rfl
  refine ⟨(write p).bytes, ?_, ?_, ?_, ⟨img, hbytes⟩, ?_⟩
  · exact (Draft.deliver_unlimited_eq_none_iff _ unlimited).mpr complete
  · exact Draft.content_deliver_unlimited _ unlimited
  · exact read_write_of_complete complete
  · rintro other hother
    have hnormal : (write p).bytes = other.normalBytes := by rw [hwrite other hother]; rfl
    subst hother
    rw [hnormal]
    exact ⟨rfl, other.normalBytes_eq_iff, other.length_normalBytes⟩

/-- Of two instructions that are read alike, one has to be spelled out; the reserved bytes are not
zero. -/
theorem binary_normal_form_twoSpellings :
    read twoSpellings.bytes = .ok twoSpellings.program ∧ ({} : Sink).room = none ∧
      ((write twoSpellings.program).deliver {}).1.content ≠ twoSpellings.bytes ∧
      ((write twoSpellings.program).deliver {}).1.content = twoSpellings.normalBytes ∧
      twoSpellings.normalBytes.length = twoSpellings.bytes.length + 6 := by
  obtain ⟨written, -, hcontent, -, -, himage⟩ :=
    binary_normal_form (read_bytes twoSpellings) {} rfl
  obtain ⟨rfl, hsame, hlength⟩ := himage twoSpellings rfl
  refine ⟨read_bytes twoSpellings, rfl, ?_, hcontent, hlength⟩
  rw [hcontent]
  intro heq
  exact absurd (hsame.mp heq).1 (by decide)

end StackMachine.BinaryFormat
