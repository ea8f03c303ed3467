import StackMachine.Proofs.BinaryImage

/-!
# Binary containers say where they end

No beginning of a container is a container, and no container goes on behind another.  The reader
notices a cut wherever it falls, in a count, in a length or in the middle of a character, and it names
the section of the byte that it misses; it never takes part of a name for a name.
-/

namespace StackMachine.BinaryFormat

namespace Image

/-! ## The sections of an image -/

/-- Where the header ends. -/
def headerEnd : Nat :=
  8

/-- How many bytes instructions take.  Each of them ends with an operand of eight bytes. -/
def codeLength : List StoredInstruction → Nat
  | [] => 0
  | i :: code => i.opcode.bytes.length + 8 + codeLength code

/-- Where the last instruction ends.  The code starts with a count of four bytes. -/
def codeEnd (img : Image) : Nat :=
  headerEnd + 4 + codeLength img.code.entries

/-- Where the last constant ends. -/
def constsEnd (img : Image) : Nat :=
  img.codeEnd + 4 + 8 * img.consts.entries.length

/-- The section that the byte at position `k` belongs to. -/
def sectionAt (img : Image) (k : Nat) : Section :=
  if k < headerEnd then .header
  else if k < img.codeEnd then .code
  else if k < img.constsEnd then .consts
  else .names

theorem length_headerBytes (img : Image) : (headerBytes img.reserved).length = headerEnd := by
  have hreserved : img.reserved.length = 3 := img.reserved_length
  have hmagic : magic.length = 4 := rfl
  simp [headerBytes, headerEnd, hreserved, hmagic]

theorem length_flatMap_layout (code : List StoredInstruction) :
    (code.flatMap (StoredInstruction.layout StoredOpcode.bytes)).length = codeLength code := by
  induction code with
  | nil => rfl
  | cons i code ih =>
      rw [List.flatMap_cons, List.length_append, ih, StoredInstruction.layout, List.length_append,
        BigEndian.length_encodeWord]
      rfl

theorem codeEnd_eq (img : Image) :
    img.codeEnd =
      headerEnd + (img.code.bytes (StoredInstruction.layout StoredOpcode.bytes)).length := by
  have hcount : countWidth = 4 := rfl
  rw [Table.bytes, List.length_append, length_flatMap_layout, BigEndian.length_encode, hcount,
    codeEnd, Nat.add_assoc]

theorem constsEnd_eq (img : Image) :
    img.constsEnd = img.codeEnd + (img.consts.bytes BigEndian.encodeWord).length := by
  have hcount : countWidth = 4 := rfl
  simp [constsEnd, Table.bytes, List.length_flatMap, List.map_const', hcount, Nat.add_assoc,
    Nat.mul_comm]

end Image

/-! ## Cuts -/

/-- A container that is cut short is reported with the section of the first byte that is missing. -/
theorem Reader.program_take (img : Image) {k : Nat} (hk : k < img.bytes.length) :
    program (img.bytes.take k) = .error (.truncated (img.sectionAt k)) := by
  have header := header_takes img.reserved_length
  have code := instruction_exact.table.takes img.code
  have consts := (word_exact .consts).table.takes img.consts
  have names := (text_exact .names).table.takes img.names
  have hheader := img.length_headerBytes
  have hcode := img.codeEnd_eq
  have hconsts := img.constsEnd_eq
  simp only [Image.bytes, Image.layout, List.append_assoc, List.length_append] at hk ⊢
  rw [program, Image.sectionAt]
  -- One reader after the other is passed until the cut is inside the piece of the next one.
  split
  next inHeader => exact header.cut_first (hheader ▸ inHeader) _
  next afterHeader =>
    rw [header.cut_second (by omega)]
    split
    next inCode => exact code.cut_first (by omega) _
    next afterCode =>
      rw [code.cut_second (by omega)]
      split
      next inConsts => exact consts.cut_first (by omega) _
      next afterConsts =>
        rw [consts.cut_second (by omega), ← List.append_nil (img.names.bytes _)]
        exact names.cut_first (by omega) _

theorem read_take (img : Image) {k : Nat} (hk : k < img.bytes.length) :
    read (img.bytes.take k) = .error (.truncated (img.sectionAt k)) := by
  show (Reader.program (img.bytes.take k) >>= _) = _
  rw [Reader.program_take img hk]
  rfl

/-! ## Additions -/

theorem read_append (img : Image) {extra : List UInt8} (h : extra ≠ []) :
    read (img.bytes ++ extra) = .error .trailingData := by
  show (Reader.program (img.bytes ++ extra) >>= _) = _
  rw [Reader.program_bytes]
  exact if_neg h

/-- **Binary containers are self-delimiting.**  Whatever is added to a container that can be read, it
is refused because of what follows it.  Whatever is cut off, it is refused as truncated, in the
section of the image in which the cut falls. -/
theorem binary_self_delimiting {bytes : List UInt8} {p : Program} (h : read bytes = .ok p) :
    (∀ extra : List UInt8, extra ≠ [] → read (bytes ++ extra) = .error .trailingData) ∧
      (∃ img : Image, img.bytes = bytes) ∧
      ∀ img : Image, img.bytes = bytes →
        ∀ k < bytes.length, read (bytes.take k) = .error (.truncated (img.sectionAt k)) := by
  obtain ⟨img, rfl, rfl⟩ := read_eq_ok_iff.mp h
  refine ⟨fun extra hextra => read_append img hextra, ⟨img, rfl⟩, ?_⟩
  intro other hbytes k hk
  rw [← hbytes] at hk ⊢
  exact read_take other hk

/-- A container of two instructions that are read alike although they are stored in different ways,
and of a name with a character of two bytes. -/
def twoSpellings : Image where
  reserved := [1, 2, 3]
  code := ⟨[⟨.byte 0x7E (by decide), 5⟩, ⟨.spelled ⟨"0x7E", by decide⟩, 5⟩], by decide⟩
  consts := ⟨[-3], by decide⟩
  names := ⟨[⟨"é", by decide⟩], by decide⟩
  reserved_length := rfl

/-- The container is cut in its reserved bytes, in the spelling of its second instruction, right behind
that instruction, right behind its last constant and in the middle of its last character. -/
theorem binary_self_delimiting_twoSpellings :
    read twoSpellings.bytes = .ok twoSpellings.program ∧
      read (twoSpellings.bytes ++ [0]) = .error .trailingData ∧
      read (twoSpellings.bytes.take 7) = .error (.truncated .header) ∧
      read (twoSpellings.bytes.take 25) = .error (.truncated .code) ∧
      read (twoSpellings.bytes.take 36) = .error (.truncated .consts) ∧
      read (twoSpellings.bytes.take 48) = .error (.truncated .names) ∧
      read (twoSpellings.bytes.take 55) = .error (.truncated .names) := by
  have h := binary_self_delimiting (read_bytes twoSpellings)
  refine ⟨read_bytes twoSpellings, h.1 [0] nofun, ?_, ?_, ?_, ?_, ?_⟩
  · exact h.2.2 twoSpellings rfl 7 (by decide)
  · exact h.2.2 twoSpellings rfl 25 (by decide)
  · exact h.2.2 twoSpellings rfl 36 (by decide)
  · exact h.2.2 twoSpellings rfl 48 (by decide)
  · exact h.2.2 twoSpellings rfl 55 (by decide)

end StackMachine.BinaryFormat
