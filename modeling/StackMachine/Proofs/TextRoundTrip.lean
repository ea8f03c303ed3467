import StackMachine.Container
import StackMachine.Proofs.Delivery
import StackMachine.Proofs.Results
import StackMachine.Proofs.TextLines
import StackMachine.TextFormat.Writer

/-!
# What the text format can hold

A text has lines and words only, so it cannot hold every program: a mnemonic that is not one word
falls apart, one that spells an opcode is taken for it, and a name with a line break has no line of
its own.  Nothing else is lost.  One direction follows a container through the writer and the reader
line by line; the other rests on what the reader can bring forth at all.
-/

namespace StackMachine.TextFormat

open Text (Unbroken number)

/-! ## The lines of a container -/

/-- The lines of a table: its count, then its records. -/
def tableLines (records : List String) : List (List Char) :=
  (Decimal.ofNat records.length).toList :: records.map String.toList

/-- The lines of a container. -/
def containerLines (p : Program) : List (List Char) :=
  tableLines (p.code.toList.map instructionText) ++
    tableLines (p.consts.toList.map Decimal.ofWord) ++
    tableLines p.names.toList

/-- The draft of some lines. -/
def linesDraft (ls : List (List Char)) : Draft :=
  .ofText (String.ofList (Text.unlines ls))

theorem bytes_linesDraft (ls : List (List Char)) :
    (linesDraft ls).bytes = Utf8.encode (String.ofList (Text.unlines ls)) := rfl

theorem linesDraft_append (ls ms : List (List Char)) :
    linesDraft (ls ++ ms) = linesDraft ls ++ linesDraft ms := by
  simp [linesDraft, Text.unlines, Draft.ofText_append_ofText]

theorem linesDraft_cons (s : String) (ls : List (List Char)) :
    linesDraft (s.toList :: ls) = line s ++ linesDraft ls := by
  have hline : String.ofList (s.toList ++ ['\n']) = s ++ "\n" := by
    rw [String.ofList_append, String.ofList_toList]
  rw [line, linesDraft, linesDraft, Draft.ofText_append_ofText, ← hline, ← String.ofList_append]
  rfl

theorem concat_map_line (records : List String) :
    Draft.concat (records.map line) = linesDraft (records.map String.toList) := by
  induction records with
  | nil => rfl
  | cons s records ih => rw [List.map_cons, List.map_cons, linesDraft_cons, ← ih]; rfl

theorem writeTable_eq_linesDraft (records : List String) :
    writeTable (records.map line) = linesDraft (tableLines records) := by
  rw [writeTable, tableLines, linesDraft_cons, concat_map_line, List.length_map]

/-! ## What the writer refuses -/

theorem nameLine_complete_iff {name : String} :
    (nameLine name).refusal = none ↔ Unbroken name.toList := by
  unfold nameLine Unbroken
  split
  next broken =>
    constructor
    · intro h
      cases h
    · intro h
      exact absurd broken (not_or.mpr h)
  next unbroken => exact ⟨fun _ => not_or.mp unbroken, fun _ => rfl⟩

/-- A table is complete if each of its records is; every count has a line. -/
theorem writeTable_complete_iff {α : Type} {record : α → Draft} {as : List α} :
    (writeTable (as.map record)).refusal = none ↔ ∀ a ∈ as, (record a).refusal = none := by
  rw [writeTable, Draft.refusal_append_eq_none_iff, Draft.refusal_concat_map_eq_none_iff]
  exact and_iff_right rfl

/-- The writer refuses a name that has no line of its own, and nothing else. -/
theorem write_complete_iff {p : Program} :
    (write p).refusal = none ↔ ∀ name ∈ p.names, Unbroken name.toList := by
  simp only [write, Draft.refusal_append_eq_none_iff, writeTable_complete_iff,
    nameLine_complete_iff, Array.mem_toList_iff]
  constructor
  · rintro ⟨-, hnames⟩
    exact hnames
  · intro hnames
    exact ⟨⟨fun _ _ => rfl, fun _ _ => rfl⟩, hnames⟩

/-- What the writer writes, when it does not refuse, are the lines of the container. -/
theorem write_eq_linesDraft {p : Program} (h : ∀ name ∈ p.names, Unbroken name.toList) :
    write p = linesDraft (containerLines p) := by
  have hnames : p.names.toList.map nameLine = p.names.toList.map line := by
    refine List.map_congr_left fun name hname => ?_
    have hunbroken := h name (Array.mem_toList_iff.mp hname)
    exact if_neg (not_or.mpr hunbroken)
  rw [containerLines, linesDraft_append, linesDraft_append, ← writeTable_eq_linesDraft,
    ← writeTable_eq_linesDraft, ← writeTable_eq_linesDraft, List.map_map, List.map_map, ← hnames]
  rfl

/-! ## Reading lines back -/

/-- Records on lines of their own are read in their order, each as what its line says. -/
theorem records_number {α β : Type} (part : Section) {record : Text.Line → Except LoadError β}
    {text : α → String} {value : α → β} {as : List α}
    (h : ∀ a ∈ as, ∀ n, record ⟨n, (text a).toList⟩ = .ok (value a)) (n : Nat)
    (rest : List (List Char)) :
    records part record as.length (number n ((as.map text).map String.toList ++ rest)) =
      .ok (as.map value, number (n + as.length) rest) := by
  induction as generalizing n with
  | nil => rfl
  | cons a as ih =>
      have hrest := ih (fun b hb => h b (List.mem_cons_of_mem a hb)) (n + 1)
      have hn : n + (as.length + 1) = n + 1 + as.length := by omega
      simp only [List.map_cons, List.cons_append, Text.number_cons, List.length_cons, records,
        h a List.mem_cons_self n, hrest]
      rw [hn]
      rfl

/-- A count fits on its line and is read back, if 64 bits can hold it. -/
theorem count_number (part : Section) {k : Nat} (hk : k < UInt64.size) (n : Nat)
    (rest : List (List Char)) :
    count part (number n ((Decimal.ofNat k).toList :: rest)) = .ok (k, number (n + 1) rest) := by
  have htrim : Text.trim (Decimal.ofNat k).toList = (Decimal.ofNat k).toList :=
    Text.trim_eq_self fun _ hc => Decimal.not_isBlank_of_mem_ofNat hc
  simp [count, htrim, Decimal.size?_ofNat hk]

theorem table_number {α β : Type} (part : Section) {record : Text.Line → Except LoadError β}
    {text : α → String} {value : α → β} {as : List α}
    (h : ∀ a ∈ as, ∀ n, record ⟨n, (text a).toList⟩ = .ok (value a))
    (hsize : as.length < UInt64.size) (n : Nat) (rest : List (List Char)) :
    table part record (number n (tableLines (as.map text) ++ rest)) =
      .ok (as.map value, number (n + 1 + as.length) rest) := by
  have hcount := count_number part hsize n ((as.map text).map String.toList ++ rest)
  unfold table tableLines
  rw [List.length_map, List.cons_append, hcount]
  exact records_number part h (n + 1) rest

/-! ## Mnemonics that are one word -/

/-- A mnemonic that is one word of a text. -/
def IsWord (mn : Mnemonic) : Prop :=
  mn.text.toList ≠ [] ∧ ∀ c ∈ mn.text.toList, Text.isBlank c = false

/-- A mnemonic that a text can hold.  One that is not known has to be a word, and no opcode may go
by it. -/
def Readable : Mnemonic → Prop
  | .known _ => True
  | .unknown text =>
    text ≠ "" ∧ (∀ c ∈ text.toList, Text.isBlank c = false) ∧ ∀ op : Opcode, op.name ≠ text

theorem ofName?_eq_none_iff {s : String} :
    Opcode.ofName? s = none ↔ ∀ op : Opcode, op.name ≠ s := by
  rw [Option.eq_none_iff_forall_ne_some]
  exact forall_congr' fun op => not_congr Opcode.ofName?_eq_some_iff

theorem all_not_isBlank_iff {cs : List Char} :
    (cs.all fun c => !Text.isBlank c) = true ↔ ∀ c ∈ cs, Text.isBlank c = false := by
  simp

-- The characters of the text are looked at one by one, and not all characters there are.
instance : DecidablePred Readable
  | .known _ => .isTrue trivial
  | .unknown text => decidable_of_iff
      (text ≠ "" ∧ (text.toList.all fun c => !Text.isBlank c) = true ∧ Opcode.ofName? text = none)
      (and_congr_right' (and_congr all_not_isBlank_iff ofName?_eq_none_iff))

instance : DecidablePred IsWord := fun mn => decidable_of_iff
  (mn.text.toList ≠ [] ∧ (mn.text.toList.all fun c => !Text.isBlank c) = true)
  (and_congr_right' all_not_isBlank_iff)

theorem opcode_name_word (op : Opcode) : IsWord (.known op) := by
  have h : ∀ op ∈ Opcode.all,
      op.name.toList ≠ [] ∧ (op.name.toList.all fun c => !Text.isBlank c) = true := by decide
  obtain ⟨hne, hblank⟩ := h op op.mem_all
  exact ⟨hne, all_not_isBlank_iff.mp hblank⟩

/-- A mnemonic that a text can hold is a word there. -/
theorem Readable.word {mn : Mnemonic} (h : Readable mn) : IsWord mn := by
  cases mn with
  | known op => exact opcode_name_word op
  | unknown text =>
      obtain ⟨hne, hblank, -⟩ := h
      exact ⟨fun hnil => hne (String.toList_eq_nil_iff.mp hnil), hblank⟩

/-- A mnemonic that a text can hold is known again by its name. -/
theorem Readable.ofText_text {mn : Mnemonic} (h : Readable mn) : Mnemonic.ofText mn.text = mn := by
  cases mn with
  | known op => exact Mnemonic.ofText_name op
  | unknown text =>
      obtain ⟨-, -, hname⟩ := h
      simp [Mnemonic.ofText, Mnemonic.text, ofName?_eq_none_iff.mpr hname]

/-- What is read off a word is a mnemonic that a text can hold. -/
theorem readable_ofText {word : List Char} (hne : word ≠ [])
    (hblank : ∀ c ∈ word, Text.isBlank c = false) :
    Readable (Mnemonic.ofText (String.ofList word)) := by
  unfold Mnemonic.ofText
  split
  next => trivial
  next hnone =>
    refine ⟨?_, by simpa using hblank, ofName?_eq_none_iff.mp hnone⟩
    simpa using hne

/-! ## Records of each kind -/

/-- An operand that is not shown is zero. -/
theorem operand_eq_zero_of_not_hasOperand {i : Instruction} (h : i.hasOperand = false) :
    i.operand = 0 := by
  unfold Instruction.hasOperand at h
  split at h
  next => simpa using (Bool.or_eq_false_iff.mp h).2
  next => simpa using h

/-- What a text makes of an instruction: its mnemonic is known by its name only. -/
def respell (i : Instruction) : Instruction :=
  { i with mnemonic := .ofText i.mnemonic.text }

theorem respell_eq_self {i : Instruction} (h : Readable i.mnemonic) : respell i = i := by
  rw [respell, h.ofText_text]

theorem instruction_instructionText {i : Instruction} (h : IsWord i.mnemonic) (n : Nat) :
    instruction ⟨n, (instructionText i).toList⟩ = .ok (respell i) := by
  obtain ⟨hne, hblank⟩ := h
  have hword := Text.words_eq_singleton hne hblank
  unfold instructionText
  cases hop : i.hasOperand with
  | true =>
      have hoperand : Text.words (Decimal.ofWord i.operand).toList =
          [(Decimal.ofWord i.operand).toList] :=
        Text.words_eq_singleton (Decimal.ofWord_ne_nil _)
          fun _ hc => Decimal.not_isBlank_of_mem_ofWord hc
      have hwords : Text.words (i.mnemonic.text.toList ++ ' ' :: (Decimal.ofWord i.operand).toList) =
          [i.mnemonic.text.toList, (Decimal.ofWord i.operand).toList] := by
        rw [Text.words_append_blank (by decide), hword, hoperand]
        rfl
      simp [instruction, hwords, Decimal.word?_ofWord, respell]
  | false =>
      have hzero := operand_eq_zero_of_not_hasOperand hop
      simp [instruction, hword, respell, ← hzero]

theorem constant_ofWord (w : Word) (n : Nat) :
    constant ⟨n, (Decimal.ofWord w).toList⟩ = .ok w := by
  have htrim : Text.trim (Decimal.ofWord w).toList = (Decimal.ofWord w).toList :=
    Text.trim_eq_self fun _ hc => Decimal.not_isBlank_of_mem_ofWord hc
  simp [constant, htrim, Decimal.word?_ofWord]

theorem name_toList (s : String) (n : Nat) : name ⟨n, s.toList⟩ = .ok s := by
  simp [name, Text.Line.text]

/-! ## Reading a container back -/

/-- The counts of the tables fit 64 bits, as those of tables in memory always do. -/
structure CountsFit (p : Program) : Prop where
  code : p.code.size < UInt64.size
  consts : p.consts.size < UInt64.size
  names : p.names.size < UInt64.size

/-- What a text makes of a program. -/
def respellAll (p : Program) : Program :=
  { p with code := p.code.map respell }

theorem respellAll_eq_self {p : Program} (h : ∀ i ∈ p.code, Readable i.mnemonic) :
    respellAll p = p := by
  have hcode : p.code.map respell = p.code.map id :=
    Array.map_congr_left fun i hi => respell_eq_self (h i hi)
  rw [respellAll, hcode, Array.map_id]

theorem ofLines_containerLines_of_words {p : Program} (hwords : ∀ i ∈ p.code, IsWord i.mnemonic)
    (hcounts : CountsFit p) : ofLines (number 1 (containerLines p)) = .ok (respellAll p) := by
  have hinstruction : ∀ i ∈ p.code.toList, ∀ n,
      instruction ⟨n, (instructionText i).toList⟩ = .ok (respell i) := by
    intro i hi
    exact instruction_instructionText (hwords i (Array.mem_toList_iff.mp hi))
  have hconstant : ∀ w ∈ p.consts.toList, ∀ n,
      constant ⟨n, (Decimal.ofWord w).toList⟩ = .ok (id w) := by
    intro w _
    exact constant_ofWord w
  have hname : ∀ s ∈ p.names.toList, ∀ n, name ⟨n, (id s).toList⟩ = .ok (id s) := by
    intro s _
    exact name_toList s
  have hcode := table_number .code hinstruction hcounts.code
  have hconsts := table_number .consts hconstant hcounts.consts
  have hnames := fun n => table_number .names hname hcounts.names n []
  simp only [List.map_id, List.append_nil] at hconsts hnames
  unfold ofLines containerLines
  simp only [List.append_assoc, hcode, hconsts, hnames, ok_bind]
  rw [← Array.toList_map]
  rfl

theorem ofLines_containerLines {p : Program} (hmnemonics : ∀ i ∈ p.code, Readable i.mnemonic)
    (hcounts : CountsFit p) : ofLines (number 1 (containerLines p)) = .ok p := by
  have hwords : ∀ i ∈ p.code, IsWord i.mnemonic := fun i hi => (hmnemonics i hi).word
  rw [ofLines_containerLines_of_words hwords hcounts, respellAll_eq_self hmnemonics]

theorem unbroken_tableLines {records : List String}
    (h : ∀ s ∈ records, Unbroken s.toList) : ∀ l ∈ tableLines records, Unbroken l := by
  intro l hl
  rcases List.mem_cons.mp hl with rfl | hl
  · exact Decimal.unbroken_ofNat records.length
  · obtain ⟨s, hs, rfl⟩ := List.mem_map.mp hl
    exact h s hs

theorem unbroken_instructionText {i : Instruction} (h : IsWord i.mnemonic) :
    Unbroken (instructionText i).toList := by
  have hword : Unbroken i.mnemonic.text.toList := Text.unbroken_of_no_blank h.2
  unfold instructionText
  split
  next =>
    rw [String.toList_append, String.toList_append]
    exact (hword.append ⟨by decide, by decide⟩).append (Decimal.unbroken_ofWord i.operand)
  next => exact hword

theorem unbroken_containerLines_of_words {p : Program} (hwords : ∀ i ∈ p.code, IsWord i.mnemonic)
    (hnames : ∀ name ∈ p.names, Unbroken name.toList) : ∀ l ∈ containerLines p, Unbroken l := by
  intro l hl
  rw [containerLines, List.mem_append, List.mem_append] at hl
  rcases hl with (hcode | hconsts) | hname
  · refine unbroken_tableLines (fun s hs => ?_) l hcode
    obtain ⟨i, hi, rfl⟩ := List.mem_map.mp hs
    exact unbroken_instructionText (hwords i (Array.mem_toList_iff.mp hi))
  · refine unbroken_tableLines (fun s hs => ?_) l hconsts
    obtain ⟨w, -, rfl⟩ := List.mem_map.mp hs
    exact Decimal.unbroken_ofWord w
  · exact unbroken_tableLines (fun s hs => hnames s (Array.mem_toList_iff.mp hs)) l hname

theorem unbroken_containerLines {p : Program} (hmnemonics : ∀ i ∈ p.code, Readable i.mnemonic)
    (hnames : ∀ name ∈ p.names, Unbroken name.toList) : ∀ l ∈ containerLines p, Unbroken l :=
  unbroken_containerLines_of_words (fun i hi => (hmnemonics i hi).word) hnames

theorem read_encode (text : String) : read (Utf8.encode text) = ofLines (Text.lines text.toList) := by
  simp only [read, Utf8.decode?_encode]

theorem read_linesDraft {ls : List (List Char)} (h : ∀ l ∈ ls, Unbroken l) :
    read (linesDraft ls).bytes = ofLines (number 1 ls) := by
  rw [bytes_linesDraft, read_encode, String.toList_ofList, Text.lines_eq_number,
    Text.splitLines_unlines_of_unbroken h]

/-- A text starts with the digits of a count, so it is never taken for a binary container. -/
theorem load_linesDraft (p : Program) :
    Container.load (linesDraft (containerLines p)).bytes =
      read (linesDraft (containerLines p)).bytes := by
  refine if_neg fun hmagic => ?_
  have hmpbc : BinaryFormat.magic = Utf8.encode "MPBC" := by decide
  rw [List.isPrefixOf_iff_prefix, hmpbc, bytes_linesDraft] at hmagic
  obtain ⟨rest, hrest⟩ := Utf8.toList_prefix_of_encode_prefix hmagic
  obtain ⟨c, ds, hdigits, hdigit⟩ := Decimal.toDigits_eq_cons p.code.size
  have hhead : (Text.unlines (containerLines p)).head? = some c := by
    simp [containerLines, tableLines, Text.unlines, Decimal.ofNat, hdigits]
  simp only [String.toList_ofList] at hrest
  rw [← hrest] at hhead
  have hc : 'M' = c := by simpa using hhead
  subst hc
  exact absurd hdigit (by decide)

/-! ## What the reader can bring forth -/

theorem count_lt {part : Section} {lines rest : List Text.Line} {n : Nat}
    (h : count part lines = .ok (n, rest)) : n < UInt64.size := by
  unfold count at h
  split at h
  next => cases h
  next =>
    split at h
    next hsize =>
      cases h
      simpa using (Option.filter_eq_some_iff.mp hsize).2
    next => cases h

/-- Every record that is read stands on some line. -/
theorem exists_line_of_records {α : Type} {part : Section}
    {record : Text.Line → Except LoadError α} {n : Nat} {lines rest : List Text.Line} {as : List α}
    (h : records part record n lines = .ok (as, rest)) :
    as.length = n ∧ ∀ a ∈ as, ∃ l, record l = .ok a := by
  induction n generalizing lines as with
  | zero =>
      cases h
      simp
  | succ n ih =>
      cases lines with
      | nil => cases h
      | cons l lines =>
          obtain ⟨first, hfirst, h⟩ := bind_eq_ok h
          obtain ⟨⟨others, remaining⟩, hothers, h⟩ := bind_eq_ok h
          cases h
          obtain ⟨hlength, hlines⟩ := ih hothers
          refine ⟨by simp [hlength], fun a ha => ?_⟩
          rcases List.mem_cons.mp ha with rfl | ha
          · exact ⟨l, hfirst⟩
          · exact hlines a ha

theorem exists_line_of_table {α : Type} {part : Section}
    {record : Text.Line → Except LoadError α} {lines rest : List Text.Line} {as : List α}
    (h : table part record lines = .ok (as, rest)) :
    as.length < UInt64.size ∧ ∀ a ∈ as, ∃ l, record l = .ok a := by
  obtain ⟨⟨n, body⟩, hcount, hrecords⟩ := bind_eq_ok h
  obtain ⟨hlength, hlines⟩ := exists_line_of_records hrecords
  exact ⟨hlength ▸ count_lt hcount, hlines⟩

theorem readable_of_instruction {l : Text.Line} {i : Instruction} (h : instruction l = .ok i) :
    Readable i.mnemonic := by
  have hword : ∀ w ∈ Text.words l.chars, Readable (Mnemonic.ofText (String.ofList w)) := by
    intro w hw
    obtain ⟨hne, hblank⟩ := Text.word_of_mem_words hw
    exact readable_ofText hne hblank
  unfold instruction at h
  split at h
  next => cases h
  next w hwords =>
    cases h
    exact hword w (by simp [hwords])
  next w operand more hwords =>
    split at h
    next => cases h
    next =>
      split at h
      next =>
        cases h
        exact hword w (by simp [hwords])
      next => cases h

/-- Whatever text is read, its mnemonics are words and its tables can be counted. -/
theorem readable_of_read {bytes : List UInt8} {p : Program} (h : read bytes = .ok p) :
    (∀ i ∈ p.code, Readable i.mnemonic) ∧ CountsFit p := by
  unfold read at h
  split at h
  next => cases h
  next text _ =>
    obtain ⟨⟨code, lines⟩, hcode, h⟩ := bind_eq_ok h
    obtain ⟨⟨consts, lines⟩, hconsts, h⟩ := bind_eq_ok h
    obtain ⟨⟨names, lines⟩, hnames, h⟩ := bind_eq_ok h
    dsimp only at h
    split at h
    next =>
      cases h
      refine ⟨fun i hi => ?_, ⟨?_, ?_, ?_⟩⟩
      · obtain ⟨l, hl⟩ := (exists_line_of_table hcode).2 i (by simpa using hi)
        exact readable_of_instruction hl
      · exact (exists_line_of_table hcode).1
      · exact (exists_line_of_table hconsts).1
      · exact (exists_line_of_table hnames).1
    next => cases h

/-! ## The round trip -/

/-- What the lines of a text can hold: mnemonics that are words and not confused with an opcode, and
names without a line break. -/
structure Expressible (p : Program) : Prop where
  mnemonics : ∀ i ∈ p.code, Readable i.mnemonic
  names : ∀ name ∈ p.names, Unbroken name.toList

/-- **The exact domain of the text format.**  Written into a sink without a limit and loaded again, a
program comes back as it was if and only if it is expressible.  (The counts of tables in memory
always fit.)  Operands that are not looked at, empty names, blanks around names and every other
separator in them survive. -/
theorem text_round_trip_iff (p : Program) (s : Sink) (unlimited : s.room = none) :
    (((write p).deliver s).2 = none ∧
        ∃ bytes, ((write p).deliver s).1.content = s.content ++ bytes ∧
          Container.load bytes = .ok p) ↔
      Expressible p ∧ CountsFit p := by
  rw [Draft.deliver_unlimited_eq_none_iff _ unlimited, Draft.content_deliver_unlimited _ unlimited,
    write_complete_iff]
  constructor
  · rintro ⟨hnames, bytes, hbytes, hload⟩
    have hwritten : (linesDraft (containerLines p)).bytes = bytes := by
      rw [← write_eq_linesDraft hnames]
      exact List.append_cancel_left hbytes
    rw [← hwritten, load_linesDraft] at hload
    obtain ⟨hmnemonics, hcounts⟩ := readable_of_read hload
    exact ⟨⟨hmnemonics, hnames⟩, hcounts⟩
  · rintro ⟨⟨hmnemonics, hnames⟩, hcounts⟩
    refine ⟨hnames, (write p).bytes, rfl, ?_⟩
    rw [write_eq_linesDraft hnames, load_linesDraft,
      read_linesDraft (unbroken_containerLines hmnemonics hnames),
      ofLines_containerLines hmnemonics hcounts]

/-- A program at the edge of what a text can hold: an operand where none is looked at, the lowest
word, a mnemonic that is not known, and names that are empty, blank or hold other separators. -/
def separators : Program where
  code := #[⟨.known (.arith .add), 5⟩, ⟨.unknown "FROB", -9223372036854775808⟩, ⟨.known .jump, 0⟩]
  consts := #[-9223372036854775808, 9223372036854775807]
  names := #["", " \t", "a\u2028b\u0085", " x "]

theorem text_round_trip_separators :
    ({} : Sink).room = none ∧ ((write separators).deliver {}).2 = none ∧
      ∃ bytes, ((write separators).deliver {}).1.content = ({} : Sink).content ++ bytes ∧
        Container.load bytes = .ok separators := by
  have mnemonics : ∀ i ∈ separators.code, Readable i.mnemonic := by decide
  have names : ∀ name ∈ separators.names, Unbroken name.toList := by decide
  have counts : CountsFit separators := ⟨by decide, by decide, by decide⟩
  exact ⟨rfl, (text_round_trip_iff separators {} rfl).mpr ⟨⟨mnemonics, names⟩, counts⟩⟩

end StackMachine.TextFormat
