import Mathlib.Data.List.Forall2
import StackMachine.Proofs.BinaryImage
import StackMachine.Proofs.LexicalRules
import StackMachine.Proofs.TextRoundTrip

/-!
# The grammar of texts

A text container is described line by line: which lines are counts, instructions, constants and names,
and what each of them says.  The reader accepts exactly the texts that are so described
(`TextFormat.read_eq_ok_iff`).  No text can start like a binary container, so a container is of one
format at most, and loading accepts what either format describes.
-/

namespace StackMachine.TextFormat

open Text (Line Lines Blank Solid Padded)

/-! ## Lines of each kind -/

/-- A line with a count, which 64 bits can hold. -/
def CountLine (line : List Char) (n : Nat) : Prop :=
  ∃ digits, Padded digits line ∧ Decimal.Size digits n ∧ n < UInt64.size

/-- The mnemonic a word stands for: an opcode if it is exactly the name of one. -/
inductive StandsFor : List Char → Mnemonic → Prop where
  | known (op : Opcode) : StandsFor op.name.toList (.known op)
  | unknown {word : List Char} (new : ∀ op : Opcode, op.name.toList ≠ word) :
      StandsFor word (.unknown (String.ofList word))

/-- A line with an instruction: one word, or two of which the second is the operand. -/
inductive InstructionLine : List Char → Instruction → Prop where
  | bare {line word : List Char} {mnemonic : Mnemonic} (solid : Solid word)
      (name : StandsFor word mnemonic) (padded : Padded word line) :
      InstructionLine line ⟨mnemonic, 0⟩
  | applied {line word gap digits : List Char} {mnemonic : Mnemonic} {operand : Word}
      (solid : Solid word) (name : StandsFor word mnemonic) (apart : gap ≠ []) (blank : Blank gap)
      (literal : Decimal.Literal digits operand.toInt)
      (padded : Padded (word ++ gap ++ digits) line) :
      InstructionLine line ⟨mnemonic, operand⟩

/-- A line with a constant. -/
def ConstantLine (line : List Char) (value : Word) : Prop :=
  ∃ digits, Padded digits line ∧ Decimal.Literal digits value.toInt

/-- A line with a name, which is the whole line. -/
def NameLine (line : List Char) (name : String) : Prop :=
  name.toList = line

/-! ## Containers -/

/-- The lines of a table: its count, then one line for each record. -/
inductive TableLines {α : Type} (record : List Char → α → Prop) :
    List (List Char) → List α → Prop where
  | intro {count : List Char} {lines : List (List Char)} {as : List α}
      (counted : CountLine count as.length) (recorded : List.Forall₂ record lines as) :
      TableLines record (count :: lines) as

/-- The lines of a container: three tables, then nothing but blank lines. -/
structure ContainerLines (code consts names tail : List (List Char)) (p : Program) : Prop where
  code : TableLines InstructionLine code p.code.toList
  consts : TableLines ConstantLine consts p.consts.toList
  names : TableLines NameLine names p.names.toList
  tail : ∀ line ∈ tail, Blank line

/-- The bytes of a text that describes a program. -/
def Describes (bytes : List UInt8) (p : Program) : Prop :=
  ∃ text : String, Utf8.encode text = bytes ∧
    ∃ code consts names tail, Lines text.toList (code ++ consts ++ names ++ tail) ∧
      ContainerLines code consts names tail p

/-! ## Reading lines of each kind -/

theorem size?_trim_eq_some_iff {line : List Char} {n : Nat} :
    Decimal.size? (Text.trim line) = some n ↔ CountLine line n := by
  rw [Decimal.size?_eq_some_iff]
  exact Text.holds_trim_iff (P := fun digits => Decimal.Size digits n ∧ n < UInt64.size)
    fun h => h.1.solid

theorem count_eq_ok_iff {part : Section} {lines rest : List Line} {n : Nat} :
    count part lines = .ok (n, rest) ↔ ∃ line, lines = line :: rest ∧ CountLine line.chars n := by
  cases lines with
  | nil => simp [count]
  | cons line lines =>
      rw [count]
      cases hsize : Decimal.size? (Text.trim line.chars) with
      | none =>
          constructor
          · intro h
            cases h
          · rintro ⟨_, heq, hcount⟩
            cases heq
            rw [size?_trim_eq_some_iff.mpr hcount] at hsize
            cases hsize
      | some k =>
          constructor
          · intro h
            cases h
            exact ⟨line, rfl, size?_trim_eq_some_iff.mp hsize⟩
          · rintro ⟨_, heq, hcount⟩
            cases heq
            rw [size?_trim_eq_some_iff.mpr hcount] at hsize
            cases hsize
            rfl

theorem constant_eq_ok_iff {line : Line} {w : Word} :
    constant line = .ok w ↔ ConstantLine line.chars w := by
  have hword : Decimal.word? (Text.trim line.chars) = some w ↔ ConstantLine line.chars w := by
    rw [Decimal.word?_eq_some_iff]
    exact Text.holds_trim_iff (P := fun digits => Decimal.Literal digits w.toInt)
      Decimal.Literal.solid
  rw [← hword]
  simp only [constant]
  cases Decimal.word? (Text.trim line.chars) with
  | none => simp
  | some v => simp

theorem name_eq_ok_iff {line : Line} {s : String} : name line = .ok s ↔ NameLine line.chars s := by
  simp only [name, NameLine, Line.text, Except.ok.injEq]
  constructor
  · rintro rfl
    exact String.toList_ofList
  · intro h
    rw [← h, String.ofList_toList]

theorem ofText_eq_iff {word : List Char} {mnemonic : Mnemonic} :
    Mnemonic.ofText (String.ofList word) = mnemonic ↔ StandsFor word mnemonic := by
  constructor
  · rintro rfl
    unfold Mnemonic.ofText
    split
    next op hop =>
      have hname := Opcode.ofName?_eq_some_iff.mp hop
      rw [← String.toList_ofList (l := word), ← hname]
      exact .known op
    next hnone =>
      refine .unknown fun op hop => ?_
      have hname := ofName?_eq_none_iff.mp hnone op
      rw [← hop, String.ofList_toList] at hname
      exact hname rfl
  · intro h
    cases h with
    | known op => rw [String.ofList_toList, Mnemonic.ofText_name]
    | unknown new =>
        have hnone : Opcode.ofName? (String.ofList word) = none := by
          refine ofName?_eq_none_iff.mpr fun op hop => new op ?_
          rw [hop, String.toList_ofList]
        rw [Mnemonic.ofText, hnone]

theorem instruction_eq_ok_iff {line : Line} {i : Instruction} :
    instruction line = .ok i ↔ InstructionLine line.chars i := by
  constructor
  · intro h
    unfold instruction at h
    split at h
    next => cases h
    next word hwords =>
      cases h
      obtain ⟨solid, padded⟩ := Text.words_eq_one_iff.mp hwords
      exact .bare solid (ofText_eq_iff.mp rfl) padded
    next word digits more hwords =>
      split at h
      next => cases h
      next operand hoperand =>
        split at h
        next hmore =>
          cases h
          subst hmore
          obtain ⟨solid, -, gap, apart, blank, padded⟩ := Text.words_eq_two_iff.mp hwords
          exact .applied solid (ofText_eq_iff.mp rfl) apart blank
            (Decimal.word?_eq_some_iff.mp hoperand) padded
        next => cases h
  · intro h
    cases h with
    | bare solid name padded =>
        have hwords := Text.words_eq_one_iff.mpr ⟨solid, padded⟩
        simp only [instruction, hwords, ofText_eq_iff.mpr name]
    | applied solid name apart blank literal padded =>
        have hwords := Text.words_eq_two_iff.mpr ⟨solid, literal.solid, _, apart, blank, padded⟩
        simp only [instruction, hwords, ofText_eq_iff.mpr name,
          Decimal.word?_eq_some_iff.mpr literal, if_true]

/-! ## Reading tables -/

section

variable {α : Type} {part : Section} {record : Line → Except LoadError α}
  {R : List Char → α → Prop}

/-- Records are read off the lines that describe them, one by one. -/
theorem records_eq_ok_iff (h : ∀ line a, record line = .ok a ↔ R line.chars a) {n : Nat}
    {lines rest : List Line} {as : List α} :
    records part record n lines = .ok (as, rest) ↔
      as.length = n ∧ ∃ front, lines = front ++ rest ∧ List.Forall₂ R (front.map Line.chars) as := by
  constructor
  · intro hread
    induction n generalizing lines as with
    | zero =>
        cases hread
        exact ⟨rfl, [], rfl, .nil⟩
    | succ n ih =>
        cases lines with
        | nil => cases hread
        | cons line lines =>
            obtain ⟨first, hfirst, hread⟩ := bind_eq_ok hread
            obtain ⟨⟨others, remaining⟩, hothers, hdone⟩ := bind_eq_ok hread
            cases hdone
            obtain ⟨hlength, front, rfl, hfront⟩ := ih hothers
            exact ⟨by rw [List.length_cons, hlength], line :: front, rfl,
              .cons ((h line first).mp hfirst) hfront⟩
  · rintro ⟨rfl, front, rfl, hfront⟩
    induction as generalizing front with
    | nil =>
        obtain rfl : front = [] := by simpa using hfront
        rfl
    | cons a as ih =>
        cases front with
        | nil => cases hfront
        | cons line front =>
            obtain ⟨hfirst, hothers⟩ := List.forall₂_cons.mp hfront
            simp only [List.cons_append, List.length_cons, records, (h line a).mpr hfirst,
              ih front hothers]
            rfl

theorem table_eq_ok_iff (h : ∀ line a, record line = .ok a ↔ R line.chars a)
    {lines rest : List Line} {as : List α} :
    table part record lines = .ok (as, rest) ↔
      ∃ front, lines = front ++ rest ∧ TableLines R (front.map Line.chars) as := by
  constructor
  · intro hread
    obtain ⟨⟨n, body⟩, hcount, hrecords⟩ := bind_eq_ok hread
    obtain ⟨line, rfl, hline⟩ := count_eq_ok_iff.mp hcount
    obtain ⟨rfl, front, rfl, hfront⟩ := (records_eq_ok_iff h).mp hrecords
    exact ⟨line :: front, rfl, .intro hline hfront⟩
  · rintro ⟨front, rfl, htable⟩
    cases front with
    | nil => cases htable
    | cons line front =>
        cases htable with
        | intro hline hfront =>
            have hcount : count part (line :: (front ++ rest)) = .ok (as.length, front ++ rest) :=
              count_eq_ok_iff.mpr ⟨line, rfl, hline⟩
            show (count part (line :: (front ++ rest)) >>= _) = _
            rw [hcount]
            exact (records_eq_ok_iff h).mpr ⟨rfl, front, rfl, hfront⟩

end

/-! ## Reading containers -/

theorem all_blank_iff {lines : List (List Char)} :
    (lines.all fun line => line.all Text.isBlank) = true ↔ ∀ line ∈ lines, Blank line := by
  simp [Blank]

theorem instructions_eq_ok_iff {lines rest : List Line} {as : List Instruction} :
    table .code instruction lines = .ok (as, rest) ↔
      ∃ front, lines = front ++ rest ∧ TableLines InstructionLine (front.map Line.chars) as :=
  table_eq_ok_iff fun _ _ => instruction_eq_ok_iff

theorem constants_eq_ok_iff {lines rest : List Line} {as : List Word} :
    table .consts constant lines = .ok (as, rest) ↔
      ∃ front, lines = front ++ rest ∧ TableLines ConstantLine (front.map Line.chars) as :=
  table_eq_ok_iff fun _ _ => constant_eq_ok_iff

theorem names_eq_ok_iff {lines rest : List Line} {as : List String} :
    table .names name lines = .ok (as, rest) ↔
      ∃ front, lines = front ++ rest ∧ TableLines NameLine (front.map Line.chars) as :=
  table_eq_ok_iff fun _ _ => name_eq_ok_iff

/-- Three tables are a program if nothing but blank lines follows them. -/
theorem ofLines_of_tables {lines : List Line} {code consts names tail : List (List Char)}
    {p : Program} (hlines : lines.map Line.chars = code ++ consts ++ names ++ tail)
    (hcode : TableLines InstructionLine code p.code.toList)
    (hconsts : TableLines ConstantLine consts p.consts.toList)
    (hnames : TableLines NameLine names p.names.toList) :
    ofLines lines =
      if tail.all fun line => line.all Text.isBlank then .ok p else .error .trailingData := by
  rw [List.append_assoc, List.append_assoc] at hlines
  obtain ⟨codeLines, afterCode, rfl, rfl, hafterCode⟩ := List.map_eq_append_iff.mp hlines
  obtain ⟨constLines, afterConsts, rfl, rfl, hafterConsts⟩ :=
    List.map_eq_append_iff.mp hafterCode
  obtain ⟨nameLines, tailLines, rfl, rfl, rfl⟩ := List.map_eq_append_iff.mp hafterConsts
  have readCode := instructions_eq_ok_iff.mpr
    ⟨codeLines, Eq.refl (codeLines ++ (constLines ++ (nameLines ++ tailLines))), hcode⟩
  have readConsts := constants_eq_ok_iff.mpr
    ⟨constLines, Eq.refl (constLines ++ (nameLines ++ tailLines)), hconsts⟩
  have readNames := names_eq_ok_iff.mpr ⟨nameLines, Eq.refl (nameLines ++ tailLines), hnames⟩
  simp only [ofLines, readCode, readConsts, readNames, ok_bind]
  rw [List.all_map]
  rfl

theorem ofLines_eq_ok_iff {lines : List Line} {p : Program} :
    ofLines lines = .ok p ↔
      ∃ code consts names tail, lines.map Line.chars = code ++ consts ++ names ++ tail ∧
        ContainerLines code consts names tail p := by
  constructor
  · intro h
    obtain ⟨⟨code, afterCode⟩, hcode, h⟩ := bind_eq_ok h
    obtain ⟨⟨consts, afterConsts⟩, hconsts, h⟩ := bind_eq_ok h
    obtain ⟨⟨names, tail⟩, hnames, h⟩ := bind_eq_ok h
    dsimp only at h
    split at h
    next blank =>
      cases h
      obtain ⟨codeLines, rfl, codeTable⟩ := instructions_eq_ok_iff.mp hcode
      obtain ⟨constLines, rfl, constTable⟩ := constants_eq_ok_iff.mp hconsts
      obtain ⟨nameLines, rfl, nameTable⟩ := names_eq_ok_iff.mp hnames
      refine ⟨_, _, _, tail.map Line.chars, ?_,
        ⟨codeTable, constTable, nameTable, all_blank_iff.mp ?_⟩⟩
      · simp
      · rwa [List.all_map]
    next => cases h
  · rintro ⟨code, consts, names, tail, hlines, h⟩
    rw [ofLines_of_tables hlines h.code h.consts h.names, if_pos (all_blank_iff.mpr h.tail)]

theorem map_chars_number (n : Nat) (ls : List (List Char)) :
    (Text.number n ls).map Line.chars = ls := by
  induction ls generalizing n with
  | nil => rfl
  | cons l ls ih => rw [Text.number_cons, List.map_cons, ih]

theorem map_chars_lines (text : List Char) :
    (Text.lines text).map Line.chars = Text.splitLines text := by
  rw [Text.lines_eq_number, map_chars_number]

/-- Of a text the reader sees its lines and their numbers only. -/
theorem read_encode_of_lines {text : String} {ls : List (List Char)} (h : Lines text.toList ls) :
    read (Utf8.encode text) = ofLines (Text.number 1 ls) := by
  rw [read_encode, Text.lines_eq_number, h.splitLines_eq]

/-- The reader accepts exactly the texts that describe a program. -/
theorem read_eq_ok_iff {bytes : List UInt8} {p : Program} :
    read bytes = .ok p ↔ Describes bytes p := by
  constructor
  · intro h
    unfold read at h
    split at h
    next => cases h
    next text hdecode =>
      obtain ⟨code, consts, names, tail, hlines, hcontainer⟩ := ofLines_eq_ok_iff.mp h
      rw [map_chars_lines] at hlines
      exact ⟨text, Utf8.decode?_eq_some_iff.mp hdecode, code, consts, names, tail,
        Text.splitLines_eq_iff.mp hlines, hcontainer⟩
  · rintro ⟨text, rfl, code, consts, names, tail, hlines, hcontainer⟩
    rw [read_encode_of_lines hlines]
    refine ofLines_eq_ok_iff.mpr ⟨code, consts, names, tail, ?_, hcontainer⟩
    rw [map_chars_number]

/-! ## Texts and binary containers -/

/-- A count starts with a blank, a plus sign or a digit. -/
theorem CountLine.head_ne {line : List Char} {n : Nat} {c : Char} (h : CountLine line n)
    (hblank : Text.isBlank c = false) (hplus : c ≠ '+') (hdigit : c.isDigit = false) :
    line.head? ≠ some c := by
  obtain ⟨digits, ⟨before, after, hbefore, -, rfl⟩, hsize, -⟩ := h
  intro hhead
  cases before with
  | cons b before =>
      have hb : b = c := by simpa using hhead
      have hblank' := hbefore b List.mem_cons_self
      rw [hb, hblank] at hblank'
      cases hblank'
  | nil =>
      cases hsize with
      | plus =>
          have hc : '+' = c := by simpa using hhead
          exact hplus hc.symm
      | plain hnumeral =>
          cases digits with
          | nil => exact hnumeral.isDigit.1 rfl
          | cons d digits =>
              have hd : d = c := by simpa using hhead
              have hdigit' := hnumeral.head_isDigit
              rw [hd, hdigit] at hdigit'
              cases hdigit'

/-- No text that describes a program starts with the magic bytes. -/
theorem Describes.not_magic {bytes : List UInt8} {p : Program} (h : Describes bytes p) :
    ¬ BinaryFormat.magic <+: bytes := by
  obtain ⟨text, rfl, code, consts, names, tail, hlines, hcontainer⟩ := h
  intro hmagic
  have hmpbc : BinaryFormat.magic = Utf8.encode "MPBC" := by decide
  rw [hmpbc] at hmagic
  obtain ⟨rest, hrest⟩ := Utf8.toList_prefix_of_encode_prefix hmagic
  have htext : text.toList = 'M' :: (['P', 'B', 'C'] ++ rest) := by
    rw [← hrest]
    rfl
  rw [htext] at hlines
  cases hcontainer.code with
  | intro counted recorded =>
      have hhead := hlines.head?_eq (by decide) (by decide)
      exact counted.head_ne (by decide) (by decide) (by decide) hhead

end StackMachine.TextFormat

namespace StackMachine.Container

theorem magic_of_read {bytes : List UInt8} {p : Program} (h : BinaryFormat.read bytes = .ok p) :
    BinaryFormat.magic <+: bytes := by
  obtain ⟨img, rfl, -⟩ := BinaryFormat.read_eq_ok_iff.mp h
  simp only [BinaryFormat.Image.bytes, BinaryFormat.Image.layout, BinaryFormat.headerBytes,
    List.append_assoc]
  exact List.prefix_append _ _

/-- Loading accepts what either reader accepts. -/
theorem load_eq_ok_iff {bytes : List UInt8} {p : Program} :
    load bytes = .ok p ↔ TextFormat.read bytes = .ok p ∨ BinaryFormat.read bytes = .ok p := by
  unfold load
  split
  next hmagic =>
    rw [List.isPrefixOf_iff_prefix] at hmagic
    refine ⟨Or.inr, fun h => h.resolve_left fun htext => ?_⟩
    exact (TextFormat.read_eq_ok_iff.mp htext).not_magic hmagic
  next hmagic =>
    rw [List.isPrefixOf_iff_prefix] at hmagic
    refine ⟨Or.inl, fun h => h.resolve_right fun hbinary => ?_⟩
    exact hmagic (magic_of_read hbinary)

/-- **The text reader accepts exactly its grammar**, and what the lines say is the program it reads.
No text starts with the magic bytes of the binary format; so no container is of both formats, and
loading accepts the containers of either. -/
theorem text_grammar_exact (bytes : List UInt8) (p : Program) :
    (TextFormat.read bytes = .ok p ↔ TextFormat.Describes bytes p) ∧
      (BinaryFormat.magic <+: bytes → ∀ q, TextFormat.read bytes ≠ .ok q) ∧
      (load bytes = .ok p ↔ TextFormat.read bytes = .ok p ∨ BinaryFormat.read bytes = .ok p) ∧
      ¬ ((∃ q, TextFormat.read bytes = .ok q) ∧ ∃ q, BinaryFormat.read bytes = .ok q) := by
  refine ⟨TextFormat.read_eq_ok_iff, ?_, load_eq_ok_iff, ?_⟩
  · intro hmagic q htext
    exact (TextFormat.read_eq_ok_iff.mp htext).not_magic hmagic
  · rintro ⟨⟨_, htext⟩, _, hbinary⟩
    exact (TextFormat.read_eq_ok_iff.mp htext).not_magic (magic_of_read hbinary)

/-- A text with every freedom the grammar leaves: signs, zeros, blanks, two kinds of line ends, a name
that ends with a carriage return, and a blank line at the end. -/
def unusualText : String :=
  "+1\r\n\tFROB  -007\r\n 0 \n01\na b\r\r\n \n"

theorem text_grammar_exact_unusual :
    TextFormat.Describes (Utf8.encode unusualText) ⟨#[⟨.unknown "FROB", -7⟩], #[], #["a b\r"]⟩ ∧
      load (Utf8.encode unusualText) = .ok ⟨#[⟨.unknown "FROB", -7⟩], #[], #["a b\r"]⟩ ∧
      BinaryFormat.magic <+: Utf8.encode "MPBC" ∧
      ∀ q, TextFormat.read (Utf8.encode "MPBC") ≠ .ok q := by
  have hread : TextFormat.read (Utf8.encode unusualText) =
      .ok ⟨#[⟨.unknown "FROB", -7⟩], #[], #["a b\r"]⟩ := by
    rw [TextFormat.read, Utf8.decode?_encode]
    decide +kernel
  have hmagic : BinaryFormat.magic <+: Utf8.encode "MPBC" := by decide
  obtain ⟨hgrammar, -, hload, -⟩ := text_grammar_exact (Utf8.encode unusualText)
    ⟨#[⟨.unknown "FROB", -7⟩], #[], #["a b\r"]⟩
  exact ⟨hgrammar.mp hread, hload.mpr (Or.inl hread), hmagic,
    (text_grammar_exact (Utf8.encode "MPBC") {}).2.1 hmagic⟩

end StackMachine.Container
