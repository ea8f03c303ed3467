import StackMachine.Proofs.TextGrammar

/-!
# Where a text goes wrong

A text is read line by line.  At any point some lines are due, each in a role of its own: the count of
a section or one of its records.  A line that is right in its role is passed (`Leads`), and a count
makes as many records due as it says.  The reader complains about the first line that is wrong in its
role, or else about the first that is missing, and `read_eq_error_iff` says exactly what it says then.
Nothing of this looks at a line behind the one that is blamed.
-/

namespace StackMachine

/-- The line that an error is about. -/
def LoadError.line? : LoadError → Option Nat
  | invalidCount line _ | invalidInteger line _ | invalidInstruction line _ => some line
  | _ => none

namespace TextFormat

open Text (Line Lines Trimmed SecondWord number)

/-! ## Roles of lines -/

/-- What a line is there for: to count the records of a section, or to hold one of them. -/
inductive Role : Type where
  | count (part : Section)
  | record (part : Section)
deriving DecidableEq, Repr

/-- The section a line belongs to. -/
def Role.part : Role → Section
  | count part | record part => part

/-- A line that is right in its role.  A text has no header. -/
def WellFormed : Role → List Char → Prop
  | .count _, line => ∃ n, CountLine line n
  | .record .header, _ => False
  | .record .code, line => ∃ i, InstructionLine line i
  | .record .consts, line => ∃ w, ConstantLine line w
  | .record .names, line => ∃ s, NameLine line s

/-- An integer that a word can hold. -/
def IsInteger (digits : List Char) : Prop :=
  ∃ w : Word, Decimal.Literal digits w.toInt

/-- What is said about a line that is wrong in its role, and what of the line is quoted.  Of an
instruction the operand is blamed, unless that is an integer or there is none. -/
inductive Complaint (number : Nat) (line : List Char) : Role → LoadError → Prop where
  | count {part : Section} :
      Complaint number line (.count part) (.invalidCount number (String.ofList line))
  | operand {word : List Char} (second : SecondWord word line) (wrong : ¬ IsInteger word) :
      Complaint number line (.record .code) (.invalidInteger number (String.ofList word))
  | instruction (operand : ∀ word, SecondWord word line → IsInteger word) :
      Complaint number line (.record .code) (.invalidInstruction number (String.ofList line))
  | constant {content : List Char} (trimmed : Trimmed content line) :
      Complaint number line (.record .consts) (.invalidInteger number (String.ofList content))

theorem Complaint.line?_eq {number : Nat} {line : List Char} {role : Role} {e : LoadError}
    (h : Complaint number line role e) : e.line? = some number := by
  cases h <;> rfl

/-- There is one complaint at most about a line in its role. -/
theorem Complaint.unique {number : Nat} {line : List Char} {role : Role} {e e' : LoadError}
    (h : Complaint number line role e) (h' : Complaint number line role e') : e = e' := by
  cases h with
  | count =>
      cases h'
      rfl
  | @operand word second wrong =>
      cases h' with
      | @operand word' second' wrong' =>
          obtain ⟨_, _, hwords⟩ := Text.secondWord_iff.mp second
          obtain ⟨_, _, hwords'⟩ := Text.secondWord_iff.mp second'
          cases hwords.symm.trans hwords'
          rfl
      | instruction integer => exact absurd (integer word second) wrong
  | instruction integer =>
      cases h' with
      | @operand word second wrong => exact absurd (integer word second) wrong
      | instruction => rfl
  | constant trimmed =>
      cases h' with
      | constant trimmed' => rw [← trimmed.trim_eq, ← trimmed'.trim_eq]

/-- What is said where a line is due that is wrong or missing. -/
inductive Wrong (role : Role) (number : Nat) : Option (List Char) → LoadError → Prop where
  | missing : Wrong role number none (.truncated role.part)
  | malformed {line : List Char} {e : LoadError} (wrong : ¬ WellFormed role line)
      (complaint : Complaint number line role e) : Wrong role number (some line) e

/-! ## Lines that are due -/

/-- The lines that are due before and after a line that is right in its role. -/
inductive Leads : List Role → List Char → List Role → Prop where
  | count {part : Section} {due : List Role} {line : List Char} {n : Nat}
      (counted : CountLine line n) :
      Leads (.count part :: due) line (List.replicate n (.record part) ++ due)
  | record {part : Section} {due : List Role} {line : List Char}
      (formed : WellFormed (.record part) line) : Leads (.record part :: due) line due

/-- The lines that are due before and after some lines, each of which is right in the role that the
counts before it give it. -/
inductive Passes : List Role → List (List Char) → List Role → Prop where
  | nil {due : List Role} : Passes due [] due
  | cons {due due' due'' : List Role} {line : List Char} {lines : List (List Char)}
      (first : Leads due line due') (others : Passes due' lines due'') :
      Passes due (line :: lines) due''

/-- Some lines, the first of which has this number, go wrong: they are right up to one that is wrong
in the role it is due in, or they end too early. -/
def GoesWrong (due : List Role) (first : Nat) (lines : List (List Char)) (e : LoadError) : Prop :=
  ∃ before after role due', lines = before ++ after ∧ Passes due before (role :: due') ∧
    Wrong role (first + before.length) after.head? e

/-- Where nothing is due, nothing goes wrong. -/
theorem not_goesWrong_nil {first : Nat} {lines : List (List Char)} {e : LoadError} :
    ¬ GoesWrong [] first lines e := by
  rintro ⟨before, after, role, due', -, passes, -⟩
  cases passes with
  | cons leads => cases leads

/-- Lines go wrong in their first, or it is right and they go wrong behind it. -/
theorem goesWrong_cons_iff {role : Role} {due : List Role} {first : Nat}
    {lines : List (List Char)} {e : LoadError} :
    GoesWrong (role :: due) first lines e ↔
      Wrong role first lines.head? e ∨
        ∃ line rest due', lines = line :: rest ∧ Leads (role :: due) line due' ∧
          GoesWrong due' (first + 1) rest e := by
  constructor
  · rintro ⟨before, after, role', due', rfl, passes, wrong⟩
    cases passes with
    | nil => exact Or.inl wrong
    | @cons _ next _ line others leads passes =>
        refine Or.inr ⟨line, others ++ after, next, rfl, leads, others, after, role', due', rfl,
          passes, ?_⟩
        rwa [List.length_cons, Nat.add_comm others.length, ← Nat.add_assoc] at wrong
  · rintro (wrong | ⟨line, rest, next, rfl, leads, before, after, role', due', rfl, passes, wrong⟩)
    · exact ⟨[], lines, role, due, rfl, .nil, wrong⟩
    · refine ⟨line :: before, after, role', due', rfl, .cons leads passes, ?_⟩
      rwa [List.length_cons, Nat.add_comm before.length, ← Nat.add_assoc]

/-! ## Readers of one line -/

theorem count_eq_error_iff {part : Section} {first : Nat} {lines : List (List Char)}
    {e : LoadError} :
    count part (number first lines) = .error e ↔ Wrong (.count part) first lines.head? e := by
  cases lines with
  | nil =>
      constructor
      · intro h
        cases h
        exact .missing
      · intro h
        cases h
        rfl
  | cons line lines =>
      rw [Text.number_cons, count, List.head?_cons]
      cases hsize : Decimal.size? (Text.trim line) with
      | some n =>
          constructor
          · intro h
            cases h
          · intro h
            cases h with
            | malformed wrong => exact absurd ⟨n, size?_trim_eq_some_iff.mp hsize⟩ wrong
      | none =>
          constructor
          · intro h
            cases h
            refine .malformed ?_ .count
            rintro ⟨n, hcount⟩
            rw [size?_trim_eq_some_iff.mpr hcount] at hsize
            cases hsize
          · intro h
            cases h with
            | malformed wrong complaint =>
                cases complaint
                rfl

/-- A reader of records accepts the lines that are right in that role, and complains about the others
in the words for it. -/
structure ReadsRecords {α : Type} (part : Section) (record : Line → Except LoadError α) : Prop where
  formed_iff : ∀ line, (∃ a, record line = .ok a) ↔ WellFormed (.record part) line.chars
  complaint : ∀ line e, record line = .error e →
    Complaint line.number line.chars (.record part) e

theorem ReadsRecords.eq_error_iff {α : Type} {part : Section} {record : Line → Except LoadError α}
    (h : ReadsRecords part record) {line : Line} {e : LoadError} :
    record line = .error e ↔ Wrong (.record part) line.number (some line.chars) e := by
  constructor
  · intro failed
    refine .malformed ?_ (h.complaint line e failed)
    intro formed
    obtain ⟨a, hread⟩ := (h.formed_iff line).mpr formed
    rw [failed] at hread
    cases hread
  · intro wrong
    cases wrong with
    | malformed wrong complaint =>
        cases hread : record line with
        | ok a => exact absurd ((h.formed_iff line).mp ⟨a, hread⟩) wrong
        | error e' => rw [(h.complaint line e' hread).unique complaint]

theorem isInteger_iff {digits : List Char} : IsInteger digits ↔ ∃ w, Decimal.word? digits = some w :=
  exists_congr fun _ => Decimal.word?_eq_some_iff.symm

theorem instruction_reads : ReadsRecords .code instruction where
  formed_iff line := exists_congr fun _ => instruction_eq_ok_iff
  complaint line e h := by
    unfold instruction at h
    split at h
    next hwords =>
      cases h
      refine .instruction fun word second => ?_
      obtain ⟨first, more, hsecond⟩ := Text.secondWord_iff.mp second
      rw [hwords] at hsecond
      cases hsecond
    next => cases h
    next first word more hwords =>
      have second : SecondWord word line.chars := Text.secondWord_iff.mpr ⟨first, more, hwords⟩
      split at h
      next hnone =>
        cases h
        refine .operand second fun integer => ?_
        obtain ⟨w, hw⟩ := isInteger_iff.mp integer
        rw [hnone] at hw
        cases hw
      next w hw =>
        split at h
        next => cases h
        next =>
          cases h
          refine .instruction fun word' second' => ?_
          obtain ⟨first', more', hsecond⟩ := Text.secondWord_iff.mp second'
          rw [hwords] at hsecond
          cases hsecond
          exact isInteger_iff.mpr ⟨w, hw⟩

theorem constant_reads : ReadsRecords .consts constant where
  formed_iff line := exists_congr fun _ => constant_eq_ok_iff
  complaint line e h := by
    simp only [constant] at h
    split at h
    next => cases h
    next =>
      cases h
      exact .constant (Text.trimmed_trim line.chars)

theorem name_reads : ReadsRecords .names name where
  formed_iff line := exists_congr fun _ => name_eq_ok_iff
  complaint line e h := by cases h

/-! ## Readers of many lines -/

/-- A reader of numbered lines complains where the lines that are due go wrong.  What may follow them
is not considered. -/
def Blames {β : Type} (due : List Role) (reader : List Line → Except LoadError β) : Prop :=
  ∀ first lines e, e ≠ .trailingData →
    (reader (number first lines) = .error e ↔ GoesWrong due first lines e)

section

variable {α β : Type} {part : Section} {record : Line → Except LoadError α} {due : List Role}

theorem records_cons_bind {n first : Nat} {line : List Char} {rest : List (List Char)}
    {next : List α → List Line → Except LoadError β} :
    (records part record (n + 1) (number first (line :: rest)) >>= fun x => next x.1 x.2) =
      (record ⟨first, line⟩ >>= fun a =>
        records part record n (number (first + 1) rest) >>= fun x => next (a :: x.1) x.2) := by
  rw [Text.number_cons, records]
  simp only [bind_assoc]
  rfl

theorem goesWrong_record_iff {first : Nat} {line : List Char} {rest : List (List Char)}
    {e : LoadError} :
    GoesWrong (.record part :: due) first (line :: rest) e ↔
      Wrong (.record part) first (some line) e ∨
        WellFormed (.record part) line ∧ GoesWrong due (first + 1) rest e := by
  rw [goesWrong_cons_iff, List.head?_cons]
  refine or_congr_right ⟨?_, ?_⟩
  · rintro ⟨_, _, _, heq, leads, wrong⟩
    cases heq
    cases leads with
    | record formed => exact ⟨formed, wrong⟩
  · rintro ⟨formed, wrong⟩
    exact ⟨line, rest, due, rfl, .record formed, wrong⟩

theorem ReadsRecords.records_blames (h : ReadsRecords part record) (n : Nat)
    {next : List α → List Line → Except LoadError β} (hnext : ∀ as, Blames due (next as)) :
    Blames (List.replicate n (.record part) ++ due)
      fun lines => records part record n lines >>= fun x => next x.1 x.2 := by
  induction n generalizing next with
  | zero => exact hnext []
  | succ n ih =>
      intro first lines e he
      rw [List.replicate_succ, List.cons_append]
      cases lines with
      | nil =>
          rw [goesWrong_cons_iff]
          constructor
          · intro failed
            cases failed
            exact Or.inl .missing
          · rintro (wrong | ⟨_, _, _, hnil, _⟩)
            · cases wrong
              rfl
            · cases hnil
      | cons line rest =>
          have others : ∀ a, Blames (List.replicate n (.record part) ++ due)
              fun lines => records part record n lines >>= fun x => next (a :: x.1) x.2 :=
            fun a => ih fun as => hnext (a :: as)
          dsimp only
          rw [records_cons_bind, bind_eq_error_iff, h.eq_error_iff, goesWrong_record_iff]
          refine or_congr_right ⟨?_, ?_⟩
          · rintro ⟨a, hread, failed⟩
            exact ⟨(h.formed_iff ⟨first, line⟩).mp ⟨a, hread⟩, (others a _ _ e he).mp failed⟩
          · rintro ⟨formed, wrong⟩
            obtain ⟨a, hread⟩ := (h.formed_iff ⟨first, line⟩).mpr formed
            exact ⟨a, hread, (others a _ _ e he).mpr wrong⟩

theorem ReadsRecords.table_blames (h : ReadsRecords part record)
    {next : List α → List Line → Except LoadError β} (hnext : ∀ as, Blames due (next as)) :
    Blames (.count part :: due)
      fun lines => table part record lines >>= fun x => next x.1 x.2 := by
  intro first lines e he
  rw [goesWrong_cons_iff]
  dsimp only
  rw [table, bind_assoc, bind_eq_error_iff, count_eq_error_iff]
  refine or_congr_right ⟨?_, ?_⟩
  · rintro ⟨⟨n, rest⟩, hcount, failed⟩
    cases lines with
    | nil => cases hcount
    | cons line lines =>
        obtain ⟨_, heq, counted⟩ := count_eq_ok_iff.mp hcount
        cases heq
        exact ⟨line, lines, _, rfl, .count counted, (h.records_blames n hnext _ _ e he).mp failed⟩
  · rintro ⟨line, rest, _, rfl, leads, wrong⟩
    cases leads with
    | @count _ _ _ n counted =>
        exact ⟨(n, number (first + 1) rest), count_eq_ok_iff.mpr ⟨⟨first, line⟩, rfl, counted⟩,
          (h.records_blames n hnext _ _ e he).mpr wrong⟩

end

/-- The lines that are due in a text before any is read. -/
def sections : List Role :=
  [.count .code, .count .consts, .count .names]

theorem ofLines_blames : Blames sections ofLines := by
  -- Behind the last name nothing is due, and all that can be said there is that data follows.
  have ending : ∀ code consts names, Blames [] fun lines : List Line =>
      if lines.all fun line => line.chars.all Text.isBlank then
        .ok (⟨List.toArray code, List.toArray consts, List.toArray names⟩ : Program)
      else .error .trailingData := by
    intro code consts names first lines e he
    refine ⟨fun failed => ?_, fun wrong => absurd wrong not_goesWrong_nil⟩
    dsimp only at failed
    split at failed
    next => cases failed
    next =>
      cases failed
      exact absurd rfl he
  have namesBlame := fun code consts => name_reads.table_blames (ending code consts)
  have constsBlame := fun code => constant_reads.table_blames (namesBlame code)
  exact instruction_reads.table_blames constsBlame

/-- The reader rejects a text where its lines go wrong, with what is to be said there.  The one other
thing that can be wrong with a text is that data follows its last name. -/
theorem read_eq_error_iff {text : String} {lines : List (List Char)} {e : LoadError}
    (hlines : Lines text.toList lines) (he : e ≠ .trailingData) :
    read (Utf8.encode text) = .error e ↔ GoesWrong sections 1 lines e := by
  rw [read_encode_of_lines hlines]
  exact ofLines_blames 1 lines e he

/-! ## The line that is blamed -/

/-- The line with a number is the first that is wrong in its role, and an error is the complaint about
it. -/
def Blamed (lines : List (List Char)) (number : Nat) (e : LoadError) : Prop :=
  ∃ before line after role due, lines = before ++ line :: after ∧ number = before.length + 1 ∧
    Passes sections before (role :: due) ∧ ¬ WellFormed role line ∧ Complaint number line role e

/-- Lines that go wrong with an error about a line go wrong at that line. -/
theorem GoesWrong.blamed {lines : List (List Char)} {number : Nat} {e : LoadError}
    (h : GoesWrong sections 1 lines e) (hnumber : e.line? = some number) :
    Blamed lines number e := by
  obtain ⟨before, after, role, due, rfl, passes, wrong⟩ := h
  rw [Nat.add_comm] at wrong
  cases after with
  | nil =>
      cases wrong
      cases hnumber
  | cons line after =>
      cases wrong with
      | malformed wrong complaint =>
          obtain rfl : before.length + 1 = number :=
            Option.some.inj (complaint.line?_eq.symm.trans hnumber)
          exact ⟨before, line, after, role, due, rfl, rfl, passes, wrong, complaint⟩

/-- What is blamed stays blamed, whatever the lines behind it. -/
theorem Blamed.goesWrong {lines others : List (List Char)} {number : Nat} {e : LoadError}
    (h : Blamed lines number e) (same : others.take number = lines.take number) :
    GoesWrong sections 1 others e := by
  obtain ⟨before, line, after, role, due, rfl, rfl, passes, wrong, complaint⟩ := h
  refine ⟨before, line :: others.drop (before.length + 1), role, due, ?_, passes, ?_⟩
  · calc others = others.take (before.length + 1) ++ others.drop (before.length + 1) :=
          (List.take_append_drop _ _).symm
      _ = before ++ [line] ++ others.drop (before.length + 1) := by
          rw [same, List.take_length_add_append, List.take_succ_cons, List.take_zero]
      _ = before ++ line :: others.drop (before.length + 1) := List.append_assoc ..
  · rw [Nat.add_comm]
    exact .malformed wrong complaint

/-- **An error about a line is about the first line that is wrong, and about nothing behind it.**
Bytes that are rejected with a line number are a text.  Each line before that number is right in the
role that the counts before it give it; the line itself is wrong in its role, and the error is the
complaint for that.  Every text with the same lines up to that number is rejected with the same
error. -/
theorem text_errors_located {bytes : List UInt8} {number : Nat} {e : LoadError}
    (h : read bytes = .error e) (hnumber : e.line? = some number) :
    ∃ text lines, Utf8.encode text = bytes ∧ Lines text.toList lines ∧ Blamed lines number e ∧
      ∀ (other : String) (lines' : List (List Char)), Lines other.toList lines' →
        lines'.take number = lines.take number → read (Utf8.encode other) = .error e := by
  have he : e ≠ .trailingData := by
    rintro rfl
    cases hnumber
  cases hdecode : Utf8.decode? bytes with
  | none =>
      simp only [read, hdecode] at h
      cases h
      cases hnumber
  | some text =>
      obtain rfl := Utf8.decode?_eq_some_iff.mp hdecode
      have hlines := Text.lines_splitLines text.toList
      have blamed := ((read_eq_error_iff hlines he).mp h).blamed hnumber
      refine ⟨text, _, rfl, hlines, blamed, ?_⟩
      intro other lines' hlines' same
      exact (read_eq_error_iff hlines' he).mpr (blamed.goesWrong same)

/-- The operand of the second line is no integer, and the third line would be no count. -/
def misspelled : String :=
  "1\nJUMP ten 0\nrubbish"

theorem text_errors_located_misspelled :
    read (Utf8.encode misspelled) = .error (.invalidInteger 2 "ten") ∧
      Blamed ["1".toList, "JUMP ten 0".toList, "rubbish".toList] 2 (.invalidInteger 2 "ten") ∧
      read (Utf8.encode "1\r\nJUMP ten 0") = .error (.invalidInteger 2 "ten") := by
  have h : read (Utf8.encode misspelled) = .error (.invalidInteger 2 "ten") := by
    rw [read, Utf8.decode?_encode]
    decide +kernel
  obtain ⟨text, lines, hbytes, hlines, blamed, others⟩ := text_errors_located h rfl
  obtain rfl := Utf8.eq_of_encode_eq hbytes
  obtain rfl : lines = ["1".toList, "JUMP ten 0".toList, "rubbish".toList] := by
    rw [← hlines.splitLines_eq]
    decide +kernel
  refine ⟨h, blamed, others _ _ (Text.lines_splitLines _) ?_⟩
  decide +kernel

end TextFormat

end StackMachine
