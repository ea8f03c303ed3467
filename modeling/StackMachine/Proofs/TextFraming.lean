import StackMachine.Proofs.TextErrors

/-!
# Texts say where they end

The counts of a text say how many lines it needs.  A text that has fewer is truncated, in the section
whose line is missing first; blanks may follow the last line, and nothing else.  So a blank line is a
record where one is due and padding where none is.

A cut leaves the lines before it as they are, except that a line may lose a carriage return to the
line end that is written behind it.  No line that is right in its role turns wrong by that, for its
role does not depend on the blanks around it (`Passes.of_trim_eq`).
-/

namespace StackMachine

namespace Utf8

/-! ## The last byte -/

/-- Bytes that end with a line feed are the encoding of a text that does. -/
theorem getLast?_toList_of_encode {s : String} (h : (encode s).getLast? = some 10) :
    s.toList.getLast? = some '\n' := by
  rw [← String.ofList_toList (s := s), encode_ofList] at h
  rcases List.eq_nil_or_concat' s.toList with hnil | ⟨front, c, hs⟩
  · rw [hnil] at h
    cases h
  · rw [hs, List.flatMap_append, List.flatMap_singleton, List.getLast?_append] at h
    cases hlast : (String.utf8EncodeChar c).getLast? with
    | none => exact absurd (List.getLast?_eq_none_iff.mp hlast) (by simp)
    | some b =>
        rw [hlast] at h
        obtain rfl : b = 10 := Option.some.inj h
        obtain rfl := eq_feed_of_mem (List.mem_of_getLast? hlast)
        rw [hs, List.getLast?_concat]

end Utf8

namespace Text

/-! ## Lines with their ends -/

/-- A text of some lines, each with an end of its own. -/
inductive Ended : List (List Char) → List Char → Prop where
  | nil : Ended [] []
  | feed {l rest : List Char} {ls : List (List Char)} (others : Ended ls rest) :
      Ended (l :: ls) (l ++ '\n' :: rest)
  | returnFeed {l rest : List Char} {ls : List (List Char)} (others : Ended ls rest) :
      Ended (l :: ls) (l ++ '\r' :: '\n' :: rest)

theorem ended_unlines (ls : List (List Char)) : Ended ls (unlines ls) := by
  induction ls with
  | nil => exact .nil
  | cons l ls ih =>
      rw [unlines_cons]
      exact .feed ih

theorem trim_append_blank {b : Char} (hb : isBlank b = true) (line : List Char) :
    trim (line ++ [b]) = trim line := by
  obtain ⟨⟨before, after, hbefore, hafter, hline⟩, front, back⟩ := trimmed_trim line
  refine Trimmed.trim_eq ⟨⟨before, after ++ [b], hbefore, ?_, ?_⟩, front, back⟩
  · exact List.forall_mem_append.mpr ⟨hafter, List.forall_mem_singleton.mpr hb⟩
  · rw [← List.append_assoc, ← hline]

/-- Lines that are put together with their ends are found again, but for blanks at their ends. -/
theorem Ended.lines {text : List Char} {ls : List (List Char)} (h : Ended ls text)
    (unbroken : ∀ l ∈ ls, '\n' ∉ l) :
    ∃ found, Lines text found ∧ List.Forall₂ (fun l l' => trim l = trim l') ls found := by
  induction h with
  | nil => exact ⟨[], .none, .nil⟩
  | @feed l rest ls others ih =>
      obtain ⟨hl, hls⟩ := List.forall_mem_cons.mp unbroken
      obtain ⟨found, lines, same⟩ := ih hls
      by_cases hreturn : l.getLast? = some '\r'
      · -- The carriage return that ends the line becomes part of the line end.
        obtain ⟨l, rfl⟩ := List.getLast?_eq_some_iff.mp hreturn
        refine ⟨l :: found, ?_, .cons (trim_append_blank (by decide) l) same⟩
        rw [List.append_assoc]
        exact .returnFeed (fun hmem => hl (List.mem_append_left _ hmem)) lines
      · exact ⟨l :: found, .feed hl hreturn lines, .cons rfl same⟩
  | @returnFeed l rest ls others ih =>
      obtain ⟨hl, hls⟩ := List.forall_mem_cons.mp unbroken
      obtain ⟨found, lines, same⟩ := ih hls
      exact ⟨l :: found, .returnFeed hl lines, .cons rfl same⟩

/-- What follows a text that ends with a line feed are lines of their own. -/
theorem Lines.append {text more : List Char} {ls ms : List (List Char)} (h : Lines text ls)
    (closed : ∀ c ∈ text.getLast?, c = '\n') (hmore : Lines more ms) :
    Lines (text ++ more) (ls ++ ms) := by
  have closed_rest {l rest : List Char} (hc : ∀ c ∈ (l ++ '\n' :: rest).getLast?, c = '\n') :
      ∀ c ∈ rest.getLast?, c = '\n' := by
    intro c hmem
    apply hc
    rw [List.getLast?_append, List.getLast?_cons, Option.mem_def.mp hmem]
    rfl
  induction h with
  | none => exact hmore
  | @unended l nonempty unbroken =>
      have hlast := List.getLast?_eq_some_getLast nonempty
      have hfeed := closed _ hlast
      exact absurd (hfeed ▸ List.getLast_mem nonempty) unbroken
  | @feed l rest ls unbroken plain others ih =>
      rw [List.append_assoc]
      exact .feed unbroken plain (ih (closed_rest closed))
  | @returnFeed l rest ls unbroken others ih =>
      rw [List.append_assoc]
      refine .returnFeed unbroken (ih (closed_rest (l := l ++ ['\r']) ?_))
      rwa [List.append_assoc]

/-- A text is blank exactly if all its lines are. -/
theorem Lines.blank_iff {text : List Char} {ls : List (List Char)} (h : Lines text ls) :
    (∀ l ∈ ls, Blank l) ↔ Blank text := by
  have hfeed : isBlank '\n' = true := by decide
  have hreturn : isBlank '\r' = true := by decide
  induction h with
  | none => simp [Blank]
  | unended => simp
  | feed _ _ _ ih =>
      refine List.forall_mem_cons.trans ((and_congr_right' ih).trans ?_)
      simp only [Blank, List.forall_mem_append, List.forall_mem_cons, hfeed, true_and]
  | returnFeed _ _ ih =>
      refine List.forall_mem_cons.trans ((and_congr_right' ih).trans ?_)
      simp only [Blank, List.forall_mem_append, List.forall_mem_cons, hfeed, hreturn, true_and]

/-- Two lines that are the same but for blanks at their ends hold the same. -/
theorem Trimmed.of_trim_eq {content line line' : List Char} (h : Trimmed content line)
    (same : trim line = trim line') : Trimmed content line' :=
  trim_eq_iff.mp (same ▸ h.trim_eq)

end Text

namespace TextFormat

open Text (Line Lines Ended Blank Solid Trimmed trim)

/-! ## Blanks at the ends of lines -/

theorem CountLine.of_trim_eq {line line' : List Char} {n : Nat} (h : CountLine line n)
    (same : trim line = trim line') : CountLine line' n :=
  size?_trim_eq_some_iff.mp (same ▸ size?_trim_eq_some_iff.mpr h)

theorem InstructionLine.of_trim_eq {line line' : List Char} {i : Instruction}
    (h : InstructionLine line i) (same : trim line = trim line') : InstructionLine line' i := by
  cases h with
  | bare solid name padded =>
      exact .bare solid name ((solid.trimmed padded).of_trim_eq same).padded
  | @applied word gap digits _ _ solid name apart blank literal padded =>
      have trimmed : Trimmed (word ++ gap ++ digits) line := by
        refine ⟨padded, ?_, ?_⟩
        · intro c hc
          rw [List.append_assoc, List.head?_append_of_ne_nil _ solid.nonempty] at hc
          exact solid.no_blank c (List.mem_of_mem_head? hc)
        · intro c hc
          rw [List.getLast?_append_of_ne_nil _ literal.solid.nonempty] at hc
          exact literal.solid.no_blank c (List.mem_of_mem_getLast? hc)
      exact .applied solid name apart blank literal (trimmed.of_trim_eq same).padded

theorem WellFormed.of_trim_eq {role : Role} {line line' : List Char} (h : WellFormed role line)
    (same : trim line = trim line') : WellFormed role line' := by
  rcases role with part | (_ | _ | _ | _)
  · obtain ⟨n, counted⟩ := h
    exact ⟨n, counted.of_trim_eq same⟩
  · exact h
  · obtain ⟨i, formed⟩ := h
    exact ⟨i, formed.of_trim_eq same⟩
  · obtain ⟨w, digits, padded, literal⟩ := h
    exact ⟨w, digits, ((literal.solid.trimmed padded).of_trim_eq same).padded, literal⟩
  · exact ⟨String.ofList line', String.toList_ofList⟩

/-- Lines that are right in their roles stay so whatever blanks are at their ends. -/
theorem Passes.of_trim_eq {due due' : List Role} {lines lines' : List (List Char)}
    (h : Passes due lines due')
    (same : List.Forall₂ (fun line line' => trim line = trim line') lines lines') :
    Passes due lines' due' := by
  induction h generalizing lines' with
  | nil =>
      cases same
      exact .nil
  | cons first _ ih =>
      cases same with
      | cons hline others =>
          cases first with
          | count counted => exact .cons (.count (counted.of_trim_eq hline)) (ih others)
          | record formed => exact .cons (.record (formed.of_trim_eq hline)) (ih others)

/-! ## Cuts -/

theorem Passes.append {due due' due'' : List Role} {before after : List (List Char)}
    (h : Passes due before due') (h' : Passes due' after due'') :
    Passes due (before ++ after) due'' := by
  induction h with
  | nil => exact h'
  | cons first _ ih => exact .cons first (ih h')

theorem passes_records {part : Section} {lines : List (List Char)} {due : List Role}
    (formed : ∀ line ∈ lines, WellFormed (.record part) line) :
    Passes (List.replicate lines.length (.record part) ++ due) lines due := by
  induction lines with
  | nil => exact .nil
  | cons line lines ih =>
      obtain ⟨hline, hlines⟩ := List.forall_mem_cons.mp formed
      exact .cons (.record hline) (ih hlines)

section

variable {α : Type} {part : Section} {R : List Char → α → Prop} {lines : List (List Char)}
  {as : List α}

theorem TableLines.length_eq (h : TableLines R lines as) : lines.length = as.length + 1 := by
  cases h with
  | intro _ recorded => rw [List.length_cons, recorded.length_eq]

variable (hR : ∀ line a, R line a → WellFormed (.record part) line)

include hR in
theorem wellFormed_of_forall₂ (h : List.Forall₂ R lines as) :
    ∀ line ∈ lines, WellFormed (.record part) line := by
  induction h with
  | nil => nofun
  | cons first _ ih => exact List.forall_mem_cons.mpr ⟨hR _ _ first, ih⟩

include hR in
theorem TableLines.passes (h : TableLines R lines as) (due : List Role) :
    Passes (.count part :: due) lines due := by
  cases h with
  | intro counted recorded =>
      refine .cons (.count counted) ?_
      rw [← recorded.length_eq]
      exact passes_records (wellFormed_of_forall₂ hR recorded)

include hR in
/-- Where a table is cut short, a line of its section is due. -/
theorem TableLines.passes_take (h : TableLines R lines as) (due : List Role) {j : Nat}
    (hj : j ≤ as.length) :
    ∃ role due', role.part = part ∧
      Passes (.count part :: due) (lines.take j) (role :: due') := by
  cases h with
  | @intro count body _ counted recorded =>
      cases j with
      | zero => exact ⟨.count part, due, rfl, .nil⟩
      | succ j =>
          have formed : ∀ line ∈ body.take j, WellFormed (.record part) line := fun line hline =>
            wellFormed_of_forall₂ hR recorded line (List.mem_of_mem_take hline)
          have hlength : (body.take j).length = j := by
            rw [List.length_take, recorded.length_eq]
            omega
          refine ⟨.record part, List.replicate (as.length - (j + 1)) (.record part) ++ due, rfl, ?_⟩
          have hdue : List.replicate as.length (Role.record part) ++ due =
              List.replicate (body.take j).length (.record part) ++
                (.record part :: (List.replicate (as.length - (j + 1)) (.record part) ++ due)) := by
            rw [hlength, ← List.cons_append, ← List.replicate_succ, ← List.append_assoc,
              List.replicate_append_replicate]
            congr 2
            omega
          refine .cons (.count counted) ?_
          rw [hdue]
          exact passes_records formed

end

/-- How many lines the counts of a program ask for: three counts and the records. -/
def lineCount (p : Program) : Nat :=
  3 + p.code.size + p.consts.size + p.names.size

/-- The section of the first line that is missing where only `j` lines are there. -/
def cutSection (p : Program) (j : Nat) : Section :=
  if j ≤ p.code.size then .code
  else if j ≤ p.code.size + 1 + p.consts.size then .consts
  else .names

theorem ContainerLines.lengths {code consts names tail : List (List Char)} {p : Program}
    (h : ContainerLines code consts names tail p) :
    code.length = p.code.size + 1 ∧ consts.length = p.consts.size + 1 ∧
      names.length = p.names.size + 1 :=
  ⟨h.code.length_eq, h.consts.length_eq, h.names.length_eq⟩

/-- Where the lines of a container are cut, a line of the section is due that the cut falls into. -/
theorem ContainerLines.passes_take {code consts names tail : List (List Char)} {p : Program}
    (h : ContainerLines code consts names tail p) {j : Nat} (hj : j < lineCount p) :
    ∃ role due, role.part = cutSection p j ∧
      Passes sections ((code ++ consts ++ names ++ tail).take j) (role :: due) := by
  obtain ⟨hcode, hconsts, hnames⟩ := h.lengths
  have formedCode : ∀ line i, InstructionLine line i → WellFormed (.record .code) line :=
    fun _ i formed => ⟨i, formed⟩
  have formedConst : ∀ line w, ConstantLine line w → WellFormed (.record .consts) line :=
    fun _ w formed => ⟨w, formed⟩
  have formedName : ∀ line s, NameLine line s → WellFormed (.record .names) line :=
    fun _ s formed => ⟨s, formed⟩
  have codePasses := h.code.passes formedCode [.count .consts, .count .names]
  have constsPass := h.consts.passes formedConst [.count .names]
  rw [lineCount] at hj
  rw [cutSection, List.append_assoc, List.append_assoc]
  -- One table after the other is passed until the cut is inside the next one.
  split
  next inCode =>
    rw [List.take_append_of_le_length (by omega)]
    exact h.code.passes_take formedCode _ inCode
  next afterCode =>
    rw [List.take_append, List.take_of_length_le (by omega)]
    split
    next inConsts =>
      have hcut : j - code.length ≤ p.consts.size := by omega
      obtain ⟨role, due, hpart, passes⟩ := h.consts.passes_take formedConst [.count .names] hcut
      rw [List.take_append_of_le_length (by omega)]
      exact ⟨role, due, hpart, codePasses.append passes⟩
    next afterConsts =>
      have hcut : j - code.length - consts.length ≤ p.names.size := by omega
      obtain ⟨role, due, hpart, passes⟩ := h.names.passes_take formedName [] hcut
      rw [List.take_append, List.take_of_length_le (by omega),
        List.take_append_of_le_length (by omega)]
      exact ⟨role, due, hpart, codePasses.append (constsPass.append passes)⟩

section

variable {code consts names tail : List (List Char)} {p : Program} {text : String}

/-- The first lines of a container, with whatever line ends, are a text that is truncated. -/
theorem ContainerLines.read_cut (h : ContainerLines code consts names tail p)
    (hlines : Lines text.toList (code ++ consts ++ names ++ tail)) {j : Nat} (hj : j < lineCount p)
    {cut : String} (ended : Ended ((code ++ consts ++ names ++ tail).take j) cut.toList) :
    read (Utf8.encode cut) = .error (.truncated (cutSection p j)) := by
  obtain ⟨role, due, hpart, passes⟩ := h.passes_take hj
  obtain ⟨found, hfound, same⟩ := ended.lines fun l hl =>
    hlines.unbroken l (List.mem_of_mem_take hl)
  have he : LoadError.truncated (cutSection p j) ≠ .trailingData := nofun
  apply (read_eq_error_iff hfound he).mpr
  refine ⟨found, [], role, due, (List.append_nil found).symm, passes.of_trim_eq same, ?_⟩
  rw [← hpart]
  exact .missing

/-! ## Continuations -/

/-- What follows a container whose last line is ended is padding or too much. -/
theorem ContainerLines.read_append (h : ContainerLines code consts names tail p)
    (hlines : Lines text.toList (code ++ consts ++ names ++ tail))
    (closed : text.toList.getLast? = some '\n') (more : String) :
    (Blank more.toList → read (Utf8.encode (text ++ more)) = .ok p) ∧
      (¬ Blank more.toList → read (Utf8.encode (text ++ more)) = .error .trailingData) := by
  have hmore := Text.lines_splitLines more.toList
  have hboth := hlines.append (by simp [closed]) hmore
  rw [← String.toList_append, List.append_assoc] at hboth
  have htail : (∀ line ∈ tail ++ Text.splitLines more.toList, Blank line) ↔ Blank more.toList := by
    rw [List.forall_mem_append, hmore.blank_iff]
    exact and_iff_right h.tail
  rw [read_encode, ofLines_of_tables ((map_chars_lines _).trans hboth.splitLines_eq) h.code h.consts
    h.names]
  constructor
  · intro blank
    rw [if_pos (all_blank_iff.mpr (htail.mpr blank))]
  · intro solid
    rw [if_neg fun hall => solid (htail.mp (all_blank_iff.mp hall))]

theorem ContainerLines.lineCount_le (h : ContainerLines code consts names tail p) :
    lineCount p ≤ (code ++ consts ++ names ++ tail).length := by
  obtain ⟨hcode, hconsts, hnames⟩ := h.lengths
  simp only [List.length_append, lineCount]
  omega

end

/-- **The counts of a text say where it ends.**  A text that can be read has the lines its counts ask
for.  Any fewer of its first lines, each with a line end, are refused as truncated, in the section of
the first line that is missing.  If it ends with a line feed, then whatever blanks follow, it is the
same program; if anything else follows, it is refused for that. -/
theorem text_framed_by_counts {bytes : List UInt8} {p : Program} (h : read bytes = .ok p) :
    ∃ text lines, Utf8.encode text = bytes ∧ Lines text.toList lines ∧
      lineCount p ≤ lines.length ∧
      (∀ j < lineCount p, ∀ cut : String, Ended (lines.take j) cut.toList →
        read (Utf8.encode cut) = .error (.truncated (cutSection p j))) ∧
      (bytes.getLast? = some 10 → ∀ more : String,
        (Blank more.toList → read (bytes ++ Utf8.encode more) = .ok p) ∧
          (¬ Blank more.toList → read (bytes ++ Utf8.encode more) = .error .trailingData)) := by
  obtain ⟨text, rfl, code, consts, names, tail, hlines, container⟩ := read_eq_ok_iff.mp h
  refine ⟨text, _, rfl, hlines, container.lineCount_le, ?_, ?_⟩
  · intro j hj cut ended
    exact container.read_cut hlines hj ended
  · intro closed more
    rw [← Utf8.encode_append]
    exact container.read_append hlines (Utf8.getLast?_toList_of_encode closed) more

/-- Its only name is an empty line, and a line with a blank follows. -/
def emptyName : String :=
  "1\nHALT\r\n1\n 7\r\r\n1\n\n \n"

/-- Cut behind its fifth line it lacks its name, although blank lines could be padding; cut behind the
constant, of which a carriage return is left, it lacks the count of names. -/
theorem text_framed_by_counts_emptyName :
    read (Utf8.encode emptyName) = .ok ⟨#[⟨.known .halt, 0⟩], #[7], #[""]⟩ ∧
      read (Utf8.encode "1\n") = .error (.truncated .code) ∧
      read (Utf8.encode "1\nHALT\n1\n 7\r\n") = .error (.truncated .names) ∧
      read (Utf8.encode "1\nHALT\r\n1\n 7\r\r\n1\n") = .error (.truncated .names) ∧
      read (Utf8.encode emptyName ++ Utf8.encode "\r\t") =
        .ok ⟨#[⟨.known .halt, 0⟩], #[7], #[""]⟩ ∧
      read (Utf8.encode emptyName ++ Utf8.encode "\n0") = .error .trailingData := by
  have h : read (Utf8.encode emptyName) = .ok ⟨#[⟨.known .halt, 0⟩], #[7], #[""]⟩ := by
    rw [read, Utf8.decode?_encode]
    decide +kernel
  obtain ⟨text, lines, hbytes, hlines, -, cuts, continuations⟩ := text_framed_by_counts h
  obtain rfl := Utf8.eq_of_encode_eq hbytes
  obtain rfl : lines = ["1".toList, "HALT".toList, "1".toList, " 7\r".toList, "1".toList, [],
      " ".toList] := by
    rw [← hlines.splitLines_eq]
    decide +kernel
  have closed : (Utf8.encode emptyName).getLast? = some 10 := by decide +kernel
  refine ⟨h, ?_, ?_, ?_, ?_, ?_⟩
  · exact cuts 1 (by decide) _ (Text.ended_unlines _)
  · exact cuts 4 (by decide) _ (Text.ended_unlines _)
  · refine cuts 5 (by decide) _ ?_
    exact .feed (.returnFeed (.feed (.returnFeed (.feed .nil))))
  · exact (continuations closed "\r\t").1 (by decide)
  · exact (continuations closed "\n0").2 (by decide)

end TextFormat

end StackMachine
