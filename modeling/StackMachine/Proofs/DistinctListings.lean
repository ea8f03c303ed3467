import StackMachine.Program
import StackMachine.Proofs.TextGrammar

/-!
# Different programs have different listings

A listing is meant for people, with columns that a long field pushes aside and operands that are left
out.  Nevertheless nothing is lost in it.  Its lines can be told apart, for none of them holds a line
feed; a heading says how many rows follow it; and what a row shows behind its position is a line of
the text format, from which the reader of that format gets the record back.
-/

namespace StackMachine

/-! ## Lines and sizes in a text -/

theorem Text.splitOn_unlines {ls : List (List Char)} (h : ∀ l ∈ ls, '\n' ∉ l) :
    (unlines ls).splitOn '\n' = ls ++ [[]] := by
  induction ls with
  | nil => rfl
  | cons l ls ih =>
      obtain ⟨hl, hls⟩ := List.forall_mem_cons.mp h
      rw [unlines_cons, splitOn_cons_line hl, ih hls]
      rfl

/-- A text determines its lines, also those that end with a carriage return. -/
theorem Text.eq_of_unlines_eq {ls ms : List (List Char)} (hls : ∀ l ∈ ls, '\n' ∉ l)
    (hms : ∀ m ∈ ms, '\n' ∉ m) (h : unlines ls = unlines ms) : ls = ms := by
  have hsplit := congrArg (List.splitOn '\n') h
  rw [splitOn_unlines hls, splitOn_unlines hms] at hsplit
  exact List.append_cancel_right hsplit

theorem Decimal.eq_of_toList_ofNat_eq {m n : Nat} (h : (ofNat m).toList = (ofNat n).toList) :
    m = n := by
  rw [ofNat, ofNat, String.toList_ofList, String.toList_ofList] at h
  have hread := nat?_toDigits m
  rw [h, nat?_toDigits] at hread
  exact (Option.some.inj hread).symm

/-! ## What a row shows -/

namespace TextFormat

/-- In whatever column its operand stands, an instruction is shown as the text format has it. -/
theorem instructionLine_render {i : Instruction} (h : Readable i.mnemonic) :
    InstructionLine i.render.toList i := by
  obtain ⟨mnemonic, operand⟩ := i
  obtain ⟨nonempty, no_blank⟩ := h.word
  have solid : Text.Solid mnemonic.text.toList := ⟨nonempty, no_blank⟩
  have name : StandsFor mnemonic.text.toList mnemonic := by
    apply ofText_eq_iff.mp
    rw [String.ofList_toList, h.ofText_text]
  unfold Instruction.render
  cases shown : Instruction.hasOperand ⟨mnemonic, operand⟩ with
  | true =>
      -- The gap is the filling of the column and one more space, so there always is one.
      have blank : Text.Blank (List.replicate (20 - mnemonic.text.length) ' ' ++ [' ']) := by
        intro c hc
        rcases List.mem_append.mp hc with hc | hc
        · rw [List.eq_of_mem_replicate hc]
          decide
        · rw [List.mem_singleton.mp hc]
          decide
      have literal := Decimal.word?_eq_some_iff.mp (Decimal.word?_ofWord operand)
      refine .applied solid name (by simp) blank literal ⟨[], [], nofun, nofun, ?_⟩
      simp [Text.padRight]
  | false =>
      obtain rfl : operand = 0 := operand_eq_zero_of_not_hasOperand shown
      exact .bare solid name ⟨[], [], nofun, nofun, by simp⟩

theorem no_feed_render {i : Instruction} (h : Readable i.mnemonic) : '\n' ∉ i.render.toList := by
  have hmnemonic : '\n' ∉ i.mnemonic.text.toList := (Text.unbroken_of_no_blank h.word.2).1
  unfold Instruction.render
  split
  next => simp [Text.padRight, hmnemonic, (Decimal.unbroken_ofWord i.operand).1]
  next => exact hmnemonic

/-- Records are determined by their texts if a reader gets them back from these. -/
theorem eq_of_map_text_eq {α : Type} {record : Text.Line → Except LoadError α} {text : α → String}
    {as bs : List α} (has : ∀ a ∈ as, ∀ n, record ⟨n, (text a).toList⟩ = .ok a)
    (hbs : ∀ b ∈ bs, ∀ n, record ⟨n, (text b).toList⟩ = .ok b)
    (h : as.map text = bs.map text) : as = bs := by
  have hlength : as.length = bs.length := by simpa using congrArg List.length h
  have readAs := @records_number _ _ .code _ _ id _ has 1 []
  have readBs := @records_number _ _ .code _ _ id _ hbs 1 []
  rw [h, hlength, readBs, List.map_id, List.map_id] at readAs
  exact (congrArg Prod.fst (Except.ok.inj readAs)).symm

end TextFormat

namespace Program

open TextFormat (Readable)

/-! ## The lines of a listing -/

/-- The line above a table. -/
def headingLine (heading : String) (size : Nat) : List Char :=
  heading.toList ++ (" (".toList ++ ((Decimal.ofNat size).toList ++ "):".toList))

/-- The line of an entry. -/
def row (position : Nat) (entry : String) : List Char :=
  (Text.padLeft 4 (Decimal.ofNat position)).toList ++ (": ".toList ++ entry.toList)

/-- The lines of some entries, the first of which has a given position. -/
def rows (first : Nat) (entries : List String) : List (List Char) :=
  (entries.zipIdx first).map fun (entry, i) => row i entry

/-- The lines of a table. -/
def tableRows (heading : String) (entries : List String) : List (List Char) :=
  headingLine heading entries.length :: rows 0 entries

/-- The lines of a listing. -/
def listingLines (p : Program) : List (List Char) :=
  tableRows "code" (p.code.toList.map Instruction.render) ++
    (tableRows "consts" (p.consts.toList.map Decimal.ofWord) ++ tableRows "names" p.names.toList)

theorem toList_listTable (heading : String) (entries : List String) :
    (listTable heading entries).toList = Text.unlines (tableRows heading entries) := by
  simp [listTable, tableRows, headingLine, rows, row, Text.unlines, String.toList_join,
    List.flatMap_map]

theorem toList_listing (p : Program) : p.listing.toList = Text.unlines p.listingLines := by
  simp [listing, listingLines, toList_listTable, Text.unlines]

/-! ## Tables can be told apart -/

theorem size_eq_of_headingLine_eq {heading : String} {m n : Nat}
    (h : headingLine heading m = headingLine heading n) : m = n := by
  have hbehind := List.append_cancel_left (List.append_cancel_left h)
  exact Decimal.eq_of_toList_ofNat_eq (List.append_cancel_right hbehind)

theorem entry_eq_of_row_eq {position : Nat} {a b : String} (h : row position a = row position b) :
    a = b :=
  String.toList_inj.mp (List.append_cancel_left (List.append_cancel_left h))

/-- Rows at the same positions have the same entries, however wide the positions are. -/
theorem eq_of_rows_eq {first : Nat} {as bs : List String} (h : rows first as = rows first bs) :
    as = bs := by
  induction as generalizing first bs with
  | nil =>
      cases bs with
      | nil => rfl
      | cons => cases h
  | cons a as ih =>
      cases bs with
      | nil => cases h
      | cons b bs =>
          obtain ⟨hrow, hrows⟩ := List.cons.inj h
          rw [entry_eq_of_row_eq hrow, ih hrows]

/-- A table at the beginning of some lines says where it ends. -/
theorem tableRows_append_inj {heading : String} {as bs : List String} {rest rest' : List (List Char)}
    (h : tableRows heading as ++ rest = tableRows heading bs ++ rest') : as = bs ∧ rest = rest' := by
  obtain ⟨hheading, hbelow⟩ := List.cons.inj h
  have hsize : as.length = bs.length := size_eq_of_headingLine_eq hheading
  have hlength : (rows 0 as).length = (rows 0 bs).length := by simpa [rows] using hsize
  obtain ⟨hrows, hrest⟩ := List.append_inj hbelow hlength
  exact ⟨eq_of_rows_eq hrows, hrest⟩

/-- The lines of a table hold no line feed, if its heading and its entries hold none. -/
theorem no_feed_tableRows {heading : String} {entries : List String}
    (hheading : '\n' ∉ heading.toList) (hentries : ∀ entry ∈ entries, '\n' ∉ entry.toList) :
    ∀ l ∈ tableRows heading entries, '\n' ∉ l := by
  have hnumber := fun n => (Decimal.unbroken_ofNat n).1
  refine List.forall_mem_cons.mpr ⟨?_, fun l hl => ?_⟩
  · simp [headingLine, hheading, hnumber]
  · obtain ⟨⟨entry, i⟩, hmem, rfl⟩ := List.mem_map.mp hl
    simp [row, Text.padLeft, hnumber, hentries entry (List.fst_mem_of_mem_zipIdx hmem)]

/-! ## Listings -/

/-- A program whose listing can be understood: mnemonics are words and not confused with an opcode,
and names stay on their rows. -/
structure Listable (p : Program) : Prop where
  mnemonics : ∀ i ∈ p.code, Readable i.mnemonic
  names : ∀ name ∈ p.names, '\n' ∉ name.toList

theorem Listable.no_feed {p : Program} (h : Listable p) : ∀ l ∈ p.listingLines, '\n' ∉ l := by
  refine List.forall_mem_append.mpr ⟨?_, List.forall_mem_append.mpr ⟨?_, ?_⟩⟩
  · refine no_feed_tableRows (by decide) (List.forall_mem_map.mpr fun i hi => ?_)
    exact TextFormat.no_feed_render (h.mnemonics i (Array.mem_toList_iff.mp hi))
  · refine no_feed_tableRows (by decide) (List.forall_mem_map.mpr fun w _ => ?_)
    exact (Decimal.unbroken_ofWord w).1
  · refine no_feed_tableRows (by decide) fun name hname => ?_
    exact h.names name (Array.mem_toList_iff.mp hname)

theorem Listable.instruction_render {p : Program} (h : Listable p) :
    ∀ i ∈ p.code.toList, ∀ n, TextFormat.instruction ⟨n, i.render.toList⟩ = .ok i := by
  intro i hi n
  apply TextFormat.instruction_eq_ok_iff.mpr
  exact TextFormat.instructionLine_render (h.mnemonics i (Array.mem_toList_iff.mp hi))

/-- **A listing determines its program**, if every mnemonic that is not known is a word that no opcode
goes by, and no name holds a line feed.  It does so for tables of any size and mnemonics of any
length, with operands shown or left out, and for names with whatever other characters. -/
theorem listing_determines_program {p q : Program} (hp : Listable p) (hq : Listable q) :
    p.listing = q.listing ↔ p = q := by
  constructor
  · intro h
    have hlines : p.listingLines = q.listingLines := by
      apply Text.eq_of_unlines_eq hp.no_feed hq.no_feed
      rw [← toList_listing, ← toList_listing, h]
    -- The tables come off one after the other, then each is read back.
    obtain ⟨hcode, hbelow⟩ := tableRows_append_inj hlines
    obtain ⟨hconsts, hlast⟩ := tableRows_append_inj hbelow
    have code := TextFormat.eq_of_map_text_eq hp.instruction_render hq.instruction_render hcode
    have consts := TextFormat.eq_of_map_text_eq (fun w _ => TextFormat.constant_ofWord w)
      (fun w _ => TextFormat.constant_ofWord w) hconsts
    have names := (tableRows_append_inj (congrArg (· ++ []) hlast)).1
    obtain ⟨_, _, _⟩ := p
    obtain ⟨_, _, _⟩ := q
    exact (Program.mk.injEq ..).mpr
      ⟨Array.toList_inj.mp code, Array.toList_inj.mp consts, Array.toList_inj.mp names⟩
  · rintro rfl
    rfl

/-- A mnemonic wider than its column, another that looks like a heading, and a carriage return at the
end of the first name. -/
def returnBehind : Program where
  code := #[⟨.unknown "WIDER_THAN_ITS_OWN_COLUMN", 0⟩, ⟨.unknown "consts(1):", -7⟩]
  consts := #[]
  names := #["x\r", "names (0):"]

/-- The same, but for the carriage return, with which the second name begins. -/
def returnAhead : Program :=
  { returnBehind with names := #["x", "\rnames (0):"] }

theorem listing_determines_program_returns :
    Listable returnBehind ∧ Listable returnAhead ∧ returnBehind.listing ≠ returnAhead.listing := by
  have behind : Listable returnBehind := ⟨by decide, by decide⟩
  have ahead : Listable returnAhead := ⟨by decide, by decide⟩
  have different : returnBehind ≠ returnAhead := by decide
  exact ⟨behind, ahead, fun h => different ((listing_determines_program behind ahead).mp h)⟩

end Program

end StackMachine
