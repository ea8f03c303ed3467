import StackMachine.Proofs.TextGrammar

/-!
# Line ends

Some systems end a line with a line feed, others with a carriage return and a line feed.  The reader
takes both, so a text may have its line ends exchanged without any effect: it has the same lines under
the same numbers (`Lines.withReturns`), and these are all that the reader sees.  No carriage return of
a line end gets into a name or into what a complaint quotes.
-/

namespace StackMachine

namespace Text

/-- A text, or its bytes, with a carriage return in front of every line feed. -/
def withReturns {α : Type} [DecidableEq α] (carriageReturn lineFeed : α) (text : List α) : List α :=
  text.flatMap fun c => if c = lineFeed then [carriageReturn, lineFeed] else [c]

section

variable {α : Type} [DecidableEq α] {carriageReturn lineFeed : α}

theorem withReturns_append (front rest : List α) :
    withReturns carriageReturn lineFeed (front ++ rest) =
      withReturns carriageReturn lineFeed front ++ withReturns carriageReturn lineFeed rest :=
  List.flatMap_append

theorem withReturns_feed_cons (rest : List α) :
    withReturns carriageReturn lineFeed (lineFeed :: rest) =
      carriageReturn :: lineFeed :: withReturns carriageReturn lineFeed rest := by
  simp [withReturns]

/-- Where no line ends there is nothing to add. -/
theorem withReturns_of_no_feed {text : List α} (h : lineFeed ∉ text) :
    withReturns carriageReturn lineFeed text = text := by
  induction text with
  | nil => rfl
  | cons c text ih =>
      rw [withReturns, List.flatMap_cons, if_neg (List.ne_of_not_mem_cons h).symm]
      exact congrArg (c :: ·) (ih (List.not_mem_of_not_mem_cons h))

end

/-- A text without carriage returns keeps its lines when all its line ends get one. -/
theorem Lines.withReturns {text : List Char} {ls : List (List Char)} (h : Lines text ls)
    (plain : '\r' ∉ text) : Lines (withReturns '\r' '\n' text) ls := by
  induction h with
  | none => exact .none
  | unended nonempty unbroken =>
      rw [withReturns_of_no_feed unbroken]
      exact .unended nonempty unbroken
  | feed unbroken _ _ ih =>
      rw [withReturns_append, withReturns_of_no_feed unbroken, withReturns_feed_cons]
      refine .returnFeed unbroken (ih fun hmem => plain ?_)
      exact List.mem_append_right _ (List.mem_cons_of_mem _ hmem)
  | returnFeed => exact absurd (List.mem_append_right _ List.mem_cons_self) plain

end Text

namespace Utf8

open Text (withReturns)

theorem withReturns_utf8EncodeChar (c : Char) :
    withReturns 13 10 (String.utf8EncodeChar c) =
      (withReturns '\r' '\n' [c]).flatMap String.utf8EncodeChar := by
  by_cases hc : c = '\n'
  · subst hc
    rfl
  · have hfeed : '\n' ∉ [c] := by simpa using Ne.symm hc
    rw [Text.withReturns_of_no_feed hfeed, List.flatMap_singleton]
    exact Text.withReturns_of_no_feed fun hmem => hc (eq_feed_of_mem hmem)

/-- Carriage returns may be put into a text or into its bytes. -/
theorem encode_withReturns (text : String) :
    encode (String.ofList (withReturns '\r' '\n' text.toList)) = withReturns 13 10 (encode text) := by
  rw [← String.ofList_toList (s := text), encode_ofList, encode_ofList, String.toList_ofList]
  induction text.toList with
  | nil => rfl
  | cons c cs ih =>
      rw [← List.singleton_append, Text.withReturns_append, List.flatMap_append, ih,
        List.flatMap_append, Text.withReturns_append, List.flatMap_singleton,
        withReturns_utf8EncodeChar]

end Utf8

namespace TextFormat

open Text (withReturns)

/-- **Line ends are transparent.**  If a text has no carriage return and every line feed in it gets
one, the reader answers as before: with the same program, whose names are the same, or with the same
complaint about the same line and with the same quotation.  It does not matter whether the carriage
returns are put into the text or into its bytes. -/
theorem line_ends_transparent {bytes : List UInt8} {text : String}
    (valid : Utf8.decode? bytes = some text) (plain : '\r' ∉ text.toList) :
    read (Utf8.encode (String.ofList (withReturns '\r' '\n' text.toList))) = read bytes ∧
      read (withReturns 13 10 bytes) = read bytes := by
  obtain rfl := Utf8.decode?_eq_some_iff.mp valid
  have hlines := Text.lines_splitLines text.toList
  have hreturned : Text.Lines (String.ofList (withReturns '\r' '\n' text.toList)).toList
      (Text.splitLines text.toList) := by
    rw [String.toList_ofList]
    exact hlines.withReturns plain
  have same : read (Utf8.encode (String.ofList (withReturns '\r' '\n' text.toList))) =
      read (Utf8.encode text) := by
    rw [read_encode_of_lines hreturned, read_encode_of_lines hlines]
  refine ⟨same, ?_⟩
  rw [← Utf8.encode_withReturns, same]

/-- Three names: an empty one, one with a blank in front, and one on a line that is not ended. -/
def unendedName : String :=
  "1\nHALT\n0\n3\n\n é\nb"

/-- A line that is quoted as it stands. -/
def threeWords : String :=
  "1\n JUMP 1 2 \n0\n"

theorem line_ends_transparent_quoted :
    '\r' ∉ unendedName.toList ∧
      read (Utf8.encode "1\r\nHALT\r\n0\r\n3\r\n\r\n é\r\nb") =
        .ok ⟨#[⟨.known .halt, 0⟩], #[], #["", " é", "b"]⟩ ∧
      '\r' ∉ threeWords.toList ∧
      read (Utf8.encode "1\r\n JUMP 1 2 \r\n0\r\n") =
        .error (.invalidInstruction 2 " JUMP 1 2 ") ∧
      read (withReturns 13 10 (Utf8.encode threeWords)) =
        .error (.invalidInstruction 2 " JUMP 1 2 ") := by
  have accepted : read (Utf8.encode unendedName) =
      .ok ⟨#[⟨.known .halt, 0⟩], #[], #["", " é", "b"]⟩ := by
    rw [read_encode]
    decide +kernel
  have rejected : read (Utf8.encode threeWords) =
      .error (.invalidInstruction 2 " JUMP 1 2 ") := by
    rw [read_encode]
    decide +kernel
  have plainNames : '\r' ∉ unendedName.toList := by decide
  have plainWords : '\r' ∉ threeWords.toList := by decide
  have names := line_ends_transparent (Utf8.decode?_encode unendedName) plainNames
  have words := line_ends_transparent (Utf8.decode?_encode threeWords) plainWords
  exact ⟨plainNames, names.1.trans accepted, plainWords, words.1.trans rejected,
    words.2.trans rejected⟩

end TextFormat

end StackMachine
