/-!
# Lines

A text is cut into lines at its line feeds.  A carriage return directly before a line feed belongs
to the line end; anywhere else it is an ordinary character.  A line feed at the very end starts no
further line.  Lines are numbered from one, so that a complaint can name the line it is about.
-/

namespace StackMachine.Text

/-- A line of a text and its number. -/
structure Line where
  number : Nat
  chars : List Char
deriving DecidableEq, Repr

namespace Line

/-- The line as it stands in the text, without its line end. -/
def text (line : Line) : String :=
  String.ofList line.chars

end Line

/-- A line without the carriage return that belongs to its line end. -/
def dropReturn (cs : List Char) : List Char :=
  if cs.getLast? = some '\r' then cs.dropLast else cs

/-- The lines of a text, in order. -/
def splitLines (text : List Char) : List (List Char) :=
  let pieces := text.splitOn '\n'
  pieces.dropLast.map dropReturn ++ pieces.getLast?.toList.filter (· ≠ [])

/-- The lines of a text with their numbers. -/
def lines (text : List Char) : List Line :=
  (splitLines text).zipIdx 1 |>.map fun (cs, n) => ⟨n, cs⟩

/-- The text of some lines, each ended by a line feed. -/
def unlines (ls : List (List Char)) : List Char :=
  ls.flatMap (· ++ ['\n'])

theorem unlines_cons (l : List Char) (ls : List (List Char)) :
    unlines (l :: ls) = l ++ '\n' :: unlines ls := by
  simp [unlines]

/-- A line feed cuts off what stands before it. -/
theorem splitOn_cons_line {cs rest : List Char} (h : '\n' ∉ cs) :
    (cs ++ '\n' :: rest).splitOn '\n' = cs :: rest.splitOn '\n' := by
  rw [List.splitOn_eq_splitOnP]
  refine List.splitOnP_append_cons_of_forall_mem (fun x hx => ?_) '\n' (by simp) rest
  simpa using fun hxn : x = '\n' => h (hxn ▸ hx)

theorem splitLines_cons_line {cs rest : List Char} (h : '\n' ∉ cs) :
    splitLines (cs ++ '\n' :: rest) = dropReturn cs :: splitLines rest := by
  obtain ⟨p, ps, hp⟩ := List.exists_cons_of_ne_nil (List.splitOn_ne_nil '\n' rest)
  simp [splitLines, splitOn_cons_line h, hp]

/-- Lines that hold no line feed and do not end in a carriage return are read back as written. -/
theorem splitLines_unlines {ls : List (List Char)}
    (h : ∀ l ∈ ls, '\n' ∉ l ∧ l.getLast? ≠ some '\r') : splitLines (unlines ls) = ls := by
  induction ls with
  | nil => rfl
  | cons l ls ih =>
    have hl := h l List.mem_cons_self
    rw [unlines_cons, splitLines_cons_line hl.1, ih fun m hm => h m (List.mem_cons_of_mem _ hm)]
    simp [dropReturn, hl.2]

end StackMachine.Text
