import StackMachine.Instruction

/-!
# Programs

A program is its code, the constants the code may push and the names of the globals it may use.
Operands refer to constants, names and instructions by position; `constant`, `nameAt` and
`jumpTarget` resolve such a reference, each with the fault of its own kind.

A listing shows the three tables of a program, each under a heading with its size, one numbered
entry a line.
-/

namespace StackMachine

structure Program : Type where
  code : Array Instruction := #[]
  consts : Array Word := #[]
  names : Array String := #[]
deriving DecidableEq, Repr

namespace Program

/-! ## References -/

/-- The number of instructions. -/
def size (p : Program) : Nat :=
  p.code.size

/-- The entry of a table that a word refers to. -/
def entry? {α : Type} (table : Array α) (ref : Word) : Option α :=
  ref.index?.bind (table[·]?)

/-- The constant an operand refers to. -/
def constant (p : Program) (operand : Word) : Except Fault Word :=
  match entry? p.consts operand with
  | some value => .ok value
  | none => .error (.invalidConstantIndex operand)

/-- The name an operand refers to. -/
def nameAt (p : Program) (operand : Word) : Except Fault String :=
  match entry? p.names operand with
  | some name => .ok name
  | none => .error (.invalidNameIndex operand)

/-- The position of the instruction an operand refers to. -/
def jumpTarget (p : Program) (operand : Word) : Except Fault Nat :=
  match operand.index?.filter (· < p.size) with
  | some target => .ok target
  | none => .error (.invalidJumpTarget operand)

/-- Only instructions of the program are jumped to. -/
theorem jumpTarget_lt_size {p : Program} {operand : Word} {target : Nat}
    (h : p.jumpTarget operand = .ok target) : target < p.size := by
  unfold jumpTarget at h
  split at h
  next t ht =>
    cases h
    simpa using (Option.filter_eq_some_iff.mp ht).2
  next => cases h

/-! ## Listings -/

/-- One table of a listing: its heading, then its entries with their positions. -/
def listTable (heading : String) (entries : List String) : String :=
  let count := Decimal.ofNat entries.length
  let rows := entries.zipIdx.map fun (entry, i) =>
    Text.padLeft 4 (Decimal.ofNat i) ++ ": " ++ entry ++ "\n"
  heading ++ " (" ++ count ++ "):\n" ++ String.join rows

/-- The whole program in readable form. -/
def listing (p : Program) : String :=
  listTable "code" (p.code.toList.map Instruction.render)
    ++ listTable "consts" (p.consts.toList.map Decimal.ofWord)
    ++ listTable "names" p.names.toList

end Program

end StackMachine
