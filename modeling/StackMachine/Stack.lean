import StackMachine.Fault

/-!
# The operand stack

The stack keeps its depth beside its values, so that a push can be held against the limit at once.
`pop?_eq_some_iff` is all that needs to be known about taking a value off: the stack was a pushed
one.
-/

namespace StackMachine

structure Stack : Type where
  /-- The values, the top one first. -/
  values : List Word
  depth : Nat
  depth_eq : depth = values.length

namespace Stack

/-- The stack without values. -/
def empty : Stack :=
  ⟨[], 0, rfl⟩

theorem ext_values {s t : Stack} (h : s.values = t.values) : s = t := by
  obtain ⟨vs, d, hd⟩ := s
  obtain ⟨ws, e, he⟩ := t
  subst hd he
  cases h
  rfl

instance : DecidableEq Stack := fun s t =>
  decidable_of_iff (s.values = t.values) ⟨ext_values, congrArg values⟩

/-- The values from the bottom to the top. -/
def toList (s : Stack) : List Word :=
  s.values.reverse

/-- Puts a value on top. -/
def push (s : Stack) (v : Word) : Stack :=
  ⟨v :: s.values, s.depth + 1, by simp [s.depth_eq]⟩

/-- Puts a value on top of a stack that may hold at most `limit` values. -/
def pushWithin (limit : Nat) (s : Stack) (v : Word) : Except Fault Stack :=
  if s.depth < limit then .ok (s.push v) else .error (.stackOverflow limit)

/-- The top value and the stack below it. -/
def pop? : Stack → Option (Word × Stack)
  | ⟨[], _, _⟩ => none
  | ⟨v :: vs, d, h⟩ => some (v, ⟨vs, d - 1, by simp [h]⟩)

/-- Takes the top value off. -/
def pop (s : Stack) : Except Fault (Word × Stack) :=
  match s.pop? with
  | some popped => .ok popped
  | none => .error .stackUnderflow

/-- The top value, which stays. -/
def peek (s : Stack) : Except Fault Word :=
  match s.values with
  | v :: _ => .ok v
  | [] => .error .stackUnderflow

/-- Takes up to `n` values off: those taken, in the order in which they were pushed, and the stack
below them.  Fewer are taken only if the stack holds fewer. -/
def popMany : Nat → Stack → List Word × Stack
  | 0, s => ([], s)
  | n + 1, s =>
    match s.pop? with
    | none => ([], s)
    | some (v, below) =>
      let (vs, below) := popMany n below
      (vs ++ [v], below)

@[simp] theorem toList_empty : empty.toList = [] := rfl

@[simp] theorem depth_push (s : Stack) (v : Word) : (s.push v).depth = s.depth + 1 := rfl

@[simp] theorem toList_push (s : Stack) (v : Word) : (s.push v).toList = s.toList ++ [v] := by
  simp [toList, push]

@[simp] theorem pop?_push (s : Stack) (v : Word) : (s.push v).pop? = some (v, s) := rfl

theorem pop?_eq_some_iff {s t : Stack} {v : Word} : s.pop? = some (v, t) ↔ s = t.push v := by
  constructor
  · intro h
    obtain ⟨_ | ⟨w, ws⟩, d, hd⟩ := s
    · cases h
    · cases h
      exact ext_values rfl
  · rintro rfl
    rfl

theorem pop?_eq_none_iff {s : Stack} : s.pop? = none ↔ s = empty := by
  constructor
  · intro h
    obtain ⟨_ | ⟨w, ws⟩, d, hd⟩ := s
    · exact ext_values rfl
    · cases h
  · rintro rfl
    rfl

@[simp] theorem popMany_zero (s : Stack) : popMany 0 s = ([], s) := rfl

@[simp] theorem popMany_push (n : Nat) (s : Stack) (v : Word) :
    popMany (n + 1) (s.push v) = ((popMany n s).1 ++ [v], (popMany n s).2) := rfl

@[simp] theorem popMany_empty (n : Nat) : popMany n empty = ([], empty) := by
  cases n <;> rfl

end Stack

end StackMachine
