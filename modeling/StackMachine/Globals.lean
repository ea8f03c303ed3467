import StackMachine.Fault

/-!
# Globals

Globals are the named values of a run.  A name is bound by its first store; later stores replace its
value.  The view of the globals is `get?`, and `get?_store` says what a store does to it.
-/

namespace StackMachine

/-! ## Association lists

Named values in the order in which the names first came up. -/

namespace AssocList

/-- Gives a name a value, at its place if the name is there and at the end if it is new. -/
def insert {α : Type} (name : String) (value : α) : List (String × α) → List (String × α)
  | [] => [(name, value)]
  | (n, v) :: rest => if n = name then (n, value) :: rest else (n, v) :: insert name value rest

theorem lookup_insert {α : Type} (name : String) (value : α) (entries : List (String × α))
    (other : String) :
    (insert name value entries).lookup other =
      if other = name then some value else entries.lookup other := by
  induction entries with
  | nil =>
    by_cases h : other = name
    · simp [insert, h]
    · rw [insert, List.lookup_cons, beq_eq_false_iff_ne.mpr h, if_neg h]
  | cons entry rest ih =>
    obtain ⟨n, v⟩ := entry
    by_cases hn : n = name
    · subst hn
      rw [insert, if_pos rfl, List.lookup_cons, List.lookup_cons]
      by_cases h : other = n
      · rw [beq_iff_eq.mpr h, if_pos h]
      · rw [beq_eq_false_iff_ne.mpr h, if_neg h]
    · rw [insert, if_neg hn, List.lookup_cons, List.lookup_cons, ih]
      by_cases h : other = n
      · have hne : other ≠ name := h ▸ hn
        rw [beq_iff_eq.mpr h]
        exact (if_neg hne).symm
      · rw [beq_eq_false_iff_ne.mpr h]

end AssocList

/-! ## Stores and loads -/

structure Globals : Type where
  /-- Names with their values, in the order in which they were bound. -/
  bindings : List (String × Word) := []
deriving DecidableEq, Repr

namespace Globals

/-- Gives a name a value. -/
def store (g : Globals) (name : String) (value : Word) : Globals :=
  ⟨AssocList.insert name value g.bindings⟩

/-- The value of a name. -/
def get? (g : Globals) (name : String) : Option Word :=
  g.bindings.lookup name

/-- The value of a name that has to be bound. -/
def load (g : Globals) (name : String) : Except Fault Word :=
  match g.get? name with
  | some value => .ok value
  | none => .error (.unboundName name)

/-- The number of names bound. -/
def size (g : Globals) : Nat :=
  g.bindings.length

/-- The bindings ordered by name. -/
def sorted (g : Globals) : List (String × Word) :=
  g.bindings.mergeSort fun a b => decide (a.1 ≤ b.1)

theorem get?_store (g : Globals) (name : String) (value : Word) (other : String) :
    (g.store name value).get? other = if other = name then some value else g.get? other :=
  AssocList.lookup_insert name value g.bindings other

end Globals

end StackMachine
