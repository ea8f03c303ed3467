import StackMachine.Text.Utf8

/-!
# Drafts

A writer works from front to back and may come upon something that its format cannot hold.  It then
stops: the bytes before that point are written, nothing after it is.  A draft is what a writer has
produced, with the reason why it stopped, if it did.  Drafts are put together by `++`, under which a
draft that stopped absorbs whatever should follow.
-/

namespace StackMachine

/-- What a format cannot hold. -/
inductive Refusal : Type where
  | lineBreakInName
  | nameTooLong
  | sectionTooLarge
deriving DecidableEq, Repr

namespace Refusal

def message : Refusal → String
  | lineBreakInName => "name contains a line break"
  | nameTooLong => "name too long"
  | sectionTooLarge => "section too large"

end Refusal

structure Draft : Type where
  bytes : List UInt8
  refusal : Option Refusal
deriving DecidableEq, Repr

namespace Draft

/-- A draft of some bytes. -/
def ofBytes (bytes : List UInt8) : Draft :=
  ⟨bytes, none⟩

/-- A draft of a text. -/
def ofText (s : String) : Draft :=
  ofBytes (Utf8.encode s)

/-- A draft that stops at once. -/
def refuse (r : Refusal) : Draft :=
  ⟨[], some r⟩

protected def append (d e : Draft) : Draft :=
  match d.refusal with
  | none => ⟨d.bytes ++ e.bytes, e.refusal⟩
  | some _ => d

instance : Append Draft :=
  ⟨Draft.append⟩

/-- Some drafts, one after the other. -/
def concat (ds : List Draft) : Draft :=
  ds.foldr (· ++ ·) (ofBytes [])

@[simp] theorem ofBytes_append (bytes : List UInt8) (d : Draft) :
    ofBytes bytes ++ d = ⟨bytes ++ d.bytes, d.refusal⟩ := rfl

@[simp] theorem refuse_append (r : Refusal) (d : Draft) : refuse r ++ d = refuse r := rfl

theorem append_assoc (a b c : Draft) : a ++ b ++ c = a ++ (b ++ c) := by
  obtain ⟨abytes, _ | r⟩ := a
  · obtain ⟨bbytes, _ | s⟩ := b
    · show Draft.mk (abytes ++ bbytes ++ c.bytes) c.refusal = ⟨abytes ++ (bbytes ++ c.bytes), c.refusal⟩
      rw [List.append_assoc]
    · rfl
  · rfl

/-- A draft is complete if both its parts are. -/
theorem refusal_append_eq_none_iff {d e : Draft} :
    (d ++ e).refusal = none ↔ d.refusal = none ∧ e.refusal = none := by
  obtain ⟨bytes, _ | r⟩ := d
  · show e.refusal = none ↔ _
    simp
  · show some r = none ↔ _
    simp

theorem bytes_append_of_complete {d e : Draft} (h : d.refusal = none) :
    (d ++ e).bytes = d.bytes ++ e.bytes := by
  obtain ⟨bytes, _ | r⟩ := d
  · rfl
  · cases h

end Draft

end StackMachine
