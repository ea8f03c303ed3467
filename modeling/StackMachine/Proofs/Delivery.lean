import StackMachine.Sink

/-!
# Delivering drafts

A draft of many records is complete exactly if every record is, and its bytes are then those of the
records in a row.  A sink without a limit takes whatever the draft holds, so that only the writer
itself can be the reason why a delivery fails.
-/

namespace StackMachine.Draft

@[simp] theorem refusal_ofBytes (bytes : List UInt8) : (ofBytes bytes).refusal = none := rfl

@[simp] theorem bytes_ofBytes (bytes : List UInt8) : (ofBytes bytes).bytes = bytes := rfl

/-- Texts in a row are one text. -/
theorem ofText_append_ofText (s t : String) : ofText s ++ ofText t = ofText (s ++ t) := by
  rw [ofText, ofText, ofText, Utf8.encode_append]
  rfl

/-! ## Records in a row -/

@[simp] theorem concat_nil : concat [] = ofBytes [] := rfl

theorem concat_cons (d : Draft) (ds : List Draft) : concat (d :: ds) = d ++ concat ds := rfl

/-- Records in a row are complete if each of them is. -/
theorem refusal_concat_eq_none_iff {ds : List Draft} :
    (concat ds).refusal = none ↔ ∀ d ∈ ds, d.refusal = none := by
  induction ds with
  | nil => simp
  | cons d ds ih =>
      rw [concat_cons, refusal_append_eq_none_iff, ih]
      simp

/-- The same for the records of a table. -/
theorem refusal_concat_map_eq_none_iff {α : Type} {write : α → Draft} {as : List α} :
    (concat (as.map write)).refusal = none ↔ ∀ a ∈ as, (write a).refusal = none := by
  rw [refusal_concat_eq_none_iff]
  simp

/-- Records without a refusal are their bytes in a row. -/
theorem concat_map_ofBytes {α : Type} (bytes : α → List UInt8) (as : List α) :
    concat (as.map fun a => ofBytes (bytes a)) = ofBytes (as.flatMap bytes) := by
  induction as with
  | nil => rfl
  | cons a as ih =>
      rw [List.map_cons, concat_cons, ih, List.flatMap_cons]
      rfl

/-! ## Delivery without a limit -/

theorem deliver_unlimited (d : Draft) {s : Sink} (unlimited : s.room = none) :
    d.deliver s =
      ({ s with taken := d.bytes.reverse ++ s.taken }, d.refusal.map .refused) := by
  simp [deliver, Sink.write_unlimited unlimited]

/-- Without a limit a delivery succeeds exactly if the draft is complete. -/
theorem deliver_unlimited_eq_none_iff (d : Draft) {s : Sink} (unlimited : s.room = none) :
    (d.deliver s).2 = none ↔ d.refusal = none := by
  rw [deliver_unlimited d unlimited]
  simp

/-- Without a limit the sink takes all bytes of the draft. -/
theorem content_deliver_unlimited (d : Draft) {s : Sink} (unlimited : s.room = none) :
    (d.deliver s).1.content = s.content ++ d.bytes := by
  rw [deliver_unlimited d unlimited]
  simp [Sink.content]

end StackMachine.Draft
