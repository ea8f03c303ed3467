/-!
# Bytes of a text

Texts are stored in UTF-8.  Decoding is strict: it refuses overlong forms, surrogates and anything
beyond the last code point, so that decoding and encoding are inverse to each other
(`decode?_eq_some_iff`).
-/

namespace StackMachine.Utf8

/-- The bytes of a text. -/
def encode (s : String) : List UInt8 :=
  s.toUTF8.data.toList

/-- The text of some bytes, if they are valid. -/
def decode? (bytes : List UInt8) : Option String :=
  String.fromUTF8? ⟨bytes.toArray⟩

theorem decode?_eq_some_iff {bytes : List UInt8} {s : String} :
    decode? bytes = some s ↔ encode s = bytes := by
  unfold decode? encode String.fromUTF8?
  constructor
  · intro h
    split at h
    next hv =>
      rw [← Option.some.inj h]
      simp [String.fromUTF8]
    next => cases h
  · rintro rfl
    have hv : (ByteArray.mk s.toUTF8.data.toList.toArray).IsValidUTF8 := by
      simpa using s.isValidUTF8
    rw [dif_pos hv]
    congr 1

@[simp] theorem decode?_encode (s : String) : decode? (encode s) = some s :=
  decode?_eq_some_iff.mpr rfl

theorem eq_of_encode_eq {s t : String} (h : encode s = encode t) : s = t :=
  Option.some.inj (by rw [← decode?_encode s, h, decode?_encode])

@[simp] theorem encode_append (s t : String) : encode (s ++ t) = encode s ++ encode t := by
  simp [encode]

@[simp] theorem length_encode (s : String) : (encode s).length = s.utf8ByteSize := by
  rfl

end StackMachine.Utf8
