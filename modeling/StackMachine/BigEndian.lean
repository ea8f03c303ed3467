import StackMachine.Word

/-!
# Big-endian numbers

A number is stored in a fixed count of bytes, the most significant first.  `decode_encode` says that
a number below the capacity of its field survives, and `encode_decode` that every byte string is the
encoding of its number.
-/

namespace StackMachine.BigEndian

/-- How many numbers a field of a given width can tell apart. -/
def capacity : Nat → Nat
  | 0 => 1
  | width + 1 => 256 * capacity width

/-- The last `width` base-256 digits of a number. -/
def encode : Nat → Nat → List UInt8
  | 0, _ => []
  | width + 1, n => UInt8.ofNat (n / capacity width) :: encode width n

/-- The number with the given base-256 digits. -/
def decode : List UInt8 → Nat
  | [] => 0
  | b :: rest => b.toNat * capacity rest.length + decode rest

/-- The eight bytes of a word, in two's complement. -/
def encodeWord (w : Word) : List UInt8 :=
  encode 8 w.toUInt64.toNat

/-- The word with the given eight bytes. -/
def decodeWord (bytes : List UInt8) : Word :=
  (UInt64.ofNat (decode bytes)).toInt64

theorem capacity_pos (width : Nat) : 0 < capacity width := by
  induction width with
  | zero => exact Nat.one_pos
  | succ width ih => exact Nat.mul_pos (by decide) ih

@[simp] theorem length_encode (width n : Nat) : (encode width n).length = width := by
  induction width with
  | zero => rfl
  | succ width ih => rw [encode, List.length_cons, ih]

@[simp] theorem length_encodeWord (w : Word) : (encodeWord w).length = 8 :=
  length_encode 8 _

theorem decode_lt (bytes : List UInt8) : decode bytes < capacity bytes.length := by
  induction bytes with
  | nil => exact Nat.one_pos
  | cons b rest ih =>
    have hb : b.toNat + 1 ≤ 256 := b.toNat_lt
    have hmul := Nat.mul_le_mul_right (capacity rest.length) hb
    rw [Nat.add_mul, Nat.one_mul] at hmul
    show b.toNat * capacity rest.length + decode rest < 256 * capacity rest.length
    omega

theorem decode_encode_mod (width n : Nat) : decode (encode width n) = n % capacity width := by
  induction width with
  | zero => exact (Nat.mod_one n).symm
  | succ width ih =>
    have hcap : capacity (width + 1) = capacity width * 256 := Nat.mul_comm 256 (capacity width)
    have hbyte : (UInt8.ofNat (n / capacity width)).toNat = n / capacity width % 256 :=
      UInt8.toNat_ofNat'
    rw [encode, decode, length_encode, ih, hbyte, hcap, Nat.mod_mul, Nat.add_comm, Nat.mul_comm]

theorem decode_encode {width n : Nat} (h : n < capacity width) : decode (encode width n) = n := by
  rw [decode_encode_mod, Nat.mod_eq_of_lt h]

/-- Only the last digits of a number matter to a field. -/
theorem encode_mul_capacity_add (width m n : Nat) :
    encode width (m * capacity width + n) = encode width n := by
  induction width generalizing m with
  | zero => rfl
  | succ width ih =>
    have hsplit : m * capacity (width + 1) + n = (m * 256) * capacity width + n := by
      rw [capacity, Nat.mul_assoc]
    have hdigit : UInt8.ofNat (m * 256 + n / capacity width) = UInt8.ofNat (n / capacity width) := by
      apply UInt8.toNat_inj.mp
      rw [UInt8.toNat_ofNat', UInt8.toNat_ofNat', Nat.mul_comm m]
      exact Nat.mul_add_mod 256 m (n / capacity width)
    rw [hsplit, encode, encode, ih, Nat.mul_comm (m * 256), Nat.mul_add_div (capacity_pos width),
      hdigit]

theorem encode_decode (bytes : List UInt8) : encode bytes.length (decode bytes) = bytes := by
  induction bytes with
  | nil => rfl
  | cons b rest ih =>
    rw [List.length_cons, encode, decode, encode_mul_capacity_add, ih, Nat.mul_comm,
      Nat.mul_add_div (capacity_pos rest.length), Nat.div_eq_of_lt (decode_lt rest), Nat.add_zero,
      UInt8.ofNat_toNat]

theorem decodeWord_encodeWord (w : Word) : decodeWord (encodeWord w) = w := by
  have h : w.toUInt64.toNat < capacity 8 := w.toUInt64.toNat_lt
  rw [decodeWord, encodeWord, decode_encode h, UInt64.ofNat_toNat]
  exact w.toInt64_toUInt64

theorem encodeWord_decodeWord {bytes : List UInt8} (h : bytes.length = 8) :
    encodeWord (decodeWord bytes) = bytes := by
  have hlt : decode bytes < UInt64.size := by
    have hw := decode_lt bytes
    rw [h] at hw
    exact hw
  have hn : (decodeWord bytes).toUInt64.toNat = decode bytes := by
    rw [decodeWord, UInt64.toUInt64_toInt64]
    exact UInt64.toNat_ofNat_of_lt hlt
  rw [encodeWord, hn, ← h, encode_decode]

end StackMachine.BigEndian
