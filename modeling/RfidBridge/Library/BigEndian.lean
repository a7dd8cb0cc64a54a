import Mathlib.Data.List.Basic
import Mathlib.Tactic.Ring

/-!
Fixed-width big-endian integers as byte strings, in the manner of Python's
`struct` formats ">H", ">I" and ">h". Encoding and decoding are inverse on the
values that fit the width and on the byte strings that have it.
-/

namespace BigEndian

/-- The `width` low-order bytes of `n`, most significant first. -/
def encode : Nat → Nat → List UInt8
  | 0, _ => []
  | width + 1, n => UInt8.ofNat (n / 256 ^ width) :: encode width n

def decode : List UInt8 → Nat
  | [] => 0
  | b :: bytes => b.toNat * 256 ^ bytes.length + decode bytes

@[simp] theorem length_encode (width n : Nat) : (encode width n).length = width := by
  induction width with
  | zero => rfl
  | succ width ih => simp [encode, ih]

theorem decode_lt (bytes : List UInt8) : decode bytes < 256 ^ bytes.length := by
  induction bytes with
  | nil => simp [decode]
  | cons b bytes ih =>
      have hb : b.toNat < 256 := b.toNat_lt
      calc decode (b :: bytes)
          < b.toNat * 256 ^ bytes.length + 256 ^ bytes.length := by
            simp only [decode]; omega
        _ = (b.toNat + 1) * 256 ^ bytes.length := by ring
        _ ≤ 256 * 256 ^ bytes.length := Nat.mul_le_mul_right _ hb
        _ = 256 ^ (b :: bytes).length := by rw [List.length_cons, Nat.pow_succ, Nat.mul_comm]

/-- Digits above the encoded width do not matter. -/
theorem encode_add_mul (width n k : Nat) :
    encode width (k * 256 ^ width + n) = encode width n := by
  induction width generalizing k with
  | zero => rfl
  | succ width ih =>
      have split : k * 256 ^ (width + 1) + n = (k * 256) * 256 ^ width + n := by ring
      have positive : 0 < 256 ^ width := Nat.pow_pos (by decide)
      rw [split]
      simp only [encode]
      rw [ih (k * 256)]
      congr 1
      rw [Nat.mul_comm (k * 256), Nat.mul_add_div positive]
      apply UInt8.toNat_inj.mp
      simp [UInt8.toNat_ofNat']

theorem decode_encode (width n : Nat) (h : n < 256 ^ width) :
    decode (encode width n) = n := by
  induction width generalizing n with
  | zero => simp [encode, decode] at h ⊢; omega
  | succ width ih =>
      have positive : 0 < 256 ^ width := Nat.pow_pos (by decide)
      have high : n / 256 ^ width < 256 :=
        Nat.div_lt_of_lt_mul (by rwa [← Nat.pow_succ])
      have low : encode width n = encode width (n % 256 ^ width) := by
        conv_lhs => rw [← Nat.div_add_mod n (256 ^ width), Nat.mul_comm]
        exact encode_add_mul width _ _
      simp only [encode, decode, length_encode]
      rw [low, ih _ (Nat.mod_lt _ positive), UInt8.toNat_ofNat_of_lt' high,
        Nat.mul_comm, Nat.div_add_mod]

theorem encode_decode (bytes : List UInt8) :
    encode bytes.length (decode bytes) = bytes := by
  induction bytes with
  | nil => rfl
  | cons b bytes ih =>
      have positive : 0 < 256 ^ bytes.length := Nat.pow_pos (by decide)
      have quotient : (b.toNat * 256 ^ bytes.length + decode bytes) / 256 ^ bytes.length =
          b.toNat := by
        rw [Nat.mul_comm, Nat.mul_add_div positive, Nat.div_eq_of_lt (decode_lt bytes),
          Nat.add_zero]
      simp only [List.length_cons, encode, decode]
      rw [encode_add_mul, ih, quotient, UInt8.ofNat_toNat]

/-- The signed reading of `width` bytes, as in the format ">h" or ">i". -/
def decodeSigned (bytes : List UInt8) : Int :=
  if decode bytes < 256 ^ bytes.length / 2 then (decode bytes : Int)
  else (decode bytes : Int) - 256 ^ bytes.length

/-- The integers that `width` bytes hold in two's complement. -/
def SignedRange (width : Nat) (n : Int) : Prop :=
  -((256 ^ width / 2 : Nat) : Int) ≤ n ∧ n < ((256 ^ width / 2 : Nat) : Int)

def encodeSigned (width : Nat) (n : Int) : List UInt8 :=
  encode width (n % (256 ^ width : Nat)).toNat

@[simp] theorem length_encodeSigned (width : Nat) (n : Int) :
    (encodeSigned width n).length = width := length_encode _ _

theorem two_halves {width : Nat} (positive : 0 < width) :
    256 ^ width / 2 + 256 ^ width / 2 = 256 ^ width := by
  cases width with
  | zero => omega
  | succ width => rw [Nat.pow_succ]; omega

theorem decodeSigned_range {bytes : List UInt8} (positive : 0 < bytes.length) :
    SignedRange bytes.length (decodeSigned bytes) := by
  have bound := decode_lt bytes
  have halves := two_halves positive
  have cast : ((256 : Int) ^ bytes.length) = ((256 ^ bytes.length : Nat) : Int) := by push_cast; rfl
  unfold SignedRange decodeSigned
  rw [cast]
  generalize 256 ^ bytes.length = size at *
  split <;> omega

theorem encodeSigned_decodeSigned (bytes : List UInt8) :
    encodeSigned bytes.length (decodeSigned bytes) = bytes := by
  have bound := decode_lt bytes
  have cast : ((256 : Int) ^ bytes.length) = ((256 ^ bytes.length : Nat) : Int) := by push_cast; rfl
  have digits : (decodeSigned bytes % (256 ^ bytes.length : Nat)).toNat = decode bytes := by
    unfold decodeSigned
    rw [cast]
    generalize 256 ^ bytes.length = size at *
    split
    · rw [Int.emod_eq_of_lt (by omega) (by omega)]
      omega
    · rw [Int.sub_emod_right, Int.emod_eq_of_lt (by omega) (by omega)]
      omega
  rw [encodeSigned, digits, encode_decode]

theorem decodeSigned_encodeSigned {width : Nat} {n : Int} (positive : 0 < width)
    (range : SignedRange width n) : decodeSigned (encodeSigned width n) = n := by
  have halves := two_halves positive
  obtain ⟨low, high⟩ := range
  have cast : ((256 : Int) ^ width) = ((256 ^ width : Nat) : Int) := by push_cast; rfl
  have residue : 0 ≤ n % (256 ^ width : Nat) ∧ n % (256 ^ width : Nat) < (256 ^ width : Nat) := by
    have size : (0 : Int) < (256 ^ width : Nat) := by
      rw [Int.natCast_pos]
      exact Nat.pow_pos (by decide)
    exact ⟨Int.emod_nonneg _ (by omega), Int.emod_lt_of_pos _ size⟩
  have value : n % (256 ^ width : Nat) = if 0 ≤ n then n else n + (256 ^ width : Nat) := by
    generalize 256 ^ width = size at *
    split
    · exact Int.emod_eq_of_lt (by omega) (by omega)
    · rw [← Int.add_emod_right, Int.emod_eq_of_lt (by omega) (by omega)]
  unfold decodeSigned encodeSigned
  rw [length_encode, decode_encode _ _ (by omega), cast]
  generalize 256 ^ width = size at *
  split at value <;> split <;> omega

end BigEndian
