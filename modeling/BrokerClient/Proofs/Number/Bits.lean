import BrokerClient.Number.Binary64
import Mathlib.Algebra.Ring.Nat

/-!
# The bits of doubles

A double is its sixty-four bits. They split into the sign, eleven bits for the exponent and
fifty-two for the mantissa, and taking the bits apart and putting them together again gives the
double back. So a finite double is made of what `decode` reads from it.

## Main definitions

* `Canonical` — the mantissas and exponents of finite doubles.

## Main results

* `ofBits_toBits` — a double is given back by its bits.
* `assemble_of_decode` — a finite double is given back by its parts.
-/

namespace BrokerClient.Number

section Bits

open Float.Model Float.Model.UnpackedFloat

/-- The bits of a double. -/
abbrev Bits : Type := BitVec Format.binary64.numBits

theorem toNat_packComponents (s : Sign) (e : BitVec 11) (m : BitVec 52) :
    (packComponents Format.binary64 s e m).toNat =
      s.toBitVec.toNat * 2 ^ 63 + e.toNat * 2 ^ 52 + m.toNat := by
  have le := e.isLt
  have lm := m.isLt
  simp only [packComponents, BitVec.toNat_append]
  rw [← Nat.shiftLeft_add_eq_or_of_lt le, ← Nat.shiftLeft_add_eq_or_of_lt lm, Nat.shiftLeft_eq,
    Nat.shiftLeft_eq]
  omega

theorem toNat_unpackMantissa (b : Bits) : (unpackMantissa b).toNat = b.toNat % 2 ^ 52 := by
  simp [unpackMantissa, BitVec.extractLsb]

theorem toNat_unpackExponent (b : Bits) : (unpackExponent b).toNat = b.toNat / 2 ^ 52 % 2 ^ 11 := by
  simp [unpackExponent, BitVec.extractLsb, Nat.shiftRight_eq_div_pow]

theorem toNat_unpackSign (b : Bits) : (unpackSign b).toNat = b.toNat / 2 ^ 63 % 2 := by
  have bit : (unpackSign b).toNat = (BitVec.extractLsb 63 63 b).toNat := rfl
  rw [bit, BitVec.extractLsb, BitVec.extractLsb'_toNat, Nat.shiftRight_eq_div_pow]

theorem toBitVec_signOfBitVec (b : BitVec 1) : (Sign.ofBitVec b).toBitVec = b := by
  revert b; decide

/-- The parts of the bits make up the bits. -/
theorem packComponents_unpack (b : Bits) :
    packComponents Format.binary64 (Sign.ofBitVec (unpackSign b)) (unpackExponent b)
      (unpackMantissa b) = b := by
  apply BitVec.eq_of_toNat_eq
  have lt : b.toNat < 2 ^ 64 := b.isLt
  rw [toNat_packComponents, toBitVec_signOfBitVec, toNat_unpackSign, toNat_unpackExponent,
    toNat_unpackMantissa]
  omega

/-- A mantissa of fifty-three bits is packed without its first one. -/
theorem pack_normal (s : Sign) {m k : Nat} (full : 2 ^ 52 ≤ m) (lt : m < 2 ^ 53) (small : k < 2047)
    (pos : 0 < m) {e : Int} (h : e = k - 1075) :
    UnpackedFloat.pack Format.binary64 (.finite s m e pos) =
      packComponents Format.binary64 s (BitVec.ofNat 11 k) (BitVec.ofNat 52 m) := by
  have log : m.log2 = 52 := (Nat.log2_eq_iff (by omega)).mpr ⟨full, lt⟩
  have bits : Format.binary64.mantissaBits = 52 + 1 := rfl
  have bias : (e + (Format.binary64.exponentBias : Int) + (52 : Nat)).toNat = k := by
    have : Format.binary64.exponentBias = 1023 := rfl
    omega
  unfold UnpackedFloat.pack
  simp only [bias, log]
  rw [if_neg (by omega), if_pos bits.symm]

/-- A mantissa with fewer bits is packed as it is. -/
theorem pack_subnormal (s : Sign) {m : Nat} (lt : m < 2 ^ 52) (pos : 0 < m) :
    UnpackedFloat.pack Format.binary64 (.finite s m (-1074) pos) =
      packComponents Format.binary64 s 0#11 (BitVec.ofNat 52 m) := by
  have log : m.log2 < 52 := (Nat.log2_lt (by omega)).mpr lt
  have bits : Format.binary64.mantissaBits = 53 := rfl
  have bias : ((-1074 : Int) + (Format.binary64.exponentBias : Int) + (52 : Nat)).toNat = 1 := rfl
  unfold UnpackedFloat.pack
  simp only [bias]
  rw [if_neg (by omega), if_neg (by omega)]

/-- Bits of a double that are unpacked and packed again are the same. -/
theorem pack_unpack {b : Bits} (valid : Format.binary64.Valid b) :
    UnpackedFloat.pack Format.binary64 (UnpackedFloat.unpack Format.binary64 b) = b := by
  have joined := packComponents_unpack b
  have lm : (unpackMantissa b).toNat < 2 ^ 52 := (unpackMantissa b).isLt
  have le : (unpackExponent b).toNat < 2 ^ 11 := (unpackExponent b).isLt
  have bias : (Format.binary64.exponentBias : Int) = 1023 := rfl
  unfold UnpackedFloat.unpack
  by_cases top : unpackExponent b = -1#_
  · rw [if_pos top]
    by_cases zero : unpackMantissa b = 0#_
    · rw [if_pos zero]
      rw [top, zero] at joined
      exact joined
    · rw [if_neg zero]
      exact (valid.eq_packedNaN top zero).symm
  have ne : (unpackExponent b).toNat ≠ 2047 := fun eq => top (BitVec.eq_of_toNat_eq eq)
  rw [if_neg top]
  by_cases low : unpackExponent b = 0#_
  · rw [if_pos low]
    by_cases zero : unpackMantissa b = 0#_
    · rw [dif_pos zero]
      rw [low, zero] at joined
      exact joined
    · rw [dif_neg zero]
      have some : 0 < (unpackMantissa b).toNat :=
        Nat.pos_of_ne_zero fun eq => zero (BitVec.eq_of_toNat_eq eq)
      have lowest : ((unpackExponent b).toNat : Int) - (Format.binary64.exponentBias + 52) + 1 =
          -1074 := by
        rw [low, bias]
        rfl
      have packed := pack_subnormal (Sign.ofBitVec (unpackSign b)) lm some
      rw [← lowest, BitVec.ofNat_toNat, BitVec.setWidth_eq, ← low] at packed
      exact packed.trans joined
  · rw [if_neg low]
    have implicit : (1#1 ++ unpackMantissa b).toNat = 2 ^ 52 + (unpackMantissa b).toNat := by
      rw [BitVec.toNat_append, ← Nat.shiftLeft_add_eq_or_of_lt lm]
      rfl
    have exponent : ((unpackExponent b).toNat : Int) - (Format.binary64.exponentBias + 52) =
        (unpackExponent b).toNat - 1075 := by
      rw [bias]
      omega
    have fraction : BitVec.ofNat 52 (1#1 ++ unpackMantissa b).toNat = unpackMantissa b := by
      apply BitVec.eq_of_toNat_eq
      rw [implicit, BitVec.toNat_ofNat, Nat.add_mod_left, Nat.mod_eq_of_lt lm]
    have packed := pack_normal (Sign.ofBitVec (unpackSign b))
      (m := (1#1 ++ unpackMantissa b).toNat) (by omega) (by omega) (by omega) (by omega) exponent
    rw [fraction, BitVec.ofNat_toNat, BitVec.setWidth_eq] at packed
    exact packed.trans joined

theorem eq_of_bits_eq {x y : Float} (h : x.toModel.toBits.toBitVec = y.toModel.toBits.toBitVec) :
    x = y := by
  obtain ⟨⟨⟨a⟩, _⟩⟩ := x
  obtain ⟨⟨⟨b⟩, _⟩⟩ := y
  obtain rfl : a = b := h
  rfl

/-- A double is given back by its bits. -/
theorem ofBits_toBits (x : Float) : Float.ofBits x.toBits = x :=
  eq_of_bits_eq (pack_unpack x.toModel.valid)

end Bits

/-- The mantissas and exponents of finite doubles: fifty-three bits, fewer only at the lowest
exponent. -/
structure Canonical (m : Nat) (e : Int) : Prop where
  lt : m < 2 ^ 53
  full : 2 ^ 52 ≤ m ∨ e = -1074
  lowest : -1074 ≤ e
  highest : e ≤ 971

theorem assemble_eq_ofBits {negative : Bool} {m s k n : Nat} {e : Int}
    (sign : (if negative then 2 ^ 63 else 0) = s) (place : (e + 1074).toNat = k)
    (le : k * 2 ^ 52 + m ≤ 2047 * 2 ^ 52) (sum : s + (k * 2 ^ 52 + m) = n) :
    assemble negative m e = Float.ofBits n.toUInt64 := by
  simp only [assemble, Nat.pow_eq, place, Nat.min_eq_left le, sign, sum]

theorem split_bits (n : Nat) :
    n / 2 ^ 63 * 2 ^ 63 + (n / 2 ^ 52 % 2048 * 2 ^ 52 + n % 2 ^ 52) = n := by
  omega

/-- A finite double is made of its parts. -/
theorem assemble_of_decode {x : Float} {negative : Bool} {m : Nat} {e : Int}
    (h : decode x = .finite negative m e) : Canonical m e ∧ assemble negative m e = x := by
  have size : x.toBits.toNat < 2 ^ 64 := x.toBits.toNat_lt
  have whole : Float.ofBits x.toBits.toNat.toUInt64 = x := by
    rw [Nat.toUInt64_eq, UInt64.ofNat_toNat, ofBits_toBits]
  simp only [decode, Nat.pow_eq, beq_iff_eq] at h
  generalize x.toBits.toNat = n at h size whole
  have parts := split_bits n
  have small : n / 2 ^ 63 < 2 := by omega
  have exponent : n / 2 ^ 52 % 2048 < 2048 := Nat.mod_lt _ (by decide)
  have fraction : n % 2 ^ 52 < 2 ^ 52 := Nat.mod_lt _ (by decide)
  generalize n / 2 ^ 63 = s at *
  generalize n / 2 ^ 52 % 2048 = b at *
  generalize n % 2 ^ 52 = f at *
  have sign : (if (s == 1) = true then 2 ^ 63 else 0) = s * 2 ^ 63 := by
    obtain rfl | rfl : s = 0 ∨ s = 1 := by omega
    · rfl
    · rfl
  split at h
  · split at h <;> cases h
  · split at h
    · rename_i low
      cases h
      refine ⟨⟨by omega, .inr rfl, by omega, by omega⟩, ?_⟩
      rw [low] at parts
      have le : 0 * 2 ^ 52 + m ≤ 2047 * 2 ^ 52 := by omega
      have place : ((-1074 : Int) + 1074).toNat = 0 := rfl
      exact (assemble_eq_ofBits sign place le parts).trans whole
    · cases h
      rename_i ordinary low
      obtain ⟨c, rfl⟩ := Nat.exists_eq_succ_of_ne_zero low
      have place : (Int.ofNat (c + 1) - 1075 + 1074).toNat = c := by
        rw [Int.ofNat_eq_natCast]
        omega
      refine ⟨⟨by omega, .inl (Nat.le_add_right _ _), ?_, ?_⟩, ?_⟩
      · rw [Int.ofNat_eq_natCast]
        omega
      · rw [Int.ofNat_eq_natCast]
        omega
      · have le : c * 2 ^ 52 + (2 ^ 52 + f) ≤ 2047 * 2 ^ 52 := by omega
        refine (assemble_eq_ofBits sign place le ?_).trans whole
        rw [← parts, Nat.succ_mul, Nat.add_assoc (c * 2 ^ 52)]

end BrokerClient.Number
