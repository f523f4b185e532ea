import AnalyticsGateway.Word
import Mathlib

/-!
# The fields of machine numbers

A machine number is its sign, the field of its exponent and its fraction (`eq_of_fields`), and these
say of what kind it is.
-/

namespace AnalyticsGateway.MachineNumber

open Float.Model (UnpackedFloat Format)
open Float.Model.UnpackedFloat (Sign)

def sign (x : Float) : Nat := x.toBits.toNat / 2 ^ 63

def exponentField (x : Float) : Nat := x.toBits.toNat / 2 ^ 52 % 2 ^ 11

def fraction (x : Float) : Nat := x.toBits.toNat % 2 ^ 52

theorem toNat_toBits (x : Float) :
    x.toBits.toNat = sign x * 2 ^ 63 + exponentField x * 2 ^ 52 + fraction x := by
  unfold sign exponentField fraction
  omega

theorem eq_of_fields {x y : Float} (hs : sign x = sign y)
    (he : exponentField x = exponentField y) (hf : fraction x = fraction y) : x = y := by
  apply Float.toBits_inj.1
  apply UInt64.toNat_inj.1
  rw [toNat_toBits, toNat_toBits, hs, he, hf]

theorem sign_le_one (x : Float) : sign x ≤ 1 := by
  have := x.toBits.toNat_lt
  unfold sign
  omega

theorem fraction_lt (x : Float) : fraction x < 2 ^ 52 := Nat.mod_lt _ (by decide)

/-! ## unpacking -/

def bits (x : Float) : BitVec Format.binary64.numBits := x.toBits.toBitVec

theorem toNat_unpackMantissa (x : Float) :
    (Float.Model.UnpackedFloat.unpackMantissa (bits x)).toNat = fraction x := by
  simp [Float.Model.UnpackedFloat.unpackMantissa, bits, fraction]

theorem toNat_unpackExponent (x : Float) :
    (Float.Model.UnpackedFloat.unpackExponent (bits x)).toNat = exponentField x := by
  simp [Float.Model.UnpackedFloat.unpackExponent, bits, exponentField, Nat.shiftRight_eq_div_pow]

theorem toNat_unpackSign (x : Float) :
    (Float.Model.UnpackedFloat.unpackSign (bits x)).toNat = sign x := by
  have := x.toBits.toNat_lt
  simp [Float.Model.UnpackedFloat.unpackSign, bits, sign, Nat.shiftRight_eq_div_pow]
  omega

/-- The sign as it is unpacked. -/
def unpackedSign (x : Float) : Sign := if sign x = 0 then .positive else .negative

/-- What a number is, by its fields. -/
theorem unpack_eq (x : Float) :
    x.toModel.unpack =
      if exponentField x = 2047 then
        if fraction x = 0 then .infinity (unpackedSign x) else .notANumber
      else if exponentField x = 0 then
        if h : fraction x = 0 then .zero (unpackedSign x)
        else .finite (unpackedSign x) (fraction x) (-1074) (Nat.pos_of_ne_zero h)
      else .finite (unpackedSign x) (2 ^ 52 + fraction x) ((exponentField x : Int) - 1075)
        (by omega) := by
  have hsign : Sign.ofBitVec (Float.Model.UnpackedFloat.unpackSign (bits x)) = unpackedSign x := by
    simp only [Sign.ofBitVec, ← BitVec.toNat_inj, toNat_unpackSign, unpackedSign]
    rfl
  change UnpackedFloat.unpack Format.binary64 (bits x) = _
  simp only [UnpackedFloat.unpack, hsign, ← BitVec.toNat_inj, toNat_unpackMantissa,
    toNat_unpackExponent]
  have full : (1#1 ++ UnpackedFloat.unpackMantissa (bits x)).toNat = 2 ^ 52 + fraction x := by
    rw [BitVec.toNat_append, toNat_unpackMantissa, ← Nat.shiftLeft_add_eq_or_of_lt (fraction_lt x)]
    rfl
  by_cases infinite : exponentField x = 2047
  · simp [infinite]
  by_cases tiny : exponentField x = 0
  · simp only [tiny]
    rfl
  · simp [infinite, tiny, full]
    rfl

theorem isNaN_iff {x : Float} : x.isNaN = true ↔ exponentField x = 2047 ∧ fraction x ≠ 0 := by
  change x.toModel.unpack.isNaN = true ↔ _
  rw [unpack_eq]
  split
  · split <;> simp_all [UnpackedFloat.isNaN]
  · split
    · split <;> simp_all [UnpackedFloat.isNaN]
    · simp_all [UnpackedFloat.isNaN]

theorem isInf_iff {x : Float} : x.isInf = true ↔ exponentField x = 2047 ∧ fraction x = 0 := by
  change x.toModel.unpack.isInf = true ↔ _
  rw [unpack_eq]
  split
  · split <;> simp_all [UnpackedFloat.isInf]
  · split
    · split <;> simp_all [UnpackedFloat.isInf]
    · simp_all [UnpackedFloat.isInf]

/-! ## zeros -/

theorem beq_zero_iff {x : Float} :
    (x == 0) = true ↔ exponentField x = 0 ∧ fraction x = 0 := by
  rw [Float.beq_iff_ne_nan_and_eq]
  constructor
  · rintro ⟨-, -, rfl | ⟨rfl, -⟩ | ⟨rfl, -⟩⟩ <;> decide
  · rintro ⟨he, hf⟩
    have bit := sign_le_one x
    have cases : sign x = 0 ∨ sign x = 1 := by omega
    have zero : x = 0 ∨ x = -0 := by
      rcases cases with hs | hs
      · exact .inl (eq_of_fields hs he hf)
      · exact .inr (eq_of_fields hs he hf)
    rcases zero with rfl | rfl <;> decide

end AnalyticsGateway.MachineNumber
