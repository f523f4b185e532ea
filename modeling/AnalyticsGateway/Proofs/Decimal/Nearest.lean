import AnalyticsGateway.Decimal.Value
import AnalyticsGateway.Proofs.Decimal.Fields

/-!
# Large whole numbers

A whole number of more than 53 bits is rounded to a machine number that is neither a zero nor NaN
(`isNormal_toSignedFloat`).
-/

namespace AnalyticsGateway.MachineNumber

open Float.Model (UnpackedFloat Format)
open Float.Model.UnpackedFloat (Sign ExtendedMantissa Accuracy)

/-- A number whose leading digit is implicit, or an infinity. -/
def IsNormal (x : Float) : Prop := exponentField x ≠ 0 ∧ x.isNaN = false

/-- What is packed to such a number. -/
def PacksNormal : UnpackedFloat → Prop
  | .infinity _ => True
  | .finite _ m e _ => m.log2 = 52 ∧ -1074 ≤ e
  | _ => False

/-! ## packing -/

def packed (u : UnpackedFloat) : Float := .ofModel (.pack u)

theorem toBitVec_packed (u : UnpackedFloat) :
    (packed u).toBits.toBitVec = u.pack Format.binary64 := rfl

theorem fields_packed {u : UnpackedFloat} {s : Sign} {e : BitVec 11} {m : BitVec 52}
    (h : u.pack Format.binary64 = UnpackedFloat.packComponents Format.binary64 s e m) :
    exponentField (packed u) = e.toNat ∧ fraction (packed u) = m.toNat := by
  have bits : (packed u).toBits.toNat =
      (s.toBitVec.toNat * 2 ^ 11 + e.toNat) * 2 ^ 52 + m.toNat := by
    have he : e.toNat < 2 ^ 11 := e.isLt
    have hm : m.toNat < 2 ^ 52 := m.isLt
    rw [← UInt64.toNat_toBitVec, toBitVec_packed, h, UnpackedFloat.packComponents,
      BitVec.toNat_append, BitVec.toNat_append, ← Nat.shiftLeft_add_eq_or_of_lt he,
      ← Nat.shiftLeft_add_eq_or_of_lt hm, Nat.shiftLeft_eq, Nat.shiftLeft_eq]
  have he : e.toNat < 2 ^ 11 := e.isLt
  have hm : m.toNat < 2 ^ 52 := m.isLt
  unfold exponentField fraction
  rw [bits]
  omega

theorem isNormal_packed {u : UnpackedFloat} (h : PacksNormal u) : IsNormal (packed u) := by
  have infinite (s : Sign) (h : u.pack Format.binary64 =
      UnpackedFloat.packedInfinity Format.binary64 s) : IsNormal (packed u) := by
    obtain ⟨he, hf⟩ := fields_packed h
    refine ⟨?_, Bool.eq_false_iff.2 fun nan => (isNaN_iff.1 nan).2 (hf.trans rfl)⟩
    rw [he]
    decide
  cases u with
  | infinity s => exact infinite s rfl
  | finite s m e hm =>
    obtain ⟨width, low⟩ := h
    by_cases large : 2 ^ 11 ≤ (e + 1023 + 52).toNat + 1
    · exact infinite s (if_pos large)
    · have normal : (UnpackedFloat.finite s m e hm).pack Format.binary64 =
          UnpackedFloat.packComponents Format.binary64 s (BitVec.ofNat 11 (e + 1023 + 52).toNat)
            (BitVec.ofNat 52 m) :=
        (if_neg large).trans (if_pos (congrArg (· + 1) width))
      obtain ⟨he, -⟩ := fields_packed normal
      rw [BitVec.toNat_ofNat, Nat.mod_eq_of_lt (by omega)] at he
      refine ⟨by omega, Bool.eq_false_iff.2 fun nan => ?_⟩
      have := (isNaN_iff.1 nan).1
      omega
  | notANumber => exact h.elim
  | zero s => exact h.elim

/-! ## rounding -/

theorem mantissa_shiftRight (em : ExtendedMantissa) (n : Nat) :
    (em >>> n).mantissa = em.mantissa / 2 ^ n := by
  change (n.repeat ExtendedMantissa.shiftRightOne em).mantissa = _
  induction n with
  | zero => simp [Nat.repeat]
  | succ n ih =>
    rw [Nat.repeat, ExtendedMantissa.shiftRightOne, ih, Nat.div_div_eq_div_mul, Nat.pow_succ]

theorem roundedMantissa_bounds (em : ExtendedMantissa) :
    em.mantissa ≤ em.roundedMantissa ∧ em.roundedMantissa ≤ em.mantissa + 1 := by
  unfold ExtendedMantissa.roundedMantissa
  rcases em.accuracy with _ | (_ | _ | _) <;> simp only [Accuracy.roundToNearestEven] <;> omega

theorem shiftToTargetExponent_eq {m j : Nat} {e : Int} (accuracy : Accuracy)
    (hm : m.log2 = 52 + j) (he : -1074 ≤ e) :
    UnpackedFloat.shiftToTargetExponent Format.binary64 m e accuracy =
      (ExtendedMantissa.ofMantissaAndAccuracy m accuracy >>> j, e + j) := by
  have shift : (Format.binary64.targetExponent (Float.Model.totalExponent m e) - e).toNat = j := by
    change (max ((m.log2 : Int) + 1 + e - 53) (-1074) - e).toNat = j
    omega
  simp only [UnpackedFloat.shiftToTargetExponent, UnpackedFloat.shiftToExponent, shift]

theorem mantissa_ofMantissaAndAccuracy (m : Nat) (accuracy : Accuracy) :
    (ExtendedMantissa.ofMantissaAndAccuracy m accuracy).mantissa = m := by
  rcases accuracy with _ | (_ | _ | _) <;> rfl

/-- Of a number with more than 52 digits, the first 53. -/
theorem log2_div {m j : Nat} (h : m.log2 = 52 + j) : (m / 2 ^ j).log2 = 52 := by
  have ne : m ≠ 0 := by
    rintro rfl
    rw [Nat.log2_zero] at h
    omega
  obtain ⟨low, high⟩ := (Nat.log2_eq_iff ne).1 h
  have lower : 2 ^ 52 ≤ m / 2 ^ j := by
    rw [Nat.le_div_iff_mul_le (Nat.two_pow_pos _), ← Nat.pow_add]
    exact low
  have upper : m / 2 ^ j < 2 ^ 53 := by
    rw [Nat.div_lt_iff_lt_mul (Nat.two_pow_pos _), ← Nat.pow_add]
    exact lt_of_lt_of_eq high (congrArg (2 ^ ·) (by omega))
  exact (Nat.log2_eq_iff (by omega)).2 ⟨lower, upper⟩

/-- A number with at least 53 digits and no small exponent keeps 53 of them. -/
theorem packsNormal_round (s : Sign) {m : Nat} {e : Int} (hm : 52 ≤ m.log2) (he : -1074 ≤ e) :
    PacksNormal (UnpackedFloat.roundWithAccuracy Format.binary64 s m e .exact) := by
  obtain ⟨j, hj⟩ := Nat.exists_eq_add_of_le hm
  have kept := log2_div hj
  have ne : m / 2 ^ j ≠ 0 := by
    intro zero
    rw [zero, Nat.log2_zero] at kept
    omega
  obtain ⟨low, high⟩ := (Nat.log2_eq_iff ne).1 kept
  let shifted := ExtendedMantissa.ofMantissaAndAccuracy m .exact >>> j
  have mantissa : shifted.mantissa = m / 2 ^ j := by
    rw [mantissa_shiftRight, mantissa_ofMantissaAndAccuracy]
  have bounds := roundedMantissa_bounds shifted
  rw [mantissa] at bounds
  -- rounding up may carry into one more digit
  obtain ⟨carry, hcarry⟩ : ∃ carry, shifted.roundedMantissa.log2 = 52 + carry := by
    have le : 52 ≤ shifted.roundedMantissa.log2 := (Nat.le_log2 (by omega)).2 (by omega)
    exact Nat.exists_eq_add_of_le le
  have final := log2_div hcarry
  have nonzero : shifted.roundedMantissa / 2 ^ carry ≠ 0 := by
    intro zero
    rw [zero, Nat.log2_zero] at final
    omega
  have rounded : UnpackedFloat.roundWithAccuracy Format.binary64 s m e .exact =
      .finite s (shifted.roundedMantissa / 2 ^ carry) (e + j + carry)
        (Nat.pos_of_ne_zero nonzero) := by
    unfold UnpackedFloat.roundWithAccuracy
    simp only [shiftToTargetExponent_eq _ hj he,
      shiftToTargetExponent_eq .exact hcarry (by omega : -1074 ≤ e + j), mantissa_shiftRight,
      mantissa_ofMantissaAndAccuracy, shifted]
    exact dif_neg nonzero
  rw [rounded]
  exact ⟨final, by omega⟩

/-! ## whole numbers -/

theorem isNormal_ofScientific {n : Nat} (h : 2 ^ 53 ≤ n) :
    IsNormal (Float.ofScientific n false 0) := by
  have scientific : Float.ofScientific n false 0 =
      packed (UnpackedFloat.ofScientific Format.binary64 n 0) := by
    rw [Float.ofScientific, dif_neg (by omega)]
    rfl
  have product : UnpackedFloat.ofScientific Format.binary64 n 0 =
      UnpackedFloat.roundWithAccuracy Format.binary64 .positive (n <<< 53 * 10 ^ 0) (-53 + 0)
        .exact := by
    have inRange : ¬(0 : Int) < -((2 ^ 11 : Int) + n.log2) := by omega
    rw [UnpackedFloat.ofScientific, dif_neg (by omega), if_neg (by decide), if_neg inRange,
      if_pos (by decide)]
    simp only [UnpackedFloat.mul]
    rfl
  rw [scientific, product, Nat.pow_zero, Nat.mul_one, Nat.shiftLeft_eq]
  refine isNormal_packed (packsNormal_round _ ?_ (by omega))
  exact (Nat.le_log2 (by omega)).2 (by omega)

theorem isNormal_neg {x : Float} (h : IsNormal x) : IsNormal (-x) := by
  have negated : -x = packed x.toModel.unpack.neg := rfl
  rw [negated]
  refine isNormal_packed ?_
  have small := fraction_lt x
  rw [unpack_eq]
  split
  · rename_i he
    rw [if_pos (Classical.byContradiction fun hf =>
      Bool.false_ne_true (h.2.symm.trans (isNaN_iff.2 ⟨he, hf⟩)))]
    trivial
  · have := h.1
    rw [if_neg h.1]
    exact ⟨(Nat.log2_eq_iff (by omega)).2 ⟨by omega, by omega⟩, by omega⟩

end AnalyticsGateway.MachineNumber

namespace AnalyticsGateway.Decimal

open MachineNumber

theorem isNormal_toFloat {n : Nat} (h : 2 ^ 53 ≤ n) : IsNormal (toFloat ⟨n, 0⟩) := by
  unfold toFloat
  simp only
  rw [if_neg (by simp; omega)]
  split
  · exact ⟨by decide, by decide⟩
  · exact isNormal_ofScientific h

/-- A whole number with more than 53 digits is rounded to a number that is no zero and not NaN. -/
theorem isNormal_toSignedFloat (negative : Bool) {n : Nat} (h : 2 ^ 53 ≤ n) :
    IsNormal (toSignedFloat negative ⟨n, 0⟩) := by
  cases negative with
  | false => exact isNormal_toFloat h
  | true => exact isNormal_neg (isNormal_toFloat h)

end AnalyticsGateway.Decimal
