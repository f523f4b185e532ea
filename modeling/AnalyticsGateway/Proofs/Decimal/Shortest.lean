import AnalyticsGateway.Decimal.Shortest
import AnalyticsGateway.Proofs.Decimal.Fields

/-!
# The shortest decimal identifies its number

The shortest decimal of a binary fraction lies among the numbers that round to it
(`covers_shortest`), and no number rounds to two binary fractions (`eq_of_covers`). So machine
numbers of one sign with the same shortest value are one number (`eq_of_shortest_value`).
-/

namespace AnalyticsGateway

def Decimal.value (d : Decimal) : ℚ := d.digits * 10 ^ d.exponent

namespace BinaryFraction

/-- The least number that may round to a binary fraction. -/
def lowEnd (x : BinaryFraction) : ℚ :=
  (4 * x.significand - if x.startsBinade then 1 else 2) * 2 ^ (x.exponent - 2)

/-- The greatest number that may round to a binary fraction. -/
def highEnd (x : BinaryFraction) : ℚ := (4 * x.significand + 2) * 2 ^ (x.exponent - 2)

/-- Whether a number rounds to a binary fraction: a tie goes to the even one. -/
def Covers (x : BinaryFraction) (v : ℚ) : Prop :=
  x.lowEnd ≤ v ∧ v ≤ x.highEnd ∧ (x.significand % 2 = 1 → x.lowEnd < v ∧ v < x.highEnd)

/-! ## the shortest decimal is covered -/

theorem zpow_mul_neg_part {b : ℚ} (hb : b ≠ 0) (k : ℤ) :
    b ^ k * b ^ (-k).toNat = b ^ k.toNat := by
  rcases Int.le_total 0 k with h | h
  · have neg : (-k).toNat = 0 := by omega
    rw [neg, pow_zero, mul_one, ← zpow_natCast, Int.toNat_of_nonneg h]
  · have pos : k.toNat = 0 := by omega
    rw [pos, pow_zero, ← zpow_natCast, Int.toNat_of_nonneg (by omega), ← zpow_add₀ hb]
    simp

theorem low_interval {x : BinaryFraction} (h : 0 < x.significand) :
    (x.interval.low : ℚ) = x.lowEnd * x.interval.denominator := by
  have scale := zpow_mul_neg_part (b := 2) (by norm_num) (x.exponent - 2)
  rw [Int.neg_sub] at scale
  have le : (if x.startsBinade then 1 else 2) ≤ 4 * x.significand := by split <;> omega
  simp only [interval, lowEnd, Nat.pow_eq]
  push_cast [Nat.cast_sub le]
  rw [mul_assoc, scale]

theorem high_interval (x : BinaryFraction) :
    (x.interval.high : ℚ) = x.highEnd * x.interval.denominator := by
  have scale := zpow_mul_neg_part (b := 2) (by norm_num) (x.exponent - 2)
  rw [Int.neg_sub] at scale
  simp only [interval, highEnd, Nat.pow_eq]
  push_cast
  rw [mul_assoc, scale]

/-- What a grid holds of the interval rounds to the number. -/
theorem covers_of_holds {x : BinaryFraction} (hx : 0 < x.significand) {exponent : ℤ} {n : Nat}
    (h : (x.interval.inUnits exponent).holds (x.significand % 2 == 0) n = true) :
    x.Covers (Decimal.value ⟨n, exponent⟩) := by
  have units := zpow_mul_neg_part (b := 10) (by norm_num) exponent
  have positive : (0 : ℚ) < x.interval.denominator * 10 ^ (-exponent).toNat := by
    simp only [interval, Nat.pow_eq]
    positivity
  have low : ((x.interval.inUnits exponent).low : ℚ) =
      x.lowEnd * (x.interval.denominator * 10 ^ (-exponent).toNat) := by
    simp only [Interval.inUnits, Nat.pow_eq]
    push_cast [low_interval hx]
    ring
  have high : ((x.interval.inUnits exponent).high : ℚ) =
      x.highEnd * (x.interval.denominator * 10 ^ (-exponent).toNat) := by
    simp only [Interval.inUnits, Nat.pow_eq]
    push_cast [high_interval]
    ring
  have point : ((n * (x.interval.inUnits exponent).denominator : Nat) : ℚ) =
      Decimal.value ⟨n, exponent⟩ * (x.interval.denominator * 10 ^ (-exponent).toNat) := by
    simp only [Interval.inUnits, Decimal.value, Nat.pow_eq]
    push_cast [← units]
    ring
  have strict (a b : Nat) : a < b ↔ (a : ℚ) < b := Nat.cast_lt.symm
  have weak (a b : Nat) : a ≤ b ↔ (a : ℚ) ≤ b := Nat.cast_le.symm
  unfold Interval.holds at h
  split at h
  · rename_i even
    simp only [Bool.and_eq_true, decide_eq_true_eq] at h
    rw [weak, weak, low, high, point, mul_le_mul_iff_left₀ positive, mul_le_mul_iff_left₀ positive]
      at h
    refine ⟨h.1, h.2, fun odd => ?_⟩
    rw [beq_iff_eq] at even
    omega
  · simp only [Bool.and_eq_true, decide_eq_true_eq] at h
    rw [strict, strict, low, high, point, mul_lt_mul_iff_left₀ positive,
      mul_lt_mul_iff_left₀ positive] at h
    exact ⟨h.1.le, h.2.le, fun _ => h⟩

theorem covers_onGrid {x : BinaryFraction} (hx : 0 < x.significand) {exponent : ℤ} {d : Decimal}
    (h : x.onGrid? exponent = some d) : x.Covers d.value := by
  unfold onGrid? at h
  simp only at h
  split at h
  · rename_i below above
    cases h
    split
    · exact covers_of_holds hx above
    · exact covers_of_holds hx below
  · rename_i below _
    cases h
    exact covers_of_holds hx below
  · rename_i _ above
    cases h
    exact covers_of_holds hx above
  · cases h

/-- The number itself rounds to itself. -/
theorem covers_self (x : BinaryFraction) : x.Covers (x.significand * 2 ^ x.exponent) := by
  have step : (0 : ℚ) < 2 ^ (x.exponent - 2) := by positivity
  have value : (x.significand * 2 ^ x.exponent : ℚ) =
      4 * x.significand * 2 ^ (x.exponent - 2) := by
    rw [zpow_sub₀ (by norm_num)]
    norm_num
    ring
  have low : x.lowEnd < x.significand * 2 ^ x.exponent := by
    rw [value, lowEnd]
    refine mul_lt_mul_of_pos_right ?_ step
    split <;> linarith
  have high : x.significand * 2 ^ x.exponent < x.highEnd := by
    rw [value, highEnd]
    exact mul_lt_mul_of_pos_right (by linarith) step
  exact ⟨low.le, high.le, fun _ => ⟨low, high⟩⟩

theorem covers_shortest {x : BinaryFraction} (hx : 0 < x.significand) :
    x.Covers x.shortest.value := by
  unfold shortest
  simp only
  split
  · rename_i d h
    obtain ⟨exponent, _, hd⟩ := List.exists_of_findSome?_eq_some h
    exact covers_onGrid hx hd
  · -- no grid has a hit: the digits are those of the number itself
    convert x.covers_self using 1
    rcases Int.le_total 0 x.exponent with h | h
    · have pos : (-x.exponent).toNat = 0 := by omega
      rw [Decimal.value, min_eq_right h, pos]
      simp only [Nat.pow_eq]
      push_cast
      rw [← zpow_natCast, Int.toNat_of_nonneg h]
      simp
    · have neg : x.exponent.toNat = 0 := by omega
      have cast : ((-x.exponent).toNat : ℤ) = -x.exponent := Int.toNat_of_nonneg (by omega)
      rw [Decimal.value, min_eq_left h, neg]
      simp only [Nat.pow_eq]
      push_cast
      rw [← zpow_natCast 5, cast, show (10 : ℚ) = 2 * 5 by norm_num, mul_zpow, zpow_neg]
      field_simp

/-! ## no number rounds to two -/

/-- The form in which machine numbers are taken apart: of all forms of a number the one with the
least exponent that leaves the significand within 53 bits. -/
structure IsCanonical (x : BinaryFraction) : Prop where
  pos : 0 < x.significand
  lt : x.significand < 2 ^ 53
  least : -1074 ≤ x.exponent
  full : x.exponent ≠ -1074 → 2 ^ 52 ≤ x.significand
  starts : x.startsBinade = true ↔ x.significand = 2 ^ 52 ∧ x.exponent ≠ -1074

theorem step_pos (x : BinaryFraction) : (0 : ℚ) < 2 ^ (x.exponent - 2) := by positivity

/-- Of two numbers with one exponent, the greater covers nothing that the other one does. -/
theorem not_covers_of_significand_lt {x y : BinaryFraction} (hx : x.IsCanonical)
    (hy : y.IsCanonical) (he : x.exponent = y.exponent) (lt : x.significand < y.significand)
    {v : ℚ} (h : x.Covers v) : ¬ y.Covers v := by
  intro h'
  have inside : y.startsBinade = false := by
    refine Bool.eq_false_iff.2 fun starts => ?_
    obtain ⟨least, big⟩ := hy.starts.1 starts
    have := hx.full (he ▸ big)
    omega
  have cast : (x.significand : ℚ) + 1 ≤ y.significand := by exact_mod_cast lt
  have ends : x.highEnd ≤ y.lowEnd := by
    rw [highEnd, lowEnd, ← he, inside]
    exact mul_le_mul_of_nonneg_right (by norm_num; linarith) x.step_pos.le
  have touch : x.highEnd = y.lowEnd := le_antisymm ends (h'.1.trans h.2.1)
  -- the ends touch only between neighbours, one of which is odd and excludes them
  have next : y.significand = x.significand + 1 := by
    rw [highEnd, lowEnd, ← he, inside] at touch
    have := mul_right_cancel₀ x.step_pos.ne' touch
    norm_num at this
    have : (y.significand : ℚ) = (x.significand + 1 : Nat) := by push_cast; linarith
    exact_mod_cast this
  have open' {u : BinaryFraction} (odd : u.significand % 2 = 1) (hu : u.Covers v) :
      u.lowEnd < v ∧ v < u.highEnd := hu.2.2 odd
  rcases Nat.mod_two_eq_zero_or_one x.significand with even | odd
  · exact absurd (open' (by omega) h').1 (not_lt.2 (touch ▸ h.2.1))
  · exact absurd (open' odd h).2 (not_lt.2 (touch ▸ h'.1))

/-- The least end of a higher binade is half a step below a power of two. -/
theorem le_lowEnd_of_exponent_lt {y : BinaryFraction} (hy : y.IsCanonical) {exponent : ℤ}
    (least : -1074 ≤ exponent) (lt : exponent < y.exponent) :
    (2 ^ 55 - 2) * 2 ^ (exponent - 2) ≤ y.lowEnd := by
  have big : y.exponent ≠ -1074 := by omega
  have full : (2 ^ 52 : ℚ) ≤ y.significand := by exact_mod_cast hy.full big
  have step : 2 * 2 ^ (exponent - 2) ≤ (2 : ℚ) ^ (y.exponent - 2) := by
    calc (2 : ℚ) * 2 ^ (exponent - 2) = 2 ^ (exponent - 2 + 1) := by
          rw [zpow_add_one₀ (by norm_num)]; ring
      _ ≤ 2 ^ (y.exponent - 2) := zpow_le_zpow_right₀ (by norm_num) (by omega)
  have part : (2 ^ 54 - 1 : ℚ) ≤ 4 * y.significand - if y.startsBinade then 1 else 2 := by
    split
    · linarith
    · rename_i inside
      have : y.significand ≠ 2 ^ 52 := fun h => inside (hy.starts.2 ⟨h, big⟩)
      have more : 2 ^ 52 + 1 ≤ y.significand := by have := hy.full big; omega
      have : (2 ^ 52 + 1 : ℚ) ≤ y.significand := by exact_mod_cast more
      linarith
  calc (2 ^ 55 - 2 : ℚ) * 2 ^ (exponent - 2)
      = (2 ^ 54 - 1) * (2 * 2 ^ (exponent - 2)) := by ring
    _ ≤ (2 ^ 54 - 1) * 2 ^ (y.exponent - 2) := mul_le_mul_of_nonneg_left step (by norm_num)
    _ ≤ y.lowEnd := mul_le_mul_of_nonneg_right part y.step_pos.le

/-- A number of a higher binade covers nothing that one of a lower binade does. -/
theorem not_covers_of_exponent_lt {x y : BinaryFraction} (hx : x.IsCanonical)
    (hy : y.IsCanonical) (lt : x.exponent < y.exponent) {v : ℚ} (h : x.Covers v) :
    ¬ y.Covers v := by
  intro h'
  have small : (x.significand : ℚ) + 1 ≤ 2 ^ 53 := by exact_mod_cast hx.lt
  have xpos := x.step_pos
  have low : (2 ^ 55 - 2) * 2 ^ (x.exponent - 2) ≤ y.lowEnd :=
    le_lowEnd_of_exponent_lt hy hx.least lt
  have high : x.highEnd ≤ (2 ^ 55 - 2) * 2 ^ (x.exponent - 2) :=
    mul_le_mul_of_nonneg_right (by linarith) xpos.le
  -- they touch only behind the last number of a binade, which is odd
  have last : x.highEnd = (2 ^ 55 - 2) * 2 ^ (x.exponent - 2) :=
    le_antisymm high (low.trans (h'.1.trans h.2.1))
  have : (x.significand : ℚ) = (2 ^ 53 - 1 : Nat) := by
    have := mul_right_cancel₀ xpos.ne' last
    push_cast
    norm_num at this ⊢
    linarith
  have odd : x.significand % 2 = 1 := by
    have : x.significand = 2 ^ 53 - 1 := by exact_mod_cast this
    omega
  exact absurd (h.2.2 odd).2 (not_lt.2 (last ▸ low.trans h'.1))

theorem eq_of_covers {x y : BinaryFraction} (hx : x.IsCanonical) (hy : y.IsCanonical) {v : ℚ}
    (h : x.Covers v) (h' : y.Covers v) :
    x.significand = y.significand ∧ x.exponent = y.exponent := by
  rcases lt_trichotomy x.exponent y.exponent with lt | he | lt
  · exact absurd h' (not_covers_of_exponent_lt hx hy lt h)
  · rcases lt_trichotomy x.significand y.significand with lt | hs | lt
    · exact absurd h' (not_covers_of_significand_lt hx hy he lt h)
    · exact ⟨hs, he⟩
    · exact absurd h (not_covers_of_significand_lt hy hx he.symm lt h')
  · exact absurd h (not_covers_of_exponent_lt hy hx lt h')

/-! ## machine numbers -/

open MachineNumber

theorem ofFloat_eq (x : Float) :
    ofFloat x = if exponentField x = 0 then ⟨fraction x, -1074, false⟩
      else ⟨2 ^ 52 + fraction x, (exponentField x : ℤ) - 1075,
        fraction x == 0 && exponentField x != 1⟩ := by
  have fields : x.toBits.toNat / wordSize 52 % wordSize 11 = exponentField x ∧
      x.toBits.toNat % wordSize 52 = fraction x := ⟨rfl, rfl⟩
  unfold ofFloat
  simp only [fields.1, fields.2]
  split
  · rename_i h
    rw [if_pos h]
  · rename_i h
    rw [if_neg (h ·)]
    rfl

theorem isCanonical_ofFloat {x : Float} (h : exponentField x = 0 → fraction x ≠ 0) :
    (ofFloat x).IsCanonical := by
  have small := fraction_lt x
  rw [ofFloat_eq]
  split
  · rename_i tiny
    have := h tiny
    exact ⟨by dsimp only; omega, by dsimp only; omega, le_refl _, by simp, by simp⟩
  · refine ⟨by dsimp only; omega, by dsimp only; omega, by dsimp only; omega,
      fun _ => Nat.le_add_right .., ?_⟩
    dsimp only
    rw [Bool.and_eq_true, beq_iff_eq, bne_iff_ne]
    omega

/-- Machine numbers of one sign with the same shortest decimal are one number. -/
theorem eq_of_shortest_value {x y : Float} (hs : sign x = sign y)
    (hx : exponentField x = 0 → fraction x ≠ 0) (hy : exponentField y = 0 → fraction y ≠ 0)
    (h : (ofFloat x).shortest.value = (ofFloat y).shortest.value) : x = y := by
  have cx := isCanonical_ofFloat hx
  have cy := isCanonical_ofFloat hy
  obtain ⟨significand, exponent⟩ := eq_of_covers cx cy (covers_shortest cx.pos)
    (h ▸ covers_shortest cy.pos)
  have smallx := fraction_lt x
  have smally := fraction_lt y
  rw [ofFloat_eq, ofFloat_eq] at significand exponent
  split at significand <;> split at significand <;> simp_all
  all_goals apply eq_of_fields hs <;> omega

end BinaryFraction

end AnalyticsGateway
