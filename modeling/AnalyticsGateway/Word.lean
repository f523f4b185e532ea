/-!
# Machine words

Words of so many bits hold so many values. A word of 64 bits with a sign holds the integers that
`FitsWord` says; others wrap around.
-/

namespace AnalyticsGateway

/-- How many values a word of so many bits has. -/
def wordSize (bits : Nat) : Nat := Nat.pow 2 bits

theorem wordSize_16 : wordSize 16 = 65536 := rfl

theorem wordSize_32 : wordSize 32 = 4294967296 := rfl

theorem wordSize_63 : wordSize 63 = 9223372036854775808 := rfl

theorem wordSize_64 : wordSize 64 = 18446744073709551616 := rfl

/-! ## words with a sign -/

/-- The integers of 64 bits with a sign. -/
def FitsWord (n : Int) : Prop := -wordSize 63 ≤ n ∧ n < wordSize 63

instance (n : Int) : Decidable (FitsWord n) := inferInstanceAs (Decidable (_ ∧ _))

/-- What 64 bits with a sign make of a number: what goes beyond one end comes back from the
other. -/
def wrapped (n : Int) : Int := n.bmod (wordSize 64)

theorem wrapped_eq_self {n : Int} (fits : FitsWord n) : wrapped n = n := by
  obtain ⟨low, high⟩ := fits
  rw [wordSize_63] at low high
  exact Int.bmod_eq_of_le_mul_two (by rw [wordSize_64]; omega) (by rw [wordSize_64]; omega)

theorem wrapped_le {n : Int} (nonneg : 0 ≤ n) : wrapped n ≤ n := by
  rw [wrapped, Int.bmod_def, wordSize_64]
  omega

/-- A sum or a difference of two words that is too large comes back from below. -/
theorem wrapped_neg {n : Int} (large : wordSize 63 ≤ n) (bound : n < wordSize 64) :
    wrapped n < 0 := by
  rw [wordSize_63] at large
  rw [wordSize_64] at bound
  rw [wrapped, Int.bmod_def, wordSize_64]
  omega

end AnalyticsGateway
