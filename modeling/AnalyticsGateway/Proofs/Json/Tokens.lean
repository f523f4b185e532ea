import AnalyticsGateway.Json.Token
import AnalyticsGateway.Proofs.Decimal.Layout
import AnalyticsGateway.Proofs.Except
import AnalyticsGateway.Proofs.Json.Written

/-!
# Written JSON is cut into its tokens

The compact text of a value is cut into the tokens that the value is made of (`tokens_compact`), if
its numbers are read as they are written (`IsTold`).
-/

namespace AnalyticsGateway.Json

/-! ## what follows a value -/

/-- What stands behind a value in compact text: a mark, or nothing. -/
def Delimited : List Char → Prop
  | [] => True
  | c :: _ => c ∈ [',', ':', ']', '\x7d']

theorem Delimited.not_isDigit {rest : List Char} (h : Delimited rest) :
    ∀ c ∈ rest.head?, c.isDigit = false := by
  cases rest with
  | nil => nofun
  | cons c rest =>
    rintro _ ⟨⟩
    simp only [Delimited, List.mem_cons, List.not_mem_nil, or_false] at h
    rcases h with rfl | rfl | rfl | rfl <;> rfl

theorem Delimited.of_head? {rest : List Char} (h : Delimited rest) {c : Char}
    (head : c ∈ rest.head?) : c ∈ [',', ':', ']', '\x7d'] := by
  cases rest with
  | nil => cases head
  | cons d rest =>
    cases head
    exact h

/-! ## numbers -/

namespace Numeral

variable {chars rest : List Char}

theorem span_append (chars : List Char) (delimited : Delimited rest) :
    (chars ++ rest).span Char.isDigit =
      ((chars.span Char.isDigit).1, (chars.span Char.isDigit).2 ++ rest) := by
  induction chars with
  | nil =>
    have none_taken : ([] ++ rest).span Char.isDigit = ([], rest) :=
      Decimal.span_digits nofun delimited.not_isDigit
    simpa using none_taken
  | cons c chars ih =>
    simp only [List.cons_append, List.span_eq_takeWhile_dropWhile, Prod.mk.injEq] at ih ⊢
    cases h : c.isDigit <;> simp [h, ih]

theorem whole_append {digits left : List Char} (delimited : Delimited rest)
    (h : whole chars = .ok (digits, left)) :
    whole (chars ++ rest) = .ok (digits, left ++ rest) := by
  rcases chars with _ | ⟨c, chars⟩
  · cases h
  by_cases zero : c = '0'
  · subst zero
    cases chars with
    | nil =>
      cases h
      cases rest with
      | nil => rfl
      | cons d rest =>
        have other := delimited.not_isDigit d rfl
        simp [whole, other]
    | cons d chars =>
      simp only [List.cons_append, whole] at h ⊢
      split at h
      · cases h
      · rename_i other
        cases h
        rw [if_neg other]
        rfl
  · have same (rest : List Char) : whole (c :: rest) =
        if c.isDigit then .ok ((c :: rest).span Char.isDigit) else .error (invalid rest false) := by
      rw [whole]
      intro eq
      exact absurd eq zero
    rw [List.cons_append, same]
    rw [same] at h
    split at h
    · rename_i digit
      rw [if_pos digit, ← List.cons_append, span_append (c :: chars) delimited, Except.ok.inj h]
    · cases h

theorem fraction_append {digits left : List Char} (delimited : Delimited rest)
    (h : fraction chars = .ok (digits, left)) :
    fraction (chars ++ rest) = .ok (digits, left ++ rest) := by
  have none_written {chars : List Char} (other : ∀ c ∈ chars.head?, c ≠ '.') :
      fraction chars = .ok ([], chars) := by
    rw [fraction]
    rintro rest rfl
    exact other '.' rfl rfl
  rcases chars with _ | ⟨c, chars⟩
  · cases h
    refine none_written fun c hc point => ?_
    subst point
    exact absurd (delimited.of_head? hc) (by decide)
  by_cases point : c = '.'
  · subst point
    rw [List.cons_append, fraction, span_append chars delimited]
    rw [fraction] at h
    generalize chars.span Char.isDigit = cut at h ⊢
    obtain ⟨_ | ⟨d, taken⟩, others⟩ := cut
    · cases others <;> cases h
    · cases h
      rfl
  · rw [none_written (by simpa using point)] at h
    cases h
    exact none_written (by simpa using point)

theorem sign_append (chars : List Char) (delimited : Delimited rest) :
    sign (chars ++ rest) = ((sign chars).1, (sign chars).2 ++ rest) := by
  cases chars with
  | cons c chars =>
    rw [List.cons_append, sign.eq_def, sign.eq_def]
    split <;> simp_all
  | nil =>
    have unsigned (c : Char) (hc : c = '-' ∨ c = '+') : c ∉ rest.head? := by
      intro head
      have mark := delimited.of_head? head
      rcases hc with rfl | rfl <;> exact absurd mark (by decide)
    rw [List.nil_append, sign.eq_def]
    split
    · exact absurd rfl (unsigned '-' (.inl rfl))
    · exact absurd rfl (unsigned '+' (.inr rfl))
    · rfl

theorem power_append {value : Option Int} {left : List Char} (delimited : Delimited rest)
    (h : power chars = .ok (value, left)) :
    power (chars ++ rest) = .ok (value, left ++ rest) := by
  rcases chars with _ | ⟨mark, chars⟩
  · cases h
    cases rest with
    | nil => rfl
    | cons c rest =>
      have other : ¬(c = 'e' || c = 'E') = true := by
        simp only [Delimited, List.mem_cons, List.not_mem_nil, or_false] at delimited
        rcases delimited with rfl | rfl | rfl | rfl <;> decide
      rw [List.nil_append, power, if_neg other]
  · rw [List.cons_append, power]
    rw [power] at h
    split at h
    · rename_i marked
      rw [if_pos marked, sign_append chars delimited]
      generalize sign chars = signed at h ⊢
      obtain ⟨negative, _ | ⟨c, others⟩⟩ := signed
      · cases h
      · simp only at h ⊢
        rw [span_append (c :: others) delimited, List.cons_append]
        generalize (c :: others).span Char.isDigit = cut at h ⊢
        obtain ⟨_ | ⟨d, taken⟩, behind⟩ := cut
        · cases h
        · cases h
          rfl
    · rename_i unmarked
      rw [if_neg unmarked]
      cases h
      rfl

/-- The sign before a number. -/
def minus : List Char → Bool × List Char
  | '-' :: rest => (true, rest)
  | rest => (false, rest)

theorem minus_append (chars : List Char) (delimited : Delimited rest) :
    minus (chars ++ rest) = ((minus chars).1, (minus chars).2 ++ rest) := by
  cases chars with
  | cons c chars =>
    rw [List.cons_append, minus.eq_def, minus.eq_def]
    split <;> simp_all
  | nil =>
    rw [List.nil_append, minus.eq_def]
    split
    · exact absurd (delimited.of_head? rfl) (by decide)
    · rfl

theorem scan_eq_ok {value : Option Json} {left : List Char} : scan chars = .ok (value, left) ↔
    ∃ w a f b p, whole (minus chars).2 = .ok (w, a) ∧ fraction a = .ok (f, b) ∧
      power b = .ok (p, left) ∧ value = value? (minus chars).1 w f p := by
  have steps : scan chars = (do
    let w ← whole (minus chars).2
    let f ← fraction w.2
    let p ← power f.2
    return (value? (minus chars).1 w.1 f.1 p.1, p.2)) := rfl
  rw [steps]
  constructor
  · intro h
    obtain ⟨⟨w, a⟩, hw, h⟩ := bind_eq_ok.1 h
    obtain ⟨⟨f, b⟩, hf, h⟩ := bind_eq_ok.1 h
    obtain ⟨⟨p, left⟩, hp, h⟩ := bind_eq_ok.1 h
    cases h
    exact ⟨w, a, f, b, p, hw, hf, hp, rfl⟩
  · rintro ⟨w, a, f, b, p, hw, hf, hp, rfl⟩
    exact bind_eq_ok.2 ⟨_, hw, bind_eq_ok.2 ⟨_, hf, bind_eq_ok.2 ⟨_, hp, rfl⟩⟩⟩

/-- A number is read as it is alone, if no number goes on behind it. -/
theorem scan_append {value : Option Json} {left : List Char} (delimited : Delimited rest)
    (h : scan chars = .ok (value, left)) :
    scan (chars ++ rest) = .ok (value, left ++ rest) := by
  obtain ⟨w, a, f, b, p, hw, hf, hp, rfl⟩ := scan_eq_ok.1 h
  rw [scan_eq_ok, minus_append chars delimited]
  exact ⟨w, _, f, _, p, whole_append delimited hw, fraction_append delimited hf,
    power_append delimited hp, rfl⟩

theorem head?_toDigits {n : Nat} (positive : 0 < n) : (Nat.toDigits 10 n).head? ≠ some '0' := by
  induction n using Nat.strongRecOn with
  | ind n ih =>
    rw [Nat.toDigits_eq_if (by decide)]
    split
    · have digits : ∀ n < 10, 0 < n → Nat.digitChar n ≠ '0' := by decide
      rename_i small
      simpa using digits n small positive
    · rw [List.head?_append_of_ne_nil _ Nat.toDigits_ne_nil]
      exact ih (n / 10) (by omega) (by omega)

theorem whole_toDigits (n : Nat) : whole (Nat.toDigits 10 n) = .ok (Nat.toDigits 10 n, []) := by
  rcases Nat.eq_zero_or_pos n with rfl | positive
  · rfl
  cases digits : Nat.toDigits 10 n with
  | nil => exact absurd digits Nat.toDigits_ne_nil
  | cons c rest =>
    have digit (d : Char) (mem : d ∈ c :: rest) : d.isDigit = true :=
      Decimal.isDigit_of_mem_toDigits (digits ▸ mem)
    have notZero : c ≠ '0' := by
      have head := head?_toDigits positive
      rw [digits] at head
      simpa using head
    rw [whole, if_pos (digit c List.mem_cons_self)]
    · have all : ((c :: rest) ++ []).span Char.isDigit = (c :: rest, []) :=
        Decimal.span_digits digit nofun
      rw [List.append_nil] at all
      rw [all]
    · intro eq
      exact absurd eq notZero

theorem minus_toDigits (n : Nat) : minus (Nat.toDigits 10 n) = (false, Nat.toDigits 10 n) := by
  rw [minus.eq_def]
  split
  · rename_i rest eq
    have digit : '-'.isDigit = true :=
      Decimal.isDigit_of_mem_toDigits (eq ▸ List.mem_cons_self : '-' ∈ Nat.toDigits 10 n)
    exact absurd digit (by decide)
  · rfl

/-- A whole number of 64 bits is read as it is written. -/
theorem scan_integer {n : Int} (low : -wordSize 63 ≤ n) (high : n < wordSize 64) :
    scan (NumberLayout.integer n) = .ok (some (.integer n), []) := by
  rw [scan_eq_ok, NumberLayout.integer]
  split
  · rename_i negative
    refine ⟨_, [], [], [], none, whole_toDigits _, rfl, rfl, ?_⟩
    have digits : ((-n).toNat : Int) = -n := Int.toNat_of_nonneg (by omega)
    have notZero : (-n).toNat ≠ 0 := by omega
    simp [value?, minus, Decimal.ofDigits_toDigits, digits, notZero, low, high]
  · refine ⟨Nat.toDigits 10 n.toNat, [], [], [], none, ?_, rfl, rfl, ?_⟩
    · rw [minus_toDigits]
      exact whole_toDigits _
    · have digits : (n.toNat : Int) = n := Int.toNat_of_nonneg (by omega)
      simp [value?, minus_toDigits, Decimal.ofDigits_toDigits, digits, low, high]

end Numeral

/-! ## texts -/

theorem scanText_escapeChar (c : Char) (read : List Char) (rest : List Char) :
    scanText .plain ⟨read, none, none⟩ (escapeChar c ++ rest) =
      scanText .plain ⟨c :: read, none, none⟩ rest := by
  have letters : ∀ p ∈ escapedByLetter, p.2 ≠ 'u' ∧ simpleEscape? p.2 = some p.1 := by
    decide +kernel
  have digits : ∀ n < 16, Text.hexDigit? (Nat.digitChar n) = some n := by decide
  rcases escapeChar_cases c with ⟨letter, mem, eq⟩ | ⟨eq, quote, backslash, high⟩ | ⟨low, eq⟩ <;>
    rw [eq]
  · obtain ⟨ne, escape⟩ := letters _ mem
    simp [scanText, ne, escape, TextProgress.endPair, TextProgress.add]
  · simp [scanText, quote, backslash, high, TextProgress.endPair, TextProgress.add]
  · have zero : Text.hexDigit? '0' = some 0 := rfl
    have quotient := digits (c.toNat / 16) (by omega)
    have remainder := digits (c.toNat % 16) (by omega)
    have unit : 16 * (c.toNat / 16) + c.toNat % 16 = c.toNat := Nat.div_add_mod ..
    have whole : ¬TextProgress.isHigh c.toNat = true ∧ ¬TextProgress.isLow c.toNat = true := by
      simp only [TextProgress.isHigh, TextProgress.isLow, Bool.and_eq_true, decide_eq_true_eq]
      omega
    simp [scanText, zero, quotient, remainder, unit, TextProgress.addUnit, TextProgress.add, whole]

theorem scanText_written (value : String) (rest : List Char) :
    scanText .plain {} (value.toList.flatMap escapeChar ++ '"' :: rest) =
      .ok (.ok value, rest) := by
  have go (chars read : List Char) :
      scanText .plain ⟨read, none, none⟩ (chars.flatMap escapeChar ++ '"' :: rest) =
        .ok (.ok (String.ofList (read.reverse ++ chars)), rest) := by
    induction chars generalizing read with
    | nil => simp [scanText, TextProgress.endPair, TextProgress.value]
    | cons c chars ih =>
      rw [List.flatMap_cons, List.append_assoc, scanText_escapeChar, ih]
      simp
  simpa using go value.toList []

end AnalyticsGateway.Json
