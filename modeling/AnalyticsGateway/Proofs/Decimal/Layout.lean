import AnalyticsGateway.Decimal.Layout
import AnalyticsGateway.Decimal.Reader
import AnalyticsGateway.Proofs.Decimal.Shortest

/-!
# Written numbers read back

Whatever the layout, the digits, point and exponent that a decimal is written with stand for its
value (`value_decimal`), so a machine number is told by its written form (`write_inj`).
-/

namespace AnalyticsGateway

/-! ## where the point stands -/

/-- The point comes after the digits and zeros, between digits, or before zeros and the digits. -/
theorem NumberLayout.withPoint_cases (layout : NumberLayout) (digits : List Char) (whole : ℤ) :
    (∃ count : ℕ, whole = digits.length + count ∧ layout.withPoint digits whole =
      digits ++ zeros count ++ if layout.pointed then ['.', '0'] else []) ∨
    (∃ pre post, pre ≠ [] ∧ digits = pre ++ post ∧ whole = pre.length ∧
      layout.withPoint digits whole = pre ++ '.' :: post) ∨
    ∃ count : ℕ, whole = -count ∧
      layout.withPoint digits whole = '0' :: '.' :: (zeros count ++ digits) := by
  rcases le_or_gt (digits.length : ℤ) whole with long | short
  · obtain ⟨count, hcount⟩ := Int.eq_ofNat_of_zero_le (Int.sub_nonneg_of_le long)
    refine .inl ⟨count, by omega, ?_⟩
    simp only [withPoint, if_pos long, hcount, Int.toNat_natCast]
  · rcases lt_or_ge 0 whole with positive | nonpos
    · obtain ⟨count, rfl⟩ := Int.eq_ofNat_of_zero_le positive.le
      have length : (digits.take count).length = count := by
        rw [List.length_take]
        omega
      refine .inr (.inl ⟨digits.take count, digits.drop count, fun none => ?_,
        (List.take_append_drop count digits).symm, by rw [length], ?_⟩)
      · rw [none, List.length_nil] at length
        omega
      · simp only [withPoint, if_neg (not_le.2 short), if_pos positive, Int.toNat_natCast]
    · obtain ⟨count, hcount⟩ := Int.eq_ofNat_of_zero_le (Int.neg_nonneg_of_nonpos nonpos)
      refine .inr (.inr ⟨count, by omega, ?_⟩)
      simp only [withPoint, if_neg (not_le.2 short), if_neg (not_lt.2 nonpos), hcount,
        Int.toNat_natCast, List.cons_append]

namespace Decimal

/-! ## runs of digits -/

theorem span_digits {digits rest : List Char} (h : ∀ c ∈ digits, c.isDigit = true)
    (hr : ∀ c ∈ rest.head?, c.isDigit = false) :
    (digits ++ rest).span Char.isDigit = (digits, rest) := by
  rw [List.span_eq_takeWhile_dropWhile, List.takeWhile_append_of_pos h,
    List.dropWhile_append_of_pos h]
  cases rest with
  | nil => simp
  | cons c rest => simp [hr c rfl]

theorem ofDigits_append (value : Nat) (as bs : List Char) :
    ofDigits value (as ++ bs) = ofDigits (ofDigits value as) bs := List.foldl_append

theorem ofDigits_zeros (value n : Nat) :
    ofDigits value (NumberLayout.zeros n) = value * 10 ^ n := by
  induction n generalizing value with
  | zero => simp [NumberLayout.zeros, ofDigits]
  | succ n ih =>
    rw [NumberLayout.zeros, List.replicate_succ]
    change ofDigits (10 * value + 0) (NumberLayout.zeros n) = _
    rw [ih, Nat.pow_succ]
    ring

theorem ofDigits_toDigits (n : Nat) : ofDigits 0 (Nat.toDigits 10 n) = n :=
  Nat.ofDigitChars_ten_toDigits

theorem isDigit_of_mem_toDigits {c : Char} {n : Nat} (h : c ∈ Nat.toDigits 10 n) :
    c.isDigit = true :=
  Nat.isDigit_of_mem_toDigits (by decide) (by decide) h

theorem isDigit_of_mem_zeros {c : Char} {n : Nat} (h : c ∈ NumberLayout.zeros n) :
    c.isDigit = true := by
  rw [List.eq_of_mem_replicate h]
  rfl

theorem natural?_toDigits (n : Nat) : natural? (Nat.toDigits 10 n) = some n := by
  have digits : (Nat.toDigits 10 n).all Char.isDigit = true :=
    List.all_eq_true.2 fun c hc => isDigit_of_mem_toDigits hc
  simp [natural?, digits, Nat.toDigits_ne_nil, ofDigits_toDigits]

theorem signOf_digits {digits : List Char} (h : ∀ c ∈ digits, c.isDigit = true) :
    signOf digits = (false, digits) := by
  unfold signOf
  split
  · exact absurd (h '-' List.mem_cons_self) (by decide)
  · exact absurd (h '+' List.mem_cons_self) (by decide)
  · rfl

theorem power?_exponent (layout : NumberLayout) (n : ℤ) :
    power? ('e' :: layout.exponent n) = some n := by
  have digits (n : Nat) : ∀ c ∈ Nat.toDigits 10 n, c.isDigit = true :=
    fun _ hc => isDigit_of_mem_toDigits hc
  unfold NumberLayout.exponent NumberLayout.integer power?
  by_cases neg : n < 0
  · have sign : (layout.signed && decide (0 < n)) = false := by simp; omega
    simp only [sign, neg, if_true, Bool.false_eq_true, if_false, signOf, natural?_toDigits]
    simp [guard]
    omega
  · simp only [neg, if_false]
    split
    · simp [guard, signOf, natural?_toDigits]
      omega
    · simp [guard, signOf_digits (digits _), natural?_toDigits]
      omega

/-! ## reading what was laid out -/

theorem unsigned?_whole (whole tail : List Char) {exponent : ℤ}
    (digits : ∀ c ∈ whole, c.isDigit = true) (ne : whole ≠ [])
    (ends : ∀ c ∈ tail.head?, c.isDigit = false ∧ c ≠ '.') (power : power? tail = some exponent) :
    unsigned? (whole ++ tail) = some ⟨ofDigits 0 whole, exponent⟩ := by
  unfold unsigned?
  rw [span_digits digits fun c hc => (ends c hc).1]
  simp only
  split
  · rename_i rest
    exact absurd rfl (ends '.' rfl).2
  · simp [guard, ne, power]

theorem unsigned?_point (whole fraction tail : List Char) {exponent : ℤ}
    (digits : ∀ c ∈ whole, c.isDigit = true) (ne : whole ≠ [])
    (digits' : ∀ c ∈ fraction, c.isDigit = true) (ends : ∀ c ∈ tail.head?, c.isDigit = false)
    (power : power? tail = some exponent) :
    unsigned? (whole ++ '.' :: (fraction ++ tail)) =
      some ⟨ofDigits 0 (whole ++ fraction), exponent - fraction.length⟩ := by
  unfold unsigned?
  rw [span_digits digits (by simp)]
  simp only
  rw [span_digits digits' ends]
  simp [guard, ne, power]

/-- Laying out digits with a point keeps their value. -/
theorem unsigned?_withPoint (layout : NumberLayout) (digits : List Char) (whole : ℤ)
    (h : ∀ c ∈ digits, c.isDigit = true) (ne : digits ≠ []) :
    ∃ d, unsigned? (layout.withPoint digits whole) = some d ∧
      d.value = ofDigits 0 digits * 10 ^ (whole - digits.length) := by
  have zero (n : ℕ) : ∀ c ∈ NumberLayout.zeros n, c.isDigit = true :=
    fun _ hc => isDigit_of_mem_zeros hc
  rcases layout.withPoint_cases digits whole with
    ⟨count, rfl, eq⟩ | ⟨pre, post, nonempty, rfl, rfl, eq⟩ | ⟨count, rfl, eq⟩ <;> rw [eq]
  · have padded : ∀ c ∈ digits ++ NumberLayout.zeros count, c.isDigit = true :=
      List.forall_mem_append.2 ⟨h, zero count⟩
    cases layout.pointed
    · refine ⟨_, unsigned?_whole _ [] padded (by simp [ne]) (by simp) rfl, ?_⟩
      simp [value, ofDigits_append, ofDigits_zeros]
    · refine ⟨_, unsigned?_point _ ['0'] [] padded (by simp [ne])
        (by simp) (by simp) rfl, ?_⟩
      rw [value, ofDigits_append, ofDigits_append, ofDigits_zeros]
      simp [ofDigits]
      ring
  · obtain ⟨wholes, fractions⟩ := List.forall_mem_append.1 h
    refine ⟨_, List.append_nil post ▸ unsigned?_point _ _ [] wholes nonempty fractions
      (by simp) rfl, ?_⟩
    rw [value, List.length_append]
    congr 2
    push_cast
    omega
  · refine ⟨_, List.append_nil (NumberLayout.zeros _ ++ digits) ▸ unsigned?_point ['0'] _ []
      (by simp) (by simp) (List.forall_mem_append.2 ⟨zero count, h⟩) (by simp) rfl, ?_⟩
    have leading : ofDigits 0 ['0'] = 0 := rfl
    rw [value, ofDigits_append, ofDigits_append, ofDigits_zeros, leading, Nat.zero_mul,
      List.length_append, NumberLayout.zeros, List.length_replicate]
    congr 2
    push_cast
    omega

theorem unsigned?_scientific (layout : NumberLayout) {digits : List Char} (leading : ℤ)
    (h : ∀ c ∈ digits, c.isDigit = true) (ne : digits ≠ []) :
    ∃ d, unsigned? (layout.scientific digits leading) = some d ∧
      d.value = ofDigits 0 digits * 10 ^ (leading + 1 - digits.length) := by
  have ends : ∀ c ∈ ('e' :: layout.exponent leading).head?, c.isDigit = false ∧ c ≠ '.' := by
    simp
  unfold NumberLayout.scientific
  split
  · exact absurd rfl ne
  · rename_i d
    refine ⟨_, unsigned?_whole [d] _ h (by simp) ends (power?_exponent ..), ?_⟩
    simp [value]
  · rename_i d rest _
    refine ⟨_, unsigned?_point [d] _ _ (by simpa using h d List.mem_cons_self) (by simp)
      (fun c hc => h c (List.mem_cons_of_mem _ hc)) (fun c hc => (ends c hc).1)
      (power?_exponent ..), ?_⟩
    rw [value, List.singleton_append, List.length_cons]
    congr 2
    push_cast
    omega

/-- A decimal that is written reads back with its value. -/
theorem value_decimal (layout : NumberLayout) (d : Decimal) :
    ∃ d', unsigned? (layout.decimal d) = some d' ∧ d'.value = d.value := by
  have digits : ∀ c ∈ Nat.toDigits 10 d.digits, c.isDigit = true :=
    fun _ hc => isDigit_of_mem_toDigits hc
  unfold NumberLayout.decimal
  simp only
  split
  · obtain ⟨d', read, same⟩ := unsigned?_withPoint layout _
      (d.exponent + (Nat.toDigits 10 d.digits).length) digits Nat.toDigits_ne_nil
    refine ⟨d', read, same.trans ?_⟩
    rw [ofDigits_toDigits, Int.add_sub_cancel]
    rfl
  · obtain ⟨d', read, same⟩ := unsigned?_scientific layout
      (d.exponent + (Nat.toDigits 10 d.digits).length - 1) digits Nat.toDigits_ne_nil
    refine ⟨d', read, same.trans ?_⟩
    rw [ofDigits_toDigits, Int.sub_add_cancel, Int.add_sub_cancel]
    rfl

end Decimal

/-! ## machine numbers -/

open MachineNumber

namespace BinaryFraction

theorem value_shortest_pos {x : BinaryFraction} (h : 0 < x.significand) :
    0 < x.shortest.value := by
  have low : 0 < x.lowEnd := by
    have : (1 : ℚ) ≤ x.significand := by exact_mod_cast h
    refine mul_pos ?_ x.step_pos
    split <;> linarith
  exact lt_of_lt_of_le low (covers_shortest h).1

end BinaryFraction

namespace NumberLayout

variable (layout : NumberLayout)

/-- The written form without the sign of a number. -/
def magnitude (x : Float) : List Char :=
  if x.isInf then ['i', 'n', 'f']
  else if x == 0 then layout.withPoint ['0'] 1
  else layout.decimal (BinaryFraction.ofFloat x).shortest

theorem toList_write {x : Float} (h : x.isNaN = false) :
    (layout.write x).toList = (if sign x = 1 then ['-'] else []) ++ layout.magnitude x := by
  have minus : hasMinusSign x = decide (sign x = 1) := rfl
  have number : ¬x.isNaN = true := by simp only [h, Bool.false_eq_true, not_false_eq_true]
  simp only [write, if_neg number, minus, decide_eq_true_eq, String.toList_ofList, magnitude]

/-- The value of a finite number without its sign. -/
def absolute (x : Float) : ℚ := if x == 0 then 0 else (BinaryFraction.ofFloat x).shortest.value

theorem unsigned?_magnitude {x : Float} (h : x.isInf = false) :
    ∃ d, Decimal.unsigned? (layout.magnitude x) = some d ∧ d.value = absolute x := by
  unfold magnitude absolute
  rw [h, if_neg (by simp)]
  split
  · obtain ⟨d, read, same⟩ := Decimal.unsigned?_withPoint layout ['0'] 1 (by simp)
      (by simp)
    exact ⟨d, read, same.trans (by simp [Decimal.ofDigits])⟩
  · exact Decimal.value_decimal layout _

/-- Finite numbers of one sign are told by their values. -/
theorem eq_of_absolute {x y : Float} (hs : sign x = sign y) (h : absolute x = absolute y) :
    x = y := by
  have positive {x : Float} (h : ¬(x == 0) = true) :
      0 < (BinaryFraction.ofFloat x).shortest.value :=
    BinaryFraction.value_shortest_pos
      (BinaryFraction.isCanonical_ofFloat fun he hf => h (beq_zero_iff.2 ⟨he, hf⟩)).pos
  unfold absolute at h
  split at h <;> split at h
  · rename_i zx zy
    obtain ⟨ex, fx⟩ := beq_zero_iff.1 zx
    obtain ⟨ey, fy⟩ := beq_zero_iff.1 zy
    exact eq_of_fields hs (ex.trans ey.symm) (fx.trans fy.symm)
  · rename_i zy
    exact absurd h (positive zy).ne
  · rename_i zx _
    exact absurd h (positive zx).ne'
  · rename_i zx zy
    exact BinaryFraction.eq_of_shortest_value hs (fun he hf => zx (beq_zero_iff.2 ⟨he, hf⟩))
      (fun he hf => zy (beq_zero_iff.2 ⟨he, hf⟩)) h

theorem unsigned?_letter {c : Char} {rest : List Char} (h : c.isDigit = false) (h' : c ≠ '.') :
    Decimal.unsigned? (c :: rest) = none := by
  simp [Decimal.unsigned?, List.span_eq_takeWhile_dropWhile, h, h', guard]

theorem head?_magnitude {x : Float} {c : Char} {rest : List Char}
    (h : layout.magnitude x = c :: rest) : c = 'i' ∨ c.isDigit = true ∨ c = '.' := by
  cases inf : x.isInf with
  | true =>
    rw [magnitude, inf, if_pos rfl] at h
    exact .inl (List.cons.inj h).1.symm
  | false =>
    obtain ⟨d, read, _⟩ := layout.unsigned?_magnitude inf
    refine Classical.byContradiction fun other => ?_
    simp only [not_or, Bool.not_eq_true] at other
    rw [h, unsigned?_letter other.2.1 other.2.2] at read
    cases read

theorem eq_of_magnitude {x y : Float} (hs : sign x = sign y)
    (h : layout.magnitude x = layout.magnitude y) : x = y := by
  have infinite {x : Float} (h : x.isInf = true) :
      Decimal.unsigned? (layout.magnitude x) = none := by
    rw [magnitude, if_pos h]
    exact unsigned?_letter (by decide) (by decide)
  cases ix : x.isInf with
  | true => cases iy : y.isInf with
    | true =>
      obtain ⟨ex, fx⟩ := isInf_iff.1 ix
      obtain ⟨ey, fy⟩ := isInf_iff.1 iy
      exact eq_of_fields hs (ex.trans ey.symm) (fx.trans fy.symm)
    | false =>
      obtain ⟨d, read, _⟩ := layout.unsigned?_magnitude iy
      rw [← h, infinite ix] at read
      cases read
  | false => cases iy : y.isInf with
    | true =>
      obtain ⟨d, read, _⟩ := layout.unsigned?_magnitude ix
      rw [h, infinite iy] at read
      cases read
    | false =>
      obtain ⟨d, read, value⟩ := layout.unsigned?_magnitude ix
      obtain ⟨d', read', value'⟩ := layout.unsigned?_magnitude iy
      rw [h, read'] at read
      cases read
      exact eq_of_absolute hs (value.symm.trans value')

theorem write_ne_nan {x : Float} (h : x.isNaN = false) : layout.write x ≠ "NaN" := by
  intro nan
  have chars : _ = ['N', 'a', 'N'] := congrArg String.toList nan
  rw [layout.toList_write h] at chars
  split at chars
  · cases chars
  · rcases layout.head?_magnitude chars with head | head | head <;> cases head

/-- The written form of a machine number tells it from all others. -/
theorem write_inj {x y : Float} (h : layout.write x = layout.write y) : x = y := by
  have nan {x : Float} (h : x.isNaN = true) : layout.write x = "NaN" := if_pos h
  have unsigned {x y : Float} : '-' :: layout.magnitude x ≠ layout.magnitude y := by
    intro h
    rcases layout.head?_magnitude h.symm with head | head | head <;> cases head
  cases nx : x.isNaN with
  | true => cases ny : y.isNaN with
    | true =>
      rw [Float.isNaN_eq_decide_eq_nan, decide_eq_true_eq] at nx ny
      exact nx.trans ny.symm
    | false => exact absurd (h.symm.trans (nan nx)) (layout.write_ne_nan ny)
  | false => cases ny : y.isNaN with
    | true => exact absurd (h.trans (nan ny)) (layout.write_ne_nan nx)
    | false =>
      have chars := congrArg String.toList h
      rw [layout.toList_write nx, layout.toList_write ny] at chars
      have := sign_le_one x
      have := sign_le_one y
      split at chars <;> split at chars
      · exact layout.eq_of_magnitude (by omega) (List.cons.inj chars).2
      · exact absurd chars unsigned
      · exact absurd chars.symm unsigned
      · exact layout.eq_of_magnitude (by omega) chars

/-- Whole numbers are told by their digits and sign. -/
theorem integer_inj {m n : ℤ} (h : integer m = integer n) : m = n := by
  have read (n : ℤ) : Decimal.power? ('e' :: integer n) = some n := by
    simpa [exponent, plain] using Decimal.power?_exponent plain n
  exact Option.some.inj ((read m).symm.trans (h ▸ read n))

/-- An integer is written as its decimal text. -/
theorem integer_eq (n : ℤ) : integer n = (toString n).toList := by
  cases n with
  | ofNat k =>
    have positive : ¬Int.ofNat k < 0 := Int.not_lt.2 (Int.natCast_nonneg k)
    rw [integer, if_neg positive]
    exact String.toList_ofList.symm
  | negSucc k =>
    have text : (toString (Int.negSucc k)).toList = '-' :: Nat.toDigits 10 (k + 1) := by
      change ("-" ++ String.ofList (Nat.toDigits 10 (k + 1))).toList = _
      rw [String.toList_append]
      exact congrArg ('-' :: ·) String.toList_ofList
    rw [integer, if_pos (Int.negSucc_lt_zero k), text]
    rfl

/-! ## the characters of numbers -/

/-- A digit, a letter, a sign or a point. -/
def IsNumeral (c : Char) : Prop := c.isAlphanum = true ∨ c ∈ ['+', '-', '.']

theorem isNumeral_of_isDigit {c : Char} (h : c.isDigit = true) : IsNumeral c := by
  simp [IsNumeral, Char.isAlphanum, h]

theorem isNumeral_integer (n : ℤ) : ∀ c ∈ integer n, IsNumeral c := by
  have digits (n : ℕ) : ∀ c ∈ Nat.toDigits 10 n, IsNumeral c :=
    fun c hc => isNumeral_of_isDigit (Decimal.isDigit_of_mem_toDigits hc)
  unfold integer
  split
  · exact List.forall_mem_cons.2 ⟨by simp [IsNumeral], digits _⟩
  · exact digits _

theorem integer_ne_nil (n : ℤ) : integer n ≠ [] := by
  unfold integer
  split <;> simp [Nat.toDigits_ne_nil]

theorem isNumeral_exponent (n : ℤ) : ∀ c ∈ layout.exponent n, IsNumeral c := by
  unfold exponent
  split
  · exact List.forall_mem_cons.2 ⟨by simp [IsNumeral], isNumeral_integer n⟩
  · exact isNumeral_integer n

theorem mem_withPoint {digits : List Char} (whole : ℤ)
    (h : ∀ c ∈ digits, c.isDigit = true) :
    ∀ c ∈ layout.withPoint digits whole, c.isDigit = true ∨ c = '.' := by
  have digit {digits : List Char} (h : ∀ c ∈ digits, c.isDigit = true) :
      ∀ c ∈ digits, c.isDigit = true ∨ c = '.' := fun c hc => .inl (h c hc)
  have zero (n : ℕ) : ∀ c ∈ zeros n, c.isDigit = true ∨ c = '.' :=
    digit fun _ hc => Decimal.isDigit_of_mem_zeros hc
  rcases layout.withPoint_cases digits whole with
    ⟨count, -, eq⟩ | ⟨pre, post, -, rfl, -, eq⟩ | ⟨count, -, eq⟩ <;>
      simp only [eq, List.forall_mem_append, List.forall_mem_cons]
  · refine ⟨⟨digit h, zero count⟩, ?_⟩
    split <;> simp
  · obtain ⟨wholes, fractions⟩ := List.forall_mem_append.1 h
    exact ⟨digit wholes, .inr trivial, digit fractions⟩
  · exact ⟨.inl rfl, .inr trivial, zero count, digit h⟩

/-- No number begins with its point. -/
theorem head?_withPoint {digits : List Char} (whole : ℤ) (ne : digits ≠ [])
    (h : ∀ c ∈ digits, c.isDigit = true) :
    ∃ c, (layout.withPoint digits whole).head? = some c ∧ c.isDigit = true := by
  rcases layout.withPoint_cases digits whole with
    ⟨count, -, eq⟩ | ⟨pre, post, nonempty, rfl, -, eq⟩ | ⟨count, -, eq⟩ <;> rw [eq]
  · obtain ⟨c, rest, rfl⟩ := List.exists_cons_of_ne_nil ne
    exact ⟨c, rfl, h c List.mem_cons_self⟩
  · obtain ⟨c, rest, rfl⟩ := List.exists_cons_of_ne_nil nonempty
    exact ⟨c, rfl, h c List.mem_cons_self⟩
  · exact ⟨'0', rfl, rfl⟩

theorem isNumeral_withPoint {digits : List Char} (whole : ℤ)
    (h : ∀ c ∈ digits, c.isDigit = true) :
    ∀ c ∈ layout.withPoint digits whole, IsNumeral c := by
  intro c hc
  rcases layout.mem_withPoint whole h c hc with digit | rfl
  · exact isNumeral_of_isDigit digit
  · simp [IsNumeral]

theorem isNumeral_scientific {digits : List Char} (leading : ℤ)
    (h : ∀ c ∈ digits, c.isDigit = true) :
    ∀ c ∈ layout.scientific digits leading, IsNumeral c := by
  have e : IsNumeral 'e' := by simp [IsNumeral]
  unfold scientific
  split
  · intro c hc
    cases hc
  · refine List.forall_mem_cons.2 ⟨isNumeral_of_isDigit (h _ List.mem_cons_self), ?_⟩
    exact List.forall_mem_cons.2 ⟨e, layout.isNumeral_exponent leading⟩
  · refine List.forall_mem_cons.2 ⟨isNumeral_of_isDigit (h _ List.mem_cons_self), ?_⟩
    refine List.forall_mem_cons.2 ⟨by simp [IsNumeral], fun c hc => ?_⟩
    rcases List.mem_append.1 hc with hc | hc
    · exact isNumeral_of_isDigit (h c (List.mem_cons_of_mem _ hc))
    · exact List.forall_mem_cons.2 ⟨e, layout.isNumeral_exponent leading⟩ c hc

/-- A number is written with digits, letters, signs and a point. -/
theorem isNumeral_write (x : Float) : ∀ c ∈ (layout.write x).toList, IsNumeral c := by
  have letters {word : List Char} (h : word.all Char.isAlphanum = true) :
      ∀ c ∈ word, IsNumeral c := fun c hc => .inl (List.all_eq_true.1 h c hc)
  cases nan : x.isNaN with
  | true =>
    rw [write, if_pos nan]
    exact letters rfl
  | false =>
    rw [layout.toList_write nan]
    intro c hc
    rcases List.mem_append.1 hc with hc | hc
    · split at hc
      · rw [List.mem_singleton.1 hc]
        simp [IsNumeral]
      · cases hc
    · unfold magnitude decimal at hc
      have digits (n : ℕ) : ∀ c ∈ Nat.toDigits 10 n, c.isDigit = true :=
        fun _ hc => Decimal.isDigit_of_mem_toDigits hc
      split at hc
      · exact letters rfl c hc
      · split at hc
        · exact layout.isNumeral_withPoint 1 (by simp) c hc
        · simp only at hc
          split at hc
          · exact layout.isNumeral_withPoint _ (digits _) c hc
          · exact layout.isNumeral_scientific _ (digits _) c hc

theorem write_ne_empty (x : Float) : (layout.write x).toList ≠ [] := by
  cases nan : x.isNaN with
  | true =>
    rw [write, if_pos nan]
    simp
  | false =>
    rw [layout.toList_write nan]
    intro empty
    have empty := (List.append_eq_nil_iff.1 empty).2
    cases inf : x.isInf with
    | true => simp [magnitude, inf] at empty
    | false =>
      obtain ⟨d, read, -⟩ := layout.unsigned?_magnitude inf
      rw [empty] at read
      simp [Decimal.unsigned?, guard] at read

/-- A number that is written without an exponent: a digit, and digits and a point after it. -/
theorem plain_magnitude (x : Float) :
    plain.magnitude x = ['i', 'n', 'f'] ∨ ∃ c rest, plain.magnitude x = c :: rest ∧
      c.isDigit = true ∧ ∀ y ∈ rest, y.isDigit = true ∨ y = '.' := by
  have pointed {digits : List Char} (whole : ℤ) (ne : digits ≠ [])
      (h : ∀ c ∈ digits, c.isDigit = true) : ∃ c rest, plain.withPoint digits whole = c :: rest ∧
        c.isDigit = true ∧ ∀ y ∈ rest, y.isDigit = true ∨ y = '.' := by
    obtain ⟨c, head, digit⟩ := plain.head?_withPoint whole ne h
    obtain ⟨rest, eq⟩ := List.head?_eq_some_iff.1 head
    refine ⟨c, rest, eq, digit, fun y hy => plain.mem_withPoint whole h y ?_⟩
    rw [eq]
    exact List.mem_cons_of_mem _ hy
  unfold magnitude
  split
  · exact .inl rfl
  · right
    split
    · exact pointed 1 (by simp) (by simp)
    · exact pointed _ Nat.toDigits_ne_nil fun _ => Decimal.isDigit_of_mem_toDigits

end NumberLayout

end AnalyticsGateway
