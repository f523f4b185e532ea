import AnalyticsGateway.Calendar
import AnalyticsGateway.Proofs.Decimal.Layout

/-!
# Written moments are read back

Within the years that have a number, a moment is told by its text (`ofText?_text`): the date of a
day has that day's number (`toDays_ofDays`), and each number of the text is read as it is written.
-/

namespace AnalyticsGateway

namespace Date

/-! ## the date of a day -/

theorem daysBeforeYear_succ (year : Int) :
    daysBeforeYear (year + 1) = daysBeforeYear year + (monthLengths year).sum := by
  have days : ((monthLengths year).sum : Int) = if isLeap year then 366 else 365 := by
    cases h : isLeap year <;> simp [monthLengths, h]
  rw [days]
  simp only [daysBeforeYear, isLeap, decide_eq_true_eq]
  split <;> omega

theorem daysBeforeYear_mono {a b : Int} (h : a ≤ b) : daysBeforeYear a ≤ daysBeforeYear b := by
  simp only [daysBeforeYear]
  omega

/-- The day is in the year. -/
theorem yearOfDays_bounds (days : Int) :
    daysBeforeYear (yearOfDays days) ≤ days ∧ days < daysBeforeYear (yearOfDays days + 1) := by
  unfold yearOfDays
  simp only
  split
  · simp only [daysBeforeYear] at *
    omega
  · split <;> simp only [daysBeforeYear] at * <;> omega

/-- The month and the day in it have been counted off the days. -/
theorem monthAndDay_spec {day : Nat} {lengths : List Nat} (h : day < lengths.sum) :
    ∃ month length : Nat,
      monthAndDay day lengths = (month + 1, day - (lengths.take month).sum + 1) ∧
      (lengths.take month).sum ≤ day ∧ lengths[month]? = some length ∧
      day < (lengths.take month).sum + length := by
  induction lengths generalizing day with
  | nil => cases h
  | cons length rest ih =>
    rw [List.sum_cons] at h
    by_cases first : day < length
    · refine ⟨0, length, ?_, Nat.zero_le day, rfl, ?_⟩
      · rw [monthAndDay, if_pos first]
        rfl
      · simpa using first
    · obtain ⟨month, length', eq, le, found, lt⟩ := ih (show day - length < rest.sum by omega)
      refine ⟨month + 1, length', ?_, ?_, found, ?_⟩
      · rw [monthAndDay, if_neg first, eq]
        simp [Nat.sub_sub]
      all_goals
        rw [List.take_succ_cons, List.sum_cons]
        omega

/-- A date that the calendar has, and whose numbers have as many digits as they are written with. -/
structure IsWritable (d : Date) : Prop where
  valid : d.isValid = true
  month : d.month < 100
  day : d.day < 100

/-- The date of a day has its number, and is in the year of the day. -/
theorem ofDays_spec (days : Int) :
    (ofDays days).toDays = days ∧ (ofDays days).IsWritable ∧
      (ofDays days).year = yearOfDays days := by
  obtain ⟨low, high⟩ := yearOfDays_bounds days
  rw [daysBeforeYear_succ] at high
  obtain ⟨month, length, eq, le, found, lt⟩ := monthAndDay_spec
    (show (days - daysBeforeYear (yearOfDays days)).toNat <
      (monthLengths (yearOfDays days)).sum by omega)
  generalize passed : ((monthLengths (yearOfDays days)).take month).sum = before at eq le lt
  have date : ofDays days = ⟨yearOfDays days, month + 1,
      (days - daysBeforeYear (yearOfDays days)).toNat - before + 1⟩ := by
    rw [ofDays, eq]
  have months : month < 12 := (List.getElem?_eq_some_iff.1 found).1
  have lengths : length ≤ 31 := by
    have mem := List.mem_of_getElem? found
    simp only [monthLengths, List.mem_cons, List.not_mem_nil, or_false] at mem
    split at mem <;> omega
  refine ⟨?_, ⟨?_, ?_, ?_⟩, by rw [date]⟩
  · have sum (l : List Nat) : l.foldl Nat.add 0 = l.sum := List.sum_eq_foldl.symm
    rw [date, toDays, sum, Nat.add_sub_cancel, passed]
    simp only
    push_cast
    omega
  · rw [date, isValid, Nat.add_sub_cancel, found]
    simp only [Option.any_some, decide_eq_true_eq]
    omega
  · rw [date]
    exact Nat.lt_of_lt_of_le (Nat.succ_lt_succ months) (by decide)
  · rw [date]
    simp only
    omega

/-- The years of the days in range are in range. -/
theorem yearOfDays_inRange {days : Int} (h : Calendar.isInRange days = true) :
    Calendar.firstYear ≤ yearOfDays days ∧ yearOfDays days ≤ Calendar.lastYear := by
  obtain ⟨low, high⟩ := yearOfDays_bounds days
  simp only [Calendar.isInRange, Bool.and_eq_true, decide_eq_true_eq] at h
  constructor
  · by_contra before
    have := daysBeforeYear_mono (show yearOfDays days + 1 ≤ Calendar.firstYear by omega)
    omega
  · by_contra after
    have := daysBeforeYear_mono (show Calendar.lastYear + 1 ≤ yearOfDays days by omega)
    omega

end Date

namespace Calendar

/-! ## numbers -/

theorem isBlank_of_isDigit {c : Char} (h : c.isDigit = true) : Text.isBlank c = false := by
  simp only [Char.isDigit, Bool.and_eq_true, decide_eq_true_eq, ge_iff_le,
    UInt32.le_iff_toNat_le] at h
  change '0'.toNat ≤ c.toNat ∧ c.toNat ≤ '9'.toNat at h
  rw [← Bool.not_eq_true, Text.isBlank, Text.CodePointRanges.contains_iff]
  simp only [Text.blankRanges, List.mem_cons, List.not_mem_nil, or_false, not_exists, not_and,
    not_le]
  rintro _ (rfl | rfl | rfl | rfl | rfl | rfl | rfl | rfl | rfl | rfl) low <;>
    simp only [Char.reduceToNat] at h low ⊢ <;> omega

theorem isDigit_padded {width n : Nat} : ∀ c ∈ padded width n, c.isDigit = true := by
  intro c mem
  rcases List.mem_append.1 mem with zero | digit
  · rw [List.eq_of_mem_replicate zero]
    rfl
  · exact Decimal.isDigit_of_mem_toDigits digit

theorem ofDigits_padded (width n : Nat) : Decimal.ofDigits 0 (padded width n) = n := by
  have zeros (count : Nat) : Decimal.ofDigits 0 (List.replicate count '0') = 0 := by
    rw [← NumberLayout.zeros, Decimal.ofDigits_zeros, Nat.zero_mul]
  rw [padded, Decimal.ofDigits_append, zeros, Decimal.ofDigits_toDigits]

theorem padded_ne_nil (width n : Nat) : padded width n ≠ [] := by
  simp [padded, Nat.toDigits_ne_nil]

theorem natural?_padded (width n : Nat) : Decimal.natural? (padded width n) = some n := by
  have digits : (padded width n).all Char.isDigit = true := List.all_eq_true.2 isDigit_padded
  simp [Decimal.natural?, digits, padded_ne_nil, ofDigits_padded]

theorem length_padded {width n : Nat} (positive : 0 < width) (h : n < 10 ^ width) :
    (padded width n).length = width := by
  have digits : (Nat.toDigits 10 n).length ≤ width := Nat.toDigits_length 10 n width positive h
  rw [padded, List.length_append, List.length_replicate]
  omega

theorem trimStart_eq {chars : List Char} (h : ∀ c ∈ chars.head?, Text.isBlank c = false) :
    Text.trimStart chars = chars := by
  cases chars with
  | nil => rfl
  | cons c rest => rw [Text.trimStart, List.dropWhile_cons_of_neg (by simp [h c rfl])]

/-- The first character of a padded number. -/
theorem exists_padded (width n : Nat) (rest : List Char) :
    ∃ c others, padded width n ++ rest = c :: others ∧ c.isDigit = true := by
  obtain ⟨c, others, eq⟩ := List.exists_cons_of_ne_nil (padded_ne_nil width n)
  exact ⟨c, others ++ rest, by rw [eq, List.cons_append],
    isDigit_padded c (eq ▸ List.mem_cons_self)⟩

theorem trimStart_padded (width n : Nat) (rest : List Char) :
    Text.trimStart (padded width n ++ rest) = padded width n ++ rest := by
  obtain ⟨c, others, eq, digit⟩ := exists_padded width n rest
  rw [eq]
  refine trimStart_eq fun d mem => ?_
  cases mem
  exact isBlank_of_isDigit digit

theorem number?_padded {width n : Nat} (positive : 0 < width) (h : n < 10 ^ width)
    (rest : List Char) : number? width (padded width n ++ rest) = some (n, rest) := by
  have length := length_padded positive h
  have read : digits width (padded width n ++ rest) = padded width n := by
    rw [digits, List.take_left' length]
    exact List.takeWhile_eq_self_iff.2 isDigit_padded
  simp [number?, trimStart_padded, read, natural?_padded]

theorem numberAfter?_padded {separator : Char} {width n : Nat}
    (shown : Text.isBlank separator = false) (positive : 0 < width) (h : n < 10 ^ width)
    (rest : List Char) :
    numberAfter? separator width (separator :: (padded width n ++ rest)) = some (n, rest) := by
  rw [numberAfter?, trimStart_eq (by simpa using shown)]
  simp [after?, number?_padded positive h]

/-- A year is read up to its end. -/
theorem year?_yearText (year : Int) {rest : List Char}
    (ends : ∀ c ∈ rest.head?, c.isDigit = false) :
    year? (yearText year ++ rest) = some (year, rest) := by
  have span := Decimal.span_digits (@isDigit_padded 4 year.natAbs) ends
  unfold yearText
  split
  · rw [List.cons_append, year?, trimStart_eq (by simp; rfl)]
    simp only [span, natural?_padded]
    exact congrArg (fun year => some (year, rest)) (show -(year.natAbs : Int) = year by omega)
  · split
    · rw [List.cons_append, year?, trimStart_eq (by simp; rfl)]
      simp only [span, natural?_padded]
      exact congrArg (fun year => some (year, rest)) (show (year.natAbs : Int) = year by omega)
    · have read := number?_padded (show 0 < 4 by decide) (show year.natAbs < 10 ^ 4 by omega) rest
      rw [year?, trimStart_padded]
      obtain ⟨c, others, eq, digit⟩ := exists_padded 4 year.natAbs rest
      rw [eq] at read ⊢
      split
      · rename_i minus
        exact absurd ((List.cons.inj minus).1 ▸ digit) (by decide)
      · rename_i plus
        exact absurd ((List.cons.inj plus).1 ▸ digit) (by decide)
      · rw [read]
        exact congrArg (fun year => some (year, rest)) (show (year.natAbs : Int) = year by omega)

/-- A fraction is read as it is written. -/
theorem fraction?_fractionText {nanoseconds : Nat} (h : nanoseconds < 1000000000) {rest : List Char}
    (ends : ∀ c ∈ rest.head?, c.isDigit = false ∧ c ≠ '.') :
    fraction? (fractionText nanoseconds ++ rest) = some (nanoseconds, rest) := by
  have read {width n : Nat} (positive : 0 < width) (small : n < 10 ^ width) (le : width ≤ 9) :
      fraction? ('.' :: padded width n ++ rest) = some (n * 10 ^ (9 - width), rest) := by
    have length := length_padded positive small
    have digits : (padded width n ++ List.replicate 9 '0').take 9 =
        padded width n ++ NumberLayout.zeros (9 - width) := by
      rw [List.take_append, List.take_of_length_le (by omega), length, List.take_replicate]
      congr 2
      omega
    rw [List.cons_append, fraction?,
      Decimal.span_digits isDigit_padded fun c mem => (ends c mem).1]
    simp only [natural?_padded, digits, Decimal.ofDigits_append, ofDigits_padded,
      Decimal.ofDigits_zeros]
    rfl
  unfold fractionText
  split
  · rename_i zero
    subst zero
    rw [List.nil_append, fraction?.eq_def]
    split
    · exact absurd rfl (ends '.' rfl).2
    · rfl
  · split
    · rw [read (by decide) (show nanoseconds / 1000000 < 10 ^ 3 by omega) (by decide)]
      exact congrArg (fun n => some (n, rest)) (show _ * 10 ^ 6 = nanoseconds by omega)
    · split
      · rw [read (by decide) (show nanoseconds / 1000 < 10 ^ 6 by omega) (by decide)]
        exact congrArg (fun n => some (n, rest)) (show _ * 10 ^ 3 = nanoseconds by omega)
      · rw [read (by decide) (show nanoseconds < 10 ^ 9 by omega) (by decide)]
        exact congrArg (fun n => some (n, rest)) (show nanoseconds * 10 ^ 0 = nanoseconds by omega)

/-! ## moments -/

theorem date?_text {d : Date} (h : d.IsWritable) (low : firstYear ≤ d.year)
    (high : d.year ≤ lastYear) (rest : List Char) :
    date? (yearText d.year ++ '-' :: (padded 2 d.month ++ '-' :: (padded 2 d.day ++ rest))) =
      some (d, rest) := by
  have year := year?_yearText d.year (show ∀ c ∈
    ('-' :: (padded 2 d.month ++ '-' :: (padded 2 d.day ++ rest))).head?, c.isDigit = false by simp)
  have month := numberAfter?_padded (show Text.isBlank '-' = false by decide)
    (by decide : 0 < 2) h.month ('-' :: (padded 2 d.day ++ rest))
  have day := numberAfter?_padded (show Text.isBlank '-' = false by decide)
    (by decide : 0 < 2) h.day rest
  simp [date?, year, month, day, guard, h.valid, low, high]

theorem time?_text {time : Nat} (h : time < 86400000000000) {rest : List Char}
    (ends : ∀ c ∈ rest.head?, c.isDigit = false ∧ c ≠ '.') :
    time? (padded 2 (time / 1000000000 / 3600) ++ ':' :: (padded 2 (time / 1000000000 / 60 % 60) ++
      ':' :: (padded 2 (time / 1000000000 % 60) ++ (fractionText (time % 1000000000) ++ rest)))) =
      some (time, rest) := by
  have shown : Text.isBlank ':' = false := by decide
  have positive : 0 < 2 := by decide
  have hour (rest) := number?_padded positive
    (show time / 1000000000 / 3600 < 10 ^ 2 by omega) rest
  have minute (rest) := numberAfter?_padded shown positive
    (show time / 1000000000 / 60 % 60 < 10 ^ 2 by omega) rest
  have second (rest) := numberAfter?_padded shown positive
    (show time / 1000000000 % 60 < 10 ^ 2 by omega) rest
  have fraction := fraction?_fractionText (show time % 1000000000 < 1000000000 by omega) ends
  have valid : time / 1000000000 / 3600 < 24 ∧ time / 1000000000 / 60 % 60 < 60 ∧
      time / 1000000000 % 60 ≤ 60 := by omega
  simp only [time?, hour, minute, second, fraction, guard, valid, Option.bind_eq_bind,
    Option.bind_some, and_self, if_true, Option.pure_def, Option.some.injEq, Prod.mk.injEq,
    and_true]
  omega

/-- A moment is read back to the nanosecond. -/
theorem ofText?_text {nanoseconds : Int}
    (h : isInRange (nanoseconds / nanosecondsOfDay) = true) :
    ofText? (text nanoseconds) = some nanoseconds := by
  obtain ⟨number, writable, year⟩ := Date.ofDays_spec (nanoseconds / nanosecondsOfDay)
  obtain ⟨low, high⟩ := Date.yearOfDays_inRange h
  rw [← year] at low high
  have positive : 0 < nanosecondsOfDay := by decide
  have rest := Int.toNat_of_nonneg (Int.emod_nonneg nanoseconds positive.ne')
  have time : (nanoseconds % nanosecondsOfDay).toNat < 86400000000000 := by
    unfold nanosecondsOfDay
    omega
  have whole : (Date.ofDays (nanoseconds / nanosecondsOfDay)).toDays * nanosecondsOfDay +
      ((nanoseconds % nanosecondsOfDay).toNat : Int) - 0 = nanoseconds := by
    rw [number, rest, Int.sub_zero, Int.ediv_mul_add_emod]
  simp only [ofText?, text, String.toList_ofList, List.append_assoc, List.cons_append]
  generalize Date.ofDays (nanoseconds / nanosecondsOfDay) = date at *
  generalize (nanoseconds % nanosecondsOfDay).toNat = nanosecond at *
  have day := date?_text writable low high
  have clock := time?_text time (show ∀ c ∈ ['Z'].head?, c.isDigit = false ∧ c ≠ '.' by simp)
  have offset : offset? (Text.trimStart ['Z']) = some (0, []) := rfl
  have ended : (Text.trimStart []).isEmpty = true := rfl
  have marked : ['T', 't', ' '].contains 'T' = true := rfl
  simp only [day, after?, marked, if_true, clock, offset, ended, whole, h, Option.bind_eq_bind,
    Option.bind_some, guard, Bool.and_self]
  rfl

end Calendar

end AnalyticsGateway
