import AnalyticsGateway.Decimal.Reader
import AnalyticsGateway.Text.Blank
import AnalyticsGateway.Text.Casing

/-!
# Dates of the calendar

Days are counted from the first of January 1970 in the Gregorian calendar. Moments are written with
date, time of day and offset, as in `2024-02-29T12:30:00.250Z`.
-/

namespace AnalyticsGateway

structure Date where
  year : Int
  month : Nat
  day : Nat
deriving DecidableEq, Repr, Inhabited

namespace Date

def isLeap (year : Int) : Bool := year % 4 = 0 ∧ (year % 100 ≠ 0 ∨ year % 400 = 0)

def monthLengths (year : Int) : List Nat :=
  [31, if isLeap year then 29 else 28, 31, 30, 31, 30, 31, 31, 30, 31, 30, 31]

/-- The days from 1970 to the start of a year. -/
def daysBeforeYear (year : Int) : Int :=
  let past := year - 1
  365 * past + past / 4 - past / 100 + past / 400 - 719162

def isValid (d : Date) : Bool :=
  1 ≤ d.month ∧ 1 ≤ d.day ∧ ((monthLengths d.year)[d.month - 1]?).any (d.day ≤ ·)

def toDays (d : Date) : Int :=
  let daysBeforeMonth : Nat := ((monthLengths d.year).take (d.month - 1)).foldl Nat.add 0
  daysBeforeYear d.year + daysBeforeMonth + d.day - 1

/-- The month and day of a day within months of the given lengths. -/
def monthAndDay (day : Nat) : List Nat → Nat × Nat
  | [] => (1, day + 1)
  | length :: rest =>
    if day < length then (1, day + 1)
    else
      let (month, day) := monthAndDay (day - length) rest
      (month + 1, day)

/-- The year of a day: an estimate by the mean length of a year is off by one at most. -/
def yearOfDays (days : Int) : Int :=
  let guess := (days + 719162) * 400 / 146097 + 1
  if days < daysBeforeYear guess then guess - 1
  else if daysBeforeYear (guess + 1) ≤ days then guess + 1
  else guess

def ofDays (days : Int) : Date :=
  let year := yearOfDays days
  let (month, day) := monthAndDay (days - daysBeforeYear year).toNat (monthLengths year)
  ⟨year, month, day⟩

end Date

namespace Calendar

def nanosecondsOfDay : Int := 24 * 60 * 60 * 1000000000

/-- The decimal digits of a number, with zeros in front up to a width. -/
def padded (width n : Nat) : List Char :=
  let digits := Nat.toDigits 10 n
  List.replicate (width - digits.length) '0' ++ digits

/-- A year of four digits, or with its sign. -/
def yearText (year : Int) : List Char :=
  if year < 0 then '-' :: padded 4 year.natAbs
  else if 9999 < year then '+' :: padded 4 year.natAbs
  else padded 4 year.natAbs

/-- The fraction of a second in milliseconds, microseconds or nanoseconds, if there is one. -/
def fractionText (nanoseconds : Nat) : List Char :=
  if nanoseconds = 0 then []
  else if nanoseconds % 1000000 = 0 then '.' :: padded 3 (nanoseconds / 1000000)
  else if nanoseconds % 1000 = 0 then '.' :: padded 6 (nanoseconds / 1000)
  else '.' :: padded 9 nanoseconds

/-- A moment in nanoseconds since 1970, as text at the offset zero. -/
def text (nanoseconds : Int) : String :=
  let date := Date.ofDays (nanoseconds / nanosecondsOfDay)
  let time := (nanoseconds % nanosecondsOfDay).toNat
  let seconds := time / 1000000000
  String.ofList <|
    yearText date.year ++ '-' :: padded 2 date.month ++ '-' :: padded 2 date.day ++
      'T' :: padded 2 (seconds / 3600) ++ ':' :: padded 2 (seconds / 60 % 60) ++
      ':' :: padded 2 (seconds % 60) ++ fractionText (time % 1000000000) ++ ['Z']

/-! ## reading

Blanks may stand before a number, before and after a separator, before the offset and at the end.
A number may have fewer digits than it is written with.
-/

/-- The first years and days that have a number, and the last ones. -/
def firstYear : Int := -262143

def lastYear : Int := 262142

def isInRange (days : Int) : Bool :=
  Date.daysBeforeYear firstYear ≤ days && days < Date.daysBeforeYear (lastYear + 1)

/-- The digits at the start of a text, at most so many. -/
def digits (most : Nat) (chars : List Char) : List Char := (chars.take most).takeWhile Char.isDigit

/-- A number of one digit to so many. -/
def number? (most : Nat) (chars : List Char) : Option (Nat × List Char) := do
  let chars := Text.trimStart chars
  let digits := digits most chars
  return (← Decimal.natural? digits, chars.drop digits.length)

/-- What follows a character. -/
def after? (expected : Char → Bool) : List Char → Option (List Char)
  | c :: rest => if expected c then some rest else none
  | [] => none

/-- The number after a separator. -/
def numberAfter? (separator : Char) (most : Nat) (chars : List Char) :
    Option (Nat × List Char) := do
  number? most (← after? (· = separator) (Text.trimStart chars))

/-- A year of up to four digits, or of any number of them right after a sign. -/
def year? (chars : List Char) : Option (Int × List Char) := do
  match Text.trimStart chars with
  | '-' :: rest =>
    let (digits, rest) := rest.span Char.isDigit
    return (-(← Decimal.natural? digits : Nat), rest)
  | '+' :: rest =>
    let (digits, rest) := rest.span Char.isDigit
    return ((← Decimal.natural? digits : Nat), rest)
  | chars =>
    let (year, rest) ← number? 4 chars
    return (year, rest)

def date? (chars : List Char) : Option (Date × List Char) := do
  let (year, chars) ← year? chars
  let (month, chars) ← numberAfter? '-' 2 chars
  let (day, chars) ← numberAfter? '-' 2 chars
  let date : Date := ⟨year, month, day⟩
  guard (date.isValid && firstYear ≤ year && year ≤ lastYear)
  return (date, chars)

/-- The nanoseconds of a fraction of a second, if one is written. -/
def fraction? : List Char → Option (Nat × List Char)
  | '.' :: rest => do
    let (digits, rest) := rest.span Char.isDigit
    let _ ← Decimal.natural? digits
    return (Decimal.ofDigits 0 ((digits ++ List.replicate 9 '0').take 9), rest)
  | rest => some (0, rest)

/-- The nanoseconds of a time of day; a minute may have a second more. -/
def time? (chars : List Char) : Option (Nat × List Char) := do
  let (hour, chars) ← number? 2 chars
  let (minute, chars) ← numberAfter? ':' 2 chars
  let (second, chars) ← numberAfter? ':' 2 chars
  let (fraction, chars) ← fraction? chars
  guard (hour < 24 ∧ minute < 60 ∧ second ≤ 60)
  return (((hour * 60 + minute) * 60 + second) * 1000000000 + fraction, chars)

/-- A number of two digits. -/
def twoDigits? : List Char → Option (Nat × List Char)
  | tens :: ones :: rest =>
    if tens.isDigit && ones.isDigit then some (Decimal.ofDigits 0 [tens, ones], rest) else none
  | _ => none

/-- The nanoseconds of hours and minutes, which may have colons and blanks between them. -/
def hoursAndMinutes? (chars : List Char) : Option (Nat × List Char) := do
  let (hours, chars) ← twoDigits? chars
  let (minutes, chars) ← twoDigits? (chars.dropWhile fun c => c = ':' || Text.isBlank c)
  guard (hours < 24 ∧ minutes < 60)
  return ((hours * 60 + minutes) * 60000000000, chars)

/-- The nanoseconds of an offset. -/
def offset? (chars : List Char) : Option (Int × List Char) := do
  if Text.lowerAscii (chars.take 3) = "utc" then return (0, chars.drop 3)
  match chars with
  | c :: rest =>
    if c = 'Z' || c = 'z' then return (0, rest)
    let (span, chars) ← hoursAndMinutes? rest
    if c = '+' then return (span, chars)
    -- a hyphen or a true minus sign
    guard (c = '-' ∨ c = '\u2212')
    return (-span, chars)
  | [] => none

/-- A moment in nanoseconds since 1970. -/
def ofText? (text : String) : Option Int := do
  let (date, chars) ← date? text.toList
  let (time, chars) ← time? (← after? (['T', 't', ' '].contains ·) chars)
  let (offset, chars) ← offset? (Text.trimStart chars)
  let moment := date.toDays * nanosecondsOfDay + time - offset
  guard ((Text.trimStart chars).isEmpty && isInRange (moment / nanosecondsOfDay))
  return moment

end Calendar

end AnalyticsGateway
