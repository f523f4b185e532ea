import AnalyticsGateway.Text.Percent
import AnalyticsGateway.Text.Split

/-!
# Sets of code points

A property of characters is given as ascending ranges of code points, both ends included, or as a
table. A table is written as a text: words of a code point or of two with a hyphen between them, in
hexadecimal, and the value of the property after a colon. A value can be a list of code points
between commas.
-/

namespace AnalyticsGateway.Text

abbrev CodePointRanges := List (Nat × Nat)

def CodePointRanges.contains (ranges : CodePointRanges) (c : Char) : Bool :=
  ranges.any fun range => range.1 ≤ c.toNat && c.toNat ≤ range.2

theorem CodePointRanges.contains_iff {ranges : CodePointRanges} {c : Char} :
    ranges.contains c = true ↔ ∃ range ∈ ranges, range.1 ≤ c.toNat ∧ c.toNat ≤ range.2 := by
  simp [contains, List.any_eq_true]

/-! ## tables -/

structure CodePointEntry where
  first : Nat
  last : Nat
  value : String := ""
  codePoints : List Nat := []
deriving DecidableEq, Repr, Inhabited

def hexNumber (digits : List Char) : Nat :=
  digits.foldl (fun n c => 16 * n + (hexDigit? c).getD 0) 0

namespace CodePointEntry

def ofWord (word : List Char) : CodePointEntry :=
  let (range, value) := (cutFirst ':' word).getD (word, [])
  let (first, last) := (cutFirst '-' range).getD (range, range)
  { first := hexNumber first
    last := hexNumber last
    value := String.ofList value
    codePoints := if value.isEmpty then [] else (cutAll ',' [] value).map hexNumber }

def contains (e : CodePointEntry) (c : Char) : Bool := e.first ≤ c.toNat && c.toNat ≤ e.last

end CodePointEntry

/-- The words read so far, the last one first, and the letters of the next one, the last one
first. -/
structure WordList where
  words : List (List Char) := []
  letters : List Char := []

namespace WordList

def close (l : WordList) : WordList :=
  if l.letters.isEmpty then l else ⟨l.letters.reverse :: l.words, []⟩

def read (l : WordList) (c : Char) : WordList :=
  if c.isWhitespace then l.close else { l with letters := c :: l.letters }

end WordList

abbrev CodePointTable := List CodePointEntry

namespace CodePointTable

def ofText (text : String) : CodePointTable :=
  (text.toList.foldl WordList.read {}).close.words.reverse.map CodePointEntry.ofWord

/-- The entry for a character. -/
def find? (table : CodePointTable) (c : Char) : Option CodePointEntry :=
  List.find? (·.contains c) table

/-- The entry with a list of code points. -/
def findValue? (table : CodePointTable) (codePoints : List Nat) : Option CodePointEntry :=
  List.find? (·.codePoints == codePoints) table

end CodePointTable

/-- The ranges of a table without values. -/
def CodePointRanges.ofText (text : String) : CodePointRanges :=
  (CodePointTable.ofText text).map fun entry => (entry.first, entry.last)

end AnalyticsGateway.Text
