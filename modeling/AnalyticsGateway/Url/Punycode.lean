import AnalyticsGateway.Text.Split

/-!
# Punycode

A label of a domain with characters beyond ASCII is written in letters, digits and hyphens: first
its ASCII characters, then for each other character, in the order of code points, how far its place
of insertion lies from the last one.
-/

namespace AnalyticsGateway.Punycode

def isAscii (c : Char) : Bool := c.toNat < 128

/-! ## writing -/

def digits : List Char := "abcdefghijklmnopqrstuvwxyz0123456789".toList

def digit (n : Nat) : Char := digits.getD n 'a'

/-- From which digit on the number goes on, at a position that is a multiple of 36. -/
def threshold (bias position : Nat) : Nat := max 1 (min 26 (position - bias))

theorem one_le_threshold (bias position : Nat) : 1 ≤ threshold bias position := by
  unfold threshold
  omega

/-- A number of variable length, the least digit first. -/
def number (bias position n : Nat) : List Char :=
  let t := threshold bias position
  if n < t then [digit n]
  else digit (t + (n - t) % (36 - t)) :: number bias (position + 36) ((n - t) / (36 - t))
termination_by n
decreasing_by
  have := one_le_threshold bias position
  have := Nat.div_le_self (n - threshold bias position) (36 - threshold bias position)
  omega

/-- How often a distance is to be divided until it is small, and what is left of it. -/
def shrink (distance : Nat) : Nat × Nat :=
  if 455 < distance then
    let (times, left) := shrink (distance / 35)
    (times + 1, left)
  else (0, distance)

/-- The bias for the next distance, after one that inserted the character of this ordinal. -/
def nextBias (distance ordinal : Nat) (isFirst : Bool) : Nat :=
  let distance := if isFirst then distance / 700 else distance / 2
  let (times, left) := shrink (distance + distance / ordinal)
  36 * times + 36 * left / (left + 38)

structure Progress where
  written : List Char := []
  distance : Nat := 0
  bias : Nat := 72
  placed : Nat

/-- Passes a character of the label while the characters with this code point are inserted. -/
def Progress.pass (first code : Nat) (p : Progress) (c : Char) : Progress :=
  if c.toNat < code then { p with distance := p.distance + 1 }
  else if c.toNat = code then
    { written := p.written ++ number p.bias 36 p.distance
      distance := 0
      bias := nextBias p.distance (p.placed + 1) (p.placed = first)
      placed := p.placed + 1 }
  else p

/-- Inserts the characters with the given code points, which ascend from `least`. -/
def Progress.insertAll (label : List Char) (first : Nat) (p : Progress) (least : Nat) :
    List Nat → Progress
  | [] => p
  | code :: rest =>
    let start := { p with distance := p.distance + (code - least) * (p.placed + 1) }
    let p := label.foldl (pass first code) start
    insertAll label first { p with distance := p.distance + 1 } (code + 1) rest

def encode (label : List Char) : List Char :=
  let plain := label.filter isAscii
  let codes := ((label.filter (!isAscii ·)).map Char.toNat).eraseDups.mergeSort
  let p : Progress := { placed := plain.length }
  let rest := (p.insertAll label plain.length 128 codes).written
  if plain.isEmpty then rest else plain ++ '-' :: rest

/-! ## reading -/

def digit? (c : Char) : Option Nat := digits.idxOf? c

/-- A label as it is read: the characters up to now, and the number that says where the next one
goes, as far as its digits were read. -/
structure Reading where
  label : List Char
  /-- The least code point that may still be inserted. -/
  code : Nat := 128
  /-- Where the last insertion left off. -/
  place : Nat := 0
  bias : Nat := 72
  isFirst : Bool := true
  distance : Nat := 0
  weight : Nat := 1
  position : Nat := 36

namespace Reading

/-- Whether all digits of the last number were read. -/
def isComplete (r : Reading) : Bool := r.position = 36

/-- Inserts the character at the distance that was read. -/
def insert? (r : Reading) : Option Reading := do
  let places := r.label.length + 1
  let code := r.code + (r.place + r.distance) / places
  let place := (r.place + r.distance) % places
  guard code.isValidChar
  return {
    label := r.label.insertIdx place (Char.ofNat code)
    code, place := place + 1
    bias := nextBias r.distance places r.isFirst
    isFirst := false }

def read? (r : Reading) (c : Char) : Option Reading := do
  let digit ← digit? c
  let t := threshold r.bias r.position
  let r := { r with distance := r.distance + digit * r.weight }
  if digit < t then r.insert?
  else return { r with weight := r.weight * (36 - t), position := r.position + 36 }

end Reading

/-- The label that is written so. -/
def decode? (chars : List Char) : Option (List Char) := do
  let (plain, rest) := (Text.cutLast ['-'] chars).getD ([], chars)
  let reading ← (if plain.isEmpty then chars else rest).foldlM Reading.read? { label := plain }
  guard reading.isComplete
  return reading.label

end AnalyticsGateway.Punycode
