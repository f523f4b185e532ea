import AnalyticsGateway.Text.Direction
import AnalyticsGateway.Text.Joining
import AnalyticsGateway.Text.NormalForm
import AnalyticsGateway.Text.Split
import AnalyticsGateway.Url.DomainImage
import AnalyticsGateway.Url.Punycode

/-!
# Domains

The name of a domain in ASCII. Its characters are mapped to those that a domain may have, and each
label between points must be well formed: joiners stand where they join, and what is written from
right to left keeps its order. A label of other characters than ASCII is encoded, and one that is
encoded already must be what its own text would become.
-/

namespace AnalyticsGateway.Domain

/-! ## characters -/

/-- Characters of ASCII that no domain has. -/
def isForbidden (c : Char) : Bool :=
  c ≤ ' ' || c = '\x7f' || "%#/:<>?@[\\]^\x60\x7b|\x7d".contains c

/-- The characters that stand for a text in a domain. -/
def mapped? (chars : List Char) : Option (List Char) :=
  (chars.mapM image?).map fun images => Text.composedForm images.flatten

/-! ## joiners -/

def nonJoiner : Char := Char.ofNat 0x200C

def joiner : Char := Char.ofNat 0x200D

/-- Whether the first character that is not transparent joins. -/
def joins (side : Text.Joining) (chars : List Char) : Bool :=
  match (chars.map Text.Joining.of?).dropWhile (· == some .transparent) with
  | some joining :: _ => joining == side || joining == .both
  | _ => false

/-- Whether a joiner may stand between the characters before it, the nearest first, and the rest. A
joiner follows a virama; the other one may also part two letters that would join. -/
def mayStand (c : Char) (before rest : List Char) : Bool :=
  before.head?.any Text.isVirama || (c == nonJoiner && joins .left before && joins .right rest)

def joinersFit (before : List Char) : List Char → Bool
  | [] => true
  | c :: rest =>
    ((c != joiner && c != nonJoiner) || mayStand c before rest) && joinersFit (c :: before) rest

/-! ## directions -/

open Text (Direction)

def isRightToLeft (d : Direction) : Bool := d == .rightToLeft || d == .arabicLetter

/-- Directions that a label of either direction may have in it. -/
def isNeutral (d : Direction) : Bool :=
  [.europeanNumber, .europeanSeparator, .commonSeparator, .europeanTerminator, .otherNeutral,
    .boundaryNeutral, .nonspacingMark].contains d

/-- Whether a label keeps its order between labels of another direction. -/
def keepsOrder (label : List Char) : Bool :=
  let directions := label.map Direction.of
  match directions, directions.reverse.dropWhile (· == .nonspacingMark) with
  | [], _ => true
  | .leftToRight :: _, last :: _ =>
    (last == .leftToRight || last == .europeanNumber) &&
      directions.all fun d => d == .leftToRight || isNeutral d
  | first :: _, last :: _ =>
    isRightToLeft first &&
      (isRightToLeft last || last == .europeanNumber || last == .arabicNumber) &&
      (directions.all fun d => isRightToLeft d || d == .arabicNumber || isNeutral d) &&
      !(directions.contains .europeanNumber && directions.contains .arabicNumber)
  | _ :: _, [] => false

def hasRightToLeft (chars : List Char) : Bool :=
  chars.any fun c => isRightToLeft (Direction.of c) || Direction.of c == .arabicNumber

/-! ## labels -/

/-- What an encoded label begins with. -/
def encodedMark : List Char := "xn--".toList

/-- A text that is not ASCII, and that is its own image. -/
def isOwnImage (label : List Char) : Bool :=
  !label.all Punycode.isAscii && mapped? label == some label

/-- The text of a label after the mapping, decoded if it is encoded. -/
def labelText? (label : List Char) : Option (List Char) :=
  if encodedMark.isPrefixOf label then do
    guard (label.all Punycode.isAscii)
    let text ← Punycode.decode? (label.drop encodedMark.length)
    guard (isOwnImage text)
    return text
  else some label

def isWellFormed (label : List Char) : Bool :=
  !(label.head?.any Text.isMark) && joinersFit [] label && !label.any isForbidden

def asciiLabel (label : List Char) : List Char :=
  if label.all Punycode.isAscii then label else encodedMark ++ Punycode.encode label

/-- A domain in small letters and in ASCII. -/
def toAscii? (chars : List Char) : Option (List Char) := do
  let labels ← (Text.cutAll '.' [] (← mapped? chars)).mapM labelText?
  guard (labels.all isWellFormed)
  guard (!labels.any hasRightToLeft || labels.all keepsOrder)
  return ['.'].intercalate (labels.map asciiLabel)

end AnalyticsGateway.Domain
