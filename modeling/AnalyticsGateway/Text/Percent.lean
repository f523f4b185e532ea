/-!
# Percent escapes

A byte may be written as a percent sign with two hexadecimal digits. Main statement:
`not_escaped_of_mem_encode`, the escaped form has no character of the class that is escaped.
-/

namespace AnalyticsGateway.Text

def hexDigit? (c : Char) : Option Nat :=
  if c.isDigit then some (c.toNat - '0'.toNat)
  else if 'a' ≤ c ∧ c ≤ 'f' then some (c.toNat - 'a'.toNat + 10)
  else if 'A' ≤ c ∧ c ≤ 'F' then some (c.toNat - 'A'.toNat + 10)
  else none

namespace Percent

/-! ## writing -/

def capitalDigits : List Char := "0123456789ABCDEF".toList

def escape (byte : UInt8) : List Char :=
  '%' :: [byte.toNat / 16, byte.toNat % 16].map fun digit => capitalDigits.getD digit '0'

/-- Writes the bytes of the characters of a class as escapes. -/
def encode (escaped : Char → Bool) (chars : List Char) : List Char :=
  chars.flatMap fun c => if escaped c then c.toString.toUTF8.toList.flatMap escape else [c]

/-! ## reading -/

/-- The bytes of a text; a percent sign without its digits stands for itself. -/
def bytes : List Char → List UInt8
  | '%' :: high :: low :: rest =>
    match hexDigit? high, hexDigit? low with
    | some h, some l => (16 * h + l).toUInt8 :: bytes rest
    | _, _ => '%'.toUInt8 :: bytes (high :: low :: rest)
  | c :: rest => c.toString.toUTF8.toList ++ bytes rest
  | [] => []
termination_by chars => chars.length

/-- The text that the bytes are, if they are one. -/
def decode? (chars : List Char) : Option String := String.fromUTF8? ⟨(bytes chars).toArray⟩

/-! ## laws -/

theorem mem_escape {c : Char} {byte : UInt8} (h : c ∈ escape byte) :
    c = '%' ∨ c ∈ capitalDigits := by
  have digit (n : Nat) : capitalDigits.getD n '0' ∈ capitalDigits := by
    rw [List.getD_eq_getElem?_getD]
    rcases found : capitalDigits[n]? with _ | d
    · decide
    · exact List.mem_of_getElem? found
  simp only [escape, List.map_cons, List.map_nil, List.mem_cons, List.not_mem_nil, or_false] at h
  rcases h with rfl | rfl | rfl
  · exact .inl rfl
  · exact .inr (digit _)
  · exact .inr (digit _)

theorem not_escaped_of_mem_encode {escaped : Char → Bool} {chars : List Char} {c : Char}
    (sign : escaped '%' = false) (digits : ∀ d ∈ capitalDigits, escaped d = false)
    (h : c ∈ encode escaped chars) : escaped c = false := by
  obtain ⟨d, -, h⟩ := List.mem_flatMap.1 h
  split at h
  · obtain ⟨byte, -, h⟩ := List.mem_flatMap.1 h
    rcases mem_escape h with rfl | h
    · exact sign
    · exact digits _ h
  · rename_i plain
    simp_all

end Percent

end AnalyticsGateway.Text
