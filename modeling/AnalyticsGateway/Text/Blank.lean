import AnalyticsGateway.Text.Table

/-!
# Blank space

The Unicode property White_Space, and the words between blanks. Main statements:
`isBlank_of_isWhitespace`, `of_mem_wordsFrom`.
-/

namespace AnalyticsGateway.Text

/-- Code points of the property White_Space. -/
def blankRanges : CodePointRanges :=
  [(0x09, 0x0D), (0x20, 0x20), (0x85, 0x85), (0xA0, 0xA0), (0x1680, 0x1680), (0x2000, 0x200A),
    (0x2028, 0x2029), (0x202F, 0x202F), (0x205F, 0x205F), (0x3000, 0x3000)]

def isBlank (c : Char) : Bool := blankRanges.contains c

theorem isBlank_of_isWhitespace {c : Char} (h : c.isWhitespace = true) : isBlank c = true := by
  simp only [Char.isWhitespace, Bool.or_eq_true, decide_eq_true_eq] at h
  rcases h with ((rfl | rfl) | rfl) | rfl <;> decide

/-- The words of a text, after the letters already read of the first one. -/
def wordsFrom (word : List Char) : List Char → List (List Char)
  | [] => if word.isEmpty then [] else [word]
  | c :: rest =>
    if isBlank c then (if word.isEmpty then [] else [word]) ++ wordsFrom [] rest
    else wordsFrom (word ++ [c]) rest

/-- The longest runs of characters that are not blank. -/
def words (text : String) : List String :=
  (wordsFrom [] text.toList).map String.ofList

def trimStart (chars : List Char) : List Char := chars.dropWhile isBlank

/-- The text without the blanks at either end. -/
def trim (text : String) : String :=
  String.ofList (trimStart (trimStart text.toList).reverse).reverse

theorem wordsFrom_append {word chars : List Char} (h : ∀ c ∈ chars, isBlank c = false)
    (rest : List Char) : wordsFrom word (chars ++ rest) = wordsFrom (word ++ chars) rest := by
  induction chars generalizing word with
  | nil => simp
  | cons c chars ih =>
    have ⟨hc, hchars⟩ := List.forall_mem_cons.1 h
    simp [wordsFrom, hc, ih hchars]

/-- No word is empty or holds a blank. -/
theorem of_mem_wordsFrom {word chars w : List Char} (hword : ∀ c ∈ word, isBlank c = false)
    (h : w ∈ wordsFrom word chars) : w ≠ [] ∧ ∀ c ∈ w, isBlank c = false := by
  induction chars generalizing word with
  | nil =>
    by_cases e : word = [] <;> simp_all [wordsFrom]
  | cons c rest ih =>
    unfold wordsFrom at h
    split at h
    · rcases List.mem_append.1 h with h | h
      · by_cases e : word = [] <;> simp_all
      · exact ih (by simp) h
    · rename_i hc
      refine ih (fun d hd => ?_) h
      rcases List.mem_append.1 hd with hd | hd
      · exact hword d hd
      · simp_all

end AnalyticsGateway.Text
