import AnalyticsGateway.Proofs.Sql.Structure

/-!
# The weight of a text

How many words a text has, where one number counts twice. Blanks, commas and parentheses weigh
nothing, so texts side by side weigh what they weigh alone, and the parts of a group can be weighed
one by one in whatever order they are written (`weigh_condition`).
-/

namespace AnalyticsGateway.Sql

/-- The words of a text, and once more those that are the number. -/
def weigh (n : ℤ) (chars : List Char) : ℕ :=
  ((chars.splitOnP breaks.contains).map fun word =>
    if word = [] then 0 else if word = NumberLayout.integer n then 2 else 1).sum

section Words

variable {n : ℤ} {a b : List Char} {c : Char}

theorem weigh_nil (n : ℤ) : weigh n [] = 0 := by
  simp [weigh]

theorem weigh_append_cons (hc : c ∈ breaks) : weigh n (a ++ c :: b) = weigh n a + weigh n b := by
  have split := List.splitOnP_append_cons a b (List.contains_iff_mem.2 hc)
  simp only [weigh, split, List.map_append, List.sum_append]

theorem weigh_cons (hc : c ∈ breaks) : weigh n (c :: b) = weigh n b := by
  simpa [weigh_nil] using weigh_append_cons (a := []) (b := b) (n := n) hc

/-- Texts are weighed one by one where the second begins with a break. -/
theorem weigh_append_of_head (head : b.head? = some c) (hc : c ∈ breaks) :
    weigh n (a ++ b) = weigh n a + weigh n b := by
  obtain ⟨rest, rfl⟩ := List.head?_eq_some_iff.1 head
  rw [weigh_append_cons hc, weigh_cons hc]

/-- Texts are weighed one by one where the first ends in a break. -/
theorem weigh_append_of_last (last : a.getLast? = some c) (hc : c ∈ breaks) :
    weigh n (a ++ b) = weigh n a + weigh n b := by
  obtain ⟨front, rfl⟩ := List.getLast?_eq_some_iff.1 last
  rw [List.append_assoc, List.singleton_append, weigh_append_cons hc, weigh_append_cons hc,
    weigh_nil, Nat.add_zero]

theorem weigh_word (ne : a ≠ []) (free : ∀ c ∈ a, c ∉ breaks) :
    weigh n a = if a = NumberLayout.integer n then 2 else 1 := by
  have whole : a.splitOnP breaks.contains = [a] :=
    List.splitOnP_eq_singleton fun c hc => by simpa using free c hc
  simp [weigh, whole, ne]

theorem weigh_integer (n m : ℤ) : weigh n (NumberLayout.integer m) = if m = n then 2 else 1 := by
  have free : ∀ c ∈ NumberLayout.integer m, c ∉ breaks := by
    intro c hc hbreak
    have numeral := NumberLayout.isNumeral_integer m c hc
    have none : ∀ c ∈ breaks, ¬NumberLayout.IsNumeral c := by
      simp [breaks, NumberLayout.IsNumeral]
    exact none c hbreak numeral
  rw [weigh_word (NumberLayout.integer_ne_nil m) free]
  by_cases same : m = n
  · rw [if_pos same, if_pos (same ▸ rfl)]
  · rw [if_neg same, if_neg fun h => same (NumberLayout.integer_inj h)]

/-- A word that does not begin like a number. -/
theorem weigh_keyword (n : ℤ) (first : c.isDigit = false ∧ c ≠ '-')
    (free : ∀ x ∈ c :: a, x ∉ breaks) : weigh n (c :: a) = 1 := by
  rw [weigh_word (by simp) free, if_neg]
  intro h
  have mem : c ∈ NumberLayout.integer n := h ▸ List.mem_cons_self
  have digits (m : ℕ) : c ∉ Nat.toDigits 10 m := fun hc =>
    Bool.false_ne_true (first.1.symm.trans (Decimal.isDigit_of_mem_toDigits hc))
  unfold NumberLayout.integer at mem
  split at mem
  · exact (List.mem_cons.1 mem).elim first.2 (digits _)
  · exact digits _ mem

end Words

/-! ## pieces -/

variable {n : ℤ} {d : Dialect}

def weighPieces (n : ℤ) (d : Dialect) (pieces : List Piece) : ℕ := weigh n (charsOf d pieces)

/-- What stands between two lists of pieces weighs so much, and ends both. -/
def Separates (n : ℤ) (separator : String) (weight : ℕ) : Prop :=
  ∀ a b, weigh n (a ++ separator.toList ++ b) = weigh n a + weight + weigh n b

theorem separates_blank (n : ℤ) : Separates n " " 0 := by
  intro a b
  change weigh n (a ++ [' '] ++ b) = _
  rw [List.append_assoc, List.singleton_append, weigh_append_cons (by decide), Nat.add_zero]

theorem separates_comma (n : ℤ) : Separates n ", " 0 := by
  intro a b
  change weigh n (a ++ [',', ' '] ++ b) = _
  rw [List.append_assoc, List.cons_append, List.singleton_append, weigh_append_cons (by decide),
    weigh_cons (by decide), Nat.add_zero]

theorem separates_connective (n : ℤ) (k : Connective) : Separates n (Style.connective k) 1 := by
  intro a b
  have word : weigh n (Style.connective k).toList = 1 := by
    cases k
    · change weigh n (' ' :: (['A', 'N', 'D'] ++ [' '])) = 1
      rw [weigh_cons (by decide), weigh_append_cons (by decide), weigh_nil,
        weigh_keyword n (by decide) (by simp [breaks])]
    · change weigh n (' ' :: (['O', 'R'] ++ [' '])) = 1
      rw [weigh_cons (by decide), weigh_append_cons (by decide), weigh_nil,
        weigh_keyword n (by decide) (by simp [breaks])]
  rw [weigh_append_of_last (c := ' ') (by cases k <;> simp [Style.connective]) (by decide),
    weigh_append_of_head (c := ' ') (by cases k <;> rfl) (by decide), word]

theorem weigh_separated {separator : String} {weight : ℕ} (h : Separates n separator weight)
    {lists : List (List Piece)} (ne : lists ≠ []) :
    weighPieces n d (separated separator lists) + weight =
      (lists.map fun pieces => weighPieces n d pieces + weight).sum := by
  fun_induction separated separator lists with
  | case1 => exact absurd rfl ne
  | case2 pieces => simp
  | case3 pieces rest more ih =>
    have chars : charsOf d (pieces ++ .fixed separator :: separated separator rest) =
        charsOf d pieces ++ separator.toList ++ charsOf d (separated separator rest) := by
      simp [charsOf, Piece.write]
    rw [List.map_cons, List.sum_cons, ← ih more, weighPieces, chars, h, weighPieces, weighPieces]
    omega

theorem weigh_separated_zero {separator : String} (h : Separates n separator 0)
    (lists : List (List Piece)) :
    weighPieces n d (separated separator lists) = (lists.map (weighPieces n d)).sum := by
  cases lists with
  | nil => simp [separated, weighPieces, charsOf, weigh_nil]
  | cons first rest => exact weigh_separated h (List.cons_ne_nil first rest)

/-! ## tests -/

def literalWeight (n : ℤ) (d : Dialect) (value : Literal) : ℕ :=
  weighPieces n d [Style.literal value]

theorem literalWeight_integer (n m : ℤ) (d : Dialect) :
    literalWeight n d (.integer m) = if m = n then 2 else 1 := by
  have chars : charsOf d [Style.literal (.integer m)] = NumberLayout.integer m := by
    simp [charsOf, Style.literal, Piece.write]
  rw [literalWeight, weighPieces, chars, weigh_integer]

theorem weigh_compare (c : Comparison) (value : Literal) :
    weighPieces n d (Style.test (.compare c value)) =
      weigh n s!" {Style.comparison c} ".toList + literalWeight n d value := by
  rw [weighPieces, Style.test, charsOf, List.flatMap_cons]
  exact weigh_append_of_last (c := ' ') (by cases c <;> rfl) (by decide)

theorem weigh_among (values : List Literal) (negated : Bool) :
    weighPieces n d (Style.test (.among values negated)) =
      weigh n s!" {Style.negation negated}IN (".toList +
        (values.map (literalWeight n d)).sum := by
  have chars : charsOf d (Style.test (.among values negated)) =
      s!" {Style.negation negated}IN (".toList ++ (charsOf d
        (separated ", " (values.map fun value => [Style.literal value])) ++ [')']) := by
    simp [charsOf, Style.test, Piece.write]
  have list := weigh_separated_zero (d := d) (separates_comma n)
    (values.map fun value => [Style.literal value])
  rw [List.map_map] at list
  rw [weighPieces, chars, weigh_append_of_last (c := '(') (by cases negated <;> rfl) (by decide),
    weigh_append_cons (by decide), weigh_nil]
  exact congrArg _ list

theorem weigh_between (low high : Literal) :
    weighPieces n d (Style.test (.between low high)) =
      weigh n " BETWEEN ".toList + (literalWeight n d low + 1 + literalWeight n d high) := by
  have chars : charsOf d (Style.test (.between low high)) =
      " BETWEEN ".toList ++ (charsOf d [Style.literal low] ++ " AND ".toList ++
        charsOf d [Style.literal high]) := by
    simp [charsOf, Style.test, Piece.write]
  rw [weighPieces, chars, weigh_append_of_last (c := ' ') rfl (by decide)]
  exact congrArg _ (separates_connective n .and _ _)

/-! ## conditions -/

namespace Style

variable {s : Style}

def termWeight (s : Style) (n : ℤ) (t : Term) : ℕ :=
  match s.term t with
  | .ok pieces => weighPieces n s.dialect pieces
  | .error _ => 0

mutual

/-- What a condition weighs with the connective before it. -/
def weight (s : Style) (n : ℤ) : Condition → ℕ
  | .test t check => s.termWeight n t + weighPieces n s.dialect (test check) + 1
  | .guard column tenant =>
    weighPieces n s.dialect (s.column column ++ [.fixed " = ", .text tenant]) + 1
  | .not c => s.weight n c + 1
  | .group _ [] => weigh n "1 = 1".toList + 1
  | .group _ (first :: rest) => s.weight n first + s.weightAll n rest

def weightAll (s : Style) (n : ℤ) : List Condition → ℕ
  | [] => 0
  | c :: rest => s.weight n c + s.weightAll n rest

end

theorem weightAll_eq (s : Style) (n : ℤ) (parts : List Condition) :
    s.weightAll n parts = (parts.map (s.weight n)).sum := by
  induction parts with
  | nil => rfl
  | cons c rest ih => rw [weightAll, ih, List.map_cons, List.sum_cons]

theorem weight_group {k : Connective} {parts : List Condition} (ne : parts ≠ []) :
    s.weight n (.group k parts) = (parts.map (s.weight n)).sum := by
  cases parts with
  | nil => exact absurd rfl ne
  | cons first rest => rw [weight, weightAll_eq, List.map_cons, List.sum_cons]

theorem weight_pos : ∀ c : Condition, 0 < s.weight n c
  | .test .. | .guard .. | .not _ | .group _ [] => by simp [weight]
  | .group _ (first :: rest) => by
    rw [weight]
    exact Nat.add_pos_left (weight_pos first) _

theorem weigh_parenthesized (pieces : List Piece) :
    weighPieces n d (parenthesized pieces) = weighPieces n d pieces := by
  have chars : charsOf d (parenthesized pieces) = '(' :: (charsOf d pieces ++ [')']) := by
    simp [charsOf, parenthesized, Piece.write]
  rw [weighPieces, chars, weigh_cons (by decide), weigh_append_cons (by decide), weigh_nil]
  rfl

theorem weigh_asPart (c : Condition) (pieces : List Piece) :
    weighPieces n d (asPart c pieces) = weighPieces n d pieces := by
  cases c with
  | group => exact weigh_parenthesized pieces
  | _ => rfl

mutual

/-- A condition weighs what its parts do. -/
theorem weigh_condition : ∀ {c : Condition} {pieces : List Piece}, s.condition c = .ok pieces →
    weighPieces n s.dialect pieces + 1 = s.weight n c
  | .test t check, pieces, written => by
    rw [condition, bind_eq_ok] at written
    obtain ⟨termPieces, hterm, h⟩ := written
    cases h
    have chars : charsOf s.dialect (termPieces ++ test check) =
        charsOf s.dialect termPieces ++ charsOf s.dialect (test check) := by simp [charsOf]
    rw [weight, termWeight, hterm, weighPieces, chars,
      weigh_append_of_head (head?_test s.dialect check) (by decide)]
    rfl
  | .guard column tenant, pieces, written => by
    rw [condition] at written
    cases written
    rw [weight]
  | .not c, pieces, written => by
    rw [condition, bind_eq_ok] at written
    obtain ⟨inner, hinner, h⟩ := written
    cases h
    have chars : charsOf s.dialect (.fixed "NOT " :: parenthesized inner) =
        ['N', 'O', 'T'] ++ ' ' :: charsOf s.dialect (parenthesized inner) := by
      simp [charsOf, Piece.write]
    have inside : weigh n (charsOf s.dialect (parenthesized inner)) =
        weighPieces n s.dialect inner := weigh_parenthesized inner
    rw [weight, ← weigh_condition hinner, weighPieces, chars, weigh_append_cons (by decide),
      weigh_keyword n (by decide) (by simp [breaks]), inside, Nat.add_comm 1]
  | .group k [], pieces, written => by
    rw [condition] at written
    cases written
    rw [weight]
    simp [weighPieces, charsOf, Piece.write]
  | .group k (first :: rest), pieces, written => by
    rw [condition, bind_eq_ok] at written
    · obtain ⟨lists, hlists, h⟩ := written
      cases h
      have ne : lists ≠ [] := by
        obtain ⟨_, _, -, -, rfl⟩ := parts_cons_eq_ok.1 hlists
        simp
      rw [weigh_separated (separates_connective n k) ne, weigh_parts hlists, weight, weightAll]
    · simp

theorem weigh_parts : ∀ {parts : List Condition} {lists : List (List Piece)},
    s.parts parts = .ok lists →
    (lists.map fun pieces => weighPieces n s.dialect pieces + 1).sum = s.weightAll n parts
  | [], lists, written => by
    rw [parts] at written
    cases written
    rfl
  | c :: rest, lists, written => by
    obtain ⟨pieces, others, hc, hrest, rfl⟩ := parts_cons_eq_ok.1 written
    rw [List.map_cons, List.sum_cons, weigh_asPart, weigh_condition hc, weigh_parts hrest,
      weightAll]

end

theorem weigh_conditionClause {keyword : String} {c : Char} {letters : List Char}
    (word : keyword.toList = c :: letters ++ [' ']) (first : c.isDigit = false ∧ c ≠ '-')
    (free : ∀ x ∈ c :: letters, x ∉ breaks) {clause : Option Condition}
    {lists : List (List Piece)} (written : s.conditionClause keyword clause = .ok lists) :
    (lists.map (weighPieces n s.dialect)).sum = (clause.map (s.weight n)).getD 0 := by
  cases clause with
  | none =>
    cases written
    rfl
  | some c =>
    obtain ⟨pieces, hc, h⟩ := bind_eq_ok.1 written
    cases h
    rw [Option.map_some, Option.getD_some, ← weigh_condition hc, List.map_singleton,
      List.sum_singleton, weighPieces, charsOf, List.flatMap_cons, Piece.write, word,
      List.append_assoc, List.singleton_append, weigh_append_cons (by decide),
      weigh_keyword n first free, Nat.add_comm]
    rfl

end Style

/-! ## queries -/

namespace Query

/-- What the conditions of a query weigh. -/
def clauseWeight (q : Query) (s : Style) (n : ℤ) : ℕ :=
  (q.selection.map (s.weight n)).getD 0 + (q.having.map (s.weight n)).getD 0

/-- The clauses of a query in a row. -/
def clauses (q : Query) (items selection grouping having : List (List Piece)) :
    List (List Piece) :=
  [.fixed "SELECT " :: separated ", " items, .fixed "FROM " :: Style.table q.base] ++
    q.joins.map q.style.join ++ selection ++ Style.listClause "GROUP BY " grouping ++ having ++
      Style.listClause "ORDER BY " (q.order.map Style.orderKey) ++
        [rowLimit q.dialect q.limit q.offset]

theorem pieces_eq_ok {q : Query} {pieces : List Piece} (h : q.pieces = .ok pieces) :
    ∃ items selection grouping having, q.projection.mapM q.style.selectItem = .ok items ∧
      q.style.conditionClause "WHERE " q.selection = .ok selection ∧
      q.grouping.mapM q.style.term = .ok grouping ∧
      q.style.conditionClause "HAVING " q.having = .ok having ∧
      pieces = separated " " (q.clauses items selection grouping having) := by
  obtain ⟨items, hitems, h⟩ := bind_eq_ok.1 h
  obtain ⟨selection, hselection, h⟩ := bind_eq_ok.1 h
  obtain ⟨grouping, hgrouping, h⟩ := bind_eq_ok.1 h
  obtain ⟨having, hhaving, h⟩ := bind_eq_ok.1 h
  cases h
  exact ⟨items, selection, grouping, having, hitems, hselection, hgrouping, hhaving, rfl⟩

theorem sum_clauses (f : List Piece → ℕ) (q : Query)
    (items selection grouping having : List (List Piece)) :
    ((q.clauses items selection grouping having).map f).sum =
      ((q.clauses items [] grouping []).map f).sum + (selection.map f).sum +
        (having.map f).sum := by
  simp only [clauses, List.map_append, List.sum_append, List.map_nil, List.sum_nil, Nat.add_zero]
  omega

/-- The queries differ in their conditions alone. -/
def SharesFrame (q r : Query) : Prop :=
  r = { q with selection := r.selection, having := r.having }

namespace SharesFrame

variable {q r : Query}

theorem style (h : q.SharesFrame r) : r.style = q.style := by
  rw [h]
  rfl

theorem projection (h : q.SharesFrame r) : r.projection = q.projection := by rw [h]

theorem grouping (h : q.SharesFrame r) : r.grouping = q.grouping := by rw [h]

theorem clauses (h : q.SharesFrame r) : r.clauses = q.clauses := by
  rw [h]
  rfl

end SharesFrame

/-- Texts of queries that differ in their conditions alone weigh the same but for these. -/
theorem weigh_pieces (q : Query) (n : ℤ) : ∃ rest, ∀ r pieces, q.SharesFrame r →
    r.pieces = .ok pieces →
      weighPieces n q.dialect pieces = rest + r.clauseWeight q.style n := by
  let items := (q.projection.mapM q.style.selectItem).toOption.getD []
  let grouping := (q.grouping.mapM q.style.term).toOption.getD []
  have whereWord : "WHERE ".toList = 'W' :: ['H', 'E', 'R', 'E'] ++ [' '] := rfl
  have havingWord : "HAVING ".toList = 'H' :: ['A', 'V', 'I', 'N', 'G'] ++ [' '] := rfl
  refine ⟨((q.clauses items [] grouping []).map (weighPieces n q.dialect)).sum, ?_⟩
  intro r pieces frame h
  obtain ⟨items', rows, grouping', groups, hitems, hrows, hgrouping, hgroups, rfl⟩ := pieces_eq_ok h
  rw [frame.style] at hitems hrows hgrouping hgroups
  rw [frame.projection] at hitems
  rw [frame.grouping] at hgrouping
  have sameItems : items = items' := by simp only [items, hitems, Except.toOption, Option.getD_some]
  have sameGrouping : grouping = grouping' := by
    simp only [grouping, hgrouping, Except.toOption, Option.getD_some]
  have onRows := Style.weigh_conditionClause (n := n) whereWord (by decide) (by simp [breaks]) hrows
  have onGroups :=
    Style.weigh_conditionClause (n := n) havingWord (by decide) (by simp [breaks]) hgroups
  rw [weigh_separated_zero (separates_blank n), frame.clauses, sum_clauses, sameItems, sameGrouping,
    clauseWeight, ← onRows, ← onGroups, Nat.add_assoc]
  rfl

end Query

end AnalyticsGateway.Sql
