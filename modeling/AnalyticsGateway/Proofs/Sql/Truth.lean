import AnalyticsGateway.Proofs.Sql.Junction

/-!
# What conditions say

The three-valued logic of SQL, and the truth of a condition for an assignment of truth values to its
tests. Joining, sorting and dropping repeats keep the truth of conditions (`combine_junctionParts`),
for which an assignment need only treat equal constants alike.
-/

namespace AnalyticsGateway.Sql

inductive Truth where
  | no | unknown | yes
deriving DecidableEq, Repr, Inhabited

namespace Truth

def and : Truth → Truth → Truth
  | no, _ | _, no => no
  | unknown, _ | _, unknown => unknown
  | yes, yes => yes

def or : Truth → Truth → Truth
  | yes, _ | _, yes => yes
  | unknown, _ | _, unknown => unknown
  | no, no => no

def not : Truth → Truth
  | no => yes
  | unknown => unknown
  | yes => no

/-- The truth values of a list under a connective, none of them being its neutral value. -/
def combine : Connective → List Truth → Truth
  | .and, truths => truths.foldr and yes
  | .or, truths => truths.foldr or no

/-! ## laws -/

theorem and_assoc (a b c : Truth) : (a.and b).and c = a.and (b.and c) := by
  cases a <;> cases b <;> cases c <;> rfl

theorem and_left_comm (a b c : Truth) : a.and (b.and c) = b.and (a.and c) := by
  cases a <;> cases b <;> cases c <;> rfl

@[simp] theorem combine_and_cons (t : Truth) (truths : List Truth) :
    combine .and (t :: truths) = t.and (combine .and truths) := rfl

@[simp] theorem combine_or_cons (t : Truth) (truths : List Truth) :
    combine .or (t :: truths) = t.or (combine .or truths) := rfl

/-- The value that settles a connective. -/
def dominant : Connective → Truth
  | .and => no
  | .or => yes

theorem combine_eq (connective : Connective) (truths : List Truth) :
    combine connective truths =
      if dominant connective ∈ truths then dominant connective
      else if unknown ∈ truths then unknown else (dominant connective).not := by
  induction truths with
  | nil => cases connective <;> rfl
  | cons t rest ih =>
    by_cases settled : dominant connective ∈ rest <;> by_cases open' : unknown ∈ rest <;>
      cases connective <;> cases t <;> simp_all [dominant, and, or, not]

/-- A combination depends on the set of its truth values alone. -/
theorem combine_congr {connective : Connective} {l r : List Truth} (h : ∀ t, t ∈ l ↔ t ∈ r) :
    combine connective l = combine connective r := by
  simp only [combine_eq, h]

theorem combine_append (connective : Connective) (l r : List Truth) :
    combine connective (l ++ r) =
      combine connective [combine connective l, combine connective r] := by
  induction l with
  | nil => cases connective <;> cases h : combine _ r <;> simp_all [combine, and, or]
  | cons t rest ih =>
    cases connective
    · simp only [List.cons_append, combine_and_cons, ih]
      exact (and_assoc ..).symm
    · simp only [List.cons_append, combine_or_cons, ih]
      generalize combine .or rest = a, combine .or r = b, combine .or [] = c
      cases t <;> cases a <;> cases b <;> cases c <;> rfl

@[simp] theorem combine_singleton (connective : Connective) (t : Truth) :
    combine connective [t] = t := by
  cases connective <;> cases t <;> rfl

/-- Combining in stages is combining at once. -/
theorem combine_flatMap {α : Type} (connective : Connective) (f : α → List Truth) (l : List α) :
    combine connective (l.flatMap f) =
      combine connective (l.map fun x => combine connective (f x)) := by
  induction l with
  | nil => rfl
  | cons x rest ih =>
    calc combine connective (f x ++ rest.flatMap f)
      _ = combine connective [combine connective (f x), combine connective (rest.flatMap f)] :=
        combine_append ..
      _ = combine connective
            ([combine connective (f x)] ++ rest.map fun x => combine connective (f x)) := by
        rw [ih, combine_append, combine_singleton]

end Truth

/-! ## assignments -/

/-- Truth values for the tests of terms and for guards, the same ones for equal constants. -/
structure Assignment where
  compare : Term → Comparison → Literal → Truth
  between : Term → Literal → Literal → Truth
  like : Term → String → Bool → Truth
  isNull : Term → Bool → Truth
  guard : Column → String → Truth
  compare_same : ∀ {t c a b}, a.same b = true → compare t c a = compare t c b
  between_same : ∀ {t a b c d}, a.same b = true → c.same d = true → between t a c = between t b d

namespace Assignment

variable (v : Assignment)

/-- Whether a term is among some constants: whether it equals one of them. -/
def among (t : Term) (values : List Literal) (negated : Bool) : Truth :=
  let found := Truth.combine .or (values.map (v.compare t .equal))
  if negated then found.not else found

def test (t : Term) : Test → Truth
  | .compare c value => v.compare t c value
  | .among values negated => v.among t values negated
  | .between low high => v.between t low high
  | .like pattern negated => v.like t pattern negated
  | .isNull negated => v.isNull t negated

mutual

def condition : Condition → Truth
  | .test t check => v.test t check
  | .guard column tenant => v.guard column tenant
  | .not c => (condition c).not
  | .group connective parts => Truth.combine connective (conditions parts)

def conditions : List Condition → List Truth
  | [] => []
  | c :: rest => condition c :: conditions rest

end

/-- The truth of a clause, which holds where it is absent. -/
def clause : Option Condition → Truth
  | some c => v.condition c
  | none => .yes

theorem conditions_eq (parts : List Condition) : v.conditions parts = parts.map v.condition := by
  induction parts with
  | nil => rfl
  | cons c rest ih => rw [conditions, ih, List.map_cons]

theorem condition_group (connective : Connective) (parts : List Condition) :
    v.condition (.group connective parts) =
      Truth.combine connective (parts.map v.condition) := by
  rw [condition, conditions_eq]

/-! ## equal values -/

theorem map_compare_sameAll {t : Term} {c : Comparison} {as bs : List Literal}
    (h : Literal.sameAll as bs = true) : as.map (v.compare t c) = bs.map (v.compare t c) := by
  induction as generalizing bs with
  | nil => cases bs with
    | nil => rfl
    | cons b bs => cases h
  | cons a as ih => cases bs with
    | nil => cases h
    | cons b bs =>
      obtain ⟨head, tail⟩ := Bool.and_eq_true_iff.1 h
      rw [List.map_cons, List.map_cons, v.compare_same head, ih tail]

theorem test_same {t : Term} {a b : Test} (h : a.same b = true) : v.test t a = v.test t b := by
  cases a <;> cases b <;>
    simp only [Test.same, Bool.and_eq_true, beq_iff_eq, Bool.false_eq_true] at h
  case compare.compare =>
    obtain ⟨rfl, h⟩ := h
    exact v.compare_same h
  case among.among =>
    obtain ⟨h, rfl⟩ := h
    simp only [test, among, v.map_compare_sameAll h]
  case between.between => exact v.between_same h.1 h.2
  case like.like =>
    obtain ⟨rfl, rfl⟩ := h
    rfl
  case isNull.isNull =>
    subst h
    rfl

mutual

theorem condition_same : ∀ {a b : Condition}, a.same b = true → v.condition a = v.condition b
  | .test t a, .test u b, h => by
    obtain ⟨ht, h⟩ := Bool.and_eq_true_iff.1 h
    rw [← eq_of_beq ht]
    exact v.test_same h
  | .guard c t, .guard d u, h => by
    obtain ⟨hc, ht⟩ := Bool.and_eq_true_iff.1 h
    cases eq_of_beq hc
    cases eq_of_beq ht
    rfl
  | .not a, .not b, h => by
    rw [condition, condition, condition_same (a := a) (b := b) h]
  | .group c as, .group d bs, h => by
    obtain ⟨hc, h⟩ := Bool.and_eq_true_iff.1 h
    rw [condition, condition, eq_of_beq hc, conditions_same h]
  | .test .., .guard .., h | .test .., .not .., h | .test .., .group .., h
  | .guard .., .test .., h | .guard .., .not .., h | .guard .., .group .., h
  | .not .., .test .., h | .not .., .guard .., h | .not .., .group .., h
  | .group .., .test .., h | .group .., .guard .., h | .group .., .not .., h => nomatch h

theorem conditions_same : ∀ {as bs : List Condition}, Condition.sameAll as bs = true →
    v.conditions as = v.conditions bs
  | [], [], _ => rfl
  | a :: as, b :: bs, h => by
    obtain ⟨head, tail⟩ := Bool.and_eq_true_iff.1 h
    rw [conditions, conditions, condition_same head, conditions_same tail]
  | [], _ :: _, h | _ :: _, [], h => nomatch h

end

/-! ## junctions -/

/-- Sorting values and dropping repeats leaves the same truth values. -/
theorem mem_map_distinct {α : Type} {key : α → String} {same : α → α → Bool} {f : α → Truth}
    (hf : ∀ a b, same a b = true → f a = f b) {l : List α} {t : Truth} :
    t ∈ (dropRepeats same (sortByKey key l)).map f ↔ t ∈ l.map f := by
  simp only [List.mem_map]
  constructor
  · rintro ⟨x, hx, rfl⟩
    exact ⟨x, mem_of_mem_distinct hx, rfl⟩
  · rintro ⟨x, hx, rfl⟩
    rcases mem_distinct_or_same key same hx with hx | ⟨y, hy, h⟩
    · exact ⟨x, hx, rfl⟩
    · exact ⟨y, hy, hf y x h⟩

theorem among_distinct (t : Term) (values : List Literal) (negated : Bool) :
    v.among t (Literal.distinct values) negated = v.among t values negated := by
  unfold among Literal.distinct
  rw [Truth.combine_congr fun _ => mem_map_distinct fun _ _ h => v.compare_same h]

theorem combine_partsOf (connective : Connective) (c : Condition) :
    Truth.combine connective ((Condition.partsOf connective c).map v.condition) =
      v.condition c := by
  cases c with
  | group other parts =>
    rw [Condition.partsOf]
    split
    · rename_i same
      rw [same, condition_group]
    · exact Truth.combine_singleton ..
  | _ => exact Truth.combine_singleton ..

theorem combine_junctionParts (connective : Connective) (parts : List Condition) :
    Truth.combine connective ((Condition.junctionParts connective parts).map v.condition) =
      Truth.combine connective (parts.map v.condition) := by
  unfold Condition.junctionParts
  rw [Truth.combine_congr fun _ => mem_map_distinct fun _ _ h => v.condition_same h,
    List.map_flatMap, Truth.combine_flatMap]
  simp only [v.combine_partsOf]

/-- A junction says what its conditions say under the connective. -/
theorem condition_junction {connective : Connective} {parts : List Condition} {c : Condition}
    (h : Condition.junction connective parts = some c) :
    v.condition c = Truth.combine connective (parts.map v.condition) := by
  rw [← combine_junctionParts]
  rcases Condition.junction_eq_some h with one | ⟨rfl, _⟩
  · rw [one]
    exact (Truth.combine_singleton ..).symm
  · rw [condition_group]

theorem clause_junction (parts : List Condition) :
    v.clause (Condition.junction .and parts) = Truth.combine .and (parts.map v.condition) := by
  cases h : Condition.junction .and parts with
  | none =>
    rw [← combine_junctionParts, Condition.junction_eq_none.1 h]
    rfl
  | some c => exact v.condition_junction h

end Assignment

end AnalyticsGateway.Sql
