import AnalyticsGateway.Proofs.Compile.Comparisons
import AnalyticsGateway.Proofs.Tenancy

/-!
# Compiled queries are grouped queries

The fields that a request names are selected in their order (`select_eq_ok`), and each test of a
compiled query is what a predicate of the request asks for (`exists_predicate_of_clause`). So every
compiled query groups rows by its dimensions, aggregates everything else that it selects, tests rows
before groups, and stays within the ceilings (`compiled_grouped`).
-/

namespace AnalyticsGateway

open Sql (Condition Connective Literal SelectItem Term Test)
open Sql.Condition (junction partsOf)

variable {d : Dataset} {c : Ceilings} {request : Request} {level : Level}

/-! ## tests -/

mutual

/-- The tests of a condition, each with the term that it is of. -/
def Sql.Condition.tests : Condition → List (Term × Test)
  | .test t check => [(t, check)]
  | .guard .. => []
  | .not c => c.tests
  | .group _ parts => Condition.testsAll parts

def Sql.Condition.testsAll : List Condition → List (Term × Test)
  | [] => []
  | c :: rest => c.tests ++ Condition.testsAll rest

end

namespace Sql.Condition

mutual

theorem terms_eq_map_tests : ∀ c : Condition, c.terms = c.tests.map (·.1)
  | .test .. => by rw [terms, tests, List.map_singleton]
  | .guard .. => by rw [terms, tests, List.map_nil]
  | .not c => by rw [terms, tests, terms_eq_map_tests c]
  | .group _ parts => by rw [terms, tests, termsAll_eq_map_tests parts]

theorem termsAll_eq_map_tests : ∀ parts : List Condition,
    termsAll parts = (testsAll parts).map (·.1)
  | [] => by rw [termsAll, testsAll, List.map_nil]
  | c :: rest => by
    rw [termsAll, testsAll, terms_eq_map_tests c, termsAll_eq_map_tests rest, List.map_append]

end

variable {k : Connective} {cs : List Condition} {g : Condition} {x : Term × Test}

theorem mem_testsAll {parts : List Condition} : x ∈ testsAll parts ↔ ∃ c ∈ parts, x ∈ c.tests := by
  induction parts with
  | nil => simp [testsAll]
  | cons c rest ih => simp [testsAll, ih]

theorem mem_tests_iff (k : Connective) (c : Condition) :
    x ∈ c.tests ↔ ∃ p ∈ partsOf k c, x ∈ p.tests := by
  rcases partsOf_cases k c with own | ⟨parts, rfl⟩
  · simp [own]
  · rw [partsOf_group, tests, mem_testsAll]

/-- A junction has no tests but those of its conditions. -/
theorem exists_of_mem_tests_junction (hg : junction k cs = some g) (h : x ∈ g.tests) :
    ∃ c ∈ cs, x ∈ c.tests := by
  have part : ∃ p ∈ junctionParts k cs, x ∈ p.tests := by
    rcases junction_eq_some hg with one | ⟨rfl, -⟩
    · exact ⟨g, one ▸ List.mem_singleton_self g, h⟩
    · rwa [tests, mem_testsAll] at h
  obtain ⟨p, hp, h⟩ := part
  obtain ⟨c, hc, hp⟩ := List.mem_flatMap.1 (mem_of_mem_distinct hp)
  exact ⟨c, hc, (mem_tests_iff k c).2 ⟨p, hp, h⟩⟩

end Sql.Condition

/-- The tests that a filter is compiled to are those that its predicates ask for, at its level. -/
theorem exists_predicate_of_filter {f : Filter} : ∀ {condition : Condition} {level : Level},
    d.compileFilter c f = .ok (condition, level) → ∀ x ∈ condition.tests,
      ∃ p ∈ f.predicates, d.condition c p = .ok (.test x.1 x.2, level) := by
  induction f using Filter.induction with
  | predicate p =>
    intro condition level h x hx
    rw [Dataset.compileFilter] at h
    obtain ⟨field, _, check, _, _, _, rfl, _⟩ := condition_eq_ok.1 h
    rw [Condition.tests, List.mem_singleton] at hx
    rw [Filter.predicates]
    exact ⟨p, List.mem_singleton_self p, hx ▸ h⟩
  | not f ih =>
    intro condition level h
    obtain ⟨_, hf, rfl⟩ := compileFilter_not.1 h
    rw [Condition.tests, Filter.predicates]
    exact ih hf
  | group k parts ih =>
    intro condition level h x hx
    obtain ⟨conditions, hj, -, compiled⟩ := compileFilter_group.1 h
    obtain ⟨part, hpart, hx⟩ := Condition.exists_of_mem_tests_junction hj hx
    obtain ⟨f, hf, h⟩ := exists_of_mem_forall₂ compiled hpart
    obtain ⟨p, hp, own⟩ := ih f hf h x hx
    rw [Filter.predicates_group]
    exact ⟨p, List.mem_flatMap.2 ⟨f, hf, hp⟩, own⟩

/-- The tests of a clause are those that predicates of the request ask for, at its level. -/
theorem exists_predicate_of_clause {q : Sql.Query} (h : d.compile c request = .ok q)
    {condition : Condition} (hclause : level.clause (q.selection, q.having) = some condition) :
    ∀ x ∈ condition.tests,
      ∃ p ∈ request.predicates, d.condition c p = .ok (.test x.1 x.2, level) := by
  intro x hx
  obtain ⟨conditions, joined, compiled⟩ := clause_eq_some (compile_conditions h) hclause
  obtain ⟨part, hpart, hx⟩ := Condition.exists_of_mem_tests_junction joined hx
  obtain ⟨f, hf, h⟩ := compiled part hpart
  obtain ⟨p, hp, own⟩ := exists_predicate_of_filter h x hx
  exact ⟨p, List.mem_flatMap.2 ⟨f, hf, hp⟩, own⟩

/-! ## kinds of constants -/

/-- What can be compared: the kinds that the types of fields fall into. -/
inductive ValueKind where
  | boolean | number | text
deriving DecidableEq, Repr

def FieldType.kind : FieldType → ValueKind
  | boolean => .boolean
  | integer | float | decimal => .number
  | string | date | timestamp => .text

def Sql.Literal.kind : Literal → ValueKind
  | boolean _ => .boolean
  | integer _ | float _ => .number
  | text _ => .text

section Constants

variable {field : String} {type : FieldType}

/-- A value is a constant of a type only if it is of the type's kind. -/
theorem kind_of_literalOf {value : Json} {literal : Literal}
    (h : literalOf field type value = .ok literal) : value ≠ .null ∧ literal.kind = type.kind := by
  cases value with
  | null | array | object => cases h
  | boolean | float | text =>
    rw [literalOf] at h
    split at h
    · cases h
      cases type <;> simp_all [Literal.kind, FieldType.kind, FieldType.isNumeric]
    · cases h
  | integer n =>
    rw [literalOf] at h
    split at h
    · have number : type.kind = .number := by
        cases type <;> simp_all [FieldType.kind, FieldType.isNumeric]
      refine ⟨?_, ?_⟩
      · intro null
        cases null
      · split at h <;> cases h <;> exact number.symm
    · cases h

/-- The constants of a test are those of its value. -/
theorem exists_constant_of_mem_literals {operator : Operator} {v : Json} {check : Test}
    (h : c.test field type operator v = .ok check) :
    ∀ l ∈ check.literals, ∃ value ∈ v.constants, literalOf field type value = .ok l := by
  cases operator with
  | compare comparison =>
    obtain ⟨literal, hliteral, h⟩ := bind_eq_ok.1 h
    cases h
    rw [Test.literals, List.forall_mem_singleton]
    refine ⟨v, ?_, hliteral⟩
    cases v <;> first | cases hliteral | exact List.mem_singleton_self _
  | among negated =>
    obtain ⟨values, hvalues, h⟩ := bind_eq_ok.1 h
    cases h
    obtain ⟨items, constants, rfl, -, -, hconstants, rfl⟩ := listOf_eq_ok hvalues
    intro l hl
    exact (mem_of_mapM hconstants).1 (Sql.mem_of_mem_distinct hl)
  | between =>
    obtain ⟨low, high, a, b, rfl, ha, hb, rfl⟩ := between_eq_ok h
    rw [Test.literals, List.forall_mem_cons, List.forall_mem_singleton]
    exact ⟨⟨low, by simp [Json.constants], ha⟩, ⟨high, by simp [Json.constants], hb⟩⟩
  | like negated =>
    unfold Ceilings.test at h
    simp only at h
    split at h <;> cases h
    intro l hl
    cases hl
  | isNull negated =>
    unfold Ceilings.test at h
    simp only at h
    split at h <;> cases h
    intro l hl
    cases hl

end Constants

/-! ## selected fields -/

/-- The fields of a name each, selected under those names, and no name twice. -/
structure Selects (d : Dataset) (level : Level) (selected : List SelectItem) (names : List String)
    (own : List SelectItem) : Prop where
  names : own.map (·.aliasName) = names
  fields : ∀ item ∈ own, ∃ field, d.field? item.aliasName = some field ∧
    field.term = item.term ∧ field.level = level
  distinct : (selected.map (·.aliasName)).Nodup → ((selected ++ own).map (·.aliasName)).Nodup

theorem select_eq_ok {selected items : List SelectItem} {names : List String}
    (h : d.select level selected names = .ok items) :
    ∃ own, items = selected ++ own ∧ Selects d level selected names own := by
  induction names generalizing selected with
  | nil =>
    cases h
    exact ⟨[], (List.append_nil _).symm, rfl, nofun, by simp⟩
  | cons name rest ih =>
    rw [Dataset.select] at h
    obtain ⟨field, hfield, h⟩ := bind_eq_ok.1 h
    obtain ⟨same, h⟩ := unless_eq_ok.1 h
    obtain ⟨fresh, h⟩ := unless_eq_ok.1 h
    obtain ⟨own, rfl, others⟩ := ih h
    refine ⟨⟨field.term, name⟩ :: own, by simp, ?_, ?_, ?_⟩
    · rw [List.map_cons, others.names]
    · refine List.forall_mem_cons.2 ⟨⟨field, resolve_eq_ok.1 hfield, rfl, not_not.1 same⟩, ?_⟩
      exact others.fields
    · intro distinct
      have fresh : name ∉ selected.map (·.aliasName) := by simpa using fresh
      have extended : ((selected ++ [SelectItem.mk field.term name]).map (·.aliasName)).Nodup := by
        rw [List.map_append, List.map_singleton, ← List.concat_eq_append]
        exact distinct.concat fresh
      simpa using others.distinct extended

theorem orderKey_eq_ok {selected : List SelectItem} {sort : SortField} {key : Sql.OrderKey}
    (h : d.orderKey selected sort = .ok key) :
    key.aliasName = sort.field ∧ sort.field ∈ selected.map (·.aliasName) := by
  unfold Dataset.orderKey at h
  split at h
  · obtain ⟨_, -, h⟩ := bind_eq_ok.1 h
    cases h
  · rename_i known
    cases h
    exact ⟨rfl, by simpa using known⟩

/-! ## ceilings -/

theorem check_eq_ok : c.check request = .ok () ↔ request.dimensions.length ≤ c.dimensions ∧
    request.metrics.length ≤ c.metrics ∧ Filter.depthAll request.filters ≤ c.filterDepth := by
  unfold Ceilings.check
  rw [unless_eq_ok, unless_eq_ok, Nat.not_lt, Nat.not_lt]
  refine and_congr_right fun _ => and_congr_right fun _ => ?_
  dsimp only
  split <;> simp_all [pure, Except.pure, throw, throwThe, MonadExceptOf.throw]

theorem rowLimit_eq_ok {limit : Nat} : c.rowLimit request = .ok limit ↔
    request.limit.getD c.defaultLimit = limit ∧ limit ≤ c.limit := by
  unfold Ceilings.rowLimit
  dsimp only
  split
  · rename_i more
    refine ⟨nofun, ?_⟩
    rintro ⟨rfl, fits⟩
    exact absurd more (Nat.not_lt.2 fits)
  · rename_i fits
    rw [Except.ok.injEq]
    refine ⟨?_, And.left⟩
    rintro rfl
    exact ⟨rfl, Nat.not_lt.1 fits⟩

theorem Filter.depth_le_depthAll {filters : List Filter} {f : Filter} (h : f ∈ filters) :
    f.depth ≤ depthAll filters := by
  induction filters with
  | nil => cases h
  | cons first rest ih =>
    rw [depthAll]
    rcases List.mem_cons.1 h with rfl | h
    · exact le_max_left ..
    · exact (ih h).trans (le_max_right ..)

theorem Sql.length_dropRepeats_le {α : Type} (same : α → α → Bool) (l : List α) :
    (dropRepeats same l).length ≤ l.length := by
  have go (last : α) (l : List α) : (dropRepeats.go same last l).length ≤ l.length := by
    induction l generalizing last with
    | nil => exact le_rfl
    | cons item rest ih =>
      rw [dropRepeats.go]
      split
      · exact (ih last).trans (Nat.le_succ _)
      · exact Nat.succ_le_succ (ih item)
  cases l with
  | nil => exact le_rfl
  | cons item rest => exact Nat.succ_le_succ (go item rest)

theorem Sql.Literal.length_distinct_le (values : List Literal) :
    (distinct values).length ≤ values.length :=
  (length_dropRepeats_le ..).trans_eq (sortByKey_perm ..).length_eq

/-- The constants of a list are no more than its items, which are within the ceiling. -/
theorem length_listOf_le {field : String} {type : FieldType} {v : Json} {values : List Literal}
    (h : c.listOf field type v = .ok values) :
    ∃ items, v = .array items ∧ items.length ≤ c.listLength ∧ values.length ≤ items.length := by
  obtain ⟨items, constants, rfl, -, fits, hconstants, rfl⟩ := listOf_eq_ok h
  have same : items.length = constants.length := (mapM_eq_ok.1 hconstants).length_eq
  exact ⟨items, rfl, fits, same ▸ Sql.Literal.length_distinct_le constants⟩

/-- Only a list is tested by being among its values. -/
theorem listOf_of_among {field : String} {type : FieldType} {operator : Operator} {v : Json}
    {values : List Literal} {negated : Bool}
    (h : c.test field type operator v = .ok (.among values negated)) :
    c.listOf field type v = .ok values := by
  cases operator with
  | compare comparison =>
    obtain ⟨_, _, h⟩ := bind_eq_ok.1 h
    cases h
  | among negated =>
    obtain ⟨_, hvalues, h⟩ := bind_eq_ok.1 h
    cases h
    exact hvalues
  | between =>
    obtain ⟨_, _, _, _, _, _, _, h⟩ := between_eq_ok h
    cases h
  | like negated | isNull negated =>
    unfold Ceilings.test at h
    simp only at h
    split at h <;> cases h

/-! ## compiled queries -/

/-- A query is grouped by the dimensions of a request, and aggregates are looked at only where
groups are. The argument of an aggregate is read from a row, so that none is within another. -/
structure Sql.Query.GroupedFor (q : Query) (d : Dataset) (request : Request) : Prop where
  aliases : q.projection.map (·.aliasName) = request.dimensions ++ request.metrics
  distinct : (q.projection.map (·.aliasName)).Nodup
  fields : ∀ item ∈ q.projection, ∃ field, d.field? item.aliasName = some field ∧
    field.term = item.term
  grouping : q.grouping = (q.projection.take request.dimensions.length).map (·.term)
  dimensions : ∀ t ∈ q.grouping, t.isAggregate = false
  metrics : ∀ item ∈ q.projection.drop request.dimensions.length, ∃ function argument,
    item.term = .aggregate function argument
  selection : ∀ condition ∈ q.selection, condition.guards = [] ∧
    ∀ t ∈ condition.terms, t.isAggregate = false
  having : ∀ condition ∈ q.having, condition.guards = [] ∧
    ∀ t ∈ condition.terms, t.isAggregate = true
  order : q.order.map (·.aliasName) = request.sort.map (·.field)
  ordered : ∀ key ∈ q.order, key.aliasName ∈ q.projection.map (·.aliasName)

/-- The tests of rows and of groups. -/
def Sql.Query.tests (q : Query) : List (Term × Test) :=
  (q.selection.toList ++ q.having.toList).flatMap Condition.tests

/-- A test is of a field that a predicate names, against values of the predicate, each of the kind
of the field. -/
def Predicate.AskedBy (d : Dataset) (p : Predicate) (t : Term) (check : Test) : Prop :=
  ∃ field, d.field? p.field = some field ∧ field.term = t ∧ ∀ l ∈ check.literals,
    l.kind = field.type.kind ∧ ∃ value ∈ p.value.constants, value ≠ .null ∧
      literalOf p.field field.type value = .ok l

/-- The ceilings that a request and what it is compiled to keep to. -/
structure Ceilings.Bound (c : Ceilings) (request : Request) (q : Sql.Query) : Prop where
  dimensions : request.dimensions.length ≤ c.dimensions
  metrics : request.metrics.length ≤ c.metrics
  depth : ∀ f ∈ request.filters, f.depth ≤ c.filterDepth
  asked : ∀ p ∈ request.predicates, ∀ negated, Operator.parse? p.operator = some (.among negated) →
    ∃ items, p.value = .array items ∧ items.length ≤ c.listLength
  compared : ∀ x ∈ q.tests, ∀ values negated, x.2 = .among values negated →
    values.length ≤ c.listLength
  limit : q.limit ≤ c.limit

theorem Level.isAggregate_of_ofTerm {t : Term} (h : Level.ofTerm t = level) :
    t.isAggregate = decide (level = .groups) := by
  subst h
  cases t <;> rfl

/-- A clause tests terms of its level only, and holds no guard. -/
theorem clause_on_level {q : Sql.Query} (h : d.compile c request = .ok q) {condition : Condition}
    (hclause : level.clause (q.selection, q.having) = some condition) :
    condition.guards = [] ∧ ∀ t ∈ condition.terms, t.isAggregate = decide (level = .groups) := by
  refine ⟨(onLevel_clause (compile_conditions h) hclause).guards, fun t ht => ?_⟩
  rw [Condition.terms_eq_map_tests] at ht
  obtain ⟨x, hx, rfl⟩ := List.mem_map.1 ht
  obtain ⟨p, -, own⟩ := exists_predicate_of_clause h hclause x hx
  have onLevel := onLevel_condition own
  rw [Condition.OnLevel] at onLevel
  exact Level.isAggregate_of_ofTerm onLevel

/-- Every test of a query is what one of its predicates asks for. -/
theorem exists_predicate_of_mem_tests {q : Sql.Query} (h : d.compile c request = .ok q) :
    ∀ x ∈ q.tests, ∃ p ∈ request.predicates, ∃ level,
      d.condition c p = .ok (.test x.1 x.2, level) := by
  intro x hx
  obtain ⟨condition, hcondition, hx⟩ := List.mem_flatMap.1 hx
  have clause : ∃ level : Level, level.clause (q.selection, q.having) = some condition := by
    rcases List.mem_append.1 hcondition with hs | hh
    · exact ⟨.rows, Option.mem_toList.1 hs⟩
    · exact ⟨.groups, Option.mem_toList.1 hh⟩
  obtain ⟨level, hclause⟩ := clause
  obtain ⟨p, hp, own⟩ := exists_predicate_of_clause h hclause x hx
  exact ⟨p, hp, level, own⟩

theorem askedBy_of_condition {p : Predicate} {t : Term} {check : Test}
    (h : d.condition c p = .ok (.test t check, level)) : p.AskedBy d t check := by
  obtain ⟨field, operator, _, hfield, -, hcheck, same, -⟩ := condition_eq_ok.1 h
  cases same
  refine ⟨field, hfield, rfl, fun l hl => ?_⟩
  obtain ⟨value, hvalue, hl⟩ := exists_constant_of_mem_literals hcheck l hl
  obtain ⟨given, kind⟩ := kind_of_literalOf hl
  exact ⟨kind, value, hvalue, given, hl⟩

theorem groupedFor_compile {q : Sql.Query} (h : d.compile c request = .ok q) :
    q.GroupedFor d request := by
  have clauses := @clause_on_level d c request
  obtain ⟨parts, hparts, rfl⟩ := compile_eq_ok.1 h
  obtain ⟨dimensions, first, rows⟩ := select_eq_ok hparts.dimensions
  obtain ⟨metrics, projection, groups⟩ := select_eq_ok hparts.projection
  rw [List.nil_append] at first
  rw [first] at projection groups
  have count : dimensions.length = request.dimensions.length := by
    rw [← rows.names, List.length_map]
  have ordered : List.Forall₂ (fun sort key => d.orderKey parts.projection sort = .ok key)
      request.sort parts.order := mapM_eq_ok.1 hparts.order
  refine {
    aliases := ?_, distinct := ?_, fields := ?_, grouping := ?_, dimensions := ?_, metrics := ?_
    selection := fun condition hc => clauses h (show Level.rows.clause _ = some condition from hc)
    having := fun condition hc => clauses h (show Level.groups.clause _ = some condition from hc)
    order := ?_, ordered := ?_ }
  · rw [Compiled.query, projection, List.map_append, rows.names, groups.names]
  · have distinct := groups.distinct (rows.distinct List.nodup_nil)
    rwa [Compiled.query, projection]
  · intro item hitem
    rw [Compiled.query, projection, List.mem_append] at hitem
    rcases hitem with hitem | hitem
    · obtain ⟨field, known, same, -⟩ := rows.fields item hitem
      exact ⟨field, known, same⟩
    · obtain ⟨field, known, same, -⟩ := groups.fields item hitem
      exact ⟨field, known, same⟩
  · rw [Compiled.query, projection, ← count, List.take_left, first]
  · intro t ht
    rw [Compiled.query, first] at ht
    obtain ⟨item, hitem, rfl⟩ := List.mem_map.1 ht
    obtain ⟨field, known, same, level⟩ := rows.fields item hitem
    exact Level.isAggregate_of_ofTerm (same ▸ (ofTerm_field known).trans level)
  · intro item hitem
    rw [Compiled.query, projection, ← count, List.drop_left] at hitem
    obtain ⟨field, known, same, level⟩ := groups.fields item hitem
    have aggregate : item.term.isAggregate = true :=
      Level.isAggregate_of_ofTerm (same ▸ (ofTerm_field known).trans level)
    cases hterm : item.term with
    | aggregate function argument => exact ⟨function, argument, rfl⟩
    | row | truncated => cases hterm ▸ aggregate
  · exact (map_eq_of_forall₂ ordered fun sort _ key h => (orderKey_eq_ok h).1.symm).symm
  · intro key hkey
    obtain ⟨sort, -, h⟩ := exists_of_mem_forall₂ ordered hkey
    obtain ⟨same, known⟩ := orderKey_eq_ok h
    exact same ▸ known

theorem bound_compile {q : Sql.Query} (h : d.compile c request = .ok q) : c.Bound request q := by
  have asked := exists_condition_compile h
  have tested := exists_predicate_of_mem_tests h
  obtain ⟨parts, hparts, rfl⟩ := compile_eq_ok.1 h
  obtain ⟨dimensions, metrics, depth⟩ := check_eq_ok.1 hparts.small
  refine ⟨dimensions, metrics, fun f hf => (Filter.depth_le_depthAll hf).trans depth, ?_, ?_, ?_⟩
  · intro p hp negated operator
    obtain ⟨⟨_, _⟩, own⟩ := asked p hp
    obtain ⟨_, _, _, -, parsed, hcheck, -⟩ := condition_eq_ok.1 own
    cases operator.symm.trans parsed
    obtain ⟨values, hvalues, -⟩ := bind_eq_ok.1 hcheck
    obtain ⟨items, given, fits, -⟩ := length_listOf_le hvalues
    exact ⟨items, given, fits⟩
  · rintro ⟨t, check⟩ hx values negated rfl
    obtain ⟨p, -, level, own⟩ := tested _ hx
    obtain ⟨_, _, _, -, -, hcheck, same, -⟩ := condition_eq_ok.1 own
    cases same
    obtain ⟨_, -, fits, fewer⟩ := length_listOf_le (listOf_of_among hcheck)
    exact fewer.trans fits
  · exact (rowLimit_eq_ok.1 hparts.limit).2

/-- Every compiled query is a grouped query for its request, tests fields against values of their
kinds, and keeps to the ceilings. -/
theorem compiled_grouped (d : Dataset) (c : Ceilings) (request : Request) (q : Sql.Query)
    (h : d.compile c request = .ok q) :
    q.GroupedFor d request ∧
      (∀ x ∈ q.tests, ∃ p ∈ request.predicates, p.AskedBy d x.1 x.2) ∧ c.Bound request q := by
  refine ⟨groupedFor_compile h, fun x hx => ?_, bound_compile h⟩
  obtain ⟨p, hp, level, own⟩ := exists_predicate_of_mem_tests h x hx
  exact ⟨p, hp, askedBy_of_condition own⟩

theorem compiled_grouped_orders : ∃ q, orders.compile {} (ordersRequest nestedFilters) = .ok q ∧
    q.GroupedFor orders (ordersRequest nestedFilters) ∧
      (∀ x ∈ q.tests, ∃ p ∈ (ordersRequest nestedFilters).predicates, p.AskedBy orders x.1 x.2) ∧
        Ceilings.Bound {} (ordersRequest nestedFilters) q := by
  obtain ⟨q, h⟩ := exists_compile.2
    (by decide : orders.accepts {} (ordersRequest nestedFilters) = true)
  exact ⟨q, h, compiled_grouped orders {} (ordersRequest nestedFilters) q h⟩

end AnalyticsGateway
