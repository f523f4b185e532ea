import AnalyticsGateway.Proofs.Compile.Regrouping
import AnalyticsGateway.Proofs.Sql.Encoding

/-!
# Comparisons with integers

An integer that fits in 64 bits is compared with as it is: whatever repeats a query drops, it has
the comparisons of fields with integers that its predicates ask for, and no others
(`integer_mem_compile`).
-/

namespace AnalyticsGateway

open Sql (Condition Connective Literal Term Test)
open Sql.Condition (junction partsOf)

variable {d : Dataset} {c : Ceilings} {n m : ℤ}

/-! ## integers that fit -/

theorem literalOf_integer {field : String} {type : FieldType} {n : ℤ} {literal : Literal}
    (fits : FitsWord n) (h : literalOf field type (.integer n) = .ok literal) :
    literal = .integer n := by
  rw [literalOf] at h
  split at h
  · split at h
    · cases h
      rfl
    · rename_i large
      exact absurd fits large
  · cases h

theorem literalOf_eq_integer {field : String} {type : FieldType} {value : Json}
    (h : literalOf field type value = .ok (.integer n)) : value = .integer n := by
  cases value with
  | null | array | object => cases h
  | boolean | float | text =>
    rw [literalOf] at h
    split at h <;> cases h
  | integer k =>
    rw [literalOf] at h
    split at h
    · split at h <;> cases h
      rfl
    · cases h

theorem literalOf_integer_iff {field : String} {type : FieldType} {value : Json}
    {literal : Literal} (fits : FitsWord n) (h : literalOf field type value = .ok literal) :
    literal = .integer n ↔ value = .integer n := by
  constructor
  · rintro rfl
    exact literalOf_eq_integer h
  · rintro rfl
    exact literalOf_integer fits h

/-! ## comparisons -/

mutual

/-- The constants in a condition, each with the term that it is compared with. -/
def Sql.Condition.comparisons : Condition → List (Term × Literal)
  | .test t check => check.literals.map (t, ·)
  | .guard .. => []
  | .not c => c.comparisons
  | .group _ parts => Condition.comparisonsAll parts

def Sql.Condition.comparisonsAll : List Condition → List (Term × Literal)
  | [] => []
  | c :: rest => c.comparisons ++ Condition.comparisonsAll rest

end

def Sql.Query.comparisons (q : Sql.Query) : List (Term × Literal) :=
  (q.selection.map Condition.comparisons).getD [] ++ (q.having.map Condition.comparisons).getD []

namespace Sql

variable {t : Term}

theorem Literal.eq_integer_of_same {a : Literal} (h : a.same (.integer n) = true) :
    a = .integer n := by
  cases a <;> simp_all [Literal.same]

theorem Literal.integer_mem_of_sameAll : ∀ {as bs : List Literal}, sameAll as bs = true →
    .integer n ∈ bs → .integer n ∈ as
  | [], [], _, mem => mem
  | a :: as, b :: bs, h, mem => by
    rw [sameAll, Bool.and_eq_true] at h
    rcases List.mem_cons.1 mem with rfl | mem
    · exact eq_integer_of_same h.1 ▸ List.mem_cons_self
    · exact List.mem_cons_of_mem _ (integer_mem_of_sameAll h.2 mem)

theorem Test.integer_mem_of_same {a b : Test} (h : a.same b = true)
    (mem : Literal.integer n ∈ b.literals) : Literal.integer n ∈ a.literals := by
  cases a <;> cases b
  all_goals simp only [Test.same, Bool.and_eq_true, Bool.false_eq_true, beq_iff_eq] at h
  case compare.compare =>
    rw [literals, List.mem_singleton] at mem ⊢
    exact (Literal.eq_integer_of_same (mem ▸ h.2)).symm
  case among.among => exact Literal.integer_mem_of_sameAll h.1 mem
  case between.between low high low' high' =>
    have bounds : Literal.sameAll [low, high] [low', high'] = true := by
      simp [Literal.sameAll, h]
    exact Literal.integer_mem_of_sameAll bounds mem
  all_goals cases mem

namespace Condition

mutual

/-- Equal conditions compare the same integers with the same terms. -/
theorem integer_mem_of_same : ∀ {a b : Condition}, a.same b = true →
    (t, Literal.integer n) ∈ b.comparisons → (t, Literal.integer n) ∈ a.comparisons
  | .test u a, .test v b, h, mem => by
    rw [same, Bool.and_eq_true, beq_iff_eq] at h
    rw [comparisons, List.mem_map] at mem ⊢
    obtain ⟨l, hl, eq⟩ := mem
    cases eq
    exact ⟨_, Test.integer_mem_of_same h.2 hl, by rw [h.1]⟩
  | .not a, .not b, h, mem => by
    rw [same] at h
    rw [comparisons] at mem ⊢
    exact integer_mem_of_same h mem
  | .group k as, .group l bs, h, mem => by
    rw [same, Bool.and_eq_true] at h
    rw [comparisons] at mem ⊢
    exact integer_mem_of_sameAll h.2 mem
  | _, .guard .., _, mem => by
    rw [comparisons] at mem
    cases mem
  | .guard .., .test .., h, _ | .guard .., .not _, h, _ | .guard .., .group .., h, _
  | .not _, .test .., h, _ | .not _, .group .., h, _ | .test .., .not _, h, _
  | .test .., .group .., h, _ | .group .., .test .., h, _ | .group .., .not _, h, _ => by
    simp [same] at h

theorem integer_mem_of_sameAll : ∀ {as bs : List Condition}, sameAll as bs = true →
    (t, Literal.integer n) ∈ comparisonsAll bs → (t, Literal.integer n) ∈ comparisonsAll as
  | [], [], _, mem => mem
  | a :: as, b :: bs, h, mem => by
    rw [sameAll, Bool.and_eq_true] at h
    rw [comparisonsAll, List.mem_append] at mem ⊢
    exact mem.imp (integer_mem_of_same h.1) (integer_mem_of_sameAll h.2)

end

theorem mem_comparisonsAll {parts : List Condition} {x : Term × Literal} :
    x ∈ comparisonsAll parts ↔ ∃ c ∈ parts, x ∈ c.comparisons := by
  induction parts with
  | nil => simp [comparisonsAll]
  | cons c rest ih => simp [comparisonsAll, ih]

theorem mem_comparisons_iff (k : Connective) (c : Condition) {x : Term × Literal} :
    x ∈ c.comparisons ↔ ∃ p ∈ partsOf k c, x ∈ p.comparisons := by
  rcases partsOf_cases k c with own | ⟨parts, rfl⟩
  · simp [own]
  · rw [partsOf_group, comparisons, mem_comparisonsAll]

variable {k : Connective} {cs : List Condition} {g : Condition}

theorem mem_comparisons_junction (hg : junction k cs = some g) {x : Term × Literal} :
    x ∈ g.comparisons ↔ ∃ p ∈ junctionParts k cs, x ∈ p.comparisons := by
  rcases junction_eq_some hg with one | ⟨rfl, -⟩
  · simp [one]
  · rw [comparisons, mem_comparisonsAll]

/-- A junction compares with the integers that its conditions do. -/
theorem integer_mem_junction (hg : junction k cs = some g) :
    (t, Literal.integer n) ∈ g.comparisons ↔
      ∃ c ∈ cs, (t, Literal.integer n) ∈ c.comparisons := by
  rw [mem_comparisons_junction hg]
  constructor
  · rintro ⟨p, hp, mem⟩
    obtain ⟨c, hc, hp⟩ := List.mem_flatMap.1 (mem_of_mem_distinct hp)
    exact ⟨c, hc, (mem_comparisons_iff k c).2 ⟨p, hp, mem⟩⟩
  · rintro ⟨c, hc, mem⟩
    obtain ⟨p, hp, mem⟩ := (mem_comparisons_iff k c).1 mem
    rcases mem_distinct_or_same sortKey same (List.mem_flatMap.2 ⟨c, hc, hp⟩) with kept | kept
    · exact ⟨p, kept, mem⟩
    · obtain ⟨other, hother, equal⟩ := kept
      exact ⟨other, hother, integer_mem_of_same equal mem⟩

end Condition

end Sql

/-! ## integers of filters -/

mutual

def Filter.predicates : Filter → List Predicate
  | .predicate p => [p]
  | .not f => f.predicates
  | .and parts | .or parts => Filter.predicatesAll parts

def Filter.predicatesAll : List Filter → List Predicate
  | [] => []
  | f :: rest => f.predicates ++ Filter.predicatesAll rest

end

theorem Filter.predicatesAll_eq (parts : List Filter) :
    Filter.predicatesAll parts = parts.flatMap Filter.predicates := by
  induction parts with
  | nil => rfl
  | cons f rest ih => rw [predicatesAll, ih, List.flatMap_cons]

theorem Filter.predicates_group (k : Connective) (parts : List Filter) :
    (Filter.group k parts).predicates = parts.flatMap Filter.predicates := by
  cases k <;> rw [group, predicates, predicatesAll_eq]

def Request.predicates (r : Request) : List Predicate := r.filters.flatMap Filter.predicates

/-- The integers that the predicates of a request compare with. -/
def Request.HoldsInteger (r : Request) (n : ℤ) : Prop :=
  ∃ p ∈ r.predicates, .integer n ∈ p.value.constants

section Constants

variable {field : String} {type : FieldType}

theorem between_eq_ok {v : Json} {check : Test}
    (h : c.test field type .between v = .ok check) : ∃ low high a b, v = .array [low, high] ∧
      literalOf field type low = .ok a ∧ literalOf field type high = .ok b ∧
        check = .between a b := by
  unfold Ceilings.test at h
  simp only at h
  split at h
  · rename_i low high
    obtain ⟨a, ha, h⟩ := bind_eq_ok.1 h
    obtain ⟨b, hb, h⟩ := bind_eq_ok.1 h
    cases h
    exact ⟨low, high, a, b, rfl, ha, hb, rfl⟩
  · cases h

theorem integer_mem_distinct {items : List Json} {constants : List Literal} (fits : FitsWord n)
    (h : items.mapM (literalOf field type) = .ok constants) :
    .integer n ∈ Literal.distinct constants ↔ .integer n ∈ items := by
  constructor
  · intro mem
    obtain ⟨item, hitem, h⟩ := (mem_of_mapM h).1 (Sql.mem_of_mem_distinct mem)
    exact literalOf_eq_integer h ▸ hitem
  · intro mem
    obtain ⟨l, hl⟩ := exists_of_mem_forall₂_left (mapM_eq_ok.1 h) mem
    have own : .integer n ∈ constants :=
      (mem_of_mapM h).2 ⟨_, mem, literalOf_integer fits hl ▸ hl⟩
    rcases Sql.mem_distinct_or_same Literal.sortKey Literal.same own with kept | ⟨l, kept, equal⟩
    · exact kept
    · exact Literal.eq_integer_of_same equal ▸ kept

/-- A test compares with the integers of its value. -/
theorem integer_mem_literals {operator : Operator} {v : Json} {check : Test} (fits : FitsWord n)
    (h : c.test field type operator v = .ok check) :
    .integer n ∈ check.literals ↔ .integer n ∈ v.constants := by
  cases operator with
  | compare comparison =>
    obtain ⟨literal, hliteral, h⟩ := bind_eq_ok.1 h
    cases h
    rw [Test.literals, List.mem_singleton, eq_comm, literalOf_integer_iff fits hliteral]
    cases v <;> first | cases hliteral | simp [Json.constants, eq_comm]
  | among negated =>
    obtain ⟨values, hvalues, h⟩ := bind_eq_ok.1 h
    cases h
    obtain ⟨items, constants, rfl, -, -, hconstants, rfl⟩ := listOf_eq_ok hvalues
    exact integer_mem_distinct fits hconstants
  | between =>
    obtain ⟨low, high, a, b, rfl, ha, hb, rfl⟩ := between_eq_ok h
    simp only [Test.literals, Json.constants, List.mem_cons, List.not_mem_nil, or_false]
    rw [eq_comm, literalOf_integer_iff fits ha, eq_comm, eq_comm (b := b),
      literalOf_integer_iff fits hb, eq_comm (b := high)]
  | like negated =>
    unfold Ceilings.test at h
    simp only at h
    split at h <;> cases h
    simp [Test.literals, Json.constants]
  | isNull negated =>
    unfold Ceilings.test at h
    simp only at h
    split at h <;> cases h
    simp [Test.literals, Json.constants]

end Constants

variable {level : Level} {t : Term}

/-- Every predicate of a filter that is compiled is compiled itself, at the same level. -/
theorem exists_condition {f : Filter} : ∀ {condition : Condition} {level : Level},
    d.compileFilter c f = .ok (condition, level) →
      ∀ p ∈ f.predicates, ∃ own, d.condition c p = .ok (own, level) := by
  induction f using Filter.induction with
  | predicate p =>
    intro condition level h
    rw [Dataset.compileFilter] at h
    rw [Filter.predicates, List.forall_mem_singleton]
    exact ⟨condition, h⟩
  | not f ih =>
    intro condition level h
    obtain ⟨_, hf, -⟩ := compileFilter_not.1 h
    rw [Filter.predicates]
    exact ih hf
  | group k parts ih =>
    intro condition level h p hp
    obtain ⟨_, -, -, compiled⟩ := compileFilter_group.1 h
    rw [Filter.predicates_group] at hp
    obtain ⟨f, hf, hp⟩ := List.mem_flatMap.1 hp
    obtain ⟨_, h⟩ := exists_of_mem_forall₂_left compiled hf
    exact ih f hf h p hp

/-- A filter is compiled to comparisons of the fields that it names with the integers that it
names them with. -/
theorem integer_mem_compileFilter (fits : FitsWord n) {f : Filter} :
    ∀ {condition : Condition} {level : Level}, d.compileFilter c f = .ok (condition, level) →
      ((t, Literal.integer n) ∈ condition.comparisons ↔ ∃ p ∈ f.predicates, ∃ field,
        d.field? p.field = some field ∧ field.term = t ∧ .integer n ∈ p.value.constants) := by
  induction f using Filter.induction with
  | predicate p =>
    intro condition level h
    rw [Dataset.compileFilter] at h
    obtain ⟨field, _, check, hfield, -, hcheck, rfl, -⟩ := condition_eq_ok.1 h
    simp [Condition.comparisons, Filter.predicates, hfield, integer_mem_literals fits hcheck,
      and_comm]
  | not f ih =>
    intro condition level h
    obtain ⟨_, hf, rfl⟩ := compileFilter_not.1 h
    rw [Condition.comparisons, Filter.predicates]
    exact ih hf
  | group k parts ih =>
    intro condition level h
    obtain ⟨conditions, hj, -, compiled⟩ := compileFilter_group.1 h
    rw [Condition.integer_mem_junction hj, Filter.predicates_group]
    simp only [List.mem_flatMap]
    constructor
    · rintro ⟨part, hpart, mem⟩
      obtain ⟨f, hf, h⟩ := exists_of_mem_forall₂ compiled hpart
      obtain ⟨p, hp, own⟩ := (ih f hf h).1 mem
      exact ⟨p, ⟨f, hf, hp⟩, own⟩
    · rintro ⟨p, ⟨f, hf, hp⟩, own⟩
      obtain ⟨part, hpart, h⟩ := exists_of_mem_forall₂ compiled.flip hf
      exact ⟨part, hpart, (ih f hf h).2 ⟨p, hp, own⟩⟩

/-! ## integers of queries -/

theorem Sql.Condition.junctionParts_eq_nil {k : Connective} {cs : List Condition}
    (h : junctionParts k cs = []) : cs.flatMap (partsOf k) = [] := by
  have sorted := Sql.dropRepeats_eq_nil.1 h
  have perm := Sql.sortByKey_perm sortKey (cs.flatMap (partsOf k))
  rw [sorted] at perm
  exact List.nil_perm.1 perm

theorem integer_mem_clause {k : Connective} {cs : List Condition} :
    (t, Literal.integer n) ∈ ((junction k cs).map Condition.comparisons).getD [] ↔
      ∃ c ∈ cs, (t, Literal.integer n) ∈ c.comparisons := by
  cases hj : junction k cs with
  | some g => exact Condition.integer_mem_junction hj
  | none =>
    have empty := Condition.junctionParts_eq_nil (Condition.junction_eq_none.1 hj)
    simp only [Option.map_none, Option.getD_none, List.not_mem_nil, false_iff]
    rintro ⟨c, hc, mem⟩
    obtain ⟨p, hp, -⟩ := (Condition.mem_comparisons_iff k c).1 mem
    rw [List.flatMap_eq_nil_iff] at empty
    simp [empty c hc] at hp

/-- The conditions of a level. -/
def atLevel (level : Level) (compiled : List (Condition × Level)) : List Condition :=
  compiled.filterMap fun (condition, own) => if own = level then some condition else none

theorem conditions_eq_ok {filters : List Filter} {r : Option Condition × Option Condition}
    (h : d.conditions c filters = .ok r) : ∃ compiled,
      List.Forall₂ (fun f r => d.compileFilter c f = .ok r) filters compiled ∧
        ∀ level : Level, level.clause r = junction .and (atLevel level compiled) := by
  obtain ⟨compiled, hcompiled, h⟩ := bind_eq_ok.1 h
  cases h
  exact ⟨compiled, mapM_eq_ok.1 hcompiled, fun level => by cases level <;> rfl⟩

theorem mem_atLevel {compiled : List (Condition × Level)} {condition : Condition} :
    condition ∈ atLevel level compiled ↔ (condition, level) ∈ compiled := by
  simp [atLevel]

/-- A query is compiled to comparisons of the fields that its predicates name with the integers
that they name them with. -/
theorem integer_mem_compile (fits : FitsWord n) {request : Request} {q : Sql.Query}
    (h : d.compile c request = .ok q) :
    (t, Literal.integer n) ∈ q.comparisons ↔ ∃ p ∈ request.predicates, ∃ field,
      d.field? p.field = some field ∧ field.term = t ∧ .integer n ∈ p.value.constants := by
  obtain ⟨compiled, hcompiled, clauses⟩ := conditions_eq_ok (compile_conditions h)
  have rows : q.selection = junction .and (atLevel .rows compiled) := clauses .rows
  have groups : q.having = junction .and (atLevel .groups compiled) := clauses .groups
  rw [Sql.Query.comparisons, List.mem_append, rows, groups, integer_mem_clause,
    integer_mem_clause, Request.predicates]
  simp only [mem_atLevel, List.mem_flatMap]
  constructor
  · have source {condition : Condition} {level : Level} (hmem : (condition, level) ∈ compiled)
        (mem : (t, Literal.integer n) ∈ condition.comparisons) : ∃ p,
        (∃ f ∈ request.filters, p ∈ f.predicates) ∧ ∃ field, d.field? p.field = some field ∧
          field.term = t ∧ .integer n ∈ p.value.constants := by
      obtain ⟨f, hf, h⟩ := exists_of_mem_forall₂ hcompiled hmem
      obtain ⟨p, hp, own⟩ := (integer_mem_compileFilter fits h).1 mem
      exact ⟨p, ⟨f, hf, hp⟩, own⟩
    rintro (⟨condition, hmem, mem⟩ | ⟨condition, hmem, mem⟩) <;> exact source hmem mem
  · rintro ⟨p, ⟨f, hf, hp⟩, own⟩
    obtain ⟨⟨condition, level⟩, hmem, h⟩ := exists_of_mem_forall₂ hcompiled.flip hf
    have mem := (integer_mem_compileFilter fits h).2 ⟨p, hp, own⟩
    cases level with
    | rows => exact .inl ⟨condition, hmem, mem⟩
    | groups => exact .inr ⟨condition, hmem, mem⟩

theorem exists_condition_compile {request : Request} {q : Sql.Query}
    (h : d.compile c request = .ok q) :
    ∀ p ∈ request.predicates, ∃ compiled, d.condition c p = .ok compiled := by
  intro p hp
  obtain ⟨f, hf, hp⟩ := List.mem_flatMap.1 hp
  obtain ⟨compiled, hcompiled, -⟩ := conditions_eq_ok (compile_conditions h)
  obtain ⟨⟨_, level⟩, h⟩ := exists_of_mem_forall₂_left hcompiled hf
  obtain ⟨own, h⟩ := exists_condition h p hp
  exact ⟨(own, level), h⟩

/-- Every predicate of a request that is compiled names a field. -/
theorem exists_field_compile {request : Request} {q : Sql.Query}
    (h : d.compile c request = .ok q) :
    ∀ p ∈ request.predicates, ∃ field, d.field? p.field = some field := by
  intro p hp
  obtain ⟨⟨_, _⟩, h⟩ := exists_condition_compile h p hp
  obtain ⟨field, _, _, hfield, -⟩ := condition_eq_ok.1 h
  exact ⟨field, hfield⟩

end AnalyticsGateway
