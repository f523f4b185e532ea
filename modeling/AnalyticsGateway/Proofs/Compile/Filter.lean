import AnalyticsGateway.Compile.Filter
import AnalyticsGateway.Compile.Query
import AnalyticsGateway.Proofs.Except

/-!
# What requests are compiled to

The parts that a query is made of, each from its part of the request (`compile_eq_ok`). A predicate
becomes the test that its operator and value ask for, a group the junction of what its parts are,
all of them of one level (`compileFilter_group`).
-/

namespace AnalyticsGateway

open Sql (Condition Connective)

variable {d : Dataset} {c : Ceilings} {level : Level}

/-! ## predicates -/

theorem resolve_eq_ok {name : String} {field : ResolvedField} :
    d.resolve name = .ok field ↔ d.field? name = some field := by
  unfold Dataset.resolve
  cases d.field? name <;> simp

theorem listOf_eq_ok {field : String} {type : FieldType} {value : Json}
    {values : List Sql.Literal} (h : c.listOf field type value = .ok values) :
    ∃ items constants, value = .array items ∧ items ≠ [] ∧ items.length ≤ c.listLength ∧
      items.mapM (literalOf field type) = .ok constants ∧
      values = Sql.Literal.distinct constants := by
  unfold Ceilings.listOf at h
  split at h
  · rename_i item rest
    obtain ⟨fits, h⟩ := unless_eq_ok.1 h
    obtain ⟨constants, hconstants, h⟩ := bind_eq_ok.1 h
    cases h
    exact ⟨item :: rest, constants, rfl, by simp, Nat.not_lt.1 fits, hconstants, rfl⟩
  · cases h

theorem listOf_ok {field : String} {type : FieldType} {items : List Json}
    {literals : List Sql.Literal} (ne : items ≠ []) (fits : items.length ≤ c.listLength)
    (h : items.mapM (literalOf field type) = .ok literals) :
    c.listOf field type (.array items) = .ok (Sql.Literal.distinct literals) := by
  cases items with
  | nil => exact absurd rfl ne
  | cons item rest =>
    unfold Ceilings.listOf
    exact unless_eq_ok.2 ⟨Nat.not_lt.2 fits, bind_eq_ok.2 ⟨literals, h, rfl⟩⟩

/-- What a predicate is compiled to. -/
theorem condition_eq_ok {p : Predicate} {condition : Condition} :
    d.condition c p = .ok (condition, level) ↔
      ∃ field operator check, d.field? p.field = some field ∧
        Operator.parse? p.operator = some operator ∧
        c.test p.field field.type operator p.value = .ok check ∧
        condition = .test field.term check ∧ level = field.level := by
  unfold Dataset.condition
  rw [bind_eq_ok]
  constructor
  · rintro ⟨field, hfield, h⟩
    split at h
    · rename_i operator hoperator
      obtain ⟨check, hcheck, h⟩ := bind_eq_ok.1 h
      cases h
      exact ⟨field, operator, check, resolve_eq_ok.1 hfield, hoperator, hcheck, rfl, rfl⟩
    · cases h
  · rintro ⟨field, operator, check, hfield, hoperator, hcheck, rfl, rfl⟩
    refine ⟨field, resolve_eq_ok.2 hfield, ?_⟩
    simp only [hoperator]
    exact bind_eq_ok.2 ⟨check, hcheck, rfl⟩

/-! ## filters -/

namespace Filter

def group : Connective → List Filter → Filter
  | .and, parts => .and parts
  | .or, parts => .or parts

variable {P : Filter → Prop}

mutual

/-- What holds of predicates, and of groups and negations of filters it holds of, holds of all
filters. -/
theorem induction (predicate : ∀ p, P (.predicate p)) (not : ∀ f, P f → P (.not f))
    (group : ∀ k parts, (∀ f ∈ parts, P f) → P (group k parts)) : ∀ f, P f
  | .predicate p => predicate p
  | .not f => not f (induction predicate not group f)
  | .and parts => group .and parts (inductionAll predicate not group parts)
  | .or parts => group .or parts (inductionAll predicate not group parts)

theorem inductionAll (predicate : ∀ p, P (.predicate p)) (not : ∀ f, P f → P (.not f))
    (group : ∀ k parts, (∀ f ∈ parts, P f) → P (Filter.group k parts)) :
    ∀ parts : List Filter, ∀ f ∈ parts, P f
  | [] => nofun
  | f :: rest => List.forall_mem_cons.2
    ⟨induction predicate not group f, inductionAll predicate not group rest⟩

end

end Filter

theorem compileFilter_not {f : Filter} {condition : Condition} :
    d.compileFilter c (.not f) = .ok (condition, level) ↔
      ∃ inner, d.compileFilter c f = .ok (inner, level) ∧ condition = .not inner := by
  rw [Dataset.compileFilter, bind_eq_ok]
  constructor
  · rintro ⟨compiled, hf, h⟩
    cases h
    exact ⟨_, hf, rfl⟩
  · rintro ⟨inner, hf, rfl⟩
    exact ⟨(inner, level), hf, rfl⟩

/-! ## groups -/

theorem groupOf_eq_ok {connective : Sql.Connective} {parts : List Condition × Option Level}
    {condition : Condition} {level : Level}
    (h : groupOf connective parts = .ok (condition, level)) :
    Condition.junction connective parts.1 = some condition ∧ parts.2 = some level := by
  unfold groupOf at h
  split at h
  · rename_i hcondition hlevel
    cases h
    exact ⟨hcondition, hlevel⟩
  · cases h

theorem compileParts_cons {k : Connective} {l : Option Level} {f : Filter} {rest : List Filter}
    {compiled : List Condition × Option Level} :
    d.compileParts c k l (f :: rest) = .ok compiled ↔
      ∃ condition own others, d.compileFilter c f = .ok (condition, own) ∧
        (∀ other ∈ l, other = own) ∧ d.compileParts c k (some own) rest = .ok others ∧
        compiled = (condition :: others.1, others.2) := by
  have shares (own : Level) : ¬(l.any (· ≠ own)) = true ↔ ∀ other ∈ l, other = own := by
    cases l <;> simp
  rw [Dataset.compileParts, bind_eq_ok]
  constructor
  · rintro ⟨⟨condition, own⟩, hf, h⟩
    obtain ⟨same, h⟩ := unless_eq_ok.1 h
    obtain ⟨others, hrest, h⟩ := bind_eq_ok.1 h
    cases h
    exact ⟨condition, own, others, hf, (shares own).1 same, hrest, rfl⟩
  · rintro ⟨condition, own, others, hf, same, hrest, rfl⟩
    exact ⟨(condition, own), hf, unless_eq_ok.2 ⟨(shares own).2 same,
      bind_eq_ok.2 ⟨others, hrest, rfl⟩⟩⟩

/-- The parts of a group after others of a level are compiled to conditions of that level. -/
theorem compileParts_some {k : Connective} {parts : List Filter}
    {compiled : List Condition × Option Level} :
    d.compileParts c k (some level) parts = .ok compiled ↔
      ∃ conditions, compiled = (conditions, some level) ∧
        List.Forall₂ (fun f condition => d.compileFilter c f = .ok (condition, level)) parts
          conditions := by
  induction parts generalizing compiled with
  | nil =>
    rw [Dataset.compileParts]
    constructor
    · rintro ⟨⟩
      exact ⟨[], rfl, .nil⟩
    · rintro ⟨_, rfl, ⟨⟩⟩
      rfl
  | cons f rest ih =>
    rw [compileParts_cons]
    constructor
    · rintro ⟨condition, own, others, hf, same, hrest, rfl⟩
      cases same level rfl
      obtain ⟨conditions, rfl, compiled⟩ := ih.1 hrest
      exact ⟨_, rfl, .cons hf compiled⟩
    · rintro ⟨_, rfl, _ | ⟨hf, hrest⟩⟩
      exact ⟨_, level, _, hf, by simp, ih.2 ⟨_, rfl, hrest⟩, rfl⟩

/-- What a group of filters is compiled to: the junction of what its parts are, all of them of its
level. -/
theorem compileFilter_group {k : Connective} {parts : List Filter} {condition : Condition} :
    d.compileFilter c (Filter.group k parts) = .ok (condition, level) ↔
      ∃ conditions, Condition.junction k conditions = some condition ∧ parts ≠ [] ∧
        List.Forall₂ (fun f condition => d.compileFilter c f = .ok (condition, level)) parts
          conditions := by
  have group : d.compileFilter c (Filter.group k parts) =
      d.compileParts c k none parts >>= groupOf k := by
    cases k <;> exact Dataset.compileFilter.eq_def ..
  have junction {conditions : List Condition}
      (h : Condition.junction k conditions = some condition) :
      groupOf k (conditions, some level) = .ok (condition, level) := by
    rw [groupOf, h]
  rw [group, bind_eq_ok]
  cases parts with
  | nil =>
    rw [Dataset.compileParts]
    constructor
    · rintro ⟨_, ⟨⟩, h⟩
      exact nomatch (groupOf_eq_ok h).2
    · rintro ⟨_, _, ne, _⟩
      exact absurd rfl ne
  | cons f rest =>
    simp only [compileParts_cons, compileParts_some]
    constructor
    · rintro ⟨_, ⟨first, own, others, hf, -, ⟨conditions, rfl, hrest⟩, rfl⟩, h⟩
      obtain ⟨hj, same⟩ := groupOf_eq_ok h
      cases same
      exact ⟨_, hj, by simp, .cons hf hrest⟩
    · rintro ⟨_, hj, -, _ | ⟨hf, hrest⟩⟩
      exact ⟨_, ⟨_, level, _, hf, by simp, ⟨_, rfl, hrest⟩, rfl⟩, junction hj⟩

/-! ## clauses -/

/-- The clause for a level, of one on rows and one on groups. -/
def Level.clause (level : Level) (clauses : Option Condition × Option Condition) :
    Option Condition :=
  match level with
  | .rows => clauses.1
  | .groups => clauses.2

/-- A clause joins what the filters of its level are compiled to. -/
theorem clause_eq_some {filters : List Filter} {clauses : Option Condition × Option Condition}
    (h : d.conditions c filters = .ok clauses) {condition : Condition}
    (hclause : level.clause clauses = some condition) :
    ∃ conditions, Condition.junction .and conditions = some condition ∧
      ∀ part ∈ conditions, ∃ f ∈ filters, d.compileFilter c f = .ok (part, level) := by
  obtain ⟨compiled, hcompiled, h⟩ := bind_eq_ok.1 h
  cases h
  refine ⟨compiled.filterMap fun part => if part.2 = level then some part.1 else none, ?_, ?_⟩
  · cases level <;> exact hclause
  · intro part hpart
    obtain ⟨⟨condition, own⟩, hmem, eq⟩ := List.mem_filterMap.1 hpart
    obtain ⟨same, eq⟩ := Option.ite_none_right_eq_some.1 eq
    cases eq
    obtain ⟨f, hf, compiledAs⟩ := (mem_of_mapM hcompiled).1 hmem
    exact ⟨f, hf, same ▸ compiledAs⟩

/-! ## queries -/

/-- The parts of a compiled request. -/
structure Compiled where
  dimensions : List Sql.SelectItem
  projection : List Sql.SelectItem
  selection : Option Condition
  having : Option Condition
  order : List Sql.OrderKey
  limit : Nat

namespace Compiled

def conditions (p : Compiled) : List Condition := p.selection.toList ++ p.having.toList

def query (p : Compiled) (d : Dataset) (request : Request) : Sql.Query where
  dataset := d.id
  dialect := d.dialect
  projection := p.projection
  base := ⟨d.base, d.aliasName⟩
  joins := d.neededJoins (p.projection.map (·.term) ++ p.conditions.flatMap Condition.terms)
  selection := p.selection
  grouping := p.dimensions.map (·.term)
  having := p.having
  order := p.order
  limit := p.limit
  offset := request.offset.filter (0 < ·)
  scope := .undecided

/-- Each part comes from its part of the request. -/
structure Of (p : Compiled) (d : Dataset) (c : Ceilings) (request : Request) : Prop where
  dataset : request.dataset = d.id
  selects : (request.dimensions.isEmpty && request.metrics.isEmpty) = false
  small : c.check request = .ok ()
  dimensions : d.select .rows [] request.dimensions = .ok p.dimensions
  projection : d.select .groups p.dimensions request.metrics = .ok p.projection
  conditions : d.conditions c request.filters = .ok (p.selection, p.having)
  order : request.sort.mapM (d.orderKey p.projection) = .ok p.order
  limit : c.rowLimit request = .ok p.limit

end Compiled

variable {request : Request}

theorem compile_eq_ok {q : Sql.Query} :
    d.compile c request = .ok q ↔ ∃ p : Compiled, p.Of d c request ∧ q = p.query d request := by
  unfold Dataset.compile
  constructor
  · intro h
    obtain ⟨hdataset, h⟩ := unless_eq_ok.1 h
    obtain ⟨hselects, h⟩ := unless_eq_ok.1 h
    obtain ⟨⟨⟩, hsmall, h⟩ := bind_eq_ok.1 h
    obtain ⟨dimensions, hdimensions, h⟩ := bind_eq_ok.1 h
    obtain ⟨projection, hprojection, h⟩ := bind_eq_ok.1 h
    obtain ⟨⟨selection, having⟩, hconditions, h⟩ := bind_eq_ok.1 h
    obtain ⟨order, horder, h⟩ := bind_eq_ok.1 h
    obtain ⟨limit, hlimit, h⟩ := bind_eq_ok.1 h
    cases h
    exact ⟨⟨dimensions, projection, selection, having, order, limit⟩,
      ⟨not_not.1 hdataset, Bool.eq_false_iff.2 hselects, hsmall, hdimensions, hprojection,
        hconditions, horder, hlimit⟩, rfl⟩
  · rintro ⟨p, h, rfl⟩
    refine unless_eq_ok.2 ⟨not_not.2 h.dataset, unless_eq_ok.2 ⟨Bool.eq_false_iff.1 h.selects, ?_⟩⟩
    refine bind_eq_ok.2 ⟨_, h.small, bind_eq_ok.2 ⟨_, h.dimensions, ?_⟩⟩
    refine bind_eq_ok.2 ⟨_, h.projection, bind_eq_ok.2 ⟨_, h.conditions, ?_⟩⟩
    exact bind_eq_ok.2 ⟨_, h.order, bind_eq_ok.2 ⟨_, h.limit, rfl⟩⟩

theorem compile_conditions {q : Sql.Query} (h : d.compile c request = .ok q) :
    d.conditions c request.filters = .ok (q.selection, q.having) := by
  obtain ⟨p, hp, rfl⟩ := compile_eq_ok.1 h
  exact hp.conditions

end AnalyticsGateway
