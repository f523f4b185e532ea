import AnalyticsGateway.Proofs.Compile.Filter
import AnalyticsGateway.Proofs.Sql.Junction
import Mathlib.Data.Option.Basic

/-!
# Levels of filters

A compiled filter tests terms of one level only, and which level that is can be told without joining
or sorting anything (`compileFilter_eq_ok_iff`). So it is told which filters are accepted.
-/

namespace AnalyticsGateway

open Sql (Condition Connective)

/-! ## levels of conditions -/

def Level.ofTerm (t : Sql.Term) : Level := if t.isAggregate then .groups else .rows

mutual

/-- All terms are of the level, and there is one in every part. -/
def Sql.Condition.OnLevel (level : Level) : Condition → Prop
  | .test t _ => Level.ofTerm t = level
  | .guard .. => False
  | .not c => c.OnLevel level
  | .group _ parts => parts ≠ [] ∧ Condition.AllOnLevel level parts

def Sql.Condition.AllOnLevel (level : Level) : List Condition → Prop
  | [] => True
  | c :: rest => c.OnLevel level ∧ Condition.AllOnLevel level rest

end

namespace Sql.Condition

variable {level : Level}

theorem allOnLevel_iff {parts : List Condition} :
    AllOnLevel level parts ↔ ∀ c ∈ parts, c.OnLevel level := by
  induction parts with
  | nil => simp [AllOnLevel]
  | cons c rest ih => simp [AllOnLevel, ih]

/-- No condition is of two levels. -/
theorem OnLevel.unique {level' : Level} : ∀ {c : Condition}, c.OnLevel level → c.OnLevel level' →
    level = level'
  | .test t _, h, h' => by
    rw [OnLevel] at h h'
    exact h.symm.trans h'
  | .not c, h, h' => by
    rw [OnLevel] at h h'
    exact OnLevel.unique h h'
  | .group _ [], h, _ => by
    rw [OnLevel] at h
    exact absurd rfl h.1
  | .group _ (c :: rest), h, h' => by
    rw [OnLevel, AllOnLevel] at h h'
    exact OnLevel.unique h.2.1 h'.2.1

theorem OnLevel.partsOf_part {k : Connective} {c : Condition} (h : c.OnLevel level) :
    partsOf k c ≠ [] ∧ ∀ p ∈ partsOf k c, p.OnLevel level := by
  cases c with
  | group k' parts =>
    rw [partsOf]
    split
    · rw [OnLevel] at h
      exact ⟨h.1, allOnLevel_iff.1 h.2⟩
    · simpa using h
  | _ => simpa [partsOf] using h

/-- Joining conditions of one level gives a condition of that level, unless there are none. -/
theorem OnLevel.junction {k : Connective} {cs : List Condition} (h : ∀ c ∈ cs, c.OnLevel level)
    (ne : cs ≠ []) : ∃ c, junction k cs = some c ∧ c.OnLevel level := by
  have parts : ∀ p ∈ junctionParts k cs, p.OnLevel level := by
    intro p hp
    obtain ⟨c, hc, hp⟩ := List.mem_flatMap.1 (mem_of_mem_distinct hp)
    exact (h c hc).partsOf_part.2 p hp
  have some_part : junctionParts k cs ≠ [] := by
    obtain ⟨c, hc⟩ := List.exists_mem_of_ne_nil _ ne
    obtain ⟨p, hp⟩ := List.exists_mem_of_ne_nil _ ((h c hc).partsOf_part (k := k)).1
    rcases mem_distinct_or_same sortKey same
      (List.mem_flatMap.2 ⟨c, hc, hp⟩) with h | ⟨q, h, -⟩ <;> exact List.ne_nil_of_mem h
  cases hj : Condition.junction k cs with
  | none => exact absurd (junction_eq_none.1 hj) some_part
  | some c =>
    refine ⟨c, rfl, ?_⟩
    rcases junction_eq_some hj with one | ⟨rfl, -⟩
    · exact parts c (one ▸ List.mem_singleton_self c)
    · rw [OnLevel]
      exact ⟨some_part, allOnLevel_iff.2 parts⟩

theorem OnLevel.of_junction {k : Connective} {cs : List Condition} {c : Condition}
    (h : ∀ c ∈ cs, c.OnLevel level) (joined : Condition.junction k cs = some c) :
    c.OnLevel level := by
  obtain ⟨c', joined', levels⟩ := OnLevel.junction (k := k) h (by
    rintro rfl
    have none : Condition.junction k [] = none :=
      junction_eq_none.2 (dropRepeats_eq_nil.2 (by simp [sortByKey]))
    cases none.symm.trans joined)
  cases joined.symm.trans joined'
  exact levels

end Sql.Condition

/-! ## levels of compiled filters -/

variable {d : Dataset} {c : Ceilings} {level : Level}

/-- A field is of the level of its term. -/
theorem ofTerm_field {name : String} {field : ResolvedField} (h : d.field? name = some field) :
    Level.ofTerm field.term = field.level := by
  have dimension (x : Dimension) (g : Option TimeGrain) :
      Level.ofTerm (d.dimensionField x g).term = (d.dimensionField x g).level := by
    cases g <;> rfl
  unfold Dataset.field? at h
  split at h
  · cases h
    exact dimension _ _
  · split at h
    · cases h
      rfl
    · unfold Dataset.grainField? at h
      simp only [Option.bind_eq_bind, Option.bind_eq_some_iff, Option.pure_def] at h
      obtain ⟨_, _, _, _, _, _, _, _, h⟩ := h
      cases h
      exact dimension _ _

theorem onLevel_condition {p : Predicate} {condition : Condition}
    (h : d.condition c p = .ok (condition, level)) : condition.OnLevel level := by
  obtain ⟨field, operator, check, hfield, _, _, rfl, rfl⟩ := condition_eq_ok.1 h
  rw [Condition.OnLevel]
  exact ofTerm_field hfield

/-- A compiled filter tests terms of its level. -/
theorem onLevel_compileFilter {f : Filter} : ∀ {condition : Condition} {level : Level},
    d.compileFilter c f = .ok (condition, level) → condition.OnLevel level := by
  induction f using Filter.induction with
  | predicate p =>
    intro condition level h
    rw [Dataset.compileFilter] at h
    exact onLevel_condition h
  | not f ih =>
    intro condition level h
    obtain ⟨inner, hf, rfl⟩ := compileFilter_not.1 h
    rw [Condition.OnLevel]
    exact ih hf
  | group k parts ih =>
    intro condition level h
    obtain ⟨conditions, hj, -, compiled⟩ := compileFilter_group.1 h
    have levels : ∀ c ∈ conditions, c.OnLevel level := by
      intro c hc
      obtain ⟨f, hf, h⟩ := exists_of_mem_forall₂ compiled hc
      exact ih f hf h
    exact Condition.OnLevel.of_junction levels hj

/-! ## acceptance -/

/-- The level that all of some filters have. -/
def commonLevel : List (Option Level) → Option Level
  | [] => none
  | first :: rest => if rest.all (· = first) then first else none

theorem commonLevel_eq_some {levels : List (Option Level)} :
    commonLevel levels = some level ↔ levels ≠ [] ∧ ∀ l ∈ levels, l = some level := by
  cases levels with
  | nil => simp [commonLevel]
  | cons first rest =>
    rw [commonLevel]
    split
    · rename_i same
      have same : ∀ l ∈ rest, l = first := by simpa using same
      refine ⟨fun h => ⟨by simp, List.forall_mem_cons.2 ⟨h, fun l hl => (same l hl).trans h⟩⟩, ?_⟩
      exact fun h => h.2 first List.mem_cons_self
    · rename_i differ
      refine ⟨(nomatch ·), fun h => absurd ?_ differ⟩
      have ⟨hfirst, hrest⟩ := List.forall_mem_cons.1 h.2
      simpa using fun l hl => (hrest l hl).trans hfirst.symm

mutual

/-- The level of a filter; none if it is not accepted. -/
def Dataset.level? (d : Dataset) (c : Ceilings) : Filter → Option Level
  | .predicate p => (d.condition c p).toOption.map (·.2)
  | .not f => d.level? c f
  | .and parts | .or parts => commonLevel (d.levels c parts)

def Dataset.levels (d : Dataset) (c : Ceilings) : List Filter → List (Option Level)
  | [] => []
  | f :: rest => d.level? c f :: d.levels c rest

end

theorem levels_eq (d : Dataset) (c : Ceilings) (parts : List Filter) :
    d.levels c parts = parts.map (d.level? c) := by
  induction parts with
  | nil => rfl
  | cons f rest ih => rw [Dataset.levels, ih, List.map_cons]

theorem level?_group {k : Connective} {parts : List Filter} :
    d.level? c (Filter.group k parts) = commonLevel (parts.map (d.level? c)) := by
  cases k <;> rw [Filter.group, Dataset.level?, levels_eq]

/-- A filter is compiled exactly if it has a level. -/
theorem exists_compileFilter {f : Filter} : ∀ {level : Level},
    (∃ condition, d.compileFilter c f = .ok (condition, level)) ↔ d.level? c f = some level := by
  induction f using Filter.induction with
  | predicate p =>
    intro level
    rw [Dataset.compileFilter, Dataset.level?]
    cases d.condition c p with
    | error e => simp [Except.toOption]
    | ok r => simp [Except.toOption, Prod.ext_iff]
  | not f ih =>
    intro level
    rw [Dataset.level?, ← ih]
    simp only [compileFilter_not]
    constructor
    · rintro ⟨_, inner, hf, -⟩
      exact ⟨inner, hf⟩
    · rintro ⟨inner, hf⟩
      exact ⟨_, inner, hf, rfl⟩
  | group k parts ih =>
    intro level
    rw [level?_group, commonLevel_eq_some]
    simp only [compileFilter_group, ne_eq, List.map_eq_nil_iff, List.forall_mem_map]
    constructor
    · rintro ⟨condition, conditions, -, ne, compiled⟩
      exact ⟨ne, fun f hf => (ih f hf).1 (exists_of_mem_forall₂_left compiled hf)⟩
    · rintro ⟨ne, h⟩
      obtain ⟨conditions, compiled⟩ := exists_forall₂ fun f hf => (ih f hf).2 (h f hf)
      have levels : ∀ condition ∈ conditions, condition.OnLevel level := by
        intro condition hc
        obtain ⟨f, -, h⟩ := exists_of_mem_forall₂ compiled hc
        exact onLevel_compileFilter h
      obtain ⟨condition, hj, -⟩ := Condition.OnLevel.junction (k := k) levels (by
        rintro rfl
        cases compiled
        exact ne rfl)
      exact ⟨condition, conditions, hj, ne, compiled⟩

theorem exists_conditions {filters : List Filter} :
    (∃ r, d.conditions c filters = .ok r) ↔ ∀ f ∈ filters, (d.level? c f).isSome := by
  unfold Dataset.conditions
  constructor
  · rintro ⟨r, h⟩ f hf
    obtain ⟨compiled, hcompiled, -⟩ := bind_eq_ok.1 h
    obtain ⟨⟨condition, level⟩, h⟩ := exists_of_mem_forall₂_left (mapM_eq_ok.1 hcompiled) hf
    rw [exists_compileFilter.1 ⟨condition, h⟩]
    rfl
  · intro h
    have compiled : ∀ f ∈ filters, ∃ r, d.compileFilter c f = .ok r := by
      intro f hf
      obtain ⟨level, hlevel⟩ := Option.isSome_iff_exists.1 (h f hf)
      obtain ⟨condition, h⟩ := exists_compileFilter.2 hlevel
      exact ⟨_, h⟩
    obtain ⟨compiled, h⟩ := exists_forall₂ compiled
    exact ⟨_, bind_eq_ok.2 ⟨compiled, mapM_eq_ok.2 h, rfl⟩⟩

/-- Whether a request is accepted. -/
def Dataset.accepts (d : Dataset) (c : Ceilings) (request : Request) : Bool :=
  let rest : Except CompileError Unit := do
    c.check request
    let dimensions ← d.select .rows [] request.dimensions
    let projection ← d.select .groups dimensions request.metrics
    let _ ← request.sort.mapM (d.orderKey projection)
    let _ ← c.rowLimit request
  request.dataset = d.id && !(request.dimensions.isEmpty && request.metrics.isEmpty) &&
    rest.isOk && request.filters.all fun f => (d.level? c f).isSome

theorem isOk_iff {ε α : Type} {x : Except ε α} : x.isOk = true ↔ ∃ a, x = .ok a := by
  cases x <;> simp [Except.isOk, Except.toBool]

/-- A request is compiled exactly if it is accepted. -/
theorem exists_compile {request : Request} :
    (∃ q, d.compile c request = .ok q) ↔ d.accepts c request = true := by
  simp only [Dataset.accepts, Bool.and_eq_true, decide_eq_true_eq, Bool.not_eq_true', isOk_iff,
    bind_eq_ok, List.all_eq_true, ← exists_conditions, compile_eq_ok]
  constructor
  · rintro ⟨_, p, h, rfl⟩
    exact ⟨⟨⟨h.dataset, h.selects⟩, ⟨⟩, ⟨⟩, h.small, _, h.dimensions, _, h.projection, _, h.order,
      _, h.limit, rfl⟩, _, h.conditions⟩
  · rintro ⟨⟨⟨dataset, selects⟩, ⟨⟩, ⟨⟩, small, dimensions, hdimensions, projection, hprojection,
      order, horder, limit, hlimit, -⟩, ⟨selection, having⟩, hconditions⟩
    exact ⟨_, ⟨dimensions, projection, selection, having, order, limit⟩,
      ⟨dataset, selects, small, hdimensions, hprojection, hconditions, horder, hlimit⟩, rfl⟩

/-- Of filters, only the depth and whether each has a level matter. -/
theorem accepts_congr {request : Request} {filters : List Filter}
    (depth : Filter.depthAll request.filters = Filter.depthAll filters)
    (levels : (∀ f ∈ request.filters, (d.level? c f).isSome) ↔
      ∀ f ∈ filters, (d.level? c f).isSome) :
    d.accepts c request = d.accepts c { request with filters } := by
  have small : c.check { request with filters } = c.check request := by
    unfold Ceilings.check
    simp only [depth]
  have all : (request.filters.all fun f => (d.level? c f).isSome) =
      filters.all fun f => (d.level? c f).isSome := by
    rw [Bool.eq_iff_iff, List.all_eq_true, List.all_eq_true, levels]
  unfold Dataset.accepts
  rw [small, all]
  rfl

/-! ## orders by region -/

def orders : Dataset where
  id := "orders"
  source := "warehouse"
  base := .table "orders"
  dimensions := .ofList
    [("region", { source := .column "region", type := .string }),
     ("amount", { source := .column "amount", type := .float })]
  metrics := .ofList [("count", { aggregation := .count })]

def ordersRequest (filters : List Filter) : Request where
  dataset := "orders"
  dimensions := ["region"]
  metrics := ["count"]
  filters

def ordersIn (regions : List String) : Filter :=
  .predicate ⟨"region", "in", .array (regions.map .text)⟩

def notBigInNorth : Filter :=
  .not (.and [.predicate ⟨"region", "=", .text "north"⟩, .predicate ⟨"amount", ">", .float 2.5⟩])

def atLeastTen : Filter := .predicate ⟨"count", ">=", .integer 10⟩

def nestedFilters : List Filter :=
  [.or [notBigInNorth, .or [ordersIn ["south", "north", "south"]]], atLeastTen]

/-- Filters of both levels may stand side by side, but not in one group. -/
example : orders.accepts {} (ordersRequest nestedFilters) = true ∧
    orders.accepts {} (ordersRequest [.or [notBigInNorth, atLeastTen]]) = false := by decide

end AnalyticsGateway
