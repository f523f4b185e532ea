import AnalyticsGateway.Proofs.Compile.Levels
import AnalyticsGateway.Proofs.Sql.Truth

/-!
# What filters say

The truth of a filter as it is written: its values in the order and number they are given in, its
groups as they are nested. Compiling keeps it (`truth_compile`): the filters of a request hold
together exactly where the two conditions of its query do.
-/

namespace AnalyticsGateway

namespace Sql.Assignment

variable (v : Assignment)

/-- The truth of a predicate on a term; one that makes no sense is neither true nor false. -/
def asked (t : Term) (literal : Json → Except CompileError Literal) : Operator → Json → Truth
  | .compare comparison, value =>
    match literal value with
    | .ok constant => v.compare t comparison constant
    | .error _ => .unknown
  | .among negated, .array items =>
    match items.mapM literal with
    | .ok constants => v.among t constants negated
    | .error _ => .unknown
  | .between, .array [low, high] =>
    match literal low, literal high with
    | .ok low, .ok high => v.between t low high
    | _, _ => .unknown
  | .like negated, .text pattern => v.like t pattern negated
  | .isNull negated, .null => v.isNull t negated
  | _, _ => .unknown

def predicate (d : Dataset) (p : Predicate) : Truth :=
  match d.field? p.field, Operator.parse? p.operator with
  | some field, some operator =>
    v.asked field.term (literalOf p.field field.type) operator p.value
  | _, _ => .unknown

mutual

def filter (d : Dataset) : Filter → Truth
  | .predicate p => v.predicate d p
  | .not f => (filter d f).not
  | .and parts => Truth.combine .and (filters d parts)
  | .or parts => Truth.combine .or (filters d parts)

def filters (d : Dataset) : List Filter → List Truth
  | [] => []
  | f :: rest => filter d f :: filters d rest

end

end Sql.Assignment

open Sql (Assignment Truth Condition)

/-! ## predicates -/

variable {d : Dataset} {c : Ceilings} (v : Assignment)

theorem asked_test {field : String} {type : FieldType} {operator : Operator} {value : Json}
    {check : Sql.Test} (h : c.test field type operator value = .ok check) (t : Sql.Term) :
    v.asked t (literalOf field type) operator value = v.test t check := by
  unfold Ceilings.test at h
  split at h
  · obtain ⟨constant, hconstant, h⟩ := bind_eq_ok.1 h
    cases h
    simp only [Assignment.asked, hconstant, Assignment.test]
  · obtain ⟨values, hvalues, h⟩ := bind_eq_ok.1 h
    cases h
    obtain ⟨items, constants, rfl, _, _, hconstants, rfl⟩ := listOf_eq_ok hvalues
    simp only [Assignment.asked, hconstants, Assignment.test, v.among_distinct]
  · split at h
    · cases h
      rfl
    · cases h
  · split at h
    · obtain ⟨low, hlow, h⟩ := bind_eq_ok.1 h
      obtain ⟨high, hhigh, h⟩ := bind_eq_ok.1 h
      cases h
      simp only [Assignment.asked, hlow, hhigh, Assignment.test]
    · cases h
  · split at h
    · cases h
      rfl
    · cases h

/-! ## filters -/

theorem filters_eq (fs : List Filter) : v.filters d fs = fs.map (v.filter d) := by
  induction fs with
  | nil => rfl
  | cons f rest ih => rw [Assignment.filters, ih, List.map_cons]

theorem filter_group (k : Sql.Connective) (parts : List Filter) :
    v.filter d (Filter.group k parts) = Truth.combine k (parts.map (v.filter d)) := by
  cases k <;> rw [Filter.group, Assignment.filter, filters_eq]

/-- A filter says what the condition that it is compiled to does. -/
theorem truth_compileFilter {f : Filter} : ∀ {condition : Condition} {level : Level},
    d.compileFilter c f = .ok (condition, level) → v.filter d f = v.condition condition := by
  induction f using Filter.induction with
  | predicate p =>
    intro condition level h
    rw [Dataset.compileFilter] at h
    obtain ⟨field, operator, check, hfield, hoperator, hcheck, rfl, -⟩ := condition_eq_ok.1 h
    rw [Assignment.filter, Assignment.predicate, hfield, hoperator]
    exact asked_test v hcheck field.term
  | not f ih =>
    intro condition level h
    obtain ⟨inner, hf, rfl⟩ := compileFilter_not.1 h
    rw [Assignment.filter, ih hf, Assignment.condition]
  | group k parts ih =>
    intro condition level h
    obtain ⟨conditions, hj, -, compiled⟩ := compileFilter_group.1 h
    rw [filter_group, v.condition_junction hj,
      map_eq_of_forall₂ compiled fun f hf _ hc => ih f hf hc]

/-- Conditions of rows and conditions of groups together are all conditions. -/
theorem combine_levels (compiled : List (Condition × Level)) :
    ((v.clause (Condition.junction .and (compiled.filterMap fun (condition, own) =>
        if own = .rows then some condition else none))).and
      (v.clause (Condition.junction .and (compiled.filterMap fun (condition, own) =>
        if own = .groups then some condition else none)))) =
      Truth.combine .and (compiled.map fun (condition, _) => v.condition condition) := by
  rw [v.clause_junction, v.clause_junction]
  induction compiled with
  | nil => rfl
  | cons first rest ih =>
    obtain ⟨condition, level⟩ := first
    cases level <;> simp [← ih, Truth.and_assoc, Truth.and_left_comm]

theorem truth_conditions {filters : List Filter} {selection having : Option Condition}
    (h : d.conditions c filters = .ok (selection, having)) :
    Truth.combine .and (v.filters d filters) = (v.clause selection).and (v.clause having) := by
  obtain ⟨compiled, hcompiled, h⟩ := bind_eq_ok.1 h
  cases h
  rw [combine_levels, filters_eq,
    map_eq_of_forall₂ (mapM_eq_ok.1 hcompiled) fun f _ _ hc => truth_compileFilter v hc]

/-! ## requests -/

/-- The filters of a request, each as it is written, hold together exactly where the conditions on
rows and on groups of its query do. -/
theorem truth_compile (d : Dataset) (c : Ceilings) (request : Request) (q : Sql.Query)
    (h : d.compile c request = .ok q) (v : Assignment) :
    Truth.combine .and (v.filters d request.filters) =
      (v.clause q.selection).and (v.clause q.having) :=
  truth_conditions v (compile_conditions h)

theorem truth_compile_orders :
    ∃ q, orders.compile {} (ordersRequest nestedFilters) = .ok q ∧ ∀ v : Assignment,
      Truth.combine .and (v.filters orders nestedFilters) =
        (v.clause q.selection).and (v.clause q.having) := by
  obtain ⟨q, h⟩ := exists_compile.2
    (by decide : orders.accepts {} (ordersRequest nestedFilters) = true)
  exact ⟨q, h, truth_compile orders {} (ordersRequest nestedFilters) q h⟩

end AnalyticsGateway
