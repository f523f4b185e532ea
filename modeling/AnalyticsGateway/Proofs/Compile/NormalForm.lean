import AnalyticsGateway.Proofs.Compile.Grouped
import AnalyticsGateway.Proofs.Compile.Regrouping
import AnalyticsGateway.Proofs.Scoping
import AnalyticsGateway.Proofs.Sql.Truism

/-!
# Normal forms of compiled conditions

A predicate is compiled to a condition in order, and groups of conditions in order are again in
order. So all groups of a compiled query are (`inOrder_compile`), and scoping it only adds a group
of two parts: none is ever written as `1 = 1` (`compiled_normal`).
-/

namespace AnalyticsGateway

open Sql (Condition Literal Query Test)

variable {d : Dataset} {c : Ceilings} {request : Request} {q : Query} {level : Level}

/-! ## constants -/

/-- No number that a predicate compares with is NaN. Numbers of a document never are. -/
def Predicate.FreeOfNaN (p : Predicate) : Prop :=
  ∀ x, Json.float x ∈ p.value.constants → x.isNaN = false

def Request.FreeOfNaN (r : Request) : Prop := ∀ p ∈ r.predicates, p.FreeOfNaN

section Constants

variable {field : String} {type : FieldType}

theorem same_literalOf {value : Json} {literal : Literal}
    (number : ∀ x, value = .float x → x.isNaN = false)
    (h : literalOf field type value = .ok literal) : literal.same literal = true := by
  cases value with
  | float x =>
    rw [literalOf] at h
    split at h <;> cases h
    exact MachineNumber.beq_self_of_number (number x rfl)
  | _ =>
    have plain : literal.IsPlain := literalOf_plain (fun _ eq => by cases eq) h
    exact (Literal.same_iff plain plain).2 rfl

/-- The values of a list that is compared with, none of them twice. -/
theorem listOf_increasing {v : Json} {values : List Literal}
    (numbers : ∀ x, Json.float x ∈ v.constants → x.isNaN = false)
    (h : c.listOf field type v = .ok values) :
    values ≠ [] ∧ values.Pairwise fun a b => a.sortKey < b.sortKey := by
  obtain ⟨items, constants, rfl, ne, -, hconstants, rfl⟩ := listOf_eq_ok h
  constructor
  · have steps : List.Forall₂ _ items constants := mapM_eq_ok.1 hconstants
    rw [Literal.distinct, ne_eq, Sql.dropRepeats_eq_nil, ← List.length_eq_zero_iff,
      (Sql.sortByKey_perm ..).length_eq, ← steps.length_eq, List.length_eq_zero_iff]
    exact ne
  · refine Sql.increasing_distinct fun a ha b _ eq => ?_
    obtain ⟨item, hitem, h⟩ := (mem_of_mapM hconstants).1 ha
    rw [← Literal.sortKey_inj eq]
    exact same_literalOf (fun x eq => numbers x (eq ▸ hitem)) h

end Constants

theorem Sql.Test.same_self {check : Test} (h : ∀ l ∈ check.literals, l.same l = true) :
    check.same check = true := by
  cases check with
  | compare comparison value =>
    rw [same, h value (List.mem_singleton_self value), beq_self_eq_true, Bool.and_self]
  | among values negated =>
    have list : Literal.sameAll values values = true := Literal.sameAll_self h
    rw [same, list, beq_self_eq_true, Bool.and_self]
  | between low high =>
    rw [same, h low (by simp [literals]), h high (by simp [literals]), Bool.and_self]
  | like pattern negated => simp [same]
  | isNull negated => simp [same]

/-! ## compiled filters -/

theorem inOrder_condition {p : Predicate} {condition : Condition} (numbers : p.FreeOfNaN)
    (h : d.condition c p = .ok (condition, level)) : condition.InOrder := by
  obtain ⟨field, operator, check, -, -, hcheck, rfl, -⟩ := condition_eq_ok.1 h
  constructor
  · rw [Condition.groups]
    exact List.forall_mem_nil _
  · have self : check.same check = true := Test.same_self fun l hl => by
      obtain ⟨value, hvalue, h⟩ := exists_constant_of_mem_literals hcheck l hl
      exact same_literalOf (fun x eq => numbers x (eq ▸ hvalue)) h
    rw [Condition.same, self, beq_self_eq_true, Bool.and_self]

theorem inOrder_compileFilter {f : Filter} : ∀ {condition : Condition} {level : Level},
    (∀ p ∈ f.predicates, p.FreeOfNaN) → d.compileFilter c f = .ok (condition, level) →
      condition.InOrder := by
  induction f using Filter.induction with
  | predicate p =>
    intro condition level numbers h
    rw [Filter.predicates, List.forall_mem_singleton] at numbers
    rw [Dataset.compileFilter] at h
    exact inOrder_condition numbers h
  | not f ih =>
    intro condition level numbers h
    rw [Filter.predicates] at numbers
    obtain ⟨inner, hf, rfl⟩ := compileFilter_not.1 h
    exact (ih numbers hf).not
  | group k parts ih =>
    intro condition level numbers h
    rw [Filter.predicates_group] at numbers
    obtain ⟨conditions, hj, -, compiled⟩ := compileFilter_group.1 h
    refine Condition.InOrder.junction (fun part hpart => ?_) hj
    obtain ⟨f, hf, h⟩ := exists_of_mem_forall₂ compiled hpart
    exact ih f hf (fun p hp => numbers p (List.mem_flatMap.2 ⟨f, hf, hp⟩)) h

/-! ## compiled queries -/

/-- The conditions on rows and on groups of rows are in order. -/
theorem inOrder_compile (numbers : request.FreeOfNaN) (h : d.compile c request = .ok q)
    {condition : Condition} (hclause : level.clause (q.selection, q.having) = some condition) :
    condition.InOrder := by
  obtain ⟨conditions, joined, compiled⟩ := clause_eq_some (compile_conditions h) hclause
  refine Condition.InOrder.junction (fun part hpart => ?_) joined
  obtain ⟨f, hf, h⟩ := compiled part hpart
  exact inOrder_compileFilter (fun p hp => numbers p (List.mem_flatMap.2 ⟨f, hf, hp⟩)) h

/-- Every group has two parts at least, in strict order and none of them a group of its connective,
and every list that is compared with has a value, and its values in strict order. -/
structure Sql.Query.IsNormal (q : Query) : Prop where
  groups : ∀ g ∈ q.groups, Condition.IsNormalGroup g.1 g.2
  lists : ∀ x ∈ q.tests, ∀ values negated, x.2 = .among values negated →
    values ≠ [] ∧ values.Pairwise fun a b => a.sortKey < b.sortKey

theorem isNormal_compile (numbers : request.FreeOfNaN) (h : d.compile c request = .ok q) :
    q.IsNormal where
  groups := by
    intro g hg
    rcases Query.mem_groups.1 hg with ⟨condition, hs, hg⟩ | ⟨condition, hh, hg⟩
    · have clause : Level.rows.clause (q.selection, q.having) = some condition := hs
      exact (inOrder_compile numbers h clause).groups g hg
    · have clause : Level.groups.clause (q.selection, q.having) = some condition := hh
      exact (inOrder_compile numbers h clause).groups g hg
  lists := by
    rintro ⟨t, check⟩ hx values negated rfl
    obtain ⟨p, hp, level, own⟩ := exists_predicate_of_mem_tests h _ hx
    obtain ⟨_, _, _, -, -, hcheck, same, -⟩ := condition_eq_ok.1 own
    cases same
    exact listOf_increasing (numbers p hp) (listOf_of_among hcheck)

/-! ## scoped queries -/

/-- A guard adds one group, of two parts. -/
theorem Sql.Query.groups_guarded (q : Query) (column : Sql.Column) (tenant : String) :
    ∀ g ∈ (q.guarded column tenant).groups, g.2.length = 2 ∨ g ∈ q.groups := by
  intro g hg
  rw [mem_groups] at hg ⊢
  rcases hg with ⟨condition, hs, hg⟩ | having
  · unfold guarded at hs
    cases selection : q.selection with
    | none =>
      rw [selection] at hs
      cases hs
      rw [Condition.groups] at hg
      cases hg
    | some rest =>
      rw [selection] at hs
      cases hs
      rw [Condition.groups] at hg
      rcases List.mem_cons.1 hg with rfl | hg
      · exact .inl rfl
      · obtain ⟨p, hp, inside⟩ := Condition.mem_groupsAll.1 hg
        rcases List.mem_pair.1 hp with rfl | rfl
        · rw [Condition.groups] at inside
          cases inside
        · exact .inr (.inl ⟨p, rfl, inside⟩)
  · exact .inr (.inr having)

namespace ScopingCall

theorem groups_apply (h : ∀ g ∈ q.groups, 2 ≤ g.2.length) (call : ScopingCall) :
    ∀ g ∈ (apply q call).groups, 2 ≤ g.2.length := by
  cases result : call.result q with
  | error e =>
    rw [apply_of_error result]
    exact h
  | ok r =>
    rw [apply_of_ok result]
    cases scoping_of_ok result with
    | guarded =>
      intro g hg
      rcases q.groups_guarded _ _ g hg with two | hg
      · exact two.ge
      · exact h g hg
    | kept | bypassed | unscoped => exact h

theorem groups_run (h : ∀ g ∈ q.groups, 2 ≤ g.2.length) (calls : List ScopingCall) :
    ∀ g ∈ (run q calls).groups, 2 ≤ g.2.length := by
  induction calls generalizing q with
  | nil => exact h
  | cons call rest ih => exact ih (groups_apply h call)

end ScopingCall

open ScopingCall in
/-- A compiled query is normal. However it is then scoped, its groups have two parts at least, and
`1 = 1` is not written. -/
theorem compiled_normal (d : Dataset) (c : Ceilings) (request : Request) (q : Query)
    (numbers : request.FreeOfNaN) (h : d.compile c request = .ok q) :
    q.IsNormal ∧ ∀ calls, (∀ g ∈ (run q calls).groups, 2 ≤ g.2.length) ∧
      ∀ pieces, (run q calls).pieces = .ok pieces → .fixed "1 = 1" ∉ pieces := by
  have normal := isNormal_compile numbers h
  refine ⟨normal, fun calls => ?_⟩
  have groups := groups_run (fun g hg => (normal.groups g hg).two) calls
  refine ⟨groups, fun pieces written => ?_⟩
  exact Query.free_pieces (fun g hg => List.ne_nil_of_length_pos (Nat.zero_lt_two.trans_le
    (groups g hg))) written

open ScopingCall ScopingSample in
theorem compiled_normal_orders :
    (ordersRequest nestedFilters).FreeOfNaN ∧
      ∃ q, guardedOrders.compile {} (ordersRequest nestedFilters) = .ok q ∧ q.IsNormal ∧
        (∀ g ∈ (run q ScopingSample.calls).groups, 2 ≤ g.2.length) ∧
          ∀ pieces, (run q ScopingSample.calls).pieces = .ok pieces → .fixed "1 = 1" ∉ pieces := by
  have numbers : (ordersRequest nestedFilters).FreeOfNaN := by
    have number : (2.5 : Float) ≠ .nan := by decide
    simp [ordersRequest, nestedFilters, notBigInNorth, atLeastTen, ordersIn, Request.FreeOfNaN,
      Request.predicates, Filter.predicates, Filter.predicatesAll, Predicate.FreeOfNaN,
      Json.constants, number]
  obtain ⟨q, h⟩ := exists_compile.2
    (by decide : guardedOrders.accepts {} (ordersRequest nestedFilters) = true)
  obtain ⟨normal, rest⟩ := compiled_normal guardedOrders {} _ q numbers h
  exact ⟨numbers, q, h, normal, rest ScopingSample.calls⟩

end AnalyticsGateway
