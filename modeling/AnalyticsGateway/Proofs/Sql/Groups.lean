import AnalyticsGateway.Proofs.Sql.Junction
import AnalyticsGateway.Proofs.Sql.Normal
import AnalyticsGateway.Sql.Query

/-!
# Groups in order

A group is in order when it has two parts at least, sorted strictly by their keys, and none that is
a group of the same connective. Conditions whose groups all are, and whose constants are equal to
themselves, are joined to such a condition (`InOrder.junction`), though a junction may be left with
one part, and this may be a group of any connective.
-/

namespace AnalyticsGateway.Sql

/-! ## conditions that are equal to themselves

Without NaN all are, but equality need not be identity: the two zeros are equal. -/

theorem Literal.sameAll_self {values : List Literal} (h : ∀ v ∈ values, v.same v = true) :
    sameAll values values = true := by
  induction values with
  | nil => rfl
  | cons v rest ih =>
    obtain ⟨first, others⟩ := List.forall_mem_cons.1 h
    rw [sameAll, first, ih others, Bool.and_self]

namespace Condition

variable {k : Connective} {c : Condition} {cs : List Condition}

theorem sameAll_self : sameAll cs cs = true ↔ ∀ c ∈ cs, c.same c = true := by
  induction cs with
  | nil => simp [sameAll]
  | cons c rest ih => rw [sameAll, Bool.and_eq_true, ih, List.forall_mem_cons]

theorem same_group {parts : List Condition} :
    (group k parts).same (group k parts) = true ↔ ∀ p ∈ parts, p.same p = true := by
  rw [same, Bool.and_eq_true, sameAll_self]
  exact and_iff_right (beq_self_eq_true k)

/-! ## groups -/

mutual

/-- The groups in a condition, at any depth, each by its connective and its parts. -/
def groups : Condition → List (Connective × List Condition)
  | .test .. | .guard .. => []
  | .not c => c.groups
  | .group k parts => (k, parts) :: groupsAll parts

def groupsAll : List Condition → List (Connective × List Condition)
  | [] => []
  | c :: rest => c.groups ++ groupsAll rest

end

theorem mem_groupsAll {parts : List Condition} {g : Connective × List Condition} :
    g ∈ groupsAll parts ↔ ∃ p ∈ parts, g ∈ p.groups := by
  induction parts with
  | nil => simp [groupsAll]
  | cons c rest ih => simp [groupsAll, ih]

theorem forall_mem_groups_group {P : Connective × List Condition → Prop} {parts : List Condition} :
    (∀ g ∈ (group k parts).groups, P g) ↔ P (k, parts) ∧ ∀ p ∈ parts, ∀ g ∈ p.groups, P g := by
  rw [groups, List.forall_mem_cons]
  refine and_congr_right fun _ => ?_
  simp only [mem_groupsAll]
  exact ⟨fun h p hp g hg => h g ⟨p, hp, hg⟩, fun h g ⟨p, hp, hg⟩ => h p hp g hg⟩

/-- What the parts of a group are like. -/
structure IsNormalGroup (k : Connective) (parts : List Condition) : Prop where
  two : 2 ≤ parts.length
  flat : ∀ inner, group k inner ∉ parts
  increasing : parts.Pairwise fun a b => a.sortKey < b.sortKey

/-- The groups of a condition are normal, and it is equal to itself, as it is without NaN. -/
structure InOrder (c : Condition) : Prop where
  groups : ∀ g ∈ c.groups, IsNormalGroup g.1 g.2
  itself : c.same c = true

namespace InOrder

theorem not (h : c.InOrder) : (Condition.not c).InOrder where
  groups := by
    rw [Condition.groups]
    exact h.groups
  itself := by
    rw [same]
    exact h.itself

/-- The parts of a condition in order are, and none of them is a group of the connective. -/
theorem part (h : c.InOrder) {p : Condition} (hp : p ∈ partsOf k c) :
    p.InOrder ∧ ∀ inner, p ≠ .group k inner := by
  by_cases hc : ∃ parts, c = .group k parts
  · obtain ⟨parts, rfl⟩ := hc
    rw [partsOf_group] at hp
    obtain ⟨own, inside⟩ := forall_mem_groups_group.1 h.groups
    exact ⟨⟨inside p hp, same_group.1 h.itself p hp⟩, fun inner eq => own.flat inner (eq ▸ hp)⟩
  · rcases partsOf_cases k c with alone | group
    · rw [alone, List.mem_singleton] at hp
      subst hp
      exact ⟨h, fun inner eq => hc ⟨inner, eq⟩⟩
    · exact absurd group hc

theorem junction {g : Condition} (each : ∀ c ∈ cs, c.InOrder)
    (joined : Condition.junction k cs = some g) : g.InOrder := by
  have flattened : ∀ p ∈ cs.flatMap (partsOf k), p.InOrder ∧ ∀ inner, p ≠ .group k inner := by
    intro p hp
    obtain ⟨c, hc, hp⟩ := List.mem_flatMap.1 hp
    exact (each c hc).part hp
  have parts : ∀ p ∈ junctionParts k cs, p.InOrder ∧ ∀ inner, p ≠ .group k inner :=
    fun p hp => flattened p (mem_of_mem_distinct hp)
  rcases junction_eq_some joined with one | ⟨rfl, two⟩
  · exact (parts g (one ▸ List.mem_singleton_self g)).1
  · have inside : ∀ p ∈ junctionParts k cs, ∀ g ∈ p.groups, IsNormalGroup g.1 g.2 :=
      fun p hp => (parts p hp).1.groups
    refine ⟨forall_mem_groups_group.2 ⟨⟨two, ?flat, ?increasing⟩, inside⟩,
      same_group.2 fun p hp => (parts p hp).1.itself⟩
    case flat => exact fun inner hp => (parts _ hp).2 inner rfl
    case increasing =>
      -- equal keys are keys of one condition, which is equal to itself
      refine increasing_distinct fun a ha b _ eq => ?_
      rw [← sortKey_inj eq]
      exact (flattened a ha).1.itself

end InOrder

end Condition

/-- The groups in the conditions on rows and on groups of rows. -/
def Query.groups (q : Query) : List (Connective × List Condition) :=
  (q.selection.toList ++ q.having.toList).flatMap Condition.groups

theorem Query.mem_groups {q : Query} {g : Connective × List Condition} :
    g ∈ q.groups ↔ (∃ c ∈ q.selection, g ∈ c.groups) ∨ ∃ c ∈ q.having, g ∈ c.groups := by
  simp [groups]

end AnalyticsGateway.Sql
