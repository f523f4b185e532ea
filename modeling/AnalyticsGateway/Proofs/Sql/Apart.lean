import AnalyticsGateway.Proofs.Compile.Levels
import AnalyticsGateway.Proofs.Sql.Normal
import AnalyticsGateway.Proofs.Sql.Weight
import Mathlib.Algebra.Order.BigOperators.Group.Finset

/-!
# Conditions that are told apart by weight

Two conditions are apart if, whatever they are joined with, the junctions are the same or differ in
weight. Conditions of one part each are apart if they weigh differently themselves, and a junction
of conditions is apart from one in which a single condition is exchanged for another that it is
apart from (`Apart.junction`).
-/

namespace AnalyticsGateway.Sql

open Condition (partsOf junction joined)

/-! ## sums over sets -/

section Sums

variable {α : Type} [DecidableEq α] {f : α → ℕ} {P : Finset α} {x : α}

/-- A set of some total and one value that is greater: with more values they are the same set, or
they differ in total. -/
theorem union_eq_or_sum_ne (pos : ∀ p ∈ P, 0 < f p) (less : ∑ p ∈ P, f p < f x) (U : Finset α) :
    P ∪ U = {x} ∪ U ∨ ∑ p ∈ P ∪ U, f p ≠ ∑ p ∈ {x} ∪ U, f p := by
  by_cases hx : x ∈ U
  · have whole : {x} ∪ U = U := Finset.union_eq_right.2 (Finset.singleton_subset_iff.2 hx)
    rw [whole]
    by_cases sub : P ⊆ U
    · exact .inl (Finset.union_eq_right.2 sub)
    · obtain ⟨p, hp, fresh⟩ := Finset.not_subset.1 sub
      have more : ∑ q ∈ U, f q < ∑ q ∈ P ∪ U, f q :=
        Finset.sum_lt_sum_of_subset Finset.subset_union_right (Finset.mem_union_left U hp) fresh
          (pos p hp) fun _ _ _ => Nat.zero_le _
      exact .inr more.ne'
  · have added : ∑ q ∈ {x} ∪ U, f q = f x + ∑ q ∈ U, f q :=
      Finset.sum_insert hx
    have bound : ∑ q ∈ P ∪ U, f q ≤ ∑ q ∈ P, f q + ∑ q ∈ U, f q :=
      (Nat.le_add_right _ _).trans_eq Finset.sum_union_inter
    exact .inr (by omega)

end Sums

/-! ## terms of parts -/

namespace Condition

variable {k : Connective} {c : Condition} {t : Term}

theorem mem_termsAll {parts : List Condition} : t ∈ termsAll parts ↔ ∃ c ∈ parts, t ∈ c.terms := by
  induction parts with
  | nil => simp [termsAll]
  | cons c rest ih => simp [termsAll, ih]

theorem mem_terms_iff (k : Connective) (c : Condition) :
    t ∈ c.terms ↔ ∃ p ∈ partsOf k c, t ∈ p.terms := by
  rcases partsOf_cases k c with own | ⟨parts, rfl⟩
  · simp [own]
  · rw [partsOf_group, terms, mem_termsAll]

end Condition

/-! ## settled conditions -/

/-- Plain and normal, with terms of one level. -/
structure Condition.IsSettled (level : Level) (c : Condition) : Prop where
  plain : c.IsPlain
  normal : c.IsNormal
  onLevel : c.OnLevel level

variable {level : Level} {k : Connective} {c c' : Condition} {cs : List Condition}

namespace Condition.IsSettled

theorem parts_ne_nil (h : c.IsSettled level) (k : Connective) : partsOf k c ≠ [] :=
  h.onLevel.partsOf_part.1

theorem joined_eq (hc : junction k cs = some c) : joined k cs = c := by
  rw [joined, hc]
  rfl

theorem mem_parts_junction (h : ∀ d ∈ cs, d.IsSettled level) (hc : junction k cs = some c)
    {p : Condition} : p ∈ partsOf k c ↔ p ∈ cs.flatMap (partsOf k) := by
  rw [← joined_eq hc]
  exact mem_partsOf_joined (fun d hd => (h d hd).plain) fun d hd => (h d hd).normal

theorem junction (h : ∀ d ∈ cs, d.IsSettled level) (hc : junction k cs = some c) :
    c.IsSettled level where
  plain := joined_eq hc ▸ isPlain_joined fun d hd => (h d hd).plain
  normal := joined_eq hc ▸ isNormal_joined (fun d hd => (h d hd).plain) fun d hd => (h d hd).normal
  onLevel := OnLevel.of_junction (fun d hd => (h d hd).onLevel) hc

theorem mem_terms_junction (h : ∀ d ∈ cs, d.IsSettled level) (hc : Condition.junction k cs = some c)
    {t : Term} : t ∈ c.terms ↔ ∃ d ∈ cs, t ∈ d.terms := by
  rw [mem_terms_iff k c]
  constructor
  · rintro ⟨p, hp, ht⟩
    obtain ⟨d, hd, hp⟩ := List.mem_flatMap.1 ((mem_parts_junction h hc).1 hp)
    exact ⟨d, hd, (mem_terms_iff k d).2 ⟨p, hp, ht⟩⟩
  · rintro ⟨d, hd, ht⟩
    obtain ⟨p, hp, ht⟩ := (mem_terms_iff k d).1 ht
    exact ⟨p, (mem_parts_junction h hc).2 (List.mem_flatMap.2 ⟨d, hd, hp⟩), ht⟩

/-- A settled condition is told by its parts. -/
theorem eq_of_parts (h : c.IsSettled level) (h' : c'.IsSettled level)
    (same : ∀ p, p ∈ partsOf k c ↔ p ∈ partsOf k c') : c = c' := by
  rw [← joined_singleton k h.normal, ← joined_singleton k h'.normal]
  exact joined_congr (by simpa using h.plain) (by simpa using same)

theorem nodup_parts (h : c.IsSettled level) (k : Connective) : (partsOf k c).Nodup := by
  rcases partsOf_cases k c with own | ⟨parts, rfl⟩
  · rw [own]
    exact List.nodup_singleton c
  · rw [partsOf_group]
    obtain ⟨plain, normal, -⟩ := h
    rw [IsPlain, allPlain_iff] at plain
    rw [IsNormal] at normal
    rw [← normal.2.2.1]
    exact identifies.nodup_distinct (plain_flatMap plain)

end Condition.IsSettled

/-! ## apart -/

open scoped Classical

/-- The parts of a condition. -/
noncomputable def Condition.partSet (k : Connective) (c : Condition) : Finset Condition :=
  (partsOf k c).toFinset

open Condition (partSet)

theorem partSet_of_own (own : partsOf k c = [c]) : partSet k c = {c} := by
  simp [partSet, own]

namespace Condition.IsSettled

variable {s : Style} {n : ℤ}

theorem sum_partSet (h : c.IsSettled level) (k : Connective) :
    ∑ p ∈ partSet k c, s.weight n p = s.weight n c := by
  rw [partSet, List.sum_toFinset _ (h.nodup_parts k)]
  rcases partsOf_cases k c with own | ⟨parts, rfl⟩
  · simp [own]
  · have ne := h.parts_ne_nil k
    rw [partsOf_group] at ne ⊢
    rw [Style.weight_group ne]

theorem eq_of_partSet (h : c.IsSettled level) (h' : c'.IsSettled level)
    (same : partSet k c = partSet k c') : c = c' :=
  h.eq_of_parts h' (k := k) fun p => by
    simpa [partSet] using Finset.ext_iff.1 same p

end Condition.IsSettled

/-- Whatever the conditions are joined with, the junctions are of the same parts or differ in
weight. -/
def Apart (s : Style) (n : ℤ) (c c' : Condition) : Prop :=
  ∀ (k : Connective) (U : Finset Condition), partSet k c ∪ U = partSet k c' ∪ U ∨
    ∑ p ∈ partSet k c ∪ U, s.weight n p ≠ ∑ p ∈ partSet k c' ∪ U, s.weight n p

namespace Apart

variable {s : Style} {n : ℤ}

theorem refl (c : Condition) : Apart s n c c := fun _ _ => .inl rfl

theorem symm (h : Apart s n c c') : Apart s n c' c := fun k U => (h k U).imp .symm .symm

theorem eq_or_weight_ne (h : Apart s n c c') (hc : c.IsSettled level) (hc' : c'.IsSettled level) :
    c = c' ∨ s.weight n c ≠ s.weight n c' := by
  have alone := h .and ∅
  simp only [Finset.union_empty, hc.sum_partSet, hc'.sum_partSet] at alone
  exact alone.imp_left (hc.eq_of_partSet hc')

/-- Of two conditions, the heavier one is a part of its own in any junction of the kind. -/
theorem parts_of_lt (hc : c.IsSettled level) (own : partsOf k c' = [c'])
    (less : s.weight n c < s.weight n c') (U : Finset Condition) :
    partSet k c ∪ U = partSet k c' ∪ U ∨
      ∑ p ∈ partSet k c ∪ U, s.weight n p ≠ ∑ p ∈ partSet k c' ∪ U, s.weight n p := by
  rw [partSet_of_own own]
  exact union_eq_or_sum_ne (fun p _ => Style.weight_pos p) (hc.sum_partSet k ▸ less) U

/-- Conditions of one part each are apart if they weigh differently. -/
theorem of_own (hc : c.IsSettled level) (hc' : c'.IsSettled level)
    (own : ∀ k, partsOf k c = [c]) (own' : ∀ k, partsOf k c' = [c'])
    (h : c = c' ∨ s.weight n c ≠ s.weight n c') : Apart s n c c' := by
  rcases h with rfl | differ
  · exact refl c
  · intro k U
    rcases Nat.lt_or_gt_of_ne differ with less | more
    · exact parts_of_lt hc (own' k) less U
    · exact (parts_of_lt hc' (own k) more U).imp .symm .symm

section Junction

variable {A B : List Condition} {g g' : Condition}

/-- The parts of the conditions that stay. -/
noncomputable def restSet (k : Connective) (A B : List Condition) : Finset Condition :=
  ((A ++ B).flatMap (partsOf k)).toFinset

theorem partSet_junction (hA : ∀ d ∈ A, d.IsSettled level) (hB : ∀ d ∈ B, d.IsSettled level)
    (hc : c.IsSettled level) (hg : junction k (A ++ c :: B) = some g) :
    partSet k g = partSet k c ∪ restSet k A B := by
  have settled : ∀ d ∈ A ++ c :: B, d.IsSettled level :=
    List.forall_mem_append.2 ⟨hA, List.forall_mem_cons.2 ⟨hc, hB⟩⟩
  ext p
  have parts := Condition.IsSettled.mem_parts_junction settled hg (p := p)
  simp only [partSet, restSet, Finset.mem_union, List.mem_toFinset, parts, List.flatMap_append,
    List.flatMap_cons, List.mem_append]
  tauto

/-- Where the connective is another one, the heavier junction is a part of its own, unless the
condition that was exchanged is all of it. -/
theorem junction_of_lt (hA : ∀ d ∈ A, d.IsSettled level) (hB : ∀ d ∈ B, d.IsSettled level)
    (hc : c.IsSettled level) (hc' : c'.IsSettled level) (h : Apart s n c c')
    (hg : junction k (A ++ c :: B) = some g) (hg' : junction k (A ++ c' :: B) = some g')
    (settled : g.IsSettled level) (settled' : g'.IsSettled level)
    (less : s.weight n g < s.weight n g') {k' : Connective} (other : k' ≠ k)
    (U : Finset Condition) : partSet k' g ∪ U = partSet k' g' ∪ U ∨
      ∑ p ∈ partSet k' g ∪ U, s.weight n p ≠ ∑ p ∈ partSet k' g' ∪ U, s.weight n p := by
  have parts := partSet_junction hA hB hc hg
  have parts' := partSet_junction hA hB hc' hg'
  rcases Condition.partsOf_cases k' g' with own | ⟨inner, hinner⟩
  · exact parts_of_lt settled own less U
  · have own : partSet k g' = {g'} := partSet_of_own (hinner ▸ if_neg other)
    have whole : c' = g' := by
      refine hc'.eq_of_partSet settled' (k := k) ?_
      rw [own]
      have sub : partSet k c' ⊆ {g'} := own ▸ parts' ▸ Finset.subset_union_left
      refine (Finset.subset_singleton_iff.1 sub).resolve_left fun empty => ?_
      exact hc'.parts_ne_nil k (List.toFinset_eq_empty_iff _ |>.1 empty)
    rcases (restSet k A B).eq_empty_or_nonempty with none | ⟨p, hp⟩
    · rw [none, Finset.union_empty] at parts
      rw [settled.eq_of_partSet hc parts, ← whole]
      exact h k' U
    · -- what stays is the heavier junction itself, so the lighter one has it as a part
      have mem' : p ∈ partSet k g' := parts' ▸ Finset.mem_union_right _ hp
      rw [own, Finset.mem_singleton] at mem'
      have mem : g' ∈ partSet k g := parts ▸ Finset.mem_union_right _ (mem' ▸ hp)
      have bound := Finset.single_le_sum (f := s.weight n) (fun _ _ => Nat.zero_le _) mem
      rw [settled.sum_partSet] at bound
      exact absurd bound (Nat.not_le.2 less)

/-- Junctions that differ in one condition are apart if the two conditions are. -/
theorem junction (hA : ∀ d ∈ A, d.IsSettled level) (hB : ∀ d ∈ B, d.IsSettled level)
    (hc : c.IsSettled level) (hc' : c'.IsSettled level) (h : Apart s n c c')
    (hg : junction k (A ++ c :: B) = some g) (hg' : junction k (A ++ c' :: B) = some g') :
    Apart s n g g' := by
  have parts := partSet_junction hA hB hc hg
  have parts' := partSet_junction hA hB hc' hg'
  have settled : g.IsSettled level := .junction
    (List.forall_mem_append.2 ⟨hA, List.forall_mem_cons.2 ⟨hc, hB⟩⟩) hg
  have settled' : g'.IsSettled level := .junction
    (List.forall_mem_append.2 ⟨hA, List.forall_mem_cons.2 ⟨hc', hB⟩⟩) hg'
  intro k' U
  by_cases same : k' = k
  · rw [same, parts, parts', Finset.union_assoc, Finset.union_assoc]
    exact h k _
  · rcases h k (restSet k A B) with equal | differ
    · rw [← parts, ← parts'] at equal
      exact .inl (by rw [settled.eq_of_partSet settled' equal])
    · rw [← parts, ← parts', settled.sum_partSet, settled'.sum_partSet] at differ
      rcases Nat.lt_or_gt_of_ne differ with less | more
      · exact junction_of_lt hA hB hc hc' h hg hg' settled settled' less same U
      · exact (junction_of_lt hA hB hc' hc h.symm hg' hg settled' settled more same U).imp
          .symm .symm

/-- The negations of conditions that are apart are. -/
theorem not (h : Apart s n c c') (hc : c.IsSettled level) (hc' : c'.IsSettled level) :
    Apart s n (.not c) (.not c') := by
  have settled : (Condition.not c).IsSettled level := ⟨hc.plain, hc.normal, hc.onLevel⟩
  have settled' : (Condition.not c').IsSettled level := ⟨hc'.plain, hc'.normal, hc'.onLevel⟩
  refine of_own settled settled' (fun _ => rfl) (fun _ => rfl) ?_
  rcases h.eq_or_weight_ne hc hc' with rfl | differ
  · exact .inl rfl
  · exact .inr (by simpa [Style.weight] using differ)

end Junction

end Apart

/-! ## exchanged conditions -/

/-- Settled conditions on the same terms, which are apart. -/
structure Exchanged (s : Style) (n : ℤ) (level : Level) (c c' : Condition) : Prop where
  left : c.IsSettled level
  right : c'.IsSettled level
  terms : ∀ t, t ∈ c.terms ↔ t ∈ c'.terms
  apart : Apart s n c c'

namespace Exchanged

variable {s : Style} {n : ℤ} {A B : List Condition} {g g' : Condition}

theorem not (h : Exchanged s n level c c') : Exchanged s n level (.not c) (.not c') where
  left := ⟨h.left.plain, h.left.normal, h.left.onLevel⟩
  right := ⟨h.right.plain, h.right.normal, h.right.onLevel⟩
  terms t := by rw [Condition.terms, Condition.terms, h.terms]
  apart := h.apart.not h.left h.right

/-- Exchanging one of the conditions that are joined exchanges the junction. -/
theorem junction (h : Exchanged s n level c c') (hA : ∀ d ∈ A, d.IsSettled level)
    (hB : ∀ d ∈ B, d.IsSettled level) (hg : junction k (A ++ c :: B) = some g)
    (hg' : Condition.junction k (A ++ c' :: B) = some g') : Exchanged s n level g g' := by
  have settled : ∀ d ∈ A ++ c :: B, d.IsSettled level :=
    List.forall_mem_append.2 ⟨hA, List.forall_mem_cons.2 ⟨h.left, hB⟩⟩
  have settled' : ∀ d ∈ A ++ c' :: B, d.IsSettled level :=
    List.forall_mem_append.2 ⟨hA, List.forall_mem_cons.2 ⟨h.right, hB⟩⟩
  refine ⟨.junction settled hg, .junction settled' hg', fun t => ?_,
    h.apart.junction hA hB h.left h.right hg hg'⟩
  rw [Condition.IsSettled.mem_terms_junction settled hg,
    Condition.IsSettled.mem_terms_junction settled' hg']
  simp only [List.mem_append, List.mem_cons, or_and_right, exists_or, exists_eq_left, h.terms]

end Exchanged

end AnalyticsGateway.Sql
