import AnalyticsGateway.SortedMap
import AnalyticsGateway.Sql.SortKey

/-!
# Laws of junctions

A junction is made of the parts of its conditions: sorting keeps them all, and of equal neighbours
one stays. Where keys and equality both tell values apart, the parts of a junction are determined by
the set of the parts that it is made of (`Identifies.distinct_congr`).
-/

namespace AnalyticsGateway.Sql

variable {α : Type}

/-! ## sorting -/

theorem sortByKey_perm (key : α → String) (items : List α) :
    (sortByKey key items).Perm items := by
  have h := (List.mergeSort_perm (items.map fun item => (key item, item))
    fun a b => decide (a.1 ≤ b.1)).map (·.2)
  simpa [sortByKey, List.map_map, Function.comp_def] using h

theorem mem_sortByKey {key : α → String} {items : List α} {x : α} :
    x ∈ sortByKey key items ↔ x ∈ items :=
  (sortByKey_perm key items).mem_iff

theorem pairwise_sortByKey (key : α → String) (items : List α) :
    (sortByKey key items).Pairwise fun a b => key a ≤ key b := by
  have sorted := @List.pairwise_mergeSort (String × α) (fun a b => decide (a.1 ≤ b.1))
    (fun a b c hab hbc => by simpa using String.le_trans (by simpa using hab) (by simpa using hbc))
    (fun a b => by simpa using String.le_total a.1 b.1)
    (items.map fun item => (key item, item))
  refine List.pairwise_map.2 (sorted.imp_of_mem fun {a b} ha hb h => ?_)
  have keyed : ∀ e ∈ (items.map fun item => (key item, item)).mergeSort
      (fun a b => decide (a.1 ≤ b.1)), key e.2 = e.1 := by
    intro e he
    obtain ⟨item, _, rfl⟩ := List.mem_map.1 (List.mem_mergeSort.1 he)
    rfl
  rw [keyed a ha, keyed b hb]
  simpa using h

theorem sortByKey_pair {key : α → String} {a b : α} (h : key a ≤ key b) :
    sortByKey key [a, b] = [a, b] := by
  simp [sortByKey, List.mergeSort, List.MergeSort.Internal.splitInTwo, h]

/-! ## dropping repeats -/

section Repeats

variable {same : α → α → Bool}

theorem mem_of_mem_go {last x : α} {l : List α} (h : x ∈ dropRepeats.go same last l) : x ∈ l := by
  induction l generalizing last with
  | nil => exact h
  | cons item rest ih =>
    rw [dropRepeats.go] at h
    split at h
    · exact List.mem_cons_of_mem _ (ih h)
    · rcases List.mem_cons.1 h with rfl | h
      · exact List.mem_cons_self
      · exact List.mem_cons_of_mem _ (ih h)

theorem mem_of_mem_dropRepeats {x : α} {l : List α} (h : x ∈ dropRepeats same l) : x ∈ l := by
  cases l with
  | nil => exact h
  | cons item rest =>
    rcases List.mem_cons.1 h with rfl | h
    · exact List.mem_cons_self
    · exact List.mem_cons_of_mem _ (mem_of_mem_go h)

theorem mem_go_or_same (same : α → α → Bool) (last : α) {x : α} {l : List α} (h : x ∈ l) :
    x ∈ dropRepeats.go same last l ∨
      ∃ y ∈ last :: dropRepeats.go same last l, same y x = true := by
  induction l generalizing last with
  | nil => cases h
  | cons item rest ih =>
    rw [dropRepeats.go]
    split
    · rename_i repeated
      rcases List.mem_cons.1 h with rfl | h
      · exact .inr ⟨last, List.mem_cons_self, repeated⟩
      · exact ih last h
    · rcases List.mem_cons.1 h with rfl | h
      · exact .inl List.mem_cons_self
      · rcases ih item h with h | ⟨y, hy, h⟩
        · exact .inl (List.mem_cons_of_mem _ h)
        · exact .inr ⟨y, List.mem_cons_of_mem _ hy, h⟩

/-- A value that is not kept equals one that is. -/
theorem mem_dropRepeats_or_same (same : α → α → Bool) {x : α} {l : List α} (h : x ∈ l) :
    x ∈ dropRepeats same l ∨ ∃ y ∈ dropRepeats same l, same y x = true := by
  cases l with
  | nil => cases h
  | cons item rest =>
    rcases List.mem_cons.1 h with rfl | h
    · exact .inl List.mem_cons_self
    · rcases mem_go_or_same same item h with h | h
      · exact .inl (List.mem_cons_of_mem _ h)
      · exact .inr h

theorem dropRepeats_eq_nil {l : List α} : dropRepeats same l = [] ↔ l = [] := by
  cases l <;> simp [dropRepeats]

/-- The values that a list is left with after it is sorted and rid of repeats. -/
theorem mem_distinct_or_same (key : α → String) (same : α → α → Bool) {x : α} {l : List α}
    (h : x ∈ l) :
    x ∈ dropRepeats same (sortByKey key l) ∨
      ∃ y ∈ dropRepeats same (sortByKey key l), same y x = true :=
  mem_dropRepeats_or_same same (mem_sortByKey.2 h)

theorem mem_of_mem_distinct {key : α → String} {x : α} {l : List α}
    (h : x ∈ dropRepeats same (sortByKey key l)) : x ∈ l :=
  mem_sortByKey.1 (mem_of_mem_dropRepeats h)

end Repeats

/-! ## strict order

Sorted values increase strictly without their repeats, if values of one key are taken for
repeats. -/

section Increasing

variable {key : α → String} {same : α → α → Bool}

theorem increasing_go {last : α} {l : List α}
    (taken : ∀ a ∈ last :: l, ∀ b ∈ last :: l, key a = key b → same a b = true)
    (sorted : (last :: l).Pairwise fun a b => key a ≤ key b) :
    (last :: dropRepeats.go same last l).Pairwise fun a b => key a < key b := by
  induction l generalizing last with
  | nil => exact List.pairwise_singleton _ _
  | cons item rest ih =>
    have ⟨first, tail⟩ := List.pairwise_cons.1 sorted
    rw [dropRepeats.go]
    split
    · have fewer : last :: rest ⊆ last :: item :: rest :=
        List.cons_subset_cons last (List.subset_cons_self item rest)
      refine ih (fun a ha b hb => taken a (fewer ha) b (fewer hb)) (.cons ?_ ?_)
      · exact fun x hx => first x (List.mem_cons_of_mem _ hx)
      · exact (List.pairwise_cons.1 tail).2
    · rename_i differs
      have fewer : item :: rest ⊆ last :: item :: rest := List.subset_cons_self _ _
      have kept := ih (fun a ha b hb => taken a (fewer ha) b (fewer hb)) tail
      have less : key last < key item := by
        refine String.not_le.1 fun h => differs ?_
        exact taken last List.mem_cons_self item (fewer List.mem_cons_self)
          (String.le_antisymm (first item List.mem_cons_self) h)
      refine .cons (fun x hx => ?_) kept
      rcases List.mem_cons.1 hx with rfl | hx
      · exact less
      · exact String.lt_trans less ((List.pairwise_cons.1 kept).1 x hx)

theorem increasing_dropRepeats {l : List α}
    (taken : ∀ a ∈ l, ∀ b ∈ l, key a = key b → same a b = true)
    (sorted : l.Pairwise fun a b => key a ≤ key b) :
    (dropRepeats same l).Pairwise fun a b => key a < key b := by
  cases l with
  | nil => exact .nil
  | cons item rest => exact increasing_go taken sorted

theorem increasing_distinct {l : List α}
    (taken : ∀ a ∈ l, ∀ b ∈ l, key a = key b → same a b = true) :
    (dropRepeats same (sortByKey key l)).Pairwise fun a b => key a < key b :=
  increasing_dropRepeats
    (fun a ha b hb => taken a (mem_sortByKey.1 ha) b (mem_sortByKey.1 hb))
    (pairwise_sortByKey key l)

end Increasing

/-! ## identifying values -/

/-- Among the values with a property, the key and the equality both tell each value from all
others. -/
structure Identifies (key : α → String) (same : α → α → Bool) (P : α → Prop) : Prop where
  of_key : ∀ {a b}, P a → P b → key a = key b → a = b
  same_iff : ∀ {a b}, P a → P b → (same a b = true ↔ a = b)

namespace Identifies

variable {key : α → String} {same : α → α → Bool} {P : α → Prop}

theorem increasing_distinct (H : Identifies key same P) {l : List α} (hP : ∀ x ∈ l, P x) :
    (dropRepeats same (sortByKey key l)).Pairwise fun a b => key a < key b :=
  Sql.increasing_distinct fun a ha b hb eq =>
    (H.same_iff (hP a ha) (hP b hb)).2 (H.of_key (hP a ha) (hP b hb) eq)

/-- Values in strict key order are told by their set alone. -/
theorem eq_of_mem_iff {l r : List α} (hl : l.Pairwise fun a b => key a < key b)
    (hr : r.Pairwise fun a b => key a < key b) (h : ∀ x, x ∈ l ↔ x ∈ r) : l = r := by
  have keyed (l : List α) (hl : l.Pairwise fun a b => key a < key b) :
      KeysIncrease (l.map fun x => (key x, x)) := List.pairwise_map.2 hl
  have entries := SortedMap.entries_eq_of_mem_iff (keyed l hl) (keyed r hr) fun e => by
    simp only [List.mem_map, h]
  simpa [List.map_map, Function.comp_def] using congrArg (List.map (·.2)) entries

theorem mem_distinct (H : Identifies key same P) {l : List α} (hP : ∀ x ∈ l, P x) {x : α} :
    x ∈ dropRepeats same (sortByKey key l) ↔ x ∈ l := by
  refine ⟨mem_of_mem_distinct, fun h => ?_⟩
  rcases mem_distinct_or_same key same h with h | ⟨y, hy, equal⟩
  · exact h
  · exact (H.same_iff (hP y (mem_of_mem_distinct hy)) (hP x h)).1 equal ▸ hy

theorem nodup_distinct (H : Identifies key same P) {l : List α} (hP : ∀ x ∈ l, P x) :
    (dropRepeats same (sortByKey key l)).Nodup := by
  refine (H.increasing_distinct hP).imp ?_
  rintro a _ less rfl
  exact String.lt_irrefl _ less

/-- Lists of the same values, in whatever order and number, are left with the same list. -/
theorem distinct_congr (H : Identifies key same P) {l r : List α} (hl : ∀ x ∈ l, P x)
    (h : ∀ x, x ∈ l ↔ x ∈ r) :
    dropRepeats same (sortByKey key l) = dropRepeats same (sortByKey key r) := by
  have hr : ∀ x ∈ r, P x := fun x hx => hl x ((h x).2 hx)
  refine eq_of_mem_iff (H.increasing_distinct hl) (H.increasing_distinct hr) fun x => ?_
  rw [H.mem_distinct hl, H.mem_distinct hr, h]

end Identifies

/-! ## junctions -/

namespace Condition

theorem junction_eq_none {connective : Connective} {parts : List Condition} :
    junction connective parts = none ↔ junctionParts connective parts = [] := by
  unfold junction
  split <;> simp_all

/-- A junction is the group of its parts, or the only one of them. -/
theorem junction_eq_some {connective : Connective} {parts : List Condition} {c : Condition}
    (h : junction connective parts = some c) :
    junctionParts connective parts = [c] ∨
      c = .group connective (junctionParts connective parts) ∧
        2 ≤ (junctionParts connective parts).length := by
  unfold junction at h
  split at h
  · cases h
  · rename_i part hparts
    cases h
    exact .inl hparts
  · rename_i hnil hone
    cases h
    refine .inr ⟨rfl, ?_⟩
    match hp : junctionParts connective parts with
    | [] => exact absurd hp hnil
    | [part] => exact absurd hp (hone part)
    | _ :: _ :: _ => simp

end Condition

end AnalyticsGateway.Sql
