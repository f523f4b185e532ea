import Mathlib.Combinatorics.Enumerative.DoubleCounting
import Mathlib.Data.List.Induction

/-!
# Places of a list

What is at a place of a list that has been changed at one place or has grown at its end, and how
many things of a kind there are then.
-/

namespace AnalyticsGateway

variable {α : Type} {l : List α} {a b : α} {i : Nat}

theorem of_modify {id : Nat} {change : α → α} (h : (l.modify id change)[i]? = some b) :
    i ≠ id ∧ l[i]? = some b ∨ i = id ∧ ∃ old, l[i]? = some old ∧ b = change old := by
  rw [List.getElem?_modify] at h
  obtain ⟨old, hold, h⟩ := Option.map_eq_some_iff.1 h
  split at h
  · rename_i same
    exact .inr ⟨same.symm, old, hold, h.symm⟩
  · rename_i other
    exact .inl ⟨Ne.symm other, h ▸ hold⟩

/-- What a change keeps of everything is kept at every place. -/
theorem map_getElem?_modify {β : Type} (f : α → β) (change : α → α)
    (keeps : ∀ a, f (change a) = f a) (l : List α) (id i : Nat) :
    (l.modify id change)[i]?.map f = l[i]?.map f := by
  rw [List.getElem?_modify]
  cases l[i]? with
  | none => rfl
  | some a => by_cases h : id = i <;> simp [h, keeps]

theorem of_concat (h : (l ++ [a])[i]? = some b) : l[i]? = some b ∨ i = l.length ∧ b = a := by
  rw [List.getElem?_append] at h
  split at h
  · exact .inl h
  · obtain ⟨hi, h⟩ := List.getElem?_eq_some_iff.1 h
    rw [List.length_singleton] at hi
    refine .inr ⟨by omega, ?_⟩
    rw [← h, List.getElem_singleton]

theorem getElem?_concat_of_some (h : l[i]? = some a) (b : α) : (l ++ [b])[i]? = some a := by
  rw [List.getElem?_append_left (List.getElem?_eq_some_iff.1 h).1, h]

theorem getElem?_concat_length (l : List α) (a : α) : (l ++ [a])[l.length]? = some a := by
  rw [List.getElem?_append_right (Nat.le_refl _), Nat.sub_self]
  rfl

/-- What stands after the beginning of a list is found by its place. -/
theorem place_of_concat {before : List α} (h : before ++ [a] <+: l) :
    before = l.take before.length ∧ before.length < l.length ∧ l[before.length]? = some a := by
  obtain ⟨rest, rfl⟩ := h
  simp

/-! ## counting -/

/-- A change at one place changes the count by what it changes of what stands there. -/
theorem countP_modify (p : α → Bool) (h : l[i]? = some a) (change : α → α) :
    (l.modify i change).countP p + (p a).toNat = l.countP p + (p (change a)).toNat := by
  induction l generalizing i with
  | nil => cases h
  | cons c l ih =>
    cases i with
    | zero =>
      cases h
      rw [List.modify_zero_cons, List.countP_cons, List.countP_cons]
      cases p a <;> cases p (change a) <;> simp
    | succ i =>
      have rest := ih h
      rw [List.modify_succ_cons, List.countP_cons, List.countP_cons]
      omega

theorem countP_concat (p : α → Bool) (l : List α) (a : α) :
    (l ++ [a]).countP p = l.countP p + (p a).toNat := by
  rw [List.countP_append]
  cases h : p a <;> simp [h]

theorem countP_add_countP {p q r : α → Bool}
    (parts : ∀ a, (p a).toNat + (q a).toNat = (r a).toNat) (l : List α) :
    l.countP p + l.countP q = l.countP r := by
  induction l using List.reverseRecOn with
  | nil => rfl
  | append_singleton l a ih =>
    rw [countP_concat, countP_concat, countP_concat, ← ih, ← parts a]
    omega

/-- What can only be one thing is counted once, if it is there. -/
theorem countP_of_only {p : α → Bool} (nodup : l.Nodup) (mem : a ∈ l)
    (only : ∀ b, p b = true → b = a) : l.countP p = (p a).toNat := by
  induction l with
  | nil => cases mem
  | cons b l ih =>
    obtain ⟨fresh, nodup⟩ := List.nodup_cons.1 nodup
    rw [List.countP_cons]
    rcases List.mem_cons.1 mem with rfl | mem
    · have rest : l.countP p = 0 := List.countP_eq_zero.2 fun c hc hp => fresh (only c hp ▸ hc)
      rw [rest]
      cases p a <;> rfl
    · have other : p b ≠ true := fun hp => fresh (only b hp ▸ mem)
      rw [ih nodup mem, if_neg other, Nat.add_zero]

theorem countP_eq_card (p : α → Bool) (l : List α) :
    l.countP p = ((Finset.range l.length).filter fun i => l[i]?.any p = true).card := by
  induction l using List.reverseRecOn with
  | nil => rfl
  | append_singleton l a ih =>
    have before : (Finset.range l.length).filter (fun i => (l ++ [a])[i]?.any p = true) =
        (Finset.range l.length).filter fun i => l[i]?.any p = true := by
      refine Finset.filter_congr fun i hi => ?_
      rw [List.getElem?_append_left (Finset.mem_range.1 hi)]
    rw [countP_concat, ih, List.length_append, List.length_singleton, Finset.range_add_one,
      Finset.filter_insert, getElem?_concat_length, before, Option.any_some]
    cases p a <;> simp

/-- If each of one kind has one of another kind, and no two have the same, there are no more. -/
theorem countP_le_countP_of_relation {β : Type} {m : List β} {p : α → Bool} {q : β → Bool}
    (r : Nat → Nat → Prop)
    (has : ∀ i a, l[i]? = some a → p a = true → ∃ j b, m[j]? = some b ∧ q b = true ∧ r i j)
    (single : ∀ i i' j, r i j → r i' j → i = i') : l.countP p ≤ m.countP q := by
  rw [countP_eq_card, countP_eq_card]
  refine Finset.card_le_card_of_forall_subsingleton r (fun i hi => ?_) fun j _ i hi i' hi' =>
    single i i' j hi.2 hi'.2
  obtain ⟨a, ha, hp⟩ := (Option.any_eq_true _ _).1 (Finset.mem_filter.1 hi).2
  obtain ⟨j, b, hb, hq, hr⟩ := has i a ha hp
  refine ⟨j, Finset.mem_filter.2 ⟨Finset.mem_range.2 (List.getElem?_eq_some_iff.1 hb).1, ?_⟩, hr⟩
  rw [hb, Option.any_some, hq]

end AnalyticsGateway
