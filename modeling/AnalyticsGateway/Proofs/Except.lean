import Mathlib.Data.List.Forall2

/-!
# Computations that may fail

When a sequence of steps succeeds, each of its steps has.
-/

namespace AnalyticsGateway

variable {ε α β : Type}

theorem bind_eq_ok {x : Except ε α} {f : α → Except ε β} {b : β} :
    (x >>= f) = .ok b ↔ ∃ a, x = .ok a ∧ f a = .ok b := by
  cases x with
  | error e => exact ⟨(nomatch ·), fun ⟨_, h, _⟩ => nomatch h⟩
  | ok a => exact ⟨fun h => ⟨a, rfl, h⟩, fun ⟨_, rfl, h⟩ => h⟩

theorem bind_eq_error {x : Except ε α} {f : α → Except ε β} {e : ε} :
    (x >>= f) = .error e ↔ x = .error e ∨ ∃ a, x = .ok a ∧ f a = .error e := by
  cases x <;> simp [bind, Except.bind]

/-- A step that fails under a condition lets the steps after it go on under the opposite one. -/
theorem unless_eq_ok {p : Prop} [Decidable p] {e : ε} {f : PUnit → Except ε β} {b : β} :
    (if p then throw e >>= f else f ⟨⟩) = .ok b ↔ ¬p ∧ f ⟨⟩ = .ok b := by
  by_cases h : p
  · simp only [h, if_true, not_true, false_and, iff_false]
    exact (nomatch ·)
  · simp [h]

theorem mapM_eq_ok {f : α → Except ε β} {l : List α} {r : List β} :
    l.mapM f = .ok r ↔ List.Forall₂ (fun a b => f a = .ok b) l r := by
  induction l generalizing r with
  | nil => cases r <;> simp [pure, Except.pure]
  | cons a l ih =>
    rw [List.mapM_cons, bind_eq_ok]
    constructor
    · rintro ⟨b, hb, h⟩
      obtain ⟨bs, hbs, h⟩ := bind_eq_ok.1 h
      cases h
      exact .cons hb (ih.1 hbs)
    · rintro (_ | ⟨hb, hbs⟩)
      exact ⟨_, hb, bind_eq_ok.2 ⟨_, ih.2 hbs, rfl⟩⟩

theorem forM_eq_ok {f : α → Except ε Unit} {l : List α} :
    l.forM f = .ok () ↔ ∀ a ∈ l, f a = .ok () := by
  induction l with
  | nil => simp [pure, Except.pure]
  | cons a l ih =>
    rw [List.forM, bind_eq_ok, List.forall_mem_cons, ← ih]
    exact ⟨fun ⟨_, ha, hl⟩ => ⟨ha, hl⟩, fun ⟨ha, hl⟩ => ⟨(), ha, hl⟩⟩

theorem exists_of_mem_forall₂ {R : α → β → Prop} {l : List α} {r : List β}
    (h : List.Forall₂ R l r) {b : β} (hb : b ∈ r) : ∃ a ∈ l, R a b := by
  induction h with
  | nil => cases hb
  | cons first _ ih =>
    rcases List.mem_cons.1 hb with rfl | hb
    · exact ⟨_, List.mem_cons_self, first⟩
    · obtain ⟨a, ha, h⟩ := ih hb
      exact ⟨a, List.mem_cons_of_mem _ ha, h⟩

theorem map_eq_of_forall₂ {γ : Type} {R : α → β → Prop} {l : List α} {r : List β} {f : α → γ}
    {g : β → γ} (h : List.Forall₂ R l r) (same : ∀ a ∈ l, ∀ b, R a b → f a = g b) :
    l.map f = r.map g := by
  induction h with
  | nil => rfl
  | cons first _ ih =>
    rw [List.map_cons, List.map_cons, same _ List.mem_cons_self _ first,
      ih fun a ha => same a (List.mem_cons_of_mem _ ha)]

theorem exists_forall₂ {R : α → β → Prop} {l : List α} (h : ∀ a ∈ l, ∃ b, R a b) :
    ∃ r, List.Forall₂ R l r := by
  induction l with
  | nil => exact ⟨[], .nil⟩
  | cons a l ih =>
    obtain ⟨b, hb⟩ := h a List.mem_cons_self
    obtain ⟨bs, hbs⟩ := ih fun x hx => h x (List.mem_cons_of_mem _ hx)
    exact ⟨b :: bs, .cons hb hbs⟩

theorem forall₂_ok_unique {f : α → Except ε β} {l : List α} {r r' : List β}
    (h : List.Forall₂ (fun a b => f a = .ok b) l r)
    (h' : List.Forall₂ (fun a b => f a = .ok b) l r') : r = r' :=
  Except.ok.inj ((mapM_eq_ok.2 h).symm.trans (mapM_eq_ok.2 h'))

/-- Lists are related piece by piece around one value. -/
theorem forall₂_append_cons {R : α → β → Prop} {a : α} {pre post : List α} {r : List β} :
    List.Forall₂ R (pre ++ a :: post) r ↔ ∃ front b back, List.Forall₂ R pre front ∧ R a b ∧
      List.Forall₂ R post back ∧ r = front ++ b :: back := by
  induction pre generalizing r with
  | nil => simp [List.forall₂_cons_left_iff]
  | cons x pre ih =>
    rw [List.cons_append, List.forall₂_cons_left_iff]
    constructor
    · rintro ⟨y, rest, hy, h, rfl⟩
      obtain ⟨front, b, back, hpre, hab, hpost, rfl⟩ := ih.1 h
      exact ⟨y :: front, b, back, .cons hy hpre, hab, hpost, rfl⟩
    · rintro ⟨_, b, back, _ | ⟨hy, hpre⟩, hab, hpost, rfl⟩
      exact ⟨_, _, hy, ih.2 ⟨_, b, back, hpre, hab, hpost, rfl⟩, rfl⟩

theorem exists_of_mem_forall₂_left {R : α → β → Prop} {l : List α} {r : List β}
    (h : List.Forall₂ R l r) {a : α} (ha : a ∈ l) : ∃ b, R a b := by
  obtain ⟨b, -, hb⟩ := exists_of_mem_forall₂ h.flip ha
  exact ⟨b, hb⟩

theorem mem_of_mapM {f : α → Except ε β} {l : List α} {r : List β} (h : l.mapM f = .ok r) {b : β} :
    b ∈ r ↔ ∃ a ∈ l, f a = .ok b := by
  have steps := mapM_eq_ok.1 h
  refine ⟨exists_of_mem_forall₂ steps, ?_⟩
  rintro ⟨a, ha, hb⟩
  obtain ⟨b', hb', h⟩ := exists_of_mem_forall₂ steps.flip ha
  rw [hb] at h
  cases h
  exact hb'

theorem mapError_eq_ok {ε' : Type} {x : Except ε α} {f : ε → ε'} {a : α} :
    x.mapError f = .ok a ↔ x = .ok a := by
  cases x <;> simp [Except.mapError]

theorem mapError_eq_error {ε' : Type} {x : Except ε α} {f : ε → ε'} {e : ε'} :
    x.mapError f = .error e ↔ ∃ e', x = .error e' ∧ f e' = e := by
  cases x <;> simp [Except.mapError]

theorem map_ne_ok {x : Except ε α} {f : α → β} {b : β} (h : ∀ a, f a ≠ b) : x.map f ≠ .ok b := by
  cases x with
  | error e => exact nofun
  | ok a => exact fun eq => h a (Except.ok.inj eq)

end AnalyticsGateway
