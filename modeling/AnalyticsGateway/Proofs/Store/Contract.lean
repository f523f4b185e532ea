import AnalyticsGateway.Store.Memory
import AnalyticsGateway.Store.Table

/-!
# The contract of shared stores

Whatever a store is made of, it keeps a record under each key: a value and when its time is over. A
`LawfulStore` says what each operation does to the records. A record whose time is over may stay or
go, as no operation but a release tells the difference. The store in memory and the one in a table
both keep the contract.
-/

namespace AnalyticsGateway

open SharedStore

class LawfulStore (σ : Type) {β : outParam Type} [SharedStore σ β] where
  /-- When the time of a value is over. -/
  Expiry : Type
  record? : σ → String → Option (β × Expiry)
  isLive : Expiry → Moment → Bool
  after : Moment → Duration → Expiry
  get_eq : ∀ (now : Moment) (key : String) (s : σ),
    get now key s = ((record? s key).filter (isLive ·.2 now)).map (·.1)
  record?_set : ∀ (now : Moment) (key : String) (value : β) (span : Duration) (s : σ) (k : String),
    record? (set now key value span s) k =
      if key = k then some (value, after now span) else record? s k
  claim_of_live : ∀ {now : Moment} {key : String} {value : β} {expiry : Expiry} (owner : β)
    (span : Duration) {s : σ}, record? s key = some (value, expiry) → isLive expiry now = true →
      claim now key owner span s = (false, s)
  claim_of_absent : ∀ {now : Moment} {key : String} (owner : β) (span : Duration) {s : σ},
    (∀ value expiry, record? s key = some (value, expiry) → isLive expiry now = false) →
      (claim now key owner span s).1 = true ∧ ∀ k, record? (claim now key owner span s).2 k =
        if key = k then some (owner, after now span) else record? s k
  renew_of_held : ∀ {now : Moment} {key : String} {owner : β} {expiry : Expiry} (span : Duration)
    {s : σ}, record? s key = some (owner, expiry) → isLive expiry now = true →
      (renew now key owner span s).1 = true ∧ ∀ k, record? (renew now key owner span s).2 k =
        if key = k then some (owner, after now span) else record? s k
  renew_of_not_held : ∀ {now : Moment} {key : String} {owner : β} (span : Duration) {s : σ},
    (∀ expiry, record? s key = some (owner, expiry) → isLive expiry now = false) →
      renew now key owner span s = (false, s)
  release_of_held : ∀ {now : Moment} {key : String} {owner : β} {expiry : Expiry} {s : σ},
    record? s key = some (owner, expiry) → isLive expiry now = true →
      (release now key owner s).1 = true ∧
        ∀ k, record? (release now key owner s).2 k = if key = k then none else record? s k
  release_of_other : ∀ {now : Moment} {key : String} {owner : β} {s : σ},
    (∀ expiry, record? s key ≠ some (owner, expiry)) → release now key owner s = (false, s)
  /-- A release takes away the owner's record or nothing. -/
  record?_release : ∀ (now : Moment) (key : String) (owner : β) (s : σ) (k : String),
    record? (release now key owner s).2 k = record? s k ∨
      key = k ∧ record? (release now key owner s).2 k = none
  publish_eq : ∀ (now : Moment) (entry : String) (value : β) (span : Duration) (lease : String)
    (owner : β) (s : σ), publish now entry value span lease owner s =
      (release now lease owner (set now entry value span s)).2
  record?_update : ∀ (now : Moment) (key : String) (span : Option Duration)
    (transition : Transition β) (s : σ) (k : String),
    record? (update now key span transition s).2 k = record? s k ∨
      key = k ∧ ∃ value expiry, transition (get now key s) = .ok (some value) ∧
        record? (update now key span transition s).2 k = some (value, expiry)
  record?_purge : ∀ (now : Moment) (s : σ) (k : String),
    record? (purge now s).2 k = (record? s k).filter (isLive ·.2 now)

namespace LawfulStore

variable {σ β : Type} [SharedStore σ β] [LawfulStore σ] {now : Moment} {key k : String} {s : σ}

/-! ## what is written -/

theorem record?_claim (now : Moment) (key : String) (owner : β) (span : Duration) (s : σ)
    (k : String) : record? (claim now key owner span s).2 k = record? s k ∨
      key = k ∧ (∀ value expiry, record? s k = some (value, expiry) → isLive expiry now = false) ∧
        record? (claim now key owner span s).2 k = some (owner, after now span) := by
  by_cases live : ∃ value expiry, record? s key = some (value, expiry) ∧ isLive expiry now = true
  · obtain ⟨value, expiry, h, live⟩ := live
    rw [claim_of_live owner span h live]
    exact .inl rfl
  · have absent (value : β) (expiry : Expiry σ) (h : record? s key = some (value, expiry)) :
        isLive expiry now = false := Bool.eq_false_iff.2 fun l => live ⟨value, expiry, h, l⟩
    rw [(claim_of_absent owner span absent).2 k]
    split
    · rename_i same
      exact .inr ⟨same, same ▸ absent, rfl⟩
    · exact .inl rfl

theorem record?_renew (now : Moment) (key : String) (owner : β) (span : Duration) (s : σ)
    (k : String) : record? (renew now key owner span s).2 k = record? s k ∨
      key = k ∧ (∃ expiry, record? s k = some (owner, expiry)) ∧
        record? (renew now key owner span s).2 k = some (owner, after now span) := by
  by_cases held : ∃ expiry, record? s key = some (owner, expiry) ∧ isLive expiry now = true
  · obtain ⟨expiry, h, live⟩ := held
    rw [(renew_of_held span h live).2 k]
    split
    · rename_i same
      exact .inr ⟨same, ⟨expiry, same ▸ h⟩, rfl⟩
    · exact .inl rfl
  · rw [renew_of_not_held span fun expiry h => Bool.eq_false_iff.2 fun l => held ⟨expiry, h, l⟩]
    exact .inl rfl

/-- A release takes away a record of the owner's. -/
theorem record?_release_own (now : Moment) (key : String) (owner : β) (s : σ) (k : String) :
    record? (release now key owner s).2 k = record? s k ∨
      key = k ∧ (∃ expiry, record? s k = some (owner, expiry)) ∧
        record? (release now key owner s).2 k = none := by
  by_cases held : ∃ expiry, record? s key = some (owner, expiry)
  · exact (record?_release now key owner s k).imp_right
      fun ⟨same, gone⟩ => ⟨same, same ▸ held, gone⟩
  · rw [release_of_other fun expiry h => held ⟨expiry, h⟩]
    exact .inl rfl

/-! ## records that stay -/

section Others

variable {value : β} {expiry : Expiry σ} (h : record? s k = some (value, expiry))
include h

theorem record?_claim_of_live (live : isLive expiry now = true) (owner : β) (span : Duration) :
    record? (claim now key owner span s).2 k = some (value, expiry) := by
  rcases record?_claim now key owner span s k with eq | ⟨-, absent, -⟩
  · rw [eq, h]
  · exact nomatch live.symm.trans (absent value expiry h)

theorem record?_renew_of_other {owner : β} (other : key = k → owner ≠ value) (span : Duration) :
    record? (renew now key owner span s).2 k = some (value, expiry) := by
  rcases record?_renew now key owner span s k with eq | ⟨same, ⟨_, held⟩, -⟩
  · rw [eq, h]
  · rw [h] at held
    cases held
    exact absurd rfl (other same)

theorem record?_release_of_other {owner : β} (other : key = k → owner ≠ value) :
    record? (release now key owner s).2 k = some (value, expiry) := by
  rcases record?_release_own now key owner s k with eq | ⟨same, ⟨_, held⟩, -⟩
  · rw [eq, h]
  · rw [h] at held
    cases held
    exact absurd rfl (other same)

theorem record?_publish_of_other {entry lease : String} {owner : β} (apart : entry ≠ k)
    (other : lease = k → owner ≠ value) (result : β) (span : Duration) :
    record? (publish now entry result span lease owner s) k = some (value, expiry) := by
  rw [publish_eq]
  refine record?_release_of_other ?_ other
  rw [record?_set, if_neg apart, h]

theorem record?_purge_of_live (live : isLive expiry now = true) :
    record? (purge now s).2 k = some (value, expiry) := by
  rw [record?_purge, h, Option.filter_some, if_pos live]

end Others

end LawfulStore

/-! ## the store in memory -/

namespace MemoryStore

variable {β : Type}

def record? (s : MemoryStore β) (key : String) : Option (β × Option Instant) :=
  (s.slots.get? key).map fun slot => (slot.value, slot.expiry)

theorem record?_put (s : MemoryStore β) (key : String) (value : β) (expiry : Option Instant)
    (k : String) :
    (s.put key value expiry).record? k = if key = k then some (value, expiry) else s.record? k := by
  rw [record?, put, SortedMap.get?_insert]
  split <;> rfl

theorem record?_erase (s : MemoryStore β) (key k : String) :
    (s.erase key).record? k = if key = k then none else s.record? k := by
  rw [record?, erase, SortedMap.get?_erase]
  split <;> rfl

theorem value?_eq (s : MemoryStore β) (now : Instant) (key : String) :
    s.value? now key = ((s.record? key).filter fun r => r.2.all (now < ·)).map (·.1) := by
  rw [value?, live?, record?]
  cases s.slots.get? key with
  | none => rfl
  | some slot => cases h : slot.isLive now <;> simp_all [Slot.isLive, Option.filter]

theorem record?_livePart (s : MemoryStore β) (now : Instant) (k : String) :
    (s.livePart now).record? k = (s.record? k).filter fun r => r.2.all (now < ·) := by
  rw [record?, livePart, SortedMap.get?_filter, record?]
  cases s.slots.get? k with
  | none => rfl
  | some slot => cases h : slot.isLive now <;> simp_all [Slot.isLive, Option.filter]

theorem isHeld_iff [DecidableEq β] {s : MemoryStore β} {now : Instant} {key : String} {owner : β} :
    s.isHeld now key owner = true ↔
      ∃ expiry, s.record? key = some (owner, expiry) ∧ expiry.all (now < ·) = true := by
  rw [isHeld, beq_iff_eq, value?_eq]
  simp [Option.filter_eq_some_iff]

theorem isSome_live? (s : MemoryStore β) (now : Instant) (key : String) :
    (s.live? now key).isSome = ((s.record? key).filter fun r => r.2.all (now < ·)).isSome := by
  have same := congrArg Option.isSome (s.value?_eq now key)
  rwa [value?, Option.isSome_map, Option.isSome_map] at same

instance [DecidableEq β] : LawfulStore (MemoryStore β) where
  Expiry := Option Instant
  record? := record?
  isLive expiry now := expiry.all (now.clock < ·)
  after now span := now.clock.after? span
  get_eq now key s := s.value?_eq now.clock key
  record?_set now key value span s k := record?_put ..
  claim_of_live := by
    intro now key value expiry owner span s h live
    have some_live : (s.live? now.clock key).isSome = true := by
      rw [isSome_live?, h, Option.filter_some, if_pos live]
      rfl
    exact if_pos some_live
  claim_of_absent := by
    intro now key owner span s h
    have none_live : ¬(s.live? now.clock key).isSome = true := by
      rw [isSome_live?]
      cases hr : s.record? key with
      | none => simp
      | some r => simp [h r.1 r.2 hr]
    have put : SharedStore.claim now key owner span s =
        (true, s.put key owner (now.clock.after? span)) := if_neg none_live
    rw [put]
    exact ⟨rfl, record?_put s key owner _⟩
  renew_of_held := by
    intro now key owner expiry span s h live
    have put : SharedStore.renew now key owner span s =
        (true, s.put key owner (now.clock.after? span)) :=
      if_pos (isHeld_iff.2 ⟨expiry, h, live⟩)
    rw [put]
    exact ⟨rfl, record?_put s key owner _⟩
  renew_of_not_held := by
    intro now key owner span s h
    refine if_neg fun held => ?_
    obtain ⟨expiry, hr, live⟩ := isHeld_iff.1 held
    exact Bool.false_ne_true ((h expiry hr).symm.trans live)
  release_of_held := by
    intro now key owner expiry s h live
    have erased : SharedStore.release now key owner s = (true, s.erase key) :=
      if_pos (isHeld_iff.2 ⟨expiry, h, live⟩)
    rw [erased]
    exact ⟨rfl, record?_erase s key⟩
  release_of_other := by
    intro now key owner s h
    refine if_neg fun held => ?_
    obtain ⟨expiry, hr, -⟩ := isHeld_iff.1 held
    exact h expiry hr
  record?_release := by
    intro now key owner s k
    change (release now.clock key owner s).2.record? k = _ ∨
      key = k ∧ (release now.clock key owner s).2.record? k = _
    unfold release
    split
    · rw [record?_erase]
      split
      · rename_i same
        exact .inr ⟨same, rfl⟩
      · exact .inl rfl
    · exact .inl rfl
  publish_eq _ _ _ _ _ _ _ := rfl
  record?_update := by
    intro now key span transition s k
    change (update now.clock key span transition s).2.record? k = _ ∨ key = k ∧ ∃ _ _, _ ∧
      (update now.clock key span transition s).2.record? k = _
    unfold update
    simp only
    split
    · exact .inl rfl
    · exact .inl rfl
    · rename_i value h
      rw [record?_put]
      split
      · rename_i same
        exact .inr ⟨same, value, _, h, rfl⟩
      · exact .inl rfl
  record?_purge now s k := s.record?_livePart now.clock k

end MemoryStore

/-! ## the store in a table -/

namespace TableStore

variable {β : Type}

def record? (s : TableStore β) (key : String) : Option (β × Option Int) :=
  (s.rows.get? key).map fun row => (row.value, row.expiry)

theorem record?_put (s : TableStore β) (key : String) (value : β) (expiry : Option Int)
    (k : String) :
    (s.put key value expiry).record? k = if key = k then some (value, expiry) else s.record? k := by
  rw [record?, put, SortedMap.get?_insert]
  split <;> rfl

theorem record?_erase (s : TableStore β) (key k : String) :
    (s.erase key).record? k = if key = k then none else s.record? k := by
  rw [record?, erase, SortedMap.get?_erase]
  split <;> rfl

/-- The row of a record. -/
theorem get?_of_record? {s : TableStore β} {key : String} {value : β} {expiry : Option Int}
    (h : s.record? key = some (value, expiry)) : s.rows.get? key = some ⟨value, expiry⟩ := by
  obtain ⟨row, hrow, h⟩ := Option.map_eq_some_iff.1 h
  cases h
  exact hrow

theorem record?_of_get? {s : TableStore β} {key : String} {row : Row β}
    (h : s.rows.get? key = some row) : s.record? key = some (row.value, row.expiry) := by
  rw [record?, h]
  rfl

instance [DecidableEq β] : LawfulStore (TableStore β) where
  Expiry := Option Int
  record? := record?
  isLive expiry now := expiry.all (now.calendar < ·)
  after now span := some (expiryAfter now.calendar span)
  get_eq now key s := by
    change s.value? now.calendar key = _
    rw [value?, record?]
    cases s.rows.get? key with
    | none => rfl
    | some row => cases h : row.isLive now.calendar <;> simp_all [Row.isLive, Option.filter]
  record?_set now key value span s k := record?_put ..
  claim_of_live := by
    intro now key value expiry owner span s h live
    change claim now.calendar key owner span s = _
    unfold claim
    simp only [get?_of_record? h]
    exact if_pos live
  claim_of_absent := by
    intro now key owner span s h
    have put : SharedStore.claim now key owner span s =
        (true, s.put key owner (some (expiryAfter now.calendar span))) := by
      change claim now.calendar key owner span s = _
      unfold claim
      simp only
      split
      · rename_i row hrow
        exact if_neg fun live =>
          Bool.false_ne_true ((h _ _ (record?_of_get? hrow)).symm.trans live)
      · rfl
    rw [put]
    exact ⟨rfl, record?_put s key owner _⟩
  renew_of_held := by
    intro now key owner expiry span s h live
    have put : SharedStore.renew now key owner span s =
        (true, s.put key owner (some (expiryAfter now.calendar span))) := by
      change renew now.calendar key owner span s = _
      unfold renew
      simp only [get?_of_record? h]
      exact if_pos ⟨trivial, live⟩
    rw [put]
    exact ⟨rfl, record?_put s key owner _⟩
  renew_of_not_held := by
    intro now key owner span s h
    change renew now.calendar key owner span s = _
    unfold renew
    split
    · rename_i row hrow
      refine if_neg fun ⟨same, live⟩ => ?_
      have hr := record?_of_get? hrow
      rw [same] at hr
      exact Bool.false_ne_true ((h _ hr).symm.trans live)
    · rfl
  release_of_held := by
    intro now key owner expiry s h live
    have erased : SharedStore.release now key owner s = (true, s.erase key) := by
      change release key owner s = _
      unfold release
      simp only [get?_of_record? h, if_true]
    rw [erased]
    exact ⟨rfl, record?_erase s key⟩
  release_of_other := by
    intro now key owner s h
    change release key owner s = _
    unfold release
    split
    · rename_i row hrow
      refine if_neg fun same => ?_
      have hr := record?_of_get? hrow
      rw [same] at hr
      exact h _ hr
    · rfl
  record?_release := by
    intro now key owner s k
    change (release key owner s).2.record? k = _ ∨ key = k ∧ (release key owner s).2.record? k = _
    unfold release
    split
    · split
      · rw [record?_erase]
        split
        · rename_i same
          exact .inr ⟨same, rfl⟩
        · exact .inl rfl
      · exact .inl rfl
    · exact .inl rfl
  publish_eq _ _ _ _ _ _ _ := rfl
  record?_update := by
    intro now key span transition s k
    change (update now.calendar key span transition s).2.record? k = _ ∨ key = k ∧ ∃ _ _, _ ∧
      (update now.calendar key span transition s).2.record? k = _
    unfold update
    simp only
    split
    · exact .inl rfl
    · exact .inl rfl
    · rename_i value h
      rw [record?_put]
      split
      · rename_i same
        exact .inr ⟨same, value, _, h, rfl⟩
      · exact .inl rfl
  record?_purge now s k := by
    change (purge now.calendar s).2.record? k = _
    rw [record?, purge, SortedMap.get?_filter, record?]
    cases s.rows.get? k with
    | none => rfl
    | some row => cases h : row.isLive now.calendar <;> simp_all [Row.isLive, Option.filter]

end TableStore

end AnalyticsGateway
