import AnalyticsGateway.Proofs.Cache.Key
import AnalyticsGateway.Proofs.Cache.Moves
import AnalyticsGateway.Proofs.Store.Contract

/-!
# What a step of a flight does to the store

A step of a flight takes its lease for the span of leases or gives it up, puts the entry that it
publishes, and leaves every other record of the store (`FlightMove.recordMove`).
-/

namespace AnalyticsGateway

open SharedStore LawfulStore

namespace CacheCluster

variable {σ ω : Type}

/-- An operation that is tried happens, or nothing does. -/
theorem attempt_cases {α : Type} (c : Circumstances) (operation : StoreOperation)
    (run : σ → α × σ) (store : σ) : (c.attempt operation run store).2 = store ∨
      operation ∉ c.failing ∧ (c.attempt operation run store).2 = (run store).2 := by
  unfold Circumstances.attempt
  split
  · exact .inl rfl
  · rename_i works
    exact .inr ⟨works, rfl⟩

variable [SharedStore σ String] [LawfulStore σ] {s : CacheCluster σ ω}
  {failing : List StoreOperation} {f : Flight ω} {stage : FlightStage} {store : σ}

/-- What a step of a flight can do to the record under a name. -/
inductive RecordMove (s : CacheCluster σ ω) (failing : List StoreOperation) (f : Flight ω)
    (store : σ) (k : String) : Prop
  | stays : record? store k = record? s.store k → RecordMove s failing f store k
  | leased : f.key.lease = k →
    (∀ value expiry, record? s.store k = some (value, expiry) → isLive expiry s.now = true →
      value = f.owner) →
    record? store k = some (f.owner, after s.now s.settings.span) → RecordMove s failing f store k
  | givenUp {expiry : Expiry σ} : f.key.lease = k →
    record? s.store k = some (f.owner, expiry) → record? store k = none →
      RecordMove s failing f store k
  | published {entry : CacheEntry} : f.stage = .publishing entry →
    StoreOperation.publish ∉ failing → f.key.entry = k →
    record? store k = some (entry.text, after s.now f.ttl) → RecordMove s failing f store k

theorem recordMove_claim (s : CacheCluster σ ω) (failing : List StoreOperation) (f : Flight ω)
    (k : String) :
    s.RecordMove failing f (claim s.now f.key.lease f.owner s.settings.span s.store).2 k := by
  rcases record?_claim s.now f.key.lease f.owner s.settings.span s.store k with
    same | ⟨own, absent, put⟩
  · exact .stays same
  · exact .leased own (fun value expiry h live => nomatch live.symm.trans (absent value expiry h))
      put

theorem recordMove_renew (s : CacheCluster σ ω) (failing : List StoreOperation) (f : Flight ω)
    (k : String) :
    s.RecordMove failing f (renew s.now f.key.lease f.owner s.settings.span s.store).2 k := by
  rcases record?_renew s.now f.key.lease f.owner s.settings.span s.store k with
    same | ⟨own, ⟨_, held⟩, put⟩
  · exact .stays same
  · refine .leased own (fun value expiry h _ => ?_) put
    cases held.symm.trans h
    rfl

theorem recordMove_release (s : CacheCluster σ ω) (failing : List StoreOperation) (f : Flight ω)
    (k : String) : s.RecordMove failing f (release s.now f.key.lease f.owner s.store).2 k := by
  rcases record?_release_own s.now f.key.lease f.owner s.store k with
    same | ⟨own, ⟨_, held⟩, gone⟩
  · exact .stays same
  · exact .givenUp own held gone

theorem recordMove_publish {entry : CacheEntry} (publishes : f.stage = .publishing entry)
    (works : StoreOperation.publish ∉ failing) (k : String) : s.RecordMove failing f
      (SharedStore.publish s.now f.key.entry entry.text f.ttl f.key.lease f.owner s.store) k := by
  have apart : f.key.entry ≠ f.key.lease := f.key.entry_ne_lease f.key
  rw [publish_eq]
  rcases record?_release_own s.now f.key.lease f.owner
    (SharedStore.set s.now f.key.entry entry.text f.ttl s.store) k with
      same | ⟨own, ⟨_, held⟩, gone⟩
  · rw [record?_set] at same
    split at same
    · rename_i own
      exact .published publishes works own same
    · exact .stays same
  · rw [record?_set, if_neg (own ▸ apart)] at held
    exact .givenUp own held gone

/-- What a step of a flight does to the store. -/
theorem FlightMove.recordMove (move : FlightMove s failing f stage store) (k : String) :
    s.RecordMove failing f store k := by
  cases move with
  | claimed _ eq | refused _ eq _ | unclaimed _ eq =>
    have tried := attempt_cases (s.circumstances failing) .claim
      (SharedStore.claim s.now f.key.lease f.owner s.settings.span) s.store
    rw [eq] at tried
    rcases tried with rfl | ⟨-, rfl⟩
    · exact .stays rfl
    · exact s.recordMove_claim failing f k
  | @published entry _ publishes eq | @unpublished entry _ _ publishes eq =>
    have tried := attempt_cases (s.circumstances failing) .publish (fun store => ((),
      SharedStore.publish s.now f.key.entry entry.text f.ttl f.key.lease f.owner store)) s.store
    rw [eq] at tried
    rcases tried with rfl | ⟨works, rfl⟩
    · exact .stays rfl
    · exact recordMove_publish publishes works k
  | renews _ _ =>
    rcases attempt_cases (s.circumstances failing) .renew
      (SharedStore.renew s.now f.key.lease f.owner s.settings.span) s.store with eq | ⟨-, eq⟩ <;>
        rw [eq]
    · exact .stays rfl
    · exact s.recordMove_renew failing f k
  | releases _ =>
    rcases attempt_cases (s.circumstances failing) .release
      (SharedStore.release s.now f.key.lease f.owner) s.store with eq | ⟨-, eq⟩ <;> rw [eq]
    · exact .stays rfl
    · exact s.recordMove_release failing f k
  | found | starts | awakes | polled | retries | stays => exact .stays rfl

end CacheCluster

end AnalyticsGateway
