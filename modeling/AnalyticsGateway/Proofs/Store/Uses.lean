import AnalyticsGateway.Proofs.Store.Contract

/-!
# Uses of a store

What can be done with a store, as data (`StoreUse`). In both stores a use of one key is answered by
the record under that key and changes no other one (`RecordStore`), by rules in which the stores
differ: how they tell time, and whether a claim can be given up when its time is over.
-/

namespace AnalyticsGateway

open SharedStore LawfulStore

/-- What is done under one key. -/
inductive KeyUse (β : Type) where
  | get
  | set (value : β) (span : Duration)
  | claim (owner : β) (span : Duration)
  | renew (owner : β) (span : Duration)
  | release (owner : β)
  | update (span : Option Duration) (transition : Transition β)

inductive StoreUse (β : Type) where
  | under (key : String) (use : KeyUse β)
  | publish (entry : String) (value : β) (span : Duration) (lease : String) (owner : β)
  | purge

inductive StoreAnswer (β : Type) where
  | done
  | found (value : Except StoreError (Option β))
  | success (holds : Bool)
  | removed (count : Nat)

section Perform

variable {σ β : Type} [SharedStore σ β]

def KeyUse.perform (now : Moment) (key : String) (s : σ) : KeyUse β → StoreAnswer β × σ
  | get => (.found (.ok (SharedStore.get now key s)), s)
  | set value span => (.done, SharedStore.set now key value span s)
  | claim owner span => (SharedStore.claim now key owner span s).map .success id
  | renew owner span => (SharedStore.renew now key owner span s).map .success id
  | release owner => (SharedStore.release now key owner s).map .success id
  | update span transition => (SharedStore.update now key span transition s).map .found id

namespace StoreUse

def perform (now : Moment) (s : σ) : StoreUse β → StoreAnswer β × σ
  | under key use => use.perform now key s
  | publish entry value span lease owner =>
    (.done, SharedStore.publish now entry value span lease owner s)
  | purge => (SharedStore.purge now s).map .removed id

/-- The store after uses in a row. -/
def run (s : σ) (events : List (Moment × StoreUse β)) : σ :=
  events.foldl (fun s e => (e.2.perform e.1 s).2) s

theorem run_concat (s : σ) (events : List (Moment × StoreUse β)) (e : Moment × StoreUse β) :
    run s (events ++ [e]) = (e.2.perform e.1 (run s events)).2 := by
  rw [run, run, List.foldl_append, List.foldl_cons, List.foldl_nil]

omit [SharedStore σ β] in
/-- The keys that a use names. -/
def keys : StoreUse β → List String
  | under key _ => [key]
  | publish entry _ _ lease _ => [entry, lease]
  | purge => []

end StoreUse

end Perform

/-! ## records by rules -/

/-- How a store keeps the time of its records. -/
structure RecordRules (ε : Type) where
  isLive : ε → Moment → Bool
  /-- When the time of a value is over that is written for a span, or for ever. -/
  ending : Moment → Option Duration → ε
  /-- Whether an owner can give up a claim whose time is over. -/
  releasesLate : Bool
  isLive_of_le : ∀ {expiry : ε} {now later : Moment}, now ≤ later → isLive expiry later = true →
    isLive expiry now = true

namespace RecordRules

variable {ε β : Type} (rules : RecordRules ε)

/-- A record as long as its time is not over. -/
def seen (now : Moment) (record : Option (β × ε)) : Option (β × ε) :=
  record.filter (rules.isLive ·.2 now)

def value? (now : Moment) (record : Option (β × ε)) : Option β := (rules.seen now record).map (·.1)

/-- The record that tells who has a claim to give up. -/
def released (now : Moment) (record : Option (β × ε)) : Option (β × ε) :=
  if rules.releasesLate then record else rules.seen now record

variable {rules}

theorem seen_eq_some {now : Moment} {record : Option (β × ε)} {r : β × ε} :
    rules.seen now record = some r ↔ record = some r ∧ rules.isLive r.2 now = true :=
  Option.filter_eq_some_iff

theorem value?_eq_some {now : Moment} {record : Option (β × ε)} {value : β} :
    rules.value? now record = some value ↔
      ∃ expiry, record = some (value, expiry) ∧ rules.isLive expiry now = true := by
  simp [value?, seen_eq_some]

theorem value?_of_seen_eq {now : Moment} {r s : Option (β × ε)}
    (h : rules.seen now r = rules.seen now s) : rules.value? now r = rules.value? now s := by
  rw [value?, h, value?]

/-- What is not seen any more is not seen later. -/
theorem seen_seen {now later : Moment} (le : now ≤ later) (record : Option (β × ε)) :
    rules.seen later (rules.seen now record) = rules.seen later record := by
  apply Option.ext
  intro r
  rw [seen_eq_some, seen_eq_some, seen_eq_some]
  constructor
  · rintro ⟨⟨record, -⟩, live⟩
    exact ⟨record, live⟩
  · rintro ⟨record, live⟩
    exact ⟨⟨record, rules.isLive_of_le le live⟩, live⟩

theorem seen_eq_of_le {now later : Moment} {r s : Option (β × ε)} (le : now ≤ later)
    (h : rules.seen now r = rules.seen now s) : rules.seen later r = rules.seen later s := by
  rw [← seen_seen le, h, seen_seen le]

end RecordRules

/-- The answer to a use by the record under its key, and the record after it. -/
def KeyUse.onRecord {ε β : Type} [DecidableEq β] (rules : RecordRules ε) (now : Moment)
    (record : Option (β × ε)) : KeyUse β → StoreAnswer β × Option (β × ε)
  | get => (.found (.ok (rules.value? now record)), record)
  | set value span => (.done, some (value, rules.ending now (some span)))
  | claim owner span =>
    if (rules.seen now record).isSome then (.success false, record)
    else (.success true, some (owner, rules.ending now (some span)))
  | renew owner span =>
    if rules.value? now record = some owner then
      (.success true, some (owner, rules.ending now (some span)))
    else (.success false, record)
  | release owner =>
    if (rules.released now record).map (·.1) = some owner then (.success true, none)
    else (.success false, record)
  | update span transition =>
    let met := rules.value? now record
    match transition met with
    | .error e => (.found (.error e), record)
    | .ok none => (.found (.ok met), record)
    | .ok (some value) => (.found (.ok met), some (value, rules.ending now span))

/-- A use is answered by the record under its key, and changes that one alone. -/
def KeyUse.FollowsRecord {σ β : Type} [SharedStore σ β] [LawfulStore σ] [DecidableEq β]
    (rules : RecordRules (Expiry σ)) (now : Moment) (key : String) (s : σ) (use : KeyUse β) :
    Prop :=
  (use.perform now key s).1 = (use.onRecord rules now (record? s key)).1 ∧
    ∀ k, record? (use.perform now key s).2 k =
      if key = k then (use.onRecord rules now (record? s key)).2 else record? s k

/-- A store whose records do not touch each other, also where the contract leaves it open what
becomes of them. -/
class RecordStore (σ : Type) {β : outParam Type} [SharedStore σ β] [LawfulStore σ]
    [DecidableEq β] where
  rules : RecordRules (Expiry σ)
  isLive_eq : rules.isLive = isLive
  ending_some : ∀ (now : Moment) (span : Duration), rules.ending now (some span) = after now span
  follows_release : ∀ (now : Moment) (key : String) (owner : β) (s : σ),
    (KeyUse.release owner).FollowsRecord rules now key s
  follows_update : ∀ (now : Moment) (key : String) (span : Option Duration)
    (transition : Transition β) (s : σ),
    (KeyUse.update span transition).FollowsRecord rules now key s

/-- A function that is changed at one argument to what it is there. -/
theorem ite_at {α : Type} (f : String → α) (key k : String) :
    (if key = k then f key else f k) = f k := by
  split
  · rename_i same
    rw [same]
  · rfl

namespace RecordStore

variable {σ β : Type} [SharedStore σ β] [LawfulStore σ] [DecidableEq β] [RecordStore σ]

theorem follows_get (now : Moment) (key : String) (s : σ) :
    (KeyUse.get : KeyUse β).FollowsRecord rules now key s := by
  refine ⟨?_, fun k => (ite_at (record? s) key k).symm⟩
  rw [KeyUse.onRecord, RecordRules.value?, RecordRules.seen, isLive_eq, ← LawfulStore.get_eq]
  rfl

theorem follows_set (now : Moment) (key : String) (value : β) (span : Duration) (s : σ) :
    (KeyUse.set value span).FollowsRecord rules now key s := by
  refine ⟨rfl, fun k => ?_⟩
  rw [KeyUse.onRecord, ending_some]
  exact record?_set now key value span s k

theorem follows_claim (now : Moment) (key : String) (owner : β) (span : Duration) (s : σ) :
    (KeyUse.claim owner span).FollowsRecord rules now key s := by
  rw [KeyUse.FollowsRecord, KeyUse.onRecord, KeyUse.perform, ending_some]
  cases seen : (rules (σ := σ)).seen now (record? s key) with
  | some r =>
    obtain ⟨record, live⟩ := RecordRules.seen_eq_some.1 seen
    rw [isLive_eq] at live
    rw [claim_of_live owner span record live]
    exact ⟨rfl, fun k => (ite_at (record? s) key k).symm⟩
  | none =>
    have absent (value : β) (expiry : Expiry σ) (record : record? s key = some (value, expiry)) :
        isLive expiry now = false := by
      have ended := (Option.filter_eq_none_iff.1 seen) _ record
      rw [isLive_eq] at ended
      exact Bool.eq_false_iff.2 ended
    obtain ⟨succeeds, records⟩ := claim_of_absent owner span absent
    exact ⟨congrArg StoreAnswer.success succeeds, records⟩

theorem follows_renew (now : Moment) (key : String) (owner : β) (span : Duration) (s : σ) :
    (KeyUse.renew owner span).FollowsRecord rules now key s := by
  rw [KeyUse.FollowsRecord, KeyUse.onRecord, KeyUse.perform, ending_some]
  by_cases held : (rules (σ := σ)).value? now (record? s key) = some owner
  · obtain ⟨expiry, record, live⟩ := RecordRules.value?_eq_some.1 held
    rw [isLive_eq] at live
    obtain ⟨succeeds, records⟩ := renew_of_held span record live
    rw [if_pos held]
    exact ⟨congrArg StoreAnswer.success succeeds, records⟩
  · have fails : renew now key owner span s = (false, s) :=
      renew_of_not_held span fun expiry record => Bool.eq_false_iff.2 fun live =>
        held (RecordRules.value?_eq_some.2 ⟨expiry, record, isLive_eq (σ := σ) ▸ live⟩)
    rw [if_neg held, fails]
    exact ⟨rfl, fun k => (ite_at (record? s) key k).symm⟩

theorem follows (now : Moment) (key : String) (s : σ) (use : KeyUse β) :
    use.FollowsRecord rules now key s := by
  cases use with
  | get => exact follows_get now key s
  | set value span => exact follows_set now key value span s
  | claim owner span => exact follows_claim now key owner span s
  | renew owner span => exact follows_renew now key owner span s
  | release owner => exact follows_release now key owner s
  | update span transition => exact follows_update now key span transition s

theorem answer_perform (now : Moment) (key : String) (use : KeyUse β) (s : σ) :
    (use.perform now key s).1 = (use.onRecord rules now (record? s key)).1 :=
  (follows now key s use).1

theorem record?_perform (now : Moment) (key : String) (use : KeyUse β) (s : σ) (k : String) :
    record? (use.perform now key s).2 k =
      if key = k then (use.onRecord rules now (record? s key)).2 else record? s k :=
  (follows now key s use).2 k

omit [DecidableEq β] [RecordStore σ] in
theorem perform_publish (now : Moment) (entry : String) (value : β) (span : Duration)
    (lease : String) (owner : β) (s : σ) :
    ((StoreUse.publish entry value span lease owner).perform now s).2 =
      ((KeyUse.release owner).perform now lease
        ((KeyUse.set value span).perform now entry s).2).2 :=
  publish_eq ..

theorem record?_purge_eq (now : Moment) (s : σ) (k : String) :
    record? ((StoreUse.purge : StoreUse β).perform now s).2 k =
      (rules (σ := σ)).seen now (record? s k) := by
  rw [RecordRules.seen, isLive_eq]
  exact record?_purge now s k

/-- A use leaves the records under other keys. -/
theorem record?_perform_of_not_mem {now : Moment} {use : StoreUse β} {k : String}
    (other : k ∉ use.keys) (kept : use ≠ .purge) (s : σ) :
    record? (use.perform now s).2 k = record? s k := by
  cases use with
  | under key use =>
    have apart : key ≠ k := fun same => other (same ▸ List.mem_singleton_self _)
    exact (record?_perform now key use s k).trans (if_neg apart)
  | publish entry value span lease owner =>
    simp only [StoreUse.keys, List.mem_cons, List.not_mem_nil, or_false, not_or] at other
    rw [perform_publish, record?_perform, if_neg (Ne.symm other.2), record?_perform,
      if_neg (Ne.symm other.1)]
  | purge => exact absurd rfl kept

theorem record?_perform_congr {key k : String} {s t : σ} (named : record? s key = record? t key)
    (asked : record? s k = record? t k) (now : Moment) (use : KeyUse β) :
    record? (use.perform now key s).2 k = record? (use.perform now key t).2 k := by
  rw [record?_perform, record?_perform, named, asked]

/-- What a use leaves under a key depends on what is there and under the keys that the use names. -/
theorem record?_use_congr {use : StoreUse β} {s t : σ} {k : String}
    (named : ∀ key ∈ use.keys, record? s key = record? t key) (asked : record? s k = record? t k)
    (now : Moment) :
    record? (use.perform now s).2 k = record? (use.perform now t).2 k := by
  cases use with
  | under key use =>
    exact record?_perform_congr (named key (List.mem_singleton_self _)) asked now use
  | publish entry value span lease owner =>
    have first : record? s entry = record? t entry := named entry List.mem_cons_self
    have second : record? s lease = record? t lease :=
      named lease (List.mem_cons_of_mem _ (List.mem_singleton_self _))
    rw [perform_publish, perform_publish]
    exact record?_perform_congr (record?_perform_congr first second now _)
      (record?_perform_congr first asked now _) now _
  | purge => rw [record?_purge_eq, record?_purge_eq, asked]

/-- How a use is answered depends on what is under the keys that it names. -/
theorem answer_use_congr {use : StoreUse β} {s t : σ}
    (named : ∀ key ∈ use.keys, record? s key = record? t key) (counted : use ≠ .purge)
    (now : Moment) : (use.perform now s).1 = (use.perform now t).1 := by
  cases use with
  | under key use =>
    have same : record? s key = record? t key := named key (List.mem_singleton_self _)
    exact (answer_perform now key use s).trans (same ▸ (answer_perform now key use t).symm)
  | publish entry value span lease owner => rfl
  | purge => exact absurd rfl counted

end RecordStore

/-! ## the two stores -/

namespace MemoryStore

variable {β : Type} [DecidableEq β]

def rules : RecordRules (Expiry (MemoryStore β)) where
  isLive expiry now := expiry.all (now.clock < ·)
  ending now span := span.bind now.clock.after?
  releasesLate := false
  isLive_of_le {expiry _ _} le live := by
    cases expiry with
    | none => rfl
    | some e => exact decide_eq_true (Nat.lt_of_le_of_lt le.1 (of_decide_eq_true live))

theorem follows_release (now : Moment) (key : String) (owner : β) (s : MemoryStore β) :
    (KeyUse.release owner).FollowsRecord rules now key s := by
  have held_iff : s.isHeld now.clock key owner = true ↔
      (rules.released now (LawfulStore.record? s key)).map (·.1) = some owner := by
    rw [isHeld, beq_iff_eq, value?_eq]
    rfl
  by_cases held : s.isHeld now.clock key owner = true
  · have erased : SharedStore.release now key owner s = (true, s.erase key) := if_pos held
    rw [KeyUse.FollowsRecord, KeyUse.perform, erased, KeyUse.onRecord, if_pos (held_iff.1 held)]
    exact ⟨rfl, record?_erase s key⟩
  · have kept : SharedStore.release now key owner s = (false, s) := if_neg held
    rw [KeyUse.FollowsRecord, KeyUse.perform, kept, KeyUse.onRecord, if_neg (held ∘ held_iff.2)]
    exact ⟨rfl, fun k => (ite_at s.record? key k).symm⟩

theorem follows_update (now : Moment) (key : String) (span : Option Duration)
    (transition : Transition β) (s : MemoryStore β) :
    (KeyUse.update span transition).FollowsRecord rules now key s := by
  have met : s.value? now.clock key = rules.value? now (LawfulStore.record? s key) :=
    s.value?_eq now.clock key
  simp only [KeyUse.FollowsRecord, KeyUse.perform, SharedStore.update, update, met,
    KeyUse.onRecord]
  cases transition (rules.value? now (LawfulStore.record? s key)) with
  | error e => exact ⟨rfl, fun k => (ite_at s.record? key k).symm⟩
  | ok next =>
    cases next with
    | none => exact ⟨rfl, fun k => (ite_at s.record? key k).symm⟩
    | some value => exact ⟨rfl, record?_put s key value _⟩

instance : RecordStore (MemoryStore β) where
  rules := rules
  isLive_eq := rfl
  ending_some _ _ := rfl
  follows_release := follows_release
  follows_update := follows_update

end MemoryStore

namespace TableStore

variable {β : Type} [DecidableEq β]

def rules : RecordRules (Expiry (TableStore β)) where
  isLive expiry now := expiry.all (now.calendar < ·)
  ending now span := span.map (expiryAfter now.calendar)
  releasesLate := true
  isLive_of_le {expiry _ _} le live := by
    cases expiry with
    | none => rfl
    | some e => exact decide_eq_true (Int.lt_of_le_of_lt le.2 (of_decide_eq_true live))

theorem follows_release (now : Moment) (key : String) (owner : β) (s : TableStore β) :
    (KeyUse.release owner).FollowsRecord rules now key s := by
  have row : (rules.released now (LawfulStore.record? s key)).map (·.1) =
      (s.rows.get? key).map Row.value := Option.map_map ..
  by_cases held : (s.rows.get? key).map Row.value = some owner
  · obtain ⟨r, hr, same⟩ := Option.map_eq_some_iff.1 held
    have erased : SharedStore.release now key owner s = (true, s.erase key) := by
      change release key owner s = _
      simp only [release, hr, same, if_true]
    rw [KeyUse.FollowsRecord, KeyUse.perform, erased, KeyUse.onRecord, if_pos (row.trans held)]
    exact ⟨rfl, record?_erase s key⟩
  · have kept : SharedStore.release now key owner s = (false, s) :=
      LawfulStore.release_of_other fun expiry record =>
        held (by rw [get?_of_record? record, Option.map_some])
    rw [KeyUse.FollowsRecord, KeyUse.perform, kept, KeyUse.onRecord,
      if_neg (held ∘ row.symm.trans)]
    exact ⟨rfl, fun k => (ite_at s.record? key k).symm⟩

theorem follows_update (now : Moment) (key : String) (span : Option Duration)
    (transition : Transition β) (s : TableStore β) :
    (KeyUse.update span transition).FollowsRecord rules now key s := by
  have met : s.value? now.calendar key = rules.value? now (LawfulStore.record? s key) :=
    LawfulStore.get_eq now key s
  simp only [KeyUse.FollowsRecord, KeyUse.perform, SharedStore.update, update, met,
    KeyUse.onRecord]
  cases transition (rules.value? now (LawfulStore.record? s key)) with
  | error e => exact ⟨rfl, fun k => (ite_at s.record? key k).symm⟩
  | ok next =>
    cases next with
    | none => exact ⟨rfl, fun k => (ite_at s.record? key k).symm⟩
    | some value => exact ⟨rfl, record?_put s key value _⟩

instance : RecordStore (TableStore β) where
  rules := rules
  isLive_eq := rfl
  ending_some _ _ := rfl
  follows_release := follows_release
  follows_update := follows_update

end TableStore

end AnalyticsGateway
