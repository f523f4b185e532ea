import AnalyticsGateway.Proofs.Cache.Founded
import AnalyticsGateway.Proofs.Cache.Records

/-!
# Where the rows of a cache come from

Whatever a cache hands out for a key, and whatever it keeps in the store under it, are rows that a
job of the key has returned (`Provenance`). This holds for the four ways that rows can take to a
call: its own job, a flight that it joins, the entry that it finds first, and the entry that its
flight finds.
-/

namespace AnalyticsGateway

open SharedStore LawfulStore

/-! ## histories -/

/-- Rows as they are, or as they are read back from an entry of them. -/
def RowSet.Carries (made rows : RowSet) : Prop :=
  rows = made ∨ ∃ ttl now entry,
    CacheEntry.ofText? (CacheEntry.new made ttl now).text = some entry ∧ rows = entry.rows

/-- The jobs that a cache has been asked to run, and the rows that running them has returned. -/
structure CacheHistory (ω : Type) where
  Asked : CacheKey → ω → Prop
  Ran : CacheKey → RowSet → Prop
  owns : ∀ {key job}, Asked key job → CacheKey.Owns key.text

namespace CacheHistory

variable {ω : Type}

/-- Rows that may be served for a key. -/
def Yields (h : CacheHistory ω) (key : CacheKey) (rows : RowSet) : Prop :=
  ∃ made, h.Ran key made ∧ made.Carries rows

/-- An entry that may be published for a key. -/
def Publishes (h : CacheHistory ω) (key : CacheKey) (entry : CacheEntry) : Prop :=
  ∃ made ttl now, h.Ran key made ∧ entry = .new made ttl now

/-- No less has happened. -/
structure Le (h h' : CacheHistory ω) : Prop where
  asked : ∀ {key job}, h.Asked key job → h'.Asked key job
  ran : ∀ {key rows}, h.Ran key rows → h'.Ran key rows

variable {h h' : CacheHistory ω} {key : CacheKey}

theorem Yields.mono {rows : RowSet} (le : h.Le h') : h.Yields key rows → h'.Yields key rows
  | ⟨made, ran, carries⟩ => ⟨made, le.ran ran, carries⟩

theorem Publishes.mono {entry : CacheEntry} (le : h.Le h') :
    h.Publishes key entry → h'.Publishes key entry
  | ⟨made, ttl, now, ran, eq⟩ => ⟨made, ttl, now, le.ran ran, eq⟩

theorem Publishes.yields {entry : CacheEntry} : h.Publishes key entry → h.Yields key entry.rows
  | ⟨made, _, _, ran, eq⟩ => ⟨made, ran, .inl (congrArg CacheEntry.rows eq)⟩

/-- What is read back from a published entry. -/
theorem Publishes.yields_read {entry read : CacheEntry} (published : h.Publishes key entry)
    (text : CacheEntry.ofText? entry.text = some read) : h.Yields key read.rows := by
  obtain ⟨made, ttl, now, ran, rfl⟩ := published
  exact ⟨made, ran, .inr ⟨ttl, now, read, text, rfl⟩⟩

/-- A job that has been asked for; an entry and rows that jobs of the key have returned. -/
def facts (h : CacheHistory ω) : CacheFacts ω where
  Asked request := h.Asked request.key request.job
  Publishes request entry := h.Publishes request.key entry
  Lands request result := ∀ served, result = .ok served → h.Yields request.key served.rows
  Serves key result := ∀ served, result = .ok served → h.Yields key served.rows
  lands published served eq := by
    cases eq
    exact published.yields
  serves lands := lands

theorem Le.facts (le : h.Le h') : h.facts.Le h'.facts where
  asked := le.asked
  publishes := .mono le
  lands lands served eq := (lands served eq).mono le
  serves serves served eq := (serves served eq).mono le

end CacheHistory

/-! ## entries in the store -/

variable {σ ω : Type} [SharedStore σ String]

namespace CacheCluster

theorem look_eq_found_iff {s : CacheCluster σ ω} {failing : List StoreOperation} {key : CacheKey}
    {rows : RowSet} (works : StoreOperation.get ∉ failing) : s.look failing key = .found rows ↔
      ∃ text entry, get s.now key.entry s.store = some text ∧
        CacheEntry.ofText? text = some entry ∧
        entry.isExpired s.now.time.nanoseconds = false ∧ rows = entry.rows := by
  have look : s.look failing key =
      .ofAnswer s.now.time.nanoseconds (.ok (get s.now key.entry s.store)) := by
    simp [look, circumstances, Circumstances.attempt, works]
  rw [look]
  constructor
  · intro found
    rw [Lookup.ofAnswer.eq_def] at found
    split at found
    · rename_i text hget
      rw [Lookup.ofText] at found
      split at found
      · rename_i entry read
        split at found
        · cases found
        · rename_i fresh
          cases found
          exact ⟨text, entry, Except.ok.inj hget, read, Bool.not_eq_true _ ▸ fresh, rfl⟩
      · cases found
    · cases found
    · cases found
  · rintro ⟨text, entry, hget, read, fresh, rfl⟩
    simp only [hget, Lookup.ofAnswer, Lookup.ofText, read, fresh]
    rfl

theorem look_eq_found {s : CacheCluster σ ω} {failing : List StoreOperation} {key : CacheKey}
    {rows : RowSet} (h : s.look failing key = .found rows) :
    ∃ text entry, get s.now key.entry s.store = some text ∧
      CacheEntry.ofText? text = some entry ∧
      entry.isExpired s.now.time.nanoseconds = false ∧ rows = entry.rows := by
  by_cases down : StoreOperation.get ∈ failing
  · simp [look, circumstances, Circumstances.attempt, down, Lookup.ofAnswer] at h
  · exact (look_eq_found_iff down).1 h

variable [LawfulStore σ] {s : CacheCluster σ ω} {failing : List StoreOperation} {f : Flight ω}
  {stage : FlightStage} {store : σ}

/-- Giving up a lease leaves all entries. -/
theorem record?_release_lease (now : Moment) (lease key : CacheKey) (owner : String) (store : σ) :
    record? (release now lease.lease owner store).2 key.entry = record? store key.entry := by
  rcases record?_release now lease.lease owner store key.entry with same | ⟨same, -⟩
  · exact same
  · exact absurd same.symm (key.entry_ne_lease lease)

/-- A step of a flight that publishes puts the entry under its key's name. -/
theorem FlightMove.record?_entry_of_publishing (move : FlightMove s failing f stage store)
    {entry : CacheEntry} (publishes : f.stage = .publishing entry)
    (works : StoreOperation.publish ∉ failing) (key : CacheKey) :
    record? store key.entry =
      if f.key = key then some (entry.text, after s.now f.ttl) else record? s.store key.entry := by
  have put : record? (SharedStore.publish s.now f.key.entry entry.text f.ttl f.key.lease f.owner
      s.store) key.entry = if f.key = key then some (entry.text, after s.now f.ttl)
        else record? s.store key.entry := by
    rw [publish_eq, record?_release_lease, record?_set]
    exact if_congr ⟨CacheKey.entry_inj, congrArg CacheKey.entry⟩ rfl rfl
  cases move with
  | published publishes' eq =>
    cases publishes.symm.trans publishes'
    rw [Circumstances.attempt_of_working _ _ works] at eq
    cases eq
    exact put
  | unpublished _ eq =>
    rw [Circumstances.attempt_of_working _ _ works] at eq
    cases eq
  | stays idle => cases publishes ▸ idle
  | claimed other _ | refused other _ _ | unclaimed other _ | found other _ | starts other _
  | renews other _ | releases other | awakes other | polled other _ | retries other =>
    cases publishes.symm.trans other

/-- Every other step leaves the entries. -/
theorem FlightMove.record?_entry_of_idle (move : FlightMove s failing f stage store)
    (idle : ∀ entry, f.stage = .publishing entry → StoreOperation.publish ∈ failing)
    (key : CacheKey) : record? store key.entry = record? s.store key.entry := by
  have apart : f.key.lease ≠ key.entry := Ne.symm (key.entry_ne_lease f.key)
  cases move.recordMove key.entry with
  | stays same => exact same
  | leased own _ _ | givenUp own _ _ => exact absurd own apart
  | published publishes works _ _ => exact absurd (idle _ publishes) works

end CacheCluster

/-! ## the invariant -/

variable [LawfulStore σ]

structure Provenance (h : CacheHistory ω) (s : CacheCluster σ ω) : Prop
    extends Founded h.facts s where
  records : ∀ {key : CacheKey} {text : String} {expiry : Expiry σ}, CacheKey.Owns key.text →
    record? s.store key.entry = some (text, expiry) →
      ∃ entry, h.Publishes key entry ∧ text = entry.text

namespace Provenance

variable {h h' : CacheHistory ω} {s t : CacheCluster σ ω}

theorem mono (inv : Provenance h s) (le : h.Le h') : Provenance h' s where
  toFounded := inv.toFounded.mono le.facts
  records own record := by
    obtain ⟨entry, published, eq⟩ := inv.records own record
    exact ⟨entry, published.mono le, eq⟩

theorem fresh (settings : LeaseSettings) (processes : Nat) (now : Moment) {store : σ}
    (unwritten : ∀ k, CacheKey.Owns k → record? store k = none) :
    Provenance h (.fresh settings processes now store) where
  toFounded := .fresh settings processes now store
  records {key _ _} own record :=
    nomatch (unwritten key.entry (CacheKey.owns_entry own)).symm.trans record

theorem asked_request (inv : Provenance h s) {runner : Runner} {r : CacheRequest ω}
    (hr : s.request? runner = some r) : h.Asked r.key r.job := inv.toFounded.asked_request hr

/-- What a call returns for its request. -/
theorem yields_result (inv : Provenance h s) {call : Nat} {r : CacheRequest ω}
    (hr : s.request? (.call call) = some r) {answer : QueryResult}
    (result : (s.calls[call]?.bind fun c => c.stage.result?) = some (.ok answer)) :
    h.Yields r.key answer.rows := inv.toFounded.serves_result hr result _ rfl

theorem yields_look (inv : Provenance h s) {failing : List StoreOperation} {key : CacheKey}
    {rows : RowSet} (own : CacheKey.Owns key.text) (found : s.look failing key = .found rows) :
    h.Yields key rows := by
  obtain ⟨text, entry, hget, read, -, rfl⟩ := CacheCluster.look_eq_found found
  rw [get_eq] at hget
  obtain ⟨⟨value, expiry⟩, record, rfl⟩ := Option.map_eq_some_iff.1 hget
  obtain ⟨record, -⟩ := Option.filter_eq_some_iff.1 record
  obtain ⟨made, published, rfl⟩ := inv.records own record
  exact published.yields_read read

/-- A store may be used whose entries are as well founded, by calls and flights that are. -/
theorem of_records (inv : Provenance h s) (founded : Founded h.facts t)
    (records : ∀ {key : CacheKey} {text : String} {expiry : Expiry σ}, CacheKey.Owns key.text →
      record? t.store key.entry = some (text, expiry) →
        record? s.store key.entry = some (text, expiry) ∨
          ∃ entry, h.Publishes key entry ∧ text = entry.text) : Provenance h t where
  toFounded := founded
  records own record := by
    rcases records own record with old | new
    · exact inv.records own old
    · exact new

/-- An operation may be tried that puts nothing under the names of entries. -/
theorem attempt {α : Type} (inv : Provenance h s) (c : Circumstances) (operation : StoreOperation)
    {run : σ → α × σ}
    (records : ∀ {key : CacheKey} {text : String} {expiry : Expiry σ}, CacheKey.Owns key.text →
      record? (run s.store).2 key.entry = some (text, expiry) →
        record? s.store key.entry = some (text, expiry)) :
    Provenance h { s with store := (c.attempt operation run s.store).2 } := by
  refine inv.of_records (inv.withStore _) fun {key _ _} own record => .inl ?_
  rcases CacheCluster.attempt_cases c operation run s.store with same | ⟨-, same⟩
  · exact (congrArg (record? · key.entry) same).symm.trans record
  · exact records own ((congrArg (record? · key.entry) same).symm.trans record)

theorem of_store_eq (inv : Provenance h s) (founded : Founded h.facts t)
    (store : t.store = s.store) : Provenance h t :=
  inv.of_records founded fun _ record => .inl (store ▸ record)

/-! ## steps -/

theorem arrive (inv : Provenance h s) {request : CacheRequest ω}
    (asked : h.Asked request.key request.job) : Provenance h (s.arrive request) :=
  inv.of_store_eq (inv.toFounded.arrive asked) rfl

theorem complete (inv : Provenance h s) {runner : Runner} {result : Except GatewayError RowSet}
    (ran : ∀ r rows, s.request? runner = some r → result = .ok rows → h.Ran r.key rows) :
    Provenance h (s.complete runner result) := by
  refine inv.of_store_eq (inv.toFounded.complete fun r _ hr _ => ⟨fun served eq => ?_, ?_⟩)
    (s.leavesStore_complete runner result).store
  · cases result with
    | error e => cases eq
    | ok rows =>
      cases eq
      exact ⟨rows, ran r rows hr rfl, .inl rfl⟩
  · exact fun rows eq => ⟨rows, r.ttl, _, ran r rows hr eq, rfl⟩

theorem cancel (inv : Provenance h s) (id : Nat) : Provenance h (s.cancel id) :=
  inv.of_store_eq (inv.toFounded.cancel id) (s.leavesStore_cancel id).store

theorem stepCall (inv : Provenance h s) (failing : List StoreOperation) (id : Nat) :
    Provenance h (s.stepCall failing id) := by
  refine inv.of_store_eq (inv.toFounded.stepCall fun c rows hc _ found served eq => ?_)
    (s.leavesStore_stepCall failing id).store
  cases eq
  exact inv.yields_look (h.owns (inv.calls hc).1) found

theorem stepFlight (inv : Provenance h s) (failing : List StoreOperation) (id : Nat) :
    Provenance h (s.stepFlight failing id) := by
  have founded : Founded h.facts (s.stepFlight failing id) := by
    refine inv.toFounded.stepFlight (fun f rows hf _ found served eq => ?_) fun _ _ _ => nofun
    cases eq
    exact inv.yields_look (h.owns (inv.flights hf).1) found
  cases hf : s.flights[id]? with
  | none => exact inv.of_store_eq founded (by rw [CacheCluster.stepFlight_of_none hf])
  | some f =>
    obtain ⟨stage, store, move, eq⟩ := CacheCluster.stepFlight_move failing hf
    refine inv.of_records founded fun {key text expiry} _ record => ?_
    have same : (s.stepFlight failing id).store = store := (CacheCluster.of_bare_eq eq).store
    rw [same] at record
    by_cases publishes : ∃ entry, f.stage = .publishing entry ∧ StoreOperation.publish ∉ failing
    · obtain ⟨entry, publishes, works⟩ := publishes
      rw [move.record?_entry_of_publishing publishes works] at record
      split at record
      · rename_i same
        cases record
        have founded := (inv.flights hf).2
        rw [publishes] at founded
        exact .inr ⟨entry, same ▸ founded, rfl⟩
      · exact .inl record
    · rw [move.record?_entry_of_idle fun entry publishing =>
        not_not.1 fun works => publishes ⟨entry, publishing, works⟩] at record
      exact .inl record

theorem releaseAbandoned (inv : Provenance h s) (failing : List StoreOperation) :
    Provenance h (s.releaseAbandoned failing) := by
  rcases s.releaseAbandoned_cases failing with eq | ⟨a, rest, -, eq⟩ <;> rw [eq]
  · exact inv
  · have released : Provenance h { s with store := ((s.circumstances failing).attempt .release
        (release s.now a.lease a.owner) s.store).2 } := by
      refine inv.attempt _ _ fun {key text expiry} _ record => ?_
      rcases record?_release s.now a.lease a.owner s.store key.entry with same | ⟨-, gone⟩
      · exact same ▸ record
      · cases gone.symm.trans record
    exact released.of_store_eq (released.of_eq rfl rfl fun _ => rfl) rfl

theorem purge (inv : Provenance h s) (failing : List StoreOperation) :
    Provenance h (s.purge failing).2 := by
  have purged : Provenance h { s with store := ((s.circumstances failing).attempt .purge
      (SharedStore.purge s.now) s.store).2 } := by
    refine inv.attempt _ _ fun _ record => ?_
    rw [record?_purge] at record
    exact (Option.filter_eq_some_iff.1 record).1
  exact purged

end Provenance

end AnalyticsGateway
