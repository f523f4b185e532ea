import AnalyticsGateway.Config.Basic
import AnalyticsGateway.Proofs.Cache.Provenance
import AnalyticsGateway.Proofs.Clock
import AnalyticsGateway.Proofs.Gateway.Loading
import AnalyticsGateway.Proofs.Gateway.Sources
import AnalyticsGateway.Proofs.Gateway.Visits
import AnalyticsGateway.Proofs.RateLimit.Call
import AnalyticsGateway.Proofs.Source.Dispatch

/-!
# How far clocks reach

A clock tells instants up to a last one, and an entry counts its time as a number with a sign. Where
every instant that a run comes to is far enough from the last one (`StaysWithin`), the clock tells
all instants that the run reckons with: deadlines, renewals and the ends of what is put into the
store (`InReach`). An entry is expired from the start just if its time does not fit its number.
-/

namespace AnalyticsGateway

open SharedStore LawfulStore

/-! ## the lives of entries -/

/-- The time of a new entry is over at once if it does not fit a number with a sign. -/
theorem CacheEntry.isExpired_new_iff {rows : RowSet} {ttl : Duration} {now : Int}
    (bound : ttl ≤ .max) :
    (new rows ttl now).isExpired now = true ↔ wordSize 63 ≤ ttl.seconds := by
  have whole : ttl.seconds < wordSize 64 := by
    change ttl.nanoseconds ≤ wordSize 64 * 1000000000 - 1 at bound
    rw [Duration.seconds, wordSize_64] at *
    omega
  have age : (now - (new rows ttl now).created).tdiv 1000000 = 0 := by
    change (now - now).tdiv 1000000 = 0
    rw [Int.sub_self, Int.zero_tdiv]
  rw [isExpired, decide_eq_true_iff, age]
  change clamp (withSign (max 1 ttl.seconds) * 1000) ≤ 0 ↔ _
  rw [wordSize_64] at whole
  rw [withSign, clamp, wordSize_63, wordSize_64]
  split <;> omega

/-! ## what the caches reckon with -/

/-- The clock tells the deadline, and the time for which the result is good can be added to any
instant that a run comes to. -/
def CacheRequest.InReach (reach : Duration) (r : CacheRequest Job) : Prop :=
  r.deadline ≤ Instant.last ∧ r.job.deadline ≤ Instant.last ∧ r.ttl ≤ reach

/-- Entries are made for the time that is asked for. -/
def reckoning (asked : CacheRequest Job → Prop) : CacheFacts Job where
  Asked := asked
  Publishes r entry := ∃ rows now, entry = .new rows r.ttl now
  Lands _ _ := True
  Serves _ _ := True
  lands _ := trivial
  serves _ := trivial

variable {σ : Type} [SharedStore σ String]

theorem Founded.reckon {asked : CacheRequest Job → Prop} {s : CacheCluster σ Job}
    (inv : Founded (reckoning asked) s) {e : CacheEvent Job}
    (arrives : ∀ r, e = .arrive r → asked r) : Founded (reckoning asked) (s.step e) := by
  cases e with
  | tick now => exact inv.of_eq rfl rfl fun _ => rfl
  | arrive request => exact inv.arrive (arrives request rfl)
  | stepCall id failing => exact inv.stepCall fun _ _ _ _ _ => trivial
  | stepFlight id failing => exact inv.stepFlight (fun _ _ _ _ _ => trivial) fun _ _ _ => trivial
  | complete runner result =>
    exact inv.complete fun r _ _ _ => ⟨trivial, fun rows _ => ⟨rows, _, rfl⟩⟩
  | cancel call => exact inv.cancel call
  | releaseAbandoned failing => exact inv.releaseAbandoned failing
  | purge failing => exact inv.of_eq rfl rfl fun _ => rfl

namespace CacheCluster

variable {s : CacheCluster σ Job} {failing : List StoreOperation} {f : Flight Job}
  {stage : FlightStage} {store : σ}

/-- A flight renews its lease at an instant that it knew before, or a renewal's time after now or
after an instant that has come. -/
theorem FlightMove.renewal (move : s.FlightMove failing f stage store) {due : Instant}
    (runs : stage = .running (some due)) :
    f.stage = .running (some due) ∨
      ∃ early, early ≤ s.now.clock ∧ due = early.add s.settings.renewal := by
  cases move with
  | starts _ _ =>
    cases runs
    exact .inr ⟨_, Duration.le_refl _, rfl⟩
  | @renews old _ late =>
    cases runs
    exact .inr ⟨old, late, rfl⟩
  | stays _ => exact .inl runs
  | refused _ _ stages =>
    rcases stages with ⟨-, rfl⟩ | ⟨till, rfl⟩ <;> cases runs
  | _ => cases runs

/-- The clock tells when flights are to renew their leases. -/
def TellsRenewals (s : CacheCluster σ Job) : Prop :=
  ∀ ⦃id : Nat⦄ ⦃f : Flight Job⦄ ⦃due : Instant⦄, s.flights[id]? = some f →
    f.stage = .running (some due) → due ≤ Instant.last

namespace TellsRenewals

omit [SharedStore σ String] in
theorem of_eq {t : CacheCluster σ Job} (h : s.TellsRenewals) (flights : t.flights = s.flights) :
    t.TellsRenewals := by
  intro id f due hf
  rw [flights] at hf
  exact h hf

omit [SharedStore σ String] in
theorem setFlight (h : s.TellsRenewals) (id : Nat) {stage : FlightStage}
    (told : ∀ due, stage = .running (some due) → due ≤ Instant.last) :
    (s.setFlight id stage).TellsRenewals := by
  intro i f due hf runs
  rcases of_setFlight hf with ⟨-, hf⟩ | ⟨-, old, -, rfl⟩
  · exact h hf runs
  · exact told due runs

theorem stepCall (h : s.TellsRenewals) (failing : List StoreOperation) (id : Nat) :
    (s.stepCall failing id).TellsRenewals := by
  rcases s.stepCall_launch_cases failing id with same | ⟨c, -, -, flights, -⟩
  · exact h.of_eq same
  · intro i f due hf runs
    rw [flights] at hf
    rcases of_concat hf with hf | ⟨-, rfl⟩
    · exact h hf runs
    · cases runs

theorem stepFlight (h : s.TellsRenewals) {reach : Duration}
    (told : s.now.clock.add reach ≤ Instant.last) (renewal : s.settings.renewal ≤ reach)
    (failing : List StoreOperation) (id : Nat) : (s.stepFlight failing id).TellsRenewals := by
  cases hf : s.flights[id]? with
  | none => exact h.of_eq (by rw [stepFlight_of_none hf])
  | some f =>
    obtain ⟨stage, store, move, eq⟩ := stepFlight_move failing hf
    refine TellsRenewals.of_eq (h.setFlight id fun due runs => ?_) (of_bare_eq eq).flights
    rcases move.renewal runs with before | ⟨early, le, rfl⟩
    · exact h hf before
    · exact Duration.le_trans (Duration.add_le_add le renewal) told

omit [SharedStore σ String] in
theorem complete (h : s.TellsRenewals) (runner : Runner) (result : Except GatewayError RowSet) :
    (s.complete runner result).TellsRenewals := by
  have move := s.complete_move runner result
  generalize s.complete runner result = t at move
  cases move with
  | answered _ _ | stays => exact h.of_eq rfl
  | succeeded _ _ _ | failed _ _ _ | landed _ _ => exact h.setFlight _ fun _ => nofun

omit [SharedStore σ String] in
theorem cancel (h : s.TellsRenewals) (id : Nat) : (s.cancel id).TellsRenewals := by
  rcases s.cancel_cases id with eq | eq | ⟨flight, -, eq⟩ <;> rw [eq]
  · exact h
  · exact h.of_eq rfl
  · rcases (s.setCall id .cancelled).desert_cases flight with eq | ⟨f, lease, -, -, -, eq⟩ <;>
      rw [eq]
    · exact h.of_eq rfl
    · have left : (s.setFlight flight .deserted).TellsRenewals := h.setFlight flight fun _ => nofun
      exact left.of_eq rfl

end TellsRenewals

variable [LawfulStore σ]

/-- What a step of a flight puts into the store lasts for a lease's span, or as long as a result is
good. -/
theorem FlightMove.record?_cases (move : s.FlightMove failing f stage store) {k value : String}
    {expiry : Expiry σ} (h : record? store k = some (value, expiry)) :
    record? s.store k = some (value, expiry) ∨
      expiry = after s.now s.settings.span ∨ expiry = after s.now f.ttl := by
  cases move.recordMove k with
  | stays same => exact .inl (same ▸ h)
  | leased _ _ put =>
    cases put.symm.trans h
    exact .inr (.inl rfl)
  | givenUp _ _ gone => cases gone.symm.trans h
  | published _ _ _ put =>
    cases put.symm.trans h
    exact .inr (.inr rfl)

/-- What has been put under the names of the cache ends at an instant that the clock tells. -/
def TellsEnds (store : σ) : Prop :=
  ∀ ⦃k value : String⦄ ⦃expiry : Expiry σ⦄, CacheKey.Owns k →
    record? store k = some (value, expiry) → ∃ (now : Moment) (span : Duration),
      expiry = after now span ∧ now.clock.add span ≤ Instant.last

namespace TellsEnds

/-- An operation may be tried that puts nothing under the names of the cache. -/
theorem attempt {α : Type} (h : TellsEnds store) (c : Circumstances) (operation : StoreOperation)
    {run : σ → α × σ}
    (records : ∀ {k value : String} {expiry : Expiry σ}, CacheKey.Owns k →
      record? (run store).2 k = some (value, expiry) → record? store k = some (value, expiry)) :
    TellsEnds (c.attempt operation run store).2 := by
  intro k value expiry own record
  rcases attempt_cases c operation run store with same | ⟨-, same⟩ <;> rw [same] at record
  · exact h own record
  · exact h own (records own record)

theorem stepFlight (h : TellsEnds s.store) {reach : Duration}
    (told : s.now.clock.add reach ≤ Instant.last) (span : s.settings.span ≤ reach)
    (failing : List StoreOperation) {id : Nat}
    (ttl : ∀ f, s.flights[id]? = some f → f.ttl ≤ reach) :
    TellsEnds (s.stepFlight failing id).store := by
  have fits {d : Duration} (le : d ≤ reach) : s.now.clock.add d ≤ Instant.last :=
    Duration.le_trans (Duration.add_le_add (Duration.le_refl _) le) told
  cases hf : s.flights[id]? with
  | none => rwa [stepFlight_of_none hf]
  | some f =>
    obtain ⟨stage, store, move, eq⟩ := stepFlight_move failing hf
    rw [(of_bare_eq eq).store]
    intro k value expiry own record
    rcases move.record?_cases record with old | rfl | rfl
    · exact h own old
    · exact ⟨_, _, rfl, fits span⟩
    · exact ⟨_, _, rfl, fits (ttl f hf)⟩

theorem releaseAbandoned (h : TellsEnds s.store) (failing : List StoreOperation) :
    TellsEnds (s.releaseAbandoned failing).store := by
  rcases s.releaseAbandoned_cases failing with eq | ⟨a, rest, -, eq⟩ <;> rw [eq]
  · exact h
  · refine h.attempt _ _ fun {k value expiry} _ record => ?_
    rcases record?_release s.now a.lease a.owner s.store k with same | ⟨-, gone⟩
    · exact same ▸ record
    · cases gone.symm.trans record

theorem purge (h : TellsEnds s.store) (failing : List StoreOperation) :
    TellsEnds (s.purge failing).2.store := by
  refine h.attempt (s.circumstances failing) .purge fun {k value expiry} _ record => ?_
  have kept := (record?_purge s.now s.store k).symm.trans record
  exact (Option.filter_eq_some_iff.1 kept).1

end TellsEnds

/-- The clock tells all instants that the caches reckon with. -/
structure InReach (reach : Duration) (s : CacheCluster σ Job) : Prop where
  founded : Founded (reckoning (·.InReach reach)) s
  renewals : s.TellsRenewals
  ends : TellsEnds s.store

theorem InReach.step {reach : Duration} (inv : s.InReach reach)
    (told : s.now.clock.add reach ≤ Instant.last) (span : s.settings.span ≤ reach)
    (renewal : s.settings.renewal ≤ reach) {e : CacheEvent Job}
    (arrives : ∀ r, e = .arrive r → r.InReach reach) : (s.step e).InReach reach where
  founded := inv.founded.reckon arrives
  renewals := by
    cases e with
    | stepCall id failing => exact inv.renewals.stepCall failing id
    | stepFlight id failing => exact inv.renewals.stepFlight told renewal failing id
    | complete runner result => exact inv.renewals.complete runner result
    | cancel call => exact inv.renewals.cancel call
    | releaseAbandoned failing =>
      rcases s.releaseAbandoned_cases failing with eq | ⟨a, rest, -, eq⟩ <;>
        rw [CacheCluster.step, eq]
      · exact inv.renewals
      · exact inv.renewals.of_eq rfl
    | tick _ | arrive _ | purge _ => exact inv.renewals.of_eq rfl
  ends := by
    cases e with
    | stepCall id failing => exact (s.leavesStore_stepCall failing id).store ▸ inv.ends
    | stepFlight id failing =>
      exact inv.ends.stepFlight told span failing fun f hf => (inv.founded.flights hf).1.2.2
    | complete runner result => exact (s.leavesStore_complete runner result).store ▸ inv.ends
    | cancel call => exact (s.leavesStore_cancel call).store ▸ inv.ends
    | releaseAbandoned failing => exact inv.ends.releaseAbandoned failing
    | purge failing => exact inv.ends.purge failing
    | tick _ | arrive _ => exact inv.ends

end CacheCluster

/-! ## what a gateway reckons with -/

namespace Gateway

variable [LawfulStore σ]

/-- Every instant that a run comes to is so far from the last one, and no span that a gateway
reckons with is longer: the time for a query, the time between renewals, and for how long results
are good. -/
structure StaysWithin (start : Gateway σ) (events : List GatewayEvent) (reach : Duration) :
    Prop where
  told : ∀ before, before <+: events → (start.run before).now.clock.add reach ≤ Instant.last
  timeout : start.settings.queryTimeout ≤ reach
  renewal : start.settings.lease.renewal ≤ reach
  datasets : ∀ before, before <+: events → ∀ (id : String) (d : Dataset),
    (start.run before).catalog.current.get? id = some d →
      d.timeToLive start.settings.timeToLive ≤ reach

/-- The clock tells all instants that a gateway reckons with: those of the caches, the deadlines of
the queries that have come, and those of the statements on their way. -/
structure InReach (reach : Duration) (g : Gateway σ) : Prop where
  caches : g.cache.InReach reach
  queries : ∀ {id : Nat} {v : Visit}, g.visits[id]? = some v →
    v.started.add g.settings.queryTimeout ≤ Instant.last
  statements : ∀ {runner : Runner} {d : Dispatch}, (runner, d) ∈ g.dispatches →
    d.deadline ≤ Instant.last

namespace InReach

variable {g : Gateway σ} {reach : Duration}

theorem settle (inv : g.InReach reach) {runner : Runner} {d : Dispatch}
    (told : d.deadline ≤ Instant.last) {entry : Runner × Dispatch}
    (h : entry ∈ (g.settle runner d).dispatches) : entry.2.deadline ≤ Instant.last := by
  rcases mem_dispatches_settle h with old | rfl
  · exact inv.statements old
  · exact told

theorem statements_step (inv : g.InReach reach) (come : g.now.clock ≤ Instant.last)
    {event : GatewayEvent} {entry : Runner × Dispatch} (h : entry ∈ (g.step event).dispatches) :
    entry.2.deadline ≤ Instant.last := by
  cases event with
  | startJob runner =>
    rw [Gateway.step] at h
    rcases g.startJob_cases runner with eq | ⟨job, runs, eq⟩ <;> rw [eq] at h
    · exact inv.statements h
    · obtain ⟨r, hr, rfl⟩ := CacheCluster.request?_of_job? runs
      have told := (inv.caches.founded.asked_request hr).2.1
      exact inv.settle (Dispatch.deadline_start_le told come) h
  | answerJob runner outcome =>
    rw [Gateway.step] at h
    rcases g.answerJob_cases runner outcome with eq | ⟨d, hd, eq⟩ <;> rw [eq] at h
    · exact inv.statements h
    · have told := inv.statements (mem_of_dispatch? hd)
      rw [← d.deadline_answer g.now.clock outcome] at told
      exact inv.settle told h
  | expireJob runner =>
    rw [Gateway.step] at h
    rcases g.expireJob_cases runner with eq | ⟨d, hd, eq⟩ <;> rw [eq] at h
    · exact inv.statements h
    · have told := inv.statements (mem_of_dispatch? hd)
      rw [← d.deadline_expire g.now.clock] at told
      exact inv.settle told h
  | stepVisit id failing => exact inv.statements (g.dispatches_stepVisit failing id ▸ h)
  | cancelVisit id =>
    rw [Gateway.step] at h
    rcases g.cancelVisit_cases id with eq | eq | ⟨call, eq⟩ <;> rw [eq] at h
    · exact inv.statements h
    · exact inv.statements h
    · exact inv.statements (List.mem_of_mem_filter h)
  | answerVisit id outcome =>
    rw [Gateway.step] at h
    rcases g.answerVisit_cases id outcome with eq | ⟨-, answer, -, eq⟩ <;> rw [eq] at h <;>
      exact inv.statements h
  | expireVisit id =>
    rw [Gateway.step] at h
    rcases g.expireVisit_cases id with eq | ⟨-, e, eq⟩ <;> rw [eq] at h <;>
      exact inv.statements h
  | replaceCatalog datasets =>
    rcases g.replaceCatalog_cases datasets with eq | ⟨catalog, -, eq⟩ <;> rw [eq] at h <;>
      exact inv.statements h
  | _ => exact inv.statements h

theorem caches_step (inv : g.InReach reach) (told : g.now.clock.add reach ≤ Instant.last)
    (span : g.cache.settings.span ≤ reach) (renewal : g.cache.settings.renewal ≤ reach)
    (datasets : ∀ (id : String) (d : Dataset), g.catalog.current.get? id = some d →
      d.timeToLive g.settings.timeToLive ≤ reach) (event : GatewayEvent) :
    (g.step event).cache.InReach reach := by
  have move := g.cachesMove_step event
  generalize (g.step event).cache = cache at move
  cases move with
  | ticks _ => exact inv.caches.step told span renewal nofun
  | @arrives id v dataset d p hv hd =>
    refine inv.caches.step told span renewal fun r arrives => ?_
    cases arrives
    exact ⟨inv.queries hv, inv.queries hv, datasets dataset d hd⟩
  | steps old _ =>
    exact inv.caches.step told span renewal fun r arrives => absurd arrives (old r)
  | @pays failing caller route =>
    refine ⟨inv.caches.founded.withStore _, inv.caches.renewals, ?_⟩
    refine inv.caches.ends.attempt ⟨g.now, failing⟩ .update fun {k value expiry} own record => ?_
    rcases record?_update g.now (RateLimiter.bucketKey route caller.keyId) _ _ g.cache.store k
      with same | ⟨bucket, -⟩
    · exact same ▸ record
    · exact absurd own (bucket ▸ not_owns_bucketKey route caller.keyId)
  | stays => exact inv.caches

theorem step (inv : g.InReach reach) (told : g.now.clock.add reach ≤ Instant.last)
    (timeout : g.settings.queryTimeout ≤ reach) (span : g.cache.settings.span ≤ reach)
    (renewal : g.cache.settings.renewal ≤ reach)
    (datasets : ∀ (id : String) (d : Dataset), g.catalog.current.get? id = some d →
      d.timeToLive g.settings.timeToLive ≤ reach) (event : GatewayEvent) :
    (g.step event).InReach reach where
  caches := inv.caches_step told span renewal datasets event
  queries hv := by
    rw [settings_step]
    rcases started_step hv with new | ⟨old, hold, same⟩
    · rw [new]
      exact Duration.le_trans (Duration.add_le_add (Duration.le_refl _) timeout) told
    · rw [same]
      exact inv.queries hold
  statements h := inv.statements_step (Duration.le_trans (Nat.le_add_right _ _) told) h

theorem initial {settings : GatewaySettings} {engines : Engines} {catalog : Catalog}
    {processes : Nat} {now : Moment} {store : σ}
    (unwritten : ∀ k, CacheKey.Owns k → record? store k = none) :
    (Gateway.start settings engines catalog processes now store).InReach reach where
  caches := {
    founded := .fresh settings.lease processes now store
    renewals := fun _ _ _ hf => nomatch hf
    ends := fun k _ _ own h => nomatch (unwritten k own).symm.trans h }
  queries := nofun
  statements := nofun

end InReach

omit [LawfulStore σ] in
theorem lease_step (g : Gateway σ) (event : GatewayEvent) :
    (g.step event).cache.settings = g.cache.settings := by
  have move := g.cachesMove_step event
  generalize (g.step event).cache = cache at move
  cases move with
  | ticks _ | arrives _ _ _ | steps _ _ => exact g.cache.step_settings _
  | pays | stays => rfl

/-! ## runs -/

section Runs

variable {settings : GatewaySettings} {engines : Engines} {catalog : Catalog} {processes : Nat}
  {now : Moment} {store : σ} {start : Gateway σ}

omit [LawfulStore σ] in
theorem settings_run (starts : start = .start settings engines catalog processes now store)
    (events : List GatewayEvent) :
    (start.run events).settings = settings ∧
      (start.run events).cache.settings = settings.lease := by
  induction events using List.reverseRecOn with
  | nil => exact starts ▸ ⟨rfl, rfl⟩
  | append_singleton events event ih =>
    rw [run_concat, settings_step, lease_step]
    exact ih

theorem inReach_run (starts : start = .start settings engines catalog processes now store)
    (unwritten : ∀ k, CacheKey.Owns k → record? store k = none) {events : List GatewayEvent}
    {reach : Duration} (span : settings.lease.span ≤ reach)
    (within : start.StaysWithin events reach) :
    (start.run events).InReach reach := by
  induction events using List.reverseRecOn with
  | nil => exact starts ▸ .initial unwritten
  | append_singleton events event ih =>
    have here : events <+: events ++ [event] := List.prefix_append ..
    obtain ⟨kept, lease⟩ := settings_run starts events
    have same : start.settings = settings := starts ▸ rfl
    have timeout := within.timeout
    have renewal := within.renewal
    have datasets := within.datasets events here
    rw [same] at timeout renewal datasets
    rw [run_concat]
    refine (ih ⟨fun before there => within.told before (there.trans here), within.timeout,
      within.renewal, fun before there => within.datasets before (there.trans here)⟩).step
      (within.told events here) ?_ ?_ ?_ ?_ event
    · rwa [kept]
    · rwa [lease]
    · rwa [lease]
    · rwa [kept]

omit [LawfulStore σ] in
/-- Whatever happens, an entry is made for the time that its flight asks for. -/
theorem reckoned_run (starts : start = .start settings engines catalog processes now store)
    (events : List GatewayEvent) :
    Founded (reckoning fun _ => True) (start.run events).cache := by
  induction events using List.reverseRecOn with
  | nil => exact starts ▸ .fresh settings.lease processes now store
  | append_singleton events event ih =>
    rw [run_concat]
    have move := (start.run events).cachesMove_step event
    generalize ((start.run events).step event).cache = cache at move
    cases move with
    | ticks _ | arrives _ _ _ | steps _ _ => exact ih.reckon fun _ _ => trivial
    | pays => exact ih.withStore _
    | stays => exact ih

end Runs

end Gateway

theorem Config.lease_lt_of_validate {c : Config} (valid : c.validate = .ok ()) :
    c.lease.span < c.queryTimeout := by
  by_contra long
  have le : c.queryTimeout ≤ c.lease.span := Nat.not_lt.1 long
  unfold Config.validate at valid
  rw [if_pos le] at valid
  cases valid

/-- After any run, an entry that is about to be published is over from the start exactly if the time
for which it is to be good does not fit a number of 64 bits with a sign. Where leases last no longer
than queries, as a valid configuration has it, and the clock stays far enough from its last instant,
it tells every instant that the run reckons with, and no entry is over from the start. -/
theorem instants_told {σ : Type} [SharedStore σ String] [LawfulStore σ] (settings : GatewaySettings)
    (engines : Engines) (catalog : Catalog) (processes : Nat) (now : Moment) (store : σ)
    (unwritten : ∀ k, CacheKey.Owns k → record? store k = none) (events : List GatewayEvent)
    (start : Gateway σ) (starts : start = .start settings engines catalog processes now store) :
    (∀ (id : Nat) (f : Flight Job) (entry : CacheEntry),
      (start.run events).cache.flights[id]? = some f → f.stage = .publishing entry →
        f.ttl ≤ .max → (entry.isExpired entry.created = true ↔ wordSize 63 ≤ f.ttl.seconds)) ∧
    (∀ c : Config, c.validate = .ok () → c.lease.span < c.queryTimeout) ∧
    ∀ reach, settings.lease.span < settings.queryTimeout → start.StaysWithin events reach →
      (start.run events).InReach reach ∧ ∀ (id : Nat) (f : Flight Job) (entry : CacheEntry),
        (start.run events).cache.flights[id]? = some f → f.stage = .publishing entry →
          entry.isExpired entry.created = false := by
  have ended {id : Nat} {f : Flight Job} {entry : CacheEntry}
      (hf : (start.run events).cache.flights[id]? = some f)
      (publishes : f.stage = .publishing entry) (bound : f.ttl ≤ .max) :
      entry.isExpired entry.created = true ↔ wordSize 63 ≤ f.ttl.seconds := by
    have founded := ((Gateway.reckoned_run starts events).flights hf).2
    rw [publishes] at founded
    obtain ⟨rows, m, rfl⟩ := founded
    exact CacheEntry.isExpired_new_iff bound
  refine ⟨fun id f entry => ended, fun c => c.lease_lt_of_validate, fun reach valid within => ?_⟩
  have timeout := within.timeout
  rw [show start.settings = settings from starts ▸ rfl] at timeout
  have inv := Gateway.inReach_run starts unwritten
    (Duration.le_trans (Nat.le_of_lt valid) timeout) within
  refine ⟨inv, fun id f entry hf publishes => Bool.eq_false_iff.2 fun expired => ?_⟩
  have ttl := (inv.caches.founded.flights hf).1.2.2
  have told := within.told events (List.prefix_refl _)
  change f.ttl.nanoseconds ≤ reach.nanoseconds at ttl
  change (start.run events).now.clock.nanoseconds + reach.nanoseconds ≤
    wordSize 63 * 1000000000 - 1 at told
  have bound : f.ttl ≤ .max := by
    change f.ttl.nanoseconds ≤ wordSize 64 * 1000000000 - 1
    rw [wordSize_63] at told
    rw [wordSize_64]
    omega
  have long := (ended hf publishes bound).1 expired
  rw [Duration.seconds, wordSize_63] at *
  omega

/-! ## a query whose rows are published, and rows that are good for ever -/

namespace ReachSample

open SourceSample
open IsolationSample (analyst)

/-- Two visits come, and a query is sent off for the first one, -/
def sendingOff : List GatewayEvent :=
  [.visit 0 analyst (.query (ordersRequest [])), .stepVisit 0 [],
    .visit 0 analyst (.query (ordersRequest [])), .stepVisit 1 [], .stepVisit 0 [], .stepCall 0 [],
    .stepCall 0 [], .stepFlight 0 [], .stepFlight 0 [], .startJob (.flight 0)]

/-- whose rows are to be published. -/
def events : List GatewayEvent := sendingOff ++ [.answerJob (.flight 0) (.ok counted)]

theorem exists_sentOff : ∃ key text store, gateway.run sendingOff =
    state "warehouse" 1 (aboard key text store { executions := 1 } [] (.running (some due)))
      [(.flight 0, sent text)] (.fetching 0) .preparing := by
  obtain ⟨query, text, key, -, plan⟩ := exists_plan
  obtain ⟨_, -, -, -, made⟩ := plan_eq_ok.1 (plan "warehouse")
  obtain ⟨absent, won, still⟩ := claimed_entered (CacheKey.owns_of_ofQuery made)
  have sends := after_sending plan absent won still
  rw [← after_entering, ← Gateway.after_append] at sends
  have same : gateway.after (entering ++ sending) = gateway.run sendingOff :=
    List.foldl_map (f := Happening.event) (l := sendingOff)
  exact ⟨key, text, _, same ▸ sends⟩

theorem exists_publishing : ∃ f entry, (gateway.run events).cache.flights[0]? = some f ∧
    f.stage = .publishing entry ∧ f.ttl = .ofSeconds 300 := by
  obtain ⟨key, text, store, sends⟩ := exists_sentOff
  rw [events, Gateway.run_concat, sends]
  exact ⟨flight key text (.publishing entry), entry, rfl, rfl, rfl⟩

theorem now_run (before : List GatewayEvent) (h : before <+: events) :
    (gateway.run before).now.clock = .zero := by
  induction before using List.reverseRecOn with
  | nil => rfl
  | append_singleton before event ih =>
    rw [Gateway.run_concat]
    rcases (gateway.run before).now_step event with same | tick
    · rw [same]
      exact ih ((List.prefix_append ..).trans h)
    · have member := h.subset (List.mem_append_right before (List.mem_singleton_self event))
      rw [tick] at member
      simp [events, sendingOff] at member

/-- No file is known that the catalog could be reloaded from. -/
theorem catalog_run (before : List GatewayEvent) (h : before <+: events) :
    (gateway.run before).catalog = catalog "warehouse" 1 := by
  induction before using List.reverseRecOn with
  | nil => rfl
  | append_singleton before event ih =>
    have known := ih ((List.prefix_append ..).trans h)
    rw [Gateway.run_concat]
    rcases (gateway.run before).catalog_step event with same | reloaded | ⟨datasets, eq, -⟩
    · exact same.trans known
    · rw [reloaded, known]
      rfl
    · have member := h.subset (List.mem_append_right before (List.mem_singleton_self event))
      rw [eq] at member
      simp [events, sendingOff] at member

theorem staysWithin : gateway.StaysWithin events (.ofSeconds 300) where
  told before h := by
    rw [ReachSample.now_run before h]
    decide
  timeout := by decide
  renewal := by decide
  datasets before h id d hd := by
    rw [catalog_run before h] at hd
    change (SortedMap.empty.insert "orders" (dataset "warehouse")).get? id = some d at hd
    rw [SortedMap.get?_insert] at hd
    split at hd <;> cases hd
    decide

end ReachSample

open ReachSample SourceSample Gateway in
theorem instants_told_sample : gateway.StaysWithin events (.ofSeconds 300) ∧
    (gateway.run events).InReach (.ofSeconds 300) ∧
    ∃ f entry, (gateway.run events).cache.flights[0]? = some f ∧ f.stage = .publishing entry ∧
      entry.isExpired entry.created = false := by
  obtain ⟨f, entry, hf, publishes, -⟩ := exists_publishing
  obtain ⟨-, -, told⟩ := instants_told {} engines (catalog "warehouse" 1) 1 ⟨.zero, 0⟩ {}
    (fun _ _ => rfl) events gateway rfl
  obtain ⟨inv, lasts⟩ := told _ (by decide) staysWithin
  exact ⟨staysWithin, inv, f, entry, hf, publishes, lasts 0 f entry hf publishes⟩

namespace ReachSample

open SourceSample (counted)

/-- A dataset whose results are to be good for as many seconds as 64 bits can count. -/
def lasting : Dataset :=
  { orders with tenantColumn := some "tenant", cacheSeconds := some (wordSize 64 - 1) }

def lastingRequest : CacheRequest Job where
  process := 0
  key := ⟨"rows"⟩
  ttl := lasting.timeToLive (.ofSeconds 300)
  deadline := .ofSeconds 30
  job := ⟨"warehouse", ⟨"rows", .postgresql⟩, .ofSeconds 30⟩

/-- The rows are published, and asked for again in the same moment. -/
def lastingEvents : List (CacheEvent Job) :=
  [.arrive lastingRequest, .stepCall 0 [], .stepCall 0 [], .stepFlight 0 [], .stepFlight 0 [],
    .complete (.flight 0) (.ok counted), .stepFlight 0 [], .stepCall 0 [], .stepCall 0 [],
    .arrive lastingRequest, .stepCall 1 []]

end ReachSample

open ReachSample SourceSample in
/-- A dataset may be installed whose results are over as soon as they are published: they are not
found by a call of the same moment. -/
theorem over_when_published :
    (({ sources := .ofList [("warehouse", .postgresql)] } : Catalog).replace [lasting]).isOk ∧
    let s := (CacheCluster.fresh {} 1 ⟨.zero, 0⟩ ({} : TableStore String)).run lastingEvents
    (s.calls.map fun c => c.stage.result?.isSome) = [true, false] ∧
      (s.look [] lastingRequest.key).isExpired = true ∧
      s.processes.map (·.stats) = [{ misses := 1, executions := 1, expirations := 1 }] := by
  decide +kernel

end AnalyticsGateway
