import AnalyticsGateway.Proofs.Cache.Records

/-!
# Leases of flights

As long as the store works, the lease of a flight that has claimed it stays with the flight until
its time is over, whatever other flights do (`LeaseInv`). A watch over a run keeps the moments at
which flights have last claimed or renewed their leases, while these last.
-/

namespace AnalyticsGateway

open SharedStore LawfulStore

/-! ## watches -/

/-- The moment of the last claim or renewal after the next step of a flight. -/
def FlightStage.term (now : Moment) (last : Option Moment) : FlightStage → Option Moment
  | claiming => some now
  | running (some due) => if due ≤ now.clock then last.map fun _ => now else last
  | _ => last

/-- A cluster, and when each flight has last claimed or renewed a lease that is not over yet. -/
structure LeaseWatch (σ ω : Type) where
  cluster : CacheCluster σ ω
  terms : Nat → Option Moment := fun _ => none

namespace LeaseWatch

variable {σ ω : Type} [SharedStore σ String] [LawfulStore σ]

/-- Whether a lease given at a moment lasts. -/
def lasts (s : CacheCluster σ ω) (term : Moment) : Bool :=
  isLive (after term s.settings.span : Expiry σ) s.now

def term (w : LeaseWatch σ ω) (event : CacheEvent ω) (id : Nat) : Option Moment :=
  match event with
  | .stepFlight stepped _ =>
    if stepped = id then
      w.cluster.flights[id]?.bind fun f => f.stage.term w.cluster.now (w.terms id)
    else w.terms id
  | _ => w.terms id

def next (w : LeaseWatch σ ω) (event : CacheEvent ω) : LeaseWatch σ ω where
  cluster := w.cluster.step event
  terms id := (w.term event id).filter (lasts (w.cluster.step event))

def run (w : LeaseWatch σ ω) (events : List (CacheEvent ω)) : LeaseWatch σ ω :=
  events.foldl next w

theorem of_terms_next {w : LeaseWatch σ ω} {event : CacheEvent ω} {id : Nat} {m : Moment}
    (h : (w.next event).terms id = some m) :
    w.term event id = some m ∧ lasts (w.cluster.step event) m = true :=
  Option.filter_eq_some_iff.1 h

theorem run_cluster (w : LeaseWatch σ ω) (events : List (CacheEvent ω)) :
    (w.run events).cluster = w.cluster.run events := by
  induction events generalizing w with
  | nil => rfl
  | cons event rest ih => exact ih (w.next event)

end LeaseWatch

/-! ## the invariant -/

/-- The store answers, and who asks for a key has its result cached. -/
def CacheEvent.IsOrderly {ω : Type} (key : CacheKey) : CacheEvent ω → Prop
  | .arrive request => request.key = key → request.ttl ≠ .zero
  | .stepCall _ failing | .stepFlight _ failing | .releaseAbandoned failing | .purge failing =>
    failing = []
  | _ => True

variable {σ ω : Type} [SharedStore σ String] [LawfulStore σ]

structure LeaseInv (key : CacheKey) (s : CacheCluster σ ω) (terms : Nat → Option Moment) :
    Prop where
  /-- No call runs a job of the key on its own. -/
  calls : ∀ {id : Nat} {c : CacheCall ω}, s.calls[id]? = some c → c.key = key → c.stage ≠ .running
  owners : ∀ {id : Nat} {f : Flight ω}, s.flights[id]? = some f → f.owner = toString id
  leased : ∀ {id : Nat} {f : Flight ω}, s.flights[id]? = some f → f.stage ≠ .running none
  /-- Leases are given up late only for flights that have ended. -/
  abandoned : ∀ {a : AbandonedLease}, a ∈ s.abandoned → ∃ id < s.flights.length,
    a.owner = toString id ∧ ∀ {f : Flight ω}, s.flights[id]? = some f → f.stage = .deserted
  lasting : ∀ {id : Nat} {m : Moment}, terms id = some m → LeaseWatch.lasts s m = true
  leases : ∀ {id : Nat} {f : Flight ω} {m : Moment}, s.flights[id]? = some f →
    f.stage.hasGuard = true → terms id = some m →
      record? s.store f.key.lease = some (f.owner, after m s.settings.span)

namespace LeaseInv

variable {key : CacheKey} {s t : CacheCluster σ ω} {terms terms' : Nat → Option Moment}

theorem of_bare_eq (inv : LeaseInv key s terms) (h : t.bare = s.bare) : LeaseInv key t terms := by
  obtain ⟨hnow, hsettings, hstore, hcalls, hflights, habandoned⟩ := CacheCluster.of_bare_eq h
  constructor
  · rw [hcalls]
    exact inv.calls
  · rw [hflights]
    exact inv.owners
  · rw [hflights]
    exact inv.leased
  · rw [hflights, habandoned]
    exact inv.abandoned
  · unfold LeaseWatch.lasts
    rw [hnow, hsettings]
    exact inv.lasting
  · rw [hflights, hsettings, hstore]
    exact inv.leases

theorem weaken (inv : LeaseInv key s terms)
    (fewer : ∀ {id m}, terms' id = some m → terms id = some m) : LeaseInv key s terms' :=
  ⟨inv.calls, inv.owners, inv.leased, inv.abandoned, fun hm => inv.lasting (fewer hm),
    fun hf h hm => inv.leases hf h (fewer hm)⟩

/-- A change of the calls alone. -/
theorem withCalls (inv : LeaseInv key s terms) {calls : List (CacheCall ω)}
    (h : ∀ {id : Nat} {c : CacheCall ω}, calls[id]? = some c → c.key = key → c.stage ≠ .running) :
    LeaseInv key { s with calls } terms :=
  ⟨h, inv.owners, inv.leased, inv.abandoned, inv.lasting, inv.leases⟩

theorem withProcesses (inv : LeaseInv key s terms) (processes : List CacheProcess) :
    LeaseInv key { s with processes } terms :=
  ⟨inv.calls, inv.owners, inv.leased, inv.abandoned, inv.lasting, inv.leases⟩

theorem setCall (inv : LeaseInv key s terms) (id : Nat) {stage : CallStage}
    (h : stage ≠ .running) : LeaseInv key (s.setCall id stage) terms := by
  refine inv.withCalls fun {i c} hc hkey => ?_
  rcases CacheCluster.of_setCall hc with ⟨-, hc⟩ | ⟨-, old, hold, rfl⟩
  · exact inv.calls hc hkey
  · exact h

/-- A flight may go on, if it does not return from its end and the leases are there. -/
theorem setFlight (inv : LeaseInv key s terms) {id : Nat} {f : Flight ω} {stage : FlightStage}
    {store : σ} (hf : s.flights[id]? = some f) (leased : stage ≠ .running none)
    (ended : f.stage = .deserted → stage = .deserted)
    (lasting : ∀ {i m}, terms' i = some m → LeaseWatch.lasts s m = true)
    (own : ∀ {m : Moment}, stage.hasGuard = true → terms' id = some m →
      record? store f.key.lease = some (f.owner, after m s.settings.span))
    (others : ∀ {i : Nat} {g : Flight ω} {m : Moment}, i ≠ id → s.flights[i]? = some g →
      g.stage.hasGuard = true → terms' i = some m →
        record? store g.key.lease = some (g.owner, after m s.settings.span)) :
    LeaseInv key ({ s with store }.setFlight id stage) terms' where
  calls := inv.calls
  owners hg := by
    rcases CacheCluster.of_setFlight hg with ⟨-, hg⟩ | ⟨-, old, hold, rfl⟩
    · exact inv.owners hg
    · have owner := inv.owners hold
      exact owner
  leased hg := by
    rcases CacheCluster.of_setFlight hg with ⟨-, hg⟩ | ⟨-, old, hold, rfl⟩
    · exact inv.leased hg
    · exact leased
  abandoned ha := by
    obtain ⟨i, hi, owner, dropped⟩ := inv.abandoned ha
    refine ⟨i, by rwa [CacheCluster.setFlight, List.length_modify], owner, fun hg => ?_⟩
    rcases CacheCluster.of_setFlight hg with ⟨-, hg⟩ | ⟨rfl, old, hold, rfl⟩
    · exact dropped hg
    · exact ended (dropped hf)
  lasting := lasting
  leases hg hguard hm := by
    rcases CacheCluster.of_setFlight hg with ⟨other, hg⟩ | ⟨rfl, old, hold, rfl⟩
    · exact others other hg hguard hm
    · cases hf.symm.trans hold
      have lease := own hguard hm
      exact lease

/-- A flight that takes no lease may go on. -/
theorem goOn (inv : LeaseInv key s terms) {id : Nat} {f : Flight ω} {stage : FlightStage}
    (hf : s.flights[id]? = some f) (leased : stage ≠ .running none)
    (ended : f.stage = .deserted → stage = .deserted)
    (guarded : stage.hasGuard = true → f.stage.hasGuard = true) :
    LeaseInv key (s.setFlight id stage) terms :=
  inv.setFlight hf leased ended inv.lasting (fun h hm => inv.leases hf (guarded h) hm)
    fun _ hg h hm => inv.leases hg h hm

/-- Leases may be over, and the store may change, if it keeps the records of the other leases. -/
theorem mono (inv : LeaseInv key s terms) (store : σ) (now : Moment)
    (fewer : ∀ {id m}, terms' id = some m → terms id = some m)
    (lasting : ∀ {id m}, terms' id = some m →
      LeaseWatch.lasts ({ s with store, now } : CacheCluster σ ω) m = true)
    (kept : ∀ {id : Nat} {f : Flight ω} {m : Moment}, s.flights[id]? = some f →
      f.stage.hasGuard = true → LeaseWatch.lasts s m = true →
      record? s.store f.key.lease = some (f.owner, after m s.settings.span) →
        record? store f.key.lease = some (f.owner, after m s.settings.span)) :
    LeaseInv key { s with store, now } terms' where
  calls := inv.calls
  owners := inv.owners
  leased := inv.leased
  abandoned := inv.abandoned
  lasting := lasting
  leases hf hguard hm :=
    kept hf hguard (inv.lasting (fewer hm)) (inv.leases hf hguard (fewer hm))

end LeaseInv

/-! ## steps of flights -/

namespace CacheCluster

section Attempts

omit [SharedStore σ String] [LawfulStore σ]

theorem attempt_of_none_failing {α : Type} (s : CacheCluster σ ω) (operation : StoreOperation)
    (run : σ → α × σ) : (s.circumstances []).attempt operation run s.store =
      (.ok (run s.store).1, (run s.store).2) :=
  Circumstances.attempt_of_working run s.store List.not_mem_nil

theorem of_attempt {α : Type} {s : CacheCluster σ ω} {operation : StoreOperation}
    {run : σ → α × σ} {answer : Except StoreError α} {store : σ}
    (h : (s.circumstances []).attempt operation run s.store = (answer, store)) :
    answer = .ok (run s.store).1 ∧ store = (run s.store).2 := by
  rw [attempt_of_none_failing, Prod.mk.injEq] at h
  exact ⟨h.1.symm, h.2.symm⟩

end Attempts

variable {s : CacheCluster σ ω} {f : Flight ω} {stage : FlightStage} {store : σ}

/-- A step of a flight leaves what others own. -/
theorem FlightMove.record?_of_other (move : FlightMove s [] f stage store) {k value : String}
    {expiry : Expiry σ} (h : record? s.store k = some (value, expiry))
    (live : isLive expiry s.now = true) (other : f.owner ≠ value) (apart : f.key.entry ≠ k) :
    record? store k = some (value, expiry) := by
  cases move.recordMove k with
  | stays same => rw [same, h]
  | leased _ own _ => exact absurd (own value expiry h live).symm other
  | givenUp _ held _ =>
    cases held.symm.trans h
    exact absurd rfl other
  | published _ _ own _ => exact absurd own apart

/-- A flight that has its lease after a step has got it for the time of its last claim or
renewal. -/
theorem FlightMove.record?_lease (move : FlightMove s [] f stage store)
    {last : Option Moment} {m : Moment} (guarded : stage.hasGuard = true)
    (hm : f.stage.term s.now last = some m)
    (held : ∀ {m : Moment}, f.stage.hasGuard = true → last = some m → LeaseWatch.lasts s m = true ∧
      record? s.store f.key.lease = some (f.owner, after m s.settings.span)) :
    record? store f.key.lease = some (f.owner, after m s.settings.span) := by
  cases move with
  | claimed claims eq =>
    obtain ⟨won, rfl⟩ := of_attempt eq
    rw [claims] at hm
    cases hm
    refine ((claim_of_absent _ _ fun value expiry h => Bool.eq_false_iff.2 fun live => ?_).2
      f.key.lease).trans (if_pos rfl)
    rw [claim_of_live _ _ h live] at won
    cases won
  | refused claims eq stages =>
    rcases stages with ⟨-, rfl⟩ | ⟨till, rfl⟩ <;> cases guarded
  | unclaimed claims eq => cases (of_attempt eq).1
  | starts rechecks _ =>
    rw [rechecks] at hm
    exact (held (rechecks ▸ rfl) hm).2
  | renews runs due =>
    rw [runs, FlightStage.term, if_pos due] at hm
    obtain ⟨old, hold, rfl⟩ := Option.map_eq_some_iff.1 hm
    obtain ⟨lasts, lease⟩ := held (runs ▸ rfl) hold
    rw [attempt_of_none_failing]
    exact ((renew_of_held _ lease lasts).2 f.key.lease).trans (if_pos rfl)
  | stays idle =>
    refine (held guarded ?_).2
    cases hs : f.stage with
    | running renewal =>
      rw [hs] at hm idle guarded
      cases renewal with
      | none => cases guarded
      | some due =>
        rw [FlightStage.term, if_neg (by simpa [FlightStage.isReady] using idle)] at hm
        exact hm
    | rechecking | publishing entry =>
      rw [hs] at idle
      cases idle
    | _ =>
      rw [hs] at guarded
      cases guarded
  | _ => cases guarded

omit [LawfulStore σ] in
theorem FlightMove.deserted (move : FlightMove s [] f stage store) (h : f.stage = .deserted) :
    stage = .deserted := by
  cases move with
  | stays _ => exact h
  | claimed hs | refused hs | unclaimed hs | found hs | starts hs | renews hs | published hs
  | unpublished hs | releases hs | awakes hs | polled hs | retries hs =>
    rw [h] at hs
    cases hs

omit [LawfulStore σ] in
theorem FlightMove.leased (move : FlightMove s [] f stage store) (h : f.stage ≠ .running none) :
    stage ≠ .running none := by
  cases move with
  | stays _ => exact h
  | unclaimed _ eq => cases (of_attempt eq).1
  | refused _ _ stages => rcases stages with ⟨-, rfl⟩ | ⟨till, rfl⟩ <;> exact nofun
  | _ => exact nofun

end CacheCluster

namespace LeaseInv

variable {key : CacheKey} {s : CacheCluster σ ω} {terms : Nat → Option Moment}

theorem stepFlight (inv : LeaseInv key s terms) (id : Nat) :
    LeaseInv key (s.stepFlight [] id) ((LeaseWatch.mk s terms).next (.stepFlight id [])).terms := by
  cases hf : s.flights[id]? with
  | none =>
    have same : s.stepFlight [] id = s := CacheCluster.stepFlight_of_none hf
    rw [same]
    refine inv.weaken fun {i m} h => ?_
    have term := (LeaseWatch.of_terms_next h).1
    simp only [LeaseWatch.term] at term
    split at term
    · rename_i stepped
      rw [← stepped, hf] at term
      cases term
    · exact term
  | some f =>
    obtain ⟨stage, store, move, eq⟩ := CacheCluster.stepFlight_move [] hf
    obtain ⟨hnow, hsettings, -⟩ := CacheCluster.of_bare_eq eq
    have lasting {i : Nat} {m : Moment}
        (h : ((LeaseWatch.mk s terms).next (.stepFlight id [])).terms i = some m) :
        LeaseWatch.lasts s m = true := by
      have lasts := (LeaseWatch.of_terms_next h).2
      unfold LeaseWatch.lasts CacheCluster.step at lasts
      rwa [hnow, hsettings] at lasts
    refine LeaseInv.of_bare_eq (inv.setFlight hf (move.leased (inv.leased hf)) move.deserted lasting
      (fun {m} guarded h => ?_) fun {i g m} ne hg guarded h => ?_) eq
    · have term := (LeaseWatch.of_terms_next h).1
      simp only [LeaseWatch.term, if_true, hf, Option.bind_some] at term
      exact move.record?_lease guarded term fun guarded last =>
        ⟨inv.lasting last, inv.leases hf guarded last⟩
    · have term := (LeaseWatch.of_terms_next h).1
      simp only [LeaseWatch.term, if_neg (Ne.symm ne)] at term
      have apart : f.owner ≠ g.owner := by
        rw [inv.owners hf, inv.owners hg]
        exact fun same => ne (Nat.repr_injective same).symm
      exact move.record?_of_other (inv.leases hg guarded term) (inv.lasting term) apart
        (f.key.entry_ne_lease g.key)

/-! ## steps of calls -/

theorem start (inv : LeaseInv key s terms) (c : CacheCall ω) :
    LeaseInv key { s with flights := s.flights ++ [s.newFlight c] } terms where
  calls := inv.calls
  owners hf := by
    rcases of_concat hf with hf | ⟨rfl, rfl⟩
    · exact inv.owners hf
    · rfl
  leased hf := by
    rcases of_concat hf with hf | ⟨-, rfl⟩
    · exact inv.leased hf
    · exact nofun
  abandoned ha := by
    obtain ⟨i, hi, owner, dropped⟩ := inv.abandoned ha
    refine ⟨i, ?_, owner, fun hf => ?_⟩
    · rw [List.length_append]
      exact Nat.lt_add_right _ hi
    · rcases of_concat hf with hf | ⟨rfl, -⟩
      · exact dropped hf
      · exact absurd hi (Nat.lt_irrefl _)
  lasting := inv.lasting
  leases hf guarded hm := by
    rcases of_concat hf with hf | ⟨-, rfl⟩
    · exact inv.leases hf guarded hm
    · cases guarded

theorem stepCall (inv : LeaseInv key s terms) (id : Nat) :
    LeaseInv key (s.stepCall [] id) terms := by
  cases hc : s.calls[id]? with
  | none => rwa [CacheCluster.stepCall_of_none hc]
  | some c =>
    obtain ⟨t, move, eq⟩ := CacheCluster.stepCall_move [] hc
    refine LeaseInv.of_bare_eq ?_ eq
    cases move with
    | found _ _ | missed _ | joined _ _ | landed _ _ _ => exact inv.setCall id nofun
    | started _ _ => exact ((inv.start c).withProcesses _).setCall id nofun
    | left _ =>
      refine LeaseInv.setCall ?_ id nofun
      rcases s.forget_cases c _ with eq | eq <;> rw [eq]
      · exact inv
      · exact inv.withProcesses _
    | stays => exact inv

/-! ## other events -/

theorem arrive (inv : LeaseInv key s terms) {request : CacheRequest ω}
    (h : request.key = key → request.ttl ≠ .zero) : LeaseInv key (s.arrive request) terms := by
  refine inv.withCalls fun hc hkey => ?_
  rcases of_concat hc with hc | ⟨-, rfl⟩
  · exact inv.calls hc hkey
  · rw [if_neg (h hkey)]
    exact nofun

theorem complete (inv : LeaseInv key s terms) (runner : Runner)
    (result : Except GatewayError RowSet) : LeaseInv key (s.complete runner result) terms := by
  have move := s.complete_move runner result
  generalize s.complete runner result = t at move
  cases move with
  | answered hc _ => exact inv.setCall _ nofun
  | succeeded hf runs _ =>
    exact inv.goOn hf nofun (fun ended => nomatch runs.symm.trans ended) fun _ => runs ▸ rfl
  | failed hf runs _ => exact inv.goOn hf nofun (fun ended => nomatch runs.symm.trans ended) nofun
  | landed hf runs => exact inv.goOn hf nofun (fun ended => nomatch runs.symm.trans ended) nofun
  | stays => exact inv

theorem desert (inv : LeaseInv key s terms) (id : Nat) : LeaseInv key (s.desert id) terms := by
  rcases s.desert_cases id with eq | ⟨f, lease, hf, -, owned, eq⟩ <;> rw [eq]
  · exact inv
  · have ended : LeaseInv key (s.setFlight id .deserted) terms :=
      inv.goOn hf nofun (fun _ => rfl) nofun
    refine ⟨ended.calls, ended.owners, ended.leased, fun {a} ha => ?_, ended.lasting, ended.leases⟩
    rcases List.mem_append.1 ha with ha | ha
    · exact ended.abandoned ha
    · have owner : a.owner = f.owner := congrArg AbandonedLease.owner (owned a ha)
      refine ⟨id, ?_, owner.trans (inv.owners hf), fun hg => ?_⟩
      · rw [CacheCluster.setFlight, List.length_modify]
        exact (List.getElem?_eq_some_iff.1 hf).1
      · rcases CacheCluster.of_setFlight hg with ⟨ne, -⟩ | ⟨-, old, -, rfl⟩
        · exact absurd rfl ne
        · rfl

theorem cancel (inv : LeaseInv key s terms) (id : Nat) : LeaseInv key (s.cancel id) terms := by
  have cancelled : LeaseInv key (s.setCall id .cancelled) terms := inv.setCall id nofun
  rcases s.cancel_cases id with eq | eq | ⟨flight, -, eq⟩ <;> rw [eq]
  · exact inv
  · exact cancelled
  · exact cancelled.desert flight

theorem releaseAbandoned (inv : LeaseInv key s terms) :
    LeaseInv key (s.releaseAbandoned []) terms := by
  rcases s.releaseAbandoned_cases [] with eq | ⟨a, rest, h, eq⟩ <;> rw [eq]
  · exact inv
  · obtain ⟨id, hid, owner, dropped⟩ := inv.abandoned (h ▸ List.mem_cons_self)
    have fewer : LeaseInv key { s with abandoned := rest } terms :=
      ⟨inv.calls, inv.owners, inv.leased, fun ha => inv.abandoned (h ▸ List.mem_cons_of_mem a ha),
        inv.lasting, inv.leases⟩
    refine fewer.mono _ s.now (fun h => h) inv.lasting fun {i f m} hf guarded _ lease => ?_
    have apart : a.owner ≠ f.owner := by
      rw [owner, inv.owners hf]
      intro same
      rw [← Nat.repr_injective same] at hf
      rw [dropped hf] at guarded
      cases guarded
    rw [CacheCluster.attempt_of_none_failing]
    exact record?_release_of_other lease fun _ => apart

theorem purge (inv : LeaseInv key s terms) : LeaseInv key (s.purge []).2 terms :=
  inv.mono _ s.now (fun h => h) inv.lasting fun _ _ live lease => record?_purge_of_live lease live

/-- Leases stay with their flights as time goes on and events happen in any order. -/
theorem next {w : LeaseWatch σ ω} (inv : LeaseInv key w.cluster w.terms) {event : CacheEvent ω}
    (orderly : event.IsOrderly key) :
    LeaseInv key (w.next event).cluster (w.next event).terms := by
  have fewer {i : Nat} {m : Moment} (same : w.term event i = w.terms i)
      (h : (w.next event).terms i = some m) : w.terms i = some m :=
    same ▸ (LeaseWatch.of_terms_next h).1
  cases event with
  | tick now =>
    exact inv.mono w.cluster.store now (fewer rfl) (fun h => (LeaseWatch.of_terms_next h).2)
      fun _ _ _ lease => lease
  | arrive request => exact (inv.arrive orderly).weaken (fewer rfl)
  | stepCall id failing =>
    cases orderly
    exact (inv.stepCall id).weaken (fewer rfl)
  | stepFlight id failing =>
    cases orderly
    exact inv.stepFlight id
  | complete runner result => exact (inv.complete runner result).weaken (fewer rfl)
  | cancel call => exact (inv.cancel call).weaken (fewer rfl)
  | releaseAbandoned failing =>
    cases orderly
    exact inv.releaseAbandoned.weaken (fewer rfl)
  | purge failing =>
    cases orderly
    exact inv.purge.weaken (fewer rfl)

end LeaseInv

end AnalyticsGateway
