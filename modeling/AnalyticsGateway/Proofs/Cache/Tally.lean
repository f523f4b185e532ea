import AnalyticsGateway.Proofs.Cache.Boarding

/-!
# What the caches count

A call that returns is counted as a hit or as a miss, a call that joins a flight as coalesced, and a
job that a flight starts as an execution (`stepCall_count`, `stepFlight_count`). What is met on the
way, such as a lease of another or a failure of the store, is counted too but left out of account:
states are compared by their tallies.
-/

namespace AnalyticsGateway

/-! ## what calls come to -/

namespace CallStage

/-- The call has returned with rows from the store. -/
def isHit : CallStage → Bool
  | returned (.ok answer) => answer.cacheHit
  | _ => false

/-- The call has returned with rows of a job or with an error. -/
def isMiss : CallStage → Bool
  | returned (.ok answer) => !answer.cacheHit
  | returned (.error _) => true
  | _ => false

def isJoining : CallStage → Bool
  | joining => true
  | _ => false

theorem isJoining_iff {stage : CallStage} : stage.isJoining = true ↔ stage = joining := by
  cases stage <;> simp [isJoining]

theorem hit_or_miss (stage : CallStage) :
    stage.isHit.toNat + stage.isMiss.toNat = stage.result?.isSome.toNat := by
  cases stage with
  | returned result =>
    cases result with
    | ok answer => cases h : answer.cacheHit <;> simp [isHit, isMiss, result?, h]
    | error e => rfl
  | _ => rfl

end CallStage

/-- Whether a flight that lands so counts as a hit. -/
def FlightResult.isHit : FlightResult → Bool
  | .ok served => served.fromStore
  | .error _ => false

theorem isMiss_answer {ω : Type} (c : CacheCall ω) (now : Instant) (result : FlightResult) :
    (CallStage.returned (c.answer now result)).isMiss = !result.isHit := by
  cases result <;> rfl

/-- Whether the stage is one of a flight that may have run its job. -/
def FlightStage.mayHaveRun : FlightStage → Bool
  | claiming | rechecking | waiting _ | polling => false
  | running _ | publishing _ | deserted => true
  | releasing result | landed result => !result.isHit

namespace CacheStats

/-- The counters without those of what is met on the way. -/
def principal (n : CacheStats) : CacheStats :=
  { n with expirations := 0, leaseConflicts := 0, storeErrors := 0 }

end CacheStats

namespace CacheCluster

variable {σ ω : Type}

/-- The counters of a process. -/
def stats (s : CacheCluster σ ω) (process : Nat) : CacheStats :=
  (s.processes[process]?.map CacheProcess.stats).getD {}

/-! ## tallies -/

/-- What is compared: the main counters, the calls and the flights. -/
structure Tally (ω : Type) where
  stats : List CacheStats
  calls : List (CacheCall ω)
  flights : List (Flight ω)

def tally (s : CacheCluster σ ω) : Tally ω :=
  ⟨s.processes.map fun p => p.stats.principal, s.calls, s.flights⟩

section Tally

variable {s t : CacheCluster σ ω}

/-- What is met on the way is not in the tally. -/
theorem tally_count (s : CacheCluster σ ω) (process : Nat) {change : CacheStats → CacheStats}
    (minor : ∀ n, (change n).principal = n.principal) :
    (s.count process change).tally = s.tally := by
  have same : (s.processes.modify process fun p => { p with stats := change p.stats }).map
      (fun p => p.stats.principal) = s.processes.map fun p => p.stats.principal := by
    refine List.ext_getElem? fun i => ?_
    rw [List.getElem?_map, List.getElem?_map]
    exact map_getElem?_modify _ _ (fun p => minor p.stats) ..
  simp only [tally, count, same]

theorem tally_setInFlight (s : CacheCluster σ ω) (process : Nat)
    (change : SortedMap Nat → SortedMap Nat) : (s.setInFlight process change).tally = s.tally := by
  have same : (s.processes.modify process fun p => { p with inFlight := change p.inFlight }).map
      (fun p => p.stats.principal) = s.processes.map fun p => p.stats.principal := by
    refine List.ext_getElem? fun i => ?_
    rw [List.getElem?_map, List.getElem?_map]
    exact map_getElem?_modify _ _ (by intro; rfl) ..
  simp only [tally, setInFlight, same]

theorem tally_countStoreError (s : CacheCluster σ ω) (process : Nat) :
    (s.countStoreError process).tally = s.tally := s.tally_count process fun _ => rfl

theorem tally_countExpired (s : CacheCluster σ ω) (process : Nat) (lookup : Lookup) :
    (s.countExpired process lookup).tally = s.tally := by
  unfold countExpired
  split
  · exact s.tally_count process fun _ => rfl
  · rfl

theorem tally_forget (s : CacheCluster σ ω) (c : CacheCall ω) (flight : Nat) :
    (s.forget c flight).tally = s.tally := by
  rcases s.forget_cases c flight with eq | eq <;> rw [eq]
  exact tally_setInFlight ..

theorem tally_setCall (h : s.tally = t.tally) (id : Nat) (stage : CallStage) :
    (s.setCall id stage).tally = (t.setCall id stage).tally :=
  congrArg (fun u : Tally ω =>
    { u with calls := u.calls.modify id fun call => { call with stage } }) h

theorem tally_setFlight (h : s.tally = t.tally) (id : Nat) (stage : FlightStage) :
    (s.setFlight id stage).tally = (t.setFlight id stage).tally :=
  congrArg (fun u : Tally ω =>
    { u with flights := u.flights.modify id fun flight => { flight with stage } }) h

/-- A main counter goes on in the tally. -/
theorem tally_count_congr (h : s.tally = t.tally) (process : Nat)
    {change : CacheStats → CacheStats} (commutes : ∀ n, (change n).principal = change n.principal) :
    (s.count process change).tally = (t.count process change).tally := by
  have onward (u : CacheCluster σ ω) : (u.count process change).tally =
      { u.tally with stats := u.tally.stats.modify process change } := by
    simp only [tally, count, Tally.mk.injEq, and_true]
    refine List.ext_getElem? fun i => ?_
    rw [List.getElem?_map, List.getElem?_modify, List.getElem?_modify, List.getElem?_map]
    cases u.processes[i]? with
    | none => rfl
    | some p => by_cases same : process = i <;> simp [same, commutes]
  rw [onward, onward, h]

theorem stats_principal_of_tally (h : s.tally = t.tally) (process : Nat) :
    (s.stats process).principal = (t.stats process).principal := by
  have principal (u : CacheCluster σ ω) :
      (u.stats process).principal = (u.tally.stats[process]?).getD {} := by
    rw [stats, tally, List.getElem?_map]
    cases u.processes[process]? <;> rfl
  rw [principal, principal, h]

theorem stats_count {process : Nat} (known : process < s.processes.length) (counted : Nat)
    (change : CacheStats → CacheStats) : (s.count counted change).stats process =
      if counted = process then change (s.stats process) else s.stats process := by
  rw [stats, stats, count, List.getElem?_modify, List.getElem?_eq_getElem known]
  by_cases same : counted = process <;> simp [same]

end Tally

/-! ## what steps count -/

section Counts

variable [SharedStore σ String]

/-- What a step of a flight does to the tally: a job that starts is an execution. -/
inductive FlightCount (s : CacheCluster σ ω) (id : Nat) (f : Flight ω) : CacheCluster σ ω → Prop
  | starts {renewal : Option Instant} : f.stage.phase = 0 →
    FlightCount s id f ((s.count f.process fun n =>
      { n with executions := n.executions + 1 }).setFlight id (.running renewal))
  | goesOn (stage : FlightStage) : (stage.isRunning = true → f.stage.isRunning = true) →
    (f.stage.mayHaveRun = true → stage.mayHaveRun = true) →
    FlightCount s id f (s.setFlight id stage)

theorem claimLease_count (s : CacheCluster σ ω) (failing : List StoreOperation) (id : Nat)
    {f : Flight ω} (h : f.stage = .claiming) :
    ∃ t, FlightCount s id f t ∧ (s.claimLease failing id f).tally = t.tally := by
  unfold claimLease useStore
  generalize (s.circumstances failing).attempt .claim
    (SharedStore.claim s.now f.key.lease f.owner s.settings.span) s.store = r
  obtain ⟨answer, store⟩ := r
  have idle : ∀ {stage : FlightStage}, f.stage.mayHaveRun = true → stage.mayHaveRun = true := by
    simp [h, FlightStage.mayHaveRun]
  simp only
  split
  · exact ⟨_, .goesOn .rechecking nofun idle, rfl⟩
  · have minor (n : CacheStats) :
        { n with leaseConflicts := n.leaseConflicts + 1 }.principal = n.principal := rfl
    have refused := tally_count { s with store } f.process minor
    split
    · exact ⟨_, .goesOn (.landed _) nofun idle, tally_setFlight refused ..⟩
    · exact ⟨_, .goesOn (.waiting _) nofun idle, tally_setFlight refused ..⟩
  · refine ⟨_, .starts (by rw [h]; rfl), tally_setFlight ?_ ..⟩
    exact tally_count_congr (tally_countStoreError ..) f.process fun _ => rfl

theorem recheck_count (s : CacheCluster σ ω) (failing : List StoreOperation) (id : Nat)
    {f : Flight ω} (h : f.stage = .rechecking) :
    ∃ t, FlightCount s id f t ∧ (s.recheck failing id f).tally = t.tally := by
  unfold recheck
  simp only
  split
  · refine ⟨_, .goesOn (.releasing _) nofun ?_, tally_setFlight (tally_countExpired ..) ..⟩
    simp [h, FlightStage.mayHaveRun]
  · refine ⟨_, .starts (by rw [h]; rfl), tally_setFlight ?_ ..⟩
    exact tally_count_congr (tally_countExpired ..) f.process fun _ => rfl

theorem publish_count (s : CacheCluster σ ω) (failing : List StoreOperation) (id : Nat)
    {f : Flight ω} (entry : CacheEntry) :
    ∃ t, FlightCount s id f t ∧ (s.publish failing id f entry).tally = t.tally := by
  unfold publish useStore
  generalize hr : (s.circumstances failing).attempt .publish (fun store => ((), SharedStore.publish
    s.now f.key.entry entry.text f.ttl f.key.lease f.owner store)) s.store = r
  obtain ⟨answer, store⟩ := r
  simp only [hr]
  cases answer with
  | ok _ => exact ⟨_, .goesOn (.landed _) nofun fun _ => rfl, rfl⟩
  | error e =>
    exact ⟨_, .goesOn (.releasing (.ok ⟨entry.rows, false⟩)) nofun fun _ => rfl,
      tally_setFlight (tally_countStoreError ..) ..⟩

theorem poll_count (s : CacheCluster σ ω) (failing : List StoreOperation) (id : Nat)
    {f : Flight ω} (h : f.stage = .polling) :
    ∃ t, FlightCount s id f t ∧ (s.poll failing id f).tally = t.tally := by
  have idle : ∀ {stage : FlightStage}, f.stage.mayHaveRun = true → stage.mayHaveRun = true := by
    simp [h, FlightStage.mayHaveRun]
  unfold poll
  simp only
  split
  · exact ⟨_, .goesOn (.landed _) nofun idle, tally_setFlight (tally_countExpired ..) ..⟩
  · exact ⟨_, .goesOn .claiming nofun idle, tally_setFlight (tally_countExpired ..) ..⟩

theorem stepFlight_count {s : CacheCluster σ ω} (failing : List StoreOperation) {id : Nat}
    {f : Flight ω} (h : s.flights[id]? = some f) :
    ∃ t, FlightCount s id f t ∧ (s.stepFlight failing id).tally = t.tally := by
  have stays : ∃ t, FlightCount s id f t ∧ s.tally = t.tally :=
    ⟨_, .goesOn f.stage (fun runs => runs) fun ran => ran,
      congrArg tally (setFlight_same h).symm⟩
  unfold stepFlight
  rw [h]
  cases hs : f.stage with
  | claiming => simpa only [hs] using s.claimLease_count failing id hs
  | rechecking => simpa only [hs] using s.recheck_count failing id hs
  | running renewal =>
    cases renewal with
    | none => simpa only [hs] using stays
    | some due =>
      by_cases hdue : due ≤ s.now.clock
      · refine ⟨_, .goesOn (.running (some (due.add s.settings.renewal)))
          (fun _ => by rw [hs]; rfl) fun _ => rfl, ?_⟩
        simp only [hs, if_pos hdue]
        rfl
      · simpa only [hs, if_neg hdue] using stays
  | publishing entry => simpa only [hs] using s.publish_count failing id entry
  | releasing result =>
    refine ⟨_, .goesOn (.landed result) nofun fun ran => ?_, by simp only [hs]; rfl⟩
    rwa [hs] at ran
  | waiting till =>
    by_cases hdue : till ≤ s.now.clock
    · refine ⟨_, .goesOn .polling nofun fun ran => ?_, by simp only [hs, if_pos hdue]⟩
      rw [hs] at ran
      cases ran
    · simpa only [hs, if_neg hdue] using stays
  | polling => simpa only [hs] using s.poll_count failing id hs
  | landed result => simpa only [hs] using stays
  | deserted => simpa only [hs] using stays

/-- What a step of a call does to the tally: a call that returns is a hit or a miss. -/
inductive CallCount (s : CacheCluster σ ω) (id : Nat) (c : CacheCall ω) : CacheCluster σ ω → Prop
  | hit (answer : Except GatewayError QueryResult) : c.stage.isPending = true →
    (CallStage.returned answer).isHit = true → CallCount s id c
      ((s.count c.process fun n => { n with hits := n.hits + 1 }).setCall id (.returned answer))
  | miss (answer : Except GatewayError QueryResult) : c.stage.isPending = true →
    (CallStage.returned answer).isMiss = true → CallCount s id c
      ((s.count c.process fun n => { n with misses := n.misses + 1 }).setCall id (.returned answer))
  | looked : c.stage = .looking → CallCount s id c (s.setCall id .joining)
  | joins {flight : Nat} : c.stage = .joining → s.flightOf? c.process c.key = some flight →
    CallCount s id c ((s.count c.process fun n =>
      { n with coalesced := n.coalesced + 1 }).setCall id (.flying flight))
  | starts : c.stage = .joining → CallCount s id c
      ({ s with flights := s.flights ++ [s.newFlight c] }.setCall id (.flying s.flights.length))
  | landed {flight : Nat} {result : FlightResult} : c.stage = .flying flight →
    CallCount s id c (s.setCall id (.leaving flight result))
  | stays : CallCount s id c s

theorem lookUp_count (s : CacheCluster σ ω) (failing : List StoreOperation) (id : Nat)
    {c : CacheCall ω} (h : c.stage = .looking) :
    ∃ t, CallCount s id c t ∧ (s.lookUp failing id c).tally = t.tally := by
  have pending : c.stage.isPending = true := by rw [h]; rfl
  unfold lookUp
  simp only
  split
  · refine ⟨_, .hit (.ok _) pending rfl, tally_setCall ?_ ..⟩
    exact tally_count_congr (tally_countExpired ..) c.process fun _ => rfl
  · refine ⟨_, .looked h, tally_setCall ?_ ..⟩
    rw [tally_countStoreError, tally_countExpired]
  · exact ⟨_, .looked h, tally_setCall (tally_countExpired ..) ..⟩

omit [SharedStore σ String] in
theorem join_count (s : CacheCluster σ ω) (id : Nat) {c : CacheCall ω} (h : c.stage = .joining) :
    ∃ t, CallCount s id c t ∧ (s.join id c).tally = t.tally := by
  unfold join
  split
  · rename_i flight known
    exact ⟨_, .joins h known, rfl⟩
  · exact ⟨_, .starts h, tally_setCall (tally_setInFlight ..) ..⟩

omit [SharedStore σ String] in
theorem leave_count (s : CacheCluster σ ω) (id : Nat) {c : CacheCall ω} {flight : Nat}
    {result : FlightResult} (h : c.stage = .leaving flight result) :
    ∃ t, CallCount s id c t ∧ (s.leave id c flight result).tally = t.tally := by
  have pending : c.stage.isPending = true := by rw [h]; rfl
  have forgot := s.tally_forget c flight
  unfold leave
  cases result with
  | error e =>
    refine ⟨_, .miss _ pending ?_, tally_setCall ?_ ..⟩
    rotate_left
    · exact tally_count_congr forgot c.process fun _ => rfl
    · rfl
  | ok served =>
    cases hit : served.fromStore with
    | true =>
      simp only [hit, if_true]
      refine ⟨_, .hit _ pending ?_, tally_setCall ?_ ..⟩
      rotate_left
      · exact tally_count_congr forgot c.process fun _ => rfl
      · exact hit
    | false =>
      simp only [hit, Bool.false_eq_true, if_false]
      refine ⟨_, .miss _ pending ?_, tally_setCall ?_ ..⟩
      rotate_left
      · exact tally_count_congr forgot c.process fun _ => rfl
      · exact congrArg Bool.not hit

theorem stepCall_count {s : CacheCluster σ ω} (failing : List StoreOperation) {id : Nat}
    {c : CacheCall ω} (h : s.calls[id]? = some c) :
    ∃ t, CallCount s id c t ∧ (s.stepCall failing id).tally = t.tally := by
  have stays : ∃ t, CallCount s id c t ∧ s.tally = t.tally := ⟨s, .stays, rfl⟩
  unfold stepCall
  rw [h]
  cases hs : c.stage with
  | running => simpa only [hs] using stays
  | looking => simpa only [hs] using s.lookUp_count failing id hs
  | joining => simpa only [hs] using s.join_count id hs
  | flying flight =>
    cases hf : s.flights[flight]?.bind fun f => f.stage.result? with
    | none => simpa only [hs, hf] using stays
    | some result =>
      exact ⟨s.setCall id (.leaving flight result), .landed hs, by simp only [hs, hf]⟩
  | leaving flight result => simpa only [hs] using s.leave_count id hs
  | returned result => simpa only [hs] using stays
  | cancelled => simpa only [hs] using stays

end Counts

end CacheCluster

end AnalyticsGateway
