import AnalyticsGateway.Proofs.Cache.Failures
import AnalyticsGateway.Proofs.Cache.Tally

/-!
# The counters of a cache balance

Whatever happens, the hits and the misses of a process are its calls that have returned, each one
once; its executions are the jobs that have been started, and of its calls those are coalesced that
have joined a flight (`counters_balance`). From step to step the counters go on with the calls
(`Counts`, `tallies_step`), and so they do in a run.
-/

namespace AnalyticsGateway.CacheCluster

variable {σ ω : Type}

/-! ## amounts -/

/-- How many calls of a process are at stages of a kind. -/
def countCalls (s : CacheCluster σ ω) (process : Nat) (kind : CallStage → Bool) : Nat :=
  s.calls.countP fun c => c.process == process && kind c.stage

def countFlights (s : CacheCluster σ ω) (process : Nat) (kind : FlightStage → Bool) : Nat :=
  s.flights.countP fun f => f.process == process && kind f.stage

def runners (s : CacheCluster σ ω) : List Runner :=
  (List.range s.calls.length).map .call ++ (List.range s.flights.length).map .flight

def isOf (s : CacheCluster σ ω) (process : Nat) (runner : Runner) : Bool :=
  (s.request? runner).any fun request => request.process == process

/-- How many jobs for a process run in a state that have not run in the state before it. -/
def jobsStarted (process : Nat) (s t : CacheCluster σ ω) : Nat :=
  t.runners.countP fun runner =>
    t.isOf process runner && (s.job? runner).isNone && (t.job? runner).isSome

/-- How many calls of a process that were to join are on a flight that there was already. -/
def callsJoined (process : Nat) (s t : CacheCluster σ ω) : Nat :=
  (List.range s.calls.length).countP fun call => s.isOf process (.call call) &&
    s.calls[call]?.any (·.stage.isJoining) &&
      t.calls[call]?.any fun c => c.stage.flight?.any (· < s.flights.length)

/-- What the steps of a run amount to. -/
def total [SharedStore σ String] (amount : CacheCluster σ ω → CacheCluster σ ω → Nat)
    (s : CacheCluster σ ω) : List (CacheEvent ω) → Nat
  | [] => 0
  | event :: rest => amount s (s.step event) + total amount (s.step event) rest

theorem total_concat [SharedStore σ String]
    (amount : CacheCluster σ ω → CacheCluster σ ω → Nat) (s : CacheCluster σ ω)
    (events : List (CacheEvent ω)) (event : CacheEvent ω) : s.total amount (events ++ [event]) =
      s.total amount events + amount (s.run events) ((s.run events).step event) := by
  induction events generalizing s with
  | nil => exact Nat.add_comm ..
  | cons first rest ih =>
    rw [List.cons_append, total, ih, total, Nat.add_assoc]
    rfl

/-! ## balance -/

/-- No call of a process runs its job itself. -/
def Cached (process : Nat) (s : CacheCluster σ ω) : Prop :=
  ∀ c ∈ s.calls, c.process = process → c.stage.isRunning = false

/-- From one state to another, the counters of a process go on with its calls; some of its flights
have started their jobs, and some of its calls have joined flights. -/
structure Counts (process started joined : Nat) (s t : CacheCluster σ ω) : Prop where
  processes : t.processes.length = s.processes.length
  hits : (t.stats process).hits + s.countCalls process CallStage.isHit =
    (s.stats process).hits + t.countCalls process CallStage.isHit
  misses : (t.stats process).misses + s.countCalls process CallStage.isMiss =
    (s.stats process).misses + t.countCalls process CallStage.isMiss
  executions : (t.stats process).executions = (s.stats process).executions + started
  coalesced : (t.stats process).coalesced = (s.stats process).coalesced + joined
  ran : s.countFlights process FlightStage.mayHaveRun + started ≤
    t.countFlights process FlightStage.mayHaveRun
  cached : s.Cached process → t.Cached process

theorem countCalls_setCall {s : CacheCluster σ ω} {id : Nat} {c : CacheCall ω}
    (hc : s.calls[id]? = some c) (process : Nat) (kind : CallStage → Bool) (stage : CallStage) :
    (s.setCall id stage).countCalls process kind +
        (if c.process = process then (kind c.stage).toNat else 0) =
      s.countCalls process kind + if c.process = process then (kind stage).toNat else 0 := by
  have count := countP_modify (fun c => c.process == process && kind c.stage) hc
    fun c => { c with stage }
  by_cases own : c.process = process <;>
    simpa [beq_eq_decide, own, countCalls, setCall] using count

theorem countFlights_setFlight {s : CacheCluster σ ω} {id : Nat} {f : Flight ω}
    (hf : s.flights[id]? = some f) (process : Nat) (kind : FlightStage → Bool)
    (stage : FlightStage) : (s.setFlight id stage).countFlights process kind +
        (if f.process = process then (kind f.stage).toNat else 0) =
      s.countFlights process kind + if f.process = process then (kind stage).toNat else 0 := by
  have count := countP_modify (fun f => f.process == process && kind f.stage) hf
    fun f => { f with stage }
  by_cases own : f.process = process <;>
    simpa [beq_eq_decide, own, countFlights, setFlight] using count

theorem cached_setCall {s : CacheCluster σ ω} {process id : Nat} {stage : CallStage}
    (idle : stage.isRunning = false) (cached : s.Cached process) :
    (s.setCall id stage).Cached process := by
  intro c hc own
  obtain ⟨i, hc⟩ := List.getElem?_of_mem hc
  rcases of_setCall hc with ⟨-, hc⟩ | ⟨-, old, -, rfl⟩
  · exact cached c (List.mem_of_getElem? hc) own
  · exact idle

namespace Counts

variable {process started joined started' joined' id : Nat} {s t u : CacheCluster σ ω}

theorem of_tally (counts : Counts process started joined s t) (h : u.tally = t.tally) :
    Counts process started joined s u := by
  obtain ⟨processes, hits, misses, executions, coalesced, ran, cached⟩ := counts
  have stats := stats_principal_of_tally h process
  have calls : u.calls = t.calls := congrArg Tally.calls h
  have flights : u.flights = t.flights := congrArg Tally.flights h
  have length : u.processes.length = t.processes.length := by
    simpa [tally] using congrArg (fun tally => tally.stats.length) h
  have same {β : Type} (field : CacheStats → β) (h : ∀ n, field n.principal = field n) :
      field (u.stats process) = field (t.stats process) := by rw [← h, stats, h]
  refine ⟨length.trans processes, ?_, ?_, ?_, ?_, ?_, ?_⟩
  · rwa [same (·.hits) fun _ => rfl, countCalls, countCalls, calls]
  · rwa [same (·.misses) fun _ => rfl, countCalls, countCalls, calls]
  · rwa [same (·.executions) fun _ => rfl]
  · rwa [same (·.coalesced) fun _ => rfl]
  · rwa [countFlights, countFlights, flights]
  · rwa [Cached, Cached, calls]

theorem refl (s : CacheCluster σ ω) : Counts process 0 0 s s :=
  ⟨rfl, rfl, rfl, rfl, rfl, Nat.le_refl _, id⟩

theorem trans (h : Counts process started joined s t) (h' : Counts process started' joined' t u) :
    Counts process (started + started') (joined + joined') s u where
  processes := h'.processes.trans h.processes
  hits := by have := h.hits; have := h'.hits; omega
  misses := by have := h.misses; have := h'.misses; omega
  executions := by have := h.executions; have := h'.executions; omega
  coalesced := by have := h.coalesced; have := h'.coalesced; omega
  ran := by have := h.ran; have := h'.ran; omega
  cached := h'.cached ∘ h.cached

/-- A call that goes on is counted for what it comes to. -/
theorem setCall {c : CacheCall ω} (hc : s.calls[id]? = some c)
    (known : process < s.processes.length) {change : CacheStats → CacheStats} {stage : CallStage}
    (idle : stage.isRunning = false)
    (hits : ∀ n, (change n).hits + c.stage.isHit.toNat = n.hits + stage.isHit.toNat)
    (misses : ∀ n, (change n).misses + c.stage.isMiss.toNat = n.misses + stage.isMiss.toNat)
    (executions : ∀ n, (change n).executions = n.executions)
    (coalesced : ∀ n, (change n).coalesced = n.coalesced + joined) :
    Counts process 0 (if c.process = process then joined else 0) s
      ((s.count c.process change).setCall id stage) := by
  let t := (s.count c.process change).setCall id stage
  have stats : t.stats process = if c.process = process then change (s.stats process) else
      s.stats process := stats_count known c.process change
  have calls (kind : CallStage → Bool) :
      t.countCalls process kind + (if c.process = process then (kind c.stage).toNat else 0) =
        s.countCalls process kind + if c.process = process then (kind stage).toNat else 0 :=
    countCalls_setCall (show (s.count c.process change).calls[id]? = some c from hc) process kind
      stage
  have hitCalls := calls CallStage.isHit
  have missCalls := calls CallStage.isMiss
  have hits := hits (s.stats process)
  have misses := misses (s.stats process)
  have cached (cached : s.Cached process) : t.Cached process := cached_setCall idle cached
  change Counts process 0 _ s t
  by_cases own : c.process = process
  · simp only [if_pos own] at stats hitCalls missCalls ⊢
    exact {
      processes := List.length_modify ..
      hits := by rw [stats]; omega
      misses := by rw [stats]; omega
      executions := by rw [stats, executions, Nat.add_zero]
      coalesced := by rw [stats, coalesced]
      ran := Nat.le_refl _
      cached }
  · simp only [if_neg own] at stats hitCalls missCalls ⊢
    exact {
      processes := List.length_modify ..
      hits := by rw [stats]; omega
      misses := by rw [stats]; omega
      executions := by rw [stats, Nat.add_zero]
      coalesced := by rw [stats, Nat.add_zero]
      ran := Nat.le_refl _
      cached }

/-- A flight that starts its job is counted as an execution. -/
theorem setFlight {f : Flight ω} (hf : s.flights[id]? = some f)
    (known : process < s.processes.length) {change : CacheStats → CacheStats} {stage : FlightStage}
    (executions : ∀ n, change n = { n with executions := n.executions + started })
    (ran : f.stage.mayHaveRun.toNat + started ≤ stage.mayHaveRun.toNat) :
    Counts process (if f.process = process then started else 0) 0 s
      ((s.count f.process change).setFlight id stage) := by
  let t := (s.count f.process change).setFlight id stage
  have stats : t.stats process = if f.process = process then change (s.stats process) else
      s.stats process := stats_count known f.process change
  have flights : t.countFlights process FlightStage.mayHaveRun +
      (if f.process = process then f.stage.mayHaveRun.toNat else 0) =
        s.countFlights process FlightStage.mayHaveRun +
          if f.process = process then stage.mayHaveRun.toNat else 0 :=
    countFlights_setFlight (show (s.count f.process change).flights[id]? = some f from hf) process
      FlightStage.mayHaveRun stage
  change Counts process _ 0 s t
  by_cases own : f.process = process
  · simp only [if_pos own, executions] at stats flights ⊢
    exact {
      processes := List.length_modify ..
      hits := by rw [stats]; rfl
      misses := by rw [stats]; rfl
      executions := by rw [stats]
      coalesced := by rw [stats, Nat.add_zero]
      ran := by omega
      cached := fun cached => cached }
  · simp only [if_neg own] at stats flights ⊢
    exact {
      processes := List.length_modify ..
      hits := by rw [stats]; rfl
      misses := by rw [stats]; rfl
      executions := by rw [stats, Nat.add_zero]
      coalesced := by rw [stats, Nat.add_zero]
      ran := by omega
      cached := fun cached => cached }

theorem withCall (s : CacheCluster σ ω) {c : CacheCall ω} (hit : c.stage.isHit = false)
    (miss : c.stage.isMiss = false)
    (caching : c.process = process → c.stage.isRunning = false) :
    Counts process 0 0 s { s with calls := s.calls ++ [c] } where
  processes := rfl
  hits := by simp only [countCalls, countP_concat, hit, Bool.and_false]; rfl
  misses := by simp only [countCalls, countP_concat, miss, Bool.and_false]; rfl
  executions := rfl
  coalesced := rfl
  ran := Nat.le_refl _
  cached cached d hd own := by
    rcases List.mem_append.1 hd with hd | hd
    · exact cached d hd own
    · cases List.mem_singleton.1 hd
      exact caching own

theorem withFlight (s : CacheCluster σ ω) (f : Flight ω) :
    Counts process 0 0 s { s with flights := s.flights ++ [f] } where
  processes := rfl
  hits := rfl
  misses := rfl
  executions := rfl
  coalesced := rfl
  ran := by
    rw [countFlights, countFlights, countP_concat]
    exact Nat.le_add_right ..
  cached := id

end Counts

/-! ## who starts a job -/

section Started

variable {s t u : CacheCluster σ ω} {id process : Nat}

theorem runs_call :
    (s.job? (.call id)).isSome = true ↔ ∃ c, s.calls[id]? = some c ∧ c.stage.isRunning = true := by
  cases h : s.calls[id]? with
  | none => simp [job?, h]
  | some c => cases hr : c.stage.isRunning <;> simp [job?, h, hr, guard, failure]

theorem runs_flight : (s.job? (.flight id)).isSome = true ↔
    ∃ f, s.flights[id]? = some f ∧ f.stage.isRunning = true := by
  cases h : s.flights[id]? with
  | none => simp [job?, h]
  | some f => cases hr : f.stage.isRunning <;> simp [job?, h, hr, guard, failure]

/-- Who runs a job after has run it before. -/
def StartsNone (s t : CacheCluster σ ω) : Prop :=
  ∀ runner, (t.job? runner).isSome = true → (s.job? runner).isSome = true

theorem StartsNone.trans (h : s.StartsNone t) (h' : t.StartsNone u) : s.StartsNone u :=
  fun runner runs => h runner (h' runner runs)

theorem startsNone_of_eq (calls : t.calls = s.calls) (flights : t.flights = s.flights) :
    s.StartsNone t := by
  intro runner runs
  cases runner with
  | call id => rwa [runs_call, calls, ← runs_call] at runs
  | flight id => rwa [runs_flight, flights, ← runs_flight] at runs

theorem startsNone_setCall {stage : CallStage} (idle : stage.isRunning = false) :
    s.StartsNone (s.setCall id stage) := by
  intro runner runs
  cases runner with
  | flight i => exact runs
  | call i =>
    obtain ⟨c, hc, runs⟩ := runs_call.1 runs
    rcases of_setCall hc with ⟨-, hc⟩ | ⟨-, old, -, rfl⟩
    · exact runs_call.2 ⟨c, hc, runs⟩
    · cases idle.symm.trans runs

theorem startsNone_setFlight {stage : FlightStage} (idle : stage.isRunning = false) :
    s.StartsNone (s.setFlight id stage) := by
  intro runner runs
  cases runner with
  | call i => exact runs
  | flight i =>
    obtain ⟨f, hf, runs⟩ := runs_flight.1 runs
    rcases of_setFlight hf with ⟨-, hf⟩ | ⟨-, old, -, rfl⟩
    · exact runs_flight.2 ⟨f, hf, runs⟩
    · cases idle.symm.trans runs

theorem startsNone_withFlight {f : Flight ω} (idle : f.stage.isRunning = false) :
    s.StartsNone { s with flights := s.flights ++ [f] } := by
  intro runner runs
  cases runner with
  | call i => exact runs
  | flight i =>
    obtain ⟨g, hg, running⟩ := runs_flight.1 runs
    rcases of_concat hg with hg | ⟨-, rfl⟩
    · exact runs_flight.2 ⟨g, hg, running⟩
    · cases idle.symm.trans running

theorem nodup_runners (s : CacheCluster σ ω) : s.runners.Nodup := by
  rw [runners, List.nodup_append]
  refine ⟨List.nodup_range.map fun _ _ => Runner.call.inj,
    List.nodup_range.map fun _ _ => Runner.flight.inj, ?_⟩
  simp

theorem jobsStarted_eq_zero (none : ∀ runner, t.isOf process runner = true →
    (t.job? runner).isSome = true → (s.job? runner).isSome = true) :
    s.jobsStarted process t = 0 := by
  refine List.countP_eq_zero.2 fun runner _ starts => ?_
  simp only [Bool.and_eq_true, Option.isNone_iff_eq_none] at starts
  obtain ⟨⟨own, idle⟩, runs⟩ := starts
  have runs := none runner own runs
  rw [idle] at runs
  cases runs

theorem jobsStarted_setFlight {f : Flight ω} (hf : s.flights[id]? = some f) {stage : FlightStage}
    (calls : t.calls = s.calls) (flights : t.flights = (s.setFlight id stage).flights) :
    s.jobsStarted process t =
      if f.process = process then (!f.stage.isRunning && stage.isRunning).toNat else 0 := by
  have there : t.flights[id]? = some { f with stage } := by
    rw [flights, setFlight, List.getElem?_modify_eq, hf]
    rfl
  have mem : Runner.flight id ∈ t.runners := by
    simpa [runners] using (List.getElem?_eq_some_iff.1 there).1
  unfold jobsStarted
  rw [countP_of_only t.nodup_runners mem ?_]
  · have own : t.isOf process (.flight id) = (f.process == process) := by
      simp [isOf, request?, there]
    have idle : (s.job? (.flight id)).isNone = !f.stage.isRunning := by
      cases h : f.stage.isRunning <;> simp [job?, hf, h, guard, failure]
    have runs : (t.job? (.flight id)).isSome = stage.isRunning := by
      cases h : stage.isRunning <;> simp [job?, there, h, guard, failure]
    rw [own, idle, runs]
    by_cases own : f.process = process <;> simp [own, beq_eq_decide]
  · intro runner starts
    simp only [Bool.and_eq_true, Option.isNone_iff_eq_none] at starts
    obtain ⟨⟨-, idle⟩, runs⟩ := starts
    have runsBefore (before : (s.job? runner).isSome = true) : runner = .flight id := by
      rw [idle] at before
      cases before
    cases runner with
    | call i =>
      rw [runs_call, calls] at runs
      exact runsBefore (runs_call.2 runs)
    | flight i =>
      obtain ⟨g, hg, runs⟩ := runs_flight.1 runs
      rw [flights] at hg
      rcases of_setFlight hg with ⟨-, hg⟩ | ⟨rfl, -⟩
      · exact runsBefore (runs_flight.2 ⟨g, hg, runs⟩)
      · rfl

end Started

/-! ## who joins a flight -/

section Joined

variable {s t : CacheCluster σ ω} {id process : Nat}

theorem callsJoined_eq_zero
    (kept : ∀ (call : Nat) (c : CacheCall ω), s.calls[call]? = some c → t.calls[call]? = some c) :
    s.callsJoined process t = 0 := by
  refine List.countP_eq_zero.2 fun call _ joins => ?_
  simp only [Bool.and_eq_true, Option.any_eq_true] at joins
  obtain ⟨⟨-, c, hc, joining⟩, d, hd, flight, keeps, -⟩ := joins
  cases (kept call c hc).symm.trans hd
  rw [CallStage.isJoining_iff.1 joining] at keeps
  cases keeps

theorem callsJoined_setCall {c : CacheCall ω} (hc : s.calls[id]? = some c) {stage : CallStage}
    (calls : t.calls = (s.setCall id stage).calls) : s.callsJoined process t =
      if c.process = process then
        (c.stage.isJoining && stage.flight?.any (· < s.flights.length)).toNat else 0 := by
  have there : t.calls[id]? = some { c with stage } := by
    rw [calls, setCall, List.getElem?_modify_eq, hc]
    rfl
  have mem : id ∈ List.range s.calls.length :=
    List.mem_range.2 (List.getElem?_eq_some_iff.1 hc).1
  unfold callsJoined
  rw [countP_of_only List.nodup_range mem ?_]
  · have own : s.isOf process (.call id) = (c.process == process) := by
      simp [isOf, request?, hc]
    rw [own, hc, there, Option.any_some, Option.any_some]
    by_cases own : c.process = process <;> simp [own, beq_eq_decide]
  · intro call joins
    simp only [Bool.and_eq_true, Option.any_eq_true] at joins
    obtain ⟨⟨-, d, hd, joining⟩, e, he, flight, keeps, -⟩ := joins
    rw [calls] at he
    rcases of_setCall he with ⟨-, he⟩ | ⟨rfl, -⟩
    · cases hd.symm.trans he
      rw [CallStage.isJoining_iff.1 joining] at keeps
      cases keeps
    · rfl

end Joined

/-! ## steps -/

/-- The executions that are counted are the jobs that start, and the coalesced calls those that
join a flight. -/
def Tallies (process : Nat) (s t : CacheCluster σ ω) : Prop :=
  Counts process (s.jobsStarted process t) (s.callsJoined process t) s t

section Steps

variable {s t u : CacheCluster σ ω} {id process : Nat}

theorem Tallies.of_tally (tallies : Tallies process s t) (h : u.tally = t.tally) :
    Tallies process s u := by
  have calls : u.calls = t.calls := congrArg Tally.calls h
  have flights : u.flights = t.flights := congrArg Tally.flights h
  have job : u.job? = t.job? := by
    funext runner
    cases runner <;> simp only [job?, calls, flights]
  have request : u.request? = t.request? := by
    funext runner
    cases runner <;> simp only [request?, calls, flights]
  have started : s.jobsStarted process u = s.jobsStarted process t := by
    simp only [jobsStarted, runners, isOf, calls, flights, job, request]
  have joined : s.callsJoined process u = s.callsJoined process t := by
    simp only [callsJoined, calls]
  rw [Tallies, started, joined]
  exact Counts.of_tally tallies h

theorem tallies_of_counts (counts : Counts process 0 0 s t) (none : s.StartsNone t)
    (joined : s.callsJoined process t = 0) : Tallies process s t := by
  rwa [Tallies, jobsStarted_eq_zero fun runner _ => none runner, joined]

theorem Tallies.refl (s : CacheCluster σ ω) : Tallies process s s :=
  tallies_of_counts (.refl s) (startsNone_of_eq rfl rfl) (callsJoined_eq_zero fun _ _ h => h)

theorem tallies_setCall {c : CacheCall ω} (hc : s.calls[id]? = some c)
    (known : process < s.processes.length) {change : CacheStats → CacheStats} {stage : CallStage}
    (idle : stage.isRunning = false)
    (hits : ∀ n, (change n).hits + c.stage.isHit.toNat = n.hits + stage.isHit.toNat)
    (misses : ∀ n, (change n).misses + c.stage.isMiss.toNat = n.misses + stage.isMiss.toNat)
    (executions : ∀ n, (change n).executions = n.executions)
    (coalesced : ∀ n, (change n).coalesced = n.coalesced +
      (c.stage.isJoining && stage.flight?.any (· < s.flights.length)).toNat) :
    Tallies process s ((s.count c.process change).setCall id stage) := by
  have started : s.jobsStarted process ((s.count c.process change).setCall id stage) = 0 :=
    jobsStarted_eq_zero fun runner _ => startsNone_setCall idle runner
  have joined : s.callsJoined process ((s.count c.process change).setCall id stage) = _ :=
    callsJoined_setCall hc rfl
  rw [Tallies, started, joined]
  exact .setCall hc known idle hits misses executions coalesced

/-- A call that goes on without being counted. -/
theorem counts_setCall {c : CacheCall ω} (hc : s.calls[id]? = some c)
    (known : process < s.processes.length) {stage : CallStage} (idle : stage.isRunning = false)
    (hits : c.stage.isHit = stage.isHit) (misses : c.stage.isMiss = stage.isMiss) :
    Counts process 0 0 s (s.setCall id stage) := by
  have silent := (s.tally_count c.process fun _ => rfl).symm
  have counts : Counts process 0 (if c.process = process then 0 else 0) s
      ((s.count c.process fun n => n).setCall id stage) :=
    .setCall hc known idle (fun n => by rw [hits]) (fun n => by rw [misses]) (fun _ => rfl)
      fun _ => rfl
  rw [ite_self] at counts
  exact counts.of_tally (tally_setCall silent ..)

theorem tallies_setCall_silent {c : CacheCall ω} (hc : s.calls[id]? = some c)
    (known : process < s.processes.length) {stage : CallStage} (idle : stage.isRunning = false)
    (hits : c.stage.isHit = stage.isHit) (misses : c.stage.isMiss = stage.isMiss)
    (boards : (c.stage.isJoining && stage.flight?.any (· < s.flights.length)) = false) :
    Tallies process s (s.setCall id stage) := by
  refine tallies_of_counts (counts_setCall hc known idle hits misses) (startsNone_setCall idle) ?_
  rw [callsJoined_setCall hc rfl, boards]
  exact ite_self 0

/-- What a call of another process does is not counted. -/
theorem tallies_setCall_other {c : CacheCall ω} (hc : s.calls[id]? = some c)
    (other : c.process ≠ process) {stage : CallStage} (idle : stage.isRunning = false) :
    Tallies process s (s.setCall id stage) := by
  have calls (kind : CallStage → Bool) :
      (s.setCall id stage).countCalls process kind = s.countCalls process kind := by
    have count := countCalls_setCall hc process kind stage
    rwa [if_neg other, if_neg other] at count
  refine tallies_of_counts ⟨rfl, ?_, ?_, rfl, rfl, Nat.le_refl _, cached_setCall idle⟩
    (startsNone_setCall idle) ?_
  · rw [calls]; rfl
  · rw [calls]; rfl
  · rw [callsJoined_setCall hc rfl, if_neg other]

theorem AllAboard.lt_of_flightOf? (all : s.AllAboard) {key : CacheKey} {flight : Nat}
    (h : s.flightOf? process key = some flight) : flight < s.flights.length := by
  obtain ⟨f, hf, -⟩ := all.of_flightOf? h
  exact (List.getElem?_eq_some_iff.1 hf).1

theorem CallCount.tallies {c : CacheCall ω} (count : CallCount s id c t)
    (hc : s.calls[id]? = some c) (known : process < s.processes.length) (all : s.AllAboard) :
    Tallies process s t := by
  have pending (pending : c.stage.isPending = true) :
      c.stage.isHit = false ∧ c.stage.isMiss = false := by
    cases h : c.stage <;> simp_all [CallStage.isPending, CallStage.isHit, CallStage.isMiss]
  cases count with
  | hit answer waits hit =>
    obtain ⟨noHit, noMiss⟩ := pending waits
    have noMiss' : (CallStage.returned answer).isMiss = false := by
      cases answer <;> simp_all [CallStage.isHit, CallStage.isMiss]
    refine tallies_setCall hc known rfl (fun n => ?_) (fun n => ?_) (fun _ => rfl) fun n => ?_
    · rw [noHit, hit]; rfl
    · rw [noMiss, noMiss']
    · simp [CallStage.flight?]
  | miss answer waits miss =>
    obtain ⟨noHit, noMiss⟩ := pending waits
    have noHit' : (CallStage.returned answer).isHit = false := by
      cases answer <;> simp_all [CallStage.isHit, CallStage.isMiss]
    refine tallies_setCall hc known rfl (fun n => ?_) (fun n => ?_) (fun _ => rfl) fun n => ?_
    · rw [noHit, noHit']
    · rw [noMiss, miss]; rfl
    · simp [CallStage.flight?]
  | looked looks =>
    refine tallies_setCall_silent hc known rfl ?_ ?_ ?_ <;> rw [looks] <;> rfl
  | joins joins found =>
    refine tallies_setCall hc known rfl (fun n => ?_) (fun n => ?_) (fun _ => rfl) fun n => ?_
    · rw [joins]; rfl
    · rw [joins]; rfl
    · simp [joins, CallStage.isJoining, CallStage.flight?, all.lt_of_flightOf? found]
  | starts joins =>
    let launched : CacheCluster σ ω := { s with flights := s.flights ++ [s.newFlight c] }
    let flies : CacheCluster σ ω := launched.setCall id (.flying s.flights.length)
    have there : launched.calls[id]? = some c := hc
    have counts : Counts process 0 0 launched flies :=
      counts_setCall there known rfl (by rw [joins]; rfl) (by rw [joins]; rfl)
    have none : s.StartsNone flies := (startsNone_withFlight rfl).trans (startsNone_setCall rfl)
    have calls : flies.calls = (s.setCall id (.flying s.flights.length)).calls := rfl
    have joined : s.callsJoined process flies = _ := callsJoined_setCall hc calls
    refine tallies_of_counts ((Counts.withFlight s _).trans counts) none (joined.trans ?_)
    simp [CallStage.flight?]
  | landed flies =>
    refine tallies_setCall_silent hc known rfl ?_ ?_ ?_ <;> rw [flies] <;> rfl
  | stays => exact .refl s

/-- A flight that goes on without being counted. -/
theorem counts_setFlight {f : Flight ω} (hf : s.flights[id]? = some f)
    (known : process < s.processes.length) {stage : FlightStage}
    (ran : f.stage.mayHaveRun = true → stage.mayHaveRun = true) :
    Counts process 0 0 s (s.setFlight id stage) := by
  have silent := (s.tally_count f.process fun _ => rfl).symm
  have counts : Counts process (if f.process = process then 0 else 0) 0 s
      ((s.count f.process fun n => n).setFlight id stage) :=
    .setFlight hf known (fun _ => rfl) (Bool.toNat_le_toNat ran)
  rw [ite_self] at counts
  exact counts.of_tally (tally_setFlight silent ..)

theorem FlightCount.tallies {f : Flight ω} (count : FlightCount s id f t)
    (hf : s.flights[id]? = some f) (known : process < s.processes.length) :
    Tallies process s t := by
  cases count with
  | @starts renewal idle =>
    have ready : f.stage.isRunning = false ∧ f.stage.mayHaveRun = false := by
      cases h : f.stage <;>
        simp_all [FlightStage.phase, FlightStage.isRunning, FlightStage.mayHaveRun]
    let runs := (s.count f.process fun n =>
      { n with executions := n.executions + 1 }).setFlight id (.running renewal)
    have started : s.jobsStarted process runs = if f.process = process then 1 else 0 := by
      have started : s.jobsStarted process runs = _ := jobsStarted_setFlight hf rfl rfl
      rwa [ready.1] at started
    have joined : s.callsJoined process runs = 0 := callsJoined_eq_zero fun _ _ h => h
    rw [Tallies, started, joined]
    exact .setFlight hf known (fun _ => rfl) (by rw [ready.2]; exact Nat.le_refl 1)
  | goesOn stage runs ran =>
    refine tallies_of_counts (counts_setFlight hf known ran) ?_ (callsJoined_eq_zero fun _ _ h => h)
    intro runner running
    cases runner with
    | call i => exact running
    | flight i =>
      obtain ⟨g, hg, running⟩ := runs_flight.1 running
      rcases of_setFlight hg with ⟨-, hg⟩ | ⟨rfl, old, hold, rfl⟩
      · exact runs_flight.2 ⟨g, hg, running⟩
      · cases hf.symm.trans hold
        exact runs_flight.2 ⟨f, hf, runs running⟩

theorem tallies_complete (known : process < s.processes.length)
    (cached : s.Cached process) (runner : Runner)
    (result : Except GatewayError RowSet) : Tallies process s (s.complete runner result) := by
  have ends {id : Nat} {f : Flight ω} {stage : FlightStage} (hf : s.flights[id]? = some f)
      (idle : stage.isRunning = false) (ran : stage.mayHaveRun = true) :
      Tallies process s (s.setFlight id stage) :=
    tallies_of_counts (counts_setFlight hf known fun _ => ran) (startsNone_setFlight idle)
      (callsJoined_eq_zero fun _ _ h => h)
  have move := s.complete_move runner result
  generalize s.complete runner result = t at move
  cases move with
  | answered hc runs =>
    refine tallies_setCall_other hc (fun own => ?_) rfl
    have idle := cached _ (List.mem_of_getElem? hc) own
    rw [runs] at idle
    cases idle
  | succeeded hf _ _ | failed hf _ _ => exact ends hf rfl rfl
  | landed hf _ => exact ends hf rfl (by cases result <;> rfl)
  | stays => exact .refl s

theorem tallies_cancel (known : process < s.processes.length) (id : Nat) :
    Tallies process s (s.cancel id) := by
  cases hc : s.calls[id]? with
  | none =>
    rw [cancel, hc]
    exact .refl s
  | some c =>
    by_cases pending : c.stage.isPending = true
    · have silent : c.stage.isHit = false ∧ c.stage.isMiss = false := by
        cases h : c.stage <;> simp_all [CallStage.isPending, CallStage.isHit, CallStage.isMiss]
      have counts : Counts process 0 0 s (s.setCall id .cancelled) :=
        counts_setCall hc known rfl silent.1 silent.2
      have joined {t : CacheCluster σ ω} (calls : t.calls = (s.setCall id .cancelled).calls) :
          s.callsJoined process t = 0 := by
        rw [callsJoined_setCall hc calls]
        simp [CallStage.flight?]
      rcases s.cancel_cases id with eq | eq | ⟨flight, -, eq⟩ <;> rw [eq]
      · exact .refl s
      · exact tallies_of_counts counts (startsNone_setCall rfl) (joined rfl)
      · rcases (s.setCall id .cancelled).desert_cases flight with
          eq | ⟨f, lease, hf, -, -, eq⟩ <;> rw [eq]
        · exact tallies_of_counts counts (startsNone_setCall rfl) (joined rfl)
        · have deserts : Counts process 0 0 (s.setCall id .cancelled)
              ((s.setCall id .cancelled).setFlight flight .deserted) :=
            counts_setFlight hf known fun _ => rfl
          have none : s.StartsNone ((s.setCall id .cancelled).setFlight flight .deserted) :=
            (startsNone_setCall rfl).trans (startsNone_setFlight rfl)
          have tallies := tallies_of_counts (counts.trans deserts) none (joined rfl)
          exact tallies.of_tally rfl
    · rw [cancel, hc]
      simp only [if_neg pending]
      exact .refl s

theorem tallies_arrive {request : CacheRequest ω}
    (caching : request.process = process → request.ttl ≠ .zero) :
    Tallies process s (s.arrive request) := by
  let stage : CallStage := if request.ttl = .zero then .running else .looking
  let c : CacheCall ω := { request with started := s.now.clock, stage }
  have caches (own : request.process = process) : c.stage.isRunning = false := by
    simp only [c, stage, if_neg (caching own)]
    rfl
  have counts : Counts process 0 0 s { s with calls := s.calls ++ [c] } := by
    refine .withCall s ?_ ?_ caches <;> · simp only [c, stage]; split <;> rfl
  have none (runner : Runner) (own : (s.arrive request).isOf process runner = true)
      (runs : ((s.arrive request).job? runner).isSome = true) :
      (s.job? runner).isSome = true := by
    cases runner with
    | flight i => exact runs
    | call i =>
      obtain ⟨d, hd, running⟩ := runs_call.1 runs
      rcases of_concat hd with old | ⟨-, rfl⟩
      · exact runs_call.2 ⟨d, old, running⟩
      · rw [isOf, request?_of_call hd, Option.any_some, beq_iff_eq] at own
        cases (caches own).symm.trans running
  rw [Tallies, jobsStarted_eq_zero none,
    callsJoined_eq_zero fun _ _ h => getElem?_concat_of_some h c]
  exact counts

variable [SharedStore σ String]

theorem tallies_step (known : process < s.processes.length) (all : s.AllAboard)
    (cached : s.Cached process) {event : CacheEvent ω} (caching : ∀ request,
      event = .arrive request → request.process = process → request.ttl ≠ .zero) :
    Tallies process s (s.step event) := by
  have unchanged {t : CacheCluster σ ω} (same : t.tally = s.tally) : Tallies process s t :=
    (Tallies.refl s).of_tally same
  cases event with
  | tick now => exact unchanged rfl
  | arrive request => exact tallies_arrive (caching request rfl)
  | stepCall id failing =>
    cases hc : s.calls[id]? with
    | none =>
      rw [step, stepCall_of_none hc]
      exact unchanged rfl
    | some c =>
      obtain ⟨t, count, same⟩ := stepCall_count failing hc
      exact (count.tallies hc known all).of_tally same
  | stepFlight id failing =>
    cases hf : s.flights[id]? with
    | none =>
      rw [step, stepFlight_of_none hf]
      exact unchanged rfl
    | some f =>
      obtain ⟨t, count, same⟩ := stepFlight_count failing hf
      exact (count.tallies hf known).of_tally same
  | complete runner result => exact tallies_complete known cached runner result
  | cancel id => exact tallies_cancel known id
  | releaseAbandoned failing =>
    rcases s.releaseAbandoned_cases failing with eq | ⟨a, rest, -, eq⟩
    all_goals
      rw [step, eq]
      exact unchanged rfl
  | purge failing => exact unchanged rfl

end Steps

/-! ## runs -/

section Runs

variable [SharedStore σ String] {start : CacheCluster σ ω} {process : Nat}
  {events : List (CacheEvent ω)}

/-- No request to a process is for results that are good for no time at all. -/
def Caches (process : Nat) (events : List (CacheEvent ω)) : Prop :=
  ∀ request, .arrive request ∈ events → request.process = process → request.ttl ≠ .zero

theorem counts_run (known : process < start.processes.length) (all : start.AllAboard)
    (cached : start.Cached process) (caches : Caches process events) :
    Counts process (start.total (jobsStarted process) events)
      (start.total (callsJoined process) events) start (start.run events) := by
  induction events using List.reverseRecOn with
  | nil => exact .refl start
  | append_singleton events event ih =>
    have counts := ih fun request mem => caches request (List.mem_append_left _ mem)
    have aboard : (start.run events).AllAboard :=
      run_of_prefix (P := AllAboard) (fun _ event all => all.step event) List.nil_prefix @all
    rw [total_concat, total_concat, run_concat]
    refine counts.trans (tallies_step (counts.processes ▸ known) aboard (counts.cached cached) ?_)
    rintro request rfl
    exact caches request (List.mem_append_right _ (List.mem_singleton_self _))

/-- A flight that may have run its job has been started by a call, which is a miss if it has
returned. -/
theorem exists_miss (none : start.flights = []) {flight : Nat} {f : Flight ω}
    (hf : (start.run events).flights[flight]? = some f) (ran : f.stage.mayHaveRun = true)
    (returned : ∀ c ∈ (start.run events).calls, c.process = f.process →
      c.stage.result?.isSome = true) :
    ∃ call c, (start.run events).calls[call]? = some c ∧ c.process = f.process ∧
      c.stage.isMiss = true ∧ start.Launches events call flight := by
  obtain ⟨call, launches⟩ := exists_launches none events (List.getElem?_eq_some_iff.1 hf).1
  obtain ⟨c, f', hc, hf', boards⟩ := launches.isAboard
  cases hf.symm.trans hf'
  have same : c.toCacheRequest = f.toCacheRequest := by
    have own := (Owns.flight launches).request?
    rw [request?_of_flight hf, request?_of_call hc] at own
    exact (Option.some.inj own).symm
  have own : c.process = f.process := congrArg CacheRequest.process same
  refine ⟨call, c, hc, own, ?_, launches⟩
  have home := returned c (List.mem_of_getElem? hc) own
  cases boards with
  | returned now answers lands =>
    rw [lands] at ran
    rw [answers, isMiss_answer]
    exact ran
  | flies stage | leaves stage | cancelled stage =>
    rw [stage] at home
    cases home

/-- What the counters of a process say of a run. -/
structure Balances (start : CacheCluster σ ω) (events : List (CacheEvent ω)) (process : Nat) :
    Prop where
  returned : ((start.run events).stats process).hits + ((start.run events).stats process).misses =
    (start.run events).countCalls process (·.result?.isSome)
  hits : ((start.run events).stats process).hits =
    (start.run events).countCalls process CallStage.isHit
  misses : ((start.run events).stats process).misses =
    (start.run events).countCalls process CallStage.isMiss
  executions : ((start.run events).stats process).executions =
    start.total (jobsStarted process) events
  coalesced : ((start.run events).stats process).coalesced =
    start.total (callsJoined process) events
  /-- If no call has been cancelled and all have returned, each execution has a miss of its own. -/
  covered : (∀ c ∈ (start.run events).calls, c.process = process →
    c.stage.result?.isSome = true) →
    ((start.run events).stats process).executions ≤ ((start.run events).stats process).misses

/-- The counters of a cache balance, whatever happens. -/
theorem counters_balance (settings : LeaseSettings) {processes process : Nat} (now : Moment)
    (store : σ) {events : List (CacheEvent ω)} (known : process < processes)
    (caches : Caches process events) :
    (fresh settings processes now store : CacheCluster σ ω).Balances events process := by
  let start : CacheCluster σ ω := .fresh settings processes now store
  have counts : Counts process _ _ start (start.run events) :=
    counts_run (by simpa [start, fresh] using known) nofun nofun caches
  have zero : start.stats process = {} := by simp [start, stats, fresh, known]
  have nobody (kind : CallStage → Bool) : start.countCalls process kind = 0 := rfl
  have hits : ((start.run events).stats process).hits =
      (start.run events).countCalls process CallStage.isHit := by
    simpa only [zero, nobody, Nat.zero_add, Nat.add_zero] using counts.hits
  have misses : ((start.run events).stats process).misses =
      (start.run events).countCalls process CallStage.isMiss := by
    simpa only [zero, nobody, Nat.zero_add, Nat.add_zero] using counts.misses
  have executions : ((start.run events).stats process).executions =
      start.total (jobsStarted process) events := by
    simpa only [zero, Nat.zero_add] using counts.executions
  have coalesced : ((start.run events).stats process).coalesced =
      start.total (callsJoined process) events := by
    simpa only [zero, Nat.zero_add] using counts.coalesced
  refine ⟨?_, hits, misses, executions, coalesced, fun home => ?_⟩
  · refine (congrArg₂ (· + ·) hits misses).trans (countP_add_countP (fun c => ?_) _)
    cases c.process == process
    · rfl
    · exact c.stage.hit_or_miss
  · refine (executions.trans_le ((Nat.le_add_left ..).trans counts.ran)).trans
      (Nat.le_trans ?_ misses.ge)
    refine countP_le_countP_of_relation (fun flight call => start.Launches events call flight)
      (fun flight f hf ran => ?_) fun _ _ _ => Launches.unique
    simp only [Bool.and_eq_true, beq_iff_eq] at ran
    obtain ⟨own, ran⟩ := ran
    have home : ∀ c ∈ (start.run events).calls, c.process = f.process →
        c.stage.result?.isSome = true := fun c hc same => home c hc (same.trans own)
    obtain ⟨call, c, hc, same, miss, launches⟩ := exists_miss rfl hf ran home
    exact ⟨call, c, hc, by simp [same, own, miss], launches⟩

end Runs

/-! ## two processes -/

namespace CountersSample

def request (process : Nat) (key : String) : CacheRequest Unit :=
  ⟨process, ⟨key⟩, .ofSeconds 60, .ofSeconds 30, ()⟩

/-- A process sends its job off, -/
def sending : List (CacheEvent Unit) :=
  [.arrive (request 1 "qc:v1:sales"), .stepCall 0 [], .stepCall 0 [], .stepFlight 0 [],
    .stepFlight 0 []]

/-- three calls of another one share a flight that waits for it, and one of them is cancelled, -/
def joining : List (CacheEvent Unit) :=
  [.arrive (request 0 "qc:v1:sales"), .arrive (request 0 "qc:v1:sales"),
    .arrive (request 0 "qc:v1:sales"), .stepCall 1 [], .stepCall 2 [], .stepCall 3 [],
    .stepCall 1 [], .stepCall 2 [], .stepCall 3 [], .stepFlight 1 [], .cancel 3]

/-- the rows are published and found by the flight, -/
def landing : List (CacheEvent Unit) :=
  [.complete (.flight 0) (.ok ⟨[], []⟩), .stepFlight 0 [], .stepCall 0 [], .stepCall 0 [],
    .tick ⟨.ofSeconds 1, 1000⟩, .stepFlight 1 [], .stepFlight 1 [], .stepCall 2 [], .stepCall 1 [],
    .stepCall 1 [], .stepCall 2 []]

/-- one more call finds them, and the job of another one fails, for which the store has failed to
claim the lease. -/
def failing : List (CacheEvent Unit) :=
  [.arrive (request 0 "qc:v1:sales"), .stepCall 4 [], .arrive (request 0 "qc:v1:costs"),
    .stepCall 5 [], .stepCall 5 [], .stepFlight 2 [.claim],
    .complete (.flight 2) (.error (.internal "")), .stepCall 5 [], .stepCall 5 []]

def events : List (CacheEvent Unit) := sending ++ joining ++ landing ++ failing

def start : CacheCluster (MemoryStore String) Unit := .fresh {} 2 ⟨.zero, 0⟩ {}

/-- How many calls of a process have returned, have a hit, have a miss and are cancelled, how many
jobs it has started, and how many calls have joined a flight. -/
def figures (process : Nat) : Nat × Nat × Nat × Nat × Nat × Nat :=
  ((start.run events).countCalls process (·.result?.isSome),
    (start.run events).countCalls process CallStage.isHit,
    (start.run events).countCalls process CallStage.isMiss,
    (start.run events).countCalls process (· matches .cancelled),
    start.total (jobsStarted process) events, start.total (callsJoined process) events)

theorem figures_eq : figures 0 = (4, 3, 1, 1, 1, 2) ∧ figures 1 = (1, 0, 1, 0, 1, 0) := by
  decide +kernel

theorem caches (process : Nat) : Caches process events := by
  simp [Caches, events, sending, joining, landing, failing, request, Duration.ofSeconds,
    Duration.zero]

end CountersSample

open CountersSample in
/-- One process has two hits of a flight that found rows, a hit of a call, and a miss that was an
error; the other one has the miss that its job was run for. -/
theorem counters_balance_sample :
    let s := start.run events
    (s.stats 0).hits + (s.stats 0).misses = 4 ∧ (s.stats 0).hits = 3 ∧ (s.stats 0).misses = 1 ∧
      (s.stats 0).executions = 1 ∧ (s.stats 0).coalesced = 2 ∧
      s.countCalls 0 (· matches .cancelled) = 1 ∧ (s.stats 1).hits + (s.stats 1).misses = 1 ∧
      (s.stats 1).executions ≤ (s.stats 1).misses := by
  have balance {process : Nat} (known : process < 2) : Balances start events process :=
    counters_balance {} ⟨.zero, 0⟩ _ known (caches process)
  have ⟨own, other⟩ := figures_eq
  simp only [figures, Prod.mk.injEq] at own other
  obtain ⟨returned, hits, misses, cancelled, executions, coalesced⟩ := own
  have all : ∀ c ∈ (start.run events).calls, c.process = 1 → c.stage.result?.isSome = true := by
    decide +kernel
  have first : Balances start events 0 := balance (by decide)
  have second : Balances start events 1 := balance (by decide)
  exact ⟨first.returned.trans returned, first.hits.trans hits, first.misses.trans misses,
    first.executions.trans executions, first.coalesced.trans coalesced, cancelled,
    second.returned.trans other.1, second.covered all⟩

end AnalyticsGateway.CacheCluster
