import AnalyticsGateway.Proofs.Cache.Boarding
import AnalyticsGateway.Proofs.Cache.Provenance
import AnalyticsGateway.Proofs.Cache.SingleFlight

/-!
# Failures of the store

Whichever operations of the store fail and whatever it holds, a call comes to rows that a job for
its key has returned or that an entry of the key holds, to the error of such a job, or to having
waited too long for a lease (`withstands_failures`). A call's own job is started once at most, and
the rows that it returns reach the call though they could not be published.
-/

namespace AnalyticsGateway

open SharedStore

namespace CacheCluster

variable {σ ω : Type} [SharedStore σ String]

/-! ## where results come from -/

/-- How a run comes to a result for a key: by a job for it, by an entry that is read and not
expired, or by waiting for a lease till it is too late. -/
inductive Accounts (start : CacheCluster σ ω) (events : List (CacheEvent ω)) (key : CacheKey) :
    FlightResult → Prop
  | ran {before : List (CacheEvent ω)} {runner : Runner} {result : Except GatewayError RowSet} :
    before ++ [.complete runner result] <+: events → (start.run before).Executes key runner →
      Accounts start events key (result.map fun rows => ⟨rows, false⟩)
  | found {before : List (CacheEvent ω)} {text : String} {entry : CacheEntry} :
    before <+: events →
    get (start.run before).now key.entry (start.run before).store = some text →
    CacheEntry.ofText? text = some entry →
    entry.isExpired (start.run before).now.time.nanoseconds = false →
      Accounts start events key (.ok ⟨entry.rows, true⟩)
  | waited {before : List (CacheEvent ω)} {id : Nat} {failing : List StoreOperation}
    {f : Flight ω} : before ++ [.stepFlight id failing] <+: events →
    (start.run before).flights[id]? = some f → f.key = key →
    (start.run before).GivesUp failing f →
      Accounts start events key (.error (.timeout ((start.run before).now.clock.sub f.started)))

section Accounts

variable {start : CacheCluster σ ω} {events before : List (CacheEvent ω)} {key : CacheKey}

theorem Accounts.mono {result : FlightResult} (h : start.Accounts before key result)
    (reached : before <+: events) : start.Accounts events key result := by
  cases h with
  | ran there executes => exact .ran (there.trans reached) executes
  | found there stored read fresh => exact .found (there.trans reached) stored read fresh
  | waited there hf same waits => exact .waited (there.trans reached) hf same waits

theorem accounts_of_look {failing : List StoreOperation} {rows : RowSet}
    (reached : before <+: events) (found : (start.run before).look failing key = .found rows) :
    start.Accounts events key (.ok ⟨rows, true⟩) := by
  obtain ⟨text, entry, stored, read, fresh, rfl⟩ := look_eq_found found
  exact .found reached stored read fresh

/-- An error other than that it is too late is the error of a job. -/
theorem Accounts.of_error {e : GatewayError} (h : start.Accounts events key (.error e))
    (inTime : ∀ after, e ≠ .timeout after) : ∃ before runner,
      before ++ [.complete runner (.error e)] <+: events ∧
        (start.run before).Executes key runner := by
  generalize eq : Except.error e = result at h
  cases h with
  | @ran before runner result reached executes =>
    cases result with
    | error e' =>
      cases eq
      exact ⟨before, runner, reached, executes⟩
    | ok rows => cases eq
  | found => cases eq
  | waited =>
    cases eq
    exact absurd rfl (inTime _)

/-- Whatever calls and flights have in hand is accounted for. -/
def accounts (start : CacheCluster σ ω) (events : List (CacheEvent ω)) : CacheFacts ω where
  Asked _ := True
  Publishes request entry := start.Accounts events request.key (.ok ⟨entry.rows, false⟩)
  Lands request := start.Accounts events request.key
  Serves := start.Accounts events
  lands h := h
  serves h := h

theorem accounts_le (reached : before <+: events) :
    (start.accounts before).Le (start.accounts events) where
  asked h := h
  publishes h := h.mono reached
  lands h := h.mono reached
  serves h := h.mono reached

/-- One event more is accounted for too. -/
theorem founded_concat (inv : Founded (start.accounts events) (start.run events))
    (event : CacheEvent ω) :
    Founded (start.accounts (events ++ [event])) (start.run (events ++ [event])) := by
  have here : events <+: events ++ [event] := List.prefix_append ..
  have last : events ++ [event] <+: events ++ [event] := List.prefix_refl _
  have inv := inv.mono (accounts_le here)
  rw [run_concat]
  cases event with
  | tick now => exact inv.of_eq rfl rfl fun _ => rfl
  | arrive request => exact inv.arrive trivial
  | stepCall id failing => exact inv.stepCall fun _ _ _ _ => accounts_of_look here
  | stepFlight id failing =>
    exact inv.stepFlight (fun _ _ _ _ => accounts_of_look here) fun f hf => .waited last hf rfl
  | complete runner result =>
    refine inv.complete fun r job hr hjob => ?_
    have ran : start.Accounts _ r.key (result.map fun rows => ⟨rows, false⟩) :=
      .ran last (executes_of_request? hr hjob)
    refine ⟨ran, fun rows eq => ?_⟩
    subst eq
    exact ran
  | cancel id => exact inv.cancel id
  | releaseAbandoned failing => exact inv.releaseAbandoned failing
  | purge failing => exact inv.of_eq rfl rfl fun _ => rfl

end Accounts

/-! ## own jobs -/

/-- A call starts a flight. -/
def Launches (start : CacheCluster σ ω) (events : List (CacheEvent ω)) (call flight : Nat) : Prop :=
  ∃ before failing, before ++ [.stepCall call failing] <+: events ∧
    (start.run before).flights.length = flight ∧
    flight < (start.run (before ++ [.stepCall call failing])).flights.length

/-- The runners of a call's own job: the call itself, and a flight that it has started. -/
inductive Owns (start : CacheCluster σ ω) (events : List (CacheEvent ω)) (call : Nat) :
    Runner → Prop
  | itself : Owns start events call (.call call)
  | flight {flight : Nat} : start.Launches events call flight →
    Owns start events call (.flight flight)

/-- A runner starts its job with an event. -/
def StartsJob (s : CacheCluster σ ω) (event : CacheEvent ω) (runner : Runner) : Prop :=
  s.job? runner = none ∧ ((s.step event).job? runner).isSome = true

section Own

variable {start : CacheCluster σ ω} {events before before' : List (CacheEvent ω)}
  {event event' : CacheEvent ω} {call flight : Nat} {runner runner' : Runner}

theorem phase_of_startsJob {s : CacheCluster σ ω} (starts : s.StartsJob event runner) :
    s.phase runner = 0 ∧ (s.step event).phase runner = 1 := by
  obtain ⟨idle, runs⟩ := starts
  have after := phase_eq_one.2 runs
  have before : s.phase runner ≠ 1 := fun runs => by
    rw [phase_eq_one, idle] at runs
    cases runs
  have goesOn := goesOn_step s event runner
  omega

/-- Where a call starts a flight, it goes on from joining to flying. -/
theorem Launches.place (launches : start.Launches events call flight) :
    ∃ before failing c, before ++ [.stepCall call failing] <+: events ∧
      (start.run before).calls[call]? = some c ∧ c.stage = .joining ∧
      (start.run before).flights.length = flight ∧
      (start.run (before ++ [.stepCall call failing])).calls[call]? =
        some { c with stage := .flying flight } ∧
      (start.run (before ++ [.stepCall call failing])).flights[flight]? =
        some ((start.run before).newFlight c) := by
  obtain ⟨before, failing, reached, rfl, more⟩ := launches
  rw [run_concat] at more
  rcases (start.run before).launch_cases (.stepCall call failing) with
    none | ⟨call', failing', c, eq, hc, joins, flights, flying⟩
  · omega
  · cases eq
    refine ⟨before, failing, c, reached, hc, joins, rfl, ?_⟩
    rw [run_concat]
    refine ⟨flying, ?_⟩
    rw [flights]
    exact getElem?_concat_length ..

theorem Launches.phases (launches : start.Launches events call flight) :
    ∃ before failing, before ++ [.stepCall call failing] <+: events ∧
      (start.run before).flights.length = flight ∧ (start.run before).phase (.call call) = 0 ∧
      (start.run (before ++ [.stepCall call failing])).phase (.call call) = 2 := by
  obtain ⟨before, failing, c, reached, hc, joins, last, flying, -⟩ := launches.place
  refine ⟨before, failing, reached, last, ?_, phase_of_call flying⟩
  rw [phase_of_call hc, joins, CallStage.phase]

/-- Two places are one if something goes on at each beyond where it is at the other. -/
theorem eq_of_goes_on (start : CacheCluster σ ω) (runner : Runner)
    (h : before ++ [event] <+: events) (h' : before' ++ [event'] <+: events)
    (lt : (start.run before').phase runner < (start.run (before ++ [event])).phase runner)
    (lt' : (start.run before).phase runner < (start.run (before' ++ [event'])).phase runner) :
    before ++ [event] = before' ++ [event'] := by
  rcases eq_or_before_of_prefix h h' with eq | first | second
  · exact eq
  · exact absurd (goesOn_run first runner) (Nat.not_le.2 lt)
  · exact absurd (goesOn_run second runner) (Nat.not_le.2 lt')

/-- A call that runs its job itself starts no flight. -/
theorem not_launches_of_startsJob (h : before ++ [event] <+: events)
    (starts : (start.run before).StartsJob event (.call call)) :
    ¬start.Launches events call flight := by
  intro launches
  obtain ⟨before', failing, reached, -, joining, flying⟩ := launches.phases
  obtain ⟨idle, runs⟩ := phase_of_startsJob starts
  rw [← run_concat] at runs
  have same := start.eq_of_goes_on (.call call) h reached (by omega) (by omega)
  rw [same] at runs
  omega

theorem Launches.unique {flight' : Nat} (h : start.Launches events call flight)
    (h' : start.Launches events call flight') : flight = flight' := by
  obtain ⟨before, failing, reached, rfl, joining, flying⟩ := h.phases
  obtain ⟨before', failing', reached', rfl, joining', flying'⟩ := h'.phases
  have same := start.eq_of_goes_on (.call call) reached reached' (by omega) (by omega)
  rw [(List.append_inj' same rfl).1]

/-- A call's own job is started once. -/
theorem starts_once (own : start.Owns events call runner) (own' : start.Owns events call runner')
    (h : before ++ [event] <+: events) (h' : before' ++ [event'] <+: events)
    (starts : (start.run before).StartsJob event runner)
    (starts' : (start.run before').StartsJob event' runner') :
    before = before' ∧ runner = runner' := by
  have runner : runner = runner' := by
    cases own with
    | itself =>
      cases own' with
      | itself => rfl
      | flight launches => exact absurd launches (not_launches_of_startsJob h starts)
    | flight launches =>
      cases own' with
      | itself => exact absurd launches (not_launches_of_startsJob h' starts')
      | flight launches' => rw [launches.unique launches']
  subst runner
  obtain ⟨idle, runs⟩ := phase_of_startsJob starts
  obtain ⟨idle', runs'⟩ := phase_of_startsJob starts'
  rw [← run_concat] at runs runs'
  have same := start.eq_of_goes_on runner h h' (by omega) (by omega)
  exact ⟨(List.append_inj' same rfl).1, rfl⟩

/-- A call's own job is the one that it has asked for. -/
theorem Owns.request? (own : start.Owns events call runner) :
    (start.run events).request? runner = (start.run events).request? (.call call) := by
  cases own with
  | itself => rfl
  | flight launches =>
    obtain ⟨before, failing, c, reached, -, -, -, flying, launched⟩ := launches.place
    rw [requestsIn_run reached _ _ (request?_of_call flying),
      requestsIn_run reached _ _ (request?_of_flight launched)]
    rfl

theorem Launches.mono (h : start.Launches before call flight) (reached : before <+: events) :
    start.Launches events call flight := by
  obtain ⟨before', failing, there, rest⟩ := h
  exact ⟨before', failing, there.trans reached, rest⟩

/-- Every flight has been started by a call. -/
theorem exists_launches (none : start.flights = []) (events : List (CacheEvent ω))
    (h : flight < (start.run events).flights.length) :
    ∃ call, start.Launches events call flight := by
  induction events using List.reverseRecOn with
  | nil =>
    rw [run, List.foldl_nil, none] at h
    exact absurd h (Nat.not_lt_zero _)
  | append_singleton events event ih =>
    by_cases old : flight < (start.run events).flights.length
    · obtain ⟨call, launches⟩ := ih old
      exact ⟨call, launches.mono (List.prefix_append ..)⟩
    · rcases (start.run events).launch_cases event with
        same | ⟨call, failing, c, rfl, -, -, flights, -⟩
      · rw [run_concat, same] at h
        exact absurd h old
      · refine ⟨call, events, failing, List.prefix_refl _, ?_, h⟩
        rw [run_concat, flights, List.length_append, List.length_singleton] at h
        omega

end Own

end CacheCluster

/-! ## rows of own jobs -/

/-- A flight lands with rows of its job in some steps at most, unless it is deserted. -/
inductive FlightStage.Brings (rows : RowSet) : Nat → FlightStage → Prop
  | publishing {steps : Nat} {entry : CacheEntry} : entry.rows = rows →
    Brings rows (steps + 2) (.publishing entry)
  | releasing {steps : Nat} : Brings rows (steps + 1) (.releasing (.ok ⟨rows, false⟩))
  | landed {steps : Nat} : Brings rows steps (.landed (.ok ⟨rows, false⟩))
  | deserted {steps : Nat} : Brings rows steps .deserted

theorem FlightStage.Brings.succ {rows : RowSet} {steps : Nat} {stage : FlightStage}
    (brings : stage.Brings rows steps) : stage.Brings rows (steps + 1) := by
  cases brings with
  | publishing eq => exact .publishing eq
  | releasing => exact .releasing
  | landed => exact .landed
  | deserted => exact .deserted

namespace CacheCluster

variable {σ ω : Type} {s : CacheCluster σ ω} {flight steps : Nat} {rows : RowSet}

def Brings (s : CacheCluster σ ω) (flight : Nat) (rows : RowSet) (steps : Nat) : Prop :=
  ∃ f, s.flights[flight]? = some f ∧ f.stage.Brings rows steps

namespace Brings

theorem of_longer {t : CacheCluster σ ω} (brings : s.Brings flight rows steps)
    {flights : List (Flight ω)} (longer : t.flights = s.flights ++ flights) :
    t.Brings flight rows steps := by
  obtain ⟨f, hf, stage⟩ := brings
  refine ⟨f, ?_, stage⟩
  rw [longer, List.getElem?_append_left (List.getElem?_eq_some_iff.1 hf).1, hf]

theorem of_eq {t : CacheCluster σ ω} (brings : s.Brings flight rows steps)
    (same : t.flights = s.flights) : t.Brings flight rows steps :=
  brings.of_longer (same.trans (List.append_nil _).symm)

theorem setFlight (brings : s.Brings flight rows steps) {id : Nat} {stage : FlightStage}
    (keeps : ∀ f, s.flights[id]? = some f → f.stage.Brings rows steps →
      stage.Brings rows steps) : (s.setFlight id stage).Brings flight rows steps := by
  obtain ⟨f, hf, there⟩ := brings
  by_cases same : id = flight
  · subst same
    refine ⟨{ f with stage }, ?_, keeps f hf there⟩
    rw [CacheCluster.setFlight, List.getElem?_modify_eq, hf]
    rfl
  · exact ⟨f, (List.getElem?_modify_ne _ _ same).trans hf, there⟩

theorem desert (brings : s.Brings flight rows steps) (id : Nat) :
    (s.desert id).Brings flight rows steps := by
  rcases s.desert_cases id with eq | ⟨f, lease, -, -, -, eq⟩ <;> rw [eq]
  · exact brings
  · have same : ({ s with abandoned := s.abandoned ++ lease } : CacheCluster σ ω).Brings flight
        rows steps := brings.of_eq rfl
    exact same.setFlight fun _ _ _ => .deserted

theorem complete (brings : s.Brings flight rows steps) (runner : Runner)
    (result : Except GatewayError RowSet) :
    (s.complete runner result).Brings flight rows steps := by
  have move := s.complete_move runner result
  generalize s.complete runner result = t at move
  cases move with
  | answered _ _ => exact brings.of_eq rfl
  | stays => exact brings
  | succeeded hf runs _ | failed hf runs _ | landed hf runs =>
    refine brings.setFlight fun g hg there => ?_
    cases hf.symm.trans hg
    rw [runs] at there
    cases there

end Brings

theorem isRunning_of_job? {f : Flight ω} (hf : s.flights[flight]? = some f)
    (runs : (s.job? (.flight flight)).isSome = true) : ∃ renewal, f.stage = .running renewal := by
  have phase := phase_eq_one.2 runs
  rw [phase_of_flight hf] at phase
  cases stage : f.stage with
  | running renewal => exact ⟨renewal, rfl⟩
  | _ =>
    rw [stage] at phase
    cases phase

/-- A job of a flight that returns rows lets the flight bring them. -/
theorem brings_of_complete (rows : RowSet) (runs : (s.job? (.flight flight)).isSome = true) :
    (s.complete (.flight flight) (.ok rows)).Brings flight rows 2 := by
  cases hf : s.flights[flight]? with
  | none => simp [job?, hf] at runs
  | some f =>
    obtain ⟨renewal, stage⟩ := isRunning_of_job? hf runs
    cases renewal with
    | none =>
      refine ⟨{ f with stage := .landed (.ok ⟨rows, false⟩) }, ?_, .landed⟩
      simp only [complete, hf, stage, landFlight, CacheCluster.setFlight, List.getElem?_modify_eq]
      rfl
    | some due =>
      refine ⟨{ f with stage := .publishing (.new rows f.ttl s.now.time.nanoseconds) }, ?_,
        .publishing rfl⟩
      simp only [complete, hf, stage, CacheCluster.setFlight, List.getElem?_modify_eq]
      rfl

/-- A job of a call that returns rows lets the call return them. -/
theorem returned_of_complete {call : Nat} (rows : RowSet)
    (runs : (s.job? (.call call)).isSome = true) :
    ∃ c elapsed, (s.complete (.call call) (.ok rows)).calls[call]? = some c ∧
      c.stage = .returned (.ok ⟨rows, elapsed, false⟩) := by
  cases hc : s.calls[call]? with
  | none => simp [job?, hc] at runs
  | some c =>
    have running : c.stage.isRunning = true := by
      rw [← CallStage.phase_eq_one, ← phase_of_call hc]
      exact phase_eq_one.2 runs
    refine ⟨{ c with stage := .returned (.ok ⟨rows, c.elapsed s.now.clock, false⟩) }, _, ?_, rfl⟩
    simp only [complete, hc, running, if_true, setCall, List.getElem?_modify_eq]
    rfl

variable [SharedStore σ String] {call : Nat}

/-- A step takes a flight nearer to its landing, whether it can publish and give up its lease or
not. -/
theorem FlightMove.brings {failing : List StoreOperation} {f : Flight ω} {stage : FlightStage}
    {store : σ} (move : s.FlightMove failing f stage store)
    (brings : f.stage.Brings rows (steps + 1)) : stage.Brings rows steps := by
  generalize eq : f.stage = before at brings
  generalize left : steps + 1 = all at brings
  cases brings with
  | @publishing steps' entry rows =>
    cases left
    subst rows
    cases move with
    | published h _ =>
      cases eq.symm.trans h
      exact .landed
    | unpublished h _ =>
      cases eq.symm.trans h
      exact .releasing
    | stays idle => cases eq ▸ idle
    | claimed h | refused h | unclaimed h | found h | starts h | renews h | releases h | awakes h
    | polled h | retries h => cases eq.symm.trans h
  | releasing =>
    cases move with
    | releases h =>
      cases eq.symm.trans h
      exact .landed
    | stays idle => cases eq ▸ idle
    | claimed h | refused h | unclaimed h | found h | starts h | renews h | published h
    | unpublished h | awakes h | polled h | retries h => cases eq.symm.trans h
  | landed =>
    rw [move.landed eq]
    exact .landed
  | deserted =>
    cases move with
    | stays _ =>
      rw [eq]
      exact .deserted
    | claimed h | refused h | unclaimed h | found h | starts h | renews h | published h
    | unpublished h | releases h | awakes h | polled h | retries h => cases eq.symm.trans h

namespace Brings

theorem stepFlight (brings : s.Brings flight rows (steps + 1)) (failing : List StoreOperation) :
    (s.stepFlight failing flight).Brings flight rows steps := by
  obtain ⟨f, hf, there⟩ := brings
  obtain ⟨stage, store, move, eq⟩ := stepFlight_move failing hf
  refine ⟨{ f with stage }, ?_, move.brings there⟩
  rw [(of_bare_eq eq).flights, CacheCluster.setFlight, List.getElem?_modify_eq, hf]
  rfl

theorem step (brings : s.Brings flight rows (steps + 1)) (event : CacheEvent ω) :
    (s.step event).Brings flight rows (steps + 1) := by
  cases event with
  | stepCall id failing =>
    rcases s.stepCall_launch_cases failing id with same | ⟨c, -, -, flights, -⟩
    · exact brings.of_eq same
    · exact brings.of_longer flights
  | stepFlight id failing =>
    cases hf : s.flights[id]? with
    | none => rwa [CacheCluster.step, stepFlight_of_none hf]
    | some f =>
      obtain ⟨stage, store, move, eq⟩ := stepFlight_move failing hf
      have used : ({ s with store } : CacheCluster σ ω).Brings flight rows (steps + 1) :=
        brings.of_eq rfl
      refine (used.setFlight fun g hg there => ?_).of_eq (of_bare_eq eq).flights
      cases hf.symm.trans hg
      exact (move.brings there).succ
  | complete runner result => exact brings.complete runner result
  | cancel id =>
    have cancelled : (s.setCall id .cancelled).Brings flight rows (steps + 1) := brings.of_eq rfl
    rcases s.cancel_cases id with eq | eq | ⟨flight', -, eq⟩ <;> rw [CacheCluster.step, eq]
    · exact brings
    · exact cancelled
    · exact cancelled.desert flight'
  | releaseAbandoned failing =>
    rcases s.releaseAbandoned_cases failing with eq | ⟨a, rest, -, eq⟩ <;>
      rw [CacheCluster.step, eq]
    · exact brings
    · exact brings.of_eq rfl
  | tick _ | arrive _ | purge _ => exact brings.of_eq rfl

end Brings

/-! ## coming home -/

theorem stepCall_of_joining (failing : List StoreOperation) {c : CacheCall ω}
    (hc : s.calls[call]? = some c) (joining : c.stage = .joining)
    (known : s.flightOf? c.process c.key = some flight) :
    s.stepCall failing call = (s.count c.process fun n =>
      { n with coalesced := n.coalesced + 1 }).setCall call (.flying flight) := by
  simp only [stepCall, hc, joining, join, known]

theorem stepCall_of_flying (failing : List StoreOperation) {c : CacheCall ω} {f : Flight ω}
    {result : FlightResult} (hc : s.calls[call]? = some c) (flies : c.stage = .flying flight)
    (hf : s.flights[flight]? = some f) (lands : f.stage = .landed result) :
    s.stepCall failing call = s.setCall call (.leaving flight result) := by
  simp [stepCall, hc, flies, hf, lands, FlightStage.result?]

theorem stepCall_of_leaving (failing : List StoreOperation) {c : CacheCall ω}
    {result : FlightResult} (hc : s.calls[call]? = some c)
    (leaves : c.stage = .leaving flight result) :
    (s.stepCall failing call).calls[call]? =
      some { c with stage := .returned (c.answer s.now.clock result) } := by
  simp only [stepCall, hc, leaves, leave, setCall, count, forget_calls, forget_now,
    List.getElem?_modify_eq]
  rfl

/-- Two steps of a call bring home what its flight has landed with, whatever fails. -/
theorem IsAboard.comes_home (aboard : s.IsAboard call flight) {f : Flight ω}
    {result : FlightResult} (hf : s.flights[flight]? = some f) (lands : f.stage = .landed result)
    (kept : ∀ c, s.calls[call]? = some c → c.stage ≠ .cancelled)
    (failing failing' : List StoreOperation) :
    ∃ c now, ((s.stepCall failing call).stepCall failing' call).calls[call]? = some c ∧
      c.stage = .returned (c.answer now result) := by
  obtain ⟨c, f', hc, hf', boards⟩ := aboard
  cases hf.symm.trans hf'
  cases boards with
  | flies flies _ =>
    rw [stepCall_of_flying failing hc flies hf lands]
    have leaving : (s.setCall call (.leaving flight result)).calls[call]? =
        some { c with stage := .leaving flight result } := by
      rw [setCall, List.getElem?_modify_eq, hc]
      rfl
    exact ⟨_, _, stepCall_of_leaving failing' leaving rfl, rfl⟩
  | leaves leaves lands' =>
    cases lands.symm.trans lands'
    have returned := stepCall_of_leaving failing hc leaves
    exact ⟨_, _, getElem?_step_of_returned returned rfl (.stepCall call failing'), rfl⟩
  | returned now returned lands' =>
    cases lands.symm.trans lands'
    have once := getElem?_step_of_returned hc returned (.stepCall call failing)
    exact ⟨c, now, getElem?_step_of_returned once returned (.stepCall call failing'), returned⟩
  | cancelled cancelled => exact absurd cancelled (kept c hc)

/-- The steps that are left for a call when its own job has ended. -/
def wayHome (call : Nat) (failing : Nat → List StoreOperation) : Runner → List (CacheEvent ω)
  | .call _ => []
  | .flight flight =>
    [.stepFlight flight (failing 0), .stepFlight flight (failing 1), .stepCall call (failing 2),
      .stepCall call (failing 3)]

/-- What a call's flight brings is what the call returns. -/
theorem IsAboard.brings_home (aboard : s.IsAboard call flight) (brings : s.Brings flight rows 2)
    (kept : ∀ c, s.calls[call]? = some c → c.stage ≠ .cancelled)
    (failing : Nat → List StoreOperation) :
    ∃ c elapsed, (s.run (wayHome call failing (.flight flight))).calls[call]? = some c ∧
      c.stage = .returned (.ok ⟨rows, elapsed, false⟩) := by
  let t := (s.stepFlight (failing 0) flight).stepFlight (failing 1) flight
  have same : t.calls = s.calls := by rw [stepFlight_calls, stepFlight_calls]
  have aboard : t.IsAboard call flight := (aboard.stepFlight _ _).stepFlight _ _
  obtain ⟨f, hf, stage⟩ : t.Brings flight rows 0 := (brings.stepFlight _).stepFlight _
  have kept (c : CacheCall ω) (hc : t.calls[call]? = some c) : c.stage ≠ .cancelled :=
    kept c (same ▸ hc)
  have lands : f.stage = .landed (.ok ⟨rows, false⟩) := by
    generalize eq : f.stage = stage' at stage
    cases stage with
    | landed => rfl
    | deserted =>
      obtain ⟨c, f', hc, hf', boards⟩ := aboard
      cases hf.symm.trans hf'
      cases boards with
      | flies _ there => exact absurd eq there
      | leaves _ lands | returned _ _ lands => cases eq.symm.trans lands
      | cancelled cancelled => exact absurd cancelled (kept c hc)
  obtain ⟨c, now, hc, returned⟩ := aboard.comes_home hf lands kept (failing 2) (failing 3)
  exact ⟨c, _, hc, returned⟩

section Own

variable {start : CacheCluster σ ω} {events before : List (CacheEvent ω)} {runner : Runner}

/-- A call is on board of the flight that it has started. -/
theorem Launches.isAboard (launches : start.Launches events call flight) :
    (start.run events).IsAboard call flight := by
  obtain ⟨before, failing, c, reached, -, -, -, flying, launched⟩ := launches.place
  exact run_of_prefix (P := fun s => s.IsAboard call flight) (fun _ event h => h.step event)
    reached ⟨_, _, flying, launched, .flies rfl nofun⟩

/-- The rows that a call's own job has returned are what the call returns, unless it is
cancelled. -/
theorem Owns.brings_home (own : start.Owns events call runner)
    (ended : before ++ [.complete runner (.ok rows)] <+: events)
    (runs : ((start.run before).job? runner).isSome = true)
    (kept : ∀ c, (start.run events).calls[call]? = some c → c.stage ≠ .cancelled)
    (failing : Nat → List StoreOperation) :
    ∃ c elapsed, ((start.run events).run (wayHome call failing runner)).calls[call]? = some c ∧
      c.stage = .returned (.ok ⟨rows, elapsed, false⟩) := by
  have last : start.run (before ++ [.complete runner (.ok rows)]) =
      (start.run before).complete runner (.ok rows) := run_concat ..
  cases own with
  | itself =>
    obtain ⟨c, elapsed, hc, returned⟩ := returned_of_complete rows runs
    have hc := run_of_prefix (P := fun s => s.calls[call]? = some c)
      (fun _ event hc => getElem?_step_of_returned hc returned event) ended (last ▸ hc)
    exact ⟨c, elapsed, hc, returned⟩
  | @flight flight launches =>
    have brings := run_of_prefix (P := fun s => s.Brings flight rows 2)
      (fun _ event h => h.step event) ended (last ▸ brings_of_complete rows runs)
    exact launches.isAboard.brings_home brings kept failing

end Own

/-! ## runs -/

/-- What holds of a run with whatever failures of the store. -/
structure WithstandsFailures (start : CacheCluster σ ω) (events : List (CacheEvent ω)) :
    Prop where
  /-- Rows are from a job for the key or from an entry of it; an error is the error of such a job,
  or it is too late to wait for a lease. -/
  accounted : ∀ {call : Nat} {c : CacheCall ω} {answer : Except GatewayError QueryResult},
    (start.run events).calls[call]? = some c → c.stage = .returned answer →
      start.Accounts events c.key (answer.map fun answer => ⟨answer.rows, answer.cacheHit⟩)
  /-- An error of the store is returned only if a job for the key returns it. -/
  storeError : ∀ {call : Nat} {c : CacheCall ω} {e : StoreError},
    (start.run events).calls[call]? = some c → c.stage = .returned (.error (.ofStore e)) →
      ∃ before runner, before ++ [.complete runner (.error (.ofStore e))] <+: events ∧
        (start.run before).Executes c.key runner
  /-- Every flight runs the own job of a call. -/
  owned : ∀ {flight : Nat}, flight < (start.run events).flights.length →
    ∃ call, start.Owns events call (.flight flight)
  ownRequest : ∀ {call : Nat} {runner : Runner}, start.Owns events call runner →
    (start.run events).request? runner = (start.run events).request? (.call call)
  once : ∀ {call : Nat} {runner runner' : Runner} {before before' : List (CacheEvent ω)}
    {event event' : CacheEvent ω}, start.Owns events call runner →
    start.Owns events call runner' → before ++ [event] <+: events → before' ++ [event'] <+: events →
    (start.run before).StartsJob event runner → (start.run before').StartsJob event' runner' →
      before = before' ∧ runner = runner'
  /-- Rows that the own job of a call has returned are returned by the call, unless it is cancelled,
  after no more than the steps of its way home, whatever fails in them. -/
  returned : ∀ {call : Nat} {runner : Runner} {rows : RowSet} {before : List (CacheEvent ω)},
    start.Owns events call runner → before ++ [.complete runner (.ok rows)] <+: events →
    ((start.run before).job? runner).isSome = true →
    (∀ c, (start.run events).calls[call]? = some c → c.stage ≠ .cancelled) →
    ∀ failing, ∃ c elapsed,
      ((start.run events).run (wayHome call failing runner)).calls[call]? = some c ∧
        c.stage = .returned (.ok ⟨rows, elapsed, false⟩)

theorem founded_run (settings : LeaseSettings) (processes : Nat) (now : Moment) (store : σ)
    (events : List (CacheEvent ω)) :
    let start : CacheCluster σ ω := .fresh settings processes now store
    Founded (start.accounts events) (start.run events) := by
  induction events using List.reverseRecOn with
  | nil => exact .fresh settings processes now store
  | append_singleton events event ih => exact founded_concat ih event

/-- No failure of the store makes a call fail. -/
theorem withstands_failures (settings : LeaseSettings) (processes : Nat) (now : Moment) (store : σ)
    (events : List (CacheEvent ω)) :
    (fresh settings processes now store : CacheCluster σ ω).WithstandsFailures events := by
  have founded := founded_run (ω := ω) settings processes now store events
  have accounted {call : Nat} {c : CacheCall ω} {answer : Except GatewayError QueryResult}
      (hc : ((fresh settings processes now store).run events).calls[call]? = some c)
      (returned : c.stage = .returned answer) :
      (fresh settings processes now store).Accounts events c.key
        (answer.map fun answer => ⟨answer.rows, answer.cacheHit⟩) := by
    have stage := (founded.calls hc).2
    rwa [returned] at stage
  exact {
    accounted
    storeError := fun hc returned => (accounted hc returned).of_error nofun
    owned := fun known => by
      obtain ⟨call, launches⟩ := exists_launches rfl events known
      exact ⟨call, .flight launches⟩
    ownRequest := Owns.request?
    once := starts_once
    returned := Owns.brings_home }

end CacheCluster

end AnalyticsGateway
