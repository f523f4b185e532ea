import AnalyticsGateway.Proofs.Cache.Lease
import AnalyticsGateway.Proofs.Cache.Runner

/-!
# Single flight

Among all processes over one store, a key has one execution at a time, and none starts while the
store holds an entry that could be served (`single_flight`). The store has to work, and the lease of
an execution has to be renewed before it is over.
-/

namespace AnalyticsGateway

open SharedStore LawfulStore

namespace CacheCluster

variable {σ ω : Type}

/-- The runner runs its job for a key. -/
def Executes (s : CacheCluster σ ω) (key : CacheKey) (runner : Runner) : Prop :=
  (s.job? runner).isSome = true ∧ (s.request? runner).map (·.key) = some key

instance (s : CacheCluster σ ω) (key : CacheKey) (runner : Runner) :
    Decidable (s.Executes key runner) :=
  inferInstanceAs (Decidable (_ ∧ _))

theorem executes_of_request? {s : CacheCluster σ ω} {runner : Runner} {r : CacheRequest ω} {job : ω}
    (hr : s.request? runner = some r) (hjob : s.job? runner = some job) :
    s.Executes r.key runner := by
  refine ⟨?_, ?_⟩
  · rw [hjob, Option.isSome_some]
  · rw [hr, Option.map_some]

theorem executes_call {s : CacheCluster σ ω} {key : CacheKey} {id : Nat} :
    s.Executes key (.call id) ↔
      ∃ c, s.calls[id]? = some c ∧ c.key = key ∧ c.stage.isRunning = true := by
  cases h : s.calls[id]? with
  | none => simp [Executes, job?, request?, h]
  | some c =>
    cases hr : c.stage.isRunning <;> simp [Executes, job?, request?, h, hr, guard, failure]

theorem executes_flight {s : CacheCluster σ ω} {key : CacheKey} {id : Nat} :
    s.Executes key (.flight id) ↔
      ∃ f, s.flights[id]? = some f ∧ f.key = key ∧ f.stage.isRunning = true := by
  cases h : s.flights[id]? with
  | none => simp [Executes, job?, request?, h]
  | some f =>
    cases hr : f.stage.isRunning <;> simp [Executes, job?, request?, h, hr, guard, failure]

variable [SharedStore σ String]

/-- The store holds an entry of a key that is read and not expired. -/
def HoldsEntry (s : CacheCluster σ ω) (key : CacheKey) : Prop :=
  ∃ text entry, get s.now key.entry s.store = some text ∧ CacheEntry.ofText? text = some entry ∧
    entry.isExpired s.now.time.nanoseconds = false

theorem look_of_holdsEntry {s : CacheCluster σ ω} {key : CacheKey} (h : s.HoldsEntry key) :
    ∃ rows, s.look [] key = .found rows := by
  obtain ⟨text, entry, hget, htext, fresh⟩ := h
  refine ⟨entry.rows, ?_⟩
  simp only [look, attempt_of_none_failing, Lookup.ofAnswer, Lookup.ofText, hget, htext, fresh]
  rfl

/-- A flight that runs its job has run it before, or has just looked for an entry. -/
def RunsOn (s : CacheCluster σ ω) (id : Nat) (f : Flight ω) : Prop :=
  (∃ old, s.flights[id]? = some old ∧ old.key = f.key ∧ old.stage.isRunning = true) ∨
    ∀ rows, s.look [] f.key ≠ .found rows

theorem runsOn_of_setFlight {s : CacheCluster σ ω} {store : σ} {stepped id : Nat} {f g : Flight ω}
    {stage : FlightStage} (hg : s.flights[stepped]? = some g)
    (h : ({ s with store }.setFlight stepped stage).flights[id]? = some f)
    (runs : f.stage.isRunning = true)
    (starts : stage.isRunning = true → g.stage.isRunning = true ∨
      ∀ rows, s.look [] g.key ≠ .found rows) : s.RunsOn id f := by
  rcases of_setFlight h with ⟨-, hf⟩ | ⟨rfl, old, hold, rfl⟩
  · exact .inl ⟨f, hf, rfl, runs⟩
  · cases hg.symm.trans hold
    rcases starts runs with running | unknown
    · exact .inl ⟨g, hg, rfl, running⟩
    · exact .inr unknown

theorem FlightMove.starts_of_isRunning {s : CacheCluster σ ω} {f : Flight ω} {stage : FlightStage}
    {store : σ} (move : FlightMove s [] f stage store) (runs : stage.isRunning = true) :
    f.stage.isRunning = true ∨ ∀ rows, s.look [] f.key ≠ .found rows := by
  cases move with
  | unclaimed _ eq => cases (of_attempt eq).1
  | refused _ _ stages => rcases stages with ⟨-, rfl⟩ | ⟨till, rfl⟩ <;> cases runs
  | starts _ unknown => exact .inr unknown
  | renews hs _ => exact .inl (hs ▸ rfl)
  | stays _ => exact .inl runs
  | _ => cases runs

theorem runsOn_of_stepFlight {s : CacheCluster σ ω} {stepped id : Nat} {f : Flight ω}
    (hf : (s.stepFlight [] stepped).flights[id]? = some f) (runs : f.stage.isRunning = true) :
    s.RunsOn id f := by
  cases hg : s.flights[stepped]? with
  | none =>
    rw [stepFlight_of_none hg] at hf
    exact .inl ⟨f, hf, rfl, runs⟩
  | some g =>
    obtain ⟨stage, store, move, eq⟩ := stepFlight_move [] hg
    rw [(of_bare_eq eq).flights] at hf
    exact runsOn_of_setFlight hg hf runs move.starts_of_isRunning

theorem runsOn_of_stepCall {s : CacheCluster σ ω} {stepped id : Nat} {f : Flight ω}
    (hf : (s.stepCall [] stepped).flights[id]? = some f) (runs : f.stage.isRunning = true) :
    s.RunsOn id f := by
  cases hc : s.calls[stepped]? with
  | none =>
    rw [stepCall_of_none hc] at hf
    exact .inl ⟨f, hf, rfl, runs⟩
  | some c =>
    obtain ⟨t, move, eq⟩ := stepCall_move [] hc
    rw [(of_bare_eq eq).flights] at hf
    cases move with
    | started _ _ =>
      rcases of_concat hf with hf | ⟨-, rfl⟩
      · exact .inl ⟨f, hf, rfl, runs⟩
      · cases runs
    | @left flight result _ =>
      have same := congrArg (·[id]?) (s.forget_flights c flight)
      exact .inl ⟨f, same.symm.trans hf, rfl, runs⟩
    | _ => exact .inl ⟨f, hf, rfl, runs⟩

theorem runsOn_of_complete {s : CacheCluster σ ω} {runner : Runner}
    {result : Except GatewayError RowSet} {id : Nat} {f : Flight ω}
    (hf : (s.complete runner result).flights[id]? = some f) (runs : f.stage.isRunning = true) :
    s.RunsOn id f := by
  have move := s.complete_move runner result
  generalize s.complete runner result = t at move hf
  cases move with
  | answered _ _ | stays => exact .inl ⟨f, hf, rfl, runs⟩
  | succeeded hg _ _ | failed hg _ _ | landed hg _ => exact runsOn_of_setFlight hg hf runs nofun

theorem runsOn_of_desert {s : CacheCluster σ ω} {deserted id : Nat} {f : Flight ω}
    (hf : (s.desert deserted).flights[id]? = some f) (runs : f.stage.isRunning = true) :
    s.RunsOn id f := by
  rcases s.desert_cases deserted with eq | ⟨g, lease, hg, -, -, eq⟩ <;> rw [eq] at hf
  · exact .inl ⟨f, hf, rfl, runs⟩
  · rcases of_setFlight hf with ⟨-, hf⟩ | ⟨-, old, -, rfl⟩
    · exact .inl ⟨f, hf, rfl, runs⟩
    · cases runs

theorem runsOn_of_cancel {s : CacheCluster σ ω} {call id : Nat} {f : Flight ω}
    (hf : (s.cancel call).flights[id]? = some f) (runs : f.stage.isRunning = true) :
    s.RunsOn id f := by
  rcases s.cancel_cases call with eq | eq | ⟨flight, -, eq⟩ <;> rw [eq] at hf
  · exact .inl ⟨f, hf, rfl, runs⟩
  · exact .inl ⟨f, hf, rfl, runs⟩
  · have h : (s.setCall call .cancelled).RunsOn id f := runsOn_of_desert hf runs
    exact h

theorem runsOn_of_step {s : CacheCluster σ ω} {key : CacheKey} {event : CacheEvent ω}
    (orderly : event.IsOrderly key) {id : Nat} {f : Flight ω}
    (hf : (s.step event).flights[id]? = some f) (runs : f.stage.isRunning = true) :
    s.RunsOn id f := by
  have same (h : s.flights[id]? = some f) : s.RunsOn id f := .inl ⟨f, h, rfl, runs⟩
  cases event with
  | tick now => exact same hf
  | arrive request => exact same hf
  | stepCall stepped failing =>
    cases orderly
    exact runsOn_of_stepCall hf runs
  | stepFlight stepped failing =>
    cases orderly
    exact runsOn_of_stepFlight hf runs
  | complete runner result => exact runsOn_of_complete hf runs
  | cancel call => exact runsOn_of_cancel hf runs
  | releaseAbandoned failing =>
    rcases s.releaseAbandoned_cases failing with eq | ⟨a, rest, -, eq⟩
    all_goals
      rw [step, eq] at hf
      exact same hf
  | purge failing => exact same hf

end CacheCluster

/-! ## runs -/

namespace LeaseWatch

variable {σ ω : Type} [SharedStore σ String] [LawfulStore σ]

/-- Every execution of a key has a lease that is not over. -/
def InTime (w : LeaseWatch σ ω) (key : CacheKey) : Prop :=
  ∀ id, id < w.cluster.flights.length → w.cluster.Executes key (.flight id) →
    (w.terms id).isSome = true

instance (w : LeaseWatch σ ω) (key : CacheKey) : Decidable (w.InTime key) :=
  inferInstanceAs (Decidable (∀ id, id < w.cluster.flights.length → _ → _))

end LeaseWatch

namespace LeaseInv

variable {σ ω : Type} [SharedStore σ String] [LawfulStore σ] {key : CacheKey}

theorem fresh (settings : LeaseSettings) (processes : Nat) (now : Moment) (store : σ) :
    LeaseInv key (CacheCluster.fresh settings processes now store : CacheCluster σ ω)
      fun _ => none :=
  ⟨nofun, nofun, nofun, nofun, nofun, nofun⟩

theorem run {w : LeaseWatch σ ω} {events : List (CacheEvent ω)}
    (inv : LeaseInv key w.cluster w.terms) (orderly : ∀ event ∈ events, event.IsOrderly key) :
    LeaseInv key (w.run events).cluster (w.run events).terms := by
  induction events generalizing w with
  | nil => exact inv
  | cons event rest ih =>
    exact ih (inv.next (orderly event List.mem_cons_self)) fun e he =>
      orderly e (List.mem_cons_of_mem event he)

theorem not_executes_call {s : CacheCluster σ ω} {terms : Nat → Option Moment}
    (inv : LeaseInv key s terms) (id : Nat) : ¬s.Executes key (.call id) := by
  intro h
  obtain ⟨c, hc, hkey, runs⟩ := CacheCluster.executes_call.1 h
  cases hs : c.stage with
  | running => exact inv.calls hc hkey hs
  | _ =>
    rw [hs] at runs
    cases runs

/-- An execution holds the lease of its key. -/
theorem record?_of_executes {w : LeaseWatch σ ω} (inv : LeaseInv key w.cluster w.terms)
    (inTime : w.InTime key) {id : Nat} (h : w.cluster.Executes key (.flight id)) :
    ∃ m, record? w.cluster.store key.lease =
      some (toString id, after m w.cluster.settings.span) := by
  obtain ⟨f, hf, hkey, runs⟩ := CacheCluster.executes_flight.1 h
  obtain ⟨m, hm⟩ :=
    Option.isSome_iff_exists.1 (inTime id (List.getElem?_eq_some_iff.1 hf).1 h)
  have guarded : f.stage.hasGuard = true := by
    cases hs : f.stage with
    | running renewal =>
      cases renewal with
      | none => exact absurd hs (inv.leased hf)
      | some due => rfl
    | _ =>
      rw [hs] at runs
      cases runs
  have record := inv.leases hf guarded hm
  rw [hkey, inv.owners hf] at record
  exact ⟨m, record⟩

/-- Two executions of a key would both hold its lease. -/
theorem runner_unique {w : LeaseWatch σ ω} (inv : LeaseInv key w.cluster w.terms)
    (inTime : w.InTime key) {a b : Runner} (ha : w.cluster.Executes key a)
    (hb : w.cluster.Executes key b) : a = b := by
  cases a with
  | call id => exact absurd ha (inv.not_executes_call id)
  | flight i =>
    cases b with
    | call id => exact absurd hb (inv.not_executes_call id)
    | flight j =>
      obtain ⟨m, hi⟩ := inv.record?_of_executes inTime ha
      obtain ⟨n, hj⟩ := inv.record?_of_executes inTime hb
      rw [hi] at hj
      rw [Nat.repr_injective (Prod.mk.inj (Option.some.inj hj)).1]

end LeaseInv

variable {σ ω : Type} [SharedStore σ String] [LawfulStore σ]

/-- In every run a key has at most one execution at a time, and none starts while the store holds
an entry of it. -/
theorem single_flight {key : CacheKey} {settings : LeaseSettings} {processes : Nat} {now : Moment}
    {store : σ} {events : List (CacheEvent ω)}
    (orderly : ∀ event ∈ events, event.IsOrderly key)
    (inTime : ∀ before, before <+: events →
      ((LeaseWatch.mk (.fresh settings processes now store) fun _ => none).run before).InTime key) :
    let start : CacheCluster σ ω := .fresh settings processes now store
    (∀ a b, (start.run events).Executes key a → (start.run events).Executes key b → a = b) ∧
      ∀ before event runner, before ++ [event] <+: events →
        ¬(start.run before).Executes key runner →
        (start.run (before ++ [event])).Executes key runner →
        ¬(start.run before).HoldsEntry key := by
  intro start
  let watch : LeaseWatch σ ω := ⟨start, fun _ => none⟩
  have inv {before : List (CacheEvent ω)} (h : before <+: events) :
      LeaseInv key (watch.run before).cluster (watch.run before).terms :=
    (LeaseInv.fresh settings processes now store).run fun e he => orderly e (h.subset he)
  refine ⟨fun a b ha hb => ?_, fun before event runner h idle runs held => idle ?_⟩
  · have whole : events <+: events := List.prefix_refl events
    have cluster : (watch.run events).cluster = start.run events := watch.run_cluster events
    exact (inv whole).runner_unique (inTime events whole) (cluster ▸ ha) (cluster ▸ hb)
  · have cluster : (watch.run (before ++ [event])).cluster = start.run (before ++ [event]) :=
      watch.run_cluster _
    cases runner with
    | call id => exact absurd (cluster ▸ runs) ((inv h).not_executes_call id)
    | flight id =>
      obtain ⟨f, hf, hkey, running⟩ := CacheCluster.executes_flight.1 runs
      rw [CacheCluster.run_concat] at hf
      rcases CacheCluster.runsOn_of_step (orderly event (h.subset (by simp))) hf running with
        ⟨old, hold, same, ran⟩ | unknown
      · exact CacheCluster.executes_flight.2 ⟨old, hold, same.trans hkey, ran⟩
      · obtain ⟨rows, found⟩ := CacheCluster.look_of_holdsEntry held
        exact absurd found (hkey ▸ unknown rows)

/-! ## two processes -/

namespace SingleFlightSample

def key : CacheKey := ⟨"qc:v1:sales"⟩

def request (process : Nat) : CacheRequest Unit :=
  ⟨process, key, .ofSeconds 60, .ofSeconds 30, ()⟩

/-- Two processes are asked for a key; one runs its job past a renewal while the other waits. -/
def events : List (CacheEvent Unit) :=
  [.arrive (request 0), .arrive (request 1), .stepCall 0 [], .stepCall 1 [], .stepCall 0 [],
    .stepCall 1 [], .stepFlight 0 [], .stepFlight 1 [], .stepFlight 0 [],
    .tick ⟨.ofSeconds 4, 4000⟩, .stepFlight 0 [], .stepFlight 1 [], .stepFlight 1 []]

end SingleFlightSample

open SingleFlightSample in
theorem single_flight_sample :
    let start : CacheCluster (MemoryStore String) Unit := .fresh {} 2 ⟨.zero, 0⟩ {}
    (start.run events).Executes key (.flight 0) ∧
      (∀ a, (start.run events).Executes key a → .flight 0 = a) ∧
      ¬(start.run (events.take 8)).HoldsEntry key := by
  intro start
  have orderly : ∀ event ∈ events, event.IsOrderly key := by
    simp [events, CacheEvent.IsOrderly, request, Duration.ofSeconds, Duration.zero]
  have inTime : ∀ before ∈ events.inits,
      ((LeaseWatch.mk start fun _ => none).run before).InTime key := by decide
  have executes : (start.run events).Executes key (.flight 0) := by decide
  obtain ⟨unique, starts⟩ :=
    single_flight orderly fun before h => inTime before ((List.mem_inits ..).2 h)
  refine ⟨executes, fun a ha => unique _ a executes ha, ?_⟩
  exact starts (events.take 8) (.stepFlight 0 []) (.flight 0) ⟨events.drop 9, rfl⟩ (by decide)
    (by decide)

end AnalyticsGateway
