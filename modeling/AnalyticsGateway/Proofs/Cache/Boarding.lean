import AnalyticsGateway.Proofs.Cache.Runner
import Mathlib.Data.List.Induction
import Mathlib.Data.Option.Basic

/-!
# Calls on board

A call that keeps up a flight comes home with what the flight lands with, whatever happens in
between (`IsAboard.step`): a flight is not deserted while it is kept up, and what has landed stays
landed. Calls and flights only go on (`goesOn_step`), so a job is started once at most and a call
starts one flight at most.
-/

namespace AnalyticsGateway

/-! ## phases -/

/-- Whether the flight has still to run its job, runs it, or never will again. -/
def FlightStage.phase : FlightStage → Nat
  | claiming | rechecking | waiting _ | polling => 0
  | running _ => 1
  | publishing _ | releasing _ | landed _ | deserted => 2

/-- Whether the call has still to board a flight, runs its job itself, or does neither any more. -/
def CallStage.phase : CallStage → Nat
  | looking | joining => 0
  | running => 1
  | flying _ | leaving .. | returned _ | cancelled => 2

theorem FlightStage.phase_eq_one (stage : FlightStage) :
    stage.phase = 1 ↔ stage.isRunning = true := by
  cases stage <;> simp [phase, isRunning]

theorem CallStage.phase_eq_one (stage : CallStage) : stage.phase = 1 ↔ stage.isRunning = true := by
  cases stage <;> simp [phase, isRunning]

theorem FlightStage.phase_le_two (stage : FlightStage) : stage.phase ≤ 2 := by
  cases stage <;> simp [phase]

theorem CallStage.phase_le_two (stage : CallStage) : stage.phase ≤ 2 := by
  cases stage <;> simp [phase]

namespace CacheCluster

variable {σ ω : Type}

/-- How far a runner is, with 0 for one that is not known yet. -/
def phase (s : CacheCluster σ ω) : Runner → Nat
  | .call id => (s.calls[id]?.map fun c => c.stage.phase).getD 0
  | .flight id => (s.flights[id]?.map fun f => f.stage.phase).getD 0

theorem phase_of_call {s : CacheCluster σ ω} {id : Nat} {c : CacheCall ω}
    (h : s.calls[id]? = some c) : s.phase (.call id) = c.stage.phase := by
  rw [phase, h, Option.map_some, Option.getD_some]

theorem phase_of_flight {s : CacheCluster σ ω} {id : Nat} {f : Flight ω}
    (h : s.flights[id]? = some f) : s.phase (.flight id) = f.stage.phase := by
  rw [phase, h, Option.map_some, Option.getD_some]

theorem phase_eq_one {s : CacheCluster σ ω} {runner : Runner} :
    s.phase runner = 1 ↔ (s.job? runner).isSome = true := by
  cases runner with
  | call id =>
    cases h : s.calls[id]? with
    | none => simp [phase, job?, h]
    | some c =>
      rw [phase_of_call h, CallStage.phase_eq_one]
      cases hr : c.stage.isRunning <;> simp [job?, h, hr, guard, failure]
  | flight id =>
    cases h : s.flights[id]? with
    | none => simp [phase, job?, h]
    | some f =>
      rw [phase_of_flight h, FlightStage.phase_eq_one]
      cases hr : f.stage.isRunning <;> simp [job?, h, hr, guard, failure]

/-- No runner has gone back. -/
def GoesOn (s t : CacheCluster σ ω) : Prop := ∀ runner, s.phase runner ≤ t.phase runner

theorem GoesOn.refl (s : CacheCluster σ ω) : s.GoesOn s := fun _ => Nat.le_refl _

theorem GoesOn.trans {s t u : CacheCluster σ ω} (h : s.GoesOn t) (h' : t.GoesOn u) : s.GoesOn u :=
  fun runner => Nat.le_trans (h runner) (h' runner)

theorem goesOn_of_eq {s t : CacheCluster σ ω} (calls : t.calls = s.calls)
    (flights : t.flights = s.flights) : s.GoesOn t := by
  intro runner
  cases runner with
  | call id => exact Nat.le_of_eq (by rw [phase, phase, calls])
  | flight id => exact Nat.le_of_eq (by rw [phase, phase, flights])

theorem goesOn_setCall {s : CacheCluster σ ω} {id : Nat} {stage : CallStage}
    (le : ∀ c, s.calls[id]? = some c → c.stage.phase ≤ stage.phase) :
    s.GoesOn (s.setCall id stage) := by
  intro runner
  cases runner with
  | flight i => exact Nat.le_refl _
  | call i =>
    rw [phase, phase, setCall, List.getElem?_modify]
    cases h : s.calls[i]? with
    | none => exact Nat.zero_le _
    | some c =>
      by_cases same : id = i
      · subst same
        simpa using le c h
      · simp [same]

theorem goesOn_setFlight {s : CacheCluster σ ω} {id : Nat} {stage : FlightStage}
    (le : ∀ f, s.flights[id]? = some f → f.stage.phase ≤ stage.phase) :
    s.GoesOn (s.setFlight id stage) := by
  intro runner
  cases runner with
  | call i => exact Nat.le_refl _
  | flight i =>
    rw [phase, phase, setFlight, List.getElem?_modify]
    cases h : s.flights[i]? with
    | none => exact Nat.zero_le _
    | some f =>
      by_cases same : id = i
      · subst same
        simpa using le f h
      · simp [same]

theorem goesOn_withCall (s : CacheCluster σ ω) (c : CacheCall ω) :
    s.GoesOn { s with calls := s.calls ++ [c] } := by
  intro runner
  cases runner with
  | flight i => exact Nat.le_refl _
  | call i =>
    cases h : s.calls[i]? with
    | none => simp [phase, h]
    | some d =>
      exact Nat.le_of_eq (by rw [phase_of_call h, phase_of_call (getElem?_concat_of_some h c)])

theorem goesOn_withFlight (s : CacheCluster σ ω) (f : Flight ω) :
    s.GoesOn { s with flights := s.flights ++ [f] } := by
  intro runner
  cases runner with
  | call i => exact Nat.le_refl _
  | flight i =>
    cases h : s.flights[i]? with
    | none => simp [phase, h]
    | some g =>
      exact Nat.le_of_eq (by rw [phase_of_flight h, phase_of_flight (getElem?_concat_of_some h f)])

theorem goesOn_complete (s : CacheCluster σ ω) (runner : Runner)
    (result : Except GatewayError RowSet) : s.GoesOn (s.complete runner result) := by
  have move := s.complete_move runner result
  generalize s.complete runner result = t at move
  cases move with
  | answered _ _ => exact goesOn_setCall fun c _ => c.stage.phase_le_two
  | stays => exact .refl s
  | _ => exact goesOn_setFlight fun f _ => f.stage.phase_le_two

theorem goesOn_cancel (s : CacheCluster σ ω) (id : Nat) : s.GoesOn (s.cancel id) := by
  have cancelled : s.GoesOn (s.setCall id .cancelled) :=
    goesOn_setCall fun c _ => c.stage.phase_le_two
  rcases s.cancel_cases id with eq | eq | ⟨flight, -, eq⟩ <;> rw [eq]
  · exact .refl s
  · exact cancelled
  · refine cancelled.trans ?_
    rcases (s.setCall id .cancelled).desert_cases flight with eq | ⟨f, lease, -, -, -, eq⟩ <;>
      rw [eq]
    · exact .refl _
    · have deserted : (s.setCall id .cancelled).GoesOn
          ((s.setCall id .cancelled).setFlight flight .deserted) :=
        goesOn_setFlight fun f _ => f.stage.phase_le_two
      exact deserted.trans (goesOn_of_eq rfl rfl)

variable [SharedStore σ String]

theorem FlightMove.phase_le {s : CacheCluster σ ω} {failing : List StoreOperation} {f : Flight ω}
    {stage : FlightStage} {store : σ} (move : s.FlightMove failing f stage store) :
    f.stage.phase ≤ stage.phase := by
  cases move with
  | stays _ => exact Nat.le_refl _
  | refused claims _ _ =>
    rw [claims]
    exact Nat.zero_le _
  | renews runs _ =>
    rw [runs]
    exact Nat.le_refl 1
  | published | unpublished | releases | polled => exact f.stage.phase_le_two
  | claimed h | unclaimed h | found h | starts h | awakes h | retries h =>
    rw [h]
    exact Nat.zero_le _

theorem FlightMove.landed {s : CacheCluster σ ω} {failing : List StoreOperation} {f : Flight ω}
    {stage : FlightStage} {store : σ} (move : s.FlightMove failing f stage store)
    {result : FlightResult} (lands : f.stage = .landed result) : stage = .landed result := by
  cases move with
  | stays _ => exact lands
  | claimed h | refused h | unclaimed h | found h | starts h | renews h | published h
  | unpublished h | releases h | awakes h | polled h | retries h => cases lands.symm.trans h

theorem FlightMove.aloft {s : CacheCluster σ ω} {failing : List StoreOperation} {f : Flight ω}
    {stage : FlightStage} {store : σ} (move : s.FlightMove failing f stage store)
    (there : f.stage ≠ .deserted) : stage ≠ .deserted := by
  cases move with
  | stays _ => exact there
  | refused _ _ stages => rcases stages with ⟨-, rfl⟩ | ⟨till, rfl⟩ <;> exact nofun
  | _ => exact nofun

theorem goesOn_stepFlight (s : CacheCluster σ ω) (failing : List StoreOperation) (id : Nat) :
    s.GoesOn (s.stepFlight failing id) := by
  cases hf : s.flights[id]? with
  | none =>
    rw [stepFlight_of_none hf]
    exact .refl s
  | some f =>
    obtain ⟨stage, store, move, eq⟩ := stepFlight_move failing hf
    have moved : s.GoesOn ({ s with store }.setFlight id stage) := by
      refine (goesOn_of_eq (t := { s with store }) rfl rfl).trans (goesOn_setFlight fun g hg => ?_)
      cases hf.symm.trans hg
      exact move.phase_le
    exact moved.trans (goesOn_of_eq (of_bare_eq eq).calls (of_bare_eq eq).flights)

theorem goesOn_stepCall (s : CacheCluster σ ω) (failing : List StoreOperation) (id : Nat) :
    s.GoesOn (s.stepCall failing id) := by
  cases hc : s.calls[id]? with
  | none =>
    rw [stepCall_of_none hc]
    exact .refl s
  | some c =>
    obtain ⟨t, move, eq⟩ := stepCall_move failing hc
    refine GoesOn.trans ?_ (goesOn_of_eq (of_bare_eq eq).calls (of_bare_eq eq).flights)
    have last {t : CacheCluster σ ω} {stage : CallStage} (ended : stage.phase = 2) :
        t.GoesOn (t.setCall id stage) := goesOn_setCall fun c _ => ended ▸ c.stage.phase_le_two
    cases move with
    | missed looking =>
      refine goesOn_setCall fun d hd => ?_
      cases hc.symm.trans hd
      rw [looking]
      exact Nat.zero_le _
    | started _ _ => exact (goesOn_withFlight s _).trans ((goesOn_of_eq rfl rfl).trans (last rfl))
    | left _ => exact (goesOn_of_eq (s.forget_calls c _) (s.forget_flights c _)).trans (last rfl)
    | found | joined | landed => exact last rfl
    | stays => exact .refl s

theorem goesOn_step (s : CacheCluster σ ω) (event : CacheEvent ω) : s.GoesOn (s.step event) := by
  cases event with
  | tick now => exact goesOn_of_eq rfl rfl
  | arrive request => exact goesOn_withCall s _
  | stepCall id failing => exact goesOn_stepCall s failing id
  | stepFlight id failing => exact goesOn_stepFlight s failing id
  | complete runner result => exact goesOn_complete s runner result
  | cancel call => exact goesOn_cancel s call
  | releaseAbandoned failing =>
    rcases s.releaseAbandoned_cases failing with eq | ⟨a, rest, -, eq⟩
    all_goals
      rw [step, eq]
      exact goesOn_of_eq rfl rfl
  | purge failing => exact goesOn_of_eq rfl rfl

/-! ## what has been returned -/

omit [SharedStore σ String] in
theorem cancel_of_returned {s : CacheCluster σ ω} {id : Nat} {c : CacheCall ω}
    (hc : s.calls[id]? = some c) {answer : Except GatewayError QueryResult}
    (returned : c.stage = .returned answer) : s.cancel id = s := by
  have ended : c.stage.isPending = false := by rw [returned, CallStage.isPending]
  simp [cancel, hc, ended]

theorem stepCall_of_returned {s : CacheCluster σ ω} {call : Nat} {c : CacheCall ω}
    (hc : s.calls[call]? = some c) {answer : Except GatewayError QueryResult}
    (returned : c.stage = .returned answer) (failing : List StoreOperation) (id : Nat) :
    (s.stepCall failing id).calls[call]? = some c := by
  cases hd : s.calls[id]? with
  | none => rwa [stepCall_of_none hd]
  | some d =>
    obtain ⟨t, move, eq⟩ := stepCall_move failing hd
    rw [(of_bare_eq eq).calls]
    have apart {stage : CallStage} (stands : d.stage = stage)
        (pending : ∀ answer, stage ≠ .returned answer) : id ≠ call := by
      rintro rfl
      cases hc.symm.trans hd
      exact pending _ (stands.symm.trans returned)
    cases move with
    | stays => exact hc
    | left leaves =>
      rw [setCall, List.getElem?_modify_ne _ _ (apart leaves (by rintro _ ⟨⟩)), forget_calls, hc]
    | started joins _ =>
      exact (List.getElem?_modify_ne _ _ (apart joins (by rintro _ ⟨⟩))).trans hc
    | found stands _ | missed stands | joined stands _ | landed stands _ _ =>
      exact (List.getElem?_modify_ne _ _ (apart stands (by rintro _ ⟨⟩))).trans hc

/-- A call that has returned has returned for good. -/
theorem getElem?_step_of_returned {s : CacheCluster σ ω} {call : Nat} {c : CacheCall ω}
    (hc : s.calls[call]? = some c) {answer : Except GatewayError QueryResult}
    (returned : c.stage = .returned answer) (event : CacheEvent ω) :
    (s.step event).calls[call]? = some c := by
  have other {id : Nat} {stage : CallStage} (other : id ≠ call) :
      (s.setCall id stage).calls[call]? = some c :=
    (List.getElem?_modify_ne _ _ other).trans hc
  cases event with
  | tick now => exact hc
  | arrive request => exact getElem?_concat_of_some hc _
  | stepCall id failing => exact stepCall_of_returned hc returned failing id
  | stepFlight id failing => rwa [step, stepFlight_calls]
  | complete runner result =>
    have move := s.complete_move runner result
    rw [step]
    generalize s.complete runner result = t at move
    cases move with
    | answered hd runs =>
      refine other ?_
      rintro rfl
      cases hc.symm.trans hd
      cases runs.symm.trans returned
    | _ => exact hc
  | cancel id =>
    by_cases same : id = call
    · rwa [step, same, cancel_of_returned hc returned]
    · rcases s.cancel_cases id with eq | eq | ⟨flight, -, eq⟩ <;> rw [step, eq]
      · exact hc
      · exact other same
      · rcases (s.setCall id .cancelled).desert_cases flight with eq | ⟨f, lease, -, -, -, eq⟩ <;>
          rw [eq] <;> exact other same
  | releaseAbandoned failing =>
    rcases s.releaseAbandoned_cases failing with eq | ⟨a, rest, -, eq⟩ <;> rw [step, eq] <;>
      exact hc
  | purge failing => exact hc

/-- How a call comes to its answer: by what it finds, by its own job, or by its flight. -/
inductive Answers (s : CacheCluster σ ω) (event : CacheEvent ω) (call : Nat) (c : CacheCall ω) :
    Except GatewayError QueryResult → Prop
  | found {rows : RowSet} : c.stage = .looking →
    Answers s event call c (c.answer s.now.clock (.ok ⟨rows, true⟩))
  | ran {result : Except GatewayError RowSet} : event = .complete (.call call) result →
    c.stage = .running →
    Answers s event call c (c.answer s.now.clock (result.map fun rows => ⟨rows, false⟩))
  | left {flight : Nat} {result : FlightResult} : c.stage = .leaving flight result →
    Answers s event call c (c.answer s.now.clock result)

omit [SharedStore σ String] in
theorem of_setCall_pending {s : CacheCluster σ ω} {id call : Nat} {stage : CallStage}
    {c : CacheCall ω} {answer : Except GatewayError QueryResult}
    (hc : (s.setCall id stage).calls[call]? = some c) (returned : c.stage = .returned answer)
    (pending : ∀ answer, stage ≠ .returned answer) : s.calls[call]? = some c := by
  rcases of_setCall hc with ⟨-, hc⟩ | ⟨-, old, -, rfl⟩
  · exact hc
  · exact absurd returned (pending _)

theorem returned_of_stepCall {s : CacheCluster σ ω} {failing : List StoreOperation} {id call : Nat}
    {c : CacheCall ω} {answer : Except GatewayError QueryResult}
    (hc : (s.stepCall failing id).calls[call]? = some c) (returned : c.stage = .returned answer) :
    s.calls[call]? = some c ∨
      ∃ old, s.calls[call]? = some old ∧ s.Answers (.stepCall id failing) call old answer := by
  cases hd : s.calls[id]? with
  | none => exact .inl (by rwa [stepCall_of_none hd] at hc)
  | some d =>
    obtain ⟨t, move, eq⟩ := stepCall_move failing hd
    rw [(of_bare_eq eq).calls] at hc
    cases move with
    | stays => exact .inl hc
    | found looking _ =>
      rcases of_setCall hc with ⟨-, hc⟩ | ⟨rfl, old, hold, rfl⟩
      · exact .inl hc
      · cases hd.symm.trans hold
        cases returned
        exact .inr ⟨d, hd, .found looking⟩
    | left leaves =>
      rcases of_setCall hc with ⟨-, hc⟩ | ⟨rfl, old, hold, rfl⟩ <;> rw [forget_calls] at *
      · exact .inl hc
      · cases hd.symm.trans hold
        cases returned
        exact .inr ⟨d, hd, .left leaves⟩
    | started _ _ => exact .inl (of_setCall_pending hc returned (by rintro _ ⟨⟩))
    | missed | joined | landed =>
      exact .inl (of_setCall_pending hc returned (by rintro _ ⟨⟩))

/-- A call that has returned has done so before, or does so with the event. -/
theorem returned_cases {s : CacheCluster σ ω} {event : CacheEvent ω} {call : Nat} {c : CacheCall ω}
    {answer : Except GatewayError QueryResult} (hc : (s.step event).calls[call]? = some c)
    (returned : c.stage = .returned answer) : s.calls[call]? = some c ∨
      ∃ old, s.calls[call]? = some old ∧ s.Answers event call old answer := by
  cases event with
  | tick now => exact .inl hc
  | arrive request =>
    rcases of_concat hc with hc | ⟨-, rfl⟩
    · exact .inl hc
    · simp only at returned
      split at returned <;> cases returned
  | stepCall id failing => exact returned_of_stepCall hc returned
  | stepFlight id failing =>
    rw [step, stepFlight_calls] at hc
    exact .inl hc
  | complete runner result =>
    have move := s.complete_move runner result
    rw [step] at hc
    generalize s.complete runner result = t at move hc
    cases move with
    | answered hd runs =>
      rcases of_setCall hc with ⟨-, hc⟩ | ⟨rfl, old, hold, rfl⟩
      · exact .inl hc
      · cases hd.symm.trans hold
        cases returned
        exact .inr ⟨_, hd, .ran rfl runs⟩
    | _ => exact .inl hc
  | cancel id =>
    rcases s.cancel_cases id with eq | eq | ⟨flight, -, eq⟩ <;> rw [step, eq] at hc
    · exact .inl hc
    · exact .inl (of_setCall_pending hc returned (by rintro _ ⟨⟩))
    · have cancelled : (s.setCall id .cancelled).calls[call]? = some c := by
        rcases (s.setCall id .cancelled).desert_cases flight with eq | ⟨f, lease, -, -, -, eq⟩ <;>
          rw [eq] at hc <;> exact hc
      exact .inl (of_setCall_pending cancelled returned (by rintro _ ⟨⟩))
  | releaseAbandoned failing =>
    rcases s.releaseAbandoned_cases failing with eq | ⟨a, rest, -, eq⟩ <;> rw [step, eq] at hc <;>
      exact .inl hc
  | purge failing => exact .inl hc

/-! ## on board -/

omit [SharedStore σ String]

theorem isKeptUp_iff {s : CacheCluster σ ω} {flight : Nat} : s.isKeptUp flight = true ↔
    ∃ (call : Nat) (c : CacheCall ω), s.calls[call]? = some c ∧ c.stage.flight? = some flight := by
  simp only [isKeptUp, List.any_eq_true, beq_iff_eq]
  constructor
  · rintro ⟨c, mem, keeps⟩
    obtain ⟨call, hc⟩ := List.getElem?_of_mem mem
    exact ⟨call, c, hc, keeps⟩
  · rintro ⟨call, c, hc, keeps⟩
    exact ⟨c, List.mem_of_getElem? hc, keeps⟩

/-- A call is with a flight, or has come home with what the flight has landed with. -/
inductive Boards (c : CacheCall ω) (flight : Nat) (f : Flight ω) : Prop
  | flies : c.stage = .flying flight → f.stage ≠ .deserted → Boards c flight f
  | leaves {result : FlightResult} : c.stage = .leaving flight result → f.stage = .landed result →
    Boards c flight f
  | returned {result : FlightResult} (now : Instant) :
    c.stage = .returned (c.answer now result) → f.stage = .landed result → Boards c flight f
  | cancelled : c.stage = .cancelled → Boards c flight f

def IsAboard (s : CacheCluster σ ω) (call flight : Nat) : Prop :=
  ∃ c f, s.calls[call]? = some c ∧ s.flights[flight]? = some f ∧ Boards c flight f

namespace IsAboard

variable {s t : CacheCluster σ ω} {call flight id : Nat}

theorem of_eq (aboard : s.IsAboard call flight) (calls : t.calls = s.calls)
    (flights : t.flights = s.flights) : t.IsAboard call flight := by
  rwa [IsAboard, calls, flights]

/-- Calls and flights may come after those that there are. -/
theorem of_longer (aboard : s.IsAboard call flight) {calls : List (CacheCall ω)}
    {flights : List (Flight ω)} (longer : t.calls = s.calls ++ calls)
    (longer' : t.flights = s.flights ++ flights) : t.IsAboard call flight := by
  obtain ⟨c, f, hc, hf, boards⟩ := aboard
  refine ⟨c, f, ?_, ?_, boards⟩
  · rw [longer, List.getElem?_append_left (List.getElem?_eq_some_iff.1 hc).1, hc]
  · rw [longer', List.getElem?_append_left (List.getElem?_eq_some_iff.1 hf).1, hf]

theorem setOther (aboard : s.IsAboard call flight) (other : call ≠ id) (stage : CallStage) :
    (s.setCall id stage).IsAboard call flight := by
  obtain ⟨c, f, hc, hf, boards⟩ := aboard
  exact ⟨c, f, (List.getElem?_modify_ne _ _ other.symm).trans hc, hf, boards⟩

theorem setSelf (aboard : s.IsAboard call flight) {stage : CallStage}
    (boards : ∀ c f, s.calls[call]? = some c → s.flights[flight]? = some f → Boards c flight f →
      Boards { c with stage } flight f) : (s.setCall call stage).IsAboard call flight := by
  obtain ⟨c, f, hc, hf, before⟩ := aboard
  refine ⟨{ c with stage }, f, ?_, hf, boards c f hc hf before⟩
  rw [setCall, List.getElem?_modify_eq, hc]
  rfl

/-- What has landed stays, and what is not deserted is not deserted then. -/
theorem setFlight (aboard : s.IsAboard call flight) {stage : FlightStage}
    (landed : ∀ f result, s.flights[id]? = some f → f.stage = .landed result →
      stage = .landed result)
    (aloft : ∀ f, s.flights[id]? = some f → f.stage ≠ .deserted → stage ≠ .deserted) :
    (s.setFlight id stage).IsAboard call flight := by
  obtain ⟨c, f, hc, hf, boards⟩ := aboard
  by_cases same : id = flight
  · subst same
    refine ⟨c, { f with stage }, hc, ?_, ?_⟩
    · rw [CacheCluster.setFlight, List.getElem?_modify_eq, hf]
      rfl
    · cases boards with
      | flies flies there => exact .flies flies (aloft f hf there)
      | leaves leaves lands => exact .leaves leaves (landed f _ hf lands)
      | returned now returned lands => exact .returned now returned (landed f _ hf lands)
      | cancelled cancelled => exact .cancelled cancelled
  · exact ⟨c, f, hc, (List.getElem?_modify_ne _ _ same).trans hf, boards⟩

theorem complete (aboard : s.IsAboard call flight) (runner : Runner)
    (result : Except GatewayError RowSet) : (s.complete runner result).IsAboard call flight := by
  have move := s.complete_move runner result
  generalize s.complete runner result = t at move
  cases move with
  | @answered id d hd runs =>
    refine aboard.setOther ?_ _
    rintro rfl
    obtain ⟨c, f, hc, -, boards⟩ := aboard
    cases hc.symm.trans hd
    cases boards with
    | flies stage | leaves stage | returned _ stage | cancelled stage => cases runs.symm.trans stage
  | stays => exact aboard
  | succeeded hf runs _ | failed hf runs _ | landed hf runs =>
    refine aboard.setFlight (fun g _ hg lands => ?_) fun _ _ _ => nofun
    cases hf.symm.trans hg
    cases runs.symm.trans lands

/-- Nobody deserts a flight that a call is with. -/
theorem desert (aboard : s.IsAboard call flight) (left : s.isKeptUp id = false) :
    (s.desert id).IsAboard call flight := by
  rcases s.desert_cases id with eq | ⟨g, lease, hg, aloft, -, eq⟩ <;> rw [eq]
  · exact aboard
  · obtain ⟨c, f, hc, hf, boards⟩ := aboard
    by_cases same : id = flight
    · subst same
      cases hg.symm.trans hf
      cases boards with
      | flies flies _ =>
        have kept : s.isKeptUp id = true :=
          isKeptUp_iff.2 ⟨call, c, hc, by rw [flies, CallStage.flight?]⟩
        exact absurd (left.symm.trans kept) Bool.false_ne_true
      | leaves _ lands | returned _ _ lands => exact absurd lands (aloft _)
      | cancelled cancelled =>
        refine ⟨c, { g with stage := .deserted }, hc, ?_, .cancelled cancelled⟩
        rw [CacheCluster.setFlight, List.getElem?_modify_eq, hf]
        rfl
    · exact ⟨c, f, hc, (List.getElem?_modify_ne _ _ same).trans hf, boards⟩

theorem cancel (aboard : s.IsAboard call flight) (id : Nat) :
    (s.cancel id).IsAboard call flight := by
  have cancelled : (s.setCall id .cancelled).IsAboard call flight := by
    by_cases same : call = id
    · exact same ▸ aboard.setSelf fun _ _ _ _ _ => .cancelled rfl
    · exact aboard.setOther same _
  rcases s.cancel_cases id with eq | eq | ⟨flight', left, eq⟩ <;> rw [eq]
  · exact aboard
  · exact cancelled
  · exact cancelled.desert left

theorem forget (aboard : s.IsAboard call flight) (d : CacheCall ω) (flight' : Nat) :
    (s.forget d flight').IsAboard call flight :=
  aboard.of_eq (s.forget_calls d flight') (s.forget_flights d flight')

variable [SharedStore σ String]

theorem stepFlight (aboard : s.IsAboard call flight) (failing : List StoreOperation) (id : Nat) :
    (s.stepFlight failing id).IsAboard call flight := by
  cases hf : s.flights[id]? with
  | none => rwa [stepFlight_of_none hf]
  | some f =>
    obtain ⟨stage, store, move, eq⟩ := stepFlight_move failing hf
    have used : ({ s with store } : CacheCluster σ ω).IsAboard call flight := aboard.of_eq rfl rfl
    have moved : ({ s with store }.setFlight id stage).IsAboard call flight := by
      refine used.setFlight (fun g result hg lands => ?_) fun g hg there => ?_
      · cases hf.symm.trans hg
        exact move.landed lands
      · cases hf.symm.trans hg
        exact move.aloft there
    exact moved.of_eq (of_bare_eq eq).calls (of_bare_eq eq).flights

/-- A call that is aboard takes the next step of its own journey. -/
theorem ownMove {failing : List StoreOperation} {d : CacheCall ω} {t : CacheCluster σ ω}
    (aboard : s.IsAboard call flight) (hd : s.calls[call]? = some d)
    (move : CallMove s failing call d t) : t.IsAboard call flight := by
  cases move with
  | stays => exact aboard
  | landed flies hg lands =>
    refine aboard.setSelf fun c f hc hf boards => ?_
    cases hd.symm.trans hc
    cases boards with
    | flies flies' _ =>
      cases flies.symm.trans flies'
      cases hg.symm.trans hf
      exact .leaves rfl lands
    | leaves stage | returned _ stage | cancelled stage => cases flies.symm.trans stage
  | @left flight' result leaves =>
    refine (aboard.forget d flight').setSelf fun c f hc hf boards => ?_
    rw [forget_calls] at hc
    cases hd.symm.trans hc
    cases boards with
    | leaves leaves' lands =>
      cases leaves.symm.trans leaves'
      exact .returned _ rfl lands
    | flies stage | returned _ stage | cancelled stage => cases leaves.symm.trans stage
  | found now _ | missed now | joined now _ | started now _ =>
    obtain ⟨c, f, hc, -, boards⟩ := aboard
    cases hd.symm.trans hc
    cases boards with
    | flies stage | leaves stage | returned _ stage | cancelled stage =>
      cases now.symm.trans stage

theorem otherMove {failing : List StoreOperation} {d : CacheCall ω} {t : CacheCluster σ ω}
    (aboard : s.IsAboard call flight) (other : call ≠ id) (move : CallMove s failing id d t) :
    t.IsAboard call flight := by
  cases move with
  | stays => exact aboard
  | left _ => exact (aboard.forget d _).setOther other _
  | started _ _ =>
    refine IsAboard.setOther ?_ other _
    exact aboard.of_longer (List.append_nil _).symm rfl
  | found | missed | joined | landed => exact aboard.setOther other _

theorem stepCall (aboard : s.IsAboard call flight) (failing : List StoreOperation) (id : Nat) :
    (s.stepCall failing id).IsAboard call flight := by
  cases hd : s.calls[id]? with
  | none => rwa [stepCall_of_none hd]
  | some d =>
    obtain ⟨t, move, eq⟩ := stepCall_move failing hd
    refine IsAboard.of_eq ?_ (of_bare_eq eq).calls (of_bare_eq eq).flights
    by_cases same : call = id
    · subst same
      exact aboard.ownMove hd move
    · exact aboard.otherMove same move

theorem step (aboard : s.IsAboard call flight) (event : CacheEvent ω) :
    (s.step event).IsAboard call flight := by
  cases event with
  | tick now => exact aboard.of_eq rfl rfl
  | arrive request => exact aboard.of_longer rfl (List.append_nil _).symm
  | stepCall id failing => exact aboard.stepCall failing id
  | stepFlight id failing => exact aboard.stepFlight failing id
  | complete runner result => exact aboard.complete runner result
  | cancel id => exact aboard.cancel id
  | releaseAbandoned failing =>
    rcases s.releaseAbandoned_cases failing with eq | ⟨a, rest, -, eq⟩
    all_goals
      rw [CacheCluster.step, eq]
      exact aboard.of_eq rfl rfl
  | purge failing => exact aboard.of_eq rfl rfl

end IsAboard

/-! ## who boards -/

/-- A call that is to join boards the flight of its key, or a new one. -/
inductive Boarding (s : CacheCluster σ ω) (c : CacheCall ω) (flight : Nat) (t : CacheCluster σ ω) :
    Prop
  | joins : s.flightOf? c.process c.key = some flight → t.flights = s.flights →
    Boarding s c flight t
  | starts : s.flightOf? c.process c.key = none → flight = s.flights.length →
    t.flights = s.flights ++ [s.newFlight c] → Boarding s c flight t

section Boarding

variable [SharedStore σ String] {s : CacheCluster σ ω} {call flight : Nat} {c : CacheCall ω}

theorem of_stepCall {failing : List StoreOperation} {id : Nat}
    (hc : (s.stepCall failing id).calls[call]? = some c) (keeps : c.stage.flight? = some flight) :
    (∃ old, s.calls[call]? = some old ∧ old.stage.flight? = some flight) ∨
      id = call ∧ ∃ old, s.calls[call]? = some old ∧ old.stage = .joining ∧
        s.Boarding old flight (s.stepCall failing id) ∧
        c = { old with stage := .flying flight } := by
  cases hd : s.calls[id]? with
  | none =>
    rw [stepCall_of_none hd] at hc
    exact .inl ⟨c, hc, keeps⟩
  | some d =>
    obtain ⟨t, move, eq⟩ := stepCall_move failing hd
    rw [(of_bare_eq eq).calls] at hc
    have flights := (of_bare_eq eq).flights
    have kept_or_own {u : CacheCluster σ ω} {stage : CallStage} (calls : u.calls = s.calls)
        (hc : (u.setCall id stage).calls[call]? = some c) :
        (∃ old, s.calls[call]? = some old ∧ old.stage.flight? = some flight) ∨
          id = call ∧ c = { d with stage } ∧ stage.flight? = some flight := by
      rcases of_setCall hc with ⟨-, hc⟩ | ⟨rfl, old, hold, rfl⟩
      · exact .inl ⟨c, calls ▸ hc, keeps⟩
      · rw [calls] at hold
        cases hd.symm.trans hold
        exact .inr ⟨rfl, rfl, keeps⟩
    cases move with
    | stays => exact .inl ⟨c, hc, keeps⟩
    | joined joins known =>
      rcases kept_or_own rfl hc with old | ⟨rfl, rfl, boards⟩
      · exact .inl old
      · cases boards
        exact .inr ⟨rfl, d, hd, joins, .joins known flights, rfl⟩
    | started joins unknown =>
      rcases kept_or_own rfl hc with old | ⟨rfl, rfl, boards⟩
      · exact .inl old
      · cases boards
        exact .inr ⟨rfl, d, hd, joins, .starts unknown rfl flights, rfl⟩
    | landed flies _ _ =>
      rcases kept_or_own rfl hc with old | ⟨rfl, rfl, boards⟩
      · exact .inl old
      · exact .inl ⟨d, hd, by rw [flies]; exact boards⟩
    | left _ =>
      rcases kept_or_own (s.forget_calls ..) hc with old | ⟨-, -, none⟩
      · exact .inl old
      · cases none
    | found | missed =>
      rcases kept_or_own rfl hc with old | ⟨-, -, none⟩
      · exact .inl old
      · cases none

/-- A call that keeps up a flight after an event has kept it up before, or has just boarded it. -/
theorem of_step {event : CacheEvent ω} (hc : (s.step event).calls[call]? = some c)
    (keeps : c.stage.flight? = some flight) :
    (∃ old, s.calls[call]? = some old ∧ old.stage.flight? = some flight) ∨
      (∃ failing, event = .stepCall call failing) ∧ ∃ old, s.calls[call]? = some old ∧
        old.stage = .joining ∧ s.Boarding old flight (s.step event) ∧
        c = { old with stage := .flying flight } := by
  have same (h : s.calls[call]? = some c) :
      ∃ old, s.calls[call]? = some old ∧ old.stage.flight? = some flight := ⟨c, h, keeps⟩
  have lone {id : Nat} {stage : CallStage} (lone : stage.flight? = none)
      (h : (s.setCall id stage).calls[call]? = some c) : s.calls[call]? = some c := by
    rcases of_setCall h with ⟨-, h⟩ | ⟨-, old, -, rfl⟩
    · exact h
    · cases lone.symm.trans keeps
  cases event with
  | tick now => exact .inl (same hc)
  | arrive request =>
    rcases of_concat hc with hc | ⟨-, rfl⟩
    · exact .inl (same hc)
    · simp only at keeps
      split at keeps <;> cases keeps
  | stepCall id failing =>
    rcases of_stepCall hc keeps with old | ⟨rfl, boarding⟩
    · exact .inl old
    · exact .inr ⟨⟨failing, rfl⟩, boarding⟩
  | stepFlight id failing =>
    rw [step, stepFlight_calls] at hc
    exact .inl (same hc)
  | complete runner result =>
    have move := s.complete_move runner result
    rw [step] at hc
    generalize s.complete runner result = t at move hc
    cases move with
    | answered _ _ => exact .inl (same (lone rfl hc))
    | _ => exact .inl (same hc)
  | cancel id =>
    rcases s.cancel_cases id with eq | eq | ⟨flight', -, eq⟩ <;> rw [step, eq] at hc
    · exact .inl (same hc)
    · exact .inl (same (lone rfl hc))
    · have cancelled : (s.setCall id .cancelled).calls[call]? = some c := by
        rcases (s.setCall id .cancelled).desert_cases flight' with eq | ⟨f, lease, -, -, -, eq⟩ <;>
          rw [eq] at hc <;> exact hc
      exact .inl (same (lone rfl cancelled))
  | releaseAbandoned failing =>
    rcases s.releaseAbandoned_cases failing with eq | ⟨a, rest, -, eq⟩ <;> rw [step, eq] at hc <;>
      exact .inl (same hc)
  | purge failing => exact .inl (same hc)

end Boarding

/-- Every call that keeps up a flight is aboard. -/
def AllAboard (s : CacheCluster σ ω) : Prop :=
  ∀ {call flight : Nat} {c : CacheCall ω}, s.calls[call]? = some c →
    c.stage.flight? = some flight → s.IsAboard call flight

/-- The flight of a key that calls can join is not deserted. -/
theorem AllAboard.of_flightOf? {s : CacheCluster σ ω} (all : s.AllAboard) {process flight : Nat}
    {key : CacheKey} (h : s.flightOf? process key = some flight) :
    ∃ f, s.flights[flight]? = some f ∧ f.stage ≠ .deserted := by
  unfold flightOf? at h
  obtain ⟨p, -, h⟩ := Option.bind_eq_some_iff.1 h
  obtain ⟨other, -, h⟩ := Option.bind_eq_some_iff.1 h
  obtain ⟨_, guarded, h⟩ := Option.bind_eq_some_iff.1 h
  cases h
  have kept : s.isKeptUp flight = true := by
    cases kept : s.isKeptUp flight
    · simp [kept, guard, failure] at guarded
    · rfl
  obtain ⟨call, c, hc, keeps⟩ := isKeptUp_iff.1 kept
  obtain ⟨c', f, hc', hf, boards⟩ := all hc keeps
  cases hc.symm.trans hc'
  refine ⟨f, hf, ?_⟩
  cases boards with
  | flies _ there => exact there
  | leaves _ lands =>
    rw [lands]
    exact nofun
  | returned _ stage | cancelled stage =>
    rw [stage] at keeps
    cases keeps

theorem AllAboard.step [SharedStore σ String] {s : CacheCluster σ ω} (all : s.AllAboard)
    (event : CacheEvent ω) : (s.step event).AllAboard := by
  intro call flight c hc keeps
  rcases of_step hc keeps with ⟨old, hold, kept⟩ | ⟨-, old, -, -, boarding, rfl⟩
  · exact (all hold kept).step event
  · cases boarding with
    | joins known flights =>
      obtain ⟨f, hf, there⟩ := all.of_flightOf? known
      exact ⟨_, f, hc, flights ▸ hf, .flies rfl there⟩
    | starts _ last flights =>
      subst last
      refine ⟨_, s.newFlight old, hc, ?_, .flies rfl nofun⟩
      rw [flights]
      exact getElem?_concat_length ..

/-! ## runs -/

section Runs

variable [SharedStore σ String] {start : CacheCluster σ ω} {events before : List (CacheEvent ω)}
  {event : CacheEvent ω}

/-- What every event keeps is kept from a part of a run on. -/
theorem run_of_prefix {P : CacheCluster σ ω → Prop}
    (step : ∀ (s : CacheCluster σ ω) (event : CacheEvent ω), P s → P (s.step event))
    (reached : before <+: events) (h : P (start.run before)) : P (start.run events) := by
  obtain ⟨rest, rfl⟩ := reached
  induction rest using List.reverseRecOn with
  | nil => rwa [List.append_nil]
  | append_singleton rest event ih =>
    rw [← List.append_assoc, run_concat]
    exact step _ event ih

theorem goesOn_run (reached : before <+: events) : (start.run before).GoesOn (start.run events) :=
  run_of_prefix (P := (start.run before).GoesOn)
    (fun s event h => h.trans (goesOn_step s event)) reached (.refl _)

theorem requestsIn_run (reached : before <+: events) :
    (start.run before).RequestsIn (start.run events) :=
  run_of_prefix (P := (start.run before).RequestsIn)
    (fun s event h => h.trans (requestsIn_step s event)) reached (.refl _)

/-- Of two places in a run at which something happens one comes first. -/
theorem eq_or_before_of_prefix {before' : List (CacheEvent ω)} {event' : CacheEvent ω}
    (h : before ++ [event] <+: events) (h' : before' ++ [event'] <+: events) :
    before ++ [event] = before' ++ [event'] ∨ before ++ [event] <+: before' ∨
      before' ++ [event'] <+: before := by
  rcases List.prefix_or_prefix_of_prefix h h' with longer | longer
  · rcases List.prefix_concat_iff.1 longer with eq | longer
    · exact .inl eq
    · exact .inr (.inl longer)
  · rcases List.prefix_concat_iff.1 longer with eq | longer
    · exact .inl eq.symm
    · exact .inr (.inr longer)

end Runs

end CacheCluster

end AnalyticsGateway
