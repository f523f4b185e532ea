import AnalyticsGateway.Proofs.Cache.Moves

/-!
# Runners keep their requests

A call and a flight are for the same request as long as they are known, whatever happens
(`requestsIn_step`). A new flight is for the request of the call that starts it (`request_cases`).
-/

namespace AnalyticsGateway.CacheCluster

variable {σ ω : Type}

/-- What a runner was asked for. -/
def request? (s : CacheCluster σ ω) : Runner → Option (CacheRequest ω)
  | .call id => s.calls[id]?.map CacheCall.toCacheRequest
  | .flight id => s.flights[id]?.map Flight.toCacheRequest

theorem request?_of_call {s : CacheCluster σ ω} {id : Nat} {c : CacheCall ω}
    (h : s.calls[id]? = some c) : s.request? (.call id) = some c.toCacheRequest := by
  rw [request?, h, Option.map_some]

theorem request?_of_flight {s : CacheCluster σ ω} {id : Nat} {f : Flight ω}
    (h : s.flights[id]? = some f) : s.request? (.flight id) = some f.toCacheRequest := by
  rw [request?, h, Option.map_some]

/-- Who runs a job was asked for it. -/
theorem request?_of_job? {s : CacheCluster σ ω} {runner : Runner} {job : ω}
    (h : s.job? runner = some job) : ∃ r, s.request? runner = some r ∧ r.job = job := by
  cases runner with
  | call id =>
    obtain ⟨c, hc, h⟩ := Option.bind_eq_some_iff.1 h
    obtain ⟨-, -, h⟩ := Option.bind_eq_some_iff.1 h
    exact ⟨c.toCacheRequest, request?_of_call hc, Option.some.inj h⟩
  | flight id =>
    obtain ⟨f, hf, h⟩ := Option.bind_eq_some_iff.1 h
    obtain ⟨-, -, h⟩ := Option.bind_eq_some_iff.1 h
    exact ⟨f.toCacheRequest, request?_of_flight hf, Option.some.inj h⟩

/-- The runners of a state are runners of another, for the same requests. -/
def RequestsIn (s t : CacheCluster σ ω) : Prop :=
  ∀ runner r, s.request? runner = some r → t.request? runner = some r

theorem RequestsIn.refl (s : CacheCluster σ ω) : s.RequestsIn s := fun _ _ h => h

theorem RequestsIn.trans {s t u : CacheCluster σ ω} (h : s.RequestsIn t) (h' : t.RequestsIn u) :
    s.RequestsIn u := fun runner r hr => h' runner r (h runner r hr)

theorem requestsIn_of_eq {s t : CacheCluster σ ω} (calls : t.calls = s.calls)
    (flights : t.flights = s.flights) : s.RequestsIn t := by
  intro runner r h
  cases runner with
  | call id => rwa [request?, calls]
  | flight id => rwa [request?, flights]

theorem requestsIn_of_bare_eq {s t : CacheCluster σ ω} (h : t.bare = s.bare) : s.RequestsIn t :=
  requestsIn_of_eq (of_bare_eq h).calls (of_bare_eq h).flights

theorem requestsIn_setCall (s : CacheCluster σ ω) (id : Nat) (stage : CallStage) :
    s.RequestsIn (s.setCall id stage) := by
  intro runner r h
  cases runner with
  | flight i => exact h
  | call i => exact (map_getElem?_modify _ _ (by intro; rfl) ..).trans h

theorem requestsIn_setFlight (s : CacheCluster σ ω) (id : Nat) (stage : FlightStage) :
    s.RequestsIn (s.setFlight id stage) := by
  intro runner r h
  cases runner with
  | call i => exact h
  | flight i => exact (map_getElem?_modify _ _ (by intro; rfl) ..).trans h

theorem requestsIn_withCall (s : CacheCluster σ ω) (c : CacheCall ω) :
    s.RequestsIn { s with calls := s.calls ++ [c] } := by
  intro runner r h
  cases runner with
  | flight i => exact h
  | call i =>
    obtain ⟨d, hd, rfl⟩ := Option.map_eq_some_iff.1 h
    exact request?_of_call (getElem?_concat_of_some hd c)

theorem requestsIn_withFlight (s : CacheCluster σ ω) (f : Flight ω) :
    s.RequestsIn { s with flights := s.flights ++ [f] } := by
  intro runner r h
  cases runner with
  | call i => exact h
  | flight i =>
    obtain ⟨g, hg, rfl⟩ := Option.map_eq_some_iff.1 h
    exact request?_of_flight (getElem?_concat_of_some hg f)

/-- A call that arrives is the last one. -/
theorem request?_arrive (s : CacheCluster σ ω) (request : CacheRequest ω) :
    (s.arrive request).request? (.call s.calls.length) = some request := by
  rw [request?, arrive, getElem?_concat_length, Option.map_some]

/-! ## steps -/

theorem requestsIn_complete (s : CacheCluster σ ω) (runner : Runner)
    (result : Except GatewayError RowSet) : s.RequestsIn (s.complete runner result) := by
  have move := s.complete_move runner result
  generalize s.complete runner result = t at move
  cases move with
  | answered _ _ => exact requestsIn_setCall s _ _
  | stays => exact .refl s
  | _ => exact requestsIn_setFlight s _ _

theorem requestsIn_desert (s : CacheCluster σ ω) (id : Nat) : s.RequestsIn (s.desert id) := by
  rcases s.desert_cases id with eq | ⟨f, lease, -, -, -, eq⟩ <;> rw [eq]
  · exact .refl s
  · exact requestsIn_setFlight s id _

theorem requestsIn_cancel (s : CacheCluster σ ω) (id : Nat) : s.RequestsIn (s.cancel id) := by
  rcases s.cancel_cases id with eq | eq | ⟨flight, -, eq⟩ <;> rw [eq]
  · exact .refl s
  · exact requestsIn_setCall s id _
  · exact (requestsIn_setCall s id _).trans (requestsIn_desert _ flight)

variable [SharedStore σ String]

theorem requestsIn_stepFlight (s : CacheCluster σ ω) (failing : List StoreOperation) (id : Nat) :
    s.RequestsIn (s.stepFlight failing id) := by
  cases hf : s.flights[id]? with
  | none =>
    rw [stepFlight_of_none hf]
    exact .refl s
  | some f =>
    obtain ⟨stage, store, -, eq⟩ := stepFlight_move failing hf
    exact (requestsIn_setFlight { s with store } id stage).trans (requestsIn_of_bare_eq eq)

theorem requestsIn_stepCall (s : CacheCluster σ ω) (failing : List StoreOperation) (id : Nat) :
    s.RequestsIn (s.stepCall failing id) := by
  cases hc : s.calls[id]? with
  | none =>
    rw [stepCall_of_none hc]
    exact .refl s
  | some c =>
    obtain ⟨t, move, eq⟩ := stepCall_move failing hc
    refine RequestsIn.trans ?_ (requestsIn_of_bare_eq eq)
    cases move with
    | started _ _ => exact (requestsIn_withFlight s _).trans (requestsIn_setCall _ id _)
    | left _ =>
      exact (requestsIn_of_eq (s.forget_calls c _) (s.forget_flights c _)).trans
        (requestsIn_setCall _ id _)
    | stays => exact .refl s
    | _ => exact requestsIn_setCall s id _

theorem requestsIn_step (s : CacheCluster σ ω) (event : CacheEvent ω) :
    s.RequestsIn (s.step event) := by
  cases event with
  | tick now => exact requestsIn_of_eq rfl rfl
  | arrive request => exact requestsIn_withCall s _
  | stepCall id failing => exact requestsIn_stepCall s failing id
  | stepFlight id failing => exact requestsIn_stepFlight s failing id
  | complete runner result => exact requestsIn_complete s runner result
  | cancel call => exact requestsIn_cancel s call
  | releaseAbandoned failing =>
    rcases s.releaseAbandoned_cases failing with eq | ⟨a, rest, -, eq⟩
    all_goals
      rw [step, eq]
      exact requestsIn_of_eq rfl rfl
  | purge failing => exact requestsIn_of_eq rfl rfl

/-! ## new runners -/

theorem stepCall_launch_cases (s : CacheCluster σ ω) (failing : List StoreOperation) (id : Nat) :
    (s.stepCall failing id).flights = s.flights ∨ ∃ c, s.calls[id]? = some c ∧
      c.stage = .joining ∧ (s.stepCall failing id).flights = s.flights ++ [s.newFlight c] ∧
      (s.stepCall failing id).calls[id]? = some { c with stage := .flying s.flights.length } := by
  cases hc : s.calls[id]? with
  | none => exact .inl (by rw [stepCall_of_none hc])
  | some c =>
    obtain ⟨t, move, eq⟩ := stepCall_move failing hc
    rw [(of_bare_eq eq).calls, (of_bare_eq eq).flights]
    cases move with
    | started joins _ =>
      refine .inr ⟨c, rfl, joins, rfl, ?_⟩
      rw [setCall, List.getElem?_modify_eq]
      exact congrArg (Option.map _) hc
    | left _ => exact .inl (s.forget_flights c _)
    | _ => exact .inl rfl

/-- A flight is launched by a call that is to join, which boards it. -/
theorem launch_cases (s : CacheCluster σ ω) (event : CacheEvent ω) :
    (s.step event).flights.length = s.flights.length ∨
      ∃ call failing c, event = .stepCall call failing ∧ s.calls[call]? = some c ∧
        c.stage = .joining ∧ (s.step event).flights = s.flights ++ [s.newFlight c] ∧
        (s.step event).calls[call]? = some { c with stage := .flying s.flights.length } := by
  have same {id : Nat} {stage : FlightStage} (t : CacheCluster σ ω) :
      (t.setFlight id stage).flights.length = t.flights.length := List.length_modify ..
  cases event with
  | stepCall id failing =>
    rcases s.stepCall_launch_cases failing id with flights | ⟨c, launched⟩
    · exact .inl (congrArg List.length flights)
    · exact .inr ⟨id, failing, c, rfl, launched⟩
  | stepFlight id failing =>
    cases hf : s.flights[id]? with
    | none => exact .inl (by rw [step, stepFlight_of_none hf])
    | some f =>
      obtain ⟨stage, store, -, eq⟩ := stepFlight_move failing hf
      exact .inl ((congrArg List.length (of_bare_eq eq).flights).trans (same _))
  | complete runner result =>
    have move := s.complete_move runner result
    rw [step]
    generalize s.complete runner result = t at move
    cases move with
    | answered _ _ | stays => exact .inl rfl
    | _ => exact .inl (same s)
  | cancel id =>
    left
    rcases s.cancel_cases id with eq | eq | ⟨flight, -, eq⟩ <;> rw [step, eq]
    · rfl
    · rcases (s.setCall id .cancelled).desert_cases flight with eq | ⟨f, lease, -, -, -, eq⟩ <;>
        rw [eq]
      · rfl
      · exact same _
  | releaseAbandoned failing =>
    rcases s.releaseAbandoned_cases failing with eq | ⟨a, rest, -, eq⟩ <;>
      exact .inl (by rw [step, eq])
  | tick _ | arrive _ | purge _ => exact .inl rfl

theorem arrival_cases (s : CacheCluster σ ω) (event : CacheEvent ω) :
    (s.step event).calls.length = s.calls.length ∨ ∃ request, event = .arrive request := by
  have same {id : Nat} {stage : CallStage} (t : CacheCluster σ ω) :
      (t.setCall id stage).calls.length = t.calls.length := List.length_modify ..
  cases event with
  | arrive request => exact .inr ⟨request, rfl⟩
  | stepCall id failing =>
    left
    cases hc : s.calls[id]? with
    | none => rw [step, stepCall_of_none hc]
    | some c =>
      obtain ⟨t, move, eq⟩ := stepCall_move failing hc
      rw [step, (of_bare_eq eq).calls]
      cases move with
      | left _ => exact (same _).trans (congrArg List.length (s.forget_calls c _))
      | stays => rfl
      | _ => exact same _
  | stepFlight id failing => exact .inl (congrArg List.length (s.stepFlight_calls failing id))
  | complete runner result =>
    have move := s.complete_move runner result
    rw [step]
    generalize s.complete runner result = t at move
    cases move with
    | answered _ _ => exact .inl (same s)
    | _ => exact .inl rfl
  | cancel id =>
    left
    rcases s.cancel_cases id with eq | eq | ⟨flight, -, eq⟩ <;> rw [step, eq]
    · exact same s
    · rcases (s.setCall id .cancelled).desert_cases flight with eq | ⟨f, lease, -, -, -, eq⟩ <;>
        rw [eq] <;> exact same s
  | releaseAbandoned failing =>
    rcases s.releaseAbandoned_cases failing with eq | ⟨a, rest, -, eq⟩ <;>
      exact .inl (by rw [step, eq])
  | tick _ | purge _ => exact .inl rfl

/-- A new runner is a call that arrives, or a flight that a call starts for its own request. -/
theorem request_cases {s : CacheCluster σ ω} {event : CacheEvent ω} {runner : Runner}
    {r : CacheRequest ω} (hr : (s.step event).request? runner = some r) :
    s.request? runner = some r ∨ (event = .arrive r ∧ runner = .call s.calls.length) ∨
      ∃ call failing, event = .stepCall call failing ∧ runner = .flight s.flights.length ∧
        s.flights.length < (s.step event).flights.length ∧ s.request? (.call call) = some r := by
  cases old : s.request? runner with
  | some r' => exact .inl ((requestsIn_step s event runner r' old).symm.trans hr)
  | none =>
    right
    cases runner with
    | call id =>
      left
      obtain ⟨c, hc, rfl⟩ := Option.map_eq_some_iff.1 hr
      have unknown : s.calls.length ≤ id :=
        List.getElem?_eq_none_iff.1 (Option.map_eq_none_iff.1 old)
      have known := (List.getElem?_eq_some_iff.1 hc).1
      rcases s.arrival_cases event with same | ⟨request, rfl⟩
      · omega
      · rcases of_concat hc with hc | ⟨rfl, rfl⟩
        · exact absurd (List.getElem?_eq_some_iff.1 hc).1 (Nat.not_lt.2 unknown)
        · exact ⟨rfl, rfl⟩
    | flight id =>
      right
      obtain ⟨f, hf, rfl⟩ := Option.map_eq_some_iff.1 hr
      have unknown : s.flights.length ≤ id :=
        List.getElem?_eq_none_iff.1 (Option.map_eq_none_iff.1 old)
      have known := (List.getElem?_eq_some_iff.1 hf).1
      rcases s.launch_cases event with same | ⟨call, failing, c, rfl, hc, -, flights, -⟩
      · omega
      · rw [flights] at hf
        rcases of_concat hf with hf | ⟨rfl, rfl⟩
        · exact absurd (List.getElem?_eq_some_iff.1 hf).1 (Nat.not_lt.2 unknown)
        · exact ⟨call, failing, rfl, rfl, known, request?_of_call hc⟩

end AnalyticsGateway.CacheCluster
