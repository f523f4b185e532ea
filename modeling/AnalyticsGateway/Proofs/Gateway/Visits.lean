import AnalyticsGateway.Proofs.Gateway.History
import AnalyticsGateway.Proofs.Gateway.Moves
import AnalyticsGateway.Proofs.Place

/-!
# Visits go on

A visit stays what its caller has asked for and goes from stage to stage in an order
(`Action.Follows`). Whatever happens to a gateway, a visit comes, or one goes on to its next stage
(`visitsMove_step`). Once a visit has left the catalog behind it never comes back to it
(`onward_undergo`), so it makes one plan at most (`Planned.unique`).
-/

namespace AnalyticsGateway

/-! ## stages -/

/-- The next stage of a visit that asks for an action, where the cache returns some results. -/
inductive Action.Follows (action : Action) (Returned : Except GatewayError QueryResult → Prop) :
    VisitStage → VisitStage → Prop
  | admitted : Follows action Returned .entering .preparing
  | refused {e : GatewayError} : e.deniesEntry →
    Follows action Returned .entering (.done (.error e))
  | planned {request : Request} {call : Nat} : action = .query request →
    Follows action Returned .preparing (.fetching call)
  | unplanned {request : Request} {e : GatewayError} : action = .query request → e.deniesPlan →
    Follows action Returned .preparing (.done (.error e))
  | describes {source : String} {engine : Engine} {deadline : Instant} :
    action = .describe source →
    Follows action Returned .preparing (.describing source engine deadline)
  | answered {answer : Except GatewayError Answer} : (∀ request, action ≠ .query request) →
    Follows action Returned .preparing (.done answer)
  | served {call : Nat} {result : Except GatewayError QueryResult} : Returned result →
    Follows action Returned (.fetching call) (.done (result.map .result))
  | described {source : String} {engine : Engine} {deadline : Instant}
    {answer : Except GatewayError Answer} :
    Follows action Returned (.describing source engine deadline) (.done answer)
  | cancelled {stage : VisitStage} : stage.isPending → Follows action Returned stage .cancelled

theorem Action.Follows.mono {action : Action} {old stage : VisitStage}
    {Returned Returned' : Except GatewayError QueryResult → Prop}
    (h : action.Follows Returned old stage) (le : ∀ result, Returned result → Returned' result) :
    action.Follows Returned' old stage := by
  cases h with
  | admitted => exact .admitted
  | refused denied => exact .refused denied
  | planned query => exact .planned query
  | unplanned query denied => exact .unplanned query denied
  | describes describe => exact .describes describe
  | answered other => exact .answered other
  | served returned => exact .served (le _ returned)
  | described => exact .described
  | cancelled pending => exact .cancelled pending

/-- The catalog has been read. -/
def VisitStage.isPlanned : VisitStage → Bool
  | entering | preparing => false
  | _ => true

/-- No visit has gone, has become another one, or has to read the catalog again. -/
def Onward (old new : List Visit) : Prop :=
  ∀ (id : Nat) (v : Visit), old[id]? = some v → ∃ w, new[id]? = some w ∧ w.process = v.process ∧
    w.caller = v.caller ∧ w.action = v.action ∧ (v.stage.isPlanned → w.stage.isPlanned)

namespace Onward

theorem refl (visits : List Visit) : Onward visits visits :=
  fun _ v hv => ⟨v, hv, rfl, rfl, rfl, id⟩

theorem trans {a b c : List Visit} (h : Onward a b) (h' : Onward b c) : Onward a c := by
  intro id v hv
  obtain ⟨w, hw, process, caller, action, stage⟩ := h id v hv
  obtain ⟨x, hx, process', caller', action', stage'⟩ := h' id w hw
  exact ⟨x, hx, process'.trans process, caller'.trans caller, action'.trans action,
    fun planned => stage' (stage planned)⟩

theorem concat (visits : List Visit) (v : Visit) : Onward visits (visits ++ [v]) :=
  fun _ w hw => ⟨w, getElem?_concat_of_some hw v, rfl, rfl, rfl, id⟩

end Onward

/-! ## what can happen to visits -/

variable {σ : Type}

namespace Gateway

/-- A call of the cache has returned a result. -/
def Returns (g : Gateway σ) (result : Except GatewayError QueryResult) : Prop :=
  ∃ call : Nat, (g.cache.calls[call]?.bind fun call => call.stage.result?) = some result

/-- What can happen to the visits of a gateway. -/
inductive VisitsMove (g : Gateway σ) : List Visit → Prop
  | comes (process : Nat) (caller : Caller) (action : Action) :
    VisitsMove g (g.visit process caller action).visits
  | goesOn {id : Nat} {v : Visit} {stage : VisitStage} : g.visits[id]? = some v →
    v.action.Follows g.Returns v.stage stage → VisitsMove g (g.setVisit id stage).visits
  | stays : VisitsMove g g.visits

/-- A visit goes on to what follows its stage. -/
theorem VisitsMove.of_stage {g : Gateway σ} {id : Nat} {v : Visit} {old stage : VisitStage}
    (hv : g.visits[id]? = some v) (known : v.stage = old)
    (follows : v.action.Follows g.Returns old stage) :
    g.VisitsMove (g.setVisit id stage).visits := .goesOn hv (known ▸ follows)

theorem visitsMove_cancelVisit (g : Gateway σ) (id : Nat) :
    g.VisitsMove (g.cancelVisit id).visits := by
  unfold cancelVisit
  split
  · exact .stays
  · rename_i v hv
    split
    · rename_i pending
      have cancelled : g.VisitsMove (g.setVisit id .cancelled).visits :=
        .goesOn hv (.cancelled pending)
      simp only
      split <;> exact cancelled
    · exact .stays

theorem visitsMove_answerVisit (g : Gateway σ) (id : Nat)
    (outcome : Except SourceError (List TableSchema)) :
    g.VisitsMove (g.answerVisit id outcome).visits := by
  rcases g.answerVisit_cases id outcome with eq | ⟨describes, answer, -, eq⟩ <;> rw [eq]
  · exact .stays
  · obtain ⟨v, source, engine, deadline, hv, stage⟩ := describes
    exact .of_stage hv stage .described

theorem visitsMove_expireVisit (g : Gateway σ) (id : Nat) :
    g.VisitsMove (g.expireVisit id).visits := by
  rcases g.expireVisit_cases id with eq | ⟨describes, e, eq⟩ <;> rw [eq]
  · exact .stays
  · obtain ⟨v, source, engine, deadline, hv, stage⟩ := describes
    exact .of_stage hv stage .described

/-! ### statements leave visits alone -/

theorem visits_settle (g : Gateway σ) (runner : Runner) (d : Dispatch) :
    (g.settle runner d).visits = g.visits := by
  unfold settle
  split <;> rfl

theorem visits_startJob (g : Gateway σ) (runner : Runner) :
    (g.startJob runner).visits = g.visits := by
  unfold startJob
  split
  · exact visits_settle ..
  · rfl

theorem visits_answerJob (g : Gateway σ) (runner : Runner) (outcome : Except SourceError RowSet) :
    (g.answerJob runner outcome).visits = g.visits := by
  unfold answerJob
  split
  · exact visits_settle ..
  · rfl

theorem visits_expireJob (g : Gateway σ) (runner : Runner) :
    (g.expireJob runner).visits = g.visits := by
  unfold expireJob
  split
  · exact visits_settle ..
  · rfl

/-! ### every event -/

section Store

variable [SharedStore σ String]

theorem visits_pay {g paid : Gateway σ} {failing : List StoreOperation} {caller : Caller}
    {route : Route} {answer : Except GatewayError Unit}
    (h : g.pay failing caller route = (answer, paid)) : paid.visits = g.visits := by
  have same : (g.pay failing caller route).2.visits = g.visits := rfl
  rwa [h] at same

theorem visitsMove_stepVisit (g : Gateway σ) (failing : List StoreOperation) (id : Nat) :
    g.VisitsMove (g.stepVisit failing id).visits := by
  cases hv : g.visits[id]? with
  | none =>
    rw [stepVisit, hv]
    exact .stays
  | some v =>
    -- what is paid, asked or loaded leaves the visits alone
    have others {p : Gateway σ} {stage : VisitStage} (same : p.visits = g.visits)
        (moved : g.VisitsMove (g.setVisit id stage).visits) :
        g.VisitsMove (p.setVisit id stage).visits := by
      rw [setVisit, same]
      exact moved
    have move := stepVisit_move failing hv
    generalize g.stepVisit failing id = g' at move
    cases move with
    | refused entering refused =>
      exact .of_stage hv entering (.refused (deniesEntry_of_checkCaller refused))
    | free entering _ _ => exact .of_stage hv entering .admitted
    | admitted entering _ _ eq => exact others (visits_pay eq) (.of_stage hv entering .admitted)
    | denied entering _ _ eq =>
      exact others (visits_pay eq) (.of_stage hv entering (.refused (deniesEntry_of_pay eq)))
    | planned preparing action _ =>
      exact others (p := { g with cache := _ }) rfl (.of_stage hv preparing (.planned action))
    | unplanned preparing action plan =>
      exact .of_stage hv preparing (.unplanned action (deniesPlan_of_plan plan))
    | @reloaded catalog preparing action _ =>
      refine others (p := { g with catalog }) rfl (.of_stage hv preparing (.answered ?_))
      intro request query
      cases action.symm.trans query
    | describes preparing action => exact .of_stage hv preparing (.describes action)
    | answered preparing other _ => exact .of_stage hv preparing (.answered other)
    | served fetching returned => exact .of_stage hv fetching (.served ⟨_, returned⟩)
    | stays => exact .stays

theorem visitsMove_step (g : Gateway σ) (event : GatewayEvent) :
    g.VisitsMove (g.step event).visits := by
  cases event with
  | visit process caller action => exact .comes process caller action
  | stepVisit id failing => exact g.visitsMove_stepVisit failing id
  | cancelVisit id => exact g.visitsMove_cancelVisit id
  | answerVisit id outcome => exact g.visitsMove_answerVisit id outcome
  | expireVisit id => exact g.visitsMove_expireVisit id
  | startJob runner =>
    rw [step, visits_startJob]
    exact .stays
  | answerJob runner outcome =>
    rw [step, visits_answerJob]
    exact .stays
  | expireJob runner =>
    rw [step, visits_expireJob]
    exact .stays
  | replaceCatalog datasets =>
    rcases g.replaceCatalog_cases datasets with eq | ⟨catalog, -, eq⟩ <;> rw [eq] <;> exact .stays
  | _ => exact .stays

/-- A visit is new, or it was there, perhaps at the stage before. -/
theorem visit_step {g : Gateway σ} {event : GatewayEvent} {i : Nat} {v : Visit}
    (hv : (g.step event).visits[i]? = some v) :
    g.visits[i]? = none ∧ v.stage = .entering ∧ v.started = g.now.clock ∨
      ∃ old, g.visits[i]? = some old ∧ v = { old with stage := v.stage } ∧
        (v.stage = old.stage ∨ old.action.Follows g.Returns old.stage v.stage) := by
  have move := g.visitsMove_step event
  generalize (g.step event).visits = visits at move hv
  cases move with
  | comes process caller action =>
    rcases of_concat hv with hv | ⟨rfl, rfl⟩
    · exact .inr ⟨v, hv, rfl, .inl rfl⟩
    · exact .inl ⟨List.getElem?_eq_none (Nat.le_refl _), rfl, rfl⟩
  | @goesOn id w stage hw follows =>
    rcases of_setVisit hv with ⟨-, hv⟩ | ⟨rfl, old, hold, rfl⟩
    · exact .inr ⟨v, hv, rfl, .inl rfl⟩
    · cases hw.symm.trans hold
      exact .inr ⟨w, hw, rfl, .inr follows⟩
  | stays => exact .inr ⟨v, hv, rfl, .inl rfl⟩

/-- A visit is new, or it came when it came. -/
theorem started_step {g : Gateway σ} {event : GatewayEvent} {i : Nat} {v : Visit}
    (hv : (g.step event).visits[i]? = some v) :
    v.started = g.now.clock ∨ ∃ old, g.visits[i]? = some old ∧ v.started = old.started := by
  rcases visit_step hv with ⟨-, -, now⟩ | ⟨old, hold, same, -⟩
  · exact .inl now
  · exact .inr ⟨old, hold, by rw [same]⟩

end Store

end Gateway

/-! ## visits go on -/

theorem Action.Follows.isPlanned {action : Action}
    {Returned : Except GatewayError QueryResult → Prop} {old stage : VisitStage}
    (follows : action.Follows Returned old stage) (planned : old.isPlanned) : stage.isPlanned := by
  cases follows with
  | admitted => cases planned
  | _ => rfl

namespace Onward

theorem setVisit (g : Gateway σ) {id : Nat} {stage : VisitStage}
    (onward : ∀ v, g.visits[id]? = some v → v.stage.isPlanned → stage.isPlanned) :
    Onward g.visits (g.setVisit id stage).visits := by
  intro i v hv
  rw [Gateway.setVisit, List.getElem?_modify, hv, Option.map_eq_map, Option.map_some]
  by_cases same : id = i
  · subst same
    rw [if_pos rfl]
    exact ⟨_, rfl, rfl, rfl, rfl, onward v hv⟩
  · rw [if_neg same]
    exact ⟨v, rfl, rfl, rfl, rfl, fun planned => planned⟩

theorem of_move {g : Gateway σ} {visits : List Visit} (move : g.VisitsMove visits) :
    Onward g.visits visits := by
  cases move with
  | comes process caller action => exact .concat g.visits _
  | goesOn hv follows =>
    refine .setVisit g fun w hw planned => ?_
    cases hv.symm.trans hw
    exact follows.isPlanned planned
  | stays => exact .refl _

end Onward

/-! ## runs -/

namespace Gateway

variable [SharedStore σ String] [LawfulStore σ]

theorem onward_undergo (g : Gateway σ) (happening : Happening σ) :
    Onward g.visits (g.undergo happening).visits := by
  cases happening with
  | configure settings engines catalog file => exact .refl _
  | interfere others => exact .refl _
  | event event => exact .of_move (g.visitsMove_step event)

theorem onward_foldl (happenings : List (Happening σ)) (g : Gateway σ) :
    Onward g.visits (g.after happenings).visits := by
  induction happenings generalizing g with
  | nil => exact .refl _
  | cons happening rest ih => exact (onward_undergo g happening).trans (ih _)

variable {start : Gateway σ} {history later : List (Happening σ)}

theorem onward_after (longer : history <+: later) :
    Onward (start.after history).visits (start.after later).visits := by
  obtain ⟨rest, rfl⟩ := longer
  rw [after_append]
  exact onward_foldl rest _

/-- A visit that has made its plan is past it. -/
theorem isPlanned_of_plan {before : List (Happening σ)} {failing : List StoreOperation}
    {id : Nat} {v : Visit} {request : Request} {d : Dataset} {p : Plan}
    (hv : (start.after before).visits[id]? = some v) (preparing : v.stage = .preparing)
    (action : v.action = .query request)
    (plan : (start.after before).plan v.caller request = .ok (d, p)) :
    ∃ w, (start.after (before ++ [.event (.stepVisit id failing)])).visits[id]? = some w ∧
      w.stage.isPlanned := by
  rw [after_concat, undergo, step, stepVisit_of_plan failing hv preparing action plan, setVisit,
    List.getElem?_modify_eq, hv]
  exact ⟨_, rfl, rfl⟩

namespace Planned

variable {visit : Nat} {caller other : Caller} {d e : Dataset} {p q : Plan}

/-- A visit makes one plan at most. -/
theorem unique (h : Planned start history visit caller d p)
    (h' : Planned start history visit other e q) : d = e ∧ p = q := by
  obtain ⟨before, failing, v, request, known, hv, preparing, action, rfl, plan⟩ := h
  obtain ⟨before', failing', v', request', known', hv', preparing', action', rfl, plan'⟩ := h'
  -- no plan is made after the other one
  have apart {a b : List (Happening σ)} {failed : List StoreOperation} {w : Visit}
      (planned : ∃ x, (start.after (a ++ [.event (.stepVisit visit failed)])).visits[visit]? =
        some x ∧ x.stage.isPlanned)
      (hw : (start.after b).visits[visit]? = some w) (stage : w.stage = .preparing) :
      ¬a ++ [.event (.stepVisit visit failed)] <+: b := by
    intro longer
    obtain ⟨x, hx, done⟩ := planned
    obtain ⟨y, hy, -, -, -, still⟩ := onward_after longer _ x hx
    cases hw.symm.trans hy
    have wrong := still done
    rw [stage] at wrong
    cases wrong
  have same : before = before' := by
    rcases List.prefix_or_prefix_of_prefix known known' with longer | longer
    · rcases List.prefix_concat_iff.1 longer with eq | longer
      · exact (List.append_inj' eq rfl).1
      · exact absurd longer (apart (isPlanned_of_plan hv preparing action plan) hv' preparing')
    · rcases List.prefix_concat_iff.1 longer with eq | longer
      · exact (List.append_inj' eq rfl).1.symm
      · exact absurd longer (apart (isPlanned_of_plan hv' preparing' action' plan') hv preparing)
  subst same
  cases hv.symm.trans hv'
  cases action.symm.trans action'
  cases plan.symm.trans plan'
  exact ⟨rfl, rfl⟩

end Planned

end Gateway

end AnalyticsGateway
