import AnalyticsGateway.Gateway.State
import AnalyticsGateway.Proofs.Clock

/-!
# Statements on their way

A statement that a source works on for a job ends with an error or with rows that the source has
returned, or stays a statement of that job (`Outlook`). It is never timed out before its deadline
(`IsPunctual`).
-/

namespace AnalyticsGateway.Dispatch

/-! ## moves -/

/-- The source is unknown or speaks another dialect, or else it is called. -/
theorem start_cases (engines : Engines) (source : String) (sql : Sql.Rendered)
    (timeout : Duration) (now : Instant) :
    (∃ e, (e = .unknownSource source ∨ ∃ message, e = .internal message) ∧
      start engines source sql timeout now =
        ⟨source, sql.text, timeout, now, .done (.error e)⟩) ∨
    start engines source sql timeout now =
      (⟨source, sql.text, timeout, now, .calling false⟩ : Dispatch).call now false := by
  unfold start
  simp only
  split
  · exact .inl ⟨_, .inl rfl, rfl⟩
  · split
    · exact .inl ⟨_, .inr ⟨_, rfl⟩, rfl⟩
    · exact .inr rfl

/-- What an answer of the source can do to a statement. -/
inductive AnswerMove (d : Dispatch) (now : Instant) (outcome : Except SourceError RowSet) :
    Dispatch → Prop
  | ended {again : Bool} : d.stage = .calling again →
    again = true ∨ (∀ e, outcome = .error e → e.isRetryable = false) →
    AnswerMove d now outcome { d with stage := .done (outcome.mapError .source) }
  | called {e : SourceError} : d.stage = .calling false → outcome = .error e →
    e.isRetryable = true → AnswerMove d now outcome (d.call now true)
  | stays {result : Except GatewayError RowSet} : d.stage = .done result →
    AnswerMove d now outcome d

theorem answer_move (d : Dispatch) (now : Instant) (outcome : Except SourceError RowSet) :
    d.AnswerMove now outcome (d.answer now outcome) := by
  unfold answer
  split
  · rename_i e stage
    split
    · rename_i retryable
      exact .called stage rfl retryable
    · rename_i final
      exact .ended stage (.inr fun e' same => Except.error.inj same ▸ Bool.eq_false_iff.2 final)
  · rename_i e stage
    exact .ended stage (.inl rfl)
  · rename_i again rows stage
    exact .ended stage (.inr nofun)
  · rename_i result stage
    exact .stays stage

/-! ## outlooks -/

/-- The source works on a job. -/
def IsFor (d : Dispatch) (job : Job) : Prop :=
  (∃ again, d.stage = .calling again) ∧ d.source = job.source ∧ d.sql = job.sql.text

/-- What comes next for a job: an error, rows that the source has returned, or its answer. -/
inductive Outlook (job : Job) (Returned : RowSet → Prop) (d : Dispatch) : Prop
  | failed {e : GatewayError} : d.result? = some (.error e) → Outlook job Returned d
  | returned {rows : RowSet} : d.result? = some (.ok rows) → Returned rows → Outlook job Returned d
  | waits : d.result? = none → d.IsFor job → Outlook job Returned d

variable {d : Dispatch} {job : Job} {Returned : RowSet → Prop}

theorem outlook_call (d : Dispatch) (now : Instant) (again : Bool)
    (source : d.source = job.source) (sql : d.sql = job.sql.text) :
    (d.call now again).Outlook job Returned := by
  unfold call
  split
  · exact .failed rfl
  · exact .waits rfl ⟨⟨again, rfl⟩, source, sql⟩

theorem outlook_start (engines : Engines) (job : Job) (timeout : Duration) (now : Instant) :
    (start engines job.source job.sql timeout now).Outlook job Returned := by
  rcases start_cases engines job.source job.sql timeout now with ⟨e, -, eq⟩ | eq <;> rw [eq]
  · exact .failed rfl
  · exact outlook_call _ now false rfl rfl

theorem IsFor.answer (h : d.IsFor job) (now : Instant) {outcome : Except SourceError RowSet}
    (returned : ∀ rows, outcome = .ok rows → Returned rows) :
    (d.answer now outcome).Outlook job Returned := by
  obtain ⟨⟨again, stage⟩, source, sql⟩ := h
  have move := d.answer_move now outcome
  generalize d.answer now outcome = d' at move ⊢
  cases move with
  | ended _ _ =>
    cases outcome with
    | ok rows => exact .returned rfl (returned rows rfl)
    | error e => exact .failed rfl
  | called _ _ _ => exact outlook_call d now true source sql
  | stays done => cases stage.symm.trans done

theorem IsFor.expire (h : d.IsFor job) (now : Instant) :
    (d.expire now).Outlook job Returned := by
  obtain ⟨⟨again, stage⟩, source, sql⟩ := h
  unfold Dispatch.expire
  rw [stage]
  simp only
  split
  · exact .failed rfl
  · exact .waits (by rw [result?, stage]) ⟨⟨again, stage⟩, source, sql⟩

/-! ## deadlines -/

/-- If the statement is timed out, its deadline has come. -/
def IsPunctual (d : Dispatch) (now : Instant) : Prop :=
  ∀ after, d.result? = some (.error (.timeout after)) → d.deadline ≤ now

theorem isPunctual_of_calling {again : Bool} (stage : d.stage = .calling again) (now : Instant) :
    d.IsPunctual now := by
  intro after result
  rw [result?, stage] at result
  cases result

theorem deadline_call (d : Dispatch) (now : Instant) (again : Bool) :
    (d.call now again).deadline = d.deadline := by
  unfold call
  split <;> rfl

theorem isPunctual_call (d : Dispatch) (now : Instant) (again : Bool) :
    (d.call now again).IsPunctual now := by
  unfold call
  split
  · rename_i late
    exact fun _ _ => late
  · exact isPunctual_of_calling rfl now

/-- A statement that is sent off for the time that is left has the job's deadline, or a later one if
none is left. -/
theorem deadline_le_start (engines : Engines) (source : String) (sql : Sql.Rendered)
    (deadline now : Instant) :
    deadline ≤ (start engines source sql (deadline.sub now) now).deadline := by
  have enough : deadline ≤ now.add (deadline.sub now) := by
    change deadline.nanoseconds ≤ now.nanoseconds + (deadline.nanoseconds - now.nanoseconds)
    omega
  rcases start_cases engines source sql (deadline.sub now) now with ⟨e, -, eq⟩ | eq <;> rw [eq]
  · exact enough
  · rwa [deadline_call]

/-- It has no later one, unless now is later. -/
theorem deadline_start_le {engines : Engines} {source : String} {sql : Sql.Rendered}
    {deadline now bound : Instant} (told : deadline ≤ bound) (come : now ≤ bound) :
    (start engines source sql (deadline.sub now) now).deadline ≤ bound := by
  have enough : now.add (deadline.sub now) ≤ bound := by
    change now.nanoseconds + (deadline.nanoseconds - now.nanoseconds) ≤ bound.nanoseconds
    change deadline.nanoseconds ≤ bound.nanoseconds at told
    change now.nanoseconds ≤ bound.nanoseconds at come
    omega
  rcases start_cases engines source sql (deadline.sub now) now with ⟨e, -, eq⟩ | eq <;> rw [eq]
  · exact enough
  · rwa [deadline_call]

theorem isPunctual_start (engines : Engines) (source : String) (sql : Sql.Rendered)
    (timeout : Duration) (now : Instant) :
    (start engines source sql timeout now).IsPunctual now := by
  rcases start_cases engines source sql timeout now with ⟨e, rfl | ⟨_, rfl⟩, eq⟩ | eq <;> rw [eq]
  · exact nofun
  · exact nofun
  · exact isPunctual_call _ now false

theorem deadline_answer (d : Dispatch) (now : Instant) (outcome : Except SourceError RowSet) :
    (d.answer now outcome).deadline = d.deadline := by
  have move := d.answer_move now outcome
  generalize d.answer now outcome = d' at move ⊢
  cases move with
  | called _ _ _ => exact deadline_call d now true
  | ended | stays => rfl

/-- A source does not time out. -/
theorem IsPunctual.answer {now : Instant} (punctual : d.IsPunctual now)
    (outcome : Except SourceError RowSet) : (d.answer now outcome).IsPunctual now := by
  have move := d.answer_move now outcome
  generalize d.answer now outcome = d' at move ⊢
  cases move with
  | ended _ _ => cases outcome <;> exact nofun
  | called _ _ _ => exact isPunctual_call d now true
  | stays _ => exact punctual

theorem deadline_expire (d : Dispatch) (now : Instant) :
    (d.expire now).deadline = d.deadline := by
  unfold expire
  split
  · split <;> rfl
  · rfl

theorem IsPunctual.expire {now : Instant} (punctual : d.IsPunctual now) :
    (d.expire now).IsPunctual now := by
  unfold Dispatch.expire
  split
  · split
    · rename_i late
      exact fun _ _ => late
    · exact punctual
  · exact punctual

end AnalyticsGateway.Dispatch
