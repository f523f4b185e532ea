import AnalyticsGateway.Proofs.Source.Dispatch
import Mathlib.Logic.Function.Iterate

/-!
# Statements that are retried once

A source is called for a statement at most twice, and whatever comes of the calls, and whenever, the
statement ends by its deadline: with what the last call came to, if that came in time, and else with
a timeout (`retried_once`).
-/

namespace AnalyticsGateway

/-- What a call to a source comes to, and after how long. -/
structure Reply where
  delay : Duration
  outcome : Except SourceError RowSet

namespace Reply

/-- The result that a reply is as it stands. -/
def result (r : Reply) : Except GatewayError RowSet := r.outcome.mapError .source

def isRetryable (r : Reply) : Bool :=
  match r.outcome with
  | .ok _ => false
  | .error e => e.isRetryable

end Reply

/-- A statement on its way, the calls that were made for it, and the instant that it has come to. -/
structure Execution where
  dispatch : Dispatch
  calls : Nat
  now : Instant

namespace Execution

/-! ## calls and replies -/

/-- A call is open as long as the source works on the statement. -/
def openCalls (d : Dispatch) : Nat :=
  match d.stage with
  | .calling _ => 1
  | .done _ => 0

/-- A statement that has just been sent. -/
def sent (engines : Engines) (source : String) (sql : Sql.Rendered) (timeout : Duration)
    (start : Instant) : Execution :=
  let d := Dispatch.start engines source sql timeout start
  ⟨d, openCalls d, start⟩

/-- A reply at the instant of the deadline is in time. -/
def inTime (e : Execution) (r : Reply) : Bool := e.now.add r.delay ≤ e.dispatch.deadline

/-- Takes a reply, after which the source may be called again. -/
def receive (e : Execution) (r : Reply) : Execution :=
  let d := e.dispatch.answer (e.now.add r.delay) r.outcome
  ⟨d, e.calls + openCalls d, e.now.add r.delay⟩

/-- Waits for the deadline. -/
def giveUp (e : Execution) : Execution :=
  ⟨e.dispatch.expire e.dispatch.deadline, e.calls, e.dispatch.deadline⟩

/-- Waits for the reply to the last call, or else for the deadline. Calls are counted from one, and
those without a reply never end. -/
def await (replies : Nat → Option Reply) (e : Execution) : Execution :=
  match e.dispatch.stage with
  | .done _ => e
  | .calling _ =>
    match (replies e.calls).filter e.inTime with
    | some r => e.receive r
    | none => e.giveUp

/-! ## one wait -/

/-- A statement that is done. -/
def ended (e : Execution) (result : Except GatewayError RowSet) (now : Instant) : Execution :=
  ⟨{ e.dispatch with stage := .done result }, e.calls, now⟩

/-- A statement that is sent once more. -/
def resent (e : Execution) (now : Instant) : Execution :=
  ⟨{ e.dispatch with stage := .calling true }, e.calls + 1, now⟩

/-- What waiting for a reply comes to. -/
inductive Waits (replies : Nat → Option Reply) (e : Execution) : Execution → Prop
  | stays {result : Except GatewayError RowSet} : e.dispatch.stage = .done result →
    Waits replies e e
  | late {again : Bool} : e.dispatch.stage = .calling again →
    (∀ r ∈ replies e.calls, e.dispatch.deadline < e.now.add r.delay) →
    Waits replies e (e.ended (.error (.timeout e.dispatch.timeout)) e.dispatch.deadline)
  | replied {again : Bool} {r : Reply} : e.dispatch.stage = .calling again →
    replies e.calls = some r → e.now.add r.delay ≤ e.dispatch.deadline →
    again = true ∨ r.isRetryable = false → Waits replies e (e.ended r.result (e.now.add r.delay))
  | spent {r : Reply} : e.dispatch.stage = .calling false → replies e.calls = some r →
    r.isRetryable = true → e.now.add r.delay = e.dispatch.deadline →
    Waits replies e (e.ended (.error (.timeout ((e.now.add r.delay).sub e.dispatch.started)))
      (e.now.add r.delay))
  | again {r : Reply} : e.dispatch.stage = .calling false → replies e.calls = some r →
    r.isRetryable = true → e.now.add r.delay < e.dispatch.deadline →
    Waits replies e (e.resent (e.now.add r.delay))

variable {start : Instant} {timeout : Duration} {e : Execution} {replies : Nat → Option Reply}

theorem waits_receive {again : Bool} {r : Reply} (stage : e.dispatch.stage = .calling again)
    (hr : replies e.calls = some r) (inTime : e.now.add r.delay ≤ e.dispatch.deadline) :
    Waits replies e (e.receive r) := by
  unfold receive
  have move := e.dispatch.answer_move (e.now.add r.delay) r.outcome
  generalize e.dispatch.answer (e.now.add r.delay) r.outcome = d at move ⊢
  cases move with
  | ended working last =>
    refine .replied working hr inTime (last.imp_right fun final => ?_)
    rw [Reply.isRetryable]
    cases outcome : r.outcome with
    | ok rows => rfl
    | error failure => exact final failure outcome
  | @called failure working failed busy =>
    have retryable : r.isRetryable = true := by
      rw [Reply.isRetryable, failed]
      exact busy
    rw [Dispatch.call]
    by_cases spent : e.dispatch.deadline ≤ e.now.add r.delay
    · rw [if_pos spent]
      exact .spent working hr retryable (congrArg Duration.mk (Nat.le_antisymm inTime spent))
    · rw [if_neg spent]
      exact .again working hr retryable (Nat.not_le.1 spent)
  | stays done => cases stage.symm.trans done

theorem waits_await (replies : Nat → Option Reply) (e : Execution) :
    Waits replies e (e.await replies) := by
  unfold await
  split
  · rename_i stage
    exact .stays stage
  · rename_i again stage
    split
    · rename_i r hr
      obtain ⟨hr, inTime⟩ := Option.filter_eq_some_iff.1 hr
      exact waits_receive stage hr (of_decide_eq_true inTime)
    · rename_i none
      have giveUp : e.giveUp =
          e.ended (.error (.timeout e.dispatch.timeout)) e.dispatch.deadline := by
        rw [giveUp, Dispatch.expire, stage]
        simp only [if_pos (Duration.le_refl e.dispatch.deadline)]
        rfl
      rw [giveUp]
      refine .late stage fun r hr => ?_
      have tooLate := Option.filter_eq_none_iff.1 none r hr
      exact Nat.not_le.1 (of_decide_eq_false (Bool.eq_false_iff.2 tooLate))

/-! ## the whole way -/

/-- The statement keeps its deadline, which has not passed. A call that may be followed by another
is the first. -/
structure Sound (start : Instant) (timeout : Duration) (e : Execution) : Prop where
  started : e.dispatch.started = start
  allotted : e.dispatch.timeout = timeout
  now : e.now ≤ start.add timeout
  calls : e.calls ≤ 2
  first : e.dispatch.stage = .calling false → e.calls = 1

theorem Sound.deadline (h : e.Sound start timeout) : e.dispatch.deadline = start.add timeout := by
  rw [Dispatch.deadline, h.started, h.allotted]

theorem Sound.of_waits {e' : Execution} (h : e.Sound start timeout) (waits : Waits replies e e') :
    e'.Sound start timeout := by
  cases waits with
  | stays => exact h
  | late => exact ⟨h.started, h.allotted, h.deadline ▸ Duration.le_refl _, h.calls, nofun⟩
  | replied _ _ inTime => exact ⟨h.started, h.allotted, h.deadline ▸ inTime, h.calls, nofun⟩
  | spent _ _ _ same =>
    refine ⟨h.started, h.allotted, ?_, h.calls, nofun⟩
    rw [ended, same, h.deadline]
    exact Duration.le_refl _
  | again stage _ _ before =>
    refine ⟨h.started, h.allotted, h.deadline ▸ Nat.le_of_lt before, ?_, nofun⟩
    exact Nat.le_of_eq (congrArg Nat.succ (h.first stage))

/-- What comes of a statement with so much time, by what its first and its second call come to: its
result, and how many calls it takes. -/
inductive Settles (timeout : Duration) (first second : Option Reply) :
    Except GatewayError RowSet → Nat → Prop
  | noTime : timeout = .zero → Settles timeout first second (.error (.timeout timeout)) 0
  | late : .zero < timeout → (∀ r ∈ first, timeout < r.delay) →
    Settles timeout first second (.error (.timeout timeout)) 1
  | replied {r : Reply} : .zero < timeout → first = some r → r.delay ≤ timeout →
    r.isRetryable = false → Settles timeout first second r.result 1
  | spent {r : Reply} : .zero < timeout → first = some r → r.delay = timeout →
    r.isRetryable = true → Settles timeout first second (.error (.timeout timeout)) 1
  | lateAgain {r : Reply} : first = some r → r.delay < timeout → r.isRetryable = true →
    (∀ r' ∈ second, timeout.sub r.delay < r'.delay) →
    Settles timeout first second (.error (.timeout timeout)) 2
  | repliedAgain {r r' : Reply} : first = some r → r.delay < timeout → r.isRetryable = true →
    second = some r' → r'.delay ≤ timeout.sub r.delay → Settles timeout first second r'.result 2

variable {engines : Engines} {source : String} {sql : Sql.Rendered} {engine : Engine}

section Sent

variable (registered : engines.get? source = some engine) (dialect : engine.dialect = sql.dialect)
include registered dialect

theorem start_eq_call (timeout : Duration) (start : Instant) :
    Dispatch.start engines source sql timeout start =
      (⟨source, sql.text, timeout, start, .calling false⟩ : Dispatch).call start false := by
  unfold Dispatch.start
  rw [registered]
  simp only [dialect, ne_eq, not_true, if_false]

/-- Without any time, a source is not called. -/
theorem sent_zero (start : Instant) : sent engines source sql .zero start =
    ⟨⟨source, sql.text, .zero, start, .done (.error (.timeout .zero))⟩, 0, start⟩ := by
  have called := (start_eq_call registered dialect .zero start).trans
    (if_pos (Duration.le_refl start))
  have nothing : start.sub start = .zero := congrArg Duration.mk (Nat.sub_self _)
  rw [sent, called, nothing]
  rfl

theorem sent_of_pos {timeout : Duration} (some : .zero < timeout) (start : Instant) :
    sent engines source sql timeout start =
      ⟨⟨source, sql.text, timeout, start, .calling false⟩, 1, start⟩ := by
  have early : ¬start.add timeout ≤ start := Nat.not_le.2 (Nat.lt_add_of_pos_right some)
  have called := (start_eq_call registered dialect timeout start).trans (if_neg early)
  rw [sent, called]
  rfl

end Sent

theorem sound_sent (registered : engines.get? source = some engine)
    (dialect : engine.dialect = sql.dialect) (timeout : Duration) (start : Instant) :
    (sent engines source sql timeout start).Sound start timeout := by
  rcases Nat.eq_zero_or_pos timeout.nanoseconds with none | some
  · have zero : timeout = .zero := congrArg Duration.mk none
    subst zero
    rw [sent_zero registered dialect]
    exact ⟨rfl, rfl, Duration.le_refl start, Nat.zero_le 2, nofun⟩
  · rw [sent_of_pos registered dialect some]
    exact ⟨rfl, rfl, Nat.le_add_right .., Nat.le_succ 1, fun _ => rfl⟩

/-- Waiting keeps to what is allotted. -/
theorem sound_iterate (registered : engines.get? source = some engine)
    (dialect : engine.dialect = sql.dialect) (timeout : Duration) (start : Instant)
    (replies : Nat → Option Reply) (n : Nat) :
    ((await replies)^[n] (sent engines source sql timeout start)).Sound start timeout := by
  induction n with
  | zero => exact sound_sent registered dialect timeout start
  | succ n ih =>
    rw [Function.iterate_succ_apply']
    exact ih.of_waits (waits_await replies _)

/-- Where the clock reaches the deadline it tells every instant that a statement comes to. -/
theorem told_iterate (registered : engines.get? source = some engine)
    (dialect : engine.dialect = sql.dialect) {timeout : Duration} {start : Instant}
    (told : start.add timeout ≤ Instant.last) (replies : Nat → Option Reply) (n : Nat) :
    let e := (await replies)^[n] (sent engines source sql timeout start)
    start.after? timeout = some e.dispatch.deadline ∧ e.now ≤ Instant.last := by
  intro e
  have sound := sound_iterate registered dialect timeout start replies n
  refine ⟨?_, Duration.le_trans sound.now told⟩
  rw [sound.deadline, Instant.after?_eq_some told]

theorem await_ended (e : Execution) (result : Except GatewayError RowSet) (now : Instant) :
    (e.ended result now).await replies = e.ended result now := rfl

/-- The second wait is the last. -/
theorem settles_resent (start : Instant) {r : Reply} (hr : replies 1 = some r)
    (retryable : r.isRetryable = true) (before : r.delay < timeout) {e : Execution}
    (stage : e.dispatch.stage = .calling true) (calls : e.calls = 2)
    (now : e.now = start.add r.delay) (deadline : e.dispatch.deadline = start.add timeout)
    (allotted : e.dispatch.timeout = timeout) :
    ∃ result now, e.await replies = e.ended result now ∧
      Settles timeout (replies 1) (replies 2) result e.calls := by
  have inTime (delay : Duration) :
      e.now.add delay ≤ e.dispatch.deadline ↔ delay ≤ timeout.sub r.delay := by
    rw [now, deadline]
    change start.nanoseconds + r.delay.nanoseconds + delay.nanoseconds ≤
      start.nanoseconds + timeout.nanoseconds ↔
        delay.nanoseconds ≤ timeout.nanoseconds - r.delay.nanoseconds
    change r.delay.nanoseconds < timeout.nanoseconds at before
    omega
  have waits := waits_await replies e
  generalize e.await replies = e' at waits
  cases waits with
  | stays done => cases stage.symm.trans done
  | spent first | again first => cases stage.symm.trans first
  | late _ late =>
    refine ⟨_, _, rfl, ?_⟩
    rw [allotted, calls]
    rw [calls] at late
    refine .lateAgain hr before retryable fun r' hr' => Nat.not_le.1 fun soon => ?_
    exact absurd ((inTime r'.delay).2 soon) (Nat.not_le.2 (late r' hr'))
  | replied _ hr' soon =>
    refine ⟨_, _, rfl, ?_⟩
    rw [calls] at hr' ⊢
    exact .repliedAgain hr before retryable hr' ((inTime _).1 soon)

/-- Waiting twice is enough. -/
theorem settles_sent (registered : engines.get? source = some engine)
    (dialect : engine.dialect = sql.dialect) (timeout : Duration) (start : Instant)
    (replies : Nat → Option Reply) :
    ∃ e result now, ((sent engines source sql timeout start).await replies).await replies =
        ended e result now ∧ Settles timeout (replies 1) (replies 2) result e.calls := by
  rcases Nat.eq_zero_or_pos timeout.nanoseconds with none | some
  · have zero : timeout = .zero := congrArg Duration.mk none
    subst zero
    rw [sent_zero registered dialect]
    exact ⟨⟨⟨source, sql.text, .zero, start, .calling false⟩, 0, start⟩, _, start, rfl, .noTime rfl⟩
  · rw [sent_of_pos registered dialect some]
    have inTime {delay : Duration} : start.add delay ≤ start.add timeout ↔ delay ≤ timeout :=
      Nat.add_le_add_iff_left
    have waits := waits_await replies ⟨⟨source, sql.text, timeout, start, .calling false⟩, 1, start⟩
    generalize await replies _ = e at waits
    cases waits with
    | stays done => cases done
    | late _ late =>
      refine ⟨_, _, _, rfl, .late some fun r hr => Nat.not_le.1 fun soon => ?_⟩
      exact absurd (inTime.2 soon) (Nat.not_le.2 (late r hr))
    | replied stage hr soon last =>
      cases stage
      refine ⟨_, _, _, rfl, .replied some hr (inTime.1 soon) (last.resolve_left (by decide))⟩
    | spent _ hr retryable same =>
      have whole : (start.add timeout).sub start = timeout :=
        congrArg Duration.mk (Nat.add_sub_cancel_left ..)
      have exactly :=
        congrArg Duration.mk (Nat.add_left_cancel (congrArg Duration.nanoseconds same))
      refine ⟨_, _, _, rfl, ?_⟩
      change Settles _ _ _ (.error (.timeout ((start.add _).sub start))) 1
      rw [show start.add _ = start.add timeout from same, whole]
      exact .spent some hr exactly retryable
    | again _ hr retryable before =>
      obtain ⟨result, now, ends, settles⟩ := settles_resent start hr retryable
        (Nat.lt_of_add_lt_add_left before)
        (e := resent ⟨⟨source, sql.text, timeout, start, .calling false⟩, 1, start⟩ _) rfl rfl rfl
        rfl rfl
      exact ⟨_, result, now, ends, settles⟩

/-- A source that is called for a statement in its dialect is called at most twice, and the
statement ends by its deadline, after two waits at the most, as its calls come to. Where the clock
does not reach the deadline, a process has none to go by; up to there `told_iterate` tells that the
instants are those of the clock. -/
theorem retried_once (engines : Engines) (source : String) (engine : Engine) (sql : Sql.Rendered)
    (registered : engines.get? source = some engine) (dialect : engine.dialect = sql.dialect)
    (timeout : Duration) (start : Instant) (replies : Nat → Option Reply) :
    (∀ n, ((await replies)^[n] (sent engines source sql timeout start)).calls ≤ 2 ∧
      ((await replies)^[n] (sent engines source sql timeout start)).now ≤ start.add timeout) ∧
    ∃ e result, (∀ n ≥ 2, (await replies)^[n] (sent engines source sql timeout start) = e) ∧
      e.dispatch.result? = some result ∧
        Settles timeout (replies 1) (replies 2) result e.calls := by
  constructor
  · intro n
    have sound := sound_iterate registered dialect timeout start replies n
    exact ⟨sound.calls, sound.now⟩
  · obtain ⟨e, result, now, ends, settles⟩ :=
      settles_sent registered dialect timeout start replies
    refine ⟨e.ended result now, result, fun n hn => ?_, rfl, settles⟩
    obtain ⟨more, rfl⟩ := Nat.exists_eq_add_of_le' hn
    have still : (await replies)^[more] (e.ended result now) = e.ended result now :=
      Function.iterate_fixed (await_ended e result now) more
    rw [Function.iterate_add_apply]
    exact (congrArg _ ends).trans still

/-- A source that is too busy after 10 milliseconds, and returns no rows 20 milliseconds later. -/
def busyReplies : Nat → Option Reply
  | 1 => some ⟨.ofMilliseconds 10, .error { kind := .resource, detail := "", transient := true }⟩
  | 2 => some ⟨.ofMilliseconds 20, .ok {}⟩
  | _ => none

theorem retried_once_busy :
    let engines : Engines := .ofList [("warehouse", .postgresql)]
    let sql : Sql.Rendered := ⟨"SELECT 1", .postgresql⟩
    let e n := (await busyReplies)^[n] (sent engines "warehouse" sql (.ofMilliseconds 30) .zero)
    engines.get? "warehouse" = some .postgresql ∧ Engine.postgresql.dialect = sql.dialect ∧
      (∀ n, (e n).calls ≤ 2) ∧ ∃ result, (e 2).dispatch.result? = some result ∧
        Settles (.ofMilliseconds 30) (busyReplies 1) (busyReplies 2) result (e 2).calls := by
  intro engines sql e
  have registered : engines.get? "warehouse" = some .postgresql := rfl
  obtain ⟨bounds, last, result, ends, done, settles⟩ := retried_once engines "warehouse"
    .postgresql sql registered rfl (.ofMilliseconds 30) .zero busyReplies
  have ended : e 2 = last := ends 2 (Nat.le_refl 2)
  exact ⟨registered, rfl, fun n => (bounds n).1, result, ended ▸ done, ended ▸ settles⟩

end Execution

end AnalyticsGateway
