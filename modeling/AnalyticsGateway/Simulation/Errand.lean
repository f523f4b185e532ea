import AnalyticsGateway.Simulation.Basic

/-!
# Errands

Visits of a simulation that start side by side at their times, some of them to be called off before
they are done. Each runs until it waits before the next one starts.
-/

namespace AnalyticsGateway

structure Errand where
  process : Nat
  caller : Caller
  action : Action
  start : Instant
  /-- When the errand is called off. -/
  abort : Option Instant := none
deriving Inhabited

inductive ErrandStage where
  | ahead
  | visiting (visit : Nat)
  | calledOff
deriving DecidableEq, Repr, Inhabited

inductive ErrandResult where
  | answered (answer : Except GatewayError Answer)
  | cancelled
deriving Inhabited

structure Errands (σ : Type) where
  simulation : Simulation σ
  errands : List (Errand × ErrandStage)

namespace Errands

variable {σ : Type}

def setStage (s : Errands σ) (i : Nat) (stage : ErrandStage) : Errands σ :=
  { s with errands := s.errands.modify i fun entry => (entry.1, stage) }

def result? (s : Simulation σ) : ErrandStage → Option ErrandResult
  | .ahead => none
  | .visiting visit => (s.gateway.visits[visit]?.bind fun v => v.stage.answer?).map .answered
  | .calledOff => some .cancelled

/-- An errand that is to be called off by now. -/
def overdue? (s : Errands σ) : Option Nat :=
  s.errands.findIdx? fun entry =>
    (result? s.simulation entry.2).isNone && entry.1.abort.any (· ≤ s.simulation.clock)

/-- An errand whose time has come. -/
def startable? (s : Errands σ) : Option Nat :=
  s.errands.findIdx? fun entry => entry.2 = .ahead && entry.1.start ≤ s.simulation.clock

/-- The next instant after now at which something can happen. -/
def wakeUp? (s : Errands σ) : Option Instant :=
  let ongoing := s.errands.filter fun entry => (result? s.simulation entry.2).isNone
  let times := s.simulation.wakeUps ++ ongoing.filterMap (·.1.abort) ++
    (ongoing.filter fun entry => entry.2 = .ahead).map (·.1.start)
  let later := (times.filter (s.simulation.clock < ·)).map Simulation.wholeMillisecond
  later.min?

variable [SharedStore σ String]

def callOff (s : Errands σ) (i : Nat) : Errands σ :=
  let simulation := match s.errands[i]? with
    | some (_, .visiting visit) => s.simulation.apply (.cancelVisit visit)
    | _ => s.simulation
  { s with simulation }.setStage i .calledOff

def start (s : Errands σ) (i : Nat) : Errands σ :=
  match s.errands[i]? with
  | some (errand, _) =>
    let visit := s.simulation.gateway.visits.length
    let simulation := s.simulation.apply (.visit errand.process errand.caller errand.action)
    { s with simulation }.setStage i (.visiting visit)
  | none => s

/-- The next thing to happen, until every errand has its result. -/
def next? (s : Errands σ) : Option (Errands σ) :=
  match s.simulation.happen? with
  | some simulation => some { s with simulation }
  | none =>
    if let some i := s.overdue? then some (s.callOff i)
    else if let some i := s.startable? then some (s.start i)
    else if s.errands.all fun entry => (result? s.simulation entry.2).isSome then none
    else s.wakeUp?.map fun t => { s with simulation := s.simulation.moveTo t }

def runFor (s : Errands σ) : Nat → Errands σ
  | 0 => s
  | fuel + 1 =>
    match s.next? with
    | some s => s.runFor fuel
    | none => s

/-- More than the steps of any run. -/
def longestRun : Nat := 1000000000000

end Errands

/-- Runs errands side by side to their results. -/
def Simulation.run {σ : Type} [SharedStore σ String] (s : Simulation σ) (errands : List Errand) :
    List ErrandResult × Simulation σ :=
  let done := (Errands.mk s (errands.map fun errand => (errand, .ahead))).runFor Errands.longestRun
  let results := done.errands.map fun entry =>
    (Errands.result? done.simulation entry.2).getD .cancelled
  (results, done.simulation)

end AnalyticsGateway
