import AnalyticsGateway.Moment

/-!
# Shared stores

A store keeps values under keys for a time, for all processes. Each operation is one atomic step at
a moment; a value whose time is over counts as absent. A claim is a value that names its owner.
-/

namespace AnalyticsGateway

/-! ## Failures of a shared store -/

inductive StoreError where
  | backend (detail : String)
  | codec (detail : String)
deriving DecidableEq, Repr

def StoreError.message : StoreError → String
  | backend detail => s!"Store backend error: {detail}"
  | codec detail => s!"Store codec error: {detail}"

/-- What becomes of a key: a new value, or nothing where it stays as it is. -/
abbrev Transition (β : Type) := Option β → Except StoreError (Option β)

/-- The operations of a store with states `σ` and values `β`; each gives its answer and the state
after it. -/
class SharedStore (σ : Type) (β : outParam Type) where
  get : Moment → String → σ → Option β
  /-- Puts a value under a key for a time. -/
  set : Moment → String → β → Duration → σ → σ
  /-- Puts an owner under a key that is absent; whether it was. -/
  claim : Moment → String → (owner : β) → Duration → σ → Bool × σ
  /-- Prolongs a claim; whether its owner held it. -/
  renew : Moment → String → (owner : β) → Duration → σ → Bool × σ
  /-- Removes a claim; whether its owner held it. -/
  release : Moment → String → (owner : β) → σ → Bool × σ
  /-- Puts a value under an entry's key for a time, and removes the owner's claim on a lease. -/
  publish : Moment → (entry : String) → β → Duration → (lease : String) → (owner : β) → σ → σ
  /-- Replaces what is under a key, without a time for ever; the value that was there. -/
  update : Moment → String → Option Duration → Transition β → σ → Except StoreError (Option β) × σ
  /-- Removes all values whose time is over; how many there were. -/
  purge : Moment → σ → Nat × σ
  /-- The live keys in order, of a store that can list them. -/
  keys? : Moment → σ → Option (List String)

inductive StoreOperation where
  | get | set | claim | renew | release | publish | update | purge
deriving DecidableEq, Repr, Inhabited

namespace StoreOperation

def all : List StoreOperation := [.get, .set, .claim, .renew, .release, .publish, .update, .purge]

def name : StoreOperation → String
  | get => "get"
  | set => "set"
  | claim => "claim"
  | renew => "renew"
  | release => "release"
  | publish => "publish"
  | update => "update"
  | purge => "purge"

def named? (text : String) : Option StoreOperation := all.find? fun op => op.name == text

end StoreOperation

/-- The circumstances of an operation: when it happens, and which operations fail then. -/
structure Circumstances where
  now : Moment
  failing : List StoreOperation := []
deriving DecidableEq, Repr, Inhabited

namespace Circumstances

variable {σ α : Type}

/-- A failing operation does nothing. -/
def attempt (c : Circumstances) (operation : StoreOperation) (run : σ → α × σ) (store : σ) :
    Except StoreError α × σ :=
  if operation ∈ c.failing then (.error (.backend s!"{operation.name} is down"), store)
  else
    let (answer, store) := run store
    (.ok answer, store)

theorem attempt_of_working {c : Circumstances} {operation : StoreOperation} (run : σ → α × σ)
    (store : σ) (h : operation ∉ c.failing) :
    c.attempt operation run store = (.ok (run store).1, (run store).2) := by
  simp [attempt, h]

end Circumstances

end AnalyticsGateway
