import AnalyticsGateway.Proofs.Store.Contract
import Mathlib.Data.List.Induction
import Mathlib.Logic.Function.Basic

/-!
# Leases exclude

A store keeps an owner under the key of a lease and when its time is over, but not who holds the
lease: that is told by what the owners have done. Whatever they have done and in whatever order, the
lease has one holder at most, is claimed by others only when it has none, and no one but its holder
ends it or prolongs it (`lease_exclusion`).
-/

namespace AnalyticsGateway

open SharedStore LawfulStore

/-! ## what is done with a lease -/

/-- How a store tells time: what it reads off a moment, and how it counts a span. -/
structure LeaseClock where
  reads : Moment → Int
  counts : Duration → Int
  /-- The last time that the clock can tell. -/
  last : Int

namespace LeaseClock

/-- The clock of the store in memory. -/
def nanoseconds : LeaseClock where
  reads now := now.clock.nanoseconds
  counts span := span.nanoseconds
  last := Instant.last.nanoseconds

/-- The clock of the store in a table. -/
def milliseconds : LeaseClock where
  reads now := now.calendar
  counts span := span.milliseconds
  last := TableStore.lastMillisecond

/-- When a span is over that begins at a moment. -/
def ending (clock : LeaseClock) (now : Moment) (span : Duration) : Int :=
  clock.reads now + clock.counts span

/-- Neither the span nor its end is beyond what the clock can tell. -/
def Fits (clock : LeaseClock) (now : Moment) (span : Duration) : Prop :=
  clock.counts span ≤ clock.last ∧ clock.ending now span ≤ clock.last

instance (clock : LeaseClock) (now : Moment) (span : Duration) : Decidable (clock.Fits now span) :=
  inferInstanceAs (Decidable (_ ∧ _))

end LeaseClock

/-- What is done with a lease by an owner, or with all that a store keeps. -/
inductive LeaseUse (β : Type) where
  | claim (owner : β) (span : Duration)
  | renew (owner : β) (span : Duration)
  | release (owner : β)
  | publish (entry : String) (value : β) (span : Duration) (owner : β)
  | purge

namespace LeaseUse

variable {σ β : Type} [SharedStore σ β]

def owner? : LeaseUse β → Option β
  | claim owner _ | renew owner _ | release owner | publish _ _ _ owner => some owner
  | purge => none

def published? : LeaseUse β → Option String
  | publish entry _ _ _ => some entry
  | _ => none

def span? : LeaseUse β → Option Duration
  | claim _ span | renew _ span | publish _ _ span _ => some span
  | release _ | purge => none

/-- Whether the use succeeds, and the store after it. -/
def perform (now : Moment) (lease : String) (store : σ) : LeaseUse β → Bool × σ
  | claim owner span => SharedStore.claim now lease owner span store
  | renew owner span => SharedStore.renew now lease owner span store
  | release owner => SharedStore.release now lease owner store
  | publish entry value span owner =>
    (true, SharedStore.publish now entry value span lease owner store)
  | purge => (true, (SharedStore.purge now store).2)

/-- When the leases of owners end, after a use at a moment that has succeeded or not: a claim or a
renewal counts if it has succeeded, giving the lease up counts in any case. -/
def ends [DecidableEq β] (clock : LeaseClock) (now : Moment) (succeeds : Bool)
    (old : β → Option Int) : LeaseUse β → β → Option Int
  | claim owner span =>
    if succeeds then Function.update old owner (some (clock.ending now span)) else old
  | renew owner span =>
    if succeeds then
      Function.update old owner ((old owner).map fun _ => clock.ending now span)
    else old
  | release owner | publish _ _ _ owner => Function.update old owner none
  | purge => old

end LeaseUse

namespace LeaseClock

variable {β : Type}

/-- The clock never goes back, up to a moment after all uses. -/
def InOrder (clock : LeaseClock) (events : List (Moment × LeaseUse β)) (now : Moment) : Prop :=
  (events.map fun e => clock.reads e.1).Pairwise (· ≤ ·) ∧
    ∀ e ∈ events, clock.reads e.1 ≤ clock.reads now

instance (clock : LeaseClock) (events : List (Moment × LeaseUse β)) (now : Moment) :
    Decidable (clock.InOrder events now) := inferInstanceAs (Decidable (_ ∧ _))

def AllFit (clock : LeaseClock) (events : List (Moment × LeaseUse β)) : Prop :=
  ∀ e ∈ events, ∀ span ∈ e.2.span?, clock.Fits e.1 span

instance (clock : LeaseClock) (events : List (Moment × LeaseUse β)) :
    Decidable (clock.AllFit events) :=
  inferInstanceAs (Decidable (∀ e ∈ events, ∀ span ∈ e.2.span?, clock.Fits e.1 span))

end LeaseClock

/-- A store, and when the lease of each owner ends who has claimed it and not given it up since. -/
structure LeaseHistory (σ β : Type) where
  store : σ
  ends : β → Option Int := fun _ => none

namespace LeaseHistory

variable {σ β : Type} [SharedStore σ β] [DecidableEq β]

def next (clock : LeaseClock) (lease : String) (h : LeaseHistory σ β)
    (event : Moment × LeaseUse β) : LeaseHistory σ β :=
  let (succeeds, store) := event.2.perform event.1 lease h.store
  ⟨store, event.2.ends clock event.1 succeeds h.ends⟩

def run (clock : LeaseClock) (lease : String) (h : LeaseHistory σ β)
    (events : List (Moment × LeaseUse β)) : LeaseHistory σ β := events.foldl (next clock lease) h

omit [SharedStore σ β] [DecidableEq β] in
/-- An owner holds the lease as long as its end is to come. -/
def Holds (clock : LeaseClock) (h : LeaseHistory σ β) (now : Moment) (owner : β) : Prop :=
  ∃ e, h.ends owner = some e ∧ clock.reads now < e

/-- One owner holds the lease at most; it can be claimed exactly when nobody does, and renewed
exactly by its holder; and what others do leaves to the holder how long it is kept. -/
structure IsExclusive (clock : LeaseClock) (lease : String) (h : LeaseHistory σ β) (now : Moment) :
    Prop where
  unique : ∀ a b, h.Holds clock now a → h.Holds clock now b → a = b
  claim_iff : ∀ owner span,
    (claim now lease owner span h.store).1 = true ↔ ∀ other, ¬h.Holds clock now other
  renew_iff : ∀ owner span,
    (renew now lease owner span h.store).1 = true ↔ h.Holds clock now owner
  undisturbed : ∀ holder (use : LeaseUse β), h.Holds clock now holder →
    use.owner? ≠ some holder → use.published? ≠ some lease →
      ∀ later, ((h.next clock lease (now, use)).Holds clock later holder ↔
          h.Holds clock later holder) ∧
        get later lease (h.next clock lease (now, use)).store = get later lease h.store

end LeaseHistory

/-! ## what the store tells of a lease -/

section Invariant

variable {σ β : Type} [SharedStore σ β] [LawfulStore σ]

/-- The time of a record is over at an end. -/
def EndsAt (σ : Type) {β : Type} [SharedStore σ β] [LawfulStore σ] (clock : LeaseClock)
    (expiry : Expiry σ) (e : Int) : Prop :=
  ∀ m, isLive expiry m = decide (clock.reads m < e)

/-- A store tells time by a clock. -/
def KeepsTime (σ : Type) {β : Type} [SharedStore σ β] [LawfulStore σ] (clock : LeaseClock) :
    Prop :=
  ∀ {now span}, clock.Fits now span → EndsAt σ clock (after now span) (clock.ending now span)

/-- From some time on, the record of a lease is its holder's, and tells when the lease ends. -/
structure LeaseRecord (clock : LeaseClock) (lease : String) (h : LeaseHistory σ β) (time : Int) :
    Prop where
  held : ∀ {owner e}, h.ends owner = some e → time < e →
    ∃ expiry, record? h.store lease = some (owner, expiry) ∧ EndsAt σ clock expiry e
  known : ∀ {owner expiry}, record? h.store lease = some (owner, expiry) →
    ∃ e, EndsAt σ clock expiry e ∧ (time < e → h.ends owner = some e)

namespace LeaseRecord

variable {clock : LeaseClock} {lease : String} {h : LeaseHistory σ β} {time : Int} {now : Moment}

theorem fresh {store : σ} (absent : record? store lease = none) :
    LeaseRecord clock lease (⟨store, fun _ => none⟩ : LeaseHistory σ β) time where
  held := nofun
  known record := nomatch absent.symm.trans record

theorem mono (inv : LeaseRecord clock lease h time) {time' : Int} (later : time ≤ time') :
    LeaseRecord clock lease h time' where
  held ends future := inv.held ends (Int.lt_of_le_of_lt later future)
  known record := by
    obtain ⟨e, endsAt, future⟩ := inv.known record
    exact ⟨e, endsAt, fun h => future (Int.lt_of_le_of_lt later h)⟩

/-- Only the record of the lease matters. -/
theorem of_record?_eq (inv : LeaseRecord clock lease h time) {store : σ}
    (same : record? store lease = record? h.store lease) :
    LeaseRecord clock lease (⟨store, h.ends⟩ : LeaseHistory σ β) time where
  held ends future := same ▸ inv.held ends future
  known record := inv.known (same ▸ record)

theorem record?_of_holds (inv : LeaseRecord clock lease h (clock.reads now)) {owner : β}
    (holds : h.Holds clock now owner) :
    ∃ expiry, record? h.store lease = some (owner, expiry) ∧ isLive expiry now = true := by
  obtain ⟨e, ends, future⟩ := holds
  obtain ⟨expiry, record, endsAt⟩ := inv.held ends future
  exact ⟨expiry, record, (endsAt now).trans (decide_eq_true future)⟩

theorem holds_of_record? (inv : LeaseRecord clock lease h (clock.reads now)) {owner : β}
    {expiry : Expiry σ} (record : record? h.store lease = some (owner, expiry))
    (live : isLive expiry now = true) : h.Holds clock now owner := by
  obtain ⟨e, endsAt, ends⟩ := inv.known record
  have future : clock.reads now < e := of_decide_eq_true ((endsAt now).symm.trans live)
  exact ⟨e, ends future, future⟩

theorem unique (inv : LeaseRecord clock lease h (clock.reads now)) {a b : β}
    (ha : h.Holds clock now a) (hb : h.Holds clock now b) : a = b := by
  obtain ⟨_, record, -⟩ := inv.record?_of_holds ha
  obtain ⟨_, record', -⟩ := inv.record?_of_holds hb
  exact (Prod.mk.inj (Option.some.inj (record.symm.trans record'))).1

theorem absent_of_vacant (inv : LeaseRecord clock lease h (clock.reads now))
    (vacant : ∀ owner, ¬h.Holds clock now owner) (value : β) (expiry : Expiry σ)
    (record : record? h.store lease = some (value, expiry)) : isLive expiry now = false :=
  Bool.eq_false_iff.2 fun live => vacant value (inv.holds_of_record? record live)

theorem claim_iff (inv : LeaseRecord clock lease h (clock.reads now)) (owner : β)
    (span : Duration) :
    (claim now lease owner span h.store).1 = true ↔ ∀ other, ¬h.Holds clock now other := by
  constructor
  · intro succeeds other holds
    obtain ⟨_, record, live⟩ := inv.record?_of_holds holds
    rw [claim_of_live owner span record live] at succeeds
    cases succeeds
  · exact fun vacant => (claim_of_absent owner span (inv.absent_of_vacant vacant)).1

theorem renew_iff (inv : LeaseRecord clock lease h (clock.reads now)) (owner : β)
    (span : Duration) :
    (renew now lease owner span h.store).1 = true ↔ h.Holds clock now owner := by
  constructor
  · intro succeeds
    by_contra idle
    rw [renew_of_not_held span fun expiry record =>
      Bool.eq_false_iff.2 fun live => idle (inv.holds_of_record? record live)] at succeeds
    cases succeeds
  · intro holds
    obtain ⟨_, record, live⟩ := inv.record?_of_holds holds
    exact (renew_of_held span record live).1

/-! ## one use -/

variable [DecidableEq β]

omit [DecidableEq β] in
/-- An owner gets the lease for a span. -/
theorem taken (keeps : KeepsTime σ clock) {owner : β} {span : Duration}
    (fits : clock.Fits now span) {store : σ}
    (record : record? store lease = some (owner, after now span)) {ends : β → Option Int}
    (own : ends owner = some (clock.ending now span))
    (others : ∀ other e, other ≠ owner → ends other = some e → ¬clock.reads now < e) :
    LeaseRecord clock lease (⟨store, ends⟩ : LeaseHistory σ β) (clock.reads now) where
  held {other e} h future := by
    by_cases same : other = owner
    · subst same
      cases own.symm.trans h
      exact ⟨_, record, keeps fits⟩
    · exact absurd future (others other e same h)
  known {other expiry} h := by
    cases record.symm.trans h
    exact ⟨_, keeps fits, fun _ => own⟩

theorem next_claim (inv : LeaseRecord clock lease h (clock.reads now)) (keeps : KeepsTime σ clock)
    {owner : β} {span : Duration} (fits : clock.Fits now span) :
    LeaseRecord clock lease (h.next clock lease (now, .claim owner span)) (clock.reads now) := by
  by_cases vacant : ∀ other, ¬h.Holds clock now other
  · have succeeds := (inv.claim_iff owner span).2 vacant
    have record := (claim_of_absent owner span (inv.absent_of_vacant vacant)).2 lease
    rw [if_pos rfl] at record
    have after : h.next clock lease (now, .claim owner span) =
        ⟨(claim now lease owner span h.store).2,
          Function.update h.ends owner (some (clock.ending now span))⟩ := by
      simp [LeaseHistory.next, LeaseUse.perform, LeaseUse.ends, succeeds]
    rw [after]
    refine taken keeps fits record (Function.update_self ..) fun other e apart ends future => ?_
    rw [Function.update_of_ne apart] at ends
    exact vacant other ⟨e, ends, future⟩
  · obtain ⟨other, holds⟩ := not_forall_not.1 vacant
    obtain ⟨_, record, live⟩ := inv.record?_of_holds holds
    have fails := claim_of_live owner span record live
    simpa [LeaseHistory.next, LeaseUse.perform, LeaseUse.ends, fails] using inv

theorem next_renew (inv : LeaseRecord clock lease h (clock.reads now)) (keeps : KeepsTime σ clock)
    {owner : β} {span : Duration} (fits : clock.Fits now span) :
    LeaseRecord clock lease (h.next clock lease (now, .renew owner span)) (clock.reads now) := by
  by_cases holds : h.Holds clock now owner
  · have succeeds := (inv.renew_iff owner span).2 holds
    obtain ⟨expiry, held, live⟩ := inv.record?_of_holds holds
    have record := (renew_of_held span held live).2 lease
    rw [if_pos rfl] at record
    obtain ⟨old, hold, -⟩ := id holds
    have after : h.next clock lease (now, .renew owner span) =
        ⟨(renew now lease owner span h.store).2,
          Function.update h.ends owner (some (clock.ending now span))⟩ := by
      simp [LeaseHistory.next, LeaseUse.perform, LeaseUse.ends, succeeds, hold]
    rw [after]
    refine taken keeps fits record (Function.update_self ..) fun other e apart ends future => ?_
    rw [Function.update_of_ne apart] at ends
    exact apart (inv.unique ⟨e, ends, future⟩ holds)
  · have fails := renew_of_not_held span fun expiry record =>
      Bool.eq_false_iff.2 fun live => holds (inv.holds_of_record? record live)
    simpa [LeaseHistory.next, LeaseUse.perform, LeaseUse.ends, fails] using inv

/-- An owner gives the lease up, if it has it. -/
theorem given_up (inv : LeaseRecord clock lease h (clock.reads now)) (owner : β) :
    LeaseRecord clock lease
      (⟨(release now lease owner h.store).2, Function.update h.ends owner none⟩ :
        LeaseHistory σ β) (clock.reads now) := by
  by_cases own : ∃ expiry, record? h.store lease = some (owner, expiry)
  · obtain ⟨expiry, record⟩ := own
    constructor
    · intro other e ends future
      by_cases same : other = owner
      · simp [same] at ends
      · -- The record is the owner's, so no other's lease has its end to come.
        simp only [Function.update_of_ne same] at ends
        obtain ⟨_, record', -⟩ := inv.held ends future
        exact absurd (Prod.mk.inj (Option.some.inj (record'.symm.trans record))).1 same
    · intro other expiry' record'
      rcases record?_release now lease owner h.store lease with kept | ⟨-, gone⟩
      · have same := kept.symm.trans record'
        rw [record] at same
        cases same
        obtain ⟨e, endsAt, -⟩ := inv.known record
        refine ⟨e, endsAt, fun future => ?_⟩
        -- A record whose time is not over would have been removed.
        have live : isLive expiry now = true := (endsAt now).trans (decide_eq_true future)
        have removed := (release_of_held record live).2 lease
        rw [if_pos rfl, record'] at removed
        cases removed
      · cases gone.symm.trans record'
  · have fails : release now lease owner h.store = (false, h.store) :=
      release_of_other fun expiry record => own ⟨expiry, record⟩
    rw [fails]
    constructor
    · intro other e ends future
      by_cases same : other = owner
      · simp [same] at ends
      · exact inv.held (by simpa [same] using ends) future
    · intro other expiry record
      have apart : other ≠ owner := fun same => own ⟨expiry, same ▸ record⟩
      obtain ⟨e, endsAt, ends⟩ := inv.known record
      exact ⟨e, endsAt, fun future => by simpa [apart] using ends future⟩

theorem next_publish (inv : LeaseRecord clock lease h (clock.reads now)) {entry : String}
    (apart : entry ≠ lease) (value : β) (span : Duration) (owner : β) :
    LeaseRecord clock lease (h.next clock lease (now, .publish entry value span owner))
      (clock.reads now) := by
  have put : LeaseRecord clock lease (⟨set now entry value span h.store, h.ends⟩ : LeaseHistory σ β)
      (clock.reads now) := inv.of_record?_eq (by rw [record?_set, if_neg apart])
  have freed := put.given_up owner
  rw [← publish_eq] at freed
  exact freed

theorem next_purge (inv : LeaseRecord clock lease h (clock.reads now)) :
    LeaseRecord clock lease (h.next clock lease (now, .purge)) (clock.reads now) where
  held ends future := by
    obtain ⟨expiry, record, endsAt⟩ := inv.held ends future
    have live : isLive expiry now = true := (endsAt now).trans (decide_eq_true future)
    exact ⟨expiry, record?_purge_of_live record live, endsAt⟩
  known record := by
    have kept := (record?_purge now h.store lease).symm.trans record
    exact inv.known (Option.filter_eq_some_iff.1 kept).1

/-- What is known of a lease is known after every use, of which the spans fit the clock. -/
theorem next (inv : LeaseRecord clock lease h (clock.reads now)) (keeps : KeepsTime σ clock)
    {use : LeaseUse β} (fits : ∀ span ∈ use.span?, clock.Fits now span)
    (apart : use.published? ≠ some lease) :
    LeaseRecord clock lease (h.next clock lease (now, use)) (clock.reads now) := by
  cases use with
  | claim owner span => exact inv.next_claim keeps (fits span rfl)
  | renew owner span => exact inv.next_renew keeps (fits span rfl)
  | release owner => exact inv.given_up owner
  | publish entry value span owner =>
    exact inv.next_publish (fun same => apart (congrArg some same)) value span owner
  | purge => exact inv.next_purge

/-! ## all uses -/

theorem run {store : σ} (absent : record? store lease = none) (keeps : KeepsTime σ clock)
    {events : List (Moment × LeaseUse β)} (fits : clock.AllFit events)
    (apart : ∀ e ∈ events, e.2.published? ≠ some lease) (inOrder : clock.InOrder events now) :
    LeaseRecord clock lease ((⟨store, fun _ => none⟩ : LeaseHistory σ β).run clock lease events)
      (clock.reads now) := by
  induction events using List.reverseRecOn generalizing now with
  | nil => exact fresh absent
  | append_singleton events event ih =>
    obtain ⟨inOrder, before⟩ := inOrder
    simp only [LeaseClock.AllFit, List.forall_mem_append, List.forall_mem_singleton]
      at fits apart before
    rw [List.map_append, List.pairwise_append] at inOrder
    have passed : clock.InOrder events event.1 := ⟨inOrder.1, fun e he =>
      inOrder.2.2 _ (List.mem_map_of_mem he) _ (List.mem_singleton_self _)⟩
    have earlier := ih fits.1 apart.1 passed
    rw [LeaseHistory.run, List.foldl_append]
    exact (earlier.next keeps fits.2 apart.2).mono before.2

omit [DecidableEq β] in
/-- What others do to a lease leaves the record of its holder. -/
theorem record?_perform_of_holds (inv : LeaseRecord clock lease h (clock.reads now)) {holder : β}
    (holds : h.Holds clock now holder) {use : LeaseUse β} (other : use.owner? ≠ some holder)
    (apart : use.published? ≠ some lease) :
    record? (use.perform now lease h.store).2 lease = record? h.store lease := by
  obtain ⟨expiry, record, live⟩ := inv.record?_of_holds holds
  rw [record]
  cases use with
  | claim owner span => exact record?_claim_of_live record live owner span
  | renew owner span =>
    exact record?_renew_of_other record (fun _ same => other (congrArg some same)) span
  | release owner =>
    exact record?_release_of_other record fun _ same => other (congrArg some same)
  | publish entry value span owner =>
    exact record?_publish_of_other record (fun same => apart (congrArg some same))
      (fun _ same => other (congrArg some same)) value span
  | purge => exact record?_purge_of_live record live

omit [LawfulStore σ] in
theorem ends_next_of_other {use : LeaseUse β} {holder : β} (other : use.owner? ≠ some holder) :
    (h.next clock lease (now, use)).ends holder = h.ends holder := by
  cases use with
  | purge => rfl
  | claim owner span | renew owner span =>
    have apart : holder ≠ owner := fun same => other (congrArg some same.symm)
    simp only [LeaseHistory.next, LeaseUse.ends]
    split <;> simp [apart]
  | release owner | publish entry value span owner =>
    have apart : holder ≠ owner := fun same => other (congrArg some same.symm)
    simp [LeaseHistory.next, LeaseUse.ends, apart]

theorem isExclusive (inv : LeaseRecord clock lease h (clock.reads now)) :
    h.IsExclusive clock lease now where
  unique _ _ := inv.unique
  claim_iff := inv.claim_iff
  renew_iff := inv.renew_iff
  undisturbed holder use holds other apart later := by
    constructor
    · rw [LeaseHistory.Holds, LeaseHistory.Holds, ends_next_of_other other]
    · rw [get_eq, get_eq]
      exact congrArg _ (congrArg _ (inv.record?_perform_of_holds holds other apart))

end LeaseRecord

end Invariant

/-! ## the two stores -/

variable {β : Type} [DecidableEq β]

theorem MemoryStore.keepsTime : KeepsTime (MemoryStore β) .nanoseconds := by
  intro now span fits m
  have ends : now.clock.add span ≤ Instant.last := by
    have := fits.2
    simp only [LeaseClock.ending, LeaseClock.nanoseconds] at this
    exact_mod_cast this
  have expiry : after (σ := MemoryStore β) now span = some (now.clock.add span) :=
    Instant.after?_eq_some ends
  rw [expiry]
  exact decide_eq_decide.2 Int.ofNat_lt.symm

theorem TableStore.keepsTime : KeepsTime (TableStore β) .milliseconds := by
  intro now span fits m
  obtain ⟨counted, ends⟩ := fits
  simp only [LeaseClock.ending, LeaseClock.milliseconds] at counted ends
  have expiry : after (σ := TableStore β) now span =
      some (now.calendar + span.milliseconds) := by
    change some (expiryAfter now.calendar span) = _
    rw [expiryAfter, Int.min_eq_left counted, Int.min_eq_left ends]
  rw [expiry]
  rfl

/-- In both stores, after any uses of a lease that nobody has had before, at moments that never go
back by the store's clock, with spans that fit it and entries apart from the lease. -/
theorem lease_exclusion (lease : String) (events : List (Moment × LeaseUse β)) (now : Moment)
    (apart : ∀ e ∈ events, e.2.published? ≠ some lease) :
    (∀ store : MemoryStore β, store.slots.get? lease = none →
      LeaseClock.nanoseconds.InOrder events now → LeaseClock.nanoseconds.AllFit events →
        ((LeaseHistory.mk store fun _ => none).run .nanoseconds lease events).IsExclusive
          .nanoseconds lease now) ∧
    ∀ store : TableStore β, store.rows.get? lease = none →
      LeaseClock.milliseconds.InOrder events now → LeaseClock.milliseconds.AllFit events →
        ((LeaseHistory.mk store fun _ => none).run .milliseconds lease events).IsExclusive
          .milliseconds lease now := by
  constructor
  · intro store absent inOrder fits
    have none : record? store lease = none := by
      change store.record? lease = none
      rw [MemoryStore.record?, absent, Option.map_none]
    exact (LeaseRecord.run none MemoryStore.keepsTime fits apart inOrder).isExclusive
  · intro store absent inOrder fits
    have none : record? store lease = none := by
      change store.record? lease = none
      rw [TableStore.record?, absent, Option.map_none]
    exact (LeaseRecord.run none TableStore.keepsTime fits apart inOrder).isExclusive

/-! ## a lease that is taken over -/

namespace ExclusionSample

def atSecond (n : Nat) : Moment := ⟨.ofSeconds n, .ofMilliseconds (1000 * n)⟩

/-- One owner's lease is over just when another claims it, and is given up and published late. -/
def events : List (Moment × LeaseUse String) :=
  [(atSecond 0, .claim "early" (.ofSeconds 3)), (atSecond 1, .claim "late" (.ofSeconds 5)),
    (atSecond 2, .renew "early" (.ofSeconds 2)), (atSecond 4, .claim "late" (.ofSeconds 5)),
    (atSecond 5, .release "early"), (atSecond 6, .publish "entry" "rows" (.ofSeconds 60) "early"),
    (atSecond 7, .purge)]

end ExclusionSample

open ExclusionSample in
theorem lease_exclusion_taken_over :
    let memory : LeaseHistory (MemoryStore String) String :=
      LeaseHistory.run .nanoseconds "lease" ⟨{}, fun _ => none⟩ events
    let table : LeaseHistory (TableStore String) String :=
      LeaseHistory.run .milliseconds "lease" ⟨{}, fun _ => none⟩ events
    memory.ends "early" = none ∧ memory.ends "late" = some 9000000000 ∧
      memory.IsExclusive .nanoseconds "lease" (atSecond 8) ∧
      table.ends "early" = none ∧ table.ends "late" = some 9000 ∧
      table.IsExclusive .milliseconds "lease" (atSecond 8) := by
  intro memory table
  have exclusive := lease_exclusion "lease" events (atSecond 8) (by decide)
  exact ⟨by decide, by decide, exclusive.1 {} rfl (by decide) (by decide), by decide, by decide,
    exclusive.2 {} rfl (by decide) (by decide)⟩

end AnalyticsGateway
