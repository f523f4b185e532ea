import AnalyticsGateway.Proofs.Cache.Provenance
import AnalyticsGateway.Proofs.Clock
import AnalyticsGateway.Proofs.Store.Exclusion

/-!
# Journals of a run

A journal tells when jobs have returned rows, when entries have been put into the store and when
rows have been found in it. Of a run under one clock it shows whether hits are fresh
(`CacheJournal.IsFresh`).
-/

namespace AnalyticsGateway

/-! ## one clock -/

/-- The moment that the clock moves to. -/
def CacheEvent.tick? {ω : Type} : CacheEvent ω → Option Moment
  | .tick now => some now
  | _ => none

/-- All moments of a run are told by one clock, which never goes back. -/
structure OneClock {ω : Type} (start : Int) (first : Nat) (events : List (CacheEvent ω)) :
    Prop where
  told : ∀ m ∈ events.filterMap CacheEvent.tick?, ∃ t, m = .onClock start t
  inOrder : (.onClock start first :: events.filterMap CacheEvent.tick?).Pairwise
    fun a b => a.clock ≤ b.clock
  inCalendar : ∀ m ∈ .onClock start first :: events.filterMap CacheEvent.tick?, m.time.InCalendar

theorem OneClock.of_concat {ω : Type} {start : Int} {first : Nat} {events : List (CacheEvent ω)}
    {event : CacheEvent ω} (h : OneClock start first (events ++ [event])) :
    OneClock start first events := by
  obtain ⟨told, inOrder, inCalendar⟩ := h
  rw [List.filterMap_append] at told inOrder inCalendar
  rw [← List.cons_append] at inOrder inCalendar
  exact ⟨fun m mem => told m (List.mem_append_left _ mem), (List.pairwise_append.1 inOrder).1,
    fun m mem => inCalendar m (List.mem_append_left _ mem)⟩

/-- The next moment is told by the clock too. -/
theorem OneClock.tick_le {ω : Type} {start : Int} {first now : Nat} {events : List (CacheEvent ω)}
    {m : Moment} (h : OneClock start first (events ++ [.tick m]))
    (reached : .onClock start now ∈ .onClock start first :: events.filterMap CacheEvent.tick?) :
    ∃ later, now ≤ later ∧ m = .onClock start later ∧ m.time.InCalendar := by
  obtain ⟨told, inOrder, inCalendar⟩ := h
  rw [List.filterMap_append] at told inOrder inCalendar
  rw [← List.cons_append] at inOrder inCalendar
  have mem : m ∈ [(.tick m : CacheEvent ω)].filterMap CacheEvent.tick? :=
    List.mem_singleton_self m
  obtain ⟨later, rfl⟩ := told m (List.mem_append_right _ mem)
  exact ⟨later, (List.pairwise_append.1 inOrder).2.2 _ reached _ mem, rfl,
    inCalendar _ (List.mem_append_right _ mem)⟩

namespace CacheCluster

variable {σ ω : Type} [SharedStore σ String]

/-- The clock stands where it was at first or where it has been moved to. -/
theorem now_run_mem (s : CacheCluster σ ω) (events : List (CacheEvent ω)) :
    (s.run events).now ∈ s.now :: events.filterMap CacheEvent.tick? := by
  induction events using List.reverseRecOn with
  | nil => exact List.mem_singleton_self _
  | append_singleton events event ih =>
    rw [run_concat, step_now, List.filterMap_append, ← List.cons_append]
    cases event with
    | tick now => exact List.mem_append_right _ (List.mem_singleton_self now)
    | _ => exact List.mem_append_left _ ih

end CacheCluster

namespace LeaseClock

/-- What a store's clock has to do with the clock that all go by. -/
structure Follows (clock : LeaseClock) (start : Int) : Prop where
  mono : ∀ {t u}, t ≤ u → clock.reads (.onClock start t) ≤ clock.reads (.onClock start u)
  /-- A span that is not over for the store is not over. -/
  lasts : ∀ {p t span}, clock.reads (.onClock start t) < clock.ending (.onClock start p) span →
    t < p + span.nanoseconds
  seconds : ∀ {now span}, clock.Fits now span → span.seconds < wordSize 63

theorem nanoseconds_follows (start : Int) : nanoseconds.Follows start where
  mono le := Int.ofNat_le.2 le
  lasts h := by
    simp only [nanoseconds, ending, Moment.onClock] at h
    omega
  seconds {_ span} h := by
    have counted : span ≤ Instant.last := Int.ofNat_le.1 h.1
    have bound : span.nanoseconds < wordSize 63 * 1000000000 :=
      Nat.lt_of_le_pred (by decide) counted
    exact Nat.div_lt_of_lt_mul (Nat.mul_comm .. ▸ bound)

theorem milliseconds_follows (start : Int) : milliseconds.Follows start where
  mono le := Int.ediv_le_ediv (by decide) (Int.add_le_add_left (Int.ofNat_le.2 le) start)
  lasts h := by
    simp only [milliseconds, ending, Moment.onClock, Moment.calendar,
      Timestamp.milliseconds, Duration.milliseconds] at h
    omega
  seconds h := by
    have := h.1
    simp only [milliseconds, TableStore.lastMillisecond, Duration.milliseconds, wordSize_63] at this
    simp only [Duration.seconds, wordSize_63]
    omega

end LeaseClock

/-! ## the journal -/

/-- An entry that has been put into the store. -/
structure Publication where
  entry : CacheEntry
  span : Duration
  now : Moment

inductive CacheDeed where
  /-- A job for a key has returned rows. -/
  | executed (key : CacheKey) (rows : RowSet) (now : Moment)
  | published (key : CacheKey) (publication : Publication)
  /-- A look into the store has found rows. -/
  | found (key : CacheKey) (rows : RowSet) (now : Moment)

namespace CacheDeed

def publication? (key : CacheKey) : CacheDeed → Option Publication
  | published key' p => if key' = key then some p else none
  | _ => none

/-- The entry of a key that has been published last. -/
def last? (deeds : List CacheDeed) (key : CacheKey) : Option Publication :=
  (deeds.filterMap (publication? key)).getLast?

theorem mem_of_last? {deeds : List CacheDeed} {key : CacheKey} {p : Publication}
    (h : last? deeds key = some p) : published key p ∈ deeds := by
  obtain ⟨deed, mem, eq⟩ := List.mem_filterMap.1 (List.mem_of_getLast? h)
  cases deed with
  | published key' p' =>
    obtain ⟨rfl, same⟩ := Option.ite_none_right_eq_some.1 eq
    cases same
    exact mem
  | _ => cases eq

theorem last?_concat (deeds : List CacheDeed) (deed : CacheDeed) (key : CacheKey) :
    last? (deeds ++ [deed]) key = (deed.publication? key).or (last? deeds key) := by
  rw [last?, List.filterMap_append, List.getLast?_append, last?, List.filterMap_cons]
  cases deed.publication? key <;> rfl

end CacheDeed

namespace CacheCluster

variable {σ ω : Type} [SharedStore σ String]

/-- What a look into the store tells. -/
def find? (s : CacheCluster σ ω) (failing : List StoreOperation) (key : CacheKey) :
    Option CacheDeed :=
  match s.look failing key with
  | .found rows => some (.found key rows s.now)
  | _ => none

/-- What an event does that goes into the journal. -/
def deed? (s : CacheCluster σ ω) : CacheEvent ω → Option CacheDeed
  | .stepCall id failing => do
    let c ← s.calls[id]?
    match c.stage with
    | .looking => s.find? failing c.key
    | _ => none
  | .stepFlight id failing => do
    let f ← s.flights[id]?
    match f.stage with
    | .rechecking | .polling => s.find? failing f.key
    | .publishing entry =>
      if .publish ∈ failing then none else some (.published f.key ⟨entry, f.ttl, s.now⟩)
    | _ => none
  | .complete runner (.ok rows) => do
    let r ← s.request? runner
    let _ ← s.job? runner
    return .executed r.key rows s.now
  | _ => none

end CacheCluster

namespace CacheCluster

variable {σ ω : Type} [SharedStore σ String] {s : CacheCluster σ ω} {failing : List StoreOperation}
  {id : Nat}

theorem find?_of_found {key : CacheKey} {rows : RowSet} (h : s.look failing key = .found rows) :
    s.find? failing key = some (.found key rows s.now) := by
  rw [find?, h]

theorem of_find? {key : CacheKey} {deed : CacheDeed} (h : s.find? failing key = some deed) :
    ∃ rows, s.look failing key = .found rows ∧ deed = .found key rows s.now := by
  unfold find? at h
  split at h
  · rename_i rows found
    cases h
    exact ⟨rows, found, rfl⟩
  · cases h

/-- What goes into the journal with an event. -/
theorem of_deed? {event : CacheEvent ω} {deed : CacheDeed} (h : s.deed? event = some deed) :
    (∃ failing key rows, s.look failing key = .found rows ∧ deed = .found key rows s.now) ∨
    (∃ id failing f entry, event = .stepFlight id failing ∧ s.flights[id]? = some f ∧
      f.stage = .publishing entry ∧ StoreOperation.publish ∉ failing ∧
      deed = .published f.key ⟨entry, f.ttl, s.now⟩) ∨
    ∃ runner rows key, event = .complete runner (.ok rows) ∧ deed = .executed key rows s.now := by
  unfold deed? at h
  split at h
  · obtain ⟨c, -, h⟩ := Option.bind_eq_some_iff.1 h
    split at h
    · obtain ⟨rows, found, eq⟩ := of_find? h
      exact .inl ⟨_, _, rows, found, eq⟩
    · cases h
  · obtain ⟨f, hf, h⟩ := Option.bind_eq_some_iff.1 h
    split at h
    · obtain ⟨rows, found, eq⟩ := of_find? h
      exact .inl ⟨_, _, rows, found, eq⟩
    · obtain ⟨rows, found, eq⟩ := of_find? h
      exact .inl ⟨_, _, rows, found, eq⟩
    · rename_i entry publishes
      obtain ⟨works, h⟩ := Option.ite_none_left_eq_some.1 h
      cases h
      exact .inr (.inl ⟨_, _, f, entry, rfl, hf, publishes, works, rfl⟩)
    · cases h
  · obtain ⟨r, -, h⟩ := Option.bind_eq_some_iff.1 h
    obtain ⟨_, -, h⟩ := Option.bind_eq_some_iff.1 h
    cases h
    exact .inr (.inr ⟨_, _, r.key, rfl, rfl⟩)
  · cases h

theorem deed?_of_looking {c : CacheCall ω} (hc : s.calls[id]? = some c)
    (looking : c.stage = .looking) : s.deed? (.stepCall id failing) = s.find? failing c.key := by
  simp only [deed?, hc, Option.bind_eq_bind, Option.bind_some, looking]

theorem deed?_of_rechecking_or_polling {f : Flight ω} (hf : s.flights[id]? = some f)
    (looks : f.stage = .rechecking ∨ f.stage = .polling) :
    s.deed? (.stepFlight id failing) = s.find? failing f.key := by
  rcases looks with looks | looks <;>
    simp only [deed?, hf, Option.bind_eq_bind, Option.bind_some, looks]

theorem deed?_of_publishing {f : Flight ω} {entry : CacheEntry} (hf : s.flights[id]? = some f)
    (publishes : f.stage = .publishing entry) (works : StoreOperation.publish ∉ failing) :
    s.deed? (.stepFlight id failing) = some (.published f.key ⟨entry, f.ttl, s.now⟩) := by
  simp only [deed?, hf, Option.bind_eq_bind, Option.bind_some, publishes, works, if_false]

theorem deed?_of_running {runner : Runner} {r : CacheRequest ω} {job : ω}
    (hr : s.request? runner = some r) (hjob : s.job? runner = some job) (rows : RowSet) :
    s.deed? (.complete runner (.ok rows)) = some (.executed r.key rows s.now) := by
  simp only [deed?, hr, hjob, Option.bind_eq_bind, Option.bind_some, Option.pure_def]

end CacheCluster

/-- A cluster, and what has been done so far. -/
structure CacheJournal (σ ω : Type) where
  state : CacheCluster σ ω
  deeds : List CacheDeed := []

namespace CacheJournal

variable {σ ω : Type} [SharedStore σ String]

omit [SharedStore σ String] in
/-- The journal of processes that have done nothing yet, at a time of a clock. -/
def fresh (settings : LeaseSettings) (processes : Nat) (start : Int) (first : Nat) (store : σ) :
    CacheJournal σ ω :=
  ⟨.fresh settings processes (.onClock start first) store, []⟩

def next (w : CacheJournal σ ω) (event : CacheEvent ω) : CacheJournal σ ω :=
  ⟨w.state.step event, w.deeds ++ (w.state.deed? event).toList⟩

def run (w : CacheJournal σ ω) (events : List (CacheEvent ω)) : CacheJournal σ ω :=
  events.foldl next w

theorem run_state (w : CacheJournal σ ω) (events : List (CacheEvent ω)) :
    (w.run events).state = w.state.run events := by
  induction events generalizing w with
  | nil => rfl
  | cons event rest ih => exact ih (w.next event)

theorem run_concat (w : CacheJournal σ ω) (events : List (CacheEvent ω)) (event : CacheEvent ω) :
    w.run (events ++ [event]) = (w.run events).next event :=
  List.foldl_append ..

omit [SharedStore σ String] in
/-- The end of the time of every entry can be told when it is published. -/
def AllFit (clock : LeaseClock) (w : CacheJournal σ ω) : Prop :=
  ∀ key p, .published key p ∈ w.deeds → clock.Fits p.now p.span

/-- Of a run under a clock: hits are of what looks into the store have found, what they have found
is what a job has returned and what has been published not longer ago than it is good for, and what
has been made and published last at one instant, to be good for whole seconds, is found as long as
it lasts. -/
structure IsFresh (start : Int) (lasts : (p seconds t : Nat) → Prop) (w : CacheJournal σ ω) :
    Prop where
  hit : ∀ {id : Nat} {c : CacheCall ω} {answer : QueryResult}, w.state.calls[id]? = some c →
    c.stage = .returned (.ok answer) → answer.cacheHit = true →
      ∃ t, .found c.key answer.rows (.onClock start t) ∈ w.deeds
  found : ∀ {key : CacheKey} {rows : RowSet} {t : Nat},
    .found key rows (.onClock start t) ∈ w.deeds → ∃ (p q : Nat) (span : Duration),
      .published key ⟨.new rows span (start + q), span, .onClock start p⟩ ∈ w.deeds ∧
      .executed key rows (.onClock start q) ∈ w.deeds ∧ q ≤ p ∧ p ≤ t ∧ t < p + span.nanoseconds
  kept : ∀ {key : CacheKey} {rows : RowSet} {p seconds t : Nat} {failing : List StoreOperation},
    CacheDeed.last? w.deeds key = some
      ⟨.new rows (.ofSeconds seconds) (start + p), .ofSeconds seconds, .onClock start p⟩ →
    w.state.now = .onClock start t → .get ∉ failing →
      (w.state.look failing key = .found rows ↔ lasts p seconds t)

end CacheJournal

end AnalyticsGateway
