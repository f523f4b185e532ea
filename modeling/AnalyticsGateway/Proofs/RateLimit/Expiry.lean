import AnalyticsGateway.Proofs.Clock
import AnalyticsGateway.Proofs.RateLimit.Wait
import AnalyticsGateway.Proofs.Store.Lasting

/-!
# Idle buckets go unnoticed

A bucket that has been idle for its idle time would be full, as an absent one is. So with exact
numbers and callers who go by the clock of the store, no answer shows that the store forgets idle
buckets (`expiry_unnoticed`): it is the one that a store gives which forgets nothing.
-/

namespace AnalyticsGateway

open SharedStore LawfulStore

/-! ## an idle bucket -/

namespace BucketSettings

variable {settings : BucketSettings Rat} {idle : Duration}

/-- The idle time is a second longer than it takes to fill, to the nearest nanosecond. -/
theorem le_of_idleTime? (idles : settings.idleTime? = some idle) :
    settings.capacity / settings.rate * 1000000000 + 999999999 ≤ idle.nanoseconds := by
  simp only [idleTime?, Option.bind_eq_bind, Option.bind_eq_some_iff, Option.pure_def,
    Option.some.injEq] at idles
  obtain ⟨-, -, filling, told, -, -, rfl⟩ := idles
  have fills := Tokens.le_of_seconds? told
  have longer : filling.nanoseconds ≤ (max filling (.ofSeconds 1)).nanoseconds := by
    change _ ≤ (if filling ≤ .ofSeconds 1 then _ else _ : Duration).nanoseconds
    split
    · assumption
    · exact le_refl _
  have total : (filling.nanoseconds : Rat) + 1000000000 ≤
      ((max filling (.ofSeconds 1)).add (.ofSeconds 1)).nanoseconds := by
    exact_mod_cast Nat.add_le_add_right longer 1000000000
  linarith

end BucketSettings

/-- A bucket that has been left for its idle time is full, but for less than a millisecond. -/
theorem Bucket.refilled_of_idle {settings : BucketSettings Rat} {b : Bucket Rat} {idle : Duration}
    {later : Int} (capacity : 0 ≤ settings.capacity) (rate : 0 < settings.rate)
    (nonneg : 0 ≤ b.tokens) (idles : settings.idleTime? = some idle)
    (fits : FitsWord (later - b.updated))
    (passed : (idle.nanoseconds : Int) < (later - b.updated + 1) * 1000000) :
    b.refilled settings later = full settings later := by
  have idled := BucketSettings.le_of_idleTime? idles
  have filling : 0 ≤ settings.capacity / settings.rate := div_nonneg capacity rate.le
  have elapsed : settings.capacity / settings.rate ≤ ((later - b.updated : Int) : Rat) / 1000 := by
    have passed : (idle.nanoseconds : Rat) < ((later - b.updated : Int) + 1) * 1000000 := by
      exact_mod_cast passed
    linarith
  have forwards : b.updated ≤ later := by
    have notNegative : (0 : Rat) ≤ ((later - b.updated : Int) : Rat) := by linarith
    have notNegative : 0 ≤ later - b.updated := by exact_mod_cast notNegative
    omega
  have tokens : (b.refilled settings later).tokens = settings.capacity := by
    rw [tokens_refilled, elapsed_of_le forwards fits]
    have inflow := (div_le_iff₀ rate).1 elapsed
    exact min_eq_right (by linarith)
  have updated : (b.refilled settings later).updated = later := max_eq_left forwards
  calc b.refilled settings later
      = ⟨(b.refilled settings later).tokens, (b.refilled settings later).updated⟩ := rfl
    _ = full settings later := by rw [tokens, updated, full]

/-! ## records that end -/

namespace RecordRules

/-- At some moments, what is over has been written for a span, and the span is over by the calendar
but for less than a millisecond. No two of the moments are too far apart for a word. -/
structure KeepsSpans {ε : Type} (rules : RecordRules ε) (On : Moment → Prop) : Prop where
  span : ∀ {now later : Moment} {span : Option Duration}, On now → On later →
    rules.isLive (rules.ending now span) later = false →
      ∃ d, span = some d ∧ (d.nanoseconds : Int) < (later.calendar - now.calendar + 1) * 1000000
  near : ∀ {now later : Moment}, On now → On later → FitsWord (later.calendar - now.calendar)

end RecordRules

theorem MemoryStore.keepsSpans {β : Type} [DecidableEq β] (start : Int) :
    (rules (β := β)).KeepsSpans (Moment.IsTold start) := by
  refine ⟨?_, Moment.IsTold.fitsWord⟩
  rintro now later (_ | d) ⟨-, t, rfl⟩ ⟨-, u, rfl⟩ ended
  · cases ended
  refine ⟨d, rfl, ?_⟩
  change (Instant.after? ⟨t⟩ d).all ((⟨u⟩ : Instant) < ·) = false at ended
  simp only [Instant.after?] at ended
  split at ended
  · have passed : t + d.nanoseconds ≤ u := Nat.le_of_not_lt (of_decide_eq_false ended)
    simp only [Moment.onClock, Moment.calendar, Timestamp.milliseconds]
    omega
  · cases ended

theorem TableStore.keepsSpans {β : Type} [DecidableEq β] (start : Int) :
    (rules (β := β)).KeepsSpans (Moment.IsTold start) := by
  refine ⟨?_, Moment.IsTold.fitsWord⟩
  rintro now later (_ | d) ⟨day, t, rfl⟩ ⟨day', u, rfl⟩ ended
  · cases ended
  refine ⟨d, rfl, ?_⟩
  have passed := of_decide_eq_false ended
  have first := day.bounds
  have last := day'.bounds
  simp only [Moment.onClock, Moment.calendar, Timestamp.milliseconds, expiryAfter,
    lastMillisecond, wordSize_63, Duration.milliseconds] at first last passed ⊢
  omega

/-! ## a record and one that lasts -/

/-- Whatever is known of a bucket by its record, now and later, is known by one that lasts. -/
structure Unnoticed {ε : Type} (rules : RecordRules ε) (settings : BucketSettings Rat)
    (On : Moment → Prop) (now : Moment) (record : Option (Bucket Rat × ε))
    (lasting : Option (Bucket Rat × Unit)) : Prop where
  current : ∀ later, On later → now ≤ later →
    Bucket.current (rules.value? later record) settings later.calendar =
      Bucket.current (lasting.map (·.1)) settings later.calendar
  updated : ∀ b ending, lasting = some (b, ending) → b.updated ≤ now.calendar

namespace Unnoticed

variable {ε : Type} {rules : RecordRules ε} {On : Moment → Prop} {now : Moment}
  {record : Option (Bucket Rat × ε)} {lasting : Option (Bucket Rat × Unit)}
  {settings : BucketSettings Rat} {limiter : RateLimiter Rat} {call : TokenCall}

theorem absent (rules : RecordRules ε) (settings : BucketSettings Rat) (On : Moment → Prop)
    (now : Moment) : Unnoticed rules settings On now none none where
  current _ _ _ := rfl
  updated _ _ h := nomatch h

theorem later (unnoticed : Unnoticed rules settings On now record lasting) {later : Moment}
    (le : now ≤ later) : Unnoticed rules settings On later record lasting where
  current m on le' :=
    unnoticed.current m on ⟨Nat.le_trans le.1 le'.1, Int.le_trans le.2 le'.2⟩
  updated b ending h := (unnoticed.updated b ending h).trans le.2

/-- A purge takes away what is not seen any more. -/
theorem seen (unnoticed : Unnoticed rules settings On now record lasting) :
    Unnoticed rules settings On now (rules.seen now record) lasting where
  current m on le := by
    rw [RecordRules.value?_of_seen_eq (RecordRules.seen_seen le record)]
    exact unnoticed.current m on le
  updated := unnoticed.updated

/-- A bucket that is written at a moment is known by its record until it is full. -/
theorem written (keeps : rules.KeepsSpans On) (on : On now) (capacity : 0 ≤ settings.capacity)
    (rate : 0 < settings.rate) {b : Bucket Rat} (nonneg : 0 ≤ b.tokens)
    (updated : b.updated = now.calendar) :
    Unnoticed rules settings On now (some (b, rules.ending now settings.idleTime?))
      (some (b, ())) where
  current m on' le := by
    cases live : rules.isLive (rules.ending now settings.idleTime?) m with
    | true => rw [RecordRules.value?_eq_some.2 ⟨_, rfl, live⟩, Option.map_some]
    | false =>
      have gone : rules.value? m (some (b, rules.ending now settings.idleTime?)) = none := by
        rw [RecordRules.value?, RecordRules.seen, Option.filter_some, live]
        rfl
      obtain ⟨idle, idles, passed⟩ := keeps.span on on' live
      have near := keeps.near on on'
      rw [← updated] at passed near
      rw [gone]
      exact (Bucket.refilled_of_idle capacity rate nonneg idles near passed).symm
  updated b' _ h := by
    cases h
    exact updated.le

/-- A call by the store's clock is answered alike, and the difference stays unnoticed. -/
theorem onRecord
    (unnoticed : Unnoticed rules (limiter.settings call.bucket.route) On call.now record lasting)
    (keeps : rules.KeepsSpans On) (on : On call.now) (stamped : call.stamp = call.now.calendar)
    (capacity : 0 ≤ (limiter.settings call.bucket.route).capacity)
    (rate : 0 < (limiter.settings call.bucket.route).rate) :
    let outcome := call.onRecord limiter (Bucket.plainCodec Rat) rules record
    let kept :=
      call.onRecord limiter (Bucket.plainCodec Rat) (LastingStore.rules (β := Bucket Rat)) lasting
    outcome.1 = kept.1 ∧
      Unnoticed rules (limiter.settings call.bucket.route) On call.now outcome.2 kept.2 := by
  by_cases arrives : call.Arrives
  · have finds := unnoticed.current call.now on ⟨Nat.le_refl _, Int.le_refl _⟩
    rw [← stamped] at finds
    have lasts : Bucket.current ((LastingStore.rules (β := Bucket Rat)).value? call.now lasting)
        (limiter.settings call.bucket.route) call.stamp =
          Bucket.current (lasting.map (·.1)) (limiter.settings call.bucket.route) call.stamp := by
      rw [LastingStore.value?_eq]
    have inTime : (Bucket.current (lasting.map (·.1)) (limiter.settings call.bucket.route)
        call.stamp).updated = call.now.calendar := by
      rw [← stamped]
      cases lasting with
      | none => rfl
      | some r => exact max_eq_left (stamped ▸ unnoticed.updated r.1 r.2 rfl)
    generalize Bucket.current (lasting.map (·.1)) _ call.stamp = b at finds lasts inTime
    cases has : b.hasToken with
    | true =>
      rw [TokenCall.onRecord_of_hasToken arrives finds has,
        TokenCall.onRecord_of_hasToken arrives lasts has]
      refine ⟨rfl, written keeps on capacity rate ?_ inTime⟩
      rw [Bucket.tokens_spent]
      exact le_max_right ..
    | false =>
      rw [TokenCall.onRecord_of_not_hasToken arrives finds has,
        TokenCall.onRecord_of_not_hasToken arrives lasts has]
      exact ⟨rfl, unnoticed⟩
  · rw [TokenCall.onRecord, if_neg arrives, TokenCall.onRecord, if_neg arrives]
    exact ⟨rfl, unnoticed⟩

end Unnoticed

/-! ## runs -/

namespace SharedEvent

/-- One clock tells all moments and never goes back, and callers go by it too. -/
structure GoesByClock {β : Type} (start : Int) (events : List (SharedEvent β)) : Prop where
  inOrder : (events.map moment).Pairwise (· ≤ ·)
  told : ∀ e ∈ events, e.moment.IsTold start
  stamped : ∀ c, call c ∈ events → c.stamp = c.now.calendar

theorem GoesByClock.of_prefix {β : Type} {start : Int} {events before : List (SharedEvent β)}
    (clock : GoesByClock start events) (reached : before <+: events) :
    GoesByClock start before where
  inOrder := clock.inOrder.sublist (reached.sublist.map moment)
  told e mem := clock.told e (reached.subset mem)
  stamped c mem := clock.stamped c (reached.subset mem)

/-- The moments before the last one are not after it. -/
theorem GoesByClock.before_le {β : Type} {start : Int} {events : List (SharedEvent β)}
    {e : SharedEvent β} (clock : GoesByClock start (events ++ [e])) :
    ∀ e' ∈ events, e'.moment ≤ e.moment := by
  intro e' mem
  have inOrder := clock.inOrder
  rw [List.map_append, List.pairwise_append] at inOrder
  exact inOrder.2.2 _ (List.mem_map_of_mem mem) _ (List.mem_singleton_self _)

section Ledger

variable {ε : Type} {rules : RecordRules ε} {start : Int}
  {events : List (SharedEvent (Bucket Rat))} {now : Moment} {limiter : RateLimiter Rat}
  {bucket : BucketName}

theorem unnoticed_onBucket {record : Option (Bucket Rat × ε)}
    {lasting : Option (Bucket Rat × Unit)} {e : SharedEvent (Bucket Rat)}
    (unnoticed : Unnoticed rules (limiter.settings bucket.route) (Moment.IsTold start) e.moment
      record lasting) (keeps : rules.KeepsSpans (Moment.IsTold start))
    (told : e.moment.IsTold start) (stamped : ∀ c, e = call c → c.stamp = c.now.calendar)
    (capacity : 0 ≤ (limiter.settings bucket.route).capacity)
    (rate : 0 < (limiter.settings bucket.route).rate) :
    Unnoticed rules (limiter.settings bucket.route) (Moment.IsTold start) e.moment
      (e.onBucket limiter (Bucket.plainCodec Rat) rules bucket record)
      (e.onBucket limiter (Bucket.plainCodec Rat) (LastingStore.rules (β := Bucket Rat)) bucket
        lasting) := by
  cases e with
  | call c =>
    rw [onBucket, onBucket]
    split
    · rename_i own
      subst own
      exact (unnoticed.onRecord keeps told (stamped c rfl) capacity rate).2
    · exact unnoticed
  | cache m use =>
    cases use with
    | purge =>
      rw [onBucket, onBucket]
      exact (LastingStore.seen_eq m lasting).symm ▸ unnoticed.seen
    | under key use => exact unnoticed
    | publish => exact unnoticed

theorem unnoticed_ledger (keeps : rules.KeepsSpans (Moment.IsTold start))
    (capacity : 0 ≤ (limiter.settings bucket.route).capacity)
    (rate : 0 < (limiter.settings bucket.route).rate) (clock : GoesByClock start events)
    (before : ∀ e ∈ events, e.moment ≤ now) :
    Unnoticed rules (limiter.settings bucket.route) (Moment.IsTold start) now
      (ledger limiter (Bucket.plainCodec Rat) rules bucket none events)
      (ledger limiter (Bucket.plainCodec Rat) (LastingStore.rules (β := Bucket Rat)) bucket none
        events) := by
  induction events using List.reverseRecOn generalizing now with
  | nil => exact .absent rules _ _ now
  | append_singleton events e ih =>
    have mem : e ∈ events ++ [e] := List.mem_concat_self
    have earlier := ih (clock.of_prefix (List.prefix_append ..)) clock.before_le
    rw [ledger_concat, ledger_concat]
    refine (unnoticed_onBucket earlier keeps (clock.told e mem) ?_ capacity rate).later
      (before e mem)
    exact fun c same => clock.stamped c (same ▸ mem)

end Ledger

end SharedEvent

/-! ## the theorem -/

open SharedEvent

/-- The answer to a call after events in a row. -/
def TokenCall.answerAfter {α β σ : Type} [Tokens α] [SharedStore σ β] (limiter : RateLimiter α)
    (codec : BucketCodec α β) (s : σ) (before : List (SharedEvent β)) (call : TokenCall) :
    Except StoreError Admission :=
  (call.perform limiter codec (run limiter codec s before)).1

section Unnoticed

variable {start : Int} {limiter : RateLimiter Rat} {events before : List (SharedEvent (Bucket Rat))}
  {call : TokenCall} (clock : GoesByClock start events) (apart : ∀ e ∈ events, e.KeepsApart)
  (reached : before ++ [.call call] <+: events)
  (capacity : 1 ≤ (limiter.settings call.bucket.route).capacity)
  (rate : 0 < (limiter.settings call.bucket.route).rate)
include clock apart reached capacity rate

/-- A store that keeps its spans answers like one that forgets nothing. -/
theorem answerAfter_eq_of_keepsSpans {σ : Type} [SharedStore σ (Bucket Rat)] [LawfulStore σ]
    [RecordStore σ] (keeps : (RecordStore.rules (σ := σ)).KeepsSpans (Moment.IsTold start)) {s : σ}
    {lasting : LastingStore (Bucket Rat)} (absent : record? s call.bucket.key = none)
    (absent' : record? lasting call.bucket.key = none) :
    call.answerAfter limiter (Bucket.plainCodec Rat) s before =
      call.answerAfter limiter (Bucket.plainCodec Rat) lasting before := by
  have upTo := clock.of_prefix reached
  have mem : SharedEvent.call call ∈ before ++ [.call call] := List.mem_concat_self
  have known : before <+: events := (List.prefix_append ..).trans reached
  have apart : ∀ e ∈ before, e.KeepsApart := fun e h => apart e (known.subset h)
  have unnoticed := unnoticed_ledger keeps (zero_le_one.trans capacity) rate
    (upTo.of_prefix (List.prefix_append ..)) upTo.before_le
  rw [TokenCall.answerAfter, TokenCall.answerAfter,
    (call.follows limiter (Bucket.plainCodec Rat) _).1,
    (call.follows limiter (Bucket.plainCodec Rat) _).1, record?_run_bucket _ _ _ apart,
    record?_run_bucket _ _ _ apart, absent, absent']
  exact (unnoticed.onRecord keeps (upTo.told _ mem) (upTo.stamped call mem)
    (zero_le_one.trans capacity) rate).1

/-- Whatever limiters and caches do with a store that has no record of a bucket at first, the
bucket's calls are answered as if nothing in the store were ever over. -/
theorem expiry_unnoticed {memory : MemoryStore (Bucket Rat)} {table : TableStore (Bucket Rat)}
    {lasting : LastingStore (Bucket Rat)} (inMemory : record? memory call.bucket.key = none)
    (inTable : record? table call.bucket.key = none)
    (inLasting : record? lasting call.bucket.key = none) :
    call.answerAfter limiter (Bucket.plainCodec Rat) memory before =
        call.answerAfter limiter (Bucket.plainCodec Rat) lasting before ∧
      call.answerAfter limiter (Bucket.plainCodec Rat) table before =
        call.answerAfter limiter (Bucket.plainCodec Rat) lasting before :=
  ⟨answerAfter_eq_of_keepsSpans clock apart reached capacity rate
      (MemoryStore.keepsSpans start) inMemory inLasting,
    answerAfter_eq_of_keepsSpans clock apart reached capacity rate
      (TableStore.keepsSpans start) inTable inLasting⟩

end Unnoticed

/-! ## a bucket that is emptied twice -/

namespace ExpirySample

/-- A bucket is kept for 21 s. -/
def limiter : RateLimiter Rat := ⟨⟨2, 1 / 10⟩, ⟨2, 1 / 10⟩⟩

def bucket : BucketName := ⟨.query, "k"⟩

def start : Int := 1700000000000250000

def after (n : Nat) : Moment := .onClock start (n * 1000000)

def callAt (n : Nat) : TokenCall := ⟨bucket, ⟨after n, []⟩, (after n).calendar⟩

/-- The third call is denied, so the bucket is over 21 s after the second one. -/
def before : List (SharedEvent (Bucket Rat)) :=
  [.call (callAt 0), .call (callAt 500), .call (callAt 1000), .cache (after 21600) .purge]

/-- As many calls again. -/
def events : List (SharedEvent (Bucket Rat)) :=
  before ++ [.call (callAt 21600), .call (callAt 21700), .call (callAt 21800)]

theorem goesByClock : GoesByClock start events where
  inOrder := by decide
  told := by
    have told (n : Nat) (day : (after n).time.InCalendar) : (after n).IsTold start :=
      ⟨day, n * 1000000, rfl⟩
    simp only [events, before, List.cons_append, List.nil_append, List.forall_mem_cons,
      List.not_mem_nil, false_imp_iff, implies_true]
    exact ⟨told 0 (by decide), told 500 (by decide), told 1000 (by decide), told 21600 (by decide),
      told 21600 (by decide), told 21700 (by decide), told 21800 (by decide), trivial⟩
  stamped := by
    have stamped (n : Nat) : (callAt n).stamp = (callAt n).now.calendar := rfl
    intro c mem
    simp only [events, before, List.cons_append, List.nil_append, List.mem_cons,
      SharedEvent.call.injEq, reduceCtorEq, List.not_mem_nil, or_false, false_or] at mem
    rcases mem with rfl | rfl | rfl | rfl | rfl | rfl <;> exact stamped _

theorem keepApart : ∀ e ∈ events, e.KeepsApart := by
  simp [events, before, SharedEvent.KeepsApart, StoreUse.keys]

end ExpirySample

open ExpirySample in
/-- The two stores have forgotten the bucket, and deny the last call for as long as the one that has
not. -/
theorem expiry_unnoticed_emptied_twice :
    (run limiter (Bucket.plainCodec Rat) ({} : MemoryStore (Bucket Rat)) before).record?
        bucket.key = none ∧
      (run limiter (Bucket.plainCodec Rat) ({} : LastingStore (Bucket Rat)) before).record?
        bucket.key = some (⟨1 / 20, 1700000000500⟩, ()) ∧
      (callAt 21800).answerAfter limiter (Bucket.plainCodec Rat) ({} : MemoryStore (Bucket Rat))
        (events.take 6) = .ok (.denied (.ofMilliseconds 9800)) ∧
      (callAt 21800).answerAfter limiter (Bucket.plainCodec Rat) ({} : TableStore (Bucket Rat))
        (events.take 6) = .ok (.denied (.ofMilliseconds 9800)) := by
  have reached : events.take 6 ++ [.call (callAt 21800)] <+: events := ⟨[], rfl⟩
  have capacity : 1 ≤ (limiter.settings bucket.route).capacity := by decide +kernel
  have rate : 0 < (limiter.settings bucket.route).rate := by decide +kernel
  have inMemory : record? ({} : MemoryStore (Bucket Rat)) bucket.key = none := rfl
  have inTable : record? ({} : TableStore (Bucket Rat)) bucket.key = none := rfl
  have inLasting : record? ({} : LastingStore (Bucket Rat)) bucket.key = none := rfl
  obtain ⟨memory, table⟩ :=
    expiry_unnoticed goesByClock keepApart reached capacity rate inMemory inTable inLasting
  have lasting : (callAt 21800).answerAfter limiter (Bucket.plainCodec Rat)
      ({} : LastingStore (Bucket Rat)) (events.take 6) = .ok (.denied (.ofMilliseconds 9800)) := by
    decide +kernel
  exact ⟨by decide +kernel, by decide +kernel, memory.trans lasting, table.trans lasting⟩

end AnalyticsGateway
