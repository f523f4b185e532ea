import AnalyticsGateway.Proofs.Cache.Entry
import AnalyticsGateway.Proofs.Cache.Journal

/-!
# Hits are fresh

Under one clock whatever is found in the store has been published not longer ago than it is good
for, and what has been published last is found until then (`hits_are_fresh`): an entry is over for
the store before it is over by its own account.
-/

namespace AnalyticsGateway

open SharedStore LawfulStore

/-! ## the age of entries -/

namespace CacheEntry

theorem lifetime_new {rows : RowSet} {seconds : Nat} {now : Int} (bound : seconds < wordSize 63) :
    (new rows (.ofSeconds seconds) now).lifetime =
      min (max 1 seconds * 1000) (wordSize 63 - 1) := by
  have whole : (Duration.ofSeconds seconds).seconds = seconds :=
    Nat.mul_div_cancel seconds (by decide)
  have one : 1 < wordSize 63 := by decide
  have positive : max 1 seconds < wordSize 63 := Nat.max_lt.2 ⟨one, bound⟩
  change clamp (withSign (max 1 (Duration.ofSeconds seconds).seconds) * 1000) = _
  rw [whole, withSign, if_pos positive, clamp, wordSize_63]
  omega

/-- By its own account an entry is good for its whole seconds, as long as calendars go. -/
theorem not_isExpired_new {rows : RowSet} {seconds p t : Nat} {start : Int}
    (bound : seconds < wordSize 63) (made : Timestamp.InCalendar ⟨start + p⟩)
    (looked : Timestamp.InCalendar ⟨start + t⟩) (le : p ≤ t)
    (lasts : t < p + (Duration.ofSeconds seconds).nanoseconds) :
    (new rows (.ofSeconds seconds) (start + p)).isExpired (start + t) = false := by
  have age : start + (t : Int) - (start + p) = ((t - p : Nat) : Int) := by omega
  have first := made.bounds.1
  have last := looked.bounds.2
  simp only [Duration.ofSeconds] at first last lasts
  rw [isExpired, lifetime_new bound, decide_eq_false_iff_not, not_le]
  change (start + t - (start + p)).tdiv 1000000 < _
  rw [age, Int.tdiv_eq_ediv_of_nonneg (Int.natCast_nonneg _), wordSize_63]
  omega

end CacheEntry

/-! ## the invariant -/

namespace CacheDeed

/-- What is known of a deed of a run that has come to a time. -/
def IsSound (clock : LeaseClock) (start : Int) (deeds : List CacheDeed) (now : Nat) :
    CacheDeed → Prop
  | executed _ rows m => rows.ReadsBack ∧ m.time.InCalendar ∧ ∃ q ≤ now, m = .onClock start q
  | published key p => clock.Fits p.now p.span ∧ ∃ u ≤ now, p.now = .onClock start u ∧
    ∃ rows, ∃ q ≤ u, executed key rows (.onClock start q) ∈ deeds ∧
      p.entry = .new rows p.span (start + q)
  | found key rows m => ∃ t ≤ now, m = .onClock start t ∧ ∃ p, published key p ∈ deeds ∧
    p.entry.rows = rows ∧ ∃ u ≤ t, p.now = .onClock start u ∧ t < u + p.span.nanoseconds

theorem IsSound.mono {clock : LeaseClock} {start : Int} {deeds deeds' : List CacheDeed}
    {now now' : Nat} {deed : CacheDeed} (sound : deed.IsSound clock start deeds now)
    (sub : deeds ⊆ deeds') (le : now ≤ now') : deed.IsSound clock start deeds' now' := by
  cases deed with
  | executed key rows m =>
    obtain ⟨reads, day, q, hq, eq⟩ := sound
    exact ⟨reads, day, q, hq.trans le, eq⟩
  | published key p =>
    obtain ⟨fits, u, hu, eq, rows, q, hq, mem, entry⟩ := sound
    exact ⟨fits, u, hu.trans le, eq, rows, q, hq, sub mem, entry⟩
  | found key rows m =>
    obtain ⟨t, ht, eq, p, mem, rest⟩ := sound
    exact ⟨t, ht.trans le, eq, p, sub mem, rest⟩

/-- What calls and flights go by: entries are of rows that a job has returned, and what comes from
the store has been found there. -/
def facts (ω : Type) (deeds : List CacheDeed) : CacheFacts ω where
  Asked _ := True
  Publishes request entry := ∃ rows m, executed request.key rows m ∈ deeds ∧
    entry = .new rows request.ttl m.time.nanoseconds
  Lands request result := ∀ served, result = .ok served → served.fromStore = true →
    ∃ m, found request.key served.rows m ∈ deeds
  Serves key result := ∀ served, result = .ok served → served.fromStore = true →
    ∃ m, found key served.rows m ∈ deeds
  lands _ served eq := by
    cases eq
    exact nofun
  serves lands := lands

theorem facts_le {ω : Type} {deeds deeds' : List CacheDeed} (sub : deeds ⊆ deeds') :
    (facts ω deeds).Le (facts ω deeds') where
  asked := id
  publishes := fun ⟨rows, m, mem, eq⟩ => ⟨rows, m, sub mem, eq⟩
  lands lands served eq fromStore := (lands served eq fromStore).imp fun _ mem => sub mem
  serves serves served eq fromStore := (serves served eq fromStore).imp fun _ mem => sub mem

end CacheDeed

variable {σ ω : Type} [SharedStore σ String] [LawfulStore σ]

/-- The store keeps the last publication of a key, or nothing if its time is over. -/
def CacheCluster.Keeps (clock : LeaseClock) (s : CacheCluster σ ω) (key : CacheKey)
    (last : Option Publication) : Prop :=
  record? s.store key.entry = last.map (fun p => (p.entry.text, after p.now p.span)) ∨
    record? s.store key.entry = none ∧
      ∀ p, last = some p → clock.ending p.now p.span ≤ clock.reads s.now

structure Freshness (clock : LeaseClock) (start : Int) (now : Nat) (deeds : List CacheDeed)
    (s : CacheCluster σ ω) : Prop extends Founded (CacheDeed.facts ω deeds) s where
  now_eq : s.now = .onClock start now
  inCalendar : s.now.time.InCalendar
  sound : ∀ deed ∈ deeds, deed.IsSound clock start deeds now
  records : ∀ key, s.Keeps clock key (CacheDeed.last? deeds key)
  abandoned : ∀ a ∈ s.abandoned, ∃ key : CacheKey, a.lease = key.lease

namespace Freshness

variable {clock : LeaseClock} {start : Int} {now : Nat} {deeds : List CacheDeed}
  {s t : CacheCluster σ ω}

theorem fresh (settings : LeaseSettings) (processes : Nat)
    (inCalendar : (Moment.onClock start now).time.InCalendar) {store : σ}
    (unwritten : ∀ key : CacheKey, record? store key.entry = none) :
    Freshness clock start now []
      (.fresh settings processes (.onClock start now) store : CacheCluster σ ω) where
  toFounded := .fresh settings processes _ store
  now_eq := rfl
  inCalendar := inCalendar
  sound := nofun
  records key := .inl (unwritten key)
  abandoned := nofun

/-- The entry of the last publication is read back, and its time is told by the store. -/
theorem of_last? (inv : Freshness clock start now deeds s) {key : CacheKey} {p : Publication}
    (follows : clock.Follows start) (keeps : KeepsTime σ clock)
    (last : CacheDeed.last? deeds key = some p) :
    CacheEntry.ofText? p.entry.text = some p.entry ∧
      EndsAt σ clock (after p.now p.span) (clock.ending p.now p.span) := by
  obtain ⟨fits, u, -, eq, rows, q, -, mem, entry⟩ := inv.sound _ (CacheDeed.mem_of_last? last)
  obtain ⟨reads, day, -⟩ := inv.sound _ mem
  have seconds := follows.seconds fits
  refine ⟨?_, keeps fits⟩
  rw [entry]
  have one : 1 < wordSize 63 := by decide
  have less : wordSize 63 < wordSize 64 := by decide
  exact CacheEntry.ofText?_text reads day ((Nat.max_lt.2 ⟨one, seconds⟩).trans less)

/-- What is found has been published last, and not longer ago than it is good for. -/
theorem sound_found (inv : Freshness clock start now deeds s) (follows : clock.Follows start)
    (keeps : KeepsTime σ clock) {failing : List StoreOperation} {key : CacheKey} {rows : RowSet}
    (found : s.look failing key = .found rows) :
    (CacheDeed.found key rows s.now).IsSound clock start deeds now := by
  obtain ⟨text, entry, hget, read, -, rfl⟩ := CacheCluster.look_eq_found found
  rw [get_eq] at hget
  obtain ⟨⟨value, expiry⟩, record, rfl⟩ := Option.map_eq_some_iff.1 hget
  obtain ⟨record, live⟩ := Option.filter_eq_some_iff.1 record
  rcases inv.records key with kept | ⟨none, -⟩
  · obtain ⟨p, last, eq⟩ := Option.map_eq_some_iff.1 (kept.symm.trans record)
    cases eq
    have mem := CacheDeed.mem_of_last? last
    obtain ⟨reads, ends⟩ := inv.of_last? follows keeps last
    obtain ⟨-, u, hu, published, -⟩ := inv.sound _ mem
    cases reads.symm.trans read
    have notOver := of_decide_eq_true ((ends s.now).symm.trans live)
    rw [inv.now_eq, published] at notOver
    exact ⟨now, le_rfl, inv.now_eq, p, mem, rfl, u, hu, published, follows.lasts notOver⟩
  · cases none.symm.trans record

/-! ## steps -/

theorem sound_deed? (inv : Freshness clock start now deeds s) (follows : clock.Follows start)
    (keeps : KeepsTime σ clock) {event : CacheEvent ω} {deed : CacheDeed}
    (readsBack : ∀ runner rows, event = .complete runner (.ok rows) → rows.ReadsBack)
    (fits : ∀ key p, deed = .published key p → clock.Fits p.now p.span)
    (h : s.deed? event = some deed) : deed.IsSound clock start deeds now := by
  rcases CacheCluster.of_deed? h with ⟨failing, key, rows, found, rfl⟩ |
    ⟨id, failing, f, entry, -, hf, publishes, -, rfl⟩ | ⟨runner, rows, key, completes, rfl⟩
  · exact inv.sound_found follows keeps found
  · have founded := (inv.flights hf).2
    rw [publishes] at founded
    obtain ⟨rows, m, mem, made⟩ := founded
    obtain ⟨-, -, q, hq, rfl⟩ := inv.sound _ mem
    exact ⟨fits _ _ rfl, now, le_rfl, inv.now_eq, rows, q, hq, mem, made⟩
  · exact ⟨readsBack runner rows completes, inv.inCalendar, now, le_rfl, inv.now_eq⟩

theorem founded_step (inv : Freshness clock start now deeds s) (event : CacheEvent ω) :
    Founded (CacheDeed.facts ω (deeds ++ (s.deed? event).toList)) (s.step event) := by
  have grown := inv.toFounded.mono
    (CacheDeed.facts_le (List.subset_append_left deeds (s.deed? event).toList))
  have journaled {deed : CacheDeed} (h : s.deed? event = some deed) :
      deed ∈ deeds ++ (s.deed? event).toList :=
    List.mem_append_right _ (Option.mem_toList.2 h)
  cases event with
  | tick m => exact grown.of_eq rfl rfl fun _ => rfl
  | arrive request => exact grown.arrive trivial
  | stepCall id failing =>
    refine grown.stepCall fun c rows hc looking found served eq _ => ⟨s.now, journaled ?_⟩
    cases eq
    rw [CacheCluster.deed?_of_looking hc looking, CacheCluster.find?_of_found found]
  | stepFlight id failing =>
    refine grown.stepFlight (fun f rows hf looks found served eq _ => ⟨s.now, journaled ?_⟩)
      fun _ _ _ => nofun
    cases eq
    rw [CacheCluster.deed?_of_rechecking_or_polling hf looks, CacheCluster.find?_of_found found]
  | complete runner result =>
    refine grown.complete fun r job hr hjob => ⟨fun served eq => ?_, fun rows eq =>
      ⟨rows, s.now, journaled ?_, rfl⟩⟩
    · cases result with
      | error e => cases eq
      | ok rows =>
        cases eq
        exact nofun
    · rw [eq, CacheCluster.deed?_of_running hr hjob]
  | cancel call => exact grown.cancel call
  | releaseAbandoned failing => exact grown.releaseAbandoned failing
  | purge failing => exact grown.withStore _

theorem abandoned_step (inv : Freshness clock start now deeds s) (event : CacheEvent ω) :
    ∀ a ∈ (s.step event).abandoned, ∃ key : CacheKey, a.lease = key.lease := by
  have known {t : CacheCluster σ ω} (leaves : s.LeavesStore t) (a : AbandonedLease)
      (ha : a ∈ t.abandoned) : ∃ key : CacheKey, a.lease = key.lease :=
    (leaves.abandoned a ha).elim (inv.abandoned a) id
  cases event with
  | stepCall id failing => exact known (s.leavesStore_stepCall failing id)
  | stepFlight id failing =>
    cases hf : s.flights[id]? with
    | none =>
      rw [CacheCluster.step, CacheCluster.stepFlight_of_none hf]
      exact inv.abandoned
    | some f =>
      obtain ⟨stage, store, -, eq⟩ := CacheCluster.stepFlight_move failing hf
      rw [CacheCluster.step, (CacheCluster.of_bare_eq eq).abandoned]
      exact inv.abandoned
  | complete runner result => exact known (s.leavesStore_complete runner result)
  | cancel call => exact known (s.leavesStore_cancel call)
  | releaseAbandoned failing =>
    rcases s.releaseAbandoned_cases failing with eq | ⟨a, rest, ha, eq⟩ <;>
      rw [CacheCluster.step, eq]
    · exact inv.abandoned
    · exact fun b hb => inv.abandoned b (ha ▸ List.mem_cons_of_mem a hb)
  | _ => exact inv.abandoned

/-- Where nothing is published, entries stay, or those whose time is over are purged. -/
theorem record?_step (inv : Freshness clock start now deeds s) {event : CacheEvent ω}
    (quiet : ∀ key p, s.deed? event ≠ some (.published key p)) (key : CacheKey) :
    record? (s.step event).store key.entry = record? s.store key.entry ∨
      record? (s.step event).store key.entry =
        (record? s.store key.entry).filter (isLive ·.2 s.now) := by
  have same {t : CacheCluster σ ω} (leaves : s.LeavesStore t) :
      record? t.store key.entry = record? s.store key.entry ∨ record? t.store key.entry =
        (record? s.store key.entry).filter (isLive ·.2 s.now) :=
    .inl (by rw [leaves.store])
  cases event with
  | tick | arrive => exact .inl rfl
  | stepCall id failing => exact same (s.leavesStore_stepCall failing id)
  | stepFlight id failing =>
    refine .inl ?_
    cases hf : s.flights[id]? with
    | none => rw [CacheCluster.step, CacheCluster.stepFlight_of_none hf]
    | some f =>
      obtain ⟨stage, store, move, eq⟩ := CacheCluster.stepFlight_move failing hf
      rw [CacheCluster.step, (CacheCluster.of_bare_eq eq).store]
      refine move.record?_entry_of_idle (fun entry publishes => ?_) key
      by_contra works
      exact quiet _ _ (CacheCluster.deed?_of_publishing hf publishes works)
  | complete runner result => exact same (s.leavesStore_complete runner result)
  | cancel call => exact same (s.leavesStore_cancel call)
  | releaseAbandoned failing =>
    refine .inl ?_
    rcases s.releaseAbandoned_cases failing with eq | ⟨a, rest, ha, eq⟩ <;>
      rw [CacheCluster.step, eq]
    obtain ⟨other, lease⟩ := inv.abandoned a (ha ▸ List.mem_cons_self)
    rw [lease]
    rcases CacheCluster.attempt_cases (s.circumstances failing) .release
      (release s.now other.lease a.owner) s.store with same | ⟨-, same⟩ <;> rw [same]
    exact CacheCluster.record?_release_lease ..
  | purge failing =>
    by_cases down : StoreOperation.purge ∈ failing
    · refine .inl ?_
      simp only [CacheCluster.step, CacheCluster.purge, CacheCluster.useStore,
        CacheCluster.circumstances, Circumstances.attempt, down, if_true]
    · refine .inr ?_
      rw [← record?_purge]
      simp only [CacheCluster.step, CacheCluster.purge, CacheCluster.useStore,
        CacheCluster.circumstances, Circumstances.attempt, down, if_false]

/-- What is published is kept; of other keys nothing changes. -/
theorem keeps_published (inv : Freshness clock start now deeds s) {failing : List StoreOperation}
    {id : Nat} {f : Flight ω} {entry : CacheEntry} (hf : s.flights[id]? = some f)
    (publishes : f.stage = .publishing entry) (works : StoreOperation.publish ∉ failing)
    (key : CacheKey) : (s.stepFlight failing id).Keeps clock key
      (CacheDeed.last? (deeds ++ [.published f.key ⟨entry, f.ttl, s.now⟩]) key) := by
  obtain ⟨stage, store, move, bare⟩ := CacheCluster.stepFlight_move failing hf
  have shared := CacheCluster.of_bare_eq bare
  have record := move.record?_entry_of_publishing publishes works key
  rw [CacheDeed.last?_concat, CacheDeed.publication?, CacheCluster.Keeps, shared.store,
    shared.now]
  change record? store key.entry = _ ∨ record? store key.entry = none ∧ _
  by_cases same : f.key = key
  · rw [if_pos same] at record ⊢
    exact .inl record
  · rw [if_neg same] at record ⊢
    rw [record]
    exact inv.records key

/-- The last publication stays until its time is over. -/
theorem keeps_quiet (inv : Freshness clock start now deeds s) (follows : clock.Follows start)
    (keeps : KeepsTime σ clock) {event : CacheEvent ω}
    (quiet : ∀ key p, s.deed? event ≠ some (.published key p))
    (le : clock.reads s.now ≤ clock.reads (s.step event).now) (key : CacheKey) :
    (s.step event).Keeps clock key (CacheDeed.last? deeds key) := by
  rcases inv.record?_step quiet key with record | record <;>
    rcases inv.records key with kept | ⟨none, ended⟩
  · exact .inl (record.trans kept)
  · exact .inr ⟨record.trans none, fun p last => (ended p last).trans le⟩
  · rw [kept] at record
    cases last : CacheDeed.last? deeds key with
    | none => exact .inl (by rw [record, last]; rfl)
    | some p =>
      rw [last, Option.map_some, Option.filter_some,
        (inv.of_last? follows keeps last).2 s.now] at record
      by_cases live : clock.reads s.now < clock.ending p.now p.span
      · exact .inl (by rw [record, if_pos (decide_eq_true live), Option.map_some])
      · refine .inr ⟨by rw [record, decide_eq_false live]; rfl, fun p' eq => ?_⟩
        cases eq
        exact (not_lt.1 live).trans le
  · rw [none] at record
    exact .inr ⟨record, fun p last => (ended p last).trans le⟩

theorem keeps_step (inv : Freshness clock start now deeds s) (follows : clock.Follows start)
    (keeps : KeepsTime σ clock) {event : CacheEvent ω}
    (le : clock.reads s.now ≤ clock.reads (s.step event).now) (key : CacheKey) :
    (s.step event).Keeps clock key (CacheDeed.last? (deeds ++ (s.deed? event).toList) key) := by
  cases h : s.deed? event with
  | none =>
    rw [Option.toList_none, List.append_nil]
    exact inv.keeps_quiet follows keeps (fun _ _ => h ▸ nofun) le key
  | some deed =>
    rcases CacheCluster.of_deed? h with ⟨_, _, _, -, rfl⟩ |
      ⟨id, failing, f, entry, rfl, hf, publishes, works, rfl⟩ | ⟨_, _, _, -, rfl⟩
    · rw [Option.toList_some, CacheDeed.last?_concat]
      exact inv.keeps_quiet follows keeps (fun _ _ => h ▸ nofun) le key
    · exact inv.keeps_published hf publishes works key
    · rw [Option.toList_some, CacheDeed.last?_concat]
      exact inv.keeps_quiet follows keeps (fun _ _ => h ▸ nofun) le key

/-- What is asked of an event that happens at a time: no clock goes back, jobs return rows that are
read back, and the end of the time of an entry that is published can be told. -/
structure Admits (clock : LeaseClock) (start : Int) (now later : Nat) (s : CacheCluster σ ω)
    (event : CacheEvent ω) : Prop where
  le : now ≤ later
  now_eq : (s.step event).now = .onClock start later
  inCalendar : (s.step event).now.time.InCalendar
  readsBack : ∀ runner rows, event = .complete runner (.ok rows) → rows.ReadsBack
  fits : ∀ key p, s.deed? event = some (.published key p) → clock.Fits p.now p.span

theorem step (inv : Freshness clock start now deeds s) (follows : clock.Follows start)
    (keeps : KeepsTime σ clock) {later : Nat} {event : CacheEvent ω}
    (admits : Admits clock start now later s event) :
    Freshness clock start later (deeds ++ (s.deed? event).toList) (s.step event) where
  toFounded := inv.founded_step event
  now_eq := admits.now_eq
  inCalendar := admits.inCalendar
  sound deed mem := by
    have sub := List.subset_append_left deeds (s.deed? event).toList
    rcases List.mem_append.1 mem with old | new
    · exact (inv.sound deed old).mono sub admits.le
    · have h := Option.mem_toList.1 new
      refine CacheDeed.IsSound.mono ?_ sub admits.le
      exact inv.sound_deed? follows keeps admits.readsBack (fun key p eq =>
        admits.fits key p (eq ▸ h)) h
  records := by
    refine inv.keeps_step follows keeps ?_
    rw [admits.now_eq, inv.now_eq]
    exact follows.mono admits.le
  abandoned := inv.abandoned_step event

/-- An entry that the store keeps is not over by its own account. -/
theorem not_isExpired (inv : Freshness clock start now deeds s) (follows : clock.Follows start)
    {key : CacheKey} {rows : RowSet} {p seconds : Nat}
    (last : CacheDeed.last? deeds key = some
      ⟨.new rows (.ofSeconds seconds) (start + p), .ofSeconds seconds, .onClock start p⟩)
    (live : clock.reads s.now < clock.ending (.onClock start p) (.ofSeconds seconds)) :
    (CacheEntry.new rows (.ofSeconds seconds) (start + p)).isExpired s.now.time.nanoseconds =
      false := by
  obtain ⟨fits, u, le, published, rows', q, -, mem, made⟩ :=
    inv.sound _ (CacheDeed.mem_of_last? last)
  cases Moment.onClock_inj published
  have created : start + (p : Int) = start + q := congrArg CacheEntry.created made
  have day : Timestamp.InCalendar ⟨start + p⟩ := created ▸ (inv.sound _ mem).2.1
  have bound := follows.seconds fits
  have looked := inv.inCalendar
  rw [inv.now_eq] at looked live ⊢
  have whole : (Duration.ofSeconds seconds).seconds = seconds :=
    Nat.mul_div_cancel seconds (by decide)
  exact CacheEntry.not_isExpired_new (whole ▸ bound) day looked le (follows.lasts live)

/-- What has been made and published last at one instant is found as long as the store keeps it. -/
theorem look_iff (inv : Freshness clock start now deeds s) (follows : clock.Follows start)
    (keeps : KeepsTime σ clock) {key : CacheKey} {rows : RowSet} {p seconds : Nat}
    (last : CacheDeed.last? deeds key = some
      ⟨.new rows (.ofSeconds seconds) (start + p), .ofSeconds seconds, .onClock start p⟩)
    {failing : List StoreOperation} (works : StoreOperation.get ∉ failing) :
    s.look failing key = .found rows ↔
      clock.reads s.now < clock.ending (.onClock start p) (.ofSeconds seconds) := by
  obtain ⟨reads, ends⟩ := inv.of_last? follows keeps last
  rw [CacheCluster.look_eq_found_iff works, get_eq]
  rcases inv.records key with kept | ⟨none, ended⟩
  · rw [kept, last, Option.map_some, Option.filter_some, ends s.now]
    by_cases live : clock.reads s.now < clock.ending (.onClock start p) (.ofSeconds seconds)
    · rw [if_pos (decide_eq_true live)]
      exact iff_of_true ⟨_, _, rfl, reads, inv.not_isExpired follows last live, rfl⟩ live
    · rw [if_neg (by simpa using live)]
      exact iff_of_false (by rintro ⟨_, _, ⟨⟩, -⟩) live
  · rw [none]
    exact iff_of_false (by rintro ⟨_, _, ⟨⟩, -⟩) (not_lt.2 (ended _ last))

theorem isFresh {w : CacheJournal σ ω} (inv : Freshness clock start now w.deeds w.state)
    (follows : clock.Follows start) (keeps : KeepsTime σ clock) {lasts : Nat → Nat → Nat → Prop}
    (tells : ∀ p seconds t, clock.reads (.onClock start t) <
      clock.ending (.onClock start p) (.ofSeconds seconds) ↔ lasts p seconds t) :
    w.IsFresh start lasts where
  hit {id c answer} hc returned hits := by
    have founded := (inv.calls hc).2
    rw [returned] at founded
    obtain ⟨m, mem⟩ := founded _ rfl hits
    obtain ⟨t, -, rfl, -⟩ := inv.sound _ mem
    exact ⟨t, mem⟩
  found {key rows t} mem := by
    obtain ⟨t', -, same, ⟨entry, span, m⟩, published, rfl, p, le, rfl, lasts⟩ := inv.sound _ mem
    cases Moment.onClock_inj same
    obtain ⟨-, u, -, eq, rows, q, before, executed, made⟩ := inv.sound _ published
    cases Moment.onClock_inj eq
    change entry = .new rows span (start + q) at made
    subst made
    exact ⟨p, q, span, published, executed, before, le, lasts⟩
  kept last now_eq works := by
    rw [inv.look_iff follows keeps last works, now_eq]
    exact tells ..

/-! ## runs -/

theorem exists_admits (inv : Freshness clock start now deeds s) {first : Nat}
    {events : List (CacheEvent ω)} {event : CacheEvent ω}
    (oneClock : OneClock start first (events ++ [event]))
    (reached : s.now ∈ .onClock start first :: events.filterMap CacheEvent.tick?)
    (readsBack : ∀ runner rows, event = .complete runner (.ok rows) → rows.ReadsBack)
    (fits : ∀ key p, s.deed? event = some (.published key p) → clock.Fits p.now p.span) :
    ∃ later, Admits clock start now later s event := by
  have same := s.step_now event
  cases event with
  | tick m =>
    obtain ⟨later, le, rfl, day⟩ := oneClock.tick_le (inv.now_eq ▸ reached)
    exact ⟨later, le, rfl, day, readsBack, fits⟩
  | _ => exact ⟨now, le_rfl, same.trans inv.now_eq, same ▸ inv.inCalendar, readsBack, fits⟩

theorem run {settings : LeaseSettings} {processes first : Nat} {events : List (CacheEvent ω)}
    (oneClock : OneClock start first events)
    (readsBack : ∀ runner rows, .complete runner (.ok rows) ∈ events → rows.ReadsBack) {store : σ}
    (unwritten : ∀ key : CacheKey, record? store key.entry = none)
    (follows : clock.Follows start) (keeps : KeepsTime σ clock)
    (fits : ((CacheJournal.fresh settings processes start first store).run events).AllFit clock) :
    ∃ now, Freshness clock start now
      ((CacheJournal.fresh settings processes start first store).run events).deeds
      ((CacheJournal.fresh settings processes start first store).run events).state := by
  induction events using List.reverseRecOn with
  | nil =>
    have day := oneClock.inCalendar _ List.mem_cons_self
    exact ⟨first, .fresh settings processes day unwritten⟩
  | append_singleton events event ih =>
    rw [CacheJournal.run_concat] at fits ⊢
    obtain ⟨now, inv⟩ := ih oneClock.of_concat
      (fun runner rows mem => readsBack runner rows (List.mem_append_left _ mem))
      fun key p mem => fits key p (List.mem_append_left _ mem)
    have reached := CacheCluster.now_run_mem
      (CacheCluster.fresh settings processes (.onClock start first) store) events
    obtain ⟨later, admits⟩ := inv.exists_admits oneClock
      (by rw [CacheJournal.run_state]; exact reached)
      (fun runner rows eq => readsBack runner rows (eq ▸ List.mem_concat_self))
      fun key p eq => fits key p (List.mem_append_right _ (Option.mem_toList.2 eq))
    exact ⟨later, inv.step follows keeps admits⟩

end Freshness

/-- In both stores, if no key has an entry at first. By a table's clock an entry lasts for its whole
milliseconds. -/
theorem hits_are_fresh {ω : Type} (settings : LeaseSettings) (processes : Nat) (start : Int)
    (first : Nat) (events : List (CacheEvent ω)) (oneClock : OneClock start first events)
    (readsBack : ∀ runner rows, .complete runner (.ok rows) ∈ events → rows.ReadsBack) :
    (∀ store : MemoryStore String, (∀ key : CacheKey, store.slots.get? key.entry = none) →
      let w := (CacheJournal.fresh settings processes start first store).run events
      w.AllFit .nanoseconds → w.IsFresh start fun p seconds t => t < p + seconds * 1000000000) ∧
    ∀ store : TableStore String, (∀ key : CacheKey, store.rows.get? key.entry = none) →
      let w := (CacheJournal.fresh settings processes start first store).run events
      w.AllFit .milliseconds → w.IsFresh start fun p seconds t =>
        (Moment.onClock start t).calendar < (Moment.onClock start p).calendar + seconds * 1000 := by
  constructor
  · intro store absent w fits
    have unwritten (key : CacheKey) : record? store key.entry = none := by
      change store.record? key.entry = none
      rw [MemoryStore.record?, absent, Option.map_none]
    have follows := LeaseClock.nanoseconds_follows start
    obtain ⟨now, inv⟩ :=
      Freshness.run oneClock readsBack unwritten follows MemoryStore.keepsTime fits
    refine inv.isFresh follows MemoryStore.keepsTime fun p seconds t => ?_
    simp only [LeaseClock.ending, LeaseClock.nanoseconds, Moment.onClock, Duration.ofSeconds]
    omega
  · intro store absent w fits
    have unwritten (key : CacheKey) : record? store key.entry = none := by
      change store.record? key.entry = none
      rw [TableStore.record?, absent, Option.map_none]
    have follows := LeaseClock.milliseconds_follows start
    obtain ⟨now, inv⟩ :=
      Freshness.run oneClock readsBack unwritten follows TableStore.keepsTime fits
    refine inv.isFresh follows TableStore.keepsTime fun p seconds t => ?_
    have counts : (Duration.ofSeconds seconds).milliseconds = seconds * 1000 := by
      simp only [Duration.ofSeconds, Duration.milliseconds]
      omega
    simp only [LeaseClock.ending, LeaseClock.milliseconds, counts]
    exact_mod_cast Iff.rfl

/-! ## two processes -/

def sharedRows : RowSet := ⟨[⟨"n", "int8"⟩], [[.integer 3]]⟩

theorem readsBack_sharedRows : sharedRows.ReadsBack := by
  intro row mem cell inside
  cases List.mem_singleton.1 mem
  cases List.mem_singleton.1 inside
  exact ⟨.plain (.integer (by decide) (by decide)) rfl, rfl⟩

def sharedRequest (process : Nat) : CacheRequest Unit :=
  ⟨process, ⟨"rows"⟩, .ofSeconds 2, ⟨10000000000⟩, ()⟩

/-- The second process asks for the rows a second after the first has published them. -/
def sharedEvents : List (CacheEvent Unit) :=
  [.arrive (sharedRequest 0), .stepCall 0 [], .stepCall 0 [], .stepFlight 0 [], .stepFlight 0 [],
    .tick (.onClock 0 500000000), .complete (.flight 0) (.ok sharedRows), .stepFlight 0 [],
    .arrive (sharedRequest 1), .tick (.onClock 0 1500000000), .stepCall 1 []]

theorem oneClock_sharedEvents : OneClock 0 0 sharedEvents where
  told := by
    intro m mem
    rcases List.mem_pair.1 mem with rfl | rfl <;> exact ⟨_, rfl⟩
  inOrder := by decide
  inCalendar := by decide

/-- Whether a call has found its rows in the store. -/
def CacheCluster.hasHit {σ ω : Type} (s : CacheCluster σ ω) (call : Nat) : Bool :=
  match (s.calls[call]?).bind fun c => c.stage.result? with
  | some (.ok answer) => answer.cacheHit
  | _ => false

/-- Whether the end of the time of an entry can be told that is put into the store. -/
def CacheDeed.fits (clock : LeaseClock) : CacheDeed → Bool
  | published _ p => clock.Fits p.now p.span
  | _ => true

theorem CacheJournal.allFit_of_all {σ ω : Type} {clock : LeaseClock} {w : CacheJournal σ ω}
    (h : w.deeds.all (CacheDeed.fits clock) = true) : w.AllFit clock :=
  fun _ _ mem => of_decide_eq_true (List.all_eq_true.1 h _ mem)

theorem hits_are_fresh_second_process :
    let memory := (CacheJournal.fresh {} 2 0 0 ({} : MemoryStore String)).run sharedEvents
    let table := (CacheJournal.fresh {} 2 0 0 ({} : TableStore String)).run sharedEvents
    (memory.state.hasHit 1 = true ∧
      memory.IsFresh 0 fun p seconds t => t < p + seconds * 1000000000) ∧
    (table.state.hasHit 1 = true ∧ table.IsFresh 0 fun p seconds t =>
      (Moment.onClock 0 t).calendar < (Moment.onClock 0 p).calendar + seconds * 1000) := by
  have readsBack (runner : Runner) (rows : RowSet)
      (mem : .complete runner (.ok rows) ∈ sharedEvents) : rows.ReadsBack := by
    simp only [sharedEvents, List.mem_cons, reduceCtorEq, false_or, or_false, List.not_mem_nil,
      CacheEvent.complete.injEq, Except.ok.injEq] at mem
    exact mem.2 ▸ readsBack_sharedRows
  obtain ⟨memory, table⟩ := hits_are_fresh {} 2 0 0 sharedEvents oneClock_sharedEvents readsBack
  refine ⟨⟨by decide +kernel, memory {} (fun _ => rfl) (CacheJournal.allFit_of_all ?_)⟩,
    by decide +kernel, table {} (fun _ => rfl) (CacheJournal.allFit_of_all ?_)⟩ <;> decide +kernel

end AnalyticsGateway
