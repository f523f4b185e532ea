import AnalyticsGateway.Proofs.Store.Uses

/-!
# What is over is not seen

Two stores in memory agree at an instant if their live slots then are the same. Every operation
answers the same on stores that agree and lets them agree (`Agree.perform`), and a purge agrees with
the store before it, so purges can be put anywhere in a run (`expired_unseen`).
-/

namespace AnalyticsGateway

/-! ## all that is done with a store in memory -/

/-- What is done with a store in memory, listings among it. -/
inductive MemoryUse (β : Type) where
  | shared (use : StoreUse β)
  | size
  | keysStartingWith (start : String)

inductive MemoryAnswer (β : Type) where
  | shared (answer : StoreAnswer β)
  | size (count : Nat)
  | keys (keys : List String)

namespace MemoryAnswer

variable {β : Type}

/-- Whether the answer is how many values a purge has removed. -/
def isCount : MemoryAnswer β → Bool
  | shared (.removed _) => true
  | _ => false

/-- The answer without the number of values that a purge has removed. -/
def uncounted : MemoryAnswer β → MemoryAnswer β
  | shared (.removed _) => shared .done
  | answer => answer

theorem uncounted_of_not_isCount {answer : MemoryAnswer β} (h : answer.isCount = false) :
    answer.uncounted = answer := by
  cases answer with
  | shared answer =>
    cases answer with
    | removed count => cases h
    | _ => rfl
  | _ => rfl

end MemoryAnswer

namespace MemoryUse

variable {β : Type}

def isPurge : MemoryUse β → Bool
  | shared .purge => true
  | _ => false

variable [DecidableEq β]

def perform (now : Moment) (s : MemoryStore β) : MemoryUse β → MemoryAnswer β × MemoryStore β
  | shared use => (use.perform now s).map .shared id
  | size => (.size (s.size now.clock), s)
  | keysStartingWith start => (.keys (s.keysStartingWith now.clock start), s)

/-- The answers to uses in a row. -/
def answers (s : MemoryStore β) : List (Moment × MemoryUse β) → List (MemoryAnswer β)
  | [] => []
  | (now, use) :: rest => (use.perform now s).1 :: answers (use.perform now s).2 rest

/-- The store after uses in a row. -/
def run (s : MemoryStore β) : List (Moment × MemoryUse β) → MemoryStore β
  | [] => s
  | (now, use) :: rest => run (use.perform now s).2 rest

/-- Only a purge is answered with a count. -/
theorem isCount_perform (now : Moment) (s : MemoryStore β) (use : MemoryUse β) :
    (use.perform now s).1.isCount = use.isPurge := by
  cases use with
  | shared use =>
    cases use with
    | under key use => cases use <;> rfl
    | publish entry value span lease owner => rfl
    | purge => rfl
  | size => rfl
  | keysStartingWith start => rfl

end MemoryUse

namespace MemoryStore

variable {β : Type} {now later : Instant} {s t u : MemoryStore β}

/-! ## live slots -/

theorem live?_put (s : MemoryStore β) (now : Instant) (key : String) (value : β)
    (expiry : Option Instant) (k : String) :
    (s.put key value expiry).live? now k =
      if key = k then (some ⟨value, expiry⟩ : Option (Slot β)).filter (·.isLive now)
      else s.live? now k := by
  rw [live?, put, SortedMap.get?_insert]
  split <;> rfl

theorem live?_erase (s : MemoryStore β) (now : Instant) (key k : String) :
    (s.erase key).live? now k = if key = k then none else s.live? now k := by
  rw [live?, erase, SortedMap.get?_erase]
  split <;> rfl

theorem isLive_of_le {slot : Slot β} (le : now ≤ later) (live : slot.isLive later = true) :
    slot.isLive now = true := by
  unfold Slot.isLive at live ⊢
  cases h : slot.expiry with
  | none => rfl
  | some ending =>
    rw [h] at live
    exact decide_eq_true (Nat.lt_of_le_of_lt le (of_decide_eq_true live))

/-- What is live later is live now. -/
theorem livePart_livePart (le : now ≤ later) (s : MemoryStore β) :
    (s.livePart now).livePart later = s.livePart later := by
  refine congrArg MemoryStore.mk (SortedMap.ext_entries ?_)
  change (s.slots.entries.filter _).filter _ = s.slots.entries.filter _
  rw [List.filter_filter]
  refine List.filter_congr fun entry _ => ?_
  change (entry.2.isLive later && entry.2.isLive now) = entry.2.isLive later
  cases live : entry.2.isLive later with
  | false => rfl
  | true => rw [isLive_of_le le live, Bool.and_self]

/-! ## stores that agree -/

/-- The live slots are the same. -/
def Agree (now : Instant) (s t : MemoryStore β) : Prop := s.livePart now = t.livePart now

/-- Two operations have the same answer, and leave stores that agree. -/
def AgreeAfter {α : Type} (now : Instant) (a b : α × MemoryStore β) : Prop :=
  a.1 = b.1 ∧ Agree now a.2 b.2

theorem agree_iff : Agree now s t ↔ ∀ key, s.live? now key = t.live? now key := by
  have live (s : MemoryStore β) (key : String) :
      (s.livePart now).slots.get? key = s.live? now key := SortedMap.get?_filter ..
  constructor
  · intro h key
    rw [← live s, ← live t, h]
  · intro h
    refine congrArg MemoryStore.mk (SortedMap.ext_get? fun key => ?_)
    exact (live s key).trans ((h key).trans (live t key).symm)

theorem agree_purge (now : Instant) (s : MemoryStore β) : Agree now (s.purge now).2 s :=
  livePart_livePart (Nat.le_refl _) s

namespace Agree

theorem mono (le : now ≤ later) (h : Agree now s t) : Agree later s t := by
  rw [Agree, ← livePart_livePart le s, h, livePart_livePart le t]

theorem live? (h : Agree now s t) (key : String) : s.live? now key = t.live? now key :=
  agree_iff.1 h key

theorem value? (h : Agree now s t) (key : String) : s.value? now key = t.value? now key :=
  congrArg (Option.map Slot.value) (h.live? key)

theorem put (h : Agree now s t) (key : String) (value : β) (expiry : Option Instant) :
    Agree now (s.put key value expiry) (t.put key value expiry) := by
  refine agree_iff.2 fun k => ?_
  rw [live?_put, live?_put, h.live? k]

theorem erase (h : Agree now s t) (key : String) : Agree now (s.erase key) (t.erase key) := by
  refine agree_iff.2 fun k => ?_
  rw [live?_erase, live?_erase, h.live? k]

theorem claim (h : Agree now s t) (key : String) (owner : β) (span : Duration) :
    AgreeAfter now (claim now key owner span s) (claim now key owner span t) := by
  rw [MemoryStore.claim, MemoryStore.claim, h.live? key]
  split
  · exact ⟨rfl, h⟩
  · exact ⟨rfl, h.put key owner _⟩

theorem update (h : Agree now s t) (key : String) (span : Option Duration)
    (transition : Transition β) :
    AgreeAfter now (update now key span transition s) (update now key span transition t) := by
  rw [MemoryStore.update, MemoryStore.update, h.value? key]
  cases transition (t.value? now key) with
  | error e => exact ⟨rfl, h⟩
  | ok next =>
    cases next with
    | none => exact ⟨rfl, h⟩
    | some value => exact ⟨rfl, h.put key value _⟩

section Owners

variable [DecidableEq β]

theorem isHeld (h : Agree now s t) (key : String) (owner : β) :
    s.isHeld now key owner = t.isHeld now key owner := by
  rw [MemoryStore.isHeld, MemoryStore.isHeld, h.value? key]

theorem renew (h : Agree now s t) (key : String) (owner : β) (span : Duration) :
    AgreeAfter now (renew now key owner span s) (renew now key owner span t) := by
  rw [MemoryStore.renew, MemoryStore.renew, h.isHeld key owner]
  split
  · exact ⟨rfl, h.put key owner _⟩
  · exact ⟨rfl, h⟩

theorem release (h : Agree now s t) (key : String) (owner : β) :
    AgreeAfter now (release now key owner s) (release now key owner t) := by
  rw [MemoryStore.release, MemoryStore.release, h.isHeld key owner]
  split
  · exact ⟨rfl, h.erase key⟩
  · exact ⟨rfl, h⟩

/-- Also when the entry takes the place of the lease. -/
theorem publish (h : Agree now s t) (entry : String) (value : β) (span : Duration)
    (lease : String) (owner : β) :
    Agree now (publish now entry value span lease owner s)
      (publish now entry value span lease owner t) :=
  ((h.put entry value _).release lease owner).2

end Owners

theorem size (h : Agree now s t) : s.size now = t.size now := by
  rw [MemoryStore.size, h, MemoryStore.size]

theorem keysStartingWith (h : Agree now s t) (start : String) :
    s.keysStartingWith now start = t.keysStartingWith now start := by
  rw [MemoryStore.keysStartingWith, keys, h, MemoryStore.keysStartingWith, keys]

end Agree

theorem AgreeAfter.map {α γ : Type} {a b : α × MemoryStore β} (h : AgreeAfter now a b)
    (f : α → γ) : AgreeAfter now (a.map f id) (b.map f id) :=
  ⟨congrArg f h.1, h.2⟩

/-! ## runs -/

variable [DecidableEq β] {m : Moment}

theorem Agree.perform_under (h : Agree m.clock s t) (key : String) (use : KeyUse β) :
    AgreeAfter m.clock (use.perform m key s) (use.perform m key t) := by
  cases use with
  | get => exact ⟨congrArg (StoreAnswer.found ∘ .ok) (h.value? key), h⟩
  | set value span => exact ⟨rfl, h.put key value _⟩
  | claim owner span => exact (h.claim key owner span).map _
  | renew owner span => exact (h.renew key owner span).map _
  | release owner => exact (h.release key owner).map _
  | update span transition => exact (h.update key span transition).map _

/-- Stores that agree answer alike, up to the count of a purge, and agree afterwards. -/
theorem Agree.perform (h : Agree m.clock s t) (use : MemoryUse β) :
    (use.perform m s).1.uncounted = (use.perform m t).1.uncounted ∧
      Agree m.clock (use.perform m s).2 (use.perform m t).2 := by
  cases use with
  | shared use =>
    cases use with
    | under key use =>
      obtain ⟨answer, after⟩ := h.perform_under key use
      exact ⟨congrArg (MemoryAnswer.uncounted ∘ .shared) answer, after⟩
    | publish entry value span lease owner => exact ⟨rfl, h.publish entry value span lease owner⟩
    | purge =>
      refine ⟨rfl, ?_⟩
      change Agree m.clock (s.purge m.clock).2 (t.purge m.clock).2
      exact (agree_purge m.clock s).trans (h.trans (agree_purge m.clock t).symm)
  | size => exact ⟨congrArg (MemoryAnswer.uncounted ∘ .size) h.size, h⟩
  | keysStartingWith start =>
    exact ⟨congrArg (MemoryAnswer.uncounted ∘ .keys) (h.keysStartingWith start), h⟩

theorem perform_of_isPurge {use : MemoryUse β} (h : use.isPurge = true) (m : Moment)
    (s : MemoryStore β) : (use.perform m s).2 = (s.purge m.clock).2 := by
  unfold MemoryUse.isPurge at h
  split at h
  · rfl
  · cases h

theorem Agree.answers {start : Instant} (h : Agree start s t) {events : List (Moment × MemoryUse β)}
    (ordered : (start :: events.map (·.1.clock)).Pairwise (· ≤ ·)) :
    (MemoryUse.answers s events).map (·.uncounted) =
      (MemoryUse.answers t events).map (·.uncounted) := by
  induction events generalizing start s t with
  | nil => rfl
  | cons event rest ih =>
    obtain ⟨le, ordered⟩ := List.pairwise_cons.1 ordered
    have now : Agree event.1.clock s t := h.mono (le _ List.mem_cons_self)
    obtain ⟨answer, after⟩ := now.perform event.2
    rw [MemoryUse.answers, MemoryUse.answers, List.map_cons, List.map_cons, answer,
      ih after ordered]

theorem Agree.run {start : Instant} (h : Agree start s t) {events : List (Moment × MemoryUse β)}
    (ordered : (start :: events.map (·.1.clock)).Pairwise (· ≤ ·))
    (last : ∀ instant ∈ start :: events.map (·.1.clock), instant ≤ now) :
    Agree now (MemoryUse.run s events) (MemoryUse.run t events) := by
  induction events generalizing start s t with
  | nil => exact h.mono (last start List.mem_cons_self)
  | cons event rest ih =>
    obtain ⟨le, ordered⟩ := List.pairwise_cons.1 ordered
    have now : Agree event.1.clock s t := h.mono (le _ List.mem_cons_self)
    exact ih (now.perform event.2).2 ordered fun instant mem =>
      last instant (List.mem_cons_of_mem _ mem)

/-- Without its purges a run gives the answers that are left, and the same live slots. -/
theorem Agree.without_purges {start : Instant} (h : Agree start s t)
    {events : List (Moment × MemoryUse β)}
    (ordered : (start :: events.map (·.1.clock)).Pairwise (· ≤ ·))
    (last : ∀ instant ∈ start :: events.map (·.1.clock), instant ≤ now) :
    (MemoryUse.answers s events).filter (!·.isCount) =
        MemoryUse.answers t (events.filter (!·.2.isPurge)) ∧
      Agree now (MemoryUse.run s events) (MemoryUse.run t (events.filter (!·.2.isPurge))) := by
  induction events generalizing start s t with
  | nil => exact ⟨rfl, h.mono (last start List.mem_cons_self)⟩
  | cons event rest ih =>
    obtain ⟨le, ordered⟩ := List.pairwise_cons.1 ordered
    have now : Agree event.1.clock s t := h.mono (le _ List.mem_cons_self)
    have later (instant) (mem : instant ∈ (event :: rest).map (·.1.clock)) :=
      last instant (List.mem_cons_of_mem _ mem)
    rw [MemoryUse.answers, MemoryUse.run]
    cases purges : event.2.isPurge with
    | true =>
      have after : Agree event.1.clock (event.2.perform event.1 s).2 t := by
        rw [perform_of_isPurge purges]
        exact (agree_purge event.1.clock s).trans now
      rw [List.filter_cons_of_neg (by simp [MemoryUse.isCount_perform, purges]),
        List.filter_cons_of_neg (by simp [purges])]
      exact ih after ordered later
    | false =>
      obtain ⟨answer, after⟩ := now.perform event.2
      have shown (u : MemoryStore β) : (event.2.perform event.1 u).1.isCount = false :=
        (MemoryUse.isCount_perform ..).trans purges
      rw [MemoryAnswer.uncounted_of_not_isCount (shown s),
        MemoryAnswer.uncounted_of_not_isCount (shown t)] at answer
      rw [List.filter_cons_of_pos (by simp [shown s]), List.filter_cons_of_pos (by simp [purges]),
        MemoryUse.answers, MemoryUse.run, answer]
      exact (ih after ordered later).imp (congrArg _) id

omit [DecidableEq β] in
/-- A transition that fails or gives no value leaves the store as it is. -/
theorem update_of_unchanged {key : String} {transition : Transition β}
    (unchanged : ∀ value, transition (s.value? now key) ≠ .ok (some value))
    (span : Option Duration) : (update now key span transition s).2 = s := by
  unfold update
  cases h : transition (s.value? now key) with
  | error e => simp only [h]
  | ok next =>
    cases next with
    | none => simp only [h]
    | some value => exact absurd h (unchanged value)

/-- What is done at instants that never go back, from a start at which two stores agree, is answered
alike by both up to the counts of purges, and they agree afterwards. Purges among it change no other
answer and no live slot, and neither does an update that fails or gives no value. -/
theorem expired_unseen {start : Instant} (h : Agree start s t)
    {events : List (Moment × MemoryUse β)}
    (ordered : (start :: events.map (·.1.clock)).Pairwise (· ≤ ·))
    (last : ∀ instant ∈ start :: events.map (·.1.clock), instant ≤ now) :
    ((MemoryUse.answers s events).map (·.uncounted) =
          (MemoryUse.answers t events).map (·.uncounted) ∧
        Agree now (MemoryUse.run s events) (MemoryUse.run t events)) ∧
      ((MemoryUse.answers s events).filter (!·.isCount) =
          MemoryUse.answers t (events.filter (!·.2.isPurge)) ∧
        Agree now (MemoryUse.run s events) (MemoryUse.run t (events.filter (!·.2.isPurge)))) ∧
      ∀ (u : MemoryStore β) (instant : Instant) (key : String) (span : Option Duration)
        (transition : Transition β),
        (∀ value, transition (u.value? instant key) ≠ .ok (some value)) →
          (update instant key span transition u).2 = u := by
  refine ⟨⟨h.answers ordered, h.run ordered last⟩, h.without_purges ordered last, ?_⟩
  intro u instant key span transition unchanged
  exact update_of_unchanged unchanged span

/-- A lease whose time is over, beside a value that stays. -/
def withLateLease : MemoryStore String :=
  ⟨.ofList [("entry", ⟨"rows", none⟩), ("lease", ⟨"first", some (.ofSeconds 3)⟩)]⟩

def withoutLease : MemoryStore String := ⟨.ofList [("entry", ⟨"rows", none⟩)]⟩

/-- The late owner and another one meet the lease, with a purge between them. -/
def leaseUses : List (Moment × MemoryUse String) :=
  [(⟨.ofSeconds 3, 0⟩, .shared (.under "lease" (.renew "first" (.ofSeconds 5)))),
   (⟨.ofSeconds 4, 0⟩, .shared .purge),
   (⟨.ofSeconds 4, 0⟩, .shared (.under "lease" (.claim "second" (.ofSeconds 5)))),
   (⟨.ofSeconds 5, 0⟩, .shared (.publish "lease" "rows" (.ofSeconds 5) "lease" "second")),
   (⟨.ofSeconds 5, 0⟩, .keysStartingWith "l")]

theorem expired_unseen_lateLease :
    withLateLease.slots.size ≠ withoutLease.slots.size ∧
      (MemoryUse.answers withLateLease leaseUses).map (·.uncounted) =
        (MemoryUse.answers withoutLease leaseUses).map (·.uncounted) ∧
      Agree (.ofSeconds 6) (MemoryUse.run withLateLease leaseUses)
        (MemoryUse.run withoutLease (leaseUses.filter (!·.2.isPurge))) := by
  have agree : Agree (.ofSeconds 3) withLateLease withoutLease := rfl
  have ordered : (Duration.ofSeconds 3 :: leaseUses.map (·.1.clock)).Pairwise (· ≤ ·) := by decide
  have last : ∀ instant ∈ Duration.ofSeconds 3 :: leaseUses.map (·.1.clock),
      instant ≤ .ofSeconds 6 := by decide
  obtain ⟨⟨answers, -⟩, ⟨-, agree⟩, -⟩ := expired_unseen agree ordered last
  exact ⟨by decide, answers, agree⟩

end MemoryStore

end AnalyticsGateway
