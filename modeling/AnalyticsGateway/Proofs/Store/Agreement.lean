import AnalyticsGateway.Proofs.Store.Exclusion
import AnalyticsGateway.Proofs.Store.Uses

/-!
# One store for another

Under one clock of milliseconds the store in memory and the one in a table see the same records at
all times (`Alike`), whatever is done with them. So they answer alike, except that an owner who
gives up a claim after its time is told so by the table alone (`answers_agree_iff`).
-/

namespace AnalyticsGateway

open SharedStore LawfulStore

/-! ## records that are seen alike -/

namespace RecordRules

variable {ε ε' β : Type}

/-- At some moments both times are over or neither is. -/
def SameTime (rules : RecordRules ε) (rules' : RecordRules ε') (On : Moment → Prop) (e : ε)
    (e' : ε') : Prop :=
  ∀ m, On m → rules.isLive e m = rules'.isLive e' m

/-- What is seen of two records has the same value and the same time. -/
structure Agree (rules : RecordRules ε) (rules' : RecordRules ε') (On : Moment → Prop)
    (now : Moment) (r : Option (β × ε)) (r' : Option (β × ε')) : Prop where
  value : rules.value? now r = rules'.value? now r'
  time : ∀ {a b}, rules.seen now r = some a → rules'.seen now r' = some b →
    rules.SameTime rules' On a.2 b.2

/-- The value is an owner's whose time to have it is over. -/
def IsLate (rules : RecordRules ε) (now : Moment) (owner : β) (r : Option (β × ε)) : Prop :=
  ∃ expiry, r = some (owner, expiry) ∧ rules.isLive expiry now = false

variable {rules : RecordRules ε} {rules' : RecordRules ε'} {On : Moment → Prop}
  {now : Moment} {r : Option (β × ε)} {r' : Option (β × ε')}

theorem isSome_seen (rules : RecordRules ε) (now : Moment) (r : Option (β × ε)) :
    (rules.seen now r).isSome = (rules.value? now r).isSome := by
  rw [value?, Option.isSome_map]

theorem not_isLate_of_value? {owner : β} {value : β} (h : rules.value? now r = some value) :
    ¬rules.IsLate now owner r := by
  rintro ⟨expiry, rfl, ended⟩
  obtain ⟨expiry', same, live⟩ := value?_eq_some.1 h
  cases same
  exact Bool.false_ne_true (ended.symm.trans live)

namespace Agree

theorem of_seen_eq (agree : rules.Agree rules' On now r r') {s : Option (β × ε)}
    {s' : Option (β × ε')} (same : rules.seen now s = rules.seen now r)
    (same' : rules'.seen now s' = rules'.seen now r') : rules.Agree rules' On now s s' where
  value := (value?_of_seen_eq same).trans (agree.value.trans (value?_of_seen_eq same').symm)
  time ha hb := agree.time (same ▸ ha) (same' ▸ hb)

theorem unseen (ended : rules.seen now r = none) (ended' : rules'.seen now r' = none) :
    rules.Agree rules' On now r r' where
  value := by rw [value?, ended, value?, ended', Option.map_none, Option.map_none]
  time ha _ := nomatch ended.symm.trans ha

theorem written (on : On now) {e : ε} {e' : ε'} (same : rules.SameTime rules' On e e') (value : β) :
    rules.Agree rules' On now (some (value, e)) (some (value, e')) where
  value := by
    simp only [value?, seen, Option.filter_some, same now on]
    split <;> rfl
  time ha hb := by
    cases (seen_eq_some.1 ha).1
    cases (seen_eq_some.1 hb).1
    exact same

theorem later {later : Moment} (agree : rules.Agree rules' On now r r') (le : now ≤ later)
    (on : On later) : rules.Agree rules' On later r r' := by
  suffices still : rules.Agree rules' On later (rules.seen now r) (rules'.seen now r') from
    still.of_seen_eq (seen_seen le r).symm (seen_seen le r').symm
  have value := agree.value
  cases h : rules.seen now r with
  | none =>
    rw [value?, h] at value
    have none' := Option.map_eq_none_iff.1 value.symm
    rw [none']
    exact unseen rfl rfl
  | some a =>
    rw [value?, h] at value
    obtain ⟨b, h', same⟩ := Option.map_eq_some_iff.1 value.symm
    rw [h']
    obtain ⟨v, e⟩ := a
    obtain ⟨v', e'⟩ := b
    cases same
    exact written on (agree.time h h') v

end Agree

end RecordRules

/-! ## uses of records that are seen alike -/

namespace KeyUse

variable {ε ε' β : Type}

/-- The spans for which a use may write, none of them one for ever. -/
def written : KeyUse β → List (Option Duration)
  | set _ span | claim _ span | renew _ span => [some span]
  | update span _ => [span]
  | get | release _ => []

variable [DecidableEq β] {rules : RecordRules ε} {rules' : RecordRules ε'} {On : Moment → Prop}
  {now : Moment} {r : Option (β × ε)} {r' : Option (β × ε')}

omit [DecidableEq β] in
theorem released_eq_some {owner : β} :
    (rules.released now r).map (·.1) = some owner ↔ rules.value? now r = some owner ∨
      rules.releasesLate = true ∧ rules.IsLate now owner r := by
  unfold RecordRules.released
  split
  · rename_i late
    constructor
    · intro h
      obtain ⟨⟨value, expiry⟩, rfl, rfl⟩ := Option.map_eq_some_iff.1 h
      cases live : rules.isLive expiry now with
      | true => exact .inl (RecordRules.value?_eq_some.2 ⟨expiry, rfl, live⟩)
      | false => exact .inr ⟨late, expiry, rfl, live⟩
    · rintro (h | ⟨-, expiry, rfl, -⟩)
      · obtain ⟨expiry, rfl, -⟩ := RecordRules.value?_eq_some.1 h
        rfl
      · rfl
  · rename_i punctual
    exact ⟨.inl, fun h => h.resolve_right fun late => punctual late.1⟩

/-- After a release nothing is seen of the owner's claim, and all of another's. -/
theorem seen_release (owner : β) :
    rules.seen now ((release owner).onRecord rules now r).2 =
      if rules.value? now r = some owner then none else rules.seen now r := by
  rw [onRecord]
  by_cases held : rules.value? now r = some owner
  · rw [if_pos held, if_pos (released_eq_some.2 (.inl held))]
    rfl
  · rw [if_neg held]
    split
    · rename_i released
      obtain ⟨-, expiry, rfl, ended⟩ := (released_eq_some.1 released).resolve_left held
      rw [RecordRules.seen, RecordRules.seen, Option.filter_none, Option.filter_some,
        if_neg (Bool.eq_false_iff.1 ended)]
    · rfl

theorem agree_onRecord (use : KeyUse β) (agree : rules.Agree rules' On now r r') (on : On now)
    (ends : ∀ span ∈ use.written,
      rules.SameTime rules' On (rules.ending now span) (rules'.ending now span)) :
    rules.Agree rules' On now (use.onRecord rules now r).2 (use.onRecord rules' now r').2 := by
  have writes (value : β) {span : Option Duration} (mem : span ∈ use.written) :
      rules.Agree rules' On now (some (value, rules.ending now span))
        (some (value, rules'.ending now span)) := .written on (ends span mem) value
  cases use with
  | get => exact agree
  | set value span => exact writes value (List.mem_singleton_self _)
  | claim owner span =>
    rw [onRecord, onRecord, RecordRules.isSome_seen, RecordRules.isSome_seen, agree.value]
    split
    · exact agree
    · exact writes owner (List.mem_singleton_self _)
  | renew owner span =>
    rw [onRecord, onRecord, agree.value]
    split
    · exact writes owner (List.mem_singleton_self _)
    · exact agree
  | release owner =>
    by_cases held : rules'.value? now r' = some owner
    · refine .unseen ?_ ?_
      · rw [seen_release, if_pos (agree.value.trans held)]
      · rw [seen_release, if_pos held]
    · refine agree.of_seen_eq ?_ ?_
      · rw [seen_release, if_neg (held ∘ agree.value.symm.trans)]
      · rw [seen_release, if_neg held]
  | update span transition =>
    simp only [onRecord, agree.value]
    cases transition (rules'.value? now r') with
    | error e => exact agree
    | ok next =>
      cases next with
      | none => exact agree
      | some value => exact writes value (List.mem_singleton_self _)

theorem answer_eq_of_agree {use : KeyUse β} (agree : rules.Agree rules' On now r r')
    (kept : ∀ owner, use ≠ .release owner) :
    (use.onRecord rules now r).1 = (use.onRecord rules' now r').1 := by
  cases use with
  | get => rw [onRecord, onRecord, agree.value]
  | set value span => rfl
  | claim owner span =>
    rw [onRecord, onRecord, RecordRules.isSome_seen, RecordRules.isSome_seen, agree.value]
    split <;> rfl
  | renew owner span =>
    rw [onRecord, onRecord, agree.value]
    split <;> rfl
  | release owner => exact absurd rfl (kept owner)
  | update span transition =>
    simp only [onRecord, agree.value]
    cases transition (rules'.value? now r') with
    | error e => rfl
    | ok next => cases next <;> rfl

theorem answer_release (rules : RecordRules ε) (now : Moment) (r : Option (β × ε)) (owner : β) :
    ∃ holds,
    ((release owner).onRecord rules now r).1 = .success holds ∧ (holds = true ↔
      rules.value? now r = some owner ∨ rules.releasesLate = true ∧ rules.IsLate now owner r) := by
  rw [onRecord, ← released_eq_some]
  split
  · rename_i released
    exact ⟨true, rfl, fun _ => released, fun _ => rfl⟩
  · rename_i other
    exact ⟨false, rfl, fun same => absurd same Bool.false_ne_true,
      fun released => absurd released other⟩

/-- Of two stores the one answers a late release otherwise that counts it. -/
theorem answer_release_eq_iff (agree : rules.Agree rules' On now r r')
    (punctual : rules.releasesLate = false) (late : rules'.releasesLate = true) (owner : β) :
    ((release owner).onRecord rules now r).1 = ((release owner).onRecord rules' now r').1 ↔
      ¬rules'.IsLate now owner r' := by
  obtain ⟨holds, answer, holds_iff⟩ := answer_release rules now r owner
  obtain ⟨holds', answer', holds_iff'⟩ := answer_release rules' now r' owner
  simp only [punctual, Bool.false_eq_true, false_and, or_false, agree.value] at holds_iff
  simp only [late, true_and] at holds_iff'
  rw [answer, answer', StoreAnswer.success.injEq]
  constructor
  · intro same isLate
    have held := holds_iff.1 (same.trans (holds_iff'.2 (.inr isLate)))
    exact RecordRules.not_isLate_of_value? held isLate
  · intro notLate
    exact Bool.eq_iff_iff.2 (holds_iff.trans ((or_iff_left notLate).symm.trans holds_iff'.symm))

end KeyUse

/-! ## stores that are seen alike -/

/-- The spans for which a use may write, none of them one for ever. -/
def StoreUse.written {β : Type} : StoreUse β → List (Option Duration)
  | under _ use => use.written
  | publish _ _ span _ _ => [some span]
  | purge => []

section Alike

variable {σ τ β : Type} [SharedStore σ β] [LawfulStore σ] [SharedStore τ β] [LawfulStore τ]
  [DecidableEq β] [RecordStore σ] [RecordStore τ]

/-- The owner of a claim gives it up whose time is over, and which the store still has. -/
def StoreUse.IsLate (now : Moment) (s : σ) (use : StoreUse β) : Prop :=
  ∃ key owner, use = .under key (.release owner) ∧
    (RecordStore.rules (σ := σ)).IsLate now owner (record? s key)

/-- Spans that begin at a moment are over in both stores at once. -/
def EndTogether (σ τ : Type) {β : Type} [SharedStore σ β] [LawfulStore σ] [SharedStore τ β]
    [LawfulStore τ] [DecidableEq β] [RecordStore σ] [RecordStore τ] (On : Moment → Prop)
    (now : Moment) (spans : List (Option Duration)) : Prop :=
  ∀ span ∈ spans, (RecordStore.rules (σ := σ)).SameTime (RecordStore.rules (σ := τ)) On
    (RecordStore.rules.ending now span) (RecordStore.rules.ending now span)

/-- The same is seen under each key of two stores. -/
def Alike (On : Moment → Prop) (now : Moment) (s : σ) (t : τ) : Prop :=
  ∀ k, (RecordStore.rules (σ := σ)).Agree (RecordStore.rules (σ := τ)) On now (record? s k)
    (record? t k)

namespace Alike

variable {On : Moment → Prop} {now : Moment} {s : σ} {t : τ}

theorem later (alike : Alike On now s t) {later : Moment} (le : now ≤ later) (on : On later) :
    Alike On later s t := fun k => (alike k).later le on

theorem under (alike : Alike On now s t) (on : On now) (key : String) {use : KeyUse β}
    (ends : EndTogether σ τ On now use.written) :
    Alike On now (use.perform now key s).2 (use.perform now key t).2 := by
  intro k
  rw [RecordStore.record?_perform, RecordStore.record?_perform]
  split
  · exact use.agree_onRecord (alike key) on ends
  · exact alike k

theorem perform (alike : Alike On now s t) (on : On now) {use : StoreUse β}
    (ends : EndTogether σ τ On now use.written) :
    Alike On now (use.perform now s).2 (use.perform now t).2 := by
  cases use with
  | under key use => exact alike.under on key ends
  | publish entry value span lease owner =>
    have set : EndTogether σ τ On now (KeyUse.set value span).written := ends
    have released : EndTogether σ τ On now (KeyUse.release owner).written := nofun
    rw [RecordStore.perform_publish, RecordStore.perform_publish]
    exact (alike.under on entry set).under on lease released
  | purge =>
    intro k
    have reread {υ : Type} [SharedStore υ β] [LawfulStore υ] [RecordStore υ] (u : υ) :
        (RecordStore.rules (σ := υ)).seen now
            (record? ((StoreUse.purge : StoreUse β).perform now u).2 k) =
          (RecordStore.rules (σ := υ)).seen now (record? u k) := by
      rw [RecordStore.record?_purge_eq, RecordRules.seen_seen ⟨Nat.le_refl _, Int.le_refl _⟩]
    exact (alike k).of_seen_eq (reread s) (reread t)

/-- Stores that are seen alike answer alike, but for a release that one of them takes late. -/
theorem answer_eq_iff (alike : Alike On now s t)
    (punctual : (RecordStore.rules (σ := σ)).releasesLate = false)
    (late : (RecordStore.rules (σ := τ)).releasesLate = true) {use : StoreUse β}
    (notPurge : use ≠ .purge) :
    (use.perform now s).1 = (use.perform now t).1 ↔ ¬use.IsLate now t := by
  cases use with
  | under key use =>
    have answers : (StoreUse.under key use).perform now s = use.perform now key s ∧
        (StoreUse.under key use).perform now t = use.perform now key t := ⟨rfl, rfl⟩
    rw [answers.1, answers.2, RecordStore.answer_perform, RecordStore.answer_perform]
    by_cases released : ∃ owner, use = .release owner
    · obtain ⟨owner, rfl⟩ := released
      rw [KeyUse.answer_release_eq_iff (alike key) punctual late owner]
      refine not_congr ⟨fun isLate => ⟨key, owner, rfl, isLate⟩, ?_⟩
      rintro ⟨_, _, same, isLate⟩
      cases same
      exact isLate
    · refine iff_of_true (KeyUse.answer_eq_of_agree (alike key) (not_exists.1 released)) ?_
      rintro ⟨_, owner, same, -⟩
      cases same
      exact released ⟨owner, rfl⟩
  | publish entry value span lease owner => exact iff_of_true rfl nofun
  | purge => exact absurd rfl notPurge

end Alike

end Alike

/-! ## the two stores under one clock -/

/-- A moment of whole milliseconds after a start. -/
def Moment.afterStart (start : Int) (n : Nat) : Moment :=
  ⟨.ofMilliseconds n, .ofMilliseconds (start + n)⟩

/-- Uses at moments of one clock that never goes back, for spans of whole milliseconds that both
stores can tell. -/
structure OnOneClock {β : Type} (start : Int) (events : List (Moment × StoreUse β)) : Prop where
  inOrder : events.Pairwise (·.1 ≤ ·.1)
  told : ∀ e ∈ events, ∃ n, e.1 = .afterStart start n
  fits : ∀ e ∈ events, ∀ span, some span ∈ e.2.written → (∃ n, span = .ofMilliseconds n) ∧
    LeaseClock.nanoseconds.Fits e.1 span ∧ LeaseClock.milliseconds.Fits e.1 span

theorem OnOneClock.of_prefix {β : Type} {start : Int} {events before : List (Moment × StoreUse β)}
    (clock : OnOneClock start events) (reached : before <+: events) : OnOneClock start before where
  inOrder := clock.inOrder.sublist reached.sublist
  told e mem := clock.told e (reached.subset mem)
  fits e mem := clock.fits e (reached.subset mem)

variable {β : Type} [DecidableEq β] {start : Int}

theorem endTogether_stores {now : Moment} {use : StoreUse β} (on : ∃ n, now = .afterStart start n)
    (fits : ∀ span, some span ∈ use.written → (∃ n, span = .ofMilliseconds n) ∧
      LeaseClock.nanoseconds.Fits now span ∧ LeaseClock.milliseconds.Fits now span) :
    EndTogether (MemoryStore β) (TableStore β) (∃ n, · = .afterStart start n) now use.written := by
  obtain ⟨n, rfl⟩ := on
  rintro (_ | span) mem m ⟨k, rfl⟩
  · rfl
  · obtain ⟨⟨j, rfl⟩, inMemory, inTable⟩ := fits span mem
    rw [RecordStore.isLive_eq, RecordStore.isLive_eq, RecordStore.ending_some,
      RecordStore.ending_some, MemoryStore.keepsTime inMemory, TableStore.keepsTime inTable,
      decide_eq_decide]
    simp only [LeaseClock.ending, LeaseClock.nanoseconds, LeaseClock.milliseconds,
      Moment.afterStart, Moment.calendar, Timestamp.milliseconds_ofMilliseconds,
      Duration.ofMilliseconds, Duration.milliseconds]
    omega

theorem alike_run {events : List (Moment × StoreUse β)} {now : Moment}
    (clock : OnOneClock start events) (before : ∀ e ∈ events, e.1 ≤ now)
    (on : ∃ n, now = .afterStart start n) :
    Alike (∃ n, · = .afterStart start n) now (StoreUse.run ({} : MemoryStore β) events)
      (StoreUse.run ({} : TableStore β) events) := by
  induction events using List.reverseRecOn generalizing now with
  | nil => exact fun k => .unseen rfl rfl
  | append_singleton events event ih =>
    have mem : event ∈ events ++ [event] := List.mem_concat_self
    have passed := (List.pairwise_append.1 clock.inOrder).2.2
    have earlier := ih (clock.of_prefix (List.prefix_append ..))
      (fun e he => passed e he event (List.mem_singleton_self _)) (clock.told event mem)
    rw [StoreUse.run_concat, StoreUse.run_concat]
    exact (earlier.perform (clock.told event mem) (endTogether_stores (clock.told event mem)
      (clock.fits event mem))).later (before event mem) on

/-- Whatever is done with two stores that are empty at first, they answer alike, but for a count of
what is purged and for an owner who gives up a claim after its time: the table still has it. -/
theorem answers_agree_iff {events before : List (Moment × StoreUse β)} {now : Moment}
    {use : StoreUse β} (clock : OnOneClock start events)
    (reached : before ++ [(now, use)] <+: events) (counted : use ≠ .purge) :
    (use.perform now (StoreUse.run ({} : MemoryStore β) before)).1 =
        (use.perform now (StoreUse.run ({} : TableStore β) before)).1 ↔
      ¬use.IsLate now (StoreUse.run ({} : TableStore β) before) := by
  have upTo := clock.of_prefix reached
  have passed := (List.pairwise_append.1 upTo.inOrder).2.2
  have alike := alike_run (upTo.of_prefix (List.prefix_append ..))
    (fun e he => passed e he _ (List.mem_singleton_self _))
    (upTo.told _ (List.mem_append_right _ (List.mem_singleton_self _)))
  exact alike.answer_eq_iff rfl rfl counted

/-! ## a claim that is given up late -/

namespace AgreementSample

def after (n : Nat) : Moment := .afterStart 0 n

/-- One owner's claim is taken over, and the other's is over when it is given up. -/
def events : List (Moment × StoreUse String) :=
  [(after 0, .under "lease" (.claim "early" (.ofMilliseconds 3))),
    (after 3, .under "lease" (.claim "late" (.ofMilliseconds 2))),
    (after 4, .publish "entry" "rows" (.ofMilliseconds 60) "lease" "early"),
    (after 5, .under "lease" (.release "early")),
    (after 5, .under "lease" (.release "late"))]

theorem onOneClock : OnOneClock 0 events where
  inOrder := by decide
  told := by
    simp only [events, List.forall_mem_cons, List.not_mem_nil, false_imp_iff, implies_true]
    exact ⟨⟨0, rfl⟩, ⟨3, rfl⟩, ⟨4, rfl⟩, ⟨5, rfl⟩, ⟨5, rfl⟩, trivial⟩
  fits := by
    simp only [events, List.forall_mem_cons, StoreUse.written, KeyUse.written, List.mem_singleton,
      Option.some.injEq, forall_eq, List.not_mem_nil, false_imp_iff, implies_true]
    exact ⟨⟨⟨3, rfl⟩, by decide⟩, ⟨⟨2, rfl⟩, by decide⟩, ⟨⟨60, rfl⟩, by decide⟩, trivial, trivial⟩

end AgreementSample

open AgreementSample in
/-- The late owner alone is answered otherwise. -/
theorem answers_agree_iff_given_up :
    OnOneClock 0 events ∧
      ((StoreUse.under "lease" (.release "early")).perform (after 5)
          (StoreUse.run ({} : MemoryStore String) (events.take 3))).1 =
        ((StoreUse.under "lease" (.release "early")).perform (after 5)
          (StoreUse.run ({} : TableStore String) (events.take 3))).1 ∧
      ((StoreUse.under "lease" (.release "late")).perform (after 5)
          (StoreUse.run ({} : MemoryStore String) (events.take 4))).1 ≠
        ((StoreUse.under "lease" (.release "late")).perform (after 5)
          (StoreUse.run ({} : TableStore String) (events.take 4))).1 := by
  refine ⟨onOneClock, (answers_agree_iff onOneClock ⟨_, rfl⟩ (by rintro ⟨⟩)).2 ?_, fun same =>
    (answers_agree_iff onOneClock ⟨[], rfl⟩ (by rintro ⟨⟩)).1 same ?_⟩
  · rintro ⟨key, owner, same, expiry, record, -⟩
    cases same
    have row : (StoreUse.run ({} : TableStore String) (events.take 3)).record? "lease" =
      some ("late", some 5) := by decide
    have owners := (Prod.mk.inj (Option.some.inj (row.symm.trans record))).1
    exact absurd owners (by decide)
  · have row : (StoreUse.run ({} : TableStore String) (events.take 4)).record? "lease" =
      some ("late", some 5) := by decide
    exact ⟨"lease", "late", rfl, some 5, row, by decide⟩

/-- The table gives up a claim that was for no time at all; the store in memory does not. -/
theorem answers_differ_given_up_late :
    ¬∀ (start : Int) (events before : List (Moment × StoreUse String)) (now : Moment)
        (use : StoreUse String), OnOneClock start events → before ++ [(now, use)] <+: events →
      use ≠ .purge →
        (use.perform now (StoreUse.run ({} : MemoryStore String) before)).1 =
          (use.perform now (StoreUse.run ({} : TableStore String) before)).1 := by
  intro alike
  have clock : OnOneClock 0 [(.afterStart 0 0, .under "lease" (.claim "a" .zero)),
      (.afterStart 0 0, .under "lease" (.release "a"))] := by
    refine ⟨by decide, ?_, ?_⟩
    · simp only [List.forall_mem_cons, List.not_mem_nil, false_imp_iff, implies_true]
      exact ⟨⟨0, rfl⟩, ⟨0, rfl⟩, trivial⟩
    · simp only [List.forall_mem_cons, StoreUse.written, KeyUse.written, List.mem_singleton,
        Option.some.injEq, forall_eq, List.not_mem_nil, false_imp_iff, implies_true]
      exact ⟨⟨⟨0, rfl⟩, by decide⟩, trivial⟩
  have answers := alike 0 _ [_] _ (.under "lease" (.release "a")) clock ⟨[], rfl⟩ nofun
  exact Bool.false_ne_true (StoreAnswer.success.inj answers)

end AnalyticsGateway
