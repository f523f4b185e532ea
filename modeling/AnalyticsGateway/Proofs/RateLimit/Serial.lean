import AnalyticsGateway.Proofs.RateLimit.Call
import Mathlib.Data.List.Induction

/-!
# Limiters and caches over one store

Limiters and caches of any processes use one store in any order. What a bucket's record is then, its
own calls tell, one after the other, and how late values have been purged (`ledger`): neither the
calls on other buckets nor the caches have a part in it, nor do calls in what the caches find
(`admissions_serialized`).
-/

namespace AnalyticsGateway

open SharedStore LawfulStore

/-! ## events -/

/-- What happens to the store: a limiter's call, or a use of whatever kind by a cache. -/
inductive SharedEvent (β : Type) where
  | call (call : TokenCall)
  | cache (now : Moment) (use : StoreUse β)

inductive SharedAnswer (β : Type) where
  | admission (answer : Except StoreError Admission)
  | cache (answer : StoreAnswer β)

namespace SharedEvent

variable {α β ε σ : Type} [Tokens α]

def moment : SharedEvent β → Moment
  | call c => c.now
  | cache now _ => now

def isCache : SharedEvent β → Bool
  | call _ => false
  | cache .. => true

def isCallOf (bucket : BucketName) : SharedEvent β → Bool
  | call c => c.bucket = bucket
  | cache .. => false

/-- The caches keep to the keys that are theirs. -/
def KeepsApart : SharedEvent β → Prop
  | call _ => True
  | cache _ use => ∀ key ∈ use.keys, CacheKey.Owns key

def perform [SharedStore σ β] (limiter : RateLimiter α) (codec : BucketCodec α β) (s : σ) :
    SharedEvent β → SharedAnswer β × σ
  | call c => (c.perform limiter codec s).map .admission id
  | cache now use => (use.perform now s).map .cache id

/-- The store after events in a row. -/
def run [SharedStore σ β] (limiter : RateLimiter α) (codec : BucketCodec α β) (s : σ)
    (events : List (SharedEvent β)) : σ :=
  events.foldl (fun s e => (e.perform limiter codec s).2) s

theorem run_concat [SharedStore σ β] (limiter : RateLimiter α) (codec : BucketCodec α β) (s : σ)
    (events : List (SharedEvent β)) (e : SharedEvent β) :
    run limiter codec s (events ++ [e]) =
      (e.perform limiter codec (run limiter codec s events)).2 := by
  rw [run, run, List.foldl_append, List.foldl_cons, List.foldl_nil]

/-! ## the ledger of a bucket -/

/-- The record of a bucket after an event, by the record before it. -/
def onBucket (limiter : RateLimiter α) (codec : BucketCodec α β) (rules : RecordRules ε)
    (bucket : BucketName) (record : Option (β × ε)) : SharedEvent β → Option (β × ε)
  | call c => if c.bucket = bucket then (c.onRecord limiter codec rules record).2 else record
  | cache now .purge => rules.seen now record
  | cache .. => record

/-- The record of a bucket by its calls one after the other, and by the purges. -/
def ledger (limiter : RateLimiter α) (codec : BucketCodec α β) (rules : RecordRules ε)
    (bucket : BucketName) (record : Option (β × ε)) (events : List (SharedEvent β)) :
    Option (β × ε) :=
  events.foldl (onBucket limiter codec rules bucket) record

theorem ledger_concat (limiter : RateLimiter α) (codec : BucketCodec α β) (rules : RecordRules ε)
    (bucket : BucketName) (record : Option (β × ε)) (events : List (SharedEvent β))
    (e : SharedEvent β) : ledger limiter codec rules bucket record (events ++ [e]) =
      e.onBucket limiter codec rules bucket (ledger limiter codec rules bucket record events) := by
  rw [ledger, ledger, List.foldl_append, List.foldl_cons, List.foldl_nil]

section Stored

variable [SharedStore σ β] [LawfulStore σ] [DecidableEq β] [RecordStore σ]

open RecordStore (rules)

theorem record?_perform_bucket (limiter : RateLimiter α) (codec : BucketCodec α β)
    {e : SharedEvent β} (apart : e.KeepsApart) (bucket : BucketName) (s : σ) :
    record? (e.perform limiter codec s).2 bucket.key =
      e.onBucket limiter codec rules bucket (record? s bucket.key) := by
  cases e with
  | call c =>
    rw [onBucket]
    refine ((c.follows limiter codec s).2 bucket.key).trans ?_
    by_cases own : c.bucket = bucket
    · rw [own, if_pos rfl, if_pos rfl]
    · rw [if_neg (own ∘ BucketName.key_inj), if_neg own]
  | cache now use =>
    have other : bucket.key ∉ use.keys := fun mem => not_owns_bucketKey _ _ (apart _ mem)
    cases use with
    | purge => exact RecordStore.record?_purge_eq now s bucket.key
    | under key use => exact RecordStore.record?_perform_of_not_mem other nofun s
    | publish => exact RecordStore.record?_perform_of_not_mem other nofun s

theorem record?_run_bucket (limiter : RateLimiter α) (codec : BucketCodec α β) (s : σ)
    {events : List (SharedEvent β)} (apart : ∀ e ∈ events, e.KeepsApart) (bucket : BucketName) :
    record? (run limiter codec s events) bucket.key =
      ledger limiter codec rules bucket (record? s bucket.key) events := by
  induction events using List.reverseRecOn with
  | nil => rfl
  | append_singleton events e ih =>
    rw [List.forall_mem_append, List.forall_mem_singleton] at apart
    rw [run_concat, ledger_concat, record?_perform_bucket limiter codec apart.2, ih apart.1]

/-! ## what the caches find -/

/-- A call leaves the records that are the caches'. -/
theorem record?_call_of_owns (limiter : RateLimiter α) (codec : BucketCodec α β) {c : TokenCall}
    {k : String} (own : CacheKey.Owns k) (s : σ) :
    record? (perform limiter codec s (call c)).2 k = record? s k := by
  refine ((c.follows limiter codec s).2 k).trans (if_neg fun same => ?_)
  exact not_owns_bucketKey _ _ (same ▸ own)

theorem record?_run_of_owns (limiter : RateLimiter α) (codec : BucketCodec α β) (s : σ)
    {events : List (SharedEvent β)} (apart : ∀ e ∈ events, e.KeepsApart) {k : String}
    (own : CacheKey.Owns k) : record? (run limiter codec s events) k =
      record? (run limiter codec s (events.filter isCache)) k := by
  induction events using List.reverseRecOn generalizing k with
  | nil => rfl
  | append_singleton events e ih =>
    rw [List.forall_mem_append, List.forall_mem_singleton] at apart
    rw [List.filter_append, run_concat]
    cases e with
    | call c => rw [record?_call_of_owns limiter codec own, ih apart.1 own, List.filter_singleton,
        isCache, cond_false, List.append_nil]
    | cache now use =>
      rw [List.filter_singleton, isCache, cond_true, run_concat]
      exact RecordStore.record?_use_congr (fun key mem => ih apart.1 (apart.2 key mem))
        (ih apart.1 own) now

end Stored

/-! ## purges -/

/-- Under a clock that never goes back, the calls of a bucket tell alone what is seen of it. -/
theorem seen_ledger (limiter : RateLimiter α) (codec : BucketCodec α β) {rules : RecordRules ε}
    (bucket : BucketName) (record : Option (β × ε)) {events : List (SharedEvent β)}
    (inOrder : (events.map moment).Pairwise (· ≤ ·)) {now : Moment}
    (before : ∀ e ∈ events, e.moment ≤ now) :
    rules.seen now (ledger limiter codec rules bucket record events) =
      rules.seen now
        (ledger limiter codec rules bucket record (events.filter (isCallOf bucket))) := by
  induction events using List.reverseRecOn generalizing now with
  | nil => rfl
  | append_singleton events e ih =>
    rw [List.map_append, List.pairwise_append] at inOrder
    rw [List.forall_mem_append, List.forall_mem_singleton] at before
    have earlier := ih inOrder.1 fun e' mem =>
      inOrder.2.2 _ (List.mem_map_of_mem mem) e.moment (List.mem_singleton_self _)
    have later := RecordRules.seen_eq_of_le before.2 earlier
    rw [List.filter_append, ledger_concat]
    cases e with
    | call c =>
      by_cases own : c.bucket = bucket
      · have kept : [call c].filter (isCallOf (β := β) bucket) = [call c] :=
          List.filter_cons_of_pos (decide_eq_true own)
        rw [kept, ledger_concat, onBucket, onBucket, if_pos own, if_pos own]
        exact c.seen_onRecord limiter codec before.2 earlier
      · have dropped : [call c].filter (isCallOf (β := β) bucket) = [] :=
          List.filter_cons_of_neg (by simpa [isCallOf] using own)
        rw [dropped, List.append_nil, onBucket, if_neg own]
        exact later
    | cache at_ use =>
      have dropped : [cache at_ use].filter (isCallOf bucket) = [] := rfl
      rw [dropped, List.append_nil]
      cases use with
      | purge => exact (RecordRules.seen_seen before.2 _).trans later
      | under key use => exact later
      | publish => exact later

end SharedEvent

/-! ## the theorem -/

section Serialized

variable {α β σ : Type} [Tokens α] [SharedStore σ β] [LawfulStore σ] [DecidableEq β]
  [RecordStore σ]

open RecordStore (rules)

/-- A call at a state of the store is allowed exactly if its update writes its bucket, else it
leaves all records; and it reads and writes its own bucket only. -/
structure TokenCall.IsIsolated (limiter : RateLimiter α) (codec : BucketCodec α β)
    (call : TokenCall) (s : σ) : Prop where
  allowed_iff : (call.perform limiter codec s).1 = .ok .allowed ↔
    ∃ value, call.Writes limiter codec rules (record? s call.bucket.key) value
  written : ∀ value, call.Writes limiter codec rules (record? s call.bucket.key) value →
    record? (call.perform limiter codec s).2 call.bucket.key =
      some (value, call.ending limiter rules)
  kept : (call.perform limiter codec s).1 ≠ .ok .allowed →
    ∀ k, record? (call.perform limiter codec s).2 k = record? s k
  others : ∀ k, k ≠ call.bucket.key →
    record? (call.perform limiter codec s).2 k = record? s k
  reads : ∀ t : σ, record? t call.bucket.key = record? s call.bucket.key →
    (call.perform limiter codec t).1 = (call.perform limiter codec s).1 ∧
      record? (call.perform limiter codec t).2 call.bucket.key =
        record? (call.perform limiter codec s).2 call.bucket.key

theorem TokenCall.isIsolated (limiter : RateLimiter α) (codec : BucketCodec α β)
    (call : TokenCall) (s : σ) : call.IsIsolated limiter codec s := by
  obtain ⟨answer, records⟩ := call.follows limiter codec s
  have own := (records call.bucket.key).trans (if_pos rfl)
  have others (k : String) (other : k ≠ call.bucket.key) :
      record? (call.perform limiter codec s).2 k = record? s k :=
    (records k).trans (if_neg other.symm)
  have reads (t : σ) (same : record? t call.bucket.key = record? s call.bucket.key) :
      (call.perform limiter codec t).1 = (call.perform limiter codec s).1 ∧
        record? (call.perform limiter codec t).2 call.bucket.key =
          record? (call.perform limiter codec s).2 call.bucket.key := by
    obtain ⟨answer', records'⟩ := call.follows limiter codec t
    exact ⟨by rw [answer, answer', same], by rw [own, records', if_pos rfl, same]⟩
  by_cases wrote : ∃ value, call.Writes limiter codec rules (record? s call.bucket.key) value
  · have allowed : (call.perform limiter codec s).1 = .ok .allowed := by
      obtain ⟨value, writes⟩ := wrote
      rw [answer, TokenCall.onRecord_of_writes writes]
    exact {
      allowed_iff := iff_of_true allowed wrote
      written := fun value writes => by rw [own, TokenCall.onRecord_of_writes writes]
      kept := fun denied => absurd allowed denied
      others, reads }
  · obtain ⟨other, denied, outcome⟩ := TokenCall.onRecord_of_not_writes wrote
    rw [outcome] at answer own
    exact {
      allowed_iff := iff_of_false (answer ▸ denied) wrote
      written := fun value writes => absurd ⟨value, writes⟩ wrote
      kept := fun _ k => if same : k = call.bucket.key then same ▸ own else others k same
      others, reads }

/-- What calls and caches make of a store in a row: each bucket holds what its own calls have made
of it, each call is isolated, and the caches find what they find without any calls. -/
structure SharedEvent.IsSerialized (limiter : RateLimiter α) (codec : BucketCodec α β) (s : σ)
    (events : List (SharedEvent β)) : Prop where
  stored : ∀ bucket : BucketName, record? (run limiter codec s events) bucket.key =
    ledger limiter codec rules bucket (record? s bucket.key) events
  /-- Purges are not noticed under a clock that never goes back. -/
  seen : (events.map moment).Pairwise (· ≤ ·) → ∀ now, (∀ e ∈ events, e.moment ≤ now) →
    ∀ bucket : BucketName, rules.seen now (record? (run limiter codec s events) bucket.key) =
      rules.seen now (ledger limiter codec rules bucket (record? s bucket.key)
        (events.filter (isCallOf bucket)))
  isolated : ∀ call : TokenCall, call.IsIsolated limiter codec (run limiter codec s events)
  cached : ∀ k, CacheKey.Owns k → record? (run limiter codec s events) k =
    record? (run limiter codec s (events.filter isCache)) k
  answered : ∀ now (use : StoreUse β), (cache now use).KeepsApart → use ≠ .purge →
    (use.perform now (run limiter codec s events)).1 =
      (use.perform now (run limiter codec s (events.filter isCache))).1

/-- However calls on any buckets and uses by the caches follow each other. The names of buckets are
all different, and none is the caches'. -/
theorem admissions_serialized (limiter : RateLimiter α) (codec : BucketCodec α β) (s : σ)
    {events : List (SharedEvent β)} (apart : ∀ e ∈ events, e.KeepsApart) :
    SharedEvent.IsSerialized limiter codec s events ∧
      (∀ a b : BucketName, a.key = b.key → a = b) ∧
        ∀ bucket : BucketName, ¬CacheKey.Owns bucket.key := by
  have stored := SharedEvent.record?_run_bucket limiter codec s apart
  have cached {k : String} (own : CacheKey.Owns k) :=
    SharedEvent.record?_run_of_owns limiter codec s apart own
  refine ⟨?_, fun a b => BucketName.key_inj, fun bucket => not_owns_bucketKey _ _⟩
  constructor
  · exact stored
  · intro inOrder now before bucket
    rw [stored, SharedEvent.seen_ledger limiter codec bucket _ inOrder before]
  · exact fun call => call.isIsolated limiter codec _
  · exact fun k own => cached own
  · exact fun now use keeps counted =>
      RecordStore.answer_use_congr (fun key mem => cached (keeps key mem)) counted now

end Serialized

/-! ## two limiters and a cache -/

namespace SerialSample

def limiter : RateLimiter Float := ⟨⟨10, 0.5⟩, ⟨20, 1⟩⟩

def after (n : Nat) : Moment := ⟨.ofMilliseconds n, .ofMilliseconds n⟩

/-- One update fails, and what a limiter goes by is behind what the store goes by. -/
def events : List (SharedEvent String) :=
  [.call ⟨⟨.query, "a:b"⟩, ⟨after 0, []⟩, 0⟩,
    .cache (after 1) (.under "qc:v1:00:lease" (.claim "0" (.ofSeconds 5))),
    .call ⟨⟨.metadata, "a:b"⟩, ⟨after 2, [.update]⟩, 2⟩,
    .cache (after 3) (.publish "qc:v1:00:entry" "rows" (.ofSeconds 60) "qc:v1:00:lease" "0"),
    .call ⟨⟨.query, "a:b"⟩, ⟨after 4, []⟩, 1⟩,
    .cache (after 5) .purge]

theorem keepApart : ∀ e ∈ events, e.KeepsApart := by
  simp only [events, List.forall_mem_cons, SharedEvent.KeepsApart, StoreUse.keys, CacheKey.Owns,
    List.not_mem_nil, false_imp_iff, implies_true]
  decide

end SerialSample

open SerialSample in
theorem admissions_serialized_in_memory :
    (∀ e ∈ events, e.KeepsApart) ∧
      SharedEvent.IsSerialized limiter Bucket.textCodec ({} : MemoryStore String) events :=
  ⟨keepApart,
    (admissions_serialized limiter Bucket.textCodec ({} : MemoryStore String) keepApart).1⟩

end AnalyticsGateway
