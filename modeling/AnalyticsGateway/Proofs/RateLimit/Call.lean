import AnalyticsGateway.Proofs.Cache.Key
import AnalyticsGateway.Proofs.Except
import AnalyticsGateway.Proofs.Store.Uses
import AnalyticsGateway.RateLimit.Limiter

/-!
# Calls of a rate limiter

A call is answered by the record of its bucket and changes no other one (`TokenCall.follows`). It is
allowed exactly if its update writes (`TokenCall.decide_eq_ok`): the answer is made a second time,
of the value that the update has met, and the second time it is the same.
-/

namespace AnalyticsGateway

open SharedStore LawfulStore

/-! ## names of buckets -/

/-- Whose bucket it is, and for which requests. -/
structure BucketName where
  route : Route
  apiKey : String
deriving DecidableEq

def BucketName.key (bucket : BucketName) : String :=
  RateLimiter.bucketKey bucket.route bucket.apiKey

theorem RateLimiter.toList_bucketKey (route : Route) (apiKey : String) :
    (bucketKey route apiKey).toList =
      "ratelimit:".toList ++ (route.name.toList ++ ':' :: apiKey.toList) := by
  have text : bucketKey route apiKey = "ratelimit:" ++ route.name ++ ":" ++ apiKey := rfl
  simp [text]

/-- Colons in an API key do not make the names of two buckets the same. -/
theorem BucketName.key_inj {a b : BucketName} (h : a.key = b.key) : a = b := by
  obtain ⟨route, apiKey⟩ := a
  obtain ⟨route', apiKey'⟩ := b
  have texts := congrArg String.toList h
  rw [key, key, RateLimiter.toList_bucketKey, RateLimiter.toList_bucketKey,
    List.append_cancel_left_eq] at texts
  have routes : route = route' := by
    have first := congrArg List.head? texts
    revert first
    cases route <;> cases route' <;> simp [Route.name]
  subst routes
  have keys : apiKey.toList = apiKey'.toList :=
    (List.cons.inj (List.append_cancel_left texts)).2
  rw [String.toList_inj.1 keys]

theorem not_owns_bucketKey (route : Route) (keyId : String) :
    ¬CacheKey.Owns (RateLimiter.bucketKey route keyId) := by
  rintro ⟨rest, h⟩
  have first := congrArg List.head? h
  rw [RateLimiter.toList_bucketKey] at first
  simp [CacheKey.namePrefix] at first

/-! ## calls -/

theorem Bucket.take_eq_allowed {α : Type} [Tokens α] (settings : BucketSettings α) (now : Int)
    (previous : Option (Bucket α)) :
    (take settings now previous).1 = .allowed ↔ ∃ b, (take settings now previous).2 = some b := by
  unfold take
  simp only
  split <;> simp

/-- A call to take a token from a bucket. -/
structure TokenCall where
  bucket : BucketName
  circumstances : Circumstances
  /-- The millisecond of the calendar that the caller goes by. -/
  stamp : Int

namespace TokenCall

variable {α β ε σ : Type} [Tokens α]

def now (call : TokenCall) : Moment := call.circumstances.now

/-- The call's update gets through to the store. -/
def Arrives (call : TokenCall) : Prop := .update ∉ call.circumstances.failing

instance (call : TokenCall) : Decidable call.Arrives :=
  inferInstanceAs (Decidable (_ ∉ _))

def perform [SharedStore σ β] (limiter : RateLimiter α) (codec : BucketCodec α β)
    (call : TokenCall) (s : σ) : Except StoreError Admission × σ :=
  limiter.takeTokenAt codec call.circumstances call.bucket.apiKey call.bucket.route call.stamp s

/-- The rules of buckets for what a call finds in the store. -/
def decide (limiter : RateLimiter α) (codec : BucketCodec α β) (call : TokenCall)
    (met : Option β) : Except StoreError (Admission × Option β) :=
  RateLimiter.decide codec (limiter.settings call.bucket.route) call.stamp met

/-- The call's update writes a value over a record. -/
def Writes (limiter : RateLimiter α) (codec : BucketCodec α β) (rules : RecordRules ε)
    (call : TokenCall) (record : Option (β × ε)) (value : β) : Prop :=
  call.Arrives ∧
    (call.decide limiter codec (rules.value? call.now record)).map (·.2) = .ok (some value)

/-- When the time of a value is over that the call writes. -/
def ending (limiter : RateLimiter α) (rules : RecordRules ε) (call : TokenCall) : ε :=
  rules.ending call.now (limiter.settings call.bucket.route).idleTime?

/-- The answer to a call by the record of its bucket, and the record after it. -/
def onRecord (limiter : RateLimiter α) (codec : BucketCodec α β) (rules : RecordRules ε)
    (call : TokenCall) (record : Option (β × ε)) : Except StoreError Admission × Option (β × ε) :=
  if call.Arrives then
    match call.decide limiter codec (rules.value? call.now record) with
    | .error e => (.error e, record)
    | .ok (admission, written) =>
      (.ok admission, (written.map fun value => (value, call.ending limiter rules)).or record)
  else (.error (.backend "update is down"), record)

variable {limiter : RateLimiter α} {codec : BucketCodec α β} {call : TokenCall}

theorem decide_eq_ok {met : Option β} {admission : Admission} {written : Option β}
    (h : call.decide limiter codec met = .ok (admission, written)) :
    admission = .allowed ↔ ∃ value, written = some value := by
  obtain ⟨previous, -, taken⟩ := bind_eq_ok.1 h
  have allowed := Bucket.take_eq_allowed (limiter.settings call.bucket.route) call.stamp previous
  generalize Bucket.take (limiter.settings call.bucket.route) call.stamp previous = b
    at taken allowed
  cases taken
  simpa using allowed

theorem onRecord_of_writes {rules : RecordRules ε} {record : Option (β × ε)} {value : β}
    (writes : call.Writes limiter codec rules record value) :
    call.onRecord limiter codec rules record =
      (.ok .allowed, some (value, call.ending limiter rules)) := by
  obtain ⟨arrives, wrote⟩ := writes
  rw [onRecord, if_pos arrives]
  cases decided : call.decide limiter codec (rules.value? call.now record) with
  | error e =>
    rw [decided] at wrote
    cases wrote
  | ok taken =>
    obtain ⟨admission, written⟩ := taken
    rw [decided] at wrote
    obtain rfl : written = some value := Except.ok.inj wrote
    obtain rfl := (decide_eq_ok decided).2 ⟨value, rfl⟩
    rfl

theorem onRecord_of_not_writes {rules : RecordRules ε} {record : Option (β × ε)}
    (none : ¬∃ value, call.Writes limiter codec rules record value) :
    ∃ answer, answer ≠ .ok .allowed ∧
      call.onRecord limiter codec rules record = (answer, record) := by
  by_cases arrives : call.Arrives
  · rw [onRecord, if_pos arrives]
    simp only [Writes, arrives, true_and] at none
    cases decided : call.decide limiter codec (rules.value? call.now record) with
    | error e => exact ⟨.error e, nofun, rfl⟩
    | ok taken =>
      obtain ⟨admission, written⟩ := taken
      rw [decided] at none
      have denied : admission ≠ .allowed := fun allowed =>
        none (((decide_eq_ok decided).1 allowed).imp fun value wrote => congrArg Except.ok wrote)
      cases written with
      | some value => exact absurd ⟨value, rfl⟩ none
      | none => exact ⟨.ok admission, fun allowed => denied (Except.ok.inj allowed), rfl⟩
  · rw [onRecord, if_neg arrives]
    exact ⟨.error (.backend "update is down"), nofun, rfl⟩

/-- Of a record a call sees what is seen at its moment. -/
theorem seen_onRecord (limiter : RateLimiter α) (codec : BucketCodec α β) {rules : RecordRules ε}
    (call : TokenCall) {r s : Option (β × ε)} {later : Moment} (le : call.now ≤ later)
    (same : rules.seen call.now r = rules.seen call.now s) :
    rules.seen later (call.onRecord limiter codec rules r).2 =
      rules.seen later (call.onRecord limiter codec rules s).2 := by
  have after := RecordRules.seen_eq_of_le le same
  rw [onRecord, onRecord, RecordRules.value?_of_seen_eq same]
  split
  · cases call.decide limiter codec (rules.value? call.now s) with
    | error e => exact after
    | ok taken =>
      obtain ⟨admission, written⟩ := taken
      cases written with
      | none => exact after
      | some value => rfl
  · exact after

/-! ## calls on a store -/

section Store

variable [SharedStore σ β] [LawfulStore σ] [DecidableEq β] [RecordStore σ]

open RecordStore (rules)

omit [LawfulStore σ] [DecidableEq β] [RecordStore σ] in
theorem perform_of_not_arrives (down : ¬call.Arrives) (s : σ) :
    call.perform limiter codec s = (.error (.backend "update is down"), s) := by
  have failing : .update ∈ call.circumstances.failing := Decidable.not_not.1 down
  simp only [perform, RateLimiter.takeTokenAt, Circumstances.attempt, if_pos failing]
  rfl

omit [LawfulStore σ] [DecidableEq β] [RecordStore σ] in
/-- The answer to a call that gets through is the one to what its update has met. -/
theorem perform_of_arrives (arrives : call.Arrives) (s : σ) :
    let updated := SharedStore.update call.now call.bucket.key
      (limiter.settings call.bucket.route).idleTime?
      (fun met => (call.decide limiter codec met).map (·.2)) s
    call.perform limiter codec s =
      ((do return (← call.decide limiter codec (← updated.1)).1), updated.2) := by
  simp only [perform, RateLimiter.takeTokenAt, Circumstances.attempt_of_working _ _ arrives]
  rfl

/-- A call is answered by the record of its bucket, and changes that one alone. -/
theorem follows (limiter : RateLimiter α) (codec : BucketCodec α β) (call : TokenCall) (s : σ) :
    (call.perform limiter codec s).1 =
        (call.onRecord limiter codec rules (record? s call.bucket.key)).1 ∧
      ∀ k, record? (call.perform limiter codec s).2 k =
        if call.bucket.key = k then
          (call.onRecord limiter codec rules (record? s call.bucket.key)).2
        else record? s k := by
  by_cases arrives : call.Arrives
  · have updates := RecordStore.follows_update call.now call.bucket.key
      (limiter.settings call.bucket.route).idleTime?
      (fun met => (call.decide limiter codec met).map (·.2)) s
    rw [KeyUse.FollowsRecord, KeyUse.perform] at updates
    rw [perform_of_arrives arrives, onRecord, if_pos arrives]
    generalize SharedStore.update call.now call.bucket.key _ _ s = updated at updates ⊢
    obtain ⟨answer, records⟩ := updates
    simp only [KeyUse.onRecord] at answer records
    cases decided : call.decide limiter codec ((rules (σ := σ)).value? call.now
      (record? s call.bucket.key)) with
    | error e =>
      rw [decided] at answer records
      have answered : updated.1 = .error e := StoreAnswer.found.inj answer
      rw [answered]
      exact ⟨rfl, records⟩
    | ok taken =>
      obtain ⟨admission, written⟩ := taken
      have answered : updated.1 = .ok ((rules (σ := σ)).value? call.now
          (record? s call.bucket.key)) := by
        rw [decided] at answer
        cases written <;> exact StoreAnswer.found.inj answer
      rw [decided] at records
      constructor
      · simp only [answered, bind, Except.bind, decided]
        rfl
      · cases written <;> exact records
  · rw [perform_of_not_arrives arrives, onRecord, if_neg arrives]
    exact ⟨rfl, fun k => (ite_at (record? s) call.bucket.key k).symm⟩

end Store

end TokenCall

end AnalyticsGateway
