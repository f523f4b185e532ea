import AnalyticsGateway.Proofs.RateLimit.Budget

/-!
# How long a denied caller waits

With exact numbers, a caller who is denied and waits as long as it is told finds a token, but for
one case: the wait is a whole number of milliseconds to the nanosecond it is rounded to, the caller
comes at its very end, and what was rounded off is worth more than the tolerance
(`allowed_after_wait_iff`). This takes a rate of more than two tokens a second. A caller who comes
so late that 64 bits do not hold the milliseconds since the last token finds none either.
-/

namespace AnalyticsGateway

open SharedStore LawfulStore

/-! ## rounding -/

theorem roundQuotient_bounds (numerator : Nat) {denominator : Nat} (pos : 0 < denominator) :
    2 * (roundQuotient numerator denominator * denominator) ≤ 2 * numerator + denominator ∧
      2 * numerator ≤ 2 * (roundQuotient numerator denominator * denominator) + denominator := by
  have parts := Nat.div_add_mod' numerator denominator
  have rest := Nat.mod_lt numerator pos
  unfold roundQuotient
  simp only [Bool.or_eq_true, Bool.and_eq_true, decide_eq_true_eq, beq_iff_eq]
  split
  · rename_i below
    omega
  · rename_i above
    rw [Nat.add_mul]
    omega

/-- Seconds are told to the nearest nanosecond. -/
theorem Tokens.roundQuotient_seconds {x : Rat} (nonneg : 0 ≤ x) :
    (roundQuotient (x.num.toNat * 1000000000) x.den : Rat) ≤ x * 1000000000 + 1 / 2 ∧
      x * 1000000000 ≤ roundQuotient (x.num.toNat * 1000000000) x.den + 1 / 2 := by
  have den : (0 : Rat) < x.den := Nat.cast_pos.2 x.den_pos
  have num : ((x.num.toNat : Nat) : Rat) = x * x.den := by
    have whole : ((x.num.toNat : Nat) : Int) = x.num :=
      Int.toNat_of_nonneg (Rat.num_nonneg.2 nonneg)
    rw [← Int.cast_natCast, whole, Rat.mul_den_eq_num]
  obtain ⟨upper, lower⟩ := roundQuotient_bounds (x.num.toNat * 1000000000) x.den_pos
  generalize roundQuotient (x.num.toNat * 1000000000) x.den = n at upper lower ⊢
  have upper : 2 * ((n : Rat) * x.den) ≤ 2 * (x * x.den * 1000000000) + x.den := by
    rw [← num]
    exact_mod_cast upper
  have lower : 2 * (x * x.den * 1000000000) ≤ 2 * ((n : Rat) * x.den) + x.den := by
    rw [← num]
    exact_mod_cast lower
  exact ⟨le_of_mul_le_mul_right (by linarith) den, le_of_mul_le_mul_right (by linarith) den⟩

/-- Not too many seconds are told. -/
theorem Tokens.seconds?_eq_some {x : Rat} (nonneg : 0 ≤ x) (bound : x ≤ 1000) :
    ∃ n : Nat, Tokens.seconds? x = some ⟨n⟩ ∧
      (n : Rat) ≤ x * 1000000000 + 1 / 2 ∧ x * 1000000000 ≤ n + 1 / 2 := by
  obtain ⟨le, ge⟩ := roundQuotient_seconds nonneg
  generalize hn : roundQuotient (x.num.toNat * 1000000000) x.den = n at le ge
  refine ⟨n, ?_, le, ge⟩
  have fits : n ≤ wordSize 64 * 1000000000 - 1 := by
    have small : (n : Rat) ≤ 1000000000001 := by linarith
    have small : n ≤ 1000000000001 := by exact_mod_cast small
    rw [wordSize_64]
    omega
  change (if x < 0 then none else Duration.ofQuotient? x.num.toNat x.den) = _
  rw [if_neg (not_lt.2 nonneg), Duration.ofQuotient?, hn]
  exact if_pos fits

/-- What is told is short by half a nanosecond at most. -/
theorem Tokens.le_of_seconds? {x : Rat} {d : Duration} (told : Tokens.seconds? x = some d) :
    x * 1000000000 ≤ d.nanoseconds + 1 / 2 := by
  change (if x < 0 then none else Duration.ofQuotient? x.num.toNat x.den) = some d at told
  split at told
  · cases told
  · rename_i nonneg
    rw [Duration.ofQuotient?] at told
    split at told
    · cases told
      exact (roundQuotient_seconds (not_lt.1 nonneg)).2
    · cases told

/-! ## one bucket -/

namespace Bucket

variable {settings : BucketSettings Rat} {b : Bucket Rat}

/-- When the wait is over there is still less than a token. -/
def FallsShort (settings : BucketSettings Rat) (b : Bucket Rat) (wait : Duration) : Prop :=
  b.tokens + wait.nanoseconds / 1000000000 * settings.rate + Tokens.tolerance < 1

instance (settings : BucketSettings Rat) (b : Bucket Rat) (wait : Duration) :
    Decidable (b.FallsShort settings wait) :=
  inferInstanceAs (Decidable (_ < _))

theorem tokens_lt_of_empty (empty : b.hasToken = false) : b.tokens + Tokens.tolerance < 1 := by
  have few : ¬1 ≤ b.tokens + Tokens.tolerance :=
    fun enough => Bool.false_ne_true (empty.symm.trans (hasToken_iff.2 enough))
  exact not_le.1 few

theorem fills_of_rate (rate : 1 / 1000 ≤ settings.rate) : settings.fills = true := by
  have pos : (0 : Rat) < settings.rate := lt_of_lt_of_le (by norm_num) rate
  simpa [BucketSettings.fills, Tokens.isBelow, Tokens.ofInt] using pos

/-- The wait is the time in which what is missing flows in, rounded. -/
theorem wait_eq (nonneg : 0 ≤ b.tokens) (rate : 1 / 1000 ≤ settings.rate)
    (empty : b.hasToken = false) :
    ∃ n : Nat, b.wait settings = ⟨n⟩ ∧
      1 - b.tokens ≤ ((n : Rat) + 1 / 2) / 1000000000 * settings.rate := by
  have pos : (0 : Rat) < settings.rate := lt_of_lt_of_le (by norm_num) rate
  have less := tokens_lt_of_empty empty
  have missing : 0 ≤ 1 - b.tokens := by linarith [tolerance_eq]
  have short : (1 - b.tokens) / settings.rate ≤ 1000 := by
    rw [div_le_iff₀ pos]
    linarith
  obtain ⟨n, told, -, lower⟩ := Tokens.seconds?_eq_some (div_nonneg missing pos.le) short
  refine ⟨n, ?_, ?_⟩
  · have larger : Tokens.larger ((Tokens.ofInt 1 : Rat) - b.tokens) (Tokens.ofInt 0) =
        1 - b.tokens := by
      rw [larger_eq_max]
      simpa [Tokens.ofInt] using missing
    have seconds : b.wait settings =
        (Tokens.seconds? ((1 - b.tokens) / settings.rate)).getD .max := by
      rw [wait, if_pos (fills_of_rate rate), larger]
    rw [seconds, told, Option.getD_some]
  · have exact : (1 - b.tokens) / settings.rate ≤ ((n : Rat) + 1 / 2) / 1000000000 :=
      (le_div_iff₀ (by norm_num)).2 lower
    exact (div_le_iff₀ pos).1 exact

/-- At two tokens a second or less no wait is too short. -/
theorem not_fallsShort_of_rate_le (nonneg : 0 ≤ b.tokens) (rate : 1 / 1000 ≤ settings.rate)
    (slow : settings.rate ≤ 2) (empty : b.hasToken = false) :
    ¬b.FallsShort settings (b.wait settings) := by
  obtain ⟨n, told, missing⟩ := wait_eq nonneg rate empty
  rw [told, FallsShort, not_lt]
  change 1 ≤ b.tokens + (n : Rat) / 1000000000 * settings.rate + Tokens.tolerance
  linarith [tolerance_eq]

/-- What flows into an empty bucket is what the time brings. -/
theorem hasToken_later_iff (capacity : 1 ≤ settings.capacity) {now later : Int}
    (updated : b.updated ≤ now) (le : now ≤ later) (fits : FitsWord (later - b.updated))
    (empty : (b.refilled settings now).hasToken = false) :
    (b.refilled settings later).hasToken = true ↔
      1 ≤ (b.refilled settings now).tokens + (later - now : Int) / 1000 * settings.rate +
        Tokens.tolerance := by
  have less := tokens_lt_of_empty empty
  have sooner : FitsWord (now - b.updated) := by
    rw [FitsWord] at *
    omega
  rw [tokens_refilled, elapsed_of_le updated sooner] at less ⊢
  have notFull : b.tokens + ((now - b.updated : Int) : Rat) / 1000 * settings.rate <
      settings.capacity := by
    by_contra full
    rw [min_eq_right (not_lt.1 full)] at less
    linarith [tolerance_eq]
  rw [min_eq_left notFull.le, hasToken_iff, tokens_refilled, elapsed_of_le (updated.trans le) fits]
  have sum : b.tokens + ((now - b.updated : Int) : Rat) / 1000 * settings.rate +
      ((later - now : Int) : Rat) / 1000 * settings.rate =
        b.tokens + ((later - b.updated : Int) : Rat) / 1000 * settings.rate := by
    push_cast
    ring
  rw [sum, min_def]
  split
  · rfl
  · rename_i full
    have enough : (1 : Rat) ≤ settings.capacity + Tokens.tolerance := by linarith [tolerance_eq]
    exact iff_of_true enough (enough.trans (by linarith))

/-- Nothing has flowed into an empty bucket when the time since wraps around from above. -/
theorem not_hasToken_of_far (capacity : 1 ≤ settings.capacity) (rate : 0 ≤ settings.rate)
    {now later : Int} (far : wordSize 63 ≤ later - b.updated)
    (bound : later - b.updated < wordSize 64) (empty : (b.refilled settings now).hasToken = false) :
    (b.refilled settings later).hasToken = false := by
  have less := tokens_lt_of_empty empty
  have inflow := b.inflow_nonneg rate now
  rw [tokens_refilled] at less
  rw [Bool.eq_false_iff, Ne, hasToken_iff, tokens_refilled, elapsed_of_far far bound, not_le]
  rcases min_choice (b.tokens + (b.elapsed now : Rat) / 1000 * settings.rate) settings.capacity
    with few | full
  · rw [few] at less
    have still : min (b.tokens + ((0 : Int) : Rat) / 1000 * settings.rate) settings.capacity ≤
        b.tokens + ((0 : Int) : Rat) / 1000 * settings.rate := min_le_left ..
    rw [Int.cast_zero, zero_div, zero_mul, add_zero] at still ⊢
    linarith
  · rw [full] at less
    linarith [tolerance_eq]

/-- A wait in full brings a token, unless it falls short and nothing is added to it. -/
theorem hasToken_after_wait_iff (capacity : 1 ≤ settings.capacity)
    (rate : 1 / 1000 ≤ settings.rate) {now later : Int} (updated : b.updated ≤ now)
    (fits : FitsWord (later - b.updated)) (nonneg : 0 ≤ (b.refilled settings now).tokens)
    (empty : (b.refilled settings now).hasToken = false)
    (waited : (((b.refilled settings now).wait settings).nanoseconds : Int) ≤
      (later - now) * 1000000) :
    (b.refilled settings later).hasToken = true ↔
      ¬((((b.refilled settings now).wait settings).nanoseconds : Int) = (later - now) * 1000000 ∧
        (b.refilled settings now).FallsShort settings
          ((b.refilled settings now).wait settings)) := by
  have pos : (0 : Rat) < settings.rate := lt_of_lt_of_le (by norm_num) rate
  rw [hasToken_later_iff capacity updated (by omega) fits empty]
  obtain ⟨n, told, missing⟩ := wait_eq nonneg rate empty
  rw [told] at waited ⊢
  simp only at waited ⊢
  by_cases exactly : (n : Int) = (later - now) * 1000000
  · have elapsed : ((later - now : Int) : Rat) / 1000 = (n : Rat) / 1000000000 := by
      have cast : ((n : Int) : Rat) = ((later - now : Int) : Rat) * 1000000 := by
        exact_mod_cast congrArg (Int.cast (R := Rat)) exactly
      rw [Int.cast_natCast] at cast
      rw [cast]
      ring
    rw [elapsed, ← not_lt]
    exact not_congr (and_iff_right exactly).symm
  · have more : (n : Int) + 1 ≤ (later - now) * 1000000 := by omega
    have elapsed : ((n : Rat) + 1) / 1000000000 ≤ ((later - now : Int) : Rat) / 1000 := by
      have cast : (n : Rat) + 1 ≤ ((later - now : Int) : Rat) * 1000000 := by exact_mod_cast more
      linarith
    refine iff_of_true ?_ fun short => exactly short.1
    have inflow : ((n : Rat) + 1 / 2) / 1000000000 * settings.rate ≤
        ((later - now : Int) : Rat) / 1000 * settings.rate :=
      mul_le_mul_of_nonneg_right (by linarith) pos.le
    linarith [tolerance_eq]

/-- Between two words the time since is told, or it wraps around from above. -/
theorem hasToken_after_wait_iff_of_words (capacity : 1 ≤ settings.capacity)
    (rate : 1 / 1000 ≤ settings.rate) {now later : Int} (updated : b.updated ≤ now)
    (stored : FitsWord b.updated) (word : FitsWord later)
    (nonneg : 0 ≤ (b.refilled settings now).tokens)
    (empty : (b.refilled settings now).hasToken = false)
    (waited : (((b.refilled settings now).wait settings).nanoseconds : Int) ≤
      (later - now) * 1000000) :
    (b.refilled settings later).hasToken = true ↔
      ¬(¬FitsWord (later - b.updated) ∨
        (((b.refilled settings now).wait settings).nanoseconds : Int) = (later - now) * 1000000 ∧
          (b.refilled settings now).FallsShort settings
            ((b.refilled settings now).wait settings)) := by
  by_cases fits : FitsWord (later - b.updated)
  · rw [hasToken_after_wait_iff capacity rate updated fits nonneg empty waited, not_or,
      and_iff_right (not_not_intro fits)]
  · have pos : (0 : Rat) ≤ settings.rate := le_trans (by norm_num) rate
    have far : wordSize 63 ≤ later - b.updated ∧ later - b.updated < wordSize 64 := by
      rw [FitsWord, wordSize_63] at *
      rw [wordSize_64]
      omega
    have none := not_hasToken_of_far capacity pos far.1 far.2 empty
    exact iff_of_false (Bool.eq_false_iff.1 none) (not_not_intro (.inl fits))

end Bucket

/-! ## calls -/

section Calls

variable {σ : Type} [SharedStore σ (Bucket Rat)] [LawfulStore σ] [RecordStore σ]
  {limiter : RateLimiter Rat} {s : σ}

open RecordStore (rules)

namespace TokenCall

variable {call : TokenCall}

/-- What a call finds in its bucket. -/
def finds (limiter : RateLimiter Rat) (s : σ) (call : TokenCall) : Bucket Rat :=
  Bucket.current (rules.value? call.now (record? s call.bucket.key))
    (limiter.settings call.bucket.route) call.stamp

theorem allowed_iff_hasToken (arrives : call.Arrives) :
    (call.perform limiter (Bucket.plainCodec Rat) s).1 = .ok .allowed ↔
      (call.finds limiter s).hasToken = true := by
  rw [(call.follows limiter (Bucket.plainCodec Rat) s).1]
  cases has : (call.finds limiter s).hasToken with
  | true =>
    rw [onRecord_of_hasToken arrives rfl has]
    exact iff_of_true rfl rfl
  | false =>
    rw [onRecord_of_not_hasToken arrives rfl has]
    exact iff_of_false nofun nofun

theorem finds_of_record {b : Bucket Rat} {expiry : Expiry σ}
    (record : record? s call.bucket.key = some (b, expiry)) (live : isLive expiry call.now = true) :
    call.finds limiter s = b.refilled (limiter.settings call.bucket.route) call.stamp := by
  rw [← RecordStore.isLive_eq] at live
  rw [finds, RecordRules.value?_eq_some.2 ⟨expiry, record, live⟩]
  rfl

/-- A call finds the full bucket where there is none, and so is allowed. -/
theorem exists_record_of_empty (capacity : 1 ≤ (limiter.settings call.bucket.route).capacity)
    (empty : (call.finds limiter s).hasToken = false) :
    ∃ b expiry, record? s call.bucket.key = some (b, expiry) ∧ isLive expiry call.now = true ∧
      call.finds limiter s = b.refilled (limiter.settings call.bucket.route) call.stamp := by
  cases met : (rules (σ := σ)).value? call.now (record? s call.bucket.key) with
  | none =>
    rw [finds, met] at empty
    exact absurd (empty.symm.trans (Bucket.hasToken_full capacity call.stamp)) Bool.false_ne_true
  | some b =>
    obtain ⟨expiry, record, live⟩ := RecordRules.value?_eq_some.1 met
    rw [RecordStore.isLive_eq] at live
    exact ⟨b, expiry, record, live, finds_of_record record live⟩

/-- A call that is denied finds a bucket without a token, and leaves it. -/
theorem of_denied {wait : Duration}
    (denied : (call.perform limiter (Bucket.plainCodec Rat) s).1 = .ok (.denied wait)) :
    (call.finds limiter s).hasToken = false ∧
      (call.finds limiter s).wait (limiter.settings call.bucket.route) = wait ∧
      record? (call.perform limiter (Bucket.plainCodec Rat) s).2 call.bucket.key =
        record? s call.bucket.key := by
  by_cases arrives : call.Arrives
  · obtain ⟨answer, records⟩ := call.follows limiter (Bucket.plainCodec Rat) s
    rw [answer] at denied
    rw [records, if_pos rfl]
    cases has : (call.finds limiter s).hasToken with
    | true =>
      rw [onRecord_of_hasToken arrives rfl has] at denied
      cases denied
    | false =>
      rw [onRecord_of_not_hasToken arrives rfl has] at denied ⊢
      cases denied
      exact ⟨rfl, rfl, rfl⟩
  · rw [perform_of_not_arrives arrives] at denied
    cases denied

/-- A bucket that a call leaves behind has the stamp of the call or of one before. -/
theorem of_onRecord {ε : Type} {rules : RecordRules ε} {record : Option (Bucket Rat × ε)}
    {b : Bucket Rat} {expiry : ε}
    (after : (call.onRecord limiter (Bucket.plainCodec Rat) rules record).2 = some (b, expiry)) :
    record = some (b, expiry) ∨ call.Arrives ∧ 0 ≤ b.tokens ∧
      (b.updated = call.stamp ∨ ∃ old expiry', record = some (old, expiry') ∧
        b.updated = old.updated) := by
  by_cases arrives : call.Arrives
  · cases has : (Bucket.current (rules.value? call.now record)
      (limiter.settings call.bucket.route) call.stamp).hasToken with
    | false =>
      rw [onRecord_of_not_hasToken arrives rfl has] at after
      exact .inl after
    | true =>
      rw [onRecord_of_hasToken arrives rfl has] at after
      cases after
      refine .inr ⟨arrives, ?_, ?_⟩
      · rw [Bucket.tokens_spent]
        exact le_max_right ..
      · cases met : rules.value? call.now record with
        | none => exact .inl rfl
        | some old =>
          obtain ⟨expiry', known, -⟩ := RecordRules.value?_eq_some.1 met
          rcases max_choice call.stamp old.updated with own | same
          · exact .inl own
          · exact .inr ⟨old, expiry', known, same⟩
  · rw [onRecord, if_neg arrives] at after
    exact .inl after

end TokenCall

end Calls

/-! ## runs -/

section Runs

variable {σ : Type} [SharedStore σ (Bucket Rat)] [LawfulStore σ] [RecordStore σ]
  {limiter : RateLimiter Rat} {bucket : BucketName} {s : σ}
  {events : List (SharedEvent (Bucket Rat))} {b : Bucket Rat} {expiry : Expiry σ}

open RecordStore (rules)

namespace SharedEvent

/-- What is in a bucket after an event was there before, or is of a call on the bucket. -/
theorem of_onBucket {e : SharedEvent (Bucket Rat)} {record : Option (Bucket Rat × Expiry σ)}
    (after : e.onBucket limiter (Bucket.plainCodec Rat) rules bucket record = some (b, expiry)) :
    record = some (b, expiry) ∨ ∃ stamp, e.stamp? bucket = some stamp ∧ 0 ≤ b.tokens ∧
      (b.updated = stamp ∨ ∃ old expiry', record = some (old, expiry') ∧
        b.updated = old.updated) := by
  cases e with
  | call c =>
    by_cases own : c.bucket = bucket
    · rw [onBucket, if_pos own] at after
      rcases TokenCall.of_onRecord after with same | ⟨arrives, nonneg, updated⟩
      · exact .inl same
      · exact .inr ⟨c.stamp, stamp?_eq_some.2 ⟨c, rfl, own, arrives, rfl⟩, nonneg, updated⟩
    · rw [onBucket, if_neg own] at after
      exact .inl after
  | cache now use =>
    cases use with
    | purge => exact .inl (RecordRules.seen_eq_some.1 after).1
    | under key use => exact .inl after
    | publish => exact .inl after

/-- What a bucket holds is no debt, and its time is that of one of its calls. -/
theorem stamped_run (apart : ∀ e ∈ events, e.KeepsApart) (absent : record? s bucket.key = none)
    (record : record? (run limiter (Bucket.plainCodec Rat) s events) bucket.key =
      some (b, expiry)) : 0 ≤ b.tokens ∧ b.updated ∈ stamps bucket events := by
  induction events using List.reverseRecOn generalizing b expiry with
  | nil => cases absent.symm.trans record
  | append_singleton events e ih =>
    rw [List.forall_mem_append, List.forall_mem_singleton] at apart
    rw [run_concat, record?_perform_bucket _ _ apart.2] at record
    rw [stamps_concat]
    rcases of_onBucket record with old | ⟨stamp, own, nonneg, new | ⟨old, expiry', known, same⟩⟩
    · exact (ih apart.1 old).imp_right (List.mem_append_left _)
    · rw [own, new]
      exact ⟨nonneg, List.mem_concat_self⟩
    · rw [same]
      exact ⟨nonneg, List.mem_append_left _ (ih apart.1 known).2⟩

/-- Without a call on it a bucket stays as it is, or goes. -/
theorem record?_of_unstamped (apart : ∀ e ∈ events, e.KeepsApart)
    (unstamped : stamps bucket events = [])
    (record : record? (run limiter (Bucket.plainCodec Rat) s events) bucket.key =
      some (b, expiry)) : record? s bucket.key = some (b, expiry) := by
  induction events using List.reverseRecOn with
  | nil => exact record
  | append_singleton events e ih =>
    rw [List.forall_mem_append, List.forall_mem_singleton] at apart
    rw [run_concat, record?_perform_bucket _ _ apart.2] at record
    rw [stamps_concat, List.append_eq_nil_iff] at unstamped
    rcases of_onBucket record with old | ⟨stamp, own, -⟩
    · exact ih apart.1 unstamped.1 old
    · rw [own] at unstamped
      cases unstamped.2

/-- As no one takes a token after a call that was denied, what is left is what the call found. -/
theorem record?_of_denied {before between : List (SharedEvent (Bucket Rat))} {call : TokenCall}
    {wait : Duration} (apart : ∀ e ∈ between, e.KeepsApart)
    (undisturbed : stamps call.bucket between = [])
    (denied : (call.perform limiter (Bucket.plainCodec Rat)
      (run limiter (Bucket.plainCodec Rat) s before)).1 = .ok (.denied wait))
    (record : record? (run limiter (Bucket.plainCodec Rat) s (before ++ .call call :: between))
      call.bucket.key = some (b, expiry)) :
    record? (run limiter (Bucket.plainCodec Rat) s before) call.bucket.key = some (b, expiry) := by
  obtain ⟨-, -, kept⟩ := TokenCall.of_denied denied
  rw [run, List.foldl_append] at record
  exact kept ▸ record?_of_unstamped apart undisturbed record

end SharedEvent

/-- A call is denied, and the next one on its bucket comes no sooner than it was told to. It is
allowed, unless the bucket is still there and the call comes at the very end of a wait that falls
short, or so late that the difference to the bucket's time wraps around; and at two tokens a second
or less it is allowed wherever no difference does. -/
theorem allowed_after_wait_iff {before between : List (SharedEvent (Bucket Rat))}
    {call next : TokenCall} {wait : Duration} (same : next.bucket = call.bucket)
    (capacity : 1 ≤ (limiter.settings call.bucket.route).capacity)
    (rate : 1 / 1000 ≤ (limiter.settings call.bucket.route).rate)
    (absent : record? s call.bucket.key = none)
    (apart : ∀ e ∈ before ++ between, e.KeepsApart)
    (inOrder : ∀ stamp ∈ SharedEvent.stamps call.bucket before, stamp ≤ call.stamp)
    (undisturbed : SharedEvent.stamps call.bucket between = []) (arrives : next.Arrives)
    (words : ∀ stamp ∈ SharedEvent.stamps call.bucket before, FitsWord stamp)
    (word : FitsWord next.stamp)
    (denied : (call.perform limiter (Bucket.plainCodec Rat)
      (SharedEvent.run limiter (Bucket.plainCodec Rat) s before)).1 = .ok (.denied wait))
    (waited : (wait.nanoseconds : Int) ≤ (next.stamp - call.stamp) * 1000000) :
    let found := SharedEvent.run limiter (Bucket.plainCodec Rat) s before
    let left := SharedEvent.run limiter (Bucket.plainCodec Rat) s
      (before ++ .call call :: between)
    let answer := (next.perform limiter (Bucket.plainCodec Rat) left).1
    (answer = .ok .allowed ↔
        ¬∃ b expiry, record? left call.bucket.key = some (b, expiry) ∧
          isLive expiry next.now = true ∧
          (¬FitsWord (next.stamp - b.updated) ∨
            (wait.nanoseconds : Int) = (next.stamp - call.stamp) * 1000000 ∧
              (call.finds limiter found).FallsShort (limiter.settings call.bucket.route) wait)) ∧
      ((limiter.settings call.bucket.route).rate ≤ 2 →
        (∀ stamp ∈ SharedEvent.stamps call.bucket before, FitsWord (next.stamp - stamp)) →
        answer = .ok .allowed) := by
  intro found left answer
  rw [List.forall_mem_append] at apart
  obtain ⟨empty, told, -⟩ := TokenCall.of_denied denied
  obtain ⟨b, expiry, record, -, met⟩ := TokenCall.exists_record_of_empty capacity empty
  obtain ⟨nonneg, stamped⟩ := SharedEvent.stamped_run apart.1 absent record
  have notNegative : 0 ≤ (call.finds limiter found).tokens := by
    rw [met]
    exact Bucket.refilled_nonneg nonneg (zero_le_one.trans capacity) (by linarith) call.stamp
  have own {b' : Bucket Rat} {expiry' : Expiry σ}
      (record' : record? left call.bucket.key = some (b', expiry')) : b' = b := by
    cases (SharedEvent.record?_of_denied apart.2 undisturbed denied record').symm.trans record
    rfl
  have allowed_iff : answer = .ok .allowed ↔
      ¬∃ b expiry, record? left call.bucket.key = some (b, expiry) ∧
        isLive expiry next.now = true ∧
        (¬FitsWord (next.stamp - b.updated) ∨
          (wait.nanoseconds : Int) = (next.stamp - call.stamp) * 1000000 ∧
            (call.finds limiter found).FallsShort (limiter.settings call.bucket.route) wait) := by
    rw [TokenCall.allowed_iff_hasToken arrives]
    by_cases there : ∃ b expiry, record? left call.bucket.key = some (b, expiry) ∧
        isLive expiry next.now = true
    · obtain ⟨b', expiry', record', live⟩ := there
      obtain rfl := own record'
      rw [TokenCall.finds_of_record (same ▸ record') live, same]
      rw [← told, met] at waited ⊢
      rw [met] at empty notNegative
      rw [Bucket.hasToken_after_wait_iff_of_words capacity rate (inOrder _ stamped)
        (words _ stamped) word notNegative empty waited]
      refine not_congr ⟨fun reason => ⟨b', expiry', record', live, reason⟩, ?_⟩
      rintro ⟨b'', expiry'', record'', -, reason⟩
      exact own record'' ▸ reason
    · refine iff_of_true ?_ fun ⟨_, _, still, live, _⟩ => there ⟨_, _, still, live⟩
      by_contra none
      obtain ⟨b', expiry', record', live, -⟩ :=
        TokenCall.exists_record_of_empty (same ▸ capacity) (Bool.eq_false_iff.2 none)
      exact there ⟨b', expiry', same ▸ record', live⟩
  refine ⟨allowed_iff, fun slow fits => allowed_iff.2 ?_⟩
  rintro ⟨b', expiry', record', -, late | ⟨-, short⟩⟩
  · exact late (fits _ (own record' ▸ stamped))
  · rw [← told] at short
    exact Bucket.not_fallsShort_of_rate_le notNegative rate slow empty short

end Runs

/-! ## two waits -/

namespace WaitSample

/-- One token at four a second, and one at `333.3333` a second. -/
def limiter : RateLimiter Rat := ⟨⟨1, 4⟩, ⟨1, 3333333 / 10000⟩⟩

def callAt (route : Route) (n : Nat) : TokenCall :=
  ⟨⟨route, "k"⟩, ⟨⟨.ofMilliseconds n, .ofMilliseconds n⟩, []⟩, n⟩

/-- What is left in memory after events in a row. -/
def stored (events : List (SharedEvent (Bucket Rat))) : MemoryStore (Bucket Rat) :=
  SharedEvent.run limiter (Bucket.plainCodec Rat) {} events

/-- Another caller comes while the first one waits, and late values are purged. -/
def between : List (SharedEvent (Bucket Rat)) :=
  [.call ⟨⟨.query, "other"⟩, ⟨⟨.ofMilliseconds 120, 120⟩, []⟩, 120⟩,
    .cache ⟨.ofMilliseconds 200, 200⟩ .purge]

end WaitSample

open WaitSample in
/-- Of a token 0.4 have flowed in when the second call comes; the rest takes 150 ms. -/
theorem allowed_after_wait_four_a_second :
    ((callAt .query 100).perform limiter (Bucket.plainCodec Rat)
        (stored [.call (callAt .query 0)])).1 = .ok (.denied (.ofMilliseconds 150)) ∧
      ((callAt .query 250).perform limiter (Bucket.plainCodec Rat)
        (stored ([.call (callAt .query 0)] ++ .call (callAt .query 100) :: between))).1 =
          .ok .allowed := by
  have denied : ((callAt .query 100).perform limiter (Bucket.plainCodec Rat)
      (stored [.call (callAt .query 0)])).1 = .ok (.denied (.ofMilliseconds 150)) := by
    decide +kernel
  have apart : ∀ e ∈ [SharedEvent.call (callAt .query 0)] ++ between, e.KeepsApart := by
    simp [between, SharedEvent.KeepsApart, StoreUse.keys]
  have same : (callAt .query 250).bucket = (callAt .query 100).bucket := rfl
  have allowed_iff := (allowed_after_wait_iff same (by decide +kernel) (by decide +kernel) rfl apart
    (by decide) rfl (by decide) (by decide) (by decide) denied (by decide)).1
  refine ⟨denied, allowed_iff.2 ?_⟩
  rintro ⟨b, expiry, record, -, late | ⟨-, short⟩⟩
  · have row : (stored ([.call (callAt .query 0)] ++ .call (callAt .query 100) :: between)).record?
        (callAt .query 100).bucket.key = some (⟨0, 0⟩, some (.ofMilliseconds 2000)) := by
      decide +kernel
    cases row.symm.trans record
    exact late (by decide)
  · revert short
    decide +kernel

open WaitSample in
/-- A token takes a little more than 3 ms. The caller is told 3 ms, and then there is too little. -/
theorem denied_after_wait :
    ¬∀ (limiter : RateLimiter Rat) (before : List (SharedEvent (Bucket Rat)))
      (call next : TokenCall) (wait : Duration), next.bucket = call.bucket →
      1 ≤ (limiter.settings call.bucket.route).capacity →
      1 / 1000 ≤ (limiter.settings call.bucket.route).rate →
      (∀ e ∈ before, e.KeepsApart) →
      (∀ stamp ∈ SharedEvent.stamps call.bucket before, stamp ≤ call.stamp) → next.Arrives →
      (∀ stamp ∈ SharedEvent.stamps call.bucket before, FitsWord (next.stamp - stamp)) →
      let found : MemoryStore (Bucket Rat) :=
        SharedEvent.run limiter (Bucket.plainCodec Rat) {} before
      (call.perform limiter (Bucket.plainCodec Rat) found).1 = .ok (.denied wait) →
      (wait.nanoseconds : Int) ≤ (next.stamp - call.stamp) * 1000000 →
      (next.perform limiter (Bucket.plainCodec Rat)
        (call.perform limiter (Bucket.plainCodec Rat) found).2).1 = .ok .allowed := by
  intro claim
  have allowed := claim limiter [.call (callAt .metadata 0)] (callAt .metadata 0)
    (callAt .metadata 3) (.ofMilliseconds 3) rfl (by decide +kernel) (by decide +kernel)
    (by simp [SharedEvent.KeepsApart]) (by decide) (by decide) (by decide) (by decide +kernel)
    (by decide)
  revert allowed
  decide +kernel

end AnalyticsGateway
