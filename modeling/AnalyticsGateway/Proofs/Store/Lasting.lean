import AnalyticsGateway.Proofs.Store.Uses

/-!
# A store that forgets nothing

What is put into a `LastingStore` stays until it is overwritten or removed, for whatever span it has
been put there. It keeps the contract of shared stores, and shows what the others would do if their
values were never over.
-/

namespace AnalyticsGateway

variable {β : Type}

structure LastingStore (β : Type) where
  values : SortedMap β := .empty
deriving Inhabited

namespace LastingStore

def put (s : LastingStore β) (key : String) (value : β) : LastingStore β :=
  ⟨s.values.insert key value⟩

def erase (s : LastingStore β) (key : String) : LastingStore β := ⟨s.values.erase key⟩

def claim (key : String) (owner : β) (s : LastingStore β) : Bool × LastingStore β :=
  if (s.values.get? key).isSome then (false, s) else (true, s.put key owner)

section Owners

variable [DecidableEq β]

def renew (key : String) (owner : β) (s : LastingStore β) : Bool × LastingStore β :=
  (s.values.get? key == some owner, s)

def release (key : String) (owner : β) (s : LastingStore β) : Bool × LastingStore β :=
  if s.values.get? key = some owner then (true, s.erase key) else (false, s)

end Owners

def update (key : String) (transition : Transition β) (s : LastingStore β) :
    Except StoreError (Option β) × LastingStore β :=
  let met := s.values.get? key
  match transition met with
  | .error e => (.error e, s)
  | .ok none => (.ok met, s)
  | .ok (some value) => (.ok met, s.put key value)

instance [DecidableEq β] : SharedStore (LastingStore β) β where
  get _ key s := s.values.get? key
  set _ key value _ s := s.put key value
  claim _ key owner _ := claim key owner
  renew _ key owner _ := renew key owner
  release _ := release
  publish _ entry value _ lease owner s := ((s.put entry value).release lease owner).2
  update _ key _ := update key
  purge _ s := (0, s)
  keys? _ s := some s.values.keys

/-! ## its records -/

/-- There is no time at which a record is over. -/
def record? (s : LastingStore β) (key : String) : Option (β × Unit) :=
  (s.values.get? key).map fun value => (value, ())

theorem record?_put (s : LastingStore β) (key : String) (value : β) (k : String) :
    (s.put key value).record? k = if key = k then some (value, ()) else s.record? k := by
  rw [record?, put, SortedMap.get?_insert]
  split <;> rfl

theorem record?_erase (s : LastingStore β) (key k : String) :
    (s.erase key).record? k = if key = k then none else s.record? k := by
  rw [record?, erase, SortedMap.get?_erase]
  split <;> rfl

theorem get?_eq (s : LastingStore β) (key : String) :
    s.values.get? key = (s.record? key).map (·.1) := by
  rw [record?, Option.map_map]
  exact Option.map_id'.symm

theorem get?_of_record? {s : LastingStore β} {key : String} {value : β} {ending : Unit}
    (h : s.record? key = some (value, ending)) : s.values.get? key = some value := by
  rw [get?_eq, h, Option.map_some]

theorem record?_of_get? {s : LastingStore β} {key : String} {value : β}
    (h : s.values.get? key = some value) : s.record? key = some (value, ()) := by
  rw [record?, h, Option.map_some]

theorem filter_live (record : Option (β × Unit)) : record.filter (fun _ => true) = record := by
  cases record <;> rfl

variable [DecidableEq β]

theorem record?_release (key : String) (owner : β) (s : LastingStore β) (k : String) :
    (release key owner s).2.record? k = s.record? k ∨
      key = k ∧ (release key owner s).2.record? k = none := by
  unfold release
  split
  · rw [record?_erase]
    split
    · rename_i same
      exact .inr ⟨same, rfl⟩
    · exact .inl rfl
  · exact .inl rfl

instance : LawfulStore (LastingStore β) where
  Expiry := Unit
  record? := record?
  isLive _ _ := true
  after _ _ := ()
  get_eq _ key s := by
    rw [filter_live]
    exact s.get?_eq key
  record?_set _ key value _ s k := s.record?_put key value k
  claim_of_live := by
    intro now key value ending owner span s h _
    exact if_pos (by rw [get?_of_record? h]; rfl)
  claim_of_absent := by
    intro now key owner span s h
    have absent : s.values.get? key = none := by
      rw [get?_eq]
      cases hr : s.record? key with
      | none => rfl
      | some r => exact absurd (h r.1 r.2 hr).symm Bool.false_ne_true
    have put : SharedStore.claim now key owner span s = (true, s.put key owner) :=
      if_neg (by rw [absent]; exact Bool.false_ne_true)
    rw [put]
    exact ⟨rfl, s.record?_put key owner⟩
  renew_of_held := by
    intro now key owner ending span s h _
    refine ⟨beq_iff_eq.2 (get?_of_record? h), fun k => ?_⟩
    split
    · rename_i same
      exact same ▸ h
    · rfl
  renew_of_not_held := by
    intro now key owner span s h
    have other : (s.values.get? key == some owner) = false := by
      refine beq_eq_false_iff_ne.2 fun held => ?_
      exact Bool.false_ne_true (h () (record?_of_get? held)).symm
    exact congrArg (·, s) other
  release_of_held := by
    intro now key owner ending s h _
    have erased : SharedStore.release now key owner s = (true, s.erase key) :=
      if_pos (get?_of_record? h)
    rw [erased]
    exact ⟨rfl, s.record?_erase key⟩
  release_of_other := by
    intro now key owner s h
    exact if_neg fun held => h () (record?_of_get? held)
  record?_release _ key owner s k := record?_release key owner s k
  publish_eq _ _ _ _ _ _ _ := rfl
  record?_update := by
    intro now key span transition s k
    change (update key transition s).2.record? k = _ ∨ key = k ∧ ∃ _ _, _ ∧
      (update key transition s).2.record? k = _
    unfold update
    simp only
    split
    · exact .inl rfl
    · exact .inl rfl
    · rename_i value h
      rw [record?_put]
      split
      · rename_i same
        exact .inr ⟨same, value, (), h, rfl⟩
      · exact .inl rfl
  record?_purge _ s k := (filter_live (s.record? k)).symm

/-! ## its rules -/

def rules : RecordRules (LawfulStore.Expiry (LastingStore β)) where
  isLive _ _ := true
  ending _ _ := ()
  releasesLate := false
  isLive_of_le _ live := live

theorem seen_eq (now : Moment) (record : Option (β × Unit)) :
    (rules (β := β)).seen now record = record := filter_live record

theorem value?_eq (now : Moment) (record : Option (β × Unit)) :
    (rules (β := β)).value? now record = record.map (·.1) := by
  rw [RecordRules.value?]
  exact congrArg _ (seen_eq now record)

theorem follows_release (now : Moment) (key : String) (owner : β) (s : LastingStore β) :
    (KeyUse.release owner).FollowsRecord rules now key s := by
  have met : (rules.released now (LawfulStore.record? s key)).map (·.1) = s.values.get? key :=
    (value?_eq now (s.record? key)).trans (s.get?_eq key).symm
  by_cases held : s.values.get? key = some owner
  · have erased : SharedStore.release now key owner s = (true, s.erase key) := if_pos held
    rw [KeyUse.FollowsRecord, KeyUse.perform, erased, KeyUse.onRecord, if_pos (met.trans held)]
    exact ⟨rfl, s.record?_erase key⟩
  · have kept : SharedStore.release now key owner s = (false, s) := if_neg held
    rw [KeyUse.FollowsRecord, KeyUse.perform, kept, KeyUse.onRecord,
      if_neg (held ∘ met.symm.trans)]
    exact ⟨rfl, fun k => (ite_at s.record? key k).symm⟩

theorem follows_update (now : Moment) (key : String) (span : Option Duration)
    (transition : Transition β) (s : LastingStore β) :
    (KeyUse.update span transition).FollowsRecord rules now key s := by
  have met : s.values.get? key = rules.value? now (LawfulStore.record? s key) :=
    (s.get?_eq key).trans (value?_eq now (s.record? key)).symm
  simp only [KeyUse.FollowsRecord, KeyUse.perform, SharedStore.update, update, met,
    KeyUse.onRecord]
  cases transition (rules.value? now (LawfulStore.record? s key)) with
  | error e => exact ⟨rfl, fun k => (ite_at s.record? key k).symm⟩
  | ok next =>
    cases next with
    | none => exact ⟨rfl, fun k => (ite_at s.record? key k).symm⟩
    | some value => exact ⟨rfl, s.record?_put key value⟩

instance : RecordStore (LastingStore β) where
  rules := rules
  isLive_eq := rfl
  ending_some _ _ := rfl
  follows_release := follows_release
  follows_update := follows_update

end LastingStore

end AnalyticsGateway
