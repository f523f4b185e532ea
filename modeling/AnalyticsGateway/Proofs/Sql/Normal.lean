import AnalyticsGateway.Proofs.Decimal.Nearest
import AnalyticsGateway.Proofs.Sql.Junction
import AnalyticsGateway.Proofs.Sql.SortKey

/-!
# Plain and normal conditions

Constants are equal as numbers, by which NaN differs from itself and the two zeros are equal. Among
plain conditions, which have no such numbers, equality is being the same (`Condition.identifies`).

A condition is normal when its groups are joined as junctions are: sorted, without repeats, not of
one part, and without parts that are groups of the same connective. Of plain conditions, the
junction depends on the set of their parts alone (`joined_congr`), and joining one normal condition
leaves it as it is (`joined_singleton`).
-/

namespace AnalyticsGateway

namespace MachineNumber

/-- Neither NaN nor a zero with a minus sign. -/
def IsPlain (x : Float) : Prop :=
  x.isNaN = false ∧ ¬((x == 0) = true ∧ hasMinusSign x = true)

theorem beq_self_of_number {x : Float} (number : x.isNaN = false) : (x == x) = true := by
  rw [Float.isNaN_eq_decide_eq_nan, decide_eq_false_iff_not] at number
  exact Float.beq_self_iff.2 number

theorem IsPlain.beq_iff {x y : Float} (hx : IsPlain x) (hy : IsPlain y) :
    (x == y) = true ↔ x = y := by
  constructor
  · intro h
    rcases (Float.beq_iff_ne_nan_and_eq.1 h).2.2 with same | ⟨-, rfl⟩ | ⟨rfl, -⟩
    · exact same
    · exact absurd (by decide) hy.2
    · exact absurd (by decide) hx.2
  · rintro rfl
    exact beq_self_of_number hx.1

theorem IsNormal.isPlain {x : Float} (h : IsNormal x) : IsPlain x :=
  ⟨h.2, fun zero => h.1 (beq_zero_iff.1 zero.1).1⟩

end MachineNumber

namespace Sql

/-! ## constants -/

def Literal.IsPlain : Literal → Prop
  | float x => MachineNumber.IsPlain x
  | _ => True

theorem Literal.same_iff {a b : Literal} (ha : a.IsPlain) (hb : b.IsPlain) :
    a.same b = true ↔ a = b := by
  cases a <;> cases b <;> simp only [same, beq_iff_eq, boolean.injEq, integer.injEq, float.injEq,
    text.injEq, Bool.false_eq_true, reduceCtorEq]
  case float.float => exact ha.beq_iff hb

theorem Literal.identifies : Identifies Literal.sortKey Literal.same Literal.IsPlain where
  of_key _ _ h := sortKey_inj h
  same_iff := same_iff

theorem Literal.mem_distinct {values : List Literal} (h : ∀ v ∈ values, v.IsPlain) {v : Literal} :
    v ∈ distinct values ↔ v ∈ values := identifies.mem_distinct h

theorem Literal.nodup_distinct {values : List Literal} (h : ∀ v ∈ values, v.IsPlain) :
    (distinct values).Nodup := identifies.nodup_distinct h

theorem Literal.sameAll_iff {as bs : List Literal} (ha : ∀ a ∈ as, a.IsPlain)
    (hb : ∀ b ∈ bs, b.IsPlain) : sameAll as bs = true ↔ as = bs := by
  induction as generalizing bs with
  | nil => cases bs <;> simp [sameAll]
  | cons a as ih => cases bs with
    | nil => simp [sameAll]
    | cons b bs =>
      simp only [List.forall_mem_cons] at ha hb
      rw [sameAll, Bool.and_eq_true, same_iff ha.1 hb.1, ih ha.2 hb.2, List.cons.injEq]

/-! ## conditions -/

def Test.IsPlain : Test → Prop
  | compare _ value => value.IsPlain
  | among values _ => ∀ value ∈ values, value.IsPlain
  | between low high => low.IsPlain ∧ high.IsPlain
  | like .. | isNull _ => True

theorem Test.same_iff {a b : Test} (ha : a.IsPlain) (hb : b.IsPlain) :
    a.same b = true ↔ a = b := by
  cases a <;> cases b <;> simp only [same, Bool.and_eq_true, beq_iff_eq, Bool.false_eq_true,
    reduceCtorEq, compare.injEq, among.injEq, between.injEq, like.injEq, isNull.injEq]
  case compare.compare => rw [Literal.same_iff ha hb]
  case among.among => rw [Literal.sameAll_iff ha hb]
  case between.between => rw [Literal.same_iff ha.1 hb.1, Literal.same_iff ha.2 hb.2]

mutual

def Condition.IsPlain : Condition → Prop
  | .test _ check => check.IsPlain
  | .guard .. => True
  | .not c => c.IsPlain
  | .group _ parts => Condition.AllPlain parts

def Condition.AllPlain : List Condition → Prop
  | [] => True
  | c :: rest => c.IsPlain ∧ Condition.AllPlain rest

end

namespace Condition

theorem allPlain_iff {parts : List Condition} : AllPlain parts ↔ ∀ c ∈ parts, c.IsPlain := by
  induction parts with
  | nil => simp [AllPlain]
  | cons c rest ih => simp [AllPlain, ih]

mutual

theorem same_iff : ∀ {a b : Condition}, a.IsPlain → b.IsPlain → (a.same b = true ↔ a = b)
  | .test t a, .test u b, ha, hb => by
    rw [IsPlain] at ha hb
    rw [same, Bool.and_eq_true, beq_iff_eq, Test.same_iff ha hb, test.injEq]
  | .guard c t, .guard d u, _, _ => by
    rw [same, Bool.and_eq_true, beq_iff_eq, beq_iff_eq, guard.injEq]
  | .not a, .not b, ha, hb => by
    rw [IsPlain] at ha hb
    rw [same, same_iff ha hb, not.injEq]
  | .group c as, .group d bs, ha, hb => by
    rw [IsPlain] at ha hb
    rw [same, Bool.and_eq_true, beq_iff_eq, sameAll_iff ha hb, group.injEq]
  | .test .., .guard .., _, _ | .test .., .not .., _, _ | .test .., .group .., _, _
  | .guard .., .test .., _, _ | .guard .., .not .., _, _ | .guard .., .group .., _, _
  | .not .., .test .., _, _ | .not .., .guard .., _, _ | .not .., .group .., _, _
  | .group .., .test .., _, _ | .group .., .guard .., _, _ | .group .., .not .., _, _ => by
    simp [same]

theorem sameAll_iff : ∀ {as bs : List Condition}, AllPlain as → AllPlain bs →
    (sameAll as bs = true ↔ as = bs)
  | [], [], _, _ => by simp [sameAll]
  | a :: as, b :: bs, ha, hb => by
    rw [AllPlain] at ha hb
    rw [sameAll, Bool.and_eq_true, same_iff ha.1 hb.1, sameAll_iff ha.2 hb.2, List.cons.injEq]
  | [], _ :: _, _, _ | _ :: _, [], _, _ => by simp [sameAll]

end

theorem identifies : Identifies sortKey same IsPlain where
  of_key _ _ h := sortKey_inj h
  same_iff := same_iff

end Condition

end Sql

end AnalyticsGateway

/-! ## normal conditions -/

namespace AnalyticsGateway.Sql.Condition

variable {k : Connective} {c : Condition} {cs ds : List Condition}

/-- The junction of some conditions; of none it is the empty group. -/
def joined (k : Connective) (cs : List Condition) : Condition := (junction k cs).getD (.group k [])

mutual

def IsNormal : Condition → Prop
  | .test .. | .guard .. => True
  | .not c => c.IsNormal
  | .group k parts =>
    AllNormal parts ∧ (∀ p ∈ parts, partsOf k p = [p]) ∧ junctionParts k parts = parts ∧
      parts.length ≠ 1

def AllNormal : List Condition → Prop
  | [] => True
  | c :: rest => c.IsNormal ∧ AllNormal rest

end

theorem allNormal_iff {parts : List Condition} : AllNormal parts ↔ ∀ c ∈ parts, c.IsNormal := by
  induction parts with
  | nil => simp [AllNormal]
  | cons c rest ih => simp [AllNormal, ih]

/-! ## parts -/

theorem partsOf_group (k : Connective) (parts : List Condition) :
    partsOf k (.group k parts) = parts := if_pos rfl

/-- A condition is its own only part, or a group of the connective. -/
theorem partsOf_cases (k : Connective) (c : Condition) :
    partsOf k c = [c] ∨ ∃ parts, c = .group k parts := by
  cases c with
  | group k' parts =>
    by_cases same : k' = k
    · exact .inr ⟨parts, same ▸ rfl⟩
    · exact .inl (if_neg same)
  | _ => exact .inl rfl

/-- Parts are not divided further. -/
theorem IsNormal.partsOf_part (h : c.IsNormal) {p : Condition} (hp : p ∈ partsOf k c) :
    p.IsNormal ∧ partsOf k p = [p] := by
  rcases partsOf_cases k c with own | ⟨parts, rfl⟩
  · rw [own, List.mem_singleton] at hp
    exact hp ▸ ⟨h, own⟩
  · rw [partsOf_group] at hp
    rw [IsNormal] at h
    exact ⟨allNormal_iff.1 h.1 p hp, h.2.1 p hp⟩

theorem IsPlain.partsOf_part (h : c.IsPlain) {p : Condition} (hp : p ∈ partsOf k c) :
    p.IsPlain := by
  rcases partsOf_cases k c with own | ⟨parts, rfl⟩
  · rw [own, List.mem_singleton] at hp
    exact hp ▸ h
  · rw [partsOf_group] at hp
    rw [IsPlain] at h
    exact allPlain_iff.1 h p hp

theorem flatMap_partsOf (h : ∀ p ∈ cs, partsOf k p = [p]) : cs.flatMap (partsOf k) = cs := by
  induction cs with
  | nil => rfl
  | cons c rest ih =>
    rw [List.flatMap_cons, h c List.mem_cons_self,
      ih fun p hp => h p (List.mem_cons_of_mem _ hp)]
    rfl

/-! ## junctions of plain conditions -/

theorem plain_flatMap (plain : ∀ c ∈ cs, c.IsPlain) : ∀ p ∈ cs.flatMap (partsOf k), p.IsPlain := by
  intro p hp
  obtain ⟨c, hc, hp⟩ := List.mem_flatMap.1 hp
  exact (plain c hc).partsOf_part hp

theorem mem_junctionParts (plain : ∀ c ∈ cs, c.IsPlain) {p : Condition} :
    p ∈ junctionParts k cs ↔ p ∈ cs.flatMap (partsOf k) :=
  identifies.mem_distinct (plain_flatMap plain)

theorem junctionParts_congr (plain : ∀ c ∈ cs, c.IsPlain)
    (h : ∀ p, p ∈ cs.flatMap (partsOf k) ↔ p ∈ ds.flatMap (partsOf k)) :
    junctionParts k cs = junctionParts k ds :=
  identifies.distinct_congr (plain_flatMap plain) h

/-- The junction of plain conditions is told by the set of their parts. -/
theorem junction_congr (plain : ∀ c ∈ cs, c.IsPlain)
    (h : ∀ p, p ∈ cs.flatMap (partsOf k) ↔ p ∈ ds.flatMap (partsOf k)) :
    junction k cs = junction k ds := by
  unfold junction
  rw [junctionParts_congr plain h]

theorem joined_congr (plain : ∀ c ∈ cs, c.IsPlain)
    (h : ∀ p, p ∈ cs.flatMap (partsOf k) ↔ p ∈ ds.flatMap (partsOf k)) :
    joined k cs = joined k ds := by
  unfold joined
  rw [junction_congr plain h]

/-! ## joining -/

/-- What conditions are joined to, by the number of their parts. -/
theorem joined_cases (k : Connective) (cs : List Condition) :
    junctionParts k cs = [joined k cs] ∨
      joined k cs = .group k (junctionParts k cs) ∧ (junctionParts k cs).length ≠ 1 := by
  cases h : junction k cs with
  | none =>
    have empty := junction_eq_none.1 h
    exact .inr ⟨by rw [joined, h, empty]; rfl, by simp [empty]⟩
  | some c =>
    have eq : joined k cs = c := by rw [joined, h]; rfl
    rcases junction_eq_some h with one | ⟨rfl, two⟩
    · exact .inl (one.trans (by rw [eq]))
    · exact .inr ⟨eq, by omega⟩

theorem isPlain_joined (plain : ∀ c ∈ cs, c.IsPlain) : (joined k cs).IsPlain := by
  have parts : ∀ p ∈ junctionParts k cs, p.IsPlain :=
    fun p hp => plain_flatMap plain p (mem_of_mem_distinct hp)
  rcases joined_cases k cs with one | ⟨group, -⟩
  · exact parts _ (one ▸ List.mem_singleton_self _)
  · rw [group, IsPlain]
    exact allPlain_iff.2 parts

theorem isNormal_joined (plain : ∀ c ∈ cs, c.IsPlain) (normal : ∀ c ∈ cs, c.IsNormal) :
    (joined k cs).IsNormal := by
  have parts : ∀ p ∈ junctionParts k cs, p.IsNormal ∧ partsOf k p = [p] := by
    intro p hp
    obtain ⟨c, hc, hp⟩ := List.mem_flatMap.1 (mem_of_mem_distinct hp)
    exact (normal c hc).partsOf_part hp
  rcases joined_cases k cs with one | ⟨group, length⟩
  · exact (parts _ (one ▸ List.mem_singleton_self _)).1
  · rw [group, IsNormal]
    refine ⟨allNormal_iff.2 fun p hp => (parts p hp).1, fun p hp => (parts p hp).2, ?_, length⟩
    have plainParts : ∀ p ∈ junctionParts k cs, p.IsPlain :=
      fun p hp => plain_flatMap plain p (mem_of_mem_distinct hp)
    refine junctionParts_congr plainParts fun p => ?_
    rw [flatMap_partsOf fun p hp => (parts p hp).2, mem_junctionParts plain]

theorem mem_partsOf_joined (plain : ∀ c ∈ cs, c.IsPlain) (normal : ∀ c ∈ cs, c.IsNormal)
    {p : Condition} : p ∈ partsOf k (joined k cs) ↔ p ∈ cs.flatMap (partsOf k) := by
  rw [← mem_junctionParts plain]
  rcases joined_cases k cs with one | ⟨group, -⟩
  · have mem : joined k cs ∈ cs.flatMap (partsOf k) :=
      mem_of_mem_distinct (by
        change joined k cs ∈ junctionParts k cs
        rw [one]
        exact List.mem_singleton_self _)
    obtain ⟨c, hc, hp⟩ := List.mem_flatMap.1 mem
    rw [((normal c hc).partsOf_part hp).2, ← one]
  · rw [group, partsOf_group]

theorem junctionParts_singleton (h : partsOf k c = [c]) : junctionParts k [c] = [c] := by
  have sorted : sortByKey sortKey [c] = [c] := (sortByKey_perm sortKey [c]).eq_singleton
  rw [junctionParts, List.flatMap_singleton, h, sorted]
  rfl

/-- One normal condition stays as it is. -/
theorem joined_singleton (k : Connective) (h : c.IsNormal) : joined k [c] = c := by
  rcases partsOf_cases k c with own | ⟨parts, rfl⟩
  · rw [joined, junction, junctionParts_singleton own]
    rfl
  · rw [IsNormal] at h
    have kept : junctionParts k [.group k parts] = parts :=
      calc junctionParts k [.group k parts]
        _ = junctionParts k parts := by
          simp only [junctionParts, List.flatMap_singleton, partsOf_group, flatMap_partsOf h.2.1]
        _ = parts := h.2.2.1
    rcases joined_cases k [.group k parts] with one | ⟨group, -⟩
    · exact absurd (congrArg List.length (kept.symm.trans one)) h.2.2.2
    · rw [group, kept]

end AnalyticsGateway.Sql.Condition
