import AnalyticsGateway.Gateway.Plan
import AnalyticsGateway.Proofs.Compile.Levels
import AnalyticsGateway.Proofs.Sql.Normal

/-!
# Order and grouping of filters

Filters can be put in another order, repeated, regrouped and wrapped, and the values of their lists
likewise (`Filter.Rearranged`), without any change to the query that they are compiled to
(`compile_rearranged`). Their normal conditions show why: these exist whether the filters are
accepted or not, and are the compiled ones if they are (`compileFilter_eq_normal`).
-/

namespace AnalyticsGateway

open Sql (Condition Connective)
open Sql.Condition (partsOf joined junction)

/-! ## rearranged filters -/

namespace Filter

/-- Lists of filters, each joined by a connective, that differ in order, repetition and grouping
alone. -/
inductive Rearranged : Connective → List Filter → List Filter → Prop
  | symm {k l r} : Rearranged k l r → Rearranged k r l
  | trans {k l m r} : Rearranged k l m → Rearranged k m r → Rearranged k l r
  | perm {k l r} : l.Perm r → Rearranged k l r
  | repeated {k f l} : f ∈ l → Rearranged k l (f :: l)
  /-- A group within a group of its connective. -/
  | regrouped {k parts rest} : Rearranged k (group k parts :: rest) (parts ++ rest)
  | wrapped {k j f rest} : Rearranged k (f :: rest) (group j [f] :: rest)
  | inGroup {k j parts parts' rest} : Rearranged j parts parts' →
      Rearranged k (group j parts :: rest) (group j parts' :: rest)
  | inNot {k f g rest} : Rearranged .and [f] [g] → Rearranged k (.not f :: rest) (.not g :: rest)
  /-- The values of a list in another order and number. -/
  | values {k field operator negated xs ys rest} :
      Operator.parse? operator = some (.among negated) → (∀ v, v ∈ xs ↔ v ∈ ys) →
      Rearranged k (.predicate ⟨field, operator, .array xs⟩ :: rest)
        (.predicate ⟨field, operator, .array ys⟩ :: rest)

/-- Lists of filters that differ in order alone, theirs and that of the values of their lists. -/
inductive Permuted : List Filter → List Filter → Prop
  | trans {l m r} : Permuted l m → Permuted m r → Permuted l r
  | perm {l r} : l.Perm r → Permuted l r
  | inGroup {k parts parts' rest} : Permuted parts parts' →
      Permuted (group k parts :: rest) (group k parts' :: rest)
  | inNot {f g rest} : Permuted [f] [g] → Permuted (.not f :: rest) (.not g :: rest)
  | values {field operator negated xs ys rest} :
      Operator.parse? operator = some (.among negated) → xs.Perm ys →
      Permuted (.predicate ⟨field, operator, .array xs⟩ :: rest)
        (.predicate ⟨field, operator, .array ys⟩ :: rest)

theorem Permuted.rearranged {l r : List Filter} (h : Permuted l r) : ∀ k, Rearranged k l r := by
  induction h with
  | trans _ _ ih ih' => exact fun k => (ih k).trans (ih' k)
  | perm h => exact fun _ => .perm h
  | @inGroup k' _ _ _ _ ih => exact fun _ => .inGroup (ih k')
  | inNot _ ih => exact fun _ => .inNot (ih .and)
  | values operator h => exact fun _ => .values operator fun _ => h.mem_iff

end Filter

/-! ## plain filters -/

/-- The values that a predicate compares with: the items of a list, or one value. -/
def Json.constants : Json → List Json
  | .array items => items
  | value => [value]

/-- No number that a predicate compares with is NaN or a zero with a minus sign. -/
def Predicate.IsPlain (p : Predicate) : Prop :=
  ∀ x, Json.float x ∈ p.value.constants → MachineNumber.IsPlain x

mutual

def Filter.IsPlain : Filter → Prop
  | .predicate p => p.IsPlain
  | .not f => f.IsPlain
  | .and parts | .or parts => Filter.AllPlain parts

def Filter.AllPlain : List Filter → Prop
  | [] => True
  | f :: rest => f.IsPlain ∧ Filter.AllPlain rest

end

namespace Filter

theorem allPlain_iff {parts : List Filter} : AllPlain parts ↔ ∀ f ∈ parts, f.IsPlain := by
  induction parts with
  | nil => simp [AllPlain]
  | cons f rest ih => simp [AllPlain, ih]

theorem isPlain_group {k : Connective} {parts : List Filter} :
    (group k parts).IsPlain ↔ ∀ f ∈ parts, f.IsPlain := by
  cases k <;> rw [group, IsPlain, allPlain_iff]

/-- Rearranging keeps the numbers of filters. -/
theorem Rearranged.plain_iff {k : Connective} {l r : List Filter} (h : Rearranged k l r) :
    (∀ f ∈ l, f.IsPlain) ↔ ∀ f ∈ r, f.IsPlain := by
  induction h with
  | symm _ ih => exact ih.symm
  | trans _ _ ih ih' => exact ih.trans ih'
  | perm h => simp only [h.mem_iff]
  | repeated h => simpa using fun plain => plain _ h
  | regrouped => simp [isPlain_group, or_imp, forall_and]
  | wrapped => simp [isPlain_group]
  | inGroup _ ih => simp [isPlain_group, ih]
  | inNot _ ih =>
    simp only [List.forall_mem_cons, IsPlain]
    simpa using and_congr_left fun _ => ih
  | values _ h =>
    simp only [List.forall_mem_cons, IsPlain, Predicate.IsPlain, Json.constants, h]

end Filter

/-! ## constants -/

variable {d : Dataset} {c c' : Ceilings}

theorem literalOf_plain {field : String} {type : FieldType} {value : Json} {literal : Sql.Literal}
    (plain : ∀ x, value = .float x → MachineNumber.IsPlain x)
    (h : literalOf field type value = .ok literal) : literal.IsPlain := by
  cases value with
  | null | array | object => cases h
  | boolean b | text s =>
    rw [literalOf] at h
    split at h <;> cases h
    trivial
  | float x =>
    rw [literalOf] at h
    split at h <;> cases h
    exact plain x rfl
  | integer n =>
    rw [literalOf] at h
    split at h
    · split at h <;> cases h
      · trivial
      · rename_i large
        rw [wordSize_63] at large
        exact (Decimal.isNormal_toSignedFloat _ (by omega)).isPlain
    · cases h

theorem mapM_literalOf_plain {field : String} {type : FieldType} {items : List Json}
    {literals : List Sql.Literal} (plain : ∀ x, Json.float x ∈ items → MachineNumber.IsPlain x)
    (h : items.mapM (literalOf field type) = .ok literals) :
    ∀ literal ∈ literals, literal.IsPlain := by
  intro literal hl
  obtain ⟨item, hitem, h⟩ := exists_of_mem_forall₂ (mapM_eq_ok.1 h) hl
  exact literalOf_plain (fun x hx => plain x (hx ▸ hitem)) h

theorem test_plain {field : String} {type : FieldType} {operator : Operator} {value : Json}
    {check : Sql.Test} (plain : ∀ x, Json.float x ∈ value.constants → MachineNumber.IsPlain x)
    (h : c.test field type operator value = .ok check) : check.IsPlain := by
  unfold Ceilings.test at h
  split at h
  · obtain ⟨literal, hliteral, h⟩ := bind_eq_ok.1 h
    cases h
    refine literalOf_plain (fun x hx => plain x ?_) hliteral
    simp [hx, Json.constants]
  · obtain ⟨values, hvalues, h⟩ := bind_eq_ok.1 h
    cases h
    obtain ⟨items, constants, rfl, -, -, hconstants, rfl⟩ := listOf_eq_ok hvalues
    exact fun v hv => mapM_literalOf_plain plain hconstants v (Sql.mem_of_mem_distinct hv)
  · split at h <;> cases h
    trivial
  · split at h
    · obtain ⟨low, hlow, h⟩ := bind_eq_ok.1 h
      obtain ⟨high, hhigh, h⟩ := bind_eq_ok.1 h
      cases h
      exact ⟨literalOf_plain (fun x hx => plain x (by simp [hx, Json.constants])) hlow,
        literalOf_plain (fun x hx => plain x (by simp [hx, Json.constants])) hhigh⟩
    · cases h
  · split at h <;> cases h
    trivial

theorem condition_plain {p : Predicate} {condition : Condition} {level : Level} (plain : p.IsPlain)
    (h : d.condition c p = .ok (condition, level)) : condition.IsPlain := by
  obtain ⟨field, operator, check, -, -, hcheck, rfl, -⟩ := condition_eq_ok.1 h
  rw [Condition.IsPlain]
  exact test_plain plain hcheck

/-- Lists of the same values give the same constants. -/
theorem listOf_congr {field : String} {type : FieldType} {xs ys : List Json}
    {values : List Sql.Literal} (same : ∀ v, v ∈ xs ↔ v ∈ ys)
    (plain : ∀ x, Json.float x ∈ xs → MachineNumber.IsPlain x) (fits : ys.length ≤ c'.listLength)
    (h : c.listOf field type (.array xs) = .ok values) :
    c'.listOf field type (.array ys) = .ok values := by
  obtain ⟨_, literals, ⟨⟩, ne, -, hliterals, rfl⟩ := listOf_eq_ok h
  have compiled : ∀ y ∈ ys, ∃ literal, literalOf field type y = .ok literal :=
    fun y hy => exists_of_mem_forall₂_left (mapM_eq_ok.1 hliterals) ((same y).2 hy)
  obtain ⟨literals', hliterals'⟩ := exists_forall₂ compiled
  have members : ∀ l, l ∈ literals' ↔ l ∈ literals := by
    intro l
    rw [mem_of_mapM hliterals, mem_of_mapM (mapM_eq_ok.2 hliterals')]
    simp only [same]
  have ne' : ys ≠ [] := by
    rintro rfl
    exact ne (List.eq_nil_iff_forall_not_mem.2 fun v hv => nomatch (same v).1 hv)
  have distinct : Sql.Literal.distinct literals = Sql.Literal.distinct literals' :=
    Sql.Literal.identifies.distinct_congr (mapM_literalOf_plain plain hliterals)
      fun l => (members l).symm
  rw [distinct]
  exact listOf_ok ne' fits (mapM_eq_ok.2 hliterals')

/-! ## normal conditions of filters -/

/-- Ceilings that the list of a predicate stays below. -/
def Predicate.ample (p : Predicate) : Ceilings where
  listLength := match p.value with
    | .array items => items.length
    | _ => 0

/-- What a predicate is compiled to, whatever the ceilings. -/
def Dataset.tested (d : Dataset) (p : Predicate) : Condition :=
  match d.condition p.ample p with
  | .ok (condition, _) => condition
  | .error _ => .test default default

/-- A predicate that is compiled is so after its list has been rearranged. -/
theorem condition_congr {p : Predicate} (value : Json) {r : Condition × Level}
    (h : d.condition c p = .ok r)
    (tests : ∀ type operator check, Operator.parse? p.operator = some operator →
      c.test p.field type operator p.value = .ok check →
        c'.test p.field type operator value = .ok check) :
    d.condition c' { p with value } = .ok r := by
  obtain ⟨condition, level⟩ := r
  obtain ⟨field, operator, check, hfield, hoperator, hcheck, rfl, rfl⟩ := condition_eq_ok.1 h
  exact condition_eq_ok.2
    ⟨field, operator, check, hfield, hoperator, tests _ _ _ hoperator hcheck, rfl, rfl⟩

theorem test_ample {p : Predicate} {type : FieldType} {operator : Operator} {check : Sql.Test}
    (h : c.test p.field type operator p.value = .ok check) :
    p.ample.test p.field type operator p.value = .ok check := by
  unfold Ceilings.test at h ⊢
  split
  case h_2 =>
    obtain ⟨values, hvalues, h⟩ := bind_eq_ok.1 h
    obtain ⟨items, constants, hitems, ne, -, hconstants, rfl⟩ := listOf_eq_ok hvalues
    have fits : items.length ≤ p.ample.listLength := by rw [Predicate.ample, hitems]
    exact bind_eq_ok.2 ⟨_, hitems ▸ listOf_ok ne fits hconstants, h⟩
  all_goals exact h

theorem condition_ample {p : Predicate} {r : Condition × Level} (h : d.condition c p = .ok r) :
    d.condition p.ample p = .ok r :=
  condition_congr p.value h fun _ _ _ _ hcheck => test_ample hcheck

theorem tested_eq {p : Predicate} {condition : Condition} {level : Level}
    (h : d.condition c p = .ok (condition, level)) : d.tested p = condition := by
  rw [Dataset.tested, condition_ample h]

theorem isPlain_tested {p : Predicate} (plain : p.IsPlain) : (d.tested p).IsPlain := by
  unfold Dataset.tested
  split
  · rename_i h
    exact condition_plain plain h
  · exact trivial

theorem isNormal_tested (p : Predicate) : (d.tested p).IsNormal := by
  unfold Dataset.tested
  split
  · rename_i h
    obtain ⟨_, _, _, _, _, _, rfl, _⟩ := condition_eq_ok.1 h
    trivial
  · trivial

section Values

variable {field operator : String} {negated : Bool} {xs ys : List Json}

theorem condition_values (parsed : Operator.parse? operator = some (.among negated))
    (same : ∀ v, v ∈ xs ↔ v ∈ ys) (plain : Predicate.IsPlain ⟨field, operator, .array xs⟩)
    {r : Condition × Level} (h : d.condition c ⟨field, operator, .array xs⟩ = .ok r) :
    d.condition (Predicate.ample ⟨field, operator, .array ys⟩) ⟨field, operator, .array ys⟩ =
      .ok r := by
  refine condition_congr (.array ys) h fun type op check hop hcheck => ?_
  cases parsed.symm.trans hop
  obtain ⟨values, hvalues, hcheck⟩ := bind_eq_ok.1 hcheck
  exact bind_eq_ok.2 ⟨values, listOf_congr same plain le_rfl hvalues, hcheck⟩

/-- Rearranging the values of a list leaves what the predicate is compiled to. -/
theorem tested_values (parsed : Operator.parse? operator = some (.among negated))
    (same : ∀ v, v ∈ xs ↔ v ∈ ys) (plain : Predicate.IsPlain ⟨field, operator, .array xs⟩) :
    d.tested ⟨field, operator, .array xs⟩ = d.tested ⟨field, operator, .array ys⟩ := by
  have plain' : Predicate.IsPlain ⟨field, operator, .array ys⟩ :=
    fun x hx => plain x ((same _).2 hx)
  cases hx : d.condition (Predicate.ample ⟨field, operator, .array xs⟩)
      ⟨field, operator, .array xs⟩ with
  | ok r => rw [tested_eq hx, tested_eq (condition_values parsed same plain hx)]
  | error e =>
    cases hy : d.condition (Predicate.ample ⟨field, operator, .array ys⟩)
        ⟨field, operator, .array ys⟩ with
    | ok r =>
      rw [condition_values parsed (fun v => (same v).symm) plain' hy] at hx
      cases hx
    | error e' => rw [Dataset.tested, Dataset.tested, hx, hy]

end Values

mutual

/-- The condition that a filter is compiled to if it is accepted. -/
def Dataset.normal (d : Dataset) : Filter → Condition
  | .predicate p => d.tested p
  | .not f => .not (d.normal f)
  | .and parts => joined .and (d.normals parts)
  | .or parts => joined .or (d.normals parts)

def Dataset.normals (d : Dataset) : List Filter → List Condition
  | [] => []
  | f :: rest => d.normal f :: d.normals rest

end

theorem normals_eq (d : Dataset) (parts : List Filter) : d.normals parts = parts.map d.normal := by
  induction parts with
  | nil => rfl
  | cons f rest ih => rw [Dataset.normals, ih, List.map_cons]

theorem normal_group {k : Connective} {parts : List Filter} :
    d.normal (Filter.group k parts) = joined k (parts.map d.normal) := by
  cases k <;> rw [Filter.group, Dataset.normal, normals_eq]

theorem isPlain_normal {f : Filter} (plain : f.IsPlain) : (d.normal f).IsPlain := by
  induction f using Filter.induction with
  | predicate p =>
    rw [Filter.IsPlain] at plain
    rw [Dataset.normal]
    exact isPlain_tested plain
  | not f ih =>
    rw [Filter.IsPlain] at plain
    rw [Dataset.normal, Condition.IsPlain]
    exact ih plain
  | group k parts ih =>
    rw [Filter.isPlain_group] at plain
    rw [normal_group]
    exact Condition.isPlain_joined (List.forall_mem_map.2 fun f hf => ih f hf (plain f hf))

theorem isNormal_normal {f : Filter} (plain : f.IsPlain) : (d.normal f).IsNormal := by
  induction f using Filter.induction with
  | predicate p =>
    rw [Dataset.normal]
    exact isNormal_tested p
  | not f ih =>
    rw [Filter.IsPlain] at plain
    rw [Dataset.normal, Condition.IsNormal]
    exact ih plain
  | group k parts ih =>
    rw [Filter.isPlain_group] at plain
    rw [normal_group]
    exact Condition.isNormal_joined
      (List.forall_mem_map.2 fun f hf => isPlain_normal (plain f hf))
      (List.forall_mem_map.2 fun f hf => ih f hf (plain f hf))

/-- An accepted filter is compiled to its normal condition. -/
theorem compileFilter_eq_normal {f : Filter} : ∀ {condition : Condition} {level : Level},
    d.compileFilter c f = .ok (condition, level) → condition = d.normal f := by
  induction f using Filter.induction with
  | predicate p =>
    intro condition level h
    rw [Dataset.compileFilter] at h
    rw [Dataset.normal, tested_eq h]
  | not f ih =>
    intro condition level h
    obtain ⟨inner, hf, rfl⟩ := compileFilter_not.1 h
    rw [Dataset.normal, ← ih hf]
  | group k parts ih =>
    intro condition level h
    obtain ⟨conditions, hj, -, compiled⟩ := compileFilter_group.1 h
    have normal : parts.map d.normal = conditions.map id :=
      map_eq_of_forall₂ compiled fun f hf _ hc => (ih f hf hc).symm
    rw [normal_group, joined, normal, List.map_id, hj]
    rfl

/-! ## rearranging -/

/-- The parts of the conditions of some filters. -/
def Dataset.normalParts (d : Dataset) (k : Connective) (filters : List Filter) : List Condition :=
  (filters.map d.normal).flatMap (partsOf k)

theorem normalParts_cons (k : Connective) (f : Filter) (rest : List Filter) :
    d.normalParts k (f :: rest) = partsOf k (d.normal f) ++ d.normalParts k rest := by
  rw [Dataset.normalParts, List.map_cons, List.flatMap_cons]
  rfl

theorem mem_partsOf_group {k : Connective} {parts : List Filter} (plain : ∀ f ∈ parts, f.IsPlain)
    {p : Condition} :
    p ∈ partsOf k (d.normal (Filter.group k parts)) ↔ p ∈ d.normalParts k parts := by
  rw [normal_group]
  exact Condition.mem_partsOf_joined
    (List.forall_mem_map.2 fun f hf => isPlain_normal (plain f hf))
    (List.forall_mem_map.2 fun f hf => isNormal_normal (plain f hf))

theorem normal_group_congr {k : Connective} {parts parts' : List Filter}
    (plain : ∀ f ∈ parts, f.IsPlain)
    (same : ∀ p, p ∈ d.normalParts k parts ↔ p ∈ d.normalParts k parts') :
    d.normal (Filter.group k parts) = d.normal (Filter.group k parts') := by
  rw [normal_group, normal_group]
  exact Condition.joined_congr
    (List.forall_mem_map.2 fun f hf => isPlain_normal (plain f hf)) same

theorem normal_group_singleton {k : Connective} {f : Filter} (plain : f.IsPlain) :
    d.normal (Filter.group k [f]) = d.normal f := by
  rw [normal_group]
  exact Condition.joined_singleton k (isNormal_normal plain)

/-- Rearranged filters have the same parts. -/
theorem Filter.Rearranged.parts_iff {k : Connective} {l r : List Filter}
    (h : Filter.Rearranged k l r) (plain : ∀ f ∈ l, f.IsPlain) (p : Condition) :
    p ∈ d.normalParts k l ↔ p ∈ d.normalParts k r := by
  induction h generalizing p with
  | symm h ih => exact (ih (h.plain_iff.2 plain) p).symm
  | trans h _ ih ih' => exact (ih plain p).trans (ih' (h.plain_iff.1 plain) p)
  | perm h => exact ((h.map d.normal).flatMap_right (partsOf _)).mem_iff
  | @repeated k f l hf =>
    rw [normalParts_cons, List.mem_append, iff_or_self]
    exact fun hp => List.mem_flatMap.2 ⟨_, List.mem_map_of_mem hf, hp⟩
  | @regrouped k parts rest =>
    have plainParts := isPlain_group.1 (List.forall_mem_cons.1 plain).1
    rw [normalParts_cons, List.mem_append, mem_partsOf_group plainParts, ← List.mem_append]
    simp only [Dataset.normalParts, List.map_append, List.flatMap_append]
  | @wrapped k k' f rest =>
    rw [normalParts_cons, normalParts_cons,
      normal_group_singleton (List.forall_mem_cons.1 plain).1]
  | @inGroup k k' parts parts' rest h ih =>
    have plainParts := isPlain_group.1 (List.forall_mem_cons.1 plain).1
    rw [normalParts_cons, normalParts_cons, normal_group_congr plainParts (ih plainParts)]
  | @inNot k f g rest h ih =>
    have plainF : f.IsPlain := by
      have := (List.forall_mem_cons.1 plain).1
      rwa [IsPlain] at this
    have plainG : g.IsPlain := h.plain_iff.1 (by simpa using plainF) g (by simp)
    -- filters are told by their parts: one filter is as good as the group of it
    have same : d.normal f = d.normal g := by
      rw [← normal_group_singleton (k := .and) plainF, ← normal_group_singleton (k := .and) plainG]
      exact normal_group_congr (by simpa using plainF) (ih (by simpa using plainF))
    rw [normalParts_cons, normalParts_cons, Dataset.normal, Dataset.normal, same]
  | @values k field operator negated xs ys rest parsed same =>
    have plainP : Predicate.IsPlain ⟨field, operator, .array xs⟩ := by
      have := (List.forall_mem_cons.1 plain).1
      rwa [IsPlain] at this
    rw [normalParts_cons, normalParts_cons, Dataset.normal, Dataset.normal,
      tested_values parsed same plainP]

/-! ## requests -/

/-- The conditions of one level are joined of those parts of the filters that are of it. -/
theorem mem_parts_atLevel {filters : List Filter} {compiled : List (Condition × Level)}
    (h : List.Forall₂ (fun f r => d.compileFilter c f = .ok r) filters compiled) {level : Level}
    {p : Condition} :
    p ∈ (compiled.filterMap fun (condition, own) =>
        if own = level then some condition else none).flatMap (partsOf .and) ↔
      p ∈ d.normalParts .and filters ∧ p.OnLevel level := by
  induction h with
  | nil => simp [Dataset.normalParts]
  | @cons f r filters compiled first _ ih =>
    obtain ⟨condition, own⟩ := r
    have parts := (onLevel_compileFilter first).partsOf_part (k := .and)
    rw [normalParts_cons, ← compileFilter_eq_normal first, List.mem_append, or_and_right, ← ih]
    by_cases same : own = level
    · subst same
      simp only [List.filterMap_cons, if_true, List.flatMap_cons, List.mem_append]
      exact or_congr_left (iff_self_and.2 (parts.2 p))
    · simp only [List.filterMap_cons, if_neg same, iff_or_self]
      exact fun ⟨hp, other⟩ => (same ((parts.2 p hp).unique other)).elim

/-- Rearranged filters that are accepted give the same conditions. -/
theorem conditions_rearranged {filters filters' : List Filter}
    {r r' : Option Condition × Option Condition} (h : Filter.Rearranged .and filters filters')
    (plain : ∀ f ∈ filters, f.IsPlain) (hr : d.conditions c filters = .ok r)
    (hr' : d.conditions c filters' = .ok r') : r = r' := by
  obtain ⟨compiled, hcompiled, hr⟩ := bind_eq_ok.1 hr
  obtain ⟨compiled', hcompiled', hr'⟩ := bind_eq_ok.1 hr'
  cases hr
  cases hr'
  replace hcompiled := mapM_eq_ok.1 hcompiled
  replace hcompiled' := mapM_eq_ok.1 hcompiled'
  have level (level : Level) :
      junction .and (compiled.filterMap fun (condition, own) =>
          if own = level then some condition else none) =
        junction .and (compiled'.filterMap fun (condition, own) =>
          if own = level then some condition else none) := by
    refine Condition.junction_congr (fun condition hc => ?_) fun p => ?_
    · obtain ⟨⟨own, level'⟩, hr, h⟩ := List.mem_filterMap.1 hc
      obtain ⟨f, hf, hcompile⟩ := exists_of_mem_forall₂ hcompiled hr
      simp only at h
      split at h <;> cases h
      rw [compileFilter_eq_normal hcompile]
      exact isPlain_normal (plain f hf)
    · rw [mem_parts_atLevel hcompiled, mem_parts_atLevel hcompiled', h.parts_iff plain]
  exact Prod.ext (level .rows) (level .groups)

/-! ## permuting -/

theorem depthAll_perm {l r : List Filter} (h : l.Perm r) :
    Filter.depthAll l = Filter.depthAll r := by
  induction h with
  | nil => rfl
  | cons f _ ih => rw [Filter.depthAll, Filter.depthAll, ih]
  | swap f g l => simp only [Filter.depthAll, Nat.max_left_comm]
  | trans _ _ ih ih' => exact ih.trans ih'

theorem depth_group (k : Connective) (parts : List Filter) :
    (Filter.group k parts).depth = 1 + Filter.depthAll parts := by
  cases k <;> rw [Filter.group, Filter.depth]

theorem Filter.Permuted.depthAll_eq {l r : List Filter} (h : Filter.Permuted l r) :
    Filter.depthAll l = Filter.depthAll r := by
  induction h with
  | trans _ _ ih ih' => exact ih.trans ih'
  | perm h => exact depthAll_perm h
  | inGroup _ ih => rw [depthAll, depthAll, depth_group, depth_group, ih]
  | inNot _ ih =>
    simp only [depthAll, Nat.max_zero] at ih
    rw [depthAll, depthAll, depth, depth, ih]
  | values _ _ => rw [depthAll, depthAll, depth, depth]

theorem commonLevel_perm {l r : List (Option Level)} (h : l.Perm r) :
    commonLevel l = commonLevel r := by
  refine Option.ext fun level => ?_
  rw [commonLevel_eq_some, commonLevel_eq_some]
  simp only [h.mem_iff, ne_eq, ← List.length_eq_zero_iff, h.length_eq]

theorem level?_values {field operator : String} {negated : Bool} {xs ys : List Json}
    (parsed : Operator.parse? operator = some (.among negated)) (h : xs.Perm ys) {level : Level}
    (hx : d.level? c (.predicate ⟨field, operator, .array xs⟩) = some level) :
    d.level? c (.predicate ⟨field, operator, .array ys⟩) = some level := by
  obtain ⟨condition, hx⟩ := exists_compileFilter.2 hx
  rw [Dataset.compileFilter] at hx
  obtain ⟨resolved, op, check, hfield, hop, hcheck, -, rfl⟩ := condition_eq_ok.1 hx
  cases parsed.symm.trans hop
  obtain ⟨values, hvalues, -⟩ := bind_eq_ok.1 hcheck
  obtain ⟨_, literals, ⟨⟩, ne, fits, hliterals, -⟩ := listOf_eq_ok hvalues
  obtain ⟨literals', hliterals'⟩ := exists_forall₂ fun y (hy : y ∈ ys) =>
    exists_of_mem_forall₂_left (mapM_eq_ok.1 hliterals) (h.mem_iff.2 hy)
  have hvalues' : c.listOf field resolved.type (.array ys) =
      .ok (Sql.Literal.distinct literals') :=
    listOf_ok (fun empty => ne (List.perm_nil.1 (empty ▸ h))) (h.length_eq ▸ fits)
      (mapM_eq_ok.2 hliterals')
  refine exists_compileFilter.1
    ⟨.test resolved.term (.among (Sql.Literal.distinct literals') negated), ?_⟩
  rw [Dataset.compileFilter]
  exact condition_eq_ok.2
    ⟨resolved, _, _, hfield, hop, bind_eq_ok.2 ⟨_, hvalues', rfl⟩, rfl, rfl⟩

/-- Permuting filters permutes their levels. -/
theorem Filter.Permuted.levels_perm {l r : List Filter} (h : Filter.Permuted l r) :
    (l.map (d.level? c)).Perm (r.map (d.level? c)) := by
  induction h with
  | trans _ _ ih ih' => exact ih.trans ih'
  | perm h => exact h.map _
  | inGroup _ ih =>
    rw [List.map_cons, List.map_cons, level?_group, level?_group, commonLevel_perm ih]
  | inNot _ ih =>
    have same := List.singleton_perm_singleton.1 ih
    rw [List.map_cons, List.map_cons, Dataset.level?, Dataset.level?, same]
  | @values field operator negated xs ys rest parsed h =>
    have same : d.level? c (.predicate ⟨field, operator, .array xs⟩) =
        d.level? c (.predicate ⟨field, operator, .array ys⟩) :=
      Option.ext fun level => ⟨level?_values parsed h, level?_values parsed h.symm⟩
    rw [List.map_cons, List.map_cons, same]

/-! ## the query -/

/-- Requests with rearranged filters that are both accepted are compiled to one query, and so
planned alike for every caller. Of requests with permuted filters, both are accepted or none is. -/
theorem compile_rearranged (d : Dataset) (c : Ceilings) (request : Request)
    (filters : List Filter) :
    (∀ q q', Filter.Rearranged .and request.filters filters →
      (∀ f ∈ request.filters, f.IsPlain) → d.compile c request = .ok q →
      d.compile c { request with filters } = .ok q' →
        q = q' ∧ ∀ caller, d.plan c caller request = d.plan c caller { request with filters }) ∧
    (Filter.Permuted request.filters filters →
      ((∃ q, d.compile c request = .ok q) ↔
        ∃ q, d.compile c { request with filters } = .ok q)) := by
  constructor
  · intro q q' h plain hq hq'
    have same : q = q' := by
      obtain ⟨p, hp, rfl⟩ := compile_eq_ok.1 hq
      obtain ⟨p', hp', rfl⟩ := compile_eq_ok.1 hq'
      obtain ⟨dimensions, projection, selection, having, order, limit⟩ := p
      obtain ⟨dimensions', projection', selection', having', order', limit'⟩ := p'
      cases hp.dimensions.symm.trans hp'.dimensions
      cases hp.projection.symm.trans hp'.projection
      cases conditions_rearranged h plain hp.conditions hp'.conditions
      cases hp.order.symm.trans hp'.order
      cases hp.limit.symm.trans hp'.limit
      rfl
    refine ⟨same, fun caller => ?_⟩
    unfold Dataset.plan
    rw [hq, hq', same]
  · intro h
    have accepted (l : List Filter) :
        (∀ f ∈ l, (d.level? c f).isSome) ↔ ∀ own ∈ l.map (d.level? c), own.isSome := by simp
    rw [exists_compile, exists_compile, accepts_congr h.depthAll_eq]
    rw [accepted, accepted]
    simp only [h.levels_perm.mem_iff]

/-! ## orders by region -/

def regroupedFilters : List Filter :=
  [atLeastTen, .or [.and [ordersIn ["south", "north"]], notBigInNorth], atLeastTen]

def permutedFilters : List Filter :=
  [.or [.or [ordersIn ["north", "south", "south"]], notBigInNorth], atLeastTen]

theorem rearranged_orders : Filter.Rearranged .and nestedFilters regroupedFilters := by
  have parsed : Operator.parse? "in" = some (.among false) := rfl
  have values : Filter.Rearranged .or [ordersIn ["south", "north", "south"], notBigInNorth]
      [ordersIn ["south", "north"], notBigInNorth] :=
    .values parsed (by simp; tauto)
  have parts : Filter.Rearranged .or [notBigInNorth, .or [ordersIn ["south", "north", "south"]]]
      [.and [ordersIn ["south", "north"]], notBigInNorth] :=
    .trans (.perm (.swap (Filter.or _) _ []))
      (.trans (.regrouped (k := .or)) (.trans values (.wrapped (j := .and))))
  exact .trans (.inGroup (j := .or) parts) (.repeated (by simp))

theorem permuted_orders : Filter.Permuted nestedFilters permutedFilters := by
  have parsed : Operator.parse? "in" = some (.among false) := rfl
  have values : Filter.Permuted [ordersIn ["south", "north", "south"]]
      [ordersIn ["north", "south", "south"]] :=
    .values parsed (.swap (Json.text "north") (.text "south") _)
  exact .inGroup (k := .or)
    (.trans (.perm (.swap (Filter.or _) _ [])) (.inGroup (k := .or) values))

theorem plain_orders : ∀ f ∈ nestedFilters, f.IsPlain := by
  have plain : MachineNumber.IsPlain 2.5 := ⟨by decide, by decide⟩
  simp [nestedFilters, notBigInNorth, atLeastTen, ordersIn, Filter.IsPlain, Filter.AllPlain,
    Predicate.IsPlain, Json.constants, plain]

theorem compile_rearranged_orders :
    (∃ q q', orders.compile {} (ordersRequest nestedFilters) = .ok q ∧
      orders.compile {} (ordersRequest regroupedFilters) = .ok q' ∧ q = q' ∧
      ∀ caller, orders.plan {} caller (ordersRequest nestedFilters) =
        orders.plan {} caller (ordersRequest regroupedFilters)) ∧
    ((∃ q, orders.compile {} (ordersRequest nestedFilters) = .ok q) ↔
      ∃ q, orders.compile {} (ordersRequest permutedFilters) = .ok q) := by
  obtain ⟨q, h⟩ := exists_compile.2
    (by decide : orders.accepts {} (ordersRequest nestedFilters) = true)
  obtain ⟨q', h'⟩ := exists_compile.2
    (by decide : orders.accepts {} (ordersRequest regroupedFilters) = true)
  constructor
  · exact ⟨q, q', h, h', (compile_rearranged orders {} (ordersRequest nestedFilters)
      regroupedFilters).1 q q' rearranged_orders plain_orders h h'⟩
  · exact (compile_rearranged orders {} (ordersRequest nestedFilters) permutedFilters).2
      permuted_orders

end AnalyticsGateway
