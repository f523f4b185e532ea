import AnalyticsGateway.Catalog.Validation
import AnalyticsGateway.Proofs.Compile.Filter
import Mathlib.Data.List.Infix
import Mathlib.Data.Option.Basic

/-!
# Names stand for one field

No name of a grain has an underscore, so a name that ends in a grain is cut where the grain was put
behind a field's id, even if the id ends in underscores itself (`splitLast_requestName`). In a valid
dataset no id has the separator in it, so such a name is no id, and what a name stands for is told
by its form alone (`fieldNames_unambiguous`).
-/

namespace AnalyticsGateway

namespace Dataset

/-- The name of a field in a request, at a grain or as it is. -/
def requestName (id : String) : Option TimeGrain → String
  | some grain => id ++ grainSeparator ++ grain.name
  | none => id

/-! ## cutting off the grain -/

theorem underscore_not_mem_name (grain : TimeGrain) : '_' ∉ grain.name.toList := by
  cases grain <;> decide

theorem splitLast_requestName (id : String) (grain : TimeGrain) :
    Text.splitLast grainSeparator (requestName id (some grain)) = some (id, grain.name) := by
  -- a second separator would need a second underscore after the first one
  have last : ¬['_', '_'] <:+: '_' :: grain.name.toList := by
    intro inside
    have twice := inside.sublist.count_le '_'
    rw [List.count_cons_self, List.count_cons_self (l := grain.name.toList),
      List.count_eq_zero.2 (underscore_not_mem_name grain)] at twice
    exact absurd twice (by decide)
  have cut : Text.cutLast ['_', '_'] (id.toList ++ (['_', '_'] ++ grain.name.toList)) =
      some (id.toList, grain.name.toList) := Text.cutLast_append last id.toList
  have chars : (requestName id (some grain)).toList =
      id.toList ++ (['_', '_'] ++ grain.name.toList) := by
    rw [requestName, String.toList_append, String.toList_append, List.append_assoc]
    rfl
  rw [Text.splitLast, chars]
  change (Text.cutLast ['_', '_'] (id.toList ++ (['_', '_'] ++ grain.name.toList))).map _ = _
  rw [cut, Option.map_some, String.ofList_toList, String.ofList_toList]

theorem eq_of_splitLast {name id rest : String}
    (h : Text.splitLast grainSeparator name = some (id, rest)) :
    name = id ++ grainSeparator ++ rest := by
  obtain ⟨⟨before, after⟩, cut, eq⟩ := Option.map_eq_some_iff.1 h
  cases eq
  apply String.toList_inj.1
  rw [Text.eq_of_cutLast cut, String.toList_append, String.toList_append, String.toList_ofList,
    String.toList_ofList, List.append_assoc]

theorem requestName_inj {id id' : String} {grain grain' : TimeGrain}
    (h : requestName id (some grain) = requestName id' (some grain')) :
    id = id' ∧ grain = grain' := by
  have cut := splitLast_requestName id grain
  rw [h, splitLast_requestName] at cut
  obtain ⟨same, names⟩ := Prod.mk.inj (Option.some.inj cut)
  refine ⟨same.symm, Option.some.inj ?_⟩
  rw [← grain.named?_name, ← grain'.named?_name, names]

/-- No id of a field is the name of a field at a grain. -/
theorem requestName_ne {id : String} (h : checkFieldId id = .ok ()) (other : String)
    (grain : TimeGrain) : requestName other (some grain) ≠ id := by
  rintro rfl
  unfold checkFieldId at h
  rw [splitLast_requestName, Option.isSome_some, if_pos rfl] at h
  cases h

/-! ## what names stand for -/

variable {d : Dataset} {sources : Sources}

def IsDimension (d : Dataset) (name : String) : Prop :=
  ∃ dimension, d.dimensions.get? name = some dimension

def IsMetric (d : Dataset) (name : String) : Prop := ∃ metric, d.metrics.get? name = some metric

/-- The field can be requested at a grain. -/
def IsTemporal (d : Dataset) (id : String) : Prop :=
  ∃ dimension, d.dimensions.get? id = some dimension ∧ dimension.type.isTemporal = true

def IsAtGrain (d : Dataset) (name : String) : Prop :=
  ∃ id grain, d.IsTemporal id ∧ name = requestName id (some grain)

/-- The dataset has the field, and a time to truncate if a grain is given. -/
def Offers (d : Dataset) (id : String) : Option TimeGrain → Prop
  | some _ => d.IsTemporal id
  | none => d.IsDimension id ∨ d.IsMetric id

theorem grainField?_eq_some {name : String} {field : ResolvedField} :
    d.grainField? name = some field ↔ ∃ id dimension grain,
      name = requestName id (some grain) ∧ d.dimensions.get? id = some dimension ∧
        dimension.type.isTemporal = true ∧ field = d.dimensionField dimension (some grain) := by
  unfold grainField?
  constructor
  · intro h
    obtain ⟨⟨id, rest⟩, cut, h⟩ := Option.bind_eq_some_iff.1 h
    obtain ⟨dimension, known, h⟩ := Option.bind_eq_some_iff.1 h
    obtain ⟨⟨⟩, temporal, h⟩ := Option.bind_eq_some_iff.1 h
    obtain ⟨grain, named, h⟩ := Option.bind_eq_some_iff.1 h
    cases h
    refine ⟨id, dimension, grain, ?_, known, (Option.guard_eq_some' _).1 temporal, rfl⟩
    rw [requestName, TimeGrain.name_of_named? named]
    exact eq_of_splitLast cut
  · rintro ⟨id, dimension, grain, rfl, known, temporal, rfl⟩
    simp [splitLast_requestName, known, temporal, grain.named?_name]

theorem field?_eq_some {name : String} {field : ResolvedField} (h : d.field? name = some field) :
    d.IsDimension name ∨ d.IsMetric name ∨ d.IsAtGrain name := by
  unfold field? at h
  split at h
  · rename_i dimension known
    exact .inl ⟨dimension, known⟩
  · split at h
    · rename_i metric known
      exact .inr (.inl ⟨metric, known⟩)
    · obtain ⟨id, dimension, grain, rfl, known, temporal, -⟩ := grainField?_eq_some.1 h
      exact .inr (.inr ⟨id, grain, ⟨dimension, known, temporal⟩, rfl⟩)

/-- The ids of a dataset's fields cannot be taken for each other, or for a field at a grain. -/
structure DistinctIds (d : Dataset) : Prop where
  dimension_or_metric : ∀ id, d.IsDimension id → ¬d.IsMetric id
  not_atGrain : ∀ id grain,
    ¬d.IsDimension (requestName id (some grain)) ∧ ¬d.IsMetric (requestName id (some grain))

theorem distinctIds_of_check (h : d.check sources = .ok ()) : d.DistinctIds := by
  unfold check at h
  obtain ⟨-, h⟩ := unless_eq_ok.1 h
  obtain ⟨⟨⟩, -, h⟩ := bind_eq_ok.1 h
  obtain ⟨⟨⟩, -, h⟩ := bind_eq_ok.1 h
  obtain ⟨aliases, -, h⟩ := bind_eq_ok.1 h
  obtain ⟨⟨⟩, dimensions, metrics⟩ := bind_eq_ok.1 h
  have dimension_ok {id : String} (known : d.IsDimension id) :
      checkFieldId id = .ok () ∧ ¬d.metrics.contains id = true := by
    obtain ⟨dimension, known⟩ := known
    have checked := forM_eq_ok.1 dimensions (id, dimension) (SortedMap.mem_entries_iff.2 known)
    obtain ⟨⟨⟩, own, checked⟩ := bind_eq_ok.1 checked
    exact ⟨own, (unless_eq_ok.1 checked).1⟩
  have metric_ok {id : String} (known : d.IsMetric id) : checkFieldId id = .ok () := by
    obtain ⟨metric, known⟩ := known
    have checked := forM_eq_ok.1 metrics (id, metric) (SortedMap.mem_entries_iff.2 known)
    obtain ⟨⟨⟩, own, -⟩ := bind_eq_ok.1 checked
    exact own
  constructor
  · intro id isDimension isMetric
    exact (dimension_ok isDimension).2 (SortedMap.contains_iff.2 isMetric)
  · intro id grain
    exact ⟨fun known => requestName_ne (dimension_ok known).1 id grain rfl,
      fun known => requestName_ne (metric_ok known) id grain rfl⟩

namespace DistinctIds

variable (distinct : d.DistinctIds)
include distinct

theorem field?_requestName {id : String} {dimension : Dimension}
    (known : d.dimensions.get? id = some dimension) (temporal : dimension.type.isTemporal = true)
    (grain : TimeGrain) :
    d.field? (requestName id (some grain)) = some (d.dimensionField dimension (some grain)) := by
  obtain ⟨noDimension, noMetric⟩ := distinct.not_atGrain id grain
  have first : d.dimensions.get? (requestName id (some grain)) = none :=
    Option.eq_none_iff_forall_ne_some.2 fun dimension known => noDimension ⟨dimension, known⟩
  have second : d.metrics.get? (requestName id (some grain)) = none :=
    Option.eq_none_iff_forall_ne_some.2 fun metric known => noMetric ⟨metric, known⟩
  rw [field?, first, second]
  exact grainField?_eq_some.2 ⟨id, dimension, grain, rfl, known, temporal, rfl⟩

theorem exists_field? {name : String}
    (h : d.IsDimension name ∨ d.IsMetric name ∨ d.IsAtGrain name) :
    ∃ field, d.field? name = some field := by
  rcases h with ⟨dimension, known⟩ | ⟨metric, known⟩ | ⟨id, grain, temporal, rfl⟩
  · exact ⟨_, by rw [field?, known]⟩
  · have first : d.dimensions.get? name = none :=
      Option.eq_none_iff_forall_ne_some.2 fun dimension other =>
        distinct.dimension_or_metric name ⟨dimension, other⟩ ⟨metric, known⟩
    exact ⟨_, by rw [field?, first, known]⟩
  · obtain ⟨dimension, known, temporal⟩ := temporal
    exact ⟨_, distinct.field?_requestName known temporal grain⟩

theorem offers_inj {id id' : String} {grain grain' : Option TimeGrain} (offers : d.Offers id grain)
    (offers' : d.Offers id' grain') (h : requestName id grain = requestName id' grain') :
    id = id' ∧ grain = grain' := by
  cases grain with
  | none =>
    cases grain' with
    | none => exact ⟨h, rfl⟩
    | some grain' =>
      obtain ⟨noDimension, noMetric⟩ := distinct.not_atGrain id' grain'
      rw [← h] at noDimension noMetric
      exact offers.elim (absurd · noDimension) (absurd · noMetric)
  | some grain =>
    cases grain' with
    | none =>
      obtain ⟨noDimension, noMetric⟩ := distinct.not_atGrain id grain
      rw [h] at noDimension noMetric
      exact offers'.elim (absurd · noDimension) (absurd · noMetric)
    | some grain' =>
      obtain ⟨rfl, rfl⟩ := requestName_inj h
      exact ⟨rfl, rfl⟩

end DistinctIds

/-- What the names in requests stand for. -/
structure Unambiguous (d : Dataset) : Prop where
  resolves_iff : ∀ name, (∃ field, d.resolve name = .ok field) ↔
    d.IsDimension name ∨ d.IsMetric name ∨ d.IsAtGrain name
  dimension_or_metric : ∀ name, d.IsDimension name → ¬d.IsMetric name
  dimension_or_atGrain : ∀ name, d.IsDimension name → ¬d.IsAtGrain name
  metric_or_atGrain : ∀ name, d.IsMetric name → ¬d.IsAtGrain name
  /-- The parts of a name that ends in a grain are told by the name. -/
  atGrain_inj : ∀ id id' grain grain',
    requestName id (some grain) = requestName id' (some grain') → id = id' ∧ grain = grain'
  resolve_atGrain : ∀ id dimension, d.dimensions.get? id = some dimension →
    dimension.type.isTemporal = true → ∀ grain, d.resolve (requestName id (some grain)) =
      .ok ⟨.truncated grain (d.rowTerm dimension.source), dimension.type, .rows⟩
  /-- Different fields are requested by different names. -/
  requestName_inj : ∀ id id' grain grain', d.Offers id grain → d.Offers id' grain' →
    requestName id grain = requestName id' grain' → id = id' ∧ grain = grain'

/-- In a valid dataset every field has a name of its own at every grain. -/
theorem fieldNames_unambiguous (valid : d.validate sources = .ok ()) : d.Unambiguous := by
  have distinct := distinctIds_of_check (mapError_eq_ok.1 valid)
  constructor
  case resolves_iff =>
    intro name
    simp only [resolve_eq_ok]
    exact ⟨fun ⟨field, known⟩ => field?_eq_some known, distinct.exists_field?⟩
  case dimension_or_metric => exact distinct.dimension_or_metric
  case dimension_or_atGrain =>
    rintro _ known ⟨id, grain, -, rfl⟩
    exact (distinct.not_atGrain id grain).1 known
  case metric_or_atGrain =>
    rintro _ known ⟨id, grain, -, rfl⟩
    exact (distinct.not_atGrain id grain).2 known
  case atGrain_inj => exact fun _ _ _ _ => Dataset.requestName_inj
  case resolve_atGrain =>
    intro id dimension known temporal grain
    exact resolve_eq_ok.2 (distinct.field?_requestName known temporal grain)
  case requestName_inj => exact fun _ _ _ _ => distinct.offers_inj

/-- Two dates whose ids differ in an underscore at the end. -/
def datedOrders : Dataset where
  id := "orders"
  source := "warehouse"
  base := .table "orders"
  dimensions := .ofList
    [("placed", { source := .column "placed_on", type := .date }),
     ("placed_", { source := .column "placed_at", type := .timestamp })]
  metrics := .ofList [("placed_count", { aggregation := .count })]

theorem fieldNames_unambiguous_datedOrders :
    datedOrders.validate (.ofList [("warehouse", .postgresql)]) = .ok () ∧
      datedOrders.resolve "placed__month" =
        .ok ⟨.truncated .month (.column ⟨some "base", "placed_on"⟩), .date, .rows⟩ ∧
      datedOrders.resolve "placed___month" =
        .ok ⟨.truncated .month (.column ⟨some "base", "placed_at"⟩), .timestamp, .rows⟩ := by
  have valid : datedOrders.validate (.ofList [("warehouse", .postgresql)]) = .ok () := by decide
  have names := fieldNames_unambiguous valid
  exact ⟨valid, names.resolve_atGrain "placed" _ rfl rfl .month,
    names.resolve_atGrain "placed_" _ rfl rfl .month⟩

end Dataset

end AnalyticsGateway
