import AnalyticsGateway.Catalog.Encoding
import AnalyticsGateway.Proofs.Compile.Filter
import AnalyticsGateway.Proofs.Json.ReadBack
import AnalyticsGateway.Proofs.Json.Values
import AnalyticsGateway.Request.Encoding

/-!
# Documents are read back

Requests and datasets are read as they were written, if their numbers are within bounds, and those
of any that was read are (`documents_readBack`). A filter is written with one of the keys `and`,
`or` and `not`, or as a predicate with none of them, so it is read by the alternative it was written
by (`Filter.ofJson?_toJson`). A request also comes back from its text, if the values in its filters
do (`Request.ofText_compact`).
-/

namespace AnalyticsGateway

/-! ## filters -/

theorem Predicate.ofJson?_toJson (p : Predicate) : ofJson? p.toJson = some p := by
  rw [ofJson?, toJson, Json.record?_object (by decide) rfl]
  rfl

namespace Filter

theorem toJson_group (k : Sql.Connective) (parts : List Filter) :
    (group k parts).toJson = .object [(k.word, .array (toJsonAll parts))] := by
  cases k <;> rw [group, toJson] <;> rfl

theorem ofItems?_toJsonAll {parts : List Filter}
    (h : ∀ part ∈ parts, ofJson? part.toJson = some part) :
    ofItems? (toJsonAll parts) = some parts := by
  induction parts with
  | nil => rw [toJsonAll, ofItems?]
  | cons part rest ih =>
    obtain ⟨first, others⟩ := List.forall_mem_cons.1 h
    rw [toJsonAll, ofItems?, first, ih others]
    rfl

/-- An object without the keys of groups and negations is none of them. -/
theorem ofReadings?_eq_none {readings : List Reading}
    (h : ∀ r ∈ readings, r.name ∉ ["and", "or", "not"]) : ofReadings? readings = none := by
  have absent (name : String) (mem : name ∈ ["and", "or", "not"]) :
      reading? readings name = none := by
    have others : readings.filter (fun r => r.name == name) = [] := by
      refine List.filter_eq_nil_iff.2 fun r inside eq => h r inside ?_
      rwa [eq_of_beq eq]
    rw [reading?, others]
  rw [ofReadings?, absent "and" (by decide), absent "or" (by decide), absent "not" (by decide)]
  rfl

theorem ofJson?_toJson (f : Filter) : ofJson? f.toJson = some f := by
  induction f using induction with
  | predicate p =>
    have leaf : ofReadings? (readings [("field", .text p.field), ("operator", .text p.operator),
        ("value", p.value)]) = none := by
      refine ofReadings?_eq_none ?_
      simp [readings]
    rw [toJson, Predicate.toJson, ofJson?, leaf, ← Predicate.toJson, p.ofJson?_toJson]
    rfl
  | not f ih =>
    have read : ofReadings? (readings [("not", f.toJson)]) = some (.not f) := by
      simp [readings, ofReadings?, reading?, ih]
    rw [toJson, ofJson?, read]
    rfl
  | group k parts ih =>
    have read : ofReadings? (readings [(k.word, .array (toJsonAll parts))]) =
        some (group k parts) := by
      have each := ofItems?_toJsonAll ih
      cases k <;>
        simp [readings, partsOfJson?, ofReadings?, reading?, Sql.Connective.word, group, each]
    rw [toJson_group, ofJson?, read]
    rfl

end Filter

/-! ## requests -/

theorem SortDirection.named?_name (direction : SortDirection) :
    named? direction.name = some direction := by
  cases direction <;> rfl

theorem SortField.ofJson?_toJson (s : SortField) : ofJson? s.toJson = some s := by
  have direction : Json.name? SortDirection.named? (.text s.direction.name) = some s.direction :=
    s.direction.named?_name
  rw [ofJson?, toJson, Json.recordOf?, Json.record?_object (by decide) rfl]
  simp [Json.Record.required, Json.Record.getD, Json.Record.get?, SortedMap.lookup, Json.text?,
    direction]

theorem SortField.fits_toJson (s : SortField) {room : Nat} :
    Json.Fits (room + 1) (.record "field" fields) s.toJson := by
  refine .record (by decide) rfl fun pair mem => ?_
  simp only [fields, Json.Field.needed, Json.Field.defaulted, List.zip_cons_cons,
    List.zip_nil_right, List.mem_cons, List.not_mem_nil, or_false] at mem
  rcases mem with rfl | rfl
  · exact .scalar (.text _) rfl
  · refine .name ?_
    cases s.direction <;> decide

namespace Request

/-- The limit and the offset are numbers of 64 bits. -/
def InBounds (r : Request) : Prop :=
  (∀ n ∈ r.limit, n < wordSize 64) ∧ ∀ n ∈ r.offset, n < wordSize 64

theorem ofJson?_toJson {r : Request} (bounds : r.InBounds) : ofJson? r.toJson = some r := by
  have record : Json.recordOf? fields r.toJson = some ⟨_⟩ :=
    Json.record?_object (by decide) rfl
  have texts (values : List String) : Json.list? Json.text? (.ofList .text values) = some values :=
    Json.list?_ofList fun _ _ => rfl
  have filters : Json.list? Filter.ofJson? (.ofList Filter.toJson r.filters) = some r.filters :=
    Json.list?_ofList fun f _ => f.ofJson?_toJson
  have sort : Json.list? SortField.ofJson? (.ofList SortField.toJson r.sort) = some r.sort :=
    Json.list?_ofList fun s _ => s.ofJson?_toJson
  have limit : Json.option? Json.natural? (.ofOption .ofNat r.limit) = some r.limit :=
    Json.option?_ofOption nofun fun n mem => Json.natural?_ofNat (bounds.1 n mem)
  have offset : Json.option? Json.natural? (.ofOption .ofNat r.offset) = some r.offset :=
    Json.option?_ofOption nofun fun n mem => Json.natural?_ofNat (bounds.2 n mem)
  unfold ofJson?
  refine Option.bind_eq_some_iff.2 ⟨_, record, ?_⟩
  refine Option.bind_eq_some_iff.2 ⟨r.dataset, rfl, ?_⟩
  refine Option.bind_eq_some_iff.2 ⟨_, texts r.dimensions, ?_⟩
  refine Option.bind_eq_some_iff.2 ⟨_, texts r.metrics, ?_⟩
  refine Option.bind_eq_some_iff.2 ⟨_, filters, ?_⟩
  refine Option.bind_eq_some_iff.2 ⟨_, sort, ?_⟩
  refine Option.bind_eq_some_iff.2 ⟨_, limit, ?_⟩
  exact Option.bind_eq_some_iff.2 ⟨_, offset, rfl⟩

/-- The values in the filters are told by their text: the reader keeps their numbers, and the whole
request opens no more containers within each other than the reader does. -/
def IsTold (r : Request) : Prop :=
  ∀ f ∈ r.filters, Json.Fits (Json.maxOpen - 2) .any f.toJson

theorem fits_toJson {r : Request} (bounds : r.InBounds) (told : r.IsTold) :
    Json.Fits Json.maxOpen (.record "request" fields) r.toJson := by
  refine .record (by decide) rfl fun pair mem => ?_
  simp only [fields, Json.Field.defaulted, List.zip_cons_cons, List.zip_nil_right, List.mem_cons,
    List.not_mem_nil, or_false] at mem
  have texts (values : List String) :
      Json.Fits (Json.maxOpen - 1) (.list .text) (.ofList .text values) := by
    refine .list fun item mem => ?_
    obtain ⟨value, -, rfl⟩ := List.mem_map.1 mem
    exact .scalar (.text value) rfl
  have number {n : Option Nat} (bound : ∀ m ∈ n, m < wordSize 64) :
      Json.Fits (Json.maxOpen - 1) (.nullable .natural) (.ofOption .ofNat n) := by
    cases n with
    | none => exact .nullable .null (.inl rfl)
    | some m =>
      have small : m < wordSize 64 := bound m rfl
      refine .nullable (.ofNat small) (.inr ?_)
      simp [Json.ofOption, Json.natural?_ofNat small]
  rcases mem with rfl | rfl | rfl | rfl | rfl | rfl | rfl
  · exact .scalar (.text _) rfl
  · exact texts r.dimensions
  · exact texts r.metrics
  · refine .list fun item mem => ?_
    obtain ⟨f, inside, rfl⟩ := List.mem_map.1 mem
    refine (told f inside).passing ?_
    rw [f.ofJson?_toJson, Option.isSome_some]
  · refine .list fun item mem => ?_
    obtain ⟨s, -, rfl⟩ := List.mem_map.1 mem
    exact s.fits_toJson
  · exact number bounds.1
  · exact number bounds.2

/-- A request is read from its text as it was written. -/
theorem ofText_compact {r : Request} (bounds : r.InBounds) (told : r.IsTold) :
    ofText r.toJson.compact = .ok r := by
  rw [ofText, Json.readAs_compact (fits_toJson bounds told)]
  simp only [bind, Except.bind, ofJson?_toJson bounds]
  rfl

theorem inBounds_of_ofJson? {json : Json} {r : Request} (h : ofJson? json = some r) :
    r.InBounds := by
  unfold ofJson? at h
  iterate 6 obtain ⟨_, -, h⟩ := Option.bind_eq_some_iff.1 h
  obtain ⟨limit, hlimit, h⟩ := Option.bind_eq_some_iff.1 h
  obtain ⟨offset, hoffset, h⟩ := Option.bind_eq_some_iff.1 h
  cases h
  exact ⟨Json.Record.lt_of_nullable hlimit, Json.Record.lt_of_nullable hoffset⟩

theorem ofJson?_of_ofText {text : String} {r : Request} (h : ofText text = .ok r) :
    ∃ json, ofJson? json = some r := by
  obtain ⟨json, -, h⟩ := bind_eq_ok.1 h
  refine ⟨json, ?_⟩
  split at h
  · rename_i request hrequest
    cases h
    exact hrequest
  · cases h

end Request

/-! ## fields -/

theorem FieldSource.ofJson?_toJson (s : FieldSource) : ofJson? s.toJson = some s := by
  cases s <;> rfl

theorem FieldSource.toJson_ne_null (s : FieldSource) : s.toJson ≠ .null := by
  cases s <;> nofun

theorem baseOfJson?_baseToJson (base : Sql.Relation) :
    baseOfJson? (baseToJson base) = some base := by
  cases base <;> rfl

theorem Json.option?_text (value : Option String) :
    Json.option? Json.text? (.ofOption .text value) = some value :=
  Json.option?_ofOption nofun fun _ _ => rfl

theorem Dimension.ofJson?_toJson (d : Dimension) : ofJson? d.toJson = some d := by
  have type : Json.name? FieldType.named? (.text d.type.name) = some d.type :=
    d.type.named?_name
  have grain : Json.option? (Json.name? TimeGrain.named?)
      (.ofOption (fun grain => .text grain.name) d.grain) = some d.grain :=
    Json.option?_ofOption nofun fun grain _ => grain.named?_name
  rw [ofJson?, toJson, Json.recordOf?, Json.record?_object (by decide) rfl]
  simp [Json.Record.required, Json.Record.getD, Json.Record.nullable, Json.Record.get?,
    SortedMap.lookup, d.source.ofJson?_toJson, type, grain, Json.option?_text]

theorem Metric.ofJson?_toJson (m : Metric) : ofJson? m.toJson = some m := by
  have aggregation : Json.name? Aggregate.named? (.text m.aggregation.name) = some m.aggregation :=
    m.aggregation.named?_name
  have source : Json.option? FieldSource.ofJson? (.ofOption FieldSource.toJson m.source) =
      some m.source :=
    Json.option?_ofOption FieldSource.toJson_ne_null fun source _ => source.ofJson?_toJson
  have type : Json.name? FieldType.named? (.text m.type.name) = some m.type :=
    m.type.named?_name
  rw [ofJson?, toJson, Json.recordOf?, Json.record?_object (by decide) rfl]
  simp [Json.Record.required, Json.Record.getD, Json.Record.nullable, Json.Record.get?,
    SortedMap.lookup, aggregation, source, type, Json.option?_text]

/-! ## joins -/

theorem JoinKey.ofJson?_toJson (k : JoinKey) : ofJson? k.toJson = some k := by
  rw [ofJson?, toJson, Json.recordOf?, Json.record?_object (by decide) rfl]
  rfl

theorem JoinDefinition.ofJson?_toJson (j : JoinDefinition) : ofJson? j.toJson = some j := by
  have kind : Json.name? Sql.JoinKind.named? (.text j.kind.name) = some j.kind :=
    j.kind.named?_name
  have keys : Json.list? JoinKey.ofJson? (.ofList JoinKey.toJson j.keys) = some j.keys :=
    Json.list?_ofList fun key _ => key.ofJson?_toJson
  rw [ofJson?, toJson, Json.recordOf?, Json.record?_object (by decide) rfl]
  simp [Json.Record.required, Json.Record.getD, Json.Record.get?, SortedMap.lookup, Json.text?,
    kind, keys]

/-! ## datasets -/

namespace Dataset

/-- The time that results are kept is a number of 64 bits. -/
def InBounds (d : Dataset) : Prop := ∀ n ∈ d.cacheSeconds, n < wordSize 64

theorem ofJson?_toJson {d : Dataset} (bounds : d.InBounds) : ofJson? d.toJson = some d := by
  have record : Json.recordOf? fields d.toJson = some ⟨_⟩ :=
    Json.record?_object (by decide) rfl
  have dialect : Json.name? Dialect.named? (.text d.dialect.name) = some d.dialect :=
    d.dialect.named?_name
  have dimensions : Json.map? Dimension.ofJson? (.ofMap Dimension.toJson d.dimensions) =
      some d.dimensions :=
    Json.map?_ofMap Dimension.ofJson?_toJson
  have metrics : Json.map? Metric.ofJson? (.ofMap Metric.toJson d.metrics) = some d.metrics :=
    Json.map?_ofMap Metric.ofJson?_toJson
  have joins : Json.list? JoinDefinition.ofJson? (.ofList JoinDefinition.toJson d.joins) =
      some d.joins :=
    Json.list?_ofList fun join _ => join.ofJson?_toJson
  have seconds : Json.option? Json.natural? (.ofOption .ofNat d.cacheSeconds) =
      some d.cacheSeconds :=
    Json.option?_ofOption nofun fun n mem => Json.natural?_ofNat (bounds n mem)
  unfold ofJson?
  refine Option.bind_eq_some_iff.2 ⟨_, record, ?_⟩
  refine Option.bind_eq_some_iff.2 ⟨d.id, rfl, ?_⟩
  refine Option.bind_eq_some_iff.2 ⟨d.source, rfl, ?_⟩
  refine Option.bind_eq_some_iff.2 ⟨_, dialect, ?_⟩
  refine Option.bind_eq_some_iff.2 ⟨_, baseOfJson?_baseToJson d.base, ?_⟩
  refine Option.bind_eq_some_iff.2 ⟨d.aliasName, rfl, ?_⟩
  refine Option.bind_eq_some_iff.2 ⟨_, dimensions, ?_⟩
  refine Option.bind_eq_some_iff.2 ⟨_, metrics, ?_⟩
  refine Option.bind_eq_some_iff.2 ⟨_, joins, ?_⟩
  refine Option.bind_eq_some_iff.2 ⟨_, Json.option?_text d.tenantColumn, ?_⟩
  refine Option.bind_eq_some_iff.2 ⟨d.tenancyRequired, rfl, ?_⟩
  refine Option.bind_eq_some_iff.2 ⟨_, seconds, ?_⟩
  exact Option.bind_eq_some_iff.2 ⟨_, Json.option?_text d.description, rfl⟩

theorem inBounds_of_ofJson? {json : Json} {d : Dataset} (h : ofJson? json = some d) :
    d.InBounds := by
  unfold ofJson? at h
  iterate 11 obtain ⟨_, -, h⟩ := Option.bind_eq_some_iff.1 h
  obtain ⟨seconds, hseconds, h⟩ := Option.bind_eq_some_iff.1 h
  obtain ⟨_, -, h⟩ := Option.bind_eq_some_iff.1 h
  cases h
  exact Json.Record.lt_of_nullable hseconds

end Dataset

/-- Requests and datasets are read as they were written, exactly those whose numbers are within
bounds. What is read from any document or text at all is within bounds, so it is the same when it is
written and read again. This is told of documents as values. Their texts give less back: an integer
of more than 64 bits comes back as a float, a float can miss its last place, and what has more than
`Json.maxOpen` containers within each other is not read at all. `Request.ofText_compact` tells which
requests come back from their texts. -/
theorem documents_readBack :
    (∀ r : Request, Request.ofJson? r.toJson = some r ↔ r.InBounds) ∧
      (∀ d : Dataset, Dataset.ofJson? d.toJson = some d ↔ d.InBounds) ∧
      (∀ json r, Request.ofJson? json = some r → Request.ofJson? r.toJson = some r) ∧
      (∀ text r, Request.ofText text = .ok r → Request.ofJson? r.toJson = some r) ∧
      ∀ json d, Dataset.ofJson? json = some d → Dataset.ofJson? d.toJson = some d := by
  refine ⟨fun r => ⟨Request.inBounds_of_ofJson?, Request.ofJson?_toJson⟩,
    fun d => ⟨Dataset.inBounds_of_ofJson?, Dataset.ofJson?_toJson⟩, fun json r read => ?_,
    fun text r read => ?_, fun json d read => ?_⟩
  · exact Request.ofJson?_toJson (Request.inBounds_of_ofJson? read)
  · obtain ⟨json, read⟩ := Request.ofJson?_of_ofText read
    exact Request.ofJson?_toJson (Request.inBounds_of_ofJson? read)
  · exact Dataset.ofJson?_toJson (Dataset.inBounds_of_ofJson? read)

namespace ReadBackSample

/-- A request with its fields in another order and under other names, with some left out and others
that it does not have; its last filter has a key of each kind of group. -/
def document : Json :=
  .object
    [("limit", .integer 10), ("note", .boolean true),
     ("filters", .array
       [.object [("op", .text "in"), ("value", .array [.text "paid"]), ("field", .text "status")],
        .object
          [("and", .null),
           ("or", .array
             [.object [("field", .text "region"), ("operator", .text "=")],
              .object [("not", .array [.text "region", .text "is null"])]])]]),
     ("dataset", .text "orders")]

def request : Request where
  dataset := "orders"
  filters :=
    [.predicate ⟨"status", "in", .array [.text "paid"]⟩,
     .or [.predicate ⟨"region", "=", .null⟩, .not (.predicate ⟨"region", "is null", .null⟩)]]
  limit := some 10

/-- A dataset with little more than its base relation. -/
def catalogEntry : Json :=
  .object
    [("owner", .text "sales"), ("source_id", .text "warehouse"), ("id", .text "orders"),
     ("base", .object [("table", .text "orders")]),
     ("dimensions", .object
       [("region", .object
         [("type", .object [("string", .null)]), ("expr", .object [("column", .text "r")])])])]

def dataset : Dataset where
  id := "orders"
  source := "warehouse"
  base := .table "orders"
  dimensions := .ofList [("region", ⟨.column "r", .string, none, none⟩)]

end ReadBackSample

open ReadBackSample in
theorem documents_readBack_sample :
    Request.ofJson? document = some request ∧ Request.ofJson? request.toJson = some request ∧
      Dataset.ofJson? catalogEntry = some dataset ∧
      Dataset.ofJson? dataset.toJson = some dataset := by
  have read : Request.ofJson? document = some request := rfl
  have loaded : Dataset.ofJson? catalogEntry = some dataset := rfl
  exact ⟨read, documents_readBack.2.2.1 document request read, loaded,
    documents_readBack.2.2.2.2 catalogEntry dataset loaded⟩

end AnalyticsGateway
