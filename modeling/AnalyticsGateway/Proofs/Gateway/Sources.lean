import AnalyticsGateway.Proofs.Cache.SingleFlight
import AnalyticsGateway.Proofs.Gateway.Isolation

/-!
# Sources that move

The key of a query tells its dataset and its SQL text, but not the source that the text is run on.
So what a caller is served was returned for the text that the caller's own plan has, though by the
source that the dataset had when that text was planned to be run (`served_own_text`). A catalog that
moves the dataset to another source does not part the two.
-/

namespace AnalyticsGateway

open SharedStore LawfulStore

theorem dataset_enforce {d : Dataset} {caller : Caller} {q r : Sql.Query}
    (h : d.enforce caller q = .ok r) : r.dataset = q.dataset := by
  have scoping := scoping_enforce d caller q
  rw [h] at scoping
  cases scoping <;> rfl

section Served

variable {σ : Type} [SharedStore σ String] [LawfulStore σ]

namespace Gateway

variable {start : Gateway σ} {history : List (Happening σ)}

/-- Numbers are as JSON can write them in all that is planned. -/
def PlansFinite (start : Gateway σ) (history : List (Happening σ)) : Prop :=
  ∀ {visit : Nat} {caller : Caller} {d : Dataset} {p : Plan},
    Planned start history visit caller d p → p.query.IsFinite

/-- Whenever a dataset of this id is planned for, it has this source. -/
def KeepsSource (start : Gateway σ) (history : List (Happening σ)) (id source : String) : Prop :=
  ∀ {visit : Nat} {caller : Caller} {d : Dataset} {p : Plan},
    Planned start history visit caller d p → d.id = id → d.source = source

variable {visit visit' : Nat} {caller caller' : Caller} {d e : Dataset} {p q : Plan}

theorem Planned.dataset_eq (h : Planned start history visit caller d p) :
    p.query.dataset = d.id := by
  obtain ⟨_, request, compiled, hcompile, henforce, -⟩ := h.exists_compile
  obtain ⟨parts, -, rfl⟩ := compile_eq_ok.1 hcompile
  exact dataset_enforce henforce

theorem Planned.sql_eq (h : Planned start history visit caller d p)
    (h' : Planned start history visit' caller' e q) (same : p.query = q.query) : p.sql = q.sql := by
  obtain ⟨_, _, _, -, -, render, -⟩ := h.exists_compile
  obtain ⟨_, _, _, -, -, render', -⟩ := h'.exists_compile
  exact Except.ok.inj (render.symm.trans (same ▸ render'))

end Gateway

open Gateway in
/-- Whatever happens to a gateway and to its catalog, in any order: what a caller is served, out of
the cache or not, are rows that a source has returned for the SQL text of the caller's own plan. It
is the source that a dataset of the same id had in the catalog by which some visit was planned, and
the one that the caller's own plan is for as long as the dataset keeps its source. -/
theorem served_own_text (settings : GatewaySettings) (engines : Engines) (catalog : Catalog)
    (processes : Nat) (now : Moment) (store : σ) (history : List (Happening σ)) (start : Gateway σ)
    (starts : start = .start settings engines catalog processes now store)
    (unwritten : ∀ k, CacheKey.Owns k → record? store k = none)
    (apart : TellsApart start history) (finite : PlansFinite start history) (id : Nat) (v : Visit)
    (result : QueryResult) (hv : (start.after history).visits[id]? = some v)
    (stage : v.stage = .done (.ok (.result result))) :
    ∃ d p, Planned start history id v.caller d p ∧
      ∃ visit caller e q made, Planned start history visit caller e q ∧ e.id = d.id ∧
        q.sql = p.sql ∧ Executed start history e.source p.sql.text made ∧
        made.Carries result.rows ∧
        (KeepsSource start history d.id d.source →
          Executed start history d.source p.sql.text made) := by
  subst starts
  have traced := Traced.after settings engines catalog processes now unwritten history
  obtain ⟨d, p, planned, made, ran, carries⟩ := traced.done hv stage
  obtain ⟨visit, caller, e, q, returned, key, executed⟩ := ran
  have same : q.query = p.query := CacheKey.eq_of_source (finite returned) (finite planned)
    (apart returned planned (returned.digest_eq planned key))
  have sameId : e.id = d.id := by rw [← returned.dataset_eq, same, planned.dataset_eq]
  have sameText : q.sql = p.sql := returned.sql_eq planned same
  rw [sameText] at executed
  refine ⟨d, p, planned, visit, caller, e, q, made, returned, sameId, sameText, executed, carries,
    fun keeps => ?_⟩
  exact keeps returned sameId ▸ executed

end Served

/-! ## steps of a cache over a store that works -/

namespace CacheCluster

variable {σ ω : Type} [SharedStore σ String] {s : CacheCluster σ ω} {id : Nat} {c : CacheCall ω}
  {f : Flight ω}

theorem look_of_absent {key : CacheKey} (absent : get s.now key.entry s.store = none) :
    s.look [] key = .absent :=
  congrArg (fun met => Lookup.ofAnswer s.now.time.nanoseconds (.ok met)) absent

theorem stepCall_of_absent (hc : s.calls[id]? = some c) (looking : c.stage = .looking)
    (absent : get s.now c.key.entry s.store = none) :
    s.stepCall [] id = s.setCall id .joining := by
  simp only [stepCall, hc, looking, lookUp, look_of_absent absent]
  rfl

theorem stepCall_of_found {rows : RowSet} (hc : s.calls[id]? = some c)
    (looking : c.stage = .looking) (found : s.look [] c.key = .found rows) :
    s.stepCall [] id = (s.count c.process fun n => { n with hits := n.hits + 1 }).setCall id
      (.returned (c.answer s.now.clock (.ok ⟨rows, true⟩))) := by
  simp only [stepCall, hc, looking, lookUp, found]
  rfl

theorem stepFlight_of_claim (hf : s.flights[id]? = some f) (claiming : f.stage = .claiming)
    (claims : (claim s.now f.key.lease f.owner s.settings.span s.store).1 = true) :
    s.stepFlight [] id =
      { s with
        store := (claim s.now f.key.lease f.owner s.settings.span s.store).2
        }.setFlight id .rechecking := by
  have answer : s.useStore [] .claim (claim s.now f.key.lease f.owner s.settings.span) =
      (.ok true, { s with
        store := (claim s.now f.key.lease f.owner s.settings.span s.store).2 }) :=
    congrArg (fun won => (Except.ok won, _)) claims
  simp only [stepFlight, hf, claiming, claimLease, answer]

theorem stepFlight_of_absent (hf : s.flights[id]? = some f) (rechecking : f.stage = .rechecking)
    (absent : get s.now f.key.entry s.store = none) :
    s.stepFlight [] id = (s.countExecution f.process).setFlight id
      (.running (some (s.now.clock.add s.settings.renewal))) := by
  simp only [stepFlight, hf, rechecking, recheck, look_of_absent absent]
  rfl

/-- Where the cache has no records, there is no entry, and the lease of a key is free. -/
theorem claim_of_unwritten {σ : Type} [SharedStore σ String] [LawfulStore σ] {store : σ}
    (unwritten : ∀ k, CacheKey.Owns k → record? store k = none) {key : CacheKey}
    (own : CacheKey.Owns key.text) (now : Moment) (owner : String) (span : Duration) :
    get now key.entry store = none ∧ (claim now key.lease owner span store).1 = true ∧
      get now key.entry (claim now key.lease owner span store).2 = none := by
  have noEntry := unwritten key.entry (CacheKey.owns_entry own)
  have noLease := unwritten key.lease (CacheKey.owns_lease own)
  obtain ⟨won, records⟩ : (claim now key.lease owner span store).1 = true ∧
      ∀ k, record? (claim now key.lease owner span store).2 k =
        if key.lease = k then some (owner, after now span) else record? store k :=
    claim_of_absent owner span fun _ _ h => nomatch noLease.symm.trans h
  refine ⟨?_, won, ?_⟩
  · rw [LawfulStore.get_eq, noEntry]
    rfl
  · have other := (CacheKey.entry_ne_lease key key).symm
    rw [LawfulStore.get_eq, records, if_neg other, noEntry]
    rfl

end CacheCluster

/-! ## a dataset that is moved -/

namespace SourceSample

open IsolationSample (analyst)

def dataset (source : String) : Dataset := { orders with source, tenantColumn := some "tenant" }

def catalog (source : String) (version : Nat) : Catalog where
  current := ⟨.ofList [("orders", dataset source)], version⟩
  sources := .ofList [("archive", .postgresql), ("warehouse", .postgresql)]

def engines : Engines := .ofList [("archive", .postgresql), ("warehouse", .postgresql)]

def gateway : Gateway (MemoryStore String) :=
  .start {} engines (catalog "warehouse" 1) 1 ⟨.zero, 0⟩ {}

def counted : RowSet := ⟨[⟨"count", "int8"⟩], [[.integer 3]]⟩

/-- The analyst asks twice, -/
def entering : List (Happening (MemoryStore String)) :=
  [.visit 0 analyst (.query (ordersRequest [])), .stepVisit 0 [],
    .visit 0 analyst (.query (ordersRequest [])), .stepVisit 1 []].map .event

/-- a query is sent off for the first visit, -/
def sending : List (Happening (MemoryStore String)) :=
  [.stepVisit 0 [], .stepCall 0 [], .stepCall 0 [], .stepFlight 0 [], .stepFlight 0 [],
    .startJob (.flight 0)].map .event

/-- its rows are published before the dataset is moved, -/
def moving : List (Happening (MemoryStore String)) :=
  [.answerJob (.flight 0) (.ok counted), .stepFlight 0 [],
    .replaceCatalog [dataset "archive"]].map .event

/-- and the second visit looks for rows. -/
def looking : List (Happening (MemoryStore String)) :=
  [.stepVisit 1 [], .stepCall 1 [], .stepVisit 1 []].map .event

def history : List (Happening (MemoryStore String)) := entering ++ sending ++ moving ++ looking

/-! ### states of the run

They are told by the plan's key and its text, whatever these are, so no digest is computed. -/

section States

variable (key : CacheKey) (text : String)

def due : Instant := Duration.zero.add ({} : LeaseSettings).renewal

def deadline : Instant := Duration.zero.add (.ofSeconds 30)

def call (source : String) (stage : CallStage) : CacheCall Job where
  process := 0
  key
  ttl := .ofSeconds 300
  deadline
  job := ⟨source, ⟨text, .postgresql⟩, deadline⟩
  started := .zero
  stage

def flight (stage : FlightStage) : Flight Job :=
  { (call key text "warehouse" .joining).toCacheRequest with
    owner := toString 0, started := .zero, stage }

def cluster (store : MemoryStore String) (process : CacheProcess) (calls : List (CacheCall Job))
    (flights : List (Flight Job)) : CacheCluster (MemoryStore String) Job where
  now := ⟨.zero, 0⟩
  settings := {}
  store
  processes := [process]
  calls
  flights

def asked (stage : VisitStage) : Visit := ⟨0, analyst, .query (ordersRequest []), .zero, stage⟩

/-- The first visit's call waits for its flight. -/
def aboard (store : MemoryStore String) (stats : CacheStats) (later : List (CacheCall Job))
    (stage : FlightStage) : CacheCluster (MemoryStore String) Job :=
  cluster store ⟨stats, .ofList [(key.text, 0)]⟩ (call key text "warehouse" (.flying 0) :: later)
    [flight key text stage]

def state (source : String) (version : Nat) (cache : CacheCluster (MemoryStore String) Job)
    (dispatches : List (Runner × Dispatch)) (first second : VisitStage) :
    Gateway (MemoryStore String) where
  settings := {}
  engines
  catalog := catalog source version
  cache
  dispatches
  visits := [asked first, asked second]

def sent : Dispatch := ⟨"warehouse", text, deadline.sub .zero, .zero, .calling false⟩

def entry : CacheEntry := .new counted (.ofSeconds 300) 0

def hit (rows : RowSet) : QueryResult := ⟨rows, (Duration.zero.sub .zero).milliseconds, true⟩

def entered : MemoryStore String := (gateway.after entering).cache.store

def claimed (store : MemoryStore String) : Bool × MemoryStore String :=
  claim ⟨.zero, 0⟩ key.lease (toString 0) (.ofSeconds 10) store

def published (store : MemoryStore String) : MemoryStore String :=
  publish ⟨.zero, 0⟩ key.entry entry.text (.ofSeconds 300) key.lease (toString 0) store

end States

/-! ### the store -/

/-- A store that holds nothing but the bucket of a caller has no record of the cache. -/
theorem record?_of_bucket (caller : Caller) {store : MemoryStore String}
    (names : store.slots.entries.map (·.1) = [RateLimiter.bucketKey .query caller.keyId])
    {k : String} (own : CacheKey.Owns k) : record? store k = none := by
  obtain ⟨e, entries, name⟩ := List.map_eq_singleton_iff.1 names
  have other : e.1 ≠ k := by
    rintro rfl
    exact not_owns_bucketKey .query caller.keyId (name ▸ own)
  change (SortedMap.lookup k store.slots.entries).map _ = none
  rw [entries, SortedMap.lookup, if_neg other]
  rfl

theorem record?_entered {k : String} (own : CacheKey.Owns k) : record? entered k = none :=
  record?_of_bucket analyst (by decide +kernel) own

section Run

variable {key : CacheKey} {text : String} {query : Sql.Query}

theorem claimed_entered (own : CacheKey.Owns key.text) :
    get ⟨.zero, 0⟩ key.entry entered = none ∧ (claimed key entered).1 = true ∧
      get ⟨.zero, 0⟩ key.entry (claimed key entered).2 = none :=
  CacheCluster.claim_of_unwritten (fun _ => record?_entered) own _ _ _

theorem get_published (store : MemoryStore String) :
    get ⟨.zero, 0⟩ key.entry (published key store) = some entry.text := by
  have record : record? (published key store) key.entry =
      some (entry.text, Instant.after? .zero (.ofSeconds 300)) := by
    have other := (CacheKey.entry_ne_lease key key).symm
    rw [published, publish_eq]
    refine record?_release_of_other ?_ fun same => absurd same other
    rw [record?_set, if_pos rfl]
    rfl
  have live : (Instant.after? .zero (.ofSeconds 300)).all (Duration.zero < ·) = true := by
    decide +kernel
  rw [LawfulStore.get_eq, record, Option.filter_some]
  exact congrArg (Option.map Prod.fst) (if_pos live)

def entryText : String :=
  "\x7b\"columns\":[\x7b\"name\":\"count\",\"data_type\":\"int8\"\x7d],\"rows\":[[3]]," ++
    "\"created_at\":\"1970-01-01T00:00:00Z\",\"ttl_secs\":300\x7d"

theorem holdsEntry_aboard (store : MemoryStore String) (stats : CacheStats)
    (later : List (CacheCall Job)) (stage : FlightStage) :
    (aboard key text (published key store) stats later stage).HoldsEntry key := by
  have written : entry.text = entryText := by decide +kernel
  have readable : ∃ read, CacheEntry.ofText? entryText = some read ∧ read.isExpired 0 = false := by
    have fresh : (CacheEntry.ofText? entryText).any (!·.isExpired 0) = true := by decide +kernel
    simpa [Option.any_eq_true] using fresh
  obtain ⟨read, eq, fresh⟩ := readable
  exact ⟨entry.text, read, get_published store, written ▸ eq, fresh⟩

/-! ### the run -/

theorem arrive_cluster (store : MemoryStore String) (process : CacheProcess)
    (calls : List (CacheCall Job)) (flights : List (Flight Job)) (source : String) :
    (cluster store process calls flights).arrive (call key text source .looking).toCacheRequest =
      cluster store process (calls ++ [call key text source .looking]) flights := by
  have cached : Duration.ofSeconds 300 ≠ .zero := by decide
  exact congrArg
    (fun stage => cluster store process (calls ++ [call key text source stage]) flights)
    (if_neg cached)

theorem start_sent :
    Dispatch.start engines "warehouse" ⟨text, .postgresql⟩ (deadline.sub .zero) .zero =
      sent text := by
  have engine : engines.get? "warehouse" = some .postgresql := by decide
  have early : ¬Duration.zero.add (deadline.sub .zero) ≤ .zero := by decide
  simp only [Dispatch.start, engine]
  rw [if_neg (by decide)]
  exact if_neg early

set_option maxRecDepth 4000 in
theorem after_entering : gateway.after entering =
    state "warehouse" 1 (cluster entered {} [] []) [] .preparing .preparing := by rfl

theorem stepCache_state (source : String) (version : Nat)
    (cache : CacheCluster (MemoryStore String) Job) (dispatches : List (Runner × Dispatch))
    (first second : VisitStage) (event : CacheEvent Job) :
    (state source version cache dispatches first second).stepCache event =
      state source version (cache.step event) dispatches first second := rfl

theorem plan_state (plan : ∀ source, (dataset source).plan {} analyst (ordersRequest []) =
    .ok ⟨query, ⟨text, .postgresql⟩, key⟩) (source : String) (version : Nat)
    (cache : CacheCluster (MemoryStore String) Job) (dispatches : List (Runner × Dispatch))
    (first second : VisitStage) :
    (state source version cache dispatches first second).plan analyst (ordersRequest []) =
      .ok (dataset source, ⟨query, ⟨text, .postgresql⟩, key⟩) :=
  Gateway.plan_eq_ok.2 ⟨rfl, plan source⟩

variable (plan : ∀ source, (dataset source).plan {} analyst (ordersRequest []) =
    .ok ⟨query, ⟨text, .postgresql⟩, key⟩) {store : MemoryStore String}

include plan in
theorem after_sending (absent : get ⟨.zero, 0⟩ key.entry store = none)
    (won : (claimed key store).1 = true)
    (still : get ⟨.zero, 0⟩ key.entry (claimed key store).2 = none) :
    (state "warehouse" 1 (cluster store {} [] []) [] .preparing .preparing).after sending =
      state "warehouse" 1
        (aboard key text (claimed key store).2 { executions := 1 } [] (.running (some due)))
        [(.flight 0, sent text)] (.fetching 0) .preparing := by
  let c (stage : CallStage) := cluster store {} [call key text "warehouse" stage] []
  have arrives : (state "warehouse" 1 (cluster store {} [] []) [] .preparing .preparing).stepVisit
      [] 0 = state "warehouse" 1 (c .looking) [] (.fetching 0) .preparing := by
    rw [Gateway.stepVisit_of_plan [] rfl rfl rfl (plan_state plan ..)]
    exact congrArg (fun c => state "warehouse" 1 c [] (.fetching 0) .preparing)
      (arrive_cluster ..)
  have looks : (c .looking).stepCall [] 0 = c .joining :=
    CacheCluster.stepCall_of_absent (c := call key text "warehouse" .looking) rfl rfl absent
  have joins : (c .joining).stepCall [] 0 = aboard key text store {} [] .claiming := rfl
  have wins : (aboard key text store {} [] .claiming).stepFlight [] 0 =
      aboard key text (claimed key store).2 {} [] .rechecking :=
    CacheCluster.stepFlight_of_claim (f := flight key text .claiming) rfl rfl won
  have starts : (aboard key text (claimed key store).2 {} [] .rechecking).stepFlight [] 0 =
      aboard key text (claimed key store).2 { executions := 1 } [] (.running (some due)) :=
    CacheCluster.stepFlight_of_absent (f := flight key text .rechecking) rfl rfl still
  simp only [Gateway.after, sending, List.map_cons, List.map_nil, List.foldl_cons, List.foldl_nil,
    Gateway.undergo, Gateway.step, arrives, stepCache_state, CacheCluster.step, looks, joins, wins,
    starts]
  change Gateway.settle _ _ (Dispatch.start engines "warehouse" ⟨text, .postgresql⟩
    (deadline.sub .zero) .zero) = _
  rw [start_sent]
  rfl

theorem after_moving (key : CacheKey) (text : String) (store : MemoryStore String) :
    (state "warehouse" 1 (aboard key text store { executions := 1 } [] (.running (some due)))
      [(.flight 0, sent text)] (.fetching 0) .preparing).after moving =
    state "archive" 2
      (aboard key text (published key store) { executions := 1 } []
        (.landed (.ok ⟨counted, false⟩))) [] (.fetching 0) .preparing := rfl

include plan in
theorem after_looking {stage : FlightStage} {rows : RowSet}
    (found : (aboard key text store { executions := 1 } [call key text "archive" .looking]
      stage).look [] key = .found rows) :
    (state "archive" 2 (aboard key text store { executions := 1 } [] stage) [] (.fetching 0)
      .preparing).after looking =
    state "archive" 2
      (aboard key text store { executions := 1, hits := 1 }
        [call key text "archive" (.returned (.ok (hit rows)))] stage) [] (.fetching 0)
      (.done (.ok (.result (hit rows)))) := by
  have arrives : (state "archive" 2 (aboard key text store { executions := 1 } [] stage) []
      (.fetching 0) .preparing).stepVisit [] 1 =
      state "archive" 2 (aboard key text store { executions := 1 }
        [call key text "archive" .looking] stage) [] (.fetching 0) (.fetching 1) := by
    rw [Gateway.stepVisit_of_plan [] rfl rfl rfl (plan_state plan ..)]
    exact congrArg (fun c => state "archive" 2 c [] (.fetching 0) (.fetching 1))
      (arrive_cluster ..)
  have serves : (aboard key text store { executions := 1 }
        [call key text "archive" .looking] stage).stepCall [] 1 =
      aboard key text store { executions := 1, hits := 1 }
        [call key text "archive" (.returned (.ok (hit rows)))] stage :=
    CacheCluster.stepCall_of_found (c := call key text "archive" .looking) rfl rfl found
  simp only [Gateway.after, looking, List.map_cons, List.map_nil, List.foldl_cons, List.foldl_nil,
    Gateway.undergo, Gateway.step, arrives, stepCache_state, CacheCluster.step, serves]
  rfl

end Run

/-- The plan for the dataset does not tell its source. -/
theorem exists_plan : ∃ query text key, query.IsFinite ∧ ∀ source,
    (dataset source).plan {} analyst (ordersRequest []) =
      .ok ⟨query, ⟨text, .postgresql⟩, key⟩ := by
  have plain : ((dataset "warehouse").plan {} analyst (ordersRequest [])).toOption.any
      (fun p => p.sql.dialect = .postgresql ∧ p.query.literals = []) = true := by decide +kernel
  cases h : (dataset "warehouse").plan {} analyst (ordersRequest []) with
  | error e =>
    rw [h] at plain
    cases plain
  | ok p =>
    obtain ⟨query, ⟨text, dialect⟩, key⟩ := p
    rw [h] at plain
    obtain ⟨rfl, none⟩ : dialect = .postgresql ∧ query.literals = [] := of_decide_eq_true plain
    refine ⟨query, text, key, fun l hl => ?_, fun source => Eq.trans ?_ h⟩
    · rw [none] at hl
      cases hl
    · rfl

open Gateway

theorem planned_of_preparing {query : Sql.Query} {text : String} {key : CacheKey}
    (plan : ∀ source, (dataset source).plan {} analyst (ordersRequest []) =
      .ok ⟨query, ⟨text, .postgresql⟩, key⟩)
    {before : List (Happening (MemoryStore String))} {id : Nat} {source : String} {version : Nat}
    {cache : CacheCluster (MemoryStore String) Job} {first second : VisitStage}
    (known : before ++ [.event (.stepVisit id [])] <+: history)
    (eq : gateway.after before = state source version cache [] first second)
    (preparing : [asked first, asked second][id]? = some (asked .preparing)) :
    Planned gateway history id analyst (dataset source) ⟨query, ⟨text, .postgresql⟩, key⟩ := by
  refine ⟨before, [], asked .preparing, ordersRequest [], known, ?_, rfl, rfl, rfl, ?_⟩ <;> rw [eq]
  · exact preparing
  · exact plan_state plan ..

theorem before_answer {before : List (Happening (MemoryStore String))} {runner : Runner}
    {rows : RowSet} (known : before ++ [.event (.answerJob runner (.ok rows))] <+: history) :
    before = entering ++ sending ∧ runner = .flight 0 := by
  obtain ⟨same, short, place⟩ := place_of_concat known
  change before.length < 16 at short
  generalize before.length = n at same short place
  interval_cases n
  all_goals cases place
  exact ⟨same, rfl⟩

theorem visit_of_planned {visit : Nat} {caller : Caller} {d : Dataset} {p : Plan}
    (h : Planned gateway history visit caller d p) : visit = 0 ∨ visit = 1 := by
  obtain ⟨before, failing, -, -, known, -⟩ := h
  obtain ⟨-, short, place⟩ := place_of_concat known
  change before.length < 16 at short
  generalize before.length = n at short place
  interval_cases n
  all_goals cases place
  all_goals decide

/-- Both visits have the same plan, the second one's for the dataset at its new source, though its
rows are those that were published for the first one. -/
theorem exists_run : ∃ p rows, p.query.IsFinite ∧
    Planned gateway history 0 analyst (dataset "warehouse") p ∧
    Planned gateway history 1 analyst (dataset "archive") p ∧
    (gateway.after history).visits[1]? = some (asked (.done (.ok (.result (hit rows))))) ∧
    ∀ source sql made, Executed gateway history source sql made → source = "warehouse" := by
  obtain ⟨query, text, key, finite, plan⟩ := exists_plan
  have first : Planned gateway history 0 analyst (dataset "warehouse")
      ⟨query, ⟨text, .postgresql⟩, key⟩ :=
    planned_of_preparing plan ⟨_, rfl⟩ after_entering rfl
  obtain ⟨_, -, -, -, made⟩ := AnalyticsGateway.plan_eq_ok.1 (plan "warehouse")
  obtain ⟨absent, won, still⟩ := claimed_entered (CacheKey.owns_of_ofQuery made)
  have sends := after_sending plan absent won still
  rw [← after_entering, ← after_append] at sends
  have moves := after_moving key text (claimed key entered).2
  rw [← sends, ← after_append] at moves
  obtain ⟨rows, found⟩ := CacheCluster.look_of_holdsEntry
    (holdsEntry_aboard (claimed key entered).2 { executions := 1 }
      [call key text "archive" .looking] (.landed (.ok ⟨counted, false⟩)))
  have looks := after_looking plan found
  rw [← moves, ← after_append] at looks
  refine ⟨_, rows, finite, first, planned_of_preparing plan ⟨_, rfl⟩ moves rfl, ?_, ?_⟩
  · rw [history, looks]
    rfl
  · rintro source sql made ⟨before, runner, d, again, known, hd, -, rfl, -⟩
    obtain ⟨rfl, rfl⟩ := before_answer known
    rw [sends] at hd
    cases hd
    rfl

end SourceSample

open IsolationSample (analyst) in
open SourceSample Gateway in
theorem served_own_text_moved : ∃ p result made,
    (gateway.after history).visits[1]? = some (asked (.done (.ok (.result result)))) ∧
      result.cacheHit = true ∧ Planned gateway history 1 analyst (dataset "archive") p ∧
      Executed gateway history "warehouse" p.sql.text made ∧ made.Carries result.rows := by
  obtain ⟨p, rows, finite, first, second, served, ran⟩ := exists_run
  have same {visit : Nat} {caller : Caller} {d : Dataset} {q : Plan}
      (h : Planned gateway history visit caller d q) : q = p := by
    obtain rfl | rfl := visit_of_planned h
    · exact (h.unique first).2
    · exact (h.unique second).2
  have apart : TellsApart gateway history := fun h h' _ => by rw [same h, same h']
  have plansFinite : PlansFinite gateway history := fun h => same h ▸ finite
  obtain ⟨d, q, planned, visit, caller, e, other, made, -, -, -, executed, carries, -⟩ :=
    served_own_text {} engines (catalog "warehouse" 1) 1 ⟨.zero, 0⟩ {} history gateway rfl
      (fun _ _ => rfl) apart plansFinite 1 _ (hit rows) served rfl
  obtain ⟨rfl, rfl⟩ := planned.unique second
  exact ⟨q, hit rows, made, served, rfl, planned, ran _ _ _ executed ▸ executed, carries⟩

open IsolationSample (analyst) in
open SourceSample Gateway in
/-- A hit may serve rows of another source than the one that the dataset has by now. -/
theorem served_other_source : ∃ p result,
    (gateway.after history).visits[1]? = some (asked (.done (.ok (.result result)))) ∧
      result.cacheHit = true ∧ Planned gateway history 1 analyst (dataset "archive") p ∧
      ∀ made, ¬Executed gateway history (dataset "archive").source p.sql.text made := by
  obtain ⟨p, rows, -, -, second, served, ran⟩ := exists_run
  refine ⟨p, hit rows, served, rfl, second, fun made executed => ?_⟩
  exact absurd (ran _ _ _ executed) (by decide)

end AnalyticsGateway
