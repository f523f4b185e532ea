import AnalyticsGateway.Proofs.Sql.Structure
import AnalyticsGateway.Proofs.Tenancy

/-!
# The clauses of a query are read as they are

Compiled conditions have no group of a single part, so the database joins them the way the query
does, and reads the guard of a tenant as one of the conditions that all rows satisfy
(`clauses_read`).
-/

namespace AnalyticsGateway

open Sql (Condition Connective Term)

/-! ## fragments -/

def FieldSource.fragments : FieldSource → List String
  | column _ => []
  | sql expression => [expression]

/-- The expressions of the catalog's author. -/
def Dataset.fragments (d : Dataset) : List String :=
  d.dimensions.entries.flatMap (fun e => e.2.source.fragments) ++
    d.metrics.entries.flatMap fun e => (e.2.source.map FieldSource.fragments).getD []

variable {d : Dataset} {c : Ceilings} {dialect : Dialect}

theorem fragments_rowTerm (d : Dataset) (source : FieldSource) :
    (d.rowTerm source).fragments = source.fragments := by
  cases source <;> rfl

theorem mem_fragments_dimension {name : String} {dimension : Dimension}
    (h : d.dimensions.get? name = some dimension) {grain : Option TimeGrain} {sql : String}
    (mem : sql ∈ (d.dimensionField dimension grain).term.fragments) : sql ∈ d.fragments := by
  have own : sql ∈ dimension.source.fragments := by
    rw [← fragments_rowTerm d]
    cases grain <;> simpa [Dataset.dimensionField, Term.fragments, Term.rowTerms] using mem
  exact List.mem_append_left _ (List.mem_flatMap.2 ⟨_, SortedMap.mem_entries_iff.2 h, own⟩)

theorem mem_fragments_field {name : String} {field : ResolvedField}
    (h : d.field? name = some field) {sql : String} (mem : sql ∈ field.term.fragments) :
    sql ∈ d.fragments := by
  unfold Dataset.field? at h
  split at h
  · rename_i dimension hd
    cases h
    exact mem_fragments_dimension hd mem
  · split at h
    · rename_i metric hm
      cases h
      refine List.mem_append_right _ (List.mem_flatMap.2 ⟨_, SortedMap.mem_entries_iff.2 hm, ?_⟩)
      cases source : metric.source with
      | none => simp [Dataset.metricField, Term.fragments, Term.rowTerms, source] at mem
      | some source' =>
        simpa [Dataset.metricField, Term.fragments, Term.rowTerms, source,
          fragments_rowTerm] using mem
    · unfold Dataset.grainField? at h
      simp only [Option.bind_eq_bind, Option.bind_eq_some_iff, Option.pure_def] at h
      obtain ⟨⟨base, grain⟩, -, dimension, hd, -, -, g, -, h⟩ := h
      cases h
      exact mem_fragments_dimension hd mem

/-! ## compiled conditions -/

namespace Sql.Condition

theorem IsReadable.partsOf_part {k : Connective} {condition : Condition}
    (h : condition.IsReadable dialect) : ∀ part ∈ partsOf k condition, part.IsReadable dialect := by
  cases condition with
  | group l parts =>
    rw [partsOf]
    split
    · rw [IsReadable] at h
      exact allReadable_iff.1 h.2
    · simpa using h
  | _ => simpa [partsOf] using h

theorem IsReadable.of_junction {k : Connective} {conditions : List Condition}
    {condition : Condition} (h : ∀ part ∈ conditions, part.IsReadable dialect)
    (joined : junction k conditions = some condition) : condition.IsReadable dialect := by
  have parts : ∀ part ∈ junctionParts k conditions, part.IsReadable dialect := by
    intro part hpart
    obtain ⟨whole, hwhole, hpart⟩ := List.mem_flatMap.1 (mem_of_mem_distinct hpart)
    exact (h whole hwhole).partsOf_part part hpart
  rcases junction_eq_some joined with one | ⟨rfl, two⟩
  · exact parts condition (one ▸ List.mem_singleton_self condition)
  · rw [IsReadable]
    exact ⟨two, allReadable_iff.2 parts⟩

end Sql.Condition

theorem readable_compileFilter (balanced : ∀ sql ∈ d.fragments, Sql.IsBalanced dialect sql)
    {f : Filter} : ∀ {condition : Condition} {level : Level},
    d.compileFilter c f = .ok (condition, level) → condition.IsReadable dialect := by
  induction f using Filter.induction with
  | predicate p =>
    intro condition level h
    rw [Dataset.compileFilter] at h
    obtain ⟨field, operator, check, hfield, -, -, rfl, -⟩ := condition_eq_ok.1 h
    rw [Condition.IsReadable]
    exact fun sql hsql => balanced sql (mem_fragments_field hfield hsql)
  | not f ih =>
    intro condition level h
    obtain ⟨inner, hf, rfl⟩ := compileFilter_not.1 h
    rw [Condition.IsReadable]
    exact ih hf
  | group k parts ih =>
    intro condition level h
    obtain ⟨conditions, hj, -, compiled⟩ := compileFilter_group.1 h
    refine Condition.IsReadable.of_junction (fun part hpart => ?_) hj
    obtain ⟨f, hf, h⟩ := exists_of_mem_forall₂ compiled hpart
    exact ih f hf h

/-! ## queries -/

def Sql.Query.clause (q : Sql.Query) (level : Level) : Option Condition :=
  level.clause (q.selection, q.having)

/-- The clauses can be read back from their text. -/
def Sql.Query.IsReadable (q : Sql.Query) : Prop :=
  ∀ level, ∀ condition ∈ q.clause level, condition.IsReadable q.dialect

theorem readable_compile (balanced : ∀ sql ∈ d.fragments, Sql.IsBalanced d.dialect sql)
    {request : Request} {q : Sql.Query} (h : d.compile c request = .ok q) : q.IsReadable := by
  have dialect : q.dialect = d.dialect := by
    obtain ⟨p, -, rfl⟩ := compile_eq_ok.1 h
    rfl
  intro level condition hclause
  obtain ⟨conditions, joined, compiled⟩ := clause_eq_some (compile_conditions h) hclause
  rw [dialect]
  refine Condition.IsReadable.of_junction (fun part hpart => ?_) joined
  obtain ⟨f, -, hf⟩ := compiled part hpart
  exact readable_compileFilter balanced hf

/-- Scoping a query leaves its clauses as they are, but for the guard before them. -/
theorem readable_enforce {caller : Caller} {q r : Sql.Query} (readable : q.IsReadable)
    (h : d.enforce caller q = .ok r) : r.IsReadable := by
  have scoping := scoping_enforce d caller q
  rw [h] at scoping
  cases scoping with
  | kept | bypassed | unscoped => exact readable
  | guarded column =>
    intro level condition hclause
    cases level with
    | groups => exact readable .groups condition hclause
    | rows =>
      have guard (column : Sql.Column) (tenant : String) :
          (Condition.guard column tenant).IsReadable q.dialect := by
        rw [Condition.IsReadable]
        trivial
      cases selection : q.selection with
      | none =>
        simp only [Sql.Query.clause, Level.clause, Sql.Query.guarded, selection] at hclause
        cases hclause
        exact guard _ _
      | some rest =>
        simp only [Sql.Query.clause, Level.clause, Sql.Query.guarded, selection] at hclause
        cases hclause
        rw [Condition.IsReadable]
        exact ⟨Nat.le_refl 2, Condition.allReadable_iff.2 (by
          simpa using ⟨guard _ _, readable .rows rest selection⟩)⟩

/-- Where a scope is enforced, the condition on rows is the guard, or the guard and another
condition. -/
theorem exists_guard {caller : Caller} {q r : Sql.Query} {tenant : String}
    (fresh : q.scope ≠ .enforced tenant) (h : d.enforce caller q = .ok r)
    (scope : r.scope = .enforced tenant) :
    ∃ column, d.tenantColumn = some column ∧
      (r.selection = some (.guard ⟨some d.aliasName, column⟩ tenant) ∨
        ∃ rest, r.selection =
          some (.group .and [.guard ⟨some d.aliasName, column⟩ tenant, rest])) := by
  have scoping := scoping_enforce d caller q
  rw [h] at scoping
  cases scoping with
  | kept => exact absurd scope fresh
  | bypassed | unscoped => cases scope
  | guarded _ _ column =>
    cases scope
    refine ⟨_, column, ?_⟩
    rw [Sql.Query.guarded]
    cases q.selection with
    | none => exact .inl rfl
    | some rest => exact .inr ⟨rest, rfl⟩

/-- The text of each clause is read as the clause is joined, and where a scope is enforced, the
guard for its tenant is one of the conditions that the text on rows joins by `AND` at the top. -/
theorem clauses_read {e : Dataset} {caller : Caller} {request : Request} {compiled q : Sql.Query}
    (balanced : ∀ sql ∈ d.fragments, Sql.IsBalanced d.dialect sql)
    (hcompile : d.compile c request = .ok compiled) (henforce : e.enforce caller compiled = .ok q) :
    (∀ level, ∀ condition ∈ q.clause level, ∀ pieces, q.style.condition condition = .ok pieces →
      ∃ o, Sql.outline? q.dialect (Sql.writePieces q.dialect pieces) = some o ∧
        q.style.outline? condition = some o) ∧
    ∀ tenant, q.scope = .enforced tenant → ∃ column condition, e.tenantColumn = some column ∧
      q.selection = some condition ∧ ∀ pieces, q.style.condition condition = .ok pieces →
        ∃ o, Sql.outline? q.dialect (Sql.writePieces q.dialect pieces) = some o ∧
          .leaf (q.style.guardNodes ⟨some e.aliasName, column⟩ tenant) ∈ o.conjuncts := by
  have readable : q.IsReadable := readable_enforce (readable_compile balanced hcompile) henforce
  have read (level : Level) (condition : Condition) (hclause : condition ∈ q.clause level)
      (pieces : List Sql.Piece) (written : q.style.condition condition = .ok pieces) :
      ∃ o, Sql.outline? q.dialect (Sql.writePieces q.dialect pieces) = some o ∧
        q.style.outline? condition = some o :=
    Sql.Style.outline?_condition (s := q.style) (readable level condition hclause) written
  refine ⟨read, fun tenant scope => ?_⟩
  have fresh : compiled.scope ≠ .enforced tenant := by
    have undecided : compiled.scope = .undecided := by
      obtain ⟨p, -, rfl⟩ := compile_eq_ok.1 hcompile
      rfl
    rw [undecided]
    exact Sql.Scope.noConfusion
  obtain ⟨column, hcolumn, one | ⟨rest, both⟩⟩ := exists_guard fresh henforce scope
  · refine ⟨column, _, hcolumn, one, fun pieces written => ?_⟩
    obtain ⟨o, text, outline⟩ := read .rows _ one pieces written
    rw [Sql.Style.outline?_guard] at outline
    exact ⟨_, text, Option.some.inj outline ▸ List.mem_singleton_self _⟩
  · refine ⟨column, _, hcolumn, both, fun pieces written => ?_⟩
    obtain ⟨o, text, outline⟩ := read .rows _ both pieces written
    obtain ⟨other, conjuncts⟩ := Sql.Style.conjuncts_guarded outline
    exact ⟨o, text, conjuncts ▸ List.mem_cons_self⟩

namespace ClausesSample

def sales : Dataset where
  id := "sales"
  source := "warehouse"
  dialect := .mysql
  base := .table "sales"
  dimensions := .ofList
    [("label", { source := .column "label", type := .string }),
     ("net", { source := .sql "price - discount", type := .float })]
  metrics := .ofList [("count", { aggregation := .count })]
  tenantColumn := some "tenant"

def byLabel : Filter := .predicate ⟨"label", "like", .text "\\' OR 1 = 1"⟩

def byNet : Filter := .predicate ⟨"net", "between", .array [.integer 1, .integer 2]⟩

def request : Request where
  dataset := "sales"
  dimensions := ["label"]
  metrics := ["count"]
  filters := [.or [byNet, .not byLabel]]

def netTest : Condition :=
  .test (.row (.fragment "price - discount")) (.between (.integer 1) (.integer 2))

def labelTest : Condition :=
  .test (.row (.column ⟨some "base", "label"⟩)) (.like "\\' OR 1 = 1" false)

def selection : Condition := .group .or [netTest, .not labelTest]

theorem conditions_request : sales.conditions {} request.filters = .ok (some selection, none) := by
  have sorted : Sql.sortByKey Condition.sortKey [netTest, .not labelTest] =
      [netTest, .not labelTest] := Sql.sortByKey_pair (by decide +kernel)
  have joined : Condition.junction .or [netTest, .not labelTest] = some selection := by
    have parts : Condition.junctionParts .or [netTest, .not labelTest] =
        [netTest, .not labelTest] := by
      rw [Condition.junctionParts]
      exact (congrArg _ sorted).trans rfl
    rw [Condition.junction, parts]
    rfl
  have filter : sales.compileFilter {} (Filter.group .or [byNet, .not byLabel]) =
      .ok (selection, .rows) :=
    compileFilter_group.2 ⟨_, joined, by simp,
      .cons rfl (.cons (compileFilter_not.2 ⟨_, rfl, rfl⟩) .nil)⟩
  have onRows : Condition.junction .and [selection] = some selection := by
    simp [Condition.junction, Condition.junctionParts, selection, Condition.partsOf,
      Sql.sortByKey, Sql.dropRepeats, Sql.dropRepeats.go]
  have onGroups : Condition.junction .and [] = none := by
    simp [Condition.junction, Condition.junctionParts, Sql.sortByKey, Sql.dropRepeats]
  refine bind_eq_ok.2 ⟨[(selection, .rows)], mapM_eq_ok.2 (.cons filter .nil), ?_⟩
  exact congrArg Except.ok (Prod.ext onRows onGroups)

def compiled : Compiled where
  dimensions := [⟨.row (.column ⟨some "base", "label"⟩), "label"⟩]
  projection :=
    [⟨.row (.column ⟨some "base", "label"⟩), "label"⟩, ⟨.aggregate .count none, "count"⟩]
  selection := some selection
  having := none
  order := []
  limit := 1000

theorem compiled_of : compiled.Of sales {} request where
  dataset := rfl
  selects := rfl
  small := rfl
  dimensions := rfl
  projection := rfl
  conditions := conditions_request
  order := rfl
  limit := rfl

def analyst : Caller := ⟨"acme", .analyst, "reports"⟩

def query : Sql.Query :=
  (compiled.query sales request).guarded ⟨some "base", "tenant"⟩ "acme"

def guarded : Condition := .group .and [.guard ⟨some "base", "tenant"⟩ "acme", selection]

end ClausesSample

open ClausesSample in
/-- A pattern with a quote and a backslash stays within its quotes, and so the caller's `OR` within
its parentheses. -/
theorem clauses_read_sales :
    (∀ sql ∈ sales.fragments, Sql.IsBalanced .mysql sql) ∧
    sales.compile {} request = .ok (compiled.query sales request) ∧
    sales.enforce analyst (compiled.query sales request) = .ok query ∧
    query.selection = some guarded ∧ ∃ pieces o, query.style.condition guarded = .ok pieces ∧
      Sql.writePieces .mysql pieces = "tenant = 'acme' AND ((price - discount) BETWEEN 1 AND 2 " ++
        "OR NOT (label LIKE '\\\\'' OR 1 = 1'))" ∧
      Sql.outline? .mysql (Sql.writePieces .mysql pieces) = some o ∧
      query.style.outline? guarded = some o ∧
      .leaf (query.style.guardNodes ⟨some "base", "tenant"⟩ "acme") ∈ o.conjuncts := by
  have balanced : ∀ sql ∈ sales.fragments, Sql.IsBalanced .mysql sql := by decide
  have hcompile : sales.compile {} request = .ok (compiled.query sales request) :=
    compile_eq_ok.2 ⟨compiled, compiled_of, rfl⟩
  have henforce : sales.enforce analyst (compiled.query sales request) = .ok query := rfl
  have written : ∃ pieces, query.style.condition guarded = .ok pieces ∧
      Sql.writePieces .mysql pieces = "tenant = 'acme' AND ((price - discount) BETWEEN 1 AND 2 " ++
        "OR NOT (label LIKE '\\\\'' OR 1 = 1'))" := ⟨_, rfl, by decide⟩
  obtain ⟨pieces, hpieces, text⟩ := written
  obtain ⟨read, guards⟩ := clauses_read balanced hcompile henforce
  obtain ⟨o, outline, same⟩ := read .rows guarded rfl pieces hpieces
  obtain ⟨column, condition, hcolumn, hselection, conjunct⟩ := guards "acme" rfl
  cases hcolumn
  cases hselection
  obtain ⟨o', outline', mem⟩ := conjunct pieces hpieces
  cases outline.symm.trans outline'
  exact ⟨balanced, hcompile, henforce, rfl, pieces, o, hpieces, text, outline, same, mem⟩

end AnalyticsGateway
