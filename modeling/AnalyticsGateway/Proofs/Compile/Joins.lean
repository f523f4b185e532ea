import AnalyticsGateway.Catalog.Validation
import AnalyticsGateway.Proofs.Compile.Grouped
import Mathlib.Logic.Function.Iterate
import Mathlib.Order.Bounds.Basic

/-!
# The joins of compiled queries

The loop over the joins ends after no more passes than there are joins (`exists_iterate`), with the
least aliases that hold those it began with and the parents of their joins (`settled_withParents`,
`withParents_induction`). So a query of a valid dataset has exactly the joins that it needs, and
each of its columns is of one of its tables (`compiled_joins_least`).
-/

namespace AnalyticsGateway

open Sql (Condition)

/-! ## columns -/

namespace Sql

/-- The columns that a term is read from. -/
def Term.columns (t : Term) : List Column :=
  t.rowTerms.filterMap fun
    | .column c => some c
    | .fragment _ => none

theorem Term.mem_qualifiers {t : Term} {a : String} :
    a ∈ t.qualifiers ↔ ∃ column ∈ t.columns, column.qualifier = some a := by
  simp only [qualifiers, columns, List.mem_flatMap, List.mem_filterMap]
  constructor
  · rintro ⟨r, hr, ha⟩
    cases r with
    | column c => exact ⟨c, ⟨_, hr, rfl⟩, Option.mem_toList.1 ha⟩
    | fragment sql => cases ha
  · rintro ⟨column, ⟨r, hr, hcolumn⟩, ha⟩
    cases r with
    | column c =>
      cases hcolumn
      exact ⟨_, hr, Option.mem_toList.2 ha⟩
    | fragment sql => cases hcolumn

mutual

/-- The columns that a condition is read from, those of guards with them. -/
def Condition.columns : Condition → List Column
  | .test t _ => t.columns
  | .guard column _ => [column]
  | .not c => c.columns
  | .group _ parts => Condition.columnsAll parts

def Condition.columnsAll : List Condition → List Column
  | [] => []
  | c :: rest => c.columns ++ Condition.columnsAll rest

end

mutual

theorem Condition.columns_eq : ∀ {c : Condition}, c.guards = [] →
    c.columns = c.terms.flatMap Term.columns
  | .test .., _ => by rw [columns, terms, List.flatMap_singleton]
  | .guard .., h => by
    rw [guards] at h
    cases h
  | .not c, h => by
    rw [guards] at h
    rw [columns, terms, columns_eq h]
  | .group _ parts, h => by
    rw [guards] at h
    rw [columns, terms, columnsAll_eq h]

theorem Condition.columnsAll_eq : ∀ {parts : List Condition}, guardsAll parts = [] →
    columnsAll parts = (termsAll parts).flatMap Term.columns
  | [], _ => rfl
  | c :: rest, h => by
    rw [guardsAll, List.append_eq_nil_iff] at h
    rw [columnsAll, termsAll, columns_eq h.1, columnsAll_eq h.2, List.flatMap_append]

end

end Sql

namespace Dataset

variable {d : Dataset} {needed needed' : List String} {P : String → Prop}

/-! ## passes -/

theorem mem_foldl_addParents {joins : List JoinDefinition} (hjoins : ∀ join ∈ joins, join ∈ d.joins)
    (start : ∀ a ∈ needed, P a)
    (step : ∀ join ∈ d.joins, P join.aliasName → ∀ parent ∈ d.parents join, P parent) :
    ∀ a ∈ joins.foldl d.addParents needed, P a := by
  induction joins generalizing needed with
  | nil => exact start
  | cons join rest ih =>
    obtain ⟨known, hrest⟩ := List.forall_mem_cons.1 hjoins
    refine ih hrest fun a ha => ?_
    rcases mem_addParents.1 ha with ha | ⟨is_needed, hparent⟩
    · exact start a ha
    · exact step join known (start _ is_needed) a hparent

/-- What holds of the needed aliases, and of the parents of a join with the join, still holds after
a pass. -/
theorem followJoins_induction (start : ∀ a ∈ needed, P a)
    (step : ∀ join ∈ d.joins, P join.aliasName → ∀ parent ∈ d.parents join, P parent) :
    ∀ a ∈ d.followJoins needed, P a :=
  mem_foldl_addParents (fun _ known => known) start step

/-! ## the loop -/

theorem settled_withParents (d : Dataset) (needed : List String) :
    d.Settled (d.withParents needed) := by
  fun_induction d.withParents needed with
  | case1 needed next same => exact settled_iff.2 same
  | case2 needed next more ih => exact ih

theorem suffix_withParents (d : Dataset) (needed : List String) :
    needed <:+ d.withParents needed := by
  fun_induction d.withParents needed with
  | case1 needed next same => exact List.suffix_rfl
  | case2 needed next more ih => exact suffix_followJoins.trans ih

/-- What holds of the needed aliases, and of the parents of a join with the join, holds of all that
the loop ends with. -/
theorem withParents_induction (start : ∀ a ∈ needed, P a)
    (step : ∀ join ∈ d.joins, P join.aliasName → ∀ parent ∈ d.parents join, P parent) :
    ∀ a ∈ d.withParents needed, P a := by
  fun_induction d.withParents needed with
  | case1 needed next same => exact start
  | case2 needed next more ih => exact ih (followJoins_induction start step)

/-- Each pass but the last makes a join needed that was not. -/
theorem exists_iterate (d : Dataset) (needed : List String) :
    ∃ passes ≤ (d.unneeded needed).length,
      d.withParents needed = d.followJoins^[passes] needed := by
  fun_induction d.withParents needed with
  | case1 needed next same => exact ⟨0, Nat.zero_le _, rfl⟩
  | case2 needed next more ih =>
    obtain ⟨passes, bound, eq⟩ := ih
    exact ⟨passes + 1, Nat.lt_of_le_of_lt bound (unneeded_followJoins more), eq⟩

/-! ## needed joins -/

theorem withParents_subset_congr (sub : needed ⊆ needed') :
    d.withParents needed ⊆ d.withParents needed' :=
  withParents_induction (fun _ ha => (d.suffix_withParents needed').mem (sub ha))
    (d.settled_withParents needed')

theorem mem_aliasesIn {terms : List Sql.Term} {a : String} :
    a ∈ d.aliasesIn terms ↔ (∃ t ∈ terms, a ∈ t.qualifiers) ∨
      (∃ join ∈ d.joins, join.aliasName = a) ∧
        ∃ t ∈ terms, ∃ sql ∈ t.fragments, Text.mentionsQualifier sql a = true := by
  simp [aliasesIn, List.mem_filter]

/-- The joins of a query are told by the set of its terms. -/
theorem neededJoins_congr {terms terms' : List Sql.Term} (same : ∀ t, t ∈ terms ↔ t ∈ terms') :
    d.neededJoins terms = d.neededJoins terms' := by
  have mentioned (a : String) : a ∈ d.aliasesIn terms ↔ a ∈ d.aliasesIn terms' := by
    simp only [mem_aliasesIn, same]
  have needed (a : String) :
      a ∈ d.withParents (d.aliasesIn terms) ↔ a ∈ d.withParents (d.aliasesIn terms') :=
    ⟨fun ha => withParents_subset_congr (fun a => (mentioned a).1) ha,
      fun ha => withParents_subset_congr (fun a => (mentioned a).2) ha⟩
  simp only [neededJoins, needed]

/-- Parents are told by the keys of a join. -/
theorem mem_parents {join : JoinDefinition} {a : String} : a ∈ d.parents join ↔
    (∃ key ∈ join.keys, qualifierOf key.left = some a) ∧
      ∃ parent ∈ d.joins, parent.aliasName = a := by
  simp only [parents, List.mem_filterMap, Option.bind_eq_bind, Option.bind_eq_some_iff,
    Option.pure_def, Option.some.injEq, qualifierOf, Option.map_eq_some_iff]
  constructor
  · rintro ⟨key, hkey, cut, hcut, parent, found, rfl⟩
    have same : parent.aliasName = cut.1 := by simpa using List.find?_some found
    exact ⟨⟨key, hkey, cut, hcut, same.symm⟩, parent, List.mem_of_find?_eq_some found, rfl⟩
  · rintro ⟨⟨key, hkey, cut, hcut, rfl⟩, parent, known, same⟩
    have found : (d.join? cut.1).isSome = true :=
      List.find?_isSome.2 ⟨parent, known, by simpa using same⟩
    obtain ⟨first, hfirst⟩ := Option.isSome_iff_exists.1 found
    exact ⟨key, hkey, cut, hcut, first, hfirst, by simpa using List.find?_some hfirst⟩

/-- The joins of a catalog whose aliases qualify columns of the terms or are mentioned by their
fragments, and with each join the joins on the left of its keys. -/
structure Covers (d : Dataset) (terms : List Sql.Term) (joins : Set JoinDefinition) : Prop where
  known : ∀ join ∈ joins, join ∈ d.joins
  qualifying : ∀ join ∈ d.joins, (∃ t ∈ terms, join.aliasName ∈ t.qualifiers) → join ∈ joins
  mentioned : ∀ join ∈ d.joins, (∃ t ∈ terms, ∃ sql ∈ t.fragments,
    Text.mentionsQualifier sql join.aliasName = true) → join ∈ joins
  parents : ∀ join ∈ joins, ∀ key ∈ join.keys, ∀ parent ∈ d.joins,
    qualifierOf key.left = some parent.aliasName → parent ∈ joins

/-- The joins that terms need, as the catalog has them. -/
def joinsFor (d : Dataset) (terms : List Sql.Term) : List JoinDefinition :=
  d.joins.filter fun join => join.aliasName ∈ d.withParents (d.aliasesIn terms)

theorem mem_joinsFor {terms : List Sql.Term} {join : JoinDefinition} :
    join ∈ d.joinsFor terms ↔
      join ∈ d.joins ∧ join.aliasName ∈ d.withParents (d.aliasesIn terms) := by
  simp [joinsFor]

theorem isLeast_joinsFor (d : Dataset) (terms : List Sql.Term) :
    IsLeast {joins | d.Covers terms joins} {join | join ∈ d.joinsFor terms} := by
  have needed {a : String} (ha : a ∈ d.aliasesIn terms) :
      a ∈ d.withParents (d.aliasesIn terms) := (d.suffix_withParents _).mem ha
  refine ⟨{ known := ?_, qualifying := ?_, mentioned := ?_, parents := ?_ }, fun joins covers => ?_⟩
  · exact fun join h => (mem_joinsFor.1 h).1
  · exact fun join known h => mem_joinsFor.2 ⟨known, needed (mem_aliasesIn.2 (.inl h))⟩
  · refine fun join known h => mem_joinsFor.2 ⟨known, needed (mem_aliasesIn.2 (.inr ⟨?_, h⟩))⟩
    exact ⟨join, known, rfl⟩
  · intro join h key hkey parent known same
    obtain ⟨hjoin, is_needed⟩ := mem_joinsFor.1 h
    refine mem_joinsFor.2 ⟨known, d.settled_withParents _ join hjoin is_needed _ ?_⟩
    exact mem_parents.2 ⟨⟨key, hkey, same⟩, parent, known, rfl⟩
  · have covered : ∀ a ∈ d.withParents (d.aliasesIn terms), ∀ join ∈ d.joins,
        join.aliasName = a → join ∈ joins := by
      refine withParents_induction ?_ ?_
      · rintro _ ha join known rfl
        rcases mem_aliasesIn.1 ha with qualifies | ⟨-, mentioned⟩
        · exact covers.qualifying join known qualifies
        · exact covers.mentioned join known mentioned
      · rintro join known held _ hparent parent hknown rfl
        obtain ⟨⟨key, hkey, same⟩, -⟩ := mem_parents.1 hparent
        exact covers.parents join (held join known rfl) key hkey parent hknown same
    intro join h
    obtain ⟨known, is_needed⟩ := mem_joinsFor.1 h
    exact covered _ is_needed join known rfl

/-! ## aliases of valid datasets -/

/-- The aliases that references may be qualified with, the base's first. -/
def aliases (d : Dataset) : List String := d.aliasName :: d.joins.map (·.aliasName)

theorem checkJoins_eq_ok {known known' : List String} {joins : List JoinDefinition}
    (h : checkJoins known joins = .ok known') :
    known' = known ++ joins.map (·.aliasName) ∧ (known.Nodup → known'.Nodup) ∧
      ∀ before join after, joins = before ++ join :: after → ∀ key ∈ join.keys, ∀ a,
        qualifierOf key.left = some a → a ∈ known ++ before.map (·.aliasName) := by
  induction joins generalizing known with
  | nil =>
    cases h
    exact ⟨(List.append_nil _).symm, fun h => h, by simp⟩
  | cons first rest ih =>
    rw [checkJoins] at h
    obtain ⟨-, h⟩ := unless_eq_ok.1 h
    obtain ⟨⟨⟩, keys, h⟩ := bind_eq_ok.1 h
    obtain ⟨fresh, h⟩ := unless_eq_ok.1 h
    obtain ⟨rfl, distinct, earlier⟩ := ih h
    have fresh : first.aliasName ∉ known := by simpa using fresh
    refine ⟨by simp, fun nodup => distinct ?_, fun before join after eq key hkey a ha => ?_⟩
    · rw [← List.concat_eq_append]
      exact nodup.concat fresh
    · cases before with
      | nil =>
        cases eq
        have checked := forM_eq_ok.1 keys key hkey
        rw [ha] at checked
        dsimp only at checked
        split at checked
        · rename_i contained
          simpa using contained
        · cases checked
      | cons other before =>
        cases eq
        simpa using earlier before join after rfl key hkey a ha

/-- Qualifiers are aliases, each of one table, and joins refer to earlier ones. -/
structure Aliased (d : Dataset) : Prop where
  distinct : d.aliases.Nodup
  earlier : ∀ before join after, d.joins = before ++ join :: after → ∀ key ∈ join.keys, ∀ a,
    qualifierOf key.left = some a → a ∈ d.aliasName :: before.map (·.aliasName)
  fields : ∀ {name field}, d.field? name = some field → ∀ column ∈ field.term.columns,
    ∃ a ∈ d.aliases, column.qualifier = some a

/-- A reference is qualified by itself, or else by the alias of the base. -/
theorem qualifier_ofReference (reference aliasName : String) :
    (Sql.Column.ofReference reference aliasName).qualifier =
      some ((qualifierOf reference).getD aliasName) := by
  unfold Sql.Column.ofReference qualifierOf
  cases Text.splitFirst '.' reference <;> rfl

theorem exists_alias_of_rowTerm {field : String} {source : FieldSource} {column : Sql.Column}
    (checked : d.checkFieldSource d.aliases field source = .ok ())
    (h : d.rowTerm source = .column column) : ∃ a ∈ d.aliases, column.qualifier = some a := by
  cases source with
  | sql expression => cases h
  | column reference =>
    cases h
    refine ⟨_, ?_, qualifier_ofReference ..⟩
    rw [checkFieldSource] at checked
    cases hq : qualifierOf reference with
    | none => exact List.mem_cons_self
    | some a =>
      rw [hq] at checked
      dsimp only at checked
      split at checked
      · rename_i contained
        simpa using contained
      · cases checked

theorem exists_row_of_mem_columns {t : Sql.Term} {column : Sql.Column} (h : column ∈ t.columns) :
    .column column ∈ t.rowTerms := by
  obtain ⟨r, hr, h⟩ := List.mem_filterMap.1 h
  cases r with
  | column c => exact Option.some.inj h ▸ hr
  | fragment sql => cases h

/-- A field is read from the source of a dimension or a metric. -/
theorem exists_source_of_field {name : String} {field : ResolvedField}
    (h : d.field? name = some field) : ∀ r ∈ field.term.rowTerms, ∃ source,
      d.rowTerm source = r ∧ ((∃ id dimension, d.dimensions.get? id = some dimension ∧
        dimension.source = source) ∨ ∃ id metric, d.metrics.get? id = some metric ∧
          metric.source = some source) := by
  have dimension {id : String} {dimension : Dimension} (grain : Option TimeGrain)
      (known : d.dimensions.get? id = some dimension) :
      ∀ r ∈ (d.dimensionField dimension grain).term.rowTerms, ∃ source,
        d.rowTerm source = r ∧ ((∃ id dimension, d.dimensions.get? id = some dimension ∧
          dimension.source = source) ∨ ∃ id metric, d.metrics.get? id = some metric ∧
            metric.source = some source) := by
    have single : (d.dimensionField dimension grain).term.rowTerms =
        [d.rowTerm dimension.source] := by
      cases grain <;> rfl
    rw [single, List.forall_mem_singleton]
    exact ⟨_, rfl, .inl ⟨id, dimension, known, rfl⟩⟩
  unfold field? at h
  split at h
  · rename_i known
    cases h
    exact dimension _ known
  · split at h
    · rename_i metric known
      cases h
      intro r hr
      obtain ⟨source, hsource, rfl⟩ := Option.map_eq_some_iff.1 (Option.mem_toList.1 hr)
      exact ⟨source, rfl, .inr ⟨name, metric, known, hsource⟩⟩
    · unfold grainField? at h
      simp only [Option.bind_eq_bind, Option.bind_eq_some_iff, Option.pure_def] at h
      obtain ⟨_, _, _, known, _, _, _, _, h⟩ := h
      cases h
      exact dimension _ known

theorem aliased_of_check {sources : Sources} (h : d.check sources = .ok ()) : d.Aliased := by
  unfold check at h
  obtain ⟨-, h⟩ := unless_eq_ok.1 h
  obtain ⟨⟨⟩, -, h⟩ := bind_eq_ok.1 h
  obtain ⟨⟨⟩, -, h⟩ := bind_eq_ok.1 h
  obtain ⟨aliases, joins, h⟩ := bind_eq_ok.1 h
  obtain ⟨⟨⟩, dimensions, metrics⟩ := bind_eq_ok.1 h
  obtain ⟨rfl, distinct, earlier⟩ := checkJoins_eq_ok joins
  refine ⟨distinct (List.nodup_singleton _), earlier, fun known column hcolumn => ?_⟩
  obtain ⟨source, hrow, given⟩ :=
    exists_source_of_field known _ (exists_row_of_mem_columns hcolumn)
  rcases given with ⟨id, dimension, known, rfl⟩ | ⟨id, metric, known, hsource⟩
  · have checked := forM_eq_ok.1 dimensions (id, dimension) (SortedMap.mem_entries_iff.2 known)
    obtain ⟨⟨⟩, -, checked⟩ := bind_eq_ok.1 checked
    obtain ⟨-, checked⟩ := unless_eq_ok.1 checked
    exact exists_alias_of_rowTerm checked hrow
  · have checked := forM_eq_ok.1 metrics (id, metric) (SortedMap.mem_entries_iff.2 known)
    obtain ⟨⟨⟩, -, checked⟩ := bind_eq_ok.1 checked
    rw [hsource] at checked
    exact exists_alias_of_rowTerm checked hrow

end Dataset

/-! ## tables of queries -/

namespace Sql

/-- A column as it is written, without the implicit alias. -/
def Style.bare (s : Style) (column : Column) : Column :=
  if column.qualifier = s.implicitAlias then ⟨none, column.name⟩ else column

/-- What is written is the bare column, with its qualifier if it has one. -/
theorem Style.column_bare (s : Style) (column : Column) :
    s.column column = { s with implicitAlias := none }.column (s.bare column) := by
  obtain ⟨qualifier, name⟩ := column
  unfold bare
  split
  · rename_i implicit
    cases qualifier <;> simp_all [Style.column]
  · rename_i explicit
    cases qualifier with
    | none => rfl
    | some a => simp [Style.column, Ne.symm explicit]

namespace Query

/-- The terms that are selected or tested. -/
def readTerms (q : Query) : List Term :=
  q.projection.map (·.term) ++ (q.selection.toList ++ q.having.toList).flatMap Condition.terms

/-- All columns of a query. -/
def columns (q : Query) : List Column :=
  (q.projection.map (·.term) ++ q.grouping).flatMap Term.columns ++
    (q.selection.toList ++ q.having.toList).flatMap Condition.columns ++
      q.joins.flatMap fun join => join.conditions.flatMap fun c => [c.left, c.right]

/-- The tables that are read, the base first. -/
def relations (q : Query) : List TableRef := q.base :: q.joins.map (·.table)

/-- The table that a column is of: the first that bears its qualifier; for a bare name, the only
table. -/
def tableOf? (q : Query) (column : Column) : Option TableRef :=
  match column.qualifier with
  | some a => q.relations.find? fun table => table.aliasName = a
  | none =>
    match q.relations with
    | [table] => some table
    | _ => none

/-- Each table has an alias of its own, every column is qualified with the alias of a table, and the
conditions of a join are about its own table and one before it. -/
structure WellScoped (q : Query) : Prop where
  distinct : (q.relations.map (·.aliasName)).Nodup
  columns : ∀ column ∈ q.columns, ∃ table ∈ q.relations, column.qualifier = some table.aliasName
  earlier : ∀ before join after, q.joins = before ++ join :: after → ∀ c ∈ join.conditions,
    c.right.qualifier = some join.table.aliasName ∧
      ∃ table ∈ q.base :: before.map (·.table), c.left.qualifier = some table.aliasName

variable {q : Query} {column : Column}

/-- As it is written, a column is of the same table. -/
theorem WellScoped.tableOf?_bare (h : q.WellScoped) (hcolumn : column ∈ q.columns) :
    ∃ table ∈ q.relations, column.qualifier = some table.aliasName ∧
      q.tableOf? column = some table ∧ q.tableOf? (q.style.bare column) = some table := by
  obtain ⟨table, htable, qualified⟩ := h.columns column hcolumn
  cases hj : q.joins with
  | nil =>
    have only : q.relations = [q.base] := by rw [relations, hj, List.map_nil]
    rw [only, List.mem_singleton] at htable
    subst htable
    have bare : q.style.bare column = ⟨none, column.name⟩ := by
      rw [Style.bare, if_pos (by simp [style, hj, qualified])]
    refine ⟨q.base, by simp [only], qualified, ?_, ?_⟩
    · simp [tableOf?, qualified, only]
    · simp [tableOf?, bare, only]
  | cons join rest =>
    have bare : q.style.bare column = column := by
      rw [Style.bare, if_neg (by simp [style, hj, qualified])]
    have found : (q.tableOf? column).isSome = true := by
      rw [tableOf?, qualified]
      exact List.find?_isSome.2 ⟨table, htable, by simp⟩
    obtain ⟨first, hfirst⟩ := Option.isSome_iff_exists.1 found
    have listed := hfirst
    rw [tableOf?, qualified] at listed
    have same : first.aliasName = table.aliasName := by simpa using List.find?_some listed
    rw [bare]
    exact ⟨first, List.mem_of_find?_eq_some listed, same ▸ qualified, hfirst, hfirst⟩

theorem mem_columns_guarded {guard : Column} {tenant : String}
    (h : column ∈ (q.guarded guard tenant).columns) : column = guard ∨ column ∈ q.columns := by
  have selection : column ∈ (q.guarded guard tenant).selection.toList.flatMap Condition.columns →
      column = guard ∨ column ∈ q.selection.toList.flatMap Condition.columns := by
    rw [guarded]
    cases q.selection <;> simp [Condition.columns, Condition.columnsAll]
  simp only [columns, List.flatMap_append, List.mem_append] at h ⊢
  rcases h with (h | h | h) | h
  · exact .inr (.inl (.inl h))
  · exact (selection h).imp_right fun h => .inl (.inr (.inl h))
  · exact .inr (.inl (.inr (.inr h)))
  · exact .inr (.inr h)

/-- A guard on the base keeps to the tables of the query. -/
theorem WellScoped.guarded (h : q.WellScoped) (name tenant : String) :
    (q.guarded ⟨some q.base.aliasName, name⟩ tenant).WellScoped where
  distinct := h.distinct
  columns column hcolumn := by
    rcases mem_columns_guarded hcolumn with rfl | hcolumn
    · exact ⟨q.base, List.mem_cons_self, rfl⟩
    · exact h.columns column hcolumn
  earlier := h.earlier

end Query

end Sql

/-! ## compiled queries -/

variable {d : Dataset} {c : Ceilings} {request : Request} {q : Sql.Query}

theorem joins_compile (h : d.compile c request = .ok q) :
    q.joins = (d.joinsFor q.readTerms).map d.joinOf := by
  obtain ⟨parts, -, rfl⟩ := compile_eq_ok.1 h
  rfl

theorem base_compile (h : d.compile c request = .ok q) : q.base.aliasName = d.aliasName := by
  obtain ⟨parts, -, rfl⟩ := compile_eq_ok.1 h
  rfl

/-- What is selected or tested is a field. -/
theorem exists_field_of_mem_readTerms (h : d.compile c request = .ok q) :
    ∀ t ∈ q.readTerms, ∃ name field, d.field? name = some field ∧ field.term = t := by
  intro t ht
  rcases List.mem_append.1 ht with ht | ht
  · obtain ⟨item, hitem, rfl⟩ := List.mem_map.1 ht
    obtain ⟨field, known, same⟩ := (groupedFor_compile h).fields item hitem
    exact ⟨_, field, known, same⟩
  · obtain ⟨condition, hcondition, ht⟩ := List.mem_flatMap.1 ht
    rw [Condition.terms_eq_map_tests] at ht
    obtain ⟨x, hx, rfl⟩ := List.mem_map.1 ht
    obtain ⟨p, -, level, own⟩ :=
      exists_predicate_of_mem_tests h x (List.mem_flatMap.2 ⟨condition, hcondition, hx⟩)
    obtain ⟨field, known, same, -⟩ := askedBy_of_condition own
    exact ⟨_, field, known, same⟩

namespace Dataset.Aliased

variable (aliased : d.Aliased) (h : d.compile c request = .ok q)
include aliased h

/-- The columns of fields are of the base or of needed joins. -/
theorem exists_table {t : Sql.Term} (ht : t ∈ q.readTerms) {column : Sql.Column}
    (hcolumn : column ∈ t.columns) :
    ∃ table ∈ q.relations, column.qualifier = some table.aliasName := by
  obtain ⟨name, field, known, rfl⟩ := exists_field_of_mem_readTerms h t ht
  obtain ⟨a, ha, qualified⟩ := aliased.fields known column hcolumn
  rcases List.mem_cons.1 ha with rfl | ha
  · exact ⟨q.base, List.mem_cons_self, base_compile h ▸ qualified⟩
  · obtain ⟨join, hjoin, rfl⟩ := List.mem_map.1 ha
    have is_needed : join ∈ d.joinsFor q.readTerms :=
      (d.isLeast_joinsFor q.readTerms).1.qualifying join hjoin
        ⟨_, ht, Sql.Term.mem_qualifiers.2 ⟨column, hcolumn, qualified⟩⟩
    refine ⟨(d.joinOf join).table, List.mem_cons_of_mem _ ?_, qualified⟩
    rw [joins_compile h, List.map_map]
    exact List.mem_map_of_mem is_needed

/-- The left of a key is of the base or of an earlier join that is needed too. -/
theorem exists_earlier {before after : List Sql.Join} {join : Sql.Join}
    (hjoins : q.joins = before ++ join :: after) :
    ∀ c ∈ join.conditions, c.right.qualifier = some join.table.aliasName ∧
      ∃ table ∈ q.base :: before.map (·.table), c.left.qualifier = some table.aliasName := by
  rw [joins_compile h] at hjoins
  obtain ⟨_, _, hneeded, rfl, hrest⟩ := List.map_eq_append_iff.1 hjoins
  obtain ⟨join, _, rfl, rfl, -⟩ := List.map_eq_cons_iff.1 hrest
  obtain ⟨first, rest, hfirst, rfl, hlast⟩ := List.filter_eq_append_iff.1 hneeded
  obtain ⟨skipped, last, rfl, unneeded, is_needed, -⟩ := List.filter_eq_cons_iff.1 hlast
  have hjoin : join ∈ d.joinsFor q.readTerms := by
    rw [hneeded]
    simp
  intro condition hcondition
  obtain ⟨key, hkey, rfl⟩ := List.mem_map.1 hcondition
  refine ⟨rfl, ?_⟩
  rw [Dataset.qualifier_ofReference]
  cases hq : Dataset.qualifierOf key.left with
  | none => exact ⟨q.base, List.mem_cons_self, by rw [base_compile h]; rfl⟩
  | some a =>
    have known := aliased.earlier (first ++ skipped) join last (by simp [hfirst]) key hkey a hq
    rcases List.mem_cons.1 known with rfl | known
    · exact ⟨q.base, List.mem_cons_self, by rw [base_compile h]; rfl⟩
    · obtain ⟨parent, hparent, rfl⟩ := List.mem_map.1 known
      have covered : parent ∈ d.joinsFor q.readTerms :=
        (d.isLeast_joinsFor q.readTerms).1.parents join hjoin key hkey parent (by
          rw [hfirst]
          simpa using Or.imp_right Or.inl (List.mem_append.1 hparent)) hq
      have kept := decide_eq_true (Dataset.mem_joinsFor.1 covered).2
      have before : parent ∈ first :=
        (List.mem_append.1 hparent).resolve_right fun skip => unneeded parent skip kept
      refine ⟨(d.joinOf parent).table, List.mem_cons_of_mem _ ?_, rfl⟩
      exact List.mem_map_of_mem (List.mem_map_of_mem (List.mem_filter.2 ⟨before, kept⟩))

theorem wellScoped : q.WellScoped where
  distinct := by
    have sub : (d.joinsFor q.readTerms).Sublist d.joins := List.filter_sublist
    refine List.Nodup.sublist ?_ aliased.distinct
    rw [Sql.Query.relations, joins_compile h, List.map_cons, base_compile h, List.map_map,
      List.map_map]
    exact (sub.map _).cons_cons _
  columns column hcolumn := by
    have grouped := groupedFor_compile h
    rcases List.mem_append.1 hcolumn with hcolumn | hcolumn
    · rcases List.mem_append.1 hcolumn with hcolumn | hcolumn
      · obtain ⟨t, ht, hcolumn⟩ := List.mem_flatMap.1 hcolumn
        refine aliased.exists_table h (List.mem_append_left _ ?_) hcolumn
        rcases List.mem_append.1 ht with ht | ht
        · exact ht
        · rw [grouped.grouping] at ht
          exact List.map_subset _ (List.take_subset _ _) ht
      · obtain ⟨condition, hcondition, hcolumn⟩ := List.mem_flatMap.1 hcolumn
        have unguarded : condition.guards = [] := by
          rcases List.mem_append.1 hcondition with hs | hh
          · exact (grouped.selection condition (Option.mem_toList.1 hs)).1
          · exact (grouped.having condition (Option.mem_toList.1 hh)).1
        rw [Sql.Condition.columns_eq unguarded] at hcolumn
        obtain ⟨t, ht, hcolumn⟩ := List.mem_flatMap.1 hcolumn
        refine aliased.exists_table h (List.mem_append_right _ ?_) hcolumn
        exact List.mem_flatMap.2 ⟨condition, hcondition, ht⟩
    · obtain ⟨join, hjoin, hcolumn⟩ := List.mem_flatMap.1 hcolumn
      obtain ⟨condition, hcondition, hcolumn⟩ := List.mem_flatMap.1 hcolumn
      obtain ⟨before, after, hjoins⟩ := List.append_of_mem hjoin
      obtain ⟨right, table, htable, left⟩ := aliased.exists_earlier h hjoins condition hcondition
      have listed : ∀ table ∈ q.base :: before.map (·.table), table ∈ q.relations := by
        rw [Sql.Query.relations, hjoins, List.map_append]
        simp +contextual
      rcases List.mem_pair.1 hcolumn with rfl | rfl
      · exact ⟨table, listed table htable, left⟩
      · exact ⟨join.table, List.mem_cons_of_mem _ (List.mem_map_of_mem hjoin), right⟩
  earlier _ _ _ hjoins := aliased.exists_earlier h hjoins

/-- A query that is scoped to a caller has no columns but those and a guard's on the base. -/
theorem wellScoped_enforce {caller : Caller} {q' : Sql.Query}
    (henforce : d.enforce caller q = .ok q') : q'.WellScoped := by
  have own := aliased.wellScoped h
  have unguarded := guardedFor?_compile h
  have scoping := scoping_enforce d caller q
  rw [henforce] at scoping
  cases scoping with
  | kept guard => cases unguarded.symm.trans guard
  | bypassed | unscoped => exact ⟨own.distinct, own.columns, own.earlier⟩
  | guarded _ _ column =>
    rw [← base_compile h]
    exact own.guarded _ _

end Dataset.Aliased

/-- For a query of a valid dataset, the loop over the joins ends, and the query has the least joins
of the catalog that it needs, in their order and each once. Its columns are of its tables and its
joins refer to earlier ones; so once it is scoped to a caller, each column is written such that it
is of the same table, whether its qualifier is left out or not. -/
theorem compiled_joins_least (sources : Sources) (d : Dataset) (c : Ceilings) (request : Request)
    (q : Sql.Query) (valid : d.validate sources = .ok ()) (h : d.compile c request = .ok q) :
    (∃ passes ≤ d.joins.length, ∃ needed, ∃ joins : List JoinDefinition,
      needed = d.followJoins^[passes] (d.aliasesIn q.readTerms) ∧
      (d.followJoins needed).length = needed.length ∧
      joins = d.joins.filter (fun join => join.aliasName ∈ needed) ∧ joins.Nodup ∧
      q.joins = joins.map d.joinOf ∧
      IsLeast {joins | d.Covers q.readTerms joins} {join | join ∈ joins}) ∧
    q.WellScoped ∧
    ∀ caller q', d.enforce caller q = .ok q' → ∀ column ∈ q'.columns,
      q'.style.column column =
          { q'.style with implicitAlias := none }.column (q'.style.bare column) ∧
        ∃ table ∈ q'.relations, column.qualifier = some table.aliasName ∧
          q'.tableOf? column = some table ∧ q'.tableOf? (q'.style.bare column) = some table := by
  have aliased := Dataset.aliased_of_check (mapError_eq_ok.1 valid)
  refine ⟨?_, aliased.wellScoped h, fun caller q' henforce column hcolumn =>
    ⟨q'.style.column_bare column, (aliased.wellScoped_enforce h henforce).tableOf?_bare hcolumn⟩⟩
  obtain ⟨passes, bound, eq⟩ := d.exists_iterate (d.aliasesIn q.readTerms)
  refine ⟨passes, bound.trans (List.length_filter_le ..), _, _, eq, ?_, rfl, ?_, ?_, ?_⟩
  · exact Dataset.settled_iff.1 (d.settled_withParents _)
  · have distinct := (List.nodup_cons.1 aliased.distinct).2
    exact distinct.of_map.filter _
  · exact joins_compile h
  · exact d.isLeast_joinsFor q.readTerms

/-! ## orders by country -/

/-- The country of an order is told by its customer, not by its store. -/
def locatedOrders : Dataset := { orders with
  dimensions := .ofList [("country", { source := .column "countries.name", type := .string })]
  joins := [
    { aliasName := "stores", table := "stores", keys := [⟨"store_id", "id"⟩] },
    { aliasName := "customers", table := "customers", keys := [⟨"customer_id", "id"⟩] },
    { aliasName := "countries", table := "countries", keys := [⟨"customers.country", "code"⟩] }] }

def countriesRequest : Request where
  dataset := "orders"
  dimensions := ["country"]
  metrics := ["count"]

def warehouse : Sources := .ofList [("warehouse", .postgresql)]

theorem compiled_joins_least_countries : locatedOrders.validate warehouse = .ok () ∧
    ∃ q, locatedOrders.compile {} countriesRequest = .ok q ∧ q.WellScoped ∧
      ∃ joins : List JoinDefinition, q.joins = joins.map locatedOrders.joinOf ∧
        IsLeast {joins | locatedOrders.Covers q.readTerms joins} {join | join ∈ joins} := by
  have valid : locatedOrders.validate warehouse = .ok () := by decide
  obtain ⟨q, h⟩ := exists_compile.2
    (by decide : locatedOrders.accepts {} countriesRequest = true)
  obtain ⟨⟨_, -, _, joins, -, -, -, -, same, least⟩, wellScoped, -⟩ :=
    compiled_joins_least warehouse locatedOrders {} countriesRequest q valid h
  exact ⟨valid, q, h, wellScoped, joins, same, least⟩

/-- Only the country is selected, but its join hangs on that of the customers. -/
example : (locatedOrders.compile {} countriesRequest).toOption.map
    (·.joins.map (·.table.aliasName)) = some ["customers", "countries"] := by decide +kernel

end AnalyticsGateway
