import AnalyticsGateway.Result.Schema
import Mathlib.Data.List.Chain
import Mathlib.Data.List.Induction
import Mathlib.Data.List.SplitBy
import Mathlib.Data.List.Triplewise

/-!
# Tables of a listing

An information schema lists its columns row by row, and each row is only compared with the last
table that there is. What every row keeps is that the tables are the runs of the rows so far
(`AreRuns.addRow`). So nothing is lost, and a table comes twice only if its rows do not stand
together (`tables_of_listing`).
-/

namespace AnalyticsGateway

/-- The name of a row's table, with its schema. -/
def ColumnRow.fullName (row : ColumnRow) : Option String × String := (row.schema, row.table)

/-- Whatever stands between two rows of one table is a row of it. -/
def IsContiguous (listing : List ColumnRow) : Prop :=
  listing.Triplewise fun a b c => a.fullName = c.fullName → b.fullName = a.fullName

namespace TableSchema

variable {t : TableSchema} {tables : List TableSchema} {row : ColumnRow} {listing : List ColumnRow}

def fullName (t : TableSchema) : Option String × String := (t.schema, t.name)

@[simp] theorem fullName_ofRow (row : ColumnRow) : (ofRow row).fullName = row.fullName := rfl

@[simp] theorem fullName_addColumn (t : TableSchema) (column : ColumnInfo) :
    (t.addColumn column).fullName = t.fullName := rfl

theorem fullName_eq_iff :
    t.fullName = row.fullName ↔ t.name = row.table ∧ t.schema = row.schema := by
  rw [fullName, ColumnRow.fullName, Prod.mk.injEq, and_comm]

/-! ## the rows of a table -/

@[simp] theorem rows_ofRow (row : ColumnRow) : (ofRow row).rows = [row] := rfl

theorem rows_addColumn (same : t.fullName = row.fullName) :
    (t.addColumn row.column).rows = t.rows ++ [row] := by
  obtain ⟨name, schema⟩ := fullName_eq_iff.1 same
  simp [rows, addColumn, name, schema]

theorem rows_ne_nil (filled : t.columns ≠ []) : t.rows ≠ [] := mt List.map_eq_nil_iff.1 filled

theorem fullName_of_mem_rows (h : row ∈ t.rows) : row.fullName = t.fullName := by
  obtain ⟨column, -, rfl⟩ := List.mem_map.1 h
  rfl

theorem fullName_eq_of_mem_rows {a b : ColumnRow} (ha : a ∈ t.rows) (hb : b ∈ t.rows) :
    a.fullName = b.fullName :=
  (fullName_of_mem_rows ha).trans (fullName_of_mem_rows hb).symm

/-! ## one row more -/

theorem addRow_same (before : List TableSchema) (same : t.fullName = row.fullName) :
    addRow (before ++ [t]) row = before ++ [t.addColumn row.column] := by
  simp only [addRow, List.getLast?_concat, if_pos (fullName_eq_iff.1 same), List.dropLast_concat]

theorem addRow_other (other : ∀ last ∈ tables.getLast?, last.fullName ≠ row.fullName) :
    addRow tables row = tables ++ [ofRow row] := by
  unfold addRow
  split
  · rename_i last isLast
    exact if_neg (mt fullName_eq_iff.2 (other last isLast))
  · rename_i none
    rw [List.getLast?_eq_none_iff.1 none, List.nil_append]

/-- The tables are the runs of the rows of one table. -/
structure AreRuns (listing : List ColumnRow) (tables : List TableSchema) : Prop where
  flatMap_rows : tables.flatMap rows = listing
  filled : ∀ t ∈ tables, t.columns ≠ []
  apart : (tables.map fullName).IsChain (· ≠ ·)

theorem AreRuns.addRow (runs : AreRuns listing tables) (row : ColumnRow) :
    AreRuns (listing ++ [row]) (addRow tables row) := by
  obtain ⟨rfl, filled, apart⟩ := runs
  by_cases h : ∃ last ∈ tables.getLast?, last.fullName = row.fullName
  · obtain ⟨last, isLast, same⟩ := h
    obtain ⟨before, rfl⟩ := List.getLast?_eq_some_iff.1 isLast
    rw [addRow_same before same]
    constructor
    case flatMap_rows => simp [rows_addColumn same]
    case filled =>
      obtain ⟨others, -⟩ := List.forall_mem_append.1 filled
      refine List.forall_mem_append.2 ⟨others, List.forall_mem_singleton.2 ?_⟩
      exact List.append_ne_nil_of_right_ne_nil _ (List.cons_ne_nil _ _)
    case apart => simpa using apart
  · have other : ∀ last ∈ tables.getLast?, last.fullName ≠ row.fullName :=
      fun last isLast same => h ⟨last, isLast, same⟩
    rw [addRow_other other]
    constructor
    case flatMap_rows => simp
    case filled =>
      refine List.forall_mem_append.2 ⟨filled, List.forall_mem_singleton.2 ?_⟩
      exact List.cons_ne_nil _ _
    case apart =>
      rw [List.map_append, List.isChain_append]
      refine ⟨apart, List.isChain_singleton _, ?_⟩
      simpa [List.getLast?_map] using other

/-! ## all rows -/

theorem ofRows_concat (listing : List ColumnRow) (row : ColumnRow) :
    ofRows (listing ++ [row]) = addRow (ofRows listing) row := by
  rw [ofRows, List.foldl_append, List.foldl_cons, List.foldl_nil, ← ofRows]

theorem areRuns_ofRows (listing : List ColumnRow) : AreRuns listing (ofRows listing) := by
  induction listing using List.reverseRecOn with
  | nil => exact ⟨rfl, List.forall_mem_nil _, List.isChain_nil⟩
  | append_singleton listing row ih =>
    rw [ofRows_concat]
    exact ih.addRow row

/-- The tables have the rows that the listing is split into where the table changes. -/
theorem map_rows_ofRows (listing : List ColumnRow) :
    (ofRows listing).map rows = listing.splitBy fun a b => a.fullName = b.fullName := by
  have runs := areRuns_ofRows listing
  refine (List.splitBy_eq_iff.2 ⟨?joined, ?filled, ?alike, ?apart⟩).symm
  case joined => rw [← List.flatMap_def, runs.flatMap_rows]
  case filled =>
    intro mem
    obtain ⟨t, ht, empty⟩ := List.mem_map.1 mem
    exact rows_ne_nil (runs.filled t ht) empty
  case alike =>
    intro run mem
    obtain ⟨t, -, rfl⟩ := List.mem_map.1 mem
    refine List.Pairwise.isChain (List.pairwise_of_forall_mem_list fun a ha b hb => ?_)
    exact decide_eq_true (fullName_eq_of_mem_rows ha hb)
  case apart =>
    have differ := (List.isChain_map _).1 runs.apart
    rw [List.isChain_map]
    refine differ.imp_of_mem_imp fun s t hs ht differ => ?_
    have first := rows_ne_nil (runs.filled s hs)
    have second := rows_ne_nil (runs.filled t ht)
    refine ⟨first, second, decide_eq_false ?_⟩
    rwa [fullName_of_mem_rows (List.getLast_mem first),
      fullName_of_mem_rows (List.head_mem second)]

/-! ## tables that come twice -/

/-- A table does not come again just if no row of it comes after those of other tables. -/
theorem not_mem_iff_pairwise {rest : List TableSchema} (filled : ∀ s ∈ t :: rest, s.columns ≠ [])
    (apart : ((t :: rest).map fullName).IsChain (· ≠ ·)) :
    t.fullName ∉ rest.map fullName ↔ ∀ a ∈ t.rows, (rest.flatMap rows).Pairwise fun b c =>
      a.fullName = c.fullName → b.fullName = a.fullName := by
  constructor
  · intro fresh a ha
    refine List.pairwise_of_forall_mem_list fun b _ c hc same => absurd ?_ fresh
    obtain ⟨s, hs, hc⟩ := List.mem_flatMap.1 hc
    rw [← fullName_of_mem_rows ha, same, fullName_of_mem_rows hc]
    exact List.mem_map_of_mem hs
  · intro together mem
    obtain ⟨s, hs, same⟩ := List.mem_map.1 mem
    obtain ⟨own, filled⟩ := List.forall_mem_cons.1 filled
    cases rest with
    | nil => cases hs
    | cons u rest =>
      have differ : t.fullName ≠ u.fullName := (List.isChain_cons_cons.1 apart).1
      rcases List.mem_cons.1 hs with rfl | later
      · exact differ same.symm
      · -- a row of the next table stands between a row of `t` and one of `s`
        obtain ⟨a, ha⟩ := List.exists_mem_of_ne_nil _ (rows_ne_nil own)
        obtain ⟨b, hb⟩ :=
          List.exists_mem_of_ne_nil _ (rows_ne_nil (filled u List.mem_cons_self))
        obtain ⟨c, hc⟩ := List.exists_mem_of_ne_nil _ (rows_ne_nil (filled s hs))
        obtain ⟨-, -, across⟩ := List.pairwise_append.1 (together a ha)
        have between := across b hb c (List.mem_flatMap.2 ⟨s, later, hc⟩)
        rw [fullName_of_mem_rows ha, fullName_of_mem_rows hb, fullName_of_mem_rows hc] at between
        exact differ (between same.symm).symm

theorem nodup_iff_isContiguous (filled : ∀ t ∈ tables, t.columns ≠ [])
    (apart : (tables.map fullName).IsChain (· ≠ ·)) :
    (tables.map fullName).Nodup ↔ IsContiguous (tables.flatMap rows) := by
  induction tables with
  | nil => exact ⟨fun _ => .nil, fun _ => .nil⟩
  | cons t rest ih =>
    have own : IsContiguous t.rows := List.triplewise_iff_getElem.2 fun i j k _ _ _ _ =>
      fullName_eq_of_mem_rows (List.getElem_mem _) (List.getElem_mem _)
    have before : ∀ c ∈ rest.flatMap rows, t.rows.Pairwise fun a b =>
        a.fullName = c.fullName → b.fullName = a.fullName :=
      fun c _ => List.pairwise_of_forall_mem_list fun a ha b hb _ => fullName_eq_of_mem_rows hb ha
    have after := ih (List.forall_mem_cons.1 filled).2 apart.tail
    rw [List.map_cons, List.nodup_cons, List.flatMap_cons, IsContiguous, List.triplewise_append,
      not_mem_iff_pairwise filled apart, after]
    exact ⟨fun ⟨across, rest⟩ => ⟨own, rest, across, before⟩,
      fun ⟨_, rest, across, _⟩ => ⟨across, rest⟩⟩

/-- No row is lost or moved when rows are joined to tables, and a table comes twice just if its
rows do not stand together. -/
theorem tables_of_listing (listing : List ColumnRow) :
    (ofRows listing).flatMap rows = listing ∧ (∀ t ∈ ofRows listing, t.columns ≠ []) ∧
      ((ofRows listing).map fullName).IsChain (· ≠ ·) ∧
      (IsContiguous listing ↔ ((ofRows listing).map fullName).Nodup) := by
  obtain ⟨flatMap_rows, filled, apart⟩ := areRuns_ofRows listing
  have once := nodup_iff_isContiguous filled apart
  rw [flatMap_rows] at once
  exact ⟨flatMap_rows, filled, apart, once.symm⟩

/-- Two tables of one name, one of them in no schema. -/
def ordersListing : List ColumnRow :=
  [⟨some "public", "orders", ⟨"id", "integer", false⟩⟩,
   ⟨some "public", "orders", ⟨"status", "text", true⟩⟩,
   ⟨some "public", "orders", ⟨"placed_on", "date", true⟩⟩,
   ⟨none, "orders", ⟨"id", "integer", false⟩⟩]

theorem tables_of_listing_orders :
    IsContiguous ordersListing ∧ ((ofRows ordersListing).map fullName).Nodup := by
  have together : IsContiguous ordersListing := by
    simp [IsContiguous, ordersListing, ColumnRow.fullName, List.triplewise_cons]
  exact ⟨together, (tables_of_listing ordersListing).2.2.2.1 together⟩

end TableSchema

end AnalyticsGateway
