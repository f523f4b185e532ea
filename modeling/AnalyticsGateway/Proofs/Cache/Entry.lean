import AnalyticsGateway.Cache.Entry
import AnalyticsGateway.Proofs.Calendar
import AnalyticsGateway.Proofs.Json.ReadBack
import AnalyticsGateway.Proofs.Json.Values

/-!
# Entries are read back

An entry is read from its text as it was written (`ofText?_text`), if the values in its rows are
told by their text.
-/

namespace AnalyticsGateway

namespace ColumnSchema

theorem fits_toJson (c : ColumnSchema) {room : Nat} :
    Json.Fits (room + 1) (.record "column" fields) c.toJson := by
  refine .record (by decide) rfl fun pair mem => ?_
  simp only [fields, Json.Field.needed, List.zip_cons_cons, List.zip_nil_right, List.mem_cons,
    List.not_mem_nil, or_false] at mem
  rcases mem with rfl | rfl <;> exact .scalar (.text _) rfl

theorem ofJson?_toJson (c : ColumnSchema) : ofJson? c.toJson = some c := rfl

end ColumnSchema

namespace RowSet

/-- The values in the rows are told by their text: their objects are sorted, their numbers are read
as they are written, and an entry with them is not too deep for the reader. -/
def ReadsBack (rows : RowSet) : Prop :=
  ∀ row ∈ rows.rows, ∀ cell ∈ row, Json.Fits (Json.maxOpen - 3) .any cell ∧ cell.canonical = cell

theorem rowsOfJson?_ofList {rows : RowSet} (told : rows.ReadsBack) :
    rowsOfJson? (.ofList .array rows.rows) = some rows.rows := by
  refine Json.list?_ofList fun row mem => ?_
  have cells : Json.list? (fun cell => some cell.canonical) (.ofList id row) = some row :=
    Json.list?_ofList fun cell inside => congrArg some (told row mem cell inside).2
  rwa [Json.ofList, List.map_id] at cells

end RowSet

namespace CacheEntry

variable {e : CacheEntry}

theorem fits_toJson (told : e.rows.ReadsBack)
    (day : Calendar.isInRange (e.created / Calendar.nanosecondsOfDay) = true)
    (bound : e.seconds < wordSize 64) :
    Json.Fits Json.maxOpen (.record "entry" fields) e.toJson := by
  refine .record (by decide) rfl fun pair mem => ?_
  simp only [fields, RowSet.fields, RowSet.jsonFields, Json.Field.needed, List.cons_append,
    List.nil_append, List.zip_cons_cons, List.zip_nil_right, List.mem_cons, List.not_mem_nil,
    or_false] at mem
  rcases mem with rfl | rfl | rfl | rfl
  · refine .list fun item mem => ?_
    obtain ⟨c, -, rfl⟩ := List.mem_map.1 mem
    exact c.fits_toJson
  · refine .list fun item mem => ?_
    obtain ⟨row, inside, rfl⟩ := List.mem_map.1 mem
    exact .list fun cell mem => (told row inside cell mem).1
  · refine .scalar (.text _) ?_
    simp [Json.text?, Calendar.ofText?_text day]
  · refine .scalar (.ofNat bound) ?_
    simp [Json.natural?_ofNat bound]

/-- An entry is read from its four fields. -/
theorem ofJson?_eq {columns rows created seconds : Json}
    (columns_read : columns.list? ColumnSchema.ofJson? = some e.rows.columns)
    (rows_read : RowSet.rowsOfJson? rows = some e.rows.rows)
    (created_read : (created.text?.bind Calendar.ofText?) = some e.created)
    (seconds_read : seconds.natural? = some e.seconds) :
    ofJson? (.object [("columns", columns), ("rows", rows), ("created_at", created),
      ("ttl_secs", seconds)]) = some e := by
  change (do
    let columns ← columns.list? ColumnSchema.ofJson?
    let rows ← RowSet.rowsOfJson? rows
    let created ← created.text?.bind Calendar.ofText?
    let seconds ← seconds.natural?
    return CacheEntry.mk ⟨columns, rows⟩ created seconds) = _
  rw [columns_read, rows_read, created_read, seconds_read]
  rfl

theorem ofJson?_toJson (told : e.rows.ReadsBack)
    (day : Calendar.isInRange (e.created / Calendar.nanosecondsOfDay) = true)
    (bound : e.seconds < wordSize 64) : ofJson? e.toJson = some e := by
  have created : (Json.text (Calendar.text e.created)).text?.bind Calendar.ofText? =
      some e.created := by
    rw [Json.text?, Option.bind_some]
    exact Calendar.ofText?_text day
  rw [toJson, RowSet.jsonFields, List.cons_append, List.cons_append, List.nil_append]
  exact ofJson?_eq (Json.list?_ofList fun c _ => c.ofJson?_toJson)
    (RowSet.rowsOfJson?_ofList told) created (Json.natural?_ofNat bound)

/-- An entry is read as it was written. -/
theorem ofText?_text (told : e.rows.ReadsBack)
    (day : Calendar.isInRange (e.created / Calendar.nanosecondsOfDay) = true)
    (bound : e.seconds < wordSize 64) : ofText? e.text = some e := by
  rw [ofText?, text, Json.readAs_compact (fits_toJson told day bound)]
  exact ofJson?_toJson told day bound

end CacheEntry

end AnalyticsGateway
