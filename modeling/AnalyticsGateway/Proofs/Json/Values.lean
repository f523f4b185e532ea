import AnalyticsGateway.Json.Record
import Mathlib.Data.List.Induction

/-!
# Plain data is read as it was written

A list, an option or a map is read back if each of its values is, and a record is read with all its
fields if none of them accepts the name of another one (`record?_object`).
-/

namespace AnalyticsGateway

namespace SortedMap

variable {α : Type}

theorem ofList_concat (entries : List (String × α)) (entry : String × α) :
    ofList (entries ++ [entry]) = (ofList entries).insert entry.1 entry.2 := by
  rw [ofList, List.foldl_append, List.foldl_cons, List.foldl_nil, ← ofList]

/-- An entry whose key is the greatest is put at the end. -/
theorem insertEntry_greatest {key : String} {value : α} {entries : List (String × α)}
    (h : ∀ entry ∈ entries, entry.1 < key) :
    insertEntry key value entries = entries ++ [(key, value)] := by
  induction entries with
  | nil => rfl
  | cons entry rest ih =>
    obtain ⟨less, others⟩ := List.forall_mem_cons.1 h
    rw [insertEntry, if_neg (String.lt_asymm less), if_pos less, ih others, List.cons_append]

theorem ofList_entries (m : SortedMap α) : ofList m.entries = m := by
  obtain ⟨entries, increasing⟩ := m
  apply ext_entries
  induction entries using List.reverseRecOn with
  | nil => rfl
  | append_singleton entries entry ih =>
    obtain ⟨before, -, less⟩ := List.pairwise_append.1 increasing
    have kept : (ofList entries).entries = entries := ih before
    change (ofList (entries ++ [entry])).entries = entries ++ [entry]
    rw [ofList_concat]
    change insertEntry entry.1 entry.2 (ofList entries).entries = _
    rw [kept]
    exact insertEntry_greatest fun other mem => less other mem entry (List.mem_singleton_self _)

end SortedMap

namespace Json

variable {α : Type} {toJson : α → Json} {read? : Json → Option α}

/-! ## numbers -/

theorem natural?_ofNat {n : Nat} (h : n < wordSize 64) : (ofNat n).natural? = some n := by
  have within : 0 ≤ (n : Int) ∧ (n : Int) < wordSize 64 := ⟨Int.natCast_nonneg n, Int.ofNat_lt.2 h⟩
  rw [ofNat, natural?, if_pos within, Int.toNat_natCast]

theorem lt_of_natural? {json : Json} {n : Nat} (h : json.natural? = some n) : n < wordSize 64 := by
  unfold natural? at h
  split at h
  · obtain ⟨⟨nonneg, less⟩, rfl⟩ := Option.ite_none_right_eq_some.1 h |>.imp_right Option.some.inj
    omega
  · cases h

/-! ## containers -/

theorem mapM_map {β : Type} {write : α → β} {read : β → Option α} {values : List α}
    (h : ∀ value ∈ values, read (write value) = some value) :
    (values.map write).mapM read = some values := by
  induction values with
  | nil => rfl
  | cons value rest ih =>
    obtain ⟨first, others⟩ := List.forall_mem_cons.1 h
    rw [List.map_cons, List.mapM_cons, first, ih others]
    rfl

theorem list?_ofList {values : List α} (h : ∀ value ∈ values, read? (toJson value) = some value) :
    list? read? (ofList toJson values) = some values :=
  mapM_map h

theorem option?_ofOption (present : ∀ value, toJson value ≠ .null) {value : Option α}
    (h : ∀ inner ∈ value, read? (toJson inner) = some inner) :
    option? read? (ofOption toJson value) = some value := by
  cases value with
  | none => rfl
  | some inner =>
    have some_inner : option? read? (toJson inner) = (read? (toJson inner)).map some := by
      unfold option?
      split
      · rename_i null
        exact absurd null (present inner)
      · rfl
    rw [ofOption, some_inner, h inner rfl, Option.map_some]

theorem map?_ofMap {values : SortedMap α} (h : ∀ value, read? (toJson value) = some value) :
    map? read? (ofMap toJson values) = some values := by
  have entries : (values.entries.map fun entry => (entry.1, toJson entry.2)).mapM
      (fun field => return (field.1, ← read? field.2)) = some values.entries :=
    mapM_map fun entry _ => by simp [h entry.2]
  change (do
    let entries ← (values.entries.map fun entry => (entry.1, toJson entry.2)).mapM fun field =>
      return (field.1, ← read? field.2)
    return SortedMap.ofList entries) = some values
  rw [entries]
  exact congrArg some values.ofList_entries

/-! ## records -/

/-- A field whose name is given once, among names that it does not accept. -/
theorem givenOnce?_append {field : FieldName} {value : Json} {before after : List (String × Json)}
    (h_before : ∀ given ∈ before, field.accepts given.1 = false)
    (h_after : ∀ given ∈ after, field.accepts given.1 = false) :
    givenOnce? (before ++ (field.name, value) :: after) field =
      some (some (field.name, value)) := by
  have none_of {fields : List (String × Json)}
      (h : ∀ given ∈ fields, field.accepts given.1 = false) :
      fields.filter (fun given => field.accepts given.1) = [] :=
    List.filter_eq_nil_iff.2 fun given mem => by simp [h given mem]
  have own : field.accepts field.name = true := by simp [FieldName.accepts]
  rw [givenOnce?, List.filter_append, none_of h_before, List.nil_append,
    List.filter_cons, if_pos own, none_of h_after]

theorem mapM_givenOnce? {fields : List FieldName} {before given : List (String × Json)}
    (distinct : fields.Pairwise fun a b => a.accepts b.name = false ∧ b.accepts a.name = false)
    (names : given.map (·.1) = fields.map (·.name))
    (apart : ∀ other ∈ before, ∀ field ∈ fields, field.accepts other.1 = false) :
    fields.mapM (givenOnce? (before ++ given)) = some (given.map some) := by
  induction fields generalizing before given with
  | nil =>
    rw [List.map_nil, List.map_eq_nil_iff] at names
    subst names
    rfl
  | cons field fields ih =>
    rcases given with _ | ⟨⟨name, value⟩, given⟩
    · cases names
    obtain ⟨rfl, others⟩ := List.cons.inj names
    obtain ⟨first, distinct⟩ := List.pairwise_cons.1 distinct
    have later (other) (mem : other ∈ given) : field.accepts other.1 = false := by
      have named : other.1 ∈ fields.map (·.name) := others ▸ List.mem_map_of_mem mem
      obtain ⟨next, inside, eq⟩ := List.mem_map.1 named
      exact eq ▸ (first next inside).1
    have rest : fields.mapM (givenOnce? ((before ++ [(field.name, value)]) ++ given)) =
        some (given.map some) := by
      refine ih distinct others fun other mem next inside => ?_
      rcases List.mem_append.1 mem with mem | mem
      · exact apart other mem next (List.mem_cons_of_mem _ inside)
      · rw [List.mem_singleton.1 mem]
        exact (first next inside).2
    rw [List.append_assoc, List.singleton_append] at rest
    rw [List.mapM_cons, givenOnce?_append
      (fun other mem => apart other mem field List.mem_cons_self) later, rest]
    rfl

/-- A record that is written with all its fields in their order is read with them. -/
theorem record?_object {fields : List FieldName} {given : List (String × Json)}
    (distinct : fields.Pairwise fun a b => a.accepts b.name = false ∧ b.accepts a.name = false)
    (names : given.map (·.1) = fields.map (·.name)) :
    record? fields (.object given) = some ⟨given⟩ := by
  have all : fields.mapM (givenOnce? ([] ++ given)) = some (given.map some) :=
    mapM_givenOnce? distinct names (List.forall_mem_nil _)
  rw [List.nil_append] at all
  rw [record?, all]
  change some (Record.mk ((given.map some).filterMap id)) = _
  rw [List.filterMap_map, Function.id_comp, List.filterMap_some]

/-- A number that may be absent is below the bound of numbers. -/
theorem Record.lt_of_nullable {r : Record} {name : String} {value : Option Nat}
    (h : r.nullable name natural? = some value) : ∀ n ∈ value, n < wordSize 64 := by
  rintro n rfl
  unfold Record.nullable Record.getD at h
  split at h
  · rename_i json _
    unfold option? at h
    split at h
    · cases h
    · obtain ⟨m, hm, eq⟩ := Option.map_eq_some_iff.1 h
      cases eq
      exact lt_of_natural? hm
  · cases h

end Json

end AnalyticsGateway
