/-!
# Finite maps kept in key order

A `SortedMap α` holds its entries in strictly increasing key order, so two maps that answer every
look-up alike are equal and a listing needs no sorting. Main statements: `get?_insert`,
`get?_erase`, `mem_entries_iff`, `ext_get?`.
-/

namespace AnalyticsGateway

/-- Whether the keys of a list of entries increase strictly. -/
abbrev KeysIncrease {α : Type} (entries : List (String × α)) : Prop :=
  entries.Pairwise (·.1 < ·.1)

/-- A finite map from text. -/
structure SortedMap (α : Type) where
  entries : List (String × α)
  increasing : KeysIncrease entries

namespace SortedMap

variable {α β : Type}

/-! ## operations -/

def empty : SortedMap α := ⟨[], .nil⟩

instance : Inhabited (SortedMap α) := ⟨empty⟩

/-- Puts a value under its key, in place of one that is there. -/
def insertEntry (key : String) (value : α) : List (String × α) → List (String × α)
  | [] => [(key, value)]
  | entry :: rest =>
    if key < entry.1 then (key, value) :: entry :: rest
    else if entry.1 < key then entry :: insertEntry key value rest
    else (key, value) :: rest

theorem mem_insertEntry {key : String} {value : α} {e : String × α} {l : List (String × α)}
    (h : e ∈ insertEntry key value l) : e = (key, value) ∨ e ∈ l := by
  induction l with
  | nil => simp_all [insertEntry]
  | cons entry rest ih =>
    unfold insertEntry at h
    split at h
    · simpa using h
    · split at h
      · rcases List.mem_cons.1 h with rfl | h
        · simp
        · rcases ih h with h | h <;> simp [h]
      · rcases List.mem_cons.1 h with rfl | h <;> simp_all

theorem keysIncrease_insertEntry (key : String) (value : α) {l : List (String × α)}
    (h : KeysIncrease l) : KeysIncrease (insertEntry key value l) := by
  induction l with
  | nil => simp [insertEntry]
  | cons entry rest ih =>
    have ⟨first, tail⟩ := List.pairwise_cons.1 h
    unfold insertEntry
    split
    · rename_i lt
      refine .cons (fun e he => ?_) h
      rcases List.mem_cons.1 he with rfl | he
      · exact lt
      · exact String.lt_trans lt (first e he)
    · split
      · rename_i lt
        refine .cons (fun e he => ?_) (ih tail)
        rcases mem_insertEntry he with rfl | he
        · exact lt
        · exact first e he
      · rename_i notLt notGt
        have same : entry.1 = key :=
          String.le_antisymm (String.not_lt.1 notLt) (String.not_lt.1 notGt)
        exact .cons (fun e he => same ▸ first e he) tail

def insert (m : SortedMap α) (key : String) (value : α) : SortedMap α :=
  ⟨insertEntry key value m.entries, keysIncrease_insertEntry key value m.increasing⟩

/-- Later entries replace earlier ones of the same key. -/
def ofList (entries : List (String × α)) : SortedMap α :=
  entries.foldl (fun m e => m.insert e.1 e.2) empty

/-- The value of the first entry under `key`. -/
def lookup (key : String) : List (String × α) → Option α
  | [] => none
  | entry :: rest => if entry.1 = key then some entry.2 else lookup key rest

def get? (m : SortedMap α) (key : String) : Option α :=
  lookup key m.entries

def contains (m : SortedMap α) (key : String) : Bool :=
  (m.get? key).isSome

def filter (m : SortedMap α) (keep : String → α → Bool) : SortedMap α :=
  ⟨m.entries.filter fun e => keep e.1 e.2, m.increasing.filter _⟩

def erase (m : SortedMap α) (key : String) : SortedMap α :=
  m.filter fun k _ => k != key

def map (f : α → β) (m : SortedMap α) : SortedMap β :=
  ⟨m.entries.map fun e => (e.1, f e.2), m.increasing.map _ fun _ _ h => h⟩

def keys (m : SortedMap α) : List String := m.entries.map (·.1)

def values (m : SortedMap α) : List α := m.entries.map (·.2)

def size (m : SortedMap α) : Nat := m.entries.length

def isEmpty (m : SortedMap α) : Bool := m.entries.isEmpty

/-! ## look-up -/

@[simp] theorem get?_empty (key : String) : (empty : SortedMap α).get? key = none := rfl

theorem lookup_insertEntry (key key' : String) (value : α) (l : List (String × α)) :
    lookup key' (insertEntry key value l) = if key = key' then some value else lookup key' l := by
  induction l with
  | nil => simp [insertEntry, lookup]
  | cons entry rest ih =>
    unfold insertEntry
    split
    · simp [lookup]
    · split
      · rename_i lt
        have ne : key ≠ entry.1 := fun e => String.lt_irrefl _ (e ▸ lt)
        by_cases h : key = key'
        · subst h
          simp [lookup, ih, Ne.symm ne]
        · simp [lookup, ih, h]
      · rename_i notLt notGt
        have same : entry.1 = key :=
          String.le_antisymm (String.not_lt.1 notLt) (String.not_lt.1 notGt)
        by_cases h : key = key' <;> simp [lookup, h, same]

theorem get?_insert (m : SortedMap α) (key key' : String) (value : α) :
    (m.insert key value).get? key' = if key = key' then some value else m.get? key' :=
  lookup_insertEntry key key' value m.entries

@[simp] theorem get?_insert_self (m : SortedMap α) (key : String) (value : α) :
    (m.insert key value).get? key = some value := by simp [get?_insert]

theorem lookup_eq_some_iff_mem {l : List (String × α)} (h : KeysIncrease l) {key : String}
    {value : α} : lookup key l = some value ↔ (key, value) ∈ l := by
  induction l with
  | nil => simp [lookup]
  | cons entry rest ih =>
    have ⟨first, tail⟩ := List.pairwise_cons.1 h
    obtain ⟨k, v⟩ := entry
    by_cases same : k = key
    · subst same
      have absent : (k, value) ∉ rest := fun mem => String.lt_irrefl k (first (k, value) mem)
      simp [lookup, absent, eq_comm]
    · simp [lookup, same, ih tail, Ne.symm same]

theorem mem_entries_iff {m : SortedMap α} {key : String} {value : α} :
    (key, value) ∈ m.entries ↔ m.get? key = some value :=
  (lookup_eq_some_iff_mem m.increasing).symm

theorem get?_filter (m : SortedMap α) (keep : String → α → Bool) (key : String) :
    (m.filter keep).get? key = (m.get? key).filter (keep key) := by
  apply Option.ext
  intro value
  rw [← mem_entries_iff]
  simp [filter, mem_entries_iff]

theorem get?_erase (m : SortedMap α) (key key' : String) :
    (m.erase key).get? key' = if key = key' then none else m.get? key' := by
  rw [erase, get?_filter]
  by_cases h : key = key'
  · simp [h]
  · have : (key' != key) = true := by simpa using Ne.symm h
    simp only [h, this, if_false]
    cases m.get? key' <;> rfl

theorem lookup_map (f : α → β) (key : String) (l : List (String × α)) :
    lookup key (l.map fun e => (e.1, f e.2)) = (lookup key l).map f := by
  induction l with
  | nil => rfl
  | cons e rest ih => by_cases h : e.1 = key <;> simp [lookup, h, ih]

theorem get?_map (f : α → β) (m : SortedMap α) (key : String) :
    (m.map f).get? key = (m.get? key).map f :=
  lookup_map f key m.entries

@[simp] theorem contains_iff {m : SortedMap α} {key : String} :
    m.contains key = true ↔ ∃ value, m.get? key = some value := by
  simp [contains, Option.isSome_iff_exists]

theorem ext_entries {m n : SortedMap α} (h : m.entries = n.entries) : m = n := by
  cases m; cases n; cases h; rfl

/-- Two sorted lists of entries with the same members are one list. -/
theorem entries_eq_of_mem_iff {l r : List (String × α)} (hl : KeysIncrease l) (hr : KeysIncrease r)
    (h : ∀ e, e ∈ l ↔ e ∈ r) : l = r := by
  induction l generalizing r with
  | nil => cases r with
    | nil => rfl
    | cons e _ => simpa using h e
  | cons a l ih => cases r with
    | nil => simpa using h a
    | cons b r =>
      have ⟨fl, tl⟩ := List.pairwise_cons.1 hl
      have ⟨fr, tr⟩ := List.pairwise_cons.1 hr
      have heads : a = b := by
        rcases List.mem_cons.1 ((h a).1 (List.mem_cons_self ..)) with e | ha
        · exact e
        rcases List.mem_cons.1 ((h b).2 (List.mem_cons_self ..)) with e | hb
        · exact e.symm
        exact (String.lt_asymm (fl b hb) (fr a ha)).elim
      subst heads
      refine congrArg (a :: ·) (ih tl tr fun e => ⟨fun he => ?_, fun he => ?_⟩)
      · rcases List.mem_cons.1 ((h e).1 (List.mem_cons_of_mem _ he)) with rfl | he'
        · exact (String.lt_irrefl _ (fl _ he)).elim
        · exact he'
      · rcases List.mem_cons.1 ((h e).2 (List.mem_cons_of_mem _ he)) with rfl | he'
        · exact (String.lt_irrefl _ (fr _ he)).elim
        · exact he'

theorem ext_get? {m n : SortedMap α} (h : ∀ key, m.get? key = n.get? key) : m = n :=
  ext_entries <| entries_eq_of_mem_iff m.increasing n.increasing fun e => by
    obtain ⟨key, value⟩ := e
    rw [mem_entries_iff, mem_entries_iff, h]

end SortedMap

end AnalyticsGateway
