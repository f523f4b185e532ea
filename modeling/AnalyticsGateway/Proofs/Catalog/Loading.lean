import AnalyticsGateway.Catalog.Registry
import AnalyticsGateway.Proofs.Except

/-!
# Loading a catalog, all or nothing

Whatever loads a catalog has been through, the next one installs all its datasets, if they can be
read, each is valid and no two share an id, or changes nothing; and what is installed is valid and
listed by id (`loads_all_or_nothing`).
-/

namespace AnalyticsGateway

/-! ## datasets by id -/

namespace SortedMap

variable {α : Type}

theorem insertEntry_perm {key : String} (value : α) {l : List (String × α)}
    (absent : lookup key l = none) : (insertEntry key value l).Perm ((key, value) :: l) := by
  induction l with
  | nil => exact .refl _
  | cons entry rest ih =>
    unfold insertEntry
    rw [lookup] at absent
    split at absent
    · cases absent
    · rename_i other
      split
      · exact .refl _
      · split
        · exact ((ih absent).cons entry).trans (.swap ..)
        · rename_i notLt notGt
          exact absurd (String.le_antisymm (String.not_lt.1 notLt) (String.not_lt.1 notGt)) other

theorem values_insert_perm {m : SortedMap α} {key : String} (value : α)
    (absent : m.get? key = none) : (m.insert key value).values.Perm (value :: m.values) :=
  (insertEntry_perm value absent).map Prod.snd

theorem mem_values_iff {m : SortedMap α} {value : α} :
    value ∈ m.values ↔ ∃ key, m.get? key = some value := by
  simp [values, mem_entries_iff]

end SortedMap

/-- Datasets that can be installed together: each is valid, and no two share an id. -/
def Sources.Fit (sources : Sources) (datasets : List Dataset) : Prop :=
  (∀ d ∈ datasets, d.validate sources = .ok ()) ∧ (datasets.map Dataset.id).Nodup

namespace Catalog

variable {sources : Sources} {installed result : SortedMap Dataset} {datasets : List Dataset}

/-- Puts datasets under their ids, over those that are there. -/
def installAll (installed : SortedMap Dataset) (datasets : List Dataset) : SortedMap Dataset :=
  datasets.foldl (fun m d => m.insert d.id d) installed

theorem index_eq_ok : index sources installed datasets = .ok result ↔
    sources.Fit datasets ∧ (∀ d ∈ datasets, installed.get? d.id = none) ∧
      installAll installed datasets = result := by
  induction datasets generalizing installed with
  | nil => simp [index, Sources.Fit, installAll, pure, Except.pure]
  | cons d rest ih =>
    have absent_iff : ¬installed.contains d.id = true ↔ installed.get? d.id = none := by
      simp [SortedMap.contains]
    have others : (∀ e ∈ rest, (installed.insert d.id d).get? e.id = none) ↔
        (∀ e ∈ rest, d.id ≠ e.id) ∧ ∀ e ∈ rest, installed.get? e.id = none := by
      rw [← forall₂_and]
      refine forall₂_congr fun e _ => ?_
      rw [SortedMap.get?_insert]
      split <;> simp [*]
    have apart : d.id ∉ rest.map Dataset.id ↔ ∀ e ∈ rest, d.id ≠ e.id := by
      simp [eq_comm]
    rw [index, bind_eq_ok]
    simp only [unless_eq_ok, absent_iff, ih, others, Sources.Fit, installAll, List.foldl_cons,
      List.forall_mem_cons, List.map_cons, List.nodup_cons, apart]
    constructor
    · rintro ⟨_, valid, absent, ⟨allValid, nodup⟩, ⟨ne, allAbsent⟩, eq⟩
      exact ⟨⟨⟨valid, allValid⟩, ne, nodup⟩, ⟨absent, allAbsent⟩, eq⟩
    · rintro ⟨⟨⟨valid, allValid⟩, ne, nodup⟩, ⟨absent, allAbsent⟩, eq⟩
      exact ⟨(), valid, absent, ⟨allValid, nodup⟩, ⟨ne, allAbsent⟩, eq⟩

theorem values_installAll (nodup : (datasets.map Dataset.id).Nodup)
    (absent : ∀ d ∈ datasets, installed.get? d.id = none) :
    (installAll installed datasets).values.Perm (datasets ++ installed.values) := by
  induction datasets generalizing installed with
  | nil => exact .refl _
  | cons d rest ih =>
    rw [List.map_cons, List.nodup_cons] at nodup
    rw [List.forall_mem_cons] at absent
    have still : ∀ e ∈ rest, (installed.insert d.id d).get? e.id = none := fun e mem => by
      have ne : d.id ≠ e.id := fun same => nodup.1 (same ▸ List.mem_map_of_mem mem)
      rw [SortedMap.get?_insert, if_neg ne]
      exact absent.2 e mem
    calc (installAll (installed.insert d.id d) rest).values
      _ |>.Perm (rest ++ (installed.insert d.id d).values) := ih nodup.2 still
      _ |>.Perm (rest ++ d :: installed.values) :=
        (SortedMap.values_insert_perm d absent.1).append_left rest
      _ |>.Perm (d :: rest ++ installed.values) := List.perm_middle

/-- What is under an id has that id, if that was so before. -/
theorem id_of_installAll (own : ∀ id d, installed.get? id = some d → d.id = id) {id : String}
    {d : Dataset} (found : (installAll installed datasets).get? id = some d) : d.id = id := by
  induction datasets generalizing installed with
  | nil => exact own id d found
  | cons e rest ih =>
    refine ih (fun id d found => ?_) found
    rw [SortedMap.get?_insert] at found
    split at found
    · rename_i same
      cases found
      exact same
    · exact own id d found

end Catalog

/-! ## one load -/

/-- A call that loads a catalog. -/
inductive CatalogLoad where
  | replace (datasets : List Dataset)
  /-- With what the catalog's file holds, if it can be read. -/
  | reload (file : Option String)

/-- What is installed is these datasets, each under its id. -/
structure CatalogSnapshot.Holds (s : CatalogSnapshot) (datasets : List Dataset) : Prop where
  perm : s.datasets.values.Perm datasets
  get?_iff : ∀ id d, s.get? id = some d ↔ d ∈ datasets ∧ d.id = id

theorem Catalog.holds_installAll {datasets : List Dataset}
    (nodup : (datasets.map Dataset.id).Nodup) (version : Nat) :
    (CatalogSnapshot.mk (installAll .empty datasets) version).Holds datasets := by
  have perm : (installAll .empty datasets).values.Perm datasets := by
    have absent : ∀ d ∈ datasets, (.empty : SortedMap Dataset).get? d.id = none := fun _ _ => rfl
    simpa [SortedMap.values, SortedMap.empty] using values_installAll nodup absent
  have unowned (id : String) (d : Dataset) : SortedMap.empty.get? id = some d → d.id = id := by
    simp
  refine ⟨perm, fun id d => ⟨fun found => ⟨?_, id_of_installAll unowned found⟩, ?_⟩⟩
  · exact perm.mem_iff.1 (SortedMap.mem_values_iff.2 ⟨id, found⟩)
  · rintro ⟨mem, rfl⟩
    obtain ⟨key, found⟩ := SortedMap.mem_values_iff.1 (perm.mem_iff.2 mem)
    exact id_of_installAll unowned found ▸ found

namespace CatalogLoad

def perform (c : Catalog) : CatalogLoad → Except CatalogError Catalog
  | replace datasets => c.replace datasets
  | reload file => c.reload file

/-- The catalog after a load; one that is refused leaves it. -/
def after (c : Catalog) (load : CatalogLoad) : Catalog :=
  match load.perform c with
  | .ok loaded => loaded
  | .error _ => c

/-- The datasets that a load is to install, if they can be read. -/
def datasets? (path : Option String) : CatalogLoad → Option (List Dataset)
  | replace datasets => some datasets
  | reload file => do
    let _ ← path
    (Catalog.datasetsOfText (← file)).toOption

variable {c loaded : Catalog} {load : CatalogLoad} {datasets : List Dataset}

theorem replace_eq_ok : c.replace datasets = .ok loaded ↔ c.sources.Fit datasets ∧
    loaded = { c with
      current := ⟨Catalog.installAll .empty datasets, c.current.version + 1⟩ } := by
  rw [Catalog.replace, bind_eq_ok]
  simp only [Catalog.index_eq_ok, SortedMap.get?_empty, implies_true, true_and]
  constructor
  · rintro ⟨_, ⟨fit, rfl⟩, eq⟩
    exact ⟨fit, (Except.ok.inj eq).symm⟩
  · rintro ⟨fit, rfl⟩
    exact ⟨_, ⟨fit, rfl⟩, rfl⟩

/-- A load is to replace the datasets by those that it can read. -/
theorem perform_eq_ok : load.perform c = .ok loaded ↔
    ∃ datasets, load.datasets? c.path = some datasets ∧ c.replace datasets = .ok loaded := by
  cases load with
  | replace datasets => simp [perform, datasets?]
  | reload file =>
    rw [perform, Catalog.reload, datasets?]
    cases c.path with
    | none => simp [throw, throwThe, MonadExceptOf.throw]
    | some path =>
      cases file with
      | none => simp [throw, throwThe, MonadExceptOf.throw]
      | some text =>
        cases read : Catalog.datasetsOfText text with
        | error fault => simp [read, Except.toOption, throw, throwThe, MonadExceptOf.throw]
        | ok datasets => simp [read, Except.toOption]

theorem after_of_error {e : CatalogError} (refused : load.perform c = .error e) :
    load.after c = c := by
  rw [after, refused]

theorem after_of_ok (accepted : load.perform c = .ok loaded) : load.after c = loaded := by
  rw [after, accepted]

/-- A load goes through exactly if its datasets can be read and fit. -/
theorem perform_isOk_iff : (load.perform c).isOk = true ↔
    ∃ datasets, load.datasets? c.path = some datasets ∧ c.sources.Fit datasets := by
  have exists_iff : (load.perform c).isOk = true ↔ ∃ loaded, load.perform c = .ok loaded := by
    cases load.perform c <;> simp [Except.isOk, Except.toBool]
  rw [exists_iff]
  constructor
  · rintro ⟨loaded, accepted⟩
    obtain ⟨datasets, read, replaced⟩ := perform_eq_ok.1 accepted
    exact ⟨datasets, read, (replace_eq_ok.1 replaced).1⟩
  · rintro ⟨datasets, read, fit⟩
    exact ⟨_, perform_eq_ok.2 ⟨datasets, read, replace_eq_ok.2 ⟨fit, rfl⟩⟩⟩

end CatalogLoad

/-! ## loads in a row -/

/-- What holds of a catalog after any number of loads. -/
structure Catalog.Reached (sources : Sources) (path : Option String) (accepted : Nat)
    (c : Catalog) : Prop where
  sources_eq : c.sources = sources
  path_eq : c.path = path
  version_eq : c.current.version = accepted
  holds : ∃ datasets, sources.Fit datasets ∧ c.current.Holds datasets

namespace CatalogLoad

variable {sources : Sources} {path : Option String} {c : Catalog} {accepted : Nat}

def run (c : Catalog) (loads : List CatalogLoad) : Catalog := loads.foldl after c

/-- The answer to each load. -/
def answers (c : Catalog) : List CatalogLoad → List (Except CatalogError Catalog)
  | [] => []
  | load :: rest => load.perform c :: answers (load.after c) rest

theorem reached_fresh : Catalog.Reached sources path 0 { sources, path } :=
  ⟨rfl, rfl, rfl, [], ⟨nofun, .nil⟩, @Catalog.holds_installAll [] .nil 0⟩

theorem reached_after (inv : c.Reached sources path accepted) (load : CatalogLoad) :
    (load.after c).Reached sources path (accepted + (load.perform c).isOk.toNat) := by
  cases answer : load.perform c with
  | error e =>
    rw [after_of_error answer]
    exact inv
  | ok loaded =>
    rw [after_of_ok answer]
    obtain ⟨datasets, -, replaced⟩ := perform_eq_ok.1 answer
    obtain ⟨fit, rfl⟩ := replace_eq_ok.1 replaced
    exact ⟨inv.sources_eq, inv.path_eq, congrArg (· + 1) inv.version_eq, datasets,
      inv.sources_eq ▸ fit, Catalog.holds_installAll fit.2 _⟩

theorem reached_run (inv : c.Reached sources path accepted) (loads : List CatalogLoad) :
    (run c loads).Reached sources path (accepted + (answers c loads).countP Except.isOk) := by
  induction loads generalizing c accepted with
  | nil => exact inv
  | cons load rest ih =>
    have step := ih (reached_after inv load)
    rw [answers, List.countP_cons, Nat.add_comm (List.countP ..), ← Nat.add_assoc]
    cases answer : (load.perform c).isOk <;> simpa [answer, run] using step

end CatalogLoad

namespace CatalogSnapshot.Holds

variable {s : CatalogSnapshot} {datasets : List Dataset}

theorem ids_eq_keys (holds : s.Holds datasets) : s.summaries.map (·.id) = s.datasets.keys := by
  have own : ∀ e ∈ s.datasets.entries, e.2.id = e.1 := fun (id, d) mem =>
    ((holds.get?_iff id d).1 (SortedMap.mem_entries_iff.1 mem)).2
  simp only [summaries, SortedMap.values, SortedMap.keys, List.map_map]
  exact List.map_congr_left own

theorem ids_increase (holds : s.Holds datasets) :
    (s.summaries.map (·.id)).Pairwise (· < ·) := by
  rw [holds.ids_eq_keys]
  exact List.pairwise_map.2 s.datasets.increasing

end CatalogSnapshot.Holds

/-- A load of a catalog that has been through any loads installs its datasets or changes nothing.
The catalog counts the loads that went through, holds valid datasets, each under its own id and no
other, and lists them by id. -/
theorem loads_all_or_nothing (sources : Sources) (path : Option String) (loads : List CatalogLoad)
    (load : CatalogLoad) :
    let c := CatalogLoad.run { sources, path } loads
    ((load.perform c).isOk = true ↔
        ∃ datasets, load.datasets? path = some datasets ∧
          (∀ d ∈ datasets, d.validate sources = .ok ()) ∧ (datasets.map Dataset.id).Nodup) ∧
      (match load.perform c with
        | .error _ => (load.after c).current = c.current
        | .ok _ => ∃ datasets, load.datasets? path = some datasets ∧
          (load.after c).current.Holds datasets ∧
          (load.after c).current.version = c.current.version + 1) ∧
      c.current.version = (CatalogLoad.answers { sources, path } loads).countP Except.isOk ∧
      (∀ d ∈ c.current.datasets.values, d.validate sources = .ok () ∧
        ∀ id, c.current.get? id = some d ↔ id = d.id) ∧
      c.current.summaries = c.current.datasets.values.map Dataset.summary ∧
      (c.current.summaries.map (·.id)).Pairwise (· < ·) := by
  intro c
  have inv : c.Reached sources path _ := CatalogLoad.reached_run CatalogLoad.reached_fresh loads
  obtain ⟨datasets, fit, holds⟩ := inv.holds
  refine ⟨?_, ?_, ?_, fun d mem => ?_, rfl, holds.ids_increase⟩
  · rw [CatalogLoad.perform_isOk_iff, inv.sources_eq, inv.path_eq]
    rfl
  · cases answer : load.perform c with
    | error e => exact congrArg Catalog.current (CatalogLoad.after_of_error answer)
    | ok loaded =>
      obtain ⟨datasets, read, replaced⟩ := CatalogLoad.perform_eq_ok.1 answer
      obtain ⟨fit, rfl⟩ := CatalogLoad.replace_eq_ok.1 replaced
      rw [inv.path_eq] at read
      rw [CatalogLoad.after_of_ok answer]
      exact ⟨datasets, read, Catalog.holds_installAll fit.2 _, rfl⟩
  · rw [inv.version_eq, Nat.zero_add]
  · rw [holds.perm.mem_iff] at mem
    refine ⟨fit.1 d mem, fun id => ?_⟩
    rw [holds.get?_iff, and_iff_right mem, eq_comm]

/-- A dataset that comes twice is refused, wherever it comes, and the first load stays. -/
example :
    let orders : Dataset := { id := "orders", source := "warehouse", base := .table "orders" }
    let fresh : Catalog := { sources := .ofList [("warehouse", .postgresql)] }
    let loads := [.replace [orders], .replace [orders, { orders with id := "items" }, orders]]
    (CatalogLoad.answers fresh loads).map Except.isOk = [true, false] ∧
      (CatalogLoad.run fresh loads).current.datasets.keys = ["orders"] := by
  decide +kernel

end AnalyticsGateway
