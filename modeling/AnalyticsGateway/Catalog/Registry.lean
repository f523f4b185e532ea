import AnalyticsGateway.Catalog.Encoding
import AnalyticsGateway.Catalog.Validation
import AnalyticsGateway.Json.Reader

/-!
# The catalog

A catalog is loaded as a whole or not at all: a list of datasets is installed only if each is valid
and no two share an id, and a failed load leaves the catalog as it was.
-/

namespace AnalyticsGateway

/-- The datasets at one version of the catalog; version zero is before any load. -/
structure CatalogSnapshot where
  datasets : SortedMap Dataset := .empty
  version : Nat := 0
deriving Inhabited

namespace CatalogSnapshot

def get? (s : CatalogSnapshot) (id : String) : Option Dataset := s.datasets.get? id

def summaries (s : CatalogSnapshot) : List DatasetSummary := s.datasets.values.map Dataset.summary

def isLoaded (s : CatalogSnapshot) : Bool := s.version != 0

end CatalogSnapshot

structure Catalog where
  current : CatalogSnapshot := {}
  sources : Sources
  /-- The file that the catalog is reloaded from. -/
  path : Option String := none

namespace Catalog

/-- The datasets by id, after those that are installed already. -/
def index (sources : Sources) (installed : SortedMap Dataset) :
    List Dataset → Except CatalogError (SortedMap Dataset)
  | [] => return installed
  | d :: rest => do
    d.validate sources
    if installed.contains d.id then throw (.duplicateDataset d.id)
    index sources (installed.insert d.id d) rest

def replace (c : Catalog) (datasets : List Dataset) : Except CatalogError Catalog := do
  let installed ← index c.sources .empty datasets
  return { c with current := ⟨installed, c.current.version + 1⟩ }

/-- The datasets of a catalog file. -/
def datasetsOfText (text : String) : Except Json.Fault (List Dataset) := do
  let fields : List Json.Field := [.needed "datasets" (.list (.record "Dataset" Dataset.fields))]
  let json ← Json.readAs (.record "CatalogFile" fields) text
  match (json.recordOf? fields).bind (·.required "datasets" (Json.list? Dataset.ofJson?)) with
  | some datasets => return datasets
  | none => throw (.unfit ⟨"data did not match", {}⟩)

/-- Reads the catalog's file, which may be missing, and installs its datasets. -/
def reload (c : Catalog) (file : Option String) : Except CatalogError Catalog := do
  match c.path with
  | none => throw (.unreadable "No catalog path configured")
  | some path =>
    match file with
    | none => throw (.unreadable s!"{path}: No such file or directory (os error 2)")
    | some text =>
      match datasetsOfText text with
      | .error fault => throw (.malformed s!"{path}: {fault.message}")
      | .ok datasets => c.replace datasets

end Catalog

end AnalyticsGateway
