import AnalyticsGateway.Proofs.Catalog.Loading
import AnalyticsGateway.Proofs.Gateway.Moves

/-!
# What a gateway does to its catalog

The catalog of a gateway is one that loads have made of the catalog it has been started with
(`exists_loads_run`), so a gateway that starts with no datasets never serves an invalid one
(`valid_of_served`).
-/

namespace AnalyticsGateway

namespace Gateway

variable {σ : Type}

theorem catalog_settle (g : Gateway σ) (runner : Runner) (d : Dispatch) :
    (g.settle runner d).catalog = g.catalog := by
  unfold settle
  split <;> rfl

theorem catalog_startJob (g : Gateway σ) (runner : Runner) :
    (g.startJob runner).catalog = g.catalog := by
  unfold startJob
  split
  · exact catalog_settle ..
  · rfl

theorem catalog_answerJob (g : Gateway σ) (runner : Runner) (outcome : Except SourceError RowSet) :
    (g.answerJob runner outcome).catalog = g.catalog := by
  unfold answerJob
  split
  · exact catalog_settle ..
  · rfl

theorem catalog_expireJob (g : Gateway σ) (runner : Runner) :
    (g.expireJob runner).catalog = g.catalog := by
  unfold expireJob
  split
  · exact catalog_settle ..
  · rfl

theorem catalog_cancelVisit (g : Gateway σ) (id : Nat) :
    (g.cancelVisit id).catalog = g.catalog := by
  rcases g.cancelVisit_cases id with eq | eq | ⟨call, eq⟩ <;> rw [eq] <;> rfl

theorem catalog_answerVisit (g : Gateway σ) (id : Nat)
    (outcome : Except SourceError (List TableSchema)) :
    (g.answerVisit id outcome).catalog = g.catalog := by
  rcases g.answerVisit_cases id outcome with eq | ⟨-, answer, -, eq⟩ <;> rw [eq]
  rfl

theorem catalog_expireVisit (g : Gateway σ) (id : Nat) :
    (g.expireVisit id).catalog = g.catalog := by
  rcases g.expireVisit_cases id with eq | ⟨-, e, eq⟩ <;> rw [eq]
  rfl

variable [SharedStore σ String]

theorem catalog_pay {g paid : Gateway σ} {failing : List StoreOperation} {caller : Caller}
    {route : Route} {answer : Except GatewayError Unit}
    (pays : g.pay failing caller route = (answer, paid)) : paid.catalog = g.catalog :=
  (congrArg (·.2.catalog) pays).symm

theorem catalog_stepVisit (g : Gateway σ) (failing : List StoreOperation) (id : Nat) :
    (g.stepVisit failing id).catalog = g.catalog ∨
      (g.stepVisit failing id).catalog = (CatalogLoad.reload g.file).after g.catalog := by
  cases found : g.visits[id]? with
  | none => exact .inl (by simp [stepVisit, found])
  | some v =>
    have move := stepVisit_move failing found
    generalize g.stepVisit failing id = g' at move
    cases move with
    | reloaded _ _ loaded =>
      have accepted : (CatalogLoad.reload g.file).perform g.catalog = .ok _ := loaded
      exact .inr (CatalogLoad.after_of_ok accepted).symm
    | admitted _ _ _ pays | denied _ _ _ pays =>
      have same := catalog_pay pays
      exact .inl same
    | _ => exact .inl rfl

/-- An event loads the catalog or leaves it. -/
theorem catalog_step (g : Gateway σ) (event : GatewayEvent) :
    (g.step event).catalog = g.catalog ∨
      (g.step event).catalog = (CatalogLoad.reload g.file).after g.catalog ∨
      ∃ datasets, event = .replaceCatalog datasets ∧
        (g.step event).catalog = (CatalogLoad.replace datasets).after g.catalog := by
  cases event with
  | stepVisit id failing => exact (g.catalog_stepVisit failing id).imp_right .inl
  | cancelVisit id => exact .inl (g.catalog_cancelVisit id)
  | answerVisit id outcome => exact .inl (g.catalog_answerVisit id outcome)
  | expireVisit id => exact .inl (g.catalog_expireVisit id)
  | startJob runner => exact .inl (g.catalog_startJob runner)
  | answerJob runner outcome => exact .inl (g.catalog_answerJob runner outcome)
  | expireJob runner => exact .inl (g.catalog_expireJob runner)
  | replaceCatalog datasets =>
    rcases g.replaceCatalog_cases datasets with eq | ⟨catalog, loaded, eq⟩
    · exact .inl (by rw [eq])
    · have accepted : (CatalogLoad.replace datasets).perform g.catalog = .ok catalog := loaded
      exact .inr (.inr ⟨datasets, rfl, by rw [eq, CatalogLoad.after_of_ok accepted]⟩)
  | _ => exact .inl rfl

theorem exists_loads_run (g : Gateway σ) (events : List GatewayEvent) :
    ∃ loads, (g.run events).catalog = CatalogLoad.run g.catalog loads := by
  induction events generalizing g with
  | nil => exact ⟨[], rfl⟩
  | cons event rest ih =>
    obtain ⟨loads, eq⟩ := ih (g.step event)
    have loads_first {load : CatalogLoad} (loaded : (g.step event).catalog = load.after g.catalog) :
        ∃ loads, (g.run (event :: rest)).catalog = CatalogLoad.run g.catalog loads := by
      refine ⟨load :: loads, ?_⟩
      rw [CatalogLoad.run, List.foldl_cons, ← loaded]
      exact eq
    rcases g.catalog_step event with same | loaded | ⟨datasets, -, loaded⟩
    · exact ⟨loads, by rw [← same]; exact eq⟩
    · exact loads_first loaded
    · exact loads_first loaded

/-- What a gateway serves is valid, if it has been started without datasets. -/
theorem valid_of_served {g : Gateway σ} {sources : Sources} {path : Option String}
    (fresh : g.catalog = { sources, path }) (events : List GatewayEvent) {id : String}
    {d : Dataset} (found : (g.run events).catalog.current.get? id = some d) :
    d.id = id ∧ d.validate sources = .ok () := by
  obtain ⟨loads, eq⟩ := g.exists_loads_run events
  have start : Catalog.Reached sources path 0 { sources, path } := CatalogLoad.reached_fresh
  obtain ⟨datasets, fit, holds⟩ := (CatalogLoad.reached_run start loads).holds
  rw [eq, fresh, holds.get?_iff] at found
  exact ⟨found.2, fit.1 d found.1⟩

end Gateway

end AnalyticsGateway
