import AnalyticsGateway.Proofs.Cache.Key
import AnalyticsGateway.Proofs.Compile.Comparisons
import AnalyticsGateway.Proofs.Compile.Joins
import AnalyticsGateway.Proofs.Compile.Regrouping
import AnalyticsGateway.Proofs.Sql.Apart
import AnalyticsGateway.Proofs.Tenancy

/-!
# Integers in filters

An integer that fits in 64 bits is written with all its digits. Queries that differ in one such
integer have different texts and keys, unless repeats in both make them the same query
(`integers_exact`).
-/

namespace AnalyticsGateway

open Sql (Condition Exchanged Literal Style Test literalWeight literalWeight_integer weighPieces)
open Sql.Condition (junction)

variable {d : Dataset} {c : Ceilings} {n m : ℤ}

/-! ## differing in one integer -/

/-- The values differ in one integer, which the first has where the second has another one. -/
inductive Json.DifferIn (n m : ℤ) : Json → Json → Prop
  | value : DifferIn n m (.integer n) (.integer m)
  | item (pre post : List Json) :
    DifferIn n m (.array (pre ++ .integer n :: post)) (.array (pre ++ .integer m :: post))

inductive Filter.DifferIn (n m : ℤ) : Filter → Filter → Prop
  | predicate {field operator v w} : v.DifferIn n m w →
    DifferIn n m (.predicate ⟨field, operator, v⟩) (.predicate ⟨field, operator, w⟩)
  | inNot {f f'} : DifferIn n m f f' → DifferIn n m (.not f) (.not f')
  | inGroup {k pre f f' post} : DifferIn n m f f' →
    DifferIn n m (group k (pre ++ f :: post)) (group k (pre ++ f' :: post))

inductive Request.DifferIn (n m : ℤ) : Request → Request → Prop
  | filter {request pre f f' post} : request.filters = pre ++ f :: post → f.DifferIn n m f' →
    DifferIn n m request { request with filters := pre ++ f' :: post }

theorem Json.DifferIn.float_mem {v w : Json} (h : v.DifferIn n m w) (x : Float) :
    Json.float x ∈ v.constants ↔ Json.float x ∈ w.constants := by
  cases h <;> simp [Json.constants]

theorem Filter.DifferIn.isPlain {f f' : Filter} (h : f.DifferIn n m f') (plain : f.IsPlain) :
    f'.IsPlain := by
  induction h with
  | predicate h =>
    rw [IsPlain] at plain ⊢
    exact fun x hx => plain x ((h.float_mem x).2 hx)
  | inNot _ ih =>
    rw [IsPlain] at plain ⊢
    exact ih plain
  | inGroup _ ih =>
    rw [isPlain_group] at plain ⊢
    simp only [List.forall_mem_append, List.forall_mem_cons] at plain ⊢
    exact ⟨plain.1, ih plain.2.1, plain.2.2⟩

/-! ## tests -/

section Tests

variable {field : String} {type : FieldType} {dialect : Dialect}

section Lists

variable {A B : List Literal}

open scoped Classical

theorem toFinset_distinct (plain : ∀ l ∈ A ++ .integer n :: B, l.IsPlain) :
    (Literal.distinct (A ++ .integer n :: B)).toFinset = {.integer n} ∪ (A ++ B).toFinset := by
  ext l
  rw [List.mem_toFinset, Literal.mem_distinct plain]
  simp
  tauto

theorem sum_distinct (plain : ∀ l ∈ A ++ .integer n :: B, l.IsPlain) (f : Literal → ℕ) :
    ((Literal.distinct (A ++ .integer n :: B)).map f).sum =
      ∑ l ∈ {.integer n} ∪ (A ++ B).toFinset, f l := by
  rw [← toFinset_distinct plain, List.sum_toFinset f (Literal.nodup_distinct plain)]

/-- Lists of constants that differ in one integer are left with the same constants, or with such
of another weight. -/
theorem distinct_or_sum_ne (ne : n ≠ m) (plain : ∀ l ∈ A ++ .integer n :: B, l.IsPlain)
    (plain' : ∀ l ∈ A ++ .integer m :: B, l.IsPlain) :
    Literal.distinct (A ++ .integer n :: B) = Literal.distinct (A ++ .integer m :: B) ∨
      ((Literal.distinct (A ++ .integer n :: B)).map (literalWeight n dialect)).sum ≠
        ((Literal.distinct (A ++ .integer m :: B)).map (literalWeight n dialect)).sum := by
  have union := Sql.union_eq_or_sum_ne (f := literalWeight n dialect) (P := {.integer m})
    (x := .integer n) (by simp [literalWeight_integer, ne.symm])
    (by simp [literalWeight_integer, ne.symm]) (A ++ B).toFinset
  rw [sum_distinct plain, sum_distinct plain']
  refine union.imp (fun same => Literal.identifies.distinct_congr plain fun l => ?_) .symm
  rw [← Literal.mem_distinct plain, ← Literal.mem_distinct plain', ← List.mem_toFinset,
    ← List.mem_toFinset, toFinset_distinct plain, toFinset_distinct plain', same]

end Lists

theorem literalWeight_ne (ne : n ≠ m) :
    literalWeight n dialect (.integer n) ≠ literalWeight n dialect (.integer m) := by
  simp [literalWeight_integer, ne.symm]

theorem compare_differIn {comparison : Sql.Comparison} {v w : Json} {check check' : Test}
    (h : v.DifferIn n m w) (ne : n ≠ m) (fits : FitsWord n) (fits' : FitsWord m)
    (hv : c.test field type (.compare comparison) v = .ok check)
    (hw : c.test field type (.compare comparison) w = .ok check') :
    weighPieces n dialect (Style.test check) ≠ weighPieces n dialect (Style.test check') := by
  obtain ⟨literal, hliteral, hv⟩ := bind_eq_ok.1 hv
  obtain ⟨literal', hliteral', hw⟩ := bind_eq_ok.1 hw
  cases hv
  cases hw
  cases h with
  | value =>
    cases literalOf_integer fits hliteral
    cases literalOf_integer fits' hliteral'
    rw [Sql.weigh_compare, Sql.weigh_compare, Ne, Nat.add_left_cancel_iff]
    exact literalWeight_ne ne
  | item => cases hliteral

theorem among_differIn {negated : Bool} {v w : Json} {check check' : Test}
    (h : v.DifferIn n m w) (ne : n ≠ m) (fits : FitsWord n) (fits' : FitsWord m)
    (plain : ∀ x, Json.float x ∈ v.constants → MachineNumber.IsPlain x)
    (hv : c.test field type (.among negated) v = .ok check)
    (hw : c.test field type (.among negated) w = .ok check') :
    check = check' ∨ weighPieces n dialect (Style.test check) ≠
      weighPieces n dialect (Style.test check') := by
  obtain ⟨values, hvalues, hv⟩ := bind_eq_ok.1 hv
  obtain ⟨values', hvalues', hw⟩ := bind_eq_ok.1 hw
  cases hv
  cases hw
  obtain ⟨items, constants, rfl, -, -, hconstants, rfl⟩ := listOf_eq_ok hvalues
  obtain ⟨items', constants', rfl, -, -, hconstants', rfl⟩ := listOf_eq_ok hvalues'
  have plainConstants := mapM_literalOf_plain plain hconstants
  have plainConstants' :=
    mapM_literalOf_plain (fun x hx => plain x ((h.float_mem x).2 hx)) hconstants'
  cases h with
  | item pre post =>
    obtain ⟨A, l, B, hpre, hl, hpost, rfl⟩ := forall₂_append_cons.1 (mapM_eq_ok.1 hconstants)
    obtain ⟨A', l', B', hpre', hl', hpost', rfl⟩ :=
      forall₂_append_cons.1 (mapM_eq_ok.1 hconstants')
    cases forall₂_ok_unique hpre hpre'
    cases forall₂_ok_unique hpost hpost'
    cases literalOf_integer fits hl
    cases literalOf_integer fits' hl'
    rw [Sql.weigh_among, Sql.weigh_among, Ne, Nat.add_left_cancel_iff]
    exact (distinct_or_sum_ne ne plainConstants plainConstants').imp_left
      fun same => by rw [same]

theorem between_differIn {v w : Json} {check check' : Test}
    (h : v.DifferIn n m w) (ne : n ≠ m) (fits : FitsWord n) (fits' : FitsWord m)
    (hv : c.test field type .between v = .ok check)
    (hw : c.test field type .between w = .ok check') :
    weighPieces n dialect (Style.test check) ≠ weighPieces n dialect (Style.test check') := by
  obtain ⟨low, high, a, b, rfl, ha, hb, rfl⟩ := between_eq_ok hv
  obtain ⟨low', high', a', b', rfl, ha', hb', rfl⟩ := between_eq_ok hw
  have heavier : literalWeight n dialect (.integer n) ≠ literalWeight n dialect (.integer m) :=
    literalWeight_ne ne
  rw [Sql.weigh_between, Sql.weigh_between]
  generalize hitems : [low, high] = items at h
  generalize hitems' : [low', high'] = items' at h
  cases h with
  | item pre post =>
    -- the integer is the lower bound or the upper one
    rcases pre with _ | ⟨first, _ | ⟨second, pre⟩⟩
    · cases hitems
      cases hitems'
      cases hb.symm.trans hb'
      cases literalOf_integer fits ha
      cases literalOf_integer fits' ha'
      omega
    · cases hitems
      cases hitems'
      cases ha.symm.trans ha'
      cases literalOf_integer fits hb
      cases literalOf_integer fits' hb'
      omega
    · simp at hitems

/-- Tests for values that differ in one integer are the same, or differ in weight. -/
theorem test_differIn {operator : Operator} {v w : Json} {check check' : Test}
    (h : v.DifferIn n m w) (ne : n ≠ m) (fits : FitsWord n) (fits' : FitsWord m)
    (plain : ∀ x, Json.float x ∈ v.constants → MachineNumber.IsPlain x)
    (hv : c.test field type operator v = .ok check)
    (hw : c.test field type operator w = .ok check') :
    check = check' ∨ weighPieces n dialect (Style.test check) ≠
      weighPieces n dialect (Style.test check') := by
  cases operator with
  | compare comparison => exact .inr (compare_differIn h ne fits fits' hv hw)
  | among negated => exact among_differIn h ne fits fits' plain hv hw
  | between => exact .inr (between_differIn h ne fits fits' hv hw)
  | like negated => cases h <;> cases hv
  | isNull negated => cases h <;> cases hv

end Tests

/-! ## filters -/

theorem settled_compileFilter {f : Filter} {condition : Condition} {level : Level}
    (plain : f.IsPlain) (h : d.compileFilter c f = .ok (condition, level)) :
    condition.IsSettled level where
  plain := compileFilter_eq_normal h ▸ isPlain_normal plain
  normal := compileFilter_eq_normal h ▸ isNormal_normal plain
  onLevel := onLevel_compileFilter h

section Exchange

variable {s : Style} {level level' : Level} {condition condition' : Condition}

theorem settled_of_forall₂ {filters : List Filter} {conditions : List Condition}
    (plain : ∀ f ∈ filters, f.IsPlain)
    (h : List.Forall₂ (fun f condition => d.compileFilter c f = .ok (condition, level)) filters
      conditions) : ∀ condition ∈ conditions, condition.IsSettled level := by
  intro condition hcondition
  obtain ⟨f, hf, compiled⟩ := exists_of_mem_forall₂ h hcondition
  exact settled_compileFilter (plain f hf) compiled

theorem conditions_unique {filters : List Filter} {conditions conditions' : List Condition}
    (h : List.Forall₂ (fun f condition => d.compileFilter c f = .ok (condition, level)) filters
      conditions)
    (h' : List.Forall₂ (fun f condition => d.compileFilter c f = .ok (condition, level)) filters
      conditions') : conditions = conditions' :=
  List.right_unique_forall₂' (fun _ _ _ hb hb' => by
    cases hb.symm.trans hb'
    rfl) h h'

theorem predicate_differIn {field operator : String} {v w : Json} (h : v.DifferIn n m w)
    (ne : n ≠ m) (fits : FitsWord n) (fits' : FitsWord m)
    (plain : (Filter.predicate ⟨field, operator, v⟩).IsPlain)
    (hv : d.compileFilter c (.predicate ⟨field, operator, v⟩) = .ok (condition, level))
    (hw : d.compileFilter c (.predicate ⟨field, operator, w⟩) = .ok (condition', level')) :
    level = level' ∧ Exchanged s n level condition condition' := by
  have settled := settled_compileFilter plain hv
  have settled' := settled_compileFilter ((Filter.DifferIn.predicate h).isPlain plain) hw
  rw [Filter.IsPlain] at plain
  rw [Dataset.compileFilter] at hv hw
  obtain ⟨_, op, check, hfield, hop, hcheck, rfl, rfl⟩ := condition_eq_ok.1 hv
  obtain ⟨_, _, check', hfield', hop', hcheck', rfl, rfl⟩ := condition_eq_ok.1 hw
  cases hfield.symm.trans hfield'
  cases hop.symm.trans hop'
  have differ : check = check' ∨ weighPieces n s.dialect (Style.test check) ≠
      weighPieces n s.dialect (Style.test check') :=
    test_differIn h ne fits fits' plain hcheck hcheck'
  refine ⟨rfl, settled, settled', fun _ => Iff.rfl,
    .of_own settled settled' (fun _ => rfl) (fun _ => rfl) (differ.imp (fun same => ?_) ?_)⟩
  · rw [same]
  · simp [Style.weight]

/-- Filters that differ in one integer are compiled to conditions that are exchanged for one
another. -/
theorem compileFilter_differIn {f f' : Filter} (h : f.DifferIn n m f') (ne : n ≠ m)
    (fits : FitsWord n) (fits' : FitsWord m) (plain : f.IsPlain) :
    ∀ {condition condition' level level'}, d.compileFilter c f = .ok (condition, level) →
      d.compileFilter c f' = .ok (condition', level') →
        level = level' ∧ Exchanged s n level condition condition' := by
  induction h with
  | predicate h => exact predicate_differIn h ne fits fits' plain
  | inNot h ih =>
    intro condition condition' level level' hf hf'
    rw [Filter.IsPlain] at plain
    obtain ⟨inner, hinner, rfl⟩ := compileFilter_not.1 hf
    obtain ⟨inner', hinner', rfl⟩ := compileFilter_not.1 hf'
    exact (ih plain hinner hinner').imp_right .not
  | @inGroup k pre f f' post h ih =>
    intro condition condition' level level' hf hf'
    rw [Filter.isPlain_group] at plain
    simp only [List.forall_mem_append, List.forall_mem_cons] at plain
    obtain ⟨plainPre, plainF, plainPost⟩ := plain
    obtain ⟨conditions, hj, -, compiled⟩ := compileFilter_group.1 hf
    obtain ⟨conditions', hj', -, compiled'⟩ := compileFilter_group.1 hf'
    obtain ⟨A, one, B, hpre, hone, hpost, rfl⟩ := forall₂_append_cons.1 compiled
    obtain ⟨A', one', B', hpre', hone', hpost', rfl⟩ := forall₂_append_cons.1 compiled'
    obtain ⟨rfl, exchanged⟩ := ih plainF hone hone'
    cases conditions_unique hpre hpre'
    cases conditions_unique hpost hpost'
    exact ⟨rfl, exchanged.junction (settled_of_forall₂ plainPre hpre)
      (settled_of_forall₂ plainPost hpost) hj hj'⟩

/-! ## clauses -/

/-- The clauses of filters in one of which a condition is exchanged. -/
structure ClausesExchanged (s : Style) (n : ℤ) (r r' : Option Condition × Option Condition) :
    Prop where
  terms : ∀ t, t ∈ (r.1.toList ++ r.2.toList).flatMap Condition.terms ↔
    t ∈ (r'.1.toList ++ r'.2.toList).flatMap Condition.terms
  apart : r = r' ∨ (r.1.map (s.weight n)).getD 0 + (r.2.map (s.weight n)).getD 0 ≠
    (r'.1.map (s.weight n)).getD 0 + (r'.2.map (s.weight n)).getD 0

theorem ClausesExchanged.of_level {r r' : Option Condition × Option Condition} {g g' : Condition}
    (h : Exchanged s n level g g') (hr : level.clause r = some g) (hr' : level.clause r' = some g')
    (others : ∀ other ≠ level, other.clause r = other.clause r') : ClausesExchanged s n r r' := by
  obtain ⟨rows, groups⟩ := r
  obtain ⟨rows', groups'⟩ := r'
  have differ := h.apart.eq_or_weight_ne h.left h.right
  cases level with
  | rows =>
    cases hr
    cases hr'
    cases (others .groups (by decide) : groups = groups')
    exact ⟨fun t => by simp [h.terms], differ.imp (fun same => by rw [same]) (by simp)⟩
  | groups =>
    cases hr
    cases hr'
    cases (others .rows (by decide) : rows = rows')
    exact ⟨fun t => by simp [h.terms], differ.imp (fun same => by rw [same]) (by simp)⟩

theorem settled_atLevel {filters : List Filter} {compiled : List (Condition × Level)}
    (plain : ∀ f ∈ filters, f.IsPlain)
    (h : List.Forall₂ (fun f r => d.compileFilter c f = .ok r) filters compiled) :
    ∀ condition ∈ atLevel level compiled, condition.IsSettled level := by
  intro condition hcondition
  obtain ⟨⟨part, own⟩, hpart, eq⟩ := List.mem_filterMap.1 hcondition
  obtain ⟨same, eq⟩ := Option.ite_none_right_eq_some.1 eq
  cases eq
  obtain ⟨f, hf, compiled⟩ := exists_of_mem_forall₂ h hpart
  exact settled_compileFilter (plain f hf) (same ▸ compiled)

theorem conditions_differIn {pre post : List Filter} {f f' : Filter}
    {r r' : Option Condition × Option Condition} (h : f.DifferIn n m f') (ne : n ≠ m)
    (fits : FitsWord n) (fits' : FitsWord m) (plain : ∀ x ∈ pre ++ f :: post, x.IsPlain)
    (hr : d.conditions c (pre ++ f :: post) = .ok r)
    (hr' : d.conditions c (pre ++ f' :: post) = .ok r') : ClausesExchanged s n r r' := by
  simp only [List.forall_mem_append, List.forall_mem_cons] at plain
  obtain ⟨plainPre, plainF, plainPost⟩ := plain
  obtain ⟨compiled, hcompiled, clauses⟩ := conditions_eq_ok hr
  obtain ⟨compiled', hcompiled', clauses'⟩ := conditions_eq_ok hr'
  obtain ⟨A, ⟨one, level⟩, B, hpre, hone, hpost, rfl⟩ := forall₂_append_cons.1 hcompiled
  obtain ⟨A', ⟨one', level'⟩, B', hpre', hone', hpost', rfl⟩ := forall₂_append_cons.1 hcompiled'
  cases forall₂_ok_unique hpre hpre'
  cases forall₂_ok_unique hpost hpost'
  obtain ⟨rfl, exchanged⟩ := compileFilter_differIn (s := s) h ne fits fits' plainF hone hone'
  have own (x : Condition) : atLevel level (A ++ (x, level) :: B) =
      atLevel level A ++ x :: atLevel level B := by simp [atLevel]
  have other (x : Condition) {l : Level} (ne : l ≠ level) : atLevel l (A ++ (x, level) :: B) =
      atLevel l A ++ atLevel l B := by simp [atLevel, ne.symm]
  have settledPre : ∀ x ∈ atLevel level A, x.IsSettled level := settled_atLevel plainPre hpre
  have settledPost : ∀ x ∈ atLevel level B, x.IsSettled level := settled_atLevel plainPost hpost
  have some_clause {x : Condition} (hx : x.IsSettled level) :
      ∃ g, junction .and (atLevel level A ++ x :: atLevel level B) = some g := by
    have levels : ∀ y ∈ atLevel level A ++ x :: atLevel level B, y.OnLevel level := by
      simp only [List.forall_mem_append, List.forall_mem_cons]
      exact ⟨fun y hy => (settledPre y hy).onLevel, hx.onLevel,
        fun y hy => (settledPost y hy).onLevel⟩
    obtain ⟨g, hg, -⟩ := Condition.OnLevel.junction (k := .and) levels (by simp)
    exact ⟨g, hg⟩
  obtain ⟨g, hg⟩ := some_clause exchanged.left
  obtain ⟨g', hg'⟩ := some_clause exchanged.right
  refine .of_level (exchanged.junction settledPre settledPost hg hg') ?_ ?_ fun l ne => ?_
  · rw [clauses, own, hg]
  · rw [clauses', own, hg']
  · rw [clauses, clauses', other one ne, other one' ne]

end Exchange

/-! ## queries -/

section Queries

variable {request request' : Request} {q q' r r' : Sql.Query} {s : Style} {caller : Caller}

theorem compile_differIn (h : request.DifferIn n m request') (ne : n ≠ m) (fits : FitsWord n)
    (fits' : FitsWord m) (plain : ∀ f ∈ request.filters, f.IsPlain)
    (hq : d.compile c request = .ok q) (hq' : d.compile c request' = .ok q') :
    q.SharesFrame q' ∧ (q = q' ∨ q.clauseWeight s n ≠ q'.clauseWeight s n) := by
  obtain ⟨hfilters, hf⟩ := h
  obtain ⟨⟨dimensions, projection, selection, having, order, limit⟩, hp, rfl⟩ := compile_eq_ok.1 hq
  obtain ⟨⟨dimensions', projection', selection', having', order', limit'⟩, hp', rfl⟩ :=
    compile_eq_ok.1 hq'
  rw [hfilters] at plain
  have clauses : ClausesExchanged s n (selection, having) (selection', having') :=
    conditions_differIn hf ne fits fits' plain (hfilters ▸ hp.conditions) hp'.conditions
  cases hp.dimensions.symm.trans hp'.dimensions
  cases hp.projection.symm.trans hp'.projection
  cases hp.order.symm.trans hp'.order
  cases hp.limit.symm.trans hp'.limit
  have joins : d.neededJoins (projection.map (·.term) ++
        (selection.toList ++ having.toList).flatMap Condition.terms) =
      d.neededJoins (projection.map (·.term) ++
        (selection'.toList ++ having'.toList).flatMap Condition.terms) :=
    Dataset.neededJoins_congr fun t => by rw [List.mem_append, List.mem_append, clauses.terms]
  refine ⟨?_, clauses.apart.imp_left fun same => ?_⟩
  · simp only [Sql.Query.SharesFrame, Compiled.query, Compiled.conditions, joins]
  · cases same
    rfl

theorem clauseWeight_guarded (q : Sql.Query) (column : Sql.Column) (tenant : String) :
    (q.guarded column tenant).clauseWeight s n =
      s.weight n (.guard column tenant) + q.clauseWeight s n := by
  cases hs : q.selection with
  | none => simp [Sql.Query.clauseWeight, Sql.Query.guarded, hs]
  | some condition =>
    simp only [Sql.Query.clauseWeight, Sql.Query.guarded, hs, Style.weight, Style.weightAll,
      Option.map_some, Option.getD_some]
    omega

/-- Scoping two queries to one caller changes them alike. -/
theorem enforce_sharesFrame (frame : q.SharesFrame q') (unguarded : q.guardedFor? = none)
    (unguarded' : q'.guardedFor? = none) (hr : d.enforce caller q = .ok r)
    (hr' : d.enforce caller q' = .ok r') : r.SharesFrame r' ∧
      r.clauseWeight s n + q'.clauseWeight s n = r'.clauseWeight s n + q.clauseWeight s n := by
  rw [Sql.Query.SharesFrame] at frame
  rcases enforce_alike d caller with ⟨scope, noted⟩ | ⟨column, guards⟩
  · cases noted unguarded hr
    cases noted unguarded' hr'
    exact ⟨by rw [frame]; rfl, Nat.add_comm ..⟩
  · cases guards unguarded hr
    cases guards unguarded' hr'
    refine ⟨by rw [frame]; rfl, ?_⟩
    rw [clauseWeight_guarded, clauseWeight_guarded]
    omega

theorem clauseWeight_eq_of_text {sql sql' : Sql.Rendered} (frame : r.SharesFrame r')
    (hr : r.render = .ok sql) (hr' : r'.render = .ok sql') (same : sql.text = sql'.text) (n : ℤ) :
    r.clauseWeight r.style n = r'.clauseWeight r.style n := by
  have written {r : Sql.Query} {sql : Sql.Rendered} (h : r.render = .ok sql) :
      ∃ pieces, r.pieces = .ok pieces ∧ sql.text = Sql.writePieces r.dialect pieces := by
    unfold Sql.Query.render at h
    obtain ⟨-, h⟩ := unless_eq_ok.1 h
    obtain ⟨pieces, hpieces, h⟩ := bind_eq_ok.1 h
    obtain ⟨-, -, h⟩ := bind_eq_ok.1 h
    cases h
    exact ⟨pieces, hpieces, rfl⟩
  obtain ⟨pieces, hpieces, htext⟩ := written hr
  obtain ⟨pieces', hpieces', htext'⟩ := written hr'
  obtain ⟨rest, weights⟩ := r.weigh_pieces n
  have dialect : r'.dialect = r.dialect := by rw [frame]
  have chars : Sql.charsOf r.dialect pieces = Sql.charsOf r.dialect pieces' := by
    rw [htext, htext', dialect] at same
    exact String.ofList_inj.1 same
  have left := weights r pieces rfl hpieces
  have right := weights r' pieces' frame hpieces'
  rw [weighPieces, chars] at left
  exact Nat.add_left_cancel (left.symm.trans right)

/-! ## plans -/

theorem comparisons_enforce (h : d.enforce caller q = .ok r) : r.comparisons = q.comparisons := by
  have scoping := scoping_enforce d caller q
  rw [h] at scoping
  cases scoping with
  | kept | bypassed | unscoped => rfl
  | guarded _ _ _ =>
    cases hs : q.selection <;>
      simp [Sql.Query.comparisons, Sql.Query.guarded, hs, Condition.comparisons,
        Condition.comparisonsAll]

theorem holdsInteger_iff {caller : Caller} {plan : Plan} (fits : FitsWord n)
    (h : d.plan c caller request = .ok plan) :
    request.HoldsInteger n ↔ ∃ t, (t, Literal.integer n) ∈ plan.query.comparisons := by
  obtain ⟨q, hq, henforce, -⟩ := plan_eq_ok.1 h
  rw [comparisons_enforce henforce]
  constructor
  · rintro ⟨p, hp, own⟩
    obtain ⟨field, hfield⟩ := exists_field_compile hq p hp
    exact ⟨field.term, (integer_mem_compile fits hq).2 ⟨p, hp, field, hfield, rfl, own⟩⟩
  · rintro ⟨t, mem⟩
    obtain ⟨p, hp, -, -, -, own⟩ := (integer_mem_compile fits hq).1 mem
    exact ⟨p, hp, own⟩

/-- Everything in a plan comes from its query. -/
theorem plan_eq_of_query {caller : Caller} {plan plan' : Plan}
    (h : d.plan c caller request = .ok plan) (h' : d.plan c caller request' = .ok plan')
    (same : plan.query = plan'.query) : plan = plan' := by
  obtain ⟨-, -, -, hsql, hkey⟩ := plan_eq_ok.1 h
  obtain ⟨-, -, -, hsql', hkey'⟩ := plan_eq_ok.1 h'
  obtain ⟨query, sql, key⟩ := plan
  obtain ⟨query', sql', key'⟩ := plan'
  cases same
  cases hsql.symm.trans hsql'
  cases hkey.symm.trans hkey'
  rfl

theorem plan_eq_of_text {plan plan' : Plan} (h : request.DifferIn n m request') (ne : n ≠ m)
    (fits : FitsWord n) (fits' : FitsWord m) (plain : ∀ f ∈ request.filters, f.IsPlain)
    (hp : d.plan c caller request = .ok plan) (hp' : d.plan c caller request' = .ok plan')
    (same : plan.sql.text = plan'.sql.text) : plan = plan' := by
  obtain ⟨q, hq, henforce, hrender, -⟩ := plan_eq_ok.1 hp
  obtain ⟨_, hq', henforce', hrender', -⟩ := plan_eq_ok.1 hp'
  obtain ⟨frame, equal | apart⟩ :=
    compile_differIn (s := plan.query.style) h ne fits fits' plain hq hq'
  · cases equal
    exact plan_eq_of_query hp hp' (Except.ok.inj (henforce.symm.trans henforce'))
  · obtain ⟨frame, weights⟩ := enforce_sharesFrame (n := n) (s := plan.query.style) frame
      (guardedFor?_compile hq) (guardedFor?_compile hq') henforce henforce'
    have equal := clauseWeight_eq_of_text frame hrender hrender' same n
    omega

end Queries

/-! ## what two requests hold -/

theorem Json.DifferIn.symm {v w : Json} (h : v.DifferIn n m w) : w.DifferIn m n v := by
  cases h with
  | value => exact .value
  | item pre post => exact .item pre post

theorem Filter.DifferIn.symm {f f' : Filter} (h : f.DifferIn n m f') : f'.DifferIn m n f := by
  induction h with
  | predicate h => exact .predicate h.symm
  | inNot _ ih => exact .inNot ih
  | inGroup _ ih => exact .inGroup ih

theorem Filter.DifferIn.holds {f f' : Filter} (h : f.DifferIn n m f') :
    ∃ p ∈ f.predicates, .integer n ∈ p.value.constants := by
  induction h with
  | @predicate field operator v w h =>
    refine ⟨⟨field, operator, v⟩, by simp [predicates], ?_⟩
    cases h <;> simp [Json.constants]
  | inNot _ ih =>
    rw [predicates]
    exact ih
  | inGroup _ ih =>
    obtain ⟨p, hp, own⟩ := ih
    refine ⟨p, ?_, own⟩
    rw [predicates_group]
    exact List.mem_flatMap.2 ⟨_, List.mem_append_right _ List.mem_cons_self, hp⟩

theorem Request.DifferIn.holds {request request' : Request} (h : request.DifferIn n m request') :
    request.HoldsInteger n ∧ request'.HoldsInteger m := by
  obtain ⟨hfilters, hf⟩ := h
  have within {pre post : List Filter} {f : Filter} {k : ℤ}
      (h : ∃ p ∈ f.predicates, .integer k ∈ p.value.constants) :
      ∃ p ∈ (pre ++ f :: post).flatMap Filter.predicates, .integer k ∈ p.value.constants := by
    obtain ⟨p, hp, own⟩ := h
    exact ⟨p, List.mem_flatMap.2 ⟨f, List.mem_append_right _ List.mem_cons_self, hp⟩, own⟩
  refine ⟨?_, within hf.symm.holds⟩
  rw [HoldsInteger, predicates, hfilters]
  exact within hf.holds

/-- Each integer of 64 bits that a predicate of a compiled request has as a value is a constant of
the query, which the field of the predicate is compared with, and all of its digits are written. If
of two requests one has such an integer where the other has another one, and nothing else differs,
then only one plan for both gives them the same text, as long as no number is a zero with a minus
sign, or the same key, as far as the digest tells apart what is hashed. One plan is for both only if
each request holds the integer of the other one as well, so that in both it is a repeat that is
dropped. -/
theorem integers_exact (d : Dataset) (c : Ceilings) (request : Request) :
    (∀ q, d.compile c request = .ok q →
      ∀ p ∈ request.predicates, ∀ n, FitsWord n → .integer n ∈ p.value.constants →
        (∃ field, d.field? p.field = some field ∧ (field.term, .integer n) ∈ q.comparisons) ∧
        ∀ dialect, (Style.literal (.integer n)).write dialect = (toString n).toList) ∧
    ∀ (request' : Request) (n m : ℤ) (caller : Caller) (plan plan' : Plan),
      request.DifferIn n m request' → n ≠ m → FitsWord n → FitsWord m →
      d.plan c caller request = .ok plan → d.plan c caller request' = .ok plan' →
        ((∀ f ∈ request.filters, f.IsPlain) → plan.sql.text = plan'.sql.text → plan = plan') ∧
        (plan.query.IsFinite → plan'.query.IsFinite →
          (Sha256.hexDigest (CacheKey.source plan.query) =
              Sha256.hexDigest (CacheKey.source plan'.query) →
            CacheKey.source plan.query = CacheKey.source plan'.query) →
          plan.key = plan'.key → plan = plan') ∧
        (plan = plan' → request'.HoldsInteger n ∧ request.HoldsInteger m) := by
  refine ⟨fun q hq p hp n fits own => ⟨?_, fun dialect => ?_⟩, ?_⟩
  · obtain ⟨field, hfield⟩ := exists_field_compile hq p hp
    exact ⟨field, hfield, (integer_mem_compile fits hq).2 ⟨p, hp, field, hfield, rfl, own⟩⟩
  · exact String.toList_ofList.trans (NumberLayout.integer_eq n)
  · intro request' n m caller plan plan' differ ne fits fits' hp hp'
    refine ⟨fun plain => plan_eq_of_text differ ne fits fits' plain hp hp',
      fun finite finite' apart keys => ?_, ?_⟩
    · obtain ⟨-, -, -, -, hkey⟩ := plan_eq_ok.1 hp
      obtain ⟨-, -, -, -, hkey'⟩ := plan_eq_ok.1 hp'
      have sources := apart (CacheKey.digest_eq_of_key hkey (keys ▸ hkey'))
      exact plan_eq_of_query hp hp' (CacheKey.eq_of_source finite finite' sources)
    · rintro rfl
      obtain ⟨left, right⟩ := differ.holds
      exact ⟨(holdsInteger_iff fits hp').2 ((holdsInteger_iff fits hp).1 left),
        (holdsInteger_iff fits' hp).2 ((holdsInteger_iff fits' hp').1 right)⟩

namespace IntegerSample

def amountIs (n : ℤ) : Predicate := ⟨"amount", "=", .integer n⟩

/-- A list with a repeat in it. -/
def oneTwoAnd (n : ℤ) : Predicate := ⟨"amount", "in", .array ([1, 2, n].map .integer)⟩

def byAmount (check : Test) : Condition :=
  .test (.row (.column ⟨some "base", "amount"⟩)) check

def compiled (check : Test) : Compiled where
  dimensions := [⟨.row (.column ⟨some "base", "region"⟩), "region"⟩]
  projection :=
    [⟨.row (.column ⟨some "base", "region"⟩), "region"⟩, ⟨.aggregate .count none, "count"⟩]
  selection := some (byAmount check)
  having := none
  order := []
  limit := 1000

def query (check : Test) : Sql.Query :=
  { (compiled check).query orders (ordersRequest []) with scope := .bypassed "acme" }

def admin : Caller := ⟨"acme", .admin, "root"⟩

theorem conditions_byAmount {p : Predicate} {check : Test}
    (h : orders.condition {} p = .ok (byAmount check, .rows)) :
    orders.conditions {} [.predicate p] = .ok (some (byAmount check), none) := by
  have onRows : junction .and [byAmount check] = some (byAmount check) := by
    simp [junction, Condition.junctionParts, byAmount, Condition.partsOf, Sql.sortByKey,
      Sql.dropRepeats, Sql.dropRepeats.go]
  have onGroups : junction .and [] = none := by
    simp [junction, Condition.junctionParts, Sql.sortByKey, Sql.dropRepeats]
  refine bind_eq_ok.2 ⟨[(byAmount check, .rows)], mapM_eq_ok.2 (.cons h .nil), ?_⟩
  exact congrArg Except.ok (Prod.ext onRows onGroups)

def plan (check : Test) (sql : Sql.Rendered) : Plan where
  query := query check
  sql
  key := ⟨CacheKey.namePrefix ++ "v1:" ++ Sha256.hexDigest (CacheKey.source (query check))⟩

theorem compile_byAmount {p : Predicate} {check : Test}
    (h : orders.condition {} p = .ok (byAmount check, .rows)) :
    orders.compile {} (ordersRequest [.predicate p]) =
      .ok ((compiled check).query orders (ordersRequest [])) :=
  compile_eq_ok.2 ⟨compiled check, ⟨rfl, rfl, rfl, rfl, rfl, conditions_byAmount h, rfl, rfl⟩, rfl⟩

/-- A test of the amount is planned in one way, whatever it was asked for by. -/
theorem plan_byAmount {p : Predicate} {check : Test} {sql : Sql.Rendered}
    (h : orders.condition {} p = .ok (byAmount check, .rows))
    (rendered : (query check).render = .ok sql) :
    orders.plan {} admin (ordersRequest [.predicate p]) = .ok (plan check sql) :=
  plan_eq_ok.2 ⟨_, compile_byAmount h, rfl, rendered,
    CacheKey.ofQuery_eq_ok.2 ⟨by simp [plan, query], rfl⟩⟩

theorem field_amount : orders.field? "amount" =
    some ⟨.row (.column ⟨some "base", "amount"⟩), .float, .rows⟩ := rfl

def oneOrTwo : Test := .among [.integer 1, .integer 2] false

theorem distinct_repeat {n : ℤ} (h : n = 1 ∨ n = 2) :
    Literal.distinct ([1, 2, n].map .integer) = [.integer 1, .integer 2] := by
  have sorted : Sql.sortByKey Literal.sortKey [.integer 1, .integer 2] =
      [.integer 1, .integer 2] := Sql.sortByKey_pair (by decide +kernel)
  have same : Literal.distinct ([1, 2, n].map .integer) = Literal.distinct ([1, 2].map .integer) :=
    Literal.identifies.distinct_congr (by simp [Literal.IsPlain]) fun l => by
      simp only [List.map_cons, List.map_nil, List.mem_cons, List.not_mem_nil, or_false]
      rcases h with rfl | rfl <;> tauto
  exact same.trans (congrArg (Sql.dropRepeats Literal.same) sorted)

theorem condition_repeat {n : ℤ} (h : n = 1 ∨ n = 2) :
    orders.condition {} (oneTwoAnd n) = .ok (byAmount oneOrTwo, .rows) := by
  have constants : ([1, 2, n].map Json.integer).mapM (literalOf "amount" .float) =
      .ok ([1, 2, n].map Literal.integer) := by
    rcases h with rfl | rfl <;> rfl
  have list := listOf_ok (c := {}) (by simp) (by simp) constants
  rw [distinct_repeat h] at list
  have check : Ceilings.test {} "amount" .float (.among false) (oneTwoAnd n).value = .ok oneOrTwo :=
    bind_eq_ok.2 ⟨_, list, rfl⟩
  have operator : Operator.parse? "in" = some (.among false) := by decide +kernel
  exact condition_eq_ok.2 ⟨_, _, _, field_amount, operator, check, rfl, rfl⟩

def text (test : String) : Sql.Rendered where
  text := "SELECT region, COUNT(*) AS count FROM orders AS base WHERE amount " ++ test ++
    " GROUP BY region LIMIT 1000"
  dialect := .postgresql

theorem plan_repeat {n : ℤ} (h : n = 1 ∨ n = 2) :
    orders.plan {} admin (ordersRequest [.predicate (oneTwoAnd n)]) =
      .ok (plan oneOrTwo (text "IN (1, 2)")) :=
  plan_byAmount (condition_repeat h) (by decide +kernel)

/-- Both integers are rounded to the same number. -/
theorem plan_rounded {n : ℤ} (h : n = 2 ^ 63 ∨ n = 2 ^ 63 + 1) :
    orders.plan {} admin (ordersRequest [.predicate (amountIs n)]) =
      .ok (plan (.compare .equal (.float 9223372036854775808)) (text "= 9223372036854776000")) := by
  have rounded : Json.floatOfInteger n = 9223372036854775808 := by
    rcases h with rfl | rfl <;> decide +kernel
  have literal : literalOf "amount" .float (.integer n) = .ok (.float 9223372036854775808) := by
    have large : ¬(-wordSize 63 ≤ n ∧ n < wordSize 63) := by
      rcases h with rfl | rfl <;> decide
    have numeric : FieldType.float.isNumeric = true := rfl
    rw [literalOf, if_pos numeric, if_neg large, rounded]
  have operator : Operator.parse? "=" = some (.compare .equal) := by decide +kernel
  have check : Ceilings.test {} "amount" .float (.compare .equal) (.integer n) =
      .ok (.compare .equal (.float 9223372036854775808)) := bind_eq_ok.2 ⟨_, literal, rfl⟩
  exact plan_byAmount (condition_eq_ok.2 ⟨_, _, _, field_amount, operator, check, rfl, rfl⟩)
    (by decide +kernel)

end IntegerSample

open IntegerSample in
/-- Two lists with different repeats have one plan, and each holds the repeat of the other one. -/
theorem integers_exact_repeat :
    FitsWord 1 ∧ FitsWord 2 ∧
    (ordersRequest [.predicate (oneTwoAnd 1)]).DifferIn 1 2
      (ordersRequest [.predicate (oneTwoAnd 2)]) ∧
    orders.plan {} admin (ordersRequest [.predicate (oneTwoAnd 1)]) =
      .ok (plan oneOrTwo (text "IN (1, 2)")) ∧
    orders.plan {} admin (ordersRequest [.predicate (oneTwoAnd 2)]) =
      .ok (plan oneOrTwo (text "IN (1, 2)")) ∧
    (∃ field, orders.field? "amount" = some field ∧ (field.term, .integer 2) ∈
      ((compiled oneOrTwo).query orders (ordersRequest [])).comparisons) ∧
    (∀ f ∈ [Filter.predicate (oneTwoAnd 1)], f.IsPlain) ∧ (query oneOrTwo).IsFinite ∧
    (ordersRequest [.predicate (oneTwoAnd 2)]).HoldsInteger 1 ∧
    (ordersRequest [.predicate (oneTwoAnd 1)]).HoldsInteger 2 := by
  have differ : (ordersRequest [.predicate (oneTwoAnd 1)]).DifferIn 1 2
      (ordersRequest [.predicate (oneTwoAnd 2)]) :=
    @Request.DifferIn.filter _ _ _ [] _ _ [] rfl
      (.predicate (.item [.integer 1, .integer 2] []))
  have compiles := compile_byAmount (condition_repeat (.inl rfl))
  have one := plan_repeat (.inl rfl)
  have two := plan_repeat (.inr rfl)
  have plain : ∀ f ∈ [Filter.predicate (oneTwoAnd 1)], f.IsPlain := by
    simp [Filter.IsPlain, Predicate.IsPlain, oneTwoAnd, Json.constants]
  have finite : (query oneOrTwo).IsFinite := by
    intro l hl
    have integer : l = .integer 1 ∨ l = .integer 2 := by
      simpa [Sql.Query.literals, query, Compiled.query, compiled, byAmount, oneOrTwo,
        Condition.literals, Test.literals] using hl
    rcases integer with rfl | rfl <;> trivial
  obtain ⟨kept, differing⟩ := integers_exact orders {} (ordersRequest [.predicate (oneTwoAnd 1)])
  obtain ⟨byText, byKey, hold⟩ :=
    differing _ 1 2 admin _ _ differ (by decide) (by decide) (by decide) one two
  obtain ⟨field, -⟩ := kept _ compiles (oneTwoAnd 1)
    (by simp [ordersRequest, Request.predicates, Filter.predicates]) 2 (by decide)
    (by simp [oneTwoAnd, Json.constants])
  obtain ⟨right, left⟩ :=
    hold ((byText plain rfl).trans (byKey finite finite (fun _ => rfl) rfl))
  exact ⟨by decide, by decide, differ, one, two, field, plain, finite, right, left⟩

open IntegerSample in
/-- A large integer is not written with all its digits, and it shares the plan of another one; so do
two lists with different repeats. -/
theorem plans_shared :
    (orders.plan {} admin (ordersRequest [.predicate (amountIs (2 ^ 63 + 1))]) =
        .ok (plan (.compare .equal (.float 9223372036854775808)) (text "= 9223372036854776000")) ∧
      orders.plan {} admin (ordersRequest [.predicate (amountIs (2 ^ 63))]) =
        .ok (plan (.compare .equal (.float 9223372036854775808)) (text "= 9223372036854776000"))) ∧
    orders.plan {} admin (ordersRequest [.predicate (oneTwoAnd 1)]) =
      orders.plan {} admin (ordersRequest [.predicate (oneTwoAnd 2)]) :=
  ⟨⟨plan_rounded (.inr rfl), plan_rounded (.inl rfl)⟩,
    (plan_repeat (.inl rfl)).trans (plan_repeat (.inr rfl)).symm⟩

end AnalyticsGateway
