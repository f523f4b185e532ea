import AnalyticsGateway.Catalog.Dataset
import AnalyticsGateway.Text.Alphabetic

/-!
# The joins that a query needs

A join is needed if its alias qualifies a column or is mentioned by a fragment, or if a needed join
hangs on it.
-/

namespace AnalyticsGateway.Text

/-! ## Mentions of a qualifier -/

/-- Whether a name cannot reach beyond a character on its left. -/
def isNameBoundary (before : Option Char) : Bool :=
  match before with
  | some c => !(isAlphanumeric c || c = '_')
  | none => true

/-- Whether `needle` begins at the boundary of a name somewhere in a text; where it was found, the
search goes on behind it. `skip` characters are still to be passed over. -/
def mentionsFrom (needle : List Char) (before : Option Char) (skip : Nat) : List Char → Bool
  | [] => false
  | c :: rest =>
    match skip with
    | skip + 1 => mentionsFrom needle (some c) skip rest
    | 0 =>
      if needle.isPrefixOf (c :: rest) then
        isNameBoundary before || mentionsFrom needle (some c) (needle.length - 1) rest
      else mentionsFrom needle (some c) 0 rest

/-- Whether a text has `qualifier.`, not as the end of a longer name. -/
def mentionsQualifier (text qualifier : String) : Bool :=
  mentionsFrom (qualifier.toList ++ ['.']) none 0 text.toList

end AnalyticsGateway.Text

namespace AnalyticsGateway

namespace Dataset

/-! ## parents -/

/-- The aliases of joins that stand on the left of a join's keys. -/
def parents (d : Dataset) (join : JoinDefinition) : List String :=
  join.keys.filterMap fun key => do
    let (qualifier, _) ← Text.splitFirst '.' key.left
    return (← d.join? qualifier).aliasName

/-- Adds the parents of a join that is needed. -/
def addParents (d : Dataset) (needed : List String) (join : JoinDefinition) : List String :=
  if join.aliasName ∈ needed then (d.parents join).foldr List.insert needed else needed

/-- One pass over the joins. What a join adds counts for those behind it. -/
def followJoins (d : Dataset) (needed : List String) : List String :=
  d.joins.foldl d.addParents needed

/-- The joins that are not needed so far. -/
def unneeded (d : Dataset) (needed : List String) : List JoinDefinition :=
  d.joins.filter fun join => join.aliasName ∉ needed

/-- Whether all parents of needed joins are needed. -/
def Settled (d : Dataset) (needed : List String) : Prop :=
  ∀ join ∈ d.joins, join.aliasName ∈ needed → ∀ parent ∈ d.parents join, parent ∈ needed

section Passes

variable {d : Dataset} {needed : List String} {join : JoinDefinition} {aliasName : String}

/-- Only joins of the catalog are parents. -/
theorem exists_of_mem_parents (h : aliasName ∈ d.parents join) :
    ∃ parent ∈ d.joins, parent.aliasName = aliasName := by
  simp only [parents, List.mem_filterMap, Option.bind_eq_bind, Option.bind_eq_some_iff] at h
  obtain ⟨_, _, _, _, parent, found, same⟩ := h
  exact ⟨parent, List.mem_of_find?_eq_some found, Option.some.inj same⟩

theorem mem_addParents : aliasName ∈ d.addParents needed join ↔
    aliasName ∈ needed ∨ join.aliasName ∈ needed ∧ aliasName ∈ d.parents join := by
  have inserted (new : List String) :
      aliasName ∈ new.foldr List.insert needed ↔ aliasName ∈ needed ∨ aliasName ∈ new := by
    induction new with
    | nil => simp
    | cons a rest ih => simp [ih, or_left_comm]
  unfold addParents
  split <;> simp [*]

/-- Nothing that is needed is dropped. -/
theorem suffix_foldl_addParents (joins : List JoinDefinition) :
    needed <:+ joins.foldl d.addParents needed := by
  have step (needed : List String) (join : JoinDefinition) :
      needed <:+ d.addParents needed join := by
    unfold addParents
    split
    · induction d.parents join with
      | nil => exact List.suffix_rfl
      | cons a rest ih =>
        rw [List.foldr_cons, List.insert]
        split
        · exact ih
        · exact ih.trans (List.suffix_cons a _)
    · exact List.suffix_rfl
  induction joins generalizing needed with
  | nil => exact List.suffix_rfl
  | cons join rest ih => exact (step needed join).trans ih

theorem suffix_followJoins : needed <:+ d.followJoins needed :=
  suffix_foldl_addParents d.joins

theorem addParents_eq_self
    (h : join.aliasName ∈ needed → ∀ parent ∈ d.parents join, parent ∈ needed) :
    d.addParents needed join = needed := by
  have inserted (new : List String) (h : ∀ a ∈ new, a ∈ needed) :
      new.foldr List.insert needed = needed := by
    induction new with
    | nil => rfl
    | cons a rest ih =>
      obtain ⟨first, others⟩ := List.forall_mem_cons.1 h
      rw [List.foldr_cons, ih others, List.insert_of_mem first]
  unfold addParents
  split
  · rename_i is_needed
    exact inserted _ (h is_needed)
  · rfl

/-- A pass adds the parents of all joins that are needed before it. -/
theorem mem_followJoins (hjoin : join ∈ d.joins) (is_needed : join.aliasName ∈ needed)
    (hparent : aliasName ∈ d.parents join) : aliasName ∈ d.followJoins needed := by
  obtain ⟨before, after, joins⟩ := List.append_of_mem hjoin
  unfold followJoins
  rw [joins, List.foldl_append, List.foldl_cons]
  have still : join.aliasName ∈ before.foldl d.addParents needed :=
    (suffix_foldl_addParents before).mem is_needed
  exact (suffix_foldl_addParents after).mem (mem_addParents.2 (.inr ⟨still, hparent⟩))

/-- Exactly when all parents are needed, a pass adds none. -/
theorem settled_iff : d.Settled needed ↔ (d.followJoins needed).length = needed.length := by
  constructor
  · intro h
    have pass : ∀ joins : List JoinDefinition, (∀ join ∈ joins, join ∈ d.joins) →
        joins.foldl d.addParents needed = needed := by
      intro joins hjoins
      induction joins with
      | nil => rfl
      | cons join rest ih =>
        obtain ⟨first, others⟩ := List.forall_mem_cons.1 hjoins
        rw [List.foldl_cons, addParents_eq_self (h join first), ih others]
    rw [followJoins, pass d.joins fun _ hj => hj]
  · intro same join hjoin is_needed parent hparent
    rw [suffix_followJoins.eq_of_length same.symm]
    exact mem_followJoins hjoin is_needed hparent

/-- A pass that adds something leaves fewer joins that are not needed. -/
theorem unneeded_followJoins (h : ¬(d.followJoins needed).length = needed.length) :
    (d.unneeded (d.followJoins needed)).length < (d.unneeded needed).length := by
  have still {a : String} (ha : a ∉ d.followJoins needed) : a ∉ needed :=
    fun is_needed => ha (suffix_followJoins.mem is_needed)
  have fewer : d.unneeded (d.followJoins needed) =
      (d.unneeded needed).filter fun join => join.aliasName ∉ d.followJoins needed := by
    rw [unneeded, unneeded, List.filter_filter]
    refine List.filter_congr fun join _ => ?_
    simpa using still
  have unsettled : ¬d.Settled needed := fun settled => h (settled_iff.1 settled)
  simp only [Settled, Classical.not_forall] at unsettled
  obtain ⟨join, hjoin, is_needed, aliasName, hparent, new⟩ := unsettled
  obtain ⟨parent, known, rfl⟩ := exists_of_mem_parents hparent
  rw [fewer, List.length_filter_lt_length_iff_exists]
  exact ⟨parent, List.mem_filter.2 ⟨known, by simpa using new⟩,
    by simpa using mem_followJoins hjoin is_needed hparent⟩

end Passes

/-! ## needed joins -/

/-- Passes over the joins until one adds nothing. -/
def withParents (d : Dataset) (needed : List String) : List String :=
  let next := d.followJoins needed
  if next.length = needed.length then needed else d.withParents next
termination_by (d.unneeded needed).length
decreasing_by exact unneeded_followJoins ‹_›

/-- The aliases that some terms qualify their columns with or mention in fragments. -/
def aliasesIn (d : Dataset) (terms : List Sql.Term) : List String :=
  let fragments := terms.flatMap Sql.Term.fragments
  terms.flatMap Sql.Term.qualifiers ++
    (d.joins.map (·.aliasName)).filter fun aliasName =>
      fragments.any fun sql => Text.mentionsQualifier sql aliasName

def joinOf (d : Dataset) (join : JoinDefinition) : Sql.Join where
  kind := join.kind
  table := ⟨.table join.table, join.aliasName⟩
  conditions := join.keys.map fun key =>
    ⟨Sql.Column.ofReference key.left d.aliasName, ⟨some join.aliasName, key.right⟩⟩

/-- The needed joins, in the order of the catalog. -/
def neededJoins (d : Dataset) (terms : List Sql.Term) : List Sql.Join :=
  let needed := d.withParents (d.aliasesIn terms)
  (d.joins.filter fun join => join.aliasName ∈ needed).map d.joinOf

end Dataset

end AnalyticsGateway
