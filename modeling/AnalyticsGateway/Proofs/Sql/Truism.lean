import AnalyticsGateway.Proofs.Sql.Groups
import AnalyticsGateway.Proofs.Sql.Weight

/-!
# Where `1 = 1` is written

An empty group is written as `1 = 1`, which every row passes. Nothing else is: a query without empty
groups has no such piece (`Query.free_pieces`).
-/

namespace AnalyticsGateway.Sql

/-- The condition that an empty group is written as. -/
def truism : Piece := .fixed "1 = 1"

theorem fixed_ne_truism {text : String} (h : text.toList.head? ≠ some '1') :
    .fixed text ≠ truism := by
  intro eq
  rw [Piece.fixed.inj eq] at h
  exact h rfl

/-- The pieces have no truism among them. -/
def Free (pieces : List Piece) : Prop := truism ∉ pieces

section Lists

variable {a b : List Piece} {p : Piece} {lists : List (List Piece)}

theorem free_nil : Free [] := List.not_mem_nil

@[simp] theorem free_cons : Free (p :: a) ↔ p ≠ truism ∧ Free a := by
  rw [Free, List.mem_cons, not_or, ne_comm, Free]

@[simp] theorem free_append : Free (a ++ b) ↔ Free a ∧ Free b := by
  rw [Free, List.mem_append, not_or, Free, Free]

theorem free_singleton (h : p ≠ truism) : Free [p] := free_cons.2 ⟨h, free_nil⟩

theorem free_separated {separator : String} (h : separator.toList.head? ≠ some '1')
    (each : ∀ pieces ∈ lists, Free pieces) : Free (separated separator lists) := by
  induction lists with
  | nil => exact free_nil
  | cons first rest ih =>
    obtain ⟨own, others⟩ := List.forall_mem_cons.1 each
    cases rest with
    | nil => exact own
    | cons next rest =>
      rw [separated, free_append, free_cons]
      · exact ⟨own, fixed_ne_truism h, ih others⟩
      · simp

theorem free_call {function : String} (h : (function ++ "(").toList.head? ≠ some '1')
    (ha : Free a) : Free (call function a) := by
  rw [call, List.cons_append, free_cons, free_append]
  exact ⟨fixed_ne_truism h, ha, free_singleton (fixed_ne_truism (by decide))⟩

end Lists

namespace Style

variable {s : Style}

/-! ## terms -/

theorem free_column (s : Style) (c : Column) : Free (s.column c) := by
  unfold column
  split
  · split <;> simp [truism, free_nil]
  · simp [truism, free_nil]

theorem free_rowTerm (s : Style) (t : RowTerm) : Free (s.rowTerm t) := by
  cases t with
  | column c => exact s.free_column c
  | fragment sql => simp [rowTerm, truism, free_nil]

theorem free_truncation {d : Dialect} {grain : TimeGrain} {argument pieces : List Piece}
    (free : Free argument) (h : truncation d grain argument = .ok pieces) : Free pieces := by
  cases d with
  | mysql =>
    rw [truncation] at h
    split at h
    · rename_i format _
      cases h
      have formatted : Free (call "DATE_FORMAT" (argument ++ [.fixed ", ", .text format])) :=
        free_call (by decide) (by simp [truism, free, free_nil])
      exact free_call (by decide) (free_append.2 ⟨formatted, free_singleton (by decide)⟩)
    · cases h
  | _ =>
    cases h
    exact free_call (by decide) (by simp [truism, free, free_nil])

theorem free_sharedAggregate {d : Dialect} {function : Aggregate} {argument : Option (List Piece)}
    {pieces : List Piece} (free : ∀ a ∈ argument, Free a)
    (h : sharedAggregate d function argument = .ok pieces) : Free pieces := by
  cases argument with
  | none => cases function with
    | count =>
      cases h
      exact free_call (by decide) (free_singleton (by decide))
    | _ => cases h
  | some argument =>
    have argument := free argument rfl
    cases function with
    | approxCountDistinct | median => cases h
    | countDistinct =>
      cases h
      exact free_call (by decide) (free_cons.2 ⟨by decide, argument⟩)
    | _ =>
      cases h
      exact free_call (by decide) argument

theorem free_aggregation {d : Dialect} {function : Aggregate} {argument : Option (List Piece)}
    {pieces : List Piece} (free : ∀ a ∈ argument, Free a)
    (h : aggregation d function argument = .ok pieces) : Free pieces := by
  unfold aggregation at h
  split at h
  · cases h
    simp [truism, free _ rfl, free_nil]
  · cases h
    simp [truism, free _ rfl, free_nil]
  · cases h
    exact free_call (by decide) (free_append.2 ⟨free _ rfl, free_singleton (by decide)⟩)
  · cases h
    exact free_call (by decide) (free _ rfl)
  · cases h
    exact free_call (by decide) (free _ rfl)
  · exact free_sharedAggregate free h

theorem free_term {t : Term} {pieces : List Piece} (h : s.term t = .ok pieces) : Free pieces := by
  cases t with
  | row t =>
    cases h
    exact s.free_rowTerm t
  | truncated grain t => exact free_truncation (s.free_rowTerm t) h
  | aggregate function argument =>
    refine free_aggregation (fun a ha => ?_) h
    obtain ⟨t, -, rfl⟩ := Option.map_eq_some_iff.1 ha
    exact s.free_rowTerm t

/-! ## conditions -/

theorem literal_ne_truism (l : Literal) : literal l ≠ truism := by
  cases l with
  | boolean b => cases b <;> decide
  | _ => simp [literal, truism]

theorem free_test (check : Test) : Free (test check) := by
  cases check with
  | compare c value =>
    have sign : (s!" {comparison c} ").toList.head? ≠ some '1' := by cases c <;> decide
    exact free_cons.2 ⟨fixed_ne_truism sign, free_singleton (literal_ne_truism value)⟩
  | among values negated =>
    have opening : (s!" {negation negated}IN (").toList.head? ≠ some '1' := by
      cases negated <;> decide
    have list : Free (separated ", " (values.map fun value => [literal value])) := by
      refine free_separated (by decide) fun pieces mem => ?_
      obtain ⟨value, -, rfl⟩ := List.mem_map.1 mem
      exact free_singleton (literal_ne_truism value)
    rw [test, List.cons_append, free_cons, free_append]
    exact ⟨fixed_ne_truism opening, list, free_singleton (by decide)⟩
  | between low high =>
    exact free_cons.2 ⟨by decide, free_cons.2 ⟨literal_ne_truism low,
      free_cons.2 ⟨by decide, free_singleton (literal_ne_truism high)⟩⟩⟩
  | like pattern negated =>
    have word : (s!" {negation negated}LIKE ").toList.head? ≠ some '1' := by
      cases negated <;> decide
    exact free_cons.2 ⟨fixed_ne_truism word, free_singleton (by simp [truism])⟩
  | isNull negated =>
    have word : (s!" IS {negation negated}NULL").toList.head? ≠ some '1' := by
      cases negated <;> decide
    exact free_singleton (fixed_ne_truism word)

theorem free_parenthesized {pieces : List Piece} (h : Free pieces) :
    Free (parenthesized pieces) := by
  rw [parenthesized, List.cons_append, free_cons, free_append]
  exact ⟨by decide, h, free_singleton (by decide)⟩

theorem free_asPart {c : Condition} {pieces : List Piece} (h : Free pieces) :
    Free (asPart c pieces) := by
  cases c with
  | group => exact free_parenthesized h
  | _ => exact h

mutual

theorem free_condition : ∀ {c : Condition} {pieces : List Piece},
    (∀ g ∈ c.groups, g.2 ≠ []) → s.condition c = .ok pieces → Free pieces
  | .test t check, pieces, _, written => by
    rw [condition, bind_eq_ok] at written
    obtain ⟨termPieces, hterm, h⟩ := written
    cases h
    exact free_append.2 ⟨free_term hterm, free_test check⟩
  | .guard column tenant, pieces, _, written => by
    rw [condition] at written
    cases written
    exact free_append.2 ⟨s.free_column column, by simp [truism, free_nil]⟩
  | .not c, pieces, filled, written => by
    rw [Condition.groups] at filled
    rw [condition, bind_eq_ok] at written
    obtain ⟨inner, hinner, h⟩ := written
    cases h
    exact free_cons.2 ⟨by decide, free_parenthesized (free_condition filled hinner)⟩
  | .group k [], pieces, filled, _ => by
    rw [Condition.groups] at filled
    exact absurd rfl (filled _ List.mem_cons_self)
  | .group k (first :: rest), pieces, filled, written => by
    rw [condition, bind_eq_ok] at written
    · obtain ⟨lists, hlists, h⟩ := written
      cases h
      have inside := (Condition.forall_mem_groups_group.1 filled).2
      exact free_separated (by cases k <;> decide) (free_parts inside hlists)
    · simp

theorem free_parts : ∀ {parts : List Condition} {lists : List (List Piece)},
    (∀ p ∈ parts, ∀ g ∈ p.groups, g.2 ≠ []) → s.parts parts = .ok lists →
      ∀ pieces ∈ lists, Free pieces
  | [], lists, _, written => by
    rw [parts] at written
    cases written
    exact List.forall_mem_nil _
  | c :: rest, lists, filled, written => by
    obtain ⟨own, others⟩ := List.forall_mem_cons.1 filled
    obtain ⟨pieces, lists, hc, hrest, rfl⟩ := parts_cons_eq_ok.1 written
    exact List.forall_mem_cons.2
      ⟨free_asPart (free_condition own hc), free_parts others hrest⟩

end

/-! ## clauses -/

theorem free_conditionClause {keyword : String} (word : keyword.toList.head? ≠ some '1')
    {clause : Option Condition} {lists : List (List Piece)}
    (filled : ∀ c ∈ clause, ∀ g ∈ c.groups, g.2 ≠ [])
    (written : s.conditionClause keyword clause = .ok lists) : ∀ pieces ∈ lists, Free pieces := by
  cases clause with
  | none =>
    cases written
    exact List.forall_mem_nil _
  | some c =>
    obtain ⟨pieces, hc, h⟩ := bind_eq_ok.1 written
    cases h
    exact List.forall_mem_singleton.2
      (free_cons.2 ⟨fixed_ne_truism word, free_condition (filled c rfl) hc⟩)

theorem free_listClause {keyword : String} (word : keyword.toList.head? ≠ some '1')
    {items : List (List Piece)} (each : ∀ pieces ∈ items, Free pieces) :
    ∀ pieces ∈ listClause keyword items, Free pieces := by
  unfold listClause
  split
  · exact List.forall_mem_nil _
  · exact List.forall_mem_singleton.2
      (free_cons.2 ⟨fixed_ne_truism word, free_separated (by decide) each⟩)

theorem free_objectName (name : String) : Free (objectName name) := by
  refine free_separated (by decide) fun pieces mem => ?_
  obtain ⟨part, -, rfl⟩ := List.mem_map.1 mem
  exact free_singleton (by simp [truism])

theorem free_table (t : TableRef) : Free (table t) := by
  unfold table
  refine free_append.2 ⟨?relation, by simp [truism, free_nil]⟩
  case relation =>
    split
    · exact free_objectName _
    · simp [truism, free_nil]

theorem free_join (s : Style) (j : Join) : Free (s.join j) := by
  have conditions : Free (separated " AND "
      (j.conditions.map fun c => s.column c.left ++ .fixed " = " :: s.column c.right)) := by
    refine free_separated (by decide) fun pieces mem => ?_
    obtain ⟨c, -, rfl⟩ := List.mem_map.1 mem
    exact free_append.2 ⟨s.free_column c.left, free_cons.2 ⟨by decide, s.free_column c.right⟩⟩
  unfold join
  refine free_cons.2 ⟨?_, free_append.2 ⟨free_table j.table, free_cons.2 ⟨by decide, conditions⟩⟩⟩
  cases j.kind <;> decide

theorem free_selectItem {item : SelectItem} {pieces : List Piece}
    (h : s.selectItem item = .ok pieces) : Free pieces := by
  obtain ⟨written, hterm, h⟩ := bind_eq_ok.1 h
  have own := free_term hterm
  have named : Free (written ++ [.fixed " AS ", .name item.aliasName]) :=
    free_append.2 ⟨own, by simp [truism, free_nil]⟩
  split at h
  · split at h
    · cases h
      exact own
    · cases h
      exact named
  · cases h
    exact named

theorem free_orderKey (key : OrderKey) : Free (orderKey key) := by
  unfold orderKey
  cases key.descending <;> simp [truism, free_nil]

end Style

theorem free_rowLimit (d : Dialect) (limit : Nat) (offset : Option Nat) :
    Free (rowLimit d limit offset) := by
  unfold rowLimit
  split <;> exact free_singleton (fixed_ne_truism (by simp [toString]))

/-- A query without empty groups has no truism in its text, unless the catalog's author has written
one. -/
theorem Query.free_pieces {q : Query} (filled : ∀ g ∈ q.groups, g.2 ≠ []) {pieces : List Piece}
    (written : q.pieces = .ok pieces) : Free pieces := by
  obtain ⟨items, selection, grouping, having, hitems, hselection, hgrouping, hhaving, rfl⟩ :=
    pieces_eq_ok written
  have rows := Style.free_conditionClause (by decide)
    (fun c hc g hg => filled g (mem_groups.2 (.inl ⟨c, hc, hg⟩))) hselection
  have groups := Style.free_conditionClause (by decide)
    (fun c hc g hg => filled g (mem_groups.2 (.inr ⟨c, hc, hg⟩))) hhaving
  have selected : ∀ item ∈ items, Free item := fun item mem => by
    obtain ⟨_, -, h⟩ := (mem_of_mapM hitems).1 mem
    exact Style.free_selectItem h
  have grouped : ∀ term ∈ grouping, Free term := fun term mem => by
    obtain ⟨_, -, h⟩ := (mem_of_mapM hgrouping).1 mem
    exact Style.free_term h
  refine free_separated (by decide) ?_
  simp only [clauses, List.forall_mem_append]
  refine ⟨⟨⟨⟨⟨⟨?select, ?joins⟩, rows⟩, ?groupBy⟩, groups⟩, ?orderBy⟩, ?limit⟩
  case select =>
    refine List.forall_mem_cons.2 ⟨?_, List.forall_mem_singleton.2 ?_⟩
    · exact free_cons.2 ⟨by decide, free_separated (by decide) selected⟩
    · exact free_cons.2 ⟨by decide, Style.free_table q.base⟩
  case joins =>
    intro pieces mem
    obtain ⟨j, -, rfl⟩ := List.mem_map.1 mem
    exact q.style.free_join j
  case groupBy => exact Style.free_listClause (by decide) grouped
  case orderBy =>
    refine Style.free_listClause (by decide) fun pieces mem => ?_
    obtain ⟨key, -, rfl⟩ := List.mem_map.1 mem
    exact Style.free_orderKey key
  case limit => exact List.forall_mem_singleton.2 (free_rowLimit q.dialect q.limit q.offset)

end AnalyticsGateway.Sql
