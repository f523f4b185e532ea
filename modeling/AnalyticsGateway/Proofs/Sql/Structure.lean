import AnalyticsGateway.Proofs.Except
import AnalyticsGateway.Proofs.Sql.Written

/-!
# Conditions keep their structure

The text of a condition is read as the condition was joined, whatever parentheses were written
(`outline?_condition`): each test and each guard as it is read by itself, under the same negations
and in the same groups. Only a group of a single part would be lost, as its text is that of the
part.
-/

namespace AnalyticsGateway.Sql

def Term.IsBalanced (d : Dialect) (t : Term) : Prop := ∀ sql ∈ t.fragments, Sql.IsBalanced d sql

mutual

/-- Every group has two parts at least, and the fragments can be read by themselves. -/
def Condition.IsReadable (d : Dialect) : Condition → Prop
  | .test t _ => t.IsBalanced d
  | .guard .. => True
  | .not c => c.IsReadable d
  | .group _ parts => 2 ≤ parts.length ∧ Condition.AllReadable d parts

def Condition.AllReadable (d : Dialect) : List Condition → Prop
  | [] => True
  | c :: rest => c.IsReadable d ∧ Condition.AllReadable d rest

end

theorem Condition.allReadable_iff {d : Dialect} {parts : List Condition} :
    AllReadable d parts ↔ ∀ c ∈ parts, c.IsReadable d := by
  induction parts with
  | nil => simp [AllReadable]
  | cons c rest ih => simp [AllReadable, ih]

namespace Style

/-- The outline of a test or a guard that is written alone. -/
def leaf? (s : Style) (c : Condition) : Option Outline := do
  let pieces ← (s.condition c).toOption
  let nodes ← nodes? s.dialect (charsOf s.dialect pieces)
  return .leaf nodes

mutual

/-- The outline that a condition has by its constructors. -/
def outline? (s : Style) : Condition → Option Outline
  | .test t check => s.leaf? (.test t check)
  | .guard column tenant => s.leaf? (.guard column tenant)
  | .not c => (s.outline? c).map .not
  | .group k parts => (s.outlines? parts).map (.group k)

def outlines? (s : Style) : List Condition → Option (List Outline)
  | [] => some []
  | c :: rest => do
    let first ← s.outline? c
    let others ← s.outlines? rest
    return first :: others

end

variable {s : Style}

/-! ## leaves -/

theorem outline_leaf {m n : List Node} (hm : m ≠ []) (plain : ∀ node ∈ m, node.isKeyword = false)
    (hn : n ≠ []) (uncut : ∀ k, Uncut k n) : outline (m ++ n) = .leaf (m ++ n) := by
  obtain ⟨node, rest, rfl⟩ := List.exists_cons_of_ne_nil hm
  have positive : node.isWord "not" = false :=
    Node.isKeyword_eq_false.1 (plain node List.mem_cons_self) _ (by decide)
  have whole (k : Connective) := (uncut_of_isKeyword plain k).append (uncut k)
  obtain ⟨next, others, more⟩ : ∃ next others, rest ++ n = next :: others :=
    List.exists_cons_of_ne_nil (by simp [hn])
  rw [List.cons_append, more] at whole ⊢
  rw [outline_of_uncut whole, positive, if_neg (by simp)]

theorem leaf?_of_reads {c : Condition} {pieces : List Piece} {nodes : List Node}
    (written : s.condition c = .ok pieces)
    (reads : Reads s.dialect breaks (charsOf s.dialect pieces) nodes) :
    s.leaf? c = some (.leaf nodes) := by
  simp [leaf?, written, Except.toOption, reads.nodes?_eq]

/-- The nodes of a guard. -/
def guardNodes (s : Style) (column : Column) (tenant : String) : List Node :=
  s.columnNodes column ++ [.sign '=', .quoted .single tenant.toList]

theorem reads_guard (s : Style) (column : Column) (tenant : String) :
    Reads s.dialect breaks (charsOf s.dialect (s.column column ++ [.fixed " = ", .text tenant]))
      (s.guardNodes column tenant) := by
  have equals : ReadsWhole s.dialect " = ".toList [.sign '='] := .of_fresh rfl
  rw [charsOf, List.flatMap_append, List.flatMap_cons, List.flatMap_singleton]
  exact (reads_column s column).append (equals.append_reads (reads_text s.dialect tenant))
    List.mem_cons_self rfl

/-! ## parts -/

/-- How a condition is written as a part of a group. -/
def asPart : Condition → List Piece → List Piece
  | .group .., pieces => parenthesized pieces
  | _, pieces => pieces

theorem parts_cons_eq_ok {c : Condition} {rest : List Condition} {lists : List (List Piece)} :
    s.parts (c :: rest) = .ok lists ↔ ∃ pieces others, s.condition c = .ok pieces ∧
      s.parts rest = .ok others ∧ lists = asPart c pieces :: others := by
  have unfolded : s.parts (c :: rest) = s.condition c >>= fun pieces =>
      s.parts rest >>= fun others => .ok (asPart c pieces :: others) := by
    cases c <;> rw [parts] <;> first | rfl | simp
  rw [unfolded, bind_eq_ok]
  constructor
  · rintro ⟨pieces, hc, h⟩
    obtain ⟨others, hrest, h⟩ := bind_eq_ok.1 h
    cases h
    exact ⟨pieces, others, hc, hrest, rfl⟩
  · rintro ⟨pieces, others, hc, hrest, rfl⟩
    exact ⟨pieces, hc, bind_eq_ok.2 ⟨others, hrest, rfl⟩⟩

theorem reads_parenthesized {d : Dialect} {pieces : List Piece} {nodes : List Node}
    (h : Reads d breaks (charsOf d pieces) nodes) :
    ReadsWhole d (charsOf d (parenthesized pieces)) [.group nodes] := by
  have chars : charsOf d (parenthesized pieces) = '(' :: charsOf d pieces ++ [')'] := by
    simp [charsOf, parenthesized, Piece.write]
  rw [chars]
  exact readsWhole_group h (by decide)

theorem reads_separated {d : Dialect} (k : Connective) {lists : List (List Piece)}
    {parts : List (List Node)}
    (h : List.Forall₂ (fun pieces nodes => Reads d breaks (charsOf d pieces) nodes) lists parts) :
    Reads d breaks (charsOf d (separated (connective k) lists)) (joined k parts) := by
  have word : ReadsWhole d (connective k).toList [k.node] := by
    cases k <;> exact .of_fresh rfl
  induction h with
  | nil => exact (readsWhole_nil d).reads
  | @cons pieces nodes lists parts first rest ih =>
    cases rest with
    | nil => exact first
    | cons next rest =>
      rw [separated, charsOf, List.flatMap_append, List.flatMap_cons, joined]
      · exact first.append (c := ' ') (word.append_reads ih) (by decide) (by cases k <;> rfl)
      · simp
      · simp

/-! ## conditions -/

/-- The text of a condition is read as its outline. -/
structure Shows (s : Style) (c : Condition) (pieces : List Piece) (nodes : List Node) : Prop where
  reads : Reads s.dialect breaks (charsOf s.dialect pieces) nodes
  outline : s.outline? c = some (Sql.outline nodes)

/-- Within a group, no connective of the condition joins the text around it. -/
structure ShowsPart (s : Style) (c : Condition) (pieces : List Piece) (nodes : List Node) : Prop
    extends Shows s c pieces nodes where
  uncut : ∀ k, Uncut k nodes

theorem showsPart_test {t : Term} {check : Test} {pieces : List Piece}
    (balanced : t.IsBalanced s.dialect) (written : s.condition (.test t check) = .ok pieces) :
    ∃ nodes, s.ShowsPart (.test t check) pieces nodes := by
  have unfolded := written
  rw [condition, bind_eq_ok] at unfolded
  obtain ⟨termPieces, hterm, h⟩ := unfolded
  cases h
  obtain ⟨m, readsTerm, hm, plain⟩ := readsPlainly_term balanced hterm
  obtain ⟨n, readsTest, hn, uncut⟩ := readsUncut_test s.dialect check
  have reads : Reads s.dialect breaks (charsOf s.dialect (termPieces ++ Style.test check))
      (m ++ n) := by
    rw [charsOf, List.flatMap_append]
    exact readsTerm.append readsTest List.mem_cons_self (head?_test s.dialect check)
  refine ⟨m ++ n, ⟨reads, ?_⟩, fun k => (uncut_of_isKeyword plain k).append (uncut k)⟩
  rw [outline?, leaf?_of_reads written reads, outline_leaf hm plain hn uncut]

theorem outline_guardNodes (s : Style) (column : Column) (tenant : String) :
    Sql.outline (s.guardNodes column tenant) = .leaf (s.guardNodes column tenant) :=
  outline_leaf (columnNodes_ne_nil s column) (isKeyword_columnNodes s column) (by simp)
    (uncut_of_isKeyword (by simp))

theorem outline?_guard (s : Style) (column : Column) (tenant : String) :
    s.outline? (.guard column tenant) = some (.leaf (s.guardNodes column tenant)) := by
  rw [outline?]
  exact leaf?_of_reads (by rw [condition]) (reads_guard s column tenant)

theorem showsPart_guard (s : Style) (column : Column) (tenant : String) :
    s.ShowsPart (.guard column tenant) (s.column column ++ [.fixed " = ", .text tenant])
      (s.guardNodes column tenant) := by
  refine ⟨⟨reads_guard s column tenant, ?_⟩, fun k => ?_⟩
  · rw [outline?_guard, outline_guardNodes]
  · exact (uncut_of_isKeyword (isKeyword_columnNodes s column) k).append
      (uncut_of_isKeyword (by simp) k)

theorem Shows.part_of_group {k : Connective} {parts : List Condition} {pieces : List Piece}
    {nodes : List Node} (h : s.Shows (.group k parts) pieces nodes) :
    s.ShowsPart (.group k parts) (parenthesized pieces) [.group nodes] :=
  have outline := h.outline.trans (congrArg some (outline_group nodes).symm)
  ⟨⟨(reads_parenthesized h.reads).reads, outline⟩, fun k => uncut_group k nodes⟩

mutual

/-- The text of a condition is read as the condition is joined, and so it is within a group. -/
theorem shows_condition : ∀ {c : Condition} {pieces : List Piece}, c.IsReadable s.dialect →
    s.condition c = .ok pieces →
    (∃ nodes, s.Shows c pieces nodes) ∧ ∃ nodes, s.ShowsPart c (asPart c pieces) nodes
  | .test t check, pieces, readable, written => by
    rw [Condition.IsReadable] at readable
    obtain ⟨nodes, part⟩ := showsPart_test readable written
    exact ⟨⟨nodes, part.toShows⟩, nodes, part⟩
  | .guard column tenant, pieces, _, written => by
    rw [condition] at written
    cases written
    have part := showsPart_guard s column tenant
    exact ⟨⟨_, part.toShows⟩, _, part⟩
  | .not c, pieces, readable, written => by
    rw [Condition.IsReadable] at readable
    rw [condition, bind_eq_ok] at written
    obtain ⟨inner, hinner, h⟩ := written
    cases h
    obtain ⟨⟨nodes, shows⟩, -⟩ := shows_condition readable hinner
    have not : ReadsWhole s.dialect "NOT ".toList [notNode] := .of_fresh rfl
    have reads : Reads s.dialect breaks
        (charsOf s.dialect (.fixed "NOT " :: parenthesized inner)) [notNode, .group nodes] :=
      not.append_reads (reads_parenthesized shows.reads).reads
    have outline : s.outline? (.not c) = some (Sql.outline [notNode, .group nodes]) := by
      rw [outline?, shows.outline, outline_not]
      rfl
    have part : s.ShowsPart (.not c) (.fixed "NOT " :: parenthesized inner)
        [notNode, .group nodes] :=
      ⟨⟨reads, outline⟩, fun k => (uncut_not k).append (uncut_group k nodes)⟩
    exact ⟨⟨_, part.toShows⟩, _, part⟩
  | .group k [], pieces, readable, _ => by
    rw [Condition.IsReadable] at readable
    cases readable.1
  | .group k (first :: rest), pieces, readable, written => by
    rw [Condition.IsReadable] at readable
    rw [condition, bind_eq_ok] at written
    · obtain ⟨lists, hlists, h⟩ := written
      cases h
      obtain ⟨parts, reads, outlines, uncut, count⟩ := shows_parts readable.2 hlists
      have two : 2 ≤ parts.length := count ▸ readable.1
      have shows : s.Shows (.group k (first :: rest)) (separated (connective k) lists)
          (joined k parts) := by
        refine ⟨reads_separated k reads, ?_⟩
        rw [outline?, outlines, outline_joined uncut two]
        rfl
      exact ⟨⟨_, shows⟩, _, shows.part_of_group⟩
    · simp

theorem shows_parts : ∀ {parts : List Condition} {lists : List (List Piece)},
    Condition.AllReadable s.dialect parts → s.parts parts = .ok lists →
    ∃ nodes : List (List Node),
      List.Forall₂ (fun pieces nodes => Reads s.dialect breaks (charsOf s.dialect pieces) nodes)
        lists nodes ∧
      s.outlines? parts = some (nodes.map outline) ∧ (∀ part ∈ nodes, ∀ k, Uncut k part) ∧
      nodes.length = parts.length
  | [], lists, _, written => by
    rw [parts] at written
    cases written
    exact ⟨[], .nil, by rw [outlines?]; rfl, nofun, rfl⟩
  | c :: rest, lists, readable, written => by
    rw [Condition.AllReadable] at readable
    obtain ⟨pieces, others, hc, hrest, rfl⟩ := parts_cons_eq_ok.1 written
    obtain ⟨-, nodes, part⟩ := shows_condition readable.1 hc
    obtain ⟨more, reads, outlines, uncut, count⟩ := shows_parts readable.2 hrest
    refine ⟨nodes :: more, .cons part.reads reads, ?_, List.forall_mem_cons.2 ⟨part.uncut, uncut⟩,
      congrArg (· + 1) count⟩
    rw [outlines?, part.outline, outlines]
    rfl

end

/-- A condition is read from its text as it is joined. -/
theorem outline?_condition {c : Condition} {pieces : List Piece}
    (readable : c.IsReadable s.dialect) (written : s.condition c = .ok pieces) :
    ∃ o, Sql.outline? s.dialect (writePieces s.dialect pieces) = some o ∧
      s.outline? c = some o := by
  obtain ⟨⟨nodes, shows⟩, -⟩ := shows_condition readable written
  refine ⟨_, ?_, shows.outline⟩
  rw [Sql.outline?, writePieces, String.toList_ofList]
  exact congrArg (Option.map outline) shows.reads.nodes?_eq

/-- A guard before another condition is the first of what is joined by `AND`. -/
theorem conjuncts_guarded {column : Column} {tenant : String} {rest : Condition} {o : Outline}
    (h : s.outline? (.group .and [.guard column tenant, rest]) = some o) :
    ∃ other, o.conjuncts = [.leaf (s.guardNodes column tenant), other] := by
  rw [outline?, Option.map_eq_some_iff] at h
  obtain ⟨parts, hparts, rfl⟩ := h
  cases hrest : s.outline? rest with
  | none => simp [outlines?, hrest] at hparts
  | some other =>
    simp only [outlines?, outline?_guard, hrest, Option.bind_eq_bind, Option.bind_some,
      Option.pure_def, Option.some.injEq] at hparts
    exact ⟨other, hparts.symm⟩

end Style

end AnalyticsGateway.Sql
