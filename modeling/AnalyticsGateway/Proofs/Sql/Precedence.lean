import AnalyticsGateway.Proofs.Sql.Reading
import AnalyticsGateway.Sql.Condition

/-!
# Precedence of connectives

How the nodes of a condition are joined: `OR` joins what is joined by `AND`, `AND` joins what `NOT`
may stand before, and an `AND` that belongs to a `BETWEEN` joins nothing. Where parts hold no
connective outside of parentheses but such, their connectives alone decide how they are joined
(`outline_joined`).
-/

namespace AnalyticsGateway.Sql

def Node.isWord (keyword : String) : Node → Bool
  | word chars => chars.map Char.toLower = keyword.toList
  | _ => false

/-- The word that the next of these connectives belongs to. -/
def Connective.owner? : Connective → Option String
  | and => some "between"
  | or => none

/-- What a connective joins, while some of them belong to words before. -/
def cut (k : Connective) (owned : Nat) : List Node → List (List Node)
  | [] => [[]]
  | node :: rest =>
    if node.isWord k.word then
      match owned with
      | 0 => [] :: cut k 0 rest
      | owned + 1 => (cut k owned rest).modifyHead (node :: ·)
    else if k.owner?.any node.isWord then (cut k (owned + 1) rest).modifyHead (node :: ·)
    else (cut k owned rest).modifyHead (node :: ·)

section Cut

variable {k : Connective} {owned : Nat} {node : Node} {rest : List Node}

theorem cut_of_joins (h : node.isWord k.word = true) :
    cut k 0 (node :: rest) = [] :: cut k 0 rest := by
  simp [cut, h]

theorem cut_of_owned (h : node.isWord k.word = true) :
    cut k (owned + 1) (node :: rest) = (cut k owned rest).modifyHead (node :: ·) := by
  simp [cut, h]

theorem cut_of_owns (other : node.isWord k.word = false)
    (h : k.owner?.any node.isWord = true) :
    cut k owned (node :: rest) = (cut k (owned + 1) rest).modifyHead (node :: ·) := by
  simp [cut, other, h]

theorem cut_of_other (other : node.isWord k.word = false)
    (free : k.owner?.any node.isWord = false) :
    cut k owned (node :: rest) = (cut k owned rest).modifyHead (node :: ·) := by
  simp [cut, other, free]

end Cut

theorem cut_ne_nil (k : Connective) (owned : Nat) (nodes : List Node) : cut k owned nodes ≠ [] := by
  fun_induction cut k owned nodes <;> simp_all [List.modifyHead_eq_nil_iff]

/-- Each part is smaller than the whole by the number of the other parts, at least. -/
theorem sizeOf_cut (k : Connective) (owned : Nat) (nodes : List Node) :
    ∀ part ∈ cut k owned nodes, sizeOf part + (cut k owned nodes).length ≤ sizeOf nodes + 1 := by
  have grown (node : Node) {rest : List Node} {parts : List (List Node)}
      (h : ∀ part ∈ parts, sizeOf part + parts.length ≤ sizeOf rest + 1) :
      ∀ part ∈ parts.modifyHead (node :: ·),
        sizeOf part + (parts.modifyHead (node :: ·)).length ≤ sizeOf (node :: rest) + 1 := by
    cases parts with
    | nil => nofun
    | cons first parts =>
      have hfirst := h first List.mem_cons_self
      refine List.forall_mem_cons.2 ⟨?_, fun part hpart => ?_⟩
      · simp at hfirst ⊢
        omega
      · have hpart := h part (List.mem_cons_of_mem _ hpart)
        simp at hpart ⊢
        omega
  fun_induction cut k owned nodes with
  | case1 => simp
  | case2 node rest _ ih =>
    have ne := cut_ne_nil k 0 rest
    obtain ⟨first, hfirst⟩ := List.exists_mem_of_ne_nil _ ne
    have size := ih first hfirst
    refine List.forall_mem_cons.2 ⟨?_, fun part hpart => ?_⟩
    · simp at size ⊢
      cases first <;> simp at size <;> omega
    · have hpart := ih part hpart
      simp at hpart ⊢
      omega
  | case3 _ _ _ _ ih | case4 _ _ _ _ _ ih | case5 _ _ _ _ _ ih => exact grown _ ih

/-- How conditions are joined, whatever parentheses they were in. -/
inductive Outline where
  | leaf (nodes : List Node)
  | not (part : Outline)
  | group (connective : Connective) (parts : List Outline)
deriving Repr, Inhabited

/-- What is joined by `AND` at the top. -/
def Outline.conjuncts : Outline → List Outline
  | group .and parts => parts
  | o => [o]

def outline (nodes : List Node) : Outline :=
  if 1 < (cut .or 0 nodes).length then
    .group .or ((cut .or 0 nodes).attach.map fun part => outline part.1)
  else if 1 < (cut .and 0 nodes).length then
    .group .and ((cut .and 0 nodes).attach.map fun part => outline part.1)
  else
    match nodes with
    | [.group inner] => outline inner
    | node :: rest => if node.isWord "not" then .not (outline rest) else .leaf (node :: rest)
    | [] => .leaf []
termination_by sizeOf nodes
decreasing_by
  · have := sizeOf_cut _ _ _ _ part.2
    omega
  · have := sizeOf_cut _ _ _ _ part.2
    omega
  all_goals
    simp
    try omega

/-- The outline of a text. -/
def outline? (d : Dialect) (text : String) : Option Outline :=
  (nodes? d text.toList).map outline

/-! ## parts -/

/-- The nodes are never cut, whatever comes after them. -/
def Uncut (k : Connective) (nodes : List Node) : Prop :=
  ∀ owned rest, cut k owned (nodes ++ rest) = (cut k owned rest).modifyHead (nodes ++ ·)

namespace Uncut

variable {k : Connective} {m n : List Node} {node : Node}

theorem nil : Uncut k [] := by
  intro owned rest
  rw [List.nil_append]
  cases cut k owned rest <;> rfl

theorem append (hm : Uncut k m) (hn : Uncut k n) : Uncut k (m ++ n) := by
  intro owned rest
  rw [List.append_assoc, hm, hn, List.modifyHead_modifyHead]
  simp only [Function.comp_def, List.append_assoc]

theorem singleton (joins : node.isWord k.word = false)
    (owns : k.owner?.any node.isWord = false) : Uncut k [node] := by
  intro owned rest
  rw [List.singleton_append, cut_of_other joins owns]
  rfl

theorem cut_eq (h : Uncut k m) : cut k 0 m = [m] := by
  have whole := h 0 []
  rw [List.append_nil] at whole
  rw [whole]
  exact congrArg (fun part => [part]) (List.append_nil m)

/-- The next connective belongs to the word before it. -/
theorem owned {owner joiner : Node} (owns : k.owner?.any owner.isWord = true)
    (other : owner.isWord k.word = false) (joins : joiner.isWord k.word = true) (hm : Uncut k m)
    (hn : Uncut k n) : Uncut k (owner :: m ++ joiner :: n) := by
  intro owned rest
  rw [List.cons_append, List.cons_append, List.append_assoc, cut_of_owns other owns, hm,
    List.cons_append, cut_of_owned joins, hn]
  simp only [List.modifyHead_modifyHead, Function.comp_def, List.append_assoc, List.cons_append]

end Uncut

/-! ## joined parts -/

def Connective.node : Connective → Node
  | and => .word ['A', 'N', 'D']
  | or => .word ['O', 'R']

theorem Connective.isWord_node (k l : Connective) : k.node.isWord l.word = decide (k = l) := by
  cases k <;> cases l <;> decide

theorem Connective.owner?_node (k l : Connective) : l.owner?.any k.node.isWord = false := by
  cases k <;> cases l <;> decide

def joined (k : Connective) : List (List Node) → List Node
  | [] => []
  | [part] => part
  | part :: rest => part ++ k.node :: joined k rest

theorem Uncut.joined {k l : Connective} (ne : k ≠ l) {parts : List (List Node)}
    (h : ∀ part ∈ parts, Uncut l part) : Uncut l (joined k parts) := by
  fun_induction Sql.joined k parts with
  | case1 => exact .nil
  | case2 part => exact h part (List.mem_singleton_self _)
  | case3 part rest _ ih =>
    have ⟨hpart, hrest⟩ := List.forall_mem_cons.1 h
    have connective : Uncut l [k.node] :=
      .singleton (by rw [k.isWord_node, decide_eq_false ne]) (k.owner?_node l)
    exact hpart.append (connective.append (ih hrest))

theorem cut_joined {k : Connective} {parts : List (List Node)} (ne : parts ≠ [])
    (h : ∀ part ∈ parts, Uncut k part) : cut k 0 (joined k parts) = parts := by
  fun_induction joined k parts with
  | case1 => exact absurd rfl ne
  | case2 part => exact (h part (List.mem_singleton_self _)).cut_eq
  | case3 part rest more ih =>
    have ⟨hpart, hrest⟩ := List.forall_mem_cons.1 h
    have first : cut k 0 (k.node :: joined k rest) = [] :: rest := by
      rw [cut_of_joins (by rw [k.isWord_node, decide_eq_true rfl]), ih more hrest]
    rw [hpart, first, List.modifyHead_cons, List.append_nil]

/-! ## outlines -/

variable {nodes inner : List Node} {parts : List (List Node)}

/-- Parts that are joined by a connective, and hold none themselves. -/
theorem outline_joined {k : Connective} (h : ∀ part ∈ parts, ∀ l, Uncut l part)
    (two : 2 ≤ parts.length) : outline (joined k parts) = .group k (parts.map outline) := by
  have ne : parts ≠ [] := by
    rintro rfl
    simp at two
  have cuts : cut k 0 (joined k parts) = parts := cut_joined ne fun part hpart => h part hpart k
  rw [outline.eq_def]
  cases k with
  | or =>
    rw [if_pos (by rw [cuts]; exact two)]
    simp [cuts]
  | and =>
    have whole : cut .or 0 (joined .and parts) = [joined .and parts] :=
      (Uncut.joined (by decide) fun part hpart => h part hpart .or).cut_eq
    rw [whole, if_neg (by simp), if_pos (by rw [cuts]; exact two)]
    simp [cuts]

theorem uncut_group (k : Connective) (inner : List Node) : Uncut k [.group inner] :=
  .singleton rfl (by cases k <;> rfl)

/-- Parentheses around everything change nothing. -/
theorem outline_group (inner : List Node) : outline [.group inner] = outline inner := by
  have uncut (k : Connective) := (uncut_group k inner).cut_eq
  rw [outline.eq_def, uncut, uncut, if_neg (by simp), if_neg (by simp)]

/-- Several nodes that no connective joins. -/
theorem outline_of_uncut {node next : Node} {rest : List Node}
    (h : ∀ k, Uncut k (node :: next :: rest)) :
    outline (node :: next :: rest) =
      if node.isWord "not" then .not (outline (next :: rest))
      else .leaf (node :: next :: rest) := by
  rw [outline.eq_def, (h .or).cut_eq, (h .and).cut_eq, if_neg (by simp), if_neg (by simp)]
  cases node <;> rfl

def notNode : Node := .word ['N', 'O', 'T']

theorem uncut_not (k : Connective) : Uncut k [notNode] := by
  cases k <;> exact .singleton (by decide) (by decide)

theorem outline_not (inner : List Node) :
    outline [notNode, .group inner] = .not (outline inner) := by
  rw [outline_of_uncut fun k => (uncut_not k).append (uncut_group k inner), outline_group]
  rfl

end AnalyticsGateway.Sql
