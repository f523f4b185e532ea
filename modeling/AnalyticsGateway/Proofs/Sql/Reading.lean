import AnalyticsGateway.Sql.Lexis
import AnalyticsGateway.Sql.Piece

/-!
# Reading SQL text

How a database cuts a text into words, quoted texts and signs, and matches the parentheses in it. A
text is read character by character, so what is read of two texts in a row is read of each
(`Reads.append`), and a text that can be read by itself is read the same way within another one
(`Reads.of_fresh`).
-/

namespace AnalyticsGateway.Sql

/-! ## nodes -/

inductive Mark where
  | single | double | back
deriving DecidableEq, Repr, Inhabited

def Mark.char : Mark → Char
  | single => '\x27'
  | double => '"'
  | back => '\x60'

inductive Node where
  | word (chars : List Char)
  /-- What stands between two quotes, each escape as the character that it stands for. -/
  | quoted (mark : Mark) (chars : List Char)
  | sign (c : Char)
  /-- What stands between two parentheses. -/
  | group (nodes : List Node)
deriving Repr, Inhabited

/-- Letters, digits, low lines and dollar signs, and all that is neither blank nor of ASCII. -/
def isWordPart (c : Char) : Bool :=
  c.isAlphanum || c = '_' || c = '$' || 0x7F < c.toNat && !Text.isBlank c

end Sql

namespace Dialect

open Sql (Mark)

def markOf? (d : Dialect) : Char → Option Mark
  | '\x27' => some .single
  | '"' => some .double
  | '\x60' => if d.nameQuote = Mark.back.char then some .back else none
  | _ => none

/-- Whether a backslash escapes the character after it: never in names, and in texts as the dialect
has it. -/
def escapesIn (d : Dialect) (mark : Mark) : Bool :=
  d.hasBackslashEscapes && mark.char ≠ d.nameQuote

end Dialect

namespace Sql

/-- What is not yet known to have ended. -/
inductive Pending where
  | nothing
  | word (isNumber : Bool) (chars : List Char)
  /-- A sign that a comment may begin with. -/
  | sign (c : Char)
  | quote (mark : Mark) (chars : List Char)
  /-- Behind a backslash in a quoted text. -/
  | escape (mark : Mark) (chars : List Char)
  /-- Behind a quote that is the last one or the first of two. -/
  | ended (mark : Mark) (chars : List Char)
deriving Repr, Inhabited

namespace Pending

/-- The nodes that it is, should it have ended. -/
def nodes? : Pending → Option (List Node)
  | nothing => some []
  | word _ chars => some [.word chars]
  | sign c => some [.sign c]
  | ended mark chars => some [.quoted mark chars]
  | quote .. | escape .. => none

def goesOn (c : Char) : Pending → Bool
  | nothing => false
  | word isNumber _ => isWordPart c || isNumber && c = '.'
  | sign d => d = '-' && c = '-' || d = '/' && c = '*'
  | quote .. | escape .. => true
  | ended mark _ => c = mark.char

/-- Takes in a character; none where a comment begins. -/
def extend? (d : Dialect) (c : Char) : Pending → Option Pending
  | word isNumber chars => some (.word isNumber (chars ++ [c]))
  | quote mark chars =>
    if c = mark.char then some (.ended mark chars)
    else if d.escapesIn mark && c = '\\' then some (.escape mark chars)
    else some (.quote mark (chars ++ [c]))
  | escape mark chars => some (.quote mark (chars ++ [Lexis.escaped c]))
  | ended mark chars => some (.quote mark (chars ++ [c]))
  | nothing | sign _ => none

end Pending

/-- What a character means where nothing is pending. -/
inductive Lead where
  | starts (pending : Pending)
  | blank
  | sign
  | opening
  | closing
  | comment

end Sql

open Sql in
def Dialect.lead (d : Dialect) (c : Char) : Lead :=
  if isWordPart c then .starts (.word c.isDigit [c])
  else if let some mark := d.markOf? c then .starts (.quote mark [])
  else if Text.isBlank c then .blank
  else match c with
    | '(' => .opening
    | ')' => .closing
    | '-' | '/' => .starts (.sign c)
    | '#' => if familyOf d = .mysql then .comment else .sign
    | _ => .sign

namespace Sql

/-- How far a text is read. -/
structure Reader where
  pending : Pending := .nothing
  /-- What the innermost parentheses that are open enclose so far. -/
  nodes : List Node := []
  /-- What those around them enclose, the innermost first. -/
  around : List (List Node) := []
deriving Inhabited

namespace Reader

/-- With nothing pending and some more nodes. -/
def add (r : Reader) (nodes : List Node) : Reader := ⟨.nothing, r.nodes ++ nodes, r.around⟩

def settle? (r : Reader) : Option Reader := r.pending.nodes?.map r.add

/-- Reads a character where nothing is pending. -/
def begin? (d : Dialect) (r : Reader) (c : Char) : Option Reader :=
  match d.lead c with
  | .starts p => some { r with pending := p }
  | .blank => some r
  | .sign => some (r.add [.sign c])
  | .opening => some ⟨.nothing, [], r.nodes :: r.around⟩
  | .closing =>
    match r.around with
    | outer :: around => some ⟨.nothing, outer ++ [.group r.nodes], around⟩
    | [] => none
  | .comment => none

def next? (d : Dialect) (r : Reader) (c : Char) : Option Reader :=
  if r.pending.goesOn c then (r.pending.extend? d c).map fun p => { r with pending := p }
  else r.settle?.bind fun r => r.begin? d c

def run? (d : Dialect) (r : Reader) (chars : List Char) : Option Reader :=
  chars.foldlM (next? d) r

end Reader

/-- The nodes of a text; none where it holds a comment, or a quote or a parenthesis without the
other one. -/
def nodes? (d : Dialect) (chars : List Char) : Option (List Node) := do
  let r ← Reader.run? d {} chars
  let r ← r.settle?
  if r.around.isEmpty then some r.nodes else none

/-! ## reading in turn -/

namespace Reader

variable {d : Dialect} {r : Reader}

@[simp] theorem pending_add (r : Reader) (nodes : List Node) : (r.add nodes).pending = .nothing :=
  rfl

@[simp] theorem add_add (r : Reader) (m n : List Node) : (r.add m).add n = r.add (m ++ n) := by
  simp [add]

theorem add_nil (h : r.pending = .nothing) : r.add [] = r := by
  cases r
  cases h
  simp [add]

theorem run?_append (r : Reader) (a b : List Char) :
    run? d r (a ++ b) = (run? d r a).bind fun r => run? d r b := List.foldlM_append

theorem run?_cons (r : Reader) (c : Char) (rest : List Char) :
    run? d r (c :: rest) = (next? d r c).bind fun r => run? d r rest := rfl

theorem settle?_of_rest (h : r.pending = .nothing) : r.settle? = some r := by
  rw [settle?, h]
  exact congrArg some (add_nil h)

theorem next?_of_rest (h : r.pending = .nothing) (c : Char) : next? d r c = begin? d r c := by
  rw [next?, h, settle?_of_rest h]
  rfl

/-- A character that does not belong to what is pending ends it. -/
theorem next?_of_settle? {s : Reader} {c : Char} (ends : r.pending.goesOn c = false)
    (h : r.settle? = some s) : next? d r c = next? d s c := by
  have rest : s.pending = .nothing := by
    obtain ⟨nodes, -, rfl⟩ := Option.map_eq_some_iff.1 h
    rfl
  rw [next?, ends, h, next?_of_rest rest]
  rfl

end Reader

open Reader

/-- The text adds the nodes wherever it is read, and nothing is pending after it. -/
def ReadsWhole (d : Dialect) (chars : List Char) (nodes : List Node) : Prop :=
  ∀ r : Reader, r.pending = .nothing → run? d r chars = some (r.add nodes)

/-- The text adds the nodes wherever it is read, once one of the ends shows that it is over. -/
def Reads (d : Dialect) (ends : List Char) (chars : List Char) (nodes : List Node) : Prop :=
  ∀ r : Reader, r.pending = .nothing → ∃ s, run? d r chars = some s ∧
    s.settle? = some (r.add nodes) ∧ ∀ c ∈ ends, s.pending.goesOn c = false

section Laws

variable {d : Dialect} {ends : List Char} {a b : List Char} {m n : List Node}

theorem ReadsWhole.reads (h : ReadsWhole d a m) : Reads d ends a m := fun r hr =>
  ⟨r.add m, h r hr, settle?_of_rest (pending_add ..), fun _ _ => rfl⟩

theorem Reads.mono {fewer : List Char} (h : Reads d ends a m) (sub : fewer ⊆ ends) :
    Reads d fewer a m := fun r hr =>
  have ⟨s, run, settled, stops⟩ := h r hr
  ⟨s, run, settled, fun c hc => stops c (sub hc)⟩

theorem ReadsWhole.run?_append (h : ReadsWhole d a m) {r : Reader} (hr : r.pending = .nothing) :
    run? d r (a ++ b) = run? d (r.add m) b := by
  rw [Reader.run?_append, h r hr, Option.bind_some]

theorem Reads.run?_append (h : Reads d ends a m) {r : Reader} (hr : r.pending = .nothing) {c : Char}
    (hc : c ∈ ends) (hb : b.head? = some c) : run? d r (a ++ b) = run? d (r.add m) b := by
  obtain ⟨rest, rfl⟩ := List.head?_eq_some_iff.1 hb
  obtain ⟨s, run, settled, stops⟩ := h r hr
  rw [Reader.run?_append, run, Option.bind_some, run?_cons, run?_cons,
    next?_of_settle? (stops c hc) settled]

theorem ReadsWhole.append_reads (ha : ReadsWhole d a m) (hb : Reads d ends b n) :
    Reads d ends (a ++ b) (m ++ n) := by
  intro r hr
  rw [ha.run?_append hr, ← add_add]
  exact hb _ (pending_add ..)

variable {others : List Char} {c : Char}

theorem Reads.append (ha : Reads d others a m) (hb : Reads d ends b n) (hc : c ∈ others)
    (head : b.head? = some c) : Reads d ends (a ++ b) (m ++ n) := by
  intro r hr
  rw [ha.run?_append hr hc head, ← add_add]
  exact hb _ (pending_add ..)

end Laws

/-! ## reading within a text -/

namespace Reader

variable {d : Dialect} {r s : Reader} {c : Char}

/-- What parentheses enclose where the outermost ones are open in another reader. -/
def graft (outer : Reader) (nodes : List Node) : List (List Node) → List Node × List (List Node)
  | [] => (outer.nodes ++ nodes, outer.around)
  | next :: around =>
    let (nodes', around') := graft outer next around
    (nodes, nodes' :: around')

/-- The reader of a text that begins where another one stands. -/
def within (outer r : Reader) : Reader :=
  let (nodes, around) := graft outer r.nodes r.around
  ⟨r.pending, nodes, around⟩

theorem graft_append (outer : Reader) (nodes more : List Node) (around : List (List Node)) :
    graft outer (nodes ++ more) around =
      ((graft outer nodes around).1 ++ more, (graft outer nodes around).2) := by
  cases around <;> simp [graft]

theorem within_add (outer r : Reader) (nodes : List Node) :
    within outer (r.add nodes) = (within outer r).add nodes := by
  simp [within, add, graft_append]

theorem settle?_within {outer : Reader} (h : r.settle? = some s) :
    (within outer r).settle? = some (within outer s) := by
  obtain ⟨nodes, pending, rfl⟩ := Option.map_eq_some_iff.1 h
  rw [within_add]
  exact Option.map_eq_some_iff.2 ⟨nodes, pending, rfl⟩

theorem begin?_within {outer : Reader} (h : r.begin? d c = some s) :
    (within outer r).begin? d c = some (within outer s) := by
  unfold begin? at h ⊢
  split at h
  · cases h
    rfl
  · cases h
    rfl
  · cases h
    rw [within_add]
  · cases h
    rfl
  · split at h
    · rename_i around
      cases h
      simp [within, around, graft, graft_append]
    · cases h
  · cases h

theorem next?_within {outer : Reader} (h : r.next? d c = some s) :
    (within outer r).next? d c = some (within outer s) := by
  unfold next? at h ⊢
  rw [show (within outer r).pending = r.pending from rfl]
  split at h
  · rename_i goesOn
    obtain ⟨p, extended, rfl⟩ := Option.map_eq_some_iff.1 h
    rw [if_pos goesOn, extended]
    rfl
  · rename_i ends
    obtain ⟨settled, hsettled, begun⟩ := Option.bind_eq_some_iff.1 h
    rw [if_neg ends, settle?_within hsettled, Option.bind_some, begin?_within begun]

theorem run?_within {outer : Reader} {chars : List Char} (h : run? d r chars = some s) :
    run? d (within outer r) chars = some (within outer s) := by
  induction chars generalizing r with
  | nil =>
    cases h
    rfl
  | cons c rest ih =>
    rw [run?_cons] at h ⊢
    obtain ⟨next, hnext, hrest⟩ := Option.bind_eq_some_iff.1 h
    rw [next?_within hnext, Option.bind_some, ih hrest]

theorem within_fresh (h : r.pending = .nothing) : within r {} = r := by
  cases r
  cases h
  simp [within, graft]

end Reader

section Fresh

variable {d : Dialect} {ends : List Char} {chars : List Char} {nodes : List Node}

/-- A text that can be read by itself is read the same wherever it stands. -/
theorem Reads.of_fresh {s : Reader} (h : run? d {} chars = some s) {nodes : List Node}
    (settled : s.settle? = some ⟨.nothing, nodes, []⟩)
    (stops : ∀ c ∈ ends, s.pending.goesOn c = false) : Reads d ends chars nodes := by
  intro r hr
  refine ⟨within r s, ?_, settle?_within settled, stops⟩
  have run : run? d (within r {}) chars = some (within r s) := run?_within h
  rwa [within_fresh hr] at run

theorem ReadsWhole.of_fresh (h : run? d {} chars = some ⟨.nothing, nodes, []⟩) :
    ReadsWhole d chars nodes := by
  intro r hr
  have run : run? d (within r {}) chars = some (within r ⟨.nothing, nodes, []⟩) := run?_within h
  rwa [within_fresh hr] at run

theorem Reads.nodes?_eq (h : Reads d ends chars nodes) : nodes? d chars = some nodes := by
  obtain ⟨s, run, settled, -⟩ := h {} rfl
  simp [nodes?, run, settled, add]

theorem reads_of_nodes? (h : nodes? d chars = some nodes) : Reads d [')'] chars nodes := by
  obtain ⟨s, run, h⟩ := Option.bind_eq_some_iff.1 h
  obtain ⟨t, settled, h⟩ := Option.bind_eq_some_iff.1 h
  obtain ⟨closed, read⟩ := Option.ite_none_right_eq_some.1 h
  cases read
  obtain ⟨pending, hpending, rfl⟩ := Option.map_eq_some_iff.1 settled
  refine Reads.of_fresh run (settled.trans ?_) fun c hc => ?_
  · have outermost : s.around = [] := List.isEmpty_iff.1 closed
    rw [add, outermost]
  · rw [List.mem_singleton.1 hc]
    cases stops : s.pending with
    | word isNumber chars => cases isNumber <;> rfl
    | sign c => simp [Pending.goesOn]
    | ended mark chars => cases mark <;> rfl
    | nothing => rfl
    | quote | escape =>
      rw [stops] at hpending
      cases hpending

end Fresh

/-! ## words, quotes and parentheses -/

/-- The characters that may follow a term. -/
def breaks : List Char := [' ', '(', ')', ',']

section Parts

variable {d : Dialect} {ends chars : List Char} {nodes : List Node}

theorem next?_of_goesOn {p q : Pending} {c : Char} (around : List (List Node))
    (h : p.goesOn c = true) (extended : p.extend? d c = some q) :
    next? d ⟨p, nodes, around⟩ c = some ⟨q, nodes, around⟩ := by
  unfold next?
  simp only
  rw [if_pos h, extended]
  rfl

theorem readsWhole_nil (d : Dialect) : ReadsWhole d [] [] := .of_fresh rfl

theorem readsWhole_group (h : Reads d ends chars nodes) (hends : ')' ∈ ends) :
    ReadsWhole d ('(' :: chars ++ [')']) [.group nodes] := by
  intro r hr
  have opened : next? d r '(' = some ⟨.nothing, [], r.nodes :: r.around⟩ := by
    rw [next?_of_rest hr]
    rfl
  rw [List.cons_append, run?_cons, opened, Option.bind_some, h.run?_append rfl hends rfl, run?_cons,
    next?_of_rest (pending_add ..)]
  rfl

theorem run?_word {isNumber : Bool} {read : List Char} (around : List (List Node))
    (h : ∀ c ∈ chars, (isWordPart c || isNumber && c = '.') = true) :
    run? d ⟨.word isNumber read, nodes, around⟩ chars =
      some ⟨.word isNumber (read ++ chars), nodes, around⟩ := by
  induction chars generalizing read with
  | nil =>
    rw [List.append_nil]
    rfl
  | cons c rest ih =>
    have ⟨hc, hrest⟩ := List.forall_mem_cons.1 h
    have taken : Pending.goesOn c (.word isNumber read) = true := hc
    rw [run?_cons, next?_of_goesOn around taken rfl, Option.bind_some, ih hrest, List.append_assoc,
      List.singleton_append]

/-- A word, or a number, which may hold points. -/
theorem reads_word {c : Char} {rest : List Char} (hc : isWordPart c = true)
    (hrest : ∀ x ∈ rest, (isWordPart x || c.isDigit && x = '.') = true)
    (stops : ∀ x ∈ ends, (isWordPart x || c.isDigit && x = '.') = false) :
    Reads d ends (c :: rest) [.word (c :: rest)] := by
  intro r hr
  have started : next? d r c = some { r with pending := .word c.isDigit [c] } := by
    have lead : d.lead c = .starts (.word c.isDigit [c]) := by simp [Dialect.lead, hc]
    rw [next?_of_rest hr, begin?, lead]
  refine ⟨⟨.word c.isDigit (c :: rest), r.nodes, r.around⟩, ?_, rfl, stops⟩
  rw [run?_cons, started, Option.bind_some, run?_word _ hrest]
  rfl

/-- A text between quotes, where each character is written so that it is read as itself. -/
theorem reads_quoted {mark : Mark} (hmark : d.markOf? mark.char = some mark)
    {written : Char → List Char}
    (h : ∀ c read nodes around, run? d ⟨.quote mark read, nodes, around⟩ (written c) =
      some ⟨.quote mark (read ++ [c]), nodes, around⟩) (stops : mark.char ∉ ends)
    (chars : List Char) :
    Reads d ends (mark.char :: chars.flatMap written ++ [mark.char]) [.quoted mark chars] := by
  have inside (read : List Char) (nodes : List Node) (around : List (List Node)) :
      run? d ⟨.quote mark read, nodes, around⟩ (chars.flatMap written) =
        some ⟨.quote mark (read ++ chars), nodes, around⟩ := by
    induction chars generalizing read with
    | nil =>
      rw [List.append_nil]
      rfl
    | cons c rest ih =>
      rw [List.flatMap_cons, run?_append, h, Option.bind_some, ih, List.append_assoc,
        List.singleton_append]
  intro r hr
  have started : next? d r mark.char = some { r with pending := .quote mark [] } := by
    have noWord : isWordPart mark.char = false := by cases mark <;> decide
    have lead : d.lead mark.char = .starts (.quote mark []) := by
      simp [Dialect.lead, noWord, hmark]
    rw [next?_of_rest hr, begin?, lead]
  have ended : next? d ⟨.quote mark chars, r.nodes, r.around⟩ mark.char =
      some ⟨.ended mark chars, r.nodes, r.around⟩ :=
    next?_of_goesOn _ rfl (if_pos rfl)
  refine ⟨⟨.ended mark chars, r.nodes, r.around⟩, ?_, rfl, fun c hc => ?_⟩
  · rw [List.cons_append, run?_cons, started, Option.bind_some, run?_append, inside,
      List.nil_append, Option.bind_some, run?_cons, ended]
    rfl
  · exact decide_eq_false fun same => stops (same ▸ hc)

end Parts

end Sql

end AnalyticsGateway
