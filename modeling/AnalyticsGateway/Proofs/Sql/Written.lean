import AnalyticsGateway.Proofs.Decimal.Layout
import AnalyticsGateway.Proofs.Sql.Precedence
import AnalyticsGateway.Sql.Writer

/-!
# Reading what is written

Names and texts are read as they were before they were quoted, and every term and test is read as
nodes that no connective joins, if the fragments in it can be read by themselves
(`readsPlainly_term`, `readsUncut_test`).
-/

namespace AnalyticsGateway

open Sql

/-! ## names and texts -/

namespace Dialect

/-- The mark of quoted names. -/
def nameMark (d : Dialect) : Mark := if d.nameQuote = Mark.back.char then .back else .double

def nameNode (d : Dialect) (name : String) : Node :=
  if isPlainName name then .word name.toList else .quoted d.nameMark name.toList

end Dialect

namespace Sql

open Reader

variable {d : Dialect}

/-- In a quoted text, a mark that is written twice is read once. -/
theorem run?_doubled {mark : Mark} {c : Char} (h : d.escapesIn mark = false ∨ c ≠ '\\')
    (read : List Char) (nodes : List Node) (around : List (List Node)) :
    run? d ⟨.quote mark read, nodes, around⟩
        (if c = mark.char then [mark.char, mark.char] else [c]) =
      some ⟨.quote mark (read ++ [c]), nodes, around⟩ := by
  split
  · rename_i same
    subst same
    have first : Pending.extend? d mark.char (.quote mark read) = some (.ended mark read) :=
      if_pos rfl
    have twice : Pending.goesOn mark.char (.ended mark read) = true := decide_eq_true rfl
    rw [run?_cons, next?_of_goesOn around rfl first, Option.bind_some, run?_cons,
      next?_of_goesOn around twice rfl]
    rfl
  · rename_i other
    have kept : Pending.extend? d c (.quote mark read) = some (.quote mark (read ++ [c])) := by
      have plain : (d.escapesIn mark && decide (c = '\\')) = false := by
        rcases h with h | h <;> simp [h]
      rw [Pending.extend?, if_neg other, plain]
      rfl
    rw [run?_cons, next?_of_goesOn around rfl kept]
    rfl

theorem isWordPart_of_mem_breaks : ∀ c ∈ '.' :: breaks, isWordPart c = false := by
  simp [breaks, isWordPart]

/-- What may follow a term belongs to no word or number. -/
theorem goesOn_word (isNumber : Bool) (chars : List Char) :
    ∀ c ∈ breaks, Pending.goesOn c (.word isNumber chars) = false := by
  intro c hc
  have noPoint : c ≠ '.' := by
    rintro rfl
    exact absurd hc (by decide)
  rw [Pending.goesOn, isWordPart_of_mem_breaks c (List.mem_cons_of_mem _ hc),
    decide_eq_false noPoint, Bool.and_false, Bool.or_false]

theorem isWordPart_of_isNamePart {c : Char} (h : Dialect.isNamePart c = true) :
    isWordPart c = true := by
  simp only [Dialect.isNamePart, Bool.or_eq_true, decide_eq_true_eq] at h
  rcases h with (h | h) | h <;> simp [isWordPart, Char.isAlphanum, Char.isAlpha, h]

theorem isDigit_of_isNameStart {c : Char} (h : Dialect.isNameStart c = true) :
    c.isDigit = false := by
  simp only [Dialect.isNameStart, Bool.or_eq_true, decide_eq_true_eq] at h
  rcases h with h | rfl
  · simp only [Char.isLower, Char.isDigit, Bool.and_eq_true, Bool.and_eq_false_iff,
      decide_eq_true_eq, decide_eq_false_iff_not, UInt32.le_iff_toNat_le, ge_iff_le] at h ⊢
    have : 'a'.val.toNat = 97 := rfl
    have : '9'.val.toNat = 57 := rfl
    omega
  · rfl

theorem toLower_of_isNamePart {c : Char} (h : Dialect.isNamePart c = true) : c.toLower = c := by
  simp only [Dialect.isNamePart, Bool.or_eq_true, decide_eq_true_eq] at h
  have small : ¬('A'.val ≤ c.val ∧ c.val ≤ 'Z'.val) := by
    simp only [UInt32.le_iff_toNat_le]
    have : 'A'.val.toNat = 65 := rfl
    have : 'Z'.val.toNat = 90 := rfl
    have : 'a'.val.toNat = 97 := rfl
    have : '9'.val.toNat = 57 := rfl
    have : '_'.val.toNat = 95 := rfl
    rcases h with (h | h) | rfl
    · simp only [Char.isLower, Bool.and_eq_true, decide_eq_true_eq, UInt32.le_iff_toNat_le,
        ge_iff_le] at h
      omega
    · simp only [Char.isDigit, Bool.and_eq_true, decide_eq_true_eq, UInt32.le_iff_toNat_le,
        ge_iff_le] at h
      omega
    · omega
  rw [Char.toLower]
  exact dif_neg small

/-- Plain names are of small letters, digits and low lines, do not begin with a digit and are not
reserved. -/
theorem of_isPlainName {name : String} (h : Dialect.isPlainName name = true) :
    (∃ c rest, name.toList = c :: rest ∧ Dialect.isNameStart c = true) ∧
      (∀ c ∈ name.toList, Dialect.isNamePart c = true) ∧
        Dialect.reservedWords.contains name = false := by
  unfold Dialect.isPlainName at h
  split at h
  · cases h
  · rename_i c rest chars
    simp only [Bool.and_eq_true, List.all_eq_true, Bool.not_eq_true'] at h
    obtain ⟨⟨start, parts⟩, free⟩ := h
    refine ⟨⟨c, rest, chars, start⟩, ?_, free⟩
    rw [chars]
    refine List.forall_mem_cons.2 ⟨?_, parts⟩
    simp only [Dialect.isNameStart, Bool.or_eq_true] at start
    rcases start with start | start <;> simp [Dialect.isNamePart, start]

theorem reads_name (d : Dialect) (name : String) :
    Reads d ('.' :: breaks) (writeName d name) [d.nameNode name] := by
  unfold writeName Dialect.nameNode
  split
  · rename_i plain
    obtain ⟨⟨c, rest, chars, start⟩, parts, -⟩ := of_isPlainName plain
    rw [chars] at parts ⊢
    have ⟨first, others⟩ := List.forall_mem_cons.1 parts
    refine reads_word (isWordPart_of_isNamePart first) (fun x hx => ?_) fun x hx => ?_
    · rw [isWordPart_of_isNamePart (others x hx), Bool.true_or]
    · rw [isWordPart_of_mem_breaks x hx, isDigit_of_isNameStart start]
      rfl
  · have noEscapes : d.escapesIn d.nameMark = false := by cases d <;> rfl
    have quote : d.nameQuote = d.nameMark.char := by cases d <;> rfl
    simp only [quote, doubled]
    exact reads_quoted (by cases d <;> rfl) (fun c => run?_doubled (.inl noEscapes))
      (by cases d <;> decide) _

theorem reads_text (d : Dialect) (value : String) :
    Reads d breaks (writeText d value) [.quoted .single value.toList] := by
  have quoted {written : Char → List Char} (h : ∀ c read nodes around,
      run? d ⟨.quote .single read, nodes, around⟩ (written c) =
        some ⟨.quote .single (read ++ [c]), nodes, around⟩) :
      Reads d breaks ('\x27' :: value.toList.flatMap written ++ ['\x27'])
        [.quoted .single value.toList] :=
    reads_quoted rfl h (by decide) value.toList
  unfold writeText doubled
  simp only
  split
  · rename_i escapes
    rw [List.flatMap_assoc]
    refine quoted fun c read nodes around => ?_
    split
    · rename_i same
      subst same
      have escapesIn : d.escapesIn .single = true := by cases d <;> simp_all +decide
      have behind : Pending.extend? d '\\' (.quote .single read) = some (.escape .single read) := by
        rw [Pending.extend?, if_neg (by decide), escapesIn]
        rfl
      have pair : (['\\', '\\'].flatMap fun c => if c = '\x27' then ['\x27', '\x27'] else [c]) =
          ['\\', '\\'] := rfl
      rw [pair, run?_cons, next?_of_goesOn around rfl behind, Option.bind_some, run?_cons,
        next?_of_goesOn around rfl rfl]
      rfl
    · rename_i other
      rw [List.flatMap_singleton]
      exact run?_doubled (.inr other) read nodes around
  · rename_i noEscapes
    refine quoted fun c => run?_doubled (.inl ?_)
    rw [Dialect.escapesIn, Bool.eq_false_iff.2 noEscapes, Bool.false_and]

/-! ## plain texts -/

/-- The words that join or negate conditions, or own a connective. -/
def keywords : List String := ["and", "or", "between", "not"]

def Node.isKeyword (node : Node) : Bool := keywords.any fun keyword => node.isWord keyword

theorem Node.isKeyword_eq_false {node : Node} :
    node.isKeyword = false ↔ ∀ keyword ∈ keywords, node.isWord keyword = false := by
  simp [isKeyword]

@[simp] theorem Node.isKeyword_quoted (mark : Mark) (chars : List Char) :
    (quoted mark chars).isKeyword = false := rfl

@[simp] theorem Node.isKeyword_sign (c : Char) : (sign c).isKeyword = false := rfl

@[simp] theorem Node.isKeyword_group (nodes : List Node) : (group nodes).isKeyword = false := rfl

theorem uncut_of_isKeyword {nodes : List Node} (h : ∀ node ∈ nodes, node.isKeyword = false)
    (k : Connective) : Uncut k nodes := by
  induction nodes with
  | nil => exact .nil
  | cons node rest ih =>
    have ⟨hnode, hrest⟩ := List.forall_mem_cons.1 h
    have free := Node.isKeyword_eq_false.1 hnode
    refine Uncut.append (m := [node]) ?_ (ih hrest)
    cases k with
    | and => exact .singleton (free "and" (by decide)) (free "between" (by decide))
    | or => exact .singleton (free "or" (by decide)) rfl

/-- The text is read as nodes of which none joins or negates conditions. -/
def ReadsPlainly (d : Dialect) (chars : List Char) : Prop :=
  ∃ nodes, Reads d breaks chars nodes ∧ nodes ≠ [] ∧ ∀ node ∈ nodes, node.isKeyword = false

/-! ## columns -/

/-- No name is taken for a key word: the words among the names are quoted. -/
theorem isKeyword_nameNode (d : Dialect) (name : String) : (d.nameNode name).isKeyword = false := by
  unfold Dialect.nameNode
  split
  · rename_i plain
    obtain ⟨-, parts, free⟩ := of_isPlainName plain
    have small : name.toList.map Char.toLower = name.toList :=
      (List.map_congr_left fun c hc => toLower_of_isNamePart (parts c hc)).trans (List.map_id' _)
    have reserved : ∀ keyword ∈ keywords, Dialect.reservedWords.contains keyword = true := by
      decide
    refine Node.isKeyword_eq_false.2 fun keyword hkeyword => ?_
    rw [Node.isWord, small]
    refine decide_eq_false fun same => ?_
    rw [String.toList_inj.1 same, reserved keyword hkeyword] at free
    cases free
  · rfl

def Style.columnNodes (s : Style) (c : Column) : List Node :=
  match c.qualifier with
  | some aliasName =>
    if s.implicitAlias = some aliasName then [s.dialect.nameNode c.name]
    else [s.dialect.nameNode aliasName, .sign '.', s.dialect.nameNode c.name]
  | none => [s.dialect.nameNode c.name]

theorem columnNodes_ne_nil (s : Style) (c : Column) : s.columnNodes c ≠ [] := by
  unfold Style.columnNodes
  split
  · split <;> simp
  · simp

/-- The characters of some pieces. -/
def charsOf (d : Dialect) (pieces : List Piece) : List Char := pieces.flatMap (Piece.write d)

theorem reads_column (s : Style) (c : Column) :
    Reads s.dialect breaks (charsOf s.dialect (s.column c)) (s.columnNodes c) := by
  have bare : Reads s.dialect breaks (charsOf s.dialect [.name c.name])
      [s.dialect.nameNode c.name] := by
    rw [charsOf, List.flatMap_singleton]
    exact (reads_name s.dialect c.name).mono (List.subset_cons_self ..)
  rw [Style.column, Style.columnNodes]
  cases c.qualifier with
  | none => exact bare
  | some aliasName =>
    simp only
    split
    · exact bare
    · have point : ReadsWhole s.dialect ['.'] [.sign '.'] := .of_fresh rfl
      exact (reads_name s.dialect aliasName).append (point.append_reads bare) List.mem_cons_self rfl

theorem isKeyword_columnNodes (s : Style) (c : Column) :
    ∀ node ∈ s.columnNodes c, node.isKeyword = false := by
  have name := isKeyword_nameNode s.dialect
  unfold Style.columnNodes
  split
  · split <;> simp [name]
  · simp [name]

/-! ## constants -/

theorem ReadsWhole.readsPlainly_append {a b : List Char} {m : List Node} (ha : ReadsWhole d a m)
    (hm : ∀ node ∈ m, node.isKeyword = false) (hb : ReadsPlainly d b) :
    ReadsPlainly d (a ++ b) := by
  obtain ⟨n, reads, ne, plain⟩ := hb
  exact ⟨m ++ n, ha.append_reads reads, by simp [ne], List.forall_mem_append.2 ⟨hm, plain⟩⟩

theorem readsPlainly_word {c : Char} {rest : List Char} (word : Reads d breaks (c :: rest)
      [.word (c :: rest)]) (free : (Node.word (c :: rest)).isKeyword = false) :
    ReadsPlainly d (c :: rest) :=
  ⟨_, word, by simp, by simpa using free⟩

/-- A number may have a sign, which does not begin a comment. -/
theorem readsPlainly_signed {sign : List Char} (hsign : sign = [] ∨ sign = ['-']) {c : Char}
    {rest : List Char} (hc : c ≠ '-') (h : ReadsPlainly d (c :: rest)) :
    ReadsPlainly d (sign ++ c :: rest) := by
  rcases hsign with rfl | rfl
  · exact h
  · obtain ⟨nodes, reads, ne, plain⟩ := h
    have minus : Reads d [c] ['-'] [.sign '-'] := by
      refine .of_fresh rfl rfl fun x hx => ?_
      rw [List.mem_singleton.1 hx]
      simp [Pending.goesOn, hc]
    exact ⟨_, minus.append reads (List.mem_singleton_self c) rfl, by simp,
      List.forall_mem_cons.2 ⟨rfl, plain⟩⟩

theorem readsPlainly_digits {c : Char} {rest : List Char} (hc : c.isDigit = true)
    (hrest : ∀ x ∈ rest, x.isDigit = true ∨ x = '.') : ReadsPlainly d (c :: rest) := by
  have part {x : Char} (h : x.isDigit = true) : isWordPart x = true := by
    simp [isWordPart, Char.isAlphanum, h]
  refine readsPlainly_word (reads_word (part hc) (fun x hx => ?_) fun x hx => ?_) ?_
  · rcases hrest x hx with h | rfl
    · rw [part h, Bool.true_or]
    · simp [hc]
  · exact goesOn_word c.isDigit [] x hx
  · have same : c.toLower = c := toLower_of_isNamePart (by simp [Dialect.isNamePart, hc])
    have letters : ∀ keyword ∈ keywords, keyword.toList.head?.any Char.isDigit = false := by decide
    refine Node.isKeyword_eq_false.2 fun keyword hkeyword => decide_eq_false fun word => ?_
    have letter := letters keyword hkeyword
    rw [← word, List.map_cons, same] at letter
    simp [hc] at letter

theorem readsPlainly_toDigits {sign : List Char} (hsign : sign = [] ∨ sign = ['-']) (n : Nat) :
    ReadsPlainly d (sign ++ Nat.toDigits 10 n) := by
  have digits : ∀ c ∈ Nat.toDigits 10 n, c.isDigit = true :=
    fun _ hc => Decimal.isDigit_of_mem_toDigits hc
  obtain ⟨c, rest, eq⟩ := List.exists_cons_of_ne_nil (Nat.toDigits_ne_nil (n := n) (b := 10))
  rw [eq] at digits ⊢
  have ⟨hc, hrest⟩ := List.forall_mem_cons.1 digits
  exact readsPlainly_signed hsign (by rintro rfl; cases hc)
    (readsPlainly_digits hc fun x hx => .inl (hrest x hx))

theorem readsPlainly_literal (d : Dialect) (l : Literal) :
    ReadsPlainly d ((Style.literal l).write d) := by
  cases l with
  | boolean b => cases b <;> exact ⟨_, .of_fresh rfl rfl (goesOn_word _ _), by simp, by decide⟩
  | integer n =>
    rw [Style.literal, Piece.write, String.toList_ofList, NumberLayout.integer]
    split
    · exact readsPlainly_toDigits (.inr rfl) _
    · exact readsPlainly_toDigits (.inl rfl) _
  | float x =>
    rw [Style.literal, Piece.write]
    cases nan : x.isNaN with
    | true =>
      rw [NumberLayout.write, if_pos nan]
      exact ⟨_, .of_fresh rfl rfl (goesOn_word _ _), by simp, by decide⟩
    | false =>
      have sign : (if MachineNumber.sign x = 1 then ['-'] else []) = [] ∨
          (if MachineNumber.sign x = 1 then ['-'] else []) = ['-'] := by
        split <;> simp
      rw [NumberLayout.plain.toList_write nan]
      rcases NumberLayout.plain_magnitude x with inf | ⟨c, rest, eq, hc, hrest⟩
      · rw [inf]
        exact readsPlainly_signed sign (by decide)
          ⟨_, .of_fresh rfl rfl (goesOn_word _ _), by simp, by decide⟩
      · rw [eq]
        exact readsPlainly_signed sign (by rintro rfl; cases hc) (readsPlainly_digits hc hrest)
  | text value => exact ⟨_, reads_text d value, by simp, by simp⟩

/-! ## terms -/

/-- Text of the catalog's author that can be read by itself: it holds no comment, and every quote
and parenthesis in it has its other one. -/
def IsBalanced (d : Dialect) (sql : String) : Prop := (nodes? d sql.toList).isSome = true

instance (d : Dialect) (sql : String) : Decidable (IsBalanced d sql) :=
  inferInstanceAs (Decidable (_ = _))

/-- The text is read as some nodes. -/
def ReadsSomehow (d : Dialect) (chars : List Char) : Prop := ∃ nodes, Reads d breaks chars nodes

theorem ReadsPlainly.somehow {chars : List Char} (h : ReadsPlainly d chars) :
    ReadsSomehow d chars :=
  have ⟨nodes, reads, _⟩ := h
  ⟨nodes, reads⟩

theorem ReadsSomehow.comma {a b : List Char} (ha : ReadsSomehow d a) (hb : ReadsSomehow d b) :
    ReadsSomehow d (a ++ ',' :: ' ' :: b) := by
  obtain ⟨m, ha⟩ := ha
  obtain ⟨n, hb⟩ := hb
  have comma : ReadsWhole d [',', ' '] [.sign ','] := .of_fresh rfl
  exact ⟨_, ha.append (comma.append_reads hb) (by decide) rfl⟩

theorem readsPlainly_group {chars : List Char} (h : ReadsSomehow d chars) :
    ReadsPlainly d ('(' :: chars ++ [')']) :=
  have ⟨_, reads⟩ := h
  ⟨_, (readsWhole_group reads (by decide)).reads, by simp, by simp⟩

theorem readsPlainly_rowTerm {s : Style} {t : RowTerm}
    (h : ∀ sql ∈ t.fragments, IsBalanced s.dialect sql) :
    ReadsPlainly s.dialect (charsOf s.dialect (s.rowTerm t)) := by
  cases t with
  | column c => exact ⟨_, reads_column s c, columnNodes_ne_nil s c, isKeyword_columnNodes s c⟩
  | fragment sql =>
    obtain ⟨nodes, balanced⟩ := Option.isSome_iff_exists.1 (h sql (List.mem_singleton_self sql))
    exact ⟨_, (readsWhole_group (reads_of_nodes? balanced) (List.mem_singleton_self _)).reads,
      by simp, by simp⟩

/-- A function in front of its arguments. -/
theorem readsPlainly_call {function : String} {argument : List Piece}
    (word : run? d {} function.toList = some ⟨.word false function.toList, [], []⟩)
    (free : (Node.word function.toList).isKeyword = false)
    (h : ReadsSomehow d (charsOf d argument)) :
    ReadsPlainly d (charsOf d (call function argument)) := by
  obtain ⟨nodes, reads⟩ := h
  have chars : charsOf d (call function argument) =
      function.toList ++ ('(' :: charsOf d argument ++ [')']) := by
    simp [charsOf, call, Piece.write]
  have name : Reads d breaks function.toList [.word function.toList] :=
    .of_fresh word rfl (goesOn_word _ _)
  have arguments : Reads d breaks ('(' :: charsOf d argument ++ [')']) [.group nodes] :=
    (readsWhole_group reads (by decide)).reads
  have opening : '(' ∈ breaks := by decide
  rw [chars]
  refine ⟨_, name.append arguments opening rfl, by simp, ?_⟩
  exact List.forall_mem_cons.2 ⟨free, by simp⟩

theorem readsPlainly_truncation {grain : TimeGrain} {argument pieces : List Piece}
    (h : ReadsPlainly d (charsOf d argument)) (written : truncation d grain argument = .ok pieces) :
    ReadsPlainly d (charsOf d pieces) := by
  have text (value : String) : ReadsSomehow d ((Piece.text value).write d) :=
    ⟨_, reads_text d value⟩
  have first (value : String) :
      charsOf d (.text value :: .fixed ", " :: argument) =
        (Piece.text value).write d ++ ',' :: ' ' :: charsOf d argument := rfl
  have last (value : String) :
      charsOf d (argument ++ [.fixed ", ", .text value]) =
        charsOf d argument ++ ',' :: ' ' :: (Piece.text value).write d := by
    simp [charsOf, Piece.write]
  cases d with
  | postgresql | generic =>
    cases written
    exact readsPlainly_call rfl rfl (first _ ▸ (text _).comma h.somehow)
  | doris | druid =>
    cases written
    exact readsPlainly_call rfl rfl (last _ ▸ h.somehow.comma (text _))
  | mysql =>
    cases hformat : truncationFormat? grain with
    | none => simp [truncation, hformat] at written
    | some format =>
      simp only [truncation, hformat, Except.ok.injEq] at written
      subst written
      have formatted : ReadsPlainly .mysql
          (charsOf .mysql (call "DATE_FORMAT" (argument ++ [.fixed ", ", .text format]))) :=
        readsPlainly_call rfl rfl (last format ▸ h.somehow.comma (text format))
      obtain ⟨nodes, reads, -⟩ := formatted
      have type : Reads .mysql breaks " AS DATETIME".toList
          [.word "AS".toList, .word "DATETIME".toList] := .of_fresh rfl rfl (goesOn_word _ _)
      have cast : ReadsSomehow .mysql (charsOf .mysql
          (call "DATE_FORMAT" (argument ++ [.fixed ", ", .text format]) ++
            [.fixed " AS DATETIME"])) := by
        rw [charsOf, List.flatMap_append, List.flatMap_singleton]
        exact ⟨_, reads.append type (by decide) rfl⟩
      exact readsPlainly_call rfl rfl cast

theorem readsPlainly_sharedAggregate {function : Aggregate} {argument : Option (List Piece)}
    {pieces : List Piece} (h : ∀ a ∈ argument, ReadsSomehow d (charsOf d a))
    (written : sharedAggregate d function argument = .ok pieces) :
    ReadsPlainly d (charsOf d pieces) := by
  unfold sharedAggregate at written
  split at written
  · cases written
  · cases written
  · cases written
    refine readsPlainly_call rfl rfl ?_
    cases argument with
    | none => exact ⟨_, .of_fresh rfl rfl fun _ _ => rfl⟩
    | some a => exact h a rfl
  · rename_i a
    cases written
    obtain ⟨nodes, reads⟩ := h a rfl
    have distinct : ReadsWhole d "DISTINCT ".toList [.word "DISTINCT".toList] := .of_fresh rfl
    exact readsPlainly_call rfl rfl ⟨_, distinct.append_reads reads⟩
  all_goals cases written
  all_goals exact readsPlainly_call rfl rfl (h _ rfl)

theorem readsPlainly_aggregation {function : Aggregate} {argument : Option (List Piece)}
    {pieces : List Piece} (h : ∀ a ∈ argument, ReadsSomehow d (charsOf d a))
    (written : aggregation d function argument = .ok pieces) :
    ReadsPlainly d (charsOf d pieces) := by
  have median (a : List Piece) (h : ReadsSomehow d (charsOf d a)) : ReadsPlainly d (charsOf d
      (.fixed "PERCENTILE_CONT(0.5) WITHIN GROUP (ORDER BY " :: a ++ [.fixed ")"])) := by
    obtain ⟨nodes, reads⟩ := h
    have function : ReadsWhole d "PERCENTILE_CONT(0.5) WITHIN GROUP ".toList
        [.word "PERCENTILE_CONT".toList, .group [.word "0.5".toList], .word "WITHIN".toList,
          .word "GROUP".toList] := .of_fresh rfl
    have order : ReadsWhole d "ORDER BY ".toList [.word "ORDER".toList, .word "BY".toList] :=
      .of_fresh rfl
    have chars : charsOf d
          (.fixed "PERCENTILE_CONT(0.5) WITHIN GROUP (ORDER BY " :: a ++ [.fixed ")"]) =
        "PERCENTILE_CONT(0.5) WITHIN GROUP ".toList ++
          ('(' :: ("ORDER BY ".toList ++ charsOf d a) ++ [')']) := by
      simp [charsOf, Piece.write]
    rw [chars]
    exact function.readsPlainly_append (by decide)
      (readsPlainly_group ⟨_, order.append_reads reads⟩)
  unfold aggregation at written
  split at written
  · cases written
    exact median _ (h _ rfl)
  · cases written
    exact median _ (h _ rfl)
  · rename_i a
    cases written
    obtain ⟨nodes, reads⟩ := h a rfl
    have half : Reads .doris breaks ", 0.5".toList [.sign ',', .word "0.5".toList] :=
      .of_fresh rfl rfl (goesOn_word _ _)
    refine readsPlainly_call rfl rfl ?_
    rw [charsOf, List.flatMap_append, List.flatMap_singleton]
    exact ⟨_, reads.append half (by decide) rfl⟩
  · cases written
    exact readsPlainly_call rfl rfl (h _ rfl)
  · cases written
    exact readsPlainly_call rfl rfl (h _ rfl)
  · exact readsPlainly_sharedAggregate h written

theorem readsPlainly_term {s : Style} {t : Term} {pieces : List Piece}
    (h : ∀ sql ∈ t.fragments, IsBalanced s.dialect sql) (written : s.term t = .ok pieces) :
    ReadsPlainly s.dialect (charsOf s.dialect pieces) := by
  have row (t' : RowTerm) (mem : t' ∈ t.rowTerms) :
      ReadsPlainly s.dialect (charsOf s.dialect (s.rowTerm t')) :=
    readsPlainly_rowTerm fun sql hsql => h sql (List.mem_flatMap.2 ⟨t', mem, hsql⟩)
  cases t with
  | row t' =>
    cases written
    exact row t' (List.mem_singleton_self t')
  | truncated grain t' =>
    exact readsPlainly_truncation (row t' (List.mem_singleton_self t')) written
  | aggregate function argument =>
    refine readsPlainly_aggregation (fun a ha => ?_) written
    obtain ⟨t', ht', rfl⟩ := Option.map_eq_some_iff.1 ha
    exact (row t' (Option.mem_toList.2 ht')).somehow

/-! ## tests -/

theorem head?_test (d : Dialect) (check : Test) :
    (charsOf d (Style.test check)).head? = some ' ' := by
  cases check with
  | compare c _ => cases c <;> rfl
  | among _ negated | like _ negated | isNull negated => cases negated <;> rfl
  | between _ _ => rfl

theorem readsSomehow_list (d : Dialect) (values : List Literal) : ReadsSomehow d
    (charsOf d (separated ", " (values.map fun value => [Style.literal value]))) := by
  induction values with
  | nil => exact ⟨_, (readsWhole_nil d).reads⟩
  | cons value rest ih =>
    have first := (readsPlainly_literal d value).somehow
    cases rest with
    | nil =>
      rw [List.map_singleton, separated, charsOf, List.flatMap_singleton]
      exact first
    | cons next rest => exact first.comma ih

/-- The text is read as nodes that no connective joins. -/
def ReadsUncut (d : Dialect) (chars : List Char) : Prop :=
  ∃ nodes, Reads d breaks chars nodes ∧ nodes ≠ [] ∧ ∀ k, Uncut k nodes

/-- A word of a test, negated or not. -/
theorem uncut_negation {word : Node} (free : word.isKeyword = false) (negated : Bool)
    (k : Connective) : Uncut k ((if negated then [notNode] else []) ++ [word]) := by
  refine Uncut.append ?_ (uncut_of_isKeyword (by simpa using free) k)
  split
  · exact uncut_not k
  · exact .nil

theorem readsUncut_compare (d : Dialect) (c : Comparison) (value : Literal) :
    ReadsUncut d (charsOf d (Style.test (.compare c value))) := by
  obtain ⟨nodes, reads, ne, plain⟩ := readsPlainly_literal d value
  have sign : ReadsWhole d s!" {Style.comparison c} ".toList
      ((Style.comparison c).toList.map .sign) := by
    cases c <;> exact .of_fresh rfl
  rw [Style.test, charsOf, List.flatMap_cons, List.flatMap_singleton]
  refine ⟨_, sign.append_reads reads, by simp [ne], uncut_of_isKeyword ?_⟩
  exact List.forall_mem_append.2 ⟨by simp, plain⟩

theorem readsUncut_among (d : Dialect) (values : List Literal) (negated : Bool) :
    ReadsUncut d (charsOf d (Style.test (.among values negated))) := by
  obtain ⟨nodes, reads⟩ := readsSomehow_list d values
  have word : ReadsWhole d s!" {Style.negation negated}IN ".toList
      ((if negated then [notNode] else []) ++ [.word "IN".toList]) := by
    cases negated <;> exact .of_fresh rfl
  have opening : s!" {Style.negation negated}IN (".toList =
      s!" {Style.negation negated}IN ".toList ++ ['('] := by
    cases negated <;> rfl
  have chars : charsOf d (Style.test (.among values negated)) =
      s!" {Style.negation negated}IN ".toList ++ ('(' :: charsOf d
        (separated ", " (values.map fun value => [Style.literal value])) ++ [')']) := by
    simp only [charsOf, Style.test, List.cons_append, List.flatMap_cons, List.flatMap_append,
      List.flatMap_nil, List.append_nil, Piece.write, opening, List.append_assoc]
    rfl
  rw [chars]
  refine ⟨_, word.append_reads (readsWhole_group reads (by decide)).reads, by simp, fun k => ?_⟩
  exact (uncut_negation (by decide) negated k).append (uncut_group k nodes)

/-- The `AND` of a `BETWEEN` belongs to it. -/
theorem uncut_between {lows highs : List Node} (low : ∀ node ∈ lows, node.isKeyword = false)
    (high : ∀ node ∈ highs, node.isKeyword = false) (k : Connective) :
    Uncut k (.word "BETWEEN".toList :: lows ++ Connective.and.node :: highs) := by
  cases k with
  | and =>
    have owns : Connective.and.owner?.any (Node.word "BETWEEN".toList).isWord = true := by decide
    exact .owned owns (by decide) (by decide) (uncut_of_isKeyword low _)
      (uncut_of_isKeyword high _)
  | or =>
    have between : Uncut .or [.word "BETWEEN".toList] := .singleton (by decide) rfl
    have and : Uncut .or [Connective.and.node] := .singleton (by decide) rfl
    exact between.append ((uncut_of_isKeyword low _).append
      (and.append (uncut_of_isKeyword high _)))

theorem readsUncut_between (d : Dialect) (low high : Literal) :
    ReadsUncut d (charsOf d (Style.test (.between low high))) := by
  obtain ⟨lows, readsLow, -, plainLow⟩ := readsPlainly_literal d low
  obtain ⟨highs, readsHigh, -, plainHigh⟩ := readsPlainly_literal d high
  have word : ReadsWhole d " BETWEEN ".toList [.word "BETWEEN".toList] := .of_fresh rfl
  have and : ReadsWhole d " AND ".toList [Connective.and.node] := .of_fresh rfl
  have reads := word.append_reads
    (readsLow.append (and.append_reads readsHigh) List.mem_cons_self rfl)
  rw [Style.test, charsOf, List.flatMap_cons, List.flatMap_cons, List.flatMap_cons,
    List.flatMap_singleton]
  exact ⟨_, reads, by simp, uncut_between plainLow plainHigh⟩

theorem readsUncut_like (d : Dialect) (pattern : String) (negated : Bool) :
    ReadsUncut d (charsOf d (Style.test (.like pattern negated))) := by
  have word : ReadsWhole d s!" {Style.negation negated}LIKE ".toList
      ((if negated then [notNode] else []) ++ [.word "LIKE".toList]) := by
    cases negated <;> exact .of_fresh rfl
  rw [Style.test, charsOf, List.flatMap_cons, List.flatMap_singleton]
  refine ⟨_, word.append_reads (reads_text d pattern), by simp, fun k => ?_⟩
  exact (uncut_negation (by decide) negated k).append (uncut_of_isKeyword (by simp) k)

theorem readsUncut_isNull (d : Dialect) (negated : Bool) :
    ReadsUncut d (charsOf d (Style.test (.isNull negated))) := by
  have null : Reads d breaks "NULL".toList [.word "NULL".toList] :=
    .of_fresh rfl rfl (goesOn_word _ _)
  have word : ReadsWhole d s!" IS {Style.negation negated}".toList
      ([.word "IS".toList] ++ if negated then [notNode] else []) := by
    cases negated <;> exact .of_fresh rfl
  have chars : charsOf d (Style.test (.isNull negated)) =
      s!" IS {Style.negation negated}".toList ++ "NULL".toList := by
    cases negated <;> rfl
  rw [chars]
  refine ⟨_, word.append_reads null, by simp, fun k => ?_⟩
  rw [List.append_assoc]
  exact (uncut_of_isKeyword (by decide) k).append (uncut_negation (by decide) negated k)

/-- What follows the term in a test is read as nodes that no connective joins. -/
theorem readsUncut_test (d : Dialect) (check : Test) :
    ReadsUncut d (charsOf d (Style.test check)) := by
  cases check with
  | compare c value => exact readsUncut_compare d c value
  | among values negated => exact readsUncut_among d values negated
  | between low high => exact readsUncut_between d low high
  | like pattern negated => exact readsUncut_like d pattern negated
  | isNull negated => exact readsUncut_isNull d negated

end Sql

end AnalyticsGateway
