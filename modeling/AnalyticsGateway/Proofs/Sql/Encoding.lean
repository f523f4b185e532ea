import AnalyticsGateway.Proofs.Json.Written
import AnalyticsGateway.Sql.Encoding

/-!
# Encoded queries are told apart

The JSON of a query shows all of it: queries with finite numbers that are written alike are the same
query (`Query.eq_of_alike`).
-/

namespace AnalyticsGateway.Sql

open Json (Alike)

attribute [ext] Column TableRef JoinCondition Join SelectItem OrderKey Query

/-! ## names -/

theorem TimeGrain.name_inj {a b : TimeGrain} (h : a.name = b.name) : a = b :=
  Option.some.inj ((TimeGrain.named?_name a).symm.trans (h ▸ TimeGrain.named?_name b))

theorem Aggregate.name_inj {a b : Aggregate} (h : a.name = b.name) : a = b :=
  Option.some.inj ((Aggregate.named?_name a).symm.trans (h ▸ Aggregate.named?_name b))

theorem Dialect.name_inj {a b : Dialect} (h : a.name = b.name) : a = b :=
  Option.some.inj ((Dialect.named?_name a).symm.trans (h ▸ Dialect.named?_name b))

theorem JoinKind.name_inj {a b : JoinKind} (h : a.name = b.name) : a = b :=
  Option.some.inj ((JoinKind.named?_name a).symm.trans (h ▸ JoinKind.named?_name b))

theorem Comparison.name_inj : ∀ {a b : Comparison}, a.name = b.name → a = b := by
  intro a b
  cases a <;> cases b <;> decide

theorem Connective.word_inj : ∀ {a b : Connective}, a.word = b.word → a = b := by
  intro a b
  cases a <;> cases b <;> decide

/-! ## tags -/

theorem tagged_alike {s t : String} {a b : Json} (h : Alike (tagged s a) (tagged t b)) :
    s = t ∧ Alike a b := by
  have fields := (Figure.list.inj h).2.2
  obtain ⟨names, values⟩ := Figure.field.inj (List.cons.inj fields).1
  exact ⟨String.toList_inj.1 (Figure.Label.quoted.inj names), values⟩

theorem not_tagged_null (tag : String) (content : Json) : ¬Alike (tagged tag content) .null :=
  nofun

/-! ## terms -/

theorem Column.eq_of_alike {c d : Column} (h : Alike c.toJson d.toJson) : c = d :=
  Column.ext
    ((h.member "qualifier" rfl rfl).ofOption Alike.not_text_null fun _ _ _ _ => Alike.text)
    (h.member "name" rfl rfl).text

def RowTerm.tag : RowTerm → String
  | column _ => "column"
  | fragment _ => "raw"

def RowTerm.content : RowTerm → Json
  | column c => c.toJson
  | fragment sql => .text sql

theorem RowTerm.toJson_eq (t : RowTerm) : t.toJson = tagged t.tag t.content := by
  cases t <;> rfl

theorem RowTerm.eq_of_alike {t u : RowTerm} (h : Alike t.toJson u.toJson) : t = u := by
  rw [toJson_eq, toJson_eq] at h
  obtain ⟨tags, contents⟩ := tagged_alike h
  cases t <;> cases u
  case column.column => exact congrArg column (Column.eq_of_alike contents)
  case fragment.fragment => exact congrArg fragment contents.text
  all_goals simp [tag] at tags

def Term.tag : Term → String
  | row t => t.tag
  | truncated .. => "date_trunc"
  | aggregate .. => "aggregate"

def Term.content : Term → Json
  | row t => t.content
  | truncated grain t => .object [("grain", .text grain.name), ("expr", t.toJson)]
  | aggregate f argument =>
    .object [("func", .text f.name), ("arg", .ofOption RowTerm.toJson argument)]

theorem Term.toJson_eq (t : Term) : t.toJson = tagged t.tag t.content := by
  cases t with
  | row t => exact t.toJson_eq
  | _ => rfl

theorem RowTerm.not_null (t : RowTerm) : ¬Alike t.toJson .null :=
  t.toJson_eq ▸ not_tagged_null _ _

theorem Term.eq_of_alike {t u : Term} (h : Alike t.toJson u.toJson) : t = u := by
  have rows := h
  rw [toJson_eq, toJson_eq] at h
  obtain ⟨tags, contents⟩ := tagged_alike h
  cases t <;> cases u
  case row.row => exact congrArg row (RowTerm.eq_of_alike rows)
  case truncated.truncated =>
    have grains := TimeGrain.name_inj (contents.member "grain" rfl rfl).text
    have terms := RowTerm.eq_of_alike (contents.member "expr" rfl rfl)
    exact congr (congrArg truncated grains) terms
  case aggregate.aggregate =>
    have functions := Aggregate.name_inj (contents.member "func" rfl rfl).text
    have arguments := (contents.member "arg" rfl rfl).ofOption RowTerm.not_null
      fun _ _ _ _ => RowTerm.eq_of_alike
    exact congr (congrArg aggregate functions) arguments
  case row.truncated t _ _ | row.aggregate t _ _ => cases t <;> simp [tag, RowTerm.tag] at tags
  case truncated.row t | aggregate.row t => cases t <;> simp [tag, RowTerm.tag] at tags
  all_goals simp [tag] at tags

/-! ## constants -/

def Literal.IsFinite : Literal → Prop
  | float x => x.isFinite = true
  | _ => True

def Literal.tag : Literal → String
  | boolean _ => "boolean"
  | integer _ => "integer"
  | float _ => "float"
  | text _ => "string"

def Literal.content : Literal → Json
  | boolean b => .boolean b
  | integer n => .integer n
  | float x => .float x
  | text s => .text s

theorem Literal.toJson_eq (l : Literal) : l.toJson = tagged l.tag l.content := by
  cases l <;> rfl

theorem Literal.eq_of_alike {l m : Literal} (hl : l.IsFinite) (hm : m.IsFinite)
    (h : Alike l.toJson m.toJson) : l = m := by
  rw [toJson_eq, toJson_eq] at h
  obtain ⟨tags, contents⟩ := tagged_alike h
  cases l <;> cases m
  case boolean.boolean => exact congrArg boolean contents.boolean
  case integer.integer => exact congrArg integer contents.integer
  case float.float => exact congrArg float (contents.float hl hm)
  case text.text => exact congrArg text contents.text
  all_goals simp [tag] at tags

/-! ## tests -/

def Test.literals : Test → List Literal
  | compare _ value => [value]
  | among values _ => values
  | between low high => [low, high]
  | like .. | isNull _ => []

def Test.tag : Test → String
  | compare .. => "compare"
  | among .. => "in_list"
  | between .. => "between"
  | like .. => "like"
  | isNull _ => "is_null"

def Test.content (term : Json) : Test → Json
  | compare c value =>
    .object [("left", term), ("op", .text c.name), ("right", tagged "literal" value.toJson)]
  | among values negated =>
    .object [("expr", term), ("list", .ofList Literal.toJson values), ("negated", .boolean negated)]
  | between low high => .object [("expr", term), ("low", low.toJson), ("high", high.toJson)]
  | like pattern negated =>
    .object [("expr", term), ("pattern", .text pattern), ("negated", .boolean negated)]
  | isNull negated => .object [("expr", term), ("negated", .boolean negated)]

theorem Test.toJson_eq (term : Json) (check : Test) :
    check.toJson term = tagged check.tag (check.content term) := by
  cases check <;> rfl

/-- The content of a test tells the term that is tested and the test. -/
theorem Test.eq_of_content {a b : Test} {t u : Term} (ha : ∀ l ∈ a.literals, l.IsFinite)
    (hb : ∀ l ∈ b.literals, l.IsFinite) (tags : a.tag = b.tag)
    (h : Alike (a.content t.toJson) (b.content u.toJson)) : t = u ∧ a = b := by
  cases a <;> cases b
  case compare.compare =>
    have terms := Term.eq_of_alike (h.member "left" rfl rfl)
    have comparisons := Comparison.name_inj (h.member "op" rfl rfl).text
    have values := Literal.eq_of_alike (ha _ (List.mem_singleton_self _))
      (hb _ (List.mem_singleton_self _)) (tagged_alike (h.member "right" rfl rfl)).2
    exact ⟨terms, congr (congrArg compare comparisons) values⟩
  case among.among =>
    have terms := Term.eq_of_alike (h.member "expr" rfl rfl)
    have values := (h.member "list" rfl rfl).ofList fun l hl m hm =>
      Literal.eq_of_alike (ha l hl) (hb m hm)
    have negated := (h.member "negated" rfl rfl).boolean
    exact ⟨terms, congr (congrArg among values) negated⟩
  case between.between =>
    simp only [literals, List.forall_mem_cons] at ha hb
    have terms := Term.eq_of_alike (h.member "expr" rfl rfl)
    have lows := Literal.eq_of_alike ha.1 hb.1 (h.member "low" rfl rfl)
    have highs := Literal.eq_of_alike ha.2.1 hb.2.1 (h.member "high" rfl rfl)
    exact ⟨terms, congr (congrArg between lows) highs⟩
  case like.like =>
    have terms := Term.eq_of_alike (h.member "expr" rfl rfl)
    have patterns := (h.member "pattern" rfl rfl).text
    have negated := (h.member "negated" rfl rfl).boolean
    exact ⟨terms, congr (congrArg like patterns) negated⟩
  case isNull.isNull =>
    have terms := Term.eq_of_alike (h.member "expr" rfl rfl)
    have negated := (h.member "negated" rfl rfl).boolean
    exact ⟨terms, congrArg isNull negated⟩
  all_goals simp [tag] at tags

/-! ## conditions -/

mutual

/-- The constants that terms are tested against. -/
def Condition.literals : Condition → List Literal
  | .test _ check => check.literals
  | .guard .. => []
  | .not c => c.literals
  | .group _ parts => Condition.literalsAll parts

def Condition.literalsAll : List Condition → List Literal
  | [] => []
  | c :: rest => c.literals ++ Condition.literalsAll rest

end

namespace Condition

def tag : Condition → String
  | .test _ check => check.tag
  | .guard .. => "tenant_guard"
  | .not _ => "not"
  | .group connective _ => connective.word

def content : Condition → Json
  | .test t check => check.content t.toJson
  | .guard column tenant => .object [("column", column.toJson), ("tenant_id", .text tenant)]
  | .not c => c.toJson
  | .group _ parts => .array (toJsonAll parts)

theorem toJson_eq (c : Condition) : c.toJson = tagged c.tag c.content := by
  cases c with
  | test t check => rw [toJson, Test.toJson_eq, tag, content]
  | _ => rw [toJson, tag, content]

theorem tag_of_alike {a b : Condition} (h : Alike a.toJson b.toJson) :
    a.tag = b.tag ∧ Alike a.content b.content := by
  rw [toJson_eq, toJson_eq] at h
  exact tagged_alike h

/-- The kinds of conditions have different tags. -/
theorem tag_test_ne (t : Term) (check : Test) {c : Condition} (h : ∀ u other, c ≠ .test u other) :
    (Condition.test t check).tag ≠ c.tag := by
  cases c with
  | test u other => exact absurd rfl (h u other)
  | group k parts => cases check <;> cases k <;> simp [tag, Test.tag, Connective.word]
  | _ => cases check <;> simp [tag, Test.tag]

theorem tag_group_ne (k : Connective) (parts : List Condition) {c : Condition}
    (h : (∃ column tenant, c = .guard column tenant) ∨ ∃ inner, c = .not inner) :
    (Condition.group k parts).tag ≠ c.tag := by
  rcases h with ⟨_, _, rfl⟩ | ⟨_, rfl⟩ <;> cases k <;> simp [tag, Connective.word]

mutual

theorem eq_of_alike : ∀ {a b : Condition}, (∀ l ∈ a.literals, l.IsFinite) →
    (∀ l ∈ b.literals, l.IsFinite) → Alike a.toJson b.toJson → a = b
  | .test t check, .test u other, ha, hb, h => by
    rw [literals] at ha hb
    obtain ⟨tags, contents⟩ := tag_of_alike h
    obtain ⟨rfl, rfl⟩ := Test.eq_of_content ha hb tags contents
    rfl
  | .guard c s, .guard d t, _, _, h => by
    have contents := (tag_of_alike h).2
    have columns := Column.eq_of_alike (contents.member "column" rfl rfl)
    have tenants := (contents.member "tenant_id" rfl rfl).text
    exact congr (congrArg guard columns) tenants
  | .not a, .not b, ha, hb, h => by
    rw [literals] at ha hb
    exact congrArg not (eq_of_alike ha hb (tag_of_alike h).2)
  | .group k as, .group l bs, ha, hb, h => by
    rw [literals] at ha hb
    obtain ⟨tags, contents⟩ := tag_of_alike h
    exact congr (congrArg group (Connective.word_inj tags)) (eq_of_alikeAll ha hb contents.array)
  | .test t check, .guard .., _, _, h | .test t check, .not _, _, _, h
  | .test t check, .group .., _, _, h => absurd (tag_of_alike h).1 (tag_test_ne t check (by simp))
  | .guard .., .test t check, _, _, h | .not _, .test t check, _, _, h
  | .group .., .test t check, _, _, h =>
    absurd (tag_of_alike h).1.symm (tag_test_ne t check (by simp))
  | .guard .., .not _, _, _, h | .not _, .guard .., _, _, h => by
    have tags := (tag_of_alike h).1
    simp [tag] at tags
  | .group k parts, .guard .., _, _, h =>
    absurd (tag_of_alike h).1 (tag_group_ne k parts (.inl ⟨_, _, rfl⟩))
  | .group k parts, .not _, _, _, h =>
    absurd (tag_of_alike h).1 (tag_group_ne k parts (.inr ⟨_, rfl⟩))
  | .guard .., .group k parts, _, _, h =>
    absurd (tag_of_alike h).1.symm (tag_group_ne k parts (.inl ⟨_, _, rfl⟩))
  | .not _, .group k parts, _, _, h =>
    absurd (tag_of_alike h).1.symm (tag_group_ne k parts (.inr ⟨_, rfl⟩))

theorem eq_of_alikeAll : ∀ {as bs : List Condition}, (∀ l ∈ literalsAll as, l.IsFinite) →
    (∀ l ∈ literalsAll bs, l.IsFinite) →
    List.Forall₂ Alike (toJsonAll as) (toJsonAll bs) → as = bs
  | [], [], _, _, _ => rfl
  | a :: as, b :: bs, ha, hb, h => by
    rw [literalsAll, List.forall_mem_append] at ha hb
    rw [toJsonAll, toJsonAll] at h
    obtain ⟨first, rest⟩ := List.forall₂_cons.1 h
    rw [eq_of_alike ha.1 hb.1 first, eq_of_alikeAll ha.2 hb.2 rest]
  | [], _ :: _, _, _, h => by
    rw [toJsonAll, toJsonAll] at h
    cases h
  | _ :: _, [], _, _, h => by
    rw [toJsonAll, toJsonAll] at h
    cases h

end

end Condition

/-! ## queries -/

theorem Relation.eq_of_alike {a b : Relation} (h : Alike a.toJson b.toJson) : a = b := by
  cases a <;> cases b
  case table.table => exact congrArg table (tagged_alike h).2.text
  case subquery.subquery => exact congrArg subquery (tagged_alike h).2.text
  all_goals
    have tags := (tagged_alike h).1
    simp at tags

theorem TableRef.eq_of_alike {a b : TableRef} (h : Alike a.toJson b.toJson) : a = b :=
  TableRef.ext (Relation.eq_of_alike (h.member "relation" rfl rfl)) (h.member "alias" rfl rfl).text

theorem JoinCondition.eq_of_alike {a b : JoinCondition} (h : Alike a.toJson b.toJson) : a = b :=
  JoinCondition.ext (Column.eq_of_alike (h.member "left" rfl rfl))
    (Column.eq_of_alike (h.member "right" rfl rfl))

theorem Join.eq_of_alike {a b : Join} (h : Alike a.toJson b.toJson) : a = b :=
  Join.ext (JoinKind.name_inj (h.member "kind" rfl rfl).text)
    (TableRef.eq_of_alike (h.member "table" rfl rfl))
    ((h.member "on" rfl rfl).ofList fun _ _ _ _ => JoinCondition.eq_of_alike)

theorem SelectItem.eq_of_alike {a b : SelectItem} (h : Alike a.toJson b.toJson) : a = b :=
  SelectItem.ext (Term.eq_of_alike (h.member "expr" rfl rfl)) (h.member "alias" rfl rfl).text

theorem OrderKey.eq_of_alike {a b : OrderKey} (h : Alike a.toJson b.toJson) : a = b := by
  have columns : Term.row (.column ⟨none, a.aliasName⟩) = .row (.column ⟨none, b.aliasName⟩) :=
    Term.eq_of_alike (h.member "expr" rfl rfl)
  simp only [Term.row.injEq, RowTerm.column.injEq, Column.mk.injEq, true_and] at columns
  exact OrderKey.ext columns (h.member "descending" rfl rfl).boolean

theorem Scope.eq_of_name {s t : Scope} (h : s.name = t.name) (tenants : s.tenant? = t.tenant?) :
    s = t := by
  cases s <;> cases t <;> simp_all [name, tenant?]

theorem Scope.member?_tenant (s : Scope) :
    s.toJson.member? "tenant_id" = s.tenant?.map .text := by
  cases s <;> rfl

theorem Scope.eq_of_alike {s t : Scope} (h : Alike s.toJson t.toJson) : s = t := by
  have name (s : Scope) : s.toJson.member? "state" = some (.text s.name) := by
    cases s <;> rfl
  have tenants := Json.figure_member h "tenant_id"
  rw [member?_tenant, member?_tenant, Option.map_map, Option.map_map] at tenants
  exact eq_of_name (h.member "state" (name s) (name t)).text
    (Option.map_injective (fun _ _ => Alike.text) tenants)

namespace Query

def literals (q : Query) : List Literal :=
  (q.selection.map Condition.literals).getD [] ++ (q.having.map Condition.literals).getD []

/-- All numbers that terms are tested against are finite. -/
def IsFinite (q : Query) : Prop := ∀ l ∈ q.literals, l.IsFinite

/-- Clauses that are written alike are the same, if their numbers are finite. -/
theorem eq_of_clause {a b : Option Condition}
    (ha : ∀ l ∈ (a.map Condition.literals).getD [], l.IsFinite)
    (hb : ∀ l ∈ (b.map Condition.literals).getD [], l.IsFinite)
    (h : Alike (.ofOption Condition.toJson a) (.ofOption Condition.toJson b)) : a = b := by
  refine h.ofOption (fun c => c.toJson_eq ▸ not_tagged_null _ _) ?_
  rintro c rfl d rfl
  exact Condition.eq_of_alike ha hb

theorem eq_of_alike {q r : Query} (hq : q.IsFinite) (hr : r.IsFinite)
    (h : Alike q.toJson r.toJson) : q = r := by
  have terms {t u : List Term} (h : Alike (.ofList Term.toJson t) (.ofList Term.toJson u)) :
      t = u := h.ofList fun _ _ _ _ => Term.eq_of_alike
  rw [IsFinite, literals, List.forall_mem_append] at hq hr
  exact Query.ext (h.member "dataset_id" rfl rfl).text
    (Dialect.name_inj (h.member "dialect" rfl rfl).text)
    ((h.member "projection" rfl rfl).ofList fun _ _ _ _ => SelectItem.eq_of_alike)
    (TableRef.eq_of_alike (h.member "from" rfl rfl))
    ((h.member "joins" rfl rfl).ofList fun _ _ _ _ => Join.eq_of_alike)
    (eq_of_clause hq.1 hr.1 (h.member "selection" rfl rfl))
    (terms (h.member "group_by" rfl rfl))
    (eq_of_clause hq.2 hr.2 (h.member "having" rfl rfl))
    ((h.member "order_by" rfl rfl).ofList fun _ _ _ _ => OrderKey.eq_of_alike)
    (Int.ofNat_inj.1 (h.member "limit" rfl rfl).integer)
    ((h.member "offset" rfl rfl).ofOption (fun _ => Alike.not_integer_null _)
      fun _ _ _ _ same => Int.ofNat_inj.1 same.integer)
    (Scope.eq_of_alike (h.member "rls" rfl rfl))

end Query

end AnalyticsGateway.Sql
