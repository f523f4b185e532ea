import AnalyticsGateway.Proofs.Text.Figure
import AnalyticsGateway.Sql.SortKey
import Mathlib.Data.List.Forall2

/-!
# Sort keys tell conditions apart

Every sort key is the text of a figure, which shows what the key is of. So literals and conditions
with the same key are the same (`Literal.sortKey_inj`, `Condition.sortKey_inj`).
-/

namespace AnalyticsGateway.Sql

/-! ## keys as figures -/

/-- Blanks after separators and within braces, and texts quoted as they are in keys. -/
def keyStyle : FigureStyle where
  gap := [' ']
  quote := Text.quoteChar
  blank := .inr rfl
  quote_inj := Text.quoteChar_inj
  quote_ne := Text.quoteChar_ne_quote

@[simp] theorem keyStyle_gap : keyStyle.gap = [' '] := rfl

def wordFigure (word : String) : Figure := .label (.bare word.toList)

def quotedFigure (text : String) : Figure := .label (.quoted text.toList)

def applicationFigure (name : String) (argument : Figure) : Figure :=
  .list (.bare name.toList) .round [argument]

def recordFigure (name : String) (fields : List (String × Figure)) : Figure :=
  .list (.bare name.toList) .curly (fields.map fun f => .field (.bare f.1.toList) f.2)

def listFigure (items : List Figure) : Figure := .list (.bare []) .square items

def optionFigure : Option Figure → Figure
  | some f => applicationFigure "Some" f
  | none => wordFigure "None"

/-- The text of a key shows the figure. -/
structure Shows (key : String) (f : Figure) : Prop where
  text : key.toList = f.write keyStyle
  sound : f.Sound

abbrev IsName (name : String) : Prop := Figure.IsBare name.toList

theorem Shows.inj {j k : String} {f g : Figure} (hf : Shows j f) (hg : Shows k g) (h : j = k) :
    f = g := by
  have same : f.write keyStyle ++ [] = g.write keyStyle ++ [] := by
    rw [← hf.text, ← hg.text, h]
  exact (Figure.write_inj hf.sound hg.sound (.inl rfl) (.inl rfl) same).1

theorem shows_word {word : String} (h : IsName word) (ne : word.toList ≠ []) :
    Shows word (wordFigure word) :=
  ⟨rfl, h, fun empty => ne (Figure.Label.bare.inj empty)⟩

theorem shows_quoted (text : String) : Shows (Text.quote text) (quotedFigure text) where
  text := by
    simp [Text.quote, Text.quoteChars, quotedFigure, Figure.write, Figure.Label.write, keyStyle]
  sound := ⟨trivial, Figure.Label.quoted_ne_empty _⟩

theorem shows_application {name key : String} {f : Figure} (hname : IsName name)
    (h : Shows key f) : Shows (applicationKey name key) (applicationFigure name f) where
  text := by
    simp [applicationKey, applicationFigure, Figure.write, Figure.writeParts, Figure.Label.write,
      Figure.Bracket.opening, Figure.Bracket.closing, h.text]
  sound := ⟨hname, h.sound, trivial⟩

theorem writeParts_of_shows {keys : List String} {figures : List Figure}
    (h : List.Forall₂ Shows keys figures) :
    [',', ' '].intercalate (keys.map String.toList) = Figure.writeParts keyStyle figures ∧
      Figure.SoundAll figures := by
  induction h with
  | nil => exact ⟨rfl, trivial⟩
  | @cons key f keys figures first rest ih =>
    refine ⟨?_, first.sound, ih.2⟩
    cases rest with
    | nil => simp [Figure.writeParts, first.text]
    | cons second rest =>
      rw [List.map_cons, List.map_cons, List.intercalate_cons_cons, ← List.map_cons, ih.1,
        first.text]
      simp [Figure.writeParts]

theorem shows_list {keys : List String} {figures : List Figure}
    (h : List.Forall₂ Shows keys figures) : Shows (listKey keys) (listFigure figures) where
  text := by
    have parts := (writeParts_of_shows h).1
    simp [listKey, listFigure, Figure.write, Figure.Label.write, Figure.Bracket.opening,
      Figure.Bracket.closing, parts]
  sound := ⟨Figure.isBare_nil, (writeParts_of_shows h).2⟩

theorem shows_option {key : Option String} {f : Option Figure} (h : Option.Rel Shows key f) :
    Shows (optionKey key) (optionFigure f) := by
  cases h with
  | none => exact shows_word (by decide) (by decide)
  | some h => exact shows_application (by decide) h

/-- A field of a record. -/
structure ShowsField (key : String × String) (f : String × Figure) : Prop where
  name : key.1 = f.1
  isName : IsName f.1 ∧ f.1.toList ≠ []
  value : Shows key.2 f.2

theorem shows_record {name : String} {keys : List (String × String)}
    {fields : List (String × Figure)} (hname : IsName name)
    (h : List.Forall₂ ShowsField keys fields) :
    Shows (recordKey name keys) (recordFigure name fields) := by
  have shown : List.Forall₂ Shows (keys.map fun f => f.1 ++ ": " ++ f.2)
      (fields.map fun f => .field (.bare f.1.toList) f.2) := by
    rw [List.forall₂_map_left_iff, List.forall₂_map_right_iff]
    refine h.imp fun key f h => ⟨?_, ⟨h.isName.1, ?_⟩, h.value.sound⟩
    · simp [Figure.write, Figure.Label.write, h.name, h.value.text]
    · exact fun empty => h.isName.2 (Figure.Label.bare.inj empty)
  obtain ⟨text, sound⟩ := writeParts_of_shows shown
  refine ⟨?_, hname, sound⟩
  rw [List.map_map] at text
  simp [recordKey, recordFigure, Figure.write, Figure.Label.write, Figure.Bracket.opening,
    Figure.Bracket.closing, text]

/-! ## literals -/

def Literal.figure : Literal → Figure
  | boolean b => applicationFigure "Boolean" (wordFigure (booleanKey b))
  | integer n => applicationFigure "Integer" (.label (.bare (NumberLayout.integer n)))
  | float x => applicationFigure "Float" (wordFigure (sortKeyNumbers.write x))
  | text s => applicationFigure "String" (quotedFigure s)

theorem shows_boolean (b : Bool) : Shows (booleanKey b) (wordFigure (booleanKey b)) := by
  cases b <;> exact shows_word (by decide) (by decide)

theorem Literal.shows (l : Literal) : Shows l.sortKey l.figure := by
  cases l with
  | boolean b => exact shows_application (by decide) (shows_boolean b)
  | integer n =>
    refine shows_application (by decide) ⟨String.toList_ofList, fun c hc => ?_, fun empty => ?_⟩
    · exact Figure.isWordChar_of_isNumeral (NumberLayout.isNumeral_integer n c hc)
    · exact NumberLayout.integer_ne_nil n (Figure.Label.bare.inj empty)
  | float x =>
    refine shows_application (by decide) (shows_word (fun c hc => ?_) ?_)
    · exact Figure.isWordChar_of_isNumeral (sortKeyNumbers.isNumeral_write x c hc)
    · exact sortKeyNumbers.write_ne_empty x
  | text s => exact shows_application (by decide) (shows_quoted s)

theorem booleanKey_inj {a b : Bool} (h : (booleanKey a).toList = (booleanKey b).toList) :
    a = b := by
  revert a b
  decide

theorem Literal.figure_inj {a b : Literal} (h : a.figure = b.figure) : a = b := by
  cases a <;> cases b <;>
    simp [figure, applicationFigure, wordFigure, quotedFigure] at h
  case boolean.boolean => exact congrArg boolean (booleanKey_inj h)
  case integer.integer => exact congrArg integer (NumberLayout.integer_inj h)
  case float.float => exact congrArg float (sortKeyNumbers.write_inj (String.toList_inj.1 h))
  case text.text => exact congrArg text (String.toList_inj.1 h)

/-- The sort key of a literal tells it. -/
theorem Literal.sortKey_inj {a b : Literal} (h : a.sortKey = b.sortKey) : a = b :=
  figure_inj (a.shows.inj b.shows h)

/-! ## terms -/

def Column.figure (c : Column) : Figure :=
  recordFigure "ColumnRef"
    [("qualifier", optionFigure (c.qualifier.map quotedFigure)), ("name", quotedFigure c.name)]

def RowTerm.figure : RowTerm → Figure
  | column c => applicationFigure "Column" c.figure
  | fragment sql => applicationFigure "Raw" (quotedFigure sql)

def Term.figure : Term → Figure
  | row t => t.figure
  | truncated grain t =>
    recordFigure "DateTrunc" [("grain", wordFigure (grainKey grain)), ("expr", t.figure)]
  | aggregate f argument =>
    recordFigure "Aggregate"
      [("func", wordFigure (aggregateKey f)), ("arg", optionFigure (argument.map RowTerm.figure))]

theorem shows_map {α : Type} {key : α → String} {f : α → Figure} (h : ∀ x, Shows (key x) (f x))
    (x : Option α) : Shows (optionKey (x.map key)) (optionFigure (x.map f)) := by
  cases x with
  | none => exact shows_option .none
  | some x => exact shows_option (.some (h x))

theorem showsField {name key : String} {f : Figure} (isName : IsName name ∧ name.toList ≠ [])
    (h : Shows key f) : ShowsField (name, key) (name, f) := ⟨rfl, isName, h⟩

theorem Column.shows (c : Column) : Shows c.recordKey c.figure :=
  shows_record (by decide)
    (.cons (showsField (by decide) (shows_map shows_quoted c.qualifier))
      (.cons (showsField (by decide) (shows_quoted c.name)) .nil))

theorem RowTerm.shows (t : RowTerm) : Shows t.sortKey t.figure := by
  cases t with
  | column c => exact shows_application (by decide) c.shows
  | fragment sql => exact shows_application (by decide) (shows_quoted sql)

theorem shows_grain (g : TimeGrain) : Shows (grainKey g) (wordFigure (grainKey g)) := by
  cases g <;> exact shows_word (by decide) (by decide)

theorem shows_aggregate (f : Aggregate) : Shows (aggregateKey f) (wordFigure (aggregateKey f)) := by
  cases f <;> exact shows_word (by decide) (by decide)

theorem Term.shows (t : Term) : Shows t.sortKey t.figure := by
  cases t with
  | row t => exact t.shows
  | truncated grain t =>
    exact shows_record (by decide)
      (.cons (showsField (by decide) (shows_grain grain))
        (.cons (showsField (by decide) t.shows) .nil))
  | aggregate f argument =>
    exact shows_record (by decide)
      (.cons (showsField (by decide) (shows_aggregate f))
        (.cons (showsField (by decide) (shows_map RowTerm.shows argument)) .nil))

theorem quotedFigure_inj {a b : String} (h : quotedFigure a = quotedFigure b) : a = b := by
  simpa [quotedFigure, String.toList_inj] using h

theorem optionFigure_map_inj {α : Type} {f : α → Figure} (hf : ∀ {x y}, f x = f y → x = y)
    {x y : Option α} (h : optionFigure (x.map f) = optionFigure (y.map f)) : x = y := by
  cases x <;> cases y <;> simp [optionFigure, applicationFigure, wordFigure] at h
  case none.none => rfl
  case some.some => exact congrArg some (hf h)

theorem Column.figure_inj {c d : Column} (h : c.figure = d.figure) : c = d := by
  simp only [figure, recordFigure, List.map_cons, List.map_nil, Figure.list.injEq, List.cons.injEq,
    Figure.field.injEq, true_and, and_true] at h
  obtain ⟨qualifier, name⟩ := c
  obtain rfl := optionFigure_map_inj quotedFigure_inj h.1
  obtain rfl := quotedFigure_inj h.2
  rfl

theorem RowTerm.figure_inj {t u : RowTerm} (h : t.figure = u.figure) : t = u := by
  cases t <;> cases u <;> simp [figure, applicationFigure] at h
  case column.column => exact congrArg column (Column.figure_inj h)
  case fragment.fragment => exact congrArg fragment (quotedFigure_inj h)

theorem grainKey_inj {g h : TimeGrain} (same : (grainKey g).toList = (grainKey h).toList) :
    g = h := by
  cases g <;> cases h <;> first | rfl | exact absurd same (by decide)

theorem aggregateKey_inj {f g : Aggregate} (h : (aggregateKey f).toList = (aggregateKey g).toList) :
    f = g := by
  cases f <;> cases g <;> first | rfl | exact absurd h (by decide)

theorem Term.figure_inj {t u : Term} (h : t.figure = u.figure) : t = u := by
  have rows (t : RowTerm) : ∃ name part, t.figure = applicationFigure name part := by
    cases t <;> exact ⟨_, _, rfl⟩
  cases t with
  | row t => cases u with
    | row u => exact congrArg row (RowTerm.figure_inj h)
    | truncated | aggregate =>
      obtain ⟨name, part, ht⟩ := rows t
      simp [figure, ht, applicationFigure, recordFigure] at h
  | truncated grain t => cases u with
    | truncated grain' u =>
      simp [figure, recordFigure, wordFigure] at h
      rw [grainKey_inj h.1, RowTerm.figure_inj h.2]
    | row u =>
      obtain ⟨name, part, hu⟩ := rows u
      simp [figure, hu, applicationFigure, recordFigure] at h
    | aggregate => simp [figure, recordFigure] at h
  | aggregate f argument => cases u with
    | aggregate f' argument' =>
      simp [figure, recordFigure, wordFigure] at h
      rw [aggregateKey_inj h.1, optionFigure_map_inj RowTerm.figure_inj h.2]
    | row u =>
      obtain ⟨name, part, hu⟩ := rows u
      simp [figure, hu, applicationFigure, recordFigure] at h
    | truncated => simp [figure, recordFigure] at h

/-! ## conditions -/

def Test.figure (term : Figure) : Test → Figure
  | compare c value =>
    recordFigure "Compare"
      [("left", term), ("op", wordFigure (comparisonKey c)),
       ("right", applicationFigure "Literal" value.figure)]
  | among values negated =>
    recordFigure "InList"
      [("expr", term), ("list", listFigure (values.map Literal.figure)),
       ("negated", wordFigure (booleanKey negated))]
  | between low high =>
    recordFigure "Between" [("expr", term), ("low", low.figure), ("high", high.figure)]
  | like pattern negated =>
    recordFigure "Like"
      [("expr", term), ("pattern", quotedFigure pattern),
       ("negated", wordFigure (booleanKey negated))]
  | isNull negated =>
    recordFigure "IsNull" [("expr", term), ("negated", wordFigure (booleanKey negated))]

mutual

def Condition.figure : Condition → Figure
  | .test term check => check.figure term.figure
  | .guard column tenant =>
    recordFigure "TenantGuard" [("column", column.figure), ("tenant_id", quotedFigure tenant)]
  | .not c => applicationFigure "Not" c.figure
  | .group connective parts =>
    applicationFigure (connectiveKey connective) (listFigure (Condition.figures parts))

def Condition.figures : List Condition → List Figure
  | [] => []
  | c :: rest => c.figure :: Condition.figures rest

end

theorem shows_comparison (c : Comparison) :
    Shows (comparisonKey c) (wordFigure (comparisonKey c)) := by
  cases c <;> exact shows_word (by decide) (by decide)

theorem Test.shows {term : String} {f : Figure} (h : Shows term f) (t : Test) :
    Shows (t.sortKey term) (t.figure f) := by
  cases t with
  | compare c value =>
    exact shows_record (by decide)
      (.cons (showsField (by decide) h)
        (.cons (showsField (by decide) (shows_comparison c))
          (.cons (showsField (by decide) (shows_application (by decide) value.shows)) .nil)))
  | among values negated =>
    have list : List.Forall₂ Shows (values.map Literal.sortKey) (values.map Literal.figure) := by
      rw [List.forall₂_map_left_iff, List.forall₂_map_right_iff]
      exact List.forall₂_same.2 fun l _ => l.shows
    exact shows_record (by decide)
      (.cons (showsField (by decide) h)
        (.cons (showsField (by decide) (shows_list list))
          (.cons (showsField (by decide) (shows_boolean negated)) .nil)))
  | between low high =>
    exact shows_record (by decide)
      (.cons (showsField (by decide) h)
        (.cons (showsField (by decide) low.shows)
          (.cons (showsField (by decide) high.shows) .nil)))
  | like pattern negated =>
    exact shows_record (by decide)
      (.cons (showsField (by decide) h)
        (.cons (showsField (by decide) (shows_quoted pattern))
          (.cons (showsField (by decide) (shows_boolean negated)) .nil)))
  | isNull negated =>
    exact shows_record (by decide)
      (.cons (showsField (by decide) h)
        (.cons (showsField (by decide) (shows_boolean negated)) .nil))

mutual

theorem Condition.shows : ∀ c : Condition, Shows c.sortKey c.figure
  | .test term check => by
    rw [sortKey, figure]
    exact check.shows term.shows
  | .guard column tenant => by
    rw [sortKey, figure]
    exact shows_record (by decide)
      (.cons (showsField (by decide) column.shows)
        (.cons (showsField (by decide) (shows_quoted tenant)) .nil))
  | .not c => by
    rw [sortKey, figure]
    exact shows_application (by decide) (Condition.shows c)
  | .group connective parts => by
    rw [sortKey, figure]
    exact shows_application (by cases connective <;> decide)
      (shows_list (Condition.shows_all parts))

theorem Condition.shows_all : ∀ parts : List Condition,
    List.Forall₂ Shows (sortKeys parts) (figures parts)
  | [] => .nil
  | c :: rest => by
    rw [sortKeys, figures]
    exact .cons (Condition.shows c) (Condition.shows_all rest)

end

theorem comparisonKey_inj {c d : Comparison}
    (h : (comparisonKey c).toList = (comparisonKey d).toList) : c = d := by
  cases c <;> cases d <;> first | rfl | exact absurd h (by decide)

theorem map_figure_inj {as bs : List Literal}
    (h : as.map Literal.figure = bs.map Literal.figure) : as = bs :=
  List.map_injective_iff.2 (fun _ _ => Literal.figure_inj) h

theorem Test.figure_inj {f g : Figure} {a b : Test} (h : a.figure f = b.figure g) :
    f = g ∧ a = b := by
  cases a <;> cases b <;>
    simp [figure, recordFigure, applicationFigure, wordFigure, listFigure] at h
  case compare.compare =>
    exact ⟨h.1, by rw [comparisonKey_inj h.2.1, Literal.figure_inj h.2.2]⟩
  case among.among => exact ⟨h.1, by rw [map_figure_inj h.2.1, booleanKey_inj h.2.2]⟩
  case between.between =>
    exact ⟨h.1, by rw [Literal.figure_inj h.2.1, Literal.figure_inj h.2.2]⟩
  case like.like => exact ⟨h.1, by rw [quotedFigure_inj h.2.1, booleanKey_inj h.2.2]⟩
  case isNull.isNull => exact ⟨h.1, congrArg isNull (booleanKey_inj h.2)⟩

theorem connectiveKey_inj {c d : Connective}
    (h : (connectiveKey c).toList = (connectiveKey d).toList) : c = d := by
  cases c <;> cases d <;> first | rfl | exact absurd h (by decide)

/-- The names of the keys of tests. -/
def testNames : List String := ["Compare", "InList", "Between", "Like", "IsNull"]

theorem Test.exists_record (f : Figure) (t : Test) :
    ∃ name ∈ testNames, ∃ fields, t.figure f = recordFigure name fields := by
  cases t <;> exact ⟨_, by simp [testNames], _, rfl⟩

theorem Test.figure_ne_guard (f : Figure) (t : Test) (fields : List (String × Figure)) :
    t.figure f ≠ recordFigure "TenantGuard" fields := by
  obtain ⟨name, hname, own, h⟩ := t.exists_record f
  rw [h]
  intro same
  have names : name.toList = "TenantGuard".toList :=
    Figure.Label.bare.inj (Figure.list.inj same).1
  rw [String.toList_inj] at names
  exact absurd hname (names ▸ by decide)

theorem Test.figure_ne_application (f : Figure) (t : Test) (name : String) (part : Figure) :
    t.figure f ≠ applicationFigure name part := by
  obtain ⟨_, _, own, h⟩ := t.exists_record f
  simp [h, recordFigure, applicationFigure]

mutual

theorem Condition.figure_inj : ∀ {a b : Condition}, a.figure = b.figure → a = b
  | .test t a, .test u b, h => by
    rw [figure, figure] at h
    obtain ⟨terms, tests⟩ := Test.figure_inj h
    rw [Term.figure_inj terms, tests]
  | .guard c t, .guard d u, h => by
    simp only [figure, recordFigure, List.map_cons, List.map_nil, Figure.list.injEq,
      List.cons.injEq, Figure.field.injEq, true_and, and_true] at h
    rw [Column.figure_inj h.1, quotedFigure_inj h.2]
  | .not a, .not b, h => by
    simp only [figure, applicationFigure, Figure.list.injEq, List.cons.injEq, true_and,
      and_true] at h
    rw [Condition.figure_inj h]
  | .group c as, .group d bs, h => by
    simp only [figure, applicationFigure, listFigure, Figure.list.injEq, List.cons.injEq,
      Figure.Label.bare.injEq, true_and, and_true] at h
    rw [connectiveKey_inj h.1, Condition.figures_inj h.2]
  | .test .., .guard .., h => by
    rw [figure, figure] at h
    exact (Test.figure_ne_guard _ _ _ h).elim
  | .guard .., .test .., h => by
    rw [figure, figure] at h
    exact (Test.figure_ne_guard _ _ _ h.symm).elim
  | .test .., .not .., h | .test .., .group .., h => by
    rw [figure, figure] at h
    exact (Test.figure_ne_application _ _ _ _ h).elim
  | .not .., .test .., h | .group .., .test .., h => by
    rw [figure, figure] at h
    exact (Test.figure_ne_application _ _ _ _ h.symm).elim
  | .guard .., .not .., h | .guard .., .group .., h
  | .not .., .guard .., h | .group .., .guard .., h => by
    simp [figure, recordFigure, applicationFigure] at h
  | .not _, .group c _, h => by
    cases c <;> simp [figure, applicationFigure, connectiveKey] at h
  | .group c _, .not _, h => by
    cases c <;> simp [figure, applicationFigure, connectiveKey] at h

theorem Condition.figures_inj : ∀ {as bs : List Condition}, figures as = figures bs → as = bs
  | [], [], _ => rfl
  | a :: as, b :: bs, h => by
    rw [figures, figures] at h
    rw [Condition.figure_inj (List.cons.inj h).1, Condition.figures_inj (List.cons.inj h).2]
  | [], _ :: _, h | _ :: _, [], h => by
    simp [figures] at h

end

/-- The sort key of a condition tells it. -/
theorem Condition.sortKey_inj {a b : Condition} (h : a.sortKey = b.sortKey) : a = b :=
  figure_inj (a.shows.inj b.shows h)

end AnalyticsGateway.Sql
