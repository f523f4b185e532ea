import AnalyticsGateway.Json.Writer
import AnalyticsGateway.Proofs.Json.Values
import AnalyticsGateway.Proofs.Text.Figure
import Mathlib.Data.List.Forall2
import Mathlib.Data.List.Induction

/-!
# Written JSON tells its value

The compact text of a value is the text of a figure, which shows the value up to numbers that are
not finite (`figure_of_compact`). Of canonical values, the figure shows what each name of an object
stands for (`figure_member`). Two values are alike if their canonical texts are the same. Then their
parts are alike, and what was written as a text, a number, an option or a list is the same, as far
as its parts are told apart.
-/

namespace AnalyticsGateway

namespace SortedMap

theorem get?_ofList {α : Type} (entries : List (String × α)) (name : String) :
    (ofList entries).get? name = lookup name entries.reverse := by
  induction entries using List.reverseRecOn with
  | nil => rfl
  | append_singleton entries entry ih =>
    rw [ofList_concat, get?_insert, ih, List.reverse_append, List.reverse_singleton,
      List.singleton_append, lookup]

end SortedMap

namespace Json

/-! ## characters -/

/-- The characters that are escaped by a letter, with it. -/
def escapedByLetter : List (Char × Char) :=
  [('"', '"'), ('\\', '\\'), ('\x08', 'b'), ('\x0c', 'f'), ('\n', 'n'), ('\r', 'r'), ('\t', 't')]

theorem escapeChar_cases (c : Char) :
    (∃ letter, (c, letter) ∈ escapedByLetter ∧ escapeChar c = ['\\', letter]) ∨
      (escapeChar c = [c] ∧ c ≠ '"' ∧ c ≠ '\\' ∧ ¬c.toNat < 0x20) ∨
      c.toNat < 0x20 ∧ escapeChar c =
        ['\\', 'u', '0', '0', Nat.digitChar (c.toNat / 16), Nat.digitChar (c.toNat % 16)] := by
  unfold escapeChar
  split
  iterate 7 exact .inl ⟨_, by simp [escapedByLetter], rfl⟩
  split
  · rename_i low
    exact .inr (.inr ⟨low, rfl⟩)
  · exact .inr (.inl ⟨rfl, by assumption, by assumption, by assumption⟩)

/-- The form of a character tells it, whatever comes after. -/
theorem escapeChar_inj {c d : Char} {r s : List Char}
    (h : escapeChar c ++ r = escapeChar d ++ s) : c = d ∧ r = s := by
  have letters : ∀ p ∈ escapedByLetter, ∀ q ∈ escapedByLetter, p.2 = q.2 → p.1 = q.1 := by decide
  have notCode : ∀ p ∈ escapedByLetter, p.2 ≠ 'u' := by decide
  rcases escapeChar_cases c with ⟨l, hl, hc⟩ | ⟨hc, -, hc', -⟩ | ⟨lowc, hc⟩ <;>
    rcases escapeChar_cases d with ⟨m, hm, hd⟩ | ⟨hd, -, hd', -⟩ | ⟨lowd, hd⟩ <;>
    rw [hc, hd] at h <;> simp only [List.cons_append, List.nil_append,
      List.cons.injEq, true_and] at h
  · exact ⟨letters _ hl _ hm h.1, h.2⟩
  · exact absurd h.1.symm hd'
  · exact absurd h.1 (notCode _ hl)
  · exact absurd h.1 hc'
  · exact h
  · exact absurd h.1 hc'
  · exact absurd h.1.symm (notCode _ hm)
  · exact absurd h.1.symm hd'
  · obtain ⟨high, low, rest⟩ := h
    have quotient := Text.digitChar_inj _ (by omega) _ (by omega) high
    have remainder := Text.digitChar_inj _ (by omega) _ (by omega) low
    exact ⟨Char.toNat_inj.1 (by omega), rest⟩

theorem escapeChar_ne_quote (c : Char) (r s : List Char) : escapeChar c ++ r ≠ '"' :: s := by
  intro h
  rcases escapeChar_cases c with ⟨_, -, hc⟩ | ⟨hc, ne, -⟩ | ⟨-, hc⟩ <;>
    simp_all

/-! ## figures -/

/-- No blanks, and texts quoted as they are in JSON. -/
def compactStyle : FigureStyle where
  gap := []
  quote := escapeChar
  blank := .inl rfl
  quote_inj := escapeChar_inj
  quote_ne := escapeChar_ne_quote

mutual

def figure : Json → Figure
  | .null => .label (.bare ['n', 'u', 'l', 'l'])
  | .boolean true => .label (.bare ['t', 'r', 'u', 'e'])
  | .boolean false => .label (.bare ['f', 'a', 'l', 's', 'e'])
  | .integer n => .label (.bare (NumberLayout.integer n))
  | .float x => .label (.bare (writeFloat x))
  | .text value => .label (.quoted value.toList)
  | .array items => .list (.bare []) .square (figureItems items)
  | .object fields => .list (.bare []) .curly (figureFields fields)

def figureItems : List Json → List Figure
  | [] => []
  | item :: rest => item.figure :: figureItems rest

def figureFields : List (String × Json) → List Figure
  | [] => []
  | (name, value) :: rest => .field (.quoted name.toList) value.figure :: figureFields rest

end

theorem sound_label {word : List Char} (h : Figure.IsBare word) (ne : word ≠ []) :
    (Figure.label (.bare word)).Sound :=
  ⟨h, fun empty => ne (Figure.Label.bare.inj empty)⟩

mutual

theorem sound_figure : ∀ json : Json, json.figure.Sound
  | .null | .boolean true | .boolean false => by
    rw [figure]
    exact sound_label (by decide) (by decide)
  | .integer n => by
    rw [figure]
    exact sound_label
      (fun c hc => Figure.isWordChar_of_isNumeral (NumberLayout.isNumeral_integer n c hc))
      (NumberLayout.integer_ne_nil n)
  | .float x => by
    rw [figure, writeFloat]
    split
    · exact sound_label
        (fun c hc => Figure.isWordChar_of_isNumeral (numberLayout.isNumeral_write x c hc))
        (numberLayout.write_ne_empty x)
    · exact sound_label (by decide) (by decide)
  | .text value => by
    rw [figure]
    exact ⟨trivial, Figure.Label.quoted_ne_empty _⟩
  | .array items => by
    rw [figure]
    exact ⟨Figure.isBare_nil, sound_figureItems items⟩
  | .object fields => by
    rw [figure]
    exact ⟨Figure.isBare_nil, sound_figureFields fields⟩

theorem sound_figureItems : ∀ items : List Json, Figure.SoundAll (figureItems items)
  | [] => trivial
  | item :: rest => ⟨sound_figure item, sound_figureItems rest⟩

theorem sound_figureFields : ∀ fields : List (String × Json), Figure.SoundAll (figureFields fields)
  | [] => trivial
  | (name, value) :: rest =>
    ⟨⟨⟨trivial, Figure.Label.quoted_ne_empty name.toList⟩, sound_figure value⟩,
      sound_figureFields rest⟩

end

mutual

theorem write_eq : ∀ json : Json, json.write = json.figure.write compactStyle
  | .null | .boolean true | .boolean false | .integer n | .float x => by
    simp [write, figure, Figure.write, Figure.Label.write]
  | .text value => by
    simp [write, figure, Figure.write, Figure.Label.write, writeText, compactStyle]
  | .array items => by
    rw [write, figure, Figure.write, writeItems_eq]
    simp [Figure.Label.write, Figure.Bracket.opening, Figure.Bracket.closing]
  | .object fields => by
    rw [write, figure, Figure.write, writeFields_eq]
    simp [Figure.Label.write, Figure.Bracket.opening, Figure.Bracket.closing, compactStyle]

theorem writeItems_eq : ∀ items : List Json,
    writeItems items = Figure.writeParts compactStyle (figureItems items) ++ [']']
  | [] => rfl
  | [item] => by rw [writeItems, write_eq item]; rfl
  | item :: next :: rest => by
    rw [writeItems, write_eq item, writeItems_eq (next :: rest)]
    · simp [figureItems, Figure.writeParts, compactStyle]
    · exact nofun

theorem writeFields_eq : ∀ fields : List (String × Json),
    writeFields fields = Figure.writeParts compactStyle (figureFields fields) ++ ['\x7d']
  | [] => rfl
  | [(name, value)] => by
    rw [writeFields, write_eq value]
    simp [figureFields, Figure.writeParts, Figure.write, Figure.Label.write, writeText,
      compactStyle]
  | (name, value) :: next :: rest => by
    rw [writeFields, write_eq value, writeFields_eq (next :: rest)]
    · simp [figureFields, Figure.writeParts, Figure.write, Figure.Label.write, writeText,
        compactStyle]
    · exact nofun

end

/-- The compact text of a value tells its figure. -/
theorem figure_of_compact {a b : Json} (h : a.compact = b.compact) : a.figure = b.figure := by
  have text : a.write = b.write := String.ofList_injective h
  have same : a.figure.write compactStyle ++ [] = b.figure.write compactStyle ++ [] := by
    rw [← write_eq, ← write_eq, text]
  exact (Figure.write_inj (sound_figure a) (sound_figure b) (.inl rfl) (.inl rfl) same).1

/-! ## members of objects -/

/-- What a name of an object stands for, the last of equal names counting. -/
def member? (name : String) : Json → Option Json
  | .object fields => SortedMap.lookup name fields.reverse
  | _ => none

theorem canonicalFields_eq (fields : List (String × Json)) :
    canonicalFields fields = fields.map fun field => (field.1, field.2.canonical) := by
  induction fields with
  | nil => rfl
  | cons field rest ih => rw [canonicalFields, ih, List.map_cons]

theorem lookup_entries (name : String) (fields : List (String × Json)) :
    SortedMap.lookup name (SortedMap.ofList (canonicalFields fields)).entries =
      ((Json.object fields).member? name).map canonical := by
  rw [← SortedMap.get?, SortedMap.get?_ofList, canonicalFields_eq, ← List.map_reverse,
    SortedMap.lookup_map, member?]

theorem lookup_of_figureFields {a b : List (String × Json)}
    (h : figureFields a = figureFields b) (name : String) :
    (SortedMap.lookup name a).map figure = (SortedMap.lookup name b).map figure := by
  induction a generalizing b with
  | nil => cases b with
    | nil => rfl
    | cons field rest => cases h
  | cons field rest ih => cases b with
    | nil => cases h
    | cons field' rest' =>
      obtain ⟨first, rest⟩ := List.cons.inj h
      obtain ⟨names, values⟩ := Figure.field.inj first
      have same : field.1 = field'.1 := String.toList_inj.1 (Figure.Label.quoted.inj names)
      rw [SortedMap.lookup, SortedMap.lookup, same]
      split
      · exact congrArg some values
      · exact ih rest

theorem figure_object (fields : List (String × Json)) :
    (Json.object fields).canonical.figure =
      .list (.bare []) .curly
        (figureFields (SortedMap.ofList (canonicalFields fields)).entries) := by
  rw [canonical, figure]

theorem member?_eq_none {json : Json}
    (h : ∀ parts, json.canonical.figure ≠ .list (.bare []) .curly parts) (name : String) :
    json.member? name = none := by
  cases json with
  | object fields => exact absurd (figure_object fields) (h _)
  | _ => rfl

theorem exists_object {json : Json} {parts : List Figure}
    (h : json.canonical.figure = .list (.bare []) .curly parts) :
    ∃ fields, json = .object fields := by
  cases json with
  | object fields => exact ⟨fields, rfl⟩
  | boolean value => cases value <;> cases h
  | null | integer n | float x | text value | array items => cases h

/-- Canonical values that look alike have members that look alike. -/
theorem figure_member {a b : Json} (h : a.canonical.figure = b.canonical.figure) (name : String) :
    (a.member? name).map (·.canonical.figure) = (b.member? name).map (·.canonical.figure) := by
  by_cases object : ∃ parts, a.canonical.figure = .list (.bare []) .curly parts
  · obtain ⟨parts, ha⟩ := object
    obtain ⟨as, rfl⟩ := exists_object ha
    obtain ⟨bs, rfl⟩ := exists_object (h ▸ ha)
    rw [figure_object, figure_object] at h
    have members := lookup_of_figureFields (Figure.list.inj h).2.2 name
    rwa [lookup_entries, lookup_entries, Option.map_map, Option.map_map] at members
  · rw [member?_eq_none fun parts ha => object ⟨parts, ha⟩,
      member?_eq_none fun parts hb => object ⟨parts, h.trans hb⟩]

/-! ## values that are written alike -/

def Alike (a b : Json) : Prop := a.canonical.figure = b.canonical.figure

theorem alike_of_compact {a b : Json} (h : a.canonical.compact = b.canonical.compact) :
    a.Alike b := figure_of_compact h

namespace Alike

/-! ### plain data -/

theorem text {a b : String} (h : Alike (.text a) (.text b)) : a = b :=
  String.toList_inj.1 (Figure.Label.quoted.inj (Figure.label.inj h))

theorem boolean {a b : Bool} (h : Alike (.boolean a) (.boolean b)) : a = b := by
  have apart : ['t', 'r', 'u', 'e'] ≠ ['f', 'a', 'l', 's', 'e'] := by decide
  cases a <;> cases b
  case false.false | true.true => rfl
  case true.false => exact absurd (Figure.Label.bare.inj (Figure.label.inj h)) apart
  case false.true => exact absurd (Figure.Label.bare.inj (Figure.label.inj h)).symm apart

theorem integer {m n : Int} (h : Alike (.integer m) (.integer n)) : m = n :=
  NumberLayout.integer_inj (Figure.Label.bare.inj (Figure.label.inj h))

/-- Numbers that are finite are told by their written forms. -/
theorem float {x y : Float} (hx : x.isFinite = true) (hy : y.isFinite = true)
    (h : Alike (.float x) (.float y)) : x = y := by
  have words : writeFloat x = writeFloat y := Figure.Label.bare.inj (Figure.label.inj h)
  rw [writeFloat, writeFloat, if_pos hx, if_pos hy] at words
  exact numberLayout.write_inj (String.toList_inj.1 words)

theorem not_text_null (a : String) : ¬Alike (.text a) .null := nofun

theorem not_integer_null (n : Int) : ¬Alike (.integer n) .null := by
  intro h
  have word : NumberLayout.integer n = ['n', 'u', 'l', 'l'] :=
    Figure.Label.bare.inj (Figure.label.inj h)
  have read := Decimal.power?_exponent .plain n
  rw [NumberLayout.exponent, if_neg (by simp [NumberLayout.plain]), word] at read
  cases read

/-! ### parts -/

theorem member {a b x y : Json} (h : Alike a b) (name : String) (ha : a.member? name = some x)
    (hb : b.member? name = some y) : Alike x y := by
  have members := figure_member h name
  rw [ha, hb] at members
  exact Option.some.inj members

theorem array {as bs : List Json} (h : Alike (.array as) (.array bs)) :
    List.Forall₂ Alike as bs := by
  have items : figureItems (canonicalItems as) = figureItems (canonicalItems bs) := by
    simpa [Alike, canonical, figure] using h
  induction as generalizing bs with
  | nil => cases bs with
    | nil => exact .nil
    | cons b bs => cases items
  | cons a as ih => cases bs with
    | nil => cases items
    | cons b bs =>
      obtain ⟨first, rest⟩ := List.cons.inj items
      exact .cons first (ih (by simpa [Alike, canonical, figure] using rest) rest)

section Data

variable {α : Type} {toJson : α → Json}

/-- Lists of which the values are told apart. -/
theorem ofList {as bs : List α} (h : Alike (.ofList toJson as) (.ofList toJson bs))
    (apart : ∀ a ∈ as, ∀ b ∈ bs, Alike (toJson a) (toJson b) → a = b) : as = bs := by
  have items : List.Forall₂ (fun a b => Alike (toJson a) (toJson b)) as bs := by
    simpa [Json.ofList] using array h
  clear h
  induction items with
  | nil => rfl
  | cons first _ ih =>
    rw [apart _ List.mem_cons_self _ List.mem_cons_self first,
      ih fun a ha b hb => apart a (List.mem_cons_of_mem _ ha) b (List.mem_cons_of_mem _ hb)]

/-- Options of which the values are told apart, also from null. -/
theorem ofOption {a b : Option α} (h : Alike (.ofOption toJson a) (.ofOption toJson b))
    (present : ∀ a, ¬Alike (toJson a) .null)
    (apart : ∀ x ∈ a, ∀ y ∈ b, Alike (toJson x) (toJson y) → x = y) : a = b := by
  cases a with
  | none => cases b with
    | none => rfl
    | some y => exact absurd h.symm (present y)
  | some x => cases b with
    | none => exact absurd h (present x)
    | some y => exact congrArg some (apart x rfl y rfl h)

end Data

end Alike

end Json

end AnalyticsGateway
