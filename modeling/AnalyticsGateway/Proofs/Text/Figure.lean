import AnalyticsGateway.Proofs.Decimal.Layout
import AnalyticsGateway.Text.Quoted

/-!
# Quoted texts and figures

The texts by which values are told apart are built of bare words, quoted texts, fields, and lists of
such in brackets. Every character of a quoted text is told by its form, whatever comes after it, and
no form begins with a quote (`quoteChar_inj`). A figure is the structure of such a text, and the
text tells the figure, also when more text follows it (`write_inj`).
-/

namespace AnalyticsGateway.Text

/-! ## code points -/

theorem digitChar_inj : ∀ m < 16, ∀ n < 16, Nat.digitChar m = Nat.digitChar n → m = n := by
  decide

theorem digitChar_ne : ∀ n < 16, Nat.digitChar n ≠ '\x7d' := by
  decide

theorem toDigits_inj {m n : Nat} (h : Nat.toDigits 16 m = Nat.toDigits 16 n) : m = n := by
  induction m using Nat.strongRecOn generalizing n with
  | ind m ih =>
    rw [Nat.toDigits_eq_if (by decide), Nat.toDigits_eq_if (b := 16) (n := n) (by decide)] at h
    split at h <;> split at h
    · rename_i hm hn
      exact digitChar_inj m hm n hn (List.cons.inj h).1
    · exact absurd (List.append_eq_singleton_iff.1 h.symm) (by simp [Nat.toDigits_ne_nil])
    · exact absurd (List.append_eq_singleton_iff.1 h) (by simp [Nat.toDigits_ne_nil])
    · obtain ⟨front, last⟩ := List.append_inj' h rfl
      have quotient := ih (m / 16) (by omega) front
      have rest := digitChar_inj _ (Nat.mod_lt m (by decide)) _ (Nat.mod_lt n (by decide))
        (List.cons.inj last).1
      omega

theorem ne_of_mem_toDigits {c : Char} {n : Nat} (h : c ∈ Nat.toDigits 16 n) : c ≠ '\x7d' := by
  induction n using Nat.strongRecOn with
  | ind n ih =>
    rw [Nat.toDigits_eq_if (by decide)] at h
    split at h
    · rename_i small
      rw [List.mem_singleton.1 h]
      exact digitChar_ne n small
    · rcases List.mem_append.1 h with h | h
      · exact ih (n / 16) (by omega) h
      · rw [List.mem_singleton.1 h]
        exact digitChar_ne _ (Nat.mod_lt _ (by decide))

/-- A code up to its closing brace. -/
theorem hexCode_inj {c d : Char} {r s : List Char}
    (h : hexCode c ++ '\x7d' :: r = hexCode d ++ '\x7d' :: s) : c = d ∧ r = s := by
  have code (c : Char) : ∀ e ∈ hexCode c, (e != '\x7d') = true :=
    fun e he => bne_iff_ne.2 (ne_of_mem_toDigits he)
  have codes := congrArg (List.takeWhile (· != '\x7d')) h
  have rest := congrArg (List.dropWhile (· != '\x7d')) h
  rw [List.takeWhile_append_of_pos (code c), List.takeWhile_append_of_pos (code d)] at codes
  rw [List.dropWhile_append_of_pos (code c), List.dropWhile_append_of_pos (code d)] at rest
  simp only [bne_self_eq_false, Bool.false_eq_true, not_false_eq_true, List.takeWhile_cons_of_neg,
    List.dropWhile_cons_of_neg, List.append_nil, List.cons.injEq, true_and] at codes rest
  exact ⟨Char.toNat_inj.1 (toDigits_inj codes), rest⟩

/-! ## characters -/

/-- The characters that are quoted by a letter, with it. -/
def quotedByLetter : List (Char × Char) :=
  [('\x00', '0'), ('\t', 't'), ('\n', 'n'), ('\r', 'r'), ('"', '"'), ('\\', '\\')]

theorem quoteChar_cases (c : Char) :
    (∃ letter, (c, letter) ∈ quotedByLetter ∧ quoteChar c = ['\\', letter]) ∨
      (quoteChar c = [c] ∧ c ≠ '"' ∧ c ≠ '\\') ∨
      quoteChar c = '\\' :: 'u' :: '\x7b' :: (hexCode c ++ ['\x7d']) := by
  unfold quoteChar
  split
  iterate 6 exact .inl ⟨_, by simp [quotedByLetter], rfl⟩
  split
  · exact .inr (.inl ⟨rfl, by assumption, by assumption⟩)
  · exact .inr (.inr rfl)

/-- The form of a character tells it, whatever comes after. -/
theorem quoteChar_inj {c d : Char} {r s : List Char}
    (h : quoteChar c ++ r = quoteChar d ++ s) : c = d ∧ r = s := by
  have letters : ∀ p ∈ quotedByLetter, ∀ q ∈ quotedByLetter, p.2 = q.2 → p.1 = q.1 := by decide
  have notCode : ∀ p ∈ quotedByLetter, p.2 ≠ 'u' := by decide
  rcases quoteChar_cases c with ⟨l, hl, hc⟩ | ⟨hc, -, hc'⟩ | hc <;>
    rcases quoteChar_cases d with ⟨m, hm, hd⟩ | ⟨hd, -, hd'⟩ | hd <;>
    rw [hc, hd] at h <;> simp only [List.cons_append, List.nil_append, List.append_assoc,
      List.cons.injEq, true_and] at h
  · exact ⟨letters _ hl _ hm h.1, h.2⟩
  · exact absurd h.1.symm hd'
  · exact absurd h.1 (notCode _ hl)
  · exact absurd h.1 hc'
  · exact h
  · exact absurd h.1 hc'
  · exact absurd h.1.symm (notCode _ hm)
  · exact absurd h.1.symm hd'
  · exact hexCode_inj h

theorem quoteChar_ne_quote (c : Char) (r s : List Char) : quoteChar c ++ r ≠ '"' :: s := by
  intro h
  rcases quoteChar_cases c with ⟨_, -, hc⟩ | ⟨hc, ne, -⟩ | hc <;>
    simp_all

end AnalyticsGateway.Text

namespace AnalyticsGateway

/-- How a text is built of its structure: the blanks after separators, and the quoted form of a
character, which tells it whatever comes after it. -/
structure FigureStyle where
  gap : List Char
  quote : Char → List Char
  blank : gap = [] ∨ gap = [' ']
  quote_inj : ∀ {c d r s}, quote c ++ r = quote d ++ s → c = d ∧ r = s
  quote_ne : ∀ c r s, quote c ++ r ≠ '"' :: s

/-- A bare word, which may be empty before a bracket, or a quoted text. -/
inductive Figure.Label where
  | bare (word : List Char)
  | quoted (text : List Char)

inductive Figure.Bracket where
  | round | square | curly

inductive Figure where
  | label (label : Figure.Label)
  | field (name : Figure.Label) (value : Figure)
  | list (name : Figure.Label) (bracket : Figure.Bracket) (parts : List Figure)

namespace Figure

/-! ## texts -/

section Write

variable (style : FigureStyle)

def Label.write : Label → List Char
  | bare word => word
  | quoted text => '"' :: (text.flatMap style.quote ++ ['"'])

def Bracket.opening : Bracket → List Char
  | round => ['(']
  | square => ['[']
  | curly => style.gap ++ '\x7b' :: style.gap

def Bracket.closing : Bracket → List Char
  | round => [')']
  | square => [']']
  | curly => style.gap ++ ['\x7d']

mutual

def write : Figure → List Char
  | .label l => l.write style
  | .field name value => name.write style ++ ':' :: (style.gap ++ write value)
  | .list name bracket parts =>
    name.write style ++ (bracket.opening style ++ (writeParts parts ++ bracket.closing style))

def writeParts : List Figure → List Char
  | [] => []
  | [part] => write part
  | part :: rest => write part ++ ',' :: (style.gap ++ writeParts rest)

end

end Write

/-! ## sound figures -/

/-- A character of bare words. -/
def isWordChar (c : Char) : Bool := c.isAlphanum || ['_', '+', '-', '.'].contains c

theorem isWordChar_of_isNumeral {c : Char} (h : NumberLayout.IsNumeral c) :
    isWordChar c = true := by
  rcases h with h | h
  · simp [isWordChar, h]
  · have cases : c = '+' ∨ c = '-' ∨ c = '.' := by simpa using h
    rcases cases with rfl | rfl | rfl <;> decide

def IsBare (word : List Char) : Prop := ∀ c ∈ word, isWordChar c = true

instance : DecidablePred IsBare := fun _ => decidable_of_iff _ List.all_eq_true

theorem isBare_nil : IsBare [] := nofun

def Label.IsWord : Label → Prop
  | bare word => IsBare word
  | quoted _ => True

mutual

/-- All words are words, and none is empty but before a bracket. -/
def Sound : Figure → Prop
  | .label l => l.IsWord ∧ l ≠ .bare []
  | .field name value => (name.IsWord ∧ name ≠ .bare []) ∧ Sound value
  | .list name _ parts => name.IsWord ∧ SoundAll parts

def SoundAll : List Figure → Prop
  | [] => True
  | part :: rest => Sound part ∧ SoundAll rest

end

/-! ## labels -/

variable {style : FigureStyle}

/-- Text that no label goes on with. -/
def Breaks (r : List Char) : Prop := ∀ c ∈ r.head?, isWordChar c = false ∧ c ≠ '"'

theorem word_inj {v w r s : List Char} (hv : IsBare v) (hw : IsBare w) (hr : Breaks r)
    (hs : Breaks s) (h : v ++ r = w ++ s) : v = w ∧ r = s := by
  have stops {r : List Char} (hr : Breaks r) :
      r.takeWhile isWordChar = [] ∧ r.dropWhile isWordChar = r := by
    cases r with
    | nil => exact ⟨rfl, rfl⟩
    | cons c r => simp [(hr c rfl).1]
  have taken := congrArg (List.takeWhile isWordChar) h
  have dropped := congrArg (List.dropWhile isWordChar) h
  rw [List.takeWhile_append_of_pos hv, List.takeWhile_append_of_pos hw, (stops hr).1,
    (stops hs).1, List.append_nil, List.append_nil] at taken
  rw [List.dropWhile_append_of_pos hv, List.dropWhile_append_of_pos hw, (stops hr).2,
    (stops hs).2] at dropped
  exact ⟨taken, dropped⟩

theorem quoted_inj {v w r s : List Char}
    (h : v.flatMap style.quote ++ '"' :: r = w.flatMap style.quote ++ '"' :: s) :
    v = w ∧ r = s := by
  induction v generalizing w with
  | nil => cases w with
    | nil => exact ⟨rfl, (List.cons.inj h).2⟩
    | cons d w =>
      rw [List.flatMap_cons, List.append_assoc] at h
      exact (style.quote_ne _ _ _ h.symm).elim
  | cons c v ih => cases w with
    | nil =>
      rw [List.flatMap_cons, List.append_assoc] at h
      exact (style.quote_ne _ _ _ h).elim
    | cons d w =>
      rw [List.flatMap_cons, List.append_assoc, List.flatMap_cons, List.append_assoc] at h
      obtain ⟨rfl, tails⟩ := style.quote_inj h
      obtain ⟨rfl, rest⟩ := ih tails
      exact ⟨rfl, rest⟩

theorem Label.quoted_ne_empty (text : List Char) : Label.quoted text ≠ .bare [] := nofun

theorem bare_ne_quoted {w text r s : List Char} (hw : IsBare w) (hr : Breaks r) :
    w ++ r ≠ (Label.quoted text).write style ++ s := by
  intro h
  cases w with
  | nil =>
    rw [List.nil_append] at h
    exact (hr '"' (h ▸ rfl)).2 rfl
  | cons c w =>
    have quote : c = '"' := (List.cons.inj h).1
    exact absurd (hw c List.mem_cons_self) (quote ▸ by decide)

theorem Label.write_inj {l m : Label} {r s : List Char} (hl : l.IsWord) (hm : m.IsWord)
    (hr : Breaks r) (hs : Breaks s) (h : l.write style ++ r = m.write style ++ s) :
    l = m ∧ r = s := by
  cases l with
  | bare v => cases m with
    | bare w =>
      obtain ⟨rfl, rest⟩ := word_inj hl hm hr hs h
      exact ⟨rfl, rest⟩
    | quoted w => exact absurd h (bare_ne_quoted hl hr)
  | quoted v => cases m with
    | bare w => exact absurd h.symm (bare_ne_quoted hm hs)
    | quoted w =>
      simp only [write, List.cons_append, List.append_assoc, List.nil_append, List.cons.injEq,
        true_and] at h
      obtain ⟨rfl, rest⟩ := quoted_inj h
      exact ⟨rfl, rest⟩

theorem Bracket.opening_inj {a b : Bracket} {r s : List Char}
    (h : a.opening style ++ r = b.opening style ++ s) : a = b ∧ r = s := by
  rcases style.blank with gap | gap <;> cases a <;> cases b <;>
    simp_all [opening]

/-! ## ends -/

/-- What may follow a figure: nothing, a comma or a closing bracket. -/
def Ends (r : List Char) : Prop :=
  r = [] ∨ (∃ c ∈ [',', ')', ']', '\x7d'], r.head? = some c) ∨ ∃ rest, r = ' ' :: '\x7d' :: rest

theorem Ends.breaks {r : List Char} (h : Ends r) : Breaks r := by
  intro c hc
  rcases h with rfl | ⟨e, he, h⟩ | ⟨rest, rfl⟩
  · cases hc
  · rw [h] at hc
    cases hc
    simp only [List.mem_cons, List.not_mem_nil, or_false] at he
    rcases he with rfl | rfl | rfl | rfl <;> decide
  · cases hc
    decide

theorem ends_comma (r : List Char) : Ends (',' :: r) := .inr (.inl ⟨',', by simp, rfl⟩)

theorem ends_closing (b : Bracket) (r : List Char) : Ends (b.closing style ++ r) := by
  rcases style.blank with gap | gap <;> cases b <;> simp [Bracket.closing, gap, Ends]

theorem closing_ne_comma (b : Bracket) (r s : List Char) : b.closing style ++ r ≠ ',' :: s := by
  rcases style.blank with gap | gap <;> cases b <;> simp [Bracket.closing, gap]

theorem Ends.ne_colon {r : List Char} (h : Ends r) (s : List Char) : r ≠ ':' :: s := by
  rintro rfl
  simp [Ends] at h

theorem Ends.ne_opening {r : List Char} (h : Ends r) (b : Bracket) (s : List Char) :
    r ≠ b.opening style ++ s := by
  rintro rfl
  rcases style.blank with gap | gap <;> cases b <;> simp [Bracket.opening, gap, Ends] at h

theorem opening_ne_colon (b : Bracket) (r s : List Char) : b.opening style ++ r ≠ ':' :: s := by
  rcases style.blank with gap | gap <;> cases b <;> simp [Bracket.opening, gap]

theorem breaks_colon (r : List Char) : Breaks (':' :: r) := by
  simp [Breaks, isWordChar]

theorem breaks_opening (b : Bracket) (r : List Char) : Breaks (b.opening style ++ r) := by
  rcases style.blank with gap | gap <;> cases b <;> simp [Bracket.opening, gap, Breaks] <;> decide

/-! ## figures -/

def head : Figure → Label
  | .label l => l
  | .field name _ => name
  | .list name _ _ => name

/-- The text of a figure after its label, and the text after it. -/
def tail (style : FigureStyle) (r : List Char) : Figure → List Char
  | .label _ => r
  | .field _ value => ':' :: (style.gap ++ (value.write style ++ r))
  | .list _ bracket parts =>
    bracket.opening style ++ (writeParts style parts ++ (bracket.closing style ++ r))

theorem write_append (f : Figure) (r : List Char) :
    f.write style ++ r = f.head.write style ++ f.tail style r := by
  cases f <;> simp [write, head, tail]

theorem Sound.head {f : Figure} (h : f.Sound) : f.head.IsWord := by
  cases f with
  | label l => exact h.1
  | field name value => exact h.1.1
  | list name bracket parts => exact h.1

theorem breaks_tail (f : Figure) {r : List Char} (h : Ends r) : Breaks (f.tail style r) := by
  cases f with
  | label l => exact h.breaks
  | field name value => exact breaks_colon _
  | list name bracket parts => exact breaks_opening _ _

/-- The parts of a list after one of them, and the text after them. -/
def following (style : FigureStyle) (r : List Char) : List Figure → List Char
  | [] => r
  | parts => ',' :: (style.gap ++ (writeParts style parts ++ r))

theorem writeParts_cons (f : Figure) (rest : List Figure) (r : List Char) :
    writeParts style (f :: rest) ++ r = f.write style ++ following style r rest := by
  cases rest <;> simp [writeParts, following]

theorem ends_following (parts : List Figure) (b : Bracket) (r : List Char) :
    Ends (following style (b.closing style ++ r) parts) := by
  cases parts with
  | nil => exact ends_closing b r
  | cons f rest => exact ends_comma _

/-- A figure does not begin as what follows one does. -/
theorem not_ends_write {f : Figure} (h : f.Sound) (r : List Char) :
    ¬Ends (f.write style ++ r) := by
  intro ends
  have breaks := ends.breaks
  rw [write_append] at ends breaks
  cases hl : f.head with
  | quoted text => exact (breaks '"' (by rw [hl]; rfl)).2 rfl
  | bare word =>
    have letters : IsBare word := by
      have := h.head
      rwa [hl] at this
    cases word with
    | cons c word =>
      have := (breaks c (by rw [hl]; rfl)).1
      rw [letters c List.mem_cons_self] at this
      cases this
    | nil =>
      rw [hl] at ends
      cases f with
      | label l => exact h.2 hl
      | field name value => exact h.1.2 hl
      | list name bracket parts => exact ends.ne_opening _ _ rfl

mutual

/-- The text of a figure tells it, also when more text follows it. -/
theorem write_inj : ∀ {a b : Figure} {r s : List Char}, a.Sound → b.Sound → Ends r → Ends s →
    a.write style ++ r = b.write style ++ s → a = b ∧ r = s
  | a, b, r, s, ha, hb, hr, hs, h => by
    rw [write_append, write_append] at h
    obtain ⟨heads, h⟩ := Label.write_inj ha.head hb.head (breaks_tail a hr) (breaks_tail b hs) h
    match a, b with
    | .label l, .label m => exact ⟨congrArg _ heads, h⟩
    | .label l, .field m value => exact (hr.ne_colon _ h).elim
    | .label l, .list m bracket parts => exact (hr.ne_opening _ _ h).elim
    | .field l value, .label m => exact (hs.ne_colon _ h.symm).elim
    | .list l bracket parts, .label m => exact (hs.ne_opening _ _ h.symm).elim
    | .field l value, .list m bracket parts => exact (opening_ne_colon _ _ _ h.symm).elim
    | .list l bracket parts, .field m value => exact (opening_ne_colon _ _ _ h).elim
    | .field l v, .field m w =>
      cases heads
      obtain ⟨rfl, rest⟩ := write_inj ha.2 hb.2 hr hs
        (List.append_cancel_left (List.cons.inj h).2)
      exact ⟨rfl, rest⟩
    | .list l bracket as, .list m bracket' bs =>
      cases heads
      obtain ⟨rfl, h⟩ := Bracket.opening_inj h
      obtain ⟨rfl, rest⟩ := writeParts_inj ha.2 hb.2 h
      exact ⟨rfl, rest⟩

theorem writeParts_inj : ∀ {as bs : List Figure} {b : Bracket} {r s : List Char}, SoundAll as →
    SoundAll bs → writeParts style as ++ (b.closing style ++ r) =
      writeParts style bs ++ (b.closing style ++ s) → as = bs ∧ r = s
  | [], [], b, r, s, _, _, h => ⟨rfl, List.append_cancel_left h⟩
  | [], g :: bs, b, r, s, _, hg, h => by
    rw [writeParts_cons] at h
    exact (not_ends_write hg.1 _ (h ▸ ends_closing b r)).elim
  | f :: as, [], b, r, s, hf, _, h => by
    rw [writeParts_cons] at h
    exact (not_ends_write hf.1 _ (h ▸ ends_closing b s)).elim
  | f :: as, g :: bs, b, r, s, hf, hg, h => by
    rw [writeParts_cons, writeParts_cons] at h
    obtain ⟨rfl, others⟩ := write_inj hf.1 hg.1 (ends_following as b r) (ends_following bs b s) h
    match as, bs with
    | [], [] => exact ⟨rfl, List.append_cancel_left others⟩
    | [], _ :: _ => exact (closing_ne_comma _ _ _ others).elim
    | _ :: _, [] => exact (closing_ne_comma _ _ _ others.symm).elim
    | f' :: as, g' :: bs =>
      obtain ⟨rest, ends⟩ := writeParts_inj hf.2 hg.2
        (List.append_cancel_left (List.cons.inj others).2)
      exact ⟨congrArg _ rest, ends⟩

end

end Figure

end AnalyticsGateway
