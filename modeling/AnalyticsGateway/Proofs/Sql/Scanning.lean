import AnalyticsGateway.Proofs.Sql.Written

/-!
# No text and no name breaks out

Whatever a text or a name holds, a scanner that follows the rules of its dialect finds the end of it
where it was written and nowhere else, as long as what comes next does not go on with it
(`scan_written`).
-/

namespace AnalyticsGateway

open Sql

/-! ## scanners -/

namespace Sql

variable {hasEscapes keepsWildcards : Bool} {quote : Char}

/-- A name is read like a text without escapes. -/
theorem readName_eq_readText (read chars : List Char) :
    Lexis.readName quote read chars = Lexis.readText false false quote read chars := by
  fun_induction Lexis.readName quote read chars with
  | case1 => rfl
  | case2 read c rest other ih => rw [ih, Lexis.readText.eq_def _ _ _ read]; simp [other]
  | case3 read c rest' other ih => simp_all [Lexis.readText]
  | case4 => simp_all [Lexis.readText]
  | case5 => simp_all [Lexis.readText]

theorem length_of_readText {read chars rest : List Char} {value : String}
    (h : Lexis.readText hasEscapes keepsWildcards quote read chars = some (value, rest)) :
    rest.length < chars.length := by
  fun_induction Lexis.readText hasEscapes keepsWildcards quote read chars <;> grind

end Sql

namespace Dialect

/-- The text at the start of what is read, and what follows it. -/
def scanText? (d : Dialect) (keepsWildcards : Bool) : List Char → Option (String × List Char)
  | '\'' :: rest => Lexis.readText d.hasBackslashEscapes keepsWildcards '\'' [] rest
  | _ => none

/-- The name at the start of what is read, and what follows it: a name between quotes, or a plain
one up to where it ends. -/
def scanName? (d : Dialect) (chars : List Char) : Option (String × List Char) :=
  if chars.head? = some d.nameQuote then Lexis.readName d.nameQuote [] chars.tail
  else
    let name := String.ofList (chars.takeWhile isNamePart)
    if isPlainName name then some (name, chars.dropWhile isNamePart) else none

theorem length_of_scanName? {d : Dialect} {chars rest : List Char} {name : String}
    (h : d.scanName? chars = some (name, rest)) : rest.length ≤ chars.length := by
  unfold scanName? at h
  simp only at h
  split at h
  · rw [readName_eq_readText] at h
    have shorter := length_of_readText h
    rw [List.length_tail] at shorter
    omega
  · split at h
    · cases h
      exact (List.dropWhile_suffix _).length_le
    · cases h

/-- The names at the start of what is read, each with a point before the next. -/
def scanObject? (d : Dialect) (chars : List Char) : Option (List String × List Char) :=
  match _scanned : d.scanName? chars with
  | none => none
  | some (name, '.' :: rest) => (d.scanObject? rest).map fun scan => (name :: scan.1, scan.2)
  | some (name, rest) => some ([name], rest)
termination_by chars.length
decreasing_by
  have shorter := length_of_scanName? ‹_›
  rw [List.length_cons] at shorter
  omega

variable {d : Dialect} {chars rest : List Char} {name : String}

theorem scanObject?_of_point (scanned : d.scanName? chars = some (name, '.' :: rest)) :
    d.scanObject? chars = (d.scanObject? rest).map fun scan => (name :: scan.1, scan.2) := by
  rw [scanObject?]
  split <;> simp_all

theorem scanObject?_of_end (scanned : d.scanName? chars = some (name, rest))
    (ends : rest.head? ≠ some '.') : d.scanObject? chars = some ([name], rest) := by
  rw [scanObject?]
  split
  · simp_all
  · rename_i point
    cases scanned.symm.trans point
    exact absurd rfl ends
  · simp_all

/-- Names of parts begin with a name. -/
theorem exists_scanName?_of_scanObject? {names : List String}
    (h : d.scanObject? chars = some (names, rest)) :
    ∃ first more, d.scanName? chars = some (first, more) ∧ rest.length ≤ more.length := by
  fun_induction scanObject? d chars generalizing names with
  | case1 chars failed => cases h
  | case2 chars first others scanned ih =>
    obtain ⟨⟨names, left⟩, scannedOthers, eq⟩ := Option.map_eq_some_iff.1 h
    cases eq
    obtain ⟨second, more, scannedSecond, shorter⟩ := ih scannedOthers
    refine ⟨first, _, scanned, shorter.trans ?_⟩
    exact (length_of_scanName? scannedSecond).trans (Nat.le_succ _)
  | case3 chars first more _ scanned =>
    cases h
    exact ⟨first, _, scanned, le_rfl⟩

/-- Whether a character after a name goes on with it, as a part of a plain name or as the second of
two quotes. -/
def goesOnName (d : Dialect) (name : String) (c : Char) : Bool :=
  if isPlainName name then isNamePart c else c = d.nameQuote

end Dialect

/-! ## where a scan ends -/

namespace Sql

/-- What is written is scanned as this value, and nothing more with it but by a character that goes
on with it. -/
structure Scans {α : Type} (scan : List Char → Option (α × List Char)) (written : List Char)
    (value : α) (goesOn : Char → Prop) : Prop where
  ends : ∀ rest, (∀ c ∈ rest.head?, ¬goesOn c) → scan (written ++ rest) = some (value, rest)
  continues : ∀ c rest, goesOn c → ∀ result ∈ scan (written ++ c :: rest),
    result.2.length ≤ rest.length

theorem Scans.iff {α : Type} {scan : List Char → Option (α × List Char)} {written : List Char}
    {value : α} {goesOn : Char → Prop} (h : Scans scan written value goesOn) (rest : List Char) :
    scan (written ++ rest) = some (value, rest) ↔ ∀ c ∈ rest.head?, ¬goesOn c := by
  refine ⟨fun scanned c head more => ?_, h.ends rest⟩
  obtain ⟨tail, rfl⟩ := List.head?_eq_some_iff.1 (Option.mem_def.1 head)
  have shorter := h.continues c tail more _ scanned
  rw [List.length_cons] at shorter
  omega

/-! ## texts -/

section Quotes

variable {hasEscapes keepsWildcards : Bool} {quote : Char}

theorem readText_quotes (read rest : List Char) :
    Lexis.readText hasEscapes keepsWildcards quote read (quote :: quote :: rest) =
      Lexis.readText hasEscapes keepsWildcards quote (quote :: read) rest := by
  rw [Lexis.readText, if_pos rfl]
  exact if_pos rfl

theorem readText_other {c : Char} (ne : c ≠ quote) (unescaped : ¬(hasEscapes = true ∧ c = '\\'))
    (read rest : List Char) :
    Lexis.readText hasEscapes keepsWildcards quote read (c :: rest) =
      Lexis.readText hasEscapes keepsWildcards quote (c :: read) rest := by
  rw [Lexis.readText.eq_def]
  simp only
  rw [if_neg ne, if_neg (by simpa using unescaped)]

/-- A character that is doubled if it is the quote is read as itself. -/
theorem readText_doubled {c : Char} (unescaped : ¬(hasEscapes = true ∧ c = '\\'))
    (read rest : List Char) :
    Lexis.readText hasEscapes keepsWildcards quote read
        ((if c = quote then [quote, quote] else [c]) ++ rest) =
      Lexis.readText hasEscapes keepsWildcards quote (c :: read) rest := by
  split
  · rename_i same
    rw [same]
    exact readText_quotes read rest
  · rename_i ne
    exact readText_other ne unescaped read rest

/-- Characters of which each is read as itself, one after the other. -/
theorem readText_flatMap {written : Char → List Char}
    (reads : ∀ c read rest,
      Lexis.readText hasEscapes keepsWildcards quote read (written c ++ rest) =
        Lexis.readText hasEscapes keepsWildcards quote (c :: read) rest)
    (chars read rest : List Char) :
    Lexis.readText hasEscapes keepsWildcards quote read (chars.flatMap written ++ rest) =
      Lexis.readText hasEscapes keepsWildcards quote (chars.reverse ++ read) rest := by
  induction chars generalizing read with
  | nil => rfl
  | cons c chars ih =>
    rw [List.flatMap_cons, List.append_assoc, reads, ih, List.reverse_cons, List.append_assoc]
    rfl

/-- The quote that closes a text, unless a second one follows. -/
theorem readText_closing {written : Char → List Char}
    (reads : ∀ c read rest,
      Lexis.readText hasEscapes keepsWildcards quote read (written c ++ rest) =
        Lexis.readText hasEscapes keepsWildcards quote (c :: read) rest) (value : String) :
    Scans (Lexis.readText hasEscapes keepsWildcards quote [])
      (value.toList.flatMap written ++ [quote]) value (· = quote) where
  ends rest stops := by
    rw [List.append_assoc, readText_flatMap reads, List.append_nil, List.singleton_append,
      Lexis.readText.eq_def]
    cases rest with
    | nil => simp
    | cons d rest =>
      have ne : d ≠ quote := stops d rfl
      simp [ne]
  continues c rest same result scanned := by
    rw [List.append_assoc, readText_flatMap reads, same, List.append_nil, List.singleton_append,
      readText_quotes] at scanned
    exact (length_of_readText scanned).le

end Quotes

theorem scans_text (d : Dialect) (keepsWildcards : Bool) (value : String) :
    Scans (d.scanText? keepsWildcards) (writeText d value) value (· = '\'') := by
  have quoted {written : Char → List Char}
      (reads : ∀ c read rest, Lexis.readText d.hasBackslashEscapes keepsWildcards '\'' read
        (written c ++ rest) = Lexis.readText d.hasBackslashEscapes keepsWildcards '\'' (c :: read)
          rest) :
      Scans (d.scanText? keepsWildcards) ('\'' :: value.toList.flatMap written ++ ['\'']) value
        (· = '\'') :=
    have inner := readText_closing reads value
    ⟨inner.ends, inner.continues⟩
  unfold writeText doubled
  simp only
  split
  · rw [List.flatMap_assoc]
    refine quoted fun c read rest => ?_
    split
    · -- of two backslashes the second one is read as itself
      rename_i escapes same
      rw [same, escapes, Lexis.readText.eq_def]
      simp [Lexis.escaped]
    · rename_i other
      rw [List.flatMap_singleton]
      exact readText_doubled (fun both => other both.2) read rest
  · rename_i noEscapes
    exact quoted fun c => readText_doubled fun both => noEscapes both.1

/-! ## names -/

theorem scanName?_plain (d : Dialect) {name : String} (plain : Dialect.isPlainName name = true)
    (rest : List Char) :
    d.scanName? (name.toList ++ rest) =
      let longest := String.ofList (name.toList ++ rest.takeWhile Dialect.isNamePart)
      if Dialect.isPlainName longest then some (longest, rest.dropWhile Dialect.isNamePart)
      else none := by
  obtain ⟨⟨first, others, chars, -⟩, parts, -⟩ := of_isPlainName plain
  have unquoted : (name.toList ++ rest).head? ≠ some d.nameQuote := by
    intro quoted
    rw [chars, List.cons_append, List.head?_cons, Option.some.injEq] at quoted
    have part := parts first (chars ▸ List.mem_cons_self)
    rw [quoted] at part
    cases d <;> exact absurd part (by decide)
  rw [Dialect.scanName?, if_neg unquoted, List.takeWhile_append_of_pos parts,
    List.dropWhile_append_of_pos parts]

theorem scans_name (d : Dialect) (name : String) :
    Scans d.scanName? (writeName d name) name (d.goesOnName name · = true) := by
  unfold writeName Dialect.goesOnName
  split
  · rename_i plain
    refine ⟨fun rest stops => ?_, fun c rest part result scanned => ?_⟩
    · have none_taken : rest.takeWhile Dialect.isNamePart = [] := by
        cases rest with
        | nil => rfl
        | cons c rest => exact List.takeWhile_cons_of_neg (stops c rfl)
      have none_dropped : rest.dropWhile Dialect.isNamePart = rest := by
        cases rest with
        | nil => rfl
        | cons c rest => exact List.dropWhile_cons_of_neg (stops c rfl)
      rw [scanName?_plain d plain, none_taken, none_dropped, List.append_nil, String.ofList_toList]
      exact if_pos plain
    · rw [scanName?_plain d plain, List.dropWhile_cons_of_pos part] at scanned
      obtain ⟨-, scanned⟩ := Option.ite_none_right_eq_some.1 (Option.mem_def.1 scanned)
      cases scanned
      exact (List.dropWhile_suffix _).length_le
  · have inner : Scans (Lexis.readText false false d.nameQuote [])
        (doubled d.nameQuote name.toList ++ [d.nameQuote]) name (· = d.nameQuote) :=
      readText_closing (fun c => readText_doubled (by simp)) name
    have quoted (rest : List Char) :
        d.scanName? (d.nameQuote :: doubled d.nameQuote name.toList ++ [d.nameQuote] ++ rest) =
          Lexis.readText false false d.nameQuote []
            (doubled d.nameQuote name.toList ++ [d.nameQuote] ++ rest) := by
      rw [← readName_eq_readText]
      exact if_pos rfl
    refine ⟨fun rest stops => ?_, fun c rest same result scanned => ?_⟩
    · rw [quoted]
      exact inner.ends rest fun c head => by simpa using stops c head
    · rw [quoted] at scanned
      exact inner.continues c rest (by simpa using same) result scanned

/-! ## names of parts -/

/-- A name of parts is the last one and those before it, each with a point. -/
theorem writeObject_cons (d : Dialect) (part : String) {parts : List String} (ne : parts ≠ []) :
    (separated "." ((part :: parts).map fun part => [Piece.name part])).flatMap (Piece.write d) =
      writeName d part ++ '.' ::
        (separated "." (parts.map fun part => [Piece.name part])).flatMap (Piece.write d) := by
  obtain ⟨next, others, rfl⟩ := List.exists_cons_of_ne_nil ne
  simp [separated, Piece.write]

theorem goesOnName_point (d : Dialect) (name : String) : d.goesOnName name '.' = false := by
  unfold Dialect.goesOnName
  split
  · decide
  · cases d <;> decide

/-- A name that no point follows is a name of one part. -/
theorem scans_alone (d : Dialect) (name : String) :
    Scans d.scanObject? (writeName d name) [name]
      (fun c => c = '.' ∨ d.goesOnName name c = true) := by
  have alone := scans_name d name
  refine ⟨fun rest stops => ?_, fun c rest more result scanned => ?_⟩
  · refine Dialect.scanObject?_of_end (alone.ends rest fun c head on => ?_) fun point => ?_
    · exact stops c head (.inr on)
    · exact stops '.' point (.inl rfl)
  · by_cases on : d.goesOnName name c = true
    · obtain ⟨first, left, scannedFirst, shorter⟩ :=
        Dialect.exists_scanName?_of_scanObject? scanned
      exact shorter.trans (alone.continues c rest on _ scannedFirst)
    · have point : c = '.' := more.resolve_right on
      subst point
      have first := alone.ends ('.' :: rest) fun c head => by
        cases head
        exact on
      rw [Dialect.scanObject?_of_point first] at scanned
      obtain ⟨scan, others, rfl⟩ := Option.map_eq_some_iff.1 (Option.mem_def.1 scanned)
      obtain ⟨next, left, scannedNext, shorter⟩ := Dialect.exists_scanName?_of_scanObject? others
      exact shorter.trans (Dialect.length_of_scanName? scannedNext)

theorem scans_parts (d : Dialect) (parts : List String) (last : String) :
    Scans d.scanObject?
      ((separated "." ((parts ++ [last]).map fun part => [Piece.name part])).flatMap
        (Piece.write d))
      (parts ++ [last]) (fun c => c = '.' ∨ d.goesOnName last c = true) := by
  induction parts with
  | nil =>
    have written : (separated "." (([] ++ [last]).map fun part => [Piece.name part])).flatMap
        (Piece.write d) = writeName d last := by simp [separated, Piece.write]
    rw [written]
    exact scans_alone d last
  | cons part parts ih =>
    have point (rest : List Char) : d.scanName? (writeName d part ++ '.' :: rest) =
        some (part, '.' :: rest) :=
      (scans_name d part).ends ('.' :: rest) fun c head => by
        cases head
        rw [goesOnName_point]
        exact Bool.false_ne_true
    rw [List.cons_append, writeObject_cons d part (List.append_ne_nil_of_right_ne_nil _ (by simp))]
    refine ⟨fun rest stops => ?_, fun c rest more result scanned => ?_⟩
    · rw [List.append_assoc, List.cons_append, Dialect.scanObject?_of_point (point _),
        ih.ends rest stops]
      rfl
    · rw [List.append_assoc, List.cons_append, Dialect.scanObject?_of_point (point _)] at scanned
      obtain ⟨scan, others, rfl⟩ := Option.map_eq_some_iff.1 (Option.mem_def.1 scanned)
      exact ih.continues c rest more scan others

end Sql

/-- A text, a name and a name of parts are each scanned as what they were written from, and all that
comes next is left, exactly if it does not go on with them: a text with a second quote, a quoted
name with a second quote, a plain name with a part of a name, a name of parts with a point. -/
theorem scan_written (d : Dialect) (keepsWildcards : Bool) (s : String) (rest : List Char) :
    (d.scanText? keepsWildcards (writeText d s ++ rest) = some (s, rest) ↔
        ∀ c ∈ rest.head?, c ≠ '\'') ∧
      (d.scanName? (writeName d s ++ rest) = some (s, rest) ↔
        ∀ c ∈ rest.head?, d.goesOnName s c = false) ∧
      (d.scanObject? ((objectName s).flatMap (Piece.write d) ++ rest) =
          some (Text.splitAll '.' s, rest) ↔
        ∀ c ∈ rest.head?, c ≠ '.' ∧
          ∀ last ∈ (Text.splitAll '.' s).getLast?, d.goesOnName last c = false) := by
  refine ⟨(scans_text d keepsWildcards s).iff rest, ?_, ?_⟩
  · rw [(scans_name d s).iff rest]
    simp only [Bool.not_eq_true]
  · have ne : Text.splitAll '.' s ≠ [] := fun none =>
      Text.cutAll_ne_nil '.' [] s.toList (List.map_eq_nil_iff.1 none)
    obtain ⟨parts, last, eq⟩ := (List.eq_nil_or_concat' _).resolve_left ne
    rw [objectName, eq, (scans_parts d parts last).iff rest]
    simp

/-- A backslash and a quote at the end of a text. -/
example : String.ofList (writeText .mysql "it\\'") = "'it\\\\'''" ∧
    Dialect.mysql.scanText? true "'it\\\\''' OR 1 = 1".toList =
      some ("it\\'", " OR 1 = 1".toList) := by
  decide +kernel

end AnalyticsGateway
