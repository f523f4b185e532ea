/-!
# Cutting a text at a separator

Main statements: `cutFirst_eq_some_iff`, `cutLast_append`, `intercalate_cutAll`,
`not_mem_of_mem_cutAll`.
-/

namespace AnalyticsGateway.Text

/-! ## at the first, the last and every separator -/

/-- What stands before and after the first `separator`. -/
def cutFirst (separator : Char) : List Char → Option (List Char × List Char)
  | [] => none
  | c :: rest =>
    if c = separator then some ([], rest)
    else (cutFirst separator rest).map fun cut => (c :: cut.1, cut.2)

def splitFirst (separator : Char) (text : String) : Option (String × String) :=
  (cutFirst separator text.toList).map fun cut => (String.ofList cut.1, String.ofList cut.2)

/-- What stands before and after the last place where `separator` begins. -/
def cutLast (separator : List Char) : List Char → Option (List Char × List Char)
  | [] => none
  | c :: rest =>
    match cutLast separator rest with
    | some (before, after) => some (c :: before, after)
    | none =>
      if separator.isPrefixOf (c :: rest) then some ([], (c :: rest).drop separator.length)
      else none

def splitLast (separator text : String) : Option (String × String) :=
  (cutLast separator.toList text.toList).map fun cut => (String.ofList cut.1, String.ofList cut.2)

/-- The parts between separators, the first one begun with `part`. -/
def cutAll (separator : Char) (part : List Char) : List Char → List (List Char)
  | [] => [part]
  | c :: rest =>
    if c = separator then part :: cutAll separator [] rest else cutAll separator (part ++ [c]) rest

def splitAll (separator : Char) (text : String) : List String :=
  (cutAll separator [] text.toList).map String.ofList

/-- Writes `new` for the first `old`. -/
def replaceFirst (old new : List Char) : List Char → List Char
  | [] => []
  | c :: rest =>
    if old.isPrefixOf (c :: rest) then new ++ (c :: rest).drop old.length
    else c :: replaceFirst old new rest

def replacedFirst (old new text : String) : String :=
  String.ofList (replaceFirst old.toList new.toList text.toList)

/-! ## laws -/

theorem cutFirst_eq_some_iff {separator : Char} {chars before after : List Char} :
    cutFirst separator chars = some (before, after) ↔
      chars = before ++ separator :: after ∧ separator ∉ before := by
  induction chars generalizing before with
  | nil => simp [cutFirst]
  | cons c rest ih =>
    unfold cutFirst
    split
    · rename_i same
      subst same
      cases before <;> simp [eq_comm]
      grind
    · rename_i differ
      cases before with
      | nil => simp [differ]
      | cons b before =>
        simp only [Option.map_eq_some_iff, Prod.exists, Prod.mk.injEq, List.cons.injEq,
          List.cons_append, List.mem_cons, not_or]
        grind

theorem cutFirst_eq_none_iff {separator : Char} {chars : List Char} :
    cutFirst separator chars = none ↔ separator ∉ chars := by
  induction chars with
  | nil => simp [cutFirst]
  | cons c rest ih =>
    by_cases same : c = separator
    · simp [cutFirst, same]
    · simp [cutFirst, same, ih, Ne.symm same]

/-- The text is put together again. -/
theorem eq_of_cutLast {separator chars before after : List Char}
    (h : cutLast separator chars = some (before, after)) :
    chars = before ++ (separator ++ after) := by
  induction chars generalizing before with
  | nil => cases h
  | cons c rest ih =>
    unfold cutLast at h
    split at h
    · rename_i cut
      cases h
      rw [ih cut, List.cons_append]
    · split at h
      · rename_i starts
        cases h
        obtain ⟨tail, eq⟩ := List.isPrefixOf_iff_prefix.1 starts
        rw [← eq, List.drop_left, List.nil_append]
      · cases h

theorem cutLast_eq_none {separator chars : List Char} (h : ¬separator <:+: chars) :
    cutLast separator chars = none := by
  induction chars with
  | nil => rfl
  | cons c rest ih =>
    have notLater : ¬separator <:+: rest := fun inside => h (List.infix_cons inside)
    have notHere : ¬separator.isPrefixOf (c :: rest) = true := fun starts =>
      h (List.isPrefixOf_iff_prefix.1 starts).isInfix
    rw [cutLast, ih notLater]
    exact if_neg notHere

/-- A text is cut at a separator that does not begin again later on, not even within this one. -/
theorem cutLast_append {c : Char} {separator after : List Char}
    (last : ¬c :: separator <:+: separator ++ after) (before : List Char) :
    cutLast (c :: separator) (before ++ (c :: separator ++ after)) = some (before, after) := by
  induction before with
  | nil =>
    have starts : (c :: separator).isPrefixOf (c :: separator ++ after) = true :=
      List.isPrefixOf_iff_prefix.2 (List.prefix_append _ _)
    rw [List.nil_append, List.cons_append, cutLast, cutLast_eq_none last, ← List.cons_append]
    exact (if_pos starts).trans (by rw [List.drop_left])
  | cons b before ih => rw [List.cons_append, cutLast, ih]

theorem cutAll_ne_nil (separator : Char) (part chars : List Char) :
    cutAll separator part chars ≠ [] := by
  induction chars generalizing part with
  | nil => simp [cutAll]
  | cons c rest ih => by_cases same : c = separator <;> simp [cutAll, same, ih]

/-- The parts, joined by the separator, are the text again. -/
theorem intercalate_cutAll (separator : Char) (part chars : List Char) :
    List.intercalate [separator] (cutAll separator part chars) = part ++ chars := by
  induction chars generalizing part with
  | nil => simp [cutAll, List.intercalate]
  | cons c rest ih =>
    unfold cutAll
    split
    · rename_i same
      have joined := ih []
      obtain ⟨first, others, parts⟩ := List.exists_cons_of_ne_nil (cutAll_ne_nil separator [] rest)
      rw [parts] at joined ⊢
      simp_all [List.intercalate, List.intersperse]
    · simp [ih]

/-- No part holds a separator. -/
theorem not_mem_of_mem_cutAll {separator : Char} {part chars cut : List Char}
    (hpart : separator ∉ part) (h : cut ∈ cutAll separator part chars) : separator ∉ cut := by
  induction chars generalizing part with
  | nil => simp_all [cutAll]
  | cons c rest ih =>
    unfold cutAll at h
    split at h
    · rcases List.mem_cons.1 h with rfl | h
      · exact hpart
      · exact ih (by simp) h
    · rename_i differ
      exact ih (by simp [hpart, Ne.symm differ]) h

end AnalyticsGateway.Text
