import AnalyticsGateway.Json.Reader
import AnalyticsGateway.Proofs.Json.Tokens

/-!
# Written JSON is read back

A value that fits a form is read from its compact text as it was written (`readAs_compact`), if its
numbers are told by what is written of them. What the reader does with a part of a text does not
depend on what stands behind it (`Runs`), so the runs over the parts of a value make up the run over
its text.
-/

namespace AnalyticsGateway.Json

/-! ## runs of the reader -/

/-- What the reader expects, and the containers that are open. -/
abbrev Reading := Expected × List Frame

theorem scan_read (bound : Nat) (read : List PlacedToken) (start : Position) (chars : List Char) :
    scan bound read start chars = read.reverse ++ scan bound [] start chars := by
  induction bound generalizing read start chars with
  | zero => simp [scan]
  | succ bound ih =>
    cases chars with
    | nil => simp [scan]
    | cons c rest =>
      rw [scan, scan]
      split
      · exact ih ..
      · simp only
        rw [ih, ih [_]]
        simp

/-- Some characters take the reader from one state to another, whatever is behind them, within what
may be. -/
def Runs (ahead : List Char → Prop) (chars : List Char) (a b : Reading) : Prop :=
  ∀ rest, ahead rest → ∀ bound start, (chars ++ rest).length ≤ bound →
    ∃ bound' stop, rest.length ≤ bound' ∧
      ofTokens a.1 a.2 (scan bound [] start (chars ++ rest)) =
        ofTokens b.1 b.2 (scan bound' [] stop rest)

/-- The token that is one mark. -/
def markOf? : Char → Option Token
  | '[' => some .openArray
  | ']' => some .closeArray
  | '{' => some .openObject
  | '}' => some .closeObject
  | ',' => some .comma
  | ':' => some .colon
  | _ => none

namespace Runs

variable {ahead ahead' : List Char → Prop} {a b c : Reading}

theorem append {chars chars' : List Char} (first : Runs ahead chars a b)
    (second : Runs ahead' chars' b c) (h : ∀ rest, ahead' rest → ahead (chars' ++ rest)) :
    Runs ahead' (chars ++ chars') a c := by
  intro rest behind bound start enough
  rw [List.append_assoc] at enough ⊢
  obtain ⟨bound₁, stop₁, enough₁, eq₁⟩ := first (chars' ++ rest) (h rest behind) bound start enough
  obtain ⟨bound₂, stop₂, enough₂, eq₂⟩ := second rest behind bound₁ stop₁ enough₁
  exact ⟨bound₂, stop₂, enough₂, eq₁.trans eq₂⟩

theorem ofTokens_cons {t : PlacedToken} {tokens : List PlacedToken} (other : t.token ≠ .ending)
    (h : step a.1 a.2 t = .ok b) : ofTokens a.1 a.2 (t :: tokens) = ofTokens b.1 b.2 tokens := by
  rw [ofTokens.eq_def]
  simp only
  split
  · rename_i ending
    exact absurd ending other
  · rw [h]

/-- One token, and what the reader does with it. -/
theorem token {char : Char} {chars : List Char} {token : Token} (shown : isSpace char = false)
    (steps : ∀ t : PlacedToken, t.token = token → step a.1 a.2 t = .ok b)
    (other : token ≠ .ending)
    (scanned : ∀ rest, ahead rest →
      ∀ start, scanToken start char (chars ++ rest) = (token, rest)) :
    Runs ahead (char :: chars) a b := by
  intro rest behind bound start enough
  obtain _ | bound := bound
  · cases enough
  rw [List.cons_append, scan, shown, if_neg Bool.false_ne_true, scanned rest behind start]
  simp only
  rw [scan_read]
  refine ⟨bound, _, ?_, ofTokens_cons other (steps _ rfl)⟩
  simp only [List.length_cons, List.length_append] at enough
  omega

/-- A bracket, a comma or a colon, behind which anything may be. -/
theorem mark {char : Char} {token : Token} (h : markOf? char = some token)
    (steps : ∀ t : PlacedToken, t.token = token → step a.1 a.2 t = .ok b) :
    Runs ahead [char] a b := by
  unfold markOf? at h
  split at h <;> cases h <;> exact .token rfl steps nofun fun _ _ _ => rfl

theorem mark_append {char : Char} {chars : List Char} {token : Token}
    (h : markOf? char = some token)
    (steps : ∀ t : PlacedToken, t.token = token → step a.1 a.2 t = .ok b)
    (behind : Runs ahead chars b c) : Runs ahead (char :: chars) a c :=
  (mark h steps : Runs (fun _ => True) _ _ _).append behind fun _ _ => trivial

end Runs

/-! ## plain values -/

/-- Texts, words, and the numbers that are told by what is written of them. -/
inductive IsTold : Json → Prop
  | null : IsTold null
  | boolean (value : Bool) : IsTold (boolean value)
  | integer {n : Int} (low : -wordSize 63 ≤ n) (high : n < wordSize 64) : IsTold (integer n)
  | float {x : Float} (told : Numeral.scan (writeFloat x) = .ok (some (.float x), [])) :
      IsTold (float x)
  | text (value : String) : IsTold (text value)

theorem IsTold.ofNat {n : Nat} (h : n < wordSize 64) : IsTold (ofNat n) :=
  .integer (by omega) (Int.ofNat_lt.2 h)

/-- The token of a plain value. -/
def tokenOf : Json → Token
  | .text value => .text (.ok value)
  | json => .scalar (.ok json)

theorem tokenOf_ne_ending (json : Json) : tokenOf json ≠ .ending := by
  cases json <;> nofun

theorem tokenOf_ne_closeArray (json : Json) : tokenOf json ≠ .closeArray := by
  cases json <;> nofun

theorem scanToken_number {start : Position} {char : Char} {rest others : List Char} {value : Json}
    (numeral : char = '-' ∨ char.isDigit = true)
    (h : Numeral.scan (char :: rest) = .ok (some value, others)) :
    scanToken start char rest = (.scalar (.ok value), others) := by
  have starts : (char = '-' || char.isDigit) = true := by simpa using numeral
  rw [scanToken.eq_def]
  simp only
  split
  iterate 10 exact absurd numeral (by decide)
  rw [if_pos starts, h]

theorem Numeral.head_of_scan {chars others : List Char} {value : Option Json}
    (h : Numeral.scan chars = .ok (value, others)) :
    ∃ char rest, chars = char :: rest ∧ (char = '-' ∨ char.isDigit = true) := by
  obtain ⟨w, a, f, b, p, hw, -⟩ := Numeral.scan_eq_ok.1 h
  rcases chars with _ | ⟨char, rest⟩
  · cases hw
  refine ⟨char, rest, rfl, ?_⟩
  by_contra other
  obtain ⟨notMinus, notDigit⟩ := not_or.1 other
  have unsigned : Numeral.minus (char :: rest) = (false, char :: rest) := by
    rw [Numeral.minus.eq_def]
    split
    · rename_i eq
      exact absurd (List.cons.inj eq).1 notMinus
    · rfl
  rw [unsigned, Numeral.whole] at hw
  · rw [if_neg notDigit] at hw
    cases hw
  · rintro rfl
    exact absurd rfl notDigit

/-- A plain value is one token. -/
theorem IsTold.runs {json : Json} (told : IsTold json) {a b : Reading}
    (steps : ∀ t : PlacedToken, t.token = tokenOf json → step a.1 a.2 t = .ok b) :
    Runs Delimited json.write a b := by
  have number {chars : List Char} {json : Json}
      (h : Numeral.scan chars = .ok (some json, [])) (eq : tokenOf json = .scalar (.ok json))
      (steps : ∀ t : PlacedToken, t.token = tokenOf json → step a.1 a.2 t = .ok b) :
      Runs Delimited chars a b := by
    obtain ⟨char, rest, rfl, numeral⟩ := Numeral.head_of_scan h
    refine .token ?_ steps (tokenOf_ne_ending json) fun behind delimited start => ?_
    · rcases numeral with rfl | digit
      · rfl
      · by_contra space
        simp only [isSpace, Bool.not_eq_false, Bool.or_eq_true, decide_eq_true_eq] at space
        rcases space with ((rfl | rfl) | rfl) | rfl <;> cases digit
    · rw [eq]
      exact scanToken_number numeral (Numeral.scan_append delimited h)
  cases told with
  | null => exact .token rfl steps (tokenOf_ne_ending _) fun _ _ _ => rfl
  | boolean value =>
    cases value <;> exact .token rfl steps (tokenOf_ne_ending _) fun _ _ _ => rfl
  | integer low high => exact number (Numeral.scan_integer low high) rfl steps
  | float told => exact number told rfl steps
  | text value =>
    refine .token rfl steps (tokenOf_ne_ending (.text value)) fun rest _ start => ?_
    change scanToken start '"' (_ ++ ['"'] ++ rest) = _
    rw [List.append_assoc, scanToken.eq_def]
    simp only [List.singleton_append, scanText_written]
    rfl

/-! ## values that fit -/

/-- The value fits the form as it is written, with its fields in order, and does not open more
containers within each other than there is room for. -/
inductive Fits : Nat → Form → Json → Prop
  | plain {room : Nat} {fits : Json → Bool} {json : Json} (told : IsTold json)
      (passes : fits json = true) : Fits room (.value fits) json
  | scalar {room : Nat} {form : ScalarForm} {json : Json} (told : IsTold json)
      (passes : form.fits json = true) : Fits room (.scalar form) json
  | nullable {room : Nat} {form : ScalarForm} {json : Json} (told : IsTold json)
      (passes : json = .null ∨ form.fits json = true) : Fits room (.nullable (.scalar form)) json
  | name {room : Nat} {names : List String} {name : String} (known : names.contains name = true) :
      Fits room (.name names) (.text name)
  | array {room : Nat} {fits : Json → Bool} {items : List Json}
      (passes : fits (.array items) = true) (each : ∀ item ∈ items, Fits room .any item) :
      Fits (room + 1) (.value fits) (.array items)
  | object {room : Nat} {fits : Json → Bool} {fields : List (String × Json)}
      (passes : fits (.object fields) = true) (each : ∀ field ∈ fields, Fits room .any field.2) :
      Fits (room + 1) (.value fits) (.object fields)
  | list {room : Nat} {form : Form} {items : List Json}
      (each : ∀ item ∈ items, Fits room form item) :
      Fits (room + 1) (.list form) (.array items)
  | record {room : Nat} {title : String} {known : List Field} {given : List (String × Json)}
      (distinct : known.Pairwise fun a b =>
        a.1.accepts b.1.name = false ∧ b.1.accepts a.1.name = false)
      (names : given.map (·.1) = known.map (·.1.name))
      (each : ∀ pair ∈ known.zip given, Fits room pair.1.2 pair.2.2) :
      Fits (room + 1) (.record title known) (.object given)

/-- What fits where anything does fits a test that it passes. -/
theorem Fits.passing {room : Nat} {fits : Json → Bool} {json : Json} (h : Fits room .any json)
    (passes : fits json = true) : Fits room (.value fits) json := by
  cases h with
  | plain told => exact .plain told passes
  | array _ each => exact .array passes each
  | object _ each => exact .object passes each

/-- Where a value may begin. -/
def Begins (expected : Expected) (form : Form) (stack : List Frame) : Prop :=
  ∀ t : PlacedToken, t.token ≠ .closeArray → t.token ≠ .ending →
    step expected stack t = beginValue form stack t

theorem begins_value (form : Form) (stack : List Frame) : Begins (.value form) form stack := by
  intro t other _
  rw [step.eq_def]
  split <;> first | rfl | simp_all

theorem begins_item (form : Form) (fits : Json → Bool) (read : List Json) (stack : List Frame) :
    Begins .itemOrEnd form (.items form fits read :: stack) := by
  intro t other other'
  rw [step.eq_def]
  split <;> first | rfl | simp_all

theorem runs_closing {ahead : List Char → Prop} {form : Form} {fits : Json → Bool}
    {stack : List Frame} {expected : Expected} {items : List Json}
    (ends : expected = .itemOrEnd ∨ expected = .commaOrEnd) (passes : fits (.array items) = true) :
    Runs ahead [']'] (expected, .items form fits items.reverse :: stack)
      (deliver (.array items) stack) := by
  refine .mark rfl fun t eq => ?_
  rcases ends with rfl | rfl <;> simp [step, eq, endContainer, Frame.value, Frame.isArray, passes]

/-- The rest of the items of an array up to its end. The items so far are kept in reverse; the first
one follows a bracket and all others a comma. -/
theorem runs_more_items {ahead : List Char → Prop} {form : Form} {fits : Json → Bool}
    {stack : List Frame} {items : List Json} (ne : items ≠ []) {expected : Expected}
    {read : List Json} (begins : Begins expected form (.items form fits read :: stack))
    (each : ∀ item ∈ items, ∀ expected read, Begins expected form (.items form fits read :: stack) →
      Runs Delimited item.write (expected, .items form fits read :: stack)
        (deliver item (.items form fits read :: stack)))
    (passes : fits (.array (read.reverse ++ items)) = true) :
    Runs ahead (writeItems items) (expected, .items form fits read :: stack)
      (deliver (.array (read.reverse ++ items)) stack) := by
  induction items generalizing expected read with
  | nil => exact absurd rfl ne
  | cons item rest ih =>
    have first := each item List.mem_cons_self expected read begins
    cases rest with
    | nil =>
      have last : Runs ahead [']']
          (.commaOrEnd, .items form fits (read.reverse ++ [item]).reverse :: stack)
          (deliver (.array (read.reverse ++ [item])) stack) := runs_closing (.inr rfl) passes
      rw [List.reverse_append, List.reverse_reverse] at last
      exact first.append last fun _ _ => by simp [Delimited]
    | cons next rest =>
      have others := ih (List.cons_ne_nil _ _)
        (begins_value form (.items form fits (item :: read) :: stack))
        (fun i mem => each i (List.mem_cons_of_mem _ mem)) (by simpa using passes)
      rw [List.reverse_cons, List.append_assoc, List.singleton_append] at others
      refine first.append (.mark_append rfl (fun t eq => ?_) others)
        fun _ _ => by simp [Delimited]
      simp [deliver, step, eq, takeComma, Frame.add, Frame.nextItem?]

/-- The items of an array up to its end, if each of them is read. -/
theorem runs_items {ahead : List Char → Prop} {form : Form} {fits : Json → Bool}
    {stack : List Frame} {items : List Json}
    (each : ∀ item ∈ items, ∀ expected read, Begins expected form (.items form fits read :: stack) →
      Runs Delimited item.write (expected, .items form fits read :: stack)
        (deliver item (.items form fits read :: stack)))
    (passes : fits (.array items) = true) :
    Runs ahead (writeItems items) (.itemOrEnd, .items form fits [] :: stack)
      (deliver (.array items) stack) := by
  cases items with
  | nil => exact runs_closing (.inl rfl) passes
  | cons item rest =>
    exact runs_more_items (List.cons_ne_nil _ _) (begins_item _ _ _ _) each passes

/-- What an open object takes in with some fields. -/
inductive Takes (stack : List Frame) : Frame → List (String × Json) → Frame → Prop
  | nil {frame : Frame} : Takes stack frame [] frame
  | cons {frame opened last : Frame} {form : Form} {name : String} {value : Json}
      {rest : List (String × Json)}
      (key : ∀ t, takeKey t (.ok name) (frame :: stack) = .ok (.colon form, opened :: stack))
      (content : Runs Delimited value.write (.value form, opened :: stack)
        (deliver value (opened :: stack)))
      (comma : ∀ t, takeComma t (opened.add value :: stack) = .ok (.key, opened.add value :: stack))
      (others : Takes stack (opened.add value) rest last) :
      Takes stack frame ((name, value) :: rest) last

theorem Takes.runs {ahead : List Char → Prop} {stack : List Frame} {frame last : Frame}
    {fields : List (String × Json)} {json : Json} (takes : Takes stack frame fields last)
    (object : last.isArray = false) (done : last.value = .ok json) (ne : fields ≠ [])
    (expected : Expected) (h : expected = .keyOrEnd ∨ expected = .key) :
    Runs ahead (writeFields fields) (expected, frame :: stack) (deliver json stack) := by
  induction takes generalizing expected with
  | nil => exact absurd rfl ne
  | @cons frame opened last form name value rest key content comma others ih =>
    have text : Runs Delimited (writeText name) (expected, frame :: stack)
        (.colon form, opened :: stack) := by
      refine (IsTold.text name).runs fun t eq => ?_
      rcases h with rfl | rfl <;> simp [step, eq, tokenOf, key]
    have field {ahead : List Char → Prop} {chars : List Char} {b : Reading}
        (behind : Runs ahead chars (deliver value (opened :: stack)) b)
        (delimited : ∀ rest, ahead rest → Delimited (chars ++ rest)) :
        Runs ahead (writeText name ++ ':' :: value.write ++ chars) (expected, frame :: stack)
          b := by
      rw [List.append_assoc, List.cons_append]
      refine text.append (.mark_append rfl (fun t eq => ?_) (content.append behind delimited))
        fun _ _ => by simp [Delimited]
      simp [step, eq]
    cases others with
    | nil =>
      refine field (.mark rfl fun t eq => ?_) fun _ _ => by simp [Delimited]
      simp [deliver, step, eq, endContainer, object, done]
    | cons key' content' comma' others' =>
      have behind := ih object done (List.cons_ne_nil _ _) .key (.inr rfl)
      refine field (.mark_append rfl (fun t eq => ?_) behind) fun _ _ => by simp [Delimited]
      simp [deliver, step, eq, comma]

/-- The fields of an object up to its end, if it takes them all in. -/
theorem runs_fields {ahead : List Char → Prop} {stack : List Frame} {frame last : Frame}
    {fields : List (String × Json)} {json : Json} (takes : Takes stack frame fields last)
    (object : last.isArray = false) (done : last.value = .ok json) :
    Runs ahead (writeFields fields) (.keyOrEnd, frame :: stack) (deliver json stack) := by
  cases fields with
  | nil =>
    cases takes
    refine .mark rfl fun t eq => ?_
    simp [step, eq, endContainer, done]
  | cons field rest => exact takes.runs object done (List.cons_ne_nil _ _) .keyOrEnd (.inl rfl)

theorem takes_entries {form : Form} {fits : Json → Bool} {stack : List Frame}
    {fields : List (String × Json)}
    (each : ∀ field ∈ fields, ∀ key read,
      Runs Delimited field.2.write (.value form, .entries form fits key read :: stack)
        (deliver field.2 (.entries form fits key read :: stack)))
    (key : String) (read : List (String × Json)) :
    ∃ key', Takes stack (.entries form fits key read) fields
      (.entries form fits key' (fields.reverse ++ read)) := by
  induction fields generalizing key read with
  | nil => exact ⟨key, .nil⟩
  | cons field rest ih =>
    obtain ⟨name, value⟩ := field
    obtain ⟨key', others⟩ := ih (fun f mem => each f (List.mem_cons_of_mem _ mem)) name
      ((name, value) :: read)
    rw [List.reverse_cons, List.append_assoc, List.singleton_append]
    exact ⟨key', .cons (fun _ => rfl) (each _ List.mem_cons_self name read) (fun _ => rfl) others⟩

/-- A record takes in its fields in their order, each under its own name. -/
theorem takes_record {title : String} {stack : List Frame} {known : List Field}
    (distinct : known.Pairwise fun a b =>
      a.1.accepts b.1.name = false ∧ b.1.accepts a.1.name = false)
    {before after : List Field} (split : known = before ++ after)
    {given read : List (String × Json)} (names : given.map (·.1) = after.map (·.1.name))
    (names_read : ∀ field ∈ read, ∃ other ∈ before, field.1 = other.1.name)
    (each : ∀ pair ∈ after.zip given, ∀ read,
      Runs Delimited pair.2.2.write
        (.value pair.1.2, .record title known (some pair.2.1) read :: stack)
        (deliver pair.2.2 (.record title known (some pair.2.1) read :: stack))) :
    Takes stack (.record title known none read) given
      (.record title known none (given.reverse ++ read)) := by
  induction after generalizing before given read with
  | nil =>
    rw [List.map_nil, List.map_eq_nil_iff] at names
    subst names
    exact .nil
  | cons field after ih =>
    rcases given with _ | ⟨⟨name, value⟩, given⟩
    · cases names
    obtain ⟨rfl, others⟩ := List.cons.inj names
    obtain ⟨field, form⟩ := field
    have apart (other : Field) (mem : other ∈ before) :
        other.1.accepts field.name = false ∧ field.accepts other.1.name = false :=
      (List.pairwise_append.1 (split ▸ distinct)).2.2 other mem _ List.mem_cons_self
    have found : known.find? (fun other => other.1.accepts field.name) = some (field, form) := by
      rw [split, List.find?_append, List.find?_eq_none.2 fun other mem => by
        simp [(apart other mem).1], Option.none_or, List.find?_cons_of_pos]
      simp [FieldName.accepts]
    have fresh : (read.any fun given => field.accepts given.1) = false := by
      rw [List.any_eq_false]
      intro given mem
      obtain ⟨other, mem, eq⟩ := names_read given mem
      simp [eq, (apart other mem).2]
    have named : ∀ given ∈ (field.name, value) :: read,
        ∃ other ∈ before ++ [(field, form)], given.1 = other.1.name := by
      refine List.forall_mem_cons.2 ⟨?_, fun given mem => ?_⟩
      · exact ⟨_, List.mem_append_right _ (List.mem_singleton_self _), rfl⟩
      · obtain ⟨other, mem, eq⟩ := names_read given mem
        exact ⟨other, List.mem_append_left _ mem, eq⟩
    have taken := ih (by rw [split, List.append_cons]) others named
      fun pair mem => each pair (List.mem_cons_of_mem _ mem)
    rw [List.reverse_cons, List.append_assoc, List.singleton_append]
    refine .cons (fun t => ?_) (each _ List.mem_cons_self read) (fun _ => rfl) taken
    simp [takeKey, found, fresh]

/-- A record with all its fields is complete. -/
theorem value_record {title : String} {known : List Field} {given : List (String × Json)}
    (names : given.map (·.1) = known.map (·.1.name)) :
    (Frame.record title known none given.reverse).value = .ok (.object given) := by
  have complete : known.find? (fun field => !field.1.hasDefault &&
      !given.reverse.any fun given => field.1.accepts given.1) = none := by
    rw [List.find?_eq_none]
    intro field mem
    have named : field.1.name ∈ given.map (·.1) := names ▸ List.mem_map_of_mem mem
    obtain ⟨g, mem, eq⟩ := List.mem_map.1 named
    have accepted : (given.reverse.any fun given => field.1.accepts given.1) = true :=
      List.any_eq_true.2 ⟨g, List.mem_reverse.2 mem, by simp [FieldName.accepts, eq]⟩
    simp [accepted]
  rw [Frame.value]
  simp only [complete, List.reverse_reverse]

/-- A container is read, if what is in it is. -/
theorem runs_container {char : Char} {chars : List Char} {token : Token} {form : Form} {json : Json}
    {frame : Frame} {inside expected : Expected} {stack : List Frame}
    (begins : Begins expected form stack) (enough : stack.length < maxOpen)
    (h : markOf? char = some token) (other : token ≠ .closeArray)
    (opens : ∀ t : PlacedToken, t.token = token →
      beginValue form stack t = push t frame inside stack)
    (content : Runs Delimited chars (inside, frame :: stack) (deliver json stack)) :
    Runs Delimited (char :: chars) (expected, stack) (deliver json stack) := by
  refine .mark_append h (fun t eq => ?_) content
  rw [begins t (eq ▸ other) fun ending => ?_, opens t eq, push, if_pos enough]
  rw [← eq, ending] at h
  unfold markOf? at h
  split at h <;> cases h

/-- A value that fits is read wherever there is room for it. -/
theorem runs_value {room : Nat} {form : Form} {json : Json} (h : Fits room form json)
    {expected : Expected} {stack : List Frame} (begins : Begins expected form stack)
    (enough : stack.length + room ≤ maxOpen) :
    Runs Delimited json.write (expected, stack) (deliver json stack) := by
  have inner {room : Nat} {stack : List Frame} (enough : stack.length + (room + 1) ≤ maxOpen)
      (frame : Frame) : (frame :: stack).length + room ≤ maxOpen := by
    rw [List.length_cons]
    omega
  induction h generalizing expected stack with
  | @plain room fits json told passes | @scalar room form json told passes =>
    refine told.runs fun t eq => ?_
    rw [begins t (eq ▸ tokenOf_ne_closeArray json) (eq ▸ tokenOf_ne_ending json)]
    cases told <;> simp [beginValue, eq, tokenOf, takeScalar, Except.map, passes]
  | @nullable room form json told passes =>
    refine told.runs fun t eq => ?_
    rw [begins t (eq ▸ tokenOf_ne_closeArray json) (eq ▸ tokenOf_ne_ending json)]
    rcases passes with rfl | passes
    · simp [beginValue, eq, tokenOf, takeScalar]
    · cases told <;> simp [beginValue, eq, tokenOf, takeScalar, Except.map, passes]
  | @name room names name known =>
    refine (IsTold.text name).runs fun t eq => ?_
    rw [begins t (eq ▸ nofun) (eq ▸ nofun)]
    simp only [beginValue, eq, tokenOf, Except.map, takeScalar, takeName, known]
    rfl
  | array passes each ih =>
    refine runs_container begins (by omega) rfl nofun (fun t eq => by rw [beginValue, eq]; rfl) ?_
    exact runs_items (fun item mem _ _ begins => ih item mem begins (inner enough _)) passes
  | list each ih =>
    refine runs_container begins (by omega) rfl nofun (fun t eq => by rw [beginValue, eq]; rfl) ?_
    exact runs_items (fun item mem _ _ begins => ih item mem begins (inner enough _)) rfl
  | @object room fits fields passes each ih =>
    have content (field) (mem : field ∈ fields) (key read) :
        Runs Delimited field.2.write (.value .any, .entries .any fits key read :: stack)
          (deliver field.2 (.entries .any fits key read :: stack)) :=
      ih field mem (begins_value _ _) (inner enough _)
    obtain ⟨key, takes⟩ := takes_entries content "" []
    refine runs_container begins (by omega) rfl nofun (fun t eq => by rw [beginValue, eq]; rfl) ?_
    refine runs_fields takes rfl ?_
    simp [Frame.value, passes]
  | @record room title known given distinct names each ih =>
    have content (pair) (mem : pair ∈ known.zip given) (read) :
        Runs Delimited pair.2.2.write
          (.value pair.1.2, .record title known (some pair.2.1) read :: stack)
          (deliver pair.2.2 (.record title known (some pair.2.1) read :: stack)) :=
      ih pair mem (begins_value _ _) (inner enough _)
    have takes := takes_record distinct (List.nil_append known).symm names
      (List.forall_mem_nil _) content
    rw [List.append_nil] at takes
    refine runs_container begins (by omega) rfl nofun (fun t eq => by rw [beginValue, eq]; rfl) ?_
    exact runs_fields takes rfl (value_record names)

theorem readAs_compact {form : Form} {json : Json} (h : Fits maxOpen form json) :
    readAs form json.compact = .ok json := by
  have run := runs_value h (begins_value form []) (Nat.zero_add maxOpen).le
  obtain ⟨bound, stop, -, eq⟩ := run [] trivial json.write.length {} (List.append_nil _ ▸ le_rfl)
  rw [List.append_nil] at eq
  rw [readAs, tokens, compact, String.toList_ofList, eq]
  cases bound <;> rfl

end AnalyticsGateway.Json
