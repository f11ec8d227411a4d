import Playbill.Proofs.Context.Stretches

/-!
# Looking up written paths

A path is written as the name of a variable, or `movie`, and steps `.key`, `[n]` and `["key"]`.  A
look-up goes from the value of the head from part to part and finds the value that is reached.

* `PathHead`, `WrittenStep`, `WrittenPath`: paths and how they are written.
* `IsPart`, `Reaches`: what a step names in a value, and what steps lead to.
* `ofPath_text`: a written path is read back.
* `find?_writtenPath`: what a look-up finds, and when it finds nothing.
-/

namespace Playbill

/-! ### Written paths -/

/-- A key as it stands in a path: not empty, without dots, brackets and quotes. -/
structure PathKey where
  text : Text
  ne_nil : text ≠ []
  plain : ∀ c ∈ text, c ∉ ['.', '[', ']', '"', '\'']

/-- The name of a variable as it stands in a path: not empty, without dots and brackets, and none of
the names that mean parts of a context. -/
structure VariableName where
  text : Text
  ne_nil : text ≠ []
  plain : ∀ c ∈ text, c ∉ ['.', '[', ']']
  not_reserved : text ∉ (["movie", "indexes", "date"] : List Text)

theorem PathKey.notMem {key : PathKey} {c : Char} (hc : c ∈ ['.', '[', ']', '"', '\'']) :
    c ∉ key.text :=
  fun h => key.plain c h hc

/-- What a path starts from. -/
inductive PathHead
  | movie
  | named (name : VariableName)

/-- A step and its notation. -/
inductive WrittenStep
  | dotted (key : PathKey)
  | indexed (position : Fin wordLimit)
  | quoted (key : PathKey)

/-- A head and steps from it. -/
structure WrittenPath where
  head : PathHead
  steps : List WrittenStep

namespace PathHead

/-- The name that a path starts with. -/
def text : PathHead → Text
  | movie => "movie"
  | named name => name.text

theorem text_ne_nil (head : PathHead) : head.text ≠ [] := by
  cases head with
  | movie => exact List.cons_ne_nil _ _
  | named name => exact name.ne_nil

theorem plain_text (head : PathHead) {c : Char} (hc : c ∈ ['.', '[', ']']) : c ∉ head.text := by
  cases head with
  | movie =>
    simp only [List.mem_cons, List.not_mem_nil, or_false] at hc
    rcases hc with rfl | rfl | rfl <;> decide
  | named name => exact fun h => name.plain c h hc

/-- The value of a head in a context. -/
def value? (c : Context) : PathHead → Option Json
  | movie => c.movie
  | named name => c.var? name.text

end PathHead

namespace WrittenStep

/-- A step as it is written: a dot and a key, or brackets around an index or a quoted key. -/
def text : WrittenStep → Text
  | dotted key => '.' :: key.text
  | indexed position => PathStep.bracketText (Text.ofNat position)
  | quoted key => PathStep.bracketText ('"' :: (key.text ++ ['"']))

/-- The key of a step that has one. -/
def key? : WrittenStep → Option Text
  | dotted key => some key.text
  | indexed _ => none
  | quoted key => some key.text

/-- The step that is meant. -/
def step : WrittenStep → PathStep
  | dotted key => .key key.text
  | indexed position => .index position
  | quoted key => .key key.text

end WrittenStep

/-- A path as it is written. -/
def WrittenPath.text (path : WrittenPath) : Text :=
  path.head.text ++ path.steps.flatMap WrittenStep.text

/-! ### Parts of values -/

/-- The part of a value that a step names: a member of an object by its key, an item of an array by
its position, which a key may also be the numeral of. -/
inductive IsPart : Json → WrittenStep → Json → Prop
  | member {members step key part} : WrittenStep.key? step = some key →
      Members.find? key members = some part → IsPart (.object members) step part
  | item {items position part} : items[position.val]? = some part →
      IsPart (.array items) (.indexed position) part
  | numeral {items step key position part} : WrittenStep.key? step = some key →
      Text.IsWordNumeral key position → items[position]? = some part →
      IsPart (.array items) step part

/-- The value that steps lead to from another one. -/
inductive Reaches : Json → List WrittenStep → Json → Prop
  | refl (value) : Reaches value [] value
  | cons {value step part steps reached} : IsPart value step part → Reaches part steps reached →
      Reaches value (step :: steps) reached

theorem step?_key_eq_some_iff {step : WrittenStep} {key : Text} (hkey : step.key? = some key)
    {value part : Json} : value.step? (.key key) = some part ↔ IsPart value step part := by
  constructor
  · intro h
    cases value with
    | object members => exact .member hkey h
    | array items =>
      obtain ⟨position, hposition, hitem⟩ := Option.bind_eq_some_iff.1 h
      exact .numeral hkey (Text.unsigned?_eq_some_iff.1 hposition) hitem
    | null | bool | number | string => cases h
  · intro h
    cases h with
    | member hkey' hmember =>
      rw [hkey, Option.some.injEq] at hkey'
      rwa [hkey']
    | item => cases hkey
    | numeral hkey' hposition hitem =>
      rw [hkey, Option.some.injEq] at hkey'
      rw [hkey', Json.step?, Text.unsigned?_eq_some_iff.2 hposition]
      exact hitem

/-- A step leads into the part that it names. -/
theorem step?_eq_some_iff {value part : Json} {step : WrittenStep} :
    value.step? step.step = some part ↔ IsPart value step part := by
  cases step with
  | dotted key => exact step?_key_eq_some_iff rfl
  | quoted key => exact step?_key_eq_some_iff rfl
  | indexed position =>
    constructor
    · intro h
      cases value with
      | array items => exact .item h
      | null | bool | number | string | object => cases h
    · intro h
      cases h with
      | member hkey => cases hkey
      | item hitem => exact hitem
      | numeral hkey => cases hkey

theorem follow?_eq_some_iff {value reached : Json} {steps : List WrittenStep} :
    value.follow? (steps.map WrittenStep.step) = some reached ↔ Reaches value steps reached := by
  induction steps generalizing value with
  | nil =>
    rw [List.map_nil, Json.follow?, Option.some.injEq]
    constructor
    · rintro rfl
      exact .refl value
    · rintro ⟨⟩
      rfl
  | cons step steps ih =>
    simp only [List.map_cons, Json.follow?, Option.bind_eq_some_iff, step?_eq_some_iff, ih]
    constructor
    · rintro ⟨part, hpart, hreach⟩
      exact .cons hpart hreach
    · intro h
      cases h with
      | cons hpart hreach => exact ⟨_, hpart, hreach⟩

/-- Steps lead nowhere where one of them names no part of what was reached before it. -/
theorem follow?_eq_none_iff {value : Json} {steps : List WrittenStep} :
    value.follow? (steps.map WrittenStep.step) = none ↔
      ∃ before step after reached, steps = before ++ step :: after ∧
        Reaches value before reached ∧ ∀ part, ¬ IsPart reached step part := by
  induction steps generalizing value with
  | nil => simp [Json.follow?]
  | cons step steps ih =>
    rw [List.map_cons, Json.follow?]
    cases hstep : value.step? step.step with
    | none =>
      refine iff_of_true rfl ⟨[], step, steps, value, rfl, .refl value, fun part hpart => ?_⟩
      rw [step?_eq_some_iff.2 hpart] at hstep
      cases hstep
    | some part =>
      have hpart := step?_eq_some_iff.1 hstep
      rw [Option.bind_some, ih]
      constructor
      · rintro ⟨before, missing, after, reached, rfl, hreach, hnone⟩
        exact ⟨step :: before, missing, after, reached, rfl, .cons hpart hreach, hnone⟩
      · rintro ⟨before, missing, after, reached, hsteps, hreach, hnone⟩
        cases hreach with
        | refl =>
          obtain ⟨rfl, -⟩ := List.cons.inj hsteps
          exact absurd hpart (hnone part)
        | cons hpart' hreach =>
          obtain ⟨rfl, rfl⟩ := List.cons.inj hsteps
          have heq : part = _ := Option.some.inj (hstep.symm.trans (step?_eq_some_iff.2 hpart'))
          exact ⟨_, missing, after, reached, rfl, heq ▸ hreach, hnone⟩

/-! ### Reading written paths -/

namespace PathStep

theorem ofBracket_ofNat (position : Fin wordLimit) :
    ofBracket (Text.ofNat position) = .index position := by
  rw [ofBracket, Text.unsigned?_eq_some_iff.2 (Text.isWordNumeral_ofNat position.isLt)]

/-- A key is read without its quotes. -/
theorem ofBracket_quoted {key : Text} (hkey : ∀ c ∈ key, c ≠ '"' ∧ c ≠ '\'') :
    ofBracket ('"' :: (key ++ ['"'])) = .key key := by
  have hnumeral : Text.unsigned? ('"' :: (key ++ ['"'])) = none := rfl
  rw [ofBracket, hnumeral]
  refine congrArg PathStep.key (Text.trimBy_surround rfl rfl fun c hc => ?_)
  obtain ⟨hdouble, hsingle⟩ := hkey c hc
  simp [hdouble, hsingle]

theorem ofKey_of_ne_nil {key : Text} (h : key ≠ []) : ofKey key = [.key key] := by
  rw [ofKey, if_neg (by simpa using h)]

end PathStep

namespace WrittenStep

open PathStep

/-- Steps are read back behind a key and the bracket groups that are read before them. -/
theorem ofPath_steps (steps : List WrittenStep) (key : Text) (groups : List Text)
    (hkey : '.' ∉ key ∧ '[' ∉ key) (hgroups : ∀ inner ∈ groups, '.' ∉ inner ∧ ']' ∉ inner) :
    ofPath (key ++ (groups.flatMap bracketText ++ steps.flatMap text)) =
      ofKey key ++ (groups.map ofBracket ++ steps.map step) := by
  induction steps generalizing key groups with
  | nil => rw [List.flatMap_nil, List.append_nil, ofPath_groups hkey hgroups, List.map_nil,
      List.append_nil]
  | cons step steps ih =>
    -- A step in brackets is one more group.
    have hgroup {inner : Text} (hinner : '.' ∉ inner ∧ ']' ∉ inner)
        (htext : step.text = bracketText inner) (hstep : ofBracket inner = step.step) :
        ofPath (key ++ (groups.flatMap bracketText ++ (step :: steps).flatMap text)) =
          ofKey key ++ (groups.map ofBracket ++ (step :: steps).map WrittenStep.step) := by
      have hmore := ih key (groups ++ [inner]) hkey fun other hother => by
        rcases List.mem_append.1 hother with hother | hother
        · exact hgroups other hother
        · rwa [List.mem_singleton.1 hother]
      simpa [htext, hstep] using hmore
    cases step with
    | dotted next =>
      have hnext := ih next.text [] ⟨next.notMem (by decide), next.notMem (by decide)⟩ nofun
      have htext : key ++ (groups.flatMap bracketText ++ (dotted next :: steps).flatMap text) =
          (key ++ groups.flatMap bracketText) ++ '.' :: (next.text ++ steps.flatMap text) := by
        simp [text]
      rw [htext, ofPath_append_dot, ofPath_groups hkey hgroups]
      rw [List.flatMap_nil, List.nil_append] at hnext
      rw [hnext, ofKey_of_ne_nil next.ne_nil]
      simp [WrittenStep.step]
    | indexed position =>
      refine hgroup ⟨fun h => ?_, fun h => ?_⟩ rfl (ofBracket_ofNat position)
      · cases Text.isAsciiDigit_of_mem_ofNat h
      · cases Text.isAsciiDigit_of_mem_ofNat h
    | quoted next =>
      refine hgroup ⟨?_, ?_⟩ rfl (ofBracket_quoted fun c hc => ⟨?_, ?_⟩)
      · simp [next.notMem]
      · simp [next.notMem]
      · rintro rfl
        exact next.notMem (by decide) hc
      · rintro rfl
        exact next.notMem (by decide) hc

end WrittenStep

namespace WrittenPath

open PathStep

/-- A written path is read back. -/
theorem ofPath_text (path : WrittenPath) :
    ofPath path.text = .key path.head.text :: path.steps.map WrittenStep.step := by
  have hread := WrittenStep.ofPath_steps path.steps path.head.text []
    ⟨path.head.plain_text (by decide), path.head.plain_text (by decide)⟩ nofun
  rw [List.flatMap_nil, List.nil_append, ofKey_of_ne_nil path.head.text_ne_nil] at hread
  exact hread

end WrittenPath

namespace Context

/-- Any name but those of the context's own parts is a variable. -/
theorem findSteps?_variable (c : Context) {name : Text}
    (h : name ∉ (["movie", "indexes", "date"] : List Text)) (rest : List PathStep) :
    c.findSteps? (.key name :: rest) =
      ((c.var? name).bind fun value => value.follow? rest).map .json := by
  have hne {other : Text} (hother : other ∈ (["movie", "indexes", "date"] : List Text)) :
      (name == other) = false :=
    beq_eq_false_iff_ne.2 fun heq => h (heq ▸ hother)
  have hmovie : (name == ("movie" : Text)) = false := hne (by decide)
  have hindexes : (name == ("indexes" : Text)) = false := hne (by decide)
  have hdate : (name == ("date" : Text)) = false := hne (by decide)
  unfold findSteps?
  dsimp only
  rw [hmovie, hindexes, hdate]
  rfl

/-- A look-up goes from the value of the head along the steps. -/
theorem find?_text (c : Context) (path : WrittenPath) :
    c.find? path.text = ((path.head.value? c).bind fun root =>
      root.follow? (path.steps.map WrittenStep.step)).map .json := by
  rw [find?, path.ofPath_text]
  cases path.head with
  | movie => rfl
  | named name =>
    exact c.findSteps?_variable name.not_reserved _

/-- A look-up of a written path finds the value that the steps reach from the head, and finds nothing
exactly if the head has no value or some step names no part of what was reached before it. -/
theorem find?_writtenPath (c : Context) (path : WrittenPath) :
    (∀ found, c.find? path.text = some found ↔
      ∃ root value, path.head.value? c = some root ∧ Reaches root path.steps value ∧
        found = .json value) ∧
    (c.find? path.text = none ↔
      path.head.value? c = none ∨
      ∃ root before step after reached, path.head.value? c = some root ∧
        path.steps = before ++ step :: after ∧ Reaches root before reached ∧
        ∀ part, ¬ IsPart reached step part) := by
  rw [find?_text]
  constructor
  · intro found
    simp only [Option.map_eq_some_iff, Option.bind_eq_some_iff, follow?_eq_some_iff]
    constructor
    · rintro ⟨value, ⟨root, hroot, hreach⟩, rfl⟩
      exact ⟨root, value, hroot, hreach, rfl⟩
    · rintro ⟨root, value, hroot, hreach, rfl⟩
      exact ⟨value, ⟨root, hroot, hreach⟩, rfl⟩
  · rw [Option.map_eq_none_iff]
    cases hroot : path.head.value? c with
    | none => simp
    | some root => simp [follow?_eq_none_iff]

end Context

end Playbill
