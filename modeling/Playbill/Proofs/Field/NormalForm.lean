import Playbill.Proofs.Field.Concatenation
import Playbill.Proofs.Text.NormalForm

/-!
# Normal form of extracted values

Whatever a field is declared by, the texts among its values are in normal form, and the three ways to
ask for them agree.

* `Json.Normalised`: what normalising makes of a value; `Json.normalised_normalForm`.
* `Extractor.rawValues`: the values before they are normalised, as a mapping or a custom extraction
  gave them.
* `Extractor.values_outcome`: the values of a field are those values in normal form.
* `Extractor.Agrees`: a list of values, one value for all of them, and the first of them.
* `Extractor.values_normalForm`: the three agree, in whatever order they are asked for.
-/

namespace Playbill

/-! ### Values -/

namespace Json

/-- What normalising makes of a value: of a text with blanks only, null; of any other text a text in
normal form with the same words; and every other value stays. -/
inductive Normalised : Json → Json → Prop
  | blank {t : Text} : (∀ c ∈ t, isBlank c) → Normalised (.string t) .null
  | text {t u : Text} : u.IsNormal → u.words = t.words → Normalised (.string t) (.string u)
  | other {v : Json} : (∀ t, v ≠ .string t) → Normalised v v

theorem normalised_normalForm (v : Json) : Normalised v v.normalForm := by
  cases v with
  | string t =>
    rw [normalForm]
    split_ifs with hblank
    · exact .blank (Text.collapse_eq_nil_iff.1 (List.isEmpty_iff.1 hblank))
    · exact .text (Text.isNormal_collapse (mt List.isEmpty_iff.2 hblank)) (Text.words_collapse t)
  | _ => exact .other fun _ => by simp

variable {raw v : Json}

theorem Normalised.isNormal {t : Text} (h : Normalised raw (.string t)) : t.IsNormal := by
  cases h with
  | text hnormal _ => exact hnormal
  | other hother => exact absurd rfl (hother t)

/-- A normalised value stays as it is when it is normalised. -/
theorem Normalised.normalForm_eq (h : Normalised raw v) : v.normalForm = v := by
  cases h with
  | blank _ => rfl
  | text hnormal _ =>
    rw [normalForm, hnormal.collapse_eq, if_neg (mt List.isEmpty_iff.1 hnormal.trimmed.ne_nil)]
  | other hother =>
    cases raw with
    | string t => exact absurd rfl (hother t)
    | _ => rfl

end Json

/-! ### Values before they are normalised -/

open Extraction

namespace Selection

/-- The value of an element before it is normalised: what the mapping gives, or without one the text
itself; a missing attribute gives null. -/
def rawValue (s : Selection) (c : Context) (e : Element) : Json :=
  match s.target.take? e with
  | none => .null
  | some raw =>
    match s.map with
    | some f => (f raw c []).1
    | none => .string raw

theorem valueOf_eq (s : Selection) (c : Context) (e : Element) :
    s.valueOf c e = (s.rawValue c e).normalForm := by
  unfold valueOf rawValue
  cases s.target.take? e with
  | none => rfl
  | some raw =>
    cases s.map with
    | some f => rfl
    | none => simp only [Json.normalForm, Text.collapse_trim]

end Selection

/-- A field whose mapping or custom extraction does not look at the warnings. -/
def FieldDefinition.IsBlind : FieldDefinition → Prop
  | .custom run => ∀ e c, (run e c).IsBlind
  | .parts _ map => ∀ f ∈ map, ∀ raw c, (f raw c).IsBlind
  | .empty | .shorthand _ => True

namespace Extractor

/-- The values before they are normalised: null if nothing is declared, the items of an array that a
custom extraction gives, or one value for each element that the selector leads to. -/
def rawValues (g : Extractor) (c : Context) (e : Element) : Except SelectorFault (List Json) :=
  match g with
  | .empty => .ok [.null]
  | .custom run =>
    match (run e c []).1 with
    | .array items => .ok items
    | value => .ok [value]
  | .select s => do return (← s.reached c e).map (s.rawValue c)

variable {d : FieldDefinition} {c : Context} {e : Element}

theorem select_outcome {s : Selection} (hmap : ∀ f ∈ s.map, ∀ raw c, (f raw c).IsBlind) :
    HasOutcome (s.values c e)
      (do return (← (Extractor.select s).rawValues c e).map Json.normalForm) := by
  have hvalues : HasOutcome (s.values c e) (do return (← s.reached c e).map (s.valueOf c)) :=
    (Selection.elements_reached s).bind fun es =>
      .recording fun log => Recording.mapM_apply (Selection.value_apply hmap) es log
  have hraw : s.valueOf c = Json.normalForm ∘ s.rawValue c := funext (s.valueOf_eq c)
  rw [hraw] at hvalues
  rw [rawValues]
  cases hreached : s.reached c e with
  | error fault => rwa [hreached] at hvalues
  | ok es =>
    rw [hreached] at hvalues
    intro log
    rw [hvalues log]
    exact congrArg Except.ok List.map_map.symm

/-- The values of a field do not depend on the warnings, and each of them is normalised. -/
theorem values_outcome (hd : d.IsBlind) :
    HasOutcome ((ofDefinition d).values c e)
      (do return (← (ofDefinition d).rawValues c e).map Json.normalForm) := by
  cases d with
  | empty => exact .pure [Json.null]
  | shorthand text => exact select_outcome fun f hf => (Option.not_mem_none f hf).elim
  | parts parts map => exact select_outcome hd
  | custom run =>
    have hrun : HasOutcome (liftM (run e c)) (.ok (run e c []).1) :=
      .recording fun log => hd e c log []
    refine fun log => (hrun.bind (fun v => .pure (spread v)) log).trans ?_
    simp only [ofDefinition, rawValues]
    cases (run e c []).1 <;> rfl

/-! ### Three ways to ask -/

/-- A list of values, one value for all of them, and the first of them. -/
structure Agrees (values : List Json) (all first : Json) : Prop where
  none : values = [] → all = .null
  one : ∀ v, values = [v] → all = v
  more : 2 ≤ values.length → all = .array values
  first : first = values.head?.getD .null

theorem agrees_combine (values : List Json) :
    Agrees values (combine values) (values.headD .null) := by
  refine ⟨?_, ?_, ?_, List.headD_eq_head?_getD⟩
  · rintro rfl
    rfl
  · rintro v rfl
    rfl
  · intro hlength
    obtain ⟨v, values, rfl⟩ := List.exists_cons_of_length_pos (Nat.zero_lt_of_lt hlength)
    cases values with
    | nil => exact absurd hlength (by simp)
    | cons w values => rfl

/-- Neither null nor an array is changed when it is normalised, nor is a value that is one of the
list. -/
theorem Agrees.normalForm_eq {values : List Json} {all first : Json} (h : Agrees values all first)
    (hvalues : ∀ v ∈ values, v.normalForm = v) : all.normalForm = all ∧ first.normalForm = first := by
  cases values with
  | nil =>
    rw [h.none rfl, h.first]
    exact ⟨rfl, rfl⟩
  | cons v values =>
    have hfirst : first = v := h.first
    rw [hfirst]
    refine ⟨?_, hvalues v List.mem_cons_self⟩
    cases values with
    | nil =>
      rw [h.one v rfl]
      exact hvalues v List.mem_cons_self
    | cons w values =>
      rw [h.more (Nat.le_add_left 2 values.length)]
      rfl

/-- **Extracted values are in normal form.**  Whatever a field is declared by, asking for all of its
values, for one value and for the first one gives the same however often and in whatever order it is
done.  Either each of the three ends at the same fault, which has no wording, or the values are what
the mapping or the custom extraction gave, normalised one by one: texts among them are in normal form,
blank texts are null, all else is as it was, and normalising once more changes nothing; and the one
value is null for none, the value itself for one, and the array of all for more. -/
theorem values_normalForm (hd : d.IsBlind) (c : Context) (e : Element) :
    let g := ofDefinition d
    (∃ raws values all first, g.rawValues c e = .ok raws ∧ HasOutcome (g.values c e) (.ok values) ∧
      HasOutcome (g.value c e) (.ok all) ∧ HasOutcome (g.first c e) (.ok first) ∧
      List.Forall₂ Json.Normalised raws values ∧ (∀ t, .string t ∈ values → t.IsNormal) ∧
      (∀ v ∈ all :: first :: values, v.normalForm = v) ∧ Agrees values all first) ∨
    ∃ fault, fault.hasWording = false ∧ g.rawValues c e = .error fault ∧
      HasOutcome (g.values c e) (.error fault) ∧ HasOutcome (g.value c e) (.error fault) ∧
      HasOutcome (g.first c e) (.error fault) := by
  intro g
  have hvalues := values_outcome hd (c := c) (e := e)
  have hall := hvalues.bind fun values => HasOutcome.pure (combine values)
  have hfirst := hvalues.bind fun values => HasOutcome.pure (values.headD Json.null)
  cases hraws : g.rawValues c e with
  | error fault =>
    rw [hraws] at hvalues hall hfirst
    exact .inr ⟨fault, first_stopsUnworded g c e [] fault (hfirst []), rfl, hvalues, hall, hfirst⟩
  | ok raws =>
    rw [hraws] at hvalues hall hfirst
    have hnormalised : List.Forall₂ Json.Normalised raws (raws.map Json.normalForm) :=
      List.forall₂_map_right_iff.2 (List.forall₂_same.2 fun v _ => Json.normalised_normalForm v)
    have hfixed : ∀ v ∈ raws.map Json.normalForm, v.normalForm = v :=
      List.forall_mem_map.2 fun v _ => (Json.normalised_normalForm v).normalForm_eq
    have hagrees := agrees_combine (raws.map Json.normalForm)
    obtain ⟨hallFixed, hfirstFixed⟩ := hagrees.normalForm_eq hfixed
    refine .inl ⟨raws, _, _, _, rfl, hvalues, hall, hfirst, hnormalised, fun t ht => ?_,
      List.forall_mem_cons.2 ⟨hallFixed, List.forall_mem_cons.2 ⟨hfirstFixed, hfixed⟩⟩, hagrees⟩
    obtain ⟨v, -, hv⟩ := List.mem_map.1 ht
    exact (hv ▸ Json.normalised_normalForm v).isNormal

/-- An extraction that records a warning and gives texts with needless blanks. -/
def spacedWords : CustomExtraction := fun _ c => do
  c.warn "SPACED" "needless blanks"
  return .array [.string " a\u00a0\n b", .string "\t", .array [.string " x "], .bool true]

/-- The items of that array in normal form; an array inside it stays. -/
def spacedItems : List Json :=
  [.string "a b", .null, .array [.string " x "], .bool true]

theorem values_normalForm_spacedWords :
    (FieldDefinition.custom spacedWords).IsBlind ∧
      HasOutcome ((ofDefinition (.custom spacedWords)).values { lineage := [0] } boldBox)
        (.ok spacedItems) ∧
      HasOutcome ((ofDefinition (.custom spacedWords)).value { lineage := [0] } boldBox)
        (.ok (.array spacedItems)) ∧
      HasOutcome ((ofDefinition (.custom spacedWords)).first { lineage := [0] } boldBox)
        (.ok (.string "a b")) := by
  have hblind : (FieldDefinition.custom spacedWords).IsBlind := fun _ _ _ _ => rfl
  refine ⟨hblind, ?_⟩
  rcases values_normalForm hblind { lineage := [0] } boldBox with
    ⟨raws, values, all, first, hraws, hvalues, hall, hfirst, -, -, -, hagrees⟩ | ⟨fault, -, hraws, -⟩
  · have hrun : (Except.ok values : Except SelectorFault (List Json)) = .ok spacedItems :=
      (hvalues []).symm.trans rfl
    obtain rfl := Except.ok.inj hrun
    rw [hagrees.more (by decide)] at hall
    rw [hagrees.first] at hfirst
    exact ⟨hvalues, hall, hfirst⟩
  · cases hraws

end Extractor

end Playbill
