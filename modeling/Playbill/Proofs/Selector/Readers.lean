import Playbill.Proofs.Selector.Trees

/-!
# Blanks at the ends of conditions

Names, attributes and formulas are read alike with and without blanks at their end.

* `Agree`: two readings give related values, or fail both; `Agree.bind`, `Agree.map`, `Agree.next`:
  what is read next.
* `Alike`: trees that differ by blanks at their end, and in the content of blocks in a given way;
  `Alike.leaf_cases`, `Alike.skipSpace_cases`: how they start.
* `agree_typeName`, `agree_attrCondition`, `agree_formula`: readers without nested lists.
* `agree_whole`: readings that have to be all there is.
-/

namespace Playbill.SelectorReader

open Css

/-! ### Agreement -/

variable {α β γ δ : Type}

/-- Two readings give related values, or both fail. -/
inductive Agree (rel : α → β → Prop) : Except SelectorFault α → Except SelectorFault β → Prop
  | ok {a : α} {b : β} : rel a b → Agree rel (.ok a) (.ok b)
  | error (e f : SelectorFault) : Agree rel (.error e) (.error f)

theorem Agree.bind {rel : α → β → Prop} {rel' : γ → δ → Prop} {x : Except SelectorFault α}
    {y : Except SelectorFault β} (h : Agree rel x y) {f : α → Except SelectorFault γ}
    {g : β → Except SelectorFault δ} (hnext : ∀ a b, rel a b → Agree rel' (f a) (g b)) :
    Agree rel' (x >>= f) (y >>= g) := by
  cases h with
  | ok hrel => exact hnext _ _ hrel
  | error e f => exact .error e f

theorem Agree.map {rel : α → β → Prop} {rel' : γ → δ → Prop} {x : Except SelectorFault α}
    {y : Except SelectorFault β} (h : Agree rel x y) {f : α → γ} {g : β → δ}
    (hnext : ∀ a b, rel a b → rel' (f a) (g b)) : Agree rel' (x.map f) (y.map g) := by
  cases h with
  | ok hrel => exact .ok (hnext _ _ hrel)
  | error e f => exact .error e f

theorem Agree.refl (x : Except SelectorFault α) : Agree Eq x x := by
  cases x with
  | ok => exact .ok rfl
  | error e => exact .error e e

theorem Agree.symm {x y : Except SelectorFault α} (h : Agree Eq x y) : Agree Eq y x := by
  cases h with
  | ok hrel => exact .ok hrel.symm
  | error e f => exact .error f e

theorem Agree.eq_ok {x y : Except SelectorFault α} (h : Agree Eq x y) {a : α} (hx : x = .ok a) :
    y = .ok a := by
  cases h with
  | ok hrel => rw [← hrel, hx]
  | error => cases hx

theorem bind_eq_ok {x : Except SelectorFault α} {f : α → Except SelectorFault β} {b : β}
    (h : x >>= f = .ok b) : ∃ a, x = .ok a ∧ f a = .ok b := by
  cases x with
  | ok a => exact ⟨a, rfl, h⟩
  | error => cases h

/-! ### Trees that are alike -/

/-- Trees that differ by blanks at their end, and in the content of blocks in a given way. -/
inductive Alike (inner : List Tree → List Tree → Prop) : List Tree → List Tree → Prop
  | nil : Alike inner [] []
  | space {ts' : List Tree} : Alike inner [] ts' → Alike inner [] (.leaf .space :: ts')
  | leaf {ts ts' : List Tree} (token : Lexeme) : Alike inner ts ts' →
      Alike inner (.leaf token :: ts) (.leaf token :: ts')
  | block {content content' ts ts' : List Tree} (start : Lexeme) : inner content content' →
      Alike inner ts ts' → Alike inner (.block start content :: ts) (.block start content' :: ts')

variable {inner : List Tree → List Tree → Prop} {ts ts' : List Tree}

theorem Alike.of_padded (h : Padded ts ts') : Alike Padded ts ts' := by
  induction h with
  | nil => exact .nil
  | space _ ih => exact .space ih
  | leaf token _ ih => exact .leaf token ih
  | block start hcontent _ _ ih => exact .block start hcontent ih

/-- A value with the trees after it, alike. -/
def Reads (inner : List Tree → List Tree → Prop) (p q : α × List Tree) : Prop :=
  p.1 = q.1 ∧ Alike inner p.2 q.2

/-- What is read next depends on the value, and on the trees after it. -/
theorem Agree.next {rel : β → γ → Prop} {x y : Reading α} (h : Agree (Reads inner) x y)
    {f : α × List Tree → Except SelectorFault β} {g : α × List Tree → Except SelectorFault γ}
    (hnext : ∀ a us us', x = .ok (a, us) → y = .ok (a, us') → Alike inner us us' →
      Agree rel (f (a, us)) (g (a, us'))) : Agree rel (x >>= f) (y >>= g) := by
  cases h with
  | @ok p q hread =>
    rcases p with ⟨a, us⟩
    rcases q with ⟨a', us'⟩
    obtain ⟨rfl, hus⟩ := hread
    exact hnext a us us' rfl rfl hus
  | error e f => exact .error e f

/-- Trees that are alike start with the same leaf, blanks aside. -/
theorem Alike.leaf_cases (h : Alike inner ts ts') (token : Lexeme) (htoken : token ≠ .space) :
    (∃ us us', ts = .leaf token :: us ∧ ts' = .leaf token :: us' ∧ Alike inner us us') ∨
      (∀ us, ts ≠ .leaf token :: us) ∧ ∀ us, ts' ≠ .leaf token :: us := by
  rcases h with _ | h | ⟨other, h⟩ | ⟨start, hcontent, h⟩
  · exact .inr ⟨nofun, nofun⟩
  · refine .inr ⟨nofun, fun us heq => ?_⟩
    obtain ⟨heq, -⟩ := List.cons.inj heq
    exact htoken (Tree.leaf.inj heq).symm
  · by_cases hother : other = token
    · subst hother
      exact .inl ⟨_, _, rfl, rfl, h⟩
    · refine .inr ⟨fun us heq => ?_, fun us heq => ?_⟩
      · exact hother (Tree.leaf.inj (List.cons.inj heq).1)
      · exact hother (Tree.leaf.inj (List.cons.inj heq).1)
  · exact .inr ⟨nofun, nofun⟩

theorem skipSpace_leaf {token : Lexeme} (h : token ≠ .space) (ts : List Tree) :
    skipSpace (.leaf token :: ts) = .leaf token :: ts := by
  refine List.dropWhile_cons_of_neg ?_
  cases token <;> first | exact Bool.false_ne_true | exact absurd rfl h

/-- After blanks, trees that are alike are both at their end, or start with the same token. -/
theorem Alike.skipSpace_cases (h : Alike inner ts ts') :
    (skipSpace ts = [] ∧ skipSpace ts' = []) ∨
      ∃ t us t' us', skipSpace ts = t :: us ∧ skipSpace ts' = t' :: us' ∧ t.token = t'.token ∧
        Alike inner us us' ∧ Alike inner (t :: us) (t' :: us') := by
  induction h with
  | nil => exact .inl ⟨rfl, rfl⟩
  | space _ ih => exact ih
  | leaf token h ih =>
    by_cases hspace : token = .space
    · subst hspace
      exact ih
    · rw [skipSpace_leaf hspace, skipSpace_leaf hspace]
      exact .inr ⟨_, _, _, _, rfl, rfl, rfl, h, .leaf token h⟩
  | block start hcontent h ih => exact .inr ⟨_, _, _, _, rfl, rfl, rfl, h, .block start hcontent h⟩

theorem Alike.skipSpace (h : Alike inner ts ts') : Alike inner (skipSpace ts) (skipSpace ts') := by
  rcases h.skipSpace_cases with ⟨hnil, hnil'⟩ | ⟨t, us, t', us', hcons, hcons', -, -, halike⟩
  · rw [hnil, hnil']
    exact .nil
  · rwa [hcons, hcons']

theorem agree_refuse (rel : α → β → Prop) (ts ts' : List Tree) :
    Agree rel (refuse ts) (refuse ts') := by
  cases ts <;> cases ts' <;> exact .error _ _

/-- Blanks do not keep a value from being all there is. -/
theorem agree_whole {x y : Reading α} (h : Agree (Reads inner) x y) :
    Agree Eq (whole x) (whole y) := by
  refine h.bind fun p q hpq => ?_
  obtain ⟨hvalue, hts⟩ := hpq
  rcases hts.skipSpace_cases with ⟨hnil, hnil'⟩ | ⟨t, us, t', us', hcons, hcons', -, -, -⟩
  · simp only [hnil, hnil']
    exact .ok hvalue
  · simp only [hcons, hcons']
    exact agree_refuse Eq _ _

/-! ### Names -/

theorem agree_nameAfterBar (conditions : List Simple) (h : Alike inner ts ts') :
    Agree (Reads inner) (nameAfterBar conditions ts) (nameAfterBar conditions ts') := by
  rcases h with _ | h | ⟨token, h⟩ | ⟨start, hcontent, h⟩
  · exact .error _ _
  · exact .error _ _
  · cases token
    case ident name => exact .ok ⟨rfl, h⟩
    case delim c =>
      by_cases hstar : c = '*'
      · subst hstar
        exact .ok ⟨rfl, h⟩
      · have hother (us : List Tree) :
            nameAfterBar conditions (.leaf (.delim c) :: us) = .error .malformed := by
          rw [nameAfterBar] <;> simp_all
        rw [hother, hother]
        exact .error _ _
    all_goals exact .error _ _
  · exact .error _ _

theorem agree_typeName (h : Alike inner ts ts') :
    Agree (Reads inner) (typeName ts) (typeName ts') := by
  rcases h with _ | h | ⟨token, h⟩ | ⟨start, hcontent, h⟩
  · exact .ok ⟨rfl, .nil⟩
  · exact .ok ⟨rfl, .space h⟩
  · cases token
    case ident name =>
      rcases h.leaf_cases (.delim '|') nofun with
        ⟨us, us', rfl, rfl, hrest⟩ | ⟨hbar, hbar'⟩
      · exact .error _ _
      · rw [typeName, typeName]
        · exact .ok ⟨rfl, h⟩
        · exact hbar'
        · exact hbar
    case delim c =>
      by_cases hstar : c = '*'
      · subst hstar
        rcases h.leaf_cases (.delim '|') nofun with
          ⟨us, us', rfl, rfl, hrest⟩ | ⟨hbar, hbar'⟩
        · exact agree_nameAfterBar [] hrest
        · rw [typeName, typeName]
          · exact .ok ⟨rfl, h⟩
          · exact hbar'
          · exact hbar
      by_cases hbar : c = '|'
      · subst hbar
        exact agree_nameAfterBar [.outsideNamespaces] h
      have hother (us : List Tree) :
          typeName (.leaf (.delim c) :: us) = .ok ([], .leaf (.delim c) :: us) := by
        rw [typeName] <;> simp_all
      rw [hother, hother]
      exact .ok ⟨rfl, .leaf _ h⟩
    all_goals exact .ok ⟨rfl, .leaf _ h⟩
  · exact .ok ⟨rfl, .block _ hcontent h⟩

/-! ### Attributes -/

/-- The name of an attribute after a namespace bar. -/
def identAfterBar (anyNamespace : Bool) : List Tree → Reading (Text × Bool)
  | .leaf (.ident name) :: ts => .ok ((name, anyNamespace), ts)
  | _ => .error .malformed

theorem attrName_star_bar (ts : List Tree) :
    attrName (.leaf (.delim '*') :: .leaf (.delim '|') :: ts) = identAfterBar true ts := by
  rcases ts with _ | ⟨⟨token⟩ | _, ts⟩
  · rfl
  · cases token <;> rfl
  · rfl

theorem attrName_bar (ts : List Tree) :
    attrName (.leaf (.delim '|') :: ts) = identAfterBar false ts := by
  rcases ts with _ | ⟨⟨token⟩ | _, ts⟩
  · rfl
  · cases token <;> rfl
  · rfl

theorem agree_identAfterBar (anyNamespace : Bool) (h : Alike inner ts ts') :
    Agree (Reads inner) (identAfterBar anyNamespace ts) (identAfterBar anyNamespace ts') := by
  rcases h with _ | h | ⟨token, h⟩ | ⟨start, hcontent, h⟩
  · exact .error _ _
  · exact .error _ _
  · cases token
    case ident name => exact .ok ⟨rfl, h⟩
    all_goals exact .error _ _
  · exact .error _ _

theorem agree_attrName (h : Alike inner ts ts') :
    Agree (Reads inner) (attrName ts) (attrName ts') := by
  rcases h with _ | h | ⟨token, h⟩ | ⟨start, hcontent, h⟩
  · exact .error _ _
  · exact .error _ _
  · cases token
    case ident name =>
      rcases h.leaf_cases (.delim '|') nofun with ⟨us, us', rfl, rfl, hrest⟩ | ⟨hbar, hbar'⟩
      · exact .error _ _
      · rw [attrName, attrName]
        · exact .ok ⟨rfl, h⟩
        · exact hbar'
        · exact hbar
    case delim c =>
      by_cases hstar : c = '*'
      · subst hstar
        rcases h.leaf_cases (.delim '|') nofun with
          ⟨us, us', rfl, rfl, hrest⟩ | ⟨hbar, hbar'⟩
        · rw [attrName_star_bar, attrName_star_bar]
          exact agree_identAfterBar true hrest
        · rw [attrName, attrName]
          all_goals first | exact .error _ _ | simp_all
      by_cases hbar : c = '|'
      · subst hbar
        rw [attrName_bar, attrName_bar]
        exact agree_identAfterBar false h
      have hother (us : List Tree) :
          attrName (.leaf (.delim c) :: us) = .error .malformed := by
        rw [attrName] <;> simp_all
      rw [hother, hother]
      exact .error _ _
    all_goals exact .error _ _
  · exact .error _ _

theorem agree_attrValue (h : Alike inner ts ts') :
    Agree (Reads inner) (attrValue ts) (attrValue ts') := by
  rcases h with _ | h | ⟨token, h⟩ | ⟨start, hcontent, h⟩
  · exact .error _ _
  · exact .error _ _
  · cases token
    case ident name => exact .ok ⟨rfl, h⟩
    case string value => exact .ok ⟨rfl, h⟩
    all_goals exact .error _ _
  · exact .error _ _

theorem agree_caseFlag (byDefault : Bool) (h : Alike inner ts ts') :
    Agree (Reads inner) (caseFlag byDefault ts) (caseFlag byDefault ts') := by
  unfold caseFlag
  rcases h.skipSpace_cases with ⟨hnil, hnil'⟩ | ⟨t, us, t', us', hcons, hcons', -, -, h⟩
  · rw [hnil, hnil']
    exact .ok ⟨rfl, .nil⟩
  · rw [hcons, hcons']
    rcases h with _ | h | ⟨token, h⟩ | ⟨start, hcontent, h⟩
    · cases token
      case ident flag =>
        dsimp only
        split_ifs
        · exact .ok ⟨rfl, h⟩
        · exact .ok ⟨rfl, h⟩
        · exact .error _ _
      all_goals exact .error _ _
    · exact .error _ _

theorem agree_attrCondition (h : Alike inner ts ts') :
    Agree (Reads inner) (attrCondition ts) (attrCondition ts') := by
  refine (agree_attrName h.skipSpace).next fun read us us' _ _ hus => ?_
  rcases read with ⟨name, anyNamespace⟩
  dsimp only
  rcases hus.skipSpace_cases with ⟨hnil, hnil'⟩ | ⟨t, vs, t', vs', hcons, hcons', htoken, hvs, -⟩
  · rw [hnil, hnil']
    exact .ok ⟨rfl, .nil⟩
  · rw [hcons, hcons']
    dsimp only
    rw [htoken]
    cases attrTest? t'.token with
    | none => exact .error _ _
    | some test =>
      refine (agree_attrValue hvs.skipSpace).next fun value ws ws' _ _ hws => ?_
      exact (agree_caseFlag _ hws).next fun ignoreCase xs xs' _ _ hxs => .ok ⟨rfl, hxs⟩

/-! ### Formulas -/

theorem agree_unsignedNumber (h : Alike inner ts ts') :
    Agree (Reads inner) (unsignedNumber ts) (unsignedNumber ts') := by
  unfold unsignedNumber
  rcases h.skipSpace_cases with ⟨hnil, hnil'⟩ | ⟨t, us, t', us', hcons, hcons', -, -, h⟩
  · rw [hnil, hnil']
    exact .error _ _
  · rw [hcons, hcons']
    rcases h with _ | h | ⟨token, h⟩ | ⟨start, hcontent, h⟩
    · cases token
      case number signed value =>
        cases signed with
        | true => exact .error _ _
        | false =>
          cases value with
          | none => exact .error _ _
          | some b => exact .ok ⟨rfl, h⟩
      all_goals exact .error _ _
    · exact .error _ _

theorem agree_startAfterSign (step sign : Int) (h : Alike inner ts ts') :
    Agree (Reads inner) (startAfterSign step sign ts) (startAfterSign step sign ts') :=
  (agree_unsignedNumber h).map fun p q hpq => by
    rcases p with ⟨b, ts⟩
    rcases q with ⟨b', ts'⟩
    obtain ⟨rfl, hts⟩ := hpq
    exact ⟨rfl, hts⟩

theorem agree_startAfter (step : Int) (h : Alike inner ts ts') :
    Agree (Reads inner) (startAfter step ts) (startAfter step ts') := by
  unfold startAfter
  rcases h.skipSpace_cases with ⟨hnil, hnil'⟩ | ⟨t, us, t', us', hcons, hcons', -, -, hskipped⟩
  · rw [hnil, hnil']
    exact .ok ⟨rfl, h⟩
  · rw [hcons, hcons']
    rcases hskipped with _ | hrest | ⟨token, hrest⟩ | ⟨start, hcontent, hrest⟩
    · cases token
      case delim c =>
        by_cases hplus : c = '+'
        · subst hplus
          exact agree_startAfterSign _ _ hrest
        by_cases hminus : c = '-'
        · subst hminus
          exact agree_startAfterSign _ _ hrest
        split <;> split
        all_goals first | exact .ok ⟨rfl, h⟩ | simp_all
      case number signed value =>
        cases signed with
        | false => exact .ok ⟨rfl, h⟩
        | true =>
          cases value with
          | none => exact .ok ⟨rfl, h⟩
          | some b => exact .ok ⟨rfl, hrest⟩
      all_goals exact .ok ⟨rfl, h⟩
    · exact .ok ⟨rfl, h⟩

theorem agree_stepOfName (step : Int) (name : Text) (h : Alike inner ts ts') :
    Agree (Reads inner) (stepOfName step name ts) (stepOfName step name ts') := by
  unfold stepOfName
  dsimp only
  split_ifs
  · exact agree_startAfter _ h
  · exact agree_startAfterSign _ _ h
  · cases negativeDigits? name with
    | none => exact .error _ _
    | some b => exact .ok ⟨rfl, h⟩

theorem agree_formula (h : Alike inner ts ts') :
    Agree (Reads inner) (formula ts) (formula ts') := by
  unfold formula
  rcases h.skipSpace_cases with ⟨hnil, hnil'⟩ | ⟨t, us, t', us', hcons, hcons', -, -, hskipped⟩
  · rw [hnil, hnil']
    exact .error _ _
  · rw [hcons, hcons']
    rcases hskipped with _ | hrest | ⟨token, hrest⟩ | ⟨start, hcontent, hrest⟩
    · cases token
      case number signed value =>
        cases value with
        | none => exact .error _ _
        | some b => exact .ok ⟨rfl, hrest⟩
      case dimension signed value unit =>
        cases value with
        | none => exact .error _ _
        | some a => exact agree_stepOfName _ _ hrest
      case ident name =>
        dsimp only
        split_ifs
        · exact .ok ⟨rfl, hrest⟩
        · exact .ok ⟨rfl, hrest⟩
        · split
          · exact agree_stepOfName _ _ hrest
          · exact agree_stepOfName _ _ hrest
      case delim c =>
        by_cases hplus : c = '+'
        · subst hplus
          rcases hrest with _ | hrest | ⟨token, hrest⟩ | ⟨start, hcontent, hrest⟩
          · exact .error _ _
          · exact .error _ _
          · cases token
            case ident name => exact agree_stepOfName _ _ hrest
            all_goals exact .error _ _
          · exact .error _ _
        split <;> split
        all_goals first | exact .error _ _ | simp_all
      all_goals exact .error _ _
    · exact .error _ _

end Playbill.SelectorReader
