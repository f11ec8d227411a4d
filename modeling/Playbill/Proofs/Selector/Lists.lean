import Playbill.Proofs.Selector.Readers

/-!
# Blanks around the alternatives of a list

An alternative is read alike with and without blanks around it, however much deeper than its blocks
the reader goes.

* `Matched`: contents of blocks that are read alike.
* `agree_simple`, `agree_complex`, `agree_alternative`: readers with nested lists; `length_simple`,
  `length_typeName`: each takes up trees, so that the fuel of the readers suffices.
* `alike_of_padded`: blanks at the ends of blocks do not matter.
* `length_splitAtCommas`, `splitAtCommas_append_comma`: the stretches between commas.
* `read_of_alternative`: the list of a single alternative.
-/

namespace Playbill.SelectorReader

open Css

variable {α β γ : Type} {inner : List Tree → List Tree → Prop} {ts ts' : List Tree}

/-! ### Conditions -/

/-- Contents that two readers of nested lists read alike. -/
def Matched (nested nested' : ListReader) (content content' : List Tree) : Prop :=
  Padded content content' ∧
    ∀ kind around, Agree Eq (nested kind around content) (nested' kind around content')

variable {nested nested' : ListReader}

theorem agree_pseudoFunction (around : Enclosure) (name : Text) {content content' : List Tree}
    (h : Matched nested nested' content content') :
    Agree Eq (pseudoFunction nested around name content)
      (pseudoFunction nested' around name content') := by
  have hformula : Agree Eq (whole (formula content)) (whole (formula content')) :=
    agree_whole (agree_formula (.of_padded h.1))
  unfold pseudoFunction
  dsimp only
  split_ifs
  all_goals first | exact .error _ _ | refine hformula.bind ?_ | refine (h.2 _ _).bind ?_
  all_goals
    rintro p q rfl
    exact .ok rfl

theorem agree_found {x y : Except SelectorFault Simple} (hxy : Agree Eq x y)
    (h : Alike inner ts ts') : Agree (Reads inner) (found x ts) (found y ts') :=
  hxy.map fun _ _ hpq => ⟨congrArg some hpq, h⟩

/-- What follows two colons is never read. -/
theorem simple_colon_colon (nested : ListReader) (around : Enclosure) (ts : List Tree) :
    ∃ fault, simple nested around (.leaf .colon :: .leaf .colon :: ts) = .error fault := by
  rcases ts with _ | ⟨⟨token⟩ | ⟨start, content⟩, ts⟩
  · exact ⟨_, rfl⟩
  · cases token <;> exact ⟨_, rfl⟩
  · cases start <;> exact ⟨_, rfl⟩

theorem agree_simple (around : Enclosure) (h : Alike (Matched nested nested') ts ts') :
    Agree (Reads (Matched nested nested')) (simple nested around ts)
      (simple nested' around ts') := by
  rcases h with _ | h | ⟨token, h⟩ | ⟨start, hcontent, h⟩
  · exact .ok ⟨rfl, .nil⟩
  · exact .ok ⟨rfl, .space h⟩
  · cases token
    case idHash value => exact .ok ⟨rfl, h⟩
    case delim c =>
      by_cases hdot : c = '.'
      · subst hdot
        rcases h with _ | h | ⟨token, h⟩ | ⟨start, hcontent, h⟩
        · exact .error _ _
        · exact .error _ _
        · cases token
          case ident value => exact .ok ⟨rfl, h⟩
          all_goals exact .error _ _
        · exact .error _ _
      have hother (nested : ListReader) (us : List Tree) :
          simple nested around (.leaf (.delim c) :: us) = .ok (none, .leaf (.delim c) :: us) := by
        rw [simple] <;> simp_all
      rw [hother, hother]
      exact .ok ⟨rfl, .leaf _ h⟩
    case colon =>
      rcases h with _ | h | ⟨token, h⟩ | ⟨start, hcontent, h⟩
      · exact .error _ _
      · exact .error _ _
      · cases token
        case ident name => exact agree_found (.refl _) h
        case colon =>
          obtain ⟨e, he⟩ := simple_colon_colon nested around _
          obtain ⟨f, hf⟩ := simple_colon_colon nested' around _
          rw [he, hf]
          exact .error e f
        all_goals exact .error _ _
      · cases start
        case function name => exact agree_found (agree_pseudoFunction around name hcontent) h
        all_goals exact .error _ _
    all_goals exact .ok ⟨rfl, .leaf _ h⟩
  · by_cases hsquare : start = .opening .square
    · subst hsquare
      exact agree_found (agree_whole (agree_attrCondition (.of_padded hcontent.1))) h
    · have hother (nested : ListReader) (content us : List Tree) :
          simple nested around (.block start content :: us) =
            .ok (none, .block start content :: us) := by
        rw [simple] <;> simp_all
      rw [hother, hother]
      exact .ok ⟨rfl, .block _ hcontent h⟩

theorem refuse_ne_ok (ts : List Tree) (a : α) : refuse ts ≠ .ok a := by
  cases ts <;> exact nofun

theorem length_found {x : Except SelectorFault Simple} {condition : Option Simple}
    {us : List Tree} (h : found x ts = .ok (condition, us)) :
    us.length + condition.toList.length ≤ ts.length + 1 := by
  cases x with
  | error => cases h
  | ok => cases h; exact le_rfl

/-- A condition takes up a tree. -/
theorem length_simple {around : Enclosure} {condition : Option Simple} {us : List Tree}
    (h : simple nested around ts = .ok (condition, us)) :
    us.length + condition.toList.length ≤ ts.length := by
  unfold simple at h
  split at h
  · cases h; exact le_rfl
  · cases h; exact Nat.le_succ _
  · cases h
  · exact length_found h
  · cases h
  · cases h
  · exact absurd h (refuse_ne_ok _ _)
  · exact (length_found h).trans (Nat.le_succ _)
  · exact (length_found h).trans (Nat.le_succ _)
  · exact absurd h (refuse_ne_ok _ _)
  · cases h; exact le_rfl

/-- Conditions take up a tree each. -/
theorem length_simples {around : Enclosure} {fuel : Nat} {conditions : List Simple}
    {us : List Tree} (h : simples nested around fuel ts = .ok (conditions, us)) :
    us.length + conditions.length ≤ ts.length := by
  induction fuel generalizing ts conditions us with
  | zero => cases h; exact le_rfl
  | succ fuel ih =>
    obtain ⟨⟨first, vs⟩, hfirst, h⟩ := bind_eq_ok h
    have hlength := length_simple hfirst
    cases first with
    | none => cases h; exact hlength
    | some condition =>
      obtain ⟨⟨others, ws⟩, hothers, h⟩ := bind_eq_ok h
      have hrest := ih hothers
      cases h
      simp only [Option.toList_some, List.length_cons, List.length_nil] at *
      omega

/-- However many conditions are allowed for, when the trees do not suffice for more. -/
theorem agree_simples (around : Enclosure) {fuel fuel' : Nat} (hfuel : ts.length ≤ fuel)
    (hfuel' : ts'.length ≤ fuel') (h : Alike (Matched nested nested') ts ts') :
    Agree (Reads (Matched nested nested')) (simples nested around fuel ts)
      (simples nested' around fuel' ts') := by
  -- Without fuel there are no trees, and the other trees are blanks alone.
  induction fuel generalizing fuel' ts ts' with
  | zero =>
    obtain rfl := List.length_eq_zero_iff.1 (Nat.le_zero.1 hfuel)
    cases fuel' with
    | zero =>
      obtain rfl := List.length_eq_zero_iff.1 (Nat.le_zero.1 hfuel')
      exact .ok ⟨rfl, .nil⟩
    | succ fuel' =>
      rcases h with _ | h
      · exact .ok ⟨rfl, .nil⟩
      · exact .ok ⟨rfl, .space h⟩
  | succ fuel ih =>
    cases fuel' with
    | zero =>
      obtain rfl := List.length_eq_zero_iff.1 (Nat.le_zero.1 hfuel')
      rcases h with _ | h
      exact .ok ⟨rfl, .nil⟩
    | succ fuel' =>
      refine (agree_simple around h).next fun first us us' hfirst hfirst' hus => ?_
      have hlength := length_simple hfirst
      have hlength' := length_simple hfirst'
      cases first with
      | none => exact .ok ⟨rfl, hus⟩
      | some condition =>
        simp only [Option.toList_some, List.length_cons, List.length_nil] at hlength hlength'
        have hfuel : us.length ≤ fuel := by omega
        have hfuel' : us'.length ≤ fuel' := by omega
        exact (ih hfuel hfuel' hus).next fun conditions vs vs' _ _ hvs => .ok ⟨rfl, hvs⟩

theorem length_nameAfterBar {conditions conditions' : List Simple} {us : List Tree}
    (h : nameAfterBar conditions ts = .ok (conditions', us)) : us.length < ts.length := by
  unfold nameAfterBar at h
  split at h
  · cases h; exact Nat.lt_succ_self _
  · cases h; exact Nat.lt_succ_self _
  · cases h

/-- The name of a compound takes up a tree. -/
theorem length_typeName {conditions : List Simple} {us : List Tree}
    (h : typeName ts = .ok (conditions, us)) :
    us.length < ts.length ∨ conditions = [] ∧ us = ts := by
  unfold typeName at h
  split at h
  · cases h
  · cases h; exact .inl (Nat.lt_succ_self _)
  · exact .inl ((length_nameAfterBar h).trans (Nat.lt_add_of_pos_right Nat.two_pos))
  · cases h; exact .inl (Nat.lt_succ_self _)
  · exact .inl ((length_nameAfterBar h).trans (Nat.lt_succ_self _))
  · cases h; exact .inr ⟨rfl, rfl⟩

/-! ### Selectors -/

/-- A token at the start is a blank before a combinator, a combinator, or something that blanks
before it set apart. -/
theorem combinator?_leaf_cons (sawSpace : Bool) (token : Lexeme) :
    (∀ ts, combinator? sawSpace (.leaf token :: ts) = combinator? true ts) ∨
      (∃ combinator, ∀ ts, combinator? sawSpace (.leaf token :: ts) = some (combinator, ts)) ∨
      ∀ ts, combinator? sawSpace (.leaf token :: ts) =
        if sawSpace then some (.descendant, .leaf token :: ts) else none := by
  cases token
  case space => exact .inl fun _ => rfl
  case delim c =>
    by_cases hchild : c = '>'
    · exact .inr (.inl ⟨.child, fun _ => by rw [hchild]; rfl⟩)
    by_cases hnext : c = '+'
    · exact .inr (.inl ⟨.nextSibling, fun _ => by rw [hnext]; rfl⟩)
    by_cases hlater : c = '~'
    · exact .inr (.inl ⟨.laterSibling, fun _ => by rw [hlater]; rfl⟩)
    · exact .inr (.inr fun _ => by rw [combinator?] <;> simp_all)
  all_goals exact .inr (.inr fun _ => rfl)

/-- Blanks at the end are no combinator. -/
theorem combinator?_cases (sawSpace : Bool) (h : Alike inner ts ts') :
    (combinator? sawSpace ts = none ∧ combinator? sawSpace ts' = none) ∨
      ∃ combinator us us', combinator? sawSpace ts = some (combinator, us) ∧
        combinator? sawSpace ts' = some (combinator, us') ∧ Alike inner us us' ∧
        us.length ≤ ts.length ∧ us'.length ≤ ts'.length := by
  induction h generalizing sawSpace with
  | nil => exact .inl ⟨rfl, rfl⟩
  | space h ih =>
    rcases ih true with ⟨-, hnone⟩ | ⟨combinator, us, us', hsome, -⟩
    · exact .inl ⟨rfl, hnone⟩
    · cases hsome
  | leaf token h ih =>
    rcases combinator?_leaf_cons sawSpace token with hspace | ⟨combinator, hsome⟩ | hother
    · rw [hspace, hspace]
      rcases ih true with hnone | ⟨combinator, us, us', hsome, hsome', hus, hle, hle'⟩
      · exact .inl hnone
      · exact .inr ⟨combinator, us, us', hsome, hsome', hus, Nat.le_succ_of_le hle,
          Nat.le_succ_of_le hle'⟩
    · exact .inr ⟨combinator, _, _, hsome _, hsome _, h, Nat.le_succ _, Nat.le_succ _⟩
    · rw [hother, hother]
      cases sawSpace with
      | false => exact .inl ⟨rfl, rfl⟩
      | true => exact .inr ⟨_, _, _, rfl, rfl, .leaf token h, le_rfl, le_rfl⟩
  | block start hcontent h ih =>
    cases sawSpace with
    | false => exact .inl ⟨rfl, rfl⟩
    | true => exact .inr ⟨_, _, _, rfl, rfl, .block start hcontent h, le_rfl, le_rfl⟩

/-- A compound that is not empty takes up a tree. -/
theorem length_compound {around : Enclosure} {fuel : Nat} {name conditions : List Simple}
    {us vs : List Tree} (hname : typeName (skipSpace ts) = .ok (name, us))
    (hconditions : simples nested around fuel us = .ok (conditions, vs))
    (hempty : ¬(name ++ conditions).isEmpty) : vs.length < ts.length := by
  have hskip : (skipSpace ts).length ≤ ts.length := (List.dropWhile_suffix _).length_le
  have hsimples := length_simples hconditions
  rcases length_typeName hname with hshorter | ⟨rfl, rfl⟩
  · omega
  · rw [List.nil_append, List.isEmpty_iff, ← List.length_eq_zero_iff] at hempty
    omega

theorem agree_complexFrom (around : Enclosure) {fuel fuel' : Nat}
    (left : Option (Complex × Combinator)) (hfuel : ts.length < fuel) (hfuel' : ts'.length < fuel')
    (h : Alike (Matched nested nested') ts ts') :
    Agree (Reads (Matched nested nested')) (complexFrom nested around fuel left ts)
      (complexFrom nested' around fuel' left ts') := by
  induction fuel generalizing fuel' left ts ts' with
  | zero => exact absurd hfuel (Nat.not_lt_zero _)
  | succ fuel ih =>
    cases fuel' with
    | zero => exact absurd hfuel' (Nat.not_lt_zero _)
    | succ fuel' =>
      refine (agree_typeName h.skipSpace).next fun name us us' hname hname' hus => ?_
      refine (agree_simples around le_rfl le_rfl hus).next
        fun conditions vs vs' hconditions hconditions' hvs => ?_
      dsimp only
      -- A compound that is read takes up a tree on either side, so the fuel suffices for the rest.
      by_cases hempty : (name ++ conditions).isEmpty
      · rw [if_pos hempty, if_pos hempty]
        exact .error _ _
      rw [if_neg hempty, if_neg hempty]
      have hlength : vs.length < ts.length := length_compound hname hconditions hempty
      have hlength' : vs'.length < ts'.length := length_compound hname' hconditions' hempty
      rcases combinator?_cases false hvs with
        ⟨hnone, hnone'⟩ | ⟨combinator, ws, ws', hsome, hsome', hws, hle, hle'⟩
      · simp only [hnone, hnone']
        exact .ok ⟨rfl, hvs⟩
      · simp only [hsome, hsome']
        have hfuel : ws.length < fuel := by omega
        have hfuel' : ws'.length < fuel' := by omega
        split_ifs with hhost
        · exact .error _ _
        · exact ih _ hfuel hfuel' hws

theorem agree_complex (kind : ListKind) (around : Enclosure)
    (h : Alike (Matched nested nested') ts ts') :
    Agree (Reads (Matched nested nested')) (complex nested kind around ts)
      (complex nested' kind around ts') := by
  have hfrom (left : Option (Complex × Combinator)) {ts ts' : List Tree}
      (h : Alike (Matched nested nested') ts ts') :=
    agree_complexFrom around left (Nat.lt_succ_self ts.length) (Nat.lt_succ_self ts'.length) h
  cases kind
  case relative =>
    unfold complex
    dsimp only
    rcases combinator?_cases false h.skipSpace with
      ⟨hnone, hnone'⟩ | ⟨combinator, ws, ws', hsome, hsome', hws, -, -⟩
    · rw [hnone, hnone']
      exact hfrom _ h.skipSpace
    · rw [hsome, hsome']
      exact hfrom _ hws
  all_goals exact hfrom none h.skipSpace

theorem agree_alternative (kind : ListKind) (around : Enclosure)
    (h : Alike (Matched nested nested') ts ts') :
    Agree Eq (alternative nested kind around ts) (alternative nested' kind around ts') := by
  have hwhole := agree_whole (agree_complex kind around h)
  cases kind
  case forgiving =>
    unfold alternative
    generalize whole (complex nested .forgiving around ts) = x at hwhole
    generalize whole (complex nested' .forgiving around ts') = y at hwhole
    rcases hwhole with hsame | ⟨e, f⟩
    · exact .ok hsame
    · exact .ok rfl
  all_goals exact hwhole

/-! ### Lists -/

theorem splitAtCommas_cons {t : Tree} (ht : isComma t = false) {stretch : List Tree}
    {stretches : List (List Tree)} (hts : splitAtCommas ts = stretch :: stretches) :
    splitAtCommas (t :: ts) = (t :: stretch) :: stretches := by
  rw [splitAtCommas, hts, ht]
  rfl

theorem exists_splitAtCommas (ts : List Tree) :
    ∃ stretch stretches, splitAtCommas ts = stretch :: stretches := by
  induction ts with
  | nil => exact ⟨_, _, rfl⟩
  | cons t ts ih =>
    obtain ⟨stretch, stretches, hts⟩ := ih
    cases ht : isComma t with
    | true => exact ⟨_, _, by rw [splitAtCommas, if_pos ht]⟩
    | false => exact ⟨_, _, splitAtCommas_cons ht hts⟩

/-- Trees that are alike fall apart into stretches that are alike. -/
theorem forall₂_splitAtCommas (h : Alike inner ts ts') :
    List.Forall₂ (Alike inner) (splitAtCommas ts) (splitAtCommas ts') := by
  have hcons {t t' : Tree} {us us' : List Tree} (ht : isComma t = false) (ht' : isComma t' = false)
      (hfirst : ∀ vs vs', Alike inner vs vs' → Alike inner (t :: vs) (t' :: vs'))
      (hus : List.Forall₂ (Alike inner) (splitAtCommas us) (splitAtCommas us')) :
      List.Forall₂ (Alike inner) (splitAtCommas (t :: us)) (splitAtCommas (t' :: us')) := by
    obtain ⟨stretch, stretches, hstretches⟩ := exists_splitAtCommas us
    obtain ⟨stretch', stretches', hstretches'⟩ := exists_splitAtCommas us'
    rw [hstretches, hstretches'] at hus
    rw [splitAtCommas_cons ht hstretches, splitAtCommas_cons ht' hstretches']
    obtain ⟨halike, hrest⟩ := List.forall₂_cons.1 hus
    exact .cons (hfirst _ _ halike) hrest
  induction h with
  | nil => exact .cons .nil .nil
  | @space us' h ih =>
    obtain ⟨stretch', stretches', hstretches'⟩ := exists_splitAtCommas us'
    rw [hstretches'] at ih
    obtain ⟨halike, hrest⟩ := List.forall₂_cons.1 ih
    rw [splitAtCommas_cons rfl hstretches']
    exact .cons (.space halike) hrest
  | leaf token h ih =>
    cases token
    case comma => exact .cons .nil ih
    all_goals exact hcons rfl rfl (fun _ _ hvs => .leaf _ hvs) ih
  | block start hcontent h ih => exact hcons rfl rfl (fun _ _ hvs => .block start hcontent hvs) ih

theorem agree_mapM {rel : α → γ → Prop} {f : α → Except SelectorFault β}
    {g : γ → Except SelectorFault β} (hfg : ∀ a c, rel a c → Agree Eq (f a) (g c)) {as : List α}
    {cs : List γ} (h : List.Forall₂ rel as cs) : Agree Eq (as.mapM f) (cs.mapM g) := by
  induction h with
  | nil => exact .ok rfl
  | cons hrel _ ih =>
    rw [List.mapM_cons, List.mapM_cons]
    refine (hfg _ _ hrel).bind ?_
    rintro b _ rfl
    refine ih.bind ?_
    rintro bs _ rfl
    exact .ok rfl

theorem forall₂_of_mapM {f : α → Except SelectorFault β} {as : List α} {bs : List β}
    (h : as.mapM f = .ok bs) : List.Forall₂ (fun a b => f a = .ok b) as bs := by
  induction as generalizing bs with
  | nil => cases h; exact .nil
  | cons a as ih =>
    rw [List.mapM_cons] at h
    obtain ⟨b, hb, h⟩ := bind_eq_ok h
    obtain ⟨later, hlater, h⟩ := bind_eq_ok h
    cases h
    exact .cons hb (ih hlater)

/-- The contents of blocks have fewer trees than all there are. -/
theorem Alike.of_padded_of_le {n n' : Nat} (h : Padded ts ts') (hn : nodesOf ts ≤ n)
    (hn' : nodesOf ts' ≤ n') (hinner : ∀ content content', Padded content content' →
      nodesOf content < n → nodesOf content' < n' → inner content content') :
    Alike inner ts ts' := by
  induction h with
  | nil => exact .nil
  | space h ih =>
    rw [nodesOf] at hn'
    exact .space (ih hn (by omega))
  | leaf token h ih =>
    rw [nodesOf] at hn hn'
    exact .leaf token (ih (by omega) (by omega))
  | block start hcontent h _ ih =>
    rw [nodesOf, Tree.nodes] at hn hn'
    exact .block start (hinner _ _ hcontent (by omega) (by omega)) (ih (by omega) (by omega))

theorem agree_list {depth depth' : Nat} (kind : ListKind) (around : Enclosure)
    (h : Alike (Matched (list depth) (list depth')) ts ts') :
    Agree Eq (list (depth + 1) kind around ts) (list (depth' + 1) kind around ts') := by
  have hstretches (us us' : List Tree) (h : Alike (Matched (list depth) (list depth')) us us') :=
    agree_alternative kind around h
  rw [list, list]
  split_ifs with hsingle
  · exact agree_mapM hstretches (.cons h .nil)
  · exact agree_mapM hstretches (forall₂_splitAtCommas h)

/-- Blanks at the ends of blocks do not matter to readers that go deep enough. -/
theorem alike_of_padded {depth depth' : Nat} (h : Padded ts ts') (hdepth : nodesOf ts ≤ depth)
    (hdepth' : nodesOf ts' ≤ depth') : Alike (Matched (list depth) (list depth')) ts ts' := by
  -- The induction is on how deep the reader goes: contents of blocks have fewer trees.
  induction depth generalizing depth' ts ts' with
  | zero => exact .of_padded_of_le h hdepth hdepth' fun _ _ _ hlt => absurd hlt (Nat.not_lt_zero _)
  | succ depth ih =>
    refine .of_padded_of_le h hdepth hdepth' fun content content' hcontent hlt hlt' => ?_
    obtain ⟨depth', rfl⟩ := Nat.exists_eq_succ_of_ne_zero (Nat.ne_zero_of_lt hlt')
    exact ⟨hcontent, fun kind around =>
      agree_list kind around (ih hcontent (Nat.le_of_lt_succ hlt) (Nat.le_of_lt_succ hlt'))⟩

/-! ### Stretches between commas -/

theorem length_splitAtCommas (ts : List Tree) :
    (splitAtCommas ts).length = ts.countP isComma + 1 := by
  induction ts with
  | nil => rfl
  | cons t ts ih =>
    cases ht : isComma t with
    | true =>
      rw [splitAtCommas, if_pos ht, List.length_cons, ih, List.countP_cons_of_pos ht]
    | false =>
      obtain ⟨stretch, stretches, hts⟩ := exists_splitAtCommas ts
      rw [hts] at ih
      rw [splitAtCommas_cons ht hts, List.countP_cons_of_neg (Bool.eq_false_iff.1 ht)]
      exact ih

theorem splitAtCommas_append_comma (hts : ts.countP isComma = 0) (us : List Tree) :
    splitAtCommas (ts ++ .leaf .comma :: us) = ts :: splitAtCommas us := by
  induction ts with
  | nil => rfl
  | cons t ts ih =>
    rw [List.countP_eq_zero, List.forall_mem_cons, ← List.countP_eq_zero] at hts
    exact splitAtCommas_cons (Bool.eq_false_iff.2 hts.1) (ih hts.2)

theorem splitAtCommas_of_countP (hts : ts.countP isComma = 0) : splitAtCommas ts = [ts] := by
  induction ts with
  | nil => rfl
  | cons t ts ih =>
    rw [List.countP_eq_zero, List.forall_mem_cons, ← List.countP_eq_zero] at hts
    exact splitAtCommas_cons (Bool.eq_false_iff.2 hts.1) (ih hts.2)

theorem countP_isComma_trees {t : Text} (ht : ',' ∉ t) : (trees t).countP isComma = 0 := by
  have hle := (countP_isComma_gather_le [] [] (lexemes t)).trans
    (Nat.add_le_add_left (count_comma_lexemes_le t) _)
  rw [List.count_eq_zero.2 ht] at hle
  exact Nat.le_zero.1 hle

/-! ### Blanks around an alternative -/

theorem skipSpace_spaces (n : Nat) (ts : List Tree) :
    skipSpace (List.replicate n (.leaf .space) ++ ts) = skipSpace ts := by
  induction n with
  | zero => rfl
  | succ n ih => exact ih

theorem alternative_spaces (nested : ListReader) (kind : ListKind) (around : Enclosure) (n : Nat)
    (ts : List Tree) :
    alternative nested kind around (List.replicate n (.leaf .space) ++ ts) =
      alternative nested kind around ts := by
  unfold alternative complex
  rw [skipSpace_spaces]

theorem nodesOf_trees_le (t : Text) : nodesOf (trees t) ≤ t.length :=
  (nodesOf_gather_le _).trans (length_lexemes_le t)

/-- An alternative is read with blanks around it as it is read alone. -/
theorem read_of_alternative {t u : Text} (ht : ',' ∉ t) {m n : Nat}
    (hu : lexemes u = List.replicate m .space ++ lexemes t ++ List.replicate n .space)
    {depth : Nat} (hdepth : u.length ≤ depth) {selector : Complex}
    (h : alternative (list depth) .plain {} (trees u) = .ok selector) :
    SelectorList.read t = .ok [selector] := by
  have htrees : trees u = List.replicate m (.leaf .space) ++
      gather [] [] (lexemes t ++ List.replicate n .space) := by
    rw [trees, hu, List.append_assoc, gather_spaces]
  have hnodes := (nodesOf_trees_le u).trans hdepth
  rw [htrees, nodesOf_append] at hnodes
  rw [htrees, alternative_spaces] at h
  -- Blanks before the alternative are skipped, and those behind it do not matter.
  have halike := alike_of_padded (padded_gather (lexemes t) n) (nodesOf_trees_le t)
    ((Nat.le_add_left _ _).trans hnodes)
  have halone : alternative (list t.length) .plain {} (trees t) = .ok selector :=
    (agree_alternative .plain {} halike).symm.eq_ok h
  rw [SelectorList.read, list, if_neg ListKind.noConfusion,
    splitAtCommas_of_countP (countP_isComma_trees ht), List.mapM_cons, halone]
  rfl

end Playbill.SelectorReader
