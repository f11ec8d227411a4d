import Playbill.Field.Shorthand
import Playbill.Proofs.Text.Squeeze

/-!
# Written shorthands

* `HasMarker`: an `@` stands right after a blank; `not_hasMarker_append`: blanks in front of a text
  make no marker of its first character.
* `splitAtMarker?_eq_none_iff`, `splitAtMarker?_append`: a text is cut at its last marker.
* `FieldParts.ofShorthand_of_marker`, `FieldParts.ofShorthand_of_no_marker`: what is read on both
  sides of it.
* `FieldParts.ofShorthand_written`: a selector and an attribute are read back as they were written,
  whatever blanks are put around them.
-/

namespace Playbill

open Text

variable {s t head tail : Text} {before : Option Char}

/-! ### Markers -/

/-- An `@` stands right after a blank. -/
def HasMarker (t : Text) : Prop :=
  ∃ before blank after, isBlank blank ∧ t = before ++ blank :: '@' :: after

theorem not_hasMarker_nil : ¬ HasMarker [] := by
  rintro ⟨before, blank, after, -, ht⟩
  simp at ht

theorem hasMarker_cons_iff {c : Char} :
    HasMarker (c :: t) ↔ (isBlank c ∧ t.head? = some '@') ∨ HasMarker t := by
  constructor
  · rintro ⟨before, blank, after, hblank, ht⟩
    cases before with
    | nil =>
      obtain ⟨rfl, rfl⟩ := List.cons.inj ht
      exact .inl ⟨hblank, rfl⟩
    | cons d before =>
      obtain ⟨rfl, rfl⟩ := List.cons.inj ht
      exact .inr ⟨before, blank, after, hblank, rfl⟩
  · rintro (⟨hc, hhead⟩ | ⟨before, blank, after, hblank, rfl⟩)
    · obtain ⟨after, rfl⟩ := List.head?_eq_some_iff.1 hhead
      exact ⟨[], c, after, hc, rfl⟩
    · exact ⟨c :: before, blank, after, hblank, rfl⟩

/-- Blanks in front of a text that does not start with an `@` make no marker. -/
theorem not_hasMarker_append (hs : ∀ c ∈ s, isBlank c) (ht : ¬ HasMarker t)
    (hjunction : s = [] ∨ t.head? ≠ some '@') : ¬ HasMarker (s ++ t) := by
  induction s with
  | nil => exact ht
  | cons c s ih =>
    rw [List.forall_mem_cons] at hs
    have hhead : t.head? ≠ some '@' := hjunction.resolve_left (List.cons_ne_nil c s)
    rw [List.cons_append, hasMarker_cons_iff]
    rintro (⟨-, hnext⟩ | hlater)
    · cases s with
      | nil => exact hhead hnext
      | cons d s =>
        -- The next character would be a blank and an `@`.
        obtain rfl := Option.some.inj hnext
        cases hs.2 '@' List.mem_cons_self
    · exact ih hs.2 (.inr hhead) hlater

/-! ### Cutting at the last marker -/

theorem splitAtMarker?_eq_none_iff : splitAtMarker? before t = none ↔
    ¬ (t.head? = some '@' ∧ before.all isBlank) ∧ ¬ HasMarker t := by
  induction t generalizing before with
  | nil => simp [splitAtMarker?, not_hasMarker_nil]
  | cons c t ih =>
    rw [hasMarker_cons_iff, splitAtMarker?]
    constructor
    · intro h
      split at h
      · cases h
      · rename_i hrest
        obtain ⟨hnext, hlater⟩ := ih.1 hrest
        split_ifs at h with hc
        constructor
        · rintro ⟨hhead, hbefore⟩
          apply hc
          rw [Option.some.inj hhead, hbefore]
          rfl
        · rintro (⟨hblank, hhead⟩ | hmarker)
          · exact hnext ⟨hhead, hblank⟩
          · exact hlater hmarker
    · rintro ⟨hfirst, hmarker⟩
      rw [not_or] at hmarker
      have hrest : splitAtMarker? (some c) t = none :=
        ih.2 ⟨fun h => hmarker.1 ⟨h.2, h.1⟩, hmarker.2⟩
      rw [hrest]
      refine if_neg fun hc => hfirst ?_
      rw [Bool.and_eq_true, beq_iff_eq] at hc
      exact ⟨congrArg some hc.1, hc.2⟩

theorem not_hasMarker_of_splitAtMarker? (h : splitAtMarker? none t = none) : ¬ HasMarker t :=
  (splitAtMarker?_eq_none_iff.1 h).2

/-- The last marker is the one that no other follows. -/
theorem splitAtMarker?_append (hhead : (head.getLast?.or before).all isBlank)
    (htail : ¬ HasMarker tail) :
    splitAtMarker? before (head ++ '@' :: tail) = some (head, tail) := by
  induction head generalizing before with
  | nil =>
    have hrest : splitAtMarker? (some '@') tail = none :=
      splitAtMarker?_eq_none_iff.2 ⟨fun h => Bool.false_ne_true h.2, htail⟩
    rw [List.nil_append, splitAtMarker?, hrest]
    exact if_pos hhead
  | cons c head ih =>
    rw [getLast?_cons_or] at hhead
    rw [List.cons_append, splitAtMarker?, ih hhead]

/-! ### Shorthands -/

theorem nonempty?_of_ne_nil (h : t ≠ []) : nonempty? t = some t :=
  if_neg fun hnil => h (List.isEmpty_iff.1 hnil)

namespace FieldParts

/-- What stands before and after the last marker is read, without the blanks around it. -/
theorem ofShorthand_of_marker (ht : trim t = head ++ '@' :: tail)
    (hhead : head.getLast?.all isBlank) (htail : ¬ HasMarker tail) :
    ofShorthand t = ⟨nonempty? (trim head), nonempty? (trim tail)⟩ := by
  have hcut : splitAtMarker? none (trim t) = some (head, tail) := by
    rw [ht]
    exact splitAtMarker?_append (by rwa [Option.or_none]) htail
  simp only [ofShorthand, hcut]

/-- A text without a marker is a selector. -/
theorem ofShorthand_of_no_marker (hhead : (trim t).head? ≠ some '@') (ht : ¬ HasMarker (trim t)) :
    ofShorthand t = ⟨nonempty? (trim t), none⟩ := by
  have hcut : splitAtMarker? none (trim t) = none :=
    splitAtMarker?_eq_none_iff.2 ⟨fun h => hhead h.1, ht⟩
  simp only [ofShorthand, hcut]

/-- **Shorthands.**  A selector and an attribute with a marker between them are read back, and so is
each on its own, whatever blanks stand around them: the attribute has no marker in it and, if blanks
separate it from the `@`, starts with none; a selector on its own has no marker in it either. -/
theorem ofShorthand_written {s a u v w x : Text} (hs : IsTrimmed s) (ha : IsTrimmed a)
    (hmarker : ¬ HasMarker a) (hu : ∀ c ∈ u, isBlank c) (hv : ∀ c ∈ v, isBlank c)
    (hw : ∀ c ∈ w, isBlank c) (hx : ∀ c ∈ x, isBlank c) (hne : w ≠ []) :
    (v = [] ∨ a.head? ≠ some '@' →
      ofShorthand (u ++ s ++ w ++ '@' :: (v ++ a ++ x)) = ⟨some s, some a⟩ ∧
        ofShorthand (u ++ '@' :: (v ++ a ++ x)) = ⟨none, some a⟩) ∧
    (s.head? ≠ some '@' → ¬ HasMarker s → ofShorthand (u ++ s ++ x) = ⟨some s, none⟩) := by
  constructor
  · intro hjunction
    have htail : ¬ HasMarker (v ++ a) := not_hasMarker_append hv hmarker hjunction
    have hattr : trim (v ++ a) = a := by
      simpa using ha.trim_surround hv (List.forall_mem_nil _)
    constructor
    · have htrim : trim (u ++ s ++ w ++ '@' :: (v ++ a ++ x)) = (s ++ w) ++ '@' :: (v ++ a) := by
        have h := (hs.append ha (w ++ '@' :: v)).trim_surround hu hx
        simpa using h
      have hselector : trim (s ++ w) = s := by
        simpa using hs.trim_surround (List.forall_mem_nil _) hw
      have hlast : (s ++ w).getLast?.all isBlank := by
        rw [List.getLast?_append_of_ne_nil s hne, List.getLast?_eq_some_getLast hne]
        exact hw _ (List.getLast_mem hne)
      rw [ofShorthand_of_marker htrim hlast htail, hselector, hattr, nonempty?_of_ne_nil hs.ne_nil,
        nonempty?_of_ne_nil ha.ne_nil]
    · have hat : IsTrimmed ['@'] := ⟨rfl, rfl⟩
      have htrim : trim (u ++ '@' :: (v ++ a ++ x)) = [] ++ '@' :: (v ++ a) := by
        simpa using (hat.append ha v).trim_surround hu hx
      rw [ofShorthand_of_marker htrim rfl htail, hattr, nonempty?_of_ne_nil ha.ne_nil]
      rfl
  · intro hhead hselector
    have htrim : trim (u ++ s ++ x) = s := hs.trim_surround hu hx
    rw [← htrim] at hhead hselector
    rw [ofShorthand_of_no_marker hhead hselector, htrim, nonempty?_of_ne_nil hs.ne_nil]

/-- A selector of mail links, with an `@` in it. -/
def mailLinks : Text := "li a[href$=x@y]"

/-- An attribute with an `@` in it. -/
def dataAttr : Text := "data-@lang"

/-- A tab, a no-break space and an ideographic space. -/
def wideBlanks : Text := ['\t', '\u00A0', '\u3000']

/-- Blanks of several kinds around texts with an `@` in them. -/
theorem ofShorthand_written_mailLinks :
    (IsTrimmed mailLinks ∧ IsTrimmed dataAttr ∧ ¬ HasMarker dataAttr ∧
      (∀ c ∈ wideBlanks, isBlank c) ∧ wideBlanks ≠ [] ∧ dataAttr.head? ≠ some '@' ∧
      mailLinks.head? ≠ some '@' ∧ ¬ HasMarker mailLinks) ∧
    ofShorthand (wideBlanks ++ mailLinks ++ wideBlanks ++
        '@' :: (wideBlanks ++ dataAttr ++ wideBlanks)) = ⟨some mailLinks, some dataAttr⟩ ∧
      ofShorthand (wideBlanks ++ '@' :: (wideBlanks ++ dataAttr ++ wideBlanks)) =
        ⟨none, some dataAttr⟩ ∧
      ofShorthand (wideBlanks ++ mailLinks ++ wideBlanks) = ⟨some mailLinks, none⟩ := by
  have hlinks : IsTrimmed mailLinks := ⟨by decide, by decide⟩
  have hdata : IsTrimmed dataAttr := ⟨by decide, by decide⟩
  have hblanks : ∀ c ∈ wideBlanks, isBlank c :=
    List.forall_mem_cons.2 ⟨rfl, List.forall_mem_cons.2 ⟨rfl, List.forall_mem_singleton.2 rfl⟩⟩
  have hne : wideBlanks ≠ [] := List.cons_ne_nil _ _
  have hlinksHead : mailLinks.head? ≠ some '@' := by decide
  have hdataHead : dataAttr.head? ≠ some '@' := by decide
  have hlinksMarker : ¬ HasMarker mailLinks := not_hasMarker_of_splitAtMarker? (by decide)
  have hdataMarker : ¬ HasMarker dataAttr := not_hasMarker_of_splitAtMarker? (by decide)
  obtain ⟨hmarked, hplain⟩ :=
    ofShorthand_written hlinks hdata hdataMarker hblanks hblanks hblanks hblanks hne
  obtain ⟨hboth, hattr⟩ := hmarked (.inr hdataHead)
  exact ⟨⟨hlinks, hdata, hdataMarker, hblanks, hne, hdataHead, hlinksHead, hlinksMarker⟩, hboth,
    hattr, hplain hlinksHead hlinksMarker⟩

end FieldParts

end Playbill
