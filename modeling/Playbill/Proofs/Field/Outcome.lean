import Playbill.Field.Extractor

/-!
# Outcomes of extractions

What an extraction gives is settled by the data of its context: neither the warnings that were
recorded before nor the scope they are recorded in matter.  Nothing but a selector whose fault no
message can name stops one.

* `Extraction.SameOutcome`: two extractions give the same, whatever warnings there are.
* `Extractor.first_sameOutcome`: a declared field gives the same in every scope.
* `Extraction.StopsUnworded`: every fault that an extraction stops at is one without a wording.
* `Extractor.first_stopsUnworded`: so it is for every field.
-/

namespace Playbill

namespace Extraction

variable {α β : Type}

/-- Two extractions have the same outcome, whatever warnings were recorded before either. -/
def SameOutcome (x y : Extraction α) : Prop :=
  ∀ log log', (x log).1 = (y log').1

theorem bind_apply (x : Extraction α) (f : α → Extraction β) (log : WarningLog) :
    (x >>= f) log =
      match x log with
      | (.ok a, log') => f a log'
      | (.error fault, log') => (.error fault, log') := by
  simp only [bind, ExceptT.bind, ExceptT.mk, StateT.bind, ExceptT.bindCont]
  cases x log with
  | mk outcome after => cases outcome <;> rfl

theorem SameOutcome.pure (a : α) : SameOutcome (Pure.pure a) (Pure.pure a) :=
  fun _ _ => rfl

theorem SameOutcome.bind {x y : Extraction α} {f g : α → Extraction β} (h : SameOutcome x y)
    (hnext : ∀ a, SameOutcome (f a) (g a)) : SameOutcome (x >>= f) (y >>= g) := by
  intro log log'
  have hfirst := h log log'
  rw [bind_apply, bind_apply]
  cases hx : x log with
  | mk outcome after =>
    cases hy : y log' with
    | mk outcome' after' =>
      rw [hx, hy] at hfirst
      cases hfirst
      cases outcome with
      | ok a => exact hnext a after after'
      | error fault => rfl

theorem SameOutcome.mapM {f g : α → Extraction β} (items : List α)
    (h : ∀ a ∈ items, SameOutcome (f a) (g a)) : SameOutcome (items.mapM f) (items.mapM g) := by
  induction items with
  | nil => exact .pure []
  | cons a items ih =>
    rw [List.mapM_cons, List.mapM_cons]
    exact (h a List.mem_cons_self).bind fun b =>
      (ih fun a ha => h a (List.mem_cons_of_mem _ ha)).bind fun bs => .pure (b :: bs)

theorem SameOutcome.warn (c c' : Context) (code code' message message' : Text) :
    SameOutcome (liftM (c.warn code message)) (liftM (c'.warn code' message')) :=
  fun _ _ => rfl

end Extraction

open Extraction

theorem Template.resolve_withLineage (c : Context) (lineage : List Nat) (t : Text) :
    Template.resolve { c with lineage } t = Template.resolve c t :=
  rfl

/-- What a selector reads is settled by its text. -/
theorem readSelector_sameOutcome (c c' : Context) (selector : Text) :
    SameOutcome (readSelector c selector) (readSelector c' selector) := by
  unfold readSelector
  cases SelectorList.read selector with
  | ok selectors => exact .pure (some selectors)
  | error fault =>
    by_cases hwording : fault.hasWording
    · simp only [hwording, if_true]
      exact (SameOutcome.warn c c' _ _ _ _).bind fun _ => .pure none
    · simp only [hwording]
      exact fun _ _ => rfl

namespace Selection

variable (c : Context) (lineage : List Nat) (e : Element)

theorem partElements_sameOutcome (part : Text) :
    SameOutcome (partElements { c with lineage } e part) (partElements c e part) := by
  unfold partElements
  rw [Template.resolve_withLineage]
  by_cases hself : Template.resolve c part == itself
  · simp only [hself, if_true]
    exact .pure [e]
  · simp only [hself]
    exact (readSelector_sameOutcome _ c _).bind fun selectors => by
      cases selectors <;> exact .pure _

theorem elements_sameOutcome (s : Selection) :
    SameOutcome (s.elements { c with lineage } e) (s.elements c e) := by
  unfold elements
  by_cases hnone : s.selectors.isEmpty
  · simp only [hnone, if_true]
    exact .pure [e]
  · simp only [hnone]
    exact (SameOutcome.mapM s.selectors fun part _ =>
      partElements_sameOutcome c lineage e part).bind fun elements => .pure _

/-- The value of an element if it is not mapped. -/
def plainValue (target : AttrTarget) (e : Element) : Json :=
  match target.take? e with
  | none => .null
  | some raw => Json.normalForm (.string (Text.trim raw))

theorem value_eq_pure {s : Selection} (hmap : s.map = none) (c : Context) :
    s.value c = fun e => (pure (plainValue s.target e) : Recording Json) := by
  funext e
  unfold value plainValue
  rw [hmap]
  cases s.target.take? e <;> rfl

theorem values_sameOutcome {s : Selection} (hmap : s.map = none) :
    SameOutcome (s.values { c with lineage } e) (s.values c e) := by
  unfold values
  simp only [value_eq_pure hmap, List.mapM_pure]
  exact (elements_sameOutcome c lineage e s).bind fun elements => .pure _

end Selection

/-- A declared field, which is never mapped, gives the same in every scope. -/
theorem Extractor.first_sameOutcome (field : FieldDeclaration) (c : Context) (lineage : List Nat)
    (e : Element) :
    SameOutcome ((Extractor.ofDeclaration (some field)).first { c with lineage } e)
      ((Extractor.ofDeclaration (some field)).first c e) := by
  cases field with
  | shorthand text =>
    exact (Selection.values_sameOutcome c lineage e rfl).bind fun values => .pure _
  | parts parts => exact (Selection.values_sameOutcome c lineage e rfl).bind fun values => .pure _

/-! ### Faults -/

namespace Extraction

variable {α β : Type}

/-- Every fault that an extraction stops at is one that no message can name. -/
def StopsUnworded (x : Extraction α) : Prop :=
  ∀ log fault, (x log).1 = .error fault → fault.hasWording = false

theorem StopsUnworded.pure (a : α) : StopsUnworded (Pure.pure a) := by
  rintro log fault ⟨⟩

theorem StopsUnworded.recording (x : Recording α) : StopsUnworded (liftM x) := by
  rintro log fault ⟨⟩

theorem StopsUnworded.bind {x : Extraction α} {f : α → Extraction β} (h : StopsUnworded x)
    (hnext : ∀ a, StopsUnworded (f a)) : StopsUnworded (x >>= f) := by
  intro log fault hfault
  rw [bind_apply] at hfault
  cases hx : x log with
  | mk outcome after =>
    rw [hx] at hfault
    cases outcome with
    | ok a => exact hnext a after fault hfault
    | error _ =>
      cases hfault
      exact h log fault (by rw [hx])

theorem StopsUnworded.mapM {f : α → Extraction β} (items : List α)
    (h : ∀ a ∈ items, StopsUnworded (f a)) : StopsUnworded (items.mapM f) := by
  induction items with
  | nil => exact .pure []
  | cons a items ih =>
    rw [List.mapM_cons]
    exact (h a List.mem_cons_self).bind fun b =>
      (ih fun a ha => h a (List.mem_cons_of_mem _ ha)).bind fun bs => .pure (b :: bs)

end Extraction

theorem readSelector_stopsUnworded (c : Context) (selector : Text) :
    StopsUnworded (readSelector c selector) := by
  unfold readSelector
  cases SelectorList.read selector with
  | ok selectors => exact .pure (some selectors)
  | error fault =>
    by_cases hwording : fault.hasWording
    · simp only [hwording, if_true]
      exact (StopsUnworded.recording _).bind fun _ => .pure none
    · simp only [hwording]
      rintro log _ ⟨⟩
      exact Bool.eq_false_iff.mpr hwording

namespace Selection

variable (s : Selection) (c : Context) (e : Element)

theorem partElements_stopsUnworded (part : Text) : StopsUnworded (partElements c e part) := by
  unfold partElements
  by_cases hself : Template.resolve c part == itself
  · simp only [hself, if_true]
    exact .pure [e]
  · simp only [hself]
    exact (readSelector_stopsUnworded c _).bind fun selectors => by
      cases selectors <;> exact .pure _

theorem elements_stopsUnworded : StopsUnworded (s.elements c e) := by
  unfold elements
  by_cases hnone : s.selectors.isEmpty
  · simp only [hnone, if_true]
    exact .pure [e]
  · simp only [hnone]
    exact (StopsUnworded.mapM s.selectors fun part _ =>
      partElements_stopsUnworded c e part).bind fun elements => .pure _

theorem values_stopsUnworded : StopsUnworded (s.values c e) :=
  (elements_stopsUnworded s c e).bind fun _ => .recording _

end Selection

theorem Extractor.first_stopsUnworded (g : Extractor) (c : Context) (e : Element) :
    StopsUnworded (g.first c e) := by
  have hvalues : StopsUnworded (g.values c e) := by
    cases g with
    | empty => exact .pure _
    | custom run => exact (StopsUnworded.recording _).bind fun _ => .pure _
    | select s => exact s.values_stopsUnworded c e
  exact hvalues.bind fun _ => .pure _

end Playbill
