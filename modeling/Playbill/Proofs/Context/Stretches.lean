import Mathlib.Data.List.TakeWhile
import Playbill.Context.Path
import Playbill.Proofs.Text.Basic

/-!
# Reading paths

A path is read stretch by stretch between its dots; a stretch is a key and bracket groups.

* `bracketText`: a bracket group as it is written; `ofBrackets_groups`: groups are read one after
  another.
* `ofPath_append_dot`, `ofPath_of_notMem`: dots separate stretches.
* `ofStretch_groups`: a key is read, then the groups after it, then what follows them.
-/

namespace Playbill.PathStep

/-! ### Bracket groups -/

/-- A bracket group as it is written. -/
def bracketText (inner : Text) : Text :=
  '[' :: (inner ++ [']'])

/-- A group is read up to its bracket. -/
theorem ofBrackets_bracketText {inner : Text} (hinner : ']' ∉ inner) (t : Text) :
    ofBrackets (bracketText inner ++ t) = ofBracket inner :: ofBrackets t := by
  have hrun : ∀ c ∈ inner, c != ']' := fun c hc => bne_iff_ne.2 fun h => hinner (h ▸ hc)
  have hstop : ¬ (']' :: t).head?.any (· != ']') := by simp
  obtain ⟨htake, hdrop⟩ := Text.takeWhile_dropWhile_append hrun hstop
  rw [bracketText, List.cons_append, List.append_assoc, ofBrackets]
  simp only [List.singleton_append, htake]
  split
  · rename_i after heq
    rw [hdrop, List.cons.injEq] at heq
    rw [heq.2]
  · rename_i heq
    rw [hdrop] at heq
    cases heq

/-- A bracket that is never closed is no group. -/
theorem ofBrackets_of_unclosed {rest : Text} (h : ']' ∉ rest) : ofBrackets ('[' :: rest) = [] := by
  have hdrop : rest.dropWhile (· != ']') = [] := by
    rw [List.dropWhile_eq_nil_iff]
    exact fun c hc => bne_iff_ne.2 fun heq => h (heq ▸ hc)
  rw [ofBrackets]
  split
  · rename_i heq
    rw [hdrop] at heq
    cases heq
  · rfl

theorem ofBrackets_of_head {t : Text} (h : t.head? ≠ some '[') : ofBrackets t = [] := by
  unfold ofBrackets
  split
  · exact absurd rfl h
  · rfl

@[simp] theorem ofBrackets_nil : ofBrackets [] = [] :=
  ofBrackets_of_head (by decide)

/-- Groups are read one after another. -/
theorem ofBrackets_groups {groups : List Text} (h : ∀ inner ∈ groups, ']' ∉ inner) (t : Text) :
    ofBrackets (groups.flatMap bracketText ++ t) = groups.map ofBracket ++ ofBrackets t := by
  induction groups with
  | nil => rfl
  | cons inner groups ih =>
    rw [List.forall_mem_cons] at h
    rw [List.flatMap_cons, List.append_assoc, ofBrackets_bracketText h.1, ih h.2]
    rfl

/-! ### Dots -/

/-- A dot ends a stretch. -/
theorem ofPath_append_dot (s t : Text) : ofPath (s ++ '.' :: t) = ofPath s ++ ofPath t := by
  rw [ofPath, Text.pieces_append_cons, List.flatMap_append]
  rfl

theorem ofPath_of_notMem {t : Text} (h : '.' ∉ t) : ofPath t = ofStretch t := by
  rw [ofPath, Text.pieces_of_notMem h, List.flatMap_singleton]

@[simp] theorem ofPath_nil : ofPath [] = [] := by
  rw [ofPath_of_notMem List.not_mem_nil, ofStretch, List.dropWhile_nil, ofBrackets_nil]
  rfl

/-- What ends with a dot is read apart from what comes after it. -/
theorem ofPath_append_of_begins {before t : Text} (h : before.getLast?.all (· == '.')) :
    ofPath (before ++ t) = ofPath before ++ ofPath t := by
  rcases List.eq_nil_or_concat before with rfl | ⟨start, c, rfl⟩
  · simp
  · obtain rfl : c = '.' := by simpa using h
    rw [List.concat_eq_append, List.append_assoc, List.singleton_append, ofPath_append_dot,
      ofPath_append_dot start [], ofPath_nil, List.append_nil]

/-- What starts with a dot is read apart from what comes before it. -/
theorem ofPath_append_of_ends {t after : Text} (h : after.head?.all (· == '.')) :
    ofPath (t ++ after) = ofPath t ++ ofPath after := by
  cases after with
  | nil => simp
  | cons c after =>
    obtain rfl : c = '.' := by simpa using h
    have hafter : ofPath ('.' :: after) = ofPath after := by
      rw [← List.nil_append ('.' :: after), ofPath_append_dot, ofPath_nil, List.nil_append]
    rw [ofPath_append_dot, hafter]

/-! ### Keys -/

/-- The step of the key of a stretch; without one there is no step. -/
def ofKey (key : Text) : List PathStep :=
  if key.isEmpty then [] else [.key key]

/-- A stretch is read as a key, then groups, then what the rest of it is read as. -/
theorem ofStretch_groups {key : Text} {groups : List Text} {t : Text} (hkey : '[' ∉ key)
    (hgroups : ∀ inner ∈ groups, ']' ∉ inner) (hnext : groups = [] → t.head?.all (· == '[')) :
    ofStretch (key ++ (groups.flatMap bracketText ++ t)) =
      ofKey key ++ (groups.map ofBracket ++ ofBrackets t) := by
  have hrun : ∀ c ∈ key, c != '[' := fun c hc => bne_iff_ne.2 fun h => hkey (h ▸ hc)
  have hstop : ¬ (groups.flatMap bracketText ++ t).head?.any (· != '[') := by
    cases groups with
    | nil =>
      cases t with
      | nil => exact Bool.false_ne_true
      | cons c t => simpa using hnext rfl
    | cons inner groups => simp [bracketText]
  obtain ⟨htake, hdrop⟩ := Text.takeWhile_dropWhile_append hrun hstop
  rw [ofStretch, htake, hdrop, ofBrackets_groups hgroups]
  rfl

theorem dot_notMem_groups {groups : List Text} (h : ∀ inner ∈ groups, '.' ∉ inner) :
    '.' ∉ groups.flatMap bracketText := by
  simp only [List.mem_flatMap, bracketText, List.mem_cons, List.mem_append]
  rintro ⟨inner, hinner, hdot⟩
  simp [h inner hinner] at hdot

/-- A path without dots is read as a key and groups. -/
theorem ofPath_groups {key : Text} {groups : List Text} (hkey : '.' ∉ key ∧ '[' ∉ key)
    (hgroups : ∀ inner ∈ groups, '.' ∉ inner ∧ ']' ∉ inner) :
    ofPath (key ++ groups.flatMap bracketText) = ofKey key ++ groups.map ofBracket := by
  have hdot : '.' ∉ key ++ groups.flatMap bracketText := by
    simp [hkey.1, dot_notMem_groups fun inner h => (hgroups inner h).1]
  have hstretch := ofStretch_groups hkey.2 (fun inner h => (hgroups inner h).2) (t := [])
    fun _ => rfl
  rw [List.append_nil, ofBrackets_nil, List.append_nil] at hstretch
  rw [ofPath_of_notMem hdot, hstretch]

end Playbill.PathStep
