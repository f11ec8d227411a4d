import Playbill.Proofs.Context.Stretches
import Playbill.Template.Basic

/-!
# Malformed paths

In a malformed path a bracket group is not closed before the next dot, or something other than
another group comes after one.  Reading stops there and goes on after the next dot, so that a
look-up takes no notice of the rest of the stretch.

* `MalformedPath`: a path cut at the place where a stretch of it goes wrong.
* `MalformedPath.pruned`: the path without the rest of that stretch.
* `MalformedPath.ofPath_text`: both are read alike.
* `find?_malformedPath`: a look-up, and a placeholder, see the pruned path.
-/

namespace Playbill

open PathStep

/-- A path that is malformed: `tail` starts with a group that is not closed before the next dot, or
comes after a group and starts with another character than a bracket. -/
structure MalformedPath where
  before : Text
  key : Text
  groups : List Text
  tail : Text
  after : Text
  before_ends : before.getLast?.all (· == '.')
  key_plain : '.' ∉ key ∧ '[' ∉ key
  groups_plain : ∀ inner ∈ groups, '.' ∉ inner ∧ ']' ∉ inner
  tail_plain : '.' ∉ tail
  fault : (∃ rest, tail = '[' :: rest ∧ ']' ∉ rest) ∨
    groups ≠ [] ∧ ∃ c rest, tail = c :: rest ∧ c ≠ '['
  after_begins : after.head?.all (· == '.')

namespace MalformedPath

variable (path : MalformedPath)

/-- The part of the stretch that is well formed. -/
def stretch : Text :=
  path.key ++ path.groups.flatMap bracketText

/-- The whole path, with what goes wrong in it. -/
def text : Text :=
  path.before ++ (path.stretch ++ path.tail ++ path.after)

/-- The path without the rest of the stretch. -/
def pruned : Text :=
  path.before ++ (path.stretch ++ path.after)

/-- Nothing is read from where the stretch goes wrong. -/
theorem ofBrackets_tail : ofBrackets path.tail = [] := by
  rcases path.fault with ⟨rest, htail, hrest⟩ | ⟨-, c, rest, htail, hc⟩
  · rw [htail, ofBrackets_of_unclosed hrest]
  · rw [htail, ofBrackets_of_head (by simpa using hc)]

theorem ofPath_stretch_append_tail : ofPath (path.stretch ++ path.tail) = ofPath path.stretch := by
  have hgroups := path.groups_plain
  have hdot : '.' ∉ path.stretch ++ path.tail := by
    simp [stretch, path.key_plain.1, dot_notMem_groups fun inner h => (hgroups inner h).1,
      path.tail_plain]
  have hnext : path.groups = [] → path.tail.head?.all (· == '[') := by
    intro hnil
    rcases path.fault with ⟨rest, htail, -⟩ | ⟨hne, -⟩
    · rw [htail]
      rfl
    · exact absurd hnil hne
  rw [ofPath_of_notMem hdot, stretch, List.append_assoc,
    ofStretch_groups path.key_plain.2 (fun inner h => (hgroups inner h).2) hnext,
    path.ofBrackets_tail, List.append_nil, ofPath_groups path.key_plain hgroups]

/-- A malformed path is read as the pruned one. -/
theorem ofPath_text : ofPath path.text = ofPath path.pruned := by
  rw [text, pruned, ofPath_append_of_begins path.before_ends,
    ofPath_append_of_begins path.before_ends, ofPath_append_of_ends path.after_begins,
    ofPath_append_of_ends path.after_begins, path.ofPath_stretch_append_tail]

end MalformedPath

/-- The look-up of a malformed path is that of the pruned path, and so is the value that a
placeholder with it is replaced by; it stays only if the pruned path leads to nothing. -/
theorem Context.find?_malformedPath (c : Context) (path : MalformedPath) :
    c.find? path.text = c.find? path.pruned ∧
    ∀ arguments, Template.resolveSegment c (.placeholder ⟨path.text, arguments⟩) =
      ((c.find? path.pruned).bind (Template.render? c)).getD
        (Placeholder.text ⟨path.text, arguments⟩) := by
  have hfind : c.find? path.text = c.find? path.pruned := by rw [find?, path.ofPath_text, find?]
  exact ⟨hfind, fun arguments => by rw [Template.resolveSegment, hfind]⟩

/-- The index of `a[0` is never read, and what the path leads to is the variable `a` itself. -/
theorem Context.find?_unclosedGroup : ∃ (c : Context) (path : MalformedPath),
    path.text = "a[0".toList ∧ c.find? path.text = some (.json (.string "x".toList)) ∧
    Template.resolveSegment c (.placeholder ⟨path.text, none⟩) = "x".toList := by
  let c : Context := { lineage := [0], vars := [("a".toList, .string "x".toList)] }
  let path : MalformedPath :=
    { before := [], key := "a".toList, groups := [], tail := "[0".toList, after := []
      before_ends := rfl, key_plain := by decide, groups_plain := nofun, tail_plain := by decide
      fault := .inl ⟨"0".toList, rfl, by decide⟩, after_begins := rfl }
  have hfind : c.find? path.text = some (.json (.string "x".toList)) := by
    have hread : ofPath path.pruned = [.key "a".toList] :=
      ofPath_groups path.key_plain path.groups_plain
    rw [find?, path.ofPath_text, hread]
    rfl
  exact ⟨c, path, rfl, hfind, by rw [Template.resolveSegment, hfind]; rfl⟩

end Playbill
