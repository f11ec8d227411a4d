import Mathlib.Data.List.Induction
import Mathlib.Logic.Relation
import Mathlib.Tactic
import Playbill.Context.Basic

/-!
# Histories of contexts

Contexts are made, branched, changed, dropped and warned on in any order.  They are numbered in the
order of their making.

* `Context.Edit`, `Action`: a change of the data of one context, and an operation of a history.
* `Session`, `Session.step?`, `Session.run?`: the contexts in hand and the warnings of all scopes.
* `Held`, `Scoped`: a handle that was made and not dropped; a history that uses no others.
* `events`, `Descends`, `heard`: the warnings issued in a history, and those that reach a context.
* `run?_scoped`: what every context shows after a history.
-/

namespace Playbill

/-- A change of the data of a context. -/
inductive Context.Edit
  | setIndex (name : Text) (value : Nat)
  | setVar (name : Text) (value : Json)
  | changeMovie (change : Option Json → Option Json)
  | changeDate (change : Option DateTime → Option DateTime)
  | enter (frame : Text)
  | leave

/-- The context after a change. -/
def Context.Edit.apply : Context.Edit → Context → Context
  | .setIndex name value, c => c.withIndex name value
  | .setVar name value, c => c.withVar name value
  | .changeMovie change, c => { c with movie := change c.movie }
  | .changeDate change, c => { c with date := change c.date }
  | .enter frame, c => c.enter frame
  | .leave, c => c.leave

/-- An operation of a history; contexts are named by their numbers. -/
inductive Action
  | root
  | branch (parent : Nat)
  | drop (target : Nat)
  | edit (target : Nat) (edit : Context.Edit)
  | warn (target : Nat) (code message : Text)

namespace Action

/-- The context that an operation works on. -/
def target? : Action → Option Nat
  | .root => none
  | .branch i | .drop i | .edit i _ | .warn i _ _ => some i

/-- The context whose handle an operation drops. -/
def dropped? : Action → Option Nat
  | .drop i => some i
  | _ => none

/-- The parent of the context that an operation makes, if it makes one; a root has none. -/
def made? : Action → Option (Option Nat)
  | .root => some none
  | .branch i => some (some i)
  | _ => none

theorem target?_of_made? {a : Action} {i : Nat} (h : a.made? = some (some i)) :
    a.target? = some i := by
  cases a <;> simp_all [made?, target?]

/-- The change that an operation makes to a context. -/
def editOf? (i : Nat) : Action → Option Context.Edit
  | .edit j e => if j = i then some e else none
  | _ => none

end Action

/-- The contexts in hand, by number, and the warnings of every scope.  A context that was dropped is
`none`. -/
structure Session where
  held : List (Option Context) := []
  log : WarningLog := []

namespace Session

/-- A context in hand. -/
def context? (s : Session) (i : Nat) : Option Context :=
  s.held[i]?.join

/-- One operation; it needs the handle of the context it works on. -/
def step? (s : Session) : Action → Option Session
  | .root =>
    let (c, log) := Context.root s.log
    some ⟨s.held ++ [some c], log⟩
  | .branch i => (s.context? i).map fun c =>
    let (b, log) := c.branch s.log
    ⟨s.held ++ [some b], log⟩
  | .drop i => (s.context? i).map fun _ => { s with held := s.held.set i none }
  | .edit i e => (s.context? i).map fun c => { s with held := s.held.set i (some (e.apply c)) }
  | .warn i code message => (s.context? i).map fun c =>
    { s with log := (c.warn code message s.log).2 }

/-- A history from the start. -/
def run? (actions : List Action) : Option Session :=
  actions.foldlM step? {}

end Session

open Session

/-! ### What a history means -/

/-- The parents of the contexts made in a history, by number. -/
def made (actions : List Action) : List (Option Nat) :=
  actions.filterMap Action.made?

/-- A context was made and its handle was not dropped. -/
def Held (actions : List Action) (i : Nat) : Prop :=
  i < (made actions).length ∧ ∀ a ∈ actions, a.dropped? ≠ some i

/-- Every operation of a history works on a context in hand at that time. -/
def Scoped (actions : List Action) : Prop :=
  ∀ k (h : k < actions.length), ∀ i ∈ actions[k].target?, Held (actions.take k) i

instance (actions : List Action) (i : Nat) : Decidable (Held actions i) :=
  inferInstanceAs (Decidable (_ ∧ _))

instance (actions : List Action) : Decidable (Scoped actions) :=
  inferInstanceAs (Decidable (∀ k (h : k < actions.length), ∀ i ∈ actions[k].target?, Held _ i))

/-- The data that an operation gives the context it makes: none to a root, and to a branch those
that its parent has after the operations before. -/
def start? (before : List Action) : Action → Option Context
  | .root => some { lineage := [] }
  | .branch i => (run? before).bind fun s => s.context? i
  | _ => none

/-- The issuer and the warning of an operation after some others; its location is the call stack
that the issuer has then. -/
def event? (before : List Action) : Action → Option (Nat × Warning)
  | .warn i code message => ((run? before).bind fun s => s.context? i).map fun c =>
    (i, ⟨code, message, Text.joinWith " > " c.frames⟩)
  | _ => none

/-- The warnings issued in a history, in the order of time. -/
def events (actions : List Action) : List (Nat × Warning) :=
  (List.range actions.length).filterMap fun k =>
    actions[k]?.bind fun a => event? (actions.take k) a

/-- The second context is the first one or was branched from it, directly or through others. -/
def Descends (actions : List Action) : Nat → Nat → Prop :=
  Relation.ReflTransGen fun i j => (made actions)[j]? = some (some i)

open Classical in
/-- The warnings issued on a context or on anything branched from it, in the order of time. -/
noncomputable def heard (actions : List Action) (i : Nat) : List Warning :=
  ((events actions).filter fun e => Descends actions i e.1).map (·.2)

/-- The first warning of each code. -/
def firstOfEachCode (ws : List Warning) : List Warning :=
  ws.eraseDupsBy fun v w => v.code == w.code

/-- The changes made to a context itself. -/
def editsOf (i : Nat) (actions : List Action) : List Context.Edit :=
  actions.filterMap (Action.editOf? i)

/-- Two contexts differ in their scopes at most. -/
def Context.SameData (c d : Context) : Prop :=
  c = { d with lineage := c.lineage }

/-! ### Warnings of a scope -/

theorem addFirst_addFirst (w : Warning) (ws : List Warning) :
    addFirst w (addFirst w ws) = addFirst w ws := by
  unfold addFirst
  split <;> simp_all

theorem firstOfEachCode_append_singleton (ws : List Warning) (w : Warning) :
    firstOfEachCode (ws ++ [w]) = addFirst w (firstOfEachCode ws) := by
  unfold firstOfEachCode
  -- The first warning filters the others, so the induction is on the length and not on the list.
  induction hn : ws.length using Nat.strongRecOn generalizing ws with
  | _ n ih =>
    cases ws with
    | nil => simp [addFirst, List.eraseDupsBy_cons]
    | cons v ws =>
      rw [List.cons_append, List.eraseDupsBy_cons, List.eraseDupsBy_cons, List.filter_append]
      by_cases hc : w.code = v.code
      · simp [addFirst, hc]
      · have hlen : (ws.filter fun b => (b.code == v.code) = false).length < n := by
          have := List.length_filter_le (fun b => decide ((b.code == v.code) = false)) ws
          simp only [List.length_cons] at hn
          omega
        have hw : ([w].filter fun b => (b.code == v.code) = false) = [w] := by simp [hc]
        rw [hw, ih _ hlen _ rfl]
        unfold addFirst
        simp only [List.any_cons, beq_eq_false_iff_ne.2 (Ne.symm hc), Bool.false_or]
        split <;> rfl

namespace WarningLog

theorem of_append_nil (log : WarningLog) (i : Nat) : of (log ++ [[]]) i = of log i := by
  unfold of
  rcases Nat.lt_trichotomy i log.length with h | h | h
  · rw [List.getElem?_append_left h]
  · subst h
    simp
  · rw [List.getElem?_eq_none (by simp; omega), List.getElem?_eq_none (Nat.le_of_lt h)]

theorem of_modify (log : WarningLog) (f : List Warning → List Warning) {i : Nat}
    (hi : i < log.length) (j : Nat) :
    of (log.modify i f) j = if j = i then f (of log j) else of log j := by
  unfold of
  rw [List.getElem?_modify]
  by_cases h : i = j
  · subst h
    simp [hi]
  · simp [h, Ne.symm h]

theorem length_record (log : WarningLog) (chain : List Nat) (w : Warning) :
    (log.record chain w).length = log.length := by
  induction chain generalizing log with
  | nil => rfl
  | cons i chain ih => exact (ih _).trans (List.length_modify ..)

/-- A warning is recorded in every scope of a chain and in no other. -/
theorem of_record {log : WarningLog} {chain : List Nat} (w : Warning)
    (h : ∀ i ∈ chain, i < log.length) (j : Nat) :
    of (log.record chain w) j = if j ∈ chain then addFirst w (of log j) else of log j := by
  induction chain generalizing log with
  | nil => rfl
  | cons i chain ih =>
    rw [List.forall_mem_cons] at h
    have hrec : log.record (i :: chain) w = record (log.modify i (addFirst w)) chain w := rfl
    rw [hrec, ih (by simpa using h.2), of_modify _ _ h.1]
    by_cases hj : j = i
    -- Were the scope in the chain again, the second recording would change nothing.
    · subst hj
      simp [addFirst_addFirst]
    · simp [hj]

end WarningLog

/-! ### Histories that grow by one operation -/

section Snoc

variable {actions : List Action} {a : Action}

theorem filterMap_snoc {α β : Type} (f : α → Option β) (l : List α) (x : α) :
    (l ++ [x]).filterMap f = l.filterMap f ++ (f x).toList := by
  rw [List.filterMap_append, List.filterMap_cons]
  cases f x <;> rfl

theorem made_snoc (actions : List Action) (a : Action) :
    made (actions ++ [a]) = made actions ++ a.made?.toList :=
  filterMap_snoc ..

theorem length_made_le_snoc (actions : List Action) (a : Action) :
    (made actions).length ≤ (made (actions ++ [a])).length := by
  simp [made_snoc]

theorem run?_snoc (actions : List Action) (a : Action) :
    run? (actions ++ [a]) = (run? actions).bind fun s => s.step? a := by
  simp [run?, List.foldlM_append]

theorem events_snoc (actions : List Action) (a : Action) :
    events (actions ++ [a]) = events actions ++ (event? actions a).toList := by
  unfold events
  rw [List.length_append, List.length_singleton, List.range_succ, filterMap_snoc]
  congr 1
  · refine List.filterMap_congr fun k hk => ?_
    have hk := List.mem_range.1 hk
    rw [List.getElem?_append_left hk, List.take_append_of_le_length hk.le]
  · rw [List.getElem?_concat_length, List.take_left]
    rfl

theorem editsOf_snoc (i : Nat) (actions : List Action) (a : Action) :
    editsOf i (actions ++ [a]) = editsOf i actions ++ (a.editOf? i).toList :=
  filterMap_snoc ..

theorem held_snoc_iff (i : Nat) :
    Held (actions ++ [a]) i ↔ i < (made (actions ++ [a])).length ∧
      (∀ b ∈ actions, b.dropped? ≠ some i) ∧ a.dropped? ≠ some i := by
  simp [Held, or_imp, forall_and]

theorem Scoped.of_append {before after : List Action} (h : Scoped (before ++ after)) :
    Scoped before := by
  intro k hk i hi
  have := h k (by simp; omega) i (by rwa [List.getElem_append_left hk])
  rwa [List.take_append_of_le_length (Nat.le_of_lt hk)] at this

theorem Scoped.held_target (h : Scoped (actions ++ [a])) {i : Nat} (hi : a.target? = some i) :
    Held actions i := by
  have := h actions.length (by simp) i (by simpa using hi)
  rwa [List.take_left] at this

/-- A context is made after its parent. -/
theorem Scoped.parent_lt (h : Scoped actions) {i j : Nat} (hij : (made actions)[j]? = some (some i)) :
    i < j := by
  induction actions using List.reverseRecOn with
  | nil => simp [made] at hij
  | append_singleton actions a ih =>
    rw [made_snoc] at hij
    rcases Nat.lt_or_ge j (made actions).length with hj | hj
    · exact ih h.of_append (by rwa [List.getElem?_append_left hj] at hij)
    · rw [List.getElem?_append_right hj] at hij
      have hmade : a.made? = some (some i) := Option.mem_toList.1 (List.mem_of_getElem? hij)
      exact Nat.lt_of_lt_of_le (h.held_target (Action.target?_of_made? hmade)).1 hj

theorem Scoped.dropped_lt (h : Scoped actions) {b : Action} (hb : b ∈ actions) {i : Nat}
    (hi : b.dropped? = some i) : i < (made actions).length := by
  obtain ⟨k, hk, rfl⟩ := List.getElem_of_mem hb
  have hheld := h k hk i (by cases hact : actions[k] <;> simp_all [Action.dropped?, Action.target?])
  exact hheld.1.trans_le ((List.take_sublist k actions).filterMap _).length_le

theorem held_made_iff (h : Scoped actions) {p : Option Nat} (ha : a.made? = some p) (i : Nat) :
    Held (actions ++ [a]) i ↔ Held actions i ∨ i = (made actions).length := by
  have hdrop : a.dropped? = none := by cases a <;> simp_all [Action.made?, Action.dropped?]
  have hfresh : ∀ b ∈ actions, b.dropped? ≠ some (made actions).length :=
    fun b hb heq => absurd (h.dropped_lt hb heq) (Nat.lt_irrefl _)
  rw [held_snoc_iff, made_snoc, ha, hdrop]
  simp only [Held, Option.toList, List.length_append, List.length_singleton, Nat.lt_succ_iff_lt_or_eq]
  constructor
  · rintro ⟨hi | hi, hb, -⟩
    · exact .inl ⟨hi, hb⟩
    · exact .inr hi
  · rintro (⟨hi, hb⟩ | rfl)
    · exact ⟨.inl hi, hb, by simp⟩
    · exact ⟨.inr rfl, hfresh, by simp⟩

theorem held_drop_iff (actions : List Action) (i j : Nat) :
    Held (actions ++ [.drop j]) i ↔ Held actions i ∧ i ≠ j := by
  rw [held_snoc_iff, made_snoc]
  simp only [Held, Action.made?, Action.dropped?, Option.toList, List.append_nil, ne_eq,
    Option.some.injEq, and_assoc, eq_comm]

theorem held_snoc_of_none (hmade : a.made? = none) (hdrop : a.dropped? = none) (i : Nat) :
    Held (actions ++ [a]) i ↔ Held actions i := by
  rw [held_snoc_iff, made_snoc, hmade, hdrop]
  simp [Held]

/-! ### Branches of branches -/

theorem Scoped.descends_le (h : Scoped actions) {i j : Nat} (hij : Descends actions i j) : i ≤ j := by
  induction hij with
  | refl => exact le_rfl
  | tail _ hstep ih => exact ih.trans (h.parent_lt hstep).le

/-- Later operations do not change what a context descends from. -/
theorem descends_snoc_iff (h : Scoped actions) {i j : Nat} (hj : j < (made actions).length) :
    Descends (actions ++ [a]) i j ↔ Descends actions i j := by
  constructor
  · intro hij
    induction hij with
    | refl => exact .refl
    | tail _ hstep ih =>
      rw [made_snoc, List.getElem?_append_left hj] at hstep
      exact (ih ((h.parent_lt hstep).trans hj)).tail hstep
  · intro hij
    refine Relation.ReflTransGen.mono (fun k l hkl => ?_) _ _ hij
    have hl : l < (made actions).length := (List.getElem?_eq_some_iff.1 hkl).1
    rwa [made_snoc, List.getElem?_append_left hl]

/-- A new root descends from itself alone. -/
theorem descends_root_iff (actions : List Action) (i : Nat) :
    Descends (actions ++ [.root]) i (made actions).length ↔ i = (made actions).length := by
  have hlast : (made (actions ++ [.root]))[(made actions).length]? = some none := by
    simp [made_snoc, Action.made?]
  constructor
  · intro hij
    rcases Relation.ReflTransGen.cases_tail hij with heq | ⟨k, -, hk⟩
    · exact heq.symm
    · rw [hlast] at hk
      cases hk
  · rintro rfl
    exact .refl

/-- A new branch descends from itself and from what its parent descends from. -/
theorem descends_branch_iff {p : Nat} (h : Scoped (actions ++ [.branch p])) (i : Nat) :
    Descends (actions ++ [.branch p]) i (made actions).length ↔
      i = (made actions).length ∨ Descends actions i p := by
  have hlast : (made (actions ++ [.branch p]))[(made actions).length]? = some (some p) := by
    simp [made_snoc, Action.made?]
  have hp : p < (made actions).length := (h.held_target rfl).1
  rw [← descends_snoc_iff (a := .branch p) h.of_append hp]
  constructor
  · intro hij
    rcases Relation.ReflTransGen.cases_tail hij with heq | ⟨k, hik, hk⟩
    · exact .inl heq.symm
    · rw [hlast] at hk
      cases hk
      exact .inr hik
  · rintro (rfl | hip)
    · exact .refl
    · exact Relation.ReflTransGen.tail hip hlast

/-! ### What is heard -/

/-- Every warning is issued by a context that was made before. -/
def IssuedByMade (actions : List Action) : Prop :=
  ∀ e ∈ events actions, e.1 < (made actions).length

open Classical in
theorem heard_snoc (h : Scoped actions) (hissued : IssuedByMade actions) (i : Nat) :
    heard (actions ++ [a]) i = heard actions i ++
      ((event? actions a).toList.filter fun e => Descends (actions ++ [a]) i e.1).map (·.2) := by
  have hold : (events actions).filter (fun e => Descends (actions ++ [a]) i e.1) =
      (events actions).filter fun e => Descends actions i e.1 :=
    List.filter_congr fun e he => by simp [descends_snoc_iff h (hissued e he)]
  rw [heard, events_snoc, List.filter_append, List.map_append, hold, heard]

/-- Only a warning is heard. -/
theorem heard_snoc_of_event?_eq_none (h : Scoped actions) (hissued : IssuedByMade actions)
    (ha : event? actions a = none) (i : Nat) : heard (actions ++ [a]) i = heard actions i := by
  simp [heard_snoc h hissued, ha]

/-! ### What a context shows -/

/-- The data of a context come from its own changes to what it started with. -/
def OwnData (actions : List Action) (i : Nat) (c : Context) : Prop :=
  ∃ before a after start, actions = before ++ a :: after ∧ (made before).length = i ∧
    start? before a = some start ∧
    c.SameData ((editsOf i after).foldl (fun c e => e.apply c) start)

/-- The invariant of a context in hand: its chain of scopes holds what it descends from, itself
first, and its data are its own. -/
structure Tracks (actions : List Action) (i : Nat) (c : Context) : Prop where
  head_lineage : c.lineage.head? = some i
  mem_lineage_iff : ∀ j, j ∈ c.lineage ↔ Descends actions j i
  ownData : OwnData actions i c

theorem Context.SameData.apply {c d : Context} (h : c.SameData d) (e : Context.Edit) :
    (e.apply c).SameData (e.apply d) := by
  unfold Context.SameData at h ⊢
  cases e <;> rw [h] <;> rfl

theorem OwnData.snoc {i : Nat} {c : Context} (h : OwnData actions i c) (a : Action) :
    OwnData (actions ++ [a]) i ((a.editOf? i).elim c fun e => e.apply c) := by
  obtain ⟨before, a', after, start, rfl, hi, hstart, hdata⟩ := h
  refine ⟨before, a', after ++ [a], start, by simp, hi, hstart, ?_⟩
  rw [editsOf_snoc, List.foldl_append]
  cases a.editOf? i with
  | none => exact hdata
  | some e => exact hdata.apply e

/-- An operation keeps the invariant of every context made before, changed by the operation if it
is meant. -/
theorem Tracks.snoc (h : Scoped actions) {i : Nat} {c : Context} (hc : Tracks actions i c)
    (hi : i < (made actions).length) (a : Action) :
    Tracks (actions ++ [a]) i ((a.editOf? i).elim c fun e => e.apply c) where
  head_lineage := by
    rw [← hc.head_lineage]
    cases a.editOf? i with
    | none => rfl
    | some e => cases e <;> rfl
  mem_lineage_iff j := by
    rw [descends_snoc_iff h hi, ← hc.mem_lineage_iff]
    cases a.editOf? i with
    | none => rfl
    | some e => cases e <;> rfl
  ownData := hc.ownData.snoc a

theorem ownData_new {start c : Context} (hstart : start? actions a = some start)
    (hc : c.SameData start) : OwnData (actions ++ [a]) (made actions).length c :=
  ⟨actions, a, [], start, rfl, rfl, hstart, hc⟩

/-- A new root has itself as its only scope. -/
theorem tracks_root (actions : List Action) :
    Tracks (actions ++ [.root]) (made actions).length { lineage := [(made actions).length] } where
  head_lineage := rfl
  mem_lineage_iff j := by rw [descends_root_iff, List.mem_singleton]
  ownData := ownData_new rfl rfl

/-- A new branch has a scope of its own before those of its parent. -/
theorem tracks_branch {p : Nat} (h : Scoped (actions ++ [.branch p])) {s : Session} {c : Context}
    (hrun : run? actions = some s) (hp : s.context? p = some c) (hc : Tracks actions p c) :
    Tracks (actions ++ [.branch p]) (made actions).length
      { c with lineage := (made actions).length :: c.lineage } where
  head_lineage := rfl
  mem_lineage_iff j := by rw [descends_branch_iff h, List.mem_cons, hc.mem_lineage_iff]
  ownData := ownData_new (by rw [start?, hrun]; exact hp) rfl

/-! ### Sessions -/

theorem context?_push (s : Session) (c : Context) (log : WarningLog) (i : Nat) :
    context? ⟨s.held ++ [some c], log⟩ i =
      if i = s.held.length then some c else s.context? i := by
  unfold context?
  rcases Nat.lt_trichotomy i s.held.length with h | h | h
  · rw [if_neg h.ne, List.getElem?_append_left h]
  · subst h
    simp
  · rw [if_neg h.ne', List.getElem?_eq_none (by simp; omega), List.getElem?_eq_none h.le]

theorem context?_set {s : Session} {i : Nat} {c : Context} (hi : s.context? i = some c)
    (x : Option Context) (log : WarningLog) (j : Nat) :
    context? ⟨s.held.set i x, log⟩ j = if j = i then x else s.context? j := by
  have hlt : i < s.held.length := by
    by_contra hge
    simp [context?, List.getElem?_eq_none (Nat.not_lt.1 hge)] at hi
  unfold context?
  rw [List.getElem?_set]
  by_cases h : i = j
  · subst h
    simp [hlt]
  · simp [h, Ne.symm h]

/-- The invariant of a session after a history. -/
structure Session.Follows (actions : List Action) (s : Session) : Prop where
  run : run? actions = some s
  length_held : s.held.length = (made actions).length
  length_log : s.log.length = (made actions).length
  held_iff : ∀ i, (s.context? i).isSome ↔ Held actions i
  tracks : ∀ i c, s.context? i = some c → Tracks actions i c
  log_of : ∀ i, s.log.of i = firstOfEachCode (heard actions i)
  issued : IssuedByMade actions

theorem Session.Follows.lt {s : Session} (hs : s.Follows actions) {i : Nat} {c : Context}
    (hi : s.context? i = some c) : i < (made actions).length :=
  ((hs.held_iff i).1 (by rw [hi]; rfl)).1

theorem Session.Follows.issued_snoc {s : Session} (hs : s.Follows actions) (a : Action) :
    IssuedByMade (actions ++ [a]) := by
  intro e he
  rw [events_snoc, List.mem_append, Option.mem_toList] at he
  have hle := length_made_le_snoc actions a
  rcases he with he | he
  · exact (hs.issued e he).trans_le hle
  · cases a with
    | warn i code message =>
      rw [event?, hs.run, Option.map_eq_some_iff] at he
      obtain ⟨c, hc, rfl⟩ := he
      exact (hs.lt hc).trans_le hle
    | _ => simp [event?] at he

/-- Making a context keeps the invariant. -/
theorem Session.Follows.push {s : Session} (hs : s.Follows actions) (h : Scoped actions)
    {p : Option Nat} (ha : a.made? = some p) {c : Context}
    (hstep : s.step? a = some ⟨s.held ++ [some c], s.log ++ [[]]⟩)
    (hc : Tracks (actions ++ [a]) (made actions).length c) :
    Session.Follows (actions ++ [a]) ⟨s.held ++ [some c], s.log ++ [[]]⟩ where
  run := by rw [run?_snoc, hs.run]; exact hstep
  length_held := by simp [made_snoc, ha, hs.length_held]
  length_log := by simp [made_snoc, ha, hs.length_log]
  held_iff i := by
    rw [held_made_iff h ha, ← hs.held_iff, context?_push, hs.length_held]
    split <;> simp_all
  tracks i d hd := by
    rw [context?_push, hs.length_held] at hd
    split at hd
    · rename_i hi
      rw [hi]
      exact Option.some.inj hd ▸ hc
    · have hedit : a.editOf? i = none := by cases a <;> simp_all [Action.made?, Action.editOf?]
      simpa [hedit] using (hs.tracks i d hd).snoc h (hs.lt hd) a
  log_of i := by
    have hevent : event? actions a = none := by cases a <;> simp_all [Action.made?, event?]
    rw [WarningLog.of_append_nil, hs.log_of, heard_snoc_of_event?_eq_none h hs.issued hevent]
  issued := hs.issued_snoc a

/-- An operation that changes no scope and no other context keeps the invariant. -/
theorem Session.Follows.set {s : Session} (hs : s.Follows actions) (h : Scoped actions)
    (hmade : a.made? = none) (hevent : event? actions a = none) {i : Nat} {c : Context}
    (hi : s.context? i = some c) {x : Option Context}
    (hstep : s.step? a = some { s with held := s.held.set i x })
    (hx : x.isSome ↔ Held (actions ++ [a]) i)
    (hheld : ∀ j, j ≠ i → (Held (actions ++ [a]) j ↔ Held actions j))
    (hedit : ∀ j, j ≠ i → a.editOf? j = none)
    (htracks : ∀ d, x = some d → Tracks (actions ++ [a]) i d) :
    Session.Follows (actions ++ [a]) { s with held := s.held.set i x } where
  run := by rw [run?_snoc, hs.run]; exact hstep
  length_held := by simp [made_snoc, hmade, hs.length_held]
  length_log := by simp [made_snoc, hmade, hs.length_log]
  held_iff j := by
    rw [context?_set hi]
    split
    · rename_i hj
      rw [hj, hx]
    · rename_i hj
      rw [hheld j hj, hs.held_iff]
  tracks j d hd := by
    rw [context?_set hi] at hd
    split at hd
    · rename_i hj
      exact hj ▸ htracks d hd
    · rename_i hj
      simpa [hedit j hj] using (hs.tracks j d hd).snoc h (hs.lt hd) a
  log_of j := by rw [hs.log_of, heard_snoc_of_event?_eq_none h hs.issued hevent]
  issued := hs.issued_snoc a

/-- A warning keeps the invariant: it is recorded where it is heard. -/
theorem Session.Follows.warn {s : Session} (hs : s.Follows actions) (h : Scoped actions) {i : Nat}
    {c : Context} (hi : s.context? i = some c) (code message : Text) :
    Session.Follows (actions ++ [.warn i code message])
      { s with log := (c.warn code message s.log).2 } where
  run := by rw [run?_snoc, hs.run]; simp [step?, hi]
  length_held := by simp [made_snoc, Action.made?, hs.length_held]
  length_log := (WarningLog.length_record s.log c.lineage _).trans
    (by simp [made_snoc, Action.made?, hs.length_log])
  held_iff j := by rw [held_snoc_of_none rfl rfl, ← hs.held_iff]; rfl
  tracks j d hd := (hs.tracks j d hd).snoc h (hs.lt hd) _
  log_of j := by
    have hc := hs.tracks i c hi
    have hevent : event? actions (.warn i code message) = some (i, ⟨code, message, c.location⟩) := by
      rw [event?, hs.run, Option.bind_some, hi]
      rfl
    have hchain : ∀ k ∈ c.lineage, k < s.log.length := fun k hk => by
      rw [hs.length_log]
      exact (h.descends_le ((hc.mem_lineage_iff k).1 hk)).trans_lt (hs.lt hi)
    have hrecord : (c.warn code message s.log).2 =
        s.log.record c.lineage ⟨code, message, c.location⟩ := rfl
    -- The scopes of the chain are those that the issuer descends from, and these hear it.
    rw [hrecord, WarningLog.of_record _ hchain, hs.log_of, heard_snoc h hs.issued, hevent]
    by_cases hj : Descends actions j i
    · rw [if_pos ((hc.mem_lineage_iff j).2 hj), ← firstOfEachCode_append_singleton]
      simp [descends_snoc_iff h (hs.lt hi), hj]
    · rw [if_neg fun hmem => hj ((hc.mem_lineage_iff j).1 hmem)]
      simp [descends_snoc_iff h (hs.lt hi), hj]
  issued := hs.issued_snoc _

/-- **One operation.**  Each operation of a scoped history can be done and keeps the invariant. -/
theorem Session.Follows.step {s : Session} (hs : s.Follows actions) (h : Scoped (actions ++ [a])) :
    ∃ s', Session.Follows (actions ++ [a]) s' := by
  have hbefore : Scoped actions := h.of_append
  have htarget : ∀ i, a.target? = some i → ∃ c, s.context? i = some c := fun i hi =>
    Option.isSome_iff_exists.1 ((hs.held_iff i).2 (h.held_target hi))
  cases a with
  | root =>
    refine ⟨_, hs.push hbefore rfl rfl ?_⟩
    rw [hs.length_log]
    exact tracks_root actions
  | branch i =>
    obtain ⟨c, hc⟩ := htarget i rfl
    refine ⟨_, hs.push hbefore (c := { c with lineage := s.log.length :: c.lineage }) rfl ?_ ?_⟩
    · rw [step?, hc]
      rfl
    · rw [hs.length_log]
      exact tracks_branch h hs.run hc (hs.tracks i c hc)
  | drop i =>
    obtain ⟨c, hc⟩ := htarget i rfl
    refine ⟨_, hs.set hbefore rfl rfl hc (x := none) ?_ ?_ ?_ ?_ ?_⟩
    · rw [step?, hc]
      rfl
    · simp [held_drop_iff]
    · intro j hj
      simp [held_drop_iff, hj]
    · exact fun _ _ => rfl
    · exact fun _ hd => by cases hd
  | edit i e =>
    obtain ⟨c, hc⟩ := htarget i rfl
    refine ⟨_, hs.set hbefore rfl rfl hc (x := some (e.apply c)) ?_ ?_ ?_ ?_ ?_⟩
    · rw [step?, hc]
      rfl
    · rw [held_snoc_of_none rfl rfl]
      exact iff_of_true rfl (h.held_target rfl)
    · exact fun j _ => held_snoc_of_none rfl rfl j
    · exact fun j hj => if_neg (Ne.symm hj)
    · rintro _ ⟨⟩
      simpa [Action.editOf?] using (hs.tracks i c hc).snoc hbefore (hs.lt hc) (.edit i e)
  | warn i code message =>
    obtain ⟨c, hc⟩ := htarget i rfl
    exact ⟨_, hs.warn hbefore hc code message⟩

end Snoc

theorem follows_nil : Session.Follows [] {} where
  run := rfl
  length_held := rfl
  length_log := rfl
  held_iff i := by simp [context?, Held, made]
  tracks i c hc := by simp [context?] at hc
  log_of i := by simp [WarningLog.of, heard, events, firstOfEachCode]
  issued e he := by simp [events] at he

/-- Every scoped history can be run, and its session keeps the invariant. -/
theorem exists_follows {actions : List Action} (h : Scoped actions) :
    ∃ s, Session.Follows actions s := by
  induction actions using List.reverseRecOn with
  | nil => exact ⟨_, follows_nil⟩
  | append_singleton actions a ih =>
    obtain ⟨s, hs⟩ := ih h.of_append
    exact hs.step h

/-- What a context in hand shows after a history: the first warning of each code among those issued
on it or below it, none of them issued before it was made, and its own changes to the data that it
started with. -/
structure TellsHistory (actions : List Action) (s : Session) (i : Nat) (c : Context) : Prop where
  warnings_eq : c.warnings s.log = firstOfEachCode (heard actions i)
  own : ∃ before a after start, actions = before ++ a :: after ∧ (made before).length = i ∧
    (∀ e ∈ events before, ¬ Descends actions i e.1) ∧ start? before a = some start ∧
    c.SameData ((editsOf i after).foldl (fun c e => e.apply c) start)

/-- **What contexts show after a history.**  A history that uses handles in hand can be run, and then
every context in hand shows what the history means for it. -/
theorem run?_scoped {actions : List Action} (h : Scoped actions) :
    ∃ s, run? actions = some s ∧
      ∀ i, Held actions i → ∃ c, s.context? i = some c ∧ TellsHistory actions s i c := by
  obtain ⟨s, hs⟩ := exists_follows h
  refine ⟨s, hs.run, fun i hi => ?_⟩
  obtain ⟨c, hc⟩ := Option.isSome_iff_exists.1 ((hs.held_iff i).2 hi)
  obtain ⟨hhead, -, before, a, after, start, hactions, hmade, hstart, hdata⟩ := hs.tracks i c hc
  refine ⟨c, hc, ?_, before, a, after, start, hactions, hmade, fun e he hie => ?_, hstart, hdata⟩
  · obtain ⟨chain, hchain⟩ := List.head?_eq_some_iff.1 hhead
    rw [Context.warnings, hchain]
    exact hs.log_of i
  -- What was issued before has an issuer of a smaller number, and no context descends from a later
  -- one.
  · obtain ⟨_, hbefore⟩ := exists_follows (Scoped.of_append (hactions ▸ h))
    have hlt := hbefore.issued e he
    have hle := h.descends_le hie
    omega

/-- A history in which a context between two others is dropped before a warning passes it. -/
def droppedBetween : List Action :=
  [.root, .edit 0 (.enter ['c']), .warn 0 ['X'] ['1'], .branch 0, .branch 1, .drop 1,
    .edit 2 (.setIndex ['t'] 3), .warn 2 ['Y'] ['2'], .warn 2 ['X'] ['3'], .edit 0 .leave]

theorem run?_droppedBetween : Scoped droppedBetween ∧ Held droppedBetween 0 ∧
    ∃ s c, run? droppedBetween = some s ∧ s.context? 0 = some c ∧
      TellsHistory droppedBetween s 0 c ∧
      c.warnings s.log = [⟨['X'], ['1'], ['c']⟩, ⟨['Y'], ['2'], ['c']⟩] := by
  have hscoped : Scoped droppedBetween := by decide
  have hheld : Held droppedBetween 0 := by decide
  obtain ⟨s, hrun, hshows⟩ := run?_scoped hscoped
  obtain ⟨c, hc, hshown⟩ := hshows 0 hheld
  refine ⟨hscoped, hheld, s, c, hrun, hc, hshown, ?_⟩
  obtain rfl : _ = s := Option.some.inj hrun
  obtain rfl : _ = c := Option.some.inj hc
  rfl

end Playbill
