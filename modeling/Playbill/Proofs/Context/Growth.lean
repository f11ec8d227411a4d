import Mathlib.Logic.Relation
import Playbill.Proofs.Context.History

/-!
# Growing logs

Logs of warnings only grow: scopes are opened, and warnings are recorded.

* `WarningLog.Grows`: one log has grown into another; `Grows.holds`, `countP_code_le_one`: what a
  scope holds it keeps, and it never holds two warnings of one code.
* `WarningLog.recordAll`: warnings that are recorded one after another.
* `WarningLog.Gains`: the scopes of a chain have gained at most one warning of a code;
  `WarningLog.gains_recordAll`: that is the first of the warnings, if all are of that code.
-/

namespace Playbill

namespace WarningLog

/-- Whether a scope holds a warning of a code. -/
def holds (log : WarningLog) (scope : Nat) (code : Text) : Bool :=
  (log.of scope).any (·.code == code)

/-! ### One step after another -/

/-- A scope is opened, or a warning is recorded. -/
inductive Growth : WarningLog → WarningLog → Prop
  | opened (log : WarningLog) : Growth log (log ++ [[]])
  | recorded (log : WarningLog) (scopes : List Nat) (w : Warning) :
      Growth log (log.record scopes w)

/-- One log grows into another. -/
def Grows : WarningLog → WarningLog → Prop :=
  Relation.ReflTransGen Growth

variable {log after : WarningLog}

theorem Grows.recorded (log : WarningLog) (scopes : List Nat) (w : Warning) :
    Grows log (log.record scopes w) :=
  .single (.recorded log scopes w)

theorem of_modify_cases (log : WarningLog) (f : List Warning → List Warning) (i j : Nat) :
    of (log.modify i f) j = of log j ∨ of (log.modify i f) j = f (of log j) := by
  by_cases hi : i < log.length
  · rw [of_modify log f hi]
    split_ifs
    exacts [.inr rfl, .inl rfl]
  · rw [List.modify_eq_self (Nat.le_of_not_lt hi)]
    exact .inl rfl

/-- Recording adds a warning to a scope once, or not at all. -/
theorem of_record_cases (log : WarningLog) (scopes : List Nat) (w : Warning) (j : Nat) :
    of (log.record scopes w) j = of log j ∨ of (log.record scopes w) j = addFirst w (of log j) := by
  induction scopes generalizing log with
  | nil => exact .inl rfl
  | cons i scopes ih =>
    have hrec : log.record (i :: scopes) w = record (log.modify i (addFirst w)) scopes w := rfl
    rw [hrec]
    rcases ih (log.modify i (addFirst w)) with h | h <;>
      rcases of_modify_cases log (addFirst w) i j with h' | h' <;> rw [h, h']
    · exact .inl rfl
    · exact .inr rfl
    · exact .inr rfl
    · exact .inr (addFirst_addFirst w _)

theorem Grows.length_le (h : Grows log after) : log.length ≤ after.length := by
  induction h with
  | refl => exact le_rfl
  | tail _ hstep ih =>
    cases hstep with
    | opened => exact ih.trans (by simp)
    | recorded => rwa [length_record]

theorem any_code_addFirst {code : Text} {w : Warning} {ws : List Warning}
    (h : ws.any (·.code == code)) : (addFirst w ws).any (·.code == code) := by
  unfold addFirst
  split_ifs
  · exact h
  · rw [List.any_append, h, Bool.true_or]

/-- A scope keeps what it holds. -/
theorem Grows.holds {scope : Nat} {code : Text} (h : Grows log after)
    (hholds : log.holds scope code) : after.holds scope code := by
  induction h with
  | refl => exact hholds
  | @tail middle _ _ hstep ih =>
    cases hstep with
    | opened => rwa [WarningLog.holds, of_append_nil]
    | recorded scopes w =>
      unfold WarningLog.holds at ih ⊢
      rcases of_record_cases middle scopes w scope with h | h <;> rw [h]
      exacts [ih, any_code_addFirst ih]

theorem countP_code_addFirst {code : Text} {ws : List Warning}
    (h : ws.countP (·.code == code) ≤ 1) (w : Warning) :
    (addFirst w ws).countP (·.code == code) ≤ 1 := by
  unfold addFirst
  split_ifs with hany
  · exact h
  · rw [List.countP_append, List.countP_singleton]
    split_ifs with hcode
    · have hnone : ws.countP (·.code == code) = 0 := by
        rw [List.countP_eq_zero]
        intro v hv hsame
        exact hany (List.any_eq_true.2 ⟨v, hv, by rw [beq_iff_eq.1 hcode]; exact hsame⟩)
      rw [hnone]
    · exact h

/-- No scope of a log that has grown from nothing holds two warnings of one code. -/
theorem countP_code_le_one (h : Grows [] log) (scope : Nat) (code : Text) :
    (log.of scope).countP (·.code == code) ≤ 1 := by
  induction h with
  | refl => exact Nat.zero_le 1
  | @tail middle _ _ hstep ih =>
    cases hstep with
    | opened => rwa [of_append_nil]
    | recorded scopes w =>
      rcases of_record_cases middle scopes w scope with h | h <;> rw [h]
      exacts [ih, countP_code_addFirst ih w]

/-- So it holds exactly one of a code that it holds. -/
theorem countP_code_eq_one (h : Grows [] log) {scope : Nat} {code : Text}
    (hholds : log.holds scope code) : (log.of scope).countP (·.code == code) = 1 := by
  obtain ⟨w, hw, hcode⟩ := List.any_eq_true.1 hholds
  exact le_antisymm (countP_code_le_one h scope code) (List.countP_pos_iff.2 ⟨w, hw, hcode⟩)

/-- A warning that is recorded is held by every scope of the chain. -/
theorem holds_record {scopes : List Nat} (hscopes : ∀ i ∈ scopes, i < log.length) (w : Warning)
    {scope : Nat} (hmem : scope ∈ scopes) : (log.record scopes w).holds scope w.code := by
  rw [WarningLog.holds, of_record w hscopes, if_pos hmem, addFirst]
  split_ifs with h
  · exact h
  · simp

/-! ### Warnings of one code -/

/-- Records warnings one after another. -/
def recordAll (log : WarningLog) (scopes : List Nat) (ws : List Warning) : WarningLog :=
  ws.foldl (fun log w => log.record scopes w) log

theorem recordAll_append (log : WarningLog) (scopes : List Nat) (ws vs : List Warning) :
    log.recordAll scopes (ws ++ vs) = (log.recordAll scopes ws).recordAll scopes vs :=
  List.foldl_append

/-- Each scope of a chain that holds no warning of a code has gained a warning, if there is one, and
nothing else has changed. -/
def Gains (scopes : List Nat) (code : Text) (w : Option Warning) (log after : WarningLog) : Prop :=
  ∀ scope, after.of scope =
    if scope ∈ scopes ∧ ¬ log.holds scope code then log.of scope ++ w.toList else log.of scope

/-- Of warnings of one code the first alone is kept. -/
theorem gains_recordAll {scopes : List Nat} {code : Text} {ws : List Warning}
    (hws : ∀ w ∈ ws, w.code = code) {log : WarningLog} (hscopes : ∀ i ∈ scopes, i < log.length) :
    Gains scopes code ws.head? log (log.recordAll scopes ws) := by
  induction ws generalizing log with
  | nil =>
    intro scope
    rw [List.head?_nil, Option.toList_none, List.append_nil, ite_self]
    rfl
  | cons w ws ih =>
    rw [List.forall_mem_cons] at hws
    obtain ⟨rfl, hws⟩ := hws
    have hrecorded : ∀ i ∈ scopes, i < (log.record scopes w).length := by
      simpa only [length_record] using hscopes
    have hgains := ih hws hrecorded
    intro scope
    refine (hgains scope).trans ?_
    have hrecord := of_record w hscopes scope
    by_cases hmem : scope ∈ scopes
    · rw [if_pos hmem] at hrecord
      -- Whatever the log was, the scope now holds the code.
      rw [if_neg fun h => h.2 (holds_record hscopes w hmem), hrecord, addFirst]
      by_cases h : log.holds scope w.code
      · exact (if_pos h).trans (if_neg fun hnot => hnot.2 h).symm
      · exact (if_neg h).trans (if_pos ⟨hmem, h⟩).symm
    · rw [if_neg fun h => hmem h.1, if_neg fun h => hmem h.1, hrecord, if_neg hmem]

end WarningLog

end Playbill
