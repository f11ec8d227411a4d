import Playbill.Proofs.Selector.Commas
import Playbill.Selector.Parser

/-!
# Trees of tokens

Tokens are gathered into trees one after another.

* `Gathering`, `Gathering.take`: what has been gathered, and how one more token changes it;
  `gather_eq`: all tokens.
* `countP_isComma_gather_le`: every comma outside all blocks is one of the tokens.
* `trees_append_comma`: at a comma outside all blocks the trees fall apart.
* `Padded`: trees with blanks put in at the ends of blocks and at their end; `padded_gather`: so the
  trees of some tokens change when blanks come after them.
* `nodesOf`: the number of trees at any depth; `nodesOf_gather_le`: some tokens make no more trees
  than there are tokens.
-/

namespace Playbill.Css

open SelectorReader (isComma)

/-! ### Gathering -/

/-- What has been gathered: the open blocks, and the content of the innermost one in reverse order.
-/
structure Gathering where
  blocks : OpenBlocks
  content : List Tree

namespace Gathering

/-- What has been gathered after one more token: a block is opened, the innermost one is closed, or
the token stands for itself. -/
def take (g : Gathering) (token : Lexeme) : Gathering :=
  if token.opens?.isSome then ⟨(token, g.content) :: g.blocks, []⟩
  else
    match g.blocks with
    | (start, before) :: outer =>
      if start.opens?.map .closing = some token then
        ⟨outer, .block start g.content.reverse :: before⟩
      else ⟨g.blocks, .leaf token :: g.content⟩
    | [] => ⟨[], .leaf token :: g.content⟩

theorem take_leaf (token : Lexeme) (hopens : token.opens? = none)
    (hcloses : ∀ bracket, token ≠ .closing bracket) (g : Gathering) :
    g.take token = ⟨g.blocks, .leaf token :: g.content⟩ := by
  rcases g with ⟨_ | ⟨block, outer⟩, content⟩
  · simp [take, hopens]
  · have hends : block.1.opens?.map .closing ≠ some token := by
      intro hmap
      obtain ⟨bracket, -, htoken⟩ := Option.map_eq_some_iff.1 hmap
      exact hcloses bracket htoken.symm
    simp only [take, hopens, Option.isSome_none, Bool.false_eq_true, if_false, if_neg hends]

/-- The trees, with every block closed. -/
def close (g : Gathering) : List Tree :=
  closeAll g.blocks g.content

end Gathering

open Gathering

theorem gather_cons (blocks : OpenBlocks) (content : List Tree) (token : Lexeme)
    (tokens : List Lexeme) :
    gather blocks content (token :: tokens) =
      gather (take ⟨blocks, content⟩ token).blocks (take ⟨blocks, content⟩ token).content
        tokens := by
  cases blocks with
  | nil => cases token <;> rfl
  | cons block outer =>
    cases token with
    | closing bracket =>
      have hnone : (Lexeme.closing bracket).opens? = none := rfl
      by_cases hmatch : block.1.opens? = some bracket
      · simp [gather, take, hnone, hmatch]
      · simp [gather, take, hnone, hmatch]
    | _ => simp [gather, take, Lexeme.opens?]

/-- One token after another is taken. -/
theorem gather_eq (blocks : OpenBlocks) (content : List Tree) (tokens : List Lexeme) :
    gather blocks content tokens = (tokens.foldl take ⟨blocks, content⟩).close := by
  induction tokens generalizing blocks content with
  | nil => rfl
  | cons token tokens ih => rw [gather_cons, ih, List.foldl_cons]

/-! ### The trees outside all blocks -/

/-- The trees outside all blocks, in reverse order. -/
def outside : OpenBlocks → List Tree → List Tree
  | [], content => content
  | (_, before) :: outer, _ => outside outer before

/-- A tree in the innermost block is no comma outside all blocks, unless no block is open. -/
theorem countP_outside_cons_le (blocks : OpenBlocks) (tree : Tree) (content : List Tree) :
    (outside blocks (tree :: content)).countP isComma ≤
      (outside blocks content).countP isComma + if isComma tree then 1 else 0 := by
  cases blocks with
  | nil => exact (List.countP_cons ..).le
  | cons block outer => exact Nat.le_add_right _ _

/-- Only a comma adds to the commas outside all blocks. -/
theorem countP_outside_take_le (g : Gathering) (token : Lexeme) :
    (outside (g.take token).blocks (g.take token).content).countP isComma ≤
      (outside g.blocks g.content).countP isComma + if token = .comma then 1 else 0 := by
  have hleaf : (if isComma (.leaf token) then 1 else 0) = if token = .comma then 1 else 0 := by
    cases token <;> rfl
  rcases g with ⟨blocks, content⟩
  unfold take
  split
  · exact Nat.le_add_right _ _
  · dsimp only
    split
    · rename_i start before outer
      split
      · exact (countP_outside_cons_le ..).trans (Nat.le_add_right _ _)
      · exact Nat.le_add_right _ _
    · rw [← hleaf]
      exact countP_outside_cons_le ..

theorem countP_outside_foldl_le (g : Gathering) (tokens : List Lexeme) :
    (outside (tokens.foldl take g).blocks (tokens.foldl take g).content).countP isComma ≤
      (outside g.blocks g.content).countP isComma + tokens.count .comma := by
  induction tokens generalizing g with
  | nil => exact le_rfl
  | cons token tokens ih =>
    have hstep := countP_outside_take_le g token
    have hrest := ih (g.take token)
    rw [List.foldl_cons, List.count_cons]
    simp only [beq_iff_eq] at *
    omega

theorem countP_closeAll (blocks : OpenBlocks) (content : List Tree) :
    (closeAll blocks content).countP isComma = (outside blocks content).countP isComma := by
  induction blocks generalizing content with
  | nil => exact List.countP_reverse
  | cons block outer ih =>
    rw [closeAll, ih]
    cases outer with
    | nil => exact List.countP_cons_of_neg (by simp [isComma])
    | cons => rfl

/-- Every comma outside all blocks is one of the tokens. -/
theorem countP_isComma_gather_le (blocks : OpenBlocks) (content : List Tree)
    (tokens : List Lexeme) :
    (gather blocks content tokens).countP isComma ≤
      (outside blocks content).countP isComma + tokens.count .comma := by
  rw [gather_eq, close, countP_closeAll]
  exact countP_outside_foldl_le ⟨blocks, content⟩ tokens

/-! ### Trees in front -/

/-- More trees in front of all others. -/
def behind (first : List Tree) : OpenBlocks → List Tree → Gathering
  | [], content => ⟨[], content ++ first⟩
  | (start, before) :: outer, content =>
    ⟨(start, (behind first outer before).content) :: (behind first outer before).blocks, content⟩

theorem behind_cons (first : List Tree) (blocks : OpenBlocks) (tree : Tree) (content : List Tree) :
    behind first blocks (tree :: content) =
      ⟨(behind first blocks content).blocks, tree :: (behind first blocks content).content⟩ := by
  cases blocks <;> rfl

theorem closeAll_behind (first : List Tree) (blocks : OpenBlocks) (content : List Tree) :
    (behind first blocks content).close = first.reverse ++ closeAll blocks content := by
  induction blocks generalizing content with
  | nil => exact List.reverse_append
  | cons block outer ih =>
    rw [closeAll, ← ih, behind_cons]
    rfl

theorem take_behind (first : List Tree) (g : Gathering) (token : Lexeme) :
    take (behind first g.blocks g.content) token =
      behind first (g.take token).blocks (g.take token).content := by
  rcases g with ⟨blocks, content⟩
  by_cases hopens : token.opens?.isSome
  · simp only [take, if_pos hopens]
    rfl
  cases blocks with
  | nil => simp only [take, if_neg hopens, behind, List.cons_append]
  | cons block outer =>
    by_cases hends : block.1.opens?.map .closing = some token
    · simp only [take, if_neg hopens, if_pos hends, behind, behind_cons]
    · simp only [take, if_neg hopens, if_neg hends, behind]

theorem foldl_take_behind (first : List Tree) (g : Gathering) (tokens : List Lexeme) :
    tokens.foldl take (behind first g.blocks g.content) =
      behind first (tokens.foldl take g).blocks (tokens.foldl take g).content := by
  induction tokens generalizing g with
  | nil => rfl
  | cons token tokens ih => rw [List.foldl_cons, take_behind, ih, List.foldl_cons]

/-- Trees that are there already stay in front. -/
theorem gather_nil_content (content : List Tree) (tokens : List Lexeme) :
    gather [] content tokens = content.reverse ++ gather [] [] tokens := by
  have hbehind : (⟨[], content⟩ : Gathering) = behind content [] [] := rfl
  rw [gather_eq, gather_eq, hbehind, foldl_take_behind content ⟨[], []⟩, closeAll_behind]
  rfl

/-! ### Commas -/

/-- At a comma behind a text without commas the trees fall apart, unless fewer of the commas than
there are stand outside all blocks. -/
theorem trees_append_comma {t : Text} (ht : ',' ∉ t) (rest : Text) :
    trees (t ++ ',' :: rest) = trees t ++ .leaf .comma :: trees rest ∨
      (trees (t ++ ',' :: rest)).countP isComma ≤ rest.count ',' := by
  rcases lexemes_append_comma ht rest with hlexemes | hcount
  · have hbefore := countP_outside_foldl_le ⟨[], []⟩ (lexemes t)
    have hnone : (lexemes t).count .comma = 0 := by
      have hcount := count_comma_lexemes_le t
      rw [List.count_eq_zero.2 ht] at hcount
      exact Nat.le_zero.1 hcount
    rw [trees, hlexemes, gather_eq, List.foldl_append, List.foldl_cons]
    rcases hg : (lexemes t).foldl take ⟨[], []⟩ with ⟨_ | ⟨block, outer⟩, content⟩
    · -- No block is open, and the comma separates trees.
      refine .inl ?_
      have htrees : trees t = content.reverse := by
        rw [trees, gather_eq, hg]
        rfl
      rw [take_leaf .comma rfl nofun, ← gather_eq, gather_nil_content, htrees, List.reverse_cons,
        List.append_assoc]
      rfl
    · -- The comma is inside a block, and only later ones can stand outside.
      refine .inr ?_
      have hafter := countP_isComma_gather_le (block :: outer) (.leaf .comma :: content)
        (lexemes rest)
      rw [hg, hnone] at hbefore
      rw [take_leaf .comma rfl nofun, ← gather_eq]
      exact hafter.trans ((Nat.add_le_add_right hbefore _).trans
        ((Nat.zero_add _).le.trans (count_comma_lexemes_le rest)))
  · exact .inr ((countP_isComma_gather_le ..).trans ((Nat.zero_add _).le.trans hcount))

/-! ### Blanks -/

/-- Trees with blanks put in at the ends of blocks and at their end. -/
inductive Padded : List Tree → List Tree → Prop
  | nil : Padded [] []
  | space {ts' : List Tree} : Padded [] ts' → Padded [] (.leaf .space :: ts')
  | leaf {ts ts' : List Tree} (token : Lexeme) : Padded ts ts' →
      Padded (.leaf token :: ts) (.leaf token :: ts')
  | block {content content' ts ts' : List Tree} (start : Lexeme) : Padded content content' →
      Padded ts ts' → Padded (.block start content :: ts) (.block start content' :: ts')

theorem Padded.refl : ∀ ts : List Tree, Padded ts ts
  | [] => .nil
  | .leaf token :: ts => .leaf token (refl ts)
  | .block start content :: ts => .block start (refl content) (refl ts)

theorem Padded.spaces (n : Nat) : Padded [] (List.replicate n (.leaf .space)) := by
  induction n with
  | zero => exact .nil
  | succ n ih => exact .space ih

theorem Padded.append_left (first : List Tree) {ts ts' : List Tree} (h : Padded ts ts') :
    Padded (first ++ ts) (first ++ ts') := by
  induction first with
  | nil => exact h
  | cons tree first ih =>
    cases tree with
    | leaf token => exact .leaf token ih
    | block start content => exact .block start (.refl content) ih

theorem padded_closeAll (blocks : OpenBlocks) {content content' : List Tree}
    (h : Padded content.reverse content'.reverse) :
    Padded (closeAll blocks content) (closeAll blocks content') := by
  induction blocks generalizing content content' with
  | nil => exact h
  | cons block outer ih =>
    refine ih ?_
    rw [List.reverse_cons, List.reverse_cons]
    exact .append_left _ (.block _ h .nil)

theorem foldl_take_spaces (g : Gathering) (n : Nat) :
    (List.replicate n .space).foldl take g =
      ⟨g.blocks, List.replicate n (.leaf .space) ++ g.content⟩ := by
  induction n generalizing g with
  | zero => rfl
  | succ n ih =>
    rw [List.replicate_succ, List.foldl_cons, take_leaf .space rfl nofun, ih, List.replicate_succ',
      List.append_assoc]
    rfl

/-- Blanks behind some tokens end blocks that are open, or come after all trees. -/
theorem padded_gather (tokens : List Lexeme) (n : Nat) :
    Padded (gather [] [] tokens) (gather [] [] (tokens ++ List.replicate n .space)) := by
  rw [gather_eq, gather_eq, List.foldl_append, foldl_take_spaces]
  refine padded_closeAll _ ?_
  have hspaces := Padded.append_left (tokens.foldl take ⟨[], []⟩).content.reverse (.spaces n)
  rwa [List.append_nil, ← List.reverse_replicate, ← List.reverse_append] at hspaces

/-- Blanks before some tokens come before all trees. -/
theorem gather_spaces (tokens : List Lexeme) (n : Nat) :
    gather [] [] (List.replicate n .space ++ tokens) =
      List.replicate n (.leaf .space) ++ gather [] [] tokens := by
  rw [gather_eq, List.foldl_append, foldl_take_spaces, ← gather_eq, gather_nil_content]
  simp

/-! ### Number of trees -/

mutual

/-- The number of trees in a tree, itself included. -/
def Tree.nodes : Tree → Nat
  | .leaf _ => 1
  | .block _ content => nodesOf content + 1

/-- The number of trees in some trees. -/
def nodesOf : List Tree → Nat
  | [] => 0
  | t :: ts => t.nodes + nodesOf ts

end

theorem nodesOf_append (ts us : List Tree) : nodesOf (ts ++ us) = nodesOf ts + nodesOf us := by
  induction ts with
  | nil => exact (Nat.zero_add _).symm
  | cons t ts ih => rw [List.cons_append, nodesOf, nodesOf, ih, Nat.add_assoc]

theorem nodesOf_reverse (ts : List Tree) : nodesOf ts.reverse = nodesOf ts := by
  induction ts with
  | nil => rfl
  | cons t ts ih =>
    rw [List.reverse_cons, nodesOf_append, ih, nodesOf, nodesOf, nodesOf]
    omega

theorem nodesOf_closeAll_cons (blocks : OpenBlocks) (tree : Tree) (content : List Tree) :
    nodesOf (closeAll blocks (tree :: content)) =
      nodesOf (closeAll blocks content) + tree.nodes := by
  induction blocks generalizing tree content with
  | nil =>
    rw [closeAll, closeAll, nodesOf_reverse, nodesOf_reverse, nodesOf, Nat.add_comm]
  | cons block outer ih =>
    rw [closeAll, closeAll, ih, ih]
    simp only [Tree.nodes, nodesOf_reverse, nodesOf]
    omega

/-- Each token makes one tree at most. -/
theorem nodesOf_close_take_le (g : Gathering) (token : Lexeme) :
    nodesOf (g.take token).close ≤ nodesOf g.close + 1 := by
  have hleaf : nodesOf (closeAll g.blocks (.leaf token :: g.content)) ≤ nodesOf g.close + 1 :=
    (nodesOf_closeAll_cons ..).le
  rcases g with ⟨blocks, content⟩
  unfold take
  split
  · exact (nodesOf_closeAll_cons blocks (.block token []) content).le
  · dsimp only
    split
    · split
      · exact Nat.le_add_right _ _
      · exact hleaf
    · exact hleaf

theorem nodesOf_close_foldl_le (g : Gathering) (tokens : List Lexeme) :
    nodesOf (tokens.foldl take g).close ≤ nodesOf g.close + tokens.length := by
  induction tokens generalizing g with
  | nil => exact le_rfl
  | cons token tokens ih =>
    have hstep := nodesOf_close_take_le g token
    have hrest := ih (g.take token)
    rw [List.foldl_cons, List.length_cons]
    omega

theorem nodesOf_gather_le (tokens : List Lexeme) :
    nodesOf (gather [] [] tokens) ≤ tokens.length := by
  rw [gather_eq]
  exact (nodesOf_close_foldl_le ⟨[], []⟩ tokens).trans (Nat.zero_add _).le

end Playbill.Css
