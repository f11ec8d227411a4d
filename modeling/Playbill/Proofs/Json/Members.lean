import Mathlib.Tactic
import Playbill.Json.Basic

/-!
# Members by key

* `find?_insert`: the members after one was inserted.
* `keys_put`, `find?_put`: the keys and the members after one was put among them.
* `collect`: members put one after another; `keys_collect`, `nodup_keys_collect`, `find?_collect`:
  each key stands once, where it came first, with the value that came last.
* `InOrder`: members in ascending order of their keys; `ofList_of_inOrder`: an object keeps them so.
-/

namespace Playbill.Members

variable {α : Type}

theorem find?_cons (key k : Text) (value : α) (members : List (Text × α)) :
    find? key ((k, value) :: members) = if k = key then some value else find? key members := by
  by_cases h : k = key <;> simp [find?, h]

theorem find?_insert (key other : Text) (value : α) (members : List (Text × α)) :
    find? other (insert key value members) =
      if key = other then some value else find? other members := by
  fun_induction insert key value members with
  | case1 => rw [find?_cons]
  | case2 k v members hkey =>
    rw [find?_cons, find?_cons, beq_iff_eq.1 hkey]
    split_ifs <;> rfl
  | case3 => rw [find?_cons]
  | case4 k v members hkey _ ih =>
    have hne : ¬ k = key := fun h => hkey (beq_iff_eq.2 h)
    rw [find?_cons, find?_cons, ih]
    split_ifs with hk hkey' <;> first | rfl | exact absurd (hk.trans hkey'.symm) hne

@[simp] theorem find?_insert_self (key : Text) (value : α) (members : List (Text × α)) :
    find? key (insert key value members) = some value := by
  rw [find?_insert, if_pos rfl]

/-! ### In the order of writing -/

theorem keys_put (key : Text) (value : α) (members : List (Text × α)) :
    (put key value members).map Prod.fst =
      if key ∈ members.map Prod.fst then members.map Prod.fst
      else members.map Prod.fst ++ [key] := by
  fun_induction put key value members with
  | case1 => simp
  | case2 k v members hkey => simp [beq_iff_eq.1 hkey]
  | case3 k v members hkey ih =>
    have hne : ¬ key = k := fun h => hkey (beq_iff_eq.2 h.symm)
    simp only [List.map_cons, ih, List.mem_cons, hne, false_or]
    split_ifs <;> simp

theorem find?_put (key other : Text) (value : α) (members : List (Text × α)) :
    find? other (put key value members) =
      if key = other then some value else find? other members := by
  fun_induction put key value members with
  | case1 => rw [find?_cons]
  | case2 k v members hkey =>
    rw [find?_cons, find?_cons, beq_iff_eq.1 hkey]
    split_ifs <;> rfl
  | case3 k v members hkey ih =>
    have hne : ¬ k = key := fun h => hkey (beq_iff_eq.2 h)
    rw [find?_cons, find?_cons, ih]
    split_ifs with hk hkey' <;> first | rfl | exact absurd (hk.trans hkey'.symm) hne

/-- Members put one after another. -/
def collect (members : List (Text × α)) : List (Text × α) :=
  members.foldl (fun collected member => put member.1 member.2 collected) []

theorem collect_append_singleton (members : List (Text × α)) (member : Text × α) :
    collect (members ++ [member]) = put member.1 member.2 (collect members) := by
  rw [collect, List.foldl_append]
  rfl

/-- Each key stands where it came first. -/
theorem keys_collect (members : List (Text × α)) :
    (collect members).map Prod.fst = (members.map Prod.fst).eraseDups := by
  induction members using List.reverseRecOn with
  | nil => rfl
  | append_singleton members member ih =>
    rw [collect_append_singleton, keys_put, ih, List.map_append, List.eraseDups_append]
    by_cases h : member.1 ∈ members.map Prod.fst
    · simp [h, List.removeAll]
    · simp [h, List.removeAll, List.eraseDups_cons]

/-- No key stands twice. -/
theorem nodup_keys_collect (members : List (Text × α)) :
    ((collect members).map Prod.fst).Nodup := by
  induction members using List.reverseRecOn with
  | nil => exact List.nodup_nil
  | append_singleton members member ih =>
    rw [collect_append_singleton, keys_put]
    split_ifs with hmem
    · exact ih
    · exact List.nodup_append_comm.1 (List.nodup_cons.2 ⟨hmem, ih⟩)

/-- Each key has the value that came last with it. -/
theorem find?_collect (key : Text) (members : List (Text × α)) :
    find? key (collect members) = find? key members.reverse := by
  induction members using List.reverseRecOn with
  | nil => rfl
  | append_singleton members member ih =>
    rw [collect_append_singleton, find?_put, ih, List.reverse_append]
    exact (find?_cons ..).symm

/-! ### In the order of keys -/

theorem keyBefore_irrefl (key : Text) : keyBefore key key = false := by
  induction key with
  | nil => rfl
  | cons c cs ih => simp [keyBefore, ih]

theorem keyBefore_asymm {key other : Text} (h : keyBefore key other) :
    keyBefore other key = false := by
  fun_induction keyBefore key other with
  | case1 => cases h
  | case2 => rfl
  | case3 c cs d ds ih =>
    simp only [Bool.or_eq_true, decide_eq_true_eq, Bool.and_eq_true, beq_iff_eq] at h
    rcases h with hlt | ⟨rfl, hrest⟩
    · simp [keyBefore, Char.not_lt.1 (Char.lt_asymm hlt), (Char.ne_of_lt hlt).symm]
    · simp [keyBefore, ih hrest]

/-- The members stand in ascending order of their keys. -/
def InOrder (members : List (Text × α)) : Prop :=
  (members.map Prod.fst).Pairwise fun key other => keyBefore key other

/-- A member whose key comes after all others is put at the end. -/
theorem insert_of_after {key : Text} (value : α) {members : List (Text × α)}
    (h : ∀ other ∈ members.map Prod.fst, keyBefore other key) :
    insert key value members = members ++ [(key, value)] := by
  induction members with
  | nil => rfl
  | cons member members ih =>
    rw [List.map_cons, List.forall_mem_cons] at h
    have hne : (member.1 == key) = false :=
      beq_eq_false_iff_ne.2 fun heq => by simp [heq, keyBefore_irrefl] at h
    simp [insert, hne, keyBefore_asymm h.1, ih h.2]

/-- Members that stand in order stay as they are. -/
theorem ofList_of_inOrder {members : List (Text × α)} (h : InOrder members) :
    ofList members = members := by
  induction members using List.reverseRecOn with
  | nil => rfl
  | append_singleton members member ih =>
    rw [InOrder, List.map_append, List.pairwise_append] at h
    rw [ofList, List.foldl_append]
    change insert member.1 member.2 (ofList members) = _
    rw [ih h.1, insert_of_after member.2 fun key hkey => h.2.2 key hkey _ List.mem_cons_self]

end Playbill.Members
