/-
Singly linked lists in a table of links. A list is followed from a pointer until a
link is null. A node is moved to the end by one pass that stops at the last node; where
the node was in the list already, the list is cut there.
-/
import Mathlib.Algebra.GroupWithZero.Nat
import Mathlib.Algebra.Ring.Int.Defs
import Mathlib.Data.List.Nodup
import Mathlib.Data.List.Perm.Subperm
import Mathlib.Data.List.TakeWhile
import Mathlib.Logic.Function.Basic
import Mathlib.Tactic.Common

namespace Gramado.Lib.Pointers

open Function

variable {κ : Type}

/-- From `p` on the links lead over the listed nodes to a null link. -/
def Linked (next : κ → Option κ) : Option κ → List κ → Prop
  | p, [] => p = none
  | p, v :: rest => p = some v ∧ Linked next (next v) rest

/-- The nodes that a loop along the links visits, if it ends within `fuel` links. -/
def nodes (next : κ → Option κ) : Nat → Option κ → Option (List κ)
  | _, none => some []
  | 0, some _ => none
  | fuel + 1, some v => (nodes next fuel (next v)).map (v :: ·)

/-- Whether such a loop comes to `w`, where it stops. -/
def reaches [DecidableEq κ] (next : κ → Option κ) : Nat → Option κ → κ → Option Bool
  | _, none, _ => some false
  | 0, some _, _ => none
  | fuel + 1, some v, w => if v = w then some true else reaches next fuel (next v) w

/-- The first node with a property that such a loop comes to, if there is one. -/
def firstNode (next : κ → Option κ) (test : κ → Bool) : Nat → Option κ → Option (Option κ)
  | _, none => some none
  | 0, some _ => none
  | fuel + 1, some v => if test v then some (some v) else firstNode next test fuel (next v)

section Following

variable {next other : κ → Option κ} {p : Option κ} {v : κ} {list more front back : List κ}

theorem linked_unique (linked : Linked next p list) (again : Linked next p more) :
    list = more := by
  induction list generalizing p more with
  | nil =>
      cases more with
      | nil => rfl
      | cons v rest => exact absurd (linked.symm.trans again.1) (by simp)
  | cons v rest ih =>
      rcases linked with ⟨rfl, later⟩
      cases more with
      | nil => cases again
      | cons u tail =>
          rcases again with ⟨same, behind⟩
          cases same
          rw [ih later behind]

theorem linked_congr (same : ∀ v ∈ list, other v = next v) (linked : Linked next p list) :
    Linked other p list := by
  induction list generalizing p with
  | nil => exact linked
  | cons v rest ih =>
      rcases linked with ⟨rfl, later⟩
      refine ⟨rfl, ?_⟩
      rw [same v List.mem_cons_self]
      exact ih (fun u member => same u (List.mem_cons_of_mem v member)) later

theorem linked_suffix (linked : Linked next p (front ++ v :: back)) :
    Linked next (some v) (v :: back) := by
  induction front generalizing p with
  | nil =>
      rcases linked with ⟨rfl, later⟩
      exact ⟨rfl, later⟩
  | cons u front ih => exact ih linked.2

theorem linked_nodup (linked : Linked next p list) : list.Nodup := by
  induction list generalizing p with
  | nil => exact List.nodup_nil
  | cons v rest ih =>
      apply List.nodup_cons.mpr
      constructor
      · intro again
        rcases List.append_of_mem again with ⟨front, back, split⟩
        have here : Linked next (some v) (v :: rest) := ⟨rfl, linked.2⟩
        have later : Linked next (some v) (v :: back) := linked_suffix (split ▸ linked.2)
        -- The list from `v` on would be shorter than itself.
        have same := congrArg List.length (linked_unique here later)
        simp only [split, List.length_cons, List.length_append] at same
        omega
      · exact ih linked.2

theorem linked_head (linked : Linked next p list) : list.head? = p := by
  cases list with
  | nil => exact linked.symm
  | cons v rest => exact linked.1.symm

theorem nodes_of_linked {fuel : Nat} (linked : Linked next p list)
    (enough : list.length ≤ fuel) : nodes next fuel p = some list := by
  induction list generalizing p fuel with
  | nil =>
      cases linked
      cases fuel <;> rfl
  | cons v rest ih =>
      rcases linked with ⟨rfl, later⟩
      cases fuel with
      | zero => cases enough
      | succ fuel => rw [nodes, ih later (Nat.le_of_succ_le_succ enough), Option.map_some]

theorem reaches_of_linked [DecidableEq κ] {fuel : Nat} {w : κ} (linked : Linked next p list)
    (enough : list.length ≤ fuel) : reaches next fuel p w = some (decide (w ∈ list)) := by
  induction list generalizing p fuel with
  | nil =>
      cases linked
      cases fuel <;> simp [reaches]
  | cons v rest ih =>
      rcases linked with ⟨rfl, later⟩
      cases fuel with
      | zero => cases enough
      | succ fuel =>
          rw [reaches]
          by_cases here : v = w
          · simp [here]
          · rw [if_neg here, ih later (Nat.le_of_succ_le_succ enough)]
            simp [Ne.symm here]

theorem firstNode_of_linked {test : κ → Bool} {fuel : Nat} (linked : Linked next p list)
    (enough : list.length ≤ fuel) : firstNode next test fuel p = some (list.find? test) := by
  induction list generalizing p fuel with
  | nil =>
      cases linked
      cases fuel <;> rfl
  | cons v rest ih =>
      rcases linked with ⟨rfl, later⟩
      cases fuel with
      | zero => cases enough
      | succ fuel =>
          rw [firstNode, List.find?_cons]
          cases test v with
          | true => rfl
          | false =>
              rw [if_neg Bool.false_ne_true]
              exact ih later (Nat.le_of_succ_le_succ enough)

end Following

theorem linked_length_le {next : Nat → Option Nat} {p : Option Nat} {list : List Nat} {n : Nat}
    (linked : Linked next p list) (below : ∀ v ∈ list, v < n) : list.length ≤ n := by
  have inside : list ⊆ List.range n := fun v member => List.mem_range.mpr (below v member)
  simpa using ((linked_nodup linked).subperm inside).length_le

section Raising

variable [DecidableEq κ] {next : κ → Option κ} {p : Option κ} {u v first : κ} {list : List κ}

/-- The list that ends with `v`: cut at `v`, or longer by `v`. -/
def upTo (v : κ) (list : List κ) : List κ :=
  list.takeWhile (· ≠ v) ++ [v]

/-- The last node is linked to `v`, and `v` to nothing. -/
def relink (next : κ → Option κ) (u v : κ) : κ → Option κ :=
  update (update next u (some v)) v none

theorem linked_relink (linked : Linked next (some first) list) (last : list.getLast? = some u) :
    Linked (relink next u v) (some first) (upTo v list) := by
  induction list generalizing first with
  | nil => cases linked
  | cons x rest ih =>
      have once := linked_nodup linked
      rcases linked with ⟨same, later⟩
      rw [Option.some.injEq] at same
      subst same
      by_cases here : first = v
      · subst here
        have cut : upTo first (first :: rest) = [first] := by simp [upTo]
        rw [cut]
        exact ⟨rfl, by simp [relink, Linked]⟩
      · have kept : upTo v (first :: rest) = first :: upTo v rest := by simp [upTo, here]
        rw [kept]
        refine ⟨rfl, ?_⟩
        cases rest with
        | nil =>
            simp only [List.getLast?_singleton, Option.some.injEq] at last
            subst last
            simp only [relink, upTo, List.takeWhile_nil, List.nil_append, update_of_ne here,
              update_self]
            exact ⟨rfl, by simp [Linked]⟩
        | cons y ys =>
            -- `first` is neither the last node nor `v`: its link stays.
            have before : first ≠ u := by
              rintro rfl
              have inside := List.mem_of_getLast? (List.getLast?_cons_cons ▸ last)
              exact (List.nodup_cons.mp once).1 inside
            have link : relink next u v first = next first := by
              rw [relink, update_of_ne here, update_of_ne before]
            rw [link, later.1]
            exact ih ⟨rfl, later.2⟩ (List.getLast?_cons_cons ▸ last)

theorem getLast_upTo : (upTo v list).getLast? = some v := by
  simp [upTo]

theorem mem_upTo : u ∈ upTo v list ↔ u ∈ list.takeWhile (· ≠ v) ∨ u = v := by
  simp [upTo]

theorem upTo_fresh (fresh : v ∉ list) : upTo v list = list ++ [v] := by
  have whole : list.takeWhile (· ≠ v) = list := by
    apply List.takeWhile_eq_self_iff.mpr
    intro u member
    simpa using fun same : u = v => fresh (same ▸ member)
  rw [upTo, whole]

theorem upTo_last (once : list.Nodup) (last : list.getLast? = some v) : upTo v list = list := by
  rcases List.getLast?_eq_some_iff.mp last with ⟨front, rfl⟩
  have fresh : v ∉ front := by
    intro member
    exact (List.disjoint_of_nodup_append once) member List.mem_cons_self
  have stop : (front ++ [v]).takeWhile (· ≠ v) = front := by
    rw [List.takeWhile_append_of_pos]
    · simp
    · intro u member
      simpa using fun same : u = v => fresh (same ▸ member)
  rw [upTo, stop]

theorem upTo_first (head : list.head? = some v) : upTo v list = [v] := by
  cases list with
  | nil => cases head
  | cons u rest =>
      cases head
      simp [upTo]

theorem upTo_head (head : (upTo v list).head? = some u) : list.head? = some u ∨ u = v := by
  cases list with
  | nil =>
      cases head
      exact Or.inr rfl
  | cons w rest =>
      by_cases same : w = v
      · subst same
        rw [upTo_first rfl] at head
        exact Or.inl head
      · rw [upTo, List.takeWhile_cons_of_pos (by simpa using same)] at head
        exact Or.inl head

theorem foldl_upTo_mem {new : List κ} (member : u ∈ new.foldl (fun list v => upTo v list) list) :
    u ∈ list ∨ u ∈ new := by
  induction new generalizing list with
  | nil => exact Or.inl member
  | cons v rest ih =>
      rcases ih member with inside | later
      · rcases mem_upTo.mp inside with old | same
        · exact Or.inl (List.takeWhile_subset _ old)
        · exact Or.inr (same ▸ List.mem_cons_self)
      · exact Or.inr (List.mem_cons_of_mem v later)

theorem foldl_upTo_head {new : List κ}
    (head : (new.foldl (fun list v => upTo v list) list).head? = some u) :
    list.head? = some u ∨ u ∈ new := by
  induction new generalizing list with
  | nil => exact Or.inl head
  | cons v rest ih =>
      rcases ih head with first | later
      · rcases upTo_head first with old | same
        · exact Or.inl old
        · exact Or.inr (same ▸ List.mem_cons_self)
      · exact Or.inr (List.mem_cons_of_mem v later)

theorem foldl_upTo_last {new : List κ} (last : new.getLast? = some u) :
    (new.foldl (fun list v => upTo v list) list).getLast? = some u := by
  rcases List.getLast?_eq_some_iff.mp last with ⟨front, rfl⟩
  rw [List.foldl_append]
  exact getLast_upTo

theorem foldl_upTo_fresh {new : List κ} (once : new.Nodup) (fresh : ∀ v ∈ new, v ∉ list) :
    new.foldl (fun list v => upTo v list) list = list ++ new := by
  induction new generalizing list with
  | nil => simp
  | cons v rest ih =>
      rw [List.nodup_cons] at once
      rw [List.foldl_cons, upTo_fresh (fresh v List.mem_cons_self), ih once.2]
      · simp
      · intro u member inside
        rcases List.mem_append.mp inside with old | here
        · exact fresh u (List.mem_cons_of_mem v member) old
        · rw [List.mem_singleton] at here
          exact once.1 (here ▸ member)

/-- Once the first node of a list is raised, it is alone, and the others come behind it. -/
theorem foldl_upTo_first {new : List κ} (once : new.Nodup) (some_new : new ≠ [])
    (head : list.head? = new.head?) :
    new.foldl (fun list v => upTo v list) list = new := by
  cases new with
  | nil => exact absurd rfl some_new
  | cons v rest =>
      rw [List.nodup_cons] at once
      rw [List.foldl_cons, upTo_first head, foldl_upTo_fresh once.2]
      · rfl
      · intro u member inside
        rw [List.mem_singleton] at inside
        exact once.1 (inside ▸ member)

end Raising

end Gramado.Lib.Pointers
