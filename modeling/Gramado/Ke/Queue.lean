/-
The list that a scheduler strings from thread to thread, in the order of the table,
while the rest of the table keeps pointers of earlier rounds.
-/
import Gramado.Ke.Zombie
import Gramado.Lib.Links

namespace Gramado.Ke.Sched

open Gramado.Lib.Links

/-- A pointer to a thread, NULL or not, and the pointer that stands in the thread. -/
def pointers : Marks (Option Tid) where
  cell := fun c => c ≠ none
  ends := fun c => c = none
  apart := fun _ cell ends => cell ends

def Kernel.follow (k : Kernel) (c : Option Tid) : Option Tid :=
  c.bind fun i => (k.threadList i).bind Thread.next

/-- The list so far: its last thread is `last`, and all of it stands before `n`. -/
structure Strung (n : Nat) (k : Kernel) (list : List Tid) (last : Tid) : Prop where
  path : Path pointers k.follow (some INIT_TID) (list.map some) (some last)
  ordered : (list ++ [last]).Pairwise (· < ·)
  below : ∀ j, j ∈ list ++ [last] → j.val < n

section Strings

variable {k k' : Kernel} {n m : Nat} {i j last : Tid} {z : Thread} {list more : List Tid}

theorem follow_congr (same : (k'.threadList i).map Thread.next = (k.threadList i).map Thread.next) :
    k'.follow (some i) = k.follow (some i) := by
  have bind : ∀ t : Option Thread, t.bind Thread.next = (t.map Thread.next).bind id := by
    intro t
    cases t <;> rfl
  change (k'.threadList i).bind Thread.next = (k.threadList i).bind Thread.next
  rw [bind, bind, same]

theorem onZombie_next (zombie : Zombie k i z) (done : onZombie k i = .ok k') :
    (k'.threadList j).map Thread.next = (k.threadList j).map Thread.next := by
  rw [(onZombie_ok zombie done).1 j]
  split
  · next same =>
      rw [same, zombie.1]
      rfl
  · rw [Option.map_map]
    exact congrArg (fun f => (k.threadList j).map f) (funext fun t => visited_next)

theorem strung_start : Strung 1 k [] INIT_TID := by
  constructor
  · rfl
  · exact List.pairwise_singleton _ _
  · intro j member
    rw [List.nil_append, List.mem_singleton] at member
    subst member
    decide

theorem strung_kept (strung : Strung n k list last) (more : n ≤ m)
    (next : ∀ j, j ∈ list → (k'.threadList j).map Thread.next = (k.threadList j).map Thread.next) :
    Strung m k' list last where
  path := path_congr (fun c member => by
    rcases List.mem_map.mp member with ⟨j, inside, rfl⟩
    exact follow_congr (next j inside)) strung.path
  ordered := strung.ordered
  below := fun j member => Nat.lt_of_lt_of_le (strung.below j member) more

theorem strung_apart (strung : Strung n k list last) (member : j ∈ list) : j ≠ last := by
  rintro rfl
  have twice := (List.pairwise_append.mp strung.ordered).2.2 j member j (by simp)
  exact absurd twice (Nat.lt_irrefl j.val)

theorem strung_path (strung : Strung n k list last)
    (next : ∀ j, j ∈ list → (k'.threadList j).map Thread.next = (k.threadList j).map Thread.next) :
    Path pointers k'.follow (some INIT_TID) ((list ++ [last]).map some)
      (k'.follow (some last)) := by
  have kept := strung_kept strung (Nat.le_refl n) next
  rw [List.map_append]
  exact path_append kept.path (Option.some_ne_none last)

theorem strung_linked (strung : Strung n k list last) (here : i.val = n)
    (behind : k'.follow (some last) = some i)
    (next : ∀ j, j ∈ list → (k'.threadList j).map Thread.next = (k.threadList j).map Thread.next) :
    Strung (n + 1) k' (list ++ [last]) i where
  path := behind ▸ strung_path strung next
  ordered := by
    apply List.pairwise_append.mpr
    refine ⟨strung.ordered, List.pairwise_singleton _ _, ?_⟩
    intro j member e single
    rw [List.mem_singleton] at single
    subst single
    have less := strung.below j member
    change j.val < e.val
    omega
  below := by
    intro j member
    rcases List.mem_append.mp member with earlier | single
    · exact Nat.lt_succ_of_lt (strung.below j earlier)
    · rw [List.mem_singleton] at single
      subst single
      omega

theorem strung_cut (strung : Strung n k list last) (cut : k'.follow (some last) = none)
    (next : ∀ j, j ∈ list → (k'.threadList j).map Thread.next = (k.threadList j).map Thread.next) :
    Chain pointers k'.follow (some INIT_TID) ((list ++ [last]).map some) :=
  chain_of_path (strung_path strung next) cut

theorem list_of_chains {follow : Option Tid → Option Tid} {c : Option Tid}
    (chain : Chain pointers follow c (list.map some))
    (again : Chain pointers follow c (more.map some)) : list = more :=
  List.map_injective_iff.mpr (Option.some_injective Tid) (chain_unique chain again)

theorem chain_head (chain : Chain pointers k.follow (some i) (list.map some)) :
    list.head? = some i := by
  cases list with
  | nil => exact absurd chain (Option.some_ne_none i)
  | cons first rest => exact congrArg some (Option.some.inj chain.1).symm

end Strings

end Gramado.Ke.Sched
