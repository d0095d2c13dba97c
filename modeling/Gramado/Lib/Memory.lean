/-
Memory around a pointer: a byte at every distance from it, in front of it too.
A range is read as a list, and a list is stored as a range.
-/
import Mathlib.Algebra.GroupWithZero.Nat
import Mathlib.Algebra.Ring.Int.Defs
import Mathlib.Data.List.Basic
import Mathlib.Tactic.Common

namespace Gramado.Lib.Memory

variable {β : Type}

/-- The `n` cells from `off` on. -/
def slice (mem : Int → β) (off : Int) (n : Nat) : List β :=
  (List.range n).map fun k : Nat => mem (off + (k : Int))

/-- The cells from `off` on are overwritten. -/
def store (mem : Int → β) : Int → List β → Int → β
  | _, [] => mem
  | off, x :: rest => fun k => if k = off then x else store mem (off + 1) rest k

variable {mem : Int → β} {off : Int} {n : Nat} {xs : List β}

@[simp] theorem length_slice : (slice mem off n).length = n := by
  simp [slice]

@[simp] theorem slice_zero : slice mem off 0 = [] := rfl

theorem slice_add {m : Nat} :
    slice mem off (n + m) = slice mem off n ++ slice mem (off + n) m := by
  simp only [slice, List.range_add, List.map_append, List.map_map]
  congr 1
  apply List.map_congr_left
  intro k _
  simp [Int.add_assoc]

theorem slice_one : slice mem off 1 = [mem off] := by
  simp [slice]

theorem slice_succ : slice mem off (n + 1) = mem off :: slice mem (off + 1) n := by
  rw [Nat.add_comm, slice_add, slice_one]
  rfl

theorem slice_congr {mem' : Int → β}
    (same : ∀ k, off ≤ k → k < off + n → mem' k = mem k) :
    slice mem' off n = slice mem off n := by
  apply List.map_congr_left
  intro k inside
  have bound := List.mem_range.mp inside
  exact same _ (by omega) (by omega)

theorem slice_eq_iff {mem' : Int → β} :
    slice mem' off n = slice mem off n ↔ ∀ k, off ≤ k → k < off + n → mem' k = mem k := by
  constructor
  · intro same k low high
    have all := List.map_inj_left.mp same (k - off).toNat (List.mem_range.mpr (by omega))
    have place : off + ((k - off).toNat : Int) = k := by omega
    rwa [place] at all
  · exact slice_congr

theorem slice_blocks {mem' : Int → β} {off' : Int} {size : Nat}
    (same : ∀ k, k < n → slice mem' (off' + (size * k : Nat)) size =
      slice mem (off + (size * k : Nat)) size) :
    slice mem' off' (size * n) = slice mem off (size * n) := by
  induction n with
  | zero => rfl
  | succ n ih =>
      rw [Nat.mul_succ, slice_add, slice_add, same n (Nat.lt_succ_self n),
        ih fun k inside => same k (Nat.lt_succ_of_lt inside)]

theorem store_before {k : Int} (before : k < off) : store mem off xs k = mem k := by
  induction xs generalizing off with
  | nil => rfl
  | cons x rest ih =>
      have other : k ≠ off := by omega
      simp only [store, if_neg other]
      exact ih (by omega)

theorem store_behind {k : Int} (behind : off + xs.length ≤ k) : store mem off xs k = mem k := by
  induction xs generalizing off with
  | nil => rfl
  | cons x rest ih =>
      simp only [List.length_cons] at behind
      have other : k ≠ off := by omega
      simp only [store, if_neg other]
      exact ih (by omega)

theorem store_inside {mem' : Int → β} {k : Int} (low : off ≤ k) (high : k < off + xs.length) :
    store mem off xs k = store mem' off xs k := by
  induction xs generalizing off with
  | nil =>
      simp only [List.length_nil] at high
      omega
  | cons x rest ih =>
      simp only [List.length_cons] at high
      by_cases here : k = off
      · simp only [store, if_pos here]
      · simp only [store, if_neg here]
        exact ih (by omega) (by omega)

theorem store_congr_at {mem' : Int → β} {k : Int} (same : mem' k = mem k) :
    store mem' off xs k = store mem off xs k := by
  induction xs generalizing off with
  | nil => exact same
  | cons x rest ih =>
      by_cases here : k = off
      · simp only [store, if_pos here]
      · simp only [store, if_neg here]
        exact ih

theorem store_append {ys : List β} :
    store (store mem off xs) (off + xs.length) ys = store mem off (xs ++ ys) := by
  induction xs generalizing off with
  | nil => simp [store]
  | cons x rest ih =>
      have place : off + ((x :: rest).length : Int) = off + 1 + rest.length := by
        simp only [List.length_cons]
        omega
      funext k
      by_cases here : k = off
      · rw [place, store_before (by omega)]
        simp only [List.cons_append, store, if_pos here]
      · simp only [List.cons_append, store, if_neg here]
        rw [← ih, place]
        exact store_congr_at (by simp only [if_neg here])

theorem store_covers {inner : Int} {ys : List β} (low : off ≤ inner)
    (high : inner + ys.length ≤ off + xs.length) :
    store (store mem inner ys) off xs = store mem off xs := by
  funext k
  by_cases inside : off ≤ k ∧ k < off + xs.length
  · exact store_inside inside.1 inside.2
  · by_cases before : k < off
    · rw [store_before before, store_before before, store_before (by omega)]
    · rw [store_behind (by omega), store_behind (by omega), store_behind (by omega)]

theorem slice_store : slice (store mem off xs) off xs.length = xs := by
  induction xs generalizing off with
  | nil => rfl
  | cons x rest ih =>
      rw [List.length_cons, slice_succ]
      congr 1
      · simp [store]
      · have later : slice (store mem off (x :: rest)) (off + 1) rest.length =
            slice (store mem (off + 1) rest) (off + 1) rest.length := by
          apply slice_congr
          intro k low _
          have other : k ≠ off := by omega
          simp only [store, if_neg other]
        rw [later, ih]

theorem store_same (there : slice mem off xs.length = xs) : store mem off xs = mem := by
  induction xs generalizing off with
  | nil => rfl
  | cons x rest ih =>
      rw [List.length_cons, slice_succ] at there
      injection there with first later
      funext k
      by_cases here : k = off
      · rw [here]
        simp [store, first]
      · simp only [store, if_neg here]
        rw [ih later]

theorem slice_store_behind {last : Int} (behind : last = off + n) :
    slice (store mem last xs) off (n + xs.length) = slice mem off n ++ xs := by
  subst behind
  rw [slice_add, slice_store]
  congr 1
  apply slice_congr
  intro k _ high
  exact store_before high

theorem take_slice {m : Nat} (short : m ≤ n) : (slice mem off n).take m = slice mem off m := by
  have whole : n = m + (n - m) := by omega
  rw [whole, slice_add]
  exact List.take_left' length_slice

theorem drop_slice {m : Nat} (short : m ≤ n) :
    (slice mem off n).drop m = slice mem (off + m) (n - m) := by
  have whole : n = m + (n - m) := by omega
  rw [whole, slice_add, List.drop_left' length_slice, ← whole]

end Gramado.Lib.Memory
