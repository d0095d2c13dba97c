/-
Tables whose free slots are handed out first to last and never come back. The
slots that are taken then follow one another from the start of the range, so
that how many were handed out says which one is next, and when there is none.
-/
import Mathlib.Data.List.Range
import Mathlib.Logic.Function.Basic

namespace Gramado.Lib.Grants

open Function

variable {α : Type} {table table' : Nat → Option α} {lo hi n i : Nat} {a : α}

/-- The first free slot from `lo` on, below `hi`. -/
def nextFree (table : Nat → Option α) (lo hi : Nat) : Option Nat :=
  (List.range' lo (hi - lo)).find? fun i => (table i).isNone

theorem nextFree_some (found : nextFree table lo hi = some i) :
    lo ≤ i ∧ i < hi ∧ table i = none := by
  have free := List.find?_some found
  have inside := List.mem_of_find?_eq_some found
  rw [List.mem_range'_1] at inside
  exact ⟨inside.1, by omega, Option.isNone_iff_eq_none.mp free⟩

/-- From `lo` on the first `n` slots are taken, and the others below `hi` are free. -/
structure Granted (table : Nat → Option α) (lo hi n : Nat) : Prop where
  inside : lo + n ≤ hi
  taken : ∀ i, lo ≤ i → i < hi → (table i = none ↔ lo + n ≤ i)

theorem Granted.nextFree_eq (granted : Granted table lo hi n) :
    nextFree table lo hi = if lo + n < hi then some (lo + n) else none := by
  have inside := granted.inside
  by_cases room : lo + n < hi
  · rw [if_pos room, nextFree, List.find?_eq_some_iff_append]
    have free := (granted.taken (lo + n) (Nat.le_add_right lo n) room).mpr (Nat.le_refl _)
    refine ⟨by rw [free]; rfl, List.range' lo n, List.range' (lo + n + 1) (hi - lo - n - 1), ?_, ?_⟩
    · have split : hi - lo = n + (1 + (hi - lo - n - 1)) := by omega
      rw [split, ← List.range'_append_1, Nat.add_comm 1, List.range'_succ]
      simp
    · intro j before
      rw [List.mem_range'_1] at before
      have used : ¬table j = none := by
        rw [granted.taken j before.1 (by omega)]
        omega
      simpa [Option.isSome_iff_ne_none] using used
  · rw [if_neg room, nextFree, List.find?_eq_none]
    intro j here
    rw [List.mem_range'_1] at here
    have used : ¬table j = none := by
      rw [granted.taken j here.1 (by omega)]
      omega
    simpa [Option.isSome_iff_ne_none] using used

theorem Granted.put (granted : Granted table lo hi n) (room : lo + n < hi) (a : α) :
    Granted (update table (lo + n) (some a)) lo hi (n + 1) := by
  refine ⟨by omega, ?_⟩
  intro i low high
  by_cases here : i = lo + n
  · rw [here, update_self]
    simp
  · rw [update_of_ne here, granted.taken i low high]
    omega

/-- Whatever the next one is used for, it is the one behind those before it. -/
theorem Granted.take (granted : Granted table lo hi n) (found : nextFree table lo hi = some i)
    (a : α) : Granted (update table i (some a)) lo hi (n + 1) := by
  rw [granted.nextFree_eq] at found
  split_ifs at found with room
  cases found
  exact granted.put room a

theorem Granted.congr (granted : Granted table lo hi n)
    (same : ∀ i, table' i = none ↔ table i = none) : Granted table' lo hi n :=
  ⟨granted.inside, fun i low high => (same i).trans (granted.taken i low high)⟩

/-- The slots of the range that are taken from one table to the next. -/
def newly (table table' : Nat → Option α) (lo hi : Nat) : List Nat :=
  (List.range' lo (hi - lo)).filter fun i => (table i).isNone && (table' i).isSome

theorem newly_eq {j : Nat} (granted : Granted table lo hi n)
    (later : Granted table' lo hi (n + j)) :
    newly table table' lo hi = List.range' (lo + n) j := by
  have inside := later.inside
  have split : List.range' lo (hi - lo) = List.range' lo n ++
      (List.range' (lo + n) j ++ List.range' (lo + n + j) (hi - lo - n - j)) := by
    rw [List.range'_append_1, List.range'_append_1]
    congr 1
    omega
  have old : (List.range' lo n).filter (fun i => (table i).isNone && (table' i).isSome) = [] := by
    rw [List.filter_eq_nil_iff]
    intro i here
    rw [List.mem_range'_1] at here
    have used : ¬table i = none := by
      rw [granted.taken i here.1 (by omega)]
      omega
    simp [used]
  have fresh : (List.range' (lo + n) j).filter
      (fun i => (table i).isNone && (table' i).isSome) = List.range' (lo + n) j := by
    rw [List.filter_eq_self]
    intro i here
    rw [List.mem_range'_1] at here
    have free := (granted.taken i (by omega) (by omega)).mpr here.1
    have used : ¬table' i = none := by
      rw [later.taken i (by omega) (by omega)]
      omega
    simp [free, Option.isSome_iff_ne_none, used]
  have free : (List.range' (lo + n + j) (hi - lo - n - j)).filter
      (fun i => (table i).isNone && (table' i).isSome) = [] := by
    rw [List.filter_eq_nil_iff]
    intro i here
    rw [List.mem_range'_1] at here
    have empty := (later.taken i (by omega) (by omega)).mpr (by omega)
    simp [empty]
  rw [newly, split, List.filter_append, List.filter_append, old, fresh, free]
  simp

end Gramado.Lib.Grants
