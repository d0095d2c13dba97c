/-
Strings that end at their first zero byte, in memory around a pointer. A string is
read as a list, and what is stored in front of a zero is a string.
-/
import Gramado.Lib.Memory

namespace Gramado.Lib.Text

open Gramado.Lib.Memory
open Function

/-- From `p` on there are these characters, and a zero. -/
def Holds (mem : Int → UInt8) : Int → List UInt8 → Prop
  | p, [] => mem p = 0
  | p, c :: rest => mem p = c ∧ c ≠ 0 ∧ Holds mem (p + 1) rest

variable {mem other : Int → UInt8} {p : Int} {text more front : List UInt8}

theorem holds_unique (holds : Holds mem p text) (again : Holds mem p more) : text = more := by
  induction text generalizing p more with
  | nil =>
      cases more with
      | nil => rfl
      | cons c rest => exact absurd (again.1.symm.trans holds) again.2.1
  | cons c rest ih =>
      obtain ⟨rfl, nonzero, later⟩ := holds
      cases more with
      | nil => exact absurd again nonzero
      | cons d tail =>
          obtain ⟨rfl, -, behind⟩ := again
          rw [ih later behind]

theorem holds_congr (same : ∀ k, p ≤ k → k ≤ p + text.length → other k = mem k)
    (holds : Holds mem p text) : Holds other p text := by
  induction text generalizing p with
  | nil => exact (same p (Int.le_refl p) (by simp)).trans holds
  | cons c rest ih =>
      obtain ⟨first, nonzero, later⟩ := holds
      simp only [List.length_cons] at same
      refine ⟨(same p (Int.le_refl p) (by omega)).trans first, nonzero, ?_⟩
      exact ih (fun k low high => same k (by omega) (by omega)) later

theorem holds_nonzero (holds : Holds mem p text) : ∀ c ∈ text, c ≠ 0 := by
  induction text generalizing p with
  | nil => simp
  | cons c rest ih =>
      obtain ⟨-, nonzero, later⟩ := holds
      intro d member
      rcases List.mem_cons.mp member with rfl | inside
      · exact nonzero
      · exact ih later d inside

theorem holds_iff_slice : Holds mem p text ↔
    slice mem p (text.length + 1) = text ++ [0] ∧ ∀ c ∈ text, c ≠ 0 := by
  induction text generalizing p with
  | nil => simp [Holds, slice_one]
  | cons c rest ih =>
      simp only [Holds, ih, List.length_cons, List.cons_append, List.mem_cons, forall_eq_or_imp,
        slice_succ (n := rest.length + 1), List.cons.injEq]
      constructor
      · rintro ⟨first, nonzero, same, later⟩
        exact ⟨⟨first, same⟩, nonzero, later⟩
      · rintro ⟨⟨first, same⟩, nonzero, later⟩
        exact ⟨first, nonzero, same, later⟩

theorem holds_append : Holds mem p (front ++ text) ↔
    slice mem p front.length = front ∧ (∀ c ∈ front, c ≠ 0) ∧
      Holds mem (p + front.length) text := by
  induction front generalizing p with
  | nil => simp
  | cons c rest ih =>
      rw [List.cons_append, Holds, ih, List.length_cons, slice_succ, List.cons.injEq]
      have place : p + 1 + (rest.length : Int) = p + (rest.length + 1 : Nat) := by omega
      rw [place]
      simp only [List.mem_cons, forall_eq_or_imp]
      constructor
      · rintro ⟨first, nonzero, same, all, later⟩
        exact ⟨⟨first, same⟩, ⟨nonzero, all⟩, later⟩
      · rintro ⟨⟨first, same⟩, ⟨nonzero, all⟩, later⟩
        exact ⟨first, nonzero, same, all, later⟩

theorem holds_getElem (holds : Holds mem p text) {j : Nat} (inside : j < text.length) :
    mem (p + j) = text[j] := by
  induction text generalizing p j with
  | nil => cases inside
  | cons c rest ih =>
      obtain ⟨first, -, later⟩ := holds
      cases j with
      | zero =>
          rw [Int.natCast_zero, Int.add_zero]
          exact first
      | succ j =>
          have place : p + (j + 1 : Nat) = p + 1 + j := by omega
          rw [place]
          exact ih later (Nat.lt_of_succ_lt_succ inside)

theorem holds_end (holds : Holds mem p text) : mem (p + text.length) = 0 := by
  induction text generalizing p with
  | nil =>
      rw [List.length_nil, Int.natCast_zero, Int.add_zero]
      exact holds
  | cons c rest ih =>
      have place : p + (rest.length + 1 : Nat) = p + 1 + rest.length := by omega
      rw [List.length_cons, place]
      exact ih holds.2.2

theorem holds_cut (holds : Holds mem p (front ++ text)) :
    Holds (update mem (p + front.length) 0) p front := by
  induction front generalizing p with
  | nil =>
      rw [List.length_nil, Int.natCast_zero, Int.add_zero]
      exact update_self ..
  | cons c rest ih =>
      obtain ⟨first, nonzero, later⟩ := holds
      have behind := ih later
      have place : p + 1 + (rest.length : Int) = p + (rest.length + 1 : Nat) := by omega
      rw [place] at behind
      refine ⟨?_, nonzero, behind⟩
      rw [List.length_cons, update_of_ne (by omega)]
      exact first

theorem update_eq_store (x : UInt8) : update mem p x = store mem p [x] := by
  funext k
  by_cases here : k = p
  · subst here
    simp [store]
  · simp [store, here]

theorem store_update {x : UInt8} {xs : List UInt8} :
    store (update mem p x) (p + 1) xs = store mem p (x :: xs) := by
  funext k
  by_cases here : k = p
  · subst here
    rw [store_before (by omega), update_self]
    simp [store]
  · simp only [store, if_neg here]
    exact store_congr_at (update_of_ne here _ _)

theorem holds_store (nonzero : ∀ c ∈ text, c ≠ 0) : Holds (store mem p (text ++ [0])) p text := by
  rw [holds_iff_slice]
  have whole := @slice_store _ mem p (text ++ [0])
  rw [List.length_append] at whole
  exact ⟨whole, nonzero⟩

end Gramado.Lib.Text
