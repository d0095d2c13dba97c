/-
A pass over a table, place by place, in which each step changes its own place
only. After the pass every place that was visited has been changed once.
-/
import Mathlib.Algebra.GroupWithZero.Nat
import Mathlib.Algebra.Ring.Int.Defs
import Mathlib.Data.List.FinRange
import Mathlib.Data.List.Nodup

namespace Gramado.Lib.Scan

variable {σ α β γ : Type}

theorem foldl_keeps {see : σ → γ} {step : σ → α → σ} (same : ∀ s a, see (step s a) = see s)
    (places : List α) (s : σ) : see (places.foldl step s) = see s := by
  induction places generalizing s with
  | nil => rfl
  | cons a rest ih => rw [List.foldl_cons, ih, same]

theorem foldl_at {get : σ → α → β} {step : σ → α → σ} {change : α → β → β}
    (own : ∀ s a, get (step s a) a = change a (get s a))
    (other : ∀ s a b, b ≠ a → get (step s a) b = get s b)
    {places : List α} (once : places.Nodup) (s : σ) {b : α} (visited : b ∈ places) :
    get (places.foldl step s) b = change b (get s b) := by
  induction places generalizing s with
  | nil => cases visited
  | cons a rest ih =>
      rw [List.nodup_cons] at once
      rw [List.foldl_cons]
      rcases List.mem_cons.mp visited with rfl | later
      · have kept : ∀ (places : List α) s, b ∉ places → get (places.foldl step s) b = get s b := by
          intro places s absent
          induction places generalizing s with
          | nil => rfl
          | cons c places ih' =>
              rw [List.mem_cons, not_or] at absent
              rw [List.foldl_cons, ih' _ absent.2, other s c b absent.1]
        rw [kept rest _ once.1, own]
      · have apart : b ≠ a := by
          rintro rfl
          exact once.1 later
        rw [ih once.2 _ later, other s a b apart]

/-- A loop from the place `n` on that may fail, but not where each turn finds what it
    needs and leaves what the next one needs. -/
theorem foldlM_finRange {ε : Type} {size : Nat} {step : σ → Fin size → Except ε σ}
    {inv : Nat → σ → Prop} {n : Nat}
    (turn : ∀ m s (i : Fin size), i.val = m → n ≤ m → inv m s →
      ∃ s', step s i = .ok s' ∧ inv (m + 1) s')
    (inside : n ≤ size) {s : σ} (start : inv n s) :
    ∃ s', ((List.finRange size).drop n).foldlM step s = .ok s' ∧ inv size s' := by
  have length : (List.finRange size).length = size := List.length_finRange
  have nth : ∀ m (h : m < (List.finRange size).length), (List.finRange size)[m].val = m := by simp
  generalize List.finRange size = order at length nth
  induction left : size - n generalizing n s with
  | zero =>
      have past : n = size := by omega
      rw [past] at start
      refine ⟨s, ?_, start⟩
      rw [List.drop_eq_nil_of_le (by omega)]
      rfl
  | succ left ih =>
      have more : n < order.length := by omega
      rcases turn n s order[n] (nth n more) (Nat.le_refl n) start with ⟨s₁, step₁, next⟩
      have later : ∀ m s (i : Fin size), i.val = m → n + 1 ≤ m → inv m s →
          ∃ s', step s i = .ok s' ∧ inv (m + 1) s' := fun m s i here past =>
        turn m s i here (Nat.le_of_succ_le past)
      rcases ih later (by omega) next (by omega) with ⟨s', run, final⟩
      refine ⟨s', ?_, final⟩
      rw [List.drop_eq_getElem_cons more, List.foldlM_cons, step₁]
      exact run

theorem foldlM_keeps {ε : Type} (see : σ → γ) {step : σ → α → Except ε σ}
    (same : ∀ s a s', step s a = .ok s' → see s' = see s) {places : List α} {s s' : σ}
    (done : places.foldlM step s = .ok s') : see s' = see s := by
  induction places generalizing s with
  | nil =>
      cases done
      rfl
  | cons a rest ih =>
      rw [List.foldlM_cons] at done
      cases first : step s a with
      | error stop =>
          rw [first] at done
          cases done
      | ok next =>
          rw [first] at done
          exact (ih done).trans (same s a next first)

end Gramado.Lib.Scan
