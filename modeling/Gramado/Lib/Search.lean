/-
The first number below a bound that has a property, as a loop over a table
finds it.
-/
import Mathlib.Data.List.Range
import Mathlib.Tactic.Common

namespace Gramado.Lib.Search

/-- The first of the numbers below `n` that has the property. -/
def first (n : Nat) (p : Nat → Prop) [DecidablePred p] : Option Nat :=
  (List.range n).find? fun i => decide (p i)

variable {n m i : Nat} {p q : Nat → Prop} [DecidablePred p] [DecidablePred q]

theorem first_eq_some : first n p = some i ↔ p i ∧ i < n ∧ ∀ j, j < i → ¬p j := by
  rw [first, List.find?_range_eq_some]
  simp

theorem first_eq_none : first n p = none ↔ ∀ j, j < n → ¬p j := by
  rw [first, List.find?_eq_none]
  simp

theorem first_congr (same : ∀ j, j < n → (p j ↔ q j)) : first n p = first n q := by
  cases found : first n q with
  | none =>
      rw [first_eq_none] at found ⊢
      intro j inside holds
      exact found j inside ((same j inside).mp holds)
  | some i =>
      rw [first_eq_some] at found ⊢
      rcases found with ⟨holds, inside, before⟩
      refine ⟨(same i inside).mpr holds, inside, ?_⟩
      intro j early other
      exact before j early ((same j (Nat.lt_trans early inside)).mp other)

/-- Two searches for one property differ only where the shorter one ends. -/
theorem first_eq_first : first n p = first m p ↔
    (∀ j, j < max n m → ¬p j) ∨ ∃ i, i < min n m ∧ p i ∧ ∀ j, j < i → ¬p j := by
  constructor
  · intro same
    cases found : first m p with
    | none =>
        rw [found] at same
        rw [first_eq_none] at same found
        refine Or.inl fun j inside => ?_
        rcases Nat.lt_or_ge j n with left | beyond
        · exact same j left
        · exact found j (by omega)
    | some i =>
        rw [found] at same
        rw [first_eq_some] at same found
        exact Or.inr ⟨i, by omega, found.1, found.2.2⟩
  · rintro (none | ⟨i, inside, holds, before⟩)
    · have left : first n p = Option.none := first_eq_none.mpr fun j low => none j (by omega)
      have right : first m p = Option.none := first_eq_none.mpr fun j low => none j (by omega)
      rw [left, right]
    · have left : first n p = some i := first_eq_some.mpr ⟨holds, by omega, before⟩
      have right : first m p = some i := first_eq_some.mpr ⟨holds, by omega, before⟩
      rw [left, right]

end Gramado.Lib.Search
