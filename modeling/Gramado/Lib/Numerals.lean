/-
Numbers written out in a base, from the most significant place on. Two loops that
produce them are described: one that takes the last place off until nothing is left, and
one that fills a fixed number of places, whose leading zeros are then dropped.
-/
import Mathlib.Data.Nat.Digits.Lemmas

namespace Gramado.Lib.Numerals

/-- The places of a number; zero has one. -/
def places (base n : Nat) : List Nat :=
  if n = 0 then [0] else (Nat.digits base n).reverse

/-- So many places, with zeros in front. -/
def fixedPlaces (base : Nat) : Nat → Nat → List Nat
  | 0, _ => []
  | width + 1, n => fixedPlaces base width (n / base) ++ [n % base]

variable {base n m : Nat}

theorem digits_step (wide : 1 < base) (positive : n ≠ 0) :
    (Nat.digits base n).reverse = (Nat.digits base (n / base)).reverse ++ [n % base] := by
  rw [Nat.digits_def' wide (Nat.pos_of_ne_zero positive), List.reverse_cons]

theorem places_step (wide : 1 < base) (n : Nat) :
    places base n = (if n / base = 0 then [] else places base (n / base)) ++ [n % base] := by
  by_cases zero : n = 0
  · subst zero
    simp [places]
  · rw [places, if_neg zero, digits_step wide zero]
    by_cases single : n / base = 0
    · simp [single]
    · rw [if_neg single, places, if_neg single]

theorem places_lt (wide : 1 < base) {d : Nat} (inside : d ∈ places base n) : d < base := by
  by_cases zero : n = 0
  · subst zero
    simp only [places, reduceIte, List.mem_singleton] at inside
    omega
  · rw [places, if_neg zero, List.mem_reverse] at inside
    exact Nat.digits_lt_base wide inside

theorem places_length_pos (base n : Nat) : 0 < (places base n).length := by
  rw [places]
  split
  · exact Nat.one_pos
  · rename_i positive
    rw [List.length_reverse, List.length_pos_iff]
    exact Nat.digits_ne_nil_iff_ne_zero.mpr positive

theorem places_length_le (wide : 1 < base) {width : Nat} (some : 0 < width)
    (fits : n < base ^ width) : (places base n).length ≤ width := by
  rw [places]
  split
  · exact some
  · rw [List.length_reverse]
    exact (Nat.digits_length_le_iff wide n).mpr fits

theorem ofDigits_places (base n : Nat) : Nat.ofDigits base (places base n).reverse = n := by
  by_cases zero : n = 0
  · subst zero
    simp [places]
  · rw [places, if_neg zero, List.reverse_reverse, Nat.ofDigits_digits]

theorem places_injective (same : places base n = places base m) : n = m := by
  rw [← ofDigits_places base n, same, ofDigits_places]

theorem fixedPlaces_zero (base width : Nat) :
    fixedPlaces base width 0 = List.replicate width 0 := by
  induction width with
  | zero => rfl
  | succ width ih => rw [fixedPlaces, Nat.zero_div, Nat.zero_mod, ih, List.replicate_succ']

theorem fixedPlaces_strip (wide : 1 < base) {width : Nat} (positive : n ≠ 0)
    (fits : n < base ^ width) : (fixedPlaces base width n).dropWhile (· = 0) = places base n := by
  induction width generalizing n with
  | zero => exact absurd (Nat.lt_one_iff.mp fits) positive
  | succ width ih =>
      rw [fixedPlaces, places_step wide n, List.dropWhile_append]
      by_cases single : n / base = 0
      · have kept : n % base ≠ 0 := by
          have whole := Nat.div_add_mod n base
          rw [single, Nat.mul_zero, Nat.zero_add] at whole
          rw [whole]
          exact positive
        simp [single, fixedPlaces_zero, kept]
      · have rest : n / base < base ^ width :=
          Nat.div_lt_of_lt_mul (by rwa [Nat.pow_succ, Nat.mul_comm] at fits)
        have some : places base (n / base) ≠ [] := by
          rw [places, if_neg single, ne_eq, List.reverse_eq_nil_iff]
          exact Nat.digits_ne_nil_iff_ne_zero.mpr single
        rw [ih single rest, if_neg single]
        simp [some]

theorem fixedPlaces_lt (wide : 1 < base) {width d : Nat} (inside : d ∈ fixedPlaces base width n) :
    d < base := by
  induction width generalizing n with
  | zero => cases inside
  | succ width ih =>
      rcases List.mem_append.mp inside with front | last
      · exact ih front
      · rw [List.mem_singleton.mp last]
        exact Nat.mod_lt n (by omega)

section Texts

variable {α : Type} {digit other : Nat → α}

theorem dropWhile_map_zero [DecidableEq α] {zero : α} {list : List Nat}
    (only : ∀ d ∈ list, digit d = zero ↔ d = 0) :
    (list.map digit).dropWhile (· = zero) = (list.dropWhile (· = 0)).map digit := by
  induction list with
  | nil => rfl
  | cons d rest ih =>
      have here := only d List.mem_cons_self
      by_cases front : d = 0
      · rw [List.map_cons, List.dropWhile_cons_of_pos (by simpa using here.mpr front),
          List.dropWhile_cons_of_pos (by simpa using front)]
        exact ih fun e inside => only e (List.mem_cons_of_mem d inside)
      · rw [List.map_cons, List.dropWhile_cons_of_neg (by simpa [here] using front),
          List.dropWhile_cons_of_neg (by simpa using front), List.map_cons]

theorem map_cross (apart : ∀ d e, d < base → e < base → digit d = other e → d = e)
    {list more : List Nat} (small : ∀ d ∈ list, d < base) (small' : ∀ d ∈ more, d < base)
    (equal : list.map digit = more.map other) : list = more := by
  induction list generalizing more with
  | nil => exact (List.map_eq_nil_iff.mp equal.symm).symm
  | cons d rest ih =>
      cases more with
      | nil => cases equal
      | cons e more =>
          obtain ⟨head, tail⟩ := List.cons.inj equal
          rw [apart d e (small d List.mem_cons_self) (small' e List.mem_cons_self) head,
            ih (fun d inside => small d (List.mem_cons_of_mem _ inside))
              (fun d inside => small' d (List.mem_cons_of_mem _ inside)) tail]

/-- Two ways to write digits that agree only on equal digits write no two numbers
    alike. -/
theorem text_injective (wide : 1 < base)
    (apart : ∀ d e, d < base → e < base → digit d = other e → d = e)
    (same : (places base n).map digit = (places base m).map other) : n = m :=
  places_injective (map_cross apart (fun _ => places_lt wide) (fun _ => places_lt wide) same)

end Texts

end Gramado.Lib.Numerals
