/-
Sums of 16-bit words with the carry taken around. Such a sum is the residue of the plain
sum modulo 65535, where 65535 stands for the multiples of it and 0 for 0 alone; the order
of the bytes in the words does not matter as long as it is that of the result.
-/
import Mathlib.Algebra.GroupWithZero.Nat
import Mathlib.Algebra.Ring.Int.Defs
import Mathlib.Algebra.BigOperators.Group.List.Basic
import Mathlib.Tactic.Common

namespace Gramado.Lib.OnesComplement

/-- The carry of a sum is added to it. -/
def add (a b : UInt16) : UInt16 :=
  UInt16.ofNat ((a.toNat + b.toNat) % 2 ^ 16 + (a.toNat + b.toNat) / 2 ^ 16)

def sum (words : List UInt16) : UInt16 :=
  words.foldl add 0

def total (words : List UInt16) : Nat :=
  (words.map UInt16.toNat).sum

def residue (n : Nat) : Nat :=
  if n = 0 then 0 else (n - 1) % 65535 + 1

/-- The two bytes of a word the other way round. -/
def swap (v : UInt16) : UInt16 :=
  UInt16.ofNat (v.toNat % 2 ^ 8 * 2 ^ 8 + v.toNat / 2 ^ 8)

section Residue

variable {n r a b : Nat}

theorem residue_le : residue n ≤ 65535 := by
  rw [residue]
  split <;> omega

theorem residue_eq_zero : residue n = 0 ↔ n = 0 := by
  rw [residue]
  split <;> omega

theorem residue_mod : residue n % 65535 = n % 65535 := by
  rw [residue]
  split <;> omega

theorem residue_unique (le : r ≤ 65535) (zero : r = 0 ↔ n = 0) (same : r % 65535 = n % 65535) :
    residue n = r := by
  rw [residue]
  split <;> omega

theorem residue_of_le (le : n ≤ 65535) : residue n = n :=
  residue_unique le Iff.rfl rfl

theorem residue_add : residue (residue a + b) = residue (a + b) := by
  have zero := @residue_eq_zero (a + b)
  have part := @residue_eq_zero a
  have whole := @residue_mod (a + b)
  have first := @residue_mod a
  exact residue_unique residue_le (by omega) (by omega)

theorem residue_fold : residue (n % 2 ^ 16 + n / 2 ^ 16) = residue n := by
  have zero := @residue_eq_zero n
  have same := @residue_mod n
  exact residue_unique residue_le (by omega) (by omega)

theorem residue_two_folds (small : n < 2 ^ 32) :
    (n % 2 ^ 16 + n / 2 ^ 16 + (n % 2 ^ 16 + n / 2 ^ 16) / 2 ^ 16) % 2 ^ 16 = residue n := by
  have first : n % 2 ^ 16 + n / 2 ^ 16 ≤ 131070 := by omega
  rw [← @residue_fold n]
  generalize n % 2 ^ 16 + n / 2 ^ 16 = s at first
  symm
  by_cases carry : s < 2 ^ 16
  · have same : (s + s / 2 ^ 16) % 2 ^ 16 = s := by omega
    rw [same]
    exact residue_of_le (Nat.le_of_lt_succ carry)
  · have less : (s + s / 2 ^ 16) % 2 ^ 16 = s - 65535 := by omega
    rw [less]
    exact residue_unique (by omega) (by omega) (by omega)

theorem residue_complement (positive : 0 < n) : residue (n + (65535 - residue n)) = 65535 := by
  have le := @residue_le n
  have same := @residue_mod n
  exact residue_unique (Nat.le_refl _) (by omega) (by omega)

end Residue

section Sums

variable {a b v : UInt16} {words more : List UInt16}

@[simp] theorem total_nil : total [] = 0 := rfl

@[simp] theorem total_cons : total (a :: words) = a.toNat + total words := by
  simp [total]

@[simp] theorem total_append : total (words ++ more) = total words + total more := by
  simp [total]

theorem total_le : total words ≤ words.length * 65535 := by
  induction words with
  | nil => exact Nat.le_refl _
  | cons a rest ih =>
      have bound := a.toNat_lt
      rw [total_cons, List.length_cons]
      omega

theorem toNat_add : (add a b).toNat = residue (a.toNat + b.toNat) := by
  have first := a.toNat_lt
  have second := b.toNat_lt
  have fits : (a.toNat + b.toNat) % 2 ^ 16 + (a.toNat + b.toNat) / 2 ^ 16 < 2 ^ 16 := by omega
  rw [add, UInt16.toNat_ofNat', Nat.mod_eq_of_lt fits]
  symm
  exact residue_unique (by omega) (by omega) (by omega)

theorem toNat_foldl_add : (words.foldl add a).toNat = residue (a.toNat + total words) := by
  induction words generalizing a with
  | nil =>
      have small := a.toNat_lt
      rw [List.foldl_nil, total_nil, Nat.add_zero]
      exact (residue_of_le (by omega)).symm
  | cons b rest ih =>
      rw [List.foldl_cons, ih, toNat_add, residue_add, total_cons, Nat.add_assoc]

/-- The sum with its carries taken around is the residue of the plain sum. -/
theorem toNat_sum : (sum words).toNat = residue (total words) := by
  have whole := @toNat_foldl_add 0 words
  rw [UInt16.toNat_zero, Nat.zero_add] at whole
  exact whole

theorem toNat_swap : (swap v).toNat = v.toNat % 2 ^ 8 * 2 ^ 8 + v.toNat / 2 ^ 8 := by
  have small := v.toNat_lt
  rw [swap, UInt16.toNat_ofNat']
  omega

theorem swap_swap : swap (swap v) = v := by
  have small := v.toNat_lt
  apply UInt16.toNat_inj.mp
  rw [toNat_swap, toNat_swap]
  omega

theorem swap_complement : swap (~~~v) = ~~~swap v := by
  have small := v.toNat_lt
  apply UInt16.toNat_inj.mp
  rw [toNat_swap, UInt16.toNat_not, UInt16.toNat_not, toNat_swap]
  have size : UInt16.size = 65536 := rfl
  omega

/-- Swapping the bytes multiplies by 256, which is a square root of 1. -/
theorem total_swap : total (words.map swap) % 65535 = 256 * total words % 65535 := by
  induction words with
  | nil => rfl
  | cons a rest ih =>
      have small := a.toNat_lt
      rw [List.map_cons, total_cons, total_cons, toNat_swap]
      omega

theorem total_swap_eq_zero : total (words.map swap) = 0 ↔ total words = 0 := by
  induction words with
  | nil => exact Iff.rfl
  | cons a rest ih =>
      have small := a.toNat_lt
      rw [List.map_cons, total_cons, total_cons, toNat_swap]
      omega

theorem sum_swap : sum (words.map swap) = swap (sum words) := by
  apply UInt16.toNat_inj.mp
  have le := @residue_le (total words)
  have zero := @residue_eq_zero (total words)
  have same := @residue_mod (total words)
  have swapped := @total_swap words
  have none := @total_swap_eq_zero words
  rw [toNat_swap, toNat_sum, toNat_sum]
  exact residue_unique (by omega) (by omega) (by omega)

end Sums

end Gramado.Lib.OnesComplement
