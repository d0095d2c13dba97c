/-
`strtol` of the C library (strtol.c) without the end pointer. A number that is no
long becomes the nearest one, with the loop as it runs on behind it.
-/
import Gramado.Rtl.Ctype
import Mathlib.Algebra.Order.Ring.Int
import Mathlib.Tactic.Linarith
import Mathlib.Tactic.Ring

namespace Gramado.Rtl.Strtol

open Gramado.Rtl.Ctype

def LONG_MAX : Int := 9223372036854775807

def LONG_MIN : Int := -9223372036854775807

/-- The digit that a character is. -/
def digitOf (c : Int) : Option Int :=
  if isdigit c then some (c - 48)
  else if isalpha c then some (c - if isupper c then 55 else 87)
  else none

/-- `cutoff` and `cutlim`. -/
def cut (neg : Bool) (base : Int) : Int × Int :=
  if neg then
    let cutlim := LONG_MIN.tmod base
    let cutoff := LONG_MIN.tdiv base
    if cutlim > 0 then (cutoff + 1, -(cutlim - base)) else (cutoff, -cutlim)
  else
    (LONG_MAX.tdiv base, LONG_MAX.tmod base)

/-- The loop over the digits; `overrun` is `any < 0`. -/
def scan (neg : Bool) (base : Int) : Bool → Int → List Int → Int
  | _, acc, [] => acc
  | overrun, acc, c :: s =>
      match digitOf c with
      | none => acc
      | some d =>
          let (cutoff, cutlim) := cut neg base
          if d ≥ base then
            acc
          else if overrun then
            scan neg base true acc s
          else if neg then
            if acc < cutoff ∨ (acc = cutoff ∧ d > cutlim) then
              scan neg base true LONG_MIN s
            else
              scan neg base false (acc * base - d) s
          else if acc > cutoff ∨ (acc = cutoff ∧ d > cutlim) then
            scan neg base true LONG_MAX s
          else
            scan neg base false (acc * base + d) s

/-- Behind a sign or a prefix the next character is read as a `char`. -/
def charFirst : List Int → List Int
  | [] => []
  | c :: s => c.bmod 256 :: s

/-- The sign, and what is behind it. -/
def sign : List Int → Bool × List Int
  | [] => (false, [])
  | c :: s =>
    if c = 45 then (true, charFirst s) else if c = 43 then (false, charFirst s)
    else (false, c :: s)

/-- The prefix of base 16. -/
def base16 (base : Int) : List Int → Option (List Int)
  | c :: x :: s =>
      if (base = 0 ∨ base = 16) ∧ c = 48 ∧ (x = 120 ∨ x = 88) then some (charFirst s) else none
  | _ => none

/-- The characters of `nptr` up to its 0, as unsigned chars. -/
def strtol (nptr : List Int) (base : Int) : Int :=
  let (neg, s) := sign (nptr.dropWhile isspace)
  match base16 base s with
  | some digits => scan neg 16 false 0 digits
  | none =>
      let base := if base = 0 then (if s.head? = some 48 then 8 else 10) else base
      scan neg base false 0 s

section Digits

variable {base : Nat} {acc : Int} {chars : List Int} {digits : List Nat}

/-- The characters of some digits. -/
def Digits (chars : List Int) (digits : List Nat) : Prop :=
  chars.map digitOf = digits.map fun (d : Nat) => some (d : Int)

/-- The number of the digits behind one that is there. -/
def numeral (base : Nat) (acc : Int) (digits : List Nat) : Int :=
  digits.foldl (fun value (d : Nat) => value * base + d) acc

theorem scan_over (neg : Bool) (base acc : Int) (chars : List Int) :
    scan neg base true acc chars = acc := by
  induction chars with
  | nil => rfl
  | cons c chars ih =>
      rw [scan]
      split
      · rfl
      · simp only [if_true, ih, ite_self]

theorem cut_iff (positive : 0 < base) {d : Nat} (below : d < base) :
    (acc > (cut false base).1 ∨ (acc = (cut false base).1 ∧ (d : Int) > (cut false base).2)) ↔
      LONG_MAX < acc * base + d := by
  have size : (0 : Int) < base := by exact_mod_cast positive
  have small : (d : Int) < base := by exact_mod_cast below
  have digit : (0 : Int) ≤ d := Int.natCast_nonneg d
  have large : (0 : Int) ≤ LONG_MAX := by decide
  have parts := Int.mul_tdiv_add_tmod LONG_MAX base
  have rest : LONG_MAX.tmod base < base := Int.tmod_lt_of_pos LONG_MAX size
  have bottom : 0 ≤ LONG_MAX.tmod base := Int.tmod_nonneg base large
  simp only [cut, Bool.false_eq_true, if_false]
  generalize LONG_MAX.tdiv base = q at parts ⊢
  generalize LONG_MAX.tmod base = r at parts rest bottom ⊢
  constructor
  · rintro (above | ⟨rfl, above⟩)
    · nlinarith
    · linarith
  · intro above
    rcases lt_trichotomy acc q with less | rfl | more
    · nlinarith
    · exact .inr ⟨rfl, by linarith⟩
    · exact .inl more

theorem numeral_large (positive : 0 < base) (large : LONG_MAX < acc) :
    LONG_MAX < numeral base acc digits := by
  induction digits generalizing acc with
  | nil => exact large
  | cons d digits ih =>
      have size : (1 : Int) ≤ base := by exact_mod_cast positive
      have digit : (0 : Int) ≤ d := Int.natCast_nonneg d
      have zero : (0 : Int) ≤ LONG_MAX := by decide
      apply ih
      nlinarith

/-- The loop gives the number, or the largest long where that is larger. -/
theorem scan_digits (positive : 0 < base) (spelled : Digits chars digits)
    (below : ∀ d ∈ digits, d < base) (inside : acc ≤ LONG_MAX) :
    scan false base false acc chars = min (numeral base acc digits) LONG_MAX := by
  induction digits generalizing chars acc with
  | nil =>
      cases List.map_eq_nil_iff.mp spelled
      exact (min_eq_left inside).symm
  | cons d digits ih =>
      rcases List.map_eq_cons_iff.mp spelled with ⟨c, chars, rfl, first, later⟩
      have small := below d List.mem_cons_self
      have under : ¬(d : Int) ≥ base := by
        rw [not_le]
        exact_mod_cast small
      rw [scan, first]
      simp only [under, if_false, Bool.false_eq_true]
      by_cases large : LONG_MAX < acc * base + d
      · rw [if_pos ((cut_iff positive small).mpr large), scan_over]
        exact (min_eq_right (numeral_large positive large).le).symm
      · rw [if_neg fun cutting => large ((cut_iff positive small).mp cutting)]
        exact ih later (fun e there => below e (List.mem_cons_of_mem d there)) (not_lt.mp large)

end Digits

end Gramado.Rtl.Strtol
