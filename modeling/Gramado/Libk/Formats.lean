/-
Formats made of literal text and the conversions of kinguio_vsprintf. One `l` stays in
force until a later %u, %x or %X, whatever stands between; what each conversion needs
to be written as usual depends on that.
-/
import Gramado.Libk.Vsprintf
import Gramado.Lib.Numerals
import Mathlib.Data.List.TakeWhile

namespace Gramado.Libk.Vsprintf

open Gramado.Lib.Numerals

inductive Spec where
  | c
  | s
  | S
  | d
  | i
  | u
  | x
  | X
  | p
  deriving DecidableEq, Repr

def Spec.char : Spec → UInt8
  | c => UCHAR 'c'
  | s => UCHAR 's'
  | S => UCHAR 'S'
  | d => UCHAR 'd'
  | i => UCHAR 'i'
  | u => UCHAR 'u'
  | x => UCHAR 'x'
  | X => UCHAR 'X'
  | p => UCHAR 'p'

/-- A character of the text, or a conversion with or without an `l`. -/
inductive Item where
  | literal (byte : UInt8) (text : byte ≠ 0 ∧ byte ≠ UCHAR '%')
  | directive (long : Bool) (spec : Spec)

def Item.bytes : Item → List UInt8
  | literal byte _ => [byte]
  | directive long spec => UCHAR '%' :: if long then [UCHAR 'l', spec.char] else [spec.char]

def formatOf (items : List Item) : List UInt8 :=
  items.flatMap Item.bytes ++ [0]

def directives : List Item → Nat
  | [] => 0
  | .literal _ _ :: items => directives items
  | .directive _ _ :: items => directives items + 1

def decimalDigit (d : Nat) : UInt8 :=
  UInt8.ofNat d + UCHAR '0'

def hexDigit (small : Bool) (d : Nat) : UInt8 :=
  UInt8.ofNat d + if 9 < d then (if small then UCHAR 'a' - 10 else UCHAR 'A' - 10) else UCHAR '0'

def decimal (n : Nat) : List UInt8 :=
  (places 10 n).map decimalDigit

def signed (v : Int) : List UInt8 :=
  if v < 0 then UCHAR '-' :: decimal v.natAbs else decimal v.natAbs

def hex (small : Bool) (n : Nat) : List UInt8 :=
  (places 16 n).map (hexDigit small)

def textOf (string : UInt64 → CString) (s : UInt64) : List UInt8 :=
  if s ≠ 0 then (string s).bytes else "(null)".toList.map UCHAR

/-- An argument as a number without a sign. -/
def unsignedOf (long : Bool) (arg : UInt64) : Nat :=
  if long then arg.toNat else arg.toUInt32.toNat

def signedOf (long : Bool) (arg : UInt64) : Int :=
  if long then arg.toInt64.toInt else arg.toUInt32.toInt32.toInt

/-- How an argument is to be written. `small` says whether %x has small letters, as
    opposed to %X. -/
def standard (small : Bool) (string : UInt64 → CString) (long : Bool) (arg : UInt64) :
    Spec → List UInt8
  | .c => [arg.toUInt8]
  | .s => textOf string arg
  | .S => textOf string arg
  | .d => signed (signedOf long arg)
  | .i => signed (signedOf long arg)
  | .u => decimal (unsignedOf long arg)
  | .x => hex small (unsignedOf long arg)
  | .X => hex false (unsignedOf long arg)
  | .p => UCHAR '0' :: UCHAR 'x' :: hex false arg.toNat

def standards (small : Bool) (string : UInt64 → CString) :
    List Item → List UInt64 → List (List UInt8)
  | .literal byte _ :: items, ap => [byte] :: standards small string items ap
  | .directive long spec :: items, arg :: ap =>
      standard small string long arg spec :: standards small string items ap
  | _, _ => []

/-- The memory from `str` on holds these characters and a NUL. -/
def IsString (memory : Nat → UInt8) (text : List UInt8) : Prop :=
  (∀ i (inside : i < text.length), memory i = text.get ⟨i, inside⟩) ∧ memory text.length = 0

/-- Every piece of the output is the literal or the argument written as usual, and the
    output is a string. -/
structure Law (small : Bool) (string : UInt64 → CString) (items : List Item) (ap : List UInt64)
    (written : Written) : Prop where
  pieces : written.pieces = standards small string items ap
  ended : IsString written.memory (standards small string items ap).flatten

/-- What the routine writes for an argument while the flag is as it is. -/
def rendered (string : UInt64 → CString) (type64bit : Bool) (arg : UInt64) : Spec → List UInt8
  | .c => if arg.toUInt8 = 0 then [] else [arg.toUInt8]
  | .s => textOf string arg
  | .S => textOf string arg
  | .d => signed (signedOf false arg)
  | .i => signed (signedOf false arg)
  | .u => if type64bit then decimal arg.toNat else signed (signedOf false arg)
  | .x => hex false (unsignedOf type64bit arg)
  | .X => hex false (unsignedOf type64bit arg)
  | .p => UCHAR '0' :: UCHAR 'x' :: hex false arg.toNat

/-- %u, %x and %X take the flag back. -/
def Spec.after (type64bit : Bool) : Spec → Bool
  | .u => false
  | .x => false
  | .X => false
  | _ => type64bit

def renderings (string : UInt64 → CString) : Bool → List Item → List UInt64 → List (List UInt8)
  | flag, .literal byte _ :: items, ap => [byte] :: renderings string flag items ap
  | flag, .directive long spec :: items, arg :: ap =>
      rendered string (flag || long) arg spec ::
        renderings string (spec.after (flag || long)) items ap
  | _, _, _ => []

/-- When a conversion is written as usual, with the flag that the ones before have left. -/
def Right (small flag long : Bool) (arg : UInt64) : Spec → Prop
  | .c => arg.toUInt8 ≠ 0
  | .d => long = true → -0x80000000 ≤ arg.toInt64.toInt ∧ arg.toInt64.toInt < 0x80000000
  | .i => long = true → -0x80000000 ≤ arg.toInt64.toInt ∧ arg.toInt64.toInt < 0x80000000
  | .u => long = false →
      if flag then arg.toNat < 0x100000000 else arg.toUInt32.toNat < 0x80000000
  | .x => (long = false → flag = true → arg.toNat < 0x100000000) ∧
      (small = true → ∀ d ∈ places 16 (unsignedOf long arg), d < 10)
  | .X => long = false → flag = true → arg.toNat < 0x100000000
  | _ => True

def AllRight (small : Bool) : Bool → List Item → List UInt64 → Prop
  | flag, .literal _ _ :: items, ap => AllRight small flag items ap
  | flag, .directive long spec :: items, arg :: ap =>
      Right small flag long arg spec ∧ AllRight small (spec.after (flag || long)) items ap
  | _, _, _ => True

section Numbers

theorem reversed_reverse (n : Nat) : (reversed n).reverse = decimal n := by
  induction n using reversed.induct with
  | case1 n ih =>
      rw [decimal, places_step (by decide) n, reversed]
      by_cases last : n / 10 = 0
      · rw [if_pos last, if_pos last]
        rfl
      · rw [if_neg last, if_neg last, List.reverse_cons, ih last, List.map_append]
        rfl

/-- A number whose last place is not nine: the next one differs in that place. -/
theorem bump_reversed {n : Nat} (room : n % 10 < 9) : bump (reversed n) = reversed (n + 1) := by
  have last : (n + 1) % 10 = n % 10 + 1 := by omega
  have rest : (n + 1) / 10 = n / 10 := by omega
  rw [reversed.eq_1 n, reversed.eq_1 (n + 1), last, rest, UInt8.ofNat_add, bump]
  rw [UInt8.add_assoc, UInt8.add_comm (UCHAR '0') 1, ← UInt8.add_assoc]
  rfl

theorem kinguioItoa_eq (val : Int32) : kinguioItoa val = signed val.toInt := by
  have low := val.minValue_le_toInt
  have below : (0 > val) = (val.toInt < 0) := propext Int32.lt_iff_toInt_lt
  have least : (-INT_MAX > val) = (val.toInt < -0x7FFFFFFF) := propext Int32.lt_iff_toInt_lt
  rw [kinguioItoa, signed]
  simp only [below, least, reversed_reverse]
  split
  · split
    · have value : val.toInt.natAbs = 0x7FFFFFFF + 1 := by
        simp at low
        omega
      rw [bump_reversed (by decide), reversed_reverse, value]
      rfl
    · have value : (-val).toNatClampNeg = val.toInt.natAbs := by
        rw [Int32.toNatClampNeg, Int32.toInt_neg, Int.bmod_def]
        simp at low ⊢
        split <;> omega
      rw [value]
  · have value : val.toNatClampNeg = val.toInt.natAbs := by
      rw [Int32.toNatClampNeg]
      omega
    rw [value]

theorem hexPlaces_eq (len : Nat) (n : UInt64) :
    hexPlaces len n = (fixedPlaces 16 len n.toNat).map (hexDigit false) := by
  induction len generalizing n with
  | zero => rfl
  | succ len ih =>
      have low : (n &&& 0xF).toUInt8 = UInt8.ofNat (n.toNat % 16) := by
        apply UInt8.toNat_inj.mp
        simp only [UInt64.toNat_toUInt8, UInt64.toNat_and, UInt8.toNat_ofNat']
        change (n.toNat &&& (2 ^ 4 - 1)) % 2 ^ 8 = _
        rw [Nat.and_two_pow_sub_one_eq_mod]
      have rest : (n >>> 4).toNat = n.toNat / 16 := by
        simp [Nat.shiftRight_eq_div_pow]
      have letter : (UInt8.ofNat (n.toNat % 16) > 9) = (9 < n.toNat % 16) := by
        have byte : (UInt8.ofNat (n.toNat % 16)).toNat = n.toNat % 16 := by
          rw [UInt8.toNat_ofNat']
          omega
        rw [gt_iff_lt, UInt8.lt_iff_toNat_lt, byte]
        rfl
      rw [hexPlaces, fixedPlaces, ih, rest, List.map_append]
      simp only [low, letter]
      rfl

theorem hexDigit_zero {d : Nat} (digit : d < 16) : hexDigit false d = UCHAR '0' ↔ d = 0 := by
  have all : ∀ d : Fin 16, hexDigit false d = UCHAR '0' ↔ d.val = 0 := by decide
  exact all ⟨d, digit⟩

theorem i2hex_eq {len : Nat} {val : UInt64} (fits : val.toNat < 16 ^ len) :
    i2hex len val = hex false val.toNat := by
  rw [i2hex]
  split
  · rename_i zero
    rw [zero]
    rfl
  · rename_i positive
    have nonzero : val.toNat ≠ 0 := fun zero => positive (UInt64.toNat_inj.mp zero)
    rw [hexPlaces_eq, hex, ← fixedPlaces_strip (by decide) nonzero fits]
    exact dropWhile_map_zero fun d inside => hexDigit_zero (fixedPlaces_lt (by decide) inside)

theorem decimalDigit_spec {d e : Nat} (one : d < 10) (other : e < 10) :
    (decimalDigit d = decimalDigit e → d = e) ∧ decimalDigit d ≠ 0 ∧
      decimalDigit d ≠ UCHAR '-' := by
  have all : ∀ d e : Fin 10, (decimalDigit d = decimalDigit e → d.val = e.val) ∧
      decimalDigit d ≠ 0 ∧ decimalDigit d ≠ UCHAR '-' := by decide
  exact all ⟨d, one⟩ ⟨e, other⟩

theorem hexDigit_spec (small : Bool) {d e : Nat} (one : d < 16) (other : e < 16) :
    (hexDigit false d = hexDigit small e → d = e) ∧ hexDigit false d ≠ 0 ∧
      (hexDigit false d = hexDigit true d ↔ d < 10) := by
  have all : ∀ (small : Bool) (d e : Fin 16),
      (hexDigit false d = hexDigit small e → d.val = e.val) ∧ hexDigit false d ≠ 0 ∧
        (hexDigit false d = hexDigit true d ↔ d.val < 10) := by decide
  exact all small ⟨d, one⟩ ⟨e, other⟩

theorem decimal_injective {n m : Nat} (same : decimal n = decimal m) : n = m :=
  text_injective (by decide) (fun _ _ one other => (decimalDigit_spec one other).1) same

theorem minus_not_mem_decimal (n : Nat) : UCHAR '-' ∉ decimal n := by
  intro inside
  obtain ⟨d, place, same⟩ := List.mem_map.mp inside
  have small := places_lt (by decide) place
  exact (decimalDigit_spec small small).2.2 same

theorem signed_decimal_iff {v : Int} {n : Nat} : signed v = decimal n ↔ v = n := by
  rw [signed]
  split
  · constructor
    · intro same
      exact absurd (same ▸ List.mem_cons_self) (minus_not_mem_decimal n)
    · omega
  · constructor
    · intro same
      have absolute := decimal_injective same
      omega
    · rintro rfl
      rfl

theorem signed_injective {v w : Int} (same : signed v = signed w) : v = w := by
  by_cases negative : w < 0
  · rw [signed.eq_1 w, if_pos negative, signed] at same
    split at same
    · have absolute := decimal_injective (List.cons.inj same).2
      omega
    · exact absurd (same ▸ List.mem_cons_self) (minus_not_mem_decimal v.natAbs)
  · rw [signed.eq_1 w, if_neg negative] at same
    have value := signed_decimal_iff.mp same
    omega

theorem hex_injective {small : Bool} {n m : Nat} (same : hex false n = hex small m) : n = m :=
  text_injective (by decide) (fun _ _ one other => (hexDigit_spec small one other).1) same

theorem hex_small_iff (n : Nat) : hex false n = hex true n ↔ ∀ d ∈ places 16 n, d < 10 := by
  rw [hex, hex, List.map_inj_left]
  exact forall₂_congr fun d inside =>
    (hexDigit_spec true (places_lt (by decide) inside) (Nat.zero_lt_succ 15)).2.2

end Numbers

section Pieces

variable {small flag long : Bool} {string : UInt64 → CString} {arg : UInt64} {spec : Spec}

theorem vsputs_eq {text : List UInt8} (nonzero : 0 ∉ text) : vsputs text = text := by
  rw [vsputs, List.takeWhile_eq_self_iff]
  intro byte inside
  simpa using fun zero : byte = 0 => nonzero (zero ▸ inside)

theorem zero_not_mem_decimal (n : Nat) : 0 ∉ decimal n := by
  intro inside
  obtain ⟨d, place, same⟩ := List.mem_map.mp inside
  have below := places_lt (by decide) place
  exact (decimalDigit_spec below below).2.1 same

theorem zero_not_mem_hex (n : Nat) : 0 ∉ hex false n := by
  intro inside
  obtain ⟨d, place, same⟩ := List.mem_map.mp inside
  have below := places_lt (by decide) place
  exact (hexDigit_spec false below below).2.1 same

theorem zero_not_mem_signed (v : Int) : 0 ∉ signed v := by
  have digits := zero_not_mem_decimal v.natAbs
  rw [signed]
  split
  · exact List.not_mem_cons_of_ne_of_not_mem (by decide) digits
  · exact digits

theorem zero_not_mem_text (string : UInt64 → CString) (s : UInt64) : 0 ∉ textOf string s := by
  rw [textOf]
  split
  · exact (string s).ends
  · decide

theorem kinguioUtoa_decimal (arg : UInt64) : vsputs (kinguioUtoa arg 10) = decimal arg.toNat := by
  rw [kinguioUtoa, if_neg (by decide), utoaR, reversed_reverse,
    vsputs_eq (zero_not_mem_decimal _)]

theorem kinguioUtoa_hex (arg : UInt64) : vsputs (kinguioUtoa arg 16) = hex false arg.toNat := by
  rw [kinguioUtoa, if_pos rfl, kinguioI2hexVersao2, i2hex_eq arg.toNat_lt,
    vsputs_eq (zero_not_mem_hex _)]

theorem kinguioI2hex_low (arg : UInt64) :
    vsputs (kinguioI2hex arg.toUInt32 8) = hex false arg.toUInt32.toNat := by
  have low : arg.toUInt32.toUInt64.toNat = arg.toUInt32.toNat := UInt32.toNat_toUInt64 _
  have fits : arg.toUInt32.toUInt64.toNat < 16 ^ 8 := low ▸ arg.toUInt32.toNat_lt
  rw [kinguioI2hex, i2hex_eq fits, low, vsputs_eq (zero_not_mem_hex _)]

theorem kinguioItoa_low (arg : UInt64) :
    vsputs (kinguioItoa arg.toUInt32.toInt32) = signed (signedOf false arg) := by
  rw [kinguioItoa_eq, vsputs_eq (zero_not_mem_signed _)]
  rfl

/-- Each conversion takes one argument and is written by the flag as it stands. -/
theorem conversion_spec (string : UInt64 → CString) (flag : Bool) (arg : UInt64)
    (ap : List UInt64) (spec : Spec) :
    conversion string spec.char flag (arg :: ap) =
      .ok (rendered string flag arg spec, spec.after flag, ap) := by
  cases spec with
  | c =>
      by_cases zero : arg.toUInt8 = 0 <;>
        simp [conversion, Spec.char, vaArg, rendered, Spec.after, vsputs, zero]
  | s =>
      rw [rendered, ← vsputs_eq (zero_not_mem_text string arg)]
      rfl
  | S =>
      rw [rendered, ← vsputs_eq (zero_not_mem_text string arg)]
      rfl
  | d =>
      rw [rendered, ← kinguioItoa_low]
      rfl
  | i =>
      rw [rendered, ← kinguioItoa_low]
      rfl
  | u =>
      rw [rendered, ← kinguioItoa_low, ← kinguioUtoa_decimal]
      cases flag <;> rfl
  | x =>
      cases flag
      · exact congrArg (fun piece => Except.ok (piece, false, ap)) (kinguioI2hex_low arg)
      · exact congrArg (fun piece => Except.ok (piece, false, ap)) (kinguioUtoa_hex arg)
  | X =>
      cases flag
      · exact congrArg (fun piece => Except.ok (piece, false, ap)) (kinguioI2hex_low arg)
      · exact congrArg (fun piece => Except.ok (piece, false, ap)) (kinguioUtoa_hex arg)
  | p =>
      exact congrArg (fun piece => Except.ok ([UCHAR '0', UCHAR 'x'] ++ piece, flag, ap))
        (kinguioUtoa_hex arg)

theorem signedOf_long (arg : UInt64) : signedOf true arg = arg.toInt64.toInt := rfl

/-- Only numbers of thirty-two bits are the number that their low half is. -/
theorem signedOf_iff (arg : UInt64) : signedOf false arg = signedOf true arg ↔
    -0x80000000 ≤ arg.toInt64.toInt ∧ arg.toInt64.toInt < 0x80000000 := by
  have whole : arg.toInt64.toInt = (arg.toNat : Int).bmod (2 ^ 64) :=
    BitVec.toInt_eq_toNat_bmod arg.toBitVec
  have half : arg.toUInt32.toInt32.toInt = (arg.toUInt32.toNat : Int).bmod (2 ^ 32) :=
    BitVec.toInt_eq_toNat_bmod arg.toUInt32.toBitVec
  have low : arg.toUInt32.toNat = arg.toNat % 2 ^ 32 := UInt64.toNat_toUInt32 arg
  have bound := arg.toNat_lt
  rw [signedOf_long, signedOf, if_neg (by decide), half, low, whole, Int.bmod_def, Int.bmod_def]
  omega

theorem signed_iff (long : Bool) (arg : UInt64) :
    signed (signedOf false arg) = signed (signedOf long arg) ↔
      (long = true → -0x80000000 ≤ arg.toInt64.toInt ∧ arg.toInt64.toInt < 0x80000000) := by
  cases long with
  | false => simp
  | true =>
      rw [← signedOf_iff]
      exact ⟨fun same _ => signed_injective same, fun same => congrArg signed (same rfl)⟩

theorem unsigned_iff (arg : UInt64) :
    signed (signedOf false arg) = decimal (unsignedOf false arg) ↔
      arg.toUInt32.toNat < 0x80000000 := by
  have half : arg.toUInt32.toInt32.toInt = (arg.toUInt32.toNat : Int).bmod (2 ^ 32) :=
    BitVec.toInt_eq_toNat_bmod arg.toUInt32.toBitVec
  have bound := arg.toUInt32.toNat_lt
  rw [signed_decimal_iff, signedOf, if_neg (by decide), unsignedOf, if_neg (by decide), half,
    Int.bmod_def]
  omega

theorem unsignedOf_iff (arg : UInt64) :
    unsignedOf true arg = unsignedOf false arg ↔ arg.toNat < 0x100000000 := by
  have low : arg.toUInt32.toNat = arg.toNat % 2 ^ 32 := UInt64.toNat_toUInt32 arg
  rw [unsignedOf, if_pos rfl, unsignedOf, if_neg (by decide), low]
  omega

theorem flag_number (flag long : Bool) (arg : UInt64) :
    unsignedOf (flag || long) arg = unsignedOf long arg ↔
      (long = false → flag = true → arg.toNat < 0x100000000) := by
  cases long <;> cases flag <;> simp [unsignedOf_iff]

theorem hex_iff (n m : Nat) : hex false n = hex small m ↔
    n = m ∧ (small = true → ∀ d ∈ places 16 m, d < 10) := by
  constructor
  · intro same
    have value := hex_injective same
    subst value
    refine ⟨rfl, fun letters => ?_⟩
    rw [letters] at same
    exact (hex_small_iff n).mp same
  · rintro ⟨rfl, letters⟩
    cases small with
    | false => rfl
    | true => exact (hex_small_iff n).mpr (letters rfl)

theorem rendered_iff :
    rendered string (flag || long) arg spec = standard small string long arg spec ↔
    Right small flag long arg spec := by
  cases spec with
  | c => by_cases zero : arg.toUInt8 = 0 <;> simp [rendered, standard, Right, zero]
  | s => exact iff_of_true rfl trivial
  | S => exact iff_of_true rfl trivial
  | d => exact signed_iff long arg
  | i => exact signed_iff long arg
  | u =>
      cases long with
      | true => simp [rendered, standard, Right, unsignedOf]
      | false =>
          cases flag with
          | true =>
              have number := unsignedOf_iff arg
              have forward := @decimal_injective (unsignedOf true arg) (unsignedOf false arg)
              simp only [rendered, standard, Right, Bool.or_false, reduceIte, forall_const]
              exact ⟨fun same => number.mp (forward same),
                fun low => congrArg decimal (number.mpr low)⟩
          | false =>
              simp only [Right, forall_const]
              exact unsigned_iff arg
  | x => exact (hex_iff _ _).trans (and_congr_left' (flag_number flag long arg))
  | X =>
      have capitals := @hex_iff false (unsignedOf (flag || long) arg) (unsignedOf long arg)
      simp only [Bool.false_eq_true, false_implies, and_true] at capitals
      exact capitals.trans (flag_number flag long arg)
  | p => exact iff_of_true rfl trivial

end Pieces

section Formats

variable {small : Bool} {string : UInt64 → CString}

/-- The loop over a format of literals and conversions: it ends at the NUL. -/
theorem turns_spec (string : UInt64 → CString) (items : List Item) (flag : Bool)
    (ap : List UInt64) (enough : directives items ≤ ap.length) :
    turns string (formatOf items) flag ap =
      .ok (renderings string flag items ap, ap.drop (directives items)) := by
  induction items generalizing flag ap with
  | nil => rfl
  | cons item items ih =>
      cases item with
      | literal byte text =>
          have later := ih flag ap enough
          have format : formatOf (.literal byte text :: items) = byte :: formatOf items := rfl
          have written : vsputs [byte, 0] = [byte] := by simp [vsputs, text.1]
          rw [format, turns.eq_def]
          simp only [if_neg text.1, if_neg text.2, later, written]
          rfl
      | directive long spec =>
          cases ap with
          | nil => cases enough
          | cons arg ap =>
              have later := ih (spec.after (flag || long)) ap (Nat.le_of_succ_le_succ enough)
              have here := conversion_spec string (flag || long) arg ap spec
              have plain : spec.char ≠ UCHAR 'l' := by cases spec <;> decide
              cases long with
              | false =>
                  have format : formatOf (.directive false spec :: items) =
                    UCHAR '%' :: spec.char :: formatOf items := rfl
                  rw [Bool.or_false] at here later
                  rw [format, turns.eq_def]
                  simp only [if_neg (show UCHAR '%' ≠ 0 by decide), reduceIte, if_neg plain, here]
                  rw [renderings, Bool.or_false, directives, List.drop_succ_cons]
                  change (turns string (formatOf items) (spec.after flag) ap >>= _) = _
                  rw [later]
                  rfl
              | true =>
                  have format : formatOf (.directive true spec :: items) =
                    UCHAR '%' :: UCHAR 'l' :: spec.char :: formatOf items := rfl
                  rw [Bool.or_true] at here later
                  rw [format, turns.eq_def]
                  simp only [if_neg (show UCHAR '%' ≠ 0 by decide), reduceIte, here]
                  rw [renderings, Bool.or_true, directives, List.drop_succ_cons]
                  change (turns string (formatOf items) (spec.after true) ap >>= _) = _
                  rw [later]
                  rfl

/-- Piece by piece the output is as usual exactly where each conversion is right. -/
theorem renderings_iff (items : List Item) (flag : Bool) (ap : List UInt64)
    (enough : directives items ≤ ap.length) :
    renderings string flag items ap = standards small string items ap ↔
      AllRight small flag items ap := by
  induction items generalizing flag ap with
  | nil => exact iff_of_true rfl trivial
  | cons item items ih =>
      cases item with
      | literal byte text =>
          rw [renderings, standards, AllRight, List.cons.injEq, ih flag ap enough]
          exact and_iff_right rfl
      | directive long spec =>
          cases ap with
          | nil => cases enough
          | cons arg ap =>
              rw [renderings, standards, AllRight, List.cons.injEq, rendered_iff,
                ih _ ap (Nat.le_of_succ_le_succ enough)]

theorem ended_iff (str : Nat → UInt8) (text : List UInt8) :
    IsString (fun i => text.getD i (str i)) text ↔ str text.length = 0 := by
  constructor
  · intro string
    simpa using string.2
  · intro zero
    refine ⟨fun i inside => ?_, ?_⟩
    · simp [inside]
    · simpa using zero

/-- What a call with such a format leaves. -/
def outcome (string : UInt64 → CString) (str : Nat → UInt8) (items : List Item)
    (ap : List UInt64) : Written where
  pieces := renderings string false items ap
  memory i := (renderings string false items ap).flatten.getD i (str i)
  ap := ap.drop (directives items)

theorem kinguioVsprintf_eq (string : UInt64 → CString) (str : Nat → UInt8) (items : List Item)
    (ap : List UInt64) (enough : directives items ≤ ap.length) :
    kinguioVsprintf string str (formatOf items) ap = .ok (outcome string str items ap) := by
  rw [kinguioVsprintf, turns_spec string items false ap enough]
  rfl

/-- Every format of literals and conversions is read to its NUL and takes one argument
    for a conversion; what it writes is as usual exactly where each conversion is right
    and a NUL is there already. -/
theorem vsprintf_iff (small : Bool) (string : UInt64 → CString) (str : Nat → UInt8)
    (items : List Item) (ap : List UInt64) (enough : directives items ≤ ap.length) :
    ∃ written, kinguioVsprintf string str (formatOf items) ap = .ok written ∧
      written.ap = ap.drop (directives items) ∧
      (Law small string items ap written ↔
        AllRight small false items ap ∧
          str (standards small string items ap).flatten.length = 0) := by
  refine ⟨outcome string str items ap, kinguioVsprintf_eq string str items ap enough, rfl, ?_⟩
  rw [← renderings_iff items false ap enough]
  constructor
  · rintro ⟨pieces, ended⟩
    simp only [outcome] at pieces ended
    rw [pieces] at ended
    exact ⟨pieces, (ended_iff str _).mp ended⟩
  · rintro ⟨pieces, zero⟩
    refine ⟨pieces, ?_⟩
    rw [outcome, pieces]
    exact (ended_iff str _).mpr zero

/-- An n and a number, with one argument more than is taken. -/
theorem number_written :
    ∃ written, kinguioVsprintf noStrings (fun _ => 0)
        (formatOf [.literal (UCHAR 'n') (by decide), .directive false .d]) [5, 9] = .ok written ∧
      written.ap = [9] ∧
      (Law true noStrings [.literal (UCHAR 'n') (by decide), .directive false .d] [5, 9] written ↔
        AllRight true false [.literal (UCHAR 'n') (by decide), .directive false .d] [5, 9] ∧
          (0 : UInt8) = 0) :=
  vsprintf_iff true noStrings (fun _ => 0)
    [.literal (UCHAR 'n') (by decide), .directive false .d] [5, 9] (by decide)

/-- %u of the largest number of thirty-two bits is -1. -/
theorem largest_is_negative :
    ∃ written, kinguioVsprintf noStrings (fun _ => 0) (formatOf [.directive false .u])
        [0xFFFFFFFF] = .ok written ∧
      written.pieces = [[UCHAR '-', UCHAR '1']] ∧
      ¬Law true noStrings [.directive false .u] [0xFFFFFFFF] written := by
  have one : decimal 1 = [UCHAR '1'] := by
    rw [decimal, places, if_neg (by decide), Nat.digits_of_lt 10 1 (by decide) (by decide)]
    rfl
  have pieces : renderings noStrings false [.directive false .u] [0xFFFFFFFF] =
      [[UCHAR '-', UCHAR '1']] := by
    change [UCHAR '-' :: decimal 1] = _
    rw [one]
  refine ⟨outcome noStrings (fun _ => 0) [.directive false .u] [0xFFFFFFFF],
    kinguioVsprintf_eq _ _ _ _ (by decide), pieces, ?_⟩
  intro law
  have same : renderings noStrings false [.directive false .u] [0xFFFFFFFF] =
      [decimal 0xFFFFFFFF] := law.pieces
  rw [pieces] at same
  have inside : UCHAR '-' ∈ decimal 0xFFFFFFFF := (List.cons.inj same).1 ▸ List.mem_cons_self
  exact minus_not_mem_decimal _ inside

end Formats

end Gramado.Libk.Vsprintf
