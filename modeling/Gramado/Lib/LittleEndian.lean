/-
Numbers as bytes, the low byte first, and memory words of that form.
-/
import Gramado.Lib.Memory

namespace Gramado.Lib.LittleEndian

open Gramado.Lib.Memory

/-- The number that the bytes spell. -/
def number : List UInt8 → Nat
  | [] => 0
  | low :: rest => low.toNat + 256 * number rest

/-- The low `n` bytes of a number. -/
def bytesOf : Nat → Nat → List UInt8
  | 0, _ => []
  | n + 1, v => UInt8.ofNat v :: bytesOf n (v / 256)

@[simp] theorem length_bytesOf (n v : Nat) : (bytesOf n v).length = n := by
  induction n generalizing v with
  | zero => rfl
  | succ n ih => simp [bytesOf, ih]

theorem number_bytesOf (n v : Nat) : number (bytesOf n v) = v % 256 ^ n := by
  induction n generalizing v with
  | zero => simp [bytesOf, number, Nat.mod_one]
  | succ n ih =>
      have low : (UInt8.ofNat v).toNat = v % 256 := by simp
      rw [bytesOf, number, ih, low, Nat.pow_succ', Nat.mod_mul]

/-- The 16-bit word at an address. -/
def shortAt (mem : Int → UInt8) (address : Int) : UInt16 :=
  UInt16.ofNat (number (slice mem address 2))

/-- The 32-bit word at an address. -/
def intAt (mem : Int → UInt8) (address : Int) : Nat :=
  number (slice mem address 4)

def setShort (mem : Int → UInt8) (address : Int) (v : UInt16) : Int → UInt8 :=
  store mem address (bytesOf 2 v.toNat)

variable {mem other : Int → UInt8} {address k : Int} {v : UInt16}

theorem shortAt_congr (same : ∀ k, address ≤ k → k < address + 2 → other k = mem k) :
    shortAt other address = shortAt mem address := by
  rw [shortAt, slice_congr same, shortAt]

theorem shortAt_eq_of_bytes (spelt : slice mem address 2 = bytesOf 2 v.toNat) :
    shortAt mem address = v := by
  have small := v.toNat_lt
  apply UInt16.toNat_inj.mp
  rw [shortAt, spelt, number_bytesOf]
  simp [Nat.mod_eq_of_lt small]

theorem shortAt_ne_zero (low : mem address ≠ 0) : shortAt mem address ≠ 0 := by
  intro zero
  apply low
  have value := congrArg UInt16.toNat zero
  have first := (mem address).toNat_lt
  have second := (mem (address + 1)).toNat_lt
  rw [shortAt, slice_succ, slice_succ, slice_zero, number, number, number,
    UInt16.toNat_ofNat_of_lt' (show _ < 2 ^ 16 by omega)] at value
  apply UInt8.toNat_inj.mp
  have none : UInt16.toNat 0 = 0 := rfl
  have nothing : UInt8.toNat 0 = 0 := rfl
  omega

@[simp] theorem shortAt_setShort : shortAt (setShort mem address v) address = v := by
  apply shortAt_eq_of_bytes
  have whole : slice (store mem address (bytesOf 2 v.toNat)) address (bytesOf 2 v.toNat).length =
      bytesOf 2 v.toNat := slice_store
  rwa [length_bytesOf] at whole

theorem setShort_apart (apart : k < address ∨ address + 2 ≤ k) :
    setShort mem address v k = mem k := by
  rcases apart with before | behind
  · exact store_before before
  · exact store_behind (by simpa using behind)

end Gramado.Lib.LittleEndian
