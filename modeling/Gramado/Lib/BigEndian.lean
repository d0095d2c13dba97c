/-
Numbers of two and four bytes with the high byte first, as network headers
carry them: writing a field, reading one from memory, and the two rules a
round trip needs (what is written is read back, and a field is found behind
whatever lies before it).
-/
import Mathlib.Algebra.GroupWithZero.Nat
import Mathlib.Algebra.Ring.Int.Defs
import Mathlib.Data.List.GetD
import Mathlib.Tactic.Common

namespace Gramado.Lib.BigEndian

def be16 (v : UInt16) : List UInt8 :=
  [UInt8.ofNat (v.toNat / 2 ^ 8), UInt8.ofNat v.toNat]

def be32 (v : UInt32) : List UInt8 :=
  [UInt8.ofNat (v.toNat / 2 ^ 24), UInt8.ofNat (v.toNat / 2 ^ 16),
    UInt8.ofNat (v.toNat / 2 ^ 8), UInt8.ofNat v.toNat]

def byteAt (mem : List UInt8) (off : Nat) : UInt8 :=
  mem.getD off 0

def word16 (mem : List UInt8) (off : Nat) : UInt16 :=
  UInt16.ofNat ((byteAt mem off).toNat * 2 ^ 8 + (byteAt mem (off + 1)).toNat)

def word32 (mem : List UInt8) (off : Nat) : UInt32 :=
  UInt32.ofNat ((byteAt mem off).toNat * 2 ^ 24 + (byteAt mem (off + 1)).toNat * 2 ^ 16 +
    (byteAt mem (off + 2)).toNat * 2 ^ 8 + (byteAt mem (off + 3)).toNat)

@[simp] theorem length_be16 (v : UInt16) : (be16 v).length = 2 := rfl

@[simp] theorem length_be32 (v : UInt32) : (be32 v).length = 4 := rfl

theorem word16_be16 (v : UInt16) (rest : List UInt8) : word16 (be16 v ++ rest) 0 = v := by
  have small := v.toNat_lt
  have high : byteAt (be16 v ++ rest) 0 = UInt8.ofNat (v.toNat / 2 ^ 8) := rfl
  have low : byteAt (be16 v ++ rest) (0 + 1) = UInt8.ofNat v.toNat := rfl
  apply UInt16.toNat_inj.mp
  rw [word16, high, low, UInt16.toNat_ofNat', UInt8.toNat_ofNat', UInt8.toNat_ofNat']
  omega

theorem word32_be32 (v : UInt32) (rest : List UInt8) : word32 (be32 v ++ rest) 0 = v := by
  have small := v.toNat_lt
  have b0 : byteAt (be32 v ++ rest) 0 = UInt8.ofNat (v.toNat / 2 ^ 24) := rfl
  have b1 : byteAt (be32 v ++ rest) (0 + 1) = UInt8.ofNat (v.toNat / 2 ^ 16) := rfl
  have b2 : byteAt (be32 v ++ rest) (0 + 2) = UInt8.ofNat (v.toNat / 2 ^ 8) := rfl
  have b3 : byteAt (be32 v ++ rest) (0 + 3) = UInt8.ofNat v.toNat := rfl
  apply UInt32.toNat_inj.mp
  rw [word32, b0, b1, b2, b3, UInt32.toNat_ofNat', UInt8.toNat_ofNat', UInt8.toNat_ofNat',
    UInt8.toNat_ofNat', UInt8.toNat_ofNat']
  omega

section Behind

variable (before mem : List UInt8) (off : Nat)

@[simp] theorem byteAt_append : byteAt (before ++ mem) (before.length + off) = byteAt mem off := by
  rw [byteAt, byteAt, List.getD_append_right _ _ _ _ (by omega)]
  congr 1
  omega

@[simp] theorem word16_append : word16 (before ++ mem) (before.length + off) = word16 mem off := by
  simp only [word16, byteAt_append, Nat.add_assoc]

@[simp] theorem word32_append : word32 (before ++ mem) (before.length + off) = word32 mem off := by
  simp only [word32, byteAt_append, Nat.add_assoc]

end Behind

end Gramado.Lib.BigEndian
