/-
What the modelled kernel code shares: how a call can stop the kernel, and the
C conversions that its arguments go through.
-/
import Gramado.Lib.Bytes

namespace Gramado.Ke

open Gramado.Lib.Bytes

/-- A call that does not return: a `panic()`, or an access through NULL or
    outside the object that it is meant for. Nothing is said about what follows. -/
inductive Stop where
  | panic (text : String)
  | fault (text : String)
  deriving DecidableEq, Repr

def Stop.IsPanic : Stop → Prop
  | .panic _ => True
  | .fault _ => False

@[simp] theorem isPanic_panic (text : String) : Stop.IsPanic (.panic text) := trivial

@[simp] theorem isPanic_fault (text : String) : ¬Stop.IsPanic (.fault text) := id

/-- `(unsigned long) n` for an `int n`: the sign is extended. -/
def unsignedLong (n : Int32) : Nat :=
  (n.toInt % 2 ^ 64).toNat

/-- `memcpy` of `n` bytes to the start of an object. -/
def memcpy (dst src : List UInt8) (n : Nat) : Except Stop (List UInt8) :=
  if n ≤ dst.length then
    .ok (poke dst 0 (peek src 0 n))
  else
    .error (.fault "memcpy: destination")

/-- `memcpy` of `n` bytes out of an object, to a buffer of the caller. -/
def memcpyOut (src : List UInt8) (n : Nat) : Except Stop (List UInt8) :=
  if n ≤ src.length then
    .ok (peek src 0 n)
  else
    .error (.fault "memcpy: source")

theorem unsignedLong_of_nonneg {n : Int32} (nonneg : 0 ≤ n.toInt) :
    unsignedLong n = n.toNatClampNeg := by
  have small := n.toInt_lt
  rw [unsignedLong, Int.emod_eq_of_lt nonneg (by omega), Int32.toNat_toInt]

theorem memcpy_ok {dst src : List UInt8} {n : Nat} (fits : n ≤ dst.length) :
    memcpy dst src n = .ok (poke dst 0 (peek src 0 n)) := by
  rw [memcpy, if_pos fits]

theorem memcpyOut_ok {src : List UInt8} {n : Nat} (fits : n ≤ src.length) :
    memcpyOut src n = .ok (peek src 0 n) := by
  rw [memcpyOut, if_pos fits]

end Gramado.Ke
