/-
Memory as a list of bytes: reading a range, overwriting a range. A read past
the end of the list gives zero bytes, so that the rules say where the bounds
are needed.
-/
import Mathlib.Algebra.GroupWithZero.Nat
import Mathlib.Algebra.Ring.Int.Defs
import Mathlib.Data.List.GetD
import Mathlib.Tactic.Common

namespace Gramado.Lib.Bytes

/-- The `n` bytes of memory from offset `off` on. -/
def peek (mem : List UInt8) (off n : Nat) : List UInt8 :=
  (List.range n).map fun k => mem.getD (off + k) 0

/-- Memory with the bytes from offset `off` on replaced. -/
def poke (mem : List UInt8) (off : Nat) (bytes : List UInt8) : List UInt8 :=
  mem.take off ++ bytes ++ mem.drop (off + bytes.length)

section Ranges

variable {mem bytes : List UInt8} {off n : Nat}

@[simp] theorem length_peek : (peek mem off n).length = n := by
  simp [peek]

theorem getElem_peek {k : Nat} (inside : k < (peek mem off n).length) :
    (peek mem off n)[k] = mem.getD (off + k) 0 := by
  simp [peek]

theorem peek_eq_take_drop (inside : off + n ≤ mem.length) :
    peek mem off n = (mem.drop off).take n := by
  apply List.ext_getElem
  · simp only [length_peek, List.length_take, List.length_drop]
    omega
  · intro k left right
    rw [getElem_peek, List.getElem_take, List.getElem_drop]
    rw [length_peek] at left
    rw [List.getD_eq_getElem _ _ (by omega)]

theorem length_poke (inside : off + bytes.length ≤ mem.length) :
    (poke mem off bytes).length = mem.length := by
  simp only [poke, List.length_append, List.length_take, List.length_drop]
  omega

theorem peek_poke (inside : off + bytes.length ≤ mem.length) :
    peek (poke mem off bytes) off bytes.length = bytes := by
  rw [peek_eq_take_drop (by rw [length_poke inside]; exact inside)]
  have start : (mem.take off).length = off := by
    rw [List.length_take]
    omega
  simp only [poke, List.append_assoc]
  rw [List.drop_left' start, List.take_left' rfl]

theorem peek_append_left {rest : List UInt8} (inside : off + n ≤ mem.length) :
    peek (mem ++ rest) off n = peek mem off n := by
  apply List.ext_getElem
  · simp
  · intro k left right
    rw [length_peek] at left
    rw [getElem_peek, getElem_peek, List.getD_append _ _ _ _ (by omega)]

end Ranges

end Gramado.Lib.Bytes
