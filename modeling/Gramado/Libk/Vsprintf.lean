/-
kinguio_vsprintf of kstdio.c and the routines that write its numbers. An argument is a
word of the argument list, of which an `int` is the low half. What the buffer for the
numbers holds behind its string is left out.
-/
import Mathlib.Data.List.Basic

namespace Gramado.Libk.Vsprintf

/-- The routine reads behind the format, or takes an argument that is not there. -/
inductive Overrun where
  | format
  | arguments
  deriving DecidableEq, Repr

/-- The characters of a string in front of its NUL. -/
structure CString where
  bytes : List UInt8
  ends : 0 ∉ bytes

def noStrings (_ : UInt64) : CString :=
  ⟨[], by decide⟩

def UCHAR (c : Char) : UInt8 := c.toUInt8

def INT_MAX : Int32 := 0x7FFFFFFF

/-- `do { *p++ = (char)(value % 10) + '0'; value /= 10; } while (value)`. -/
def reversed (value : Nat) : List UInt8 :=
  (UInt8.ofNat (value % 10) + UCHAR '0') ::
    if value / 10 = 0 then [] else reversed (value / 10)
termination_by value
decreasing_by omega

/-- `++*valuestring`. -/
def bump : List UInt8 → List UInt8
  | [] => []
  | c :: rest => (c + 1) :: rest

def utoaR (val : UInt64) : List UInt8 :=
  (reversed val.toNat).reverse

/-- The least number has no negative: it is written as its neighbour with the last
    place counted up. -/
def kinguioItoa (val : Int32) : List UInt8 :=
  if 0 > val then
    if -INT_MAX > val then
      UCHAR '-' :: (bump (reversed INT_MAX.toNatClampNeg)).reverse
    else
      UCHAR '-' :: (reversed (-val).toNatClampNeg).reverse
  else
    (reversed val.toNatClampNeg).reverse

/-- The loop over the places, from the last to the first. -/
def hexPlaces : Nat → UInt64 → List UInt8
  | 0, _ => []
  | len + 1, n =>
      let x := (n &&& 0xF).toUInt8
      hexPlaces len (n >>> 4) ++ [x + if x > 9 then UCHAR 'A' - 10 else UCHAR '0']

def i2hex (len : Nat) (val : UInt64) : List UInt8 :=
  if val = 0 then
    [UCHAR '0']
  else
    (hexPlaces len val).dropWhile (· = UCHAR '0')

def kinguioI2hexVersao2 (val : UInt64) (len : Nat) : List UInt8 :=
  i2hex len val

def kinguioI2hex (val : UInt32) (len : Nat) : List UInt8 :=
  i2hex len val.toUInt64

def kinguioUtoa (val : UInt64) (radix : Nat) : List UInt8 :=
  if radix = 16 then kinguioI2hexVersao2 val 16 else utoaR val

/-- What `_vsputs_r` copies. -/
def vsputs (src : List UInt8) : List UInt8 :=
  src.takeWhile (· ≠ 0)

def vaArg : List UInt64 → Except Overrun (UInt64 × List UInt64)
  | [] => .error .arguments
  | arg :: ap => .ok (arg, ap)

/-- The inner switch: what is written, the flag and the arguments that are left. -/
def conversion (string : UInt64 → CString) (spec : UInt8) (type64bit : Bool)
    (ap : List UInt64) : Except Overrun (List UInt8 × Bool × List UInt64) :=
  if spec = UCHAR 'c' then do
    let (arg, ap) ← vaArg ap
    return (vsputs [arg.toUInt8, 0], type64bit, ap)
  else if spec = UCHAR 's' ∨ spec = UCHAR 'S' then do
    let (s, ap) ← vaArg ap
    return (vsputs (if s ≠ 0 then (string s).bytes else "(null)".toList.map UCHAR), type64bit, ap)
  else if spec = UCHAR 'd' ∨ spec = UCHAR 'i' then do
    let (arg, ap) ← vaArg ap
    return (vsputs (kinguioItoa arg.toUInt32.toInt32), type64bit, ap)
  else if spec = UCHAR 'u' then do
    let (arg, ap) ← vaArg ap
    if type64bit then
      return (vsputs (kinguioUtoa arg 10), false, ap)
    else
      return (vsputs (kinguioItoa arg.toUInt32.toInt32), type64bit, ap)
  else if spec = UCHAR 'X' ∨ spec = UCHAR 'x' then do
    let (arg, ap) ← vaArg ap
    if type64bit then
      return (vsputs (kinguioUtoa arg 16), false, ap)
    else
      return (vsputs (kinguioI2hex arg.toUInt32 8), type64bit, ap)
  else if spec = UCHAR 'p' then do
    let (arg, ap) ← vaArg ap
    return (vsputs [UCHAR '0', UCHAR 'x'] ++ vsputs (kinguioUtoa arg 16), type64bit, ap)
  else
    return (vsputs [UCHAR '%', UCHAR '%'], type64bit, ap)

/-- The loop, from a place of the format on: what each turn writes, and the arguments
    that are left. A NUL behind a `%` is taken for a conversion and passed. -/
def turns (string : UInt64 → CString) : List UInt8 → Bool → List UInt64 →
    Except Overrun (List (List UInt8) × List UInt64)
  | [], _, _ => .error .format
  | c :: rest, type64bit, ap =>
      if c = 0 then
        .ok ([], ap)
      else if c = UCHAR '%' then
        match rest with
        | [] => .error .format
        | next :: rest =>
            if next = UCHAR 'l' then
              match rest with
              | [] => .error .format
              | spec :: rest => do
                  let (piece, type64bit, ap) ← conversion string spec true ap
                  let (more, ap) ← turns string rest type64bit ap
                  return (piece :: more, ap)
            else do
              let (piece, type64bit, ap) ← conversion string next type64bit ap
              let (more, ap) ← turns string rest type64bit ap
              return (piece :: more, ap)
      else do
        let (more, ap) ← turns string rest type64bit ap
        return (vsputs [c, 0] :: more, ap)

/-- What the call leaves: the memory from `str` on, and the arguments not taken. The
    number that it returns is the length of the pieces together. -/
structure Written where
  pieces : List (List UInt8)
  memory : Nat → UInt8
  ap : List UInt64

def kinguioVsprintf (string : UInt64 → CString) (str : Nat → UInt8) (fmt : List UInt8)
    (ap : List UInt64) : Except Overrun Written := do
  let (pieces, ap) ← turns string fmt false ap
  return ⟨pieces, fun i => pieces.flatten.getD i (str i), ap⟩

end Gramado.Libk.Vsprintf
