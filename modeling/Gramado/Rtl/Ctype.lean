/-
The masks of `_ctype` (ctype.h) as ranges of the low byte: the letters of
Latin-1 are letters, and the byte 255, for which EOF is taken, is one.
-/
import Mathlib.Data.Int.Notation

namespace Gramado.Rtl.Ctype

/-- `_U`. -/
def isupper (c : Int) : Bool :=
  let b := c % 256
  (65 ≤ b && b ≤ 90) || (192 ≤ b && b ≤ 214) || (216 ≤ b && b ≤ 222)

/-- `_L`. -/
def islower (c : Int) : Bool :=
  let b := c % 256
  (97 ≤ b && b ≤ 122) || (223 ≤ b && b ≤ 246) || (248 ≤ b && b ≤ 255)

def isalpha (c : Int) : Bool :=
  isupper c || islower c

/-- `_D`, as the macros see it. -/
def hasDigit (c : Int) : Bool :=
  let b := c % 256
  48 ≤ b && b ≤ 57

def isalnum (c : Int) : Bool :=
  isalpha c || hasDigit c

/-- `_D` and `_X`. -/
def isxdigit (c : Int) : Bool :=
  let b := c % 256
  hasDigit c || (65 ≤ b && b ≤ 70) || (97 ≤ b && b ≤ 102)

/-- The inline function compares the int. -/
def isdigit (c : Int) : Bool :=
  48 ≤ c && c ≤ 57

/-- `_S`. -/
def isspace (c : Int) : Bool :=
  let b := c % 256
  (9 ≤ b && b ≤ 13) || b = 32 || b = 160

end Gramado.Rtl.Ctype
