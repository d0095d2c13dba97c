/-
The file structure of kstdio.h, as far as the stream functions look at it. The
pointers `_base` and `_p` are taken relative to `_base`; the buffer is the
memory from there on, and what lies around it has a value too.
-/
import Gramado.Ke

namespace Gramado.Fs

def BUFSIZ : Int := 1024

def EOF : Int := -1

def EBADF : Int := 9

def EINVAL : Int := 22

/-- `__SRD` and `__SWR`. -/
def srd : UInt16 := 0x0004

def swr : UInt16 := 0x0008

/-- `____object`, of which the stream functions name five. -/
inductive ObjectType where
  | file
  | pipe
  | socket
  | tty
  | ioBuffer
  | other (code : Nat)
  deriving DecidableEq, Repr

/-- `canRead` and `canWrite` are those of `sync`. -/
structure File where
  object : ObjectType
  used : Bool
  magic : Int
  base : Int → UInt8
  p : Int
  lbfsize : Int
  fsize : Int
  r : Int
  w : Int
  cnt : Int
  flags : UInt16
  canRead : Bool
  canWrite : Bool

/-- What a stream function returns, the bytes it puts into the caller's buffer,
    and the ranges of the file's own buffer that it reads or writes. -/
structure Reply where
  value : Int
  bytes : List UInt8
  copies : List (Int × Nat)
  deriving DecidableEq, Repr

def Reply.only (value : Int) : Reply := ⟨value, [], []⟩

end Gramado.Fs
