/-
The buffered reads and writes of fslib.c and the positioning functions of
kstdio.c. A write to a regular file, a terminal or an i/o buffer is a write to
its stream buffer; nothing here touches a disk.
-/
import Gramado.Fs.Pipe
import Gramado.Lib.Memory

namespace Gramado.Fs

open Gramado.Ke
open Gramado.Lib.Memory

/-- The value of an `int` or a `long` that is given a number too large for it. -/
def asInt (n : Int) : Int := n.bmod (2 ^ 32)

def asLong (n : Int) : Int := n.bmod (2 ^ 64)

/-- Regular file, tty, iobuffer. -/
def ObjectType.Stream (object : ObjectType) : Prop :=
  object = .file ∨ object = .tty ∨ object = .ioBuffer

instance (object : ObjectType) : Decidable object.Stream :=
  inferInstanceAs (Decidable (_ ∨ _ ∨ _))

/-- The part of `file_read_buffer` for a file with offsets. -/
def readStream (f : File) (count : Int) : Reply × File :=
  if f.lbfsize ≤ 0 then
    (.only EOF, f)
  else if f.lbfsize > 8 * 1024 then
    (.only EOF, f)
  else if f.r < 0 then
    (.only EOF, { f with r := 0 })
  else if f.r > f.lbfsize then
    (.only EOF, f)
  else if f.r > f.w then
    (.only 0, { f with r := f.w })
  else
    let count := if count > f.lbfsize then f.lbfsize - 1 else count
    let delta := asInt (f.w - f.r)
    if delta = 0 then
      (.only 0, f)
    else
      let count := if count > delta then delta else count
      let f := { f with p := f.r }
      if count ≤ 0 then
        (.only EOF, f)
      else
        let bytes := slice f.base f.p count.toNat
        let r := asInt (f.r + count)
        (⟨count, bytes, [(f.p, count.toNat)]⟩,
          { f with
            p := f.p + count
            r := if r > f.w then f.w else r
            flags := f.flags ||| swr
            canWrite := true })

/-- `len & 0xFFFF` -/
def low16 (len : Int32) : Int :=
  (len.toUInt32.toNat % 0x10000 : Nat)

def fileReadBuffer (f : File) (pipeInfo : Option PipeInfo) (buffer : Bool) (len : Int32) :
    Reply × File × Option PipeInfo :=
  let count := low16 len
  if f.used ≠ true ∨ f.magic ≠ 1234 then
    (.only EOF, f, pipeInfo)
  else if buffer = false then
    (.only EOF, f, pipeInfo)
  else if count ≤ 0 then
    (.only EOF, f, pipeInfo)
  else
    let count := if count > f.lbfsize then f.lbfsize else count
    if f.object = .socket then
      (⟨count, slice f.base 0 count.toNat, [(0, count.toNat)]⟩,
        { f with flags := f.flags ||| swr }, pipeInfo)
    else if f.object = .pipe then
      fileReadPipeBuffer f pipeInfo buffer count
    else if f.object.Stream then
      let (reply, f) := readStream f count
      (reply, f, pipeInfo)
    else
      (.only EOF, f, pipeInfo)

/-- The end of `file_write_buffer` for a file with offsets, where `len` bytes
    are to go into the buffer. -/
def putStream (f : File) (string : Nat → UInt8) (len : Int) : Reply × File :=
  let f := if f.w < f.r then { f with w := f.r, cnt := asInt (f.lbfsize - f.r) } else f
  let bytes := (List.range len.toNat).map string
  (⟨len, [], [(f.w, len.toNat)]⟩,
    { f with
      base := store f.base f.w bytes
      p := f.w + len
      w := asInt (f.w + len)
      cnt := asInt (f.cnt - len)
      flags := srd
      canRead := true })

/-- The part of `file_write_buffer` for a file with offsets. -/
def writeStream (f : File) (string : Nat → UInt8) (len : Int) : Reply × File :=
  if f.lbfsize > BUFSIZ then
    (.only EOF, f)
  else if f.w < 0 then
    (.only EOF, { f with p := 0, w := 0, r := 0, cnt := f.lbfsize })
  else if f.w ≥ BUFSIZ then
    (.only EOF, { f with w := BUFSIZ, cnt := 0 })
  else if f.cnt < 0 then
    (.only EOF, { f with cnt := 0, w := f.lbfsize, r := f.lbfsize, p := f.lbfsize })
  else
    let f := if f.cnt > f.lbfsize then { f with cnt := f.lbfsize, p := 0, w := 0, r := 0 } else f
    if len < 0 then
      (.only (-1), f)
    else if len > f.cnt then
      if f.cnt ≤ 0 then
        -- The offset of the reader goes to the end too.
        (.only (-1), { f with w := f.lbfsize, r := f.lbfsize, p := f.lbfsize, cnt := 0 })
      else
        putStream f string f.cnt
    else
      putStream f string len

/-- Neither `used` nor `magic` is looked at here. -/
def fileWriteBuffer (f : File) (pipeInfo : Option PipeInfo) (string : Option (Nat → UInt8))
    (len : Int32) : Reply × File × Option PipeInfo :=
  match string with
  | none => (.only EOF, f, pipeInfo)
  | some string =>
      if len.toInt ≥ BUFSIZ then
        (.only EOF, f, pipeInfo)
      else if f.object = .socket then
        (⟨len.toInt, [], [(0, len.toNatClampNeg)]⟩,
          { f with base := store f.base 0 ((List.range len.toNatClampNeg).map string) }, pipeInfo)
      else if f.object = .pipe then
        fileWritePipeBuffer f pipeInfo (some string) len.toInt
      else if f.object.Stream then
        let (reply, f) := writeStream f string len.toInt
        (reply, f, pipeInfo)
      else
        (.only EOF, f, pipeInfo)

def SEEK_SET : Int := 0

def SEEK_CUR : Int := 1

def SEEK_END : Int := 2

def GRAMADO_SEEK_CLEAR : Int := 1000

/-- The value is 0 or -1. -/
def kFseek (f : File) (offset : Int64) (whence : Int32) : Except Stop (Reply × File) :=
  if whence.toInt < 0 then
    .ok (.only (-1), f)
  else if whence.toInt = SEEK_SET then
    let offset := if offset.toInt < 0 then 0 else offset.toInt
    let offset := if offset > f.cnt then f.cnt else offset
    .ok (.only 0, { f with r := asInt offset, w := asInt offset, p := offset })
  else if whence.toInt = SEEK_CUR then
    let offset := if offset.toInt > f.cnt then f.cnt else offset.toInt
    let p := f.p + offset
    .ok (.only 0, { f with p := p, r := asInt p, w := asInt p })
  else if whence.toInt = SEEK_END then
    let offset := if offset.toInt > 0 then 0 else offset.toInt
    if f.fsize > f.lbfsize then
      .error (.panic "k_fseek: #todo f->_fsize > f->_lbfsize\n")
    else if asLong (f.fsize + offset) > f.lbfsize then
      .error (.panic "k_fseek: #todo (f->_fsize + offset) > f->_lbfsize\n")
    else
      let place := asLong (f.fsize + offset)
      .ok (.only 0, { f with r := asInt place, w := asInt place, p := place })
  else if whence.toInt = GRAMADO_SEEK_CLEAR then
    -- Always BUFSIZ bytes, whatever the size of the buffer.
    .ok (⟨0, [], [(0, BUFSIZ.toNat)]⟩,
      { f with
        base := store f.base 0 (List.replicate BUFSIZ.toNat 0)
        p := 0
        r := 0
        w := 0
        cnt := f.lbfsize })
  else
    .ok (.only (-1), f)

def kRewind (f : File) : File :=
  { f with p := 0 }

/-- `(char) ch`, as `ksprintf` puts it into a string of its own. -/
def lowByte (ch : Int32) : UInt8 :=
  ch.toUInt32.toUInt8

/-- What `ksprintf(f->_p, "%c", ch)` writes: the character without a zero byte
    behind it, and nothing for the character zero. -/
def charText (ch : Int32) : List UInt8 :=
  if lowByte ch = 0 then [] else [lowByte ch]

def kFputc (ch : Int32) (f : File) : Except Stop (Reply × File) :=
  if f.cnt > 0 ∧ ch.toInt ≠ 10 then
    let f' := { f with
      base := store f.base f.p (charText ch)
      p := f.p + 1
      w := asInt (f.w + 1)
      cnt := f.cnt - 1 }
    if f'.cnt ≤ 0 then
      .error (.panic "k_fputc: _cnt\n")
    else
      .ok (⟨ch.toInt, [], [(f.p, (charText ch).length)]⟩, { f' with flags := f'.flags ||| srd })
  else
    .ok (.only EOF, f)

end Gramado.Fs
