/-
The pipe of pipe.c: two file structures that share a ring of bytes. The ring
positions are advanced after a byte and brought back before the next one, so
that between two calls a position may be just behind the ring.
-/
import Gramado.Fs.File

namespace Gramado.Fs

/-- `struct pipe_info_d`, both ends' `pipe_info`. The ring is also what `_base`
    points to, but no function reaches it from there for a pipe. -/
structure PipeInfo where
  base : Nat → UInt8
  bufferSize : Nat
  counter : Nat
  writePos : Nat
  readPos : Nat

/-- A position is brought back to the start before it is used. -/
def wrapAround (size pos : Nat) : Nat :=
  if pos ≥ size then 0 else pos

/-- The loop of `file_read_pipe_buffer` for `len` bytes: what was read, and
    from which positions. -/
def readLoop : Nat → PipeInfo → List UInt8 × List Nat × PipeInfo
  | 0, info => ([], [], info)
  | left + 1, info =>
      if info.counter = 0 then
        ([], [], info)
      else
        let pos := wrapAround info.bufferSize info.readPos
        let later := readLoop left
          { info with readPos := pos + 1, counter := info.counter - 1 }
        (info.base pos :: later.1, pos :: later.2.1, later.2.2)

/-- The loop of `file_write_pipe_buffer` over the bytes that are to be written:
    how many were, and to which positions. -/
def writeLoop : List UInt8 → PipeInfo → Nat × List Nat × PipeInfo
  | [], info => (0, [], info)
  | byte :: rest, info =>
      if info.counter ≥ info.bufferSize then
        (0, [], info)
      else
        let pos := wrapAround info.bufferSize info.writePos
        let later := writeLoop rest
          { info with
            base := fun k => if k = pos then byte else info.base k
            writePos := pos + 1
            counter := info.counter + 1 }
        (later.1 + 1, pos :: later.2.1, later.2.2)

/-- `buffer` says whether the pointer is not NULL. -/
def fileReadPipeBuffer (f : File) (pipeInfo : Option PipeInfo) (buffer : Bool) (len : Int) :
    Reply × File × Option PipeInfo :=
  if f.object ≠ .pipe then
    (.only (-EBADF), f, pipeInfo)
  else if f.used ≠ true ∨ f.magic ≠ 1234 then
    (.only (-EBADF), f, pipeInfo)
  else if buffer = false ∨ len ≤ 0 then
    (.only (-EINVAL), f, pipeInfo)
  else
    match pipeInfo with
    | none => (.only (-EBADF), f, none)
    | some info =>
        let (bytes, positions, info) := readLoop len.toNat info
        (⟨bytes.length, bytes, positions.map fun (pos : Nat) => ((pos : Int), 1)⟩,
          { f with flags := swr, canWrite := true }, some info)

/-- `string` is the memory from the pointer on, or none for NULL. -/
def fileWritePipeBuffer (f : File) (pipeInfo : Option PipeInfo)
    (string : Option (Nat → UInt8)) (len : Int) : Reply × File × Option PipeInfo :=
  if f.object ≠ .pipe then
    (.only (-EBADF), f, pipeInfo)
  else if f.used ≠ true ∨ f.magic ≠ 1234 then
    (.only (-EBADF), f, pipeInfo)
  else
    match string with
    | none => (.only (-EINVAL), f, pipeInfo)
    | some string =>
        if len ≤ 0 then
          (.only (-EINVAL), f, pipeInfo)
        else
          match pipeInfo with
          | none => (.only (-EBADF), f, none)
          | some info =>
              let (count, positions, info) :=
                writeLoop ((List.range len.toNat).map string) info
              (⟨count, [], positions.map fun (pos : Nat) => ((pos : Int), 1)⟩,
                { f with flags := srd, canRead := true }, some info)

/-- The fields that `sys_pipe` sets in one of the two structures. The rest is as
    it was in the memory that `kmalloc` gave. -/
def pipeEnd (raw : File) (shBuff : Int → UInt8) : File :=
  { raw with
    object := .pipe
    used := true
    magic := 1234
    base := shBuff
    p := 0
    lbfsize := BUFSIZ
    fsize := 0
    cnt := BUFSIZ
    r := 0
    w := 0
    canRead := true
    canWrite := true }

/-- The `pipe_info` that `sys_pipe` links to both structures. -/
def newPipeInfo (shBuff : Nat → UInt8) : PipeInfo where
  base := shBuff
  bufferSize := BUFSIZ.toNat
  counter := 0
  readPos := 0
  writePos := 0

end Gramado.Fs
