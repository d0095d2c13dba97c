/-
The two ends of a pipe over whole runs: reads and writes through either end, by
the buffered functions or by the workers directly, in any order. What was read
and then what lies in the ring is what the writes reported as accepted.
-/
import Gramado.Fs.Stream
import Gramado.Lib.Machine
import Gramado.Lib.Ring

namespace Gramado.Fs.PipeFifo

open Gramado.Lib
open Gramado.Lib.Machine

/-- Both descriptors may read and write. -/
inductive End where
  | first
  | second
  deriving DecidableEq, Repr

inductive Request where
  | fileRead (fd : End) (buffer : Bool) (len : Int32)
  | fileWrite (fd : End) (string : Option (Nat → UInt8)) (len : Int32)
  | pipeRead (fd : End) (buffer : Bool) (len : Int32)
  | pipeWrite (fd : End) (string : Option (Nat → UInt8)) (len : Int32)

structure Pipe where
  first : File
  second : File
  info : Option PipeInfo

def Pipe.file (pipe : Pipe) : End → File
  | .first => pipe.first
  | .second => pipe.second

/-- The pipe after a call on one of its files. -/
def Pipe.update (pipe : Pipe) (fd : End) (f : File) (info : Option PipeInfo) : Pipe :=
  match fd with
  | .first => { pipe with first := f, info := info }
  | .second => { pipe with second := f, info := info }

/-- What `sys_pipe` creates, from memory that `kmalloc` gave. -/
def sysPipe (raw1 raw2 : File) (shBuff : Nat → UInt8) : Pipe where
  first := pipeEnd raw1 fun k => shBuff k.toNat
  second := pipeEnd raw2 fun k => shBuff k.toNat
  info := some (newPipeInfo shBuff)

def perform (pipe : Pipe) : Request → Reply × File × Option PipeInfo
  | .fileRead fd buffer len => fileReadBuffer (pipe.file fd) pipe.info buffer len
  | .fileWrite fd string len => fileWriteBuffer (pipe.file fd) pipe.info string len
  | .pipeRead fd buffer len => fileReadPipeBuffer (pipe.file fd) pipe.info buffer len.toInt
  | .pipeWrite fd string len => fileWritePipeBuffer (pipe.file fd) pipe.info string len.toInt

def Request.fd : Request → End
  | .fileRead fd _ _ => fd
  | .fileWrite fd _ _ => fd
  | .pipeRead fd _ _ => fd
  | .pipeWrite fd _ _ => fd

def serve (pipe : Pipe) (request : Request) : Except Empty (Reply × Pipe) :=
  let (reply, f, info) := perform pipe request
  .ok (reply, pipe.update request.fd f info)

/-- All bytes that writes reported as accepted, and all that reads delivered. -/
structure Traffic where
  accepted : List UInt8
  delivered : List UInt8

def Traffic.none : Traffic := ⟨[], []⟩

/-- The bytes of a write that the return value says were accepted. -/
def written (string : Nat → UInt8) (value : Int) : List UInt8 :=
  (List.range value.toNat).map string

def accepts (request : Request) (value : Int) : List UInt8 :=
  match request with
  | .fileWrite _ (some string) _ => written string value
  | .pipeWrite _ (some string) _ => written string value
  | _ => []

def note (traffic : Traffic) (_ : Pipe) (request : Request) (out : Reply × Pipe) : Traffic :=
  ⟨traffic.accepted ++ accepts request out.1.value, traffic.delivered ++ out.1.bytes⟩

/-- What is promised of the pipe after any call. -/
structure Fifo (traffic : Traffic) (info : PipeInfo) : Prop where
  in_order : traffic.delivered <+: traffic.accepted
  counted : info.counter + traffic.delivered.length = traffic.accepted.length
  counter_le : info.counter ≤ 1024
  read_pos : info.readPos ≤ 1024
  write_pos : info.writePos ≤ 1024

/-- The ring holds the queue from the read position on. -/
structure Holds (info : PipeInfo) (queue : List UInt8) : Prop where
  size : info.bufferSize = 1024
  counter : info.counter = queue.length
  read_pos : info.readPos ≤ 1024
  write_pos : info.writePos ≤ 1024
  lies : Ring.Lies 1024 (fun k byte => info.base k = byte)
    (wrapAround 1024 info.readPos) (wrapAround 1024 info.writePos) queue

section Loops

variable {info : PipeInfo} {queue : List UInt8}

theorem wrapAround_lt {size pos : Nat} (room : 0 < size) : wrapAround size pos < size := by
  unfold wrapAround
  split <;> omega

/-- Advancing and bringing back is taking the next place of the ring. -/
theorem wrapAround_succ {size pos : Nat} :
    wrapAround size (wrapAround size pos + 1) = Ring.next size (wrapAround size pos) := rfl

theorem readLoop_empty {len : Nat} (empty : info.counter = 0) :
    readLoop len info = ([], [], info) := by
  cases len with
  | zero => rfl
  | succ left => simp [readLoop, empty]

theorem readLoop_byte {left : Nat} (some_left : info.counter ≠ 0) :
    readLoop (left + 1) info =
      let pos := wrapAround info.bufferSize info.readPos
      let later := readLoop left { info with readPos := pos + 1, counter := info.counter - 1 }
      (info.base pos :: later.1, pos :: later.2.1, later.2.2) := by
  rw [readLoop, if_neg some_left]

theorem writeLoop_full {bytes : List UInt8} (full : info.counter ≥ info.bufferSize) :
    writeLoop bytes info = (0, [], info) := by
  cases bytes with
  | nil => rfl
  | cons byte rest => simp [writeLoop, full]

theorem writeLoop_byte {byte : UInt8} {rest : List UInt8}
    (room : ¬info.counter ≥ info.bufferSize) :
    writeLoop (byte :: rest) info =
      let pos := wrapAround info.bufferSize info.writePos
      let later := writeLoop rest
        { info with
          base := fun k => if k = pos then byte else info.base k
          writePos := pos + 1
          counter := info.counter + 1 }
      (later.1 + 1, pos :: later.2.1, later.2.2) := by
  rw [writeLoop, if_neg room]

/-- A read of `len` bytes takes as many from the front of the queue as there are. -/
theorem readLoop_holds (len : Nat) (holds : Holds info queue) :
    (readLoop len info).1 = queue.take len ∧
      (∀ pos ∈ (readLoop len info).2.1, pos < 1024) ∧
      Holds (readLoop len info).2.2 (queue.drop len) := by
  induction len generalizing info queue with
  | zero => exact ⟨rfl, (fun _ member => nomatch member), holds⟩
  | succ left ih =>
      cases queue with
      | nil =>
          rw [readLoop_empty holds.counter]
          exact ⟨rfl, (fun _ member => nomatch member), holds⟩
      | cons byte rest =>
          have some_left : info.counter ≠ 0 := by
            rw [holds.counter]
            exact Nat.succ_ne_zero _
          have below : wrapAround 1024 info.readPos < 1024 := wrapAround_lt (by decide)
          have here := holds.lies.cells 0 byte rfl
          rw [Ring.place_zero below] at here
          have pos_eq : wrapAround info.bufferSize info.readPos =
              wrapAround 1024 info.readPos := by rw [holds.size]
          have next : Holds { info with
              readPos := wrapAround info.bufferSize info.readPos + 1
              counter := info.counter - 1 } rest := by
            rw [pos_eq]
            refine ⟨holds.size, ?_, below, holds.write_pos, ?_⟩
            · rw [holds.counter]
              rfl
            · rw [wrapAround_succ]
              exact holds.lies.pop fun _ _ _ stored => stored
          rcases ih next with ⟨bytes, inside, after⟩
          rw [readLoop_byte some_left]
          refine ⟨?_, ?_, after⟩
          · change info.base (wrapAround info.bufferSize info.readPos) :: _ = _
            rw [bytes, pos_eq, here]
            rfl
          · intro pos member
            rcases List.mem_cons.mp member with rfl | member
            · rw [pos_eq]
              exact below
            · exact inside pos member

/-- A write puts as many bytes at the end of the queue as there is room for. -/
theorem writeLoop_holds (bytes : List UInt8) (holds : Holds info queue) :
    (writeLoop bytes info).1 ≤ bytes.length ∧
      (∀ pos ∈ (writeLoop bytes info).2.1, pos < 1024) ∧
      Holds (writeLoop bytes info).2.2 (queue ++ bytes.take (writeLoop bytes info).1) := by
  induction bytes generalizing info queue with
  | nil =>
      refine ⟨Nat.le_refl 0, (fun _ member => nomatch member), ?_⟩
      simpa [writeLoop] using holds
  | cons byte rest ih =>
      by_cases full : info.counter ≥ info.bufferSize
      · rw [writeLoop_full full]
        refine ⟨Nat.zero_le _, ?_, by simpa using holds⟩
        intro pos member
        cases member
      · have room : queue.length < 1024 := by
          rw [holds.counter, holds.size] at full
          omega
        have below : wrapAround 1024 info.writePos < 1024 := wrapAround_lt (by decide)
        have pos_eq : wrapAround info.bufferSize info.writePos =
            wrapAround 1024 info.writePos := by rw [holds.size]
        -- One byte behind those that wait, at the wrapped position.
        have next : Holds { info with
            base := fun k =>
              if k = wrapAround info.bufferSize info.writePos then byte else info.base k
            writePos := wrapAround info.bufferSize info.writePos + 1
            counter := info.counter + 1 } (queue ++ [byte]) := by
          rw [pos_eq]
          refine ⟨holds.size, ?_, holds.read_pos, below, ?_⟩
          · rw [holds.counter, List.length_append]
            rfl
          · rw [wrapAround_succ]
            apply holds.lies.push room
            · exact if_pos rfl
            · intro k other elsewhere stored
              exact (if_neg elsewhere).trans stored
        rcases ih next with ⟨count, inside, after⟩
        rw [writeLoop_byte full]
        refine ⟨Nat.succ_le_succ count, ?_, ?_⟩
        · intro pos member
          rcases List.mem_cons.mp member with rfl | member
          · rw [pos_eq]
            exact below
          · exact inside pos member
        · rw [List.append_assoc] at after
          exact after

end Loops

section Calls

/-- An end of a pipe as it was made and not closed. -/
structure EndOpen (f : File) : Prop where
  object : f.object = .pipe
  used : f.used = true
  magic : f.magic = 1234
  size : f.lbfsize = BUFSIZ

/-- What a call makes of the queue: it adds what is accepted at the end and
    takes what is delivered from the front, with every access inside the ring. -/
def Moves (queue accepted : List UInt8) (out : Reply × File × Option PipeInfo) : Prop :=
  ∃ rest info, queue ++ accepted = out.1.bytes ++ rest ∧ out.2.2 = some info ∧
    Holds info rest ∧ EndOpen out.2.1 ∧
    ∀ range ∈ out.1.copies, 0 ≤ range.1 ∧ range.1 + range.2 ≤ 1024

variable {f : File} {info : PipeInfo} {queue : List UInt8}

theorem moves_refused (value : Int) (opened : EndOpen f) (holds : Holds info queue) :
    Moves queue [] (.only value, f, some info) := by
  refine ⟨queue, info, by simp [Reply.only], rfl, holds, opened, ?_⟩
  intro range member
  cases member

theorem positions_inside {positions : List Nat} (inside : ∀ pos ∈ positions, pos < 1024) :
    ∀ range ∈ positions.map fun (pos : Nat) => ((pos : Int), (1 : Nat)),
      0 ≤ range.1 ∧ range.1 + range.2 ≤ 1024 := by
  intro range member
  rcases List.mem_map.mp member with ⟨pos, was, rfl⟩
  have bound := inside pos was
  simp only
  omega

theorem pipeRead_moves (opened : EndOpen f) (holds : Holds info queue) (buffer : Bool)
    (len : Int) : Moves queue [] (fileReadPipeBuffer f (some info) buffer len) := by
  unfold fileReadPipeBuffer
  rw [if_neg (by simp [opened.object]), if_neg (by simp [opened.used, opened.magic])]
  split
  · exact moves_refused _ opened holds
  · rcases readLoop_holds len.toNat holds with ⟨bytes, inside, after⟩
    refine ⟨queue.drop len.toNat, _, ?_, rfl, after,
      ⟨opened.object, opened.used, opened.magic, opened.size⟩, positions_inside inside⟩
    change queue ++ [] = (readLoop len.toNat info).1 ++ _
    rw [bytes, List.append_nil, List.take_append_drop]

theorem pipeWrite_moves (opened : EndOpen f) (holds : Holds info queue)
    (string : Nat → UInt8) (len : Int) :
    Moves queue (written string (fileWritePipeBuffer f (some info) (some string) len).1.value)
      (fileWritePipeBuffer f (some info) (some string) len) := by
  unfold fileWritePipeBuffer
  rw [if_neg (by simp [opened.object]), if_neg (by simp [opened.used, opened.magic])]
  dsimp only
  split
  · exact moves_refused _ opened holds
  · rcases writeLoop_holds ((List.range len.toNat).map string) holds with
      ⟨count, inside, after⟩
    refine ⟨_, _, ?_, rfl, after,
      ⟨opened.object, opened.used, opened.magic, opened.size⟩, positions_inside inside⟩
    rw [List.length_map, List.length_range] at count
    simp only [written, Int.toNat_natCast, List.nil_append, ← List.map_take, List.take_range,
      Nat.min_eq_left count]

theorem fileRead_moves (opened : EndOpen f) (holds : Holds info queue) (buffer : Bool)
    (len : Int32) : Moves queue [] (fileReadBuffer f (some info) buffer len) := by
  unfold fileReadBuffer
  dsimp only
  split
  · exact moves_refused _ opened holds
  · split
    · exact moves_refused _ opened holds
    · split
      · exact moves_refused _ opened holds
      · rw [if_neg (by simp [opened.object]), if_pos opened.object]
        exact pipeRead_moves opened holds buffer _

theorem fileWrite_moves (opened : EndOpen f) (holds : Holds info queue)
    (string : Nat → UInt8) (len : Int32) :
    Moves queue (written string (fileWriteBuffer f (some info) (some string) len).1.value)
      (fileWriteBuffer f (some info) (some string) len) := by
  unfold fileWriteBuffer
  dsimp only
  split
  · exact moves_refused _ opened holds
  · rw [if_neg (by simp [opened.object]), if_pos opened.object]
    exact pipeWrite_moves opened holds string len.toInt

end Calls

section Runs

/-- Both ends are open, and what was accepted is what was delivered and then
    what the ring holds. -/
structure Carries (traffic : Traffic) (pipe : Pipe) : Prop where
  first : EndOpen pipe.first
  second : EndOpen pipe.second
  conserved : ∃ info queue, pipe.info = some info ∧ Holds info queue ∧
    traffic.accepted = traffic.delivered ++ queue

/-- What is promised of the pipe after a call, and of the call. -/
def Promised (traffic : Traffic) (out : Reply × Pipe) : Prop :=
  (∃ info, out.2.info = some info ∧ Fifo traffic info) ∧
    ∀ range ∈ out.1.copies, 0 ≤ range.1 ∧ range.1 + range.2 ≤ 1024

variable {traffic : Traffic} {pipe : Pipe} {request : Request} {out : Reply × Pipe}

theorem pipeEnd_open (raw : File) (shBuff : Int → UInt8) : EndOpen (pipeEnd raw shBuff) :=
  ⟨rfl, rfl, rfl, rfl⟩

theorem newPipeInfo_holds (shBuff : Nat → UInt8) : Holds (newPipeInfo shBuff) [] where
  size := rfl
  counter := rfl
  read_pos := Nat.zero_le _
  write_pos := Nat.zero_le _
  lies := Ring.Lies.empty (wrapAround_lt (by decide))

theorem sysPipe_carries (raw1 raw2 : File) (shBuff : Nat → UInt8) :
    Carries Traffic.none (sysPipe raw1 raw2 shBuff) where
  first := pipeEnd_open _ _
  second := pipeEnd_open _ _
  conserved := ⟨_, [], rfl, newPipeInfo_holds shBuff, rfl⟩

theorem Carries.fifo (carries : Carries traffic pipe) :
    ∃ info, pipe.info = some info ∧ Fifo traffic info := by
  rcases carries.conserved with ⟨info, queue, same, holds, account⟩
  have fits := holds.lies.fits
  refine ⟨info, same, ⟨queue, account.symm⟩, ?_, ?_, holds.read_pos, holds.write_pos⟩
  · rw [account, List.length_append, holds.counter, Nat.add_comm]
  · rw [holds.counter]
    exact fits

theorem Carries.file (carries : Carries traffic pipe) (fd : End) : EndOpen (pipe.file fd) := by
  cases fd with
  | first => exact carries.first
  | second => exact carries.second

theorem perform_moves {info : PipeInfo} {queue : List UInt8} (carries : Carries traffic pipe)
    (same : pipe.info = some info) (holds : Holds info queue) (request : Request) :
    Moves queue (accepts request (perform pipe request).1.value) (perform pipe request) := by
  cases request with
  | fileRead fd buffer len =>
      simp only [perform, same, accepts]
      exact fileRead_moves (carries.file fd) holds buffer len
  | fileWrite fd string len =>
      simp only [perform, same]
      cases string with
      | none => exact moves_refused _ (carries.file fd) holds
      | some string => exact fileWrite_moves (carries.file fd) holds string len
  | pipeRead fd buffer len =>
      simp only [perform, same, accepts]
      exact pipeRead_moves (carries.file fd) holds buffer len.toInt
  | pipeWrite fd string len =>
      simp only [perform, same]
      cases string with
      | some string => exact pipeWrite_moves (carries.file fd) holds string len.toInt
      | none =>
          have opened := carries.file fd
          simp only [fileWritePipeBuffer, if_neg (show ¬(pipe.file fd).object ≠ .pipe by
            simp [opened.object]), if_neg (show ¬((pipe.file fd).used ≠ true ∨
            (pipe.file fd).magic ≠ 1234) by simp [opened.used, opened.magic])]
          exact moves_refused _ opened holds

theorem update_open {f : File} (carries : Carries traffic pipe) (fd : End) (opened : EndOpen f)
    (info : Option PipeInfo) :
    EndOpen (pipe.update fd f info).first ∧ EndOpen (pipe.update fd f info).second := by
  cases fd with
  | first => exact ⟨opened, carries.second⟩
  | second => exact ⟨carries.first, opened⟩

theorem update_info (fd : End) (f : File) (info : Option PipeInfo) :
    (pipe.update fd f info).info = info := by
  cases fd <;> rfl

theorem call_carries (carries : Carries traffic pipe) (served : serve pipe request = .ok out) :
    Promised (note traffic pipe request out) out ∧
      Carries (note traffic pipe request out) out.2 := by
  rcases carries.conserved with ⟨info, queue, same, holds, account⟩
  rcases perform_moves carries same holds request with
    ⟨rest, after, moved, linked, holds', opened, inside⟩
  cases served
  rcases update_open carries request.fd opened (perform pipe request).2.2 with ⟨first, second⟩
  have kept : Carries (note traffic pipe request
      ((perform pipe request).1, pipe.update request.fd (perform pipe request).2.1
        (perform pipe request).2.2))
      (pipe.update request.fd (perform pipe request).2.1 (perform pipe request).2.2) := by
    refine ⟨first, second, after, rest, (update_info _ _ _).trans linked, holds', ?_⟩
    change traffic.accepted ++ _ = traffic.delivered ++ _ ++ rest
    rw [account, List.append_assoc, moved, List.append_assoc]
  exact ⟨⟨kept.fifo, inside⟩, kept⟩

end Runs

/-- In every run of reads and writes through either end of a pipe, of any
    lengths, what was read is a prefix of what was accepted, the counter is the
    difference and at most BUFSIZ, every byte is stored and read inside the
    ring, and no position is more than just behind it. -/
theorem pipe_fifo (raw1 raw2 : File) (shBuff : Nat → UInt8) (requests : List Request) :
    (∃ info, (sysPipe raw1 raw2 shBuff).info = some info ∧ Fifo Traffic.none info) ∧
      Along (observe note serve) (fun _ _ out => Promised out.2.1 (out.1, out.2.2))
        (Traffic.none, sysPipe raw1 raw2 shBuff) requests := by
  have start := sysPipe_carries raw1 raw2 shBuff
  refine ⟨start.fifo, ?_⟩
  have step : ∀ (seen : Traffic × Pipe) request out, Carries seen.1 seen.2 →
      observe note serve seen request = .ok out →
      Promised out.2.1 (out.1, out.2.2) ∧ Carries out.2.1 out.2.2 := by
    intro seen request out carries served
    rcases observe_ok served with ⟨call, noted⟩
    rw [noted]
    exact call_carries carries call
  exact along_of_kept step requests start

/-- A file structure of zero bytes. -/
def blank : File := ⟨.other 0, false, 0, fun _ => 0, 0, 0, 0, 0, 0, 0, 0, false, false⟩

set_option maxRecDepth 20000 in
/-- A ring filled up leaves its write position just behind itself. -/
theorem full_ring_position :
    ∃ replies pipe, run serve (sysPipe blank blank fun _ => 0)
        [.fileWrite .second (some fun _ => 97) 1023,
          .fileWrite .second (some fun _ => 97) 1] = .ok (replies, pipe) ∧
      ¬∀ info, pipe.info = some info → info.writePos < 1024 := by
  refine ⟨_, _, rfl, ?_⟩
  intro inside
  exact absurd (inside _ rfl) (by decide)

end Gramado.Fs.PipeFifo
