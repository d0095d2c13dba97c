/-
The terminals of tty.c: three queues of bytes in circular buffers, the input
queues for raw and canonical mode and the output queue, with the calls that
write, read and flush them. A pointer to a terminal is a number, and NULL is
one without a structure behind it.
-/
import Mathlib.Algebra.GroupWithZero.Nat
import Mathlib.Algebra.Ring.Int.Defs
import Mathlib.Tactic.Common

namespace Gramado.Chardev

def TTY_MAGIC : Int32 := 1234
def TTY_BUF_SIZE : Nat := 1024
def TTY_SESSION_TYPE_CONSOLE : Int32 := 1000
def TTY_OUTPUT_WORKER_FGCONSOLE : Int32 := 0
def TTY_OUTPUT_WORKER_STDIN : Int32 := 1
def TTY_OUTPUT_WORKER_SERIALPORT : Int32 := 2
def TTY_OUTPUT_WORKER_PTYSLAVE : Int32 := 3
def COM1_PORT : Int32 := 0x3F8
def COM2_PORT : Int32 := 0x2F8
def COM3_PORT : Int32 := 0x3E8
def COM4_PORT : Int32 := 0x2E8
def ICANON : UInt16 := 0x10
def CERASE : UInt8 := 0x7F
def TCSANOW : Int32 := 1
def newline : UInt8 := 10

/-- `struct tty_queue`: bytes come in at the head and go out at the tail. -/
structure TtyQueue where
  buf : Nat → UInt8
  bufferSize : Nat
  cnt : Int
  head : Nat
  tail : Nat

/-- What the functions here read of `struct termios_d`. -/
structure Termios where
  lflag : UInt16
  verase : UInt8

/-- What the functions here use of `struct tty_d`. -/
structure Tty where
  magic : Int32
  link : Option Nat
  rawQueue : TtyQueue
  canonicalQueue : TtyQueue
  outputQueue : TtyQueue
  outputWorkerNumber : Int32
  termios : Termios

def Termios.canonical (termios : Termios) : Bool :=
  termios.lflag &&& ICANON ≠ 0

/-- `c == c_cc[VERASE]`, where `c` is a signed char and `c_cc` is unsigned. -/
def Termios.erases (termios : Termios) (c : UInt8) : Bool :=
  c < 0x80 && c = termios.verase

abbrev Ttys := Nat → Option Tty

def Ttys.set (ttys : Ttys) (u : Nat) (tty : Tty) : Ttys :=
  fun v => if v = u then some tty else ttys v

/-- The structure behind a pointer that passes `!tty || tty->magic != TTY_MAGIC`. -/
def Ttys.valid (ttys : Ttys) (u : Nat) : Option Tty :=
  (ttys u).filter fun tty => tty.magic = TTY_MAGIC

/-- A loop that is still going on after as many passes as the buffer has bytes. -/
inductive Stop where
  | endless (function : String)
  deriving DecidableEq, Repr

/-- Where the bytes of a flush are sent. The serial port is always the first. -/
inductive Sink where
  | console (number : Int32)
  | stdin
  | serial
  deriving DecidableEq, Repr

structure Delivery where
  sink : Sink
  bytes : List UInt8

/-- What the calls find out about the virtual consoles: `fg_console`, and the
    result of `console_get_session_type`. -/
structure Consoles where
  fgConsole : Int32
  sessionType : Int32 → Int32

/-- The byte, or none for -1. -/
def ttyQueueGetchar (q : TtyQueue) : Option UInt8 × TtyQueue :=
  if q.head = q.tail then
    (none, q)
  else
    (some (q.buf q.tail), { q with tail := (q.tail + 1) % q.bufferSize, cnt := q.cnt - 1 })

/-- True stands for 0, false for -1. -/
def ttyQueuePutchar (q : TtyQueue) (c : UInt8) : Bool × TtyQueue :=
  let nextHead := (q.head + 1) % q.bufferSize
  if nextHead = q.tail then
    (false, q)
  else
    (true,
      { q with
        buf := fun k => if k = q.head then c else q.buf k
        head := nextHead
        cnt := q.cnt + 1 })

/-- The branch of `__tty_write3` for the erase character. `head - 1` is an
    unsigned long, and the addition wraps back. -/
def eraseLast (q : TtyQueue) : TtyQueue :=
  if q.cnt > 0 then
    { q with
      head := (q.head + (2 ^ 64 - 1) + q.bufferSize) % 2 ^ 64 % q.bufferSize
      cnt := q.cnt - 1 }
  else
    q

/-- The loop that all flush routines have. -/
def flushLoop (function : String) : Nat → TtyQueue → Except Stop (List UInt8 × TtyQueue)
  | 0, _ => .error (.endless function)
  | passes + 1, q =>
      if q.tail ≠ q.head then
        let flushed :=
          { q with
            tail := (q.tail + 1) % q.bufferSize
            cnt := if q.cnt > 0 then q.cnt - 1 else q.cnt }
        (flushLoop function passes flushed).map fun out => (q.buf q.tail :: out.1, out.2)
      else
        .ok ([], q)

def ttyFlushRawQueue (ttys : Ttys) (u : Nat) (consoleNumber : Int32) :
    Except Stop (List Delivery × Ttys) :=
  match ttys.valid u with
  | none => .ok ([], ttys)
  | some tty =>
      (flushLoop "tty_flush_raw_queue" TTY_BUF_SIZE tty.rawQueue).map fun out =>
        ([⟨.console consoleNumber, out.1⟩], ttys.set u { tty with rawQueue := out.2 })

def ttyFlushCanonicalQueue (ttys : Ttys) (u : Nat) (consoleNumber : Int32) :
    Except Stop (List Delivery × Ttys) :=
  match ttys.valid u with
  | none => .ok ([], ttys)
  | some tty =>
      (flushLoop "tty_flush_canonical_queue" TTY_BUF_SIZE tty.canonicalQueue).map fun out =>
        ([⟨.console consoleNumber, out.1⟩], ttys.set u { tty with canonicalQueue := out.2 })

/-- The part that the flush routines of the output queue share. -/
def flushOutput (function : String) (ttys : Ttys) (u : Nat) (tty : Tty) (sink : Sink) :
    Except Stop (List Delivery × Ttys) :=
  (flushLoop function TTY_BUF_SIZE tty.outputQueue).map fun out =>
    ([⟨sink, out.1⟩], ttys.set u { tty with outputQueue := out.2 })

/-- The console does not own the display unless it has a console session. -/
def ttyFlushOutputQueue (ttys : Ttys) (u : Nat) (consoles : Consoles) (consoleNumber : Int32) :
    Except Stop (List Delivery × Ttys) :=
  match ttys.valid u with
  | none => .ok ([], ttys)
  | some tty =>
      if consoles.sessionType consoleNumber ≠ TTY_SESSION_TYPE_CONSOLE then
        .ok ([], ttys)
      else
        flushOutput "tty_flush_output_queue" ttys u tty (.console consoleNumber)

def ttyFlushOutputQueueToSerial (ttys : Ttys) (u : Nat) (portNumber : Int32) :
    Except Stop (List Delivery × Ttys) :=
  match ttys.valid u with
  | none => .ok ([], ttys)
  | some tty =>
      if portNumber ≠ COM1_PORT ∧ portNumber ≠ COM2_PORT ∧ portNumber ≠ COM3_PORT ∧
          portNumber ≠ COM4_PORT then
        .ok ([], ttys)
      else
        flushOutput "tty_flush_output_queue_to_serial" ttys u tty .serial

def ttyFlushOutputQueueToStdin (ttys : Ttys) (u : Nat) : Except Stop (List Delivery × Ttys) :=
  match ttys.valid u with
  | none => .ok ([], ttys)
  | some tty => flushOutput "tty_flush_output_queue_to_stdin" ttys u tty .stdin

/-- All bytes of the buffer are copied, and neither offset of the other queue moves. -/
def copyBuffer (queueTo queueFrom : TtyQueue) : TtyQueue :=
  { queueTo with
    buf := fun k => if k < TTY_BUF_SIZE then queueFrom.buf k else queueTo.buf k }

def ttyCopyOutputBuffer (ttys : Ttys) (ttyTo ttyFrom : Nat) : Ttys :=
  match ttys.valid ttyTo, ttys.valid ttyFrom with
  | some target, some source =>
      ttys.set ttyTo
        { target with outputQueue := copyBuffer target.outputQueue source.outputQueue }
  | _, _ => ttys

def ttyFlushOutputQueueEx (ttys : Ttys) (u : Nat) (consoles : Consoles) :
    Except Stop (List Delivery × Ttys) :=
  match ttys.valid u with
  | none => .ok ([], ttys)
  | some tty =>
      if tty.outputWorkerNumber = TTY_OUTPUT_WORKER_FGCONSOLE then
        ttyFlushOutputQueue ttys u consoles consoles.fgConsole
      else if tty.outputWorkerNumber = TTY_OUTPUT_WORKER_STDIN then
        ttyFlushOutputQueueToStdin ttys u
      else if tty.outputWorkerNumber = TTY_OUTPUT_WORKER_SERIALPORT then
        ttyFlushOutputQueueToSerial ttys u COM1_PORT
      else if tty.outputWorkerNumber = TTY_OUTPUT_WORKER_PTYSLAVE then
        match tty.link with
        | none => .ok ([], ttys)
        | some link => .ok ([], ttyCopyOutputBuffer ttys link u)
      else
        .ok ([], ttys)

/-- At most `left` bytes from the front of the queue. -/
def readQueue : Nat → TtyQueue → List UInt8 × TtyQueue
  | 0, q => ([], q)
  | left + 1, q =>
      match ttyQueueGetchar q with
      | (none, q) => ([], q)
      | (some c, q) =>
          let later := readQueue left q
          (c :: later.1, later.2)

/-- The same, up to the end of a line. -/
def readLine : Nat → TtyQueue → List UInt8 × TtyQueue
  | 0, q => ([], q)
  | left + 1, q =>
      match ttyQueueGetchar q with
      | (none, q) => ([], q)
      | (some c, q) =>
          if c = newline then
            ([c], q)
          else
            let later := readLine left q
            (c :: later.1, later.2)

/-- How many of the bytes find room, from the first on. -/
def writeQueue : List UInt8 → TtyQueue → Nat × TtyQueue
  | [], q => (0, q)
  | c :: rest, q =>
      match ttyQueuePutchar q c with
      | (false, q) => (0, q)
      | (true, q) =>
          let later := writeQueue rest q
          (later.1 + 1, later.2)

/-- `buffer` says whether the pointer is not NULL. -/
def ttyRead2 (ttys : Ttys) (u : Nat) (buffer : Bool) (nr : Int32) :
    Int × List UInt8 × Ttys :=
  match ttys.valid u with
  | none => (-1, [], ttys)
  | some tty =>
      if buffer = false ∨ nr ≤ 0 then
        (-1, [], ttys)
      else
        let (bytes, outputQueue) := readQueue nr.toNatClampNeg tty.outputQueue
        (bytes.length, bytes, ttys.set u { tty with outputQueue := outputQueue })

def ttyRead3 (ttys : Ttys) (u : Nat) (buffer : Bool) (nr : Int32) :
    Int × List UInt8 × Ttys :=
  match ttys.valid u with
  | none => (-1, [], ttys)
  | some tty =>
      if buffer = false ∨ nr ≤ 0 then
        (-1, [], ttys)
      else if tty.termios.canonical then
        let (bytes, canonicalQueue) := readLine nr.toNatClampNeg tty.canonicalQueue
        (bytes.length, bytes, ttys.set u { tty with canonicalQueue := canonicalQueue })
      else
        let (bytes, rawQueue) := readQueue nr.toNatClampNeg tty.rawQueue
        (bytes.length, bytes, ttys.set u { tty with rawQueue := rawQueue })

/-- `buffer` is the memory from the pointer on, or none for NULL. -/
def bytesOf (buffer : Nat → UInt8) (nr : Int32) : List UInt8 :=
  (List.range nr.toNatClampNeg).map buffer

def ttyWrite2 (ttys : Ttys) (u : Nat) (buffer : Option (Nat → UInt8)) (nr : Int32) :
    Int × Ttys :=
  match ttys.valid u, buffer with
  | some tty, some buffer =>
      if nr ≤ 0 then
        (-1, ttys)
      else
        let (written, outputQueue) := writeQueue (bytesOf buffer nr) tty.outputQueue
        (written, ttys.set u { tty with outputQueue := outputQueue })
  | _, _ => (-1, ttys)

/-- What the loop of `__tty_write3` does to the input queues for one byte. The
    result of `tty_queue_putchar` is not looked at. -/
def inputByte (tty : Tty) (c : UInt8) : Tty :=
  if tty.termios.canonical then
    if c = newline then
      { tty with canonicalQueue := (ttyQueuePutchar tty.canonicalQueue c).2 }
    else if tty.termios.erases c then
      { tty with canonicalQueue := eraseLast tty.canonicalQueue }
    else
      { tty with canonicalQueue := (ttyQueuePutchar tty.canonicalQueue c).2 }
  else
    { tty with rawQueue := (ttyQueuePutchar tty.rawQueue c).2 }

/-- One pass of the loop of `__tty_write3`. The end of a line flushes the output queue. -/
def write3Byte (u : Nat) (consoles : Consoles) (ttys : Ttys) (tty : Tty) (c : UInt8) :
    Except Stop (List Delivery × Ttys) :=
  let stored := ttys.set u (inputByte tty c)
  if tty.termios.canonical ∧ c = newline then
    ttyFlushOutputQueueEx stored u consoles
  else
    .ok ([], stored)

def write3Loop (u : Nat) (consoles : Consoles) :
    List UInt8 → Ttys → Except Stop (List Delivery × Ttys)
  | [], ttys => .ok ([], ttys)
  | c :: rest, ttys =>
      match ttys u with
      | none => .ok ([], ttys)
      | some tty => do
          let (first, ttys) ← write3Byte u consoles ttys tty c
          let (later, ttys) ← write3Loop u consoles rest ttys
          pure (first ++ later, ttys)

def ttyWrite3 (ttys : Ttys) (u : Nat) (consoles : Consoles) (buffer : Option (Nat → UInt8))
    (nr : Int32) : Except Stop (Int × List Delivery × Ttys) :=
  match ttys.valid u, buffer with
  | some _, some buffer =>
      if nr ≤ 0 then
        .ok (-1, [], ttys)
      else
        (write3Loop u consoles (bytesOf buffer nr) ttys).map fun out => (nr.toInt, out.1, out.2)
  | _, _ => .ok (-1, [], ttys)

def ttySetOutputWorker (ttys : Ttys) (u : Nat) (workerNumber : Int32) : Int × Ttys :=
  match ttys.valid u with
  | none => (-1, ttys)
  | some tty =>
      if workerNumber = TTY_OUTPUT_WORKER_FGCONSOLE ∨ workerNumber = TTY_OUTPUT_WORKER_STDIN ∨
          workerNumber = TTY_OUTPUT_WORKER_SERIALPORT ∨
          workerNumber = TTY_OUTPUT_WORKER_PTYSLAVE then
        (0, ttys.set u { tty with outputWorkerNumber := workerNumber })
      else
        (-1, ttys)

def ttySets (ttys : Ttys) (u : Nat) (options : Int32) (termios : Option Termios) : Int × Ttys :=
  match ttys.valid u, termios with
  | some tty, some termios =>
      if options = TCSANOW then
        (0, ttys.set u { tty with termios := termios })
      else
        (-1, ttys)
  | _, _ => (-1, ttys)

/-- A queue as `tty_create` sets it up. -/
def newQueue : TtyQueue where
  buf := fun _ => 0
  bufferSize := TTY_BUF_SIZE
  cnt := 0
  head := 0
  tail := 0

/-- What `tty_create` makes, with the other terminal that it is linked to later:
    echo, canonical mode and signals, and the delete character for erasing. -/
def ttyCreate (link : Option Nat) : Tty where
  magic := TTY_MAGIC
  link := link
  rawQueue := newQueue
  canonicalQueue := newQueue
  outputQueue := newQueue
  outputWorkerNumber := TTY_OUTPUT_WORKER_FGCONSOLE
  termios := ⟨0x1 ||| 0x2 ||| 0x4 ||| ICANON ||| 0x40, CERASE⟩

end Gramado.Chardev
