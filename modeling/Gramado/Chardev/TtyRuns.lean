/-
Any calls on any terminals, in any order, and what one terminal hands out on
the way. The only call that reaches another terminal is a flush whose output
worker is the slave's: it copies the whole buffer over that of the link, where
bytes may be waiting.
-/
import Gramado.Chardev.TtyQueues

namespace Gramado.Chardev.TtyRuns

open Gramado.Chardev.TtyQueues
open Gramado.Lib
open Gramado.Lib.Machine

inductive Request where
  | read2 (u : Nat) (buffer : Bool) (nr : Int32)
  | read3 (u : Nat) (buffer : Bool) (nr : Int32)
  | write2 (u : Nat) (buffer : Option (Nat → UInt8)) (nr : Int32)
  | write3 (u : Nat) (consoles : Consoles) (buffer : Option (Nat → UInt8)) (nr : Int32)
  | flushRaw (u : Nat) (consoleNumber : Int32)
  | flushCanonical (u : Nat) (consoleNumber : Int32)
  | flushOutput (u : Nat) (consoles : Consoles) (consoleNumber : Int32)
  | flushToSerial (u : Nat) (portNumber : Int32)
  | flushToStdin (u : Nat)
  | flushEx (u : Nat) (consoles : Consoles)
  | setOutputWorker (u : Nat) (workerNumber : Int32)
  | sets (u : Nat) (options : Int32) (termios : Option Termios)

def Request.tty : Request → Nat
  | .read2 u _ _ => u
  | .read3 u _ _ => u
  | .write2 u _ _ => u
  | .write3 u _ _ _ => u
  | .flushRaw u _ => u
  | .flushCanonical u _ => u
  | .flushOutput u _ _ => u
  | .flushToSerial u _ => u
  | .flushToStdin u => u
  | .flushEx u _ => u
  | .setOutputWorker u _ => u
  | .sets u _ _ => u

/-- A returned value, the bytes left in the caller's buffer, and those sent on. -/
structure Reply where
  value : Int
  bytes : List UInt8
  deliveries : List Delivery

def sent (out : List Delivery × Ttys) : Reply × Ttys :=
  (⟨0, [], out.1⟩, out.2)

def serve (ttys : Ttys) : Request → Except Stop (Reply × Ttys)
  | .read2 u buffer nr =>
      let (value, bytes, ttys) := ttyRead2 ttys u buffer nr
      .ok (⟨value, bytes, []⟩, ttys)
  | .read3 u buffer nr =>
      let (value, bytes, ttys) := ttyRead3 ttys u buffer nr
      .ok (⟨value, bytes, []⟩, ttys)
  | .write2 u buffer nr =>
      let (value, ttys) := ttyWrite2 ttys u buffer nr
      .ok (⟨value, [], []⟩, ttys)
  | .write3 u consoles buffer nr =>
      (ttyWrite3 ttys u consoles buffer nr).map fun out => (⟨out.1, [], out.2.1⟩, out.2.2)
  | .flushRaw u consoleNumber => (ttyFlushRawQueue ttys u consoleNumber).map sent
  | .flushCanonical u consoleNumber => (ttyFlushCanonicalQueue ttys u consoleNumber).map sent
  | .flushOutput u consoles consoleNumber =>
      (ttyFlushOutputQueue ttys u consoles consoleNumber).map sent
  | .flushToSerial u portNumber => (ttyFlushOutputQueueToSerial ttys u portNumber).map sent
  | .flushToStdin u => (ttyFlushOutputQueueToStdin ttys u).map sent
  | .flushEx u consoles => (ttyFlushOutputQueueEx ttys u consoles).map sent
  | .setOutputWorker u workerNumber =>
      let (value, ttys) := ttySetOutputWorker ttys u workerNumber
      .ok (⟨value, [], []⟩, ttys)
  | .sets u options termios =>
      let (value, ttys) := ttySets ttys u options termios
      .ok (⟨value, [], []⟩, ttys)

/-- The bytes of a write that the return value says were written. -/
def written (buffer : Option (Nat → UInt8)) (value : Int) : List UInt8 :=
  match buffer with
  | some buffer => (List.range value.toNat).map buffer
  | none => []

/-- The history of a terminal after a call on it, in the mode that the call found. -/
def Traffic.after (traffic : Traffic) (termios : Termios) (request : Request) (reply : Reply) :
    Traffic :=
  match request with
  | .read2 .. => { traffic with output := traffic.output.take reply.bytes }
  | .read3 .. =>
      { traffic with
        inputs :=
          if termios.canonical then
            { traffic.inputs with canonical := traffic.inputs.canonical.take reply.bytes }
          else
            { traffic.inputs with raw := traffic.inputs.raw.take reply.bytes } }
  | .write2 _ buffer _ =>
      { traffic with
        output :=
          { traffic.output with written := traffic.output.written ++ written buffer reply.value } }
  | .write3 _ _ buffer _ =>
      { inputs := (written buffer reply.value).foldl (Inputs.add termios) traffic.inputs
        output := traffic.output.take (bytesIn reply.deliveries) }
  | .flushRaw .. =>
      { traffic with
        inputs :=
          { traffic.inputs with
            raw := traffic.inputs.raw.take (bytesIn reply.deliveries) } }
  | .flushCanonical .. =>
      { traffic with
        inputs :=
          { traffic.inputs with
            canonical := traffic.inputs.canonical.flush (bytesIn reply.deliveries) } }
  | .flushOutput .. => { traffic with output := traffic.output.take (bytesIn reply.deliveries) }
  | .flushToSerial .. => { traffic with output := traffic.output.take (bytesIn reply.deliveries) }
  | .flushToStdin .. => { traffic with output := traffic.output.take (bytesIn reply.deliveries) }
  | .flushEx .. => { traffic with output := traffic.output.take (bytesIn reply.deliveries) }
  | .setOutputWorker .. => traffic
  | .sets .. => traffic

/-- The history of the terminal `t`. -/
def note (t : Nat) (traffic : Traffic) (ttys : Ttys) (request : Request) (out : Reply × Ttys) :
    Traffic :=
  match ttys t with
  | none => traffic
  | some tty =>
      if request.tty = t then Traffic.after traffic tty.termios request out.1 else traffic

/-- Where `u` forwards its output to `t`, the bytes that wait there are the same
    as those in the buffer that is copied over them. -/
def Spared (traffic : Traffic) (ttys : Ttys) (u t : Nat) : Prop :=
  ∀ source target, ttys u = some source → ttys t = some target →
    source.outputWorkerNumber = TTY_OUTPUT_WORKER_PTYSLAVE → source.link = some t →
      ∀ k, k < traffic.output.written.length - traffic.output.taken.length →
        source.outputQueue.buf (Ring.place 1024 target.outputQueue.tail k) =
          target.outputQueue.buf (Ring.place 1024 target.outputQueue.tail k)

/-- The calls that are in turn for the terminal `t`: a canonical read finds a
    finished line or nothing at all, the bytes of a write are in turn, and a flush
    of another terminal spares what waits in this one. -/
def InTurn (t : Nat) (traffic : Traffic) (ttys : Ttys) : Request → Prop
  | .read3 u buffer nr =>
      u = t → buffer = true → 0 < nr → ∀ tty, ttys t = some tty →
        tty.termios.canonical = true →
          traffic.inputs.canonical.taken.length < traffic.inputs.canonical.closed.length ∨
            traffic.inputs.canonical.line = []
  | .write3 u _ (some buffer) nr =>
      ∀ tty, ttys u = some tty →
        if u = t then
          BytesInTurn tty.termios traffic.inputs (bytesOf buffer nr)
        else
          tty.termios.canonical = true → newline ∈ bytesOf buffer nr → Spared traffic ttys u t
  | .flushEx u _ => u ≠ t → Spared traffic ttys u t
  | _ => True

/-- A write to the input of one byte at most. -/
def Bytewise : Request → Prop
  | .write3 _ _ _ nr => nr ≤ 1
  | _ => True

structure Sound (tty : Tty) : Prop where
  magic : tty.magic = TTY_MAGIC
  raw : ∃ waiting, Holds tty.rawQueue waiting
  canonical : ∃ waiting, Holds tty.canonicalQueue waiting
  output : ∃ waiting, Holds tty.outputQueue waiting

def AllSound (ttys : Ttys) : Prop :=
  ∀ u tty, ttys u = some tty → Sound tty

def OrderlyAt (t : Nat) (traffic : Traffic) (ttys : Ttys) : Prop :=
  ∀ tty, ttys t = some tty → Orderly traffic tty

section Terminals

variable {t u : Nat} {ttys ttys' : Ttys} {tty tty' source target : Tty} {traffic : Traffic}
  {stream : Stream} {lines : Lines} {inputs : Inputs} {c : UInt8} {q : TtyQueue}
  {waiting bytes : List UInt8} {consoles : Consoles} {request : Request} {reply : Reply}
  {deliveries : List Delivery} {function : String} {sink : Sink}

@[simp] theorem set_self : ttys.set u tty u = some tty := if_pos rfl

theorem set_other {v : Nat} (apart : v ≠ u) : ttys.set u tty v = ttys v := if_neg apart

theorem AllSound.valid (sound : AllSound ttys) (there : ttys u = some tty) :
    ttys.valid u = some tty := by
  rw [Ttys.valid, there]
  simp [Option.filter, (sound u tty there).magic]

theorem valid_none (absent : ttys u = none) : ttys.valid u = none := by
  rw [Ttys.valid, absent]
  rfl

theorem AllSound.set (sound : AllSound ttys) (own : Sound tty) : AllSound (ttys.set u tty) := by
  intro v other there
  by_cases here : v = u
  · subst here
    rw [set_self] at there
    cases there
    exact own
  · rw [set_other here] at there
    exact sound v other there

theorem OrderlyAt.set_self (order : Orderly traffic tty) :
    OrderlyAt t traffic (ttys.set t tty) := by
  intro other there
  rw [TtyRuns.set_self] at there
  cases there
  exact order

theorem orderlyAt_set_self : OrderlyAt t traffic (ttys.set t tty) ↔ Orderly traffic tty :=
  ⟨fun order => order tty TtyRuns.set_self, OrderlyAt.set_self⟩

theorem orderlyAt_set_other (apart : t ≠ u) :
    OrderlyAt t traffic (ttys.set u tty) ↔ OrderlyAt t traffic ttys := by
  simp only [OrderlyAt, set_other apart]

theorem Sound.putInput (sound : Sound tty) : Sound (inputByte tty c) := by
  have put : ∀ {q}, (∃ waiting, Holds q waiting) →
      ∃ waiting, Holds (ttyQueuePutchar q c).2 waiting := by
    rintro q ⟨waiting, holds⟩
    by_cases room : waiting.length < 1023
    · rcases putchar_room holds room c with ⟨q', stored, next⟩
      rw [stored]
      exact ⟨_, next⟩
    · rw [putchar_full holds room]
      exact ⟨_, holds⟩
  have erased : ∀ {q}, (∃ waiting, Holds q waiting) → ∃ waiting, Holds (eraseLast q) waiting := by
    rintro q ⟨waiting, holds⟩
    rcases List.eq_nil_or_concat' waiting with rfl | ⟨front, last, rfl⟩
    · rw [eraseLast_empty holds]
      exact ⟨_, holds⟩
    · exact ⟨_, eraseLast_byte holds⟩
  unfold inputByte
  split
  · split
    · exact ⟨sound.magic, sound.raw, put sound.canonical, sound.output⟩
    · split
      · exact ⟨sound.magic, sound.raw, erased sound.canonical, sound.output⟩
      · exact ⟨sound.magic, sound.raw, put sound.canonical, sound.output⟩
  · exact ⟨sound.magic, put sound.raw, sound.canonical, sound.output⟩

/-- A byte for the input moves neither the output queue nor what is set. -/
theorem inputByte_keeps (tty : Tty) (c : UInt8) :
    (inputByte tty c).outputQueue = tty.outputQueue ∧
      (inputByte tty c).termios = tty.termios ∧
    (inputByte tty c).outputWorkerNumber = tty.outputWorkerNumber ∧
    (inputByte tty c).link = tty.link := by
  unfold inputByte
  split
  · split
    · exact ⟨rfl, rfl, rfl, rfl⟩
    · split
      · exact ⟨rfl, rfl, rfl, rfl⟩
      · exact ⟨rfl, rfl, rfl, rfl⟩
  · exact ⟨rfl, rfl, rfl, rfl⟩

theorem copyBuffer_buf {k : Nat} (inside : k < 1024) {queueTo queueFrom : TtyQueue} :
    (copyBuffer queueTo queueFrom).buf k = queueFrom.buf k := by
  have size : k < TTY_BUF_SIZE := inside
  simp only [copyBuffer, if_pos size]

/-- After a copy as many bytes wait as before, but those of the other buffer. -/
theorem copyBuffer_holds (queueFrom : TtyQueue) (holds : Holds q waiting) :
    Holds (copyBuffer q queueFrom)
      ((List.range waiting.length).map fun k => queueFrom.buf (Ring.place 1024 q.tail k)) := by
  refine ⟨holds.size, ?_, ?_, holds.lies.head_lt, ?_, ?_, ?_⟩
  · simpa [copyBuffer] using holds.count
  · simpa using holds.short
  · simpa using holds.lies.fits
  · simpa [copyBuffer] using holds.lies.tail_at
  · intro k x found
    rw [List.getElem?_map, Option.map_eq_some_iff] at found
    rcases found with ⟨j, place, rfl⟩
    rcases List.getElem?_eq_some_iff.mp place with ⟨inside, rfl⟩
    rw [copyBuffer_buf (Ring.place_lt (by decide)), List.getElem_range]
    rfl

/-- What waits is the same after a copy if and only if the other buffer has each byte of it
    in its place. -/
theorem copyBuffer_holds_iff {queueFrom : TtyQueue} (holds : Holds q waiting) :
    Holds (copyBuffer q queueFrom) waiting ↔
      ∀ k c, waiting[k]? = some c → queueFrom.buf (Ring.place 1024 q.tail k) = c := by
  have kept := copyBuffer_holds queueFrom holds
  constructor
  · intro same k c found
    have new := same.lies.cells k c found
    rwa [copyBuffer_buf (Ring.place_lt (by decide))] at new
  · intro agrees
    have bytes : (List.range waiting.length).map
        (fun k => queueFrom.buf (Ring.place 1024 q.tail k)) = waiting := by
      apply List.ext_getElem
      · simp
      · intro k _ inside
        rw [List.getElem_map, List.getElem_range]
        exact agrees k _ (List.getElem?_eq_getElem inside)
    rwa [bytes] at kept

/-- A copy leaves a queue in order if and only if it writes what waits there. -/
theorem copyBuffer_inOrder {queueFrom : TtyQueue} (order : InOrder stream q) :
    InOrder stream (copyBuffer q queueFrom) ↔
      ∀ k, k < stream.written.length - stream.taken.length →
        queueFrom.buf (Ring.place 1024 q.tail k) = q.buf (Ring.place 1024 q.tail k) := by
  rcases order with ⟨waiting, conserved, holds⟩
  have left : stream.written.length - stream.taken.length = waiting.length := by
    rw [conserved, List.length_append, Nat.add_sub_cancel_left]
  rw [left]
  constructor
  · rintro ⟨other, account, kept⟩ k inside
    rw [conserved] at account
    have same := List.append_cancel_left account
    subst same
    have here := List.getElem?_eq_getElem inside
    rw [(copyBuffer_holds_iff holds).mp kept k _ here]
    exact (holds.lies.cells k _ here).symm
  · intro same
    refine ⟨waiting, conserved, (copyBuffer_holds_iff holds).mpr ?_⟩
    intro k c found
    obtain ⟨inside, -⟩ := List.getElem?_eq_some_iff.mp found
    rw [same k inside]
    exact holds.lies.cells k c found

theorem copy_other {link v : Nat} (apart : v ≠ link) :
    ttyCopyOutputBuffer ttys link u v = ttys v := by
  unfold ttyCopyOutputBuffer
  rcases ttys.valid link with _ | target
  · rfl
  · rcases ttys.valid u with _ | source
    · rfl
    · exact set_other apart

theorem copy_eq {link : Nat} (sound : AllSound ttys) (there : ttys u = some source)
    (linked : ttys link = some target) : ttyCopyOutputBuffer ttys link u =
      ttys.set link
        { target with outputQueue := copyBuffer target.outputQueue source.outputQueue } := by
  simp only [ttyCopyOutputBuffer, sound.valid there, sound.valid linked]

theorem copy_absent {link : Nat} (absent : ttys link = none) :
    ttyCopyOutputBuffer ttys link u = ttys := by
  simp only [ttyCopyOutputBuffer, valid_none absent]

theorem copy_self (sound : AllSound ttys) (there : ttys u = some tty) :
    ttyCopyOutputBuffer ttys u u u = some tty := by
  have same : copyBuffer tty.outputQueue tty.outputQueue = tty.outputQueue := by
    simp [copyBuffer]
  rw [copy_eq sound there there, set_self, same]

theorem AllSound.copy {link : Nat} (sound : AllSound ttys) (there : ttys u = some source) :
    AllSound (ttyCopyOutputBuffer ttys link u) := by
  cases linked : ttys link with
  | none => rwa [copy_absent linked]
  | some target =>
      rw [copy_eq sound there linked]
      rcases sound link target linked with ⟨magic, raw, canonical, waiting, holds⟩
      exact sound.set ⟨magic, raw, canonical, _, copyBuffer_holds _ holds⟩

/-- For the terminal that is copied to, the copy is in order where it spares
    what waits there. -/
theorem copy_orderlyAt (sound : AllSound ttys) (there : ttys u = some source)
    (worker : source.outputWorkerNumber = TTY_OUTPUT_WORKER_PTYSLAVE)
    (linked : source.link = some t) (order : OrderlyAt t traffic ttys) :
    OrderlyAt t traffic (ttyCopyOutputBuffer ttys t u) ↔ Spared traffic ttys u t := by
  cases here : ttys t with
  | none =>
      rw [copy_absent here]
      refine iff_of_true order ?_
      intro source' target _ there'
      rw [here] at there'
      cases there'
  | some target =>
      have before := order target here
      rw [copy_eq sound there here, orderlyAt_set_self]
      have only : Orderly traffic { target with
          outputQueue := copyBuffer target.outputQueue source.outputQueue } ↔
          InOrder traffic.output (copyBuffer target.outputQueue source.outputQueue) :=
        ⟨fun both => both.output, fun output => ⟨⟨before.inputs.raw, before.inputs.canonical⟩,
          output⟩⟩
      rw [only, copyBuffer_inOrder before.output]
      constructor
      · intro same source' target' there' here' _ _
        rw [there] at there'
        rw [here] at here'
        cases there'
        cases here'
        exact same
      · intro spared
        exact spared source target there here worker linked

/-- A flush of the terminal's own output, through one of the three devices, or none. -/
inductive Flushed (ttys : Ttys) (u : Nat) (tty : Tty) : List Delivery → Ttys → Prop where
  | nothing : Flushed ttys u tty [] ttys
  | drained {sink : Sink} {q : TtyQueue} {waiting : List UInt8}
      (held : Holds tty.outputQueue waiting) (empty : Holds q []) :
      Flushed ttys u tty [⟨sink, waiting⟩] (ttys.set u { tty with outputQueue := q })

theorem flushOutput_flushed (sound : Sound tty) :
    ∃ deliveries ttys', flushOutput function ttys u tty sink = .ok (deliveries, ttys') ∧
      Flushed ttys u tty deliveries ttys' := by
  rcases sound.output with ⟨waiting, holds⟩
  rcases flushLoop_all function holds.short holds with ⟨q, flushed, empty⟩
  refine ⟨[⟨sink, waiting⟩], _, ?_, .drained holds empty⟩
  rw [flushOutput, TTY_BUF_SIZE, flushed]
  rfl

theorem ttyFlushOutputQueue_flushed (consoles : Consoles) (sound : AllSound ttys)
    (there : ttys u = some tty) (consoleNumber : Int32) :
    ∃ deliveries ttys',
      ttyFlushOutputQueue ttys u consoles consoleNumber = .ok (deliveries, ttys') ∧
        Flushed ttys u tty deliveries ttys' := by
  simp only [ttyFlushOutputQueue, sound.valid there]
  split
  · exact ⟨_, _, rfl, .nothing⟩
  · exact flushOutput_flushed (sound u tty there)

theorem ttyFlushOutputQueueToSerial_flushed (sound : AllSound ttys) (there : ttys u = some tty)
    (portNumber : Int32) :
    ∃ deliveries ttys', ttyFlushOutputQueueToSerial ttys u portNumber = .ok (deliveries, ttys') ∧
      Flushed ttys u tty deliveries ttys' := by
  simp only [ttyFlushOutputQueueToSerial, sound.valid there]
  split
  · exact ⟨_, _, rfl, .nothing⟩
  · exact flushOutput_flushed (sound u tty there)

theorem ttyFlushOutputQueueToStdin_flushed (sound : AllSound ttys) (there : ttys u = some tty) :
    ∃ deliveries ttys', ttyFlushOutputQueueToStdin ttys u = .ok (deliveries, ttys') ∧
      Flushed ttys u tty deliveries ttys' := by
  simp only [ttyFlushOutputQueueToStdin, sound.valid there]
  exact flushOutput_flushed (sound u tty there)

/-- The worker decides: the slave's copies the buffer, any other is a flush of
    the terminal's own. -/
theorem ttyFlushOutputQueueEx_spec (consoles : Consoles) (sound : AllSound ttys)
    (there : ttys u = some tty) :
    (∃ link, tty.outputWorkerNumber = TTY_OUTPUT_WORKER_PTYSLAVE ∧ tty.link = some link ∧
      ttyFlushOutputQueueEx ttys u consoles = .ok ([], ttyCopyOutputBuffer ttys link u)) ∨
    ((tty.outputWorkerNumber = TTY_OUTPUT_WORKER_PTYSLAVE → tty.link = none) ∧
      ∃ deliveries ttys', ttyFlushOutputQueueEx ttys u consoles = .ok (deliveries, ttys') ∧
        Flushed ttys u tty deliveries ttys') := by
  simp only [ttyFlushOutputQueueEx, sound.valid there]
  by_cases console : tty.outputWorkerNumber = TTY_OUTPUT_WORKER_FGCONSOLE
  · rw [if_pos console]
    refine .inr ⟨?_, ttyFlushOutputQueue_flushed consoles sound there _⟩
    rw [console]
    intro same
    cases same
  · rw [if_neg console]
    by_cases stdin : tty.outputWorkerNumber = TTY_OUTPUT_WORKER_STDIN
    · rw [if_pos stdin]
      refine .inr ⟨?_, ttyFlushOutputQueueToStdin_flushed sound there⟩
      rw [stdin]
      intro same
      cases same
    · rw [if_neg stdin]
      by_cases serial : tty.outputWorkerNumber = TTY_OUTPUT_WORKER_SERIALPORT
      · rw [if_pos serial]
        refine .inr ⟨?_, ttyFlushOutputQueueToSerial_flushed sound there _⟩
        rw [serial]
        intro same
        cases same
      · rw [if_neg serial]
        by_cases slave : tty.outputWorkerNumber = TTY_OUTPUT_WORKER_PTYSLAVE
        · rw [if_pos slave]
          cases linked : tty.link with
          | none => exact .inr ⟨fun _ => rfl, _, _, rfl, .nothing⟩
          | some link => exact .inl ⟨link, slave, rfl, rfl⟩
        · rw [if_neg slave]
          exact .inr ⟨fun same => absurd same slave, _, _, rfl, .nothing⟩

theorem Flushed.allSound (flushed : Flushed ttys u tty deliveries ttys') (sound : AllSound ttys)
    (there : ttys u = some tty) : AllSound ttys' := by
  cases flushed with
  | nothing => exact sound
  | drained held empty =>
      rcases sound u tty there with ⟨magic, raw, canonical, -⟩
      exact sound.set ⟨magic, raw, canonical, _, empty⟩

/-- A flush hands out what waits in the output queue, and keeps the rest. -/
theorem Flushed.own (flushed : Flushed ttys u tty deliveries ttys') (there : ttys u = some tty) :
    ∃ q, ttys' u = some { tty with outputQueue := q } ∧
      ∀ stream, InOrder stream tty.outputQueue →
        InOrder (stream.take (bytesIn deliveries)) q := by
  cases flushed with
  | nothing =>
      refine ⟨tty.outputQueue, there, ?_⟩
      rintro stream ⟨waiting, conserved, holds⟩
      exact .take [] conserved holds
  | drained held empty =>
      refine ⟨_, set_self, fun stream order => ?_⟩
      simpa [bytesIn] using drain_inOrder order held empty

theorem Flushed.other (flushed : Flushed ttys u tty deliveries ttys') (apart : t ≠ u) :
    ttys' t = ttys t := by
  cases flushed with
  | nothing => rfl
  | drained held empty => exact set_other apart

/-- What a flush through the worker does, to the terminal itself and to others. -/
structure Emitted (ttys : Ttys) (u : Nat) (tty : Tty) (deliveries : List Delivery)
    (ttys' : Ttys) : Prop where
  sound : AllSound ttys'
  own : ∃ q, ttys' u = some { tty with outputQueue := q } ∧
    ∀ stream, InOrder stream tty.outputQueue → InOrder (stream.take (bytesIn deliveries)) q
  other : ∀ t traffic, t ≠ u → OrderlyAt t traffic ttys →
    (OrderlyAt t traffic ttys' ↔ Spared traffic ttys u t)
  spared : ∀ t traffic, t ≠ u → Spared traffic ttys' u t

theorem spared_of_other_link (there : ttys u = some source)
    (other : source.outputWorkerNumber = TTY_OUTPUT_WORKER_PTYSLAVE → source.link ≠ some t) :
    Spared traffic ttys u t := by
  intro source' target there' _ worker linked
  rw [there] at there'
  cases there'
  exact absurd linked (other worker)

theorem ttyFlushOutputQueueEx_emitted (consoles : Consoles) (sound : AllSound ttys)
    (there : ttys u = some tty) :
    ∃ deliveries ttys', ttyFlushOutputQueueEx ttys u consoles = .ok (deliveries, ttys') ∧
      Emitted ttys u tty deliveries ttys' := by
  rcases ttyFlushOutputQueueEx_spec consoles sound there with
    ⟨link, worker, linked, copied⟩ | ⟨unlinked, deliveries, ttys', done, flushed⟩
  · have own : ttyCopyOutputBuffer ttys link u u = some tty := by
      by_cases itself : u = link
      · subst itself
        exact copy_self sound there
      · rw [copy_other itself]
        exact there
    refine ⟨_, _, copied, sound.copy there, ⟨tty.outputQueue, own, ?_⟩, ?_, ?_⟩
    · rintro stream ⟨waiting, conserved, holds⟩
      exact .take [] conserved holds
    · intro t traffic apart order
      by_cases here : link = t
      · subst here
        exact copy_orderlyAt sound there worker linked order
      · rw [OrderlyAt, copy_other (Ne.symm here)]
        refine iff_of_true order (spared_of_other_link there fun _ => ?_)
        rw [linked]
        intro same
        exact here (Option.some.inj same)
    · -- The two buffers are the same from now on.
      intro t traffic apart source target there' here _ linked' k _
      rw [own] at there'
      cases there'
      rw [linked'] at linked
      obtain rfl : t = link := Option.some.inj linked
      cases before : ttys t with
      | none =>
          rw [copy_absent before, before] at here
          cases here
      | some target' =>
          rw [copy_eq sound there before, set_self] at here
          cases here
          exact (copyBuffer_buf (Ring.place_lt (by decide))).symm
  · rcases flushed.own there with ⟨q, own, output⟩
    refine ⟨_, _, done, flushed.allSound sound there, ⟨q, own, output⟩, ?_, ?_⟩
    · intro t traffic apart order
      rw [OrderlyAt, flushed.other apart]
      refine iff_of_true order (spared_of_other_link there fun worker => ?_)
      rw [unlinked worker]
      exact fun same => nomatch same
    · intro t traffic apart
      refine spared_of_other_link own fun worker => ?_
      rw [unlinked worker]
      exact fun same => nomatch same

/-- What one pass of `__tty_write3` does. -/
structure Entered (ttys : Ttys) (u : Nat) (tty : Tty) (c : UInt8) (deliveries : List Delivery)
    (ttys' : Ttys) (tty' : Tty) : Prop where
  sound : AllSound ttys'
  there : ttys' u = some tty'
  termios : tty'.termios = tty.termios
  inputs : ∀ inputs, InputsInOrder inputs tty →
    (InputsInOrder (inputs.add tty.termios c) tty' ↔ ByteInTurn tty.termios inputs c)
  output : ∀ stream, InOrder stream tty.outputQueue →
    InOrder (stream.take (bytesIn deliveries)) tty'.outputQueue
  other : ∀ t traffic, t ≠ u → OrderlyAt t traffic ttys →
    (OrderlyAt t traffic ttys' ↔
      (tty.termios.canonical = true → c = newline → Spared traffic ttys u t))
  spared : ∀ t traffic, t ≠ u → Spared traffic ttys u t → Spared traffic ttys' u t

theorem spared_inputByte (there : ttys u = some tty) (apart : t ≠ u) :
    Spared traffic (ttys.set u (inputByte tty c)) u t ↔ Spared traffic ttys u t := by
  have keeps := inputByte_keeps tty c
  constructor
  · intro spared source target there' here worker linked
    rw [there] at there'
    cases there'
    have same := spared _ target set_self (by rwa [set_other apart]) (by rwa [keeps.2.2.1])
      (by rwa [keeps.2.2.2])
    rwa [keeps.1] at same
  · intro spared source target there' here worker linked
    rw [set_self] at there'
    cases there'
    rw [set_other apart] at here
    rw [keeps.2.2.1] at worker
    rw [keeps.2.2.2] at linked
    rw [keeps.1]
    exact spared tty target there here worker linked

theorem write3Byte_entered (consoles : Consoles) (sound : AllSound ttys) (there : ttys u = some tty)
    (c : UInt8) :
    ∃ deliveries ttys' tty', write3Byte u consoles ttys tty c = .ok (deliveries, ttys') ∧
      Entered ttys u tty c deliveries ttys' tty' := by
  have keeps := inputByte_keeps tty c
  have stored : AllSound (ttys.set u (inputByte tty c)) := sound.set (sound u tty there).putInput
  by_cases ends : tty.termios.canonical = true ∧ c = newline
  · rcases ttyFlushOutputQueueEx_emitted consoles stored set_self with
      ⟨deliveries, ttys', done, after, ⟨q, own, output⟩, other, spared⟩
    refine ⟨deliveries, ttys', _, ?_, after, own, keeps.2.1, ?_, ?_, ?_, ?_⟩
    · simp only [write3Byte, if_pos ends, done]
    · intro inputs order
      rw [← inputByte_inOrder order]
      exact ⟨fun both => ⟨both.raw, both.canonical⟩, fun both => ⟨both.raw, both.canonical⟩⟩
    · intro stream order
      rw [← keeps.1] at order
      exact output stream order
    · intro t traffic apart order
      have before : OrderlyAt t traffic (ttys.set u (inputByte tty c)) :=
        (orderlyAt_set_other apart).mpr order
      rw [other t traffic apart before, spared_inputByte there apart]
      exact ⟨fun spared _ _ => spared, fun spared => spared ends.1 ends.2⟩
    · exact fun t traffic apart _ => spared t traffic apart
  · refine ⟨[], _, _, ?_, stored, set_self, keeps.2.1, ?_, ?_, ?_, ?_⟩
    · simp only [write3Byte, if_neg ends]
    · exact fun inputs order => inputByte_inOrder order
    · rintro stream ⟨waiting, conserved, holds⟩
      rw [keeps.1]
      exact .take [] conserved holds
    · intro t traffic apart order
      refine iff_of_true ((orderlyAt_set_other apart).mpr order) ?_
      intro mode newline
      exact absurd ⟨mode, newline⟩ ends
    · intro t traffic apart spared
      exact (spared_inputByte there apart).mpr spared

theorem bytesIn_append (first later : List Delivery) :
    bytesIn (first ++ later) = bytesIn first ++ bytesIn later :=
  List.flatMap_append

/-- A write whose bytes are in turn is in order, for the terminal and for others. -/
theorem write3Loop_spec (consoles : Consoles) (bytes : List UInt8) (sound : AllSound ttys)
    (there : ttys u = some tty) :
    ∃ deliveries ttys' tty', write3Loop u consoles bytes ttys = .ok (deliveries, ttys') ∧
      AllSound ttys' ∧ ttys' u = some tty' ∧
      (∀ inputs, InputsInOrder inputs tty → BytesInTurn tty.termios inputs bytes →
        InputsInOrder (bytes.foldl (Inputs.add tty.termios) inputs) tty') ∧
      (∀ stream, InOrder stream tty.outputQueue →
        InOrder (stream.take (bytesIn deliveries)) tty'.outputQueue) ∧
      ∀ t traffic, t ≠ u → OrderlyAt t traffic ttys →
        (tty.termios.canonical = true → newline ∈ bytes → Spared traffic ttys u t) →
          OrderlyAt t traffic ttys' := by
  induction bytes generalizing ttys tty with
  | nil =>
      refine ⟨[], ttys, tty, rfl, sound, there, fun _ order _ => order, ?_,
        fun _ _ _ order _ => order⟩
      rintro stream ⟨waiting, conserved, holds⟩
      exact .take [] conserved holds
  | cons c rest ih =>
      rcases write3Byte_entered consoles sound there c with
        ⟨first, ttys₁, tty₁, entered, done⟩
      rcases ih done.sound done.there with
        ⟨later, ttys', tty', looped, after, own, inputs, output, other⟩
      rw [done.termios] at inputs other
      refine ⟨first ++ later, ttys', tty', ?_, after, own, ?_, ?_, ?_⟩
      · simp only [write3Loop, there, entered, bind, Except.bind, looped]
        rfl
      · intro history order turn
        exact inputs _ ((done.inputs history order).mpr turn.1) turn.2
      · intro stream order
        have both := output _ (done.output stream order)
        rwa [Stream.take, Stream.take, List.append_assoc, ← bytesIn_append] at both
      · intro t traffic apart order spares
        apply other t traffic apart
        · apply (done.other t traffic apart order).mpr
          rintro mode rfl
          exact spares mode List.mem_cons_self
        · intro mode inside
          exact done.spared t traffic apart (spares mode (List.mem_cons_of_mem c inside))

@[simp] theorem take_nil : stream.take [] = stream := by
  rw [Stream.take, List.append_nil]

@[simp] theorem linesTake_nil : lines.take [] = lines := by
  rw [Lines.take, List.append_nil]

@[simp] theorem written_failed (buffer : Option (Nat → UInt8)) : written buffer (-1) = [] := by
  cases buffer <;> rfl

theorem bytesOf_nonpos {buffer : Nat → UInt8} {nr : Int32} (none : nr ≤ 0) :
    bytesOf buffer nr = [] := by
  have zero : nr.toNatClampNeg = 0 := by
    rw [Int32.le_iff_toInt_le] at none
    exact Int.toNat_of_nonpos none
  rw [bytesOf, zero]
  rfl

/-- The bytes that the returned count says were written are the first of them. -/
theorem written_count {buffer : Nat → UInt8} {nr : Int32} {count : Nat}
    (within : count ≤ (bytesOf buffer nr).length) :
    written (some buffer) count = (bytesOf buffer nr).take count := by
  rw [bytesOf, List.length_map, List.length_range] at within
  simp only [written, bytesOf, Int.toNat_natCast, ← List.map_take, List.take_range,
    Nat.min_eq_left within]

/-- The call is answered, and for the terminal `t` it is in order if it is in
    turn, and only then where it writes no more than a byte to the input. -/
def Answered (t : Nat) (ttys : Ttys) (request : Request) : Prop :=
  ∃ reply ttys', serve ttys request = .ok (reply, ttys') ∧ AllSound ttys' ∧
    ∀ traffic, OrderlyAt t traffic ttys →
      (InTurn t traffic ttys request →
        OrderlyAt t (note t traffic ttys request (reply, ttys')) ttys') ∧
      (Bytewise request → OrderlyAt t (note t traffic ttys request (reply, ttys')) ttys' →
        InTurn t traffic ttys request)

theorem note_other (apart : t ≠ request.tty) :
    note t traffic ttys request (reply, ttys') = traffic := by
  unfold note
  split
  · rfl
  · exact if_neg (Ne.symm apart)

theorem note_own (there : ttys request.tty = some tty) :
    note request.tty traffic ttys request (reply, ttys') =
      Traffic.after traffic tty.termios request reply := by
  simp only [note, there, if_true]

theorem answered_of (reply : Reply) (there : ttys request.tty = some tty)
    (served : serve ttys request = .ok (reply, ttys')) (sound : AllSound ttys')
    (own : ttys' request.tty = some tty')
    (exact : ∀ traffic, Orderly traffic tty →
      (InTurn request.tty traffic ttys request →
        Orderly (Traffic.after traffic tty.termios request reply) tty') ∧
      (Bytewise request → Orderly (Traffic.after traffic tty.termios request reply) tty' →
        InTurn request.tty traffic ttys request))
    (other : ∀ traffic, t ≠ request.tty → OrderlyAt t traffic ttys →
      (InTurn t traffic ttys request → OrderlyAt t traffic ttys') ∧
        (Bytewise request → OrderlyAt t traffic ttys' → InTurn t traffic ttys request)) :
    Answered t ttys request := by
  refine ⟨reply, ttys', served, sound, ?_⟩
  intro traffic order
  by_cases here : t = request.tty
  · subst here
    rw [note_own there]
    rcases exact traffic (order tty there) with ⟨forth, back⟩
    constructor
    · intro turn after found
      rw [own] at found
      cases found
      exact forth turn
    · intro few after
      exact back few (after tty' own)
  · rw [note_other here]
    exact other traffic here order

/-- A call that changes no other terminal, and is always in turn for them. -/
theorem answered_alone (reply : Reply) (there : ttys request.tty = some tty)
    (served : serve ttys request = .ok (reply, ttys')) (sound : AllSound ttys')
    (own : ttys' request.tty = some tty')
    (exact : ∀ traffic, Orderly traffic tty →
      (Orderly (Traffic.after traffic tty.termios request reply) tty' ↔
        InTurn request.tty traffic ttys request))
    (others : ∀ v, v ≠ request.tty → ttys' v = ttys v)
    (turn : ∀ traffic, t ≠ request.tty → InTurn t traffic ttys request) :
    Answered t ttys request := by
  apply answered_of reply there served sound own
  · intro traffic order
    exact ⟨(exact traffic order).mpr, fun _ => (exact traffic order).mp⟩
  · intro traffic apart order
    refine ⟨fun _ => ?_, fun _ _ => turn traffic apart⟩
    rwa [OrderlyAt, others t apart]

theorem answered_set (tty' : Tty) (reply : Reply) (there : ttys request.tty = some tty)
    (sound : AllSound ttys)
    (served : serve ttys request = .ok (reply, ttys.set request.tty tty')) (own : Sound tty')
    (exact : ∀ traffic, Orderly traffic tty →
      (Orderly (Traffic.after traffic tty.termios request reply) tty' ↔
        InTurn request.tty traffic ttys request))
    (turn : ∀ traffic, t ≠ request.tty → InTurn t traffic ttys request) :
    Answered t ttys request :=
  answered_alone reply there served (sound.set own) set_self exact
    (fun _ apart => set_other apart) turn

theorem answered_refused (reply : Reply) (there : ttys request.tty = some tty)
    (sound : AllSound ttys)
    (served : serve ttys request = .ok (reply, ttys))
    (same : ∀ traffic, Traffic.after traffic tty.termios request reply = traffic)
    (turn : ∀ traffic, InTurn t traffic ttys request) : Answered t ttys request := by
  refine ⟨reply, ttys, served, sound, fun traffic order => ?_⟩
  have kept : note t traffic ttys request (reply, ttys) = traffic := by
    by_cases here : t = request.tty
    · subst here
      rw [note_own there, same]
    · exact note_other here
  rw [kept]
  exact ⟨fun _ => order, fun _ _ => turn traffic⟩

theorem served_absent (absent : ttys request.tty = none) :
    ∃ reply, serve ttys request = .ok (reply, ttys) := by
  have invalid := valid_none absent
  cases request <;> simp only [Request.tty] at invalid <;>
    simp [serve, invalid, ttyRead2, ttyRead3, ttyWrite2, ttyWrite3, ttyFlushRawQueue,
      ttyFlushCanonicalQueue, ttyFlushOutputQueue, ttyFlushOutputQueueToSerial,
      ttyFlushOutputQueueToStdin, ttyFlushOutputQueueEx, ttySetOutputWorker, ttySets,
      Except.map, sent]

theorem inTurn_absent (absent : ttys request.tty = none) : InTurn t traffic ttys request := by
  cases request with
  | read3 u buffer nr =>
      intro here _ _ tty there
      subst here
      rw [Request.tty, there] at absent
      cases absent
  | write3 u consoles buffer nr =>
      cases buffer with
      | none => trivial
      | some buffer =>
          intro tty there
          rw [Request.tty, there] at absent
          cases absent
  | flushEx u consoles =>
      intro _ source target there
      rw [Request.tty, there] at absent
      cases absent
  | _ => trivial

theorem answered_absent (sound : AllSound ttys) (absent : ttys request.tty = none) :
    Answered t ttys request := by
  rcases served_absent absent with ⟨reply, served⟩
  refine ⟨reply, ttys, served, sound, fun traffic order => ?_⟩
  have kept : note t traffic ttys request (reply, ttys) = traffic := by
    by_cases here : t = request.tty
    · subst here
      simp only [note, absent]
    · exact note_other here
  rw [kept]
  exact ⟨fun _ => order, fun _ _ => inTurn_absent absent⟩

theorem answered_read2 (sound : AllSound ttys) (there : ttys u = some tty) (buffer : Bool)
    (nr : Int32) : Answered t ttys (.read2 u buffer nr) := by
  by_cases refused : buffer = false ∨ nr ≤ 0
  · refine answered_refused ⟨-1, [], []⟩ there sound ?_ ?_ fun _ => trivial
    · simp only [serve, ttyRead2, sound.valid there, if_pos refused]
    · intro traffic
      simp [Traffic.after]
  · rcases sound u tty there with ⟨magic, raw, canonical, waiting, holds⟩
    have after := readQueue_take nr.toNatClampNeg holds
    refine answered_set
      { tty with outputQueue := (readQueue nr.toNatClampNeg tty.outputQueue).2 }
      ⟨(readQueue nr.toNatClampNeg tty.outputQueue).1.length,
        (readQueue nr.toNatClampNeg tty.outputQueue).1, []⟩ there sound ?_
      ⟨magic, raw, canonical, _, after.2⟩ ?_ fun _ _ => trivial
    · simp only [serve, ttyRead2, sound.valid there, if_neg refused]
      rfl
    · intro traffic order
      refine iff_of_true ⟨⟨order.inputs.raw, order.inputs.canonical⟩, ?_⟩ trivial
      exact readQueue_inOrder _ order.output

theorem answered_read3 (sound : AllSound ttys) (there : ttys u = some tty) (buffer : Bool)
    (nr : Int32) : Answered t ttys (.read3 u buffer nr) := by
  by_cases refused : buffer = false ∨ nr ≤ 0
  · refine answered_refused ⟨-1, [], []⟩ there sound ?_ ?_ ?_
    · simp only [serve, ttyRead3, sound.valid there, if_pos refused]
    · intro traffic
      simp [Traffic.after]
    · intro traffic _ given positive
      rcases refused with missing | none
      · rw [given] at missing
        cases missing
      · exact absurd positive (Int32.not_lt.mpr none)
  · have given : buffer = true := by
      cases buffer with
      | true => rfl
      | false => exact absurd (.inl rfl) refused
    have positive : 0 < nr := Int32.not_le.mp fun none => refused (.inr none)
    rcases sound u tty there with ⟨magic, ⟨rawWaiting, rawHolds⟩, ⟨waiting, holds⟩, output⟩
    by_cases mode : tty.termios.canonical = true
    · have after := readLine_lineOf nr.toNatClampNeg holds
      refine answered_set
        { tty with canonicalQueue := (readLine nr.toNatClampNeg tty.canonicalQueue).2 }
        ⟨(readLine nr.toNatClampNeg tty.canonicalQueue).1.length,
          (readLine nr.toNatClampNeg tty.canonicalQueue).1, []⟩ there sound ?_
        ⟨magic, ⟨_, rawHolds⟩, ⟨_, after.2⟩, output⟩ ?_ ?_
      · simp only [serve, ttyRead3, sound.valid there, if_neg refused, if_pos mode]
        rfl
      · intro traffic order
        have some_read : 0 < nr.toNatClampNeg := by
          rw [Int32.lt_iff_toInt_lt] at positive
          exact Int.pos_iff_toNat_pos.mp positive
        have exact_read := readLine_inOrder order.inputs.canonical some_read
        simp only [Traffic.after, if_pos mode]
        constructor
        · intro both _ _ _ tty' there' _
          exact exact_read.mp both.inputs.canonical
        · intro turn
          have ready := turn rfl given positive tty there mode
          exact ⟨⟨order.inputs.raw, exact_read.mpr ready⟩, order.output⟩
      · intro traffic apart here
        exact absurd here.symm apart
    · have after := readQueue_take nr.toNatClampNeg rawHolds
      refine answered_set
        { tty with rawQueue := (readQueue nr.toNatClampNeg tty.rawQueue).2 }
        ⟨(readQueue nr.toNatClampNeg tty.rawQueue).1.length,
          (readQueue nr.toNatClampNeg tty.rawQueue).1, []⟩ there sound ?_
        ⟨magic, ⟨_, after.2⟩, ⟨_, holds⟩, output⟩ ?_ ?_
      · simp only [serve, ttyRead3, sound.valid there, if_neg refused, if_neg mode]
        rfl
      · intro traffic order
        simp only [Traffic.after, if_neg mode]
        refine iff_of_true ⟨⟨readQueue_inOrder _ order.inputs.raw, order.inputs.canonical⟩,
          order.output⟩ ?_
        intro _ _ _ tty' there' canonical
        rw [Request.tty, there] at there'
        cases there'
        exact absurd canonical mode
      · intro traffic apart here
        exact absurd here.symm apart

theorem answered_write2 (sound : AllSound ttys) (there : ttys u = some tty)
    (buffer : Option (Nat → UInt8)) (nr : Int32) : Answered t ttys (.write2 u buffer nr) := by
  cases buffer with
  | none =>
      refine answered_refused ⟨-1, [], []⟩ there sound ?_ ?_ fun _ => trivial
      · simp only [serve, ttyWrite2, sound.valid there]
      · intro traffic
        simp [Traffic.after]
  | some buffer =>
      by_cases none : nr ≤ 0
      · refine answered_refused ⟨-1, [], []⟩ there sound ?_ ?_ fun _ => trivial
        · simp only [serve, ttyWrite2, sound.valid there, if_pos none]
        · intro traffic
          simp [Traffic.after]
      · rcases sound u tty there with ⟨magic, raw, canonical, waiting, holds⟩
        have after := writeQueue_append (bytesOf buffer nr) holds
        refine answered_set
          { tty with outputQueue := (writeQueue (bytesOf buffer nr) tty.outputQueue).2 }
          ⟨(writeQueue (bytesOf buffer nr) tty.outputQueue).1, [], []⟩ there sound ?_
          ⟨magic, raw, canonical, _, after⟩ ?_ fun _ _ => trivial
        · simp only [serve, ttyWrite2, sound.valid there, if_neg none]
          rfl
        · intro traffic order
          refine iff_of_true ⟨⟨order.inputs.raw, order.inputs.canonical⟩, ?_⟩ trivial
          simp only [Traffic.after, written_count (writeQueue_le _)]
          exact writeQueue_inOrder _ order.output

theorem write3Loop_exact (consoles : Consoles) (few : bytes.length ≤ 1) (sound : AllSound ttys)
    (there : ttys u = some tty) :
    ∃ deliveries ttys' tty', write3Loop u consoles bytes ttys = .ok (deliveries, ttys') ∧
      ttys' u = some tty' ∧
      (∀ inputs, InputsInOrder inputs tty →
        InputsInOrder (bytes.foldl (Inputs.add tty.termios) inputs) tty' →
          BytesInTurn tty.termios inputs bytes) ∧
      ∀ t traffic, t ≠ u → OrderlyAt t traffic ttys → OrderlyAt t traffic ttys' →
        tty.termios.canonical = true → newline ∈ bytes → Spared traffic ttys u t := by
  cases bytes with
  | nil =>
      exact ⟨[], ttys, tty, rfl, there, fun _ _ _ => trivial,
        fun _ _ _ _ _ _ inside => nomatch inside⟩
  | cons c rest =>
      have alone : rest = [] := List.length_eq_zero_iff.mp
        (Nat.le_zero.mp (Nat.le_of_succ_le_succ few))
      subst alone
      rcases write3Byte_entered consoles sound there c with ⟨first, ttys₁, tty₁, entered, done⟩
      refine ⟨first, ttys₁, tty₁, ?_, done.there, ?_, ?_⟩
      · simp only [write3Loop, there, entered, bind, Except.bind, pure, Except.pure,
          List.append_nil]
      · exact fun inputs order after => ⟨(done.inputs inputs order).mp after, trivial⟩
      · intro t traffic apart order after mode inside
        have same := List.mem_singleton.mp inside
        exact (done.other t traffic apart order).mp after mode same.symm

theorem bytesOf_bytewise {buffer : Nat → UInt8} {nr : Int32} (few : nr ≤ 1) :
    (bytesOf buffer nr).length ≤ 1 := by
  rw [Int32.le_iff_toInt_le] at few
  rw [bytesOf, List.length_map, List.length_range]
  exact Int.toNat_le.mpr few

theorem answered_write3 (sound : AllSound ttys) (there : ttys u = some tty)
    (consoles : Consoles) (buffer : Option (Nat → UInt8)) (nr : Int32) :
    Answered t ttys (.write3 u consoles buffer nr) := by
  cases buffer with
  | none =>
      refine answered_refused ⟨-1, [], []⟩ there sound ?_ ?_ fun _ => trivial
      · simp only [serve, ttyWrite3, sound.valid there]
        rfl
      · intro traffic
        simp [Traffic.after, bytesIn]
  | some buffer =>
      by_cases none : nr ≤ 0
      · refine answered_refused ⟨-1, [], []⟩ there sound ?_ ?_ ?_
        · simp only [serve, ttyWrite3, sound.valid there, if_pos none]
          rfl
        · intro traffic
          simp [Traffic.after, bytesIn]
        · intro traffic tty _
          rw [bytesOf_nonpos none]
          split
          · trivial
          · exact fun _ inside => nomatch inside
      · rcases write3Loop_spec consoles (bytesOf buffer nr) sound there with
          ⟨deliveries, ttys', tty', looped, after, own, inputs, output, other⟩
        have all : written (some buffer) nr.toInt = bytesOf buffer nr := rfl
        refine answered_of ⟨nr.toInt, [], deliveries⟩ there ?_ after own ?_ ?_
        · simp only [serve, ttyWrite3, sound.valid there, if_neg none, looped]
          rfl
        · intro traffic order
          simp only [Traffic.after, all]
          constructor
          · intro turn
            have bytes := turn tty there
            rw [Request.tty, if_pos rfl] at bytes
            exact ⟨inputs _ order.inputs bytes, output _ order.output⟩
          · -- Of a single byte the order afterwards says that it was accepted.
            intro few both tty₁ there₁
            rw [there] at there₁
            cases there₁
            rw [Request.tty, if_pos rfl]
            rcases write3Loop_exact consoles (bytesOf_bytewise few) sound there with
              ⟨deliveries₁, ttys₁, tty₁, looped₁, own₁, back, -⟩
            rw [looped] at looped₁
            cases looped₁
            rw [own] at own₁
            cases own₁
            exact back _ order.inputs both.inputs
        · -- Another terminal only sees what the loop sent on to it.
          intro traffic apart order
          have away : ¬u = t := Ne.symm apart
          constructor
          · intro turn
            have spares := turn tty there
            rw [if_neg away] at spares
            exact other t traffic apart order spares
          · intro few both tty₁ there₁
            rw [there] at there₁
            cases there₁
            rw [if_neg away]
            rcases write3Loop_exact consoles (bytesOf_bytewise few) sound there with
              ⟨deliveries₁, ttys₁, tty₁, looped₁, -, -, back⟩
            rw [looped] at looped₁
            cases looped₁
            exact back t traffic apart order both

theorem answered_flushRaw (sound : AllSound ttys) (there : ttys u = some tty)
    (consoleNumber : Int32) : Answered t ttys (.flushRaw u consoleNumber) := by
  rcases sound u tty there with ⟨magic, ⟨waiting, holds⟩, canonical, output⟩
  rcases flushLoop_all "tty_flush_raw_queue" holds.short holds with ⟨q, flushed, empty⟩
  refine answered_set { tty with rawQueue := q }
    ⟨0, [], [⟨.console consoleNumber, waiting⟩]⟩ there sound ?_
    ⟨magic, ⟨_, empty⟩, canonical, output⟩ ?_ fun _ _ => trivial
  · simp only [serve, ttyFlushRawQueue, sound.valid there, TTY_BUF_SIZE, flushed]
    rfl
  · intro traffic order
    refine iff_of_true ⟨⟨?_, order.inputs.canonical⟩, order.output⟩ trivial
    simpa [Traffic.after, bytesIn] using drain_inOrder order.inputs.raw holds empty

theorem answered_flushCanonical (sound : AllSound ttys) (there : ttys u = some tty)
    (consoleNumber : Int32) : Answered t ttys (.flushCanonical u consoleNumber) := by
  rcases sound u tty there with ⟨magic, raw, ⟨waiting, holds⟩, output⟩
  rcases flushLoop_all "tty_flush_canonical_queue" holds.short holds with ⟨q, flushed, empty⟩
  refine answered_set { tty with canonicalQueue := q }
    ⟨0, [], [⟨.console consoleNumber, waiting⟩]⟩ there sound ?_
    ⟨magic, raw, ⟨_, empty⟩, output⟩ ?_ fun _ _ => trivial
  · simp only [serve, ttyFlushCanonicalQueue, sound.valid there, TTY_BUF_SIZE, flushed]
    rfl
  · intro traffic order
    refine iff_of_true ⟨⟨order.inputs.raw, ?_⟩, order.output⟩ trivial
    simpa [Traffic.after, bytesIn] using
      flush_linesInOrder order.inputs.canonical holds empty

theorem answered_flushed (there : ttys request.tty = some tty) (sound : AllSound ttys)
    (served : serve ttys request = .ok (⟨0, [], deliveries⟩, ttys'))
    (flushed : Flushed ttys request.tty tty deliveries ttys')
    (history : ∀ traffic, Traffic.after traffic tty.termios request ⟨0, [], deliveries⟩ =
      { traffic with output := traffic.output.take (bytesIn deliveries) })
    (turn : ∀ t traffic, InTurn t traffic ttys request) : Answered t ttys request := by
  rcases flushed.own there with ⟨q, own, output⟩
  refine answered_alone _ there served (flushed.allSound sound there) own ?_
    (fun v apart => flushed.other apart) fun _ _ => turn _ _
  intro traffic order
  rw [history]
  exact iff_of_true ⟨⟨order.inputs.raw, order.inputs.canonical⟩, output _ order.output⟩ (turn _ _)

theorem answered_flushOutput (sound : AllSound ttys) (there : ttys u = some tty)
    (consoles : Consoles) (consoleNumber : Int32) :
    Answered t ttys (.flushOutput u consoles consoleNumber) := by
  rcases ttyFlushOutputQueue_flushed consoles sound there consoleNumber with
    ⟨deliveries, ttys', done, flushed⟩
  refine answered_flushed there sound ?_ flushed (fun _ => rfl) fun _ _ => trivial
  simp only [serve, done]
  rfl

theorem answered_flushToSerial (sound : AllSound ttys) (there : ttys u = some tty)
    (portNumber : Int32) : Answered t ttys (.flushToSerial u portNumber) := by
  rcases ttyFlushOutputQueueToSerial_flushed sound there portNumber with
    ⟨deliveries, ttys', done, flushed⟩
  refine answered_flushed there sound ?_ flushed (fun _ => rfl) fun _ _ => trivial
  simp only [serve, done]
  rfl

theorem answered_flushToStdin (sound : AllSound ttys) (there : ttys u = some tty) :
    Answered t ttys (.flushToStdin u) := by
  rcases ttyFlushOutputQueueToStdin_flushed sound there with ⟨deliveries, ttys', done, flushed⟩
  refine answered_flushed there sound ?_ flushed (fun _ => rfl) fun _ _ => trivial
  simp only [serve, done]
  rfl

theorem answered_flushEx (sound : AllSound ttys) (there : ttys u = some tty)
    (consoles : Consoles) : Answered t ttys (.flushEx u consoles) := by
  rcases ttyFlushOutputQueueEx_emitted consoles sound there with
    ⟨deliveries, ttys', done, after, ⟨q, own, output⟩, other, -⟩
  refine answered_of ⟨0, [], deliveries⟩ there ?_ after own ?_ ?_
  · simp only [serve, done]
    rfl
  · intro traffic order
    refine ⟨fun _ => ⟨⟨order.inputs.raw, order.inputs.canonical⟩, output _ order.output⟩, ?_⟩
    intro _ _ apart
    exact absurd rfl apart
  · intro traffic apart order
    have exact_other := other t traffic apart order
    exact ⟨fun turn => exact_other.mpr (turn (Ne.symm apart)),
      fun _ after _ => exact_other.mp after⟩

theorem answered_setOutputWorker (sound : AllSound ttys) (there : ttys u = some tty)
    (workerNumber : Int32) : Answered t ttys (.setOutputWorker u workerNumber) := by
  rcases sound u tty there with ⟨magic, raw, canonical, output⟩
  by_cases known : workerNumber = TTY_OUTPUT_WORKER_FGCONSOLE ∨
      workerNumber = TTY_OUTPUT_WORKER_STDIN ∨ workerNumber = TTY_OUTPUT_WORKER_SERIALPORT ∨
      workerNumber = TTY_OUTPUT_WORKER_PTYSLAVE
  · refine answered_set { tty with outputWorkerNumber := workerNumber } ⟨0, [], []⟩ there sound
      ?_ ⟨magic, raw, canonical, output⟩ ?_ fun _ _ => trivial
    · simp only [serve, ttySetOutputWorker, sound.valid there, if_pos known]
      rfl
    · intro traffic order
      exact iff_of_true ⟨⟨order.inputs.raw, order.inputs.canonical⟩, order.output⟩ trivial
  · refine answered_refused ⟨-1, [], []⟩ there sound ?_ (fun _ => rfl) fun _ => trivial
    simp only [serve, ttySetOutputWorker, sound.valid there, if_neg known]

theorem answered_sets (sound : AllSound ttys) (there : ttys u = some tty) (options : Int32)
    (termios : Option Termios) : Answered t ttys (.sets u options termios) := by
  rcases sound u tty there with ⟨magic, raw, canonical, output⟩
  cases termios with
  | none =>
      refine answered_refused ⟨-1, [], []⟩ there sound ?_ (fun _ => rfl) fun _ => trivial
      simp only [serve, ttySets, sound.valid there]
  | some termios =>
      by_cases now : options = TCSANOW
      · refine answered_set { tty with termios := termios } ⟨0, [], []⟩ there sound
          ?_ ⟨magic, raw, canonical, output⟩ ?_ fun _ _ => trivial
        · simp only [serve, ttySets, sound.valid there, if_pos now]
          rfl
        · intro traffic order
          exact iff_of_true ⟨⟨order.inputs.raw, order.inputs.canonical⟩, order.output⟩ trivial
      · refine answered_refused ⟨-1, [], []⟩ there sound ?_ (fun _ => rfl) fun _ => trivial
        simp only [serve, ttySets, sound.valid there, if_neg now]

theorem answered (sound : AllSound ttys) (t : Nat) (request : Request) :
    Answered t ttys request := by
  cases there : ttys request.tty with
  | none => exact answered_absent sound there
  | some tty =>
      cases request with
      | read2 u buffer nr => exact answered_read2 sound there buffer nr
      | read3 u buffer nr => exact answered_read3 sound there buffer nr
      | write2 u buffer nr => exact answered_write2 sound there buffer nr
      | write3 u consoles buffer nr => exact answered_write3 sound there consoles buffer nr
      | flushRaw u consoleNumber => exact answered_flushRaw sound there consoleNumber
      | flushCanonical u consoleNumber => exact answered_flushCanonical sound there consoleNumber
      | flushOutput u consoles consoleNumber =>
          exact answered_flushOutput sound there consoles consoleNumber
      | flushToSerial u portNumber => exact answered_flushToSerial sound there portNumber
      | flushToStdin u => exact answered_flushToStdin sound there
      | flushEx u consoles => exact answered_flushEx sound there consoles
      | setOutputWorker u workerNumber => exact answered_setOutputWorker sound there workerNumber
      | sets u options termios => exact answered_sets sound there options termios

end Terminals

/-- The terminals as they are created, each with the one it is linked to. -/
def created (links : Nat → Option (Option Nat)) : Ttys :=
  fun u => (links u).map ttyCreate

/-- After every call so far, the terminal `t` has handed out what its history says. -/
def KeptInOrder (t : Nat) (ttys : Ttys) (requests : List Request) : Prop :=
  ∀ early, early <+: requests → ∃ outs traffic ttys',
    run (observe (note t) serve) (Traffic.none, ttys) early = .ok (outs, (traffic, ttys')) ∧
      AllSound ttys' ∧ OrderlyAt t traffic ttys'

/-- Every call meets its condition in the state that it finds. -/
def AllInTurn (t : Nat) (ttys : Ttys) (requests : List Request) : Prop :=
  Guarded (observe (note t) serve) (fun seen request => InTurn t seen.1 seen.2 request)
    (Traffic.none, ttys) requests

section Runs

variable {links : Nat → Option (Option Nat)}

theorem created_sound : AllSound (created links) := by
  intro u tty there
  rcases Option.map_eq_some_iff.mp there with ⟨link, -, rfl⟩
  exact ⟨rfl, ⟨[], newQueue_holds⟩, ⟨[], newQueue_holds⟩, ⟨[], newQueue_holds⟩⟩

theorem created_orderly (t : Nat) : OrderlyAt t Traffic.none (created links) := by
  intro tty there
  rcases Option.map_eq_some_iff.mp there with ⟨link, -, rfl⟩
  exact ⟨⟨⟨[], rfl, newQueue_holds⟩, ⟨[], rfl, by simp, newQueue_holds⟩⟩,
    ⟨[], rfl, newQueue_holds⟩⟩

/-- From any created terminals, every run of calls is served, and the counter and
    offsets of every queue are right throughout. For each terminal, what its
    queues hand out is in order as long as every call is in turn, and where the
    writes to the input come one byte at a time, only then. -/
theorem queues_in_order (links : Nat → Option (Option Nat)) (t : Nat) (requests : List Request) :
    (∀ early, early <+: requests → ∃ outs ttys, run serve (created links) early = .ok (outs, ttys) ∧
      ∀ u tty, ttys u = some tty →
        Counted tty.rawQueue ∧ Counted tty.canonicalQueue ∧ Counted tty.outputQueue) ∧
    (AllInTurn t (created links) requests → KeptInOrder t (created links) requests) ∧
    ((∀ request ∈ requests, Bytewise request) →
      KeptInOrder t (created links) requests → AllInTurn t (created links) requests) := by
  have start : AllSound (created links) ∧ OrderlyAt t Traffic.none (created links) :=
    ⟨created_sound, created_orderly t⟩
  refine ⟨?_, ?_, ?_⟩
  · intro early _
    have move : ∀ ttys request, AllSound ttys → True →
        ∃ reply ttys', serve ttys request = .ok (reply, ttys') ∧ AllSound ttys' := by
      intro ttys request sound _
      rcases answered sound t request with ⟨reply, ttys', served, after, -⟩
      exact ⟨reply, ttys', served, after⟩
    rcases run_served move created_sound
        (guarded_of_always (fun _ _ => trivial) (created links) early) with
      ⟨outs, ttys, served, sound⟩
    refine ⟨outs, ttys, served, fun u tty there => ?_⟩
    rcases sound u tty there with ⟨-, ⟨_, raw⟩, ⟨_, canonical⟩, ⟨_, output⟩⟩
    exact ⟨raw.counted, canonical.counted, output.counted⟩
  · intro turns
    have move : ∀ traffic ttys request, AllSound ttys ∧ OrderlyAt t traffic ttys →
        InTurn t traffic ttys request → ∃ reply ttys', serve ttys request = .ok (reply, ttys') ∧
          AllSound ttys' ∧ OrderlyAt t (note t traffic ttys request (reply, ttys')) ttys' := by
      rintro traffic ttys request ⟨sound, order⟩ turn
      rcases answered sound t request with ⟨reply, ttys', served, after, exact⟩
      exact ⟨reply, ttys', served, after, (exact traffic order).1 turn⟩
    exact observed_prefixes move start turns
  · intro few kept
    -- The converse takes the same step: of a request of single bytes the lemma says both
    -- directions.
    have back : ∀ traffic ttys request, request ∈ requests →
        AllSound ttys ∧ OrderlyAt t traffic ttys →
        (∃ reply ttys', serve ttys request = .ok (reply, ttys') ∧
          AllSound ttys' ∧ OrderlyAt t (note t traffic ttys request (reply, ttys')) ttys') →
        InTurn t traffic ttys request := by
      rintro traffic ttys request inside ⟨sound, order⟩ ⟨reply, ttys', served, -, after⟩
      rcases answered sound t request with ⟨reply₁, ttys₁, served₁, -, exact⟩
      rw [served] at served₁
      cases served₁
      exact (exact traffic order).2 (few request inside) after
    exact observed_guarded back start kept

/-- A canonical read of a fresh terminal hands out the `a` of a line that no
    newline has ended. -/
theorem unfinished_line_is_read :
    ¬KeptInOrder 0 (created fun u => if u = 0 then some none else none)
      [.write3 0 ⟨0, fun _ => 1000⟩ (some fun _ => 97) 1, .read3 0 true 1] := by
  intro kept
  rcases kept _ (List.prefix_refl _) with ⟨outs, traffic, ttys, served, -, order⟩
  have read : (run (observe (note 0) serve)
      (Traffic.none, created fun u => if u = 0 then some none else none)
      [.write3 0 ⟨0, fun _ => 1000⟩ (some fun _ => 97) 1, .read3 0 true 1]).toOption.map
        (fun out => (out.2.1.inputs.canonical.closed, out.2.1.inputs.canonical.taken,
          (out.2.2 0).isSome)) = some ([], [97], true) := by
    decide +kernel
  rw [served] at read
  simp only [Except.toOption, Option.map_some, Option.some.injEq, Prod.mk.injEq] at read
  rcases Option.isSome_iff_exists.mp read.2.2 with ⟨tty, there⟩
  rcases (order tty there).inputs.canonical with ⟨ready, conserved, -, -⟩
  rw [read.1, read.2.1] at conserved
  cases conserved

end Runs

end Gramado.Chardev.TtyRuns
