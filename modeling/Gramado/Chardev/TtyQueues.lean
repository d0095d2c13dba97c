/-
The queues of a terminal over whole runs: writes, reads and flushes of any
terminals, with changes of the mode between them. What was read or flushed and
then what lies in a queue is what the writes reported as written. Canonical
mode has no mark for where the unfinished line starts, so that a read takes
bytes of it, and an erase character takes the newline before it.
-/
import Gramado.Chardev.Tty
import Gramado.Lib.Machine
import Gramado.Lib.Ring

namespace Gramado.Chardev.TtyQueues

open Gramado.Lib
open Gramado.Lib.Machine

/-- What is promised of the counter and the offsets of a queue. -/
structure Counted (q : TtyQueue) : Prop where
  nonneg : 0 ≤ q.cnt
  below : q.cnt < q.bufferSize
  difference : q.cnt = ((q.head : Int) - q.tail) % q.bufferSize

/-- The bytes that wait lie in the buffer from the tail on, and one place stays free. -/
structure Holds (q : TtyQueue) (waiting : List UInt8) : Prop where
  size : q.bufferSize = 1024
  count : q.cnt = waiting.length
  short : waiting.length < 1024
  lies : Ring.Lies 1024 (fun k c => q.buf k = c) q.tail q.head waiting

section Queue

variable {q : TtyQueue} {c : UInt8} {waiting rest front : List UInt8}

theorem Holds.counted (holds : Holds q waiting) : Counted q := by
  have size := holds.size
  have count := holds.count
  have short := holds.short
  have first := holds.lies.head_lt
  have last := holds.lies.tail_at
  rw [Ring.place] at last
  constructor
  · omega
  · omega
  · rw [size, count, last]
    omega

theorem newQueue_holds : Holds newQueue [] :=
  ⟨rfl, rfl, by decide, Ring.Lies.empty (by decide)⟩

theorem Holds.empty_iff (holds : Holds q waiting) : q.head = q.tail ↔ waiting = [] :=
  holds.lies.tail_eq_head_iff holds.short

theorem Holds.advance (holds : Holds q waiting) {k : Nat} (inside : k < 1024) :
    (k + 1) % q.bufferSize = Ring.next 1024 k := by
  rw [holds.size, Ring.next_eq_mod inside]

theorem Holds.unique {other : List UInt8} (holds : Holds q waiting) (also : Holds q other) :
    waiting = other := by
  have lengths := holds.count.symm.trans also.count
  apply List.ext_getElem (by omega)
  intro k inside inside'
  have here := holds.lies.cells k _ (List.getElem?_eq_getElem inside)
  have there := also.lies.cells k _ (List.getElem?_eq_getElem inside')
  exact here.symm.trans there

theorem getchar_empty (holds : Holds q []) : ttyQueueGetchar q = (none, q) := by
  rw [ttyQueueGetchar, if_pos (holds.empty_iff.mpr rfl)]

theorem getchar_byte (holds : Holds q (c :: rest)) :
    ∃ q', ttyQueueGetchar q = (some c, q') ∧ Holds q' rest := by
  have busy : q.head ≠ q.tail := fun same => List.cons_ne_nil c rest (holds.empty_iff.mp same)
  have first := holds.lies.cells 0 c rfl
  rw [Ring.place_zero holds.lies.head_lt] at first
  have count := holds.count
  have short := holds.short
  rw [List.length_cons] at count short
  rw [ttyQueueGetchar, if_neg busy, first]
  refine ⟨_, rfl, holds.size, ?_, Nat.lt_of_succ_lt short, ?_⟩
  · simp only [count]
    omega
  · rw [holds.advance holds.lies.head_lt]
    exact holds.lies.pop fun _ _ _ stored => stored

theorem putchar_room (holds : Holds q waiting) (room : waiting.length < 1023) (c : UInt8) :
    ∃ q', ttyQueuePutchar q c = (true, q') ∧ Holds q' (waiting ++ [c]) := by
  have advance := holds.advance holds.lies.tail_lt
  have free : ¬Ring.next 1024 q.head = q.tail := by
    rw [holds.lies.next_tail_eq_head_iff holds.short]
    omega
  simp only [ttyQueuePutchar, advance, if_neg free]
  refine ⟨_, rfl, holds.size, ?_, ?_, ?_⟩
  · simp [holds.count]
  · simp only [List.length_append, List.length_singleton]
    omega
  · apply holds.lies.push holds.short
    · simp
    · intro k x apart stored
      simp only [if_neg apart]
      exact stored

theorem putchar_full (holds : Holds q waiting) (full : ¬waiting.length < 1023) (c : UInt8) :
    ttyQueuePutchar q c = (false, q) := by
  have short := holds.short
  have advance := holds.advance holds.lies.tail_lt
  have meets : Ring.next 1024 q.head = q.tail := by
    rw [holds.lies.next_tail_eq_head_iff short]
    omega
  simp only [ttyQueuePutchar, advance, if_pos meets]

theorem eraseLast_empty (holds : Holds q []) : eraseLast q = q := by
  have count := holds.count
  rw [eraseLast, if_neg (by simp [count])]

theorem eraseLast_byte (holds : Holds q (front ++ [c])) : Holds (eraseLast q) front := by
  have count := holds.count
  have short := holds.short
  have inside := holds.lies.tail_lt
  have lies := holds.lies.retract
  rw [List.length_append, List.length_singleton] at count short
  have back : (q.head + (2 ^ 64 - 1) + q.bufferSize) % 2 ^ 64 % q.bufferSize =
      (q.head + (1024 - 1)) % 1024 := by
    rw [holds.size]
    omega
  rw [eraseLast, if_pos (by omega)]
  refine ⟨holds.size, ?_, by omega, ?_⟩
  · simp only [count]
    omega
  · rw [back]
    exact lies

theorem flushLoop_all (function : String) {passes : Nat} (enough : waiting.length < passes)
    (holds : Holds q waiting) :
    ∃ q', flushLoop function passes q = .ok (waiting, q') ∧ Holds q' [] := by
  induction waiting generalizing q passes with
  | nil =>
      cases passes with
      | zero => cases enough
      | succ passes =>
          have done : ¬q.tail ≠ q.head := fun busy => busy (holds.empty_iff.mpr rfl).symm
          refine ⟨q, ?_, holds⟩
          rw [flushLoop, if_neg done]
  | cons c rest ih =>
      cases passes with
      | zero => cases enough
      | succ passes =>
          rcases getchar_byte holds with ⟨q₁, got, next⟩
          have busy : q.head ≠ q.tail :=
            fun same => List.cons_ne_nil c rest (holds.empty_iff.mp same)
          have positive : q.cnt > 0 := by
            rw [holds.count, List.length_cons]
            omega
          -- A pass does what a get of the byte does.
          rw [ttyQueueGetchar, if_neg busy] at got
          cases got
          rcases ih (Nat.lt_of_succ_lt_succ enough) next with ⟨q', flushed, empty⟩
          refine ⟨q', ?_, empty⟩
          simp only [flushLoop, if_pos busy.symm, if_pos positive, flushed]
          rfl

theorem readQueue_take (n : Nat) (holds : Holds q waiting) :
    (readQueue n q).1 = waiting.take n ∧ Holds (readQueue n q).2 (waiting.drop n) := by
  induction n generalizing q waiting with
  | zero => exact ⟨rfl, holds⟩
  | succ n ih =>
      cases waiting with
      | nil =>
          rw [readQueue, getchar_empty holds]
          exact ⟨rfl, holds⟩
      | cons c rest =>
          rcases getchar_byte holds with ⟨q', got, next⟩
          rw [readQueue, got]
          rcases ih next with ⟨bytes, after⟩
          refine ⟨?_, after⟩
          simp only [bytes]
          rfl

/-- The first `n` bytes, up to the end of a line. -/
def lineOf : Nat → List UInt8 → List UInt8
  | 0, _ => []
  | _ + 1, [] => []
  | n + 1, c :: rest => if c = newline then [c] else c :: lineOf n rest

theorem readLine_lineOf (n : Nat) (holds : Holds q waiting) :
    (readLine n q).1 = lineOf n waiting ∧
      Holds (readLine n q).2 (waiting.drop (lineOf n waiting).length) := by
  induction n generalizing q waiting with
  | zero => exact ⟨rfl, holds⟩
  | succ n ih =>
      cases waiting with
      | nil =>
          rw [readLine, getchar_empty holds]
          exact ⟨rfl, holds⟩
      | cons c rest =>
          rcases getchar_byte holds with ⟨q', got, next⟩
          rw [readLine, got]
          by_cases ends : c = newline
          · simp only [lineOf, if_pos ends]
            exact ⟨trivial, next⟩
          · rcases ih next with ⟨bytes, after⟩
            simp only [lineOf, if_neg ends, bytes]
            exact ⟨trivial, after⟩

theorem lineOf_front (n : Nat) : lineOf n waiting <+: waiting := by
  induction n generalizing waiting with
  | zero => exact List.nil_prefix
  | succ n ih =>
      cases waiting with
      | nil => exact List.nil_prefix
      | cons c rest =>
          rw [lineOf]
          split
          · exact ⟨rest, rfl⟩
          · exact List.cons_prefix_cons.mpr ⟨rfl, ih⟩

theorem lineOf_within (n : Nat) {ready : List UInt8} (line : List UInt8)
    (ended : ready.getLast? = some newline) :
    (lineOf n (ready ++ line)).length ≤ ready.length := by
  induction n generalizing ready with
  | zero => exact Nat.zero_le _
  | succ n ih =>
      cases ready with
      | nil => cases ended
      | cons c rest =>
          rw [List.cons_append, lineOf]
          split
          · exact Nat.succ_le_succ (Nat.zero_le _)
          · rename_i more
            cases rest with
            | nil => exact absurd (Option.some.inj ended) more
            | cons d rest => exact Nat.succ_le_succ (ih ended)

theorem lineOf_ne_nil {n : Nat} (positive : 0 < n) (some_left : waiting ≠ []) :
    lineOf n waiting ≠ [] := by
  cases n with
  | zero => cases positive
  | succ n =>
      cases waiting with
      | nil => exact absurd rfl some_left
      | cons c rest =>
          rw [lineOf]
          split
          · exact List.cons_ne_nil _ _
          · exact List.cons_ne_nil _ _

theorem writeQueue_le (bytes : List UInt8) : (writeQueue bytes q).1 ≤ bytes.length := by
  induction bytes generalizing q with
  | nil => exact Nat.le_refl 0
  | cons c rest ih =>
      rw [writeQueue]
      split
      · exact Nat.zero_le _
      · exact Nat.succ_le_succ ih

theorem writeQueue_append (bytes : List UInt8) (holds : Holds q waiting) :
    Holds (writeQueue bytes q).2 (waiting ++ bytes.take (writeQueue bytes q).1) := by
  induction bytes generalizing q waiting with
  | nil => simpa [writeQueue] using holds
  | cons c rest ih =>
      by_cases room : waiting.length < 1023
      · rcases putchar_room holds room c with ⟨q', put, next⟩
        rw [writeQueue, put]
        have later := ih next
        rw [List.append_assoc] at later
        exact later
      · rw [writeQueue, putchar_full holds room]
        simpa using holds

end Queue

/-- The bytes reported as written to a queue, and those handed out from it. -/
structure Stream where
  written : List UInt8
  taken : List UInt8

def Stream.take (stream : Stream) (bytes : List UInt8) : Stream :=
  { stream with taken := stream.taken ++ bytes }

/-- The input in canonical mode: what can no longer be edited, the unfinished
    line, and what was handed out. -/
structure Lines where
  closed : List UInt8
  line : List UInt8
  taken : List UInt8

def Lines.add (termios : Termios) (lines : Lines) (c : UInt8) : Lines :=
  if c = newline then
    { lines with closed := lines.closed ++ (lines.line ++ [c]), line := [] }
  else if termios.erases c then
    { lines with line := lines.line.dropLast }
  else
    { lines with line := lines.line ++ [c] }

def Lines.take (lines : Lines) (bytes : List UInt8) : Lines :=
  { lines with taken := lines.taken ++ bytes }

/-- A flush hands out the unfinished line too, which nothing can edit from then on. -/
def Lines.flush (lines : Lines) (bytes : List UInt8) : Lines :=
  if bytes = [] then
    lines
  else
    ⟨lines.closed ++ lines.line, [], lines.taken ++ bytes⟩

structure Inputs where
  raw : Stream
  canonical : Lines

/-- A byte that `__tty_write3` reports as written, in the mode that is set. -/
def Inputs.add (termios : Termios) (inputs : Inputs) (c : UInt8) : Inputs :=
  if termios.canonical then
    { inputs with canonical := inputs.canonical.add termios c }
  else
    { inputs with raw := { inputs.raw with written := inputs.raw.written ++ [c] } }

/-- The history of one terminal. -/
structure Traffic where
  inputs : Inputs
  output : Stream

def Traffic.none : Traffic :=
  ⟨⟨⟨[], []⟩, ⟨[], [], []⟩⟩, ⟨[], []⟩⟩

def bytesIn (deliveries : List Delivery) : List UInt8 :=
  deliveries.flatMap Delivery.bytes

/-- The queue holds what was written and not yet taken. -/
def InOrder (stream : Stream) (q : TtyQueue) : Prop :=
  ∃ waiting, stream.written = stream.taken ++ waiting ∧ Holds q waiting

/-- Only bytes of finished lines were taken. The rest of them waits, and then the
    unfinished line. -/
def LinesInOrder (lines : Lines) (q : TtyQueue) : Prop :=
  ∃ ready, lines.closed = lines.taken ++ ready ∧ (∀ c ∈ ready.getLast?, c = newline) ∧
    Holds q (ready ++ lines.line)

structure InputsInOrder (inputs : Inputs) (tty : Tty) : Prop where
  raw : InOrder inputs.raw tty.rawQueue
  canonical : LinesInOrder inputs.canonical tty.canonicalQueue

structure Orderly (traffic : Traffic) (tty : Tty) : Prop where
  inputs : InputsInOrder traffic.inputs tty
  output : InOrder traffic.output tty.outputQueue

/-- A byte for the input finds room in the queue of its mode, and an erase
    character finds an unfinished line or nothing at all. -/
def ByteInTurn (termios : Termios) (inputs : Inputs) (c : UInt8) : Prop :=
  if termios.canonical then
    if c ≠ newline ∧ termios.erases c then
      inputs.canonical.line ≠ [] ∨
        inputs.canonical.closed.length = inputs.canonical.taken.length
    else
      inputs.canonical.closed.length + inputs.canonical.line.length <
        inputs.canonical.taken.length + 1023
  else
    inputs.raw.written.length < inputs.raw.taken.length + 1023

/-- Every byte of a write does, with those before it written. -/
def BytesInTurn (termios : Termios) : Inputs → List UInt8 → Prop
  | _, [] => True
  | inputs, c :: rest =>
      ByteInTurn termios inputs c ∧ BytesInTurn termios (inputs.add termios c) rest

section Input

variable {q : TtyQueue} {stream : Stream} {lines : Lines} {inputs : Inputs} {tty : Tty}
  {termios : Termios} {c : UInt8} {waiting : List UInt8}

theorem InOrder.count (order : InOrder stream q) :
    q.cnt + stream.taken.length = stream.written.length := by
  rcases order with ⟨waiting, conserved, holds⟩
  rw [conserved, holds.count, List.length_append]
  omega

theorem LinesInOrder.count (order : LinesInOrder lines q) :
    q.cnt + lines.taken.length = lines.closed.length + lines.line.length := by
  rcases order with ⟨ready, conserved, -, holds⟩
  rw [conserved, holds.count, List.length_append, List.length_append]
  omega

theorem InOrder.take (bytes : List UInt8)
    (conserved : stream.written = stream.taken ++ (bytes ++ waiting)) (holds : Holds q waiting) :
    InOrder (stream.take bytes) q := by
  refine ⟨waiting, ?_, holds⟩
  rw [Stream.take, conserved, List.append_assoc]

theorem put_inOrder (order : InOrder stream q) :
    InOrder { stream with written := stream.written ++ [c] } (ttyQueuePutchar q c).2 ↔
      stream.written.length < stream.taken.length + 1023 := by
  have count := order.count
  rcases order with ⟨waiting, conserved, holds⟩
  have length := holds.count
  constructor
  · intro after
    by_contra full
    have kept := putchar_full holds (by omega) c
    rw [kept] at after
    have more : q.cnt + stream.taken.length = (stream.written ++ [c]).length := after.count
    rw [List.length_append, List.length_singleton] at more
    omega
  · intro room
    rcases putchar_room holds (by omega) c with ⟨q', put, next⟩
    rw [put]
    exact ⟨waiting ++ [c], by rw [conserved, List.append_assoc], next⟩

theorem add_newline : lines.add termios newline =
    { lines with closed := lines.closed ++ (lines.line ++ [newline]), line := [] } := by
  rw [Lines.add, if_pos rfl]

theorem add_erase (other : c ≠ newline) (erases : termios.erases c = true) :
    lines.add termios c = { lines with line := lines.line.dropLast } := by
  rw [Lines.add, if_neg other, if_pos erases]

theorem add_byte (other : c ≠ newline) (stays : ¬termios.erases c = true) :
    lines.add termios c = { lines with line := lines.line ++ [c] } := by
  rw [Lines.add, if_neg other, if_neg stays]

/-- A byte that is put into the canonical queue, and ends the line or not. -/
theorem put_linesInOrder (order : LinesInOrder lines q)
    (stays : ¬(c ≠ newline ∧ termios.erases c = true)) :
    LinesInOrder (lines.add termios c) (ttyQueuePutchar q c).2 ↔
      lines.closed.length + lines.line.length < lines.taken.length + 1023 := by
  have count := order.count
  rcases order with ⟨ready, conserved, ended, holds⟩
  have length := holds.count
  constructor
  · intro after
    by_contra full
    have kept := putchar_full holds (by omega) c
    rw [kept] at after
    have more := after.count
    by_cases ends : c = newline
    · subst ends
      rw [add_newline] at more
      simp only [List.length_append, List.length_cons, List.length_nil] at more
      omega
    · rw [add_byte ends (fun erases => stays ⟨ends, erases⟩)] at more
      simp only [List.length_append, List.length_cons, List.length_nil] at more
      omega
  · intro room
    rcases putchar_room holds (by omega) c with ⟨q', put, next⟩
    rw [put]
    rw [List.append_assoc] at next
    by_cases ends : c = newline
    · subst ends
      rw [add_newline]
      refine ⟨ready ++ (lines.line ++ [newline]), ?_, ?_, ?_⟩
      · simp only [conserved, List.append_assoc]
      · rw [← List.append_assoc, List.getLast?_concat]
        rintro c ⟨⟩
        rfl
      · simpa using next
    · rw [add_byte ends (fun erases => stays ⟨ends, erases⟩)]
      exact ⟨ready, conserved, ended, next⟩

/-- The erase character takes the last byte that waits, whatever line it is of. -/
theorem erase_linesInOrder (order : LinesInOrder lines q) (other : c ≠ newline)
    (erases : termios.erases c = true) :
    LinesInOrder (lines.add termios c) (eraseLast q) ↔
      lines.line ≠ [] ∨ lines.closed.length = lines.taken.length := by
  rw [add_erase other erases]
  have count := order.count
  rcases order with ⟨ready, conserved, ended, holds⟩
  have parts : lines.closed.length = lines.taken.length + ready.length := by
    rw [conserved, List.length_append]
  rcases List.eq_nil_or_concat' lines.line with none | ⟨front, last, line⟩
  · rw [none, List.append_nil] at holds
    rw [none] at count
    rcases List.eq_nil_or_concat' ready with rfl | ⟨before, last, rfl⟩
    · have nothing : lines.closed.length = lines.taken.length := parts
      rw [eraseLast_empty holds]
      refine iff_of_true ⟨[], conserved, ended, ?_⟩ (.inr nothing)
      simpa [none] using holds
    · -- The newline of a finished line is lost.
      refine iff_of_false ?_ ?_
      · intro after
        have fewer := after.count
        have erased := (eraseLast_byte holds).count
        simp only [none, List.dropLast_nil, List.length_nil] at fewer count
        rw [List.length_append, List.length_singleton] at parts
        omega
      · rintro (some | nothing)
        · exact some none
        · rw [List.length_append, List.length_singleton] at parts
          omega
  · rw [line, ← List.append_assoc] at holds
    have some : lines.line ≠ [] := by simp [line]
    refine iff_of_true ⟨ready, conserved, ended, ?_⟩ (.inl some)
    rw [line, List.dropLast_concat]
    exact eraseLast_byte holds

theorem inputByte_inOrder (order : InputsInOrder inputs tty) :
    InputsInOrder (inputs.add tty.termios c) (inputByte tty c) ↔
      ByteInTurn tty.termios inputs c := by
  rcases order with ⟨raw, canonical⟩
  unfold Inputs.add inputByte ByteInTurn
  by_cases mode : tty.termios.canonical = true
  · rw [if_pos mode, if_pos mode, if_pos mode]
    have only : ∀ {lines q}, InputsInOrder { inputs with canonical := lines }
        { tty with canonicalQueue := q } ↔ LinesInOrder lines q :=
      fun {lines q} => ⟨fun both => both.canonical, fun order => ⟨raw, order⟩⟩
    by_cases ends : c = newline
    · subst ends
      rw [if_pos rfl, if_neg (fun both => both.1 rfl), only]
      exact put_linesInOrder canonical fun both => both.1 rfl
    · rw [if_neg ends]
      by_cases erases : tty.termios.erases c = true
      · rw [if_pos erases, if_pos ⟨ends, erases⟩, only]
        exact erase_linesInOrder canonical ends erases
      · have stays : ¬(c ≠ newline ∧ tty.termios.erases c = true) :=
          fun both => erases both.2
        rw [if_neg erases, if_neg stays, only]
        exact put_linesInOrder canonical stays
  · rw [if_neg mode, if_neg mode, if_neg mode]
    have only : ∀ {stream q}, InputsInOrder { inputs with raw := stream }
        { tty with rawQueue := q } ↔ InOrder stream q :=
      fun {stream q} => ⟨fun both => both.raw, fun order => ⟨order, canonical⟩⟩
    rw [only]
    exact put_inOrder raw

theorem readLine_inOrder (order : LinesInOrder lines q) {n : Nat} (positive : 0 < n) :
    LinesInOrder (lines.take (readLine n q).1) (readLine n q).2 ↔
      lines.taken.length < lines.closed.length ∨ lines.line = [] := by
  rcases order with ⟨ready, conserved, ended, holds⟩
  rcases readLine_lineOf n holds with ⟨bytes, after⟩
  have parts : lines.closed.length = lines.taken.length + ready.length := by
    rw [conserved, List.length_append]
  rw [bytes]
  cases last : ready.getLast? with
  | none =>
      have empty : ready = [] := List.getLast?_eq_none_iff.mp last
      subst empty
      rw [List.nil_append] at after ⊢
      -- No line is closed: what is read is the front of the one that is still open.
      by_cases blank : lines.line = []
      · rw [blank] at after ⊢
        refine iff_of_true ⟨[], ?_, by simp, ?_⟩ (.inr rfl)
        · have nothing : lineOf n [] = [] := List.prefix_nil.mp (lineOf_front n)
          rw [nothing, Lines.take, List.append_nil]
          exact conserved
        · rw [List.drop_nil] at after
          simpa [Lines.take, blank] using after
      · refine iff_of_false ?_ ?_
        · rintro ⟨later, past, -, -⟩
          rw [Lines.take, conserved, List.append_nil, List.append_assoc] at past
          have none : lineOf n lines.line ++ later = [] := by simpa using past
          exact lineOf_ne_nil positive blank (List.append_eq_nil_iff.mp none).1
        · rintro (more | none)
          · simp only [List.length_nil] at parts
            omega
          · exact blank none
  | some c =>
      have ends := ended c last
      subst ends
      -- The first newline ends the read, before the open line.
      have within := lineOf_within n lines.line last
      have start : lineOf n (ready ++ lines.line) <+: ready ++ lines.line := lineOf_front n
      have some : ready ≠ [] := by
        rintro rfl
        cases last
      have more : lines.taken.length < lines.closed.length := by
        have := List.length_pos_of_ne_nil some
        omega
      have taken : lineOf n (ready ++ lines.line) =
          ready.take (lineOf n (ready ++ lines.line)).length := by
        rw [List.prefix_iff_eq_take.mp start, List.take_append_of_le_length]
        · simp
        · simpa using within
      generalize lineOf n (ready ++ lines.line) = got at *
      rw [List.drop_append_of_le_length within] at after
      refine iff_of_true ⟨ready.drop got.length, ?_, ?_, after⟩ (.inl more)
      · rw [Lines.take, conserved, List.append_assoc]
        congr 1
        conv_lhs => rw [← List.take_append_drop got.length ready, ← taken]
      · intro c member
        rw [List.getLast?_drop] at member
        split at member
        · cases member
        · exact ended c member

theorem readQueue_inOrder (n : Nat) (order : InOrder stream q) :
    InOrder (stream.take (readQueue n q).1) (readQueue n q).2 := by
  rcases order with ⟨waiting, conserved, holds⟩
  rcases readQueue_take n holds with ⟨bytes, after⟩
  apply InOrder.take _ _ after
  rw [bytes, List.take_append_drop]
  exact conserved

theorem writeQueue_inOrder (bytes : List UInt8) (order : InOrder stream q) :
    InOrder { stream with
      written := stream.written ++ bytes.take (writeQueue bytes q).1 } (writeQueue bytes q).2 := by
  rcases order with ⟨waiting, conserved, holds⟩
  exact ⟨_, by rw [conserved, List.append_assoc], writeQueue_append bytes holds⟩

/-- Where the queue is left empty, all that was waiting was handed out. -/
theorem drain_inOrder (order : InOrder stream q) (held : Holds q waiting) {q' : TtyQueue}
    (empty : Holds q' []) : InOrder (stream.take waiting) q' := by
  rcases order with ⟨all, conserved, holds⟩
  rw [holds.unique held] at conserved
  exact InOrder.take waiting (by simpa using conserved) empty

theorem flush_linesInOrder (order : LinesInOrder lines q) (held : Holds q waiting)
    {q' : TtyQueue} (empty : Holds q' []) : LinesInOrder (lines.flush waiting) q' := by
  rcases order with ⟨ready, conserved, ended, holds⟩
  have same := holds.unique held
  subst same
  rw [Lines.flush]
  split
  · rename_i nothing
    rcases List.append_eq_nil_iff.mp nothing with ⟨rfl, blank⟩
    exact ⟨[], conserved, ended, by simpa [blank] using empty⟩
  · refine ⟨[], ?_, by simp, empty⟩
    simp only [conserved, List.append_assoc, List.append_nil]

end Input

end Gramado.Chardev.TtyQueues
