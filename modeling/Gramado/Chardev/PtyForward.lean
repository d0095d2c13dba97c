/-
The output of a pty master on its way to the slave. The copy takes over all the bytes of
the buffer, whichever of them are pending, and moves no offset of either queue: it hands
nothing on, and what is pending in the slave is overwritten.
-/
import Gramado.Chardev.TtyRuns

namespace Gramado.Chardev.PtyForward

open Gramado.Lib
open Gramado.Chardev.TtyQueues
open Gramado.Chardev.TtyRuns

/-- A pty master whose output goes to the slave that it is linked to. -/
structure Linked (ttys : Ttys) (u v : Nat) (master slave : Tty) : Prop where
  there : ttys.valid u = some master
  worker : master.outputWorkerNumber = TTY_OUTPUT_WORKER_PTYSLAVE
  link : master.link = some v
  behind : ttys.valid v = some slave

/-- These bytes are pending in the output queue of the terminal. -/
def Pending (ttys : Ttys) (u : Nat) (bytes : List UInt8) : Prop :=
  ∃ tty, ttys.valid u = some tty ∧ Holds tty.outputQueue bytes

/-- A front of the bytes that are pending in the master is handed on behind those in the
    slave, all of them unless the slave is full then, and can be read from there. -/
structure Handed (after : Ttys) (u v : Nat) (sent waiting moved rest : List UInt8) : Prop where
  split : sent = moved ++ rest
  master : Pending after u rest
  slave : Pending after v (waiting ++ moved)
  full : rest ≠ [] → (waiting ++ moved).length = 1023
  readable : ∀ nr : Int32, 0 < nr →
    (ttyRead2 after v true nr).2.1 = (waiting ++ moved).take nr.toNatClampNeg

def Forwards (ttys : Ttys) (u v : Nat) (consoles : Consoles) (sent waiting : List UInt8) : Prop :=
  ∃ after moved rest, ttyFlushOutputQueueEx ttys u consoles = .ok ([], after) ∧
    Handed after u v sent waiting moved rest

/-- In every place where a byte is pending in the one queue, the other has it too. -/
def Agrees (queueFrom queueTo : TtyQueue) (waiting : List UInt8) : Prop :=
  ∀ k c, waiting[k]? = some c → queueFrom.buf (Ring.place 1024 queueTo.tail k) = c

section Copy

variable {q queueFrom : TtyQueue} {waiting bytes : List UInt8}

theorem copyBuffer_self : copyBuffer q q = q := by
  simp [copyBuffer]

theorem copyBuffer_length (holds : Holds q waiting)
    (after : Holds (copyBuffer q queueFrom) bytes) : bytes.length = waiting.length := by
  have before : q.cnt = waiting.length := holds.count
  have copied : q.cnt = bytes.length := after.count
  omega

end Copy

section Flush

variable {ttys : Ttys} {u v : Nat} {master slave : Tty} {consoles : Consoles}
  {sent waiting moved rest : List UInt8}

def copied (ttys : Ttys) (v : Nat) (master slave : Tty) : Ttys :=
  ttys.set v { slave with outputQueue := copyBuffer slave.outputQueue master.outputQueue }

theorem flush_linked (linked : Linked ttys u v master slave) :
    ttyFlushOutputQueueEx ttys u consoles = .ok ([], copied ttys v master slave) := by
  have screen : ¬TTY_OUTPUT_WORKER_PTYSLAVE = TTY_OUTPUT_WORKER_FGCONSOLE := by decide
  have stdin : ¬TTY_OUTPUT_WORKER_PTYSLAVE = TTY_OUTPUT_WORKER_STDIN := by decide
  have serial : ¬TTY_OUTPUT_WORKER_PTYSLAVE = TTY_OUTPUT_WORKER_SERIALPORT := by decide
  simp only [ttyFlushOutputQueueEx, linked.there, linked.worker, if_neg screen, if_neg stdin,
    if_neg serial, if_true, linked.link, ttyCopyOutputBuffer, linked.behind]
  rfl

theorem valid_magic {tty : Tty} (there : ttys.valid u = some tty) : tty.magic = TTY_MAGIC := by
  obtain ⟨-, magic⟩ := Option.filter_eq_some_iff.mp there
  simpa using magic

theorem copied_slave (linked : Linked ttys u v master slave) :
    (copied ttys v master slave).valid v =
      some { slave with outputQueue := copyBuffer slave.outputQueue master.outputQueue } := by
  have magic := valid_magic linked.behind
  simp [copied, Ttys.valid, Ttys.set, magic]

theorem copied_master (linked : Linked ttys u v master slave) :
    (copied ttys v master slave).valid u = some master := by
  by_cases own : u = v
  · subst own
    have same : master = slave := Option.some.inj (linked.there.symm.trans linked.behind)
    rw [copied_slave linked, same, copyBuffer_self]
  · rw [copied, Ttys.valid, Ttys.set, if_neg own]
    exact linked.there

theorem Pending.holds {tty : Tty} {bytes : List UInt8} (pending : Pending ttys u bytes)
    (there : ttys.valid u = some tty) : Holds tty.outputQueue bytes := by
  obtain ⟨other, found, holds⟩ := pending
  rw [there] at found
  cases found
  exact holds

theorem Pending.readable {bytes : List UInt8} (pending : Pending ttys v bytes) (nr : Int32)
    (positive : 0 < nr) : (ttyRead2 ttys v true nr).2.1 = bytes.take nr.toNatClampNeg := by
  obtain ⟨tty, there, holds⟩ := pending
  have asked : ¬(true = false ∨ nr ≤ 0) := by
    rintro (same | none)
    · cases same
    · exact absurd positive (Int32.not_lt.mpr none)
  rw [ttyRead2, there]
  simp only [if_neg asked]
  exact (readQueue_take nr.toNatClampNeg holds).1

theorem handed_nothing (linked : Linked ttys u v master slave)
    (pending : Holds slave.outputQueue waiting)
    (handed : Handed (copied ttys v master slave) u v sent waiting moved rest) : moved = [] := by
  have after := handed.slave.holds (copied_slave linked)
  have same := copyBuffer_length pending after
  rw [List.length_append] at same
  exact List.eq_nil_of_length_eq_zero (by omega)

end Flush

/-- A flush to the slave hands on what is pending if and only if nothing has to be handed on
    (nothing is pending in the master, or the slave is full), and the buffer of the master
    happens to have each byte that is pending in the slave in its place. -/
theorem forwards_iff {ttys : Ttys} {u v : Nat} {master slave : Tty} {sent waiting : List UInt8}
    (linked : Linked ttys u v master slave) (source : Holds master.outputQueue sent)
    (target : Holds slave.outputQueue waiting) (consoles : Consoles) :
    Forwards ttys u v consoles sent waiting ↔
      (sent = [] ∨ waiting.length = 1023) ∧
        Agrees master.outputQueue slave.outputQueue waiting := by
  constructor
  · rintro ⟨after, moved, rest, flushed, handed⟩
    rw [flush_linked linked] at flushed
    cases flushed
    -- The buffer is copied as it is, so nothing that was sent reaches the slave.
    obtain rfl := handed_nothing linked target handed
    have split := handed.split
    have full := handed.full
    have slave_after := handed.slave.holds (copied_slave linked)
    rw [List.nil_append] at split
    rw [List.append_nil] at full slave_after
    subst split
    refine ⟨?_, (copyBuffer_holds_iff target).mp slave_after⟩
    by_cases none : sent = []
    · exact Or.inl none
    · exact Or.inr (full none)
  · rintro ⟨nothing, agrees⟩
    have slave_after : Pending (copied ttys v master slave) v (waiting ++ []) := by
      rw [List.append_nil]
      exact ⟨_, copied_slave linked, (copyBuffer_holds_iff target).mpr agrees⟩
    refine ⟨copied ttys v master slave, [], sent, flush_linked linked, rfl,
      ⟨master, copied_master linked, source⟩, slave_after, ?_, slave_after.readable⟩
    intro some_byte
    rw [List.append_nil]
    exact nothing.resolve_left some_byte

/-- A pty master at 0 with its slave at 1. -/
def pair (output waiting : TtyQueue) : Ttys := fun u =>
  if u = 0 then
    some { ttyCreate (some 1) with
      outputQueue := output
      outputWorkerNumber := TTY_OUTPUT_WORKER_PTYSLAVE }
  else if u = 1 then
    some { ttyCreate (some 0) with outputQueue := waiting }
  else
    none

def noConsoles : Consoles := ⟨0, fun _ => 0⟩

theorem pair_linked (output waiting : TtyQueue) : Linked (pair output waiting) 0 1
    { ttyCreate (some 1) with
      outputQueue := output
      outputWorkerNumber := TTY_OUTPUT_WORKER_PTYSLAVE }
    { ttyCreate (some 0) with outputQueue := waiting } :=
  ⟨rfl, rfl, rfl, rfl⟩

/-- A queue in which the byte 65 is pending. -/
def oneByte : TtyQueue := (ttyQueuePutchar newQueue 65).2

/-- The same queue when the byte was taken out. -/
def takenOut : TtyQueue := (ttyQueueGetchar oneByte).2

theorem oneByte_holds : Holds oneByte [65] := by
  obtain ⟨stored, put, holds⟩ := putchar_room newQueue_holds (by decide) 65
  have same : oneByte = stored := congrArg Prod.snd put
  rw [same]
  exact holds

theorem takenOut_holds : Holds takenOut [] := by
  obtain ⟨rest, got, holds⟩ := getchar_byte oneByte_holds
  have same : takenOut = rest := congrArg Prod.snd got
  rw [same]
  exact holds

/-- A byte that is pending in the slave stays if the master has sent the same one before. -/
theorem sent_before_forwards : Forwards (pair takenOut oneByte) 0 1 noConsoles [] [65] := by
  apply (forwards_iff (pair_linked takenOut oneByte) takenOut_holds oneByte_holds noConsoles).mpr
  refine ⟨Or.inl rfl, fun k c found => ?_⟩
  cases k with
  | zero =>
      cases found
      decide
  | succ k => cases found

/-- One byte that is pending in the master is not handed on. -/
theorem byte_not_forwarded : ¬∀ (ttys : Ttys) (u v : Nat) (master slave : Tty)
    (sent waiting : List UInt8) (consoles : Consoles), Linked ttys u v master slave →
      Holds master.outputQueue sent → Holds slave.outputQueue waiting →
        Forwards ttys u v consoles sent waiting := by
  intro all
  have forwards := all (pair oneByte newQueue) 0 1 _ _ [65] [] noConsoles
    (pair_linked oneByte newQueue) oneByte_holds newQueue_holds
  obtain ⟨nothing | full, -⟩ := (forwards_iff (pair_linked oneByte newQueue) oneByte_holds
    newQueue_holds noConsoles).mp forwards
  · cases nothing
  · cases full

end Gramado.Chardev.PtyForward
