/-
The keyboard interrupt of ps2kbd.c: the bytes in the output buffer of the controller
are read one after the other, collected in `Report`, and dispatched when a sequence
of scancodes is complete. The strobe of port 0x61 and the time of the last key are
left out.
-/
import Gramado.Ke
import Mathlib.Logic.Function.Basic
import Mathlib.Tactic.Common

namespace Gramado.Chardev.Keyboard

open Function

def REPORT_MAX : Nat := 7

/-- A byte in the output buffer, with the bit of the status that tells the device. -/
structure Output where
  mouse : Bool
  data : UInt8
  deriving DecidableEq, Repr

/-- The arguments of `__ps2kbd_interpret_and_dispatch`; `lead` is the prefix. -/
structure Scan where
  b0 : UInt8
  b1 : UInt8
  b2 : UInt8
  lead : UInt8
  deriving DecidableEq, Repr

/-- A call of `wmRawKeyEvent`, or a message 1000 in the queue of deferred calls. -/
inductive KeyEvent where
  | raw (b0 b1 b2 lead : UInt8)
  | deferred (b0 : UInt8)
  deriving DecidableEq, Repr

/-- `dpcOn` is the flag of the queue of deferred calls. -/
structure Keyboard where
  report : Nat → UInt8
  reportIndex : Nat
  dpcOn : Bool
  dispatched : List KeyEvent

def interpretAndDispatch (dpcOn : Bool) (s : Scan) : List KeyEvent :=
  if s.lead = 0 then
    if dpcOn then [.deferred s.b0] else [.raw s.b0 0 0 0]
  else if s.lead = 0xE0 then
    if s.b1 = 0xF0 then [.raw s.b0 s.b1 s.b2 s.lead] else [.raw s.b0 s.b1 0 s.lead]
  else if s.lead = 0xE1 then
    [.raw s.b0 s.b1 s.b2 s.lead]
  else
    []

/-- The prefix 0xE0: whether the sequence is finished, and what is dispatched. -/
def extended (report : Nat → UInt8) (index : Nat) (finished : Bool) : Bool × Option Scan :=
  if index = 0 then
    (false, none)
  else if index = 1 then
    if report 1 ≠ 0xF0 then (true, some ⟨report 0, report 1, 0, 0xE0⟩) else (false, none)
  else if index = 2 then
    if report 1 = 0xF0 then (true, some ⟨report 0, report 1, report 2, 0xE0⟩) else (true, none)
  else
    (finished, none)

/-- The prefix 0xE1. What is not finished at the sixth byte runs into the end of the report. -/
def extended2 (report : Nat → UInt8) (index : Nat) (finished : Bool) : Bool × Option Scan :=
  if index = 0 then
    (false, none)
  else if index = 1 then
    (if report 1 = 0x1D then false else finished, none)
  else if index = 2 then
    (report 2 ≠ 0x45, some ⟨report 0, report 1, report 2, 0xE1⟩)
  else if index = 3 then
    (if report 3 = 0xE1 then false else finished, none)
  else if index = 4 then
    (if report 4 = 0x9D then false else finished, none)
  else if index = 5 ∧ report 5 = 0xC5 then
    (true, if report 3 = 0xE1 ∧ report 4 = 0x9D then
      some ⟨report 3, report 4, report 5, 0xE1⟩ else none)
  else
    (finished, none)

def regular (report : Nat → UInt8) (index : Nat) (finished : Bool) : Bool × Option Scan :=
  if index = 0 then (true, some ⟨report 0, 0, 0, 0⟩) else (finished, none)

def checkReport (report : Nat → UInt8) (index : Nat) (finished : Bool) : Bool × Option Scan :=
  if report 0 = 0xE0 then extended report index finished
  else if report 0 = 0xE1 then extended2 report index finished
  else regular report index finished

def nextIndex (index : Nat) (finished : Bool) : Nat :=
  if finished then 0 else if index + 1 ≥ REPORT_MAX then 0 else index + 1

/-- The part of the loop from `CheckByte` on. -/
def checkByte (k : Keyboard) (finished : Bool) (raw : UInt8) : Bool × Keyboard :=
  let report := update k.report k.reportIndex raw
  let (finished, scan) := checkReport report k.reportIndex finished
  (finished, { k with
    report := report
    reportIndex := nextIndex k.reportIndex finished
    dispatched := k.dispatched ++ scan.toList.flatMap (interpretAndDispatch k.dpcOn) })

/-- The bytes that are answers to a command: they end the loop. -/
def Answer (raw : UInt8) : Prop :=
  raw = 0 ∨ raw = 0xFA ∨ raw = 0xFE ∨ raw = 0xFF

instance (raw : UInt8) : Decidable (Answer raw) :=
  inferInstanceAs (Decidable (_ ∨ _))

/-- The loop over what is in the output buffer; the rest of it is left for later. -/
def readLoop (finished : Bool) (k : Keyboard) : List Output → Keyboard × List Output
  | [] => (k, [])
  | o :: rest =>
      if o.mouse then
        (k, o :: rest)
      else if Answer o.data then
        (k, rest)
      else
        let (finished, k) := checkByte k finished o.data
        readLoop finished k rest

def deviceInterfacePS2Keyboard (k : Keyboard) (buffer : List Output) : Keyboard × List Output :=
  readLoop false { k with reportIndex := 0 } buffer

/-- The interrupts in order, each with the bytes that have arrived before it. -/
def interrupts (k : Keyboard) (buffer : List Output) : List (List Output) → Keyboard × List Output
  | [] => (k, buffer)
  | arrived :: rest =>
      let (k, buffer) := deviceInterfacePS2Keyboard k (buffer ++ arrived)
      interrupts k buffer rest

end Gramado.Chardev.Keyboard
