/-
The mouse interrupt of ps2mouse.c: the bytes in the output buffer of the controller are
assembled into packets, and a packet is turned into a position and into events. The
time of the last byte is left out, and so is what wmMouseEvent does with an event.
-/
import Gramado.Chardev.Keyboard

namespace Gramado.Chardev.Mouse

open Gramado.Chardev.Keyboard

def MSG_MOUSEMOVE : Int := 32

def MSG_MOUSEPRESSED : Int := 35

def MSG_MOUSERELEASED : Int := 36

structure Buttons where
  left : Bool
  right : Bool
  middle : Bool
  deriving DecidableEq, Repr

/-- The position and the buttons. `old` is `mbuttons_old_state`. -/
structure Pointer where
  x : Int
  y : Int
  savedX : Int
  savedY : Int
  moving : Bool
  old : Buttons
  deriving DecidableEq, Repr

/-- A call of wmMouseEvent, or a message 2000 in the queue of deferred calls, which has
    no place for the last two numbers. -/
inductive MouseEvent where
  | raw (eventId long1 long2 long3 long4 : Int)
  | deferred (eventId long1 long2 : Int)
  deriving DecidableEq, Repr

def processMouseEvent00 (dpcOn : Bool) (eventId long1 long2 long3 long4 : Int) :
    List MouseEvent :=
  if eventId < 0 then
    []
  else if dpcOn then
    [.deferred eventId long1 long2]
  else
    [.raw eventId long1 long2 long3 long4]

/-- `mouse_packet_x` and `mouse_packet_y` are a `char`. -/
def packetDelta (byte : UInt8) (sign : Bool) : Int8 :=
  let delta := byte.toInt8
  if delta ≠ 0 ∧ sign then Int8.ofInt (delta.toInt - 0xFF - 0x01) else delta

/-- `value & 0x000003FF` for a `long`. -/
def masked (value : Int) : Int :=
  value % 0x400

def buttonEvent (dpcOn : Bool) (button : Int) (pressed : Bool) (p : Pointer) :
    List MouseEvent :=
  processMouseEvent00 dpcOn (if pressed then MSG_MOUSEPRESSED else MSG_MOUSERELEASED)
    button button p.x p.y

def buttonsOf (flags : UInt8) : Buttons where
  left := flags &&& 0x01 ≠ 0
  right := flags &&& 0x02 ≠ 0
  middle := flags &&& 0x04 ≠ 0

/-- A packet that reports an overflow is left before its buttons are looked at, and
    after the event of a button nothing more is sent. -/
def parseDataPacket (dpcOn : Bool) (buffer : Nat → UInt8) (p : Pointer) :
    List MouseEvent × Pointer :=
  let p := { p with savedX := p.x, savedY := p.y }
  let flags := buffer 0
  let packetX := packetDelta (buffer 1) (flags &&& 0x10 ≠ 0)
  let packetY := packetDelta (buffer 2) (flags &&& 0x20 ≠ 0)
  if flags &&& 0x40 ≠ 0 ∨ flags &&& 0x80 ≠ 0 then
    ([], p)
  else
    let current := buttonsOf flags
    let old := p.old
    let p := { p with
      x := masked (p.x + packetX.toInt)
      y := masked (p.y - packetY.toInt)
      old := current }
    if current.left ≠ old.left then
      (buttonEvent dpcOn 1 current.left p, p)
    else if current.right ≠ old.right then
      (buttonEvent dpcOn 2 current.right p, p)
    else if current.middle ≠ old.middle then
      (buttonEvent dpcOn 3 current.middle p, p)
    else
      let p := { p with moving := p.savedX ≠ p.x ∨ p.savedY ≠ p.y }
      if p.moving then
        (processMouseEvent00 dpcOn MSG_MOUSEMOVE p.x p.y p.x p.y, p)
      else
        ([], p)

/-- `dpcOn` is the flag of the queue of deferred calls, and `pending` the bytes that the
    controller still has. -/
structure Driver where
  initialized : Bool
  hasWheel : Bool
  dpcOn : Bool
  stage : Nat
  buffer : Nat → UInt8
  pointer : Pointer
  pending : List Output

/-- `buffer_mouse[mouse_stage] = byte`. -/
def Driver.store (d : Driver) (byte : UInt8) : Driver :=
  { d with buffer := fun i => if i = d.stage then byte else d.buffer i }

/-- The packet is complete; the handler returns. -/
def commit (d : Driver) (rest : List Output) : List MouseEvent × Driver :=
  let out := parseDataPacket d.dpcOn d.buffer d.pointer
  (out.1, { d with pointer := out.2, stage := 0, pending := rest })

/-- The loop of the handler, up to a packet, an empty buffer or a byte of the keyboard. -/
def drain (d : Driver) : List Output → List MouseEvent × Driver
  | [] => ([], { d with pending := [] })
  | byte :: rest =>
      if !byte.mouse then
        ([], { d with pending := byte :: rest })
      else
        let d := d.store byte.data
        match d.stage with
        | 0 =>
            if byte.data &&& 0x08 = 0 then
              ([], { d with stage := 0, pending := rest })
            else
              drain { d with stage := 1 } rest
        | 1 => drain { d with stage := 2 } rest
        | 2 => if d.hasWheel then drain { d with stage := 3 } rest else commit d rest
        | 3 => commit d rest
        | _ => ([], { d with stage := 0, pending := rest })

/-- `DeviceInterface_PS2Mouse`, when these bytes have come in. -/
def deviceInterfacePS2Mouse (d : Driver) (arrived : List Output) : List MouseEvent × Driver :=
  if !d.initialized then
    ([], { d with pending := d.pending ++ arrived })
  else
    drain d (d.pending ++ arrived)

end Gramado.Chardev.Mouse
