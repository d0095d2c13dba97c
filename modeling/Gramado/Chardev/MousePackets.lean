/-
Streams of well-formed mouse packets, cut into interrupts in any way. Which packets are
processed does not depend on the cut; what is made of one of them is what it says only
under conditions on its buttons, its signs and the place it leads to.
-/
import Gramado.Chardev.Mouse
import Gramado.Lib.Machine

namespace Gramado.Chardev.Mouse

open Gramado.Chardev.Keyboard
open Gramado.Lib

/-- A packet with the bit of its first byte that is always set. -/
structure Packet where
  flags : UInt8
  dx : UInt8
  dy : UInt8
  wheel : UInt8
  always : flags &&& 0x08 ≠ 0
  deriving DecidableEq, Repr

def Packet.bytes (hasWheel : Bool) (p : Packet) : List Output :=
  (if hasWheel then [p.flags, p.dx, p.dy, p.wheel] else [p.flags, p.dx, p.dy]).map fun byte =>
    ⟨true, byte⟩

def Packet.buffer (p : Packet) (i : Nat) : UInt8 :=
  if i = 0 then p.flags else if i = 1 then p.dx else p.dy

def packetStep (dpcOn : Bool) (pointer : Pointer) (p : Packet) :
    Except Ke.Stop (List MouseEvent × Pointer) :=
  .ok (parseDataPacket dpcOn p.buffer pointer)

def driverStep (d : Driver) (arrived : List Output) : Except Ke.Stop (List MouseEvent × Driver) :=
  .ok (deviceInterfacePS2Mouse d arrived)

section Assembly

variable {d t : Driver} {p : Packet}

/-- The bytes of the packet that is being assembled. -/
def Driver.held (d : Driver) : List Output :=
  (List.range d.stage).map fun i => ⟨true, d.buffer i⟩

def Driver.last (d : Driver) : Nat :=
  if d.hasWheel then 3 else 2

/-- What is set up, and where the assembly is: not at the end of a packet. -/
structure Driver.Assembles (d : Driver) : Prop where
  initialized : d.initialized = true
  stage : d.stage ≤ d.last

/-- These packets have been processed, and those are still to come. -/
structure Processed (d t : Driver) (sent : List MouseEvent) (done todo : List Packet)
    (future : List Output) : Prop where
  assembles : t.Assembles
  hasWheel : t.hasWheel = d.hasWheel
  dpcOn : t.dpcOn = d.dpcOn
  ran : ∃ events, Machine.run (packetStep d.dpcOn) d.pointer done = .ok (events, t.pointer) ∧
    sent = events.flatten
  unread : t.held ++ t.pending ++ future = todo.flatMap (Packet.bytes d.hasWheel)

theorem parse_buffer (dpcOn : Bool) (buffer other : Nat → UInt8) (pointer : Pointer)
    (same : ∀ i, i < 3 → buffer i = other i) :
    parseDataPacket dpcOn buffer pointer = parseDataPacket dpcOn other pointer := by
  simp only [parseDataPacket, same 0 (by decide), same 1 (by decide), same 2 (by decide)]

theorem length_bytes (hasWheel : Bool) (p : Packet) :
    (p.bytes hasWheel).length = if hasWheel then 4 else 3 := by
  cases hasWheel <;> rfl

theorem bytes_mouse {hasWheel : Bool} {packets : List Packet} {byte : Output}
    (inside : byte ∈ packets.flatMap (Packet.bytes hasWheel)) : byte.mouse = true := by
  obtain ⟨p, -, inside⟩ := List.mem_flatMap.mp inside
  obtain ⟨data, -, rfl⟩ := List.mem_map.mp inside
  rfl

/-- The driver with one more byte of the packet. -/
def Driver.push (d : Driver) (byte : UInt8) : Driver :=
  { d.store byte with stage := d.stage + 1 }

theorem push_held (d : Driver) (byte : UInt8) : (d.push byte).held = d.held ++ [⟨true, byte⟩] := by
  have before : ∀ i ∈ List.range d.stage,
      (⟨true, (d.push byte).buffer i⟩ : Output) = ⟨true, d.buffer i⟩ := by
    intro i inside
    have apart : i ≠ d.stage := Nat.ne_of_lt (List.mem_range.mp inside)
    simp [Driver.push, Driver.store, apart]
  have here : (d.push byte).buffer d.stage = byte := by simp [Driver.push, Driver.store]
  change (List.range (d.stage + 1)).map _ = _
  rw [List.range_succ, List.map_append, List.map_congr_left before, List.map_singleton, here]
  rfl

theorem whole_held (stage : d.stage = d.last) {byte : UInt8}
    (whole : (d.push byte).held = p.bytes d.hasWheel) :
    ∀ i, i < 3 → (d.push byte).buffer i = p.buffer i := by
  have same : (List.range (d.last + 1)).map (fun i => (⟨true, (d.push byte).buffer i⟩ : Output)) =
      p.bytes d.hasWheel := by
    rw [← whole, ← stage]
    rfl
  have content : (d.push byte).buffer 0 = p.flags ∧ (d.push byte).buffer 1 = p.dx ∧
      (d.push byte).buffer 2 = p.dy := by
    cases wheel : d.hasWheel <;>
      simp [Driver.last, wheel, Packet.bytes, List.range_succ] at same <;>
      simp [same]
  intro i below
  obtain rfl | rfl | rfl : i = 0 ∨ i = 1 ∨ i = 2 := by omega
  · exact content.1
  · exact content.2.1
  · exact content.2.2

theorem stage_first {byte : Output} {rest : List Output} {packets : List Packet}
    (stage : d.stage = 0)
    (stream : d.held ++ byte :: rest = packets.flatMap (Packet.bytes d.hasWheel)) :
    byte.data &&& 0x08 ≠ 0 := by
  have none : d.held = [] := by simp [Driver.held, stage]
  cases packets with
  | nil => simp [none] at stream
  | cons p more =>
      have first : byte = ⟨true, p.flags⟩ := by
        cases wheel : d.hasWheel <;> simp [none, Packet.bytes, wheel] at stream <;> exact stream.1
      rw [first]
      exact p.always

theorem stage_last {byte : Output} {rest : List Output} {packets : List Packet}
    (stage : d.stage = d.last)
    (stream : d.held ++ byte :: rest = packets.flatMap (Packet.bytes d.hasWheel)) :
    ∃ p more, packets = p :: more ∧ d.held ++ [byte] = p.bytes d.hasWheel ∧
      rest = more.flatMap (Packet.bytes d.hasWheel) := by
  have length : d.held.length = d.stage := by simp [Driver.held]
  cases packets with
  | nil => simp at stream
  | cons p more =>
      have same : (d.held ++ [byte]).length = (p.bytes d.hasWheel).length := by
        rw [length_bytes, List.length_append, length, stage, Driver.last]
        cases d.hasWheel <;> rfl
      have split : (d.held ++ [byte]) ++ rest =
          p.bytes d.hasWheel ++ more.flatMap (Packet.bytes d.hasWheel) := by
        rw [List.append_assoc]
        exact stream
      obtain ⟨left, right⟩ := List.append_inj split same
      exact ⟨p, more, rfl, left, right⟩

theorem drain_push {byte : UInt8} {rest : List Output} (early : d.stage < d.last)
    (first : d.stage = 0 → byte &&& 0x08 ≠ 0) :
    drain d (⟨true, byte⟩ :: rest) = drain (d.push byte) rest := by
  obtain ⟨initialized, hasWheel, dpcOn, stage, buffer, pointer, pending⟩ := d
  simp only [Driver.last] at early
  match stage with
  | 0 => simp [drain, Driver.push, Driver.store, first rfl]
  | 1 => simp [drain, Driver.push, Driver.store]
  | 2 =>
      cases hasWheel
      · simp at early
      · simp [drain, Driver.push, Driver.store]
  | n + 3 => cases hasWheel <;> simp at early <;> omega

theorem drain_commit {byte : UInt8} {rest : List Output} (last : d.stage = d.last) :
    drain d (⟨true, byte⟩ :: rest) = commit (d.store byte) rest := by
  obtain ⟨initialized, hasWheel, dpcOn, stage, buffer, pointer, pending⟩ := d
  cases hasWheel <;> cases last <;> rfl

/-- The loop reads on to the end of a packet, or of the bytes that there are. -/
theorem drain_processed (queue future : List Output) (packets : List Packet)
    (assembles : d.Assembles)
    (stream : d.held ++ queue ++ future = packets.flatMap (Packet.bytes d.hasWheel)) :
    ∃ done todo, packets = done ++ todo ∧
      Processed d (drain d queue).2 (drain d queue).1 done todo future := by
  induction queue generalizing d with
  | nil =>
      refine ⟨[], packets, rfl, ⟨assembles.initialized, assembles.stage⟩, rfl, rfl,
        ⟨[], rfl, rfl⟩, ?_⟩
      exact stream
  | cons byte rest ih =>
      have mouse : byte.mouse = true := by
        have inside : byte ∈ packets.flatMap (Packet.bytes d.hasWheel) := by
          rw [← stream]
          simp
        exact bytes_mouse inside
      obtain ⟨fromMouse, data⟩ := byte
      cases mouse
      rw [List.append_assoc, List.cons_append] at stream
      rcases Nat.lt_or_eq_of_le assembles.stage with early | last
      · have further : (d.push data).held ++ rest ++ future =
            packets.flatMap (Packet.bytes (d.push data).hasWheel) := by
          rw [push_held, List.append_assoc, List.append_assoc]
          exact stream
        rw [drain_push early fun zero => stage_first zero stream]
        obtain ⟨done, todo, parts, processed⟩ :=
          ih (d := d.push data) ⟨assembles.initialized, early⟩ further
        exact ⟨done, todo, parts, processed.assembles, processed.hasWheel, processed.dpcOn,
          processed.ran, processed.unread⟩
      · obtain ⟨p, more, parts, whole, unread⟩ := stage_last last stream
        rw [drain_commit last]
        refine ⟨[p], more, parts, ⟨assembles.initialized, Nat.zero_le _⟩, rfl, rfl, ?_, unread⟩
        refine ⟨[(commit (d.store data) rest).1], ?_, by simp⟩
        have content := whole_held last (push_held d data ▸ whole)
        have parsed : parseDataPacket d.dpcOn (d.store data).buffer d.pointer =
            parseDataPacket d.dpcOn p.buffer d.pointer := parse_buffer _ _ _ _ content
        simp only [Machine.run, packetStep, ← parsed]
        rfl

/-- However the stream is cut into interrupts, its packets are processed in their order;
    those that are not have bytes that were not read. -/
theorem run_processed (groups : List (List Output)) (packets : List Packet)
    (assembles : d.Assembles)
    (stream : d.held ++ d.pending ++ groups.flatten = packets.flatMap (Packet.bytes d.hasWheel)) :
    ∃ outs t done todo, Machine.run driverStep d groups = .ok (outs, t) ∧
      packets = done ++ todo ∧ Processed d t outs.flatten done todo [] := by
  induction groups generalizing d packets with
  | nil =>
      refine ⟨[], d, [], packets, rfl, rfl, assembles, rfl, rfl, ⟨[], rfl, rfl⟩, ?_⟩
      exact stream
  | cons group rest ih =>
      rw [List.flatten_cons, ← List.append_assoc, List.append_assoc d.held] at stream
      obtain ⟨early, left, parts, first⟩ :=
        drain_processed (d.pending ++ group) rest.flatten packets assembles stream
      have served : driverStep d group = .ok (drain d (d.pending ++ group)) := by
        simp [driverStep, deviceInterfacePS2Mouse, assembles.initialized]
      obtain ⟨outs, t, late, todo, later, parts', second⟩ :=
        ih left first.assembles (by rw [first.hasWheel]; exact first.unread)
      refine ⟨(drain d (d.pending ++ group)).1 :: outs, t, early ++ late, todo, ?_, ?_,
        second.assembles, second.hasWheel.trans first.hasWheel, second.dpcOn.trans first.dpcOn,
        ?_, first.hasWheel ▸ second.unread⟩
      · rw [Machine.run_cons_of_ok served, later]
        rfl
      · rw [parts, parts', List.append_assoc]
      · obtain ⟨sent, ran, same⟩ := first.ran
        obtain ⟨sent', ran', same'⟩ := second.ran
        rw [first.dpcOn] at ran'
        refine ⟨sent ++ sent', Machine.run_append_of_ok ran ran', ?_⟩
        rw [List.flatten_cons, same, same', List.flatten_append]

theorem processed_all {sent : List MouseEvent} {done todo : List Packet}
    (processed : Processed d t sent done todo []) (read : t.pending = []) : todo = [] := by
  have unread := congrArg List.length processed.unread
  rw [read, List.append_nil, List.append_nil] at unread
  have held : t.held.length = t.stage := by simp [Driver.held]
  have below := processed.assembles.stage
  rw [Driver.last, processed.hasWheel] at below
  cases todo with
  | nil => rfl
  | cons p more =>
      rw [List.flatMap_cons, List.length_append, length_bytes, held] at unread
      cases wheel : d.hasWheel <;> simp [wheel] at unread below <;> omega

end Assembly

/-- The screen that the pointer is to stay on. -/
structure Screen where
  width : Nat
  height : Nat
  wide : 0 < width
  high : 0 < height

inductive Button where
  | left
  | right
  | middle
  deriving DecidableEq, Repr

def Button.number : Button → Int
  | left => 1
  | right => 2
  | middle => 3

def Buttons.get (buttons : Buttons) : Button → Bool
  | .left => buttons.left
  | .right => buttons.right
  | .middle => buttons.middle

/-- That the button was pressed or released, if this is what the event says. -/
def MouseEvent.change (button : Button) (event : MouseEvent) : Option Bool :=
  let (eventId, long1) :=
    match event with
    | .raw eventId long1 _ _ _ => (eventId, long1)
    | .deferred eventId long1 _ => (eventId, long1)
  if long1 ≠ button.number then
    none
  else if eventId = MSG_MOUSEPRESSED then
    some true
  else if eventId = MSG_MOUSERELEASED then
    some false
  else
    none

/-- The position that the event reports. -/
def MouseEvent.position : MouseEvent → Option (Int × Int)
  | .raw _ _ _ long3 long4 => some (long3, long4)
  | .deferred eventId long1 long2 =>
      if eventId = MSG_MOUSEMOVE then some (long1, long2) else none

def changesOf (button : Button) (events : List MouseEvent) : List Bool :=
  events.filterMap (MouseEvent.change button)

def Packet.buttons (p : Packet) : Buttons :=
  buttonsOf p.flags

def Packet.overflow (p : Packet) : Prop :=
  p.flags &&& 0x40 ≠ 0 ∨ p.flags &&& 0x80 ≠ 0

def Packet.signX (p : Packet) : Bool :=
  p.flags &&& 0x10 ≠ 0

def Packet.signY (p : Packet) : Bool :=
  p.flags &&& 0x20 ≠ 0

/-- A number of nine bits in two's complement. -/
def nineBits (byte : UInt8) (sign : Bool) : Int :=
  byte.toNat - if sign then 0x100 else 0

def clamp (size : Nat) (place : Int) : Int :=
  max 0 (min (size - 1) place)

def Screen.Inside (screen : Screen) (pointer : Pointer) : Prop :=
  0 ≤ pointer.x ∧ pointer.x < screen.width ∧ 0 ≤ pointer.y ∧ pointer.y < screen.height

/-- One event for each button that has changed since the packet before, and the place
    that the movement leads to. -/
structure Lawful (screen : Screen) (before : Buttons) (pointer : Pointer) (p : Packet)
    (events : List MouseEvent) (next : Pointer) : Prop where
  buttons : ∀ button, changesOf button events =
    if p.buttons.get button = before.get button then [] else [p.buttons.get button]
  x : next.x = clamp screen.width (pointer.x + nineBits p.dx p.signX)
  y : next.y = clamp screen.height (pointer.y - nineBits p.dy p.signY)
  reported : ∀ event ∈ events, ∀ place, event.position = some place → place = (next.x, next.y)

/-- The packets one after the other, with the buttons of the packet before. -/
abbrev packetHistory (dpcOn : Bool) :=
  Machine.observe (fun (_ : Buttons) (_ : Pointer) (p : Packet) (_ : List MouseEvent × Pointer) =>
    p.buttons) (packetStep dpcOn)

/-- Presses and releases in turn, for a button that was in this state. -/
def Alternates : Bool → List Bool → Prop
  | _, [] => True
  | state, change :: rest => change = !state ∧ Alternates change rest

/-- What the packets of a history are to be turned into. -/
structure Law (screen : Screen) (dpcOn : Bool) (pointer : Pointer) (packets : List Packet)
    (events : List MouseEvent) : Prop where
  steps : Machine.Along (packetHistory dpcOn) (fun seen p out =>
    Lawful screen seen.1 seen.2 p out.1 out.2.2) (pointer.old, pointer) packets
  alternate : ∀ button, Alternates (pointer.old.get button) (changesOf button events)

/-- The sign is that of a movement of eight bits and the place is on the part of the
    screen that ten bits reach, or the edge is the one that the packet moves to. -/
def RightX (screen : Screen) (pointer : Pointer) (p : Packet) : Prop :=
  (p.signX = decide (128 ≤ p.dx.toNat) ∧ 0 ≤ pointer.x + nineBits p.dx p.signX ∧
    pointer.x + nineBits p.dx p.signX < min screen.width 0x400) ∨
  (pointer.x = 0 ∧ p.signX = true ∧ p.dx.toNat = 0)

def RightY (screen : Screen) (pointer : Pointer) (p : Packet) : Prop :=
  (p.signY = decide (128 ≤ p.dy.toNat) ∧ 0 ≤ pointer.y - nineBits p.dy p.signY ∧
    pointer.y - nineBits p.dy p.signY < min screen.height 0x400) ∨
  (pointer.y = screen.height - 1 ∧ pointer.y < 0x400 ∧ p.signY = true ∧ p.dy.toNat = 0)

/-- An overflow with no change of a button that moves nowhere, or one change at most. -/
def Right (screen : Screen) (before : Buttons) (pointer : Pointer) (p : Packet) : Prop :=
  (p.overflow ∧ p.buttons = before ∧
    pointer.x = clamp screen.width (pointer.x + nineBits p.dx p.signX) ∧
    pointer.y = clamp screen.height (pointer.y - nineBits p.dy p.signY)) ∨
  (¬p.overflow ∧ (∀ one other, p.buttons.get one ≠ before.get one →
      p.buttons.get other ≠ before.get other → one = other) ∧
    RightX screen pointer p ∧ RightY screen pointer p)

section Movement

theorem toInt_toInt8 (byte : UInt8) :
    byte.toInt8.toInt = nineBits byte (decide (128 ≤ byte.toNat)) := by
  have cond : byte.toInt8.toInt =
      if 2 * byte.toNat < 2 ^ 8 then (byte.toNat : Int) else (byte.toNat : Int) - (2 ^ 8 : Nat) :=
    BitVec.toInt_eq_toNat_cond byte.toBitVec
  rw [cond, nineBits]
  split <;> split <;> simp_all <;> omega

theorem packetDelta_toInt (byte : UInt8) (sign : Bool) :
    (packetDelta byte sign).toInt = nineBits byte (decide (128 ≤ byte.toNat)) := by
  have wraps : Int8.ofInt (byte.toInt8.toInt - 0xFF - 0x01) = byte.toInt8 := by
    have whole : Int8.ofInt 0x100 = 0 := rfl
    rw [sub_sub, Int8.ofInt_sub, Int8.ofInt_toInt]
    exact whole ▸ Int8.sub_zero _
  rw [← toInt_toInt8, packetDelta]
  split
  · rw [wraps]
  · rfl

theorem masked_x (width : Nat) (x : Int) (byte : UInt8) (sign : Bool)
    (inside : 0 ≤ x ∧ x < width) :
    masked (x + nineBits byte (decide (128 ≤ byte.toNat))) = clamp width (x + nineBits byte sign) ↔
      (sign = decide (128 ≤ byte.toNat) ∧ 0 ≤ x + nineBits byte sign ∧
        x + nineBits byte sign < min width 0x400) ∨ (x = 0 ∧ sign = true ∧ byte.toNat = 0) := by
  have small := byte.toNat_lt
  simp only [masked, clamp, nineBits]
  cases sign <;> by_cases high : 128 ≤ byte.toNat <;> simp [high] <;> omega

theorem masked_y (height : Nat) (y : Int) (byte : UInt8) (sign : Bool)
    (inside : 0 ≤ y ∧ y < height) :
    masked (y - nineBits byte (decide (128 ≤ byte.toNat))) = clamp height (y - nineBits byte sign) ↔
      (sign = decide (128 ≤ byte.toNat) ∧ 0 ≤ y - nineBits byte sign ∧
        y - nineBits byte sign < min height 0x400) ∨
      (y = height - 1 ∧ y < 0x400 ∧ sign = true ∧ byte.toNat = 0) := by
  have small := byte.toNat_lt
  simp only [masked, clamp, nineBits]
  cases sign <;> by_cases high : 128 ≤ byte.toNat <;> simp [high] <;> omega

end Movement

section Steps

variable {screen : Screen} {dpcOn : Bool} {before : Buttons} {pointer : Pointer} {p : Packet}

theorem buttons_ext {one other : Buttons} (same : ∀ button, one.get button = other.get button) :
    one = other := by
  obtain ⟨left, right, middle⟩ := one
  obtain ⟨left', right', middle'⟩ := other
  have hl := same .left
  have hr := same .right
  have hm := same .middle
  simp only [Buttons.get] at hl hr hm
  rw [hl, hr, hm]

/-- The button whose event is sent: the first that has changed. -/
def firstChange (before now : Buttons) : Option Button :=
  if now.left ≠ before.left then some .left
  else if now.right ≠ before.right then some .right
  else if now.middle ≠ before.middle then some .middle
  else none

theorem firstChange_some {now : Buttons} {button : Button}
    (first : firstChange before now = some button) : now.get button ≠ before.get button := by
  unfold firstChange at first
  split at first
  · cases first
    assumption
  · split at first
    · cases first
      assumption
    · split at first
      · cases first
        assumption
      · cases first

theorem firstChange_none {now : Buttons} (none : firstChange before now = none)
    (button : Button) : now.get button = before.get button := by
  unfold firstChange at none
  cases button <;> grind [Buttons.get]

theorem changesOf_buttonEvent (button other : Button) (pressed : Bool) :
    changesOf button (buttonEvent dpcOn other.number pressed pointer) =
      if other = button then [pressed] else [] := by
  cases dpcOn <;> cases pressed <;> cases button <;> cases other <;> rfl

theorem changesOf_move (button : Button) (long1 long2 long3 long4 : Int) :
    changesOf button (processMouseEvent00 dpcOn MSG_MOUSEMOVE long1 long2 long3 long4) = [] := by
  have other : (MSG_MOUSEMOVE = MSG_MOUSEPRESSED ∨ MSG_MOUSEMOVE = MSG_MOUSERELEASED) = False := by
    decide
  cases dpcOn <;> simp_all [processMouseEvent00, changesOf, MouseEvent.change]

theorem buttonEvent_reported (number : Int) (pressed : Bool) {event : MouseEvent}
    {place : Int × Int} (sent : event ∈ buttonEvent dpcOn number pressed pointer)
    (reports : event.position = some place) : place = (pointer.x, pointer.y) := by
  cases dpcOn <;> cases pressed <;> cases List.mem_singleton.mp sent <;> cases reports
  · rfl
  · rfl

theorem move_reported {x y : Int} {event : MouseEvent} {place : Int × Int}
    (sent : event ∈ processMouseEvent00 dpcOn MSG_MOUSEMOVE x y x y)
    (reports : event.position = some place) : place = (x, y) := by
  cases dpcOn <;> cases List.mem_singleton.mp sent <;> cases reports
  · rfl
  · rfl

theorem parse_overflow (overflow : p.overflow) :
    parseDataPacket dpcOn p.buffer pointer =
      ([], { pointer with savedX := pointer.x, savedY := pointer.y }) := by
  unfold Packet.overflow at overflow
  simp [parseDataPacket, Packet.buffer, overflow]

/-- The pointer after the movement of a packet and with its buttons. -/
def Pointer.follow (pointer : Pointer) (p : Packet) : Pointer :=
  { pointer with
    savedX := pointer.x
    savedY := pointer.y
    x := masked (pointer.x + nineBits p.dx (decide (128 ≤ p.dx.toNat)))
    y := masked (pointer.y - nineBits p.dy (decide (128 ≤ p.dy.toNat)))
    old := p.buttons }

def Pointer.settle (pointer : Pointer) : Pointer :=
  { pointer with moving := pointer.savedX ≠ pointer.x ∨ pointer.savedY ≠ pointer.y }

/-- A packet with no overflow sends the event of the first button that has changed, or
    else the movement. -/
theorem parse_plain (plain : ¬p.overflow) :
    parseDataPacket dpcOn p.buffer pointer =
      match firstChange pointer.old p.buttons with
      | some button => (buttonEvent dpcOn button.number (p.buttons.get button) (pointer.follow p),
          pointer.follow p)
      | none =>
          (if (pointer.follow p).settle.moving then
            processMouseEvent00 dpcOn MSG_MOUSEMOVE (pointer.follow p).x (pointer.follow p).y
              (pointer.follow p).x (pointer.follow p).y
          else
            [], (pointer.follow p).settle) := by
  unfold Packet.overflow at plain
  simp only [parseDataPacket, Packet.buffer, reduceIte, if_neg plain, packetDelta_toInt]
  change (if p.buttons.left ≠ pointer.old.left then _ else _) = _
  unfold firstChange
  split
  · rfl
  · change (if p.buttons.right ≠ pointer.old.right then _ else _) = _
    split
    · rfl
    · change (if p.buttons.middle ≠ pointer.old.middle then _ else _) = _
      split
      · rfl
      · change (if (pointer.follow p).settle.moving then _ else _) = _
        simp only
        split <;> rfl

theorem parse_changes (plain : ¬p.overflow) (button : Button) :
    changesOf button (parseDataPacket dpcOn p.buffer pointer).1 =
      if firstChange pointer.old p.buttons = some button then [p.buttons.get button] else [] := by
  rw [parse_plain plain]
  cases firstChange pointer.old p.buttons with
  | none =>
      simp only
      split
      · exact changesOf_move button _ _ _ _
      · rfl
  | some other =>
      simp only [changesOf_buttonEvent, Option.some.injEq]
      split
      · rename_i same
        rw [same]
      · rfl

theorem parse_pointer (plain : ¬p.overflow) :
    (parseDataPacket dpcOn p.buffer pointer).2.x = (pointer.follow p).x ∧
      (parseDataPacket dpcOn p.buffer pointer).2.y = (pointer.follow p).y ∧
      (parseDataPacket dpcOn p.buffer pointer).2.old = p.buttons := by
  rw [parse_plain plain]
  cases firstChange pointer.old p.buttons <;> exact ⟨rfl, rfl, rfl⟩

/-- Every event that reports a position reports the one that the pointer is left at. -/
theorem parse_reported (plain : ¬p.overflow) {event : MouseEvent} {place : Int × Int}
    (sent : event ∈ (parseDataPacket dpcOn p.buffer pointer).1)
    (reports : event.position = some place) :
    place = ((parseDataPacket dpcOn p.buffer pointer).2.x,
      (parseDataPacket dpcOn p.buffer pointer).2.y) := by
  rw [(parse_pointer plain).1, (parse_pointer plain).2.1]
  rw [parse_plain plain] at sent
  cases first : firstChange pointer.old p.buttons with
  | none =>
      simp only [first] at sent
      split at sent
      · exact move_reported sent reports
      · cases sent
  | some button =>
      simp only [first] at sent
      exact buttonEvent_reported _ _ sent reports

/-- The events of a packet are its changes when no two buttons change in it. -/
theorem changes_iff (before now : Buttons) :
    (∀ button, (if firstChange before now = some button then [now.get button] else []) =
      if now.get button = before.get button then [] else [now.get button]) ↔
    ∀ one other, now.get one ≠ before.get one → now.get other ≠ before.get other →
      one = other := by
  constructor
  · intro same
    have sent : ∀ button, now.get button ≠ before.get button →
        firstChange before now = some button := by
      intro button changed
      have here := same button
      rw [if_neg changed] at here
      by_contra unsent
      simp [unsent] at here
    intro one other first second
    exact Option.some.inj ((sent one first).symm.trans (sent other second))
  · intro single button
    by_cases changed : now.get button = before.get button
    · have unsent : firstChange before now ≠ some button :=
        fun first => firstChange_some first changed
      rw [if_neg unsent, if_pos changed]
    · cases first : firstChange before now with
      | none => exact absurd (firstChange_none first button) changed
      | some other =>
          have same : other = button := single other button (firstChange_some first) changed
          rw [if_pos (congrArg some same), if_neg changed]

theorem lawful_iff (known : before = pointer.old) (inside : screen.Inside pointer) :
    Lawful screen before pointer p (parseDataPacket dpcOn p.buffer pointer).1
      (parseDataPacket dpcOn p.buffer pointer).2 ↔ Right screen before pointer p := by
  subst known
  by_cases overflow : p.overflow
  · constructor
    · intro lawful
      rw [parse_overflow overflow] at lawful
      refine Or.inl ⟨overflow, buttons_ext fun button => ?_, lawful.x, lawful.y⟩
      by_contra changed
      have sent := lawful.buttons button
      rw [if_neg changed] at sent
      cases sent
    · rintro (⟨-, same, x, y⟩ | ⟨plain, -⟩)
      · rw [parse_overflow overflow]
        refine ⟨fun button => ?_, x, y, fun event sent => ?_⟩
        · rw [same, if_pos rfl]
          rfl
        · cases sent
      · exact absurd overflow plain
  · obtain ⟨x, y, -⟩ := @parse_pointer dpcOn pointer p overflow
    have moveX : (parseDataPacket dpcOn p.buffer pointer).2.x =
        clamp screen.width (pointer.x + nineBits p.dx p.signX) ↔ RightX screen pointer p := by
      rw [x]
      exact masked_x screen.width pointer.x p.dx p.signX ⟨inside.1, inside.2.1⟩
    have moveY : (parseDataPacket dpcOn p.buffer pointer).2.y =
        clamp screen.height (pointer.y - nineBits p.dy p.signY) ↔ RightY screen pointer p := by
      rw [y]
      exact masked_y screen.height pointer.y p.dy p.signY inside.2.2
    have sent := changes_iff pointer.old p.buttons
    simp only [← @parse_changes dpcOn pointer p overflow] at sent
    constructor
    · intro lawful
      exact Or.inr ⟨overflow, sent.mp lawful.buttons, moveX.mp lawful.x, moveY.mp lawful.y⟩
    · rintro (⟨reported, -⟩ | ⟨-, single, right, down⟩)
      · exact absurd reported overflow
      · exact ⟨sent.mpr single, moveX.mpr right, moveY.mpr down,
          fun event inEvents place => parse_reported overflow inEvents⟩

theorem lawful_inside {events : List MouseEvent} {next : Pointer}
    (lawful : Lawful screen before pointer p events next) : screen.Inside next := by
  have wide := screen.wide
  have high := screen.high
  have x := lawful.x
  have y := lawful.y
  unfold clamp at x y
  refine ⟨?_, ?_, ?_, ?_⟩ <;> omega

theorem right_old (right : Right screen before pointer p) (known : before = pointer.old) :
    (parseDataPacket dpcOn p.buffer pointer).2.old = p.buttons := by
  rcases right with ⟨overflow, same, -⟩ | ⟨plain, -⟩
  · rw [parse_overflow overflow, same, known]
  · exact (parse_pointer plain).2.2

end Steps

section Histories

variable {screen : Screen} {dpcOn : Bool} {pointer : Pointer} {packets : List Packet}

theorem history_step {before : Buttons} {p : Packet} {out : List MouseEvent × (Buttons × Pointer)}
    (served : packetHistory dpcOn (before, pointer) p = .ok out) :
    out.1 = (parseDataPacket dpcOn p.buffer pointer).1 ∧ out.2.1 = p.buttons ∧
      out.2.2 = (parseDataPacket dpcOn p.buffer pointer).2 := by
  cases served
  exact ⟨rfl, rfl, rfl⟩

theorem steps_iff (inside : screen.Inside pointer) :
    Machine.Along (packetHistory dpcOn) (fun seen p out =>
      Lawful screen seen.1 seen.2 p out.1 out.2.2) (pointer.old, pointer) packets ↔
    Machine.Along (packetHistory dpcOn) (fun seen p _ =>
      Right screen seen.1 seen.2 p) (pointer.old, pointer) packets := by
  have exact : ∀ (seen : Buttons × Pointer) p out, (seen.1 = seen.2.old ∧ screen.Inside seen.2) →
      packetHistory dpcOn seen p = .ok out →
      (Lawful screen seen.1 seen.2 p out.1 out.2.2 ↔ Right screen seen.1 seen.2 p) := by
    intro seen p out inv served
    obtain ⟨events, -, next⟩ := history_step served
    rw [events, next]
    exact lawful_iff inv.1 inv.2
  have keep : ∀ (seen : Buttons × Pointer) p out, (seen.1 = seen.2.old ∧ screen.Inside seen.2) →
      packetHistory dpcOn seen p = .ok out → Lawful screen seen.1 seen.2 p out.1 out.2.2 →
      out.2.1 = out.2.2.old ∧ screen.Inside out.2.2 := by
    intro seen p out inv served lawful
    have right := (exact seen p out inv served).mp lawful
    obtain ⟨-, buttons, next⟩ := history_step served
    refine ⟨?_, lawful_inside lawful⟩
    rw [buttons, next, right_old right inv.1]
  exact Machine.along_iff exact keep packets ⟨rfl, inside⟩

theorem alternates_step {state next : Bool} {rest : List Bool} (later : Alternates next rest) :
    Alternates state ((if next = state then [] else [next]) ++ rest) := by
  by_cases same : next = state
  · rw [if_pos same, ← same]
    exact later
  · rw [if_neg same]
    refine ⟨?_, later⟩
    cases next <;> cases state <;> simp_all

theorem alternates_of_lawful (button : Button) {before : Buttons} {t : Pointer}
    {events : List (List MouseEvent)}
    (lawful : Machine.Along (packetHistory dpcOn) (fun seen p out =>
      Lawful screen seen.1 seen.2 p out.1 out.2.2) (before, pointer) packets)
    (ran : Machine.run (packetStep dpcOn) pointer packets = .ok (events, t)) :
    Alternates (before.get button) (changesOf button events.flatten) := by
  induction packets generalizing before pointer events with
  | nil =>
      cases ran
      trivial
  | cons p rest ih =>
      obtain ⟨sent, next, more, first, later, rfl⟩ := Machine.run_cons_ok ran
      obtain ⟨here, along⟩ := lawful _ (Machine.observe_of_ok first)
      rw [List.flatten_cons, changesOf, List.filterMap_append]
      change Alternates _ (changesOf button sent ++ changesOf button more.flatten)
      rw [here.buttons button]
      exact alternates_step (ih along later)

/-- The packets are processed once each and in their order, and the events and places
    are those of the packets exactly where each of them meets its condition. -/
theorem mouse_iff (screen : Screen) (d : Driver) (packets : List Packet)
    (groups : List (List Output)) (initialized : d.initialized = true) (first : d.stage = 0)
    (empty : d.pending = []) (inside : screen.Inside d.pointer)
    (stream : groups.flatten = packets.flatMap (Packet.bytes d.hasWheel)) :
    ∃ outs t done todo, Machine.run driverStep d groups = .ok (outs, t) ∧
      packets = done ++ todo ∧
      (∃ events, Machine.run (packetStep d.dpcOn) d.pointer done = .ok (events, t.pointer) ∧
        outs.flatten = events.flatten) ∧
      t.held ++ t.pending = todo.flatMap (Packet.bytes d.hasWheel) ∧
      (t.pending = [] → todo = []) ∧
      (Law screen d.dpcOn d.pointer done outs.flatten ↔
        Machine.Along (packetHistory d.dpcOn) (fun seen p _ => Right screen seen.1 seen.2 p)
          (d.pointer.old, d.pointer) done) := by
  have assembles : d.Assembles := ⟨initialized, first ▸ Nat.zero_le _⟩
  -- What is held and pending and what still comes are whole packets together.
  have whole : d.held ++ d.pending ++ groups.flatten =
      packets.flatMap (Packet.bytes d.hasWheel) := by
    simp [Driver.held, first, empty, stream]
  obtain ⟨outs, t, done, todo, ran, parts, processed⟩ :=
    run_processed groups packets assembles whole
  have unread := processed.unread
  rw [List.append_nil] at unread
  refine ⟨outs, t, done, todo, ran, parts, processed.ran, unread, processed_all processed, ?_⟩
  rw [← steps_iff inside]
  constructor
  · exact Law.steps
  · intro steps
    obtain ⟨events, packetsRan, same⟩ := processed.ran
    refine ⟨steps, fun button => ?_⟩
    rw [same]
    exact alternates_of_lawful button steps packetsRan

def blank : Driver where
  initialized := true
  hasWheel := false
  dpcOn := false
  stage := 0
  buffer _ := 0
  pointer := ⟨0, 0, 0, 0, false, ⟨false, false, false⟩⟩
  pending := []

def svga : Screen := ⟨800, 600, by decide, by decide⟩

/-- The left and the right button at once. -/
def bothButtons : Packet := ⟨0x0B, 0, 0, 0, by decide⟩

/-- The left button and five to the right. -/
def draggedRight : Packet := ⟨0x09, 5, 0, 0, by decide⟩

theorem mouse_in_two_interrupts :
    ∃ outs t done todo,
      Machine.run driverStep blank [[⟨true, 0x09⟩], [⟨true, 5⟩, ⟨true, 0⟩]] = .ok (outs, t) ∧
      [draggedRight] = done ++ todo ∧
      (∃ events, Machine.run (packetStep false) blank.pointer done = .ok (events, t.pointer) ∧
        outs.flatten = events.flatten) ∧
      t.held ++ t.pending = todo.flatMap (Packet.bytes false) ∧
      (t.pending = [] → todo = []) ∧
      (Law svga false blank.pointer done outs.flatten ↔
        Machine.Along (packetHistory false) (fun seen p _ => Right svga seen.1 seen.2 p)
          (blank.pointer.old, blank.pointer) done) :=
  mouse_iff svga blank [draggedRight] [[⟨true, 0x09⟩], [⟨true, 5⟩, ⟨true, 0⟩]] rfl rfl rfl
    (by unfold Screen.Inside; decide) rfl

/-- Two buttons are pressed in one packet, and the second press is never sent. -/
theorem second_press_lost :
    (deviceInterfacePS2Mouse blank (bothButtons.bytes false)).1 =
        [.raw MSG_MOUSEPRESSED 1 1 0 0] ∧
      ¬Law svga false blank.pointer [bothButtons] [.raw MSG_MOUSEPRESSED 1 1 0 0] := by
  refine ⟨by decide, fun law => ?_⟩
  obtain ⟨lawful, -⟩ := law.steps _ rfl
  have sent := lawful.buttons .right
  revert sent
  decide

end Histories

end Gramado.Chardev.Mouse
