/-
Messages between threads: `ipc_post_message_to_tid`, `ipc_post_message_to_tid2`
and `ipc_get_message` of ipc.c. A thread has 64 slots for messages, the code 0
in a slot says that it is empty. Left out are the printed lines and what only
the scheduler reads (the quantum); the wake-up in the posts prints and does
nothing else. A button message finds the mouse flag clear, since a get that
finds it set has returned before.
-/
import Gramado.Ke
import Gramado.Lib.Ring

namespace Gramado.Ke.Ipc

open Gramado.Lib

def THREAD_COUNT_MAX : Int32 := 512

def MSG_QUEUE_MAX : Nat := 64

def MSG_PAINT : Int32 := 8

def MSG_KEYDOWN : Int32 := 20

def MSG_MOUSEMOVE : Int32 := 32

def MSG_CONTROL_ARROW_UP : Int32 := 80

def MSG_CONTROL_ARROW_DOWN : Int32 := 81

def MSG_CONTROL_ARROW_LEFT : Int32 := 82

def MSG_CONTROL_ARROW_RIGHT : Int32 := 83

/-- `struct msg_d` without its validation fields. -/
structure Msg where
  opaqueWindow : UInt64
  msg : Int32
  long1 : UInt64
  long2 : UInt64
  long3 : UInt64
  long4 : UInt64
  senderTid : Int32
  receiverTid : Int32
  deriving DecidableEq, Repr

/-- A message that was taken out. -/
def Msg.cleared : Msg :=
  ⟨0, 0, 0, 0, 0, 0, 0, 0⟩

/-- `valid` says that `used` is TRUE and `magic` 1234. -/
structure Slot where
  valid : Bool
  content : Msg

/-- `mouseMove` and `paint` are two bits of `input_flags`. -/
structure Thread where
  used : Bool
  magic : Int32
  tid : Int32
  MsgQueue : Nat → Option Slot
  MsgQueueHead : Nat
  MsgQueueTail : Nat
  mouseMove : Bool
  paint : Bool
  blockOnEmpty : Bool
  blockInProgress : Bool
  missCount : Int32

structure Kernel where
  threadList : Int32 → Option Thread

def Kernel.setThread (k : Kernel) (tid : Int32) (t : Thread) : Kernel :=
  { threadList := fun i => if i = tid then some t else k.threadList i }

def Thread.setSlot (t : Thread) (index : Nat) (slot : Slot) : Thread :=
  { t with MsgQueue := fun i => if i = index then some slot else t.MsgQueue i }

def Thread.advanceTail (t : Thread) : Thread :=
  { t with MsgQueueTail := Ring.next MSG_QUEUE_MAX t.MsgQueueTail }

def Thread.advanceHead (t : Thread) : Thread :=
  { t with MsgQueueHead := Ring.next MSG_QUEUE_MAX t.MsgQueueHead }

/-- The checks of the receiver that both posts make; `none` where the thread is
    waiting for reuse. -/
def receiver (function : String) (k : Kernel) (dstTid : Int32) : Except Stop (Option Thread) :=
  if dstTid < 0 ∨ dstTid ≥ THREAD_COUNT_MAX then
    .error (.panic (function ++ ": dst_tid\n"))
  else
    match k.threadList dstTid with
    | none => .error (.panic (function ++ ": t\n"))
    | some t =>
        if t.used ≠ true ∨ t.magic ≠ 1234 then
          if t.magic = 4321 then
            .ok none
          else
            .error (.panic (function ++ ": t validation\n"))
        else if t.tid ≠ dstTid then
          .error (.panic (function ++ ": t->tid != dst_tid\n"))
        else
          .ok (some t)

/-- The message is put in the slot at the tail, whatever the slot holds. -/
def enqueue (function : String) (t : Thread) (m : Msg) : Except Stop Thread :=
  match t.MsgQueue t.MsgQueueTail with
  | none => .error (.panic (function ++ ": m\n"))
  | some slot =>
      if slot.valid then
        .ok (t.setSlot t.MsgQueueTail ⟨true, m⟩).advanceTail
      else
        .error (.panic (function ++ ": m validation\n"))

def ipcPostMessageToTid2 (k : Kernel) (srcTid dstTid msg : Int32)
    (long1 long2 long3 long4 : UInt64) : Except Stop (Int32 × Kernel) :=
  if msg < 0 then
    .ok (-1, k)
  else do
    match ← receiver "ipc_post_message_to_tid2" k dstTid with
    | none => .ok (-1, k)
    | some t =>
        let t ← enqueue "ipc_post_message_to_tid2" t
          ⟨0, msg, long1, long2, long3, long4, srcTid, dstTid⟩
        .ok (0, k.setThread dstTid t)

def isControlArrow (msg : Int32) : Bool :=
  msg = MSG_CONTROL_ARROW_UP || msg = MSG_CONTROL_ARROW_DOWN ||
    msg = MSG_CONTROL_ARROW_LEFT || msg = MSG_CONTROL_ARROW_RIGHT

/-- The last message as a repetition leaves it, if the new one repeats it. -/
def repeated (last new : Msg) : Option Msg :=
  if new.msg = MSG_KEYDOWN ∧ last.receiverTid = new.receiverTid ∧
      last.msg = MSG_KEYDOWN ∧ last.long1 = new.long1 then
    some { last with
      long1 := new.long1
      long2 := new.long2
      long3 := new.long3
      long4 := last.long4 + 1
      senderTid := new.senderTid
      receiverTid := new.receiverTid }
  else if isControlArrow new.msg ∧ last.receiverTid = new.receiverTid ∧ last.msg = new.msg then
    some { last with
      long3 := new.long3
      long4 := last.long4 + 1
      senderTid := new.senderTid
      receiverTid := new.receiverTid }
  else
    none

/-- The index of the slot before the tail. -/
def lastIndex (t : Thread) : Nat :=
  (t.MsgQueueTail - 1 + MSG_QUEUE_MAX : Int).toNat % MSG_QUEUE_MAX

/-- A message that is queued, or counted by the one before it. -/
def queueOrRepeat (t : Thread) (m : Msg) : Except Stop Thread :=
  if m.msg = MSG_KEYDOWN ∨ isControlArrow m.msg then
    match t.MsgQueue (lastIndex t) with
    | none => .error (.panic "ipc_post_message_to_tid: __last_msg\n")
    | some last =>
        if last.valid then
          match repeated last.content m with
          | some amended => .ok (t.setSlot (lastIndex t) ⟨true, amended⟩)
          | none => enqueue "ipc_post_message_to_tid" t m
        else
          .error (.panic "ipc_post_message_to_tid: __last_msg validation\n")
  else
    enqueue "ipc_post_message_to_tid" t m

def ipcPostMessageToTid (k : Kernel) (jiffies : UInt64) (srcTid dstTid msg : Int32)
    (long1 long2 : UInt64) : Except Stop (Int32 × Kernel) :=
  if msg ≤ 0 then
    .ok (-1, k)
  else do
    match ← receiver "ipc_post_message_to_tid" k dstTid with
    | none => .ok (-1, k)
    | some t =>
        -- Two codes only set a flag.
        if msg = MSG_MOUSEMOVE then
          .ok (0, k.setThread dstTid { t with mouseMove := true })
        else if msg = MSG_PAINT then
          .ok (0, k.setThread dstTid { t with paint := true })
        else do
          let t ← queueOrRepeat t ⟨0, msg, long1, long2, jiffies, jiffies, srcTid, dstTid⟩
          .ok (0, k.setThread dstTid t)

/-- Where the mouse is, relative to a window and on the screen. -/
structure Mouse where
  relX : UInt64
  relY : UInt64
  x : UInt64
  y : UInt64

/-- What a get gives: NULL, a message made from a flag, or one of the queue. -/
inductive Got where
  | null
  | mouseMove (mouse : Mouse)
  | paint
  | message (m : Msg) (jiffies : UInt64)

/-- The words of the caller's buffer that a get writes. -/
def Got.messageAddress : Got → List (Nat × UInt64)
  | .null => []
  | .mouseMove mouse =>
      [(0, 0), (1, MSG_MOUSEMOVE.toUInt32.toUInt64), (2, mouse.relX), (3, mouse.relY),
        (4, mouse.x), (5, mouse.y)]
  | .paint => [(0, 0), (1, MSG_PAINT.toUInt32.toUInt64), (2, 0), (3, 0)]
  | .message m jiffies =>
      [(0, m.opaqueWindow), (1, m.msg.toUInt32.toUInt64), (2, m.long1), (3, m.long2),
        (4, m.long3), (5, m.long4), (8, m.senderTid.toInt64.toUInt64),
        (9, m.receiverTid.toInt64.toUInt64), (10, m.long3), (11, jiffies)]

/-- The end of a get that has no message: the head moves on, and a thread that
    wants to block on an empty queue is marked after some rounds. -/
def noMessage (t : Thread) (empty : Bool) : Thread :=
  let t :=
    if t.blockOnEmpty ∧ empty ∧ t.missCount > 68 then
      { t with blockInProgress := true, missCount := 0 }
    else
      t
  t.advanceHead

def getFromQueue (t : Thread) (jiffies : UInt64) : Got × Thread :=
  match t.MsgQueue t.MsgQueueHead with
  | none => (.null, t)
  | some slot =>
      if slot.valid = false then
        (.null, noMessage t false)
      else if slot.content.msg ≤ 0 then
        (.null, noMessage { t with missCount := t.missCount + 1 } true)
      else
        (.message slot.content jiffies,
          (t.setSlot t.MsgQueueHead ⟨true, Msg.cleared⟩).advanceHead)

def ipcGetMessage (k : Kernel) (currentTid : Int32) (ubuf jiffies : UInt64) (mouse : Mouse) :
    Except Stop (Got × Kernel) :=
  if ubuf = 0 then
    .error (.panic "ipc_get_message: ubuf\n")
  else if currentTid < 0 ∨ currentTid ≥ THREAD_COUNT_MAX then
    .ok (.null, k)
  else
    match k.threadList currentTid with
    | none => .error (.panic "ipc_get_message: t\n")
    | some t =>
        if t.used ≠ true ∨ t.magic ≠ 1234 then
          .error (.panic "ipc_get_message: t validation\n")
        else if t.mouseMove then
          .ok (.mouseMove mouse, k.setThread currentTid { t with mouseMove := false })
        else if t.paint then
          .ok (.paint, k.setThread currentTid { t with paint := false })
        else
          let (got, t) := getFromQueue t jiffies
          .ok (got, k.setThread currentTid t)

section Updates

variable {k : Kernel} {t : Thread} {tid other : Int32} {index i : Nat} {slot : Slot}

@[simp] theorem setThread_self : (k.setThread tid t).threadList tid = some t := by
  simp [Kernel.setThread]

theorem setThread_other (apart : other ≠ tid) :
    (k.setThread tid t).threadList other = k.threadList other := by
  simp [Kernel.setThread, apart]

@[simp] theorem setSlot_self : (t.setSlot index slot).MsgQueue index = some slot := by
  simp [Thread.setSlot]

theorem setSlot_other (apart : i ≠ index) :
    (t.setSlot index slot).MsgQueue i = t.MsgQueue i := by
  simp [Thread.setSlot, apart]

@[simp] theorem advanceTail_queue : t.advanceTail.MsgQueue = t.MsgQueue := rfl

@[simp] theorem advanceHead_queue : t.advanceHead.MsgQueue = t.MsgQueue := rfl

end Updates

end Gramado.Ke.Ipc
