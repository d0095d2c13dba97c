/-
The messages of a thread, first in first out. A get that finds the queue empty
moves the head past the tail, a message with code 0 cannot be told from an
empty slot, and a post to a full ring writes over the oldest message.
-/
import Gramado.Ke.Ipc
import Gramado.Lib.Fallible
import Gramado.Lib.Machine

namespace Gramado.Ke.MessageQueue

open Gramado.Ke.Ipc
open Gramado.Lib
open Gramado.Lib.Fallible
open Gramado.Lib.Machine

/-- The time and the mouse position that a call reads come with it. -/
inductive Request where
  | post (jiffies : UInt64) (srcTid dstTid msg : Int32) (long1 long2 : UInt64)
  | post2 (srcTid dstTid msg : Int32) (long1 long2 long3 long4 : UInt64)
  | get (currentTid : Int32) (ubuf jiffies : UInt64) (mouse : Mouse)

inductive Reply where
  | value (rv : Int32)
  | got (got : Got)

def serve (k : Kernel) : Request → Except Stop (Reply × Kernel)
  | .post jiffies srcTid dstTid msg long1 long2 =>
      (ipcPostMessageToTid k jiffies srcTid dstTid msg long1 long2).map
        fun out => (.value out.1, out.2)
  | .post2 srcTid dstTid msg long1 long2 long3 long4 =>
      (ipcPostMessageToTid2 k srcTid dstTid msg long1 long2 long3 long4).map
        fun out => (.value out.1, out.2)
  | .get currentTid ubuf jiffies mouse =>
      (ipcGetMessage k currentTid ubuf jiffies mouse).map fun out => (.got out.1, out.2)

/-- What was posted to a thread and what it got, and which flags are pending. -/
structure Traffic where
  posted : List Msg
  received : List Msg
  mouseMove : Bool
  paint : Bool

def Traffic.none : Traffic :=
  ⟨[], [], false, false⟩

/-- The last posted message, if the thread did not get it yet. -/
def Traffic.last (traffic : Traffic) : Option Msg :=
  if traffic.received.length < traffic.posted.length then traffic.posted.getLast? else .none

/-- The last pending message with the repetition counted, if the new one repeats it. -/
def Traffic.repeats (traffic : Traffic) (m : Msg) : Option Msg :=
  traffic.last.bind fun last => repeated last m

def Traffic.add (traffic : Traffic) (m : Msg) : Traffic :=
  { traffic with posted :=
      match traffic.repeats m with
      | some amended => traffic.posted.dropLast ++ [amended]
      | .none => traffic.posted ++ [m] }

def Traffic.get (traffic : Traffic) : Got → Traffic
  | .null => traffic
  | .mouseMove _ => { traffic with mouseMove := false }
  | .paint => { traffic with paint := false }
  | .message m _ => { traffic with received := traffic.received ++ [m] }

def note (tid : Int32) (traffic : Traffic) (_ : Kernel) (request : Request)
    (out : Reply × Kernel) : Traffic :=
  match request, out.1 with
  | .post jiffies srcTid dstTid msg long1 long2, .value rv =>
      if dstTid = tid ∧ rv = 0 then
        if msg = MSG_MOUSEMOVE then
          { traffic with mouseMove := true }
        else if msg = MSG_PAINT then
          { traffic with paint := true }
        else
          traffic.add ⟨0, msg, long1, long2, jiffies, jiffies, srcTid, dstTid⟩
      else
        traffic
  | .post2 srcTid dstTid msg long1 long2 long3 long4, .value rv =>
      if dstTid = tid ∧ rv = 0 then
        { traffic with posted :=
            traffic.posted ++ [⟨0, msg, long1, long2, long3, long4, srcTid, dstTid⟩] }
      else
        traffic
  | .get currentTid _ _ _, .got got =>
      if currentTid = tid then traffic.get got else traffic
  | _, _ => traffic

/-- A post that is queued finds room or repeats the last pending message, and a
    get finds a flag or a message pending. -/
def InTurn (tid : Int32) (traffic : Traffic) : Request → Prop
  | .post jiffies srcTid dstTid msg long1 long2 =>
      dstTid = tid → 0 < msg → msg ≠ MSG_MOUSEMOVE → msg ≠ MSG_PAINT →
        traffic.posted.length < traffic.received.length + MSG_QUEUE_MAX ∨
          (traffic.repeats ⟨0, msg, long1, long2, jiffies, jiffies, srcTid, dstTid⟩).isSome
  | .post2 _ dstTid msg _ _ _ _ =>
      dstTid = tid → 0 ≤ msg →
        0 < msg ∧ traffic.posted.length < traffic.received.length + MSG_QUEUE_MAX
  | .get currentTid _ _ _ =>
      currentTid = tid → traffic.mouseMove = true ∨ traffic.paint = true ∨
        traffic.received.length < traffic.posted.length

def Stores (t : Thread) (i : Nat) (m : Msg) : Prop :=
  t.MsgQueue i = some ⟨true, m⟩

def Busy (t : Thread) (i : Nat) : Prop :=
  ∃ slot, t.MsgQueue i = some slot ∧ 0 < slot.content.msg

/-- The thread is in its place, and has its slots. -/
structure Sound (tid : Int32) (t : Thread) : Prop where
  used : t.used = true
  magic : t.magic = 1234
  own : t.tid = tid
  slots : ∀ i, i < MSG_QUEUE_MAX → ∃ m, t.MsgQueue i = some ⟨true, m⟩
  head_lt : t.MsgQueueHead < MSG_QUEUE_MAX
  tail_lt : t.MsgQueueTail < MSG_QUEUE_MAX

/-- The posted messages are the received ones followed by those in the ring. -/
structure Orderly (traffic : Traffic) (t : Thread) : Prop where
  mouseMove : t.mouseMove = traffic.mouseMove
  paint : t.paint = traffic.paint
  conserved : ∃ waiting, traffic.posted = traffic.received ++ waiting ∧
    Ring.Holds MSG_QUEUE_MAX (Busy t) (Stores t) t.MsgQueueHead t.MsgQueueTail waiting

section Threads

variable {tid : Int32} {t u : Thread} {traffic : Traffic} {m x : Msg} {i : Nat}
  {waiting front : List Msg} {function : String}

theorem Sound.setSlot (sound : Sound tid t) : Sound tid (t.setSlot i ⟨true, m⟩) := by
  refine ⟨sound.used, sound.magic, sound.own, ?_, sound.head_lt, sound.tail_lt⟩
  intro j inside
  by_cases here : j = i
  · rw [here]
    exact ⟨m, setSlot_self⟩
  · rw [setSlot_other here]
    exact sound.slots j inside

theorem Sound.advanceTail (sound : Sound tid t) : Sound tid t.advanceTail :=
  ⟨sound.used, sound.magic, sound.own, sound.slots, sound.head_lt, Ring.next_lt (by decide)⟩

theorem Sound.advanceHead (sound : Sound tid t) : Sound tid t.advanceHead :=
  ⟨sound.used, sound.magic, sound.own, sound.slots, Ring.next_lt (by decide), sound.tail_lt⟩

theorem stores_setSlot {j : Nat} (apart : j ≠ i) {slot : Slot} (stores : Stores t j x) :
    Stores (t.setSlot i slot) j x := by
  rwa [Stores, setSlot_other apart]

theorem busy_setSlot {j : Nat} (apart : j ≠ i) {slot : Slot} :
    Busy (t.setSlot i slot) j ↔ Busy t j := by
  rw [Busy, setSlot_other apart, Busy]

theorem busy_of_stores (stores : Stores t i m) : Busy t i ↔ 0 < m.msg := by
  constructor
  · rintro ⟨slot, there, positive⟩
    rw [Stores, there] at stores
    cases stores
    exact positive
  · intro positive
    exact ⟨_, stores, positive⟩

theorem stores_self : Stores (t.setSlot i ⟨true, m⟩) i m :=
  setSlot_self

theorem waiting_positive (ring : Ring.Holds MSG_QUEUE_MAX (Busy t) (Stores t) t.MsgQueueHead
    t.MsgQueueTail waiting) {k : Nat} (found : waiting[k]? = some m) : 0 < m.msg := by
  have inside : k < waiting.length := (List.getElem?_eq_some_iff.mp found).1
  exact (busy_of_stores (ring.cells k m found)).mp (ring.busy k inside)

theorem enqueue_ok (sound : Sound tid t) : enqueue function t m =
    .ok (t.setSlot t.MsgQueueTail ⟨true, m⟩).advanceTail := by
  rcases sound.slots _ sound.tail_lt with ⟨old, there⟩
  rw [enqueue, there]
  rfl

/-- A message that is queued is in order if and only if its code is positive and
    there is room. -/
theorem orderly_enqueue (orderly : Orderly traffic t) :
    Orderly { traffic with posted := traffic.posted ++ [m] }
        (t.setSlot t.MsgQueueTail ⟨true, m⟩).advanceTail ↔
      0 < m.msg ∧ traffic.posted.length < traffic.received.length + MSG_QUEUE_MAX := by
  rcases orderly with ⟨mouse, paint, waiting, conserved, ring⟩
  have count : traffic.posted.length = traffic.received.length + waiting.length := by
    rw [conserved, List.length_append]
  constructor
  · rintro ⟨-, -, after, account, layout⟩
    rw [conserved, List.append_assoc] at account
    have same := List.append_cancel_left account
    subst same
    have fits := layout.fits
    rw [List.length_append, List.length_singleton] at fits
    refine ⟨waiting_positive layout List.getElem?_concat_length, by omega⟩
  · rintro ⟨positive, room⟩
    refine ⟨mouse, paint, waiting ++ [m], by rw [conserved, List.append_assoc], ?_⟩
    apply ring.push (by omega)
    · exact (busy_of_stores stores_self).mpr positive
    · exact stores_self
    · exact fun k apart => busy_setSlot apart
    · exact fun k y apart stores => stores_setSlot apart stores

/-- The slot before the tail has the last pending message; where nothing is
    pending it is empty. -/
theorem lastIndex_of_waiting (ring : Ring.Holds MSG_QUEUE_MAX (Busy t) (Stores t) t.MsgQueueHead
    t.MsgQueueTail (front ++ [x])) :
    lastIndex t = Ring.place MSG_QUEUE_MAX t.MsgQueueHead front.length := by
  have behind := ring.tail_at
  have size : MSG_QUEUE_MAX = 64 := rfl
  rw [List.length_append, List.length_singleton, Ring.place, size] at behind
  rw [lastIndex, Ring.place, size, behind]
  omega

theorem lastIndex_of_empty (ring : Ring.Holds MSG_QUEUE_MAX (Busy t) (Stores t) t.MsgQueueHead
    t.MsgQueueTail []) : lastIndex t = Ring.place MSG_QUEUE_MAX t.MsgQueueHead 63 := by
  have behind := ring.tail_at
  have size : MSG_QUEUE_MAX = 64 := rfl
  rw [List.length_nil, Ring.place, size] at behind
  rw [lastIndex, Ring.place, size, behind]
  omega

theorem lastIndex_lt : lastIndex t < MSG_QUEUE_MAX :=
  Nat.mod_lt _ (by decide)

/-- Only a message with a positive code is repeated, by one with its code. -/
theorem repeated_positive {amended : Msg} (repeats : repeated x m = some amended) :
    0 < x.msg ∧ amended.msg = x.msg := by
  unfold repeated at repeats
  split at repeats
  · rename_i key
    cases repeats
    rw [key.2.2.1]
    exact ⟨by decide, rfl⟩
  · split at repeats
    · rename_i arrow
      cases repeats
      refine ⟨?_, rfl⟩
      rw [arrow.2.2]
      have codes := arrow.1
      simp only [isControlArrow, Bool.or_eq_true, decide_eq_true_eq] at codes
      rcases codes with ((up | down) | left) | right
      · rw [up]
        decide
      · rw [down]
        decide
      · rw [left]
        decide
      · rw [right]
        decide
    · cases repeats

theorem not_repeated (other : ¬(m.msg = MSG_KEYDOWN ∨ isControlArrow m.msg)) :
    repeated x m = none := by
  rw [not_or] at other
  rw [repeated, if_neg fun key => other.1 key.1, if_neg fun arrow => other.2 arrow.1]

theorem last_of_waiting (conserved : traffic.posted = traffic.received ++ (front ++ [x])) :
    traffic.last = some x := by
  have more : traffic.received.length < traffic.posted.length := by
    rw [conserved, List.length_append, List.length_append, List.length_singleton]
    omega
  rw [Traffic.last, if_pos more, conserved, ← List.append_assoc, List.getLast?_concat]

theorem last_of_empty (conserved : traffic.posted = traffic.received ++ []) :
    traffic.last = Option.none := by
  rw [List.append_nil] at conserved
  rw [Traffic.last, conserved, if_neg (Nat.lt_irrefl _)]

theorem repeats_eq (orderly : Orderly traffic t) {last : Msg}
    (there : t.MsgQueue (lastIndex t) = some ⟨true, last⟩) :
    traffic.repeats m = repeated last m := by
  rcases orderly with ⟨-, -, waiting, conserved, ring⟩
  rcases List.eq_nil_or_concat' waiting with rfl | ⟨front, newest, rfl⟩
  · rw [Traffic.repeats, last_of_empty conserved]
    cases repeats : repeated last m with
    | none => rfl
    | some amended =>
        have busy : Busy t (lastIndex t) := ⟨_, there, (repeated_positive repeats).1⟩
        rw [lastIndex_of_empty ring] at busy
        exact absurd busy (ring.free 63 (Nat.zero_le _) (by decide))
  · have stored := ring.cells front.length newest List.getElem?_concat_length
    rw [← lastIndex_of_waiting ring, Stores, there] at stored
    cases stored
    rw [Traffic.repeats, last_of_waiting conserved]
    rfl

/-- A repetition is counted in the last pending message, and nothing moves. -/
theorem orderly_repeat (orderly : Orderly traffic t) {last amended : Msg}
    (there : t.MsgQueue (lastIndex t) = some ⟨true, last⟩)
    (repeats : repeated last m = some amended) (same : traffic.repeats m = some amended) :
    Orderly (traffic.add m) (t.setSlot (lastIndex t) ⟨true, amended⟩) := by
  rcases orderly with ⟨mouse, paint, waiting, conserved, ring⟩
  rcases List.eq_nil_or_concat' waiting with rfl | ⟨front, newest, rfl⟩
  · rw [Traffic.repeats, last_of_empty conserved] at same
    cases same
  · have place := lastIndex_of_waiting ring
    have stored := ring.cells front.length newest List.getElem?_concat_length
    rw [← place, Stores, there] at stored
    cases stored
    have positive := repeated_positive repeats
    refine ⟨mouse, paint, front ++ [amended], ?_, ?_⟩
    · simp only [Traffic.add, same]
      rw [conserved, ← List.append_assoc, List.dropLast_concat, List.append_assoc]
    · rw [place]
      apply ring.amend
      · apply (busy_of_stores stores_self).mpr
        rw [positive.2]
        exact positive.1
      · exact stores_self
      · exact fun k apart => busy_setSlot apart
      · exact fun k y apart stores => stores_setSlot apart stores

theorem orderly_add (orderly : Orderly traffic t) (positive : 0 < m.msg)
    (fresh : traffic.repeats m = none) :
    Orderly (traffic.add m) (t.setSlot t.MsgQueueTail ⟨true, m⟩).advanceTail ↔
      traffic.posted.length < traffic.received.length + MSG_QUEUE_MAX ∨
        (traffic.repeats m).isSome := by
  have add : traffic.add m = { traffic with posted := traffic.posted ++ [m] } := by
    simp only [Traffic.add, fresh]
  rw [add, orderly_enqueue orderly, fresh]
  simp [positive]

/-- A message from `ipc_post_message_to_tid` with a positive code is in order if
    and only if there is room for it or it repeats the last. -/
theorem queueOrRepeat_spec (sound : Sound tid t) (positive : 0 < m.msg) :
    Returns (queueOrRepeat t m) fun u => Sound tid u ∧ ∀ traffic, Orderly traffic t →
      (Orderly (traffic.add m) u ↔
        traffic.posted.length < traffic.received.length + MSG_QUEUE_MAX ∨
          (traffic.repeats m).isSome) := by
  rcases sound.slots _ lastIndex_lt with ⟨last, there⟩
  have queued : Sound tid (t.setSlot t.MsgQueueTail ⟨true, m⟩).advanceTail :=
    sound.setSlot.advanceTail
  rw [queueOrRepeat]
  by_cases looks : m.msg = MSG_KEYDOWN ∨ isControlArrow m.msg
  · rw [if_pos looks, there]
    simp only [if_true]
    cases repeats : repeated last m with
    | some amended =>
        simp only [returns_ok]
        refine ⟨sound.setSlot, fun traffic orderly => ?_⟩
        have same := (repeats_eq orderly there).trans repeats
        have kept := orderly_repeat orderly there repeats same
        simp [kept, same]
    | none =>
        simp only [enqueue_ok sound, returns_ok]
        exact ⟨queued, fun traffic orderly =>
          orderly_add orderly positive ((repeats_eq orderly there).trans repeats)⟩
  · rw [if_neg looks]
    simp only [enqueue_ok sound, returns_ok]
    exact ⟨queued, fun traffic orderly =>
      orderly_add orderly positive ((repeats_eq orderly there).trans (not_repeated looks))⟩

/-- A get without a message moves the head and nothing else of the queue. -/
theorem noMessage_queue {empty : Bool} : (noMessage t empty).MsgQueue = t.MsgQueue ∧
    (noMessage t empty).MsgQueueHead = Ring.next MSG_QUEUE_MAX t.MsgQueueHead ∧
    (noMessage t empty).MsgQueueTail = t.MsgQueueTail := by
  simp only [noMessage]
  split
  · exact ⟨rfl, rfl, rfl⟩
  · exact ⟨rfl, rfl, rfl⟩

theorem Sound.noMessage {empty : Bool} (sound : Sound tid t) :
    Sound tid (noMessage t empty) := by
  unfold Ipc.noMessage
  simp only
  split
  · exact ⟨sound.used, sound.magic, sound.own, sound.slots, Ring.next_lt (by decide),
      sound.tail_lt⟩
  · exact sound.advanceHead

theorem not_orderly_of_passed (orderly : Orderly traffic t) (passed : Orderly traffic u)
    (none : traffic.posted = traffic.received)
    (head : u.MsgQueueHead = Ring.next MSG_QUEUE_MAX t.MsgQueueHead)
    (tail : u.MsgQueueTail = t.MsgQueueTail) : False := by
  rcases orderly with ⟨-, -, waiting, conserved, ring⟩
  rcases passed with ⟨-, -, after, account, layout⟩
  have early : waiting = [] := by simpa [none] using conserved
  have late : after = [] := by simpa [none] using account
  subst early late
  have apart := Ring.place_succ_ne (k := 0) ring.head_lt (by decide)
  have behind := layout.tail_at
  have here := ring.tail_at
  rw [List.length_nil] at behind here
  rw [tail, head, Ring.place_next ring.head_lt] at behind
  rw [Ring.place_zero ring.head_lt] at here
  exact apart (behind.symm.trans here)

/-- A get from the queue is in order if and only if something is pending. -/
theorem getFromQueue_spec (sound : Sound tid t) (jiffies : UInt64) :
    Sound tid (getFromQueue t jiffies).2 ∧ ∀ traffic, Orderly traffic t →
      (Orderly (traffic.get (getFromQueue t jiffies).1) (getFromQueue t jiffies).2 ↔
        traffic.received.length < traffic.posted.length) := by
  rcases sound.slots _ sound.head_lt with ⟨m, there⟩
  have valid : ¬true = false := by decide
  by_cases code : m.msg ≤ 0
  · -- Nothing at the head, so nothing waits; a call that passes the head over loses its place.
    have got : getFromQueue t jiffies =
        (.null, noMessage { t with missCount := t.missCount + 1 } true) := by
      simp only [getFromQueue, there, if_neg valid, if_pos code]
    have counted : Sound tid { t with missCount := t.missCount + 1 } :=
      ⟨sound.used, sound.magic, sound.own, sound.slots, sound.head_lt, sound.tail_lt⟩
    rw [got]
    refine ⟨counted.noMessage, fun traffic orderly => ?_⟩
    have none : traffic.posted = traffic.received := by
      rcases orderly with ⟨-, -, waiting, conserved, ring⟩
      have empty : waiting = [] := by
        by_contra some
        rcases ring.head_busy_iff.mpr some with ⟨slot, here, positive⟩
        rw [there] at here
        cases here
        exact absurd positive (Int32.not_lt.mpr code)
      rw [conserved, empty, List.append_nil]
    constructor
    · intro passed
      exact (not_orderly_of_passed orderly passed none noMessage_queue.2.1
        noMessage_queue.2.2).elim
    · intro more
      rw [none] at more
      exact absurd more (Nat.lt_irrefl _)
  · -- The head holds the first of those that wait.
    have got : getFromQueue t jiffies = (.message m jiffies,
        (t.setSlot t.MsgQueueHead ⟨true, Msg.cleared⟩).advanceHead) := by
      simp only [getFromQueue, there, if_neg valid, if_neg code]
    rw [got]
    refine ⟨sound.setSlot.advanceHead, ?_⟩
    rintro traffic ⟨mouse, paint, waiting, conserved, ring⟩
    have busy : Busy t t.MsgQueueHead := ⟨_, there, Int32.not_le.mp code⟩
    cases waiting with
    | nil => exact absurd rfl (ring.head_busy_iff.mp busy)
    | cons first rest =>
        have stored := ring.cells 0 first rfl
        rw [Ring.place_zero ring.head_lt, Stores, there] at stored
        cases stored
        constructor
        · intro _
          rw [conserved, List.length_append, List.length_cons]
          omega
        · intro _
          refine ⟨mouse, paint, rest, ?_, ?_⟩
          · simp [Traffic.get, conserved]
          · apply ring.pop
            · intro still
              exact absurd ((busy_of_stores stores_self).mp still) (by decide)
            · exact fun k apart => busy_setSlot apart
            · exact fun k y apart stores => stores_setSlot apart stores

end Threads

section Steps

variable {tid other : Int32} {k : Kernel} {t : Thread} {traffic : Traffic} {function : String}

theorem receiver_ok (there : k.threadList tid = some t) (sound : Sound tid t) :
    Returns (receiver function k tid) fun found => found = some t := by
  have valid : ¬(t.used ≠ true ∨ t.magic ≠ 1234) := by
    rw [sound.used, sound.magic]
    decide
  rw [receiver]
  simp only [returns_ite, returns_error, implies_true, true_and, there, if_neg valid,
    if_neg (not_not.mpr sound.own), returns_ok]

/-- The thread after a step, and when the step was in order. -/
structure Stepped (tid : Int32) (t : Thread) (k : Kernel) (request : Request)
    (out : Reply × Kernel) (u : Thread) : Prop where
  there : out.2.threadList tid = some u
  sound : Sound tid u
  exact : ∀ traffic, Orderly traffic t →
    (Orderly (note tid traffic k request out) u ↔ InTurn tid traffic request)

theorem post_own (there : k.threadList tid = some t) (sound : Sound tid t)
    {jiffies long1 long2 : UInt64} {srcTid msg : Int32} :
    Returns (serve k (.post jiffies srcTid tid msg long1 long2)) fun out =>
      ∃ u, Stepped tid t k (.post jiffies srcTid tid msg long1 long2) out u := by
  intro out served
  simp only [serve, ipcPostMessageToTid] at served
  by_cases code : msg ≤ 0
  · rw [if_pos code] at served
    cases served
    refine ⟨t, there, sound, fun traffic orderly => ?_⟩
    simp only [note]
    constructor
    · intro _ _ positive
      exact absurd positive (Int32.not_lt.mpr code)
    · intro _
      exact orderly
  · have positive : 0 < msg := Int32.not_le.mp code
    rw [if_neg code] at served
    cases found : receiver "ipc_post_message_to_tid" k tid with
    | error stop =>
        rw [found] at served
        cases served
    | ok target =>
        -- The thread is found, as it is sound.
        have self : target = some t := receiver_ok there sound target found
        subst self
        rw [found] at served
        simp only [bind, Except.bind] at served
        by_cases mouse : msg = MSG_MOUSEMOVE
        · rw [if_pos mouse] at served
          cases served
          refine ⟨_, setThread_self, ⟨sound.used, sound.magic, sound.own, sound.slots,
            sound.head_lt, sound.tail_lt⟩, fun traffic orderly => ?_⟩
          simp only [note, and_self, if_true, if_pos mouse]
          constructor
          · intro _ _ _ no
            exact absurd mouse no
          · intro _
            exact ⟨rfl, orderly.paint, orderly.conserved⟩
        · rw [if_neg mouse] at served
          by_cases paint : msg = MSG_PAINT
          · rw [if_pos paint] at served
            cases served
            refine ⟨_, setThread_self, ⟨sound.used, sound.magic, sound.own, sound.slots,
              sound.head_lt, sound.tail_lt⟩, fun traffic orderly => ?_⟩
            simp only [note, and_self, if_true, if_neg mouse, if_pos paint]
            constructor
            · intro _ _ _ _ no
              exact absurd paint no
            · intro _
              exact ⟨orderly.mouseMove, rfl, orderly.conserved⟩
          · rw [if_neg paint] at served
            -- A message that is no flag.
            cases queued : queueOrRepeat t
                ⟨0, msg, long1, long2, jiffies, jiffies, srcTid, tid⟩ with
            | error stop =>
                rw [queued] at served
                cases served
            | ok u =>
                rw [queued] at served
                cases served
                rcases queueOrRepeat_spec sound positive u queued with ⟨kept, exact⟩
                refine ⟨u, setThread_self, kept, fun traffic orderly => ?_⟩
                simp only [note, and_self, if_true, if_neg mouse, if_neg paint]
                rw [exact traffic orderly]
                constructor
                · exact fun room _ _ _ _ => room
                · exact fun turn => turn rfl positive mouse paint

theorem post2_own (there : k.threadList tid = some t) (sound : Sound tid t)
    {long1 long2 long3 long4 : UInt64} {srcTid msg : Int32} :
    Returns (serve k (.post2 srcTid tid msg long1 long2 long3 long4)) fun out =>
      ∃ u, Stepped tid t k (.post2 srcTid tid msg long1 long2 long3 long4) out u := by
  intro out served
  simp only [serve, ipcPostMessageToTid2] at served
  by_cases code : msg < 0
  · rw [if_pos code] at served
    cases served
    refine ⟨t, there, sound, fun traffic orderly => ?_⟩
    simp only [note]
    constructor
    · intro _ _ nonneg
      exact absurd code (Int32.not_lt.mpr nonneg)
    · intro _
      exact orderly
  · rw [if_neg code] at served
    cases found : receiver "ipc_post_message_to_tid2" k tid with
    | error stop =>
        rw [found] at served
        cases served
    | ok target =>
        have self : target = some t := receiver_ok there sound target found
        subst self
        rw [found] at served
        simp only [bind, Except.bind, enqueue_ok sound] at served
        cases served
        refine ⟨_, setThread_self, sound.setSlot.advanceTail, fun traffic orderly => ?_⟩
        simp only [note, and_self, if_true]
        rw [orderly_enqueue orderly]
        constructor
        · exact fun room _ _ => room
        · exact fun turn => turn rfl (Int32.not_lt.mp code)

theorem get_own (there : k.threadList tid = some t) (sound : Sound tid t)
    {ubuf jiffies : UInt64} {mouse : Mouse} (place : ¬(tid < 0 ∨ tid ≥ THREAD_COUNT_MAX)) :
    Returns (serve k (.get tid ubuf jiffies mouse)) fun out =>
      ∃ u, Stepped tid t k (.get tid ubuf jiffies mouse) out u := by
  intro out served
  have valid : ¬(t.used ≠ true ∨ t.magic ≠ 1234) := by
    rw [sound.used, sound.magic]
    decide
  simp only [serve, ipcGetMessage, if_neg place, there, if_neg valid] at served
  by_cases null : ubuf = 0
  · rw [if_pos null] at served
    cases served
  · rw [if_neg null] at served
    by_cases moved : t.mouseMove = true
    · rw [if_pos moved] at served
      cases served
      refine ⟨_, setThread_self, ⟨sound.used, sound.magic, sound.own, sound.slots,
        sound.head_lt, sound.tail_lt⟩, fun traffic orderly => ?_⟩
      simp only [note, if_true]
      constructor
      · intro _ _
        exact Or.inl (orderly.mouseMove ▸ moved)
      · intro _
        exact ⟨rfl, orderly.paint, orderly.conserved⟩
    · rw [if_neg moved] at served
      by_cases dirty : t.paint = true
      · rw [if_pos dirty] at served
        cases served
        refine ⟨_, setThread_self, ⟨sound.used, sound.magic, sound.own, sound.slots,
          sound.head_lt, sound.tail_lt⟩, fun traffic orderly => ?_⟩
        simp only [note, if_true]
        constructor
        · intro _ _
          exact Or.inr (Or.inl (orderly.paint ▸ dirty))
        · intro _
          exact ⟨orderly.mouseMove, rfl, orderly.conserved⟩
      · rw [if_neg dirty] at served
        cases served
        rcases getFromQueue_spec sound jiffies with ⟨kept, exact⟩
        refine ⟨_, setThread_self, kept, fun traffic orderly => ?_⟩
        simp only [note, if_true]
        rw [exact traffic orderly]
        constructor
        · exact fun more _ => Or.inr (Or.inr more)
        · intro turn
          rcases turn rfl with flag | flag | more
          · exact absurd (orderly.mouseMove.trans flag) moved
          · exact absurd (orderly.paint.trans flag) dirty
          · exact more

/-- The thread that a call is for. -/
def Request.target : Request → Int32
  | .post _ _ dstTid _ _ _ => dstTid
  | .post2 _ dstTid _ _ _ _ _ => dstTid
  | .get currentTid _ _ _ => currentTid

theorem serve_target {request : Request} : Returns (serve k request) fun out =>
    out.2 = k ∨ ∃ u, out.2 = k.setThread request.target u := by
  intro out served
  cases request with
  -- A post stops in the checks, or stores the thread that it was made for: with a flag, with the
  -- current message amended, or with the message queued.
  | post jiffies srcTid dstTid msg long1 long2 =>
      simp only [serve, ipcPostMessageToTid] at served
      split at served
      · cases served
        exact Or.inl rfl
      · cases found : receiver "ipc_post_message_to_tid" k dstTid with
        | error stop =>
            rw [found] at served
            cases served
        | ok target =>
            rw [found] at served
            cases target with
            | none =>
                cases served
                exact Or.inl rfl
            | some u =>
                simp only [bind, Except.bind] at served
                split at served
                · cases served
                  exact Or.inr ⟨_, rfl⟩
                · split at served
                  · cases served
                    exact Or.inr ⟨_, rfl⟩
                  · cases queued : queueOrRepeat u
                        ⟨0, msg, long1, long2, jiffies, jiffies, srcTid, dstTid⟩ with
                    | error stop =>
                        rw [queued] at served
                        cases served
                    | ok v =>
                        rw [queued] at served
                        cases served
                        exact Or.inr ⟨v, rfl⟩
  | post2 srcTid dstTid msg long1 long2 long3 long4 =>
      simp only [serve, ipcPostMessageToTid2] at served
      split at served
      · cases served
        exact Or.inl rfl
      · cases found : receiver "ipc_post_message_to_tid2" k dstTid with
        | error stop =>
            rw [found] at served
            cases served
        | ok target =>
            rw [found] at served
            cases target with
            | none =>
                cases served
                exact Or.inl rfl
            | some u =>
                simp only [bind, Except.bind] at served
                cases queued : enqueue "ipc_post_message_to_tid2" u
                    ⟨0, msg, long1, long2, long3, long4, srcTid, dstTid⟩ with
                | error stop =>
                    rw [queued] at served
                    cases served
                | ok v =>
                    rw [queued] at served
                    cases served
                    exact Or.inr ⟨v, rfl⟩
  | get currentTid ubuf jiffies mouse =>
      simp only [serve, ipcGetMessage] at served
      split at served
      · cases served
      · split at served
        · cases served
          exact Or.inl rfl
        · split at served
          · cases served
          · split at served
            · cases served
            · split at served
              · cases served
                exact Or.inr ⟨_, rfl⟩
              · split at served
                · cases served
                  exact Or.inr ⟨_, rfl⟩
                · cases served
                  exact Or.inr ⟨_, rfl⟩

theorem note_other {request : Request} (apart : request.target ≠ tid)
    (out : Reply × Kernel) : note tid traffic k request out = traffic := by
  cases request <;> cases reply : out.1 <;> simp only [note, reply]
  · exact if_neg fun here => apart here.1
  · exact if_neg fun here => apart here.1
  · exact if_neg apart

theorem inTurn_other {request : Request} (apart : request.target ≠ tid) :
    InTurn tid traffic request := by
  cases request <;> exact fun here => absurd here apart

/-- A call to a thread in its place keeps the thread so, and keeps the messages
    in order if and only if it is made in its turn. -/
theorem serve_stepped (there : k.threadList tid = some t) (sound : Sound tid t)
    (place : ¬(tid < 0 ∨ tid ≥ THREAD_COUNT_MAX)) {request : Request} :
    Returns (serve k request) fun out => ∃ u, Stepped tid t k request out u := by
  by_cases apart : request.target = tid
  · cases request with
    | post jiffies srcTid dstTid msg long1 long2 =>
        cases apart
        exact post_own there sound
    | post2 srcTid dstTid msg long1 long2 long3 long4 =>
        cases apart
        exact post2_own there sound
    | get currentTid ubuf jiffies mouse =>
        cases apart
        exact get_own there sound place
  · intro out served
    refine ⟨t, ?_, sound, ?_⟩
    · rcases serve_target out served with same | ⟨u, changed⟩
      · rw [same, there]
      · rw [changed, setThread_other (Ne.symm apart), there]
    · intro traffic orderly
      rw [note_other apart]
      exact ⟨fun _ => inTurn_other apart, fun _ => orderly⟩

end Steps

/-- A thread that was just created, in its place in the table. -/
structure Fresh where
  kernel : Kernel
  tid : Int32
  thread : Thread
  place : ¬(tid < 0 ∨ tid ≥ THREAD_COUNT_MAX)
  there : kernel.threadList tid = some thread
  used : thread.used = true
  magic : thread.magic = 1234
  own : thread.tid = tid
  slots : ∀ i, i < MSG_QUEUE_MAX → thread.MsgQueue i = some ⟨true, Msg.cleared⟩
  head : thread.MsgQueueHead = 0
  tail : thread.MsgQueueTail = 0
  mouseMove : thread.mouseMove = false
  paint : thread.paint = false

/-- The indices of the thread are inside the ring. -/
def Bounded (tid : Int32) (k : Kernel) : Prop :=
  ∃ t, k.threadList tid = some t ∧ t.MsgQueueHead < MSG_QUEUE_MAX ∧
    t.MsgQueueTail < MSG_QUEUE_MAX

/-- The thread gets its messages in the order in which they were posted. -/
def InOrder (tid : Int32) (traffic : Traffic) (k : Kernel) : Prop :=
  ∃ t, k.threadList tid = some t ∧ Orderly traffic t

theorem Fresh.sound (fresh : Fresh) : Sound fresh.tid fresh.thread := by
  refine ⟨fresh.used, fresh.magic, fresh.own, fun i inside => ⟨_, fresh.slots i inside⟩, ?_, ?_⟩
  · rw [fresh.head]
    decide
  · rw [fresh.tail]
    decide

theorem Fresh.orderly (fresh : Fresh) : Orderly Traffic.none fresh.thread := by
  refine ⟨fresh.mouseMove, fresh.paint, [], rfl, ?_⟩
  rw [fresh.head, fresh.tail]
  apply Ring.Holds.empty (by decide)
  rintro i inside ⟨slot, there, positive⟩
  rw [fresh.slots i inside] at there
  cases there
  exact absurd positive (by decide)

/-- The thread is in its place, with its messages in order. -/
def Serving (tid : Int32) (seen : Traffic × Kernel) : Prop :=
  ∃ t, seen.2.threadList tid = some t ∧ Sound tid t ∧ Orderly seen.1 t

/-- In every run of posts to any threads and gets of any threads, the indices of
    a thread stay inside its ring; and every step leaves the messages posted to
    it equal to those received followed by those in the ring, with the flags
    pending that were posted and not received, if and only if every step is
    made in its turn. -/
theorem message_queue_fifo (fresh : Fresh) (requests : List Request) :
    Along serve (fun _ _ out => Bounded fresh.tid out.2) fresh.kernel requests ∧
      (Along (observe (note fresh.tid) serve)
          (fun _ _ out => InOrder fresh.tid out.2.1 out.2.2) (Traffic.none, fresh.kernel)
          requests ↔
        Along (observe (note fresh.tid) serve)
          (fun seen request _ => InTurn fresh.tid seen.1 request) (Traffic.none, fresh.kernel)
          requests) := by
  constructor
  · have kept : ∀ k request out, (∃ t, k.threadList fresh.tid = some t ∧ Sound fresh.tid t) →
        serve k request = .ok out → Bounded fresh.tid out.2 ∧
          ∃ t, out.2.threadList fresh.tid = some t ∧ Sound fresh.tid t := by
      rintro k request out ⟨t, there, sound⟩ served
      rcases serve_stepped there sound fresh.place out served with ⟨u, stepped⟩
      exact ⟨⟨u, stepped.there, stepped.sound.head_lt, stepped.sound.tail_lt⟩,
        u, stepped.there, stepped.sound⟩
    exact along_of_kept kept requests ⟨fresh.thread, fresh.there, fresh.sound⟩
  · have next : ∀ (seen : Traffic × Kernel) request (out : Reply × (Traffic × Kernel)),
        Serving fresh.tid seen → observe (note fresh.tid) serve seen request = .ok out →
        ∃ u, out.2.2.threadList fresh.tid = some u ∧ Sound fresh.tid u ∧
          (Orderly out.2.1 u ↔ InTurn fresh.tid seen.1 request) := by
      rintro seen request ⟨reply, last⟩ ⟨t, there, sound, orderly⟩ served
      rcases observe_ok served with ⟨first, noted⟩
      rcases serve_stepped there sound fresh.place _ first with ⟨u, stepped⟩
      refine ⟨u, stepped.there, stepped.sound, ?_⟩
      simp only [noted]
      exact stepped.exact seen.1 orderly
    -- One step: the order afterwards is the turn of the request.
    have exact : ∀ (seen : Traffic × Kernel) request (out : Reply × (Traffic × Kernel)),
        Serving fresh.tid seen → observe (note fresh.tid) serve seen request = .ok out →
        (InOrder fresh.tid out.2.1 out.2.2 ↔ InTurn fresh.tid seen.1 request) := by
      intro seen request out holds served
      rcases next seen request out holds served with ⟨u, there, -, same⟩
      rw [← same]
      constructor
      · rintro ⟨v, found, orderly⟩
        rw [there] at found
        cases found
        exact orderly
      · exact fun orderly => ⟨u, there, orderly⟩
    -- Where the order holds the step can be taken again.
    have keep : ∀ (seen : Traffic × Kernel) request (out : Reply × (Traffic × Kernel)),
        Serving fresh.tid seen → observe (note fresh.tid) serve seen request = .ok out →
        InOrder fresh.tid out.2.1 out.2.2 → Serving fresh.tid out.2 := by
      rintro seen request out holds served ⟨v, found, orderly⟩
      rcases next seen request out holds served with ⟨u, there, sound, -⟩
      rw [there] at found
      cases found
      exact ⟨v, there, sound, orderly⟩
    exact along_iff exact keep requests ⟨fresh.thread, fresh.there, fresh.sound, fresh.orderly⟩

def newThread : Thread where
  used := true
  magic := 1234
  tid := 5
  MsgQueue := fun _ => some ⟨true, Msg.cleared⟩
  MsgQueueHead := 0
  MsgQueueTail := 0
  mouseMove := false
  paint := false
  blockOnEmpty := false
  blockInProgress := false
  missCount := 0

/-- A table with one new thread. -/
def oneThread : Kernel where
  threadList := fun tid => if tid = 5 then some newThread else none

/-- The new thread in its place. -/
def alone : Fresh where
  kernel := oneThread
  tid := 5
  thread := newThread
  place := by decide
  there := rfl
  used := rfl
  magic := rfl
  own := rfl
  slots := fun _ _ => rfl
  head := rfl
  tail := rfl
  mouseMove := rfl
  paint := rfl

def mouse : Mouse :=
  ⟨1, 2, 3, 4⟩

/-- A key that is held is received in order. -/
theorem keys_in_order :
    Along (observe (note 5) serve) (fun _ _ out => InOrder 5 out.2.1 out.2.2)
      (Traffic.none, oneThread)
      [.post 0 1 5 MSG_KEYDOWN 65 0, .post 3 1 5 MSG_KEYDOWN 65 0, .get 5 0x1000 9 mouse] := by
  apply (message_queue_fifo alone _).2.mpr
  intro out first
  refine ⟨fun _ _ _ _ => Or.inl (by decide), fun out second => ?_⟩
  cases first
  refine ⟨fun _ _ _ _ => Or.inl (by decide), fun out third => ?_⟩
  cases second
  exact ⟨fun _ => Or.inr (Or.inr (by decide)), trivial⟩

/-- A get on the empty queue hides the message posted next, and of two mouse
    moves the thread gets one. -/
theorem empty_get_hides_next_post : ∃ k₁ k₂ k₃,
    run serve oneThread [.get 5 0x1000 0 mouse, .post 7 1 5 MSG_KEYDOWN 65 0,
        .get 5 0x1000 9 mouse] =
      .ok ([.got .null, .value 0, .got .null], k₁) ∧
    run serve oneThread [.post 7 1 5 MSG_KEYDOWN 65 0, .get 5 0x1000 9 mouse] =
      .ok ([.value 0, .got (.message ⟨0, MSG_KEYDOWN, 65, 0, 7, 7, 1, 5⟩ 9)], k₂) ∧
    run serve oneThread [.post 7 1 5 MSG_MOUSEMOVE 10 10, .post 8 1 5 MSG_MOUSEMOVE 20 20,
        .get 5 0x1000 9 mouse, .get 5 0x1000 9 mouse] =
      .ok ([.value 0, .value 0, .got (.mouseMove mouse), .got .null], k₃) :=
  ⟨_, _, _, rfl, rfl, rfl⟩

end Gramado.Ke.MessageQueue
