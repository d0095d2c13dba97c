/-
The event queues of the display server: each window has a ring of 32 slots, filled by
`window_post_message` and `window_post_notification` (window.c) and emptied by the
requests of its client (comploop.c). Neither side looks at the index of the other.
-/
import Gramado.Ke
import Gramado.Lib.Machine
import Gramado.Lib.Ring
import Mathlib.Logic.Function.Basic

namespace Gramado.Winsys.WindowEvents

open Gramado.Ke
open Gramado.Lib.Machine
open Gramado.Lib
open Function

def WINDOW_COUNT_MAX : Int32 := 1024
def SERVER_PACKET_TYPE_EVENT : UInt64 := 1002

/-- The fields of one slot: `ev_wid`, `ev_msg` and the four data words. -/
structure Event where
  wid : UInt64
  msg : UInt64
  long1 : UInt64
  long2 : UInt64
  long3 : UInt64
  long4 : UInt64
  deriving DecidableEq, Repr

def Event.none : Event := ⟨0, 0, 0, 0, 0, 0⟩

/-- What the queue uses of `struct gws_window_d`. -/
structure Window where
  magic : Int32
  evHead : Nat
  evTail : Nat
  ev : Nat → Event

/-- The windows, and the response that is sent next: its header and the event. -/
structure Server where
  windowList : Nat → Option Window
  header : List UInt64
  response : Event

/-- `x & 0xFFFFFFFF` as an `unsigned long`. -/
def low (x : Int32) : UInt64 :=
  x.toUInt32.toUInt64

def findWindow (s : Server) (wid : Int32) : Option Window :=
  if wid < 0 ∨ wid ≥ WINDOW_COUNT_MAX then
    none
  else
    (s.windowList wid.toNatClampNeg).filter fun w => w.magic = 1234

def Server.setWindow (s : Server) (wid : Int32) (w : Window) : Server :=
  { s with windowList := update s.windowList wid.toNatClampNeg (some w) }

/-- The slot at the tail is filled, and the tail moves on. -/
def Window.put (w : Window) (fill : Event → Event) : Window :=
  { w with
    ev := update w.ev w.evTail (fill (w.ev w.evTail))
    evTail := Ring.next 32 w.evTail }

/-- The slot at the head is cleared, and the head moves on. -/
def Window.drop (w : Window) : Window :=
  { w with
    evHead := Ring.next 32 w.evHead
    ev := update w.ev w.evHead Event.none }

def postEvent (s : Server) (wid eventType : Int32) (fill : Event → Event) : Int32 × Server :=
  if eventType < 0 then
    (-1, s)
  else
    match findWindow s wid with
    | none => (-1, s)
    | some w => (0, s.setWindow wid (w.put fill))

def windowPostNotification (s : Server) (wid eventType : Int32)
    (long1 long2 long3 long4 : UInt64) : Int32 × Server :=
  postEvent s wid eventType fun _ => {
    wid := low wid
    msg := low eventType
    long1 := long1
    long2 := long2
    long3 := long3
    long4 := long4 }

/-- The last two data words stay as they are in the slot. -/
def windowPostMessage (s : Server) (wid eventType : Int32) (long1 long2 : UInt64) :
    Int32 × Server :=
  postEvent s wid eventType fun slot => { slot with
    wid := low wid
    msg := low eventType
    long1 := long1
    long2 := long2 }

/-- The window is named in the first word of the buffer. -/
def serviceNextEvent (s : Server) (word : UInt64) : Int32 × Server :=
  let wid := word.toUInt32.toInt32
  match findWindow s wid with
  | none => (-1, s)
  | some w =>
      (0, { s.setWindow wid w.drop with
        header := [0, SERVER_PACKET_TYPE_EVENT, 1234, 5678]
        response := w.ev w.evHead })

inductive Request where
  | notification (wid eventType : Int32) (long1 long2 long3 long4 : UInt64)
  | message (wid eventType : Int32) (long1 long2 : UInt64)
  | nextEvent (word : UInt64)

/-- What the callers see: the returned value, and the event in the response. -/
def serve (s : Server) : Request → Except Stop ((Int32 × Event) × Server)
  | .notification wid eventType long1 long2 long3 long4 =>
      let (rv, s) := windowPostNotification s wid eventType long1 long2 long3 long4
      .ok ((rv, Event.none), s)
  | .message wid eventType long1 long2 =>
      let (rv, s) := windowPostMessage s wid eventType long1 long2
      .ok ((rv, Event.none), s)
  | .nextEvent word =>
      let (rv, s) := serviceNextEvent s word
      .ok ((rv, s.response), s)

/-- What was posted to a window while there was room, and what was returned. -/
structure Traffic where
  posted : List Event
  returned : List Event

def Traffic.none : Traffic := ⟨[], []⟩

/-- Fewer than 32 events are pending. -/
def Traffic.Room (t : Traffic) : Prop :=
  t.posted.length < t.returned.length + 32

instance (t : Traffic) : Decidable t.Room :=
  inferInstanceAs (Decidable (_ < _))

def Traffic.post (t : Traffic) (e : Event) : Traffic :=
  if t.Room then { t with posted := t.posted ++ [e] } else t

def Traffic.return (t : Traffic) (e : Event) : Traffic :=
  { t with returned := t.returned ++ [e] }

/-- The history of every window. A post or a request that is refused leaves it. -/
def note (h : Nat → Traffic) (_ : Server) (request : Request)
    (answer : (Int32 × Event) × Server) : Nat → Traffic :=
  if answer.1.1 ≠ 0 then
    h
  else
    match request with
    | .notification wid eventType long1 long2 long3 long4 =>
        let n := wid.toNatClampNeg
        update h n ((h n).post ⟨low wid, low eventType, long1, long2, long3, long4⟩)
    | .message wid eventType long1 long2 =>
        let n := wid.toNatClampNeg
        update h n ((h n).post ⟨low wid, low eventType, long1, long2, 0, 0⟩)
    | .nextEvent word =>
        let n := word.toUInt32.toInt32.toNatClampNeg
        update h n ((h n).return answer.1.2)

/-- A post finds fewer than 32 events pending, and a request finds one. -/
def InTurn (h : Nat → Traffic) (s : Server) : Request → Prop
  | .notification wid eventType _ _ _ _ =>
      (findWindow s wid).isSome → 0 ≤ eventType → (h wid.toNatClampNeg).Room
  | .message wid eventType _ _ =>
      (findWindow s wid).isSome → 0 ≤ eventType → (h wid.toNatClampNeg).Room
  | .nextEvent word =>
      let wid := word.toUInt32.toInt32
      (findWindow s wid).isSome →
        (h wid.toNatClampNeg).returned.length < (h wid.toNatClampNeg).posted.length

/-- The events that were posted are the returned ones and those in the ring, whose other
    slots are clear. -/
def Window.Orderly (w : Window) (t : Traffic) : Prop :=
  ∃ pending, t.posted = t.returned ++ pending ∧
    Ring.Lies 32 (fun i e => w.ev i = e) w.evHead w.evTail pending ∧
    Ring.Vacant 32 (fun i => w.ev i = Event.none) w.evHead pending

def Orderly (h : Nat → Traffic) (s : Server) : Prop :=
  ∀ n w, s.windowList n = some w → w.magic = 1234 → w.Orderly (h n)

section OneWindow

variable {w : Window} {t : Traffic} {e : Event} {fill : Event → Event} {pending : List Event}

theorem room_iff (account : t.posted = t.returned ++ pending) :
    t.Room ↔ pending.length < 32 := by
  rw [Traffic.Room, account, List.length_append]
  exact Nat.add_lt_add_iff_left

theorem put_orderly (orderly : w.Orderly t) (room : t.Room) (filled : fill Event.none = e) :
    (w.put fill).Orderly (t.post e) := by
  rcases orderly with ⟨pending, account, lies, vacant⟩
  rw [Traffic.post, if_pos room]
  rw [room_iff account] at room
  have clear : w.ev w.evTail = Event.none := vacant.at_tail lies room
  refine ⟨pending ++ [e], ?_, ?_, ?_⟩
  · rw [account, List.append_assoc]
  · apply lies.push room
    · simp only [Window.put, update_self, clear, filled]
    · intro k event other stored
      simp only [Window.put, update_of_ne other, stored]
  · refine vacant.push lies ?_
    intro k other free
    simp only [Window.put, update_of_ne other, free]

theorem put_in_turn (orderly : w.Orderly t) (kept : (w.put fill).Orderly (t.post e)) :
    t.Room := by
  by_contra full
  rcases orderly with ⟨pending, account, lies, -⟩
  rw [Traffic.post, if_neg full] at kept
  rcases kept with ⟨after, later, moved, -⟩
  rw [room_iff account] at full
  have same : after = pending := by
    rw [account] at later
    exact (List.append_cancel_left later).symm
  subst same
  -- The tail was at the head, and has gone on while the queue is as long as before.
  have length : after.length = 32 := Nat.le_antisymm lies.fits (Nat.not_lt.mp full)
  have before := lies.tail_at
  have behind := moved.tail_at
  simp only [Window.put, length, before, Ring.place_cap lies.head_lt] at behind
  have apart := Ring.place_succ_ne (k := 0) lies.head_lt (by decide)
  rw [← Ring.place_next lies.head_lt, Ring.place_zero (Ring.next_lt (by decide))] at apart
  exact apart behind

theorem drop_orderly (orderly : w.Orderly t) (some_pending : t.returned.length < t.posted.length) :
    w.drop.Orderly (t.return (w.ev w.evHead)) := by
  rcases orderly with ⟨pending, account, lies, vacant⟩
  cases pending with
  | nil =>
      rw [account, List.append_nil] at some_pending
      exact absurd some_pending (Nat.lt_irrefl _)
  | cons first rest =>
      have stored := lies.cells 0 first rfl
      rw [Ring.place_zero lies.head_lt] at stored
      refine ⟨rest, ?_, ?_, ?_⟩
      · simp only [Traffic.return]
        rw [account, stored, List.append_assoc]
        rfl
      · apply lies.pop
        intro k event other held
        simp only [Window.drop, update_of_ne other, held]
      · refine vacant.pop lies.head_lt ?_ ?_
        · simp only [Window.drop, update_self]
        · intro k other free
          simp only [Window.drop, update_of_ne other, free]

theorem drop_in_turn (kept : w.drop.Orderly (t.return e)) :
    t.returned.length < t.posted.length := by
  rcases kept with ⟨after, account, -⟩
  simp only [Traffic.return] at account
  rw [account]
  simp only [List.length_append, List.length_singleton]
  omega

end OneWindow

section Steps

variable {h : Nat → Traffic} {s : Server} {wid : Int32} {w w' : Window} {t : Traffic}

theorem findWindow_some (found : findWindow s wid = some w) :
    s.windowList wid.toNatClampNeg = some w ∧ w.magic = 1234 := by
  unfold findWindow at found
  split at found
  · cases found
  · simpa using Option.filter_eq_some_iff.mp found

theorem orderly_set (orderly : Orderly h s) (magic : w'.magic = 1234) :
    Orderly (update h wid.toNatClampNeg t) (s.setWindow wid w') ↔ w'.Orderly t := by
  constructor
  · intro all
    have here := all wid.toNatClampNeg w' (update_self ..) magic
    rwa [update_self] at here
  · intro changed n other listed valid
    by_cases same : n = wid.toNatClampNeg
    · subst same
      simp only [Server.setWindow, update_self, Option.some.injEq] at listed
      rw [update_self, ← listed]
      exact changed
    · simp only [Server.setWindow, update_of_ne same] at listed
      rw [update_of_ne same]
      exact orderly n other listed valid

theorem post_iff {eventType : Int32} {fill : Event → Event} {e : Event}
    (orderly : Orderly h s) (filled : fill Event.none = e) :
    ((findWindow s wid).isSome → 0 ≤ eventType → (h wid.toNatClampNeg).Room) ↔
      Orderly (if (postEvent s wid eventType fill).1 ≠ 0 then h else
        update h wid.toNatClampNeg ((h wid.toNatClampNeg).post e))
        (postEvent s wid eventType fill).2 := by
  unfold postEvent
  by_cases negative : eventType < 0
  · rw [if_pos negative]
    exact iff_of_true (fun _ nonneg => absurd negative (Int32.not_lt.mpr nonneg)) orderly
  · rw [if_neg negative]
    cases found : findWindow s wid with
    | none => exact iff_of_true (fun some_window => nomatch some_window) orderly
    | some w =>
        rcases findWindow_some found with ⟨listed, magic⟩
        have here := orderly _ w listed magic
        have put := @orderly_set h s wid (w.put fill) ((h wid.toNatClampNeg).post e) orderly magic
        constructor
        · intro room
          exact put.mpr (put_orderly here (room rfl (Int32.not_lt.mp negative)) filled)
        · intro kept _ _
          exact put_in_turn here (put.mp kept)

theorem next_refused {word : UInt64} (none : findWindow s word.toUInt32.toInt32 = none) :
    serviceNextEvent s word = (-1, s) := by
  simp only [serviceNextEvent, none]

theorem next_taken {word : UInt64} (found : findWindow s word.toUInt32.toInt32 = some w) :
    serviceNextEvent s word = (0, { s.setWindow word.toUInt32.toInt32 w.drop with
      header := [0, SERVER_PACKET_TYPE_EVENT, 1234, 5678]
      response := w.ev w.evHead }) := by
  simp only [serviceNextEvent, found]

theorem next_iff {word : UInt64} (orderly : Orderly h s) :
    InTurn h s (.nextEvent word) ↔
      Orderly (note h s (.nextEvent word)
        (((serviceNextEvent s word).1, (serviceNextEvent s word).2.response),
          (serviceNextEvent s word).2)) (serviceNextEvent s word).2 := by
  simp only [InTurn]
  cases found : findWindow s word.toUInt32.toInt32 with
  | none =>
      rw [next_refused found]
      exact iff_of_true (fun some_window => nomatch some_window) orderly
  | some w =>
      rw [next_taken found]
      rcases findWindow_some found with ⟨listed, magic⟩
      have here := orderly _ w listed magic
      have dropped := @orderly_set h s word.toUInt32.toInt32 w.drop
        ((h word.toUInt32.toInt32.toNatClampNeg).return (w.ev w.evHead)) orderly magic
      constructor
      · intro turn
        exact dropped.mpr (drop_orderly here (turn rfl))
      · intro kept _
        exact drop_in_turn (dropped.mp kept)

theorem in_turn_iff {request : Request} (orderly : Orderly h s) :
    InTurn h s request ↔ ∃ reply next, serve s request = .ok (reply, next) ∧
      Orderly (note h s request (reply, next)) next := by
  have total : ∃ reply next, serve s request = .ok (reply, next) := by
    cases request <;> exact ⟨_, _, rfl⟩
  rcases total with ⟨reply, next, done⟩
  have exact : InTurn h s request ↔ Orderly (note h s request (reply, next)) next := by
    cases request with
    | notification wid eventType long1 long2 long3 long4 =>
        cases done
        exact post_iff orderly rfl
    | message wid eventType long1 long2 =>
        cases done
        exact post_iff orderly rfl
    | nextEvent word =>
        cases done
        exact next_iff orderly
  rw [exact, done]
  constructor
  · exact fun kept => ⟨reply, next, rfl, kept⟩
  · rintro ⟨reply', next', same, kept⟩
    cases same
    exact kept

end Steps

/-- Every window is as it is created: its queue is empty, and every slot is clear. -/
def Fresh (s : Server) : Prop :=
  ∀ n w, s.windowList n = some w → w.magic = 1234 →
    w.evHead = 0 ∧ w.evTail = 0 ∧ ∀ i, w.ev i = Event.none

theorem fresh_orderly {s : Server} (fresh : Fresh s) : Orderly (fun _ => Traffic.none) s := by
  intro n w listed magic
  rcases fresh n w listed magic with ⟨head, tail, clear⟩
  refine ⟨[], rfl, ?_, ?_⟩
  · rw [head, tail]
    exact Ring.Lies.empty (by decide)
  · rw [head]
    exact Ring.Vacant.empty (by decide) fun k _ => clear k

/-- From windows with empty queues, every call of a run is made in its turn if and only
    if after every part of the run from its start the events posted to each window are
    the returned ones, followed by the at most 32 that wait in its ring. -/
theorem window_events_fifo_iff {s : Server} (requests : List Request) (fresh : Fresh s) :
    Guarded (observe note serve) (fun seen request => InTurn seen.1 seen.2 request)
        (fun _ => Traffic.none, s) requests ↔
      ∀ early, early <+: requests → ∃ replies h last,
        run (observe note serve) (fun _ => Traffic.none, s) early = .ok (replies, (h, last)) ∧
          Orderly h last := by
  have exact : ∀ h s request, Orderly h s →
      (InTurn h s request ↔ ∃ reply next, serve s request = .ok (reply, next) ∧
        Orderly (note h s request (reply, next)) next) :=
    fun _ _ _ orderly => in_turn_iff orderly
  exact observed_iff_prefixes exact requests (fresh_orderly fresh)

def oneWindow : Server where
  windowList := fun n => if n = 5 then some ⟨1234, 0, 0, fun _ => Event.none⟩ else none
  header := []
  response := Event.none

theorem oneWindow_fresh : Fresh oneWindow := by
  intro n w listed _
  unfold oneWindow at listed
  dsimp only at listed
  split at listed
  · cases listed
    exact ⟨rfl, rfl, fun _ => rfl⟩
  · cases listed

theorem oneWindow_fifo_iff :
    Guarded (observe note serve) (fun seen request => InTurn seen.1 seen.2 request)
        (fun _ => Traffic.none, oneWindow) [.message 5 20 1 2, .nextEvent 5] ↔
      ∀ early, early <+: [.message 5 20 1 2, .nextEvent 5] → ∃ replies h last,
        run (observe note serve) (fun _ => Traffic.none, oneWindow) early =
            .ok (replies, (h, last)) ∧
          Orderly h last :=
  window_events_fifo_iff _ oneWindow_fresh

/-- One request of an empty queue, and of the two events posted next the second is
    returned first. -/
theorem poll_reorders :
    (run serve oneWindow [.nextEvent 5, .message 5 20 0 0, .message 5 21 0 0,
      .nextEvent 5]).toOption.map (fun out => out.1.map fun reply => (reply.1, reply.2.msg)) =
      some [(0, 0), (0, 0), (0, 0), (0, 21)] := by
  decide +kernel

end Gramado.Winsys.WindowEvents
