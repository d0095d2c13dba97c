/-
The receive path of e1000hw.c, with the card as the other party: the card writes frames
back to the descriptors between its head and the tail register, at any time, and the
interrupt service routine is cut where it touches what the two share. The card as
DDINIT_e1000 sets it up reports no frame that is longer than a buffer.
-/
import Gramado.Ke
import Gramado.Lib.Machine
import Gramado.Lib.Ring
import Mathlib.Logic.Function.Basic

namespace Gramado.Netdev.E1000

open Gramado.Ke
open Gramado.Lib.Bytes
open Gramado.Lib.Machine
open Gramado.Lib
open Function

abbrev E1000_NUM_RX_DESC : Nat := 32
abbrev E1000_DEFAULT_BUFFER_SIZE : Nat := 8192

/-- What the driver uses of `struct legacy_rx_desc`. -/
structure RxDesc where
  length : UInt16
  status : UInt8
  deriving DecidableEq, Repr

/-- Where the service routine is. -/
inductive Serving where
  | idle
  | loop
  | taken (old : Nat)
  | cleared (old : Nat) (frameLength : UInt16)
  | returned (old : Nat) (frameLength : UInt16)
  deriving DecidableEq, Repr

/-- `rdh` and `rdt` are the head of the card and the tail register. `handed` are the
    frames that `network_on_receiving` was called with. -/
structure Nic where
  descs : Nat → RxDesc
  buffers : Nat → List UInt8
  rxCur : Nat
  rdh : Nat
  rdt : Nat
  serving : Serving
  handed : List (List UInt8)

/-- What `__initialize_rx_support` leaves of a card that is present; the buffers are as they were
    allocated. -/
def initializeRxSupport (buffers : Nat → List UInt8) : Nic where
  descs := fun _ => ⟨8192, 0⟩
  buffers := buffers
  rxCur := 0
  rdh := 0
  rdt := E1000_NUM_RX_DESC - 1
  serving := .idle
  handed := []

/-- A frame that the card can report. -/
structure Frame where
  bytes : List UInt8
  short : bytes.length ≤ E1000_DEFAULT_BUFFER_SIZE

/-- The card writes a frame back, unless it has run out of descriptors. The other bits of
    the status are its own. -/
def writeBack (nic : Nic) (frame : Frame) (status : UInt8) : Nic :=
  if nic.rdh = nic.rdt then
    nic
  else
    { nic with
      descs := update nic.descs nic.rdh ⟨UInt16.ofNat frame.bytes.length, status ||| 1⟩
      buffers := update nic.buffers nic.rdh (poke (nic.buffers nic.rdh) 0 frame.bytes)
      rdh := (nic.rdh + 1) % E1000_NUM_RX_DESC }

/-- `__e1000hw_ISR_imp` up to the receive loop: each cause but the last ends it. The
    transmitter and the link do not touch what is modelled here. -/
def dispatchCause (cause : UInt32) : Serving :=
  if cause = 0 then .idle
  else if cause &&& 0x01 ≠ 0 then .idle
  else if cause &&& 0x02 ≠ 0 then .idle
  else if cause &&& 0x04 ≠ 0 then .idle
  else if cause &&& 0x80 ≠ 0 then .loop
  else .idle

/-- An interrupt waits while another is served. -/
def interrupt (nic : Nic) (cause : UInt32) : Nic :=
  if nic.serving = .idle then { nic with serving := dispatchCause cause } else nic

/-- One step of `__e1000_on_receive`. -/
def onReceive (nic : Nic) : Except Stop Nic :=
  match nic.serving with
  | .idle => .ok nic
  | .loop =>
      if (nic.descs nic.rxCur).status &&& 0x01 ≠ 0x01 then
        .ok { nic with serving := .idle }
      else if nic.rxCur ≥ E1000_NUM_RX_DESC then
        .error (.panic "__e1000_on_receive: [receive] old\n")
      else
        .ok { nic with
          rxCur := (nic.rxCur + 1) % E1000_NUM_RX_DESC
          serving := .taken nic.rxCur }
  | .taken old =>
      let desc := nic.descs old
      if desc.length.toNat > E1000_DEFAULT_BUFFER_SIZE then
        .error (.panic "__e1000_on_receive: frame_lenght\n")
      else
        .ok { nic with
          descs := update nic.descs old { desc with status := desc.status &&& ~~~1 }
          serving := .cleared old desc.length }
  | .cleared old frameLength =>
      .ok { nic with rdt := old, serving := .returned old frameLength }
  | .returned old frameLength =>
      .ok { nic with
        handed := nic.handed ++ [peek (nic.buffers old) 0 frameLength.toNat]
        serving := .loop }

inductive Event where
  | card (frame : Frame) (status : UInt8)
  | irq (cause : UInt32)
  | driver

def step (nic : Nic) : Event → Except Stop (Unit × Nic)
  | .card frame status => .ok ((), writeBack nic frame status)
  | .irq cause => .ok ((), interrupt nic cause)
  | .driver => (onReceive nic).map fun nic => ((), nic)

/-- The frames that were written back, and how many of them were so before the last
    interrupt that was for receiving. -/
structure History where
  written : List (List UInt8)
  due : Nat

def History.none : History := ⟨[], 0⟩

def note (h : History) (nic : Nic) (event : Event) (_ : Unit × Nic) : History :=
  match event with
  | .card frame _ =>
      if nic.rdh = nic.rdt then h else { h with written := h.written ++ [frame.bytes] }
  | .irq cause =>
      if nic.serving = .idle ∧ cause &&& 0x80 ≠ 0 then { h with due := h.written.length } else h
  | .driver => h

/-- A cause that ends the service before the frames are looked at. -/
def EndsBefore (cause : UInt32) : Prop :=
  cause &&& 0x01 ≠ 0 ∨ cause &&& 0x02 ≠ 0 ∨ cause &&& 0x04 ≠ 0

/-- An interrupt for receiving is for no such cause, unless every frame was handed over
    already. -/
def InTurn (h : History) (nic : Nic) : Event → Prop
  | .irq cause => nic.serving = .idle → cause &&& 0x80 ≠ 0 → EndsBefore cause →
      h.written.length ≤ nic.handed.length
  | _ => True

/-- The descriptor of the oldest frame that is not handed over. -/
def Nic.first (nic : Nic) : Nat :=
  match nic.serving with
  | .idle => nic.rxCur
  | .loop => nic.rxCur
  | .taken old => old
  | .cleared old _ => old
  | .returned old _ => old

/-- The card may write to the descriptor: it is before the tail register. -/
def Nic.Owned (nic : Nic) (i : Nat) : Prop :=
  ∃ k, i = Ring.place E1000_NUM_RX_DESC nic.rdh k ∧
    ∀ j, j ≤ k → Ring.place E1000_NUM_RX_DESC nic.rdh j ≠ nic.rdt

def Done (nic : Nic) (i : Nat) : Prop :=
  (nic.descs i).status &&& 0x01 = 0x01

def Stores (nic : Nic) (i : Nat) (bytes : List UInt8) : Prop :=
  bytes.length ≤ E1000_DEFAULT_BUFFER_SIZE ∧
    (nic.descs i).length = UInt16.ofNat bytes.length ∧
    peek (nic.buffers i) 0 bytes.length = bytes

/-- The frames lie in the ring from `head` on, and the card may write `reach` of them. -/
structure Layout (nic : Nic) (head : Nat) (queue : List (List UInt8)) (reach : Nat) : Prop where
  ring : Ring.Holds E1000_NUM_RX_DESC (Done nic) (Stores nic) head nic.rdh queue
  bounded : queue.length ≤ reach
  tail : nic.rdt = Ring.place E1000_NUM_RX_DESC head reach

/-- The frames that wait, by the place where the service routine is. -/
def Waits (h : History) (nic : Nic) : Prop :=
  match nic.serving with
  | .idle => ∃ queue, h.written = nic.handed ++ queue ∧ Layout nic nic.rxCur queue 31
  | .loop => ∃ queue, h.written = nic.handed ++ queue ∧ Layout nic nic.rxCur queue 31
  | .taken old => ∃ frame rest, h.written = nic.handed ++ frame :: rest ∧
      nic.rxCur = Ring.next E1000_NUM_RX_DESC old ∧ Layout nic old (frame :: rest) 31
  | .cleared old frameLength => ∃ frame rest, h.written = nic.handed ++ frame :: rest ∧
      nic.rxCur = Ring.next E1000_NUM_RX_DESC old ∧ old < E1000_NUM_RX_DESC ∧
      frameLength.toNat = frame.length ∧ Stores nic old frame ∧ Layout nic nic.rxCur rest 30
  | .returned old frameLength => ∃ frame rest, h.written = nic.handed ++ frame :: rest ∧
      nic.rxCur = Ring.next E1000_NUM_RX_DESC old ∧ old < E1000_NUM_RX_DESC ∧
      frameLength.toNat = frame.length ∧ Stores nic old frame ∧ Layout nic nic.rxCur rest 31

/-- The frames that were written back are those handed over and those that wait, in
    order; and once an interrupt for receiving is served, none of those before it waits. -/
structure Sound (h : History) (nic : Nic) : Prop where
  pages : ∀ i, i < E1000_NUM_RX_DESC → (nic.buffers i).length = E1000_DEFAULT_BUFFER_SIZE
  waits : Waits h nic
  due : h.due ≤ h.written.length
  served : nic.serving = .idle → h.due ≤ nic.handed.length

section Steps

variable {h : History} {nic : Nic} {head old reach : Nat} {queue : List (List UInt8)}
  {frame : Frame} {bytes : List UInt8} {status : UInt8} {cause : UInt32}

theorem done_set (status : UInt8) : (status ||| 1) &&& 1 = 1 := by
  apply UInt8.toBitVec_inj.mp
  simp only [UInt8.toBitVec_and, UInt8.toBitVec_or]
  ext i inside
  simp
  exact Or.inr

theorem done_cleared (status : UInt8) : (status &&& ~~~1) &&& 1 = 0 := by
  have bit : (~~~1 : UInt8) &&& 1 = 0 := by decide
  rw [UInt8.and_assoc, bit, UInt8.and_zero]

theorem next_eq (inside : head < E1000_NUM_RX_DESC) :
    (head + 1) % E1000_NUM_RX_DESC = Ring.next E1000_NUM_RX_DESC head :=
  (Ring.next_eq_mod inside).symm

theorem writeBack_dropped (full : nic.rdh = nic.rdt) : writeBack nic frame status = nic :=
  if_pos full

theorem writeBack_taken (room : nic.rdh ≠ nic.rdt) :
    writeBack nic frame status = { nic with
      descs := update nic.descs nic.rdh ⟨UInt16.ofNat frame.bytes.length, status ||| 1⟩
      buffers := update nic.buffers nic.rdh (poke (nic.buffers nic.rdh) 0 frame.bytes)
      rdh := (nic.rdh + 1) % E1000_NUM_RX_DESC } :=
  if_neg room

theorem Layout.room (layout : Layout nic head queue reach) (room : nic.rdh ≠ nic.rdt) :
    queue.length < reach := by
  refine Nat.lt_of_le_of_ne layout.bounded ?_
  intro full
  apply room
  rw [layout.ring.tail_at, full, layout.tail]

theorem Layout.writeBack
    (pages : ∀ i, i < E1000_NUM_RX_DESC → (nic.buffers i).length = E1000_DEFAULT_BUFFER_SIZE)
    (layout : Layout nic head queue reach) (short : reach < E1000_NUM_RX_DESC)
    (room : nic.rdh ≠ nic.rdt) :
    Layout (writeBack nic frame status) head (queue ++ [frame.bytes]) reach := by
  have inside := layout.ring.tail_lt
  have free := layout.room room
  rw [writeBack_taken room, next_eq inside]
  refine ⟨?_, ?_, layout.tail⟩
  · apply layout.ring.push (Nat.lt_trans free short)
    · simp only [Done, update_self, done_set]
    · refine ⟨frame.short, ?_, ?_⟩
      · simp only [update_self]
      · simp only [update_self]
        apply peek_poke
        rw [pages _ inside, Nat.zero_add]
        exact frame.short
    · intro k other
      simp only [Done, update_of_ne other]
    · intro k bytes other stored
      simpa only [Stores, update_of_ne other] using stored
  · rw [List.length_append, List.length_singleton]
    exact free

theorem Stores.writeBack (stored : Stores nic old bytes) (apart : old ≠ nic.rdh) :
    Stores (writeBack nic frame status) old bytes := by
  by_cases room : nic.rdh = nic.rdt
  · rw [writeBack_dropped room]
    exact stored
  · rw [writeBack_taken room]
    simpa only [Stores, update_of_ne apart] using stored

/-- The descriptor that is served is not the next one that the card writes to. -/
theorem served_apart (inside : old < E1000_NUM_RX_DESC)
    (layout : Layout nic (Ring.next E1000_NUM_RX_DESC old) queue reach)
    (short : queue.length + 1 < E1000_NUM_RX_DESC) : old ≠ nic.rdh := by
  rw [layout.ring.tail_at, Ring.place_next inside]
  exact (Ring.place_succ_ne inside short).symm

theorem pages_writeBack
    (pages : ∀ i, i < E1000_NUM_RX_DESC → (nic.buffers i).length = E1000_DEFAULT_BUFFER_SIZE) :
    ∀ i, i < E1000_NUM_RX_DESC →
      ((writeBack nic frame status).buffers i).length = E1000_DEFAULT_BUFFER_SIZE := by
  intro i inside
  by_cases room : nic.rdh = nic.rdt
  · rw [writeBack_dropped room]
    exact pages i inside
  · rw [writeBack_taken room]
    by_cases here : i = nic.rdh
    · subst here
      simp only [update_self]
      rw [length_poke, pages _ inside]
      rw [pages _ inside, Nat.zero_add]
      exact frame.short
    · simp only [update_of_ne here]
      exact pages i inside

theorem card_sound (sound : Sound h nic) (frame : Frame) (status : UInt8) :
    Sound (note h nic (.card frame status) ((), writeBack nic frame status))
      (writeBack nic frame status) := by
  rcases sound with ⟨pages, waits, due, served⟩
  -- A full ring drops the frame.
  by_cases room : nic.rdh = nic.rdt
  · rw [writeBack_dropped room, note, if_pos room]
    exact ⟨pages, waits, due, served⟩
  · have same : (writeBack nic frame status).serving = nic.serving ∧
        (writeBack nic frame status).rxCur = nic.rxCur ∧
        (writeBack nic frame status).handed = nic.handed := by
      rw [writeBack_taken room]
      exact ⟨rfl, rfl, rfl⟩
    rcases same with ⟨serving, cursor, handed⟩
    rw [note, if_neg room]
    refine ⟨pages_writeBack pages, ?_, ?_, ?_⟩
    · unfold Waits at waits ⊢
      rw [serving]
      -- The frame goes behind those that wait, wherever the driver stands.
      cases place : nic.serving with
      | idle =>
          rw [place] at waits
          rcases waits with ⟨queue, account, layout⟩
          refine ⟨queue ++ [frame.bytes], ?_, ?_⟩
          · rw [account, handed, List.append_assoc]
          · rw [cursor]
            exact layout.writeBack pages (by decide) room
      | loop =>
          rw [place] at waits
          rcases waits with ⟨queue, account, layout⟩
          refine ⟨queue ++ [frame.bytes], ?_, ?_⟩
          · rw [account, handed, List.append_assoc]
          · rw [cursor]
            exact layout.writeBack pages (by decide) room
      | taken old =>
          rw [place] at waits
          rcases waits with ⟨first, rest, account, moved, layout⟩
          refine ⟨first, rest ++ [frame.bytes], ?_, ?_, ?_⟩
          · rw [account, handed, List.append_assoc, List.cons_append]
          · rw [cursor, moved]
          · exact layout.writeBack pages (by decide) room
      | cleared old frameLength =>
          rw [place] at waits
          rcases waits with ⟨first, rest, account, moved, inside, length, stored, layout⟩
          refine ⟨first, rest ++ [frame.bytes], ?_, ?_, inside, length, ?_, ?_⟩
          · rw [account, handed, List.append_assoc, List.cons_append]
          · rw [cursor, moved]
          · have free := layout.room room
            rw [moved] at layout
            have short := Nat.lt_trans (Nat.succ_lt_succ free) (by decide : 31 < E1000_NUM_RX_DESC)
            exact stored.writeBack (served_apart inside layout short)
          · rw [cursor]
            exact layout.writeBack pages (by decide) room
      | returned old frameLength =>
          rw [place] at waits
          rcases waits with ⟨first, rest, account, moved, inside, length, stored, layout⟩
          refine ⟨first, rest ++ [frame.bytes], ?_, ?_, inside, length, ?_, ?_⟩
          · rw [account, handed, List.append_assoc, List.cons_append]
          · rw [cursor, moved]
          · have free := layout.room room
            rw [moved] at layout
            exact stored.writeBack (served_apart inside layout (Nat.succ_lt_succ free))
          · rw [cursor]
            exact layout.writeBack pages (by decide) room
    · rw [List.length_append]
      exact Nat.le_add_right_of_le due
    · intro idle
      rw [handed]
      rw [serving] at idle
      exact served idle

theorem frame_length (short : bytes.length ≤ E1000_DEFAULT_BUFFER_SIZE) :
    (UInt16.ofNat bytes.length).toNat = bytes.length := by
  rw [UInt16.toNat_ofNat']
  exact Nat.mod_eq_of_lt (Nat.lt_of_le_of_lt short (by decide))

theorem driver_sound (sound : Sound h nic) :
    ∃ next, onReceive nic = .ok next ∧ Sound h next := by
  rcases sound with ⟨pages, waits, due, served⟩
  unfold Waits at waits
  unfold onReceive
  cases place : nic.serving with
  | idle =>
      refine ⟨nic, rfl, pages, ?_, due, served⟩
      rw [place] at waits
      rw [Waits, place]
      exact waits
  | loop =>
      rw [place] at waits
      rcases waits with ⟨queue, account, layout⟩
      have inside := layout.ring.head_lt
      by_cases ready : (nic.descs nic.rxCur).status &&& 0x01 = 0x01
      · simp only [ne_eq, ready, not_true_eq_false, if_false, ge_iff_le, Nat.not_le.mpr inside]
        have some_queue : queue ≠ [] := layout.ring.head_busy_iff.mp ready
        rcases List.exists_cons_of_ne_nil some_queue with ⟨frame, rest, rfl⟩
        refine ⟨_, rfl, pages, ?_, due, fun idle => nomatch idle⟩
        exact ⟨frame, rest, account, next_eq inside, layout.ring, layout.bounded, layout.tail⟩
      · simp only [ne_eq, ready, not_false_eq_true, if_true]
        -- The slot at the cursor is free, and so no frame waits.
        have none : queue = [] := by
          by_contra some_queue
          exact ready (layout.ring.head_busy_iff.mpr some_queue)
        subst none
        refine ⟨_, rfl, pages, ⟨[], account, layout.ring, layout.bounded, layout.tail⟩, due, ?_⟩
        intro _
        rw [account, List.append_nil] at due
        exact due
  | taken old =>
      rw [place] at waits
      rcases waits with ⟨frame, rest, account, moved, layout⟩
      have stored := layout.ring.cells 0 frame rfl
      have inside := layout.ring.head_lt
      rw [Ring.place_zero inside] at stored
      have length := frame_length stored.1
      simp only [stored.2.1, length, gt_iff_lt, Nat.not_lt.mpr stored.1, if_false]
      refine ⟨_, rfl, pages, ?_, due, fun idle => nomatch idle⟩
      refine ⟨frame, rest, account, moved, inside, length, ?_, ?_⟩
      · refine ⟨stored.1, ?_, stored.2.2⟩
        simp only [update_self]
      · rw [moved]
        refine ⟨?_, ?_, ?_⟩
        · apply layout.ring.pop
          · simp only [Done, update_self, done_cleared]
            decide
          · intro k other
            simp only [Done, update_of_ne other]
          · intro k bytes other kept
            simpa only [Stores, update_of_ne other] using kept
        · exact Nat.le_of_succ_le_succ layout.bounded
        · rw [Ring.place_next inside]
          exact layout.tail
  | cleared old frameLength =>
      rw [place] at waits
      rcases waits with ⟨frame, rest, account, moved, inside, length, stored, layout⟩
      refine ⟨_, rfl, pages, ?_, due, fun idle => nomatch idle⟩
      refine ⟨frame, rest, account, moved, inside, length, stored, layout.ring, ?_, ?_⟩
      · exact Nat.le_succ_of_le layout.bounded
      · simp only
        rw [moved, Ring.place_next inside]
        exact (Ring.place_cap inside).symm
  | returned old frameLength =>
      rw [place] at waits
      rcases waits with ⟨frame, rest, account, moved, inside, length, stored, layout⟩
      refine ⟨_, rfl, pages, ?_, due, fun idle => nomatch idle⟩
      refine ⟨rest, ?_, layout.ring, layout.bounded, layout.tail⟩
      simp only
      rw [account, length, stored.2.2, List.append_assoc]
      rfl

theorem dispatch_loop (receive : cause &&& 0x80 ≠ 0) (later : ¬EndsBefore cause) :
    dispatchCause cause = .loop := by
  have some_cause : cause ≠ 0 := by
    rintro rfl
    exact receive (by decide)
  simp only [EndsBefore, not_or, not_not] at later
  rcases later with ⟨transmitted, empty, link⟩
  simp only [dispatchCause, if_neg some_cause, transmitted, empty, link, receive, ne_eq,
    not_true_eq_false, not_false_eq_true, if_false, if_true]

theorem dispatch_idle (ends : EndsBefore cause) : dispatchCause cause = .idle := by
  unfold dispatchCause
  rcases ends with transmitted | empty | link
  · simp only [if_pos transmitted, ite_self]
  · simp only [if_pos empty, ite_self]
  · simp only [if_pos link, ite_self]

theorem dispatch_quiet (other : cause &&& 0x80 = 0) : dispatchCause cause = .idle := by
  simp only [dispatchCause, other, ne_eq, not_true_eq_false, if_false, ite_self]

/-- The frames that wait are the same for a routine that has not begun. -/
theorem interrupt_waits (idle : nic.serving = .idle) (waits : Waits h nic) :
    Waits h (interrupt nic cause) := by
  unfold Waits at waits
  rw [idle] at waits
  rcases waits with ⟨queue, account, layout⟩
  have same : Layout (interrupt nic cause) (interrupt nic cause).rxCur queue 31 := by
    rw [interrupt, if_pos idle]
    exact ⟨layout.ring, layout.bounded, layout.tail⟩
  have handed : (interrupt nic cause).handed = nic.handed := by
    rw [interrupt, if_pos idle]
  rw [← handed] at account
  have started : (interrupt nic cause).serving = .idle ∨ (interrupt nic cause).serving = .loop := by
    rw [interrupt, if_pos idle]
    simp only [dispatchCause]
    by_cases ends : EndsBefore cause
    · exact Or.inl (dispatch_idle ends)
    · by_cases receive : cause &&& 0x80 = 0
      · exact Or.inl (dispatch_quiet receive)
      · exact Or.inr (dispatch_loop receive ends)
  rcases started with idle | loop
  · rw [Waits, idle]
    exact ⟨queue, account, same⟩
  · rw [Waits, loop]
    exact ⟨queue, account, same⟩

theorem interrupt_iff (sound : Sound h nic) :
    InTurn h nic (.irq cause) ↔
      Sound (note h nic (.irq cause) ((), interrupt nic cause)) (interrupt nic cause) := by
  rcases sound with ⟨pages, waits, due, served⟩
  by_cases idle : nic.serving = .idle
  · have kept : Waits h (interrupt nic cause) := interrupt_waits idle waits
    by_cases receive : cause &&& 0x80 = 0
    · have quiet : interrupt nic cause = nic := by
        rw [interrupt, if_pos idle, dispatch_quiet receive, ← idle]
      rw [quiet, note, if_neg (fun asked => asked.2 receive)]
      exact iff_of_true (fun _ asked => absurd receive asked) ⟨pages, waits, due, served⟩
    · rw [note, if_pos ⟨idle, receive⟩]
      by_cases ends : EndsBefore cause
      · have quiet : interrupt nic cause = nic := by
          rw [interrupt, if_pos idle, dispatch_idle ends, ← idle]
        rw [quiet]
        constructor
        · intro turn
          exact ⟨pages, waits, Nat.le_refl _, fun _ => turn idle receive ends⟩
        · intro after _ _ _
          exact after.served idle
      · refine iff_of_true (fun _ _ ending => absurd ending ends) ?_
        refine ⟨?_, kept, Nat.le_refl _, ?_⟩
        · rw [interrupt, if_pos idle]
          exact pages
        · intro still
          rw [interrupt, if_pos idle, dispatch_loop receive ends] at still
          cases still
  · rw [interrupt, if_neg idle, note, if_neg (fun asked => idle asked.1)]
    exact iff_of_true (fun begun => absurd begun idle) ⟨pages, waits, due, served⟩

theorem in_turn_iff {event : Event} (sound : Sound h nic) :
    InTurn h nic event ↔ ∃ out next, step nic event = .ok (out, next) ∧
      Sound (note h nic event (out, next)) next := by
  cases event with
  | card frame status =>
      exact iff_of_true trivial ⟨(), _, rfl, card_sound sound frame status⟩
  | irq cause =>
      rw [interrupt_iff sound]
      constructor
      · exact fun kept => ⟨(), _, rfl, kept⟩
      · rintro ⟨out, next, done, kept⟩
        cases done
        exact kept
  | driver =>
      rcases driver_sound sound with ⟨next, served, kept⟩
      refine iff_of_true trivial ⟨(), next, ?_, kept⟩
      rw [step, served]
      rfl

/-- Only what lies from the head of the card on, before the tail register, is its own. -/
theorem Layout.not_owned {i : Nat} (layout : Layout nic head queue reach) (small : reach ≤ 31)
    (inside : i < E1000_NUM_RX_DESC) (outside : i < queue.length ∨ reach ≤ i) :
    ¬nic.Owned (Ring.place E1000_NUM_RX_DESC head i) := by
  rintro ⟨k, same, before⟩
  have shift : ∀ j, Ring.place E1000_NUM_RX_DESC nic.rdh j =
      Ring.place E1000_NUM_RX_DESC head (queue.length + j) := by
    intro j
    rw [layout.ring.tail_at]
    simp only [Ring.place, Nat.mod_add_mod, Nat.add_assoc]
  have bounded := layout.bounded
  by_cases below : queue.length + k < reach
  · have short := Nat.lt_trans (Nat.lt_of_lt_of_le below small) (by decide : 31 < E1000_NUM_RX_DESC)
    rw [shift] at same
    have meet := Ring.place_inj layout.ring.head_lt inside short same
    omega
  · -- The tail register would have been met before.
    apply before (reach - queue.length) (by omega)
    rw [shift, layout.tail]
    congr 1
    omega

theorem served_not_owned {frame : List UInt8} {rest : List (List UInt8)} {i : Nat}
    (inside : old < E1000_NUM_RX_DESC)
    (layout : Layout nic (Ring.next E1000_NUM_RX_DESC old) rest reach) (short : reach ≤ 31)
    (waiting : i < (frame :: rest).length) :
    ¬nic.Owned (Ring.place E1000_NUM_RX_DESC old i) := by
  have fits := layout.bounded
  cases i with
  | zero =>
      have last := layout.not_owned (i := 31) short (by decide) (Or.inr short)
      rw [Ring.place_next inside, Ring.place_cap inside] at last
      rwa [Ring.place_zero inside]
  | succ i =>
      have behind : i < rest.length := Nat.lt_of_succ_lt_succ waiting
      have few : rest.length < E1000_NUM_RX_DESC :=
        Nat.lt_of_le_of_lt (Nat.le_trans fits short) (by decide)
      have later := layout.not_owned short (Nat.lt_trans behind few) (Or.inl behind)
      rwa [Ring.place_next inside] at later

theorem first_not_owned (sound : Sound h nic) {i : Nat}
    (waiting : nic.handed.length + i < h.written.length) :
    ¬nic.Owned (Ring.place E1000_NUM_RX_DESC nic.first i) := by
  have waits := sound.waits
  have queued : ∀ {head reach : Nat} {queue : List (List UInt8)}, h.written = nic.handed ++ queue →
      Layout nic head queue reach → reach ≤ 31 →
        ¬nic.Owned (Ring.place E1000_NUM_RX_DESC head i) := by
    intro head reach queue account layout short
    rw [account, List.length_append] at waiting
    have behind := Nat.lt_of_add_lt_add_left waiting
    have few : queue.length < E1000_NUM_RX_DESC :=
      Nat.lt_of_le_of_lt (Nat.le_trans layout.bounded short) (by decide)
    exact layout.not_owned short (Nat.lt_trans behind few) (Or.inl behind)
  unfold Waits at waits
  unfold Nic.first
  cases place : nic.serving with
  | idle =>
      rw [place] at waits
      rcases waits with ⟨queue, account, layout⟩
      exact queued account layout (Nat.le_refl _)
  | loop =>
      rw [place] at waits
      rcases waits with ⟨queue, account, layout⟩
      exact queued account layout (Nat.le_refl _)
  | taken old =>
      rw [place] at waits
      rcases waits with ⟨frame, rest, account, -, layout⟩
      exact queued account layout (Nat.le_refl _)
  | cleared old frameLength =>
      rw [place] at waits
      rcases waits with ⟨frame, rest, account, moved, inside, -, -, layout⟩
      rw [account, List.length_append] at waiting
      rw [moved] at layout
      exact served_not_owned inside layout (by decide) (Nat.lt_of_add_lt_add_left waiting)
  | returned old frameLength =>
      rw [place] at waits
      rcases waits with ⟨frame, rest, account, moved, inside, -, -, layout⟩
      rw [account, List.length_append] at waiting
      rw [moved] at layout
      exact served_not_owned inside layout (Nat.le_refl _) (Nat.lt_of_add_lt_add_left waiting)

end Steps

theorem initialize_sound {buffers : Nat → List UInt8}
    (pages : ∀ i, i < E1000_NUM_RX_DESC → (buffers i).length = E1000_DEFAULT_BUFFER_SIZE) :
    Sound History.none (initializeRxSupport buffers) where
  pages := pages
  waits := by
    refine ⟨[], rfl, ?_, Nat.zero_le _, rfl⟩
    refine Ring.Holds.empty (by decide : 0 < E1000_NUM_RX_DESC) fun _ _ => ?_
    exact (by decide : ¬(0 : UInt8) &&& 0x01 = 0x01)
  due := Nat.le_refl _
  served := fun _ => Nat.le_refl _

/-- In every run of the card, the interrupts and the service routine, every interrupt is
    in turn if and only if after every part of the run from its start the frames written
    back are those handed over, in order, followed by those that wait, none of which is
    older than the last interrupt for receiving once it is served. The descriptor of a
    frame that waits is never the card's. -/
theorem receive_path_iff {buffers : Nat → List UInt8}
    (pages : ∀ i, i < E1000_NUM_RX_DESC → (buffers i).length = E1000_DEFAULT_BUFFER_SIZE)
    (events : List Event) :
    (Guarded (observe note step) (fun seen event => InTurn seen.1 seen.2 event)
        (History.none, initializeRxSupport buffers) events ↔
      ∀ early, early <+: events → ∃ outs h last,
        run (observe note step) (History.none, initializeRxSupport buffers) early =
            .ok (outs, (h, last)) ∧
          Sound h last) ∧
    ∀ h nic i, Sound h nic → nic.handed.length + i < h.written.length →
      ¬nic.Owned (Ring.place E1000_NUM_RX_DESC nic.first i) := by
  refine ⟨?_, fun h nic i sound waiting => first_not_owned sound waiting⟩
  have exact : ∀ h nic event, Sound h nic →
      (InTurn h nic event ↔ ∃ out next, step nic event = .ok (out, next) ∧
        Sound (note h nic event (out, next)) next) :=
    fun _ _ _ sound => in_turn_iff sound
  exact observed_iff_prefixes exact events (initialize_sound pages)

theorem blank_buffers (i : Nat) (_ : i < E1000_NUM_RX_DESC) :
    (List.replicate E1000_DEFAULT_BUFFER_SIZE (0 : UInt8)).length = E1000_DEFAULT_BUFFER_SIZE :=
  List.length_replicate

def arrival : Frame := ⟨[1, 2, 3], by decide⟩

/-- The card over blank buffers. -/
def blankCard : Nic :=
  initializeRxSupport fun _ => List.replicate E1000_DEFAULT_BUFFER_SIZE 0

theorem blankCard_iff :
    Guarded (observe note step) (fun seen event => InTurn seen.1 seen.2 event)
        (History.none, blankCard) [.card arrival 2, .irq 0x80, .driver] ↔
      ∀ early, early <+: [.card arrival 2, .irq 0x80, .driver] → ∃ outs h last,
        run (observe note step) (History.none, blankCard) early = .ok (outs, (h, last)) ∧
          Sound h last :=
  (receive_path_iff blank_buffers _).1

/-- A frame, and an interrupt for the receiver and the transmitter: it is served, and the
    frame still waits. -/
theorem coalesced_cause :
    ∃ outs h last, run (observe note step) (History.none, blankCard)
        [.card arrival 0, .irq 0x81, .driver] = .ok (outs, (h, last)) ∧
      last.serving = .idle ∧ h.written = [[1, 2, 3]] ∧ h.due = 1 ∧ last.handed = [] :=
  ⟨_, _, _, rfl, rfl, rfl, rfl, rfl⟩

end Gramado.Netdev.E1000
