/-
What the keyboard interrupt makes of the sequences of scancodes. Within one interrupt
the report is an automaton over the bytes; between two interrupts it is forgotten.
-/
import Gramado.Chardev.Keyboard

namespace Gramado.Chardev.Keyboard

open Function

/-- One event for each sequence: a byte, `E0 xx`, `E0 F0 xx`, or three bytes from `E1` on. -/
def sequences : List UInt8 → List Scan
  | [] => []
  | b :: rest =>
      if b = 0xE0 then
        match rest with
        | [] => []
        | x :: rest =>
            if x = 0xF0 then
              match rest with
              | [] => []
              | y :: rest => ⟨b, x, y, 0xE0⟩ :: sequences rest
            else
              ⟨b, x, 0, 0xE0⟩ :: sequences rest
      else if b = 0xE1 then
        match rest with
        | x :: y :: rest => ⟨b, x, y, 0xE1⟩ :: sequences rest
        | _ => []
      else
        ⟨b, 0, 0, 0⟩ :: sequences rest

/-- What is in the report between two bytes. -/
inductive Mode where
  | start
  | e0
  | e0Release
  | e1
  | e1Second (x : UInt8)
  | pause
  | pauseFourth (x : UInt8)
  | pauseFifth (x y : UInt8)
  | pauseLost

def Mode.next : Mode → UInt8 → Mode × Option Scan
  | .start, b =>
      if b = 0xE0 then (.e0, none)
      else if b = 0xE1 then (.e1, none)
      else (.start, some ⟨b, 0, 0, 0⟩)
  | .e0, b => if b = 0xF0 then (.e0Release, none) else (.start, some ⟨0xE0, b, 0, 0xE0⟩)
  | .e0Release, b => (.start, some ⟨0xE0, 0xF0, b, 0xE0⟩)
  | .e1, b => (.e1Second b, none)
  | .e1Second x, b => (if b = 0x45 then .pause else .start, some ⟨0xE1, x, b, 0xE1⟩)
  | .pause, b => (.pauseFourth b, none)
  | .pauseFourth x, b => (.pauseFifth x b, none)
  | .pauseFifth x y, b =>
      if b = 0xC5 then
        (.start, if x = 0xE1 ∧ y = 0x9D then some ⟨x, y, b, 0xE1⟩ else none)
      else
        (.pauseLost, none)
  | .pauseLost, _ => (.start, none)

/-- What one interrupt dispatches. -/
def decode (m : Mode) : List UInt8 → List Scan
  | [] => []
  | b :: rest => (m.next b).2.toList ++ decode (m.next b).1 rest

/-- The state of the loop is as the mode says. -/
def Mode.Represents (m : Mode) (k : Keyboard) (finished : Bool) : Prop :=
  match m with
  | .start => k.reportIndex = 0
  | .e0 => k.reportIndex = 1 ∧ k.report 0 = 0xE0
  | .e0Release => k.reportIndex = 2 ∧ k.report 0 = 0xE0 ∧ k.report 1 = 0xF0
  | .e1 => k.reportIndex = 1 ∧ k.report 0 = 0xE1 ∧ finished = false
  | .e1Second x => k.reportIndex = 2 ∧ k.report 0 = 0xE1 ∧ k.report 1 = x ∧ finished = false
  | .pause => k.reportIndex = 3 ∧ k.report 0 = 0xE1 ∧ finished = false
  | .pauseFourth x => k.reportIndex = 4 ∧ k.report 0 = 0xE1 ∧ k.report 3 = x ∧ finished = false
  | .pauseFifth x y =>
      k.reportIndex = 5 ∧ k.report 0 = 0xE1 ∧ k.report 3 = x ∧ k.report 4 = y ∧ finished = false
  | .pauseLost => k.reportIndex = 6 ∧ k.report 0 = 0xE1 ∧ finished = false

section Simulation

variable {k : Keyboard} {finished : Bool} {m : Mode} {b : UInt8}

theorem checkByte_next (represents : m.Represents k finished) (b : UInt8) :
    (m.next b).1.Represents (checkByte k finished b).2 (checkByte k finished b).1 ∧
      (checkByte k finished b).2.dispatched = k.dispatched ++
        (m.next b).2.toList.flatMap (interpretAndDispatch k.dpcOn) ∧
      (checkByte k finished b).2.dpcOn = k.dpcOn := by
  cases m with
  | start =>
      simp only [Mode.Represents] at represents
      by_cases first : b = 0xE0
      · simp [Mode.next, checkByte, checkReport, represents, first, extended, nextIndex,
          Mode.Represents, REPORT_MAX]
      · by_cases second : b = 0xE1
        · simp [Mode.next, checkByte, checkReport, represents, second, extended2, nextIndex,
            Mode.Represents, REPORT_MAX]
        · simp [Mode.next, checkByte, checkReport, represents, first, second, regular, nextIndex,
            Mode.Represents]
  | e0 =>
      rcases represents with ⟨index, first⟩
      by_cases mark : b = 0xF0 <;>
        simp [Mode.next, checkByte, checkReport, index, first, mark, extended, nextIndex,
          Mode.Represents, REPORT_MAX]
  | e0Release =>
      rcases represents with ⟨index, first, second⟩
      simp [Mode.next, checkByte, checkReport, index, first, second, extended, nextIndex,
          Mode.Represents]
  | e1 =>
      rcases represents with ⟨index, first, unfinished⟩
      simp [Mode.next, checkByte, checkReport, index, first, unfinished, extended2, nextIndex,
          Mode.Represents, REPORT_MAX]
  | e1Second x =>
      rcases represents with ⟨index, first, second, unfinished⟩
      by_cases pause : b = 0x45 <;>
        simp [Mode.next, checkByte, checkReport, index, first, second, pause, extended2, nextIndex,
          Mode.Represents, REPORT_MAX]
  | pause =>
      rcases represents with ⟨index, first, unfinished⟩
      simp [Mode.next, checkByte, checkReport, index, first, unfinished, extended2, nextIndex,
          Mode.Represents, REPORT_MAX]
  | pauseFourth x =>
      rcases represents with ⟨index, first, fourth, unfinished⟩
      simp [Mode.next, checkByte, checkReport, index, first, fourth, unfinished, extended2,
        nextIndex, Mode.Represents, REPORT_MAX]
  | pauseFifth x y =>
      rcases represents with ⟨index, first, fourth, fifth, unfinished⟩
      by_cases last : b = 0xC5
      · by_cases release : x = 0xE1 ∧ y = 0x9D <;>
          simp [Mode.next, checkByte, checkReport, index, first, fourth, fifth, last, release,
            extended2, nextIndex, Mode.Represents]
      · simp [Mode.next, checkByte, checkReport, index, first, last, unfinished, extended2,
          nextIndex, Mode.Represents, REPORT_MAX]
  | pauseLost =>
      rcases represents with ⟨index, first, unfinished⟩
      simp [Mode.next, checkByte, checkReport, index, first, unfinished, extended2, nextIndex,
          Mode.Represents, REPORT_MAX]

end Simulation

/-- The sequences that one interrupt decodes. After `E1 xx 45` only the release of the
    same key may follow in it, or nothing. -/
inductive Whole : List UInt8 → Prop where
  | nil : Whole []
  | single {b : UInt8} {rest : List UInt8} :
      b ≠ 0xE0 → b ≠ 0xE1 → Whole rest → Whole (b :: rest)
  | make {x : UInt8} {rest : List UInt8} : x ≠ 0xF0 → Whole rest → Whole (0xE0 :: x :: rest)
  | release {y : UInt8} {rest : List UInt8} : Whole rest → Whole (0xE0 :: 0xF0 :: y :: rest)
  | extended {x y : UInt8} {rest : List UInt8} :
      y ≠ 0x45 → Whole rest → Whole (0xE1 :: x :: y :: rest)
  | pauseMake {x : UInt8} : Whole [0xE1, x, 0x45]
  | pause {x : UInt8} {rest : List UInt8} :
      Whole rest → Whole (0xE1 :: x :: 0x45 :: 0xE1 :: 0x9D :: 0xC5 :: rest)

/-- No byte is an answer to a command. -/
def Scancodes (bytes : List UInt8) : Prop :=
  ∀ b ∈ bytes, ¬Answer b

def arrive (bytes : List UInt8) : List Output :=
  bytes.map fun b => ⟨false, b⟩

def events (dpcOn : Bool) (scans : List Scan) : List KeyEvent :=
  scans.flatMap (interpretAndDispatch dpcOn)

/-- The bytes of the sequence that an event is for. -/
def KeyEvent.size : KeyEvent → Nat
  | .deferred _ => 1
  | .raw _ b1 _ lead =>
      if lead = 0 then 1 else if lead = 0xE0 then if b1 = 0xF0 then 3 else 2 else 3

def total (dpcOn : Bool) (scans : List Scan) : Nat :=
  ((events dpcOn scans).map KeyEvent.size).sum

section Interrupts

variable {k : Keyboard} {finished : Bool} {m : Mode}

theorem nextIndex_lt (index : Nat) : nextIndex index finished < REPORT_MAX := by
  unfold nextIndex
  split
  · decide
  · split
    · decide
    · omega

theorem readLoop_bounded (buffer : List Output) (inside : k.reportIndex < REPORT_MAX) :
    (readLoop finished k buffer).1.reportIndex < REPORT_MAX := by
  induction buffer generalizing finished k with
  | nil => exact inside
  | cons o rest ih =>
      unfold readLoop
      split
      · exact inside
      · split
        · exact inside
        · exact ih (nextIndex_lt _)

theorem readLoop_decode (bytes : List UInt8) (scancodes : Scancodes bytes)
    (represents : m.Represents k finished) :
    (readLoop finished k (arrive bytes)).2 = [] ∧
      (readLoop finished k (arrive bytes)).1.dispatched =
        k.dispatched ++ events k.dpcOn (decode m bytes) ∧
      (readLoop finished k (arrive bytes)).1.dpcOn = k.dpcOn := by
  induction bytes generalizing m k finished with
  | nil => simp [arrive, readLoop, decode, events]
  | cons b rest ih =>
      have scancode : ¬Answer b := scancodes b List.mem_cons_self
      have others : Scancodes rest := fun b inside => scancodes b (List.mem_cons_of_mem _ inside)
      rcases checkByte_next represents b with ⟨next, dispatched, same⟩
      rcases ih others next with ⟨drained, later, kept⟩
      rw [arrive, List.map_cons, readLoop, if_neg (by simp), if_neg scancode]
      refine ⟨drained, ?_, kept.trans same⟩
      rw [← arrive, later, dispatched, same, decode, events, events, List.flatMap_append,
        List.append_assoc]

theorem interrupts_decode (groups : List (List UInt8)) (scancodes : ∀ g ∈ groups, Scancodes g) :
    (interrupts k [] (groups.map arrive)).1.dispatched =
      k.dispatched ++ events k.dpcOn (groups.flatMap (decode .start)) := by
  induction groups generalizing k with
  | nil => simp [interrupts, events]
  | cons g rest ih =>
      have represents : Mode.start.Represents { k with reportIndex := 0 } false := rfl
      rcases readLoop_decode g (scancodes g List.mem_cons_self) represents with
        ⟨drained, dispatched, same⟩
      rw [List.map_cons, interrupts, List.nil_append, deviceInterfacePS2Keyboard]
      simp only [drained]
      rw [ih fun g inside => scancodes g (List.mem_cons_of_mem _ inside), dispatched, same,
        List.flatMap_cons, events, events, events, List.flatMap_append, List.append_assoc]

end Interrupts

section Sequences

variable {dpcOn : Bool} {early late : List UInt8}

theorem sequences_nil : sequences [] = [] := rfl

theorem sequences_single {b : UInt8} (rest : List UInt8) (first : b ≠ 0xE0)
    (second : b ≠ 0xE1) : sequences (b :: rest) = ⟨b, 0, 0, 0⟩ :: sequences rest := by
  rw [sequences.eq_def]
  simp only [if_neg first, if_neg second]

theorem sequences_make {x : UInt8} (rest : List UInt8) (other : x ≠ 0xF0) :
    sequences (0xE0 :: x :: rest) = ⟨0xE0, x, 0, 0xE0⟩ :: sequences rest := by
  rw [sequences.eq_def]
  simp only [if_true, if_neg other]

theorem sequences_release (y : UInt8) (rest : List UInt8) :
    sequences (0xE0 :: 0xF0 :: y :: rest) = ⟨0xE0, 0xF0, y, 0xE0⟩ :: sequences rest := by
  rw [sequences.eq_def]
  simp only [if_true]

theorem sequences_extended (x y : UInt8) (rest : List UInt8) :
    sequences (0xE1 :: x :: y :: rest) = ⟨0xE1, x, y, 0xE1⟩ :: sequences rest := by
  have other : (0xE1 : UInt8) ≠ 0xE0 := by decide
  rw [sequences.eq_def]
  simp only [if_neg other, if_true]

theorem sequences_append (whole : Whole early) (late : List UInt8) :
    sequences (early ++ late) = sequences early ++ sequences late := by
  induction whole with
  | nil => rfl
  | single first second _ ih =>
      rw [List.cons_append, sequences_single _ first second, sequences_single _ first second, ih,
        List.cons_append]
  | make other _ ih =>
      simp only [List.cons_append, sequences_make _ other, ih]
  | release _ ih => simp only [List.cons_append, sequences_release, ih]
  | extended _ _ ih => simp only [List.cons_append, sequences_extended, ih]
  | pauseMake =>
      simp only [List.cons_append, List.nil_append, sequences_extended, sequences_nil]
  | pause _ ih => simp only [List.cons_append, sequences_extended, ih]

theorem decode_whole (whole : Whole early) : decode .start early = sequences early := by
  induction whole with
  | nil => rfl
  | single first second _ ih =>
      simp [decode, Mode.next, sequences_single _ first second, first, second, ih]
  | make other _ ih => simp [decode, Mode.next, sequences_make _ other, other, ih]
  | release _ ih => simp [decode, Mode.next, sequences_release, ih]
  | extended other _ ih => simp [decode, Mode.next, sequences_extended, other, ih]
  | pauseMake => simp [decode, Mode.next, sequences]
  | pause _ ih => simp [decode, Mode.next, sequences_extended, ih]

theorem total_append (first second : List Scan) :
    total dpcOn (first ++ second) = total dpcOn first + total dpcOn second := by
  simp [total, events]

theorem total_cons (first : Scan) (rest : List Scan) :
    total dpcOn (first :: rest) = total dpcOn [first] + total dpcOn rest :=
  total_append [first] rest

@[simp] theorem total_nil : total dpcOn [] = 0 := rfl

@[simp] theorem total_single (b : UInt8) : total dpcOn [⟨b, 0, 0, 0⟩] = 1 := by
  cases dpcOn <;> rfl

@[simp] theorem total_make {x : UInt8} (other : x ≠ 0xF0) :
    total dpcOn [⟨0xE0, x, 0, 0xE0⟩] = 2 := by
  simp [total, events, interpretAndDispatch, other, KeyEvent.size]

@[simp] theorem total_release (y : UInt8) : total dpcOn [⟨0xE0, 0xF0, y, 0xE0⟩] = 3 := by
  simp [total, events, interpretAndDispatch, KeyEvent.size]

@[simp] theorem total_extended (x y : UInt8) : total dpcOn [⟨0xE1, x, y, 0xE1⟩] = 3 := by
  simp [total, events, interpretAndDispatch, KeyEvent.size]

/-- A finished sequence is accounted for, and the interrupt goes on from the start. -/
def Accounted (dpcOn : Bool) (bytes : List UInt8) : Prop :=
  total dpcOn (decode .start bytes) ≤ bytes.length ∧
    (total dpcOn (decode .start bytes) = bytes.length → Whole bytes)

theorem accounted_pause {x : UInt8} (rest : List UInt8)
    (shorter : ∀ later : List UInt8, later.length < rest.length → Accounted dpcOn later) :
    total dpcOn (decode .pause rest) ≤ rest.length ∧
      (total dpcOn (decode .pause rest) = rest.length →
        Whole (0xE1 :: x :: 0x45 :: rest)) := by
  match rest with
  | [] => exact ⟨Nat.le_refl _, fun _ => .pauseMake⟩
  | [_] => simp [decode, Mode.next]
  | [_, _] => simp [decode, Mode.next]
  | a :: b :: c :: rest =>
      by_cases last : c = 0xC5
      · rcases shorter rest (by simp only [List.length_cons]; omega) with ⟨bound, whole⟩
        by_cases release : a = 0xE1 ∧ b = 0x9D
        · rcases release with ⟨rfl, rfl⟩
          subst last
          have step : decode .pause (0xE1 :: 0x9D :: 0xC5 :: rest) =
              ⟨0xE1, 0x9D, 0xC5, 0xE1⟩ :: decode .start rest := rfl
          rw [step, total_cons, total_extended]
          simp only [List.length_cons]
          exact ⟨by omega, fun all => .pause (whole (by omega))⟩
        · have step : decode .pause (a :: b :: c :: rest) = decode .start rest := by
            simp [decode, Mode.next, last, release]
          rw [step]
          simp only [List.length_cons]
          exact ⟨by omega, fun all => absurd all (by omega)⟩
      · match rest with
        | [] => simp [decode, Mode.next, last]
        | d :: rest =>
            rcases shorter rest (by simp only [List.length_cons]; omega) with ⟨bound, -⟩
            have step : decode .pause (a :: b :: c :: d :: rest) = decode .start rest := by
              simp [decode, Mode.next, last]
            rw [step]
            simp only [List.length_cons]
            exact ⟨by omega, fun all => absurd all (by omega)⟩

/-- The events of an interrupt are for no more bytes than it reads; and all its bytes
    are accounted for only if they are whole sequences. -/
theorem accounted (bytes : List UInt8) : Accounted dpcOn bytes := by
  have shorter : ∀ later : List UInt8, later.length < bytes.length → Accounted dpcOn later :=
    fun later less => accounted later
  match bytes with
  | [] => exact ⟨Nat.le_refl _, fun _ => .nil⟩
  | b :: rest =>
      by_cases first : b = 0xE0
      · subst first
        match rest with
        | [] => simp [Accounted, decode, Mode.next]
        | x :: rest =>
            by_cases mark : x = 0xF0
            · subst mark
              match rest with
              | [] => simp [Accounted, decode, Mode.next]
              | y :: rest =>
                  rcases shorter rest (by simp only [List.length_cons]; omega) with ⟨bound, whole⟩
                  have step : decode .start (0xE0 :: 0xF0 :: y :: rest) =
                      ⟨0xE0, 0xF0, y, 0xE0⟩ :: decode .start rest := rfl
                  rw [Accounted, step, total_cons, total_release]
                  simp only [List.length_cons]
                  exact ⟨by omega, fun all => .release (whole (by omega))⟩
            · rcases shorter rest (by simp only [List.length_cons]; omega) with ⟨bound, whole⟩
              have step : decode .start (0xE0 :: x :: rest) =
                  ⟨0xE0, x, 0, 0xE0⟩ :: decode .start rest := by
                simp [decode, Mode.next, mark]
              rw [Accounted, step, total_cons, total_make mark]
              simp only [List.length_cons]
              exact ⟨by omega, fun all => .make mark (whole (by omega))⟩
      · by_cases second : b = 0xE1
        · subst second
          match rest with
          | [] => simp [Accounted, decode, Mode.next]
          | [_] => simp [Accounted, decode, Mode.next]
          | x :: y :: rest =>
              -- Behind E1 and 45 the driver waits for the second half of the Pause key.
              by_cases pause : y = 0x45
              · subst pause
                have step : decode .start (0xE1 :: x :: 0x45 :: rest) =
                    ⟨0xE1, x, 0x45, 0xE1⟩ :: decode .pause rest := rfl
                have later := @accounted_pause dpcOn x rest fun later less =>
                  shorter later (by simp; omega)
                rw [Accounted, step, total_cons, total_extended]
                simp only [List.length_cons]
                exact ⟨by omega, fun all => later.2 (by omega)⟩
              · rcases shorter rest (by simp only [List.length_cons]; omega) with ⟨bound, whole⟩
                have step : decode .start (0xE1 :: x :: y :: rest) =
                    ⟨0xE1, x, y, 0xE1⟩ :: decode .start rest := by
                  simp [decode, Mode.next, pause]
                rw [Accounted, step, total_cons, total_extended]
                simp only [List.length_cons]
                exact ⟨by omega, fun all => .extended pause (whole (by omega))⟩
        · rcases shorter rest (by simp) with ⟨bound, whole⟩
          have step : decode .start (b :: rest) = ⟨b, 0, 0, 0⟩ :: decode .start rest := by
            simp [decode, Mode.next, first, second]
          rw [Accounted, step, total_cons, total_single]
          simp only [List.length_cons]
          exact ⟨by omega, fun all => .single first second (whole (by omega))⟩
termination_by bytes.length

theorem keys_whole (count : Nat) :
    Scancodes (List.replicate count 0x1E) ∧ Whole (List.replicate count 0x1E) := by
  constructor
  · intro b inside
    rw [List.eq_of_mem_replicate inside]
    decide
  · induction count with
    | zero => exact .nil
    | succ count ih => exact .single (by decide) (by decide) ih

theorem sequences_completed (bytes : List UInt8) :
    ∃ count, total dpcOn (sequences (bytes ++ List.replicate count 0x1E)) =
      (bytes ++ List.replicate count 0x1E).length := by
  match bytes with
  | [] => exact ⟨0, rfl⟩
  | b :: rest =>
      -- By the prefix; a sequence that the bytes leave open is filled up.
      by_cases first : b = 0xE0
      · subst first
        match rest with
        | [] =>
            refine ⟨1, ?_⟩
            rw [List.cons_append, List.nil_append, List.replicate_one, sequences_make _ (by decide),
              total_cons, total_make (by decide)]
            rfl
        | x :: rest =>
            by_cases mark : x = 0xF0
            · subst mark
              match rest with
              | [] =>
                  refine ⟨1, ?_⟩
                  simp only [List.cons_append, List.nil_append, List.replicate_one,
                    sequences_release, total_release, sequences_nil]
                  rfl
              | y :: rest =>
                  rcases sequences_completed rest with ⟨count, all⟩
                  refine ⟨count, ?_⟩
                  simp only [List.cons_append, sequences_release, List.length_cons]
                  rw [total_cons, total_release, all]
                  omega
            · rcases sequences_completed rest with ⟨count, all⟩
              refine ⟨count, ?_⟩
              simp only [List.cons_append, sequences_make _ mark, List.length_cons]
              rw [total_cons, total_make mark, all]
              omega
      · by_cases second : b = 0xE1
        · subst second
          match rest with
          | [] =>
              refine ⟨2, ?_⟩
              simp only [List.cons_append, List.nil_append, List.replicate, sequences_extended,
                total_extended, sequences_nil]
              rfl
          | [x] =>
              refine ⟨1, ?_⟩
              simp only [List.cons_append, List.nil_append, List.replicate_one,
                sequences_extended, total_extended, sequences_nil]
              rfl
          | x :: y :: rest =>
              rcases sequences_completed rest with ⟨count, all⟩
              refine ⟨count, ?_⟩
              simp only [List.cons_append, sequences_extended, List.length_cons]
              rw [total_cons, total_extended, all]
              omega
        · rcases sequences_completed rest with ⟨count, all⟩
          refine ⟨count, ?_⟩
          simp only [List.cons_append, sequences_single _ first second, List.length_cons]
          rw [total_cons, total_single, all]
          omega
termination_by bytes.length

/-- The index of the report is in its bound after every byte. Interrupts that each bring
    whole sequences dispatch one event for each of them, in order, however they are
    grouped; and the bytes of an interrupt do no harm to what comes after them, whatever
    it is, only if they are whole. -/
theorem keyboard_grouping (k : Keyboard) :
    (∀ buffer, (deviceInterfacePS2Keyboard k buffer).1.reportIndex < REPORT_MAX) ∧
    (∀ groups : List (List UInt8), (∀ g ∈ groups, Scancodes g ∧ Whole g) →
      (interrupts k [] (groups.map arrive)).1.dispatched =
        k.dispatched ++ events k.dpcOn (sequences groups.flatten)) ∧
    (∀ early, Scancodes early →
      ((∀ late, Scancodes late → Whole late →
        (interrupts k [] [arrive early, arrive late]).1.dispatched =
          k.dispatched ++ events k.dpcOn (sequences (early ++ late))) ↔ Whole early)) := by
  refine ⟨?_, ?_, ?_⟩
  · intro buffer
    exact readLoop_bounded buffer (by decide : 0 < REPORT_MAX)
  · intro groups whole
    rw [interrupts_decode groups fun g inside => (whole g inside).1]
    have same : groups.flatMap (decode .start) = sequences groups.flatten := by
      induction groups with
      | nil => rfl
      | cons g rest ih =>
          rcases whole g List.mem_cons_self with ⟨-, first⟩
          rw [List.flatMap_cons, List.flatten_cons, sequences_append first, decode_whole first,
            ih fun g inside => whole g (List.mem_cons_of_mem _ inside)]
    rw [same]
  · intro early scancodes
    have both : ∀ late, Scancodes late → Whole late →
        (interrupts k [] [arrive early, arrive late]).1.dispatched =
          k.dispatched ++ events k.dpcOn (decode .start early ++ sequences late) := by
      intro late codes whole
      have decoded := interrupts_decode (k := k) [early, late] (by simp [scancodes, codes])
      rw [← decode_whole whole]
      simpa using decoded
    constructor
    · intro same
      -- Later bytes that complete what the early ones leave open: if nothing is lost, nothing was
      -- left open.
      rcases @sequences_completed k.dpcOn early with ⟨count, all⟩
      rcases keys_whole count with ⟨codes, whole⟩
      have events_same := same _ codes whole
      rw [both _ codes whole, List.append_cancel_left_eq] at events_same
      have counted : total k.dpcOn (decode .start early ++ sequences (List.replicate count 0x1E)) =
          (early ++ List.replicate count 0x1E).length := by
        rw [← all, total, total, events_same]
      rw [total_append, ← decode_whole whole, List.length_append] at counted
      rcases @accounted k.dpcOn early with ⟨bound, exact⟩
      have late_bound := (@accounted k.dpcOn (List.replicate count 0x1E)).1
      exact exact (by omega)
    · intro whole late codes late_whole
      rw [both late codes late_whole, sequences_append whole, decode_whole whole]

end Sequences

def blank : Keyboard where
  report := fun _ => 0
  reportIndex := 0
  dpcOn := false
  dispatched := []

/-- The arrow up, `E0 48`: in two interrupts, it is the key 8 of the numeric pad. -/
theorem arrow_cut :
    (interrupts blank [] [arrive [0xE0, 0x48]]).1.dispatched = [.raw 0xE0 0x48 0 0xE0] ∧
      (interrupts blank [] [arrive [0xE0], arrive [0x48]]).1.dispatched = [.raw 0x48 0 0 0] := by
  decide +kernel

end Gramado.Chardev.Keyboard
