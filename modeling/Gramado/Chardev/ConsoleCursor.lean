/-
The cursors stay on their screens as long as no move and no restore goes to a place
that is not on the screen. Every byte and every request keeps the margins.
-/
import Gramado.Chardev.ConsoleSplit
import Gramado.Lib.Machine

namespace Gramado.Chardev.Console

open Gramado.Ke
open Gramado.Lib.Fallible
open Gramado.Lib.Machine

def Tty.Shows (t : Tty) (x y : UInt64) : Prop :=
  t.cursorLeft ≤ x ∧ x < t.cursorRight ∧ t.cursorTop ≤ y ∧ y < t.cursorBottom

def Tty.OnScreen (t : Tty) : Prop :=
  t.Shows t.cursorX t.cursorY

/-- The screen is no larger than an `int` says. -/
def Tty.Sized (t : Tty) : Prop :=
  t.cursorRight.toNat < 2 ^ 31 ∧ t.cursorBottom.toNat < 2 ^ 31

def Tty.margins (t : Tty) : (UInt64 × UInt64) × UInt64 × UInt64 :=
  ((t.cursorLeft, t.cursorTop), t.cursorRight, t.cursorBottom)

/-- Every initialized console has its cursor on its screen. -/
def Safe (k : Consoles) : Prop :=
  ∀ m, (k.ttys m).initialized → (k.ttys m).OnScreen ∧ (k.ttys m).Sized

/-- The cursor may be moved there: the place is on the screen, or it is refused. -/
def Tty.Lands (t : Tty) (x y : Int32) : Prop :=
  t.accepts x y → t.Shows x.toUInt32.toUInt64 y.toUInt32.toUInt64

/-- Where a command moves the cursor to is on the screen or refused, and what is
    restored is on it. -/
def Lands (k : Consoles) (ch : UInt8) (n : ConsoleId) : Prop :=
  (k.ttys n).initialized →
    (∀ x y, moveTarget k ch n = some (x, y) → (k.ttys n).Lands x y) ∧
    (ch = 117 → (k.ttys n).Shows (k.savedX.toUInt32 &&& 0xFFFF).toUInt64
      (k.savedY.toUInt32 &&& 0xFFFF).toUInt64)

/-- The byte ends no sequence that moves the cursor off the screen. -/
def ByteLands (k : Consoles) (ch : UInt8) (n : ConsoleId) : Prop :=
  match k.stage with
  | .params => Lands k ch n
  | .csi => Lands { k with par := fun _ => 0, npar := 0 } ch n
  | _ => True

/-- Where a request moves the cursor of the foreground console to. -/
def requestTarget (t : Tty) (request arg : UInt64) : Option (Int32 × Int32) :=
  match request.toNat with
  | 440 => some (0, 0)
  | 1001 => some (toInt arg, toInt t.cursorY)
  | 1002 => some (toInt t.cursorX, toInt arg)
  | 1008 => some (toInt arg, 0)
  | 1009 => some (toInt arg, toInt (t.cursorBottom - 1))
  | _ => none

def RequestLands (k : Consoles) (request arg : UInt64) : Prop :=
  (k.ttys k.fgConsole).initialized → ∀ x y,
    requestTarget (k.ttys k.fgConsole) request arg = some (x, y) →
      (k.ttys k.fgConsole).Lands x y

section Safety

variable {k k' : Consoles} {n m : ConsoleId} {ch : UInt8} {t : Tty} {change : Tty → Tty}
  {echo : Bool}

theorem toLong_toInt {x : UInt64} (small : x.toNat < 2 ^ 31) : toLong (toInt x) = x := by
  have bound : x.toBitVec.toNat < 2147483648 := small
  have positive : (x.toBitVec.setWidth 32).msb = false := by
    rw [BitVec.msb_eq_decide, decide_eq_false_iff_not, BitVec.toNat_setWidth]
    omega
  apply UInt64.toBitVec_inj.mp
  simp only [toInt, toLong]
  change BitVec.signExtend 64 (x.toBitVec.setWidth 32) = x.toBitVec
  rw [BitVec.signExtend_eq_setWidth_of_msb_false positive]
  bv_omega

theorem toInt_long {x : UInt64} (small : x.toNat < 2 ^ 31) :
    (toInt x).toUInt32.toUInt64 = x := by
  apply UInt64.toNat_inj.mp
  simp [toInt]
  omega

theorem sized_narrow (on_screen : t.OnScreen) (sized : t.Sized) : t.Narrow := by
  rcases on_screen with ⟨-, -, top, bottom⟩
  have above : t.cursorTop < t.cursorBottom := UInt64.lt_of_le_of_lt top bottom
  exact ⟨toLong_toInt (Nat.lt_trans (UInt64.lt_iff_toNat_lt.mp above) sized.2),
    toLong_toInt sized.2⟩

theorem sized_of_margins {t' : Tty} (same : t'.margins = t.margins) (sized : t.Sized) :
    t'.Sized := by
  have right : t'.cursorRight = t.cursorRight := congrArg (fun margins => margins.2.1) same
  have bottom : t'.cursorBottom = t.cursorBottom := congrArg (fun margins => margins.2.2) same
  rw [Tty.Sized, right, bottom]
  exact sized

/-- Margins that an `int` holds are the same again after they are written back. -/
theorem margins_same {t' : Tty} (setup : t'.setup = t.setup) (narrow : t.Narrow)
    (narrow' : t'.Narrow) : t'.margins = t.margins := by
  have left : t'.cursorLeft = t.cursorLeft := congrArg (fun setup => setup.2.1.1) setup
  have right : t'.cursorRight = t.cursorRight := congrArg (fun setup => setup.2.1.2) setup
  have top : toInt t'.cursorTop = toInt t.cursorTop := congrArg (fun setup => setup.2.2.1) setup
  have bottom : toInt t'.cursorBottom = toInt t.cursorBottom :=
    congrArg (fun setup => setup.2.2.2) setup
  rw [Tty.margins, Tty.margins, left, right, ← narrow'.1, ← narrow'.2, top, bottom, narrow.1,
    narrow.2]

theorem shows_of_margins {t' : Tty} {x y : UInt64} (same : t'.margins = t.margins)
    (shows_place : t.Shows x y) : t'.Shows x y := by
  have left : t'.cursorLeft = t.cursorLeft := congrArg (fun margins => margins.1.1) same
  have top : t'.cursorTop = t.cursorTop := congrArg (fun margins => margins.1.2) same
  have right : t'.cursorRight = t.cursorRight := congrArg (fun margins => margins.2.1) same
  have bottom : t'.cursorBottom = t.cursorBottom := congrArg (fun margins => margins.2.2) same
  rw [Tty.Shows, left, top, right, bottom]
  exact shows_place

theorem safe_same (same : k'.ttys = k.ttys) (safe : Safe k) : Safe k' := by
  intro m
  rw [same]
  exact safe m

theorem safe_modify (init : ∀ t, (change t).initialized = t.initialized)
    (step : (k.ttys n).initialized → (k.ttys n).OnScreen → (k.ttys n).Sized →
      (change (k.ttys n)).OnScreen ∧ (change (k.ttys n)).Sized)
    (safe : Safe k) : Safe (k.modify n change) := by
  intro m initialized
  by_cases here : m = n
  · rw [here, modify_self] at initialized ⊢
    rw [init] at initialized
    exact step initialized (safe n initialized).1 (safe n initialized).2
  · rw [modify_other here] at initialized ⊢
    exact safe m initialized

theorem safe_lastLine (safe : Safe k) :
    Safe (k.modify n fun t => { t with cursorY := t.cursorBottom - 1 }) := by
  refine safe_modify (fun t => rfl) ?_ safe
  rintro - ⟨left, right, top, bottom⟩ sized
  refine ⟨⟨left, right, ?_, ?_⟩, sized⟩
  · change (k.ttys n).cursorTop ≤ (k.ttys n).cursorBottom - 1
    grind
  · change (k.ttys n).cursorBottom - 1 < (k.ttys n).cursorBottom
    grind

theorem safe_scroll {direction : Int32} (safe : Safe k) :
    Safe (consoleScrollRect k n direction) := by
  unfold consoleScrollRect
  split
  · exact safe
  · split
    · exact safe
    · exact safe_same rfl (safe_lastLine (safe_same rfl safe))

theorem safe_scrollIfFullscreen (safe : Safe k) : Safe (k.scrollIfFullscreen n) := by
  unfold Consoles.scrollIfFullscreen
  split
  · exact safe_scroll safe
  · exact safe

theorem safe_column {x : Tty → UInt64}
    (inside : (k.ttys n).OnScreen → (k.ttys n).Sized →
      (k.ttys n).cursorLeft ≤ x (k.ttys n) ∧ x (k.ttys n) < (k.ttys n).cursorRight)
    (safe : Safe k) : Safe (k.modify n fun t => t.column (x t) ch) := by
  refine safe_modify (fun t => rfl) ?_ safe
  intro _ on_screen sized
  rcases inside on_screen sized with ⟨left, right⟩
  exact ⟨⟨left, right, on_screen.2.2⟩, sized⟩

theorem left_inside (on_screen : t.OnScreen) :
    t.cursorLeft ≤ t.cursorLeft ∧ t.cursorLeft < t.cursorRight :=
  ⟨UInt64.le_refl _, UInt64.lt_of_le_of_lt on_screen.1 on_screen.2.1⟩

theorem safe_newline (safe : Safe k) : Safe (newline k n) := by
  simp only [newline]
  refine safe_column (fun on_screen _ => left_inside on_screen) ?_
  split
  · exact safe_lastLine (safe_scrollIfFullscreen safe)
  · rename_i above
    refine safe_modify (fun t => rfl) ?_ safe
    rintro - ⟨left, right, top, bottom⟩ sized
    refine ⟨⟨left, right, ?_, ?_⟩, sized⟩
    · change (k.ttys n).cursorTop ≤ (k.ttys n).cursorY + 1
      grind
    · change (k.ttys n).cursorY + 1 < (k.ttys n).cursorBottom
      grind

theorem safe_tab (safe : Safe k) : Safe (k.modify n Tty.tab) := by
  refine safe_column (x := fun t =>
    if t.cursorX + 8 ≥ t.cursorRight then t.cursorRight - 1 else t.cursorX + 8) ?_ safe
  rintro ⟨left, right, -⟩ ⟨narrow, -⟩
  split
  · constructor <;> grind
  · rename_i room
    have small : (k.ttys n).cursorX ≤ (k.ttys n).cursorX + 8 := by
      have below := UInt64.lt_iff_toNat_lt.mp right
      rw [UInt64.le_iff_toNat_le, UInt64.toNat_add]
      change _ ≤ (_ + 8) % 2 ^ 64
      omega
    exact ⟨UInt64.le_trans left small, by grind⟩

theorem safe_backspace (safe : Safe k) : Safe (k.modify n Tty.backspace) := by
  refine safe_modify ?_ ?_ safe
  · intro t
    unfold Tty.backspace
    split
    · rfl
    · split <;> rfl
  · rintro - ⟨left, right, top, bottom⟩ sized
    unfold Tty.backspace
    split
    · refine ⟨⟨?_, ?_, top, bottom⟩, sized⟩
      · change (k.ttys n).cursorLeft ≤ (k.ttys n).cursorX - 1
        grind
      · change (k.ttys n).cursorX - 1 < (k.ttys n).cursorRight
        grind
    · split
      · refine ⟨⟨?_, ?_, ?_, ?_⟩, sized⟩
        · change (k.ttys n).cursorLeft ≤ (k.ttys n).cursorRight - 1
          grind
        · change (k.ttys n).cursorRight - 1 < (k.ttys n).cursorRight
          grind
        · change (k.ttys n).cursorTop ≤ (k.ttys n).cursorY - 1
          grind
        · change (k.ttys n).cursorY - 1 < (k.ttys n).cursorBottom
          grind
      · exact ⟨⟨left, right, top, bottom⟩, sized⟩

theorem printed_onScreen (on_screen : t.OnScreen) : (t.printed ch).OnScreen := by
  rcases on_screen with ⟨left, right, top, bottom⟩
  simp only [Tty.OnScreen, Tty.Shows, Tty.printed, Tty.wrapped, Tty.wrap]
  by_cases room : t.hasRoom
  · have wide : t.cursorX < t.cursorRight - 1 := by simpa [Tty.hasRoom] using room
    simp only [room, if_true, if_neg (UInt64.not_le.mpr bottom), ge_iff_le]
    refine ⟨?_, ?_, top, bottom⟩ <;> grind
  · simp only [room, if_false, Bool.false_eq_true, ge_iff_le]
    split
    · simp only [Tty.lastLine]
      refine ⟨UInt64.le_refl _, ?_, ?_, ?_⟩ <;> grind
    · refine ⟨UInt64.le_refl _, ?_, ?_, ?_⟩ <;> grind

theorem printed_same : (t.printed ch).initialized = t.initialized ∧
    (t.printed ch).margins = t.margins := by
  simp only [Tty.printed, Tty.wrapped, Tty.wrap, Tty.lastLine]
  by_cases room : t.hasRoom
  · simp only [room, if_true]
    split <;> exact ⟨rfl, rfl⟩
  · simp only [room, if_false, Bool.false_eq_true]
    split <;> exact ⟨rfl, rfl⟩

theorem safe_printChar (safe : Safe k) : Returns (printChar k ch n) Safe := by
  refine Returns.mono only_printChar ?_
  rintro k' ⟨self, other⟩ m initialized
  by_cases here : m = n
  · rw [here, self] at initialized ⊢
    rw [printed_same.1] at initialized
    rcases safe n initialized with ⟨on_screen, sized⟩
    exact ⟨printed_onScreen on_screen, sized_of_margins printed_same.2 sized⟩
  · rw [other m here] at initialized ⊢
    exact safe m initialized

theorem safe_outbyte (safe : Safe k) : Returns (consoleOutbyte k ch n) Safe := by
  have feed : Safe (k.modify n fun t =>
      { t.column t.cursorLeft 12 with cursorY := t.cursorTop }) := by
    refine safe_modify (fun t => rfl) ?_ safe
    intro _ on_screen sized
    refine ⟨⟨(left_inside on_screen).1, (left_inside on_screen).2, UInt64.le_refl _, ?_⟩, sized⟩
    exact UInt64.lt_of_le_of_lt on_screen.2.2.1 on_screen.2.2.2
  have carriage : Safe (k.modify n fun t =>
      t.column (if t.prevChar = 10 then t.cursorX else t.cursorLeft) 13) := by
    refine safe_column ?_ safe
    intro on_screen _
    split
    · exact ⟨on_screen.1, on_screen.2.1⟩
    · exact left_inside on_screen
  unfold consoleOutbyte
  simp only [returns_ite, returns_error, returns_ok, implies_true, true_and]
  intro _
  exact ⟨fun _ => safe, fun _ => ⟨fun _ => feed, fun _ => ⟨fun _ => safe_newline safe,
    fun _ => ⟨fun _ => carriage, fun _ => ⟨fun _ => safe_tab safe,
      fun _ => ⟨fun _ => safe_backspace safe, fun _ => safe_printChar safe⟩⟩⟩⟩⟩⟩

theorem safe_putchar (safe : Safe k) : Returns (consolePutchar k ch n) Safe := by
  unfold consolePutchar
  rw [returns_ite]
  refine ⟨by simp, fun _ => ?_⟩
  refine returns_of_bind (safe_outbyte safe) ?_
  intro k₁ first
  rw [returns_pure]
  exact safe_same rfl first

theorem safe_gotoxy {x y : Int32} (lands : (k.ttys n).initialized → (k.ttys n).Lands x y)
    (safe : Safe k) : Safe (localGotoxy k x y n) := by
  refine safe_modify ?_ ?_ safe
  · intro t
    split <;> rfl
  · intro initialized on_screen sized
    by_cases accepted : (k.ttys n).accepts x y
    · rw [if_pos accepted]
      exact ⟨lands initialized accepted, sized⟩
    · rw [if_neg accepted]
      exact ⟨on_screen, sized⟩

/-- A place on the screen is not changed on its way through an `int`. -/
theorem lands_of_shows {x y : UInt64} (shows_place : t.Shows x y) (sized : t.Sized) :
    t.Lands (toInt x) (toInt y) := by
  intro _
  rcases shows_place with ⟨left, right, top, bottom⟩
  rw [toInt_long (Nat.lt_trans (UInt64.lt_iff_toNat_lt.mp right) sized.1),
    toInt_long (Nat.lt_trans (UInt64.lt_iff_toNat_lt.mp bottom) sized.2)]
  exact ⟨left, right, top, bottom⟩

theorem safe_erase {y col : UInt64} (more : Nat) (safe : Safe k)
    (inside : (k.ttys n).initialized → ∀ c : UInt64,
      col.toNat ≤ c.toNat → c.toNat < col.toNat + more → (k.ttys n).Shows c y) :
    Returns (eraseColumns y n more col k) Safe := by
  induction more generalizing col k with
  | zero =>
      rw [eraseColumns, returns_ok]
      exact safe
  | succ more ih =>
      rw [eraseColumns]
      have moved : Safe (localGotoxy k (toInt col) (toInt y) n) := by
        refine safe_gotoxy (fun initialized => ?_) safe
        exact lands_of_shows (inside initialized col (Nat.le_refl _) (by omega))
          (safe n initialized).2
      have kept : Returns (consoleOutbyte (localGotoxy k (toInt col) (toInt y) n) 32 n) fun k' =>
          Safe k' ∧ Kept k k' :=
        fun k' done => ⟨safe_outbyte moved k' done, kept_trans kept_gotoxy (kept_outbyte k' done)⟩
      refine returns_of_bind kept ?_
      rintro k₁ ⟨safe₁, kept₁⟩
      refine ih safe₁ ?_
      intro initialized c low high
      have before : (k.ttys n).initialized :=
        (congrArg (fun setup => setup.1.1) (kept₁.setup n)).symm.trans initialized
      have narrow := sized_narrow (safe n before).1 (safe n before).2
      refine shows_of_margins (margins_same (kept₁.setup n) narrow (kept₁.narrow n narrow)) ?_
      have first := inside before col (Nat.le_refl _) (by omega)
      have bound : col.toNat + 1 < 2 ^ 64 := by
        have right := UInt64.lt_iff_toNat_lt.mp first.2.1
        have sized := (safe n before).2.1
        omega
      have next : (col + 1).toNat = col.toNat + 1 := by
        rw [UInt64.toNat_add]
        exact Nat.mod_eq_of_lt bound
      rw [next] at low high
      exact inside before c (by omega) (by omega)

/-- The columns that are erased are columns of the line of the cursor. -/
theorem erased_inside {mode : Int32} {start stop : UInt64}
    (found : erased t mode = some (start, stop))
    (on_screen : t.OnScreen) {c : UInt64} (low : start.toNat ≤ c.toNat)
    (high : c.toNat < start.toNat + (stop.toNat - start.toNat)) : t.Shows c t.cursorY := by
  have below : c < stop := by
    rw [UInt64.lt_iff_toNat_lt]
    omega
  have above : start ≤ c := UInt64.le_iff_toNat_le.mpr low
  rcases on_screen with ⟨left, right, line⟩
  unfold erased at found
  split at found
  · cases found
    exact ⟨UInt64.le_trans left above, below, line⟩
  · cases found
    exact ⟨above, by grind, line⟩
  · cases found
    exact ⟨above, below, line⟩
  · cases found

theorem safe_csiK {mode : Int32} (safe : Safe k) : Returns (csiK k mode) Safe := by
  simp only [csiK]
  cases found : erased (k.ttys k.fgConsole) mode with
  | none =>
      rw [returns_ok]
      exact safe
  | some columns =>
      rcases columns with ⟨start, stop⟩
      have line : Returns (eraseColumns (k.ttys k.fgConsole).cursorY k.fgConsole
          (stop.toNat - start.toNat) start k) fun k' => Safe k' ∧ Kept k k' := by
        intro k' done
        refine ⟨safe_erase _ safe ?_ k' done, kept_erase _ k' done⟩
        intro initialized c low high
        exact erased_inside found (safe _ initialized).1 low high
      refine returns_of_bind line ?_
      rintro k₁ ⟨safe₁, kept₁⟩
      rw [returns_pure]
      refine safe_gotoxy ?_ safe₁
      intro initialized
      have before : (k.ttys k.fgConsole).initialized :=
        (congrArg (fun setup => setup.1.1) (kept₁.setup _)).symm.trans initialized
      have narrow := sized_narrow (safe _ before).1 (safe _ before).2
      have margins := margins_same (kept₁.setup _) narrow (kept₁.narrow _ narrow)
      exact lands_of_shows (shows_of_margins margins (safe _ before).1) (safe₁ _ initialized).2

theorem safe_deleteLine (safe : Safe k) : Safe (localDeleteLine k n) := by
  simp only [localDeleteLine]
  refine safe_modify (fun t => rfl) ?_ safe
  intro _ on_screen sized
  rcases sized_narrow on_screen sized with ⟨top, bottom⟩
  rw [top, bottom]
  exact ⟨on_screen, sized⟩

theorem safe_repeat {f : Consoles → Consoles} (once : ∀ k, Safe k → Safe (f k)) (times : Nat)
    (safe : Safe k) : Safe (repeatTimes f times k) := by
  induction times generalizing k with
  | zero => exact safe
  | succ times ih => exact ih (once k safe)

theorem safe_renditions (set : List Int32) (safe : Safe k) :
    Safe (k.modify n fun t => set.foldl Tty.rendition t) := by
  refine safe_modify ?_ ?_ safe
  · exact fun t => congrArg (fun setup => setup.1.1) (renditions_same set).1
  · intro _ on_screen sized
    have place := (renditions_same (t := k.ttys n) set).2
    have margins : ((set.foldl Tty.rendition (k.ttys n)).margins) = (k.ttys n).margins :=
      congrArg (fun place => place.2) place
    have x : (set.foldl Tty.rendition (k.ttys n)).cursorX = (k.ttys n).cursorX :=
      congrArg (fun place => place.1.1) place
    have y : (set.foldl Tty.rendition (k.ttys n)).cursorY = (k.ttys n).cursorY :=
      congrArg (fun place => place.1.2) place
    refine ⟨?_, sized_of_margins margins sized⟩
    rw [Tty.OnScreen, x, y]
    exact shows_of_margins margins on_screen

theorem safe_execute (lands : Lands k ch n) (safe : Safe k) :
    Returns (execute k ch n) Safe := by
  have begun : Safe { k with stage := .normal } := safe_same rfl safe
  simp only [execute]
  cases moves : moveTarget { k with stage := .normal } ch n with
  | some target =>
      rw [returns_ok]
      exact safe_gotoxy (fun initialized => (lands initialized).1 _ _ moves) begun
  | none =>
      simp only
      split
      · exact safe_csiK begun
      · rw [returns_ok]
        unfold csiMColors
        split
        · exact safe_modify (fun t => rfl) (fun _ on_screen sized => ⟨on_screen, sized⟩) begun
        · exact safe_same rfl (safe_renditions _ begun)
      · rw [returns_ok]
        exact safe_same rfl begun
      · rename_i restore
        rw [returns_ok]
        refine safe_modify (fun t => rfl) ?_ begun
        intro initialized _ sized
        exact ⟨(lands initialized).2 (UInt8.toNat_inj.mp restore), sized⟩
      · rw [returns_ok]
        refine safe_repeat (fun k safe => ?_) _ begun
        rw [insertLine_eq]
        exact safe_deleteLine safe
      · rw [returns_ok]
        exact safe_repeat (fun k safe => safe_deleteLine safe) _ begun
      · rw [returns_ok]
        exact begun

theorem safe_stageNormal (safe : Safe k) : Returns (stageNormal k echo ch n) Safe := by
  unfold stageNormal
  simp only [returns_ite, returns_ok]
  exact ⟨fun _ => safe_same rfl safe, fun _ =>
    ⟨fun _ => ⟨fun _ => safe_outbyte safe, fun _ => safe⟩,
      fun _ => ⟨fun _ => safe_putchar safe, fun _ => safe⟩⟩⟩

theorem safe_enter (safe : Safe k) : Returns (enter k n) fun out => Safe out.2 := by
  refine Returns.mono enter_taken ?_
  rintro out ⟨-, begun⟩
  rw [begun]
  exact safe_same rfl safe

theorem safe_respond (safe : Safe k) : Returns (respond k n) Safe := by
  rw [respond_eq]
  generalize RESPONSE = bytes
  induction bytes generalizing k with
  | nil =>
      rw [List.foldlM_nil, returns_pure]
      exact safe
  | cons ch rest ih =>
      rw [List.foldlM_cons]
      have first : Returns (respondByte n k ch) Safe := by
        refine returns_of_bind (safe_enter safe) ?_
        rintro ⟨echo, k₁⟩ safe₁
        exact safe_stageNormal safe₁
      exact returns_of_bind first fun k₁ safe₁ => ih safe₁

theorem safe_stageParams (lands : Lands k ch n) (safe : Safe k) :
    Returns (stageParams k ch n) Safe := by
  unfold stageParams
  simp only [returns_ite, returns_ok]
  exact ⟨fun _ => safe_same rfl safe, fun _ =>
    ⟨fun _ => safe_same rfl safe, fun _ => safe_execute lands safe⟩⟩

theorem safe_writeByte (lands : ByteLands k ch n) (safe : Safe k) :
    Returns (writeByte echo n k ch) Safe := by
  unfold ByteLands at lands
  unfold writeByte
  cases stage : k.stage with
  | normal => exact safe_stageNormal safe
  | escape =>
      have begun : Safe { k with stage := .normal } := safe_same rfl safe
      simp only [stageEscape, returns_ite, returns_ok]
      exact ⟨fun _ => safe_same rfl safe, fun _ => ⟨fun _ => safe_putchar begun,
        fun _ => ⟨fun _ => safe_respond begun, fun _ => begun⟩⟩⟩
  | csi =>
      rw [stage] at lands
      have begun : Safe { k with par := fun _ => 0, npar := 0, stage := .params } :=
        safe_same rfl safe
      simp only [stageCsi, returns_ite, returns_ok]
      exact ⟨fun _ => begun, fun _ => safe_stageParams lands begun⟩
  | params =>
      rw [stage] at lands
      exact safe_stageParams lands safe

theorem safe_indent (indent : Nat) (safe : Safe k) :
    Returns (consolePrintIndent k indent n) Safe := by
  unfold consolePrintIndent
  induction indent generalizing k with
  | zero =>
      rw [List.replicate_zero, List.foldlM_nil, returns_pure]
      exact safe
  | succ indent ih =>
      rw [List.replicate_succ, List.foldlM_cons]
      exact returns_of_bind (safe_putchar safe) fun k₁ safe₁ => ih safe₁

theorem safe_request {request arg : UInt64} (lands : RequestLands k request arg)
    (safe : Safe k) : Returns (ioctlRequest k request arg) Safe := by
  unfold RequestLands requestTarget at lands
  unfold ioctlRequest
  split
  · rename_i clear
    rw [clear] at lands
    rw [returns_ok]
    unfold consoleClearImp
    split
    · exact safe
    · have coloured : Safe (k.modify k.fgConsole fun t =>
          { t with bgColor := (k.ttys k.fgConsole).bgColor
                   fgColor := (k.ttys k.fgConsole).fgColor }) :=
        safe_modify (fun t => rfl) (fun _ on_screen sized => ⟨on_screen, sized⟩) safe
      refine safe_same rfl (safe_gotoxy ?_ coloured)
      intro initialized
      rw [modify_self] at initialized ⊢
      exact lands initialized 0 0 rfl
  · rw [returns_ok]
    exact safe_scroll safe
  · rw [returns_ok]
    exact safe_scroll safe
  · rename_i column
    rw [column] at lands
    rw [returns_ok]
    exact safe_gotoxy (fun initialized => lands initialized _ _ rfl) safe
  · rename_i line
    rw [line] at lands
    rw [returns_ok]
    exact safe_gotoxy (fun initialized => lands initialized _ _ rfl) safe
  · split
    · rw [returns_ok]
      exact safe_same rfl safe
    · rw [returns_ok]
      exact safe
  · rename_i first
    rw [first] at lands
    rw [returns_ok]
    exact safe_gotoxy (fun initialized => lands initialized _ _ rfl) safe
  · rename_i last
    rw [last] at lands
    rw [returns_ok]
    exact safe_gotoxy (fun initialized => lands initialized _ _ rfl) safe
  · rw [returns_ite, returns_ok]
    exact ⟨fun _ => safe_indent _ safe, fun _ => safe⟩
  · rw [returns_ok]
    exact safe

theorem safe_ioctl {fd : Int32} {request arg : UInt64}
    (lands : fd = 1 → RequestLands k request arg) (safe : Safe k) :
    Returns (consoleIoctl k fd request arg) Safe := by
  unfold consoleIoctl
  simp only [returns_ite, returns_ok, returns_error, implies_true, true_and]
  refine ⟨fun _ => safe, fun _ output => ?_⟩
  exact safe_request (lands (not_not.mp output)) safe

/-- What no byte and no request changes: the margins and the bound of the parameters. -/
structure Framed (k k' : Consoles) : Prop where
  setup : ∀ m, (k'.ttys m).setup = (k.ttys m).setup
  narrow : ∀ m, (k.ttys m).Narrow → (k'.ttys m).Narrow
  bounded : k.npar < NPAR → k'.npar < NPAR

theorem framed_refl : Framed k k := ⟨fun _ => rfl, fun _ => id, id⟩

theorem framed_of_kept (kept : Kept k k') : Framed k k' :=
  ⟨kept.setup, kept.narrow, fun few => kept.npar ▸ few⟩

theorem kept_indent (indent : Nat) : Returns (consolePrintIndent k indent n) (Kept k) := by
  unfold consolePrintIndent
  induction indent generalizing k with
  | zero =>
      rw [List.replicate_zero, List.foldlM_nil, returns_pure]
      exact kept_refl
  | succ indent ih =>
      rw [List.replicate_succ, List.foldlM_cons]
      refine returns_of_bind kept_putchar ?_
      intro k₁ first
      exact Returns.mono ih fun k₂ later => kept_trans first later

theorem kept_clear {bg fg : UInt32} : Kept k (consoleClearImp k bg fg n) := by
  have coloured : Kept k (k.modify n fun t => { t with bgColor := bg, fgColor := fg }) :=
    kept_modify (fun t => rfl) fun t => id
  simp only [consoleClearImp]
  split
  · exact kept_refl
  · exact kept_trans (kept_trans coloured kept_gotoxy) (kept_draw _)

theorem framed_ioctl {fd : Int32} {request arg : UInt64} :
    Returns (consoleIoctl k fd request arg) (Framed k) := by
  unfold consoleIoctl
  simp only [returns_ite, returns_ok, returns_error, implies_true, true_and]
  refine ⟨fun _ => framed_refl, fun _ _ => ?_⟩
  unfold ioctlRequest
  split
  · rw [returns_ok]
    exact framed_of_kept kept_clear
  · rw [returns_ok]
    exact framed_of_kept kept_scroll
  · rw [returns_ok]
    exact framed_of_kept kept_scroll
  · rw [returns_ok]
    exact framed_of_kept kept_gotoxy
  · rw [returns_ok]
    exact framed_of_kept kept_gotoxy
  · split
    · rw [returns_ok]
      exact ⟨fun _ => rfl, fun _ => id, id⟩
    · rw [returns_ok]
      exact framed_refl
  · rw [returns_ok]
    exact framed_of_kept kept_gotoxy
  · rw [returns_ok]
    exact framed_of_kept kept_gotoxy
  · rw [returns_ite, returns_ok]
    exact ⟨fun _ => Returns.mono (kept_indent _) fun k' => framed_of_kept, fun _ => framed_refl⟩
  · rw [returns_ok]
    exact framed_refl

end Safety

/-- The calls of console.c, a write being a call and then its bytes. -/
inductive Event where
  | write (number : Int32)
  | byte (ch : UInt8)
  | ioctl (fd : Int32) (request arg : UInt64)

/-- The consoles, and the console that is written to with its flag ECHO. -/
structure Writer where
  consoles : Consoles
  writing : Option (ConsoleId × Bool)

def serve (s : Writer) : Event → Except Ke.Stop (Unit × Writer)
  | .write number =>
      match consoleOf number with
      | none => .ok ((), { s with writing := none })
      | some n => do
          let (echo, k) ← enter s.consoles n
          return ((), ⟨k, some (n, echo)⟩)
  | .byte ch =>
      match s.writing with
      | none => .ok ((), s)
      | some (n, echo) => do
          let k ← writeByte echo n s.consoles ch
          return ((), ⟨k, some (n, echo)⟩)
  | .ioctl fd request arg => do
      let k ← consoleIoctl s.consoles fd request arg
      return ((), ⟨k, none⟩)

/-- The event moves no cursor off its screen. -/
def EventLands (s : Writer) : Event → Prop
  | .write _ => True
  | .byte ch => ∀ n echo, s.writing = some (n, echo) → ByteLands s.consoles ch n
  | .ioctl fd request arg => fd = 1 → RequestLands s.consoles request arg

section Serving

variable {s s' : Writer}

theorem run_bytes (n : ConsoleId) (echo : Bool) (bytes : List UInt8) (k : Consoles) :
    (run serve ⟨k, some (n, echo)⟩ (bytes.map .byte)).map (fun out => out.2.consoles) =
      bytes.foldlM (writeByte echo n) k := by
  induction bytes generalizing k with
  | nil => rfl
  | cons ch rest ih =>
      rw [List.map_cons, List.foldlM_cons]
      rcases done : writeByte echo n k ch with stop | k₁
      · simp [run, serve, done]
        rfl
      · have first : serve ⟨k, some (n, echo)⟩ (.byte ch) = .ok ((), ⟨k₁, some (n, echo)⟩) := by
          simp only [serve, done]
          rfl
        rw [run_cons_of_ok first]
        refine Eq.trans ?_ (ih k₁)
        cases run serve ⟨k₁, some (n, echo)⟩ (rest.map .byte) <;> rfl

/-- A call of `console_write` is the event `write`, and then its bytes. -/
theorem write_run (number : Int32) (buf : List UInt8) (some_bytes : buf ≠ []) :
    (run serve s (.write number :: buf.map .byte)).map (fun out => out.2.consoles) =
      (consoleWrite s.consoles number buf).map Prod.snd := by
  cases found : consoleOf number with
  | none =>
      have begun : serve s (.write number) = .ok ((), { s with writing := none }) := by
        simp only [serve, found]
      have idle : ∀ bytes : List UInt8, ∃ outs,
          run serve { s with writing := none } (bytes.map .byte) =
            .ok (outs, { s with writing := none }) := by
        intro bytes
        induction bytes with
        | nil => exact ⟨[], rfl⟩
        | cons ch rest ih =>
            rcases ih with ⟨outs, ran⟩
            refine ⟨() :: outs, ?_⟩
            rw [List.map_cons, run_cons_of_ok (t := { s with writing := none }) rfl, ran]
            rfl
      rcases idle buf with ⟨outs, ran⟩
      rw [run_cons_of_ok begun, ran, consoleWrite, found]
      rfl
  | some n =>
      rw [write_eq_bytes found some_bytes, writeBytes]
      rcases entered : enter s.consoles n with stop | ⟨echo, k⟩
      · simp [run, serve, found, entered]
        rfl
      · have begun : serve s (.write number) = .ok ((), ⟨k, some (n, echo)⟩) := by
          simp only [serve, found, entered]
          rfl
        rw [run_cons_of_ok begun]
        refine Eq.trans ?_ (run_bytes n echo buf k)
        cases run serve ⟨k, some (n, echo)⟩ (buf.map .byte) <;> rfl

theorem framed_serve {event : Event} :
    Returns (serve s event) fun out => Framed s.consoles out.2.consoles := by
  cases event with
  | write number =>
      simp only [serve]
      split
      · rw [returns_ok]
        exact framed_refl
      · refine returns_of_bind enter_taken ?_
        rintro ⟨echo, k⟩ ⟨-, rfl⟩
        rw [returns_pure]
        exact ⟨fun _ => rfl, fun _ => id, id⟩
  | byte ch =>
      simp only [serve]
      split
      · rw [returns_ok]
        exact framed_refl
      · refine returns_of_bind writeByte_taken ?_
        intro k taken
        rw [returns_pure]
        exact ⟨taken.setup, taken.narrow, taken.bounded⟩
  | ioctl fd request arg =>
      refine returns_of_bind framed_ioctl ?_
      intro k framed
      rw [returns_pure]
      exact framed

theorem safe_serve {event : Event} (lands : EventLands s event) (safe : Safe s.consoles) :
    Returns (serve s event) fun out => Safe out.2.consoles := by
  cases event with
  | write number =>
      simp only [serve]
      split
      · rw [returns_ok]
        exact safe
      · refine returns_of_bind (safe_enter safe) ?_
        rintro ⟨echo, k⟩ safe₁
        rw [returns_pure]
        exact safe₁
  | byte ch =>
      simp only [serve]
      split
      · rw [returns_ok]
        exact safe
      · rename_i n echo writing
        refine returns_of_bind (safe_writeByte (lands n echo writing) safe) ?_
        intro k safe₁
        rw [returns_pure]
        exact safe₁
  | ioctl fd request arg =>
      refine returns_of_bind (safe_ioctl lands safe) ?_
      intro k safe₁
      rw [returns_pure]
      exact safe₁

/-- After every byte and every request, the margins are unchanged and the index of the
    parameters is in its bound; and the cursors are on their screens, where no event
    moved one off its screen. -/
theorem cursors_on_screen (events : List Event) (outs : List Unit) (begun : Safe s.consoles)
    (few : s.consoles.npar < NPAR) (ran : run serve s events = .ok (outs, s')) :
    (∀ m, (s.consoles.ttys m).initialized → (s'.consoles.ttys m).initialized ∧
      (s'.consoles.ttys m).margins = (s.consoles.ttys m).margins) ∧
    s'.consoles.npar < NPAR ∧
    (Guarded serve EventLands s events →
      ∀ m, (s'.consoles.ttys m).initialized → (s'.consoles.ttys m).OnScreen) := by
  -- Whatever the events, no console is set up again.
  have frame : Framed s.consoles s'.consoles := by
    have keep : ∀ t event out u, Framed s.consoles t.consoles → True →
        serve t event = .ok (out, u) → Framed s.consoles u.consoles := by
      intro t event out u framed _ served
      have later := framed_serve _ served
      exact ⟨fun m => (later.setup m).trans (framed.setup m),
        fun m => later.narrow m ∘ framed.narrow m, later.bounded ∘ framed.bounded⟩
    exact run_keeps keep framed_refl (guarded_of_always (fun _ _ => trivial) s events) ran
  refine ⟨?_, frame.bounded few, ?_⟩
  · intro m initialized
    rcases begun m initialized with ⟨on_screen, sized⟩
    have narrow := sized_narrow on_screen sized
    exact ⟨(congrArg (fun setup => setup.1.1) (frame.setup m)).trans initialized,
      margins_same (frame.setup m) narrow (frame.narrow m narrow)⟩
  · intro guarded m initialized
    have safe : Safe s'.consoles := by
      have keep : ∀ t event out u, Safe t.consoles → EventLands t event →
          serve t event = .ok (out, u) → Safe u.consoles := by
        intro t event out u safe lands served
        exact safe_serve lands safe (out, u) served
      exact run_keeps keep begun guarded ran
    exact (safe m initialized).1

end Serving

/-- `"\x1b[1;81H"` on a screen of 80 columns: the cursor is moved to a column that the
    screen does not have. -/
theorem column_off_screen :
    ((consoleWrite fresh 0 [27, 91, 49, 59, 56, 49, 72]).toOption.map fun out =>
      ((out.2.ttys 0).cursorX, (out.2.ttys 0).cursorRight)) = some (80, 80) := by
  decide +kernel

theorem fresh_safe : Safe fresh := by
  intro m _
  refine ⟨⟨?_, ?_, ?_, ?_⟩, ?_, ?_⟩
  · exact (by decide : (0 : UInt64) ≤ 0)
  · exact (by decide : (0 : UInt64) < 80)
  · exact (by decide : (0 : UInt64) ≤ 0)
  · exact (by decide : (0 : UInt64) < 25)
  · exact (by decide : (80 : UInt64).toNat < 2 ^ 31)
  · exact (by decide : (25 : UInt64).toNat < 2 ^ 31)

/-- `"\x1b[C"`: one column to the right. -/
theorem right_on_screen :
    ∃ outs s', run serve ⟨fresh, none⟩ [.write 0, .byte 27, .byte 91, .byte 67] = .ok (outs, s') ∧
      ∀ m, (s'.consoles.ttys m).initialized → (s'.consoles.ttys m).OnScreen := by
  have guarded : Guarded serve EventLands ⟨fresh, none⟩
      [.write 0, .byte 27, .byte 91, .byte 67] := by
    refine guarded_cons_of_ok (o := ()) (t := ⟨fresh, some (0, true)⟩) trivial rfl ?_
    refine guarded_cons_of_ok (o := ())
      (t := ⟨{ fresh with stage := .escape }, some (0, true)⟩) ?_ rfl ?_
    · intro n echo _
      trivial
    refine guarded_cons_of_ok (o := ())
      (t := ⟨{ fresh with stage := .csi }, some (0, true)⟩) ?_ rfl ?_
    · intro n echo _
      trivial
    refine ⟨?_, fun _ _ _ => trivial⟩
    intro n echo writing _
    refine ⟨?_, fun restore => absurd restore (by decide)⟩
    intro x y target _
    cases target
    refine ⟨?_, ?_, ?_, ?_⟩
    · exact (by decide : (0 : UInt64) ≤ 1)
    · exact (by decide : (1 : UInt64) < 80)
    · exact (by decide : (0 : UInt64) ≤ 0)
    · exact (by decide : (0 : UInt64) < 25)
  have ran : ∃ outs s',
      run serve ⟨fresh, none⟩ [.write 0, .byte 27, .byte 91, .byte 67] = .ok (outs, s') :=
    ⟨_, _, rfl⟩
  rcases ran with ⟨outs, s', ran⟩
  exact ⟨outs, s', ran, (cursors_on_screen _ outs fresh_safe npar_none ran).2.2 guarded⟩

end Gramado.Chardev.Console
