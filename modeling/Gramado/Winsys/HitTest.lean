/-
Which window the mouse pointer is on (wm.c), and the windows around that: where they
are, whether they are enabled, and the lists of children. The task bar comes first, then
the stacked windows from the last one on, each with the buttons of its title bar, the bar
and its children. The pointer is tested against the fields of the windows as they are.
The pointers to the top window and to the fullscreen window, which nothing here reads, are
left out.
-/
import Gramado.Winsys.WindowCreation

namespace Gramado.Winsys.HitTest

open Gramado.Ke
open Gramado.Lib.Pointers
open Gramado.Winsys.Windows
open Function

/-- The rest of `struct gws_window_d`, as far as the pointer is concerned. -/
structure Pane where
  left : UInt64
  top : UInt64
  width : UInt64
  height : UInt64
  enabled : Bool
  isMouseHover : Bool
  xMouseRelative : UInt64
  yMouseRelative : UInt64
  isTaskBar : Bool
  childHead : Option Nat

structure Rectangle where
  left : UInt64
  top : UInt64
  width : UInt64
  height : UInt64

def Pane.place (pane : Pane) (rect : Rectangle) : Pane :=
  { pane with left := rect.left, top := rect.top, width := rect.width, height := rect.height }

def Pane.new (rect : Rectangle) : Pane where
  left := rect.left
  top := rect.top
  width := rect.width
  height := rect.height
  enabled := true
  isMouseHover := false
  xMouseRelative := 0
  yMouseRelative := 0
  isTaskBar := false
  childHead := none

/-- The server with all that the pointer meets. -/
structure Screen where
  server : Server
  pane : Nat → Pane
  initialized : Bool
  isFullscreen : Bool

def Screen.taskbarWindow (s : Screen) : Option Nat :=
  s.server.manager.taskbarWindow

def Screen.setPane (s : Screen) (w : Nat) (change : Pane → Pane) : Screen :=
  { s with pane := update s.pane w (change (s.pane w)) }

def Screen.hover (s : Screen) (window : Option Nat) : Screen :=
  { s with server := s.server.manage fun manager => { manager with mouseHover := window } }

/-- `magic` is what is read of a window that may have been destroyed. -/
def Screen.valid (s : Screen) (w : Nat) : Bool :=
  (s.server.window w).magic = 1234

section Pointer

def onMouseHover (s : Screen) (window : Option Nat) : Screen :=
  match window with
  | none => s
  | some w =>
      if ¬s.valid w then
        s
      else if ¬(s.pane w).enabled then
        s
      else
        s.setPane w fun pane => { pane with isMouseHover := true }

/-- A window that is not enabled is not left. -/
def onMouseLeave (s : Screen) (window : Option Nat) : Screen :=
  match window with
  | none => s
  | some w =>
      if ¬s.valid w then
        s
      else if ¬(s.pane w).enabled then
        s
      else
        s.setPane w fun pane => { pane with
          isMouseHover := false
          xMouseRelative := 0
          yMouseRelative := 0 }

def Pane.inside (pane : Pane) (long1 long2 : UInt64) : Bool :=
  long1 ≥ pane.left && long1 ≤ pane.left + pane.width &&
    (long2 ≥ pane.top && long2 ≤ pane.top + pane.height)

def Screen.taskbarUnder (s : Screen) (long1 long2 : UInt64) : Option Nat :=
  s.taskbarWindow.filter fun t => s.valid t && (s.pane t).inside long1 long2

/-- The first child that the pointer is on, or else the window itself. -/
def Screen.childUnder (s : Screen) (w : Nat) (long1 long2 : UInt64) : Except Stop Nat :=
  if ¬s.valid w then
    .error (.fault "child_head of a destroyed window")
  else
    match firstNode s.server.next (fun c => s.valid c && (s.pane c).inside long1 long2)
        s.server.made (s.pane w).childHead with
    | none => .error (.fault "child_head: the list does not end")
    | some child => .ok (child.getD w)

/-- The last window of the list that is wider and higher than the pointer's position says. -/
def Screen.overlappedUnder (s : Screen) (long1 long2 : UInt64) (list : List Nat) : Option Nat :=
  list.foldl (fun hover w =>
    if s.valid w ∧ (s.server.window w).type = .overlapped then
      if long1 ≤ (s.pane w).width ∧ long2 ≤ (s.pane w).height then some w else hover
    else
      hover) none

/-- `magic` of the button is read without a look at NULL. -/
def Screen.controlUnder (s : Screen) (long1 long2 : UInt64) (wid : Int32) (hover : Option Nat) :
    Except Stop (Option Nat) :=
  match getWindowFromWid s.server wid with
  | none => .error (.fault "wm_hit_test_2: no such control")
  | some w =>
      .ok (if s.valid w && (s.pane w).inside long1 long2 then some w else hover)

/-- The last button of the three that the pointer is on, or else the bar itself. -/
def Screen.titlebarUnder (s : Screen) (tb : Nat) (long1 long2 : UInt64) :
    Except Stop (Option Nat) := do
  let controls := (s.server.window tb).controls
  let hover ← s.controlUnder long1 long2 controls.minimizeWid none
  let hover ← s.controlUnder long1 long2 controls.maximizeWid hover
  let hover ← s.controlUnder long1 long2 controls.closeWid hover
  .ok (hover.or (if (s.pane tb).inside long1 long2 then some tb else none))

/-- The window that `wm_hit_test_2` comes to, before anything is changed. -/
def Screen.under (s : Screen) (long1 long2 : UInt64) : Except Stop (Option Nat) :=
  match s.taskbarUnder long1 long2 with
  | some t => (s.childUnder t long1 long2).map some
  | none => do
      let list ← s.server.stack
      match s.overlappedUnder long1 long2 list with
      | none => .ok none
      | some w =>
          match (s.server.window w).titlebar.filter s.valid with
          | none => (s.childUnder w long1 long2).map some
          | some tb => do
              match ← s.titlebarUnder tb long1 long2 with
              | some part => .ok (some part)
              | none => (s.childUnder w long1 long2).map some

/-- The last steps where a window was found. -/
def Screen.enter (s : Screen) (w : Nat) (long1 long2 : UInt64) :
    Except Stop (Option Nat × Screen) :=
  if ¬s.valid w then
    .error (.fault "wm_hit_test_2: a destroyed window")
  else
    let s :=
      if s.server.manager.mouseHover ≠ some w then
        onMouseHover ((onMouseLeave s s.server.manager.mouseHover).hover (some w)) (some w)
      else
        s
    .ok (some w, s.setPane w fun pane => { pane with
      xMouseRelative := long1
      yMouseRelative := long2 })

/-- Where nothing is found, it is the root window; that is not told of it. -/
def wmHitTest2 (s : Screen) (long1 long2 : UInt64) : Except Stop (Option Nat × Screen) :=
  if ¬s.initialized then
    .ok (none, s)
  else do
    match ← s.under long1 long2 with
    | some w => s.enter w long1 long2
    | none =>
        let root := s.server.manager.rootWindow
        .ok (root, (onMouseLeave s s.server.manager.mouseHover).hover root)

end Pointer

section Others

def disableWindow (s : Screen) (window : Option Nat) : Screen :=
  match window with
  | none => s
  | some w => if ¬s.valid w then s else s.setPane w fun pane => { pane with enabled := false }

def enableWindow (s : Screen) (window : Option Nat) : Screen :=
  match window with
  | none => s
  | some w => if ¬s.valid w then s else s.setPane w fun pane => { pane with enabled := true }

/-- The owner of the keyboard does not get the input any more if it is in the window. -/
def minimizeWindow (s : Screen) (window : Option Nat) : Except Stop Screen :=
  match window with
  | none => .ok s
  | some w =>
      if ¬s.valid w then
        .ok s
      else if (s.server.window w).type ≠ .overlapped then
        .ok s
      else do
        let s := s.setPane w fun pane => { pane with enabled := false }
        let s := { s with
          server := s.server.set w fun window => { window with state := WINDOW_STATE_MINIMIZED } }
        let s :=
          match s.server.manager.keyboardOwner with
          | none => s
          | some wwf =>
              if s.valid wwf ∧ (s.server.window wwf).parent = some w then
                s.setPane wwf fun pane => { pane with enabled := false }
              else
                s
        let server ← wmUpdateDesktop2 s.server
        .ok { s with server, isFullscreen := false }

/-- The window with the focus is enabled. -/
def focus (s : Screen) (window : Option Nat) : Except Stop Screen := do
  let server ← setFocus s.server window
  let s := { s with server }
  match window with
  | none => .ok s
  | some w =>
      if ¬s.server.Live w then
        .ok s
      else
        match (s.server.window w).type with
        | .simple | .editboxSingleLine | .editboxMultipleLines | .button =>
            .ok (s.setPane w fun pane => { pane with enabled := true })
        | _ => .ok s

/-- In full screen mode the window is resized and moved, with its title bar and the buttons,
    and becomes the last one. -/
def updateWindow (s : Screen) (w : Nat) (rect : Nat → Rectangle) : Screen :=
  if ¬s.valid w then
    s
  else if (s.server.window w).type ≠ .overlapped then
    s
  else if ¬s.initialized then
    s
  else
    let s :=
      if s.isFullscreen then
        { s with
          server := s.server.manage fun manager => { manager with
            keyboardOwner := some w
            mouseOwner := some w
            lastWindow := some w }
          pane := fun v => (s.pane v).place (rect v) }
      else
        s
    { s with server := setActiveWindow s.server (some w) }

def wmUpdateWindowById (s : Screen) (wid : Int32) (rect : Nat → Rectangle) : Screen :=
  match s.server.entry wid with
  | none => s
  | some w =>
      if ¬s.server.Live w then
        s
      else if (s.server.window w).type ≠ .overlapped then
        s
      else
        updateWindow s w rect

/-- The flags of the active window are set without a look at NULL. -/
def wmEnterFullscreenMode (s : Screen) (rect : Nat → Rectangle) : Except Stop Screen :=
  if ¬s.initialized then
    .ok s
  else
    match s.server.manager.activeWindow with
    | none => .ok s
    | some w =>
        if ¬s.valid w then
          .ok s
        else
          let s := updateWindow { s with isFullscreen := true } w rect
          if ¬(s.server.window w).flagged then
            .error (.fault "wm_enter_fullscreen_mode: shflags_p")
          else
            .ok { s with
              server := s.server.manage fun manager => { manager with
                keyboardOwner := some w
                mouseOwner := some w
                mouseHover := none } }

def wmExitFullscreenMode (s : Screen) (tile : Bool) : Except Stop Screen :=
  if ¬s.initialized then
    .ok s
  else do
    let server ← wmUpdateDesktop (s.server.manage fun manager => { manager with
      keyboardOwner := none
      mouseOwner := none
      mouseHover := none }) tile
    .ok { s with server, isFullscreen := false }

/-- Overlapped windows and the task bar have children. -/
def wmAddChildWindow (s : Screen) (parent window : Nat) : Except Stop Screen :=
  if ¬s.server.Live parent then
    .ok s
  else if ¬((s.server.window parent).type = .overlapped ∨ (s.pane parent).isTaskBar) then
    .ok s
  else if ¬s.server.Live window then
    .ok s
  else
    let ended := fun (server : Server) =>
      server.set window fun window => { window with next := none }
    match (s.pane parent).childHead with
    | none =>
        let s := s.setPane parent fun pane => { pane with childHead := some window }
        .ok { s with server := ended s.server }
    | some _ =>
        match nodes s.server.next s.server.made (s.pane parent).childHead with
        | none => .error (.fault "child_head: the list does not end")
        | some list =>
            match list.getLast? with
            | none => .ok s
            | some end_ =>
                .ok { s with
                  server := ended (s.server.set end_ fun tmp => { tmp with next := some window }) }

/-- A title bar or a status bar with an id, in the frame of the window. -/
def framePart (s : Server) (w v : Nat) : Bool :=
  (s.window v).type = .simple ∧ (s.window v).parent = some w ∧ (s.window v).id ≥ 0

/-- The frame of a window that was just made. The source links each part when it has been
    registered; what it does in between has to do with other links. -/
def addFrame (s : Screen) (w : Nat) (parts : List Nat) : Except Stop Screen :=
  match (s.server.window w).parent with
  | none => .ok s
  | some parent =>
      parts.foldlM (fun s v =>
        if (s.server.window w).type = .overlapped ∧ framePart s.server w v then
          wmAddChildWindow s parent v
        else
          .ok s) s

/-- The windows that are made get their places; a popup may be the task bar, and a window may
    start in full screen mode. -/
def create (s : Screen) (type : WindowType) (style : UInt64) (state pwid : Int32)
    (rect : Nat → Rectangle) : Except Stop Screen := do
  let (_, server) ← serviceCreateWindow s.server type style state pwid
  let w := s.server.made
  let s := { s with
    server
    pane := fun v => if v < w then s.pane v else Pane.new (rect v)
    isFullscreen :=
      if s.initialized ∧ state = WINDOW_STATE_FULL ∧ server.Live w then true else s.isFullscreen }
  let s :=
    if type = .popup ∧ style &&& WS_TASKBAR ≠ 0 ∧ s.server.Live w then
      s.setPane w fun pane => { pane with isTaskBar := true }
    else
      s
  addFrame s w (List.range' w (s.server.made - w))

end Others

section Requests

/-- `maximize_window` and `dock_window` enable, minimize and arrange windows. -/
inductive Request where
  | serviceCreateWindow (type : WindowType) (style : UInt64) (state pwid : Int32)
      (rect : Nat → Rectangle)
  | destroyWindowByWid (wid : Int32)
  | wmUpdateDesktop (tile : Bool)
  | wmUpdateDesktop3 (window : Option Nat)
  | setLastWindow (window : Option Nat)
  | setActiveWindow (window : Option Nat)
  | setWindowWithFocus (window : Option Nat)
  | getWindowWithFocus
  | setFocus (window : Option Nat)
  | setMouseover (window : Option Nat)
  | enableWindow (window : Option Nat)
  | disableWindow (window : Option Nat)
  | minimizeWindow (window : Option Nat)
  | wmUpdateWindowById (wid : Int32) (rect : Nat → Rectangle)
  | wmEnterFullscreenMode (rect : Nat → Rectangle)
  | wmExitFullscreenMode (tile : Bool)
  | arrange (rect : Nat → Rectangle)
  | wmHitTest2 (long1 long2 : UInt64)

def Screen.serves (s : Screen) (result : Except Stop Server) : Except Stop (Option Nat × Screen) :=
  result.map fun server => (none, { s with server })

/-- Full screen mode ends where the desktop is drawn again. -/
def Screen.redraws (s : Screen) (drawn : Bool) (result : Except Stop Server) :
    Except Stop (Option Nat × Screen) :=
  result.map fun server => (none, { s with
    server
    isFullscreen := if drawn then false else s.isFullscreen })

/-- An overlapped window is asked to be destroyed, and not refused. -/
def Screen.unstacks (s : Screen) (wid : Int32) : Bool :=
  (getWindowFromWid s.server wid).any fun w =>
    s.server.manager.rootWindow ≠ some w ∧ (s.server.window w).type = .overlapped

def serve (s : Screen) : Request → Except Stop (Option Nat × Screen)
  | .serviceCreateWindow type style state pwid rect =>
      (create s type style state pwid rect).map fun s => (none, s)
  | .destroyWindowByWid wid =>
      s.redraws (s.unstacks wid) ((destroyWindowByWid s.server wid).map Prod.snd)
  | .wmUpdateDesktop tile => s.redraws true (wmUpdateDesktop s.server tile)
  | .wmUpdateDesktop3 window => s.redraws window.isSome (wmUpdateDesktop3 s.server window)
  | .setLastWindow window => s.serves (setLastWindow s.server window)
  | .setActiveWindow window => s.serves (.ok (setActiveWindow s.server window))
  | .setWindowWithFocus window => s.serves (.ok (setWindowWithFocus s.server window))
  | .getWindowWithFocus => s.serves (.ok (getWindowWithFocus s.server).2)
  | .setFocus window => (focus s window).map fun s => (none, s)
  | .setMouseover window => s.serves (.ok (setMouseover s.server window))
  | .enableWindow window => .ok (none, enableWindow s window)
  | .disableWindow window => .ok (none, disableWindow s window)
  | .minimizeWindow window => (minimizeWindow s window).map fun s => (none, s)
  | .wmUpdateWindowById wid rect => .ok (none, wmUpdateWindowById s wid rect)
  | .wmEnterFullscreenMode rect => (wmEnterFullscreenMode s rect).map fun s => (none, s)
  | .wmExitFullscreenMode tile => (wmExitFullscreenMode s tile).map fun s => (none, s)
  | .arrange rect => .ok (none, { s with pane := fun v => (s.pane v).place (rect v) })
  | .wmHitTest2 long1 long2 => wmHitTest2 s long1 long2

/-- The server has started, and serves. -/
def startGui (room : Memory) (tiles isCompositionDisabled : Bool) (rect : Nat → Rectangle) :
    Except Stop Screen :=
  (initializeGui room tiles isCompositionDisabled).map fun server =>
    ⟨server, fun v => Pane.new (rect v), true, false⟩

end Requests

section Answers

variable (s : Screen) (long1 long2 : UInt64)

/-- The pointer is in the rectangle of the window. -/
def Screen.Within (w : Nat) : Prop :=
  (s.pane w).left.toNat ≤ long1.toNat ∧
    long1.toNat ≤ (s.pane w).left.toNat + (s.pane w).width.toNat ∧
    (s.pane w).top.toNat ≤ long2.toNat ∧
    long2.toNat ≤ (s.pane w).top.toNat + (s.pane w).height.toNat

/-- For an overlapped window the position is relative to the window. -/
def Screen.Covers (w : Nat) : Prop :=
  s.server.Overlapped w ∧ long1 ≤ (s.pane w).width ∧ long2 ≤ (s.pane w).height

/-- The last window of the stacking list that the pointer is on. -/
def Screen.Topmost (w : Nat) : Prop :=
  ∃ below above, Listed s.server (below ++ w :: above) ∧ s.Covers long1 long2 w ∧
    ∀ v ∈ above, ¬s.Covers long1 long2 v

def Screen.Child (w v : Nat) : Prop :=
  ∃ list, Linked s.server.next (s.pane w).childHead list ∧ v ∈ list

/-- The ids of the buttons in a title bar. -/
def Screen.wids (tb : Nat) : List Int32 :=
  let controls := (s.server.window tb).controls
  [controls.minimizeWid, controls.maximizeWid, controls.closeWid]

/-- A child, the title bar or a button in it. -/
def Screen.PartOf (w v : Nat) : Prop :=
  s.Child w v ∨ ∃ tb, (s.server.window w).titlebar = some tb ∧
    (v = tb ∨ ∃ wid ∈ s.wids tb, getWindowFromWid s.server wid = some v)

/-- The root window where there is nothing else, or a window in use that has the pointer in
    its rectangle: the topmost one of the overlapped windows there, or a part of that. -/
def Right (window : Option Nat) : Prop :=
  (window = s.server.manager.rootWindow ∧ window ≠ none ∧ ∀ w, ¬s.Topmost long1 long2 w) ∨
    ∃ w, window = some w ∧ s.server.Live w ∧ ∃ above, s.Topmost long1 long2 above ∧
      (w = above ∨ (s.Within long1 long2 w ∧ s.PartOf above w))

/-- The task bar is in use, and the pointer is on it. -/
def OnTaskbar (t : Nat) : Prop :=
  s.taskbarWindow = some t ∧ s.server.Live t ∧ (s.pane t).inside long1 long2

/-- On the task bar it is the bar, or a child of it; elsewhere it is as it has to be. -/
def Answered (window : Option Nat) : Prop :=
  (∃ t w, OnTaskbar s long1 long2 t ∧ window = some w ∧ s.server.Live w ∧
    s.Within long1 long2 w ∧ (w = t ∨ s.Child t w)) ∨
  ((∀ t, ¬OnTaskbar s long1 long2 t) ∧ Right s long1 long2 window)

/-- The buttons are there in each title bar that is looked at. -/
def Controlled : Prop :=
  (∀ t, ¬OnTaskbar s long1 long2 t) → ∀ w tb, s.Topmost long1 long2 w →
    (s.server.window w).titlebar = some tb → s.server.Live tb →
      ∀ wid ∈ s.wids tb, getWindowFromWid s.server wid ≠ none

/-- No window in use is marked but the one that the pointer was found on last. -/
def Hovered : Prop :=
  ∀ v, s.server.Live v → (s.pane v).isMouseHover → s.server.manager.mouseHover = some v

/-- A window that is left is enabled. -/
def Leaves : Prop :=
  ∀ v, s.server.manager.mouseHover = some v → s.server.Live v → (s.pane v).isMouseHover →
    (s.pane v).enabled ∨ s.under long1 long2 = .ok (some v)

/-- What the pointer finds everywhere: lists that end. -/
structure Walkable : Prop where
  used : ∀ w, (s.server.window w).magic = 1234 → (s.server.window w).used = true
  stacked : ∃ list, Listed s.server list
  children : ∀ w, ∃ list, Linked s.server.next (s.pane w).childHead list ∧
    ∀ v ∈ list, v < s.server.made

end Answers

section Searching

variable {s : Screen} {long1 long2 : UInt64} {v w : Nat}

theorem valid_iff : s.valid w = true ↔ (s.server.window w).magic = 1234 := by
  unfold Screen.valid
  exact decide_eq_true_iff

theorem live_of_valid (walkable : Walkable s) (valid : s.valid w = true) : s.server.Live w :=
  ⟨walkable.used w (valid_iff.mp valid), valid_iff.mp valid⟩

theorem valid_of_live (live : s.server.Live w) : s.valid w = true :=
  valid_iff.mpr live.2

theorem le_add_toNat {a b c : UInt64} (le : c ≤ a + b) : c.toNat ≤ a.toNat + b.toNat := by
  have below := UInt64.le_iff_toNat_le.mp le
  rw [UInt64.toNat_add] at below
  exact below.trans (Nat.mod_le _ _)

theorem within_of_inside (inside : (s.pane w).inside long1 long2 = true) :
    s.Within long1 long2 w := by
  simp only [Pane.inside, ge_iff_le, Bool.and_eq_true, decide_eq_true_eq] at inside
  obtain ⟨⟨left, right⟩, top, bottom⟩ := inside
  exact ⟨UInt64.le_iff_toNat_le.mp left, le_add_toNat right, UInt64.le_iff_toNat_le.mp top,
    le_add_toNat bottom⟩

theorem childUnder_spec (walkable : Walkable s) (valid : s.valid w = true) :
    ∃ v, s.childUnder w long1 long2 = .ok v ∧ (v = w ∨
      (s.Child w v ∧ s.valid v = true ∧ s.Within long1 long2 v)) := by
  obtain ⟨list, linked, below⟩ := walkable.children w
  have first := @firstNode_of_linked _ _ _ _
    (fun c => s.valid c && (s.pane c).inside long1 long2) _ linked
    (linked_length_le linked below)
  unfold Screen.childUnder
  rw [if_neg (not_not.mpr valid), first]
  dsimp only
  cases found : list.find? fun c => s.valid c && (s.pane c).inside long1 long2 with
  | none => exact ⟨w, rfl, .inl rfl⟩
  | some v =>
      have tested := List.find?_some found
      rw [Bool.and_eq_true] at tested
      exact ⟨v, rfl, .inr ⟨⟨list, linked, List.mem_of_find?_eq_some found⟩, tested.1,
        within_of_inside tested.2⟩⟩

theorem covers_iff (walkable : Walkable s) : s.Covers long1 long2 w ↔
    (s.valid w = true ∧ (s.server.window w).type = .overlapped) ∧
      long1 ≤ (s.pane w).width ∧ long2 ≤ (s.pane w).height := by
  constructor
  · rintro ⟨⟨live, type⟩, inside⟩
    exact ⟨⟨valid_of_live live, type⟩, inside⟩
  · rintro ⟨⟨valid, type⟩, inside⟩
    exact ⟨⟨live_of_valid walkable valid, type⟩, inside⟩

theorem overlappedUnder_spec (walkable : Walkable s) (list : List Nat) :
    (s.overlappedUnder long1 long2 list = none ∧ ∀ v ∈ list, ¬s.Covers long1 long2 v) ∨
    ∃ w below above, s.overlappedUnder long1 long2 list = some w ∧ list = below ++ w :: above ∧
      s.Covers long1 long2 w ∧ ∀ v ∈ above, ¬s.Covers long1 long2 v := by
  -- The loop is taken apart from its last pass on.
  induction list using List.reverseRecOn with
  | nil => exact .inl ⟨rfl, fun _ member => absurd member List.not_mem_nil⟩
  | append_singleton front w ih =>
      unfold Screen.overlappedUnder at ih ⊢
      rw [List.foldl_append, List.foldl_cons, List.foldl_nil]
      by_cases covers : s.Covers long1 long2 w
      · obtain ⟨tested, inside⟩ := (covers_iff walkable).mp covers
        rw [if_pos tested, if_pos inside]
        exact .inr ⟨w, front, [], rfl, rfl, covers, fun _ member => absurd member List.not_mem_nil⟩
      · have skipped : ∀ hover : Option Nat,
            (if s.valid w ∧ (s.server.window w).type = .overlapped then
              if long1 ≤ (s.pane w).width ∧ long2 ≤ (s.pane w).height then some w else hover
            else hover) = hover := by
          intro hover
          split
          · rename_i tested
            rw [if_neg fun inside => covers ((covers_iff walkable).mpr ⟨tested, inside⟩)]
          · rfl
        have outside : ∀ {back : List Nat}, (∀ v ∈ back, ¬s.Covers long1 long2 v) →
            ∀ v ∈ back ++ [w], ¬s.Covers long1 long2 v := by
          intro back none v member
          rcases List.mem_append.mp member with old | last
          · exact none v old
          · rw [List.mem_singleton.mp last]
            exact covers
        rw [skipped]
        obtain ⟨none, all⟩ | ⟨u, below, above, found, split, here, later⟩ := ih
        · exact .inl ⟨none, outside all⟩
        · refine .inr ⟨u, below, above ++ [w], found, ?_, here, outside later⟩
          rw [split, List.append_assoc, List.cons_append]

/-- The controls that exist are looked at, and one of them may be the one. -/
theorem controlUnder_spec {wid : Int32} (there : getWindowFromWid s.server wid ≠ none)
    (hover : Option Nat) :
    ∃ found, s.controlUnder long1 long2 wid hover = .ok found ∧ (found = hover ∨
      ∃ v, found = some v ∧ getWindowFromWid s.server wid = some v ∧ s.valid v = true ∧
        s.Within long1 long2 v) := by
  unfold Screen.controlUnder
  cases named : getWindowFromWid s.server wid with
  | none => exact absurd named there
  | some v =>
      refine ⟨_, rfl, ?_⟩
      split
      · rename_i tested
        rw [Bool.and_eq_true] at tested
        exact .inr ⟨v, rfl, rfl, tested.1, within_of_inside tested.2⟩
      · exact .inl rfl

theorem titlebarUnder_spec {tb : Nat} (valid : s.valid tb = true)
    (there : ∀ wid ∈ s.wids tb, getWindowFromWid s.server wid ≠ none) :
    ∃ found, s.titlebarUnder tb long1 long2 = .ok found ∧ ∀ v, found = some v →
      s.valid v = true ∧ s.Within long1 long2 v ∧
        (v = tb ∨ ∃ wid ∈ s.wids tb, getWindowFromWid s.server wid = some v) := by
  have first : (s.server.window tb).controls.minimizeWid ∈ s.wids tb := by simp [Screen.wids]
  have second : (s.server.window tb).controls.maximizeWid ∈ s.wids tb := by simp [Screen.wids]
  have third : (s.server.window tb).controls.closeWid ∈ s.wids tb := by simp [Screen.wids]
  obtain ⟨min, minimize, isMin⟩ :=
    @controlUnder_spec s long1 long2 _ (there _ first) none
  obtain ⟨max, maximize, isMax⟩ := @controlUnder_spec s long1 long2 _ (there _ second) min
  obtain ⟨clo, close, isClo⟩ := @controlUnder_spec s long1 long2 _ (there _ third) max
  have control : ∀ v, clo = some v → s.valid v = true ∧ s.Within long1 long2 v ∧
      ∃ wid ∈ s.wids tb, getWindowFromWid s.server wid = some v := by
    rintro v rfl
    obtain same | ⟨u, found, named, valid, within⟩ := isClo
    · obtain same' | ⟨u, found, named, valid, within⟩ := isMax
      · obtain none | ⟨u, found, named, valid, within⟩ := isMin
        · rw [none] at same'
          rw [same'] at same
          cases same
        · obtain rfl := Option.some.inj ((same.trans same').trans found)
          exact ⟨valid, within, _, first, named⟩
      · obtain rfl := Option.some.inj (same.trans found)
        exact ⟨valid, within, _, second, named⟩
    · obtain rfl := Option.some.inj found
      exact ⟨valid, within, _, third, named⟩
  refine ⟨clo.or (if (s.pane tb).inside long1 long2 then some tb else none), ?_, ?_⟩
  · unfold Screen.titlebarUnder
    simp only [bind, Except.bind, minimize, maximize, close]
  · intro v found
    cases clo with
    | some u =>
        obtain ⟨valid, within, named⟩ := control v found
        exact ⟨valid, within, .inr named⟩
    | none =>
        rw [Option.none_or] at found
        split at found
        · rename_i inside
          obtain rfl := Option.some.inj found
          exact ⟨valid, within_of_inside inside, .inl rfl⟩
        · cases found

theorem taskbarUnder_iff (walkable : Walkable s) {t : Nat} :
    s.taskbarUnder long1 long2 = some t ↔ OnTaskbar s long1 long2 t := by
  unfold Screen.taskbarUnder OnTaskbar
  rw [Option.filter_eq_some_iff, Bool.and_eq_true]
  constructor
  · rintro ⟨bar, valid, inside⟩
    exact ⟨bar, live_of_valid walkable valid, inside⟩
  · rintro ⟨bar, live, inside⟩
    exact ⟨bar, valid_of_live live, inside⟩

theorem under_spec (walkable : Walkable s) (controlled : Controlled s long1 long2) :
    ∃ found, s.under long1 long2 = .ok found ∧
      ((∃ w, found = some w ∧ s.valid w = true ∧ Answered s long1 long2 (some w)) ∨
        (found = none ∧ (∀ t, ¬OnTaskbar s long1 long2 t) ∧ ∀ w, ¬s.Topmost long1 long2 w)) := by
  unfold Screen.under
  -- The task bar is asked first.
  cases bar : s.taskbarUnder long1 long2 with
  | some t =>
      have onTaskbar := (taskbarUnder_iff walkable).mp bar
      obtain ⟨v, found, part⟩ :=
        @childUnder_spec s long1 long2 t walkable (valid_of_live onTaskbar.2.1)
      dsimp only
      refine ⟨some v, by rw [found]; rfl, .inl ⟨v, rfl, ?_⟩⟩
      obtain rfl | ⟨child, valid, within⟩ := part
      · exact ⟨valid_of_live onTaskbar.2.1, .inl ⟨v, v, onTaskbar, rfl, onTaskbar.2.1,
          within_of_inside onTaskbar.2.2, .inl rfl⟩⟩
      · exact ⟨valid, .inl ⟨t, v, onTaskbar, rfl, live_of_valid walkable valid, within,
          .inr child⟩⟩
  | none =>
      have off : ∀ t, ¬OnTaskbar s long1 long2 t := by
        intro t onTaskbar
        rw [(taskbarUnder_iff walkable).mpr onTaskbar] at bar
        cases bar
      -- Then the overlapped windows, from the top of the stack.
      obtain ⟨list, listed⟩ := walkable.stacked
      simp only [bind, Except.bind, stack_listed listed]
      obtain ⟨none, all⟩ | ⟨w, below, above, found, split, covers, later⟩ :=
        @overlappedUnder_spec s long1 long2 walkable list
      · rw [none]
        refine ⟨_, rfl, .inr ⟨rfl, off, ?_⟩⟩
        rintro w ⟨below, above, listed', covers, -⟩
        rw [linked_unique listed.1 listed'.1] at all
        exact all w (by simp) covers
      · have topmost : s.Topmost long1 long2 w := ⟨below, above, split ▸ listed, covers, later⟩
        have child : ∃ found, (s.childUnder w long1 long2).map some = .ok found ∧
            ∃ v, found = some v ∧ s.valid v = true ∧ Answered s long1 long2 (some v) := by
          have valid := valid_of_live covers.1.1
          obtain ⟨v, found, part⟩ := @childUnder_spec s long1 long2 w walkable valid
          refine ⟨some v, by rw [found]; rfl, v, rfl, ?_⟩
          obtain rfl | ⟨child, valid, within⟩ := part
          · exact ⟨valid, .inr ⟨off, .inr ⟨v, rfl, covers.1.1, v, topmost, .inl rfl⟩⟩⟩
          · exact ⟨valid, .inr ⟨off, .inr ⟨v, rfl, live_of_valid walkable valid, w, topmost,
              .inr ⟨within, .inl child⟩⟩⟩⟩
        rw [found]
        dsimp only
        -- Of the topmost one the title bar comes before the children, if it has one.
        cases titled : (s.server.window w).titlebar.filter s.valid with
        | none =>
            obtain ⟨found, done, answer⟩ := child
            exact ⟨found, done, .inl answer⟩
        | some tb =>
            obtain ⟨titlebar, valid⟩ := Option.filter_eq_some_iff.mp titled
            obtain ⟨part, done, parts⟩ := @titlebarUnder_spec s long1 long2 tb valid
              (controlled off w tb topmost titlebar (live_of_valid walkable valid))
            dsimp only
            rw [done]
            dsimp only
            cases part with
            | none =>
                obtain ⟨found, done, answer⟩ := child
                exact ⟨found, done, .inl answer⟩
            | some v =>
                obtain ⟨valid, within, named⟩ := parts v rfl
                exact ⟨some v, rfl, .inl ⟨v, rfl, valid, .inr ⟨off, .inr ⟨v, rfl,
                  live_of_valid walkable valid, w, topmost,
                  .inr ⟨within, .inr ⟨tb, titlebar, named⟩⟩⟩⟩⟩⟩

end Searching

section Marking

variable {s : Screen} {long1 long2 : UInt64} {v w : Nat} {window : Option Nat}

theorem setPane_self {change : Pane → Pane} : (s.setPane w change).pane w = change (s.pane w) :=
  update_self ..

theorem setPane_of_ne {change : Pane → Pane} (other : v ≠ w) :
    (s.setPane w change).pane v = s.pane v :=
  update_of_ne other ..

@[simp] theorem setPane_server {change : Pane → Pane} : (s.setPane w change).server = s.server :=
  rfl

@[simp] theorem hover_pane : (s.hover window).pane = s.pane := rfl

@[simp] theorem hover_mouseHover : (s.hover window).server.manager.mouseHover = window := rfl

theorem leave_server : (onMouseLeave s window).server = s.server := by
  unfold onMouseLeave
  repeat' split
  all_goals rfl

theorem enter_server : (onMouseHover s window).server = s.server := by
  unfold onMouseHover
  repeat' split
  all_goals rfl

theorem leave_other (other : window ≠ some v) : (onMouseLeave s window).pane v = s.pane v := by
  unfold onMouseLeave
  split
  · rfl
  · rename_i w
    have apart : v ≠ w := fun same => other (congrArg some same.symm)
    repeat' split
    · rfl
    · rfl
    · exact setPane_of_ne apart

theorem leave_mark (valid : s.valid w = true) (enabled : (s.pane w).enabled = true) :
    ((onMouseLeave s (some w)).pane w).isMouseHover = false := by
  simp only [onMouseLeave, valid, enabled, not_true_eq_false, if_false, setPane_self]

theorem enter_other (other : window ≠ some v) : (onMouseHover s window).pane v = s.pane v := by
  unfold onMouseHover
  split
  · rfl
  · rename_i w
    have apart : v ≠ w := fun same => other (congrArg some same.symm)
    repeat' split
    · rfl
    · rfl
    · exact setPane_of_ne apart

/-- Once the pointer has left an enabled window, no window is marked. -/
theorem leave_unmarked (hovered : Hovered s)
    (leaves : ∀ h, s.server.manager.mouseHover = some h → s.server.Live h →
      (s.pane h).isMouseHover → (s.pane h).enabled) (live : s.server.Live v) :
    ((onMouseLeave s s.server.manager.mouseHover).pane v).isMouseHover = false := by
  by_cases here : s.server.manager.mouseHover = some v
  · rw [here]
    cases marked : (s.pane v).isMouseHover with
    | true => exact leave_mark (valid_of_live live) (leaves v here live marked)
    | false =>
        unfold onMouseLeave
        dsimp only
        repeat' split
        · exact marked
        · exact marked
        · rw [setPane_self]
  · rw [leave_other here]
    cases marked : (s.pane v).isMouseHover with
    | true => exact absurd (hovered v live marked) here
    | false => rfl

theorem hit_enters (initialized : s.initialized = true)
    (search : s.under long1 long2 = .ok (some w)) :
    wmHitTest2 s long1 long2 = s.enter w long1 long2 := by
  simp only [wmHitTest2, initialized, not_true_eq_false, if_false, search, bind, Except.bind]

theorem hit_root (initialized : s.initialized = true) (search : s.under long1 long2 = .ok none) :
    wmHitTest2 s long1 long2 = .ok (s.server.manager.rootWindow,
      (onMouseLeave s s.server.manager.mouseHover).hover s.server.manager.rootWindow) := by
  simp only [wmHitTest2, initialized, not_true_eq_false, if_false, search, bind, Except.bind]

/-- What is kept of the server, and which windows are marked afterwards. -/
theorem hit_spec (walkable : Walkable s) (initialized : s.initialized = true)
    (root : s.server.manager.rootWindow ≠ none) (controlled : Controlled s long1 long2) :
    ∃ window u, wmHitTest2 s long1 long2 = .ok (window, u) ∧ Answered s long1 long2 window ∧
      u.server = s.server.manage (fun manager => { manager with mouseHover := window }) ∧
      (Hovered s → Leaves s long1 long2 →
        ∀ v, u.server.Live v → (u.pane v).isMouseHover → window = some v) := by
  obtain ⟨found, search, answer⟩ := under_spec walkable controlled
  obtain ⟨w, rfl, valid, answered⟩ | ⟨rfl, off, none⟩ := answer
  · rw [hit_enters initialized search]
    by_cases same : s.server.manager.mouseHover = some w
    · -- The pointer is on the window that it was on already.
      refine ⟨some w, s.setPane w fun pane => { pane with
        xMouseRelative := long1
        yMouseRelative := long2 }, ?_, answered, ?_, ?_⟩
      · simp only [Screen.enter, valid, same, not_true_eq_false, if_false, ne_eq]
      · rw [setPane_server, Server.manage, ← same]
      · intro hovered _ v live marked
        rw [← same]
        refine hovered v live ?_
        by_cases here : v = w
        · subst here
          rw [setPane_self] at marked
          exact marked
        · rw [setPane_of_ne here] at marked
          exact marked
    · refine ⟨some w, (onMouseHover ((onMouseLeave s s.server.manager.mouseHover).hover (some w))
          (some w)).setPane w fun pane => { pane with
        xMouseRelative := long1
        yMouseRelative := long2 }, ?_, answered, ?_, ?_⟩
      · simp only [Screen.enter, valid, same, not_true_eq_false, if_false, ne_eq,
          not_false_eq_true, if_true]
      · rw [setPane_server, enter_server, Screen.hover]
        dsimp only
        rw [leave_server]
      · intro hovered leaves v live marked
        by_contra other
        have apart : v ≠ w := fun here => other (congrArg some here.symm)
        rw [setPane_of_ne apart, enter_other other, hover_pane, leave_unmarked hovered ?_ ?_]
          at marked
        · cases marked
        · intro h here alive flag
          obtain enabled | still := leaves h here alive flag
          · exact enabled
          · rw [search, Except.ok.injEq, Option.some.injEq] at still
            exact absurd (still ▸ here) same
        · rw [setPane_server, enter_server, Screen.hover] at live
          dsimp only at live
          rw [leave_server] at live
          exact live
  · refine ⟨_, _, hit_root initialized search, .inr ⟨off, .inl ⟨rfl, root, none⟩⟩, ?_, ?_⟩
    · rw [Screen.hover]
      dsimp only
      rw [leave_server]
    · intro hovered leaves v live marked
      rw [hover_pane, leave_unmarked hovered ?_ ?_] at marked
      · cases marked
      · intro h here alive flag
        obtain enabled | still := leaves h here alive flag
        · exact enabled
        · rw [search] at still
          cases still
      · rw [Screen.hover] at live
        dsimp only at live
        rw [leave_server] at live
        exact live

end Marking

end Gramado.Winsys.HitTest
