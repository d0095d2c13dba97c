/-
The windows of the display server (createw.c, wm.c): the objects, the table that gives
them their ids, the list in which the overlapped ones are stacked, and the pointers of
the window manager. What is drawn, and what is told to clients and kernel, is left out;
the canvases that are drawn on, and the flags that are shared with a client, are there as
far as they may be NULL where they are read.
-/
import Gramado.Ke
import Gramado.Lib.Pointers
import Mathlib.Data.Fin.Basic
import Mathlib.Data.List.FinRange

namespace Gramado.Winsys.Windows

open Gramado.Ke
open Gramado.Lib.Pointers
open Function

abbrev WINDOW_COUNT_MAX : Nat := 1024
def WS_APP : UInt64 := 0x10000
def WS_CHILD : UInt64 := 0x20000
def WS_STATUSBAR : UInt64 := 0x80000000
def WS_TASKBAR : UInt64 := 0x400000000
def WINDOW_STATE_FULL : Int32 := 1000
def WINDOW_STATE_MINIMIZED : Int32 := 1002

/-- `WT_SIMPLE` and the other types. -/
inductive WindowType where
  | simple
  | editboxSingleLine
  | overlapped
  | popup
  | checkbox
  | scrollbar
  | editboxMultipleLines
  | button
  | statusbar
  | icon
  | titlebar
  deriving DecidableEq, Repr

/-- The ids of the three buttons of a title bar. -/
structure Controls where
  minimizeWid : Int32
  maximizeWid : Int32
  closeWid : Int32
  deriving DecidableEq, Repr

/-- `struct gws_window_d`. Another window is referred to by its address. Of the canvases
    and the shared flags it is only kept whether there are any. -/
structure Window where
  used : Bool
  magic : Int32
  type : WindowType
  style : UInt64
  state : Int32
  id : Int32
  isMinimizeControl : Bool
  isMaximizeControl : Bool
  isCloseControl : Bool
  parent : Option Nat
  prev : Option Nat
  next : Option Nat
  titlebar : Option Nat
  controls : Controls
  frameCanvas : Bool
  shflags : Bool

/-- The object as `memset` leaves it. -/
def Window.blank : Window where
  used := false
  magic := 0
  type := .simple
  style := 0
  state := 0
  id := 0
  isMinimizeControl := false
  isMaximizeControl := false
  isCloseControl := false
  parent := none
  prev := none
  next := none
  titlebar := none
  controls := ⟨0, 0, 0⟩
  frameCanvas := false
  shflags := false

structure WindowManager where
  rootWindow : Option Nat
  firstWindow : Option Nat
  lastWindow : Option Nat
  activeWindow : Option Nat
  keyboardOwner : Option Nat
  mouseOwner : Option Nat
  mouseHover : Option Nat
  taskbarWindow : Option Nat

/-- Which of the windows asked for there is memory for: for the object, and for the flags
    and the two canvases of an application. -/
structure Memory where
  object : Nat → Bool
  canvases : Nat → Bool

/-- `tiles` says whether the window manager is set to tile the windows. -/
structure Server where
  window : Nat → Window
  made : Nat
  room : Memory
  windowList : Fin WINDOW_COUNT_MAX → Option Nat
  windowsCount : Nat
  manager : WindowManager
  tiles : Bool
  isCompositionDisabled : Bool

/-- The window at an address is in use. -/
def Server.Live (s : Server) (w : Nat) : Prop :=
  (s.window w).used = true ∧ (s.window w).magic = 1234

instance (s : Server) (w : Nat) : Decidable (s.Live w) :=
  inferInstanceAs (Decidable (_ ∧ _))

def Server.Overlapped (s : Server) (w : Nat) : Prop :=
  s.Live w ∧ (s.window w).type = .overlapped

instance (s : Server) (w : Nat) : Decidable (s.Overlapped w) :=
  inferInstanceAs (Decidable (_ ∧ _))

def Server.next (s : Server) (w : Nat) : Option Nat :=
  (s.window w).next

def Server.set (s : Server) (w : Nat) (change : Window → Window) : Server :=
  { s with window := update s.window w (change (s.window w)) }

def Server.manage (s : Server) (change : WindowManager → WindowManager) : Server :=
  { s with manager := change s.manager }

/-- `magic = 0` and `used = FALSE`. -/
def Server.kill (s : Server) (w : Nat) : Server :=
  s.set w fun window => { window with magic := 0, used := false }

/-- What a loop from `first_window` along the links visits. -/
def Server.stack (s : Server) : Except Stop (List Nat) :=
  match nodes s.next s.made s.manager.firstWindow with
  | some list => .ok list
  | none => .error (.fault "first_window: the list does not end")

/-- `windowList[wid]`. -/
def Server.entry (s : Server) (wid : Int32) : Option Nat :=
  if inside : wid.toNatClampNeg < WINDOW_COUNT_MAX then
    if wid < 0 then none else s.windowList ⟨wid.toNatClampNeg, inside⟩
  else
    none

def getWindowFromWid (s : Server) (wid : Int32) : Option Nat :=
  (s.entry wid).filter fun w => (s.window w).magic = 1234

section Activation

def setActiveWindow (s : Server) (window : Option Nat) : Server :=
  match window with
  | none => s
  | some w =>
      if (s.window w).magic ≠ 1234 then
        s
      else if (s.window w).type ≠ .overlapped then
        s
      else if s.manager.activeWindow = some w then
        s
      else
        s.manage fun manager => { manager with
          activeWindow := some w
          keyboardOwner := some w
          mouseOwner := some w }

def setWindowWithFocus (s : Server) (window : Option Nat) : Server :=
  match window with
  | none => s
  | some w =>
      if (s.window w).magic ≠ 1234 then
        s
      else
        s.manage fun manager => { manager with keyboardOwner := some w }

def getWindowWithFocus (s : Server) : Option Nat × Server :=
  match s.manager.keyboardOwner with
  | none => (none, s)
  | some w =>
      if s.Live w then
        (some w, s)
      else
        (none, s.manage fun manager => { manager with keyboardOwner := none })

/-- The owner of the keyboard and the parent are read without a look at NULL. -/
def setFocus (s : Server) (window : Option Nat) : Except Stop Server :=
  match window with
  | none => .ok s
  | some w =>
      if ¬s.Live w then
        .ok s
      else
        match s.manager.keyboardOwner, (s.window w).parent with
        | none, _ => .error (.fault "set_focus: old")
        | _, none => .error (.fault "set_focus: p")
        | some _, some p =>
            match (s.window w).type with
            | .simple | .editboxSingleLine | .editboxMultipleLines | .button =>
                let active := s.manager.activeWindow = some p ∧
                  (s.window p).type = .overlapped
                let s := if active then s else setActiveWindow s (some p)
                .ok (s.manage fun manager => { manager with
                  keyboardOwner := some w
                  mouseOwner := some w })
            | _ => .ok s

def setMouseover (s : Server) (window : Option Nat) : Server :=
  match window with
  | none => s
  | some w =>
      if s.Live w then
        s.manage fun manager => { manager with mouseHover := some w }
      else
        s

end Activation

section Stacking

/-- The window is linked behind the last one, wherever it was in the list. -/
def wmAddWindowToTop (s : Server) (window : Option Nat) : Except Stop Server :=
  let done := fun (s : Server) (w : Nat) =>
    let s := s.manage fun manager => { manager with lastWindow := some w }
    setActiveWindow (s.set w fun window => { window with next := none }) (some w)
  match window with
  | none => .ok s
  | some w =>
      if ¬s.Overlapped w then
        .ok s
      else
        match s.manager.firstWindow.filter fun f => s.Live f with
        | none => .ok (done (s.manage fun manager => { manager with firstWindow := some w }) w)
        | some _ => do
            let list ← s.stack
            match list.getLast? with
            | none => .ok s
            | some end_ =>
                let s := s.set end_ fun window => { window with next := some w }
                .ok (done (s.set w fun window => { window with prev := some end_ }) w)

def wmRebuildList (s : Server) : Except Stop Server :=
  (List.finRange WINDOW_COUNT_MAX).foldlM (fun s i =>
    match s.windowList i with
    | none => .ok s
    | some w =>
        if (s.window w).magic = 1234 ∧ (s.window w).type = .overlapped then
          wmAddWindowToTop s (some w)
        else
          .ok s) s

/-- The links stay; the window found is killed. -/
def wmRemoveWindowFromList (s : Server) (w : Nat) : Except Stop Server :=
  match reaches s.next s.made s.manager.firstWindow w with
  | none => .error (.fault "first_window: the list does not end")
  | some found => .ok (if found then s.kill w else s)

/-- The last window of the list becomes the master window. -/
def wmTile (s : Server) : Except Stop Server :=
  if s.tiles then do
    let list ← s.stack
    match list.getLast? with
    | none => .ok s
    | some w =>
        .ok (s.manage fun manager => { manager with
          activeWindow := some w
          keyboardOwner := some w
          lastWindow := some w
          mouseOwner := none
          mouseHover := none })
  else
    .ok s

/-- The flag of the window that says it was drawn can be set: it is an address unless the
    window is minimized. -/
def Window.flagged (window : Window) : Bool :=
  window.state = WINDOW_STATE_MINIMIZED || window.shflags

/-- The flags of all the windows that are drawn can be set. -/
def Server.drawable (s : Server) (list : List Nat) : Bool :=
  list.all fun w =>
    !((s.window w).magic = 1234 && (s.window w).type = .overlapped) || (s.window w).flagged

/-- `magic` of the first window is read without a look at NULL, and so are the flags. -/
def wmUpdateDesktop (s : Server) (tile : Bool) : Except Stop Server := do
  let s ← if tile then wmTile s else .ok s
  match s.manager.firstWindow with
  | none => .error (.fault "wm_update_desktop: first_window")
  | some f =>
      if (s.window f).magic ≠ 1234 then
        .ok (s.manage fun manager => { manager with firstWindow := none })
      else
        let list ← s.stack
        if ¬s.drawable list then
          .error (.fault "wm_update_desktop: shflags_p")
        else
          let overlapped := list.filter fun w => (s.window w).type = .overlapped
          let l := overlapped.getLast?.getD f
          .ok (setActiveWindow
            (s.manage fun manager => { manager with lastWindow := some l }) (some l))

/-- It draws the windows of the list and the task bar, and tells the active one, minimized
    or not. -/
def wmUpdateDesktop2 (s : Server) : Except Stop Server := do
  let list ← s.stack
  if ¬s.drawable list then
    .error (.fault "wm_update_desktop2: shflags_p")
  else if ¬s.manager.taskbarWindow.all fun t => (s.window t).flagged then
    .error (.fault "wm_update_desktop2: taskbar_window")
  else if ¬s.manager.activeWindow.all fun w =>
      (s.window w).magic ≠ 1234 || (s.window w).shflags then
    .error (.fault "wm_update_desktop2: active_window")
  else
    .ok s

/-- How `wm_update_desktop3` takes a window to the top: the first one is left out of the
    list, another one is removed and added, and the last one stays. -/
def takeToTop (s : Server) (w : Nat) : Except Stop Server :=
  let removed : Except Stop Server :=
    if s.manager.firstWindow ≠ some w then do
      let s ← wmRemoveWindowFromList s w
      wmAddWindowToTop s (some w)
    else
      .ok s
  let dropped : Server → Server := fun s =>
    if s.manager.firstWindow = some w then
      s.manage fun manager => { manager with firstWindow := s.next w }
    else
      s
  if s.manager.lastWindow = some w then .ok s else removed.map dropped

def wmUpdateDesktop3 (s : Server) (window : Option Nat) : Except Stop Server :=
  match window with
  | none => .ok s
  | some w => do
      let s ← takeToTop s w
      wmUpdateDesktop2 (setActiveWindow s (some w))

def setLastWindow (s : Server) (window : Option Nat) : Except Stop Server :=
  match window with
  | none => .ok s
  | some w =>
      if (s.window w).magic ≠ 1234 then
        .ok s
      else
        wmAddWindowToTop s (some w)

end Stacking

section Creation

/-- The counter counts the windows that were to be registered, whatever has become of
    them. The first free slot is taken. -/
def registerWindow (s : Server) (window : Option Nat) : Int32 × Server :=
  match window with
  | none => (-1, s)
  | some w =>
      let s := { s with windowsCount := s.windowsCount + 1 }
      if s.windowsCount ≥ WINDOW_COUNT_MAX then
        (-1, s)
      else
        match (List.finRange WINDOW_COUNT_MAX).find? fun i => (s.windowList i).isNone with
        | none => (-1, s)
        | some i =>
            let s := { s with windowList := update s.windowList i (some w) }
            (Int32.ofNat i, s.set w fun window => { window with id := Int32.ofNat i })

/-- A button has to be in the title bar of an application. -/
def Server.inApplication (s : Server) (parent : Option Nat) : Bool :=
  match parent with
  | none => false
  | some p =>
      match (s.window p).parent with
      | none => false
      | some app =>
          (s.window p).magic = 1234 ∧ (s.window app).magic = 1234 ∧
            (s.window app).type = .overlapped

/-- Whether a window of this style is given canvases and flags. -/
def Server.canvases (s : Server) (style : UInt64) : Bool :=
  !s.isCompositionDisabled && style &&& WS_APP ≠ 0

/-- The window of `doCreateAndDrawWindow`, where that comes to its end. -/
def drawWindow (s : Server) (type : WindowType) (style : UInt64) (state : Int32)
    (parent : Option Nat) : Option Nat × Server :=
  let w := s.made
  let made := { s with made := s.made + 1 }
  if ¬s.room.object w then
    (none, made)
  else if ¬s.isCompositionDisabled ∧ type = .button ∧ ¬s.inApplication parent then
    (none, made)
  else
    (some w, made.set w fun _ => { Window.blank with
      used := true
      magic := 1234
      type := type
      style := style
      state := state
      id := -1
      parent := parent
      prev := parent
      frameCanvas := s.canvases style
      shflags := s.canvases style })

/-- The frame's canvas of the application that a button is in. -/
def Server.appCanvas (s : Server) (parent : Option Nat) : Bool :=
  (parent.bind fun p => (s.window p).parent).any fun app => (s.window app).frameCanvas

/-- The canvases are made without a look at whether there is memory for them, and that of
    the application that a button is in is read without one. A popup may be the task bar. -/
def doCreateAndDrawWindow (s : Server) (type : WindowType) (style : UInt64) (state : Int32)
    (parent : Option Nat) : Except Stop (Option Nat × Server) :=
  if s.room.object s.made ∧ s.canvases style ∧ ¬s.room.canvases s.made then
    .error (.fault "doCreateAndDrawWindow: shflags_p, frame_canvas or ca_canvas")
  else
    match drawWindow s type style state parent with
    | (none, made) => .ok (none, made)
    | (some w, made) =>
        if ¬s.isCompositionDisabled ∧ type = .button ∧ ¬s.appCanvas parent then
          .error (.fault "doCreateAndDrawWindow: frame_canvas")
        else if type = .popup ∧ style &&& WS_TASKBAR ≠ 0 then
          .ok (some w, made.manage fun manager => { manager with taskbarWindow := some w })
        else
          .ok (some w, made)

/-- One of the three buttons, its mark, and where its id is kept. No part of a frame stops
    `doCreateAndDrawWindow` (see `part_drawn`): its style is 0, and the frame has read the
    canvas of the application already. -/
def doCreateControl (s : Server) (titlebar : Nat) (mark : Window → Window)
    (keep : Int32 → Controls → Controls) : Bool × Server :=
  match drawWindow s .button 0 1 (some titlebar) with
  | (none, s) => (false, s)
  | (some w, s) =>
      let s := s.set w mark
      let (id, s) := registerWindow s (some w)
      if id < 0 then
        (false, s)
      else
        (true, s.set titlebar fun window => { window with controls := keep id window.controls })

/-- The first one that fails is the last one made. -/
def doCreateControls (s : Server) (titlebar : Nat) : Server :=
  let s := s.set titlebar fun window => { window with controls := ⟨-1, -1, -1⟩ }
  let (ok, s) := doCreateControl s titlebar
    (fun window => { window with isMinimizeControl := true })
    (fun id controls => { controls with minimizeWid := id })
  if ¬ok then s else
  let (ok, s) := doCreateControl s titlebar
    (fun window => { window with isMaximizeControl := true })
    (fun id controls => { controls with maximizeWid := id })
  if ¬ok then s else
  let (_, s) := doCreateControl s titlebar
    (fun window => { window with isCloseControl := true })
    (fun id controls => { controls with closeWid := id })
  s

def doCreateTitlebar (s : Server) (parent : Nat) : Option Nat × Server :=
  match drawWindow s .titlebar 0 1 (some parent) with
  | (none, s) => (none, s)
  | (some tbWindow, s) =>
      let s := s.set tbWindow fun window => { window with type := .simple }
      let s := doCreateControls s tbWindow
      (some tbWindow, s.set parent fun window => { window with titlebar := some tbWindow })

def doCreateStatusbar (s : Server) (parent : Nat) : Server :=
  match drawWindow s .simple 0 1 (some parent) with
  | (none, s) => s
  | (some sbWindow, s) => (registerWindow s (some sbWindow)).2

/-- The windows in the frame of an overlapped window. -/
def frameWindows (s : Server) (w : Nat) : Server :=
  let (id, s) :=
    if (s.window w).state = WINDOW_STATE_FULL then
      (0, s)
    else
      let (tbWindow, s) := doCreateTitlebar s w
      registerWindow s tbWindow
  if id < 0 then
    s
  else if (s.window w).style &&& WS_STATUSBAR ≠ 0 then
    doCreateStatusbar s w
  else
    s

/-- The canvas of an overlapped window or a popup is read without a look at NULL. Only the
    frame of an overlapped window has windows in it. -/
def doCreateAndDrawWindowFrame (s : Server) (parent : Option Nat) (w : Nat) :
    Except Stop Server :=
  match parent.filter fun p => s.Live p with
  | none => .ok s
  | some _ =>
      if ((s.window w).type = .overlapped ∨ (s.window w).type = .popup) ∧
          ¬s.isCompositionDisabled ∧ ¬(s.window w).frameCanvas then
        .error (.fault "doCreateAndDrawWindowFrame: frame_canvas")
      else if (s.window w).type = .overlapped then
        .ok (frameWindows s w)
      else
        .ok s

/-- An overlapped window is made as a simple one, and stacked before it has its frame. -/
def createWindow (s : Server) (type : WindowType) (style : UInt64) (state : Int32)
    (parent : Option Nat) : Except Stop (Option Nat × Server) :=
  match type with
  | .titlebar | .statusbar | .checkbox | .scrollbar => .ok (none, s)
  | .simple => doCreateAndDrawWindow s type style state parent
  | .popup | .button => do
      let (window, s) ← doCreateAndDrawWindow s type style state parent
      match window with
      | none => .ok (none, s)
      | some w => do
          let s ← doCreateAndDrawWindowFrame s parent w
          .ok (some w, s)
  | .editboxSingleLine | .editboxMultipleLines | .icon => do
      let (window, s) ← doCreateAndDrawWindow s .simple style state parent
      match window with
      | none => .ok (none, s)
      | some w => do
          let s := s.set w fun window => { window with type := type }
          let s ← doCreateAndDrawWindowFrame s parent w
          .ok (some w, s)
  | .overlapped => do
      let (window, s) ← doCreateAndDrawWindow s .simple style state parent
      match window with
      | none => .ok (none, s)
      | some w => do
          let s ← wmAddWindowToTop (s.set w fun window => { window with type := type }) (some w)
          let s := setActiveWindow s (some w)
          let s ← doCreateAndDrawWindowFrame s parent w
          .ok (some w, s)

/-- An application window is a child of one of the first two windows. -/
def serviceCreateWindow (s : Server) (type : WindowType) (style : UInt64) (state : Int32)
    (pwid : Int32) : Except Stop (Int32 × Server) :=
  match getWindowFromWid s pwid with
  | none => .ok (-1, s)
  | some parent =>
      if style &&& WS_APP ≠ 0 ∧ pwid ≠ 0 ∧
          ¬(s.manager.rootWindow.any fun root => (s.window root).id = pwid) then
        .ok (-1, s)
      else if style &&& WS_CHILD ≠ 0 then
        .ok (-1, s)
      else do
        let (window, s) ← createWindow s type style state (some parent)
        let (wid, s) := registerWindow s window
        if wid < 0 then
          .ok (-1, s)
        else
          let s ←
            match window.filter fun w => (s.window w).type = .overlapped with
            | some w => wmAddWindowToTop s (some w)
            | none => .ok s
          .ok (0, s)

/-- One of the first two windows, without which the server exits. -/
def createRoot (s : Server) (parent : Option Nat) : Except Stop (Option Nat × Server) := do
  let (window, s) ← createWindow s .simple 0 1 parent
  let (wid, s) := registerWindow s window
  if wid < 0 then .error (.fault "exit") else .ok (window, s)

/-- No windows, and no pointers to any. -/
def windowInitialize (room : Memory) (tiles isCompositionDisabled : Bool) : Server where
  window := fun _ => Window.blank
  made := 0
  room := room
  windowList := fun _ => none
  windowsCount := 0
  manager := ⟨none, none, none, none, none, none, none, none⟩
  tiles := tiles
  isCompositionDisabled := isCompositionDisabled

/-- A window without a parent, and the root window in it. -/
def initializeGui (room : Memory) (tiles isCompositionDisabled : Bool) :
    Except Stop Server := do
  let (rw, s) ← createRoot (windowInitialize room tiles isCompositionDisabled) none
  let (root, s) ← createRoot s rw
  .ok (s.manage fun manager => { manager with
    rootWindow := root
    keyboardOwner := root
    mouseOwner := root })

end Creation

section Destruction

/-- No slot names the window any more. -/
def Server.unlist (s : Server) (w : Nat) : Server :=
  { s with windowList := fun i => if s.windowList i = some w then none else s.windowList i }

def Server.killWid (s : Server) (wid : Int32) : Server :=
  match getWindowFromWid s wid with
  | none => s
  | some w => s.kill w

/-- The title bar and its buttons keep their slots. -/
def Server.killTitlebar (s : Server) (w : Nat) : Server :=
  match (s.window w).titlebar.filter fun t => (s.window t).magic = 1234 with
  | none => s
  | some t =>
      let controls := (s.window t).controls
      (((s.kill t).killWid controls.minimizeWid).killWid controls.maximizeWid).killWid
        controls.closeWid

def Window.isControl (window : Window) : Bool :=
  window.isMinimizeControl || window.isMaximizeControl || window.isCloseControl

/-- The canvases of a window that is an application and nothing else are marked. -/
def destroyWindowByWid (s : Server) (wid : Int32) : Except Stop (Int32 × Server) :=
  match getWindowFromWid s wid with
  | none => .ok (-1, s)
  | some w =>
      if s.manager.rootWindow = some w then
        .ok (-1, s)
      else if ¬s.isCompositionDisabled ∧ (s.window w).style = WS_APP ∧
          ¬(s.window w).frameCanvas then
        .error (.fault "destroy_window_by_wid: frame_canvas")
      else if (s.window w).type ≠ .overlapped then
        if (s.window w).isControl then
          .ok (-1, s)
        else
          .ok (0, (s.unlist w).kill w)
      else do
        let s := s.killTitlebar w
        let s ← wmRebuildList ((s.unlist w).kill w)
        let s ← wmUpdateDesktop s true
        .ok (0, s)

end Destruction

end Gramado.Winsys.Windows
