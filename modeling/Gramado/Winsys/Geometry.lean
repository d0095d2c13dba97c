/-
The rectangles of an overlapped window (wm.c), of its title bar, of the controls in it and
of the windows in its client area, as moves and resizes leave them. A resize does not
recompute where the title bar and its controls end, and a move takes the controls along but
neither the ends of the title bar nor the windows in the client area.
-/
import Gramado.Lib.Machine
import Gramado.Winsys.Windows

namespace Gramado.Winsys.Geometry

open Gramado.Ke
open Gramado.Lib.Machine
open Gramado.Winsys.Windows

def METRICS_CLIENTAREA_LEFTPAD : UInt64 := 4
def METRICS_CLIENTAREA_TOPPAD : UInt64 := 4
def METRICS_CLIENTAREA_RIGHTPAD : UInt64 := 4
def METRICS_CLIENTAREA_BOTTOMPAD : UInt64 := 4
def METRICS_DEFAULT_MINIMUM_WINDOW_WIDTH : UInt64 := 4 + (32 * 3 + 2 + 1)
def METRICS_DEFAULT_MINIMUM_WINDOW_HEIGHT : UInt64 := 32 + 3 + 4 + 4

/-- `struct gws_rect_d`. -/
structure Rect where
  left : UInt64
  top : UInt64
  width : UInt64
  height : UInt64

/-- Where a window is in its parent and on the screen. -/
structure Place extends Rect where
  absoluteX : UInt64
  absoluteY : UInt64
  absoluteRight : UInt64
  absoluteBottom : UInt64

structure Control extends Place where
  leftOffset : UInt64

structure Titlebar extends Place where
  initialized : Bool
  minimize : Control
  maximize : Control
  close : Control

/-- What the position of a window takes from its parent. -/
structure Parent where
  type : WindowType
  absoluteX : UInt64
  absoluteY : UInt64
  rcClient : Rect

/-- An overlapped window. `parent` is none for NULL, and for one whose magic is not 1234. -/
structure Overlapped extends Place where
  borderSize : UInt64
  titlebarHeight : UInt64
  rcClient : Rect
  titlebar : Titlebar
  parent : Option Parent
  children : List Place

/-- `WindowManager`, with its working area. -/
structure Manager where
  initialized : Bool
  wa : Rect

def syncAbsoluteDimensions (place : Place) : Place :=
  { place with
    absoluteRight := place.absoluteX + place.width
    absoluteBottom := place.absoluteY + place.height }

/-- The size that a resize takes in one direction. -/
def limit (manager : Manager) (size minimum maximum : UInt64) : UInt64 :=
  let size := if size < minimum then minimum else size
  if manager.initialized ∧ size > maximum then maximum else size

def syncControl (titlebarWidth : UInt64) (control : Control) : Control :=
  { control with left := titlebarWidth - control.leftOffset }

def gwsResizeWindow (manager : Manager) (window : Overlapped) (cx cy : UInt64) : Overlapped :=
  let cx := limit manager cx METRICS_DEFAULT_MINIMUM_WINDOW_WIDTH manager.wa.width
  let cy := limit manager cy METRICS_DEFAULT_MINIMUM_WINDOW_HEIGHT manager.wa.height
  let width := cx - window.borderSize - window.borderSize
  { window with
    toPlace := syncAbsoluteDimensions { window.toPlace with width := cx, height := cy }
    titlebar :=
      { window.titlebar with
        width := width
        minimize := syncControl width window.titlebar.minimize
        maximize := syncControl width window.titlebar.maximize
        close := syncControl width window.titlebar.close }
    rcClient :=
      { window.rcClient with
        width := cx - window.borderSize * 2 -
          (METRICS_CLIENTAREA_LEFTPAD + METRICS_CLIENTAREA_RIGHTPAD)
        height := cy - window.borderSize * 2 -
          (METRICS_CLIENTAREA_TOPPAD + METRICS_CLIENTAREA_BOTTOMPAD) - window.titlebarHeight } }

def moveControl (titlebar : Titlebar) (control : Control) : Control :=
  { control with
    toPlace := syncAbsoluteDimensions
      { control.toPlace with
        absoluteX := titlebar.absoluteX + control.left
        absoluteY := titlebar.absoluteY + control.top } }

/-- Where the parent's client area has the position. -/
def placed (parent : Option Parent) (x y : UInt64) : UInt64 × UInt64 :=
  match parent with
  | none => (x, y)
  | some parent =>
      match parent.type with
      | .overlapped =>
          (parent.absoluteX + parent.rcClient.left + x, parent.absoluteY + parent.rcClient.top + y)
      | .simple => (parent.absoluteX + x, parent.absoluteY + y)
      | _ => (x, y)

def gwssrvChangeWindowPosition (window : Overlapped) (x y : UInt64) : Overlapped :=
  -- The title bar goes to the position in the parent, before the parent is asked.
  let titlebar :=
    { window.titlebar with
      absoluteX := x + window.borderSize
      absoluteY := y + window.borderSize }
  let titlebar :=
    if titlebar.initialized then
      { titlebar with
        minimize := moveControl titlebar titlebar.minimize
        maximize := moveControl titlebar titlebar.maximize
        close := moveControl titlebar titlebar.close }
    else
      titlebar
  let position := placed window.parent x y
  { window with
    toPlace := syncAbsoluteDimensions
      { window.toPlace with
        left := x
        top := y
        absoluteX := position.1
        absoluteY := position.2 }
    titlebar := titlebar }

inductive Request where
  | resize (cx cy : UInt64)
  | move (x y : UInt64)

def serve (manager : Manager) (window : Overlapped) : Request → Except Stop (Unit × Overlapped)
  | .resize cx cy => .ok ((), gwsResizeWindow manager window cx cy)
  | .move x y => .ok ((), gwssrvChangeWindowPosition window x y)

/-- The ends of the window are its size away from where it begins. -/
structure Ended (place : Place) : Prop where
  right : place.absoluteRight = place.absoluteX + place.width
  bottom : place.absoluteBottom = place.absoluteY + place.height

/-- The control is in the title bar, its offset away from the end. -/
structure Fixed (titlebar : Titlebar) (control : Control) : Prop where
  ended : Ended control.toPlace
  left : control.left = titlebar.width - control.leftOffset
  x : control.absoluteX = titlebar.absoluteX + control.left
  y : control.absoluteY = titlebar.absoluteY + control.top

/-- The window is at its position in the client area. -/
structure Inside (window : Overlapped) (child : Place) : Prop where
  ended : Ended child
  x : child.absoluteX = window.absoluteX + window.rcClient.left + child.left
  y : child.absoluteY = window.absoluteY + window.rcClient.top + child.top

structure Consistent (window : Overlapped) : Prop where
  ended : Ended window.toPlace
  titlebar_ended : Ended window.titlebar.toPlace
  titlebar_x : window.titlebar.absoluteX = window.absoluteX + window.borderSize
  titlebar_y : window.titlebar.absoluteY = window.absoluteY + window.borderSize
  titlebar_width : window.titlebar.width = window.width - 2 * window.borderSize
  minimize : Fixed window.titlebar window.titlebar.minimize
  maximize : Fixed window.titlebar window.titlebar.maximize
  close : Fixed window.titlebar window.titlebar.close
  client_width : window.rcClient.width = window.width - 2 * window.borderSize -
    (METRICS_CLIENTAREA_LEFTPAD + METRICS_CLIENTAREA_RIGHTPAD)
  client_height : window.rcClient.height = window.height - 2 * window.borderSize -
    (METRICS_CLIENTAREA_TOPPAD + METRICS_CLIENTAREA_BOTTOMPAD) - window.titlebarHeight
  children : ∀ child ∈ window.children, Inside window child

/-- The resize leaves the width, and the move the position, as it is. -/
def Still (manager : Manager) (window : Overlapped) : Request → Prop
  | .resize cx _ =>
      limit manager cx METRICS_DEFAULT_MINIMUM_WINDOW_WIDTH manager.wa.width = window.width
  | .move x y =>
      (x = window.absoluteX ∧ y = window.absoluteY) ∧ placed window.parent x y = (x, y)

section Steps

variable {manager : Manager} {window : Overlapped}

theorem ended_sync (place : Place) : Ended (syncAbsoluteDimensions place) :=
  ⟨rfl, rfl⟩

theorem Ended.sync {place : Place} (ended : Ended place) :
    syncAbsoluteDimensions place = place := by
  rw [syncAbsoluteDimensions, ← ended.right, ← ended.bottom]

theorem Fixed.sync {titlebar : Titlebar} {control : Control} (fixed : Fixed titlebar control) :
    syncControl titlebar.width control = control := by
  rw [syncControl, ← fixed.left]

theorem Fixed.move {titlebar : Titlebar} {control : Control} (fixed : Fixed titlebar control) :
    moveControl titlebar control = control := by
  rw [moveControl, ← fixed.x, ← fixed.y]
  exact congrArg (fun place : Place => { control with toPlace := place }) fixed.ended.sync

theorem sub_twice (a b : UInt64) : a - b - b = a - 2 * b := by
  grind

theorem titlebar_resize (consistent : Consistent window) {cx : UInt64} (cy : UInt64)
    (still : Still manager window (.resize cx cy)) :
    (gwsResizeWindow manager window cx cy).titlebar = window.titlebar := by
  have width : limit manager cx METRICS_DEFAULT_MINIMUM_WINDOW_WIDTH manager.wa.width =
      window.width := still
  simp only [gwsResizeWindow, width, sub_twice, ← consistent.titlebar_width,
    consistent.minimize.sync, consistent.maximize.sync, consistent.close.sync]

/-- A resize keeps the window consistent exactly if it leaves the width as it is. -/
theorem resize_iff (consistent : Consistent window) (cx cy : UInt64) :
    Consistent (gwsResizeWindow manager window cx cy) ↔ Still manager window (.resize cx cy) := by
  constructor
  · intro after
    -- The title bar ends where it did.
    have ends := consistent.titlebar_ended.right
    have later : window.titlebar.absoluteRight = window.titlebar.absoluteX + (_ - _ - _) :=
      after.titlebar_ended.right
    rw [ends, consistent.titlebar_width, sub_twice] at later
    simp only [Still]
    grind
  · intro still
    have width : limit manager cx METRICS_DEFAULT_MINIMUM_WINDOW_WIDTH manager.wa.width =
        window.width := still
    have titlebar := titlebar_resize consistent cy still
    have frame : (gwsResizeWindow manager window cx cy).absoluteX = window.absoluteX ∧
        (gwsResizeWindow manager window cx cy).absoluteY = window.absoluteY ∧
        (gwsResizeWindow manager window cx cy).width = window.width ∧
        (gwsResizeWindow manager window cx cy).rcClient.left = window.rcClient.left ∧
        (gwsResizeWindow manager window cx cy).rcClient.top = window.rcClient.top :=
      ⟨rfl, rfl, width, rfl, rfl⟩
    obtain ⟨x, y, same, left, top⟩ := frame
    exact {
      ended := ended_sync _
      titlebar_ended := titlebar ▸ consistent.titlebar_ended
      titlebar_x := by rw [titlebar, x]; exact consistent.titlebar_x
      titlebar_y := by rw [titlebar, y]; exact consistent.titlebar_y
      titlebar_width := by rw [titlebar, same]; exact consistent.titlebar_width
      minimize := titlebar ▸ consistent.minimize
      maximize := titlebar ▸ consistent.maximize
      close := titlebar ▸ consistent.close
      client_width := by
        simp only [gwsResizeWindow, syncAbsoluteDimensions]
        grind
      client_height := by
        simp only [gwsResizeWindow, syncAbsoluteDimensions]
        grind
      children := fun child member => by
        obtain ⟨ended, childX, childY⟩ := consistent.children child member
        exact ⟨ended, by rw [x, left, childX], by rw [y, top, childY]⟩ }

/-- Whether its controls go along or not, the title bar is moved without its ends. -/
theorem titlebar_move (window : Overlapped) (x y : UInt64) :
    (gwssrvChangeWindowPosition window x y).titlebar.toPlace =
      { window.titlebar.toPlace with
        absoluteX := x + window.borderSize
        absoluteY := y + window.borderSize } := by
  simp only [gwssrvChangeWindowPosition]
  split
  · rfl
  · rfl

theorem titlebar_still (consistent : Consistent window) :
    (gwssrvChangeWindowPosition window window.absoluteX window.absoluteY).titlebar =
      window.titlebar := by
  simp only [gwssrvChangeWindowPosition, ← consistent.titlebar_x, ← consistent.titlebar_y]
  split
  · have moved : ∀ control, Fixed window.titlebar control → moveControl
        { window.titlebar with
          absoluteX := window.titlebar.absoluteX
          absoluteY := window.titlebar.absoluteY } control = control :=
      fun control fixed => fixed.move
    simp only [moved _ consistent.minimize, moved _ consistent.maximize, moved _ consistent.close]
  · rfl

/-- A move keeps the window consistent exactly if it leaves it where it is. -/
theorem move_iff (consistent : Consistent window) (x y : UInt64) :
    Consistent (gwssrvChangeWindowPosition window x y) ↔ Still manager window (.move x y) := by
  constructor
  · intro after
    -- The title bar ends where it did, so that it begins there; and the window around it.
    have right := after.titlebar_ended.right
    have bottom := after.titlebar_ended.bottom
    have aroundX := after.titlebar_x
    have aroundY := after.titlebar_y
    simp only [titlebar_move] at right bottom aroundX aroundY
    rw [consistent.titlebar_ended.right, consistent.titlebar_x] at right
    rw [consistent.titlebar_ended.bottom, consistent.titlebar_y] at bottom
    have position : (placed window.parent x y).1 = x ∧ (placed window.parent x y).2 = y := by
      simp only [gwssrvChangeWindowPosition, syncAbsoluteDimensions] at aroundX aroundY
      grind
    have same : x = window.absoluteX ∧ y = window.absoluteY := by grind
    exact ⟨same, Prod.ext position.1 position.2⟩
  · rintro ⟨⟨rfl, rfl⟩, there⟩
    have titlebar := titlebar_still consistent
    have frame : (gwssrvChangeWindowPosition window window.absoluteX window.absoluteY).absoluteX =
          window.absoluteX ∧
        (gwssrvChangeWindowPosition window window.absoluteX window.absoluteY).absoluteY =
          window.absoluteY := by
      simp only [gwssrvChangeWindowPosition, there, syncAbsoluteDimensions, and_self]
    obtain ⟨x, y⟩ := frame
    exact {
      ended := ended_sync _
      titlebar_ended := titlebar ▸ consistent.titlebar_ended
      titlebar_x := by rw [titlebar, x]; exact consistent.titlebar_x
      titlebar_y := by rw [titlebar, y]; exact consistent.titlebar_y
      titlebar_width := by rw [titlebar]; exact consistent.titlebar_width
      minimize := titlebar ▸ consistent.minimize
      maximize := titlebar ▸ consistent.maximize
      close := titlebar ▸ consistent.close
      client_width := consistent.client_width
      client_height := consistent.client_height
      children := fun child member => by
        obtain ⟨ended, childX, childY⟩ := consistent.children child member
        exact ⟨ended, by rw [x]; exact childX, by rw [y]; exact childY⟩ }

end Steps

/-- What no request breaks: the ends of the window, the sizes of the title bar and of the
    client rectangle, and the offsets of the controls. -/
structure Sized (window : Overlapped) : Prop where
  ended : Ended window.toPlace
  titlebar_width : window.titlebar.width = window.width - 2 * window.borderSize
  minimize : window.titlebar.minimize.left =
    window.titlebar.width - window.titlebar.minimize.leftOffset
  maximize : window.titlebar.maximize.left =
    window.titlebar.width - window.titlebar.maximize.leftOffset
  close : window.titlebar.close.left = window.titlebar.width - window.titlebar.close.leftOffset
  client_width : window.rcClient.width = window.width - 2 * window.borderSize -
    (METRICS_CLIENTAREA_LEFTPAD + METRICS_CLIENTAREA_RIGHTPAD)
  client_height : window.rcClient.height = window.height - 2 * window.borderSize -
    (METRICS_CLIENTAREA_TOPPAD + METRICS_CLIENTAREA_BOTTOMPAD) - window.titlebarHeight

theorem Consistent.sized {window : Overlapped} (consistent : Consistent window) : Sized window :=
  ⟨consistent.ended, consistent.titlebar_width, consistent.minimize.left, consistent.maximize.left,
    consistent.close.left, consistent.client_width, consistent.client_height⟩

theorem sized_resize (manager : Manager) (window : Overlapped) (cx cy : UInt64) :
    Sized (gwsResizeWindow manager window cx cy) where
  ended := ended_sync _
  titlebar_width := sub_twice _ _
  minimize := rfl
  maximize := rfl
  close := rfl
  client_width := by
    simp only [gwsResizeWindow, syncAbsoluteDimensions]
    grind
  client_height := by
    simp only [gwsResizeWindow, syncAbsoluteDimensions]
    grind

theorem sized_move {window : Overlapped} (sized : Sized window) (x y : UInt64) :
    Sized (gwssrvChangeWindowPosition window x y) := by
  obtain ⟨-, width, minimize, maximize, close, clientWidth, clientHeight⟩ := sized
  have same : (gwssrvChangeWindowPosition window x y).titlebar.width = window.titlebar.width := by
    rw [titlebar_move]
  refine ⟨ended_sync _, same.trans width, ?_, ?_, ?_, clientWidth, clientHeight⟩
  all_goals
    rw [same]
    simp only [gwssrvChangeWindowPosition]
    split
    all_goals assumption

theorem sized_run {window : Overlapped} (sized : Sized window) (manager : Manager)
    (requests : List Request) :
    Along (serve manager) (fun _ _ out => Sized out.2) window requests := by
  refine along_of_kept (fun window request out kept served => ?_) requests sized
  cases request with
  | resize cx cy =>
      cases served
      exact ⟨sized_resize manager window cx cy, sized_resize manager window cx cy⟩
  | move x y =>
      cases served
      exact ⟨sized_move kept x y, sized_move kept x y⟩

/-- A run keeps the window consistent after every step exactly if no resize of it changes
    the width and no move the position. -/
theorem geometry_iff {window : Overlapped} (consistent : Consistent window) (manager : Manager)
    (requests : List Request) :
    Along (serve manager) (fun _ _ out => Consistent out.2) window requests ↔
      Guarded (serve manager) (Still manager) window requests := by
  refine along_iff_guarded_of_kept (fun window request out kept served => ?_)
    (fun _ _ _ _ _ after => after) (fun window request stop stopped => ?_) requests consistent
  · cases request with
    | resize cx cy =>
        cases served
        exact resize_iff kept cx cy
    | move x y =>
        cases served
        exact move_iff kept x y
  · cases request with
    | resize cx cy => cases stopped
    | move x y => cases stopped

def control (left leftOffset : UInt64) : Control :=
  { left := left, top := 0, width := 20, height := 20
    absoluteX := 1 + left, absoluteY := 1, absoluteRight := 21 + left, absoluteBottom := 21
    leftOffset := leftOffset }

/-- A window of 300x200 pixels in the corner of the screen, with a border of one pixel. -/
def corner : Overlapped :=
  { left := 0, top := 0, width := 300, height := 200
    absoluteX := 0, absoluteY := 0, absoluteRight := 300, absoluteBottom := 200
    borderSize := 1
    titlebarHeight := 32
    rcClient := { left := 5, top := 37, width := 290, height := 158 }
    titlebar :=
      { left := 1, top := 1, width := 298, height := 32
        absoluteX := 1, absoluteY := 1, absoluteRight := 299, absoluteBottom := 33
        initialized := true
        minimize := control 238 60
        maximize := control 258 40
        close := control 278 20 }
    parent := none
    children :=
      [{ left := 10, top := 10, width := 50, height := 20
         absoluteX := 15, absoluteY := 47, absoluteRight := 65, absoluteBottom := 67 }] }

def screen : Manager :=
  { initialized := true, wa := { left := 0, top := 0, width := 800, height := 600 } }

theorem consistent_corner : Consistent corner where
  ended := ⟨by decide, by decide⟩
  titlebar_ended := ⟨by decide, by decide⟩
  titlebar_x := by decide
  titlebar_y := by decide
  titlebar_width := by decide
  minimize := ⟨⟨by decide, by decide⟩, by decide, by decide, by decide⟩
  maximize := ⟨⟨by decide, by decide⟩, by decide, by decide, by decide⟩
  close := ⟨⟨by decide, by decide⟩, by decide, by decide, by decide⟩
  client_width := by decide
  client_height := by decide
  children := by
    intro child member
    obtain rfl := List.mem_singleton.mp member
    exact ⟨⟨by decide, by decide⟩, by decide, by decide⟩

theorem corner_higher : Along (serve screen) (fun _ _ out => Consistent out.2) corner
    [.resize 300 250, .move 0 0] := by
  have width : limit screen 300 METRICS_DEFAULT_MINIMUM_WINDOW_WIDTH screen.wa.width = 300 := by
    decide
  refine (geometry_iff consistent_corner screen _).mpr ⟨width, fun _ _ served => ?_⟩
  cases served
  exact ⟨⟨⟨by decide, by decide⟩, by decide⟩, fun _ _ _ => trivial⟩

theorem corner_moved : Consistent corner ∧
    ¬Along (serve screen) (fun _ _ out => Consistent out.2) corner [.move 10 0] := by
  refine ⟨consistent_corner, fun along => ?_⟩
  obtain ⟨after, -⟩ := along ((), gwssrvChangeWindowPosition corner 10 0) rfl
  exact absurd after.titlebar_ended.right (by decide)

end Gramado.Winsys.Geometry
