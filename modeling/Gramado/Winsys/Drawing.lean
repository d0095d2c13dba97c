/-
Rectangles that the display server draws (rect.c, line.c, and the pixels of libdisp.c): in the
client area of a window, on the screen by the kernel or by the server itself, and on a canvas.
Each of the three clips in another way.
-/
import Gramado.Gre.Rectangles

namespace Gramado.Winsys.Drawing

open Gramado.Gre.Rectangles

/-- The client area, relative to its window. -/
structure RcClient where
  left : UInt64
  top : UInt64
  width : UInt64
  height : UInt64

structure Window where
  absoluteX : UInt64
  absoluteY : UInt64
  rcClient : RcClient

/-- A canvas and its int of bits per pixel. Its lines follow each other without a gap. -/
structure Canvas where
  deviceWidth : UInt64
  deviceHeight : UInt64
  bpp : Nat

section Server

variable (screen : Screen)

/-- `fb_BackBufferPutpixel` behind the tests of `libdisp_backbuffer_putpixel`: the offset of
    the pixel, or none where the server exits at 4 MB. -/
def backbufferPutpixel (x y : Nat) : Option (List Int) :=
  let tmpOffset := screen.bytes * screen.width * y + screen.bytes * x
  if int32 x < 0 ∨ int32 y < 0 then
    some []
  else if x ≥ screen.width then
    some []
  else if y ≥ screen.height then
    some []
  else if tmpOffset ≥ 0x400000 then
    none
  else
    some [(tmpOffset : Int)]

/-- The right end is an unsigned int: where it is at or behind the border it becomes the last
    column, which is not drawn. -/
def grBackbufferDrawHorizontalLine (x1 y x2 : Nat) : Option (List Int) :=
  let right := if x2 % 2 ^ 32 ≥ screen.width then (screen.width + (2 ^ 32 - 1)) % 2 ^ 32
    else x2 % 2 ^ 32
  if x1 % 2 ^ 32 > right then
    some []
  else
    ((List.range (right - x1 % 2 ^ 32)).mapM fun i =>
      backbufferPutpixel screen (x1 % 2 ^ 32 + i) (y % 2 ^ 32)).map List.flatten

/-- The loop of the server's own painter. -/
def drawLines (left right bottom : Nat) : Nat → Nat → Option (List Int)
  | 0, _ => some []
  | numberOfLines + 1, top =>
      if top ≥ bottom then
        some []
      else if top ≥ screen.height then
        some []
      else
        (grBackbufferDrawHorizontalLine screen left top right).bind fun line =>
          (drawLines left right bottom numberOfLines (top + 1)).map (line ++ ·)

/-- A width or height, at most that of the device. -/
def clamped (size device : Nat) : Nat :=
  if size > device then device else size

def rectBackbufferDrawRectangle0 (x y width height : UInt64) (useKgws : Bool) :
    Option (List Int) :=
  let rectWidth := clamped (low16 width) screen.width
  let rectHeight := clamped (low16 height) screen.height
  if useKgws then
    some (backbufferDrawRectangle screen (UInt64.ofNat (low16 x)) (UInt64.ofNat (low16 y))
      (UInt64.ofNat rectWidth) (UInt64.ofNat rectHeight)).offsets
  else
    drawLines screen (low16 x) (low16 x + low16 width) (low16 y + low16 height) rectHeight (low16 y)

/-- `USE_KERNEL_TO_DRAW_RECTANGLES` is 1. -/
def rectBackbufferDrawRectangle (x y width height : UInt64) : Option (List Int) :=
  rectBackbufferDrawRectangle0 screen x y width height true

/-- The origin of the client area. -/
def clientX (window : Window) : UInt64 :=
  window.absoluteX + window.rcClient.left

def clientY (window : Window) : UInt64 :=
  window.absoluteY + window.rcClient.top

/-- A width or height, at most what is left up to the end of the client area: a difference
    that wraps behind it. -/
def available (size origin extent start : UInt64) : UInt64 :=
  if size > origin + extent - start then origin + extent - start else size

def rectBackbufferDrawRectangleInsideWindow (window : Window) (x y width height : UInt64) :
    Option (List Int) :=
  let absLeft := clientX window + x
  let absTop := clientY window + y
  rectBackbufferDrawRectangle screen absLeft absTop
    (available width (clientX window) window.rcClient.width absLeft)
    (available height (clientY window) window.rcClient.height absTop)

end Server

section Canvas

variable (canvas : Canvas)

/-- The bytes of a pixel, or none for an exit. -/
def bytesCount (bpp : Nat) : Option Nat :=
  if bpp = 32 then
    some 4
  else if bpp = 24 then
    some 3
  else
    none

def putpixel0 (x y : Nat) : Option Int :=
  (bytesCount canvas.bpp).map fun bytes =>
    int32 (bytes * (canvas.deviceWidth.toNat % 65536) * (y % 65536) + bytes * (x % 65536) : Nat)

def dcDrawHorizontalLine (x1 y x2 : Nat) : Option (List Int) :=
  if x1 > x2 then
    some []
  else
    (List.range (x2 - x1)).mapM fun i => putpixel0 canvas (x1 + i) y

/-- The number of lines is an int. -/
def dcDrawRectangle0 (left top width height : UInt64) : Option (List Int) :=
  if left ≥ canvas.deviceWidth then
    some []
  else if top ≥ canvas.deviceHeight then
    some []
  else
    let wSpace := canvas.deviceWidth - left
    let hSpace := canvas.deviceHeight - top
    let finalWidth := if width > wSpace then wSpace else width
    let finalHeight := if height > hSpace then hSpace else height
    if finalWidth = 0 then
      some []
    else if finalHeight = 0 then
      some []
    else
      let right := if left + finalWidth > canvas.deviceWidth then canvas.deviceWidth
        else left + finalWidth
      ((List.range (int32 finalHeight.toNat).toNat).mapM fun i =>
        dcDrawHorizontalLine canvas left.toNat (top.toNat + i) right.toNat).map List.flatten

end Canvas

section Clipped

variable (screen : Screen)

/-- One of the `size` numbers from `start` on, where 0 follows the last number of 64 bits. -/
def Within (start size : UInt64) (p : Nat) : Prop :=
  UInt64.ofNat p - start < size

/-- Only pixels of the screen are drawn that are in the rectangle and in the client area, and
    none if it starts outside. -/
def InsideOnly (window : Window) (x y width height : UInt64) (drawn : Option (List Int)) : Prop :=
  ∃ offsets, drawn = some offsets ∧
    (∀ o ∈ offsets, ∃ px py, (px < screen.width ∧ py < screen.height) ∧
      (Within (clientX window + x) width px ∧
        Within (clientX window) window.rcClient.width px) ∧
      (Within (clientY window + y) height py ∧
        Within (clientY window) window.rcClient.height py) ∧ o = address screen px py) ∧
    (window.rcClient.width ≤ x ∨ window.rcClient.height ≤ y → offsets = [])

/-- Exactly these offsets are written, and the server does not exit. -/
def Puts (drawn : Option (List Int)) (P : Int → Prop) : Prop :=
  ∃ offsets, drawn = some offsets ∧ ∀ o, o ∈ offsets ↔ P o

/-- Exactly the pixels of the rectangle on the screen are drawn. -/
def DrawsClipped (r : Rect) (drawn : Option (List Int)) : Prop :=
  Puts drawn fun o => ∃ px py, Visible screen r px py ∧ o = address screen px py

/-- Exactly the pixels of the rectangle on the canvas are drawn. -/
def DrawsCanvas (canvas : Canvas) (left top width height : UInt64)
    (drawn : Option (List Int)) : Prop :=
  Puts drawn fun o => ∃ px py : Nat,
    (left.toNat ≤ px ∧ px < left.toNat + width.toNat ∧ px < canvas.deviceWidth.toNat) ∧
    (top.toNat ≤ py ∧ py < top.toNat + height.toNat ∧ py < canvas.deviceHeight.toNat) ∧
    o = (canvas.bpp / 8 * (canvas.deviceWidth.toNat * py + px) : Nat)

/-- The rectangle that the kernel gets. -/
def kernelRect (x y width height : UInt64) : Rect :=
  ⟨low16 x, low16 y, clamped (low16 width) screen.width, clamped (low16 height) screen.height⟩

/-- The `count` numbers from `first` on are right: the start is not cut to 16 bits, or what is
    left of it happens to be in the rectangle and in the client area too. -/
def Placed (origin extent offset size : UInt64) (first count : Nat) : Prop :=
  (origin + offset).toNat < 65536 ∨
    ((UInt64.ofNat first - (origin + offset)).toNat + count ≤ size.toNat ∧
      (UInt64.ofNat first - origin).toNat + count ≤ extent.toNat)

/-- The kernel gets a rectangle without columns on the screen. -/
def Nothing (r : Rect) : Prop :=
  screen.height = 0 ∨ r.width = 0 ∨ screen.width ≤ r.left

/-- The kernel gets nothing to draw, or a rectangle that starts in the client area, has a
    height that ends on the screen, and is not moved by the cut to 16 bits. -/
def InsideFits (window : Window) (x y width height : UInt64) : Prop :=
  let r := kernelRect screen (clientX window + x) (clientY window + y)
    (available width (clientX window) window.rcClient.width (clientX window + x))
    (available height (clientY window) window.rcClient.height (clientY window + y))
  Nothing screen r ∨
    (x < window.rcClient.width ∧ y < window.rcClient.height) ∧
      (r.height ≠ 0 ∧ r.top + min r.height 768 ≤ screen.height) ∧
      Placed (clientX window) window.rcClient.width x width r.left (columns screen r) ∧
      Placed (clientY window) window.rcClient.height y height r.top (min r.height 768) ∧
      address screen (r.left + columns screen r - 1) (r.top + min r.height 768 - 1) < 2 ^ 31

/-- The rectangle is not on the screen, or ends left of its last column and below 4 MB. -/
def RingFits (r : Rect) : Prop :=
  columns screen r = 0 ∨ rows screen r = 0 ∨
    (r.left + r.width < screen.width ∧
      address screen (r.left + r.width - 1) (r.top + rows screen r - 1) < 0x400000)

/-- The ends of what is on the canvas. -/
def rightOf (canvas : Canvas) (left width : UInt64) : Nat :=
  min (left.toNat + width.toNat) canvas.deviceWidth.toNat

def bottomOf (canvas : Canvas) (top height : UInt64) : Nat :=
  min (top.toNat + height.toNat) canvas.deviceHeight.toNat

/-- The rectangle is not on the canvas, or its pixels have 3 or 4 bytes and places below 2 GB
    with columns and rows of 16 bits: without a row other than the first one, the canvas may be
    wider than that. -/
def CanvasFits (canvas : Canvas) (left top width height : UInt64) : Prop :=
  rightOf canvas left width ≤ left.toNat ∨ bottomOf canvas top height ≤ top.toNat ∨
    ((canvas.bpp = 32 ∨ canvas.bpp = 24) ∧ rightOf canvas left width ≤ 65536 ∧
      (bottomOf canvas top height = 1 ∨
        canvas.deviceWidth.toNat < 65536 ∧ bottomOf canvas top height ≤ 65536) ∧
      canvas.bpp / 8 * (canvas.deviceWidth.toNat * (bottomOf canvas top height - 1) +
        (rightOf canvas left width - 1)) < 2 ^ 31)

end Clipped

section Puts

variable {α : Type}

theorem puts_nothing {P : Int → Prop} (none : ∀ o, ¬P o) : Puts (some []) P :=
  ⟨[], rfl, fun o => iff_of_false List.not_mem_nil (none o)⟩

theorem Puts.congr {drawn : Option (List Int)} {P Q : Int → Prop} (puts : Puts drawn P)
    (same : ∀ o, P o ↔ Q o) : Puts drawn Q := by
  obtain ⟨offsets, result, members⟩ := puts
  exact ⟨offsets, result, fun o => (members o).trans (same o)⟩

theorem Puts.unique {drawn : Option (List Int)} {P Q : Int → Prop} (puts : Puts drawn P)
    (puts' : Puts drawn Q) (o : Int) : P o ↔ Q o := by
  obtain ⟨offsets, result, members⟩ := puts
  obtain ⟨found, result', members'⟩ := puts'
  obtain rfl : offsets = found := Option.some.inj (result.symm.trans result')
  rw [← members, members']

theorem not_puts_none {P : Int → Prop} : ¬Puts none P := by
  rintro ⟨offsets, result, -⟩
  cases result

theorem puts_mapM {f : α → Option (List Int)} {P : α → Int → Prop} {l : List α}
    (each : ∀ a ∈ l, Puts (f a) (P a)) :
    Puts ((l.mapM f).map List.flatten) fun o => ∃ a ∈ l, P a o := by
  induction l with
  | nil => exact ⟨[], rfl, by simp⟩
  | cons a rest ih =>
      obtain ⟨line, drawn, members⟩ := each a List.mem_cons_self
      obtain ⟨offsets, result, members'⟩ := ih fun b member =>
        each b (List.mem_cons_of_mem _ member)
      obtain ⟨parts, passes, joined⟩ := Option.map_eq_some_iff.mp result
      refine ⟨line ++ offsets, ?_, fun o => ?_⟩
      · rw [List.mapM_cons, drawn, passes, ← joined]
        rfl
      · rw [List.mem_append, members, members']
        simp only [List.mem_cons, exists_eq_or_imp]

theorem mapM_none {β : Type} {f : α → Option β} {l : List α} {a : α} (member : a ∈ l)
    (exits : f a = none) : l.mapM f = none := by
  induction l with
  | nil => exact absurd member List.not_mem_nil
  | cons b rest ih =>
      rw [List.mapM_cons]
      cases first : f b with
      | none => rfl
      | some value =>
          obtain rfl | later := List.mem_cons.mp member
          · rw [exits] at first
            cases first
          · rw [ih later]
            rfl

end Puts

section Kernel

variable {screen : Screen} {x y width height : UInt64}

theorem low16_ofNat {n : Nat} (small : n < 65536) : low16 (UInt64.ofNat n) = n := by
  have low : (UInt64.ofNat n).toNat = n := UInt64.toNat_ofNat_of_lt (Nat.lt_trans small (by decide))
  rw [low16, low, Nat.mod_eq_of_lt small]

theorem clamped_lt {size device : Nat} (small : device < 65536) : clamped size device < 65536 := by
  unfold clamped
  split
  · exact small
  · omega

theorem rect_kernel (screen : Screen) (x y width height : UInt64) :
    rect (UInt64.ofNat (low16 x)) (UInt64.ofNat (low16 y))
      (UInt64.ofNat (clamped (low16 width) screen.width))
      (UInt64.ofNat (clamped (low16 height) screen.height)) =
      kernelRect screen x y width height := by
  rw [rect, low16_ofNat (low16_lt x), low16_ofNat (low16_lt y),
    low16_ofNat (clamped_lt screen.width_lt), low16_ofNat (clamped_lt screen.height_lt)]
  rfl

theorem kernel_nothing (none : Nothing screen (kernelRect screen x y width height)) :
    rectBackbufferDrawRectangle0 screen x y width height true = some [] := by
  rw [← rect_kernel] at none
  unfold rectBackbufferDrawRectangle0
  rw [if_pos rfl, backbufferDrawRectangle, drawrectangle0_empty .back none]

theorem kernel_some {r : Rect} (same : kernelRect screen x y width height = r)
    (visible : ¬Nothing screen r) :
    ∃ offsets, rectBackbufferDrawRectangle0 screen x y width height true = some offsets ∧
      ∀ o, o ∈ offsets ↔ ∃ i px, i < linesOf screen r ∧ r.left ≤ px ∧
        px < r.left + columns screen r ∧ o = int32 (address screen px (r.top + i) : Nat) := by
  rw [← rect_kernel] at same
  obtain ⟨high, wide, inside⟩ := not_or.mp visible |>.imp_right not_or.mp
  subst same
  unfold rectBackbufferDrawRectangle0
  rw [if_pos rfl]
  exact ⟨_, rfl, (drawrectangle0_columns .back high wide (Nat.lt_of_not_le inside)).2⟩

end Kernel

section Within

/-- Numbers in a row are in a range of the ring exactly if the last one does not leave it. -/
theorem within_iff {start size : UInt64} {first count : Nat} (some : 0 < count)
    (room : first + count ≤ 2 ^ 64) :
    (∀ i < count, Within start size (first + i)) ↔
      (UInt64.ofNat first - start).toNat + count ≤ size.toNat := by
  have place : ∀ i < count, (UInt64.ofNat (first + i) - start).toNat =
      ((UInt64.ofNat first - start).toNat + i) % 2 ^ 64 := by
    intro i inside
    rw [UInt64.toNat_sub, UInt64.toNat_sub, UInt64.toNat_ofNat', UInt64.toNat_ofNat']
    omega
  have ends := size.toNat_lt
  have distance := (UInt64.ofNat first - start).toNat_lt
  constructor
  · intro all
    refine Nat.le_of_not_lt fun leaves => ?_
    by_cases outside : size.toNat ≤ (UInt64.ofNat first - start).toNat
    · have begins := UInt64.lt_iff_toNat_lt.mp (all 0 some)
      exact absurd begins (Nat.not_lt_of_le outside)
    · -- The number behind the end of the range is in the row.
      have inside : size.toNat - (UInt64.ofNat first - start).toNat < count := by omega
      have behind := UInt64.lt_iff_toNat_lt.mp (all _ inside)
      rw [place _ inside] at behind
      omega
  · intro fits i inside
    rw [Within, UInt64.lt_iff_toNat_lt, place i inside]
    omega

theorem available_toNat {size origin extent offset : UInt64} (inside : offset < extent) :
    (available size origin extent (origin + offset)).toNat =
      min size.toNat (extent.toNat - offset.toNat) := by
  have rest : origin + extent - (origin + offset) = extent - offset := by
    grind
  have left : (extent - offset).toNat = extent.toNat - offset.toNat :=
    UInt64.toNat_sub_of_le extent offset (UInt64.le_of_lt inside)
  unfold available
  rw [rest]
  split
  · rename_i more
    have longer := UInt64.lt_iff_toNat_lt.mp more
    omega
  · rename_i fits
    have shorter := UInt64.le_iff_toNat_le.mp (UInt64.not_lt.mp fits)
    omega

theorem placed_iff {origin extent offset size : UInt64} {count : Nat} (inside : offset < extent)
    (fits : count ≤ (available size origin extent (origin + offset)).toNat) :
    Placed origin extent offset size (low16 (origin + offset)) count ↔
      (UInt64.ofNat (low16 (origin + offset)) - (origin + offset)).toNat + count ≤ size.toNat ∧
        (UInt64.ofNat (low16 (origin + offset)) - origin).toNat + count ≤ extent.toNat := by
  constructor
  · rintro (whole | found)
    · have start : UInt64.ofNat (low16 (origin + offset)) = origin + offset := by
        rw [low16, Nat.mod_eq_of_lt whole, UInt64.ofNat_toNat]
      have later : origin + offset - origin = offset := by
        grind
      have shorter := UInt64.lt_iff_toNat_lt.mp inside
      rw [available_toNat inside] at fits
      rw [start, later, UInt64.sub_self]
      change 0 + count ≤ size.toNat ∧ _
      omega
    · exact found
  · exact .inr

end Within

section InsideWindow

variable {screen : Screen} {window : Window} {x y width height : UInt64}

theorem clamped_le (n : UInt64) (device : Nat) : clamped (low16 n) device ≤ n.toNat := by
  have low : low16 n ≤ n.toNat := Nat.mod_le _ _
  unfold clamped
  split
  · omega
  · exact low

theorem insideOnly_nothing : InsideOnly screen window x y width height (some []) :=
  ⟨[], rfl, fun _ member => absurd member List.not_mem_nil, fun _ => rfl⟩

theorem insideOnly_of_fits (fits : InsideFits screen window x y width height) :
    InsideOnly screen window x y width height
      (rectBackbufferDrawRectangleInsideWindow screen window x y width height) := by
  unfold InsideFits at fits
  unfold rectBackbufferDrawRectangleInsideWindow rectBackbufferDrawRectangle
  dsimp only at fits ⊢
  generalize same : kernelRect screen (clientX window + x) (clientY window + y)
    (available width (clientX window) window.rcClient.width (clientX window + x))
    (available height (clientY window) window.rcClient.height (clientY window + y)) = r at fits
  by_cases nothing : Nothing screen r
  · rw [kernel_nothing (same ▸ nothing)]
    exact insideOnly_nothing
  · obtain ⟨offsets, drawn, members⟩ := kernel_some same nothing
    obtain ⟨start, high, left, top, low⟩ := fits.resolve_left nothing
    obtain ⟨-, wide, inner⟩ := not_or.mp nothing |>.imp_right not_or.mp
    have column := columns_pos wide (Nat.lt_of_not_le inner)
    have lines : linesOf screen r = min r.height 768 := by
      rw [linesOf_eq r high.1]
      omega
    have narrow : columns screen r ≤ r.width := Nat.min_le_left _ _
    have flat : min r.height 768 ≤ r.height := Nat.min_le_left _ _
    have right := screen.width_lt
    have bottom := screen.height_lt
    rw [show r.left = low16 (clientX window + x) from same ▸ rfl,
      placed_iff start.1 (Nat.le_trans narrow (same ▸ clamped_le _ _))] at left
    rw [show r.top = low16 (clientY window + y) from same ▸ rfl,
      placed_iff start.2 (Nat.le_trans flat (same ▸ clamped_le _ _))] at top
    rw [drawn]
    refine ⟨offsets, rfl, fun o member => ?_, fun outside => ?_⟩
    · obtain ⟨i, px, row, first, last, place⟩ := (members o).mp member
      rw [lines] at row
      have low : address screen px (r.top + i) < 2 ^ 31 :=
        Nat.lt_of_le_of_lt (address_le (by omega) (by omega)) low
      rw [int32_of_lt low] at place
      have inColumns := fun {start size} => @within_iff start size r.left (columns screen r)
        column.1 (by omega)
      have inRows := fun {start size} => @within_iff start size r.top (min r.height 768)
        (by omega) (by omega)
      have atColumn : px = r.left + (px - r.left) := (Nat.add_sub_cancel' first).symm
      refine ⟨px, r.top + i, ⟨by omega, by omega⟩, ?_, ?_, place⟩
      · rw [atColumn]
        exact ⟨inColumns.mpr (same ▸ left.1) _ (by omega),
          inColumns.mpr (same ▸ left.2) _ (by omega)⟩
      · exact ⟨inRows.mpr (same ▸ top.1) _ row, inRows.mpr (same ▸ top.2) _ row⟩
    · have behind := outside.imp UInt64.not_lt.mpr UInt64.not_lt.mpr
      obtain notLeft | notTop := behind
      · exact absurd start.1 notLeft
      · exact absurd start.2 notTop

theorem fits_of_insideOnly (narrow : screen.bytes * screen.width ≤ 2 ^ 15)
    (only : InsideOnly screen window x y width height
      (rectBackbufferDrawRectangleInsideWindow screen window x y width height)) :
    InsideFits screen window x y width height := by
  unfold InsideFits
  unfold rectBackbufferDrawRectangleInsideWindow rectBackbufferDrawRectangle at only
  dsimp only at only ⊢
  generalize same : kernelRect screen (clientX window + x) (clientY window + y)
    (available width (clientX window) window.rcClient.width (clientX window + x))
    (available height (clientY window) window.rcClient.height (clientY window + y)) = r
  by_cases nothing : Nothing screen r
  · exact .inl nothing
  · obtain ⟨offsets, drawn, members⟩ := kernel_some same nothing
    obtain ⟨-, wide, inner⟩ := not_or.mp nothing |>.imp_right not_or.mp
    have column := columns_pos wide (Nat.lt_of_not_le inner)
    have lines := @linesOf_pos screen r
    have left : r.left = low16 (clientX window + x) := same ▸ rfl
    have top : r.top = low16 (clientY window + y) := same ▸ rfl
    have right := screen.width_lt
    have bottom := screen.height_lt
    obtain ⟨found, result, inside, outside⟩ := only
    obtain rfl : offsets = found := Option.some.inj (drawn.symm.trans result)
    have start : x < window.rcClient.width ∧ y < window.rcClient.height := by
      by_contra notStart
      have behind := not_and_or.mp notStart |>.imp UInt64.not_lt.mp UInt64.not_lt.mp
      have first := (members _).mpr ⟨0, r.left, lines, Nat.le_refl _, by omega, rfl⟩
      rw [outside behind] at first
      exact absurd first List.not_mem_nil
    have belowInt : ∀ px py, px < screen.width → py < 65536 → address screen px py < 2 ^ 31 := by
      intro px py onX onY
      have row : screen.width * py + screen.width ≤ screen.width * 65536 :=
        Nat.mul_le_mul_left screen.width onY
      have pixels : screen.bytes * (screen.width * py + px + 1) ≤
          screen.bytes * (screen.width * 65536) := Nat.mul_le_mul_left _ (by omega)
      rw [Nat.mul_succ, ← Nat.mul_assoc] at pixels
      have unit := bytes_pos screen
      rw [address]
      omega
    have low : ∀ i < linesOf screen r, r.top + i < 65536 := by
      intro i row
      have cut : r.top < 65536 := top ▸ low16_lt _
      simp only [linesOf, painted] at row
      omega
    -- Every pixel that is put is one of those that may be put.
    have each : ∀ i < linesOf screen r, ∀ j < columns screen r, r.top + i < screen.height ∧
        (Within (clientX window + x) width (r.left + j) ∧
          Within (clientX window) window.rcClient.width (r.left + j)) ∧
        Within (clientY window + y) height (r.top + i) ∧
          Within (clientY window) window.rcClient.height (r.top + i) := by
      intro i row j behind
      obtain ⟨px, py, ⟨onX, onY⟩, inX, inY, place⟩ := inside _ ((members _).mpr
        ⟨i, r.left + j, row, Nat.le_add_right _ _, by omega, rfl⟩)
      rw [int32_of_lt (belowInt _ _ (by omega) (low i row)), Int.natCast_inj] at place
      obtain ⟨sameX, sameY⟩ := address_inj (by omega) onX place
      rw [sameX, sameY]
      exact ⟨onY, inX, inY⟩
    have bottomRow := (each (linesOf screen r - 1) (by omega) 0 column.1).1
    have high : r.height ≠ 0 := by
      intro zero
      rw [linesOf, zero, if_neg (by decide), painted, if_pos rfl] at bottomRow
      omega
    have count : linesOf screen r = min r.height 768 := by
      rw [linesOf_eq r high] at bottomRow ⊢
      omega
    rw [count] at each bottomRow low lines
    have width16 : columns screen r ≤ r.width := Nat.min_le_left _ _
    have height16 : min r.height 768 ≤ r.height := Nat.min_le_left _ _
    refine .inr ⟨start, ⟨high, by omega⟩, ?_, ?_, belowInt _ _ (by omega) (by omega)⟩
    · rw [left, placed_iff start.1 (Nat.le_trans width16 (same ▸ clamped_le _ _)), ← left]
      exact ⟨(within_iff column.1 (by omega)).mp fun j behind => (each 0 lines j behind).2.1.1,
        (within_iff column.1 (by omega)).mp fun j behind => (each 0 lines j behind).2.1.2⟩
    · rw [top, placed_iff start.2 (Nat.le_trans height16 (same ▸ clamped_le _ _)), ← top]
      exact ⟨(within_iff lines (by omega)).mp fun i row => (each i row 0 column.1).2.2.1,
        (within_iff lines (by omega)).mp fun i row => (each i row 0 column.1).2.2.2⟩

end InsideWindow

section Ring

variable {screen : Screen} {left right top bottom x y : Nat}

theorem puts_pixel (low : x < screen.width → y < screen.height → address screen x y < 0x400000) :
    Puts (backbufferPutpixel screen x y) fun o =>
      (x < screen.width ∧ y < screen.height) ∧ o = address screen x y := by
  have place : screen.bytes * screen.width * y + screen.bytes * x = address screen x y := by
    simp only [address]
    ring
  unfold backbufferPutpixel
  dsimp only
  rw [place]
  by_cases negative : int32 x < 0 ∨ int32 y < 0
  · rw [if_pos negative]
    refine puts_nothing fun o inside => ?_
    rw [int32_of_lt (Nat.lt_trans inside.1.1 (Nat.lt_trans screen.width_lt (by decide))),
      int32_of_lt (Nat.lt_trans inside.1.2 (Nat.lt_trans screen.height_lt (by decide)))] at negative
    omega
  · rw [if_neg negative]
    by_cases behind : x ≥ screen.width
    · rw [if_pos behind]
      exact puts_nothing fun o inside => Nat.not_lt_of_le behind inside.1.1
    · rw [if_neg behind]
      by_cases below : y ≥ screen.height
      · rw [if_pos below]
        exact puts_nothing fun o inside => Nat.not_lt_of_le below inside.1.2
      · rw [if_neg below, if_neg (Nat.not_le_of_lt (low (by omega) (by omega)))]
        exact ⟨_, rfl, fun o => by simp; omega⟩

theorem pixel_none (onX : x < screen.width) (onY : y < screen.height)
    (high : 0x400000 ≤ address screen x y) : backbufferPutpixel screen x y = none := by
  have place : screen.bytes * screen.width * y + screen.bytes * x = address screen x y := by
    simp only [address]
    ring
  unfold backbufferPutpixel
  dsimp only
  rw [place, int32_of_lt (Nat.lt_trans onX (Nat.lt_trans screen.width_lt (by decide))),
    int32_of_lt (Nat.lt_trans onY (Nat.lt_trans screen.height_lt (by decide))),
    if_neg (by omega), if_neg (Nat.not_le_of_lt onX), if_neg (Nat.not_le_of_lt onY), if_pos high]

theorem lt_right (small : right < 2 ^ 17) (onX : x < screen.width) :
    x < (if right % 2 ^ 32 ≥ screen.width then (screen.width + (2 ^ 32 - 1)) % 2 ^ 32
      else right % 2 ^ 32) ↔ x < right ∧ x + 1 < screen.width := by
  have width := screen.width_lt
  split
  · omega
  · omega

theorem puts_line (start : left < 2 ^ 16) (small : right < 2 ^ 17) (row : y < 2 ^ 17)
    (low : ∀ px, left ≤ px → px < right → px + 1 < screen.width → y < screen.height →
      address screen px y < 0x400000) :
    Puts (grBackbufferDrawHorizontalLine screen left y right) fun o => ∃ px,
      (left ≤ px ∧ px < right ∧ px + 1 < screen.width) ∧ y < screen.height ∧
        o = address screen px y := by
  have column := fun {px} => @lt_right screen right px small
  unfold grBackbufferDrawHorizontalLine
  dsimp only
  generalize (if right % 2 ^ 32 ≥ screen.width then (screen.width + (2 ^ 32 - 1)) % 2 ^ 32
    else right % 2 ^ 32) = stop at column ⊢
  rw [Nat.mod_eq_of_lt (Nat.lt_trans start (by decide)),
    Nat.mod_eq_of_lt (Nat.lt_trans row (by decide))]
  by_cases empty : left > stop
  · rw [if_pos empty]
    refine puts_nothing ?_
    rintro o ⟨px, ⟨first, last, inner⟩, -⟩
    have behind := (column (Nat.lt_of_succ_lt inner)).mpr ⟨last, inner⟩
    omega
  · rw [if_neg empty]
    have each : ∀ i ∈ List.range (stop - left), Puts (backbufferPutpixel screen (left + i) y)
        fun o => (left + i < screen.width ∧ y < screen.height) ∧
          o = address screen (left + i) y := by
      intro i member
      refine puts_pixel fun onX onY => ?_
      have inside := List.mem_range.mp member
      have drawn := (column onX).mp (by omega)
      exact low _ (Nat.le_add_right _ _) drawn.1 drawn.2 onY
    refine (puts_mapM each).congr fun o => ?_
    constructor
    · rintro ⟨i, member, ⟨onX, onY⟩, place⟩
      have inside := List.mem_range.mp member
      have drawn := (column onX).mp (by omega)
      exact ⟨left + i, ⟨Nat.le_add_right _ _, drawn⟩, onY, place⟩
    · rintro ⟨px, ⟨first, last, inner⟩, onY, place⟩
      have behind := (column (Nat.lt_of_succ_lt inner)).mpr ⟨last, inner⟩
      refine ⟨px - left, List.mem_range.mpr (by omega), ?_⟩
      rw [Nat.add_sub_cancel' first]
      exact ⟨⟨Nat.lt_of_succ_lt inner, onY⟩, place⟩

theorem line_none (start : left < 2 ^ 16) (small : right < 2 ^ 17) (row : y < screen.height)
    (first : left ≤ x) (last : x < right) (inner : x + 1 < screen.width)
    (high : 0x400000 ≤ address screen x y) :
    grBackbufferDrawHorizontalLine screen left y right = none := by
  have onX := Nat.lt_of_succ_lt inner
  have behind := (lt_right small onX).mpr ⟨last, inner⟩
  unfold grBackbufferDrawHorizontalLine
  dsimp only
  generalize (if right % 2 ^ 32 ≥ screen.width then (screen.width + (2 ^ 32 - 1)) % 2 ^ 32
    else right % 2 ^ 32) = stop at behind ⊢
  rw [Nat.mod_eq_of_lt (Nat.lt_trans start (by decide)),
    Nat.mod_eq_of_lt (Nat.lt_trans row (Nat.lt_trans screen.height_lt (by decide))),
    if_neg (by omega)]
  have member : x - left ∈ List.range (stop - left) := List.mem_range.mpr (by omega)
  rw [mapM_none member (by rw [Nat.add_sub_cancel' first]; exact pixel_none onX row high)]
  rfl

theorem puts_lines {P : Nat → Int → Prop} {lines : Nat}
    (each : ∀ row, top ≤ row → row < top + lines → row < bottom → row < screen.height →
      Puts (grBackbufferDrawHorizontalLine screen left row right) (P row)) :
    Puts (drawLines screen left right bottom lines top) fun o => ∃ row,
      (top ≤ row ∧ row < top + lines ∧ row < bottom ∧ row < screen.height) ∧ P row o := by
  induction lines generalizing top with
  | zero => exact puts_nothing fun o ⟨row, inside, _⟩ => by omega
  | succ lines ih =>
      rw [drawLines]
      by_cases ended : top ≥ bottom
      · rw [if_pos ended]
        exact puts_nothing fun o ⟨row, inside, _⟩ => by omega
      · rw [if_neg ended]
        by_cases below : top ≥ screen.height
        · rw [if_pos below]
          exact puts_nothing fun o ⟨row, inside, _⟩ => by omega
        · rw [if_neg below]
          obtain ⟨line, drawn, members⟩ := each top (Nat.le_refl _) (by omega) (by omega) (by omega)
          obtain ⟨offsets, result, members'⟩ := @ih (top + 1) fun row first last =>
            each row (by omega) (by omega)
          rw [drawn, Option.bind_some, result]
          refine ⟨line ++ offsets, rfl, fun o => ?_⟩
          rw [List.mem_append, members, members']
          constructor
          · rintro (first | ⟨row, inside, later⟩)
            · exact ⟨top, by omega, first⟩
            · exact ⟨row, by omega, later⟩
          · rintro ⟨row, inside, put⟩
            obtain rfl | later := Nat.eq_or_lt_of_le inside.1
            · exact .inl put
            · exact .inr ⟨row, by omega, put⟩

theorem lines_none {lines row : Nat} (first : top ≤ row) (last : row < top + lines)
    (inside : row < bottom) (onY : row < screen.height)
    (exits : grBackbufferDrawHorizontalLine screen left row right = none) :
    drawLines screen left right bottom lines top = none := by
  induction lines generalizing top with
  | zero => omega
  | succ lines ih =>
      rw [drawLines, if_neg (by omega), if_neg (by omega)]
      obtain rfl | later := Nat.eq_or_lt_of_le first
      · rw [exits]
        rfl
      · rw [ih later (by omega)]
        cases grBackbufferDrawHorizontalLine screen left top right with
        | none => rfl
        | some line => rfl

end Ring

section Painters

variable {screen : Screen} {x y width height : UInt64}

theorem visible_clamped {px py : Nat} :
    Visible screen (kernelRect screen x y width height) px py ↔
      Visible screen (rect x y width height) px py := by
  simp only [Visible, kernelRect, rect, clamped]
  split
  · split
    · omega
    · omega
  · split
    · omega
    · omega

theorem kernel_iff :
    DrawsClipped screen (rect x y width height)
      (rectBackbufferDrawRectangle0 screen x y width height true) ↔
        DrawFits screen (kernelRect screen x y width height) := by
  rw [← rect_kernel, ← paints_iff .back, rect_kernel]
  unfold rectBackbufferDrawRectangle0
  rw [if_pos rfl]
  constructor
  · rintro ⟨offsets, result, members⟩ o
    obtain rfl := Option.some.inj result
    rw [← backbufferDrawRectangle, members o]
    simp only [visible_clamped]
  · intro exact
    refine ⟨_, rfl, fun o => ?_⟩
    rw [backbufferDrawRectangle, exact o]
    simp only [visible_clamped]

/-- The server's own painter leaves out the last column of the screen. -/
theorem ring_puts (low : ∀ px py, Visible screen (rect x y width height) px py →
      px + 1 < screen.width → address screen px py < 0x400000) :
    Puts (rectBackbufferDrawRectangle0 screen x y width height false) fun o => ∃ px py,
      (Visible screen (rect x y width height) px py ∧ px + 1 < screen.width) ∧
        o = address screen px py := by
  have left := low16_lt x
  have top := low16_lt y
  have wide := low16_lt width
  have tall := low16_lt height
  unfold rectBackbufferDrawRectangle0
  rw [if_neg (by decide)]
  have lines := @puts_lines screen (low16 x) (low16 x + low16 width) (low16 y)
    (low16 y + low16 height) _ (clamped (low16 height) screen.height)
    fun row first _ last onY => puts_line left (by omega) (by omega) fun px start stop inner _ =>
      low px row ⟨⟨start, stop, Nat.lt_of_succ_lt inner⟩, first, last, onY⟩ inner
  refine lines.congr fun o => ?_
  constructor
  · rintro ⟨row, ⟨first, -, last, onY⟩, px, ⟨start, stop, inner⟩, -, place⟩
    exact ⟨px, row, ⟨⟨⟨start, stop, Nat.lt_of_succ_lt inner⟩, first, last, onY⟩, inner⟩, place⟩
  · rintro ⟨px, row, ⟨⟨⟨start, stop, onX⟩, first, last, onY⟩, inner⟩, place⟩
    have few : row < low16 y + clamped (low16 height) screen.height := by
      unfold clamped
      split
      · omega
      · exact last
    exact ⟨row, ⟨first, few, last, onY⟩, px, ⟨start, stop, inner⟩, onY, place⟩

theorem ring_none {px py : Nat} (visible : Visible screen (rect x y width height) px py)
    (inner : px + 1 < screen.width) (high : 0x400000 ≤ address screen px py) :
    rectBackbufferDrawRectangle0 screen x y width height false = none := by
  obtain ⟨⟨start, stop, -⟩, first, last, onY⟩ := visible
  have left := low16_lt x
  have wide := low16_lt width
  have few : py < low16 y + clamped (low16 height) screen.height := by
    unfold clamped
    split
    · omega
    · exact last
  unfold rectBackbufferDrawRectangle0
  rw [if_neg (by decide)]
  exact lines_none first few last onY (line_none left (by omega) onY start stop inner high)

theorem ring_iff :
    DrawsClipped screen (rect x y width height)
      (rectBackbufferDrawRectangle0 screen x y width height false) ↔
        RingFits screen (rect x y width height) := by
  unfold RingFits DrawsClipped
  generalize same : rect x y width height = r
  have puts := @ring_puts screen x y width height
  have exits := @ring_none screen x y width height
  rw [same] at puts exits
  by_cases empty : columns screen r = 0 ∨ rows screen r = 0
  · have invisible : ∀ px py, ¬Visible screen r px py := by
      intro px py visible
      have inside := visible_iff.mp visible
      omega
    refine iff_of_true ?_ (empty.imp_right .inl)
    refine (puts fun px py visible _ => absurd visible (invisible px py)).congr fun o => ?_
    refine iff_of_false ?_ ?_
    · rintro ⟨px, py, ⟨visible, -⟩, -⟩
      exact invisible px py visible
    · rintro ⟨px, py, visible, -⟩
      exact invisible px py visible
  · have column : 0 < columns screen r ∧ r.left + columns screen r ≤ screen.width := by
      simp only [columns] at empty ⊢
      omega
    have row : 0 < rows screen r := by omega
    have last : ∀ px, r.left ≤ px → px < r.left + columns screen r →
        Visible screen r px (r.top + rows screen r - 1) := by
      intro px first behind
      rw [visible_iff]
      omega
    constructor
    · intro draws
      refine .inr (.inr ?_)
      -- Nothing that is visible in front of the last column ends the server.
      have low : ∀ px py, Visible screen r px py → px + 1 < screen.width →
          address screen px py < 0x400000 := by
        intro px py visible inner
        refine Nat.lt_of_not_le fun high => ?_
        rw [exits visible inner high] at draws
        exact not_puts_none draws
      have members := (puts low).unique draws
      have inner : ∀ px, r.left ≤ px → px < r.left + columns screen r → px + 1 < screen.width := by
        intro px first behind
        obtain ⟨px', py', ⟨visible, inner⟩, place⟩ :=
          (members _).mpr ⟨px, _, last px first behind, rfl⟩
        have found := (address_inj (by omega) (by omega) (Int.natCast_inj.mp place)).1
        omega
      have border := inner (r.left + columns screen r - 1) (by omega) (by omega)
      have whole : columns screen r = r.width := by
        simp only [columns] at border column ⊢
        omega
      rw [whole] at border column last
      exact ⟨by omega, low _ _ (last _ (by omega) (by omega)) (by omega)⟩
    · rintro (none | none | ⟨inside, low⟩)
      · exact absurd (.inl none) empty
      · exact absurd (.inr none) empty
      · have border : ∀ px py, Visible screen r px py → px < r.left + r.width ∧
            py < r.top + rows screen r := fun px py visible =>
          ⟨visible.1.2.1, (visible_iff.mp visible).2.2⟩
        refine (puts fun px py visible _ => ?_).congr fun o => ?_
        · have inner := border px py visible
          exact Nat.lt_of_le_of_lt (address_le (by omega) (by omega)) low
        · constructor
          · rintro ⟨px, py, ⟨visible, -⟩, place⟩
            exact ⟨px, py, visible, place⟩
          · rintro ⟨px, py, visible, place⟩
            have inner := border px py visible
            exact ⟨px, py, ⟨visible, by omega⟩, place⟩

end Painters

/-- Numbers that are at most those of a finite set, and are the same set, are the same one by
    one: the largest is its own, and then the next. -/
theorem eq_of_same_values {ι : Type} {I J : ι → Prop} {f : ι → Int} {g : ι → Nat} {bound : Nat}
    (most : ∀ i, J i → g i ≤ bound) (less : ∀ i, I i → f i ≤ g i)
    (part : ∀ i, I i → J i) (inj : ∀ i j, J i → J j → g i = g j → i = j)
    (same : ∀ o : Int, (∃ i, I i ∧ o = f i) ↔ ∃ i, J i ∧ o = g i) :
    ∀ i, J i → I i ∧ f i = g i := by
  intro i
  induction measured : bound - g i using Nat.strong_induction_on generalizing i with
  | _ n ih =>
      intro inside
      obtain ⟨j, found, value⟩ := (same _).mpr ⟨i, inside, rfl⟩
      have above : g i ≤ g j := by
        have fits := less j found
        omega
      obtain equal | larger := Nat.eq_or_lt_of_le above
      · obtain rfl := inj i j inside (part j found) equal
        exact ⟨found, value.symm⟩
      · have top := most j (part j found)
        have own := (ih (bound - g j) (by omega) j rfl (part j found)).2
        omega

section Canvases

variable {canvas : Canvas} {left top width height : UInt64}

theorem mapM_some {α β : Type} {f : α → Option β} {g : α → β} {l : List α}
    (each : ∀ a ∈ l, f a = some (g a)) : l.mapM f = some (l.map g) := by
  induction l with
  | nil => rfl
  | cons a rest ih =>
      rw [List.mapM_cons, each a List.mem_cons_self,
        ih fun b member => each b (List.mem_cons_of_mem _ member)]
      rfl

/-- Where `putpixel0` writes, by the bytes of a pixel. -/
def written (canvas : Canvas) (bytes : Nat) (p : Nat × Nat) : Int :=
  int32 (bytes * (canvas.deviceWidth.toNat % 65536) * (p.2 % 65536) + bytes * (p.1 % 65536) : Nat)

theorem puts_dcLine {bytes x1 y x2 : Nat} (known : bytesCount canvas.bpp = some bytes) :
    Puts (dcDrawHorizontalLine canvas x1 y x2) fun o => ∃ px, x1 ≤ px ∧ px < x2 ∧
      o = written canvas bytes (px, y) := by
  unfold dcDrawHorizontalLine
  by_cases empty : x1 > x2
  · rw [if_pos empty]
    exact puts_nothing fun o ⟨px, first, last, _⟩ => by omega
  · have pixel : ∀ i ∈ List.range (x2 - x1), putpixel0 canvas (x1 + i) y =
        some (written canvas bytes (x1 + i, y)) := by
      intro i _
      rw [putpixel0, known]
      rfl
    rw [if_neg empty, mapM_some pixel]
    refine ⟨_, rfl, fun o => ?_⟩
    rw [List.mem_map]
    constructor
    · rintro ⟨i, member, value⟩
      have inside := List.mem_range.mp member
      exact ⟨x1 + i, by omega, by omega, value.symm⟩
    · rintro ⟨px, first, last, value⟩
      refine ⟨px - x1, List.mem_range.mpr (by omega), ?_⟩
      rw [value, Nat.add_sub_cancel' first]

theorem final_toNat {size extent start : UInt64} (inside : start < extent) :
    (if size > extent - start then extent - start else size).toNat =
      min (start.toNat + size.toNat) extent.toNat - start.toNat := by
  have space : (extent - start).toNat = extent.toNat - start.toNat :=
    UInt64.toNat_sub_of_le extent start (UInt64.le_of_lt inside)
  have room := UInt64.lt_iff_toNat_lt.mp inside
  split
  · rename_i more
    have longer := UInt64.lt_iff_toNat_lt.mp more
    omega
  · rename_i fits
    have shorter := UInt64.le_iff_toNat_le.mp (UInt64.not_lt.mp fits)
    omega

theorem dcDrawRectangle0_empty
    (empty : rightOf canvas left width ≤ left.toNat ∨ bottomOf canvas top height ≤ top.toNat) :
    dcDrawRectangle0 canvas left top width height = some [] := by
  unfold dcDrawRectangle0
  by_cases behind : left ≥ canvas.deviceWidth
  · rw [if_pos behind]
  · rw [if_neg behind]
    by_cases below : top ≥ canvas.deviceHeight
    · rw [if_pos below]
    · rw [if_neg below]
      dsimp only
      have wide := @final_toNat width _ _ (UInt64.not_le.mp behind)
      have tall := @final_toNat height _ _ (UInt64.not_le.mp below)
      generalize (if width > canvas.deviceWidth - left then canvas.deviceWidth - left
        else width) = finalWidth at wide ⊢
      generalize (if height > canvas.deviceHeight - top then canvas.deviceHeight - top
        else height) = finalHeight at tall ⊢
      obtain narrow | flat := empty
      · have zero : finalWidth = 0 := UInt64.toNat_inj.mp
          (by rw [wide]; exact Nat.sub_eq_zero_of_le narrow)
        rw [if_pos zero]
      · have zero : finalHeight = 0 := UInt64.toNat_inj.mp
          (by rw [tall]; exact Nat.sub_eq_zero_of_le flat)
        rw [if_pos zero]
        split
        · rfl
        · rfl

theorem dcDrawRectangle0_eq (wide : left.toNat < rightOf canvas left width)
    (tall : top.toNat < bottomOf canvas top height) :
    dcDrawRectangle0 canvas left top width height =
      ((List.range (int32 (bottomOf canvas top height - top.toNat : Nat)).toNat).mapM fun i =>
        dcDrawHorizontalLine canvas left.toNat (top.toNat + i)
          (rightOf canvas left width)).map List.flatten := by
  have onX : left < canvas.deviceWidth :=
    UInt64.lt_iff_toNat_lt.mpr (Nat.lt_of_lt_of_le wide (Nat.min_le_right _ _))
  have onY : top < canvas.deviceHeight :=
    UInt64.lt_iff_toNat_lt.mpr (Nat.lt_of_lt_of_le tall (Nat.min_le_right _ _))
  have finalWidth := @final_toNat width _ _ onX
  have finalHeight := @final_toNat height _ _ onY
  have room := canvas.deviceWidth.toNat_lt
  unfold dcDrawRectangle0
  rw [if_neg (UInt64.not_le.mpr onX), if_neg (UInt64.not_le.mpr onY)]
  dsimp only
  generalize (if width > canvas.deviceWidth - left then canvas.deviceWidth - left
    else width) = w at finalWidth ⊢
  generalize (if height > canvas.deviceHeight - top then canvas.deviceHeight - top
    else height) = h at finalHeight ⊢
  change w.toNat = rightOf canvas left width - left.toNat at finalWidth
  change h.toNat = bottomOf canvas top height - top.toNat at finalHeight
  have someWidth : w ≠ 0 := fun zero => by
    rw [zero] at finalWidth
    change 0 = _ at finalWidth
    omega
  have someHeight : h ≠ 0 := fun zero => by
    rw [zero] at finalHeight
    change 0 = _ at finalHeight
    omega
  have within : rightOf canvas left width ≤ canvas.deviceWidth.toNat := Nat.min_le_right _ _
  have right : (left + w).toNat = rightOf canvas left width := by
    rw [UInt64.toNat_add, finalWidth, Nat.add_sub_cancel' (Nat.le_of_lt wide),
      Nat.mod_eq_of_lt (Nat.lt_of_le_of_lt within room)]
  have fits : ¬left + w > canvas.deviceWidth := by
    rw [gt_iff_lt, UInt64.lt_iff_toNat_lt, right]
    exact Nat.not_lt_of_le within
  rw [if_neg someWidth, if_neg someHeight, if_neg fits, finalHeight, right]

/-- The pixels of the rectangle that are on the canvas. -/
def OnCanvas (canvas : Canvas) (left top width height : UInt64) (p : Nat × Nat) : Prop :=
  (left.toNat ≤ p.1 ∧ p.1 < rightOf canvas left width) ∧
    top.toNat ≤ p.2 ∧ p.2 < bottomOf canvas top height

def place (canvas : Canvas) (p : Nat × Nat) : Nat :=
  canvas.bpp / 8 * (canvas.deviceWidth.toNat * p.2 + p.1)

theorem drawsCanvas_iff {drawn : Option (List Int)} :
    DrawsCanvas canvas left top width height drawn ↔
      Puts drawn fun o => ∃ p, OnCanvas canvas left top width height p ∧ o = place canvas p := by
  have pixels : ∀ px py, OnCanvas canvas left top width height (px, py) ↔
      (left.toNat ≤ px ∧ px < left.toNat + width.toNat ∧ px < canvas.deviceWidth.toNat) ∧
        top.toNat ≤ py ∧ py < top.toNat + height.toNat ∧ py < canvas.deviceHeight.toNat := by
    intro px py
    simp only [OnCanvas, rightOf, bottomOf, Nat.lt_min]
  constructor
  · intro draws
    refine Puts.congr draws fun o => ⟨?_, ?_⟩
    · rintro ⟨px, py, onX, onY, value⟩
      exact ⟨(px, py), (pixels px py).mpr ⟨onX, onY⟩, value⟩
    · rintro ⟨⟨px, py⟩, inside, value⟩
      obtain ⟨onX, onY⟩ := (pixels px py).mp inside
      exact ⟨px, py, onX, onY, value⟩
  · intro puts
    refine Puts.congr puts fun o => ⟨?_, ?_⟩
    · rintro ⟨⟨px, py⟩, inside, value⟩
      obtain ⟨onX, onY⟩ := (pixels px py).mp inside
      exact ⟨px, py, onX, onY, value⟩
    · rintro ⟨px, py, onX, onY, value⟩
      exact ⟨(px, py), (pixels px py).mpr ⟨onX, onY⟩, value⟩

/-- Where the pixels have bytes, as many lines are written as an int can count. -/
theorem puts_dcDrawRectangle0 {bytes : Nat} (known : bytesCount canvas.bpp = some bytes)
    (wide : left.toNat < rightOf canvas left width)
    (tall : top.toNat < bottomOf canvas top height) :
    Puts (dcDrawRectangle0 canvas left top width height) fun o => ∃ p : Nat × Nat,
      ((left.toNat ≤ p.1 ∧ p.1 < rightOf canvas left width) ∧ top.toNat ≤ p.2 ∧
        p.2 < top.toNat + (int32 (bottomOf canvas top height - top.toNat : Nat)).toNat) ∧
          o = written canvas bytes p := by
  rw [dcDrawRectangle0_eq wide tall]
  refine (puts_mapM fun i _ => @puts_dcLine canvas bytes _ (top.toNat + i) _ known).congr
    fun o => ⟨?_, ?_⟩
  · rintro ⟨i, member, px, first, last, value⟩
    have row := List.mem_range.mp member
    exact ⟨(px, top.toNat + i), ⟨⟨first, last⟩, Nat.le_add_right _ _, by omega⟩, value⟩
  · rintro ⟨⟨px, py⟩, ⟨⟨first, last⟩, above, below⟩, value⟩
    refine ⟨py - top.toNat, List.mem_range.mpr (by omega), px, first, last, ?_⟩
    rw [Nat.add_sub_cancel' above]
    exact value

theorem written_le {bytes : Nat} (p : Nat × Nat) :
    written canvas bytes p ≤ (bytes * (canvas.deviceWidth.toNat * p.2 + p.1) : Nat) := by
  refine Int.le_trans (int32_le _) (Int.ofNat_le.mpr ?_)
  rw [Nat.mul_assoc, ← Nat.mul_add]
  exact Nat.mul_le_mul_left bytes (Nat.add_le_add (Nat.mul_le_mul (Nat.mod_le _ _) (Nat.mod_le _ _))
    (Nat.mod_le _ _))

/-- A pixel is written at its place exactly where nothing is cut to 16 bits, or there is only
    the first row, and the place is an int. -/
theorem written_iff {bytes : Nat} {p : Nat × Nat} (some : 0 < bytes)
    (wide : p.1 < canvas.deviceWidth.toNat) :
    written canvas bytes p = (bytes * (canvas.deviceWidth.toNat * p.2 + p.1) : Nat) ↔
      p.1 < 65536 ∧ (p.2 = 0 ∨ canvas.deviceWidth.toNat < 65536 ∧ p.2 < 65536) ∧
        bytes * (canvas.deviceWidth.toNat * p.2 + p.1) < 2 ^ 31 := by
  have product : (canvas.deviceWidth.toNat % 65536) * (p.2 % 65536) ≤
      canvas.deviceWidth.toNat * p.2 := Nat.mul_le_mul (Nat.mod_le _ _) (Nat.mod_le _ _)
  have inner : bytes * ((canvas.deviceWidth.toNat % 65536) * (p.2 % 65536) + p.1 % 65536) ≤
      bytes * (canvas.deviceWidth.toNat * p.2 + p.1) :=
    Nat.mul_le_mul_left bytes (Nat.add_le_add product (Nat.mod_le _ _))
  unfold written
  rw [Nat.mul_assoc, ← Nat.mul_add]
  constructor
  · intro same
    have low := lt_of_int32_eq same
    rw [int32_of_lt (Nat.lt_of_le_of_lt inner low), Int.natCast_inj] at same
    have equal := Nat.eq_of_mul_eq_mul_left some same
    have column : p.1 % 65536 = p.1 := Nat.le_antisymm (Nat.mod_le _ _) (by omega)
    rw [column] at equal
    have rows := Nat.add_right_cancel equal
    refine ⟨column ▸ Nat.mod_lt _ (by decide), ?_, low⟩
    obtain zero | more := Nat.eq_zero_or_pos p.2
    · exact .inl zero
    · -- Neither factor can have been cut.
      have width : canvas.deviceWidth.toNat % 65536 = canvas.deviceWidth.toNat := by
        refine Nat.le_antisymm (Nat.mod_le _ _) (Nat.le_of_not_lt fun cut => ?_)
        have smaller := Nat.mul_lt_mul_of_lt_of_le cut (Nat.mod_le p.2 65536) more
        exact absurd rows (Nat.ne_of_lt smaller)
      rw [width] at rows
      have row := Nat.eq_of_mul_eq_mul_left (Nat.zero_lt_of_lt wide) rows
      exact .inr ⟨width ▸ Nat.mod_lt _ (by decide), row ▸ Nat.mod_lt _ (by decide)⟩
  · rintro ⟨column, rows, low⟩
    have whole : (canvas.deviceWidth.toNat % 65536) * (p.2 % 65536) =
        canvas.deviceWidth.toNat * p.2 := by
      obtain zero | ⟨width, row⟩ := rows
      · rw [zero, Nat.zero_mod, Nat.mul_zero, Nat.mul_zero]
      · rw [Nat.mod_eq_of_lt width, Nat.mod_eq_of_lt row]
    rw [whole, Nat.mod_eq_of_lt column, int32_of_lt low]

theorem bytesCount_eq (canvas : Canvas) :
    ((canvas.bpp = 32 ∨ canvas.bpp = 24) ∧ bytesCount canvas.bpp = some (canvas.bpp / 8)) ∨
      (¬(canvas.bpp = 32 ∨ canvas.bpp = 24) ∧ bytesCount canvas.bpp = none) := by
  unfold bytesCount
  by_cases four : canvas.bpp = 32
  · rw [if_pos four, four]
    exact .inl ⟨.inl rfl, rfl⟩
  · rw [if_neg four]
    by_cases three : canvas.bpp = 24
    · rw [if_pos three, three]
      exact .inl ⟨.inr rfl, rfl⟩
    · rw [if_neg three]
      exact .inr ⟨not_or.mpr ⟨four, three⟩, rfl⟩

theorem place_le {p : Nat × Nat} (inside : OnCanvas canvas left top width height p) :
    place canvas p ≤
      place canvas (rightOf canvas left width - 1, bottomOf canvas top height - 1) := by
  obtain ⟨⟨-, column⟩, -, row⟩ := inside
  exact Nat.mul_le_mul_left _ (Nat.add_le_add
    (Nat.mul_le_mul_left _ (Nat.le_sub_one_of_lt row)) (Nat.le_sub_one_of_lt column))

theorem canvas_iff :
    DrawsCanvas canvas left top width height (dcDrawRectangle0 canvas left top width height) ↔
      CanvasFits canvas left top width height := by
  rw [drawsCanvas_iff]
  by_cases empty : rightOf canvas left width ≤ left.toNat ∨ bottomOf canvas top height ≤ top.toNat
  · rw [dcDrawRectangle0_empty empty]
    refine iff_of_true (puts_nothing ?_) (empty.imp_right .inl)
    rintro o ⟨p, ⟨⟨first, last⟩, above, below⟩, -⟩
    omega
  · obtain ⟨wide, tall⟩ := not_or.mp empty |>.imp Nat.lt_of_not_le Nat.lt_of_not_le
    have onCanvas : rightOf canvas left width ≤ canvas.deviceWidth.toNat := Nat.min_le_right _ _
    have last : OnCanvas canvas left top width height
        (rightOf canvas left width - 1, bottomOf canvas top height - 1) := by
      simp only [OnCanvas]
      omega
    obtain ⟨depth, known⟩ | ⟨depth, exits⟩ := bytesCount_eq canvas
    · have some : 0 < canvas.bpp / 8 := by
        obtain four | three := depth
        · rw [four]
          decide
        · rw [three]
          decide
      have puts := puts_dcDrawRectangle0 known wide tall
      constructor
      · intro draws
        have exact := eq_of_same_values (g := place canvas)
          (fun p inside => place_le inside) (fun p _ => written_le p) ?_ ?_
          (fun o => puts.unique draws o) _ last
        · obtain ⟨column, rows, low⟩ := (written_iff some (by
            change rightOf canvas left width - 1 < _
            omega)).mp exact.2
          refine .inr (.inr ⟨depth, Nat.le_of_pred_lt column, ?_, low⟩)
          obtain zero | ⟨narrow, row⟩ := rows
          · exact .inl (Nat.le_antisymm (Nat.sub_eq_zero_iff_le.mp zero) (Nat.zero_lt_of_lt tall))
          · exact .inr ⟨narrow, Nat.le_of_pred_lt row⟩
        · rintro p ⟨inside, above, below⟩
          have lines := Nat.add_le_add_left
            (Int.toNat_le.mpr (int32_le (bottomOf canvas top height - top.toNat))) top.toNat
          rw [Nat.add_sub_cancel' (Nat.le_of_lt tall)] at lines
          exact ⟨inside, above, Nat.lt_of_lt_of_le below lines⟩
        · rintro ⟨px, py⟩ ⟨px', py'⟩ ⟨⟨-, inside⟩, -⟩ ⟨⟨-, inside'⟩, -⟩ same
          obtain ⟨rfl, rfl⟩ := place_inj some (Nat.lt_of_lt_of_le inside onCanvas)
            (Nat.lt_of_lt_of_le inside' onCanvas) same
          rfl
      · rintro (narrow | flat | ⟨-, columns, rows, low⟩)
        · exact absurd (.inl narrow) empty
        · exact absurd (.inr flat) empty
        · have count : int32 (bottomOf canvas top height - top.toNat : Nat) =
              (bottomOf canvas top height - top.toNat : Nat) := int32_of_lt (by omega)
          have lines : top.toNat + (int32 (bottomOf canvas top height - top.toNat : Nat)).toNat =
              bottomOf canvas top height := by
            rw [count, Int.toNat_natCast]
            omega
          rw [lines] at puts
          have exact : ∀ p, OnCanvas canvas left top width height p →
              written canvas (canvas.bpp / 8) p = place canvas p := by
            intro p inside
            refine (written_iff some (Nat.lt_of_lt_of_le inside.1.2 onCanvas)).mpr
              ⟨Nat.lt_of_lt_of_le inside.1.2 columns, ?_, Nat.lt_of_le_of_lt (place_le inside) low⟩
            obtain one | ⟨narrow, few⟩ := rows
            · exact .inl (Nat.lt_one_iff.mp (one ▸ inside.2.2))
            · exact .inr ⟨narrow, Nat.lt_of_lt_of_le inside.2.2 few⟩
          refine puts.congr fun o => ⟨?_, ?_⟩
          · rintro ⟨p, inside, value⟩
            exact ⟨p, inside, value.trans (exact p inside)⟩
          · rintro ⟨p, inside, value⟩
            exact ⟨p, inside, value.trans (exact p inside).symm⟩
    · refine iff_of_false ?_ ?_
      · intro draws
        rw [dcDrawRectangle0_eq wide tall] at draws
        -- Either there is a line, whose first pixel ends the server, or there is none.
        cases lines : (int32 (bottomOf canvas top height - top.toNat : Nat)).toNat with
        | zero =>
            rw [lines] at draws
            have members := draws.unique (puts_nothing fun _ => not_false)
            exact (members _).mp ⟨_, last, rfl⟩
        | succ more =>
            have pixel : putpixel0 canvas (left.toNat + 0) (top.toNat + 0) = none := by
              rw [putpixel0, exits]
              rfl
            have line : dcDrawHorizontalLine canvas left.toNat (top.toNat + 0)
                (rightOf canvas left width) = none := by
              rw [dcDrawHorizontalLine, if_neg (by omega)]
              exact mapM_none (List.mem_range.mpr (by omega)) pixel
            rw [lines, mapM_none (List.mem_range.mpr (Nat.succ_pos more)) line] at draws
            exact not_puts_none draws
      · rintro (narrow | flat | ⟨fits, -⟩)
        · exact empty (.inl narrow)
        · exact empty (.inr flat)
        · exact depth fits

end Canvases

/-- The three ways to draw, each right where its rectangle fits; the one inside a window only
    there, on a screen whose lines are at most 32 KB. -/
theorem drawing_iff (screen : Screen) (window : Window) (canvas : Canvas)
    (x y width height : UInt64) :
    ((InsideFits screen window x y width height → InsideOnly screen window x y width height
        (rectBackbufferDrawRectangleInsideWindow screen window x y width height)) ∧
      (InsideOnly screen window x y width height
          (rectBackbufferDrawRectangleInsideWindow screen window x y width height) →
        InsideFits screen window x y width height ∨ 2 ^ 15 < screen.bytes * screen.width)) ∧
    (DrawsCanvas canvas x y width height (dcDrawRectangle0 canvas x y width height) ↔
      CanvasFits canvas x y width height) ∧
    (DrawsClipped screen (rect x y width height)
          (rectBackbufferDrawRectangle0 screen x y width height true) ∧
        DrawsClipped screen (rect x y width height)
          (rectBackbufferDrawRectangle0 screen x y width height false) ↔
      DrawFits screen (kernelRect screen x y width height) ∧
        RingFits screen (rect x y width height)) := by
  refine ⟨⟨insideOnly_of_fits, fun only => ?_⟩, canvas_iff, ?_⟩
  · by_cases narrow : screen.bytes * screen.width ≤ 2 ^ 15
    · exact .inl (fits_of_insideOnly narrow only)
    · exact .inr (Nat.lt_of_not_le narrow)
  · rw [kernel_iff, ring_iff]

/-- In the last column of the screen the server itself draws nothing, and behind the right
    border of a client area of 100 columns a rectangle is drawn as if there were none. -/
theorem last_column_left_out : ∃ screen : Screen,
    (∃ x y width height, ¬DrawsClipped screen (rect x y width height)
      (rectBackbufferDrawRectangle0 screen x y width height false)) ∧
    ∃ window x y width height, ¬InsideOnly screen window x y width height
      (rectBackbufferDrawRectangleInsideWindow screen window x y width height) := by
  refine ⟨⟨800, 600, 4, by decide, by decide, .inr rfl⟩, ⟨799, 0, 1, 1, ?_⟩,
    ⟨10, 10, ⟨0, 30, 100, 50⟩⟩, 101, 0, 20, 20, fun only => ?_⟩
  · rw [ring_iff]
    unfold RingFits
    decide
  · obtain nothing | ⟨start, -⟩ := fits_of_insideOnly (by decide) only
    · unfold Nothing at nothing
      exact absurd nothing (by decide)
    · exact absurd start.1 (by decide)

end Gramado.Winsys.Drawing
