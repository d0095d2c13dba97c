/-
Rectangles of the kernel (rect.c, line.c, and putpixel of bldisp.c): which pixels
__drawrectangle0 paints and which bytes __refresh_rectangle0 copies. The rows are clipped
one row too low and capped at 768; the painter paints its first row before it looks, and
the copier does not clip its columns.
-/
import Mathlib.Data.List.Basic
import Mathlib.Data.Nat.Basic
import Mathlib.Logic.Basic
import Mathlib.Tactic.Ring

namespace Gramado.Gre.Rectangles

/-- The screen, of sizes below 2^16, with the bytes of a pixel. -/
structure Screen where
  width : Nat
  height : Nat
  bytes : Nat
  width_lt : width < 65536
  height_lt : height < 65536
  bytes_eq : bytes = 3 ∨ bytes = 4

inductive Buffer where
  | back
  | front

/-- The number that a painter returns, and where it has put pixels. -/
structure Painted where
  buffer : Buffer
  npixels : Int
  offsets : List Int

def low16 (n : UInt64) : Nat :=
  n.toNat % 65536

def int32 (n : Int) : Int :=
  n.bmod (2 ^ 32)

section Painting

variable (screen : Screen)

/-- The offset at which `bldisp_putpixel0` writes. -/
def putpixel (x y : Nat) : Int :=
  int32 (screen.bytes * screen.width * (y % 65536) + screen.bytes * (x % 65536) : Nat)

def drawHorizontalLine (x1 y x2 : Nat) : Int × List Int :=
  if x1 > x2 then
    (0, [])
  else
    (int32 (x2 - x1 : Nat), (List.range (x2 - x1)).map fun i => putpixel screen (x1 + i) y)

/-- `internal_height--`. -/
def previous (height : Nat) : Nat :=
  if height = 0 then 2 ^ 64 - 1 else height - 1

/-- The loop of the painter. It ends behind the bottom, so that `fuel` of more lines than
    these is never used up. -/
def paintLines (left right bottom : Nat) : Nat → Nat → Nat → Int × List Int → Int × List Int
  | 0, _, _, done => done
  | fuel + 1, y, height, done =>
      let line := drawHorizontalLine screen left y right
      let done := (int32 (done.1 + line.1), done.2 ++ line.2)
      if y + 1 > bottom then
        done
      else if previous height = 0 then
        done
      else
        paintLines left right bottom fuel (y + 1) (previous height) done

def drawrectangle0 (x y width height : UInt64) (backOrFront : Buffer) : Painted :=
  if screen.width = 0 ∨ screen.height = 0 then
    ⟨backOrFront, 0, []⟩
  else
    let left := low16 x
    let right := if left + low16 width > screen.width then screen.width else left + low16 width
    let internalHeight := if low16 height > 768 then 768 else low16 height
    if right = left then
      ⟨backOrFront, 0, []⟩
    else
      let out := paintLines screen left right screen.height (screen.height + 1) (low16 y)
        internalHeight (0, [])
      ⟨backOrFront, out.1, out.2⟩

def backbufferDrawRectangle (x y width height : UInt64) : Painted :=
  drawrectangle0 screen x y width height .back

def frontbufferDrawRectangle (x y width height : UInt64) : Painted :=
  drawrectangle0 screen x y width height .front

/-- `memcpy64`, `memcpy32` or `memcpy`, by the size of what they move: the offsets of the
    bytes. -/
def memcpyUnits (size offset count : Nat) : List Nat :=
  (List.range count).flatMap fun i => (List.range size).map fun j => offset + size * i + j

def copyLines (size count firstLine offset : Nat) : Nat → Nat → List Nat
  | 0, _ => []
  | lines + 1, i =>
      if firstLine + i > screen.height then
        []
      else
        memcpyUnits size (offset + screen.bytes * screen.width * i) count ++
          copyLines size count firstLine offset lines (i + 1)

/-- The bytes that are copied, at the same offset of either buffer; none for the panic about
    an empty screen. The buffers are not at the same address. -/
def refreshRectangle (x y width height : UInt64) : Option (List Nat) :=
  if screen.width = 0 ∨ screen.height = 0 then
    none
  else if low16 width = 0 then
    some []
  else if low16 height = 0 then
    some []
  else
    let screenPitch := screen.bytes * screen.width
    let rectanglePitch := screen.bytes * low16 width
    let offset := (low16 y * screenPitch + low16 x * screen.bytes) % 2 ^ 32
    let lines := if low16 height > 768 then 768 else low16 height
    if rectanglePitch % 8 = 0 then
      some (copyLines screen 8 (rectanglePitch / 8) (low16 y) offset lines 0)
    else if rectanglePitch % 4 = 0 then
      some (copyLines screen 4 (rectanglePitch / 4) (low16 y) offset lines 0)
    else
      some (copyLines screen 1 rectanglePitch (low16 y) offset lines 0)

end Painting

/-- A rectangle by the low 16 bits of its numbers. -/
structure Rect where
  left : Nat
  top : Nat
  width : Nat
  height : Nat

def rect (x y width height : UInt64) : Rect :=
  ⟨low16 x, low16 y, low16 width, low16 height⟩

section Painted

variable (screen : Screen) (r : Rect)

/-- The pixels of the rectangle that are on the screen. -/
def Visible (px py : Nat) : Prop :=
  (r.left ≤ px ∧ px < r.left + r.width ∧ px < screen.width) ∧
    r.top ≤ py ∧ py < r.top + r.height ∧ py < screen.height

def columns : Nat :=
  min r.width (screen.width - r.left)

def rows : Nat :=
  min r.height (screen.height - r.top)

/-- Where a pixel is in a buffer. -/
def address (px py : Nat) : Nat :=
  screen.bytes * (screen.width * py + px)

/-- The painter puts exactly the pixels of the rectangle that are on the screen, and says
    how many. -/
def Draws (painted : Painted) : Prop :=
  (∀ o, o ∈ painted.offsets ↔ ∃ px py, Visible screen r px py ∧ o = address screen px py) ∧
    painted.npixels = columns screen r * rows screen r

/-- The copier copies exactly the bytes of these pixels. -/
def Refreshes (copied : Option (List Nat)) : Prop :=
  ∃ offsets, copied = some offsets ∧ ∀ o, o ∈ offsets ↔
    ∃ px py c, Visible screen r px py ∧ c < screen.bytes ∧ o = address screen px py + c

/-- No row is missed by the cap of 768 and none is added below the screen. -/
def RowsFit : Prop :=
  r.height ≤ 768 ∧ r.top + r.height ≤ screen.height ∨
    768 < r.height ∧ screen.height = r.top + 768

/-- There is nothing to draw, or there are rows on the screen that fit, below 2 GB. -/
def DrawFits : Prop :=
  screen.height = 0 ∨ r.width = 0 ∨ screen.width ≤ r.left ∨
    (r.height ≠ 0 ∧ r.top < screen.height ∧ RowsFit screen r ∧
      screen.bytes * (screen.width * (r.top + rows screen r - 1) +
        (r.left + columns screen r - 1)) < 2 ^ 31)

/-- There is a screen, and either nothing to copy or a rectangle that begins on it below 4 GB
    and does not leave it: but whole lines make up for those that the cap leaves out. -/
def RefreshFits : Prop :=
  (screen.width ≠ 0 ∧ screen.height ≠ 0) ∧
    (r.width = 0 ∨ r.height = 0 ∨ screen.height < r.top ∨
      (r.left < screen.width ∧ r.top < screen.height ∧
        screen.bytes * (screen.width * r.top + r.left) < 2 ^ 32 ∧
        (r.left + r.width ≤ screen.width ∧ RowsFit screen r ∨
          r.left = 0 ∧ 768 < rows screen r ∧
            r.width = (rows screen r - 767) * screen.width ∧ screen.width < r.width)))

end Painted

section Painter

variable {screen : Screen}

/-- How many lines the painter paints. -/
def painted (bottom y height : Nat) : Nat :=
  min (if height = 0 then 2 ^ 64 else height) (max 1 (bottom + 1 - y))

theorem painted_last {bottom y height : Nat} (last : y + 1 > bottom ∨ previous height = 0)
    (low : bottom < 2 ^ 63) : painted bottom y height = 1 := by
  unfold previous at last
  unfold painted
  split
  · rename_i zero
    rw [if_pos zero] at last
    omega
  · rename_i some
    rw [if_neg some] at last
    omega

theorem painted_next {bottom y height : Nat} (goes : ¬y + 1 > bottom) (more : previous height ≠ 0)
    (low : bottom < 2 ^ 63) :
    painted bottom y height = painted bottom (y + 1) (previous height) + 1 := by
  unfold painted
  rw [if_neg more]
  unfold previous at more ⊢
  split
  · omega
  · rename_i some
    rw [if_neg some] at more
    omega

theorem int32_add (a b : Int) : int32 (int32 a + b) = int32 (a + b) := by
  simp [int32]

/-- The lines one below the other, with a number of pixels that wraps. -/
theorem paintLines_eq {left right bottom : Nat} (low : bottom < 2 ^ 63) {fuel y : Nat}
    (enough : bottom < y + fuel) (some : 0 < fuel) (height : Nat) (done : Int × List Int) :
    paintLines screen left right bottom fuel y height done =
      (int32 (done.1 + (painted bottom y height * (right - left) : Nat)),
        done.2 ++ (List.range (painted bottom y height)).flatMap fun i =>
          (drawHorizontalLine screen left (y + i) right).2) := by
  induction fuel generalizing y height done with
  | zero => omega
  | succ fuel ih =>
      have count : int32 (done.1 + (drawHorizontalLine screen left y right).1) =
          int32 (done.1 + (right - left : Nat)) := by
        rw [drawHorizontalLine]
        split
        · rename_i empty
          rw [Nat.sub_eq_zero_of_le (Nat.le_of_lt empty)]
          rfl
        · rw [Int.add_comm, int32_add, Int.add_comm]
      simp only [paintLines]
      by_cases last : y + 1 > bottom ∨ previous height = 0
      · have ended : ∀ a b : Int × List Int,
            (if y + 1 > bottom then a else if previous height = 0 then a else b) = a := by
          intro a b
          split
          · rfl
          · rename_i goes
            exact if_pos (last.resolve_left goes)
        rw [ended, painted_last last low, count]
        simp
      · obtain ⟨goes, more⟩ := not_or.mp last
        rw [if_neg goes, if_neg more, ih (by omega) (by omega), painted_next goes more low, count]
        refine Prod.ext ?_ ?_
        · simp only [int32_add]
          congr 1
          push_cast
          ring
        · simp only [List.range_succ_eq_map, List.flatMap_cons, List.flatMap_map, List.append_assoc,
            Nat.add_zero, Nat.succ_eq_add_one, Nat.add_assoc, Nat.add_comm 1]

theorem mem_drawHorizontalLine {x1 y x2 : Nat} {o : Int} :
    o ∈ (drawHorizontalLine screen x1 y x2).2 ↔ ∃ x, x1 ≤ x ∧ x < x2 ∧ o = putpixel screen x y := by
  rw [drawHorizontalLine]
  split
  · rename_i empty
    simp only [List.not_mem_nil, false_iff, not_exists]
    omega
  · simp only [List.mem_map, List.mem_range]
    constructor
    · rintro ⟨i, inside, rfl⟩
      exact ⟨x1 + i, by omega, by omega, rfl⟩
    · rintro ⟨x, first, last, same⟩
      have back : x1 + (x - x1) = x := Nat.add_sub_cancel' first
      exact ⟨x - x1, Nat.sub_lt_sub_right first last, by rw [same, back]⟩

end Painter

section Addresses

variable {screen : Screen}

theorem bytes_pos (screen : Screen) : 0 < screen.bytes :=
  screen.bytes_eq.elim (fun three => three ▸ by decide) fun four => four ▸ by decide

theorem address_lt {x x' y y' : Nat} (inside : x < screen.width) (above : y < y') :
    address screen x y < address screen x' y' := by
  have row : screen.width * y + screen.width ≤ screen.width * y' :=
    Nat.mul_le_mul_left screen.width above
  exact Nat.mul_lt_mul_of_pos_left (by omega) (bytes_pos screen)

theorem address_le {x x' y y' : Nat} (left : x ≤ x') (above : y ≤ y') :
    address screen x y ≤ address screen x' y' := by
  have row := Nat.mul_le_mul_left screen.width above
  exact Nat.mul_le_mul_left screen.bytes (by omega)

theorem place_inj {unit w x x' y y' : Nat} (some : 0 < unit) (inside : x < w) (inside' : x' < w)
    (same : unit * (w * y + x) = unit * (w * y' + x')) : x = x' ∧ y = y' := by
  have row := Nat.eq_of_mul_eq_mul_left some same
  have column : x = x' := by
    rw [← Nat.mod_eq_of_lt inside, ← Nat.mul_add_mod w y x, row, Nat.mul_add_mod,
      Nat.mod_eq_of_lt inside']
  rw [column] at row
  exact ⟨column, Nat.eq_of_mul_eq_mul_left (Nat.zero_lt_of_lt inside) (Nat.add_right_cancel row)⟩

theorem address_inj {x x' y y' : Nat} (inside : x < screen.width) (inside' : x' < screen.width)
    (same : address screen x y = address screen x' y') : x = x' ∧ y = y' :=
  place_inj (bytes_pos screen) inside inside' same

theorem address_succ (screen : Screen) (x y : Nat) :
    address screen x (y + 1) = address screen x y + screen.bytes * screen.width := by
  simp only [address]
  ring

theorem pitch_lt (screen : Screen) : screen.bytes * screen.width < 2 ^ 18 := by
  have width := screen.width_lt
  obtain three | four := screen.bytes_eq
  · rw [three]
    omega
  · rw [four]
    omega

theorem putpixel_eq {x y : Nat} (column : x < 65536) (row : y < 65536) :
    putpixel screen x y = int32 (address screen x y : Nat) := by
  rw [putpixel, Nat.mod_eq_of_lt column, Nat.mod_eq_of_lt row]
  congr 2
  simp only [address]
  ring

theorem int32_of_lt {n : Nat} (small : n < 2 ^ 31) : int32 n = n := by
  rw [int32, Int.bmod_def]
  omega

theorem int32_le (n : Nat) : int32 n ≤ n := by
  rw [int32, Int.bmod_def]
  omega

theorem int32_lt (n : Int) : int32 n < 2 ^ 31 := by
  rw [int32, Int.bmod_def]
  omega

theorem lt_of_int32_eq {n : Int} {o : Nat} (same : int32 n = o) : o < 2 ^ 31 := by
  have bound := int32_lt n
  rw [same] at bound
  exact_mod_cast bound

theorem int32_eq_natCast {n o : Nat} (small : n < 2 ^ 32) (same : int32 n = o) : n = o := by
  rw [int32, Int.bmod_def] at same
  omega

end Addresses

section Drawing

variable {screen : Screen} {x y width height : UInt64}

theorem low16_lt (n : UInt64) : low16 n < 65536 :=
  Nat.mod_lt _ (by decide)

theorem drawrectangle0_buffer (buffer : Buffer) :
    (drawrectangle0 screen x y width height buffer).buffer = buffer := by
  unfold drawrectangle0
  split
  · rfl
  · dsimp only
    split
    · split
      · rfl
      · rfl
    · split
      · rfl
      · rfl

theorem drawrectangle0_empty (buffer : Buffer)
    (empty : screen.height = 0 ∨ low16 width = 0 ∨ screen.width ≤ low16 x) :
    drawrectangle0 screen x y width height buffer = ⟨buffer, 0, []⟩ := by
  unfold drawrectangle0
  split
  · rfl
  · rename_i screened
    obtain ⟨-, high⟩ := not_or.mp screened
    have behind : (if low16 x + low16 width > screen.width then screen.width
        else low16 x + low16 width) ≤ low16 x := by
      split
      · omega
      · omega
    dsimp only
    generalize (if low16 x + low16 width > screen.width then screen.width
      else low16 x + low16 width) = right at behind ⊢
    split
    · rfl
    · have low : screen.height < 2 ^ 63 := Nat.lt_trans screen.height_lt (by decide)
      have lines : ∀ i, (drawHorizontalLine screen (low16 x) (low16 y + i) right).2 = [] := by
        intro i
        refine List.eq_nil_iff_forall_not_mem.mpr fun o member => ?_
        obtain ⟨px, first, last, -⟩ := mem_drawHorizontalLine.mp member
        omega
      rw [paintLines_eq low (by omega) (by omega), Nat.sub_eq_zero_of_le behind]
      simp [lines, int32]

/-- The lines that are painted where there are columns. -/
def linesOf (screen : Screen) (r : Rect) : Nat :=
  painted screen.height r.top (if r.height > 768 then 768 else r.height)

theorem drawrectangle0_columns (buffer : Buffer) (high : screen.height ≠ 0)
    (wide : low16 width ≠ 0) (inside : low16 x < screen.width) :
    (drawrectangle0 screen x y width height buffer).npixels =
        int32 (linesOf screen (rect x y width height) *
          columns screen (rect x y width height) : Nat) ∧
      ∀ o, o ∈ (drawrectangle0 screen x y width height buffer).offsets ↔
        ∃ i px, i < linesOf screen (rect x y width height) ∧ low16 x ≤ px ∧
          px < low16 x + columns screen (rect x y width height) ∧
            o = int32 (address screen px (low16 y + i) : Nat) := by
  have screened : ¬(screen.width = 0 ∨ screen.height = 0) := by omega
  -- The last column is cut at the width of the screen.
  have right : (if low16 x + low16 width > screen.width then screen.width
      else low16 x + low16 width) = low16 x + columns screen (rect x y width height) := by
    simp only [columns, rect]
    split
    · omega
    · omega
  have some : 0 < columns screen (rect x y width height) := by
    simp only [columns, rect]
    omega
  have low : screen.height < 2 ^ 63 := Nat.lt_trans screen.height_lt (by decide)
  unfold drawrectangle0
  rw [if_neg screened]
  dsimp only
  rw [right, if_neg (by omega), paintLines_eq low (by omega) (by omega)]
  constructor
  · simp only [Int.zero_add, Nat.add_sub_cancel_left]
    rfl
  · intro o
    simp only [List.nil_append, List.mem_flatMap, List.mem_range, mem_drawHorizontalLine]
    have lines : painted screen.height (low16 y)
        (if low16 height > 768 then 768 else low16 height) =
          linesOf screen (rect x y width height) := rfl
    have rowLt : ∀ i < linesOf screen (rect x y width height), low16 y + i < 65536 := by
      intro i inside
      have top := low16_lt y
      have bottom := screen.height_lt
      simp only [linesOf, painted, rect] at inside
      omega
    have columnLt : ∀ px < low16 x + columns screen (rect x y width height), px < 65536 := by
      intro px last
      have width := screen.width_lt
      simp only [columns, rect] at last
      omega
    rw [lines]
    constructor
    · rintro ⟨i, inside, px, first, last, same⟩
      exact ⟨i, px, inside, first, last,
        by rw [same, putpixel_eq (columnLt px last) (rowLt i inside)]⟩
    · rintro ⟨i, px, inside, first, last, same⟩
      exact ⟨i, inside, px, first, last,
        by rw [same, putpixel_eq (columnLt px last) (rowLt i inside)]⟩

theorem linesOf_eq (r : Rect) (some : r.height ≠ 0) :
    linesOf screen r = min (min r.height 768) (max 1 (screen.height + 1 - r.top)) := by
  unfold linesOf painted
  by_cases tall : r.height > 768
  · rw [if_pos tall, if_neg (by decide), Nat.min_eq_right (Nat.le_of_lt tall)]
  · rw [if_neg tall, if_neg some, Nat.min_eq_left (Nat.le_of_not_lt tall)]

theorem linesOf_pos (r : Rect) : 0 < linesOf screen r := by
  unfold linesOf painted
  refine Nat.lt_min.mpr ⟨?_, Nat.lt_of_lt_of_le Nat.one_pos (Nat.le_max_left _ _)⟩
  generalize (if r.height > 768 then 768 else r.height) = height
  by_cases zero : height = 0
  · rw [if_pos zero]
    exact Nat.two_pow_pos 64
  · rw [if_neg zero]
    exact Nat.pos_of_ne_zero zero

theorem linesOf_eq_iff {r : Rect} (some : r.height ≠ 0) (inside : r.top < screen.height) :
    linesOf screen r = rows screen r ↔ RowsFit screen r := by
  simp only [linesOf_eq r some, rows, RowsFit]
  omega

theorem visible_iff {r : Rect} {px py : Nat} :
    Visible screen r px py ↔ (r.left ≤ px ∧ px < r.left + columns screen r) ∧
      r.top ≤ py ∧ py < r.top + rows screen r := by
  simp only [Visible, columns, rows]
  omega

theorem draws_empty (buffer : Buffer)
    (empty : screen.height = 0 ∨ low16 width = 0 ∨ screen.width ≤ low16 x) :
    Draws screen (rect x y width height) (drawrectangle0 screen x y width height buffer) := by
  rw [drawrectangle0_empty buffer empty]
  have none : columns screen (rect x y width height) = 0 ∨
      rows screen (rect x y width height) = 0 := by
    simp only [columns, rows, rect]
    omega
  refine ⟨fun o => ?_, ?_⟩
  · simp only [List.not_mem_nil, visible_iff, false_iff, not_exists, not_and]
    omega
  · obtain zero | zero := none
    · simp [zero]
    · simp [zero]

/-- What the painter must find where there are columns on the screen: rows on it that fit. -/
def PaintFits (screen : Screen) (r : Rect) : Prop :=
  r.height ≠ 0 ∧ r.top < screen.height ∧ RowsFit screen r ∧
    screen.bytes * (screen.width * (r.top + rows screen r - 1) +
      (r.left + columns screen r - 1)) < 2 ^ 31

theorem columns_pos {r : Rect} (wide : r.width ≠ 0) (inside : r.left < screen.width) :
    0 < columns screen r ∧ r.left + columns screen r ≤ screen.width := by
  simp only [columns]
  omega

theorem paintFits_of_paints (buffer : Buffer) (high : screen.height ≠ 0) (wide : low16 width ≠ 0)
    (inside : low16 x < screen.width)
    (exact : ∀ o, o ∈ (drawrectangle0 screen x y width height buffer).offsets ↔
      ∃ px py, Visible screen (rect x y width height) px py ∧ o = address screen px py) :
    PaintFits screen (rect x y width height) := by
  obtain ⟨-, offsets⟩ := @drawrectangle0_columns screen x y width height buffer high wide inside
  have fits := @linesOf_eq_iff screen (rect x y width height)
  have lines := @linesOf_pos screen (rect x y width height)
  have column := @columns_pos screen (rect x y width height) wide inside
  change 0 < columns screen (rect x y width height) ∧
    low16 x + columns screen (rect x y width height) ≤ screen.width at column
  have left : (rect x y width height).left = low16 x := rfl
  have top : (rect x y width height).top = low16 y := rfl
  unfold PaintFits
  generalize rect x y width height = r at *
  rw [top] at fits ⊢
  rw [left]
  -- The first line is visible.
  obtain ⟨px, py, visible, -⟩ := (exact _).mp ((offsets _).mpr ⟨0, low16 x, lines, Nat.le_refl _,
    by omega, rfl⟩)
  have rowsLt : 0 < rows screen r := by
    have := visible_iff.mp visible
    omega
  have some : r.height ≠ 0 ∧ low16 y < screen.height := by
    simp only [rows, top] at rowsLt
    omega
  -- What is visible is painted at its address, which is an int.
  have small : ∀ px py, Visible screen r px py → address screen px py < 2 ^ 31 := by
    intro px py visible
    obtain ⟨i, x', -, -, -, same⟩ := (offsets _).mp ((exact _).mpr ⟨px, py, visible, rfl⟩)
    exact lt_of_int32_eq same.symm
  have last : Visible screen r (low16 x + columns screen r - 1) (low16 y + rows screen r - 1) := by
    rw [visible_iff]
    omega
  refine ⟨some.1, some.2, (fits some.1 some.2).mp ?_, small _ _ last⟩
  have corner : Visible screen r (low16 x) (low16 y + rows screen r - 1) := by
    rw [visible_iff]
    omega
  have low := small _ _ corner
  refine Nat.le_antisymm (Nat.le_of_not_lt fun more => ?_) (Nat.le_of_not_lt fun fewer => ?_)
  · -- A line below the rows would be the address of a pixel above it.
    obtain ⟨px, py, visible, same⟩ := (exact _).mp ((offsets _).mpr ⟨rows screen r, low16 x, more,
      Nat.le_refl _, by omega, rfl⟩)
    have place := visible_iff.mp visible
    have above : address screen px py < address screen (low16 x) (low16 y + rows screen r) :=
      address_lt (by omega) (by omega)
    have next := address_succ screen (low16 x) (low16 y + rows screen r - 1)
    rw [show low16 y + rows screen r - 1 + 1 = low16 y + rows screen r by omega] at next
    have pitch := pitch_lt screen
    have equal := int32_eq_natCast (by omega) same
    omega
  · -- The last row would be painted by a line above it.
    obtain ⟨i, px, before, first, behind, same⟩ := (offsets _).mp ((exact _).mpr ⟨low16 x,
      low16 y + rows screen r - 1, corner, rfl⟩)
    have above : address screen px (low16 y + i) <
        address screen (low16 x) (low16 y + rows screen r - 1) := address_lt (by omega) (by omega)
    rw [int32_of_lt (Nat.lt_trans above low), Int.natCast_inj] at same
    exact absurd same (Nat.ne_of_gt above)

theorem draws_of_paintFits (buffer : Buffer) (high : screen.height ≠ 0) (wide : low16 width ≠ 0)
    (inside : low16 x < screen.width) (fit : PaintFits screen (rect x y width height)) :
    Draws screen (rect x y width height) (drawrectangle0 screen x y width height buffer) := by
  obtain ⟨count, offsets⟩ := @drawrectangle0_columns screen x y width height buffer high wide inside
  have column := @columns_pos screen (rect x y width height) wide inside
  have left : (rect x y width height).left = low16 x := rfl
  have top : (rect x y width height).top = low16 y := rfl
  generalize rect x y width height = r at *
  obtain ⟨some, inner, fit, low⟩ := fit
  rw [top] at inner
  rw [left] at column
  have equal := (linesOf_eq_iff some (top ▸ inner)).mpr fit
  have small : ∀ px py, px < low16 x + columns screen r → py < low16 y + rows screen r →
      address screen px py < 2 ^ 31 := by
    intro px py before above
    exact Nat.lt_of_le_of_lt (address_le (by omega) (by omega)) low
  refine ⟨fun o => ?_, ?_⟩
  · rw [offsets, equal]
    constructor
    · rintro ⟨i, px, row, first, behind, same⟩
      rw [int32_of_lt (small px _ behind (by omega))] at same
      exact ⟨px, low16 y + i, visible_iff.mpr (by omega), same⟩
    · rintro ⟨px, py, visible, same⟩
      have place := visible_iff.mp visible
      refine ⟨py - low16 y, px, by omega, by omega, by omega, ?_⟩
      rw [same, show low16 y + (py - low16 y) = py by omega,
        int32_of_lt (small px py (by omega) (by omega))]
  · have narrow : columns screen r < 65536 := by
      have width := screen.width_lt
      omega
    have few : rows screen r ≤ 768 := by
      simp only [rows, RowsFit, top] at fit ⊢
      omega
    have product : rows screen r * columns screen r ≤ 768 * 65536 :=
      Nat.mul_le_mul few (Nat.le_of_lt narrow)
    rw [count, equal, int32_of_lt (by omega), Nat.mul_comm]
    norm_cast

theorem paints_iff (buffer : Buffer) :
    (∀ o, o ∈ (drawrectangle0 screen x y width height buffer).offsets ↔
      ∃ px py, Visible screen (rect x y width height) px py ∧ o = address screen px py) ↔
      DrawFits screen (rect x y width height) := by
  by_cases empty : screen.height = 0 ∨ low16 width = 0 ∨ screen.width ≤ low16 x
  · refine iff_of_true (draws_empty buffer empty).1 ?_
    obtain zero | zero | behind := empty
    · exact .inl zero
    · exact .inr (.inl zero)
    · exact .inr (.inr (.inl behind))
  · obtain ⟨high, wide, inside⟩ := not_or.mp empty |>.imp_right not_or.mp
    constructor
    · intro exact
      exact .inr (.inr (.inr
        (paintFits_of_paints buffer high wide (Nat.lt_of_not_le inside) exact)))
    · rintro (zero | zero | behind | fit)
      · exact absurd zero high
      · exact absurd zero wide
      · exact absurd behind inside
      · exact (draws_of_paintFits buffer high wide (Nat.lt_of_not_le inside) fit).1

theorem draws_iff (buffer : Buffer) :
    Draws screen (rect x y width height) (drawrectangle0 screen x y width height buffer) ↔
      DrawFits screen (rect x y width height) := by
  constructor
  · exact fun draws => (paints_iff buffer).mp draws.1
  · intro fits
    by_cases empty : screen.height = 0 ∨ low16 width = 0 ∨ screen.width ≤ low16 x
    · exact draws_empty buffer empty
    · obtain ⟨high, wide, inside⟩ := not_or.mp empty |>.imp_right not_or.mp
      obtain zero | zero | behind | fit := fits
      · exact absurd zero high
      · exact absurd zero wide
      · exact absurd behind inside
      · exact draws_of_paintFits buffer high wide (Nat.lt_of_not_le inside) fit

end Drawing

/-- The offsets of `count` ranges of `length` bytes, a pitch apart. -/
def Band (start pitch count length o : Nat) : Prop :=
  ∃ k j, k < count ∧ j < length ∧ o = start + pitch * k + j

section Bands

variable {start pitch count length o : Nat}

theorem Band.start_le (inside : Band start pitch count length o) : start ≤ o := by
  obtain ⟨k, j, -, -, same⟩ := inside
  rw [same, Nat.add_assoc]
  exact Nat.le_add_right _ _

theorem band_start (some : 0 < count) (long : 0 < length) :
    Band start pitch count length start :=
  ⟨0, 0, some, long, rfl⟩

theorem Band.lt_stop (inside : Band start pitch count length o) :
    o < start + pitch * (count - 1) + length := by
  obtain ⟨k, j, row, column, same⟩ := inside
  have rows : pitch * k ≤ pitch * (count - 1) :=
    Nat.mul_le_mul_left pitch (Nat.le_sub_one_of_lt row)
  omega

theorem band_last (some : 0 < count) (long : 0 < length) :
    Band start pitch count length (start + pitch * (count - 1) + (length - 1)) :=
  ⟨count - 1, length - 1, Nat.sub_one_lt_of_lt some, Nat.sub_one_lt_of_lt long, rfl⟩

theorem band_wide (some : 0 < count) (apart : 0 < pitch) (wide : pitch ≤ length) :
    Band start pitch count length o ↔
      start ≤ o ∧ o < start + pitch * (count - 1) + length := by
  constructor
  · exact fun inside => ⟨inside.start_le, inside.lt_stop⟩
  · rintro ⟨first, last⟩
    by_cases row : o - start < pitch * (count - 1)
    · have column := Nat.mod_lt (o - start) apart
      have parts := Nat.div_add_mod (o - start) pitch
      refine ⟨(o - start) / pitch, (o - start) % pitch, ?_, by omega, by omega⟩
      exact Nat.lt_of_lt_of_le (Nat.div_lt_of_lt_mul row) (Nat.sub_le _ _)
    · exact ⟨count - 1, o - (start + pitch * (count - 1)), by omega, by omega, by omega⟩

theorem not_band (none : count = 0 ∨ length = 0) : ¬Band start pitch count length o := by
  rintro ⟨k, j, row, column, -⟩
  omega

theorem Band.stop_eq {count' length' : Nat} (some : 0 < count) (long : 0 < length)
    (some' : 0 < count') (long' : 0 < length')
    (same : ∀ o, Band start pitch count length o ↔ Band start pitch count' length' o) :
    pitch * (count - 1) + length = pitch * (count' - 1) + length' := by
  have first := ((same _).mp (band_last some long)).lt_stop
  have second := ((same _).mpr (band_last some' long')).lt_stop
  omega

end Bands

section Copying

variable {screen : Screen} {x y width height : UInt64}

theorem mem_memcpyUnits {size offset count o : Nat} :
    o ∈ memcpyUnits size offset count ↔ ∃ j, j < size * count ∧ o = offset + j := by
  simp only [memcpyUnits, List.mem_flatMap, List.mem_map, List.mem_range]
  constructor
  · rintro ⟨i, unit, j, byte, rfl⟩
    have whole : size * (i + 1) ≤ size * count := Nat.mul_le_mul_left size unit
    rw [Nat.mul_succ] at whole
    exact ⟨size * i + j, by omega, by omega⟩
  · rintro ⟨j, inside, rfl⟩
    have some : 0 < size := Nat.pos_of_ne_zero fun zero => by simp [zero] at inside
    refine ⟨j / size, Nat.div_lt_of_lt_mul inside, j % size, Nat.mod_lt j some, ?_⟩
    rw [Nat.add_assoc, Nat.div_add_mod]

/-- The lines that the copier copies begin no lower than just below the screen. -/
theorem mem_copyLines {size count firstLine offset lines i o : Nat} :
    o ∈ copyLines screen size count firstLine offset lines i ↔
      ∃ k j, (i ≤ k ∧ k < i + lines ∧ firstLine + k ≤ screen.height) ∧ j < size * count ∧
        o = offset + screen.bytes * screen.width * k + j := by
  induction lines generalizing i with
  | zero =>
      simp only [copyLines, List.not_mem_nil, false_iff, not_exists, not_and]
      omega
  | succ lines ih =>
      rw [copyLines]
      by_cases below : firstLine + i > screen.height
      · rw [if_pos below]
        simp only [List.not_mem_nil, false_iff, not_exists, not_and]
        omega
      · rw [if_neg below, List.mem_append, mem_memcpyUnits, ih]
        constructor
        · rintro (⟨j, inside, same⟩ | ⟨k, j, range, inside, same⟩)
          · exact ⟨i, j, ⟨Nat.le_refl i, by omega, by omega⟩, inside, same⟩
          · exact ⟨k, j, ⟨by omega, by omega, range.2.2⟩, inside, same⟩
        · rintro ⟨k, j, range, inside, same⟩
          obtain first | later := Nat.eq_or_lt_of_le range.1
          · exact .inl ⟨j, inside, by rw [same, first]⟩
          · exact .inr ⟨k, j, ⟨later, by omega, range.2.2⟩, inside, same⟩

/-- How many lines the copier copies. -/
def linesCopied (screen : Screen) (r : Rect) : Nat :=
  min (min r.height 768) (screen.height + 1 - r.top)

theorem linesCopied_eq_iff {r : Rect} (inside : r.top < screen.height) :
    linesCopied screen r = rows screen r ↔ RowsFit screen r := by
  simp only [linesCopied, rows, RowsFit]
  omega

theorem mem_copyLines_units {size firstLine offset lines pitch o : Nat} (units : size ∣ pitch) :
    o ∈ copyLines screen size (pitch / size) firstLine offset lines 0 ↔
      Band offset (screen.bytes * screen.width) (min lines (screen.height + 1 - firstLine))
        pitch o := by
  rw [mem_copyLines, Nat.mul_div_cancel' units]
  constructor
  · rintro ⟨k, j, range, inside, same⟩
    exact ⟨k, j, by omega, inside, same⟩
  · rintro ⟨k, j, row, inside, same⟩
    exact ⟨k, j, ⟨Nat.zero_le k, by omega, by omega⟩, inside, same⟩

theorem refreshRectangle_some (screened : screen.width ≠ 0 ∧ screen.height ≠ 0) :
    ∃ offsets, refreshRectangle screen x y width height = some offsets ∧
      ∀ o, o ∈ offsets ↔
        Band (address screen (low16 x) (low16 y) % 2 ^ 32) (screen.bytes * screen.width)
          (linesCopied screen (rect x y width height)) (screen.bytes * low16 width) o := by
  have place : low16 y * (screen.bytes * screen.width) + low16 x * screen.bytes =
      address screen (low16 x) (low16 y) := by
    simp only [address]
    ring
  have capped : (if low16 height > 768 then 768 else low16 height) = min (low16 height) 768 := by
    split
    · omega
    · omega
  unfold refreshRectangle
  rw [if_neg (not_or.mpr screened)]
  by_cases narrow : low16 width = 0
  · rw [if_pos narrow]
    refine ⟨[], rfl, fun o => ?_⟩
    simp [Band, narrow]
  · rw [if_neg narrow]
    by_cases flat : low16 height = 0
    · rw [if_pos flat]
      refine ⟨[], rfl, fun o => ?_⟩
      simp [Band, linesCopied, rect, flat]
    · rw [if_neg flat]
      dsimp only
      rw [place, capped]
      -- One of the three loops: by units of 8, of 4 and of single bytes.
      by_cases eights : screen.bytes * low16 width % 8 = 0
      · rw [if_pos eights]
        exact ⟨_, rfl, fun o => mem_copyLines_units (Nat.dvd_of_mod_eq_zero eights)⟩
      · rw [if_neg eights]
        by_cases fours : screen.bytes * low16 width % 4 = 0
        · rw [if_pos fours]
          exact ⟨_, rfl, fun o => mem_copyLines_units (Nat.dvd_of_mod_eq_zero fours)⟩
        · rw [if_neg fours]
          refine ⟨_, rfl, fun o => ?_⟩
          have single := @mem_copyLines_units screen 1 (low16 y)
            (address screen (low16 x) (low16 y) % 2 ^ 32) (min (low16 height) 768)
            (screen.bytes * low16 width) o (one_dvd _)
          rwa [Nat.div_one] at single

theorem visible_band {r : Rect} {o : Nat} :
    (∃ px py c, Visible screen r px py ∧ c < screen.bytes ∧ o = address screen px py + c) ↔
      Band (address screen r.left r.top) (screen.bytes * screen.width) (rows screen r)
        (screen.bytes * columns screen r) o := by
  have place : ∀ i k, address screen (r.left + i) (r.top + k) =
      address screen r.left r.top + screen.bytes * screen.width * k + screen.bytes * i := by
    intro i k
    simp only [address]
    ring
  constructor
  · rintro ⟨px, py, c, visible, byte, same⟩
    have inside := visible_iff.mp visible
    have column : screen.bytes * (px - r.left + 1) ≤ screen.bytes * columns screen r :=
      Nat.mul_le_mul_left _ (by omega)
    rw [Nat.mul_succ] at column
    have found := place (px - r.left) (py - r.top)
    rw [Nat.add_sub_cancel' inside.1.1, Nat.add_sub_cancel' inside.2.1] at found
    exact ⟨py - r.top, screen.bytes * (px - r.left) + c, by omega, by omega, by omega⟩
  · rintro ⟨k, j, row, inside, same⟩
    have column := Nat.add_lt_add_left (Nat.div_lt_of_lt_mul inside) r.left
    refine ⟨r.left + j / screen.bytes, r.top + k, j % screen.bytes,
      visible_iff.mpr ⟨⟨Nat.le_add_right _ _, column⟩, Nat.le_add_right _ _,
        Nat.add_lt_add_left row r.top⟩, Nat.mod_lt j (bytes_pos screen), ?_⟩
    rw [place, same, Nat.add_assoc _ _ (j % screen.bytes), Nat.div_add_mod]

/-- Of a rectangle that leaves the screen at the right, only whole lines are the right bytes:
    they make up for the rows below the cap. -/
theorem overhang_of_stop {r : Rect} (inside : r.left < screen.width)
    (outside : screen.width - r.left < r.width)
    (same : ∀ o, Band (address screen r.left r.top) (screen.bytes * screen.width)
        (linesCopied screen r) (screen.bytes * r.width) o ↔
      Band (address screen r.left r.top) (screen.bytes * screen.width) (rows screen r)
        (screen.bytes * columns screen r) o)
    (lines : 0 < linesCopied screen r)
    (stop : screen.width * (linesCopied screen r - 1) + r.width =
      screen.width * (rows screen r - 1) + columns screen r) :
    r.left = 0 ∧ 768 < rows screen r ∧ r.width = (rows screen r - 767) * screen.width ∧
      screen.width < r.width := by
  have clipped : columns screen r = screen.width - r.left := Nat.min_eq_right (Nat.le_of_lt outside)
  have left : r.left = 0 := by
    by_contra away
    -- The copier goes past the right border, to the first column of the next row.
    have short : screen.bytes * columns screen r < screen.bytes * screen.width :=
      Nat.mul_lt_mul_of_pos_left (by omega) (bytes_pos screen)
    have long : screen.bytes * columns screen r < screen.bytes * r.width :=
      Nat.mul_lt_mul_of_pos_left (by omega) (bytes_pos screen)
    obtain ⟨k, j, -, column, place⟩ := (same _).mp ⟨0, _, lines, long, rfl⟩
    obtain zero | next := Nat.eq_zero_or_pos k
    · rw [zero] at place
      omega
    · have row := Nat.le_mul_of_pos_right (screen.bytes * screen.width) next
      omega
  rw [clipped, left, Nat.sub_zero] at stop
  rw [left, Nat.sub_zero] at outside
  have fewer : linesCopied screen r - 1 < rows screen r - 1 :=
    Nat.lt_of_mul_lt_mul_left (Nat.lt_of_add_lt_add_right (by omega :
      screen.width * (linesCopied screen r - 1) + r.width <
        screen.width * (rows screen r - 1) + r.width))
  have capped : linesCopied screen r = 768 := by
    simp only [linesCopied, rows] at fewer ⊢
    omega
  rw [capped] at stop fewer
  refine ⟨left, by omega, ?_, outside⟩
  have whole :
      screen.width * (rows screen r - 1) + screen.width = rows screen r * screen.width := by
    rw [← Nat.mul_succ, Nat.succ_eq_add_one, Nat.sub_add_cancel (by omega), Nat.mul_comm]
  rw [Nat.sub_mul]
  omega

theorem bands_iff {r : Rect} (screened : screen.width ≠ 0 ∧ screen.height ≠ 0) :
    (∀ o, Band (address screen r.left r.top % 2 ^ 32) (screen.bytes * screen.width)
        (linesCopied screen r) (screen.bytes * r.width) o ↔
      Band (address screen r.left r.top) (screen.bytes * screen.width) (rows screen r)
        (screen.bytes * columns screen r) o) ↔ RefreshFits screen r := by
  have unit := bytes_pos screen
  constructor
  · intro same
    refine ⟨screened, ?_⟩
    by_cases empty : r.width = 0 ∨ r.height = 0 ∨ screen.height < r.top
    · obtain zero | zero | below := empty
      · exact .inl zero
      · exact .inr (.inl zero)
      · exact .inr (.inr (.inl below))
    have lines : 0 < linesCopied screen r := by
      unfold linesCopied
      omega
    have long : 0 < screen.bytes * r.width := Nat.mul_pos unit (by omega)
    -- The first byte that is copied is visible.
    have first := (same _).mp (band_start lines long)
    have kept : address screen r.left r.top % 2 ^ 32 = address screen r.left r.top :=
      Nat.le_antisymm (Nat.mod_le _ _) first.start_le
    have below : address screen r.left r.top < 2 ^ 32 :=
      kept ▸ Nat.mod_lt _ (Nat.two_pow_pos 32)
    obtain ⟨k, j, row, column, -⟩ := first
    have wide : 0 < columns screen r := by
      refine Nat.pos_of_ne_zero fun zero => ?_
      rw [zero] at column
      exact Nat.not_lt_zero j column
    have inside : r.left < screen.width ∧ r.top < screen.height := by
      simp only [columns, rows] at wide row
      omega
    rw [kept] at same
    have stop := Band.stop_eq lines long (Nat.zero_lt_of_lt row) (Nat.mul_pos unit wide) same
    simp only [Nat.mul_assoc, ← Nat.mul_add] at stop
    have stop := Nat.eq_of_mul_eq_mul_left unit stop
    refine .inr (.inr (.inr ⟨inside.1, inside.2, below, ?_⟩))
    by_cases within : r.left + r.width ≤ screen.width
    · have whole : columns screen r = r.width := Nat.min_eq_left (by omega)
      rw [whole] at stop
      have equal : linesCopied screen r - 1 = rows screen r - 1 :=
        Nat.eq_of_mul_eq_mul_left (Nat.pos_of_ne_zero screened.1) (Nat.add_right_cancel stop)
      exact .inl ⟨within, (linesCopied_eq_iff inside.2).mp (by omega)⟩
    · exact .inr (overhang_of_stop inside.1 (by omega) same lines stop)
  · rintro ⟨-, narrow | flat | under | ⟨inside, above, below, fit⟩⟩ o
    · refine iff_of_false (not_band (.inr ?_)) (not_band (.inr ?_))
      · rw [narrow, Nat.mul_zero]
      · rw [columns, narrow, Nat.zero_min, Nat.mul_zero]
    · refine iff_of_false (not_band (.inl ?_)) (not_band (.inl ?_))
      · simp [linesCopied, flat]
      · simp [rows, flat]
    · refine iff_of_false (not_band (.inl ?_)) (not_band (.inl ?_))
      · unfold linesCopied
        omega
      · unfold rows
        omega
    · rw [Nat.mod_eq_of_lt (show address screen r.left r.top < 2 ^ 32 from below)]
      obtain ⟨within, fits⟩ | ⟨left, many, width, wider⟩ := fit
      · rw [(linesCopied_eq_iff above).mpr fits,
          show columns screen r = r.width from Nat.min_eq_left (by omega)]
      · have clipped : columns screen r = screen.width := by
          unfold columns
          omega
        have capped : linesCopied screen r = 768 := by
          simp only [linesCopied, rows] at many ⊢
          omega
        have pitch : 0 < screen.bytes * screen.width :=
          Nat.mul_pos unit (Nat.pos_of_ne_zero screened.1)
        have wide : screen.bytes * screen.width ≤ screen.bytes * r.width :=
          Nat.mul_le_mul_left _ (Nat.le_of_lt wider)
        rw [clipped, capped, band_wide (by decide) pitch wide,
          band_wide (by omega) pitch (Nat.le_refl _)]
        -- Both are one range, from the first byte to the end of the last row.
        have stop : screen.bytes * screen.width * (768 - 1) + screen.bytes * r.width =
            screen.bytes * screen.width * (rows screen r - 1) + screen.bytes * screen.width := by
          obtain ⟨more, rest⟩ := Nat.exists_eq_add_of_lt many
          rw [width, rest]
          simp only [show 768 + more + 1 - 767 = more + 2 by omega,
            show 768 + more + 1 - 1 = more + 768 by omega]
          ring
        rw [Nat.add_assoc, stop, Nat.add_assoc]

theorem refreshes_iff :
    Refreshes screen (rect x y width height) (refreshRectangle screen x y width height) ↔
      RefreshFits screen (rect x y width height) := by
  by_cases screened : screen.width ≠ 0 ∧ screen.height ≠ 0
  · obtain ⟨offsets, copied, members⟩ :=
      @refreshRectangle_some screen x y width height screened
    rw [← bands_iff screened]
    constructor
    · rintro ⟨found, result, exact⟩ o
      obtain rfl : offsets = found := Option.some.inj (copied.symm.trans result)
      rw [← visible_band, ← exact o, members o]
      rfl
    · intro same
      refine ⟨offsets, copied, fun o => ?_⟩
      rw [members o, visible_band]
      exact same o
  · refine iff_of_false ?_ fun fits => screened fits.1
    rintro ⟨offsets, copied, -⟩
    rw [refreshRectangle, if_pos (by omega)] at copied
    cases copied

end Copying

/-- Both painters and the copier meet the geometry exactly where the rectangle fits, and the
    copier copies the same whichever loop it takes. -/
theorem rectangles_iff (screen : Screen) (x y width height : UInt64) :
    ((backbufferDrawRectangle screen x y width height).buffer = .back ∧
        Draws screen (rect x y width height) (backbufferDrawRectangle screen x y width height) ↔
      DrawFits screen (rect x y width height)) ∧
    ((frontbufferDrawRectangle screen x y width height).buffer = .front ∧
        Draws screen (rect x y width height) (frontbufferDrawRectangle screen x y width height) ↔
      DrawFits screen (rect x y width height)) ∧
    (Refreshes screen (rect x y width height) (refreshRectangle screen x y width height) ↔
      RefreshFits screen (rect x y width height)) ∧
    ∀ size pitch firstLine offset lines o, size ∣ pitch →
      (o ∈ copyLines screen size (pitch / size) firstLine offset lines 0 ↔
        o ∈ copyLines screen 1 pitch firstLine offset lines 0) := by
  refine ⟨?_, ?_, refreshes_iff, ?_⟩
  · rw [backbufferDrawRectangle, drawrectangle0_buffer, draws_iff]
    exact and_iff_right rfl
  · rw [frontbufferDrawRectangle, drawrectangle0_buffer, draws_iff]
    exact and_iff_right rfl
  · intro size pitch firstLine offset lines o units
    have single := @mem_copyLines_units screen 1 firstLine offset lines pitch o (one_dvd _)
    rw [Nat.div_one] at single
    rw [mem_copyLines_units units, single]

/-- On a screen of 600 rows, a rectangle from row 590 is painted and copied in row 600 too. -/
theorem row_below_screen : ∃ screen : Screen, ∃ x y width height : UInt64,
    ¬Draws screen (rect x y width height) (backbufferDrawRectangle screen x y width height) ∧
      ¬Refreshes screen (rect x y width height) (refreshRectangle screen x y width height) := by
  have fits : ¬RowsFit ⟨800, 600, 4, by decide, by decide, .inr rfl⟩ (rect 0 590 10 20) := by
    unfold RowsFit
    decide
  refine ⟨⟨800, 600, 4, by decide, by decide, .inr rfl⟩, 0, 590, 10, 20, ?_, ?_⟩
  · rw [backbufferDrawRectangle, draws_iff]
    rintro (zero | zero | behind | ⟨-, -, fit, -⟩)
    · exact absurd zero (by decide)
    · exact absurd zero (by decide)
    · exact absurd behind (by decide)
    · exact fits fit
  · rw [refreshes_iff]
    rintro ⟨-, zero | zero | below | ⟨-, -, -, ⟨-, fit⟩ | ⟨-, many, -⟩⟩⟩
    · exact absurd zero (by decide)
    · exact absurd zero (by decide)
    · exact absurd below (by decide)
    · exact fits fit
    · exact absurd many (by decide)

end Gramado.Gre.Rectangles
