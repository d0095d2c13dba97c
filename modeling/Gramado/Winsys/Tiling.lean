/-
Tiling (wm_tile in wm.c): a row or a column of cells for the windows of the stacking list,
and the master's half for the last one. The half of the cells begins at the middle of the
size of the working area, wherever the area begins, so that it runs into the master's.
-/
import Mathlib.Data.List.Range
import Gramado.Winsys.Geometry

namespace Gramado.Winsys.Tiling

open Gramado.Winsys.Geometry

/-- The part of `WindowManager` that tiling looks at or sets, and `os_mode`. A window of the
    stacking list is named by its place in it. -/
structure Desktop where
  manager : Manager
  jail : Bool
  tiled : Bool
  vertical : Bool
  windows : List Overlapped
  activeWindow : Option Nat
  keyboardOwner : Option Nat
  lastWindow : Option Nat
  topWindow : Option Nat
  mouseOwner : Option Nat
  mouseHover : Option Nat

/-- A division by a number of windows. -/
def share (size : UInt64) (count : Nat) : UInt64 :=
  UInt64.ofNat (size.toNat / count)

section Sizes

variable (desktop : Desktop) (cnt : Nat)

/-- `Width` and `Height` of a cell. -/
def cell : UInt64 × UInt64 :=
  let wa := desktop.manager.wa
  if desktop.vertical then
    (if cnt > 1 then share wa.width (cnt - 1) else wa.width, (wa.height - 24) / 2 - 8)
  else
    (wa.width / 2 - 4, if cnt > 1 then share (wa.height - 24) (cnt - 1) else wa.height)

/-- `w2` and `h2`. -/
def cellSize : UInt64 × UInt64 :=
  if desktop.vertical then
    ((cell desktop cnt).1 - 4, (cell desktop cnt).2 - 8)
  else
    ((cell desktop cnt).1, (cell desktop cnt).2 - 4)

/-- `l2` and `t2`. -/
def cellPosition (i : Nat) : UInt64 × UInt64 :=
  let wa := desktop.manager.wa
  if desktop.vertical then
    (wa.left + (cell desktop cnt).1 * UInt64.ofNat i + 2, wa.height / 2)
  else
    (wa.width / 2 + 2, wa.top + (cell desktop cnt).2 * UInt64.ofNat i + 2)

def masterSize : UInt64 × UInt64 :=
  let wa := desktop.manager.wa
  if desktop.vertical then
    (wa.width - 4, wa.height / 2 - 4 - 4)
  else
    (wa.width / 2 - 4, wa.height - 24 - 4)

def masterPosition : UInt64 × UInt64 :=
  let wa := desktop.manager.wa
  (wa.left + 2, wa.top + 2)

/-- Resize, then change position. -/
def placeWindow (window : Overlapped) (size position : UInt64 × UInt64) : Overlapped :=
  gwssrvChangeWindowPosition (gwsResizeWindow desktop.manager window size.1 size.2)
    position.1 position.2

def tileWindow (i : Nat) (window : Overlapped) : Overlapped :=
  let window := placeWindow desktop window (cellSize desktop cnt) (cellPosition desktop cnt i)
  if i = cnt - 1 then
    placeWindow desktop window (masterSize desktop) (masterPosition desktop)
  else
    window

end Sizes

def wmTile (desktop : Desktop) : Desktop :=
  if desktop.jail ∨ ¬desktop.manager.initialized ∨ desktop.windows = [] ∨ ¬desktop.tiled then
    desktop
  else
    let cnt := desktop.windows.length
    let last := some (cnt - 1)
    { desktop with
      windows := desktop.windows.mapIdx (tileWindow desktop cnt)
      activeWindow := last
      keyboardOwner := last
      lastWindow := last
      topWindow := last
      mouseOwner := none
      mouseHover := none }

structure Region where
  x : Nat
  y : Nat
  width : Nat
  height : Nat

def Region.Within (region area : Region) : Prop :=
  (area.x ≤ region.x ∧ region.x + region.width ≤ area.x + area.width) ∧
    area.y ≤ region.y ∧ region.y + region.height ≤ area.y + area.height

def Region.Apart (a b : Region) : Prop :=
  (a.x + a.width ≤ b.x ∨ b.x + b.width ≤ a.x) ∨ a.y + a.height ≤ b.y ∨ b.y + b.height ≤ a.y

instance (a b : Region) : Decidable (a.Apart b) :=
  inferInstanceAs (Decidable (_ ∨ _))

def region (window : Overlapped) : Region :=
  ⟨window.absoluteX.toNat, window.absoluteY.toNat, window.width.toNat, window.height.toNat⟩

def area (desktop : Desktop) : Region :=
  let wa := desktop.manager.wa
  ⟨wa.left.toNat, wa.top.toNat, wa.width.toNat, wa.height.toNat⟩

section Tiles

variable (desktop : Desktop)

/-- The machine value is that of the formula. -/
def Exactly (size : UInt64 × UInt64) (width height : Int) : Prop :=
  (size.1.toNat : Int) = width ∧ (size.2.toNat : Int) = height

def Exact : Prop :=
  let count := desktop.windows.length
  let wide : Int := (area desktop).width
  let high : Int := (area desktop).height
  if desktop.vertical then
    Exactly (cellSize desktop count)
        ((if count > 1 then wide / (count - 1 : Nat) else wide) - 4) ((high - 24) / 2 - 8 - 8) ∧
      Exactly (masterSize desktop) (wide - 4) (high / 2 - 4 - 4)
  else
    Exactly (cellSize desktop count)
        (wide / 2 - 4) ((if count > 1 then (high - 24) / (count - 1 : Nat) else high) - 4) ∧
      Exactly (masterSize desktop) (wide / 2 - 4) (high - 24 - 4)

/-- The size is at least the minimum for windows. -/
def AtLeast (size : UInt64 × UInt64) : Prop :=
  METRICS_DEFAULT_MINIMUM_WINDOW_WIDTH ≤ size.1 ∧ METRICS_DEFAULT_MINIMUM_WINDOW_HEIGHT ≤ size.2

/-- Tiling is on, there are windows, and the sizes that it computes are large enough. -/
structure Tiles : Prop where
  free : desktop.jail = false
  initialized : desktop.manager.initialized = true
  windows : desktop.windows ≠ []
  tiled : desktop.tiled = true
  cells : AtLeast (cellSize desktop desktop.windows.length)
  master : AtLeast (masterSize desktop)

/-- Positions in the parent are positions on the screen. -/
def OnDesktop (window : Overlapped) : Prop :=
  ∀ x y, placed window.parent x y = (x, y)

/-- No size wraps, the windows are in the working area and apart, and the last one is
    active and has the focus. -/
structure Tiled (after : Desktop) : Prop where
  exact : Exact desktop
  within : ∀ window ∈ after.windows, (region window).Within (area desktop)
  apart : after.windows.Pairwise fun a b => (region a).Apart (region b)
  active : after.activeWindow = some (desktop.windows.length - 1)
  focused : after.keyboardOwner = some (desktop.windows.length - 1)

/-- Where the cells begin and how far they are apart, in the direction in which they stand,
    does not wrap. -/
def Reaches (start pitch cells : Nat) : Prop :=
  start + pitch * (cells - 1) + 2 < 2 ^ 64

instance (start pitch cells : Nat) : Decidable (Reaches start pitch cells) :=
  inferInstanceAs (Decidable (_ < _))

/-- The area is large enough for the padding of each cell, no place in it wraps, and with
    more than one window it is not far from the edge of the screen on the other side. -/
def Fits : Prop :=
  let count := desktop.windows.length
  let wa := area desktop
  (wa.x + 2 < 2 ^ 64 ∧ wa.y + 2 < 2 ^ 64) ∧
    if desktop.vertical then
      56 ≤ wa.height ∧ 4 ≤ wa.width ∧
        (count > 1 → 4 ≤ wa.width / (count - 1) ∧
          Reaches wa.x (wa.width / (count - 1)) (count - 1) ∧ wa.y ≤ 6)
    else
      8 ≤ wa.width ∧ 28 ≤ wa.height ∧
        (count > 1 → 4 ≤ (wa.height - 24) / (count - 1) ∧
          Reaches wa.y ((wa.height - 24) / (count - 1)) (count - 1) ∧ wa.x ≤ 4)

end Tiles

section Placing

variable {desktop : Desktop} {window : Overlapped}

theorem onDesktop_placeWindow (free : OnDesktop window) (size position : UInt64 × UInt64) :
    OnDesktop (placeWindow desktop window size position) :=
  free

theorem region_placeWindow (free : OnDesktop window) (size position : UInt64 × UInt64) :
    region (placeWindow desktop window size position) =
      ⟨position.1.toNat, position.2.toNat,
        (limit desktop.manager size.1 METRICS_DEFAULT_MINIMUM_WINDOW_WIDTH
          desktop.manager.wa.width).toNat,
        (limit desktop.manager size.2 METRICS_DEFAULT_MINIMUM_WINDOW_HEIGHT
          desktop.manager.wa.height).toNat⟩ := by
  have place := free position.1 position.2
  have same : (gwsResizeWindow desktop.manager window size.1 size.2).parent = window.parent := rfl
  simp only [region, placeWindow, gwssrvChangeWindowPosition, same, place, syncAbsoluteDimensions]
  rfl

theorem limit_of_between {manager : Manager} {size minimum maximum : UInt64}
    (small : minimum ≤ size) (large : size ≤ maximum) :
    limit manager size minimum maximum = size := by
  have least : ¬size < minimum := UInt64.not_lt.mpr small
  have most : ¬(manager.initialized = true ∧ size > maximum) :=
    fun beyond => UInt64.not_lt.mpr large beyond.2
  rw [limit, if_neg least, if_neg most]

end Placing

section Sizes

variable {desktop : Desktop}

@[simp] theorem toNat_share (size : UInt64) (count : Nat) :
    (share size count).toNat = size.toNat / count := by
  have below : size.toNat / count < 2 ^ 64 :=
    Nat.lt_of_le_of_lt (Nat.div_le_self _ _) size.toNat_lt
  rw [share, UInt64.toNat_ofNat', Nat.mod_eq_of_lt below]

theorem exact_vertical (vertical : desktop.vertical = true) :
    Exact desktop ↔ 56 ≤ (area desktop).height ∧ 4 ≤ (area desktop).width ∧
      (desktop.windows.length > 1 →
        4 ≤ (area desktop).width / (desktop.windows.length - 1)) := by
  have wide := desktop.manager.wa.width.toNat_lt
  have high := desktop.manager.wa.height.toNat_lt
  simp only [Exact, Exactly, cellSize, cell, masterSize, vertical, if_true, area,
    UInt64.toNat_sub, UInt64.toNat_div, UInt64.reduceToNat]
  split
  · rename_i several
    rw [toNat_share, ← Int.natCast_ediv]
    have part := Nat.div_le_self desktop.manager.wa.width.toNat (desktop.windows.length - 1)
    omega
  · omega

theorem exact_horizontal (horizontal : desktop.vertical = false) :
    Exact desktop ↔ 8 ≤ (area desktop).width ∧ 28 ≤ (area desktop).height ∧
      (desktop.windows.length > 1 →
        4 ≤ ((area desktop).height - 24) / (desktop.windows.length - 1)) := by
  have wide := desktop.manager.wa.width.toNat_lt
  have high := desktop.manager.wa.height.toNat_lt
  simp only [Exact, Exactly, cellSize, cell, masterSize, horizontal, Bool.false_eq_true, if_false,
    area, UInt64.toNat_sub, UInt64.toNat_div, UInt64.reduceToNat]
  split
  · rename_i several
    rw [toNat_share, UInt64.toNat_sub, show (24 : UInt64).toNat = 24 from rfl]
    by_cases below : desktop.manager.wa.height.toNat < 24
    · omega
    · have less : (2 ^ 64 - 24 + desktop.manager.wa.height.toNat) % 2 ^ 64 =
          desktop.manager.wa.height.toNat - 24 := by omega
      have cast : (desktop.manager.wa.height.toNat : Int) - 24 =
          (desktop.manager.wa.height.toNat - 24 : Nat) := by omega
      have part := Nat.div_le_self (desktop.manager.wa.height.toNat - 24)
        (desktop.windows.length - 1)
      rw [less, cast, ← Int.natCast_ediv]
      omega
  · omega

end Sizes

section Strips

/-- The same with the axes exchanged. -/
def Region.flip (r : Region) : Region :=
  ⟨r.y, r.x, r.height, r.width⟩

@[simp] theorem within_flip (a b : Region) : a.flip.Within b.flip ↔ a.Within b :=
  and_comm

@[simp] theorem apart_flip (a b : Region) : a.flip.Apart b.flip ↔ a.Apart b :=
  or_comm

/-- What tiling has to do with `count` cells and the master. -/
structure Arranged (area : Region) (count : Nat) (cells : Nat → Region)
    (master : Region) : Prop where
  within : ∀ i < count, (cells i).Within area
  inner : master.Within area
  apart : ∀ i j, i < j → j < count → (cells i).Apart (cells j)
  beside : ∀ i < count, (cells i).Apart master

theorem Arranged.congr {area master : Region} {count : Nat} {cells others : Nat → Region}
    (same : ∀ i < count, cells i = others i) :
    Arranged area count cells master ↔ Arranged area count others master := by
  constructor
  · intro arranged
    refine ⟨fun i inside => same i inside ▸ arranged.within i inside, arranged.inner,
      fun i j less inside => ?_, fun i inside => same i inside ▸ arranged.beside i inside⟩
    rw [← same i (Nat.lt_trans less inside), ← same j inside]
    exact arranged.apart i j less inside
  · intro arranged
    refine ⟨fun i inside => same i inside ▸ arranged.within i inside, arranged.inner,
      fun i j less inside => ?_, fun i inside => same i inside ▸ arranged.beside i inside⟩
    rw [same i (Nat.lt_trans less inside), same j inside]
    exact arranged.apart i j less inside

theorem arranged_flip {area master : Region} {count : Nat} {cells : Nat → Region} :
    Arranged area.flip count (fun i => (cells i).flip) master.flip ↔
      Arranged area count cells master := by
  constructor
  · rintro ⟨within, inner, apart, beside⟩
    simp only [within_flip, apart_flip] at within inner apart beside
    exact ⟨within, inner, apart, beside⟩
  · rintro ⟨within, inner, apart, beside⟩
    refine ⟨?_, ?_, ?_, ?_⟩
    all_goals simp only [within_flip, apart_flip]
    all_goals assumption

/-- A row of cells, each in a pitch of its own, below a master as long as the row: they are
    arranged exactly if the master ends where the cells begin. -/
theorem strips_iff {count start pitch length side size long thick : Nat} {high deep : Nat}
    (row : ∀ i < count, pitch * i + pitch ≤ long + 4) (fits : long + 4 ≤ length)
    (wide : 5 ≤ pitch) (tall : 3 ≤ deep) (below : high + deep ≤ size) (above : 2 + thick ≤ size) :
    Arranged ⟨start, side, length, size⟩ count
        (fun i => ⟨start + pitch * i + 2, high, pitch - 4, deep⟩)
        ⟨start + 2, side + 2, long, thick⟩ ↔
      (0 < count → side + 2 + thick ≤ high) := by
  constructor
  · -- The first cell is in the area and apart from the master.
    rintro ⟨within, -, -, beside⟩ some
    have inside := within 0 some
    have apart := beside 0 some
    have column := row 0 some
    simp only [Region.Within, Region.Apart] at inside apart
    omega
  · intro near
    refine ⟨fun i inside => ?_, ?_, fun i j less inside => ?_, fun i inside => ?_⟩
    · have column := row i inside
      have top := near (Nat.zero_lt_of_lt inside)
      simp only [Region.Within]
      omega
    · simp only [Region.Within]
      omega
    · have next : pitch * i + pitch ≤ pitch * j := Nat.mul_le_mul_left pitch less
      simp only [Region.Apart]
      omega
    · have top := near (Nat.zero_lt_of_lt inside)
      simp only [Region.Apart]
      omega

theorem unwrapped {a b bound : Nat} (first : a < bound) (second : b < bound)
    (grows : a ≤ (a + b) % bound) : a + b < bound := by
  by_contra wraps
  have back : (a + b) % bound = a + b - bound := by
    rw [Nat.mod_eq_sub_mod (Nat.le_of_not_lt wraps), Nat.mod_eq_of_lt (by omega)]
  omega

theorem wrapped_strips_iff {count start pitch length side size long thick high deep bound : Nat}
    (row : ∀ i < count, pitch * i + pitch ≤ long + 4) (fits : long + 4 ≤ length)
    (wide : 5 ≤ pitch) (tall : 3 ≤ deep) (below : high + deep ≤ size) (above : 2 + thick ≤ size)
    (left : start < bound) (top : side < bound) (narrow : length < bound) :
    Arranged ⟨start, side, length, size⟩ count
        (fun i => ⟨(start + pitch * i + 2) % bound, high, pitch - 4, deep⟩)
        ⟨(start + 2) % bound, (side + 2) % bound, long, thick⟩ ↔
      (start + 2 < bound ∧ side + 2 < bound) ∧
        (0 < count → start + pitch * (count - 1) + 2 < bound ∧ side + 2 + thick ≤ high) := by
  have straight : start + 2 < bound → side + 2 < bound →
      (0 < count → start + pitch * (count - 1) + 2 < bound) →
      (Arranged ⟨start, side, length, size⟩ count
          (fun i => ⟨(start + pitch * i + 2) % bound, high, pitch - 4, deep⟩)
          ⟨(start + 2) % bound, (side + 2) % bound, long, thick⟩ ↔
        (0 < count → side + 2 + thick ≤ high)) := by
    intro x y last
    rw [Nat.mod_eq_of_lt x, Nat.mod_eq_of_lt y, ← strips_iff row fits wide tall below above]
    refine Arranged.congr fun i inside => ?_
    have before : pitch * i ≤ pitch * (count - 1) := Nat.mul_le_mul_left pitch (by omega)
    have bounded := last (Nat.zero_lt_of_lt inside)
    rw [Nat.mod_eq_of_lt (by omega)]
  constructor
  · intro arranged
    have x := unwrapped left (by omega) arranged.inner.1.1
    have y := unwrapped top (by omega) arranged.inner.2.1
    have last : 0 < count → start + pitch * (count - 1) + 2 < bound := by
      intro some
      have inside : count - 1 < count := by omega
      have column := row (count - 1) inside
      have within := (arranged.within (count - 1) inside).1.1
      simp only [Nat.add_assoc] at within ⊢
      exact unwrapped left (by omega) within
    have near := (straight x y last).mp arranged
    exact ⟨⟨x, y⟩, fun some => ⟨last some, near some⟩⟩
  · rintro ⟨⟨x, y⟩, near⟩
    exact (straight x y fun some => (near some).1).mpr fun some => (near some).2

end Strips

section Regions

variable {desktop : Desktop}

def cellRegion (desktop : Desktop) (i : Nat) : Region :=
  let position := cellPosition desktop desktop.windows.length i
  let size := cellSize desktop desktop.windows.length
  ⟨position.1.toNat, position.2.toNat, size.1.toNat, size.2.toNat⟩

def masterRegion (desktop : Desktop) : Region :=
  let position := masterPosition desktop
  let size := masterSize desktop
  ⟨position.1.toNat, position.2.toNat, size.1.toNat, size.2.toNat⟩

/-- The size is not beyond that of the working area. -/
def AtMost (desktop : Desktop) (size : UInt64 × UInt64) : Prop :=
  size.1 ≤ desktop.manager.wa.width ∧ size.2 ≤ desktop.manager.wa.height

theorem atMost_of_toNat {size : UInt64 × UInt64} (wide : size.1.toNat ≤ (area desktop).width)
    (high : size.2.toNat ≤ (area desktop).height) : AtMost desktop size :=
  ⟨UInt64.le_iff_toNat_le.mpr wide, UInt64.le_iff_toNat_le.mpr high⟩

theorem region_placed {window : Overlapped} (free : OnDesktop window)
    {size : UInt64 × UInt64} (position : UInt64 × UInt64) (small : AtLeast size)
    (large : AtMost desktop size) :
    region (placeWindow desktop window size position) =
      ⟨position.1.toNat, position.2.toNat, size.1.toNat, size.2.toNat⟩ := by
  rw [region_placeWindow free, limit_of_between small.1 large.1, limit_of_between small.2 large.2]

theorem wmTile_tiles (tiles : Tiles desktop) :
    wmTile desktop =
      { desktop with
        windows := desktop.windows.mapIdx (tileWindow desktop desktop.windows.length)
        activeWindow := some (desktop.windows.length - 1)
        keyboardOwner := some (desktop.windows.length - 1)
        lastWindow := some (desktop.windows.length - 1)
        topWindow := some (desktop.windows.length - 1)
        mouseOwner := none
        mouseHover := none } := by
  have goes : ¬(desktop.jail = true ∨ ¬desktop.manager.initialized = true ∨ desktop.windows = [] ∨
      ¬desktop.tiled = true) := by
    simp [tiles.free, tiles.initialized, tiles.windows, tiles.tiled]
  exact if_neg goes

theorem map_region (tiles : Tiles desktop) (free : ∀ window ∈ desktop.windows, OnDesktop window)
    (cells : AtMost desktop (cellSize desktop desktop.windows.length))
    (master : AtMost desktop (masterSize desktop)) :
    (wmTile desktop).windows.map region =
      (List.range (desktop.windows.length - 1)).map (cellRegion desktop) ++
        [masterRegion desktop] := by
  have some := List.length_pos_iff.mpr tiles.windows
  rw [wmTile_tiles tiles]
  refine List.ext_getElem (by simp; omega) fun i inside other => ?_
  simp only [List.length_map, List.length_mapIdx] at inside
  have here := free _ (List.getElem_mem inside)
  rw [List.getElem_map, List.getElem_mapIdx, tileWindow]
  by_cases last : i = desktop.windows.length - 1
  · rw [if_pos last, region_placed (onDesktop_placeWindow here _ _) _ tiles.master master]
    rw [List.getElem_append_right (by simp; omega)]
    simp [masterRegion]
  · rw [if_neg last, region_placed here _ tiles.cells cells]
    rw [List.getElem_append_left (by simp; omega)]
    simp [cellRegion]

theorem pairwise_range {r : Nat → Nat → Prop} {n : Nat} :
    (List.range n).Pairwise r ↔ ∀ i j, i < j → j < n → r i j := by
  rw [List.pairwise_iff_getElem]
  constructor
  · intro pairs i j less inside
    have related := pairs i j (by simp; omega) (by simp; omega) less
    simpa using related
  · intro pairs i j first second less
    simp only [List.length_range] at second
    simpa using pairs i j less second

theorem tiled_iff (tiles : Tiles desktop) (free : ∀ window ∈ desktop.windows, OnDesktop window)
    (exact : Exact desktop) (cells : AtMost desktop (cellSize desktop desktop.windows.length))
    (master : AtMost desktop (masterSize desktop)) :
    Tiled desktop (wmTile desktop) ↔
      Arranged (area desktop) (desktop.windows.length - 1) (cellRegion desktop)
        (masterRegion desktop) := by
  have regions := map_region tiles free cells master
  have inside : (∀ window ∈ (wmTile desktop).windows, (region window).Within (area desktop)) ↔
      (∀ i < desktop.windows.length - 1, (cellRegion desktop i).Within (area desktop)) ∧
        (masterRegion desktop).Within (area desktop) := by
    have all : (∀ window ∈ (wmTile desktop).windows, (region window).Within (area desktop)) ↔
        ∀ r ∈ (wmTile desktop).windows.map region, r.Within (area desktop) := by
      simp
    rw [all, regions]
    simp [or_imp, forall_and]
  have pairs : ((wmTile desktop).windows.Pairwise fun a b => (region a).Apart (region b)) ↔
      (∀ i j, i < j → j < desktop.windows.length - 1 →
        (cellRegion desktop i).Apart (cellRegion desktop j)) ∧
      ∀ i < desktop.windows.length - 1, (cellRegion desktop i).Apart (masterRegion desktop) := by
    have all : ((wmTile desktop).windows.Pairwise fun a b => (region a).Apart (region b)) ↔
        ((wmTile desktop).windows.map region).Pairwise Region.Apart := List.pairwise_map.symm
    rw [all, regions, List.pairwise_append, List.pairwise_map, pairwise_range]
    simp
  constructor
  · intro tiled
    obtain ⟨within, last⟩ := inside.mp tiled.within
    obtain ⟨apart, beside⟩ := pairs.mp tiled.apart
    exact ⟨within, last, apart, beside⟩
  · rintro ⟨within, last, apart, beside⟩
    refine ⟨exact, inside.mpr ⟨within, last⟩, pairs.mpr ⟨apart, beside⟩, ?_, ?_⟩
    · rw [wmTile_tiles tiles]
    · rw [wmTile_tiles tiles]

end Regions

section Orientations

variable {desktop : Desktop}

theorem pitch_le {pitch count total i : Nat} (fits : pitch ≤ total / count) (inside : i < count) :
    pitch * i + pitch ≤ total :=
  calc pitch * i + pitch = pitch * (i + 1) := rfl
    _ ≤ total / count * count := Nat.mul_le_mul fits inside
    _ ≤ total := Nat.div_mul_le_self total count

theorem toNat_step {start pitch : UInt64} {i total : Nat} (some : 0 < pitch.toNat)
    (inside : pitch.toNat * i + pitch.toNat ≤ total) (bound : total < 2 ^ 64) :
    (start + pitch * UInt64.ofNat i + 2).toNat =
      (start.toNat + pitch.toNat * i + 2) % 2 ^ 64 := by
  have least : i ≤ pitch.toNat * i := Nat.le_mul_of_pos_left i some
  have index : (UInt64.ofNat i).toNat = i := by
    rw [UInt64.toNat_ofNat', Nat.mod_eq_of_lt (by omega)]
  have product : (pitch * UInt64.ofNat i).toNat = pitch.toNat * i := by
    rw [UInt64.toNat_mul, index, Nat.mod_eq_of_lt (by omega)]
  rw [UInt64.toNat_add, UInt64.toNat_add, product, show (2 : UInt64).toNat = 2 from rfl]
  omega

theorem masterRegion_eq (desktop : Desktop) :
    masterRegion desktop =
      ⟨((area desktop).x + 2) % 2 ^ 64, ((area desktop).y + 2) % 2 ^ 64,
        (masterSize desktop).1.toNat, (masterSize desktop).2.toNat⟩ := by
  simp only [masterRegion, masterPosition, area, UInt64.toNat_add, UInt64.reduceToNat]

theorem area_lt (desktop : Desktop) :
    ((area desktop).x < 2 ^ 64 ∧ (area desktop).y < 2 ^ 64) ∧
      (area desktop).width < 2 ^ 64 ∧ (area desktop).height < 2 ^ 64 :=
  ⟨⟨UInt64.toNat_lt _, UInt64.toNat_lt _⟩, UInt64.toNat_lt _, UInt64.toNat_lt _⟩

theorem atLeast_toNat {size : UInt64 × UInt64} (small : AtLeast size) :
    103 ≤ size.1.toNat ∧ 43 ≤ size.2.toNat :=
  ⟨UInt64.le_iff_toNat_le.mp small.1, UInt64.le_iff_toNat_le.mp small.2⟩

section Vertical

def columnWidth (desktop : Desktop) : Nat :=
  if desktop.windows.length > 1 then (area desktop).width / (desktop.windows.length - 1)
  else (area desktop).width

theorem sizes_vertical (vertical : desktop.vertical = true) (exact : Exact desktop) :
    ((cellSize desktop desktop.windows.length).1.toNat = columnWidth desktop - 4 ∧
        (cellSize desktop desktop.windows.length).2.toNat = ((area desktop).height - 24) / 2 - 16) ∧
      (masterSize desktop).1.toNat = (area desktop).width - 4 ∧
        (masterSize desktop).2.toNat = (area desktop).height / 2 - 8 := by
  have bounds := (exact_vertical vertical).mp exact
  unfold Exact at exact
  simp only [vertical, if_true, Exactly] at exact
  obtain ⟨⟨wide, high⟩, masterWide, masterHigh⟩ := exact
  refine ⟨⟨?_, by omega⟩, by omega, by omega⟩
  simp only [columnWidth]
  split
  · rename_i several
    rw [if_pos several, ← Int.natCast_ediv] at wide
    omega
  · rename_i single
    rw [if_neg single] at wide
    omega

theorem cellRegion_vertical (vertical : desktop.vertical = true)
    (exact : Exact desktop) {i : Nat} (inside : i < desktop.windows.length - 1) :
    cellRegion desktop i =
      ⟨((area desktop).x + columnWidth desktop * i + 2) % 2 ^ 64, (area desktop).height / 2,
        columnWidth desktop - 4, ((area desktop).height - 24) / 2 - 16⟩ := by
  obtain ⟨⟨wide, high⟩, -⟩ := sizes_vertical vertical exact
  obtain ⟨-, -, columns⟩ := (exact_vertical vertical).mp exact
  have several : desktop.windows.length > 1 := by omega
  have pitch : (cell desktop desktop.windows.length).1.toNat = columnWidth desktop := by
    simp only [cell, vertical, if_true, columnWidth, if_pos several, toNat_share, area]
  have width : columnWidth desktop = (area desktop).width / (desktop.windows.length - 1) :=
    if_pos several
  have column := pitch_le (Nat.le_of_eq width) inside
  have least := columns several
  have left := @toNat_step desktop.manager.wa.left (cell desktop desktop.windows.length).1 i
    (area desktop).width (by omega) (by rw [pitch]; exact column) (area_lt desktop).2.1
  simp only [cellRegion, wide, high, cellPosition, vertical, if_true, left, pitch, area,
    UInt64.toNat_div, UInt64.reduceToNat]

theorem tiled_vertical (tiles : Tiles desktop)
    (free : ∀ window ∈ desktop.windows, OnDesktop window) (vertical : desktop.vertical = true)
    (exact : Exact desktop) :
    Tiled desktop (wmTile desktop) ↔
      ((area desktop).x + 2 < 2 ^ 64 ∧ (area desktop).y + 2 < 2 ^ 64) ∧
        (desktop.windows.length > 1 →
          Reaches (area desktop).x (columnWidth desktop) (desktop.windows.length - 1) ∧
            (area desktop).y ≤ 6) := by
  obtain ⟨high, wide, columns⟩ := (exact_vertical vertical).mp exact
  obtain ⟨⟨cellWide, cellHigh⟩, masterWide, masterHigh⟩ := sizes_vertical vertical exact
  obtain ⟨cellColumns, cellLines⟩ := atLeast_toNat tiles.cells
  obtain ⟨masterColumns, masterLines⟩ := atLeast_toNat tiles.master
  rw [cellWide] at cellColumns
  rw [cellHigh] at cellLines
  have width : columnWidth desktop ≤ (area desktop).width := by
    simp only [columnWidth]
    split
    · exact Nat.div_le_self _ _
    · exact Nat.le_refl _
  have cells : AtMost desktop (cellSize desktop desktop.windows.length) := by
    refine atMost_of_toNat ?_ ?_
    · rw [cellWide]
      exact Nat.le_trans (Nat.sub_le _ _) width
    · rw [cellHigh]
      omega
  have master : AtMost desktop (masterSize desktop) := by
    refine atMost_of_toNat ?_ ?_
    · rw [masterWide]
      exact Nat.sub_le _ _
    · rw [masterHigh]
      omega
  -- The columns lie side by side, and their pitches fit in the width together.
  have row : ∀ i < desktop.windows.length - 1,
      columnWidth desktop * i + columnWidth desktop ≤ (area desktop).width - 4 + 4 := by
    intro i inside
    have pitch : columnWidth desktop = (area desktop).width / (desktop.windows.length - 1) :=
      if_pos (by omega)
    exact Nat.le_trans (pitch_le (Nat.le_of_eq pitch) inside) (by omega)
  rw [tiled_iff tiles free exact cells master,
    masterRegion_eq desktop, masterWide, masterHigh]
  refine (Arranged.congr fun i inside => cellRegion_vertical vertical exact inside).trans ?_
  have fits : (area desktop).width - 4 + 4 ≤ (area desktop).width := (Nat.sub_add_cancel wide).le
  have below : (area desktop).height / 2 + (((area desktop).height - 24) / 2 - 16) ≤
      (area desktop).height := by omega
  have above : 2 + ((area desktop).height / 2 - 8) ≤ (area desktop).height := by omega
  have bounds := area_lt desktop
  refine (wrapped_strips_iff row fits (by omega) (by omega) below above bounds.1.1 bounds.1.2
    bounds.2.1).trans (and_congr_right fun _ => imp_congr ?_ (and_congr Iff.rfl ?_))
  · omega
  · omega

end Vertical

section Horizontal

def rowHeight (desktop : Desktop) : Nat :=
  if desktop.windows.length > 1 then ((area desktop).height - 24) / (desktop.windows.length - 1)
  else (area desktop).height

theorem sizes_horizontal (horizontal : desktop.vertical = false) (exact : Exact desktop) :
    ((cellSize desktop desktop.windows.length).1.toNat = (area desktop).width / 2 - 4 ∧
        (cellSize desktop desktop.windows.length).2.toNat = rowHeight desktop - 4) ∧
      (masterSize desktop).1.toNat = (area desktop).width / 2 - 4 ∧
        (masterSize desktop).2.toNat = (area desktop).height - 28 := by
  have bounds := (exact_horizontal horizontal).mp exact
  unfold Exact at exact
  simp only [horizontal, Bool.false_eq_true, if_false, Exactly] at exact
  obtain ⟨⟨wide, high⟩, masterWide, masterHigh⟩ := exact
  refine ⟨⟨by omega, ?_⟩, by omega, by omega⟩
  simp only [rowHeight]
  split
  · rename_i several
    have cast : ((area desktop).height : Int) - 24 = ((area desktop).height - 24 : Nat) := by omega
    rw [if_pos several, cast, ← Int.natCast_ediv] at high
    omega
  · rename_i single
    rw [if_neg single] at high
    omega

theorem cellRegion_horizontal (horizontal : desktop.vertical = false)
    (exact : Exact desktop) {i : Nat} (inside : i < desktop.windows.length - 1) :
    cellRegion desktop i =
      ⟨(area desktop).width / 2 + 2, ((area desktop).y + rowHeight desktop * i + 2) % 2 ^ 64,
        (area desktop).width / 2 - 4, rowHeight desktop - 4⟩ := by
  obtain ⟨⟨wide, high⟩, -⟩ := sizes_horizontal horizontal exact
  obtain ⟨-, tall, rows⟩ := (exact_horizontal horizontal).mp exact
  have several : desktop.windows.length > 1 := by omega
  have bar : (desktop.manager.wa.height - 24).toNat = (area desktop).height - 24 := by
    have bound := desktop.manager.wa.height.toNat_lt
    simp only [area] at tall ⊢
    rw [UInt64.toNat_sub, show (24 : UInt64).toNat = 24 from rfl]
    omega
  have pitch : (cell desktop desktop.windows.length).2.toNat = rowHeight desktop := by
    simp only [cell, horizontal, Bool.false_eq_true, if_false, rowHeight, if_pos several,
      toNat_share, bar]
  have height : rowHeight desktop =
      ((area desktop).height - 24) / (desktop.windows.length - 1) := if_pos several
  have row := pitch_le (Nat.le_of_eq height) inside
  have least := rows several
  have top := @toNat_step desktop.manager.wa.top (cell desktop desktop.windows.length).2 i
    (area desktop).height (by omega) (by rw [pitch]; omega) (area_lt desktop).2.2
  have middle : (desktop.manager.wa.width / 2 + 2).toNat = (area desktop).width / 2 + 2 := by
    have bound := desktop.manager.wa.width.toNat_lt
    simp only [area]
    rw [UInt64.toNat_add, UInt64.toNat_div, show (2 : UInt64).toNat = 2 from rfl]
    omega
  simp only [cellRegion, wide, high, cellPosition, horizontal, Bool.false_eq_true, if_false, top,
    pitch, middle]
  rfl

theorem tiled_horizontal (tiles : Tiles desktop)
    (free : ∀ window ∈ desktop.windows, OnDesktop window) (horizontal : desktop.vertical = false)
    (exact : Exact desktop) :
    Tiled desktop (wmTile desktop) ↔
      ((area desktop).x + 2 < 2 ^ 64 ∧ (area desktop).y + 2 < 2 ^ 64) ∧
        (desktop.windows.length > 1 →
          Reaches (area desktop).y (rowHeight desktop) (desktop.windows.length - 1) ∧
            (area desktop).x ≤ 4) := by
  obtain ⟨wide, high, rows⟩ := (exact_horizontal horizontal).mp exact
  obtain ⟨⟨cellWide, cellHigh⟩, masterWide, masterHigh⟩ := sizes_horizontal horizontal exact
  obtain ⟨cellColumns, cellLines⟩ := atLeast_toNat tiles.cells
  obtain ⟨masterColumns, masterLines⟩ := atLeast_toNat tiles.master
  rw [cellWide] at cellColumns
  rw [cellHigh] at cellLines
  have height : rowHeight desktop ≤ (area desktop).height := by
    simp only [rowHeight]
    split
    · exact Nat.le_trans (Nat.div_le_self _ _) (Nat.sub_le _ _)
    · exact Nat.le_refl _
  have cells : AtMost desktop (cellSize desktop desktop.windows.length) := by
    refine atMost_of_toNat ?_ ?_
    · rw [cellWide]
      omega
    · rw [cellHigh]
      exact Nat.le_trans (Nat.sub_le _ _) height
  have master : AtMost desktop (masterSize desktop) := by
    refine atMost_of_toNat ?_ ?_
    · rw [masterWide]
      omega
    · rw [masterHigh]
      exact Nat.sub_le _ _
  have row : ∀ i < desktop.windows.length - 1,
      rowHeight desktop * i + rowHeight desktop ≤ (area desktop).height - 28 + 4 := by
    intro i inside
    have pitch : rowHeight desktop =
        ((area desktop).height - 24) / (desktop.windows.length - 1) := if_pos (by omega)
    exact Nat.le_trans (pitch_le (Nat.le_of_eq pitch) inside) (by omega)
  rw [tiled_iff tiles free exact cells master,
    masterRegion_eq desktop, masterWide, masterHigh]
  refine (Arranged.congr fun i inside => cellRegion_horizontal horizontal exact inside).trans ?_
  -- With the axes exchanged, the cells are a row below the master.
  refine arranged_flip.symm.trans ?_
  have fits : (area desktop).height - 28 + 4 ≤ (area desktop).height := by omega
  have below : (area desktop).width / 2 + 2 + ((area desktop).width / 2 - 4) ≤
      (area desktop).width := by omega
  have above : 2 + ((area desktop).width / 2 - 4) ≤ (area desktop).width := by omega
  have bounds := area_lt desktop
  refine (wrapped_strips_iff row fits (by omega) (by omega) below above bounds.1.2 bounds.1.1
    bounds.2.2).trans (and_congr and_comm (imp_congr ?_ (and_congr Iff.rfl ?_)))
  · omega
  · show (area desktop).x + 2 + ((area desktop).width / 2 - 4) ≤ (area desktop).width / 2 + 2 ↔ _
    omega

end Horizontal

end Orientations

/-- Windows of the desktop are tiled right exactly if the working area is large enough for
    the padding and begins at the corner of the screen, or a few pixels from it. -/
theorem wmTile_iff {desktop : Desktop} (tiles : Tiles desktop)
    (free : ∀ window ∈ desktop.windows, OnDesktop window) :
    Tiled desktop (wmTile desktop) ↔ Fits desktop := by
  -- The two orientations differ in the axis that is divided.
  cases vertical : desktop.vertical with
  | true =>
      have exact := exact_vertical vertical
      have tiled := tiled_vertical tiles free vertical
      simp only [Fits, vertical, if_true]
      constructor
      · intro right
        obtain ⟨high, wide, columns⟩ := exact.mp right.exact
        obtain ⟨places, near⟩ := (tiled right.exact).mp right
        refine ⟨places, high, wide, fun several => ?_⟩
        obtain ⟨reaches, edge⟩ := near several
        rw [columnWidth, if_pos several] at reaches
        exact ⟨columns several, reaches, edge⟩
      · rintro ⟨places, high, wide, near⟩
        have sizes := exact.mpr ⟨high, wide, fun several => (near several).1⟩
        refine (tiled sizes).mpr ⟨places, fun several => ?_⟩
        rw [columnWidth, if_pos several]
        exact (near several).2
  | false =>
      have exact := exact_horizontal vertical
      have tiled := tiled_horizontal tiles free vertical
      simp only [Fits, vertical, Bool.false_eq_true, if_false]
      constructor
      · intro right
        obtain ⟨wide, high, rows⟩ := exact.mp right.exact
        obtain ⟨places, near⟩ := (tiled right.exact).mp right
        refine ⟨places, wide, high, fun several => ?_⟩
        obtain ⟨reaches, edge⟩ := near several
        rw [rowHeight, if_pos several] at reaches
        exact ⟨rows several, reaches, edge⟩
      · rintro ⟨places, wide, high, near⟩
        have sizes := exact.mpr ⟨wide, high, fun several => (near several).1⟩
        refine (tiled sizes).mpr ⟨places, fun several => ?_⟩
        rw [rowHeight, if_pos several]
        exact (near several).2

/-- Three windows on a screen of 800x600 pixels, with the working area below a bar. -/
def three (top : UInt64) : Desktop :=
  { manager := { initialized := true, wa := { left := 0, top := top, width := 800, height := 560 } }
    jail := false
    tiled := true
    vertical := true
    windows := [corner, corner, corner]
    activeWindow := some 0
    keyboardOwner := some 0
    lastWindow := some 0
    topWindow := some 0
    mouseOwner := none
    mouseHover := none }

theorem tiles_three (top : UInt64) : Tiles (three top) := by
  have cells : AtLeast (cellSize (three 0) 3) := ⟨by decide, by decide⟩
  have master : AtLeast (masterSize (three 0)) := ⟨by decide, by decide⟩
  exact ⟨rfl, rfl, by simp [three], rfl, cells, master⟩

theorem onDesktop_three (top : UInt64) : ∀ window ∈ (three top).windows, OnDesktop window := by
  intro window member x y
  have same : window = corner := by simpa [three] using member
  rw [same]
  rfl

theorem columns_tiled : Tiled (three 0) (wmTile (three 0)) :=
  (wmTile_iff (tiles_three 0) (onDesktop_three 0)).mpr
    ⟨⟨by decide, by decide⟩, by decide, by decide, fun _ => ⟨by decide, by decide, by decide⟩⟩

/-- Below a bar of 40 pixels the columns begin in the master. -/
theorem columns_covered : Tiles (three 40) ∧
    (∀ window ∈ (three 40).windows, OnDesktop window) ∧ ¬Tiled (three 40) (wmTile (three 40)) := by
  refine ⟨tiles_three 40, onDesktop_three 40, fun tiled => ?_⟩
  have first := List.pairwise_iff_getElem.mp tiled.apart 0 2 (by decide) (by decide) (by decide)
  exact absurd first (by decide)

end Gramado.Winsys.Tiling
