/-
The input position of an edit box (wm.c): what keys and resizes do to it. Enter and a
character at the end of the last line lead below the grid of a box with several lines, and
a resize leaves the position where it was. The window is valid, has the focus and is not
the root window. Its sizes are words of 64 bits and a position of the grid is below an
eighth of them, so that numbers do for both.
-/
import Gramado.Lib.Machine
import Gramado.Winsys.Windows

namespace Gramado.Winsys.EditBox

open Gramado.Ke
open Gramado.Lib.Machine
open Gramado.Winsys.Windows

def VK_TAB : Int32 := 0xC0
def VK_BACKSPACE : Int32 := 0xD0
def VK_RETURN : Int32 := 0xD1

/-- The fields of `struct gws_window_d` that edit boxes have. -/
structure Window where
  type : WindowType
  width : Nat
  height : Nat
  widthInChars : Nat
  heightInChars : Nat
  ipX : Nat
  ipY : Nat

/-- On the first column the position goes to the end of the line before. -/
def onBackspace (window : Window) : Window :=
  let window := if window.ipX > 0 then { window with ipX := window.ipX - 1 } else window
  if window.ipX = 0 then
    match window.type with
    | .editboxMultipleLines =>
        let window := if window.ipY > 0 then { window with ipY := window.ipY - 1 } else window
        if window.ipY > 0 then { window with ipX := window.widthInChars - 1 } else window
    | _ => window
  else
    window

def onTab (window : Window) : Window :=
  let window := { window with ipX := window.ipX + 8 }
  if window.ipX ≥ window.widthInChars then
    match window.type with
    | .editboxSingleLine => { window with ipX := window.widthInChars - 1 }
    | .editboxMultipleLines =>
        let window := { window with ipX := 0, ipY := window.ipY + 1 }
        if window.ipY ≥ window.heightInChars then
          { window with ipY := window.heightInChars - 1 }
        else
          window
    | _ => window
  else
    window

def afterChar (window : Window) : Window :=
  let window := { window with ipX := window.ipX + 1 }
  if window.ipX ≥ window.widthInChars then
    let window := { window with ipX := 0 }
    if window.type = .editboxMultipleLines then
      { window with ipY := window.ipY + 1 }
    else
      window
  else
    window

/-- The place in the window at which the character is drawn, if it is. -/
def wmDrawCharIntoTheWindow (window : Window) (ch : Int32) : Option (Nat × Nat) × Window :=
  if window.type ≠ .editboxSingleLine ∧ window.type ≠ .editboxMultipleLines then
    (none, window)
  else if ch < 0 ∨ ch = VK_RETURN then
    (none, window)
  else if ch = VK_BACKSPACE then
    (none, onBackspace window)
  else if ch = VK_TAB then
    (none, onTab window)
  else
    let ascii := ch.toUInt32.toUInt8
    if ascii < 0x20 ∨ ascii = 0x7F then
      (none, window)
    else
      (some (window.ipX * 8, window.ipY * 8), afterChar window)

def onEnter (window : Window) : Window :=
  match window.type with
  | .editboxMultipleLines =>
      if window.ipY ≥ window.heightInChars then
        window
      else
        { window with ipX := 0, ipY := window.ipY + 1 }
  | _ => window

/-- What `gws_resize_window` does to a window that is not overlapped. -/
def gwsResizeWindow (window : Window) (cx cy : Nat) : Window :=
  let window := { window with width := cx, height := cy }
  if window.type = .editboxSingleLine ∨ window.type = .editboxMultipleLines then
    { window with widthInChars := window.width / 8, heightInChars := window.height / 8 }
  else
    window

inductive Event where
  | char (ch : Int32)
  | enter
  | resize (cx cy : Nat)

def serve (window : Window) : Event → Except Stop (Option (Nat × Nat) × Window)
  | .char ch => .ok (wmDrawCharIntoTheWindow window ch)
  | .enter => .ok (none, onEnter window)
  | .resize cx cy => .ok (none, gwsResizeWindow window cx cy)

/-- The position is one of the grid. -/
def Inside (window : Window) : Prop :=
  window.ipX < window.widthInChars ∧ window.ipY < window.heightInChars

instance (window : Window) : Decidable (Inside window) :=
  inferInstanceAs (Decidable (_ ∧ _))

/-- An edit box as the window manager makes and resizes it. -/
structure Box (window : Window) : Prop where
  type : window.type = .editboxSingleLine ∨ window.type = .editboxMultipleLines
  width : window.widthInChars = window.width / 8
  height : window.heightInChars = window.height / 8
  inside : Inside window

/-- The position stays in the grid, and the character lies in the window. -/
def Kept (_ : Window) (_ : Event) (out : Option (Nat × Nat) × Window) : Prop :=
  Inside out.2 ∧ ∀ place, out.1 = some place →
    place.1 + 8 ≤ out.2.width ∧ place.2 + 8 ≤ out.2.height

/-- The key is not one that only moves the position, nor a control character. -/
def Prints (ch : Int32) : Prop :=
  ¬(ch < 0 ∨ ch = VK_RETURN) ∧ ch ≠ VK_BACKSPACE ∧ ch ≠ VK_TAB ∧
    ¬(ch.toUInt32.toUInt8 < 0x20 ∨ ch.toUInt32.toUInt8 = 0x7F)

/-- There is a line below for Enter and for the character behind the last column, and the
    new size has the position. -/
def Fits (window : Window) : Event → Prop
  | .char ch => Prints ch → window.type = .editboxMultipleLines →
      window.ipX + 1 < window.widthInChars ∨ window.ipY + 1 < window.heightInChars
  | .enter => window.type = .editboxMultipleLines → window.ipY + 1 < window.heightInChars
  | .resize cx cy => window.ipX < cx / 8 ∧ window.ipY < cy / 8

section Steps

variable {window : Window}

theorem Box.moved (box : Box window) {x y : Nat} (column : x < window.widthInChars)
    (line : y < window.heightInChars) : Box { window with ipX := x, ipY := y } :=
  ⟨box.type, box.width, box.height, column, line⟩

theorem box_onBackspace (box : Box window) : Box (onBackspace window) := by
  obtain ⟨column, line⟩ := box.inside
  have last : window.widthInChars - 1 < window.widthInChars := by omega
  have back : window.ipX - 1 < window.widthInChars := by omega
  have above : window.ipY - 1 < window.heightInChars := by omega
  have left : (if window.ipX > 0 then { window with ipX := window.ipX - 1 } else window) =
      { window with ipX := window.ipX - 1 } := by
    split
    · rfl
    · rw [show window.ipX - 1 = window.ipX by omega]
  have up : (if window.ipY > 0 then
        { window with ipX := window.ipX - 1, ipY := window.ipY - 1 }
      else { window with ipX := window.ipX - 1 }) =
      { window with ipX := window.ipX - 1, ipY := window.ipY - 1 } := by
    split
    · rfl
    · rw [show window.ipY - 1 = window.ipY by omega]
  simp only [onBackspace, left]
  split
  · split
    · -- The end of the line before, if there is one.
      rw [up]
      split
      · exact box.moved last above
      · exact box.moved back above
    · exact box.moved back line
  · exact box.moved back line

theorem box_onTab (box : Box window) : Box (onTab window) := by
  obtain ⟨column, line⟩ := box.inside
  have last : window.widthInChars - 1 < window.widthInChars := by omega
  have bottom : window.heightInChars - 1 < window.heightInChars := by omega
  simp only [onTab]
  by_cases behind : window.ipX + 8 ≥ window.widthInChars
  · rw [if_pos behind]
    split
    · exact box.moved last line
    · have first : 0 < window.widthInChars := by omega
      split
      · exact box.moved first bottom
      · exact box.moved first (by omega)
    · rename_i single multiple
      exact absurd box.type (not_or.mpr ⟨single, multiple⟩)
  · rw [if_neg behind]
    exact box.moved (Nat.lt_of_not_le behind) line

theorem afterChar_inside (box : Box window) :
    Inside (afterChar window) ↔ (window.type = .editboxMultipleLines →
      window.ipX + 1 < window.widthInChars ∨ window.ipY + 1 < window.heightInChars) := by
  obtain ⟨column, line⟩ := box.inside
  by_cases behind : window.ipX + 1 ≥ window.widthInChars
  · simp only [afterChar, if_pos behind]
    by_cases multiple : window.type = .editboxMultipleLines
    · simp only [if_pos multiple, Inside]
      exact ⟨fun inside _ => Or.inr inside.2, fun free => ⟨by omega, by
        have := free multiple
        omega⟩⟩
    · simp only [if_neg multiple, Inside]
      exact iff_of_true ⟨by omega, line⟩ fun same => absurd same multiple
  · simp only [afterChar, if_neg behind, Inside]
    exact iff_of_true ⟨by omega, line⟩ fun _ => Or.inl (by omega)

theorem afterChar_frame (window : Window) :
    (afterChar window).type = window.type ∧ (afterChar window).width = window.width ∧
      (afterChar window).height = window.height ∧
      (afterChar window).widthInChars = window.widthInChars ∧
      (afterChar window).heightInChars = window.heightInChars := by
  simp only [afterChar]
  split
  · split
    · exact ⟨rfl, rfl, rfl, rfl, rfl⟩
    · exact ⟨rfl, rfl, rfl, rfl, rfl⟩
  · exact ⟨rfl, rfl, rfl, rfl, rfl⟩

theorem onEnter_inside (box : Box window) :
    Inside (onEnter window) ↔
      (window.type = .editboxMultipleLines → window.ipY + 1 < window.heightInChars) := by
  obtain ⟨column, line⟩ := box.inside
  obtain single | multiple := box.type
  · simp only [onEnter, single, reduceCtorEq, false_implies, iff_true]
    exact box.inside
  · simp only [onEnter, multiple, if_neg (Nat.not_le.mpr line), Inside, forall_const]
    exact ⟨fun inside => inside.2, fun free => ⟨by omega, free⟩⟩

theorem onEnter_frame (window : Window) :
    (onEnter window).type = window.type ∧ (onEnter window).width = window.width ∧
      (onEnter window).height = window.height ∧
      (onEnter window).widthInChars = window.widthInChars ∧
      (onEnter window).heightInChars = window.heightInChars := by
  simp only [onEnter]
  split
  · split
    · exact ⟨rfl, rfl, rfl, rfl, rfl⟩
    · exact ⟨rfl, rfl, rfl, rfl, rfl⟩
  · exact ⟨rfl, rfl, rfl, rfl, rfl⟩

theorem Box.of_frame {after : Window} (box : Box window) (frame : after.type = window.type ∧
      after.width = window.width ∧ after.height = window.height ∧
      after.widthInChars = window.widthInChars ∧ after.heightInChars = window.heightInChars)
    (inside : Inside after) : Box after := by
  obtain ⟨type, width, height, columns, lines⟩ := frame
  exact ⟨type ▸ box.type, by rw [columns, width, box.width], by rw [lines, height, box.height],
    inside⟩

theorem resized (box : Box window) (cx cy : Nat) :
    gwsResizeWindow window cx cy =
      { window with width := cx, height := cy, widthInChars := cx / 8, heightInChars := cy / 8 } :=
  if_pos box.type

variable {ch : Int32}

theorem draw_cases (box : Box window) :
    (Prints ch ∧ wmDrawCharIntoTheWindow window ch =
        (some (window.ipX * 8, window.ipY * 8), afterChar window)) ∨
      (¬Prints ch ∧ (wmDrawCharIntoTheWindow window ch).1 = none ∧
        Box (wmDrawCharIntoTheWindow window ch).2) := by
  have valid : ¬(window.type ≠ .editboxSingleLine ∧ window.type ≠ .editboxMultipleLines) := by
    rintro ⟨single, multiple⟩
    exact box.type.elim single multiple
  rw [wmDrawCharIntoTheWindow, if_neg valid]
  by_cases silent : ch < 0 ∨ ch = VK_RETURN
  · rw [if_pos silent]
    exact Or.inr ⟨fun prints => prints.1 silent, rfl, box⟩
  rw [if_neg silent]
  by_cases backspace : ch = VK_BACKSPACE
  · rw [if_pos backspace]
    exact Or.inr ⟨fun prints => prints.2.1 backspace, rfl, box_onBackspace box⟩
  rw [if_neg backspace]
  by_cases tab : ch = VK_TAB
  · rw [if_pos tab]
    exact Or.inr ⟨fun prints => prints.2.2.1 tab, rfl, box_onTab box⟩
  rw [if_neg tab]
  by_cases control : ch.toUInt32.toUInt8 < 0x20 ∨ ch.toUInt32.toUInt8 = 0x7F
  · simp only [if_pos control]
    exact Or.inr ⟨fun prints => prints.2.2.2 control, trivial, box⟩
  · simp only [if_neg control]
    exact Or.inl ⟨⟨silent, backspace, tab, control⟩, trivial⟩

end Steps

/-- The step lemma: in a box, a step keeps the position in the grid exactly if there is a
    place for it. -/
theorem kept_iff {window : Window} {event : Event} {out : Option (Nat × Nat) × Window}
    (box : Box window) (served : serve window event = .ok out) :
    Kept window event out ↔ Fits window event := by
  cases event with
  | char ch =>
      cases served
      obtain ⟨prints, drawn⟩ | ⟨silent, none, later⟩ := @draw_cases window ch box
      · have grid := box.inside
        have width := box.width
        have height := box.height
        have frame := afterChar_frame window
        rw [drawn, Kept, Fits, afterChar_inside box, frame.2.1, frame.2.2.1]
        constructor
        · exact fun kept _ => kept.1
        · intro free
          refine ⟨free prints, ?_⟩
          rintro place same
          cases same
          unfold Inside at grid
          omega
      · refine iff_of_true ⟨later.inside, ?_⟩ fun prints => absurd prints silent
        intro place drawn
        rw [none] at drawn
        cases drawn
  | enter =>
      cases served
      refine (and_iff_left ?_).trans (onEnter_inside box)
      intro place drawn
      cases drawn
  | resize cx cy =>
      cases served
      rw [resized box]
      refine and_iff_left ?_
      intro place drawn
      cases drawn

theorem box_of_kept {window : Window} {event : Event} {out : Option (Nat × Nat) × Window}
    (box : Box window) (served : serve window event = .ok out) (kept : Kept window event out) :
    Box out.2 := by
  cases event with
  | char ch =>
      cases served
      obtain ⟨-, drawn⟩ | ⟨-, -, later⟩ := @draw_cases window ch box
      · rw [drawn] at kept ⊢
        exact box.of_frame (afterChar_frame window) kept.1
      · exact later
  | enter =>
      cases served
      exact box.of_frame (onEnter_frame window) kept.1
  | resize cx cy =>
      cases served
      have inside := kept.1
      rw [resized box] at inside ⊢
      exact ⟨box.type, rfl, rfl, inside⟩

/-- The position stays in the grid exactly in the runs in which every event finds room. -/
theorem caret_iff (window : Window) (events : List Event) (box : Box window) :
    Along serve Kept window events ↔ Guarded serve Fits window events := by
  apply along_iff_guarded_of_kept _ _ _ events box
  · exact fun window event out => kept_iff
  · exact fun window event out => box_of_kept
  · intro window event stop stopped
    cases event <;> cases stopped

/-- Three lines of five characters. -/
def small : Window where
  type := .editboxMultipleLines
  width := 40
  height := 24
  widthInChars := 5
  heightInChars := 3
  ipX := 0
  ipY := 0

theorem small_box : Box small :=
  ⟨Or.inr rfl, rfl, rfl, by decide⟩

/-- A letter, Enter and Backspace in the first two lines. -/
theorem small_kept : Along serve Kept small [.char 0x41, .enter, .char VK_BACKSPACE] := by
  refine (caret_iff small _ small_box).mpr ⟨fun _ _ => Or.inl (by decide), fun o t served => ?_⟩
  cases served
  refine ⟨fun _ => by decide, fun o t served => ?_⟩
  cases served
  refine ⟨fun prints => absurd rfl prints.2.1, fun o t _ => trivial⟩

/-- A letter in the last place of the same box leads below the last line. -/
theorem letter_leaves :
    ¬Along serve Kept { small with ipX := 4, ipY := 2 } [.char 0x41] := by
  intro along
  have after := (along _ rfl).1.1
  exact absurd after (by decide)

end Gramado.Winsys.EditBox
