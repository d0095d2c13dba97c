/-
Where the characters of a string are drawn, at every column and line, and what
`ESC [ K` draws. The line is wrapped in front of its last column, and the character
that is wrapped does not move the cursor on.
-/
import Gramado.Chardev.ConsoleCursor

namespace Gramado.Chardev.Console

open Gramado.Ke
open Gramado.Lib
open Gramado.Lib.Fallible

/-- The cursor in numbers. Lines are counted through the scrolls, and `below` is how
    many there are under this one before the screen has to scroll. -/
structure Pen where
  column : Nat
  line : Nat
  below : Nat
  deriving DecidableEq, Repr

/-- The place of the next character, as line and column. -/
def Pen.place (left right : Nat) (scrolls : Bool) (p : Pen) : Nat × Nat :=
  if p.column + 1 < right then
    (p.line, p.column)
  else if 0 < p.below ∨ scrolls then
    (p.line + 1, left)
  else
    (p.line, left)

def Pen.next (left right : Nat) (scrolls : Bool) (p : Pen) : Pen :=
  if p.column + 1 < right then
    { p with column := p.column + 1 }
  else if 0 < p.below ∨ scrolls then
    ⟨left, p.line + 1, p.below - 1⟩
  else
    ⟨left, p.line, 0⟩

def Pen.places (left right : Nat) (scrolls : Bool) : Nat → Pen → List (Nat × Nat)
  | 0, _ => []
  | more + 1, p => p.place left right scrolls :: places left right scrolls more
      (p.next left right scrolls)

/-- Each place is behind the one before it, and the first is not before `from`. -/
def Reading : Nat × Nat → List (Nat × Nat) → Prop
  | _, [] => True
  | start, place :: rest =>
      (start.1 < place.1 ∨ start.1 = place.1 ∧ start.2 ≤ place.2) ∧
        Reading (place.1, place.2 + 1) rest

/-- The string ends in front of the last column, or it has one character more and a
    line for it. A screen of one column wraps at each character. -/
def Fits (left right : Nat) (scrolls : Bool) (p : Pen) (length : Nat) : Prop :=
  p.column + length < right ∨
    (p.column + length = right ∧ (0 < p.below ∨ scrolls)) ∨
    (left + 1 = right ∧ (length ≤ 1 ∨ length ≤ p.below ∨ scrolls))

section Pens

variable {left right : Nat} {scrolls : Bool} {p : Pen}

theorem Pen.place_room (room : p.column + 1 < right) :
    p.place left right scrolls = (p.line, p.column) := if_pos room

theorem Pen.next_room (room : p.column + 1 < right) :
    p.next left right scrolls = { p with column := p.column + 1 } := if_pos room

theorem Pen.place_wrap (full : ¬p.column + 1 < right) (more : 0 < p.below ∨ scrolls = true) :
    p.place left right scrolls = (p.line + 1, left) :=
  (if_neg full).trans (if_pos more)

theorem Pen.next_wrap (full : ¬p.column + 1 < right) (more : 0 < p.below ∨ scrolls = true) :
    p.next left right scrolls = ⟨left, p.line + 1, p.below - 1⟩ :=
  (if_neg full).trans (if_pos more)

theorem Pen.place_stay (full : ¬p.column + 1 < right) (none : ¬(0 < p.below ∨ scrolls = true)) :
    p.place left right scrolls = (p.line, left) :=
  (if_neg full).trans (if_neg none)

theorem Pen.next_stay (full : ¬p.column + 1 < right) (none : ¬(0 < p.below ∨ scrolls = true)) :
    p.next left right scrolls = ⟨left, p.line, 0⟩ :=
  (if_neg full).trans (if_neg none)

/-- Behind a character that was wrapped there is room for another one only if each
    of them has a line. -/
theorem reading_wrapped (length line below : Nat) (wide : left < right) :
    Reading (line, left + 1) (Pen.places left right scrolls length ⟨left, line, below⟩) ↔
      length = 0 ∨ (left + 1 = right ∧ (length ≤ below ∨ scrolls)) := by
  induction length generalizing line below with
  | zero => simp [Pen.places, Reading]
  | succ length ih =>
      by_cases room : left + 1 < right
      · -- It is drawn in the same place.
        simp [Pen.places, Pen.place, Reading, room]
        omega
      · have one : left + 1 = right := by omega
        cases scrolls with
        | true =>
            simp [Pen.places, Pen.place, Pen.next, Reading, room, ih]
            omega
        | false =>
            by_cases low : 0 < below
            · simp [Pen.places, Pen.place, Pen.next, Reading, room, ih, low]
              omega
            · have last : below = 0 := Nat.eq_zero_of_not_pos low
              simp [Pen.places, Pen.place, Reading, room, last] <;> omega

/-- The places are in reading order from the cursor on exactly if the string fits. -/
theorem reading_iff (length : Nat) (inside : left ≤ p.column ∧ p.column < right) :
    Reading (p.line, p.column) (p.places left right scrolls length) ↔
      Fits left right scrolls p length := by
  induction length generalizing p with
  | zero =>
      simp [Pen.places, Reading, Fits, inside.2]
  | succ length ih =>
      by_cases room : p.column + 1 < right
      · have later := @ih { p with column := p.column + 1 } ⟨by simp; omega, room⟩
        have several : left + 1 ≠ right := by omega
        simp only [Pen.places, Pen.place, Pen.next, room, if_true, Reading, later, Fits, several,
          false_and, or_false]
        simp only [Nat.lt_irrefl, Nat.le_refl, and_self, or_true, true_and, Nat.add_assoc,
          Nat.add_comm 1 length]
      · have wrapped := @reading_wrapped left right scrolls length
        have wide : left < right := by omega
        have last : p.column + 1 = right := by omega
        cases scrolls with
        | true =>
            simp [Pen.places, Pen.place, Pen.next, Reading, room, wrapped _ _ wide, Fits]
            omega
        | false =>
            by_cases low : 0 < p.below
            · simp [Pen.places, Pen.place, Pen.next, Reading, room, wrapped _ _ wide, Fits, low]
              omega
            · have none : p.below = 0 := Nat.eq_zero_of_not_pos low
              simp [Pen.places, Pen.place, Pen.next, Reading, room, wrapped _ _ wide, Fits, none]
              omega

end Pens

def scrollsOf (drawn : List Draw) : Nat :=
  drawn.count .scroll

def charsOf (drawn : List Draw) : List (UInt64 × UInt64 × UInt8) :=
  drawn.filterMap fun request =>
    match request with
    | .char x y ch _ _ => some (x, y, ch)
    | _ => none

/-- A character in its cell, after so many scrolls. -/
structure Mark where
  console : ConsoleId
  scrolled : Nat
  row : Nat
  column : Nat
  ch : UInt8
  deriving DecidableEq, Repr

def Mark.place (m : Mark) : Nat × Nat :=
  (m.scrolled + m.row, m.column)

def Mark.pixels (d : Display) (m : Mark) : UInt64 × UInt64 × UInt8 :=
  (toLong d.charWidth * UInt64.ofNat m.column, toLong d.charHeight * UInt64.ofNat m.row, m.ch)

/-- The cell that a character is drawn in, once there is room for it. -/
def mark (k : Consoles) (ch : UInt8) (n : ConsoleId) : Mark :=
  let wrapped := wrapLine k n
  ⟨n, scrollsOf wrapped.drawn, (wrapped.ttys n).cursorY.toNat, (wrapped.ttys n).cursorX.toNat, ch⟩

def print (n : ConsoleId) (k : Consoles) (ch : UInt8) : Except Ke.Stop (Mark × Consoles) :=
  (consoleOutbyte k ch n).map fun k' => (mark k ch n, k')

/-- console_outbyte draws on this console. -/
structure Draws (k : Consoles) (n : ConsoleId) : Prop where
  width : k.display.charWidth ≠ 0
  height : k.display.charHeight ≠ 0
  useGui : k.display.useGui = true
  initialized : (k.ttys n).initialized = true
  echo : (k.ttys n).echo = true

def Printable (ch : UInt8) : Prop :=
  32 ≤ ch ∧ ch ≠ 127

def pen (k : Consoles) (n : ConsoleId) : Pen :=
  let t := k.ttys n
  ⟨t.cursorX.toNat, scrollsOf k.drawn + t.cursorY.toNat, t.cursorBottom.toNat - 1 - t.cursorY.toNat⟩

/-- Every character of the string is drawn, in a cell behind that of the one before,
    the first not before the cursor. -/
def KeepsAll (k : Consoles) (n : ConsoleId) (string : List UInt8) : Prop :=
  ∃ marks k', Machine.run (print n) k string = .ok (marks, k') ∧
    marks.map Mark.ch = string ∧
    charsOf k'.drawn = charsOf k.drawn ++ marks.map (Mark.pixels k.display) ∧
    Reading ((pen k n).line, (pen k n).column) (marks.map Mark.place)

section Requests

variable {k k' : Consoles} {n : ConsoleId} {ch : UInt8} {t : Tty}

@[simp] theorem scrollsOf_append (early late : List Draw) :
    scrollsOf (early ++ late) = scrollsOf early + scrollsOf late := List.count_append

@[simp] theorem charsOf_append (early late : List Draw) :
    charsOf (early ++ late) = charsOf early ++ charsOf late := List.filterMap_append

/-- The line is the last one, and is full. -/
def Tty.atEnd (t : Tty) : Bool :=
  t.wrap.cursorY ≥ t.wrap.cursorBottom

theorem toNat_pred {x bound : UInt64} (below : x < bound) :
    (bound - 1).toNat = bound.toNat - 1 := by
  have order : x.toNat < bound.toNat := UInt64.lt_iff_toNat_lt.mp below
  apply UInt64.toNat_sub_of_le
  rw [UInt64.le_iff_toNat_le, UInt64.toNat_one]
  omega

theorem toNat_succ {x bound : UInt64} (below : x < bound) : (x + 1).toNat = x.toNat + 1 := by
  have order : x.toNat < bound.toNat := UInt64.lt_iff_toNat_lt.mp below
  have limit := bound.toNat_lt
  rw [UInt64.toNat_add, UInt64.toNat_one]
  omega

theorem hasRoom_iff (inside : t.cursorX < t.cursorRight) :
    t.hasRoom = true ↔ t.cursorX.toNat + 1 < t.cursorRight.toNat := by
  simp only [Tty.hasRoom, decide_eq_true_eq]
  rw [UInt64.lt_iff_toNat_lt, toNat_pred inside]
  omega

theorem atEnd_iff (on_screen : t.OnScreen) :
    t.atEnd = true ↔ t.hasRoom = false ∧ t.cursorY.toNat + 1 = t.cursorBottom.toNat := by
  obtain ⟨left, right, top, bottom⟩ := on_screen
  have order : t.cursorY.toNat < t.cursorBottom.toNat := UInt64.lt_iff_toNat_lt.mp bottom
  rw [Tty.atEnd, decide_eq_true_iff, Tty.wrap]
  by_cases room : t.hasRoom = true
  · simp [room, bottom]
  · rw [if_neg room, ge_iff_le, UInt64.le_iff_toNat_le]
    simp only [toNat_succ bottom, Bool.not_eq_true _ ▸ room, true_and]
    omega

@[simp] theorem modify_drawn {change : Tty → Tty} : (k.modify n change).drawn = k.drawn := rfl

theorem scroll_drawn (useGui : k.display.useGui = true) :
    scrollsOf (k.scrollIfFullscreen n).drawn =
        scrollsOf k.drawn + (if (k.ttys n).fullscreen then 1 else 0) ∧
      charsOf (k.scrollIfFullscreen n).drawn = charsOf k.drawn := by
  unfold Consoles.scrollIfFullscreen
  split
  · have gui : ¬(!k.display.useGui) = true := by simp [useGui]
    rw [consoleScrollRect, if_neg gui, if_neg (not_not_intro rfl)]
    simp only [Consoles.draw, modify_drawn, scrollsOf_append, charsOf_append]
    simp [scrollsOf, charsOf]
  · exact ⟨rfl, rfl⟩

/-- What the wrapped line adds to the requests: a scroll, or nothing. -/
theorem wrapLine_drawn (useGui : k.display.useGui = true) :
    scrollsOf (wrapLine k n).drawn = scrollsOf k.drawn +
        (if (k.ttys n).atEnd ∧ (k.ttys n).fullscreen then 1 else 0) ∧
      charsOf (wrapLine k n).drawn = charsOf k.drawn := by
  have fullscreen : (k.ttys n).wrap.fullscreen = (k.ttys n).fullscreen := by
    unfold Tty.wrap
    split <;> rfl
  have at_end : (k.ttys n).atEnd = true ↔
      (k.ttys n).wrap.cursorY ≥ (k.ttys n).wrap.cursorBottom := by simp [Tty.atEnd]
  simp only [wrapLine, modify_self]
  by_cases last : (k.ttys n).wrap.cursorY ≥ (k.ttys n).wrap.cursorBottom
  · have gui : (k.modify n Tty.wrap).display.useGui = true := useGui
    have scrolled := @scroll_drawn (k.modify n Tty.wrap) n gui
    rw [modify_self, fullscreen] at scrolled
    rw [if_pos last, modify_drawn, scrolled.1, scrolled.2]
    simp [at_end.mpr last]
  · rw [if_neg last, if_neg (fun both => last (at_end.mp both.1))]
    exact ⟨rfl, rfl⟩

theorem outbyte_prints (draws : Draws k n) (printable : Printable ch) :
    consoleOutbyte k ch n = printChar k ch n := by
  have others : ch ≠ 12 ∧ ch ≠ 10 ∧ ch ≠ 13 ∧ ch ≠ 9 ∧ ch ≠ 8 := by
    refine ⟨?_, ?_, ?_, ?_, ?_⟩ <;>
      rintro rfl <;> exact absurd printable.1 (by decide)
  rcases others with ⟨feed, line, carriage, tab, back⟩
  have size : ¬(k.display.charWidth = 0 ∨ k.display.charHeight = 0) :=
    fun zero => zero.elim draws.width draws.height
  rw [consoleOutbyte, if_neg size, draws.initialized, if_neg (by simp), if_neg feed, if_neg line,
    if_neg carriage, if_neg tab, if_neg back]

theorem finishChar_drawn {increment : Bool} :
    scrollsOf (finishChar k ch n increment).drawn = scrollsOf k.drawn ∧
      charsOf (finishChar k ch n increment).drawn = charsOf k.drawn := by
  have refreshed : ∀ k : Consoles, scrollsOf (k.refreshChar n).drawn = scrollsOf k.drawn ∧
      charsOf (k.refreshChar n).drawn = charsOf k.drawn := by
    intro k
    simp only [Consoles.refreshChar, Consoles.draw, scrollsOf_append, charsOf_append]
    simp [scrollsOf, charsOf]
  unfold finishChar
  split <;> exact refreshed _

theorem print_spec (draws : Draws k n) (printable : Printable ch) :
    ∃ k', print n k ch = .ok (mark k ch n, k') ∧ Kept k k' ∧
      k'.ttys n = (k.ttys n).printed ch ∧ scrollsOf k'.drawn = (mark k ch n).scrolled ∧
      charsOf k'.drawn = charsOf k.drawn ++ [(mark k ch n).pixels k.display] := by
  have kept := @kept_wrapLine k n
  have echo : ((wrapLine k n).ttys n).echo = true :=
    (congrArg (fun setup => setup.1.2.2.2) (kept.setup n)).trans draws.echo
  have size : ¬((wrapLine k n).display.charWidth = 0 ∨ (wrapLine k n).display.charHeight = 0) := by
    rw [kept.display]
    exact fun zero => zero.elim draws.width draws.height
  have gui : ¬(!(wrapLine k n).display.useGui) = true := by
    rw [kept.display, draws.useGui]
    simp
  have drawn : drawChar (wrapLine k n) ch n = .ok ((wrapLine k n).draw
      [.char (toLong (wrapLine k n).display.charWidth * ((wrapLine k n).ttys n).cursorX)
        (toLong (wrapLine k n).display.charHeight * ((wrapLine k n).ttys n).cursorY) ch
        ((wrapLine k n).ttys n).fgColor ((wrapLine k n).ttys n).bgColor]) := by
    rw [drawChar, if_pos echo, consoleOutbyteImp]
    simp only [if_neg size, if_neg gui]
  have prints := outbyte_prints draws printable
  rw [printChar, drawn] at prints
  change _ = Except.ok (finishChar _ ch n (k.ttys n).hasRoom) at prints
  have wrapped := @wrapLine_drawn k n draws.useGui
  refine ⟨_, by rw [print, prints]; rfl, kept_outbyte _ prints, ?_, ?_, ?_⟩
  · rw [outbyte_prints draws printable] at prints
    exact (only_printChar _ prints).1
  · rw [finishChar_drawn.1, Consoles.draw, scrollsOf_append]
    rfl
  · rw [finishChar_drawn.2, Consoles.draw, charsOf_append, wrapped.2]
    simp [charsOf, mark, Mark.pixels, kept.display]

theorem wrapped_room (on_screen : t.OnScreen) (room : t.hasRoom = true) :
    t.wrapped = t ∧ t.atEnd = false := by
  have bottom : ¬t.cursorY ≥ t.cursorBottom := UInt64.not_le.mpr on_screen.2.2.2
  simp [Tty.wrapped, Tty.atEnd, Tty.wrap, room, bottom]

theorem wrapped_full (on_screen : t.OnScreen) (full : t.hasRoom = false) :
    t.wrapped.cursorX = t.cursorLeft ∧
      t.wrapped.cursorY.toNat = if t.atEnd then t.cursorY.toNat else t.cursorY.toNat + 1 := by
  have last := atEnd_iff on_screen
  have bottom := on_screen.2.2.2
  have at_end : t.atEnd = true ↔ t.wrap.cursorY ≥ t.wrap.cursorBottom := by simp [Tty.atEnd]
  have fields : t.wrap.cursorX = t.cursorLeft ∧ t.wrap.cursorY = t.cursorY + 1 ∧
      t.wrap.cursorLeft = t.cursorLeft ∧ t.wrap.cursorBottom = t.cursorBottom := by
    simp [Tty.wrap, full]
  rw [Tty.wrapped]
  by_cases ended : t.wrap.cursorY ≥ t.wrap.cursorBottom
  · have line := (last.mp (at_end.mpr ended)).2
    rw [if_pos ended, if_pos (at_end.mpr ended)]
    simp only [Tty.lastLine, fields]
    refine ⟨trivial, ?_⟩
    rw [toNat_pred bottom]
    omega
  · rw [if_neg ended, if_neg (mt at_end.mp ended)]
    exact ⟨fields.1, by rw [fields.2.1, toNat_succ bottom]⟩

theorem printed_cursor : (t.printed ch).cursorY = t.wrapped.cursorY ∧
    (t.printed ch).cursorX = (if t.hasRoom then t.wrapped.cursorX + 1 else t.wrapped.cursorX) :=
  ⟨rfl, rfl⟩

/-- The cell is where the pen is, and the pen moves on as the cursor does. -/
theorem print_pen (draws : Draws k n) (on_screen : (k.ttys n).OnScreen)
    (after : k'.ttys n = (k.ttys n).printed ch)
    (drawn : scrollsOf k'.drawn = (mark k ch n).scrolled) :
    (mark k ch n).place = (pen k n).place (k.ttys n).cursorLeft.toNat
        (k.ttys n).cursorRight.toNat (k.ttys n).fullscreen ∧
      pen k' n = (pen k n).next (k.ttys n).cursorLeft.toNat (k.ttys n).cursorRight.toNat
        (k.ttys n).fullscreen := by
  have room := hasRoom_iff on_screen.2.1
  have last := atEnd_iff on_screen
  have scrolled := (@wrapLine_drawn k n draws.useGui).1
  have wrapped : (wrapLine k n).ttys n = (k.ttys n).wrapped := only_wrapLine.1
  have bottom : (k'.ttys n).cursorBottom = (k.ttys n).cursorBottom := by
    have margins := (@printed_same ch (k.ttys n)).2
    rw [after]
    exact congrArg (fun margins => margins.2.2) margins
  have below : (k.ttys n).cursorY.toNat < (k.ttys n).cursorBottom.toNat :=
    UInt64.lt_iff_toNat_lt.mp on_screen.2.2.2
  have here : (mark k ch n).place = (scrollsOf k'.drawn + (k.ttys n).wrapped.cursorY.toNat,
      (k.ttys n).wrapped.cursorX.toNat) := by
    rw [drawn, ← wrapped]
    rfl
  -- A character scrolls at most once, before it is drawn.
  have count : scrollsOf k'.drawn = scrollsOf k.drawn +
      (if (k.ttys n).atEnd ∧ (k.ttys n).fullscreen then 1 else 0) := drawn.trans scrolled
  have there : pen k' n = ⟨((k.ttys n).printed ch).cursorX.toNat,
      scrollsOf k'.drawn + (k.ttys n).wrapped.cursorY.toNat,
      (k.ttys n).cursorBottom.toNat - 1 - (k.ttys n).wrapped.cursorY.toNat⟩ := by
    rw [pen, bottom, after]
    rfl
  rw [here, there, count, printed_cursor.2]
  -- By the pen's three moves: on, to the next line, or stuck in the last place.
  cases free : (k.ttys n).hasRoom with
  | true =>
      obtain ⟨same, not_last⟩ := wrapped_room on_screen free
      have wide : (pen k n).column + 1 < (k.ttys n).cursorRight.toNat := room.mp free
      rw [Pen.place_room wide, Pen.next_room wide, same, not_last, if_pos rfl,
        toNat_succ on_screen.2.1]
      simp [pen]
  | false =>
      obtain ⟨column, line⟩ := wrapped_full on_screen free
      have full : ¬(pen k n).column + 1 < (k.ttys n).cursorRight.toNat := by
        intro wide
        rw [room.mpr wide] at free
        cases free
      rw [column, line]
      cases ended : (k.ttys n).atEnd with
      | false =>
          have apart : ¬(k.ttys n).cursorY.toNat + 1 = (k.ttys n).cursorBottom.toNat := by
            intro same
            rw [last.mpr ⟨free, same⟩] at ended
            cases ended
          have more : 0 < (pen k n).below := by
            simp only [pen]
            omega
          rw [Pen.place_wrap full (Or.inl more), Pen.next_wrap full (Or.inl more)]
          simp [pen, Nat.add_assoc]
          omega
      | true =>
          have line_last := (last.mp ended).2
          have none : (pen k n).below = 0 := by
            simp only [pen]
            omega
          cases scrolls : (k.ttys n).fullscreen with
          | true =>
              rw [Pen.place_wrap full (Or.inr rfl), Pen.next_wrap full (Or.inr rfl), none]
              simp [pen]
              omega
          | false =>
              have stuck : ¬(0 < (pen k n).below ∨ false = true) := by simp [none]
              rw [Pen.place_stay full stuck, Pen.next_stay full stuck]
              simp [pen]
              omega

end Requests

section Strings

variable {k k' : Consoles} {n : ConsoleId} {ch : UInt8}

theorem draws_kept (draws : Draws k n) (kept : Kept k k') : Draws k' n where
  width := by
    rw [kept.display]
    exact draws.width
  height := by
    rw [kept.display]
    exact draws.height
  useGui := by
    rw [kept.display]
    exact draws.useGui
  initialized := (congrArg (fun setup => setup.1.1) (kept.setup n)).trans draws.initialized
  echo := (congrArg (fun setup => setup.1.2.2.2) (kept.setup n)).trans draws.echo

theorem run_print (draws : Draws k n) (on_screen : (k.ttys n).OnScreen) (string : List UInt8)
    (printable : ∀ ch ∈ string, Printable ch) :
    ∃ marks k', Machine.run (print n) k string = .ok (marks, k') ∧ marks.map Mark.ch = string ∧
      charsOf k'.drawn = charsOf k.drawn ++ marks.map (Mark.pixels k.display) ∧
      marks.map Mark.place = (pen k n).places (k.ttys n).cursorLeft.toNat
        (k.ttys n).cursorRight.toNat (k.ttys n).fullscreen string.length := by
  induction string generalizing k with
  | nil => exact ⟨[], k, rfl, rfl, by simp, rfl⟩
  | cons ch rest ih =>
      obtain ⟨k₁, first, kept, after, scrolled, drawn⟩ :=
        print_spec draws (printable ch List.mem_cons_self)
      obtain ⟨place, next⟩ := print_pen draws on_screen after scrolled
      have still : (k₁.ttys n).OnScreen := by
        rw [after]
        exact printed_onScreen on_screen
      have margins : (k₁.ttys n).margins = (k.ttys n).margins := by
        rw [after]
        exact printed_same.2
      have left : (k₁.ttys n).cursorLeft = (k.ttys n).cursorLeft :=
        congrArg (fun margins => margins.1.1) margins
      have right : (k₁.ttys n).cursorRight = (k.ttys n).cursorRight :=
        congrArg (fun margins => margins.2.1) margins
      have fullscreen : (k₁.ttys n).fullscreen = (k.ttys n).fullscreen :=
        congrArg (fun setup => setup.1.2.2.1) (kept.setup n)
      obtain ⟨marks, k₂, later, chars, later_drawn, places⟩ :=
        ih (draws_kept draws kept) still fun ch' inside =>
          printable ch' (List.mem_cons_of_mem ch inside)
      refine ⟨mark k ch n :: marks, k₂, ?_, ?_, ?_, ?_⟩
      · rw [Machine.run_cons_of_ok first, later]
        rfl
      · rw [List.map_cons, chars]
        rfl
      · rw [later_drawn, drawn, kept.display]
        simp
      · rw [List.map_cons, places, place, next, left, right, fullscreen]
        rfl

theorem keepsAll_iff (draws : Draws k n) (on_screen : (k.ttys n).OnScreen) (string : List UInt8)
    (printable : ∀ ch ∈ string, Printable ch) :
    KeepsAll k n string ↔ Fits (k.ttys n).cursorLeft.toNat (k.ttys n).cursorRight.toNat
      (k.ttys n).fullscreen (pen k n) string.length := by
  obtain ⟨marks, k', ran, chars, drawn, places⟩ := run_print draws on_screen string printable
  have inside : (k.ttys n).cursorLeft.toNat ≤ (pen k n).column ∧
      (pen k n).column < (k.ttys n).cursorRight.toNat :=
    ⟨UInt64.le_iff_toNat_le.mp on_screen.1, UInt64.lt_iff_toNat_lt.mp on_screen.2.1⟩
  rw [← reading_iff string.length inside, ← places]
  constructor
  · rintro ⟨marks', k'', ran', -, -, reading⟩
    rw [ran] at ran'
    cases ran'
    exact reading
  · intro reading
    exact ⟨marks, k', ran, chars, drawn, reading⟩

end Strings

/-- The columns of the line that a mode of `ESC [ K` names. -/
def part (t : Tty) (mode : Int32) : Option (Nat × Nat) :=
  match mode.toInt with
  | 0 => some (t.cursorX.toNat, t.cursorRight.toNat)
  | 1 => some (t.cursorLeft.toNat, t.cursorX.toNat + 1)
  | 2 => some (t.cursorLeft.toNat, t.cursorRight.toNat)
  | _ => none

/-- A blank in each of these columns of a line. -/
def blanks (n : ConsoleId) (scrolled row start stop : Nat) : List Mark :=
  (List.range' start (stop - start)).map fun column => ⟨n, scrolled, row, column, 32⟩

/-- One turn of the loop of csi_K. -/
def eraseStep (y : UInt64) (n : ConsoleId) (k : Consoles) (col : UInt64) :
    Except Ke.Stop (Mark × Consoles) :=
  print n (localGotoxy k (toInt col) (toInt y) n) 32

def columns (start : UInt64) (count : Nat) : List UInt64 :=
  (List.range count).map fun i => start + UInt64.ofNat i

def ErasedAs (k : Consoles) (mode : Int32) (marks : List Mark) : Prop :=
  let m := k.fgConsole
  ∃ start stop last, erased (k.ttys m) mode = some (start, stop) ∧
    Machine.run (eraseStep (k.ttys m).cursorY m) k (columns start (stop.toNat - start.toNat)) =
      .ok (marks, last)

/-- The named part of the line of this console is blanked, and nothing else. -/
def ErasesPart (k : Consoles) (n : ConsoleId) (mode : Int32) : Prop :=
  let t := k.ttys n
  match part t mode with
  | none => csiK k mode = .ok k
  | some (start, stop) => ∃ k', csiK k mode = .ok k' ∧
      let marks := blanks n (scrollsOf k.drawn) t.cursorY.toNat start stop
      ErasedAs k mode marks ∧
        charsOf k'.drawn = charsOf k.drawn ++ marks.map (Mark.pixels k.display) ∧
        scrollsOf k'.drawn = scrollsOf k.drawn ∧
        (k'.ttys n).cursorX = t.cursorX ∧ (k'.ttys n).cursorY = t.cursorY

/-- The one cell of a narrow last line is its own place to wrap to. -/
def Tty.WrapsInPlace (t : Tty) : Prop :=
  t.cursorLeft.toNat + 1 = t.cursorRight.toNat ∧
    t.cursorY.toNat + 1 = t.cursorBottom.toNat ∧ t.fullscreen = false

/-- No part is named; or the console is in the foreground, and the part ends in front
    of the last column. -/
def EraseRight (k : Consoles) (n : ConsoleId) (mode : Int32) : Prop :=
  part (k.ttys n) mode = none ∨
    n = k.fgConsole ∧
      (mode = 1 ∧ (k.ttys n).cursorX.toNat + 1 < (k.ttys n).cursorRight.toNat ∨
        (k.ttys n).WrapsInPlace)

section Erasing

variable {k k' : Consoles} {n : ConsoleId} {t : Tty} {x y col start stop : UInt64} {mode : Int32}

theorem columns_succ (start : UInt64) (count : Nat) :
    columns start (count + 1) = start :: columns (start + 1) count := by
  rw [columns, List.range_succ_eq_map, List.map_cons, List.map_map]
  congr 1
  · exact UInt64.add_zero start
  · apply List.map_congr_left
    intro i _
    rw [Function.comp_apply, Nat.succ_eq_add_one, UInt64.ofNat_add, UInt64.add_assoc,
      UInt64.add_comm (UInt64.ofNat i)]
    rfl

theorem eraseColumns_run (count : Nat) :
    eraseColumns y n count col k =
      (Machine.run (eraseStep y n) k (columns col count)).map Prod.snd := by
  induction count generalizing col k with
  | zero => rfl
  | succ count ih =>
      rw [eraseColumns, columns_succ]
      cases drawn : consoleOutbyte (localGotoxy k (toInt col) (toInt y) n) 32 n with
      | error stop =>
          have stopped : eraseStep y n k col = .error stop := by
            rw [eraseStep, print, drawn]
            rfl
          simp only [Machine.run, stopped]
          rfl
      | ok k₁ =>
          have first : eraseStep y n k col =
              .ok (mark (localGotoxy k (toInt col) (toInt y) n) 32 n, k₁) := by
            rw [eraseStep, print, drawn]
            rfl
          rw [Machine.run_cons_of_ok first]
          change eraseColumns y n count (col + 1) k₁ = _
          rw [ih]
          cases Machine.run (eraseStep y n) k₁ (columns (col + 1) count) <;> rfl

theorem erased_part (on_screen : t.OnScreen) :
    (erased t mode).map (fun range => (range.1.toNat, range.2.toNat)) = part t mode := by
  have next := toNat_succ on_screen.2.1
  unfold erased
  split <;> simp [part, *]

theorem gotoxy_inside (sized : (k.ttys n).Sized) (inX : x ≤ (k.ttys n).cursorRight)
    (inY : y ≤ (k.ttys n).cursorBottom) :
    (localGotoxy k (toInt x) (toInt y) n).ttys n =
      { k.ttys n with cursorX := x, cursorY := y } := by
  have smallX : x.toNat < 2 ^ 31 := Nat.lt_of_le_of_lt (UInt64.le_iff_toNat_le.mp inX) sized.1
  have smallY : y.toNat < 2 ^ 31 := Nat.lt_of_le_of_lt (UInt64.le_iff_toNat_le.mp inY) sized.2
  have accepted : (k.ttys n).accepts (toInt x) (toInt y) = true := by
    simp [Tty.accepts, toLong_toInt smallX, toLong_toInt smallY, inX, inY]
  rw [localGotoxy, modify_self, if_pos accepted, Tty.moveTo, toInt_long smallX, toInt_long smallY]

theorem erase_console {cols : List UInt64} {marks : List Mark} {last : Consoles}
    (ran : Machine.run (eraseStep y n) k cols = .ok (marks, last)) :
    marks.length = cols.length ∧ ∀ m ∈ marks, m.console = n := by
  induction cols generalizing k marks with
  | nil =>
      cases ran
      exact ⟨rfl, fun m inside => absurd inside List.not_mem_nil⟩
  | cons col rest ih =>
      obtain ⟨m, k₁, others, first, later, rfl⟩ := Machine.run_cons_ok ran
      obtain ⟨length, consoles⟩ := ih later
      have here : m.console = n := by
        rw [eraseStep, print] at first
        cases drawn : consoleOutbyte (localGotoxy k (toInt col) (toInt y) n) 32 n with
        | error stop =>
            rw [drawn] at first
            cases first
        | ok k₂ =>
            rw [drawn] at first
            cases first
            rfl
      refine ⟨by simp [length], ?_⟩
      intro m' inside
      rcases List.mem_cons.mp inside with rfl | inside
      · exact here
      · exact consoles m' inside

/-- The mark of a blank in the last column is elsewhere, but for the narrow last line. -/
theorem blank_mark (draws : Draws k n) (on_screen : (k.ttys n).OnScreen) :
    mark k 32 n = ⟨n, scrollsOf k.drawn, (k.ttys n).cursorY.toNat, (k.ttys n).cursorX.toNat, 32⟩ ↔
      (k.ttys n).cursorX.toNat + 1 < (k.ttys n).cursorRight.toNat ∨ (k.ttys n).WrapsInPlace := by
  have room := hasRoom_iff on_screen.2.1
  have last := atEnd_iff on_screen
  have inside : (k.ttys n).cursorX.toNat < (k.ttys n).cursorRight.toNat :=
    UInt64.lt_iff_toNat_lt.mp on_screen.2.1
  have after : (k.ttys n).cursorLeft.toNat ≤ (k.ttys n).cursorX.toNat :=
    UInt64.le_iff_toNat_le.mp on_screen.1
  have scrolled := (@wrapLine_drawn k n draws.useGui).1
  have wrapped : (wrapLine k n).ttys n = (k.ttys n).wrapped := only_wrapLine.1
  simp only [mark, wrapped, scrolled, Mark.mk.injEq, true_and, and_true, Tty.WrapsInPlace]
  cases free : (k.ttys n).hasRoom with
  | true =>
      obtain ⟨same, not_last⟩ := wrapped_room on_screen free
      simp [same, not_last, room.mp free]
  | false =>
      obtain ⟨column, line⟩ := wrapped_full on_screen free
      have full : ¬(k.ttys n).cursorX.toNat + 1 < (k.ttys n).cursorRight.toNat := by
        intro wide
        rw [room.mpr wide] at free
        cases free
      rw [column, line]
      cases ended : (k.ttys n).atEnd with
      | false =>
          have apart : ¬(k.ttys n).cursorY.toNat + 1 = (k.ttys n).cursorBottom.toNat := by
            intro same
            rw [last.mpr ⟨free, same⟩] at ended
            cases ended
          simp [full, apart]
      | true =>
          have line_last := (last.mp ended).2
          cases (k.ttys n).fullscreen
          · simp [full, line_last]
            omega
          · simp [Nat.not_lt.mp full]

/-- The line that is erased and the columns of it that are left, in numbers. -/
structure Line (k : Consoles) (n : ConsoleId) (y start : UInt64) (count : Nat) : Prop where
  draws : Draws k n
  sized : (k.ttys n).Sized
  top : (k.ttys n).cursorTop ≤ y
  bottom : y < (k.ttys n).cursorBottom
  left : (k.ttys n).cursorLeft ≤ start
  right : start.toNat + count ≤ (k.ttys n).cursorRight.toNat

theorem eraseStep_spec {count : Nat} (line : Line k n y col (count + 1)) :
    ∃ m k', eraseStep y n k col = .ok (m, k') ∧ Kept k k' ∧
      (k'.ttys n).margins = (k.ttys n).margins ∧ scrollsOf k'.drawn = m.scrolled ∧
      charsOf k'.drawn = charsOf k.drawn ++ [m.pixels k.display] ∧
      (m = ⟨n, scrollsOf k.drawn, y.toNat, col.toNat, 32⟩ ↔
        col.toNat + 1 < (k.ttys n).cursorRight.toNat ∨
          { k.ttys n with cursorX := col, cursorY := y }.WrapsInPlace) := by
  have before : col.toNat < (k.ttys n).cursorRight.toNat := by
    have right := line.right
    omega
  have inside : col < (k.ttys n).cursorRight := UInt64.lt_iff_toNat_lt.mpr before
  have moved := gotoxy_inside line.sized (UInt64.le_of_lt inside) (UInt64.le_of_lt line.bottom)
  have kept := @kept_gotoxy k n (toInt col) (toInt y)
  have on_screen : ((localGotoxy k (toInt col) (toInt y) n).ttys n).OnScreen := by
    rw [moved]
    exact ⟨line.left, inside, line.top, line.bottom⟩
  have draws := draws_kept line.draws kept
  obtain ⟨k', drawn, later, after, scrolled, chars⟩ :=
    @print_spec _ _ 32 draws ⟨by decide, by decide⟩
  have exact_mark := blank_mark draws on_screen
  rw [moved] at exact_mark
  refine ⟨_, k', drawn, kept_trans kept later, ?_, scrolled, chars, exact_mark⟩
  rw [after, printed_same.2, moved]
  rfl

theorem line_next {count : Nat} (line : Line k n y col (count + 1)) (kept : Kept k k')
    (margins : (k'.ttys n).margins = (k.ttys n).margins) : Line k' n y (col + 1) count := by
  have left : (k'.ttys n).cursorLeft = (k.ttys n).cursorLeft :=
    congrArg (fun margins => margins.1.1) margins
  have top : (k'.ttys n).cursorTop = (k.ttys n).cursorTop :=
    congrArg (fun margins => margins.1.2) margins
  have right : (k'.ttys n).cursorRight = (k.ttys n).cursorRight :=
    congrArg (fun margins => margins.2.1) margins
  have bottom : (k'.ttys n).cursorBottom = (k.ttys n).cursorBottom :=
    congrArg (fun margins => margins.2.2) margins
  have inside : col < (k.ttys n).cursorRight := by
    rw [UInt64.lt_iff_toNat_lt]
    have right := line.right
    omega
  have next := toNat_succ inside
  constructor
  · exact draws_kept line.draws kept
  · rw [Tty.Sized, right, bottom]
    exact line.sized
  · rw [top]
    exact line.top
  · rw [bottom]
    exact line.bottom
  · rw [left, UInt64.le_iff_toNat_le, next]
    exact Nat.le_succ_of_le (UInt64.le_iff_toNat_le.mp line.left)
  · rw [right, next, Nat.add_assoc, Nat.add_comm 1 count]
    exact line.right

/-- The marks of the loop are the blanks of its columns exactly if they end in front of
    the last column of the line. -/
theorem erase_run (count : Nat) (line : Line k n y col count) :
    ∃ marks k', Machine.run (eraseStep y n) k (columns col count) = .ok (marks, k') ∧
      Kept k k' ∧ (k'.ttys n).margins = (k.ttys n).margins ∧
      charsOf k'.drawn = charsOf k.drawn ++ marks.map (Mark.pixels k.display) ∧
      (marks = blanks n (scrollsOf k.drawn) y.toNat col.toNat (col.toNat + count) →
        scrollsOf k'.drawn = scrollsOf k.drawn) ∧
      (marks = blanks n (scrollsOf k.drawn) y.toNat col.toNat (col.toNat + count) ↔
        count = 0 ∨ col.toNat + count < (k.ttys n).cursorRight.toNat ∨
          { k.ttys n with cursorY := y }.WrapsInPlace) := by
  induction count generalizing k col with
  | zero =>
      refine ⟨[], k, rfl, kept_refl, rfl, by simp, fun _ => rfl, ?_⟩
      simp [blanks]
  | succ count ih =>
      obtain ⟨m, k₁, first, kept, margins, scrolled, chars, here⟩ := eraseStep_spec line
      have rest := line_next line kept margins
      obtain ⟨marks, k₂, later, kept₂, margins₂, chars₂, still, there⟩ := ih rest
      have inside : col < (k.ttys n).cursorRight := by
        rw [UInt64.lt_iff_toNat_lt]
        have right := line.right
        omega
      have next := toNat_succ inside
      have right : (k₁.ttys n).cursorRight = (k.ttys n).cursorRight :=
        congrArg (fun margins => margins.2.1) margins
      have split : blanks n (scrollsOf k.drawn) y.toNat col.toNat (col.toNat + (count + 1)) =
          ⟨n, scrollsOf k.drawn, y.toNat, col.toNat, 32⟩ ::
            blanks n (scrollsOf k.drawn) y.toNat (col.toNat + 1) (col.toNat + 1 + count) := by
        simp [blanks, List.range'_succ]
      have fullscreen : (k₁.ttys n).fullscreen = (k.ttys n).fullscreen :=
        congrArg (fun setup => setup.1.2.2.1) (kept.setup n)
      have in_place : ({ k₁.ttys n with cursorY := y } : Tty).WrapsInPlace ↔
          ({ k.ttys n with cursorY := y } : Tty).WrapsInPlace := by
        have left : (k₁.ttys n).cursorLeft = (k.ttys n).cursorLeft :=
          congrArg (fun margins => margins.1.1) margins
        have bottom : (k₁.ttys n).cursorBottom = (k.ttys n).cursorBottom :=
          congrArg (fun margins => margins.2.2) margins
        simp only [Tty.WrapsInPlace, left, right, bottom, fullscreen]
      rw [right, next, in_place] at there
      rw [next] at still
      -- The rest is blanked in the same line only if the first blank did not scroll.
      have unscrolled : m = ⟨n, scrollsOf k.drawn, y.toNat, col.toNat, 32⟩ →
          scrollsOf k₁.drawn = scrollsOf k.drawn := by
        rintro rfl
        exact scrolled
      refine ⟨m :: marks, k₂, ?_, kept_trans kept kept₂, margins₂.trans margins, ?_, ?_, ?_⟩
      · rw [columns_succ, Machine.run_cons_of_ok first, later]
        rfl
      · rw [chars₂, chars, kept.display]
        simp
      · rw [split]
        intro same
        obtain ⟨first_same, rest_same⟩ := List.cons.inj same
        have count_same := unscrolled first_same
        rw [← count_same] at rest_same
        exact (still rest_same).trans count_same
      · rw [split, List.cons.injEq]
        have narrow : ({ k.ttys n with cursorX := col, cursorY := y } : Tty).WrapsInPlace ↔
            ({ k.ttys n with cursorY := y } : Tty).WrapsInPlace := Iff.rfl
        have bound := line.right
        rw [narrow] at here
        constructor
        · rintro ⟨first_same, rest_same⟩
          rw [← unscrolled first_same] at rest_same
          have placed := here.mp first_same
          have later_placed := there.mp rest_same
          by_cases wraps : ({ k.ttys n with cursorY := y } : Tty).WrapsInPlace
          · exact Or.inr (Or.inr wraps)
          · simp only [wraps, or_false] at placed later_placed ⊢
            omega
        · intro ends
          have first_same : m = ⟨n, scrollsOf k.drawn, y.toNat, col.toNat, 32⟩ := by
            apply here.mpr
            by_cases wraps : ({ k.ttys n with cursorY := y } : Tty).WrapsInPlace
            · exact Or.inr wraps
            · simp only [wraps, or_false] at ends ⊢
              omega
          refine ⟨first_same, ?_⟩
          rw [← unscrolled first_same]
          apply there.mpr
          by_cases wraps : ({ k.ttys n with cursorY := y } : Tty).WrapsInPlace
          · exact Or.inr (Or.inr wraps)
          · simp only [wraps, or_false] at ends ⊢
            omega

theorem part_bounds {start stop : Nat} (on_screen : t.OnScreen)
    (named : part t mode = some (start, stop)) :
    t.cursorLeft.toNat ≤ start ∧ start < stop ∧ stop ≤ t.cursorRight.toNat ∧
      (stop < t.cursorRight.toNat ↔ mode = 1 ∧ t.cursorX.toNat + 1 < t.cursorRight.toNat) := by
  have left := UInt64.le_iff_toNat_le.mp on_screen.1
  have right := UInt64.lt_iff_toNat_lt.mp on_screen.2.1
  have one : mode = 1 ↔ mode.toInt = 1 := Int32.toInt_inj.symm
  unfold part at named
  split at named
  · rename_i at_mode
    cases named
    simp [one, at_mode, left, right]
  · rename_i at_mode
    cases named
    simp only [one, at_mode, true_and, iff_self, and_true]
    omega
  · rename_i at_mode
    cases named
    simp only [one, at_mode]
    omega
  · cases named

theorem erased_none {u : Tty} (unnamed : part t mode = none) : erased u mode = none := by
  unfold part at unnamed
  unfold erased
  split at unnamed
  · cases unnamed
  · cases unnamed
  · cases unnamed
  · simp

theorem csiK_run {marks : List Mark} {last : Consoles}
    (named : erased (k.ttys k.fgConsole) mode = some (start, stop))
    (ran : Machine.run (eraseStep (k.ttys k.fgConsole).cursorY k.fgConsole) k
      (columns start (stop.toNat - start.toNat)) = .ok (marks, last)) :
    csiK k mode = .ok (localGotoxy last (toInt (k.ttys k.fgConsole).cursorX)
      (toInt (k.ttys k.fgConsole).cursorY) k.fgConsole) := by
  simp only [csiK, named]
  rw [eraseColumns_run, ran]
  rfl

/-- On another console than the one in the foreground nothing is blanked. -/
theorem erased_elsewhere {startN stopN row scrolled : Nat} (apart : n ≠ k.fgConsole)
    (some_columns : startN < stopN) : ¬ErasedAs k mode (blanks n scrolled row startN stopN) := by
  rintro ⟨start, stop, last, -, ran⟩
  obtain ⟨-, consoles⟩ := erase_console ran
  have head : (⟨n, scrolled, row, startN, 32⟩ : Mark) ∈ blanks n scrolled row startN stopN := by
    simp only [blanks, List.mem_map, List.mem_range'_1]
    exact ⟨startN, by omega, rfl⟩
  exact apart (consoles _ head)

theorem erasesPart_iff (draws : Draws k n) (on_screen : (k.ttys n).OnScreen)
    (sized : (k.ttys n).Sized) (mode : Int32) : ErasesPart k n mode ↔ EraseRight k n mode := by
  cases named : part (k.ttys n) mode with
  | none =>
      have nothing : csiK k mode = .ok k := by
        simp only [csiK, erased_none named]
      simp [ErasesPart, EraseRight, named, nothing]
  | some range =>
      obtain ⟨startN, stopN⟩ := range
      obtain ⟨left, order, right, front⟩ := part_bounds on_screen named
      simp only [ErasesPart, EraseRight, named, reduceCtorEq, false_or]
      by_cases foreground : n = k.fgConsole
      · -- The part is erased by blanks, which scroll if they reach the last place.
        subst foreground
        obtain ⟨range, found, ends⟩ := Option.map_eq_some_iff.mp
          ((erased_part on_screen).trans named)
        obtain ⟨start, stop⟩ := range
        cases ends
        have line : Line k k.fgConsole (k.ttys k.fgConsole).cursorY start
            (stop.toNat - start.toNat) :=
          ⟨draws, sized, on_screen.2.2.1, on_screen.2.2.2, UInt64.le_iff_toNat_le.mpr left,
            by simp only at order right; omega⟩
        obtain ⟨marks, last, ran, kept, margins, chars, still, exact_marks⟩ :=
          erase_run _ line
        have stop_eq : start.toNat + (stop.toNat - start.toNat) = stop.toNat :=
          Nat.add_sub_cancel' (Nat.le_of_lt order)
        have some_columns : ¬stop.toNat - start.toNat = 0 := Nat.sub_ne_zero_of_lt order
        rw [stop_eq] at exact_marks still
        simp only [some_columns, false_or, front] at exact_marks
        have whole := csiK_run found ran
        have marginRight : (last.ttys k.fgConsole).cursorRight = (k.ttys k.fgConsole).cursorRight :=
          congrArg (fun margins => margins.2.1) margins
        have marginBottom : (last.ttys k.fgConsole).cursorBottom =
            (k.ttys k.fgConsole).cursorBottom := congrArg (fun margins => margins.2.2) margins
        have last_sized : (last.ttys k.fgConsole).Sized := by
          rw [Tty.Sized, marginRight, marginBottom]
          exact sized
        have cursor := @gotoxy_inside last k.fgConsole (k.ttys k.fgConsole).cursorX
          (k.ttys k.fgConsole).cursorY last_sized
          (by rw [marginRight]; exact UInt64.le_of_lt on_screen.2.1)
          (by rw [marginBottom]; exact UInt64.le_of_lt on_screen.2.2.2)
        constructor
        · rintro ⟨k', -, ⟨start', stop', last', found', ran'⟩, -⟩
          rw [found] at found'
          cases found'
          rw [ran] at ran'
          cases ran'
          exact ⟨rfl, exact_marks.mp rfl⟩
        · rintro ⟨-, ends⟩
          have same := exact_marks.mpr ends
          refine ⟨_, whole, ⟨start, stop, last, found, same ▸ ran⟩, same ▸ chars, still same,
            ?_, ?_⟩
          · rw [cursor]
          · rw [cursor]
      · -- A console in the background draws, but not on its own lines.
        simp only [foreground, false_and, iff_false, not_exists, not_and]
        intro k' _ drawn
        exact absurd drawn (erased_elsewhere foreground order)

end Erasing

/-- Exactly the strings that fit are kept, and exactly the parts that end in front of
    the last column of the foreground console's line are erased. -/
theorem wrap_erase_iff (k : Consoles) (n : ConsoleId) (draws : Draws k n)
    (on_screen : (k.ttys n).OnScreen) (sized : (k.ttys n).Sized) (string : List UInt8)
    (printable : ∀ ch ∈ string, Printable ch) (mode : Int32) :
    (KeepsAll k n string ↔ Fits (k.ttys n).cursorLeft.toNat (k.ttys n).cursorRight.toNat
        (k.ttys n).fullscreen (pen k n) string.length) ∧
      (ErasesPart k n mode ↔ EraseRight k n mode) :=
  ⟨keepsAll_iff draws on_screen string printable, erasesPart_iff draws on_screen sized mode⟩

theorem fresh_draws : Draws fresh 0 :=
  ⟨by decide, by decide, rfl, rfl, rfl⟩

theorem word_printable : ∀ ch ∈ ([79, 75] : List UInt8), Printable ch := by
  intro ch inside
  simp only [List.mem_cons, List.not_mem_nil, or_false] at inside
  rcases inside with rfl | rfl <;> exact ⟨by decide, by decide⟩

/-- A word of two letters, and the line up to the cursor. -/
theorem fresh_kept : KeepsAll fresh 0 [79, 75] ∧ ErasesPart fresh 0 1 := by
  have both := wrap_erase_iff fresh 0 fresh_draws ⟨by decide, by decide, by decide, by decide⟩
    ⟨by decide, by decide⟩ [79, 75] word_printable 1
  exact ⟨both.1.mpr (Or.inl (by decide)), both.2.mpr (Or.inr ⟨rfl, Or.inl ⟨rfl, by decide⟩⟩)⟩

/-- The cursor is in the last of 80 columns. -/
def lastColumn : Consoles :=
  { fresh with ttys := fun n => { fresh.ttys n with cursorX := 79 } }

/-- Both letters are drawn in the first column of the next line, and the blank for the
    last column is drawn there too. -/
theorem wrapped_overwritten :
    ¬KeepsAll lastColumn 0 [79, 75] ∧ ¬ErasesPart lastColumn 0 0 := by
  have draws : Draws lastColumn 0 := ⟨fresh_draws.width, fresh_draws.height, rfl, rfl, rfl⟩
  have on_screen : (lastColumn.ttys 0).OnScreen := ⟨by decide, by decide, by decide, by decide⟩
  constructor
  · intro kept
    rcases (keepsAll_iff draws on_screen _ word_printable).mp kept with
      short | ⟨exactly, -⟩ | ⟨narrow, -⟩
    · exact absurd short (by decide)
    · exact absurd exactly (by decide)
    · exact absurd narrow (by decide)
  · intro erases
    rcases (erasesPart_iff draws on_screen ⟨by decide, by decide⟩ 0).mp erases with
      unnamed | ⟨-, ⟨one, -⟩ | ⟨narrow, -⟩⟩
    · exact absurd unnamed (by decide)
    · exact absurd one (by decide)
    · exact absurd narrow (by decide)

end Gramado.Chardev.Console
