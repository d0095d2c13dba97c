/-
What no operation of a console changes, and when none of them stops. A write is
followed byte by byte through the stages of the parser.
-/
import Gramado.Chardev.Console
import Gramado.Lib.Fallible
import Mathlib.Tactic.Common

namespace Gramado.Chardev.Console

open Gramado.Ke
open Gramado.Lib.Fallible

/-- What is set up before the first byte. The margins at the top and the bottom are
    only ever written back, through an `int`. -/
def Tty.setup (t : Tty) :
    (Bool × Int32 × Bool × Bool) × (UInt64 × UInt64) × Int32 × Int32 :=
  ((t.initialized, t.magic, t.fullscreen, t.echo), (t.cursorLeft, t.cursorRight),
    toInt t.cursorTop, toInt t.cursorBottom)

/-- The margins that an `int` holds. -/
def Tty.Narrow (t : Tty) : Prop :=
  toLong (toInt t.cursorTop) = t.cursorTop ∧ toLong (toInt t.cursorBottom) = t.cursorBottom

/-- The parser and the set-up are as they were. -/
structure Kept (k k' : Consoles) : Prop where
  display : k'.display = k.display
  fgConsole : k'.fgConsole = k.fgConsole
  stage : k'.stage = k.stage
  npar : k'.npar = k.npar
  setup : ∀ m, (k'.ttys m).setup = (k.ttys m).setup
  narrow : ∀ m, (k.ttys m).Narrow → (k'.ttys m).Narrow

section Frame

variable {k k' k'' : Consoles} {n m : ConsoleId} {ch : UInt8} {t : Tty} {change : Tty → Tty}

theorem kept_refl : Kept k k := ⟨rfl, rfl, rfl, rfl, fun _ => rfl, fun _ => id⟩

theorem kept_trans (first : Kept k k') (second : Kept k' k'') : Kept k k'' where
  display := second.display.trans first.display
  fgConsole := second.fgConsole.trans first.fgConsole
  stage := second.stage.trans first.stage
  npar := second.npar.trans first.npar
  setup := fun m => (second.setup m).trans (first.setup m)
  narrow := fun m => second.narrow m ∘ first.narrow m

@[simp] theorem modify_self : (k.modify n change).ttys n = change (k.ttys n) := if_pos rfl

theorem modify_other (apart : m ≠ n) : (k.modify n change).ttys m = k.ttys m := if_neg apart

theorem kept_modify (same : ∀ t, (change t).setup = t.setup)
    (narrow : ∀ t, t.Narrow → (change t).Narrow) : Kept k (k.modify n change) where
  display := rfl
  fgConsole := rfl
  stage := rfl
  npar := rfl
  setup := by
    intro m
    by_cases here : m = n
    · rw [here, modify_self]
      exact same _
    · rw [modify_other here]
  narrow := by
    intro m
    by_cases here : m = n
    · rw [here, modify_self]
      exact narrow _
    · rw [modify_other here]
      exact id

theorem kept_cursor (same : ∀ t, (change t).setup = t.setup)
    (top : ∀ t, (change t).cursorTop = t.cursorTop)
    (bottom : ∀ t, (change t).cursorBottom = t.cursorBottom) : Kept k (k.modify n change) := by
  refine kept_modify same ?_
  intro t narrow
  rw [Tty.Narrow, top, bottom]
  exact narrow

theorem kept_draw (requests : List Draw) : Kept k (k.draw requests) :=
  ⟨rfl, rfl, rfl, rfl, fun _ => rfl, fun _ => id⟩

theorem kept_gotoxy {x y : Int32} : Kept k (localGotoxy k x y n) := by
  apply kept_cursor
  all_goals
    intro t
    split <;> rfl

theorem kept_scroll {direction : Int32} : Kept k (consoleScrollRect k n direction) := by
  unfold consoleScrollRect
  split
  · exact kept_refl
  · split
    · exact kept_refl
    · refine kept_trans (kept_draw _) (kept_trans (kept_cursor ?_ ?_ ?_) (kept_draw _))
      all_goals
        intro t
        rfl

theorem kept_scrollIfFullscreen : Kept k (k.scrollIfFullscreen n) := by
  unfold Consoles.scrollIfFullscreen
  split
  · exact kept_scroll
  · exact kept_refl

theorem toInt_toLong (x : Int32) : toInt (toLong x) = x := by
  apply Int32.toBitVec_inj.mp
  simp only [toInt, toLong]
  ext i inside
  simp [BitVec.getLsbD_signExtend, inside]
  omega

theorem kept_deleteLine : Kept k (localDeleteLine k n) where
  display := rfl
  fgConsole := rfl
  stage := rfl
  npar := rfl
  setup := by
    intro m
    by_cases here : m = n
    · rw [here, localDeleteLine, modify_self]
      simp only [Tty.setup, toInt_toLong]
    · rw [localDeleteLine, modify_other here]
  narrow := by
    intro m narrow
    by_cases here : m = n
    · rw [here, localDeleteLine, modify_self]
      simp only [Tty.Narrow, toInt_toLong, and_self]
    · rw [localDeleteLine, modify_other here]
      exact narrow

theorem scroll_nowhere : consoleScrollRect k n 1 = k := by
  unfold consoleScrollRect
  split
  · rfl
  · exact if_pos (by decide)

theorem insertLine_eq : localInsertLine k n = localDeleteLine k n := by
  simp only [localInsertLine, localDeleteLine, scroll_nowhere, ite_self]
  simp only [Consoles.modify, Consoles.mk.injEq, and_true]
  funext m
  by_cases here : m = n
  · simp only [if_pos here]
  · simp only [if_neg here]

theorem kept_insertLine : Kept k (localInsertLine k n) := by
  rw [insertLine_eq]
  exact kept_deleteLine

theorem kept_repeat {f : Consoles → Consoles} (once : ∀ k, Kept k (f k)) (times : Nat) :
    Kept k (repeatTimes f times k) := by
  induction times generalizing k with
  | zero => exact kept_refl
  | succ times ih => exact kept_trans (once k) ih

theorem kept_newline : Kept k (newline k n) := by
  simp only [newline]
  have lower : Kept k (if (k.ttys n).cursorY ≥ (k.ttys n).cursorBottom - 1 then
      (k.scrollIfFullscreen n).modify n fun t => { t with cursorY := t.cursorBottom - 1 }
    else k.modify n fun t => { t with cursorY := t.cursorY + 1 }) := by
    split
    · exact kept_trans kept_scrollIfFullscreen (kept_modify (fun t => rfl) fun t => id)
    · exact kept_modify (fun t => rfl) fun t => id
  exact kept_trans lower (kept_modify (fun t => rfl) fun t => id)

theorem kept_wrapLine : Kept k (wrapLine k n) := by
  have wrapped : Kept k (k.modify n Tty.wrap) := by
    apply kept_cursor
    all_goals
      intro t
      unfold Tty.wrap
      split <;> rfl
  simp only [wrapLine]
  split
  · exact kept_trans wrapped (kept_trans kept_scrollIfFullscreen
      (kept_modify (fun t => rfl) fun t => id))
  · exact wrapped

theorem kept_outbyteImp : Returns (consoleOutbyteImp k ch n) (Kept k) := by
  unfold consoleOutbyteImp
  simp only [returns_ite, returns_error, returns_ok, implies_true, true_and]
  intro _ _
  exact kept_draw _

theorem kept_drawChar : Returns (drawChar k ch n) (Kept k) := by
  unfold drawChar
  rw [returns_ite, returns_ok]
  exact ⟨fun _ => kept_outbyteImp, fun _ => kept_refl⟩

theorem kept_refreshChar : Kept k (k.refreshChar n) := kept_draw _

theorem kept_finishChar {increment : Bool} : Kept k (finishChar k ch n increment) := by
  have marked : Kept k (k.modify n fun t => { t with prevChar := ch }) :=
    kept_modify (fun t => rfl) fun t => id
  have refreshed := kept_trans marked (kept_refreshChar (n := n))
  simp only [finishChar]
  split
  · exact kept_trans refreshed (kept_modify (fun t => rfl) fun t => id)
  · exact refreshed

theorem kept_printChar : Returns (printChar k ch n) (Kept k) := by
  simp only [printChar]
  refine returns_of_bind kept_drawChar ?_
  intro k₁ drawn
  rw [returns_pure]
  exact kept_trans kept_wrapLine (kept_trans drawn kept_finishChar)

theorem kept_backspace : Kept k (k.modify n Tty.backspace) := by
  apply kept_cursor
  all_goals
    intro t
    unfold Tty.backspace
    split
    · rfl
    · split <;> rfl

theorem kept_outbyte : Returns (consoleOutbyte k ch n) (Kept k) := by
  unfold consoleOutbyte
  simp only [returns_ite, returns_error, returns_ok, implies_true, true_and]
  intro _
  exact ⟨fun _ => kept_refl, fun _ => ⟨fun _ => kept_modify (fun t => rfl) fun t => id,
    fun _ => ⟨fun _ => kept_newline, fun _ => ⟨fun _ => kept_modify (fun t => rfl) fun t => id,
      fun _ => ⟨fun _ => kept_modify (fun t => rfl) fun t => id,
        fun _ => ⟨fun _ => kept_backspace, fun _ => kept_printChar⟩⟩⟩⟩⟩⟩

theorem kept_putchar : Returns (consolePutchar k ch n) (Kept k) := by
  unfold consolePutchar
  rw [returns_ite]
  refine ⟨by simp, fun _ => ?_⟩
  refine returns_of_bind kept_outbyte ?_
  intro k₁ first
  rw [returns_pure]
  exact kept_trans first (kept_draw _)

theorem kept_erase {y col : UInt64} (more : Nat) :
    Returns (eraseColumns y n more col k) (Kept k) := by
  induction more generalizing col k with
  | zero =>
      rw [eraseColumns, returns_ok]
      exact kept_refl
  | succ more ih =>
      rw [eraseColumns]
      refine returns_of_bind kept_outbyte ?_
      intro k₁ first
      exact Returns.mono ih fun k₂ later => kept_trans kept_gotoxy (kept_trans first later)

theorem kept_csiK {mode : Int32} : Returns (csiK k mode) (Kept k) := by
  simp only [csiK]
  split
  · rw [returns_ok]
    exact kept_refl
  · refine returns_of_bind (kept_erase _) ?_
    intro k₁ first
    rw [returns_pure]
    exact kept_trans first kept_gotoxy

/-- What the colours have nothing to do with. -/
def Tty.place (t : Tty) : (UInt64 × UInt64) × (UInt64 × UInt64) × UInt64 × UInt64 :=
  ((t.cursorX, t.cursorY), (t.cursorLeft, t.cursorTop), t.cursorRight, t.cursorBottom)

theorem rendition_same {p : Int32} :
    (t.rendition p).setup = t.setup ∧ (t.rendition p).place = t.place := by
  unfold Tty.rendition
  split <;> exact ⟨rfl, rfl⟩

theorem renditions_same (set : List Int32) :
    (set.foldl Tty.rendition t).setup = t.setup ∧
      (set.foldl Tty.rendition t).place = t.place := by
  induction set generalizing t with
  | nil => exact ⟨rfl, rfl⟩
  | cons p rest ih =>
      rcases @rendition_same t p with ⟨setup, place⟩
      rcases @ih (t.rendition p) with ⟨laterSetup, laterPlace⟩
      exact ⟨laterSetup.trans setup, laterPlace.trans place⟩

theorem kept_renditions (set : List Int32) :
    Kept k (k.modify n fun t => set.foldl Tty.rendition t) := by
  refine kept_cursor ?_ ?_ ?_
  · exact fun t => (renditions_same set).1
  · exact fun t => congrArg (fun place => place.2.1.2) (renditions_same set).2
  · exact fun t => congrArg (fun place => place.2.2.2) (renditions_same set).2

end Frame

/-- The terminal once there is room for a character. -/
def Tty.wrapped (t : Tty) : Tty :=
  if t.wrap.cursorY ≥ t.wrap.cursorBottom then t.wrap.lastLine else t.wrap

/-- The terminal once a character is printed. -/
def Tty.printed (t : Tty) (ch : UInt8) : Tty :=
  { t.wrapped with
    prevChar := ch
    cursorX := if t.hasRoom then t.wrapped.cursorX + 1 else t.wrapped.cursorX }

/-- One console is changed, and no other. -/
def Only (n : ConsoleId) (change : Tty → Tty) (k k' : Consoles) : Prop :=
  k'.ttys n = change (k.ttys n) ∧ ∀ m, m ≠ n → k'.ttys m = k.ttys m

section Printing

variable {k k' k'' : Consoles} {n : ConsoleId} {ch : UInt8} {change later : Tty → Tty}

@[simp] theorem draw_ttys {requests : List Draw} : (k.draw requests).ttys = k.ttys := rfl

@[simp] theorem refreshChar_ttys : (k.refreshChar n).ttys = k.ttys := rfl

theorem only_modify : Only n change k (k.modify n change) :=
  ⟨modify_self, fun _ apart => modify_other apart⟩

theorem only_trans (first : Only n change k k') (second : Only n later k' k'') :
    Only n (later ∘ change) k k'' := by
  refine ⟨?_, fun m apart => (second.2 m apart).trans (first.2 m apart)⟩
  rw [second.1, first.1, Function.comp]

/-- A change that sets the line of the cursor is the same after a scroll. -/
theorem only_scroll (sets : ∀ t y, change { t with cursorY := y } = change t) :
    Only n change k ((k.scrollIfFullscreen n).modify n change) := by
  refine ⟨?_, ?_⟩
  · rw [modify_self]
    unfold Consoles.scrollIfFullscreen consoleScrollRect
    split
    · split
      · rfl
      · split
        · rfl
        · simp only [draw_ttys, modify_self, sets]
    · rfl
  · intro m apart
    rw [modify_other apart]
    unfold Consoles.scrollIfFullscreen consoleScrollRect
    split
    · split
      · rfl
      · split
        · rfl
        · simp only [draw_ttys, modify_other apart]
    · rfl

theorem only_wrapLine : Only n Tty.wrapped k (wrapLine k n) := by
  simp only [wrapLine, modify_self]
  by_cases full : (k.ttys n).wrap.cursorY ≥ (k.ttys n).wrap.cursorBottom
  · rw [if_pos full]
    have wraps : Only n Tty.wrap k (k.modify n Tty.wrap) := only_modify
    have scrolls : ∀ t y, Tty.lastLine { t with cursorY := y } = Tty.lastLine t := fun t y => rfl
    have last := only_trans wraps (only_scroll scrolls)
    refine ⟨last.1.trans ?_, last.2⟩
    rw [Tty.wrapped, if_pos full, Function.comp]
  · rw [if_neg full]
    refine ⟨?_, only_modify.2⟩
    rw [modify_self, Tty.wrapped, if_neg full]

theorem only_printChar :
    Returns (printChar k ch n) (Only n (Tty.printed · ch) k) := by
  simp only [printChar]
  have drawn : Returns (drawChar (wrapLine k n) ch n) fun k' => k'.ttys = (wrapLine k n).ttys := by
    unfold drawChar consoleOutbyteImp
    simp only [returns_ite, returns_error, returns_ok, implies_true, and_self, draw_ttys]
  refine returns_of_bind drawn ?_
  intro k₁ same
  rw [returns_pure]
  have wrapped := @only_wrapLine k n
  rw [Only, ← same] at wrapped
  simp only [finishChar]
  by_cases room : (k.ttys n).hasRoom
  · rw [if_pos room]
    refine ⟨?_, ?_⟩
    · simp only [modify_self, refreshChar_ttys, wrapped.1, Tty.printed, room, if_true]
    · intro m apart
      rw [modify_other apart, refreshChar_ttys, modify_other apart]
      exact wrapped.2 m apart
  · rw [if_neg room]
    refine ⟨?_, ?_⟩
    · simp only [modify_self, refreshChar_ttys, wrapped.1, Tty.printed, room, if_false,
        Bool.false_eq_true]
    · intro m apart
      rw [refreshChar_ttys, modify_other apart]
      exact wrapped.2 m apart

end Printing

/-- The parser between two bytes; `npar` counts the separators of a sequence. -/
inductive Parser where
  | normal
  | escape
  | csi
  | params (npar : Nat)
  deriving DecidableEq, Repr

def Consoles.parser (k : Consoles) : Parser :=
  match k.stage with
  | .normal => .normal
  | .escape => .escape
  | .csi => .csi
  | .params => .params k.npar

def nextParams (npar : Nat) (ch : UInt8) : Parser :=
  if 48 ≤ ch ∧ ch ≤ 57 then
    .params npar
  else if ch = 59 ∧ npar < NPAR - 1 then
    .params (npar + 1)
  else
    .normal

def Parser.next : Parser → UInt8 → Parser
  | .normal, ch => if ch = 27 then .escape else .normal
  | .escape, ch => if ch = 91 then .csi else .normal
  | .csi, ch => if ch = 63 then .params 0 else nextParams 0 ch
  | .params npar, ch => nextParams npar ch

/-- The parser after some bytes that a write begins with. -/
def parse (bytes : List UInt8) : Parser :=
  bytes.foldl Parser.next .normal

/-- What a byte leaves: the parser has taken it, and the set-up is as it was. -/
structure Taken (k : Consoles) (next : Parser) (k' : Consoles) : Prop where
  parser : k'.parser = next
  display : k'.display = k.display
  setup : ∀ m, (k'.ttys m).setup = (k.ttys m).setup
  narrow : ∀ m, (k.ttys m).Narrow → (k'.ttys m).Narrow
  bounded : k.npar < NPAR → k'.npar < NPAR

section Parsing

variable {k k' : Consoles} {n m : ConsoleId} {ch : UInt8} {echo : Bool}

theorem npar_none : 0 < NPAR := by decide

theorem taken_of_kept (kept : Kept k k') (normal : k.stage = .normal) : Taken k .normal k' := by
  refine ⟨?_, kept.display, kept.setup, kept.narrow, fun few => kept.npar ▸ few⟩
  rw [Consoles.parser, kept.stage, normal]

theorem execute_taken : Returns (execute k ch n) (Taken k .normal) := by
  have begun : ∀ k', Kept { k with stage := .normal } k' → Taken k .normal k' := by
    intro k' kept
    exact ⟨(taken_of_kept kept rfl).parser, kept.display, kept.setup, kept.narrow,
      fun few => kept.npar ▸ few⟩
  simp only [execute]
  split
  · rw [returns_ok]
    exact begun _ kept_gotoxy
  · split
    · exact Returns.mono kept_csiK begun
    · rw [returns_ok]
      have colours : Kept { k with stage := .normal }
        ({ k with stage := .normal }.modify k.fgConsole
          fun t => (((List.range k.npar).map fun i => toInt (k.par i)).foldl Tty.rendition t)) :=
        kept_renditions _
      unfold csiMColors
      split
      · exact begun _ (kept_modify (fun t => rfl) fun t => id)
      · exact ⟨rfl, colours.display, colours.setup, colours.narrow, fun _ => npar_none⟩
    · rw [returns_ok]
      exact begun _ ⟨rfl, rfl, rfl, rfl, fun _ => rfl, fun _ => id⟩
    · rw [returns_ok]
      exact begun _ (kept_modify (fun t => rfl) fun t => id)
    · rw [returns_ok]
      exact begun _ (kept_repeat (fun k => kept_insertLine) _)
    · rw [returns_ok]
      exact begun _ (kept_repeat (fun k => kept_deleteLine) _)
    · rw [returns_ok]
      exact begun _ kept_refl

theorem stageNormal_taken (normal : k.stage = .normal) :
    Returns (stageNormal k echo ch n) (Taken k (Parser.normal.next ch)) := by
  unfold stageNormal Parser.next
  simp only [returns_ite, returns_ok]
  refine ⟨?_, ?_⟩
  · intro escape
    rw [if_pos escape]
    exact ⟨rfl, rfl, fun _ => rfl, fun _ => id, id⟩
  · intro other
    rw [if_neg other]
    have kept : ∀ k', Kept k k' → Taken k .normal k' := fun k' kept => taken_of_kept kept normal
    exact ⟨fun _ => ⟨fun _ => Returns.mono kept_outbyte kept, fun _ => kept _ kept_refl⟩,
      fun _ => ⟨fun _ => Returns.mono kept_putchar kept, fun _ => kept _ kept_refl⟩⟩

theorem enter_taken : Returns (enter k n) fun out => out.1 = (k.ttys n).echo ∧
    out.2 = { k with stage := .normal } := by
  unfold enter
  simp only [returns_ite, returns_error, returns_ok, implies_true, and_self]

/-- One byte of the response, which is a write of its own. -/
def respondByte (n : ConsoleId) (k : Consoles) (ch : UInt8) : Except Ke.Stop Consoles :=
  enter k n >>= fun out => stageNormal out.2 out.1 ch n

theorem respond_eq : respond k n = RESPONSE.foldlM (respondByte n) k := rfl

/-- The response leaves the parser between two sequences, its last byte being a letter. -/
theorem respond_taken : Returns (respond k n) (Taken k .normal) := by
  have bytes : ∀ (bytes : List UInt8) (k : Consoles), bytes ≠ [] → bytes.getLast? ≠ some 27 →
      Returns (bytes.foldlM (respondByte n) k) (Taken k .normal) := by
    intro bytes
    induction bytes with
    | nil =>
        intro k some_bytes
        exact absurd rfl some_bytes
    | cons ch rest ih =>
        intro k _ last
        rw [List.foldlM_cons]
        have first : Returns (respondByte n k ch) (Taken k (Parser.normal.next ch)) := by
          refine returns_of_bind enter_taken ?_
          rintro ⟨echo, k₁⟩ ⟨-, rfl⟩
          refine Returns.mono (stageNormal_taken rfl) ?_
          intro k₂ taken
          exact ⟨taken.parser, taken.display, taken.setup, taken.narrow, taken.bounded⟩
        refine returns_of_bind first ?_
        intro k₁ taken
        cases rest with
        | nil =>
            rw [List.foldlM_nil, returns_pure]
            have letter : ch ≠ 27 := by
              rintro rfl
              exact last rfl
            refine ⟨?_, taken.display, taken.setup, taken.narrow, taken.bounded⟩
            rw [taken.parser, Parser.next, if_neg letter]
        | cons ch' rest =>
            refine Returns.mono (ih k₁ (by simp) ?_) ?_
            · rw [List.getLast?_cons_cons] at last
              exact last
            · intro k₂ later
              exact ⟨later.parser, later.display.trans taken.display,
                fun m => (later.setup m).trans (taken.setup m),
                fun m => later.narrow m ∘ taken.narrow m, later.bounded ∘ taken.bounded⟩
  exact bytes RESPONSE k (by decide) (by decide)

theorem stageEscape_taken : Returns (stageEscape k ch n) (Taken k (Parser.escape.next ch)) := by
  have begun : ∀ k', Kept { k with stage := .normal } k' → Taken k .normal k' := by
    intro k' kept
    exact ⟨(taken_of_kept kept rfl).parser, kept.display, kept.setup, kept.narrow,
      fun few => kept.npar ▸ few⟩
  simp only [stageEscape, Parser.next]
  by_cases bracket : ch = 91
  · rw [if_pos bracket, if_pos bracket, returns_ok]
    exact ⟨rfl, rfl, fun _ => rfl, fun _ => id, id⟩
  · rw [if_neg bracket, if_neg bracket]
    simp only [returns_ite, returns_ok]
    refine ⟨fun _ => Returns.mono kept_putchar begun, fun _ => ⟨fun _ => ?_, fun _ => ?_⟩⟩
    · refine Returns.mono respond_taken ?_
      intro k' taken
      exact ⟨taken.parser, taken.display, taken.setup, taken.narrow, taken.bounded⟩
    · exact begun _ kept_refl

theorem stageParams_taken (params : k.stage = .params) :
    Returns (stageParams k ch n) (Taken k (nextParams k.npar ch)) := by
  unfold stageParams nextParams
  by_cases digit : 48 ≤ ch ∧ ch ≤ 57
  · rw [if_pos digit, if_pos digit, returns_ok]
    refine ⟨?_, rfl, fun _ => rfl, fun _ => id, id⟩
    rw [Consoles.parser, params]
  · rw [if_neg digit, if_neg digit]
    by_cases separator : ch = 59 ∧ k.npar < NPAR - 1
    · rw [if_pos separator, if_pos separator, returns_ok]
      refine ⟨?_, rfl, fun _ => rfl, fun _ => id, fun _ => Nat.add_lt_of_lt_sub separator.2⟩
      rw [Consoles.parser, params]
    · rw [if_neg separator, if_neg separator]
      exact execute_taken

theorem writeByte_taken : Returns (writeByte echo n k ch) (Taken k (k.parser.next ch)) := by
  unfold writeByte Consoles.parser
  cases stage : k.stage with
  | normal => exact stageNormal_taken stage
  | escape => exact stageEscape_taken
  | csi =>
      simp only [stageCsi, Parser.next]
      by_cases question : ch = 63
      · rw [if_pos question, if_pos question, returns_ok]
        exact ⟨rfl, rfl, fun _ => rfl, fun _ => id, fun _ => npar_none⟩
      · rw [if_neg question, if_neg question]
        refine Returns.mono (stageParams_taken rfl) ?_
        intro k' taken
        exact ⟨taken.parser, taken.display, taken.setup, taken.narrow,
          fun _ => taken.bounded npar_none⟩
  | params => exact stageParams_taken stage

theorem writeBytes_taken (bytes : List UInt8) :
    Returns (bytes.foldlM (writeByte echo n) k) (Taken k (bytes.foldl Parser.next k.parser)) := by
  induction bytes generalizing k with
  | nil =>
      rw [List.foldlM_nil, returns_pure]
      exact ⟨rfl, rfl, fun _ => rfl, fun _ => id, id⟩
  | cons ch rest ih =>
      rw [List.foldlM_cons]
      refine returns_of_bind writeByte_taken ?_
      intro k₁ first
      refine Returns.mono ih ?_
      intro k₂ later
      rw [List.foldl_cons, ← first.parser]
      exact ⟨later.parser, later.display.trans first.display,
        fun m => (later.setup m).trans (first.setup m),
        fun m => later.narrow m ∘ first.narrow m, later.bounded ∘ first.bounded⟩

end Parsing

/-- The display can draw characters. -/
structure Drawable (d : Display) : Prop where
  width : toLong d.charWidth &&& 0xFFFF ≠ 0
  height : toLong d.charHeight &&& 0xFFFF ≠ 0
  useGui : d.useGui

section Answering

variable {k k' : Consoles} {n : ConsoleId} {ch : UInt8} {echo : Bool}

theorem drawable_sized (drawable : Drawable k.display) :
    ¬(k.display.charWidth = 0 ∨ k.display.charHeight = 0) := by
  have zero : toLong 0 &&& 0xFFFF = 0 := by decide
  rintro (width | height)
  · apply drawable.width
    rw [width, zero]
  · apply drawable.height
    rw [height, zero]

theorem answers_then {next : Consoles → Except Ke.Stop Consoles} {call : Except Ke.Stop Consoles}
    (drawable : Drawable k.display) (first : Answers call) (kept : Returns call (Kept k))
    (later : ∀ k', Drawable k'.display → Answers (next k')) : Answers (call >>= next) := by
  rcases first with ⟨k', done⟩
  refine answers_bind.mpr ⟨k', done, later k' ?_⟩
  rw [(kept k' done).display]
  exact drawable

theorem answers_outbyte (drawable : Drawable k.display) : Answers (consoleOutbyte k ch n) := by
  have prints : Answers (printChar k ch n) := by
    simp only [printChar]
    have wrapped : Drawable (wrapLine k n).display := by
      rw [(kept_wrapLine (k := k) (n := n)).display]
      exact drawable
    refine answers_then wrapped ?_ kept_drawChar fun _ _ => answers_pure
    unfold drawChar consoleOutbyteImp
    simp [drawable_sized wrapped, wrapped.useGui]
  unfold consoleOutbyte
  simp [drawable_sized drawable, prints]

theorem answers_putchar (drawable : Drawable k.display) : Answers (consolePutchar k ch n) := by
  unfold consolePutchar
  rw [if_neg (fun none => none.elim drawable.width drawable.height)]
  exact answers_then drawable (answers_outbyte drawable) kept_outbyte fun _ _ => answers_pure

theorem answers_erase {y col : UInt64} (more : Nat) (drawable : Drawable k.display) :
    Answers (eraseColumns y n more col k) := by
  induction more generalizing col k with
  | zero => exact answers_ok
  | succ more ih =>
      rw [eraseColumns]
      have moved : Drawable (localGotoxy k (toInt col) (toInt y) n).display := drawable
      exact answers_then moved (answers_outbyte moved) kept_outbyte fun _ drawable => ih drawable

theorem answers_execute (drawable : Drawable k.display) : Answers (execute k ch n) := by
  simp only [execute]
  split
  · exact answers_ok
  · split
    · simp only [csiK]
      split
      · exact answers_ok
      · have begun : Drawable ({ k with stage := .normal } : Consoles).display := drawable
        exact answers_then begun (answers_erase _ begun) (kept_erase _) fun _ _ => answers_pure
    all_goals exact answers_ok

theorem answers_stageNormal (drawable : Drawable k.display) :
    Answers (stageNormal k echo ch n) := by
  unfold stageNormal
  simp [answers_outbyte drawable, answers_putchar drawable]

/-- Where the display can draw and the terminals are valid, no write stops. -/
theorem answers_writeByte (drawable : Drawable k.display)
    (valid : ∀ m, (k.ttys m).magic = 1234) : Answers (writeByte echo n k ch) := by
  have responds : ∀ (bytes : List UInt8) (k : Consoles), Drawable k.display →
      (∀ m, (k.ttys m).magic = 1234) →
      Answers (bytes.foldlM (respondByte n) k) := by
    intro bytes
    induction bytes with
    | nil => exact fun k _ _ => answers_pure
    | cons ch rest ih =>
        intro k drawable valid
        have entered : enter k n = .ok ((k.ttys n).echo, { k with stage := .normal }) := by
          rw [enter, if_neg (not_not_intro (valid n))]
        have begun : Drawable ({ k with stage := .normal } : Consoles).display := drawable
        rcases @answers_stageNormal _ n ch (k.ttys n).echo begun with
          ⟨k₁, done⟩
        have taken := stageNormal_taken rfl k₁ done
        rw [List.foldlM_cons, answers_bind]
        refine ⟨k₁, ?_, ih k₁ ?_ ?_⟩
        · rw [respondByte, entered]
          exact done
        · rw [taken.display]
          exact drawable
        · intro m
          have magic : (k₁.ttys m).magic = (k.ttys m).magic :=
            congrArg (fun setup => setup.1.2.1) (taken.setup m)
          rw [magic, valid m]
  have begun : Drawable ({ k with stage := .normal } : Consoles).display := drawable
  have params : ∀ k : Consoles, Drawable k.display → Answers (stageParams k ch n) := by
    intro k drawable
    unfold stageParams
    simp [answers_execute drawable]
  unfold writeByte
  split
  · exact answers_stageNormal drawable
  · simp only [stageEscape]
    have respond := responds RESPONSE { k with stage := .normal } drawable valid
    split
    · exact answers_ok
    · split
      · exact answers_putchar begun
      · split
        · exact respond
        · exact answers_ok
  · simp only [stageCsi]
    split
    · exact answers_ok
    · exact params _ drawable
  · exact params k drawable

end Answering

end Gramado.Chardev.Console
