/-
The virtual consoles of console.c: the byte loop of console_write with its parser of
escape sequences, and the cursor requests of console_ioctl. What is drawn goes to a
list of requests to the display, in order. The stage of the parser, its parameters
and the saved cursor are shared by all consoles.
-/
import Gramado.Ke

namespace Gramado.Chardev.Console

open Gramado.Ke

abbrev CONSOLETTYS_COUNT_MAX : Nat := 4
def NPAR : Nat := 16
def OPEN_MAX : Int32 := 32
def COLOR_WHITE : UInt32 := 0x00FFFFFF
def COLOR_BLACK : UInt32 := 0x00000000
def COLOR_RED : UInt32 := 0x00FF0000
def COLOR_GREEN : UInt32 := 0x0000FF00
def COLOR_BLUE : UInt32 := 0x000000FF
def COLOR_YELLOW : UInt32 := 0x00FFFF00
def COLOR_CYAN : UInt32 := 0x0000FFFF

abbrev ConsoleId := Fin CONSOLETTYS_COUNT_MAX

inductive Draw where
  | char (x y : UInt64) (ch : UInt8) (fg bg : UInt32)
  | scroll
  | rectangle (x y width height : UInt64) (color : UInt32)
  | background (color : UInt32)
  | refresh (x y width height : UInt64)
  | refreshScreen
  deriving DecidableEq, Repr

/-- Between the bytes of a sequence; the fourth stage of the source is left within a byte. -/
inductive Stage where
  | normal
  | escape
  | csi
  | params
  deriving DecidableEq, Inhabited, Repr

/-- What the console uses of `struct tty_d`. `echo` is the flag of `termios.c_lflag`. -/
structure Tty where
  initialized : Bool
  magic : Int32
  fullscreen : Bool
  echo : Bool
  cursorX : UInt64
  cursorY : UInt64
  cursorLeft : UInt64
  cursorTop : UInt64
  cursorRight : UInt64
  cursorBottom : UInt64
  fgColor : UInt32
  bgColor : UInt32
  defaultFgColor : UInt32
  defaultBgColor : UInt32
  prevChar : UInt8
  deriving DecidableEq, Inhabited, Repr

/-- The font and the video mode. -/
structure Display where
  charWidth : Int32
  charHeight : Int32
  useGui : Bool
  savedX : UInt64
  deriving DecidableEq, Inhabited, Repr

structure Consoles where
  ttys : ConsoleId → Tty
  display : Display
  fgConsole : ConsoleId
  savedX : Int32
  savedY : Int32
  stage : Stage
  par : Nat → UInt64
  npar : Nat
  drawn : List Draw

/-- A conversion from `unsigned long` to `int`. -/
def toInt (n : UInt64) : Int32 :=
  n.toUInt32.toInt32

/-- A conversion from `int` to `unsigned long`, as comparisons make it. -/
def toLong (n : Int32) : UInt64 :=
  n.toInt64.toUInt64

def consoleOf (n : Int32) : Option ConsoleId :=
  if valid : 0 ≤ n.toInt ∧ n.toInt.toNat < CONSOLETTYS_COUNT_MAX then
    some ⟨n.toInt.toNat, valid.2⟩
  else
    none

def Consoles.modify (k : Consoles) (n : ConsoleId) (change : Tty → Tty) : Consoles :=
  { k with ttys := fun m => if m = n then change (k.ttys m) else k.ttys m }

def Consoles.draw (k : Consoles) (requests : List Draw) : Consoles :=
  { k with drawn := k.drawn ++ requests }

def Tty.moveTo (t : Tty) (x y : Int32) : Tty :=
  { t with cursorX := x.toUInt32.toUInt64, cursorY := y.toUInt32.toUInt64 }

/-- A negative coordinate is a large one here. -/
def Tty.accepts (t : Tty) (x y : Int32) : Bool :=
  !(toLong x > t.cursorRight) && !(toLong y > t.cursorBottom)

def localGotoxy (k : Consoles) (x y : Int32) (n : ConsoleId) : Consoles :=
  k.modify n fun t => if t.accepts x y then t.moveTo x y else t

def localSaveCur (k : Consoles) (n : ConsoleId) : Consoles :=
  { k with savedX := toInt (k.ttys n).cursorX, savedY := toInt (k.ttys n).cursorY }

def Tty.restore (t : Tty) (x y : Int32) : Tty :=
  { t with
    cursorX := (x.toUInt32 &&& 0xFFFF).toUInt64
    cursorY := (y.toUInt32 &&& 0xFFFF).toUInt64 }

def localRestoreCur (k : Consoles) (n : ConsoleId) : Consoles :=
  k.modify n fun t => t.restore k.savedX k.savedY

def CONSOLE_SCROLL_DIRECTION_DOWN : Int32 := 1000
def CONSOLE_SCROLL_DIRECTION_UP : Int32 := 2000

/-- The cursor goes to the last line, in its column. -/
def consoleScrollRect (k : Consoles) (n : ConsoleId) (direction : Int32) : Consoles :=
  if !k.display.useGui then
    k
  else if direction ≠ CONSOLE_SCROLL_DIRECTION_UP then
    k
  else
    let t := k.ttys n
    let height := if toLong k.display.charHeight = 0 then 8 else toLong k.display.charHeight
    let lastLine := (t.cursorBottom - 1) * height
    let k := k.draw [.scroll, .rectangle 0 lastLine k.display.savedX height t.bgColor]
    (k.modify n fun t => { t with cursorY := t.cursorBottom - 1 }).draw [.refreshScreen]

def Consoles.scrollIfFullscreen (k : Consoles) (n : ConsoleId) : Consoles :=
  if (k.ttys n).fullscreen then consoleScrollRect k n CONSOLE_SCROLL_DIRECTION_UP else k

/-- The margins are kept in an `int` meanwhile. The direction is none of the two. -/
def localInsertLine (k : Consoles) (n : ConsoleId) : Consoles :=
  let oldtop := toInt (k.ttys n).cursorTop
  let oldbottom := toInt (k.ttys n).cursorBottom
  let k := k.modify n fun t => { t with cursorTop := t.cursorY }
  let k := if (k.ttys n).fullscreen then consoleScrollRect k n 1 else k
  k.modify n fun t => { t with cursorTop := toLong oldtop, cursorBottom := toLong oldbottom }

def localDeleteLine (k : Consoles) (n : ConsoleId) : Consoles :=
  let oldtop := toInt (k.ttys n).cursorTop
  let oldbottom := toInt (k.ttys n).cursorBottom
  k.modify n fun t => { t with cursorTop := toLong oldtop, cursorBottom := toLong oldbottom }

def repeatTimes {α : Type} (f : α → α) : Nat → α → α
  | 0, a => a
  | times + 1, a => repeatTimes f times (f a)

/-- The count of a command; none is one. -/
def lines (nr : Int32) : Nat :=
  if nr ≤ 0 then 1 else nr.toInt.toNat

def csiL (k : Consoles) (nr : Int32) (n : ConsoleId) : Consoles :=
  repeatTimes (localInsertLine · n) (lines nr) k

def csiM (k : Consoles) (nr : Int32) (n : ConsoleId) : Consoles :=
  repeatTimes (localDeleteLine · n) (lines nr) k

/-- One parameter of `ESC [ m`. -/
def Tty.rendition (t : Tty) (p : Int32) : Tty :=
  match p.toInt with
  | 0 => { t with fgColor := t.defaultFgColor, bgColor := t.defaultBgColor }
  | 30 => { t with fgColor := COLOR_BLACK }
  | 31 => { t with fgColor := COLOR_RED }
  | 32 => { t with fgColor := COLOR_GREEN }
  | 33 => { t with fgColor := COLOR_YELLOW }
  | 34 => { t with fgColor := COLOR_BLUE }
  | 35 => { t with fgColor := COLOR_RED }
  | 36 => { t with fgColor := COLOR_CYAN }
  | 37 => { t with fgColor := COLOR_WHITE }
  | 40 => { t with bgColor := COLOR_BLACK }
  | 41 => { t with bgColor := COLOR_RED }
  | 42 => { t with bgColor := COLOR_GREEN }
  | 43 => { t with bgColor := COLOR_YELLOW }
  | 44 => { t with bgColor := COLOR_BLUE }
  | 45 => { t with bgColor := COLOR_RED }
  | 46 => { t with bgColor := COLOR_CYAN }
  | 47 => { t with bgColor := COLOR_WHITE }
  | _ => t

/-- The last parameter is not looked at, and the foreground console is changed. -/
def csiMColors (k : Consoles) : Consoles :=
  if k.npar = 0 then
    k.modify k.fgConsole fun t =>
      { t with fgColor := t.defaultFgColor, bgColor := t.defaultBgColor }
  else
    let set := (List.range k.npar).map fun i => toInt (k.par i)
    { (k.modify k.fgConsole fun t => set.foldl Tty.rendition t) with
      par := fun _ => 0
      npar := 0 }

def consoleOutbyteImp (k : Consoles) (ch : UInt8) (n : ConsoleId) : Except Ke.Stop Consoles :=
  let t := k.ttys n
  if k.display.charWidth = 0 ∨ k.display.charHeight = 0 then
    .error (.panic "__console_outbyte_imp: fail w h")
  else if !k.display.useGui then
    .error (.panic "__console_outbyte_imp: kernel in text mode")
  else
    .ok (k.draw [.char (toLong k.display.charWidth * t.cursorX)
      (toLong k.display.charHeight * t.cursorY) ch t.fgColor t.bgColor])

def Tty.column (t : Tty) (x : UInt64) (ch : UInt8) : Tty :=
  { t with cursorX := x, prevChar := ch }

def newline (k : Consoles) (n : ConsoleId) : Consoles :=
  let t := k.ttys n
  let k :=
    if t.cursorY ≥ t.cursorBottom - 1 then
      (k.scrollIfFullscreen n).modify n fun t => { t with cursorY := t.cursorBottom - 1 }
    else
      k.modify n fun t => { t with cursorY := t.cursorY + 1 }
  k.modify n fun t => t.column t.cursorLeft 10

def Tty.tab (t : Tty) : Tty :=
  let x := t.cursorX + 8
  t.column (if x ≥ t.cursorRight then t.cursorRight - 1 else x) 9

def Tty.backspace (t : Tty) : Tty :=
  if t.cursorX > t.cursorLeft then
    t.column (t.cursorX - 1) 8
  else if t.cursorY > t.cursorTop then
    { t.column (t.cursorRight - 1) 8 with cursorY := t.cursorY - 1 }
  else
    t.column t.cursorX 8

/-- There is room for one more character in the line. -/
def Tty.hasRoom (t : Tty) : Bool :=
  t.cursorX < t.cursorRight - 1

def Tty.wrap (t : Tty) : Tty :=
  if t.hasRoom then t else { t with cursorY := t.cursorY + 1, cursorX := t.cursorLeft }

def Tty.lastLine (t : Tty) : Tty :=
  { t with cursorY := t.cursorBottom - 1, cursorX := t.cursorLeft }

/-- The line is wrapped before a character that has no room in it. -/
def wrapLine (k : Consoles) (n : ConsoleId) : Consoles :=
  let k := k.modify n Tty.wrap
  if (k.ttys n).cursorY ≥ (k.ttys n).cursorBottom then
    (k.scrollIfFullscreen n).modify n Tty.lastLine
  else
    k

def Consoles.refreshChar (k : Consoles) (n : ConsoleId) : Consoles :=
  let t := k.ttys n
  let width := toLong k.display.charWidth
  let height := toLong k.display.charHeight
  k.draw [.refresh (t.cursorX * width) (t.cursorY * height) width height]

def drawChar (k : Consoles) (ch : UInt8) (n : ConsoleId) : Except Ke.Stop Consoles :=
  if (k.ttys n).echo then consoleOutbyteImp k ch n else .ok k

/-- The character is refreshed before the cursor moves on. -/
def finishChar (k : Consoles) (ch : UInt8) (n : ConsoleId) (increment : Bool) : Consoles :=
  let k := (k.modify n fun t => { t with prevChar := ch }).refreshChar n
  if increment then k.modify n fun t => { t with cursorX := t.cursorX + 1 } else k

def printChar (k : Consoles) (ch : UInt8) (n : ConsoleId) : Except Ke.Stop Consoles := do
  let increment := (k.ttys n).hasRoom
  let k ← drawChar (wrapLine k n) ch n
  return finishChar k ch n increment

def consoleOutbyte (k : Consoles) (ch : UInt8) (n : ConsoleId) : Except Ke.Stop Consoles :=
  if k.display.charWidth = 0 ∨ k.display.charHeight = 0 then
    .error (.panic "console_outbyte: char size")
  else if !(k.ttys n).initialized then
    .ok k
  else if ch = 12 then
    .ok (k.modify n fun t => { t.column t.cursorLeft 12 with cursorY := t.cursorTop })
  else if ch = 10 then
    .ok (newline k n)
  else if ch = 13 then
    .ok (k.modify n fun t => t.column (if t.prevChar = 10 then t.cursorX else t.cursorLeft) 13)
  else if ch = 9 then
    .ok (k.modify n Tty.tab)
  else if ch = 8 then
    .ok (k.modify n Tty.backspace)
  else
    printChar k ch n

/-- The character is refreshed where the cursor has gone to. -/
def consolePutchar (k : Consoles) (ch : UInt8) (n : ConsoleId) : Except Ke.Stop Consoles :=
  let width := toLong k.display.charWidth &&& 0xFFFF
  let height := toLong k.display.charHeight &&& 0xFFFF
  if width = 0 ∨ height = 0 then
    .error (.panic "console_putchar: char\n")
  else do
    let k ← consoleOutbyte k ch n
    let t := k.ttys n
    return k.draw [.refresh (t.cursorX * width) (t.cursorY * height) width height]

/-- The columns that `ESC [ K` erases. -/
def erased (t : Tty) (mode : Int32) : Option (UInt64 × UInt64) :=
  match mode.toInt with
  | 0 => some (t.cursorX, t.cursorRight)
  | 1 => some (t.cursorLeft, t.cursorX + 1)
  | 2 => some (t.cursorLeft, t.cursorRight)
  | _ => none

def eraseColumns (y : UInt64) (n : ConsoleId) : Nat → UInt64 → Consoles → Except Ke.Stop Consoles
  | 0, _, k => .ok k
  | more + 1, col, k => do
      let k ← consoleOutbyte (localGotoxy k (toInt col) (toInt y) n) 32 n
      eraseColumns y n more (col + 1) k

/-- The line is erased on the foreground console, whichever is written to. -/
def csiK (k : Consoles) (mode : Int32) : Except Ke.Stop Consoles :=
  let n := k.fgConsole
  let t := k.ttys n
  match erased t mode with
  | none => .ok k
  | some (start, stop) => do
      let k ← eraseColumns t.cursorY n (stop.toNat - start.toNat) start k
      return localGotoxy k (toInt t.cursorX) (toInt t.cursorY) n

/-- Where the commands `H`, `f`, `A`, `B`, `C` and `D` move the cursor to. -/
def moveTarget (k : Consoles) (ch : UInt8) (n : ConsoleId) : Option (Int32 × Int32) :=
  let t := k.ttys n
  let step := if k.npar ≠ 0 then k.par 0 else 1
  match ch.toNat with
  | 72 => some (toInt ((if k.npar ≥ 1 then k.par 1 else 1) - 1), toInt (k.par 0 - 1))
  | 102 => some (toInt ((if k.npar ≥ 1 then k.par 1 else 1) - 1), toInt (k.par 0 - 1))
  | 65 => some (toInt t.cursorX, toInt (t.cursorY - step))
  | 66 => some (toInt t.cursorX, toInt (t.cursorY + step))
  | 67 => some (toInt (t.cursorX + step), toInt t.cursorY)
  | 68 => some (toInt (t.cursorX - step), toInt t.cursorY)
  | _ => none

/-- The command that ends a sequence. -/
def execute (k : Consoles) (ch : UInt8) (n : ConsoleId) : Except Ke.Stop Consoles :=
  let k := { k with stage := .normal }
  match moveTarget k ch n with
  | some (x, y) => .ok (localGotoxy k x y n)
  | none =>
      match ch.toNat with
      | 75 => csiK k (if k.npar ≠ 0 then toInt (k.par 0) else 0)
      | 109 => .ok (csiMColors k)
      | 115 => .ok (localSaveCur k n)
      | 117 => .ok (localRestoreCur k n)
      | 76 => .ok (csiL k (if k.npar ≠ 0 then toInt (k.par 0) else 1) n)
      | 77 => .ok (csiM k (if k.npar ≠ 0 then toInt (k.par 0) else 1) n)
      | _ => .ok k

def stageNormal (k : Consoles) (echo : Bool) (ch : UInt8) (n : ConsoleId) :
    Except Ke.Stop Consoles :=
  if ch = 27 then
    .ok { k with stage := .escape }
  else if ch ≥ 32 ∧ ch ≠ 127 then
    if echo then consoleOutbyte k ch n else .ok k
  else if ch = 10 ∨ ch = 13 ∨ ch = 9 ∨ ch = 8 ∨ ch = 12 then
    consolePutchar k ch n
  else
    .ok k

/-- The start of a write: the flag ECHO is read, and the parser begins anew. -/
def enter (k : Consoles) (n : ConsoleId) : Except Ke.Stop (Bool × Consoles) :=
  if (k.ttys n).magic ≠ 1234 then
    .error (.panic "console_write: tty validation\n")
  else
    .ok ((k.ttys n).echo, { k with stage := .normal })

/-- `"\033[?1;2c"`. -/
def RESPONSE : List UInt8 := [27, 91, 63, 49, 59, 50, 99]

/-- Each byte of the response is a write of its own. -/
def respond (k : Consoles) (n : ConsoleId) : Except Ke.Stop Consoles :=
  RESPONSE.foldlM (fun k ch => do
    let (echo, k) ← enter k n
    stageNormal k echo ch n) k

def stageEscape (k : Consoles) (ch : UInt8) (n : ConsoleId) : Except Ke.Stop Consoles :=
  let k := { k with stage := .normal }
  if ch = 91 then
    .ok { k with stage := .csi }
  else if ch = 68 ∨ ch = 69 then
    consolePutchar k ch n
  else if ch = 90 then
    respond k n
  else
    .ok k

def stageParams (k : Consoles) (ch : UInt8) (n : ConsoleId) : Except Ke.Stop Consoles :=
  if 48 ≤ ch ∧ ch ≤ 57 then
    let digit := (ch - 48).toUInt64
    .ok { k with par := fun i => if i = k.npar then k.par i * 10 + digit else k.par i }
  else if ch = 59 ∧ k.npar < NPAR - 1 then
    .ok { k with npar := k.npar + 1 }
  else
    execute k ch n

def stageCsi (k : Consoles) (ch : UInt8) (n : ConsoleId) : Except Ke.Stop Consoles :=
  let k := { k with par := fun _ => 0, npar := 0, stage := .params }
  if ch = 63 then .ok k else stageParams k ch n

def writeByte (echo : Bool) (n : ConsoleId) (k : Consoles) (ch : UInt8) : Except Ke.Stop Consoles :=
  match k.stage with
  | .normal => stageNormal k echo ch n
  | .escape => stageEscape k ch n
  | .csi => stageCsi k ch n
  | .params => stageParams k ch n

/-- The message that a write without bytes prints is left out. -/
def consoleWrite (k : Consoles) (number : Int32) (buf : List UInt8) :
    Except Ke.Stop (Int × Consoles) :=
  match consoleOf number with
  | none => .ok (-1, k)
  | some n =>
      if buf.length = 0 then
        .ok (-1, k)
      else do
        let (echo, k) ← enter k n
        let k ← buf.foldlM (writeByte echo n) k
        return (buf.length, k)

/-- The characters that `strlen` counts. -/
def cString (string : List UInt8) : List UInt8 :=
  string.takeWhile (· ≠ 0)

/-- The string stops at its first NUL, and each byte before it is a write of its own. -/
def consoleWriteString (k : Consoles) (number : Int32) (string : List UInt8) :
    Except Ke.Stop (Int × Consoles) :=
  match consoleOf number with
  | none => .ok (0, k)
  | some _ =>
      let characters := cString string
      if characters.length = 0 then
        .ok (0, k)
      else do
        let k ← characters.foldlM (fun k ch => (consoleWrite k number [ch]).map Prod.snd) k
        return (characters.length, k)

def consoleClearImp (k : Consoles) (bg fg : UInt32) (n : ConsoleId) : Consoles :=
  if !k.display.useGui then
    k
  else
    let k := k.modify n fun t => { t with bgColor := bg, fgColor := fg }
    (localGotoxy k 0 0 n).draw [.background bg]

def consolePrintIndent (k : Consoles) (indent : Nat) (n : ConsoleId) : Except Ke.Stop Consoles :=
  (List.replicate indent (32 : UInt8)).foldlM (consolePutchar · · n) k

/-- The requests about the cursor, the screen and the foreground console. What they
    return is left out, and the requests that report a field or print a message. -/
def ioctlRequest (k : Consoles) (request arg : UInt64) : Except Ke.Stop Consoles :=
  let n := k.fgConsole
  let t := k.ttys n
  match request.toNat with
  | 440 => .ok (consoleClearImp k t.bgColor t.fgColor n)
  | 998 => .ok (consoleScrollRect k n CONSOLE_SCROLL_DIRECTION_DOWN)
  | 999 => .ok (consoleScrollRect k n CONSOLE_SCROLL_DIRECTION_UP)
  | 1001 => .ok (localGotoxy k (toInt arg) (toInt t.cursorY) n)
  | 1002 => .ok (localGotoxy k (toInt t.cursorX) (toInt arg) n)
  | 1003 =>
      if inside : arg.toNat < CONSOLETTYS_COUNT_MAX then
        .ok { k with fgConsole := ⟨arg.toNat, inside⟩ }
      else
        .ok k
  | 1008 => .ok (localGotoxy k (toInt arg) 0 n)
  | 1009 => .ok (localGotoxy k (toInt arg) (toInt (t.cursorBottom - 1)) n)
  | 1010 => if arg < 70 then consolePrintIndent k arg.toNat n else .ok k
  | _ => .ok k

def consoleIoctl (k : Consoles) (fd : Int32) (request arg : UInt64) : Except Ke.Stop Consoles :=
  if fd < 0 ∨ fd ≥ OPEN_MAX then
    .ok k
  else if fd ≠ 1 then
    .error (.panic "console_ioctl: fd != 1\n")
  else
    ioctlRequest k request arg

end Gramado.Chardev.Console
