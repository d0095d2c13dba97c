/-
A string of bytes written in pieces. Each write begins with the parser between two
sequences, so a cut is harmless after bytes that end no sequence halfway, and only there.
`console_write_string` cuts after each byte, and loses what follows a NUL.
-/
import Mathlib.Data.List.TakeWhile
import Gramado.Chardev.ConsoleFrame

namespace Gramado.Chardev.Console

open Gramado.Ke
open Gramado.Lib.Fallible

/-- The pieces written one after the other. -/
def writePieces (k : Consoles) (number : Int32) (pieces : List (List UInt8)) :
    Except Ke.Stop Consoles :=
  pieces.foldlM (fun k piece => (consoleWrite k number piece).map Prod.snd) k

/-- The same with `console_write_string`. -/
def writeStrings (k : Consoles) (number : Int32) (pieces : List (List UInt8)) :
    Except Ke.Stop Consoles :=
  pieces.foldlM (fun k piece => (consoleWriteString k number piece).map Prod.snd) k

/-- The bytes end no sequence halfway. -/
def Closed (bytes : List UInt8) : Prop :=
  parse bytes = .normal

instance (bytes : List UInt8) : Decidable (Closed bytes) :=
  inferInstanceAs (Decidable (parse bytes = .normal))

/-- No cut between two pieces is within a sequence. -/
def ClosedCuts (pieces : List (List UInt8)) : Prop :=
  ∀ i, i < pieces.length → Closed (pieces.take i).flatten

instance (pieces : List (List UInt8)) : Decidable (ClosedCuts pieces) :=
  inferInstanceAs (Decidable (∀ i, i < pieces.length → Closed (pieces.take i).flatten))

/-- The cursors, the colours, the saved cursor and the cells that are drawn. -/
def Consoles.view (k : Consoles) :
    (ConsoleId → (UInt64 × UInt64) × UInt32 × UInt32) × (Int32 × Int32) × List Draw :=
  (fun n => (((k.ttys n).cursorX, (k.ttys n).cursorY), (k.ttys n).fgColor, (k.ttys n).bgColor),
    (k.savedX, k.savedY), k.drawn)

/-- The console echoes, and has a screen of at least one line and two columns. -/
structure Ready (k : Consoles) (n : ConsoleId) : Prop where
  drawable : Drawable k.display
  valid : ∀ m, (k.ttys m).magic = 1234
  initialized : (k.ttys n).initialized
  echo : (k.ttys n).echo
  narrow : (k.ttys n).Narrow
  columns : (k.ttys n).cursorLeft < (k.ttys n).cursorRight - 1
  rows : 0 < (k.ttys n).cursorBottom

/-- One write to a console that exists. -/
def writeBytes (n : ConsoleId) (k : Consoles) (bytes : List UInt8) : Except Ke.Stop Consoles := do
  let (echo, k) ← enter k n
  bytes.foldlM (writeByte echo n) k

section Splitting

variable {k k' : Consoles} {n : ConsoleId} {number : Int32} {ch : UInt8} {bytes : List UInt8}

theorem parse_append {early late : List UInt8} (closed : Closed early) :
    parse (early ++ late) = parse late := by
  rw [parse, List.foldl_append]
  exact congrArg (late.foldl Parser.next) closed

theorem stage_normal_of (normal : k.parser = .normal) : k.stage = .normal := by
  unfold Consoles.parser at normal
  split at normal
  · assumption
  all_goals cases normal

theorem write_eq_bytes (found : consoleOf number = some n) (some_bytes : bytes ≠ []) :
    (consoleWrite k number bytes).map Prod.snd = writeBytes n k bytes := by
  have length : bytes.length ≠ 0 := by simpa using some_bytes
  rw [consoleWrite, found, writeBytes]
  simp only [if_neg length]
  rcases enter k n with stop | ⟨echo, k'⟩
  · rfl
  · change ((bytes.foldlM (writeByte echo n) k') >>= _).map Prod.snd =
      bytes.foldlM (writeByte echo n) k'
    cases bytes.foldlM (writeByte echo n) k' <;> rfl

/-- What a write of its own begins with, after bytes that end no sequence halfway. -/
theorem enter_again (valid : (k.ttys n).magic = 1234) (closed : Closed bytes)
    (taken : Taken { k with stage := .normal } (parse bytes) k') :
    enter k' n = .ok ((k.ttys n).echo, k') := by
  have setup := taken.setup n
  have magic : (k'.ttys n).magic = 1234 :=
    (congrArg (fun setup => setup.1.2.1) setup).trans valid
  have echo : (k'.ttys n).echo = (k.ttys n).echo :=
    congrArg (fun setup => setup.1.2.2.2) setup
  have stage : k'.stage = .normal := stage_normal_of (taken.parser.trans closed)
  rw [enter, if_neg (not_not_intro magic), echo, ← stage]

theorem writeBytes_append {early late : List UInt8} (closed : Closed early) :
    writeBytes n k (early ++ late) = writeBytes n k early >>= fun k => writeBytes n k late := by
  unfold writeBytes
  by_cases valid : (k.ttys n).magic = 1234
  · have entered : enter k n = .ok ((k.ttys n).echo, { k with stage := .normal }) := by
      rw [enter, if_neg (not_not_intro valid)]
    rw [entered]
    change List.foldlM _ _ (early ++ late) = (List.foldlM _ _ early >>= _)
    rw [List.foldlM_append]
    have taken := @writeBytes_taken { k with stage := .normal } n (k.ttys n).echo early
    rcases ended : early.foldlM (writeByte (k.ttys n).echo n) { k with stage := .normal } with
      stop | k'
    · rfl
    · change _ = (enter k' n >>= _)
      rw [enter_again valid closed (taken k' ended)]
      rfl
  · rw [enter, if_pos valid]
    rfl

theorem closedCuts_rest {piece : List UInt8} {rest : List (List UInt8)}
    (closed : ClosedCuts (piece :: rest)) (more : rest ≠ []) :
    Closed piece ∧ ClosedCuts rest := by
  have first : Closed piece := by
    have cut := closed 1 (by simpa [List.length_pos_iff] using more)
    simpa using cut
  refine ⟨first, ?_⟩
  intro i inside
  have cut := closed (i + 1) (by simpa using inside)
  rw [List.take_succ_cons, List.flatten_cons, Closed, parse_append first] at cut
  exact cut

theorem writePieces_bytes (found : consoleOf number = some n) (pieces : List (List UInt8))
    (full : ∀ piece ∈ pieces, piece ≠ []) (some_pieces : pieces ≠ [])
    (closed : ClosedCuts pieces) :
    writePieces k number pieces = writeBytes n k pieces.flatten := by
  induction pieces generalizing k with
  | nil => exact absurd rfl some_pieces
  | cons piece rest ih =>
      rw [writePieces, List.foldlM_cons, write_eq_bytes found (full piece (by simp)),
        List.flatten_cons]
      by_cases more : rest = []
      · rw [more, List.flatten_nil, List.append_nil]
        exact bind_pure _
      · rcases closedCuts_rest closed more with ⟨first, later⟩
        rw [writeBytes_append first]
        refine congrArg (writeBytes n k piece >>= ·) (funext fun k' => ?_)
        exact ih (fun piece inside => full piece (by simp [inside])) more later

/-- Cut between two sequences, the pieces are written as the whole string is. -/
theorem writePieces_closed (pieces : List (List UInt8)) (full : ∀ piece ∈ pieces, piece ≠ [])
    (closed : ClosedCuts pieces) :
    writePieces k number pieces = (consoleWrite k number pieces.flatten).map Prod.snd := by
  cases found : consoleOf number with
  | none =>
      have nothing : ∀ bytes, consoleWrite k number bytes = .ok (-1, k) := by
        intro bytes
        rw [consoleWrite, found]
      rw [nothing, writePieces]
      clear full closed
      induction pieces with
      | nil => rfl
      | cons piece rest ih =>
          rw [List.foldlM_cons, nothing]
          exact ih
  | some n =>
      by_cases none : pieces = []
      · rw [none, List.flatten_nil, consoleWrite, found]
        rfl
      · rw [writePieces_bytes found pieces full none closed, write_eq_bytes found]
        rcases List.exists_mem_of_ne_nil pieces none with ⟨piece, inside⟩
        intro empty
        exact full piece inside (List.flatten_eq_nil_iff.mp empty piece inside)

theorem cString_self {string : List UInt8} (no_nul : 0 ∉ string) : cString string = string := by
  refine List.takeWhile_eq_self_iff.mpr ?_
  intro ch inside
  have other : ch ≠ 0 := fun nul => no_nul (nul ▸ inside)
  simpa using other

theorem writeString_pieces (string : List UInt8) :
    (consoleWriteString k number string).map Prod.snd =
      writePieces k number ((cString string).map fun ch => [ch]) := by
  rw [writePieces, List.foldlM_map, consoleWriteString]
  generalize cString string = characters
  cases found : consoleOf number with
  | none =>
      induction characters with
      | nil => rfl
      | cons ch rest ih =>
          rw [List.foldlM_cons, consoleWrite, found]
          exact ih
  | some n =>
      by_cases empty : characters.length = 0
      · rw [List.length_eq_zero_iff.mp empty]
        rfl
      · simp only [if_neg empty]
        cases characters.foldlM (fun k ch => (consoleWrite k number [ch]).map Prod.snd) k <;> rfl

theorem writePieces_append (early late : List (List UInt8)) :
    writePieces k number (early ++ late) =
      writePieces k number early >>= (writePieces · number late) := by
  rw [writePieces, List.foldlM_append]
  rfl

theorem writeStrings_pieces (pieces : List (List UInt8)) :
    writeStrings k number pieces =
      writePieces k number ((pieces.flatMap cString).map fun ch => [ch]) := by
  induction pieces generalizing k with
  | nil => rfl
  | cons piece rest ih =>
      rw [writeStrings, List.foldlM_cons, writeString_pieces, List.flatMap_cons, List.map_append,
        writePieces_append]
      exact congrArg (_ >>= ·) (funext fun k' => ih)

/-- Strings without a NUL are written as one string of bytes, if no cut is within
    a sequence. -/
theorem writeStrings_closed (pieces : List (List UInt8)) (no_nul : ∀ piece ∈ pieces, 0 ∉ piece)
    (closed : ClosedCuts (pieces.flatten.map fun ch => [ch])) :
    writeStrings k number pieces = (consoleWrite k number pieces.flatten).map Prod.snd := by
  have characters : pieces.flatMap cString = pieces.flatten := by
    have same : pieces.map cString = pieces.map id :=
      List.map_congr_left fun piece inside => cString_self (no_nul piece inside)
    rw [List.flatMap_def, same, List.map_id]
  rw [writeStrings_pieces, characters, writePieces_closed _ _ closed]
  · rw [← List.flatMap_def, List.flatMap_singleton']
  · intro piece inside
    rcases List.mem_map.mp inside with ⟨ch, -, rfl⟩
    exact List.cons_ne_nil ch []

/-- Bytes that are the rest of a sequence, and not characters then. -/
def midway (bytes : List UInt8) : UInt8 :=
  if parse bytes = .escape then 91 else 48

theorem midway_next (open_sequence : ¬Closed bytes) (k : Consoles) (at_end : k.parser = parse bytes)
    (echo : Bool) :
    ∃ k', writeByte echo n k (midway bytes) = .ok k' ∧ k'.ttys = k.ttys := by
  unfold writeByte midway
  rw [← at_end]
  unfold Closed at open_sequence
  rw [← at_end] at open_sequence
  unfold Consoles.parser at open_sequence ⊢
  cases stage : k.stage with
  | normal =>
      rw [stage] at open_sequence
      exact absurd rfl open_sequence
  | escape => exact ⟨_, rfl, rfl⟩
  | csi => exact ⟨_, rfl, rfl⟩
  | params => exact ⟨_, rfl, rfl⟩

theorem printed_moves {t : Tty} (columns : t.cursorLeft < t.cursorRight - 1)
    (rows : 0 < t.cursorBottom) :
    ((t.printed ch).cursorX, (t.printed ch).cursorY) ≠ (t.cursorX, t.cursorY) := by
  rw [Ne, Prod.mk.injEq, not_and]
  simp only [Tty.printed, Tty.wrapped, Tty.wrap]
  by_cases room : t.hasRoom
  · simp only [room, if_true]
    split
    · rename_i below
      intro _ sameY
      change t.cursorBottom - 1 = t.cursorY at sameY
      grind
    · intro sameX
      grind
  · simp only [room, if_false, Bool.false_eq_true]
    have wide : t.cursorRight - 1 ≤ t.cursorX := by
      simpa [Tty.hasRoom] using room
    have left : t.cursorLeft ≠ t.cursorX := by grind
    split
    · exact fun same => absurd same left
    · exact fun same => absurd same left

theorem outbyte_moves (ready : Ready k n) (printable : 48 ≤ ch) :
    ∃ k', consoleOutbyte k ch n = .ok k' ∧
      ((k'.ttys n).cursorX, (k'.ttys n).cursorY) ≠ ((k.ttys n).cursorX, (k.ttys n).cursorY) := by
  rcases @answers_outbyte k n ch ready.drawable with ⟨k', done⟩
  refine ⟨k', done, ?_⟩
  -- None of the control characters is that large.
  have others : ch ≠ 12 ∧ ch ≠ 10 ∧ ch ≠ 13 ∧ ch ≠ 9 ∧ ch ≠ 8 := by
    refine ⟨?_, ?_, ?_, ?_, ?_⟩ <;>
      rintro rfl <;> exact absurd printable (by decide)
  rcases others with ⟨feed, line, carriage, tab, back⟩
  rw [consoleOutbyte, if_neg (drawable_sized ready.drawable), ready.initialized, if_neg (by simp),
    if_neg feed, if_neg line, if_neg carriage, if_neg tab, if_neg back] at done
  rw [(only_printChar k' done).1]
  exact printed_moves ready.columns ready.rows

theorem ready_taken {next : Parser} (ready : Ready k n) (taken : Taken k next k') :
    Ready k' n := by
  have setup := taken.setup n
  have narrow := taken.narrow n ready.narrow
  have bottom : (k'.ttys n).cursorBottom = (k.ttys n).cursorBottom := by
    have written : toInt (k'.ttys n).cursorBottom = toInt (k.ttys n).cursorBottom :=
      congrArg (fun setup => setup.2.2.2) setup
    exact narrow.2.symm.trans ((congrArg toLong written).trans ready.narrow.2)
  have left : (k'.ttys n).cursorLeft = (k.ttys n).cursorLeft :=
    congrArg (fun setup => setup.2.1.1) setup
  have right : (k'.ttys n).cursorRight = (k.ttys n).cursorRight :=
    congrArg (fun setup => setup.2.1.2) setup
  constructor
  · rw [taken.display]
    exact ready.drawable
  · intro m
    exact (congrArg (fun setup => setup.1.2.1) (taken.setup m)).trans (ready.valid m)
  · exact (congrArg (fun setup => setup.1.1) setup).trans ready.initialized
  · exact (congrArg (fun setup => setup.1.2.2.2) setup).trans ready.echo
  · exact narrow
  · rw [left, right]
    exact ready.columns
  · rw [bottom]
    exact ready.rows

theorem answers_bytes (ready : Ready k n) (bytes : List UInt8) (echo : Bool) :
    Answers (bytes.foldlM (writeByte echo n) k) := by
  induction bytes generalizing k with
  | nil => exact answers_pure
  | cons ch rest ih =>
      rcases @answers_writeByte k n ch echo ready.drawable ready.valid with ⟨k', done⟩
      rw [List.foldlM_cons, answers_bind]
      exact ⟨k', done, ih (ready_taken ready (writeByte_taken k' done))⟩

theorem enter_ready (ready : Ready k n) :
    enter k n = .ok (true, { k with stage := .normal }) := by
  rw [enter, if_neg (not_not_intro (ready.valid n)), ready.echo]

theorem writeBytes_ready (ready : Ready k n) (bytes : List UInt8) :
    ∃ k', writeBytes n k bytes = .ok k' ∧ Taken { k with stage := .normal } (parse bytes) k' ∧
      Ready k' n := by
  have begun : Ready { k with stage := .normal } n := { ready with }
  rcases answers_bytes begun bytes true with ⟨k', written⟩
  have taken := writeBytes_taken bytes k' written
  refine ⟨k', ?_, taken, ready_taken begun taken⟩
  rw [writeBytes, enter_ready ready]
  exact written

theorem character_moves (ready : Ready k n) (large : 48 ≤ ch) (not_delete : ch ≠ 127) :
    ∃ k', writeBytes n k [ch] = .ok k' ∧
      ((k'.ttys n).cursorX, (k'.ttys n).cursorY) ≠ ((k.ttys n).cursorX, (k.ttys n).cursorY) := by
  have begun : Ready { k with stage := .normal } n := { ready with }
  rcases outbyte_moves begun large with ⟨k', printed, moved⟩
  refine ⟨k', ?_, moved⟩
  have not_escape : ch ≠ 27 := by
    rintro rfl
    exact absurd large (by decide)
  have character : 32 ≤ ch := UInt8.le_trans (by decide : (32 : UInt8) ≤ 48) large
  have one : writeByte true n { k with stage := .normal } ch = .ok k' := by
    rw [writeByte, stageNormal, if_neg not_escape, if_pos ⟨character, not_delete⟩]
    exact printed
  rw [writeBytes, enter_ready ready]
  change List.foldlM (writeByte true n) { k with stage := .normal } [ch] = _
  rw [List.foldlM_cons, one]
  rfl

/-- After bytes that end a sequence halfway there is a byte that the cut makes a character. -/
theorem midway_shows (ready : Ready k n) (open_sequence : ¬Closed bytes) :
    ∃ whole split, writeBytes n k (bytes ++ [midway bytes]) = .ok whole ∧
      writeBytes n k bytes >>= (writeBytes n · [midway bytes]) = .ok split ∧
      ((split.ttys n).cursorX, (split.ttys n).cursorY) ≠
        ((whole.ttys n).cursorX, (whole.ttys n).cursorY) := by
  rcases writeBytes_ready ready bytes with ⟨k₁, written, taken, ready₁⟩
  rcases midway_next (n := n) open_sequence k₁ taken.parser true with ⟨whole, next, same⟩
  have printable : 48 ≤ midway bytes ∧ midway bytes ≠ 127 := by
    unfold midway
    split <;> decide
  rcases character_moves ready₁ printable.1 printable.2 with ⟨split, printed, moved⟩
  refine ⟨whole, split, ?_, ?_, ?_⟩
  · rw [writeBytes, enter_ready ready] at written ⊢
    change List.foldlM (writeByte true n) _ (bytes ++ [midway bytes]) = _
    change List.foldlM (writeByte true n) _ bytes = _ at written
    rw [List.foldlM_append, written]
    change List.foldlM (writeByte true n) k₁ [midway bytes] = _
    rw [List.foldlM_cons, next]
    rfl
  · rw [written]
    exact printed
  · rw [same]
    exact moved

theorem closed_nul (bytes : List UInt8) : Closed (bytes ++ [0]) := by
  unfold Closed parse
  rw [List.foldl_append, List.foldl_cons, List.foldl_nil]
  cases bytes.foldl Parser.next .normal with
  | normal => rfl
  | escape => rfl
  | csi => rfl
  | params => rfl

theorem nul_shows (ready : Ready k n) (bytes : List UInt8) :
    ∃ short long, writeBytes n k (bytes ++ [0]) = .ok short ∧
      writeBytes n k (bytes ++ [0, 65]) = .ok long ∧
      ((long.ttys n).cursorX, (long.ttys n).cursorY) ≠
        ((short.ttys n).cursorX, (short.ttys n).cursorY) := by
  rcases writeBytes_ready ready (bytes ++ [0]) with ⟨short, written, -, ready₁⟩
  rcases character_moves ready₁ (by decide : (48 : UInt8) ≤ 65) (by decide) with
    ⟨long, printed, moved⟩
  refine ⟨short, long, written, ?_, moved⟩
  rw [List.append_cons bytes 0 [65], writeBytes_append (closed_nul bytes), written]
  exact printed

theorem cString_nul (early late : List UInt8) : cString (early ++ 0 :: late) = cString early := by
  induction early with
  | nil => rfl
  | cons ch rest ih =>
      rw [cString, cString, List.cons_append, List.takeWhile_cons, List.takeWhile_cons]
      exact congrArg (fun rest => if decide (ch ≠ 0) then ch :: rest else []) ih

theorem writeString_nul (early late : List UInt8) :
    consoleWriteString k number (early ++ 0 :: late) = consoleWriteString k number early := by
  rw [consoleWriteString, consoleWriteString, cString_nul]

end Splitting

/-- The state does not depend on how the bytes are split, as long as no cut is within
    a sequence and no string has a NUL; and a cut does no harm, whatever follows it, only there. -/
theorem write_splits (k : Consoles) (number : Int32) :
    (∀ pieces : List (List UInt8), (∀ piece ∈ pieces, piece ≠ []) → ClosedCuts pieces →
      writePieces k number pieces = (consoleWrite k number pieces.flatten).map Prod.snd) ∧
    (∀ pieces : List (List UInt8), (∀ piece ∈ pieces, 0 ∉ piece) →
      ClosedCuts (pieces.flatten.map fun ch => [ch]) →
      writeStrings k number pieces = (consoleWrite k number pieces.flatten).map Prod.snd) ∧
    ∀ n, consoleOf number = some n → Ready k n →
      (∀ early : List UInt8, early ≠ [] →
        ((∀ late, late ≠ [] →
          (writePieces k number [early, late]).map Consoles.view =
            (consoleWrite k number (early ++ late)).map fun out => out.2.view) ↔ Closed early)) ∧
      (∀ early : List UInt8, ∃ late,
        (consoleWriteString k number (early ++ 0 :: late)).map (fun out => out.2.view) ≠
          (consoleWrite k number (early ++ 0 :: late)).map fun out => out.2.view) := by
  refine ⟨?_, ?_, ?_⟩
  · intro pieces full closed
    exact writePieces_closed pieces full closed
  · intro pieces no_nul closed
    exact writeStrings_closed pieces no_nul closed
  · intro n found ready
    have whole : ∀ bytes : List UInt8, bytes ≠ [] →
        ((consoleWrite k number bytes).map fun out => out.2.view) =
          (writeBytes n k bytes).map Consoles.view := by
      intro bytes some_bytes
      rw [← write_eq_bytes found some_bytes]
      cases consoleWrite k number bytes <;> rfl
    refine ⟨?_, ?_⟩
    · intro early some_early
      have both : ∀ late : List UInt8, late ≠ [] →
          writePieces k number [early, late] =
            writeBytes n k early >>= fun k => writeBytes n k late := by
        intro late some_late
        rw [writePieces, List.foldlM_cons, write_eq_bytes found some_early]
        refine congrArg (writeBytes n k early >>= ·) (funext fun k' => ?_)
        rw [List.foldlM_cons, write_eq_bytes found some_late]
        exact bind_pure _
      constructor
      · intro same
        by_contra open_sequence
        -- A sequence that is cut in the middle starts again with what comes late.
        rcases midway_shows ready open_sequence with ⟨written, split, wholly, cut, moved⟩
        have views := same [midway early] (List.cons_ne_nil _ _)
        rw [both _ (List.cons_ne_nil _ _), whole _ (by simp), wholly, cut] at views
        injection views with view
        exact moved (congrArg (fun view => (view.1 n).1) view)
      · intro closed late some_late
        rw [both late some_late, whole _ (by simp [some_early]), writeBytes_append closed]
    · intro early
      -- The string ends at the NUL, so what comes late makes no difference to it.
      rcases nul_shows ready early with ⟨short, long, written, further, moved⟩
      by_contra none
      have same : ∀ late : List UInt8,
          (consoleWriteString k number early).map (fun out => out.2.view) =
            (writeBytes n k (early ++ 0 :: late)).map Consoles.view := by
        intro late
        rw [← whole _ (by simp), ← writeString_nul early late]
        by_contra different
        exact none ⟨late, different⟩
      have views := (same [65]).symm.trans (same [])
      rw [written, further] at views
      injection views with view
      exact moved (congrArg (fun view => (view.1 n).1) view)

/-- The consoles of a screen of 80 columns and 25 lines, before anything is written. -/
def fresh : Consoles where
  ttys := fun _ => {
    initialized := true
    magic := 1234
    fullscreen := true
    echo := true
    cursorX := 0
    cursorY := 0
    cursorLeft := 0
    cursorTop := 0
    cursorRight := 80
    cursorBottom := 25
    fgColor := COLOR_WHITE
    bgColor := COLOR_BLACK
    defaultFgColor := COLOR_WHITE
    defaultBgColor := COLOR_BLACK
    prevChar := 0 }
  display := { charWidth := 8, charHeight := 16, useGui := true, savedX := 640 }
  fgConsole := 0
  savedX := 0
  savedY := 0
  stage := .normal
  par := fun _ => 0
  npar := 0
  drawn := []

theorem fresh_ready (n : ConsoleId) : Ready fresh n where
  drawable := ⟨by decide, by decide, rfl⟩
  valid := fun _ => rfl
  initialized := rfl
  echo := rfl
  narrow := ⟨(by decide : toLong (toInt 0) = 0), (by decide : toLong (toInt 25) = 25)⟩
  columns := (by decide : (0 : UInt64) < 80 - 1)
  rows := (by decide : (0 : UInt64) < 25)

theorem fresh_splits :
    (∀ early : List UInt8, early ≠ [] →
      ((∀ late, late ≠ [] →
        (writePieces fresh 0 [early, late]).map Consoles.view =
          (consoleWrite fresh 0 (early ++ late)).map fun out => out.2.view) ↔ Closed early)) ∧
    writeStrings fresh 0 [[72, 105], [10]] = (consoleWrite fresh 0 [72, 105, 10]).map Prod.snd :=
  ⟨((write_splits fresh 0).2.2 0 rfl (fresh_ready 0)).1,
    (write_splits fresh 0).2.1 [[72, 105], [10]] (by decide) (by decide)⟩

/-- `"\x1b"`, and then `"[31m"`: the four characters are printed. -/
theorem escape_cut :
    ((consoleWrite fresh 0 [27, 91, 51, 49, 109]).toOption.map fun out =>
        ((out.2.ttys 0).cursorX, out.2.drawn.length)) = some (0, 0) ∧
      ((writePieces fresh 0 [[27], [91, 51, 49, 109]]).toOption.map fun k =>
        ((k.ttys 0).cursorX, k.drawn.length)) = some (4, 8) := by
  decide +kernel

end Gramado.Chardev.Console
