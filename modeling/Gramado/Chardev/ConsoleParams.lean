/-
The parameters of `ESC [ p1 ; ... ; pk c` on their way to the command. `par` has
them as numbers of 64 bits, and `npar` is the place of the last one: it is zero for
one parameter as it is for none.
-/
import Gramado.Chardev.ConsoleSplit
import Mathlib.Data.Nat.Cast.Basic

namespace Gramado.Chardev.Console

/-- A command with what it is given: places from zero, counts and modes as numbers,
    and the parameters of `m` as it reads them. -/
inductive Command where
  | position (row column : Int)
  | up (step : Nat)
  | down (step : Nat)
  | forward (step : Nat)
  | backward (step : Nat)
  | eraseDisplay (mode : Int)
  | eraseLine (mode : Int)
  | reset
  | colours (set : List Int32)
  | save
  | restore
  | insertLines (count : Nat)
  | deleteLines (count : Nat)
  | ignored
  deriving DecidableEq, Repr

/-- The first parameter where the command tests `npar`. -/
def Consoles.first (k : Consoles) (none : UInt64) : UInt64 :=
  if k.npar ≠ 0 then k.par 0 else none

def commandOf (k : Consoles) (ch : UInt8) : Command :=
  match ch.toNat with
  | 72 | 102 => .position (toInt (k.par 0 - 1)).toInt
      (toInt ((if k.npar ≥ 1 then k.par 1 else 1) - 1)).toInt
  | 65 => .up (k.first 1).toNat
  | 66 => .down (k.first 1).toNat
  | 67 => .forward (k.first 1).toNat
  | 68 => .backward (k.first 1).toNat
  | 74 => .eraseDisplay (toInt (k.first 0)).toInt
  | 75 => .eraseLine (toInt (k.first 0)).toInt
  | 109 =>
      if k.npar = 0 then .reset
      else .colours ((List.range k.npar).map fun i => toInt (k.par i))
  | 115 => .save
  | 117 => .restore
  | 76 => .insertLines (lines (toInt (k.first 1)))
  | 77 => .deleteLines (lines (toInt (k.first 1)))
  | _ => .ignored

/-- `csi_J` has its body in a comment. -/
def perform (n : ConsoleId) (command : Command) (k : Consoles) : Except Ke.Stop Consoles :=
  let t := k.ttys n
  match command with
  | .position row column => .ok (localGotoxy k (Int32.ofInt column) (Int32.ofInt row) n)
  | .up step =>
      .ok (localGotoxy k (toInt t.cursorX) (toInt (t.cursorY - UInt64.ofNat step)) n)
  | .down step =>
      .ok (localGotoxy k (toInt t.cursorX) (toInt (t.cursorY + UInt64.ofNat step)) n)
  | .forward step =>
      .ok (localGotoxy k (toInt (t.cursorX + UInt64.ofNat step)) (toInt t.cursorY) n)
  | .backward step =>
      .ok (localGotoxy k (toInt (t.cursorX - UInt64.ofNat step)) (toInt t.cursorY) n)
  | .eraseDisplay _ => .ok k
  | .eraseLine mode => csiK k (Int32.ofInt mode)
  | .reset => .ok (k.modify k.fgConsole fun t =>
      { t with fgColor := t.defaultFgColor, bgColor := t.defaultBgColor })
  | .colours set => .ok { (k.modify k.fgConsole fun t => set.foldl Tty.rendition t) with
      par := fun _ => 0
      npar := 0 }
  | .save => .ok (localSaveCur k n)
  | .restore => .ok (localRestoreCur k n)
  | .insertLines count => .ok (repeatTimes (localInsertLine · n) count k)
  | .deleteLines count => .ok (repeatTimes (localDeleteLine · n) count k)
  | .ignored => .ok k

theorem toInt_zero : toInt 0 = 0 := rfl

theorem toInt_one : toInt 1 = 1 := rfl

theorem execute_eq (k : Consoles) (ch : UInt8) (n : ConsoleId) :
    execute k ch n = perform n (commandOf k ch) { k with stage := .normal } := by
  generalize called : commandOf k ch = command
  unfold commandOf at called
  split at called
  all_goals
    subst called
    rename_i final
    by_cases none : k.npar = 0 <;>
      simp [execute, moveTarget, perform, Consoles.first, csiMColors, csiL, csiM, final, none,
        toInt_zero, toInt_one]

/-- What a sequence asks for. A parameter that is not there is one, or zero for
    a mode, and no lines are one. -/
def given (ch : UInt8) (ps : List Nat) : Command :=
  match ch.toNat with
  | 72 | 102 => .position (ps.getD 0 1 - 1) (ps.getD 1 1 - 1)
  | 65 => .up (ps.getD 0 1)
  | 66 => .down (ps.getD 0 1)
  | 67 => .forward (ps.getD 0 1)
  | 68 => .backward (ps.getD 0 1)
  | 74 => .eraseDisplay (ps.getD 0 0)
  | 75 => .eraseLine (ps.getD 0 0)
  | 109 => if ps = [] then .reset else .colours (ps.map fun p => toInt (UInt64.ofNat p))
  | 115 => .save
  | 117 => .restore
  | 76 => .insertLines (max 1 (ps.getD 0 1))
  | 77 => .deleteLines (max 1 (ps.getD 0 1))
  | _ => .ignored

def Tty.colours (t : Tty) : UInt32 × UInt32 := (t.fgColor, t.bgColor)

/-- The colours that a command for them gives. -/
def Command.result (t : Tty) : Command → Option (UInt32 × UInt32)
  | .reset => some (t.defaultFgColor, t.defaultBgColor)
  | .colours set => some (set.foldl Tty.rendition t).colours
  | _ => none

/-- The same command with the same parameters, or two that give the same colours. -/
def Command.Same (t : Tty) (a b : Command) : Prop :=
  a = b ∨ ∃ colours, a.result t = some colours ∧ b.result t = some colours

section Bytes

def Decimal (digits : List UInt8) : Prop :=
  digits ≠ [] ∧ ∀ d ∈ digits, 48 ≤ d ∧ d ≤ 57

def shift (v : Nat) (digit : UInt8) : Nat :=
  v * 10 + (digit.toNat - 48)

def value (digits : List UInt8) : Nat :=
  digits.foldl shift 0

/-- `p1;...;pk` -/
def parameters : List (List UInt8) → List UInt8
  | [] => []
  | p :: rest => p ++ rest.flatMap fun q => 59 :: q

def sequence (ps : List (List UInt8)) (ch : UInt8) : List UInt8 :=
  [27, 91] ++ parameters ps ++ [ch]

/-- The state of the parser when it has collected these parameters. -/
def parsed (k : Consoles) (vs : List Nat) : Consoles :=
  { k with
    stage := .params
    par := fun i => UInt64.ofNat (vs.getD i 0)
    npar := vs.length - 1 }

variable {k : Consoles} {n : ConsoleId} {echo : Bool} {ch : UInt8} {vs : List Nat} {v : Nat}

theorem ofNat_shift (digit : 48 ≤ ch) :
    UInt64.ofNat (shift v ch) = UInt64.ofNat v * 10 + (ch - 48).toUInt64 := by
  have difference : (ch - 48).toNat = ch.toNat - 48 := UInt8.toNat_sub_of_le ch 48 digit
  rw [shift, UInt64.ofNat_add, UInt64.ofNat_mul]
  congr 1
  apply UInt64.toNat_inj.mp
  rw [UInt8.toNat_toUInt64, difference, UInt64.toNat_ofNat', Nat.mod_eq_of_lt]
  exact Nat.lt_of_le_of_lt (Nat.sub_le _ _) (Nat.lt_trans ch.toNat_lt (by decide))

theorem digit_collected (digit : 48 ≤ ch ∧ ch ≤ 57) :
    writeByte echo n (parsed k (vs ++ [v])) ch = .ok (parsed k (vs ++ [shift v ch])) := by
  have par : (fun i => if i = (parsed k (vs ++ [v])).npar then
      (parsed k (vs ++ [v])).par i * 10 + (ch - 48).toUInt64 else (parsed k (vs ++ [v])).par i) =
      (parsed k (vs ++ [shift v ch])).par := by
    funext i
    simp only [parsed, List.length_append, List.length_singleton, Nat.add_sub_cancel]
    split
    · rename_i last
      subst last
      simp [ofNat_shift digit.1]
    · rename_i other
      rcases Nat.lt_or_gt_of_ne other with low | high
      · rw [List.getD_append _ _ _ _ low, List.getD_append _ _ _ _ low]
      · rw [List.getD_eq_default, List.getD_eq_default] <;> simpa using Nat.succ_le_of_lt high
  change stageParams (parsed k (vs ++ [v])) ch n = _
  rw [stageParams, if_pos digit]
  simp only [par]
  simp [parsed]

theorem digits_collected (digits : List UInt8) (decimal : ∀ d ∈ digits, 48 ≤ d ∧ d ≤ 57) :
    digits.foldlM (writeByte echo n) (parsed k (vs ++ [v])) =
      .ok (parsed k (vs ++ [digits.foldl shift v])) := by
  induction digits generalizing v with
  | nil => rfl
  | cons d rest ih =>
      rw [List.foldlM_cons, digit_collected (decimal d List.mem_cons_self)]
      exact ih fun d' inside => decimal d' (List.mem_cons_of_mem d inside)

theorem separator_collected (some_params : vs ≠ []) (room : vs.length < NPAR) :
    writeByte echo n (parsed k vs) 59 = .ok (parsed k (vs ++ [0])) := by
  have places : 0 < vs.length := List.length_pos_iff.mpr some_params
  have free : vs.length - 1 < NPAR - 1 := Nat.sub_lt_sub_right places room
  have par : ∀ i : Nat, (vs ++ [0]).getD i 0 = vs.getD i 0 := by
    intro i
    rcases Nat.lt_or_ge i vs.length with low | high
    · exact List.getD_append _ _ _ _ low
    · rw [List.getD_append_right _ _ _ _ high, List.getD_eq_default vs _ high]
      cases i - vs.length <;> rfl
  change stageParams (parsed k vs) 59 n = _
  rw [stageParams, if_neg (by decide), if_pos ⟨rfl, free⟩]
  simp only [parsed, par, List.length_append, List.length_singleton, Nat.add_sub_cancel,
    Nat.sub_add_cancel places]

theorem rest_collected (rest : List (List UInt8)) (decimal : ∀ p ∈ rest, Decimal p)
    (some_params : vs ≠ []) (room : vs.length + rest.length ≤ NPAR) :
    (rest.flatMap fun q => 59 :: q).foldlM (writeByte echo n) (parsed k vs) =
      .ok (parsed k (vs ++ rest.map value)) := by
  induction rest generalizing vs with
  | nil => simp [pure, Except.pure]
  | cons p rest ih =>
      have digits := (decimal p List.mem_cons_self).2
      have low : vs.length < NPAR := by
        rw [List.length_cons] at room
        omega
      rw [List.flatMap_cons, List.cons_append, List.foldlM_cons,
        separator_collected some_params low]
      change (p ++ _).foldlM _ _ = _
      rw [List.foldlM_append, digits_collected p digits]
      change List.foldlM _ _ _ = _
      rw [ih (fun q inside => decimal q (List.mem_cons_of_mem p inside)) (by simp)]
      · simp [value]
      · simp only [List.length_append, List.length_cons, List.length_nil] at room ⊢
        omega

theorem csi_collected (other : ch ≠ 63) :
    writeByte echo n { k with stage := .csi } ch = writeByte echo n (parsed k []) ch := by
  change stageCsi { k with stage := .csi } ch n = stageParams (parsed k []) ch n
  rw [stageCsi]
  simp only [if_neg other]
  rfl

theorem parsed_none : parsed k [] = parsed k ([] ++ [0]) := by
  simp [parsed]

theorem letter_executed (letter : 63 < ch) :
    writeByte echo n (parsed k vs) ch = execute (parsed k vs) ch n := by
  have high : 63 < ch.toNat := letter
  have digit : ¬(48 ≤ ch ∧ ch ≤ 57) := by
    rintro ⟨-, low⟩
    have small : ch.toNat ≤ 57 := low
    omega
  have separator : ¬(ch = 59 ∧ (parsed k vs).npar < NPAR - 1) := by
    rintro ⟨rfl, -⟩
    exact absurd high (by decide)
  change stageParams (parsed k vs) ch n = _
  rw [stageParams, if_neg digit, if_neg separator]

theorem sequence_collected (ps : List (List UInt8)) (decimal : ∀ p ∈ ps, Decimal p)
    (few : ps.length ≤ NPAR) (letter : 63 < ch) :
    (sequence ps ch).foldlM (writeByte echo n) { k with stage := .normal } =
      execute (parsed k (ps.map value)) ch n := by
  have open_sequence :
      ([27, 91] : List UInt8).foldlM (writeByte echo n) { k with stage := .normal } =
      .ok { k with stage := .csi } := rfl
  rw [sequence, List.append_assoc, List.foldlM_append, open_sequence]
  change (parameters ps ++ [ch]).foldlM (writeByte echo n) { k with stage := .csi } = _
  cases ps with
  | nil =>
      have question : ch ≠ 63 := by
        rintro rfl
        exact absurd letter (by decide)
      change writeByte echo n { k with stage := .csi } ch >>= pure = _
      rw [csi_collected question, letter_executed letter, bind_pure]
      rfl
  | cons p rest =>
      obtain ⟨some_digits, digits⟩ := decimal p List.mem_cons_self
      have first : p.foldlM (writeByte echo n) { k with stage := .csi } =
          .ok (parsed k [value p]) := by
        cases p with
        | nil => exact absurd rfl some_digits
        | cons d more =>
            have question : d ≠ 63 := by
              rintro rfl
              exact absurd (digits 63 List.mem_cons_self).2 (by decide)
            have whole := @digits_collected k n echo [] 0 (d :: more) digits
            rw [List.foldlM_cons, csi_collected question, parsed_none, ← List.foldlM_cons, whole]
            rfl
      have later := @rest_collected k n echo [value p] rest
        (fun q inside => decimal q (List.mem_cons_of_mem p inside)) (by simp)
        (by simpa [Nat.add_comm] using few)
      rw [parameters, List.append_assoc, List.foldlM_append, first]
      change (_ ++ [ch]).foldlM (writeByte echo n) (parsed k [value p]) = _
      rw [List.foldlM_append, later]
      change writeByte echo n (parsed k _) ch >>= pure = _
      rw [letter_executed letter, bind_pure]
      rfl

end Bytes

section Exactness

/-- The final characters that console_write has a command for. -/
def finals : List UInt8 := [72, 102, 65, 66, 67, 68, 74, 75, 109, 115, 117, 76, 77]

def PositionRight : List Nat → Prop
  | [] => False
  | [row] => row ≤ 2 ^ 31
  | row :: column :: _ => row ≤ 2 ^ 31 ∧ column ≤ 2 ^ 31

/-- Where the first parameter is used as it is: none or at least two, or one that is
    the default anyway. -/
def FirstRight (isDefault fits : Nat → Prop) : List Nat → Prop
  | [] => True
  | [p] => isDefault p
  | p :: _ :: _ => fits p

def asInt (p : Nat) : Int32 :=
  toInt (UInt64.ofNat p)

/-- One parameter gives the default colours, or the last of several changes nothing. -/
def ColoursRight (t : Tty) : List Nat → Prop
  | [] => True
  | [p] => (t.rendition (asInt p)).colours = (t.defaultFgColor, t.defaultBgColor)
  | p :: q :: rest =>
      let before := ((p :: q :: rest).dropLast.map asInt).foldl Tty.rendition t
      (before.rendition (asInt ((q :: rest).getLast (by simp)))).colours = before.colours

def Right (t : Tty) (ch : UInt8) (ps : List Nat) : Prop :=
  match ch.toNat with
  | 72 | 102 => PositionRight ps
  | 65 | 66 | 67 | 68 => FirstRight (· = 1) (· < 2 ^ 64) ps
  | 74 | 75 => FirstRight (· = 0) (· < 2 ^ 31) ps
  | 76 | 77 => FirstRight (· ≤ 1) (· < 2 ^ 31) ps
  | 109 => ColoursRight t ps
  | _ => True

variable {k : Consoles} {t : Tty} {vs : List Nat} {ch : UInt8}

theorem toInt_bmod (n : UInt64) : (toInt n).toInt = (n.toNat : Int).bmod (2 ^ 32) := by
  have low : n.toUInt32.toBitVec.toNat = n.toNat % 2 ^ 32 := UInt64.toNat_toUInt32 n
  change n.toUInt32.toBitVec.toInt = _
  rw [BitVec.toInt_eq_toNat_bmod, low]
  simp [Int.bmod_def]

theorem asInt_iff (p : Nat) : (asInt p).toInt = p ↔ p < 2 ^ 31 := by
  rw [asInt, toInt_bmod, UInt64.toNat_ofNat', Int.bmod_def]
  split <;> omega

theorem pred_iff (p : Nat) : (toInt (UInt64.ofNat p - 1)).toInt = (p : Int) - 1 ↔ p ≤ 2 ^ 31 := by
  rw [toInt_bmod, UInt64.toNat_sub, UInt64.toNat_ofNat', UInt64.toNat_one, Int.bmod_def]
  split <;> omega

theorem lines_iff (p : Nat) : lines (asInt p) = max 1 p ↔ p < 2 ^ 31 := by
  have value := asInt_iff p
  have range := (asInt p).toInt_lt
  have sign : asInt p ≤ 0 ↔ (asInt p).toInt ≤ 0 := Int32.le_iff_toInt_le
  rw [lines]
  split
  · rename_i none
    have negative := sign.mp none
    omega
  · rename_i some_lines
    have positive := mt sign.mpr some_lines
    omega

theorem ofNat_iff (p : Nat) : (UInt64.ofNat p).toNat = p ↔ p < 2 ^ 64 := by
  rw [UInt64.toNat_ofNat']
  omega

/-- Only the commands for colours can be the same without being equal. -/
theorem same_iff {a b : Command} (plain : a.result t = none) : a.Same t b ↔ a = b := by
  simp [Command.Same, plain]

theorem parsed_first (none : UInt64) : (parsed k vs).first none =
    match vs with
    | p :: _ :: _ => UInt64.ofNat p
    | _ => none := by
  rcases vs with _ | ⟨p, _ | ⟨q, rest⟩⟩ <;> simp [Consoles.first, parsed]

theorem parsed_set (vs : List Nat) :
    ((List.range (parsed k vs).npar).map fun i => toInt ((parsed k vs).par i)) =
      vs.dropLast.map asInt := by
  apply List.ext_getElem
  · simp [parsed]
  · intro i _ inside
    have low : i < vs.length - 1 := by simpa using inside
    have here : i < vs.length := Nat.lt_of_lt_of_le low (Nat.sub_le _ _)
    simp [parsed, asInt, here]

theorem step_iff :
    ((parsed k vs).first 1).toNat = vs.getD 0 1 ↔ FirstRight (· = 1) (· < 2 ^ 64) vs := by
  rw [parsed_first]
  rcases vs with _ | ⟨p, _ | ⟨q, rest⟩⟩
  · simp [FirstRight]
  · simp [FirstRight, eq_comm]
  · exact ofNat_iff p

theorem mode_iff :
    (toInt ((parsed k vs).first 0)).toInt = (vs.getD 0 0 : Nat) ↔
      FirstRight (· = 0) (· < 2 ^ 31) vs := by
  rw [parsed_first]
  rcases vs with _ | ⟨p, _ | ⟨q, rest⟩⟩
  · simp [FirstRight, toInt_zero]
  · simp [FirstRight, toInt_zero, eq_comm]
  · exact asInt_iff p

theorem count_iff :
    lines (toInt ((parsed k vs).first 1)) = max 1 (vs.getD 0 1) ↔
      FirstRight (· ≤ 1) (· < 2 ^ 31) vs := by
  have one : lines 1 = 1 := rfl
  rw [parsed_first]
  rcases vs with _ | ⟨p, _ | ⟨q, rest⟩⟩
  · simp [FirstRight, toInt_one, one]
  · simp only [FirstRight, toInt_one, one, List.getD_cons_zero]
    omega
  · exact lines_iff p

theorem position_iff :
    ((toInt ((parsed k vs).par 0 - 1)).toInt = (vs.getD 0 1 : Nat) - 1 ∧
      (toInt ((if (parsed k vs).npar ≥ 1 then (parsed k vs).par 1 else 1) - 1)).toInt =
        (vs.getD 1 1 : Nat) - 1) ↔ PositionRight vs := by
  rcases vs with _ | ⟨p, _ | ⟨q, rest⟩⟩
  · have before : (toInt (-1)).toInt ≠ 0 := by decide
    simp [parsed, before, PositionRight]
  · have row := pred_iff p
    simp [parsed, toInt_zero, PositionRight, row]
  · have row := pred_iff p
    have column := pred_iff q
    simp [parsed, PositionRight, row, column]

theorem colours_iff :
    (if (parsed k vs).npar = 0 then Command.reset
      else .colours
        ((List.range (parsed k vs).npar).map fun i => toInt ((parsed k vs).par i))).Same t
      (if vs = [] then .reset else .colours (vs.map fun p => toInt (UInt64.ofNat p))) ↔
    ColoursRight t vs := by
  rw [parsed_set]
  rcases vs with _ | ⟨p, _ | ⟨q, rest⟩⟩
  · simp [parsed, Command.Same, ColoursRight]
  · simp [parsed, Command.Same, Command.result, ColoursRight, asInt]
  · -- The last parameter is the one that the command leaves out.
    have some_params : (parsed k (p :: q :: rest)).npar ≠ 0 := by simp [parsed]
    have last : (p :: q :: rest).map asInt =
        (p :: q :: rest).dropLast.map asInt ++ [asInt ((q :: rest).getLast (by simp))] := by
      rw [← List.getLast_cons (a := p), ← List.map_singleton, ← List.map_append,
        List.dropLast_concat_getLast]
    have different : (p :: q :: rest).dropLast.map asInt ≠ (p :: q :: rest).map asInt := by
      intro same
      have lengths := congrArg List.length same
      simp at lengths
    rw [if_neg some_params, if_neg (List.cons_ne_nil _ _)]
    change Command.Same t (.colours _) (.colours ((p :: q :: rest).map asInt)) ↔ _
    simp only [Command.Same, Command.colours.injEq, different, false_or, Command.result,
      Option.some.injEq, exists_eq_left', ColoursRight]
    rw [last, List.foldl_append]
    rfl

/-- Without a coincidence of the values, what is executed is what is given. -/
theorem exact_iff (supported : ch ∈ finals) :
    (commandOf (parsed k vs) ch).Same t (given ch vs) ↔ Right t ch vs := by
  have position := @position_iff k vs
  have step := @step_iff k vs
  have mode := @mode_iff k vs
  have count := @count_iff k vs
  simp only [finals, List.mem_cons, List.not_mem_nil, or_false] at supported
  rcases supported with rfl | rfl | rfl | rfl | rfl | rfl | rfl | rfl | rfl | rfl | rfl | rfl | rfl
  · rw [same_iff rfl]
    exact (Command.position.injEq _ _ _ _).to_iff.trans position
  · rw [same_iff rfl]
    exact (Command.position.injEq _ _ _ _).to_iff.trans position
  · rw [same_iff rfl]
    exact (Command.up.injEq _ _).to_iff.trans step
  · rw [same_iff rfl]
    exact (Command.down.injEq _ _).to_iff.trans step
  · rw [same_iff rfl]
    exact (Command.forward.injEq _ _).to_iff.trans step
  · rw [same_iff rfl]
    exact (Command.backward.injEq _ _).to_iff.trans step
  · rw [same_iff rfl]
    exact (Command.eraseDisplay.injEq _ _).to_iff.trans mode
  · rw [same_iff rfl]
    exact (Command.eraseLine.injEq _ _).to_iff.trans mode
  · exact colours_iff
  · simp [commandOf, given, Right, Command.Same]
  · simp [commandOf, given, Right, Command.Same]
  · rw [same_iff rfl]
    exact (Command.insertLines.injEq _ _).to_iff.trans count
  · rw [same_iff rfl]
    exact (Command.deleteLines.injEq _ _).to_iff.trans count

end Exactness

section Sequences

variable {k : Consoles} {number : Int32} {n : ConsoleId} {ps : List (List UInt8)} {ch : UInt8}

/-- The write takes the sequence to its end, performs the command that the parser has
    come to, with what is given to it, and leaves the parser between two sequences. -/
def Executed (k : Consoles) (number : Int32) (n : ConsoleId) (ps : List (List UInt8))
    (ch : UInt8) : Prop :=
  let here := parsed k (ps.map value)
  let written := consoleWrite k number (sequence ps ch)
  written = (perform n (commandOf here ch) { here with stage := .normal }).map
      (fun after => (((sequence ps ch).length : Int), after)) ∧
    (∀ len after, written = .ok (len, after) → after.stage = .normal) ∧
    (commandOf here ch).Same (k.ttys k.fgConsole) (given ch (ps.map value))

theorem finals_letter (supported : ch ∈ finals) : 63 < ch := by
  simp only [finals, List.mem_cons, List.not_mem_nil, or_false] at supported
  rcases supported with rfl | rfl | rfl | rfl | rfl | rfl | rfl | rfl | rfl | rfl | rfl | rfl | rfl
  all_goals decide

theorem write_executed (found : consoleOf number = some n) (valid : (k.ttys n).magic = 1234)
    (decimal : ∀ p ∈ ps, Decimal p) (few : ps.length ≤ NPAR) (letter : 63 < ch) :
    consoleWrite k number (sequence ps ch) =
      (execute (parsed k (ps.map value)) ch n).map
        (fun after => (((sequence ps ch).length : Int), after)) := by
  have some_bytes : ¬(sequence ps ch).length = 0 := by simp [sequence]
  have entered : enter k n = .ok ((k.ttys n).echo, { k with stage := .normal }) := by
    rw [enter, if_neg (not_not_intro valid)]
  have collected := @sequence_collected k n (k.ttys n).echo ch ps decimal few letter
  simp only [consoleWrite, found, if_neg some_bytes, entered]
  change
    ((sequence ps ch).foldlM (writeByte (k.ttys n).echo n) { k with stage := .normal } >>= _) = _
  rw [collected]
  cases execute (parsed k (ps.map value)) ch n <;> rfl

/-- Exactly these sequences are executed with the parameters they have. -/
theorem parameters_iff (k : Consoles) (number : Int32) (n : ConsoleId)
    (found : consoleOf number = some n) (valid : (k.ttys n).magic = 1234)
    (ps : List (List UInt8)) (decimal : ∀ p ∈ ps, Decimal p) (few : ps.length ≤ NPAR)
    (ch : UInt8) (supported : ch ∈ finals) :
    Executed k number n ps ch ↔ Right (k.ttys k.fgConsole) ch (ps.map value) := by
  have letter := finals_letter supported
  have written := write_executed found valid decimal few letter
  have performed := execute_eq (parsed k (ps.map value)) ch n
  have at_rest : ∀ len after, consoleWrite k number (sequence ps ch) = .ok (len, after) →
      after.stage = .normal := by
    intro len after ended
    rw [written] at ended
    rcases ran : execute (parsed k (ps.map value)) ch n with stop | last
    · rw [ran] at ended
      cases ended
    · rw [ran] at ended
      cases ended
      exact stage_normal_of (execute_taken _ ran).parser
  rw [← @exact_iff k (k.ttys k.fgConsole) (ps.map value) ch supported]
  constructor
  · rintro ⟨-, -, same⟩
    exact same
  · intro same
    exact ⟨written.trans (by rw [performed]), at_rest, same⟩

/-- `ESC [ 2 ; 3 H` goes to the second line and the third column. -/
theorem position_executed : Executed fresh 0 0 [[50], [51]] 72 := by
  refine (parameters_iff fresh 0 0 rfl rfl [[50], [51]] ?_ (by decide) 72 (by decide)).mpr ?_
  · intro p inside
    simp only [List.mem_cons, List.not_mem_nil, or_false] at inside
    rcases inside with rfl | rfl <;> simp [Decimal]
  · exact ⟨by decide, by decide⟩

/-- `ESC [ 3 1 m` sets the default colours and not red. -/
theorem red_not_set : ¬Executed fresh 0 0 [[51, 49]] 109 := by
  rintro ⟨-, -, same⟩
  have red : ((fresh.ttys 0).rendition (asInt 31)).colours = (COLOR_WHITE, COLOR_BLACK) :=
    (exact_iff (by decide)).mp same
  exact absurd red (by decide)

end Sequences

end Gramado.Chardev.Console
