/-
The prompt of kstdio.c, to which `kinput` writes what is typed. In the two input
modes that have a name the position is compared with the size once, before the
character is looked at; in any other mode it is not compared at all.
-/
import Gramado.Lib.Machine
import Mathlib.Tactic.Common

namespace Gramado.Libk.Kinput

open Gramado.Lib.Machine

def PROMPT_SIZE : Nat := 1024
def PROMPT_MAX_DEFAULT : Nat := 1024
def INPUT_MODE_LINE : Int32 := 0
def INPUT_MODE_MULTIPLE_LINES : Int32 := 1

/-- `g_inputmode`, the three buffers of the prompt and `prompt_pos`. -/
structure Prompt where
  gInputmode : Int32
  prompt : Nat → UInt8
  promptOut : Nat → UInt8
  promptErr : Nat → UInt8
  promptPos : Nat

/-- What a call returns, and the places in `prompt` that it wrote to. -/
structure Answer where
  result : UInt64
  stores : List Nat

def Prompt.put (s : Prompt) (index : Nat) (c : UInt8) : Prompt :=
  { s with prompt := fun i => if i = index then c else s.prompt i }

def cleared (buffer : Nat → UInt8) : Nat → UInt8 :=
  fun i => if i < PROMPT_MAX_DEFAULT then 0 else buffer i

/-- Enter: a line is ended and thrown away, a text gets its two characters. -/
def enter (s : Prompt) : Answer × Prompt :=
  if s.gInputmode = INPUT_MODE_LINE then
    let ended := s.put s.promptPos 0
    (⟨10, s.promptPos :: List.range PROMPT_MAX_DEFAULT⟩,
      { ended with
        prompt := cleared ended.prompt
        promptOut := cleared ended.promptOut
        promptErr := cleared ended.promptErr
        promptPos := 0 })
  else if s.gInputmode = INPUT_MODE_MULTIPLE_LINES then
    (⟨0, [s.promptPos, s.promptPos + 1]⟩,
      { (s.put s.promptPos 13).put (s.promptPos + 1) 10 with promptPos := s.promptPos + 2 })
  else
    (⟨0, []⟩, s)

def backspace (s : Prompt) : Answer × Prompt :=
  -- `prompt_pos` is unsigned, so that 0 - 1 is not reached.
  (⟨0, [s.promptPos - 1]⟩, { s.put (s.promptPos - 1) 0 with promptPos := s.promptPos - 1 })

def store (s : Prompt) (c : UInt8) : Answer × Prompt :=
  (⟨0, [s.promptPos]⟩, { s.put s.promptPos c with promptPos := s.promptPos + 1 })

/-- '\n' or '\r'. -/
def IsEnter (c : UInt8) : Prop := c = 10 ∨ c = 13

instance (c : UInt8) : Decidable (IsEnter c) := inferInstanceAs (Decidable (_ ∨ _))

def kinput (s : Prompt) (ch : UInt64) : Answer × Prompt :=
  let c := ch.toUInt8
  if s.gInputmode = INPUT_MODE_LINE ∧ s.promptPos ≥ PROMPT_SIZE then
    (⟨0, []⟩, s)
  else if s.gInputmode = INPUT_MODE_MULTIPLE_LINES ∧ s.promptPos ≥ PROMPT_SIZE then
    (⟨0, []⟩, s)
  else if IsEnter c then
    enter s
  else if c = 0x0E then
    backspace s
  else
    store s c

def typed (s : Prompt) (ch : UInt64) : Except Empty (Answer × Prompt) :=
  .ok (kinput s ch)

/-- Every store lies in the buffer, and so does the position, or at its end. -/
structure Inside (_ : Prompt) (_ : UInt64) (out : Answer × Prompt) : Prop where
  stores : ∀ i ∈ out.1.stores, i < PROMPT_SIZE
  pos : out.2.promptPos ≤ PROMPT_SIZE

/-- The character fits: an Enter in a text needs two places, and where the mode
    has no name a character needs one. -/
structure Fits (s : Prompt) (ch : UInt64) : Prop where
  twoPlaces : s.gInputmode = INPUT_MODE_MULTIPLE_LINES → IsEnter ch.toUInt8 →
    s.promptPos + 1 ≠ PROMPT_SIZE
  onePlace : s.gInputmode ≠ INPUT_MODE_LINE → s.gInputmode ≠ INPUT_MODE_MULTIPLE_LINES →
    ¬IsEnter ch.toUInt8 → ch.toUInt8 ≠ 0x0E → s.promptPos ≠ PROMPT_SIZE

section Call

variable {s : Prompt} {ch : UInt64}

theorem refused_inside (within : s.promptPos ≤ PROMPT_SIZE) : Inside s ch (⟨0, []⟩, s) := by
  constructor
  · intro i member
    cases member
  · exact within

theorem enter_inside_iff (below : s.gInputmode = INPUT_MODE_LINE ∨
      s.gInputmode = INPUT_MODE_MULTIPLE_LINES → s.promptPos < PROMPT_SIZE)
    (within : s.promptPos ≤ PROMPT_SIZE) :
    Inside s ch (enter s) ↔
      (s.gInputmode = INPUT_MODE_MULTIPLE_LINES → s.promptPos + 1 ≠ PROMPT_SIZE) := by
  have apart : INPUT_MODE_LINE ≠ INPUT_MODE_MULTIPLE_LINES := by decide
  by_cases line : s.gInputmode = INPUT_MODE_LINE
  · have room := below (Or.inl line)
    rw [enter, if_pos line]
    constructor
    · exact fun _ multiple => absurd (line.symm.trans multiple) apart
    · intro _
      constructor
      · intro i member
        -- The line is ended at the position, and all of it is cleared.
        obtain rfl | inside := List.mem_cons.mp member
        · exact room
        · exact List.mem_range.mp inside
      · exact Nat.zero_le _
  · by_cases multiple : s.gInputmode = INPUT_MODE_MULTIPLE_LINES
    · have room := below (Or.inr multiple)
      rw [enter, if_neg line, if_pos multiple]
      constructor
      · intro inside _ last
        have second := inside.stores (s.promptPos + 1) (by simp)
        omega
      · intro two
        have places := two multiple
        constructor
        · intro i member
          simp only [List.mem_cons, List.not_mem_nil, or_false] at member
          omega
        · show s.promptPos + 2 ≤ PROMPT_SIZE
          omega
    · rw [enter, if_neg line, if_neg multiple]
      exact ⟨fun _ same => absurd same multiple, fun _ => refused_inside within⟩

theorem backspace_inside (within : s.promptPos ≤ PROMPT_SIZE) : Inside s ch (backspace s) := by
  have size : PROMPT_SIZE = 1024 := rfl
  constructor
  · intro i member
    obtain rfl := List.mem_singleton.mp member
    omega
  · exact Nat.le_trans (Nat.sub_le _ _) within

theorem store_inside_iff (within : s.promptPos ≤ PROMPT_SIZE) {c : UInt8} :
    Inside s ch (store s c) ↔ s.promptPos ≠ PROMPT_SIZE := by
  constructor
  · intro inside last
    have here := inside.stores s.promptPos List.mem_cons_self
    omega
  · intro room
    have below := Nat.lt_of_le_of_ne within room
    constructor
    · intro i member
      obtain rfl := List.mem_singleton.mp member
      exact below
    · exact below

theorem kinput_inside_iff (within : s.promptPos ≤ PROMPT_SIZE) :
    Inside s ch (kinput s ch) ↔ Fits s ch := by
  have size : PROMPT_SIZE = 1024 := rfl
  by_cases full : (s.gInputmode = INPUT_MODE_LINE ∨ s.gInputmode = INPUT_MODE_MULTIPLE_LINES) ∧
      s.promptPos ≥ PROMPT_SIZE
  · -- Nothing is done.
    have refused : kinput s ch = (⟨0, []⟩, s) := by
      obtain ⟨line | multiple, high⟩ := full
      · rw [kinput, if_pos ⟨line, high⟩]
      · have both : s.gInputmode = INPUT_MODE_MULTIPLE_LINES ∧ s.promptPos ≥ PROMPT_SIZE :=
          ⟨multiple, high⟩
        rw [kinput, if_pos both, ite_self]
    rw [refused]
    refine ⟨fun _ => ⟨fun _ _ => by omega, ?_⟩, fun _ => refused_inside within⟩
    intro line multiple
    exact absurd full.1 (not_or.mpr ⟨line, multiple⟩)
  · have room : s.gInputmode = INPUT_MODE_LINE ∨ s.gInputmode = INPUT_MODE_MULTIPLE_LINES →
        s.promptPos < PROMPT_SIZE := fun mode => Nat.not_le.mp fun high => full ⟨mode, high⟩
    have line : ¬(s.gInputmode = INPUT_MODE_LINE ∧ s.promptPos ≥ PROMPT_SIZE) :=
      fun both => full ⟨Or.inl both.1, both.2⟩
    have multiple : ¬(s.gInputmode = INPUT_MODE_MULTIPLE_LINES ∧ s.promptPos ≥ PROMPT_SIZE) :=
      fun both => full ⟨Or.inr both.1, both.2⟩
    simp only [kinput, if_neg line, if_neg multiple]
    by_cases isEnter : IsEnter ch.toUInt8
    · rw [if_pos isEnter, enter_inside_iff room within]
      exact ⟨fun two => ⟨fun mode _ => two mode, fun _ _ other => absurd isEnter other⟩,
        fun fits mode => fits.twoPlaces mode isEnter⟩
    · rw [if_neg isEnter]
      by_cases erase : ch.toUInt8 = 0x0E
      · rw [if_pos erase]
        exact ⟨fun _ => ⟨fun _ same => absurd same isEnter, fun _ _ _ other => absurd erase other⟩,
          fun _ => backspace_inside within⟩
      · rw [if_neg erase, store_inside_iff within]
        constructor
        · exact fun one => ⟨fun _ same => absurd same isEnter, fun _ _ _ _ => one⟩
        · intro fits last
          by_cases named : s.gInputmode = INPUT_MODE_LINE ∨
              s.gInputmode = INPUT_MODE_MULTIPLE_LINES
          · exact absurd last (Nat.ne_of_lt (room named))
          · obtain ⟨first, second⟩ := not_or.mp named
            exact fits.onePlace first second isEnter erase last

end Call

/-- What is typed stays in the prompt if and only if, each time, the character
    fits: an Enter among several lines is not typed in the last place, and no
    character is typed in a mode without a name when the prompt is full. -/
theorem typed_inside_iff {s : Prompt} (chs : List UInt64) (within : s.promptPos ≤ PROMPT_SIZE) :
    Along typed Inside s chs ↔ Along typed (fun s ch _ => Fits s ch) s chs := by
  have exact : ∀ s ch out, s.promptPos ≤ PROMPT_SIZE → typed s ch = .ok out →
      (Inside s ch out ↔ Fits s ch) := by
    intro s ch out within served
    cases served
    exact kinput_inside_iff within
  exact along_iff exact (fun _ _ _ _ _ inside => inside.pos) chs within

def emptyPrompt (mode : Int32) : Prompt :=
  ⟨mode, fun _ => 0, fun _ => 0, fun _ => 0, 0⟩

/-- A letter is typed into an empty line. -/
theorem letter_inside : Along typed Inside (emptyPrompt INPUT_MODE_LINE) [104] := by
  apply (typed_inside_iff [104] (Nat.zero_le _)).mpr
  intro out served
  have fits : Fits (emptyPrompt INPUT_MODE_LINE) 104 :=
    ⟨fun same => absurd same (by decide), fun other => absurd rfl other⟩
  exact ⟨fits, trivial⟩

theorem letters_typed {s : Prompt} {n : Nat} {rest : List UInt64}
    (multiple : s.gInputmode = INPUT_MODE_MULTIPLE_LINES) (room : s.promptPos + n ≤ PROMPT_SIZE)
    (along : Along typed Inside s (List.replicate n 97 ++ rest)) :
    ∃ t, t.gInputmode = INPUT_MODE_MULTIPLE_LINES ∧ t.promptPos = s.promptPos + n ∧
      Along typed Inside t rest := by
  induction n generalizing s with
  | zero => exact ⟨s, multiple, rfl, along⟩
  | succ n ih =>
      have stored : kinput s 97 = store s 97 := by
        have below : ¬(s.gInputmode = INPUT_MODE_MULTIPLE_LINES ∧ s.promptPos ≥ PROMPT_SIZE) := by
          omega
        have line : ¬(s.gInputmode = INPUT_MODE_LINE ∧ s.promptPos ≥ PROMPT_SIZE) := by omega
        simp only [kinput, if_neg line, if_neg below]
        rfl
      obtain ⟨-, later⟩ := along (kinput s 97) rfl
      rw [stored] at later
      have one_more : (store s 97).2.promptPos = s.promptPos + 1 := rfl
      have same : (store s 97).2.gInputmode = INPUT_MODE_MULTIPLE_LINES := multiple
      obtain ⟨t, mode, pos, behind⟩ := ih same (by omega) later
      exact ⟨t, mode, by omega, behind⟩

/-- An Enter that is typed behind 1023 letters is written past the end of the prompt. -/
theorem enter_in_last_place : ¬∀ (mode : Int32) (chs : List UInt64),
    Along typed Inside (emptyPrompt mode) chs := by
  intro all
  have along := all INPUT_MODE_MULTIPLE_LINES (List.replicate 1023 97 ++ [10])
  obtain ⟨t, mode, pos, last⟩ := letters_typed rfl (by decide) along
  have within : t.promptPos ≤ PROMPT_SIZE := by
    rw [pos]
    decide
  obtain ⟨inside, -⟩ := last (kinput t 10) rfl
  have fits := (kinput_inside_iff within).mp inside
  exact fits.twoPlaces mode (Or.inl rfl) (by rw [pos]; rfl)

end Gramado.Libk.Kinput
