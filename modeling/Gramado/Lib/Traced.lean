/-
Programs that read memory through a pointer and leave a trace: which bytes they
read, and which ranges they hand on. A program may stop before it is done; the
trace up to there stays. The memory is a list that starts at the pointer and
goes on behind the object, so that a read past the object's end has a value.
-/
import Gramado.Lib.BigEndian
import Gramado.Lib.Bytes
import Mathlib.Data.List.TakeWhile

namespace Gramado.Lib.Traced

open Gramado.Lib.BigEndian Gramado.Lib.Bytes

universe u
variable {σ : Type} {α β : Type u}

inductive Event where
  | read (off len : Nat)
  | pass (off : Nat) (size : Int)
  deriving DecidableEq, Repr

/-- The event lies in the first `n` bytes, and a size handed on is not negative. -/
def Event.Within (n : Nat) : Event → Prop
  | .read off len => off + len ≤ n
  | .pass off size => 0 ≤ size ∧ (off : Int) + size ≤ n

instance (n : Nat) : (e : Event) → Decidable (e.Within n)
  | .read off len => inferInstanceAs (Decidable (off + len ≤ n))
  | .pass off size => inferInstanceAs (Decidable (0 ≤ size ∧ (off : Int) + size ≤ n))

def Program (σ : Type) (α : Type u) : Type u :=
  List UInt8 → Except σ α × List Event

def value (program : Program σ α) (mem : List UInt8) : Except σ α :=
  (program mem).1

def events (program : Program σ α) (mem : List UInt8) : List Event :=
  (program mem).2

instance : Monad (Program σ) where
  pure a := fun _ => (.ok a, [])
  bind program next := fun mem =>
    match program mem with
    | (.ok a, first) => ((next a mem).1, first ++ (next a mem).2)
    | (.error stop, first) => (.error stop, first)

def stop (s : σ) : Program σ α := fun _ => (.error s, [])

def leave (e : Event) : Program σ PUnit := fun _ => (.ok ⟨⟩, [e])

def read8 (off : Nat) : Program σ UInt8 :=
  fun mem => (.ok (byteAt mem off), [.read off 1])

def read16 (off : Nat) : Program σ UInt16 :=
  fun mem => (.ok (word16 mem off), [.read off 2])

def read32 (off : Nat) : Program σ UInt32 :=
  fun mem => (.ok (word32 mem off), [.read off 4])

def readBytes (off n : Nat) : Program σ (List UInt8) :=
  fun mem => (.ok (peek mem off n), [.read off n])

/-- The bytes before the first zero byte. -/
def text (bytes : List UInt8) : List UInt8 :=
  bytes.takeWhile (· ≠ 0)

/-- `strlen`. The zero byte that ends the string is read too. -/
def strlen (off : Nat) : Program σ Nat :=
  fun mem =>
    let length := (text (mem.drop off)).length
    (.ok length, [.read off (length + 1)])

/-- What `strncpy(dst, src, n)` puts into the first `n` bytes of `dst`. -/
def cut (src : List UInt8) (n : Nat) : List UInt8 :=
  text (src.take n) ++ List.replicate (n - (text (src.take n)).length) 0

theorem text_length_le (bytes : List UInt8) : (text bytes).length ≤ bytes.length :=
  (List.takeWhile_sublist _).length_le

@[simp] theorem length_cut (src : List UInt8) (n : Nat) : (cut src n).length = n := by
  have short := text_length_le (src.take n)
  rw [List.length_take] at short
  simp only [cut, List.length_append, List.length_replicate]
  omega

/-- `strncpy` of `n` bytes. The source is read up to its zero byte, or `n` bytes. -/
def strncpy (off n : Nat) : Program σ { bytes : List UInt8 // bytes.length = n } :=
  fun mem =>
    let src := peek mem off n
    (.ok ⟨cut src n, length_cut src n⟩, [.read off (min n ((text src).length + 1))])

section Rules

variable (mem : List UInt8)

@[simp] theorem value_pure (a : α) : value (pure a : Program σ α) mem = .ok a := rfl

@[simp] theorem events_pure (a : α) : events (pure a : Program σ α) mem = [] := rfl

@[simp] theorem value_stop (s : σ) : value (stop s : Program σ α) mem = .error s := rfl

@[simp] theorem events_stop (s : σ) : events (stop s : Program σ α) mem = [] := rfl

@[simp] theorem value_leave (e : Event) : value (leave e : Program σ PUnit) mem = .ok ⟨⟩ := rfl

@[simp] theorem events_leave (e : Event) : events (leave e : Program σ PUnit) mem = [e] := rfl

@[simp] theorem value_read8 (off : Nat) :
    value (read8 off : Program σ UInt8) mem = .ok (byteAt mem off) := rfl

@[simp] theorem events_read8 (off : Nat) :
    events (read8 off : Program σ UInt8) mem = [.read off 1] := rfl

@[simp] theorem value_read16 (off : Nat) :
    value (read16 off : Program σ UInt16) mem = .ok (word16 mem off) := rfl

@[simp] theorem events_read16 (off : Nat) :
    events (read16 off : Program σ UInt16) mem = [.read off 2] := rfl

@[simp] theorem value_read32 (off : Nat) :
    value (read32 off : Program σ UInt32) mem = .ok (word32 mem off) := rfl

@[simp] theorem events_read32 (off : Nat) :
    events (read32 off : Program σ UInt32) mem = [.read off 4] := rfl

@[simp] theorem value_readBytes (off n : Nat) :
    value (readBytes off n : Program σ (List UInt8)) mem = .ok (peek mem off n) := rfl

@[simp] theorem events_readBytes (off n : Nat) :
    events (readBytes off n : Program σ (List UInt8)) mem = [.read off n] := rfl

@[simp] theorem value_strlen (off : Nat) :
    value (strlen off : Program σ Nat) mem = .ok (text (mem.drop off)).length := rfl

@[simp] theorem events_strlen (off : Nat) :
    events (strlen off : Program σ Nat) mem =
      [.read off ((text (mem.drop off)).length + 1)] := rfl

@[simp] theorem value_strncpy (off n : Nat) :
    value (strncpy off n : Program σ _) mem =
      .ok ⟨cut (peek mem off n) n, length_cut (peek mem off n) n⟩ := rfl

@[simp] theorem events_strncpy (off n : Nat) :
    events (strncpy off n : Program σ _) mem =
      [.read off (min n ((text (peek mem off n)).length + 1))] := rfl

@[simp] theorem value_bind (program : Program σ α) (next : α → Program σ β) :
    value (program >>= next) mem =
      (value program mem).bind fun a => value (next a) mem := by
  simp only [value, bind, Except.bind]
  rcases program mem with ⟨_ | a, first⟩ <;> rfl

@[simp] theorem events_bind (program : Program σ α) (next : α → Program σ β) :
    events (program >>= next) mem =
      events program mem ++
        match value program mem with
        | .ok a => events (next a) mem
        | .error _ => [] := by
  simp only [events, value, bind]
  rcases program mem with ⟨_ | a, first⟩ <;> simp

@[simp] theorem value_map (f : α → β) (program : Program σ α) :
    value (f <$> program) mem = (value program mem).map f := by
  simp only [value, Functor.map, Except.map]
  rcases program mem with ⟨_ | a, first⟩ <;> rfl

@[simp] theorem events_map (f : α → β) (program : Program σ α) :
    events (f <$> program) mem = events program mem := by
  simp only [events, Functor.map]
  rcases program mem with ⟨_ | a, first⟩
  · rfl
  · exact List.append_nil first

variable (c : Prop) [Decidable c] (yes no : Program σ α)

@[simp] theorem value_ite :
    value (if c then yes else no) mem = if c then value yes mem else value no mem := by
  split <;> rfl

@[simp] theorem events_ite :
    events (if c then yes else no) mem = if c then events yes mem else events no mem := by
  split <;> rfl

end Rules

/-- The program reads, and hands on, nothing outside the first `n` bytes. -/
def Stays (n : Nat) (program : Program σ α) (mem : List UInt8) : Prop :=
  ∀ e ∈ events program mem, e.Within n

section Stays

variable (n : Nat) (mem : List UInt8) (off len : Nat)

@[simp] theorem stays_pure (a : α) : Stays n (pure a : Program σ α) mem := by
  simp [Stays]

@[simp] theorem stays_stop (s : σ) : Stays n (stop s : Program σ α) mem := by
  simp [Stays]

@[simp] theorem stays_leave (e : Event) :
    Stays n (leave e : Program σ PUnit) mem ↔ e.Within n := by
  simp [Stays]

@[simp] theorem stays_read8 : Stays n (read8 off : Program σ UInt8) mem ↔ off + 1 ≤ n := by
  simp [Stays, Event.Within]

@[simp] theorem stays_read16 : Stays n (read16 off : Program σ UInt16) mem ↔ off + 2 ≤ n := by
  simp [Stays, Event.Within]

@[simp] theorem stays_read32 : Stays n (read32 off : Program σ UInt32) mem ↔ off + 4 ≤ n := by
  simp [Stays, Event.Within]

@[simp] theorem stays_readBytes :
    Stays n (readBytes off len : Program σ (List UInt8)) mem ↔ off + len ≤ n := by
  simp [Stays, Event.Within]

@[simp] theorem stays_strlen :
    Stays n (strlen off : Program σ Nat) mem ↔
      off + ((text (mem.drop off)).length + 1) ≤ n := by
  simp [Stays, Event.Within]

@[simp] theorem stays_strncpy :
    Stays n (strncpy off len : Program σ _) mem ↔
      off + min len ((text (peek mem off len)).length + 1) ≤ n := by
  simp [Stays, Event.Within]

@[simp] theorem stays_map (f : α → β) (program : Program σ α) :
    Stays n (f <$> program) mem ↔ Stays n program mem := by
  simp [Stays]

@[simp] theorem stays_bind (program : Program σ α) (next : α → Program σ β) :
    Stays n (program >>= next) mem ↔
      Stays n program mem ∧ ∀ a, value program mem = .ok a → Stays n (next a) mem := by
  simp only [Stays, events_bind, List.forall_mem_append]
  rcases value program mem with stopped | a
  · simp
  · simp

@[simp] theorem stays_ite (c : Prop) [Decidable c] (yes no : Program σ α) :
    Stays n (if c then yes else no) mem ↔ if c then Stays n yes mem else Stays n no mem := by
  split <;> rfl

@[simp] theorem stays_dite (c : Prop) [Decidable c] (yes : c → Program σ α)
    (no : ¬c → Program σ α) :
    Stays n (if holds : c then yes holds else no holds) mem ↔
      (∀ holds, Stays n (yes holds) mem) ∧ ∀ fails, Stays n (no fails) mem := by
  split <;> simp [*]

end Stays

/-- What the program returns, if it does, satisfies `post`. -/
def Gives (post : α → Prop) (program : Program σ α) (mem : List UInt8) : Prop :=
  ∀ a, value program mem = .ok a → post a

section Gives

variable {post : α → Prop} (mem : List UInt8)

@[simp] theorem gives_pure (a : α) : Gives post (pure a : Program σ α) mem ↔ post a := by
  simp [Gives]

@[simp] theorem gives_stop (s : σ) : Gives post (stop s : Program σ α) mem := by
  simp [Gives]

@[simp] theorem gives_leave {post : PUnit → Prop} (e : Event) :
    Gives post (leave e : Program σ PUnit) mem ↔ post ⟨⟩ :=
  ⟨fun gives => gives _ rfl, fun holds _ _ => holds⟩

theorem gives_imp {weak : α → Prop} {program : Program σ α} (imp : ∀ a, post a → weak a)
    (gives : Gives post program mem) : Gives weak program mem :=
  fun a done => imp a (gives a done)

@[simp] theorem gives_true (program : Program σ α) : Gives (fun _ => True) program mem :=
  fun _ _ => trivial

@[simp] theorem gives_map (f : β → α) (program : Program σ β) :
    Gives post (f <$> program) mem ↔ Gives (fun b => post (f b)) program mem := by
  simp only [Gives, value_map]
  rcases value program mem with stopped | b
  · simp [Except.map]
  · simp [Except.map]

@[simp] theorem gives_bind (program : Program σ β) (next : β → Program σ α) :
    Gives post (program >>= next) mem ↔ Gives (fun b => Gives post (next b) mem) program mem := by
  simp only [Gives, value_bind]
  rcases value program mem with stopped | b
  · simp [Except.bind]
  · simp [Except.bind]

@[simp] theorem gives_ite (c : Prop) [Decidable c] (yes no : Program σ α) :
    Gives post (if c then yes else no) mem ↔
      if c then Gives post yes mem else Gives post no mem := by
  split <;> rfl

end Gives

section Text

theorem text_append_of_zero_free {front rest : List UInt8} (free : (0 : UInt8) ∉ front) :
    text (front ++ rest) = front ++ text rest := by
  refine List.takeWhile_append_of_pos fun byte inside => ?_
  have nonzero : byte ≠ 0 := fun same => free (same ▸ inside)
  simp [nonzero]

theorem zero_not_mem_text (bytes : List UInt8) : (0 : UInt8) ∉ text bytes := by
  intro inside
  have nonzero := List.mem_takeWhile_imp inside
  simp at nonzero

theorem text_eq_self_iff {bytes : List UInt8} : text bytes = bytes ↔ (0 : UInt8) ∉ bytes := by
  constructor
  · intro same
    rw [← same]
    exact zero_not_mem_text bytes
  · intro free
    have whole : text (bytes ++ []) = bytes ++ text [] := text_append_of_zero_free free
    simpa [text] using whole

theorem text_length_lt {front : List UInt8} (rest : List UInt8) (zero : (0 : UInt8) ∈ front) :
    (text (front ++ rest)).length < front.length := by
  induction front with
  | nil => cases zero
  | cons byte front ih =>
      by_cases ends : byte = 0
      · simp [text, ends]
      · have behind : (0 : UInt8) ∈ front :=
          (List.mem_cons.mp zero).resolve_left fun same => ends same.symm
        have kept : text (byte :: front ++ rest) = byte :: text (front ++ rest) := by
          simp [text, ends]
        rw [kept, List.length_cons, List.length_cons]
        exact Nat.succ_lt_succ (ih behind)

theorem text_eq_nil_iff {bytes : List UInt8} : text bytes = [] ↔ bytes.headD 0 = 0 := by
  rcases bytes with _ | ⟨byte, bytes⟩
  · simp [text]
  · by_cases zero : byte = 0 <;> simp [text, zero]

/-- A string is all of its front when that holds no zero byte and one follows. -/
theorem text_append_eq_left_iff {front rest : List UInt8} :
    text (front ++ rest) = front ↔ (0 : UInt8) ∉ front ∧ rest.headD 0 = 0 := by
  constructor
  · intro same
    have free : (0 : UInt8) ∉ front := same ▸ zero_not_mem_text (front ++ rest)
    rw [text_append_of_zero_free free, List.append_right_eq_self] at same
    exact ⟨free, text_eq_nil_iff.mp same⟩
  · rintro ⟨free, ends⟩
    rw [text_append_of_zero_free free, text_eq_nil_iff.mpr ends, List.append_nil]

theorem cut_peek_text (mem : List UInt8) (off : Nat) :
    cut (peek mem off (text (mem.drop off)).length) (text (mem.drop off)).length =
      text (mem.drop off) := by
  have short := text_length_le (mem.drop off)
  rw [List.length_drop] at short
  have copied : peek mem off (text (mem.drop off)).length = text (mem.drop off) := by
    by_cases inside : off ≤ mem.length
    · rw [peek_eq_take_drop (by omega)]
      exact (List.prefix_iff_eq_take.mp (List.takeWhile_prefix _)).symm
    · have empty : text (mem.drop off) = [] := by
        rw [List.drop_eq_nil_of_le (by omega)]
        rfl
      rw [empty]
      rfl
  have whole : text (text (mem.drop off)) = text (mem.drop off) :=
    text_eq_self_iff.mpr (zero_not_mem_text _)
  rw [copied, cut, List.take_length, whole, Nat.sub_self, List.replicate_zero, List.append_nil]

/-- The copied bytes are the source's when all that follows its first zero byte
    is zero too. -/
theorem cut_eq_self_iff {src : List UInt8} :
    cut src src.length = src ↔
      src = text src ++ List.replicate (src.length - (text src).length) 0 := by
  rw [cut, List.take_length]
  exact eq_comm

end Text

end Gramado.Lib.Traced
