/-
Calls that return a value or stop, as `Except` computes them. `Returns` speaks
about what a call returns if it does, `Answers` about whether it does; both are
pushed through the steps of a `do` block by their rules.
-/
import Mathlib.Algebra.GroupWithZero.Nat
import Mathlib.Algebra.Ring.Int.Defs
import Mathlib.Logic.Basic

namespace Gramado.Lib.Fallible

variable {ε α β : Type}

/-- Whatever the call returns meets the condition. -/
def Returns (call : Except ε α) (post : α → Prop) : Prop :=
  ∀ a, call = .ok a → post a

def Answers (call : Except ε α) : Prop :=
  ∃ a, call = .ok a

/-- The call returns, and what it returns meets the condition. -/
def Meets (call : Except ε α) (post : α → Prop) : Prop :=
  ∃ a, call = .ok a ∧ post a

/-- The call stops, and what stops it meets the condition. -/
def Fails (call : Except ε α) (bad : ε → Prop) : Prop :=
  ∃ e, call = .error e ∧ bad e

/-- The value of a pointer, or the stop that a NULL causes. -/
def need (pointer : Option α) (stop : ε) : Except ε α :=
  match pointer with
  | some a => .ok a
  | none => .error stop

section Rules

variable {call : Except ε α} {next : α → Except ε β} {post : α → Prop} {after : β → Prop}

theorem Returns.mono {weaker : α → Prop} (returns : Returns call post)
    (weaken : ∀ a, post a → weaker a) : Returns call weaker :=
  fun a ok => weaken a (returns a ok)

theorem returns_of_bind {middle : α → Prop} (first : Returns call middle)
    (second : ∀ a, middle a → Returns (next a) after) : Returns (call >>= next) after := by
  intro b ok
  cases call with
  | error stop => cases ok
  | ok a => exact second a (first a rfl) b ok

@[simp] theorem returns_ok {a : α} : Returns (.ok a : Except ε α) post ↔ post a := by
  constructor
  · intro returns
    exact returns a rfl
  · intro holds b ok
    cases ok
    exact holds

@[simp] theorem returns_pure {a : α} : Returns (pure a : Except ε α) post ↔ post a :=
  returns_ok

@[simp] theorem returns_error {stop : ε} : Returns (.error stop) post ↔ True := by
  refine iff_true_intro ?_
  intro a ok
  cases ok

@[simp] theorem returns_bind :
    Returns (call >>= next) after ↔ Returns call fun a => Returns (next a) after := by
  constructor
  · rintro returns a rfl b ok
    exact returns b ok
  · intro returns
    exact returns_of_bind returns fun _ holds => holds

@[simp] theorem returns_map {f : α → β} :
    Returns (call.map f) after ↔ Returns call fun a => after (f a) := by
  cases call with
  | error stop => simp [Except.map]
  | ok a => simp [Except.map]

@[simp] theorem returns_ite {c : Prop} [Decidable c] {yes no : Except ε α} :
    Returns (if c then yes else no) post ↔
      (c → Returns yes post) ∧ (¬c → Returns no post) := by
  by_cases holds : c <;> simp [holds]

@[simp] theorem returns_need {pointer : Option α} {stop : ε} :
    Returns (need pointer stop) post ↔ ∀ a, pointer = some a → post a := by
  cases pointer <;> simp [need]

@[simp] theorem answers_ok {a : α} : Answers (.ok a : Except ε α) :=
  ⟨a, rfl⟩

@[simp] theorem answers_pure {a : α} : Answers (pure a : Except ε α) :=
  ⟨a, rfl⟩

@[simp] theorem answers_error {stop : ε} : ¬Answers (.error stop : Except ε α) := by
  rintro ⟨a, ok⟩
  cases ok

theorem answers_bind :
    Answers (call >>= next) ↔ ∃ a, call = .ok a ∧ Answers (next a) := by
  constructor
  · rintro ⟨b, ok⟩
    cases call with
    | error stop => cases ok
    | ok a => exact ⟨a, rfl, b, ok⟩
  · rintro ⟨a, rfl, b, ok⟩
    exact ⟨b, ok⟩

@[simp] theorem answers_ite {c : Prop} [Decidable c] {yes no : Except ε α} :
    Answers (if c then yes else no) ↔ (c → Answers yes) ∧ (¬c → Answers no) := by
  by_cases holds : c <;> simp [holds]

@[simp] theorem meets_ok {a : α} : Meets (.ok a : Except ε α) post ↔ post a := by
  constructor
  · rintro ⟨b, ok, holds⟩
    cases ok
    exact holds
  · intro holds
    exact ⟨a, rfl, holds⟩

@[simp] theorem meets_pure {a : α} : Meets (pure a : Except ε α) post ↔ post a :=
  meets_ok

@[simp] theorem meets_error {stop : ε} : Meets (.error stop) post ↔ False := by
  refine iff_false_intro ?_
  rintro ⟨a, ok, -⟩
  cases ok

@[simp] theorem meets_bind :
    Meets (call >>= next) after ↔ Meets call fun a => Meets (next a) after := by
  constructor
  · rintro ⟨b, ok, holds⟩
    cases call with
    | error stop => cases ok
    | ok a => exact ⟨a, rfl, b, ok, holds⟩
  · rintro ⟨a, rfl, b, ok, holds⟩
    exact ⟨b, ok, holds⟩

theorem Meets.mono {weaker : α → Prop} (meets : Meets call post)
    (weaken : ∀ a, post a → weaker a) : Meets call weaker := by
  obtain ⟨a, ok, holds⟩ := meets
  exact ⟨a, ok, weaken a holds⟩

theorem meets_of_bind {middle : α → Prop} (first : Meets call middle)
    (second : ∀ a, middle a → Meets (next a) after) : Meets (call >>= next) after :=
  meets_bind.mpr (first.mono second)

@[simp] theorem meets_map {f : α → β} :
    Meets (call.map f) after ↔ Meets call fun a => after (f a) := by
  cases call with
  | error stop => simp [Except.map]
  | ok a => simp [Except.map]

@[simp] theorem meets_ite {c : Prop} [Decidable c] {yes no : Except ε α} :
    Meets (if c then yes else no) post ↔ (c ∧ Meets yes post) ∨ (¬c ∧ Meets no post) := by
  by_cases holds : c <;> simp [holds]

theorem meets_congr {other : α → Prop} (same : ∀ a, call = .ok a → (post a ↔ other a)) :
    Meets call post ↔ Meets call other := by
  constructor
  · rintro ⟨a, ok, holds⟩
    exact ⟨a, ok, (same a ok).mp holds⟩
  · rintro ⟨a, ok, holds⟩
    exact ⟨a, ok, (same a ok).mpr holds⟩

theorem meets_false : ¬Meets call fun _ => False := by
  rintro ⟨-, -, wrong⟩
  exact wrong

/-- What is asked of the value says the same of every value that is returned. -/
theorem meets_of_same {asked : Prop} (same : Returns call fun a => post a ↔ asked) :
    Meets call post ↔ Answers call ∧ asked := by
  constructor
  · rintro ⟨a, ok, holds⟩
    exact ⟨⟨a, ok⟩, (same a ok).mp holds⟩
  · rintro ⟨⟨a, ok⟩, holds⟩
    exact ⟨a, ok, (same a ok).mpr holds⟩

theorem meets_need {pointer : Option α} {stop : ε} :
    Meets (need pointer stop) post ↔ ∃ a, pointer = some a ∧ post a := by
  cases pointer <;> simp [need]

variable {bad : ε → Prop}

@[simp] theorem fails_ok {a : α} : ¬Fails (.ok a : Except ε α) bad := by
  rintro ⟨e, stopped, -⟩
  cases stopped

@[simp] theorem fails_pure {a : α} : ¬Fails (pure a : Except ε α) bad :=
  fails_ok

@[simp] theorem fails_error {stop : ε} : Fails (.error stop : Except ε α) bad ↔ bad stop := by
  constructor
  · rintro ⟨e, stopped, holds⟩
    cases stopped
    exact holds
  · intro holds
    exact ⟨stop, rfl, holds⟩

@[simp] theorem fails_bind :
    Fails (call >>= next) bad ↔ Fails call bad ∨ Meets call fun a => Fails (next a) bad := by
  cases call with
  | error stop =>
      have stopped : ((.error stop : Except ε α) >>= next) = .error stop := rfl
      simp [stopped]
  | ok a =>
      have continued : ((.ok a : Except ε α) >>= next) = next a := rfl
      simp [continued]

theorem fails_then (quiet : ∀ a, ¬Fails (next a) bad) :
    Fails (call >>= next) bad ↔ Fails call bad := by
  have rest : ∀ a, Fails (next a) bad ↔ False := fun a => iff_false_intro (quiet a)
  simp only [fails_bind, rest, meets_false, or_false]

@[simp] theorem fails_map {f : α → β} : Fails (call.map f) bad ↔ Fails call bad := by
  cases call with
  | error stop => simp [Except.map]
  | ok a => simp [Except.map]

@[simp] theorem fails_ite {c : Prop} [Decidable c] {yes no : Except ε α} :
    Fails (if c then yes else no) bad ↔ (c ∧ Fails yes bad) ∨ (¬c ∧ Fails no bad) := by
  by_cases holds : c <;> simp [holds]

@[simp] theorem fails_need {pointer : Option α} {stop : ε} :
    Fails (need pointer stop) bad ↔ pointer = none ∧ bad stop := by
  cases pointer <;> simp [need]

@[simp] theorem need_ok {pointer : Option α} {stop : ε} {a : α} :
    need pointer stop = .ok a ↔ pointer = some a := by
  cases pointer <;> simp [need]

end Rules

end Gramado.Lib.Fallible
