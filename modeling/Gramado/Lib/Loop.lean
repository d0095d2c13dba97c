/-
Loops that may go on for ever. A pass either ends the loop with a result or
leaves the state for the next pass; nothing bounds the number of passes.
-/
import Mathlib.Algebra.GroupWithZero.Nat
import Mathlib.Algebra.Ring.Int.Defs
import Mathlib.Logic.Basic
import Mathlib.Tactic.Common

namespace Gramado.Lib.Loop

variable {σ ρ : Type}

/-- Where the loop is after `n` passes. One that has ended stays so. -/
def after (pass : σ → ρ ⊕ σ) : Nat → σ → ρ ⊕ σ
  | 0, s => .inr s
  | n + 1, s =>
      match pass s with
      | .inl r => .inl r
      | .inr t => after pass n t

/-- The loop ends after finitely many passes. -/
def Ends (pass : σ → ρ ⊕ σ) (s : σ) : Prop :=
  ∃ n r, after pass n s = .inl r

variable {pass : σ → ρ ⊕ σ} {s t : σ} {r : ρ}

theorem after_done (done : pass s = .inl r) (n : Nat) : after pass (n + 1) s = .inl r := by
  rw [after, done]

theorem after_next (next : pass s = .inr t) (n : Nat) :
    after pass (n + 1) s = after pass n t := by
  rw [after, next]

theorem after_succ (n : Nat) :
    after pass (n + 1) s = (after pass n s).elim Sum.inl pass := by
  induction n generalizing s with
  | zero => cases first : pass s <;> simp [after, first]
  | succ n ih =>
      cases first : pass s with
      | inl r => rw [after_done first, after_done first]; rfl
      | inr t => rw [after_next first, after_next first, ih]

theorem after_ended {n m : Nat} (ended : after pass n s = .inl r) (later : n ≤ m) :
    after pass m s = .inl r := by
  induction m with
  | zero =>
      cases Nat.le_zero.mp later
      exact ended
  | succ m ih =>
      obtain early | rfl := Nat.le_succ_iff.mp later
      · rw [after_succ, ih early]
        rfl
      · exact ended

theorem after_unique {n m : Nat} {r' : ρ} (ended : after pass n s = .inl r)
    (again : after pass m s = .inl r') : r = r' := by
  have both := (after_ended ended (Nat.le_max_left n m)).symm.trans
    (after_ended again (Nat.le_max_right n m))
  cases both
  rfl

theorem ends_done (done : pass s = .inl r) : Ends pass s :=
  ⟨1, r, after_done done 0⟩

theorem ends_next (next : pass s = .inr t) : Ends pass s ↔ Ends pass t := by
  constructor
  · rintro ⟨n, r, ended⟩
    cases n with
    | zero => cases ended
    | succ n => exact ⟨n, r, by rwa [after_next next] at ended⟩
  · rintro ⟨n, r, ended⟩
    exact ⟨n + 1, r, by rwa [after_next next]⟩

/-- A loop whose passes keep an invariant under which none is the last. -/
theorem not_ends_of_invariant {inv : σ → Prop}
    (keep : ∀ s, inv s → ∃ t, pass s = .inr t ∧ inv t) (holds : inv s) : ¬Ends pass s := by
  rintro ⟨n, r, ended⟩
  induction n generalizing s with
  | zero => cases ended
  | succ n ih =>
      rcases keep s holds with ⟨t, next, later⟩
      rw [after_next next] at ended
      exact ih later ended

/-- A loop that goes on through a sequence of states is there after each pass. -/
theorem after_path {states : Nat → σ} {n : Nat}
    (path : ∀ k, k < n → pass (states k) = .inr (states (k + 1))) :
    after pass n (states 0) = .inr (states n) := by
  induction n generalizing states with
  | zero => rfl
  | succ n ih =>
      rw [after_next (path 0 (Nat.succ_pos n))]
      have shifted : ∀ k, k < n → pass (states (k + 1)) = .inr (states (k + 1 + 1)) :=
        fun k inside => path (k + 1) (Nat.succ_lt_succ inside)
      exact ih shifted

/-- A loop that ends at the last state of a sequence has ended from then on. -/
theorem after_path_done {states : Nat → σ} {n : Nat}
    (path : ∀ k, k < n → pass (states k) = .inr (states (k + 1)))
    (done : pass (states n) = .inl r) {m : Nat} (later : n < m) :
    after pass m (states 0) = .inl r := by
  induction n generalizing states m with
  | zero =>
      cases m with
      | zero => cases later
      | succ m => exact after_done done m
  | succ n ih =>
      cases m with
      | zero => cases later
      | succ m =>
          rw [after_next (path 0 (Nat.succ_pos n))]
          have shifted : ∀ k, k < n → pass (states (k + 1)) = .inr (states (k + 1 + 1)) :=
            fun k inside => path (k + 1) (Nat.succ_lt_succ inside)
          exact ih shifted done (Nat.lt_of_succ_lt_succ later)

/-- The loop comes to another state after finitely many passes. -/
def Leads (pass : σ → ρ ⊕ σ) (s t : σ) : Prop :=
  ∃ n, after pass n s = .inr t

/-- The loop ends with this result. -/
def Gives (pass : σ → ρ ⊕ σ) (s : σ) (r : ρ) : Prop :=
  ∃ n, after pass n s = .inl r

theorem Leads.here : Leads pass s s :=
  ⟨0, rfl⟩

theorem Leads.next {u : σ} (next : pass s = .inr t) (later : Leads pass t u) : Leads pass s u := by
  rcases later with ⟨n, there⟩
  exact ⟨n + 1, (after_next next n).trans there⟩

theorem Leads.trans {u : σ} (early : Leads pass s t) (later : Leads pass t u) :
    Leads pass s u := by
  rcases early with ⟨n, there⟩
  induction n generalizing s with
  | zero =>
      cases there
      exact later
  | succ n ih =>
      cases first : pass s with
      | inl r =>
          rw [after_done first] at there
          cases there
      | inr v =>
          rw [after_next first] at there
          exact .next first (ih there)

theorem Gives.next (next : pass s = .inr t) (later : Gives pass t r) : Gives pass s r := by
  rcases later with ⟨n, there⟩
  exact ⟨n + 1, (after_next next n).trans there⟩

theorem Leads.gives (early : Leads pass s t) (later : Gives pass t r) : Gives pass s r := by
  rcases early with ⟨n, there⟩
  induction n generalizing s with
  | zero =>
      cases there
      exact later
  | succ n ih =>
      cases first : pass s with
      | inl r =>
          rw [after_done first] at there
          cases there
      | inr v =>
          rw [after_next first] at there
          exact .next first (ih there)

theorem gives_done (done : pass s = .inl r) : Gives pass s r :=
  ⟨1, after_done done 0⟩

theorem Gives.last (gives : Gives pass s r) : ∃ t, pass t = .inl r := by
  rcases gives with ⟨n, ended⟩
  induction n generalizing s with
  | zero => cases ended
  | succ n ih =>
      cases first : pass s with
      | inl r' =>
          rw [after_done first] at ended
          cases ended
          exact ⟨s, first⟩
      | inr t =>
          rw [after_next first] at ended
          exact ih ended

/-- A loop that ends behind a sequence of states comes to these alone. -/
theorem Leads.on_path {states : Nat → σ} {n : Nat}
    (path : ∀ k, k < n → pass (states k) = .inr (states (k + 1)))
    (done : pass (states n) = .inl r) (leads : Leads pass (states 0) t) :
    ∃ k, k ≤ n ∧ t = states k := by
  rcases leads with ⟨j, there⟩
  rcases Nat.lt_or_ge n j with beyond | inside
  · rw [after_path_done path done beyond] at there
    cases there
  · have early := after_path fun k low => path k (Nat.lt_of_lt_of_le low inside)
    rw [early] at there
    cases there
    exact ⟨j, inside, rfl⟩

theorem Gives.unique {r' : ρ} (gives : Gives pass s r) (again : Gives pass s r') : r = r' := by
  rcases gives with ⟨n, ended⟩
  rcases again with ⟨m, stopped⟩
  exact after_unique ended stopped

end Gramado.Lib.Loop
