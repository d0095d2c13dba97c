/-
Extents laid end to end: each begins where the one before it stopped. Nothing
is said about what an extent holds; `lo` and `hi` read its bounds.
-/
import Mathlib.Data.List.Basic

namespace Gramado.Lib.Extents

variable {α : Type} {lo hi : α → Nat}

/-- The extents fill the stretch from `start` to `stop`, in order, without a
    gap and without an overlap. -/
def Fills (lo hi : α → Nat) : Nat → List α → Nat → Prop
  | start, [], stop => start = stop
  | start, x :: rest, stop => lo x = start ∧ lo x < hi x ∧ Fills lo hi (hi x) rest stop

@[simp] theorem fills_nil {start stop : Nat} :
    Fills lo hi start [] stop ↔ start = stop := Iff.rfl

@[simp] theorem fills_cons {start stop : Nat} {x : α} {rest : List α} :
    Fills lo hi start (x :: rest) stop ↔
      lo x = start ∧ lo x < hi x ∧ Fills lo hi (hi x) rest stop := Iff.rfl

theorem Fills.push {start stop : Nat} {xs : List α} {x : α}
    (fills : Fills lo hi start xs stop) (next : lo x = stop) (some_room : lo x < hi x) :
    Fills lo hi start (xs ++ [x]) (hi x) := by
  induction xs generalizing start with
  | nil =>
      cases fills
      exact ⟨next, some_room, rfl⟩
  | cons y rest ih => exact ⟨fills.1, fills.2.1, ih fills.2.2⟩

theorem fills_map {f : α → α} (same_lo : ∀ x, lo (f x) = lo x)
    (same_hi : ∀ x, hi (f x) = hi x) {start stop : Nat} {xs : List α} :
    Fills lo hi start (xs.map f) stop ↔ Fills lo hi start xs stop := by
  induction xs generalizing start with
  | nil => exact Iff.rfl
  | cons x rest ih => simp only [List.map_cons, fills_cons, same_lo, same_hi, ih]

theorem Fills.start_le {start stop : Nat} {xs : List α}
    (fills : Fills lo hi start xs stop) : start ≤ stop := by
  induction xs generalizing start with
  | nil => exact Nat.le_of_eq fills
  | cons x rest ih =>
      have later := ih fills.2.2
      have first := fills.2.1
      have here := fills.1
      omega

theorem Fills.inside {start stop : Nat} {xs : List α}
    (fills : Fills lo hi start xs stop) {x : α} (member : x ∈ xs) :
    start ≤ lo x ∧ lo x < hi x ∧ hi x ≤ stop := by
  induction xs generalizing start with
  | nil => cases member
  | cons y rest ih =>
      rcases fills with ⟨here, room, later⟩
      have bound := later.start_le
      rcases List.mem_cons.mp member with rfl | member
      · exact ⟨Nat.le_of_eq here.symm, room, bound⟩
      · rcases ih later member with ⟨low, inner, high⟩
        exact ⟨by omega, inner, high⟩

/-- Of two extents at different places, the earlier one stops before the other
    begins. -/
theorem Fills.ordered {start stop : Nat} {xs : List α}
    (fills : Fills lo hi start xs stop) : xs.Pairwise fun x y => hi x ≤ lo y := by
  induction xs generalizing start with
  | nil => exact List.Pairwise.nil
  | cons x rest ih =>
      rcases fills with ⟨-, -, later⟩
      exact List.Pairwise.cons (fun y member => (later.inside member).1) (ih later)

theorem Fills.apart {start stop : Nat} {xs : List α}
    (fills : Fills lo hi start xs stop) {x y : α} (mem_x : x ∈ xs) (mem_y : y ∈ xs)
    (different : x ≠ y) : hi x ≤ lo y ∨ hi y ≤ lo x := by
  induction xs generalizing start with
  | nil => cases mem_x
  | cons z rest ih =>
      rcases fills with ⟨-, -, later⟩
      rcases List.mem_cons.mp mem_x with rfl | x_later
      · rcases List.mem_cons.mp mem_y with rfl | y_later
        · exact absurd rfl different
        · exact Or.inl (later.inside y_later).1
      · rcases List.mem_cons.mp mem_y with rfl | y_later
        · exact Or.inr (later.inside x_later).1
        · exact ih later x_later y_later

theorem Fills.unique {start stop : Nat} {xs : List α}
    (fills : Fills lo hi start xs stop) {x y : α} (mem_x : x ∈ xs) (mem_y : y ∈ xs)
    (same : lo x = lo y) : x = y := by
  by_contra different
  have room_x := (fills.inside mem_x).2.1
  have room_y := (fills.inside mem_y).2.1
  rcases fills.apart mem_x mem_y different with before | behind
  · omega
  · omega

end Gramado.Lib.Extents
