/-
A bounded queue laid out in a circular array: `cap` cells, a head and a tail
index that advance with wrap-around, and a predicate that says which cells are
occupied. What a cell holds is left to a relation, so that the array may store
pages, pointers or anything else.
-/
import Mathlib.Algebra.GroupWithZero.Nat
import Mathlib.Algebra.Ring.Int.Defs
import Mathlib.Data.List.Basic
import Mathlib.Tactic.Common

namespace Gramado.Lib.Ring

/-- The index after `i`, as it is written with a test instead of a remainder. -/
def next (cap i : Nat) : Nat :=
  if i + 1 ≥ cap then 0 else i + 1

/-- The cell `k` places after `head`. -/
def place (cap head k : Nat) : Nat :=
  (head + k) % cap

section Index

variable {cap head i j k : Nat}

theorem next_lt (room : 0 < cap) : next cap i < cap := by
  unfold next
  split <;> omega

theorem next_eq_mod (inside : i < cap) : next cap i = (i + 1) % cap := by
  unfold next
  split
  · rename_i wraps
    have last : i + 1 = cap := by omega
    rw [last, Nat.mod_self]
  · rename_i stays
    exact (Nat.mod_eq_of_lt (by omega)).symm

theorem place_lt (room : 0 < cap) : place cap head k < cap :=
  Nat.mod_lt _ room

theorem place_zero (inside : head < cap) : place cap head 0 = head :=
  Nat.mod_eq_of_lt (by omega)

theorem place_cap (inside : head < cap) : place cap head cap = head := by
  simp [place, Nat.mod_eq_of_lt inside]

theorem next_place (room : 0 < cap) :
    next cap (place cap head k) = place cap head (k + 1) := by
  rw [next_eq_mod (place_lt room)]
  simp only [place, Nat.mod_add_mod, Nat.add_assoc]

theorem place_next (inside : head < cap) :
    place cap (next cap head) k = place cap head (k + 1) := by
  rw [next_eq_mod inside]
  simp only [place, Nat.mod_add_mod]
  congr 1
  omega

theorem place_inj (inside : head < cap) (first : i < cap) (second : j < cap)
    (same : place cap head i = place cap head j) : i = j := by
  have wrap : ∀ k, k < cap →
      place cap head k = if head + k < cap then head + k else head + k - cap := by
    intro k small
    unfold place
    split
    · rename_i below
      exact Nat.mod_eq_of_lt below
    · rename_i above
      rw [Nat.mod_eq_sub_mod (by omega)]
      exact Nat.mod_eq_of_lt (by omega)
  rw [wrap i first, wrap j second] at same
  split at same <;> split at same <;> omega

theorem place_pred (room : 0 < cap) :
    (place cap head (k + 1) + (cap - 1)) % cap = place cap head k := by
  have turn : head + (k + 1) + (cap - 1) = head + k + cap := by omega
  simp only [place, Nat.mod_add_mod]
  rw [turn, Nat.add_mod_right]

theorem place_succ_ne (inside : head < cap) (short : k + 1 < cap) :
    place cap head (k + 1) ≠ head := by
  intro same
  have here := same.trans (place_zero inside).symm
  have := place_inj inside short (Nat.zero_lt_of_lt inside) here
  omega

end Index

section Layout

variable {β : Type} {cap : Nat}

/-- The queue lies in the cells from `head` on, the tail just behind it. -/
structure Lies (cap : Nat) (rel : Nat → β → Prop) (head tail : Nat) (queue : List β) :
    Prop where
  head_lt : head < cap
  fits : queue.length ≤ cap
  tail_at : tail = place cap head queue.length
  cells : ∀ k x, queue[k]? = some x → rel (place cap head k) x

/-- The cells that no element lies in. -/
def Vacant (cap : Nat) (vacant : Nat → Prop) (head : Nat) (queue : List β) : Prop :=
  ∀ k, queue.length ≤ k → k < cap → vacant (place cap head k)

/-- The cells of the queue, and no others, are marked as occupied. -/
structure Holds (cap : Nat) (full : Nat → Prop) (rel : Nat → β → Prop)
    (head tail : Nat) (queue : List β) : Prop extends Lies cap rel head tail queue where
  busy : ∀ k, k < queue.length → full (place cap head k)
  free : ∀ k, queue.length ≤ k → k < cap → ¬ full (place cap head k)

variable {full full' : Nat → Prop} {rel rel' : Nat → β → Prop}
  {head tail : Nat} {queue : List β}

theorem Lies.tail_lt (lies : Lies cap rel head tail queue) : tail < cap := by
  rw [lies.tail_at]
  exact place_lt (Nat.zero_lt_of_lt lies.head_lt)

theorem Holds.tail_free_iff (holds : Holds cap full rel head tail queue) :
    ¬ full tail ↔ queue.length < cap := by
  constructor
  · intro free
    by_contra none
    have all : queue.length = cap := Nat.le_antisymm holds.fits (by omega)
    apply free
    rw [holds.tail_at, all, place_cap holds.head_lt, ← place_zero holds.head_lt]
    exact holds.busy 0 (by have := holds.head_lt; omega)
  · intro room
    rw [holds.tail_at]
    exact holds.free queue.length (Nat.le_refl _) room

theorem Holds.head_busy_iff (holds : Holds cap full rel head tail queue) :
    full head ↔ queue ≠ [] := by
  have here := place_zero holds.head_lt
  constructor
  · rintro busy rfl
    have free := holds.free 0 (Nat.le_refl _) (Nat.zero_lt_of_lt holds.head_lt)
    rw [here] at free
    exact free busy
  · intro some
    have busy := holds.busy 0 (List.length_pos_of_ne_nil some)
    rwa [here] at busy

theorem Lies.empty (inside : head < cap) : Lies cap rel head head [] where
  head_lt := inside
  fits := by simp
  tail_at := (place_zero inside).symm
  cells := by simp

/-- While one cell is kept free, the two indices meet only when nothing waits. -/
theorem Lies.tail_eq_head_iff (lies : Lies cap rel head tail queue)
    (short : queue.length < cap) : tail = head ↔ queue = [] := by
  rw [lies.tail_at]
  constructor
  · intro same
    cases queue with
    | nil => rfl
    | cons x rest => exact absurd same (place_succ_ne lies.head_lt short)
  · rintro rfl
    exact place_zero lies.head_lt

/-- Where the tail has come round to the cell before the head, one is left free. -/
theorem Lies.next_tail_eq_head_iff (lies : Lies cap rel head tail queue)
    (short : queue.length < cap) : next cap tail = head ↔ queue.length + 1 = cap := by
  rw [lies.tail_at, next_place (Nat.zero_lt_of_lt lies.head_lt)]
  constructor
  · intro same
    by_contra room
    exact place_succ_ne lies.head_lt (by omega) same
  · intro last
    rw [last, place_cap lies.head_lt]

theorem Lies.retract {x : β} {front : List β} (lies : Lies cap rel head tail (front ++ [x])) :
    Lies cap rel head ((tail + (cap - 1)) % cap) front where
  head_lt := lies.head_lt
  fits := by
    have fits := lies.fits
    rw [List.length_append] at fits
    omega
  tail_at := by
    rw [lies.tail_at, List.length_append, List.length_singleton]
    exact place_pred (Nat.zero_lt_of_lt lies.head_lt)
  cells := by
    intro k y found
    have inside : k < front.length := (List.getElem?_eq_some_iff.mp found).1
    apply lies.cells k y
    rw [List.getElem?_append_left inside, found]

theorem Lies.push {x : β} (lies : Lies cap rel head tail queue)
    (room : queue.length < cap) (stored : rel' tail x)
    (others : ∀ k y, k ≠ tail → rel k y → rel' k y) :
    Lies cap rel' head (next cap tail) (queue ++ [x]) where
  head_lt := lies.head_lt
  fits := by
    rw [List.length_append, List.length_singleton]
    exact room
  tail_at := by
    rw [lies.tail_at, next_place (Nat.zero_lt_of_lt lies.head_lt), List.length_append]
    rfl
  cells := by
    intro k y found
    by_cases last : k = queue.length
    · subst k
      rw [List.getElem?_concat_length] at found
      cases found
      rw [← lies.tail_at]
      exact stored
    · have inside : k < queue.length := by
        have short := (List.getElem?_eq_some_iff.mp found).1
        simp only [List.length_append, List.length_singleton] at short
        omega
      have other : place cap head k ≠ tail := by
        intro same
        rw [lies.tail_at] at same
        exact last (place_inj lies.head_lt (by omega) room same)
      rw [List.getElem?_append_left inside] at found
      exact others _ y other (lies.cells k y found)

theorem Lies.pop {x : β} {rest : List β} (lies : Lies cap rel head tail (x :: rest))
    (others : ∀ k y, k ≠ head → rel k y → rel' k y) :
    Lies cap rel' (next cap head) tail rest where
  head_lt := next_lt (Nat.zero_lt_of_lt lies.head_lt)
  fits := by
    have fits := lies.fits
    simp only [List.length_cons] at fits
    omega
  tail_at := by
    rw [place_next lies.head_lt]
    exact lies.tail_at
  cells := by
    intro k y found
    have inside : k < rest.length := (List.getElem?_eq_some_iff.mp found).1
    have fits := lies.fits
    simp only [List.length_cons] at fits
    rw [place_next lies.head_lt]
    have other := place_succ_ne lies.head_lt (k := k) (by omega)
    exact others _ y other (lies.cells (k + 1) y (by simpa using found))

section Vacancy

variable {vacant vacant' : Nat → Prop}

theorem Vacant.empty (inside : head < cap) (all : ∀ k, k < cap → vacant k) :
    Vacant cap vacant head ([] : List β) :=
  fun _ _ _ => all _ (place_lt (Nat.zero_lt_of_lt inside))

theorem Vacant.at_tail (cells : Vacant cap vacant head queue)
    (lies : Lies cap rel head tail queue) (room : queue.length < cap) : vacant tail := by
  rw [lies.tail_at]
  exact cells queue.length (Nat.le_refl _) room

theorem Vacant.push {x : β} (cells : Vacant cap vacant head queue)
    (lies : Lies cap rel head tail queue)
    (others : ∀ k, k ≠ tail → vacant k → vacant' k) :
    Vacant cap vacant' head (queue ++ [x]) := by
  intro k past inside
  simp only [List.length_append, List.length_singleton] at past
  have other : place cap head k ≠ tail := by
    intro same
    rw [lies.tail_at] at same
    have := place_inj lies.head_lt inside (by omega) same
    omega
  exact others _ other (cells k (by omega) inside)

theorem Vacant.pop {x : β} {rest : List β} (cells : Vacant cap vacant head (x :: rest))
    (inside : head < cap) (freed : vacant' head)
    (others : ∀ k, k ≠ head → vacant k → vacant' k) :
    Vacant cap vacant' (next cap head) rest := by
  intro k past short
  rw [place_next inside]
  by_cases last : k + 1 = cap
  · rw [last, place_cap inside]
    exact freed
  · exact others _ (place_succ_ne inside (by omega))
      (cells (k + 1) (by simpa using past) (by omega))

end Vacancy

theorem Holds.empty (inside : head < cap) (free : ∀ k, k < cap → ¬ full k) :
    Holds cap full rel head head [] where
  toLies := Lies.empty inside
  busy := by simp
  free := fun _ _ _ => free _ (place_lt (Nat.zero_lt_of_lt inside))

theorem Holds.push {x : β} (holds : Holds cap full rel head tail queue)
    (room : queue.length < cap) (filled : full' tail) (stored : rel' tail x)
    (flags : ∀ k, k ≠ tail → (full' k ↔ full k))
    (others : ∀ k y, k ≠ tail → rel k y → rel' k y) :
    Holds cap full' rel' head (next cap tail) (queue ++ [x]) where
  toLies := holds.toLies.push room stored others
  busy := by
    intro k inside
    by_cases last : place cap head k = tail
    · rw [last]
      exact filled
    · rw [flags _ last]
      apply holds.busy
      have other : k ≠ queue.length := by
        rintro rfl
        exact last holds.tail_at.symm
      simp only [List.length_append, List.length_singleton] at inside
      omega
  free := by
    have cells : Vacant cap (fun i => ¬ full i) head queue := holds.free
    have after : Vacant cap (fun i => ¬ full' i) head (queue ++ [x]) :=
      cells.push holds.toLies fun k other => mt (flags k other).mp
    exact after

theorem Holds.amend {x y : β} {front : List β}
    (holds : Holds cap full rel head tail (front ++ [x]))
    (filled : full' (place cap head front.length)) (stored : rel' (place cap head front.length) y)
    (flags : ∀ k, k ≠ place cap head front.length → (full' k ↔ full k))
    (others : ∀ k z, k ≠ place cap head front.length → rel k z → rel' k z) :
    Holds cap full' rel' head tail (front ++ [y]) where
  head_lt := holds.head_lt
  fits := by simpa using holds.fits
  tail_at := by simpa using holds.tail_at
  cells := by
    intro k z found
    have fits := holds.fits
    simp only [List.length_append, List.length_singleton] at fits
    by_cases last : k = front.length
    · subst k
      rw [List.getElem?_concat_length] at found
      cases found
      exact stored
    · have inside : k < front.length := by
        have short := (List.getElem?_eq_some_iff.mp found).1
        simp only [List.length_append, List.length_singleton] at short
        omega
      have other : place cap head k ≠ place cap head front.length :=
        fun same => last (place_inj holds.head_lt (by omega) (by omega) same)
      rw [List.getElem?_append_left inside] at found
      apply others _ z other
      apply holds.cells k z
      rw [List.getElem?_append_left inside, found]
  busy := by
    intro k inside
    by_cases last : place cap head k = place cap head front.length
    · rw [last]
      exact filled
    · rw [flags _ last]
      exact holds.busy k (by simpa using inside)
  free := by
    intro k past inside
    simp only [List.length_append, List.length_singleton] at past
    have other : place cap head k ≠ place cap head front.length := by
      intro same
      have := place_inj holds.head_lt inside (by omega) same
      omega
    rw [flags _ other]
    exact holds.free k (by simpa using past) inside

theorem Holds.pop {x : β} {rest : List β}
    (holds : Holds cap full rel head tail (x :: rest)) (freed : ¬ full' head)
    (flags : ∀ k, k ≠ head → (full' k ↔ full k))
    (others : ∀ k y, k ≠ head → rel k y → rel' k y) :
    Holds cap full' rel' (next cap head) tail rest where
  toLies := holds.toLies.pop others
  busy := by
    intro k inside
    have fits := holds.fits
    simp only [List.length_cons] at fits
    rw [place_next holds.head_lt, flags _ (place_succ_ne holds.head_lt (by omega))]
    exact holds.busy (k + 1) (by simpa using inside)
  free := by
    have cells : Vacant cap (fun i => ¬ full i) head (x :: rest) := holds.free
    have after : Vacant cap (fun i => ¬ full' i) (next cap head) rest :=
      cells.pop holds.head_lt freed fun k other => mt (flags k other).mp
    exact after

end Layout

end Gramado.Lib.Ring
