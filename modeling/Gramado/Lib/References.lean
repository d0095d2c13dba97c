/-
Objects that the cells of a table refer to, with a counter for each. What is asked is that
the counter of an object in use is the number of its cells, that every object in use is
live, and that one that comes out of use is not. The rules say when the changes of one cell
keep to this.
-/
import Mathlib.Data.Fintype.Card
import Mathlib.Tactic.Common

namespace Gramado.Lib.References

open Function

section Tables

variable {κ α : Type} [Fintype κ] [DecidableEq α]

/-- How many cells refer to the object. -/
def references (table : κ → α) (a : α) : Nat :=
  (Finset.univ.filter fun k => table k = a).card

variable {table : κ → α} {k : κ} {a b : α}

theorem references_pos : 0 < references table a ↔ ∃ k, table k = a := by
  rw [references, Finset.card_pos]
  exact ⟨fun ⟨k, inside⟩ => ⟨k, (Finset.mem_filter.mp inside).2⟩,
    fun ⟨k, here⟩ => ⟨k, Finset.mem_filter.mpr ⟨Finset.mem_univ k, here⟩⟩⟩

theorem references_of_cell : 0 < references table (table k) :=
  references_pos.mpr ⟨k, rfl⟩

variable [DecidableEq κ]

theorem references_gained (other : table k ≠ b) :
    references (update table k b) b = references table b + 1 := by
  have cells : (Finset.univ.filter fun j => update table k b j = b) =
      insert k (Finset.univ.filter fun j => table j = b) := by
    ext j
    by_cases same : j = k
    · subst j
      simp
    · simp [same]
  rw [references, cells, Finset.card_insert_of_notMem (by simp [other])]
  rfl

theorem references_lost (other : table k ≠ b) :
    references (update table k b) (table k) + 1 = references table (table k) := by
  have away : update table k b k ≠ table k := by
    rw [update_self]
    exact other.symm
  rw [← references_gained away, update_idem, update_eq_self]

theorem references_kept (lost : a ≠ table k) (gained : a ≠ b) :
    references (update table k b) a = references table a := by
  have cells : (Finset.univ.filter fun j => update table k b j = a) =
      (Finset.univ.filter fun j => table j = a) := by
    ext j
    by_cases same : j = k
    · subst j
      simp [lost.symm, gained.symm]
    · simp [same]
  rw [references, cells]
  rfl

theorem references_two {j : κ} (apart : j ≠ k) (same : table j = table k) :
    2 ≤ references table (table k) := by
  have cells : {j, k} ⊆ Finset.univ.filter fun i => table i = table k := by
    intro i inside
    rcases Finset.mem_insert.mp inside with here | here
    · simp [here, same]
    · simp [Finset.mem_singleton.mp here]
  have two := Finset.card_le_card cells
  rwa [Finset.card_pair apart] at two

end Tables

/-- The cells, the counters of the objects, and the objects that are live. -/
structure Pool (κ α : Type) where
  table : κ → α
  counter : α → Int
  live : α → Prop

section Pools

variable {κ α : Type} [Fintype κ] [DecidableEq α]

/-- Every object in use is live, with a counter that is the number of its cells. -/
def Counted (null : α) (p : Pool κ α) : Prop :=
  ∀ a, a ≠ null → 0 < references p.table a → p.live a ∧ p.counter a = references p.table a

/-- The object is in use before, and not after. -/
structure Dropped (null : α) (p q : Pool κ α) (a : α) : Prop where
  some : a ≠ null
  before : 0 < references p.table a
  after : references q.table a = 0

/-- The objects are counted after the step, and those that came out of use are not live. -/
def Sound (null : α) (p q : Pool κ α) : Prop :=
  Counted null q ∧ ∀ a, Dropped null p q a → ¬q.live a

/-- What is in use before the step is in use after it, with as many cells, the same counter
    and as live. -/
def Kept (p q : Pool κ α) (a : α) : Prop :=
  references q.table a = references p.table a ∧
    (0 < references p.table a → q.counter a = p.counter a ∧ (q.live a ↔ p.live a))

variable {null a b : α} {p q : Pool κ α} {k : κ}

/-- A step that keeps every object but some that it puts into use is sound if these are live
    and counted. -/
theorem sound_iff_counted {new : α → Prop} (counted : Counted null p)
    (kept : ∀ a, a ≠ null → ¬new a → Kept p q a)
    (used : ∀ a, new a → a ≠ null ∧ 0 < references q.table a) :
    Sound null p q ↔ ∀ a, new a → q.live a ∧ q.counter a = references q.table a := by
  constructor
  · rintro ⟨after, -⟩ a here
    exact after a (used a here).1 (used a here).2
  · intro gained
    constructor
    · intro a some cells
      by_cases here : new a
      · exact gained a here
      · obtain ⟨same, rest⟩ := kept a some here
        rw [same] at cells ⊢
        rw [(rest cells).1, (rest cells).2]
        exact counted a some cells
    · intro a dropped
      have before := dropped.before
      have after := dropped.after
      by_cases here : new a
      · have cells := (used a here).2
        omega
      · have same := (kept a dropped.some here).1
        omega

theorem sound_of_kept (counted : Counted null p) (table : q.table = p.table)
    (same : ∀ a, 0 < references p.table a → q.counter a = p.counter a ∧ (q.live a ↔ p.live a)) :
    Sound null p q := by
  have kept (a : α) : Kept p q a := ⟨by rw [table], same a⟩
  have none : ∀ a : α, False → a ≠ null ∧ 0 < references q.table a := fun _ no => no.elim
  exact (sound_iff_counted counted (fun a _ _ => kept a) none).mpr fun _ no => no.elim

theorem sound_self (counted : Counted null p) : Sound null p p :=
  sound_of_kept counted rfl fun _ _ => ⟨rfl, Iff.rfl⟩

variable [DecidableEq κ]

theorem sound_gained (counted : Counted null p) (free : p.table k = null) (some : a ≠ null)
    (table : q.table = update p.table k a)
    (apart : ∀ b, b ≠ a → q.counter b = p.counter b ∧ (q.live b ↔ p.live b)) :
    Sound null p q ↔ q.live a ∧ q.counter a = references p.table a + 1 := by
  have other : p.table k ≠ a := by
    rw [free]
    exact some.symm
  have cells : references q.table a = references p.table a + 1 := by
    rw [table, references_gained other]
  have kept (b : α) (real : b ≠ null) (different : b ≠ a) : Kept p q b := by
    refine ⟨?_, fun _ => apart b different⟩
    rw [table, references_kept (by rw [free]; exact real) different]
  have used (b : α) (same : b = a) : b ≠ null ∧ 0 < references q.table b := by
    rw [same, cells]
    exact ⟨some, Nat.succ_pos _⟩
  rw [sound_iff_counted counted kept used]
  simp only [forall_eq, cells, Int.natCast_add]
  exact Iff.rfl

/-- A cell that is cleared while its object stays as it was leaves it miscounted, or live
    without a cell. -/
theorem not_sound_cleared (counted : Counted null p) (used : p.table k ≠ null)
    (table : q.table = update p.table k null)
    (counter : q.counter (p.table k) = p.counter (p.table k))
    (live : q.live (p.table k) ↔ p.live (p.table k)) : ¬Sound null p q := by
  rintro ⟨after, released⟩
  have cells := references_lost used
  rw [← table] at cells
  have before := counted (p.table k) used references_of_cell
  rcases Nat.eq_zero_or_pos (references q.table (p.table k)) with last | more
  · exact released _ ⟨used, references_of_cell, last⟩ (live.mpr before.1)
  · have here := after (p.table k) used more
    rw [counter, before.2] at here
    omega

/-- A cell goes over to another object in use: one is taken from the counter of the object
    it had, which stays live only if there is something left, and one is added to that of
    the object it is given. -/
theorem sound_replaced (counted : Counted null p) (had : p.table k ≠ null) (given : a ≠ null)
    (other : p.table k ≠ a) (used : 0 < references p.table a)
    (table : q.table = update p.table k a)
    (less : q.counter (p.table k) = p.counter (p.table k) - 1)
    (last : q.live (p.table k) ↔ 0 < q.counter (p.table k))
    (more : q.counter a = p.counter a + 1) (live : q.live a ↔ p.live a)
    (apart : ∀ b, b ≠ p.table k → b ≠ a →
      q.counter b = p.counter b ∧ (q.live b ↔ p.live b)) : Sound null p q := by
  have gained : references q.table a = references p.table a + 1 := by
    rw [table, references_gained other]
  have lost : references q.table (p.table k) + 1 = references p.table (p.table k) := by
    rw [table, references_lost other]
  have kept (b : α) (out : b ≠ p.table k) (inside : b ≠ a) :
      references q.table b = references p.table b := by
    rw [table, references_kept out inside]
  have before := counted (p.table k) had references_of_cell
  constructor
  · intro b some still
    by_cases first : b = p.table k
    · subst b
      rw [last, less, before.2]
      omega
    · by_cases second : b = a
      · subst b
        have here := counted a given used
        rw [live, more, here.2, gained]
        exact ⟨here.1, rfl⟩
      · rw [kept b first second] at still ⊢
        rw [(apart b first second).1, (apart b first second).2]
        exact counted b some still
  · intro b dropped
    have start := dropped.before
    have after := dropped.after
    by_cases first : b = p.table k
    · subst b
      rw [last, less, before.2]
      omega
    · by_cases second : b = a
      · subst b
        omega
      · rw [kept b first second] at after
        omega

end Pools

end Gramado.Lib.References
