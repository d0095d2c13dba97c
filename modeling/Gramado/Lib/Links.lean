/-
Chains in a table of links. A cell holds the next cell of its chain or an end
mark; a chain is followed from the cell that its owner names. New chains are
written over cells that no chain has.
-/
import Mathlib.Algebra.GroupWithZero.Nat
import Mathlib.Algebra.Ring.Int.Defs
import Mathlib.Data.List.Nodup
import Mathlib.Logic.Function.Iterate
import Mathlib.Tactic.Common

namespace Gramado.Lib.Links

section Chains

variable {κ : Type}

/-- Which values are cells and which of them end a chain. -/
structure Marks (κ : Type) where
  cell : κ → Prop
  ends : κ → Prop
  apart : ∀ c, cell c → ¬ends c

/-- From `c` on the table leads over the listed cells to an end mark. -/
def Chain (marks : Marks κ) (next : κ → κ) : κ → List κ → Prop
  | c, [] => marks.ends c
  | c, d :: rest => c = d ∧ marks.cell c ∧ Chain marks next (next c) rest

variable {marks : Marks κ} {next other : κ → κ} {c d : κ} {cells more : List κ}

theorem chain_congr (same : ∀ d ∈ cells, other d = next d)
    (chain : Chain marks next c cells) : Chain marks other c cells := by
  induction cells generalizing c with
  | nil => exact chain
  | cons d rest ih =>
      rcases chain with ⟨rfl, valid, later⟩
      refine ⟨rfl, valid, ?_⟩
      rw [same c (List.mem_cons_self ..)]
      exact ih (fun d member => same d (List.mem_cons_of_mem _ member)) later

theorem chain_unique (chain : Chain marks next c cells) (again : Chain marks next c more) :
    cells = more := by
  induction cells generalizing c more with
  | nil =>
      cases more with
      | nil => rfl
      | cons d rest => exact absurd chain (marks.apart c again.2.1)
  | cons d rest ih =>
      rcases chain with ⟨rfl, valid, later⟩
      cases more with
      | nil => exact absurd again (marks.apart c valid)
      | cons e tail =>
          rcases again with ⟨rfl, -, behind⟩
          rw [ih later behind]

theorem chain_from_member (chain : Chain marks next c cells) (member : d ∈ cells) :
    ∃ front tail, cells = front ++ d :: tail ∧ Chain marks next d (d :: tail) := by
  induction cells generalizing c with
  | nil => cases member
  | cons e rest ih =>
      rcases chain with ⟨rfl, valid, later⟩
      rcases List.mem_cons.mp member with rfl | inside
      · exact ⟨[], rest, rfl, rfl, valid, later⟩
      · rcases ih later inside with ⟨front, tail, split, behind⟩
        exact ⟨c :: front, tail, by rw [split]; rfl, behind⟩

theorem chain_nodup (chain : Chain marks next c cells) : cells.Nodup := by
  induction cells generalizing c with
  | nil => exact List.nodup_nil
  | cons d rest ih =>
      rcases chain with ⟨rfl, valid, later⟩
      apply List.nodup_cons.mpr
      constructor
      · intro again
        rcases chain_from_member later again with ⟨front, tail, split, behind⟩
        have whole : Chain marks next c (c :: rest) := ⟨rfl, valid, later⟩
        -- The rest of the chain would be as long as the chain.
        have same := congrArg List.length (chain_unique behind whole)
        simp [split] at same
        omega
      · exact ih later

/-- From the cell that `k` links lead to, the chain goes on with the cells that
    are left. -/
theorem chain_drop {k : Nat} (inside : k ≤ cells.length) (chain : Chain marks next c cells) :
    Chain marks next (next^[k] c) (cells.drop k) := by
  induction k generalizing c cells with
  | zero => exact chain
  | succ k ih =>
      cases cells with
      | nil => cases inside
      | cons d rest =>
          rcases chain with ⟨rfl, -, later⟩
          rw [Function.iterate_succ_apply]
          exact ih (Nat.le_of_succ_le_succ inside) later

/-- The links lead from cell to cell, and behind the last to an end mark. -/
theorem chain_iterate {k : Nat} (inside : k < cells.length) (chain : Chain marks next c cells) :
    next^[k] c = cells[k] := by
  have from_there := chain_drop (Nat.le_of_lt inside) chain
  rw [List.drop_eq_getElem_cons inside] at from_there
  exact from_there.1

theorem chain_iterate_length (chain : Chain marks next c cells) :
    marks.ends (next^[cells.length] c) := by
  have from_there := chain_drop (Nat.le_refl _) chain
  rwa [List.drop_length] at from_there

theorem chain_cell (chain : Chain marks next c cells) (member : d ∈ cells) :
    marks.cell d := by
  rcases chain_from_member chain member with ⟨-, -, -, -, valid, -⟩
  exact valid

theorem chain_link (chain : Chain marks next c cells) (member : d ∈ cells) :
    marks.cell (next d) ∨ marks.ends (next d) := by
  rcases chain_from_member chain member with ⟨-, tail, -, -, -, later⟩
  cases tail with
  | nil => exact Or.inr later
  | cons e tail => exact Or.inl later.2.1

/-- From `c` on the table leads over the listed cells to `d`. -/
def Path (marks : Marks κ) (next : κ → κ) : κ → List κ → κ → Prop
  | c, [], d => c = d
  | c, e :: rest, d => c = e ∧ marks.cell c ∧ Path marks next (next c) rest d

theorem path_congr (same : ∀ e ∈ cells, other e = next e)
    (path : Path marks next c cells d) : Path marks other c cells d := by
  induction cells generalizing c with
  | nil => exact path
  | cons e rest ih =>
      rcases path with ⟨rfl, valid, later⟩
      refine ⟨rfl, valid, ?_⟩
      rw [same c (List.mem_cons_self ..)]
      exact ih (fun e member => same e (List.mem_cons_of_mem _ member)) later

theorem path_append (path : Path marks next c cells d) (valid : marks.cell d) :
    Path marks next c (cells ++ [d]) (next d) := by
  induction cells generalizing c with
  | nil =>
      cases path
      exact ⟨rfl, valid, rfl⟩
  | cons e rest ih =>
      rcases path with ⟨rfl, first, later⟩
      exact ⟨rfl, first, ih later⟩

theorem chain_of_path (path : Path marks next c cells d) (last : marks.ends d) :
    Chain marks next c cells := by
  induction cells generalizing c with
  | nil =>
      cases path
      exact last
  | cons e rest ih =>
      rcases path with ⟨rfl, valid, later⟩
      exact ⟨rfl, valid, ih later⟩

end Chains

section Writing

variable {κ : Type} [DecidableEq κ]

def setLink (next : κ → κ) (c d : κ) : κ → κ :=
  fun e => if e = c then d else next e

/-- The listed cells are chained, first to last, and the last gets the mark. -/
def link (mark : κ) : (κ → κ) → List κ → κ → κ
  | next, [] => next
  | next, c :: rest => link mark (setLink next c (rest.headD mark)) rest

variable {marks : Marks κ} {mark c d : κ} {next : κ → κ} {cells : List κ}

theorem setLink_of_ne (other : d ≠ c) {e : κ} : setLink next c e d = next d := by
  simp [setLink, other]

theorem link_of_notMem (outside : c ∉ cells) : link mark next cells c = next c := by
  induction cells generalizing next with
  | nil => rfl
  | cons d rest ih =>
      rw [List.mem_cons, not_or] at outside
      rw [link, ih outside.2, setLink_of_ne outside.1]

theorem link_chain (fresh : cells.Nodup) (valid : ∀ c ∈ cells, marks.cell c)
    (last : marks.ends mark) : Chain marks (link mark next cells) (cells.headD mark) cells := by
  induction cells generalizing next with
  | nil => exact last
  | cons c rest ih =>
      rcases List.nodup_cons.mp fresh with ⟨once, later⟩
      refine ⟨rfl, valid c (List.mem_cons_self ..), ?_⟩
      have here : link mark next (c :: rest) c = rest.headD mark := by
        rw [link, link_of_notMem once]
        simp [setLink]
      change Chain marks _ (link mark next (c :: rest) c) rest
      rw [here]
      exact ih later fun d member => valid d (List.mem_cons_of_mem _ member)

end Writing

section Owners

variable {κ ι : Type}

/-- What every owner names leads to an end mark, and no two owners share a cell. -/
structure Sound (marks : Marks κ) (next : κ → κ) (start : ι → Option κ) : Prop where
  chained : ∀ i c, start i = some c → ∃ cells, Chain marks next c cells ∧ cells.Nodup
  apart : ∀ i j c d xs ys, i ≠ j → start i = some c → start j = some d →
    Chain marks next c xs → Chain marks next d ys → ∀ e ∈ xs, e ∉ ys

variable {marks : Marks κ} {next other : κ → κ} {start named : ι → Option κ}

theorem sound_of_kept (sound : Sound marks next start)
    (same : ∀ i c cells, start i = some c → Chain marks next c cells →
      ∀ d ∈ cells, other d = next d) : Sound marks other start := by
  have back : ∀ i c cells, start i = some c → Chain marks other c cells →
      Chain marks next c cells := by
    intro i c cells names chain
    rcases sound.chained i c names with ⟨old, chained, -⟩
    have moved := chain_congr (same i c old names chained) chained
    rwa [chain_unique chain moved]
  constructor
  · intro i c names
    rcases sound.chained i c names with ⟨cells, chained, once⟩
    exact ⟨cells, chain_congr (same i c cells names chained) chained, once⟩
  · intro i j c d xs ys different names alsoNames chain behind
    exact sound.apart i j c d xs ys different names alsoNames
      (back i c xs names chain) (back j d ys alsoNames behind)

/-- An owner that named nothing takes a chain whose cells no other owner has. -/
theorem sound_add [DecidableEq ι] (sound : Sound marks next start) {owner : ι} {first : κ}
    {cells : List κ} (chain : Chain marks next first cells)
    (others : ∀ i, i ≠ owner → named i = start i) (names : named owner = some first)
    (fresh : ∀ i c xs, i ≠ owner → start i = some c → Chain marks next c xs →
      ∀ e ∈ xs, e ∉ cells) :
    Sound marks next named := by
  constructor
  · intro i c holds
    by_cases same : i = owner
    · subst same
      rw [names] at holds
      cases holds
      exact ⟨cells, chain, chain_nodup chain⟩
    · rw [others i same] at holds
      exact sound.chained i c holds
  · intro i j c d xs ys different holds alsoHolds left right e member
    by_cases first : i = owner
    · subst first
      rw [names] at holds
      cases holds
      rw [others j fun same => different same.symm] at alsoHolds
      rw [chain_unique left chain] at member
      intro inside
      exact fresh j d ys (fun same => different same.symm) alsoHolds right e inside member
    · rw [others i first] at holds
      by_cases second : j = owner
      · subst second
        rw [names] at alsoHolds
        cases alsoHolds
        rw [chain_unique right chain]
        exact fresh i c xs first holds left e member
      · rw [others j second] at alsoHolds
        exact sound.apart i j c d xs ys different holds alsoHolds left right e member

end Owners

end Gramado.Lib.Links
