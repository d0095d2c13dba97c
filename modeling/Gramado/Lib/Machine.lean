/-
Runs of a deterministic machine. A request is answered by an output and the
next state, or it stops the machine. The rules here carry an invariant, with
whatever history is kept beside it, through a run whose requests meet a guard,
and compare a machine with a simpler one that never stops.
-/
import Mathlib.Algebra.GroupWithZero.Nat
import Mathlib.Algebra.Ring.Int.Defs
import Mathlib.Logic.Basic

namespace Gramado.Lib.Machine

section Runs

variable {σ ι ο ε : Type}

/-- Serve the requests in order; the first one that stops ends the run. -/
def run (step : σ → ι → Except ε (ο × σ)) : σ → List ι → Except ε (List ο × σ)
  | s, [] => .ok ([], s)
  | s, i :: rest =>
      match step s i with
      | .error e => .error e
      | .ok (o, t) =>
          match run step t rest with
          | .error e => .error e
          | .ok (os, u) => .ok (o :: os, u)

/-- Every request of the run meets `good` in the state that it finds. -/
def Guarded (step : σ → ι → Except ε (ο × σ)) (good : σ → ι → Prop) :
    σ → List ι → Prop
  | _, [] => True
  | s, i :: rest =>
      good s i ∧ ∀ o t, step s i = .ok (o, t) → Guarded step good t rest

variable {step : σ → ι → Except ε (ο × σ)} {good : σ → ι → Prop}

@[simp] theorem run_nil (s : σ) : run step s [] = .ok ([], s) := rfl

@[simp] theorem guarded_nil (s : σ) : Guarded step good s [] := trivial

theorem guarded_of_always (always : ∀ s i, good s i) (s : σ) (is : List ι) :
    Guarded step good s is := by
  induction is generalizing s with
  | nil => trivial
  | cons i rest ih => exact ⟨always s i, fun _ t _ => ih t⟩

theorem guarded_congr {other : σ → ι → Prop} (same : ∀ s i, good s i ↔ other s i) (s : σ)
    (is : List ι) : Guarded step good s is ↔ Guarded step other s is := by
  induction is generalizing s with
  | nil => exact Iff.rfl
  | cons i rest ih =>
      have later : (∀ o t, step s i = .ok (o, t) → Guarded step good t rest) ↔
          ∀ o t, step s i = .ok (o, t) → Guarded step other t rest :=
        forall_congr' fun _ => forall_congr' fun t => imp_congr_right fun _ => ih t
      exact and_congr (same s i) later

theorem run_cons_ok {s u : σ} {i : ι} {rest : List ι} {outs : List ο}
    (served : run step s (i :: rest) = .ok (outs, u)) :
    ∃ o t os, step s i = .ok (o, t) ∧ run step t rest = .ok (os, u) ∧
      outs = o :: os := by
  unfold run at served
  split at served
  · cases served
  · rename_i o t first
    split at served
    · cases served
    · rename_i os v later
      cases served
      exact ⟨o, t, os, first, later, rfl⟩

theorem run_cons_of_ok {s t : σ} {i : ι} {o : ο} {rest : List ι}
    (first : step s i = .ok (o, t)) :
    run step s (i :: rest) = (run step t rest).map fun out => (o :: out.1, out.2) := by
  cases later : run step t rest <;> simp [run, first, later, Except.map]

theorem guarded_cons_of_ok {s t : σ} {i : ι} {o : ο} {rest : List ι} (meets : good s i)
    (first : step s i = .ok (o, t)) (later : Guarded step good t rest) :
    Guarded step good s (i :: rest) := by
  refine ⟨meets, ?_⟩
  intro o' t' again
  rw [first] at again
  cases again
  exact later

theorem run_append_of_ok {s t u : σ} {early late : List ι} {first last : List ο}
    (served : run step s early = .ok (first, t)) (later : run step t late = .ok (last, u)) :
    run step s (early ++ late) = .ok (first ++ last, u) := by
  induction early generalizing s first with
  | nil =>
      cases served
      exact later
  | cons i rest ih =>
      obtain ⟨o, v, os, head, tail, rfl⟩ := run_cons_ok served
      rw [List.cons_append, run_cons_of_ok head, ih tail]
      rfl

/-- The invariant rule: what one guarded step keeps, a guarded run keeps. -/
theorem run_keeps {inv : σ → Prop}
    (keep : ∀ s i o t, inv s → good s i → step s i = .ok (o, t) → inv t)
    {s u : σ} {is : List ι} {outs : List ο} (holds : inv s)
    (guarded : Guarded step good s is) (served : run step s is = .ok (outs, u)) :
    inv u := by
  induction is generalizing s outs with
  | nil =>
      cases served
      exact holds
  | cons i rest ih =>
      obtain ⟨o, t, os, first, later, rfl⟩ := run_cons_ok served
      exact ih (keep s i o t holds guarded.1 first) (guarded.2 o t first) later

/-- The progress rule: a guarded run whose steps cannot stop is served whole. -/
theorem run_served {inv : σ → Prop}
    (move : ∀ s i, inv s → good s i → ∃ o t, step s i = .ok (o, t) ∧ inv t)
    {s : σ} {is : List ι} (holds : inv s) (guarded : Guarded step good s is) :
    ∃ outs u, run step s is = .ok (outs, u) ∧ inv u := by
  induction is generalizing s with
  | nil => exact ⟨[], s, rfl, holds⟩
  | cons i rest ih =>
      obtain ⟨o, t, first, next⟩ := move s i holds guarded.1
      obtain ⟨outs, u, later, last⟩ := ih next (guarded.2 o t first)
      exact ⟨o :: outs, u, by rw [run_cons_of_ok first, later]; rfl, last⟩

/-- A guarded run is served, and in the invariant, after every part from its start. -/
theorem prefixes_of_guarded {inv : σ → Prop}
    (move : ∀ s i, inv s → good s i → ∃ o t, step s i = .ok (o, t) ∧ inv t)
    {s : σ} {is : List ι} (holds : inv s) (guarded : Guarded step good s is) :
    ∀ early, early <+: is → ∃ outs t, run step s early = .ok (outs, t) ∧ inv t := by
  intro early start
  induction early generalizing s is with
  | nil => exact ⟨[], s, rfl, holds⟩
  | cons j early ih =>
      rcases start with ⟨late, rfl⟩
      obtain ⟨o, t, first, next⟩ := move s j holds guarded.1
      obtain ⟨outs, u, served, last⟩ := ih next (guarded.2 o t first) ⟨late, rfl⟩
      exact ⟨o :: outs, u, by rw [run_cons_of_ok first, served]; rfl, last⟩

/-- Where a request that keeps the invariant meets the guard, a run that keeps it
    throughout is guarded. -/
theorem guarded_of_prefixes {inv : σ → Prop} {s : σ} {is : List ι}
    (exact : ∀ s i, i ∈ is → inv s → (∃ o t, step s i = .ok (o, t) ∧ inv t) → good s i)
    (holds : inv s)
    (every : ∀ early, early <+: is → ∃ outs t, run step s early = .ok (outs, t) ∧ inv t) :
    Guarded step good s is := by
  induction is generalizing s with
  | nil => trivial
  | cons i rest ih =>
      rcases every [i] ⟨rest, rfl⟩ with ⟨outs, t, served, next⟩
      rcases run_cons_ok served with ⟨o, v, os, first, stop, -⟩
      cases stop
      refine ⟨exact s i List.mem_cons_self holds ⟨o, t, first, next⟩, ?_⟩
      intro o' t' again
      rw [first] at again
      cases again
      apply ih (fun s j inside => exact s j (List.mem_cons_of_mem i inside)) next
      intro early start
      rcases every (i :: early) (List.cons_prefix_cons.mpr ⟨rfl, start⟩) with
        ⟨outs', u, served', last⟩
      rcases run_cons_ok served' with ⟨p, v, os', first', later, -⟩
      rw [first] at first'
      cases first'
      exact ⟨os', u, later, last⟩

/-- Every step that the run takes is as described, up to where it stops. -/
def Along (step : σ → ι → Except ε (ο × σ)) (fact : σ → ι → ο × σ → Prop) :
    σ → List ι → Prop
  | _, [] => True
  | s, i :: rest =>
      ∀ out, step s i = .ok out → fact s i out ∧ Along step fact out.2 rest

theorem along_of_always {fact : σ → ι → ο × σ → Prop}
    (always : ∀ s i out, step s i = .ok out → fact s i out) (s : σ) (is : List ι) :
    Along step fact s is := by
  induction is generalizing s with
  | nil => trivial
  | cons i rest ih => exact fun out served => ⟨always s i out served, ih out.2⟩

/-- What the invariant gives for a guarded step, with the invariant after it, it
    gives for a guarded run. -/
theorem along_of_guarded {inv : σ → Prop} {fact : σ → ι → ο × σ → Prop}
    (step_fact : ∀ s i out, inv s → good s i → step s i = .ok out → fact s i out ∧ inv out.2)
    {s : σ} {is : List ι} (holds : inv s) (guarded : Guarded step good s is) :
    Along step fact s is := by
  induction is generalizing s with
  | nil => trivial
  | cons i rest ih =>
      intro out served
      rcases step_fact s i out holds guarded.1 served with ⟨described, next⟩
      exact ⟨described, ih next (guarded.2 out.1 out.2 served)⟩

/-- What the invariant gives for a step, with the invariant after it, it gives
    for a run. -/
theorem along_of_kept {inv : σ → Prop} {fact : σ → ι → ο × σ → Prop}
    (step_fact : ∀ s i out, inv s → step s i = .ok out → fact s i out ∧ inv out.2)
    {s : σ} (is : List ι) (holds : inv s) : Along step fact s is :=
  along_of_guarded (fun s i out kept _ => step_fact s i out kept) holds
    (guarded_of_always (fun _ _ => trivial) s is)

/-- Two facts that say the same of every step from the invariant, which the
    steps described keep, say the same of every run. -/
theorem along_iff {inv : σ → Prop} {fact other : σ → ι → ο × σ → Prop}
    (exact : ∀ s i out, inv s → step s i = .ok out → (fact s i out ↔ other s i out))
    (keep : ∀ s i out, inv s → step s i = .ok out → fact s i out → inv out.2)
    {s : σ} (is : List ι) (holds : inv s) :
    Along step fact s is ↔ Along step other s is := by
  induction is generalizing s with
  | nil => exact Iff.rfl
  | cons i rest ih =>
      constructor
      · intro along out served
        rcases along out served with ⟨first, later⟩
        have next := keep s i out holds served first
        exact ⟨(exact s i out holds served).mp first, (ih next).mp later⟩
      · intro along out served
        rcases along out served with ⟨first, later⟩
        have described := (exact s i out holds served).mpr first
        exact ⟨described, (ih (keep s i out holds served described)).mpr later⟩

/-- Where a guard says exactly which steps are served as described, it says so of
    the runs: those that meet it throughout are served whole, as described. -/
theorem guarded_iff_along {inv : σ → Prop} {fact : σ → ι → ο × σ → Prop}
    (exact : ∀ s i, inv s → (good s i ↔ ∃ out, step s i = .ok out ∧ fact s i out))
    (keep : ∀ s i o t, inv s → step s i = .ok (o, t) → inv t)
    {s : σ} (is : List ι) (holds : inv s) :
    Guarded step good s is ↔
      (∃ outs u, run step s is = .ok (outs, u)) ∧ Along step fact s is := by
  induction is generalizing s with
  | nil => exact ⟨fun _ => ⟨⟨[], s, rfl⟩, trivial⟩, fun _ => trivial⟩
  | cons i rest ih =>
      constructor
      · rintro ⟨now, later⟩
        rcases (exact s i holds).mp now with ⟨⟨o, t⟩, first, described⟩
        rcases (ih (keep s i o t holds first)).mp (later o t first) with ⟨⟨outs, u, served⟩, along⟩
        refine ⟨⟨o :: outs, u, by rw [run_cons_of_ok first, served]; rfl⟩, ?_⟩
        intro out again
        rw [first] at again
        cases again
        exact ⟨described, along⟩
      · rintro ⟨⟨outs, u, served⟩, along⟩
        rcases run_cons_ok served with ⟨o, t, os, first, later, -⟩
        rcases along (o, t) first with ⟨described, rest_along⟩
        refine ⟨(exact s i holds).mpr ⟨(o, t), first, described⟩, ?_⟩
        intro o' t' again
        rw [first] at again
        cases again
        exact (ih (keep s i o t holds first)).mpr ⟨⟨os, u, later⟩, rest_along⟩

/-- A guard that is the same as a fact of the steps taken from the invariant, which these
    keep, and that asks nothing where the machine stops, holds along the runs where the
    fact does. -/
theorem along_iff_guarded_of_kept {inv : σ → Prop} {fact : σ → ι → ο × σ → Prop}
    (exact : ∀ s i out, inv s → step s i = .ok out → (fact s i out ↔ good s i))
    (keep : ∀ s i out, inv s → step s i = .ok out → fact s i out → inv out.2)
    (stopped : ∀ s i e, step s i = .error e → good s i) {s : σ} (is : List ι) (holds : inv s) :
    Along step fact s is ↔ Guarded step good s is := by
  induction is generalizing s with
  | nil => exact Iff.rfl
  | cons i rest ih =>
      cases first : step s i with
      | error e => simp [Along, Guarded, first, stopped s i e first]
      | ok out =>
          have here := exact s i out holds first
          constructor
          · intro along
            have now := along out first
            have later := (ih (keep s i out holds first now.1)).mp now.2
            refine ⟨here.mp now.1, ?_⟩
            intro o t again
            rw [first] at again
            cases again
            exact later
          · intro guarded other again
            rw [first] at again
            cases again
            have described := here.mpr guarded.1
            have later := ih (keep s i out holds first described)
            exact ⟨described, later.mpr (guarded.2 out.1 out.2 first)⟩

theorem along_iff_guarded {fact : σ → ι → ο × σ → Prop}
    (exact : ∀ s i out, step s i = .ok out → (fact s i out ↔ good s i))
    (stopped : ∀ s i e, step s i = .error e → good s i) (s : σ) (is : List ι) :
    Along step fact s is ↔ Guarded step good s is :=
  @along_iff_guarded_of_kept _ _ _ _ _ _ (fun _ => True) _ (fun s i out _ => exact s i out)
    (fun _ _ _ _ _ _ => trivial) stopped s is trivial

end Runs

section Observation

variable {σ ι ο ε η : Type}

/-- The same machine with a history beside its state. The history is written
    after each step and never read by it. -/
def observe (note : η → σ → ι → ο × σ → η) (step : σ → ι → Except ε (ο × σ)) :
    η × σ → ι → Except ε (ο × (η × σ)) :=
  fun seen i =>
    match step seen.2 i with
    | .error e => .error e
    | .ok out => .ok (out.1, (note seen.1 seen.2 i out, out.2))

variable {note : η → σ → ι → ο × σ → η} {step : σ → ι → Except ε (ο × σ)}

theorem observe_ok {seen next : η × σ} {i : ι} {o : ο}
    (served : observe note step seen i = .ok (o, next)) :
    step seen.2 i = .ok (o, next.2) ∧ next.1 = note seen.1 seen.2 i (o, next.2) := by
  unfold observe at served
  split at served
  · cases served
  · rename_i out first
    cases served
    exact ⟨first, rfl⟩

theorem observe_of_ok {h : η} {s t : σ} {i : ι} {o : ο} (served : step s i = .ok (o, t)) :
    observe note step (h, s) i = .ok (o, (note h s i (o, t), t)) := by
  simp [observe, served]

theorem observed_of_run {h : η} {s u : σ} {is : List ι} {outs : List ο}
    (served : run step s is = .ok (outs, u)) :
    ∃ last, run (observe note step) (h, s) is = .ok (outs, (last, u)) := by
  induction is generalizing h s outs with
  | nil =>
      cases served
      exact ⟨h, rfl⟩
  | cons i rest ih =>
      obtain ⟨o, t, os, first, later, rfl⟩ := run_cons_ok served
      obtain ⟨last, seen⟩ := ih (h := note h s i (o, t)) later
      refine ⟨last, ?_⟩
      rw [run_cons_of_ok (observe_of_ok first), seen]
      rfl

/-- The progress rule with a guard and an invariant that look at the history. -/
theorem observed_prefixes {inv : η → σ → Prop} {good : η → σ → ι → Prop}
    (move : ∀ h s i, inv h s → good h s i →
      ∃ o t, step s i = .ok (o, t) ∧ inv (note h s i (o, t)) t)
    {h : η} {s : σ} {is : List ι} (holds : inv h s)
    (guarded : Guarded (observe note step) (fun seen i => good seen.1 seen.2 i) (h, s) is) :
    ∀ early, early <+: is → ∃ outs last t,
      run (observe note step) (h, s) early = .ok (outs, (last, t)) ∧ inv last t := by
  have pointwise : ∀ (seen : η × σ) i, inv seen.1 seen.2 → good seen.1 seen.2 i →
      ∃ o next, observe note step seen i = .ok (o, next) ∧ inv next.1 next.2 := by
    rintro ⟨h, s⟩ i holds turn
    rcases move h s i holds turn with ⟨o, t, served, kept⟩
    exact ⟨o, _, observe_of_ok served, kept⟩
  have start : inv (h, s).1 (h, s).2 := holds
  simpa only [Prod.exists] using prefixes_of_guarded pointwise start guarded

theorem observed_guarded {inv : η → σ → Prop} {good : η → σ → ι → Prop}
    {h : η} {s : σ} {is : List ι}
    (exact : ∀ h s i, i ∈ is → inv h s →
      (∃ o t, step s i = .ok (o, t) ∧ inv (note h s i (o, t)) t) → good h s i)
    (holds : inv h s)
    (every : ∀ early, early <+: is → ∃ outs last t,
      run (observe note step) (h, s) early = .ok (outs, (last, t)) ∧ inv last t) :
    Guarded (observe note step) (fun seen i => good seen.1 seen.2 i) (h, s) is := by
  have pointwise : ∀ (seen : η × σ) i, i ∈ is → inv seen.1 seen.2 →
      (∃ o next, observe note step seen i = .ok (o, next) ∧ inv next.1 next.2) →
        good seen.1 seen.2 i := by
    rintro ⟨h, s⟩ i inside holds ⟨o, ⟨after, t⟩, served, kept⟩
    rcases observe_ok served with ⟨first, noted⟩
    exact exact h s i inside holds ⟨o, t, first, noted ▸ kept⟩
  have start : inv (h, s).1 (h, s).2 := holds
  exact guarded_of_prefixes pointwise start (by simpa only [Prod.exists] using every)

/-- The exactness rule for a guard and an invariant that look at the history. -/
theorem observed_iff_prefixes {inv : η → σ → Prop} {good : η → σ → ι → Prop}
    (exact : ∀ h s i, inv h s → (good h s i ↔
      ∃ o t, step s i = .ok (o, t) ∧ inv (note h s i (o, t)) t))
    {h : η} {s : σ} (is : List ι) (holds : inv h s) :
    Guarded (observe note step) (fun seen i => good seen.1 seen.2 i) (h, s) is ↔
      ∀ early, early <+: is → ∃ outs last t,
        run (observe note step) (h, s) early = .ok (outs, (last, t)) ∧ inv last t := by
  constructor
  · exact observed_prefixes (fun h s i kept => (exact h s i kept).mp) holds
  · exact observed_guarded (fun h s i _ kept => (exact h s i kept).mpr) holds

end Observation

end Gramado.Lib.Machine
