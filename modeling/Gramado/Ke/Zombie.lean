/-
What sched.c does when a pass finds a zombie thread. The whole process goes with
it, whichever of its threads has exited, and a thread that waits for the zombie
becomes READY with its wait left in place.
-/
import Gramado.Ke.Thread
import Gramado.Lib.Scan
import Mathlib.Data.List.FinRange
import Mathlib.Tactic.Common

namespace Gramado.Ke.Sched

open Gramado.Lib

def Thread.reuse (t : Thread) : Thread :=
  { t with availableForReuse := true, state := .waitingForReuse, used := true, magic := 4321 }

def Process.reuse (p : Process) : Process :=
  { p with availableForReuse := true, state := .waitingForReuse, used := true, magic := 4321 }

def DisplayServer.unregister (info : DisplayServer) (tid : Tid) : DisplayServer :=
  if info.initialized ∧ tid.toInt32 = info.tid then { info with initialized := false } else info

/-- One turn of the scan of threadList, `tid` and `te` being the zombie's. -/
def onZombieVisit (tid : Tid) (te : Option Nat) (k : Kernel) (ti : Tid) : Kernel :=
  match k.threadList ti with
  | none => k
  | some tmp =>
      if tmp.magic = 1234 ∧ tmp.te ≠ none then
        if tmp.wait4tid = tid.toInt32 then
          let k := k.set ti { tmp with state := .ready }
          if tmp.inputMode = IM_RAW_INPUT ∨ tmp.inputMode = IM_MESSAGE_INPUT then
            setForegroundThread k ti
          else
            k
        else if te ≠ none ∧ tmp.te = te then
          k.set ti tmp.reuse
        else
          k
      else
        k

def onZombieProcess (k : Kernel) (te : Option Nat) : Kernel :=
  match te with
  | none => k
  | some p =>
    { k with teList := fun q => if q = p then (k.teList p).map Process.reuse else k.teList q }

def onZombie (k : Kernel) (tid : Tid) : Except Stop Kernel :=
  match k.threadList tid with
  | none => .ok k
  | some thread =>
      if thread.magic ≠ 1234 then
        .ok k
      else if thread.state ≠ .zombie then
        .ok k
      else if k.initThread = some tid then
        .error (.panic "__on_zombie: Can't kill InitThread\n")
      else
        let k := { k with displayServer := k.displayServer.unregister tid }
        let k := k.set tid thread.reuse
        let k := (List.finRange THREAD_COUNT_MAX).foldl (onZombieVisit tid thread.te) k
        .ok (onZombieProcess k thread.te)

/-- What the scan makes of a thread. -/
def Thread.visited (tid : Tid) (te : Option Nat) (t : Thread) : Thread :=
  if t.magic = 1234 ∧ t.te ≠ none then
    if t.wait4tid = tid.toInt32 then
      { t with state := .ready }
    else if te ≠ none ∧ t.te = te then
      t.reuse
    else
      t
  else
    t

/-- A thread that can be found as a zombie. -/
def Zombie (k : Kernel) (i : Tid) (z : Thread) : Prop :=
  k.threadList i = some z ∧ z.magic = 1234 ∧ z.state = .zombie

section Scan

variable {k k' : Kernel} {tid i j : Tid} {te : Option Nat} {t z : Thread}

@[simp] theorem visited_wait4tid : (t.visited tid te).wait4tid = t.wait4tid := by
  unfold Thread.visited
  split_ifs <;> rfl

@[simp] theorem visited_te : (t.visited tid te).te = t.te := by
  unfold Thread.visited
  split_ifs <;> rfl

@[simp] theorem visited_next : (t.visited tid te).next = t.next := by
  unfold Thread.visited
  split_ifs <;> rfl

theorem visited_of_magic (other : t.magic ≠ 1234) : t.visited tid te = t := by
  rw [Thread.visited, if_neg (fun both => other both.1)]

theorem visit_self :
    (onZombieVisit tid te k i).threadList i = (k.threadList i).map (Thread.visited tid te) := by
  unfold onZombieVisit
  cases there : k.threadList i with
  | none => exact there
  | some t =>
      simp only [Option.map_some, Thread.visited]
      split_ifs
      · rw [setForegroundThread_threadList, set_self]
      · exact set_self
      · exact set_self
      · exact there
      · exact there

theorem visit_other (apart : j ≠ i) :
    (onZombieVisit tid te k i).threadList j = k.threadList j := by
  unfold onZombieVisit
  split
  · rfl
  · split_ifs
    · rw [setForegroundThread_threadList, set_other apart]
    · exact set_other apart
    · exact set_other apart
    · rfl
    · rfl

theorem visit_teList : (onZombieVisit tid te k i).teList = k.teList := by
  unfold onZombieVisit
  split
  · rfl
  · split_ifs
    · exact setForegroundThread_teList
    · rfl
    · rfl
    · rfl
    · rfl

theorem visit_frame : (onZombieVisit tid te k i).frame = k.frame := by
  unfold onZombieVisit
  split
  · rfl
  · split_ifs
    · rw [setForegroundThread_frame, set_frame]
    · rfl
    · rfl
    · rfl
    · rfl

theorem scan_thread :
    ((List.finRange THREAD_COUNT_MAX).foldl (onZombieVisit tid te) k).threadList j =
    (k.threadList j).map (Thread.visited tid te) := by
  have own : ∀ (k : Kernel) i, (onZombieVisit tid te k i).threadList i =
      (k.threadList i).map (Thread.visited tid te) := fun k i => visit_self
  have other : ∀ (k : Kernel) i j, j ≠ i →
      (onZombieVisit tid te k i).threadList j = k.threadList j := fun k i j => visit_other
  have changed := @Scan.foldl_at Kernel Tid (Option Thread) (fun k i => k.threadList i)
    (onZombieVisit tid te) (fun _ => Option.map (Thread.visited tid te)) own other
  exact changed (List.nodup_finRange _) k (List.mem_finRange j)

theorem onZombie_ok (zombie : Zombie k i z) (done : onZombie k i = .ok k') :
    (∀ j, k'.threadList j =
      if j = i then some z.reuse else (k.threadList j).map (Thread.visited i z.te)) ∧
    ∀ q, k'.teList q =
      if z.te = some q then (k.teList q).map Process.reuse else k.teList q := by
  rcases zombie with ⟨there, magic, state⟩
  unfold onZombie at done
  rw [there] at done
  simp only [magic, state, ne_eq, not_true_eq_false, if_false] at done
  split_ifs at done with init
  injection done with done
  subst done
  have process : ∀ (k : Kernel) te, (onZombieProcess k te).threadList = k.threadList := by
    intro k te
    cases te <;> rfl
  constructor
  · intro j
    rw [process, scan_thread]
    split
    · next same =>
        rw [same, set_self, Option.map_some, visited_of_magic (by simp [Thread.reuse])]
    · next apart => rw [set_other apart]
  · intro q
    have pass : ∀ k : Kernel, ((List.finRange THREAD_COUNT_MAX).foldl
        (onZombieVisit i z.te) k).teList = k.teList := by
      intro k
      have same : ∀ (k : Kernel) j, (onZombieVisit i z.te k j).teList = k.teList :=
        fun k j => visit_teList
      exact @Scan.foldl_keeps Kernel Tid _ Kernel.teList _ same _ k
    cases te : z.te with
    | none => rw [te] at pass; simp only [onZombieProcess, pass]; rfl
    | some p =>
        rw [te] at pass
        simp only [onZombieProcess, pass, Option.some_inj]
        split
        · next same => rw [if_pos same.symm, same]; rfl
        · next apart => rw [if_neg (Ne.symm apart)]; rfl

theorem onZombie_frame (done : onZombie k i = .ok k') : k'.frame = k.frame := by
  have pass := @Scan.foldl_keeps Kernel Tid _ Kernel.frame
  have process : ∀ (k : Kernel) te, (onZombieProcess k te).frame = k.frame := by
    intro k te
    cases te <;> rfl
  unfold onZombie at done
  split at done
  · cases done
    rfl
  · split_ifs at done
    · cases done
      rfl
    · cases done
      rfl
    · injection done with done
      rw [← done, process, pass fun k j => visit_frame]
      rfl

theorem onZombie_returns (other : k.initThread ≠ some i) : ∃ k', onZombie k i = .ok k' := by
  unfold onZombie
  split
  · exact ⟨_, rfl⟩
  · split_ifs
    · exact ⟨_, rfl⟩
    · exact ⟨_, rfl⟩
    · exact ⟨_, rfl⟩

end Scan

/-- Both threads belong to one process. -/
def SameProcess (k : Kernel) (i j : Tid) : Prop :=
  ∃ t u p, k.threadList i = some t ∧ k.threadList j = some u ∧ t.te = some p ∧ u.te = some p

def Waiting (k : Kernel) (j : Tid) (t : Thread) (d : Tid) : Prop :=
  k.threadList j = some t ∧ t.magic = 1234 ∧ t.wait4tid = d.toInt32

/-- A thread that the clean-up has taken out of use. -/
def Died (k k' : Kernel) (d : Tid) : Prop :=
  ∃ t t', k.threadList d = some t ∧ k'.threadList d = some t' ∧ t.magic = 1234 ∧ t'.magic ≠ 1234

def Thread.ended (t : Thread) : Prop :=
  t.magic ≠ 1234 ∨ t.state = .zombie ∨ t.state = .dead ∨ t.state = .waitingForReuse

/-- The control thread of the process, or every thread of it, has ended. -/
def ProcessEnded (k : Kernel) (p : Nat) (process : Process) : Prop :=
  (∃ c t, process.flower = some c ∧ k.threadList c = some t ∧ t.ended) ∨
    ∀ j t, k.threadList j = some t → t.te = some p → t.ended

/-- What the clean-up of the zombie `i`, which leads from `k` to `k'`, keeps to. -/
structure Isolated (k : Kernel) (i : Tid) (z : Thread) (k' : Kernel) : Prop where
  marked : ∀ j, Died k k' j → j = i ∨ SameProcess k i j
  threads : ∀ j, j ≠ i → ¬SameProcess k i j →
    (∀ t d, Died k k' d → ¬Waiting k j t d) → k'.threadList j = k.threadList j
  processes : ∀ p, z.te ≠ some p → k'.teList p = k.teList p
  woken : ∀ j t t' d, Died k k' d → Waiting k j t d → k'.threadList j = some t' →
    t'.magic = 1234 → t'.state = .ready ∧ t'.wait4tid ≠ d.toInt32
  process : ∀ p process, z.te = some p → k.teList p = some process →
    k'.teList p ≠ some process → ProcessEnded k p process

/-- No thread waits for the zombie, and no thread of another process for one that
    goes with it. -/
def Unwaited (k : Kernel) (i : Tid) : Prop :=
  ∀ j t d, j ≠ i → Waiting k j t d →
    d ≠ i ∧ ((∃ u, k.threadList d = some u ∧ u.magic = 1234) → SameProcess k i d →
      SameProcess k i j)

/-- The process of the zombie has ended, or is marked for reuse already. -/
def ProcessGone (k : Kernel) (z : Thread) : Prop :=
  ∀ p process, z.te = some p → k.teList p = some process →
    process.reuse = process ∨ ProcessEnded k p process

section Cleaning

variable {k k' : Kernel} {i j d : Tid} {te : Option Nat} {t z : Thread}

theorem sameProcess_iff (zombie : Zombie k i z) (there : k.threadList j = some t) :
    SameProcess k i j ↔ z.te ≠ none ∧ t.te = z.te := by
  constructor
  · rintro ⟨z', t', p, own, found, first, second⟩
    rw [zombie.1] at own
    rw [there] at found
    cases own
    cases found
    rw [first, second]
    exact ⟨by simp, rfl⟩
  · rintro ⟨some_te, same⟩
    rcases Option.ne_none_iff_exists'.mp some_te with ⟨p, te⟩
    exact ⟨z, t, p, zombie.1, there, te, same.trans te⟩

/-- The scan takes the threads of the zombie's process that do not wait for it. -/
theorem visited_magic_iff (magic : t.magic = 1234) :
    (t.visited i te).magic ≠ 1234 ↔ t.wait4tid ≠ i.toInt32 ∧ te ≠ none ∧ t.te = te := by
  unfold Thread.visited
  constructor
  · intro taken
    split_ifs at taken with live waits same
    · exact absurd magic taken
    · exact ⟨waits, same⟩
    · exact absurd magic taken
    · exact absurd magic taken
  · rintro ⟨waits, there, rfl⟩
    rw [if_pos ⟨magic, there⟩, if_neg waits, if_pos ⟨there, rfl⟩]
    simp [Thread.reuse]

theorem zombie_died (zombie : Zombie k i z) (done : onZombie k i = .ok k') : Died k k' i := by
  have after := (onZombie_ok zombie done).1 i
  rw [if_pos rfl] at after
  exact ⟨z, z.reuse, zombie.1, after, zombie.2.1, by simp [Thread.reuse]⟩

theorem cleaned_thread (zombie : Zombie k i z) (done : onZombie k i = .ok k') (apart : j ≠ i) :
    k'.threadList j = (k.threadList j).map (Thread.visited i z.te) := by
  rw [(onZombie_ok zombie done).1, if_neg apart]

theorem died_iff (zombie : Zombie k i z) (done : onZombie k i = .ok k') (apart : j ≠ i)
    (there : k.threadList j = some t) (magic : t.magic = 1234) :
    Died k k' j ↔ t.wait4tid ≠ i.toInt32 ∧ SameProcess k i j := by
  have after := cleaned_thread zombie done apart
  rw [there, Option.map_some] at after
  rw [sameProcess_iff zombie there, ← visited_magic_iff magic]
  constructor
  · rintro ⟨u, u', before, later, -, dead⟩
    rw [after] at later
    cases later
    exact dead
  · intro dead
    exact ⟨t, _, there, after, magic, dead⟩

theorem died_sameProcess (zombie : Zombie k i z) (done : onZombie k i = .ok k')
    (died : Died k k' j) : j = i ∨ SameProcess k i j := by
  by_cases same : j = i
  · exact Or.inl same
  · rcases died with ⟨t, t', before, after, magic, dead⟩
    have died : Died k k' j := ⟨t, t', before, after, magic, dead⟩
    exact Or.inr ((died_iff zombie done same before magic).mp died).2

theorem unwaited_of_isolated (zombie : Zombie k i z) (done : onZombie k i = .ok k')
    (isolated : Isolated k i z k') : Unwaited k i := by
  -- A thread that survives keeps its wait, so that nothing that it waited for has died.
  have kept : ∀ j t d, j ≠ i → Waiting k j t d → Died k k' d → (t.visited i z.te).magic ≠ 1234 := by
    intro j t d apart waits died survives
    have after := cleaned_thread zombie done apart
    rw [waits.1, Option.map_some] at after
    have cleared := (isolated.woken j t _ d died waits after survives).2
    rw [visited_wait4tid] at cleared
    exact cleared waits.2.2
  intro j t d apart waits
  have other : d ≠ i := by
    rintro rfl
    have taken := kept j t d apart waits (zombie_died zombie done)
    exact ((visited_magic_iff waits.2.1).mp taken).1 waits.2.2
  refine ⟨other, ?_⟩
  rintro ⟨u, there, magic⟩ same
  by_cases wakes : u.wait4tid = i.toInt32
  · -- Such a thread waits for the zombie itself.
    have taken := kept d u i other ⟨there, magic, wakes⟩ (zombie_died zombie done)
    exact absurd wakes ((visited_magic_iff magic).mp taken).1
  · have died := (died_iff zombie done other there magic).mpr ⟨wakes, same⟩
    have taken := (visited_magic_iff waits.2.1).mp (kept j t d apart waits died)
    exact (sameProcess_iff zombie waits.1).mpr taken.2

theorem gone_of_isolated (zombie : Zombie k i z) (done : onZombie k i = .ok k')
    (isolated : Isolated k i z k') : ProcessGone k z := by
  intro p process te there
  by_cases marked : process.reuse = process
  · exact Or.inl marked
  · right
    apply isolated.process p process te there
    rw [(onZombie_ok zombie done).2, if_pos te, there, Option.map_some]
    intro same
    exact marked (Option.some.inj same)

theorem threads_kept (zombie : Zombie k i z) (done : onZombie k i = .ok k') (apart : j ≠ i)
    (other : ¬SameProcess k i j) (unwaited : ∀ t d, Died k k' d → ¬Waiting k j t d) :
    k'.threadList j = k.threadList j := by
  rw [cleaned_thread zombie done apart]
  cases there : k.threadList j with
  | none => rfl
  | some t =>
      rw [Option.map_some, Thread.visited]
      split_ifs with live waits same
      · exact absurd ⟨there, live.1, waits⟩ (unwaited t i (zombie_died zombie done))
      · exact absurd ((sameProcess_iff zombie there).mpr same) other
      · rfl
      · rfl

theorem isolated_of_unwaited (zombie : Zombie k i z) (done : onZombie k i = .ok k')
    (unwaited : Unwaited k i) (gone : ProcessGone k z) : Isolated k i z k' where
  marked := fun j => died_sameProcess zombie done
  threads := fun j => threads_kept zombie done
  processes := by
    intro p other
    rw [(onZombie_ok zombie done).2, if_neg other]
  woken := by
    intro j t t' d died waits after survives
    by_cases same : j = i
    · subst same
      rcases zombie_died zombie done with ⟨u, u', -, later, -, dead⟩
      rw [after] at later
      cases later
      exact absurd survives dead
    · rcases unwaited j t d same waits with ⟨other, inside⟩
      rcases died_sameProcess zombie done died with itself | shared
      · exact absurd itself other
      · rcases died with ⟨u, -, there, -, magic, -⟩
        -- The waiting thread is in the process too, and has gone with it.
        have wakes : t.wait4tid ≠ i.toInt32 := fun both =>
          (unwaited j t i same ⟨waits.1, waits.2.1, both⟩).1 rfl
        have taken := (died_iff zombie done same waits.1 waits.2.1).mpr
          ⟨wakes, inside ⟨u, there, magic⟩ shared⟩
        rcases taken with ⟨v, v', -, later, -, dead⟩
        rw [after] at later
        cases later
        exact absurd survives dead
  process := by
    intro p process te there changed
    rcases gone p process te there with marked | ended
    · rw [(onZombie_ok zombie done).2, if_pos te, there, Option.map_some, marked] at changed
      exact absurd rfl changed
    · exact ended

theorem zombie_isolated_iff (zombie : Zombie k i z) (done : onZombie k i = .ok k') :
    Isolated k i z k' ↔ Unwaited k i ∧ ProcessGone k z := by
  constructor
  · intro isolated
    exact ⟨unwaited_of_isolated zombie done isolated, gone_of_isolated zombie done isolated⟩
  · rintro ⟨unwaited, gone⟩
    exact isolated_of_unwaited zombie done unwaited gone

end Cleaning

/-- The thread 2 has exited, and the control thread 1 of its process goes on. -/
def exited : Thread :=
  { (default : Thread) with used := true, magic := 1234, te := some 1, state := .zombie }

def control : Thread :=
  { (default : Thread) with used := true, magic := 1234, te := some 1, state := .ready }

def owner : Process :=
  { (default : Process) with used := true, magic := 1234, pid := 1, flower := some 1 }

def twoThreads : Kernel :=
  { (default : Kernel) with
    threadList := fun i => if i = 1 then some control else if i = 2 then some exited else none
    teList := fun p => if p = 1 then some owner else none }

theorem second_thread_takes_process :
    ∃ k', onZombie twoThreads 2 = .ok k' ∧ Zombie twoThreads 2 exited ∧
      ¬Isolated twoThreads 2 exited k' := by
  refine ⟨_, rfl, ⟨rfl, rfl, rfl⟩, ?_⟩
  intro isolated
  have gone := gone_of_isolated ⟨rfl, rfl, rfl⟩ rfl isolated 1 owner rfl rfl
  rcases gone with marked | ⟨c, t, flower, there, ended⟩ | all
  · exact absurd marked (by decide)
  · cases flower
    cases there
    simp [Thread.ended, control] at ended
  · have ended := all 1 control rfl rfl
    simp [Thread.ended, control] at ended

/-- The control thread has gone before. -/
def lastThread : Kernel :=
  { twoThreads with threadList := fun i => if i = 2 then some exited else none }

theorem last_thread_isolated :
    ∃ k', onZombie lastThread 2 = .ok k' ∧ Isolated lastThread 2 exited k' := by
  refine ⟨_, rfl, (zombie_isolated_iff ⟨rfl, rfl, rfl⟩ rfl).mpr ⟨?_, ?_⟩⟩
  · intro j t d apart waits
    have absent : lastThread.threadList j = none := if_neg apart
    rw [waits.1] at absent
    cases absent
  · intro p process te there
    right
    right
    intro j t found same
    by_cases last : j = 2
    · subst last
      cases found
      exact Or.inr (Or.inl rfl)
    · have absent : lastThread.threadList j = none := if_neg last
      rw [found] at absent
      cases absent

end Gramado.Ke.Sched
