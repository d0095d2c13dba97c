/-
A round of the round-robin scheduler, turn by turn: what each turn does to the
tables, and how the list grows. A zombie that a turn cleans takes threads along
whose turn is over, or still to come, and wakes others.
-/
import Gramado.Ke.Queue
import Gramado.Ke.Sched

namespace Gramado.Ke.Sched

open Gramado.Lib
open Gramado.Lib.Links

/-- What no turn changes of a thread. -/
def Thread.identity (t : Thread) : Bool × Int32 × Option Nat × Int32 × Option Tid :=
  (t.used, t.magic, t.te, t.wait4tid, t.next)

section Attending

variable {t u : Thread} {b : Bool} {jiffies : UInt64}

theorem doReady_identity : (t.doReady jiffies).identity = t.identity := by
  unfold Thread.doReady
  split <;> rfl

theorem doBlocked_identity : (t.doBlocked jiffies).identity = t.identity := by
  unfold Thread.doBlocked
  split <;> rfl

theorem deliver_identity : (t.deliver jiffies).identity = t.identity := by
  unfold Thread.deliver
  split
  · exact doReady_identity
  · rfl

theorem checkAlarm_identity : (t.checkAlarm jiffies).identity = t.identity := by
  unfold Thread.checkAlarm
  split <;> rfl

theorem checkSleep_identity : (t.checkSleep jiffies).identity = t.identity := by
  unfold Thread.checkSleep
  split
  · exact doReady_identity
  · rfl

theorem schedule_identity : t.schedule.identity = t.identity := by
  simp only [Thread.schedule]
  split <;> rfl

theorem pick_identity : (t.pick jiffies).2.identity = t.identity := by
  have checked : ((t.checkAlarm jiffies).checkSleep jiffies).identity = t.identity :=
    checkSleep_identity.trans checkAlarm_identity
  simp only [Thread.pick]
  split
  · exact checked
  · split
    · exact schedule_identity.trans checked
    · exact checked

theorem startWait_identity : t.startWait.identity = t.identity := by
  unfold Thread.startWait
  split <;> rfl

theorem proceed_identity : (t.proceed b jiffies).2.identity = t.identity := by
  unfold Thread.proceed
  split
  · exact (doBlocked_identity : (t.doBlocked jiffies).identity = _)
  · split
    · rfl
    · exact pick_identity

theorem attend_identity : (t.attend b jiffies).2.identity = t.identity := by
  unfold Thread.attend
  split
  · split
    · exact deliver_identity
    · exact proceed_identity.trans startWait_identity
  · exact pick_identity

theorem identity_magic (same : t.identity = u.identity) : t.magic = u.magic :=
  congrArg (fun i => i.2.1) same

theorem identity_te (same : t.identity = u.identity) : t.te = u.te :=
  congrArg (fun i => i.2.2.1) same

theorem identity_wait4tid (same : t.identity = u.identity) : t.wait4tid = u.wait4tid :=
  congrArg (fun i => i.2.2.2.1) same

theorem identity_next (same : t.identity = u.identity) : t.next = u.next :=
  congrArg (fun i => i.2.2.2.2) same

theorem identity_valid (same : t.identity = u.identity) : t.valid = u.valid := by
  have used : t.used = u.used := congrArg Prod.fst same
  rw [Thread.valid, Thread.valid, used, identity_magic same]

theorem doReady_state (valid : t.valid) : (t.doReady jiffies).state = .ready := by
  rw [Thread.doReady, if_pos valid]

theorem checkAlarm_state : (t.checkAlarm jiffies).state = t.state := by
  unfold Thread.checkAlarm
  split <;> rfl

theorem schedule_state : t.schedule.state = t.state := by
  simp only [Thread.schedule]
  split <;> rfl

/-- A thread that wakes up is ready, and any other is in the state it was in. -/
theorem checkSleep_state (valid : t.valid) :
    (t.checkSleep jiffies).state = .ready ∨ (t.checkSleep jiffies).state = t.state := by
  unfold Thread.checkSleep
  split
  · exact Or.inl (doReady_state valid)
  · exact Or.inr rfl

theorem pick_cases :
    ((t.pick jiffies).1 = .cleaned ∧ (t.pick jiffies).2.state = .zombie ∧ t.valid ∧
      t.state = .zombie) ∨
    ((t.pick jiffies).1 = .linked ∧ (t.pick jiffies).2.state = .ready ∧ t.valid) ∨
    ((t.pick jiffies).1 = .passed ∧ (t.valid → (t.pick jiffies).2.state ≠ .ready)) := by
  have same : ((t.checkAlarm jiffies).checkSleep jiffies).valid = t.valid :=
    identity_valid (checkSleep_identity.trans checkAlarm_identity)
  simp only [Thread.pick]
  rw [same]
  split_ifs with zombie ready
  · refine Or.inl ⟨rfl, zombie.2, zombie.1, ?_⟩
    have valid : (t.checkAlarm jiffies).valid := by
      rw [identity_valid checkAlarm_identity]
      exact zombie.1
    rcases checkSleep_state valid with woken | kept
    · rw [woken] at zombie
      cases zombie.2
    · rw [kept, checkAlarm_state] at zombie
      exact zombie.2
  · refine Or.inr (Or.inl ⟨rfl, ?_, ready.1⟩)
    exact schedule_state.trans ready.2
  · exact Or.inr (Or.inr ⟨rfl, fun valid isReady => ready ⟨valid, isReady⟩⟩)

theorem proceed_cases :
    ((t.proceed b jiffies).1 = .cleaned ∧ (t.proceed b jiffies).2.state = .zombie ∧ t.valid ∧
      t.state = .zombie) ∨
    ((t.proceed b jiffies).1 = .linked ∧ (t.proceed b jiffies).2.state = .ready ∧ t.valid) ∨
    ((t.proceed b jiffies).1 ≠ .cleaned ∧ (t.proceed b jiffies).1 ≠ .linked ∧
      (t.valid → (t.proceed b jiffies).2.state ≠ .ready)) := by
  unfold Thread.proceed
  split_ifs
  · refine Or.inr (Or.inr ⟨by simp, by simp, ?_⟩)
    intro valid
    simp [Thread.block, Thread.doBlocked, valid]
  · exact Or.inr (Or.inr ⟨by simp, by simp, fun _ => by simp [Thread.exit]⟩)
  · rcases @pick_cases t jiffies with cleaned | linked | ⟨passed, waits⟩
    · exact Or.inl cleaned
    · exact Or.inr (Or.inl linked)
    · rw [passed]
      exact Or.inr (Or.inr ⟨by simp, by simp, waits⟩)

theorem attend_cases :
    ((t.attend b jiffies).1 = .cleaned ∧ (t.attend b jiffies).2.state = .zombie ∧ t.valid ∧
      t.state = .zombie) ∨
    ((t.attend b jiffies).1 = .linked ∧ (t.attend b jiffies).2.state = .ready ∧ t.valid) ∨
    ((t.attend b jiffies).1 ≠ .cleaned ∧ (t.attend b jiffies).1 ≠ .linked ∧
      (t.valid → (t.attend b jiffies).2.state = .ready → t.hasEventFromDs)) := by
  unfold Thread.attend
  split_ifs with magic event
  · exact Or.inr (Or.inr ⟨by simp, by simp, fun _ _ => event⟩)
  · have same : t.startWait.valid = t.valid := identity_valid startWait_identity
    rcases @proceed_cases t.startWait b jiffies with
      ⟨cleaned, still, valid, zombie⟩ | ⟨linked, ready, valid⟩ | ⟨kept, out, waits⟩
    · refine Or.inl ⟨cleaned, still, same ▸ valid, ?_⟩
      unfold Thread.startWait at zombie
      split at zombie
      · cases zombie
      · exact zombie
    · exact Or.inr (Or.inl ⟨linked, ready, same ▸ valid⟩)
    · exact Or.inr (Or.inr ⟨kept, out, fun valid ready => absurd ready (waits (same ▸ valid))⟩)
  · rcases @pick_cases t jiffies with cleaned | linked | ⟨passed, waits⟩
    · exact Or.inl cleaned
    · exact Or.inr (Or.inl linked)
    · rw [passed]
      exact Or.inr (Or.inr ⟨by simp, by simp, fun valid ready => absurd ready (waits valid)⟩)

end Attending

def Kernel.teOf (k : Kernel) (c : Tid) : Option Nat :=
  (k.threadList c).bind Thread.te

/-- The clean-up of the zombie `c` wakes the thread or takes it along. -/
def Touches (k : Kernel) (c : Tid) (t : Thread) : Prop :=
  t.te ≠ none ∧ (t.wait4tid = c.toInt32 ∨ t.te = k.teOf c)

/-- The zombies that a round cleans: those that are zombies when their turn comes,
    and that the clean-up of none before them has woken or taken along. -/
def Cleaned (k : Kernel) (i : Tid) : Prop :=
  i ≠ INIT_TID ∧ ∃ t, k.threadList i = some t ∧ (t.attend false k.jiffies).1 = .cleaned ∧
    ∀ c, c < i → Cleaned k c → ¬Touches k c t
termination_by i.val

open Classical in
/-- What the clean-up of some zombies makes of a thread. -/
noncomputable def Thread.after (k : Kernel) (zombies : Tid → Prop) (t : Thread) : Thread :=
  if t.magic = 1234 ∧ t.te ≠ none then
    if ∃ c, zombies c ∧ t.te = k.teOf c ∧ t.wait4tid ≠ c.toInt32 then
      t.reuse
    else if ∃ c, zombies c ∧ t.wait4tid = c.toInt32 then
      { t with state := .ready }
    else
      t
  else
    t

/-- The thread when its turn comes. -/
noncomputable def Thread.atTurn (k : Kernel) (j : Tid) (t : Thread) : Thread :=
  t.after k fun c => c < j ∧ Cleaned k c

section Zombies

variable {k : Kernel} {zombies more : Tid → Prop} {t : Thread} {c i j : Tid}

theorem after_congr (same : ∀ c, zombies c ↔ more c) : t.after k zombies = t.after k more := by
  have equal : zombies = more := funext fun c => propext (same c)
  rw [equal]

theorem after_none (none : ∀ c, ¬zombies c) : t.after k zombies = t := by
  unfold Thread.after
  split_ifs with live takes wakes
  · rcases takes with ⟨c, holds, -⟩
    exact absurd holds (none c)
  · rcases wakes with ⟨c, holds, -⟩
    exact absurd holds (none c)
  · rfl
  · rfl

theorem after_cases :
    (t.after k zombies = t.reuse ∧ (t.magic = 1234 ∧ t.te ≠ none) ∧
      ∃ c, zombies c ∧ t.te = k.teOf c ∧ t.wait4tid ≠ c.toInt32) ∨
    (t.after k zombies = { t with state := .ready } ∧ (t.magic = 1234 ∧ t.te ≠ none) ∧
      (¬∃ c, zombies c ∧ t.te = k.teOf c ∧ t.wait4tid ≠ c.toInt32) ∧
      ∃ c, zombies c ∧ t.wait4tid = c.toInt32) ∨
    (t.after k zombies = t ∧ (t.magic = 1234 ∧ t.te ≠ none →
      (¬∃ c, zombies c ∧ t.te = k.teOf c ∧ t.wait4tid ≠ c.toInt32) ∧
      ¬∃ c, zombies c ∧ t.wait4tid = c.toInt32)) := by
  unfold Thread.after
  split_ifs with live takes wakes
  · exact Or.inl ⟨rfl, live, takes⟩
  · exact Or.inr (Or.inl ⟨rfl, live, takes, wakes⟩)
  · exact Or.inr (Or.inr ⟨rfl, fun _ => ⟨takes, wakes⟩⟩)
  · exact Or.inr (Or.inr ⟨rfl, fun holds => absurd holds live⟩)

theorem after_visited : (t.after k zombies).visited i (k.teOf i) =
    t.after k fun c => zombies c ∨ c = i := by
  by_cases live : t.magic = 1234 ∧ t.te ≠ none
  · by_cases takes : ∃ c, zombies c ∧ t.te = k.teOf c ∧ t.wait4tid ≠ c.toInt32
    · have taken : ∃ c, (zombies c ∨ c = i) ∧ t.te = k.teOf c ∧ t.wait4tid ≠ c.toInt32 := by
        rcases takes with ⟨c, holds, how⟩
        exact ⟨c, Or.inl holds, how⟩
      rw [Thread.after, Thread.after, if_pos live, if_pos takes, if_pos live, if_pos taken]
      exact visited_of_magic (by simp [Thread.reuse])
    · -- The state that an earlier zombie has set is overwritten or set again.
      have split : ∃ u, t.after k zombies = u ∧
          (((∃ c, zombies c ∧ t.wait4tid = c.toInt32) ∧ u = { t with state := .ready }) ∨
            (¬∃ c, zombies c ∧ t.wait4tid = c.toInt32) ∧ u = t) := by
        rcases @after_cases k zombies t with ⟨-, -, taken⟩ | ⟨same, -, -, wakes⟩ | ⟨same, spared⟩
        · exact absurd taken takes
        · exact ⟨_, same, Or.inl ⟨wakes, rfl⟩⟩
        · exact ⟨t, same, Or.inr ⟨(spared live).2, rfl⟩⟩
      rcases split with ⟨u, before, kept⟩
      have visible : u.magic = 1234 ∧ u.te ≠ none := by
        rcases kept with ⟨-, rfl⟩ | ⟨-, rfl⟩ <;> exact live
      have te : u.te = t.te := by
        rcases kept with ⟨-, rfl⟩ | ⟨-, rfl⟩ <;> rfl
      have wait : u.wait4tid = t.wait4tid := by
        rcases kept with ⟨-, rfl⟩ | ⟨-, rfl⟩ <;> rfl
      rw [before, Thread.visited, if_pos visible, te, wait]
      by_cases waits : t.wait4tid = i.toInt32
      · have spared : ¬∃ c, (zombies c ∨ c = i) ∧ t.te = k.teOf c ∧ t.wait4tid ≠ c.toInt32 := by
          rintro ⟨c, holds | rfl, te, other⟩
          · exact takes ⟨c, holds, te, other⟩
          · exact other waits
        have wakes : ∃ c, (zombies c ∨ c = i) ∧ t.wait4tid = c.toInt32 := ⟨i, Or.inr rfl, waits⟩
        rw [Thread.after, if_pos live, if_neg spared, if_pos wakes, if_pos waits]
        rcases kept with ⟨-, rfl⟩ | ⟨-, rfl⟩ <;> rfl
      · rw [if_neg waits]
        by_cases shares : t.te = k.teOf i
        · have taken : ∃ c, (zombies c ∨ c = i) ∧ t.te = k.teOf c ∧ t.wait4tid ≠ c.toInt32 :=
            ⟨i, Or.inr rfl, shares, waits⟩
          have there : k.teOf i ≠ none := shares ▸ live.2
          rw [Thread.after, if_pos live, if_pos taken, if_pos ⟨there, shares⟩]
          rcases kept with ⟨-, rfl⟩ | ⟨-, rfl⟩ <;> rfl
        · have spared : ¬∃ c, (zombies c ∨ c = i) ∧ t.te = k.teOf c ∧ t.wait4tid ≠ c.toInt32 := by
            rintro ⟨c, holds | rfl, te, other⟩
            · exact takes ⟨c, holds, te, other⟩
            · exact shares te
          rw [if_neg (fun both => shares both.2), Thread.after, if_pos live, if_neg spared]
          rcases kept with ⟨⟨c, holds, same⟩, rfl⟩ | ⟨sleeps, rfl⟩
          · have wakes : ∃ c, (zombies c ∨ c = i) ∧ t.wait4tid = c.toInt32 :=
              ⟨c, Or.inl holds, same⟩
            rw [if_pos wakes]
          · have asleep : ¬∃ c, (zombies c ∨ c = i) ∧ u.wait4tid = c.toInt32 := by
              rintro ⟨c, holds | rfl, same⟩
              · exact sleeps ⟨c, holds, same⟩
              · exact waits same
            rw [if_neg asleep]
  · rw [Thread.after, Thread.after, if_neg live, if_neg live, Thread.visited, if_neg live]

theorem atTurn_of_untouched (free : ∀ c, c < i → Cleaned k c → ¬Touches k c t) :
    t.atTurn k i = t := by
  rcases @after_cases k (fun c => c < i ∧ Cleaned k c) t with
    ⟨-, live, c, ⟨before, cleaned⟩, te, -⟩ | ⟨-, live, -, c, ⟨before, cleaned⟩, wait⟩ | ⟨same, -⟩
  · exact absurd ⟨live.2, Or.inr te⟩ (free c before cleaned)
  · exact absurd ⟨live.2, Or.inl wait⟩ (free c before cleaned)
  · exact same

/-- A thread that an earlier zombie has touched is no zombie when its turn comes. -/
theorem untouched_of_zombie (valid : (t.atTurn k i).valid) (zombie : (t.atTurn k i).state = .zombie)
    (before : c < i) (cleaned : Cleaned k c) : ¬Touches k c t := by
  rintro ⟨te, how⟩
  rcases @after_cases k (fun c => c < i ∧ Cleaned k c) t with
    ⟨same, -⟩ | ⟨same, -⟩ | ⟨same, spared⟩
  · rw [Thread.atTurn, same] at zombie
    cases zombie
  · rw [Thread.atTurn, same] at zombie
    cases zombie
  · rw [Thread.atTurn, same, Thread.valid, Bool.and_eq_true, decide_eq_true_eq] at valid
    rcases spared ⟨valid.2, te⟩ with ⟨takes, wakes⟩
    by_cases wait : t.wait4tid = c.toInt32
    · exact wakes ⟨c, ⟨before, cleaned⟩, wait⟩
    · rcases how with wait' | shares
      · exact wait wait'
      · exact takes ⟨c, ⟨before, cleaned⟩, shares, wait⟩

theorem cleaned_iff (there : k.threadList i = some t) :
    Cleaned k i ↔ i ≠ INIT_TID ∧ ((t.atTurn k i).attend false k.jiffies).1 = .cleaned := by
  rw [Cleaned]
  constructor
  · rintro ⟨other, u, found, cleaned, free⟩
    rw [there] at found
    cases found
    rw [atTurn_of_untouched free]
    exact ⟨other, cleaned⟩
  · rintro ⟨other, cleaned⟩
    have found : (t.atTurn k i).valid ∧ (t.atTurn k i).state = .zombie := by
      rcases @attend_cases (t.atTurn k i) false k.jiffies with found | linked | kept
      · exact found.2.2
      · rw [cleaned] at linked
        cases linked.1
      · exact absurd cleaned kept.1
    have free : ∀ c, c < i → Cleaned k c → ¬Touches k c t := fun c before holds =>
      untouched_of_zombie found.1 found.2 before holds
    rw [atTurn_of_untouched free] at cleaned
    exact ⟨other, t, there, cleaned, free⟩

theorem not_cleaned_of_none (there : k.threadList i = none) : ¬Cleaned k i := by
  rw [Cleaned]
  rintro ⟨-, t, found, -⟩
  rw [there] at found
  cases found

end Zombies

/-- The thread as its own turn leaves it. -/
noncomputable def turned (k : Kernel) (j : Tid) (t : Thread) : Thread :=
  if j = INIT_TID then
    t.asIdle k.jiffies
  else
    let out := (t.atTurn k j).attend false k.jiffies
    if out.1 = .cleaned then out.2.reuse else out.2

/-- The thread when `n` turns are over, its own among them. -/
noncomputable def settled (k : Kernel) (n : Nat) (j : Tid) (t : Thread) : Thread :=
  (turned k j t).after k fun c => j < c ∧ c.val < n ∧ Cleaned k c

/-- A thread without what the list itself is made of. -/
def Thread.outline (t : Thread) : Thread :=
  { t with next := none, quantum := 0 }

/-- The tables when `n` turns are over, the round having found `before`. -/
structure Tables (before : Kernel) (n : Nat) (k : Kernel) : Prop where
  jiffies : k.jiffies = before.jiffies
  initThread : k.initThread = some INIT_TID
  later : ∀ j, n ≤ j.val → k.threadList j =
    (before.threadList j).map (Thread.after before fun c => c.val < n ∧ Cleaned before c)
  earlier : ∀ j, j.val < n → (k.threadList j).map Thread.outline =
    (before.threadList j).map fun t => (settled before n j t).outline
  kept : ∀ p, (∀ c, c.val < n → Cleaned before c → before.teOf c ≠ some p) →
    k.teList p = before.teList p
  gone : ∀ c p process, c.val < n → Cleaned before c → before.teOf c = some p →
    k.teList p = some process → process.magic ≠ 1234

section Tables

variable {before k k' : Kernel} {n : Nat} {i j : Tid} {t u : Thread} {tid : Tid} {te : Option Nat}

theorem outline_visited : (t.visited tid te).outline = t.outline.visited tid te := by
  unfold Thread.visited
  by_cases live : t.magic = 1234 ∧ t.te ≠ none
  · rw [if_pos live, if_pos (show t.outline.magic = 1234 ∧ t.outline.te ≠ none from live)]
    by_cases waits : t.wait4tid = tid.toInt32
    · rw [if_pos waits, if_pos (show t.outline.wait4tid = tid.toInt32 from waits)]
      rfl
    · rw [if_neg waits, if_neg (show t.outline.wait4tid ≠ tid.toInt32 from waits)]
      by_cases shares : te ≠ none ∧ t.te = te
      · rw [if_pos shares, if_pos (show te ≠ none ∧ t.outline.te = te from shares)]
        rfl
      · rw [if_neg shares, if_neg (show ¬(te ≠ none ∧ t.outline.te = te) from shares)]
  · rw [if_neg live, if_neg (show ¬(t.outline.magic = 1234 ∧ t.outline.te ≠ none) from live)]

theorem turned_of_kept (other : j ≠ INIT_TID) (there : before.threadList j = some t)
    (kept : ¬Cleaned before j) :
    turned before j t = ((t.atTurn before j).attend false before.jiffies).2 := by
  have spared : ((t.atTurn before j).attend false before.jiffies).1 ≠ .cleaned := fun cleaned =>
    kept ((cleaned_iff there).mpr ⟨other, cleaned⟩)
  simp only [turned]
  rw [if_neg other, if_neg spared]

theorem settled_self (last : n ≤ j.val + 1) : settled before n j t = turned before j t := by
  apply after_none
  rintro c ⟨above, below, -⟩
  have above : j.val < c.val := above
  omega

theorem tables_kept (tables : Tables before n k) (here : i.val = n) (kept : ¬Cleaned before i)
    (jiffies : k'.jiffies = k.jiffies) (initThread : k'.initThread = k.initThread)
    (own : k'.threadList i = (before.threadList i).map (turned before i))
    (above : ∀ j, i < j → k'.threadList j = k.threadList j)
    (below : ∀ j, j < i →
      (k'.threadList j).map Thread.outline = (k.threadList j).map Thread.outline)
    (processes : k'.teList = k.teList) : Tables before (n + 1) k' := by
  -- The turn cleaned no thread.
  have sameZombies : ∀ c : Tid,
      c.val < n ∧ Cleaned before c ↔ c.val < n + 1 ∧ Cleaned before c := by
    intro c
    constructor
    · rintro ⟨below, cleaned⟩
      exact ⟨Nat.lt_succ_of_lt below, cleaned⟩
    · rintro ⟨below, cleaned⟩
      rcases Nat.lt_or_eq_of_le (Nat.le_of_lt_succ below) with less | equal
      · exact ⟨less, cleaned⟩
      · have same : c = i := Fin.ext (equal.trans here.symm)
        exact absurd (same ▸ cleaned) kept
  constructor
  · exact jiffies.trans tables.jiffies
  · exact initThread.trans tables.initThread
  · intro j past
    have after : i < j := by
      change i.val < j.val
      omega
    rw [above j after, tables.later j (Nat.le_of_succ_le past)]
    have equal : (Thread.after before fun c => c.val < n ∧ Cleaned before c) =
        Thread.after before fun c => c.val < n + 1 ∧ Cleaned before c :=
      funext fun t => after_congr sameZombies
    rw [equal]
  · intro j past
    rcases Nat.lt_or_eq_of_le (Nat.le_of_lt_succ past) with less | equal
    · have under : j < i := by
        change j.val < i.val
        omega
      have equal : (fun t => (settled before n j t).outline) =
          fun t => (settled before (n + 1) j t).outline := by
        funext t
        refine congrArg Thread.outline (after_congr fun c => ?_)
        exact and_congr_right fun _ => sameZombies c
      rw [below j under, tables.earlier j less, equal]
    · have same : j = i := Fin.ext (equal.trans here.symm)
      subst same
      have equal : (fun t => (settled before (n + 1) j t).outline) =
          Thread.outline ∘ turned before j :=
        funext fun t => congrArg Thread.outline (settled_self (by omega))
      rw [own, Option.map_map, equal]
  · intro p free
    rw [processes]
    exact tables.kept p fun c below cleaned => free c (Nat.lt_succ_of_lt below) cleaned
  · intro c p process below cleaned te
    rw [processes]
    exact tables.gone c p process ((sameZombies c).mpr ⟨below, cleaned⟩).1 cleaned te

theorem turned_of_cleaned (there : before.threadList j = some t) (cleaned : Cleaned before j) :
    turned before j t = ((t.atTurn before j).attend false before.jiffies).2.reuse := by
  have found := (cleaned_iff there).mp cleaned
  simp only [turned]
  rw [if_neg found.1, if_pos found.2]

theorem after_te {zombies : Tid → Prop} : (t.after before zombies).te = t.te := by
  rcases @after_cases before zombies t with ⟨same, -⟩ | ⟨same, -⟩ | ⟨same, -⟩
  · rw [same]
    rfl
  · rw [same]
  · rw [same]

theorem after_wait4tid {zombies : Tid → Prop} :
    (t.after before zombies).wait4tid = t.wait4tid := by
  rcases @after_cases before zombies t with ⟨same, -⟩ | ⟨same, -⟩ | ⟨same, -⟩
  · rw [same]
    rfl
  · rw [same]
  · rw [same]

theorem zombie_stored (k : Kernel) (there : before.threadList i = some t)
    (cleaned : Cleaned before i) :
    Zombie (k.set i ((t.atTurn before i).attend false before.jiffies).2) i
      ((t.atTurn before i).attend false before.jiffies).2 := by
  have found := (cleaned_iff there).mp cleaned
  rcases @attend_cases (t.atTurn before i) false before.jiffies with zombie | linked | kept
  · refine ⟨set_self, ?_, zombie.2.1⟩
    have valid := zombie.2.2.1
    rw [← identity_valid attend_identity, Thread.valid, Bool.and_eq_true,
      decide_eq_true_eq] at valid
    exact valid.2
  · rw [found.2] at linked
    cases linked.1
  · exact absurd found.2 kept.1

theorem tables_cleaned (tables : Tables before n k) (here : i.val = n)
    (there : before.threadList i = some t) (cleaned : Cleaned before i)
    (done : onZombie (k.set i ((t.atTurn before i).attend false before.jiffies).2) i = .ok k') :
    Tables before (n + 1) k' := by
  have identity : ((t.atTurn before i).attend false before.jiffies).2.identity =
      (t.atTurn before i).identity := attend_identity
  have zombie := zombie_stored k there cleaned
  generalize after : ((t.atTurn before i).attend false before.jiffies).2 = v at done identity zombie
  have te : v.te = before.teOf i := by
    rw [identity_te identity, Thread.atTurn, after_te, Kernel.teOf, there]
    rfl
  have frame := onZombie_frame done
  rcases onZombie_ok zombie done with ⟨threads, processes⟩
  rw [te] at threads processes
  -- The cleaned ones before the next slot are those before this one, and this one.
  have nextZombies : ∀ c : Tid, c.val < n + 1 ∧ Cleaned before c ↔
      (c.val < n ∧ Cleaned before c) ∨ c = i := by
    intro c
    constructor
    · rintro ⟨below, holds⟩
      rcases Nat.lt_or_eq_of_le (Nat.le_of_lt_succ below) with less | equal
      · exact Or.inl ⟨less, holds⟩
      · exact Or.inr (Fin.ext (equal.trans here.symm))
    · rintro (⟨below, holds⟩ | rfl)
      · exact ⟨Nat.lt_succ_of_lt below, holds⟩
      · exact ⟨by omega, cleaned⟩
  constructor
  · exact (frame_jiffies frame).trans tables.jiffies
  · exact (frame_initThread frame).trans tables.initThread
  · -- The threads that are still to come, as all the cleaned ones have left them.
    intro j past
    have apart : j ≠ i := by
      rintro rfl
      omega
    have equal : (Thread.after before fun c => c.val < n + 1 ∧ Cleaned before c) =
        Thread.visited i (before.teOf i) ∘
          Thread.after before fun c => c.val < n ∧ Cleaned before c := by
      funext u
      rw [Function.comp_apply, after_visited]
      exact after_congr nextZombies
    rw [threads j, if_neg apart, set_other apart, tables.later j (Nat.le_of_succ_le past),
      Option.map_map, equal]
  · intro j past
    rcases Nat.lt_or_eq_of_le (Nat.le_of_lt_succ past) with less | equal
    · have apart : j ≠ i := by
        rintro rfl
        omega
      have equal : (fun t => (settled before (n + 1) j t).outline) =
          Thread.visited i (before.teOf i) ∘ fun t => (settled before n j t).outline := by
        funext u
        rw [Function.comp_apply, ← outline_visited, settled, settled, after_visited]
        refine congrArg Thread.outline (after_congr fun c => ?_)
        constructor
        · rintro ⟨above, holds⟩
          exact ((nextZombies c).mp holds).imp (fun holds => ⟨above, holds⟩) id
        · rintro (⟨above, holds⟩ | rfl)
          · exact ⟨above, (nextZombies c).mpr (Or.inl holds)⟩
          · refine ⟨?_, (nextZombies c).mpr (Or.inr rfl)⟩
            change j.val < c.val
            omega
      have visits : Thread.outline ∘ Thread.visited i (before.teOf i) =
          Thread.visited i (before.teOf i) ∘ Thread.outline :=
        funext fun u => outline_visited
      rw [threads j, if_neg apart, set_other apart, Option.map_map, visits, ← Option.map_map,
        tables.earlier j less, Option.map_map, equal]
    · -- The thread of this turn itself.
      have same : j = i := Fin.ext (equal.trans here.symm)
      subst same
      rw [threads j, if_pos rfl, there, Option.map_some, Option.map_some, settled_self (by omega),
        turned_of_cleaned there cleaned, after]
  · -- A process that no cleaned thread belongs to is as it was.
    intro p free
    rw [processes p, if_neg (free i (by omega) cleaned)]
    exact tables.kept p fun c below holds => free c (Nat.lt_succ_of_lt below) holds
  · intro c p process below holds te' found
    rw [processes p] at found
    split at found
    · rcases Option.map_eq_some_iff.mp found with ⟨q, -, rfl⟩
      simp [Process.reuse]
    · next other =>
        rcases (nextZombies c).mp ⟨below, holds⟩ with earlier | rfl
        · exact tables.gone c p process earlier.1 holds te' found
        · exact absurd te' other

end Tables

/-- The round links the thread when its turn comes; the idle thread is there first. -/
def Linked (k : Kernel) (j : Tid) : Prop :=
  j = INIT_TID ∨
    ∃ t, k.threadList j = some t ∧ ((t.atTurn k j).attend false k.jiffies).1 = .linked

/-- The list when `n` turns are over, `last` being its last thread. -/
structure Listed (before : Kernel) (n : Nat) (k : Kernel) (list : List Tid)
    (last : Tid) : Prop where
  current : k.lapic.currentq = some INIT_TID
  tail : k.lapic.p1q = some last
  strung : Strung n k list last
  members : ∀ j, j ∈ list ++ [last] ↔ j.val < n ∧ Linked before j

section Lists

variable {before k k' : Kernel} {n ready : Nat} {i j last : Tid} {t z : Thread} {list : List Tid}

theorem listed_kept (listed : Listed before n k list last) (here : i.val = n)
    (out : ¬Linked before i) (lapic : k'.lapic = k.lapic)
    (next : ∀ j, (k'.threadList j).map Thread.next = (k.threadList j).map Thread.next) :
    Listed before (n + 1) k' list last where
  current := by rw [lapic, listed.current]
  tail := by rw [lapic, listed.tail]
  strung := strung_kept listed.strung (Nat.le_succ n) fun j _ => next j
  members := by
    intro j
    rw [listed.members j]
    constructor
    · rintro ⟨below, linked⟩
      exact ⟨Nat.lt_succ_of_lt below, linked⟩
    · rintro ⟨below, linked⟩
      rcases Nat.lt_or_eq_of_le (Nat.le_of_lt_succ below) with less | equal
      · exact ⟨less, linked⟩
      · have same : j = i := Fin.ext (equal.trans here.symm)
        exact absurd (same ▸ linked) out

theorem listed_linked (listed : Listed before n k list last) (here : i.val = n)
    (linked : Linked before i) (current : k'.lapic.currentq = k.lapic.currentq)
    (tail : k'.lapic.p1q = some i) (behind : k'.follow (some last) = some i)
    (next : ∀ j, j ≠ last → (k'.threadList j).map Thread.next = (k.threadList j).map Thread.next) :
    Listed before (n + 1) k' (list ++ [last]) i := by
  constructor
  · rw [current, listed.current]
  · exact tail
  · exact strung_linked listed.strung here behind fun j member =>
      next j (strung_apart listed.strung member)
  · intro j
    rw [List.mem_append, listed.members j, List.mem_singleton]
    constructor
    · rintro (⟨less, holds⟩ | rfl)
      · exact ⟨Nat.lt_succ_of_lt less, holds⟩
      · exact ⟨by omega, linked⟩
    · rintro ⟨less, holds⟩
      rcases Nat.lt_or_eq_of_le (Nat.le_of_lt_succ less) with earlier | equal
      · exact Or.inl ⟨earlier, holds⟩
      · exact Or.inr (Fin.ext (equal.trans here.symm))

end Lists

section Turns

variable {before k : Kernel} {n : Nat} {i last : Tid} {t u : Thread} {list : List Tid}

theorem linked_iff (other : i ≠ INIT_TID) (there : before.threadList i = some t) :
    Linked before i ↔ ((t.atTurn before i).attend false before.jiffies).1 = .linked := by
  constructor
  · rintro (idle | ⟨u, found, linked⟩)
    · exact absurd idle other
    · rw [there] at found
      cases found
      exact linked
  · intro linked
    exact Or.inr ⟨t, there, linked⟩

/-- A thread is found as the clean-ups of the turns before have left it. -/
theorem found_at_turn (tables : Tables before n k) (here : i.val = n) :
    k.threadList i = (before.threadList i).map (Thread.atTurn before i) := by
  rw [tables.later i (Nat.le_of_eq here.symm)]
  have equal : (Thread.after before fun c => c.val < n ∧ Cleaned before c) =
      Thread.atTurn before i := by
    funext t
    refine after_congr fun c => ?_
    rw [← here]
    exact Iff.rfl
  rw [equal]

theorem last_there (tables : Tables before n k) (listed : Listed before n k list last)
    (idle : ∃ t, before.threadList INIT_TID = some t) : ∃ t, k.threadList last = some t := by
  rcases (listed.members last).mp (by simp) with ⟨below, linked⟩
  have there : ∃ t, before.threadList last = some t := by
    rcases linked with rfl | ⟨t, found, -⟩
    · exact idle
    · exact ⟨t, found⟩
  rcases there with ⟨t, there⟩
  have outline := tables.earlier last below
  rw [there] at outline
  rcases Option.map_eq_some_iff.mp outline with ⟨u, found, -⟩
  exact ⟨u, found⟩

/-- A turn that stores what it makes of its thread, and cleans nothing. -/
theorem tables_stored {k' : Kernel} (tables : Tables before n k) (here : i.val = n)
    (other : i ≠ INIT_TID) (there : before.threadList i = some t)
    (kept : ((t.atTurn before i).attend false before.jiffies).1 ≠ .cleaned)
    (frame : k'.jiffies = k.jiffies ∧ k'.initThread = k.initThread ∧ k'.teList = k.teList)
    (own : k'.threadList i = some ((t.atTurn before i).attend false before.jiffies).2)
    (above : ∀ j, i < j → k'.threadList j = k.threadList j)
    (below : ∀ j, j < i →
      (k'.threadList j).map Thread.outline = (k.threadList j).map Thread.outline) :
    Tables before (n + 1) k' := by
  have spared : ¬Cleaned before i := fun cleaned => kept ((cleaned_iff there).mp cleaned).2
  refine tables_kept tables here spared frame.1 frame.2.1 ?_ above below frame.2.2
  rw [there, Option.map_some, turned_of_kept other there spared, own]

theorem linkThread_ok (tail : k.lapic.p1q = some last) (there : k.threadList last = some u) :
    linkThread k i = .ok { k.set last { u with next := some i } with
      lapic := { k.lapic with p1q := some i } } := by
  simp only [linkThread, tail, setNext]
  rw [modify_some there]
  rfl

theorem round_turn (ready : Nat) (tables : Tables before n k) (listed : Listed before n k list last)
    (idle : ∃ t, before.threadList INIT_TID = some t) (here : i.val = n) (other : i ≠ INIT_TID) :
    ∃ k' ready' list' last', rrTurn INIT_TID (k, ready) i = .ok (k', ready') ∧
      Tables before (n + 1) k' ∧ Listed before (n + 1) k' list' last' := by
  have found := found_at_turn tables here
  -- A slot without a thread is passed over; a thread is attended to, and what comes of it
  -- decides.
  cases there : before.threadList i with
  | none =>
      rw [there] at found
      refine ⟨k, ready, list, last, ?_, ?_, ?_⟩
      · simp only [rrTurn]
        rw [found]
        rfl
      · apply tables_kept tables here (not_cleaned_of_none there) rfl rfl _ (fun _ _ => rfl)
          (fun _ _ => rfl) rfl
        rw [there, found]
        rfl
      · apply listed_kept listed here _ rfl (fun _ => rfl)
        rintro (first | ⟨t, held, -⟩)
        · exact other first
        · rw [there] at held
          cases held
  | some t =>
      rw [there, Option.map_some] at found
      have identity : ((t.atTurn before i).attend false before.jiffies).2.identity =
          (t.atTurn before i).identity := attend_identity
      have turn : rrTurn INIT_TID (k, ready) i =
          rrAfter (k.set i ((t.atTurn before i).attend false before.jiffies).2) ready i
            ((t.atTurn before i).attend false before.jiffies).1 := by
        simp only [rrTurn]
        rw [found, tables.jiffies, decide_eq_false other]
      have links := linked_iff other there
      have stored := fun k' => @tables_stored before k n i t k' tables here other there
      generalize isKind : ((t.atTurn before i).attend false before.jiffies).1 = kind
        at turn links stored
      generalize isValue : ((t.atTurn before i).attend false before.jiffies).2 = v
        at turn stored identity
      have above : ∀ j, i < j → (k.set i v).threadList j = k.threadList j := fun j less =>
        set_other (ne_of_gt less)
      have below : ∀ j, j < i → (k.set i v).threadList j = k.threadList j := fun j less =>
        set_other (ne_of_lt less)
      -- The turn changes the thread in its slot, and of no thread the link.
      have next : ∀ j, ((k.set i v).threadList j).map Thread.next =
          (k.threadList j).map Thread.next := by
        intro j
        by_cases same : j = i
        · rw [same, set_self, found, Option.map_some, Option.map_some, identity_next identity]
        · rw [set_other same]
      rw [turn]
      cases kind with
      | passed =>
          refine ⟨_, ready, list, last, rfl, ?_, ?_⟩
          · exact stored _ (by simp) ⟨rfl, rfl, rfl⟩ set_self above
              fun j less => by rw [below j less]
          · exact listed_kept listed here (fun linked => by cases links.mp linked) rfl next
      | exited =>
          -- At most the foreground thread is forgotten.
          have same : ∃ foreground, forgetForeground (k.set i v) i =
              { k.set i v with foregroundThread := foreground } := by
            unfold forgetForeground
            split
            · exact ⟨_, rfl⟩
            · exact ⟨(k.set i v).foregroundThread, rfl⟩
          rcases same with ⟨foreground, same⟩
          rw [rrAfter, same]
          refine ⟨_, ready, list, last, rfl, ?_, ?_⟩
          · exact stored _ (by simp) ⟨rfl, rfl, rfl⟩ set_self above
              fun j less => congrArg (Option.map Thread.outline) (below j less)
          · exact listed_kept listed here (fun linked => by cases links.mp linked) rfl next
      | cleaned =>
          -- The zombie takes its process and the other threads of that process with it.
          have cleaned : Cleaned before i := (cleaned_iff there).mpr ⟨other, isKind⟩
          have zombie := zombie_stored k there cleaned
          have notInit : (k.set i v).initThread ≠ some i := by
            intro init
            rw [show (k.set i v).initThread = k.initThread from rfl, tables.initThread] at init
            exact other (Option.some.inj init).symm
          rcases onZombie_returns notInit with ⟨k', done⟩
          rw [isValue] at zombie
          refine ⟨k', ready, list, last, ?_, ?_, ?_⟩
          · rw [rrAfter, done]
            rfl
          · apply tables_cleaned tables here there cleaned
            rw [isValue]
            exact done
          · apply listed_kept listed here (fun linked => by cases links.mp linked)
            · exact (frame_lapic (onZombie_frame done) : k'.lapic = (k.set i v).lapic)
            · intro j
              rw [onZombie_next zombie done, next j]
      | linked =>
          -- The thread is linked behind the last one of the list, which lies in an earlier slot.
          rcases last_there tables listed idle with ⟨w, lastThere⟩
          have less : last < i := by
            have below := ((listed.members last).mp (by simp)).1
            change last.val < i.val
            omega
          have lastStored : (k.set i v).threadList last = some w :=
            (below last less).trans lastThere
          have step := @linkThread_ok (k.set i v) i last w listed.tail lastStored
          rw [rrAfter, step]
          refine ⟨_, ready + 1, list ++ [last], i, rfl, ?_, ?_⟩
          · refine stored _ (by simp) ⟨rfl, rfl, rfl⟩ ?_ ?_ ?_
            · exact (set_other (ne_of_gt less)).trans set_self
            · intro j past
              exact (set_other (ne_of_gt (lt_trans less past))).trans (above j past)
            · intro j past
              change (((k.set i v).set last _).threadList j).map Thread.outline = _
              by_cases same : j = last
              · rw [same, set_self, lastThere]
                rfl
              · rw [set_other same, below j past]
          · refine listed_linked listed here (links.mpr rfl) rfl rfl ?_ ?_
            · change (((k.set i v).set last _).threadList last).bind Thread.next = some i
              rw [set_self]
              rfl
            · intro j same
              change (((k.set i v).set last _).threadList j).map Thread.next = _
              rw [set_other same, next j]

end Turns

/-- What the round asks for before it begins. -/
structure Startable (k : Kernel) (t : Thread) : Prop where
  initialized : k.schedulerInfo.initialized
  policy : k.schedulerInfo.policy = .rr
  idleThread : k.idleThread = some INIT_TID
  initThread : k.initThread = some INIT_TID
  there : k.threadList INIT_TID = some t
  valid : t.valid

section Round

variable {before k k' : Kernel} {n : Nat} {last tid : Tid} {t : Thread} {list : List Tid}

theorem no_zombie_below_one {c : Tid} (below : c.val < 1) : ¬Cleaned before c := by
  rw [Cleaned]
  rintro ⟨other, -⟩
  have zero : c.val = 0 := by omega
  exact other (Fin.ext zero)

theorem tables_start (start : Startable k t) (lapic : Lapic) :
    Tables k 1 { k.set INIT_TID (t.asIdle k.jiffies) with lapic } := by
  constructor
  · rfl
  · exact start.initThread
  · intro j past
    have apart : j ≠ INIT_TID := by
      rintro rfl
      cases past
    have same : (Thread.after k fun c => c.val < 1 ∧ Cleaned k c) = id := by
      funext t
      exact after_none fun c holds => no_zombie_below_one holds.1 holds.2
    rw [same, Option.map_id_apply]
    exact set_other apart
  · intro j below
    have first : j = INIT_TID := by
      have zero : j.val = 0 := by omega
      exact Fin.ext zero
    subst first
    change ((k.set INIT_TID _).threadList INIT_TID).map Thread.outline = _
    rw [set_self, start.there, Option.map_some, Option.map_some, settled_self (by decide)]
    rfl
  · intro p free
    rfl
  · intro c p process below cleaned
    exact absurd cleaned (no_zombie_below_one below)

theorem listed_start :
    Listed k 1 { k.set INIT_TID (t.asIdle k.jiffies) with
      lapic := k.lapic.allQueues (some INIT_TID) } [] INIT_TID := by
  constructor
  · rfl
  · rfl
  · exact strung_start
  · intro j
    rw [List.nil_append, List.mem_singleton]
    constructor
    · rintro rfl
      exact ⟨by decide, Or.inl rfl⟩
    · rintro ⟨below, -⟩
      have zero : j.val = 0 := by omega
      exact Fin.ext zero

theorem rounds (tables : Tables before 1 k) (listed : Listed before 1 k [] INIT_TID)
    (idle : ∃ t, before.threadList INIT_TID = some t) :
    ∃ k' ready list last, places.foldlM (rrTurn INIT_TID) (k, 0) = .ok (k', ready) ∧
      Tables before THREAD_COUNT_MAX k' ∧ Listed before THREAD_COUNT_MAX k' list last := by
  have turn : ∀ n (s : Kernel × Nat) (i : Tid), i.val = n → 1 ≤ n →
      (Tables before n s.1 ∧ ∃ list last, Listed before n s.1 list last) →
      ∃ s', rrTurn INIT_TID s i = .ok s' ∧ Tables before (n + 1) s'.1 ∧
        ∃ list last, Listed before (n + 1) s'.1 list last := by
    rintro n ⟨k, ready⟩ i here begun ⟨tables, list, last, listed⟩
    have other : i ≠ INIT_TID := by
      rintro rfl
      rw [← here] at begun
      cases begun
    rcases round_turn ready tables listed idle here other with
      ⟨k', ready', list', last', run, tables', listed'⟩
    exact ⟨(k', ready'), run, tables', list', last', listed'⟩
  rcases Scan.foldlM_finRange turn (by decide) (s := (k, 0)) ⟨tables, [], INIT_TID, listed⟩ with
    ⟨⟨k', ready⟩, run, tables', list, last, listed'⟩
  rw [List.drop_one] at run
  exact ⟨k', ready, list, last, run, tables', listed'⟩

theorem schedulerRr_startable (start : Startable k t) :
    schedulerRr k = rrRound { k with lapic := k.lapic.allQueues none } INIT_TID := by
  rcases start with ⟨initialized, policy, idleThread, initThread, there, valid⟩
  simp only [schedulerRr]
  rw [initialized, if_neg (by simp), if_neg (not_not_intro policy), idleThread]
  simp only
  rw [there]
  simp only
  rw [valid, if_neg (by simp), if_neg (not_not_intro initThread), if_neg (not_not_intro rfl)]

theorem startable_of_done (done : schedulerRr k = .ok (tid, k')) : ∃ t, Startable k t := by
  simp only [schedulerRr] at done
  split_ifs at done with uninitialized policy
  cases idleThread : k.idleThread with
  | none => rw [idleThread] at done; cases done
  | some idle =>
      rw [idleThread] at done
      simp only at done
      cases there : k.threadList idle with
      | none => rw [there] at done; cases done
      | some t =>
          rw [there] at done
          simp only at done
          split_ifs at done with invalid initThread first
          rw [not_not] at policy initThread first
          subst first
          exact ⟨t, by simpa using uninitialized, policy, idleThread, initThread, there,
            by simpa using invalid⟩

end Round

/-- What a round leaves behind, `before` being what it found. -/
structure Ended (before k : Kernel) (list : List Tid) : Prop where
  current : k.lapic.currentq = some INIT_TID
  chained : Chain pointers k.follow (some INIT_TID) (list.map some)
  ordered : list.Pairwise (· < ·)
  members : ∀ j, j ∈ list ↔ Linked before j
  threads : ∀ j, (k.threadList j).map Thread.outline =
    (before.threadList j).map fun t => (settled before THREAD_COUNT_MAX j t).outline
  kept : ∀ p, (∀ c, Cleaned before c → before.teOf c ≠ some p) → k.teList p = before.teList p
  gone : ∀ c p process, Cleaned before c → before.teOf c = some p →
    k.teList p = some process → process.magic ≠ 1234

section Ending

variable {before k k' : Kernel} {last tid : Tid} {t : Thread} {list : List Tid}

theorem ended_of_listed (tables : Tables before THREAD_COUNT_MAX k)
    (listed : Listed before THREAD_COUNT_MAX k list last)
    (current : k'.lapic.currentq = k.lapic.currentq) (teList : k'.teList = k.teList)
    (cut : k'.follow (some last) = none)
    (next : ∀ j, j ≠ last → (k'.threadList j).map Thread.next = (k.threadList j).map Thread.next)
    (outline : ∀ j, (k'.threadList j).map Thread.outline = (k.threadList j).map Thread.outline) :
    Ended before k' (list ++ [last]) := by
  constructor
  · rw [current, listed.current]
  · exact strung_cut listed.strung cut fun j member =>
      next j (strung_apart listed.strung member)
  · exact listed.strung.ordered
  · intro j
    rw [listed.members j]
    exact ⟨And.right, fun linked => ⟨j.isLt, linked⟩⟩
  · intro j
    rw [outline j, tables.earlier j j.isLt]
  · intro p free
    rw [teList]
    exact tables.kept p fun c _ => free c
  · intro c p process cleaned
    rw [teList]
    exact tables.gone c p process c.isLt cleaned

theorem loadBalancer_map {α : Type} {see : Thread → α}
    (same : ∀ t quantum, see { t with quantum := quantum } = see t) (j : Tid) :
    ((loadBalancer k).threadList j).map see = (k.threadList j).map see := by
  unfold loadBalancer
  split
  · rfl
  · apply modify_map
    intro t
    split
    · exact same t _
    · rfl

theorem loadBalancer_frame : (loadBalancer k).frame = k.frame := by
  unfold loadBalancer
  split
  · rfl
  · exact modify_frame

theorem loadBalancer_teList : (loadBalancer k).teList = k.teList := by
  unfold loadBalancer
  split
  · rfl
  · exact modify_teList

theorem rrFinish_ok (ready : Nat) (tables : Tables before THREAD_COUNT_MAX k)
    (listed : Listed before THREAD_COUNT_MAX k list last)
    (idle : ∃ t, before.threadList INIT_TID = some t) :
    ∃ k', rrFinish k INIT_TID ready = .ok (INIT_TID, k') ∧ Ended before k' (list ++ [last]) := by
  let counted : Kernel :=
    { k with schedulerInfo := { k.schedulerInfo with rrReadyThreadsInRound := ready } }
  have frame : (loadBalancer counted).frame = counted.frame := loadBalancer_frame
  have lapic : (loadBalancer counted).lapic = k.lapic := (frame_lapic frame).trans rfl
  have there : ∃ u, (loadBalancer counted).threadList last = some u := by
    rcases last_there tables listed idle with ⟨t, there⟩
    have outline := @loadBalancer_map counted _ Thread.outline (fun _ _ => rfl) last
    rw [show counted.threadList last = some t from there] at outline
    rcases Option.map_eq_some_iff.mp outline with ⟨u, found, -⟩
    exact ⟨u, found⟩
  rcases there with ⟨u, there⟩
  -- The load balancer changes no link, so that the tail is still the last thread.
  have cut : setNext (loadBalancer counted) (loadBalancer counted).lapic.p1q none =
      .ok ((loadBalancer counted).set last { u with next := none }) := by
    rw [lapic, listed.tail, setNext, modify_some there]
  have finish : ∃ info, rrFinish k INIT_TID ready = .ok (INIT_TID,
      { (loadBalancer counted).set last { u with next := none } with schedulerInfo := info }) := by
    simp only [rrFinish]
    rw [cut]
    exact ⟨_, rfl⟩
  rcases finish with ⟨info, finish⟩
  refine ⟨_, finish, ended_of_listed tables listed ?_ ?_ ?_ ?_ ?_⟩
  · change (loadBalancer counted).lapic.currentq = _
    rw [lapic]
  · exact loadBalancer_teList
  · change (((loadBalancer counted).set last _).threadList last).bind Thread.next = none
    rw [set_self]
    rfl
  · intro j other
    change (((loadBalancer counted).set last _).threadList j).map Thread.next = _
    rw [set_other other]
    exact loadBalancer_map (fun _ _ => rfl) j
  · intro j
    change (((loadBalancer counted).set last _).threadList j).map Thread.outline = _
    have kept := @loadBalancer_map counted _ Thread.outline (fun _ _ => rfl) j
    by_cases same : j = last
    · subst same
      rw [there] at kept
      rw [set_self]
      exact kept
    · rw [set_other same]
      exact kept

theorem schedulerRr_ok (start : Startable k t) :
    ∃ k' list, schedulerRr k = .ok (INIT_TID, k') ∧ Ended k k' list := by
  rcases rounds (tables_start start (k.lapic.allQueues (some INIT_TID))) listed_start
    ⟨t, start.there⟩ with ⟨k₁, ready, list, last, run, tables, listed⟩
  rcases rrFinish_ok ready tables listed ⟨t, start.there⟩ with ⟨k', finish, ended⟩
  refine ⟨k', list ++ [last], ?_, ended⟩
  have there : ({ k with lapic := k.lapic.allQueues none } : Kernel).threadList INIT_TID =
      some t := start.there
  rw [schedulerRr_startable start, rrRound, modify_some there]
  have whole : (places.foldlM (rrTurn INIT_TID)
      ({ k.set INIT_TID (t.asIdle k.jiffies) with
        lapic := k.lapic.allQueues (some INIT_TID) }, 0) >>= fun out => rrFinish out.1 INIT_TID
          out.2) =
      .ok (INIT_TID, k') := by
    rw [run]
    exact finish
  exact whole

end Ending

end Gramado.Ke.Sched
