/-
The list that a round-robin round leaves for the task switcher. Threads that are
linked already may go with a zombie that the round cleans later, and threads whose
turn is over may be woken by it.
-/
import Gramado.Ke.Round

namespace Gramado.Ke.Sched

open Gramado.Lib.Links

/-- The process of the thread is in its table, and is not being taken out of use. -/
def Live (k : Kernel) (t : Thread) : Prop :=
  ∃ p process, t.te = some p ∧ k.teList p = some process ∧ process.valid

structure IsRunList (idle : Option Tid) (k : Kernel) (list : List Tid) : Prop where
  chained : Chain pointers k.follow k.lapic.currentq (list.map some)
  headed : list.head? = idle
  ordered : list.Pairwise (· < ·)
  complete : ∀ j t, k.threadList j = some t → t.valid → t.state = .ready → Live k t → j ∈ list
  runnable : ∀ j, j ∈ list → ∃ t, k.threadList j = some t ∧ t.valid ∧
    t.state ≠ .zombie ∧ t.state ≠ .dead ∧ t.state ≠ .blocked

/-- The current queue is a well-formed run list. -/
def RunList (idle : Option Tid) (k : Kernel) : Prop :=
  ∃ list, IsRunList idle k list

/-- The process of the thread is live, and the round cleans no zombie of it. -/
def Survives (k : Kernel) (t : Thread) : Prop :=
  Live k t ∧ ∀ c, Cleaned k c → t.te ≠ k.teOf c

structure Undisturbed (k : Kernel) : Prop where
  spared : ∀ c j t, Cleaned k c → j < c → k.threadList j = some t → t.te ≠ none →
    t.te = k.teOf c → t.wait4tid ≠ c.toInt32 → ¬Linked k j
  delivered : ∀ j t, j ≠ INIT_TID → k.threadList j = some t → t.valid → Survives k t →
    t.hasEventFromDs → ((t.atTurn k j).deliver k.jiffies).state ≠ .ready
  awake : ∀ c j t, Cleaned k c → j < c → k.threadList j = some t → t.valid → Survives k t →
    t.wait4tid = c.toInt32 → Linked k j

section Slots

variable {k k' : Kernel} {j : Tid} {t t' : Thread} {list : List Tid}

theorem outline_valid (same : t.outline = t'.outline) : t.valid = t'.valid := by
  have used : t.outline.used = t'.outline.used := by rw [same]
  have magic : t.outline.magic = t'.outline.magic := by rw [same]
  rw [Thread.valid, Thread.valid, show t.used = t'.used from used,
    show t.magic = t'.magic from magic]

theorem outline_state (same : t.outline = t'.outline) : t.state = t'.state := by
  have state : t.outline.state = t'.outline.state := by rw [same]
  exact state

theorem outline_te (same : t.outline = t'.outline) : t.te = t'.te := by
  have te : t.outline.te = t'.outline.te := by rw [same]
  exact te

theorem slot_of_ended (ended : Ended k k' list) (there : k.threadList j = some t) :
    ∃ t', k'.threadList j = some t' ∧
      t'.outline = (settled k THREAD_COUNT_MAX j t).outline := by
  have threads := ended.threads j
  rw [there, Option.map_some] at threads
  exact Option.map_eq_some_iff.mp threads

theorem before_of_ended (ended : Ended k k' list) (there : k'.threadList j = some t') :
    ∃ t, k.threadList j = some t ∧ t'.outline = (settled k THREAD_COUNT_MAX j t).outline := by
  have threads := ended.threads j
  rw [there, Option.map_some] at threads
  rcases Option.map_eq_some_iff.mp threads.symm with ⟨t, found, same⟩
  exact ⟨t, found, same.symm⟩

/-- The process is live after the round if it was and no zombie of it is cleaned. -/
theorem live_iff_survives (ended : Ended k k' list) (same : t'.te = t.te) :
    Live k' t' ↔ Survives k t := by
  constructor
  · rintro ⟨p, process, te, there, valid⟩
    rw [same] at te
    have spared : ∀ c, Cleaned k c → t.te ≠ k.teOf c := by
      intro c cleaned shares
      rw [te] at shares
      have dead := ended.gone c p process cleaned shares.symm there
      rw [Process.valid, Bool.and_eq_true, decide_eq_true_eq] at valid
      exact dead valid.2
    have kept := ended.kept p fun c cleaned shares => spared c cleaned (te.trans shares.symm)
    exact ⟨⟨p, process, te, kept ▸ there, valid⟩, spared⟩
  · rintro ⟨⟨p, process, te, there, valid⟩, spared⟩
    have kept := ended.kept p fun c cleaned shares => spared c cleaned (te.trans shares.symm)
    exact ⟨p, process, same.trans te, kept.trans there, valid⟩

theorem asIdle_identity {jiffies : UInt64} : (t.asIdle jiffies).identity = t.identity :=
  doReady_identity (t := { t with
    basePriority := PRIORITY_SYSTEM_THRESHOLD
    priority := PRIORITY_SYSTEM_THRESHOLD
    quantum := QUANTUM_NORMAL_THRESHOLD })

theorem turned_of_linked (there : k.threadList j = some t) (idle : j = INIT_TID → t.valid)
    (linked : Linked k j) :
    (turned k j t).valid ∧ (turned k j t).state = .ready ∧ (turned k j t).te = t.te ∧
      (turned k j t).wait4tid = t.wait4tid := by
  by_cases first : j = INIT_TID
  · have isIdle : turned k j t = t.asIdle k.jiffies := by rw [turned, if_pos first]
    rw [isIdle]
    refine ⟨?_, doReady_state (idle first), identity_te asIdle_identity,
      identity_wait4tid asIdle_identity⟩
    rw [identity_valid asIdle_identity]
    exact idle first
  · have isLinked := (linked_iff first there).mp linked
    have spared : ¬Cleaned k j := by
      intro cleaned
      have kind := ((cleaned_iff there).mp cleaned).2
      rw [isLinked] at kind
      cases kind
    have same : ((t.atTurn k j).attend false k.jiffies).2.identity = (t.atTurn k j).identity :=
      attend_identity
    rw [turned_of_kept first there spared]
    rcases @attend_cases (t.atTurn k j) false k.jiffies with cleaned | ready | out
    · rw [isLinked] at cleaned
      cases cleaned.1
    · refine ⟨?_, ready.2.1, (identity_te same).trans after_te,
        (identity_wait4tid same).trans after_wait4tid⟩
      rw [identity_valid same]
      exact ready.2.2
    · exact absurd isLinked out.2.1

/-- The thread goes with a zombie that is cleaned after its own turn. -/
def Taken (k : Kernel) (j : Tid) (t : Thread) : Prop :=
  ∃ c, j < c ∧ Cleaned k c ∧ t.te ≠ none ∧ t.te = k.teOf c ∧ t.wait4tid ≠ c.toInt32

theorem settled_of_linked (there : k.threadList j = some t) (idle : j = INIT_TID → t.valid)
    (linked : Linked k j) :
    (Taken k j t ∧ ¬(settled k THREAD_COUNT_MAX j t).valid) ∨
    (¬Taken k j t ∧ (settled k THREAD_COUNT_MAX j t).valid ∧
      (settled k THREAD_COUNT_MAX j t).state = .ready) := by
  rcases turned_of_linked there idle linked with ⟨valid, ready, te, wait⟩
  have magic := valid_magic valid
  rcases @after_cases k (fun c => j < c ∧ c.val < THREAD_COUNT_MAX ∧ Cleaned k c)
      (turned k j t) with ⟨same, live, c, ⟨above, -, cleaned⟩, shares, waits⟩ |
      ⟨same, live, spared, -⟩ | ⟨same, spared⟩
  · left
    rw [te] at live shares
    rw [wait] at waits
    refine ⟨⟨c, above, cleaned, live.2, shares, waits⟩, ?_⟩
    rw [settled, same]
    simp [Thread.valid, Thread.reuse]
  · right
    refine ⟨?_, ?_, ?_⟩
    · rintro ⟨c, above, cleaned, -, shares, waits⟩
      exact spared ⟨c, ⟨above, c.isLt, cleaned⟩, te.trans shares, wait ▸ waits⟩
    · rw [settled, same]
      exact valid
    · rw [settled, same]
  · right
    refine ⟨?_, ?_, ?_⟩
    · rintro ⟨c, above, cleaned, there, shares, waits⟩
      have live : (turned k j t).te ≠ none := te ▸ there
      exact (spared ⟨magic, live⟩).1
        ⟨c, ⟨above, c.isLt, cleaned⟩, te.trans shares, wait ▸ waits⟩
    · rw [settled, same]
      exact valid
    · rw [settled, same]
      exact ready

theorem runnable_iff (start : Startable k t) (ended : Ended k k' list) :
    (∀ j, j ∈ list → ∃ t, k'.threadList j = some t ∧ t.valid ∧
      t.state ≠ .zombie ∧ t.state ≠ .dead ∧ t.state ≠ .blocked) ↔
    ∀ j t, k.threadList j = some t → Linked k j → ¬Taken k j t := by
  have idleValid : ∀ j u, k.threadList j = some u → j = INIT_TID → u.valid := by
    rintro j u there rfl
    rw [start.there] at there
    cases there
    exact start.valid
  constructor
  · intro runnable j u there linked taken
    rcases runnable j ((ended.members j).mpr linked) with ⟨u', found, valid, -⟩
    rcases slot_of_ended ended there with ⟨v, found', same⟩
    rw [found] at found'
    cases found'
    rcases settled_of_linked there (idleValid j u there) linked with gone | stays
    · rw [outline_valid same] at valid
      exact gone.2 valid
    · exact stays.1 taken
  · intro spared j member
    have linked := (ended.members j).mp member
    have there : ∃ u, k.threadList j = some u := by
      rcases linked with rfl | ⟨u, found, -⟩
      · exact ⟨t, start.there⟩
      · exact ⟨u, found⟩
    rcases there with ⟨u, there⟩
    rcases slot_of_ended ended there with ⟨u', found, same⟩
    rcases settled_of_linked there (idleValid j u there) linked with gone | ⟨-, valid, ready⟩
    · exact absurd gone.1 (spared j u there linked)
    · refine ⟨u', found, ?_, ?_⟩
      · rw [outline_valid same]
        exact valid
      · rw [outline_state same, ready]
        simp

/-- A thread of a process that survives is only ever woken by a clean-up. -/
theorem after_of_survives {zombies : Tid → Prop} (valid : t.valid) (survives : Survives k t)
    (cleaned : ∀ c, zombies c → Cleaned k c) :
    (t.after k zombies = t ∧ ¬∃ c, zombies c ∧ t.wait4tid = c.toInt32) ∨
    (t.after k zombies = { t with state := .ready } ∧
      ∃ c, zombies c ∧ t.wait4tid = c.toInt32) := by
  have live : t.magic = 1234 ∧ t.te ≠ none := by
    rcases survives.1 with ⟨p, process, te, -⟩
    refine ⟨valid_magic valid, ?_⟩
    rw [te]
    exact Option.some_ne_none p
  rcases @after_cases k zombies t with ⟨-, -, c, holds, shares, -⟩ | ⟨same, -, -, wakes⟩ |
      ⟨same, spared⟩
  · exact absurd shares (survives.2 c (cleaned c holds))
  · exact Or.inr ⟨same, wakes⟩
  · exact Or.inl ⟨same, (spared live).2⟩

theorem not_cleaned_of_survives (there : k.threadList j = some t) (survives : Survives k t) :
    ¬Cleaned k j := by
  intro cleaned
  apply survives.2 j cleaned
  rw [Kernel.teOf, there]
  rfl

/-- When its turn comes, such a thread is as it was, but for having been woken. -/
theorem atTurn_of_survives (valid : t.valid) (survives : Survives k t) :
    (t.atTurn k j).identity = t.identity ∧ (t.atTurn k j).hasEventFromDs = t.hasEventFromDs := by
  rcases @after_of_survives k t (fun c => c < j ∧ Cleaned k c) valid survives
    (fun c holds => holds.2) with ⟨same, -⟩ | ⟨same, -⟩
  · rw [Thread.atTurn, same]
    exact ⟨rfl, rfl⟩
  · rw [Thread.atTurn, same]
    exact ⟨rfl, rfl⟩

/-- After the round the thread is ready if its turn has left it so, or if it waits
    for a zombie that is cleaned later. -/
theorem settled_of_survives (other : j ≠ INIT_TID) (there : k.threadList j = some t)
    (valid : t.valid) (survives : Survives k t) :
    (settled k THREAD_COUNT_MAX j t).valid ∧
    ((settled k THREAD_COUNT_MAX j t).state = .ready ↔
      ((t.atTurn k j).attend false k.jiffies).2.state = .ready ∨
        ∃ c, j < c ∧ Cleaned k c ∧ t.wait4tid = c.toInt32) := by
  have same : ((t.atTurn k j).attend false k.jiffies).2.identity = t.identity :=
    attend_identity.trans (atTurn_of_survives valid survives).1
  rw [settled, turned_of_kept other there (not_cleaned_of_survives there survives)]
  generalize ((t.atTurn k j).attend false k.jiffies).2 = v at same
  have stays : v.valid := by
    rw [identity_valid same]
    exact valid
  have alive : Survives k v := by
    have te := identity_te same
    rcases survives with ⟨⟨p, process, shares, rest⟩, spared⟩
    exact ⟨⟨p, process, te.trans shares, rest⟩, fun c cleaned => te ▸ spared c cleaned⟩
  have wakes : (∃ c, (j < c ∧ c.val < THREAD_COUNT_MAX ∧ Cleaned k c) ∧
      v.wait4tid = c.toInt32) ↔ ∃ c, j < c ∧ Cleaned k c ∧ t.wait4tid = c.toInt32 := by
    rw [identity_wait4tid same]
    constructor
    · rintro ⟨c, ⟨above, -, cleaned⟩, waits⟩
      exact ⟨c, above, cleaned, waits⟩
    · rintro ⟨c, above, cleaned, waits⟩
      exact ⟨c, ⟨above, c.isLt, cleaned⟩, waits⟩
  rcases @after_of_survives k v (fun c => j < c ∧ c.val < THREAD_COUNT_MAX ∧ Cleaned k c)
    stays alive (fun c holds => holds.2.2) with ⟨after, sleeps⟩ | ⟨after, woken⟩
  · rw [after]
    refine ⟨stays, ?_⟩
    rw [← wakes]
    exact ⟨Or.inl, fun how => how.resolve_right sleeps⟩
  · rw [after]
    exact ⟨stays, fun _ => Or.inr (wakes.mp woken), fun _ => rfl⟩

theorem settled_te : (settled k THREAD_COUNT_MAX j t).te = t.te := by
  have own : (turned k j t).te = t.te := by
    have attended : ((t.atTurn k j).attend false k.jiffies).2.te = t.te :=
      (identity_te attend_identity).trans after_te
    simp only [turned]
    split
    · exact identity_te asIdle_identity
    · split
      · exact attended
      · exact attended
  exact after_te.trans own

/-- What the list leaves out: a thread that is ready after the round without having
    been linked has got an event, or has been woken too late. -/
theorem complete_iff (ended : Ended k k' list) :
    (∀ j t, k'.threadList j = some t → t.valid → t.state = .ready → Live k' t → j ∈ list) ↔
    ∀ j t, j ≠ INIT_TID → k.threadList j = some t → (settled k THREAD_COUNT_MAX j t).valid →
      (settled k THREAD_COUNT_MAX j t).state = .ready → Survives k t → Linked k j := by
  constructor
  · intro complete j t other there valid ready survives
    rcases slot_of_ended ended there with ⟨t', found, same⟩
    rw [← outline_valid same] at valid
    rw [← outline_state same] at ready
    have te : t'.te = t.te := (outline_te same).trans settled_te
    have live := (live_iff_survives ended te).mpr survives
    exact (ended.members j).mp (complete j t' found valid ready live)
  · intro complete j t' found valid ready live
    rcases before_of_ended ended found with ⟨t, there, same⟩
    by_cases first : j = INIT_TID
    · exact (ended.members j).mpr (Or.inl first)
    · rw [outline_valid same] at valid
      rw [outline_state same] at ready
      have te : t'.te = t.te := (outline_te same).trans settled_te
      have survives := (live_iff_survives ended te).mp live
      exact (ended.members j).mpr (complete j t first there valid ready survives)

theorem valid_of_after {zombies : Tid → Prop} (valid : (t.after k zombies).valid) : t.valid := by
  rcases @after_cases k zombies t with ⟨same, -⟩ | ⟨same, -⟩ | ⟨same, -⟩
  · rw [same] at valid
    simp [Thread.valid, Thread.reuse] at valid
  · rw [same] at valid
    exact valid
  · rw [same] at valid
    exact valid

theorem valid_of_settled (other : j ≠ INIT_TID) (there : k.threadList j = some t)
    (survives : Survives k t) (valid : (settled k THREAD_COUNT_MAX j t).valid) : t.valid := by
  have own : (turned k j t).valid := valid_of_after valid
  rw [turned_of_kept other there (not_cleaned_of_survives there survives),
    identity_valid attend_identity] at own
  exact valid_of_after own

theorem attend_of_event {b : Bool} {jiffies : UInt64} (magic : t.magic = 1234)
    (event : t.hasEventFromDs) : t.attend b jiffies = (.passed, t.deliver jiffies) := by
  rw [Thread.attend, if_pos magic, if_pos event]

theorem undisturbed_of_complete (start : Startable k t) (ended : Ended k k' list)
    (runList : IsRunList k.idleThread k' list) : Undisturbed k := by
  have spared := (runnable_iff start ended).mp runList.runnable
  have complete := (complete_iff ended).mp runList.complete
  constructor
  · intro c j u cleaned before there some_te shares waits linked
    exact spared j u there linked ⟨c, before, cleaned, some_te, shares, waits⟩
  · intro j u other there valid survives event ready
    have found := atTurn_of_survives (j := j) valid survives
    have magic : (u.atTurn k j).magic = 1234 :=
      (identity_magic found.1).trans (valid_magic valid)
    have turn := @attend_of_event _ false k.jiffies magic (found.2.trans event)
    rcases settled_of_survives other there valid survives with ⟨stays, isReady⟩
    have linked := complete j u other there stays
      (isReady.mpr (Or.inl (by rw [turn]; exact ready))) survives
    rw [linked_iff other there, turn] at linked
    cases linked
  · intro c j u cleaned before there valid survives waits
    by_cases first : j = INIT_TID
    · exact Or.inl first
    · rcases settled_of_survives first there valid survives with ⟨stays, isReady⟩
      exact complete j u first there stays
        (isReady.mpr (Or.inr ⟨c, before, cleaned, waits⟩)) survives

theorem complete_of_undisturbed (start : Startable k t) (ended : Ended k k' list)
    (undisturbed : Undisturbed k) : IsRunList k.idleThread k' list := by
  constructor
  · rw [ended.current]
    exact ended.chained
  · rw [chain_head ended.chained, start.idleThread]
  · exact ended.ordered
  · apply (complete_iff ended).mpr
    intro j u other there stays ready survives
    have valid := valid_of_settled other there survives stays
    rcases (settled_of_survives other there valid survives).2.mp ready with own |
      ⟨c, before, cleaned, waits⟩
    · have found := atTurn_of_survives (j := j) valid survives
      have atTurnValid : (u.atTurn k j).valid := by
        rw [identity_valid found.1]
        exact valid
      rcases @attend_cases (u.atTurn k j) false k.jiffies with cleaned | linked | ⟨-, -, event⟩
      · exact absurd ((cleaned_iff there).mpr ⟨other, cleaned.1⟩)
          (not_cleaned_of_survives there survives)
      · exact (linked_iff other there).mpr linked.1
      · have flagged := event atTurnValid own
        have turn := @attend_of_event _ false k.jiffies (valid_magic atTurnValid) flagged
        rw [turn] at own
        exact absurd own
          (undisturbed.delivered j u other there valid survives (found.2.symm.trans flagged))
    · exact undisturbed.awake c j u cleaned before there valid survives waits
  · apply (runnable_iff start ended).mpr
    rintro j u there linked ⟨c, before, cleaned, some_te, shares, waits⟩
    exact undisturbed.spared c j u cleaned before there some_te shares waits linked

theorem undisturbed_of_runList {tid : Tid} (done : schedulerRr k = .ok (tid, k'))
    (runList : RunList k.idleThread k') : Undisturbed k := by
  rcases startable_of_done done with ⟨t, start⟩
  rcases schedulerRr_ok start with ⟨k'', list, run, ended⟩
  rw [done] at run
  cases run
  rcases runList with ⟨more, runList⟩
  have chained := runList.chained
  rw [ended.current] at chained
  have same := list_of_chains ended.chained chained
  subst same
  exact undisturbed_of_complete start ended runList

theorem run_list_iff {tid : Tid} (done : schedulerRr k = .ok (tid, k')) :
    RunList k.idleThread k' ↔ Undisturbed k := by
  constructor
  · exact undisturbed_of_runList done
  · intro undisturbed
    rcases startable_of_done done with ⟨t, start⟩
    rcases schedulerRr_ok start with ⟨k'', list, run, ended⟩
    rw [done] at run
    cases run
    exact ⟨list, complete_of_undisturbed start ended undisturbed⟩

end Slots

section Calm

variable {k : Kernel}

theorem not_cleaned_of_calm
    (calm : ∀ j t, j ≠ INIT_TID → k.threadList j = some t → t.state ≠ .zombie) (c : Tid) :
    ¬Cleaned k c := by
  intro cleaned
  rw [Cleaned] at cleaned
  rcases cleaned with ⟨other, t, there, kind, -⟩
  rcases @attend_cases t false k.jiffies with zombie | linked | kept
  · exact calm c t other there zombie.2.2.2
  · rw [kind] at linked
    cases linked.1
  · exact kept.1 kind

theorem undisturbed_of_calm (noZombie : ∀ c, ¬Cleaned k c)
    (noEvent : ∀ j t, j ≠ INIT_TID → k.threadList j = some t → t.hasEventFromDs = false) :
    Undisturbed k := by
  constructor
  · intro c j t cleaned
    exact absurd cleaned (noZombie c)
  · intro j t other there valid survives event
    rw [noEvent j t other there] at event
    cases event
  · intro c j t cleaned
    exact absurd cleaned (noZombie c)

theorem runList_of_calm {t : Thread} (start : Startable k t)
    (calm : ∀ j u, j ≠ INIT_TID → k.threadList j = some u →
      u.hasEventFromDs = false ∧ u.state ≠ .zombie) :
    ∃ k', schedulerRr k = .ok (INIT_TID, k') ∧ RunList k.idleThread k' := by
  have noZombie := not_cleaned_of_calm fun j u other there => (calm j u other there).2
  rcases schedulerRr_ok start with ⟨k', list, done, ended⟩
  exact ⟨k', done, list, complete_of_undisturbed start ended
    (undisturbed_of_calm noZombie fun j u other there => (calm j u other there).1)⟩

end Calm

def idleThread : Thread :=
  { (default : Thread) with used := true, magic := 1234, te := some 0, state := .running }

/-- The idle thread and some others, before a round. -/
def beforeRound (others : Tid → Option Thread) : Kernel :=
  { twoThreads with
    threadList := fun i => if i = INIT_TID then some idleThread else others i
    initThread := some INIT_TID
    idleThread := some INIT_TID
    schedulerInfo := { (default : SchedulerInfo) with initialized := true, policy := .rr } }

theorem beforeRound_startable (others : Tid → Option Thread) :
    Startable (beforeRound others) idleThread :=
  ⟨rfl, rfl, rfl, rfl, rfl, rfl⟩

/-- One other thread, which is ready. -/
def oneReady : Kernel :=
  beforeRound fun i => if i = 1 then some control else none

theorem one_ready_runList :
    ∃ k', schedulerRr oneReady = .ok (INIT_TID, k') ∧ RunList oneReady.idleThread k' := by
  have only : ∀ j t, j ≠ INIT_TID → oneReady.threadList j = some t → t = control := by
    intro j t other there
    simp only [oneReady, beforeRound, if_neg other] at there
    split at there
    · exact (Option.some.inj there).symm
    · cases there
  have noZombie := not_cleaned_of_calm fun j t other there => by
    rw [only j t other there]
    exact (by decide : control.state ≠ .zombie)
  rcases schedulerRr_ok (beforeRound_startable _) with ⟨k', list, done, -⟩
  refine ⟨k', done, (run_list_iff done).mpr (undisturbed_of_calm noZombie ?_)⟩
  intro j t other there
  rw [only j t other there]
  rfl

/-- The thread 2 is a zombie of the process of the thread 1, which is ready. -/
def lateZombie : Kernel :=
  beforeRound twoThreads.threadList

theorem late_zombie_takes_linked :
    ∃ k', schedulerRr lateZombie = .ok (INIT_TID, k') ∧ ¬RunList lateZombie.idleThread k' := by
  rcases schedulerRr_ok (beforeRound_startable twoThreads.threadList) with ⟨k', list, done, -⟩
  refine ⟨k', done, ?_⟩
  intro runList
  have undisturbed := undisturbed_of_runList done runList
  have readyFirst : ∀ c : Tid, c < 2 → ¬Cleaned lateZombie c := by
    intro c before cleaned
    rw [Cleaned] at cleaned
    rcases cleaned with ⟨other, t, there, kind, -⟩
    have one : c = 1 := by
      have below : c.val < 2 := before
      have above : c.val ≠ 0 := fun zero => other (Fin.ext zero)
      exact Fin.ext (by omega : c.val = 1)
    subst one
    cases there
    exact absurd kind (by decide)
  have cleaned : Cleaned lateZombie 2 := by
    rw [Cleaned]
    exact ⟨by decide, exited, rfl, by decide, fun c before holds =>
      absurd holds (readyFirst c before)⟩
  have linked : Linked lateZombie 1 := by
    right
    refine ⟨control, rfl, ?_⟩
    rw [atTurn_of_untouched fun c before holds =>
      absurd holds (readyFirst c (lt_trans before (by decide)))]
    decide
  exact undisturbed.spared 2 1 control cleaned (by decide) rfl (by decide) rfl (by decide) linked

end Gramado.Ke.Sched
