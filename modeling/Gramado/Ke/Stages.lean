/-
The rounds of the priority-interleaving scheduler. One queue is built a round, over
the pointers of the last, and six rounds in a row go through the six priorities.
-/
import Gramado.Ke.RunList

namespace Gramado.Ke.Sched

open Gramado.Lib
open Gramado.Lib.Links

/-- What a thread in use has to keep for its place in the cycle. -/
def Thread.lasting (t : Thread) : Bool × Int32 × UInt64 :=
  (t.used, t.magic, t.priority)

def Thread.standing (t : Thread) : (Bool × Int32 × UInt64) × ThreadState :=
  (t.lasting, t.state)

section Attending

variable {t u : Thread} {b : Bool} {priority quantum jiffies : UInt64}

theorem checkSleep_lasting : ((t.checkAlarm jiffies).checkSleep jiffies).lasting = t.lasting := by
  have ready : ∀ u : Thread, (u.doReady jiffies).lasting = u.lasting := by
    intro u
    unfold Thread.doReady
    split <;> rfl
  have alarm : (t.checkAlarm jiffies).lasting = t.lasting := by
    unfold Thread.checkAlarm
    split <;> rfl
  rw [← alarm]
  unfold Thread.checkSleep
  split
  · exact ready _
  · rfl

theorem attendStage_lasting :
    (t.attendStage b priority quantum jiffies).2.lasting = t.lasting := by
  have kept : ((t.checkAlarm jiffies).checkSleep jiffies).lasting = t.lasting := checkSleep_lasting
  simp only [Thread.attendStage]
  split
  · split
    · exact kept
    · split
      · exact kept
      · split
        · exact kept
        · exact kept
  · rfl

theorem lasting_magic (same : t.lasting = u.lasting) : t.magic = u.magic :=
  congrArg (fun l => l.2.1) same

theorem lasting_valid (same : t.lasting = u.lasting) : t.valid = u.valid := by
  have used : t.used = u.used := congrArg Prod.fst same
  rw [Thread.valid, Thread.valid, used, lasting_magic same]

theorem attendStage_invalid (invalid : ¬t.valid) :
    t.attendStage b priority quantum jiffies = (.passed, t) := by
  rw [Thread.attendStage, if_neg invalid]

theorem attendStage_cases (valid : t.valid) :
    ((t.attendStage b priority quantum jiffies).1 = .cleaned ∧ t.state = .zombie ∧
      (t.attendStage b priority quantum jiffies).2.state = .zombie) ∨
    ((t.attendStage b priority quantum jiffies).1 = .exited ∧
      (t.attendStage b priority quantum jiffies).2.state = .zombie) ∨
    ((t.attendStage b priority quantum jiffies).1 = .linked ∧ t.priority = priority ∧
      (t.attendStage b priority quantum jiffies).2.state = .ready) ∨
    ((t.attendStage b priority quantum jiffies).1 = .passed ∧
      ¬(t.priority = priority ∧
        (t.attendStage b priority quantum jiffies).2.state = .ready)) := by
  have same : ((t.checkAlarm jiffies).checkSleep jiffies).priority = t.priority :=
    congrArg (fun l : Bool × Int32 × UInt64 => l.2.2) checkSleep_lasting
  simp only [Thread.attendStage]
  rw [if_pos valid, same]
  split_ifs with exits zombie matched isInit
  · exact Or.inr (Or.inl ⟨rfl, rfl⟩)
  · refine Or.inl ⟨rfl, ?_, zombie⟩
    have checked : (t.checkAlarm jiffies).valid := by
      rw [identity_valid checkAlarm_identity]
      exact valid
    rcases checkSleep_state checked with woken | kept
    · rw [zombie] at woken
      cases woken
    · rw [kept, checkAlarm_state] at zombie
      exact zombie
  · exact Or.inr (Or.inr (Or.inl ⟨rfl, matched.1, matched.2⟩))
  · exact Or.inr (Or.inr (Or.inl ⟨rfl, matched.1, matched.2⟩))
  · exact Or.inr (Or.inr (Or.inr ⟨rfl, matched⟩))

end Attending

/-- The kernel when `n` turns are over and no zombie has been found: every thread is
    as its own turn has left it. -/
structure Quiet (before : Kernel) (priority quantum : UInt64) (n : Nat) (k : Kernel)
    (list : List Tid) (last : Tid) : Prop where
  later : ∀ j, n ≤ j.val → k.threadList j = before.threadList j
  idle : (k.threadList INIT_TID).map Thread.standing =
    (before.threadList INIT_TID).map Thread.standing
  earlier : ∀ j, j.val < n → j ≠ INIT_TID → (k.threadList j).map Thread.standing =
    (before.threadList j).map fun t =>
      (t.attendStage false priority quantum before.jiffies).2.standing
  members : ∀ j, j ≠ INIT_TID → (j ∈ list ++ [last] ↔ j.val < n ∧
    ∃ t, before.threadList j = some t ∧
      (t.attendStage false priority quantum before.jiffies).1 = .linked)

/-- A zombie has been found and taken out of use. -/
def Broken (before k : Kernel) : Prop :=
  ∃ i t u, before.threadList i = some t ∧ t.state = .zombie ∧
    k.threadList i = some u ∧ u.magic ≠ 1234 ∧ u.state = .waitingForReuse

/-- A queue that is being built, from what `before` holds. -/
structure Building (before : Kernel) (priority quantum : UInt64) (n : Nat) (k : Kernel)
    (list : List Tid) (last : Tid) : Prop where
  frame : k.frame = before.frame
  strung : Strung n k list last
  there : ∃ t, k.threadList last = some t
  outcome : Quiet before priority quantum n k list last ∨ Broken before k

section Building

variable {before k k' : Kernel} {priority quantum : UInt64} {n : Nat} {i j last : Tid}
  {t u v z : Thread} {list : List Tid}

theorem broken_kept (broken : Broken before k)
    (kept : ∀ j u, k.threadList j = some u → u.magic ≠ 1234 → u.state = .waitingForReuse →
      ∃ u', k'.threadList j = some u' ∧ u'.magic ≠ 1234 ∧ u'.state = .waitingForReuse) :
    Broken before k' := by
  rcases broken with ⟨i, t, u, found, zombie, there, invalid, state⟩
  rcases kept i u there invalid state with ⟨u', there', gone⟩
  exact ⟨i, t, u', found, zombie, there', gone⟩

theorem broken_set (broken : Broken before k) (there : k.threadList i = some t)
    (own : t.magic ≠ 1234 → v = t) : Broken before (k.set i v) := by
  apply broken_kept broken
  intro j u found invalid state
  by_cases same : j = i
  · subst same
    rw [there] at found
    cases found
    rw [own invalid]
    exact ⟨t, set_self, invalid, state⟩
  · exact ⟨u, (set_other same).trans found, invalid, state⟩

theorem broken_zombie (broken : Broken before k) (zombie : Zombie k i z)
    (done : onZombie k i = .ok k') : Broken before k' := by
  apply broken_kept broken
  intro j u found invalid state
  have apart : j ≠ i := by
    rintro rfl
    rw [zombie.1] at found
    cases found
    rw [zombie.2.2] at state
    cases state
  rw [(onZombie_ok zombie done).1 j, if_neg apart, found, Option.map_some, visited_of_magic invalid]
  exact ⟨u, rfl, invalid, state⟩

/-- A turn that finds no zombie and stores what it makes of its thread. -/
theorem quiet_next {list' : List Tid} {last' : Tid}
    (quiet : Quiet before priority quantum n k list last) (here : i.val = n)
    (other : i ≠ INIT_TID) (found : before.threadList i = some t)
    (above : ∀ j, i < j → k'.threadList j = k.threadList j)
    (standing : ∀ j, (k'.threadList j).map Thread.standing =
      ((k.set i (t.attendStage false priority quantum before.jiffies).2).threadList j).map
        Thread.standing)
    (members : ∀ j, j ∈ list' ++ [last'] ↔ j ∈ list ++ [last] ∨
      (j = i ∧ (t.attendStage false priority quantum before.jiffies).1 = .linked)) :
    Quiet before priority quantum (n + 1) k' list' last' := by
  constructor
  · intro j past
    have after : i < j := by
      change i.val < j.val
      omega
    rw [above j after, quiet.later j (Nat.le_of_succ_le past)]
  · rw [standing, set_other other.symm, quiet.idle]
  · intro j past notIdle
    rw [standing]
    rcases Nat.lt_or_eq_of_le (Nat.le_of_lt_succ past) with less | equal
    · have apart : j ≠ i := by
        rintro rfl
        omega
      rw [set_other apart, quiet.earlier j less notIdle]
    · have same : j = i := Fin.ext (equal.trans here.symm)
      subst same
      rw [set_self, found]
      rfl
  · intro j notIdle
    rw [members j, quiet.members j notIdle]
    constructor
    · rintro (⟨less, linked⟩ | ⟨rfl, linked⟩)
      · exact ⟨Nat.lt_succ_of_lt less, linked⟩
      · exact ⟨by omega, t, found, linked⟩
    · rintro ⟨less, u, found', linked⟩
      rcases Nat.lt_or_eq_of_le (Nat.le_of_lt_succ less) with earlier | equal
      · exact Or.inl ⟨earlier, u, found', linked⟩
      · have same : j = i := Fin.ext (equal.trans here.symm)
        subst same
        rw [found] at found'
        cases found'
        exact Or.inr ⟨rfl, linked⟩

/-- A turn that stores what it makes of its thread, and links nothing. -/
theorem building_stored (building : Building before priority quantum n k list last)
    (here : i.val = n) (other : i ≠ INIT_TID) (there : k.threadList i = some t)
    (out : (t.attendStage false priority quantum before.jiffies).1 ≠ .linked)
    (threads : k'.threadList =
      (k.set i (t.attendStage false priority quantum before.jiffies).2).threadList)
    (frame : k'.frame = k.frame) :
    Building before priority quantum (n + 1) k' list last := by
  have apart : ∀ j, j ∈ list ++ [last] → j ≠ i := by
    rintro j member rfl
    have below := building.strung.below j member
    omega
  constructor
  · rw [frame, building.frame]
  · apply strung_kept building.strung (Nat.le_succ n)
    intro j member
    rw [threads, set_other (apart j (List.mem_append_left _ member))]
  · rcases building.there with ⟨u, found⟩
    rw [threads, set_other (apart last (by simp))]
    exact ⟨u, found⟩
  · rcases building.outcome with quiet | broken
    · left
      have found : before.threadList i = some t := by
        rw [← quiet.later i (Nat.le_of_eq here.symm), there]
      apply quiet_next quiet here other found
      · intro j past
        rw [threads, set_other (ne_of_gt past)]
      · intro j
        rw [threads]
      · intro j
        simp [out]
    · right
      have own : t.magic ≠ 1234 →
          (t.attendStage false priority quantum before.jiffies).2 = t := by
        intro invalid
        rw [attendStage_invalid fun valid => invalid (valid_magic valid)]
      apply broken_kept (broken_set broken there own)
      intro j u found invalid state
      rw [threads]
      exact ⟨u, found, invalid, state⟩

theorem building_linked (building : Building before priority quantum n k list last)
    (here : i.val = n) (other : i ≠ INIT_TID) (there : k.threadList i = some t)
    (linked : (t.attendStage false priority quantum before.jiffies).1 = .linked) :
    Building before priority quantum (n + 1)
      ((k.set i (t.attendStage false priority quantum before.jiffies).2).modify last
        fun t => { t with next := some i }) (list ++ [last]) i := by
  -- Those linked so far lie in earlier slots.
  have apart : ∀ j, j ∈ list ++ [last] → j ≠ i := by
    rintro j member rfl
    have below := building.strung.below j member
    omega
  have notLast : last ≠ i := apart last (by simp)
  rcases building.there with ⟨w, lastThere⟩
  constructor
  · rw [modify_frame, set_frame, building.frame]
  · apply strung_linked building.strung here
    · change (Kernel.threadList _ last).bind Thread.next = some i
      rw [modify_self, set_other notLast, lastThere]
      rfl
    · intro j member
      rw [modify_other (strung_apart building.strung member),
        set_other (apart j (List.mem_append_left _ member))]
  · rw [modify_other notLast.symm]
    exact ⟨_, set_self⟩
  · rcases building.outcome with quiet | broken
    · left
      have found : before.threadList i = some t := by
        rw [← quiet.later i (Nat.le_of_eq here.symm), there]
      apply quiet_next quiet here other found
      · intro j past
        have notTail : j ≠ last := by
          rintro rfl
          have below := building.strung.below j (by simp)
          have after : i.val < j.val := past
          omega
        rw [modify_other notTail, set_other (ne_of_gt past)]
      · intro j
        exact modify_map fun _ => rfl
      · intro j
        simp [linked, or_assoc]
    · right
      -- A thread that is not valid is left as it is.
      have own : t.magic ≠ 1234 →
          (t.attendStage false priority quantum before.jiffies).2 = t := by
        intro invalid
        rw [attendStage_invalid fun valid => invalid (valid_magic valid)]
      apply broken_kept (broken_set broken there own)
      intro j u found invalid state
      by_cases same : j = last
      · subst same
        rw [modify_some found, set_self]
        exact ⟨_, rfl, invalid, state⟩
      · rw [modify_other same]
        exact ⟨u, found, invalid, state⟩

theorem building_cleaned (building : Building before priority quantum n k list last)
    (here : i.val = n) (there : k.threadList i = some t)
    (cleaned : (t.attendStage false priority quantum before.jiffies).1 = .cleaned)
    (done : onZombie (k.set i (t.attendStage false priority quantum before.jiffies).2) i = .ok k') :
    Building before priority quantum (n + 1) k' list last := by
  have valid : t.valid := by
    by_contra invalid
    rw [attendStage_invalid invalid] at cleaned
    cases cleaned
  have zombie : t.state = .zombie ∧ Zombie
      (k.set i (t.attendStage false priority quantum before.jiffies).2) i
      (t.attendStage false priority quantum before.jiffies).2 := by
    have magic : (t.attendStage false priority quantum before.jiffies).2.magic = 1234 :=
      (lasting_magic attendStage_lasting).trans (valid_magic valid)
    rcases @attendStage_cases t false priority quantum before.jiffies valid with
      ⟨-, before, after⟩ | ⟨kind, -⟩ | ⟨kind, -⟩ | ⟨kind, -⟩
    · exact ⟨before, set_self, magic, after⟩
    · rw [cleaned] at kind
      cases kind
    · rw [cleaned] at kind
      cases kind
    · rw [cleaned] at kind
      cases kind
  have apart : ∀ j, j ∈ list ++ [last] → j ≠ i := by
    rintro j member rfl
    have below := building.strung.below j member
    omega
  constructor
  · rw [onZombie_frame done, set_frame, building.frame]
  · apply strung_kept building.strung (Nat.le_succ n)
    intro j member
    rw [onZombie_next zombie.2 done, set_other (apart j (List.mem_append_left _ member))]
  · rcases building.there with ⟨u, found⟩
    rw [(onZombie_ok zombie.2 done).1 last, if_neg (apart last (by simp)),
      set_other (apart last (by simp)), found]
    exact ⟨_, rfl⟩
  · right
    rcases building.outcome with quiet | broken
    · have found : before.threadList i = some t := by
        rw [← quiet.later i (Nat.le_of_eq here.symm), there]
      have after := (onZombie_ok zombie.2 done).1 i
      rw [if_pos rfl] at after
      exact ⟨i, t, _, found, zombie.1, after, by simp [Thread.reuse], rfl⟩
    · have own : t.magic ≠ 1234 →
          (t.attendStage false priority quantum before.jiffies).2 = t := fun invalid =>
        absurd (valid_magic valid) invalid
      exact broken_zombie (broken_set broken there own) zombie.2 done

theorem building_absent (building : Building before priority quantum n k list last)
    (here : i.val = n) (there : k.threadList i = none) :
    Building before priority quantum (n + 1) k list last := by
  have cases_of : ∀ j : Tid, j.val < n + 1 → j.val < n ∨ j = i := by
    intro j past
    rcases Nat.lt_or_eq_of_le (Nat.le_of_lt_succ past) with less | equal
    · exact Or.inl less
    · exact Or.inr (Fin.ext (equal.trans here.symm))
  constructor
  · exact building.frame
  · exact strung_kept building.strung (Nat.le_succ n) fun _ _ => rfl
  · exact building.there
  · rcases building.outcome with quiet | broken
    · left
      have found : before.threadList i = none := by
        rw [← quiet.later i (Nat.le_of_eq here.symm), there]
      constructor
      · intro j past
        exact quiet.later j (Nat.le_of_succ_le past)
      · exact quiet.idle
      · intro j past notIdle
        rcases cases_of j past with less | rfl
        · exact quiet.earlier j less notIdle
        · rw [there, found]
          rfl
      · intro j notIdle
        rw [quiet.members j notIdle]
        constructor
        · rintro ⟨less, linked⟩
          exact ⟨Nat.lt_succ_of_lt less, linked⟩
        · rintro ⟨less, t, found', linked⟩
          rcases cases_of j less with earlier | rfl
          · exact ⟨earlier, t, found', linked⟩
          · rw [found] at found'
            cases found'
    · exact Or.inr broken

theorem building_turn (building : Building before priority quantum n k list last)
    (init : before.initThread = some INIT_TID) (here : i.val = n) (other : i ≠ INIT_TID) :
    ∃ k' list' last', stageTurn INIT_TID priority quantum (k, last) i = .ok (k', last') ∧
      Building before priority quantum (n + 1) k' list' last' := by
  have jiffies : k.jiffies = before.jiffies := frame_jiffies building.frame
  cases there : k.threadList i with
  | none =>
      refine ⟨k, list, last, ?_, ?_⟩
      · simp only [stageTurn]
        rw [there]
      · exact building_absent building here there
  | some t =>
      have turn : stageTurn INIT_TID priority quantum (k, last) i =
          stageAfter (k.set i (t.attendStage false priority quantum before.jiffies).2) last i
            (t.attendStage false priority quantum before.jiffies).1 := by
        simp only [stageTurn]
        rw [there, jiffies, decide_eq_false other]
      rw [turn]
      cases kind : (t.attendStage false priority quantum before.jiffies).1 with
      | passed =>
          refine ⟨_, list, last, rfl, ?_⟩
          exact building_stored building here other there (by simp [kind]) rfl rfl
      | exited =>
          refine ⟨_, list, last, rfl, ?_⟩
          apply building_stored building here other there (by simp [kind])
          · unfold forgetForeground
            split <;> rfl
          · unfold forgetForeground
            split <;> rfl
      | cleaned =>
          have notInit : (k.set i
              (t.attendStage false priority quantum before.jiffies).2).initThread ≠ some i := by
            intro isInit
            have isInit : k.initThread = some i := isInit
            rw [frame_initThread building.frame, init] at isInit
            exact other (Option.some.inj isInit).symm
          rcases onZombie_returns notInit with ⟨k', done⟩
          refine ⟨k', list, last, ?_, building_cleaned building here there kind done⟩
          rw [stageAfter, done]
          rfl
      | linked =>
          exact ⟨_, list ++ [last], i, rfl, building_linked building here other there kind⟩

theorem building_start (idle : ∃ t, before.threadList INIT_TID = some t) :
    Building before priority quantum 1 before [] INIT_TID := by
  have first : ∀ j : Tid, j.val < 1 → j = INIT_TID := by
    intro j below
    have zero : j.val = 0 := by omega
    exact Fin.ext zero
  constructor
  · rfl
  · exact strung_start
  · exact idle
  · left
    constructor
    · exact fun _ _ => rfl
    · rfl
    · intro j below notIdle
      exact absurd (first j below) notIdle
    · intro j notIdle
      rw [List.nil_append, List.mem_singleton]
      constructor
      · intro idle
        exact absurd idle notIdle
      · rintro ⟨below, -⟩
        exact absurd (first j below) notIdle

theorem building_run (priority quantum : UInt64) (idle : ∃ t, before.threadList INIT_TID = some t)
    (init : before.initThread = some INIT_TID) :
    ∃ k' list last, places.foldlM (stageTurn INIT_TID priority quantum) (before, INIT_TID) =
        .ok (k', last) ∧
      Building before priority quantum THREAD_COUNT_MAX k' list last := by
  have turn : ∀ n (s : Kernel × Tid) (i : Tid), i.val = n → 1 ≤ n →
      (∃ list, Building before priority quantum n s.1 list s.2) →
      ∃ s', stageTurn INIT_TID priority quantum s i = .ok s' ∧
        ∃ list, Building before priority quantum (n + 1) s'.1 list s'.2 := by
    rintro n ⟨k, last⟩ i here begun ⟨list, building⟩
    have other : i ≠ INIT_TID := by
      rintro rfl
      rw [← here] at begun
      cases begun
    rcases building_turn building init here other with ⟨k', list', last', run, next⟩
    exact ⟨(k', last'), run, list', next⟩
  rcases Scan.foldlM_finRange turn (by decide) (s := (before, INIT_TID))
    ⟨[], building_start idle⟩ with
    ⟨⟨k', last⟩, run, list, final⟩
  rw [List.drop_one] at run
  exact ⟨k', list, last, run, final⟩

end Building

/-- A round that has found no zombie, with the queue that it has built. -/
structure Staged (k : Kernel) (priority : UInt64) (k' : Kernel) (list : List Tid) : Prop where
  idle : (k'.threadList INIT_TID).map Thread.standing =
    (k.threadList INIT_TID).map Thread.standing
  threads : ∀ j, j ≠ INIT_TID → (k'.threadList j).map Thread.standing =
    (k.threadList j).map fun t =>
      (t.attendStage false priority (targetQuantum priority) k.jiffies).2.standing
  members : ∀ j, j ≠ INIT_TID → (j ∈ list ↔ ∃ t, k.threadList j = some t ∧
    (t.attendStage false priority (targetQuantum priority) k.jiffies).1 = .linked)

/-- No thread changes its state. -/
def Steady (k k' : Kernel) : Prop :=
  ∀ j, (k'.threadList j).map Thread.state = (k.threadList j).map Thread.state

section Queues

variable {k k' : Kernel} {priority : UInt64} {j : Tid} {t : Thread} {list : List Tid}

theorem buildStageQueue_ok (stage : Nat) (priority : UInt64)
    (idle : ∃ t, k.threadList INIT_TID = some t)
    (init : k.initThread = some INIT_TID) :
    ∃ k' list, buildStageQueue k INIT_TID stage priority = .ok k' ∧
      (k'.initThread = k.initThread ∧ k'.idleThread = k.idleThread ∧
        k'.schedulerInfo = k.schedulerInfo) ∧
      Chain pointers k'.follow (some INIT_TID) (list.map some) ∧ list.Pairwise (· < ·) ∧
      (Staged k priority k' list ∨ Broken k k') := by
  generalize quantum : (if k.displayServer.initialized then QUANTUM_MIN else QUANTUM_MAX) = q
  let before : Kernel := (countStage k stage).modify INIT_TID fun t =>
    { t with quantum := q, next := none }
  have same : ∀ j, j ≠ INIT_TID → before.threadList j = k.threadList j := fun j other =>
    modify_other other
  have idleSame : (before.threadList INIT_TID).map Thread.standing =
      (k.threadList INIT_TID).map Thread.standing := modify_map fun _ => rfl
  have frame : before.frame = (countStage k stage).frame := modify_frame
  have jiffies : before.jiffies = k.jiffies := (frame_jiffies frame).trans rfl
  have initThread : before.initThread = k.initThread := (frame_initThread frame).trans rfl
  have there : ∃ t, before.threadList INIT_TID = some t := by
    rcases idle with ⟨t, idle⟩
    rw [idle] at idleSame
    rcases Option.map_eq_some_iff.mp idleSame with ⟨u, found, -⟩
    exact ⟨u, found⟩
  -- The loop over the slots, from the idle thread alone.
  rcases building_run priority (targetQuantum priority) there (initThread.trans init) with
    ⟨k₁, list, last, run, building⟩
  have built : buildStageQueue k INIT_TID stage priority =
      .ok (k₁.modify last fun t => { t with next := none }) := by
    have whole : (places.foldlM (stageTurn INIT_TID priority (targetQuantum priority))
        (before, INIT_TID) >>= fun out =>
          (.ok (out.1.modify out.2 fun t => { t with next := none }) : Except Stop Kernel)) =
        .ok (k₁.modify last fun t => { t with next := none }) := by
      rw [run]
      rfl
    rw [← whole]
    subst quantum
    rfl
  have final : (k₁.modify last fun t => { t with next := none }).frame =
      (countStage k stage).frame := by rw [modify_frame, building.frame, frame]
  refine ⟨_, list ++ [last], built, ⟨?_, ?_, ?_⟩, ?_, building.strung.ordered, ?_⟩
  · exact (frame_initThread final).trans rfl
  · exact (frame_idleThread final).trans rfl
  · exact (frame_schedulerInfo final).trans rfl
  · -- Behind the loop the last thread is unlinked from what it was linked to before.
    apply strung_cut building.strung
    · change (Kernel.threadList _ last).bind Thread.next = none
      rw [modify_self]
      cases k₁.threadList last <;> rfl
    · intro j member
      rw [modify_other (strung_apart building.strung member)]
  · have standing : ∀ j, ((k₁.modify last fun t => { t with next := none }).threadList j).map
        Thread.standing = (k₁.threadList j).map Thread.standing := fun j => modify_map fun _ => rfl
    rcases building.outcome with quiet | broken
    · left
      constructor
      · rw [standing, quiet.idle, idleSame]
      · intro j other
        rw [standing, quiet.earlier j j.isLt other, same j other, jiffies]
      · intro j other
        rw [quiet.members j other, same j other, jiffies]
        exact ⟨And.right, fun linked => ⟨j.isLt, linked⟩⟩
    · right
      -- Only its slot's thread was changed by hand, so what was broken in the loop stays broken.
      rcases broken with ⟨i, t, u, found, zombie, there, invalid, state⟩
      have first : (before.threadList i).map Thread.standing =
          (k.threadList i).map Thread.standing := by
        by_cases isIdle : i = INIT_TID
        · rw [isIdle, idleSame]
        · rw [same i isIdle]
      have last' := standing i
      rw [found, Option.map_some] at first
      rw [there, Option.map_some] at last'
      rcases Option.map_eq_some_iff.mp first.symm with ⟨t', found', equal⟩
      rcases Option.map_eq_some_iff.mp last' with ⟨u', there', equal'⟩
      refine ⟨i, t', u', found', ?_, there', ?_, ?_⟩
      · exact (congrArg Prod.snd equal).trans zombie
      · rw [lasting_magic (congrArg Prod.fst equal')]
        exact invalid
      · exact (congrArg Prod.snd equal').trans state

/-- A thread that is valid and ready throughout is linked if the stage is its own. -/
theorem linked_iff_priority (staged : Staged k priority k' list) (steady : Steady k k')
    (other : j ≠ INIT_TID) (there : k.threadList j = some t) (valid : t.valid)
    (ready : t.state = .ready) : j ∈ list ↔ t.priority = priority := by
  have same := staged.threads j other
  have state := steady j
  rw [there, Option.map_some] at same state
  rcases Option.map_eq_some_iff.mp same with ⟨u, found, equal⟩
  rw [found, Option.map_some] at state
  have after : (t.attendStage false priority (targetQuantum priority) k.jiffies).2.state =
      .ready := by
    rw [← ready, ← Option.some.inj state]
    exact (congrArg Prod.snd equal).symm
  have turns := @attendStage_cases t false priority (targetQuantum priority) k.jiffies valid
  rw [staged.members j other]
  constructor
  · rintro ⟨v, found', linked⟩
    rw [there] at found'
    cases found'
    rw [linked] at turns
    rcases turns with ⟨kind, -⟩ | ⟨kind, -⟩ | ⟨-, own, -⟩ | ⟨kind, -⟩
    · cases kind
    · cases kind
    · exact own
    · cases kind
  · intro own
    rw [after] at turns
    rcases turns with ⟨-, -, zombie⟩ | ⟨-, zombie⟩ | ⟨linked, -⟩ | ⟨-, out⟩
    · cases zombie
    · cases zombie
    · exact ⟨t, there, linked⟩
    · exact absurd ⟨own, rfl⟩ out

/-- Where no thread changes its state, no thread changes its standing. -/
theorem standing_of_staged (staged : Staged k priority k' list) (steady : Steady k k') :
    (k'.threadList j).map Thread.standing = (k.threadList j).map Thread.standing := by
  by_cases other : j = INIT_TID
  · rw [other, staged.idle]
  · have same := staged.threads j other
    have state := steady j
    cases there : k.threadList j with
    | none =>
        rw [there] at same
        exact same
    | some t =>
        rw [there, Option.map_some] at same state
        rcases Option.map_eq_some_iff.mp same with ⟨u, found, equal⟩
        rw [found, Option.map_some] at state
        have lasting : u.lasting = t.lasting :=
          (congrArg Prod.fst equal).trans attendStage_lasting
        rw [found, Option.map_some, Option.map_some]
        exact congrArg some (Prod.ext lasting (Option.some.inj state))

theorem steady_of_staged (staged : Staged k priority k' list)
    (still : ∀ j t, k.threadList j = some t →
      (t.attendStage false priority (targetQuantum priority) k.jiffies).2.state = t.state) :
    Steady k k' := by
  intro j
  have state : ∀ t : Option Thread, t.map Thread.state = (t.map Thread.standing).map Prod.snd := by
    intro t
    rw [Option.map_map]
    rfl
  by_cases other : j = INIT_TID
  · rw [other, state, state, staged.idle]
  · rw [state, staged.threads j other, Option.map_map]
    cases there : k.threadList j with
    | none => rfl
    | some t => exact congrArg some (still j t there)

theorem not_broken_of_steady (steady : Steady k k') : ¬Broken k k' := by
  rintro ⟨i, t, u, found, zombie, there, -, reuse⟩
  have state := steady i
  rw [found, there, Option.map_some, Option.map_some, zombie, reuse] at state
  cases state

end Queues

/-- The scheduler as it is initialized, with its idle thread. -/
structure Interleaving (k : Kernel) : Prop where
  initialized : k.schedulerInfo.initialized
  policy : k.schedulerInfo.policy = .priorityInterleaving
  maxStage : k.schedulerInfo.maxStage = 6
  initThread : k.initThread = some INIT_TID
  idleThread : k.idleThread = some INIT_TID
  there : ∃ t, k.threadList INIT_TID = some t ∧ t.magic = 1234

def stageOf (k : Kernel) : Nat :=
  (currentStage k.schedulerInfo).toNat

/-- The current queue is NULL-terminated and acyclic, in table order, and begins with
    the idle thread. -/
structure IsQueue (k : Kernel) (list : List Tid) : Prop where
  chained : Chain pointers k.follow k.lapic.currentq (list.map some)
  headed : list.head? = k.idleThread
  ordered : list.Pairwise (· < ·)

/-- One round, which finds `k` and leaves `k'`. -/
structure RoundDone (k k' : Kernel) (list : List Tid) : Prop where
  queue : IsQueue k' list
  initThread : k'.initThread = k.initThread
  idleThread : k'.idleThread = k.idleThread
  info : ∃ next, k'.schedulerInfo = { k.schedulerInfo with stage := next } ∧
    next.toNat = stageOf k % 6 + 1
  standing : Steady k k' → ∀ j,
    (k'.threadList j).map Thread.standing = (k.threadList j).map Thread.standing
  members : Steady k k' → ∀ j t, j ≠ INIT_TID → k.threadList j = some t → t.valid →
    t.state = .ready → t.priority.toNat ≤ 6 →
    (j ∈ list ↔ t.priority.toNat + stageOf k = 7)
  calm : (∀ j t, k.threadList j = some t → t.state ≠ .zombie ∧ ∀ priority quantum,
    (t.attendStage false priority quantum k.jiffies).2.state = t.state) → Steady k k'

section Rounds

variable {k k' : Kernel} {stage : UInt64} {j : Tid} {t : Thread} {list : List Tid}

theorem stageOf_le (interleaving : Interleaving k) : stageOf k ≤ 6 := by
  unfold stageOf currentStage
  rw [interleaving.maxStage]
  split
  · decide
  · next low =>
      rw [gt_iff_lt, UInt64.not_lt, UInt64.le_iff_toNat_le] at low
      exact low

theorem runStage_selects (low : 1 ≤ stage.toNat) (high : stage.toNat ≤ 6) :
    ∃ queue next, runStage k INIT_TID stage = selectQueue k INIT_TID queue (7 - stage) next ∧
      next.toNat = stage.toNat % 6 + 1 := by
  have cases_of : stage = 1 ∨ stage = 2 ∨ stage = 3 ∨ stage = 4 ∨ stage = 5 ∨ stage = 6 := by
    simp only [← UInt64.toNat_inj]
    change stage.toNat = 1 ∨ stage.toNat = 2 ∨ stage.toNat = 3 ∨ stage.toNat = 4 ∨
      stage.toNat = 5 ∨ stage.toNat = 6
    omega
  rcases cases_of with rfl | rfl | rfl | rfl | rfl | rfl
  · exact ⟨6, 2, rfl, rfl⟩
  · exact ⟨5, 3, rfl, rfl⟩
  · exact ⟨4, 4, rfl, rfl⟩
  · exact ⟨3, 5, rfl, rfl⟩
  · exact ⟨2, 6, rfl, rfl⟩
  · exact ⟨1, 1, rfl, rfl⟩

theorem setQueue_currentq (lapic : Lapic) (queue : Nat) (head : Option Tid) :
    (lapic.setQueue queue head).currentq = head := by
  unfold Lapic.setQueue
  simp only
  split <;> rfl

theorem round_selects (interleaving : Interleaving k) (some_stage : 1 ≤ stageOf k) :
    ∃ k' list, runStage (k.setStage (currentStage k.schedulerInfo)) INIT_TID
        (currentStage k.schedulerInfo) = .ok k' ∧ RoundDone k k' list := by
  rcases @runStage_selects (k.setStage (currentStage k.schedulerInfo))
    (currentStage k.schedulerInfo) some_stage (stageOf_le interleaving) with
    ⟨queue, next, selects, isNext⟩
  rcases interleaving.there with ⟨t, there, -⟩
  have idle : ∃ t, (k.setStage (currentStage k.schedulerInfo)).threadList INIT_TID = some t :=
    ⟨t, there⟩
  rcases buildStageQueue_ok queue (7 - currentStage k.schedulerInfo) idle
    interleaving.initThread with
    ⟨k₁, list, built, ⟨initThread, idleThread, info⟩, chained, ordered, outcome⟩
  refine ⟨{ k₁ with lapic := k₁.lapic.setQueue queue (some INIT_TID) }.setStage next, list,
    ?_, ?_⟩
  · rw [selects, selectQueue, built]
    rfl
  · constructor
    · constructor
      · change Chain pointers k₁.follow (k₁.lapic.setQueue queue (some INIT_TID)).currentq _
        rw [setQueue_currentq]
        exact chained
      · rw [chain_head chained]
        exact interleaving.idleThread.symm.trans idleThread.symm
      · exact ordered
    · exact initThread
    · exact idleThread
    · exact ⟨next, congrArg (fun info : SchedulerInfo => { info with stage := next }) info, isNext⟩
    · intro steady j
      have steady₁ : Steady (k.setStage (currentStage k.schedulerInfo)) k₁ := steady
      rcases outcome with staged | broken
      · have kept := @standing_of_staged _ _ _ j _ staged steady₁
        exact kept
      · exact absurd broken (not_broken_of_steady steady₁)
    · intro steady j t other there valid ready staged_priority
      have steady₁ : Steady (k.setStage (currentStage k.schedulerInfo)) k₁ := steady
      rcases outcome with staged | broken
      · -- What is linked has the priority that makes 7 with the stage.
        rw [linked_iff_priority staged steady₁ other there valid ready, ← UInt64.toNat_inj]
        have high := stageOf_le interleaving
        unfold stageOf at high ⊢
        have below : currentStage k.schedulerInfo ≤ 7 := by
          rw [UInt64.le_iff_toNat_le]
          exact Nat.le_succ_of_le high
        rw [UInt64.toNat_sub_of_le _ _ below]
        change t.priority.toNat = 7 - _ ↔ _
        omega
      · exact absurd broken (not_broken_of_steady steady₁)
    · intro still
      rcases outcome with staged | ⟨i, t, u, found, zombie, -⟩
      · have steady₁ := steady_of_staged staged fun j t there => (still j t there).2 _ _
        exact steady₁
      · exact absurd zombie (still i t found).1

theorem round_prepares (interleaving : Interleaving k) (no_stage : stageOf k = 0) :
    ∃ k' list, runStage (k.setStage (currentStage k.schedulerInfo)) INIT_TID
        (currentStage k.schedulerInfo) = .ok k' ∧ RoundDone k k' list := by
  have zero : currentStage k.schedulerInfo = 0 := UInt64.toNat_inj.mp no_stage
  rcases interleaving.there with ⟨t, there, -⟩
  let k₁ : Kernel := { k.setStage 0 with lapic := k.lapic.allQueues (some INIT_TID) }
  let k₂ : Kernel := k₁.modify INIT_TID fun t => { t with next := none }
  have frame : k₂.frame = k₁.frame := modify_frame
  have standing : ∀ j, (k₂.threadList j).map Thread.standing =
      (k.threadList j).map Thread.standing := fun j => modify_map fun _ => rfl
  refine ⟨(countStage k₂ 0).setStage 1, [INIT_TID], ?_, ?_⟩
  · rw [zero]
    rfl
  · have current : k₂.lapic.currentq = some INIT_TID :=
      congrArg Lapic.currentq (frame_lapic frame)
    have chained : Chain pointers k₂.follow (some INIT_TID) [some INIT_TID] := by
      have own : k₂.follow (some INIT_TID) = none := by
        change (k₂.threadList INIT_TID).bind Thread.next = none
        rw [modify_self]
        cases k₁.threadList INIT_TID <;> rfl
      refine ⟨rfl, Option.some_ne_none INIT_TID, ?_⟩
      rw [own]
      rfl
    constructor
    · constructor
      · change Chain pointers k₂.follow k₂.lapic.currentq _
        rw [current]
        exact chained
      · exact (interleaving.idleThread.symm.trans ((frame_idleThread frame).trans rfl).symm)
      · exact List.pairwise_singleton _ _
    · exact (frame_initThread frame).trans rfl
    · exact (frame_idleThread frame).trans rfl
    · refine ⟨1, ?_, by rw [no_stage]; rfl⟩
      exact congrArg (fun info : SchedulerInfo => { info with stage := 1 })
        (frame_schedulerInfo frame)
    · exact fun _ j => standing j
    · intro steady j t other found valid ready priority
      rw [List.mem_singleton, no_stage]
      constructor
      · intro same
        exact absurd same other
      · intro sum
        omega
    · intro still j
      have same := congrArg (Option.map Prod.snd) (standing j)
      rw [Option.map_map, Option.map_map] at same
      exact same

theorem round_done (interleaving : Interleaving k) :
    ∃ k' list, schedulerPriorityInterleaving k = .ok (INIT_TID, k') ∧ RoundDone k k' list := by
  have run : ∃ k' list, runStage (k.setStage (currentStage k.schedulerInfo)) INIT_TID
      (currentStage k.schedulerInfo) = .ok k' ∧ RoundDone k k' list := by
    rcases Nat.eq_zero_or_pos (stageOf k) with none | some_stage
    · exact round_prepares interleaving none
    · exact round_selects interleaving some_stage
  rcases run with ⟨k', list, run, done⟩
  refine ⟨k', list, ?_, done⟩
  rcases interleaving.there with ⟨t, there, magic⟩
  simp only [schedulerPriorityInterleaving]
  rw [interleaving.initialized, if_neg (by simp), if_neg (not_not_intro interleaving.policy),
    interleaving.initThread]
  simp only
  rw [there]
  simp only
  rw [if_neg (not_not_intro magic), run]
  rfl

end Rounds

/-- Between two rounds no thread changes its standing. -/
structure AtRest (k k' : Kernel) : Prop where
  standing : ∀ j, (k'.threadList j).map Thread.standing = (k.threadList j).map Thread.standing
  initThread : k'.initThread = k.initThread
  idleThread : k'.idleThread = k.idleThread
  info : k'.schedulerInfo = k.schedulerInfo

/-- Six rounds are a full cycle, behind the preparation where it is still to come. -/
def cycleLength (k : Kernel) : Nat :=
  if stageOf k = 0 then 7 else 6

/-- Consecutive rounds in which no thread changes its state: the round `r` finds
    `found r` and leaves `left r`. -/
structure Cycle (found left : Nat → Kernel) : Prop where
  begun : Interleaving (found 0)
  rounds : ∀ r, r < cycleLength (found 0) →
    ∃ tid, schedulerPriorityInterleaving (found r) = .ok (tid, left r)
  steady : ∀ r, r < cycleLength (found 0) → Steady (found r) (left r)
  between : ∀ r, r + 1 < cycleLength (found 0) → AtRest (left r) (found (r + 1))

def InQueue (k : Kernel) (j : Tid) : Prop :=
  ∃ list, IsQueue k list ∧ j ∈ list

section Cycles

variable {k k' : Kernel} {found left : Nat → Kernel} {j : Tid} {t : Thread} {list : List Tid}

theorem done_of_run (interleaving : Interleaving k) {tid : Tid}
    (run : schedulerPriorityInterleaving k = .ok (tid, k')) : ∃ list, RoundDone k k' list := by
  rcases round_done interleaving with ⟨k'', list, again, done⟩
  rw [run] at again
  cases again
  exact ⟨list, done⟩

theorem interleaving_next (interleaving : Interleaving k) (done : RoundDone k k' list)
    (steady : Steady k k') {next : Kernel} (rest : AtRest k' next) :
    Interleaving next ∧ stageOf next = stageOf k % 6 + 1 := by
  rcases done.info with ⟨stage, info, isNext⟩
  have info' : next.schedulerInfo = { k.schedulerInfo with stage } := rest.info.trans info
  have there : ∃ t, next.threadList INIT_TID = some t ∧ t.magic = 1234 := by
    rcases interleaving.there with ⟨t, there, magic⟩
    have standing := (rest.standing INIT_TID).trans (done.standing steady INIT_TID)
    rw [there] at standing
    rcases Option.map_eq_some_iff.mp standing with ⟨u, found, same⟩
    exact ⟨u, found, (lasting_magic (congrArg Prod.fst same)).trans magic⟩
  constructor
  · constructor
    · rw [info']
      exact interleaving.initialized
    · rw [info']
      exact interleaving.policy
    · rw [info']
      exact interleaving.maxStage
    · exact rest.initThread.trans (done.initThread.trans interleaving.initThread)
    · exact rest.idleThread.trans (done.idleThread.trans interleaving.idleThread)
    · exact there
  · rw [stageOf, info', currentStage, interleaving.maxStage, if_neg, isNext]
    rw [gt_iff_lt, UInt64.not_lt, UInt64.le_iff_toNat_le, isNext]
    change _ ≤ 6
    omega

/-- The stage that the round `r` of a cycle is in. -/
def stageAt (first r : Nat) : Nat :=
  if first = 0 then r else (first + r + 5) % 6 + 1

theorem cycle_found (cycle : Cycle found left) {r : Nat} (inside : r < cycleLength (found 0)) :
    Interleaving (found r) ∧ stageOf (found r) = stageAt (stageOf (found 0)) r ∧
      ∀ j, ((found r).threadList j).map Thread.standing =
        ((found 0).threadList j).map Thread.standing := by
  have high := stageOf_le cycle.begun
  induction r with
  | zero =>
      refine ⟨cycle.begun, ?_, fun _ => rfl⟩
      unfold stageAt
      split
      · next zero => exact zero
      · omega
  | succ r ih =>
      have before : r < cycleLength (found 0) := Nat.lt_of_succ_lt inside
      rcases ih before with ⟨interleaving, stage, standing⟩
      rcases cycle.rounds r before with ⟨tid, run⟩
      rcases done_of_run interleaving run with ⟨list, done⟩
      have steady := cycle.steady r before
      have rest := cycle.between r inside
      rcases interleaving_next interleaving done steady rest with ⟨next, nextStage⟩
      refine ⟨next, ?_, ?_⟩
      · rw [nextStage, stage]
        unfold cycleLength at inside
        unfold stageAt
        split at inside
        · next zero =>
            rw [if_pos zero, if_pos zero]
            omega
        · next positive =>
            rw [if_neg positive, if_neg positive]
            omega
      · intro j
        rw [rest.standing j, done.standing steady j, standing j]

theorem inQueue_iff (queue : IsQueue k list) : InQueue k j ↔ j ∈ list := by
  constructor
  · rintro ⟨more, again, member⟩
    rw [list_of_chains queue.chained again.chained]
    exact member
  · intro member
    exact ⟨list, queue, member⟩

/-- A thread is in the queue of the round whose stage is that of its priority. -/
theorem inQueue_iff_stage (cycle : Cycle found left) {r : Nat}
    (inside : r < cycleLength (found 0)) (other : j ≠ INIT_TID)
    (there : (found 0).threadList j = some t) (valid : t.valid) (ready : t.state = .ready)
    (priority : t.priority.toNat ≤ 6) :
    InQueue (left r) j ↔ t.priority.toNat + stageAt (stageOf (found 0)) r = 7 := by
  rcases cycle_found cycle inside with ⟨interleaving, stage, standing⟩
  rcases cycle.rounds r inside with ⟨tid, run⟩
  rcases done_of_run interleaving run with ⟨list, done⟩
  have same := standing j
  rw [there] at same
  rcases Option.map_eq_some_iff.mp same with ⟨u, found', equal⟩
  have lasting : u.lasting = t.lasting := congrArg Prod.fst equal
  have samePriority : u.priority = t.priority := congrArg (fun l => l.2.2) lasting
  have sameState : u.state = t.state := congrArg Prod.snd equal
  rw [inQueue_iff done.queue, done.members (cycle.steady r inside) j u other found'
    ((lasting_valid lasting).trans valid) (sameState.trans ready) (samePriority ▸ priority),
    samePriority, stage]

theorem stages_partition (cycle : Cycle found left) :
    (∀ r, r < cycleLength (found 0) → ∃ list, IsQueue (left r) list) ∧
    ∀ j t, j ≠ INIT_TID → (found 0).threadList j = some t → t.valid → t.state = .ready →
      PRIORITY_P1 ≤ t.priority → t.priority ≤ PRIORITY_P6 →
        ∃! r, r < cycleLength (found 0) ∧ InQueue (left r) j := by
  constructor
  · intro r inside
    rcases cycle_found cycle inside with ⟨interleaving, -, -⟩
    rcases cycle.rounds r inside with ⟨tid, run⟩
    rcases done_of_run interleaving run with ⟨list, done⟩
    exact ⟨list, done.queue⟩
  · intro j t other there valid ready low high
    rw [UInt64.le_iff_toNat_le] at low high
    change 1 ≤ t.priority.toNat at low
    change t.priority.toNat ≤ 6 at high
    -- A thread is queued in the round whose stage is its priority counted from the top.
    have placed : ∀ r, r < cycleLength (found 0) → (InQueue (left r) j ↔
        t.priority.toNat + stageAt (stageOf (found 0)) r = 7) := fun r inside =>
      inQueue_iff_stage cycle inside other there valid ready high
    have bound := stageOf_le cycle.begun
    unfold cycleLength at placed ⊢
    unfold stageAt at placed
    generalize stageOf (found 0) = first at placed bound
    generalize t.priority.toNat = own at placed low high
    -- The cycle has a stage 0 only where it starts with it.
    by_cases zero : first = 0
    · simp only [if_pos zero] at placed ⊢
      refine ⟨7 - own, ⟨by omega, (placed (7 - own) (by omega)).mpr (by omega)⟩, ?_⟩
      rintro r ⟨inside, queued⟩
      have stage := (placed r inside).mp queued
      omega
    · simp only [if_neg zero] at placed ⊢
      refine ⟨(13 - own - first) % 6, ⟨by omega, (placed _ (by omega)).mpr (by omega)⟩, ?_⟩
      rintro r ⟨inside, queued⟩
      have stage := (placed r inside).mp queued
      omega

end Cycles

/-- The idle thread and the thread 1, both ready and of one priority. -/
def inStage (stage : UInt64) : Kernel :=
  { oneReady with
    threadList := fun i =>
      if i = INIT_TID then
        some { idleThread with state := .ready, priority := PRIORITY_P4 }
      else if i = 1 then
        some { control with priority := PRIORITY_P4 }
      else
        none
    schedulerInfo :=
      { (default : SchedulerInfo) with
        initialized := true, policy := .priorityInterleaving, maxStage := 6, stage } }

theorem inStage_interleaving (stage : UInt64) : Interleaving (inStage stage) :=
  ⟨rfl, rfl, rfl, rfl, rfl, _, rfl, rfl⟩

theorem settledState {t : Thread} {priority quantum jiffies : UInt64} (ready : t.state = .ready)
    (awake : t.sleepInProgress = false) (stays : t.exitInProgress = false) :
    (t.attendStage false priority quantum jiffies).2.state = t.state := by
  have alarm : t.checkAlarm jiffies = t := by
    rw [Thread.checkAlarm, if_neg]
    rintro ⟨-, waiting, -⟩
    rw [ready] at waiting
    cases waiting
  have sleep : t.checkSleep jiffies = t := by
    rw [Thread.checkSleep, if_neg]
    rintro ⟨sleeps, -⟩
    rw [awake] at sleeps
    cases sleeps
  have exits : ¬(t.exitInProgress = true ∧ (!false) = true) := by
    rw [stays]
    simp
  have lives : t.state ≠ .zombie := by
    rw [ready]
    simp
  simp only [Thread.attendStage, alarm, sleep]
  rw [if_neg exits, if_neg lives]
  split_ifs <;> rfl

theorem inStage_still (stage : UInt64) : ∀ j t, (inStage stage).threadList j = some t →
    t.state ≠ .zombie ∧ ∀ priority quantum,
      (t.attendStage false priority quantum (inStage stage).jiffies).2.state = t.state := by
  intro j t there
  simp only [inStage] at there
  split_ifs at there
  · cases there
    refine ⟨by decide, fun priority quantum => ?_⟩
    exact settledState rfl rfl rfl
  · cases there
    refine ⟨by decide, fun priority quantum => ?_⟩
    exact settledState rfl rfl rfl

theorem inStage_cycle : ∃ left, Cycle (fun r => inStage (UInt64.ofNat (r + 1))) left ∧
    ∀ r, ∃ list, RoundDone (inStage (UInt64.ofNat (r + 1))) (left r) list := by
  choose left list done using fun r : Nat =>
    round_done (inStage_interleaving (UInt64.ofNat (r + 1)))
  have length : cycleLength (inStage (UInt64.ofNat (0 + 1))) = 6 := rfl
  have steady : ∀ r, Steady (inStage (UInt64.ofNat (r + 1))) (left r) := fun r =>
    (done r).2.calm (inStage_still _)
  refine ⟨left, ⟨inStage_interleaving _, ?_, fun r _ => steady r, ?_⟩, fun r => ⟨_, (done r).2⟩⟩
  · intro r inside
    exact ⟨_, (done r).1⟩
  · intro r inside
    rw [length] at inside
    constructor
    · intro j
      exact ((done r).2.standing (steady r) j).symm
    · exact (done r).2.initThread.symm
    · exact (done r).2.idleThread.symm
    · rcases (done r).2.info with ⟨next, info, isNext⟩
      rw [info]
      have small : r + 1 < 2 ^ 64 := by omega
      have stage : stageOf (inStage (UInt64.ofNat (r + 1))) = r + 1 := by
        have low : ¬UInt64.ofNat (r + 1) > 6 := by
          rw [gt_iff_lt, UInt64.not_lt, UInt64.le_iff_toNat_le, UInt64.toNat_ofNat_of_lt' small]
          change r + 1 ≤ 6
          omega
        change (if UInt64.ofNat (r + 1) > 6 then 1 else UInt64.ofNat (r + 1)).toNat = r + 1
        rw [if_neg low, UInt64.toNat_ofNat_of_lt' small]
      have next_eq : next = UInt64.ofNat (r + 1 + 1) := by
        rw [← UInt64.toNat_inj, isNext, stage,
          UInt64.toNat_ofNat_of_lt' (by change _ < 2 ^ 64; omega)]
        omega
      rw [next_eq]
      rfl

/-- The thread 1 is in one queue of the cycle. -/
theorem ready_thread_in_one_queue :
    ∃ left, Cycle (fun r => inStage (UInt64.ofNat (r + 1))) left ∧
      ∃! r, r < 6 ∧ InQueue (left r) 1 := by
  rcases inStage_cycle with ⟨left, cycle, -⟩
  have placed := (stages_partition cycle).2 1 { control with priority := PRIORITY_P4 } (by decide)
    rfl rfl rfl (by decide) (by decide)
  exact ⟨left, cycle, placed⟩

/-- The idle thread is ready too, and is in all of them. -/
theorem idle_thread_in_every_queue :
    ∃ found left t, Cycle found left ∧ (found 0).threadList INIT_TID = some t ∧ t.valid ∧
      t.state = .ready ∧ PRIORITY_P1 ≤ t.priority ∧ t.priority ≤ PRIORITY_P6 ∧
      ¬∃! r, r < cycleLength (found 0) ∧ InQueue (left r) INIT_TID := by
  rcases inStage_cycle with ⟨left, cycle, done⟩
  refine ⟨_, left, _, cycle, rfl, rfl, rfl, by decide, by decide, ?_⟩
  have queued : ∀ r, InQueue (left r) INIT_TID := by
    intro r
    rcases done r with ⟨list, done⟩
    have headed := done.queue.headed
    rw [done.idleThread] at headed
    exact ⟨list, done.queue, List.mem_of_mem_head? headed⟩
  rintro ⟨r, -, only⟩
  have first := only 0 ⟨by decide, queued 0⟩
  have second := only 1 ⟨by decide, queued 1⟩
  omega

end Gramado.Ke.Sched
