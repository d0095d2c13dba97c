/-
What holds of the windows whatever is asked of the display server, in order or not: the
stacking list ends, whoever has the magic number is in use, and nothing but the stacking
changes the links of windows that are not overlapped ones. Each function of the server is
one rule about the windows below a bound, which are those from before a creation.
-/
import Gramado.Winsys.WindowCreation

namespace Gramado.Winsys.Windows

open Gramado.Ke
open Gramado.Lib.Fallible
open Gramado.Lib.Pointers
open Function

/-- The stacking list is one of overlapped windows, not all of them in use. -/
structure Sane (s : Server) : Prop where
  used : ∀ v, (s.window v).magic = 1234 → (s.window v).used = true
  below : ∀ i v, s.windowList i = some v → v < s.made
  unmade : ∀ v, s.made ≤ v → ¬s.Live v
  stacked : ∃ list, Listed s list ∧ ∀ v ∈ list, (s.window v).type = .overlapped

/-- From `s` to `t`, the first `n` windows keep what they are, and no window of theirs that
    was destroyed comes back. -/
structure Carries (n : Nat) (s t : Server) : Prop where
  made : s.made ≤ t.made
  type : ∀ v, v < n → (t.window v).type = (s.window v).type
  parent : ∀ v, v < n → (t.window v).parent = (s.window v).parent
  next : ∀ v, v < n → (s.window v).type ≠ .overlapped → t.next v = s.next v
  live : ∀ v, v < n → t.Live v → s.Live v
  root : t.manager.rootWindow = s.manager.rootWindow
  sane : Sane t

/-- The change has nothing to do with what `Carries` is about. -/
def Keeping (change : Window → Window) : Prop :=
  ∀ x, (change x).used = x.used ∧ (change x).magic = x.magic ∧ (change x).type = x.type ∧
    (change x).parent = x.parent ∧ (change x).next = x.next

section Steps

variable {n : Nat} {s t u : Server} {v w : Nat} {change : Window → Window}

theorem Sane.live_below (sane : Sane s) (live : s.Live v) : v < s.made :=
  Nat.lt_of_not_le fun beyond => sane.unmade v beyond live

theorem Sane.live (sane : Sane s) (magic : (s.window v).magic = 1234) : s.Live v :=
  ⟨sane.used v magic, magic⟩

theorem Carries.refl (sane : Sane s) : Carries n s s :=
  ⟨Nat.le_refl _, fun _ _ => rfl, fun _ _ => rfl, fun _ _ _ => rfl, fun _ _ live => live, rfl,
    sane⟩

theorem Carries.trans (first : Carries n s t) (second : Carries n t u) : Carries n s u where
  made := first.made.trans second.made
  type v below := (second.type v below).trans (first.type v below)
  parent v below := (second.parent v below).trans (first.parent v below)
  next v below other :=
    (second.next v below (by rw [first.type v below]; exact other)).trans (first.next v below other)
  live v below live := first.live v below (second.live v below live)
  root := second.root.trans first.root
  sane := second.sane

theorem manage_carries (sane : Sane s) {change : WindowManager → WindowManager}
    (root : (change s.manager).rootWindow = s.manager.rootWindow)
    (first : (change s.manager).firstWindow = s.manager.firstWindow) :
    Carries n s (s.manage change) := by
  obtain ⟨list, listed, types⟩ := sane.stacked
  refine ⟨Nat.le_refl _, fun _ _ => rfl, fun _ _ => rfl, fun _ _ _ => rfl, fun _ _ live => live,
    root, sane.used, sane.below, sane.unmade, list, ⟨?_, listed.2⟩, types⟩
  change Linked s.next (change s.manager).firstWindow list
  rw [first]
  exact listed.1

theorem unstack_carries (sane : Sane s) {change : WindowManager → WindowManager} {list : List Nat}
    (root : (change s.manager).rootWindow = s.manager.rootWindow)
    (linked : Linked s.next (change s.manager).firstWindow list)
    (inside : ∀ v ∈ list, v < s.made ∧ (s.window v).type = .overlapped) :
    Carries n s (s.manage change) :=
  ⟨Nat.le_refl _, fun _ _ => rfl, fun _ _ => rfl, fun _ _ _ => rfl, fun _ _ live => live, root,
    sane.used, sane.below, sane.unmade, list, ⟨linked, fun v member => (inside v member).1⟩,
    fun v member => (inside v member).2⟩

theorem set_carries (sane : Sane s) (w : Nat) (keeping : Keeping change) :
    Carries n s (s.set w change) := by
  have each : ∀ v, ((s.set w change).window v).used = (s.window v).used ∧
      ((s.set w change).window v).magic = (s.window v).magic ∧
      ((s.set w change).window v).type = (s.window v).type ∧
      ((s.set w change).window v).parent = (s.window v).parent ∧
      (s.set w change).next v = s.next v := by
    intro v
    by_cases same : v = w
    · subst same
      rw [Server.next, set_window_self]
      exact keeping _
    · rw [Server.next, set_window_of_ne same]
      exact ⟨rfl, rfl, rfl, rfl, rfl⟩
  have live : ∀ v, (s.set w change).Live v → s.Live v := by
    intro v live
    rw [Server.Live, (each v).1, (each v).2.1] at live
    exact live
  obtain ⟨list, listed, types⟩ := sane.stacked
  refine ⟨Nat.le_refl _, fun v _ => (each v).2.2.1, fun v _ => (each v).2.2.2.1,
    fun v _ _ => (each v).2.2.2.2, fun v _ => live v, rfl, ?_, sane.below,
    fun v beyond alive => sane.unmade v beyond (live v alive), list, ⟨?_, listed.2⟩, ?_⟩
  · intro v magic
    rw [(each v).2.1] at magic
    rw [(each v).1]
    exact sane.used v magic
  · exact linked_congr (fun v _ => (each v).2.2.2.2) listed.1
  · intro v member
    rw [(each v).2.2.1]
    exact types v member

theorem kill_carries (sane : Sane s) (w : Nat) : Carries n s (s.kill w) := by
  have each : ∀ v, ((s.kill w).window v).type = (s.window v).type ∧
      ((s.kill w).window v).parent = (s.window v).parent ∧ (s.kill w).next v = s.next v := by
    intro v
    by_cases same : v = w
    · subst same
      rw [Server.next, Server.kill, set_window_self]
      exact ⟨rfl, rfl, rfl⟩
    · rw [Server.next, kill_window_of_ne same]
      exact ⟨rfl, rfl, rfl⟩
  have live : ∀ v, (s.kill w).Live v → s.Live v := by
    intro v live
    by_cases same : v = w
    · exact absurd live (same ▸ kill_dead)
    · exact (live_congr (kill_window_of_ne same)).mp live
  obtain ⟨list, listed, types⟩ := sane.stacked
  refine ⟨Nat.le_refl _, fun v _ => (each v).1, fun v _ => (each v).2.1,
    fun v _ _ => (each v).2.2, fun v _ => live v, rfl, ?_, sane.below,
    fun v beyond alive => sane.unmade v beyond (live v alive), list, ⟨?_, listed.2⟩, ?_⟩
  · intro v magic
    by_cases same : v = w
    · rw [same, Server.kill, set_window_self] at magic
      cases magic
    · rw [kill_window_of_ne same] at magic ⊢
      exact sane.used v magic
  · exact linked_congr (fun v _ => (each v).2.2) listed.1
  · intro v member
    rw [(each v).1]
    exact types v member

theorem unlist_carries (sane : Sane s) (w : Nat) : Carries n s (s.unlist w) :=
  ⟨Nat.le_refl _, fun _ _ => rfl, fun _ _ => rfl, fun _ _ _ => rfl, fun _ _ live => live, rfl,
    sane.used, fun i v named => sane.below i v (unlist_iff.mp named).1, sane.unmade, sane.stacked⟩

theorem skip_carries (sane : Sane s) : Carries n s { s with made := s.made + 1 } := by
  obtain ⟨list, listed, types⟩ := sane.stacked
  exact ⟨Nat.le_succ _, fun _ _ => rfl, fun _ _ => rfl, fun _ _ _ => rfl, fun _ _ live => live, rfl,
    sane.used, fun i v named => Nat.lt_succ_of_lt (sane.below i v named),
    fun v beyond => sane.unmade v (Nat.le_of_succ_le beyond), list,
    ⟨listed.1, fun v member => Nat.lt_succ_of_lt (listed.2 v member)⟩, types⟩

theorem add_new_carries (sane : Sane s) (bound : n ≤ s.made) {x : Window}
    (used : x.magic = 1234 → x.used = true) : Carries n s (add s x) := by
  have old : ∀ v, v < n → (add s x).window v = s.window v := fun v below =>
    add_window_of_ne (Nat.ne_of_lt (below.trans_le bound))
  obtain ⟨list, listed, types⟩ := sane.stacked
  refine ⟨Nat.le_succ _, fun v below => by rw [old v below], fun v below => by rw [old v below],
    fun v below _ => by rw [Server.next, old v below, Server.next],
    fun v below => (live_congr (old v below)).mp, rfl, ?_,
    fun i v named => Nat.lt_succ_of_lt (sane.below i v named), ?_, list, listed_add listed, ?_⟩
  · intro v magic
    by_cases same : v = s.made
    · rw [same, add_window] at magic ⊢
      exact used magic
    · rw [add_window_of_ne same] at magic ⊢
      exact sane.used v magic
  · intro v beyond live
    have above : s.made < v := beyond
    rw [live_congr (add_window_of_ne (Nat.ne_of_gt above))] at live
    exact sane.unmade v above.le live
  · intro v member
    rw [add_window_of_ne (Nat.ne_of_lt (listed.2 v member))]
    exact types v member

theorem retype_carries (sane : Sane s) (new : n ≤ w) (other : (s.window w).type ≠ .overlapped)
    (type : WindowType) : Carries n s (s.set w fun window => { window with type := type }) := by
  have old : ∀ v, v < n → v ≠ w := fun v below => Nat.ne_of_lt (below.trans_le new)
  have live : ∀ v, (s.set w fun window => { window with type := type }).Live v ↔ s.Live v := by
    intro v
    by_cases same : v = w
    · rw [same, Server.Live, set_window_self]
      exact Iff.rfl
    · exact live_congr (set_window_of_ne same)
  obtain ⟨list, listed, types⟩ := sane.stacked
  refine ⟨Nat.le_refl _, fun v below => by rw [set_window_of_ne (old v below)],
    fun v below => by rw [set_window_of_ne (old v below)], ?_, fun v _ => (live v).mp, rfl, ?_,
    sane.below, fun v beyond => (live v).not.mpr (sane.unmade v beyond), list, ⟨?_, listed.2⟩, ?_⟩
  · intro v below _
    rw [Server.next, set_window_of_ne (old v below), Server.next]
  · intro v magic
    by_cases same : v = w
    · subst same
      rw [set_window_self] at magic ⊢
      exact sane.used v magic
    · rw [set_window_of_ne same] at magic ⊢
      exact sane.used v magic
  · rw [set_next]
    refine linked_congr (fun v _ => ?_) listed.1
    by_cases same : v = w
    · rw [same, update_self]
      rfl
    · exact update_of_ne same ..
  · intro v member
    have apart : v ≠ w := fun same => other (same ▸ types v member)
    rw [set_window_of_ne apart]
    exact types v member

end Steps

section Stacking

variable {n : Nat} {s t : Server} {v w : Nat} {list : List Nat} {window : Option Nat}

theorem activate_carries (sane : Sane s) (window : Option Nat) :
    Carries n s (setActiveWindow s window) := by
  unfold setActiveWindow
  repeat' split
  all_goals first
    | exact Carries.refl sane
    | exact manage_carries sane rfl rfl

theorem activate_next : (setActiveWindow s window).next = s.next := by
  unfold setActiveWindow
  repeat' split
  all_goals rfl

/-- Only the last window of the list and the one that is added have other links. -/
theorem add_next (listed : Listed s list) (added : wmAddWindowToTop s (some w) = .ok t)
    (other : v ≠ w) (inner : list.getLast? ≠ some v) : t.next v = s.next v := by
  unfold wmAddWindowToTop at added
  dsimp only at added
  split at added
  · cases added
    rfl
  · split at added
    · cases added
      rw [activate_next, set_next, update_of_ne other]
      rfl
    · rw [stack_listed listed] at added
      simp only [bind, Except.bind] at added
      cases last : list.getLast? with
      | none =>
          rw [last] at added
          cases added
          rfl
      | some end_ =>
          rw [last] at added inner
          cases added
          have apart : v ≠ end_ := fun same => inner (congrArg some same.symm)
          rw [activate_next, set_next, update_of_ne other, manage_next, set_next,
            update_of_ne other, set_next, update_of_ne apart]

theorem add_carries (sane : Sane s) (window : Option Nat) :
    Returns (wmAddWindowToTop s window) (Carries n s) := by
  intro t added
  cases window with
  | none =>
      cases added
      exact Carries.refl sane
  | some w =>
      by_cases overlapped : s.Overlapped w
      · obtain ⟨list, listed, types⟩ := sane.stacked
        obtain ⟨t', added', relinked, listed', manager⟩ :=
          add_taken listed overlapped (sane.live_below overlapped.1)
        rw [added] at added'
        obtain rfl := Except.ok.inj added'
        have inside : ∀ v ∈ upTo w (s.usable list), (s.window v).type = .overlapped := by
          intro v member
          obtain old | rfl := mem_upTo.mp member
          · have inner := List.takeWhile_subset _ old
            rw [Server.usable] at inner
            split at inner
            · exact types v inner
            · cases inner
          · exact overlapped.2
        refine ⟨relinked.made.ge, fun v _ => relinked.type v, ?_, ?_,
          fun v _ => (relinked.live v).mp,
          ?_, ?_, ?_, ?_, _, listed', ?_⟩
        · intro v _
          rw [relinked.window v]
        · intro v _ other
          refine add_next listed added (fun same => other (same ▸ overlapped.2)) fun last => ?_
          exact other (types v (List.mem_of_getLast? last))
        · rw [manager]
          unfold WindowManager.activate WindowManager.between
          split <;> rfl
        · intro v magic
          rw [relinked.magic] at magic
          rw [relinked.window v]
          exact sane.used v magic
        · intro i v named
          rw [relinked.windowList] at named
          rw [relinked.made]
          exact sane.below i v named
        · intro v beyond live
          rw [relinked.made] at beyond
          exact sane.unmade v beyond ((relinked.live v).mp live)
        · intro v member
          rw [relinked.type]
          exact inside v member
      · rw [add_refused overlapped] at added
        cases added
        exact Carries.refl sane

theorem foldlM_carries {ι : Type} {step : Server → ι → Except Stop Server}
    (each : ∀ s i, Sane s → Returns (step s i) (Carries n s)) (list : List ι) (sane : Sane s) :
    Returns (list.foldlM step s) (Carries n s) := by
  induction list generalizing s with
  | nil =>
      intro t done
      cases done
      exact Carries.refl sane
  | cons i rest ih =>
      rw [List.foldlM_cons]
      refine returns_of_bind (each s i sane) fun u first => ?_
      exact (ih first.sane).mono fun t later => first.trans later

theorem rebuild_carries (sane : Sane s) : Returns (wmRebuildList s) (Carries n s) := by
  rw [wmRebuildList_eq]
  refine foldlM_carries (fun s i sane => ?_) _ sane
  unfold rebuildSlot
  split
  · exact returns_ok.mpr (Carries.refl sane)
  · split
    · exact add_carries sane _
    · exact returns_ok.mpr (Carries.refl sane)

theorem tile_carries (sane : Sane s) : Returns (wmTile s) (Carries n s) := by
  obtain ⟨list, listed, -⟩ := sane.stacked
  unfold wmTile
  split
  · rw [stack_listed listed]
    simp only [bind, Except.bind]
    split
    · exact returns_ok.mpr (Carries.refl sane)
    · exact returns_ok.mpr (manage_carries sane rfl rfl)
  · exact returns_ok.mpr (Carries.refl sane)

theorem updateDesktop_eq (s : Server) (tile : Bool) : wmUpdateDesktop s tile =
    (if tile then wmTile s else .ok s) >>= fun t => wmUpdateDesktop t false := by
  cases tile <;> rfl

theorem untiled_carries (sane : Sane s) : Returns (wmUpdateDesktop s false) (Carries n s) := by
  unfold wmUpdateDesktop
  simp only [Bool.false_eq_true, if_false, bind, Except.bind]
  split
  · exact returns_error.mpr trivial
  · split
    · have empty : Linked s.next none [] := rfl
      exact returns_ok.mpr (unstack_carries sane rfl empty fun v member =>
        absurd member List.not_mem_nil)
    · obtain ⟨list, listed, -⟩ := sane.stacked
      rw [stack_listed listed]
      have last := fun l => @manage_carries n s sane
        (fun manager => { manager with lastWindow := some l }) rfl rfl
      dsimp only
      split
      · exact returns_error.mpr trivial
      · exact returns_ok.mpr ((last _).trans (activate_carries (last _).sane _))

theorem updateDesktop_carries (sane : Sane s) (tile : Bool) :
    Returns (wmUpdateDesktop s tile) (Carries n s) := by
  have tiled : Returns (if tile then wmTile s else .ok s) (Carries n s) := by
    split
    · exact tile_carries sane
    · exact returns_ok.mpr (Carries.refl sane)
  rw [updateDesktop_eq]
  refine returns_of_bind tiled fun t carried => ?_
  exact (untiled_carries carried.sane).mono fun u done => carried.trans done

theorem remove_carries (sane : Sane s) (w : Nat) :
    Returns (wmRemoveWindowFromList s w) (Carries n s) := by
  unfold wmRemoveWindowFromList
  split
  · exact returns_error.mpr trivial
  · split
    · exact returns_ok.mpr (kill_carries sane w)
    · exact returns_ok.mpr (Carries.refl sane)

theorem drop_carries (sane : Sane s) (first : s.manager.firstWindow = some w) :
    Carries n s (s.manage fun manager => { manager with firstWindow := s.next w }) := by
  obtain ⟨list, listed, types⟩ := sane.stacked
  have linked := listed.1
  rw [first] at linked
  cases list with
  | nil => cases linked
  | cons f rest =>
      obtain ⟨same, later⟩ := linked
      obtain rfl := Option.some.inj same
      exact unstack_carries sane rfl later fun v member =>
        ⟨listed.2 v (List.mem_cons_of_mem w member), types v (List.mem_cons_of_mem w member)⟩

theorem takeToTop_carries (sane : Sane s) (w : Nat) : Returns (takeToTop s w) (Carries n s) := by
  unfold takeToTop
  dsimp only
  split
  · exact returns_ok.mpr (Carries.refl sane)
  · have removed : Returns (if s.manager.firstWindow ≠ some w then do
        let s ← wmRemoveWindowFromList s w
        wmAddWindowToTop s (some w)
      else
        .ok s) (Carries n s) := by
      split
      · refine returns_of_bind (@remove_carries n s sane w) fun t gone => ?_
        exact (add_carries gone.sane _).mono fun u added => gone.trans added
      · exact returns_ok.mpr (Carries.refl sane)
    refine returns_map.mpr (removed.mono fun t carried => ?_)
    split
    · rename_i head
      exact carried.trans (drop_carries carried.sane head)
    · exact carried

theorem updateDesktop2_returns (s : Server) : Returns (wmUpdateDesktop2 s) (· = s) := by
  unfold wmUpdateDesktop2
  rw [returns_bind]
  intro list _
  repeat' split
  · exact returns_error.mpr trivial
  · exact returns_error.mpr trivial
  · exact returns_error.mpr trivial
  · exact returns_ok.mpr rfl

theorem updateDesktop3_carries (sane : Sane s) (window : Option Nat) :
    Returns (wmUpdateDesktop3 s window) (Carries n s) := by
  unfold wmUpdateDesktop3
  split
  · exact returns_ok.mpr (Carries.refl sane)
  · rename_i w
    refine returns_of_bind (@takeToTop_carries n s sane w) fun t taken => ?_
    have active := taken.trans (activate_carries taken.sane (some w))
    refine (updateDesktop2_returns _).mono fun u same => ?_
    rw [same]
    exact active

theorem setLastWindow_carries (sane : Sane s) (window : Option Nat) :
    Returns (setLastWindow s window) (Carries n s) := by
  unfold setLastWindow
  repeat' split
  · exact returns_ok.mpr (Carries.refl sane)
  · exact returns_ok.mpr (Carries.refl sane)
  · exact add_carries sane _

end Stacking

section Creating

variable {n : Nat} {s t : Server} {w : Nat} {mark : Window → Window}
  {keep : Int32 → Controls → Controls}

theorem register_carries (sane : Sane s) {window : Option Nat}
    (below : ∀ w, window = some w → w < s.made) : Carries n s (registerWindow s window).2 := by
  cases window with
  | none => exact Carries.refl sane
  | some w =>
      have counted : Carries n s { s with windowsCount := s.windowsCount + 1 } :=
        ⟨Nat.le_refl _, fun _ _ => rfl, fun _ _ => rfl, fun _ _ _ => rfl, fun _ _ live => live,
          rfl, sane.used, sane.below, sane.unmade, sane.stacked⟩
      obtain ⟨-, refused⟩ | ⟨i, -, filed⟩ := register_cases s w
      · rw [refused]
        exact counted
      · rw [filed]
        have named : Sane { s with
            windowsCount := s.windowsCount + 1
            windowList := update s.windowList i (some w) } := by
          refine ⟨sane.used, ?_, sane.unmade, sane.stacked⟩
          intro j v named
          dsimp only at named
          by_cases same : j = i
          · rw [same, update_self, Option.some.injEq] at named
            exact named ▸ below w rfl
          · rw [update_of_ne same] at named
            exact sane.below j v named
        have listed : Carries n s { s with
            windowsCount := s.windowsCount + 1
            windowList := update s.windowList i (some w) } :=
          ⟨Nat.le_refl _, fun _ _ => rfl, fun _ _ => rfl, fun _ _ _ => rfl,
            fun _ _ live => live, rfl, named⟩
        refine listed.trans ?_
        dsimp only [Server.file]
        refine set_carries named w ?_
        exact fun _ => ⟨rfl, rfl, rfl, rfl, rfl⟩

/-- What is made is the next window, of the type that was asked for, or nothing. -/
theorem draw_carries (sane : Sane s) (bound : n ≤ s.made) (type : WindowType) (style : UInt64)
    (state : Int32) (parent : Option Nat) :
    ∃ t, Carries n s t ∧ (drawWindow s type style state parent = (none, t) ∨
      (drawWindow s type style state parent = (some s.made, t) ∧
        t = add s (newWindow (s.canvases style) type style state parent))) := by
  obtain none | made := draw_cases s type style state parent
  · exact ⟨_, skip_carries sane, .inl none⟩
  · exact ⟨_, add_new_carries sane bound fun _ => rfl, .inr ⟨made, rfl⟩⟩

theorem control_carries (sane : Sane s) (bound : n ≤ s.made) (tb : Nat) (marking : Keeping mark) :
    Carries n s (doCreateControl s tb mark keep).2 := by
  obtain ⟨t, made, none | ⟨drawn, rfl⟩⟩ := draw_carries sane bound .button 0 1 (some tb)
  · unfold doCreateControl
    rw [none]
    exact made
  · have marked := @set_carries n _ _ made.sane s.made marking
    have filed := @register_carries n _ marked.sane (some s.made) fun w named =>
      Option.some.inj named ▸ Nat.lt_succ_self _
    have whole := (made.trans marked).trans filed
    unfold doCreateControl
    rw [drawn]
    dsimp only
    split
    · exact whole
    · refine whole.trans ?_
      dsimp only
      refine set_carries whole.sane tb ?_
      exact fun _ => ⟨rfl, rfl, rfl, rfl, rfl⟩

theorem controls_carries (sane : Sane s) (bound : n ≤ s.made) (tb : Nat) :
    Carries n s (doCreateControls s tb) := by
  have cleared : Carries n s (s.set tb fun window => { window with controls := ⟨-1, -1, -1⟩ }) :=
    set_carries sane tb fun _ => ⟨rfl, rfl, rfl, rfl, rfl⟩
  have each : ∀ {t : Server} {mark : Window → Window} {keep : Int32 → Controls → Controls},
      Carries n s t → Keeping mark → Carries n s (doCreateControl t tb mark keep).2 :=
    fun carried marking =>
      carried.trans (control_carries carried.sane (bound.trans carried.made) tb marking)
  unfold doCreateControls
  have first := @each _ (fun window => { window with isMinimizeControl := true })
    (fun id controls => { controls with minimizeWid := id }) cleared
    fun _ => ⟨rfl, rfl, rfl, rfl, rfl⟩
  dsimp only
  split
  · exact first
  · have second := @each _ (fun window => { window with isMaximizeControl := true })
      (fun id controls => { controls with maximizeWid := id }) first
      fun _ => ⟨rfl, rfl, rfl, rfl, rfl⟩
    split
    · exact second
    · exact each second fun _ => ⟨rfl, rfl, rfl, rfl, rfl⟩

theorem titlebar_carries (sane : Sane s) (bound : n ≤ s.made) (w : Nat) :
    Carries n s (doCreateTitlebar s w).2 ∧
      ∀ tb, (doCreateTitlebar s w).1 = some tb → tb < (doCreateTitlebar s w).2.made := by
  obtain ⟨t, made, none | ⟨drawn, rfl⟩⟩ := draw_carries sane bound .titlebar 0 1 (some w)
  · unfold doCreateTitlebar
    rw [none]
    refine ⟨made, ?_⟩
    rintro tb ⟨⟩
  · have other : ((add s (newWindow (s.canvases 0) .titlebar 0 1 (some w))).window
        s.made).type ≠ .overlapped := by
      simp [add_window, newWindow]
    have plain := made.trans (retype_carries made.sane bound other .simple)
    have bar := plain.trans (controls_carries plain.sane (bound.trans plain.made) s.made)
    have below := (controls_carries (n := s.made + 1) plain.sane (Nat.le_refl _) s.made).made
    unfold doCreateTitlebar
    rw [drawn]
    refine ⟨bar.trans ?_, ?_⟩
    · dsimp only
      refine set_carries bar.sane w ?_
      exact fun _ => ⟨rfl, rfl, rfl, rfl, rfl⟩
    · rintro tb ⟨⟩
      exact below

theorem statusbar_carries (sane : Sane s) (bound : n ≤ s.made) (w : Nat) :
    Carries n s (doCreateStatusbar s w) := by
  obtain ⟨t, made, none | ⟨drawn, rfl⟩⟩ := draw_carries sane bound .simple 0 1 (some w)
  · unfold doCreateStatusbar
    rw [none]
    exact made
  · unfold doCreateStatusbar
    rw [drawn]
    exact made.trans (register_carries made.sane fun w named =>
      Option.some.inj named ▸ Nat.lt_succ_self _)

theorem frameWindows_carries (sane : Sane s) (bound : n ≤ s.made) (w : Nat) :
    Carries n s (frameWindows s w) := by
  have barred : ∃ id t, (if (s.window w).state = WINDOW_STATE_FULL then ((0 : Int32), s) else
      registerWindow (doCreateTitlebar s w).2 (doCreateTitlebar s w).1) = (id, t) ∧
      Carries n s t := by
    split
    · exact ⟨0, s, rfl, Carries.refl sane⟩
    · obtain ⟨bar, below⟩ := titlebar_carries sane bound w
      exact ⟨_, _, rfl, bar.trans (register_carries bar.sane below)⟩
  obtain ⟨id, t, done, carried⟩ := barred
  unfold frameWindows
  dsimp only
  rw [done]
  dsimp only
  split
  · exact carried
  · split
    · exact carried.trans (statusbar_carries carried.sane (bound.trans carried.made) w)
    · exact carried

theorem frame_carries (sane : Sane s) (bound : n ≤ s.made) (parent : Option Nat) (w : Nat) :
    Returns (doCreateAndDrawWindowFrame s parent w) (Carries n s) := by
  refine (frame_returns s parent w).mono fun t drawn => ?_
  rcases drawn with rfl | ⟨-, rfl⟩
  · exact Carries.refl sane
  · exact frameWindows_carries sane bound w

theorem doCreate_carries (sane : Sane s) (bound : n ≤ s.made) (type : WindowType)
    (style : UInt64) (state : Int32) (parent : Option Nat) :
    Returns (doCreateAndDrawWindow s type style state parent) fun out => Carries n s out.2 ∧
      ∀ w, out.1 = some w → n ≤ w ∧ w < out.2.made ∧ (out.2.window w).type = type := by
  have made := @add_new_carries n s sane bound
    (newWindow (s.canvases style) type style state parent) fun _ => rfl
  have here : ((add s (newWindow (s.canvases style) type style state parent)).window
      s.made).type = type := by
    rw [add_window]
    rfl
  refine (doCreate_returns s type style state parent).mono fun out drawn => ?_
  rcases drawn with rfl | ⟨-, t, rfl, rfl | ⟨-, rfl⟩⟩
  · exact ⟨skip_carries sane, fun w named => absurd named (by simp)⟩
  · refine ⟨made, fun w named => ?_⟩
    obtain rfl := Option.some.inj named
    exact ⟨bound, Nat.lt_succ_self _, here⟩
  · refine ⟨made.trans (@manage_carries n _ made.sane
      (fun manager => { manager with taskbarWindow := some s.made }) rfl rfl), fun w named => ?_⟩
    obtain rfl := Option.some.inj named
    exact ⟨bound, Nat.lt_succ_self _, here⟩

theorem create_carries (sane : Sane s) (bound : n ≤ s.made) (type : WindowType) (style : UInt64)
    (state : Int32) (parent : Option Nat) :
    Returns (createWindow s type style state parent) fun out =>
      Carries n s out.2 ∧ ∀ w, out.1 = some w → w < out.2.made := by
  have drawn := fun type => doCreate_carries sane bound type style state parent
  have framed : ∀ t w, Carries n s t → w < t.made → Returns (do
      let t ← doCreateAndDrawWindowFrame t parent w
      .ok (some w, t)) fun out =>
        Carries n s out.2 ∧ ∀ w, out.1 = some w → w < out.2.made := by
    intro t w carried below
    refine returns_of_bind (frame_carries carried.sane (bound.trans carried.made) parent w)
      fun u drawn => returns_ok.mpr ⟨carried.trans drawn, fun v named => ?_⟩
    exact Option.some.inj named ▸ below.trans_le drawn.made
  have typed : ∀ (type : WindowType) t w, Carries n s t → n ≤ w →
      (t.window w).type = .simple →
        Carries n s (t.set w fun window => { window with type := type }) := by
    intro type t w carried new simple
    refine carried.trans (retype_carries carried.sane new ?_ type)
    rw [simple]
    exact WindowType.noConfusion
  have nothing : ∀ t, Carries n s t →
      Returns (.ok (none, t) : Except Stop (Option Nat × Server)) fun out =>
        Carries n s out.2 ∧ ∀ w, out.1 = some w → w < out.2.made :=
    fun t carried => returns_ok.mpr ⟨carried, fun w named => absurd named (by simp)⟩
  cases type
  case titlebar | statusbar | checkbox | scrollbar => exact nothing s (Carries.refl sane)
  case simple => exact (drawn _).mono fun out made => ⟨made.1, fun w named => (made.2 w named).2.1⟩
  -- A popup or a button gets its frame as it is.
  case popup | button =>
    refine returns_of_bind (drawn _) fun out made => ?_
    obtain ⟨window, t⟩ := out
    cases window with
    | none => exact nothing t made.1
    | some w => exact framed t w made.1 (made.2 w rfl).2.1
  -- These get their type first, and an overlapped one is linked and activated besides.
  case editboxSingleLine | editboxMultipleLines | icon =>
    refine returns_of_bind (drawn .simple) fun out made => ?_
    obtain ⟨window, t⟩ := out
    cases window with
    | none => exact nothing t made.1
    | some w =>
        obtain ⟨new, below, simple⟩ := made.2 w rfl
        exact framed _ w (typed _ t w made.1 new simple) below
  case overlapped =>
    refine returns_of_bind (drawn .simple) fun out made => ?_
    obtain ⟨window, t⟩ := out
    cases window with
    | none => exact nothing t made.1
    | some w =>
        obtain ⟨new, below, simple⟩ := made.2 w rfl
        have carried := typed .overlapped t w made.1 new simple
        refine returns_of_bind (@add_carries n _ carried.sane (some w)) fun u added => ?_
        have later := added.trans (activate_carries added.sane (some w))
        exact framed _ w (carried.trans later) (below.trans_le later.made)

theorem serviceCreate_carries (sane : Sane s) (type : WindowType) (style : UInt64)
    (state pwid : Int32) :
    Returns (serviceCreateWindow s type style state pwid) fun out => Carries s.made s out.2 := by
  unfold serviceCreateWindow
  split
  · exact returns_ok.mpr (Carries.refl sane)
  · rename_i parent _
    split
    · exact returns_ok.mpr (Carries.refl sane)
    · split
      · exact returns_ok.mpr (Carries.refl sane)
      · refine returns_of_bind (create_carries sane (Nat.le_refl _) type style state (some parent))
          fun out created => ?_
        obtain ⟨window, t⟩ := out
        have filed := created.1.trans (register_carries created.1.sane created.2)
        dsimp only at filed ⊢
        split
        · exact returns_ok.mpr filed
        · cases raised : (window.filter fun w =>
              ((registerWindow t window).2.window w).type = .overlapped) with
          | none => exact returns_ok.mpr filed
          | some w =>
              refine returns_of_bind (@add_carries s.made _ filed.sane (some w)) fun u added => ?_
              exact returns_ok.mpr (filed.trans added)

end Creating

section Destroying

variable {n : Nat} {s : Server} {w : Nat}

theorem killWid_carries (sane : Sane s) (wid : Int32) : Carries n s (s.killWid wid) := by
  unfold Server.killWid
  split
  · exact Carries.refl sane
  · exact kill_carries sane _

theorem killTitlebar_carries (sane : Sane s) (w : Nat) : Carries n s (s.killTitlebar w) := by
  unfold Server.killTitlebar
  split
  · exact Carries.refl sane
  · have bar := @kill_carries n _ sane
    have each : ∀ {t : Server}, Carries n s t → ∀ wid, Carries n s (t.killWid wid) :=
      fun carried wid => carried.trans (killWid_carries carried.sane wid)
    exact each (each (each (bar _) _) _) _

theorem destroy_carries (sane : Sane s) (wid : Int32) :
    Returns (destroyWindowByWid s wid) fun out => Carries n s out.2 := by
  have gone : ∀ {t : Server}, Carries n s t → ∀ w, Carries n s ((t.unlist w).kill w) := by
    intro t carried w
    have unlisted := carried.trans (unlist_carries carried.sane w)
    exact unlisted.trans (kill_carries unlisted.sane w)
  unfold destroyWindowByWid
  split
  · exact returns_ok.mpr (Carries.refl sane)
  · rename_i w _
    split
    · exact returns_ok.mpr (Carries.refl sane)
    · split
      · exact returns_error.mpr trivial
      · split
        · split
          · exact returns_ok.mpr (Carries.refl sane)
          · exact returns_ok.mpr (gone (Carries.refl sane) w)
        · have dead := gone (killTitlebar_carries sane w) w
          refine returns_of_bind (@rebuild_carries n _ dead.sane) fun t rebuilt => ?_
          have again := dead.trans rebuilt
          refine returns_of_bind (@updateDesktop_carries n _ again.sane true) fun u updated => ?_
          exact returns_ok.mpr (again.trans updated)

end Destroying

section Focusing

variable {n : Nat} {s : Server}

theorem setWindowWithFocus_carries (sane : Sane s) (window : Option Nat) :
    Carries n s (setWindowWithFocus s window) := by
  unfold setWindowWithFocus
  repeat' split
  · exact Carries.refl sane
  · exact Carries.refl sane
  · exact manage_carries sane rfl rfl

theorem getWindowWithFocus_carries (sane : Sane s) : Carries n s (getWindowWithFocus s).2 := by
  unfold getWindowWithFocus
  repeat' split
  · exact Carries.refl sane
  · exact Carries.refl sane
  · dsimp only
    exact manage_carries sane rfl rfl

theorem setMouseover_carries (sane : Sane s) (window : Option Nat) :
    Carries n s (setMouseover s window) := by
  unfold setMouseover
  repeat' split
  · exact Carries.refl sane
  · exact manage_carries sane rfl rfl
  · exact Carries.refl sane

theorem setFocus_carries (sane : Sane s) (window : Option Nat) :
    Returns (setFocus s window) (Carries n s) := by
  have given : ∀ w p, Carries n s ((if s.manager.activeWindow = some p ∧
      (s.window p).type = .overlapped then s else setActiveWindow s (some p)).manage
        fun manager => { manager with keyboardOwner := some w, mouseOwner := some w }) := by
    intro w p
    split
    · exact manage_carries sane rfl rfl
    · have active := @activate_carries n _ sane (some p)
      refine active.trans ?_
      refine manage_carries active.sane ?_ ?_
      · rfl
      · rfl
  unfold setFocus
  repeat' split
  all_goals first
    | exact returns_ok.mpr (Carries.refl sane)
    | exact returns_error.mpr trivial
    | exact returns_ok.mpr (given _ _)

end Focusing

end Gramado.Winsys.Windows
