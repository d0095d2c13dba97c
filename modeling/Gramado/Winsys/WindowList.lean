/-
What the stacking of windows does to the list: a window that is added comes to its end,
where the list is cut if the window was in it; a rebuilt list has the overlapped windows
of the table behind its first window.
-/
import Gramado.Lib.Fallible
import Gramado.Winsys.Windows

namespace Gramado.Winsys.Windows

open Gramado.Ke
open Gramado.Lib.Fallible
open Gramado.Lib.Pointers
open Function

section Fields

variable {s : Server} {w v : Nat} {change : Window → Window}

theorem set_window_self : (s.set w change).window w = change (s.window w) :=
  update_self ..

theorem set_window_of_ne (other : v ≠ w) : (s.set w change).window v = s.window v :=
  update_of_ne other ..

@[simp] theorem set_made : (s.set w change).made = s.made := rfl
@[simp] theorem set_room : (s.set w change).room = s.room := rfl
@[simp] theorem set_windowList : (s.set w change).windowList = s.windowList := rfl
@[simp] theorem set_windowsCount : (s.set w change).windowsCount = s.windowsCount := rfl
@[simp] theorem set_manager : (s.set w change).manager = s.manager := rfl

theorem manage_next {change : WindowManager → WindowManager} :
    (s.manage change).next = s.next := rfl

theorem set_next : (s.set w change).next = update s.next w (change (s.window w)).next := by
  funext v
  by_cases same : v = w
  · subst same
    rw [update_self, Server.next, set_window_self]
  · rw [update_of_ne same, Server.next, set_window_of_ne same, Server.next]

theorem live_congr {t : Server} (same : t.window v = s.window v) : t.Live v ↔ s.Live v := by
  rw [Server.Live, same, Server.Live]

theorem overlapped_congr {t : Server} (same : t.window v = s.window v) :
    t.Overlapped v ↔ s.Overlapped v := by
  rw [Server.Overlapped, live_congr same, same, Server.Overlapped]

theorem kill_window_of_ne (other : v ≠ w) : (s.kill w).window v = s.window v :=
  set_window_of_ne other

theorem kill_dead : ¬(s.kill w).Live w := by
  rw [Server.Live, Server.kill, set_window_self]
  rintro ⟨⟨⟩, -⟩

theorem unlist_iff {i : Fin WINDOW_COUNT_MAX} :
    (s.unlist w).windowList i = some v ↔ s.windowList i = some v ∧ v ≠ w := by
  rw [Server.unlist]
  dsimp only
  split
  · rename_i same
    rw [same]
    simp only [reduceCtorEq, Option.some.injEq, false_iff, not_and, not_not]
    exact Eq.symm
  · rename_i other
    constructor
    · intro named
      refine ⟨named, ?_⟩
      rintro rfl
      exact other named
    · exact And.left

end Fields

section Activating

/-- The window is made the active one and gets the input, unless it is active already. -/
def WindowManager.activate (manager : WindowManager) (w : Nat) : WindowManager :=
  if manager.activeWindow = some w then
    manager
  else
    { manager with activeWindow := some w, keyboardOwner := some w, mouseOwner := some w }

/-- The same, with other ends of the list. -/
def WindowManager.between (manager : WindowManager) (first last : Option Nat) : WindowManager :=
  { manager with firstWindow := first, lastWindow := last }

theorem activate_between (manager : WindowManager) (first last : Option Nat) (w : Nat) :
    (manager.between first last).activate w = (manager.activate w).between first last := by
  unfold WindowManager.activate WindowManager.between
  dsimp only
  split <;> rfl

theorem activate_ends (manager : WindowManager) (w : Nat) :
    (manager.activate w).firstWindow = manager.firstWindow ∧
      (manager.activate w).lastWindow = manager.lastWindow := by
  unfold WindowManager.activate
  split <;> exact ⟨rfl, rfl⟩

theorem activates_between (windows : List Nat) (manager : WindowManager)
    (first last : Option Nat) :
    windows.foldl WindowManager.activate (manager.between first last) =
      (windows.foldl WindowManager.activate manager).between first last := by
  induction windows generalizing manager with
  | nil => rfl
  | cons w rest ih => rw [List.foldl_cons, List.foldl_cons, activate_between, ih]

def WindowManager.Inputs (manager : WindowManager) (w : Nat) : Prop :=
  manager.activeWindow = some w ∨ manager.keyboardOwner = some w ∨ manager.mouseOwner = some w

/-- Activation gives the input to the window, or leaves everything as it is. -/
theorem activate_inputs {manager : WindowManager} {w v : Nat}
    (inputs : (manager.activate w).Inputs v) : manager.Inputs v ∨ v = w := by
  unfold WindowManager.activate at inputs
  split at inputs
  · exact Or.inl inputs
  · rcases inputs with active | keyboard | mouse
    · exact Or.inr (Option.some.inj active).symm
    · exact Or.inr (Option.some.inj keyboard).symm
    · exact Or.inr (Option.some.inj mouse).symm

theorem activates_inputs {windows : List Nat} {manager : WindowManager} {v : Nat}
    (inputs : (windows.foldl WindowManager.activate manager).Inputs v) :
    manager.Inputs v ∨ v ∈ windows := by
  induction windows generalizing manager with
  | nil => exact Or.inl inputs
  | cons w rest ih =>
      rcases ih inputs with before | later
      · rcases activate_inputs before with old | same
        · exact Or.inl old
        · exact Or.inr (same ▸ List.mem_cons_self)
      · exact Or.inr (List.mem_cons_of_mem w later)

/-- Once a window is activated that was not the active one, nothing older has the input. -/
theorem activates_all {windows : List Nat} {manager : WindowManager} {u v : Nat}
    (member : u ∈ windows) (other : manager.activeWindow ≠ some u)
    (inputs : (windows.foldl WindowManager.activate manager).Inputs v) : v ∈ windows := by
  induction windows generalizing manager with
  | nil => cases member
  | cons w rest ih =>
      rw [List.foldl_cons] at inputs
      by_cases active : manager.activeWindow = some w
      · have rest_member : u ∈ rest := by
          rcases List.mem_cons.mp member with rfl | later
          · exact absurd active other
          · exact later
        rw [WindowManager.activate, if_pos active] at inputs
        exact List.mem_cons_of_mem w (ih rest_member other inputs)
      · rw [WindowManager.activate, if_neg active] at inputs
        rcases activates_inputs inputs with (same | same | same) | later
        · exact Option.some.inj same ▸ List.mem_cons_self
        · exact Option.some.inj same ▸ List.mem_cons_self
        · exact Option.some.inj same ▸ List.mem_cons_self
        · exact List.mem_cons_of_mem w later

theorem activate_hover (manager : WindowManager) (w : Nat) :
    (manager.activate w).mouseHover = manager.mouseHover := by
  unfold WindowManager.activate
  split <;> rfl

theorem activates_hover (windows : List Nat) (manager : WindowManager) :
    (windows.foldl WindowManager.activate manager).mouseHover = manager.mouseHover := by
  induction windows generalizing manager with
  | nil => rfl
  | cons w rest ih => exact (ih _).trans (activate_hover manager w)

variable {s : Server} {w : Nat}

theorem setActiveWindow_overlapped (overlapped : s.Overlapped w) :
    setActiveWindow s (some w) = s.manage fun manager => manager.activate w := by
  unfold setActiveWindow WindowManager.activate
  dsimp only
  rw [if_neg (not_not.mpr overlapped.1.2), if_neg (not_not.mpr overlapped.2)]
  split
  · rename_i active
    rw [Server.manage, if_pos active]
  · rename_i inactive
    rw [Server.manage, Server.manage, if_neg inactive]

theorem setActiveWindow_refused
    (refused : (s.window w).magic ≠ 1234 ∨ (s.window w).type ≠ .overlapped) :
    setActiveWindow s (some w) = s := by
  unfold setActiveWindow
  dsimp only
  split
  · rfl
  · rename_i valid
    rcases refused with dead | other
    · exact absurd dead valid
    · rw [if_pos other]

end Activating

/-- The windows are the same but for the links between them. -/
structure Relinked (s t : Server) : Prop where
  window : ∀ v, t.window v =
    { s.window v with prev := (t.window v).prev, next := (t.window v).next }
  made : t.made = s.made
  room : t.room = s.room
  windowList : t.windowList = s.windowList
  windowsCount : t.windowsCount = s.windowsCount
  tiles : t.tiles = s.tiles
  composition : t.isCompositionDisabled = s.isCompositionDisabled

namespace Relinked

variable {s t u : Server}

theorem refl (s : Server) : Relinked s s :=
  ⟨fun _ => rfl, rfl, rfl, rfl, rfl, rfl, rfl⟩

theorem trans (first : Relinked s t) (second : Relinked t u) : Relinked s u where
  window := by
    intro v
    rw [second.window v, first.window v]
  made := second.made.trans first.made
  room := second.room.trans first.room
  windowList := second.windowList.trans first.windowList
  windowsCount := second.windowsCount.trans first.windowsCount
  tiles := second.tiles.trans first.tiles
  composition := second.composition.trans first.composition

theorem manage (s : Server) (change : WindowManager → WindowManager) :
    Relinked s (s.manage change) :=
  ⟨fun _ => rfl, rfl, rfl, rfl, rfl, rfl, rfl⟩

theorem set (s : Server) (w : Nat) {change : Window → Window}
    (links : ∀ x, change x = { x with prev := (change x).prev, next := (change x).next }) :
    Relinked s (s.set w change) := by
  refine ⟨?_, rfl, rfl, rfl, rfl, rfl, rfl⟩
  intro v
  by_cases same : v = w
  · subst same
    rw [set_window_self]
    exact links _
  · rw [set_window_of_ne same]

theorem live (relinked : Relinked s t) (v : Nat) : t.Live v ↔ s.Live v := by
  rw [Server.Live, relinked.window v, Server.Live]

theorem type (relinked : Relinked s t) (v : Nat) : (t.window v).type = (s.window v).type := by
  rw [relinked.window v]

theorem magic (relinked : Relinked s t) (v : Nat) :
    (t.window v).magic = (s.window v).magic := by
  rw [relinked.window v]

theorem overlapped (relinked : Relinked s t) (v : Nat) : t.Overlapped v ↔ s.Overlapped v := by
  rw [Server.Overlapped, relinked.live, relinked.type, Server.Overlapped]

end Relinked

/-- From the first window the links lead over these windows to NULL. -/
def Listed (s : Server) (list : List Nat) : Prop :=
  Linked s.next s.manager.firstWindow list ∧ ∀ v ∈ list, v < s.made

section Adding

variable {s : Server} {w : Nat} {list : List Nat}

theorem stack_listed (listed : Listed s list) : s.stack = .ok list := by
  have whole := nodes_of_linked listed.1 (linked_length_le listed.1 listed.2)
  rw [Server.stack, whole]

theorem reaches_listed (listed : Listed s list) :
    reaches s.next s.made s.manager.firstWindow w = some (decide (w ∈ list)) :=
  reaches_of_linked listed.1 (linked_length_le listed.1 listed.2)

theorem add_refused (refused : ¬s.Overlapped w) : wmAddWindowToTop s (some w) = .ok s := by
  unfold wmAddWindowToTop
  dsimp only
  rw [if_pos refused]

/-- The list that a window is added to: none, if its first window is not in use. -/
def Server.usable (s : Server) (list : List Nat) : List Nat :=
  if list.head?.any fun f => s.Live f then list else []

theorem upTo_below (below : w < s.made) (inside : ∀ v ∈ list, v < s.made) :
    ∀ v ∈ upTo w list, v < s.made := by
  intro v member
  rcases mem_upTo.mp member with old | rfl
  · exact inside v (List.takeWhile_subset _ old)
  · exact below

/-- The last steps of an addition: `w` is the last window, and the active one. -/
theorem add_done {b : Server} {first last : Option Nat} (overlapped : s.Overlapped w)
    (relinked : Relinked s b) (manager : b.manager = s.manager.between first last) :
    ∃ t, setActiveWindow ((b.manage fun manager => { manager with lastWindow := some w }).set w
        fun window => { window with next := none }) (some w) = t ∧
      Relinked s t ∧ t.next = update b.next w none ∧
      t.manager = (s.manager.activate w).between first (some w) := by
  have later : Relinked s ((b.manage fun manager => { manager with lastWindow := some w }).set w
      fun window => { window with next := none }) :=
    (relinked.trans (Relinked.manage b _)).trans (Relinked.set _ w fun _ => rfl)
  rw [setActiveWindow_overlapped ((later.overlapped w).mpr overlapped)]
  refine ⟨_, rfl, later.trans (Relinked.manage _ _), ?_, ?_⟩
  · rw [manage_next, set_next, manage_next]
  · rw [← activate_between]
    simp only [Server.manage, set_manager, manager, WindowManager.between]

theorem add_alone (overlapped : s.Overlapped w) (below : w < s.made)
    (unusable : s.manager.firstWindow.filter (fun f => s.Live f) = none) :
    ∃ t, wmAddWindowToTop s (some w) = .ok t ∧ Relinked s t ∧ Listed t [w] ∧
      t.manager = (s.manager.activate w).between (some w) (some w) := by
  unfold wmAddWindowToTop
  dsimp only
  rw [if_neg (not_not.mpr overlapped), unusable]
  have alone : (s.manage fun manager => { manager with firstWindow := some w }).manager =
      s.manager.between (some w) s.manager.lastWindow := rfl
  rcases add_done overlapped (Relinked.manage s _) alone with ⟨t, done, relinked, next, manager⟩
  refine ⟨t, congrArg Except.ok done, relinked, ⟨?_, ?_⟩, manager⟩
  · rw [manager, next]
    exact ⟨rfl, update_self ..⟩
  · intro v member
    rw [List.mem_singleton] at member
    rw [member, relinked.made]
    exact below

/-- A window is linked behind the last one, which was linked to nothing. -/
theorem add_behind (listed : Listed s list) (overlapped : s.Overlapped w) (below : w < s.made)
    {f : Nat} (usable : s.manager.firstWindow.filter (fun f => s.Live f) = some f) :
    ∃ t, wmAddWindowToTop s (some w) = .ok t ∧ Relinked s t ∧ Listed t (upTo w list) ∧
      t.manager = (s.manager.activate w).between s.manager.firstWindow (some w) := by
  have first : s.manager.firstWindow = some f := (Option.filter_eq_some_iff.mp usable).1
  have linked := listed.1
  rw [first] at linked
  cases last : list.getLast? with
  | none =>
      rw [List.getLast?_eq_none_iff.mp last] at linked
      cases linked
  | some u =>
      have behind : Relinked s ((s.set u fun window => { window with next := some w }).set w
          fun window => { window with prev := some u }) :=
        (Relinked.set s u fun _ => rfl).trans (Relinked.set _ w fun _ => rfl)
      have kept : ((s.set u fun window => { window with next := some w }).set w
          fun window => { window with prev := some u }).manager =
            s.manager.between s.manager.firstWindow s.manager.lastWindow := rfl
      unfold wmAddWindowToTop
      dsimp only
      rw [if_neg (not_not.mpr overlapped), usable, stack_listed listed]
      simp only [bind, Except.bind, last]
      rcases add_done overlapped behind kept with ⟨t, done, relinked, next, manager⟩
      refine ⟨t, congrArg Except.ok done, relinked, ⟨?_, ?_⟩, manager⟩
      · -- The links are those of the list up to `w`.
        have links : t.next = relink s.next u w := by
          rw [next, set_next, set_next, update_idem]
          rfl
        rw [links, manager]
        exact first ▸ linked_relink linked last
      · rw [relinked.made]
        exact upTo_below below listed.2

theorem usable_live {f : Nat} (head : list.head? = some f) (live : s.Live f) :
    s.usable list = list := by
  simp [Server.usable, head, live]

/-- A window is added: the list ends with it, and it is the last window. -/
theorem add_taken (listed : Listed s list) (overlapped : s.Overlapped w) (below : w < s.made) :
    ∃ t, wmAddWindowToTop s (some w) = .ok t ∧ Relinked s t ∧
      Listed t (upTo w (s.usable list)) ∧
      t.manager = (s.manager.activate w).between t.manager.firstWindow (some w) := by
  have head := linked_head listed.1
  cases usable : s.manager.firstWindow.filter fun f => s.Live f with
  | none =>
      rcases add_alone overlapped below usable with ⟨t, added, relinked, alone, manager⟩
      have empty : s.usable list = [] := by
        rw [Server.usable, head]
        cases first : s.manager.firstWindow with
        | none => rfl
        | some f =>
            rw [first, Option.filter_eq_none_iff] at usable
            have dead : ¬s.Live f := by simpa using usable f rfl
            simp [dead]
      refine ⟨t, added, relinked, ?_, ?_⟩
      · rw [empty]
        exact alone
      · rw [manager]
        rfl
  | some f =>
      rcases add_behind listed overlapped below usable with ⟨t, added, relinked, behind, manager⟩
      rw [Option.filter_eq_some_iff] at usable
      refine ⟨t, added, relinked, ?_, ?_⟩
      · rw [usable_live (head.trans usable.1) (of_decide_eq_true usable.2)]
        exact behind
      · rw [manager]
        rfl

theorem usable_added {t : Server} (overlapped : s.Overlapped w) (relinked : Relinked s t) :
    t.usable (upTo w (s.usable list)) = upTo w (s.usable list) := by
  have live_first : ∃ f, (upTo w (s.usable list)).head? = some f ∧ s.Live f := by
    unfold Server.usable
    split
    · rename_i usable
      cases list with
      | nil => exact ⟨w, rfl, overlapped.1⟩
      | cons f rest =>
          refine ⟨f, ?_, by simpa using usable⟩
          by_cases same : f = w
          · simp [upTo, same]
          · simp [upTo, same]
    · exact ⟨w, rfl, overlapped.1⟩
  rcases live_first with ⟨f, head, live⟩
  exact usable_live head ((relinked.live f).mpr live)

end Adding

section Rebuilding

/-- The window that a slot gives to a new list. -/
def Server.candidate (s : Server) (i : Fin WINDOW_COUNT_MAX) : Option Nat :=
  (s.windowList i).filter fun w =>
    (s.window w).magic = 1234 ∧ (s.window w).type = .overlapped

/-- The overlapped windows of the table, in its order. -/
def Server.registered (s : Server) : List Nat :=
  (List.finRange WINDOW_COUNT_MAX).filterMap s.candidate

/-- What the loop of `wm_rebuild_list` does with one slot. -/
def rebuildSlot (s : Server) (i : Fin WINDOW_COUNT_MAX) : Except Stop Server :=
  match s.windowList i with
  | none => .ok s
  | some w =>
      if (s.window w).magic = 1234 ∧ (s.window w).type = .overlapped then
        wmAddWindowToTop s (some w)
      else
        .ok s

theorem wmRebuildList_eq (s : Server) :
    wmRebuildList s = (List.finRange WINDOW_COUNT_MAX).foldlM rebuildSlot s := rfl

variable {s t : Server} {list : List Nat} {w : Nat} {i : Fin WINDOW_COUNT_MAX}

theorem candidate_iff : s.candidate i = some w ↔
    s.windowList i = some w ∧ (s.window w).magic = 1234 ∧ (s.window w).type = .overlapped := by
  rw [Server.candidate, Option.filter_eq_some_iff, decide_eq_true_iff]

theorem candidate_relinked (relinked : Relinked s t) : t.candidate = s.candidate := by
  funext i
  unfold Server.candidate
  rw [relinked.windowList]
  congr
  funext w
  rw [relinked.magic, relinked.type]

theorem rebuildSlot_none (empty : s.candidate i = none) : rebuildSlot s i = .ok s := by
  unfold rebuildSlot
  cases named : s.windowList i with
  | none => rfl
  | some w =>
      rw [Server.candidate, named, Option.filter_eq_none_iff] at empty
      dsimp only
      rw [if_neg (by simpa using empty w rfl)]

theorem rebuildSlot_some (found : s.candidate i = some w) :
    rebuildSlot s i = wmAddWindowToTop s (some w) := by
  rw [Server.candidate, Option.filter_eq_some_iff] at found
  unfold rebuildSlot
  rw [found.1]
  dsimp only
  rw [if_pos (of_decide_eq_true found.2)]

/-- Whoever has the magic number is in use, and the table names objects only. -/
structure Server.Marked (s : Server) : Prop where
  used : ∀ w, (s.window w).magic = 1234 → (s.window w).used = true
  below : ∀ i w, s.windowList i = some w → w < s.made

theorem Server.Marked.relinked (marked : s.Marked) (relinked : Relinked s t) : t.Marked := by
  constructor
  · intro w valid
    rw [relinked.magic] at valid
    rw [relinked.window w]
    exact marked.used w valid
  · rw [relinked.windowList, relinked.made]
    exact marked.below

theorem candidate_overlapped (marked : s.Marked) (found : s.candidate i = some w) :
    s.Overlapped w ∧ w < s.made := by
  rw [Server.candidate, Option.filter_eq_some_iff] at found
  have valid := of_decide_eq_true found.2
  exact ⟨⟨⟨marked.used w valid.1, valid.1⟩, valid.2⟩, marked.below i w found.1⟩

theorem rebuild_slots_empty {slots : List (Fin WINDOW_COUNT_MAX)}
    (none : slots.filterMap s.candidate = []) : slots.foldlM rebuildSlot s = .ok s := by
  induction slots with
  | nil => rfl
  | cons i rest ih =>
      cases found : s.candidate i with
      | none =>
          rw [List.filterMap_cons_none found] at none
          rw [List.foldlM_cons, rebuildSlot_none found]
          exact ih none
      | some w =>
          rw [List.filterMap_cons_some found] at none
          cases none

/-- The windows of the slots come to the end of the list, one after the other. -/
theorem rebuild_slots (marked : s.Marked) (listed : Listed s list)
    {slots : List (Fin WINDOW_COUNT_MAX)} {windows : List Nat}
    (found : slots.filterMap s.candidate = windows) (some_left : windows ≠ []) :
    ∃ t, slots.foldlM rebuildSlot s = .ok t ∧ Relinked s t ∧
      Listed t (windows.foldl (fun list w => upTo w list) (s.usable list)) ∧
      t.manager = (windows.foldl WindowManager.activate s.manager).between
        t.manager.firstWindow windows.getLast? := by
  induction slots generalizing s list windows with
  | nil =>
      subst found
      exact absurd rfl some_left
  | cons i rest ih =>
      rw [List.foldlM_cons]
      cases here : s.candidate i with
      | none =>
          rw [List.filterMap_cons_none here] at found
          rw [rebuildSlot_none here]
          exact ih marked listed found some_left
      | some w =>
          rw [List.filterMap_cons_some here] at found
          rcases candidate_overlapped marked here with ⟨overlapped, below⟩
          rcases add_taken listed overlapped below with ⟨u, added, first, longer, manager⟩
          rw [rebuildSlot_some here, added]
          cases later : rest.filterMap s.candidate with
          | nil =>
              rw [later] at found
              subst found
              rw [← candidate_relinked first] at later
              exact ⟨u, rebuild_slots_empty later, first, longer, manager⟩
          | cons v more =>
              rw [later] at found
              subst found
              rw [← candidate_relinked first] at later
              rcases ih (marked.relinked first) longer later (List.cons_ne_nil v more) with
                ⟨t, run, second, whole, after⟩
              rw [usable_added overlapped first] at whole
              rw [manager, activates_between] at after
              refine ⟨t, run, first.trans second, whole, ?_⟩
              rw [List.getLast?_cons_cons]
              exact after

theorem rebuild_empty (none : s.registered = []) : wmRebuildList s = .ok s := by
  rw [Server.registered] at none
  exact rebuild_slots_empty none

theorem rebuild_taken (marked : s.Marked) (listed : Listed s list) (some_left : s.registered ≠ []) :
    ∃ t, wmRebuildList s = .ok t ∧ Relinked s t ∧
      Listed t (s.registered.foldl (fun list w => upTo w list) (s.usable list)) ∧
      t.manager = (s.registered.foldl WindowManager.activate s.manager).between
        t.manager.firstWindow s.registered.getLast? := by
  have found := @rfl _ s.registered
  rw [Server.registered] at found
  exact rebuild_slots marked listed found some_left

end Rebuilding

section Redrawing

variable {s : Server} {list : List Nat} {f l : Nat}

/-- What tiling makes of the last window. -/
def WindowManager.master (manager : WindowManager) (l : Nat) : WindowManager :=
  { manager with
    activeWindow := some l
    keyboardOwner := some l
    lastWindow := some l
    mouseOwner := none
    mouseHover := none }

def WindowManager.tiled (manager : WindowManager) (tiles : Bool) (l : Nat) : WindowManager :=
  if tiles then manager.master l else manager

theorem tiled_first {manager : WindowManager} {tiles : Bool} :
    (manager.tiled tiles l).firstWindow = manager.firstWindow := by
  cases tiles <;> rfl

theorem wmTile_listed (listed : Listed s list) (last : list.getLast? = some l) :
    wmTile s = .ok (s.manage fun manager => manager.tiled s.tiles l) := by
  unfold wmTile
  cases tiles : s.tiles with
  | false => rfl
  | true =>
      rw [if_pos rfl, stack_listed listed]
      simp only [bind, Except.bind, last]
      rfl

theorem wmUpdateDesktop_tiled (listed : Listed s list) (last : list.getLast? = some l) :
    wmUpdateDesktop s true =
      wmUpdateDesktop (s.manage fun manager => manager.tiled s.tiles l) false := by
  unfold wmUpdateDesktop
  rw [if_pos rfl, wmTile_listed listed last]
  rfl

theorem drawable_iff : s.drawable list = true ↔
    ∀ v ∈ list, (s.window v).magic = 1234 → (s.window v).type = .overlapped →
      (s.window v).flagged = true := by
  simp only [Server.drawable, List.all_eq_true, Bool.or_eq_true, Bool.not_eq_true',
    Bool.and_eq_false_iff, decide_eq_false_iff_not]
  constructor
  · intro each v member magic type
    rcases each v member with (other | other) | flagged
    · exact absurd magic other
    · exact absurd type other
    · exact flagged
  · intro each v member
    by_cases magic : (s.window v).magic = 1234
    · by_cases type : (s.window v).type = .overlapped
      · exact Or.inr (each v member magic type)
      · exact Or.inl (Or.inr type)
    · exact Or.inl (Or.inl magic)

theorem wmUpdateDesktop_first (listed : Listed s list)
    (types : ∀ v ∈ list, (s.window v).type = .overlapped)
    (alive : ∀ f, list.head? = some f → s.Live f) (inside : s.Live l)
    (last : list.getLast? = some l) :
    wmUpdateDesktop s false =
      if s.drawable list then
        .ok (s.manage fun manager =>
          (manager.activate l).between manager.firstWindow (some l))
      else
        .error (.fault "wm_update_desktop: shflags_p") := by
  have head := linked_head listed.1
  cases list with
  | nil => cases last
  | cons f rest =>
      have all : (f :: rest).filter (fun v => decide ((s.window v).type = .overlapped)) =
          f :: rest := by
        apply List.filter_eq_self.mpr
        intro v member
        exact decide_eq_true (types v member)
      unfold wmUpdateDesktop
      rw [if_neg Bool.false_ne_true]
      simp only [bind, Except.bind, ← head, List.head?_cons, stack_listed listed, all, last]
      rw [if_neg (not_not.mpr (alive f rfl).2), Option.getD_some, setActiveWindow_overlapped]
      · have done := congrArg (fun manager => ({ s with manager := manager } : Server))
          (activate_between s.manager s.manager.firstWindow (some l) l)
        cases drawn : s.drawable (f :: rest) with
        | true => exact congrArg Except.ok done
        | false => rfl
      · exact ⟨inside, types l (List.mem_of_getLast? last)⟩

theorem tiled_activate (manager : WindowManager) (tiles : Bool) (l : Nat) :
    ((manager.tiled tiles l).activate l).between (manager.tiled tiles l).firstWindow (some l) =
      ((manager.tiled tiles l).activate l).between manager.firstWindow (some l) := by
  rw [tiled_first]

/-- The last window of a list of overlapped ones becomes the last and the active one, if
    they all have their flags. -/
theorem wmUpdateDesktop_live (listed : Listed s list)
    (types : ∀ v ∈ list, (s.window v).type = .overlapped)
    (alive : ∀ f, list.head? = some f → s.Live f) (inside : s.Live l)
    (last : list.getLast? = some l) :
    wmUpdateDesktop s true =
      if s.drawable list then
        .ok (s.manage fun manager =>
          ((manager.tiled s.tiles l).activate l).between manager.firstWindow (some l))
      else
        .error (.fault "wm_update_desktop: shflags_p") := by
  rw [wmUpdateDesktop_tiled listed last]
  have tiled : Listed (s.manage fun manager => manager.tiled s.tiles l) list := by
    refine ⟨?_, listed.2⟩
    have same : (s.manage fun manager => manager.tiled s.tiles l).manager.firstWindow =
        s.manager.firstWindow := tiled_first
    rw [same]
    exact listed.1
  rw [wmUpdateDesktop_first tiled types alive inside last]
  have done := congrArg (fun manager => ({ s with manager := manager } : Server))
    (tiled_activate s.manager s.tiles l)
  change (if s.drawable list then _ else _) = _
  cases drawn : s.drawable list with
  | true => exact congrArg Except.ok done
  | false => rfl

theorem wmUpdateDesktop_dead (listed : Listed s list) (last : list.getLast? = some l)
    (first : s.manager.firstWindow = some f) (dead : (s.window f).magic ≠ 1234) :
    wmUpdateDesktop s true = .ok (s.manage fun manager =>
      { manager.tiled s.tiles l with firstWindow := none }) := by
  rw [wmUpdateDesktop_tiled listed last]
  have same : (s.manage fun manager => manager.tiled s.tiles l).manager.firstWindow =
      some f := tiled_first.trans first
  have still : ((s.manage fun manager => manager.tiled s.tiles l).window f).magic ≠ 1234 := dead
  unfold wmUpdateDesktop
  rw [if_neg Bool.false_ne_true]
  simp only [bind, Except.bind, same]
  rw [if_pos still]
  rfl

end Redrawing

end Gramado.Winsys.Windows
