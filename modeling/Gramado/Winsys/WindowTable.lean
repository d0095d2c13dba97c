/-
The table of windows and the pointers to them over whole runs of the display server. A
title bar that is destroyed with its window keeps its slots, the counter of windows never
goes down, and nobody clears the pointers to a destroyed window. Where nothing of that
comes up, slots, pointers and parents are windows in use.
-/
import Gramado.Lib.Machine
import Gramado.Winsys.WindowCreation
import Mathlib.Tactic.IntervalCases

namespace Gramado.Winsys.WindowTable

open Gramado.Ke
open Gramado.Lib.Fallible
open Gramado.Lib.Machine
open Gramado.Lib.Pointers
open Gramado.Winsys.Windows
open Function

inductive Request where
  | serviceCreateWindow (type : WindowType) (style : UInt64) (state pwid : Int32)
  | setActiveWindow (window : Option Nat)
  | setWindowWithFocus (window : Option Nat)
  | getWindowWithFocus
  | setFocus (window : Option Nat)
  | setMouseover (window : Option Nat)
  | destroyWindowByWid (wid : Int32)

def serve (s : Server) : Request → Except Stop (Int32 × Server)
  | .serviceCreateWindow type style state pwid => serviceCreateWindow s type style state pwid
  | .setActiveWindow window => .ok (0, setActiveWindow s window)
  | .setWindowWithFocus window => .ok (0, setWindowWithFocus s window)
  | .getWindowWithFocus => .ok (0, (getWindowWithFocus s).2)
  | .setFocus window => (setFocus s window).map fun s => (0, s)
  | .setMouseover window => .ok (0, setMouseover s window)
  | .destroyWindowByWid wid => destroyWindowByWid s wid

/-- One of the four pointers of the window manager to a single window. -/
def Points (manager : WindowManager) (w : Nat) : Prop :=
  manager.Inputs w ∨ manager.mouseHover = some w

/-- The table, the ids and the pointers agree about which windows there are. -/
structure Registry (s : Server) : Prop where
  filed : ∀ w, s.Live w → s.entry (s.window w).id = some w
  ids : ∀ v w, s.Live v → s.Live w → (s.window v).id = (s.window w).id → v = w
  entries : ∀ i w, s.windowList i = some w → s.Live w
  room : (∃ i, s.windowList i = none) → ∀ w, ¬(registerWindow s (some w)).1 < 0
  pointers : ∀ w, Points s.manager w → s.Live w
  parents : ∀ v p, s.Live v → (s.window v).parent = some p → s.Live p

/-- How many windows a creation registers, if there is memory for all of them. -/
def registrations (type : WindowType) (style : UInt64) (state : Int32) : Nat :=
  match type with
  | .titlebar | .statusbar | .checkbox | .scrollbar => 0
  | .overlapped => frameCount style state + 1
  | _ => 1

/-- The window is not the root window, and no button of a title bar. -/
def Destroyable (s : Server) (w : Nat) : Prop :=
  s.manager.rootWindow ≠ some w ∧
    ((s.window w).type ≠ .overlapped → (s.window w).isControl = false)

/-- What still points to an overlapped window is set anew by the windows that stay. -/
def Reset (s : Server) (w : Nat) : Prop :=
  if s.tiles then
    ∃ v, v ≠ w ∧ s.Overlapped v
  else
    s.manager.mouseHover ≠ some w ∧
      (s.manager.Inputs w → ∃ v, v ≠ w ∧ s.Overlapped v ∧ s.manager.activeWindow ≠ some v)

/-- Nothing refers to the window any more once it is destroyed: it is no parent, it has no
    title bar, and no pointer to it stays. -/
def Forgotten (s : Server) (w : Nat) : Prop :=
  (∀ v, s.Live v → (s.window v).parent = some w → v = w) ∧
    if (s.window w).type = .overlapped then
      (∀ t, (s.window w).titlebar = some t → ¬s.Live t) ∧ Reset s w
    else
      ¬Points s.manager w

/-- The counter stays below its bound, and what is destroyed is forgotten. -/
def Careful (s : Server) : Request → Prop
  | .serviceCreateWindow type style state pwid =>
      Accepts s style pwid →
        s.windowsCount + registrations type style state + 1 < WINDOW_COUNT_MAX
  | .destroyWindowByWid wid =>
      ∀ w, getWindowFromWid s wid = some w → Destroyable s w → Forgotten s w
  | _ => True

/-- What is kept while a window waits for its id. The list of overlapped windows may have
    dead ones in it. -/
structure Sound (waits : Option Nat) (s : Server) : Prop where
  marked : ∀ v, (s.window v).magic = 1234 → (s.window v).used = true
  unmade : ∀ v, s.made ≤ v → ¬s.Live v
  waiting : ∀ w, waits = some w → s.Live w
  entries : ∀ i v, s.windowList i = some v → s.Live v
  filed : ∀ v, s.Live v → waits ≠ some v → s.Filed v
  counted : s.taken ≤ s.windowsCount
  parents : ∀ v p, s.Live v → (s.window v).parent = some p → s.Live p
  pointers : ∀ v, Points s.manager v → s.Live v
  stacked : ∃ list, Listed s list ∧ ∀ v ∈ list, (s.window v).type = .overlapped

/-- A state between two requests. -/
def Settled (s : Server) : Prop :=
  Sound none s ∧ s.windowsCount + 1 < WINDOW_COUNT_MAX

theorem Sound.below {waits : Option Nat} {s : Server} (sound : Sound waits s) {v : Nat}
    (live : s.Live v) : v < s.made :=
  Nat.lt_of_not_le fun beyond => sound.unmade v beyond live

theorem Sound.live {waits : Option Nat} {s : Server} (sound : Sound waits s) {v : Nat}
    (magic : (s.window v).magic = 1234) : s.Live v :=
  ⟨sound.marked v magic, magic⟩

/-- With room left in the counter, what is sound is registered as it should be. -/
theorem registry_of_sound {s : Server} (sound : Sound none s)
    (few : s.windowsCount + 1 < WINDOW_COUNT_MAX) : Registry s := by
  have filed : ∀ w, s.Live w → s.entry (s.window w).id = some w := by
    intro w live
    rcases sound.filed w live (by simp) with ⟨i, named, id⟩
    rw [id, entry_ofNat, named]
  refine ⟨filed, ?_, sound.entries, ?_, sound.pointers, sound.parents⟩
  · intro v w first second same
    have named := filed v first
    rw [same, filed w second] at named
    exact (Option.some.inj named).symm
  · rintro ⟨i, free⟩ w
    rcases register_cases s w with ⟨many | full, -⟩ | ⟨j, -, registered⟩
    · exact absurd few (Nat.not_lt.mpr many)
    · exact absurd free (full i)
    · rw [registered]
      exact id_nonneg j

section Changing

variable {s t : Server} {waits : Option Nat} {v w : Nat} {list : List Nat}

theorem sound_relinked (sound : Sound waits s) (relinked : Relinked s t)
    (pointers : ∀ v, Points t.manager v → s.Live v) (listed : Listed t list)
    (types : ∀ v ∈ list, (s.window v).type = .overlapped) : Sound waits t := by
  constructor
  · intro v magic
    rw [relinked.magic] at magic
    rw [relinked.window v]
    exact sound.marked v magic
  · intro v beyond
    rw [relinked.made] at beyond
    rw [relinked.live]
    exact sound.unmade v beyond
  · exact fun w waiting => (relinked.live w).mpr (sound.waiting w waiting)
  · intro i v named
    rw [relinked.windowList] at named
    exact (relinked.live v).mpr (sound.entries i v named)
  · intro v live other
    rcases sound.filed v ((relinked.live v).mp live) other with ⟨i, named, id⟩
    refine ⟨i, by rw [relinked.windowList, named], ?_⟩
    rw [relinked.window v]
    exact id
  · rw [Server.taken, relinked.windowList, relinked.windowsCount]
    exact sound.counted
  · intro v p live parent
    rw [relinked.window v] at parent
    exact (relinked.live p).mpr (sound.parents v p ((relinked.live v).mp live) parent)
  · exact fun v points => (relinked.live v).mpr (pointers v points)
  · refine ⟨list, listed, ?_⟩
    intro v member
    rw [relinked.type]
    exact types v member

theorem sound_manage (sound : Sound waits s) (change : WindowManager → WindowManager)
    (first : (change s.manager).firstWindow = s.manager.firstWindow)
    (pointers : ∀ v, Points (change s.manager) v → s.Live v) : Sound waits (s.manage change) := by
  rcases sound.stacked with ⟨list, listed, types⟩
  have same : Listed (s.manage change) list := by
    refine ⟨?_, listed.2⟩
    change Linked s.next (change s.manager).firstWindow list
    rw [first]
    exact listed.1
  exact sound_relinked sound (Relinked.manage s change) pointers same types

theorem points_input {manager : WindowManager} {active keyboard mouse : Option Nat}
    (points : Points { manager with
      activeWindow := active, keyboardOwner := keyboard, mouseOwner := mouse } v) :
    active = some v ∨ keyboard = some v ∨ mouse = some v ∨ Points manager v := by
  rcases points with (first | second | third) | hover
  · exact Or.inl first
  · exact Or.inr (Or.inl second)
  · exact Or.inr (Or.inr (Or.inl third))
  · exact Or.inr (Or.inr (Or.inr (Or.inr hover)))

theorem activate_points {manager : WindowManager} (points : Points (manager.activate w) v) :
    Points manager v ∨ v = w := by
  rcases points with inputs | hover
  · rcases activate_inputs inputs with old | same
    · exact Or.inl (Or.inl old)
    · exact Or.inr same
  · rw [activate_hover] at hover
    exact Or.inl (Or.inr hover)

theorem activates_points {windows : List Nat} {manager : WindowManager}
    (points : Points (windows.foldl WindowManager.activate manager) v) :
    Points manager v ∨ v ∈ windows := by
  rcases points with inputs | hover
  · rcases activates_inputs inputs with old | member
    · exact Or.inl (Or.inl old)
    · exact Or.inr member
  · rw [activates_hover] at hover
    exact Or.inl (Or.inr hover)

theorem points_between {manager : WindowManager} {first last : Option Nat} :
    Points (manager.between first last) v ↔ Points manager v := Iff.rfl

theorem setActiveWindow_sound (sound : Sound waits s) (window : Option Nat) :
    Sound waits (setActiveWindow s window) := by
  cases window with
  | none => exact sound
  | some w =>
      by_cases refused : (s.window w).magic ≠ 1234 ∨ (s.window w).type ≠ .overlapped
      · rw [setActiveWindow_refused refused]
        exact sound
      · rw [not_or, not_not, not_not] at refused
        have live := sound.live refused.1
        rw [setActiveWindow_overlapped ⟨live, refused.2⟩]
        apply sound_manage sound _ (activate_ends s.manager w).1
        intro v points
        rcases activate_points points with old | rfl
        · exact sound.pointers v old
        · exact live

theorem setWindowWithFocus_sound (sound : Sound waits s) (window : Option Nat) :
    Sound waits (setWindowWithFocus s window) := by
  unfold setWindowWithFocus
  split
  · exact sound
  next w =>
    split
    · exact sound
    next valid =>
      apply sound_manage sound (fun manager => { manager with keyboardOwner := some w }) rfl
      intro v points
      rcases points_input points with active | keyboard | mouse | old
      · exact sound.pointers v (Or.inl (Or.inl active))
      · cases keyboard
        exact sound.live (not_not.mp valid)
      · exact sound.pointers v (Or.inl (Or.inr (Or.inr mouse)))
      · exact sound.pointers v old

theorem getWindowWithFocus_sound (sound : Sound waits s) :
    Sound waits (getWindowWithFocus s).2 := by
  unfold getWindowWithFocus
  split
  · exact sound
  · split
    · exact sound
    · apply sound_manage sound (fun manager => { manager with keyboardOwner := none }) rfl
      intro v points
      rcases points_input points with active | keyboard | mouse | old
      · exact sound.pointers v (Or.inl (Or.inl active))
      · cases keyboard
      · exact sound.pointers v (Or.inl (Or.inr (Or.inr mouse)))
      · exact sound.pointers v old

theorem setMouseover_sound (sound : Sound waits s) (window : Option Nat) :
    Sound waits (setMouseover s window) := by
  unfold setMouseover
  split
  · exact sound
  next w =>
    split
    next live =>
      apply sound_manage sound (fun manager => { manager with mouseHover := some w }) rfl
      rintro v (inputs | hover)
      · exact sound.pointers v (Or.inl inputs)
      · cases hover
        exact live
    · exact sound

theorem setActiveWindow_relinked (s : Server) (window : Option Nat) :
    Relinked s (setActiveWindow s window) := by
  unfold setActiveWindow
  repeat' split
  all_goals first | exact Relinked.refl s | exact Relinked.manage s _

theorem setFocus_sound (sound : Sound waits s) {window : Option Nat}
    (focused : setFocus s window = .ok t) : Sound waits t ∧ t.windowsCount = s.windowsCount := by
  have done : ∀ {u w}, Sound waits u → Relinked s u → s.Live w →
      Sound waits (u.manage fun manager => { manager with
        keyboardOwner := some w, mouseOwner := some w }) ∧ u.windowsCount = s.windowsCount := by
    intro u w sound relinked live
    refine ⟨?_, relinked.windowsCount⟩
    apply sound_manage sound (fun manager => { manager with
      keyboardOwner := some w, mouseOwner := some w }) rfl
    intro v points
    rcases points_input points with active | keyboard | mouse | old
    · exact sound.pointers v (Or.inl (Or.inl active))
    · cases keyboard
      exact (relinked.live w).mpr live
    · cases mouse
      exact (relinked.live w).mpr live
    · exact sound.pointers v old
  unfold setFocus at focused
  split at focused
  · cases focused
    exact ⟨sound, rfl⟩
  next w =>
    split at focused
    · cases focused
      exact ⟨sound, rfl⟩
    next live =>
      rw [not_not] at live
      split at focused
      · cases focused
      · cases focused
      · -- The parent is activated first, unless it is active already.
        have activated : ∀ (p : Nat) (c : Prop), [Decidable c] →
            Sound waits (if c then s else setActiveWindow s (some p)) ∧
              Relinked s (if c then s else setActiveWindow s (some p)) := by
          intro p c _
          split
          · exact ⟨sound, Relinked.refl s⟩
          · exact ⟨setActiveWindow_sound sound _, setActiveWindow_relinked s _⟩
        split at focused
        all_goals cases focused
        any_goals exact ⟨sound, rfl⟩
        all_goals exact done (activated _ _).1 (activated _ _).2 live

end Changing

section Creating

variable {s t : Server} {x : Window} {waits parent : Option Nat} {own : Nat}
  {type : WindowType} {style : UInt64} {state : Int32}

theorem add_sound (sound : Sound waits s) (overlapped : s.Overlapped own) :
    ∃ t, wmAddWindowToTop s (some own) = .ok t ∧ Sound waits t ∧ Relinked s t := by
  rcases sound.stacked with ⟨list, listed, types⟩
  rcases add_taken listed overlapped (sound.below overlapped.1) with
    ⟨t, added, relinked, longer, manager⟩
  refine ⟨t, added, sound_relinked sound relinked ?_ longer ?_, relinked⟩
  · intro v points
    rw [manager] at points
    rcases activate_points points with old | rfl
    · exact sound.pointers v old
    · exact overlapped.1
  · intro v member
    rcases mem_upTo.mp member with old | rfl
    · have inside := List.takeWhile_subset _ old
      unfold Server.usable at inside
      split at inside
      · exact types v inside
      · cases inside
    · exact overlapped.2

theorem sound_skip (sound : Sound waits s) : Sound waits { s with made := s.made + 1 } where
  marked := sound.marked
  unmade := fun v beyond => sound.unmade v (Nat.le_of_succ_le beyond)
  waiting := sound.waiting
  entries := sound.entries
  filed := sound.filed
  counted := sound.counted
  parents := sound.parents
  pointers := sound.pointers
  stacked := by
    rcases sound.stacked with ⟨list, listed, types⟩
    exact ⟨list, ⟨listed.1, fun v member => Nat.lt_succ_of_lt (listed.2 v member)⟩, types⟩

theorem add_live (sound : Sound waits s) {v : Nat} (live : s.Live v) : (add s x).Live v :=
  (live_congr (add_window_of_ne (Nat.ne_of_lt (sound.below live)))).mpr live

theorem sound_add (sound : Sound none s) (used : x.used = true) (magic : x.magic = 1234)
    (alive : ∀ p, x.parent = some p → s.Live p) : Sound (some s.made) (add s x) := by
  have old : ∀ v, v ≠ s.made → ((add s x).Live v ↔ s.Live v) := fun v other =>
    live_congr (add_window_of_ne other)
  constructor
  · intro v valid
    by_cases same : v = s.made
    · subst same
      rw [add_window]
      exact used
    · rw [add_window_of_ne same] at valid ⊢
      exact sound.marked v valid
  · intro v beyond
    rw [old v (Nat.ne_of_gt beyond)]
    exact sound.unmade v (Nat.le_of_succ_le beyond)
  · rintro w ⟨⟩
    rw [Server.Live, add_window]
    exact ⟨used, magic⟩
  · exact fun i v named => add_live sound (sound.entries i v named)
  · intro v live other
    have apart : v ≠ s.made := fun same => other (congrArg some same.symm)
    rcases sound.filed v ((old v apart).mp live) (by simp) with ⟨i, named, id⟩
    exact ⟨i, named, by rw [add_window_of_ne apart, id]⟩
  · exact sound.counted
  · intro v p live parent
    by_cases same : v = s.made
    · subst same
      rw [add_window] at parent
      exact add_live sound (alive p parent)
    · rw [add_window_of_ne same] at parent
      exact add_live sound (sound.parents v p ((old v same).mp live) parent)
  · exact fun v points => add_live sound (sound.pointers v points)
  · rcases sound.stacked with ⟨list, listed, types⟩
    refine ⟨list, listed_add listed, ?_⟩
    intro v member
    rw [add_window_of_ne (Nat.ne_of_lt (listed.2 v member))]
    exact types v member

/-- The parts of the frame get their ids while their window waits for its own. -/
theorem sound_extends {limit attempts : Nat} (sound : Sound (some own) s) (framed : Framed s own)
    (few : s.windowsCount + limit < WINDOW_COUNT_MAX)
    (extension : Extends limit own [] attempts s t) : Sound (some own) t := by
  have ample : s.Ample limit := ⟨sound.counted, few⟩
  have own_live := extension.live_own framed
  have early_live : ∀ v, v < s.made → (t.Live v ↔ s.Live v) := by
    intro v early
    by_cases same : v = own
    · exact iff_of_true (same ▸ own_live) (same ▸ framed.live)
    · exact live_congr (extension.old v early same)
  have kept : ∀ v, s.Live v → t.Live v := fun v live =>
    (early_live v (sound.below live)).mpr live
  -- A window is as it was, or the one with the frame, or a part of the frame.
  have cases_of : ∀ v, t.window v = s.window v ∨ v = own ∨ t.Part v := by
    intro v
    by_cases early : v < s.made
    · by_cases same : v = own
      · exact Or.inr (Or.inl same)
      · exact Or.inl (extension.old v early same)
    · rcases extension.new v (Nat.not_lt.mp early) with same | ⟨-, part⟩
      · exact Or.inl same
      · exact Or.inr (Or.inr part)
  constructor
  · intro v magic
    rcases cases_of v with same | rfl | part
    · rw [same] at magic ⊢
      exact sound.marked v magic
    · exact own_live.1
    · exact part.live.1
  · exact fun v beyond => extension.not_made framed beyond
  · rintro w ⟨⟩
    exact own_live
  · intro i v named
    rcases extension.listed i v named with old | ⟨-, -, part, -⟩
    · exact kept v (sound.entries i v old)
    · exact part.live
  · intro v live other
    by_cases early : v < s.made
    · have apart : v ≠ own := fun same => other (congrArg some same.symm)
      have same := extension.old v early apart
      rcases sound.filed v ((early_live v early).mp live) other with ⟨i, named, id⟩
      exact ⟨i, extension.kept i v named, by rw [same, id]⟩
    · exact extension.filed ample v (Nat.not_lt.mp early) live (by simp)
  · exact (extension.counted ample).1
  · intro v p live parent
    rcases cases_of v with same | rfl | part
    · rw [same] at parent
      exact kept p (sound.parents v p ((live_congr same).mp live) parent)
    · rw [extension.base] at parent
      exact kept p (sound.parents v p framed.live parent)
    · rcases part.parent with ⟨q, named, alive⟩
      rw [named] at parent
      exact Option.some.inj parent ▸ alive
  · intro v points
    rw [extension.manager] at points
    exact kept v (sound.pointers v points)
  · rcases sound.stacked with ⟨list, listed, types⟩
    have same : ∀ v ∈ list, t.window v =
        { s.window v with titlebar := (t.window v).titlebar } := by
      intro v member
      by_cases here : v = own
      · exact here ▸ extension.base
      · rw [extension.old v (listed.2 v member) here]
    refine ⟨list, ⟨?_, fun v member => (listed.2 v member).trans_le extension.made⟩, ?_⟩
    · rw [extension.manager]
      apply linked_congr ?_ listed.1
      intro v member
      rw [Server.next, same v member, Server.next]
    · intro v member
      rw [same v member]
      exact types v member

theorem sound_file (sound : Sound (some own) s) {i : Fin WINDOW_COUNT_MAX}
    (free : s.windowList i = none) : Sound none (s.file i own) := by
  have kept := fun v => @file_alike s own i v
  constructor
  · intro v magic
    rw [kept] at magic ⊢
    exact sound.marked v magic
  · intro v beyond
    rw [file_live]
    exact sound.unmade v beyond
  · exact fun w waits => nomatch waits
  · intro j v named
    rw [file_live]
    rcases file_named named with old | ⟨-, rfl⟩
    · exact sound.entries j v old
    · exact sound.waiting v rfl
  · intro v live _
    by_cases same : v = own
    · subst same
      exact ⟨i, file_here, by rw [file_window]⟩
    · have apart : some own ≠ some v := fun equal => same (Option.some.inj equal).symm
      rcases sound.filed v ((file_live v).mp live) apart with ⟨j, named, id⟩
      exact ⟨j, file_listed free named, by rw [file_window_of_ne same, id]⟩
  · exact file_taken.trans (Nat.succ_le_succ sound.counted)
  · intro v p live parent
    rw [kept] at parent
    exact (file_live p).mpr (sound.parents v p ((file_live v).mp live) parent)
  · exact fun v points => (file_live v).mpr (sound.pointers v points)
  · rcases sound.stacked with ⟨list, listed, types⟩
    refine ⟨list, ⟨@file_next s own i ▸ listed.1, listed.2⟩, ?_⟩
    intro v member
    rw [kept]
    exact types v member

/-- Below the bound of the counter there is a free slot for the window. -/
theorem register_sound (sound : Sound (some own) s)
    (few : s.windowsCount + 1 < WINDOW_COUNT_MAX) :
    ∃ i : Fin WINDOW_COUNT_MAX, registerWindow s (some own) = (Int32.ofNat i, s.file i own) ∧
      Sound none (s.file i own) := by
  rcases register_cases s own with ⟨many | full, -⟩ | ⟨i, free, registered⟩
  · exact absurd few (Nat.not_lt.mpr many)
  · have room : s.taken < WINDOW_COUNT_MAX := sound.counted.trans_lt (Nat.lt_of_succ_lt few)
    rcases free_slot room with ⟨i, free⟩
    exact absurd free (full i)
  · exact ⟨i, registered, sound_file sound free⟩

/-- What a creation leaves: a window that waits for its id, if one was made, and room for
    that and one more registration. -/
structure Made (window : Option Nat) (t : Server) : Prop where
  sound : Sound window t
  room : t.windowsCount + window.toList.length + 1 < WINDOW_COUNT_MAX

theorem made_add (sound : Sound none s) (used : x.used = true) (magic : x.magic = 1234)
    (alive : ∀ p, x.parent = some p → s.Live p) (few : s.windowsCount + 2 < WINDOW_COUNT_MAX) :
    Made (some s.made) (add s x) :=
  ⟨sound_add sound used magic alive, few⟩

theorem made_overlapped (sound : Sound none s) (used : x.used = true) (magic : x.magic = 1234)
    (overlapped : x.type = .overlapped) (bar : x.titlebar = none)
    (alive : ∀ p, x.parent = some p → s.Live p)
    (few : s.windowsCount + frameCount x.style x.state + 2 < WINDOW_COUNT_MAX)
    (parent : Option Nat) :
    ∃ u, wmAddWindowToTop (add s x) (some s.made) = .ok u ∧
      Returns (doCreateAndDrawWindowFrame (setActiveWindow u (some s.made)) parent s.made)
        (Made (some s.made)) := by
  have added := sound_add sound used magic alive
  have here : (add s x).Overlapped s.made := by
    rw [Server.Overlapped, Server.Live, add_window]
    exact ⟨⟨used, magic⟩, overlapped⟩
  rcases add_sound added here with ⟨u, stacked, sound₁, first⟩
  have sound₂ := setActiveWindow_sound sound₁ (some s.made)
  have relinked := first.trans (setActiveWindow_relinked u (some s.made))
  refine ⟨u, stacked, ?_⟩
  generalize setActiveWindow u (some s.made) = v at sound₂ relinked ⊢
  have count : v.windowsCount = s.windowsCount := relinked.windowsCount
  have window : (v.window s.made).style = x.style ∧ (v.window s.made).state = x.state ∧
      (v.window s.made).titlebar = none := by
    rw [relinked.window, add_window]
    exact ⟨rfl, rfl, bar⟩
  have framed : Framed v s.made := by
    constructor
    · rw [relinked.made]
      exact Nat.lt_succ_self _
    · exact sound₂.waiting _ rfl
    · exact window.2.2
    · exact fun i w named => sound₂.below (sound₂.entries i w named)
    · exact sound₂.unmade
  intro t drawn
  have extension := frame_extends framed (Nat.le_refl _) drawn
  rw [window.1, window.2.1] at extension
  have room : v.windowsCount + frameCount x.style x.state < WINDOW_COUNT_MAX := by
    rw [count]
    exact (Nat.le_add_right _ 2).trans_lt few
  refine ⟨sound_extends sound₂ framed room extension, ?_⟩
  have counted := (extension.counted ⟨sound₂.counted, room⟩).2
  rw [count] at counted
  exact (Nat.add_le_add_right counted 2).trans_lt few

theorem made_bar {window : Option Nat} (made : Made window t) (bar : Option Nat) :
    Made window (t.bar bar) :=
  ⟨sound_manage made.sound _ rfl made.sound.pointers, made.room⟩

theorem made_plain {own : Nat} (made : Made (some own) t) (parent : Option Nat)
    (other : (t.window own).type ≠ .overlapped) :
    Returns (do
      let t ← doCreateAndDrawWindowFrame t parent own
      .ok (some own, t)) fun out : Option Nat × Server => Made out.1 out.2 := by
  refine returns_of_bind (frame_returns t parent own) fun u drawn => ?_
  rcases drawn with rfl | ⟨overlapped, -⟩
  · exact returns_ok.mpr made
  · exact absurd overlapped other

theorem createWindow_made (sound : Sound none s) (alive : ∀ p, parent = some p → s.Live p)
    (few : s.windowsCount + registrations type style state + 1 < WINDOW_COUNT_MAX) :
    Returns (createWindow s type style state parent) fun out => Made out.1 out.2 := by
  have skipped : Made none { s with made := s.made + 1 } :=
    ⟨sound_skip sound, (Nat.add_le_add_right (Nat.le_add_right _ _) 1).trans_lt few⟩
  have made : ∀ canvases type, s.windowsCount + 2 < WINDOW_COUNT_MAX →
      Made (some s.made) (add s (newWindow canvases type style state parent)) :=
    fun canvases type few => made_add sound rfl rfl alive few
  have drawn := fun type => doCreate_returns s type style state parent
  cases type
  -- Types that are refused.
  case titlebar | statusbar | checkbox | scrollbar =>
    exact returns_ok.mpr ⟨sound, few⟩
  case simple =>
    refine (drawn .simple).mono fun out done => ?_
    rcases done with rfl | ⟨-, t, rfl, rfl | ⟨⟨⟩, -⟩⟩
    · exact skipped
    · exact made _ _ few
  case popup | button =>
    refine returns_of_bind (drawn _) fun out done => ?_
    rcases done with rfl | ⟨-, t, rfl, rfl | ⟨-, rfl⟩⟩
    · exact returns_ok.mpr skipped
    · apply made_plain (made _ _ few)
      rw [add_window]
      exact WindowType.noConfusion
    · apply made_plain (made_bar (made _ _ few) _)
      change ((add s _).window s.made).type ≠ _
      rw [add_window]
      exact WindowType.noConfusion
  -- Made as a simple one, which then gets its type and is in no list.
  case editboxSingleLine | editboxMultipleLines | icon =>
    refine returns_of_bind (drawn .simple) fun out done => ?_
    rcases done with rfl | ⟨-, t, rfl, rfl | ⟨⟨⟩, -⟩⟩
    · exact returns_ok.mpr skipped
    · dsimp only
      rw [set_add]
      apply made_plain (made_add sound rfl rfl alive few)
      rw [add_window]
      exact WindowType.noConfusion
  -- Linked, made active, and then its frame registers the rest.
  case overlapped =>
    refine returns_of_bind (drawn .simple) fun out done => ?_
    rcases done with rfl | ⟨-, t, rfl, rfl | ⟨⟨⟩, -⟩⟩
    · exact returns_ok.mpr skipped
    · have room : s.windowsCount + frameCount style state + 2 < WINDOW_COUNT_MAX := few
      have framed : ∃ u, wmAddWindowToTop (add s { newWindow (s.canvases style) .simple style
          state parent with type := .overlapped }) (some s.made) = .ok u ∧
            Returns (doCreateAndDrawWindowFrame (setActiveWindow u (some s.made)) parent s.made)
              (Made (some s.made)) :=
        made_overlapped sound rfl rfl rfl rfl alive room parent
      rcases framed with ⟨u, added, made⟩
      dsimp only
      rw [set_add, added]
      change Returns (doCreateAndDrawWindowFrame _ _ _ >>= _) _
      exact returns_of_bind made fun t made => returns_ok.mpr made

theorem serviceCreateWindow_sound {pwid : Int32} (sound : Sound none s)
    (few : s.windowsCount + 1 < WINDOW_COUNT_MAX)
    (careful : Careful s (.serviceCreateWindow type style state pwid)) :
    Returns (serviceCreateWindow s type style state pwid) fun out => Settled out.2 := by
  unfold serviceCreateWindow
  cases found : getWindowFromWid s pwid with
  | none => exact returns_ok.mpr ⟨sound, few⟩
  | some parent =>
      dsimp only
      by_cases app : style &&& WS_APP ≠ 0 ∧ pwid ≠ 0 ∧
          ¬(s.manager.rootWindow.any fun root => (s.window root).id = pwid)
      · rw [if_pos app]
        exact returns_ok.mpr ⟨sound, few⟩
      · rw [if_neg app]
        by_cases child : style &&& WS_CHILD ≠ 0
        · rw [if_pos child]
          exact returns_ok.mpr ⟨sound, few⟩
        · rw [if_neg child]
          have accepts : Accepts s style pwid := ⟨by rw [found]; rfl, app, child⟩
          have parent_live : ∀ p, some parent = some p → s.Live p := by
            rintro p ⟨⟩
            exact sound.live (of_decide_eq_true (Option.filter_eq_some_iff.mp found).2)
          refine returns_of_bind (createWindow_made sound parent_live (careful accepts))
            fun out made => ?_
          obtain ⟨window, t⟩ := out
          cases window with
          | none => exact returns_ok.mpr ⟨made.sound, made.room⟩
          | some w =>
              rcases register_sound made.sound (Nat.lt_of_succ_lt made.room) with
                ⟨i, registered, filed⟩
              dsimp only
              rw [registered]
              dsimp only
              rw [if_neg (id_nonneg i)]
              have room : (t.file i w).windowsCount + 1 < WINDOW_COUNT_MAX := made.room
              have live : (t.file i w).Live w := (file_live w).mpr (made.sound.waiting w rfl)
              -- The window is registered and, if it is overlapped, linked a second time.
              generalize t.file i w = u at filed room live ⊢
              by_cases type : (u.window w).type = .overlapped
              · have stays : (some w).filter (fun w => decide ((u.window w).type = .overlapped)) =
                    some w := by simp [type]
                rw [stays]
                rcases add_sound filed ⟨live, type⟩ with ⟨v, added, sound', relinked⟩
                dsimp only
                rw [added]
                refine returns_ok.mpr ⟨sound', ?_⟩
                rw [relinked.windowsCount]
                exact room
              · have none : (some w).filter (fun w => decide ((u.window w).type = .overlapped)) =
                    none := by simp [type]
                rw [none]
                exact returns_ok.mpr ⟨filed, room⟩

end Creating

section Destroying

variable {s t : Server} {v w : Nat} {wid : Int32}

/-- The window is taken from the table and killed. -/
def destroyed (s : Server) (w : Nat) : Server :=
  (s.unlist w).kill w

/-- The window manager with no pointer to a single window. -/
def unpointed (manager : WindowManager) : WindowManager :=
  { manager with activeWindow := none, keyboardOwner := none, mouseOwner := none, mouseHover :=
    none }

theorem destroyed_manager : (destroyed s w).manager = s.manager := rfl

theorem destroyed_window (other : v ≠ w) : (destroyed s w).window v = s.window v :=
  kill_window_of_ne other

theorem destroyed_live : (destroyed s w).Live v ↔ s.Live v ∧ v ≠ w := by
  by_cases same : v = w
  · subst same
    exact iff_of_false kill_dead fun live => live.2 rfl
  · rw [live_congr (destroyed_window same)]
    exact (and_iff_left same).symm

theorem destroyed_type : ((destroyed s w).window v).type = (s.window v).type := by
  by_cases same : v = w
  · subst same
    rw [destroyed, Server.kill, set_window_self]
    rfl
  · rw [destroyed_window same]

theorem destroyed_listed {list : List Nat} (listed : Listed s list) :
    Listed (destroyed s w) list := by
  have next : (destroyed s w).next = s.next := by
    rw [destroyed, Server.kill, set_next]
    exact update_eq_self w (s.unlist w).next
  refine ⟨?_, listed.2⟩
  rw [next]
  exact listed.1

theorem unlist_taken : (s.unlist w).taken ≤ s.taken := by
  apply Finset.card_le_card
  intro i member
  rw [Finset.mem_filter, Option.isSome_iff_exists] at member ⊢
  rcases member.2 with ⟨v, named⟩
  exact ⟨member.1, v, (unlist_iff.mp named).1⟩

/-- What is no parent goes without a trace, but for the pointers to it. -/
theorem sound_destroyed (sound : Sound none s)
    (childless : ∀ v, s.Live v → (s.window v).parent = some w → v = w) :
    Sound none ((destroyed s w).manage unpointed) := by
  constructor
  · intro v magic
    by_cases same : v = w
    · subst same
      change ((destroyed s v).window v).magic = 1234 at magic
      rw [destroyed, Server.kill, set_window_self] at magic
      cases magic
    · change ((destroyed s w).window v).magic = 1234 at magic
      change ((destroyed s w).window v).used = true
      rw [destroyed_window same] at magic ⊢
      exact sound.marked v magic
  · exact fun v beyond live => sound.unmade v beyond (destroyed_live.mp live).1
  · intro v waits
    cases waits
  · intro i v named
    rcases unlist_iff.mp named with ⟨before, other⟩
    exact destroyed_live.mpr ⟨sound.entries i v before, other⟩
  · intro v live _
    rcases destroyed_live.mp live with ⟨before, other⟩
    rcases sound.filed v before (by simp) with ⟨i, named, id⟩
    refine ⟨i, unlist_iff.mpr ⟨named, other⟩, ?_⟩
    exact (congrArg Window.id (destroyed_window other)).trans id
  · exact unlist_taken.trans sound.counted
  · intro v p live parent
    rcases destroyed_live.mp live with ⟨before, other⟩
    change ((destroyed s w).window v).parent = some p at parent
    rw [destroyed_window other] at parent
    refine destroyed_live.mpr ⟨sound.parents v p before parent, ?_⟩
    rintro rfl
    exact other (childless v before parent)
  · rintro v ((active | keyboard | mouse) | hover)
    · cases active
    · cases keyboard
    · cases mouse
    · cases hover
  · rcases sound.stacked with ⟨list, listed, types⟩
    refine ⟨list, destroyed_listed listed, ?_⟩
    intro v member
    exact destroyed_type.trans (types v member)

theorem sound_after {list : List Nat} (sound : Sound none ((destroyed s w).manage unpointed))
    (relinked : Relinked (destroyed s w) t)
    (pointers : ∀ v, Points t.manager v → (destroyed s w).Live v) (listed : Listed t list)
    (types : ∀ v ∈ list, (s.window v).type = .overlapped) : Sound none t := by
  have later : Relinked ((destroyed s w).manage unpointed) t :=
    ⟨relinked.window, relinked.made, relinked.room, relinked.windowList, relinked.windowsCount,
      relinked.tiles, relinked.composition⟩
  exact sound_relinked sound later pointers listed fun v member =>
    destroyed_type.trans (types v member)

theorem others_registered (sound : Sound none s) (overlapped : s.Overlapped v) (other : v ≠ w) :
    v ∈ (destroyed s w).registered := by
  rcases sound.filed v overlapped.1 (by simp) with ⟨i, named, -⟩
  rw [Server.registered, List.mem_filterMap]
  refine ⟨i, List.mem_finRange i, candidate_iff.mpr ⟨unlist_iff.mpr ⟨named, other⟩, ?_⟩⟩
  rw [destroyed_window other]
  exact ⟨overlapped.1.2, overlapped.2⟩

theorem registered_live (sound : Sound none ((destroyed s w).manage unpointed))
    (member : v ∈ (destroyed s w).registered) :
    (destroyed s w).Live v ∧ (s.window v).type = .overlapped := by
  rw [Server.registered, List.mem_filterMap] at member
  rcases member with ⟨i, -, found⟩
  rcases candidate_iff.mp found with ⟨-, magic, type⟩
  exact ⟨sound.live magic, destroyed_type.symm.trans type⟩

theorem pointers_after (sound : Sound none s)
    (left : Sound none ((destroyed s w).manage unpointed))
    (hover : s.manager.mouseHover ≠ some w)
    (inputs : s.manager.Inputs w → ∃ v, v ≠ w ∧ s.Overlapped v ∧ s.manager.activeWindow ≠ some v)
    (points : Points ((destroyed s w).registered.foldl WindowManager.activate s.manager) v) :
    (destroyed s w).Live v := by
  by_cases same : v = w
  · subst same
    rcases points with input | past
    · rcases activates_inputs input with old | member
      · rcases inputs old with ⟨u, other, overlapped, inactive⟩
        have member := others_registered sound overlapped other
        exact (registered_live left (activates_all member inactive input)).1
      · exact (registered_live left member).1
    · rw [activates_hover] at past
      exact absurd past hover
  · rcases activates_points points with old | member
    · exact destroyed_live.mpr ⟨sound.pointers v old, same⟩
    · exact (registered_live left member).1

theorem emptied_sound {list : List Nat} (sound : Sound none s)
    (left : Sound none ((destroyed s w).manage unpointed)) (listed : Listed s list)
    (types : ∀ v ∈ list, (s.window v).type = .overlapped) (reset : Reset s w)
    (none_left : (destroyed s w).registered = [])
    (updated : wmUpdateDesktop (destroyed s w) true = .ok t) :
    Sound none t ∧ t.windowsCount = s.windowsCount := by
  -- The destroyed window was the last overlapped one.
  have alone : ∀ v, v ≠ w → ¬s.Overlapped v := by
    intro v other overlapped
    have member := others_registered sound overlapped other
    rw [none_left] at member
    cases member
  have free : s.tiles = false ∧ s.manager.mouseHover ≠ some w ∧
      (s.manager.Inputs w → ∃ v, v ≠ w ∧ s.Overlapped v ∧ s.manager.activeWindow ≠ some v) := by
    cases tiles : s.tiles with
    | false =>
        rw [Reset, tiles] at reset
        exact ⟨rfl, reset⟩
    | true =>
        rw [Reset, tiles] at reset
        rcases reset with ⟨v, other, overlapped⟩
        exact absurd overlapped (alone v other)
  rcases free with ⟨tiles, hover, inputs⟩
  have tiles' : (destroyed s w).tiles = false := tiles
  have listed' := @destroyed_listed s w list listed
  have head := linked_head listed'.1
  cases list with
  | nil =>
      unfold wmUpdateDesktop wmTile at updated
      rw [if_pos rfl, tiles', if_neg Bool.false_ne_true] at updated
      simp only [bind, Except.bind, ← head, List.head?_nil] at updated
      cases updated
  | cons f rest =>
      -- The list still begins with it, and the update finds it dead.
      have dead : ((destroyed s w).window f).magic ≠ 1234 := by
        intro magic
        rcases destroyed_live.mp (left.live magic) with ⟨live, other⟩
        exact alone f other ⟨live, types f List.mem_cons_self⟩
      have last : ∃ l, (f :: rest).getLast? = some l := ⟨_, List.getLast?_eq_some_getLast (by simp)⟩
      rcases last with ⟨l, last⟩
      rw [wmUpdateDesktop_dead listed' last head.symm dead] at updated
      cases updated
      have empty : ∀ t : Server, t.manager.firstWindow = none → Listed t [] :=
        fun t first => ⟨first, fun v member => nomatch member⟩
      refine ⟨sound_after left (Relinked.manage _ _) ?_ (empty _ rfl) (fun v member =>
        nomatch member), rfl⟩
      intro v points
      apply pointers_after sound left hover inputs
      rw [none_left]
      rw [Server.manage, tiles'] at points
      exact points

theorem rebuilt_sound {list : List Nat} {u : Server} (sound : Sound none s)
    (left : Sound none ((destroyed s w).manage unpointed)) (listed : Listed s list)
    (types : ∀ v ∈ list, (s.window v).type = .overlapped) (reset : Reset s w)
    (some_left : (destroyed s w).registered ≠ [])
    (rebuilt : wmRebuildList (destroyed s w) = .ok t) (updated : wmUpdateDesktop t true = .ok u) :
    Sound none u ∧ u.windowsCount = s.windowsCount := by
  have marked : (destroyed s w).Marked :=
    ⟨left.marked, fun i v named => left.below (left.entries i v named)⟩
  rcases rebuild_taken marked (destroyed_listed listed) some_left with
    ⟨t', rebuild, relinked, new, manager⟩
  rw [rebuild] at rebuilt
  cases rebuilt
  -- What stays linked was overlapped before, and so is what is registered.
  have kinds : ∀ v ∈ (destroyed s w).registered.foldl (fun list v => upTo v list)
      ((destroyed s w).usable list), (s.window v).type = .overlapped := by
    intro v member
    rcases foldl_upTo_mem member with old | added
    · unfold Server.usable at old
      split at old
      · exact types v old
      · cases old
    · exact (registered_live left added).2
  -- The head is the old one, where it is still marked, or is registered.
  have first : ∀ f, ((destroyed s w).registered.foldl (fun list v => upTo v list)
      ((destroyed s w).usable list)).head? = some f → (destroyed s w).Live f := by
    intro f head
    rcases foldl_upTo_head head with old | added
    · unfold Server.usable at old
      split at old
      · rename_i live
        rw [old] at live
        simpa using live
      · cases old
    · exact (registered_live left added).1
  cases ending : (destroyed s w).registered.getLast? with
  | none => exact absurd (List.getLast?_eq_none_iff.mp ending) some_left
  | some l =>
      have inside := (registered_live left (List.mem_of_getLast? ending)).1
      have last := @foldl_upTo_last _ _ l ((destroyed s w).usable list) _ ending
      generalize (destroyed s w).registered.foldl (fun list v => upTo v list)
        ((destroyed s w).usable list) = stack at new kinds first last
      rw [wmUpdateDesktop_live new (fun v member => by
          rw [relinked.type, destroyed_type]; exact kinds v member)
        (fun f head => (relinked.live f).mpr (first f head)) ((relinked.live l).mpr inside)
        last] at updated
      split at updated
      swap
      · cases updated
      cases updated
      refine ⟨sound_after left (relinked.trans (Relinked.manage t _)) ?_ ⟨new.1, new.2⟩ kinds,
        relinked.windowsCount⟩
      intro v points
      have tiles : t.tiles = s.tiles := relinked.tiles
      -- A pointer is one from before the destruction, or to the window activated last.
      rw [Server.manage, tiles] at points
      have before : Points (t.manager.tiled s.tiles l) v ∨ v = l := activate_points points
      rcases before with before | rfl
      · rw [Reset] at reset
        cases mode : s.tiles with
        | true =>
            rw [mode] at before
            rcases before with (active | keyboard | mouse) | hover
            · exact Option.some.inj active ▸ inside
            · exact Option.some.inj keyboard ▸ inside
            · cases mouse
            · cases hover
        | false =>
            rw [mode] at before reset
            change Points t.manager v at before
            rw [manager, destroyed_manager, points_between] at before
            exact pointers_after sound left reset.1 reset.2 before
      · exact inside

theorem destroyWindowByWid_sound (sound : Sound none s)
    (few : s.windowsCount + 1 < WINDOW_COUNT_MAX)
    (careful : Careful s (.destroyWindowByWid wid)) {rv : Int32}
    (done : destroyWindowByWid s wid = .ok (rv, t)) :
    Sound none t ∧ t.windowsCount + 1 < WINDOW_COUNT_MAX := by
  unfold destroyWindowByWid at done
  cases found : getWindowFromWid s wid with
  | none =>
      rw [found] at done
      cases done
      exact ⟨sound, few⟩
  | some w =>
      rw [found] at done
      dsimp only at done
      by_cases root : s.manager.rootWindow = some w
      · rw [if_pos root] at done
        cases done
        exact ⟨sound, few⟩
      · rw [if_neg root] at done
        split at done
        · cases done
        by_cases type : (s.window w).type = .overlapped
        · -- An overlapped window has no title bar left to kill, and the list is built again without
          -- it.
          rw [if_neg (not_not.mpr type)] at done
          have forgotten := careful w found ⟨root, fun other => absurd type other⟩
          rw [Forgotten, if_pos type] at forgotten
          rcases forgotten with ⟨childless, bar, reset⟩
          have alone : s.killTitlebar w = s := by
            unfold Server.killTitlebar
            have none : (s.window w).titlebar.filter (fun t => decide ((s.window t).magic = 1234)) =
                none := by
              rw [Option.filter_eq_none_iff]
              intro t named
              simpa using fun magic => bar t named (sound.live magic)
            rw [none]
          rw [alone] at done
          have left := sound_destroyed sound childless
          rcases sound.stacked with ⟨list, listed, types⟩
          change (wmRebuildList (destroyed s w) >>= _) = _ at done
          cases rebuilt : wmRebuildList (destroyed s w) with
          | error stop =>
              rw [rebuilt] at done
              cases done
          | ok u =>
              rw [rebuilt] at done
              change (wmUpdateDesktop u true >>= _) = _ at done
              cases updated : wmUpdateDesktop u true with
              | error stop =>
                  rw [updated] at done
                  cases done
              | ok last =>
                  rw [updated] at done
                  cases done
                  -- The list is empty then, or its last window becomes the active one.
                  have result : Sound none t ∧ t.windowsCount = s.windowsCount := by
                    by_cases none_left : (destroyed s w).registered = []
                    · rw [rebuild_empty none_left] at rebuilt
                      cases rebuilt
                      exact emptied_sound sound left listed types reset none_left updated
                    · exact rebuilt_sound sound left listed types reset none_left rebuilt updated
                  rw [result.2]
                  exact ⟨result.1, few⟩
        · -- Any other type is only unmarked, once the three checks have passed.
          rw [if_pos type] at done
          split at done
          · cases done
            exact ⟨sound, few⟩
          next control =>
            cases done
            have forgotten := careful w found ⟨root, fun _ => Bool.eq_false_iff.mpr control⟩
            rw [Forgotten, if_neg type] at forgotten
            rcases forgotten with ⟨childless, unpointed⟩
            have left := sound_destroyed sound childless
            rcases sound.stacked with ⟨list, listed, types⟩
            refine ⟨sound_after left (Relinked.refl _) ?_ (destroyed_listed listed) types, few⟩
            intro v points
            refine destroyed_live.mpr ⟨sound.pointers v points, ?_⟩
            rintro rfl
            exact unpointed points

end Destroying

section Runs

theorem createRoot_settled {s t : Server} {parent window : Option Nat} (sound : Sound none s)
    (alive : ∀ p, parent = some p → s.Live p) (few : s.windowsCount + 2 < WINDOW_COUNT_MAX)
    (created : createRoot s parent = .ok (window, t)) :
    Settled t ∧ t.windowsCount = s.windowsCount + 1 ∧ ∀ w, window = some w → t.Live w := by
  have drawn : createWindow s .simple 0 1 parent = .ok (drawWindow s .simple 0 1 parent) :=
    part_drawn WindowType.noConfusion fun _ button => nomatch button
  unfold createRoot at created
  rw [drawn] at created
  simp only [bind, Except.bind] at created
  rcases draw_cases s .simple 0 1 parent with none | made
  · rw [none] at created
    cases created
  · rw [made] at created
    have added : Sound (some s.made) (add s (newWindow (s.canvases 0) .simple 0 1 parent)) :=
      sound_add sound rfl rfl alive
    change (if (registerWindow (add s (newWindow (s.canvases 0) .simple 0 1 parent))
        (some s.made)).1 < 0 then
      Except.error (Stop.fault "exit")
      else .ok (some s.made, (registerWindow (add s (newWindow (s.canvases 0) .simple 0 1 parent))
        (some s.made)).2)) = _ at created
    rcases register_sound added (Nat.lt_of_succ_lt few) with ⟨i, registered, filed⟩
    rw [registered] at created
    rw [if_neg (id_nonneg i)] at created
    cases created
    refine ⟨⟨filed, few⟩, rfl, ?_⟩
    rintro w ⟨⟩
    exact (file_live _).mpr (added.waiting _ rfl)

/-- At the start there are the two windows that the others are children of. -/
theorem initializeGui_settled {room : Memory} {tiles isCompositionDisabled : Bool} {s : Server}
    (started : initializeGui room tiles isCompositionDisabled = .ok s) : Settled s := by
  unfold initializeGui at started
  generalize start : windowInitialize room tiles isCompositionDisabled = s₀ at started
  have dead : ∀ v, ¬s₀.Live v := by
    intro v
    rw [← start]
    rintro ⟨used, -⟩
    cases used
  -- Nothing is made yet.
  have sound : Sound none s₀ := by
    subst start
    constructor
    · intro v magic
      cases magic
    · exact fun v _ => dead v
    · intro w waits
      cases waits
    · intro i v named
      cases named
    · exact fun v live => absurd live (dead v)
    · have none_taken : (windowInitialize room tiles isCompositionDisabled).taken = 0 := by
        rw [Server.taken, Finset.card_eq_zero, Finset.filter_eq_empty_iff]
        intro i _
        simp [windowInitialize]
      exact none_taken.le
    · exact fun v p live => absurd live (dead v)
    · rintro v ((active | keyboard | mouse) | hover)
      · cases active
      · cases keyboard
      · cases mouse
      · cases hover
    · refine ⟨[], ⟨rfl, ?_⟩, ?_⟩ <;> simp
  have empty : s₀.windowsCount = 0 := start ▸ rfl
  cases first : createRoot s₀ none with
  | error stop =>
      rw [first] at started
      cases started
  | ok out =>
      have orphan : ∀ p, (none : Option Nat) = some p → s₀.Live p := by
        intro p parent
        cases parent
      rcases createRoot_settled sound orphan (by rw [empty]; decide) first with
        ⟨settled₁, count₁, live₁⟩
      rw [first] at started
      simp only [bind, Except.bind] at started
      cases second : createRoot out.2 out.1 with
      | error stop =>
          rw [second] at started
          cases started
      | ok next =>
          rcases createRoot_settled settled₁.1 live₁ (by rw [count₁, empty]; decide) second with
            ⟨settled₂, -, live₂⟩
          rw [second] at started
          cases started
          refine ⟨sound_manage settled₂.1 _ rfl ?_, settled₂.2⟩
          intro v points
          rcases points with (active | keyboard | mouse) | hover
          · exact settled₂.1.pointers v (Or.inl (Or.inl active))
          · exact live₂ v keyboard
          · exact live₂ v mouse
          · exact settled₂.1.pointers v (Or.inr hover)

theorem serve_settled {s t : Server} {request : Request} {rv : Int32} (settled : Settled s)
    (careful : Careful s request) (served : serve s request = .ok (rv, t)) : Settled t := by
  rcases settled with ⟨sound, few⟩
  cases request with
  | serviceCreateWindow type style state pwid =>
      exact serviceCreateWindow_sound sound few careful (rv, t) served
  | setActiveWindow window =>
      cases served
      refine ⟨setActiveWindow_sound sound window, ?_⟩
      rw [(setActiveWindow_relinked s window).windowsCount]
      exact few
  | setWindowWithFocus window =>
      cases served
      refine ⟨setWindowWithFocus_sound sound window, ?_⟩
      unfold setWindowWithFocus
      repeat' split
      all_goals exact few
  | getWindowWithFocus =>
      cases served
      refine ⟨getWindowWithFocus_sound sound, ?_⟩
      unfold getWindowWithFocus
      repeat' split
      all_goals exact few
  | setFocus window =>
      cases focused : setFocus s window with
      | error stop =>
          rw [serve, focused] at served
          cases served
      | ok u =>
          rw [serve, focused] at served
          cases served
          rcases setFocus_sound sound focused with ⟨sound', count⟩
          rw [← count] at few
          exact ⟨sound', few⟩
  | setMouseover window =>
      cases served
      refine ⟨setMouseover_sound sound window, ?_⟩
      unfold setMouseover
      repeat' split
      all_goals exact few
  | destroyWindowByWid wid => exact destroyWindowByWid_sound sound few careful served

/-- In every state that a careful run reaches, the windows in use are those of the table,
    each under its id; there is room for another one while a slot is free; and no pointer
    and no parent is a window that was destroyed. -/
theorem window_table {room : Memory} {tiles isCompositionDisabled : Bool} {s t : Server}
    {requests : List Request} {outs : List Int32}
    (started : initializeGui room tiles isCompositionDisabled = .ok s)
    (guarded : Guarded serve Careful s requests)
    (served : run serve s requests = .ok (outs, t)) : Registry t := by
  have keep : ∀ s request rv t, Settled s → Careful s request → serve s request = .ok (rv, t) →
      Settled t := fun s request rv t settled careful served =>
    serve_settled settled careful served
  have settled := run_keeps keep (initializeGui_settled started) guarded served
  exact registry_of_sound settled.1 settled.2

/-- A window that nobody points to is made and destroyed again. -/
theorem server_table :
    ∃ outs t, run serve server [.serviceCreateWindow .simple 0 1 1, .destroyWindowByWid 2] =
      .ok (outs, t) ∧ Registry t := by
  have done : (run serve server [.serviceCreateWindow .simple 0 1 1,
      .destroyWindowByWid 2]).toOption.isSome = true := by decide +kernel
  cases served : run serve server [.serviceCreateWindow .simple 0 1 1, .destroyWindowByWid 2] with
  | error stop =>
      rw [served] at done
      cases done
  | ok out =>
      have accepted : Careful server (.serviceCreateWindow .simple 0 1 1) := by
        intro _
        decide +kernel
      have guarded : Guarded serve Careful server
          [.serviceCreateWindow .simple 0 1 1, .destroyWindowByWid 2] := by
        refine ⟨accepted, ?_⟩
        intro rv t created
        refine ⟨?_, fun _ _ _ => trivial⟩
        have settled := serve_settled (initializeGui_settled server_started)
          accepted created
        -- The window that was created is number 2, its parent is the root, and nothing points to
        -- it.
        have found : (serve server (.serviceCreateWindow .simple 0 1 1)).toOption.map (fun out =>
            (getWindowFromWid out.2 2, out.2.made, (out.2.window 2).type)) =
              some (some 2, 3, .simple) := by decide +kernel
        have pointers : (serve server (.serviceCreateWindow .simple 0 1 1)).toOption.map (fun out =>
            [out.2.manager.activeWindow, out.2.manager.keyboardOwner, out.2.manager.mouseOwner,
              out.2.manager.mouseHover]) = some [none, some 1, some 1, none] := by decide +kernel
        have parents : (serve server (.serviceCreateWindow .simple 0 1 1)).toOption.map (fun out =>
            [0, 1].map fun v => (out.2.window v).parent) = some [none, some 0] := by decide +kernel
        rw [created] at found pointers parents
        simp only [Except.toOption, Option.map_some, Option.some.injEq, Prod.mk.injEq,
          List.map_cons, List.map_nil, List.cons.injEq] at found pointers parents
        rcases found with ⟨found, made, type⟩
        rcases pointers with ⟨active, keyboard, mouse, hover, -⟩
        rcases parents with ⟨zero, one, -⟩
        intro w named _
        rw [found, Option.some.injEq] at named
        subst named
        refine ⟨?_, ?_⟩
        · -- None of the three windows has it for its parent.
          intro v live parent
          have below := settled.1.below live
          rw [made] at below
          interval_cases v
          · rw [zero] at parent
            cases parent
          · rw [one] at parent
            cases parent
          · rfl
        · rw [if_neg (by rw [type]; decide)]
          rintro ((points | points) | points)
          · rw [active] at points
            cases points
          · rw [keyboard, mouse] at points
            rcases points with points | points <;> cases points
          · rw [hover] at points
            cases points
      exact ⟨out.1, out.2, rfl, window_table server_started guarded served⟩

/-- The title bar of a destroyed window keeps its slot. -/
theorem titlebar_listed :
    ∃ outs t, run serve server [.serviceCreateWindow .overlapped WS_APP 1 1,
      .destroyWindowByWid 6] =
      .ok (outs, t) ∧ ¬Registry t := by
  have seen : (run serve server [.serviceCreateWindow .overlapped WS_APP 1 1,
      .destroyWindowByWid 6]).toOption.map (fun out =>
        (out.2.windowList 5, (out.2.window 3).used)) = some (some 3, false) := by decide +kernel
  cases served : run serve server [.serviceCreateWindow .overlapped WS_APP 1 1,
      .destroyWindowByWid 6] with
  | error stop =>
      rw [served] at seen
      cases seen
  | ok out =>
      rw [served] at seen
      simp only [Except.toOption, Option.map_some, Option.some.injEq, Prod.mk.injEq] at seen
      refine ⟨out.1, out.2, rfl, fun registry => ?_⟩
      have live := (registry.entries 5 3 seen.1).1
      rw [seen.2] at live
      cases live

end Runs

end Gramado.Winsys.WindowTable
