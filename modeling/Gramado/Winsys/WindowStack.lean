/-
The stacking list over whole runs of the display server. It is cut where a window is
raised that is not the last one already, and wmUpdateDesktop3 kills the window that it
moves; a rebuilt list is whole only if its first window is the first of the table too.
What is drawn needs its canvas and its flags, which only an application window has.
-/
import Gramado.Lib.Machine
import Gramado.Winsys.WindowCreation

namespace Gramado.Winsys.WindowStack

open Gramado.Ke
open Gramado.Lib.Fallible
open Gramado.Lib.Machine
open Gramado.Lib.Pointers
open Gramado.Winsys.Windows
open Function

inductive Request where
  | serviceCreateWindow (type : WindowType) (style : UInt64) (state pwid : Int32)
  | wmUpdateDesktop3 (window : Option Nat)
  | setLastWindow (window : Option Nat)
  | destroyWindowByWid (wid : Int32)

def serve (s : Server) : Request → Except Stop (Int32 × Server)
  | .serviceCreateWindow type style state pwid => serviceCreateWindow s type style state pwid
  | .wmUpdateDesktop3 window => (wmUpdateDesktop3 s window).map fun s => (0, s)
  | .setLastWindow window => (setLastWindow s window).map fun s => (0, s)
  | .destroyWindowByWid wid => destroyWindowByWid s wid

/-- The list ends, it has every overlapped window that is in use and no other one, and
    the last window is its last element. -/
structure Stacked (s : Server) (list : List Nat) : Prop where
  listed : Listed s list
  exact : ∀ v, v ∈ list ↔ s.Overlapped v
  last : ∀ v, list.getLast? = some v → s.manager.lastWindow = some v

/-- The title bar of a window, and the buttons in it. -/
def Attached (s : Server) (w v : Nat) : Prop :=
  ∃ t, (s.window w).titlebar = some t ∧
    (v = t ∨ s.entry (s.window t).controls.minimizeWid = some v ∨
      s.entry (s.window t).controls.maximizeWid = some v ∨
      s.entry (s.window t).controls.closeWid = some v)

/-- The window that is asked to be destroyed, and what goes with it. -/
def Destroyed (s : Server) (wid : Int32) (v : Nat) : Prop :=
  ∃ w, getWindowFromWid s wid = some w ∧ (v = w ∨ Attached s w v)

/-- No other window becomes invalid, and a raised window moves to the end of the list. -/
def Keeps (s : Server) (request : Request) (out : Int32 × Server) : Prop :=
  let raised := fun w => ∀ list list', Stacked s list → Stacked out.2 list' →
    list' = if s.Overlapped w then list.erase w ++ [w] else list
  match request with
  | .serviceCreateWindow .. => ∀ v, s.Live v → out.2.Live v
  | .wmUpdateDesktop3 window | .setLastWindow window =>
      (∀ v, s.Live v → out.2.Live v) ∧ ∀ w, window = some w → raised w
  | .destroyWindowByWid wid => ∀ v, s.Live v → ¬Destroyed s wid v → out.2.Live v

/-- The flags are there that `wm_update_desktop2` sets while `active` is the active window. -/
structure Flagged (s : Server) (active : Option Nat) : Prop where
  windows : ∀ v < s.made, s.Overlapped v → (s.window v).flagged = true
  taskbar : ∀ t, s.manager.taskbarWindow = some t → (s.window t).flagged = true
  active : ∀ a, active = some a → (s.window a).magic = 1234 → (s.window a).shflags = true

/-- What is created is provided for. What is raised is the last window, if it is an
    overlapped one at all. What is destroyed leaves overlapped windows that are all
    registered and have their flags, and it is the first of the list, or else the first of
    the list is the first of those in the table. -/
def Orderly (s : Server) : Request → Prop
  | .serviceCreateWindow type style _ pwid =>
      Accepts s style pwid → Provided s type style (getWindowFromWid s pwid)
  | .wmUpdateDesktop3 window =>
      ∀ w, window = some w → (s.Overlapped w → s.manager.lastWindow = some w) ∧
        Flagged s (if s.Overlapped w then some w else s.manager.activeWindow)
  | .setLastWindow window =>
      ∀ w, window = some w → s.Overlapped w → s.manager.lastWindow = some w
  | .destroyWindowByWid wid =>
      ∀ w, getWindowFromWid s wid = some w →
        (s.isCompositionDisabled = false → (s.window w).style = WS_APP →
          (s.window w).frameCanvas = true) ∧
        (s.Overlapped w →
          (∀ v < s.made, s.Overlapped v → v ≠ w →
            v ∈ s.registered ∧ (s.window v).flagged = true) ∧
          (s.manager.firstWindow = some w ∨
            s.manager.firstWindow = (s.registered.filter (· ≠ w)).head?))

/-- What every state of a run has, in order or not. -/
structure Tidy (s : Server) : Prop where
  marked : ∀ v, (s.window v).used = true ↔ (s.window v).magic = 1234
  unmade : ∀ v, s.made ≤ v → ¬s.Live v ∧ (s.window v).titlebar = none
  listed : ∀ i v, s.windowList i = some v → v < s.made
  once : ∀ i j v, s.windowList i = some v → s.windowList j = some v → i = j
  bars : ∀ v t, (s.window v).titlebar = some t → t < s.made ∧
    (s.window t).type ≠ .overlapped ∧ s.Buttons (s.window t).controls

theorem Tidy.live_below {s : Server} (tidy : Tidy s) {v : Nat} (live : s.Live v) : v < s.made :=
  Nat.lt_of_not_le fun beyond => (tidy.unmade v beyond).1 live

theorem Tidy.server_marked {s : Server} (tidy : Tidy s) : s.Marked :=
  ⟨fun v => (tidy.marked v).mpr, tidy.listed⟩

section Creating

variable {s t : Server} {list : List Nat} {w : Nat} {i : Fin WINDOW_COUNT_MAX} {x : Window}

theorem tidy_skip (tidy : Tidy s) : Tidy { s with made := s.made + 1 } where
  marked := tidy.marked
  unmade := fun v beyond => tidy.unmade v (Nat.le_of_succ_le beyond)
  listed := fun i v named => Nat.lt_succ_of_lt (tidy.listed i v named)
  once := tidy.once
  bars := by
    intro v t bar
    rcases tidy.bars v t bar with ⟨below, type, buttons⟩
    exact ⟨Nat.lt_succ_of_lt below, type, buttons.mono fun i x named control => ⟨named,
      control, rfl⟩⟩

theorem tidy_add (tidy : Tidy s) (used : x.used = true) (magic : x.magic = 1234)
    (bar : x.titlebar = none) : Tidy (add s x) := by
  have apart : ∀ {v}, v < s.made → v ≠ s.made := fun below => Nat.ne_of_lt below
  constructor
  · intro v
    by_cases same : v = s.made
    · subst same
      rw [add_window]
      exact iff_of_true used magic
    · rw [add_window_of_ne same]
      exact tidy.marked v
  · intro v beyond
    have same := @add_window_of_ne s x v (Nat.ne_of_gt beyond)
    rw [live_congr same, same]
    exact tidy.unmade v (Nat.le_of_succ_le beyond)
  · exact fun i v named => Nat.lt_succ_of_lt (tidy.listed i v named)
  · exact tidy.once
  · intro v t named
    have other : v ≠ s.made := by
      rintro rfl
      rw [add_window, bar] at named
      cases named
    rw [add_window_of_ne other] at named
    rcases tidy.bars v t named with ⟨below, type, buttons⟩
    rw [add_window_of_ne (apart below)]
    refine ⟨Nat.lt_succ_of_lt below, type, ?_⟩
    apply buttons.mono
    intro i y listed control
    rw [add_window_of_ne (apart (tidy.listed i y listed))]
    exact ⟨listed, control, rfl⟩

theorem stacked_add (tidy : Tidy s) (stacked : Stacked s list) (other : x.type ≠ .overlapped) :
    Stacked (add s x) list := by
  refine ⟨listed_add stacked.listed, ?_, stacked.last⟩
  intro v
  rw [stacked.exact v]
  by_cases same : v = s.made
  · subst same
    rw [Server.Overlapped, Server.Overlapped, add_window]
    exact iff_of_false (fun old => (tidy.unmade _ (Nat.le_refl _)).1 old.1) (fun new => other new.2)
  · exact (overlapped_congr (add_window_of_ne same)).symm

theorem tidy_count (tidy : Tidy s) : Tidy { s with windowsCount := s.windowsCount + 1 } where
  marked := tidy.marked
  unmade := tidy.unmade
  listed := tidy.listed
  once := tidy.once
  bars := by
    intro v t bar
    rcases tidy.bars v t bar with ⟨below, type, buttons⟩
    exact ⟨below, type, buttons.mono fun i x named control => ⟨named, control, rfl⟩⟩

theorem tidy_file (tidy : Tidy s) (below : w < s.made) (unlisted : ∀ i, s.windowList i ≠ some w)
    (free : s.windowList i = none) : Tidy (s.file i w) := by
  have kept := @file_alike s w i
  constructor
  · intro v
    rw [kept]
    exact tidy.marked v
  · intro v beyond
    have same := @file_window_of_ne s w v i (Nat.ne_of_gt (below.trans_le beyond))
    rw [live_congr same, same]
    exact tidy.unmade v beyond
  · intro j v named
    rcases file_named named with old | ⟨-, rfl⟩
    · exact tidy.listed j v old
    · exact below
  · intro j l v first second
    rcases file_named first with old₁ | ⟨rfl, rfl⟩
    · rcases file_named second with old₂ | ⟨-, rfl⟩
      · exact tidy.once j l v old₁ old₂
      · exact absurd old₁ (unlisted j)
    · rcases file_named second with old₂ | ⟨rfl, -⟩
      · exact absurd old₂ (unlisted l)
      · rfl
  · intro v t bar
    rw [kept] at bar
    rcases tidy.bars v t bar with ⟨early, type, buttons⟩
    rw [kept]
    refine ⟨early, type, ?_⟩
    apply buttons.mono
    intro j y listed control
    rw [kept]
    exact ⟨file_listed free listed, control, rfl⟩

theorem stacked_file (stacked : Stacked s list) : Stacked (s.file i w) list where
  listed := ⟨file_next (s := s) ▸ stacked.listed.1, stacked.listed.2⟩
  exact := fun v => (stacked.exact v).trans (file_overlapped v).symm
  last := stacked.last

theorem stacked_count (stacked : Stacked s list) :
    Stacked { s with windowsCount := s.windowsCount + 1 } list :=
  ⟨stacked.listed, stacked.exact, stacked.last⟩

theorem register_keeps (tidy : Tidy s) (stacked : Stacked s list) (below : w < s.made)
    (unlisted : ∀ i, s.windowList i ≠ some w) :
    ∃ wid t, registerWindow s (some w) = (wid, t) ∧ Tidy t ∧ Stacked t list ∧
      t.made = s.made ∧ (∀ v, t.Live v ↔ s.Live v) ∧ ∀ v, t.Overlapped v ↔ s.Overlapped v := by
  rcases register_cases s w with ⟨-, refused⟩ | ⟨i, free, filed⟩
  · exact ⟨_, _, refused, tidy_count tidy, stacked_count stacked, rfl, fun _ => Iff.rfl,
      fun _ => Iff.rfl⟩
  · exact ⟨_, _, filed, tidy_file tidy below unlisted free, stacked_file stacked, rfl, file_live,
      file_overlapped⟩

/-- The parts of a frame are not stacked, and leave what is stacked as it is. -/
theorem stacked_extends {limit own attempts : Nat} {pending : List Nat} (framed : Framed s own)
    (extension : Extends limit own pending attempts s t) (stacked : Stacked s list) :
    Stacked t list := by
  have kept : ∀ v, v < s.made → t.window v =
      { s.window v with titlebar := (t.window v).titlebar } := by
    intro v early
    by_cases same : v = own
    · exact same ▸ extension.base
    · rw [extension.old v early same]
  refine ⟨⟨?_, fun v member => (stacked.listed.2 v member).trans_le extension.made⟩, ?_, ?_⟩
  · rw [extension.manager]
    apply linked_congr ?_ stacked.listed.1
    intro v member
    rw [Server.next, kept v (stacked.listed.2 v member), Server.next]
  · intro v
    rw [stacked.exact v]
    by_cases early : v < s.made
    · rw [Server.Overlapped, Server.Overlapped, Server.Live, Server.Live, kept v early]
    · rcases extension.new v (Nat.not_lt.mp early) with same | ⟨-, part⟩
      · exact (overlapped_congr same).symm
      · exact iff_of_false (fun old => framed.fresh v (Nat.not_lt.mp early) old.1)
          (fun new => part.type new.2)
  · rw [extension.manager]
    exact stacked.last

theorem tidy_extends {limit own attempts : Nat} (framed : Framed s own) (tidy : Tidy s)
    (overlapped : s.Overlapped own) (extension : Extends limit own [] attempts s t) : Tidy t := by
  -- What was there keeps all but the title bar of the owner.
  have kept : ∀ v, v < s.made → t.window v =
      { s.window v with titlebar := (t.window v).titlebar } := by
    intro v early
    by_cases same : v = own
    · exact same ▸ extension.base
    · rw [extension.old v early same]
  constructor
  · intro v
    by_cases early : v < s.made
    · rw [kept v early]
      exact tidy.marked v
    · rcases extension.new v (Nat.not_lt.mp early) with same | ⟨-, part⟩
      · rw [same]
        exact tidy.marked v
      · exact iff_of_true part.live.1 part.live.2
  · intro v beyond
    rcases extension.new v (extension.made.trans beyond) with same | ⟨inside, -⟩
    · rw [live_congr same, same]
      exact tidy.unmade v (extension.made.trans beyond)
    · exact absurd inside (Nat.not_lt.mpr beyond)
  · exact fun i v named => extension.entry_below framed named
  · intro i j v first second
    rcases extension.listed i v first with old₁ | ⟨late, -⟩
    · rcases extension.listed j v second with old₂ | ⟨late, -⟩
      · exact tidy.once i j v old₁ old₂
      · exact absurd (tidy.listed i v old₁) (Nat.not_lt.mpr late)
    · exact extension.once i j v late first second
  · intro v x bar
    by_cases same : v = own
    · subst same
      rcases extension.bar x bar with ⟨-, inside, part, buttons⟩
      exact ⟨inside, part.type, buttons⟩
    · by_cases early : v < s.made
      · rw [extension.old v early same] at bar
        rcases tidy.bars v x bar with ⟨below, type, buttons⟩
        have other : x ≠ own := by
          rintro rfl
          exact type overlapped.2
        rw [extension.old x below other]
        refine ⟨below.trans_le extension.made, type, ?_⟩
        apply buttons.mono
        intro i y named control
        rw [kept y (tidy.listed i y named)]
        exact ⟨extension.kept i y named, control, rfl⟩
      · rcases extension.new v (Nat.not_lt.mp early) with old | ⟨-, part⟩
        · rw [old, (tidy.unmade v (Nat.not_lt.mp early)).2] at bar
          cases bar
        · rw [part.titlebar] at bar
          cases bar

theorem tidy_relinked (tidy : Tidy s) (relinked : Relinked s t) : Tidy t := by
  have kept := relinked.window
  constructor
  · intro v
    rw [kept v]
    exact tidy.marked v
  · intro v beyond
    rw [relinked.made] at beyond
    rw [relinked.live, kept v]
    exact tidy.unmade v beyond
  · rw [relinked.windowList, relinked.made]
    exact tidy.listed
  · rw [relinked.windowList]
    exact tidy.once
  · intro v x bar
    rw [kept v] at bar
    rcases tidy.bars v x bar with ⟨below, type, buttons⟩
    rw [kept x, relinked.made]
    refine ⟨below, type, ?_⟩
    apply buttons.mono
    intro i y named control
    rw [relinked.windowList, kept y]
    exact ⟨named, control, rfl⟩

theorem stacked_relinked {list' : List Nat} (relinked : Relinked s t) (listed : Listed t list')
    (exact : ∀ v, v ∈ list' ↔ s.Overlapped v)
    (last : ∀ v, list'.getLast? = some v → t.manager.lastWindow = some v) : Stacked t list' :=
  ⟨listed, fun v => (exact v).trans (relinked.overlapped v).symm, last⟩

theorem stacked_usable (stacked : Stacked s list) : s.usable list = list := by
  cases list with
  | nil => rfl
  | cons f rest => exact usable_live rfl ((stacked.exact f).mp List.mem_cons_self).1

/-- A window that is new, or that is not needed: it is stacked last if it is overlapped. -/
structure Created (s : Server) (window : Option Nat) (t : Server) (list : List Nat) : Prop where
  tidy : Tidy t
  stacked : Stacked t list
  live : ∀ v, s.Live v → t.Live v
  below : ∀ w, window = some w → w < t.made
  unlisted : ∀ w i, window = some w → t.windowList i ≠ some w
  last : ∀ w, window = some w → t.Overlapped w → list.getLast? = some w

theorem created_add (tidy : Tidy s) (stacked : Stacked s list) (used : x.used = true)
    (magic : x.magic = 1234) (bar : x.titlebar = none) (other : x.type ≠ .overlapped) :
    Created s (some s.made) (add s x) list where
  tidy := tidy_add tidy used magic bar
  stacked := stacked_add tidy stacked other
  live := fun v live =>
    (live_congr (add_window_of_ne (Nat.ne_of_lt (tidy.live_below live)))).mpr live
  below := by
    rintro w ⟨⟩
    exact Nat.lt_succ_self _
  unlisted := by
    rintro w i ⟨⟩ named
    exact absurd (tidy.listed i s.made named) (Nat.lt_irrefl _)
  last := by
    rintro w ⟨⟩ ⟨-, type⟩
    rw [add_window] at type
    exact absurd type other

theorem created_none (tidy : Tidy t) (stacked : Stacked t list) (live : ∀ v, s.Live v → t.Live v) :
    Created s none t list :=
  ⟨tidy, stacked, live, fun _ named => (nomatch named), fun _ _ named => (nomatch named),
    fun _ named => (nomatch named)⟩

theorem stacked_skip (stacked : Stacked s list) : Stacked { s with made := s.made + 1 } list :=
  ⟨⟨stacked.listed.1, fun v member => Nat.lt_succ_of_lt (stacked.listed.2 v member)⟩,
    stacked.exact, stacked.last⟩

theorem extends_live {limit own attempts : Nat} {pending : List Nat} (framed : Framed s own)
    (extension : Extends limit own pending attempts s t) {v : Nat}
    (live : s.Live v) : t.Live v := by
  have early : v < s.made := Nat.lt_of_not_le fun beyond => framed.fresh v beyond live
  by_cases same : v = own
  · exact same ▸ extension.live_own framed
  · exact (live_congr (extension.old v early same)).mpr live

/-- An overlapped window comes to the end of the list, and gets its frame there. -/
theorem created_overlapped (tidy : Tidy s) (stacked : Stacked s list) (used : x.used = true)
    (magic : x.magic = 1234) (bar : x.titlebar = none) (type : x.type = .overlapped)
    (canvas : s.isCompositionDisabled = false → x.frameCanvas = true) (parent : Option Nat) :
    ∃ u t, wmAddWindowToTop (add s x) (some s.made) = .ok u ∧
      doCreateAndDrawWindowFrame (setActiveWindow u (some s.made)) parent s.made = .ok t ∧
      Created s (some s.made) t (list ++ [s.made]) := by
  have tidy₂ := tidy_add tidy used magic bar
  have here : (add s x).window s.made = x := add_window
  have other : ∀ v, v < s.made → (add s x).window v = s.window v :=
    fun v early => add_window_of_ne (Nat.ne_of_lt early)
  have overlapped : (add s x).Overlapped s.made := by
    rw [Server.Overlapped, Server.Live, here]
    exact ⟨⟨used, magic⟩, type⟩
  have fresh : s.made ∉ list := fun member =>
    absurd (stacked.listed.2 _ member) (Nat.lt_irrefl _)
  -- The list is that of the overlapped windows, with the new one behind them.
  have all : ∀ v, v ∈ list ++ [s.made] ↔ (add s x).Overlapped v := by
    intro v
    rw [List.mem_append, List.mem_singleton, stacked.exact v]
    by_cases same : v = s.made
    · exact iff_of_true (Or.inr same) (same ▸ overlapped)
    · rw [overlapped_congr (add_window_of_ne same)]
      simp [same]
  have usable : (add s x).usable list = list := by
    cases list with
    | nil => rfl
    | cons f rest =>
        exact usable_live rfl ((all f).mp (List.mem_append_left _ List.mem_cons_self)).1
  -- The window is linked behind the last one, and is the active one then.
  rcases add_taken (listed_add stacked.listed) overlapped (Nat.lt_succ_self _) with
    ⟨u, added, relinked, longer, manager⟩
  rw [usable, upTo_fresh fresh] at longer
  have active : setActiveWindow u (some s.made) = u.manage fun manager => manager.activate s.made :=
    setActiveWindow_overlapped ((relinked.overlapped _).mpr overlapped)
  have again : Relinked (add s x) (u.manage fun manager => manager.activate s.made) :=
    relinked.trans (Relinked.manage u _)
  have last : u.manager.lastWindow = some s.made := by
    rw [manager]
    rfl
  have stacked₂ : Stacked (u.manage fun manager => manager.activate s.made)
      (list ++ [s.made]) := by
    refine stacked_relinked again ⟨?_, longer.2⟩ all ?_
    · change Linked u.next (u.manager.activate s.made).firstWindow _
      rw [(activate_ends u.manager s.made).1]
      exact longer.1
    · intro v ending
      rw [List.getLast?_concat, Option.some.injEq] at ending
      exact ((activate_ends u.manager s.made).2.trans last).trans (congrArg some ending)
  have tidy₃ := tidy_relinked tidy₂ again
  -- Its frame is made of new windows only, and none of them is overlapped.
  have framed : Framed (u.manage fun manager => manager.activate s.made) s.made := by
    constructor
    · rw [again.made]
      exact Nat.lt_succ_self _
    · exact (again.live _).mpr overlapped.1
    · rw [again.window, here]
      exact bar
    · rw [again.windowList, again.made]
      exact tidy₂.listed
    · exact fun v beyond => (tidy₃.unmade v beyond).1
  have painted : (u.manage fun manager => manager.activate s.made).isCompositionDisabled = false →
      ((u.manage fun manager => manager.activate s.made).window s.made).frameCanvas = true := by
    intro composed
    rw [again.window, here]
    exact canvas (again.composition.symm.trans composed)
  rcases frame_answers parent fun composed _ => painted composed with ⟨t, drawn⟩
  refine ⟨u, t, added, by rw [active, drawn], ?_⟩
  have extension := frame_extends framed (frameCount_le _ _) drawn
  have below : s.made < (u.manage fun manager => manager.activate s.made).made := framed.below
  have lists : ∀ i v, (u.manage fun manager => manager.activate s.made).windowList i = some v →
      v < s.made := by
    intro i v named
    rw [again.windowList] at named
    exact tidy.listed i v named
  constructor
  · exact tidy_extends framed tidy₃ ((again.overlapped _).mpr overlapped) extension
  · exact stacked_extends framed extension stacked₂
  · intro v live
    apply extends_live framed extension
    apply (again.live v).mpr
    exact (live_congr (other v (tidy.live_below live))).mpr live
  · rintro w ⟨⟩
    exact below.trans_le extension.made
  · rintro w i ⟨⟩ named
    rcases extension.listed i s.made named with old | ⟨late, -⟩
    · exact absurd (lists i _ old) (Nat.lt_irrefl _)
    · exact absurd below (Nat.not_lt.mpr late)
  · rintro w ⟨⟩ -
    exact List.getLast?_concat ..

theorem created_bar {window bar : Option Nat} (created : Created s window t list) :
    Created s window (t.bar bar) list where
  tidy := tidy_relinked created.tidy (Relinked.manage t _)
  stacked := ⟨created.stacked.listed, created.stacked.exact, created.stacked.last⟩
  live := created.live
  below := created.below
  unlisted := created.unlisted
  last := created.last

/-- A window with nothing in its frame is created, if it can be drawn. -/
theorem created_plain (created : Created s (some w) t list) (parent : Option Nat)
    (other : (t.window w).type ≠ .overlapped)
    (canvas : t.isCompositionDisabled = false → (t.window w).type = .popup →
      (t.window w).frameCanvas = true) :
    ∃ window u list', (do
      let t ← doCreateAndDrawWindowFrame t parent w
      .ok (some w, t) : Except Stop (Option Nat × Server)) = .ok (window, u) ∧
        Created s window u list' := by
  have needed : t.isCompositionDisabled = false →
      (t.window w).type = .overlapped ∨ (t.window w).type = .popup →
        (t.window w).frameCanvas = true := by
    rintro composed (overlapped | popup)
    · exact absurd overlapped other
    · exact canvas composed popup
  rcases frame_answers parent needed with ⟨u, drawn⟩
  rcases frame_returns t parent w u drawn with rfl | ⟨overlapped, -⟩
  · exact ⟨some w, u, list, by rw [drawn]; rfl, created⟩
  · exact absurd overlapped other

theorem createWindow_keeps (tidy : Tidy s) (stacked : Stacked s list) {type : WindowType}
    {style : UInt64} (state : Int32) {parent : Option Nat}
    (provided : Provided s type style parent) :
    ∃ window t list', createWindow s type style state parent = .ok (window, t) ∧
      Created s window t list' := by
  -- No memory for the window: a number is lost and nothing else.
  have skipped : Created s none { s with made := s.made + 1 } list :=
    created_none (tidy_skip tidy) (stacked_skip stacked) fun _ live => live
  have made : ∀ canvases type, type ≠ .overlapped →
      Created s (some s.made) (add s (newWindow canvases type style state parent)) list :=
    fun canvases type other => created_add tidy stacked rfl rfl rfl other
  cases type
  -- Types that are refused.
  case titlebar | statusbar | checkbox | scrollbar =>
    exact ⟨none, s, list, rfl, created_none tidy stacked fun _ live => live⟩
  case simple =>
    have unstopped : Unstopped s .simple style parent :=
      unstopped_simple fun composed room => (provided composed room).1
    rcases doCreate_answers state unstopped with ⟨out, done⟩
    rcases doCreate_returns s .simple style state parent out done with
      rfl | ⟨-, t, rfl, rfl | ⟨⟨⟩, -⟩⟩
    · exact ⟨_, _, list, done, skipped⟩
    · exact ⟨_, _, list, done, made _ _ WindowType.noConfusion⟩
  -- The frame is drawn, and a popup reads its frame canvas for that.
  case popup | button =>
    have unstopped : Unstopped s _ style parent :=
      unstopped_of (fun composed room => (provided composed room).1) fun composed room =>
        (provided composed room).2.2
    rcases doCreate_answers state unstopped with ⟨out, done⟩
    unfold createWindow
    dsimp only
    rw [done]
    rcases doCreate_returns s _ style state parent out done with
      rfl | ⟨room, t, rfl, rfl | ⟨-, rfl⟩⟩
    · exact ⟨_, _, list, rfl, skipped⟩
    · apply created_plain (made _ _ WindowType.noConfusion)
      · rw [add_window]
        exact WindowType.noConfusion
      · rw [add_window]
        exact fun composed popup =>
          canvases_iff.mpr ⟨composed, (provided composed room).2.1 (Or.inr popup)⟩
    · apply created_plain (created_bar (made _ _ WindowType.noConfusion))
      · change ((add s _).window s.made).type ≠ _
        rw [add_window]
        exact WindowType.noConfusion
      · change _ → ((add s _).window s.made).type = _ → ((add s _).window s.made).frameCanvas = _
        rw [add_window]
        exact fun composed popup =>
          canvases_iff.mpr ⟨composed, (provided composed room).2.1 (Or.inr popup)⟩
  -- The types that are made as simple ones and then get their own.
  case editboxSingleLine | editboxMultipleLines | icon =>
    have unstopped : Unstopped s .simple style parent :=
      unstopped_simple fun composed room => (provided composed room).1
    rcases doCreate_answers state unstopped with ⟨out, done⟩
    unfold createWindow
    dsimp only
    rw [done]
    rcases doCreate_returns s .simple style state parent out done with
      rfl | ⟨-, t, rfl, rfl | ⟨⟨⟩, -⟩⟩
    · exact ⟨_, _, list, rfl, skipped⟩
    · simp only [bind, Except.bind]
      rw [set_add]
      apply created_plain (created_add tidy stacked rfl rfl rfl WindowType.noConfusion)
      · rw [add_window]
        exact WindowType.noConfusion
      · rw [add_window]
        exact fun _ popup => WindowType.noConfusion popup
  -- It is made as a simple one, gets its type, is linked and drawn.
  case overlapped =>
    have unstopped : Unstopped s .simple style parent :=
      unstopped_simple fun composed room => (provided composed room).1
    rcases doCreate_answers state unstopped with ⟨out, done⟩
    unfold createWindow
    dsimp only
    rw [done]
    rcases doCreate_returns s .simple style state parent out done with
      rfl | ⟨room, t, rfl, rfl | ⟨⟨⟩, -⟩⟩
    · exact ⟨_, _, list, rfl, skipped⟩
    · rcases created_overlapped tidy stacked (x := { newWindow (s.canvases style) .simple style
        state parent with type := .overlapped }) rfl rfl rfl rfl (fun composed =>
          canvases_iff.mpr ⟨composed, (provided composed room).2.1 (Or.inl rfl)⟩) parent with
        ⟨u, t, added, drawn, created⟩
      refine ⟨some s.made, t, list ++ [s.made], ?_, created⟩
      simp only [bind, Except.bind]
      rw [set_add, added]
      dsimp only
      rw [drawn]

theorem add_again (stacked : Stacked s list) (last : list.getLast? = some w)
    (overlapped : s.Overlapped w) (below : w < s.made) :
    ∃ t, wmAddWindowToTop s (some w) = .ok t ∧ Relinked s t ∧ Stacked t list := by
  rcases add_taken stacked.listed overlapped below with ⟨t, added, relinked, longer, manager⟩
  rw [stacked_usable stacked, upTo_last (linked_nodup stacked.listed.1) last] at longer
  refine ⟨t, added, relinked, stacked_relinked relinked longer stacked.exact ?_⟩
  intro v ending
  rw [last] at ending
  rw [manager, ← ending]
  rfl

theorem serviceCreateWindow_keeps (tidy : Tidy s) (stacked : Stacked s list) {type : WindowType}
    {style : UInt64} (state : Int32) {pwid : Int32}
    (turn : Orderly s (.serviceCreateWindow type style state pwid)) :
    ∃ rv t list', serviceCreateWindow s type style state pwid = .ok (rv, t) ∧ Tidy t ∧
      Stacked t list' ∧ ∀ v, s.Live v → t.Live v := by
  unfold serviceCreateWindow
  cases found : getWindowFromWid s pwid with
  | none => exact ⟨-1, s, list, rfl, tidy, stacked, fun _ live => live⟩
  | some parent =>
      dsimp only
      split
      · exact ⟨-1, s, list, rfl, tidy, stacked, fun _ live => live⟩
      next app =>
        split
        · exact ⟨-1, s, list, rfl, tidy, stacked, fun _ live => live⟩
        next child =>
          have provided : Provided s type style (some parent) :=
            found ▸ turn ⟨by rw [found]; rfl, app, child⟩
          rcases createWindow_keeps tidy stacked state provided with
            ⟨window, t, list', created, tidy', stacked', live, below, unlisted, last⟩
          rw [created]
          cases window with
          | none => exact ⟨-1, t, list', rfl, tidy', stacked', live⟩
          | some w =>
              rcases register_keeps tidy' stacked' (below w rfl) fun i => unlisted w i rfl with
                ⟨wid, u, registered, tidy₂, stacked₂, made, lives, overlaps⟩
              simp only [bind, Except.bind, registered]
              have alive : ∀ v, s.Live v → u.Live v := fun v old => (lives v).mpr (live v old)
              split
              · exact ⟨-1, u, list', rfl, tidy₂, stacked₂, alive⟩
              · rename_i taken
                by_cases type : (u.window w).type = .overlapped
                · have found : (some w).filter (fun w => decide ((u.window w).type = .overlapped)) =
                      some w := by simp [type]
                  rw [found]
                  by_cases overlapped : u.Overlapped w
                  · have ending := last w rfl ((overlaps w).mp overlapped)
                    have below₂ : w < u.made := made ▸ below w rfl
                    rcases add_again stacked₂ ending overlapped below₂ with
                      ⟨t', added, relinked, stacked₃⟩
                    dsimp only
                    rw [added]
                    exact ⟨0, t', list', rfl, tidy_relinked tidy₂ relinked, stacked₃, fun v old =>
                      (relinked.live v).mpr (alive v old)⟩
                  · dsimp only
                    rw [add_refused overlapped]
                    exact ⟨0, u, list', rfl, tidy₂, stacked₂, alive⟩
                · have none : (some w).filter (fun w => decide ((u.window w).type = .overlapped)) =
                      none := by simp [type]
                  rw [none]
                  exact ⟨0, u, list', rfl, tidy₂, stacked₂, alive⟩

end Creating

section Raising

variable {s : Server} {list : List Nat} {w : Nat}

theorem stacked_ends (stacked : Stacked s list) (overlapped : s.Overlapped w)
    (last : s.manager.lastWindow = some w) : list.getLast? = some w := by
  have member := (stacked.exact w).mpr overlapped
  cases ending : list.getLast? with
  | none =>
      rw [List.getLast?_eq_none_iff.mp ending] at member
      cases member
  | some v => rw [← stacked.last v ending, last]

/-- Only the pointers of the window manager but for the ends of the list are changed. -/
theorem stacked_activate (tidy : Tidy s) (stacked : Stacked s list) (window : Option Nat) :
    Tidy (setActiveWindow s window) ∧ Stacked (setActiveWindow s window) list ∧
      ∀ v, (setActiveWindow s window).Live v ↔ s.Live v := by
  cases window with
  | none => exact ⟨tidy, stacked, fun _ => Iff.rfl⟩
  | some w =>
      by_cases refused : (s.window w).magic ≠ 1234 ∨ (s.window w).type ≠ .overlapped
      · rw [setActiveWindow_refused refused]
        exact ⟨tidy, stacked, fun _ => Iff.rfl⟩
      · rw [not_or, not_not, not_not] at refused
        have overlapped : s.Overlapped w :=
          ⟨⟨(tidy.marked w).mpr refused.1, refused.1⟩, refused.2⟩
        rw [setActiveWindow_overlapped overlapped]
        have relinked := Relinked.manage s fun manager => manager.activate w
        refine ⟨tidy_relinked tidy relinked, ?_, relinked.live⟩
        refine ⟨⟨?_, stacked.listed.2⟩, stacked.exact, ?_⟩
        · change Linked s.next (s.manager.activate w).firstWindow list
          rw [(activate_ends s.manager w).1]
          exact stacked.listed.1
        · intro v ending
          exact (activate_ends s.manager w).2.trans (stacked.last v ending)

theorem wmUpdateDesktop2_flagged (stacked : Stacked s list) {active : Option Nat}
    (flagged : Flagged s active) (same : s.manager.activeWindow = active) :
    wmUpdateDesktop2 s = .ok s := by
  have drawn : s.drawable list = true := by
    rw [drawable_iff]
    exact fun v member _ _ =>
      flagged.windows v (stacked.listed.2 v member) ((stacked.exact v).mp member)
  have bar : s.manager.taskbarWindow.all (fun t => (s.window t).flagged) = true := by
    cases named : s.manager.taskbarWindow with
    | none => rfl
    | some t => exact flagged.taskbar t named
  have told : s.manager.activeWindow.all (fun w =>
      decide ((s.window w).magic ≠ 1234) || (s.window w).shflags) = true := by
    cases named : s.manager.activeWindow with
    | none => rfl
    | some a =>
        by_cases magic : (s.window a).magic = 1234
        · simp [magic, flagged.active a (same.symm.trans named) magic]
        · simp [magic]
  unfold wmUpdateDesktop2
  rw [stack_listed stacked.listed]
  simp only [bind, Except.bind]
  rw [if_neg (not_not.mpr drawn), if_neg (not_not.mpr bar), if_neg (not_not.mpr told)]

theorem flagged_activate {active : Option Nat} (flagged : Flagged s active) (w : Nat) :
    Flagged (setActiveWindow s (some w)) active := by
  unfold setActiveWindow
  dsimp only
  repeat' split
  all_goals exact ⟨flagged.windows, flagged.taskbar, flagged.active⟩

theorem active_after (tidy : Tidy s) (w : Nat) :
    (setActiveWindow s (some w)).manager.activeWindow =
      if s.Overlapped w then some w else s.manager.activeWindow := by
  split
  next overlapped =>
    rw [setActiveWindow_overlapped overlapped]
    change (s.manager.activate w).activeWindow = some w
    unfold WindowManager.activate
    split
    next active => exact active
    · rfl
  next outside =>
    rw [setActiveWindow_refused]
    by_contra both
    rw [not_or, not_not, not_not] at both
    exact outside ⟨⟨(tidy.marked w).mpr both.1, both.1⟩, both.2⟩

theorem wmUpdateDesktop3_keeps (tidy : Tidy s) (stacked : Stacked s list) {window : Option Nat}
    (turn : Orderly s (.wmUpdateDesktop3 window)) :
    ∃ t, wmUpdateDesktop3 s window = .ok t ∧ Tidy t ∧ Stacked t list ∧
      ∀ v, t.Live v ↔ s.Live v := by
  cases window with
  | none => exact ⟨s, rfl, tidy, stacked, fun _ => Iff.rfl⟩
  | some w =>
      have still : takeToTop s w = .ok s := by
        unfold takeToTop
        dsimp only
        by_cases other : s.manager.lastWindow = some w
        · rw [if_pos other]
        · rw [if_neg other]
          have outside : ¬s.Overlapped w := fun overlapped => other ((turn w rfl).1 overlapped)
          have absent : w ∉ list := fun member => outside ((stacked.exact w).mp member)
          have not_first : s.manager.firstWindow ≠ some w := by
            intro first
            have head := (linked_head stacked.listed.1).trans first
            exact absent (List.mem_of_head? head)
          have same : wmRemoveWindowFromList s w = .ok s := by
            unfold wmRemoveWindowFromList
            rw [reaches_listed stacked.listed, decide_eq_false absent]
            rfl
          rw [if_pos not_first, same]
          simp only [bind, Except.bind]
          rw [add_refused outside, Except.map, if_neg not_first]
      rcases stacked_activate tidy stacked (some w) with ⟨tidy', stacked', live⟩
      refine ⟨setActiveWindow s (some w), ?_, tidy', stacked', live⟩
      unfold wmUpdateDesktop3
      dsimp only
      rw [still]
      exact wmUpdateDesktop2_flagged stacked' (flagged_activate (turn w rfl).2 w)
        (active_after tidy w)

theorem setLastWindow_keeps (tidy : Tidy s) (stacked : Stacked s list) {window : Option Nat}
    (turn : ∀ w, window = some w → s.Overlapped w → s.manager.lastWindow = some w) :
    ∃ t, setLastWindow s window = .ok t ∧ Tidy t ∧ Stacked t list ∧
      ∀ v, t.Live v ↔ s.Live v := by
  cases window with
  | none => exact ⟨s, rfl, tidy, stacked, fun _ => Iff.rfl⟩
  | some w =>
      unfold setLastWindow
      dsimp only
      split
      · exact ⟨s, rfl, tidy, stacked, fun _ => Iff.rfl⟩
      · by_cases overlapped : s.Overlapped w
        · have ending := stacked_ends stacked overlapped (turn w rfl overlapped)
          rcases add_again stacked ending overlapped (tidy.live_below overlapped.1) with
            ⟨t, added, relinked, stacked'⟩
          exact ⟨t, added, tidy_relinked tidy relinked, stacked', relinked.live⟩
        · rw [add_refused overlapped]
          exact ⟨s, rfl, tidy, stacked, fun _ => Iff.rfl⟩

theorem raised_last (stacked : Stacked s list)
    (turn : s.Overlapped w → s.manager.lastWindow = some w) :
    list = if s.Overlapped w then list.erase w ++ [w] else list := by
  split
  · rename_i overlapped
    have ending := stacked_ends stacked overlapped (turn overlapped)
    rcases List.getLast?_eq_some_iff.mp ending with ⟨front, rfl⟩
    have once := linked_nodup stacked.listed.1
    have absent : w ∉ front := fun member =>
      List.disjoint_of_nodup_append once member List.mem_cons_self
    rw [List.erase_append_right _ absent]
    simp
  · rfl

end Raising

section Killing

variable {s t u : Server} {gone : Nat → Prop} {list : List Nat} {v w : Nat}

/-- Some of the windows that may go are killed, and nothing else is changed. -/
structure Kills (gone : Nat → Prop) (s t : Server) : Prop where
  manager : t.manager = s.manager
  made : t.made = s.made
  windowList : t.windowList = s.windowList
  window : ∀ v, t.window v = s.window v ∨
    (gone v ∧ t.window v = { s.window v with magic := 0, used := false })

theorem Kills.refl (gone : Nat → Prop) (s : Server) : Kills gone s s :=
  ⟨rfl, rfl, rfl, fun _ => Or.inl rfl⟩

theorem Kills.trans (first : Kills gone s t) (second : Kills gone t u) : Kills gone s u where
  manager := second.manager.trans first.manager
  made := second.made.trans first.made
  windowList := second.windowList.trans first.windowList
  window := by
    intro v
    rcases second.window v with same | ⟨goes, killed⟩
    · rw [same]
      exact first.window v
    · rcases first.window v with same | ⟨-, before⟩
      · exact Or.inr ⟨goes, by rw [killed, same]⟩
      · exact Or.inr ⟨goes, by rw [killed, before]⟩

theorem kill_kills (goes : gone v) : Kills gone s (s.kill v) := by
  refine ⟨rfl, rfl, rfl, ?_⟩
  intro x
  by_cases same : x = v
  · subst same
    exact Or.inr ⟨goes, set_window_self⟩
  · exact Or.inl (set_window_of_ne same)

theorem Kills.alike (kills : Kills gone s t) (v : Nat) : t.window v =
    { s.window v with magic := (t.window v).magic, used := (t.window v).used } := by
  rcases kills.window v with same | ⟨-, killed⟩
  · rw [same]
  · rw [killed]

theorem Kills.next (kills : Kills gone s t) : t.next = s.next := by
  funext v
  rw [Server.next, kills.alike v, Server.next]

theorem Kills.entry (kills : Kills gone s t) (wid : Int32) : t.entry wid = s.entry wid := by
  rw [Server.entry, kills.windowList, Server.entry]

theorem Kills.live (kills : Kills gone s t) (live : s.Live v) (stays : ¬gone v) : t.Live v := by
  rcases kills.window v with same | ⟨goes, -⟩
  · exact (live_congr same).mpr live
  · exact absurd goes stays

theorem Kills.was_live (kills : Kills gone s t) (live : t.Live v) :
    s.Live v ∧ t.window v = s.window v := by
  rcases kills.window v with same | ⟨-, killed⟩
  · exact ⟨(live_congr same).mp live, same⟩
  · rw [Server.Live, killed] at live
    cases live.1

theorem Kills.overlapped (kills : Kills gone s t)
    (types : ∀ v, gone v → (s.window v).type ≠ .overlapped) (v : Nat) :
    t.Overlapped v ↔ s.Overlapped v := by
  constructor
  · rintro ⟨live, type⟩
    rcases kills.was_live live with ⟨before, same⟩
    exact ⟨before, same ▸ type⟩
  · rintro ⟨live, type⟩
    refine ⟨kills.live live fun goes => types v goes type, ?_⟩
    rw [kills.alike v]
    exact type

theorem tidy_kills (tidy : Tidy s) (kills : Kills gone s t) : Tidy t := by
  constructor
  · intro v
    rcases kills.window v with same | ⟨-, killed⟩
    · rw [same]
      exact tidy.marked v
    · rw [killed]
      simp
  · intro v beyond
    rw [kills.made] at beyond
    refine ⟨fun live => (tidy.unmade v beyond).1 (kills.was_live live).1, ?_⟩
    rw [kills.alike v]
    exact (tidy.unmade v beyond).2
  · rw [kills.windowList, kills.made]
    exact tidy.listed
  · rw [kills.windowList]
    exact tidy.once
  · intro v x bar
    rw [kills.alike v] at bar
    rcases tidy.bars v x bar with ⟨below, type, buttons⟩
    rw [kills.alike x, kills.made]
    refine ⟨below, type, ?_⟩
    apply buttons.mono
    intro i y named control
    rw [kills.windowList, kills.alike y]
    exact ⟨named, control, rfl⟩

theorem stacked_kills (stacked : Stacked s list) (kills : Kills gone s t)
    (types : ∀ v, gone v → (s.window v).type ≠ .overlapped) : Stacked t list := by
  refine ⟨⟨?_, ?_⟩, fun v => (stacked.exact v).trans (kills.overlapped types v).symm, ?_⟩
  · rw [kills.next, kills.manager]
    exact stacked.listed.1
  · rw [kills.made]
    exact stacked.listed.2
  · rw [kills.manager]
    exact stacked.last

theorem killWid_kills {wid : Int32} (goes : ∀ v, s.entry wid = some v → gone v) :
    Kills gone s (s.killWid wid) := by
  unfold Server.killWid
  split
  · exact Kills.refl gone s
  · rename_i v found
    exact kill_kills (goes v (Option.filter_eq_some_iff.mp found).1)

theorem killTitlebar_kills (s : Server) (w : Nat) : Kills (Attached s w) s (s.killTitlebar w) := by
  unfold Server.killTitlebar
  split
  · exact Kills.refl _ s
  · rename_i t found
    have bar := (Option.filter_eq_some_iff.mp found).1
    have first : Kills (Attached s w) s (s.kill t) := kill_kills ⟨t, bar, Or.inl rfl⟩
    have second := first.trans (@killWid_kills _ (Attached s w) (s.window t).controls.minimizeWid
      fun v named => ⟨t, bar, Or.inr (Or.inl (first.entry _ ▸ named))⟩)
    have third := second.trans (@killWid_kills _ (Attached s w) (s.window t).controls.maximizeWid
      fun v named => ⟨t, bar, Or.inr (Or.inr (Or.inl (second.entry _ ▸ named)))⟩)
    exact third.trans (killWid_kills fun v named =>
      ⟨t, bar, Or.inr (Or.inr (Or.inr (third.entry _ ▸ named)))⟩)

end Killing

section Destroying

variable {s t : Server} {list : List Nat} {v w : Nat} {wid : Int32}

theorem button_type (button : s.Button wid) (named : s.entry wid = some v) :
    (s.window v).type ≠ .overlapped := by
  rcases button with rfl | ⟨i, x, rfl, here, -, type⟩
  · cases named
  · rw [entry_ofNat, here, Option.some.injEq] at named
    exact named ▸ type

theorem attached_type (tidy : Tidy s) (attached : Attached s w v) :
    (s.window v).type ≠ .overlapped := by
  rcases attached with ⟨x, bar, same | first | second | third⟩
  · exact same ▸ (tidy.bars w x bar).2.1
  · exact button_type (tidy.bars w x bar).2.2.1 first
  · exact button_type (tidy.bars w x bar).2.2.2.1 second
  · exact button_type (tidy.bars w x bar).2.2.2.2 third

theorem tidy_unlist (tidy : Tidy s)
    (button : (s.window w).isControl = true → (s.window w).type = .overlapped) :
    Tidy (s.unlist w) := by
  have kept : ∀ i v, (s.unlist w).windowList i = some v → s.windowList i = some v := by
    intro i v named
    rw [Server.unlist] at named
    dsimp only at named
    split at named
    · cases named
    · exact named
  constructor
  · exact tidy.marked
  · exact tidy.unmade
  · exact fun i v named => tidy.listed i v (kept i v named)
  · exact fun i j v first second => tidy.once i j v (kept i v first) (kept j v second)
  · intro v x bar
    rcases tidy.bars v x bar with ⟨below, type, buttons⟩
    refine ⟨below, type, ?_⟩
    have each : ∀ wid, s.Button wid → (s.unlist w).Button wid := by
      rintro wid (none | ⟨i, y, id, named, control, type⟩)
      · exact Or.inl none
      · have other : s.windowList i ≠ some w := by
          rw [named]
          rintro ⟨⟩
          exact type (button control)
        refine Or.inr ⟨i, y, id, ?_, control, type⟩
        rw [Server.unlist]
        dsimp only
        rw [if_neg other, named]
    exact ⟨each _ buttons.1, each _ buttons.2.1, each _ buttons.2.2⟩

/-- The rest of the windows, once `w` is taken from the table and killed. -/
theorem registered_without (kills : Kills (Attached s w) s t)
    (types : ∀ v, Attached s w v → (s.window v).type ≠ .overlapped) :
    ((t.unlist w).kill w).registered = s.registered.filter (· ≠ w) := by
  have each : ((t.unlist w).kill w).candidate = fun i => (s.candidate i).filter (· ≠ w) := by
    funext i
    apply Option.ext
    intro v
    have kept : v ≠ w → ((t.unlist w).kill w).window v = t.window v := fun other =>
      set_window_of_ne other
    rw [candidate_iff, Option.filter_eq_some_iff, candidate_iff, decide_eq_true_iff]
    have lists : ((t.unlist w).kill w).windowList i = some v ↔ s.windowList i = some v ∧ v ≠ w := by
      rw [← kills.windowList]
      exact unlist_iff
    rw [lists]
    constructor
    · rintro ⟨⟨named, other⟩, magic, type⟩
      rw [kept other] at magic type
      rcases kills.window v with same | ⟨-, killed⟩
      · rw [same] at magic type
        exact ⟨⟨named, magic, type⟩, other⟩
      · rw [killed] at magic
        cases magic
    · rintro ⟨⟨named, magic, type⟩, other⟩
      rw [kept other]
      rcases kills.window v with same | ⟨goes, -⟩
      · rw [same]
        exact ⟨⟨named, other⟩, magic, type⟩
      · exact absurd type (types v goes)
  rw [Server.registered, each, Server.registered, List.filter_filterMap]

theorem registered_nodup (tidy : Tidy s) : s.registered.Nodup := by
  rw [Server.registered]
  apply List.Nodup.filterMap ?_ (List.nodup_finRange _)
  intro i j v first second
  exact tidy.once i j v (candidate_iff.mp first).1 (candidate_iff.mp second).1

theorem mem_registered (tidy : Tidy s) (member : v ∈ s.registered) : s.Overlapped v := by
  rw [Server.registered, List.mem_filterMap] at member
  rcases member with ⟨i, -, found⟩
  exact (candidate_overlapped tidy.server_marked found).1

theorem destroy_simple (tidy : Tidy s) (stacked : Stacked s list)
    (type : (s.window w).type ≠ .overlapped) (button : (s.window w).isControl = false) :
    Tidy ((s.unlist w).kill w) ∧ Stacked ((s.unlist w).kill w) list ∧
      ∀ v, s.Live v → v ≠ w → ((s.unlist w).kill w).Live v := by
  have unlisted : Tidy (s.unlist w) := by
    apply tidy_unlist tidy
    rw [button]
    exact fun control => absurd control Bool.false_ne_true
  have kills : Kills (· = w) (s.unlist w) ((s.unlist w).kill w) := kill_kills rfl
  have same : Stacked (s.unlist w) list := ⟨stacked.listed, stacked.exact, stacked.last⟩
  refine ⟨tidy_kills unlisted kills, ?_, ?_⟩
  · apply stacked_kills same kills
    rintro v rfl
    exact type
  · intro v live other
    exact kills.live (s := s.unlist w) live other

/-- What is left of a list without its window, when the list is rebuilt. -/
theorem rebuilt (tidy : Tidy s) (listed : Listed s list) (dead : ¬s.Live w)
    (members : ∀ v, v ∈ list → v = w ∨ s.Overlapped v)
    (whole : ∀ v, s.Overlapped v → v ∈ s.registered)
    (front : s.manager.firstWindow = some w ∨ s.manager.firstWindow = s.registered.head?)
    (flagged : ∀ v, s.Overlapped v → (s.window v).flagged = true) (there : w ∈ list) :
    ∃ t u, wmRebuildList s = .ok t ∧ wmUpdateDesktop t true = .ok u ∧ Relinked s u ∧
      Stacked u s.registered := by
  have head := linked_head listed.1
  by_cases left : s.registered = []
  · -- The list is that window, which `wm_update_desktop` finds dead.
    have alone : list = [w] := by
      have only : ∀ v ∈ list, v = w := by
        intro v member
        rcases members v member with same | overlapped
        · exact same
        · have inside := whole v overlapped
          rw [left] at inside
          cases inside
      have single := List.eq_replicate_of_mem only
      have short : list.length ≤ 1 := by
        have once := linked_nodup listed.1
        rw [single] at once
        exact List.nodup_replicate.mp once
      have long : 0 < list.length := List.length_pos_of_mem there
      rw [single, Nat.le_antisymm short long]
      rfl
    subst alone
    have magic : (s.window w).magic ≠ 1234 := fun valid =>
      dead ⟨(tidy.marked w).mpr valid, valid⟩
    have none_left : ∀ v, ¬s.Overlapped v := by
      intro v overlapped
      have inside := whole v overlapped
      rw [left] at inside
      cases inside
    rw [left]
    exact ⟨s, _, rebuild_empty left, wmUpdateDesktop_dead listed rfl head.symm magic,
      Relinked.manage s _, ⟨rfl, fun v member => (nomatch member)⟩,
      fun v => iff_of_false (fun member => nomatch member) (none_left v),
      fun v ending => nomatch ending⟩
  · rcases rebuild_taken tidy.server_marked listed left with ⟨t, rebuild, relinked, new, -⟩
    have order : s.registered.foldl (fun list v => upTo v list) (s.usable list) =
        s.registered := by
      rcases front with first | first
      · have none : s.usable list = [] := by
          simp [Server.usable, head, first, dead]
        rw [none, foldl_upTo_fresh (registered_nodup tidy) (by simp), List.nil_append]
      · rw [first] at head
        cases front : s.registered.head? with
        | none => exact absurd (List.head?_eq_none_iff.mp front) left
        | some f =>
            have live := (mem_registered tidy (List.mem_of_head? front)).1
            rw [usable_live (head.trans front) live]
            exact foldl_upTo_first (registered_nodup tidy) left head
    rw [order] at new
    have all : ∀ v ∈ s.registered, t.Overlapped v := fun v member =>
      (relinked.overlapped v).mpr (mem_registered tidy member)
    cases ending : s.registered.getLast? with
    | none => exact absurd (List.getLast?_eq_none_iff.mp ending) left
    | some l =>
        have drawn : t.drawable s.registered = true := by
          rw [drawable_iff]
          intro v member _ _
          rw [relinked.window]
          exact flagged v (mem_registered tidy member)
        have updated := wmUpdateDesktop_live new (fun v member => (all v member).2)
          (fun f head => (all f (List.mem_of_head? head)).1)
          (all l (List.mem_of_getLast? ending)).1 ending
        rw [if_pos drawn] at updated
        refine ⟨t, _, rebuild, updated, relinked.trans (Relinked.manage t _),
          ⟨new, fun v => ?_, fun v last => ?_⟩⟩
        · constructor
          · exact all v
          · exact fun overlapped => whole v ((relinked.overlapped v).mp overlapped)
        · rw [ending] at last
          exact last

/-- An overlapped window is destroyed with its title bar, and the list is built again. -/
theorem destroy_overlapped (tidy : Tidy s) (stacked : Stacked s list) (overlapped : s.Overlapped w)
    (whole : ∀ v < s.made, s.Overlapped v → v ≠ w →
      v ∈ s.registered ∧ (s.window v).flagged = true)
    (front : s.manager.firstWindow = some w ∨
      s.manager.firstWindow = (s.registered.filter (· ≠ w)).head?) :
    ∃ t u list', wmRebuildList (((s.killTitlebar w).unlist w).kill w) = .ok t ∧
      wmUpdateDesktop t true = .ok u ∧ Tidy u ∧ Stacked u list' ∧
      ∀ v, s.Live v → v ≠ w → ¬Attached s w v → u.Live v := by
  have kills := killTitlebar_kills s w
  have types : ∀ v, Attached s w v → (s.window v).type ≠ .overlapped :=
    fun v attached => attached_type tidy attached
  have rest := registered_without kills types
  have overlaps := kills.overlapped types
  have tidy₁ := tidy_kills tidy kills
  have stacked₁ := stacked_kills stacked kills types
  generalize s.killTitlebar w = s₁ at kills rest overlaps tidy₁ stacked₁ ⊢
  -- The window is taken from the table and unmarked, but stays linked.
  have tidy₂ : Tidy ((s₁.unlist w).kill w) := by
    apply tidy_kills (tidy_unlist tidy₁ fun _ => ((overlaps w).mpr overlapped).2)
      (@kill_kills (s₁.unlist w) (· = w) w rfl)
  have listed₂ : Listed ((s₁.unlist w).kill w) list := by
    refine ⟨?_, stacked₁.listed.2⟩
    have next : ((s₁.unlist w).kill w).next = s₁.next :=
      (@kill_kills (s₁.unlist w) (· = w) w rfl).next
    rw [next]
    exact stacked₁.listed.1
  have others : ∀ v, v ≠ w → (((s₁.unlist w).kill w).Overlapped v ↔ s.Overlapped v) :=
    fun v other => (overlapped_congr (kill_window_of_ne other)).trans (overlaps v)
  have stays : ∀ v, ((s₁.unlist w).kill w).Overlapped v → v ≠ w ∧ s.Overlapped v := by
    intro v inside
    have other : v ≠ w := by
      rintro rfl
      exact kill_dead inside.1
    exact ⟨other, (others v other).mp inside⟩
  have members : ∀ v, v ∈ list → v = w ∨ ((s₁.unlist w).kill w).Overlapped v := by
    intro v member
    by_cases same : v = w
    · exact Or.inl same
    · exact Or.inr ((others v same).mpr ((stacked.exact v).mp member))
  have first : ((s₁.unlist w).kill w).manager.firstWindow = s.manager.firstWindow :=
    congrArg WindowManager.firstWindow kills.manager
  have whole₂ : ∀ v, ((s₁.unlist w).kill w).Overlapped v →
      v ∈ ((s₁.unlist w).kill w).registered := by
    intro v inside
    rcases stays v inside with ⟨other, overlapped⟩
    rw [rest, List.mem_filter]
    exact ⟨(whole v (tidy.live_below overlapped.1) overlapped other).1, by simpa using other⟩
  have flagged₂ : ∀ v, ((s₁.unlist w).kill w).Overlapped v →
      (((s₁.unlist w).kill w).window v).flagged = true := by
    intro v inside
    rcases stays v inside with ⟨other, overlapped⟩
    have kept : ((s₁.unlist w).kill w).window v = s₁.window v := kill_window_of_ne other
    rw [kept, kills.alike v]
    exact (whole v (tidy.live_below overlapped.1) overlapped other).2
  rw [← rest, ← first] at front
  -- Built again from what is registered, which are all the others.
  rcases rebuilt tidy₂ listed₂ kill_dead members whole₂ front flagged₂
    ((stacked.exact w).mpr overlapped) with ⟨t, u, rebuild, update, relinked, stacked₃⟩
  refine ⟨t, u, _, rebuild, update, tidy_relinked tidy₂ relinked, stacked₃, ?_⟩
  intro v live other free
  apply (relinked.live v).mpr
  apply (live_congr (kill_window_of_ne other)).mpr
  exact kills.live live free

theorem destroyWindowByWid_keeps (tidy : Tidy s) (stacked : Stacked s list)
    (turn : Orderly s (.destroyWindowByWid wid)) :
    ∃ rv t list', destroyWindowByWid s wid = .ok (rv, t) ∧ Tidy t ∧ Stacked t list' ∧
      ∀ v, s.Live v → ¬Destroyed s wid v → t.Live v := by
  unfold destroyWindowByWid
  cases found : getWindowFromWid s wid with
  | none => exact ⟨-1, s, list, rfl, tidy, stacked, fun _ live _ => live⟩
  | some w =>
      have stays : ∀ v, ¬Destroyed s wid v → v ≠ w ∧ ¬Attached s w v := fun v stays =>
        ⟨fun same => stays ⟨w, found, Or.inl same⟩, fun goes => stays ⟨w, found, Or.inr goes⟩⟩
      dsimp only
      split
      · exact ⟨-1, s, list, rfl, tidy, stacked, fun _ live _ => live⟩
      · rw [if_neg fun stop => stop.2.2 ((turn w found).1 (Bool.eq_false_iff.mpr stop.1) stop.2.1)]
        split
        · rename_i type
          split
          · exact ⟨-1, s, list, rfl, tidy, stacked, fun _ live _ => live⟩
          · rename_i button
            rcases destroy_simple tidy stacked type (Bool.eq_false_iff.mpr button) with
              ⟨tidy', stacked', live⟩
            exact ⟨0, _, list, rfl, tidy', stacked', fun v old free => live v old (stays v free).1⟩
        · rename_i type
          have magic : (s.window w).magic = 1234 :=
            of_decide_eq_true (Option.filter_eq_some_iff.mp found).2
          have overlapped : s.Overlapped w :=
            ⟨⟨(tidy.marked w).mpr magic, magic⟩, not_not.mp type⟩
          rcases (turn w found).2 overlapped with ⟨whole, front⟩
          rcases destroy_overlapped tidy stacked overlapped whole front with
            ⟨t, u, list', rebuild, update, tidy', stacked', live⟩
          refine ⟨0, u, list', ?_, tidy', stacked', fun v old free =>
            live v old (stays v free).1 (stays v free).2⟩
          simp only [bind, Except.bind, rebuild, update]

end Destroying

section Runs

theorem createRoot_keeps {s t : Server} {list : List Nat} {parent window : Option Nat}
    (tidy : Tidy s) (stacked : Stacked s list)
    (created : createRoot s parent = .ok (window, t)) :
    Tidy t ∧ ∃ list', Stacked t list' := by
  have provided : Provided s .simple 0 parent := fun _ _ =>
    ⟨fun app => absurd rfl app, fun other => by simp at other,
      fun button => WindowType.noConfusion button⟩
  rcases createWindow_keeps tidy stacked 1 provided with
    ⟨window', u, list', made, tidy', stacked', -, below, unlisted, -⟩
  unfold createRoot at created
  rw [made] at created
  simp only [bind, Except.bind] at created
  cases window' with
  | none => cases created
  | some w =>
      rcases register_keeps tidy' stacked' (below w rfl) fun i => unlisted w i rfl with
        ⟨wid, v, registered, tidy₂, stacked₂, -⟩
      rw [registered] at created
      dsimp only at created
      split at created
      · cases created
      · cases created
        exact ⟨tidy₂, list', stacked₂⟩

theorem initializeGui_keeps {room : Memory} {tiles isCompositionDisabled : Bool} {s : Server}
    (started : initializeGui room tiles isCompositionDisabled = .ok s) :
    Tidy s ∧ ∃ list, Stacked s list := by
  unfold initializeGui at started
  generalize start : windowInitialize room tiles isCompositionDisabled = s₀ at started
  have unused : ∀ v, s₀.window v = Window.blank := fun v => start ▸ rfl
  have tidy : Tidy s₀ := by
    constructor
    · intro v
      rw [unused]
      decide
    · intro v _
      rw [Server.Live, unused]
      decide
    · subst start
      intro i v named
      cases named
    · subst start
      intro i j v named
      cases named
    · intro v t bar
      rw [unused] at bar
      cases bar
  have stacked : Stacked s₀ [] := by
    refine ⟨⟨start ▸ rfl, by simp⟩, ?_, by simp⟩
    intro v
    rw [Server.Overlapped, Server.Live, unused]
    simp [Window.blank]
  cases first : createRoot s₀ none with
  | error stop =>
      rw [first] at started
      cases started
  | ok out =>
      rcases createRoot_keeps tidy stacked first with ⟨tidy₁, list₁, stacked₁⟩
      rw [first] at started
      simp only [bind, Except.bind] at started
      cases second : createRoot out.2 out.1 with
      | error stop =>
          rw [second] at started
          cases started
      | ok next =>
          rcases createRoot_keeps tidy₁ stacked₁ second with ⟨tidy₂, list₂, stacked₂⟩
          rw [second] at started
          cases started
          exact ⟨tidy_relinked tidy₂ (Relinked.manage _ _), list₂, stacked₂.listed,
            stacked₂.exact, stacked₂.last⟩

theorem serve_keeps {s : Server} {request : Request} {list : List Nat} (tidy : Tidy s)
    (stacked : Stacked s list) (turn : Orderly s request) :
    ∃ out list', serve s request = .ok out ∧ Tidy out.2 ∧ Stacked out.2 list' ∧
      Keeps s request out := by
  have order : ∀ {t : Server} {window : Option Nat}, Stacked t list →
      (∀ w, window = some w → s.Overlapped w → s.manager.lastWindow = some w) →
      ∀ w, window = some w → ∀ old new, Stacked s old → Stacked t new →
        new = if s.Overlapped w then old.erase w ++ [w] else old := by
    intro t window stacked' turn w named old new before after
    rw [← raised_last before (turn w named), linked_unique after.listed.1 stacked'.listed.1,
      linked_unique before.listed.1 stacked.listed.1]
  cases request with
  | serviceCreateWindow type style state pwid =>
      rcases serviceCreateWindow_keeps tidy stacked state turn with
        ⟨rv, t, list', served, tidy', stacked', live⟩
      exact ⟨(rv, t), list', served, tidy', stacked', live⟩
  | wmUpdateDesktop3 window =>
      rcases wmUpdateDesktop3_keeps tidy stacked turn with ⟨t, served, tidy', stacked', live⟩
      refine ⟨(0, t), list, ?_, tidy', stacked', fun v => (live v).mpr,
        order stacked' fun w named => (turn w named).1⟩
      rw [serve, served]
      rfl
  | setLastWindow window =>
      rcases setLastWindow_keeps tidy stacked turn with ⟨t, served, tidy', stacked', live⟩
      refine ⟨(0, t), list, ?_, tidy', stacked', fun v => (live v).mpr, order stacked' turn⟩
      rw [serve, served]
      rfl
  | destroyWindowByWid wid =>
      rcases destroyWindowByWid_keeps tidy stacked turn with
        ⟨rv, t, list', served, tidy', stacked', live⟩
      exact ⟨(rv, t), list', served, tidy', stacked', live⟩

/-- From the start on, after every part of an orderly run the list ends and has each live
    overlapped window once, with the last window at its end; and none of the steps made
    a window invalid but what it was to destroy, or changed the order of the others. -/
theorem stacking_list {room : Memory} {tiles isCompositionDisabled : Bool} {s : Server}
    (requests : List Request)
    (started : initializeGui room tiles isCompositionDisabled = .ok s)
    (guarded : Guarded serve Orderly s requests) :
    (∀ early, early <+: requests → ∃ outs t, run serve s early = .ok (outs, t) ∧
      ∃ list, Stacked t list ∧ list.Nodup) ∧ Along serve Keeps s requests := by
  have start := initializeGui_keeps started
  constructor
  · intro early part
    have move : ∀ s request, (Tidy s ∧ ∃ list, Stacked s list) → Orderly s request →
        ∃ rv t, serve s request = .ok (rv, t) ∧ Tidy t ∧ ∃ list, Stacked t list := by
      rintro s request ⟨tidy, list, stacked⟩ turn
      rcases serve_keeps tidy stacked turn with ⟨⟨rv, t⟩, list', served, tidy', stacked', -⟩
      exact ⟨rv, t, served, tidy', list', stacked'⟩
    rcases prefixes_of_guarded move start guarded early part with
      ⟨outs, t, served, -, list, stacked⟩
    exact ⟨outs, t, served, list, stacked, linked_nodup stacked.listed.1⟩
  · have each : ∀ s request out, (Tidy s ∧ ∃ list, Stacked s list) → Orderly s request →
        serve s request = .ok out → Keeps s request out ∧ Tidy out.2 ∧ ∃ list,
          Stacked out.2 list := by
      rintro s request out ⟨tidy, list, stacked⟩ turn served
      rcases serve_keeps tidy stacked turn with ⟨out', list', served', tidy', stacked', keeps⟩
      rw [served] at served'
      cases served'
      exact ⟨keeps, tidy', list', stacked'⟩
    exact along_of_guarded each start guarded

/-- The server once it has made an application window. -/
def withWindow : Server :=
  ((serve server (.serviceCreateWindow .overlapped WS_APP 1 1)).toOption.map Prod.snd).getD server

/-- A new window, which is the last one, is raised. -/
theorem server_stacking :
    (∀ early, early <+: [Request.serviceCreateWindow .overlapped WS_APP 1 1,
        .wmUpdateDesktop3 (some 2)] →
      ∃ outs t, run serve server early = .ok (outs, t) ∧ ∃ list, Stacked t list ∧ list.Nodup) ∧
    Along serve Keeps server
      [Request.serviceCreateWindow .overlapped WS_APP 1 1, .wmUpdateDesktop3 (some 2)] := by
  have made : withWindow.made = 7 := by decide +kernel
  have seen : withWindow.manager.lastWindow = some 2 ∧ withWindow.Overlapped 2 ∧
      withWindow.manager.taskbarWindow = none ∧ (withWindow.window 2).shflags = true := by
    decide +kernel
  have flags : ∀ v < 7, withWindow.Overlapped v → (withWindow.window v).flagged = true := by
    decide +kernel
  have canvases : server.room.canvases server.made = true := by decide +kernel
  apply stacking_list _ server_started
  refine ⟨fun _ _ _ => ?_, fun rv t served => ⟨?_, fun _ _ _ => trivial⟩⟩
  · exact ⟨fun _ => canvases, fun _ => by decide, fun button => WindowType.noConfusion button⟩
  · have same : withWindow = t := by
      rw [withWindow, served]
      rfl
    subst same
    rintro w ⟨⟩
    refine ⟨fun _ => seen.1, ?_⟩
    rw [if_pos seen.2.1]
    refine ⟨fun v below => flags v (made ▸ below), fun t bar => ?_, fun a named _ => ?_⟩
    · rw [seen.2.2.1] at bar
      cases bar
    · cases named
      exact seen.2.2.2

/-- What is seen of the windows at three addresses: the first of the list, the links, and
    which of the windows are in use. -/
def view (s : Server) (a b c : Nat) : Option Nat × List (Option Nat) × List Bool :=
  (s.manager.firstWindow, [a, b, c].map s.next, [a, b, c].map fun w => decide (s.Live w))

/-- Of three windows, the first one is lost from the list when it is raised, and the
    second one is killed. -/
theorem raise_loses :
    (run serve server [.serviceCreateWindow .overlapped WS_APP 1 1,
      .serviceCreateWindow .overlapped WS_APP 1 1, .serviceCreateWindow .overlapped WS_APP 1 1,
      .wmUpdateDesktop3 (some 2)]).toOption.map (fun out => view out.2 2 7 12) =
        some (some 7, [some 7, some 12, none], [true, true, true]) ∧
    (run serve server [.serviceCreateWindow .overlapped WS_APP 1 1,
      .serviceCreateWindow .overlapped WS_APP 1 1, .serviceCreateWindow .overlapped WS_APP 1 1,
      .wmUpdateDesktop3 (some 7)]).toOption.map (fun out => view out.2 2 7 12) =
        some (some 2, [some 7, some 12, none], [true, false, true]) := by
  decide +kernel

end Runs

end Gramado.Winsys.WindowStack
