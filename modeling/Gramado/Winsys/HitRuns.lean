/-
The pointer over whole runs of the display server. Only the creation of a window changes a
list of children: it appends windows that are in no list yet. With that the search for the
window under the pointer meets lists that end in every state that the server comes to.
-/
import Gramado.Lib.Machine
import Gramado.Winsys.HitTest
import Gramado.Winsys.WindowMoves

namespace Gramado.Winsys.HitTest

open Gramado.Ke
open Gramado.Lib.Fallible
open Gramado.Lib.Machine
open Gramado.Lib.Pointers
open Gramado.Winsys.Windows
open Function

/-- A bar in the frame of a window that is in `p`. -/
def Screen.Bar (s : Screen) (p v : Nat) : Prop :=
  (s.server.window v).type ≠ .overlapped ∧
    ∃ w, w < s.server.made ∧ (s.server.window v).parent = some w ∧
      (s.server.window w).parent = some p

/-- The children of each window are a list of such bars, all of them below `n`. -/
structure Steady (n : Nat) (s : Screen) : Prop where
  sane : Sane s.server
  initialized : s.initialized = true
  root : s.server.manager.rootWindow ≠ none
  bound : n ≤ s.server.made
  children : ∀ p, ∃ list, Linked s.server.next (s.pane p).childHead list ∧
    ∀ v ∈ list, v < n ∧ s.Bar p v

/-- A request that makes no windows and has nothing to do with the children. -/
structure Keeps (s t : Screen) : Prop where
  carries : ∀ n, Carries n s.server t.server
  initialized : t.initialized = s.initialized
  head : ∀ v, (t.pane v).childHead = (s.pane v).childHead
  mark : ∀ v, (t.pane v).isMouseHover = (s.pane v).isMouseHover

/-- Bars are put into the lists of children, and nothing else is changed. -/
structure Hangs (s t : Screen) : Prop where
  made : t.server.made = s.server.made
  manager : t.server.manager = s.server.manager
  windowList : t.server.windowList = s.server.windowList
  initialized : t.initialized = s.initialized
  window : ∀ v, t.server.window v = { s.server.window v with next := t.server.next v }
  pane : ∀ v, t.pane v = { s.pane v with childHead := (t.pane v).childHead }

/-- No window comes to be marked. -/
def Unmarking (s t : Screen) : Prop :=
  ∀ v, t.server.Live v → (t.pane v).isMouseHover = true →
    s.server.Live v ∧ (s.pane v).isMouseHover = true

/-- A window that the pointer leaves is enabled; and no other request takes the pointer off a
    window that stays marked. -/
def Attentive (s : Screen) : Request → Prop
  | .wmHitTest2 long1 long2 => Leaves s long1 long2
  | request => ∀ window t, serve s request = .ok (window, t) →
      ∀ v, s.server.manager.mouseHover = some v → t.server.Live v →
        (t.pane v).isMouseHover = true → t.server.manager.mouseHover = some v

section Children

variable {n : Nat} {s t u : Screen} {p v w : Nat}

theorem Steady.walkable (steady : Steady n s) : Walkable s where
  used := steady.sane.used
  stacked := by
    obtain ⟨list, listed, -⟩ := steady.sane.stacked
    exact ⟨list, listed⟩
  children p := by
    obtain ⟨list, linked, bars⟩ := steady.children p
    exact ⟨list, linked, fun v member => (bars v member).1.trans_le steady.bound⟩

theorem Steady.mono (steady : Steady n s) {m : Nat} (more : n ≤ m) (bound : m ≤ s.server.made) :
    Steady m s where
  sane := steady.sane
  initialized := steady.initialized
  root := steady.root
  bound := bound
  children p := by
    obtain ⟨list, linked, bars⟩ := steady.children p
    exact ⟨list, linked, fun v member => ⟨(bars v member).1.trans_le more, (bars v member).2⟩⟩

/-- The windows from before keep their children, and new ones have none. -/
theorem Steady.carry (steady : Steady s.server.made s)
    (carries : Carries s.server.made s.server t.server) (initialized : t.initialized = true)
    (heads : ∀ p, (t.pane p).childHead = (s.pane p).childHead ∨ (t.pane p).childHead = none) :
    Steady s.server.made t where
  sane := carries.sane
  initialized := initialized
  root := by
    rw [carries.root]
    exact steady.root
  bound := carries.made
  children p := by
    obtain same | new := heads p
    · obtain ⟨list, linked, bars⟩ := steady.children p
      refine ⟨list, ?_, ?_⟩
      · rw [same]
        refine linked_congr (fun v member => ?_) linked
        exact carries.next v (bars v member).1 (bars v member).2.1
      · intro v member
        obtain ⟨below, other, w, made, inside, outer⟩ := bars v member
        refine ⟨below, by rwa [carries.type v below], w, made.trans_le carries.made, ?_, ?_⟩
        · rw [carries.parent v below, inside]
        · rw [carries.parent w made, outer]
    · exact ⟨[], new, fun v member => absurd member List.not_mem_nil⟩

theorem Hangs.refl : Hangs s s :=
  ⟨rfl, rfl, rfl, rfl, fun _ => rfl, fun _ => rfl⟩

theorem Hangs.trans (first : Hangs s t) (second : Hangs t u) : Hangs s u where
  made := second.made.trans first.made
  manager := second.manager.trans first.manager
  windowList := second.windowList.trans first.windowList
  initialized := second.initialized.trans first.initialized
  window v := by rw [second.window v, first.window v]
  pane v := by rw [second.pane v, first.pane v]

theorem Hangs.type (hangs : Hangs s t) (v : Nat) :
    (t.server.window v).type = (s.server.window v).type := by
  rw [hangs.window v]

theorem Hangs.parent (hangs : Hangs s t) (v : Nat) :
    (t.server.window v).parent = (s.server.window v).parent := by
  rw [hangs.window v]

theorem Hangs.live (hangs : Hangs s t) (v : Nat) : t.server.Live v ↔ s.server.Live v := by
  unfold Server.Live
  rw [hangs.window v]

theorem Hangs.bar (hangs : Hangs s t) (p v : Nat) : t.Bar p v ↔ s.Bar p v := by
  simp only [Screen.Bar, hangs.type, hangs.parent, hangs.made]

theorem Hangs.unmarking (hangs : Hangs s t) : Unmarking s t := by
  intro v live marked
  rw [hangs.pane v] at marked
  exact ⟨(hangs.live v).mp live, marked⟩

theorem Hangs.sane (hangs : Hangs s t) (sane : Sane s.server)
    (same : ∀ v, (s.server.window v).type = .overlapped → t.server.next v = s.server.next v) :
    Sane t.server := by
  obtain ⟨list, listed, types⟩ := sane.stacked
  refine ⟨?_, ?_, ?_, list, ⟨?_, ?_⟩, ?_⟩
  · intro v magic
    rw [hangs.window v] at magic ⊢
    exact sane.used v magic
  · intro i v named
    rw [hangs.windowList] at named
    rw [hangs.made]
    exact sane.below i v named
  · intro v beyond live
    rw [hangs.made] at beyond
    exact sane.unmade v beyond ((hangs.live v).mp live)
  · rw [hangs.manager]
    exact linked_congr (fun v member => same v (types v member)) listed.1
  · rw [hangs.made]
    exact listed.2
  · intro v member
    rw [hangs.type]
    exact types v member

theorem Hangs.steady (hangs : Hangs s t) (steady : Steady v s) (made : v < s.server.made)
    (bar : s.Bar p v)
    (same : ∀ q, q ≠ p → (t.pane q).childHead = (s.pane q).childHead)
    (links : ∀ u, u ≠ v → (∀ list, Linked s.server.next (s.pane p).childHead list → u ∉ list) →
      t.server.next u = s.server.next u)
    (appended : ∀ list, Linked s.server.next (s.pane p).childHead list → v ∉ list →
      Linked t.server.next (t.pane p).childHead (list ++ [v])) :
    Steady (v + 1) t := by
  obtain ⟨children, linked, bars⟩ := steady.children p
  have others : ∀ u, u ≠ v → u ∉ children → t.server.next u = s.server.next u := by
    intro u apart outside
    refine links u apart fun list linked' => ?_
    rwa [linked_unique linked' linked]
  refine ⟨?_, ?_, ?_, ?_, ?_⟩
  · refine hangs.sane steady.sane fun u overlapped => others u ?_ ?_
    · exact fun here => bar.1 (here ▸ overlapped)
    · exact fun member => (bars u member).2.1 overlapped
  · rw [hangs.initialized]
    exact steady.initialized
  · rw [hangs.manager]
    exact steady.root
  · rw [hangs.made]
    exact made
  · intro q
    by_cases here : q = p
    · subst here
      refine ⟨_, appended children linked fun member => ?_, ?_⟩
      · exact Nat.lt_irrefl v (bars v member).1
      · intro u member
        rw [hangs.bar]
        rcases List.mem_append.mp member with old | last
        · exact ⟨Nat.lt_succ_of_lt (bars u old).1, (bars u old).2⟩
        · rw [List.mem_singleton.mp last]
          exact ⟨Nat.lt_succ_self v, bar⟩
    · obtain ⟨list, linked', bars'⟩ := steady.children q
      refine ⟨list, ?_, ?_⟩
      · rw [same q here]
        refine linked_congr (fun u member => others u ?_ fun inside => ?_) linked'
        · exact Nat.ne_of_lt (bars' u member).1
        · -- A bar is in the list of one window.
          obtain ⟨-, -, w, -, inner, outer⟩ := bars' u member
          obtain ⟨-, -, w', -, inner', outer'⟩ := bars u inside
          rw [inner, Option.some.injEq] at inner'
          rw [← inner', outer, Option.some.injEq] at outer'
          exact here outer'
      · intro u member
        rw [hangs.bar]
        exact ⟨Nat.lt_succ_of_lt (bars' u member).1, (bars' u member).2⟩

theorem addChild_steady (steady : Steady v s) (made : v < s.server.made) (bar : s.Bar p v) :
    Returns (wmAddChildWindow s p v) fun t => Steady (v + 1) t ∧ Hangs s t := by
  have same : Steady (v + 1) s ∧ Hangs s s :=
    ⟨steady.mono (Nat.le_succ v) made, Hangs.refl⟩
  unfold wmAddChildWindow
  split
  · exact returns_ok.mpr same
  · split
    · exact returns_ok.mpr same
    · split
      · exact returns_ok.mpr same
      · dsimp only
        split
        · -- The first child.
          rename_i head
          have hangs : Hangs s { s.setPane p fun pane => { pane with childHead := some v } with
              server := s.server.set v fun window => { window with next := none } } := by
            refine ⟨rfl, rfl, rfl, rfl, fun u => ?_, fun q => ?_⟩
            · by_cases here : u = v
              · subst here
                simp only [Server.next, set_window_self]
              · simp only [Server.next, set_window_of_ne here]
            · by_cases here : q = p
              · subst here
                simp only [setPane_self]
              · simp only [setPane_of_ne here]
          refine returns_ok.mpr ⟨hangs.steady steady made bar ?_ ?_ ?_, hangs⟩
          · exact fun q apart => by rw [setPane_of_ne apart]
          · intro u apart _
            rw [set_next, update_of_ne apart]
          · intro list linked _
            rw [head] at linked
            rw [linked_unique linked (show Linked s.server.next none [] from rfl), setPane_self,
              set_next]
            exact ⟨rfl, update_self ..⟩
        · rename_i first head
          obtain ⟨children, linked, bars⟩ := steady.children p
          have enough := linked_length_le linked fun u member => (bars u member).1.trans made
          rw [head] at linked ⊢
          rw [nodes_of_linked linked enough]
          dsimp only
          cases last : children.getLast? with
          | none => exact returns_ok.mpr same
          | some end_ =>
              -- The link of the last child is the only other one that changes.
              have hangs : Hangs s { s with
                  server := (s.server.set end_ fun tmp => { tmp with next := some v }).set v
                    fun window => { window with next := none } } := by
                refine ⟨rfl, rfl, rfl, rfl, fun u => ?_, fun q => rfl⟩
                by_cases here : u = v
                · subst here
                  by_cases ending : u = end_
                  · subst ending
                    simp only [Server.next, set_window_self]
                  · simp only [Server.next, set_window_self, set_window_of_ne ending]
                · by_cases ending : u = end_
                  · subst ending
                    simp only [Server.next, set_window_of_ne here, set_window_self]
                  · simp only [Server.next, set_window_of_ne here, set_window_of_ne ending]
              refine returns_ok.mpr ⟨hangs.steady steady made bar ?_ ?_ ?_, hangs⟩
              · exact fun q _ => rfl
              · intro u apart outside
                rw [head] at outside
                have inner : u ≠ end_ := fun ending =>
                  outside children linked (ending ▸ List.mem_of_getLast? last)
                rw [set_next, update_of_ne apart, set_next, update_of_ne inner]
              · intro list linked' fresh
                rw [head] at linked' ⊢
                rw [linked_unique linked' linked] at fresh ⊢
                rw [← upTo_fresh fresh, set_next, set_next]
                exact linked_relink linked last

theorem addBars_steady (k : Nat) (steady : Steady v s) (all : v + k = s.server.made)
    (below : w < s.server.made) (inside : (s.server.window w).parent = some p) :
    Returns ((List.range' v k).foldlM (fun s v =>
      if (s.server.window w).type = .overlapped ∧ framePart s.server w v then
        wmAddChildWindow s p v
      else
        .ok s) s) fun t => Steady (v + k) t ∧ Hangs s t := by
  induction k generalizing v s with
  | zero => exact returns_ok.mpr ⟨steady, Hangs.refl⟩
  | succ k ih =>
      have made : v < s.server.made := by omega
      have first : Returns (if (s.server.window w).type = .overlapped ∧ framePart s.server w v then
          wmAddChildWindow s p v
        else
          .ok s) fun t => Steady (v + 1) t ∧ Hangs s t := by
        split
        · rename_i part
          obtain ⟨simple, parent, -⟩ := of_decide_eq_true part.2
          refine addChild_steady steady made ⟨?_, w, below, parent, inside⟩
          rw [simple]
          exact WindowType.noConfusion
        · exact returns_ok.mpr ⟨steady.mono (Nat.le_succ v) made, Hangs.refl⟩
      rw [List.range'_succ, List.foldlM_cons]
      refine returns_of_bind first fun t added => ?_
      obtain ⟨later, hangs⟩ := added
      have rest := ih later (by rw [hangs.made]; omega) (by rwa [hangs.made])
        (by rwa [hangs.parent])
      refine rest.mono fun u kept => ⟨?_, hangs.trans kept.2⟩
      have place : v + (k + 1) = v + 1 + k := by omega
      rw [place]
      exact kept.1

theorem addFrame_steady (steady : Steady n s) (new : n ≤ w) :
    Returns (addFrame s w (List.range' w (s.server.made - w))) fun t =>
      Steady t.server.made t ∧ Hangs s t := by
  have same : Steady s.server.made s ∧ Hangs s s :=
    ⟨steady.mono steady.bound (Nat.le_refl _), Hangs.refl⟩
  unfold addFrame
  split
  · exact returns_ok.mpr same
  · rename_i parent inside
    by_cases below : w < s.server.made
    · have all : w + (s.server.made - w) = s.server.made := by omega
      refine (addBars_steady _ (steady.mono new below.le) all below inside).mono fun t kept => ?_
      rw [kept.2.made, ← all]
      exact kept
    · -- Nothing was made.
      rw [Nat.sub_eq_zero_of_le (Nat.not_lt.mp below)]
      exact returns_ok.mpr same

end Children

section Requests

variable {s t u : Screen} {v w : Nat} {change : Pane → Pane}

theorem Keeps.refl (sane : Sane s.server) : Keeps s s :=
  ⟨fun _ => Carries.refl sane, rfl, fun _ => rfl, fun _ => rfl⟩

theorem Keeps.trans (first : Keeps s t) (second : Keeps t u) : Keeps s u where
  carries n := (first.carries n).trans (second.carries n)
  initialized := second.initialized.trans first.initialized
  head v := (second.head v).trans (first.head v)
  mark v := (second.mark v).trans (first.mark v)

theorem Keeps.sane (keeps : Keeps s t) : Sane t.server :=
  (keeps.carries 0).sane

theorem Keeps.steady (keeps : Keeps s t) (steady : Steady s.server.made s) :
    Steady t.server.made t := by
  have carries := keeps.carries s.server.made
  refine (steady.carry carries ?_ fun p => .inl (keeps.head p)).mono carries.made (Nat.le_refl _)
  rw [keeps.initialized]
  exact steady.initialized

theorem Keeps.unmarking (keeps : Keeps s t) : Unmarking s t := by
  intro v live marked
  rw [keeps.mark v] at marked
  exact ⟨(keeps.carries (v + 1)).live v (Nat.lt_succ_self v) live, marked⟩

theorem server_keeps {server : Server} (carries : ∀ n, Carries n s.server server) :
    Keeps s { s with server } :=
  ⟨carries, rfl, fun _ => rfl, fun _ => rfl⟩

theorem setPane_keeps (sane : Sane s.server) (w : Nat)
    (head : ∀ pane, (change pane).childHead = pane.childHead)
    (mark : ∀ pane, (change pane).isMouseHover = pane.isMouseHover) :
    Keeps s (s.setPane w change) := by
  refine ⟨fun _ => Carries.refl sane, rfl, fun v => ?_, fun v => ?_⟩
  · by_cases here : v = w
    · rw [here, setPane_self, head]
    · rw [setPane_of_ne here]
  · by_cases here : v = w
    · rw [here, setPane_self, mark]
    · rw [setPane_of_ne here]

theorem mode_keeps (keeps : Keeps s t) (mode : Bool) : Keeps s { t with isFullscreen := mode } :=
  ⟨keeps.carries, keeps.initialized, keeps.head, keeps.mark⟩

theorem serves_keeps {result : Except Stop Server}
    (carries : ∀ n, Returns result (Carries n s.server)) :
    Returns (s.serves result) fun out => Keeps s out.2 := by
  unfold Screen.serves
  refine returns_map.mpr fun server done => ?_
  exact server_keeps fun n => carries n server done

theorem redraws_keeps {result : Except Stop Server} (drawn : Bool)
    (carries : ∀ n, Returns result (Carries n s.server)) :
    Returns (s.redraws drawn result) fun out => Keeps s out.2 := by
  unfold Screen.redraws
  refine returns_map.mpr fun server done => ?_
  exact mode_keeps (server_keeps fun n => carries n server done) _

theorem enable_keeps (sane : Sane s.server) (window : Option Nat) :
    Keeps s (enableWindow s window) := by
  unfold enableWindow
  repeat' split
  · exact Keeps.refl sane
  · exact Keeps.refl sane
  · exact setPane_keeps sane _ (fun _ => rfl) fun _ => rfl

theorem disable_keeps (sane : Sane s.server) (window : Option Nat) :
    Keeps s (disableWindow s window) := by
  unfold disableWindow
  repeat' split
  · exact Keeps.refl sane
  · exact Keeps.refl sane
  · exact setPane_keeps sane _ (fun _ => rfl) fun _ => rfl

theorem updateDesktop2_carries {s : Server} (sane : Sane s) :
    Returns (wmUpdateDesktop2 s) fun t => ∀ n, Carries n s t := by
  refine (updateDesktop2_returns s).mono fun t same n => ?_
  rw [same]
  exact Carries.refl sane

theorem minimize_keeps (sane : Sane s.server) (window : Option Nat) :
    Returns (minimizeWindow s window) (Keeps s) := by
  unfold minimizeWindow
  split
  · exact returns_ok.mpr (Keeps.refl sane)
  · rename_i w
    split
    · exact returns_ok.mpr (Keeps.refl sane)
    · split
      · exact returns_ok.mpr (Keeps.refl sane)
      · have disabled : Keeps s (s.setPane w fun pane => { pane with enabled := false }) :=
          setPane_keeps sane w (fun _ => rfl) fun _ => rfl
        have state : Keeping fun window => { window with state := WINDOW_STATE_MINIMIZED } :=
          fun _ => ⟨rfl, rfl, rfl, rfl, rfl⟩
        have small := disabled.trans (server_keeps fun n => set_carries disabled.sane w state)
        have quiet : ∀ {t : Screen}, Keeps s t → Returns (do
            let server ← wmUpdateDesktop2 t.server
            .ok { t with server, isFullscreen := false }) (Keeps s) := by
          intro t keeps
          refine returns_of_bind (updateDesktop2_carries keeps.sane) fun server carries => ?_
          exact returns_ok.mpr (keeps.trans (mode_keeps (server_keeps carries) false))
        dsimp only
        split
        · exact quiet small
        · split
          · exact quiet (small.trans (setPane_keeps small.sane _ (fun _ => rfl) fun _ => rfl))
          · exact quiet small

theorem focus_keeps (sane : Sane s.server) (window : Option Nat) :
    Returns (focus s window) (Keeps s) := by
  have focused : Returns (setFocus s.server window) fun server => ∀ n, Carries n s.server server :=
    fun server done n => setFocus_carries sane window server done
  unfold focus
  refine returns_of_bind focused fun server carries => ?_
  have keeps := server_keeps carries
  dsimp only
  split
  · exact returns_ok.mpr keeps
  · split
    · exact returns_ok.mpr keeps
    · split
      all_goals first
        | exact returns_ok.mpr keeps
        | exact returns_ok.mpr (keeps.trans
            (setPane_keeps keeps.sane _ (fun _ => rfl) fun _ => rfl))

theorem place_keeps (sane : Sane s.server) (rect : Nat → Rectangle) :
    Keeps s { s with pane := fun v => (s.pane v).place (rect v) } :=
  ⟨fun _ => Carries.refl sane, rfl, fun _ => rfl, fun _ => rfl⟩

theorem updateWindow_keeps (sane : Sane s.server) (w : Nat) (rect : Nat → Rectangle) :
    Keeps s (updateWindow s w rect) := by
  have active : ∀ {t : Screen}, Keeps s t →
      Keeps s { t with server := setActiveWindow t.server (some w) } :=
    fun keeps => keeps.trans (server_keeps fun n => activate_carries keeps.sane (some w))
  unfold updateWindow
  dsimp only
  split
  · exact Keeps.refl sane
  · split
    · exact Keeps.refl sane
    · split
      · exact Keeps.refl sane
      · split
        · have placed := place_keeps sane rect
          exact active (placed.trans (server_keeps fun n => manage_carries placed.sane rfl rfl))
        · exact active (Keeps.refl sane)

theorem updateById_keeps (sane : Sane s.server) (wid : Int32) (rect : Nat → Rectangle) :
    Keeps s (wmUpdateWindowById s wid rect) := by
  unfold wmUpdateWindowById
  repeat' split
  · exact Keeps.refl sane
  · exact Keeps.refl sane
  · exact Keeps.refl sane
  · exact updateWindow_keeps sane _ rect

theorem fullscreen_keeps (sane : Sane s.server) (rect : Nat → Rectangle) :
    Returns (wmEnterFullscreenMode s rect) (Keeps s) := by
  have updated : ∀ w, Keeps s (updateWindow { s with isFullscreen := true } w rect) := by
    intro w
    have mode : Keeps s { s with isFullscreen := true } := mode_keeps (Keeps.refl sane) true
    exact mode.trans (updateWindow_keeps mode.sane w rect)
  unfold wmEnterFullscreenMode
  split
  · exact returns_ok.mpr (Keeps.refl sane)
  · split
    · exact returns_ok.mpr (Keeps.refl sane)
    next w _ =>
      split
      · exact returns_ok.mpr (Keeps.refl sane)
      · dsimp only
        split
        · exact returns_error.mpr trivial
        · exact returns_ok.mpr ((updated w).trans
            (server_keeps fun n => manage_carries (updated w).sane rfl rfl))

theorem exitFullscreen_keeps (sane : Sane s.server) (tile : Bool) :
    Returns (wmExitFullscreenMode s tile) (Keeps s) := by
  unfold wmExitFullscreenMode
  split
  · exact returns_ok.mpr (Keeps.refl sane)
  · have owners : ∀ n, Carries n s.server (s.server.manage fun manager => { manager with
        keyboardOwner := none
        mouseOwner := none
        mouseHover := none }) := fun n => manage_carries sane rfl rfl
    have updated : Returns (wmUpdateDesktop (s.server.manage fun manager => { manager with
        keyboardOwner := none
        mouseOwner := none
        mouseHover := none }) tile) fun server => ∀ n, Carries n s.server server :=
      fun server done n =>
        (owners n).trans (updateDesktop_carries (owners n).sane tile server done)
    refine returns_of_bind updated fun server carries => ?_
    exact returns_ok.mpr (mode_keeps (server_keeps carries) false)

/-- The new windows are not marked and have no children; the bars among them come to lists. -/
theorem create_steady (steady : Steady s.server.made s) (type : WindowType) (style : UInt64)
    (state pwid : Int32) (rect : Nat → Rectangle) :
    Returns (create s type style state pwid rect) fun t =>
      Steady t.server.made t ∧ Unmarking s t := by
  unfold create
  refine returns_of_bind (serviceCreate_carries steady.sane type style state pwid)
    fun out carries => ?_
  obtain ⟨wid, server⟩ := out
  -- The panes of the windows from before are the same but for the task bar.
  have placed : ∀ t : Screen, t.server = server → t.initialized = s.initialized →
      (∀ v, v < s.server.made → (t.pane v).childHead = (s.pane v).childHead ∧
        (t.pane v).isMouseHover = (s.pane v).isMouseHover) →
      (∀ v, ¬v < s.server.made → (t.pane v).childHead = none ∧
        (t.pane v).isMouseHover = false) →
      Returns (addFrame t s.server.made (List.range' s.server.made
        (t.server.made - s.server.made))) fun u => Steady u.server.made u ∧ Unmarking s u := by
    intro t same initialized old new
    have carried : Steady s.server.made t := by
      refine steady.carry (same ▸ carries) (initialized.trans steady.initialized) fun p => ?_
      by_cases below : p < s.server.made
      · exact .inl (old p below).1
      · exact .inr (new p below).1
    refine (addFrame_steady carried (Nat.le_refl _)).mono fun u framed => ⟨framed.1, ?_⟩
    intro v live marked
    obtain ⟨live, marked⟩ := framed.2.unmarking v live marked
    by_cases below : v < s.server.made
    · rw [(old v below).2] at marked
      rw [same] at live
      exact ⟨carries.live v below live, marked⟩
    · rw [(new v below).2] at marked
      cases marked
  dsimp only
  split
  · refine placed _ rfl rfl (fun v below => ?_) fun v beyond => ?_
    · rw [setPane_of_ne (Nat.ne_of_lt below)]
      dsimp only
      rw [if_pos below]
      exact ⟨rfl, rfl⟩
    · by_cases here : v = s.server.made
      · rw [here, setPane_self]
        dsimp only
        rw [if_neg (Nat.lt_irrefl _)]
        exact ⟨rfl, rfl⟩
      · rw [setPane_of_ne here]
        dsimp only
        rw [if_neg beyond]
        exact ⟨rfl, rfl⟩
  · refine placed _ rfl rfl (fun v below => ?_) fun v beyond => ?_
    · dsimp only
      rw [if_pos below]
      exact ⟨rfl, rfl⟩
    · dsimp only
      rw [if_neg beyond]
      exact ⟨rfl, rfl⟩

end Requests

section Hits

variable {s : Screen} {long1 long2 : UInt64} {v w tb : Nat} {window : Option Nat}

theorem setPane_head {change : Pane → Pane}
    (head : ∀ pane, (change pane).childHead = pane.childHead) :
    ((s.setPane w change).pane v).childHead = (s.pane v).childHead := by
  by_cases here : v = w
  · rw [here, setPane_self, head]
  · rw [setPane_of_ne here]

theorem leave_frame : (onMouseLeave s window).initialized = s.initialized ∧
    ∀ v, ((onMouseLeave s window).pane v).childHead = (s.pane v).childHead := by
  unfold onMouseLeave
  repeat' split
  · exact ⟨rfl, fun _ => rfl⟩
  · exact ⟨rfl, fun _ => rfl⟩
  · exact ⟨rfl, fun _ => rfl⟩
  · exact ⟨rfl, fun v => setPane_head fun _ => rfl⟩

theorem enter_frame : (onMouseHover s window).initialized = s.initialized ∧
    ∀ v, ((onMouseHover s window).pane v).childHead = (s.pane v).childHead := by
  unfold onMouseHover
  repeat' split
  · exact ⟨rfl, fun _ => rfl⟩
  · exact ⟨rfl, fun _ => rfl⟩
  · exact ⟨rfl, fun _ => rfl⟩
  · exact ⟨rfl, fun v => setPane_head fun _ => rfl⟩

theorem hit_steady (steady : Steady s.server.made s) :
    Returns (wmHitTest2 s long1 long2) fun out => Steady out.2.server.made out.2 := by
  -- A hit sets mouse_hover and marks, and neither is what the lists are made of.
  have hovered : ∀ (t : Screen) (hover : Option Nat),
      t.server = s.server.manage (fun manager => { manager with mouseHover := hover }) →
      t.initialized = s.initialized → (∀ v, (t.pane v).childHead = (s.pane v).childHead) →
      Steady t.server.made t := by
    intro t hover server initialized heads
    have made : t.server.made = s.server.made := by rw [server]; rfl
    have carries : Carries s.server.made s.server t.server := by
      rw [server]
      exact manage_carries steady.sane rfl rfl
    rw [made]
    exact steady.carry carries (initialized.trans steady.initialized) fun p => .inl (heads p)
  have still : s.server = s.server.manage fun manager =>
      { manager with mouseHover := s.server.manager.mouseHover } := rfl
  unfold wmHitTest2
  split
  · exact returns_ok.mpr steady
  · rw [returns_bind]
    intro found _
    cases found with
    | none =>
        refine returns_ok.mpr (hovered _ s.server.manager.rootWindow ?_ ?_ ?_)
        · rw [Screen.hover]
          dsimp only
          rw [leave_server]
        · exact leave_frame.1
        · exact leave_frame.2
    | some w =>
        dsimp only
        unfold Screen.enter
        split
        · exact returns_error.mpr trivial
        · dsimp only
          split
          · refine returns_ok.mpr (hovered _ (some w) ?_ ?_ ?_)
            · rw [setPane_server, enter_server, Screen.hover]
              dsimp only
              rw [leave_server]
            · exact enter_frame.1.trans leave_frame.1
            · intro v
              dsimp only
              rw [setPane_head, enter_frame.2, hover_pane, leave_frame.2]
              exact fun _ => rfl
          · refine returns_ok.mpr (hovered _ _ still rfl fun v => ?_)
            dsimp only
            rw [setPane_head]
            exact fun _ => rfl

theorem topmost_unique (topmost : s.Topmost long1 long2 v) (again : s.Topmost long1 long2 w) :
    v = w := by
  obtain ⟨below, above, listed, covers, others⟩ := topmost
  obtain ⟨below', above', listed', covers', others'⟩ := again
  have same := linked_unique listed.1 listed'.1
  obtain ⟨between, -, split⟩ | ⟨between, -, split⟩ := List.append_eq_append_iff.mp same
  · cases between with
    | nil => exact (List.cons.inj split).1
    | cons u rest =>
        have inside : w ∈ above := by
          rw [(List.cons.inj split).2]
          exact List.mem_append_right rest List.mem_cons_self
        exact absurd covers' (others w inside)
  · cases between with
    | nil => exact (List.cons.inj split).1.symm
    | cons u rest =>
        have inside : v ∈ above' := by
          rw [(List.cons.inj split).2]
          exact List.mem_append_right rest List.mem_cons_self
        exact absurd covers (others' v inside)

theorem titlebarUnder_missing {wid : Int32} (named : wid ∈ s.wids tb)
    (missing : getWindowFromWid s.server wid = none) :
    ∃ stop, s.titlebarUnder tb long1 long2 = .error stop := by
  have faults : ∀ hover, s.controlUnder long1 long2 wid hover =
      .error (.fault "wm_hit_test_2: no such control") := by
    intro hover
    rw [Screen.controlUnder, missing]
  simp only [Screen.wids, List.mem_cons, List.not_mem_nil, or_false] at named
  unfold Screen.titlebarUnder
  simp only [bind, Except.bind]
  cases first : s.controlUnder long1 long2 (s.server.window tb).controls.minimizeWid none with
  | error stop => exact ⟨stop, rfl⟩
  | ok min =>
      dsimp only
      cases second : s.controlUnder long1 long2 (s.server.window tb).controls.maximizeWid min with
      | error stop => exact ⟨stop, rfl⟩
      | ok max =>
          dsimp only
          cases third : s.controlUnder long1 long2 (s.server.window tb).controls.closeWid max with
          | error stop => exact ⟨stop, rfl⟩
          | ok clo =>
              obtain rfl | rfl | rfl := named
              · rw [faults] at first
                cases first
              · rw [faults] at second
                cases second
              · rw [faults] at third
                cases third

/-- The search comes to its end if and only if the buttons are there that it looks at. -/
theorem answers_iff (steady : Steady s.server.made s) :
    Answers (wmHitTest2 s long1 long2) ↔ Controlled s long1 long2 := by
  have walkable := steady.walkable
  constructor
  · rintro ⟨out, done⟩ off w tb topmost titlebar live wid named missing
    obtain ⟨stop, fault⟩ := @titlebarUnder_missing s long1 long2 tb wid named missing
    have bar : s.taskbarUnder long1 long2 = none := by
      cases found : s.taskbarUnder long1 long2 with
      | none => rfl
      | some t => exact absurd ((taskbarUnder_iff walkable).mp found) (off t)
    obtain ⟨list, listed⟩ := walkable.stacked
    have raised : s.overlappedUnder long1 long2 list = some w := by
      obtain ⟨-, nowhere⟩ | ⟨v, below, above, found, split, covers, later⟩ :=
        @overlappedUnder_spec s long1 long2 walkable list
      · obtain ⟨below, above, listed', covers, -⟩ := topmost
        rw [linked_unique listed.1 listed'.1] at nowhere
        exact absurd covers (nowhere w (by simp))
      · have here : s.Topmost long1 long2 v := ⟨below, above, split ▸ listed, covers, later⟩
        rw [found, topmost_unique here topmost]
    have titled : (s.server.window w).titlebar.filter s.valid = some tb :=
      Option.filter_eq_some_iff.mpr ⟨titlebar, valid_of_live live⟩
    have search : s.under long1 long2 = .error stop := by
      unfold Screen.under
      simp only [bar, bind, Except.bind, stack_listed listed, raised, titled, fault]
    have failed : wmHitTest2 s long1 long2 = .error stop := by
      simp only [wmHitTest2, steady.initialized, not_true_eq_false, if_false, search, bind,
        Except.bind]
    rw [failed] at done
    cases done
  · intro controlled
    obtain ⟨window, u, done, -⟩ :=
      hit_spec walkable steady.initialized steady.root controlled
    exact ⟨_, done⟩

end Hits

section Runs

variable {s t : Screen} {request : Request} {v : Nat}

theorem other_steady (steady : Steady s.server.made s)
    (other : ∀ long1 long2, request ≠ .wmHitTest2 long1 long2) :
    Returns (serve s request) fun out => Steady out.2.server.made out.2 ∧ Unmarking s out.2 := by
  have sane := steady.sane
  have keeps : ∀ t, Keeps s t → Steady t.server.made t ∧ Unmarking s t :=
    fun t keeps => ⟨keeps.steady steady, keeps.unmarking⟩
  have serves : ∀ result : Except Stop Server, (∀ n, Returns result (Carries n s.server)) →
      Returns (s.serves result) fun out => Steady out.2.server.made out.2 ∧ Unmarking s out.2 :=
    fun result carries => (serves_keeps carries).mono fun out kept => keeps out.2 kept
  have changes : ∀ result : Except Stop Screen, Returns result (Keeps s) →
      Returns (result.map fun t => (none, t) : Except Stop (Option Nat × Screen))
        fun out => Steady out.2.server.made out.2 ∧ Unmarking s out.2 :=
    fun result kept => returns_map.mpr (kept.mono keeps)
  have redraws : ∀ drawn (result : Except Stop Server),
      (∀ n, Returns result (Carries n s.server)) → Returns (s.redraws drawn result)
        fun out => Steady out.2.server.made out.2 ∧ Unmarking s out.2 :=
    fun drawn result carries =>
      (redraws_keeps drawn carries).mono fun out kept => keeps out.2 kept
  cases request with
  | serviceCreateWindow type style state pwid rect =>
      exact returns_map.mpr (create_steady steady type style state pwid rect)
  | destroyWindowByWid wid =>
      exact redraws _ _ fun n => returns_map.mpr (destroy_carries sane wid)
  | wmUpdateDesktop tile => exact redraws _ _ fun n => updateDesktop_carries sane tile
  | wmUpdateDesktop3 window => exact redraws _ _ fun n => updateDesktop3_carries sane window
  | setLastWindow window => exact serves _ fun n => setLastWindow_carries sane window
  | setActiveWindow window =>
      exact serves _ fun n => returns_ok.mpr (activate_carries sane window)
  | setWindowWithFocus window =>
      exact serves _ fun n => returns_ok.mpr (setWindowWithFocus_carries sane window)
  | getWindowWithFocus =>
      exact serves _ fun n => returns_ok.mpr (getWindowWithFocus_carries sane)
  | setFocus window => exact changes _ (focus_keeps sane window)
  | setMouseover window =>
      exact serves _ fun n => returns_ok.mpr (setMouseover_carries sane window)
  | enableWindow window => exact returns_ok.mpr (keeps _ (enable_keeps sane window))
  | disableWindow window => exact returns_ok.mpr (keeps _ (disable_keeps sane window))
  | minimizeWindow window => exact changes _ (minimize_keeps sane window)
  | wmUpdateWindowById wid rect =>
      exact returns_ok.mpr (keeps _ (updateById_keeps sane wid rect))
  | wmEnterFullscreenMode rect => exact changes _ (fullscreen_keeps sane rect)
  | wmExitFullscreenMode tile => exact changes _ (exitFullscreen_keeps sane tile)
  | arrange rect => exact returns_ok.mpr (keeps _ (place_keeps sane rect))
  | wmHitTest2 long1 long2 => exact absurd rfl (other long1 long2)

theorem serve_steady (steady : Steady s.server.made s) (request : Request) :
    Returns (serve s request) fun out => Steady out.2.server.made out.2 := by
  by_cases hit : ∃ long1 long2, request = .wmHitTest2 long1 long2
  · obtain ⟨long1, long2, rfl⟩ := hit
    exact hit_steady steady
  · refine (other_steady steady fun long1 long2 here => hit ⟨long1, long2, here⟩).mono ?_
    exact fun out kept => kept.1

/-- The mark stays with the window under the pointer while the requests are attentive. -/
theorem serve_hovered (steady : Steady s.server.made s) (hovered : Hovered s)
    (attentive : Attentive s request) {window : Option Nat}
    (served : serve s request = .ok (window, t)) : Hovered t := by
  by_cases hit : ∃ long1 long2, request = .wmHitTest2 long1 long2
  · obtain ⟨long1, long2, rfl⟩ := hit
    have controlled := (answers_iff steady).mp ⟨_, served⟩
    obtain ⟨found, u, done, -, moved, marks⟩ :=
      hit_spec steady.walkable steady.initialized steady.root controlled
    have same : wmHitTest2 s long1 long2 = .ok (window, t) := served
    rw [done] at same
    cases same
    intro v live marked
    rw [moved]
    exact marks hovered attentive v live marked
  · have unmarking := (other_steady steady fun long1 long2 here => hit ⟨long1, long2, here⟩)
      (window, t) served
    have guard : ∀ window t, serve s request = .ok (window, t) →
        ∀ v, s.server.manager.mouseHover = some v → t.server.Live v →
          (t.pane v).isMouseHover = true → t.server.manager.mouseHover = some v := by
      cases request
      case wmHitTest2 long1 long2 => exact absurd ⟨long1, long2, rfl⟩ hit
      all_goals exact attentive
    intro v live marked
    obtain ⟨alive, flag⟩ := unmarking.2 v live marked
    exact guard window t served v (hovered v alive flag) live marked

end Runs

section Start

theorem createRoot_sane {s : Server} (sane : Sane s) (parent : Option Nat) :
    Returns (createRoot s parent) fun out => Sane out.2 ∧ out.1 ≠ none := by
  unfold createRoot
  refine returns_of_bind (create_carries sane (Nat.zero_le _) .simple 0 1 parent)
    fun out created => ?_
  obtain ⟨window, t⟩ := out
  have filed := @register_carries 0 _ created.1.sane _ created.2
  dsimp only
  split
  · exact returns_error.mpr trivial
  · rename_i wid
    refine returns_ok.mpr ⟨filed.sane, ?_⟩
    rintro rfl
    exact wid (show (-1 : Int32) < 0 by decide)

theorem startGui_steady (room : Memory) (tiles isCompositionDisabled : Bool)
    (rect : Nat → Rectangle) :
    Returns (startGui room tiles isCompositionDisabled rect) fun s =>
      Steady s.server.made s ∧ Hovered s := by
  have blank : Sane (windowInitialize room tiles isCompositionDisabled) := by
    refine ⟨?_, ?_, ?_, [], ⟨rfl, ?_⟩, ?_⟩
    · rintro v ⟨⟩
    · rintro i v ⟨⟩
    · rintro v _ ⟨⟨⟩, -⟩
    · exact fun v member => absurd member List.not_mem_nil
    · exact fun v member => absurd member List.not_mem_nil
  unfold startGui initializeGui
  refine returns_map.mpr ?_
  refine returns_of_bind (createRoot_sane blank none) fun first made => ?_
  obtain ⟨rw, s⟩ := first
  refine returns_of_bind (createRoot_sane made.1 rw) fun second rooted => ?_
  obtain ⟨root, t⟩ := second
  obtain ⟨list, listed, types⟩ := rooted.1.stacked
  refine returns_ok.mpr ⟨⟨?_, rfl, rooted.2, Nat.le_refl _, ?_⟩, ?_⟩
  · exact ⟨rooted.1.used, rooted.1.below, rooted.1.unmade, list, ⟨listed.1, listed.2⟩, types⟩
  · exact fun p => ⟨[], rfl, fun v member => absurd member List.not_mem_nil⟩
  · rintro v - ⟨⟩

end Start

/-- In every state that the server comes to, the search for the window under the pointer ends
    if and only if the buttons are there that it looks at. It then gives the window that it
    has to, or one of the task bar, and remembers it; and while the requests are attentive,
    no other window in use is marked afterwards. -/
theorem hits_answered (room : Memory) (tiles isCompositionDisabled : Bool)
    (rect : Nat → Rectangle) (s t : Screen)
    (started : startGui room tiles isCompositionDisabled rect = .ok s) (requests : List Request)
    (replies : List (Option Nat)) (served : run serve s requests = .ok (replies, t))
    (long1 long2 : UInt64) :
    ((∃ out, wmHitTest2 t long1 long2 = .ok out) ↔ Controlled t long1 long2) ∧
      ∀ window u, wmHitTest2 t long1 long2 = .ok (window, u) →
        Answered t long1 long2 window ∧ u.server.manager.mouseHover = window ∧
        (Guarded serve Attentive s (requests ++ [.wmHitTest2 long1 long2]) →
          ∀ v, u.server.Live v → (u.pane v).isMouseHover = true → window = some v) := by
  obtain ⟨steady, hovered⟩ := startGui_steady room tiles isCompositionDisabled rect s started
  have always : Guarded serve (fun _ _ => True) s requests :=
    guarded_of_always (fun _ _ => trivial) s requests
  have keep : ∀ (s : Screen) request window t, Steady s.server.made s → True →
      serve s request = .ok (window, t) → Steady t.server.made t :=
    fun s request window t steady _ first => serve_steady steady request (window, t) first
  have steady' := run_keeps keep steady always served
  refine ⟨answers_iff steady', fun window u done => ?_⟩
  obtain ⟨found, u', done', answered, moved, -⟩ := hit_spec steady'.walkable steady'.initialized
    steady'.root ((answers_iff steady').mp ⟨_, done⟩)
  rw [done] at done'
  cases done'
  have remembered : u.server.manager.mouseHover = window := by rw [moved]; rfl
  refine ⟨answered, remembered, fun guarded v live marked => ?_⟩
  -- The hit is one more request behind the run, which keeps the marks below what hovers.
  have last : run serve t [.wmHitTest2 long1 long2] = .ok ([window], u) := run_cons_of_ok done
  have whole := run_append_of_ok served last
  have both : ∀ (s : Screen) request window t, Steady s.server.made s ∧ Hovered s →
      Attentive s request → serve s request = .ok (window, t) →
      Steady t.server.made t ∧ Hovered t :=
    fun s request window t kept attentive first =>
      ⟨serve_steady kept.1 request (window, t) first,
        serve_hovered kept.1 kept.2 attentive first⟩
  have kept := run_keeps both ⟨steady, hovered⟩ guarded whole
  rw [← remembered]
  exact kept.2 v live marked

/-- The windows of a small desktop, with the task bar below the others. -/
def places (v : Nat) : Rectangle :=
  if v = 2 then ⟨0, 500, 800, 50⟩ else ⟨10, 10, 100, 100⟩

def desktop : Screen :=
  ⟨server, fun v => Pane.new (places v), true, false⟩

theorem desktop_started : startGui ample true false places = .ok desktop := by
  unfold startGui
  rw [server_started]
  rfl

/-- The pointer on a desktop without windows. -/
theorem desktop_answered :
    ((∃ out, wmHitTest2 desktop 20 20 = .ok out) ↔ Controlled desktop 20 20) ∧
      ∀ window u, wmHitTest2 desktop 20 20 = .ok (window, u) →
        Answered desktop 20 20 window ∧ u.server.manager.mouseHover = window ∧
        (Guarded serve Attentive desktop ([] ++ [.wmHitTest2 20 20]) →
          ∀ v, u.server.Live v → (u.pane v).isMouseHover = true → window = some v) :=
  hits_answered _ true false places desktop desktop desktop_started [] [] rfl 20 20

def withTaskbar : Screen :=
  ((run serve desktop [.serviceCreateWindow .popup (WS_TASKBAR ||| WS_APP) 0 1
    places]).toOption.map
    Prod.snd).getD desktop

/-- The task bar is found although it is not stacked. The search fails where a button could not
    be made. A window stays marked that was minimized under the pointer. -/
theorem taskbar_found :
    ((wmHitTest2 withTaskbar 20 510).toOption.map Prod.fst = some (some 2) ∧
      ¬Right withTaskbar 20 510 (some 2)) ∧
    ((startGui { ample with object := fun v => decide (v ≠ 6) } true false places).toOption.bind
    fun s =>
      (run serve s [.serviceCreateWindow .overlapped WS_APP 0 1 places]).toOption.map fun out =>
        (wmHitTest2 out.2 20 20).toOption.isSome) = some false ∧
    ((run serve desktop [.serviceCreateWindow .overlapped WS_APP 0 1 places, .wmHitTest2 2 2,
        .minimizeWindow (some 2), .wmHitTest2 20 20]).toOption.map fun out =>
      (out.1.getLast?, decide (out.2.server.Live 2), (out.2.pane 2).isMouseHover)) =
        some (some (some 6), true, true) := by
  have root : withTaskbar.server.manager.rootWindow = some 1 := by decide +kernel
  have first : withTaskbar.server.manager.firstWindow = none := by decide +kernel
  refine ⟨⟨by decide +kernel, ?_⟩, by decide +kernel, by decide +kernel⟩
  rintro (⟨here, -⟩ | ⟨w, -, -, above, ⟨below, rest, listed, -⟩, -⟩)
  · rw [root] at here
    cases here
  · have linked := listed.1
    rw [first] at linked
    have nothing : Linked withTaskbar.server.next none [] := rfl
    have empty := linked_unique linked nothing
    exact List.cons_ne_nil _ _ (List.append_eq_nil_iff.mp empty).2

end Gramado.Winsys.HitTest
