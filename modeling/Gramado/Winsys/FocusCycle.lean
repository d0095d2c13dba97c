/-
The focus among the children of a window: wm_cycle_focus and wm_add_child_window in wm.c.
The highlight moves and the owner of the keyboard does not, and a child that was destroyed
is never stepped over. Redrawing is left out.
-/
import Gramado.Lib.Loop
import Gramado.Winsys.Windows
import Mathlib.Data.Nat.ModEq

namespace Gramado.Winsys.FocusCycle

open Gramado.Lib
open Gramado.Lib.Pointers
open Gramado.Winsys.Windows (WindowType)
open Function

def BS_DEFAULT : Int32 := 1
def BS_FOCUS : Int32 := 2

/-- The fields of `struct gws_window_d` that the focus depends on. -/
structure Window where
  used : Bool
  magic : Int32
  type : WindowType
  status : Int32
  parent : Option Nat
  next : Option Nat
  childHead : Option Nat

structure Server where
  window : Nat → Window
  keyboardOwner : Option Nat

def Server.Live (s : Server) (w : Nat) : Prop :=
  (s.window w).used = true ∧ (s.window w).magic = 1234

instance (s : Server) (w : Nat) : Decidable (s.Live w) :=
  inferInstanceAs (Decidable (_ ∧ _))

def Server.next (s : Server) (w : Nat) : Option Nat :=
  (s.window w).next

def Server.setStatus (s : Server) (w : Nat) (status : Int32) : Server :=
  { s with window := update s.window w { s.window w with status := status } }

def Server.setNext (s : Server) (w : Nat) (next : Option Nat) : Server :=
  { s with window := update s.window w { s.window w with next := next } }

def Server.setHead (s : Server) (w head : Nat) : Server :=
  { s with window := update s.window w { s.window w with childHead := some head } }

/-- The types that can have the focus. -/
def TakesFocus (type : WindowType) : Prop :=
  type = .button ∨ type = .editboxSingleLine ∨ type = .editboxMultipleLines

instance (type : WindowType) : Decidable (TakesFocus type) :=
  inferInstanceAs (Decidable (_ ∨ _))

def getWindowWithFocus (s : Server) : Option Nat × Server :=
  match s.keyboardOwner with
  | none => (none, s)
  | some w =>
      if s.Live w then (some w, s) else (none, { s with keyboardOwner := none })

/-- `old` is stepped over. -/
def skip (s : Server) (old : Nat) (target : Option Nat) : Option Nat :=
  if target = some old then s.next old else target

/-- One pass of the loop over the children. -/
def search (s : Server) (old : Nat) : Option Nat → Server ⊕ Option Nat
  | none => .inl s
  | some target =>
      if (s.window target).magic = 1234 then
        if TakesFocus (s.window target).type then
          .inl (s.setStatus target BS_FOCUS)
        else
          .inr (skip s old (s.next target))
      else
        .inr (some target)

/-- The highlight of the old window disappears. -/
def dim (s : Server) (old : Nat) : Server :=
  if (s.window old).type = .button then s.setStatus old BS_DEFAULT else s

/-- From the old window with the focus on to where the search begins. -/
def fromOld (s : Server) (old : Nat) : Server × Option (Option Nat) :=
  if (s.window old).type = .overlapped then
    (s, none)
  else
    let s := dim s old
    match (s.window old).parent with
    | none => (s, none)
    | some parent =>
        if (s.window parent).magic ≠ 1234 then
          (s, none)
        else if (s.window parent).type ≠ .overlapped then
          (s, none)
        else
          (s, some (skip s old (s.window parent).childHead))

/-- The call returns within this many passes of its loop. -/
def wmCycleFocus (s : Server) (passes : Nat) : Option Server :=
  match getWindowWithFocus s with
  | (none, s) => some s
  | (some old, s) =>
      match fromOld s old with
      | (s, none) => some s
      | (s, some target) => (Loop.after (search s old) passes target).getLeft?

/-- `wm_add_child_window`, whose loop to the last child ends within this many links. The
    parent is an overlapped window. -/
def wmAddChildWindow (s : Server) (parent w : Nat) (links : Nat) : Option Server :=
  if ¬s.Live parent ∨ (s.window parent).type ≠ .overlapped ∨ ¬s.Live w then
    some s
  else
    match (s.window parent).childHead with
    | none => some ((s.setHead parent w).setNext w none)
    | some first =>
        ((nodes s.next links (some first)).bind List.getLast?).map fun last =>
          (s.setNext last (some w)).setNext w none

def Returns (s t : Server) : Prop :=
  ∃ passes, wmCycleFocus s passes = some t

/-- What a number of calls leads to. -/
def Calls : Nat → Server → Server → Prop
  | 0, s, t => t = s
  | n + 1, s, t => ∃ u, Calls n s u ∧ Returns u t

/-- The children of an application window, in the order of its list. -/
structure Children (s : Server) (parent : Nat) (list : List Nat) : Prop where
  live : s.Live parent
  overlapped : (s.window parent).type = .overlapped
  linked : Linked s.next (s.window parent).childHead list
  parents : ∀ c ∈ list, (s.window c).parent = some parent

def Server.focusable (s : Server) (list : List Nat) : List Nat :=
  list.filter fun c => (s.window c).magic = 1234 ∧ TakesFocus (s.window c).type

/-- Every call returns, and each time the focus is on the next one of the list, from the
    first call on, or from before it if a window of the list has the focus. -/
def Cycles (s : Server) (list : List Nat) : Prop :=
  (∀ n, ∃ t, Calls n s t) ∧
    (list ≠ [] → ∃ place, ∀ n t, Calls n s t → 0 < n ∨ (∃ f ∈ list, s.keyboardOwner = some f) →
      t.keyboardOwner = list[(place + n) % list.length]?)

/-- No other child has been destroyed. -/
def Intact (s : Server) (list : List Nat) (f : Nat) : Prop :=
  ∀ c ∈ list, c ≠ f → (s.window c).magic = 1234

/-- There is nothing to cycle through: no child can have the focus, or only the one that
    has it. -/
def Settled (s : Server) (list : List Nat) (f : Nat) : Prop :=
  (s.focusable list = [] ∧
      (¬s.Live f ∨ (s.window f).type = .overlapped ∨ Intact s list f)) ∨
    (s.focusable list = [f] ∧ s.Live f ∧ Intact s list f)

section Adding

variable {s t : Server} {parent w : Nat} {list : List Nat} {links : Nat}

theorem setNext_next (s : Server) (w : Nat) (next : Option Nat) :
    (s.setNext w next).next = update s.next w next := by
  funext u
  by_cases here : u = w
  · subst here
    simp [Server.next, Server.setNext]
  · simp [Server.next, Server.setNext, here]

theorem setNext_window (s : Server) (w v : Nat) (next : Option Nat) :
    ∃ n, (s.setNext w next).window v = { s.window v with next := n } := by
  by_cases here : v = w
  · subst here
    exact ⟨next, by simp [Server.setNext]⟩
  · exact ⟨(s.window v).next, by simp [Server.setNext, here]⟩

theorem Children.relinked {more : List Nat} (children : Children s parent list)
    (windows : ∀ v, ∃ next, t.window v = { s.window v with next := next })
    (linked : Linked t.next (s.window parent).childHead more)
    (parents : ∀ c ∈ more, (s.window c).parent = some parent) : Children t parent more := by
  obtain ⟨next, frame⟩ := windows parent
  refine ⟨?_, ?_, ?_, ?_⟩
  · rw [Server.Live, frame]
    exact children.live
  · rw [frame]
    exact children.overlapped
  · rw [frame]
    exact linked
  · intro c member
    obtain ⟨next, same⟩ := windows c
    rw [same]
    exact parents c member

/-- A child is added at the end of the list. One that the list has is its end from then
    on. -/
theorem wmAddChildWindow_children (children : Children s parent list) (live : s.Live w)
    (named : (s.window w).parent = some parent) (enough : list.length ≤ links) :
    ∃ t, wmAddChildWindow s parent w links = some t ∧ Children t parent (upTo w list) := by
  have valid : ¬(¬s.Live parent ∨ (s.window parent).type ≠ .overlapped ∨ ¬s.Live w) := by
    simp [children.live, children.overlapped, live]
  have parents : ∀ c ∈ upTo w list, (s.window c).parent = some parent := by
    intro c member
    obtain before | rfl := mem_upTo.mp member
    · exact children.parents c ((List.takeWhile_sublist _).subset before)
    · exact named
  rw [wmAddChildWindow, if_neg valid]
  cases head : (s.window parent).childHead with
  | none =>
      have linked := children.linked
      rw [head] at linked
      have empty : list = [] := linked_unique linked rfl
      subst empty
      -- The first child: the head is set, and its link.
      have owner : (s.setHead parent w).window parent =
          { s.window parent with childHead := some w } := by simp [Server.setHead]
      have child : ((s.setHead parent w).window w).parent = some parent := by
        by_cases same : w = parent
        · subst same
          rw [owner]
          exact named
        · simpa [Server.setHead, same] using named
      obtain ⟨next, frame⟩ := setNext_window (s.setHead parent w) w parent none
      rw [owner] at frame
      refine ⟨_, rfl, ?_, ?_, ?_, ?_⟩
      · rw [Server.Live, frame]
        exact children.live
      · rw [frame]
        exact children.overlapped
      · rw [frame, setNext_next]
        exact ⟨rfl, by simp [Linked]⟩
      · intro c member
        cases List.mem_singleton.mp member
        obtain ⟨next, same⟩ := setNext_window (s.setHead parent w) w w none
        rw [same]
        exact child
  | some first =>
      have linked := children.linked
      rw [head] at linked
      have some_child : list ≠ [] := by
        rintro rfl
        cases linked
      obtain ⟨last, ends⟩ := Option.ne_none_iff_exists'.mp
        (mt List.getLast?_eq_none_iff.mp some_child)
      simp only [nodes_of_linked linked enough, Option.bind_some, ends, Option.map_some]
      refine ⟨_, rfl, children.relinked (fun v => ?_) ?_ parents⟩
      · obtain ⟨next, one⟩ := setNext_window s last v (some w)
        obtain ⟨again, two⟩ := setNext_window (s.setNext last (some w)) w v none
        exact ⟨again, by rw [two, one]⟩
      · rw [setNext_next, setNext_next, head]
        exact linked_relink linked ends

end Adding

/-- Only what the windows look like differs. -/
structure Alike (s t : Server) : Prop where
  owner : t.keyboardOwner = s.keyboardOwner
  windows : ∀ w, { t.window w with status := (s.window w).status } = s.window w

section Looks

variable {s t u : Server} {parent old f : Nat} {list : List Nat}

theorem Alike.refl (s : Server) : Alike s s :=
  ⟨rfl, fun _ => rfl⟩

theorem Alike.trans (first : Alike s t) (second : Alike t u) : Alike s u := by
  refine ⟨second.owner.trans first.owner, fun w => ?_⟩
  have same := first.windows w
  rw [← second.windows w] at same
  exact same

theorem alike_setStatus (s : Server) (w : Nat) (status : Int32) :
    Alike s (s.setStatus w status) := by
  refine ⟨rfl, fun v => ?_⟩
  by_cases here : v = w
  · subst here
    simp [Server.setStatus]
  · simp [Server.setStatus, here]

theorem Alike.fields (alike : Alike s t) (w : Nat) :
    (t.window w).used = (s.window w).used ∧ (t.window w).magic = (s.window w).magic ∧
      (t.window w).type = (s.window w).type ∧ (t.window w).parent = (s.window w).parent ∧
      (t.window w).next = (s.window w).next ∧
      (t.window w).childHead = (s.window w).childHead := by
  rw [← alike.windows w]
  exact ⟨rfl, rfl, rfl, rfl, rfl, rfl⟩

theorem Alike.live (alike : Alike s t) (w : Nat) : t.Live w ↔ s.Live w := by
  obtain ⟨used, magic, -⟩ := alike.fields w
  rw [Server.Live, Server.Live, used, magic]

theorem Alike.next (alike : Alike s t) : t.next = s.next := by
  funext w
  exact (alike.fields w).2.2.2.2.1

theorem Alike.focusable (alike : Alike s t) : t.focusable list = s.focusable list := by
  apply List.filter_congr
  intro c _
  obtain ⟨-, magic, type, -⟩ := alike.fields c
  rw [magic, type]

theorem Alike.intact (alike : Alike s t) : Intact t list f ↔ Intact s list f := by
  refine forall_congr' fun c => forall_congr' fun _ => forall_congr' fun _ => ?_
  rw [(alike.fields c).2.1]

theorem Children.alike (children : Children s parent list) (alike : Alike s t) :
    Children t parent list := by
  obtain ⟨-, -, type, -, -, head⟩ := alike.fields parent
  refine ⟨(alike.live parent).mpr children.live, type.trans children.overlapped, ?_, ?_⟩
  · rw [alike.next, head]
    exact children.linked
  · intro c member
    rw [(alike.fields c).2.2.2.1]
    exact children.parents c member

end Looks

section Searching

variable {s t : Server} {parent old f c : Nat} {list rest : List Nat}

theorem mem_focusable : c ∈ s.focusable list ↔
    c ∈ list ∧ (s.window c).magic = 1234 ∧ TakesFocus (s.window c).type := by
  simp [Server.focusable]

theorem stuck_at (dead : (s.window c).magic ≠ 1234) : ¬Loop.Ends (search s old) (some c) := by
  have keep : ∀ target, target = some c → ∃ next, search s old target = .inr next ∧
      next = some c := by
    rintro target rfl
    exact ⟨some c, if_neg dead, rfl⟩
  exact Loop.not_ends_of_invariant keep rfl

theorem skip_of_ne {target : Option Nat} (other : target ≠ some old) :
    skip s old target = target :=
  if_neg other

/-- Where no other child can have the focus, the search has to get over all of them. -/
theorem search_ends_iff {p : Option Nat} (linked : Linked s.next p rest)
    (none_other : ∀ c ∈ rest, c ≠ f → (s.window c).magic = 1234 →
      ¬TakesFocus (s.window c).type) :
    Loop.Ends (search s f) (skip s f p) ↔ Intact s rest f := by
  induction rest generalizing p with
  | nil =>
      cases linked
      have done : search s f (skip s f none) = .inl s := rfl
      exact iff_of_true (Loop.ends_done done) fun c member => by cases member
  | cons c rest ih =>
      have once := List.nodup_cons.mp (linked_nodup linked)
      obtain ⟨rfl, later⟩ := linked
      have behind := ih later fun d member => none_other d (List.mem_cons_of_mem c member)
      by_cases same : c = f
      · subst same
        -- The link of the old window is not tested again; it does not lead back to it.
        have leaves : s.next c ≠ some c := by
          intro back
          rw [back] at later
          cases rest with
          | nil => cases later
          | cons d rest =>
              cases later.1
              exact once.1 List.mem_cons_self
        rw [skip_of_ne leaves] at behind
        rw [skip, if_pos rfl, behind]
        constructor
        · intro intact d member
          rcases List.mem_cons.mp member with rfl | inside
          · exact fun other => absurd rfl other
          · exact intact d inside
        · exact fun intact d member => intact d (List.mem_cons_of_mem c member)
      · have other : some c ≠ some f := fun equal => same (Option.some.inj equal)
        rw [skip_of_ne other]
        by_cases valid : (s.window c).magic = 1234
        · have passes : search s f (some c) = .inr (skip s f (s.next c)) := by
            rw [search, if_pos valid, if_neg (none_other c List.mem_cons_self same valid)]
          rw [Loop.ends_next passes, behind]
          constructor
          · intro intact d member
            rcases List.mem_cons.mp member with rfl | inside
            · exact fun _ => valid
            · exact intact d inside
          · exact fun intact d member => intact d (List.mem_cons_of_mem c member)
        · exact iff_of_false (stuck_at valid) fun intact =>
            valid (intact c List.mem_cons_self same)

theorem search_alike {passes : Nat} {target : Option Nat}
    (ended : Loop.after (search s old) passes target = .inl t) : Alike s t := by
  induction passes generalizing target with
  | zero => cases ended
  | succ passes ih =>
      cases first : search s old target with
      | inr next =>
          rw [Loop.after_next first] at ended
          exact ih ended
      | inl result =>
          rw [Loop.after_done first] at ended
          cases ended
          cases target with
          | none =>
              cases first
              exact Alike.refl s
          | some target =>
              rw [search] at first
              split at first
              · split at first
                · cases first
                  exact alike_setStatus s target BS_FOCUS
                · cases first
              · cases first

theorem dim_alike (s : Server) (old : Nat) : Alike s (dim s old) := by
  rw [dim]
  split
  · exact alike_setStatus s old BS_DEFAULT
  · exact Alike.refl s

theorem fromOld_alike (s : Server) (old : Nat) : Alike s (fromOld s old).1 := by
  have dimmed := dim_alike s old
  simp only [fromOld]
  split
  · exact Alike.refl s
  · split
    · exact dimmed
    · split
      · exact dimmed
      · split
        · exact dimmed
        · exact dimmed

theorem fromOld_child (children : Children s parent list) (member : f ∈ list)
    (type : (s.window f).type ≠ .overlapped) :
    fromOld s f = (dim s f, some (skip (dim s f) f ((dim s f).window parent).childHead)) := by
  have after := children.alike (dim_alike s f)
  have named := after.parents f member
  have valid : ¬((dim s f).window parent).magic ≠ 1234 := not_not.mpr after.live.2
  have frame : ¬((dim s f).window parent).type ≠ .overlapped := not_not.mpr after.overlapped
  simp only [fromOld, if_neg type, named, if_neg valid, if_neg frame]

theorem returns_dead (focus : s.keyboardOwner = some f) (dead : ¬s.Live f) :
    Returns s t ↔ t = { s with keyboardOwner := none } := by
  have owner : getWindowWithFocus s = (none, { s with keyboardOwner := none }) := by
    simp only [getWindowWithFocus, focus, if_neg dead]
  constructor
  · rintro ⟨passes, returned⟩
    rw [wmCycleFocus, owner] at returned
    exact (Option.some.inj returned).symm
  · rintro rfl
    exact ⟨0, by rw [wmCycleFocus, owner]⟩

theorem owner_live (focus : s.keyboardOwner = some f) (live : s.Live f) :
    getWindowWithFocus s = (some f, s) := by
  simp only [getWindowWithFocus, focus, if_pos live]

theorem returns_alike (focus : s.keyboardOwner = some f) (live : s.Live f) (returns : Returns s t) :
    Alike s t := by
  obtain ⟨passes, returned⟩ := returns
  rw [wmCycleFocus, owner_live focus live] at returned
  have before := fromOld_alike s f
  cases start : fromOld s f with
  | mk u target =>
      rw [start] at before
      simp only [start] at returned
      cases target with
      | none =>
          cases returned
          exact before
      | some target =>
          simp only at returned
          cases ended : Loop.after (search u f) passes target with
          | inr again =>
              rw [ended] at returned
              cases returned
          | inl result =>
              rw [ended] at returned
              cases returned
              exact before.trans (search_alike ended)

/-- A call returns if the search gets over the children, where none of them can have
    the focus. -/
theorem returns_iff (children : Children s parent list) (member : f ∈ list)
    (focus : s.keyboardOwner = some f) (live : s.Live f)
    (type : (s.window f).type ≠ .overlapped)
    (none_other : ∀ c ∈ s.focusable list, c = f) :
    (∃ t, Returns s t) ↔ Intact s list f := by
  have after := children.alike (dim_alike s f)
  have others : ∀ c ∈ list, c ≠ f → ((dim s f).window c).magic = 1234 →
      ¬TakesFocus ((dim s f).window c).type := by
    intro c inside other magic takes
    have found := mem_focusable.mpr ⟨inside, magic, takes⟩
    rw [(dim_alike s f).focusable] at found
    exact other (none_other c found)
  rw [← (dim_alike s f).intact, ← search_ends_iff after.linked others]
  constructor
  · rintro ⟨t, passes, returned⟩
    rw [wmCycleFocus, owner_live focus live] at returned
    simp only [fromOld_child children member type] at returned
    exact ⟨passes, t, Sum.getLeft?_eq_some_iff.mp returned⟩
  · rintro ⟨passes, t, ended⟩
    refine ⟨t, passes, ?_⟩
    rw [wmCycleFocus, owner_live focus live]
    simp only [fromOld_child children member type, ended]
    rfl

theorem returns_overlapped (focus : s.keyboardOwner = some f) (live : s.Live f)
    (type : (s.window f).type = .overlapped) : Returns s s := by
  refine ⟨0, ?_⟩
  rw [wmCycleFocus, owner_live focus live]
  simp only [fromOld, if_pos type]

end Searching

section Repeated

variable {s t : Server} {parent f n : Nat} {list : List Nat}

theorem calls_alike (focus : s.keyboardOwner = some f) (live : s.Live f) (calls : Calls n s t) :
    Alike s t := by
  induction n generalizing t with
  | zero =>
      cases calls
      exact Alike.refl s
  | succ n ih =>
      obtain ⟨u, before, returns⟩ := calls
      have same := ih before
      exact same.trans (returns_alike (same.owner.trans focus) ((same.live f).mpr live) returns)

theorem calls_dead (focus : s.keyboardOwner = some f) (dead : ¬s.Live f)
    (calls : Calls (n + 1) s t) :
    t = { s with keyboardOwner := none } := by
  induction n generalizing t with
  | zero =>
      obtain ⟨u, rfl, returns⟩ := calls
      exact (returns_dead focus dead).mp returns
  | succ n ih =>
      obtain ⟨u, before, passes, returned⟩ := calls
      cases ih before
      exact (Option.some.inj returned).symm

theorem calls_exist (each : ∀ t, Alike s t → ∃ u, Returns t u) (focus : s.keyboardOwner = some f)
    (live : s.Live f) (n : Nat) : ∃ t, Calls n s t := by
  induction n with
  | zero => exact ⟨s, rfl⟩
  | succ n ih =>
      obtain ⟨t, before⟩ := ih
      obtain ⟨u, returns⟩ := each t (calls_alike focus live before)
      exact ⟨u, t, before, returns⟩

theorem calls_exist_dead (focus : s.keyboardOwner = some f) (dead : ¬s.Live f) (n : Nat) :
    ∃ t, Calls n s t := by
  have forgets : Returns s { s with keyboardOwner := none } := (returns_dead focus dead).mpr rfl
  have stays : Returns { s with keyboardOwner := none } { s with keyboardOwner := none } :=
    ⟨0, rfl⟩
  cases n with
  | zero => exact ⟨s, rfl⟩
  | succ n =>
      refine ⟨{ s with keyboardOwner := none }, ?_⟩
      induction n with
      | zero => exact ⟨s, rfl, forgets⟩
      | succ n ih => exact ⟨_, ih, stays⟩

theorem focusable_of_still {place : Nat} (once : list.Nodup) (some_child : s.focusable list ≠ [])
    (first : some f = (s.focusable list)[(place + 1) % (s.focusable list).length]?)
    (second : some f = (s.focusable list)[(place + 2) % (s.focusable list).length]?) :
    s.focusable list = [f] := by
  have positive : 0 < (s.focusable list).length := List.length_pos_iff.mpr some_child
  have distinct : (s.focusable list).Nodup := once.filter _
  have one := Nat.mod_lt (place + 1) positive
  have two := Nat.mod_lt (place + 2) positive
  rw [List.getElem?_eq_getElem one, Option.some.injEq] at first
  rw [List.getElem?_eq_getElem two, Option.some.injEq] at second
  have same := (List.Nodup.getElem_inj_iff distinct).mp (first.symm.trans second)
  have length : (s.focusable list).length = 1 := by
    -- Two places in a row are the same one.
    have step : Nat.ModEq (s.focusable list).length (place + 1 + 0) (place + 1 + 1) := same
    have none := Nat.ModEq.add_left_cancel' (place + 1) step
    exact Nat.dvd_one.mp (Nat.modEq_zero_iff_dvd.mp none.symm)
  obtain ⟨c, whole⟩ := List.length_eq_one_iff.mp length
  have here : f ∈ s.focusable list := by
    rw [first]
    exact List.getElem_mem one
  rw [whole] at here ⊢
  rw [List.mem_singleton.mp here]

theorem Settled.returns (settled : Settled s list f) (children : Children s parent list)
    (member : f ∈ list) (focus : s.keyboardOwner = some f) (live : s.Live f) (alike : Alike s t) :
    ∃ u, Returns t u := by
  have focus' := alike.owner.trans focus
  have live' := (alike.live f).mpr live
  have none_other : ∀ c ∈ t.focusable list, c = f := by
    intro c inside
    rw [alike.focusable] at inside
    obtain ⟨none, -⟩ | ⟨one, -⟩ := settled
    · rw [none] at inside
      cases inside
    · rw [one] at inside
      exact List.mem_singleton.mp inside
  by_cases type : (t.window f).type = .overlapped
  · exact ⟨t, returns_overlapped focus' live' type⟩
  · apply (returns_iff (children.alike alike) member focus' live' type none_other).mpr
    rw [alike.intact]
    obtain ⟨-, dead | overlapped | intact⟩ | ⟨-, -, intact⟩ := settled
    · exact absurd live dead
    · rw [(alike.fields f).2.2.1] at type
      exact absurd overlapped type
    · exact intact
    · exact intact

/-- Focus cycling works where there is nothing to cycle through. -/
theorem cycle_iff (s : Server) (parent : Nat) (list : List Nat) (f : Nat)
    (children : Children s parent list) (member : f ∈ list) (focus : s.keyboardOwner = some f) :
    Cycles s (s.focusable list) ↔ Settled s list f := by
  by_cases live : s.Live f
  · constructor
    · rintro ⟨returns, moves⟩
      obtain ⟨t₁, first⟩ := returns 1
      obtain ⟨t₂, second⟩ := returns 2
      obtain ⟨u, start, returned⟩ := first
      cases start
      have intact : (s.window f).type ≠ .overlapped → (∀ c ∈ s.focusable list, c = f) →
          Intact s list f := fun type none_other =>
        (returns_iff children member focus live type none_other).mp ⟨t₁, returned⟩
      by_cases none : s.focusable list = []
      · refine Or.inl ⟨none, ?_⟩
        by_cases type : (s.window f).type = .overlapped
        · exact Or.inr (Or.inl type)
        · refine Or.inr (Or.inr (intact type fun c inside => ?_))
          rw [none] at inside
          cases inside
      · obtain ⟨place, moves⟩ := moves none
        -- The focus never leaves f, so a cycle has one place only.
        have one := moves 1 t₁ ⟨s, rfl, returned⟩ (Or.inl Nat.one_pos)
        have two := moves 2 t₂ second (Or.inl Nat.two_pos)
        rw [(returns_alike focus live returned).owner, focus] at one
        rw [(calls_alike focus live second).owner, focus] at two
        have whole := focusable_of_still (linked_nodup children.linked) none one two
        have takes := (mem_focusable.mp (whole ▸ List.mem_singleton_self f)).2.2
        have type : (s.window f).type ≠ .overlapped := by
          intro same
          rw [same] at takes
          exact absurd takes (by decide)
        refine Or.inr ⟨whole, live, intact type fun c inside => ?_⟩
        rw [whole] at inside
        exact List.mem_singleton.mp inside
    · -- With one child the place that the focus is to have is always the same.
      intro settled
      refine ⟨calls_exist (fun t alike => settled.returns children member focus live alike)
        focus live, fun some_child => ?_⟩
      obtain ⟨none, -⟩ | ⟨one, -⟩ := settled
      · exact absurd none some_child
      · refine ⟨0, fun n t calls _ => ?_⟩
        rw [(calls_alike focus live calls).owner, focus, one, List.length_singleton, Nat.mod_one]
        rfl
  · constructor
    · rintro ⟨returns, moves⟩
      refine Or.inl ⟨?_, Or.inl live⟩
      by_contra some_child
      obtain ⟨place, moves⟩ := moves some_child
      obtain ⟨t, calls⟩ := returns 1
      have owner := moves 1 t calls (Or.inl Nat.one_pos)
      cases calls_dead focus live calls
      have inside := Nat.mod_lt (place + 1) (List.length_pos_iff.mpr some_child)
      rw [List.getElem?_eq_getElem inside] at owner
      cases owner
    · rintro (⟨none, -⟩ | ⟨-, alive, -⟩)
      · exact ⟨calls_exist_dead focus live, fun some_child => absurd none some_child⟩
      · exact absurd alive live

end Repeated

/-- A frame at 0 with buttons at the other addresses, the list in this order. -/
def frame (list : List Nat) (focus : Nat) : Server where
  window w :=
    if w = 0 then
      ⟨true, 1234, .overlapped, 0, none, none, list.head?⟩
    else
      ⟨true, 1234, .button, BS_DEFAULT, some 0, (list.drop (list.idxOf w + 1)).head?, none⟩
  keyboardOwner := some focus

/-- The frame with a button at 1 and a status bar at 2, which takes no focus. -/
def withStatusBar : Server where
  window w :=
    if w = 2 then { (frame [1, 2] 1).window 2 with type := .statusbar }
    else (frame [1, 2] 1).window w
  keyboardOwner := some 1

/-- The only button keeps the focus, whatever stands beside it. -/
theorem single_cycles : Cycles withStatusBar (withStatusBar.focusable [1, 2]) := by
  have children : Children withStatusBar 0 [1, 2] := by
    refine ⟨⟨rfl, rfl⟩, rfl, ⟨rfl, rfl, rfl⟩, fun c member => ?_⟩
    obtain rfl | rfl : c = 1 ∨ c = 2 := by simpa using member
    · rfl
    · rfl
  refine (cycle_iff withStatusBar 0 [1, 2] 1 children List.mem_cons_self rfl).mpr
    (Or.inr ⟨by decide, ⟨rfl, rfl⟩, fun c member other => ?_⟩)
  obtain rfl : c = 2 := by simpa [other] using member
  rfl

/-- Of two buttons the second one never gets the focus. -/
theorem second_never : ¬Cycles (frame [1, 2] 1) ((frame [1, 2] 1).focusable [1, 2]) := by
  have pair : (frame [1, 2] 1).focusable [1, 2] = [1, 2] := by decide
  have live : (frame [1, 2] 1).Live 1 := ⟨rfl, rfl⟩
  rintro ⟨returns, moves⟩
  rw [pair] at moves
  obtain ⟨place, moves⟩ := moves (List.cons_ne_nil 1 [2])
  obtain ⟨t₁, first⟩ := returns 1
  obtain ⟨t₂, second⟩ := returns 2
  have one := moves 1 t₁ first (Or.inl Nat.one_pos)
  have two := moves 2 t₂ second (Or.inl Nat.two_pos)
  rw [(calls_alike rfl live first).owner] at one
  rw [(calls_alike rfl live second).owner] at two
  have whole := @focusable_of_still (frame [1, 2] 1) 1 [1, 2] place (by decide)
    (pair ▸ List.cons_ne_nil 1 [2]) (pair ▸ one) (pair ▸ two)
  exact absurd (pair.symm.trans whole) (by decide)

end Gramado.Winsys.FocusCycle
