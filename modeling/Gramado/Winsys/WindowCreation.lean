/-
What a window gets when its frame is made: new windows that are not stacked, most of them
with an id of their own. `Extends` keeps account of them from the state before the frame
on; each step of the creation is one rule.
-/
import Gramado.Winsys.WindowList
import Mathlib.Data.Fintype.Card

namespace Gramado.Winsys.Windows

open Gramado.Ke
open Gramado.Lib.Fallible
open Gramado.Lib.Pointers
open Function

section Registering

variable {s : Server} {w v : Nat} {i j : Fin WINDOW_COUNT_MAX}

/-- How many slots of the table are in use. -/
def Server.taken (s : Server) : Nat :=
  (Finset.univ.filter fun i => (s.windowList i).isSome).card

/-- The id of the window is the slot that names it. -/
def Server.Filed (s : Server) (w : Nat) : Prop :=
  ∃ i : Fin WINDOW_COUNT_MAX, s.windowList i = some w ∧ (s.window w).id = Int32.ofNat i

/-- Registration puts the window in a free slot. -/
def Server.file (s : Server) (i : Fin WINDOW_COUNT_MAX) (w : Nat) : Server :=
  ({ s with
    windowsCount := s.windowsCount + 1
    windowList := update s.windowList i (some w) }).set w fun window =>
      { window with id := Int32.ofNat i }

theorem free_slot (room : s.taken < WINDOW_COUNT_MAX) : ∃ i, s.windowList i = none := by
  by_contra full
  have all : (Finset.univ.filter fun i => (s.windowList i).isSome) = Finset.univ := by
    apply Finset.filter_true_of_mem
    intro i _
    rw [Option.isSome_iff_ne_none]
    exact fun none => full ⟨i, none⟩
  rw [Server.taken, all, Finset.card_univ, Fintype.card_fin] at room
  exact Nat.lt_irrefl _ room

/-- A registration counts, and fills the first free slot if there is one and the counter
    is still low. -/
theorem register_cases (s : Server) (w : Nat) :
    ((s.windowsCount + 1 ≥ WINDOW_COUNT_MAX ∨ ∀ i, s.windowList i ≠ none) ∧
      registerWindow s (some w) = (-1, { s with windowsCount := s.windowsCount + 1 })) ∨
    ∃ i, s.windowList i = none ∧ registerWindow s (some w) = (Int32.ofNat i, s.file i w) := by
  unfold registerWindow
  dsimp only
  by_cases many : s.windowsCount + 1 ≥ WINDOW_COUNT_MAX
  · rw [if_pos many]
    exact Or.inl ⟨Or.inl many, rfl⟩
  · rw [if_neg many]
    cases found : (List.finRange WINDOW_COUNT_MAX).find? fun i => (s.windowList i).isNone with
    | none =>
        rw [List.find?_eq_none] at found
        refine Or.inl ⟨Or.inr ?_, rfl⟩
        intro i free
        have taken := found i (List.mem_finRange i)
        rw [free] at taken
        exact taken rfl
    | some i =>
        have free := List.find?_some found
        exact Or.inr ⟨i, Option.isNone_iff_eq_none.mp free, rfl⟩

theorem id_nonneg (i : Fin WINDOW_COUNT_MAX) : ¬Int32.ofNat i < 0 := by
  have small : i.val < 1024 := i.isLt
  rw [Int32.lt_iff_toInt_lt, Int32.toInt_ofNat_of_lt (by omega)]
  simp

theorem file_listed (free : s.windowList i = none) (named : s.windowList j = some v) :
    (s.file i w).windowList j = some v := by
  have other : j ≠ i := by
    rintro rfl
    rw [free] at named
    cases named
  rw [Server.file, set_windowList]
  dsimp only
  rw [update_of_ne other, named]

theorem file_named (named : (s.file i w).windowList j = some v) :
    s.windowList j = some v ∨ (j = i ∧ v = w) := by
  rw [Server.file, set_windowList] at named
  dsimp only at named
  by_cases same : j = i
  · subst same
    rw [update_self, Option.some.injEq] at named
    exact Or.inr ⟨rfl, named.symm⟩
  · rw [update_of_ne same] at named
    exact Or.inl named

theorem file_here : (s.file i w).windowList i = some w := by
  rw [Server.file, set_windowList]
  exact update_self ..

theorem file_window_of_ne (other : v ≠ w) : (s.file i w).window v = s.window v := by
  rw [Server.file, set_window_of_ne other]

theorem file_window : (s.file i w).window w = { s.window w with id := Int32.ofNat i } := by
  rw [Server.file, set_window_self]

theorem file_taken : (s.file i w).taken ≤ s.taken + 1 := by
  unfold Server.taken
  have inside : (Finset.univ.filter fun j => ((s.file i w).windowList j).isSome) ⊆
      insert i (Finset.univ.filter fun j => (s.windowList j).isSome) := by
    intro j member
    rw [Finset.mem_filter] at member
    rw [Finset.mem_insert, Finset.mem_filter]
    rcases Option.isSome_iff_exists.mp member.2 with ⟨v, named⟩
    rcases file_named named with old | ⟨same, -⟩
    · exact Or.inr ⟨Finset.mem_univ j, by rw [old]; rfl⟩
    · exact Or.inl same
  exact (Finset.card_le_card inside).trans (Finset.card_insert_le _ _)

theorem file_alike (v : Nat) : (s.file i w).window v =
    { s.window v with id := ((s.file i w).window v).id } := by
  by_cases same : v = w
  · subst same
    rw [file_window]
  · rw [file_window_of_ne same]

theorem file_next : (s.file i w).next = s.next := by
  funext v
  rw [Server.next, file_alike, Server.next]

theorem file_live (v : Nat) : (s.file i w).Live v ↔ s.Live v := by
  rw [Server.Live, file_alike]
  exact Iff.rfl

theorem file_overlapped (v : Nat) : (s.file i w).Overlapped v ↔ s.Overlapped v := by
  rw [Server.Overlapped, Server.Live, file_alike]
  exact Iff.rfl

theorem entry_ofNat (i : Fin WINDOW_COUNT_MAX) : s.entry (Int32.ofNat i) = s.windowList i := by
  have small : i.val < 1024 := i.isLt
  have same : (Int32.ofNat i).toNatClampNeg = i := Int32.toNatClampNeg_ofNat_of_lt (by omega)
  unfold Server.entry
  rw [dif_pos (by rw [same]; exact i.isLt), if_neg (id_nonneg i)]
  exact congrArg s.windowList (Fin.ext same)

end Registering

section Parts

/-- A part of a frame: it is in use, not stacked, and so is what it is a part of. -/
structure Server.Part (s : Server) (v : Nat) : Prop where
  live : s.Live v
  type : (s.window v).type ≠ .overlapped
  next : (s.window v).next = none
  titlebar : (s.window v).titlebar = none
  parent : ∃ p, (s.window v).parent = some p ∧ s.Live p

/-- The id, if it is one, is and stays that of a button in a title bar. -/
def Server.Button (s : Server) (wid : Int32) : Prop :=
  wid = -1 ∨ ∃ (i : Fin WINDOW_COUNT_MAX) (x : Nat), wid = Int32.ofNat i ∧
    s.windowList i = some x ∧ (s.window x).isControl = true ∧ (s.window x).type ≠ .overlapped

def Server.Buttons (s : Server) (controls : Controls) : Prop :=
  s.Button controls.minimizeWid ∧ s.Button controls.maximizeWid ∧ s.Button controls.closeWid

variable {s t : Server} {v : Nat} {controls : Controls}

theorem Server.Part.mono (part : s.Part v) (live : ∀ p, s.Live p → t.Live p)
    (same : t.window v = s.window v) : t.Part v where
  live := live v part.live
  type := same ▸ part.type
  next := same ▸ part.next
  titlebar := same ▸ part.titlebar
  parent := by
    rcases part.parent with ⟨p, parent, alive⟩
    exact ⟨p, same ▸ parent, live p alive⟩

theorem Server.Buttons.mono (buttons : s.Buttons controls)
    (kept : ∀ i x, s.windowList i = some x → (s.window x).isControl = true →
      t.windowList i = some x ∧ (t.window x).isControl = true ∧
        (t.window x).type = (s.window x).type) : t.Buttons controls := by
  have each : ∀ wid, s.Button wid → t.Button wid := by
    rintro wid (none | ⟨i, x, wid, named, control, type⟩)
    · exact Or.inl none
    · rcases kept i x named control with ⟨named', control', type'⟩
      exact Or.inr ⟨i, x, wid, named', control', type' ▸ type⟩
  exact ⟨each _ buttons.1, each _ buttons.2.1, each _ buttons.2.2⟩

end Parts

/-- The window gets its frame: it has none yet, and what is not made is not known. -/
structure Framed (s : Server) (own : Nat) : Prop where
  below : own < s.made
  live : s.Live own
  titlebar : (s.window own).titlebar = none
  listed : ∀ i v, s.windowList i = some v → v < s.made
  fresh : ∀ v, s.made ≤ v → ¬s.Live v

/-- There is room for so many more windows. -/
def Server.Ample (s : Server) (limit : Nat) : Prop :=
  s.taken ≤ s.windowsCount ∧ s.windowsCount + limit < WINDOW_COUNT_MAX

/-- The server with the parts that were made for the frame of `own` up to now. The
    pending ones are not registered yet. -/
structure Extends (limit own : Nat) (pending : List Nat) (attempts : Nat)
    (s t : Server) : Prop where
  manager : t.manager = s.manager
  made : s.made ≤ t.made
  old : ∀ v, v < s.made → v ≠ own → t.window v = s.window v
  base : t.window own = { s.window own with titlebar := (t.window own).titlebar }
  new : ∀ v, s.made ≤ v → t.window v = s.window v ∨ (v < t.made ∧ t.Part v)
  waiting : ∀ v ∈ pending, s.made ≤ v ∧ v < t.made ∧ t.Part v
  kept : ∀ i v, s.windowList i = some v → t.windowList i = some v
  listed : ∀ i v, t.windowList i = some v → s.windowList i = some v ∨
    (s.made ≤ v ∧ v < t.made ∧ t.Part v ∧ v ∉ pending)
  once : ∀ i j v, s.made ≤ v → t.windowList i = some v → t.windowList j = some v → i = j
  bar : ∀ tb, (t.window own).titlebar = some tb →
    s.made ≤ tb ∧ tb < t.made ∧ t.Part tb ∧ t.Buttons (t.window tb).controls
  counted : s.Ample limit → t.taken ≤ t.windowsCount ∧ t.windowsCount ≤ s.windowsCount + attempts
  filed : s.Ample limit → ∀ v, s.made ≤ v → t.Live v → v ∉ pending → t.Filed v

/-- What a step of the creation leaves: the parts that it does not change. -/
structure Spares (changed : Nat → Prop) (t u : Server) : Prop where
  manager : u.manager = t.manager
  made : t.made ≤ u.made
  window : ∀ v, ¬changed v → u.window v = t.window v
  live : ∀ v, t.Live v → u.Live v
  kept : ∀ i v, t.windowList i = some v → u.windowList i = some v

section Sparing

variable {changed : Nat → Prop} {s t u : Server} {limit own v : Nat} {pending : List Nat}
  {attempts : Nat}

theorem Spares.part (spares : Spares changed t u)
    (unchanged : ¬changed v) (part : t.Part v) : u.Part v :=
  part.mono spares.live (spares.window v unchanged)

/-- The title bar stays as it was made, if its buttons are not changed. -/
theorem Spares.bar (spares : Spares changed t u)
    (extension : Extends limit own pending attempts s t) (unchanged : ¬changed own)
    (bars : ∀ tb, (t.window own).titlebar = some tb → ¬changed tb)
    (controls : ∀ i x, t.windowList i = some x → changed x →
      (u.window x).isControl = (t.window x).isControl ∧ (u.window x).type = (t.window x).type) :
    ∀ tb, (u.window own).titlebar = some tb →
      s.made ≤ tb ∧ tb < u.made ∧ u.Part tb ∧ u.Buttons (u.window tb).controls := by
  intro tb bar
  rw [spares.window own unchanged] at bar
  rcases extension.bar tb bar with ⟨beyond, below, part, buttons⟩
  refine ⟨beyond, below.trans_le spares.made, spares.part (bars tb bar) part, ?_⟩
  rw [spares.window tb (bars tb bar)]
  apply buttons.mono
  intro i x named control
  refine ⟨spares.kept i x named, ?_⟩
  by_cases touched : changed x
  · rcases controls i x named touched with ⟨same, type⟩
    exact ⟨same.trans control, type⟩
  · rw [spares.window x touched]
    exact ⟨control, rfl⟩

end Sparing

namespace Extends

variable {s t : Server} {limit own v : Nat} {pending : List Nat} {attempts : Nat}

theorem refl (framed : Framed s own) : Extends limit own [] 0 s s where
  manager := rfl
  made := Nat.le_refl _
  old := fun _ _ _ => rfl
  base := rfl
  new := fun _ _ => Or.inl rfl
  waiting := fun v member => nomatch member
  kept := fun _ _ named => named
  listed := fun _ _ named => Or.inl named
  once := fun i j v beyond named _ =>
    absurd (framed.listed i v named) (Nat.not_lt.mpr beyond)
  bar := by
    intro tb bar
    rw [framed.titlebar] at bar
    cases bar
  counted := fun ample => ⟨ample.1, Nat.le_refl _⟩
  filed := fun _ v beyond live _ => absurd live (framed.fresh v beyond)

theorem mono {more : Nat} (extension : Extends limit own pending attempts s t)
    (le : attempts ≤ more) :
    Extends limit own pending more s t :=
  { extension with
    counted := fun ample => ⟨(extension.counted ample).1,
      (extension.counted ample).2.trans (Nat.add_le_add_left le _)⟩ }

theorem live_own (extension : Extends limit own pending attempts s t) (framed : Framed s own) :
    t.Live own := by
  rw [Server.Live, extension.base]
  exact framed.live

theorem not_made (extension : Extends limit own pending attempts s t) (framed : Framed s own)
    (beyond : t.made ≤ v) : ¬t.Live v := by
  rcases extension.new v (extension.made.trans beyond) with same | ⟨below, -⟩
  · rw [Server.Live, same]
    exact framed.fresh v (extension.made.trans beyond)
  · exact absurd below (Nat.not_lt.mpr beyond)

theorem entry_below (extension : Extends limit own pending attempts s t) (framed : Framed s own)
    {i : Fin WINDOW_COUNT_MAX} (named : t.windowList i = some v) : v < t.made := by
  rcases extension.listed i v named with old | ⟨-, below, -⟩
  · exact (framed.listed i v old).trans_le extension.made
  · exact below

theorem skip (extension : Extends limit own pending attempts s t) :
    Extends limit own pending attempts s { t with made := t.made + 1 } where
  manager := extension.manager
  made := Nat.le_succ_of_le extension.made
  old := extension.old
  base := extension.base
  new := by
    intro v beyond
    rcases extension.new v beyond with same | ⟨below, part⟩
    · exact Or.inl same
    · exact Or.inr ⟨Nat.lt_succ_of_lt below, part.mono (fun _ live => live) rfl⟩
  waiting := by
    intro v member
    rcases extension.waiting v member with ⟨beyond, below, part⟩
    exact ⟨beyond, Nat.lt_succ_of_lt below, part.mono (fun _ live => live) rfl⟩
  kept := extension.kept
  listed := by
    intro i v named
    rcases extension.listed i v named with old | ⟨beyond, below, part, absent⟩
    · exact Or.inl old
    · exact Or.inr ⟨beyond, Nat.lt_succ_of_lt below, part.mono (fun _ live => live) rfl, absent⟩
  once := extension.once
  bar := by
    intro tb bar
    rcases extension.bar tb bar with ⟨beyond, below, part, buttons⟩
    exact ⟨beyond, Nat.lt_succ_of_lt below, part.mono (fun _ live => live) rfl,
      buttons.mono fun i x named control => ⟨named, control, rfl⟩⟩
  counted := extension.counted
  filed := extension.filed

theorem make (extension : Extends limit own pending attempts s t) (framed : Framed s own)
    {new : Window} (part : new.used = true ∧ new.magic = 1234 ∧ new.type ≠ .overlapped ∧
      new.next = none ∧ new.titlebar = none ∧ ∃ p, new.parent = some p ∧ t.Live p) :
    Extends limit own (t.made :: pending) attempts s
      ({ t with made := t.made + 1 }.set t.made fun _ => new) := by
  -- The window behind the last one is in no list, and nothing points to it.
  have unmade := extension.not_made framed (Nat.le_refl t.made)
  have spares : Spares (· = t.made) t
      ({ t with made := t.made + 1 }.set t.made fun _ => new) := by
    refine ⟨rfl, Nat.le_succ _, fun v apart => set_window_of_ne apart, ?_, fun _ _ named => named⟩
    intro v live
    have apart : v ≠ t.made := by
      rintro rfl
      exact unmade live
    rw [Server.Live, set_window_of_ne apart]
    exact live
  have here : ({ t with made := t.made + 1 }.set t.made fun _ => new).window t.made = new :=
    set_window_self
  have made : ({ t with made := t.made + 1 }.set t.made fun _ => new).made = t.made + 1 := rfl
  have list : ({ t with made := t.made + 1 }.set t.made fun _ => new).windowList =
      t.windowList := rfl
  have count : ({ t with made := t.made + 1 }.set t.made fun _ => new).windowsCount =
      t.windowsCount := rfl
  -- From here on only what the new window is and what was left alone counts.
  generalize ({ t with made := t.made + 1 }.set t.made fun _ => new) = u
    at spares here made list count
  rcases part with ⟨used, magic, type, next, titlebar, p, parent, alive⟩
  have fresh : u.Part t.made := by
    constructor
    · rw [Server.Live, here]
      exact ⟨used, magic⟩
    · rwa [here]
    · rwa [here]
    · rwa [here]
    · exact ⟨p, by rwa [here], spares.live p alive⟩
  have below_ne : ∀ {v}, v < t.made → v ≠ t.made := fun below => Nat.ne_of_lt below
  constructor
  · rw [spares.manager, extension.manager]
  · exact extension.made.trans spares.made
  · intro v below apart
    rw [spares.window v (below_ne (below.trans_le extension.made)), extension.old v below apart]
  · rw [spares.window own (below_ne (framed.below.trans_le extension.made))]
    exact extension.base
  · intro v beyond
    by_cases same : v = t.made
    · subst same
      exact Or.inr ⟨made ▸ Nat.lt_succ_self _, fresh⟩
    · rw [spares.window v same]
      rcases extension.new v beyond with old | ⟨below, part⟩
      · exact Or.inl old
      · exact Or.inr ⟨below.trans_le spares.made, spares.part same part⟩
  · intro v member
    rcases List.mem_cons.mp member with rfl | before
    · exact ⟨extension.made, made ▸ Nat.lt_succ_self _, fresh⟩
    · rcases extension.waiting v before with ⟨beyond, below, part⟩
      exact ⟨beyond, below.trans_le spares.made, spares.part (below_ne below) part⟩
  · intro i v named
    exact spares.kept i v (extension.kept i v named)
  · intro i v named
    rw [list] at named
    rcases extension.listed i v named with old | ⟨beyond, below, part, absent⟩
    · exact Or.inl old
    · refine Or.inr ⟨beyond, below.trans_le spares.made, spares.part (below_ne below) part, ?_⟩
      rw [List.mem_cons, not_or]
      exact ⟨below_ne below, absent⟩
  · rw [list]
    exact extension.once
  · refine spares.bar extension (below_ne (framed.below.trans_le extension.made)) ?_ ?_
    · intro tb bar
      exact below_ne (extension.bar tb bar).2.1
    · rintro i x named rfl
      exact absurd (extension.entry_below framed named) (Nat.lt_irrefl _)
  · intro ample
    rw [Server.taken, list, count]
    exact extension.counted ample
  · -- Who does not wait has its entry, which the new window waits for.
    intro ample v beyond live absent
    rw [List.mem_cons, not_or] at absent
    rw [Server.Live, spares.window v absent.1] at live
    rcases extension.filed ample v beyond live absent.2 with ⟨i, named, id⟩
    exact ⟨i, spares.kept i v named, by rw [spares.window v absent.1, id]⟩

theorem change (extension : Extends limit own pending attempts s t) (framed : Framed s own)
    (waits : v ∈ pending) (unused : (t.window own).titlebar ≠ some v)
    (alter : Window → Window)
    (alike : ∀ x, (alter x).used = x.used ∧ (alter x).magic = x.magic ∧
      (alter x).next = x.next ∧ (alter x).titlebar = x.titlebar ∧ (alter x).parent = x.parent)
    (type : (alter (t.window v)).type ≠ .overlapped) :
    Extends limit own pending attempts s (t.set v alter) := by
  rcases extension.waiting v waits with ⟨beyond, below, part⟩
  rcases alike (t.window v) with ⟨used, magic, next, titlebar, parent⟩
  have spares : Spares (· = v) t (t.set v alter) := by
    refine ⟨rfl, Nat.le_refl _, fun _ apart => set_window_of_ne apart, ?_, fun _ _ named => named⟩
    intro x live
    by_cases same : x = v
    · subst same
      rw [Server.Live, set_window_self, used, magic]
      exact live
    · rw [Server.Live, set_window_of_ne same]
      exact live
  have here : (t.set v alter).window v = alter (t.window v) := set_window_self
  have altered : (t.set v alter).Part v := by
    constructor
    · exact spares.live v part.live
    · rwa [here]
    · rw [here, next, part.next]
    · rw [here, titlebar, part.titlebar]
    · rcases part.parent with ⟨p, named, alive⟩
      exact ⟨p, by rw [here, parent, named], spares.live p alive⟩
  have kept : ∀ x, t.Part x → (t.set v alter).Part x := by
    intro x part
    by_cases same : x = v
    · exact same ▸ altered
    · exact spares.part same part
  have apart : own ≠ v := Nat.ne_of_lt (framed.below.trans_le beyond)
  -- It waits, so no entry of the list names it.
  have unlisted : ∀ i, t.windowList i ≠ some v := by
    intro i named
    rcases extension.listed i v named with old | ⟨-, -, -, absent⟩
    · exact absurd (framed.listed i v old) (Nat.not_lt.mpr beyond)
    · exact absent waits
  constructor
  · exact extension.manager
  · exact extension.made
  · intro x early other
    rw [spares.window x (Nat.ne_of_lt (early.trans_le beyond))]
    exact extension.old x early other
  · rw [spares.window own apart]
    exact extension.base
  · intro x late
    by_cases same : x = v
    · exact Or.inr ⟨same ▸ below, same ▸ altered⟩
    · rw [spares.window x same]
      rcases extension.new x late with old | ⟨inside, part⟩
      · exact Or.inl old
      · exact Or.inr ⟨inside, kept x part⟩
  · intro x member
    rcases extension.waiting x member with ⟨late, inside, part⟩
    exact ⟨late, inside, kept x part⟩
  · exact extension.kept
  · intro i x named
    rcases extension.listed i x named with old | ⟨late, inside, part, absent⟩
    · exact Or.inl old
    · exact Or.inr ⟨late, inside, kept x part, absent⟩
  · exact extension.once
  · -- The title bar itself is not the one that is changed, and its buttons are listed.
    refine spares.bar extension apart ?_ ?_
    · rintro tb bar rfl
      exact unused bar
    · rintro i x named rfl
      exact absurd named (unlisted i)
  · exact extension.counted
  · intro ample x late live absent
    have other : x ≠ v := by
      rintro rfl
      exact absent waits
    rw [Server.Live, spares.window x other] at live
    rcases extension.filed ample x late live absent with ⟨i, named, id⟩
    exact ⟨i, named, by rw [spares.window x other, id]⟩

theorem unregistered (extension : Extends limit own (v :: pending) attempts s t)
    (few : attempts < limit)
    (full : t.windowsCount + 1 ≥ WINDOW_COUNT_MAX ∨ ∀ i, t.windowList i ≠ none) :
    Extends limit own pending (attempts + 1) s { t with windowsCount := t.windowsCount + 1 } := by
  have short : ¬s.Ample limit := by
    intro ample
    rcases extension.counted ample with ⟨taken, count⟩
    have room := ample.2
    rcases full with many | none_free
    · omega
    · rcases free_slot (show t.taken < WINDOW_COUNT_MAX by omega) with ⟨i, free⟩
      exact none_free i free
  have same : ∀ x, t.Part x → ({ t with windowsCount := t.windowsCount + 1 } : Server).Part x :=
    fun x part => part.mono (fun _ live => live) rfl
  constructor
  · exact extension.manager
  · exact extension.made
  · exact extension.old
  · exact extension.base
  · intro x late
    rcases extension.new x late with old | ⟨inside, part⟩
    · exact Or.inl old
    · exact Or.inr ⟨inside, same x part⟩
  · intro x member
    rcases extension.waiting x (List.mem_cons_of_mem v member) with ⟨late, inside, part⟩
    exact ⟨late, inside, same x part⟩
  · exact extension.kept
  · intro i x named
    rcases extension.listed i x named with old | ⟨late, inside, part, absent⟩
    · exact Or.inl old
    · exact Or.inr ⟨late, inside, same x part, fun member => absent (List.mem_cons_of_mem v member)⟩
  · exact extension.once
  · intro tb bar
    rcases extension.bar tb bar with ⟨late, inside, part, buttons⟩
    exact ⟨late, inside, same tb part, buttons.mono fun i x named control => ⟨named, control, rfl⟩⟩
  · exact fun ample => absurd ample short
  · exact fun ample => absurd ample short

theorem file (extension : Extends limit own (v :: pending) attempts s t) (framed : Framed s own)
    (once : v ∉ pending) {i : Fin WINDOW_COUNT_MAX} (free : t.windowList i = none) :
    Extends limit own pending (attempts + 1) s (t.file i v) := by
  rcases extension.waiting v List.mem_cons_self with ⟨beyond, below, part⟩
  have alive : ∀ x, t.Live x → (t.file i v).Live x := by
    intro x live
    by_cases same : x = v
    · subst same
      rw [Server.Live, file_window]
      exact live
    · rw [Server.Live, file_window_of_ne same]
      exact live
  have spares : Spares (· = v) t (t.file i v) :=
    ⟨rfl, Nat.le_refl _, fun _ other => file_window_of_ne other, alive,
      fun _ _ named => file_listed free named⟩
  have here : (t.file i v).Part v := by
    rcases part with ⟨live, type, next, titlebar, p, parent, parent_alive⟩
    constructor
    · exact alive v live
    · rwa [file_window]
    · rwa [file_window]
    · rwa [file_window]
    · exact ⟨p, by rwa [file_window], alive p parent_alive⟩
  have kept : ∀ x, t.Part x → (t.file i v).Part x := by
    intro x part
    by_cases same : x = v
    · exact same ▸ here
    · exact spares.part same part
  have apart : own ≠ v := Nat.ne_of_lt (framed.below.trans_le beyond)
  -- It waited, so no entry of the list names it yet.
  have unlisted : ∀ j, t.windowList j ≠ some v := by
    intro j named
    rcases extension.listed j v named with old | ⟨-, -, -, absent⟩
    · exact absurd (framed.listed j v old) (Nat.not_lt.mpr beyond)
    · exact absent List.mem_cons_self
  constructor
  · exact extension.manager
  · exact extension.made
  · intro x early other
    rw [spares.window x (Nat.ne_of_lt (early.trans_le beyond))]
    exact extension.old x early other
  · rw [spares.window own apart]
    exact extension.base
  · intro x late
    by_cases same : x = v
    · exact Or.inr ⟨same ▸ below, same ▸ here⟩
    · rw [spares.window x same]
      rcases extension.new x late with old | ⟨inside, part⟩
      · exact Or.inl old
      · exact Or.inr ⟨inside, kept x part⟩
  · intro x member
    rcases extension.waiting x (List.mem_cons_of_mem v member) with ⟨late, inside, part⟩
    exact ⟨late, inside, kept x part⟩
  · exact fun j x named => spares.kept j x (extension.kept j x named)
  · intro j x named
    rcases file_named named with before | ⟨-, rfl⟩
    · rcases extension.listed j x before with old | ⟨late, inside, part, absent⟩
      · exact Or.inl old
      · exact Or.inr ⟨late, inside, kept x part,
          fun member => absent (List.mem_cons_of_mem v member)⟩
    · exact Or.inr ⟨beyond, below, here, once⟩
  · -- It was in no slot, and this one was free.
    intro j l x late first second
    rcases file_named first with old₁ | ⟨rfl, rfl⟩
    · rcases file_named second with old₂ | ⟨-, rfl⟩
      · exact extension.once j l x late old₁ old₂
      · exact absurd old₁ (unlisted j)
    · rcases file_named second with old₂ | ⟨rfl, -⟩
      · exact absurd old₂ (unlisted l)
      · rfl
  · intro tb bar
    rw [spares.window own apart] at bar
    rcases extension.bar tb bar with ⟨late, inside, part, buttons⟩
    have controls : ((t.file i v).window tb).controls = (t.window tb).controls := by
      by_cases same : tb = v
      · subst same
        rw [file_window]
      · rw [file_window_of_ne same]
    refine ⟨late, inside, kept tb part, ?_⟩
    rw [controls]
    -- The buttons of the title bar have their entries already.
    apply buttons.mono
    intro j x named control
    have other : x ≠ v := by
      rintro rfl
      exact unlisted j named
    rw [file_window_of_ne other]
    exact ⟨file_listed free named, control, rfl⟩
  · intro ample
    rcases extension.counted ample with ⟨taken, count⟩
    have more := @file_taken t v i
    have counter : (t.file i v).windowsCount = t.windowsCount + 1 := rfl
    omega
  · intro ample x late live absent
    by_cases same : x = v
    · subst same
      exact ⟨i, file_here, by rw [file_window]⟩
    · rw [Server.Live, file_window_of_ne same] at live
      have waits : x ∉ v :: pending := by
        rw [List.mem_cons, not_or]
        exact ⟨same, absent⟩
      rcases extension.filed ample x late live waits with ⟨j, named, id⟩
      exact ⟨j, file_listed free named, by rw [file_window_of_ne same, id]⟩

theorem register (extension : Extends limit own (v :: pending) attempts s t) (framed : Framed s own)
    (once : v ∉ pending) (few : attempts < limit) :
    Extends limit own pending (attempts + 1) s (registerWindow t (some v)).2 := by
  rcases register_cases t v with ⟨full, refused⟩ | ⟨i, free, filed⟩
  · rw [refused]
    exact extension.unregistered few full
  · rw [filed]
    exact extension.file framed once free

end Extends

section Making

variable {s t : Server} {x : Window} {list : List Nat} {limit own tb v w : Nat} {pending : List Nat}
    {attempts : Nat}
  {type : WindowType} {style : UInt64} {state : Int32} {parent : Option Nat}

def add (s : Server) (x : Window) : Server :=
  { s with made := s.made + 1 }.set s.made fun _ => x

theorem add_window_of_ne (other : w ≠ s.made) : (add s x).window w = s.window w :=
  set_window_of_ne other

theorem add_window : (add s x).window s.made = x :=
  set_window_self

theorem listed_add (listed : Listed s list) : Listed (add s x) list := by
  refine ⟨linked_congr ?_ listed.1, fun v member => Nat.lt_succ_of_lt (listed.2 v member)⟩
  intro v member
  rw [Server.next, add_window_of_ne (Nat.ne_of_lt (listed.2 v member)), Server.next]

theorem set_add {change : Window → Window} :
    (add s x).set s.made change = add s (change x) := by
  rw [add, Server.set, Server.set]
  simp only [update_self, update_idem, Server.set, add]

/-- The object that `doCreateAndDrawWindow` makes. -/
def newWindow (canvases : Bool) (type : WindowType) (style : UInt64) (state : Int32)
    (parent : Option Nat) : Window :=
  { Window.blank with
    used := true
    magic := 1234
    type := type
    style := style
    state := state
    id := -1
    parent := parent
    prev := parent
    frameCanvas := canvases
    shflags := canvases }

theorem draw_cases (t : Server) (type : WindowType) (style : UInt64) (state : Int32)
    (parent : Option Nat) :
    drawWindow t type style state parent = (none, { t with made := t.made + 1 }) ∨
    drawWindow t type style state parent = (some t.made, { t with made := t.made + 1 }.set t.made
      fun _ => newWindow (t.canvases style) type style state parent) := by
  unfold drawWindow
  dsimp only
  split
  · exact Or.inl rfl
  · split
    · exact Or.inl rfl
    · exact Or.inr rfl

theorem newWindow_part {canvases : Bool} {p : Nat} (other : type ≠ .overlapped)
    (live : t.Live p) :
    (newWindow canvases type style state (some p)).used = true ∧
      (newWindow canvases type style state (some p)).magic = 1234 ∧
      (newWindow canvases type style state (some p)).type ≠ .overlapped ∧
      (newWindow canvases type style state (some p)).next = none ∧
      (newWindow canvases type style state (some p)).titlebar = none ∧
      ∃ q, (newWindow canvases type style state (some p)).parent = some q ∧ t.Live q :=
  ⟨rfl, rfl, other, rfl, rfl, p, rfl, live⟩

theorem Extends.unlisted (extension : Extends limit own pending attempts s t)
    (framed : Framed s own)
    (waits : v ∈ pending) (i : Fin WINDOW_COUNT_MAX) : t.windowList i ≠ some v := by
  intro named
  rcases extension.listed i v named with old | ⟨-, -, -, absent⟩
  · exact absurd (framed.listed i v old) (Nat.not_lt.mpr (extension.waiting v waits).1)
  · exact absent waits

/-- A change of a pending part is none of the buttons that are there already. -/
theorem Extends.buttons_set (extension : Extends limit own pending attempts s t)
    (framed : Framed s own)
    (waits : v ∈ pending) (alter : Window → Window) {controls : Controls}
    (buttons : t.Buttons controls) : (t.set v alter).Buttons controls := by
  apply buttons.mono
  intro i x named control
  have other : x ≠ v := by
    rintro rfl
    exact extension.unlisted framed waits i named
  rw [set_window_of_ne other]
  exact ⟨named, control, rfl⟩

/-- The state while the buttons of the title bar `tb` are made. -/
structure Furnishing (limit own tb attempts : Nat) (s t : Server) : Prop where
  extension : Extends limit own [tb] attempts s t
  unset : (t.window own).titlebar = none
  buttons : t.Buttons (t.window tb).controls

/-- The marks of the three buttons, and the places of their ids. -/
structure Fitting (mark : Window → Window) (keep : Int32 → Controls → Controls) : Prop where
  alike : ∀ x, (mark x).used = x.used ∧ (mark x).magic = x.magic ∧ (mark x).next = x.next ∧
    (mark x).titlebar = x.titlebar ∧ (mark x).parent = x.parent
  type : ∀ x, (mark x).type = x.type
  control : ∀ x, (mark x).isControl = true
  keeps : ∀ (holds : Int32 → Prop) id controls, holds id → holds controls.minimizeWid →
    holds controls.maximizeWid → holds controls.closeWid →
      holds (keep id controls).minimizeWid ∧ holds (keep id controls).maximizeWid ∧
        holds (keep id controls).closeWid

theorem control_furnishes {mark : Window → Window} {keep : Int32 → Controls → Controls}
    (furnishing : Furnishing limit own tb attempts s t) (framed : Framed s own)
    (few : attempts < limit)
    (fitting : Fitting mark keep) :
    Furnishing limit own tb (attempts + 1) s (doCreateControl t tb mark keep).2 := by
  rcases furnishing with ⟨extension, unset, buttons⟩
  rcases extension.waiting tb List.mem_cons_self with ⟨beyond, below, part⟩
  have early : own < t.made := framed.below.trans_le extension.made
  unfold doCreateControl
  rcases draw_cases t .button 0 1 (some tb) with none | made
  · rw [none]
    exact ⟨extension.skip.mono (Nat.le_succ _), unset,
      buttons.mono fun i x named control => ⟨named, control, rfl⟩⟩
  · rw [made]
    dsimp only
    have first := extension.make framed
      (@newWindow_part t .button 0 1 (t.canvases 0) tb (by decide) part.live)
    have other : tb ≠ t.made := Nat.ne_of_lt below
    have kept : ∀ x, x < t.made →
        ({ t with made := t.made + 1 }.set t.made fun _ =>
          newWindow (t.canvases 0) .button 0 1 (some tb)).window x =
          t.window x := fun x early => set_window_of_ne (Nat.ne_of_lt early)
    have here : ({ t with made := t.made + 1 }.set t.made fun _ =>
        newWindow (t.canvases 0) .button 0 1 (some tb)).window t.made =
          newWindow (t.canvases 0) .button 0 1 (some tb) :=
      set_window_self
    have buttons₁ : ({ t with made := t.made + 1 }.set t.made fun _ =>
        newWindow (t.canvases 0) .button 0 1 (some tb)).Buttons (t.window tb).controls := by
      apply buttons.mono
      intro i x named control
      rw [kept x (extension.entry_below framed named)]
      exact ⟨named, control, rfl⟩
    generalize ({ t with made := t.made + 1 }.set t.made fun _ =>
      newWindow (t.canvases 0) .button 0 1 (some tb)) = t₁ at first kept here buttons₁ ⊢
    -- The button has its mark before it is registered.
    have unset₁ : (t₁.window own).titlebar = none := by rw [kept own early, unset]
    have second := first.change framed List.mem_cons_self (by rw [unset₁]; simp) mark fitting.alike
      (by rw [fitting.type, here]; exact (by decide : WindowType.button ≠ .overlapped))
    have buttons₂ := first.buttons_set framed List.mem_cons_self mark buttons₁
    have marked : ((t₁.set t.made mark).window t.made).isControl = true ∧
        ((t₁.set t.made mark).window t.made).type ≠ .overlapped := by
      rw [set_window_self, fitting.type, here]
      exact ⟨fitting.control _, (by decide : WindowType.button ≠ .overlapped)⟩
    have kept₂ : ∀ x, x < t.made → (t₁.set t.made mark).window x = t.window x := by
      intro x early
      rw [set_window_of_ne (Nat.ne_of_lt early), kept x early]
    generalize t₁.set t.made mark = t₂ at second buttons₂ marked kept₂ ⊢
    rcases register_cases t₂ t.made with ⟨full, refused⟩ | ⟨i, free, filed⟩
    · rw [refused]
      dsimp only
      rw [if_pos (by decide)]
      refine ⟨second.unregistered few full, ?_, ?_⟩
      · exact (congrArg Window.titlebar (kept₂ own early)).trans unset
      · have same : (t₂.window tb).controls = (t.window tb).controls := by rw [kept₂ tb below]
        exact (same ▸ buttons₂).mono fun i x named control => ⟨named, control, rfl⟩
    · rw [filed]
      dsimp only
      rw [if_neg (id_nonneg i)]
      have third := second.file framed (by simpa using Ne.symm other) free
      have kept₃ : ∀ x, x < t.made → (t₂.file i t.made).window x = t.window x := by
        intro x inside
        rw [file_window_of_ne (Nat.ne_of_lt inside), kept₂ x inside]
      have unset₃ : ((t₂.file i t.made).window own).titlebar = none := by
        rw [kept₃ own early, unset]
      have named : (t₂.file i t.made).Button (Int32.ofNat i) := by
        refine Or.inr ⟨i, t.made, rfl, file_here, ?_⟩
        rw [file_window]
        exact marked
      have buttons₃ : (t₂.file i t.made).Buttons (t.window tb).controls := by
        apply buttons₂.mono
        intro j x listed control
        have apart : x ≠ t.made := by
          rintro rfl
          exact second.unlisted framed List.mem_cons_self j listed
        rw [file_window_of_ne apart]
        exact ⟨file_listed free listed, control, rfl⟩
      generalize t₂.file i t.made = t₃ at third kept₃ unset₃ named buttons₃ ⊢
      change Furnishing limit own tb (attempts + 1) s (t₃.set tb fun window =>
        { window with controls := keep (Int32.ofNat i) window.controls })
      refine ⟨?_, ?_, ?_⟩
      · apply third.change framed List.mem_cons_self (by rw [unset₃]; simp)
          (fun window => { window with controls := keep (Int32.ofNat i) window.controls })
        · exact fun x => ⟨rfl, rfl, rfl, rfl, rfl⟩
        · rw [kept₃ tb below]
          exact part.type
      · have apart : own ≠ tb := Nat.ne_of_lt (framed.below.trans_le beyond)
        rw [set_window_of_ne apart, unset₃]
      · rw [set_window_self, kept₃ tb below]
        apply third.buttons_set framed List.mem_cons_self _
        exact fitting.keeps t₃.Button _ _ named buttons₃.1 buttons₃.2.1 buttons₃.2.2

theorem Furnishing.mono {more : Nat} (furnishing : Furnishing limit own tb attempts s t)
    (le : attempts ≤ more) : Furnishing limit own tb more s t :=
  ⟨furnishing.extension.mono le, furnishing.unset, furnishing.buttons⟩

theorem minimize_fits :
    Fitting (fun window => { window with isMinimizeControl := true })
      (fun id controls => { controls with minimizeWid := id }) where
  alike := fun _ => ⟨rfl, rfl, rfl, rfl, rfl⟩
  type := fun _ => rfl
  control := fun _ => rfl
  keeps := fun _ _ _ new _ maximize close => ⟨new, maximize, close⟩

theorem maximize_fits :
    Fitting (fun window => { window with isMaximizeControl := true })
      (fun id controls => { controls with maximizeWid := id }) where
  alike := fun _ => ⟨rfl, rfl, rfl, rfl, rfl⟩
  type := fun _ => rfl
  control := by simp [Window.isControl]
  keeps := fun _ _ _ new minimize _ close => ⟨minimize, new, close⟩

theorem close_fits :
    Fitting (fun window => { window with isCloseControl := true })
      (fun id controls => { controls with closeWid := id }) where
  alike := fun _ => ⟨rfl, rfl, rfl, rfl, rfl⟩
  type := fun _ => rfl
  control := by simp [Window.isControl]
  keeps := fun _ _ _ new minimize maximize _ => ⟨minimize, maximize, new⟩

theorem controls_furnish (extension : Extends limit own [tb] attempts s t) (framed : Framed s own)
    (few : attempts + 2 < limit) (unset : (t.window own).titlebar = none) :
    Furnishing limit own tb (attempts + 3) s (doCreateControls t tb) := by
  rcases extension.waiting tb List.mem_cons_self with ⟨beyond, below, part⟩
  have apart : own ≠ tb := Nat.ne_of_lt (framed.below.trans_le beyond)
  have start : Furnishing limit own tb attempts s
      (t.set tb fun window => { window with controls := ⟨-1, -1, -1⟩ }) := by
    refine ⟨?_, ?_, ?_⟩
    · exact extension.change framed List.mem_cons_self (by rw [unset]; simp) _
        (fun x => ⟨rfl, rfl, rfl, rfl, rfl⟩) part.type
    · rw [set_window_of_ne apart, unset]
    · rw [set_window_self]
      exact ⟨Or.inl rfl, Or.inl rfl, Or.inl rfl⟩
  unfold doCreateControls
  generalize (t.set tb fun window => { window with controls := ⟨-1, -1, -1⟩ }) = t₀ at start ⊢
  have first := control_furnishes start framed (by omega) minimize_fits
  dsimp only
  split
  · exact first.mono (by omega)
  · have second := control_furnishes first framed (by omega) maximize_fits
    split
    · exact second.mono (by omega)
    · exact control_furnishes second framed (by omega) close_fits

theorem attach (furnishing : Furnishing limit own tb attempts s t) (framed : Framed s own) :
    Extends limit own [tb] attempts s
      (t.set own fun window => { window with titlebar := some tb }) := by
  rcases furnishing with ⟨extension, -, buttons⟩
  rcases extension.waiting tb List.mem_cons_self with ⟨beyond, below, part⟩
  have apart : ∀ v, s.made ≤ v → v ≠ own := fun v late =>
    Nat.ne_of_gt (framed.below.trans_le late)
  -- Only the title bar pointer of the window is set, to the bar that waits.
  have same : ∀ v, ((t.set own fun window => { window with titlebar := some tb }).window v) =
      { t.window v with titlebar := if v = own then some tb else (t.window v).titlebar } := by
    intro v
    by_cases here : v = own
    · subst here
      rw [set_window_self, if_pos rfl]
    · rw [set_window_of_ne here, if_neg here]
  have spares : Spares (· = own) t
      (t.set own fun window => { window with titlebar := some tb }) := by
    refine ⟨rfl, Nat.le_refl _, fun _ other => set_window_of_ne other, ?_, fun _ _ named => named⟩
    intro v live
    rw [Server.Live, same]
    exact live
  have attached : ∀ controls, t.Buttons controls →
      (t.set own fun window => { window with titlebar := some tb }).Buttons controls := by
    intro controls buttons
    apply buttons.mono
    intro i x named control
    rw [same]
    exact ⟨named, control, rfl⟩
  constructor
  · exact extension.manager
  · exact extension.made
  · intro v early other
    rw [spares.window v other]
    exact extension.old v early other
  · rw [set_window_self, extension.base]
  · intro v late
    rw [spares.window v (apart v late)]
    rcases extension.new v late with old | ⟨inside, part⟩
    · exact Or.inl old
    · exact Or.inr ⟨inside, spares.part (apart v late) part⟩
  · intro v member
    rcases extension.waiting v member with ⟨late, inside, part⟩
    exact ⟨late, inside, spares.part (apart v late) part⟩
  · exact extension.kept
  · intro i v named
    rcases extension.listed i v named with old | ⟨late, inside, part, absent⟩
    · exact Or.inl old
    · exact Or.inr ⟨late, inside, spares.part (apart v late) part, absent⟩
  · exact extension.once
  · intro x bar
    rw [set_window_self, Option.some.injEq] at bar
    subst bar
    refine ⟨beyond, below, spares.part (apart tb beyond) part, ?_⟩
    rw [spares.window tb (apart tb beyond)]
    exact attached _ buttons
  · exact extension.counted
  · intro ample v late live absent
    rw [Server.Live, spares.window v (apart v late)] at live
    rcases extension.filed ample v late live absent with ⟨i, named, id⟩
    exact ⟨i, named, by rw [spares.window v (apart v late), id]⟩

/-- A title bar is made with its buttons, and it is the one of `own`. -/
theorem titlebar_extends (extension : Extends limit own [] 0 s t) (framed : Framed s own)
    (few : 2 < limit) (unset : (t.window own).titlebar = none) :
    (∃ u, doCreateTitlebar t own = (none, u) ∧ Extends limit own [] 0 s u) ∨
    ∃ tb u, doCreateTitlebar t own = (some tb, u) ∧ Extends limit own [tb] 3 s u := by
  unfold doCreateTitlebar
  rcases draw_cases t .titlebar 0 1 (some own) with none | made
  · rw [none]
    exact Or.inl ⟨_, rfl, extension.skip⟩
  · rw [made]
    have below : own < t.made := framed.below.trans_le extension.made
    have first := extension.make framed
      (@newWindow_part t .titlebar 0 1 (t.canvases 0) own (by decide) (extension.live_own framed))
    have unset₁ : (({ t with made := t.made + 1 }.set t.made fun _ =>
        newWindow (t.canvases 0) .titlebar 0 1 (some own)).window own).titlebar = none := by
      rw [set_window_of_ne (Nat.ne_of_lt below)]
      exact unset
    dsimp only
    generalize ({ t with made := t.made + 1 }.set t.made fun _ =>
      newWindow (t.canvases 0) .titlebar 0 1 (some own)) = t₁ at first unset₁ ⊢
    have second := first.change framed List.mem_cons_self (by rw [unset₁]; simp)
      (fun window => { window with type := .simple })
      (fun x => ⟨rfl, rfl, rfl, rfl, rfl⟩) (by exact (by decide : WindowType.simple ≠ .overlapped))
    have unset₂ : ((t₁.set t.made fun window => { window with type := .simple }).window
        own).titlebar = none := by
      rw [set_window_of_ne (Nat.ne_of_lt below), unset₁]
    have third := controls_furnish second framed few unset₂
    exact Or.inr ⟨t.made, _, rfl, attach third framed⟩

theorem statusbar_extends (extension : Extends limit own [] attempts s t) (framed : Framed s own)
    (few : attempts < limit) : Extends limit own [] (attempts + 1) s (doCreateStatusbar t own) := by
  unfold doCreateStatusbar
  rcases draw_cases t .simple 0 1 (some own) with none | made
  · rw [none]
    exact extension.skip.mono (Nat.le_succ _)
  · rw [made]
    have first := extension.make framed
      (@newWindow_part t .simple 0 1 (t.canvases 0) own (by decide) (extension.live_own framed))
    exact first.register framed (by simp) few

/-- A title bar comes with three buttons. -/
def titlebarCount (state : Int32) : Nat :=
  if state = WINDOW_STATE_FULL then 0 else 4

/-- How many windows are registered for a frame at most. -/
def frameCount (style : UInt64) (state : Int32) : Nat :=
  titlebarCount state + if style &&& WS_STATUSBAR ≠ 0 then 1 else 0

/-- The windows of a frame are a title bar and a status bar, as far as they can be made. -/
theorem frameWindows_extends (framed : Framed s own)
    (enough : frameCount (s.window own).style (s.window own).state ≤ limit) :
    Extends limit own [] (frameCount (s.window own).style (s.window own).state) s
      (frameWindows s own) := by
  have start : Extends limit own [] 0 s s := Extends.refl framed
  have barred : ∃ id t, (if (s.window own).state = WINDOW_STATE_FULL then ((0 : Int32), s) else
      registerWindow (doCreateTitlebar s own).2 (doCreateTitlebar s own).1) = (id, t) ∧
      Extends limit own [] (titlebarCount (s.window own).state) s t := by
    unfold frameCount at enough
    unfold titlebarCount at enough ⊢
    split
    · exact ⟨0, s, rfl, start⟩
    next windowed =>
      rw [if_neg windowed] at enough
      have few : 3 < limit := (Nat.le_add_right 4 _).trans enough
      rcases titlebar_extends start framed (Nat.lt_of_succ_lt few) framed.titlebar with
        ⟨t, none, skipped⟩ | ⟨tb, t, made, extension⟩
      · rw [none]
        exact ⟨-1, t, rfl, skipped.mono (Nat.zero_le 4)⟩
      · rw [made]
        exact ⟨_, _, Prod.mk.eta.symm, extension.register framed (by simp) few⟩
  rcases barred with ⟨id, t, done, extension⟩
  have style : (t.window own).style = (s.window own).style := by rw [extension.base]
  have within : titlebarCount (s.window own).state ≤
      frameCount (s.window own).style (s.window own).state := Nat.le_add_right _ _
  unfold frameWindows
  dsimp only
  rw [done]
  dsimp only
  split
  · exact extension.mono within
  · rw [style]
    split
    next bar =>
      have count : frameCount (s.window own).style (s.window own).state =
          titlebarCount (s.window own).state + 1 := by
        rw [frameCount, if_pos bar]
      rw [count] at enough ⊢
      exact statusbar_extends extension framed enough
    · exact extension.mono within

theorem frame_returns (s : Server) (parent : Option Nat) (w : Nat) :
    Returns (doCreateAndDrawWindowFrame s parent w) fun t =>
      t = s ∨ ((s.window w).type = .overlapped ∧ t = frameWindows s w) := by
  unfold doCreateAndDrawWindowFrame
  split
  · exact returns_ok.mpr (Or.inl rfl)
  · split
    · exact returns_error.mpr trivial
    · split
      next overlapped => exact returns_ok.mpr (Or.inr ⟨overlapped, rfl⟩)
      · exact returns_ok.mpr (Or.inl rfl)

theorem frame_answers {w : Nat} (parent : Option Nat) (canvas : s.isCompositionDisabled = false →
    (s.window w).type = .overlapped ∨ (s.window w).type = .popup →
      (s.window w).frameCanvas = true) :
    Answers (doCreateAndDrawWindowFrame s parent w) := by
  have drawn : ¬(((s.window w).type = .overlapped ∨ (s.window w).type = .popup) ∧
      ¬s.isCompositionDisabled = true ∧ ¬(s.window w).frameCanvas = true) := by
    rintro ⟨type, composed, missing⟩
    exact missing (canvas (Bool.eq_false_iff.mpr composed) type)
  unfold doCreateAndDrawWindowFrame
  split
  · exact ⟨_, rfl⟩
  · rw [if_neg drawn]
    split <;> exact ⟨_, rfl⟩

theorem frame_extends {parent : Option Nat} (framed : Framed s own)
    (enough : frameCount (s.window own).style (s.window own).state ≤ limit)
    (drawn : doCreateAndDrawWindowFrame s parent own = .ok t) :
    Extends limit own [] (frameCount (s.window own).style (s.window own).state) s t := by
  rcases frame_returns s parent own t drawn with rfl | ⟨-, rfl⟩
  · exact (Extends.refl framed).mono (Nat.zero_le _)
  · exact frameWindows_extends framed enough

theorem frameCount_le (style : UInt64) (state : Int32) : frameCount style state ≤ 5 := by
  unfold frameCount titlebarCount
  split <;> split <;> decide

end Making

section Drawing

variable {s t : Server} {type : WindowType} {style : UInt64} {state : Int32}
  {parent window : Option Nat}

/-- The creation is not refused for its parent or its style. -/
def Accepts (s : Server) (style : UInt64) (pwid : Int32) : Prop :=
  (getWindowFromWid s pwid).isSome ∧
    ¬(style &&& WS_APP ≠ 0 ∧ pwid ≠ 0 ∧
      ¬(s.manager.rootWindow.any fun root => (s.window root).id = pwid)) ∧
    ¬style &&& WS_CHILD ≠ 0

/-- With composition on, what has a canvas read is an application window, or a button in one
    that has a canvas, and there is memory for the canvases of an application window. -/
def Provided (s : Server) (type : WindowType) (style : UInt64) (parent : Option Nat) : Prop :=
  s.isCompositionDisabled = false → s.room.object s.made = true →
    match type with
    | .titlebar | .statusbar | .checkbox | .scrollbar => True
    | _ =>
        (style &&& WS_APP ≠ 0 → s.room.canvases s.made = true) ∧
          (type = .overlapped ∨ type = .popup → style &&& WS_APP ≠ 0) ∧
          (type = .button → s.inApplication parent = true → s.appCanvas parent = true)

/-- Nothing stops `doCreateAndDrawWindow`. -/
structure Unstopped (s : Server) (type : WindowType) (style : UInt64) (parent : Option Nat) :
    Prop where
  memory : s.room.object s.made = true → s.canvases style = true →
    s.room.canvases s.made = true
  button : s.isCompositionDisabled = false → s.room.object s.made = true → type = .button →
    s.inApplication parent = true → s.appCanvas parent = true

/-- The task bar is known to the window manager. -/
def Server.bar (s : Server) (window : Option Nat) : Server :=
  s.manage fun manager => { manager with taskbarWindow := window }

theorem canvases_iff : s.canvases style = true ↔
    s.isCompositionDisabled = false ∧ style &&& WS_APP ≠ 0 := by
  rw [Server.canvases, Bool.and_eq_true, Bool.not_eq_true', decide_eq_true_iff]

theorem unstopped_of (memory : s.isCompositionDisabled = false → s.room.object s.made = true →
      style &&& WS_APP ≠ 0 → s.room.canvases s.made = true)
    (button : s.isCompositionDisabled = false → s.room.object s.made = true → type = .button →
      s.inApplication parent = true → s.appCanvas parent = true) :
    Unstopped s type style parent := by
  refine ⟨fun room drawn => ?_, button⟩
  rcases canvases_iff.mp drawn with ⟨composed, app⟩
  exact memory composed room app

theorem unstopped_simple (memory : s.isCompositionDisabled = false →
      s.room.object s.made = true → style &&& WS_APP ≠ 0 → s.room.canvases s.made = true) :
    Unstopped s .simple style parent :=
  unstopped_of memory fun _ _ button => WindowType.noConfusion button

/-- What is made there was memory for, and a button is made in an application only. -/
theorem draw_some {w : Nat} (made : drawWindow s type style state parent = (some w, t)) :
    s.room.object s.made = true ∧
      (s.isCompositionDisabled = false → type = .button → s.inApplication parent = true) := by
  unfold drawWindow at made
  dsimp only at made
  split at made
  · cases made
  next room =>
    split at made
    · cases made
    next inside =>
      refine ⟨not_not.mp room, fun composed button => not_not.mp fun outside => ?_⟩
      exact inside ⟨Bool.eq_false_iff.mp composed, button, outside⟩

/-- Nothing stops a part of a frame, which is no application and whose buttons are in a window
    that has a canvas. -/
theorem part_drawn (other : type ≠ .popup) (canvas : s.isCompositionDisabled = false →
    type = .button → s.appCanvas parent = true) :
    doCreateAndDrawWindow s type 0 state parent = .ok (drawWindow s type 0 state parent) := by
  have plain : s.canvases 0 = false := by simp [Server.canvases]
  unfold doCreateAndDrawWindow
  rw [if_neg fun stop => Bool.false_ne_true (plain.symm.trans stop.2.1)]
  cases drawWindow s type 0 state parent with
  | mk window t =>
      cases window with
      | none => rfl
      | some w =>
          dsimp only
          rw [if_neg fun stop => stop.2.2 (canvas (Bool.eq_false_iff.mpr stop.1) stop.2.1),
            if_neg fun popup => other popup.1]

/-- What is made is the next object or nothing; a popup may be the task bar. -/
theorem doCreate_returns (s : Server) (type : WindowType) (style : UInt64) (state : Int32)
    (parent : Option Nat) :
    Returns (doCreateAndDrawWindow s type style state parent) fun out =>
      out = (none, { s with made := s.made + 1 }) ∨ (s.room.object s.made = true ∧
        ∃ t, out = (some s.made, t) ∧
          (t = add s (newWindow (s.canvases style) type style state parent) ∨ type = .popup ∧
            t = (add s (newWindow (s.canvases style) type style state parent)).bar
              (some s.made))) := by
  unfold doCreateAndDrawWindow
  split
  · exact returns_error.mpr trivial
  · rcases draw_cases s type style state parent with none | made
    · rw [none]
      exact returns_ok.mpr (Or.inl rfl)
    · have room := (draw_some made).1
      rw [made]
      dsimp only
      split
      · exact returns_error.mpr trivial
      · split
        next popup => exact returns_ok.mpr (Or.inr ⟨room, _, rfl, Or.inr ⟨popup.1, rfl⟩⟩)
        · exact returns_ok.mpr (Or.inr ⟨room, _, rfl, Or.inl rfl⟩)

theorem doCreate_answers (state : Int32) (unstopped : Unstopped s type style parent) :
    Answers (doCreateAndDrawWindow s type style state parent) := by
  unfold doCreateAndDrawWindow
  rw [if_neg fun stop => stop.2.2 (unstopped.memory stop.1 stop.2.1)]
  cases made : drawWindow s type style state parent with
  | mk window t =>
      cases window with
      | none => exact ⟨_, rfl⟩
      | some w =>
          dsimp only
          split
          next stop =>
            -- A button was made, and it is in an application that has a canvas.
            rcases draw_some made with ⟨room, inside⟩
            have composed := Bool.eq_false_iff.mpr stop.1
            exact absurd (unstopped.button composed room stop.2.1 (inside composed stop.2.1))
              stop.2.2
          · split <;> exact ⟨_, rfl⟩

end Drawing

/-- There is memory for everything. -/
def ample : Memory :=
  ⟨fun _ => true, fun _ => true⟩

/-- A server that has just started, with composition on. -/
def server : Server :=
  (initializeGui ample true false).toOption.getD (windowInitialize ample true false)

theorem server_started : initializeGui ample true false = .ok server := by
  have done : (initializeGui ample true false).toOption.isSome = true := by
    decide +kernel
  unfold server
  cases started : initializeGui ample true false with
  | error stop =>
      rw [started] at done
      cases done
  | ok s => rfl

end Gramado.Winsys.Windows
