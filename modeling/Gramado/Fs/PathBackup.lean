/-
`fs_pathname_backup` of fslib.c, which takes directories off the end of the working
directory of a process. Each pass scans back from where the last one has put its zero;
nothing but a slash ends the scan, and a zero is not a slash.
-/
import Gramado.Ke
import Gramado.Lib.Text

namespace Gramado.Fs.PathBackup

open Gramado.Ke
open Gramado.Lib
open Gramado.Lib.Text
open Function

def PROCESS_COUNT_MAX : Nat := 512
def slash : UInt8 := 47

/-- What the function uses of `struct te_d`. The string is the memory around its first byte. -/
structure Process where
  used : Bool
  magic : Int32
  cwdString : Int → UInt8

/-- `teList`, with `CWD` and the name in `current_target_dir`. -/
structure System where
  teList : Nat → Option Process
  cwdInitialized : Bool
  cwdPath : Nat → UInt8
  targetName : Nat → UInt8

/-- `strlen`, `i` bytes on. `none` is a loop that has not ended after that many passes. -/
def strlen (mem : Int → UInt8) : Nat → Nat → Option Nat
  | 0, _ => none
  | passes + 1, i => if mem i = 0 then some i else strlen mem passes (i + 1)

/-- Back from `s` while the bytes are as asked, with the places that are read. -/
def back (goes : UInt8 → Bool) (mem : Int → UInt8) : Nat → Int → Option (Int × List Int)
  | 0, _ => none
  | passes + 1, s =>
      if goes (mem s) then
        (back goes mem passes (s - 1)).map fun out => (out.1, s :: out.2)
      else
        some (s, [s])

/-- The string, the local pointer, and the places that were read or written so far. -/
structure Scan where
  mem : Int → UInt8
  s : Int
  touched : List Int

/-- The body of `while (n--)`. -/
def removeLast (passes : Nat) (c : Scan) : Option Scan :=
  match back (· = slash) c.mem passes c.s with
  | none => none
  | some skipped =>
      match back (· ≠ slash) c.mem passes skipped.1 with
      | none => none
      | some name =>
          some ⟨update c.mem (name.1 + 1) 0, name.1 + 1,
            c.touched ++ skipped.2 ++ name.2 ++ [name.1 + 1]⟩

def removeTimes (passes : Nat) : Nat → Scan → Option Scan
  | 0, c => some c
  | n + 1, c => (removeLast passes c).bind (removeTimes passes n)

/-- `s` behind the string, or on its last byte. -/
def beginScan (mem : Int → UInt8) (length : Nat) : Scan :=
  ⟨mem, if mem 0 ≠ 0 then length - 1 else length, (List.range (length + 1)).map Int.ofNat⟩

def finish (t : System) (pid : Nat) (p : Process) (c : Scan) : List Int × System :=
  (c.touched ++ (List.range 32).map Int.ofNat,
    { t with
      teList := update t.teList pid (some { p with cwdString := c.mem })
      cwdPath := fun i => if i < 32 then c.mem i else t.cwdPath i
      targetName := fun i => if i < 11 then 0 else t.targetName i })

/-- With the places in `cwd_string` that are read or written. -/
def fsPathnameBackup (passes : Nat) (t : System) (pid n : Int32) :
    Option (Except Stop (List Int × System)) :=
  if t.cwdInitialized ≠ true then
    some (.ok ([], t))
  else if pid < 0 ∨ pid.toNatClampNeg ≥ PROCESS_COUNT_MAX then
    some (.ok ([], t))
  else if n ≤ 0 then
    some (.ok ([], t))
  else
    match t.teList pid.toNatClampNeg with
    | none => some (.error (.panic "fsUpdateWorkingDiretoryString: p\n"))
    | some p =>
        if p.used ≠ true ∨ p.magic ≠ 1234 then
          some (.error (.panic "fsUpdateWorkingDiretoryString: validation\n"))
        else do
          let length ← strlen p.cwdString passes 0
          let c ← removeTimes passes n.toNatClampNeg (beginScan p.cwdString length)
          return .ok (finish t pid.toNatClampNeg p c)

section Components

variable {path front w tail : List UInt8}

/-- What stands between the slashes. -/
def components (path : List UInt8) : List (List UInt8) :=
  (path.splitOn slash).filter (· ≠ [])

theorem components_nil : components [] = [] := by
  simp [components]

theorem components_append : components (front ++ slash :: tail) =
    components front ++ components tail := by
  rw [components, List.splitOn_append_cons_self, List.filter_append]
  rfl

theorem components_word (some_byte : w ≠ []) (word : slash ∉ w) : components w = [w] := by
  rw [components, List.splitOn_eq_singleton word]
  simp [some_byte]

theorem components_slashes (all : ∀ c ∈ tail, c = slash) : components tail = [] := by
  induction tail with
  | nil => exact components_nil
  | cons c rest ih =>
      obtain rfl := all c List.mem_cons_self
      have first := @components_append [] rest
      rw [List.nil_append, components_nil, List.nil_append] at first
      rw [first]
      exact ih fun d member => all d (List.mem_cons_of_mem _ member)

theorem components_word_slashes (some_byte : w ≠ []) (word : slash ∉ w)
    (all : ∀ c ∈ tail, c = slash) : components (w ++ tail) = [w] := by
  cases tail with
  | nil => rw [List.append_nil, components_word some_byte word]
  | cons c rest =>
      obtain rfl := all c List.mem_cons_self
      have behind : ∀ d ∈ rest, d = slash := fun d member => all d (List.mem_cons_of_mem _ member)
      rw [components_append, components_word some_byte word, components_slashes behind,
        List.append_nil]

/-- The last component `w` has a slash before it, and nothing but slashes behind it. -/
structure LastAt (path front w tail : List UInt8) : Prop where
  split : path = front ++ slash :: (w ++ tail)
  some_byte : w ≠ []
  word : slash ∉ w
  slashes : ∀ c ∈ tail, c = slash

/-- There is a slash before the last component. -/
def Rooted (path : List UInt8) : Prop :=
  ∃ front w tail, LastAt path front w tail

theorem LastAt.components_eq (last : LastAt path front w tail) :
    components path = components front ++ [w] := by
  rw [last.split, components_append, components_word_slashes last.some_byte last.word last.slashes]

end Components

section Back

variable {goes : UInt8 → Bool} {mem : Int → UInt8} {s stop other : Int} {passes : Nat}

/-- Going back from `s`, the first place where the bytes are not as asked. -/
structure StopsAt (goes : UInt8 → Bool) (mem : Int → UInt8) (s stop : Int) : Prop where
  le : stop ≤ s
  stops : goes (mem stop) = false
  goes : ∀ i, stop < i → i ≤ s → goes (mem i) = true

theorem stopsAt_unique (one : StopsAt goes mem s stop) (two : StopsAt goes mem s other) :
    stop = other := by
  obtain before | same | behind := Int.lt_trichotomy stop other
  · have still := one.goes other before two.le
    rw [two.stops] at still
    cases still
  · exact same
  · have still := two.goes stop behind one.le
    rw [one.stops] at still
    cases still

theorem stopsAt_of_back {reads : List Int} (ends : back goes mem passes s = some (stop, reads)) :
    StopsAt goes mem s stop ∧ stop ∈ reads := by
  induction passes generalizing s reads with
  | zero => cases ends
  | succ passes ih =>
      by_cases still : goes (mem s) = true
      · rw [back, if_pos still] at ends
        cases later : back goes mem passes (s - 1) with
        | none =>
            rw [later] at ends
            cases ends
        | some out =>
            rw [later] at ends
            cases ends
            obtain ⟨stopsAt, read⟩ := ih later
            have le := stopsAt.le
            refine ⟨⟨by omega, stopsAt.stops, ?_⟩, List.mem_cons_of_mem _ read⟩
            intro i low high
            by_cases here : i = s
            · rw [here]
              exact still
            · exact stopsAt.goes i low (by omega)
      · rw [back, if_neg still] at ends
        cases ends
        refine ⟨⟨Int.le_refl _, by simpa using still, ?_⟩, List.mem_singleton.mpr rfl⟩
        intro i low high
        omega

theorem back_of_stopsAt (stopsAt : StopsAt goes mem s stop) (enough : s - stop < passes) :
    ∃ reads, back goes mem passes s = some (stop, reads) ∧ ∀ i ∈ reads, stop ≤ i := by
  induction passes generalizing s with
  | zero =>
      have le := stopsAt.le
      omega
  | succ passes ih =>
      have le := stopsAt.le
      by_cases here : stop = s
      · subst here
        refine ⟨[stop], ?_, fun i member => ?_⟩
        · rw [back, stopsAt.stops]
          rfl
        · exact Int.le_of_eq (List.mem_singleton.mp member).symm
      · have still := stopsAt.goes s (by omega) (Int.le_refl _)
        have earlier : StopsAt goes mem (s - 1) stop :=
          ⟨by omega, stopsAt.stops, fun i low high => stopsAt.goes i low (by omega)⟩
        obtain ⟨reads, later, low⟩ := ih earlier (by omega)
        refine ⟨s :: reads, ?_, fun i member => ?_⟩
        · rw [back, if_pos still, later]
          rfl
        · obtain rfl | inside := List.mem_cons.mp member
          · exact le
          · exact low i inside

end Back

section Remove

variable {passes n : Nat} {c d : Scan} {first second : Int}

theorem removeLast_some (ends : removeLast passes c = some d) :
    ∃ first second, StopsAt (· = slash) c.mem c.s first ∧
      StopsAt (· ≠ slash) c.mem first second ∧ d.mem = update c.mem (second + 1) 0 ∧
        d.s = second + 1 ∧ second ∈ d.touched ∧ ∀ i ∈ c.touched, i ∈ d.touched := by
  cases skips : back (· = slash) c.mem passes c.s with
  | none =>
      rw [removeLast, skips] at ends
      cases ends
  | some skipped =>
      cases names : back (· ≠ slash) c.mem passes skipped.1 with
      | none =>
          simp only [removeLast, skips, names] at ends
          cases ends
      | some name =>
          simp only [removeLast, skips, names] at ends
          cases ends
          obtain ⟨early, -⟩ := stopsAt_of_back skips
          obtain ⟨late, read⟩ := stopsAt_of_back names
          refine ⟨skipped.1, name.1, early, late, rfl, rfl, ?_, ?_⟩
          · simp [read]
          · intro i member
            simp [member]

theorem removeLast_of (early : StopsAt (· = slash) c.mem c.s first)
    (late : StopsAt (· ≠ slash) c.mem first second) (enough : c.s - second < passes) :
    ∃ d, removeLast passes c = some d ∧ d.mem = update c.mem (second + 1) 0 ∧
      d.s = second + 1 ∧ ∀ i ∈ d.touched, i ∈ c.touched ∨ second ≤ i := by
  have low := early.le
  have lower := late.le
  have enough_skip : c.s - first < passes := by omega
  have enough_name : first - second < passes := by omega
  obtain ⟨skipped, skips, above⟩ := back_of_stopsAt early enough_skip
  obtain ⟨name, names, below⟩ := back_of_stopsAt late enough_name
  refine ⟨⟨update c.mem (second + 1) 0, second + 1, c.touched ++ skipped ++ name ++ [second + 1]⟩,
    ?_, rfl, rfl, ?_⟩
  · simp only [removeLast, skips, names]
  · intro i member
    simp only [List.mem_append, List.mem_singleton] at member
    obtain ((before | skip) | inName) | rfl := member
    · exact Or.inl before
    · exact Or.inr (Int.le_trans lower (above i skip))
    · exact Or.inr (below i inName)
    · right
      omega

/-- The zero is behind a slash: there is no byte to be skipped, and the scan for a
    slash ends at that one. -/
structure Settled (c : Scan) (place : Int) : Prop where
  s : c.s = place + 1
  zero : c.mem (place + 1) = 0
  mark : c.mem place = slash

theorem Settled.stops {place : Int} (settled : Settled c place) :
    StopsAt (· = slash) c.mem c.s (place + 1) ∧
      StopsAt (· ≠ slash) c.mem (place + 1) place := by
  refine ⟨⟨Int.le_of_eq settled.s.symm, ?_, ?_⟩, ⟨by omega, ?_, ?_⟩⟩
  · rw [settled.zero]
    rfl
  · intro i low high
    rw [settled.s] at high
    omega
  · rw [settled.mark]
    rfl
  · intro i low high
    obtain rfl : i = place + 1 := by omega
    rw [settled.zero]
    rfl

theorem removeTimes_settled {place : Int} (settled : Settled c place) (nonneg : 0 ≤ place)
    (enough : 1 < passes) (clean : ∀ i ∈ c.touched, 0 ≤ i) :
    ∃ d, removeTimes passes n c = some d ∧ d.mem = c.mem ∧ ∀ i ∈ d.touched, 0 ≤ i := by
  induction n generalizing c with
  | zero => exact ⟨c, rfl, rfl, clean⟩
  | succ n ih =>
      obtain ⟨early, late⟩ := settled.stops
      have short : c.s - place < passes := by
        rw [settled.s]
        omega
      obtain ⟨d, removed, mem, s, touched⟩ := removeLast_of early late short
      have same : d.mem = c.mem := by
        rw [mem]
        exact update_eq_iff.mpr ⟨settled.zero.symm, fun _ _ => rfl⟩
      have again : Settled d place :=
        ⟨s, by rw [same, settled.zero], by rw [same, settled.mark]⟩
      obtain ⟨e, rest, final, nothing⟩ := ih again fun i member => by
        obtain before | high := touched i member
        · exact clean i before
        · exact Int.le_trans nonneg high
      refine ⟨e, ?_, final.trans same, nothing⟩
      rw [removeTimes, removed]
      exact rest

theorem removeTimes_settled_mem {place : Int} (settled : Settled c place)
    (ends : removeTimes passes n c = some d) : d.mem = c.mem := by
  induction n generalizing c with
  | zero =>
      cases ends
      rfl
  | succ n ih =>
      rw [removeTimes] at ends
      obtain ⟨e, removed, rest⟩ := Option.bind_eq_some_iff.mp ends
      obtain ⟨first, second, early, late, mem, s, -⟩ := removeLast_some removed
      obtain ⟨here, there⟩ := settled.stops
      obtain rfl := stopsAt_unique early here
      obtain rfl := stopsAt_unique late there
      have same : e.mem = c.mem := by
        rw [mem]
        exact update_eq_iff.mpr ⟨settled.zero.symm, fun _ _ => rfl⟩
      have again : Settled e second :=
        ⟨s, by rw [same, settled.zero], by rw [same, settled.mark]⟩
      rw [ih again rest, same]

theorem removeTimes_touched (ends : removeTimes passes n c = some d) {i : Int}
    (member : i ∈ c.touched) : i ∈ d.touched := by
  induction n generalizing c with
  | zero =>
      cases ends
      exact member
  | succ n ih =>
      rw [removeTimes] at ends
      obtain ⟨e, removed, rest⟩ := Option.bind_eq_some_iff.mp ends
      obtain ⟨-, -, -, -, -, -, -, kept⟩ := removeLast_some removed
      exact ih rest (kept i member)

end Remove

section String

variable {mem : Int → UInt8} {path front w tail text : List UInt8} {passes i measured : Nat}

theorem strlen_holds (holds : Holds mem i text) (enough : text.length < passes) :
    strlen mem passes i = some (i + text.length) := by
  induction text generalizing i passes with
  | nil =>
      cases passes with
      | zero => cases enough
      | succ passes =>
          have zero : mem i = 0 := holds
          rw [strlen, if_pos zero, List.length_nil, Nat.add_zero]
  | cons c rest ih =>
      obtain ⟨first, nonzero, later⟩ := holds
      cases passes with
      | zero => cases enough
      | succ passes =>
          have behind := ih (i := i + 1) later (Nat.lt_of_succ_lt_succ enough)
          rw [strlen, first, if_neg nonzero, behind, List.length_cons]
          congr 1
          omega

theorem strlen_some (holds : Holds mem i text) (ends : strlen mem passes i = some measured) :
    measured = i + text.length := by
  induction text generalizing i passes with
  | nil =>
      cases passes with
      | zero => cases ends
      | succ passes =>
          have zero : mem i = 0 := holds
          rw [strlen, if_pos zero] at ends
          cases ends
          rfl
  | cons c rest ih =>
      obtain ⟨first, nonzero, later⟩ := holds
      cases passes with
      | zero => cases ends
      | succ passes =>
          rw [strlen, first, if_neg nonzero] at ends
          rw [ih (i := i + 1) later ends, List.length_cons]
          omega

theorem beginScan_s (holds : Holds mem 0 path) (some_byte : path ≠ []) :
    (beginScan mem path.length).s = path.length - 1 := by
  cases path with
  | nil => exact absurd rfl some_byte
  | cons c rest =>
      obtain ⟨first, nonzero, -⟩ := holds
      rw [beginScan, first, if_pos nonzero]

theorem LastAt.length_eq (last : LastAt path front w tail) :
    path.length = front.length + 1 + w.length + tail.length := by
  rw [last.split]
  simp only [List.length_append, List.length_cons]
  omega

theorem LastAt.skips (last : LastAt path front w tail) (holds : Holds mem 0 path) :
    StopsAt (· = slash) mem (path.length - 1 : Int) (front.length + w.length : Nat) := by
  rw [last.split] at holds
  have rest := (holds_append.mp holds).2.2.2.2
  have length := last.length_eq
  have positive := List.length_pos_iff.mpr last.some_byte
  refine ⟨by omega, ?_, ?_⟩
  · have here := holds_getElem rest (j := w.length - 1) (by
      rw [List.length_append]
      omega)
    rw [List.getElem_append_left (by omega)] at here
    have place : (0 : Int) + front.length + 1 + (w.length - 1 : Nat) =
        (front.length + w.length : Nat) := by omega
    rw [place] at here
    have other : mem (front.length + w.length : Nat) ≠ slash := by
      rw [here]
      intro same
      exact last.word (same ▸ List.getElem_mem _)
    simpa using other
  · intro i low high
    have inside : (i - (front.length + 1)).toNat < (w ++ tail).length := by
      rw [List.length_append]
      omega
    have here := holds_getElem rest inside
    rw [List.getElem_append_right (by omega)] at here
    have place : (0 : Int) + front.length + 1 + (i - (front.length + 1)).toNat = i := by omega
    rw [place] at here
    have behind : (i - (front.length + 1)).toNat - w.length < tail.length := by
      rw [List.length_append] at inside
      omega
    have same := last.slashes _ (List.getElem_mem behind)
    rw [same] at here
    simpa using here

theorem LastAt.stops (last : LastAt path front w tail) (holds : Holds mem 0 path) :
    StopsAt (· ≠ slash) mem (front.length + w.length : Nat) front.length := by
  rw [last.split] at holds
  obtain ⟨mark, -, rest⟩ := (holds_append.mp holds).2.2
  rw [Int.zero_add] at mark
  refine ⟨by omega, ?_, ?_⟩
  · rw [mark]
    rfl
  · intro i low high
    have short : (i - (front.length + 1)).toNat < w.length := by omega
    have here := holds_getElem rest (j := (i - (front.length + 1)).toNat) (by
      rw [List.length_append]
      omega)
    rw [List.getElem_append_left short] at here
    have place : (0 : Int) + front.length + 1 + (i - (front.length + 1)).toNat = i := by omega
    rw [place] at here
    have other : mem i ≠ slash := by
      rw [here]
      intro same
      exact last.word (same ▸ List.getElem_mem _)
    simpa using other

theorem LastAt.cut (last : LastAt path front w tail) (holds : Holds mem 0 path) :
    Holds (update mem (front.length + 1) 0) 0 (front ++ [slash]) := by
  have split : path = (front ++ [slash]) ++ (w ++ tail) := by
    rw [last.split, List.append_assoc]
    rfl
  rw [split] at holds
  have shorter := holds_cut holds
  rw [List.length_append, List.length_singleton, Int.zero_add] at shorter
  exact shorter

/-- A scan that does not leave the string at its front has found a slash before the last
    component. -/
theorem rooted_of_stopsAt {first second : Int} (holds : Holds mem 0 path)
    (early : StopsAt (· = slash) mem (beginScan mem path.length).s first)
    (late : StopsAt (· ≠ slash) mem first second) (inside : 0 ≤ second) : Rooted path := by
  have other : mem first ≠ slash := by simpa using early.stops
  have mark : mem second = slash := by simpa using late.stops
  have below : second < first := by
    have le := late.le
    have apart : second ≠ first := fun same => other (same ▸ mark)
    omega
  have high := early.le
  by_cases empty : path = []
  · -- The scan begins on the zero.
    subst empty
    have zero : mem 0 = 0 := holds
    have start : (beginScan mem ([] : List UInt8).length).s = 0 := by
      rw [beginScan, zero]
      rfl
    omega
  · rw [beginScan_s holds empty] at early high
    have at_byte : ∀ j (fits : j < path.length), mem (j : Int) = path[j] := fun j fits => by
      rw [← holds_getElem holds fits, Int.zero_add]
    obtain ⟨a, rfl⟩ := Int.eq_ofNat_of_zero_le inside
    obtain ⟨b, rfl⟩ := Int.eq_ofNat_of_zero_le (Int.le_trans inside late.le)
    have bLow : b < path.length := by omega
    have aLow : a < path.length := by omega
    refine ⟨path.take a, (path.drop (a + 1)).take (b - a), path.drop (b + 1), ?_, ?_, ?_, ?_⟩
    · have cut : path.drop (b + 1) = (path.drop (a + 1)).drop (b - a) := by
        rw [List.drop_drop]
        congr 1
        omega
      rw [cut, List.take_append_drop, ← mark, at_byte a aLow, List.getElem_cons_drop,
        List.take_append_drop]
    · intro none
      have length := congrArg List.length none
      rw [List.length_take, List.length_drop, List.length_nil] at length
      omega
    · intro member
      obtain ⟨j, fits, same⟩ := List.mem_iff_getElem.mp member
      rw [List.length_take, List.length_drop] at fits
      rw [List.getElem_take, List.getElem_drop, ← at_byte (a + 1 + j) (by omega)] at same
      have still := late.goes (a + 1 + j : Nat) (by omega) (by omega)
      rw [same] at still
      cases still
    · intro c member
      obtain ⟨j, fits, same⟩ := List.mem_iff_getElem.mp member
      rw [List.length_drop] at fits
      rw [List.getElem_drop, ← at_byte (b + 1 + j) (by omega)] at same
      have still := early.goes (b + 1 + j : Nat) (by omega) (by omega)
      rw [← same]
      simpa using still

end String

/-- A call that gets to the string of a process. -/
structure Called (t : System) (pid : Int32) (p : Process) : Prop where
  cwd : t.cwdInitialized = true
  nonneg : ¬pid < 0
  inRange : pid.toNatClampNeg < PROCESS_COUNT_MAX
  process : t.teList pid.toNatClampNeg = some p
  used : p.used = true
  magic : p.magic = 1234

/-- The call returns, it touches nothing before the string, and leaves the part of it that
    has the last `n` components removed, or all of them. -/
def BacksUp (t : System) (pid n : Int32) (path : List UInt8) : Prop :=
  ∃ passes touched u, fsPathnameBackup passes t pid n = some (.ok (touched, u)) ∧
    (∀ i ∈ touched, 0 ≤ i) ∧
    ∃ left rest, u.teList pid.toNatClampNeg = some left ∧ Holds left.cwdString 0 rest ∧
      rest <+: path ∧ components rest = (components path).take
        ((components path).length - min n.toNatClampNeg (components path).length)

section Call

variable {t : System} {pid n : Int32} {p : Process} {path front w tail : List UInt8}

theorem fsPathnameBackup_called (called : Called t pid p) (positive : ¬n ≤ 0) (passes : Nat) :
    fsPathnameBackup passes t pid n =
      (strlen p.cwdString passes 0).bind fun length =>
        (removeTimes passes n.toNatClampNeg (beginScan p.cwdString length)).bind fun c =>
          some (.ok (finish t pid.toNatClampNeg p c)) := by
  have range : ¬(pid < 0 ∨ pid.toNatClampNeg ≥ PROCESS_COUNT_MAX) :=
    not_or.mpr ⟨called.nonneg, Nat.not_le.mpr called.inRange⟩
  have valid : ¬(p.used ≠ true ∨ p.magic ≠ 1234) :=
    not_or.mpr ⟨not_not_intro called.used, not_not_intro called.magic⟩
  rw [fsPathnameBackup, if_neg (not_not_intro called.cwd), if_neg range, if_neg positive,
    called.process]
  exact if_neg valid

theorem backsUp_none (called : Called t pid p) (string : Holds p.cwdString 0 path)
    (none : n ≤ 0) : BacksUp t pid n path := by
  have range : ¬(pid < 0 ∨ pid.toNatClampNeg ≥ PROCESS_COUNT_MAX) :=
    not_or.mpr ⟨called.nonneg, Nat.not_le.mpr called.inRange⟩
  refine ⟨0, [], t, ?_, fun i member => absurd member List.not_mem_nil, p, path, called.process,
    string, List.prefix_rfl, ?_⟩
  · rw [fsPathnameBackup, if_neg (not_not_intro called.cwd), if_neg range, if_pos none]
  · have zero : n.toNatClampNeg = 0 := by
      have below := Int32.le_iff_toInt_le.mp none
      exact Int.toNat_of_nonpos below
    rw [zero, Nat.zero_min, Nat.sub_zero, List.take_length]

theorem one_le_of_pos (positive : ¬n ≤ 0) : 0 < n.toNatClampNeg := by
  have above : 0 < n.toInt := by
    rw [Int32.le_iff_toInt_le] at positive
    exact Int.not_le.mp positive
  exact Int.pos_iff_toNat_pos.mp above

theorem LastAt.settled (last : LastAt path front w tail) {mem : Int → UInt8}
    (holds : Holds mem 0 path) {d : Scan} (s : d.s = front.length + 1)
    (shorter : d.mem = update mem (front.length + 1) 0) : Settled d front.length := by
  refine ⟨s, ?_, ?_⟩
  · rw [shorter, update_self]
  · rw [shorter, update_of_ne (by omega)]
    simpa using (last.stops holds).stops

theorem removeTimes_rooted (last : LastAt path front w tail) {mem : Int → UInt8}
    (holds : Holds mem 0 path) {count passes : Nat} (enough : path.length + 1 < passes) :
    ∃ c, removeTimes passes (count + 1) (beginScan mem path.length) = some c ∧
      c.mem = update mem (front.length + 1) 0 ∧ ∀ i ∈ c.touched, 0 ≤ i := by
  have length := last.length_eq
  have start := beginScan_s holds (fun none => by
    rw [none, List.length_nil] at length
    omega)
  have skips := last.skips holds
  rw [← start] at skips
  have short : (beginScan mem path.length).s - front.length < passes := by
    rw [start]
    omega
  obtain ⟨d, removed, shorter, s, touched⟩ := removeLast_of skips (last.stops holds) short
  have clean : ∀ i ∈ d.touched, 0 ≤ i := by
    intro i member
    obtain before | above := touched i member
    · obtain ⟨k, -, rfl⟩ := List.mem_map.mp before
      exact Int.natCast_nonneg k
    · exact Int.le_trans (Int.natCast_nonneg _) above
  have settled := last.settled holds s shorter
  obtain ⟨c, rest, same, nothing⟩ := @removeTimes_settled passes count d _ settled
    (Int.natCast_nonneg _) (by omega) clean
  refine ⟨c, ?_, same.trans shorter, nothing⟩
  rw [removeTimes, removed]
  exact rest

/-- Passes that touch nothing before the string have taken one component off. -/
theorem rooted_of_removeTimes {mem : Int → UInt8} (holds : Holds mem 0 path) {c : Scan}
    {count passes : Nat}
    (ends : removeTimes passes (count + 1) (beginScan mem path.length) = some c)
    (clean : ∀ i ∈ c.touched, 0 ≤ i) :
    ∃ front w tail, LastAt path front w tail ∧ c.mem = update mem (front.length + 1) 0 := by
  rw [removeTimes] at ends
  obtain ⟨d, removed, rest⟩ := Option.bind_eq_some_iff.mp ends
  obtain ⟨first, second, early, late, shorter, s, read, -⟩ := removeLast_some removed
  have inside := clean second (removeTimes_touched rest read)
  obtain ⟨front, w, tail, last⟩ := rooted_of_stopsAt holds early late inside
  have start := beginScan_s holds (fun none => by
    have length := last.length_eq
    rw [none, List.length_nil] at length
    omega)
  rw [start] at early
  obtain rfl := stopsAt_unique early (last.skips holds)
  obtain rfl := stopsAt_unique late (last.stops holds)
  have settled := last.settled holds s shorter
  exact ⟨front, w, tail, last, (removeTimes_settled_mem settled rest).trans shorter⟩

/-- One component less is right for one, and for more where there is no other. -/
theorem LastAt.take_iff (last : LastAt path front w tail) {count : Nat} :
    components (front ++ [slash]) = (components path).take
        ((components path).length - min (count + 1) (components path).length) ↔
      count = 0 ∨ (components path).length = 1 := by
  have less : components (front ++ [slash]) = components front := by
    rw [components_append, components_nil, List.append_nil]
  rw [less, last.components_eq, List.length_append, List.length_singleton]
  constructor
  · intro same
    have length := congrArg List.length same
    rw [List.length_take, List.length_append, List.length_singleton] at length
    omega
  · intro one
    have short : (components front).length + 1 - min (count + 1) ((components front).length + 1) =
        (components front).length := by omega
    rw [short, List.take_left]

end Call

/-- The call removes what it should if and only if there is nothing to be removed, or there
    is a slash before the last component and this is the only one to be removed. -/
theorem backsUp_iff {t : System} {pid n : Int32} {p : Process} {path : List UInt8}
    (called : Called t pid p) (string : Holds p.cwdString 0 path) :
    BacksUp t pid n path ↔ n ≤ 0 ∨ Rooted path ∧ (n = 1 ∨ (components path).length = 1) := by
  by_cases none : n ≤ 0
  · exact iff_of_true (backsUp_none called string none) (Or.inl none)
  -- The first pass cuts at the last slash; every later one finds the NUL behind that slash and
  -- cuts nothing.
  obtain ⟨count, counted⟩ := Nat.exists_eq_add_of_le' (one_le_of_pos none)
  have one : n = 1 ↔ count = 0 := by
    constructor
    · rintro rfl
      exact Nat.succ.inj counted.symm
    · rintro rfl
      have whole : n.toInt.toNat = 1 := counted
      have value : n.toInt = 1 := by omega
      exact Int32.toInt_inj.mp value
  rw [or_iff_right none, one]
  constructor
  · rintro ⟨passes, touched, u, ends, clean, left, rest, process, holds, -, same⟩
    rw [fsPathnameBackup_called called none] at ends
    obtain ⟨length, measured, ends⟩ := Option.bind_eq_some_iff.mp ends
    obtain ⟨c, removed, ends⟩ := Option.bind_eq_some_iff.mp ends
    cases ends
    have whole := strlen_some (i := 0) string measured
    rw [Nat.zero_add] at whole
    subst whole
    rw [counted] at removed
    obtain ⟨front, w, tail, last, shorter⟩ := rooted_of_removeTimes string removed
      fun i member => clean i (List.mem_append_left _ member)
    change update t.teList _ _ _ = _ at process
    rw [update_self] at process
    cases process
    change Holds c.mem 0 rest at holds
    rw [shorter] at holds
    obtain rfl := holds_unique holds (last.cut string)
    rw [counted] at same
    exact ⟨⟨front, w, tail, last⟩, last.take_iff.mp same⟩
  · rintro ⟨⟨front, w, tail, last⟩, few⟩
    have measured := @strlen_holds _ path (path.length + 2) 0 string (by omega)
    obtain ⟨c, removed, shorter, clean⟩ :=
      @removeTimes_rooted _ _ _ _ last _ string count (path.length + 2) (by omega)
    refine ⟨path.length + 2, (finish t pid.toNatClampNeg p c).1,
      (finish t pid.toNatClampNeg p c).2, ?_, ?_, { p with cwdString := c.mem },
      front ++ [slash], ?_, ?_, ?_, ?_⟩
    · rw [fsPathnameBackup_called called none, measured, Option.bind_some, Nat.zero_add, counted,
        removed, Option.bind_some]
    · intro i member
      obtain before | behind := List.mem_append.mp member
      · exact clean i before
      · obtain ⟨k, -, rfl⟩ := List.mem_map.mp behind
        exact Int.natCast_nonneg k
    · exact update_self ..
    · rw [shorter]
      exact last.cut string
    · refine ⟨w ++ tail, ?_⟩
      rw [last.split, List.append_assoc]
      rfl
    · rw [counted]
      exact last.take_iff.mpr few

/-- The process 0 in a working directory. -/
def processAt (path : List UInt8) : Process :=
  ⟨true, 1234, Memory.store (fun _ => 0) 0 (path ++ [0])⟩

def systemAt (path : List UInt8) : System :=
  ⟨fun pid => if pid = 0 then some (processAt path) else none, true, fun _ => 0, fun _ => 0⟩

theorem systemAt_called {path : List UInt8} : Called (systemAt path) 0 (processAt path) :=
  ⟨rfl, by decide, by decide, rfl, rfl, rfl⟩

/-- "/a/b". -/
def deep : List UInt8 := [47, 97, 47, 98]

theorem deep_holds : Holds (processAt deep).cwdString 0 deep := by
  apply holds_store
  intro c member
  simp only [deep, List.mem_cons, List.not_mem_nil, or_false] at member
  rcases member with rfl | rfl | rfl | rfl <;> decide

/-- One component of "/a/b" is removed. -/
theorem deep_backsUp : BacksUp (systemAt deep) 0 1 deep := by
  apply (backsUp_iff systemAt_called deep_holds).mpr
  right
  have last : LastAt deep [47, 97] [98] [] := ⟨rfl, by simp, by decide, by simp⟩
  exact ⟨⟨_, _, _, last⟩, Or.inl rfl⟩

/-- Two are not. -/
theorem deep_not_backsUp : ¬∀ (t : System) (pid n : Int32) (p : Process) (path : List UInt8),
    Called t pid p → Holds p.cwdString 0 path → BacksUp t pid n path := by
  intro all
  have backsUp := all (systemAt deep) 0 2 (processAt deep) deep systemAt_called deep_holds
  obtain none | ⟨-, one | single⟩ := (backsUp_iff systemAt_called deep_holds).mp backsUp
  · exact absurd none (by decide)
  · exact absurd one (by decide)
  · exact absurd single (by decide)

end Gramado.Fs.PathBackup
