/-
When fs_load_path of the boot loader ends, and ends right.
-/
import Gramado.Blgram.LoadPath

namespace Gramado.Blgram.PathLoads

open Gramado.Lib.Links
open Gramado.Lib.Search
open Gramado.Blgram.LoadPath

section Walks

variable {sys : System} {c : UInt16} {cells sub : List UInt16}

theorem not_isLast_of_cell (cell : fatMarks.cell c) : ¬IsLast c := by
  rintro (rfl | rfl)
  · exact absurd cell.2 (by decide)
  · exact absurd cell.2 (by decide)

theorem not_refused_of_cell (cell : fatMarks.cell c) : ¬Refused c := by
  rintro (rfl | above)
  · exact absurd cell.1 (by decide)
  · exact absurd cell.2 (UInt16.not_le.mpr above)

theorem not_isLast_of_not_refused (accepted : ¬Refused c) : ¬IsLast c := by
  rintro (rfl | rfl)
  · exact accepted (.inr (by decide))
  · exact accepted (.inr (by decide))

theorem nextEntry_followed {mem : Memory} {address : UInt32} (read : List (UInt32 × Nat))
    (followed : Followed sys mem address (c :: cells)) {fuel : Nat} (enough : cells.length < fuel) :
    ∃ s, nextEntry (storeFile sys) (fun s => fat s.mem) fuel ⟨mem, address, read⟩ c =
        some (.done s) ∧ s.read = read ++ transfers address (c :: cells) := by
  induction cells generalizing mem address read c fuel with
  | nil =>
      obtain _ | fuel := fuel
      · exact absurd enough (Nat.not_lt_zero _)
      · have last : IsLast (fat (storeSector sys mem address c) c) := followed
        simp only [nextEntry, storeFile, if_pos last]
        exact ⟨_, rfl, rfl⟩
  | cons d rest ih =>
      obtain _ | fuel := fuel
      · exact absurd enough (Nat.not_lt_zero _)
      · obtain ⟨next, more, later⟩ := followed
        obtain ⟨s, done, read⟩ := ih (read ++ [(address, lba c)]) later
          (Nat.lt_of_succ_lt_succ enough)
        refine ⟨s, ?_, ?_⟩
        · simp only [nextEntry, storeFile, next, if_neg more]
          exact done
        · rw [read, List.append_assoc]
          rfl

theorem followed_of_nextEntry {fuel : Nat} {s : FileLoad} {loaded : Loaded FileLoad}
    (ended : nextEntry (storeFile sys) (fun s => fat s.mem) fuel s c = some loaded) :
    ∃ t rest, loaded = .done t ∧ Followed sys s.mem s.address (c :: rest) ∧
      t.read = s.read ++ transfers s.address (c :: rest) := by
  induction fuel generalizing s c with
  | zero => cases ended
  | succ fuel ih =>
      simp only [nextEntry, storeFile] at ended
      by_cases last : IsLast (fat (storeSector sys s.mem s.address c) c)
      · rw [if_pos last] at ended
        obtain rfl := Option.some.inj ended
        exact ⟨_, [], rfl, last, rfl⟩
      · rw [if_neg last] at ended
        obtain ⟨t, rest, done, followed, read⟩ := ih ended
        refine ⟨t, _ :: rest, done, ⟨rfl, last, followed⟩, ?_⟩
        rw [read, List.append_assoc]
        rfl

theorem nextEntry_level {table : UInt16 → UInt16} {buffer : Directory} {k fuel : Nat}
    (chain : Chain walkMarks table c sub) (first : ¬IsLast c) (room : k + sub.length ≤ 32)
    (enough : sub.length ≤ fuel) :
    ∃ t, nextEntry (storeLevel sys) (fun _ => table) fuel ⟨k, buffer⟩ c = some (.done t) ∧
      t.buffer = fill sys buffer k sub := by
  induction sub generalizing c k buffer fuel with
  | nil => exact absurd chain first
  | cons d rest ih =>
      obtain ⟨rfl, -, later⟩ := chain
      rw [List.length_cons] at room enough
      obtain _ | fuel := fuel
      · exact absurd enough (Nat.not_succ_le_zero _)
      · have fits : ¬SECTOR_SIZE * k + SECTOR_SIZE > LEVEL_SIZE := by
          simp only [SECTOR_SIZE, LEVEL_SIZE]
          omega
        simp only [nextEntry, storeLevel, if_neg fits]
        by_cases last : IsLast (table c)
        · rw [if_pos last]
          cases rest with
          | nil => exact ⟨_, rfl, rfl⟩
          | cons e tail => exact absurd last (later.1 ▸ later.2.1)
        · rw [if_neg last]
          exact ih later last (by omega) (Nat.le_of_succ_le_succ enough)

/-- One that has none, or that never ends, is written behind the buffer. -/
theorem nextEntry_outside {table : UInt16 → UInt16} {buffer : Directory} {k fuel : Nat}
    (first : ¬IsLast c) (long : ∀ sub, Chain walkMarks table c sub → 32 < k + sub.length)
    (enough : 33 ≤ k + fuel) (inside : k ≤ 32) :
    nextEntry (storeLevel sys) (fun _ => table) fuel ⟨k, buffer⟩ c = some .outside := by
  induction fuel generalizing c k buffer with
  | zero => omega
  | succ fuel ih =>
      by_cases full : SECTOR_SIZE * k + SECTOR_SIZE > LEVEL_SIZE
      · simp only [nextEntry, storeLevel, if_pos full]
      · have room : k < 32 := by
          simp only [SECTOR_SIZE, LEVEL_SIZE] at full
          omega
        have more : ¬IsLast (table c) := fun last => by
          have single := long [c] ⟨rfl, first, last⟩
          exact absurd single (by simp; omega)
        simp only [nextEntry, storeLevel, if_neg full, if_neg more]
        refine ih more (fun sub chain => ?_) (by omega) room
        have longer := long (c :: sub) ⟨rfl, first, chain⟩
        rw [List.length_cons] at longer
        omega

section Search

variable {σ : Type} {store : σ → UInt16 → Option σ} {table : σ → UInt16 → UInt16} {fuel : Nat}
  {name : List UInt8} {s : σ} {dir : Directory}

theorem fsLoadFile_missing (head : name.head? ≠ some 0) (missing : lookup dir 512 name = none) :
    fsLoadFile store table fuel name s dir = none := by
  simp only [fsLoadFile, if_neg head, missing]

theorem fsLoadFile_refused (head : name.head? ≠ some 0) (found : lookup dir 512 name = some c)
    (refused : Refused c) : fsLoadFile store table fuel name s dir = some .fails := by
  have limits : c = 0 ∨ c > 0xFFF0 := refused
  simp only [fsLoadFile, if_neg head, found, if_pos limits]

theorem fsLoadFile_found (head : name.head? ≠ some 0) (found : lookup dir 512 name = some c)
    (accepted : ¬Refused c) :
    fsLoadFile store table fuel name s dir = nextEntry store table fuel s c := by
  have limits : ¬(c = 0 ∨ c > 0xFFF0) := accepted
  simp only [fsLoadFile, if_neg head, found, if_neg limits]

end Search

/-- The walk goes along a chain of the data area, and possibly on from there. -/
theorem walk_prefix {table : UInt16 → UInt16} {all : List UInt16}
    (chain : Chain fatMarks table c sub) (walk : Chain walkMarks table c all) :
    ∃ more, all = sub ++ more := by
  induction sub generalizing c all with
  | nil => exact ⟨all, rfl⟩
  | cons d rest ih =>
      obtain ⟨rfl, cell, later⟩ := chain
      cases all with
      | nil => exact absurd walk (not_isLast_of_cell cell)
      | cons e tail =>
          obtain ⟨rfl, -, behind⟩ := walk
          obtain ⟨more, same⟩ := ih later behind
          exact ⟨more, by rw [same]; rfl⟩

end Walks

section Buffers

variable {sys : System} {buffer other : Directory} {cells more : List UInt16} {k j n : Nat}

theorem fill_append :
    fill sys buffer k (cells ++ more) = fill sys (fill sys buffer k cells)
      (k + cells.length) more := by
  induction cells generalizing buffer k with
  | nil => rfl
  | cons c rest ih =>
      simp only [List.cons_append, fill, ih, List.length_cons, Nat.add_assoc, Nat.add_comm 1]

theorem fill_before (before : j < 512 * k) : fill sys buffer k cells j = buffer j := by
  induction cells generalizing buffer k with
  | nil => rfl
  | cons c rest ih =>
      rw [fill, ih (by omega), putSector, SECTOR_SIZE, if_neg (by omega)]

theorem fill_inside (low : 512 * k ≤ j) (high : j < 512 * (k + cells.length)) :
    fill sys buffer k cells j = fill sys other k cells j := by
  induction cells generalizing buffer other k with
  | nil => exact absurd high (Nat.not_lt_of_le low)
  | cons c rest ih =>
      rw [fill, fill]
      by_cases first : j < 512 * (k + 1)
      · rw [fill_before first, fill_before first, putSector, putSector, SECTOR_SIZE,
          if_pos ⟨low, first⟩, if_pos ⟨low, first⟩]
      · refine ih (Nat.le_of_not_lt first) ?_
        rw [List.length_cons] at high
        omega

theorem named_congr {dir real : Directory} {name : List UInt8} {z : Nat}
    (agree : ∀ j < 32 * n, dir j = real j) (inside : z < n) :
    Named dir name z ↔ Named real name z := by
  have bytes : ∀ i < 32, entryByte dir z i = entryByte real z i := by
    intro i small
    exact agree _ (by omega)
  unfold Named
  rw [bytes 0 (by decide), bytes 1 (by decide)]
  refine and_congr_right fun _ => forall_congr' fun i => ?_
  constructor
  · intro same small
    rw [← bytes i (by omega)]
    exact same small
  · intro same small
    rw [bytes i (by omega)]
    exact same small

/-- An entry of the tree is found first by the search over all 512 too. -/
theorem lookup_agree {dir real : Directory} {name : List UInt8} {c : UInt16}
    (agree : ∀ j < 32 * n, dir j = real j) (few : n ≤ 512)
    (found : lookup real n name = some c) : lookup dir 512 name = some c := by
  obtain ⟨z, entry, cluster⟩ := Option.map_eq_some_iff.mp found
  obtain ⟨named, inside, before⟩ := first_eq_some.mp entry
  have first : first 512 (Named dir name) = some z := by
    refine first_eq_some.mpr ⟨(named_congr agree inside).mpr named, by omega, fun j early => ?_⟩
    rw [named_congr agree (Nat.lt_trans early inside)]
    exact before j early
  have bytes : ∀ i < 32, entryByte dir z i = entryByte real z i := by
    intro i small
    exact agree _ (by omega)
  rw [lookup, first, Option.map_some, bytes 26 (by decide), bytes 27 (by decide), cluster]

end Buffers

section Tree

variable {sys : System} {cells : List UInt16}

theorem resolves_cons {dir : Directory} {n : Nat} {name : List UInt8} {names : List (List UInt8)}
    (more : names ≠ []) : Resolves sys dir n (name :: names) cells ↔
      ∃ c sub, sub ≠ [] ∧ lookup dir n name = some c ∧ Chain fatMarks (fat sys.mem) c sub ∧
        Resolves sys (fill sys (fun _ => 0) 0 sub) (16 * sub.length) names cells := by
  obtain _ | ⟨name', names⟩ := names
  · exact absurd rfl more
  · rfl

/-- In the last directory that is entered the file is found, where the tree has it. -/
theorem lookup_of_resolves {dirs : List Component} {l n : Nat} {dir real reached : Directory}
    {file : List UInt8} (enters : Enters sys l dir dirs reached)
    (agree : ∀ j < 32 * n, dir j = real j) (few : n ≤ 512)
    (resolves : Resolves sys real n (dirs.map dirName ++ [file]) cells) :
    cells ≠ [] ∧ ∃ c, lookup reached 512 file = some c ∧ Chain fatMarks (fat sys.mem) c cells := by
  induction dirs generalizing l n dir real with
  | nil =>
      obtain rfl := enters
      obtain ⟨nonempty, c, found, chain⟩ := resolves
      exact ⟨nonempty, c, lookup_agree agree few found, chain⟩
  | cons name rest ih =>
      obtain ⟨buffer, c, all, -, found, -, walk, short, later⟩ := enters
      obtain ⟨c', sub, -, there, chain, resolves⟩ := (resolves_cons (by simp)).mp resolves
      obtain rfl : c = c' := Option.some.inj (found.symm.trans (lookup_agree agree few there))
      obtain ⟨more, rfl⟩ := walk_prefix chain walk
      rw [List.length_append] at short
      refine ih later (fun j inside => ?_) (by omega) resolves
      have low : j < 512 * (0 + sub.length) := by omega
      rw [fill_append, fill_before low]
      exact fill_inside (Nat.zero_le _) low

theorem lba_inj {c d : UInt16} (same : lba c = lba d) : c = d := by
  refine UInt16.toNat_inj.mp ?_
  simp only [lba, FAT16_DATAAREA_LBA] at same
  omega

theorem transfers_inj {address : UInt32} {other : List UInt16}
    (same : transfers address cells = transfers address other) : cells = other := by
  induction cells generalizing address other with
  | nil =>
      cases other with
      | nil => rfl
      | cons d tail => cases same
  | cons c rest ih =>
      cases other with
      | nil => cases same
      | cons d tail =>
          obtain ⟨first, later⟩ := List.cons.inj same
          rw [lba_inj (Prod.mk.inj first).2, ih later]

end Tree

section Text

variable {name rest chars : List UInt8}

theorem scan_plain (plain : ∀ ch ∈ chars, ch ≠ 0 ∧ ch ≠ slash ∧ ch ≠ dot) (left : Nat) :
    scan (left + chars.length) (chars ++ rest) name = scan left rest (name ++ chars) := by
  induction chars generalizing name with
  | nil => simp
  | cons ch tail ih =>
      obtain ⟨-, noSlash, noDot⟩ := plain ch List.mem_cons_self
      rw [List.length_cons, ← Nat.add_assoc, List.cons_append, scan, if_neg noDot, if_neg noSlash,
        ih fun b member => plain b (List.mem_cons_of_mem _ member), List.append_assoc]
      rfl

theorem scan_slash (dir : Component) :
    scan 12 (dir.chars ++ slash :: rest) [] = .slash dir.chars (slash :: rest) := by
  have short := dir.short
  have split : 12 = (11 - dir.chars.length) + 1 + dir.chars.length := by omega
  rw [split, scan_plain dir.plain, scan, if_neg (by decide), if_pos rfl, List.nil_append]

theorem scan_dot (base : Component) :
    scan 12 (base.chars ++ dot :: rest) [] = .dot base.chars rest := by
  have short := base.short
  have split : 12 = (11 - base.chars.length) + 1 + base.chars.length := by omega
  rw [split, scan_plain base.plain, scan, if_pos rfl, List.nil_append]

theorem padded_head (comp : Component) (size : Nat) (tail : List UInt8) :
    (padded size comp.chars ++ tail).head? ≠ some 0 := by
  obtain ⟨ch, rest, same⟩ := List.exists_cons_of_ne_nil comp.nonempty
  have plain := (comp.plain ch (same ▸ List.mem_cons_self)).1
  rw [padded, same]
  intro zero
  exact plain (Option.some.inj zero)

theorem dirName_head (dir : Component) : (dirName dir).head? ≠ some 0 := by
  have head := padded_head dir 11 []
  rwa [List.append_nil] at head

theorem dirsText_append (dirs : List Component) (front back : List UInt8) :
    dirsText dirs (front ++ back) = dirsText dirs front ++ back := by
  induction dirs with
  | nil => rfl
  | cons dir rest ih =>
      simp only [dirsText, List.foldr_cons, List.cons_append, List.append_assoc] at ih ⊢
      rw [ih]

def body (path : ShortPath) : List UInt8 :=
  dirsText path.dirs (slash :: path.base.chars ++ dot :: path.ext.chars)

theorem text_eq (path : ShortPath) : text path = body path ++ [0] := by
  rw [text, fileText, dirsText_append, body]

theorem mem_dirsText {dirs : List Component} {ch : UInt8} (member : ch ∈ dirsText dirs rest) :
    ch = slash ∨ (∃ dir ∈ dirs, ch ∈ dir.chars) ∨ ch ∈ rest := by
  induction dirs with
  | nil => exact .inr (.inr member)
  | cons dir tail ih =>
      obtain first | later := List.mem_cons.mp (show ch ∈ slash :: (dir.chars ++ dirsText tail rest)
        from member)
      · exact .inl first
      · obtain own | behind := List.mem_append.mp later
        · exact .inr (.inl ⟨dir, List.mem_cons_self, own⟩)
        · obtain isSlash | ⟨other, inside, own⟩ | last := ih behind
          · exact .inl isSlash
          · exact .inr (.inl ⟨other, List.mem_cons_of_mem _ inside, own⟩)
          · exact .inr (.inr last)

theorem body_ne_zero (path : ShortPath) : ∀ ch ∈ body path, ch ≠ 0 := by
  intro ch member
  obtain rfl | ⟨dir, -, own⟩ | last := mem_dirsText member
  · decide
  · exact (dir.plain ch own).1
  · obtain rfl | later := List.mem_cons.mp last
    · decide
    · obtain own | behind := List.mem_append.mp later
      · exact (path.base.plain ch own).1
      · obtain rfl | own := List.mem_cons.mp behind
        · decide
        · exact (path.ext.plain ch own).1

theorem countFrom_eq (nonzero : ∀ ch ∈ chars, ch ≠ 0) (max : Nat) :
    countFrom max (chars ++ [0]) = some (((chars ++ [0]).take max).count slash) := by
  induction chars generalizing max with
  | nil =>
      obtain _ | max := max
      · rfl
      · simp only [List.nil_append, countFrom, if_pos, List.take_succ_cons]
        rw [List.take_nil]
        rfl
  | cons ch rest ih =>
      obtain _ | max := max
      · rfl
      · rw [List.cons_append, countFrom, if_neg (nonzero ch List.mem_cons_self),
          ih fun b member => nonzero b (List.mem_cons_of_mem _ member), List.take_succ_cons]
        by_cases isSlash : ch = slash
        · rw [if_pos isSlash, isSlash, List.count_cons_self]
          rfl
        · rw [if_neg isSlash, List.count_cons_of_ne isSlash]

theorem fsPathCount_eq (path : ShortPath) : fsPathCount (text path) = some (counted path) := by
  rw [fsPathCount, counted, text_eq, countFrom_eq (body_ne_zero path)]

theorem count_plain (plain : ∀ ch ∈ chars, ch ≠ 0 ∧ ch ≠ slash ∧ ch ≠ dot) :
    chars.count slash = 0 :=
  List.count_eq_zero_of_not_mem fun member => (plain slash member).2.1 rfl

theorem count_dirsText (dirs : List Component) :
    (dirsText dirs rest).count slash = dirs.length + rest.count slash := by
  induction dirs with
  | nil => exact (Nat.zero_add _).symm
  | cons dir tail ih =>
      have first : dirsText (dir :: tail) rest = slash :: (dir.chars ++ dirsText tail rest) := rfl
      rw [first, List.count_cons_self, List.count_append, count_plain dir.plain, ih,
        List.length_cons]
      omega

/-- There are as many slashes as components, and the first byte is one. -/
theorem counted_bounds (path : ShortPath) :
    0 < counted path ∧ counted path ≤ path.dirs.length + 1 := by
  constructor
  · have first : ∃ tail, text path = slash :: tail := by
      unfold text
      obtain _ | ⟨dir, rest⟩ := path.dirs
      · exact ⟨_, rfl⟩
      · exact ⟨_, rfl⟩
    obtain ⟨tail, same⟩ := first
    rw [counted, same, List.take_succ_cons, List.count_cons_self]
    exact Nat.succ_pos _
  · refine Nat.le_trans ((List.take_sublist _ _).count_le slash) ?_
    have file : (fileText path).count slash = 1 := by
      have split : fileText path =
          slash :: (path.base.chars ++ dot :: (path.ext.chars ++ [0])) := by
        simp [fileText]
      rw [split, List.count_cons_self, List.count_append, count_plain path.base.plain,
        List.count_cons_of_ne (by decide), List.count_append, count_plain path.ext.plain]
      decide
    rw [text, count_dirsText, file]

end Text

section Levels

variable {sys : System} {address : UInt32} {path : ShortPath} {nLevels fuel left l : Nat}
  {dir : Component} {src : Directory} {p : List UInt8}

/-- Whatever the levels behind a directory are, they start with a slash. -/
theorem dirsText_head (path : ShortPath) (dirs : List Component) :
    ∃ tail, dirsText dirs (fileText path) = slash :: tail := by
  obtain _ | ⟨dir, rest⟩ := dirs
  · exact ⟨_, rfl⟩
  · exact ⟨_, rfl⟩

theorem level_noMemory (full : sys.malloc l = .fails) :
    levels sys address nLevels fuel (left + 1) l (slash :: dir.chars ++ slash :: p) src =
      some (.returns (-1) []) := by
  simp only [List.cons_append, levels, ne_eq, not_true_eq_false, if_false, scan_slash, full]

theorem level_dies (dies : sys.malloc l = .dies) :
    levels sys address nLevels fuel (left + 1) l (slash :: dir.chars ++ slash :: p) src = none := by
  simp only [List.cons_append, levels, ne_eq, not_true_eq_false, if_false, scan_slash, dies]

theorem level_forever {buffer : Directory} (memory : sys.malloc l = .buffer buffer)
    (load : fsLoadFile (storeLevel sys) (fun _ => fat sys.mem) fuel (dirName dir) ⟨0, buffer⟩ src =
      none) :
    levels sys address nLevels fuel (left + 1) l (slash :: dir.chars ++ slash :: p) src = none := by
  unfold dirName at load
  simp only [List.cons_append, levels, ne_eq, not_true_eq_false, if_false, scan_slash, memory, load]

theorem level_fails {buffer : Directory} (memory : sys.malloc l = .buffer buffer)
    (load : fsLoadFile (storeLevel sys) (fun _ => fat sys.mem) fuel (dirName dir) ⟨0, buffer⟩ src =
      some .fails) :
    levels sys address nLevels fuel (left + 1) l (slash :: dir.chars ++ slash :: p) src =
      some (.returns (-1) []) := by
  unfold dirName at load
  simp only [List.cons_append, levels, ne_eq, not_true_eq_false, if_false, scan_slash, memory, load]

theorem level_outside {buffer : Directory} (memory : sys.malloc l = .buffer buffer)
    (load : fsLoadFile (storeLevel sys) (fun _ => fat sys.mem) fuel (dirName dir) ⟨0, buffer⟩ src =
      some .outside) :
    levels sys address nLevels fuel (left + 1) l (slash :: dir.chars ++ slash :: p) src =
      some .outside := by
  unfold dirName at load
  simp only [List.cons_append, levels, ne_eq, not_true_eq_false, if_false, scan_slash, memory, load]

theorem level_done {buffer : Directory} {s : LevelLoad} (memory : sys.malloc l = .buffer buffer)
    (load : fsLoadFile (storeLevel sys) (fun _ => fat sys.mem) fuel (dirName dir) ⟨0, buffer⟩ src =
      some (.done s)) :
    levels sys address nLevels fuel (left + 1) l (slash :: dir.chars ++ slash :: p) src =
      levels sys address nLevels fuel left (l + 1) (slash :: p) s.buffer := by
  unfold dirName at load
  simp only [List.cons_append, levels, ne_eq, not_true_eq_false, if_false, scan_slash, memory, load]

theorem dirsText_cons (dir : Component) (tail : List Component) (rest : List UInt8) :
    dirsText (dir :: tail) rest = slash :: dir.chars ++ dirsText tail rest := rfl

theorem levels_enters {dirs : List Component} {reached : Directory}
    (enters : Enters sys l src dirs reached) (room : dirs.length ≤ left) (rest : List Component) :
    ∃ enough, ∀ fuel ≥ enough,
      levels sys address nLevels fuel left l (dirsText (dirs ++ rest) (fileText path)) src =
        levels sys address nLevels fuel (left - dirs.length) (l + dirs.length)
          (dirsText rest (fileText path)) reached := by
  induction dirs generalizing l src left with
  | nil =>
      obtain rfl := enters
      exact ⟨0, fun fuel _ => rfl⟩
  | cons dir tail ih =>
      obtain ⟨buffer, c, sub, memory, found, accepted, chain, short, later⟩ := enters
      obtain _ | left := left
      · exact absurd room (Nat.not_succ_le_zero _)
      · rw [List.length_cons] at room ⊢
        obtain ⟨enough, run⟩ := ih later (Nat.le_of_succ_le_succ room)
        obtain ⟨p, next⟩ := dirsText_head path (tail ++ rest)
        refine ⟨max enough sub.length, fun fuel more => ?_⟩
        obtain ⟨s, done, there⟩ := @nextEntry_level sys c sub (fat sys.mem) buffer 0 fuel chain
          (not_isLast_of_not_refused accepted) (by omega) (by omega)
        have load := (fsLoadFile_found (dirName_head dir) found accepted).trans done
        have rest := run fuel (by omega)
        rw [List.cons_append, dirsText_cons, next, level_done memory load, ← next, there, rest,
          Nat.succ_sub_succ, Nat.add_assoc, Nat.add_comm 1]

/-- There is no memory for a directory, or its cluster is refused. -/
def GivenUp (sys : System) (l : Nat) (src : Directory) (name : Component) : Prop :=
  sys.malloc l = .fails ∨ ∃ buffer c, sys.malloc l = .buffer buffer ∧
    lookup src 512 (dirName name) = some c ∧ Refused c

/-- A directory that is not entered: the load gives up there, or malloc stops, or the name is
    missing, or the chain is too long. -/
def Blocked (sys : System) (l : Nat) (src : Directory) (name : Component) : Prop :=
  GivenUp sys l src name ∨ sys.malloc l = .dies ∨
    ∃ buffer, sys.malloc l = .buffer buffer ∧ (lookup src 512 (dirName name) = none ∨
      ∃ c, lookup src 512 (dirName name) = some c ∧ ¬Refused c ∧
        ∀ sub, Chain walkMarks (fat sys.mem) c sub → 32 < sub.length)

theorem enters_or_blocked (sys : System) (dirs : List Component) (l : Nat) (src : Directory) :
    (∃ reached, Enters sys l src dirs reached) ∨ ∃ entered name rest reached,
      dirs = entered ++ name :: rest ∧ Enters sys l src entered reached ∧
        Blocked sys (l + entered.length) reached name := by
  induction dirs generalizing l src with
  | nil => exact .inl ⟨src, rfl⟩
  | cons dir tail ih =>
      by_cases stops : Blocked sys l src dir
      · exact .inr ⟨[], dir, tail, src, rfl, rfl, stops⟩
      · obtain ⟨given, found⟩ := not_or.mp stops
        cases memory : sys.malloc l with
        | fails => exact absurd (.inl memory) given
        | dies => exact absurd (.inl memory) found
        | buffer buffer =>
            obtain ⟨there, short⟩ := not_or.mp fun missing => found (.inr ⟨buffer, memory, missing⟩)
            obtain ⟨c, entry⟩ := Option.ne_none_iff_exists'.mp there
            have accepted : ¬Refused c := fun refused =>
              given (.inr ⟨buffer, c, memory, entry, refused⟩)
            have chain : ∃ sub, Chain walkMarks (fat sys.mem) c sub ∧ sub.length ≤ 32 := by
              by_contra none
              refine short ⟨c, entry, accepted, fun sub chain => Nat.lt_of_not_le fun few => ?_⟩
              exact none ⟨sub, chain, few⟩
            obtain ⟨sub, walk, few⟩ := chain
            obtain ⟨reached, later⟩ | ⟨entered, name, rest, reached, split, later, blocked⟩ :=
              ih (l + 1) (fill sys buffer 0 sub)
            · exact .inl ⟨reached, buffer, c, sub, memory, entry, accepted, walk, few, later⟩
            · refine .inr ⟨dir :: entered, name, rest, reached, by rw [split]; rfl,
                ⟨buffer, c, sub, memory, entry, accepted, walk, few, later⟩, ?_⟩
              rw [List.length_cons, Nat.add_comm entered.length, ← Nat.add_assoc]
              exact blocked

/-- There the load gives up, or it goes on for ever or behind the buffer. -/
theorem blocked_level {name : Component} {rest : List Component}
    (blocked : Blocked sys l src name) :
    (GivenUp sys l src name ∧
      ∀ fuel, levels sys address nLevels fuel (left + 1) l
        (dirsText (name :: rest) (fileText path)) src = some (.returns (-1) [])) ∨
    ∀ fuel ≥ 33, ∀ result, levels sys address nLevels fuel (left + 1) l
      (dirsText (name :: rest) (fileText path)) src = some result → result = .outside := by
  obtain ⟨p, next⟩ := dirsText_head path rest
  rw [dirsText_cons, next]
  obtain given | dies | ⟨buffer, memory, missing | ⟨c, found, accepted, long⟩⟩ := blocked
  · refine .inl ⟨given, fun fuel => ?_⟩
    obtain full | ⟨buffer, c, memory, found, refused⟩ := given
    · exact level_noMemory full
    · exact level_fails memory (fsLoadFile_refused (dirName_head name) found refused)
  · refine .inr fun fuel _ result ended => ?_
    rw [level_dies dies] at ended
    cases ended
  · refine .inr fun fuel _ result ended => ?_
    rw [level_forever memory (fsLoadFile_missing (dirName_head name) missing)] at ended
    cases ended
  · refine .inr fun fuel enough result ended => ?_
    have load : nextEntry (storeLevel sys) (fun _ => fat sys.mem) fuel ⟨0, buffer⟩ c =
        some .outside :=
      nextEntry_outside (not_isLast_of_not_refused accepted)
        (fun sub chain => by rw [Nat.zero_add]; exact long sub chain)
        (by omega : 33 ≤ 0 + fuel) (Nat.zero_le _)
    rw [level_outside memory ((fsLoadFile_found (dirName_head name) found accepted).trans load)]
      at ended
    exact (Option.some.inj ended).symm

theorem fileName_head (path : ShortPath) : (fileName path).head? ≠ some 0 :=
  padded_head path.base 8 path.ext.chars

theorem fileText_eq (path : ShortPath) :
    fileText path = slash :: (path.base.chars ++ dot :: (path.ext.chars ++ [0])) := by
  simp [fileText]

theorem ext_take (path : ShortPath) :
    ¬(path.ext.chars ++ [0]).length < 4 ∧ (path.ext.chars ++ [0]).take 3 = path.ext.chars := by
  have three := path.three
  constructor
  · rw [List.length_append, three]
    decide
  · rw [← three]
    exact List.take_left

theorem file_short (long : 7 ≤ path.base.chars.length) :
    levels sys address nLevels fuel (left + 1) l (fileText path) src = some (.returns (-1) []) := by
  rw [fileText_eq]
  by_cases last : l + 1 ≠ nLevels
  · simp only [levels, ne_eq, not_true_eq_false, if_false, scan_dot, if_pos last]
  · simp only [levels, ne_eq, not_true_eq_false, if_false, scan_dot, if_neg last, if_pos long]

theorem file_forever (last : l + 1 = nLevels) (short : path.base.chars.length < 7)
    (load : fsLoadFile (storeFile sys) (fun s => fat s.mem) fuel (fileName path)
      (fileStart sys address) src = none) :
    levels sys address nLevels fuel (left + 1) l (fileText path) src = none := by
  obtain ⟨enough, ext⟩ := ext_take path
  unfold fileName at load
  rw [fileText_eq]
  simp only [levels, ne_eq, not_true_eq_false, if_false, scan_dot, last,
    if_neg (Nat.not_le.mpr short),
    if_neg enough, ext, load]

theorem file_fails (last : l + 1 = nLevels) (short : path.base.chars.length < 7)
    (load : fsLoadFile (storeFile sys) (fun s => fat s.mem) fuel (fileName path)
      (fileStart sys address) src = some .fails) :
    levels sys address nLevels fuel (left + 1) l (fileText path) src = some (.returns (-1) []) := by
  obtain ⟨enough, ext⟩ := ext_take path
  unfold fileName at load
  rw [fileText_eq]
  simp only [levels, ne_eq, not_true_eq_false, if_false, scan_dot, last,
    if_neg (Nat.not_le.mpr short),
    if_neg enough, ext, load]

theorem file_done {s : FileLoad} (last : l + 1 = nLevels) (short : path.base.chars.length < 7)
    (load : fsLoadFile (storeFile sys) (fun s => fat s.mem) fuel (fileName path)
      (fileStart sys address) src = some (.done s)) :
    levels sys address nLevels fuel (left + 1) l (fileText path) src =
      some (.returns 0 s.read) := by
  obtain ⟨enough, ext⟩ := ext_take path
  unfold fileName at load
  rw [fileText_eq]
  simp only [levels, ne_eq, not_true_eq_false, if_false, scan_dot, last,
    if_neg (Nat.not_le.mpr short),
    if_neg enough, ext, load]

end Levels

section Loads

variable {sys : System} {address : UInt32} {path : ShortPath}

theorem text_head (path : ShortPath) : (text path).head? = some slash := by
  obtain ⟨tail, same⟩ := dirsText_head path path.dirs
  rw [text, same]
  rfl

theorem fsLoadPath_nowhere (fuel : Nat) :
    fsLoadPath sys 0 fuel (text path) = some (.returns (-1) []) := by
  have head := text_head path
  have some : counted path ≠ 0 := Nat.ne_of_gt (counted_bounds path).1
  unfold fsLoadPath
  rw [head, if_neg (by decide), if_neg (by decide), fsPathCount_eq]
  simp only [if_neg some, if_true]

theorem fsLoadPath_levels (somewhere : address ≠ 0) (fuel : Nat) :
    fsLoadPath sys address fuel (text path) =
      levels sys address (counted path) fuel (counted path) 0 (text path) (rootDirectory sys) := by
  have head := text_head path
  have some : counted path ≠ 0 := Nat.ne_of_gt (counted_bounds path).1
  unfold fsLoadPath
  rw [head, if_neg (by decide), if_neg (by decide), fsPathCount_eq]
  simp only [if_neg some, if_neg somewhere]

theorem fsLoadPath_enters (somewhere : address ≠ 0) {entered rest : List Component}
    {reached : Directory} (split : path.dirs = entered ++ rest)
    (enters : Enters sys 0 (rootDirectory sys) entered reached)
    (room : entered.length ≤ counted path) :
    ∃ enough, ∀ fuel ≥ enough, fsLoadPath sys address fuel (text path) =
      levels sys address (counted path) fuel (counted path - entered.length) entered.length
        (dirsText rest (fileText path)) reached := by
  obtain ⟨enough, run⟩ := @levels_enters sys address path (counted path) (counted path) 0
    (rootDirectory sys) entered reached enters room rest
  refine ⟨enough, fun fuel more => ?_⟩
  have start : text path = dirsText (entered ++ rest) (fileText path) := by
    rw [text, split]
  rw [fsLoadPath_levels somewhere, start, run fuel more, Nat.zero_add]

theorem right_minus (sys : System) (address : UInt32) (path : ShortPath) :
    Right sys address path (.returns (-1) []) :=
  fun zero => absurd zero (by decide)

theorem loads_of_stops (stops : Stops sys address path (counted path)) :
    Loads sys address path := by
  refine ⟨.returns (-1) [], ?_, right_minus sys address path⟩
  by_cases nowhere : address = 0
  · exact ⟨0, fun fuel _ => nowhere ▸ fsLoadPath_nowhere fuel⟩
  · obtain ⟨entered, rest, dir, split, room, enters, stop⟩ := stops.resolve_left nowhere
    obtain ⟨enough, run⟩ := fsLoadPath_enters nowhere split enters room
    refine ⟨enough, fun fuel more => ?_⟩
    rw [run fuel more]
    obtain full | some := Nat.eq_or_lt_of_le room
    · rw [full, Nat.sub_self, levels]
    · obtain ⟨left, count⟩ := Nat.exists_eq_add_of_lt some
      rw [show counted path - entered.length = left + 1 by omega]
      cases rest with
      | nil =>
          obtain full | long | ⟨c, found, refused⟩ := stop
          · omega
          · exact file_short long
          · by_cases long : 7 ≤ path.base.chars.length
            · exact file_short long
            · have bound := (counted_bounds path).2
              rw [split, List.append_nil] at bound
              exact file_fails (by omega) (Nat.lt_of_not_le long)
                (fsLoadFile_refused (fileName_head path) found refused)
      | cons name tail =>
          obtain ⟨p, next⟩ := dirsText_head path tail
          rw [dirsText_cons, next]
          obtain full | none | ⟨buffer, c, memory, found, refused⟩ := stop
          · omega
          · exact level_noMemory none
          · exact level_fails memory (fsLoadFile_refused (dirName_head name) found refused)

theorem loads_of_opens (opens : Opens sys address path (counted path)) :
    Loads sys address path := by
  obtain ⟨somewhere, count, short, dir, cells, enters, resolves, followed⟩ := opens
  obtain ⟨nonempty, c, found, chain⟩ := lookup_of_resolves enters (fun _ _ => rfl)
    (Nat.le_refl 512) resolves
  obtain ⟨d, rest, rfl⟩ := List.exists_cons_of_ne_nil nonempty
  obtain ⟨rfl, cell, -⟩ := chain
  obtain ⟨enough, run⟩ := fsLoadPath_enters somewhere (List.append_nil path.dirs).symm enters
    (by omega)
  refine ⟨.returns 0 (transfers address (c :: rest)), ⟨max enough (rest.length + 1), ?_⟩,
    fun _ => ⟨c :: rest, resolves, rfl⟩⟩
  intro fuel more
  obtain ⟨s, done, read⟩ := nextEntry_followed [] followed
    (by omega : rest.length < fuel)
  have load : fsLoadFile (storeFile sys) (fun s => fat s.mem) fuel (fileName path)
      (fileStart sys address) dir = some (.done s) :=
    (fsLoadFile_found (fileName_head path) found (not_refused_of_cell cell)).trans done
  rw [run fuel (by omega), show counted path - path.dirs.length = 0 + 1 by omega]
  rw [List.nil_append] at read
  rw [← read]
  exact file_done count.symm short load

theorem fits_of_loads (loads : Loads sys address path) :
    Stops sys address path (counted path) ∨ Opens sys address path (counted path) := by
  obtain ⟨result, ⟨enough, ends⟩, right⟩ := loads
  by_cases nowhere : address = 0
  · exact .inl (.inl nowhere)
  · have bounds := counted_bounds path
    obtain ⟨reached, enters⟩ | ⟨entered, name, rest, reached, split, enters, blocked⟩ :=
      enters_or_blocked sys (path.dirs.take (counted path)) 0 (rootDirectory sys)
    · by_cases used : counted path ≤ path.dirs.length
      · -- The levels that are counted are used up.
        have length : (path.dirs.take (counted path)).length = counted path :=
          List.length_take_of_le used
        refine .inl (.inr ⟨_, path.dirs.drop (counted path), reached,
          (List.take_append_drop _ _).symm, Nat.le_of_eq length, enters, ?_⟩)
        cases path.dirs.drop (counted path) with
        | nil => exact .inl length
        | cons name rest => exact .inl length
      · rw [List.take_of_length_le (by omega)] at enters
        have split : path.dirs = path.dirs ++ [] := (List.append_nil _).symm
        by_cases long : 7 ≤ path.base.chars.length
        · exact .inl (.inr ⟨path.dirs, [], reached, split, by omega, enters, .inr (.inl long)⟩)
        · have short := Nat.lt_of_not_le long
          obtain ⟨later, run⟩ := fsLoadPath_enters nowhere split enters (by omega)
          have file := (run (max enough later) (Nat.le_max_right _ _)).symm.trans
            (ends _ (Nat.le_max_left _ _))
          rw [show counted path - path.dirs.length = 0 + 1 by omega] at file
          change levels sys address (counted path) _ (0 + 1) _ (fileText path) reached = _ at file
          have last : path.dirs.length + 1 = counted path := by omega
          cases found : lookup reached 512 (fileName path) with
          | none =>
              rw [file_forever last short (fsLoadFile_missing (fileName_head path) found)] at file
              cases file
          | some c =>
              by_cases refused : Refused c
              · exact .inl (.inr ⟨path.dirs, [], reached, split, by omega, enters,
                  .inr (.inr ⟨c, found, refused⟩)⟩)
              · have load : fsLoadFile (storeFile sys) (fun s => fat s.mem) (max enough later)
                    (fileName path) (fileStart sys address) reached =
                    nextEntry (storeFile sys) (fun s => fat s.mem) (max enough later)
                      (fileStart sys address) c :=
                  fsLoadFile_found (fileName_head path) found refused
                cases walked : nextEntry (storeFile sys) (fun s => fat s.mem) (max enough later)
                    (fileStart sys address) c with
                | none =>
                    rw [file_forever last short (load.trans walked)] at file
                    cases file
                | some loaded =>
                    obtain ⟨s, tail, rfl, followed, read⟩ := followed_of_nextEntry walked
                    rw [file_done last short (load.trans walked)] at file
                    obtain rfl := Option.some.inj file
                    obtain ⟨cells, resolves, same⟩ := right rfl
                    have equal : c :: tail = cells := transfers_inj (read.symm.trans same)
                    exact .inr ⟨nowhere, last.symm, short, reached, cells, enters, resolves,
                      equal ▸ followed⟩
    · have within : entered.length < counted path := by
        have length := congrArg List.length split
        rw [List.length_take, List.length_append, List.length_cons] at length
        omega
      have whole : path.dirs = entered ++ name :: (rest ++ path.dirs.drop (counted path)) := by
        rw [← List.cons_append, ← List.append_assoc, ← split, List.take_append_drop]
      obtain ⟨left, count⟩ := Nat.exists_eq_add_of_lt within
      obtain ⟨later, run⟩ := fsLoadPath_enters nowhere whole enters (Nat.le_of_lt within)
      rw [show counted path - entered.length = left + 1 by omega] at run
      rw [Nat.zero_add] at blocked
      obtain ⟨given, -⟩ | outside := @blocked_level sys address path (counted path) left
        entered.length reached name (rest ++ path.dirs.drop (counted path)) blocked
      · exact .inl (.inr ⟨entered, _, reached, whole, Nat.le_of_lt within, enters, .inr given⟩)
      · -- A load that does not end, or that is written behind the buffer, is not right.
        have level := (run (max 33 (max enough later)) (by omega)).symm.trans (ends _ (by omega))
        obtain rfl := outside _ (by omega) result level
        exact absurd right not_false

end Loads

/-- The load ends right exactly where it gives up in time, or the file is there. -/
theorem fsLoadPath_iff (sys : System) (address : UInt32) (path : ShortPath) :
    Loads sys address path ↔
      Stops sys address path (counted path) ∨ Opens sys address path (counted path) := by
  constructor
  · exact fits_of_loads
  · rintro (stops | opens)
    · exact loads_of_stops stops
    · exact loads_of_opens opens

def bin : Component where
  chars := [66, 73, 78]
  nonempty := by decide
  short := by decide
  plain := by
    simp only [List.mem_cons, List.not_mem_nil, or_false]
    rintro ch (rfl | rfl | rfl)
    · decide
    · decide
    · decide

/-- In an empty root directory the search for /BIN.BIN does not end. -/
theorem missing_file_hangs : ∃ sys address path, ¬Loads sys address path := by
  refine ⟨⟨fun _ => 0, fun _ _ => 0, fun _ => .fails⟩, 0x100000, ⟨[], bin, bin, rfl⟩, ?_⟩
  rintro ⟨result, ⟨enough, ends⟩, -⟩
  have missing : ∀ name,
      lookup (rootDirectory ⟨fun _ => 0, fun _ _ => 0, fun _ => .fails⟩) 512 name =
      none := by
    intro name
    rw [lookup, first_eq_none.mpr, Option.map_none]
    rintro z - ⟨used, -⟩
    exact used ⟨rfl, rfl⟩
  have one : counted ⟨[], bin, bin, rfl⟩ = 0 + 1 := by decide
  have ended := ends enough (Nat.le_refl _)
  rw [fsLoadPath_levels (by decide), one] at ended
  have never := (file_forever rfl (by decide)
    (fsLoadFile_missing (fileName_head ⟨[], bin, bin, rfl⟩) (missing _))).symm.trans ended
  cases never

end Gramado.Blgram.PathLoads
