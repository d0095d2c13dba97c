/-
fs.c of the boot loader: fs_path_count, fs_load_path and fsLoadFile, with the root directory
and the FAT in memory. A pointer into the path is what is left of its text, with the NUL. A
sector that read_lba is asked for is read.
-/
import Gramado.Lib.Links
import Gramado.Lib.Search

namespace Gramado.Blgram.LoadPath

open Gramado.Lib.Links
open Gramado.Lib.Search

def FAT16_FAT_ADDRESS : UInt32 := 0x1000000 - 0x400000

def FAT16_ROOTDIR_ADDRESS : UInt32 := 0x1000000 - 0x100000

def FAT16_DATAAREA_LBA : Nat := 591

def SECTOR_SIZE : Nat := 512

/-- What malloc is asked for: 512 entries of 32 bytes. -/
def LEVEL_SIZE : Nat := 512 * 32

abbrev Memory := UInt32 → UInt8

/-- The bytes of a directory. -/
abbrev Directory := Nat → UInt8

/-- What malloc does: it gives a buffer with what is in it, or NULL, or never returns, as it
    stops for ever at its 256th block. -/
inductive Allocation where
  | buffer (contents : Directory)
  | fails
  | dies

/-- The bytes of a sector by its number, and the calls of malloc. -/
structure System where
  mem : Memory
  disk : Nat → Nat → UInt8
  malloc : Nat → Allocation

def slash : UInt8 := 47

def dot : UInt8 := 46

def space : UInt8 := 32

/-- `fat[cluster]`. -/
def fat (mem : Memory) (cluster : UInt16) : UInt16 :=
  let address := FAT16_FAT_ADDRESS + 2 * cluster.toUInt32
  (mem address).toUInt16 + 256 * (mem (address + 1)).toUInt16

def rootDirectory (sys : System) : Directory := fun k =>
  sys.mem (FAT16_ROOTDIR_ADDRESS + UInt32.ofNat k)

def lba (cluster : UInt16) : Nat :=
  FAT16_DATAAREA_LBA + cluster.toNat - 2

section Search

/-- Byte `k` of an entry. -/
def entryByte (dir : Directory) (z k : Nat) : UInt8 :=
  dir (32 * z + k)

/-- Its first word is not zero, and its eleven bytes are the name. -/
def Named (dir : Directory) (name : List UInt8) (z : Nat) : Prop :=
  ¬(entryByte dir z 0 = 0 ∧ entryByte dir z 1 = 0) ∧ ∀ k < 11, name[k]? = some (entryByte dir z k)

instance (dir : Directory) (name : List UInt8) : DecidablePred (Named dir name) := fun _ =>
  inferInstanceAs (Decidable (_ ∧ _))

/-- The cluster of the first of `n` entries with the name. -/
def lookup (dir : Directory) (n : Nat) (name : List UInt8) : Option UInt16 :=
  (first n (Named dir name)).map fun z =>
    (entryByte dir z 26).toUInt16 + 256 * (entryByte dir z 27).toUInt16

end Search

section Load

variable {σ : Type}

def IsLast (cluster : UInt16) : Prop :=
  cluster = 0xFFFF ∨ cluster = 0xFFF8

instance : DecidablePred IsLast := fun _ => inferInstanceAs (Decidable (_ ∨ _))

/-- How the load of a file ends: a failure, a write behind the buffer, or what is there. -/
inductive Loaded (σ : Type) where
  | fails
  | outside
  | done (s : σ)

/-- The loop over the clusters, as far as the fuel goes. -/
def nextEntry (store : σ → UInt16 → Option σ) (table : σ → UInt16 → UInt16) :
    Nat → σ → UInt16 → Option (Loaded σ)
  | 0, _, _ => none
  | fuel + 1, s, cluster =>
      match store s cluster with
      | none => some .outside
      | some s =>
          let next := table s cluster
          if IsLast next then
            some (.done s)
          else
            nextEntry store table fuel s next

/-- No fuel is enough for a name that is not in the directory. -/
def fsLoadFile (store : σ → UInt16 → Option σ) (table : σ → UInt16 → UInt16) (fuel : Nat)
    (name : List UInt8) (s : σ) (dir : Directory) : Option (Loaded σ) :=
  if name.head? = some 0 then
    some .fails
  else
    match lookup dir 512 name with
    | none => none
    | some cluster =>
        if cluster = 0 ∨ cluster > 0xFFF0 then
          some .fails
        else
          nextEntry store table fuel s cluster

/-- The file: where its next sector goes, and the sectors that have been read so far. -/
structure FileLoad where
  mem : Memory
  address : UInt32
  read : List (UInt32 × Nat)

def storeSector (sys : System) (mem : Memory) (address : UInt32) (cluster : UInt16) : Memory :=
  fun a => if (a - address).toNat < SECTOR_SIZE then sys.disk (lba cluster) (a - address).toNat
    else mem a

def storeFile (sys : System) (s : FileLoad) (cluster : UInt16) : Option FileLoad :=
  some ⟨storeSector sys s.mem s.address cluster, s.address + 512,
    s.read ++ [(s.address, lba cluster)]⟩

/-- A directory: its next sector, and the buffer. -/
structure LevelLoad where
  next : Nat
  buffer : Directory

def putSector (sys : System) (buffer : Directory) (k : Nat) (cluster : UInt16) : Directory :=
  fun j => if SECTOR_SIZE * k ≤ j ∧ j < SECTOR_SIZE * (k + 1) then
    sys.disk (lba cluster) (j - SECTOR_SIZE * k) else buffer j

def storeLevel (sys : System) (s : LevelLoad) (cluster : UInt16) : Option LevelLoad :=
  if SECTOR_SIZE * s.next + SECTOR_SIZE > LEVEL_SIZE then
    none
  else
    some ⟨s.next + 1, putSector sys s.buffer s.next cluster⟩

end Load

section Path

/-- What is returned, with the sectors of the file, or what went wrong in memory: a read
    behind the NUL of the path, or a write behind a directory's buffer. -/
inductive Result where
  | returns (code : Int) (read : List (UInt32 × Nat))
  | beyond
  | outside

/-- The loop of `fs_path_count` over at most `max` bytes; none for a read behind the NUL. -/
def countFrom : Nat → List UInt8 → Option Nat
  | 0, _ => some 0
  | _ + 1, [] => none
  | max + 1, ch :: rest =>
      if ch = 0 then
        some 0
      else if ch = slash then
        (countFrom max rest).map (· + 1)
      else
        countFrom max rest

def fsPathCount (text : List UInt8) : Option Nat :=
  countFrom (80 * 25) text

/-- How the scan of a name ends: at a dot, at a slash, or after twelve bytes. -/
inductive Scanned where
  | beyond
  | dot (name rest : List UInt8)
  | slash (name rest : List UInt8)
  | full (rest : List UInt8)

def scan : Nat → List UInt8 → List UInt8 → Scanned
  | 0, rest, _ => .full rest
  | _ + 1, [], _ => .beyond
  | left + 1, ch :: rest, name =>
      if ch = dot then
        .dot name rest
      else if ch = slash then
        .slash name (ch :: rest)
      else
        scan left rest (name ++ [ch])

/-- The name with spaces up to a size. -/
def padded (size : Nat) (name : List UInt8) : List UInt8 :=
  name ++ List.replicate (size - name.length) space

def fileStart (sys : System) (address : UInt32) : FileLoad :=
  ⟨sys.mem, address, []⟩

/-- The loop over the levels, of which `left` are left from level `l` on. Four bytes are read
    behind the dot, the last of them for nothing. -/
def levels (sys : System) (address : UInt32) (nLevels fuel : Nat) :
    Nat → Nat → List UInt8 → Directory → Option Result
  | 0, _, _, _ => some (.returns (-1) [])
  | _ + 1, _, [], _ => some .beyond
  | left + 1, l, ch :: p, src =>
      if ch ≠ slash then
        some (.returns (-1) [])
      else
        match scan 12 p [] with
        | .beyond => some .beyond
        | .full rest => levels sys address nLevels fuel left (l + 1) rest src
        | .dot name rest =>
            if l + 1 ≠ nLevels then
              some (.returns (-1) [])
            else if name.length ≥ 7 then
              some (.returns (-1) [])
            else if rest.length < 4 then
              some .beyond
            else
              match fsLoadFile (storeFile sys) (fun s => fat s.mem) fuel
                  (padded 8 name ++ rest.take 3) (fileStart sys address) src with
              | none => none
              | some .fails => some (.returns (-1) [])
              | some .outside => some .outside
              | some (.done s) => some (.returns 0 s.read)
        | .slash name rest =>
            match sys.malloc l with
            | .dies => none
            | .fails => some (.returns (-1) [])
            | .buffer buffer =>
                match fsLoadFile (storeLevel sys) (fun _ => fat sys.mem) fuel (padded 11 name)
                    ⟨0, buffer⟩ src with
                | none => none
                | some .fails => some (.returns (-1) [])
                | some .outside => some .outside
                | some (.done s) => levels sys address nLevels fuel left (l + 1) rest s.buffer

def fsLoadPath (sys : System) (address : UInt32) (fuel : Nat) (text : List UInt8) :
    Option Result :=
  if text.head? = some 0 then
    some (.returns (-1) [])
  else if text.head? ≠ some slash then
    some (.returns (-1) [])
  else
    match fsPathCount text with
    | none => some .beyond
    | some nLevels =>
        if nLevels = 0 then
          some (.returns (-1) [])
        else if address = 0 then
          some (.returns (-1) [])
        else
          levels sys address nLevels fuel nLevels 0 text (rootDirectory sys)

end Path

section Resolution

/-- One to eight bytes of a short name. -/
structure Component where
  chars : List UInt8
  nonempty : chars ≠ []
  short : chars.length ≤ 8
  plain : ∀ ch ∈ chars, ch ≠ 0 ∧ ch ≠ slash ∧ ch ≠ dot

/-- An absolute path: directories, and a file with an extension of three bytes. -/
structure ShortPath where
  dirs : List Component
  base : Component
  ext : Component
  three : ext.chars.length = 3

/-- The text of the directories, and then a rest. -/
def dirsText (dirs : List Component) (rest : List UInt8) : List UInt8 :=
  dirs.foldr (fun dir text => slash :: dir.chars ++ text) rest

def fileText (path : ShortPath) : List UInt8 :=
  slash :: path.base.chars ++ dot :: path.ext.chars ++ [0]

def text (path : ShortPath) : List UInt8 :=
  dirsText path.dirs (fileText path)

def dirName (dir : Component) : List UInt8 :=
  padded 11 dir.chars

def fileName (path : ShortPath) : List UInt8 :=
  padded 8 path.base.chars ++ path.ext.chars

/-- The clusters of the data area, and the values that end a chain. -/
def fatMarks : Marks UInt16 where
  cell c := 2 ≤ c ∧ c ≤ 0xFFF0
  ends v := 0xFFF8 ≤ v
  apart c cell last := by
    have low := UInt16.le_iff_toNat_le.mp cell.2
    have high := UInt16.le_iff_toNat_le.mp last
    have := Nat.le_trans high low
    revert this
    decide

/-- The buffer with the sectors of the clusters, from the `k`-th on. -/
def fill (sys : System) : Directory → Nat → List UInt16 → Directory
  | buffer, _, [] => buffer
  | buffer, k, c :: rest => fill sys (putSector sys buffer k c) (k + 1) rest

/-- The cluster chain of the file, by the directories of the tree: `n` entries, then 16 in
    each sector of the next directory. -/
def Resolves (sys : System) : Directory → Nat → List (List UInt8) → List UInt16 → Prop
  | _, _, [], _ => False
  | dir, n, [name], cells => cells ≠ [] ∧ ∃ c, lookup dir n name = some c ∧
      Chain fatMarks (fat sys.mem) c cells
  | dir, n, name :: name' :: names, cells => ∃ c sub, sub ≠ [] ∧ lookup dir n name = some c ∧
      Chain fatMarks (fat sys.mem) c sub ∧
        Resolves sys (fill sys (fun _ => 0) 0 sub) (16 * sub.length) (name' :: names) cells

def names (path : ShortPath) : List (List UInt8) :=
  path.dirs.map dirName ++ [fileName path]

/-- The sectors of the clusters, each behind the one before it. -/
def transfers : UInt32 → List UInt16 → List (UInt32 × Nat)
  | _, [] => []
  | address, c :: rest => (address, lba c) :: transfers (address + 512) rest

/-- No access outside the path and the buffers, and a 0 only for exactly the sectors of the
    file. -/
def Right (sys : System) (address : UInt32) (path : ShortPath) : Result → Prop
  | .returns code read => code = 0 → ∃ cells,
      Resolves sys (rootDirectory sys) 512 (names path) cells ∧ read = transfers address cells
  | .beyond => False
  | .outside => False

/-- The load ends, and ends right. -/
def Loads (sys : System) (address : UInt32) (path : ShortPath) : Prop :=
  ∃ result, (∃ enough, ∀ fuel ≥ enough, fsLoadPath sys address fuel (text path) = some result) ∧
    Right sys address path result

/-- A start cluster that `fsLoadFile` refuses. -/
def Refused (c : UInt16) : Prop :=
  c = 0 ∨ c > 0xFFF0

/-- As the loop walks: only 0xFFFF and 0xFFF8 end a chain. -/
def walkMarks : Marks UInt16 where
  cell c := ¬IsLast c
  ends c := IsLast c
  apart _ cell last := cell last

/-- From level `l` on the directories are found one in the other, each with a buffer and a
    chain of at most 32 clusters, and the last one is this. -/
def Enters (sys : System) : Nat → Directory → List Component → Directory → Prop
  | _, dir, [], reached => reached = dir
  | l, dir, name :: rest, reached => ∃ buffer c sub, sys.malloc l = .buffer buffer ∧
      lookup dir 512 (dirName name) = some c ∧ ¬Refused c ∧
        Chain walkMarks (fat sys.mem) c sub ∧ sub.length ≤ 32 ∧
          Enters sys (l + 1) (fill sys buffer 0 sub) rest reached

/-- Behind some directories the load gives up: the levels that were counted are used up, or
    malloc fails, or it gives a buffer and the entry's cluster is refused, or the base has seven
    or eight bytes. -/
def StopsAt (sys : System) (path : ShortPath) (nLevels l : Nat) (dir : Directory) :
    List Component → Prop
  | name :: _ => l = nLevels ∨ sys.malloc l = .fails ∨
      ∃ buffer c, sys.malloc l = .buffer buffer ∧ lookup dir 512 (dirName name) = some c ∧
        Refused c
  | [] => l = nLevels ∨ 7 ≤ path.base.chars.length ∨
      ∃ c, lookup dir 512 (fileName path) = some c ∧ Refused c

def Stops (sys : System) (address : UInt32) (path : ShortPath) (nLevels : Nat) : Prop :=
  address = 0 ∨ ∃ entered rest dir, path.dirs = entered ++ rest ∧ entered.length ≤ nLevels ∧
    Enters sys 0 (rootDirectory sys) entered dir ∧ StopsAt sys path nLevels entered.length dir rest

/-- In memory with the sectors before it, the entry of each cluster names the next, and that of
    the last one is 0xFFFF or 0xFFF8: a load area over the FAT changes its entries. -/
def Followed (sys : System) : Memory → UInt32 → List UInt16 → Prop
  | _, _, [] => False
  | mem, address, [c] => IsLast (fat (storeSector sys mem address c) c)
  | mem, address, c :: d :: rest => fat (storeSector sys mem address c) c = d ∧ ¬IsLast d ∧
      Followed sys (storeSector sys mem address c) (address + 512) (d :: rest)

/-- The file is loaded: every directory is entered and the chain is followed to its end. -/
def Opens (sys : System) (address : UInt32) (path : ShortPath) (nLevels : Nat) : Prop :=
  address ≠ 0 ∧ nLevels = path.dirs.length + 1 ∧ path.base.chars.length < 7 ∧
    ∃ dir cells, Enters sys 0 (rootDirectory sys) path.dirs dir ∧
      Resolves sys (rootDirectory sys) 512 (names path) cells ∧ Followed sys sys.mem address cells

/-- The slashes among the first 2000 bytes. -/
def counted (path : ShortPath) : Nat :=
  ((text path).take 2000).count slash

end Resolution

end Gramado.Blgram.LoadPath
