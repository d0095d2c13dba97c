/-
fsload.c: fs_load_path over fat16LoadFile. A pointer into the path is what is left of its text,
with the NUL. The slashes are counted and a name is scanned as in the boot loader, whose
functions were copied.
-/
import Gramado.Blgram.LoadPath
import Gramado.Fs.Fat16

namespace Gramado.Fs.FsLoad

open Gramado.Ke
open Gramado.Blgram.LoadPath (slash dot space padded countFrom Scanned scan)
open Gramado.Fs.Fat16

def FS_N_BUFFERS : Nat := 5

/-- Where the file goes, and the buffers of the directories by their levels. -/
structure Call where
  address : UInt64
  bufferSize : UInt64
  fsBuffers : Nat → UInt64

/-- What is returned, or a panic, or a read behind the NUL of the path. -/
inductive Result where
  | returns (code : Int) (s : System)
  | stops (stop : Stop)
  | beyond

def panics (text : String) : Option Result :=
  some (.stops (.panic text))

def fsCountPathLevels (text : List UInt8) : Option Nat :=
  countFrom 2000 text

def arguments (src : UInt64) (name : List UInt8) (buffer size : UInt64) : LoadArguments where
  fatAddress := UInt64.ofNat VOLUME1_FAT_ADDRESS
  dirAddress := src
  dirEntries := 512
  fileName := name
  buffer := buffer
  bufferSizeInBytes := size

/-- The file's own size is cut to 32 bits. -/
def Call.file (call : Call) (src : UInt64) (name : List UInt8) : LoadArguments :=
  arguments src name call.address (call.bufferSize &&& 0xFFFFFFFF)

def Call.directory (call : Call) (l : Nat) (src : UInt64) (name : List UInt8) : LoadArguments :=
  arguments src name (call.fsBuffers l) 16384

/-- How `fat16LoadFile` has ended after so many passes. -/
def outcome (s : System) (args : LoadArguments) (passes : Nat) :
    Option (Except Stop Int × System) :=
  match fat16LoadFile s args passes with
  | .inr _ => none
  | .inl ended => some (ended.result, ended.system)

/-- The bytes behind the dot, up to the NUL or three of them. -/
def extension : Nat → List UInt8 → Option (List UInt8)
  | 0, _ => some []
  | _ + 1, [] => none
  | left + 1, ch :: rest => if ch = 0 then some [] else (extension left rest).map (ch :: ·)

/-- The loop over the levels, of which `left` are left from level `l` on. -/
def levels (call : Call) (nLevels passes : Nat) :
    Nat → Nat → List UInt8 → UInt64 → System → Option Result
  | 0, _, _, _, s => some (.returns (-1) s)
  | _ + 1, _, [], _, _ => some .beyond
  | left + 1, l, ch :: p, src, s =>
      if ch ≠ slash then
        panics "fs_load_path: All levels need to start with '/'\n"
      else
        match scan 12 p [] with
        | .beyond => some .beyond
        | .full rest => levels call nLevels passes left (l + 1) rest src s
        | .dot name rest =>
            if l + 1 ≠ nLevels then
              panics "fs_load_path: '.' found into a subdirectory\n"
            else if name = [] then
              panics "fs_load_path: [fail] Filename starting with a dot.\n"
            else if name.length > 8 then
              panics "fs_load_path: Filename bigger than 8.\n"
            else
              match extension 3 rest with
              | none => some .beyond
              | some ext =>
                  match outcome s (call.file src (padded 8 name ++ padded 3 ext)) passes with
                  | none => none
                  | some (.error stop, _) => some (.stops stop)
                  | some (.ok ret, s) =>
                      if ret = 0 then
                        some (.returns 0 s)
                      else
                        panics "fs_load_path: [FAIL] Loading level 0\n"
        | .slash name rest =>
            if name = [] then
              panics "fs_load_path: Invalid folder name\n"
            else if name.length ≥ 11 then
              panics "fs_load_path: The folder name is too long\n"
            else if l ≥ FS_N_BUFFERS then
              panics "fs_load_path: l\n"
            else if call.fsBuffers l = 0 then
              panics "fs_load_path: __dst_buffer\n"
            else
              match outcome s (call.directory l src (padded 11 name)) passes with
              | none => none
              | some (.error stop, _) => some (.stops stop)
              | some (.ok ret, s) =>
                  if ret = 0 then
                    levels call nLevels passes left (l + 1) rest (call.fsBuffers l) s
                  else
                    panics "fs_load_path: [FAIL] Loading level 0\n"

def fsLoadPath (call : Call) (s : System) (passes : Nat) (path : List UInt8) : Option Result :=
  if path.head? = some 0 then
    panics "fs_load_path: *path\n"
  else if call.address = 0 then
    panics "fs_load_path: address\n"
  else if call.bufferSize = 0 then
    panics "fs_load_path: buffer_size\n"
  else
    match fsCountPathLevels path with
    | none => some .beyond
    | some nLevels =>
        if nLevels = 0 ∨ nLevels ≥ FS_N_BUFFERS then
          panics "fs_load_path: n_levels\n"
        else if path.head? ≠ some slash then
          panics "fs_load_path: Not absolute pathname\n"
        else
          levels call nLevels passes nLevels 0 path (UInt64.ofNat VOLUME1_ROOTDIR_ADDRESS) s

section Resolution

/-- An absolute path by its components: any bytes but NUL and slash. -/
structure Path where
  dirs : List (List UInt8)
  last : List UInt8
  plain : ∀ c ∈ dirs ++ [last], ∀ ch ∈ c, ch ≠ 0 ∧ ch ≠ slash

def Path.components (path : Path) : List (List UInt8) :=
  path.dirs ++ [path.last]

/-- The text of some components with the NUL behind them. -/
def textOf (components : List (List UInt8)) : List UInt8 :=
  components.foldr (fun c text => slash :: c ++ text) [0]

def Path.text (path : Path) : List UInt8 :=
  textOf path.components

def baseOf (c : List UInt8) : List UInt8 :=
  c.takeWhile (· ≠ dot)

def extOf (c : List UInt8) : List UInt8 :=
  (c.dropWhile (· ≠ dot)).drop 1

/-- The component's name in a directory: up to eight bytes and, behind a dot, up to three. -/
def shortName (c : List UInt8) : Option (List UInt8) :=
  if baseOf c ≠ [] ∧ (baseOf c).length ≤ 8 ∧ (extOf c).length ≤ 3 ∧ dot ∉ extOf c then
    some (padded 8 (baseOf c) ++ padded 3 (extOf c))
  else
    none

/-- `fat16LoadFile` returns 0 here. -/
def Loads (s : System) (args : LoadArguments) (t : System) : Prop :=
  ∃ passes, outcome s args passes = some (.ok 0, t)

/-- The file that the components lead to from a directory on: each of them is found under its
    own name, in the directory that was loaded before it. -/
def Resolves (call : Call) : Nat → UInt64 → System → List (List UInt8) → System → Prop
  | _, _, _, [], _ => False
  | _, src, s, [c], t => ∃ name, shortName c = some name ∧ Loads s (call.file src name) t
  | l, src, s, c :: c' :: rest, t => ∃ name u, shortName c = some name ∧
      Loads s (call.directory l src name) u ∧
        Resolves call (l + 1) (call.fsBuffers l) u (c' :: rest) t

/-- The slashes among the first 2000 bytes. -/
def Path.counted (path : Path) : Nat :=
  (path.text.take 2000).count slash

/-- Nothing is read behind the NUL, and where 0 is returned as many levels were walked as there
    are components, which lead to the file. -/
def Right (call : Call) (s : System) (path : Path) : Result → Prop
  | .returns code t => code = 0 → path.counted = path.components.length ∧
      Resolves call 0 (UInt64.ofNat VOLUME1_ROOTDIR_ADDRESS) s path.components t
  | .stops _ => True
  | .beyond => False

/-- The walk ends, and ends right. -/
def Walks (call : Call) (s : System) (path : Path) : Prop :=
  ∃ result, (∃ enough, ∀ passes ≥ enough, fsLoadPath call s passes path.text = some result) ∧
    Right call s path result

/-- From a directory on the components are entered: ones of up to ten bytes are loaded, and ones
    of twelve are passed over. -/
def Enters (call : Call) :
    Nat → UInt64 → System → List (List UInt8) → UInt64 → System → Prop
  | _, src, s, [], src', t => src' = src ∧ t = s
  | l, src, s, c :: rest, src', t => dot ∉ c ∧
      (c.length = 12 ∧ Enters call (l + 1) src s rest src' t ∨
        c ≠ [] ∧ c.length ≤ 10 ∧ call.fsBuffers l ≠ 0 ∧ ∃ u,
          Loads s (call.directory l src (padded 11 c)) u ∧
            Enters call (l + 1) (call.fsBuffers l) u rest src' t)

/-- The name of a file with a dot behind at most eight bytes. -/
def fileName (c : List UInt8) (behind : List UInt8) : List UInt8 :=
  padded 8 (baseOf c) ++ padded 3 (((extOf c ++ behind).takeWhile (· ≠ 0)).take 3)

/-- The component that the walk comes to at a level. -/
structure Goes (call : Call) (path : Path) (l : Nat) (src : UInt64) (t : System)
    (c : List UInt8) (rest : List (List UInt8)) : Prop where
  /-- A directory's load ends. -/
  directory : rest ≠ [] → dot ∉ c → c ≠ [] → c.length ≤ 10 → call.fsBuffers l ≠ 0 →
    ∃ passes out, outcome t (call.directory l src (padded 11 c)) passes = some out
  /-- The file's load ends; if it loads a file, this is the last component, and none of them is
      longer than a short name. -/
  file : l + 1 = path.counted → dot ∈ c → baseOf c ≠ [] → (baseOf c).length ≤ 8 →
    (∃ passes out, outcome t (call.file src (fileName c (textOf rest))) passes = some out) ∧
    ∀ u, Loads t (call.file src (fileName c (textOf rest))) u →
      rest = [] ∧ ∀ d ∈ path.components, shortName d ≠ none
  /-- A last component without a dot has at least eleven bytes. -/
  last : rest = [] → dot ∉ c → 11 ≤ c.length

/-- The call is refused at once, or the walk goes right at each component that it comes to. -/
def Fits (call : Call) (s : System) (path : Path) : Prop :=
  call.address = 0 ∨ call.bufferSize = 0 ∨ FS_N_BUFFERS ≤ path.counted ∨
    ∀ entered c rest src t, path.components = entered ++ c :: rest →
      entered.length < path.counted →
        Enters call 0 (UInt64.ofNat VOLUME1_ROOTDIR_ADDRESS) s entered src t →
          Goes call path entered.length src t c rest

end Resolution

end Gramado.Fs.FsLoad
