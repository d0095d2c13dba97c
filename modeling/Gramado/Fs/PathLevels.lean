/-
When fs_load_path ends, and ends right: one lemma for each way that a component goes, and then
the components one behind the other.
-/
import Gramado.Blgram.PathLoads
import Gramado.Fs.FsLoad
import Gramado.Fs.FatWalk
import Mathlib.Data.List.TakeWhile

namespace Gramado.Fs.PathLevels

open Gramado.Ke
open Gramado.Blgram.LoadPath (slash dot space padded countFrom Scanned scan)
open Gramado.Blgram.PathLoads (scan_plain countFrom_eq)
open Gramado.Fs.Fat16
open Gramado.Fs.FsLoad
open Gramado.Lib.Loop

section Scans

variable {c p text : List UInt8} {rest : List (List UInt8)}

theorem not_mem_baseOf : ∀ ch ∈ baseOf c, ch ≠ dot := by
  intro ch member
  have kept := List.mem_takeWhile_imp member
  exact of_decide_eq_true kept

theorem baseOf_of_no_dot (free : dot ∉ c) : baseOf c = c := by
  apply List.takeWhile_eq_self_iff.mpr
  intro ch member
  exact decide_eq_true fun same => free (same ▸ member)

/-- A component with a dot is what is in front of it and what is behind it. -/
theorem split_dot (dotted : dot ∈ c) : c = baseOf c ++ dot :: extOf c := by
  induction c with
  | nil => cases dotted
  | cons ch tail ih =>
      unfold baseOf extOf at ih ⊢
      by_cases first : ch = dot
      · rw [List.takeWhile_cons_of_neg (by simp [first]),
          List.dropWhile_cons_of_neg (by simp [first]), first]
        rfl
      · have later : dot ∈ tail := by
          rcases List.mem_cons.mp dotted with same | later
          · exact absurd same.symm first
          · exact later
        rw [List.takeWhile_cons_of_pos (by simp [first]),
          List.dropWhile_cons_of_pos (by simp [first]), List.cons_append, ← ih later]

def Plain (c : List UInt8) : Prop :=
  ∀ ch ∈ c, ch ≠ 0 ∧ ch ≠ slash

theorem plain_base (plain : Plain c) : ∀ ch ∈ baseOf c, ch ≠ 0 ∧ ch ≠ slash ∧ ch ≠ dot := by
  intro ch member
  have inside := plain ch (List.takeWhile_subset _ member)
  exact ⟨inside.1, inside.2, not_mem_baseOf ch member⟩

theorem scan_long (plain : Plain c) (long : 12 ≤ (baseOf c).length) :
    scan 12 (c ++ p) [] = .full (c.drop 12 ++ p) := by
  have front : c.take 12 = (baseOf c).take 12 := by
    have whole := List.takeWhile_append_dropWhile (p := (· ≠ dot)) (l := c)
    conv_lhs => rw [← whole]
    exact List.take_append_of_le_length long
  have length : (c.take 12).length = 12 := by
    rw [front, List.length_take_of_le long]
  have bytes : ∀ ch ∈ c.take 12, ch ≠ 0 ∧ ch ≠ slash ∧ ch ≠ dot := by
    rw [front]
    exact fun ch member => plain_base plain ch (List.take_subset 12 _ member)
  have split : c ++ p = c.take 12 ++ (c.drop 12 ++ p) := by
    rw [← List.append_assoc, List.take_append_drop]
  have all := @scan_plain [] (c.drop 12 ++ p) (c.take 12) bytes 0
  rw [length] at all
  rw [split, all]
  rfl

theorem scan_dotted (plain : Plain c) (dotted : dot ∈ c) (short : (baseOf c).length < 12) :
    scan 12 (c ++ p) [] = .dot (baseOf c) (extOf c ++ p) := by
  have split : c ++ p = baseOf c ++ dot :: (extOf c ++ p) := by
    conv_lhs => rw [split_dot dotted]
    rw [List.append_assoc, List.cons_append]
  have size : 12 = (11 - (baseOf c).length) + 1 + (baseOf c).length := by omega
  rw [split, size, scan_plain (plain_base plain), scan, if_pos rfl, List.nil_append]

theorem scan_directory (plain : Plain c) (free : dot ∉ c) (short : c.length < 12) :
    scan 12 (c ++ slash :: p) [] = .slash c (slash :: p) := by
  have bytes := plain_base plain
  rw [baseOf_of_no_dot free] at bytes
  have size : 12 = (11 - c.length) + 1 + c.length := by omega
  rw [size, scan_plain bytes, scan, if_neg (by decide), if_pos rfl, List.nil_append]

/-- At the end of the path the scan goes on behind the NUL, but for a name of eleven bytes. -/
theorem scan_last (plain : Plain c) (free : dot ∉ c) (short : c.length < 12) :
    scan 12 (c ++ [0]) [] = if c.length = 11 then .full [] else .beyond := by
  have bytes := plain_base plain
  rw [baseOf_of_no_dot free] at bytes
  have size : 12 = (11 - c.length) + 1 + c.length := by omega
  rw [size, scan_plain bytes, scan, if_neg (by decide), if_neg (by decide)]
  by_cases eleven : c.length = 11
  · rw [if_pos eleven, eleven]
    rfl
  · have more : 11 - c.length = (10 - c.length) + 1 := by omega
    rw [if_neg eleven, more]
    rfl

theorem extension_eq (ends : 0 ∈ text) (n : Nat) :
    extension n text = some ((text.takeWhile (· ≠ 0)).take n) := by
  induction text generalizing n with
  | nil => cases ends
  | cons ch tail ih =>
      cases n with
      | zero => rfl
      | succ n =>
          by_cases zero : ch = 0
          · rw [extension, if_pos zero, List.takeWhile_cons_of_neg (by simp [zero])]
            rfl
          · have later : 0 ∈ tail := by
              rcases List.mem_cons.mp ends with same | later
              · exact absurd same.symm zero
              · exact later
            rw [extension, if_neg zero, ih later, List.takeWhile_cons_of_pos (by simp [zero])]
            rfl

theorem textOf_cons (c : List UInt8) (rest : List (List UInt8)) :
    textOf (c :: rest) = slash :: (c ++ textOf rest) := rfl

theorem textOf_ends (rest : List (List UInt8)) : 0 ∈ textOf rest := by
  induction rest with
  | nil => exact List.mem_singleton.mpr rfl
  | cons c rest ih =>
      rw [textOf_cons]
      exact List.mem_cons_of_mem _ (List.mem_append_right c ih)

theorem extension_behind (c : List UInt8) (rest : List (List UInt8)) :
    extension 3 (extOf c ++ textOf rest) =
      some (((extOf c ++ textOf rest).takeWhile (· ≠ 0)).take 3) :=
  extension_eq (List.mem_append_right _ (textOf_ends rest)) 3

end Scans

section Levels

variable {call : Call} {nLevels passes left l : Nat} {c : List UInt8} {rest : List (List UInt8)}
  {src : UInt64} {s : System}

/-- The walk at the components that are left. -/
def walk (call : Call) (nLevels passes left l : Nat) (components : List (List UInt8))
    (src : UInt64) (s : System) : Option Result :=
  levels call nLevels passes left l (textOf components) src s

/-- A result that loads nothing. -/
def Failing (result : Result) : Prop :=
  (∃ t, result = .returns (-1) t) ∨ ∃ stop, result = .stops stop

/-- Nothing is loaded from here on, however long one waits. -/
def GivesUp (call : Call) (nLevels left l : Nat) (components : List (List UInt8)) (src : UInt64)
    (s : System) : Prop :=
  ∃ result, Failing result ∧
    ∀ passes, walk call nLevels passes left l components src s = some result

theorem givesUp_of_panics {components : List (List UInt8)} {text : String}
    (all : ∀ passes, walk call nLevels passes left l components src s = panics text) :
    GivesUp call nLevels left l components src s :=
  ⟨.stops (.panic text), .inr ⟨_, rfl⟩, all⟩

theorem levels_no_slash {text : List UInt8} {ch : UInt8} (other : ch ≠ slash) :
    ∃ result, Failing result ∧
      ∀ passes, levels call nLevels passes left l (ch :: text) src s = some result := by
  cases left with
  | zero => exact ⟨_, .inl ⟨s, rfl⟩, fun _ => rfl⟩
  | succ left => exact ⟨_, .inr ⟨_, rfl⟩, fun passes => by rw [levels, if_pos other]; rfl⟩

/-- How the walk goes on behind a load. -/
def settle (out : Option (Except Stop Int × System)) (next : System → Option Result) :
    Option Result :=
  match out with
  | none => none
  | some (.error stop, _) => some (.stops stop)
  | some (.ok ret, t) =>
      if ret = 0 then next t else panics "fs_load_path: [FAIL] Loading level 0\n"

theorem walk_passes (plain : Plain c) (free : dot ∉ c) (twelve : c.length = 12) :
    walk call nLevels passes (left + 1) l (c :: rest) src s =
      walk call nLevels passes left (l + 1) rest src s := by
  have long : 12 ≤ (baseOf c).length := by rw [baseOf_of_no_dot free, twelve]
  have empty : c.drop 12 = [] := List.drop_eq_nil_of_le twelve.le
  unfold walk
  rw [textOf_cons, levels, if_neg (by simp), scan_long plain long, empty]
  rfl

theorem walk_long (plain : Plain c) (long : 12 ≤ (baseOf c).length)
    (more : rest = [] ∨ 12 < c.length) :
    GivesUp call nLevels (left + 1) l (c :: rest) src s := by
  have behind : ∃ ch text, c.drop 12 ++ textOf rest = ch :: text ∧ ch ≠ slash := by
    cases back : c.drop 12 with
    | nil =>
        have short := List.drop_eq_nil_iff.mp back
        obtain rfl | longer := more
        · exact ⟨0, [], rfl, by decide⟩
        · omega
    | cons ch tail =>
        have inside : ch ∈ c := List.drop_subset 12 c (back ▸ List.mem_cons_self)
        exact ⟨ch, tail ++ textOf rest, rfl, (plain ch inside).2⟩
  obtain ⟨ch, text, same, other⟩ := behind
  obtain ⟨result, failing, all⟩ := @levels_no_slash call nLevels left (l + 1) src s text ch other
  refine ⟨result, failing, fun passes => ?_⟩
  unfold walk
  rw [textOf_cons, levels, if_neg (by simp), scan_long plain long, same]
  exact all passes

theorem walk_dotted (plain : Plain c) (dotted : dot ∈ c) (short : (baseOf c).length < 12) :
    walk call nLevels passes (left + 1) l (c :: rest) src s =
      if l + 1 ≠ nLevels then
        panics "fs_load_path: '.' found into a subdirectory\n"
      else if baseOf c = [] then
        panics "fs_load_path: [fail] Filename starting with a dot.\n"
      else if (baseOf c).length > 8 then
        panics "fs_load_path: Filename bigger than 8.\n"
      else
        settle (outcome s (call.file src (fileName c (textOf rest))) passes)
          fun t => some (.returns 0 t) := by
  unfold walk
  rw [textOf_cons, levels, if_neg (by simp), scan_dotted plain dotted short]
  simp only [extension_behind, fileName]
  rfl

/-- A dot stands in the last level that was counted, behind one to eight bytes. -/
theorem walk_refused (plain : Plain c) (dotted : dot ∈ c) (short : (baseOf c).length < 12)
    (bad : l + 1 ≠ nLevels ∨ baseOf c = [] ∨ 8 < (baseOf c).length) :
    GivesUp call nLevels (left + 1) l (c :: rest) src s := by
  by_cases counted : l + 1 ≠ nLevels
  · exact givesUp_of_panics fun passes => by
      rw [walk_dotted plain dotted short, if_pos counted]
  · by_cases empty : baseOf c = []
    · exact givesUp_of_panics fun passes => by
        rw [walk_dotted plain dotted short, if_neg counted, if_pos empty]
    · have long : (baseOf c).length > 8 := (bad.resolve_left counted).resolve_left empty
      exact givesUp_of_panics fun passes => by
        rw [walk_dotted plain dotted short, if_neg counted, if_neg empty, if_pos long]

theorem walk_file (plain : Plain c) (dotted : dot ∈ c) (counted : l + 1 = nLevels)
    (nonempty : baseOf c ≠ []) (short : (baseOf c).length ≤ 8) :
    walk call nLevels passes (left + 1) l (c :: rest) src s =
      settle (outcome s (call.file src (fileName c (textOf rest))) passes)
        fun t => some (.returns 0 t) := by
  have inside : (baseOf c).length < 12 := by omega
  rw [walk_dotted plain dotted inside, if_neg (not_not_intro counted), if_neg nonempty,
    if_neg (Nat.not_lt.mpr short)]

theorem walk_middle (plain : Plain c) (free : dot ∉ c) (short : c.length < 12)
    (more : rest ≠ []) (level : l < FS_N_BUFFERS) :
    walk call nLevels passes (left + 1) l (c :: rest) src s =
      if c = [] then
        panics "fs_load_path: Invalid folder name\n"
      else if c.length ≥ 11 then
        panics "fs_load_path: The folder name is too long\n"
      else if call.fsBuffers l = 0 then
        panics "fs_load_path: __dst_buffer\n"
      else
        settle (outcome s (call.directory l src (padded 11 c)) passes)
          fun t => walk call nLevels passes left (l + 1) rest (call.fsBuffers l) t := by
  obtain ⟨d, tail, rfl⟩ := List.exists_cons_of_ne_nil more
  unfold walk
  rw [textOf_cons, levels, if_neg (by simp), textOf_cons, scan_directory plain free short]
  simp only [ge_iff_le, Nat.not_le.mpr level, if_false]
  rfl

theorem walk_unnamed (plain : Plain c) (free : dot ∉ c) (short : c.length < 12)
    (more : rest ≠ []) (level : l < FS_N_BUFFERS)
    (bad : c = [] ∨ 11 ≤ c.length ∨ call.fsBuffers l = 0) :
    GivesUp call nLevels (left + 1) l (c :: rest) src s := by
  by_cases empty : c = []
  · exact givesUp_of_panics fun passes => by
      rw [walk_middle plain free short more level, if_pos empty]
  · by_cases long : c.length ≥ 11
    · exact givesUp_of_panics fun passes => by
        rw [walk_middle plain free short more level, if_neg empty, if_pos long]
    · have zero : call.fsBuffers l = 0 := (bad.resolve_left empty).resolve_left long
      exact givesUp_of_panics fun passes => by
        rw [walk_middle plain free short more level, if_neg empty, if_neg long, if_pos zero]

theorem walk_directory (plain : Plain c) (free : dot ∉ c) (nonempty : c ≠ [])
    (short : c.length ≤ 10) (more : rest ≠ []) (level : l < FS_N_BUFFERS)
    (buffer : call.fsBuffers l ≠ 0) :
    walk call nLevels passes (left + 1) l (c :: rest) src s =
      settle (outcome s (call.directory l src (padded 11 c)) passes)
        fun t => walk call nLevels passes left (l + 1) rest (call.fsBuffers l) t := by
  have inside : c.length < 12 := by omega
  have below : ¬c.length ≥ 11 := by omega
  rw [walk_middle plain free inside more level, if_neg nonempty, if_neg below, if_neg buffer]

/-- The last component without a dot: the scan goes on behind the NUL. -/
theorem walk_beyond (plain : Plain c) (free : dot ∉ c) (short : c.length ≤ 10) :
    walk call nLevels passes (left + 1) l [c] src s = some .beyond := by
  have last : textOf [c] = slash :: (c ++ [0]) := rfl
  have inside : c.length < 12 := by omega
  have other : ¬c.length = 11 := by omega
  unfold walk
  rw [last, levels, if_neg (by simp), scan_last plain free inside, if_neg other]

theorem walk_eleven (plain : Plain c) (free : dot ∉ c) (eleven : c.length = 11) :
    walk call nLevels passes 1 l [c] src s = some (.returns (-1) s) := by
  have last : textOf [c] = slash :: (c ++ [0]) := rfl
  have inside : c.length < 12 := by omega
  unfold walk
  rw [last, levels, if_neg (by simp), scan_last plain free inside, if_pos eleven]
  rfl

end Levels

section Outcomes

variable {call : Call} {s t u : System} {args : LoadArguments} {passes later l : Nat}
  {out out' : Except Stop Int × System} {src src' : UInt64} {c : List UInt8}
  {entered rest components : List (List UInt8)}

theorem outcome_later (ended : outcome s args passes = some out) (more : passes ≤ later) :
    outcome s args later = some out := by
  unfold outcome fat16LoadFile at ended ⊢
  cases begun : beginLoad s args with
  | error stop =>
      rw [begun] at ended
      exact ended
  | ok first =>
      obtain ⟨walk, u⟩ := first
      rw [begun] at ended
      cases walk with
      | none => exact ended
      | some walk =>
          dsimp only at ended ⊢
          cases done : after loopNextEntry passes walk with
          | inr walk =>
              rw [done] at ended
              cases ended
          | inl last =>
              rw [done] at ended
              rw [after_ended done more]
              exact ended

theorem padded_eleven (short : c.length ≤ 8) : padded 8 c ++ padded 3 [] = padded 11 c := by
  have spaces : 11 - c.length = (8 - c.length) + 3 := by omega
  rw [padded, padded, padded, spaces, List.replicate_add, List.append_assoc, List.nil_append]
  rfl

theorem shortName_directory (free : dot ∉ c) (short : shortName c ≠ none) :
    c.length ≤ 8 ∧ shortName c = some (padded 11 c) := by
  have base := baseOf_of_no_dot free
  have ext : extOf c = [] := by
    have whole := List.takeWhile_append_dropWhile (p := (· ≠ dot)) (l := c)
    have front : c.takeWhile (· ≠ dot) = c := base
    rw [front] at whole
    rw [extOf, List.append_right_eq_self.mp whole]
    rfl
  unfold shortName at short ⊢
  split at short
  · rename_i fits
    rw [base] at fits
    rw [if_pos (base.symm ▸ fits), base, ext, padded_eleven fits.2.1]
    exact ⟨fits.2.1, rfl⟩
  · exact absurd rfl short

theorem shortName_file (plain : Plain c) (short : shortName c ≠ none) :
    shortName c = some (fileName c (textOf [])) := by
  unfold shortName at short ⊢
  split at short
  · rename_i fits
    have nonzero : ∀ ch ∈ extOf c, decide (ch ≠ 0) = true := by
      intro ch member
      have inside := List.dropWhile_subset (· ≠ dot) (List.drop_subset 1 _ member)
      exact decide_eq_true (plain ch inside).1
    have last : textOf [] = [0] := rfl
    have name : ((extOf c ++ [0]).takeWhile (· ≠ 0)).take 3 = extOf c := by
      rw [List.takeWhile_append_of_pos nonzero, List.takeWhile_cons_of_neg (by simp),
        List.append_nil, List.take_of_length_le fits.2.2.1]
    rw [if_pos fits, fileName, last, name]
  · exact absurd rfl short

/-- The components that are entered, with one more that is passed over. -/
theorem enters_passes (enters : Enters call l src s entered src' t) (free : dot ∉ c)
    (twelve : c.length = 12) : Enters call l src s (entered ++ [c]) src' t := by
  induction entered generalizing l src s with
  | nil => exact ⟨free, .inl ⟨twelve, enters⟩⟩
  | cons d rest ih =>
      obtain ⟨none, ⟨passed, later⟩ | ⟨nonempty, short, buffer, v, loads, later⟩⟩ := enters
      · exact ⟨none, .inl ⟨passed, ih later⟩⟩
      · exact ⟨none, .inr ⟨nonempty, short, buffer, v, loads, ih later⟩⟩

theorem enters_loads (enters : Enters call l src s entered src' t) (free : dot ∉ c)
    (nonempty : c ≠ []) (short : c.length ≤ 10) (buffer : call.fsBuffers (l + entered.length) ≠ 0)
    (loads : Loads t (call.directory (l + entered.length) src' (padded 11 c)) u) :
    Enters call l src s (entered ++ [c]) (call.fsBuffers (l + entered.length)) u := by
  induction entered generalizing l src s with
  | nil =>
      obtain ⟨rfl, rfl⟩ := enters
      exact ⟨free, .inr ⟨nonempty, short, buffer, u, loads, rfl, rfl⟩⟩
  | cons d rest ih =>
      have place : l + (d :: rest).length = l + 1 + rest.length := by
        rw [List.length_cons]
        omega
      rw [place] at buffer loads ⊢
      obtain ⟨apart, ⟨passed, later⟩ | ⟨named, fits, room, v, read, later⟩⟩ := enters
      · exact ⟨apart, .inl ⟨passed, ih later buffer loads⟩⟩
      · exact ⟨apart, .inr ⟨named, fits, room, v, read, ih later buffer loads⟩⟩

/-- Behind directories with short names the file is what the components lead to. -/
theorem resolves_of_enters {name : List UInt8} (enters : Enters call l src s entered src' t)
    (short : ∀ d ∈ entered, shortName d ≠ none) (last : shortName c = some name)
    (loads : Loads t (call.file src' name) u) : Resolves call l src s (entered ++ [c]) u := by
  induction entered generalizing l src s with
  | nil =>
      obtain ⟨rfl, rfl⟩ := enters
      exact ⟨name, last, loads⟩
  | cons d rest ih =>
      obtain ⟨free, way⟩ := enters
      obtain ⟨eight, own⟩ := shortName_directory free (short d List.mem_cons_self)
      have later := fun m src s enters =>
        @ih m src s enters fun e member => short e (List.mem_cons_of_mem d member)
      obtain ⟨twelve, -⟩ | ⟨-, -, -, v, read, behind⟩ := way
      · omega
      · have resolves := later _ _ _ behind
        obtain ⟨e, tail, same⟩ := List.exists_cons_of_ne_nil
          (List.append_ne_nil_of_right_ne_nil rest
          (List.cons_ne_nil c []))
        rw [same] at resolves
        rw [List.cons_append, same]
        exact ⟨padded 11 d, v, own, read, resolves⟩

theorem short_of_resolves (resolves : Resolves call l src s components t) :
    ∀ d ∈ components, shortName d ≠ none := by
  induction components generalizing l src s with
  | nil => exact fun d member => absurd member List.not_mem_nil
  | cons c rest ih =>
      cases rest with
      | nil =>
          obtain ⟨name, own, -⟩ := resolves
          intro d member
          rw [List.mem_singleton.mp member, own]
          exact Option.some_ne_none name
      | cons e tail =>
          obtain ⟨name, u, own, -, later⟩ := resolves
          intro d member
          rcases List.mem_cons.mp member with here | behind
          · rw [here, own]
            exact Option.some_ne_none name
          · exact ih later d behind

end Outcomes

section Texts

variable {call : Call} {s : System} {path : Path} {components : List (List UInt8)}

theorem textOf_body (plain : ∀ c ∈ components, Plain c) :
    ∃ body, textOf components = body ++ [0] ∧ ∀ ch ∈ body, ch ≠ 0 := by
  induction components with
  | nil => exact ⟨[], rfl, fun ch member => absurd member List.not_mem_nil⟩
  | cons c rest ih =>
      obtain ⟨body, same, nonzero⟩ := ih fun d member => plain d (List.mem_cons_of_mem c member)
      refine ⟨slash :: (c ++ body), ?_, ?_⟩
      · rw [textOf_cons, same, List.cons_append, List.append_assoc]
      · intro ch member
        rcases List.mem_cons.mp member with rfl | inside
        · decide
        · rcases List.mem_append.mp inside with own | later
          · exact (plain c List.mem_cons_self ch own).1
          · exact nonzero ch later

theorem count_textOf (plain : ∀ c ∈ components, Plain c) :
    (textOf components).count slash = components.length := by
  induction components with
  | nil => rfl
  | cons c rest ih =>
      have none : c.count slash = 0 :=
        List.count_eq_zero_of_not_mem fun member => (plain c List.mem_cons_self slash member).2 rfl
      rw [textOf_cons, List.count_cons_self, List.count_append, none,
        ih fun d member => plain d (List.mem_cons_of_mem c member), List.length_cons, Nat.zero_add]

theorem counted_le (path : Path) : path.counted ≤ path.components.length := by
  have all := count_textOf fun c member => path.plain c member
  exact ((List.take_sublist _ _).count_le slash).trans all.le

theorem text_head (path : Path) : ∃ tail, path.text = slash :: tail := by
  have nonempty : path.components ≠ [] :=
    List.append_ne_nil_of_right_ne_nil path.dirs (List.cons_ne_nil path.last [])
  obtain ⟨c, rest, same⟩ := List.exists_cons_of_ne_nil nonempty
  exact ⟨c ++ textOf rest, by rw [Path.text, same, textOf_cons]⟩

theorem counted_pos (path : Path) : 0 < path.counted := by
  obtain ⟨tail, same⟩ := text_head path
  rw [Path.counted, same, List.take_succ_cons, List.count_cons_self]
  exact Nat.succ_pos _

theorem count_eq (path : Path) : fsCountPathLevels path.text = some path.counted := by
  obtain ⟨body, same, nonzero⟩ := textOf_body fun c member => path.plain c member
  have whole : path.text = body ++ [0] := same
  rw [fsCountPathLevels, Path.counted, whole, countFrom_eq nonzero]

theorem fsLoadPath_eq (passes : Nat) : fsLoadPath call s passes path.text =
    if call.address = 0 then
      panics "fs_load_path: address\n"
    else if call.bufferSize = 0 then
      panics "fs_load_path: buffer_size\n"
    else if path.counted ≥ FS_N_BUFFERS then
      panics "fs_load_path: n_levels\n"
    else
      walk call path.counted passes path.counted 0 path.components
        (UInt64.ofNat VOLUME1_ROOTDIR_ADDRESS) s := by
  obtain ⟨tail, same⟩ := text_head path
  have head : path.text.head? = some slash := by rw [same]; rfl
  have some : path.counted ≠ 0 := Nat.ne_of_gt (counted_pos path)
  unfold fsLoadPath
  rw [head, if_neg (by decide), count_eq]
  simp only [some, false_or, ne_eq, not_true_eq_false, if_false]
  rfl

theorem fsLoadPath_refused
    (bad : call.address = 0 ∨ call.bufferSize = 0 ∨ FS_N_BUFFERS ≤ path.counted) :
    ∃ stop, ∀ passes, fsLoadPath call s passes path.text = some (.stops stop) := by
  simp only [fsLoadPath_eq]
  by_cases address : call.address = 0
  · simp only [if_pos address]
    exact ⟨_, fun _ => rfl⟩
  · by_cases size : call.bufferSize = 0
    · simp only [if_neg address, if_pos size]
      exact ⟨_, fun _ => rfl⟩
    · have many : path.counted ≥ FS_N_BUFFERS := (bad.resolve_left address).resolve_left size
      simp only [if_neg address, if_neg size, if_pos many]
      exact ⟨_, fun _ => rfl⟩

theorem fsLoadPath_walk (address : call.address ≠ 0) (size : call.bufferSize ≠ 0)
    (few : path.counted < FS_N_BUFFERS) (passes : Nat) :
    fsLoadPath call s passes path.text = walk call path.counted passes path.counted 0
      path.components (UInt64.ofNat VOLUME1_ROOTDIR_ADDRESS) s := by
  rw [fsLoadPath_eq, if_neg address, if_neg size, if_neg (Nat.not_le.mpr few)]

end Texts

section Walks

variable {call : Call} {s t : System} {path : Path} {n left l : Nat} {src src' : UInt64}
  {c : List UInt8} {entered rest : List (List UInt8)}

/-- What the walk comes to in the end from some components on. -/
def Comes (call : Call) (n left l : Nat) (components : List (List UInt8)) (src : UInt64)
    (s : System) (result : Result) : Prop :=
  ∃ enough, ∀ passes ≥ enough, walk call n passes left l components src s = some result

theorem right_of_failing {result : Result} (failing : Failing result) :
    Right call s path result := by
  obtain ⟨t, rfl⟩ | ⟨stop, rfl⟩ := failing
  · exact fun zero => absurd zero (by decide)
  · trivial

theorem right_of_givesUp (gives : GivesUp call n left l rest src t) :
    ∃ result, Comes call n left l rest src t result ∧ Right call s path result := by
  obtain ⟨result, failing, all⟩ := gives
  exact ⟨result, ⟨0, fun passes _ => all passes⟩, right_of_failing failing⟩

theorem walk_enters (enters : Enters call l src s entered src' t) (more : rest ≠ [])
    (plain : ∀ d ∈ entered, Plain d) (room : entered.length ≤ left)
    (level : l + left < FS_N_BUFFERS) :
    ∃ enough, ∀ passes ≥ enough, walk call n passes left l (entered ++ rest) src s =
      walk call n passes (left - entered.length) (l + entered.length) rest src' t := by
  induction entered generalizing l left src s with
  | nil =>
      obtain ⟨rfl, rfl⟩ := enters
      exact ⟨0, fun passes _ => rfl⟩
  | cons d tail ih =>
      have own := plain d List.mem_cons_self
      have others := fun e member => plain e (List.mem_cons_of_mem d member)
      have behind : tail ++ rest ≠ [] := List.append_ne_nil_of_right_ne_nil tail more
      rw [List.length_cons] at room
      cases left with
      | zero => exact absurd room (Nat.not_succ_le_zero _)
      | succ left =>
          have place : left + 1 - (d :: tail).length = left - tail.length ∧
              l + (d :: tail).length = l + 1 + tail.length := by
            rw [List.length_cons]
            omega
          rw [place.1, place.2]
          have inside : tail.length ≤ left := Nat.le_of_succ_le_succ room
          obtain ⟨free, ⟨twelve, later⟩ | ⟨nonempty, short, buffer, u, loads, later⟩⟩ := enters
          · obtain ⟨enough, run⟩ := ih later others inside (by omega)
            refine ⟨enough, fun passes reached => ?_⟩
            rw [List.cons_append, walk_passes own free twelve, run passes reached]
          · obtain ⟨enough, run⟩ := ih later others inside (by omega)
            obtain ⟨first, ended⟩ := loads
            refine ⟨max first enough, fun passes reached => ?_⟩
            rw [List.cons_append, walk_directory own free nonempty short behind (by omega) buffer,
              outcome_later ended (Nat.le_trans (Nat.le_max_left _ _) reached)]
            exact run passes (Nat.le_trans (Nat.le_max_right _ _) reached)

theorem comes_file (split : path.components = entered ++ c :: rest)
    (enters : Enters call 0 (UInt64.ofNat VOLUME1_ROOTDIR_ADDRESS) s entered src t)
    (plain : Plain c) (dotted : dot ∈ c) (counted : entered.length + 1 = path.counted)
    (named : baseOf c ≠ []) (eight : (baseOf c).length ≤ 8)
    (go : (∃ passes out, outcome t (call.file src (fileName c (textOf rest))) passes = some out) ∧
      ∀ u, Loads t (call.file src (fileName c (textOf rest))) u →
        rest = [] ∧ ∀ d ∈ path.components, shortName d ≠ none) :
    ∃ result, Comes call path.counted (left + 1) entered.length (c :: rest) src t result ∧
      Right call s path result := by
  obtain ⟨⟨first, ⟨ended, u⟩, done⟩, loads⟩ := go
  have comes : ∀ result, settle (some (ended, u)) (fun t => some (.returns 0 t)) = some result →
      Comes call path.counted (left + 1) entered.length (c :: rest) src t result := by
    intro result settled
    refine ⟨first, fun passes reached => ?_⟩
    rw [walk_file plain dotted counted named eight, outcome_later done reached, settled]
  cases ended with
  | error stop => exact ⟨.stops stop, comes _ rfl, trivial⟩
  | ok ret =>
      by_cases zero : ret = 0
      · subst zero
        obtain ⟨rfl, short⟩ := loads u ⟨first, done⟩
        refine ⟨.returns 0 u, comes _ rfl, fun _ => ⟨?_, ?_⟩⟩
        · rw [split, List.length_append, List.length_singleton, counted]
        · rw [split] at short ⊢
          have own :=
            shortName_file plain (short c (List.mem_append_right entered List.mem_cons_self))
          exact resolves_of_enters enters
            (fun d member => short d (List.mem_append_left [c] member)) own ⟨first, done⟩
      · refine ⟨.stops (.panic "fs_load_path: [FAIL] Loading level 0\n"), comes _ ?_, trivial⟩
        rw [settle, if_neg zero]
        rfl

theorem comes_directory
    (enters : Enters call 0 (UInt64.ofNat VOLUME1_ROOTDIR_ADDRESS) s entered src t)
    (plain : Plain c) (free : dot ∉ c) (named : c ≠ []) (ten : c.length ≤ 10) (more : rest ≠ [])
    (level : entered.length < FS_N_BUFFERS) (buffer : call.fsBuffers entered.length ≠ 0)
    (load : ∃ passes out,
      outcome t (call.directory entered.length src (padded 11 c)) passes = some out)
    (later : ∀ u, Enters call 0 (UInt64.ofNat VOLUME1_ROOTDIR_ADDRESS) s (entered ++ [c])
        (call.fsBuffers entered.length) u →
      ∃ result, Comes call path.counted left (entered ++ [c]).length rest
        (call.fsBuffers entered.length) u result ∧ Right call s path result) :
    ∃ result, Comes call path.counted (left + 1) entered.length (c :: rest) src t result ∧
      Right call s path result := by
  obtain ⟨first, ⟨ended, u⟩, done⟩ := load
  have step : ∀ passes ≥ first,
      walk call path.counted passes (left + 1) entered.length (c :: rest) src t =
        settle (some (ended, u)) fun t => walk call path.counted passes left
          (entered.length + 1) rest (call.fsBuffers entered.length) t := by
    intro passes reached
    rw [walk_directory plain free named ten more level buffer, outcome_later done reached]
  cases ended with
  | error stop => exact ⟨.stops stop, ⟨first, step⟩, trivial⟩
  | ok ret =>
      by_cases zero : ret = 0
      · subst zero
        have start : 0 + entered.length = entered.length := Nat.zero_add _
        have deeper := @enters_loads call s t u 0 _ src c entered enters free named ten
          (by rwa [start]) (by rw [start]; exact ⟨first, done⟩)
        rw [start] at deeper
        obtain ⟨result, ⟨enough, run⟩, right⟩ := later u deeper
        rw [List.length_append, List.length_singleton] at run
        refine ⟨result, ⟨max first enough, fun passes reached => ?_⟩, right⟩
        rw [step passes (Nat.le_trans (Nat.le_max_left _ _) reached)]
        exact run passes (Nat.le_trans (Nat.le_max_right _ _) reached)
      · refine ⟨.stops (.panic "fs_load_path: [FAIL] Loading level 0\n"),
          ⟨first, fun passes reached => ?_⟩, trivial⟩
        rw [step passes reached, settle, if_neg zero]
        rfl

theorem comes_right (few : path.counted < FS_N_BUFFERS)
    (goes : ∀ entered c rest src t, path.components = entered ++ c :: rest →
      entered.length < path.counted →
        Enters call 0 (UInt64.ofNat VOLUME1_ROOTDIR_ADDRESS) s entered src t →
          Goes call path entered.length src t c rest)
    (split : path.components = entered ++ rest) (more : rest ≠ [])
    (room : entered.length + left = path.counted)
    (enters : Enters call 0 (UInt64.ofNat VOLUME1_ROOTDIR_ADDRESS) s entered src t) :
    ∃ result, Comes call path.counted left entered.length rest src t result ∧
      Right call s path result := by
  induction rest generalizing entered left src t with
  | nil => exact absurd rfl more
  | cons c tail ih =>
      cases left with
      | zero => exact right_of_givesUp ⟨_, .inl ⟨t, rfl⟩, fun _ => rfl⟩
      | succ left =>
          have inside : entered.length < path.counted := by omega
          have go := goes entered c tail src t split inside enters
          have member : c ∈ path.components := by
            rw [split]
            exact List.mem_append_right entered List.mem_cons_self
          have plain : Plain c := path.plain c member
          have whole : path.components = (entered ++ [c]) ++ tail := by
            rw [split, List.append_assoc]
            rfl
          have later : (entered ++ [c]).length + left = path.counted := by
            rw [List.length_append, List.length_singleton]
            omega
          have long : ∀ {c : List UInt8}, dot ∈ c → 12 ≤ (baseOf c).length → 12 < c.length := by
            intro c dotted twelve
            have length := congrArg List.length (split_dot dotted)
            rw [List.length_append, List.length_cons] at length
            omega
          by_cases dotted : dot ∈ c
          · by_cases short : (baseOf c).length < 12
            · by_cases bad : entered.length + 1 ≠ path.counted ∨ baseOf c = [] ∨
                  8 < (baseOf c).length
              · exact right_of_givesUp (walk_refused plain dotted short bad)
              · simp only [not_or, not_not, Nat.not_lt] at bad
                obtain ⟨counted, named, eight⟩ := bad
                exact comes_file split enters plain dotted counted named eight
                  (go.file counted dotted named eight)
            · have twelve := Nat.not_lt.mp short
              exact right_of_givesUp (walk_long plain twelve (.inr (long dotted twelve)))
          · have base := baseOf_of_no_dot dotted
            by_cases last : tail = []
            · subst last
              have eleven := go.last rfl dotted
              by_cases exactly : c.length = 11
              · -- It is the last level, too.
                have bound := counted_le path
                rw [split, List.length_append, List.length_singleton] at bound
                obtain rfl : left = 0 := by omega
                exact right_of_givesUp ⟨_, .inl ⟨t, rfl⟩, fun _ => walk_eleven plain dotted exactly⟩
              · have twelve : 12 ≤ (baseOf c).length := by
                  rw [base]
                  omega
                exact right_of_givesUp (walk_long plain twelve (.inl rfl))
            · by_cases small : c.length < 12
              · by_cases bad : c = [] ∨ 11 ≤ c.length ∨ call.fsBuffers entered.length = 0
                · exact right_of_givesUp (walk_unnamed plain dotted small last (by omega) bad)
                · simp only [not_or, Nat.not_le] at bad
                  obtain ⟨named, below, buffer⟩ := bad
                  have ten : c.length ≤ 10 := by omega
                  exact comes_directory enters plain dotted named ten last (by omega) buffer
                    (go.directory last dotted named ten buffer) fun u deeper =>
                      ih whole last later deeper
              · by_cases exactly : c.length = 12
                · obtain ⟨result, ⟨enough, run⟩, right⟩ := ih whole last later
                    (enters_passes enters dotted exactly)
                  rw [List.length_append, List.length_singleton] at run
                  refine ⟨result, ⟨enough, fun passes reached => ?_⟩, right⟩
                  rw [walk_passes plain dotted exactly]
                  exact run passes reached
                · have twelve : 12 ≤ (baseOf c).length := by
                    rw [base]
                    omega
                  exact right_of_givesUp (walk_long plain twelve (.inr (by omega)))

theorem settle_ends {out : Option (Except Stop Int × System)} {next : System → Option Result}
    {result : Result} (settled : settle out next = some result) : ∃ o, out = some o := by
  cases out with
  | none => cases settled
  | some o => exact ⟨o, rfl⟩

theorem goes_of_comes {result : Result} (split : path.components = entered ++ c :: rest)
    (plain : Plain c) (level : entered.length < FS_N_BUFFERS)
    (comes : Comes call path.counted (left + 1) entered.length (c :: rest) src t result)
    (right : Right call s path result) : Goes call path entered.length src t c rest := by
  obtain ⟨enough, run⟩ := comes
  constructor
  · intro more free named ten buffer
    have step := run enough (Nat.le_refl _)
    rw [walk_directory plain free named ten more level buffer] at step
    obtain ⟨out, ended⟩ := settle_ends step
    exact ⟨enough, out, ended⟩
  · intro counted dotted named eight
    constructor
    · have step := run enough (Nat.le_refl _)
      rw [walk_file plain dotted counted named eight] at step
      obtain ⟨out, ended⟩ := settle_ends step
      exact ⟨enough, out, ended⟩
    · rintro u ⟨first, done⟩
      have step := run (max enough first) (Nat.le_max_left _ _)
      rw [walk_file plain dotted counted named eight,
        outcome_later done (Nat.le_max_right _ _)] at step
      cases step
      obtain ⟨count, resolves⟩ := right rfl
      refine ⟨?_, short_of_resolves resolves⟩
      rw [← counted, split, List.length_append, List.length_cons] at count
      exact List.eq_nil_of_length_eq_zero (by omega)
  · rintro rfl free
    by_contra short
    have step := run enough (Nat.le_refl _)
    rw [walk_beyond plain free (by omega)] at step
    cases step
    exact right

theorem walks_of_fits (fits : Fits call s path) : Walks call s path := by
  by_cases bad : call.address = 0 ∨ call.bufferSize = 0 ∨ FS_N_BUFFERS ≤ path.counted
  · obtain ⟨stop, all⟩ := @fsLoadPath_refused call s path bad
    exact ⟨.stops stop, ⟨0, fun passes _ => all passes⟩, trivial⟩
  · simp only [not_or, Nat.not_le] at bad
    obtain ⟨address, size, few⟩ := bad
    have goes := ((fits.resolve_left address).resolve_left size).resolve_left (Nat.not_le.mpr few)
    have more : path.components ≠ [] :=
      List.append_ne_nil_of_right_ne_nil path.dirs (List.cons_ne_nil path.last [])
    obtain ⟨result, ⟨enough, run⟩, right⟩ :=
      @comes_right call s s path path.counted _ [] path.components few goes rfl more
        (Nat.zero_add _) ⟨rfl, rfl⟩
    refine ⟨result, ⟨enough, fun passes reached => ?_⟩, right⟩
    rw [fsLoadPath_walk address size few]
    exact run passes reached

theorem fits_of_walks (walks : Walks call s path) : Fits call s path := by
  by_cases bad : call.address = 0 ∨ call.bufferSize = 0 ∨ FS_N_BUFFERS ≤ path.counted
  · obtain address | size | many := bad
    · exact .inl address
    · exact .inr (.inl size)
    · exact .inr (.inr (.inl many))
  · simp only [not_or, Nat.not_le] at bad
    obtain ⟨address, size, few⟩ := bad
    refine .inr (.inr (.inr fun entered c rest src t split inside enters => ?_))
    obtain ⟨result, ⟨enough, run⟩, right⟩ := walks
    have plain : ∀ d ∈ entered ++ c :: rest, Plain d := by
      rw [← split]
      exact path.plain
    have own := plain c (List.mem_append_right entered List.mem_cons_self)
    obtain ⟨later, reach⟩ := @walk_enters call s t path.counted path.counted 0 _ src entered
      (c :: rest) enters (List.cons_ne_nil c rest)
      (fun d member => plain d (List.mem_append_left _ member)) inside.le (by omega)
    obtain ⟨left, count⟩ := Nat.exists_eq_add_of_lt inside
    have place : path.counted - entered.length = left + 1 := by omega
    have here : Comes call path.counted (left + 1) entered.length (c :: rest) src t result := by
      refine ⟨max enough later, fun passes reached => ?_⟩
      have there := reach passes (Nat.le_trans (Nat.le_max_right _ _) reached)
      rw [place, Nat.zero_add, ← split] at there
      rw [← there, ← fsLoadPath_walk address size few]
      exact run passes (Nat.le_trans (Nat.le_max_left _ _) reached)
    exact goes_of_comes split own (by omega) here right

end Walks

/-- The walk ends right if and only if it is refused at once or goes right at each component that
    it comes to. -/
theorem path_walk_iff (call : Call) (s : System) (path : Path) :
    Walks call s path ↔ Fits call s path :=
  ⟨fits_of_walks, walks_of_fits⟩

def ab : Path where
  dirs := []
  last := [65, 66]
  plain := by
    intro c member
    rw [List.nil_append, List.mem_singleton] at member
    subst member
    simp only [List.mem_cons, List.not_mem_nil, or_false]
    rintro ch (rfl | rfl)
    · decide
    · decide

/-- The walk along /AB goes on behind the NUL. -/
theorem no_dot_reads_on : ∃ call path, ∀ s, ¬Walks call s path := by
  refine ⟨⟨0x100000, 512, fun _ => 0⟩, ab, fun s walks => ?_⟩
  obtain address | size | many | goes := fits_of_walks walks
  · exact absurd address (by decide)
  · exact absurd size (by decide)
  · exact absurd many (by decide)
  · have go := goes [] [65, 66] [] _ s rfl (by decide) ⟨rfl, rfl⟩
    exact absurd (go.last rfl (by decide)) (by decide)

end Gramado.Fs.PathLevels
