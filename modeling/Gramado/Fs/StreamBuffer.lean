/-
The stream buffer over whole runs of reads, writes, seeks and single characters.
The offsets `_r` and `_w`, the pointer `_p` and the counter `_cnt` are kept by
hand in each function; what a seek and a full buffer do to them does not agree.
-/
import Gramado.Fs.Stream
import Gramado.Lib.Machine

namespace Gramado.Fs.StreamBuffer

open Gramado.Ke
open Gramado.Lib.Machine
open Gramado.Lib.Memory

inductive Request where
  | write (string : Option (Nat → UInt8)) (len : Int32)
  | read (buffer : Bool) (len : Int32)
  | fseek (offset : Int64) (whence : Int32)
  | rewind
  | fputc (ch : Int32)

def serve (f : File) : Request → Except Stop (Reply × File)
  | .write string len =>
      let (reply, f, _) := fileWriteBuffer f none string len
      .ok (reply, f)
  | .read buffer len =>
      let (reply, f, _) := fileReadBuffer f none buffer len
      .ok (reply, f)
  | .fseek offset whence => kFseek f offset whence
  | .rewind => .ok (.only 0, kRewind f)
  | .fputc ch => kFputc ch f

/-- A size that an `int` holds. -/
structure BufferSize where
  size : Nat
  fits : size < 2 ^ 31

/-- A file structure as it is set up with an empty buffer. The rest of it and
    the contents of the buffer are whatever they are. -/
def setUp (raw : File) (object : { object : ObjectType // object.Stream })
    (room : BufferSize) : File :=
  { raw with
    object := object.1
    lbfsize := room.size
    r := 0
    w := 0
    p := 0
    cnt := room.size }

/-- The character counts as written where there is room for it. -/
def Puts (f : File) (ch : Int32) : Prop := f.cnt > 0 ∧ ch.toInt ≠ 10

instance (f : File) (ch : Int32) : Decidable (Puts f ch) :=
  inferInstanceAs (Decidable (_ ∧ _))

/-- The bytes that were written since the last seek and not read since. -/
def note (pending : List UInt8) (f : File) (request : Request) (out : Reply × File) :
    List UInt8 :=
  match request with
  | .write (some string) _ => pending ++ (List.range out.1.value.toNat).map string
  | .write none _ => pending
  | .read _ _ => pending.drop out.1.bytes.length
  | .fseek _ _ => if out.1.value = 0 then [] else pending
  | .rewind => pending
  | .fputc ch => if Puts f ch then pending ++ [lowByte ch] else pending

/-- The relation between the five fields. -/
structure Coherent (f : File) : Prop where
  r_nonneg : 0 ≤ f.r
  r_le_w : f.r ≤ f.w
  w_le : f.w ≤ f.lbfsize
  p_nonneg : 0 ≤ f.p
  p_le : f.p ≤ f.lbfsize
  cnt_eq : f.cnt = f.lbfsize - f.w

/-- What the reader would get is what is pending. -/
def Unread (pending : List UInt8) (f : File) : Prop :=
  slice f.base f.r (f.w - f.r).toNat = pending

structure Meets (pending : List UInt8) (f : File) (request : Request) (out : Reply × File) :
    Prop where
  coherent : Coherent out.2
  unread : Unread (note pending f request out) out.2
  in_order : out.1.bytes <+: pending
  inside : ∀ range ∈ out.1.copies, 0 ≤ range.1 ∧ range.1 + range.2 ≤ f.lbfsize

/-- The condition under which a call does what is asked. -/
def Careful (f : File) : Request → Prop
  | .write string len =>
      -- A write to a full buffer with unread bytes in it loses them.
      ¬(string.isSome ∧ 0 < len.toInt ∧ len.toInt < BUFSIZ ∧ f.lbfsize < BUFSIZ ∧
        f.cnt = 0 ∧ f.r < f.w)
  | .read _ _ => True
  | .fseek offset whence =>
      (whence.toInt = SEEK_SET → min (max offset.toInt 0) f.cnt = f.w) ∧
        (whence.toInt = SEEK_CUR → f.p + min offset.toInt f.cnt = f.w) ∧
        (whence.toInt = SEEK_END → asLong (f.fsize + min offset.toInt 0) = f.w) ∧
        (whence.toInt = GRAMADO_SEEK_CLEAR → BUFSIZ ≤ f.lbfsize)
  | .rewind => True
  | .fputc ch =>
      Puts f ch →
        if lowByte ch = 0 then f.base f.w = 0
        else f.p = f.w ∨ f.base f.w = lowByte ch ∧ (f.p < f.r ∨ f.base f.p = lowByte ch)

/-- What holds between calls. The pointer is never ahead of the writer. -/
structure Good (pending : List UInt8) (f : File) : Prop extends Coherent f where
  stream : f.object.Stream
  size_lt : f.lbfsize < 2 ^ 31
  p_le_w : f.p ≤ f.w
  unread : Unread pending f

section Fields

theorem asInt_eq {n : Int} (low : -2 ^ 31 ≤ n) (high : n < 2 ^ 31) : asInt n = n := by
  unfold asInt
  rw [Int.bmod_def]
  split <;> omega

variable {pending : List UInt8} {f : File}

theorem setUp_good (raw : File) (object : { object : ObjectType // object.Stream })
    (room : BufferSize) : Good [] (setUp raw object room) where
  r_nonneg := Int.le_refl 0
  r_le_w := Int.le_refl 0
  w_le := Int.natCast_nonneg _
  p_nonneg := Int.le_refl 0
  p_le := Int.natCast_nonneg _
  cnt_eq := (Int.sub_zero _).symm
  stream := object.2
  size_lt := by
    have fits := room.fits
    change (room.size : Int) < 2 ^ 31
    omega
  p_le_w := Int.le_refl 0
  unread := rfl

theorem Good.not_socket (good : Good pending f) : f.object ≠ .socket := by
  rcases good.stream with same | same | same <;> rw [same] <;> decide

theorem Good.not_pipe (good : Good pending f) : f.object ≠ .pipe := by
  rcases good.stream with same | same | same <;> rw [same] <;> decide

/-- A call that changes nothing and touches nothing does what is asked. -/
theorem meets_unchanged {request : Request} {value : Int} (good : Good pending f)
    (noted : note pending f request (.only value, f) = pending) :
    Meets pending f request (.only value, f) ∧
      Good (note pending f request (.only value, f)) f := by
  rw [noted]
  refine ⟨⟨good.toCoherent, ?_, List.nil_prefix, ?_⟩, good⟩
  · rw [noted]
    exact good.unread
  · intro range member
    cases member

end Fields

section Writes

variable {pending : List UInt8} {f : File} {string : Nat → UInt8}

/-- The file after `n` bytes were put at the writer's offset. -/
def put (f : File) (string : Nat → UInt8) (n : Int) : File :=
  { f with
    base := store f.base f.w ((List.range n.toNat).map string)
    p := f.w + n
    w := f.w + n
    cnt := f.cnt - n
    flags := srd
    canRead := true }

theorem putStream_eq (good : Good pending f) {n : Int} (nonneg : 0 ≤ n) (fits : n ≤ f.cnt) :
    putStream f string n = (⟨n, [], [(f.w, n.toNat)]⟩, put f string n) := by
  have ordered := good.r_le_w
  have low := good.r_nonneg
  have inside := good.w_le
  have small := good.size_lt
  have room := good.cnt_eq
  unfold putStream
  rw [if_neg (by omega)]
  simp only [put, asInt_eq (n := f.w + n) (by omega) (by omega),
    asInt_eq (n := f.cnt - n) (by omega) (by omega)]

theorem put_good (good : Good pending f) {n : Int} (nonneg : 0 ≤ n) (fits : n ≤ f.cnt) :
    Good (pending ++ (List.range n.toNat).map string) (put f string n) := by
  have ordered := good.r_le_w
  have low := good.r_nonneg
  have inside := good.w_le
  have room := good.cnt_eq
  refine ⟨⟨low, ?_, ?_, ?_, ?_, ?_⟩, good.stream, good.size_lt, Int.le_refl _, ?_⟩
  · change f.r ≤ f.w + n
    omega
  · change f.w + n ≤ f.lbfsize
    omega
  · change 0 ≤ f.w + n
    omega
  · change f.w + n ≤ f.lbfsize
    omega
  · change f.cnt - n = f.lbfsize - (f.w + n)
    omega
  · have behind : f.w = f.r + (f.w - f.r).toNat := by omega
    have total : (f.w + n - f.r).toNat =
        (f.w - f.r).toNat + ((List.range n.toNat).map string).length := by
      rw [List.length_map, List.length_range]
      omega
    change slice (store f.base f.w _) f.r (f.w + n - f.r).toNat = _
    rw [total, slice_store_behind behind, good.unread]

theorem put_meets (good : Good pending f) {n : Int} (nonneg : 0 ≤ n) (fits : n ≤ f.cnt)
    (len : Int32) :
    Meets pending f (.write (some string) len) (⟨n, [], [(f.w, n.toNat)]⟩, put f string n) ∧
      Good (note pending f (.write (some string) len)
        (⟨n, [], [(f.w, n.toNat)]⟩, put f string n)) (put f string n) := by
  have after : Good (pending ++ (List.range n.toNat).map string) (put f string n) :=
    put_good good nonneg fits
  refine ⟨⟨after.toCoherent, after.unread, List.nil_prefix, ?_⟩, after⟩
  intro range member
  rw [List.mem_singleton.mp member]
  have low := good.r_nonneg
  have ordered := good.r_le_w
  have room := good.cnt_eq
  change 0 ≤ f.w ∧ f.w + (n.toNat : Int) ≤ f.lbfsize
  omega

/-- The file after a write that found the buffer full. -/
def atEnd (f : File) : File :=
  { f with w := f.lbfsize, r := f.lbfsize, p := f.lbfsize, cnt := 0 }

/-- A write finds the buffer full, and that was not noticed before. -/
def FindsFull (f : File) (len : Int) : Prop :=
  0 < len ∧ f.lbfsize < BUFSIZ ∧ f.cnt = 0

/-- A write is refused and leaves the file as it is, or it puts as much as there
    is room for, or it finds the buffer full and moves the reader to the end. -/
theorem writeStream_cases (string : Nat → UInt8) (good : Good pending f) (len : Int) :
    (¬FindsFull f len ∧ ∃ value : Int, value ≤ 0 ∧
        writeStream f string len = (.only value, f)) ∨
      (¬FindsFull f len ∧ ∃ n, 0 ≤ n ∧ n ≤ f.cnt ∧
        writeStream f string len = (⟨n, [], [(f.w, n.toNat)]⟩, put f string n)) ∨
      (FindsFull f len ∧ writeStream f string len = (.only (-1), atEnd f)) := by
  have low := good.r_nonneg
  have ordered := good.r_le_w
  have inside := good.w_le
  have room := good.cnt_eq
  unfold writeStream FindsFull
  by_cases large : f.lbfsize > BUFSIZ
  · rw [if_pos large]
    exact Or.inl ⟨by omega, EOF, by decide, rfl⟩
  · rw [if_neg large, if_neg (by omega : ¬f.w < 0)]
    by_cases full : f.w ≥ BUFSIZ
    · have at_end : f.w = BUFSIZ := by omega
      have no_room : f.cnt = 0 := by omega
      rw [if_pos full]
      refine Or.inl ⟨by omega, EOF, by decide, ?_⟩
      rw [← at_end, ← no_room]
    · rw [if_neg full, if_neg (by omega : ¬f.cnt < 0), if_neg (by omega : ¬f.cnt > f.lbfsize)]
      by_cases negative : len < 0
      · rw [if_pos negative]
        exact Or.inl ⟨by omega, -1, by decide, rfl⟩
      · rw [if_neg negative]
        by_cases long : len > f.cnt
        · rw [if_pos long]
          by_cases none_left : f.cnt ≤ 0
          · rw [if_pos none_left]
            exact Or.inr (Or.inr ⟨⟨by omega, by omega, by omega⟩, rfl⟩)
          · rw [if_neg none_left, putStream_eq good (by omega) (Int.le_refl _)]
            exact Or.inr (Or.inl ⟨by omega, f.cnt, by omega, Int.le_refl _, rfl⟩)
        · rw [if_neg long, putStream_eq good (by omega) (by omega)]
          exact Or.inr (Or.inl ⟨by omega, len, by omega, by omega, rfl⟩)

theorem atEnd_unread : Unread [] (atEnd f) := by
  change slice f.base f.lbfsize (f.lbfsize - f.lbfsize).toNat = []
  rw [Int.sub_self]
  rfl

theorem atEnd_good (good : Good pending f) (drained : ¬f.r < f.w) :
    pending = [] ∧ Good [] (atEnd f) := by
  have low := good.r_nonneg
  have ordered := good.r_le_w
  have inside := good.w_le
  have size : pending.length = (f.w - f.r).toNat := by
    rw [← good.unread, length_slice]
  have nonneg : 0 ≤ f.lbfsize := by omega
  refine ⟨List.eq_nil_of_length_eq_zero (by omega), ?_⟩
  exact ⟨⟨nonneg, Int.le_refl _, Int.le_refl _, nonneg, Int.le_refl _, (Int.sub_self _).symm⟩,
    good.stream, good.size_lt, Int.le_refl _, atEnd_unread⟩

end Writes

section Calls

variable {pending : List UInt8} {f : File} {out : Reply × File}

/-- The call does what is asked exactly under its condition, and then leaves
    the file good. -/
def Exact (pending : List UInt8) (f : File) (request : Request) (out : Reply × File) : Prop :=
  (Meets pending f request out ↔ Careful f request) ∧
    (Careful f request → Good (note pending f request out) out.2)

theorem exact_of_meets {request : Request} (careful : Careful f request)
    (both : Meets pending f request out ∧ Good (note pending f request out) out.2) :
    Exact pending f request out :=
  ⟨iff_of_true both.1 careful, fun _ => both.2⟩

theorem write_exact (good : Good pending f) (string : Option (Nat → UInt8)) (len : Int32)
    (served : serve f (.write string len) = .ok out) :
    Exact pending f (.write string len) out := by
  simp only [serve, fileWriteBuffer] at served
  cases string with
  | none =>
      cases served
      refine exact_of_meets ?_ (meets_unchanged good rfl)
      rintro ⟨given, -⟩
      cases given
  | some string =>
      dsimp only at served
      by_cases large : len.toInt ≥ BUFSIZ
      · rw [if_pos large] at served
        cases served
        refine exact_of_meets ?_ (meets_unchanged good (List.append_nil pending))
        rintro ⟨-, -, short, -⟩
        omega
      · rw [if_neg large, if_neg good.not_socket, if_neg good.not_pipe, if_pos good.stream]
          at served
        -- Refused, written, or without room, where the pointers are put to the end.
        rcases writeStream_cases string good len.toInt with
          ⟨other, value, refused, same⟩ | ⟨other, n, nonneg, fits, same⟩ | ⟨full, same⟩
        · rw [same] at served
          cases served
          have nothing : value.toNat = 0 := by omega
          have noted : note pending f (.write (some string) len) (.only value, f) = pending := by
            simp [note, Reply.only, nothing]
          refine exact_of_meets ?_ (meets_unchanged good noted)
          rintro ⟨-, some_bytes, -, short, no_room, -⟩
          exact other ⟨some_bytes, short, no_room⟩
        · rw [same] at served
          cases served
          refine exact_of_meets ?_ (put_meets good nonneg fits len)
          rintro ⟨-, some_bytes, -, short, no_room, -⟩
          exact other ⟨some_bytes, short, no_room⟩
        · rw [same] at served
          cases served
          have noted : note pending f (.write (some string) len) (.only (-1), atEnd f) =
              pending := List.append_nil pending
          -- Without room the unread bytes are skipped.
          have careful : Careful f (.write (some string) len) ↔ ¬f.r < f.w := by
            constructor
            · intro careful unread
              exact careful ⟨rfl, full.1, by omega, full.2.1, full.2.2, unread⟩
            · rintro drained ⟨-, -, -, -, -, unread⟩
              exact drained unread
          rw [Exact, careful, noted]
          refine ⟨⟨?_, ?_⟩, ?_⟩
          · intro meets unread
            have lost := meets.unread
            rw [noted] at lost
            have empty : pending = [] := lost.symm.trans atEnd_unread
            have size : pending.length = (f.w - f.r).toNat := by
              rw [← good.unread, length_slice]
            rw [empty, List.length_nil] at size
            omega
          · intro drained
            rcases atEnd_good good drained with ⟨empty, after⟩
            refine ⟨after.toCoherent, ?_, List.nil_prefix, ?_⟩
            · rw [noted, empty]
              exact after.unread
            · intro range member
              cases member
          · intro drained
            rcases atEnd_good good drained with ⟨empty, after⟩
            rw [empty]
            exact after

/-- The file after `n` bytes were read from the reader's offset. -/
def taken (f : File) (n : Int) : File :=
  { f with p := f.r + n, r := f.r + n, flags := f.flags ||| swr, canWrite := true }

/-- A read delivers nothing and leaves the file as it is, or it takes some of
    the unread bytes. -/
theorem readStream_cases (good : Good pending f) {count : Int} (some_count : 0 < count)
    (short : count ≤ f.lbfsize) :
    (∃ value : Int, readStream f count = (.only value, f)) ∨
      (∃ n, 0 < n ∧ n ≤ f.w - f.r ∧ readStream f count =
        (⟨n, slice f.base f.r n.toNat, [(f.r, n.toNat)]⟩, taken f n)) := by
  have low := good.r_nonneg
  have ordered := good.r_le_w
  have inside := good.w_le
  have small := good.size_lt
  have delta : asInt (f.w - f.r) = f.w - f.r := asInt_eq (by omega) (by omega)
  unfold readStream
  rw [if_neg (by omega : ¬f.lbfsize ≤ 0)]
  by_cases large : f.lbfsize > 8 * 1024
  · rw [if_pos large]
    exact Or.inl ⟨EOF, rfl⟩
  · rw [if_neg large, if_neg (by omega : ¬f.r < 0), if_neg (by omega : ¬f.r > f.lbfsize),
      if_neg (by omega : ¬f.r > f.w), if_neg (by omega : ¬count > f.lbfsize), delta]
    by_cases drained : f.w - f.r = 0
    · rw [if_pos drained]
      exact Or.inl ⟨0, rfl⟩
    · rw [if_neg drained]
      by_cases long : count > f.w - f.r
      · have next : asInt (f.r + (f.w - f.r)) = f.r + (f.w - f.r) :=
          asInt_eq (by omega) (by omega)
        simp only [if_pos long, if_neg (by omega : ¬f.w - f.r ≤ 0), next,
          if_neg (by omega : ¬f.r + (f.w - f.r) > f.w)]
        exact Or.inr ⟨f.w - f.r, by omega, Int.le_refl _, rfl⟩
      · have next : asInt (f.r + count) = f.r + count := asInt_eq (by omega) (by omega)
        simp only [if_neg long, if_neg (by omega : ¬count ≤ 0), next,
          if_neg (by omega : ¬f.r + count > f.w)]
        exact Or.inr ⟨count, some_count, by omega, rfl⟩

theorem taken_meets (good : Good pending f) (buffer : Bool) (len : Int32) {n : Int}
    (some_bytes : 0 < n) (fits : n ≤ f.w - f.r) :
    Meets pending f (.read buffer len)
        (⟨n, slice f.base f.r n.toNat, [(f.r, n.toNat)]⟩, taken f n) ∧
      Good (note pending f (.read buffer len)
        (⟨n, slice f.base f.r n.toNat, [(f.r, n.toNat)]⟩, taken f n)) (taken f n) := by
  have low := good.r_nonneg
  have inside := good.w_le
  have short : n.toNat ≤ (f.w - f.r).toNat := by omega
  have later : Unread (pending.drop n.toNat) (taken f n) := by
    change slice f.base (f.r + n) (f.w - (f.r + n)).toNat = _
    rw [← good.unread, drop_slice short, Int.toNat_of_nonneg (by omega)]
    congr 1
    omega
  have noted : note pending f (.read buffer len)
      (⟨n, slice f.base f.r n.toNat, [(f.r, n.toNat)]⟩, taken f n) = pending.drop n.toNat := by
    simp [note]
  have after : Good (pending.drop n.toNat) (taken f n) := by
    refine ⟨⟨?_, ?_, inside, ?_, ?_, good.cnt_eq⟩, good.stream, good.size_lt, ?_, later⟩
    · change 0 ≤ f.r + n
      omega
    · change f.r + n ≤ f.w
      omega
    · change 0 ≤ f.r + n
      omega
    · change f.r + n ≤ f.lbfsize
      omega
    · change f.r + n ≤ f.w
      omega
  rw [noted]
  refine ⟨⟨after.toCoherent, ?_, ?_, ?_⟩, after⟩
  · rw [noted]
    exact later
  · rw [← good.unread, ← take_slice short]
    exact List.take_prefix _ _
  · intro range member
    rw [List.mem_singleton.mp member]
    change 0 ≤ f.r ∧ f.r + (n.toNat : Int) ≤ f.lbfsize
    omega

theorem read_exact (good : Good pending f) (buffer : Bool) (len : Int32)
    (served : serve f (.read buffer len) = .ok out) :
    Exact pending f (.read buffer len) out := by
  refine exact_of_meets (show Careful f (.read buffer len) from trivial) ?_
  have unchanged : ∀ value : Int, Meets pending f (.read buffer len) (.only value, f) ∧
      Good (note pending f (.read buffer len) (.only value, f)) f :=
    fun value => meets_unchanged good rfl
  have low := good.r_nonneg
  have ordered := good.r_le_w
  have inside := good.w_le
  simp only [serve, fileReadBuffer] at served
  split at served
  · cases served
    exact unchanged EOF
  · split at served
    · cases served
      exact unchanged EOF
    · split at served
      · cases served
        exact unchanged EOF
      · rename_i some_count
        rw [if_neg good.not_socket, if_neg good.not_pipe, if_pos good.stream] at served
        by_cases none_there : f.lbfsize ≤ 0
        · simp only [readStream, if_pos none_there] at served
          cases served
          exact unchanged EOF
        · have least : 0 < (if low16 len > f.lbfsize then f.lbfsize else low16 len) := by
            split <;> omega
          have most : (if low16 len > f.lbfsize then f.lbfsize else low16 len) ≤ f.lbfsize := by
            split <;> omega
          rcases readStream_cases good least most with ⟨value, same⟩ | ⟨n, pos, fits, same⟩
          · rw [same] at served
            cases served
            exact unchanged value
          · rw [same] at served
            cases served
            exact taken_meets good buffer len pos fits

/-- The file after a seek to this place. -/
def moved (f : File) (place : Int) : File :=
  { f with r := asInt place, w := asInt place, p := place }

/-- A seek leaves `_cnt` alone, so that it may go to the writer's offset only. -/
theorem moved_exact (good : Good pending f) (offset : Int64) (whence : Int32) (place : Int)
    (careful : Careful f (.fseek offset whence) ↔ place = f.w) :
    Exact pending f (.fseek offset whence) (.only 0, moved f place) := by
  have low := good.r_nonneg
  have ordered := good.r_le_w
  have inside := good.w_le
  have small := good.size_lt
  have room := good.cnt_eq
  have noted : note pending f (.fseek offset whence) (.only 0, moved f place) = [] := rfl
  have empty : Unread [] (moved f place) := by
    change slice f.base (asInt place) (asInt place - asInt place).toNat = []
    rw [Int.sub_self]
    rfl
  have kept : place = f.w → Good [] (moved f place) := by
    rintro rfl
    have same : asInt f.w = f.w := asInt_eq (by omega) (by omega)
    refine ⟨⟨?_, Int.le_refl _, ?_, ?_, inside, ?_⟩, good.stream, small, ?_, empty⟩
    · change 0 ≤ asInt f.w
      omega
    · change asInt f.w ≤ f.lbfsize
      omega
    · change 0 ≤ f.w
      omega
    · change f.cnt = f.lbfsize - asInt f.w
      omega
    · change f.w ≤ asInt f.w
      omega
  rw [Exact, careful, noted]
  refine ⟨⟨?_, ?_⟩, kept⟩
  · intro meets
    have p_low : 0 ≤ place := meets.coherent.p_nonneg
    have p_high : place ≤ f.lbfsize := meets.coherent.p_le
    have account : f.cnt = f.lbfsize - asInt place := meets.coherent.cnt_eq
    have same : asInt place = place := asInt_eq (by omega) (by omega)
    omega
  · intro here
    refine ⟨(kept here).toCoherent, empty, List.nil_prefix, ?_⟩
    intro range member
    cases member

/-- The file after a seek that clears the buffer. -/
def cleared (f : File) : File :=
  { f with
    base := store f.base 0 (List.replicate BUFSIZ.toNat 0)
    p := 0
    r := 0
    w := 0
    cnt := f.lbfsize }

theorem cleared_exact (good : Good pending f) (offset : Int64) (whence : Int32)
    (careful : Careful f (.fseek offset whence) ↔ BUFSIZ ≤ f.lbfsize) :
    Exact pending f (.fseek offset whence)
      (⟨0, [], [(0, BUFSIZ.toNat)]⟩, cleared f) := by
  have low := good.r_nonneg
  have ordered := good.r_le_w
  have inside := good.w_le
  have nonneg : 0 ≤ f.lbfsize := by omega
  have noted : note pending f (.fseek offset whence)
      (⟨0, [], [(0, BUFSIZ.toNat)]⟩, cleared f) = [] := rfl
  have after : Good [] (cleared f) :=
    ⟨⟨Int.le_refl 0, Int.le_refl 0, nonneg, Int.le_refl 0, nonneg, (Int.sub_zero _).symm⟩,
      good.stream, good.size_lt, Int.le_refl 0, rfl⟩
  rw [Exact, careful, noted]
  refine ⟨⟨?_, ?_⟩, fun _ => after⟩
  · intro meets
    have reach := (meets.inside _ List.mem_cons_self).2
    change (0 : Int) + 1024 ≤ f.lbfsize at reach
    change (1024 : Int) ≤ f.lbfsize
    omega
  · intro room
    refine ⟨after.toCoherent, after.unread, List.nil_prefix, ?_⟩
    intro range member
    rw [List.mem_singleton.mp member]
    refine ⟨Int.le_refl 0, ?_⟩
    change (0 : Int) + 1024 ≤ f.lbfsize
    change (1024 : Int) ≤ f.lbfsize at room
    omega

section Seeks

variable {offset : Int64} {whence : Int32}

theorem kFseek_set (set : whence.toInt = SEEK_SET) (nonneg : 0 ≤ f.cnt) :
    kFseek f offset whence = .ok (.only 0, moved f (min (max offset.toInt 0) f.cnt)) := by
  have clamped : (if (if offset.toInt < 0 then 0 else offset.toInt) > f.cnt then f.cnt
      else if offset.toInt < 0 then 0 else offset.toInt) = min (max offset.toInt 0) f.cnt := by
    by_cases negative : offset.toInt < 0
    · rw [if_pos negative]
      split <;> omega
    · rw [if_neg negative]
      split <;> omega
  simp only [kFseek, set, if_neg (by decide : ¬SEEK_SET < 0), if_true, clamped]
  rfl

theorem kFseek_cur (cur : whence.toInt = SEEK_CUR) :
    kFseek f offset whence = .ok (.only 0, moved f (f.p + min offset.toInt f.cnt)) := by
  have clamped : (if offset.toInt > f.cnt then f.cnt else offset.toInt) =
      min offset.toInt f.cnt := by
    split <;> omega
  simp only [kFseek, cur, if_neg (by decide : ¬SEEK_CUR < 0),
    if_neg (by decide : ¬SEEK_CUR = SEEK_SET), if_true, clamped]
  rfl

theorem kFseek_end (last : whence.toInt = SEEK_END)
    (served : kFseek f offset whence = .ok out) :
    out = (.only 0, moved f (asLong (f.fsize + min offset.toInt 0))) := by
  have clamped : (if offset.toInt > 0 then 0 else offset.toInt) = min offset.toInt 0 := by
    split <;> omega
  simp only [kFseek, last, if_neg (by decide : ¬SEEK_END < 0),
    if_neg (by decide : ¬SEEK_END = SEEK_SET), if_neg (by decide : ¬SEEK_END = SEEK_CUR),
    if_true, clamped] at served
  split at served
  · cases served
  · split at served
    · cases served
    · cases served
      rfl

theorem kFseek_clear (clear : whence.toInt = GRAMADO_SEEK_CLEAR) :
    kFseek f offset whence = .ok (⟨0, [], [(0, BUFSIZ.toNat)]⟩, cleared f) := by
  simp only [kFseek, clear, if_neg (by decide : ¬GRAMADO_SEEK_CLEAR < 0),
    if_neg (by decide : ¬GRAMADO_SEEK_CLEAR = SEEK_SET),
    if_neg (by decide : ¬GRAMADO_SEEK_CLEAR = SEEK_CUR),
    if_neg (by decide : ¬GRAMADO_SEEK_CLEAR = SEEK_END), if_true]
  rfl

theorem kFseek_other (set : whence.toInt ≠ SEEK_SET) (cur : whence.toInt ≠ SEEK_CUR)
    (last : whence.toInt ≠ SEEK_END) (clear : whence.toInt ≠ GRAMADO_SEEK_CLEAR) :
    kFseek f offset whence = .ok (.only (-1), f) := by
  simp only [kFseek, if_neg set, if_neg cur, if_neg last, if_neg clear, ite_self]

end Seeks

theorem fseek_exact (good : Good pending f) (offset : Int64) (whence : Int32)
    (served : serve f (.fseek offset whence) = .ok out) :
    Exact pending f (.fseek offset whence) out := by
  have inside := good.w_le
  have room := good.cnt_eq
  change kFseek f offset whence = .ok out at served
  by_cases set : whence.toInt = SEEK_SET
  · rw [kFseek_set set (by omega)] at served
    cases served
    apply moved_exact good
    simp [Careful, set, SEEK_SET, SEEK_CUR, SEEK_END, GRAMADO_SEEK_CLEAR]
  · by_cases cur : whence.toInt = SEEK_CUR
    · rw [kFseek_cur cur] at served
      cases served
      apply moved_exact good
      simp [Careful, cur, SEEK_SET, SEEK_CUR, SEEK_END, GRAMADO_SEEK_CLEAR]
    · by_cases last : whence.toInt = SEEK_END
      · rw [kFseek_end last served]
        apply moved_exact good
        simp [Careful, last, SEEK_SET, SEEK_CUR, SEEK_END, GRAMADO_SEEK_CLEAR]
      · by_cases clear : whence.toInt = GRAMADO_SEEK_CLEAR
        · rw [kFseek_clear clear] at served
          cases served
          apply cleared_exact good
          simp [Careful, clear, SEEK_SET, SEEK_CUR, SEEK_END, GRAMADO_SEEK_CLEAR]
        · rw [kFseek_other set cur last clear] at served
          cases served
          refine exact_of_meets ?_ (meets_unchanged good rfl)
          exact ⟨fun same => absurd same set, fun same => absurd same cur,
            fun same => absurd same last, fun same => absurd same clear⟩

theorem rewind_exact (good : Good pending f) (served : serve f .rewind = .ok out) :
    Exact pending f .rewind out := by
  cases served
  have low := good.r_nonneg
  have ordered := good.r_le_w
  have inside := good.w_le
  have after : Good pending (kRewind f) := by
    refine ⟨⟨low, ordered, inside, Int.le_refl 0, ?_, good.cnt_eq⟩, good.stream, good.size_lt,
      ?_, good.unread⟩
    · change 0 ≤ f.lbfsize
      omega
    · change 0 ≤ f.w
      omega
  refine exact_of_meets (show Careful f .rewind from trivial) ⟨?_, after⟩
  refine ⟨after.toCoherent, after.unread, List.nil_prefix, ?_⟩
  intro range member
  cases member

/-- The file after a character that was put at the pointer. -/
def charPut (f : File) (ch : Int32) : File :=
  { f with
    base := store f.base f.p (charText ch)
    p := f.p + 1
    w := f.w + 1
    cnt := f.cnt - 1
    flags := f.flags ||| srd }

theorem kFputc_cases (good : Good pending f) {ch : Int32}
    (served : kFputc ch f = .ok out) :
    (¬Puts f ch ∧ out = (.only EOF, f)) ∨
      (Puts f ch ∧ 1 < f.cnt ∧
        out = (⟨ch.toInt, [], [(f.p, (charText ch).length)]⟩, charPut f ch)) := by
  have low := good.r_nonneg
  have ordered := good.r_le_w
  have inside := good.w_le
  have small := good.size_lt
  have room := good.cnt_eq
  unfold kFputc at served
  by_cases puts : Puts f ch
  · have some_room := puts.1
    have next : asInt (f.w + 1) = f.w + 1 := asInt_eq (by omega) (by omega)
    have admitted : f.cnt > 0 ∧ ch.toInt ≠ 10 := puts
    rw [if_pos admitted] at served
    simp only [next] at served
    split at served
    · cases served
    · rename_i more
      cases served
      exact Or.inr ⟨puts, by omega, rfl⟩
  · have refused : ¬(f.cnt > 0 ∧ ch.toInt ≠ 10) := puts
    rw [if_neg refused] at served
    cases served
    exact Or.inl ⟨puts, rfl⟩

theorem charText_length (ch : Int32) : (charText ch).length ≤ 1 := by
  unfold charText
  split
  · exact Nat.zero_le 1
  · exact Nat.le_refl 1

/-- What the reader gets after a character, where the bytes before it were as
    they should be. -/
theorem charPut_unread_iff (good : Good pending f) (ch : Int32) (puts : Puts f ch) :
    Unread (pending ++ [lowByte ch]) (charPut f ch) ↔ Careful f (.fputc ch) := by
  have low := good.r_nonneg
  have ordered := good.r_le_w
  have behind := good.p_le_w
  have total : (f.w + 1 - f.r).toNat = (f.w - f.r).toNat + 1 := by omega
  have start : f.r + ((f.w - f.r).toNat : Int) = f.w := by omega
  have careful : Careful f (.fputc ch) ↔
      if lowByte ch = 0 then f.base f.w = 0
      else f.p = f.w ∨ f.base f.w = lowByte ch ∧ (f.p < f.r ∨ f.base f.p = lowByte ch) := by
    simp only [Careful, puts, true_imp_iff]
  have split_up : Unread (pending ++ [lowByte ch]) (charPut f ch) ↔
      slice (charPut f ch).base f.r (f.w - f.r).toNat = slice f.base f.r (f.w - f.r).toNat ∧
        (charPut f ch).base f.w = lowByte ch := by
    change slice (charPut f ch).base f.r (f.w + 1 - f.r).toNat = _ ↔ _
    rw [total, slice_add, slice_one, start, ← good.unread]
    constructor
    · intro same
      have parts := List.append_inj' same rfl
      exact ⟨parts.1, List.head_eq_of_cons_eq parts.2⟩
    · rintro ⟨before, last⟩
      rw [before, last]
  -- The byte goes to p, and counts as unread at w.
  rw [split_up, careful, slice_eq_iff]
  change (∀ k, _ → _ → store f.base f.p (charText ch) k = f.base k) ∧
    store f.base f.p (charText ch) f.w = _ ↔ _
  by_cases zero : lowByte ch = 0
  · rw [charText, if_pos zero, if_pos zero, zero]
    exact ⟨fun both => both.2, fun last => ⟨fun _ _ _ => rfl, last⟩⟩
  · have stored : ∀ k, store f.base f.p [lowByte ch] k =
        if k = f.p then lowByte ch else f.base k := fun _ => rfl
    rw [charText, if_neg zero, if_neg zero]
    simp only [stored]
    constructor
    · rintro ⟨before, last⟩
      by_cases here : f.p = f.w
      · exact Or.inl here
      · rw [if_neg (fun same => here same.symm)] at last
        refine Or.inr ⟨last, ?_⟩
        by_cases outside : f.p < f.r
        · exact Or.inl outside
        · have same := before f.p (by omega) (by omega)
          rw [if_pos rfl] at same
          exact Or.inr same.symm
    · intro either
      refine ⟨?_, ?_⟩
      · intro k above below
        by_cases at_p : k = f.p
        · subst at_p
          rw [if_pos rfl]
          rcases either with here | ⟨-, outside | same⟩
          · omega
          · omega
          · exact same.symm
        · exact if_neg at_p
      · by_cases here : f.w = f.p
        · exact if_pos here
        · rw [if_neg here]
          rcases either with same | ⟨last, -⟩
          · exact absurd same.symm here
          · exact last

theorem fputc_exact (good : Good pending f) (ch : Int32)
    (served : serve f (.fputc ch) = .ok out) : Exact pending f (.fputc ch) out := by
  rcases kFputc_cases good served with ⟨refused, rfl⟩ | ⟨puts, room_left, rfl⟩
  · refine exact_of_meets (fun puts => absurd puts refused) (meets_unchanged good ?_)
    exact if_neg refused
  · have low := good.r_nonneg
    have ordered := good.r_le_w
    have inside := good.w_le
    have pointer := good.p_nonneg
    have behind := good.p_le_w
    have room := good.cnt_eq
    have short := charText_length ch
    have noted : note pending f (.fputc ch)
        (⟨ch.toInt, [], [(f.p, (charText ch).length)]⟩, charPut f ch) =
          pending ++ [lowByte ch] := if_pos puts
    have coherent : Coherent (charPut f ch) := by
      refine ⟨low, ?_, ?_, ?_, ?_, ?_⟩
      · change f.r ≤ f.w + 1
        omega
      · change f.w + 1 ≤ f.lbfsize
        omega
      · change 0 ≤ f.p + 1
        omega
      · change f.p + 1 ≤ f.lbfsize
        omega
      · change f.cnt - 1 = f.lbfsize - (f.w + 1)
        omega
    have exact_order := charPut_unread_iff good ch puts
    rw [Exact, noted]
    refine ⟨⟨?_, ?_⟩, ?_⟩
    · intro meets
      have unread := meets.unread
      rw [noted] at unread
      exact exact_order.mp unread
    · intro careful
      refine ⟨coherent, ?_, List.nil_prefix, ?_⟩
      · rw [noted]
        exact exact_order.mpr careful
      · intro range member
        rw [List.mem_singleton.mp member]
        change 0 ≤ f.p ∧ f.p + ((charText ch).length : Int) ≤ f.lbfsize
        omega
    · intro careful
      refine ⟨coherent, good.stream, good.size_lt, ?_, exact_order.mpr careful⟩
      change f.p + 1 ≤ f.w + 1
      omega

theorem call_exact (good : Good pending f) {request : Request}
    (served : serve f request = .ok out) : Exact pending f request out := by
  cases request with
  | write string len => exact write_exact good string len served
  | read buffer len => exact read_exact good buffer len served
  | fseek offset whence => exact fseek_exact good offset whence served
  | rewind => exact rewind_exact good served
  | fputc ch => exact fputc_exact good ch served

end Calls

/-- In every run of calls on a file structure that was set up, the calls keep
    the fields related, stay inside the buffer and deliver what was written in
    order if and only if each meets its condition. -/
theorem stream_buffer_iff (raw : File) (object : { object : ObjectType // object.Stream })
    (room : BufferSize) (requests : List Request) :
    Coherent (setUp raw object room) ∧
      (Along (observe note serve)
          (fun seen request out => Meets seen.1 seen.2 request (out.1, out.2.2))
          ([], setUp raw object room) requests ↔
        Along (observe note serve) (fun seen request _ => Careful seen.2 request)
          ([], setUp raw object room) requests) := by
  have start := setUp_good raw object room
  refine ⟨start.toCoherent, ?_⟩
  have exact : ∀ (seen : List UInt8 × File) request out, Good seen.1 seen.2 →
      observe note serve seen request = .ok out →
      (Meets seen.1 seen.2 request (out.1, out.2.2) ↔ Careful seen.2 request) :=
    fun _ _ _ good served => (call_exact good (observe_ok served).1).1
  have keep : ∀ (seen : List UInt8 × File) request out, Good seen.1 seen.2 →
      observe note serve seen request = .ok out →
      Meets seen.1 seen.2 request (out.1, out.2.2) → Good out.2.1 out.2.2 := by
    intro seen request out good served meets
    rcases observe_ok served with ⟨call, noted⟩
    have described := call_exact good call
    rw [noted]
    exact described.2 (described.1.mp meets)
  exact along_iff exact keep requests start

/-- A seek to the start after ten bytes were written: the counter still counts
    them, and the offset is cut by it. -/
theorem rewound_counter_is_stale :
    ∃ replies f, run serve
        (setUp ⟨.other 0, false, 0, fun _ => 0, 0, 0, 0, 0, 0, 0, 0, false, false⟩
          ⟨.file, Or.inl rfl⟩ ⟨512, by decide⟩)
        [.write (some fun _ => 97) 10, .fseek 0 0] = .ok (replies, f) ∧
      ¬Coherent f := by
  refine ⟨_, _, rfl, ?_⟩
  intro coherent
  exact absurd coherent.cnt_eq (by decide)

end Gramado.Fs.StreamBuffer
