/-
`getc` and `ungetc` of the C library (stdio.c) on a file that `fopen` gave. What a
call of `read` gives is the next piece of the file. `____bfill` sets `_cnt` to the
room that a piece leaves in the buffer, and `__getc` takes it for what is left to
read, so that of a piece of more than half a buffer the end is lost.
-/
import Mathlib.Data.Int.Notation
import Mathlib.Tactic.Common

namespace Gramado.Rtl.Stdio

def BUFSIZ : Nat := 1024

def EOF : Int := -1

/-- What a call of `read` gives before the end of the file. -/
structure Piece where
  bytes : List UInt8
  some_bytes : 0 < bytes.length
  fits : bytes.length ≤ BUFSIZ

/-- `struct _iobuf`, as far as the two functions use it, with what the next calls
    of `read` give. `_p` is `_r` bytes behind `_base`, whose bytes behind the last
    piece are not looked at. -/
structure Iobuf where
  base : List UInt8
  r : Nat
  fsize : Nat
  cnt : Int
  /-- `ungotten`, a signed char, where `have_ungotten` is set. -/
  ungotten : Option Int
  pieces : List Piece

/-- A file that is open, before anything is read of it. -/
def fopen (pieces : List Piece) : Iobuf :=
  ⟨[], 0, 0, BUFSIZ, none, pieces⟩

/-- The size of the buffer is `BUFSIZ`. -/
def bfill (s : Iobuf) : Int × Iobuf :=
  match s.pieces with
  | [] => (EOF, { s with r := 0, fsize := 0, cnt := BUFSIZ })
  | piece :: pieces =>
      let n := piece.bytes.length
      if n ≥ BUFSIZ - 1 then
        (BUFSIZ, { s with base := piece.bytes, r := 0, fsize := BUFSIZ, cnt := 0, pieces })
      else
        (n, { s with base := piece.bytes, r := 0, fsize := n, cnt := BUFSIZ - n, pieces })

/-- The character at `_p`. -/
def Iobuf.take (s : Iobuf) : Int × Iobuf :=
  ((s.base.getD s.r 0).toNat, { s with r := s.r + 1, cnt := s.cnt - 1 })

def getc (s : Iobuf) : Int × Iobuf :=
  match s.ungotten with
  | some ch => (ch, { s with ungotten := none })
  | none =>
      if 0 < s.cnt ∧ s.cnt ≤ BUFSIZ ∧ s.r < s.fsize then
        s.take
      else if s.cnt ≤ 0 ∨ s.r ≥ s.fsize then
        let (nreads, s) := bfill s
        if nreads ≤ 0 then
          (EOF, { s with fsize := 0, cnt := BUFSIZ, r := 0 })
        else
          s.take
      else
        (EOF, s)

def ungetc (c : Int) (s : Iobuf) : Int × Iobuf :=
  if c = EOF then
    (EOF, s)
  else if s.ungotten.isSome then
    (EOF, s)
  else
    (c, { s with ungotten := some (c.bmod 256) })

/-- What `getc` gives of a piece. -/
def Piece.given (piece : Piece) : List UInt8 :=
  let n := piece.bytes.length
  piece.bytes.take (if n ≥ BUFSIZ - 1 then 1 else BUFSIZ - n)

/-- What it gives of the pieces of a file. -/
def given (pieces : List Piece) : List UInt8 :=
  pieces.flatMap Piece.given

/-- What it gives of the buffer before it fills it again. -/
def Iobuf.unread (s : Iobuf) : List UInt8 :=
  ((s.base.take s.fsize).drop s.r).take s.cnt.toNat

/-- All that is to come, the character that was put back first. -/
def Iobuf.stream (s : Iobuf) : List Int :=
  s.ungotten.toList ++ (s.unread ++ given s.pieces).map fun b => (b.toNat : Int)

/-- As `____bfill` and `__getc` leave the counters. -/
structure Iobuf.Steady (s : Iobuf) : Prop where
  room : s.cnt ≤ BUFSIZ
  loaded : 0 < s.cnt → s.fsize ≤ s.base.length

section Reading

variable {s : Iobuf} {c : Int}

theorem fopen_steady (pieces : List Piece) : (fopen pieces).Steady :=
  ⟨Int.le_refl _, fun _ => Nat.le_refl _⟩

theorem fopen_stream (pieces : List Piece) :
    (fopen pieces).stream = (given pieces).map fun b => (b.toNat : Int) := rfl

theorem given_short {piece : Piece} (short : piece.bytes.length ≤ 512) :
    piece.given = piece.bytes := by
  have room : ¬piece.bytes.length ≥ BUFSIZ - 1 := by
    rw [BUFSIZ]
    omega
  rw [Piece.given, if_neg room]
  apply List.take_of_length_le
  rw [BUFSIZ]
  omega

theorem given_all {pieces : List Piece} (short : ∀ piece ∈ pieces, piece.bytes.length ≤ 512) :
    given pieces = pieces.flatMap Piece.bytes := by
  rw [given, List.flatMap_def, List.flatMap_def]
  exact congrArg List.flatten
    (List.map_congr_left fun piece there => given_short (short piece there))

theorem given_cons (piece : Piece) (pieces : List Piece) :
    given (piece :: pieces) = piece.given ++ given pieces := rfl

theorem unread_take (here : s.r < s.fsize) (loaded : s.fsize ≤ s.base.length) (left : 0 < s.cnt) :
    s.unread = s.base.getD s.r 0 :: s.take.2.unread := by
  have inside : s.r < s.base.length := Nat.lt_of_lt_of_le here loaded
  have more : s.cnt.toNat = (s.cnt - 1).toNat + 1 := by omega
  have next : (s.base.take s.fsize).drop s.r =
      s.base.getD s.r 0 :: (s.base.take s.fsize).drop (s.r + 1) := by
    have place : s.r < (s.base.take s.fsize).length := by
      rw [List.length_take]
      omega
    rw [← List.getElem_cons_drop place, List.getElem_take, List.getD_eq_getElem?_getD,
      List.getElem?_eq_getElem inside]
    rfl
  rw [Iobuf.unread, next, more, List.take_succ_cons]
  rfl

/-- What the first character of a piece leaves is what is left of the piece. -/
theorem bfill_given {piece : Piece} {pieces : List Piece} (next : s.pieces = piece :: pieces) :
    0 < (bfill s).1 ∧ (bfill s).2.take.2.Steady ∧ (bfill s).2.pieces = pieces ∧
      (bfill s).2.ungotten = s.ungotten ∧
      piece.given = (bfill s).2.base.getD (bfill s).2.r 0 :: (bfill s).2.take.2.unread := by
  have some_bytes := piece.some_bytes
  have head : ∀ n, piece.bytes.take (n + 1) =
      piece.bytes.getD 0 0 :: (piece.bytes.drop 1).take n := by
    intro n
    cases bytes : piece.bytes with
    | nil =>
        rw [bytes] at some_bytes
        exact absurd some_bytes (Nat.lt_irrefl 0)
    | cons b rest => rfl
  simp only [bfill, next]
  by_cases full : piece.bytes.length ≥ BUFSIZ - 1
  · simp only [if_pos full]
    have behind : ¬(0 : Int) < 0 - 1 := by decide
    refine ⟨by decide, ⟨(by decide : (0 : Int) - 1 ≤ BUFSIZ), fun left => absurd left behind⟩,
      trivial, trivial, ?_⟩
    rw [Piece.given, if_pos full, head 0, List.take_zero]
    rfl
  · simp only [if_neg full]
    have room : piece.bytes.length < 1023 := by
      rw [BUFSIZ] at full
      omega
    refine ⟨by omega, ⟨?_, fun _ => Nat.le_refl _⟩, trivial, trivial, ?_⟩
    · simp only [Iobuf.take, BUFSIZ]
      omega
    · have size : BUFSIZ - piece.bytes.length = 1023 - piece.bytes.length + 1 := by
        rw [BUFSIZ]
        omega
      have counter : (((BUFSIZ : Nat) : Int) - piece.bytes.length - 1).toNat =
          1023 - piece.bytes.length := by
        rw [BUFSIZ]
        omega
      rw [Piece.given, if_neg full, size, head]
      simp only [Iobuf.take, Iobuf.unread, counter, List.take_length, Nat.zero_add]

theorem stream_free (free : s.ungotten = none) :
    s.stream = (s.unread ++ given s.pieces).map fun b => (b.toNat : Int) := by
  rw [Iobuf.stream, free]
  rfl

/-- Where nothing was put back and nothing is left, the buffer is filled again. -/
theorem getc_fills (steady : s.Steady) (free : s.ungotten = none)
    (empty : ¬(0 < s.cnt ∧ s.cnt ≤ BUFSIZ ∧ s.r < s.fsize)) :
    s.unread = [] ∧ getc s =
      if (bfill s).1 ≤ 0 then (EOF, { (bfill s).2 with fsize := 0, cnt := BUFSIZ, r := 0 })
      else (bfill s).2.take := by
  have room := steady.room
  have filled : s.cnt ≤ 0 ∨ s.r ≥ s.fsize := by omega
  refine ⟨?_, ?_⟩
  · rw [Iobuf.unread, List.take_eq_nil_iff, List.drop_eq_nil_iff, List.length_take]
    omega
  · simp only [getc, free, if_neg empty, if_pos filled]

theorem getc_stream (steady : s.Steady) : (getc s).2.Steady ∧
    ((getc s).1, (getc s).2.stream) = (s.stream.headD EOF, s.stream.tail) := by
  cases put : s.ungotten with
  | some ch =>
      have back : s.stream = ch :: { s with ungotten := none }.stream := by
        rw [Iobuf.stream, put]
        rfl
      simp only [getc, put, back]
      exact ⟨⟨steady.room, steady.loaded⟩, rfl⟩
  | none =>
      rw [stream_free put]
      by_cases left : 0 < s.cnt ∧ s.cnt ≤ BUFSIZ ∧ s.r < s.fsize
      · have taken := unread_take left.2.2 (steady.loaded left.1) left.1
        have kept : s.take.2.Steady := by
          refine ⟨?_, fun _ => steady.loaded left.1⟩
          simp only [Iobuf.take]
          omega
        have there : getc s = s.take := by simp only [getc, put, if_pos left]
        rw [there, taken, stream_free (s := s.take.2) put]
        exact ⟨kept, rfl⟩
      · rcases getc_fills steady put left with ⟨nothing, fills⟩
        rw [fills, nothing, List.nil_append]
        cases next : s.pieces with
        | nil =>
            have ended : bfill s = (EOF, { s with r := 0, fsize := 0, cnt := BUFSIZ }) := by
              rw [bfill, next]
            have none_read : EOF ≤ 0 := by decide
            simp only [ended, if_pos none_read]
            refine ⟨⟨Int.le_refl _, fun _ => Nat.zero_le _⟩, ?_⟩
            simp [Iobuf.stream, Iobuf.unread, put, next, given]
        | cons piece pieces =>
            rcases bfill_given next with ⟨some_read, kept, behind, free, same⟩
            have read : ¬(bfill s).1 ≤ 0 := by omega
            have later : (bfill s).2.take.2.pieces = pieces := behind
            have stream := stream_free (s := (bfill s).2.take.2) (free.trans put)
            rw [if_neg read, stream, later, given_cons, same]
            exact ⟨kept, rfl⟩

/-- `ungetc` puts a character in front of it, where the place for one is free. -/
theorem ungetc_stream (free : s.ungotten = none) :
    (ungetc c s).2.stream = if c = EOF then s.stream else c.bmod 256 :: s.stream := by
  by_cases ends : c = EOF
  · rw [ungetc, if_pos ends, if_pos ends]
  · have room : ¬s.ungotten.isSome = true := by simp [free]
    rw [ungetc, if_neg ends, if_neg room, if_neg ends, Iobuf.stream, Iobuf.stream, free]
    rfl

theorem bfill_ungotten : (bfill s).2.ungotten = s.ungotten := by
  cases next : s.pieces with
  | nil => rw [bfill, next]
  | cons piece pieces => exact (bfill_given next).2.2.2.1

theorem getc_ungotten : (getc s).2.ungotten = none := by
  cases put : s.ungotten with
  | some ch => simp only [getc, put]
  | none =>
      simp only [getc, put, Iobuf.take]
      split
      · rfl
      · split
        · split <;> exact bfill_ungotten.trans put
        · exact put

theorem ungetc_steady (steady : s.Steady) : (ungetc c s).2.Steady := by
  unfold ungetc
  split
  · exact steady
  · split
    · exact steady
    · exact ⟨steady.room, steady.loaded⟩

end Reading

end Gramado.Rtl.Stdio
