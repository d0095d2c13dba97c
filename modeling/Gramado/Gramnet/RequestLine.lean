/-
`__parse_http_request_line` of http.c down to the bytes that it reads and writes. The
loops stop in front of the last byte of their buffer, so that the zero behind a field has
a place, and what a field is cut off by is looked at only inside the payload.
-/
import Gramado.Gramnet.Http

namespace Gramado.Gramnet.RequestLine

open Gramado.Gramnet

/-- Where a loop is in the payload and in its buffer, and the places that it has read in
    the one and written in the other. -/
structure Copy where
  i : Nat
  pos : Nat
  field : Nat → UInt8
  reads : List Nat
  writes : List Nat

/-- `field[pos++] = payload[i++]`. -/
def Copy.next (c : Copy) (byte : UInt8) : Copy where
  i := c.i + 1
  pos := c.pos + 1
  field := fun k => if k = c.pos then byte else c.field k
  reads := c.reads ++ [c.i]
  writes := c.writes ++ [c.pos]

/-- `left` bytes of the payload are still to come. -/
def copyLoop (stops : List UInt8) (payload : Nat → UInt8) (limit : Nat) : Nat → Copy → Copy
  | 0, c => c
  | left + 1, c =>
      let looked := { c with reads := c.reads ++ [c.i] }
      if payload c.i ∈ stops then
        looked
      else if c.pos < limit then
        copyLoop stops payload limit left (looked.next (payload c.i))
      else
        looked

/-- A field and its zero. `size_t` is `int` in the kernel; a size less one that is negative
    leaves no room. -/
def copyInto (stops : List UInt8) (payload : Nat → UInt8) (len : Int32) (field : Nat → UInt8)
    (size : Int32) (i : Nat) : Copy :=
  let c := copyLoop stops payload (size - 1).toNatClampNeg (len.toNatClampNeg - i)
    ⟨i, 0, field, [], []⟩
  { c with
    field := fun k => if k = c.pos then 0 else c.field k
    writes := c.writes ++ [c.pos] }

structure Outcome where
  status : Int
  method : Nat → UInt8
  uri : Nat → UInt8
  version : Nat → UInt8
  reads : List Nat
  methodWrites : List Nat
  uriWrites : List Nat
  versionWrites : List Nat

/-- `!(i >= len || payload[i] != ' ')`. -/
def SpaceAt (payload : Nat → UInt8) (len : Int32) (i : Nat) : Prop :=
  i < len.toNatClampNeg ∧ payload i = 32

instance (payload : Nat → UInt8) (len : Int32) (i : Nat) : Decidable (SpaceAt payload len i) :=
  inferInstanceAs (Decidable (_ ∧ _))

/-- The byte that this test reads. -/
def testReads (len : Int32) (i : Nat) : List Nat :=
  if i < len.toNatClampNeg then [i] else []

def parseHttpRequestLine (payload : Option (Nat → UInt8)) (len : Int32)
    (method : Nat → UInt8) (msz : Int32) (uri : Nat → UInt8) (usz : Int32)
    (version : Nat → UInt8) (vsz : Int32) : Outcome :=
  match payload with
  | none => ⟨-1, method, uri, version, [], [], [], []⟩
  | some payload =>
      if len = 0 then
        ⟨-1, method, uri, version, [], [], [], []⟩
      else
        let m := copyInto [32] payload len method msz 0
        let read := m.reads ++ testReads len m.i
        if ¬SpaceAt payload len m.i then
          ⟨-1, m.field, uri, version, read, m.writes, [], []⟩
        else
          let u := copyInto [32, 13] payload len uri usz (m.i + 1)
          let read := read ++ u.reads ++ testReads len u.i
          if ¬SpaceAt payload len u.i then
            ⟨-1, m.field, u.field, version, read, m.writes, u.writes, []⟩
          else
            let v := copyInto [13, 10] payload len version vsz (u.i + 1)
            ⟨0, m.field, u.field, v.field, read ++ v.reads, m.writes, u.writes, v.writes⟩

/-- The bytes from place `i` on. -/
def slice (payload : Nat → UInt8) (i n : Nat) : List UInt8 :=
  (List.range' i n).map payload

/-- The bytes of the payload, none for NULL. -/
def payloadBytes (payload : Option (Nat → UInt8)) (len : Int32) : List UInt8 :=
  payload.elim [] fun payload => slice payload 0 len.toNatClampNeg

/-- The buffer begins with these bytes and a zero. -/
structure Text (field : Nat → UInt8) (text : List UInt8) : Prop where
  bytes : ∀ k (inside : k < text.length), field k = text[k]
  zero : field text.length = 0

/-- The payload has the form `M SP U SP rest`, and the buffers have room for both. -/
structure Line (payload : List UInt8) (msz usz : Int32) (m u : List UInt8) : Prop where
  form : ∃ rest, payload = m ++ 32 :: (u ++ 32 :: rest)
  method : (32 : UInt8) ∉ m
  method_room : m.length ≤ msz.toNatClampNeg - 1
  uri : (32 : UInt8) ∉ u ∧ (13 : UInt8) ∉ u
  uri_room : u.length ≤ usz.toNatClampNeg - 1

section Loop

variable {stops : List UInt8} {payload : Nat → UInt8} {limit left : Nat} {c out : Copy}
  {text : List UInt8}

theorem slice_succ {i n : Nat} :
    slice payload i (n + 1) = payload i :: slice payload (i + 1) n := by
  rw [slice, List.range'_succ, List.map_cons]
  rfl

theorem slice_cons {i n : Nat} (inside : i < n) :
    slice payload i (n - i) = payload i :: slice payload (i + 1) (n - (i + 1)) := by
  have more : n - i = n - (i + 1) + 1 := by omega
  rw [more, slice_succ]

/-- What a loop has copied, and where it has been. -/
structure Copied (stops : List UInt8) (payload : Nat → UInt8) (limit left : Nat) (c out : Copy)
    (text : List UInt8) : Prop where
  taken : Http.copyField stops (limit - c.pos) (slice payload c.i left) =
    (text, slice payload (c.i + text.length) (left - text.length))
  i : out.i = c.i + text.length
  pos : out.pos = c.pos + text.length
  inside : text.length ≤ left
  room : out.pos ≤ limit
  written : ∀ k (short : k < text.length), out.field (c.pos + k) = text[k]
  kept : ∀ k, k < c.pos → out.field k = c.field k
  reads : ∀ r ∈ out.reads, r ∈ c.reads ∨ c.i ≤ r ∧ r < c.i + left
  writes : ∀ w ∈ out.writes, w ∈ c.writes ∨ w < limit

theorem copied_nothing (room : c.pos ≤ limit)
    (stays : Http.copyField stops (limit - c.pos) (slice payload c.i left) =
      ([], slice payload c.i left))
    (same : out.i = c.i ∧ out.pos = c.pos ∧ out.field = c.field ∧ out.writes = c.writes)
    (reads : ∀ r ∈ out.reads, r ∈ c.reads ∨ c.i ≤ r ∧ r < c.i + left) :
    Copied stops payload limit left c out [] := by
  obtain ⟨i, pos, field, writes⟩ := same
  refine ⟨stays, i, pos, Nat.zero_le _, pos ▸ room, ?_, ?_, reads, ?_⟩
  · intro k short
    cases short
  · intro k _
    rw [field]
  · intro w member
    left
    rwa [writes] at member

theorem copyLoop_copied (room : c.pos ≤ limit) :
    ∃ text, Copied stops payload limit left c (copyLoop stops payload limit left c) text := by
  induction left generalizing c with
  | zero =>
      refine ⟨[], copied_nothing room ?_ ⟨rfl, rfl, rfl, rfl⟩ fun r member => Or.inl member⟩
      cases limit - c.pos <;> rfl
  | succ left ih =>
      have looks : ∀ r ∈ c.reads ++ [c.i], r ∈ c.reads ∨ c.i ≤ r ∧ r < c.i + (left + 1) := by
        intro r member
        obtain before | here := List.mem_append.mp member
        · exact Or.inl before
        · obtain rfl := List.mem_singleton.mp here
          exact Or.inr ⟨Nat.le_refl _, by omega⟩
      by_cases stop : payload c.i ∈ stops
      · rw [copyLoop, if_pos stop]
        refine ⟨[], copied_nothing room ?_ ⟨rfl, rfl, rfl, rfl⟩ looks⟩
        rw [slice_succ]
        cases limit - c.pos with
        | zero => rfl
        | succ more => rw [Http.copyField, if_pos stop]
      · by_cases free : c.pos < limit
        · rw [copyLoop, if_neg stop, if_pos free]
          generalize named : ({ c with reads := c.reads ++ [c.i] } : Copy).next (payload c.i) = d
          have d_i : d.i = c.i + 1 := named ▸ rfl
          have d_pos : d.pos = c.pos + 1 := named ▸ rfl
          have d_field : ∀ k, d.field k = if k = c.pos then payload c.i else c.field k :=
            named ▸ fun _ => rfl
          have d_reads : d.reads = c.reads ++ [c.i] ++ [c.i] := named ▸ rfl
          have d_writes : d.writes = c.writes ++ [c.pos] := named ▸ rfl
          obtain ⟨text, copied⟩ := @ih d (by omega)
          have one_more : limit - c.pos = limit - d.pos + 1 := by omega
          have length : (payload c.i :: text).length = text.length + 1 := rfl
          have i := copied.i
          have pos := copied.pos
          have inside := copied.inside
          refine ⟨payload c.i :: text, ?_, by omega, by omega, by omega, copied.room, ?_, ?_,
            ?_, ?_⟩
          · have place : c.i + 1 + text.length = c.i + (text.length + 1) := by omega
            have taken := copied.taken
            rw [d_i, place] at taken
            simp only [slice_succ, one_more, Http.copyField, if_neg stop, taken, length,
              Nat.add_sub_add_right]
          · intro k short
            cases k with
            | zero =>
                rw [Nat.add_zero, copied.kept c.pos (by omega), d_field, if_pos rfl]
                rfl
            | succ k =>
                have later := copied.written k (Nat.lt_of_succ_lt_succ short)
                rw [d_pos, Nat.add_assoc, Nat.add_comm 1] at later
                exact later
          · intro k before
            rw [copied.kept k (by omega), d_field, if_neg (Nat.ne_of_lt before)]
          · intro r member
            obtain seen | later := copied.reads r member
            · rw [d_reads] at seen
              obtain early | again := List.mem_append.mp seen
              · exact looks r early
              · exact looks r (List.mem_append_right _ again)
            · exact Or.inr ⟨by omega, by omega⟩
          · intro w member
            obtain seen | later := copied.writes w member
            · rw [d_writes] at seen
              obtain early | here := List.mem_append.mp seen
              · exact Or.inl early
              · obtain rfl := List.mem_singleton.mp here
                exact Or.inr free
            · exact Or.inr later
        · -- The buffer is full, and the byte stays where it is.
          rw [copyLoop, if_neg stop, if_neg free]
          refine ⟨[], copied_nothing room ?_ ⟨rfl, rfl, rfl, rfl⟩ looks⟩
          rw [Nat.sub_eq_zero_of_le (Nat.not_lt.mp free)]
          rfl

end Loop

section Field

variable {stops : List UInt8} {payload : Nat → UInt8} {len size : Int32} {field : Nat → UInt8}
  {i : Nat}

/-- What `copyInto` leaves: a text and its zero, and the place behind the text. -/
structure Filled (stops : List UInt8) (payload : Nat → UInt8) (len size : Int32) (i : Nat)
    (out : Copy) (text : List UInt8) : Prop where
  taken : Http.copyField stops (size - 1).toNatClampNeg (slice payload i (len.toNatClampNeg - i)) =
    (text, slice payload out.i (len.toNatClampNeg - out.i))
  text : Text out.field text
  reads : ∀ r ∈ out.reads, r < len.toNatClampNeg
  writes : ∀ w ∈ out.writes, w ≤ (size - 1).toNatClampNeg

theorem copyInto_filled (inside : i ≤ len.toNatClampNeg) :
    ∃ text, Filled stops payload len size i (copyInto stops payload len field size i) text := by
  obtain ⟨text, copied⟩ := @copyLoop_copied stops payload (size - 1).toNatClampNeg
    (len.toNatClampNeg - i)
    ⟨i, 0, field, [], []⟩ (Nat.zero_le _)
  have place := copied.i
  have pos : _ = 0 + text.length := copied.pos
  rw [Nat.zero_add] at pos
  refine ⟨text, ?_, ⟨?_, ?_⟩, ?_, ?_⟩
  · have rest : len.toNatClampNeg - i - text.length =
        len.toNatClampNeg - (i + text.length) := by omega
    have taken := copied.taken
    rw [rest] at taken
    rw [copyInto, place]
    exact taken
  · intro k short
    have written := copied.written k short
    rw [Nat.zero_add] at written
    rw [copyInto, pos]
    exact (if_neg (Nat.ne_of_lt short)).trans written
  · rw [copyInto, pos]
    exact if_pos rfl
  · intro r member
    obtain none | later := copied.reads r member
    · cases none
    · have high : r < i + (len.toNatClampNeg - i) := later.2
      omega
  · intro w member
    obtain early | last := List.mem_append.mp member
    · obtain none | below := copied.writes w early
      · cases none
      · exact Nat.le_of_lt below
    · rw [List.mem_singleton.mp last]
      exact copied.room

theorem size_pos (some_byte : 1 ≤ size) : 0 < size.toNatClampNeg := by
  have low : (1 : Int32).toInt ≤ size.toInt := Int32.le_iff_toInt_le.mp some_byte
  have one : (1 : Int32).toInt = 1 := rfl
  rw [Int32.toNatClampNeg]
  omega

theorem limit_eq (some_byte : 1 ≤ size) :
    (size - 1).toNatClampNeg = size.toNatClampNeg - 1 := by
  have low : (1 : Int32).toInt ≤ size.toInt := Int32.le_iff_toInt_le.mp some_byte
  have one : (1 : Int32).toInt = 1 := rfl
  have high := size.toInt_lt
  have less : (size - 1).toInt = size.toInt - 1 := by
    rw [Int32.toInt_sub, one]
    exact Int.bmod_eq_of_le (by omega) (by omega)
  rw [Int32.toNatClampNeg, Int32.toNatClampNeg, less]
  omega

theorem below_size (some_byte : 1 ≤ size) {w : Nat} (low : w ≤ (size - 1).toNatClampNeg) :
    w < size.toNatClampNeg := by
  have positive := size_pos some_byte
  rw [limit_eq some_byte] at low
  omega

theorem slice_space (space : SpaceAt payload len i) :
    slice payload i (len.toNatClampNeg - i) =
      32 :: slice payload (i + 1) (len.toNatClampNeg - (i + 1)) := by
  rw [slice_cons space.1, space.2]

theorem slice_no_space (other : ¬SpaceAt payload len i) (rest : List UInt8) :
    slice payload i (len.toNatClampNeg - i) ≠ 32 :: rest := by
  intro same
  by_cases inside : i < len.toNatClampNeg
  · rw [slice_cons inside] at same
    exact other ⟨inside, (List.cons.inj same).1⟩
  · rw [Nat.sub_eq_zero_of_le (Nat.not_lt.mp inside)] at same
    cases same

theorem testReads_inside (i : Nat) : ∀ r ∈ testReads len i, r < len.toNatClampNeg := by
  intro r member
  rw [testReads] at member
  split at member
  · rename_i inside
    rw [List.mem_singleton.mp member]
    exact inside
  · cases member

end Field

section Lines

variable {p m u t rest stops : List UInt8} {msz usz : Int32} {room vsz : Nat} {c : UInt8}

theorem copyField_front (copied : Http.copyField stops room p = (t, rest)) :
    p = t ++ rest ∧ (∀ x ∈ t, x ∉ stops) ∧ t.length ≤ room := by
  induction room generalizing p t with
  | zero =>
      cases copied
      exact ⟨rfl, fun x member => absurd member List.not_mem_nil, Nat.le_refl _⟩
  | succ room ih =>
      cases p with
      | nil =>
          cases copied
          exact ⟨rfl, fun x member => absurd member List.not_mem_nil, Nat.zero_le _⟩
      | cons d tail =>
          by_cases stop : d ∈ stops
          · rw [Http.copyField, if_pos stop] at copied
            cases copied
            exact ⟨rfl, fun x member => absurd member List.not_mem_nil, Nat.zero_le _⟩
          · rw [Http.copyField, if_neg stop] at copied
            cases copied
            obtain ⟨split, free, short⟩ := @ih tail _ rfl
            refine ⟨congrArg (d :: ·) split, ?_, Nat.succ_le_succ short⟩
            intro x member
            obtain rfl | later := List.mem_cons.mp member
            · exact stop
            · exact free x later

/-- A front without a stop that fits is copied whole, if a stop is behind it. -/
theorem copyField_whole (free : ∀ x ∈ m, x ∉ stops) (short : m.length ≤ room) (stop : c ∈ stops) :
    Http.copyField stops room (m ++ c :: rest) = (m, c :: rest) := by
  induction m generalizing room with
  | nil =>
      cases room with
      | zero => rfl
      | succ room => exact if_pos stop
  | cons d tail ih =>
      cases room with
      | zero => cases short
      | succ room =>
          have later := ih (fun x member => free x (List.mem_cons_of_mem _ member))
            (Nat.le_of_succ_le_succ short)
          rw [List.cons_append, Http.copyField, if_neg (free d List.mem_cons_self), later]

theorem http_of_line (line : Line p msz usz m u) :
    ∃ v, Http.parseHttpRequestLine p msz.toNatClampNeg usz.toNatClampNeg vsz = some ⟨m, u, v⟩ := by
  obtain ⟨rest, rfl⟩ := line.form
  have method := @copyField_whole m (u ++ 32 :: rest) [32] (msz.toNatClampNeg - 1) 32
    (fun x member same => line.method (List.mem_singleton.mp same ▸ member)) line.method_room
    List.mem_cons_self
  have uri := @copyField_whole u rest [32, 13] (usz.toNatClampNeg - 1) 32
    (fun x member stop => by
      obtain rfl | same := List.mem_cons.mp stop
      · exact line.uri.1 member
      · exact line.uri.2 (List.mem_singleton.mp same ▸ member))
    line.uri_room List.mem_cons_self
  refine ⟨(Http.copyField [13, 10] (vsz - 1) rest).1, ?_⟩
  simp [Http.parseHttpRequestLine, method, uri]

theorem line_of_http {parsed : Http.RequestLine}
    (found : Http.parseHttpRequestLine p msz.toNatClampNeg usz.toNatClampNeg vsz = some parsed) :
    Line p msz usz parsed.method parsed.uri := by
  rw [Http.parseHttpRequestLine] at found
  split at found
  · cases found
  · split at found
    · rename_i method afterMethod first
      split at found
      · rename_i uri afterUri second
        cases found
        obtain ⟨split, free, short⟩ := copyField_front first
        obtain ⟨split', free', short'⟩ := copyField_front second
        refine ⟨⟨afterUri, by rw [split, split']⟩, ?_, short, ⟨?_, ?_⟩, short'⟩
        · exact fun member => free 32 member List.mem_cons_self
        · exact fun member => free' 32 member List.mem_cons_self
        · exact fun member => free' 13 member (List.mem_cons_of_mem _ List.mem_cons_self)
      · cases found
    · cases found

end Lines

section Parse

variable {payload : Option (Nat → UInt8)} {len msz usz vsz : Int32}
  {method uri version : Nat → UInt8}

/-- The function returns 0 where the parser on lists does, with the same fields. -/
structure Refines (out : Outcome) (parsed : Option Http.RequestLine) : Prop where
  status : out.status = if parsed.isSome then 0 else -1
  fields : ∀ line ∈ parsed, Text out.method line.method ∧ Text out.uri line.uri

/-- Only the payload is read, and only the buffers are written to. A version buffer without
    a byte is none. -/
structure Bounded (len msz usz vsz : Int32) (out : Outcome) : Prop where
  reads : ∀ r ∈ out.reads, r < len.toNatClampNeg
  methodWrites : ∀ w ∈ out.methodWrites, w < msz.toNatClampNeg
  uriWrites : ∀ w ∈ out.uriWrites, w < usz.toNatClampNeg
  versionWrites : 1 ≤ vsz → ∀ w ∈ out.versionWrites, w < vsz.toNatClampNeg

theorem reads_inside {reads more : List Nat} (early : ∀ r ∈ reads, r < len.toNatClampNeg)
    (late : ∀ r ∈ more, r < len.toNatClampNeg) : ∀ r ∈ reads ++ more, r < len.toNatClampNeg := by
  intro r member
  obtain first | second := List.mem_append.mp member
  · exact early r first
  · exact late r second

theorem http_no_space {p t rest : List UInt8} {a b v : Nat} (some_byte : p ≠ [])
    (taken : Http.copyField [32] (a - 1) p = (t, rest)) (other : ∀ behind, rest ≠ 32 :: behind) :
    Http.parseHttpRequestLine p a b v = none := by
  rw [Http.parseHttpRequestLine, if_neg some_byte, taken]
  split
  · rename_i afterMethod same
    exact absurd (congrArg Prod.snd same) (other afterMethod)
  · rfl

theorem http_space {p t u rest after : List UInt8} {a b v : Nat} (some_byte : p ≠ [])
    (taken : Http.copyField [32] (a - 1) p = (t, 32 :: rest))
    (second : Http.copyField [32, 13] (b - 1) rest = (u, after)) :
    ((∀ behind, after ≠ 32 :: behind) → Http.parseHttpRequestLine p a b v = none) ∧
      ∀ behind, after = 32 :: behind → Http.parseHttpRequestLine p a b v =
        some ⟨t, u, (Http.copyField [13, 10] (v - 1) behind).1⟩ := by
  rw [Http.parseHttpRequestLine, if_neg some_byte, taken]
  simp only [second]
  constructor
  · intro other
    split
    · rename_i afterUri same
      exact absurd (congrArg Prod.snd same) (other afterUri)
    · rfl
  · rintro behind rfl
    rfl

theorem parse_refines (some_method : 1 ≤ msz) (some_uri : 1 ≤ usz) :
    Refines (parseHttpRequestLine payload len method msz uri usz version vsz)
        (Http.parseHttpRequestLine (payloadBytes payload len) msz.toNatClampNeg usz.toNatClampNeg
        vsz.toNatClampNeg) ∧
      Bounded len msz usz vsz
        (parseHttpRequestLine payload len method msz uri usz version vsz) := by
  have nothing : ∀ n ∈ ([] : List Nat), ∀ bound, n < bound := fun n member =>
    absurd member List.not_mem_nil
  cases payload with
  | none =>
      exact ⟨⟨rfl, fun line found => absurd found (Option.not_mem_none line)⟩,
        fun r h => nothing r h _, fun r h => nothing r h _, fun r h => nothing r h _,
        fun _ r h => nothing r h _⟩
  | some payload =>
      by_cases empty : len = 0
      · subst empty
        exact ⟨⟨rfl, fun line found => absurd found (Option.not_mem_none line)⟩,
          fun r h => nothing r h _, fun r h => nothing r h _, fun r h => nothing r h _,
          fun _ r h => nothing r h _⟩
      obtain ⟨m, filled⟩ := @copyInto_filled [32] payload len msz method 0 (Nat.zero_le _)
      have taken := filled.taken
      rw [limit_eq some_method] at taken
      have m_writes : ∀ w ∈ _, w < msz.toNatClampNeg := fun w member =>
        below_size some_method (filled.writes w member)
      have early := reads_inside filled.reads
        (testReads_inside (copyInto [32] payload len method msz 0).i)
      simp only [parseHttpRequestLine, if_neg empty]
      by_cases first : SpaceAt payload len (copyInto [32] payload len method msz 0).i
      · have some_byte : payloadBytes (some payload) len ≠ [] := by
          have bytes := @slice_cons payload 0 len.toNatClampNeg (Nat.zero_lt_of_lt first.1)
          rw [Nat.sub_zero] at bytes
          change slice payload 0 len.toNatClampNeg ≠ []
          rw [bytes]
          exact List.cons_ne_nil _ _
        rw [if_neg (not_not_intro first)]
        rw [slice_space first] at taken
        obtain ⟨u, uri_filled⟩ := @copyInto_filled [32, 13] payload len usz uri
          ((copyInto [32] payload len method msz 0).i + 1) first.1
        have second := uri_filled.taken
        rw [limit_eq some_uri] at second
        obtain ⟨refused, accepted⟩ := @http_space _ _ _ _ _ _ _ vsz.toNatClampNeg some_byte taken
          second
        have u_writes : ∀ w ∈ _, w < usz.toNatClampNeg := fun w member =>
          below_size some_uri (uri_filled.writes w member)
        have reads := reads_inside (reads_inside early uri_filled.reads)
          (testReads_inside (copyInto [32, 13] payload len uri usz
            ((copyInto [32] payload len method msz 0).i + 1)).i)
        generalize copyInto [32, 13] payload len uri usz _ = out at *
        by_cases last : SpaceAt payload len out.i
        · rw [if_neg (not_not_intro last), accepted _ (slice_space last)]
          obtain ⟨v, version_filled⟩ := @copyInto_filled [13, 10] payload len vsz version
            (out.i + 1) last.1
          refine ⟨⟨rfl, ?_⟩, reads_inside reads version_filled.reads, m_writes, u_writes, ?_⟩
          · rintro line ⟨⟩
            exact ⟨filled.text, uri_filled.text⟩
          · intro some_version w member
            exact below_size some_version (version_filled.writes w member)
        · rw [if_pos last, refused (slice_no_space last)]
          exact ⟨⟨rfl, fun line found => absurd found (Option.not_mem_none line)⟩, reads,
            m_writes, u_writes, fun _ r h => nothing r h _⟩
      · -- A length below zero is that of no payload at all.
        have refused : Http.parseHttpRequestLine (payloadBytes (some payload) len)
            msz.toNatClampNeg usz.toNatClampNeg vsz.toNatClampNeg = none := by
          by_cases some_byte : payloadBytes (some payload) len = []
          · rw [some_byte]
            rfl
          · exact http_no_space some_byte taken (slice_no_space first)
        rw [if_pos first, refused]
        exact ⟨⟨rfl, fun line found => absurd found (Option.not_mem_none line)⟩,
          early, m_writes, fun r h => nothing r h _, fun _ r h => nothing r h _⟩

/-- The function accepts exactly the payloads that begin with a line whose fields fit, it
    copies the fields, and it stays inside the payload and the buffers. -/
theorem request_line_iff (payload : Option (Nat → UInt8)) (len : Int32)
    (method uri version : Nat → UInt8) {msz usz : Int32} (vsz : Int32) (some_method : 1 ≤ msz)
    (some_uri : 1 ≤ usz) :
    ((parseHttpRequestLine payload len method msz uri usz version vsz).status = 0 ↔
      ∃ m u, Line (payloadBytes payload len) msz usz m u) ∧
    (∀ m u, Line (payloadBytes payload len) msz usz m u →
      Text (parseHttpRequestLine payload len method msz uri usz version vsz).method m ∧
        Text (parseHttpRequestLine payload len method msz uri usz version vsz).uri u) ∧
    Bounded len msz usz vsz
      (parseHttpRequestLine payload len method msz uri usz version vsz) := by
  -- The pointer code does on the payload what the list parser does on its bytes.
  obtain ⟨refines, bounded⟩ := @parse_refines payload len msz usz vsz method uri version
    some_method some_uri
  refine ⟨?_, ?_, bounded⟩
  · rw [refines.status]
    constructor
    · intro success
      cases parsed : Http.parseHttpRequestLine (payloadBytes payload len) msz.toNatClampNeg
        usz.toNatClampNeg
          vsz.toNatClampNeg with
      | none =>
          rw [parsed] at success
          cases success
      | some line => exact ⟨_, _, line_of_http parsed⟩
    · rintro ⟨m, u, line⟩
      obtain ⟨v, parsed⟩ := @http_of_line _ _ _ _ _ vsz.toNatClampNeg line
      rw [parsed]
      rfl
  · intro m u line
    obtain ⟨v, parsed⟩ := @http_of_line _ _ _ _ _ vsz.toNatClampNeg line
    exact refines.fields _ parsed

/-- "GET / x" with buffers that have just the room. -/
theorem get_root :
    (parseHttpRequestLine (some fun k => ([71, 69, 84, 32, 47, 32] : List UInt8).getD k 120) 7
      (fun _ => 1) 4 (fun _ => 1) 2 (fun _ => 1) 16).status = 0 := by
  apply (request_line_iff _ 7 _ _ _ 16 (by decide) (by decide)).1.mpr
  refine ⟨[71, 69, 84], [47], ⟨[120], rfl⟩, by decide, by decide, by decide, by decide⟩

end Parse

end Gramado.Gramnet.RequestLine
