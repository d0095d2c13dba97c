/-
`__tcp_checksum` of tcp.c and `net_checksum` of net.c with their accumulators of 32 bits.
The one reads words with the high byte first, the other as the machine does; the swap at
the end of the second makes up for it.
-/
import Gramado.Lib.OnesComplement
import Gramado.Net.Frame

namespace Gramado.Net.Checksum

open Gramado.Lib
open Gramado.Lib.BigEndian
open Gramado.Lib.OnesComplement

/-- `(b[i] << 8) | b[i + 1]`. -/
def word (high low : UInt8) : UInt16 :=
  (high.toUInt16 <<< 8) ||| low.toUInt16

/-- The words of a segment. An odd last byte is a high byte. -/
def segmentWords : List UInt8 → List UInt16
  | [] => []
  | [high] => [word high 0]
  | high :: low :: rest => word high low :: segmentWords rest

/-- `*p++` for an `unsigned short *p` on a machine with the low byte first. An odd last
    byte is read by itself. -/
def hostWords : List UInt8 → List UInt16
  | [] => []
  | [low] => [low.toUInt16]
  | low :: high :: rest => word high low :: hostWords rest

/-- The same for the pseudo header, of which an odd last byte is not read. -/
def pairWords : List UInt8 → List UInt16
  | [] => []
  | [_] => []
  | low :: high :: rest => word high low :: pairWords rest

def accumulate (start : UInt32) (words : List UInt16) : UInt32 :=
  words.foldl (fun sum word => sum + word.toUInt32) start

/-- `sum & 0xFFFF`. -/
def lowHalf (sum : UInt32) : UInt32 :=
  sum &&& (0xFFFF : UInt32)

/-- `sum >> 16`. -/
def highHalf (sum : UInt32) : UInt32 :=
  sum >>> (16 : UInt32)

theorem toNat_lowHalf {sum : UInt32} : (lowHalf sum).toNat = sum.toNat % 2 ^ 16 := by
  rw [lowHalf, UInt32.toNat_and]
  exact Nat.and_two_pow_sub_one_eq_mod sum.toNat 16

theorem toNat_highHalf {sum : UInt32} : (highHalf sum).toNat = sum.toNat / 2 ^ 16 := by
  rw [highHalf, UInt32.toNat_shiftRight]
  exact Nat.shiftRight_eq_div_pow _ _

theorem toNat_halves {sum : UInt32} :
    (lowHalf sum + highHalf sum).toNat = sum.toNat % 2 ^ 16 + sum.toNat / 2 ^ 16 := by
  have small := sum.toNat_lt
  rw [UInt32.toNat_add, toNat_lowHalf, toNat_highHalf]
  omega

theorem highHalf_ne_zero {sum : UInt32} : highHalf sum ≠ 0 ↔ 2 ^ 16 ≤ sum.toNat := by
  rw [ne_eq, ← UInt32.toNat_inj, toNat_highHalf, UInt32.toNat_zero]
  omega

/-- `while (sum >> 16) sum = (sum & 0xFFFF) + (sum >> 16)`. -/
def foldCarries (sum : UInt32) : UInt32 :=
  if highHalf sum ≠ 0 then
    foldCarries (lowHalf sum + highHalf sum)
  else
    sum
termination_by sum.toNat
decreasing_by
  -- The carry is counted 65536 times in the sum, and once behind it.
  rename_i carry
  have large := highHalf_ne_zero.mp carry
  rw [toNat_halves]
  omega

/-- What `__tcp_checksum` adds, in order: the addresses, the protocol, the length and
    the segment. -/
def tcpAddends (srcIp dstIp : UInt32) (tcpSegment : List UInt8) : List UInt16 :=
  segmentWords (be32 srcIp) ++ segmentWords (be32 dstIp) ++
    [6, UInt16.ofNat tcpSegment.length] ++ segmentWords tcpSegment

def tcpSum (srcIp dstIp : UInt32) (tcpSegment : List UInt8) : UInt32 :=
  foldCarries (accumulate 0 (tcpAddends srcIp dstIp tcpSegment))

def tcpChecksum (srcIp dstIp : UInt32) (tcpSegment : List UInt8) : UInt16 :=
  (~~~tcpSum srcIp dstIp tcpSegment).toUInt16

/-- The carries are folded twice. -/
def netSum (phdr : Option (List UInt8)) (data : List UInt8) : UInt32 :=
  let checksum := accumulate 0 (phdr.elim [] pairWords)
  let checksum := accumulate checksum (hostWords data)
  let checksum := lowHalf checksum + highHalf checksum
  checksum + highHalf checksum

/-- `net_checksum`, of the bytes from `start` up to `end`. -/
def netChecksum (phdr : Option (List UInt8)) (data : List UInt8) : UInt16 :=
  swap (~~~netSum phdr data).toUInt16

/-- The pseudo header of a TCP segment. -/
def pseudoHeader (srcIp dstIp : UInt32) (length : Nat) : List UInt8 :=
  be32 srcIp ++ be32 dstIp ++ [0, 6] ++ be16 (UInt16.ofNat length)

section Words

variable {high low : UInt8} {bytes more : List UInt8} {words : List UInt16} {start sum : UInt32}

theorem toNat_word : (word high low).toNat = high.toNat * 2 ^ 8 + low.toNat := by
  have first := high.toNat_lt
  have second := low.toNat_lt
  have shifted : (high.toUInt16 <<< (8 : UInt16)).toNat = high.toNat <<< 8 := by
    rw [UInt16.toNat_shiftLeft, UInt8.toNat_toUInt16]
    exact Nat.mod_eq_of_lt (by
      rw [Nat.shiftLeft_eq]
      change high.toNat * 2 ^ 8 < 2 ^ 16
      omega)
  rw [word, UInt16.toNat_or, shifted, UInt8.toNat_toUInt16,
    ← Nat.shiftLeft_add_eq_or_of_lt second, Nat.shiftLeft_eq]

theorem swap_word : swap (word high low) = word low high := by
  have first := high.toNat_lt
  have second := low.toNat_lt
  apply UInt16.toNat_inj.mp
  rw [toNat_swap, toNat_word, toNat_word]
  omega

theorem hostWords_eq : hostWords bytes = (segmentWords bytes).map swap := by
  induction bytes using segmentWords.induct with
  | case1 => rfl
  | case2 high =>
      have single : high.toUInt16 = word 0 high := by
        apply UInt16.toNat_inj.mp
        rw [toNat_word, UInt8.toNat_toUInt16, UInt8.toNat_zero, Nat.zero_mul, Nat.zero_add]
      rw [hostWords, segmentWords, List.map_cons, swap_word, single]
      rfl
  | case3 high low rest ih =>
      rw [hostWords, segmentWords, List.map_cons, swap_word, ih]

theorem pairWords_eq (even : bytes.length % 2 = 0) : pairWords bytes = hostWords bytes := by
  induction bytes using segmentWords.induct with
  | case1 => rfl
  | case2 high => cases even
  | case3 high low rest ih =>
      simp only [List.length_cons] at even
      rw [pairWords, hostWords, ih (by omega)]

theorem segmentWords_append (even : bytes.length % 2 = 0) :
    segmentWords (bytes ++ more) = segmentWords bytes ++ segmentWords more := by
  induction bytes using segmentWords.induct with
  | case1 => rfl
  | case2 high => cases even
  | case3 high low rest ih =>
      simp only [List.length_cons] at even
      rw [segmentWords, List.cons_append, List.cons_append, segmentWords, ih (by omega)]
      rfl

theorem length_segmentWords : (segmentWords bytes).length = (bytes.length + 1) / 2 := by
  induction bytes using segmentWords.induct with
  | case1 => rfl
  | case2 high => simp [segmentWords]
  | case3 high low rest ih =>
      rw [segmentWords, List.length_cons, ih, List.length_cons, List.length_cons]
      omega

theorem toNat_accumulate : (accumulate start words).toNat =
    (start.toNat + total words) % 2 ^ 32 := by
  induction words generalizing start with
  | nil =>
      have small := start.toNat_lt
      rw [total_nil, Nat.add_zero, Nat.mod_eq_of_lt small]
      rfl
  | cons a rest ih =>
      have step : accumulate start (a :: rest) = accumulate (start + a.toUInt32) rest := rfl
      rw [step, ih, UInt32.toNat_add, UInt16.toNat_toUInt32, total_cons]
      omega

theorem accumulate_append {late : List UInt16} :
    accumulate start (words ++ late) = accumulate (accumulate start words) late :=
  List.foldl_append

end Words

section Sums

variable {srcIp dstIp sum : UInt32} {segment front back phdr data : List UInt8} {v : UInt16}

theorem toNat_foldCarries : (foldCarries sum).toNat = residue sum.toNat := by
  induction sum using foldCarries.induct with
  | case1 sum carry ih => rw [foldCarries, if_pos carry, ih, toNat_halves, residue_fold]
  | case2 sum small =>
      have low : sum.toNat < 2 ^ 16 := by
        rw [highHalf_ne_zero] at small
        exact Nat.not_le.mp small
      rw [foldCarries, if_neg small]
      exact (residue_of_le (Nat.le_of_lt_succ low)).symm

theorem segmentWords_be16 : segmentWords (be16 v) = [v] := by
  have small := v.toNat_lt
  have same : word (UInt8.ofNat (v.toNat / 2 ^ 8)) (UInt8.ofNat v.toNat) = v := by
    apply UInt16.toNat_inj.mp
    rw [toNat_word, UInt8.toNat_ofNat', UInt8.toNat_ofNat']
    omega
  rw [be16, segmentWords, segmentWords, same]

theorem length_pseudoHeader {n : Nat} : (pseudoHeader srcIp dstIp n).length = 12 := by
  simp [pseudoHeader]

/-- What is added are the words of the pseudo header and of the segment. -/
theorem tcpAddends_eq : tcpAddends srcIp dstIp segment =
    segmentWords (pseudoHeader srcIp dstIp segment.length ++ segment) := by
  have protocol : segmentWords [0, 6] = [6] := rfl
  have even : (pseudoHeader srcIp dstIp segment.length).length % 2 = 0 := by
    rw [length_pseudoHeader]
  have four : (be32 srcIp).length % 2 = 0 := by simp
  have eight : (be32 srcIp ++ be32 dstIp).length % 2 = 0 := by simp
  have ten : (be32 srcIp ++ be32 dstIp ++ [0, 6]).length % 2 = 0 := by simp
  rw [segmentWords_append even, pseudoHeader, segmentWords_append ten, segmentWords_append eight,
    segmentWords_append four, segmentWords_be16, protocol, tcpAddends]
  simp only [List.append_assoc, List.cons_append, List.nil_append]

theorem total_tcpAddends_lt (short : segment.length ≤ 65535) :
    total (tcpAddends srcIp dstIp segment) < 2 ^ 32 := by
  have bound := @total_le (tcpAddends srcIp dstIp segment)
  rw [tcpAddends_eq, length_segmentWords, List.length_append, length_pseudoHeader] at bound
  rw [tcpAddends_eq]
  omega

theorem toNat_tcpSum (short : segment.length ≤ 65535) :
    (tcpSum srcIp dstIp segment).toNat = residue (total (tcpAddends srcIp dstIp segment)) := by
  rw [tcpSum, toNat_foldCarries, toNat_accumulate, UInt32.toNat_zero, Nat.zero_add,
    Nat.mod_eq_of_lt (total_tcpAddends_lt short)]

theorem complement_low : (~~~sum).toUInt16 = ~~~sum.toUInt16 := by
  have small := sum.toNat_lt
  apply UInt16.toNat_inj.mp
  rw [UInt32.toNat_toUInt16, UInt32.toNat_not, UInt16.toNat_not, UInt32.toNat_toUInt16]
  have size : UInt32.size = 4294967296 := rfl
  have half : UInt16.size = 65536 := rfl
  omega

/-- The result is the complement of the sum with its carries taken around. -/
theorem tcpChecksum_eq (short : segment.length ≤ 65535) : tcpChecksum srcIp dstIp segment =
    ~~~OnesComplement.sum (tcpAddends srcIp dstIp segment) := by
  have folded := @toNat_tcpSum srcIp dstIp segment short
  have le := @residue_le (total (tcpAddends srcIp dstIp segment))
  rw [tcpChecksum, complement_low]
  congr 1
  apply UInt16.toNat_inj.mp
  rw [UInt32.toNat_toUInt16, folded, toNat_sum]
  exact Nat.mod_eq_of_lt (Nat.lt_succ_of_le le)

theorem tcpSum_stored (short : (front ++ [0, 0] ++ back).length ≤ 65535)
    (even : front.length % 2 = 0) : tcpSum srcIp dstIp
      (front ++ be16 (tcpChecksum srcIp dstIp (front ++ [0, 0] ++ back)) ++ back) = 0xFFFF := by
  generalize checksum : tcpChecksum srcIp dstIp (front ++ [0, 0] ++ back) = c
  have lengths : (front ++ be16 c ++ back).length = (front ++ [0, 0] ++ back).length := by
    simp only [List.length_append, length_be16, List.length_cons, List.length_nil]
  have segments : ∀ field : List UInt8, field.length = 2 →
      segmentWords (front ++ field ++ back) =
        segmentWords front ++ segmentWords field ++ segmentWords back := by
    intro field two
    have both : (front ++ field).length % 2 = 0 := by
      rw [List.length_append, two]
      omega
    rw [segmentWords_append both, segmentWords_append even]
  have zeroes : segmentWords [0, 0] = [0] := rfl
  have before : total (tcpAddends srcIp dstIp (front ++ [0, 0] ++ back)) + c.toNat =
      total (tcpAddends srcIp dstIp (front ++ be16 c ++ back)) := by
    rw [tcpAddends, tcpAddends, lengths, segments [0, 0] rfl, segments (be16 c) rfl, zeroes,
      segmentWords_be16]
    simp only [total_append, total_cons, total_nil, UInt16.toNat_zero]
    omega
  have positive : 0 < total (tcpAddends srcIp dstIp (front ++ [0, 0] ++ back)) := by
    have protocol : UInt16.toNat 6 = 6 := rfl
    rw [tcpAddends]
    simp only [total_append, total_cons, protocol]
    omega
  have value : c.toNat =
      65535 - residue (total (tcpAddends srcIp dstIp (front ++ [0, 0] ++ back))) := by
    have size : UInt16.size - 1 = 65535 := rfl
    rw [← checksum, tcpChecksum_eq short, UInt16.toNat_not, toNat_sum, size]
  apply UInt32.toNat_inj.mp
  rw [toNat_tcpSum (lengths ▸ short), ← before, value, residue_complement positive]
  rfl

theorem netChecksum_eq (even : phdr.length % 2 = 0)
    (small : total ((segmentWords (phdr ++ data)).map swap) < 2 ^ 32) :
    netChecksum (some phdr) data = ~~~OnesComplement.sum (segmentWords (phdr ++ data)) := by
  have words : pairWords phdr ++ hostWords data = (segmentWords (phdr ++ data)).map swap := by
    rw [pairWords_eq even, hostWords_eq, hostWords_eq, segmentWords_append even, List.map_append]
  have plain : (accumulate 0 ((segmentWords (phdr ++ data)).map swap)).toNat =
      total ((segmentWords (phdr ++ data)).map swap) := by
    rw [toNat_accumulate, UInt32.toNat_zero, Nat.zero_add, Nat.mod_eq_of_lt small]
  have folded : (netSum (some phdr) data).toUInt16 =
      OnesComplement.sum ((segmentWords (phdr ++ data)).map swap) := by
    apply UInt16.toNat_inj.mp
    rw [netSum, Option.elim_some, ← accumulate_append, words, toNat_sum, UInt32.toNat_toUInt16,
      UInt32.toNat_add, toNat_highHalf, toNat_halves, plain, ← residue_two_folds small]
    omega
  rw [netChecksum, complement_low, swap_complement, folded, sum_swap, swap_swap]

end Sums

/-- The checksum of a segment of at most 65535 bytes. No addition overflows; the result is
    the complement of the sum over the pseudo header and the segment with its carries taken
    around; once it is stored in its field, which was zero, the words add up to 0xFFFF; and
    `net_checksum` of the same bytes is the same. -/
theorem tcp_checksum (srcIp dstIp : UInt32) {segment : List UInt8}
    (short : segment.length ≤ 65535) :
    (∀ early, early <+: tcpAddends srcIp dstIp segment →
      total early < 2 ^ 32 ∧ (accumulate 0 early).toNat = total early) ∧
    tcpChecksum srcIp dstIp segment = ~~~OnesComplement.sum
      (segmentWords (pseudoHeader srcIp dstIp segment.length ++ segment)) ∧
    (∀ front back, front.length % 2 = 0 → segment = front ++ [0, 0] ++ back →
      tcpSum srcIp dstIp (front ++ be16 (tcpChecksum srcIp dstIp segment) ++ back) = 0xFFFF) ∧
    netChecksum (some (pseudoHeader srcIp dstIp segment.length)) segment =
      tcpChecksum srcIp dstIp segment := by
  have fits := @total_tcpAddends_lt srcIp dstIp segment short
  refine ⟨?_, ?_, ?_, ?_⟩
  · rintro early ⟨late, all⟩
    rw [← all, total_append] at fits
    have small : total early < 2 ^ 32 := Nat.lt_of_le_of_lt (Nat.le_add_right _ _) fits
    refine ⟨small, ?_⟩
    rw [toNat_accumulate, UInt32.toNat_zero, Nat.zero_add, Nat.mod_eq_of_lt small]
  · rw [tcpChecksum_eq short, tcpAddends_eq]
  · rintro front back even rfl
    exact tcpSum_stored short even
  · have even : (pseudoHeader srcIp dstIp segment.length).length % 2 = 0 := by
      rw [length_pseudoHeader]
    have bound := @total_le
      ((segmentWords (pseudoHeader srcIp dstIp segment.length ++ segment)).map swap)
    rw [List.length_map, length_segmentWords, List.length_append, length_pseudoHeader] at bound
    rw [netChecksum_eq even (by omega), tcpChecksum_eq short, tcpAddends_eq]

/-- A segment of three bytes. -/
theorem three_bytes : netChecksum (some (pseudoHeader 0x0A000002 0x0A000001 3)) [1, 2, 3] =
    tcpChecksum 0x0A000002 0x0A000001 [1, 2, 3] :=
  (@tcp_checksum 0x0A000002 0x0A000001 [1, 2, 3] (by decide)).2.2.2

section Frames

variable {bytes : List UInt8} {n : Nat}

theorem tcpWords_eq : tcpWords bytes = total (segmentWords bytes) := by
  induction bytes using segmentWords.induct with
  | case1 => rfl
  | case2 high => simp [tcpWords, segmentWords, toNat_word]
  | case3 high low rest ih => rw [tcpWords, segmentWords, total_cons, toNat_word, ih]

theorem netWords_eq : netWords bytes = total (hostWords bytes) := by
  induction bytes using segmentWords.induct with
  | case1 => rfl
  | case2 low => simp [netWords, hostWords]
  | case3 low high rest ih =>
      rw [netWords, hostWords, total_cons, toNat_word, ih, Nat.add_comm low.toNat]

theorem netFoldCarries_eq : Net.foldCarries n = residue n := by
  induction n using Net.foldCarries.induct with
  | case1 n carry ih => rw [Net.foldCarries, if_pos carry, ih, residue_fold]
  | case2 n small =>
      rw [Net.foldCarries, if_neg small]
      exact (residue_of_le (by omega)).symm

theorem frame_tcpChecksum {srcIp dstIp : UInt32} :
    Net.tcpChecksum srcIp dstIp bytes = tcpChecksum srcIp dstIp bytes := by
  have protocol : UInt16.toNat 6 = 6 := rfl
  have length : (UInt16.ofNat bytes.length).toNat = bytes.length % 2 ^ 16 := by
    rw [UInt16.toNat_ofNat']
  have le := @residue_le (total (tcpAddends srcIp dstIp bytes) % 2 ^ 32)
  have same : tcpWords (be32 srcIp) + tcpWords (be32 dstIp) + 6 + bytes.length % 2 ^ 16 +
      tcpWords bytes = total (tcpAddends srcIp dstIp bytes) := by
    simp only [tcpAddends, total_append, total_cons, total_nil, protocol, length, tcpWords_eq]
    omega
  rw [tcpChecksum, complement_low, Net.tcpChecksum, same, netFoldCarries_eq]
  congr 1
  apply UInt16.toNat_inj.mp
  rw [UInt16.toNat_ofNat', UInt32.toNat_toUInt16, tcpSum, toNat_foldCarries, toNat_accumulate,
    UInt32.toNat_zero, Nat.zero_add]

theorem frame_netChecksum : Net.netChecksum bytes = netChecksum none bytes := by
  have plain : (accumulate 0 (hostWords bytes)).toNat = netWords bytes % 2 ^ 32 := by
    rw [toNat_accumulate, UInt32.toNat_zero, Nat.zero_add, netWords_eq]
  have small := Nat.mod_lt (netWords bytes) (show 0 < 2 ^ 32 by decide)
  have empty : accumulate 0 [] = 0 := rfl
  rw [netChecksum, complement_low, Net.netChecksum]
  change swap _ = swap _
  congr 2
  apply UInt16.toNat_inj.mp
  rw [UInt16.toNat_ofNat', UInt32.toNat_toUInt16, netSum, Option.elim_none, empty,
    UInt32.toNat_add, toNat_highHalf, toNat_halves, plain]
  omega

end Frames

end Gramado.Net.Checksum
