/-
Two kernels whose handlers of port 11888 answer each other. A message is never without an
answer: g:1 and g:3 are answered by g:a, which is no request and is answered by g:3. Where
the first string is as long as a message, a message carries its rest on, and what lies
behind it in the receive buffer then counts as its end.
-/
import Gramado.Gramnet.Gprot
import Gramado.Lib.Loop
import Gramado.Libk.Formats
import Gramado.Net.FrameRoundTrip

namespace Gramado.Gramnet.Gprot

open Gramado.Lib Gramado.Lib.Numerals Gramado.Lib.Traced
open Gramado.Libk.Vsprintf Gramado.Net Gramado.Net.Parse Gramado.Net.FrameRoundTrip

/-- The kernel that a datagram has come to, and the one that it came from. `tails` is what
    lies behind the messages to come where they are received. -/
structure Exchange where
  here : Kernel
  there : Kernel
  datagram : Datagram
  tails : Nat → List UInt8

/-- The message as the other kernel's handler gets it. -/
def delivered (sent : UdpSend) (tail : List UInt8) : Datagram :=
  ⟨sent.sourcePort, sent.targetPort, received (sent.data ++ tail)⟩

def answered (shell : Shell) (s : Exchange) : Unit ⊕ Exchange :=
  match handleDatagram shell s.here s.datagram with
  | none => .inl ()
  | some (k, sent) => .inr ⟨s.there, k, delivered sent (s.tails 0), fun n => s.tails (n + 1)⟩

/-- The frame of a message to a port that is not filtered gives this datagram. -/
theorem message_delivered {receiver : Receiver} (ready : Ready receiver) (mac : Mac)
    (sent : UdpSend) (tail : List UInt8) (fits : sent.data.length ≤ 8150)
    (port : sent.targetPort = ourPort) :
    value (networkHandleEthernet receiver ((udpFrame mac sent).length : Nat))
        (udpFrame mac sent ++ tail) =
      .ok (saveAddresses receiver mac sent.sourceIp sent.targetIp, .udp (delivered sent tail)) := by
  have other : sent.targetPort ≠ 68 := port ▸ by decide
  have open_port : ¬(sent.targetPort = 80 ∨ sent.targetPort = 443) := port ▸ by decide
  rw [udpFrame_received ready fits, udpFrame_value other, if_neg open_port]
  rfl

def bufferOf (payload : List UInt8) : Buffer :=
  fun i => payload.getD i 0

section Messages

def overlay (buf : Buffer) (place : Nat) (text : List UInt8) : Buffer :=
  fun i => if i < place then buf i else text.getD (i - place) (buf i)

theorem ksprintf_eq {string : UInt64 → CString} {buf : Buffer} {place : Nat} {fmt : String}
    {ap : List UInt64} {items : List Item} (spells : chars fmt ++ [0] = formatOf items)
    (enough : directives items ≤ ap.length) :
    ksprintf string buf place fmt ap =
      overlay buf place (renderings string false items ap).flatten := by
  funext i
  rw [ksprintf, spells, kinguioVsprintf_eq _ _ _ _ enough, overlay]
  by_cases front : i < place
  · simp only [if_pos front]
  · have whole : place + (i - place) = i := by omega
    simp only [if_neg front, outcome, whole]

/-- The message of a code of four characters and a text, over an old string. -/
def composed (old : List UInt8) (cleared : Nat) (code text : List UInt8) : Buffer :=
  overlay (overlay (memset (bufferOf old) cleared) 0 code) 4 text

variable {old code body : List UInt8} {cleared i : Nat}

theorem composed_code (four : code.length = 4) (front : i < 4) :
    composed old cleared code body i = code.getD i 0 := by
  have inside : i < code.length := by omega
  simp [composed, overlay, front, inside]

theorem composed_text (behind : 4 ≤ i) (inside : i < 4 + body.length) :
    composed old cleared code body i = body.getD (i - 4) 0 := by
  have place : i - 4 < body.length := by omega
  simp [composed, overlay, Nat.not_lt.mpr behind, place]

theorem composed_rest (four : code.length = 4) (behind : 4 + body.length ≤ i) :
    composed old cleared code body i = if i < cleared then 0 else old.getD i 0 := by
  have low : ¬i < 4 := by omega
  have outside : ¬i - 4 < body.length := by omega
  have past : ¬i < code.length := by omega
  simp [composed, overlay, memset, bufferOf, low, outside, past]

/-- What is sent: a code, with or without a zero behind it. -/
structure Sends (data : List UInt8) (c : UInt8) (whole : Prop) : Prop where
  size : data.length = messageSize
  code : data.take 4 = [UCHAR 'g', UCHAR ':', c, UCHAR ' ']
  nonzero : c ≠ 0
  zero : (0 : UInt8) ∉ data ↔ whole

theorem getD_ne_zero {list : List UInt8} (ends : (0 : UInt8) ∉ list) (inside : i < list.length) :
    list.getD i 0 ≠ 0 := by
  rw [List.getD_eq_getElem _ _ inside]
  exact fun zero => ends (zero ▸ List.getElem_mem inside)

theorem composed_take {c : UInt8} :
    ((List.range messageSize).map
      (composed old cleared [UCHAR 'g', UCHAR ':', c, UCHAR ' '] body)).take 4 =
        [UCHAR 'g', UCHAR ':', c, UCHAR ' '] := by
  rw [← List.map_take, List.take_range]
  change [composed old cleared _ body 0, composed old cleared _ body 1,
    composed old cleared _ body 2, composed old cleared _ body 3] = _
  have four : [UCHAR 'g', UCHAR ':', c, UCHAR ' '].length = 4 := rfl
  rw [composed_code four (by decide), composed_code four (by decide),
    composed_code four (by decide), composed_code four (by decide)]
  rfl

/-- The rest of an old string that is long enough is sent along behind the text. -/
theorem composed_sends {c : UInt8} (nonzero : c ≠ 0) (ends : (0 : UInt8) ∉ old)
    (body_ends : (0 : UInt8) ∉ body) (long : cleared ≤ 4 + body.length)
    (short : body.length ≤ 251) :
    Sends ((List.range messageSize).map
      (composed old cleared [UCHAR 'g', UCHAR ':', c, UCHAR ' '] body)) c
      (messageSize ≤ old.length) := by
  refine ⟨by simp, composed_take, nonzero, ?_⟩
  simp only [List.mem_map, List.mem_range, not_exists, not_and]
  constructor
  · intro without
    by_contra small
    have last : max old.length (4 + body.length) < messageSize := by
      unfold messageSize at small ⊢
      omega
    refine without _ last ?_
    rw [composed_rest rfl (Nat.le_max_right _ _)]
    split
    · rfl
    · simp
  · intro whole i inside zero
    by_cases front : i < 4
    · rw [composed_code rfl front] at zero
      obtain rfl | rfl | rfl | rfl : i = 0 ∨ i = 1 ∨ i = 2 ∨ i = 3 := by omega
      · exact (show UCHAR 'g' ≠ 0 by decide) zero
      · exact (show UCHAR ':' ≠ 0 by decide) zero
      · exact nonzero zero
      · exact (show UCHAR ' ' ≠ 0 by decide) zero
    · by_cases within : i < 4 + body.length
      · rw [composed_text (by omega) within] at zero
        exact getD_ne_zero body_ends (by omega) zero
      · rw [composed_rest rfl (by omega), if_neg (by omega)] at zero
        exact getD_ne_zero ends (by omega) zero

/-- A message that is shorter than what was cleared ends behind its text. -/
theorem composed_ends {c : UInt8} (nonzero : c ≠ 0) (short : 4 + body.length < cleared)
    (fits : cleared ≤ messageSize) :
    Sends ((List.range messageSize).map
      (composed old cleared [UCHAR 'g', UCHAR ':', c, UCHAR ' '] body)) c False := by
  refine ⟨by simp, composed_take, nonzero, iff_false_intro fun without => without ?_⟩
  refine List.mem_map.mpr ⟨4 + body.length, List.mem_range.mpr (by omega), ?_⟩
  rw [composed_rest rfl (Nat.le_refl _), if_pos short]

theorem zero_not_mem_received (bytes : List UInt8) : (0 : UInt8) ∉ received bytes := by
  rw [received]
  split
  · exact zero_not_mem_text bytes
  · exact List.not_mem_nil

/-- The string begins with this code. -/
def Says (payload : List UInt8) (c : UInt8) : Prop :=
  ∃ rest, payload = UCHAR 'g' :: UCHAR ':' :: c :: UCHAR ' ' :: rest

variable {data tail : List UInt8} {c : UInt8} {whole : Prop}

theorem received_lost (sends : Sends data c whole) (goes_on : whole)
    (much : messageSize < (text tail).length) : received (data ++ tail) = [] := by
  have size := sends.size
  unfold messageSize at much size
  rw [received, text_append_of_zero_free (sends.zero.mpr goes_on), List.length_append]
  exact if_neg (by omega)

theorem received_says (sends : Sends data c whole)
    (heard : whole → (text tail).length ≤ messageSize) :
    Says (received (data ++ tail)) c ∧ (messageSize ≤ (received (data ++ tail)).length ↔
      whole) := by
  have size := sends.size
  have code : data = [UCHAR 'g', UCHAR ':', c, UCHAR ' '] ++ data.drop 4 := by
    rw [← sends.code, List.take_append_drop]
  have free : (0 : UInt8) ∉ [UCHAR 'g', UCHAR ':', c, UCHAR ' '] := by
    have nonzero := sends.nonzero
    simp only [List.mem_cons, List.not_mem_nil, or_false, not_or]
    exact ⟨by decide, by decide, fun same => nonzero same.symm, by decide⟩
  have begins : Says (text (data ++ tail)) c := by
    rw [code, List.append_assoc, text_append_of_zero_free free]
    exact ⟨_, rfl⟩
  by_cases goes_on : whole
  · have near := heard goes_on
    have length : (text (data ++ tail)).length = data.length + (text tail).length := by
      rw [text_append_of_zero_free (sends.zero.mpr goes_on), List.length_append]
    unfold messageSize at near size ⊢
    rw [received, if_pos (by omega)]
    exact ⟨begins, iff_of_true (by omega) goes_on⟩
  · have inside : (0 : UInt8) ∈ data := by
      by_contra without
      exact goes_on (sends.zero.mp without)
    have short := text_length_lt tail inside
    unfold messageSize at size ⊢
    rw [received, if_pos (by omega)]
    exact ⟨begins, iff_of_false (by omega) goes_on⟩

end Messages

/-- A format without conversions and zeros. -/
def plainText (fmt : String) : Bool :=
  (chars fmt).all fun c => c != 0 && c != UCHAR '%'

/-- `cmdline`, if the string is a command with a text. -/
def commandOf (payload : List UInt8) : Option (List UInt8) :=
  if payload.getD 2 0 = UCHAR 'c' ∧ isBlank (payload.getD 3 0) ∧ payload.getD 4 0 ≠ 0 then
    some (commandLine (bufferOf payload))
  else
    none

/-- The kernel when the message is sent: only a command changes it. -/
def kernelAfter (shell : Shell) (k : Kernel) (payload : List UInt8) : Option Kernel :=
  match commandOf payload with
  | none => some k
  | some line => (shell k line).map Prod.fst

/-- The code of the answer, and whether the rest of a long string is sent along. -/
def reaction (k : Kernel) (payload : List UInt8) : UInt8 × Bool :=
  let at_place := bufferOf payload
  if at_place 2 = UCHAR '/' then
    (UCHAR '1', isBlank (at_place 3) || at_place 3 == 0)
  else if at_place 2 = UCHAR 'x' ∨ at_place 2 = UCHAR '0' then
    (UCHAR '1', true)
  else if at_place 2 = UCHAR '1' ∨ at_place 2 = UCHAR '2' ∨ at_place 2 = UCHAR '3' then
    (UCHAR 'a', true)
  else if at_place 2 = UCHAR '4' then
    (UCHAR '0', true)
  else if at_place 2 = UCHAR 'i' ∧ at_place 3 = UCHAR 'p' then
    (UCHAR '1', true)
  else if at_place 2 = UCHAR 'm' ∧ at_place 3 = UCHAR 'a' ∧ at_place 4 = UCHAR 'c' then
    (UCHAR '1', true)
  else if at_place 2 = UCHAR 's' ∧ at_place 3 = UCHAR 's' then
    (UCHAR '1', decide (4 ≤ (signed k.systemState.toInt).length))
  else if at_place 2 = UCHAR 'r' ∧ at_place 3 = UCHAR 'l' then
    (UCHAR '1', false)
  else if (commandOf payload).isSome then
    (UCHAR '1', false)
  else
    (UCHAR '3', false)

section Answers

variable {payload : List UInt8} {k : Kernel} {shell : Shell}

def literals (text : List UInt8) (plain : ∀ c ∈ text, c ≠ 0 ∧ c ≠ UCHAR '%') : List Item :=
  text.pmap Item.literal plain

theorem literals_spec {text : List UInt8} (plain : ∀ c ∈ text, c ≠ 0 ∧ c ≠ UCHAR '%')
    (string : UInt64 → CString) (flag : Bool) (ap : List UInt64) :
    text ++ [0] = formatOf (literals text plain) ∧ directives (literals text plain) = 0 ∧
      (renderings string flag (literals text plain) ap).flatten = text := by
  induction text with
  | nil => exact ⟨rfl, rfl, rfl⟩
  | cons c rest ih =>
      obtain ⟨spells, none, written⟩ := ih fun d inside => plain d (List.mem_cons_of_mem c inside)
      exact ⟨congrArg (c :: ·) spells, none, congrArg (c :: ·) written⟩

theorem plain_chars {fmt : String} (plain : plainText fmt = true) :
    ∀ c ∈ chars fmt, c ≠ 0 ∧ c ≠ UCHAR '%' := by
  intro c inside
  have both := List.all_eq_true.mp plain c inside
  simpa using both

theorem ksprintf_plain {string : UInt64 → CString} {buf : Buffer} {place : Nat} {fmt : String}
    {ap : List UInt64} (plain : plainText fmt = true) :
    ksprintf string buf place fmt ap = overlay buf place (chars fmt) := by
  obtain ⟨spells, none, written⟩ := literals_spec (plain_chars plain) string false ap
  rw [ksprintf_eq spells (none ▸ Nat.zero_le _), written]

/-- A number of the message has at least one character and at most eleven, none zero. -/
theorem rendered_number (string : UInt64 → CString) (arg : UInt64) (spec : Spec)
    (number : spec = .d ∨ spec = .x) :
    (0 : UInt8) ∉ rendered string false arg spec ∧
      0 < (rendered string false arg spec).length ∧
      (rendered string false arg spec).length ≤ 11 := by
  rcases number with rfl | rfl
  · refine ⟨zero_not_mem_signed _, ?_⟩
    have half : arg.toUInt32.toInt32.toInt = (arg.toUInt32.toNat : Int).bmod (2 ^ 32) :=
      BitVec.toInt_eq_toNat_bmod arg.toUInt32.toBitVec
    have bound := arg.toUInt32.toNat_lt
    have fits : (signedOf false arg).natAbs < 10 ^ 10 := by
      rw [signedOf, if_neg (by decide), half, Int.bmod_def]
      split <;> omega
    have some := places_length_pos 10 (signedOf false arg).natAbs
    have short := places_length_le (by decide) (show 0 < 10 by decide) fits
    rw [rendered, signed]
    split
    · rw [List.length_cons, decimal, List.length_map]
      omega
    · rw [decimal, List.length_map]
      omega
  · refine ⟨zero_not_mem_hex _, ?_⟩
    have some := places_length_pos 16 (unsignedOf false arg)
    have short := places_length_le (by decide) (show 0 < 8 by decide)
      (show unsignedOf false arg < 16 ^ 8 from arg.toUInt32.toNat_lt)
    rw [rendered, hex, List.length_map]
    omega

theorem overlay_nil (buf : Buffer) (place : Nat) : overlay buf place [] = buf := by
  funext i
  simp [overlay]

theorem overlay_append (buf : Buffer) (front back : List UInt8) :
    overlay buf 0 (front ++ back) = overlay (overlay buf 0 front) front.length back := by
  funext i
  by_cases inside : i < front.length
  · simp [overlay, inside, List.getElem?_append]
  · simp [overlay, inside, List.getElem?_append]

theorem sends_on {c : UInt8} {body : List UInt8} (nonzero : c ≠ 0)
    (ends : (0 : UInt8) ∉ payload) (body_ends : (0 : UInt8) ∉ body) (long : 4 ≤ body.length)
    (short : body.length ≤ 251) {carries : Prop} (does : carries) :
    Sends ((List.range messageSize).map
      (composed payload 8 [UCHAR 'g', UCHAR ':', c, UCHAR ' '] body)) c
      (messageSize ≤ payload.length ∧ carries) := by
  have sends := composed_sends nonzero ends body_ends (show 8 ≤ 4 + body.length by omega) short
  exact ⟨sends.size, sends.code, sends.nonzero, sends.zero.trans (and_iff_left does).symm⟩

theorem sends_cut {c : UInt8} {cleared : Nat} {body : List UInt8} (nonzero : c ≠ 0)
    (short : 4 + body.length < cleared) (fits : cleared ≤ messageSize) {carries : Prop}
    (does_not : ¬carries) :
    Sends ((List.range messageSize).map
      (composed payload cleared [UCHAR 'g', UCHAR ':', c, UCHAR ' '] body)) c
      (messageSize ≤ payload.length ∧ carries) := by
  have sends := @composed_ends payload body cleared c nonzero short fits
  exact ⟨sends.size, sends.code, sends.nonzero,
    sends.zero.trans ⟨False.elim, fun carried => does_not carried.2⟩⟩

theorem message_plain {code fmt : String} {ap : List UInt64} (plain : plainText code = true)
    (text : plainText fmt = true) :
    message (bufferOf payload) 8 code fmt ap = composed payload 8 (chars code) (chars fmt) := by
  rw [message, ksprintf_plain plain, ksprintf_plain text, composed]

theorem message_items {fmt : String} {ap : List UInt64} {items : List Item}
    (spells : chars fmt ++ [0] = formatOf items) (enough : directives items ≤ ap.length) :
    message (bufferOf payload) 8 "g:1 " fmt ap =
      composed payload 8 (chars "g:1 ") (renderings noStrings false items ap).flatten := by
  have code : plainText "g:1 " = true := by decide
  rw [message, ksprintf_plain code, ksprintf_eq spells enough, composed]

def literal (c : Char) (plain : UCHAR c ≠ 0 ∧ UCHAR c ≠ UCHAR '%') : Item :=
  .literal (UCHAR c) plain

/-- The three numbers with a point behind them, and the fourth. -/
def addressFormat : List Item :=
  [.directive false .d, literal '.' (by decide), .directive false .d, literal '.' (by decide),
    .directive false .d, literal '.' (by decide), .directive false .d]

def macFormat : List Item :=
  [.directive false .x, literal ':' (by decide), .directive false .x, literal ':' (by decide),
    .directive false .x, literal ':' (by decide), .directive false .x, literal ':' (by decide),
    .directive false .x, literal ':' (by decide), .directive false .x]

def Item.isNumber : Item → Bool
  | .literal _ _ => true
  | .directive long spec => !long && (spec == .d || spec == .x)

/-- Every item of such a format gives a character at least and eleven at most. -/
theorem numbers_length (items : List Item) (ap : List UInt64)
    (numbers : items.all Item.isNumber = true) (enough : directives items ≤ ap.length) :
    (0 : UInt8) ∉ (renderings noStrings false items ap).flatten ∧
      items.length ≤ (renderings noStrings false items ap).flatten.length ∧
      (renderings noStrings false items ap).flatten.length ≤ 11 * items.length := by
  induction items generalizing ap with
  | nil => exact ⟨List.not_mem_nil, Nat.le_refl _, Nat.le_refl _⟩
  | cons item items ih =>
      rw [List.all_cons, Bool.and_eq_true] at numbers
      cases item with
      | literal byte text =>
          obtain ⟨ends, least, most⟩ := ih ap numbers.2 enough
          refine ⟨List.not_mem_cons_of_ne_of_not_mem (Ne.symm text.1) ends, ?_, ?_⟩ <;>
            simp only [renderings, List.flatten_cons, List.length_append, List.length_cons,
              List.length_nil] <;> omega
      | directive long spec =>
          cases ap with
          | nil => cases enough
          | cons arg ap =>
              have kind : long = false ∧ (spec = .d ∨ spec = .x) := by
                simpa [Item.isNumber] using numbers.1
              obtain ⟨rfl, number⟩ := kind
              have kept : spec.after false = false := by
                rcases number with rfl | rfl <;> rfl
              obtain ⟨ends, least, most⟩ := ih ap numbers.2 (Nat.le_of_succ_le_succ enough)
              obtain ⟨free, some, short⟩ := rendered_number noStrings arg spec number
              simp only [renderings, Bool.or_false, kept, List.flatten_cons, List.mem_append,
                List.length_append, List.length_cons]
              exact ⟨fun either => either.elim free ends, by omega, by omega⟩

theorem commandOf_none (other : bufferOf payload 2 ≠ UCHAR 'c') : commandOf payload = none :=
  if_neg fun named => other named.1

theorem command_sends {k' : Kernel} (command : bufferOf payload 2 = UCHAR 'c')
    (back : kernelAfter shell k payload = some k') :
    ∃ buf, consoleCommand shell k (bufferOf payload) = some (k', buf) ∧
      Sends ((List.range messageSize).map buf)
        (if (commandOf payload).isSome then (UCHAR '1', false) else (UCHAR '3', false)).1
        (messageSize ≤ payload.length ∧
          (if (commandOf payload).isSome then (UCHAR '1', false) else (UCHAR '3', false)).2 =
            true) := by
  by_cases valid : isBlank (bufferOf payload 3) = true ∧ bufferOf payload 4 ≠ 0
  · have line : commandOf payload = some (commandLine (bufferOf payload)) :=
      if_pos ⟨command, valid⟩
    rw [kernelAfter, line] at back
    obtain ⟨⟨k₁, left⟩, returned, rfl⟩ := Option.map_eq_some_iff.mp back
    have executed : plainText "Command executed: " = true := by decide
    let items :=
      literals (chars "Command executed: ") (plain_chars executed) ++ [.directive false .s]
    have written := @ksprintf_eq (fun _ => left.text)
      (ksprintf (fun _ => left.text) (memset (bufferOf payload) messageSize) 0 "g:1 " []) 4
      "Command executed: %s" [1] items rfl (Nat.le_refl 1)
    have body : (renderings (fun _ => left.text) false items [1]).flatten =
        chars "Command executed: " ++ (left.text.bytes ++ []) := rfl
    rw [consoleCommand, if_pos valid, returned, line]
    refine ⟨_, rfl, ?_⟩
    rw [written, ksprintf_plain (show plainText "g:1 " = true by decide), body]
    have fits := left.fits
    refine sends_cut (by decide) ?_ (Nat.le_refl _) Bool.false_ne_true
    have front : (chars "Command executed: ").length = 18 := rfl
    rw [List.append_nil, List.length_append, front, messageSize]
    omega
  · have none : commandOf payload = none := if_neg fun all => valid all.2
    rw [kernelAfter, none] at back
    cases back
    rw [consoleCommand, if_neg valid, none]
    refine ⟨_, rfl, ?_⟩
    have whole : chars "g:3 Invalid g:c format" = chars "g:3 " ++ chars "Invalid g:c format" := rfl
    rw [ksprintf_plain (show plainText "g:3 Invalid g:c format" = true by decide), whole,
      overlay_append]
    exact sends_cut (by decide) (by decide) (Nat.le_refl _) Bool.false_ne_true

theorem answer_sends {rest : List UInt8} {k' : Kernel}
    (begins : payload = UCHAR 'g' :: UCHAR ':' :: rest) (ends : (0 : UInt8) ∉ payload)
    (back : kernelAfter shell k payload = some k') :
    ∃ buf, gprotAnswer shell k (bufferOf payload) = some (k', buf) ∧
      Sends ((List.range messageSize).map buf) (reaction k payload).1
        (messageSize ≤ payload.length ∧ (reaction k payload).2 = true) := by
  have g : bufferOf payload 0 = UCHAR 'g' := by rw [begins]; rfl
  have colon : bufferOf payload 1 = UCHAR ':' := by rw [begins]; rfl
  have named : ¬(bufferOf payload 0 ≠ UCHAR 'g' ∨ bufferOf payload 1 ≠ UCHAR ':') := by
    simp [g, colon]
  -- Only a shell command changes the kernel.
  have same : bufferOf payload 2 ≠ UCHAR 'c' → k' = k := by
    intro other
    rw [kernelAfter, commandOf_none other] at back
    exact (Option.some.inj back).symm
  -- A reply without a directive is sent as it is written.
  have plain : ∀ (c : Char) (code fmt : String), plainText code = true → plainText fmt = true →
      chars code = [UCHAR 'g', UCHAR ':', UCHAR c, UCHAR ' '] → UCHAR c ≠ 0 →
      4 ≤ (chars fmt).length → (chars fmt).length ≤ 251 → ∀ {carries : Prop}, carries →
      Sends ((List.range messageSize).map (message (bufferOf payload) 8 code fmt [])) (UCHAR c)
        (messageSize ≤ payload.length ∧ carries) := by
    intro c code fmt plain_code plain_fmt spelled nonzero long short carries does
    rw [message_plain plain_code plain_fmt, spelled]
    exact sends_on nonzero ends (fun zero => (plain_chars plain_fmt 0 zero).1 rfl) long short does
  -- The branches of the answer, in the order of the source.
  rw [gprotAnswer, if_neg named, reaction]
  by_cases slash : bufferOf payload 2 = UCHAR '/'
  · have kept : k' = k := same (by rw [slash]; decide)
    simp only [if_pos slash]
    by_cases blank : isBlank (bufferOf payload 3) = true ∨ bufferOf payload 3 = 0
    · have carried : (isBlank (bufferOf payload 3) || bufferOf payload 3 == 0) = true := by
        simpa using blank
      rw [if_pos blank, carried, kept]
      exact ⟨_, rfl, plain '1' "g:1 " gprotResponseFile (by decide) (by decide) rfl (by decide)
        (by decide) (by decide) rfl⟩
    · have dropped : (isBlank (bufferOf payload 3) || bufferOf payload 3 == 0) = false := by
        simpa using blank
      rw [if_neg blank, dropped, kept]
      refine ⟨_, rfl, ?_⟩
      rw [message_plain (by decide) (by decide)]
      exact sends_cut (by decide) (by decide) (by decide) Bool.false_ne_true
  simp only [if_neg slash]
  by_cases x : bufferOf payload 2 = UCHAR 'x'
  · rw [if_pos x, if_pos (Or.inl x), same (by rw [x]; decide)]
    exact ⟨_, rfl, plain '1' "g:1 " "Gramado OS received a g:x request\n" (by decide) (by decide)
      rfl (by decide) (by decide)
      (by decide) rfl⟩
  by_cases zero : bufferOf payload 2 = UCHAR '0'
  · rw [if_neg x, if_pos zero, if_pos (Or.inr zero), same (by rw [zero]; decide)]
    exact ⟨_, rfl, plain '1' "g:1 " "This is a response from Gramado OS\n" (by decide) (by decide)
      rfl (by decide) (by decide)
      (by decide) rfl⟩
  rw [if_neg x, if_neg zero]
  simp only [if_neg (show ¬(bufferOf payload 2 = UCHAR 'x' ∨ bufferOf payload 2 = UCHAR '0') from
    fun either => either.elim x zero)]
  by_cases note : bufferOf payload 2 = UCHAR '1' ∨ bufferOf payload 2 = UCHAR '2' ∨
      bufferOf payload 2 = UCHAR '3'
  · have other : bufferOf payload 2 ≠ UCHAR 'c' := by
      rcases note with note | note | note <;> rw [note] <;> decide
    simp only [if_pos note]
    rw [same other]
    exact ⟨_, rfl, plain 'a' "g:a " "ACK\n" (by decide) (by decide) rfl (by decide) (by decide)
      (by decide) trivial⟩
  simp only [if_neg note]
  by_cases four : bufferOf payload 2 = UCHAR '4'
  · simp only [if_pos four]
    rw [same (by rw [four]; decide)]
    exact ⟨_, rfl, plain '0' "g:0 " "exit" (by decide) (by decide) rfl (by decide) (by decide)
      (by decide) trivial⟩
  simp only [if_neg four]
  by_cases ip : bufferOf payload 2 = UCHAR 'i' ∧ bufferOf payload 3 = UCHAR 'p'
  · simp only [if_pos ip]
    rw [same (by rw [ip.1]; decide)]
    let octets := [k.yourIpv4.1.toUInt64, k.yourIpv4.2.1.toUInt64, k.yourIpv4.2.2.1.toUInt64,
      k.yourIpv4.2.2.2.toUInt64]
    -- Four numbers of one to three digits, with dots between them.
    obtain ⟨free, least, most⟩ := numbers_length addressFormat octets rfl (Nat.le_refl 4)
    have written := @message_items payload "%d.%d.%d.%d" octets addressFormat rfl (Nat.le_refl 4)
    refine ⟨_, rfl, ?_⟩
    rw [written]
    exact sends_on (by decide) ends free (Nat.le_trans (by decide) least)
      (Nat.le_trans most (by decide)) trivial
  simp only [if_neg ip]
  by_cases mac : bufferOf payload 2 = UCHAR 'm' ∧ bufferOf payload 3 = UCHAR 'a' ∧
      bufferOf payload 4 = UCHAR 'c'
  · simp only [if_pos mac]
    rw [same (by rw [mac.1]; decide)]
    let octets := k.gatewayMac.bytes.map UInt8.toUInt64
    obtain ⟨free, least, most⟩ := numbers_length macFormat octets rfl (Nat.le_refl 6)
    have written := @message_items payload "%x:%x:%x:%x:%x:%x" octets macFormat rfl
      (Nat.le_refl 6)
    refine ⟨_, rfl, ?_⟩
    rw [written]
    exact sends_on (by decide) ends free (Nat.le_trans (by decide) least)
      (Nat.le_trans most (by decide)) trivial
  simp only [if_neg mac]
  by_cases ss : bufferOf payload 2 = UCHAR 's' ∧ bufferOf payload 3 = UCHAR 's'
  · simp only [if_pos ss]
    rw [same (by rw [ss.1]; decide)]
    obtain ⟨free, -, most⟩ := numbers_length [.directive false .d]
      [k.systemState.toUInt32.toUInt64] rfl (Nat.le_refl 1)
    have written := @message_items payload "%d" [k.systemState.toUInt32.toUInt64]
      [.directive false .d] rfl (Nat.le_refl 1)
    have body : (renderings noStrings false [.directive false .d]
        [k.systemState.toUInt32.toUInt64]).flatten = signed k.systemState.toInt := by
      simp [renderings, rendered, signedOf]
    refine ⟨_, rfl, ?_⟩
    rw [body] at free most
    rw [written, body]
    -- A number of fewer than four digits leaves the code of the request in the buffer.
    by_cases covers : 4 ≤ (signed k.systemState.toInt).length
    · exact sends_on (by decide) ends free covers (Nat.le_trans most (by decide))
        (decide_eq_true covers)
    · exact sends_cut (by decide) (by omega) (by decide) (by simpa using covers)
  simp only [if_neg ss]
  by_cases rl : bufferOf payload 2 = UCHAR 'r' ∧ bufferOf payload 3 = UCHAR 'l'
  · simp only [if_pos rl]
    rw [same (by rw [rl.1]; decide)]
    have short := places_length_le (show 1 < 10 by decide) Nat.one_pos (show 2 < 10 ^ 1 by decide)
    have written := @message_items payload "%d" [currentRunlevel] [.directive false .d] rfl
      (Nat.le_refl 1)
    have body : (renderings noStrings false [.directive false .d] [currentRunlevel]).flatten =
        decimal 2 := List.append_nil _
    refine ⟨_, rfl, ?_⟩
    rw [written, body]
    refine sends_cut (by decide) ?_ (by decide) (by simp)
    rw [decimal, List.length_map]
    omega
  simp only [if_neg rl]
  by_cases command : bufferOf payload 2 = UCHAR 'c'
  · rw [if_pos command]
    exact command_sends command back
  · -- What is no command at all is answered without being recognized.
    rw [if_neg command, commandOf_none command, same command]
    refine ⟨_, rfl, ?_⟩
    have short := @sends_cut payload (UCHAR '3') 8 [] (by decide) (by decide) (by decide)
      ((UCHAR '3', false).2 = true) Bool.false_ne_true
    rw [composed, overlay_nil] at short
    rw [ksprintf_plain (show plainText "g:3 " = true by decide)]
    exact short

end Answers

def Kernel.Answers (k : Kernel) : Prop :=
  k.initialized = true ∧ k.currentNIC ≠ none

/-- How many messages carry the rest of a long string on, from one that begins with this
    code until g:3 is sent. -/
def carriedOn (c : UInt8) : Nat :=
  if c = UCHAR '0' then 2 else if c = UCHAR '1' ∨ c = UCHAR '3' then 1 else 0

/-- The exchange goes on for ever: both kernels answer each other's messages, and the
    long ones are heard. -/
structure Endless (shell : Shell) (s : Exchange) : Prop where
  ports : s.datagram.dport = ourPort ∧ s.datagram.sport = ourPort
  begins : ∃ rest, s.datagram.payload = UCHAR 'g' :: UCHAR ':' :: rest
  here : s.here.initialized = true
  back : ∃ k, kernelAfter shell s.here s.datagram.payload = some k ∧ k.Answers
  there : s.there.Answers
  heard : messageSize ≤ s.datagram.payload.length →
    (reaction s.here s.datagram.payload).2 = true →
      ∀ i, i < 1 + carriedOn (reaction s.here s.datagram.payload).1 →
        (text (s.tails i)).length ≤ messageSize

section Chains

variable {shell : Shell} {s : Exchange}

theorem handled_eq {rest : List UInt8} {k : Kernel} (port : s.datagram.dport = ourPort)
    (begins : s.datagram.payload = UCHAR 'g' :: UCHAR ':' :: rest)
    (ends : (0 : UInt8) ∉ s.datagram.payload) (here : s.here.initialized = true)
    (back : kernelAfter shell s.here s.datagram.payload = some k) :
    ∃ buf, Sends ((List.range messageSize).map buf) (reaction s.here s.datagram.payload).1
        (messageSize ≤ s.datagram.payload.length ∧
          (reaction s.here s.datagram.payload).2 = true) ∧
      handleDatagram shell s.here s.datagram =
        if k.currentNIC = none then none else some (k, gprotSend k s.datagram buf) := by
  obtain ⟨buf, answer, sends⟩ := answer_sends begins ends back
  have g : bufferOf s.datagram.payload 0 = UCHAR 'g' := by rw [begins]; rfl
  have colon : bufferOf s.datagram.payload 1 = UCHAR ':' := by rw [begins]; rfl
  have taken : gprotHandleProtocol shell s.here (fun i => s.datagram.payload.getD i 0)
      s.datagram.dport = some (k, buf) := by
    change gprotHandleProtocol shell s.here (bufferOf s.datagram.payload) _ = _
    rw [gprotHandleProtocol, if_pos ⟨g, colon⟩, gprotHandleG, if_pos ⟨here, port⟩, answer]
  refine ⟨buf, sends, ?_⟩
  rw [handleDatagram, if_pos port, taken]

/-- One message, when the handler takes the string for a request of its own. -/
theorem answered_next {rest : List UInt8} {k : Kernel} (port : s.datagram.dport = ourPort)
    (begins : s.datagram.payload = UCHAR 'g' :: UCHAR ':' :: rest)
    (ends : (0 : UInt8) ∉ s.datagram.payload) (here : s.here.initialized = true)
    (back : kernelAfter shell s.here s.datagram.payload = some k) (card : k.currentNIC ≠ none) :
    ∃ data, Sends data (reaction s.here s.datagram.payload).1
        (messageSize ≤ s.datagram.payload.length ∧
          (reaction s.here s.datagram.payload).2 = true) ∧
      answered shell s = .inr ⟨s.there, k,
        ⟨ourPort, s.datagram.sport, received (data ++ s.tails 0)⟩, fun n => s.tails (n + 1)⟩ := by
  obtain ⟨buf, sends, handled⟩ := handled_eq port begins ends here back
  rw [if_neg card] at handled
  refine ⟨_, sends, ?_⟩
  rw [answered, handled]
  simp only [delivered, gprotSend, port]

theorem ends_unhandled (none : handleDatagram shell s.here s.datagram = none) :
    Loop.Ends (answered shell) s := by
  have done : answered shell s = .inl () := by rw [answered, none]
  exact Loop.ends_done done

theorem ends_other_port (other : s.datagram.dport ≠ ourPort) : Loop.Ends (answered shell) s :=
  ends_unhandled (if_neg other)

theorem ends_empty (empty : s.datagram.payload = []) : Loop.Ends (answered shell) s := by
  apply ends_unhandled
  rw [handleDatagram, empty]
  split
  · rfl
  · rfl

theorem ends_uninitialized {rest : List UInt8} (off : s.here.initialized ≠ true)
    (begins : s.datagram.payload = UCHAR 'g' :: UCHAR ':' :: rest) :
    Loop.Ends (answered shell) s := by
  apply ends_unhandled
  have g : bufferOf s.datagram.payload 0 = UCHAR 'g' := by rw [begins]; rfl
  have colon : bufferOf s.datagram.payload 1 = UCHAR ':' := by rw [begins]; rfl
  have silent : gprotHandleProtocol shell s.here (fun i => s.datagram.payload.getD i 0)
      s.datagram.dport = none := by
    change gprotHandleProtocol shell s.here (bufferOf s.datagram.payload) _ = _
    rw [gprotHandleProtocol, if_pos ⟨g, colon⟩, gprotHandleG, if_neg fun both => off both.1]
  rw [handleDatagram, silent]
  split <;> rfl

/-- A kernel that cannot answer ends the exchange with a string that is no command. -/
theorem ends_mute {rest : List UInt8} (mute : ¬s.here.Answers)
    (begins : s.datagram.payload = UCHAR 'g' :: UCHAR ':' :: rest)
    (ends : (0 : UInt8) ∉ s.datagram.payload) (plain : commandOf s.datagram.payload = none) :
    Loop.Ends (answered shell) s := by
  by_cases off : s.here.initialized = true
  · by_cases port : s.datagram.dport = ourPort
    · have back : kernelAfter shell s.here s.datagram.payload = some s.here := by
        rw [kernelAfter, plain]
      obtain ⟨buf, -, handled⟩ := handled_eq port begins ends off back
      have card : s.here.currentNIC = none := by
        by_contra some
        exact mute ⟨off, some⟩
      exact ends_unhandled (handled.trans (if_pos card))
    · exact ends_other_port port
  · exact ends_uninitialized off begins

theorem ends_stuck {rest : List UInt8}
    (begins : s.datagram.payload = UCHAR 'g' :: UCHAR ':' :: rest)
    (stuck : kernelAfter shell s.here s.datagram.payload = none) :
    Loop.Ends (answered shell) s := by
  have g : bufferOf s.datagram.payload 0 = UCHAR 'g' := by rw [begins]; rfl
  have colon : bufferOf s.datagram.payload 1 = UCHAR ':' := by rw [begins]; rfl
  rw [kernelAfter, commandOf] at stuck
  split at stuck
  · cases stuck
  · rename_i line some
    split at some
    · rename_i command
      have two : bufferOf s.datagram.payload 2 = UCHAR 'c' := command.1
      have valid : isBlank (bufferOf s.datagram.payload 3) = true ∧
        bufferOf s.datagram.payload 4 ≠ 0 := command.2
      cases some
      have shut := Option.map_eq_none_iff.mp stuck
      have answer : gprotAnswer shell s.here (bufferOf s.datagram.payload) = none := by
        simp +decide only [gprotAnswer, g, colon, two, ne_eq, or_self, if_false,
          false_and, if_true, consoleCommand, if_pos valid, shut]
      have silent : gprotHandleProtocol shell s.here (fun i => s.datagram.payload.getD i 0)
          s.datagram.dport = none := by
        change gprotHandleProtocol shell s.here (bufferOf s.datagram.payload) _ = _
        rw [gprotHandleProtocol, if_pos ⟨g, colon⟩, gprotHandleG, answer]
        split <;> rfl
      apply ends_unhandled
      rw [handleDatagram, silent]
      split <;> rfl
    · cases some

structure Talking (s : Exchange) (c : UInt8) : Prop where
  dport : s.datagram.dport = ourPort
  sport : s.datagram.sport = ourPort
  begins : Says s.datagram.payload c
  ends : (0 : UInt8) ∉ s.datagram.payload
  here : s.here.Answers
  there : s.there.Answers

theorem reads_code {payload : List UInt8} {c : UInt8} (begins : Says payload c) :
    bufferOf payload 2 = c ∧ bufferOf payload 3 = UCHAR ' ' := by
  obtain ⟨rest, rfl⟩ := begins
  exact ⟨rfl, rfl⟩

theorem reaction_messages {payload : List UInt8} (k : Kernel) :
    (Says payload (UCHAR '0') → reaction k payload = (UCHAR '1', true)) ∧
      (Says payload (UCHAR '1') → reaction k payload = (UCHAR 'a', true)) ∧
      (Says payload (UCHAR '3') → reaction k payload = (UCHAR 'a', true)) ∧
      (Says payload (UCHAR 'a') → reaction k payload = (UCHAR '3', false)) := by
  refine ⟨fun begins => ?_, fun begins => ?_, fun begins => ?_, fun begins => ?_⟩ <;>
    obtain ⟨two, three⟩ := reads_code begins
  · simp +decide only [reaction, two, if_false, if_true]
  · simp +decide only [reaction, two, if_false, if_true, or_self]
  · simp +decide only [reaction, two, if_false, if_true, or_self]
  · have none := commandOf_none (two ▸ (by decide : UCHAR 'a' ≠ UCHAR 'c'))
    simp +decide only [reaction, two, none, if_false, or_self, false_and]

def IsCode (c : UInt8) : Prop :=
  c = UCHAR '0' ∨ c = UCHAR '1' ∨ c = UCHAR '3' ∨ c = UCHAR 'a'

theorem reaction_code (k : Kernel) (payload : List UInt8) : IsCode (reaction k payload).1 := by
  unfold reaction IsCode
  grind

theorem no_command {payload : List UInt8} {c : UInt8} (begins : Says payload c) (code : IsCode c) :
    commandOf payload = none := by
  apply commandOf_none
  rw [(reads_code begins).1]
  rcases code with rfl | rfl | rfl | rfl <;> decide

/-- The message that a kernel sends to the other one. -/
def sentTo (s : Exchange) (k : Kernel) (data : List UInt8) : Exchange :=
  ⟨s.there, k, ⟨ourPort, s.datagram.sport, received (data ++ s.tails 0)⟩,
    fun n => s.tails (n + 1)⟩

variable {data : List UInt8} {c : UInt8} {whole : Prop} {k : Kernel}

theorem sent_lost (sends : Sends data c whole) (goes_on : whole)
    (much : messageSize < (text (s.tails 0)).length) :
    Loop.Ends (answered shell) (sentTo s k data) :=
  ends_empty (received_lost sends goes_on much)

theorem sent_talks (sends : Sends data c whole) (sport : s.datagram.sport = ourPort)
    (here : k.Answers) (there : s.there.Answers)
    (heard : whole → (text (s.tails 0)).length ≤ messageSize) :
    Talking (sentTo s k data) c ∧ (messageSize ≤ (sentTo s k data).datagram.payload.length ↔
      whole) := by
  obtain ⟨begins, length⟩ := received_says sends heard
  exact ⟨⟨sport, rfl, begins, zero_not_mem_received _, there, here⟩, length⟩

theorem sent_mute (sends : Sends data c whole) (code : IsCode c) (mute : ¬s.there.Answers) :
    Loop.Ends (answered shell) (sentTo s k data) := by
  by_cases heard : whole → (text (s.tails 0)).length ≤ messageSize
  · obtain ⟨begins, -⟩ := received_says sends heard
    have plain := no_command begins code
    obtain ⟨rest, spelled⟩ := begins
    exact ends_mute mute spelled (zero_not_mem_received _) plain
  · obtain ⟨goes_on, much⟩ := Classical.not_imp.mp heard
    exact sent_lost sends goes_on (Nat.lt_of_not_le much)

theorem talking_next {react : UInt8 × Bool} (talking : Talking s c) (code : IsCode c)
    (reacts : reaction s.here s.datagram.payload = react) :
    ∃ data, Sends data react.1 (messageSize ≤ s.datagram.payload.length ∧ react.2 = true) ∧
      answered shell s = .inr (sentTo s s.here data) := by
  have back : kernelAfter shell s.here s.datagram.payload = some s.here := by
    rw [kernelAfter, no_command talking.begins code]
  obtain ⟨rest, spelled⟩ := talking.begins
  obtain ⟨data, sends, next⟩ :=
    answered_next talking.dport spelled talking.ends talking.here.1 back talking.here.2
  rw [reacts] at sends
  exact ⟨data, sends, next⟩

theorem talking_for_ever (holds : Talking s (UCHAR 'a') ∨
      (Talking s (UCHAR '3') ∧ s.datagram.payload.length < messageSize)) :
    ¬Loop.Ends (answered shell) s := by
  have keep : ∀ s, (Talking s (UCHAR 'a') ∨
      (Talking s (UCHAR '3') ∧ s.datagram.payload.length < messageSize)) →
      ∃ t, answered shell s = .inr t ∧ (Talking t (UCHAR 'a') ∨
        (Talking t (UCHAR '3') ∧ t.datagram.payload.length < messageSize)) := by
    rintro s (talking | ⟨talking, short⟩)
    · obtain ⟨data, sends, next⟩ := talking_next talking (Or.inr (Or.inr (Or.inr rfl)))
        ((reaction_messages s.here).2.2.2 talking.begins)
      have heard := sent_talks sends talking.sport talking.here talking.there
        fun carried => absurd carried.2 Bool.false_ne_true
      refine ⟨_, next, Or.inr ⟨heard.1, Nat.lt_of_not_le fun long => ?_⟩⟩
      exact Bool.false_ne_true (heard.2.mp long).2
    · obtain ⟨data, sends, next⟩ := talking_next talking (Or.inr (Or.inr (Or.inl rfl)))
        ((reaction_messages s.here).2.2.1 talking.begins)
      have heard := sent_talks sends talking.sport talking.here talking.there
        fun carried => absurd carried.1 (Nat.not_le.mpr short)
      exact ⟨_, next, Or.inl heard.1⟩
  exact Loop.not_ends_of_invariant keep holds

/-- One of the next messages is received with too much behind it. -/
def Lost (s : Exchange) (n : Nat) : Prop :=
  ∃ i, i < n ∧ messageSize < (text (s.tails i)).length

theorem sent_ends_iff {n : Nat} (sends : Sends data c whole) (sport : s.datagram.sport = ourPort)
    (here : k.Answers) (there : s.there.Answers)
    (later : Talking (sentTo s k data) c → (Loop.Ends (answered shell) (sentTo s k data) ↔
      messageSize ≤ (sentTo s k data).datagram.payload.length ∧ Lost (sentTo s k data) n)) :
    Loop.Ends (answered shell) (sentTo s k data) ↔ whole ∧ Lost s (n + 1) := by
  by_cases heard : whole → (text (s.tails 0)).length ≤ messageSize
  · obtain ⟨talking, length⟩ := sent_talks sends sport here there heard
    rw [later talking, length]
    refine and_congr_right fun goes_on => ?_
    constructor
    · rintro ⟨i, inside, much⟩
      exact ⟨i + 1, Nat.succ_lt_succ inside, much⟩
    · rintro ⟨i, inside, much⟩
      cases i with
      | zero => exact absurd (heard goes_on) (Nat.not_le.mpr much)
      | succ i => exact ⟨i, Nat.lt_of_succ_lt_succ inside, much⟩
  · obtain ⟨goes_on, much⟩ := Classical.not_imp.mp heard
    have behind := Nat.lt_of_not_le much
    exact iff_of_true (sent_lost sends goes_on behind)
      ⟨goes_on, 0, Nat.succ_pos n, behind⟩

theorem talking_step {c' : UInt8} {n : Nat} (code : IsCode c) (talking : Talking s c)
    (reacts : reaction s.here s.datagram.payload = (c', true))
    (later : ∀ t, Talking t c' → (Loop.Ends (answered shell) t ↔
      messageSize ≤ t.datagram.payload.length ∧ Lost t n)) :
    Loop.Ends (answered shell) s ↔ messageSize ≤ s.datagram.payload.length ∧ Lost s (n + 1) := by
  obtain ⟨data, sends, next⟩ := @talking_next shell s _ _ talking code reacts
  rw [Loop.ends_next next, sent_ends_iff sends talking.sport talking.here talking.there (later _)]
  exact and_congr_left' (and_iff_left rfl)

/-- An exchange that has come to a message ends only by losing one of the long ones. -/
theorem talking_ends_iff (code : IsCode c) (talking : Talking s c) :
    Loop.Ends (answered shell) s ↔
      messageSize ≤ s.datagram.payload.length ∧ Lost s (carriedOn c) := by
  have ack : ∀ t, Talking t (UCHAR 'a') → (Loop.Ends (answered shell) t ↔
      messageSize ≤ t.datagram.payload.length ∧ Lost t 0) := by
    intro t talking
    refine iff_of_false (talking_for_ever (Or.inl talking)) ?_
    rintro ⟨-, i, inside, -⟩
    cases inside
  have one : ∀ t, Talking t (UCHAR '1') → (Loop.Ends (answered shell) t ↔
      messageSize ≤ t.datagram.payload.length ∧ Lost t 1) := fun t talking =>
    talking_step (Or.inr (Or.inl rfl)) talking ((reaction_messages t.here).2.1 talking.begins) ack
  rcases code with rfl | rfl | rfl | rfl
  · exact talking_step (Or.inl rfl) talking ((reaction_messages s.here).1 talking.begins) one
  · exact one s talking
  · exact talking_step (Or.inr (Or.inr (Or.inl rfl))) talking
      ((reaction_messages s.here).2.2.1 talking.begins) ack
  · exact ack s talking

theorem ends_other {b : UInt8} (first : bufferOf s.datagram.payload 0 = b) (g : b ≠ UCHAR 'g')
    (get : b ≠ UCHAR 'G') (post : b ≠ UCHAR 'P') : Loop.Ends (answered shell) s := by
  have differs : ∀ (c : UInt8) (word : List UInt8), b ≠ c →
      gramadoStrncmp (bufferOf s.datagram.payload) (c :: word) = 1 := by
    intro c word apart
    refine if_pos fun same => apart ?_
    rw [List.length_cons, List.range_succ_eq_map, List.map_cons, first] at same
    exact (List.cons.inj same).1
  have quiet : gprotHandleHttp (bufferOf s.datagram.payload) = none := by
    rw [gprotHandleHttp, if_neg, if_neg]
    · exact fun zero => Nat.one_ne_zero ((differs _ _ post).symm.trans zero)
    · exact fun zero => Nat.one_ne_zero ((differs _ _ get).symm.trans zero)
  have silent : gprotHandleProtocol shell s.here (fun i => s.datagram.payload.getD i 0)
      s.datagram.dport = none := by
    change gprotHandleProtocol shell s.here (bufferOf s.datagram.payload) _ = _
    rw [gprotHandleProtocol, if_neg fun both => g (first ▸ both.1), quiet]
    rfl
  apply ends_unhandled
  rw [handleDatagram, silent]
  split <;> rfl

theorem overlay_first {buf : Buffer} {text : List UInt8} {c : UInt8} (first : text.head? = some c) :
    overlay buf 0 text 0 = c := by
  cases text with
  | nil => cases first
  | cons d rest => exact Option.some.inj first

theorem http_sends {buf : Buffer} (payload : List UInt8)
    (answer : gprotHandleHttp (bufferOf payload) = some buf) : buf 0 = UCHAR 'H' := by
  have response : ksprintf noStrings (memset (bufferOf payload) messageSize) 0 httpResponse [] 0 =
      UCHAR 'H' := by
    have first : (chars httpResponse).head? = some (UCHAR 'H') := by decide
    rw [ksprintf_plain (show plainText httpResponse = true by decide), overlay_first first]
  unfold gprotHandleHttp at answer
  split at answer
  · have same := Option.some.inj answer
    rw [← same, response]
  · split at answer
    · have same := Option.some.inj answer
      rw [← same, response]
    · cases answer

theorem sent_first (buf : Buffer) : ∃ rest, (List.range messageSize).map buf = buf 0 :: rest := by
  have some : messageSize = 255 + 1 := rfl
  rw [some, List.range_succ_eq_map, List.map_cons]
  exact ⟨_, rfl⟩

theorem ends_http (plain : ¬(bufferOf s.datagram.payload 0 = UCHAR 'g' ∧
      bufferOf s.datagram.payload 1 = UCHAR ':')) : Loop.Ends (answered shell) s := by
  by_cases port : s.datagram.dport = ourPort
  · have taken : gprotHandleProtocol shell s.here (fun i => s.datagram.payload.getD i 0)
        s.datagram.dport = (gprotHandleHttp (bufferOf s.datagram.payload)).map fun buf =>
          (s.here, buf) := by
      change gprotHandleProtocol shell s.here (bufferOf s.datagram.payload) _ = _
      rw [gprotHandleProtocol, if_neg plain]
    cases answer : gprotHandleHttp (bufferOf s.datagram.payload) with
    | none =>
        apply ends_unhandled
        rw [handleDatagram, if_pos port, taken, answer]
        rfl
    | some buf =>
        rw [answer] at taken
        by_cases card : s.here.currentNIC = none
        · apply ends_unhandled
          rw [handleDatagram, if_pos port, taken]
          exact if_pos card
        · have handled : handleDatagram shell s.here s.datagram =
              some (s.here, gprotSend s.here s.datagram buf) := by
            rw [handleDatagram, if_pos port, taken]
            exact if_neg card
          have next : answered shell s = .inr ⟨s.there, s.here,
              delivered (gprotSend s.here s.datagram buf) (s.tails 0),
                fun n => s.tails (n + 1)⟩ := by
            rw [answered, handled]
          rw [Loop.ends_next next]
          have first : buf 0 = UCHAR 'H' := http_sends s.datagram.payload answer
          obtain ⟨rest, response⟩ := sent_first buf
          rw [first] at response
          have free : (0 : UInt8) ∉ [UCHAR 'H'] := by decide
          have behind : text ((List.range messageSize).map buf ++ s.tails 0) =
              UCHAR 'H' :: text (rest ++ s.tails 0) := by
            rw [response]
            exact text_append_of_zero_free free
          by_cases whole : (text ((List.range messageSize).map buf ++ s.tails 0)).length ≤ 512
          · have begins : bufferOf (received ((List.range messageSize).map buf ++ s.tails 0)) 0 =
                UCHAR 'H' := by
              rw [received, if_pos whole, behind]
              rfl
            exact ends_other begins (by decide) (by decide) (by decide)
          · exact ends_empty (if_neg whole)
  · exact ends_other_port port

/-- A message from a kernel that cannot answer itself: the answer to it is the last one. -/
theorem sent_unanswered (sends : Sends data c whole) (code : IsCode c) (mute : ¬k.Answers)
    (there : s.there.Answers) (sport : s.datagram.sport = ourPort) :
    Loop.Ends (answered shell) (sentTo s k data) := by
  by_cases heard : whole → (text (s.tails 0)).length ≤ messageSize
  · obtain ⟨begins, -⟩ := received_says sends heard
    have back : kernelAfter shell s.there (received (data ++ s.tails 0)) = some s.there := by
      rw [kernelAfter, no_command begins code]
    obtain ⟨rest, spelled⟩ := begins
    -- The other kernel answers, and the answer finds the kernel that is mute.
    obtain ⟨data', sends', next⟩ := @answered_next shell (sentTo s k data) _ _ sport spelled
      (zero_not_mem_received _) there.1 back there.2
    rw [Loop.ends_next next]
    exact @sent_mute shell (sentTo s k data) _ _ _ s.there sends' (reaction_code _ _) mute
  · obtain ⟨goes_on, much⟩ := Classical.not_imp.mp heard
    exact sent_lost sends goes_on (Nat.lt_of_not_le much)

theorem begins_of_buffer {payload : List UInt8} (g : bufferOf payload 0 = UCHAR 'g')
    (colon : bufferOf payload 1 = UCHAR ':') :
    ∃ rest, payload = UCHAR 'g' :: UCHAR ':' :: rest := by
  cases payload with
  | nil => exact absurd (show (0 : UInt8) = UCHAR 'g' from g) (by decide)
  | cons a rest =>
      cases rest with
      | nil => exact absurd (show (0 : UInt8) = UCHAR ':' from colon) (by decide)
      | cons b rest =>
          cases (show a = UCHAR 'g' from g)
          cases (show b = UCHAR ':' from colon)
          exact ⟨rest, rfl⟩

theorem heard_iff {n : Nat} {long carries : Prop} :
    (long ∧ carries) ∧ Lost s (n + 1) ↔
      ¬(long → carries → ∀ i, i < 1 + n → (text (s.tails i)).length ≤ messageSize) := by
  constructor
  · rintro ⟨⟨goes_on, does⟩, i, inside, much⟩ heard
    exact Nat.not_le.mpr much (heard goes_on does i (Nat.add_comm n 1 ▸ inside))
  · intro unheard
    obtain ⟨goes_on, unheard⟩ := Classical.not_imp.mp unheard
    obtain ⟨does, unheard⟩ := Classical.not_imp.mp unheard
    obtain ⟨i, unheard⟩ := Classical.not_forall.mp unheard
    obtain ⟨inside, much⟩ := Classical.not_imp.mp unheard
    exact ⟨⟨goes_on, does⟩, i, Nat.add_comm 1 n ▸ inside, Nat.lt_of_not_le much⟩

/-- The exchange after its first datagram, for a string of bytes without a zero. -/
theorem exchange_ends_iff (ends : (0 : UInt8) ∉ s.datagram.payload) :
    Loop.Ends (answered shell) s ↔ ¬Endless shell s := by
  by_cases port : s.datagram.dport = ourPort
  swap
  · exact iff_of_true (ends_other_port port) fun endless => port endless.ports.1
  by_cases begins : ∃ rest, s.datagram.payload = UCHAR 'g' :: UCHAR ':' :: rest
  swap
  · refine iff_of_true (ends_http fun both => begins ?_) fun endless => begins endless.begins
    exact begins_of_buffer both.1 both.2
  obtain ⟨rest, spelled⟩ := begins
  by_cases here : s.here.initialized = true
  swap
  · exact iff_of_true (ends_uninitialized here spelled) fun endless => here endless.here
  cases back : kernelAfter shell s.here s.datagram.payload with
  | none =>
      refine iff_of_true (ends_stuck spelled back) fun endless => ?_
      obtain ⟨k, returned, -⟩ := endless.back
      cases back.symm.trans returned
  | some k =>
      have same : Endless shell s → k.Answers := by
        intro endless
        obtain ⟨k', returned, answers⟩ := endless.back
        cases back.symm.trans returned
        exact answers
      obtain ⟨buf, -, handled⟩ := handled_eq port spelled ends here back
      by_cases card : k.currentNIC = none
      · exact iff_of_true (ends_unhandled (handled.trans (if_pos card)))
          fun endless => (same endless).2 card
      obtain ⟨data, sends, next⟩ := answered_next port spelled ends here back card
      rw [Loop.ends_next next]
      change Loop.Ends (answered shell) (sentTo s k data) ↔ _
      have code := reaction_code s.here s.datagram.payload
      by_cases sport : s.datagram.sport = ourPort
      swap
      · exact iff_of_true (ends_other_port sport) fun endless => sport endless.ports.2
      by_cases there : s.there.Answers
      swap
      · exact iff_of_true (sent_mute sends code there) fun endless => there endless.there
      by_cases answers : k.Answers
      swap
      · exact iff_of_true (sent_unanswered sends code answers there sport)
          fun endless => answers (same endless)
      rw [sent_ends_iff sends sport answers there fun talking => talking_ends_iff code talking,
        heard_iff]
      refine not_congr ⟨fun heard => ?_, fun endless => endless.heard⟩
      exact ⟨⟨port, sport⟩, ⟨rest, spelled⟩, here, ⟨k, back, answers⟩, there, heard⟩

/-- The first datagram: its bytes, with what lies behind them. -/
def firstDatagram (here there : Kernel) (sport dport : UInt16) (bytes : List UInt8)
    (tails : Nat → List UInt8) : Exchange :=
  ⟨here, there, ⟨sport, dport, received bytes⟩, tails⟩

/-- The chain of answers to a datagram is finite except where the two kernels answer
    each other's messages. -/
theorem chain_ends_iff (shell : Shell) (here there : Kernel) (sport dport : UInt16)
    (bytes : List UInt8) (tails : Nat → List UInt8) :
    Loop.Ends (answered shell) (firstDatagram here there sport dport bytes tails) ↔
      ¬Endless shell (firstDatagram here there sport dport bytes tails) :=
  exchange_ends_iff (zero_not_mem_received bytes)

end Chains

/-- A kernel with an address and a network card. -/
def configured : Kernel where
  initialized := true
  currentNIC := some ⟨2, 0, 0, 0, 0, 1⟩
  yourIpv4 := (192, 168, 1, 112)
  yourIpv4Int := 0xC0A80170
  gatewayMac := ⟨2, 0, 0, 0, 0, 2⟩
  callerIpv4 := 0xC0A80171
  callerMac := ⟨2, 0, 0, 0, 0, 2⟩
  systemState := 0

/-- An error to one of two such kernels, as the other one sends it: it is answered by g:a,
    and that by the same error again. -/
theorem error_never_ends :
    ¬Loop.Ends (answered fun k _ => some (k, ⟨noStrings 0, by decide⟩))
      (firstDatagram configured configured ourPort ourPort (chars "g:3 " ++ [0]) fun _ => []) := by
  have answers : configured.Answers := ⟨rfl, by decide⟩
  have payload : received (chars "g:3 " ++ [0]) = chars "g:3 " := by decide
  apply talking_for_ever
  refine Or.inr ⟨⟨rfl, rfl, ⟨[], payload⟩, ?_, answers, answers⟩, ?_⟩
  · exact zero_not_mem_received (chars "g:3 " ++ [0])
  · change (received (chars "g:3 " ++ [0])).length < messageSize
    rw [payload]
    decide

end Gramado.Gramnet.Gprot
