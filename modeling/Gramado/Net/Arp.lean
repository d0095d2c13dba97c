/-
The ARP table and the handler of arp.c. An address of four octets is the number
in host order that they spell, as in the frames. Of a packet the handler reads
the operation and the sender; `arp_tpa`, the address that is asked for, is here
because the answers are about it. What the console prints is left out.
-/
import Gramado.Lib.Cache
import Gramado.Lib.Machine
import Gramado.Net.Dhcp
import Gramado.Net.Parse

namespace Gramado.Net.Arp

open Gramado.Ke Gramado.Lib Gramado.Lib.BigEndian

def ARP_OPC_REQUEST : UInt16 := 1

def ARP_OPC_REPLY : UInt16 := 2

def ARP_TABLE_COUNT_MAX : Nat := 32

/-- `__arp_gateway_default_ipv4` -/
def gatewayDefaultIpv4 : UInt32 := 0xC0A80101

/-- `struct arp_cache_item_d`. Its `used` and `id` are never read. -/
structure ArpCacheItem where
  magic : Int32
  isFree : Bool
  ipv4Address : UInt32
  macAddress : Mac
  deriving DecidableEq, Repr

structure ArpTable where
  initialized : Bool
  arpTable : Nat → ArpCacheItem

/-- `struct ether_arp` behind its four fields of types and lengths, which are not
    looked at either. -/
structure EtherArp extends Parse.ArpPacket where
  tpa : UInt32
  deriving DecidableEq, Repr

/-- The fields of `struct intel_nic_info_d` that a send uses. A buffer is `false`
    where its pointer is NULL. -/
structure Nic where
  macAddress : Mac
  ipAddress : UInt32
  txCur : UInt16
  txBuffersVirt : UInt16 → Bool

/-- The fields of `struct network_info_d` that are about the gateway. -/
structure NetworkInfo where
  initialized : Bool
  gatewayIpv4 : UInt32
  gatewayMac : Mac
  deriving DecidableEq, Repr

/-- What arp.c reads and writes. -/
structure Network where
  table : ArpTable
  saved : Parse.NetworkSaved
  networkInfo : Option NetworkInfo
  dhcpInfo : Dhcp.DhcpInfo
  status : Bool
  currentNIC : Option Nic
  currentInterface : Bool

section Table

def arpInitializeArpTable (t : ArpTable) : ArpTable where
  initialized := true
  arpTable i :=
    if i < ARP_TABLE_COUNT_MAX then
      ⟨1234, true, 0, ⟨0, 0, 0, 0, 0, 0⟩⟩
    else
      t.arpTable i

/-- `none` is the return value -1. -/
def arpTableLookup (t : ArpTable) (ip : UInt32) : Option Nat :=
  if t.initialized then
    Search.first ARP_TABLE_COUNT_MAX fun i =>
      (t.arpTable i).isFree = false ∧ (t.arpTable i).ipv4Address = ip
  else
    none

def arpTableFindFreeSlot (t : ArpTable) : Option Nat :=
  if t.initialized then
    Search.first ARP_TABLE_COUNT_MAX fun i =>
      (t.arpTable i).magic = 1234 ∧ (t.arpTable i).isFree = true
  else
    none

def arpTableSetEntry (t : ArpTable) (index : Nat) (targetIp : UInt32) (targetMac : Mac) :
    ArpTable :=
  if t.initialized = false then
    t
  else if ARP_TABLE_COUNT_MAX ≤ index then
    t
  else
    { t with arpTable := fun i =>
        if i = index then
          { t.arpTable i with ipv4Address := targetIp, macAddress := targetMac, isFree := false }
        else
          t.arpTable i }

/-- What the handler does with the table for a reply. -/
def noteReply (t : ArpTable) (spa : UInt32) (sha : Mac) : ArpTable :=
  match arpTableLookup t spa with
  | none =>
      match arpTableFindFreeSlot t with
      | some freeSlot => arpTableSetEntry t freeSlot spa sha
      | none => t
  | some index => arpTableSetEntry t index spa sha

end Table

section Sending

def arpFrame (nicMac targetMac : Mac) (sourceIp targetIp : UInt32) (op : UInt16) : List UInt8 :=
  ethernetHeader targetMac nicMac 0x0806 ++
    (be16 1 ++ be16 0x0800 ++ [6, 4] ++ be16 op ++
      nicMac.bytes ++ be32 sourceIp ++ targetMac.bytes ++ be32 targetIp)

/-- The frame that is handed to the NIC, if one is. `ethernet_send` reads the
    current interface's fields also where there is none, and `e1000_send` goes on
    to the next of the eight buffers. -/
def networkSendArp (s : Network) (targetMac : Mac) (sourceIp targetIp : UInt32) (op : UInt16) :
    Except Stop (Option (List UInt8) × Network) :=
  match s.currentNIC with
  | none => .ok (none, s)
  | some nic =>
      if op ≠ ARP_OPC_REQUEST ∧ op ≠ ARP_OPC_REPLY then
        .error (.panic "network_send_arp: Invalid operation code\n")
      else if nic.txBuffersVirt nic.txCur = false then
        .error (.panic "network_send_arp: frame\n")
      else if s.currentInterface = false then
        .error (.fault "iface")
      else
        let sent := { nic with ipAddress := sourceIp, txCur := (nic.txCur + 1) % 8 }
        .ok (some (arpFrame nic.macAddress targetMac sourceIp targetIp op),
          { s with currentNIC := some sent })

def networkSendArpReply (s : Network) (targetMac : Mac) (targetIp : UInt32) :
    Except Stop (Option (List UInt8) × Network) :=
  if s.dhcpInfo.initialized = false then
    .ok (none, s)
  else
    networkSendArp s targetMac s.dhcpInfo.yourIpv4 targetIp ARP_OPC_REPLY

def networkArpRequestTo (s : Network) (srcIpv4 dstIpv4 : UInt32) :
    Except Stop (Option (List UInt8) × Network) :=
  if s.status = false then
    .ok (none, s)
  else
    networkSendArp s ⟨255, 255, 255, 255, 255, 255⟩ srcIpv4 dstIpv4 ARP_OPC_REQUEST

end Sending

section Handler

def saveGateway (s : Network) (ar : EtherArp) : Network :=
  if ar.spa = gatewayDefaultIpv4 then
    { s with saved := { s.saved with gatewayIpv4 := ar.spa, gatewayMac := ar.sha } }
  else
    s

def saveGatewayInfo (info : Option NetworkInfo) (ar : EtherArp) : Option NetworkInfo :=
  info.map fun info =>
    if ar.spa = gatewayDefaultIpv4 ∧ info.initialized = true then
      { info with gatewayIpv4 := ar.spa, gatewayMac := ar.sha }
    else
      info

/-- The buffer is `none` where it is NULL. -/
def networkHandleArp (s : Network) (buffer : Option EtherArp) :
    Except Stop (Option (List UInt8) × Network) :=
  match buffer with
  | none => .ok (none, s)
  | some ar =>
      let s := saveGateway s ar
      if ar.op = ARP_OPC_REQUEST then
        networkSendArpReply s ar.sha ar.spa
      else if ar.op = ARP_OPC_REPLY then
        .ok (none, { s with
          table := noteReply s.table ar.spa ar.sha
          networkInfo := saveGatewayInfo s.networkInfo ar })
      else
        .ok (none, s)

/-- What can happen: a packet arrives, the kernel asks for an address, or the
    rest of the kernel changes what arp.c reads of it. -/
inductive Event where
  | received (buffer : Option EtherArp)
  | requestTo (srcIpv4 dstIpv4 : UInt32)
  | elsewhere (networkInfo : Option NetworkInfo) (dhcpInfo : Dhcp.DhcpInfo) (status : Bool)
      (currentNIC : Option Nic) (currentInterface : Bool)

def step (s : Network) : Event → Except Stop (Option (List UInt8) × Network)
  | .received buffer => networkHandleArp s buffer
  | .requestTo srcIpv4 dstIpv4 => networkArpRequestTo s srcIpv4 dstIpv4
  | .elsewhere networkInfo dhcpInfo status currentNIC currentInterface =>
      .ok (none, { s with
        networkInfo := networkInfo
        dhcpInfo := dhcpInfo
        status := status
        currentNIC := currentNIC
        currentInterface := currentInterface })

/-- `netInitialize`, as far as the table is concerned. -/
def start (s : Network) : Network :=
  { s with table := arpInitializeArpTable s.table }

end Handler

section Replies

/-- The replies of the events, as pairs of an address and a MAC. -/
def replies (events : List Event) : List (UInt32 × Mac) :=
  events.filterMap fun event =>
    match event with
    | .received (some ar) => if ar.op = ARP_OPC_REPLY then some (ar.spa, ar.sha) else none
    | _ => none

def lookupMac (t : ArpTable) (ip : UInt32) : Option Mac :=
  (arpTableLookup t ip).map fun i => (t.arpTable i).macAddress

/-- The table is a map of what the replies said: no address has two entries, and
    an address has the MAC of its latest reply if it is one of the first
    `ARP_TABLE_COUNT_MAX` different ones. -/
def IsMap (seen : List (UInt32 × Mac)) (t : ArpTable) : Prop :=
  (∀ i j, i < ARP_TABLE_COUNT_MAX → j < ARP_TABLE_COUNT_MAX →
      (t.arpTable i).isFree = false → (t.arpTable j).isFree = false →
      (t.arpTable i).ipv4Address = (t.arpTable j).ipv4Address → i = j) ∧
    ∀ ip, lookupMac t ip = Cache.recalled ARP_TABLE_COUNT_MAX seen ip

/-- A packet is answered only if it asks for the kernel's own address. -/
def AnswersOwn (s : Network) (event : Event) (out : Option (List UInt8) × Network) : Prop :=
  ∀ ar, event = .received (some ar) → out.1 ≠ none →
    s.dhcpInfo.initialized = true ∧ ar.tpa = s.dhcpInfo.yourIpv4

/-- Throughout a run from the start of the network, the table is a map of the
    replies so far, and the answers are for the kernel's own address. -/
def Law (s : Network) (events : List Event) : Prop :=
  (∀ early, early <+: events → ∀ outs t,
      Machine.run step (start s) early = .ok (outs, t) → IsMap (replies early) t.table) ∧
    Machine.Along step AnswersOwn (start s) events

/-- The kernel has an address, a NIC with a buffer to write to, and an interface. -/
def CanAnswer (s : Network) : Prop :=
  s.dhcpInfo.initialized = true ∧ s.currentInterface = true ∧
    ∃ nic, s.currentNIC = some nic ∧ nic.txBuffersVirt nic.txCur = true

/-- A request that the kernel can answer asks for its own address. -/
def AsksForOwn (s : Network) (event : Event) : Prop :=
  ∀ ar, event = .received (some ar) → ar.op = ARP_OPC_REQUEST → CanAnswer s →
    ar.tpa = s.dhcpInfo.yourIpv4

end Replies

section Refinement

variable {t : ArpTable} {seen : List (UInt32 × Mac)} {ip : UInt32} {mac : Mac} {i : Nat}

/-- The table as a cache: the places that are in use. -/
def ArpTable.places (t : ArpTable) : Cache.Table UInt32 Mac := fun i =>
  if (t.arpTable i).isFree = true then
    none
  else
    some ((t.arpTable i).ipv4Address, (t.arpTable i).macAddress)

structure Sound (seen : List (UInt32 × Mac)) (t : ArpTable) : Prop where
  initialized : t.initialized = true
  magic : ∀ i, i < ARP_TABLE_COUNT_MAX → (t.arpTable i).magic = 1234
  held : Cache.Remembers ARP_TABLE_COUNT_MAX seen t.places

theorem places_key : (t.places i).map Prod.fst = some ip ↔
    (t.arpTable i).isFree = false ∧ (t.arpTable i).ipv4Address = ip := by
  cases free : (t.arpTable i).isFree <;> simp [ArpTable.places, free]

theorem lookup_eq (ready : t.initialized = true) (ip : UInt32) :
    arpTableLookup t ip = Cache.find ARP_TABLE_COUNT_MAX t.places ip := by
  rw [arpTableLookup, if_pos ready]
  exact Search.first_congr fun i _ => places_key.symm

theorem findFreeSlot_eq (sound : Sound seen t) :
    arpTableFindFreeSlot t = Cache.vacant ARP_TABLE_COUNT_MAX t.places := by
  rw [arpTableFindFreeSlot, if_pos sound.initialized]
  apply Search.first_congr
  intro i inside
  cases free : (t.arpTable i).isFree <;> simp [ArpTable.places, free, sound.magic i inside]

theorem setEntry_places (ready : t.initialized = true) (inside : i < ARP_TABLE_COUNT_MAX) :
    (arpTableSetEntry t i ip mac).places = Cache.write t.places i (ip, mac) := by
  have low : ¬ARP_TABLE_COUNT_MAX ≤ i := Nat.not_le.mpr inside
  funext j
  by_cases here : j = i <;>
    simp [arpTableSetEntry, ArpTable.places, Cache.write, ready, low, here]

theorem setEntry_magic (t : ArpTable) (i : Nat) (ip : UInt32) (mac : Mac) (j : Nat) :
    ((arpTableSetEntry t i ip mac).arpTable j).magic = (t.arpTable j).magic := by
  rw [arpTableSetEntry]
  split
  · rfl
  · split
    · rfl
    · by_cases here : j = i <;> simp [here]

theorem setEntry_initialized (t : ArpTable) (i : Nat) (ip : UInt32) (mac : Mac) :
    (arpTableSetEntry t i ip mac).initialized = t.initialized := by
  rw [arpTableSetEntry]
  split
  · rfl
  · split <;> rfl

theorem noteReply_places (sound : Sound seen t) (spa : UInt32) (sha : Mac) :
    (noteReply t spa sha).places = Cache.learn ARP_TABLE_COUNT_MAX t.places (spa, sha) := by
  rw [noteReply, lookup_eq sound.initialized, findFreeSlot_eq sound, Cache.learn]
  cases found : Cache.find ARP_TABLE_COUNT_MAX t.places spa with
  | some i =>
      have inside := (Search.first_eq_some.mp found).2.1
      exact setEntry_places sound.initialized inside
  | none =>
      cases free : Cache.vacant ARP_TABLE_COUNT_MAX t.places with
      | some i =>
          have inside := (Search.first_eq_some.mp free).2.1
          exact setEntry_places sound.initialized inside
      | none => rfl

theorem noteReply_fields (t : ArpTable) (spa : UInt32) (sha : Mac) :
    (noteReply t spa sha).initialized = t.initialized ∧
      ∀ j, ((noteReply t spa sha).arpTable j).magic = (t.arpTable j).magic := by
  rw [noteReply]
  split
  · split
    · exact ⟨setEntry_initialized t _ spa sha, setEntry_magic t _ spa sha⟩
    · exact ⟨rfl, fun _ => rfl⟩
  · exact ⟨setEntry_initialized t _ spa sha, setEntry_magic t _ spa sha⟩

theorem noteReply_sound (sound : Sound seen t) (spa : UInt32) (sha : Mac) :
    Sound (seen ++ [(spa, sha)]) (noteReply t spa sha) := by
  obtain ⟨ready, magic⟩ := noteReply_fields t spa sha
  refine ⟨ready.trans sound.initialized, fun j inside => (magic j).trans (sound.magic j inside), ?_⟩
  rw [noteReply_places sound]
  exact sound.held.learn (spa, sha)

theorem initialize_sound (t : ArpTable) : Sound [] (arpInitializeArpTable t) := by
  refine ⟨rfl, ?_, Cache.remembers_nil.mpr ?_⟩
  · intro i inside
    simp [arpInitializeArpTable, inside]
  · intro i inside
    simp [arpInitializeArpTable, ArpTable.places, inside]

theorem Sound.isMap (sound : Sound seen t) : IsMap seen t := by
  constructor
  · intro i j insideI insideJ usedI usedJ same
    exact sound.held.unique insideI insideJ (places_key.mpr ⟨usedI, same⟩)
      (places_key.mpr ⟨usedJ, rfl⟩)
  · intro ip
    rw [← sound.held.lookup, lookupMac, lookup_eq sound.initialized]
    cases found : Cache.find ARP_TABLE_COUNT_MAX t.places ip with
    | none => rfl
    | some i =>
        -- A place that was found is in use.
        have used := (places_key.mp (Search.first_eq_some.mp found).1).1
        simp [ArpTable.places, used]

end Refinement

section Steps

variable {s t : Network} {o : Option (List UInt8)} {seen : List (UInt32 × Mac)}

theorem networkSendArp_table {targetMac : Mac} {sourceIp targetIp : UInt32} {op : UInt16}
    (sent : networkSendArp s targetMac sourceIp targetIp op = .ok (o, t)) : t.table = s.table := by
  unfold networkSendArp at sent
  split at sent
  · cases sent
    rfl
  · split_ifs at sent
    cases sent
    rfl

theorem networkSendArpReply_table {targetMac : Mac} {targetIp : UInt32}
    (sent : networkSendArpReply s targetMac targetIp = .ok (o, t)) : t.table = s.table := by
  unfold networkSendArpReply at sent
  split at sent
  · cases sent
    rfl
  · exact networkSendArp_table sent

theorem saveGateway_table (s : Network) (ar : EtherArp) : (saveGateway s ar).table = s.table := by
  unfold saveGateway
  split <;> rfl

theorem saveGateway_sends (s : Network) (ar : EtherArp) :
    (saveGateway s ar).dhcpInfo = s.dhcpInfo ∧ (saveGateway s ar).currentNIC = s.currentNIC ∧
      (saveGateway s ar).currentInterface = s.currentInterface := by
  unfold saveGateway
  split <;> exact ⟨rfl, rfl, rfl⟩

theorem step_sound {event : Event} (sound : Sound seen s.table)
    (served : step s event = .ok (o, t)) : Sound (seen ++ replies [event]) t.table := by
  cases event with
  | received buffer =>
      cases buffer with
      | none =>
          cases served
          simpa [replies] using sound
      | some ar =>
          simp only [step, networkHandleArp] at served
          by_cases request : ar.op = ARP_OPC_REQUEST
          · rw [if_pos request] at served
            rw [networkSendArpReply_table served, saveGateway_table]
            simpa [replies, request, ARP_OPC_REQUEST, ARP_OPC_REPLY] using sound
          · rw [if_neg request] at served
            by_cases reply : ar.op = ARP_OPC_REPLY
            · rw [if_pos reply] at served
              cases served
              rw [saveGateway_table]
              simpa [replies, reply] using noteReply_sound sound ar.spa ar.sha
            · rw [if_neg reply] at served
              cases served
              rw [saveGateway_table]
              simpa [replies, reply] using sound
  | requestTo srcIpv4 dstIpv4 =>
      simp only [step, networkArpRequestTo] at served
      split at served
      · cases served
        simpa [replies] using sound
      · rw [networkSendArp_table served]
        simpa [replies] using sound
  | elsewhere networkInfo dhcpInfo status currentNIC currentInterface =>
      cases served
      simpa [replies] using sound

theorem run_sound {events : List Event} {outs : List (Option (List UInt8))}
    (sound : Sound seen s.table) (served : Machine.run step s events = .ok (outs, t)) :
    Sound (seen ++ replies events) t.table := by
  induction events generalizing s seen outs with
  | nil =>
      cases served
      simpa [replies] using sound
  | cons event rest ih =>
      obtain ⟨o, u, os, first, later, -⟩ := Machine.run_cons_ok served
      have last := ih (step_sound sound first) later
      have split : replies (event :: rest) = replies [event] ++ replies rest := by
        rw [replies, ← List.singleton_append, List.filterMap_append]
        rfl
      rwa [List.append_assoc, ← split] at last

/-- Exactly the requests that come while the kernel can answer are answered. -/
theorem answered_iff {ar : EtherArp} {out : Option (List UInt8) × Network}
    (served : step s (.received (some ar)) = .ok out) :
    out.1 ≠ none ↔ ar.op = ARP_OPC_REQUEST ∧ CanAnswer s := by
  obtain ⟨dhcp, nic, interface⟩ := saveGateway_sends s ar
  simp only [step, networkHandleArp] at served
  by_cases request : ar.op = ARP_OPC_REQUEST
  · rw [if_pos request] at served
    simp only [networkSendArpReply, networkSendArp, dhcp, nic, interface] at served
    cases ready : s.dhcpInfo.initialized with
    | false =>
        simp only [ready, ↓reduceIte] at served
        cases served
        simp [CanAnswer, ready]
    | true =>
        cases card : s.currentNIC with
        | none =>
            simp only [ready, card, Bool.true_eq_false, ↓reduceIte] at served
            cases served
            simp [CanAnswer, card]
        | some nic =>
            simp only [ready, card, Bool.true_eq_false, ↓reduceIte] at served
            split_ifs at served with op buffer interface
            cases served
            simp [CanAnswer, request, ready, card, buffer, interface]
  · rw [if_neg request] at served
    have silent : out.1 = none := by
      split at served <;> (cases served; rfl)
    simp [silent, request]

end Steps

theorem step_of_canAnswer {s : Network} {ar : EtherArp} (request : ar.op = ARP_OPC_REQUEST)
    (able : CanAnswer s) : ∃ out, step s (.received (some ar)) = .ok out := by
  obtain ⟨ready, interface, nic, card, buffer⟩ := able
  obtain ⟨dhcp, nic_eq, interface_eq⟩ := saveGateway_sends s ar
  simp [step, networkHandleArp, request, networkSendArpReply, networkSendArp, dhcp, nic_eq,
    interface_eq, ready, card, buffer, interface]

theorem answersOwn_iff {s : Network} {event : Event} {out : Option (List UInt8) × Network}
    (served : step s event = .ok out) : AnswersOwn s event out ↔ AsksForOwn s event := by
  constructor
  · rintro answers ar rfl request able
    have answered := (answered_iff served).mpr ⟨request, able⟩
    exact (answers ar rfl answered).2
  · rintro asks ar rfl answered
    obtain ⟨request, able⟩ := (answered_iff served).mp answered
    exact ⟨able.1, asks ar rfl request able⟩

/-- The table is a map in every run; the answers are for the kernel's own address
    exactly in the runs where all that it could answer asked for it. -/
theorem arp_iff (s : Network) (events : List Event) :
    Law s events ↔ Machine.Guarded step AsksForOwn (start s) events := by
  have maps : ∀ early, early <+: events → ∀ outs t,
      Machine.run step (start s) early = .ok (outs, t) → IsMap (replies early) t.table := by
    intro early _ outs t served
    have sound := run_sound (initialize_sound s.table) served
    exact Sound.isMap sound
  have stopped : ∀ s event e, step s event = .error e → AsksForOwn s event := by
    rintro s event e stops ar rfl request able
    obtain ⟨out, served⟩ := step_of_canAnswer request able
    cases stops.symm.trans served
  constructor
  · rintro ⟨-, answers⟩
    exact (Machine.along_iff_guarded (fun _ _ _ => answersOwn_iff) stopped _ events).mp answers
  · intro guarded
    have answers := (Machine.along_iff_guarded (fun _ _ _ => answersOwn_iff) stopped _ events).mpr
      guarded
    exact ⟨maps, answers⟩

/-- The kernel is 192.168.1.12. -/
def host : Network where
  table := ⟨false, fun _ => ⟨0, false, 0, ⟨0, 0, 0, 0, 0, 0⟩⟩⟩
  saved := ⟨0, ⟨0, 0, 0, 0, 0, 0⟩, 0, ⟨0, 0, 0, 0, 0, 0⟩, 0⟩
  networkInfo := none
  dhcpInfo := ⟨true, 0, 0xC0A8010C, ⟨0, 0, 0, 0, 0, 0⟩, 0, 0, 0⟩
  status := true
  currentNIC := some ⟨⟨2, 0, 0, 0, 0, 1⟩, 0, 0, fun _ => true⟩
  currentInterface := true

/-- 192.168.1.20 asks for 192.168.1.99, and the kernel says that it is here. -/
theorem other_address_answered :
    ¬Law host [.received (some ⟨⟨1, ⟨2, 0, 0, 0, 0, 9⟩, 0xC0A80114⟩, 0xC0A80163⟩)] := by
  rintro ⟨-, answers⟩
  obtain ⟨own, -⟩ := answers _ rfl
  have asked := (own _ rfl (by decide)).2
  exact absurd asked (by decide)

end Gramado.Net.Arp
