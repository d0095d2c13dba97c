/-
The handler of port 11888 in gprot.c, from the string in `udp_payload` to the datagram
that is sent back. A message is built in the buffer that the request lies in, of which
eight bytes are cleared (the size of a pointer) where 256 are sent. What the console
prints and the message that g:x posts are left out.
-/
import Gramado.Libk.Vsprintf
import Gramado.Net.Frame
import Gramado.Net.Parse

namespace Gramado.Gramnet.Gprot

open Gramado.Libk.Vsprintf Gramado.Net Gramado.Net.Parse

def ourPort : UInt16 := 11888

def messageSize : Nat := 256

/-- `CONFIG_CURRENT_RUNLEVEL`. -/
def currentRunlevel : UInt64 := 2

abbrev Buffer := Nat → UInt8

/-- What the handler reads of its kernel: `dhcp_info`, the NIC, `NetworkSaved` and
    `system_state`. -/
structure Kernel where
  initialized : Bool
  currentNIC : Option Mac
  yourIpv4 : UInt8 × UInt8 × UInt8 × UInt8
  yourIpv4Int : UInt32
  gatewayMac : Mac
  callerIpv4 : UInt32
  callerMac : Mac
  systemState : Int32

/-- The text of a command as the shell leaves it in `cmd_buffer[128]`. -/
structure Command where
  text : CString
  fits : text.bytes.length ≤ 127

/-- `ibroker_parse_command`, which may change the kernel and may not come back. -/
abbrev Shell := Kernel → List UInt8 → Option (Kernel × Command)

def chars (s : String) : List UInt8 :=
  s.toList.map UCHAR

def memset (buf : Buffer) (size : Nat) : Buffer :=
  fun i => if i < size then 0 else buf i

/-- The string is written from a place on, without a NUL. -/
def ksprintf (string : UInt64 → CString) (buf : Buffer) (place : Nat) (fmt : String)
    (ap : List UInt64) : Buffer :=
  match kinguioVsprintf string (fun i => buf (place + i)) (chars fmt ++ [0]) ap with
  | .ok written => fun i => if i < place then buf i else written.memory (i - place)
  | .error _ => buf

/-- A message: its code and then its text. -/
def message (buf : Buffer) (cleared : Nat) (code fmt : String) (ap : List UInt64) : Buffer :=
  ksprintf noStrings (ksprintf noStrings (memset buf cleared) 0 code []) 4 fmt ap

def gprotResponseFile : String :=
  "<html><head></head><body><span>This is the Gramado Kernel</span></body></html>"

def isBlank (c : UInt8) : Bool :=
  c == UCHAR ' ' || c == UCHAR '\t'

/-- `cmdline`, copied into `cmd_buffer`. -/
def commandLine (buf : Buffer) : List UInt8 :=
  ((List.range 127).map fun i => buf (4 + i)).takeWhile (· ≠ 0)

def consoleCommand (shell : Shell) (k : Kernel) (buf : Buffer) : Option (Kernel × Buffer) :=
  if isBlank (buf 3) ∧ buf 4 ≠ 0 then
    match shell k (commandLine buf) with
    | none => none
    | some (k, command) =>
        let string := fun _ => command.text
        let buf := ksprintf string (memset buf messageSize) 0 "g:1 " []
        -- The pointer to `cmd_buffer` is some word other than zero.
        some (k, ksprintf string buf 4 "Command executed: %s" [1])
  else
    some (k, ksprintf noStrings (memset buf messageSize) 0 "g:3 Invalid g:c format" [])

/-- The message that answers the string, by its third character and those behind it, with
    the kernel after it. -/
def gprotAnswer (shell : Shell) (k : Kernel) (buf : Buffer) : Option (Kernel × Buffer) :=
  let response := "This is a response from Gramado OS\n"
  if buf 0 ≠ UCHAR 'g' ∨ buf 1 ≠ UCHAR ':' then
    some (k, message buf 8 "g:1 " response [])
  else if buf 2 = UCHAR '/' then
    if isBlank (buf 3) ∨ buf 3 = 0 then
      some (k, message buf 8 "g:1 " gprotResponseFile [])
    else
      some (k, message buf 8 "g:1 " "" [])
  else if buf 2 = UCHAR 'x' then
    some (k, message buf 8 "g:1 " "Gramado OS received a g:x request\n" [])
  else if buf 2 = UCHAR '0' then
    some (k, message buf 8 "g:1 " response [])
  else if buf 2 = UCHAR '1' ∨ buf 2 = UCHAR '2' ∨ buf 2 = UCHAR '3' then
    some (k, message buf 8 "g:a " "ACK\n" [])
  else if buf 2 = UCHAR '4' then
    some (k, message buf 8 "g:0 " "exit" [])
  else if buf 2 = UCHAR 'i' ∧ buf 3 = UCHAR 'p' then
    let (b0, b1, b2, b3) := k.yourIpv4
    some (k, message buf 8 "g:1 " "%d.%d.%d.%d"
      [b0.toUInt64, b1.toUInt64, b2.toUInt64, b3.toUInt64])
  else if buf 2 = UCHAR 'm' ∧ buf 3 = UCHAR 'a' ∧ buf 4 = UCHAR 'c' then
    some (k, message buf 8 "g:1 " "%x:%x:%x:%x:%x:%x" (k.gatewayMac.bytes.map UInt8.toUInt64))
  else if buf 2 = UCHAR 's' ∧ buf 3 = UCHAR 's' then
    some (k, message buf 8 "g:1 " "%d" [k.systemState.toUInt32.toUInt64])
  else if buf 2 = UCHAR 'r' ∧ buf 3 = UCHAR 'l' then
    some (k, message buf 8 "g:1 " "%d" [currentRunlevel])
  else if buf 2 = UCHAR 'c' then
    consoleCommand shell k buf
  else
    some (k, ksprintf noStrings (memset buf 8) 0 "g:3 " [])

def gprotHandleG (shell : Shell) (k : Kernel) (buf : Buffer) (dport : UInt16) :
    Option (Kernel × Buffer) :=
  if k.initialized ∧ dport = ourPort then gprotAnswer shell k buf else none

/-- `gramado_strncmp`, which is 0 only where both strings end. -/
def gramadoStrncmp (buf : Buffer) (word : List UInt8) : Nat :=
  if (List.range word.length).map buf ≠ word then
    1
  else if buf word.length ≠ 0 then
    2
  else
    0

def httpResponse : String :=
  "HTTP/1.1 200 OK\r\nContent-Type: text/plain\r\n\r\nHello from Gramado OS\n"

def gprotHandleHttp (buf : Buffer) : Option Buffer :=
  if gramadoStrncmp buf (chars "GET /") = 0 then
    some (ksprintf noStrings (memset buf messageSize) 0 httpResponse [])
  else if gramadoStrncmp buf (chars "POST /") = 0 then
    some (ksprintf noStrings (memset buf messageSize) 0 httpResponse [])
  else
    none

def gprotHandleProtocol (shell : Shell) (k : Kernel) (buf : Buffer) (dport : UInt16) :
    Option (Kernel × Buffer) :=
  if buf 0 = UCHAR 'g' ∧ buf 1 = UCHAR ':' then
    gprotHandleG shell k buf dport
  else
    (gprotHandleHttp buf).map fun buf => (k, buf)

/-- `__gprot_send_udp`: the two ports change places. -/
def gprotSend (k : Kernel) (d : Datagram) (buf : Buffer) : UdpSend where
  sourceIp := k.yourIpv4Int
  targetIp := k.callerIpv4
  targetMac := k.callerMac
  sourcePort := d.dport
  targetPort := d.sport
  data := (List.range messageSize).map buf

/-- What network_handle_udp does with a datagram that has been copied into
    `udp_payload`: the frame that is sent, if one is, with the kernel after it. -/
def handleDatagram (shell : Shell) (k : Kernel) (d : Datagram) : Option (Kernel × UdpSend) :=
  if d.dport = ourPort then
    match gprotHandleProtocol shell k (fun i => d.payload.getD i 0) d.dport with
    | none => none
    | some (k, buf) =>
        if k.currentNIC = none then none else some (k, gprotSend k d buf)
  else
    none

end Gramado.Gramnet.Gprot
