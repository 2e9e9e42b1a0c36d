import SolakonMonitor.Dialogue
import SolakonMonitor.Ipv4
import SolakonMonitor.MainProgram
import SolakonMonitor.TextOrder

/-!
The network scanner: the subnet text, the probes and the device list.
Addresses are numbers, as the source keeps them after `ntohl`; the parser of dotted
texts and the byte order of the machine are parameters. A scan is a dialogue: each
question is one connection attempt, to an address and a port, and the answer tells
whether it came about. Every device is kept with the address it was probed at.
-/
namespace SolakonMonitor.NetworkScanner

open BigEndian DecimalText Ipv4 TextOrder MainProgram

/-- An exception of `stoul`, or a shift of 32 bits by 32 or more. -/
inductive ScanFault where
  | invalidArgument
  | outOfRange
  | shift
  deriving DecidableEq, Repr

/-- `unsigned long` has 64 bits; a minus sign negates the number in it. -/
def stoul (s : Bytes) : Except ScanFault UInt64 :=
  match strtol s with
  | none => .error .invalidArgument
  | some v =>
    if 18446744073709551615 < v.natAbs then .error .outOfRange else .ok (UInt64.ofInt v)

def shiftLeft (x : UInt32) (n : ℕ) : Except ScanFault UInt32 :=
  if n < 32 then .ok (x <<< UInt32.ofNat n) else .error .shift

def parseCidr (pton : InetPton) (cidr : Bytes) : Except ScanFault (Option (UInt32 × UInt8)) :=
  match cidr.findIdx? (fun b => b = 47) with
  | none => .ok none
  | some slash =>
    match pton.parse (cString (cidr.take slash)) with
    | none => .ok none
    | some baseIp => do
      let number ← stoul (cidr.drop (slash + 1))
      let prefixLen := number.toUInt8
      if 32 < prefixLen then return none
      else
        let mask ← if prefixLen = 0 then pure 0 else shiftLeft (~~~ 0) (32 - prefixLen.toNat)
        return some (baseIp &&& mask, prefixLen)

/-- A connection attempt to an address and a port. -/
abbrev Probe := UInt32 × UInt16

abbrev Probing := Dialogue Probe (fun _ => Bool)

/-- The socket address holds `htonl(ip)`, and the network reads it in its own order. -/
def tryConnect (order : ByteOrder) (ip : UInt32) (port : UInt16) : Probing Bool :=
  Dialogue.question (ntohl order (htonl order ip), port)

/-- `inet_ntoa` of an address in network order. -/
def inetNtoa (order : ByteOrder) (addr : UInt32) : Bytes := dottedQuad (ntohl order addr)

def identifySolakon (_ip : Bytes) (port : UInt16) : Bool := port = 502 || port = 443

def probePorts (order : ByteOrder) (ip : UInt32) :
    List UInt16 → DiscoveredDevice → Probing DiscoveredDevice
  | [], dev => return dev
  | port :: rest, dev => do
    let isOpen ← tryConnect order ip port
    if isOpen then
      probePorts order ip rest { dev with
        ports := dev.ports ++ [port]
        isSolakon := dev.isSolakon || identifySolakon dev.ip port }
    else probePorts order ip rest dev

/-- The loop over the host numbers; `results` has the devices found so far. -/
def probeHosts (order : ByteOrder) (baseIp : UInt32) (ports : List UInt16) :
    List UInt32 → List (UInt32 × DiscoveredDevice) → Probing (List (UInt32 × DiscoveredDevice))
  | [], results => return results
  | h :: rest, results => do
    let ip := baseIp ||| h
    let dev ← probePorts order ip ports { ip := inetNtoa order ip, ports := [], isSolakon := false }
    if dev.ports ≠ [] then probeHosts order baseIp ports rest (results ++ [(ip, dev)])
    else probeHosts order baseIp ports rest results

def hostCount (prefixLen : UInt8) : Except ScanFault UInt32 := do
  let count ← shiftLeft 1 (32 - prefixLen.toNat)
  return if 256 < count then 256 else count

def hostNumbers (count : UInt32) : List UInt32 := (List.range' 1 (count.toNat - 1)).map UInt32.ofNat

/-- The scan before the devices are sorted. -/
def sweep (order : ByteOrder) (pton : InetPton) (subnet : Bytes) (ports : List UInt16) :
    Except ScanFault (Probing (List (UInt32 × DiscoveredDevice))) := do
  match ← parseCidr pton subnet with
  | none => return pure []
  | some (baseIp, prefixLen) =>
    let count ← hostCount prefixLen
    return probeHosts order baseIp ports (hostNumbers count) []

def sortByIp (devices : List DiscoveredDevice) : List DiscoveredDevice :=
  sortBy DiscoveredDevice.ip devices

def scan (order : ByteOrder) (pton : InetPton) (subnet : Bytes) (ports : List UInt16) :
    Except ScanFault (Probing (List DiscoveredDevice)) := do
  let swept ← sweep order pton subnet ports
  return swept >>= fun results => pure (sortByIp (results.map Prod.snd))

end SolakonMonitor.NetworkScanner
