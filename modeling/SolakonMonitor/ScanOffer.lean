import SolakonMonitor.ScanSaving
import SolakonMonitor.SubnetScan

/-!
The endpoint that scan mode offers when it found exactly one Solakon.
The address is taken from the device that satisfies the predicate, the port from the
first device of the sorted list. Every listed device has an open port, so both
accesses stay within their vectors; the two devices are the same one only when the
Solakon is listed first, and the port is open on it only when the first device's
first port is.
-/
namespace SolakonMonitor.ScanOffer

open BigEndian DecimalText Ipv4 TextOrder MainProgram NetworkScanner SubnetScan ScanSaving

/-- The address and the port offered belong to one listed Solakon. -/
def Coherent (devices : List DiscoveredDevice) : Prop :=
  ∃ device ∈ devices, device.isSolakon = true ∧
    ∃ port ∈ device.ports, offered devices = some (some (device.ip, port))

/-- The addresses of the subnet that answer at a listed port. -/
def answering (pton : InetPton) (s : Bytes) (ports : List UInt16) (table : Probe → Bool) :
    List UInt32 :=
  match parseCidr pton s with
  | .ok (some (base, p)) => responding base p ports table
  | _ => []

/-- One of the ports the scanner takes for a Solakon's is listed and open. -/
def SolakonAt (ports : List UInt16) (table : Probe → Bool) (y : UInt32) : Prop :=
  ∃ port ∈ ports, table (y, port) = true ∧ (port = 502 ∨ port = 443)

/-- No other address comes before this one as a text. -/
def ComesFirst (order : ByteOrder) (addresses : List UInt32) (x : UInt32) : Prop :=
  x ∈ addresses ∧ ∀ z ∈ addresses, textLess (inetNtoa order z) (inetNtoa order x) = false

/-- The first port open at the address that comes first is open at the Solakon, too. -/
def FirstPortShared (order : ByteOrder) (addresses : List UInt32) (ports : List UInt16)
    (table : Probe → Bool) : Prop :=
  ∀ x y, ComesFirst order addresses x → y ∈ addresses → SolakonAt ports table y →
    ∀ port ∈ ports.find? (fun port => table (x, port)), table (y, port) = true

theorem eq_of_countP_one {α : Type} {p : α → Bool} {l : List α} (hone : l.countP p = 1) {a b : α}
    (ha : a ∈ l) (hb : b ∈ l) (hpa : p a = true) (hpb : p b = true) : a = b := by
  rw [List.countP_eq_length_filter, List.length_eq_one_iff] at hone
  obtain ⟨c, hc⟩ := hone
  have hac : a ∈ [c] := hc ▸ List.mem_filter.mpr ⟨ha, hpa⟩
  have hbc : b ∈ [c] := hc ▸ List.mem_filter.mpr ⟨hb, hpb⟩
  exact (List.mem_singleton.mp hac).trans (List.mem_singleton.mp hbc).symm

theorem coherent_iff {devices : List DiscoveredDevice} {device : DiscoveredDevice} {port : UInt16}
    (hone : devices.countP (fun d => d.isSolakon) = 1) (hmem : device ∈ devices)
    (hsolakon : device.isSolakon = true)
    (hoffer : offered devices = some (some (device.ip, port))) :
    Coherent devices ↔ port ∈ device.ports := by
  constructor
  · intro h
    obtain ⟨other, hother, hsolakon', port', hport', hoffer'⟩ := h
    have hsame := eq_of_countP_one hone hother hmem hsolakon' hsolakon
    subst hsame
    have hsame := hoffer.symm.trans hoffer'
    simp only [Option.some.injEq, Prod.mk.injEq, true_and] at hsame
    rw [hsame]
    exact hport'
  · intro hport
    exact ⟨device, hmem, hsolakon, port, hport, hoffer⟩

theorem inetNtoa_injective (order : ByteOrder) (pton : InetPton) {x y : UInt32}
    (h : inetNtoa order x = inetNtoa order y) : x = y := by
  have hswapped : ntohl order x = ntohl order y := dottedQuad_injective pton h
  rw [← ntohl_htonl order x, ← ntohl_htonl order y]
  exact congrArg (ntohl order) hswapped

theorem solakonAt_iff (order : ByteOrder) (ports : List UInt16) (table : Probe → Bool)
    (y : UInt32) :
    (deviceAt order table ports y).isSolakon = true ↔ SolakonAt ports table y := by
  simp only [deviceAt, openPorts, identifySolakon, List.any_eq_true, List.mem_filter,
    Bool.or_eq_true, decide_eq_true_eq, SolakonAt, and_assoc]

/-- A scan that ends lists the addresses that answered, sorted; on a subnet that is not
accepted there are none. -/
theorem devices_of_scan {order : ByteOrder} {pton : InetPton} {s : Bytes} {ports : List UInt16}
    {table : Probe → Bool} {devices : List DiscoveredDevice}
    (h : (scan order pton s ports).map (fun scanned => scanned.answer table) = .ok devices) :
    devices = sortByIp ((answering pton s ports table).map (deviceAt order table ports)) := by
  rw [answering]
  cases hparse : parseCidr pton s with
  | error fault =>
    simp only [scan, sweep, hparse] at h
    cases h
  | ok result =>
    cases result with
    | none =>
      simp only [scan, sweep, hparse] at h
      cases h
      rfl
    | some network =>
      obtain ⟨base, p⟩ := network
      by_cases hp : p = 0
      · subst hp
        rw [scan_zero hparse] at h
        cases h
      · obtain ⟨swept, hswept, hasks, hanswer⟩ := sweep_of_ne order hparse hp ports
        obtain ⟨scanned, hscanned, _, hsorted⟩ := scan_of_sweep hswept hasks
        rw [hscanned] at h
        cases h
        refine (hsorted table).trans ?_
        rw [hanswer, List.map_map]
        rfl

theorem mem_answering {pton : InetPton} {s : Bytes} {ports : List UInt16} {table : Probe → Bool}
    {x : UInt32} (hx : x ∈ answering pton s ports table) : openPorts table ports x ≠ [] := by
  rw [answering] at hx
  split at hx
  · exact of_decide_eq_true (List.mem_filter.mp hx).2
  · cases hx

theorem comesFirst_of_sorted {order : ByteOrder} {ports : List UInt16} {table : Probe → Bool}
    {addresses : List UInt32} {first : DiscoveredDevice} {rest : List DiscoveredDevice}
    (h : sortByIp (addresses.map (deviceAt order table ports)) = first :: rest) :
    ∃ x, ComesFirst order addresses x ∧ first = deviceAt order table ports x := by
  have hperm := sortBy_perm DiscoveredDevice.ip (addresses.map (deviceAt order table ports))
  have hsorted := sortBy_pairwise DiscoveredDevice.ip
    (addresses.map (deviceAt order table ports))
  rw [← sortByIp, h] at hperm hsorted
  obtain ⟨x, hx, hfirst⟩ := List.mem_map.mp (hperm.mem_iff.mp List.mem_cons_self)
  refine ⟨x, ⟨hx, ?_⟩, hfirst.symm⟩
  intro z hz
  have hlisted := hperm.mem_iff.mpr (List.mem_map_of_mem hz)
  rcases List.mem_cons.mp hlisted with heq | hlater
  · have hlabel : inetNtoa order z = inetNtoa order x :=
      congrArg DiscoveredDevice.ip (heq.trans hfirst.symm)
    rw [hlabel, textLess_irrefl]
  · have hle := (List.pairwise_cons.mp hsorted).1 _ hlater
    rw [← hfirst] at hle
    exact hle

theorem comesFirst_unique {order : ByteOrder} (pton : InetPton) {addresses : List UInt32}
    {x y : UInt32} (hx : ComesFirst order addresses x) (hy : ComesFirst order addresses y) :
    x = y := by
  by_contra hne
  have hlabel : inetNtoa order x ≠ inetNtoa order y :=
    fun h => hne (inetNtoa_injective order pton h)
  rcases textLess_total hlabel with hless | hless
  · rw [hy.2 x hx.1] at hless
    cases hless
  · rw [hx.2 y hy.1] at hless
    cases hless

/-- With exactly one Solakon among the devices of a scan, its address and some port are
offered, and no index is out of range. The port is one of its own exactly when the first
open port of the address listed first is open on it, too. -/
theorem offer_coherent_iff (order : ByteOrder) (pton : InetPton) (s : Bytes) (ports : List UInt16)
    (table : Probe → Bool) (devices : List DiscoveredDevice)
    (hscan : (scan order pton s ports).map (fun scanned => scanned.answer table) = .ok devices)
    (hone : devices.countP (fun d => d.isSolakon) = 1) :
    (∃ device ∈ devices, device.isSolakon = true ∧
        ∃ port, offered devices = some (some (device.ip, port))) ∧
      (Coherent devices ↔
        FirstPortShared order (answering pton s ports table) ports table) := by
  have hdevices := devices_of_scan hscan
  generalize haddresses : answering pton s ports table = addresses at hdevices ⊢
  have hmem : ∀ d, d ∈ devices ↔ ∃ x ∈ addresses, deviceAt order table ports x = d := by
    intro d
    rw [hdevices, sortByIp, (sortBy_perm _ _).mem_iff, List.mem_map]
  have hports : ∀ d ∈ devices, d.ports ≠ [] := by
    intro d hd
    obtain ⟨x, hx, rfl⟩ := (hmem d).mp hd
    exact mem_answering (haddresses ▸ hx)
  obtain ⟨first, rest, port, device, hcons, hdevice, hsolakon, hhead, hoffer⟩ :=
    offered_of_countP hone hports
  refine ⟨⟨device, hdevice, hsolakon, port, hoffer⟩, ?_⟩
  obtain ⟨x, hx, rfl⟩ := comesFirst_of_sorted (hdevices.symm.trans hcons)
  obtain ⟨y, hy, rfl⟩ := (hmem device).mp hdevice
  have hyport : port ∈ (deviceAt order table ports y).ports ↔ table (y, port) = true := by
    have hlisted := List.mem_of_mem_filter (List.mem_of_mem_head? hhead)
    simp only [deviceAt, openPorts, List.mem_filter, hlisted, true_and]
  have hfind : ports.find? (fun port => table (x, port)) = some port := by
    rw [← List.head?_filter]
    exact hhead
  rw [coherent_iff hone hdevice hsolakon hoffer, hyport]
  constructor
  · intro hopen x' y' hx' hy' hat port' hport'
    have hfirst := comesFirst_unique pton hx' hx
    have hdev := eq_of_countP_one hone ((hmem _).mpr ⟨y', hy', rfl⟩) hdevice
      ((solakonAt_iff order ports table y').mpr hat) hsolakon
    have hsame := inetNtoa_injective order pton (congrArg DiscoveredDevice.ip hdev)
    subst hfirst hsame
    rw [hfind, Option.mem_def, Option.some.injEq] at hport'
    rw [← hport']
    exact hopen
  · intro hshared
    exact hshared x y hx hy ((solakonAt_iff order ports table y).mp hsolakon) port hfind

/-- A web server at the host numbered 1, and a Solakon with one at the host numbered 2. -/
def sharedTable (q : Probe) : Bool :=
  q = (ofOctets 192 168 178 1, 80) || q = (ofOctets 192 168 178 2, 80) ||
    q = (ofOctets 192 168 178 2, 502)

def webServers : List DiscoveredDevice :=
  [⟨utf8 "1.178.168.192", [80], false⟩, ⟨utf8 "2.178.168.192", [80, 502], true⟩]

theorem offer_coherent_iff_shared :
    (∃ device ∈ webServers, device.isSolakon = true ∧
        ∃ port, offered webServers = some (some (device.ip, port))) ∧
      (Coherent webServers ↔
        FirstPortShared .little
          (answering strictPton (utf8 "192.168.178.0/30") [80, 502] sharedTable) [80, 502]
          sharedTable) :=
  offer_coherent_iff .little strictPton (utf8 "192.168.178.0/30") [80, 502] sharedTable
    webServers rfl rfl

/-- The same web server, with a Solakon that has none. -/
def mixedTable (q : Probe) : Bool :=
  q = (ofOctets 192 168 178 1, 80) || q = (ofOctets 192 168 178 2, 502)

def listedSolakon : DiscoveredDevice := ⟨utf8 "2.178.168.192", [502], true⟩

/-- The Solakon's address is offered with the port of the web server. -/
theorem offer_of_other_device :
    ∃ devices, (scan .little strictPton (utf8 "192.168.178.0/30") [80, 502]).map
        (fun scanned => scanned.answer mixedTable) = .ok devices ∧
      devices.countP (fun d => d.isSolakon) = 1 ∧ ¬ Coherent devices := by
  refine ⟨[⟨utf8 "1.178.168.192", [80], false⟩, listedSolakon], rfl, rfl, ?_⟩
  intro hcoherent
  have hport := (coherent_iff rfl (List.mem_cons_of_mem _ List.mem_cons_self) rfl
    (show offered _ = some (some (listedSolakon.ip, 80)) from rfl)).mp hcoherent
  revert hport
  decide

end SolakonMonitor.ScanOffer
