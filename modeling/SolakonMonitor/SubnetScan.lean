import SolakonMonitor.SubnetText

/-!
What a scan of an accepted subnet asks and finds.
It tries every listed port at every address after the network address, up to 255 of
them, and keeps a device for each address that answered. The devices are labelled
with the octets as they lie in memory, and sorted by these labels as texts. With no
prefix bits the number of hosts is a shift by the whole width.
-/
namespace SolakonMonitor.SubnetScan

open BigEndian DecimalText Ipv4 TextOrder MainProgram NetworkScanner SubnetText

def openPorts (table : Probe → Bool) (ports : List UInt16) (x : UInt32) : List UInt16 :=
  ports.filter (fun port => table (x, port))

/-- What the scan keeps of an address. -/
def deviceAt (order : ByteOrder) (table : Probe → Bool) (ports : List UInt16) (x : UInt32) :
    DiscoveredDevice where
  ip := inetNtoa order x
  ports := openPorts table ports x
  isSolakon := (openPorts table ports x).any (identifySolakon (inetNtoa order x))

/-- The probes of one address after another, each with all the ports. -/
def probes (addresses : List UInt32) (ports : List UInt16) : List Probe :=
  addresses.flatMap (fun x => ports.map (fun port => (x, port)))

theorem tryConnect_eq (order : ByteOrder) (x : UInt32) (port : UInt16) :
    tryConnect order x port = .ask (x, port) .done := by
  rw [tryConnect, ntohl_htonl]
  rfl

theorem probePorts_answer (order : ByteOrder) (x : UInt32) (ports : List UInt16)
    (table : Probe → Bool) (dev : DiscoveredDevice) :
    (probePorts order x ports dev).answer table =
      { dev with
        ports := dev.ports ++ openPorts table ports x
        isSolakon := dev.isSolakon || (openPorts table ports x).any (identifySolakon dev.ip) } := by
  induction ports generalizing dev with
  | nil => simp [probePorts, openPorts]
  | cons port rest ih =>
    rw [probePorts, Dialogue.answer_bind, tryConnect_eq]
    change (if table (x, port) = true then _ else _ : Probing DiscoveredDevice).answer table = _
    by_cases hopen : table (x, port) = true
    · rw [if_pos hopen, ih]
      simp [openPorts, hopen, Bool.or_assoc]
    · rw [if_neg hopen, ih]
      simp [openPorts, hopen]

theorem probePorts_asks (order : ByteOrder) (x : UInt32) (ports : List UInt16)
    (dev : DiscoveredDevice) :
    (probePorts order x ports dev).Asks (ports.map (fun port => (x, port))) := by
  induction ports generalizing dev with
  | nil => exact .done dev
  | cons port rest ih =>
    rw [probePorts, tryConnect_eq]
    refine .ask (x, port) (fun isOpen => ?_)
    cases isOpen with
    | false => exact ih dev
    | true => exact ih _

theorem probeHosts_answer (order : ByteOrder) (base : UInt32) (ports : List UInt16)
    (table : Probe → Bool) (hosts : List UInt32) (results : List (UInt32 × DiscoveredDevice)) :
    (probeHosts order base ports hosts results).answer table =
      results ++ ((hosts.map (fun h => base ||| h)).filter
        (fun x => openPorts table ports x ≠ [])).map
          (fun x => (x, deviceAt order table ports x)) := by
  induction hosts generalizing results with
  | nil => simp [probeHosts]
  | cons h rest ih =>
    rw [probeHosts]
    simp only [Dialogue.answer_bind, probePorts_answer, List.nil_append, Bool.false_or]
    by_cases hopen : openPorts table ports (base ||| h) = []
    · rw [if_neg (not_not.mpr hopen), ih]
      simp [hopen]
    · rw [if_pos hopen, ih]
      simp [hopen, deviceAt]

theorem probeHosts_asks (order : ByteOrder) (base : UInt32) (ports : List UInt16)
    (hosts : List UInt32) (results : List (UInt32 × DiscoveredDevice)) :
    (probeHosts order base ports hosts results).Asks
      (probes (hosts.map (fun h => base ||| h)) ports) := by
  induction hosts generalizing results with
  | nil => exact .done results
  | cons h rest ih =>
    rw [probeHosts]
    refine (probePorts_asks order (base ||| h) ports _).bind (fun dev => ?_)
    split
    · exact ih _
    · exact ih results

/-- The addresses after the network address, at most 255 of them. -/
def subnetHosts (base : UInt32) (p : UInt8) : List UInt32 :=
  (List.range' (base.toNat + 1) (min (2 ^ (32 - p.toNat)) 256 - 1)).map UInt32.ofNat

/-- A prefix length in range, and no bits below the network address. -/
structure Network (base : UInt32) (p : UInt8) : Prop where
  range : p.toNat ≤ 32
  aligned : 2 ^ (32 - p.toNat) ∣ base.toNat

theorem network_of_parseCidr {pton : InetPton} {s : Bytes} {base : UInt32} {p : UInt8}
    (h : parseCidr pton s = .ok (some (base, p))) : Network base p := by
  obtain ⟨x, hrange, rfl⟩ := parseCidr_accepted h
  refine ⟨hrange, ?_⟩
  rw [clearLow_toNat]
  exact Nat.dvd_mul_left _ _

theorem hostCount_of_ne {p : UInt8} (hp : p ≠ 0) :
    ∃ count, hostCount p = .ok count ∧ count.toNat = min (2 ^ (32 - p.toNat)) 256 := by
  have hpos : p.toNat ≠ 0 := fun h => hp (UInt8.toNat_inj.mp h)
  have hbits : 32 - p.toNat < 32 := by omega
  have hpow : 2 ^ (32 - p.toNat) < 2 ^ 32 := Nat.pow_lt_pow_right (by omega) hbits
  have hshift : (1 <<< UInt32.ofNat (32 - p.toNat) : UInt32).toNat = 2 ^ (32 - p.toNat) := by
    rw [shiftLeft_toNat hbits, Nat.shiftLeft_eq]
    change 1 * 2 ^ (32 - p.toNat) % 2 ^ 32 = _
    rw [Nat.one_mul, Nat.mod_eq_of_lt hpow]
  simp only [hostCount, shiftLeft, if_pos hbits]
  refine ⟨_, rfl, ?_⟩
  split
  · rename_i hlarge
    rw [UInt32.lt_iff_toNat_lt, hshift] at hlarge
    change 256 < _ at hlarge
    rw [Nat.min_eq_right (by omega)]
    rfl
  · rename_i hsmall
    rw [UInt32.lt_iff_toNat_lt, hshift] at hsmall
    change ¬ 256 < _ at hsmall
    rw [Nat.min_eq_left (by omega)]
    exact hshift

theorem Network.room {base : UInt32} {p : UInt8} (hnet : Network base p) :
    base.toNat + 2 ^ (32 - p.toNat) ≤ 2 ^ 32 := by
  obtain ⟨a, ha⟩ := hnet.aligned
  have hlt := base.toNat_lt
  have hsplit : 2 ^ 32 = 2 ^ (32 - p.toNat) * 2 ^ p.toNat := by
    rw [← Nat.pow_add, Nat.sub_add_cancel hnet.range]
  rw [ha, hsplit] at hlt
  have ha' : a + 1 ≤ 2 ^ p.toNat := Nat.lt_of_mul_lt_mul_left hlt
  calc base.toNat + 2 ^ (32 - p.toNat) = 2 ^ (32 - p.toNat) * (a + 1) := by rw [ha, Nat.mul_succ]
    _ ≤ 2 ^ (32 - p.toNat) * 2 ^ p.toNat := Nat.mul_le_mul_left _ ha'
    _ = 2 ^ 32 := hsplit.symm

theorem subnetHosts_toNat {base : UInt32} {p : UInt8} (hnet : Network base p) :
    (subnetHosts base p).map UInt32.toNat =
      List.range' (base.toNat + 1) (min (2 ^ (32 - p.toNat)) 256 - 1) := by
  have hroom := hnet.room
  have hpos := Nat.two_pow_pos (32 - p.toNat)
  rw [subnetHosts, List.map_map]
  refine (List.map_congr_left (fun n hn => ?_)).trans (List.map_id _)
  have hlt := (List.mem_range'_1.mp hn).2
  exact UInt32.toNat_ofNat_of_lt' (show n < 2 ^ 32 by omega)

theorem subnetHosts_nodup {base : UInt32} {p : UInt8} (hnet : Network base p) :
    (subnetHosts base p).Nodup := by
  have h := List.nodup_range' (s := base.toNat + 1) (n := min (2 ^ (32 - p.toNat)) 256 - 1)
  rw [← subnetHosts_toNat hnet] at h
  exact h.of_map _

theorem mem_subnetHosts {base : UInt32} {p : UInt8} (hnet : Network base p) {x : UInt32}
    (hx : x ∈ subnetHosts base p) :
    base.toNat < x.toNat ∧ x.toNat < base.toNat + min (2 ^ (32 - p.toNat)) 256 := by
  have hmem : x.toNat ∈ (subnetHosts base p).map UInt32.toNat := List.mem_map_of_mem hx
  rw [subnetHosts_toNat hnet, List.mem_range'_1] at hmem
  omega

theorem clearLow_of_mem {base : UInt32} {p : UInt8} (hnet : Network base p) {x : UInt32}
    (hx : x ∈ subnetHosts base p) : clearLow (32 - p.toNat) x = base := by
  obtain ⟨hlow, hhigh⟩ := mem_subnetHosts hnet hx
  obtain ⟨a, ha⟩ := hnet.aligned
  have hdiv : x.toNat / 2 ^ (32 - p.toNat) = a := by
    rw [Nat.div_eq_iff (Nat.two_pow_pos _), Nat.mul_comm a]
    omega
  rw [← UInt32.toNat_inj, clearLow_toNat, hdiv, ha, Nat.mul_comm]

/-- Above the network address the host numbers do not carry. -/
theorem hostNumbers_or {base : UInt32} {p : UInt8} (hnet : Network base p) {count : UInt32}
    (hcount : count.toNat = min (2 ^ (32 - p.toNat)) 256) :
    (hostNumbers count).map (fun h => base ||| h) = subnetHosts base p := by
  have hroom := hnet.room
  have hpos := Nat.two_pow_pos (32 - p.toNat)
  rw [hostNumbers, subnetHosts, hcount, ← List.map_add_range', List.map_map, List.map_map]
  apply List.map_congr_left
  intro n hn
  have hlt := (List.mem_range'_1.mp hn).2
  have hnat : (UInt32.ofNat n).toNat = n := UInt32.toNat_ofNat_of_lt' (show n < 2 ^ 32 by omega)
  have hsum : (UInt32.ofNat (base.toNat + n)).toNat = base.toNat + n :=
    UInt32.toNat_ofNat_of_lt' (show base.toNat + n < 2 ^ 32 by omega)
  have hlow : (UInt32.ofNat n).toNat < 2 ^ (32 - p.toNat) := by omega
  change base ||| UInt32.ofNat n = UInt32.ofNat (base.toNat + n)
  rw [← UInt32.toNat_inj, or_low hnet.aligned hlow, hnat, hsum]

/-- The hosts that answer at a listed port. -/
def responding (base : UInt32) (p : UInt8) (ports : List UInt16) (table : Probe → Bool) :
    List UInt32 :=
  (subnetHosts base p).filter (fun x => openPorts table ports x ≠ [])

theorem sweep_zero {order : ByteOrder} {pton : InetPton} {s : Bytes} {base : UInt32}
    (h : parseCidr pton s = .ok (some (base, 0))) (ports : List UInt16) :
    sweep order pton s ports = .error .shift := by
  rw [sweep, h]
  rfl

/-- With a prefix bit the probes are those of the hosts, and each host that answers
is kept once. -/
theorem sweep_of_ne (order : ByteOrder) {pton : InetPton} {s : Bytes} {base : UInt32} {p : UInt8}
    (h : parseCidr pton s = .ok (some (base, p))) (hp : p ≠ 0) (ports : List UInt16) :
    ∃ swept, sweep order pton s ports = .ok swept ∧ swept.Asks (probes (subnetHosts base p) ports) ∧
      ∀ table, swept.answer table =
        (responding base p ports table).map (fun x => (x, deviceAt order table ports x)) := by
  obtain ⟨count, hcount, hvalue⟩ := hostCount_of_ne hp
  have hhosts := hostNumbers_or (network_of_parseCidr h) hvalue
  refine ⟨probeHosts order base ports (hostNumbers count) [], ?_, ?_, ?_⟩
  · rw [sweep, h]
    change (hostCount p >>= fun count => _) = _
    rw [hcount]
    rfl
  · rw [← hhosts]
    exact probeHosts_asks order base ports (hostNumbers count) []
  · intro table
    rw [probeHosts_answer, hhosts, responding, List.nil_append]

theorem scan_of_sweep {order : ByteOrder} {pton : InetPton} {s : Bytes} {ports : List UInt16}
    {swept : Probing (List (UInt32 × DiscoveredDevice))} {questions : List Probe}
    (h : sweep order pton s ports = .ok swept) (hasks : swept.Asks questions) :
    ∃ devices, scan order pton s ports = .ok devices ∧ devices.Asks questions ∧
      ∀ table, devices.answer table = sortByIp ((swept.answer table).map Prod.snd) := by
  refine ⟨swept >>= fun results => pure (sortByIp (results.map Prod.snd)), ?_, ?_, ?_⟩
  · rw [scan, h]
    rfl
  · rw [← List.append_nil questions]
    exact hasks.bind (fun results => .done (sortByIp (results.map Prod.snd)))
  · intro table
    rw [Dialogue.answer_bind]
    rfl

theorem scan_zero {order : ByteOrder} {pton : InetPton} {s : Bytes} {base : UInt32}
    (h : parseCidr pton s = .ok (some (base, 0))) (ports : List UInt16) :
    scan order pton s ports = .error .shift := by
  rw [scan, sweep_zero h]
  rfl

/-- Against a table of open ports the scan finds these devices at their addresses, and
returns that list. -/
def Scanned (order : ByteOrder) (pton : InetPton) (s : Bytes) (ports : List UInt16)
    (table : Probe → Bool) (found : List (UInt32 × DiscoveredDevice))
    (devices : List DiscoveredDevice) : Prop :=
  (sweep order pton s ports).map (fun swept => swept.answer table) = .ok found ∧
    (scan order pton s ports).map (fun scanned => scanned.answer table) = .ok devices

/-- A scan of an accepted subnet ends unless the prefix length is zero, with one result. -/
theorem scanned_iff {order : ByteOrder} {pton : InetPton} {s : Bytes} {base : UInt32} {p : UInt8}
    (h : parseCidr pton s = .ok (some (base, p))) {ports : List UInt16} {table : Probe → Bool}
    {found : List (UInt32 × DiscoveredDevice)} {devices : List DiscoveredDevice} :
    Scanned order pton s ports table found devices ↔
      p ≠ 0 ∧ found = (responding base p ports table).map
          (fun x => (x, deviceAt order table ports x)) ∧
        devices = sortByIp (found.map Prod.snd) := by
  by_cases hp : p = 0
  · subst hp
    refine iff_of_false ?_ (fun hcond => hcond.1 rfl)
    intro hscan
    have hswept := hscan.1
    rw [sweep_zero h] at hswept
    cases hswept
  · obtain ⟨swept, hswept, hasks, hanswer⟩ := sweep_of_ne order h hp ports
    obtain ⟨scanned, hscanned, _, hsorted⟩ := scan_of_sweep hswept hasks
    simp only [Scanned, hswept, hscanned, Except.map, Except.ok.injEq, hsorted, hanswer]
    constructor
    · intro hscan
      obtain ⟨rfl, rfl⟩ := hscan
      exact ⟨hp, rfl, rfl⟩
    · intro hcond
      obtain ⟨_, rfl, rfl⟩ := hcond
      exact ⟨rfl, rfl⟩

/-- One device for each address with an open port, with the open ports as listed. -/
def Finds (addresses : List UInt32) (ports : List UInt16) (table : Probe → Bool)
    (devices : List DiscoveredDevice) : Prop :=
  ∃ found : List (UInt32 × DiscoveredDevice), devices.Perm (found.map Prod.snd) ∧
    found.map Prod.fst = addresses.filter (fun x => ports.any (fun port => table (x, port))) ∧
    ∀ f ∈ found, f.2.ports = ports.filter (fun port => table (f.1, port)) ∧
      (f.2.isSolakon = true ↔ 502 ∈ f.2.ports ∨ 443 ∈ f.2.ports)

/-- The scan tries every listed port at every address after the network address and
within the subnet, 255 at most, and reports those that answered. -/
def Enumerates (base : UInt32) (p : UInt8) (ports : List UInt16)
    (devices : Probing (List DiscoveredDevice)) : Prop :=
  ∃ addresses : List UInt32,
    addresses.map UInt32.toNat =
      List.range' (base.toNat + 1) (min (2 ^ (32 - p.toNat)) 256 - 1) ∧
    addresses.Nodup ∧ (∀ x ∈ addresses, clearLow (32 - p.toNat) x = base) ∧
    devices.Asks (addresses.flatMap (fun x => ports.map (fun port => (x, port)))) ∧
    ∀ table, Finds addresses ports table (devices.answer table)

theorem openPorts_ne_nil (table : Probe → Bool) (ports : List UInt16) (x : UInt32) :
    (decide (openPorts table ports x ≠ [])) = ports.any (fun port => table (x, port)) := by
  rw [Bool.eq_iff_iff, decide_eq_true_eq, openPorts, ne_eq, List.filter_eq_nil_iff,
    List.any_eq_true]
  simp

theorem deviceAt_isSolakon (order : ByteOrder) (table : Probe → Bool) (ports : List UInt16)
    (x : UInt32) :
    (deviceAt order table ports x).isSolakon = true ↔
      502 ∈ (deviceAt order table ports x).ports ∨ 443 ∈ (deviceAt order table ports x).ports := by
  simp only [deviceAt, identifySolakon, List.any_eq_true, Bool.or_eq_true, decide_eq_true_eq]
  constructor
  · intro h
    obtain ⟨port, hport, rfl | rfl⟩ := h
    · exact Or.inl hport
    · exact Or.inr hport
  · intro h
    rcases h with h | h
    · exact ⟨502, h, Or.inl rfl⟩
    · exact ⟨443, h, Or.inr rfl⟩

theorem finds_sortByIp (order : ByteOrder) (base : UInt32) (p : UInt8) (ports : List UInt16)
    (table : Probe → Bool) :
    Finds (subnetHosts base p) ports table
      (sortByIp ((responding base p ports table).map (deviceAt order table ports))) := by
  refine ⟨(responding base p ports table).map (fun x => (x, deviceAt order table ports x)),
    ?_, ?_, ?_⟩
  · rw [List.map_map]
    exact sortBy_perm DiscoveredDevice.ip _
  · rw [List.map_map, responding]
    simp only [openPorts_ne_nil]
    exact List.map_id _
  · intro f hf
    obtain ⟨x, _, rfl⟩ := List.mem_map.mp hf
    exact ⟨rfl, deviceAt_isSolakon order table ports x⟩

/-- A scan enumerates its subnet exactly when the prefix length is not zero. -/
theorem scan_enumerates_iff (order : ByteOrder) {pton : InetPton} {s : Bytes} {base : UInt32}
    {p : UInt8} (h : parseCidr pton s = .ok (some (base, p))) (ports : List UInt16) :
    (∃ devices, scan order pton s ports = .ok devices ∧ Enumerates base p ports devices) ↔
      p ≠ 0 := by
  constructor
  · intro hscan hp
    subst hp
    obtain ⟨devices, hdevices, _⟩ := hscan
    rw [scan_zero h] at hdevices
    cases hdevices
  · intro hp
    have hnet := network_of_parseCidr h
    obtain ⟨swept, hswept, hasks, hanswer⟩ := sweep_of_ne order h hp ports
    obtain ⟨devices, hdevices, hasks', hsorted⟩ := scan_of_sweep hswept hasks
    refine ⟨devices, hdevices, subnetHosts base p, subnetHosts_toNat hnet,
      subnetHosts_nodup hnet, fun x hx => clearLow_of_mem hnet hx, hasks', ?_⟩
    intro table
    rw [hsorted, hanswer, List.map_map]
    exact finds_sortByIp order base p ports table

theorem scan_enumerates_iff_home :
    (∃ devices, scan .little strictPton (utf8 "192.168.178.0/24") [502, 443] = .ok devices ∧
      Enumerates (ofOctets 192 168 178 0) 24 [502, 443] devices) ↔ (24 : UInt8) ≠ 0 :=
  scan_enumerates_iff .little (show parseCidr strictPton (utf8 "192.168.178.0/24") =
    .ok (some (ofOctets 192 168 178 0, 24)) from rfl) [502, 443]

/-- Every address belongs to `0.0.0.0/0`, and a scan of it shifts by 32. -/
theorem scan_whole_space :
    parseCidr strictPton (utf8 "0.0.0.0/0") = .ok (some (0, 0)) ∧
      ¬ ∃ devices, scan .little strictPton (utf8 "0.0.0.0/0") [502] = .ok devices ∧
        Enumerates 0 0 [502] devices := by
  have hparse : parseCidr strictPton (utf8 "0.0.0.0/0") = .ok (some (0, 0)) := rfl
  refine ⟨hparse, ?_⟩
  intro h
  obtain ⟨devices, hdevices, _⟩ := h
  rw [scan_zero hparse] at hdevices
  cases hdevices

end SolakonMonitor.SubnetScan
