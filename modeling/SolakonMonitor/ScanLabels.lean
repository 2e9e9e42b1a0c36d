import SolakonMonitor.SubnetScan

/-!
The labels of the devices a scan returns: the address they denote and their order.
`inet_ntoa` reads the octets of a host number as they lie in memory, so on a
little-endian machine a label denotes the address with its octets reversed. On any
machine the labels of one subnet differ in a single octet, and the texts of that
octet decide the order.
-/
namespace SolakonMonitor.ScanLabels

open BigEndian DecimalText Ipv4 TextOrder MainProgram NetworkScanner SubnetText SubnetScan

/-- The device names the address at which its ports were found open, for a reader of
its label as well, and that address is in the subnet. -/
structure Named (pton : InetPton) (base : UInt32) (p : UInt8) (table : Probe → Bool)
    (f : UInt32 × DiscoveredDevice) : Prop where
  connected : ∀ port ∈ f.2.ports, table (f.1, port) = true
  label : f.2.ip = dottedQuad f.1
  reached : pton.parse f.2.ip = some f.1
  inside : clearLow (32 - p.toNat) f.1 = base

theorem named_iff {pton : InetPton} {base : UInt32} {p : UInt8} (hnet : Network base p)
    {ports : List UInt16} {table : Probe → Bool} {x : UInt32}
    (hx : x ∈ responding base p ports table) :
    Named pton base p table (x, deviceAt .little table ports x) ↔ swapBytes x = x := by
  have hhost : x ∈ subnetHosts base p := List.mem_of_mem_filter hx
  constructor
  · intro h
    exact dottedQuad_injective pton h.label
  · intro hswap
    have hlabel : (deviceAt .little table ports x).ip = dottedQuad x := congrArg dottedQuad hswap
    refine ⟨?_, hlabel, ?_, clearLow_of_mem hnet hhost⟩
    · intro port hport
      exact (List.mem_filter.mp hport).2
    · rw [hlabel, pton.printed]

/-- On a little-endian machine the devices are named after their hosts exactly when
every host that answered reads the same backwards. -/
theorem scan_named_iff {pton : InetPton} {s : Bytes} {base : UInt32} {p : UInt8}
    (h : parseCidr pton s = .ok (some (base, p))) (ports : List UInt16) (table : Probe → Bool) :
    (∃ found devices, Scanned .little pton s ports table found devices ∧
      devices.Perm (found.map Prod.snd) ∧ ∀ f ∈ found, Named pton base p table f) ↔
        p ≠ 0 ∧ ∀ x ∈ responding base p ports table, swapBytes x = x := by
  have hnet := network_of_parseCidr h
  constructor
  · intro hscan
    obtain ⟨found, devices, hscanned, _, hnamed⟩ := hscan
    obtain ⟨hp, rfl, _⟩ := (scanned_iff h).mp hscanned
    refine ⟨hp, ?_⟩
    intro x hx
    exact (named_iff hnet hx).mp (hnamed _ (List.mem_map_of_mem hx))
  · intro hcond
    obtain ⟨hp, hswap⟩ := hcond
    refine ⟨_, _, (scanned_iff h).mpr ⟨hp, rfl, rfl⟩, sortBy_perm DiscoveredDevice.ip _, ?_⟩
    intro f hf
    obtain ⟨x, hx, rfl⟩ := List.mem_map.mp hf
    exact (named_iff hnet hx).mpr (hswap x hx)

/-- The host `10.0.0.10` reads the same backwards. -/
theorem scan_named_palindrome :
    ∃ found devices, Scanned .little strictPton (utf8 "10.0.0.8/29") [502]
        (fun q => q = (ofOctets 10 0 0 10, 502)) found devices ∧
      devices.Perm (found.map Prod.snd) ∧ ∀ f ∈ found, Named strictPton (ofOctets 10 0 0 8) 29
        (fun q => q = (ofOctets 10 0 0 10, 502)) f :=
  (scan_named_iff (show parseCidr strictPton (utf8 "10.0.0.8/29") =
    .ok (some (ofOctets 10 0 0 8, 29)) from rfl) [502] _).mpr ⟨by decide, by
      have hall : (responding (ofOctets 10 0 0 8) 29 [502]
          (fun q => q = (ofOctets 10 0 0 10, 502))).all (fun x => swapBytes x = x) = true := rfl
      simpa only [List.all_eq_true, decide_eq_true_eq] using hall⟩

/-- The host `192.168.178.121` is reported as `121.178.168.192`. -/
theorem scan_reversed :
    ¬ ∃ found devices, Scanned .little strictPton (utf8 "192.168.178.120/29") [502]
        (fun q => q = (ofOctets 192 168 178 121, 502)) found devices ∧
      devices.Perm (found.map Prod.snd) ∧ ∀ f ∈ found, Named strictPton
        (ofOctets 192 168 178 120) 29 (fun q => q = (ofOctets 192 168 178 121, 502)) f := by
  have hparse : parseCidr strictPton (utf8 "192.168.178.120/29") =
      .ok (some (ofOctets 192 168 178 120, 29)) := rfl
  have hanswers : ofOctets 192 168 178 121 ∈ responding (ofOctets 192 168 178 120) 29 [502]
      (fun q => q = (ofOctets 192 168 178 121, 502)) := by
    decide +kernel
  intro h
  obtain ⟨found, devices, hscanned, _, hnamed⟩ := h
  obtain ⟨_, rfl, _⟩ := (scanned_iff hparse).mp hscanned
  have hswap := (named_iff (network_of_parseCidr hparse) hanswers).mp
    (hnamed _ (List.mem_map_of_mem hanswers))
  exact absurd hswap (by decide +kernel)

/-- Whenever two labels are dotted texts, the smaller address comes first. -/
def InAddressOrder (devices : List DiscoveredDevice) : Prop :=
  devices.Pairwise (fun d e => ∀ x y, d.ip = dottedQuad x → e.ip = dottedQuad y → x.toNat ≤ y.toNat)

theorem div_of_mem {base : UInt32} {p : UInt8} (hnet : Network base p) {x : UInt32}
    (hx : x ∈ subnetHosts base p) : x.toNat / 256 = base.toNat / 256 := by
  obtain ⟨hlow, hhigh⟩ := mem_subnetHosts hnet hx
  obtain ⟨m, hm⟩ : ∃ m, m = min (32 - p.toNat) 8 := ⟨_, rfl⟩
  have hmin : min (2 ^ (32 - p.toNat)) 256 ≤ 2 ^ m := by
    rcases Nat.le_total (32 - p.toNat) 8 with hle | hle
    · rw [hm, Nat.min_eq_left hle]
      exact Nat.min_le_left _ _
    · rw [hm, Nat.min_eq_right hle]
      exact Nat.min_le_right _ _
  have hdvd : 2 ^ m ∣ base.toNat := (Nat.pow_dvd_pow 2 (by omega)).trans hnet.aligned
  have hsplit : 256 = 2 ^ m * 2 ^ (8 - m) := by
    rw [← Nat.pow_add, Nat.add_sub_cancel' (by omega)]
  have hdiv : x.toNat / 2 ^ m = base.toNat / 2 ^ m := by
    obtain ⟨a, ha⟩ := hdvd
    rw [ha, Nat.mul_div_cancel_left a (Nat.two_pow_pos m), Nat.div_eq_iff (Nat.two_pow_pos m),
      Nat.mul_comm a]
    omega
  rw [hsplit, ← Nat.div_div_eq_div_mul, ← Nat.div_div_eq_div_mul, hdiv]

/-- Two hosts of a subnet differ in the last octet only. -/
theorem octets_of_mem {base : UInt32} {p : UInt8} (hnet : Network base p) {x y : UInt32}
    (hx : x ∈ subnetHosts base p) (hy : y ∈ subnetHosts base p) :
    octet1 x = octet1 y ∧ octet2 x = octet2 y ∧ octet3 x = octet3 y ∧
      (x < y ↔ octet4 x < octet4 y) := by
  have hdiv := (div_of_mem hnet hx).trans (div_of_mem hnet hy).symm
  rw [UInt32.lt_iff_toNat_lt]
  unfold octet1 octet2 octet3 octet4
  omega

theorem textLess_dotted_left (p q r s s' : Bytes) :
    textLess (dotted p q r s) (dotted p q r s') = textLess s s' := by
  simp only [dotted, textLess_append_left, textLess_cons, if_true]

theorem textLess_dotted_right {p p' : Bytes} (hp : ∀ b ∈ p, isDigit b = true)
    (hp' : ∀ b ∈ p', isDigit b = true) (q r s : Bytes) :
    textLess (dotted p q r s) (dotted p' q r s) = textLess p p' := by
  apply textLess_append_right hp hp'
  intro b hb
  cases hb
  decide

/-- The labels of two hosts of a subnet are in the order of the texts of their last octets. -/
theorem textLess_label {base : UInt32} {p : UInt8} (hnet : Network base p) (order : ByteOrder)
    {x y : UInt32} (hx : x ∈ subnetHosts base p) (hy : y ∈ subnetHosts base p) :
    textLess (inetNtoa order x) (inetNtoa order y) =
      textLess (decimal (octet4 x)) (decimal (octet4 y)) := by
  obtain ⟨h1, h2, h3, _⟩ := octets_of_mem hnet hx hy
  cases order with
  | little =>
    obtain ⟨hx1, hx2, hx3, hx4⟩ := swapBytes_octets x
    obtain ⟨hy1, hy2, hy3, hy4⟩ := swapBytes_octets y
    change textLess (dottedQuad (swapBytes x)) (dottedQuad (swapBytes y)) = _
    rw [dottedQuad, dottedQuad, hx1, hx2, hx3, hx4, hy1, hy2, hy3, hy4, h1, h2, h3]
    exact textLess_dotted_right (fun _ hb => isDigit_of_mem_decimal hb)
      (fun _ hb => isDigit_of_mem_decimal hb) _ _ _
  | big =>
    change textLess (dottedQuad x) (dottedQuad y) = _
    rw [dottedQuad, dottedQuad, h1, h2, h3]
    exact textLess_dotted_left _ _ _ _ _

/-- The addresses that two labels denote are in the order of the hosts. -/
theorem label_lt_iff {base : UInt32} {p : UInt8} (hnet : Network base p) (order : ByteOrder)
    {x y : UInt32} (hx : x ∈ subnetHosts base p) (hy : y ∈ subnetHosts base p) :
    (ntohl order x).toNat < (ntohl order y).toNat ↔ x < y := by
  cases order with
  | little =>
    obtain ⟨h1, h2, h3, hlt⟩ := octets_of_mem hnet hx hy
    change (swapBytes x).toNat < (swapBytes y).toNat ↔ _
    rw [swapBytes, swapBytes,
      ofOctets_toNat (octet4_lt x) (octet3_lt x) (octet2_lt x) (octet1_lt x),
      ofOctets_toNat (octet4_lt y) (octet3_lt y) (octet2_lt y) (octet1_lt y), h1, h2, h3, hlt]
    omega
  | big => exact Iff.rfl

/-- The sorted devices are in address order exactly when the texts of the last octets
are in the order of the hosts. -/
theorem inAddressOrder_iff {base : UInt32} {p : UInt8} (hnet : Network base p) (order : ByteOrder)
    (ports : List UInt16) (table : Probe → Bool) :
    InAddressOrder (sortByIp ((responding base p ports table).map (deviceAt order table ports))) ↔
      ∀ x ∈ responding base p ports table, ∀ y ∈ responding base p ports table, x < y →
        textLess (decimal (octet4 x)) (decimal (octet4 y)) = true := by
  have hhost : ∀ {x}, x ∈ responding base p ports table → x ∈ subnetHosts base p :=
    fun hx => List.mem_of_mem_filter hx
  have hrank : ∀ x ∈ responding base p ports table, ∀ y ∈ responding base p ports table,
      inetNtoa order x = inetNtoa order y → (ntohl order x).toNat = (ntohl order y).toNat :=
    fun x _ y _ heq => congrArg UInt32.toNat (dottedQuad_injective strictPton heq)
  have hdenoted : ∀ x y, (∀ a b, inetNtoa order x = dottedQuad a → inetNtoa order y = dottedQuad b →
      a.toNat ≤ b.toNat) ↔ (ntohl order x).toNat ≤ (ntohl order y).toNat := by
    intro x y
    constructor
    · intro h
      exact h (ntohl order x) (ntohl order y) rfl rfl
    · intro h a b ha hb
      rw [← dottedQuad_injective strictPton ha, ← dottedQuad_injective strictPton hb]
      exact h
  have hmap := sortBy_map (deviceAt order table ports) DiscoveredDevice.ip
    (responding base p ports table)
  rw [InAddressOrder, sortByIp, hmap, List.pairwise_map]
  simp only [deviceAt, hdenoted]
  rw [sortBy_ranked_iff hrank]
  constructor
  · intro h x hx y hy hlt
    rw [← textLess_label hnet order (hhost hx) (hhost hy)]
    exact h x hx y hy ((label_lt_iff hnet order (hhost hx) (hhost hy)).mpr hlt)
  · intro h x hx y hy hlt
    rw [textLess_label hnet order (hhost hx) (hhost hy)]
    exact h x hx y hy ((label_lt_iff hnet order (hhost hx) (hhost hy)).mp hlt)

/-- On any machine the devices come in address order exactly when the last octets of the
hosts that answered are in the same order as texts. -/
theorem scan_ordered_iff (order : ByteOrder) {pton : InetPton} {s : Bytes} {base : UInt32}
    {p : UInt8} (h : parseCidr pton s = .ok (some (base, p))) (ports : List UInt16)
    (table : Probe → Bool) :
    (∃ found devices, Scanned order pton s ports table found devices ∧
      devices.Perm (found.map Prod.snd) ∧ InAddressOrder devices) ↔
        p ≠ 0 ∧ ∀ x ∈ responding base p ports table, ∀ y ∈ responding base p ports table, x < y →
          textLess (decimal (octet4 x)) (decimal (octet4 y)) = true := by
  have horder := inAddressOrder_iff (network_of_parseCidr h) order ports table
  constructor
  · intro hscan
    obtain ⟨found, devices, hscanned, _, hsorted⟩ := hscan
    obtain ⟨hp, rfl, rfl⟩ := (scanned_iff h).mp hscanned
    rw [List.map_map] at hsorted
    exact ⟨hp, horder.mp hsorted⟩
  · intro hcond
    obtain ⟨hp, htexts⟩ := hcond
    refine ⟨_, _, (scanned_iff h).mpr ⟨hp, rfl, rfl⟩, sortBy_perm DiscoveredDevice.ip _, ?_⟩
    rw [List.map_map]
    exact horder.mpr htexts

theorem scan_ordered_two_digits :
    ∃ found devices, Scanned .little strictPton (utf8 "10.0.0.8/29") [502]
        (fun q => q.1 = ofOctets 10 0 0 10 ∨ q.1 = ofOctets 10 0 0 11) found devices ∧
      devices.Perm (found.map Prod.snd) ∧ InAddressOrder devices :=
  (scan_ordered_iff .little (show parseCidr strictPton (utf8 "10.0.0.8/29") =
    .ok (some (ofOctets 10 0 0 8, 29)) from rfl) [502] _).mpr ⟨by decide, by
      have hall : (responding (ofOctets 10 0 0 8) 29 [502]
          (fun q => q.1 = ofOctets 10 0 0 10 ∨ q.1 = ofOctets 10 0 0 11)).all (fun x =>
            (responding (ofOctets 10 0 0 8) 29 [502]
              (fun q => q.1 = ofOctets 10 0 0 10 ∨ q.1 = ofOctets 10 0 0 11)).all (fun y =>
                x < y → textLess (decimal (octet4 x)) (decimal (octet4 y)) = true)) = true := rfl
      simpa only [List.all_eq_true, decide_eq_true_eq] using hall⟩

/-- The host numbered 10 is reported before the host numbered 9. -/
theorem scan_misordered :
    ¬ ∃ found devices, Scanned .little strictPton (utf8 "192.168.178.8/29") [502]
        (fun q => q.1 = ofOctets 192 168 178 9 ∨ q.1 = ofOctets 192 168 178 10) found devices ∧
      devices.Perm (found.map Prod.snd) ∧ InAddressOrder devices := by
  have hparse : parseCidr strictPton (utf8 "192.168.178.8/29") =
      .ok (some (ofOctets 192 168 178 8, 29)) := rfl
  intro h
  obtain ⟨found, devices, hscanned, _, hsorted⟩ := h
  obtain ⟨_, rfl, rfl⟩ := (scanned_iff hparse).mp hscanned
  rw [List.map_map] at hsorted
  have htexts := (inAddressOrder_iff (network_of_parseCidr hparse) .little _ _).mp hsorted
    (ofOctets 192 168 178 9) (by decide +kernel) (ofOctets 192 168 178 10) (by decide +kernel)
    (by decide +kernel)
  exact absurd htexts (by decide +kernel)

end SolakonMonitor.ScanLabels
