import SolakonMonitor.NetworkScanner

/-!
The subnet texts the scanner accepts, against the grammar of an address, a slash and
a prefix length. The scanner reads the address up to a NUL and the number at the
beginning of the rest, of which it keeps eight bits before it looks at the range.
-/
namespace SolakonMonitor.SubnetText

open BigEndian DecimalText TextLines Ipv4 NetworkScanner

/-- A dotted text, one slash, and a number up to 32 in digits. -/
def Cidr (pton : InetPton) (s : Bytes) (x : UInt32) (p : ℕ) : Prop :=
  ∃ quad digits, s = quad ++ 47 :: digits ∧ pton.parse quad = some x ∧ digits ≠ [] ∧
    (∀ b ∈ digits, isDigit b = true) ∧ digitsValue digits = p ∧ p ≤ 32

/-- The parser returns, and what it returns is what the grammar says. -/
def Grammatical (pton : InetPton) (s : Bytes) : Prop :=
  ∃ r, parseCidr pton s = .ok r ∧
    (∀ x p, Cidr pton s x p → r = some (clearLow (32 - p) x, UInt8.ofNat p)) ∧
    ((∀ x p, ¬ Cidr pton s x p) → r = none)

/-- A number within 64 bits stands at the beginning, and its low eight bits are not
a prefix length. -/
def TooLong (text : Bytes) : Prop :=
  ∃ v, strtol text = some v ∧ v.natAbs < 2 ^ 64 ∧ 32 < v % 256

def PrefixText (text : Bytes) : Prop :=
  text ≠ [] ∧ (∀ b ∈ text, isDigit b = true) ∧ digitsValue text ≤ 32

theorem strtol_of_digits {text : Bytes} (hne : text ≠ []) (hall : ∀ b ∈ text, isDigit b = true) :
    strtol text = some (digitsValue text : ℤ) := by
  cases text with
  | nil => exact absurd rfl hne
  | cons b rest =>
    have htake : (b :: rest).takeWhile isDigit = b :: rest := List.takeWhile_eq_self_iff.mpr hall
    rw [strtol_of_digit b rest (hall b List.mem_cons_self), unsignedPrefix, htake, if_neg hne,
      Option.map_some]

theorem stoul_of_strtol {text : Bytes} {v : ℤ} (h : strtol text = some v) (hv : v.natAbs < 2 ^ 64) :
    ∃ n, stoul text = .ok n ∧ (n.toUInt8.toNat : ℤ) = v % 256 := by
  refine ⟨UInt64.ofInt v, ?_, ?_⟩
  · rw [stoul, h]
    dsimp only
    rw [if_neg (by omega)]
  · rw [UInt64.toNat_toUInt8, UInt64.ofInt, UInt64.toNat_ofNat']
    omega

theorem strtol_of_stoul {text : Bytes} {n : UInt64} (h : stoul text = .ok n) :
    ∃ v, strtol text = some v ∧ v.natAbs < 2 ^ 64 ∧ (n.toUInt8.toNat : ℤ) = v % 256 := by
  cases hv : strtol text with
  | none => rw [stoul, hv] at h; cases h
  | some v =>
    have hrange : v.natAbs < 2 ^ 64 := by
      by_contra hlarge
      rw [stoul, hv] at h
      dsimp only at h
      rw [if_pos (by omega)] at h
      cases h
    obtain ⟨m, hm, hvalue⟩ := stoul_of_strtol hv hrange
    rw [hm] at h
    cases h
    exact ⟨v, rfl, hrange, hvalue⟩

theorem parseCidr_of_not_mem (pton : InetPton) {s : Bytes} (hs : 47 ∉ s) :
    parseCidr pton s = .ok none := by
  simp only [parseCidr, findIdx?_of_not_mem hs]

/-- The mask of a prefix length up to 32 clears the low bits. -/
theorem mask_eq {p : UInt8} (hp : ¬ 32 < p) :
    ∃ mask, (if p = 0 then pure 0 else shiftLeft (~~~ 0) (32 - p.toNat)) = .ok mask ∧
      ∀ x, x &&& mask = clearLow (32 - p.toNat) x := by
  by_cases hzero : p = 0
  · subst hzero
    exact ⟨0, rfl, fun x => UInt32.and_zero.trans (clearLow_all x).symm⟩
  · have hpos : p.toNat ≠ 0 := fun h => hzero (UInt8.toNat_inj.mp h)
    have hbits : 32 - p.toNat < 32 := by omega
    refine ⟨~~~ 0 <<< UInt32.ofNat (32 - p.toNat), ?_, and_mask hbits⟩
    rw [if_neg hzero, shiftLeft, if_pos hbits]

/-- After the first slash comes the number, whatever stands before a NUL is the address. -/
theorem parseCidr_append (pton : InetPton) {head : Bytes} (hhead : 47 ∉ head) (rest : Bytes) :
    parseCidr pton (head ++ 47 :: rest) =
      match pton.parse (cString head) with
      | none => .ok none
      | some x => (stoul rest).map (fun n =>
          if 32 < n.toUInt8 then none
          else some (clearLow (32 - n.toUInt8.toNat) x, n.toUInt8)) := by
  simp only [parseCidr, findIdx?_delimiter hhead, drop_delimiter, List.take_left']
  cases pton.parse (cString head) with
  | none => rfl
  | some x =>
    cases stoul rest with
    | error fault => rfl
    | ok n =>
      by_cases hlong : 32 < n.toUInt8
      · simp only [Except.map, if_pos hlong]
        exact if_pos hlong
      · obtain ⟨mask, hmask, hclear⟩ := mask_eq hlong
        simp only [Except.map, if_neg hlong, ← hclear x]
        refine (if_neg hlong).trans ?_
        by_cases hzero : n.toUInt8 = 0
        · rw [if_pos hzero] at hmask ⊢
          cases hmask
          rfl
        · rw [if_neg hzero] at hmask ⊢
          rw [hmask]
          rfl

/-- What the parser accepts has a prefix length in range and no bits below it. -/
theorem parseCidr_accepted {pton : InetPton} {s : Bytes} {base : UInt32} {p : UInt8}
    (h : parseCidr pton s = .ok (some (base, p))) :
    ∃ x, p.toNat ≤ 32 ∧ base = clearLow (32 - p.toNat) x := by
  by_cases hs : 47 ∈ s
  · obtain ⟨head, rest, rfl, hhead⟩ := List.eq_append_cons_of_mem hs
    rw [parseCidr_append pton hhead] at h
    cases hx : pton.parse (cString head) with
    | none =>
      rw [hx] at h
      cases h
    | some x =>
      cases hn : stoul rest with
      | error fault =>
        rw [hx, hn] at h
        cases h
      | ok n =>
        by_cases hlong : 32 < n.toUInt8
        · simp only [hx, hn, Except.map, if_pos hlong] at h
          cases h
        · simp only [hx, hn, Except.map, if_neg hlong] at h
          cases h
          rw [UInt8.lt_iff_toNat_lt] at hlong
          exact ⟨x, Nat.le_of_not_lt hlong, rfl⟩
  · rw [parseCidr_of_not_mem pton hs] at h
    cases h

theorem not_mem_quad {pton : InetPton} {quad : Bytes} {x : UInt32} (h : pton.parse quad = some x)
    {b : UInt8} (hdigit : isDigit b = false) (hdot : b ≠ 46) : b ∉ quad := by
  intro hb
  rcases (pton.accepted h).chars hb with hyes | hyes
  · rw [hdigit] at hyes
    cases hyes
  · exact hdot hyes

/-- The slash splits the text in one way. -/
theorem cidr_append_iff {pton : InetPton} {head rest : Bytes} {x : UInt32} {p : ℕ} :
    Cidr pton (head ++ 47 :: rest) x p ↔
      pton.parse head = some x ∧ PrefixText rest ∧ digitsValue rest = p := by
  constructor
  · intro h
    obtain ⟨quad, digits, heq, hquad, hne, hall, hvalue, hp⟩ := h
    have hslash : 47 ∉ quad := not_mem_quad hquad rfl (by decide)
    have hdigits : 47 ∉ digits := by
      intro hmem
      cases hall 47 hmem
    obtain ⟨rfl, _, rfl⟩ := (List.append_cons_inj_of_notMem hslash hdigits).mp heq.symm
    exact ⟨hquad, ⟨hne, hall, hvalue ▸ hp⟩, hvalue⟩
  · intro h
    obtain ⟨hquad, ⟨hne, hall, hle⟩, hvalue⟩ := h
    exact ⟨head, rest, rfl, hquad, hne, hall, hvalue, hvalue ▸ hle⟩

theorem not_cidr_of_not_mem {pton : InetPton} {s : Bytes} (hs : 47 ∉ s) (x : UInt32) (p : ℕ) :
    ¬ Cidr pton s x p := by
  intro h
  obtain ⟨quad, digits, rfl, _⟩ := h
  exact hs (by simp)

theorem cString_of_not_mem {s : Bytes} (hs : 0 ∉ s) : cString s = s := by
  rw [cString, List.takeWhile_eq_self_iff]
  intro b hb
  exact decide_eq_true (fun hzero => hs (hzero ▸ hb))

theorem cString_eq_of_parse {pton : InetPton} {head : Bytes} {x : UInt32}
    (h : pton.parse head = some x) : 0 ∉ head ∧ cString head = head :=
  have hnul : 0 ∉ head := not_mem_quad h rfl (by decide)
  ⟨hnul, cString_of_not_mem hnul⟩

theorem stoul_prefixText {rest : Bytes} (h : PrefixText rest) :
    ∃ n, stoul rest = .ok n ∧ n.toUInt8.toNat = digitsValue rest ∧ ¬ 32 < n.toUInt8 := by
  obtain ⟨hne, hall, hle⟩ := h
  obtain ⟨n, hn, hvalue⟩ := stoul_of_strtol (strtol_of_digits hne hall) (by omega)
  have hnat : n.toUInt8.toNat = digitsValue rest := by omega
  refine ⟨n, hn, hnat, ?_⟩
  rw [UInt8.lt_iff_toNat_lt, hnat]
  exact Nat.not_lt.mpr hle

/-- What the code needs of a text with the slash after `head` to read it as meant. -/
def Readable (pton : InetPton) (head rest : Bytes) : Prop :=
  pton.parse (cString head) = none ∨ (0 ∉ head ∧ PrefixText rest) ∨ TooLong rest

theorem grammatical_append_iff (pton : InetPton) {head : Bytes} (hhead : 47 ∉ head) (rest : Bytes) :
    Grammatical pton (head ++ 47 :: rest) ↔ Readable pton head rest := by
  simp only [Grammatical, Readable, cidr_append_iff, parseCidr_append pton hhead]
  cases hparse : pton.parse (cString head) with
  | none =>
    have hno : ∀ x, pton.parse head ≠ some x := by
      intro x hx
      rw [(cString_eq_of_parse hx).2, hx] at hparse
      cases hparse
    refine iff_of_true ⟨none, rfl, ?_, fun _ => rfl⟩ (Or.inl rfl)
    intro x p h
    exact absurd h.1 (hno x)
  | some y =>
    constructor
    · intro h
      obtain ⟨r, hr, hcidr, hnone⟩ := h
      cases hn : stoul rest with
      | error fault => rw [hn] at hr; cases hr
      | ok n =>
        by_cases hlong : 32 < n.toUInt8
        · obtain ⟨v, hv, hrange, hvalue⟩ := strtol_of_stoul hn
          have hnat : 32 < n.toUInt8.toNat := UInt8.lt_iff_toNat_lt.mp hlong
          exact Or.inr (Or.inr ⟨v, hv, hrange, by omega⟩)
        · -- The code accepts, so the text must follow the grammar.
          have hsome : r ≠ none := by
            intro hr'
            simp only [hn, hr', Except.map, if_neg hlong] at hr
            cases hr
          by_contra hnot
          apply hsome
          apply hnone
          intro x p h
          exact hnot (Or.inr (Or.inl ⟨(cString_eq_of_parse h.1).1, h.2.1⟩))
    · intro h
      rcases h with h | h | h
      · cases h
      · obtain ⟨hnul, hbegins⟩ := h
        obtain ⟨n, hn, hvalue, hlong⟩ := stoul_prefixText hbegins
        rw [cString_of_not_mem hnul] at hparse
        refine ⟨some (clearLow (32 - n.toUInt8.toNat) y, n.toUInt8), ?_, ?_, ?_⟩
        · simp only [hn, Except.map, if_neg hlong]
        · intro x p h
          obtain ⟨hx, _, rfl⟩ := h
          rw [hparse] at hx
          cases hx
          rw [← hvalue, UInt8.ofNat_toNat]
        · intro h
          exact absurd ⟨hparse, hbegins, rfl⟩ (h y _)
      · obtain ⟨v, hv, hrange, hlong⟩ := h
        obtain ⟨n, hn, hvalue⟩ := stoul_of_strtol hv hrange
        have hlong' : 32 < n.toUInt8 := by
          rw [UInt8.lt_iff_toNat_lt]
          change 32 < n.toUInt8.toNat
          omega
        refine ⟨none, ?_, ?_, fun _ => rfl⟩
        · simp only [hn, Except.map, if_pos hlong']
        · intro x p h
          obtain ⟨m, hm, _, hshort⟩ := stoul_prefixText h.2.1
          rw [hn] at hm
          cases hm
          exact absurd hlong' hshort

/-- The parser keeps to the grammar where there is no slash, where the text before it is
no address, where a number up to 32 in digits follows, and where the number that follows
is too long for its low eight bits as well. -/
theorem parseCidr_grammatical_iff (pton : InetPton) (s : Bytes) :
    Grammatical pton s ↔
      (47 ∉ s ∨ ∃ head rest, s = head ++ 47 :: rest ∧ 47 ∉ head ∧ Readable pton head rest) := by
  by_cases hs : 47 ∈ s
  · obtain ⟨head, rest, rfl, hhead⟩ := List.eq_append_cons_of_mem hs
    rw [grammatical_append_iff pton hhead rest]
    constructor
    · intro h
      exact Or.inr ⟨head, rest, rfl, hhead, h⟩
    · intro h
      rcases h with h | h
      · exact absurd hs h
      · obtain ⟨head', rest', heq, hhead', h⟩ := h
        obtain ⟨rfl, rfl⟩ := append_delimiter_inj hhead hhead' heq
        exact h
  · refine iff_of_true ⟨none, parseCidr_of_not_mem pton hs, ?_, fun _ => rfl⟩ (Or.inl hs)
    intro x p h
    exact absurd h (not_cidr_of_not_mem hs x p)

/-- The prefix length 280 is read as 24. -/
theorem parseCidr_wrapped : ¬ Grammatical strictPton (utf8 "10.0.0.0/280") := by
  have hhead : (47 : UInt8) ∉ utf8 "10.0.0.0" := by decide
  have hvalue : strtol (utf8 "280") = some 280 := by decide
  intro h
  rcases (grammatical_append_iff strictPton hhead (utf8 "280")).mp h with h | h | h
  · exact absurd h (by decide)
  · exact absurd h.2.2.2 (by decide)
  · obtain ⟨v, hv, _, hlong⟩ := h
    rw [hvalue] at hv
    cases hv
    exact absurd hlong (by decide)

end SolakonMonitor.SubnetText
