import SolakonMonitor.DecimalText
import SolakonMonitor.TextLines

/-!
IPv4 addresses as numbers, and their dotted texts.
An address has four octets, the first one most significant. Its dotted text is read
back by any parser that keeps the documented contract, and determines the address.
A host may keep the octets in either order in memory.
-/
namespace SolakonMonitor.Ipv4

open BigEndian DecimalText TextLines

def ofOctets (a b c d : ℕ) : UInt32 := UInt32.ofNat (16777216 * a + 65536 * b + 256 * c + d)

def octet1 (x : UInt32) : ℕ := x.toNat / 16777216
def octet2 (x : UInt32) : ℕ := x.toNat / 65536 % 256
def octet3 (x : UInt32) : ℕ := x.toNat / 256 % 256
def octet4 (x : UInt32) : ℕ := x.toNat % 256

theorem ofOctets_toNat {a b c d : ℕ} (ha : a < 256) (hb : b < 256) (hc : c < 256) (hd : d < 256) :
    (ofOctets a b c d).toNat = 16777216 * a + 65536 * b + 256 * c + d := by
  rw [ofOctets, UInt32.toNat_ofNat']
  omega

theorem octet1_lt (x : UInt32) : octet1 x < 256 := by
  have hlt := x.toNat_lt
  unfold octet1
  omega

theorem octet2_lt (x : UInt32) : octet2 x < 256 := Nat.mod_lt _ (by omega)

theorem octet3_lt (x : UInt32) : octet3 x < 256 := Nat.mod_lt _ (by omega)

theorem octet4_lt (x : UInt32) : octet4 x < 256 := Nat.mod_lt _ (by omega)

theorem octets_ofOctets {a b c d : ℕ} (ha : a < 256) (hb : b < 256) (hc : c < 256) (hd : d < 256) :
    octet1 (ofOctets a b c d) = a ∧ octet2 (ofOctets a b c d) = b ∧
      octet3 (ofOctets a b c d) = c ∧ octet4 (ofOctets a b c d) = d := by
  simp only [octet1, octet2, octet3, octet4, ofOctets_toNat ha hb hc hd]
  omega

theorem ofOctets_octets (x : UInt32) :
    ofOctets (octet1 x) (octet2 x) (octet3 x) (octet4 x) = x := by
  have hlt := x.toNat_lt
  rw [← UInt32.toNat_inj]
  simp only [ofOctets, octet1, octet2, octet3, octet4, UInt32.toNat_ofNat']
  omega

def clearLow (bits : ℕ) (x : UInt32) : UInt32 := UInt32.ofNat (x.toNat / 2 ^ bits * 2 ^ bits)

theorem clearLow_toNat (bits : ℕ) (x : UInt32) :
    (clearLow bits x).toNat = x.toNat / 2 ^ bits * 2 ^ bits := by
  have hle : x.toNat / 2 ^ bits * 2 ^ bits ≤ x.toNat := Nat.div_mul_le_self _ _
  have hlt := x.toNat_lt
  rw [clearLow, UInt32.toNat_ofNat_of_lt' (lt_of_le_of_lt hle hlt)]

theorem clearLow_all (x : UInt32) : clearLow 32 x = 0 := by
  have hlt := x.toNat_lt
  rw [← UInt32.toNat_inj, clearLow_toNat, Nat.div_eq_of_lt hlt, Nat.zero_mul]
  rfl

theorem shiftLeft_toNat {bits : ℕ} (hbits : bits < 32) (x : UInt32) :
    (x <<< UInt32.ofNat bits).toNat = x.toNat <<< bits % 2 ^ 32 := by
  have hcount : (UInt32.ofNat bits).toNat % 32 = bits := by
    rw [UInt32.toNat_ofNat']
    omega
  rw [UInt32.toNat_shiftLeft, hcount]

/-- A mask of high ones clears the bits below it. -/
theorem and_mask {bits : ℕ} (hbits : bits < 32) (x : UInt32) :
    x &&& (~~~ 0 <<< UInt32.ofNat bits) = clearLow bits x := by
  have hones : (~~~ (0 : UInt32)).toNat = 2 ^ 32 - 1 := rfl
  rw [← UInt32.toNat_inj, clearLow_toNat, UInt32.toNat_and, shiftLeft_toNat hbits, hones,
    ← Nat.shiftRight_eq_div_pow, ← Nat.shiftLeft_eq]
  apply Nat.eq_of_testBit_eq
  intro i
  rw [Nat.testBit_and, Nat.testBit_mod_two_pow, Nat.testBit_shiftLeft, Nat.testBit_shiftLeft,
    Nat.testBit_two_pow_sub_one, Nat.testBit_shiftRight]
  by_cases hi : i < 32
  · by_cases hle : bits ≤ i
    · have hsub : bits + (i - bits) = i := by omega
      have hlow : i - bits < 32 := by omega
      simp [hi, hle, hsub, hlow]
    · simp [hle]
  · have hhigh : x.toNat.testBit i = false :=
      Nat.testBit_lt_two_pow
        (lt_of_lt_of_le x.toNat_lt (Nat.pow_le_pow_right (by omega) (by omega)))
    by_cases hle : bits ≤ i
    · have hsub : bits + (i - bits) = i := by omega
      simp [hhigh, hle, hsub]
    · simp [hhigh, hle]

theorem or_low {bits : ℕ} {x y : UInt32} (hx : 2 ^ bits ∣ x.toNat) (hy : y.toNat < 2 ^ bits) :
    (x ||| y).toNat = x.toNat + y.toNat := by
  obtain ⟨a, ha⟩ := hx
  rw [UInt32.toNat_or, ha, Nat.two_pow_add_eq_or_of_lt hy]

/-- The order in which a machine keeps the bytes of a number. -/
inductive ByteOrder where
  | little
  | big
  deriving DecidableEq, Repr

/-- The number with its octets in the opposite order. -/
def swapBytes (x : UInt32) : UInt32 := ofOctets (octet4 x) (octet3 x) (octet2 x) (octet1 x)

def htonl : ByteOrder → UInt32 → UInt32
  | .little, x => swapBytes x
  | .big, x => x

def ntohl (order : ByteOrder) (x : UInt32) : UInt32 := htonl order x

theorem swapBytes_octets (x : UInt32) :
    octet1 (swapBytes x) = octet4 x ∧ octet2 (swapBytes x) = octet3 x ∧
      octet3 (swapBytes x) = octet2 x ∧ octet4 (swapBytes x) = octet1 x :=
  octets_ofOctets (octet4_lt x) (octet3_lt x) (octet2_lt x) (octet1_lt x)

theorem swapBytes_swapBytes (x : UInt32) : swapBytes (swapBytes x) = x := by
  obtain ⟨h1, h2, h3, h4⟩ := swapBytes_octets x
  rw [swapBytes, h1, h2, h3, h4, ofOctets_octets]

@[simp] theorem ntohl_htonl (order : ByteOrder) (x : UInt32) : ntohl order (htonl order x) = x := by
  cases order
  · exact swapBytes_swapBytes x
  · rfl

def dotted (p q r s : Bytes) : Bytes := p ++ 46 :: (q ++ 46 :: (r ++ 46 :: s))

def dottedQuad (x : UInt32) : Bytes :=
  dotted (decimal (octet1 x)) (decimal (octet2 x)) (decimal (octet3 x)) (decimal (octet4 x))

/-- One to three digits with a value below 256. -/
structure Octet (s : Bytes) : Prop where
  nonempty : s ≠ []
  short : s.length ≤ 3
  digits : ∀ b ∈ s, isDigit b = true
  value : digitsValue s < 256

/-- The text is four octets between dots, and they are those of the address. -/
def DottedQuad (text : Bytes) (x : UInt32) : Prop :=
  ∃ p q r s, text = dotted p q r s ∧ (Octet p ∧ Octet q ∧ Octet r ∧ Octet s) ∧
    x = ofOctets (digitsValue p) (digitsValue q) (digitsValue r) (digitsValue s)

/-- A parser of dotted texts as documented: it accepts nothing but dotted texts, with
the address they stand for, and it accepts those that printing an address gives. -/
structure InetPton where
  parse : Bytes → Option UInt32
  accepted : ∀ {text x}, parse text = some x → DottedQuad text x
  printed : ∀ x, parse (dottedQuad x) = some x

theorem dottedQuad_injective (pton : InetPton) {x y : UInt32} (h : dottedQuad x = dottedQuad y) :
    x = y := by
  have hx := pton.printed x
  rw [h, pton.printed y] at hx
  exact (Option.some.inj hx).symm

theorem DottedQuad.chars {text : Bytes} {x : UInt32} (h : DottedQuad text x) {b : UInt8}
    (hb : b ∈ text) : isDigit b = true ∨ b = 46 := by
  obtain ⟨p, q, r, s, rfl, ⟨hp, hq, hr, hs⟩, _⟩ := h
  simp only [dotted, List.mem_append, List.mem_cons] at hb
  rcases hb with hb | rfl | hb | rfl | hb | rfl | hb
  · exact Or.inl (hp.digits b hb)
  · exact Or.inr rfl
  · exact Or.inl (hq.digits b hb)
  · exact Or.inr rfl
  · exact Or.inl (hr.digits b hb)
  · exact Or.inr rfl
  · exact Or.inl (hs.digits b hb)

/-- A part is an octet without leading zeros. -/
def strictOctet (s : Bytes) : Bool :=
  s ≠ [] && s.length ≤ 3 && s.all isDigit && digitsValue s < 256 &&
    (s.length = 1 || s.head? ≠ some 48)

def strictParse (text : Bytes) : Option UInt32 :=
  match fields 46 text with
  | [p, q, r, s] =>
    if text = dotted p q r s ∧
        (strictOctet p && strictOctet q && strictOctet r && strictOctet s) then
      some (ofOctets (digitsValue p) (digitsValue q) (digitsValue r) (digitsValue s))
    else none
  | _ => none

theorem octet_of_strictOctet {s : Bytes} (h : strictOctet s = true) : Octet s := by
  simp only [strictOctet, Bool.and_eq_true, decide_eq_true_eq, List.all_eq_true] at h
  obtain ⟨⟨⟨⟨hne, hshort⟩, hdigits⟩, hvalue⟩, _⟩ := h
  exact ⟨hne, hshort, hdigits, hvalue⟩

theorem strictOctet_decimal {n : ℕ} (hn : n < 256) : strictOctet (decimal n) = true := by
  have hall : ∀ k, k < 256 → strictOctet (decimal k) = true := by
    decide +kernel
  exact hall n hn

theorem fields_dotted {p q r s : Bytes} (hp : 46 ∉ p) (hq : 46 ∉ q) (hr : 46 ∉ r) (hs : 46 ∉ s)
    (hne : s ≠ []) : fields 46 (dotted p q r s) = [p, q, r, s] := by
  rw [dotted, fields_append 46 p _ hp, fields_append 46 q _ hq, fields_append 46 r _ hr,
    fields_singleton 46 s hs hne]

/-- The parser that refuses leading zeros keeps the contract. -/
def strictPton : InetPton where
  parse := strictParse
  accepted := by
    intro text x h
    rw [strictParse] at h
    split at h
    · rename_i p q r s _
      split at h
      · rename_i hparts
        obtain ⟨htext, hoctets⟩ := hparts
        simp only [Bool.and_eq_true] at hoctets
        obtain ⟨⟨⟨hp, hq⟩, hr⟩, hs⟩ := hoctets
        exact ⟨p, q, r, s, htext, ⟨octet_of_strictOctet hp, octet_of_strictOctet hq,
          octet_of_strictOctet hr, octet_of_strictOctet hs⟩, (Option.some.inj h).symm⟩
      · cases h
    · cases h
  printed := by
    intro x
    have hdot : ∀ n, (46 : UInt8) ∉ decimal n := by
      intro n hmem
      cases isDigit_of_mem_decimal hmem
    rw [strictParse, dottedQuad,
      fields_dotted (hdot _) (hdot _) (hdot _) (hdot _) (decimal_ne_nil _)]
    dsimp only
    rw [if_pos ⟨rfl, by
      rw [strictOctet_decimal (octet1_lt x), strictOctet_decimal (octet2_lt x),
        strictOctet_decimal (octet3_lt x), strictOctet_decimal (octet4_lt x)]
      rfl⟩]
    rw [digitsValue_decimal, digitsValue_decimal, digitsValue_decimal, digitsValue_decimal,
      ofOctets_octets]

end SolakonMonitor.Ipv4
