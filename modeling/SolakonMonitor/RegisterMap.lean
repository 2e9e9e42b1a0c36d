import SolakonMonitor.SnapshotFields

/-!
Fetches whose reads all succeed, as functions of the register bank.
Every field is a function of the registers its read covers, and two fields share
a register in one place only. Against the documented register map two fields are
decoded from something else than what the map gives them, and the two meters are
not one function of their blocks.
-/
namespace SolakonMonitor.RegisterMap

open BigEndian ModbusClient ModbusSession Device SnapshotFields

/-- The snapshot of a fetch whose reads all succeed. -/
def bankSnapshot (now : ℤ) (val s3 : UInt32) (bank : Bank) : DeviceSnapshot :=
  (Impl.fetchSnapshot now val s3).answer (bankOutcomes bank)

/-- The documented content of the registers of a numeric read, as an integer. -/
def content (bank : Bank) : RegRead → ℤ
  | .u16 a => (bank a.toNat).toNat
  | .i16 a => twosComplement 16 (bank a.toNat).toNat
  | .u32 a => doubleWord bank a.toNat
  | .i32 a => twosComplement 32 (doubleWord bank a.toNat)
  | .string _ _ => 0

theorem doubleWord_lt (bank : Bank) (a : ℕ) : doubleWord bank a < 2 ^ 32 := by
  rw [doubleWord, ← dword_toNat]
  exact UInt32.toNat_lt _

theorem rawNumber_meaning (bank : Bank) (r : RegRead) :
    rawNumber r (meaning bank r) = content bank r := by
  cases r with
  | u16 a => rfl
  | i16 a =>
    rw [rawNumber, meaning, ← toInt16_toInt, Int16.ofInt_toInt, content, toInt16_toInt]
  | u32 a =>
    rw [rawNumber, meaning, content, UInt32.toNat_ofNat_of_lt' (doubleWord_lt bank a.toNat)]
  | i32 a =>
    have hword := UInt32.toNat_ofNat_of_lt' (doubleWord_lt bank a.toNat)
    rw [rawNumber, meaning, content, ← hword, ← toInt32_toInt, Int32.ofInt_toInt]
  | string a n => rfl

theorem value_bankSnapshot (now : ℤ) (val s3 : UInt32) (bank : Bank) (f : Field) :
    f.value (bankSnapshot now val s3 bank) = f.present f.read (meaning bank f.read) := by
  rw [bankSnapshot, Field.value_fetch]
  exact Field.fetched_some s3 rfl rfl

/-- Register `a` is one of those the field's read covers. -/
def Occupies (f : Field) (a : ℕ) : Prop :=
  f.read.addr.toNat ≤ a ∧ a < f.read.addr.toNat + f.read.quantity.toNat

instance (f : Field) (a : ℕ) : Decidable (Occupies f a) := by
  unfold Occupies
  infer_instance

theorem meaning_congr {bank bank' : Bank} (r : RegRead)
    (h : ∀ i, i < r.quantity.toNat → bank (r.addr.toNat + i) = bank' (r.addr.toNat + i)) :
    meaning bank r = meaning bank' r := by
  have hword : ∀ a : UInt16, r.addr = a → 1 ≤ r.quantity.toNat → bank a.toNat = bank' a.toNat := by
    intro a ha hpos
    subst ha
    exact h 0 hpos
  have hdouble : ∀ a : UInt16, r.addr = a → 2 ≤ r.quantity.toNat →
      doubleWord bank a.toNat = doubleWord bank' a.toNat := by
    intro a ha hpos
    subst ha
    rw [doubleWord, doubleWord, hword r.addr rfl (by omega), h 1 (by omega)]
  cases r with
  | u16 a => exact hword a rfl (Nat.le_refl 1)
  | i16 a => rw [meaning, meaning, hword a rfl (Nat.le_refl 1)]
  | u32 a => rw [meaning, meaning, hdouble a rfl (Nat.le_refl 2)]
  | i32 a => rw [meaning, meaning, hdouble a rfl (Nat.le_refl 2)]
  | string a n =>
    have hwindow : window bank a.toNat n.toNat = window bank' a.toNat n.toNat := by
      refine List.map_congr_left (fun i hi => h i ?_)
      exact List.mem_range.mp hi
    rw [meaning, meaning, text, text, hwindow]

/-- The two fields whose registers overlap. -/
def Clash (f g : Field) : Prop :=
  (f = .status3 ∧ g = .alarm1) ∨ (f = .alarm1 ∧ g = .status3)

instance (f g : Field) : Decidable (Clash f g) := by
  unfold Clash
  infer_instance

theorem separate (f g : Field) (hne : f ≠ g) (hclash : ¬ Clash f g) :
    f.read.addr.toNat + f.read.quantity.toNat ≤ g.read.addr.toNat ∨
      g.read.addr.toNat + g.read.quantity.toNat ≤ f.read.addr.toNat := by
  have hall : ∀ f ∈ Field.all, ∀ g ∈ Field.all, f ≠ g → ¬ Clash f g →
      f.read.addr.toNat + f.read.quantity.toNat ≤ g.read.addr.toNat ∨
        g.read.addr.toNat + g.read.quantity.toNat ≤ f.read.addr.toNat := by
    decide +kernel
  exact hall f f.mem_all g g.mem_all hne hclash

/-- The one register that two fields share is the address of `alarm1`, which is
the low word of `status3`. -/
theorem shared_register {f g : Field} {a : ℕ} (hne : f ≠ g) (hf : Occupies f a)
    (hg : Occupies g a) : Clash f g ∧ a = 39066 := by
  by_cases hclash : Clash f g
  · refine ⟨hclash, ?_⟩
    have halarm : Occupies .alarm1 a := by
      rcases hclash with ⟨_, rfl⟩ | ⟨rfl, _⟩
      · exact hg
      · exact hf
    have hlow : 39066 ≤ a := halarm.1
    have hhigh : a < 39066 + 1 := halarm.2
    omega
  · have hsep := separate f g hne hclash
    obtain ⟨hf₁, hf₂⟩ := hf
    obtain ⟨hg₁, hg₂⟩ := hg
    omega

theorem alarm1_value_inj {bank bank' : Bank} {now now' : ℤ} {val val' s3 s3' : UInt32}
    (h : Field.alarm1.value (bankSnapshot now val s3 bank) =
      Field.alarm1.value (bankSnapshot now' val' s3' bank')) : bank 39066 = bank' 39066 := by
  rw [value_bankSnapshot, value_bankSnapshot] at h
  change FieldValue.number ((((bank 39066).toNat : ℤ) : ℚ) / 1) =
    .number ((((bank' 39066).toNat : ℤ) : ℚ) / 1) at h
  rw [FieldValue.number.injEq, div_one, div_one, Int.cast_inj, Nat.cast_inj] at h
  exact UInt16.toNat_inj.mp h

theorem status3_value_inj {bank bank' : Bank} {now now' : ℤ} {val val' s3 s3' : UInt32}
    (h : Field.status3.value (bankSnapshot now val s3 bank) =
      Field.status3.value (bankSnapshot now' val' s3' bank')) : bank 39066 = bank' 39066 := by
  rw [value_bankSnapshot, value_bankSnapshot] at h
  change FieldValue.number ((rawNumber (.u32 39065) (meaning bank (.u32 39065)) : ℚ) / 1) =
    .number ((rawNumber (.u32 39065) (meaning bank' (.u32 39065)) : ℚ) / 1) at h
  rw [FieldValue.number.injEq, div_one, div_one, Int.cast_inj, rawNumber_meaning,
    rawNumber_meaning] at h
  have hdouble : doubleWord bank 39065 = doubleWord bank' 39065 := Int.ofNat_inj.mp h
  have hlow := (bank 39066).toNat_lt
  have hlow' := (bank' 39066).toNat_lt
  rw [← UInt16.toNat_inj]
  simp only [doubleWord, Nat.reduceAdd] at hdouble
  omega

/-- Two banks that differ only in one field's registers agree on every other
field exactly when they agree at the register that two fields share. -/
theorem others_agree_iff (now now' : ℤ) (val val' s3 s3' : UInt32) (bank bank' : Bank) (f : Field)
    (hsame : ∀ a, ¬ Occupies f a → bank a = bank' a) :
    (∀ g, g ≠ f → g.value (bankSnapshot now val s3 bank) =
        g.value (bankSnapshot now' val' s3' bank')) ↔ bank 39066 = bank' 39066 := by
  constructor
  · intro hagree
    by_contra hdiff
    have hmem : Occupies f 39066 := by
      by_contra hnot
      exact hdiff (hsame 39066 hnot)
    by_cases halarm : f = .alarm1
    · subst halarm
      exact hdiff (status3_value_inj (hagree .status3 (by decide)))
    · exact hdiff (alarm1_value_inj (hagree .alarm1 (Ne.symm halarm)))
  · intro hshared g hne
    rw [value_bankSnapshot, value_bankSnapshot, meaning_congr]
    intro i hi
    have hg : Occupies g (g.read.addr.toNat + i) := ⟨by omega, by omega⟩
    by_cases hf : Occupies f (g.read.addr.toNat + i)
    · rw [(shared_register hne hg hf).2]
      exact hshared
    · exact hsame _ hf

def blankBank : Bank := fun _ => 0

/-- A bank in which one register holds 1 and the others 0. -/
def unitBank (b : ℕ) : Bank := fun a => if a = b then 1 else 0

theorem unitBank_outside {f : Field} {b : ℕ} (hb : Occupies f b) :
    ∀ a, ¬ Occupies f a → blankBank a = unitBank b a := by
  intro a ha
  have hne : a ≠ b := fun h => ha (h ▸ hb)
  exact (if_neg hne).symm

theorem others_agree_iff_meter1Connected :
    (∀ g, g ≠ Field.meter1Connected → g.value (bankSnapshot 0 0 0 blankBank) =
      g.value (bankSnapshot 0 0 0 (unitBank 38801))) ↔ blankBank 39066 = unitBank 38801 39066 :=
  others_agree_iff 0 0 0 0 0 0 blankBank (unitBank 38801) .meter1Connected
    (unitBank_outside (by decide))

/-- Raising an alarm bit changes the status bits. -/
theorem status3_reads_alarm1 :
    (∀ a, ¬ Occupies .alarm1 a → blankBank a = unitBank 39066 a) ∧
      Field.status3.value (bankSnapshot 0 0 0 blankBank) ≠
        Field.status3.value (bankSnapshot 0 0 0 (unitBank 39066)) := by
  refine ⟨unitBank_outside (by decide), fun heq => ?_⟩
  have hword := status3_value_inj heq
  cases hword

/-- The register that carries the field's name in the register map. -/
def documented : Field → RegRead
  | .serialNumber => .string Reg.sn2 16
  | f => f.read

/-- The documented reading of the field: text, the connected flag, or the content
divided by the documented scale. -/
def documentedValue (bank : Bank) (f : Field) : FieldValue :=
  match f with
  | .meter1Connected | .meter2Connected => .flag (content bank (documented f) == 1)
  | f => match documented f with
    | .string a n => .text (text bank a.toNat n.toNat)
    | r => .number (content bank r / f.scale)

def Faithful (bank : Bank) : Prop :=
  ∀ (now : ℤ) (val s3 : UInt32) (f : Field),
    f.value (bankSnapshot now val s3 bank) = documentedValue bank f

theorem faithful_field (now : ℤ) (val s3 : UInt32) (bank : Bank) (f : Field)
    (hprotocol : f ≠ .protocolVersion) (hserial : f ≠ .serialNumber) :
    f.value (bankSnapshot now val s3 bank) = documentedValue bank f := by
  rw [value_bankSnapshot]
  have hshown : f.shown (rawNumber f.read (meaning bank f.read)) = f.shown (content bank f.read) :=
    congrArg f.shown (rawNumber_meaning bank f.read)
  cases f
  case protocolVersion => exact absurd rfl hprotocol
  case serialNumber => exact absurd rfl hserial
  case modelName | bmsSn => rfl
  all_goals exact hshown

/-- The protocol version is narrowed to the low word of its register pair. -/
theorem protocolVersion_faithful_iff (now : ℤ) (val s3 : UInt32) (bank : Bank) :
    Field.protocolVersion.value (bankSnapshot now val s3 bank) =
      documentedValue bank .protocolVersion ↔ bank 39000 = 0 := by
  rw [value_bankSnapshot]
  change FieldValue.number ((rawNumber (.u32 39000) (meaning bank (.u32 39000)) % 65536 : ℤ) : ℚ) =
    .number ((content bank (.u32 39000) : ℚ) / 1) ↔ _
  rw [FieldValue.number.injEq, div_one, Int.cast_inj, rawNumber_meaning, ← UInt16.toNat_inj]
  have hlow := (bank 39001).toNat_lt
  change ((65536 * (bank 39000).toNat + (bank 39001).toNat : ℕ) : ℤ) % 65536 =
    ((65536 * (bank 39000).toNat + (bank 39001).toNat : ℕ) : ℤ) ↔ (bank 39000).toNat = 0
  omega

theorem serialNumber_faithful_iff (now : ℤ) (val s3 : UInt32) (bank : Bank) :
    Field.serialNumber.value (bankSnapshot now val s3 bank) =
      documentedValue bank .serialNumber ↔ text bank 39018 16 = text bank 39034 16 := by
  rw [value_bankSnapshot]
  change FieldValue.text (text bank 39018 16) = .text (text bank 39034 16) ↔ _
  rw [FieldValue.text.injEq]

/-- A fetch decodes a bank as documented exactly when the high word of the
protocol version is zero and the part number and the serial number are one text. -/
theorem faithful_iff (bank : Bank) :
    Faithful bank ↔ bank 39000 = 0 ∧ text bank 39018 16 = text bank 39034 16 := by
  constructor
  · intro hfaithful
    exact ⟨(protocolVersion_faithful_iff 0 0 0 bank).mp (hfaithful 0 0 0 .protocolVersion),
      (serialNumber_faithful_iff 0 0 0 bank).mp (hfaithful 0 0 0 .serialNumber)⟩
  · intro hcondition now val s3 f
    obtain ⟨hprotocol, hserial⟩ := hcondition
    by_cases hp : f = .protocolVersion
    · subst hp
      exact (protocolVersion_faithful_iff now val s3 bank).mpr hprotocol
    · by_cases hs : f = .serialNumber
      · subst hs
        exact (serialNumber_faithful_iff now val s3 bank).mpr hserial
      · exact faithful_field now val s3 bank f hp hs

/-- Protocol version 65536 reads as 0. -/
theorem not_faithful_protocolVersion : ¬ Faithful (unitBank 39000) := by
  intro hfaithful
  have hzero := (protocolVersion_faithful_iff 0 0 0 _).mp (hfaithful 0 0 0 .protocolVersion)
  cases hzero

/-- What `readMeterData` makes of a bank when every read succeeds. -/
def meters (bank : Bank) : MeterData × MeterData := (readMeterData {} {}).answer (bankOutcomes bank)

theorem bankSnapshot_meters (now : ℤ) (val s3 : UInt32) (bank : Bank) :
    ((bankSnapshot now val s3 bank).meter1, (bankSnapshot now val s3 bank).meter2) =
      meters bank := rfl

/-- What is proved of the snapshot of a bank holds of what a fetch brings from a device that holds
it, grants every read and answers promptly. -/
theorem fetchOver_documented (p : Peer) (bank : Bank) (client : Client) (now : ℤ)
    (val s3 : UInt32) (w : Wire) (hclean : w.outstanding = [])
    (hprompt : ∀ j, p.schedule j ≠ none) (hbank : ∀ k, p.bank k = bank)
    (hserves : ∀ k, p.refuses k = none) :
    ∃ snap device' w', SolakonDevice.fetchOver p.socket ⟨some client⟩ now val s3 w =
        some (snap, device', w') ∧
      (∀ f, f ≠ .protocolVersion → f ≠ .serialNumber → f.value snap = documentedValue bank f) ∧
      (snap.meter1, snap.meter2) = meters bank := by
  obtain ⟨device', w', hfetch, _⟩ :=
    fetchOver_bank p bank client now val s3 w hclean hprompt hbank hserves
  exact ⟨bankSnapshot now val s3 bank, device', w', hfetch,
    faithful_field now val s3 bank, bankSnapshot_meters now val s3 bank⟩

def signedAt (bank : Bank) (a : UInt16) : ℚ := ((meaning bank (.i32 a)).toInt : ℚ)

theorem meters_eq (bank : Bank) : meters bank =
    ({ connected := bank 38801 == 1
       rVoltage := signedAt bank 38802 / 10
       sVoltage := signedAt bank 38804 / 10
       tVoltage := signedAt bank 38806 / 10
       rCurrent := signedAt bank 38808 / 1000
       sCurrent := signedAt bank 38810 / 1000
       tCurrent := signedAt bank 38812 / 1000
       rActivePower := signedAt bank 38814 / 10
       sActivePower := signedAt bank 38816 / 10
       tActivePower := signedAt bank 38818 / 10
       combinedActivePower := signedAt bank 38838 / 10
       frequency := signedAt bank 38844 / 100 },
     { connected := bank 38901 == 1
       rVoltage := signedAt bank 38902 / 10
       sVoltage := signedAt bank 38904 / 10
       tVoltage := signedAt bank 38906 / 10
       rCurrent := signedAt bank 38908 / 1000
       sCurrent := signedAt bank 38910 / 1000
       tCurrent := signedAt bank 38912 / 1000
       combinedActivePower := signedAt bank 38938 / 10
       frequency := signedAt bank 38946 / 100 }) := rfl

theorem signedAt_eq_iff (bank : Bank) (a b : UInt16) :
    signedAt bank a = signedAt bank b ↔ doubleWord bank a.toNat = doubleWord bank b.toNat := by
  have ha := rawNumber_meaning bank (.i32 a)
  have hb := rawNumber_meaning bank (.i32 b)
  have hlt := doubleWord_lt bank a.toNat
  have hlt' := doubleWord_lt bank b.toNat
  rw [rawNumber, content, twosComplement] at ha hb
  rw [signedAt, signedAt, Int.cast_inj, ha, hb]
  split <;> split <;> omega

theorem signedAt_eq_zero_iff (bank : Bank) (a : UInt16) :
    signedAt bank a = 0 ↔ doubleWord bank a.toNat = 0 := by
  have ha := rawNumber_meaning bank (.i32 a)
  have hlt := doubleWord_lt bank a.toNat
  rw [rawNumber, content, twosComplement] at ha
  rw [signedAt, Int.cast_eq_zero, ha]
  split <;> omega

/-- The second meter's block is a copy of the first one's, 100 addresses further on. -/
def MetersCopied (bank : Bank) : Prop := ∀ k, k < 100 → bank (38900 + k) = bank (38800 + k)

/-- In a copied block a number is read as in the original. -/
theorem MetersCopied.signedAt {bank : Bank} (hcopy : MetersCopied bank) (a b : UInt16)
    (k : ℕ) (hk : k + 1 < 100) (ha : a.toNat = 38900 + k) (hb : b.toNat = 38800 + k) :
    signedAt bank a = signedAt bank b := by
  rw [signedAt_eq_iff, doubleWord, doubleWord, ha, hb, hcopy k (by omega), Nat.add_assoc,
    Nat.add_assoc, hcopy (k + 1) hk]

/-- From equal blocks the meters come out equal exactly when the first meter's powers are
zero, which are not read for the second one, and its frequency is also what
stands two registers further on, where the second one's is read. -/
theorem meters_equal_iff (bank : Bank) (hcopy : MetersCopied bank) :
    (meters bank).1 = (meters bank).2 ↔
      (doubleWord bank 38814 = 0 ∧ doubleWord bank 38816 = 0 ∧ doubleWord bank 38818 = 0) ∧
        doubleWord bank 38844 = doubleWord bank 38846 := by
  have hconn : bank 38901 = bank 38801 := hcopy 1 (by omega)
  have hfrequency : signedAt bank 38946 = signedAt bank 38846 := 
    hcopy.signedAt 38946 38846 46 (by omega) rfl rfl
  rw [meters_eq, MeterData.mk.injEq, hconn, hfrequency,
    hcopy.signedAt 38902 38802 2 (by omega) rfl rfl,
    hcopy.signedAt 38904 38804 4 (by omega) rfl rfl,
    hcopy.signedAt 38906 38806 6 (by omega) rfl rfl,
    hcopy.signedAt 38908 38808 8 (by omega) rfl rfl,
    hcopy.signedAt 38910 38810 10 (by omega) rfl rfl,
    hcopy.signedAt 38912 38812 12 (by omega) rfl rfl,
    hcopy.signedAt 38938 38838 38 (by omega) rfl rfl]
  have hpower : ∀ a : UInt16, signedAt bank a / 10 = 0 ↔ doubleWord bank a.toNat = 0 := by
    intro a
    rw [div_eq_zero_iff, signedAt_eq_zero_iff]
    norm_num
  have hfreq : signedAt bank 38844 / 100 = signedAt bank 38846 / 100 ↔
      doubleWord bank 38844 = doubleWord bank 38846 := by
    rw [div_left_inj' (by norm_num), signedAt_eq_iff]
    rfl
  rw [hpower, hpower, hpower, hfreq]
  tauto

/-- Both meters at 230 V, and the numbers given in both frequency registers. -/
def meterBank (power frequency next : UInt16) : Bank := fun a =>
  if a = 38803 ∨ a = 38903 then 2300
  else if a = 38815 ∨ a = 38915 then power
  else if a = 38845 ∨ a = 38945 then frequency
  else if a = 38847 ∨ a = 38947 then next
  else 0

theorem meters_equal_iff_idle :
    (meters (meterBank 0 5000 5000)).1 = (meters (meterBank 0 5000 5000)).2 ↔
      (doubleWord (meterBank 0 5000 5000) 38814 = 0 ∧ doubleWord (meterBank 0 5000 5000) 38816 = 0 ∧
          doubleWord (meterBank 0 5000 5000) 38818 = 0) ∧
        doubleWord (meterBank 0 5000 5000) 38844 = doubleWord (meterBank 0 5000 5000) 38846 :=
  meters_equal_iff (meterBank 0 5000 5000) (by unfold MetersCopied; decide)

/-- Two meters on one phase at 50 Hz differ in power and in frequency. -/
theorem meters_differ :
    MetersCopied (meterBank 1000 5000 0) ∧
      (meters (meterBank 1000 5000 0)).1 ≠ (meters (meterBank 1000 5000 0)).2 := by
  refine ⟨by unfold MetersCopied; decide, ?_⟩
  intro hequal
  have hpower := congrArg MeterData.rActivePower hequal
  revert hpower
  decide +kernel

end SolakonMonitor.RegisterMap
