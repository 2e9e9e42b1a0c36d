import SolakonMonitor.BigEndian
import SolakonMonitor.ShiftRegister

/-!
The checksum of Modbus frames.
The byte loop is a shift register of sixteen places that starts full: a byte is added to
its low half and shifted through, which is the same as adding its bits one after another.
The difference of two checksums is what the difference of the messages leaves in an
empty register.
-/
namespace SolakonMonitor.ModbusCrc

open BigEndian ShiftRegister

def crcShift (crc : UInt16) : UInt16 :=
  if crc &&& 0x0001 ≠ 0 then (crc >>> 1) ^^^ 0xA001 else crc >>> 1

/-- One pass of the loop over the bytes, with its eight shifts. -/
def crcByte (crc : UInt16) (b : UInt8) : UInt16 := crcShift^[8] (crc ^^^ b.toUInt16)

def modbusCrc16 (data : Bytes) : UInt16 := data.foldl crcByte 0xFFFF

example : modbusCrc16 [0x01, 0x03, 0x00, 0x00, 0x00, 0x01] = 0x0A84 := by decide +kernel

/-- The bits of a message as they are sent, the lowest of each byte first. -/
def messageBits (data : Bytes) : List Bool :=
  data.flatMap (fun b => (List.range 8).map (fun i => b.toBitVec.getLsbD i))

/-- Where two messages differ. -/
def errorPattern (m m' : Bytes) : List Bool := List.zipWith xor (messageBits m) (messageBits m')

def taps : BitVec 16 := 0xA001#16

theorem low_bit (crc : UInt16) : crc &&& 0x0001 ≠ 0 ↔ crc.toBitVec.getLsbD 0 = true := by
  have hlow : crc.toBitVec.getLsbD 0 = decide (crc.toNat % 2 = 1) := Nat.testBit_zero _
  have hand : (crc &&& 0x0001).toNat = crc.toNat % 2 := by
    rw [UInt16.toNat_and]
    exact Nat.and_one_is_mod _
  rw [hlow, decide_eq_true_eq, Ne, ← UInt16.toNat_inj, hand]
  change ¬ crc.toNat % 2 = 0 ↔ _
  omega

theorem crcShift_toBitVec (crc : UInt16) : (crcShift crc).toBitVec = shift taps crc.toBitVec := by
  rw [crcShift, shift]
  by_cases hlow : crc &&& 0x0001 ≠ 0
  · rw [if_pos hlow, if_pos ((low_bit crc).mp hlow), UInt16.toBitVec_xor,
      UInt16.toBitVec_shiftRight]
    rfl
  · rw [if_neg hlow, if_neg (fun h => hlow ((low_bit crc).mpr h)), UInt16.toBitVec_shiftRight]
    rfl

theorem crcShifts_toBitVec (n : ℕ) (crc : UInt16) :
    (crcShift^[n] crc).toBitVec = (shift taps)^[n] crc.toBitVec := by
  induction n generalizing crc with
  | zero => rfl
  | succ n ih =>
    rw [Function.iterate_succ_apply, Function.iterate_succ_apply, ih, crcShift_toBitVec]

theorem length_messageBits (data : Bytes) : (messageBits data).length = 8 * data.length := by
  induction data with
  | nil => rfl
  | cons b rest ih =>
    rw [messageBits, List.flatMap_cons, List.length_append, List.length_map, List.length_range,
      List.length_cons]
    rw [messageBits] at ih
    omega

theorem messageBits_append (m m' : Bytes) :
    messageBits (m ++ m') = messageBits m ++ messageBits m' :=
  List.flatMap_append

theorem messageBits_getElem? (data : Bytes) {k i : ℕ} (hi : i < 8) :
    (messageBits data)[8 * k + i]? = data[k]?.map (fun b => b.toBitVec.getLsbD i) := by
  induction data generalizing k with
  | nil => rfl
  | cons b rest ih =>
    rw [messageBits, List.flatMap_cons]
    cases k with
    | zero =>
      rw [List.getElem?_append_left (by simpa using hi), List.getElem?_map,
        List.getElem?_range (by omega)]
      simp
    | succ k =>
      rw [List.getElem?_append_right (by simp; omega), List.length_map, List.length_range,
        show 8 * (k + 1) + i - 8 = 8 * k + i by omega]
      exact ih

theorem holding_byteBits (b : UInt8) : holding 16 (messageBits [b]) = b.toUInt16.toBitVec := by
  apply BitVec.eq_of_getLsbD_eq
  intro i hi
  have hbyte : b.toUInt16.toBitVec.getLsbD i = b.toBitVec.getLsbD i := by
    rw [UInt8.toBitVec_toUInt16, BitVec.getLsbD_setWidth]
    simp [hi]
  rw [getLsbD_holding, List.getD_eq_getElem?_getD, hbyte]
  by_cases hlt : i < 8
  · have hbit := messageBits_getElem? [b] (k := 0) hlt
    rw [Nat.mul_zero, Nat.zero_add] at hbit
    rw [hbit]
    simp [hi]
  · rw [List.getElem?_eq_none (by rw [length_messageBits]; simp; omega),
      BitVec.getLsbD_of_ge _ _ (by omega), Option.getD_none, Bool.and_false]

theorem crcByte_toBitVec (crc : UInt16) (b : UInt8) :
    (crcByte crc b).toBitVec = run taps crc.toBitVec (messageBits [b]) := by
  rw [crcByte, crcShifts_toBitVec, UInt16.toBitVec_xor,
    run_eq_shifts _ _ (length_messageBits [b] ▸ Nat.le_add_left 8 8), length_messageBits,
    holding_byteBits]
  rfl

theorem foldl_toBitVec (data : Bytes) (crc : UInt16) :
    (data.foldl crcByte crc).toBitVec = run taps crc.toBitVec (messageBits data) := by
  induction data generalizing crc with
  | nil => rfl
  | cons b rest ih =>
    rw [List.foldl_cons, ih, crcByte_toBitVec, ← run_append, ← messageBits_append]
    rfl

theorem modbusCrc16_toBitVec (data : Bytes) :
    (modbusCrc16 data).toBitVec = run taps 0xFFFF#16 (messageBits data) :=
  foldl_toBitVec data 0xFFFF

theorem taps_top : taps.getLsbD (16 - 1) = true := by decide

theorem taps_odd : parity taps = 1 := by decide

theorem errorPattern_eq {m m' : Bytes} (hlength : m.length = m'.length)
    (h : modbusCrc16 m = modbusCrc16 m') : run taps 0#16 (errorPattern m m') = 0#16 := by
  have hbits : (messageBits m).length = (messageBits m').length := by
    rw [length_messageBits, length_messageBits, hlength]
  have hlinear := run_xor taps hbits 0xFFFF#16 0xFFFF#16
  rw [BitVec.xor_self, ← modbusCrc16_toBitVec, ← modbusCrc16_toBitVec, h,
    BitVec.xor_self] at hlinear
  exact hlinear

theorem true_mem_errorPattern {m m' : Bytes} (hlength : m.length = m'.length) (hne : m ≠ m') :
    true ∈ errorPattern m m' := by
  by_contra hnone
  apply hne
  apply List.ext_getElem hlength
  intro k hk hk'
  rw [← UInt8.toBitVec_inj]
  apply BitVec.eq_of_getLsbD_eq
  intro i hi
  by_contra hbit
  have hat : (errorPattern m m')[8 * k + i]? = some true := by
    rw [errorPattern, List.getElem?_zipWith, messageBits_getElem? m hi, messageBits_getElem? m' hi,
      List.getElem?_eq_getElem hk, List.getElem?_eq_getElem hk']
    simpa using hbit
  exact hnone (List.mem_of_getElem? hat)

/-- Two messages that differ in a burst of at most sixteen bits, or in an odd number of
bits, have different checksums. -/
theorem modbusCrc16_detects (m m' : Bytes) (hlength : m.length = m'.length) (hne : m ≠ m')
    (herror : WithinWindow 16 (errorPattern m m') ∨ Odd ((errorPattern m m').count true)) :
    modbusCrc16 m ≠ modbusCrc16 m' := by
  intro hsame
  have hzero := errorPattern_eq hlength hsame
  rcases herror with hburst | hodd
  · exact run_ne_zero_of_withinWindow taps_top (true_mem_errorPattern hlength hne) hburst hzero
  · exact run_ne_zero_of_odd taps_odd hodd hzero

theorem modbusCrc16_detects_flip : modbusCrc16 [1, 2, 3] ≠ modbusCrc16 [1, 2, 4] :=
  modbusCrc16_detects [1, 2, 3] [1, 2, 4] rfl (by decide) (Or.inr (by decide))

theorem holding_twoBytes (x y : UInt8) :
    holding 16 (messageBits [x, y]) = (word y x).toBitVec := by
  apply BitVec.eq_of_getLsbD_eq
  intro i hi
  have hvalue : (word y x).toBitVec.getLsbD i =
      if i < 8 then x.toBitVec.getLsbD i else y.toBitVec.getLsbD (i - 8) := by
    have hnumber := word_toNat y x
    change (word y x).toNat = 2 ^ 8 * y.toNat + x.toNat at hnumber
    change (word y x).toNat.testBit i = _
    rw [hnumber, Nat.testBit_two_pow_mul_add _ x.toNat_lt]
    rfl
  rw [getLsbD_holding, List.getD_eq_getElem?_getD, hvalue]
  by_cases hlt : i < 8
  · have hbit := messageBits_getElem? [x, y] (k := 0) hlt
    rw [Nat.mul_zero, Nat.zero_add] at hbit
    rw [hbit, if_pos hlt]
    simp [hi]
  · have hbit := messageBits_getElem? [x, y] (k := 1) (i := i - 8) (by omega)
    rw [Nat.mul_one, Nat.add_sub_cancel' (Nat.not_lt.mp hlt)] at hbit
    rw [hbit, if_neg hlt]
    simp [hi]

/-- A message with two more bytes checks out exactly when they are its checksum, the low
byte first. -/
theorem modbusCrc16_append_eq_zero_iff (m : Bytes) (x y : UInt8) :
    modbusCrc16 (m ++ [x, y]) = 0 ↔
      x = loByte (modbusCrc16 m) ∧ y = hiByte (modbusCrc16 m) := by
  have hshort : (messageBits [x, y]).length ≤ 16 := Nat.le_of_eq (length_messageBits [x, y])
  have hcheck : modbusCrc16 (m ++ [x, y]) = 0 ↔ modbusCrc16 m = word y x := by
    rw [← UInt16.toBitVec_inj, ← UInt16.toBitVec_inj, ← holding_twoBytes,
      ← run_eq_zero_iff taps_top _ hshort, modbusCrc16, List.foldl_append, foldl_toBitVec]
    rfl
  rw [hcheck]
  constructor
  · intro h
    rw [h, loByte_word, hiByte_word]
    exact ⟨rfl, rfl⟩
  · rintro ⟨hx, hy⟩
    rw [hx, hy, word_hiByte_loByte]

end SolakonMonitor.ModbusCrc
