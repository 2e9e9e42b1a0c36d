import Mathlib.Data.List.Basic
import Mathlib.Tactic.NormNum

/-!
Fixed-width words as bytes in network order, high byte first.
A word splits into two bytes and a double word into two words; joining the
parts gives the whole back, and the joined value is read as a number in the
usual positional way, unsigned or in two's complement.
-/
namespace SolakonMonitor.BigEndian

abbrev Bytes := List UInt8

def word (hi lo : UInt8) : UInt16 := (hi.toUInt16 <<< 8) ||| lo.toUInt16

def dword (hi lo : UInt16) : UInt32 := (hi.toUInt32 <<< 16) ||| lo.toUInt32

def hiByte (w : UInt16) : UInt8 := (w >>> 8).toUInt8

def loByte (w : UInt16) : UInt8 := w.toUInt8

/-- `htons`: the two bytes of a word as they lie in a packed struct. -/
def wordBytes (w : UInt16) : Bytes := [hiByte w, loByte w]

def wordsBytes (ws : List UInt16) : Bytes := ws.flatMap wordBytes

/-- The signed reading of an unsigned number below `2 ^ bits`. -/
def twosComplement (bits n : ℕ) : ℤ :=
  if 2 * n < 2 ^ bits then n else (n : ℤ) - 2 ^ bits

private theorem shift_or (a b k : ℕ) (hb : b < 2 ^ k) : a <<< k ||| b = 2 ^ k * a + b := by
  rw [Nat.shiftLeft_eq, Nat.mul_comm]
  exact (Nat.two_pow_add_eq_or_of_lt hb a).symm

theorem word_toNat (hi lo : UInt8) : (word hi lo).toNat = 256 * hi.toNat + lo.toNat := by
  have hhi := hi.toNat_lt
  have hlo := lo.toNat_lt
  have hshift : hi.toNat <<< 8 % 2 ^ 16 = hi.toNat <<< 8 := by
    rw [Nat.shiftLeft_eq]
    exact Nat.mod_eq_of_lt (by omega)
  simp only [word, UInt16.toNat_or, UInt16.toNat_shiftLeft, UInt8.toNat_toUInt16]
  change hi.toNat <<< 8 % 2 ^ 16 ||| lo.toNat = _
  rw [hshift, shift_or _ _ 8 (by omega)]
  norm_num

theorem dword_toNat (hi lo : UInt16) : (dword hi lo).toNat = 65536 * hi.toNat + lo.toNat := by
  have hhi := hi.toNat_lt
  have hlo := lo.toNat_lt
  have hshift : hi.toNat <<< 16 % 2 ^ 32 = hi.toNat <<< 16 := by
    rw [Nat.shiftLeft_eq]
    exact Nat.mod_eq_of_lt (by omega)
  simp only [dword, UInt32.toNat_or, UInt32.toNat_shiftLeft, UInt16.toNat_toUInt32]
  change hi.toNat <<< 16 % 2 ^ 32 ||| lo.toNat = _
  rw [hshift, shift_or _ _ 16 (by omega)]
  norm_num

theorem hiByte_toNat (w : UInt16) : (hiByte w).toNat = w.toNat / 256 := by
  have hw := w.toNat_lt
  simp only [hiByte, UInt16.toNat_toUInt8, UInt16.toNat_shiftRight]
  change w.toNat >>> 8 % 2 ^ 8 = _
  rw [Nat.shiftRight_eq_div_pow]
  omega

theorem loByte_toNat (w : UInt16) : (loByte w).toNat = w.toNat % 256 := by
  simp only [loByte, UInt16.toNat_toUInt8]

theorem word_hiByte_loByte (w : UInt16) : word (hiByte w) (loByte w) = w := by
  apply UInt16.toNat_inj.mp
  rw [word_toNat, hiByte_toNat, loByte_toNat]
  omega

theorem hiByte_word (hi lo : UInt8) : hiByte (word hi lo) = hi := by
  have hlo := lo.toNat_lt
  apply UInt8.toNat_inj.mp
  rw [hiByte_toNat, word_toNat]
  omega

theorem loByte_word (hi lo : UInt8) : loByte (word hi lo) = lo := by
  have hlo := lo.toNat_lt
  apply UInt8.toNat_inj.mp
  rw [loByte_toNat, word_toNat]
  omega

theorem toInt16_toInt (w : UInt16) : w.toInt16.toInt = twosComplement 16 w.toNat := by
  change w.toBitVec.toInt = _
  rw [BitVec.toInt_eq_toNat_cond]
  rfl

theorem toInt32_toInt (w : UInt32) : w.toInt32.toInt = twosComplement 32 w.toNat := by
  change w.toBitVec.toInt = _
  rw [BitVec.toInt_eq_toNat_cond]
  rfl

theorem wordsBytes_length (ws : List UInt16) : (wordsBytes ws).length = 2 * ws.length := by
  induction ws with
  | nil => rfl
  | cons w rest ih =>
    simp only [wordsBytes, List.flatMap_cons, List.length_append, List.length_cons] at ih ⊢
    simp only [wordBytes, List.length_cons, List.length_nil, ih]
    omega

theorem wordsBytes_getElem?_hi (ws : List UInt16) (i : ℕ) :
    (wordsBytes ws)[2 * i]? = ws[i]?.map hiByte := by
  induction ws generalizing i with
  | nil => rfl
  | cons w rest ih =>
    cases i with
    | zero => rfl
    | succ i =>
      have hi := ih i
      simpa only [wordsBytes, List.flatMap_cons, wordBytes, List.cons_append, List.nil_append,
        Nat.mul_succ, List.getElem?_cons_succ] using hi

theorem wordsBytes_getElem?_lo (ws : List UInt16) (i : ℕ) :
    (wordsBytes ws)[2 * i + 1]? = ws[i]?.map loByte := by
  induction ws generalizing i with
  | nil => rfl
  | cons w rest ih =>
    cases i with
    | zero => rfl
    | succ i =>
      have hi := ih i
      simpa only [wordsBytes, List.flatMap_cons, wordBytes, List.cons_append, List.nil_append,
        Nat.mul_succ, Nat.add_right_comm, List.getElem?_cons_succ] using hi

end SolakonMonitor.BigEndian
