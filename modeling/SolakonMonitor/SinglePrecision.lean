import SolakonMonitor.NumberValue

/-!
Numbers in single precision.
A number is rounded to 24 binary digits, halves to the even one; the exponent has no limits.
Rounding once is off by one part in sixteen million at most and leaves integers of 24 binary
digits as they are; a quotient of a converted number is rounded twice. What a stream prints of
a number so close to another one is that other one, if six digits are enough for it.
-/
namespace SolakonMonitor.SinglePrecision

open DecimalText Rounding NumberValue

/-- The exponent of the leading binary digit of a positive fraction. -/
def binaryExponent (n d : ℕ) : ℤ :=
  if d ≤ n then Nat.log 2 (n / d) else -(Nat.clog 2 ((d + n - 1) / n) : ℤ)

/-- The nearest number of 24 binary digits, halves to the even one. -/
def toFloat (q : ℚ) : ℚ :=
  let n := q.num.natAbs
  let x := binaryExponent n q.den
  let magnitude : ℚ :=
    if n = 0 then 0
    else if x ≤ 23 then roundHalfEven (n * 2 ^ (23 - x).toNat) q.den / 2 ^ (23 - x).toNat
    else roundHalfEven n (q.den * 2 ^ (x - 23).toNat) * 2 ^ (x - 23).toNat
  if q < 0 then -magnitude else magnitude

theorem toFloat_rounds {q : ℚ} (hq : q ≠ 0) :
    ∃ x : ℤ, 2 ^ x ≤ |q| ∧ |q| < 2 ^ (x + 1) ∧ Rounds (2 ^ (x - 23)) q (toFloat q) := by
  have hnum : 0 < q.num.natAbs := Int.natAbs_pos.mpr (Rat.num_ne_zero.mpr hq)
  obtain ⟨hlow, hhigh⟩ := exponent_spec (b := 2) (by norm_num) hnum q.den_pos
  rw [← binaryExponent, Nat.cast_ofNat] at hlow hhigh
  have hnear := nearestEven_scaled (b := 2) (by norm_num) q.num.natAbs q.den_pos 23
    (binaryExponent q.num.natAbs q.den)
  rw [← abs_eq_div] at hlow hhigh hnear
  generalize hx : binaryExponent q.num.natAbs q.den = x at hlow hhigh hnear
  refine ⟨x, hlow, hhigh, ?_⟩
  generalize hm : (if x ≤ 23 then roundHalfEven (q.num.natAbs * 2 ^ (23 - x).toNat) q.den
    else roundHalfEven q.num.natAbs (q.den * 2 ^ (x - 23).toNat)) = m at hnear
  have hvalue : toFloat q = if q < 0 then -(m * 2 ^ (x - 23) : ℚ) else m * 2 ^ (x - 23) := by
    simp only [toFloat, hx, if_neg hnum.ne']
    split at hm
    · rename_i hle
      rw [if_pos hle, hm, zpow_sub_of_le _ hle, div_eq_mul_inv]
    · rename_i hgt
      rw [if_neg hgt, hm, zpow_sub_of_ge _ (by omega)]
  rw [hvalue]
  exact rounds_of_abs ⟨m, by push_cast; rfl, by exact_mod_cast hnear⟩

theorem toFloat_zero : toFloat 0 = 0 := by
  decide +kernel

/-- Half a unit of the last binary digit is a part in 2 to the 24. -/
theorem toFloat_near (q : ℚ) : |toFloat q - q| ≤ |q| / 16777216 := by
  by_cases hq : q = 0
  · rw [hq, toFloat_zero]
    norm_num
  · obtain ⟨x, hlow, _, hrounds⟩ := toFloat_rounds hq
    have hunit : (0 : ℚ) < 2 ^ (x - 23) := zpow_pos (by norm_num) _
    have hsplit : (2 : ℚ) ^ (x - 23) = 2 ^ x / 8388608 := by
      rw [zpow_sub₀ (by norm_num)]
      norm_num
    have hnear := hrounds.abs_sub_le hunit
    rw [abs_sub_comm, hsplit] at hnear
    linarith

theorem toFloat_intCast {z : ℤ} (hz : |z| < 16777216) : toFloat z = z := by
  by_cases hzero : z = 0
  · rw [hzero, Int.cast_zero, toFloat_zero]
  · obtain ⟨x, hlow, _, hrounds⟩ := toFloat_rounds (Int.cast_ne_zero.mpr hzero)
    have hlt : (2 : ℚ) ^ x < 2 ^ (24 : ℤ) := by
      refine hlow.trans_lt ?_
      rw [← Int.cast_abs]
      exact_mod_cast hz
    have hx := (zpow_lt_zpow_iff_right₀ (by norm_num)).mp hlt
    have hmultiple : IsMultiple ((2 : ℚ) ^ (x - 23)) z := by
      refine ⟨z * 2 ^ (23 - x).toNat, ?_⟩
      rw [zpow_sub_of_le _ (by omega)]
      push_cast
      field_simp
    exact hrounds.unique (rounds_self (zpow_pos (by norm_num) _).ne' hmultiple)

/-- A number converted and divided in single precision, by its exact quotient. -/
def quotient (scale q : ℚ) : ℚ := toFloat (toFloat (q * scale) / toFloat scale)

/-- Two roundings are off by a part in eight million at most. -/
theorem quotient_near {scale : ℚ} (hscale : toFloat scale = scale) (hpos : 0 < scale) (q : ℚ) :
    |quotient scale q - q| ≤ |q| / 8000000 := by
  have hconverted : |toFloat (q * scale) / scale - q| ≤ |q| / 16777216 := by
    have hnear := toFloat_near (q * scale)
    have hback : toFloat (q * scale) / scale - q = (toFloat (q * scale) - q * scale) / scale := by
      field_simp
    rw [hback, abs_div, abs_of_pos hpos, div_le_iff₀ hpos]
    rw [abs_mul, abs_of_pos hpos] at hnear
    linarith
  rw [quotient, hscale]
  generalize toFloat (q * scale) / scale = a at hconverted
  have hrounded := toFloat_near a
  have hsize : |a| ≤ |a - q| + |q| := by
    have h := abs_add_le (a - q) q
    rwa [sub_add_cancel] at h
  have htriangle := abs_sub_le (toFloat a) a q
  have hq := abs_nonneg q
  linarith

/-- Printed to six digits, a number within four parts in ten million of another one comes to
this one, if six digits are enough for it. -/
theorem rounds_near {x : ℤ} {q f : ℚ} (hlow : 10 ^ x ≤ |f|) (hhigh : |f| < 10 ^ (x + 1))
    (hnear : |f - q| ≤ |q| / 4000000) (hdigits : Significant 6 q) :
    Rounds (10 ^ (x + 1 - (6 : ℕ))) f q := by
  obtain ⟨m, k, hm, rfl⟩ := hdigits
  have hk := ten_zpow_pos (K := ℚ) k
  have hx := ten_zpow_pos (K := ℚ) x
  have hsize : |(m : ℚ) * 10 ^ k| ≤ 999999 * 10 ^ k := by
    have hle : |(m : ℚ)| ≤ 999999 := by
      have hle : |m| ≤ 999999 := by
        have hlt : |m| < 1000000 := hm
        omega
      exact_mod_cast hle
    rw [abs_mul, abs_of_pos hk]
    exact mul_le_mul_of_nonneg_right hle hk.le
  have hupper := abs_sub_abs_le_abs_sub f (m * 10 ^ k)
  have hlower := abs_sub_abs_le_abs_sub ((m : ℚ) * 10 ^ k) f
  rw [abs_sub_comm] at hlower
  have hexp : x - 5 ≤ k := by
    by_contra hless
    have hunit : (10 : ℚ) ^ k ≤ 10 ^ (x - 6) := zpow_le_zpow_right₀ (by norm_num) (by omega)
    rw [zpow_sub₀ (by norm_num)] at hunit
    norm_num at hunit
    linarith
  have hunit : x + 1 - (6 : ℕ) = x - 5 := by
    push_cast
    ring
  have hsplit : (10 : ℚ) ^ (x - 5) = 10 ^ x / 100000 := by
    rw [zpow_sub₀ (by norm_num)]
    norm_num
  rw [hunit]
  refine rounds_of_abs_lt (ten_zpow_pos _) ((isMultiple_zpow hexp).trans ⟨m, rfl⟩) ?_
  rw [zpow_add₀ (by norm_num), zpow_one] at hhigh
  rw [hsplit]
  linarith

end SolakonMonitor.SinglePrecision
