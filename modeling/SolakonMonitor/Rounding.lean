import Mathlib.Algebra.Order.Field.Basic
import Mathlib.Algebra.Order.Ring.Int
import Mathlib.Algebra.Ring.Int.Parity
import Mathlib.Data.Int.Cast.Lemmas
import Mathlib.Algebra.Order.Ring.Cast
import Mathlib.Tactic.FieldSimp
import Mathlib.Tactic.Linarith
import Mathlib.Tactic.NormNum
import Mathlib.Tactic.Ring

/-!
Rounding to the multiples of a unit, halves to the even multiple.
The relation leaves open how the multiple is found. Rounding first to a coarse unit and
then to one it is a multiple of gives what the second rounding alone gives exactly when
that is a multiple of the coarse unit. The number of digits a result needs decides this
where the coarse unit keeps a fixed number of leading digits.
-/
namespace SolakonMonitor.Rounding

variable {K : Type*} [Field K]

def IsMultiple (u v : K) : Prop := ∃ k : ℤ, v = k * u

theorem IsMultiple.trans {u v w : K} (huv : IsMultiple u v) (hvw : IsMultiple v w) :
    IsMultiple u w := by
  obtain ⟨k, rfl⟩ := huv
  obtain ⟨l, rfl⟩ := hvw
  exact ⟨l * k, by push_cast; ring⟩

variable [LinearOrder K]

/-- An integer nearest to `r`, the even one of two. -/
def NearestEven (r : K) (k : ℤ) : Prop := |r - k| ≤ 1 / 2 ∧ (|r - k| = 1 / 2 → Even k)

/-- `v` is `q` rounded to a multiple of `u`. -/
def Rounds (u q v : K) : Prop := ∃ k : ℤ, v = k * u ∧ NearestEven (q / u) k

theorem nearestEven_of_abs_lt {r : K} {k : ℤ} (h : |r - k| < 1 / 2) : NearestEven r k :=
  ⟨h.le, fun hhalf => absurd hhalf h.ne⟩

theorem NearestEven.neg {r : K} {k : ℤ} (h : NearestEven r k) : NearestEven (-r) (-k) := by
  have hsame : |-r - ((-k : ℤ) : K)| = |r - k| := by
    rw [← abs_neg, Int.cast_neg]
    ring_nf
  rw [NearestEven, hsame, even_neg]
  exact h

theorem Rounds.neg {u q v : K} (h : Rounds u q v) : Rounds u (-q) (-v) := by
  obtain ⟨k, rfl, hk⟩ := h
  refine ⟨-k, by push_cast; ring, ?_⟩
  rw [neg_div]
  exact hk.neg

theorem Rounds.isMultiple {u q v : K} (h : Rounds u q v) : IsMultiple u v := by
  obtain ⟨k, hv, _⟩ := h
  exact ⟨k, hv⟩

variable [IsStrictOrderedRing K]

theorem NearestEven.unique {r : K} {k l : ℤ} (hk : NearestEven r k) (hl : NearestEven r l) :
    k = l := by
  by_contra hne
  have hgap : (1 : K) ≤ |(k : K) - l| := by
    have hpos : 1 ≤ |k - l| := Int.one_le_abs (sub_ne_zero.mpr hne)
    exact_mod_cast hpos
  have htriangle : |(k : K) - l| ≤ |r - k| + |r - l| := by
    have h := abs_sub_le (k : K) r l
    rwa [abs_sub_comm (k : K) r] at h
  -- both are halfway, so they are neighbours and both even
  have hkhalf : |r - k| = 1 / 2 := le_antisymm hk.1 (by linarith [hl.1])
  have hlhalf : |r - l| = 1 / 2 := le_antisymm hl.1 (by linarith [hk.1])
  have hone : |k - l| = 1 := by
    have h : |(k : K) - l| = 1 := le_antisymm (by linarith) hgap
    exact_mod_cast h
  have heven : Even |k - l| := even_abs.mpr ((hk.2 hkhalf).sub (hl.2 hlhalf))
  rw [hone] at heven
  exact Int.not_even_one heven

theorem nearestEven_intCast (k : ℤ) : NearestEven (k : K) k := by
  apply nearestEven_of_abs_lt
  rw [sub_self, abs_zero]
  norm_num

theorem NearestEven.le_of_le {r : K} {k j : ℤ} (h : NearestEven r k) (hr : r ≤ j) : k ≤ j := by
  have hlow := (abs_le.mp h.1).1
  have hlt : (k : K) < (j + 1 : ℤ) := by
    push_cast
    linarith
  exact Int.lt_add_one_iff.mp (by exact_mod_cast hlt)

theorem NearestEven.abs_le_of_abs_le {r : K} {k j : ℤ} (h : NearestEven r k) (hr : |r| ≤ j) :
    |k| ≤ j := by
  rw [abs_le] at hr
  have hneg : -k ≤ j := h.neg.le_of_le (by linarith)
  exact abs_le.mpr ⟨by linarith, h.le_of_le hr.2⟩

theorem NearestEven.le_abs_of_le_abs {r : K} {k j : ℤ} (h : NearestEven r k) (hr : (j : K) ≤ |r|) :
    j ≤ |k| := by
  rcases abs_cases r with ⟨habs, _⟩ | ⟨habs, _⟩
  · have hneg : -k ≤ -j := h.neg.le_of_le (by push_cast; linarith)
    exact le_trans (by linarith) (le_abs_self k)
  · have hpos : k ≤ -j := h.le_of_le (by push_cast; linarith)
    exact le_trans (by linarith) (neg_le_abs k)

theorem Rounds.unique {u q v t : K} (hv : Rounds u q v) (ht : Rounds u q t) : v = t := by
  obtain ⟨k, rfl, hk⟩ := hv
  obtain ⟨l, rfl, hl⟩ := ht
  rw [hk.unique hl]

/-- A multiple is rounded to itself. -/
theorem rounds_self {u q : K} (hu : u ≠ 0) (h : IsMultiple u q) : Rounds u q q := by
  obtain ⟨k, rfl⟩ := h
  refine ⟨k, rfl, ?_⟩
  rw [mul_div_cancel_right₀ _ hu]
  exact nearestEven_intCast k

theorem abs_div_sub {u : K} (hu : 0 < u) (q : K) (k : ℤ) : |q / u - k| = |q - k * u| / u := by
  rw [← abs_of_pos hu, ← abs_div, abs_of_pos hu, sub_div, mul_div_cancel_right₀ _ hu.ne']

theorem Rounds.abs_sub_le {u q v : K} (hu : 0 < u) (h : Rounds u q v) : |q - v| ≤ u / 2 := by
  obtain ⟨k, rfl, hk⟩ := h
  have hnear := hk.1
  rw [abs_div_sub hu, div_le_iff₀ hu] at hnear
  linarith

theorem rounds_of_abs_lt {u q v : K} (hu : 0 < u) (hmultiple : IsMultiple u v)
    (h : |q - v| < u / 2) : Rounds u q v := by
  obtain ⟨k, rfl⟩ := hmultiple
  refine ⟨k, rfl, nearestEven_of_abs_lt ?_⟩
  rw [abs_div_sub hu, div_lt_iff₀ hu]
  linarith

theorem Rounds.abs_le {u q v b : K} (hu : 0 < u) (h : Rounds u q v) (hb : IsMultiple u b)
    (hq : |q| ≤ b) : |v| ≤ b := by
  obtain ⟨k, rfl, hk⟩ := h
  obtain ⟨j, rfl⟩ := hb
  have hj : |k| ≤ j := by
    apply hk.abs_le_of_abs_le
    rwa [abs_div, abs_of_pos hu, div_le_iff₀ hu]
  rw [abs_mul, abs_of_pos hu]
  have hcast : |(k : K)| ≤ j := by exact_mod_cast hj
  exact mul_le_mul_of_nonneg_right hcast hu.le

theorem Rounds.le_abs {u q v b : K} (hu : 0 < u) (h : Rounds u q v) (hb : IsMultiple u b)
    (hq : b ≤ |q|) : b ≤ |v| := by
  obtain ⟨k, rfl, hk⟩ := h
  obtain ⟨j, rfl⟩ := hb
  have hj : j ≤ |k| := by
    apply hk.le_abs_of_le_abs
    rwa [abs_div, abs_of_pos hu, le_div_iff₀ hu]
  rw [abs_mul, abs_of_pos hu]
  have hcast : (j : K) ≤ |(k : K)| := by exact_mod_cast hj
  exact mul_le_mul_of_nonneg_right hcast hu.le

/-- Rounding to a coarse unit first does no harm exactly when the result is one of its
multiples. -/
theorem rounds_twice_iff {u w q v t : K} (hu : 0 < u) (hw : 0 < w) (huw : IsMultiple w u)
    (hv : Rounds u q v) (ht : Rounds w q t) : Rounds w v t ↔ IsMultiple u t := by
  have hself : Rounds w v v := rounds_self hw.ne' (huw.trans hv.isMultiple)
  constructor
  · intro h
    rw [← hself.unique h]
    exact hv.isMultiple
  · intro hmultiple
    obtain ⟨c, hc⟩ := huw
    have hcpos : (0 : K) < c := by
      by_contra hle
      have := mul_nonpos_of_nonpos_of_nonneg (not_lt.mp hle) hw.le
      linarith
    have hcone : 1 ≤ c := by exact_mod_cast hcpos
    suffices hvt : v = t by
      rw [← hvt]
      exact hself
    rcases hcone.eq_or_lt with hone | htwo
    · rw [hc, ← hone, Int.cast_one, one_mul] at hv
      exact hv.unique ht
    · have htwo' : (2 : K) ≤ c := by exact_mod_cast htwo
      have hclose : |q - t| < u / 2 := by
        have h := ht.abs_sub_le hw
        nlinarith
      exact hv.unique (rounds_of_abs_lt hu hmultiple hclose)

/-- An integer of at most `d` digits times a power of ten. -/
def Significant (d : ℕ) (t : K) : Prop := ∃ m k : ℤ, |m| < 10 ^ d ∧ t = m * 10 ^ k

theorem isMultiple_zpow {j k : ℤ} (h : j ≤ k) : IsMultiple ((10 : K) ^ j) (10 ^ k) := by
  refine ⟨10 ^ (k - j).toNat, ?_⟩
  push_cast
  rw [← zpow_natCast, Int.toNat_of_nonneg (by omega), ← zpow_add₀ (by norm_num)]
  congr 1
  omega

/-- One more than the largest number of `d` digits still has a single one. -/
theorem significant_of_abs_le {d : ℕ} (hd : 1 ≤ d) {m : ℤ} (hm : |m| ≤ 10 ^ d) (k : ℤ) :
    Significant d ((m : K) * 10 ^ k) := by
  rcases hm.lt_or_eq with hlt | heq
  · exact ⟨m, k, hlt, rfl⟩
  · obtain ⟨e, rfl⟩ : ∃ e, d = e + 1 := ⟨d - 1, by omega⟩
    have hten : (10 : K) ^ k * 10 = 10 ^ (k + 1) := by
      rw [zpow_add₀ (by norm_num), zpow_one]
    have hlarge : (10 : ℤ) ^ e < 10 ^ (e + 1) := pow_lt_pow_right₀ (by norm_num) (by omega)
    rcases eq_or_eq_neg_of_abs_eq heq with rfl | rfl
    · refine ⟨10 ^ e, k + 1, by rwa [abs_of_nonneg (by positivity)], ?_⟩
      rw [← hten]
      push_cast
      ring
    · refine ⟨-10 ^ e, k + 1, by rwa [abs_neg, abs_of_nonneg (by positivity)], ?_⟩
      rw [← hten]
      push_cast
      ring

theorem ten_zpow_pos (k : ℤ) : (0 : K) < 10 ^ k := zpow_pos (by norm_num) k

theorem significant_of_isMultiple {d : ℕ} (hd : 1 ≤ d) {x : ℤ} {t : K}
    (hmultiple : IsMultiple (10 ^ (x + 1 - d)) t) (ht : |t| ≤ 10 ^ (x + 1)) :
    Significant d t := by
  obtain ⟨m, rfl⟩ := hmultiple
  apply significant_of_abs_le hd
  have hsplit : (10 : K) ^ (x + 1) = 10 ^ (d : ℤ) * 10 ^ (x + 1 - d) := by
    rw [← zpow_add₀ (by norm_num)]
    congr 1
    omega
  have hunit := ten_zpow_pos (K := K) (x + 1 - d)
  rw [abs_mul, abs_of_pos hunit, hsplit] at ht
  have hle := le_of_mul_le_mul_right ht hunit
  rw [zpow_natCast] at hle
  exact_mod_cast hle

/-- Between two powers of ten the digits decide the unit. -/
theorem significant_iff_isMultiple {d : ℕ} (hd : 1 ≤ d) {x : ℤ} {t : K} (hlow : 10 ^ x ≤ |t|)
    (hhigh : |t| ≤ 10 ^ (x + 1)) : Significant d t ↔ IsMultiple (10 ^ (x + 1 - d)) t := by
  refine ⟨?_, fun h => significant_of_isMultiple hd h hhigh⟩
  rintro ⟨m, k, hm, rfl⟩
  have hcast : |(m : K)| < 10 ^ (d : ℤ) := by
    rw [zpow_natCast]
    exact_mod_cast hm
  have hlt : (10 : K) ^ x < 10 ^ (d + k) := by
    have hk := ten_zpow_pos (K := K) k
    rw [abs_mul, abs_of_pos hk] at hlow
    rw [zpow_add₀ (by norm_num)]
    exact lt_of_le_of_lt hlow (mul_lt_mul_of_pos_right hcast hk)
  have hexp := (zpow_lt_zpow_iff_right₀ (by norm_num)).mp hlt
  exact (isMultiple_zpow (by omega)).trans ⟨m, rfl⟩

/-- Keeping the `d` leading digits before rounding to a power of ten does no harm exactly
when the result has no more digits; it never does where the number has few decimals. -/
theorem rounds_digits_iff {d : ℕ} (hd : 1 ≤ d) {x e n : ℤ} {q v t : K} (hlow : 10 ^ x ≤ |q|)
    (hhigh : |q| < 10 ^ (x + 1)) (hq : IsMultiple (10 ^ e) q) (he : n - 1 ≤ e)
    (hv : Rounds (10 ^ (x + 1 - d)) q v) (ht : Rounds (10 ^ n) q t) :
    Rounds (10 ^ n) v t ↔ Significant d t := by
  have hn := ten_zpow_pos (K := K) n
  rcases le_or_gt n (x + 1 - d) with hcoarse | hfine
  · have htlow : 10 ^ x ≤ |t| := ht.le_abs hn (isMultiple_zpow (by omega)) hlow
    have hthigh : |t| ≤ 10 ^ (x + 1) := ht.abs_le hn (isMultiple_zpow (by omega)) hhigh.le
    rw [significant_iff_isMultiple hd htlow hthigh]
    exact rounds_twice_iff (ten_zpow_pos _) hn (isMultiple_zpow hcoarse) hv ht
  · have hexact : v = q :=
      hv.unique (rounds_self (ten_zpow_pos _).ne' ((isMultiple_zpow (by omega)).trans hq))
    rw [hexact]
    refine iff_of_true ht ?_
    rcases le_or_gt n (x + 1) with hwithin | hbelow
    · exact significant_of_isMultiple hd ((isMultiple_zpow hfine.le).trans ht.isMultiple)
        (ht.abs_le hn (isMultiple_zpow hwithin) hhigh.le)
    · -- all of the number is below the unit, so it is rounded to one unit at most
      have hsmall : |q| ≤ 10 ^ n :=
        hhigh.le.trans (zpow_le_zpow_right₀ (by norm_num) hbelow.le)
      have hthigh : |t| ≤ 10 ^ n := ht.abs_le hn ⟨1, by simp⟩ hsmall
      obtain ⟨m, rfl⟩ := ht.isMultiple
      apply significant_of_abs_le hd
      rw [abs_mul, abs_of_pos hn] at hthigh
      have hle : |(m : K)| ≤ 1 := le_of_mul_le_mul_right (by rwa [one_mul]) hn
      have hone : |m| ≤ 1 := by exact_mod_cast hle
      exact hone.trans (one_le_pow₀ (by norm_num))

theorem significant_shift_iff {d : ℕ} {t : K} (j : ℤ) :
    Significant d (t * 10 ^ j) ↔ Significant d t := by
  constructor
  · rintro ⟨m, k, hm, ht⟩
    refine ⟨m, k - j, hm, ?_⟩
    rw [zpow_sub₀ (by norm_num), ← mul_div_assoc, ← ht,
      mul_div_cancel_right₀ _ (ten_zpow_pos j).ne']
  · rintro ⟨m, k, hm, rfl⟩
    exact ⟨m, k + j, hm, by rw [zpow_add₀ (by norm_num), mul_assoc]⟩

/-- An integer with more places than digits ends in two zeros. -/
theorem hundred_dvd_of_significant {d : ℕ} {y : ℤ} (h : Significant d (y : K)) :
    100 ∣ y ∨ |y| < 10 ^ (d + 1) := by
  obtain ⟨m, k, hm, hy⟩ := h
  rcases le_or_gt 2 k with htwo | hone
  · obtain ⟨c, hc⟩ := isMultiple_zpow (K := K) htwo
    rw [hc] at hy
    refine Or.inl ⟨m * c, ?_⟩
    have hcast : (y : K) = (100 * (m * c) : ℤ) := by
      rw [hy]
      push_cast
      norm_num
      ring
    exact_mod_cast hcast
  · refine Or.inr ?_
    have hk := ten_zpow_pos (K := K) k
    have hle : (10 : K) ^ k ≤ 10 ^ (1 : ℤ) := zpow_le_zpow_right₀ (by norm_num) (by omega)
    have hm' : |(m : K)| < 10 ^ d := by exact_mod_cast hm
    have hcast : |(y : K)| < 10 ^ (d + 1) := by
      rw [hy, abs_mul, abs_of_pos hk, pow_succ]
      rw [zpow_one] at hle
      exact mul_lt_mul hm' hle hk (by positivity)
    exact_mod_cast hcast

/-- The tenth of an integer is rounded to an integer of at most `d` digits exactly when the
integer lies within five of one. -/
theorem significant_tenth_iff {d : ℕ} (hd : 1 ≤ d) {z k : ℤ} (hk : NearestEven ((z : K) / 10) k) :
    Significant d (k : K) ↔ ∃ y : ℤ, Significant d (y : K) ∧ |z - y| ≤ 5 := by
  have htenth : ∀ c : ℤ, |(z : K) / 10 - c| ≤ 1 / 2 ↔ |z - 10 * c| ≤ 5 := by
    intro c
    rw [abs_div_sub (by norm_num), div_le_iff₀ (by norm_num), ← Int.cast_le (R := K)]
    push_cast
    rw [mul_comm (c : K)]
    norm_num
  constructor
  · intro h
    refine ⟨10 * k, ?_, (htenth k).mp hk.1⟩
    rw [← significant_shift_iff 1] at h
    push_cast
    rwa [zpow_one, mul_comm] at h
  · rintro ⟨y, hy, hnear⟩
    rcases hundred_dvd_of_significant hy with ⟨c, rfl⟩ | hsmall
    · -- the tenth of the near integer is even, so a tie goes to it
      have hten : NearestEven ((z : K) / 10) (10 * c) := by
        refine ⟨(htenth (10 * c)).mpr ?_, fun _ => ⟨5 * c, by ring⟩⟩
        rwa [show 10 * (10 * c) = 100 * c by ring]
      rw [hk.unique hten, ← significant_shift_iff 1, zpow_one]
      push_cast at hy ⊢
      rwa [mul_right_comm, show (10 : K) * 10 = 100 by norm_num]
    · have hz : |z| ≤ 10 ^ (d + 1) + 4 := by
        have h := abs_sub_abs_le_abs_sub z y
        omega
      have hbound : |(z : K) / 10| ≤ 10 ^ d + 4 / 10 := by
        have hcast : |(z : K)| ≤ 10 ^ (d + 1) + 4 := by exact_mod_cast hz
        rw [abs_div, abs_of_pos (by norm_num : (0 : K) < 10), div_le_iff₀ (by norm_num)]
        rw [pow_succ] at hcast
        linarith
      have hclose : |(k : K)| < 10 ^ d + 1 := by
        have h := abs_sub_abs_le_abs_sub (k : K) (z / 10)
        rw [abs_sub_comm] at h
        linarith [hk.1]
      have hle : |k| < 10 ^ d + 1 := by exact_mod_cast hclose
      have h := significant_of_abs_le (K := K) hd (Int.lt_add_one_iff.mp hle) 0
      rwa [zpow_zero, mul_one] at h

end SolakonMonitor.Rounding
