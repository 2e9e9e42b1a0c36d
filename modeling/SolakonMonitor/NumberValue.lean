import SolakonMonitor.JsonText
import SolakonMonitor.Rounding
import Mathlib.Algebra.Order.Field.Rat
import Mathlib.Data.Rat.Lemmas

/-!
What a number in a text is worth.
A text of digits, perhaps with a fraction and an exponent, has a rational value and a
number of decimals. What a stream prints by default is the number rounded to its six
leading digits, what is printed with fixed decimals is the number rounded to them.
-/
namespace SolakonMonitor.NumberValue

open BigEndian DecimalText JsonText Rounding

def fractionDigits (s : Bytes) : Bytes :=
  match s.dropWhile isDigit with
  | 46 :: rest => rest.takeWhile isDigit
  | _ => []

/-- The integer after the letter e, zero without one. -/
def exponent (s : Bytes) : ℤ :=
  match s.dropWhile (fun b => b ≠ 101 && b ≠ 69) with
  | _ :: rest => (strtol rest).getD 0
  | [] => 0

def pointValue (ds fs : Bytes) : ℚ := digitsValue (ds ++ fs) / 10 ^ fs.length

def unsignedValue (s : Bytes) : ℚ :=
  pointValue (s.takeWhile isDigit) (fractionDigits s) * 10 ^ exponent s

def numberValue : Bytes → ℚ
  | 45 :: s => -unsignedValue s
  | s => unsignedValue s

/-- How many digits follow the point. -/
def decimals : Bytes → ℕ
  | 45 :: s => (fractionDigits s).length
  | s => (fractionDigits s).length

example : numberValue (utf8 "-1.50e+03") = -1500 := by decide +kernel

theorem roundHalfEven_spec (n : ℕ) {d : ℕ} (hd : 0 < d) :
    NearestEven ((n : ℚ) / d) (roundHalfEven n d : ℕ) := by
  have hd' : (0 : ℚ) < d := by exact_mod_cast hd
  have hsplit : (n : ℚ) = d * (n / d : ℕ) + (n % d : ℕ) := by
    exact_mod_cast (Nat.div_add_mod n d).symm
  have hquotient : (n : ℚ) / d = (n / d : ℕ) + (n % d : ℕ) / d := by
    rw [hsplit, add_div, mul_div_cancel_left₀ _ hd'.ne']
  have hlt : n % d < d := Nat.mod_lt n hd
  rw [roundHalfEven, NearestEven, hquotient]
  generalize n / d = k
  generalize n % d = r at hlt
  have hlt' : (r : ℚ) < d := by exact_mod_cast hlt
  have htie : 2 * (r : ℚ) = d → 2 * r = d := fun h => by exact_mod_cast h
  split
  · rename_i hdown
    have hdist : |(k : ℚ) + r / d - (k : ℤ)| = r / d := by
      rw [Int.cast_natCast, add_sub_cancel_left, abs_of_nonneg (by positivity)]
    have hle : 2 * (r : ℚ) ≤ d := by
      have h : 2 * r ≤ d := by omega
      exact_mod_cast h
    rw [hdist, div_le_iff₀ hd', div_eq_iff hd'.ne', Int.even_coe_nat]
    refine ⟨by linarith, fun hhalf => ?_⟩
    have hhalf' := htie (by linarith)
    exact Nat.even_iff.mpr (by omega)
  · rename_i hup
    have hdist : |(k : ℚ) + r / d - ((k + 1 : ℕ) : ℤ)| = (d - r) / d := by
      have hrest : (k : ℚ) + r / d - ((k + 1 : ℕ) : ℤ) = -((d - r) / d) := by
        push_cast
        field_simp
        ring
      rw [hrest, abs_neg, abs_of_nonneg (div_nonneg (by linarith) hd'.le)]
    have hge : (d : ℚ) ≤ 2 * r := by
      have h : d ≤ 2 * r := by omega
      exact_mod_cast h
    rw [hdist, div_le_iff₀ hd', div_eq_iff hd'.ne', Int.even_coe_nat]
    refine ⟨by linarith, fun hhalf => ?_⟩
    have hhalf' := htie (by linarith)
    exact Nat.even_iff.mpr (by omega)

/-- The exponent of the power of a base at or below a positive fraction. -/
theorem exponent_spec {b n d : ℕ} (hb : 1 < b) (hn : 0 < n) (hd : 0 < d) :
    let x : ℤ := if d ≤ n then Nat.log b (n / d) else -(Nat.clog b ((d + n - 1) / n) : ℤ)
    (b : ℚ) ^ x ≤ n / d ∧ (n : ℚ) / d < b ^ (x + 1) := by
  intro x
  have hn' : (0 : ℚ) < n := by exact_mod_cast hn
  have hd' : (0 : ℚ) < d := by exact_mod_cast hd
  have hb' : (0 : ℚ) < b := by exact_mod_cast hb.le
  by_cases hle : d ≤ n
  · have hx : x = Nat.log b (n / d) := if_pos hle
    have hne : n / d ≠ 0 := (Nat.div_pos hle hd).ne'
    have hlow := Nat.pow_log_le_self b hne
    have hhigh := Nat.lt_pow_succ_log_self hb (n / d)
    rw [Nat.le_div_iff_mul_le hd] at hlow
    rw [Nat.div_lt_iff_lt_mul hd] at hhigh
    rw [hx, le_div_iff₀ hd', div_lt_iff₀ hd']
    exact ⟨by exact_mod_cast hlow, by exact_mod_cast hhigh⟩
  · have hx : x = -(Nat.clog b ((d + n - 1) / n) : ℤ) := if_neg hle
    generalize hc : (d + n - 1) / n = c at hx
    -- `c` is `d / n` rounded up
    have hceil : d ≤ c * n := by
      have h := Nat.lt_mul_div_succ (d + n - 1) hn
      rw [hc, Nat.mul_succ] at h
      rw [mul_comm]
      omega
    have hfloor : ∀ k, k < c → k * n < d := by
      intro k hk
      have h := (Nat.le_div_iff_mul_le hn).mp (hc ▸ Nat.succ_le_of_lt hk)
      rw [Nat.succ_mul] at h
      omega
    have hone : 1 < c := by
      by_contra hle
      have h : c * n ≤ 1 * n := Nat.mul_le_mul_right n (not_lt.mp hle)
      omega
    have hhigh := Nat.le_pow_clog hb c
    have hlow := hfloor _ (Nat.pow_pred_clog_lt_self hb hone)
    have hpos := Nat.clog_pos hb hone
    generalize Nat.clog b c = e at hhigh hlow hpos hx
    have hcover : d ≤ b ^ e * n := hceil.trans (Nat.mul_le_mul_right n hhigh)
    have hpred : -(e : ℤ) + 1 = -((e - 1 : ℕ) : ℤ) := by omega
    rw [hx, hpred, zpow_neg, zpow_neg, zpow_natCast, zpow_natCast, inv_eq_one_div, inv_eq_one_div,
      div_le_div_iff₀ (by positivity) hd', div_lt_div_iff₀ hd' (by positivity)]
    exact ⟨by rw [one_mul, mul_comm]; exact_mod_cast hcover,
      by rw [one_mul, mul_comm]; exact_mod_cast hlow⟩

theorem zpow_sub_of_le (b : ℚ) {x n : ℤ} (h : x ≤ n) : b ^ (x - n) = (b ^ (n - x).toNat)⁻¹ := by
  rw [← zpow_natCast, ← zpow_neg]
  congr 1
  omega

theorem zpow_sub_of_ge (b : ℚ) {x n : ℤ} (h : n ≤ x) : b ^ (x - n) = b ^ (x - n).toNat := by
  rw [← zpow_natCast]
  congr 1
  omega

theorem nearestEven_scaled {b : ℕ} (hb : 0 < b) (n : ℕ) {d : ℕ} (hd : 0 < d) (p x : ℤ) :
    NearestEven ((n : ℚ) / d / b ^ (x - p))
      (if x ≤ p then roundHalfEven (n * b ^ (p - x).toNat) d
        else roundHalfEven n (d * b ^ (x - p).toNat) : ℕ) := by
  split
  · rename_i hle
    have h := roundHalfEven_spec (n * b ^ (p - x).toNat) hd
    rw [zpow_sub_of_le _ hle, div_inv_eq_mul]
    push_cast at h
    rwa [mul_div_right_comm] at h
  · rename_i hgt
    have h := roundHalfEven_spec n (d := d * b ^ (x - p).toNat) (by positivity)
    rw [zpow_sub_of_ge _ (by omega), div_div]
    push_cast at h
    exact h

/-- The six digits are the fraction rounded to the sixth place from its leading one. -/
theorem sixDigits_spec (n : ℕ) {d : ℕ} (hd : 0 < d) :
    Rounds (10 ^ (leadingExponent n d - 5)) ((n : ℚ) / d)
      ((sixDigits n d).1 * 10 ^ ((sixDigits n d).2 - 5)) := by
  generalize hx : leadingExponent n d = x
  have hnear := nearestEven_scaled (b := 10) (by norm_num) n hd 5 x
  generalize hm : (if x ≤ 5 then roundHalfEven (n * 10 ^ (5 - x).toNat) d
    else roundHalfEven n (d * 10 ^ (x - 5).toNat)) = m at hnear
  refine ⟨m, ?_, hnear⟩
  rw [sixDigits, hx, hm]
  split
  · rename_i hcarry
    have hnext : (10 : ℚ) ^ (x + 1 - 5) = 10 * 10 ^ (x - 5) := by
      rw [← zpow_one_add₀ (by norm_num)]
      congr 1
      omega
    rw [hcarry, hnext]
    push_cast
    ring
  · rw [Int.cast_natCast]

theorem digitsValue_append_mul (ds es : Bytes) :
    digitsValue (ds ++ es) = digitsValue ds * 10 ^ es.length + digitsValue es := by
  induction es using List.reverseRecOn with
  | nil => simp [digitsValue]
  | append_singleton es b ih =>
    have hlast : ∀ s : Bytes, digitsValue (s ++ [b]) = 10 * digitsValue s + (b.toNat - 48) :=
      fun s => digitsValue_append s [b]
    rw [← List.append_assoc, hlast, hlast, ih, List.length_append, List.length_singleton, pow_succ]
    ring

theorem digitsValue_zero : digitsValue [48] = 0 := rfl

theorem digitsValue_replicate (k : ℕ) : digitsValue (List.replicate k 48) = 0 := by
  induction k with
  | zero => rfl
  | succ k ih =>
    rw [List.replicate_succ, ← List.singleton_append, digitsValue_append_mul, digitsValue_zero, ih,
      zero_mul]

theorem isDigit_of_mem_padded {width n : ℕ} {b : UInt8} (hb : b ∈ padded width n) :
    isDigit b = true := by
  rcases List.mem_append.mp hb with hb | hb
  · rw [List.eq_of_mem_replicate hb]
    rfl
  · exact isDigit_of_mem_decimal hb

theorem digitsValue_padded (width n : ℕ) : digitsValue (padded width n) = n := by
  rw [padded, digitsValue_append_mul, digitsValue_replicate, digitsValue_decimal, zero_mul,
    zero_add]

theorem length_decimal_le {f n : ℕ} (hf : 0 < f) (hn : n < 10 ^ f) : (decimal n).length ≤ f := by
  rw [decimal]
  split
  · exact hf
  · rw [List.length_map, List.length_reverse]
    exact (Nat.digits_length_le_iff (by norm_num) n).mpr hn

theorem length_padded {f n : ℕ} (hf : 0 < f) (hn : n < 10 ^ f) : (padded f n).length = f := by
  have h := length_decimal_le hf hn
  rw [padded, List.length_append, List.length_replicate]
  omega

/-- Zeros at the end of a fraction are worth nothing. -/
theorem pointValue_rdropWhile (ds fs : Bytes) :
    pointValue ds (fs.rdropWhile (fun b => b = 48)) = pointValue ds fs := by
  induction fs using List.reverseRecOn with
  | nil => rfl
  | append_singleton fs b ih =>
    by_cases hb : b = 48
    · subst hb
      rw [List.rdropWhile_concat_pos _ _ _ (by decide), ih, pointValue, pointValue,
        ← List.append_assoc, digitsValue_append_mul (ds ++ fs), List.length_append]
      rw [digitsValue_zero, List.length_singleton, pow_add, add_zero, pow_one, pow_one]
      push_cast
      rw [mul_div_mul_right _ _ (by norm_num)]
    · rw [List.rdropWhile_concat_neg _ _ _ (by simpa using hb)]

/-- The digits of `m` with the point before the last `f` of them. -/
theorem pointValue_padded (m : ℕ) {f : ℕ} (hf : 0 < f) :
    pointValue (decimal (m / 10 ^ f)) (padded f (m % 10 ^ f)) = m / 10 ^ f := by
  have hmod : m % 10 ^ f < 10 ^ f := Nat.mod_lt m (by positivity)
  have hsplit : m / 10 ^ f * 10 ^ f + m % 10 ^ f = m := by
    rw [mul_comm]
    exact Nat.div_add_mod m (10 ^ f)
  rw [pointValue, digitsValue_append_mul, digitsValue_decimal, digitsValue_padded,
    length_padded hf hmod, hsplit]

theorem pointValue_nil (m : ℕ) : pointValue (decimal m) [] = m := by
  rw [pointValue, List.append_nil, digitsValue_decimal, List.length_nil, pow_zero, div_one]

theorem parts_of_digits {ds fs e : Bytes} (hds : ∀ b ∈ ds, isDigit b = true)
    (hfs : ∀ b ∈ fs, isDigit b = true) (he : ∀ b ∈ e.head?, b = 101) :
    (ds ++ ((if fs = [] then [] else 46 :: fs) ++ e)).takeWhile isDigit = ds ∧
      fractionDigits (ds ++ ((if fs = [] then [] else 46 :: fs) ++ e)) = fs ∧
      exponent (ds ++ ((if fs = [] then [] else 46 :: fs) ++ e)) = exponent e := by
  have hedigit : ∀ b ∈ e.head?, isDigit b = false := by
    intro b hb
    rw [he b hb]
    rfl
  have hskip : ∀ s : Bytes, (∀ b ∈ s, isDigit b = true ∨ b = 46) →
      exponent (s ++ e) = exponent e := by
    intro s hs
    have hnot : ∀ b ∈ s, (decide (b ≠ 101) && decide (b ≠ 69)) = true := by
      intro b hb
      rcases hs b hb with hdigit | rfl
      · rw [Bool.and_eq_true, decide_eq_true_eq, decide_eq_true_eq]
        constructor
        · rintro rfl
          cases hdigit
        · rintro rfl
          cases hdigit
      · rfl
    rw [exponent, exponent, List.dropWhile_append_of_pos hnot]
  by_cases hnil : fs = []
  · subst hnil
    obtain ⟨htake, hdrop⟩ := takeWhile_append_of_all hds hedigit
    refine ⟨htake, ?_, hskip ds (fun b hb => Or.inl (hds b hb))⟩
    change fractionDigits (ds ++ e) = []
    rw [fractionDigits, hdrop]
    split
    · cases he 46 rfl
    · rfl
  · rw [if_neg hnil]
    obtain ⟨htake, hdrop⟩ := takeWhile_append_of_all (r := 46 :: fs ++ e) hds
      (fun b hb => by cases hb; rfl)
    refine ⟨htake, ?_, ?_⟩
    · rw [fractionDigits, hdrop]
      exact (takeWhile_append_of_all hfs hedigit).1
    · rw [← List.append_assoc]
      apply hskip
      intro b hb
      rcases List.mem_append.mp hb with hb | hb
      · exact Or.inl (hds b hb)
      · exact (List.mem_cons.mp hb).symm.imp (hfs b) id

theorem exponent_nil : exponent [] = 0 := rfl

theorem exponent_exponentText (x : ℤ) : exponent (exponentText x) = x := by
  have hpadded : ∀ n : ℕ, unsignedPrefix (if n < 10 then 48 :: decimal n else decimal n) =
      some n := by
    intro n
    split
    · have hall : ∀ b ∈ 48 :: decimal n, isDigit b = true := by
        intro b hb
        rcases List.mem_cons.mp hb with rfl | hb
        · rfl
        · exact isDigit_of_mem_decimal hb
      have hvalue : digitsValue (48 :: decimal n) = n := by
        rw [← List.singleton_append, digitsValue_append_mul, digitsValue_zero,
          digitsValue_decimal, zero_mul, zero_add]
      rw [unsignedPrefix, List.takeWhile_eq_self_iff.mpr hall, if_neg (List.cons_ne_nil _ _),
        hvalue]
    · exact unsignedPrefix_decimal n
  have hminus : ∀ t : Bytes, exponent (101 :: 45 :: t) =
      ((unsignedPrefix t).map (fun n : ℕ => -(n : ℤ))).getD 0 := fun _ => rfl
  have hplus : ∀ t : Bytes, exponent (101 :: 43 :: t) =
      ((unsignedPrefix t).map (fun n : ℕ => (n : ℤ))).getD 0 := fun _ => rfl
  have habs := hpadded x.natAbs
  rw [exponentText]
  split
  · rw [List.cons_append, List.singleton_append, hminus, habs, Option.map_some, Option.getD_some]
    omega
  · rw [List.cons_append, List.singleton_append, hplus, habs, Option.map_some, Option.getD_some]
    omega

theorem unsignedValue_fractionText (m f : ℕ) {e : Bytes} (he : ∀ b ∈ e.head?, b = 101) :
    unsignedValue (fractionText m f ++ e) = m / 10 ^ f * 10 ^ exponent e := by
  have hfs : ∀ b ∈ (padded f (m % 10 ^ f)).rdropWhile (fun b => b = 48), isDigit b = true :=
    fun b hb => isDigit_of_mem_padded ((List.rdropWhile_prefix _ _).subset hb)
  obtain ⟨htake, hfraction, hexponent⟩ :=
    parts_of_digits (fun b hb => isDigit_of_mem_decimal (n := m / 10 ^ f) hb) hfs he
  have htext : fractionText m f ++ e = decimal (m / 10 ^ f) ++
      ((if (padded f (m % 10 ^ f)).rdropWhile (fun b => b = 48) = [] then []
        else 46 :: (padded f (m % 10 ^ f)).rdropWhile (fun b => b = 48)) ++ e) :=
    List.append_assoc _ _ e
  rw [htext, unsignedValue, htake, hfraction, hexponent, pointValue_rdropWhile]
  congr 1
  rcases Nat.eq_zero_or_pos f with rfl | hf
  · rw [pow_zero, Nat.div_one, Nat.mod_one, pointValue, digitsValue_append_mul,
      digitsValue_decimal, pow_zero]
    have hzero : padded 0 0 = [48] := rfl
    rw [hzero, digitsValue_zero, List.length_singleton, pow_one, pow_one]
    push_cast
    ring
  · exact pointValue_padded m hf

theorem value_signed (q : ℚ) {s : Bytes} (hs : isUnsigned s = true) :
    numberValue ((if q < 0 then [45] else []) ++ s) =
        (if q < 0 then -unsignedValue s else unsignedValue s) ∧
      decimals ((if q < 0 then [45] else []) ++ s) = (fractionDigits s).length := by
  by_cases hq : q < 0
  · rw [if_pos hq, if_pos hq]
    exact ⟨rfl, rfl⟩
  · rw [if_neg hq, if_neg hq, List.nil_append]
    cases s with
    | nil => exact ⟨rfl, rfl⟩
    | cons b s =>
      have hb : b ≠ 45 := by
        rintro rfl
        cases hs
      constructor
      · rw [numberValue.eq_2 _ (fun t ht => hb (List.cons.inj ht).1)]
      · rw [decimals.eq_2 _ (fun t ht => hb (List.cons.inj ht).1)]

theorem rounds_of_abs {u q v : ℚ} (h : Rounds u |q| v) :
    Rounds u q (if q < 0 then -v else v) := by
  split
  · rename_i hq
    rw [abs_of_neg hq] at h
    have hneg := h.neg
    rwa [neg_neg] at hneg
  · rename_i hq
    rwa [abs_of_nonneg (not_lt.mp hq)] at h

theorem abs_eq_div (q : ℚ) : |q| = (q.num.natAbs : ℚ) / q.den := by
  rw [Nat.cast_natAbs, Int.cast_abs]
  conv_lhs => rw [← Rat.num_div_den q]
  rw [abs_div, Nat.abs_cast]

theorem unsignedValue_general (m : ℕ) (x : ℤ) :
    unsignedValue (if -4 ≤ x ∧ x < 6 then fractionText m (5 - x).toNat
      else fractionText m 5 ++ exponentText x) = m * 10 ^ (x - 5) := by
  split
  · have h := unsignedValue_fractionText m (5 - x).toNat (e := []) (fun b hb => by cases hb)
    rw [List.append_nil, exponent_nil, zpow_zero, mul_one] at h
    rw [h, zpow_sub_of_le _ (by omega), div_eq_mul_inv]
  · have h := unsignedValue_fractionText m 5 (e := exponentText x) (fun b hb => by cases hb; rfl)
    rw [h, exponent_exponentText, zpow_sub₀ (by norm_num)]
    norm_num
    ring

/-- A stream prints the number rounded to its six leading digits. -/
theorem numberValue_generalText {q : ℚ} (hq : q ≠ 0) :
    ∃ x : ℤ, 10 ^ x ≤ |q| ∧ |q| < 10 ^ (x + 1) ∧
      Rounds (10 ^ (x + 1 - (6 : ℕ))) q (numberValue (generalText q)) := by
  have hnum : 0 < q.num.natAbs := Int.natAbs_pos.mpr (Rat.num_ne_zero.mpr hq)
  obtain ⟨hlow, hhigh⟩ := exponent_spec (b := 10) (by norm_num) hnum q.den_pos
  rw [← leadingExponent, Nat.cast_ofNat] at hlow hhigh
  have hrounds := sixDigits_spec q.num.natAbs q.den_pos
  rw [← abs_eq_div] at hlow hhigh hrounds
  refine ⟨_, hlow, hhigh, ?_⟩
  have hunit : leadingExponent q.num.natAbs q.den + 1 - (6 : ℕ) =
      leadingExponent q.num.natAbs q.den - 5 := by
    push_cast
    ring
  rw [hunit, generalText, if_neg hq, (value_signed q (isUnsigned_generalText _ _)).1,
    unsignedValue_general]
  exact rounds_of_abs hrounds

theorem numberValue_generalText_zero : numberValue (generalText 0) = 0 := by
  decide +kernel

theorem fixed_parts (f m : ℕ) :
    isUnsigned (decimal (m / 10 ^ f) ++ if f = 0 then [] else 46 :: padded f (m % 10 ^ f)) = true ∧
      (fractionDigits (decimal (m / 10 ^ f) ++
        if f = 0 then [] else 46 :: padded f (m % 10 ^ f))).length = f ∧
      unsignedValue (decimal (m / 10 ^ f) ++
        if f = 0 then [] else 46 :: padded f (m % 10 ^ f)) = m * 10 ^ (-f : ℤ) := by
  have hds : ∀ b ∈ decimal (m / 10 ^ f), isDigit b = true := fun b hb => isDigit_of_mem_decimal hb
  have hnone : ∀ b ∈ ([] : Bytes).head?, b = 101 := fun b hb => by cases hb
  rcases Nat.eq_zero_or_pos f with rfl | hf
  · have hnil : ∀ b ∈ ([] : Bytes), isDigit b = true := List.forall_mem_nil _
    obtain ⟨htake, hfraction, hexponent⟩ := parts_of_digits hds hnil hnone
    rw [if_pos rfl, List.append_nil] at htake hfraction hexponent
    rw [if_pos rfl, unsignedValue, htake, hfraction, hexponent, pow_zero, Nat.div_one,
      pointValue_nil]
    refine ⟨isUnsigned_decimal_append m (fun b hb => by cases hb) rfl, rfl, ?_⟩
    rw [exponent_nil, Nat.cast_zero, neg_zero]
  · have hmod : m % 10 ^ f < 10 ^ f := Nat.mod_lt m (by positivity)
    have hlength := length_padded hf hmod
    have hne : padded f (m % 10 ^ f) ≠ [] := by
      intro hnil
      rw [hnil] at hlength
      exact hf.ne hlength
    have hfs : ∀ b ∈ padded f (m % 10 ^ f), isDigit b = true :=
      fun b hb => isDigit_of_mem_padded hb
    obtain ⟨htake, hfraction, hexponent⟩ := parts_of_digits hds hfs hnone
    rw [if_neg hne, List.append_nil] at htake hfraction hexponent
    rw [if_neg hf.ne', unsignedValue, htake, hfraction, hexponent, hlength, pointValue_padded m hf]
    refine ⟨?_, rfl, ?_⟩
    · apply isUnsigned_decimal_append
      · intro b hb
        cases hb
        rfl
      · obtain ⟨hall, hrest⟩ := takeWhile_append_of_all (r := []) hfs (fun b hb => by cases hb)
        rw [List.append_nil] at hall hrest
        rw [isFraction, hall, hrest, Bool.and_eq_true, decide_eq_true_eq]
        exact ⟨hne, rfl⟩
    · rw [exponent_nil, zpow_zero, mul_one, zpow_neg, zpow_natCast, div_eq_mul_inv]

theorem isNumber_fixedText (f : ℕ) (q : ℚ) : isNumber (fixedText f q) = true := by
  obtain ⟨hplus, hminus⟩ := isNumber_of_isUnsigned
    (fixed_parts f (roundHalfEven (q.num.natAbs * 10 ^ f) q.den)).1
  rw [fixedText]
  by_cases hneg : q < 0
  · simp only [if_pos hneg]
    exact hminus
  · simp only [if_neg hneg]
    exact hplus

theorem decimals_fixedText (f : ℕ) (q : ℚ) : decimals (fixedText f q) = f := by
  obtain ⟨hunsigned, hlength, _⟩ := fixed_parts f (roundHalfEven (q.num.natAbs * 10 ^ f) q.den)
  rw [fixedText, (value_signed q hunsigned).2, hlength]

/-- A fixed format prints the number rounded to its decimals. -/
theorem numberValue_fixedText (f : ℕ) (q : ℚ) :
    Rounds (10 ^ (-f : ℤ)) q (numberValue (fixedText f q)) := by
  obtain ⟨hunsigned, _, hvalue⟩ := fixed_parts f (roundHalfEven (q.num.natAbs * 10 ^ f) q.den)
  rw [fixedText, (value_signed q hunsigned).1, hvalue]
  apply rounds_of_abs
  refine ⟨roundHalfEven (q.num.natAbs * 10 ^ f) q.den, by push_cast; rfl, ?_⟩
  have h := roundHalfEven_spec (q.num.natAbs * 10 ^ f) q.den_pos
  push_cast at h
  rwa [mul_div_right_comm, ← abs_eq_div, ← zpow_natCast, ← div_inv_eq_mul, ← zpow_neg] at h

/-- Of a number with few decimals, six digits give the fixed ones exactly when these are
no more than six digits. -/
theorem general_fixed_iff {q : ℚ} {e f : ℕ} (hq : IsMultiple (10 ^ (-e : ℤ)) q) (he : e ≤ f + 1) :
    Rounds (10 ^ (-f : ℤ)) (numberValue (generalText q)) (numberValue (fixedText f q)) ↔
      Significant 6 (numberValue (fixedText f q)) := by
  have ht := numberValue_fixedText f q
  by_cases hzero : q = 0
  · subst hzero
    have hself : Rounds (10 ^ (-f : ℤ)) (0 : ℚ) 0 :=
      rounds_self (ten_zpow_pos _).ne' ⟨0, by simp⟩
    rw [numberValue_generalText_zero, ht.unique hself]
    exact iff_of_true hself ⟨0, 0, by norm_num, by simp⟩
  · obtain ⟨x, hlow, hhigh, hv⟩ := numberValue_generalText hzero
    exact rounds_digits_iff (by norm_num) hlow hhigh hq (by omega) hv ht

theorem isMultiple_div (z : ℤ) (e : ℕ) : IsMultiple ((10 : ℚ) ^ (-e : ℤ)) (z / 10 ^ e) :=
  ⟨z, by rw [zpow_neg, zpow_natCast, div_eq_mul_inv]⟩

/-- Where the fixed format shows the whole number, the integer behind it decides. -/
theorem general_fixed_exact_iff (z : ℤ) {e f : ℕ} (he : e ≤ f) :
    Rounds (10 ^ (-f : ℤ)) (numberValue (generalText (z / 10 ^ e)))
        (numberValue (fixedText f (z / 10 ^ e))) ↔ Significant 6 (z : ℚ) := by
  have hself : Rounds (10 ^ (-f : ℤ)) ((z : ℚ) / 10 ^ e) (z / 10 ^ e) :=
    rounds_self (ten_zpow_pos _).ne' ((isMultiple_zpow (by omega)).trans (isMultiple_div z e))
  rw [general_fixed_iff (isMultiple_div z e) (by omega),
    (numberValue_fixedText f _).unique hself, div_eq_mul_inv, ← zpow_natCast, ← zpow_neg,
    significant_shift_iff]

/-- Where it leaves out one digit, the integer may lie as far off as that digit rounds. -/
theorem general_fixed_tenth_iff (z : ℤ) (f : ℕ) :
    Rounds (10 ^ (-f : ℤ)) (numberValue (generalText (z / 10 ^ (f + 1))))
        (numberValue (fixedText f (z / 10 ^ (f + 1)))) ↔
      ∃ y : ℤ, Significant 6 (y : ℚ) ∧ |z - y| ≤ 5 := by
  rw [general_fixed_iff (isMultiple_div z (f + 1)) le_rfl]
  obtain ⟨k, hk, hnear⟩ := numberValue_fixedText f (z / 10 ^ (f + 1))
  have htenth : (z : ℚ) / 10 ^ (f + 1) / 10 ^ (-f : ℤ) = z / 10 := by
    rw [zpow_neg, zpow_natCast, div_inv_eq_mul, pow_succ]
    field_simp
  rw [htenth] at hnear
  rw [hk, significant_shift_iff, significant_tenth_iff (by norm_num) hnear]

end SolakonMonitor.NumberValue
