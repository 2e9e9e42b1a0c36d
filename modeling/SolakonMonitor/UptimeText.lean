import SolakonMonitor.NumberValue
import SolakonMonitor.TerminalScreen

/-!
What the uptime text says.
From a day on it begins with a count of days; then come hours, minutes and seconds in two
digits each. The two branches of the source take the seconds apart in different ways, and
either way the fields add up to them, so the text determines how long it has been. Time
points may lie further apart than 64 bits count in nanoseconds; then the difference is
negative, and the text shows no days.
-/
namespace SolakonMonitor.UptimeText

open BigEndian DecimalText NumberValue TerminalScreen

/-- The fields of an uptime text; below a day there is no count of days. -/
structure Fields where
  days : Option ℕ
  hours : ℕ
  minutes : ℕ
  seconds : ℕ

def twoDigits (n : ℕ) : Bytes := [digit (n / 10), digit (n % 10)]

/-- Hours, minutes and seconds, which always take eight bytes. -/
def Fields.clock (fields : Fields) : Bytes :=
  twoDigits fields.hours ++ utf8 ":" ++ twoDigits fields.minutes ++ utf8 ":" ++
    twoDigits fields.seconds

def Fields.dayText (fields : Fields) : Bytes :=
  match fields.days with
  | some days => decimal days ++ utf8 "d "
  | none => []

def Fields.text (fields : Fields) : Bytes := fields.dayText ++ fields.clock

def Fields.total (fields : Fields) : ℕ :=
  86400 * fields.days.getD 0 + 3600 * fields.hours + 60 * fields.minutes + fields.seconds

structure Fields.Valid (fields : Fields) : Prop where
  hours : fields.hours < 24
  minutes : fields.minutes < 60
  seconds : fields.seconds < 60
  days : fields.days.isSome = true ↔ 86400 ≤ fields.total

theorem digit_injective {a b : ℕ} (ha : a < 10) (hb : b < 10) (h : digit a = digit b) : a = b := by
  have hvalue := congrArg UInt8.toNat h
  rw [digit_toNat ha, digit_toNat hb] at hvalue
  omega

theorem twoDigits_injective {a b : ℕ} (ha : a < 100) (hb : b < 100)
    (h : twoDigits a = twoDigits b) : a = b := by
  obtain ⟨htens, hones⟩ := List.cons.inj h
  have htens' := digit_injective (by omega) (by omega) htens
  have hones' := digit_injective (by omega) (by omega) (List.cons.inj hones).1
  omega

theorem decimal_injective {a b : ℕ} (h : decimal a = decimal b) : a = b := by
  rw [← digitsValue_decimal a, h, digitsValue_decimal]

theorem length_clock (fields : Fields) : fields.clock.length = 8 := rfl

theorem clock_injective {f g : Fields} (hf : f.Valid) (hg : g.Valid) (h : f.clock = g.clock) :
    f.hours = g.hours ∧ f.minutes = g.minutes ∧ f.seconds = g.seconds := by
  have hhours := hf.hours
  have hhours' := hg.hours
  have hminutes := hf.minutes
  have hminutes' := hg.minutes
  have hseconds := hf.seconds
  have hseconds' := hg.seconds
  simp only [Fields.clock, List.append_assoc] at h
  obtain ⟨h₁, h⟩ := List.append_inj h rfl
  obtain ⟨_, h⟩ := List.append_inj h rfl
  obtain ⟨h₂, h⟩ := List.append_inj h rfl
  obtain ⟨_, h₃⟩ := List.append_inj h rfl
  exact ⟨twoDigits_injective (by omega) (by omega) h₁,
    twoDigits_injective (by omega) (by omega) h₂, twoDigits_injective (by omega) (by omega) h₃⟩

theorem dayText_injective {f g : Fields} (h : f.dayText = g.dayText) :
    f.days.getD 0 = g.days.getD 0 := by
  have hnever (n : ℕ) : decimal n ++ utf8 "d " ≠ [] :=
    fun hnil => decimal_ne_nil n (List.append_eq_nil_iff.mp hnil).1
  unfold Fields.dayText at h
  cases hf : f.days with
  | none =>
    cases hg : g.days with
    | none => rfl
    | some n =>
      simp only [hf, hg] at h
      exact absurd h.symm (hnever n)
  | some m =>
    cases hg : g.days with
    | none =>
      simp only [hf, hg] at h
      exact absurd h (hnever m)
    | some n =>
      simp only [hf, hg] at h
      exact decimal_injective (List.append_cancel_right h)

/-- Valid fields are read back from their text, as far as their sum goes. -/
theorem text_injective {f g : Fields} (hf : f.Valid) (hg : g.Valid) (h : f.text = g.text) :
    f.total = g.total := by
  obtain ⟨hdays, hclock⟩ := List.append_inj' h (by rw [length_clock, length_clock])
  obtain ⟨hhours, hminutes, hseconds⟩ := clock_injective hf hg hclock
  rw [Fields.total, Fields.total, dayText_injective hdays, hhours, hminutes, hseconds]

def ofSeconds (d : ℕ) : Fields where
  days := if 86400 ≤ d then some (d / 86400) else none
  hours := d % 86400 / 3600
  minutes := d % 3600 / 60
  seconds := d % 60

theorem total_ofSeconds (d : ℕ) : (ofSeconds d).total = d := by
  have hdays : (ofSeconds d).days.getD 0 = d / 86400 := by
    rw [ofSeconds]
    split
    · rfl
    · rename_i hless
      rw [Option.getD_none, Nat.div_eq_of_lt (by omega)]
  rw [Fields.total, hdays]
  simp only [ofSeconds]
  omega

theorem valid_ofSeconds (d : ℕ) : (ofSeconds d).Valid where
  hours := by
    simp only [ofSeconds]
    omega
  minutes := by
    simp only [ofSeconds]
    omega
  seconds := by
    simp only [ofSeconds]
    omega
  days := by
    rw [total_ofSeconds, ofSeconds]
    split
    · exact iff_of_true rfl (by assumption)
    · exact iff_of_false Bool.false_ne_true (by assumption)

theorem zeroPadded_two {n : ℕ} (hn : n < 100) : zeroPadded 2 (n : ℤ) = twoDigits n := by
  have htable : ∀ k : ℕ, k < 100 → padded 2 k = twoDigits k := by
    decide +kernel
  rw [zeroPadded, if_neg (by omega), Int.natAbs_natCast]
  exact htable n hn

theorem formatUptime_eq {now tp : Int64} {d : ℕ} (hd : (now - tp).toInt.tdiv 1000000000 = d) :
    formatUptime now tp = (ofSeconds d).text := by
  have hminutes : ((d : ℤ).tmod 3600).tdiv 60 = (d % 3600 / 60 : ℕ) := rfl
  have hseconds : (d : ℤ).tmod 60 = (d % 60 : ℕ) := rfl
  simp only [formatUptime, hd, hminutes, hseconds]
  split
  · rename_i hday
    have hday' : 86400 ≤ d := by exact_mod_cast hday
    have hdays : (d : ℤ).tdiv 86400 = (d / 86400 : ℕ) := rfl
    have hhours : ((d : ℤ).tmod 86400).tdiv 3600 = (d % 86400 / 3600 : ℕ) := rfl
    rw [hdays, hhours, zeroPadded_two (by omega), zeroPadded_two (by omega),
      zeroPadded_two (by omega), decimalInt, if_neg (by omega), Int.natAbs_natCast]
    simp only [Fields.text, Fields.dayText, Fields.clock, ofSeconds, if_pos hday',
      List.append_assoc]
  · rename_i hday
    have hday' : ¬ 86400 ≤ d := by
      intro hle
      exact hday (by exact_mod_cast hle)
    have hhours : ((d : ℤ).tdiv 3600).tmod 24 = (d % 86400 / 3600 : ℕ) := by
      change ((d / 3600 % 24 : ℕ) : ℤ) = _
      congr 1
      omega
    rw [hhours, zeroPadded_two (by omega), zeroPadded_two (by omega), zeroPadded_two (by omega)]
    simp only [Fields.text, Fields.dayText, Fields.clock, ofSeconds, if_neg hday', List.nil_append]

/-- The difference that is printed is the one there is, or 2 to the 64 less. -/
theorem toInt_sub_of_le {now tp : Int64} (hle : tp ≤ now) :
    (now - tp).toInt = now.toInt - tp.toInt ∧ now.toInt - tp.toInt < 2 ^ 63 ∨
      (now - tp).toInt < 0 ∧ 2 ^ 63 ≤ now.toInt - tp.toInt := by
  have hle' := Int64.le_iff_toInt_le.mp hle
  have hnow := now.toInt_lt
  have htp := tp.le_toInt
  rw [Int64.toInt_sub]
  by_cases hfits : now.toInt - tp.toInt < 2 ^ 63
  · exact Or.inl ⟨Int.bmod_eq_of_le (by omega) (by omega), hfits⟩
  · refine Or.inr ⟨?_, by omega⟩
    rw [Int.bmod_def]
    omega

theorem d_notMem_zeroPadded (width : ℕ) (z : ℤ) : 100 ∉ zeroPadded width z := by
  have hpadded (width n : ℕ) : 100 ∉ padded width n := fun hmem =>
    absurd (isDigit_of_mem_padded hmem) (by decide)
  rw [zeroPadded]
  split
  · exact List.not_mem_cons_of_ne_of_not_mem (by decide) (hpadded _ _)
  · exact hpadded _ _

/-- Of a negative difference no days are printed. -/
theorem d_notMem_formatUptime {now tp : Int64} (hneg : (now - tp).toInt < 0) :
    100 ∉ formatUptime now tp := by
  have hless : ¬ 86400 ≤ (now - tp).toInt.tdiv 1000000000 := by
    rw [← neg_neg (now - tp).toInt, Int.neg_tdiv, Int.tdiv_eq_ediv_of_nonneg (by omega)]
    omega
  rw [formatUptime]
  simp only [if_neg hless, List.mem_append, not_or]
  exact ⟨⟨⟨⟨d_notMem_zeroPadded _ _, by decide⟩, d_notMem_zeroPadded _ _⟩, by decide⟩,
    d_notMem_zeroPadded _ _⟩

theorem d_mem_text {fields : Fields} (h : fields.days.isSome = true) : 100 ∈ fields.text := by
  obtain ⟨days, hdays⟩ := Option.isSome_iff_exists.mp h
  have hmem : (100 : UInt8) ∈ utf8 "d " := by decide
  rw [Fields.text, Fields.dayText, hdays]
  exact List.mem_append_left _ (List.mem_append_right _ hmem)

/-- The text consists of an optional count of days and a valid clock that add up to the whole
seconds between the time points. -/
def Faithful (now tp : Int64) : Prop :=
  ∃ fields : Fields, formatUptime now tp = fields.text ∧ fields.Valid ∧
    (fields.total : ℤ) = (now.toInt - tp.toInt) / 1000000000

theorem faithful_of_fits {now tp : Int64} (hle : tp ≤ now)
    (hfits : now.toInt - tp.toInt < 2 ^ 63) : Faithful now tp := by
  have hle' := Int64.le_iff_toInt_le.mp hle
  have hdiff : (now - tp).toInt = now.toInt - tp.toInt := by
    rcases toInt_sub_of_le hle with hsame | hwrapped
    · exact hsame.1
    · omega
  have hdiv : (now - tp).toInt.tdiv 1000000000 = (now.toInt - tp.toInt) / 1000000000 := by
    rw [hdiff]
    exact Int.tdiv_eq_ediv_of_nonneg (by omega)
  obtain ⟨d, hd⟩ :=
    Int.eq_ofNat_of_zero_le (by omega : 0 ≤ (now.toInt - tp.toInt) / 1000000000)
  refine ⟨ofSeconds d, formatUptime_eq (hdiv.trans hd), valid_ofSeconds d, ?_⟩
  rw [total_ofSeconds, hd]

/-- For a clock that has not gone back, the text is faithful exactly when the time points are
less than 2 to the 63 nanoseconds apart, and different numbers of seconds between such time
points have different texts. -/
theorem formatUptime_faithful_iff (now tp : Int64) (hle : tp ≤ now) :
    (Faithful now tp ↔ now.toInt - tp.toInt < 2 ^ 63) ∧
    (now.toInt - tp.toInt < 2 ^ 63 → ∀ now' tp' : Int64, tp' ≤ now' →
      now'.toInt - tp'.toInt < 2 ^ 63 → formatUptime now' tp' = formatUptime now tp →
      (now'.toInt - tp'.toInt) / 1000000000 = (now.toInt - tp.toInt) / 1000000000) := by
  refine ⟨⟨?_, faithful_of_fits hle⟩, ?_⟩
  · intro hfaithful
    obtain ⟨fields, htext, hvalid, htotal⟩ := hfaithful
    rcases toInt_sub_of_le hle with hsame | hwrapped
    · exact hsame.2
    · have hdays : fields.days.isSome = true := hvalid.days.mpr (by omega)
      have hmem := d_mem_text hdays
      rw [← htext] at hmem
      exact absurd hmem (d_notMem_formatUptime hwrapped.1)
  · intro hfits now' tp' hle' hfits' hsame
    obtain ⟨fields, htext, hvalid, htotal⟩ := faithful_of_fits hle hfits
    obtain ⟨fields', htext', hvalid', htotal'⟩ := faithful_of_fits hle' hfits'
    rw [← htotal, ← htotal', text_injective hvalid' hvalid (by rw [← htext', ← htext, hsame])]

theorem formatUptime_faithful_iff_day :
    (Faithful 90061000000000 0 ↔
      (90061000000000 : Int64).toInt - (0 : Int64).toInt < 2 ^ 63) ∧
    ((90061000000000 : Int64).toInt - (0 : Int64).toInt < 2 ^ 63 → ∀ now' tp' : Int64,
      tp' ≤ now' → now'.toInt - tp'.toInt < 2 ^ 63 →
      formatUptime now' tp' = formatUptime 90061000000000 0 →
      (now'.toInt - tp'.toInt) / 1000000000 =
        ((90061000000000 : Int64).toInt - (0 : Int64).toInt) / 1000000000) :=
  formatUptime_faithful_iff 90061000000000 0 (by decide)

/-- Between the earliest time point and the beginning of the epoch lie 292 years, whose text
is that of a negative number of seconds. -/
theorem formatUptime_wraps :
    formatUptime 0 Int64.minValue = utf8 "-23:-47:-16" ∧ ¬ Faithful 0 Int64.minValue := by
  refine ⟨by decide +kernel, ?_⟩
  intro hfaithful
  obtain ⟨fields, htext, hvalid, htotal⟩ := hfaithful
  have htotal' : (fields.total : ℤ) = 9223372036 := htotal
  have hdays : fields.days.isSome = true := hvalid.days.mpr (by omega)
  have hmem := d_mem_text hdays
  rw [← htext] at hmem
  exact absurd hmem (d_notMem_formatUptime (by decide))

end SolakonMonitor.UptimeText
