import SolakonMonitor.ArgumentMeaning
import SolakonMonitor.SettingPrecedence

/-!
How often the poll loops fetch a snapshot.
Both loops divide by the rate of the command line, which is between 1 and 60, so no
division fails. The rate of the configuration file is merged into the settings and
never reaches a loop: without the option the loops run once a second.
-/
namespace SolakonMonitor.RefreshRate

open BigEndian DecimalText ConfigLoader ConfigMeaning MainProgram SettingPrecedence ArgumentMeaning

/-- Milliseconds between two refreshes; none is a division by zero. -/
def refreshInterval (cfg : Config) : Option Int32 :=
  if cfg.refreshHz = 0 then none else some (1000 / cfg.refreshHz)

/-- Clock readings are in nanoseconds. -/
def elapsedMs (now lastRefresh : ℤ) : ℤ := (now - lastRefresh).tdiv 1000000

/-- What a pass of a loop computes and whether it fetches a snapshot. -/
structure Pass where
  interval : Int32
  fetches : Bool
  deriving DecidableEq

/-- The terminal loop by its clock readings, until it is left or a key ends it. -/
def terminalLoop (cfg : Config) : ℤ → List ℤ → Option (List Pass)
  | _, [] => some []
  | lastRefresh, now :: rest => do
    let interval ← refreshInterval cfg
    if cfg.once ∨ interval.toInt ≤ elapsedMs now lastRefresh then
      if cfg.once then return [⟨interval, true⟩]
      else
        let passes ← terminalLoop cfg now rest
        return ⟨interval, true⟩ :: passes
    else
      let passes ← terminalLoop cfg lastRefresh rest
      return ⟨interval, false⟩ :: passes

def serverLoop (cfg : Config) : ℤ → List ℤ → Option (List Pass)
  | _, [] => some []
  | lastRefresh, now :: rest => do
    let interval ← refreshInterval cfg
    if interval.toInt ≤ elapsedMs now lastRefresh then
      let passes ← serverLoop cfg now rest
      return ⟨interval, true⟩ :: passes
    else
      let passes ← serverLoop cfg lastRefresh rest
      return ⟨interval, false⟩ :: passes

/-- The loop never fails, and every pass works with this interval. -/
def Paced (loop : ℤ → List ℤ → Option (List Pass)) (interval : ℤ) : Prop :=
  ∀ lastRefresh nows, ∃ passes, loop lastRefresh nows = some passes ∧
    ∀ pass ∈ passes, pass.interval.toInt = interval

theorem terminalLoop_paced {cfg : Config} {interval : Int32}
    (h : refreshInterval cfg = some interval) : Paced (terminalLoop cfg) interval.toInt := by
  intro lastRefresh nows
  induction nows generalizing lastRefresh with
  | nil => exact ⟨[], rfl, by simp⟩
  | cons now rest ih =>
    obtain ⟨later, hlater, hpaced⟩ := ih now
    obtain ⟨waiting, hwaiting, hpaced'⟩ := ih lastRefresh
    simp only [terminalLoop, h, hlater, hwaiting, Option.bind_eq_bind, Option.bind_some,
      Option.pure_def]
    split
    · split
      · exact ⟨_, rfl, by simp⟩
      · exact ⟨_, rfl, by simpa using hpaced⟩
    · exact ⟨_, rfl, by simpa using hpaced'⟩

theorem serverLoop_paced {cfg : Config} {interval : Int32}
    (h : refreshInterval cfg = some interval) : Paced (serverLoop cfg) interval.toInt := by
  intro lastRefresh nows
  induction nows generalizing lastRefresh with
  | nil => exact ⟨[], rfl, by simp⟩
  | cons now rest ih =>
    obtain ⟨later, hlater, hpaced⟩ := ih now
    obtain ⟨waiting, hwaiting, hpaced'⟩ := ih lastRefresh
    simp only [serverLoop, h, hlater, hwaiting, Option.bind_eq_bind, Option.bind_some,
      Option.pure_def]
    split
    · exact ⟨_, rfl, by simpa using hpaced⟩
    · exact ⟨_, rfl, by simpa using hpaced'⟩

/-- Two loops that each make a pass have one interval. -/
theorem paced_iff {cfg : Config} {interval : Int32} (h : refreshInterval cfg = some interval)
    (wanted : ℤ) :
    (Paced (terminalLoop cfg) wanted ∧ Paced (serverLoop cfg) wanted) ↔
      interval.toInt = wanted := by
  constructor
  · intro hpaced
    obtain ⟨passes, hpasses, hwanted⟩ := hpaced.2 0 [0]
    obtain ⟨passes', hpasses', hinterval⟩ := serverLoop_paced h 0 [0]
    rw [hpasses', Option.some.injEq] at hpasses
    subst hpasses
    have hne : passes' ≠ [] := by
      intro hnil
      subst hnil
      simp only [serverLoop, h, Option.bind_eq_bind, Option.bind_some, Option.pure_def] at hpasses'
      split at hpasses' <;> cases hpasses'
    obtain ⟨pass, rest, rfl⟩ := List.exists_cons_of_ne_nil hne
    exact (hinterval pass List.mem_cons_self).symm.trans (hwanted pass List.mem_cons_self)
  · intro heq
    subst heq
    exact ⟨terminalLoop_paced h, serverLoop_paced h⟩

def clampHz (n : ℤ) : ℤ := max 1 (min n 60)

/-- The value of the last `--interval`, else the rate of the file, else one. A text
without a number counts as zero. -/
def effectiveHz (args : List Bytes) (entries : List Entry) : ℤ :=
  match lastArgument .interval args with
  | some value => clampHz ((strtol value).getD 0)
  | none =>
    match lastValue .refreshHz entries with
    | some value => clampHz ((strtol value).getD 0)
    | none => 1

/-- A number beyond the range of int reads as one that gives the same interval. -/
def ReadsAlike (value : Bytes) : Prop :=
  ∀ n ∈ strtol value, (2147483647 < n → 59 ≤ (atoi value).toInt) ∧
    (n < -2147483648 → (atoi value).toInt ≤ 1)

/-- The option is given, or the file asks for one refresh a second, too. -/
def RateReachesLoops (args : List Bytes) (entries : List Entry) : Prop :=
  match lastArgument .interval args with
  | some value => ReadsAlike value
  | none => ∀ value ∈ lastValue .refreshHz entries, ∀ n ∈ strtol value, n ≤ 1

theorem clampHz_range (n : ℤ) : 1 ≤ clampHz n ∧ clampHz n ≤ 60 := by
  unfold clampHz
  omega

theorem interval_of_range {x : ℤ} (hlow : 1 ≤ x) (hhigh : x ≤ 60) :
    (1000 / x = 1000 ↔ x ≤ 1) ∧ (1000 / x = 16 ↔ 59 ≤ x) := by
  have htable : ∀ k : ℕ, k < 61 → 1 ≤ k →
      ((1000 / (k : ℤ) = 1000 ↔ (k : ℤ) ≤ 1) ∧ (1000 / (k : ℤ) = 16 ↔ 59 ≤ (k : ℤ))) := by
    decide +kernel
  obtain ⟨k, rfl⟩ := Int.eq_ofNat_of_zero_le (by omega : 0 ≤ x)
  exact htable k (by omega) (by omega)

theorem refreshInterval_eq {cfg : Config} {hz : ℤ} (h : cfg.refreshHz.toInt = hz) (hlow : 1 ≤ hz)
    (hhigh : hz ≤ 60) :
    ∃ interval, refreshInterval cfg = some interval ∧ interval.toInt = 1000 / hz := by
  have hne : cfg.refreshHz ≠ 0 := by
    intro hzero
    rw [hzero] at h
    have hzero' : hz = 0 := h.symm
    omega
  refine ⟨1000 / cfg.refreshHz, if_neg hne, ?_⟩
  rw [Int32.toInt_div_of_ne_left _ _ (by decide), h]
  exact Int.tdiv_eq_ediv_of_nonneg (show (0 : ℤ) ≤ 1000 by omega)

/-- The interval of an option's value is the one asked for exactly when its number reads
alike. -/
theorem readsAlike_iff (value : Bytes) :
    1000 / clampHz (atoi value).toInt = 1000 / clampHz ((strtol value).getD 0) ↔
      ReadsAlike value := by
  obtain ⟨hlow, hhigh⟩ := clampHz_range (atoi value).toInt
  obtain ⟨hslow, hfast⟩ := interval_of_range hlow hhigh
  cases hn : strtol value with
  | none =>
    have hatoi : atoi value = 0 := by simp only [atoi, hn]
    rw [hatoi, ReadsAlike, hn]
    exact iff_of_true rfl (fun n hn => by cases hn)
  | some n =>
    rw [Option.getD_some]
    have hall : ReadsAlike value ↔ (2147483647 < n → 59 ≤ (atoi value).toInt) ∧
        (n < -2147483648 → (atoi value).toInt ≤ 1) := by
      simp [ReadsAlike, hn]
    rw [hall]
    rcases lt_or_ge 2147483647 n with habove | hbelow
    · have hclamp : clampHz n = 60 := by unfold clampHz; omega
      rw [hclamp, show (1000 / 60 : ℤ) = 16 from rfl, hfast]
      unfold clampHz
      omega
    · rcases lt_or_ge n (-2147483648) with hunder | hin
      · have hclamp : clampHz n = 1 := by unfold clampHz; omega
        rw [hclamp, show (1000 / 1 : ℤ) = 1000 from rfl, hslow]
        unfold clampHz
        omega
      · rw [(atoi_of_int hn ⟨hin, hbelow⟩).2]
        exact iff_of_true rfl ⟨fun h => by omega, fun h => by omega⟩

theorem interval_iff (args : List Bytes) (entries : List Entry) :
    1000 / (parseArgs {} args).refreshHz.toInt = 1000 / effectiveHz args entries ↔
      RateReachesLoops args entries := by
  rw [parseArgs_refreshHz, effectiveHz, RateReachesLoops]
  cases lastArgument .interval args with
  | some value =>
    simp only [Option.map_some, Option.getD_some, intervalArgument_toInt]
    exact readsAlike_iff value
  | none =>
    simp only [Option.map_none, Option.getD_none]
    change (1000 : ℤ) = _ ↔ _
    cases lastValue .refreshHz entries with
    | none => exact iff_of_true rfl (fun value hvalue => by cases hvalue)
    | some value =>
      obtain ⟨hlow, hhigh⟩ := clampHz_range ((strtol value).getD 0)
      simp only [Option.mem_def, Option.some.injEq, forall_eq', eq_comm (a := (1000 : ℤ)),
        (interval_of_range hlow hhigh).1]
      cases strtol value with
      | none => exact iff_of_true (by decide) (fun n hn => by cases hn)
      | some n =>
        simp only [Option.getD_some, Option.some.injEq, forall_eq', clampHz]
        omega

theorem parseArgs_refreshHz_range (args : List Bytes) :
    1 ≤ (parseArgs {} args).refreshHz.toInt ∧ (parseArgs {} args).refreshHz.toInt ≤ 60 := by
  rw [parseArgs_refreshHz]
  cases lastArgument .interval args with
  | none => decide
  | some value =>
    rw [Option.map_some, Option.getD_some, intervalArgument_toInt]
    exact clampHz_range _

theorem main_connect_cfg {scan : Scan} {fs fs' : FileSystem} {stdin : Bytes} {args : List Bytes}
    {cfg : Config} {s : Settings}
    (hmain : main scan fs stdin args = .ok (some (.connect cfg s, fs'))) :
    cfg = parseArgs {} args := by
  cases hload : load fs (parseArgs {} args).configPath with
  | ok file => exact (main_connect hload hmain).1
  | error err =>
    unfold main at hmain
    dsimp only at hmain
    split at hmain
    · cases hmain
    · split at hmain
      · obtain ⟨result, _, heq⟩ := ConfigRoundTrip.map_eq_ok hmain
        cases result <;> cases heq
      · rw [hload] at hmain
        cases hmain

/-- In a run that connects the rate is between 1 and 60, and both loops refresh at the
rate asked for exactly when the option gives it, read without wrapping, or the file asks
for no more than one refresh a second. -/
theorem refresh_interval_iff (scan : Scan) (fs fs' : FileSystem) (stdin : Bytes)
    (args : List Bytes) (cfg : Config) (s : Settings)
    (hmain : main scan fs stdin args = .ok (some (.connect cfg s, fs'))) :
    (1 ≤ cfg.refreshHz.toInt ∧ cfg.refreshHz.toInt ≤ 60) ∧
      ((Paced (terminalLoop cfg) (1000 / effectiveHz args (written fs cfg.configPath)) ∧
          Paced (serverLoop cfg) (1000 / effectiveHz args (written fs cfg.configPath))) ↔
        RateReachesLoops args (written fs cfg.configPath)) := by
  have hcfg := main_connect_cfg hmain
  subst hcfg
  have hrange := parseArgs_refreshHz_range args
  obtain ⟨interval, hinterval, hvalue⟩ := refreshInterval_eq rfl hrange.1 hrange.2
  refine ⟨hrange, ?_⟩
  rw [paced_iff hinterval, hvalue]
  exact interval_iff args _

def tenHz : List Bytes := [utf8 "--interval", utf8 "10", utf8 "10.0.0.1"]

theorem refresh_interval_iff_option :
    (1 ≤ (parseArgs {} tenHz).refreshHz.toInt ∧ (parseArgs {} tenHz).refreshHz.toInt ≤ 60) ∧
      ((Paced (terminalLoop (parseArgs {} tenHz))
            (1000 / effectiveHz tenHz (written portDisk (parseArgs {} tenHz).configPath)) ∧
          Paced (serverLoop (parseArgs {} tenHz))
            (1000 / effectiveHz tenHz (written portDisk (parseArgs {} tenHz).configPath))) ↔
        RateReachesLoops tenHz (written portDisk (parseArgs {} tenHz).configPath)) :=
  refresh_interval_iff (fun _ _ _ => []) portDisk portDisk [] tenHz (parseArgs {} tenHz)
    { portSettings with host := utf8 "10.0.0.1", refreshHz := 10 } rfl

def fiveHzDisk : FileSystem := diskWith "[solakon]\nip = 10.0.0.1\nrefresh_hz = 5\n"

/-- The rate of the file is loaded and both loops run once a second. -/
theorem file_rate_disregarded :
    ∃ s, main (fun _ _ _ => []) fiveHzDisk [] [] = .ok (some (.connect {} s, fiveHzDisk)) ∧
      s.refreshHz = 5 ∧ Paced (terminalLoop {}) 1000 ∧ Paced (serverLoop {}) 1000 ∧
      ¬ (Paced (terminalLoop {}) (1000 / effectiveHz [] (written fiveHzDisk [])) ∧
        Paced (serverLoop {}) (1000 / effectiveHz [] (written fiveHzDisk []))) := by
  have hinterval : refreshInterval {} = some 1000 := rfl
  refine ⟨{ host := utf8 "10.0.0.1", refreshHz := 5, configPath := utf8 "solakon.conf" }, rfl, rfl,
    terminalLoop_paced hinterval, serverLoop_paced hinterval, ?_⟩
  rw [paced_iff hinterval,
    show effectiveHz [] (written fiveHzDisk []) = 5 from rfl]
  decide

end SolakonMonitor.RefreshRate
