import SolakonMonitor.MonitorRun

/-!
When a run polls the device.
The poll loops of a whole run follow the loops that only look at the clock: the device is polled
in the passes that these say fetch. So polls are never closer than the interval, and not much
further apart as long as the passes come often enough.
-/
namespace SolakonMonitor.PollPacing

open ModbusClient Device ConfigLoader MainProgram RefreshRate MonitorRun PassLoop

variable {σ : Type}

def fetchTimes : List Pass → List ℤ → List ℤ
  | pass :: passes, now :: nows =>
    if pass.fetches then now :: fetchTimes passes nows else fetchTimes passes nows
  | _, _ => []

/-- A pass with these two worlds is this one of the loop that looks at the clock. -/
structure Follows (p : Pass) (tick : Tick) (w w' : World σ) : Prop where
  lastRefresh : w'.lastRefresh = if p.fetches then tick.steady else w.lastRefresh
  polled : w'.polled.map Prod.fst =
    w.polled.map Prod.fst ++ if p.fetches then [tick.steady] else []

theorem follows_fetch {sock : Socket σ} {tick : Tick} {w w' : World σ} {snap : DeviceSnapshot}
    (h : fetch sock tick w = some (snap, w')) (interval : Int32) :
    Follows ⟨interval, true⟩ tick w w' := by
  obtain ⟨hlast, hpolled⟩ := fetch_records h
  refine ⟨hlast, ?_⟩
  rw [hpolled, List.map_append]
  rfl

theorem follows_wait (interval : Int32) (tick : Tick) (w : World σ) :
    Follows ⟨interval, false⟩ tick w w :=
  ⟨rfl, (List.append_nil _).symm⟩

theorem pollLoop_refines {pass : Tick → World σ → Option (World σ)} {leaves : Tick → Bool}
    {clock : ℤ → List ℤ → Option (List Pass)} (hstart : ∀ last, clock last [] = some [])
    (hpass : ∀ tick w w', pass tick w = some w' → ∃ p, Follows p tick w w' ∧
      ∀ rest passes, (leaves tick = true → rest = []) → clock w'.lastRefresh rest = some passes →
        clock w.lastRefresh (tick.steady :: rest) = some (p :: passes))
    (ticks : List Tick) {w w' : World σ} (hloop : loop pass leaves ticks w = some w') :
    ∃ passes, clock w.lastRefresh ((passed leaves ticks).map Tick.steady) = some passes ∧
      w'.polled.map Prod.fst = w.polled.map Prod.fst ++
        fetchTimes passes ((passed leaves ticks).map Tick.steady) := by
  induction ticks generalizing w with
  | nil =>
    cases hloop
    exact ⟨[], hstart _, (List.append_nil _).symm⟩
  | cons tick rest ih =>
    rw [loop, Option.bind_eq_bind] at hloop
    obtain ⟨w₁, hstep, hloop⟩ := Option.bind_eq_some_iff.mp hloop
    obtain ⟨p, hfollows, hclock⟩ := hpass tick w w₁ hstep
    by_cases hleaves : leaves tick = true
    · rw [if_pos hleaves] at hloop
      cases hloop
      rw [passed, if_pos hleaves]
      refine ⟨[p], hclock [] [] (fun _ => rfl) (hstart _), ?_⟩
      rw [hfollows.polled, List.map_singleton, fetchTimes]
      rfl
    · rw [if_neg hleaves] at hloop
      obtain ⟨passes, hpasses, hpolled⟩ := ih hloop
      rw [passed, if_neg hleaves, List.map_cons]
      refine ⟨p :: passes, hclock _ _ (fun hyes => absurd hyes hleaves) hpasses, ?_⟩
      rw [hpolled, hfollows.polled, fetchTimes]
      split
      · rw [List.append_assoc, List.singleton_append]
      · rw [List.append_nil]

theorem due_some {cfg : Config} {tick : Tick} {w : World σ} {isDue : Bool}
    (h : due cfg tick w = some isDue) :
    ∃ interval, refreshInterval cfg = some interval ∧
      isDue = decide (interval.toInt ≤ elapsedMs tick.steady w.lastRefresh) := by
  obtain ⟨interval, hinterval, heq⟩ := Option.map_eq_some_iff.mp h
  exact ⟨interval, hinterval, heq.symm⟩

theorem serverPass_follows {cfg : Config} {sock : Socket σ} {tick : Tick} {w w' : World σ}
    (h : serverPass cfg sock tick w = some w') :
    ∃ p, Follows p tick w w' ∧ ∀ rest passes,
      RefreshRate.serverLoop cfg w'.lastRefresh rest = some passes →
        RefreshRate.serverLoop cfg w.lastRefresh (tick.steady :: rest) = some (p :: passes) := by
  obtain ⟨isDue, hdue, hcases⟩ := serverPass_cases h
  obtain ⟨interval, hinterval, rfl⟩ := due_some hdue
  obtain ⟨hlate, snap, w₁, hfetch, rfl⟩ | ⟨hearly, rfl⟩ := hcases
  · have hfollows := follows_fetch hfetch interval
    refine ⟨_, ⟨hfollows.lastRefresh, hfollows.polled⟩, fun rest passes hpasses => ?_⟩
    have hlast : w₁.lastRefresh = tick.steady := hfollows.lastRefresh
    change RefreshRate.serverLoop cfg w₁.lastRefresh rest = some passes at hpasses
    rw [hlast] at hpasses
    simp only [RefreshRate.serverLoop, hinterval, if_pos (of_decide_eq_true hlate), hpasses,
      Option.bind_eq_bind, Option.bind_some, Option.pure_def]
  · have hfollows := follows_wait interval tick w
    refine ⟨_, ⟨hfollows.lastRefresh, hfollows.polled⟩, fun rest passes hpasses => ?_⟩
    change RefreshRate.serverLoop cfg w.lastRefresh rest = some passes at hpasses
    have hwaits : ¬ interval.toInt ≤ elapsedMs tick.steady w.lastRefresh :=
      fun hyes => hearly (decide_eq_true hyes)
    simp only [RefreshRate.serverLoop, hinterval, if_neg hwaits, hpasses, Option.bind_eq_bind,
      Option.bind_some, Option.pure_def]

theorem terminalPass_follows {cfg : Config} {sock : Socket σ} {tick : Tick} {w w' : World σ}
    (h : terminalPass cfg sock tick w = some w') :
    ∃ p, Follows p tick w w' ∧ ∀ rest passes,
      ((cfg.once || quits tick.key) = true → rest = []) →
        RefreshRate.terminalLoop cfg w'.lastRefresh rest = some passes →
          RefreshRate.terminalLoop cfg w.lastRefresh (tick.steady :: rest) =
            some (p :: passes) := by
  obtain ⟨isDue, hdue, hcases⟩ := terminalPass_cases h
  obtain ⟨interval, hinterval, rfl⟩ := due_some hdue
  obtain ⟨hlate, snap, hfetch⟩ | ⟨hearly, rfl⟩ := hcases
  · rw [Bool.or_eq_true, decide_eq_true_eq] at hlate
    have hfollows := follows_fetch hfetch interval
    refine ⟨_, hfollows, fun rest passes hends hpasses => ?_⟩
    have hlast : w'.lastRefresh = tick.steady := hfollows.lastRefresh
    rw [hlast] at hpasses
    by_cases honce : cfg.once = true
    · obtain rfl := hends (by rw [honce, Bool.true_or])
      cases hpasses
      simp only [RefreshRate.terminalLoop, hinterval, if_pos hlate, if_pos honce,
        Option.bind_eq_bind, Option.bind_some, Option.pure_def]
    · simp only [RefreshRate.terminalLoop, hinterval, if_pos hlate, if_neg honce, hpasses,
        Option.bind_eq_bind, Option.bind_some, Option.pure_def]
  · rw [Bool.or_eq_true, decide_eq_true_eq] at hearly
    refine ⟨_, follows_wait interval tick _, fun rest passes _ hpasses => ?_⟩
    simp only [RefreshRate.terminalLoop, hinterval, if_neg hearly, hpasses, Option.bind_eq_bind,
      Option.bind_some, Option.pure_def]

/-- The loop of the mode that a run is in, by its clock. -/
def clockLoop (cfg : Config) : ℤ → List ℤ → Option (List Pass) :=
  if cfg.server then RefreshRate.serverLoop cfg else RefreshRate.terminalLoop cfg

/-- The clock readings of a run's passes. -/
def readings (cfg : Config) (s : Surroundings σ) : List ℤ :=
  (passed (fun tick => (!cfg.server && cfg.once) || quits tick.key) s.ticks).map Tick.steady

/-- The loop of a run polls when the loop that only looks at the clock fetches. -/
theorem loop_refines {cfg : Config} {s : Surroundings σ} {device : SolakonDevice} {w : World σ}
    (hloop : (if cfg.server then serverLoop cfg s.sock s.ticks (s.world device)
      else terminalLoop cfg s.sock s.ticks (s.world device)) = some w) :
    ∃ passes, clockLoop cfg s.start (readings cfg s) = some passes ∧
      w.polled.map Prod.fst = fetchTimes passes (readings cfg s) := by
  rw [clockLoop, readings]
  cases hserver : cfg.server with
  | true =>
    rw [hserver, if_pos rfl] at hloop
    exact pollLoop_refines (fun _ => rfl)
      (fun tick w w' hpass =>
        have ⟨p, hfollows, hclock⟩ := serverPass_follows hpass
        ⟨p, hfollows, fun rest passes _ hpasses => hclock rest passes hpasses⟩)
      s.ticks hloop
  | false =>
    rw [hserver, if_neg Bool.false_ne_true] at hloop
    exact pollLoop_refines (fun _ => rfl) (fun tick w w' hpass => terminalPass_follows hpass)
      s.ticks hloop

/-- The device is polled in the passes that the clock's loop of the mode says fetch, and not at
all on a way out without a loop. -/
theorem monitor_follows_clock {cfg : Config} {settings : Settings} {s : Surroundings σ}
    {exit : Exit σ} (hrun : monitorRun cfg settings s = some exit) :
    (exit.code = 0 → ∃ passes, clockLoop cfg s.start (readings cfg s) = some passes ∧
      exit.polled.map Prod.fst = fetchTimes passes (readings cfg s)) ∧
    (exit.code ≠ 0 → exit.polled = []) := by
  rcases monitorRun_loop hrun with
    ⟨hcode, hnone, _⟩ | ⟨device, sockets, w, hcode, _, _, hloop, hpolled, _⟩
  · exact ⟨fun hzero => absurd (hcode.symm.trans hzero) (by decide), fun _ => hnone⟩
  · rw [hpolled]
    exact ⟨fun _ => loop_refines hloop, fun hne => absurd hcode hne⟩

theorem monitor_follows_clock_twoPasses :
    ∃ exit, monitorRun serving {} twoPasses = some exit ∧
      (exit.code = 0 → ∃ passes,
        clockLoop serving twoPasses.start (readings serving twoPasses) = some passes ∧
          exit.polled.map Prod.fst = fetchTimes passes (readings serving twoPasses)) ∧
      (exit.code ≠ 0 → exit.polled = []) := by
  obtain ⟨exit, hrun⟩ := twoPasses_runs
  exact ⟨exit, hrun, monitor_follows_clock hrun⟩

/-- For a positive interval the truncation to milliseconds does not matter. -/
theorem due_iff {interval : ℤ} (hpos : 0 < interval) (now last : ℤ) :
    interval ≤ elapsedMs now last ↔ interval * 1000000 ≤ now - last := by
  rw [elapsedMs]
  rcases le_or_gt 0 (now - last) with hlater | hearlier
  · rw [Int.tdiv_eq_ediv_of_nonneg hlater]
    omega
  · have htruncated : (now - last).tdiv 1000000 = -((last - now) / 1000000) := by
      rw [← Int.tdiv_eq_ediv_of_nonneg (by omega : 0 ≤ last - now), ← Int.neg_tdiv, neg_sub]
    rw [htruncated]
    omega

/-- The two loops differ only for one snapshot. -/
theorem terminalLoop_eq {cfg : Config} (h : cfg.once = false) (last : ℤ) (nows : List ℤ) :
    RefreshRate.terminalLoop cfg last nows = RefreshRate.serverLoop cfg last nows := by
  induction nows generalizing last with
  | nil => rfl
  | cons now rest ih =>
    simp only [RefreshRate.terminalLoop, RefreshRate.serverLoop, h, ih, Bool.false_eq_true,
      false_or, if_false]

/-- Two polls are an interval apart at least, and `slack` more at most. -/
def Spaced (interval slack a b : ℤ) : Prop :=
  interval * 1000000 ≤ b - a ∧ b - a < interval * 1000000 + slack

/-- The pass at `prev` came before the next poll was due. -/
theorem serverLoop_spaced {cfg : Config} {interval : Int32}
    (hinterval : refreshInterval cfg = some interval) (hpos : 0 < interval.toInt) {slack : ℤ}
    (nows : List ℤ) {prev last : ℤ} (hrecent : prev - last < interval.toInt * 1000000)
    (htimes : (prev :: nows).IsChain (fun a b => b ≤ a + slack)) {passes : List Pass}
    (hpasses : RefreshRate.serverLoop cfg last nows = some passes) :
    (last :: fetchTimes passes nows).IsChain (Spaced interval.toInt slack) := by
  induction nows generalizing prev last passes with
  | nil =>
    cases hpasses
    exact List.isChain_singleton _
  | cons now rest ih =>
    obtain ⟨hslack, hlater⟩ := List.isChain_cons_cons.mp htimes
    simp only [RefreshRate.serverLoop, hinterval, Option.bind_eq_bind, Option.bind_some,
      Option.pure_def, due_iff hpos] at hpasses
    split at hpasses
    · rename_i hdue
      obtain ⟨later, hrest, heq⟩ := Option.bind_eq_some_iff.mp hpasses
      cases heq
      rw [fetchTimes, if_pos rfl]
      refine List.isChain_cons_cons.mpr ⟨⟨hdue, by omega⟩, ih ?_ hlater hrest⟩
      omega
    · rename_i hearly
      obtain ⟨later, hrest, heq⟩ := Option.bind_eq_some_iff.mp hpasses
      cases heq
      rw [fetchTimes, if_neg Bool.false_ne_true]
      exact ih (by omega) hlater hrest

/-- A pass that comes an interval after the last poll polls. -/
theorem serverLoop_recent {cfg : Config} {interval : Int32}
    (hinterval : refreshInterval cfg = some interval) (hpos : 0 < interval.toInt)
    (nows : List ℤ) {last : ℤ} {passes : List Pass}
    (hpasses : RefreshRate.serverLoop cfg last nows = some passes) :
    last ≤ (fetchTimes passes nows).getLastD last ∧
      ∀ now ∈ nows, now - (fetchTimes passes nows).getLastD last < interval.toInt * 1000000 := by
  induction nows generalizing last passes with
  | nil =>
    cases hpasses
    exact ⟨le_refl last, List.forall_mem_nil _⟩
  | cons now rest ih =>
    simp only [RefreshRate.serverLoop, hinterval, Option.bind_eq_bind, Option.bind_some,
      Option.pure_def, due_iff hpos] at hpasses
    split at hpasses
    · rename_i hdue
      obtain ⟨later, hrest, heq⟩ := Option.bind_eq_some_iff.mp hpasses
      cases heq
      obtain ⟨hlast, hrecent⟩ := ih hrest
      rw [fetchTimes, if_pos rfl, List.getLastD_cons]
      exact ⟨by omega, List.forall_mem_cons.mpr ⟨by omega, hrecent⟩⟩
    · rename_i hearly
      obtain ⟨later, hrest, heq⟩ := Option.bind_eq_some_iff.mp hpasses
      cases heq
      obtain ⟨hlast, hrecent⟩ := ih hrest
      rw [fetchTimes, if_neg Bool.false_ne_true]
      exact ⟨hlast, List.forall_mem_cons.mpr ⟨by omega, hrecent⟩⟩

/-- Away from `--once`, the device is polled no sooner than the interval after the last poll, or
after the start, and later only by less than the longest time between two passes. No pass that
comes so late goes without a poll. -/
theorem polls_paced {cfg : Config} (hlow : 1 ≤ cfg.refreshHz.toInt)
    (hhigh : cfg.refreshHz.toInt ≤ 60) (hmode : cfg.once = false ∨ cfg.server = true)
    {settings : Settings} {s : Surroundings σ} {slack : ℤ}
    (htimes : (s.start :: s.ticks.map Tick.steady).IsChain (fun a b => b ≤ a + slack))
    {exit : Exit σ} (hrun : monitorRun cfg settings s = some exit) :
    (s.start :: exit.polled.map Prod.fst).IsChain
      (Spaced (1000 / cfg.refreshHz.toInt) slack) ∧
    (exit.code = 0 → ∀ now ∈ readings cfg s, now - (exit.polled.map Prod.fst).getLastD s.start <
      1000 / cfg.refreshHz.toInt * 1000000) := by
  obtain ⟨interval, hinterval, hvalue⟩ := refreshInterval_eq rfl hlow hhigh
  have hpos : 0 < interval.toInt := by
    rw [hvalue]
    exact Int.le_ediv_of_mul_le (by omega) (by omega)
  rw [← hvalue]
  rcases monitorRun_loop hrun with
    ⟨hfailed, hnone, _⟩ | ⟨device, sockets, w, _, _, _, hloop, hpolled, _⟩
  · rw [hnone]
    exact ⟨List.isChain_singleton _, fun hzero => absurd (hfailed.symm.trans hzero) (by decide)⟩
  · obtain ⟨passes, hpasses, hfetched⟩ := loop_refines hloop
    have hserver : clockLoop cfg s.start (readings cfg s) =
        RefreshRate.serverLoop cfg s.start (readings cfg s) := by
      rw [clockLoop]
      split
      · rfl
      · rename_i hterminal
        exact terminalLoop_eq (hmode.resolve_right hterminal) _ _
    have hreadings : (s.start :: readings cfg s).IsChain (fun a b => b ≤ a + slack) :=
      htimes.prefix (List.cons_prefix_cons.mpr ⟨rfl, (passed_initial _ _).map _⟩)
    have hstart : s.start - s.start < interval.toInt * 1000000 := by omega
    rw [hserver] at hpasses
    rw [hpolled, hfetched]
    exact ⟨serverLoop_spaced hinterval hpos _ hstart hreadings hpasses,
      fun _ => (serverLoop_recent hinterval hpos _ hpasses).2⟩

theorem polls_paced_twoPasses :
    ∃ exit, monitorRun serving {} twoPasses = some exit ∧
      (twoPasses.start :: exit.polled.map Prod.fst).IsChain
        (Spaced (1000 / serving.refreshHz.toInt) 600000000) ∧
      (exit.code = 0 → ∀ now ∈ readings serving twoPasses,
        now - (exit.polled.map Prod.fst).getLastD twoPasses.start <
          1000 / serving.refreshHz.toInt * 1000000) := by
  obtain ⟨exit, hrun⟩ := twoPasses_runs
  have hlow : 1 ≤ serving.refreshHz.toInt := by decide
  have htimes : (twoPasses.start :: twoPasses.ticks.map Tick.steady).IsChain
      (fun a b => b ≤ a + 600000000) := by decide
  exact ⟨exit, hrun, polls_paced hlow (by decide) (Or.inr rfl) htimes hrun⟩

end SolakonMonitor.PollPacing
