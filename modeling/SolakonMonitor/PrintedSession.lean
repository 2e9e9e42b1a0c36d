import SolakonMonitor.MonitorOutput
import SolakonMonitor.PollPacing

/-!
A run in the terminal as a session.
A session is told which snapshot each pass would fetch. With the clocks and windows of a run and
the snapshots it has polled, it prints what the run prints. So what is known of the output of
sessions holds of the runs on a device.
-/
namespace SolakonMonitor.PrintedSession

open BigEndian ModbusClient Device ConfigLoader MainProgram Descriptors SocketOwnership RefreshRate
open MonitorRun PassLoop PollPacing TerminalScreen JsonText OneShotOutput MonitorOutput

variable {σ : Type}

def polls (passes : List (Pass × OneShotOutput.Tick)) : List (ℤ × DeviceSnapshot) :=
  passes.flatMap (fun p => if p.1.fetches then [(p.2.steady, p.2.snap)] else [])

theorem polls_cons (pass : Pass) (tick : OneShotOutput.Tick)
    (passes : List (Pass × OneShotOutput.Tick)) : polls ((pass, tick) :: passes) =
      (if pass.fetches then [(tick.steady, tick.snap)] else []) ++ polls passes :=
  List.flatMap_cons

/-- The tick of a pass, whichever snapshot it is given. -/
def Ticks (frame : Frame) (tick : OneShotOutput.Tick) : Prop :=
  tick = ⟨frame.steady, frame.wall, frame.winsize, tick.snap⟩

/-- These passes of a session lead from one state of the printing loop to the other. -/
structure Retraces (cfg : Config) (frames : List Frame) (p p' : Printing σ)
    (passes : List Pass) (ticks : List OneShotOutput.Tick) : Prop where
  frames : List.Forall₂ Ticks frames ticks
  clock : RefreshRate.terminalLoop cfg p.world.lastRefresh (ticks.map OneShotOutput.Tick.steady) =
    some passes
  polled : p'.world.polled = p.world.polled ++ polls (passes.zip ticks)
  text : p'.text = p.text ++ passesText cfg p.ui (passes.zip ticks)

theorem printingPass_cases {cfg : Config} {sock : Socket σ} {frame : Frame} {p p' : Printing σ}
    (h : MonitorOutput.terminalPass cfg sock frame p = some p') :
    ∃ isDue, due cfg frame.toTick p.world = some isDue ∧
      ((cfg.once || isDue) = true ∧ (∃ snap w, fetch sock frame.toTick p.world = some (snap, w) ∧
          p' = { p with
            world := w
            ui := (draw cfg frame snap p.ui).1
            text := p.text ++ (draw cfg frame snap p.ui).2 }) ∨
        ¬ (cfg.once || isDue) = true ∧ p' = p) := by
  simp only [MonitorOutput.terminalPass, Option.bind_eq_bind, Option.bind_eq_some_iff,
    Option.pure_def] at h
  obtain ⟨isDue, hdue, h⟩ := h
  refine ⟨isDue, hdue, ?_⟩
  split at h
  · rename_i hlate
    obtain ⟨⟨snap, w⟩, hfetch, heq⟩ := Option.bind_eq_some_iff.mp h
    cases heq
    exact .inl ⟨hlate, snap, w, hfetch, rfl⟩
  · rename_i hearly
    cases h
    exact .inr ⟨hearly, rfl⟩

theorem terminalPass_world {cfg : Config} {sock : Socket σ} {frame : Frame} {p p' : Printing σ}
    (h : MonitorOutput.terminalPass cfg sock frame p = some p') :
    MonitorRun.terminalPass cfg sock frame.toTick p.world = some p'.world := by
  obtain ⟨isDue, hdue, ⟨hlate, snap, w, hfetch, rfl⟩ | ⟨hearly, rfl⟩⟩ := printingPass_cases h
  · simp only [MonitorRun.terminalPass, hdue, hfetch, if_pos hlate, Option.bind_eq_bind,
      Option.bind_some, Option.pure_def]
  · simp only [MonitorRun.terminalPass, hdue, if_neg hearly, Option.bind_eq_bind,
      Option.bind_some, Option.pure_def]

/-- One pass, given the session of the later ones. -/
theorem terminalPass_retraces {cfg : Config} {sock : Socket σ} {frame : Frame}
    {p p₁ p' : Printing σ} (h : MonitorOutput.terminalPass cfg sock frame p = some p₁)
    {frames : List Frame} {passes : List Pass} {ticks : List OneShotOutput.Tick}
    (hlater : Retraces cfg frames p₁ p' passes ticks)
    (hends : (cfg.once || quits frame.key) = true → ticks = []) :
    ∃ pass tick, Retraces cfg (frame :: frames) p p' (pass :: passes) (tick :: ticks) := by
  obtain ⟨pass, hfollows, hclock⟩ := terminalPass_follows (terminalPass_world h)
  have hpasses : RefreshRate.terminalLoop cfg p.world.lastRefresh
      (frame.steady :: ticks.map OneShotOutput.Tick.steady) = some (pass :: passes) := by
    refine hclock _ _ (fun hleaves => ?_) hlater.clock
    rw [hends hleaves, List.map_nil]
  have hlength := congrArg List.length hfollows.polled
  obtain ⟨_, _, ⟨_, snap, w, hfetch, rfl⟩ | ⟨_, rfl⟩⟩ := printingPass_cases h
  · have hpolled := (fetch_records hfetch).2
    have hfetches : pass.fetches = true := by
      by_contra hnot
      rw [if_neg hnot, hpolled] at hlength
      simp at hlength
    let tick : OneShotOutput.Tick := ⟨frame.steady, frame.wall, frame.winsize, snap⟩
    refine ⟨pass, tick, .cons rfl hlater.frames, hpasses, ?_, ?_⟩
    · rw [hlater.polled, List.zip_cons_cons, polls_cons, if_pos hfetches, ← List.append_assoc]
      exact congrArg (· ++ polls (passes.zip ticks)) hpolled
    · rw [hlater.text, List.zip_cons_cons, passesText, if_pos hfetches, ← List.append_assoc]
      rfl
  · have hwaits : ¬ pass.fetches = true := by
      intro hfetches
      rw [if_pos hfetches] at hlength
      simp at hlength
    let tick : OneShotOutput.Tick := ⟨frame.steady, frame.wall, frame.winsize, {}⟩
    refine ⟨pass, tick, .cons rfl hlater.frames, hpasses, ?_, ?_⟩
    · rw [hlater.polled, List.zip_cons_cons, polls_cons, if_neg hwaits, List.nil_append]
    · rw [hlater.text, List.zip_cons_cons, passesText, if_neg hwaits]

theorem terminalLoop_retraces {cfg : Config} {sock : Socket σ} (frames : List Frame)
    {p p' : Printing σ} (hloop : loop (MonitorOutput.terminalPass cfg sock)
      (fun frame => cfg.once || quits frame.key) frames p = some p') :
    ∃ passes ticks, Retraces cfg (passed (fun frame => cfg.once || quits frame.key) frames) p p'
      passes ticks := by
  have hended (p : Printing σ) : Retraces cfg [] p p [] [] :=
    ⟨.nil, rfl, (List.append_nil _).symm, (List.append_nil _).symm⟩
  induction frames generalizing p with
  | nil =>
    cases hloop
    exact ⟨[], [], hended _⟩
  | cons frame rest ih =>
    rw [loop, Option.bind_eq_bind] at hloop
    obtain ⟨p₁, hpass, hloop⟩ := Option.bind_eq_some_iff.mp hloop
    rw [passed]
    split at hloop
    · rename_i hleaves
      cases hloop
      rw [if_pos hleaves]
      obtain ⟨pass, tick, hretraces⟩ := terminalPass_retraces hpass (hended _) (fun _ => rfl)
      exact ⟨_, _, hretraces⟩
    · rename_i hstays
      rw [if_neg hstays]
      obtain ⟨passes, ticks, hlater⟩ := ih hloop
      obtain ⟨pass, tick, hretraces⟩ :=
        terminalPass_retraces hpass hlater (fun hleaves => absurd hleaves hstays)
      exact ⟨_, _, hretraces⟩

/-- The session of a run, when its passes meet these ticks. -/
def sessionOf (s : Surroundings σ) (winsize : Winsize) (ticks : List OneShotOutput.Tick) :
    Session (Table Int32) where
  sys := kernel s.socket s.refused
  pton := s.pton
  net := .empty
  winsize := winsize
  start := s.start
  ticks := ticks

theorem connects_sessionOf (s : Surroundings σ) (settings : Settings) (winsize : Winsize)
    (ticks : List OneShotOutput.Tick) :
    OneShotOutput.connects settings (sessionOf s winsize ticks) = s.connects := by
  obtain ⟨device, sockets, hconnect, _⟩ := connect_leaves s settings.host settings.modbusPort
  exact congrArg Prod.fst hconnect

/-- A run in the terminal prints what its session prints, and has polled what the session is told
that the passes fetch. -/
theorem monitorText_session {cfg : Config} (hterminal : cfg.server = false) {settings : Settings}
    {s : Surroundings σ} {frames : List Frame} (hticks : s.ticks = frames.map Frame.toTick)
    {exit : Exit σ} (hrun : monitorRun cfg settings s = some exit) (winsize : Winsize) :
    ∃ ticks, OneShotOutput.monitorText cfg settings (sessionOf s winsize ticks) =
        MonitorOutput.monitorText cfg settings s winsize frames ∧
      (exit.code = 0 →
        List.Forall₂ Ticks (passed (fun frame => cfg.once || quits frame.key) frames) ticks ∧
        ∃ passes, RefreshRate.terminalLoop cfg s.start (ticks.map OneShotOutput.Tick.steady) =
            some passes ∧
          exit.polled = polls (passes.zip ticks)) := by
  rcases monitorRun_loop hrun with
    ⟨hfailed, _⟩ | ⟨device, sockets, w, _, hconnect, _, hloop, hpolled, _⟩
  · refine ⟨[], ?_, fun hzero => absurd (hfailed.symm.trans hzero) (by decide)⟩
    have hne : exit.code ≠ 0 := hfailed ▸ Nat.one_ne_zero
    have hnot : ¬ s.connects = true := by
      intro hyes
      refine hne ((monitorRun_code hrun).mpr ⟨hyes, fun hserver => ?_⟩)
      rw [hterminal] at hserver
      cases hserver
    rw [failure_prints hrun hne, OneShotOutput.monitorText, connects_sessionOf, if_neg hnot,
      if_neg hnot]
  · rw [hterminal, if_neg Bool.false_ne_true, hticks] at hloop
    obtain ⟨p, hprinting, hworld, _⟩ := terminalLoop_draws (resize winsize {}) frames rfl hloop
    obtain ⟨passes, ticks, hretraces⟩ := terminalLoop_retraces frames hprinting
    have hconnects : s.connects = true := by
      obtain ⟨_, _, hconnected, _⟩ := connect_leaves s settings.host settings.modbusPort
      exact congrArg Prod.fst (hconnected.symm.trans hconnect)
    refine ⟨ticks, ?_, fun _ => ⟨hretraces.frames, passes, hretraces.clock, ?_⟩⟩
    · have hclock : RefreshRate.terminalLoop cfg s.start (ticks.map OneShotOutput.Tick.steady) =
          some passes := hretraces.clock
      have htext : p.text = passesText cfg (resize winsize {}) (passes.zip ticks) :=
        hretraces.text
      rw [OneShotOutput.monitorText, connects_sessionOf, if_pos hconnects, terminalText]
      simp only [sessionOf, hclock, Option.map_some, MonitorOutput.monitorText, hconnect,
        hterminal, hprinting, htext, Bool.false_eq_true, not_true_eq_false, not_false_eq_true,
        if_true, if_false, Option.bind_eq_bind, Option.bind_some, Option.pure_def]
    · rw [hpolled, ← hworld, hretraces.polled]
      exact List.nil_append _

/-- So no run in the terminal prints a document, in JSON or not. -/
theorem terminal_not_document {cfg : Config} (hterminal : cfg.server = false)
    {settings : Settings} {s : Surroundings σ} {frames : List Frame}
    (hticks : s.ticks = frames.map Frame.toTick) {exit : Exit σ}
    (hrun : monitorRun cfg settings s = some exit) (winsize : Winsize) {text : Bytes}
    (htext : MonitorOutput.monitorText cfg settings s winsize frames = some text) :
    readDocument text = none := by
  obtain ⟨ticks, hsession, _⟩ := monitorText_session hterminal hticks hrun winsize
  exact readDocument_foreign (isForeign_monitorText (hsession.trans htext))

end SolakonMonitor.PrintedSession
