import SolakonMonitor.MonitorRun
import SolakonMonitor.ScreenRestored

/-!
What a run of the monitor prints.
The loops are run with their output: a pass that polls draws what it has polled, and the server
mode shows every tenth poll. The printing loops return when the loops that only poll do, so what
a run prints is known from what it has polled: in JSON a reader gets back the snapshots, and the
terminal is left without a trace of the drawing.
-/
namespace SolakonMonitor.MonitorOutput

open BigEndian DecimalText Device ModbusClient ClientConnect ConfigLoader MainProgram SubnetText
open StateMachine SocketOwnership MonitorRun PassLoop TerminalScreen TerminalUi JsonText
open OneShotOutput ScreenRestored TerminalCodes

/-- A pass of a loop with the clock and the window that its output sees. -/
structure Frame extends MonitorRun.Tick where
  wall : ℤ
  winsize : Winsize

/-- The world with the remembered window, the count of updates and what has been printed. -/
structure Printing (σ : Type) where
  world : World σ
  ui : TerminalUI := {}
  counter : Int32 := 0
  text : Bytes := []

variable {σ : Type}

/-- What a pass draws that has polled this snapshot. -/
def draw (cfg : Config) (frame : Frame) (snap : DeviceSnapshot) (ui : TerminalUI) :
    TerminalUI × Bytes :=
  refresh cfg ⟨frame.steady, frame.wall, frame.winsize, snap⟩ ui

def terminalPass (cfg : Config) (sock : Socket σ) (frame : Frame) (p : Printing σ) :
    Option (Printing σ) := do
  let isDue ← due cfg frame.toTick p.world
  if cfg.once || isDue then
    let (snap, w) ← fetch sock frame.toTick p.world
    return { p with
      world := w
      ui := (draw cfg frame snap p.ui).1
      text := p.text ++ (draw cfg frame snap p.ui).2 }
  else return p

/-- None is a signed overflow. -/
def increment (counter : Int32) : Option Int32 :=
  if counter = 2147483647 then none else some (counter + 1)

def statusLine (snap : DeviceSnapshot) : Bytes :=
  utf8 "\r  PV: " ++ formatPower snap.energy.pvTotalPowerW ++
    utf8 " | AC: " ++ formatPower snap.energy.acActivePowerW ++
    utf8 " | Batterie: " ++ formatPower snap.energy.batteryPowerW ++
    utf8 " | Smart Meter: " ++ formatPower snap.energy.smartMeterPowerW ++ utf8 "    "

def serverPass (cfg : Config) (sock : Socket σ) (frame : Frame) (p : Printing σ) :
    Option (Printing σ) := do
  let isDue ← due cfg frame.toTick p.world
  if isDue then
    let (snap, w) ← fetch sock frame.toTick p.world
    let counter ← increment p.counter
    return { p with
      world := runThread frame.toTick { w with thread := ServerThread.step w.thread (.update snap) }
      counter := counter
      text := p.text ++ if counter % 10 = 0 then statusLine snap else [] }
  else return { p with world := runThread frame.toTick p.world }

def startFailedText : Bytes :=
  failureText (utf8 "Fehler: HTTP-Server konnte nicht gestartet werden!")
    (utf8 "Port bereits belegt oder keine Berechtigung.")
    (utf8 "Versuche einen anderen Port: solakon-monitor --server 9090")

def startedText (cfg : Config) : Bytes :=
  bold .green (utf8 "Erfolgreich verbunden! HTTP-Server gestartet.") ++ utf8 "\n" ++ utf8 "\n" ++
    utf8 "  " ++ bold .cyan (utf8 "HTTP-Server:") ++ utf8 " " ++
    bold .brightWhite (utf8 "http://localhost:" ++ decimalInt cfg.serverPort.toInt) ++ utf8 "\n" ++
    indented (dim .dimGray (utf8 "Druecke q zum Beenden")) ++ utf8 "\n"

def stoppingText : Bytes := utf8 "\n" ++ indented (dim .dimGray (utf8 "Server wird gestoppt..."))

/-- From the announcement of the connection on; the frames are the ticks of the surroundings. -/
def monitorText (cfg : Config) (settings : Settings) (s : Surroundings σ) (winsize : Winsize)
    (frames : List Frame) : Option Bytes := do
  let (connected, device, _) :=
    deviceConnect (kernel s.socket s.refused) s.pton {} settings.host settings.modbusPort .empty
  if ¬ connected then return connectingText settings ++ failedText settings
  else if ¬ cfg.server then
    let p ← loop (terminalPass cfg s.sock) (fun frame => cfg.once || quits frame.key) frames
      { world := s.world device, ui := resize winsize {} }
    return connectingText settings ++ (initText ++ connectedText ++ p.text ++ shutdownText)
  else
    let (started, _) ← ServerLifecycle.start s.listening .initial
    if ¬ started then return connectingText settings ++ startFailedText
    else
      let p ← loop (serverPass cfg s.sock) (fun frame => quits frame.key) frames
        { world := s.world device }
      return connectingText settings ++ (startedText cfg ++ p.text ++ stoppingText)

/-- What is drawn for snapshots polled one after another, on a window that is measured in
between. -/
def drawn (cfg : Config) (ui : TerminalUI) (shown : List (Frame × DeviceSnapshot)) :
    TerminalUI × Bytes :=
  shown.foldl (fun d f => ((draw cfg f.1 f.2 d.1).1, d.2 ++ (draw cfg f.1 f.2 d.1).2)) (ui, [])

theorem drawn_append (cfg : Config) (ui : TerminalUI) (shown : List (Frame × DeviceSnapshot))
    (f : Frame × DeviceSnapshot) :
    drawn cfg ui (shown ++ [f]) =
      ((draw cfg f.1 f.2 (drawn cfg ui shown).1).1,
        (drawn cfg ui shown).2 ++ (draw cfg f.1 f.2 (drawn cfg ui shown).1).2) := by
  rw [drawn, List.foldl_append]
  rfl

/-- The polls of a run, each with the pass that made it. -/
structure Polls (frames : List Frame) (polled : List (ℤ × DeviceSnapshot))
    (shown : List (Frame × DeviceSnapshot)) : Prop where
  passes : (shown.map Prod.fst).Sublist frames
  polled : polled = shown.map (fun f => (f.1.steady, f.2))

theorem Polls.append {frames : List Frame} {polled : List (ℤ × DeviceSnapshot)}
    {shown : List (Frame × DeviceSnapshot)} (h : Polls frames polled shown) (frame : Frame)
    (snap : DeviceSnapshot) :
    Polls (frames ++ [frame]) (polled ++ [(frame.steady, snap)]) (shown ++ [(frame, snap)]) where
  passes := by
    rw [List.map_append]
    exact h.passes.append (List.Sublist.refl _)
  polled := by
    rw [h.polled, List.map_append]
    rfl

theorem Polls.later {frames : List Frame} {polled : List (ℤ × DeviceSnapshot)}
    {shown : List (Frame × DeviceSnapshot)} (h : Polls frames polled shown) (frame : Frame) :
    Polls (frames ++ [frame]) polled shown :=
  ⟨h.passes.trans (List.sublist_append_left _ _), h.polled⟩

/-- The printing loop beside the loop that only polls, in the terminal. -/
structure Draws (cfg : Config) (ui : TerminalUI) (past : List Frame) (p : Printing σ)
    (w : World σ) : Prop where
  world : p.world = w
  shown : ∃ shown, Polls past w.polled shown ∧ (p.ui, p.text) = drawn cfg ui shown

theorem terminalPass_draws {cfg : Config} {sock : Socket σ} {ui : TerminalUI} {past : List Frame}
    {frame : Frame} {p : Printing σ} {w w' : World σ} (h : Draws cfg ui past p w)
    (hpass : MonitorRun.terminalPass cfg sock frame.toTick w = some w') :
    ∃ p', terminalPass cfg sock frame p = some p' ∧ Draws cfg ui (past ++ [frame]) p' w' := by
  obtain ⟨hworld, shown, hpolls, hdrawn⟩ := h
  obtain ⟨isDue, hdue, ⟨hlate, snap, hfetch⟩ | ⟨hearly, heq⟩⟩ := terminalPass_cases hpass
  · refine ⟨{ p with
      world := w'
      ui := (draw cfg frame snap p.ui).1
      text := p.text ++ (draw cfg frame snap p.ui).2 }, ?_, rfl, shown ++ [(frame, snap)], ?_, ?_⟩
    · simp only [terminalPass, hworld, hdue, hfetch, if_pos hlate, Option.bind_eq_bind,
        Option.bind_some, Option.pure_def]
    · have hpolled := (fetch_records hfetch).2
      rw [hpolled]
      exact hpolls.append frame snap
    · rw [drawn_append, ← hdrawn]
  · rw [heq]
    refine ⟨p, ?_, hworld, shown, hpolls.later frame, hdrawn⟩
    simp only [terminalPass, hworld, hdue, if_neg hearly, Option.bind_eq_bind, Option.bind_some,
      Option.pure_def]

theorem terminalLoop_draws {cfg : Config} {sock : Socket σ} (ui : TerminalUI)
    (frames : List Frame) {start w : World σ} (hstart : start.polled = [])
    (hloop : MonitorRun.terminalLoop cfg sock (frames.map Frame.toTick) start = some w) :
    ∃ p, loop (terminalPass cfg sock) (fun frame => cfg.once || quits frame.key) frames
        { world := start, ui := ui } = some p ∧ p.world = w ∧
      ∃ shown, Polls frames w.polled shown ∧ p.text = (drawn cfg ui shown).2 := by
  have hpass : ∀ before frame (p : Printing σ) (w w' : World σ),
      before ++ [frame] <+: [] ++ frames → Draws cfg ui before p w →
      MonitorRun.terminalPass cfg sock frame.toTick w = some w' →
      ∃ p', terminalPass cfg sock frame p = some p' ∧ Draws cfg ui (before ++ [frame]) p' w' :=
    fun _ _ _ _ _ _ => terminalPass_draws
  have hinitial : Draws cfg ui [] { world := start, ui := ui } start :=
    ⟨rfl, [], ⟨List.Sublist.refl _, hstart⟩, rfl⟩
  obtain ⟨p, hprinting, hworld, shown, hpolls, hdrawn⟩ :=
    loop_simulates Frame.toTick (fun _ => rfl) frames hpass hinitial hloop
  exact ⟨p, hprinting, hworld, shown,
    ⟨hpolls.passes.trans (passed_initial _ _).sublist, hpolls.polled⟩, congrArg Prod.snd hdrawn⟩

def tenths {α : Type} (l : List α) : List α :=
  l.zipIdx.filterMap (fun p => if (p.2 + 1) % 10 = 0 then some p.1 else none)

theorem tenths_append {α : Type} (l : List α) (a : α) :
    tenths (l ++ [a]) = tenths l ++ if (l.length + 1) % 10 = 0 then [a] else [] := by
  rw [tenths, List.zipIdx_append, List.filterMap_append, tenths]
  congr 1
  rw [Nat.zero_add, List.zipIdx_singleton]
  split <;> simp [*]

theorem length_tenths {α : Type} (l : List α) : (tenths l).length = l.length / 10 := by
  induction l using List.reverseRecOn with
  | nil => simp [tenths]
  | append_singleton l a ih =>
    rw [tenths_append, List.length_append, List.length_append, ih, List.length_singleton]
    split
    · rw [List.length_singleton]
      omega
    · rw [List.length_nil]
      omega

theorem getElem?_tenths {α : Type} (l : List α) (i : ℕ) : (tenths l)[i]? = l[10 * i + 9]? := by
  induction l using List.reverseRecOn with
  | nil => rfl
  | append_singleton l a ih =>
    rw [tenths_append, List.getElem?_append, List.getElem?_append, length_tenths, ih]
    by_cases hbefore : i < l.length / 10
    · rw [if_pos hbefore, if_pos (by omega)]
    · have hnone : l.length ≤ 10 * i + 9 := by omega
      rw [if_neg hbefore, if_neg (Nat.not_lt.mpr hnone)]
      split
      · by_cases hlast : i = l.length / 10
        · have hplace : 10 * i + 9 - l.length = 0 := by omega
          rw [hplace, hlast, Nat.sub_self]
        · rw [List.getElem?_eq_none (by simp; omega), List.getElem?_eq_none (by simp; omega)]
      · rw [List.getElem?_nil, List.getElem?_eq_none (by simp; omega)]

theorem increment_eq {counter : Int32} {n : ℕ} (hcounter : counter.toInt = n)
    (hn : n + 1 < 2 ^ 31) : ∃ next, increment counter = some next ∧ next.toInt = (n + 1 : ℕ) := by
  have hne : counter ≠ 2147483647 := by
    rintro rfl
    change (2147483647 : ℤ) = n at hcounter
    omega
  refine ⟨counter + 1, if_neg hne, ?_⟩
  have hone : (1 : Int32).toInt = 1 := rfl
  rw [Int32.toInt_add, hcounter, hone, Int.bmod_eq_of_le (by omega) (by omega)]
  rfl

theorem mod_ten_iff {counter : Int32} {n : ℕ} (hcounter : counter.toInt = n) :
    counter % 10 = 0 ↔ n % 10 = 0 := by
  have hten : (10 : Int32).toInt = 10 := rfl
  have hzero : (0 : Int32).toInt = 0 := rfl
  rw [← Int32.toInt_inj, Int32.toInt_mod, hcounter, hten, hzero,
    Int.tmod_eq_emod_of_nonneg (Int.natCast_nonneg n)]
  omega

/-- The printing loop beside the loop that only polls, in server mode. -/
structure Counts (past : List Frame) (p : Printing σ) (w : World σ) : Prop where
  world : p.world = w
  counter : p.counter.toInt = w.polled.length
  bound : w.polled.length ≤ past.length
  text : p.text = (tenths w.polled).flatMap (fun poll => statusLine poll.2)

theorem serverPass_counts {cfg : Config} {sock : Socket σ} {past : List Frame} {frame : Frame}
    {p : Printing σ} {w w' : World σ} (hfew : past.length + 1 < 2 ^ 31) (h : Counts past p w)
    (hpass : MonitorRun.serverPass cfg sock frame.toTick w = some w') :
    ∃ p', serverPass cfg sock frame p = some p' ∧ Counts (past ++ [frame]) p' w' := by
  have hbound := h.bound
  obtain ⟨isDue, hdue, ⟨hlate, snap, w₁, hfetch, rfl⟩ | ⟨hearly, rfl⟩⟩ := serverPass_cases hpass
  · obtain ⟨next, hnext, hvalue⟩ := increment_eq h.counter (by omega)
    have hpolled : w₁.polled = w.polled ++ [(frame.steady, snap)] := (fetch_records hfetch).2
    refine ⟨{ p with
      world := runThread frame.toTick
        { w₁ with thread := ServerThread.step w₁.thread (.update snap) }
      counter := next
      text := p.text ++ if next % 10 = 0 then statusLine snap else [] }, ?_, rfl, ?_, ?_, ?_⟩
    · simp only [serverPass, h.world, hdue, hfetch, hnext, if_pos hlate, Option.bind_eq_bind,
        Option.bind_some, Option.pure_def]
    · change next.toInt = (w₁.polled.length : ℤ)
      rw [hpolled, List.length_append, List.length_singleton, hvalue]
    · change w₁.polled.length ≤ _
      rw [hpolled, List.length_append, List.length_append, List.length_singleton,
        List.length_singleton]
      omega
    · change p.text ++ _ = (tenths w₁.polled).flatMap _
      rw [hpolled, tenths_append, List.flatMap_append, h.text]
      congr 1
      simp only [mod_ten_iff hvalue]
      split <;> simp
  · refine ⟨{ p with world := runThread frame.toTick p.world }, ?_, ?_, h.counter, ?_, h.text⟩
    · simp only [serverPass, h.world, hdue, if_neg hearly, Option.bind_eq_bind, Option.bind_some,
        Option.pure_def]
    · rw [h.world]
    · change w.polled.length ≤ _
      rw [List.length_append]
      omega

theorem serverLoop_counts {cfg : Config} {sock : Socket σ} {frames : List Frame}
    (hfew : frames.length < 2 ^ 31) {start w : World σ} (hstart : start.polled = [])
    (hloop : MonitorRun.serverLoop cfg sock (frames.map Frame.toTick) start = some w) :
    ∃ p, loop (serverPass cfg sock) (fun frame => quits frame.key) frames { world := start } =
        some p ∧
      p.text = (tenths w.polled).flatMap (fun poll => statusLine poll.2) := by
  have hpass : ∀ before frame (p : Printing σ) (w w' : World σ),
      before ++ [frame] <+: [] ++ frames → Counts before p w →
      MonitorRun.serverPass cfg sock frame.toTick w = some w' →
      ∃ p', serverPass cfg sock frame p = some p' ∧ Counts (before ++ [frame]) p' w' := by
    intro before frame p w w' hbefore hcounts hpass
    have hlength := hbefore.length_le
    rw [List.length_append, List.length_singleton, List.nil_append] at hlength
    exact serverPass_counts (by omega) hcounts hpass
  have hinitial : Counts [] { world := start } start := by
    refine ⟨rfl, ?_, ?_, ?_⟩
    all_goals
      rw [hstart]
      rfl
  obtain ⟨p, hprinting, hcounts⟩ :=
    loop_simulates Frame.toTick (fun _ => rfl) frames hpass hinitial hloop
  exact ⟨p, hprinting, hcounts.text⟩

theorem terminal_prints {cfg : Config} (hterminal : cfg.server = false) {settings : Settings}
    {s : Surroundings σ} {frames : List Frame} (hticks : s.ticks = frames.map Frame.toTick)
    {exit : Exit σ} (hrun : monitorRun cfg settings s = some exit) (hzero : exit.code = 0)
    (winsize : Winsize) :
    ∃ shown, Polls frames exit.polled shown ∧ monitorText cfg settings s winsize frames =
      some (connectingText settings ++ (initText ++ connectedText ++
        (drawn cfg (resize winsize {}) shown).2 ++ shutdownText)) := by
  rcases monitorRun_loop hrun with
    ⟨hfailed, _⟩ | ⟨device, sockets, w, _, hconnect, _, hloop, hpolled, _⟩
  · omega
  · rw [hterminal, if_neg Bool.false_ne_true, hticks] at hloop
    obtain ⟨p, hprinting, _, shown, hpolls, hdrawn⟩ :=
      terminalLoop_draws (resize winsize {}) frames rfl hloop
    refine ⟨shown, ⟨hpolls.passes, hpolled.trans hpolls.polled⟩, ?_⟩
    simp only [monitorText, hconnect, hterminal, hprinting, hdrawn, Bool.false_eq_true,
      not_true_eq_false, not_false_eq_true, if_true, if_false, Option.bind_eq_bind,
      Option.bind_some, Option.pure_def]

theorem server_prints {cfg : Config} (hserver : cfg.server = true) {settings : Settings}
    {s : Surroundings σ} {frames : List Frame} (hticks : s.ticks = frames.map Frame.toTick)
    (hfew : frames.length < 2 ^ 31) {exit : Exit σ}
    (hrun : monitorRun cfg settings s = some exit) (hzero : exit.code = 0) (winsize : Winsize) :
    monitorText cfg settings s winsize frames =
      some (connectingText settings ++ (startedText cfg ++
        (tenths exit.polled).flatMap (fun poll => statusLine poll.2) ++ stoppingText)) := by
  have hlistens := ((monitorRun_code hrun).mp hzero).2 hserver
  have hstarted := start_listens s
  obtain ⟨⟨started, server⟩, hstart, heq⟩ := Option.map_eq_some_iff.mp hstarted
  obtain rfl : started = true := heq.trans hlistens
  rcases monitorRun_loop hrun with
    ⟨hfailed, _⟩ | ⟨device, sockets, w, _, hconnect, _, hloop, hpolled, _⟩
  · omega
  · rw [hserver, if_pos rfl, hticks] at hloop
    obtain ⟨p, hprinting, htext⟩ := serverLoop_counts hfew rfl hloop
    simp only [monitorText, hconnect, hserver, hstart, hprinting, htext, hpolled,
      not_true_eq_false, if_false, Option.bind_eq_bind, Option.bind_some, Option.pure_def]

theorem failure_prints {cfg : Config} {settings : Settings} {s : Surroundings σ} {exit : Exit σ}
    (hrun : monitorRun cfg settings s = some exit) (hfailed : exit.code ≠ 0) (winsize : Winsize)
    (frames : List Frame) :
    monitorText cfg settings s winsize frames = some (connectingText settings ++
      if s.connects then startFailedText else failedText settings) := by
  obtain ⟨device, sockets, hconnect, _⟩ := connect_leaves s settings.host settings.modbusPort
  have hcode := (monitorRun_code hrun).not.mp hfailed
  cases hconnects : s.connects with
  | false =>
    simp only [monitorText, hconnect, hconnects, Bool.false_eq_true, not_false_eq_true, if_true,
      if_false, Option.pure_def]
  | true =>
    simp only [hconnects, true_and, Classical.not_imp] at hcode
    obtain ⟨hserver, hlistens⟩ := hcode
    obtain ⟨⟨started, server⟩, hstart, heq⟩ := Option.map_eq_some_iff.mp (start_listens s)
    obtain rfl : started = false := heq.trans (eq_false_of_ne_true hlistens)
    simp only [monitorText, hconnect, hconnects, hserver, hstart, Bool.false_eq_true,
      not_true_eq_false, not_false_eq_true, if_true, if_false, Option.bind_eq_bind,
      Option.bind_some, Option.pure_def]

/-- The passes of `twoPasses`, with output that goes to no window. -/
def twoFrames : List Frame := twoPasses.ticks.map (fun tick => ⟨tick, 1722883200000000000, none⟩)

/-- The document of a poll, with the seconds of the clock when it was printed. -/
def document (f : Frame × DeviceSnapshot) : Json := rendered (f.1.wall.tdiv 1000000000) f.2

theorem drawn_json {cfg : Config} (hjson : cfg.json = true) (ui : TerminalUI)
    (shown : List (Frame × DeviceSnapshot)) :
    (drawn cfg ui shown).2 = shown.flatMap (fun f =>
      objectText 0 (renderedMembers (f.1.wall.tdiv 1000000000) f.2) ++ [10]) := by
  induction shown using List.reverseRecOn with
  | nil => rfl
  | append_singleton shown f ih =>
    rw [drawn_append, List.flatMap_append, List.flatMap_singleton, ← renderJson_eq, ih, draw,
      refresh, if_pos hjson]

theorem isForeign_shutdownText : isForeign shutdownText = true := by
  decide

/-- A reader that takes document after document stops at these codes. -/
theorem readDocuments_drawn {cfg : Config} (hjson : cfg.json = true) (ui : TerminalUI)
    (shown : List (Frame × DeviceSnapshot)) :
    readDocuments ((drawn cfg ui shown).2 ++ shutdownText) =
      (shown.map document, shutdownText) := by
  have hvalue : ∀ f : Frame × DeviceSnapshot,
      StandsFor (objectText 0 (renderedMembers (f.1.wall.tdiv 1000000000) f.2)) (document f) :=
    fun _ => .object 0 (List.cons_ne_nil _ _)
  rw [drawn_json hjson]
  exact readDocuments_flatMap hvalue isForeign_shutdownText shown

/-- In JSON the terminal mode prints one document a poll and nothing else before it leaves the
screen, so a reader gets back what was polled, in order. -/
theorem stream_read {cfg : Config} (hjson : cfg.json = true) (hterminal : cfg.server = false)
    {settings : Settings} {s : Surroundings σ} {frames : List Frame}
    (hticks : s.ticks = frames.map Frame.toTick) {exit : Exit σ}
    (hrun : monitorRun cfg settings s = some exit) (hzero : exit.code = 0) (winsize : Winsize) :
    ∃ shown stream, Polls frames exit.polled shown ∧
      monitorText cfg settings s winsize frames =
        some (connectingText settings ++ (initText ++ connectedText ++ stream ++ shutdownText)) ∧
      readDocuments (stream ++ shutdownText) = (shown.map document, shutdownText) := by
  obtain ⟨shown, hpolls, htext⟩ := terminal_prints hterminal hticks hrun hzero winsize
  exact ⟨shown, _, hpolls, htext, readDocuments_drawn hjson _ shown⟩

theorem stream_read_twoPasses :
    ∃ exit, monitorRun { json := true } {} twoPasses = some exit ∧
      ∃ shown stream, Polls twoFrames exit.polled shown ∧
        monitorText { json := true } {} twoPasses none twoFrames =
          some (connectingText {} ++ (initText ++ connectedText ++ stream ++ shutdownText)) ∧
        readDocuments (stream ++ shutdownText) = (shown.map document, shutdownText) := by
  have hreturns : ∃ exit, monitorRun { json := true } {} twoPasses = some exit :=
    Option.isSome_iff_exists.mp (by decide +kernel)
  obtain ⟨exit, hrun⟩ := hreturns
  have hzero : exit.code = 0 := (monitorRun_code hrun).mpr ⟨rfl, fun _ => rfl⟩
  exact ⟨exit, hrun, stream_read rfl rfl rfl hrun hzero none⟩

/-- Under the announcement of the server stands a line for the tenth poll, the twentieth and so
on, and nothing else until it is stopped. -/
theorem status_lines {cfg : Config} (hserver : cfg.server = true) {settings : Settings}
    {s : Surroundings σ} {frames : List Frame} (hticks : s.ticks = frames.map Frame.toTick)
    (hfew : frames.length < 2 ^ 31) {exit : Exit σ}
    (hrun : monitorRun cfg settings s = some exit) (hzero : exit.code = 0) (winsize : Winsize) :
    ∃ polls : List (ℤ × DeviceSnapshot), monitorText cfg settings s winsize frames =
        some (connectingText settings ++ (startedText cfg ++
          polls.flatMap (fun poll => statusLine poll.2) ++ stoppingText)) ∧
      polls.length = exit.polled.length / 10 ∧
      ∀ i, polls[i]? = exit.polled[10 * i + 9]? :=
  ⟨tenths exit.polled, server_prints hserver hticks hfew hrun hzero winsize,
    length_tenths exit.polled, getElem?_tenths exit.polled⟩

theorem status_lines_twoPasses :
    ∃ exit, monitorRun serving {} twoPasses = some exit ∧
      ∃ polls : List (ℤ × DeviceSnapshot), monitorText serving {} twoPasses none twoFrames =
          some (connectingText {} ++ (startedText serving ++
            polls.flatMap (fun poll => statusLine poll.2) ++ stoppingText)) ∧
        polls.length = exit.polled.length / 10 ∧
        ∀ i, polls[i]? = exit.polled[10 * i + 9]? := by
  obtain ⟨exit, hrun⟩ := twoPasses_runs
  have hzero : exit.code = 0 := (monitorRun_code hrun).mpr ⟨rfl, fun _ => rfl⟩
  exact ⟨exit, hrun, status_lines rfl rfl (by decide) hrun hzero none⟩

end SolakonMonitor.MonitorOutput
