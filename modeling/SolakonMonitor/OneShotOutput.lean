import SolakonMonitor.ClientConnect
import SolakonMonitor.RefreshRate
import SolakonMonitor.TerminalScreen
import SolakonMonitor.TerminalUi

/-!
Everything the program prints in its terminal mode.
A run speaks to the user before it connects, when the connection stands and when it leaves
the screen. With one snapshot in JSON asked for, the document stands among these messages, so
what a run prints is never a document.
-/
namespace SolakonMonitor.OneShotOutput

open BigEndian DecimalText Device Ipv4 ModbusClient ClientConnect ConfigLoader ConfigRoundTrip
open MainProgram RefreshRate SubnetText TerminalScreen TerminalUi JsonText

def indented (text : Bytes) : Bytes := utf8 "  " ++ cString text ++ utf8 "\n"

def noHost : Bytes :=
  utf8 "\n" ++ indented (bold .yellow (utf8 "Keine Solakon ONE IP konfiguriert."))

/-- The two ways to give up differ in the spelling of one word. -/
def giveUpText (word : Bytes) : Bytes :=
  noHost ++ indented (dim .dimGray (utf8 "Verwende --scan um " ++ word ++ utf8 " zu finden")) ++
    indented (dim .dimGray (utf8 "Oder erstelle ~/.config/solakon-monitor/solakon.conf")) ++
    indented (dim .dimGray (utf8 "Siehe README.md fuer Details"))

def askText : Bytes :=
  noHost ++ indented (dim .dimGray (utf8 "Verwende --scan um Gerichte zu finden")) ++
    utf8 "\n" ++ indented (dim .dimGray (utf8 "Oder manuell IP eingeben:")) ++
    utf8 "Solakon ONE IP\n" ++ utf8 "IP: "

def savedText (path : Bytes) : Bytes :=
  utf8 "\n  " ++ bold .green (utf8 "Gespeichert") ++ utf8 ": " ++
    bold .brightWhite (cString path) ++ utf8 "\n"

def cancelledText : Bytes :=
  utf8 "\n" ++ indented (bold .red (utf8 "Keine IP eingegeben. Abbruch."))

def promptText (fs : FileSystem) (stdin : Bytes) : Except StoiError Bytes :=
  (load fs []).map (fun check =>
    if check.configPath = [] then giveUpText (utf8 "Guereite")
    else if check.host = [] then
      if promptIp (stdin.drop 1) = [] then askText ++ cancelledText
      else askText ++ savedText (defaultPath fs)
    else giveUpText (utf8 "Gerichte"))

/-- What a pass of the loop meets: both clocks, the window, and the snapshot it fetches. -/
structure Tick where
  steady : ℤ
  wall : ℤ
  winsize : Winsize
  snap : DeviceSnapshot

/-- What meets a run that connects; the passes go on until the loop is left. -/
structure Session (σ : Type) where
  sys : Sockets σ
  pton : InetPton
  net : σ
  winsize : Winsize
  start : ℤ
  ticks : List Tick

def refresh (cfg : Config) (tick : Tick) (ui : TerminalUI) : TerminalUI × Bytes :=
  if cfg.json then (ui, renderJson tick.wall tick.snap)
  else if cfg.art then renderArt tick.winsize tick.snap ui
  else render tick.winsize tick.wall tick.snap ui

def passesText (cfg : Config) : TerminalUI → List (Pass × Tick) → Bytes
  | _, [] => []
  | ui, (pass, tick) :: rest =>
    if pass.fetches then (refresh cfg tick ui).2 ++ passesText cfg (refresh cfg tick ui).1 rest
    else passesText cfg ui rest

def connectedText : Bytes :=
  bold .green (utf8 "Erfolgreich verbunden! Starte Monitor...") ++ utf8 "\n" ++ utf8 "\n"

variable {σ : Type}

/-- None is a division by zero in the loop. -/
def terminalText (cfg : Config) (session : Session σ) : Option Bytes :=
  (terminalLoop cfg session.start (session.ticks.map Tick.steady)).map (fun passes =>
    initText ++ connectedText ++
      passesText cfg (resize session.winsize {}) (passes.zip session.ticks) ++ shutdownText)

def connectingText (settings : Settings) : Bytes :=
  utf8 "Solakon ONE Monitor - Verbinde mit " ++ cString settings.host ++ utf8 ":" ++
    decimal settings.modbusPort.toNat ++ utf8 " ... \n"

def failedText (settings : Settings) : Bytes :=
  utf8 "\x1b[2J\x1b[H" ++
    bold .red (utf8 "Fehler: Verbindung zum Solakon ONE fehlgeschlagen!") ++ utf8 "\n" ++
    utf8 "\n" ++
    indented (dim .dimGray
      (utf8 "Stelle sicher, dass der Solakon One im Netzwerk erreichbar ist.")) ++
    indented (dim .dimGray (utf8 "IP: " ++ settings.host ++ utf8 " Port: " ++
      decimal settings.modbusPort.toNat)) ++
    utf8 "\n" ++ indented (dim .dimGray (utf8 "Druecke ENTER zum Beenden"))

def connects (settings : Settings) (session : Session σ) : Bool :=
  (implConnect session.sys session.pton {} settings.host settings.modbusPort session.net).1

/-- From the announcement of the connection to the exit. -/
def monitorText (cfg : Config) (settings : Settings) (session : Session σ) : Option Bytes :=
  if connects settings session then
    (terminalText cfg session).map (fun text => connectingText settings ++ text)
  else some (connectingText settings ++ failedText settings)

/-- Standard output from start to exit, without help, scan and server. -/
def output (fs : FileSystem) (stdin : Bytes) (cfg : Config) (session : Session σ) :
    Except StoiError (Option Bytes) := do
  let file ← load fs cfg.configPath
  let settings := overrides cfg file
  if settings.host = [] then do
    let asked ← promptText fs stdin
    match ← promptPath fs stdin cfg settings with
    | (.connect cfg settings, _) =>
      return (monitorText cfg settings session).map (fun text => asked ++ text)
    | (.exit _, _) => return some asked
  else return monitorText cfg settings session

theorem isForeign_noHost : isForeign noHost = true := by
  decide +kernel

theorem isForeign_giveUpText (word : Bytes) : isForeign (giveUpText word) = true := by
  simp only [giveUpText, List.append_assoc]
  exact isForeign_append isForeign_noHost _

theorem isForeign_askText : isForeign askText = true := by
  simp only [askText, List.append_assoc]
  exact isForeign_append isForeign_noHost _

theorem isForeign_promptText {fs : FileSystem} {stdin asked : Bytes}
    (h : promptText fs stdin = .ok asked) : isForeign asked = true := by
  obtain ⟨check, _, hasked⟩ := map_eq_ok h
  rw [← hasked]
  split
  · exact isForeign_giveUpText _
  · split
    · split
      · exact isForeign_append isForeign_askText _
      · exact isForeign_append isForeign_askText _
    · exact isForeign_giveUpText _

theorem isForeign_connectingText (settings : Settings) :
    isForeign (connectingText settings) = true := by
  simp only [connectingText, List.append_assoc]
  exact isForeign_append (by decide) _

theorem isForeign_monitorText {cfg : Config} {settings : Settings} {session : Session σ}
    {text : Bytes} (h : monitorText cfg settings session = some text) :
    isForeign text = true := by
  rw [monitorText] at h
  split at h
  · obtain ⟨later, _, htext⟩ := Option.map_eq_some_iff.mp h
    rw [← htext]
    exact isForeign_append (isForeign_connectingText settings) later
  · rw [← Option.some.inj h]
    exact isForeign_append (isForeign_connectingText settings) _

theorem isForeign_output {fs : FileSystem} {stdin : Bytes} {cfg : Config} {session : Session σ}
    {out : Bytes} (h : output fs stdin cfg session = .ok (some out)) : isForeign out = true := by
  cases hload : load fs cfg.configPath with
  | error err =>
    simp only [output, hload, bind, Except.bind] at h
    cases h
  | ok file =>
    simp only [output, hload, bind, Except.bind] at h
    split at h
    · cases hasked : promptText fs stdin with
      | error err =>
        rw [hasked] at h
        cases h
      | ok asked =>
        have hforeign := isForeign_promptText hasked
        rw [hasked] at h
        dsimp only at h
        split at h
        · cases h
        · split at h
          · obtain ⟨text, _, htext⟩ := Option.map_eq_some_iff.mp (Except.ok.inj h)
            rw [← htext]
            exact isForeign_append hforeign text
          · rw [← Option.some.inj (Except.ok.inj h)]
            exact hforeign
    · exact isForeign_monitorText (Except.ok.inj h)

theorem output_of_main {scan : Scan} {fs fs' : FileSystem} {stdin : Bytes} {args : List Bytes}
    {cfg : Config} {settings : Settings}
    (hmain : main scan fs stdin args = .ok (some (.connect cfg settings, fs')))
    (session : Session σ) :
    ∃ asked, output fs stdin cfg session =
      .ok ((monitorText cfg settings session).map (fun text => asked ++ text)) := by
  have hcfg := main_connect_cfg hmain
  unfold main at hmain
  dsimp only at hmain
  rw [← hcfg] at hmain
  split at hmain
  · cases hmain
  · split at hmain
    · obtain ⟨result, _, heq⟩ := map_eq_ok hmain
      cases result <;> cases heq
    · cases hload : load fs cfg.configPath with
      | error err =>
        rw [hload] at hmain
        cases hmain
      | ok file =>
        simp only [hload, bind, Except.bind] at hmain
        simp only [output, hload, bind, Except.bind]
        split at hmain
        · rename_i hhost
          obtain ⟨result, hprompt, heq⟩ := map_eq_ok hmain
          cases heq
          obtain ⟨check, hcheck, _⟩ := map_eq_ok hprompt
          have hasked : ∃ asked, promptText fs stdin = .ok asked := by
            rw [promptText, hcheck]
            exact ⟨_, rfl⟩
          obtain ⟨asked, hasked⟩ := hasked
          refine ⟨asked, ?_⟩
          rw [if_pos hhost, hasked, hprompt]
          rfl
        · rename_i hhost
          cases hmain
          refine ⟨[], ?_⟩
          rw [if_neg hhost]
          simp only [List.nil_append, Option.map_id']
          rfl

structure OneShot (cfg : Config) : Prop where
  once : cfg.once = true
  json : cfg.json = true
  terminal : cfg.server = false

def snapshotText (session : Session σ) : Bytes :=
  match session.ticks with
  | [] => []
  | tick :: _ => renderJson tick.wall tick.snap

theorem terminalText_oneShot {cfg : Config} (h : OneShot cfg) {interval : Int32}
    (hinterval : refreshInterval cfg = some interval) (session : Session σ) :
    terminalText cfg session =
      some (initText ++ connectedText ++ snapshotText session ++ shutdownText) := by
  rw [terminalText, snapshotText]
  cases session.ticks with
  | nil => rfl
  | cons tick ticks =>
    simp only [List.map_cons, terminalLoop, hinterval, h.once, true_or, if_true,
      Option.bind_eq_bind, Option.bind_some, Option.pure_def, Option.map_some, List.zip_cons_cons,
      List.zip_nil_left, passesText, refresh, h.json, List.append_nil]

/-- The document stands between the messages before it and the codes that leave the screen. -/
theorem output_oneShot {scan : Scan} {fs fs' : FileSystem} {stdin : Bytes} {args : List Bytes}
    {cfg : Config} {settings : Settings}
    (hmain : main scan fs stdin args = .ok (some (.connect cfg settings, fs')))
    (h : OneShot cfg) {session : Session σ} (hconnects : connects settings session = true) :
    ∃ asked, output fs stdin cfg session =
      .ok (some (asked ++ connectingText settings ++ initText ++ connectedText ++
        snapshotText session ++ shutdownText)) := by
  obtain ⟨asked, houtput⟩ := output_of_main hmain session
  have hrange := parseArgs_refreshHz_range args
  rw [← main_connect_cfg hmain] at hrange
  obtain ⟨interval, hinterval, _⟩ := refreshInterval_eq rfl hrange.1 hrange.2
  refine ⟨asked, ?_⟩
  rw [houtput, monitorText, if_pos hconnects, terminalText_oneShot h hinterval]
  simp only [Option.map_some, List.append_assoc]

/-- No run that connects for one snapshot in JSON prints a document, whatever the host, the
configuration, the snapshot and the clocks are. -/
theorem oneShot_not_document (scan : Scan) (fs fs' : FileSystem) (stdin : Bytes)
    (args : List Bytes) (cfg : Config) (settings : Settings) (session : Session σ)
    (hmain : main scan fs stdin args = .ok (some (.connect cfg settings, fs')))
    (h : OneShot cfg) (hconnects : connects settings session = true) :
    ∃ out, output fs stdin cfg session = .ok (some out) ∧ readDocument out = none := by
  obtain ⟨asked, houtput⟩ := output_oneShot hmain h hconnects
  exact ⟨_, houtput, readDocument_foreign (isForeign_output houtput)⟩

def onceJson : List Bytes := [utf8 "--once", utf8 "--json", utf8 "10.0.0.1"]

def givenHost : Settings := { host := utf8 "10.0.0.1", configPath := utf8 "solakon.conf" }

def openSession : Session Unit where
  sys := openSystem
  pton := strictPton
  net := ()
  winsize := none
  start := 0
  ticks := [⟨0, 1722883200000000000, none, {}⟩]

theorem oneShot_not_document_open :
    ∃ out, output emptyDisk [] (parseArgs {} onceJson) openSession = .ok (some out) ∧
      readDocument out = none :=
  oneShot_not_document (fun _ _ _ => []) emptyDisk emptyDisk [] onceJson (parseArgs {} onceJson)
    givenHost openSession rfl ⟨rfl, rfl, rfl⟩ rfl

/-- The document is there, and the whole output is none. -/
theorem document_among_messages :
    ∃ out, output emptyDisk [] (parseArgs {} onceJson) openSession = .ok (some out) ∧
      (readDocument (snapshotText openSession)).isSome = true ∧ readDocument out = none := by
  have hmain : main (fun _ _ _ => []) emptyDisk [] onceJson =
      .ok (some (.connect (parseArgs {} onceJson) givenHost, emptyDisk)) := rfl
  obtain ⟨asked, houtput⟩ :=
    output_oneShot hmain ⟨rfl, rfl, rfl⟩ (rfl : connects givenHost openSession = true)
  refine ⟨_, houtput, ?_, readDocument_foreign (isForeign_output houtput)⟩
  rw [snapshotText, openSession, readDocument_renderJson]
  rfl

end SolakonMonitor.OneShotOutput
