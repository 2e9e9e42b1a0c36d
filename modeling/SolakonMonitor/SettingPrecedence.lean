import SolakonMonitor.ArgumentMeaning

/-!
Which host and port the program connects with.
The specification reads the command line for the last host and the last text given
as a port, and the file for the number written last. The program cuts both numbers to
sixteen bits, forgets whether an option was given and compares its value with the
default instead; this settles exactly where the two disagree, on the direct path and
on the path that prompts for an address.
-/
namespace SolakonMonitor.SettingPrecedence

open BigEndian DecimalText ConfigLoader ConfigRoundTrip ConfigMeaning MainProgram
  ArgumentMeaning

/-- What a command line gives, as it is written: the last host and the last port, if any. -/
structure Given where
  host : Option Bytes := none
  port : Option Bytes := none
  deriving DecidableEq

def givenStep (g : Given) (arg : Bytes) (next : Option Bytes) : Given :=
  match argKind arg, next with
  | .port, some value => { g with port := some value }
  | .host, _ => { g with host := some arg }
  | _, _ => g

def given : Given → List Bytes → Given
  | g, [] => g
  | g, [arg] => givenStep g arg none
  | g, arg :: next :: rest =>
    if (parseArg {} arg (some next)).2 then given (givenStep g arg (some next)) rest
    else given (givenStep g arg (some next)) (next :: rest)

/-- The parser's fields are the given values, or the defaults. -/
structure Matches (g : Given) (cfg : Config) : Prop where
  host : cfg.host = g.host.getD []
  port : cfg.modbusPort = (g.port.map portArgument).getD 502

/-- Whether the next argument is consumed does not depend on what came before. -/
theorem parseArg_consumes (cfg : Config) (arg : Bytes) (next : Option Bytes) :
    (parseArg cfg arg next).2 = (parseArg {} arg next).2 := by
  unfold parseArg
  cases argKind arg <;> cases next <;> first | rfl | (dsimp only; split <;> rfl)

theorem parseArg_matches {cfg : Config} {g : Given} (arg : Bytes) (next : Option Bytes)
    (h : Matches g cfg) : Matches (givenStep g arg next) (parseArg cfg arg next).1 := by
  have hsame : ∀ cfg' : Config, cfg'.host = cfg.host → cfg'.modbusPort = cfg.modbusPort →
      Matches g cfg' := fun _ hhost hport => ⟨hhost.trans h.host, hport.trans h.port⟩
  unfold parseArg givenStep
  cases argKind arg with
  | port =>
    cases next with
    | none => exact hsame cfg rfl rfl
    | some value => exact ⟨h.host, rfl⟩
  | host => exact ⟨rfl, h.port⟩
  | server =>
    cases next with
    | none => exact hsame _ rfl rfl
    | some value =>
      dsimp only
      split <;> exact hsame _ rfl rfl
  | _ => cases next <;> exact hsame _ rfl rfl

theorem parseArgs_matches (args : List Bytes) {cfg : Config} {g : Given} (h : Matches g cfg) :
    Matches (given g args) (parseArgs cfg args) := by
  induction cfg, args using parseArgs.induct generalizing g with
  | case1 cfg => exact h
  | case2 cfg arg => exact parseArg_matches arg none h
  | case3 cfg arg next rest hconsumed ih =>
    have hstep := parseArg_matches arg (some next) h
    rw [parseArgs, if_pos hconsumed, given, if_pos (parseArg_consumes cfg arg _ ▸ hconsumed)]
    exact ih hstep
  | case4 cfg arg next rest hkept ih =>
    have hstep := parseArg_matches arg (some next) h
    rw [parseArgs, if_neg hkept, given, if_neg (parseArg_consumes cfg arg _ ▸ hkept)]
    exact ih hstep

/-- The number of the file's port, or the default without one. -/
def fileNumber (entries : List Entry) : ℤ := (portWritten .modbusPort entries).getD 502

/-- Command line over file: what the settings connected with should be. A port given is
the number in its text, and so is the file's. -/
structure Respects (g : Given) (file : Settings) (entries : List Entry) (s : Settings) : Prop where
  givenHost : ∀ h, g.host = some h → s.host = h
  fileHost : g.host = none → file.host ≠ [] → s.host = file.host
  givenPort : ∀ text, g.port = some text → strtol text = some (s.modbusPort.toNat : ℤ)
  filePort : g.port = none → (s.modbusPort.toNat : ℤ) = fileNumber entries

/-- Neither the command line nor the file names a host. -/
def Prompted (g : Given) (file : Settings) : Prop := g.host.getD [] = [] ∧ file.host = []

theorem promptPath_connect {fs fs' : FileSystem} {stdin : Bytes} {cfg cfg' : Config}
    {settings s : Settings} (h : promptPath fs stdin cfg settings = .ok (.connect cfg' s, fs')) :
    cfg' = cfg ∧ fs' = (save fs s).2 ∧ ∃ ip, ip ≠ [] ∧ s = promptedSettings fs cfg settings ip := by
  obtain ⟨check, _, heq⟩ := map_eq_ok h
  split at heq
  · cases heq
  · split at heq
    · dsimp only at heq
      split at heq
      · cases heq
      · rename_i hip
        cases heq
        exact ⟨rfl, rfl, promptIp (stdin.drop 1), hip, rfl⟩
    · cases heq

/-- The two ways to the connection. -/
theorem main_connect {scan : Scan} {fs fs' : FileSystem} {stdin : Bytes} {args : List Bytes}
    {file s : Settings} {cfg : Config} (hload : load fs (parseArgs {} args).configPath = .ok file)
    (hmain : main scan fs stdin args = .ok (some (.connect cfg s, fs'))) :
    cfg = parseArgs {} args ∧
      (((overrides cfg file).host ≠ [] ∧ s = overrides cfg file ∧ fs' = fs) ∨
        ((overrides cfg file).host = [] ∧ fs' = (save fs s).2 ∧
          ∃ ip, ip ≠ [] ∧ s = promptedSettings fs cfg (overrides cfg file) ip)) := by
  unfold main at hmain
  dsimp only at hmain
  generalize parseArgs {} args = parsed at hload hmain ⊢
  split at hmain
  · cases hmain
  · split at hmain
    · obtain ⟨result, _, heq⟩ := map_eq_ok hmain
      cases result <;> cases heq
    · simp only [hload, bind, Except.bind] at hmain
      split at hmain
      · rename_i hhost
        obtain ⟨result, hprompt, heq⟩ := map_eq_ok hmain
        cases heq
        obtain ⟨rfl, hfs, hip⟩ := promptPath_connect hprompt
        exact ⟨rfl, Or.inr ⟨hhost, hfs, hip⟩⟩
      · rename_i hhost
        cases hmain
        exact ⟨rfl, Or.inl ⟨hhost, rfl, rfl⟩⟩

theorem overrides_host_eq_nil_iff {g : Given} {cfg : Config} (file : Settings) (h : Matches g cfg) :
    (overrides cfg file).host = [] ↔ Prompted g file := by
  rw [Prompted, ← h.host]
  by_cases hhost : cfg.host = [] <;> simp [overrides, hhost]

/-- The file's port comes to its number cut to sixteen bits. -/
theorem load_fileNumber {fs : FileSystem} {path : Bytes} {file : Settings}
    (hload : load fs path = .ok file) :
    (file.modbusPort.toNat : ℤ) = fileNumber (written fs path) % 65536 := by
  rw [load_eq] at hload
  have hlast := foldlM_last .modbusPort (fun cfg => (cfg.modbusPort.toNat : ℤ))
    (fun value => (strtol value).map (· % 65536))
    (fun _ _ _ hkey h => (assignEntry_effect h).modbusPort hkey)
    (fun _ _ _ hkey h => by rw [(assignEntry_frame h).modbusPort hkey]) hload
  rw [fileNumber, portWritten]
  cases htext : lastValue .modbusPort (written fs path) with
  | none =>
    rw [htext] at hlast
    exact Option.some.inj hlast
  | some text =>
    rw [htext] at hlast
    cases hn : strtol text with
    | none =>
      simp only [hn, Option.map_none] at hlast
      cases hlast
    | some n =>
      simp only [hn, Option.map_some, Option.some.injEq] at hlast
      simpa only [Option.bind_some, hn, Option.getD_some] using hlast

theorem portArgument_toNat {text : Bytes} {n : ℤ} (hn : strtol text = some n)
    (hrange : 0 ≤ n ∧ n ≤ 65535) :
    ((portArgument text).toNat : ℤ) = if n = 0 then 502 else n := by
  have hport : ((toPort (atoi text)).toNat : ℤ) = n := by
    rw [(atoi_of_int hn ⟨by omega, by omega⟩).1, toPort_toNat]
    omega
  have hzero : toPort (atoi text) < 1 ↔ n = 0 := by
    rw [UInt16.lt_iff_toNat_lt]
    change (toPort (atoi text)).toNat < 1 ↔ _
    omega
  unfold portArgument
  by_cases h : n = 0
  · rw [if_pos (hzero.mpr h), if_pos h]
    rfl
  · rw [if_neg (fun hlow => h (hzero.mp hlow)), if_neg h, hport]

theorem portArgument_eq_default_iff {text : Bytes} {n : ℤ} (hn : strtol text = some n)
    (hrange : 0 ≤ n ∧ n ≤ 65535) : portArgument text = 502 ↔ n = 0 ∨ n = 502 := by
  have hport := portArgument_toNat hn hrange
  rw [← UInt16.toNat_inj]
  change (portArgument text).toNat = 502 ↔ _
  split at hport <;> omega

/-- The port of a text is its number exactly when that is a port other than zero. -/
theorem portArgument_number_iff (text : Bytes) :
    strtol text = some ((portArgument text).toNat : ℤ) ↔
      ∃ n, strtol text = some n ∧ 0 ≤ n ∧ n ≤ 65535 ∧ n ≠ 0 := by
  have hlt := (portArgument text).toNat_lt
  constructor
  · intro h
    refine ⟨_, h, by omega, by omega, ?_⟩
    have hport := portArgument_toNat h ⟨by omega, by omega⟩
    intro hzero
    rw [if_pos hzero] at hport
    omega
  · intro h
    obtain ⟨n, hn, hlow, hhigh, hzero⟩ := h
    rw [hn, portArgument_toNat hn ⟨hlow, hhigh⟩, if_neg hzero]

/-- Where the default loses against the file, zero and the default need the file's port. -/
theorem overriddenPort_number_iff (text : Bytes) (port : UInt16) :
    strtol text = some
        (((if portArgument text ≠ 502 then portArgument text else port).toNat : ℤ)) ↔
      ∃ n, strtol text = some n ∧ 0 ≤ n ∧ n ≤ 65535 ∧
        (n = 0 ∨ n = 502 → (port.toNat : ℤ) = n) := by
  constructor
  · intro h
    generalize htaken : (if portArgument text ≠ 502 then portArgument text else port) = taken at h
    have hlt := taken.toNat_lt
    have hrange : (0 : ℤ) ≤ taken.toNat ∧ (taken.toNat : ℤ) ≤ 65535 := ⟨by omega, by omega⟩
    refine ⟨_, h, hrange.1, hrange.2, ?_⟩
    intro hdefault
    have heq := (portArgument_eq_default_iff h hrange).mpr hdefault
    rw [if_neg (fun hne => hne heq)] at htaken
    rw [htaken]
  · intro h
    obtain ⟨n, hn, hlow, hhigh, hfile⟩ := h
    rw [hn, Option.some.injEq]
    by_cases hdefault : n = 0 ∨ n = 502
    · have heq := (portArgument_eq_default_iff hn ⟨hlow, hhigh⟩).mpr hdefault
      rw [if_neg (fun hne => hne heq), hfile hdefault]
    · have hne : portArgument text ≠ 502 := fun heq =>
        hdefault ((portArgument_eq_default_iff hn ⟨hlow, hhigh⟩).mp heq)
      rw [if_pos hne, portArgument_toNat hn ⟨hlow, hhigh⟩, if_neg (fun h0 => hdefault (Or.inl h0))]

/-- What reaches the connection: no empty host; a port given that is one, and that the file
repeats where it could be taken for the default; the file's port where none is given, if it
fits and, where the program asks for the address, is the default. -/
structure Reaches (g : Given) (file : Settings) (entries : List Entry) : Prop where
  host : g.host ≠ some []
  givenPort : ∀ text, g.port = some text → ∃ n, strtol text = some n ∧ 0 ≤ n ∧ n ≤ 65535 ∧
    (Prompted g file → n ≠ 0) ∧
    (¬ Prompted g file → n = 0 ∨ n = 502 → fileNumber entries % 65536 = n)
  filePort : g.port = none → 0 ≤ fileNumber entries ∧ fileNumber entries ≤ 65535 ∧
    (Prompted g file → fileNumber entries = 502)

/-- On the direct path an option with its default value counts as not given. -/
theorem overrides_respects_iff {g : Given} {cfg : Config} {file : Settings} {entries : List Entry}
    (h : Matches g cfg) (hfile : (file.modbusPort.toNat : ℤ) = fileNumber entries % 65536)
    (hhost : (overrides cfg file).host ≠ []) :
    Respects g file entries (overrides cfg file) ↔ Reaches g file entries := by
  have hcfgHost := h.host
  have hcfgPort := h.port
  have hdirect : ¬ Prompted g file := fun hasks =>
    hhost ((overrides_host_eq_nil_iff file h).mpr hasks)
  have hgiven : ∀ text, g.port = some text →
      (strtol text = some ((overrides cfg file).modbusPort.toNat : ℤ) ↔
        ∃ n, strtol text = some n ∧ 0 ≤ n ∧ n ≤ 65535 ∧ (Prompted g file → n ≠ 0) ∧
          (¬ Prompted g file → n = 0 ∨ n = 502 → fileNumber entries % 65536 = n)) := by
    intro text htext
    have htaken : cfg.modbusPort = portArgument text := by rw [hcfgPort, htext]; rfl
    have hnumber := overriddenPort_number_iff text file.modbusPort
    rw [hfile] at hnumber
    simpa only [overrides, htaken, hdirect, false_imp_iff, not_false_eq_true, true_imp_iff,
      true_and] using hnumber
  have hnone : g.port = none →
      (((overrides cfg file).modbusPort.toNat : ℤ) = fileNumber entries ↔
        0 ≤ fileNumber entries ∧ fileNumber entries ≤ 65535) := by
    intro hnone
    have htaken : cfg.modbusPort = 502 := by rw [hcfgPort, hnone]; rfl
    have hkept : (overrides cfg file).modbusPort = file.modbusPort := by simp [overrides, htaken]
    have hlt := file.modbusPort.toNat_lt
    rw [hkept]
    omega
  constructor
  · intro hrespects
    refine ⟨fun hempty => hhost (hrespects.givenHost [] hempty), ?_, ?_⟩
    · intro text htext
      exact (hgiven text htext).mp (hrespects.givenPort text htext)
    · intro hport
      obtain ⟨hlow, hhigh⟩ := (hnone hport).mp (hrespects.filePort hport)
      exact ⟨hlow, hhigh, fun hasks => absurd hasks hdirect⟩
  · intro hreaches
    refine ⟨?_, ?_, ?_, ?_⟩
    · intro host hsome
      rw [hsome] at hcfgHost
      have hne : host ≠ [] := fun hnil => hreaches.host (hnil ▸ hsome)
      simp [overrides, hcfgHost, hne]
    · intro hnoHost _
      rw [hnoHost] at hcfgHost
      simp [overrides, hcfgHost]
    · intro text htext
      exact (hgiven text htext).mpr (hreaches.givenPort text htext)
    · intro hport
      obtain ⟨hlow, hhigh, _⟩ := hreaches.filePort hport
      exact (hnone hport).mpr ⟨hlow, hhigh⟩

/-- On the prompting path the port of the file is lost. -/
theorem prompted_respects_iff {g : Given} {cfg : Config} {file : Settings} {entries : List Entry}
    {fs : FileSystem} {ip : Bytes} (h : Matches g cfg) (hprompted : Prompted g file)
    (hip : ip ≠ []) :
    Respects g file entries (promptedSettings fs cfg (overrides cfg file) ip) ↔
      Reaches g file entries := by
  have hcfgPort := h.port
  obtain ⟨hhost, hnoHost⟩ := hprompted
  have hgiven : ∀ text, g.port = some text →
      (strtol text = some (cfg.modbusPort.toNat : ℤ) ↔
        ∃ n, strtol text = some n ∧ 0 ≤ n ∧ n ≤ 65535 ∧ (Prompted g file → n ≠ 0) ∧
          (¬ Prompted g file → n = 0 ∨ n = 502 → fileNumber entries % 65536 = n)) := by
    intro text htext
    have htaken : cfg.modbusPort = portArgument text := by rw [hcfgPort, htext]; rfl
    have hasks : Prompted g file := ⟨hhost, hnoHost⟩
    rw [htaken, portArgument_number_iff]
    simp only [hasks, not_true_eq_false, false_imp_iff, true_imp_iff, and_true]
  have hnone : g.port = none → ((cfg.modbusPort.toNat : ℤ) = fileNumber entries ↔
      fileNumber entries = 502) := by
    intro hnone
    have htaken : cfg.modbusPort = 502 := by rw [hcfgPort, hnone]; rfl
    rw [htaken]
    exact eq_comm
  constructor
  · intro hrespects
    refine ⟨fun hempty => hip (hrespects.givenHost [] hempty), ?_, ?_⟩
    · intro text htext
      exact (hgiven text htext).mp (hrespects.givenPort text htext)
    · intro hport
      have hdefault := (hnone hport).mp (hrespects.filePort hport)
      exact ⟨by omega, by omega, fun _ => hdefault⟩
  · intro hreaches
    refine ⟨?_, fun _ hne => absurd hnoHost hne, ?_, ?_⟩
    · intro host hsome
      rw [hsome, Option.getD_some] at hhost
      exact absurd (hhost ▸ hsome) hreaches.host
    · intro text htext
      exact (hgiven text htext).mpr (hreaches.givenPort text htext)
    · intro hport
      obtain ⟨_, _, hdefault⟩ := hreaches.filePort hport
      exact (hnone hport).mpr (hdefault ⟨hhost, hnoHost⟩)

/-- The program connects with what the command line and the file give exactly when this
reaches the connection. What it saves is what it connects with. -/
theorem main_respects_iff (scan : Scan) (fs fs' : FileSystem) (stdin : Bytes) (args : List Bytes)
    (file s : Settings) (cfg : Config) (hload : load fs (parseArgs {} args).configPath = .ok file)
    (hmain : main scan fs stdin args = .ok (some (.connect cfg s, fs'))) :
    (Respects (given {} args) file (written fs (parseArgs {} args).configPath) s ↔
        Reaches (given {} args) file (written fs (parseArgs {} args).configPath)) ∧
      (Prompted (given {} args) file → fs' = (save fs s).2) ∧
      (¬ Prompted (given {} args) file → fs' = fs) := by
  obtain ⟨rfl, hpaths⟩ := main_connect hload hmain
  have hmatches : Matches (given {} args) (parseArgs {} args) := parseArgs_matches args ⟨rfl, rfl⟩
  have hnil := overrides_host_eq_nil_iff file hmatches
  rcases hpaths with ⟨hhost, rfl, rfl⟩ | ⟨hhost, hfs, ip, hip, rfl⟩
  · have hdirect : ¬ Prompted (given {} args) file := fun h => hhost (hnil.mpr h)
    exact ⟨overrides_respects_iff hmatches (load_fileNumber hload) hhost,
      fun h => absurd h hdirect, fun _ => rfl⟩
  · have hprompted := hnil.mp hhost
    exact ⟨prompted_respects_iff hmatches hprompted hip, fun _ => hfs,
      fun h => absurd hprompted h⟩

def portDisk : FileSystem :=
  { emptyDisk with
    files := fun path =>
      if path = utf8 "solakon.conf" then some (utf8 "[solakon]\nmodbus_port = 1502\n") else none }

def portSettings : Settings := { modbusPort := 1502, configPath := utf8 "solakon.conf" }

theorem load_portDisk : load portDisk [] = .ok portSettings := by
  rfl

def portArguments (port : String) : List Bytes := [utf8 "--port", utf8 port, utf8 "10.0.0.1"]

/-- The default port given on the command line loses against the file. -/
theorem default_port_disregarded :
    ∃ s, main (fun _ _ _ => []) portDisk [] (portArguments "502") =
        .ok (some (.connect (parseArgs {} (portArguments "502")) s, portDisk)) ∧
      ¬ Respects (given {} (portArguments "502")) portSettings (written portDisk []) s := by
  refine ⟨{ portSettings with host := utf8 "10.0.0.1" }, rfl, ?_⟩
  intro hrespects
  have hport := hrespects.givenPort (utf8 "502") rfl
  revert hport
  decide +kernel

theorem main_respects_other_port :
    Respects (given {} (portArguments "503")) portSettings (written portDisk [])
        { portSettings with host := utf8 "10.0.0.1", modbusPort := 503 } ∧
      (Prompted (given {} (portArguments "503")) portSettings → portDisk =
        (save portDisk { portSettings with host := utf8 "10.0.0.1", modbusPort := 503 }).2) ∧
      (¬ Prompted (given {} (portArguments "503")) portSettings → portDisk = portDisk) := by
  obtain ⟨hiff, hsaved, hkept⟩ :=
    main_respects_iff (fun _ _ _ => []) portDisk portDisk [] (portArguments "503") portSettings
      { portSettings with host := utf8 "10.0.0.1", modbusPort := 503 }
      (parseArgs {} (portArguments "503")) load_portDisk rfl
  have hgiven : given {} (portArguments "503") = ⟨some (utf8 "10.0.0.1"), some (utf8 "503")⟩ := by
    rfl
  refine ⟨hiff.mpr ⟨?_, ?_, ?_⟩, hsaved, hkept⟩
  · rw [hgiven]
    decide
  · rw [hgiven]
    intro text htext
    cases htext
    exact ⟨503, rfl, by norm_num, by norm_num, fun _ => by norm_num, fun _ => by norm_num⟩
  · rw [hgiven]
    intro hport
    cases hport

end SolakonMonitor.SettingPrecedence
