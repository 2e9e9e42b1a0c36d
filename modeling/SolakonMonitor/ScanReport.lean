import SolakonMonitor.ConfigMeaning
import SolakonMonitor.OneShotOutput
import SolakonMonitor.ScanOffer

/-!
What a scan prints, read back.
Every device stands on a line of its own, with its address, the mark of a Solakon and its
ports. An empty line ends the list, and after it there is a suggestion. Neither the subnet in
the heading nor the address of a device holds a line feed, and no address holds a blank, so
the lines and their parts are found again.
-/
namespace SolakonMonitor.ScanReport

open BigEndian DecimalText Ipv4 TextLines TextOrder ConfigLoader ConfigRoundTrip ConfigMeaning
open MainProgram NetworkScanner SubnetScan ScanSaving ScanOffer TerminalScreen OneShotOutput

def solakonMark : Bytes := utf8 " [Solakon ONE]"

def portsMark : Bytes := utf8 " Ports: "

def formatResult (dev : DiscoveredDevice) : Bytes :=
  dev.ip ++ (if dev.isSolakon then solakonMark else []) ++ portsMark ++ portsText dev.ports

def formatResults (devices : List DiscoveredDevice) : List Bytes := devices.map formatResult

def subnetHeading (subnet : Bytes) : Bytes :=
  utf8 "  " ++ bold .cyan (utf8 "Netzwerk-Scan:") ++ utf8 " " ++
    bold .brightWhite (cString subnet)

def scanHeading (subnet : Bytes) : Bytes :=
  utf8 "\n" ++ subnetHeading subnet ++ utf8 "\n\n"

def nothingText : Bytes :=
  indented (bold .yellow (utf8 "Keine Geräte gefunden.")) ++
    indented (dim .dimGray (utf8 "Pruefe: Subnet, Ports, Firewall"))

def foundHeading (count : ℕ) : Bytes :=
  utf8 "  " ++ bold .green (utf8 "Gefundene Gerichte:") ++ utf8 " " ++
    dim .dimGray (utf8 "(" ++ decimal count ++ utf8 " gefunden)")

def foundText (devices : List DiscoveredDevice) : Bytes :=
  foundHeading devices.length ++ utf8 "\n\n" ++ (formatResults devices).flatMap indented

def suggestionText (ip : Bytes) : Bytes :=
  utf8 "\n  " ++ bold .green (utf8 "Vorschlag") ++ utf8 ": " ++
    bold .brightWhite (cString ip) ++ utf8 "\n" ++
    indented (dim .dimGray (utf8 "Druecke ENTER zum Speichern, oder STRG+C zum Abbrechen"))

def savingText (saved : Bool) (path : Bytes) : Bytes :=
  if saved then
    utf8 "\n  " ++ bold .green (utf8 "Konfiguration gespeichert:") ++ utf8 " " ++
      cString path ++ utf8 "\n"
  else
    utf8 "\n  " ++ bold .yellow (utf8 "Warnung: Config konnte nicht gespeichert werden") ++
      utf8 ": " ++ cString path ++ utf8 "\n"

/-- What scan mode prints when the user confirms an offer; none is an access outside a
vector. -/
def scanText (scan : Scan) (fs : FileSystem) (cfg : Config) : Except StoiError (Option Bytes) :=
  (load fs cfg.configPath).map (fun settings =>
    if scanDevices scan settings = [] then
      some (scanHeading settings.scanSubnet ++ nothingText)
    else (offered (scanDevices scan settings)).map (fun offer =>
      scanHeading settings.scanSubnet ++ foundText (scanDevices scan settings) ++
        match offer with
        | none => []
        | some (ip, port) => suggestionText ip ++
            savingText (saveDiscovered fs ip port settings.configPath).1 settings.configPath))

/-- The address ends at the first blank. -/
def readDevice (line : Bytes) : Option DiscoveredDevice := do
  let entry ← (utf8 "  ").isPrefixOf? line
  let ip := entry.takeWhile (fun b => b ≠ 32)
  let rest := entry.drop ip.length
  let unmarked := solakonMark.isPrefixOf? rest
  let ports ← portsMark.isPrefixOf? (unmarked.getD rest)
  let ports ← (parsePorts ports).toOption
  return ⟨ip, ports, unmarked.isSome⟩

def listed (text : Bytes) : List Bytes := (fields 10 text).drop 5

def readReport (text : Bytes) : Option (List DiscoveredDevice) :=
  ((listed text).takeWhile (fun line => line ≠ [])).mapM readDevice

/-- Something follows the list. -/
def suggests (text : Bytes) : Bool := (listed text).dropWhile (fun line => line ≠ []) ≠ []

/-- An address as `inet_ntoa` writes it has neither of the signs that the reader looks for. -/
structure PlainIp (ip : Bytes) : Prop where
  chars : ∀ b ∈ ip, isDigit b = true ∨ b = 46

theorem PlainIp.not_mem {ip : Bytes} (h : PlainIp ip) {b : UInt8} (hb : isDigit b = false)
    (hdot : b ≠ 46) : b ∉ ip := by
  intro hmem
  rcases h.chars b hmem with hdigit | heq
  · rw [hb] at hdigit
    cases hdigit
  · exact hdot heq

theorem takeWhile_delimiter {d : UInt8} {x : Bytes} (hx : d ∉ x) (rest : Bytes) :
    (x ++ d :: rest).takeWhile (fun b => b ≠ d) = x := by
  have hall : ∀ b ∈ x, decide (b ≠ d) = true :=
    fun b hb => decide_eq_true (fun heq => hx (heq ▸ hb))
  rw [List.takeWhile_append_of_pos hall, List.takeWhile_cons_of_neg (by simp), List.append_nil]

theorem readDevice_formatResult {dev : DiscoveredDevice} (hip : PlainIp dev.ip) :
    readDevice (utf8 "  " ++ formatResult dev) = some dev := by
  obtain ⟨ip, ports, isSolakon⟩ := dev
  have hblank : (32 : UInt8) ∉ ip := hip.not_mem rfl (by decide)
  obtain ⟨rest, hrest⟩ : ∃ rest, (if isSolakon then solakonMark else []) ++ portsMark ++
      portsText ports = 32 :: rest := by
    cases isSolakon <;> exact ⟨_, rfl⟩
  have hline : formatResult ⟨ip, ports, isSolakon⟩ = ip ++ 32 :: rest := by
    rw [formatResult, ← hrest, List.append_assoc, List.append_assoc, List.append_assoc]
  have hentry : (utf8 "  ").isPrefixOf? (utf8 "  " ++ (ip ++ 32 :: rest)) =
      some (ip ++ 32 :: rest) := List.isPrefixOf?_eq_some_iff_append_eq.mpr rfl
  rw [readDevice, hline, hentry, Option.bind_eq_bind, Option.bind_some]
  dsimp only
  rw [takeWhile_delimiter hblank, List.drop_left, ← hrest]
  have hports : portsMark.isPrefixOf? (portsMark ++ portsText ports) = some (portsText ports) :=
    List.isPrefixOf?_eq_some_iff_append_eq.mpr rfl
  cases isSolakon with
  | false =>
    have hunmarked : solakonMark.isPrefixOf? (portsMark ++ portsText ports) = none := rfl
    simp only [Bool.false_eq_true, if_false, List.nil_append, hunmarked, Option.getD_none, hports,
      Option.bind_some, parsePorts_portsText, Except.toOption, Option.isSome_none, Option.pure_def]
    rfl
  | true =>
    have hunmarked : solakonMark.isPrefixOf? (solakonMark ++ (portsMark ++ portsText ports)) =
        some (portsMark ++ portsText ports) := List.isPrefixOf?_eq_some_iff_append_eq.mpr rfl
    simp only [if_true, List.append_assoc, hunmarked, Option.getD_some, hports,
      Option.bind_some, parsePorts_portsText, Except.toOption, Option.isSome_some, Option.pure_def]
    rfl

theorem mem_portsText {ports : List UInt16} {b : UInt8} (hb : b ∈ portsText ports) :
    isDigit b = true ∨ b = 44 := by
  induction ports with
  | nil => cases hb
  | cons port ports ih =>
    cases ports with
    | nil => exact Or.inl (isDigit_of_mem_decimal (by simpa [portsText] using hb))
    | cons next ports =>
      rw [portsText_cons_cons, List.mem_append, List.mem_cons] at hb
      rcases hb with hb | rfl | hb
      · exact Or.inl (isDigit_of_mem_decimal hb)
      · exact Or.inr rfl
      · exact ih hb

/-- A byte that is neither part of a number nor in one of the marks is not on a device's line. -/
theorem not_mem_formatResult {dev : DiscoveredDevice} (hip : PlainIp dev.ip) {b : UInt8}
    (hdigit : isDigit b = false) (hdot : b ≠ 46) (hcomma : b ≠ 44) (hsolakon : b ∉ solakonMark)
    (hports : b ∉ portsMark) : b ∉ formatResult dev := by
  have hlist : b ∉ portsText dev.ports := by
    intro hmem
    rcases mem_portsText hmem with hyes | heq
    · rw [hdigit] at hyes
      cases hyes
    · exact hcomma heq
  have hmark : b ∉ (if dev.isSolakon then solakonMark else []) := by
    split
    · exact hsolakon
    · exact List.not_mem_nil
  simp only [formatResult, List.mem_append, not_or]
  exact ⟨⟨⟨hip.not_mem hdigit hdot, hmark⟩, hports⟩, hlist⟩

theorem oneLine_fgColors (fg : Color) : 10 ∉ fgColors fg := by
  cases fg <;> decide

theorem oneLine_dim {fg : Color} {text : Bytes} (h : 10 ∉ text) : 10 ∉ dim fg text := by
  have hreset : (10 : UInt8) ∉ colorReset := by decide
  simp only [dim, List.mem_append, not_or]
  exact ⟨⟨oneLine_fgColors fg, h⟩, hreset⟩

theorem oneLine_bold {fg : Color} {text : Bytes} (h : 10 ∉ text) : 10 ∉ bold fg text := by
  have hbold : (10 : UInt8) ∉ colorBold := by decide
  have hdim : 10 ∉ dim fg text := oneLine_dim h
  simp only [dim, List.mem_append, not_or] at hdim
  simp only [bold, List.mem_append, not_or]
  exact ⟨⟨⟨hbold, hdim.1.1⟩, hdim.1.2⟩, hdim.2⟩

theorem oneLine_cString {s : Bytes} (h : 10 ∉ s) : 10 ∉ cString s :=
  fun hmem => h ((List.takeWhile_prefix _).subset hmem)

theorem oneLine_subnetHeading {subnet : Bytes} (h : 10 ∉ subnet) :
    10 ∉ subnetHeading subnet := by
  have htitle : 10 ∉ bold .cyan (utf8 "Netzwerk-Scan:") := oneLine_bold (by decide)
  have hsubnet : 10 ∉ bold .brightWhite (cString subnet) := oneLine_bold (oneLine_cString h)
  simp only [subnetHeading, List.mem_append, not_or]
  exact ⟨⟨⟨by decide, htitle⟩, by decide⟩, hsubnet⟩

theorem oneLine_foundHeading (count : ℕ) : 10 ∉ foundHeading count := by
  have htitle : 10 ∉ bold .green (utf8 "Gefundene Gerichte:") := oneLine_bold (by decide)
  have hcount : 10 ∉ decimal count := by
    intro hmem
    cases isDigit_of_mem_decimal hmem
  have hfound : 10 ∉ utf8 "(" ++ decimal count ++ utf8 " gefunden)" := by
    simp only [List.mem_append, not_or]
    exact ⟨⟨by decide, hcount⟩, by decide⟩
  simp only [foundHeading, List.mem_append, not_or]
  exact ⟨⟨⟨by decide, htitle⟩, by decide⟩, oneLine_dim hfound⟩

theorem indented_formatResult {dev : DiscoveredDevice} (hip : PlainIp dev.ip) :
    indented (formatResult dev) = utf8 "  " ++ formatResult dev ++ [10] := by
  have hnul : (0 : UInt8) ∉ formatResult dev :=
    not_mem_formatResult hip rfl (by decide) (by decide) (by decide) (by decide)
  have hwhole : cString (formatResult dev) = formatResult dev :=
    List.takeWhile_eq_self_iff.mpr (fun b hb => decide_eq_true (fun heq => hnul (heq ▸ hb)))
  rw [indented, hwhole]
  rfl

def deviceLine (dev : DiscoveredDevice) : Bytes := utf8 "  " ++ formatResult dev

theorem oneLine_deviceLine {dev : DiscoveredDevice} (hip : PlainIp dev.ip) :
    10 ∉ deviceLine dev := by
  rw [deviceLine, List.mem_append, not_or]
  exact ⟨by decide,
    not_mem_formatResult hip rfl (by decide) (by decide) (by decide) (by decide)⟩

theorem foundText_eq {devices : List DiscoveredDevice} (hips : ∀ d ∈ devices, PlainIp d.ip) :
    foundText devices = foundHeading devices.length ++ 10 :: 10 ::
      (devices.map deviceLine).flatMap (fun line => line ++ [10]) := by
  have hlines : (formatResults devices).flatMap indented =
      (devices.map deviceLine).flatMap (fun line => line ++ [10]) := by
    rw [formatResults, List.flatMap_map, List.flatMap_map]
    exact List.flatMap_congr (fun d hd => indented_formatResult (hips d hd))
  rw [foundText, hlines]
  exact List.append_assoc _ [10, 10] _

/-- The lines after the headings are those of the devices, and then what follows. -/
theorem listed_report {subnet : Bytes} (hsubnet : 10 ∉ subnet) {devices : List DiscoveredDevice}
    (hips : ∀ d ∈ devices, PlainIp d.ip) (rest : Bytes) :
    listed (scanHeading subnet ++ foundText devices ++ rest) =
      devices.map deviceLine ++ fields 10 rest := by
  have hheading : scanHeading subnet = 10 :: (subnetHeading subnet ++ 10 :: [10]) := rfl
  have hdevices : ∀ line ∈ devices.map deviceLine, 10 ∉ line := by
    intro line hline
    obtain ⟨dev, hdev, rfl⟩ := List.mem_map.mp hline
    exact oneLine_deviceLine (hips dev hdev)
  rw [listed, hheading, foundText_eq hips]
  simp only [List.cons_append, List.append_assoc, List.nil_append]
  rw [← List.nil_append (10 :: _), fields_append 10 [] _ List.not_mem_nil,
    fields_append 10 _ _ (oneLine_subnetHeading hsubnet), ← List.nil_append (10 :: _),
    fields_append 10 [] _ List.not_mem_nil, fields_append 10 _ _ (oneLine_foundHeading _),
    ← List.nil_append (10 :: _), fields_append 10 [] _ List.not_mem_nil,
    fields_flatMap_append 10 _ hdevices]
  rfl

theorem listed_nothing {subnet : Bytes} (hsubnet : 10 ∉ subnet) :
    listed (scanHeading subnet ++ nothingText) = [] := by
  have hheading : scanHeading subnet = 10 :: (subnetHeading subnet ++ 10 :: [10]) := rfl
  have hnothing : fields 10 nothingText =
      [utf8 "  " ++ bold .yellow (utf8 "Keine Geräte gefunden."),
        utf8 "  " ++ dim .dimGray (utf8 "Pruefe: Subnet, Ports, Firewall")] := by decide +kernel
  rw [listed, hheading]
  simp only [List.cons_append, List.append_assoc, List.nil_append]
  rw [← List.nil_append (10 :: _), fields_append 10 [] _ List.not_mem_nil,
    fields_append 10 _ _ (oneLine_subnetHeading hsubnet), ← List.nil_append (10 :: _),
    fields_append 10 [] _ List.not_mem_nil, hnothing]
  rfl

theorem deviceLine_ne_nil (dev : DiscoveredDevice) : deviceLine dev ≠ [] :=
  List.cons_ne_nil 32 _

theorem mapM_readDevice {devices : List DiscoveredDevice} (hips : ∀ d ∈ devices, PlainIp d.ip) :
    (devices.map deviceLine).mapM readDevice = some devices := by
  induction devices with
  | nil => rfl
  | cons dev devices ih =>
    have hdev : readDevice (deviceLine dev) = some dev :=
      readDevice_formatResult (hips dev List.mem_cons_self)
    have hrest := ih (fun d hd => hips d (List.mem_cons_of_mem dev hd))
    rw [List.map_cons, List.mapM_cons, hdev, hrest]
    rfl

theorem read_of_listed {text : Bytes} {devices : List DiscoveredDevice} {later : List Bytes}
    (hips : ∀ d ∈ devices, PlainIp d.ip) (hlater : ∀ line ∈ later.head?, line = [])
    (h : listed text = devices.map deviceLine ++ later) :
    readReport text = some devices ∧ suggests text = decide (later ≠ []) := by
  have hlines : ∀ line ∈ devices.map deviceLine, decide (line ≠ []) = true := by
    intro line hline
    obtain ⟨dev, _, rfl⟩ := List.mem_map.mp hline
    exact decide_eq_true (deviceLine_ne_nil dev)
  have hends : later.takeWhile (fun line => line ≠ []) = [] ∧
      later.dropWhile (fun line => line ≠ []) = later := by
    cases later with
    | nil => exact ⟨rfl, rfl⟩
    | cons line lines =>
      obtain rfl := hlater line rfl
      exact ⟨rfl, rfl⟩
  constructor
  · rw [readReport, h, List.takeWhile_append_of_pos hlines, hends.1, List.append_nil,
      mapM_readDevice hips]
  · rw [suggests, h, List.dropWhile_append_of_pos hlines, hends.2]

/-- What follows the list begins with an empty line. -/
theorem read_found {subnet : Bytes} (hsubnet : 10 ∉ subnet) {devices : List DiscoveredDevice}
    (hips : ∀ d ∈ devices, PlainIp d.ip) (rest : Bytes) (hrest : ∀ b ∈ rest.head?, b = 10) :
    readReport (scanHeading subnet ++ foundText devices ++ rest) = some devices ∧
      suggests (scanHeading subnet ++ foundText devices ++ rest) = decide (rest ≠ []) := by
  have hlater : (∀ line ∈ (fields 10 rest).head?, line = []) ∧
      (fields 10 rest ≠ [] ↔ rest ≠ []) := by
    cases rest with
    | nil => simp [fields]
    | cons b rest =>
      obtain rfl := hrest b rfl
      simp [fields]
  obtain ⟨hread, hsuggests⟩ := read_of_listed hips hlater.1 (listed_report hsubnet hips rest)
  exact ⟨hread, hsuggests.trans (decide_eq_decide.mpr hlater.2)⟩

theorem read_nothing {subnet : Bytes} (hsubnet : 10 ∉ subnet) :
    readReport (scanHeading subnet ++ nothingText) = some [] ∧
      suggests (scanHeading subnet ++ nothingText) = false := by
  constructor
  · rw [readReport, listed_nothing hsubnet]
    rfl
  · rw [suggests, listed_nothing hsubnet]
    rfl

theorem plainIp_inetNtoa (order : ByteOrder) (pton : InetPton) (x : UInt32) :
    PlainIp (inetNtoa order x) :=
  ⟨fun _ hb => (pton.accepted (pton.printed _)).chars hb⟩

/-- What the scanner finds has an address as `inet_ntoa` writes it, and an open port. -/
theorem found_wellFormed {order : ByteOrder} {pton : InetPton} {s : Bytes} {ports : List UInt16}
    {table : Probe → Bool} {devices : List DiscoveredDevice}
    (h : (scan order pton s ports).map (fun scanned => scanned.answer table) = .ok devices) :
    ∀ d ∈ devices, PlainIp d.ip ∧ d.ports ≠ [] := by
  intro d hd
  rw [devices_of_scan h, sortByIp, (sortBy_perm _ _).mem_iff] at hd
  obtain ⟨x, hx, rfl⟩ := List.mem_map.mp hd
  exact ⟨plainIp_inetNtoa order pton x, mem_answering hx⟩

/-- Whatever the network answers, the list that scan mode prints is read back as the devices
found, a suggestion follows exactly when one of them is a Solakon, and the exit code says
whether there are any. -/
theorem report_read (scanner : Scan) (fs : FileSystem) (cfg : Config) (settings : Settings)
    (order : ByteOrder) (pton : InetPton) (table : Probe → Bool)
    (hload : load fs cfg.configPath = .ok settings)
    (hscan : (scan order pton settings.scanSubnet (scanPortsOrDefault settings)).map
      (fun scanned => scanned.answer table) = .ok (scanDevices scanner settings)) :
    ∃ text, scanText scanner fs cfg = .ok (some text) ∧
      readReport text = some (scanDevices scanner settings) ∧
      (suggests text = true ↔
        (scanDevices scanner settings).countP (fun d => d.isSolakon) = 1) ∧
      scanMode scanner fs cfg =
        .ok (some (if readReport text = some [] then 1 else 0, fs)) := by
  have hsubnet := (load_tidy hload).scanSubnet.oneLine
  have hfound := found_wellFormed hscan
  rw [scanText, scanMode, hload]
  simp only [Except.map]
  generalize scanDevices scanner settings = devices at hfound ⊢
  have hips : ∀ d ∈ devices, PlainIp d.ip := fun d hd => (hfound d hd).1
  by_cases hnil : devices = []
  · subst hnil
    obtain ⟨hread, hsuggests⟩ := read_nothing hsubnet
    refine ⟨_, by rw [if_pos rfl], hread, ?_, by rw [if_pos rfl, if_pos hread]⟩
    rw [hsuggests, List.countP_nil]
    decide
  · have hsome : some devices ≠ some [] := fun heq => hnil (Option.some.inj heq)
    simp only [if_neg hnil]
    by_cases hone : devices.countP (fun d => d.isSolakon) = 1
    · obtain ⟨_, _, port, device, _, _, _, _, hoffer⟩ :=
        offered_of_countP hone (fun d hd => (hfound d hd).2)
      rw [hoffer]
      obtain ⟨hread, hsuggests⟩ := read_found hsubnet hips (suggestionText device.ip ++
        savingText (saveDiscovered fs device.ip port settings.configPath).1 settings.configPath)
        (fun b hb => (Option.some.inj hb).symm)
      refine ⟨_, rfl, hread, ?_, ?_⟩
      · rw [hsuggests]
        exact iff_of_true rfl hone
      · rw [hread, if_neg hsome]
        rfl
    · have hoffer : offered devices = some none := if_neg hone
      rw [hoffer]
      obtain ⟨hread, hsuggests⟩ := read_found hsubnet hips [] (by simp)
      refine ⟨_, rfl, hread, ?_, ?_⟩
      · rw [hsuggests]
        exact iff_of_false (by decide) hone
      · rw [hread, if_neg hsome]
        rfl

def smallSubnet : Settings :=
  { scanSubnet := utf8 "192.168.178.0/30", scanPorts := [80, 502],
    configPath := utf8 "solakon.conf" }

def smallSubnetDisk : FileSystem :=
  diskWith "[solakon]\nscan_subnet = 192.168.178.0/30\nscan_ports = 80,502\n"

def listedDevices : List DiscoveredDevice := [⟨utf8 "1.178.168.192", [80], false⟩, listedSolakon]

theorem report_read_mixed :
    ∃ text, scanText (fun _ _ _ => listedDevices) smallSubnetDisk
        { configPath := smallSubnet.configPath } = .ok (some text) ∧
      readReport text = some listedDevices ∧
      (suggests text = true ↔ listedDevices.countP (fun d => d.isSolakon) = 1) ∧
      scanMode (fun _ _ _ => listedDevices) smallSubnetDisk
          { configPath := smallSubnet.configPath } =
        .ok (some (if readReport text = some [] then 1 else 0, smallSubnetDisk)) :=
  report_read (fun _ _ _ => listedDevices) smallSubnetDisk
    { configPath := smallSubnet.configPath } smallSubnet .little strictPton mixedTable rfl rfl

end SolakonMonitor.ScanReport
