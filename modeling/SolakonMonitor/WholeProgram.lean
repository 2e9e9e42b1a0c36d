import SolakonMonitor.ConfigMeaning
import SolakonMonitor.MonitorRun
import SolakonMonitor.ProbeSockets
import SolakonMonitor.RememberedHost
import SolakonMonitor.ScanSaving

/-!
The program from its arguments to its exit.
The parts are put together: the command line, the configuration, the scan with its sockets, the
prompt and the monitor. The only runs that do not come to an exit fail by an exception or by a
shift without a meaning, and it depends on the arguments, the configuration files and the subnet
alone which these are; every other run has released what it had open.
-/
namespace SolakonMonitor.WholeProgram

open BigEndian DecimalText Ipv4 TextLines TextOrder ConfigLoader ConfigMeaning MainProgram
open NetworkScanner SubnetText SubnetScan ProbeSockets RefreshRate MonitorRun

/-- What the program meets beside its arguments; `descriptors` are open when it begins. -/
structure Machine (σ τ : Type) where
  order : ByteOrder
  fs : FileSystem
  stdin : Bytes
  probes : System τ
  probeNet : τ
  descriptors : List ℕ
  monitor : Surroundings σ

/-- An exception that nothing catches, or a shift of 32 bits by 32. -/
inductive Crash where
  | config (err : StoiError)
  | scan (fault : ScanFault)

/-- The files and the sockets of the scan when the program ends, and what is left of the monitor
when it has come to one. -/
structure Ending (σ τ : Type) where
  code : ℕ
  fs : FileSystem
  probing : ProbeSockets.Process τ
  monitor : Option (Exit σ)

variable {σ τ : Type}

/-- The devices of scan mode; in the other modes nothing is probed. -/
def probing (m : Machine σ τ) (cfg : Config) :
    Except Crash (Option (List DiscoveredDevice × ProbeSockets.Process τ)) :=
  if cfg.help || !cfg.scan then .ok (some ([], Process.start m.probeNet m.descriptors))
  else
    match load m.fs cfg.configPath with
    | .error err => .error (.config err)
    | .ok settings =>
      match scan m.order m.monitor.pton settings.scanSubnet (scanPortsOrDefault settings) with
      | .error fault => .error (.scan fault)
      | .ok devices => .ok (devices.runWith (tryConnect m.probes 2000)
          (Process.start m.probeNet m.descriptors))

/-- After the scan, if there was one; none is undefined behaviour in one of the parts. -/
def conclude (m : Machine σ τ) (args : List Bytes) (devices : List DiscoveredDevice)
    (probing : ProbeSockets.Process τ) : Except Crash (Option (Ending σ τ)) :=
  match main (fun _ _ _ => devices) m.fs m.stdin args with
  | .error err => .error (.config err)
  | .ok none => .ok none
  | .ok (some (.exit code, fs)) => .ok (some ⟨code, fs, probing, none⟩)
  | .ok (some (.connect cfg settings, fs)) =>
    .ok ((monitorRun cfg settings m.monitor).map (fun exit =>
      ⟨exit.code, fs, probing, some exit⟩))

def program (m : Machine σ τ) (args : List Bytes) : Except Crash (Option (Ending σ τ)) :=
  match probing m (parseArgs {} args) with
  | .error crash => .error crash
  | .ok none => .ok none
  | .ok (some (devices, probing)) => conclude m args devices probing

/-- Every number in the file can be read. -/
def Legible (fs : FileSystem) (path : Bytes) : Prop :=
  ∀ e ∈ written fs path, ConfigMeaning.Readable e

/-- After an address and a slash there is no number, or one beyond 64 bits, or one whose low
eight bits are zero. -/
def Unscannable (pton : InetPton) (subnet : Bytes) : Prop :=
  ∃ head rest, subnet = head ++ 47 :: rest ∧ 47 ∉ head ∧ pton.parse (cString head) ≠ none ∧
    ∀ v ∈ strtol rest, 2 ^ 64 ≤ v.natAbs ∨ v % 256 = 0

/-- The inputs on which a run does not come to its exit. A run that knows no host looks at the
default file, too. -/
def Aborts (m : Machine σ τ) (args : List Bytes) : Prop :=
  let cfg := parseArgs {} args
  let settings := tolerated m.fs cfg.configPath
  cfg.help = false ∧ (¬ Legible m.fs cfg.configPath ∨
    (cfg.scan = true ∧ Unscannable m.monitor.pton settings.scanSubnet) ∨
    (cfg.scan = false ∧ (overrides cfg settings).host = [] ∧ ¬ Legible m.fs []))

theorem load_legible {fs : FileSystem} {path : Bytes} (h : Legible fs path) :
    load fs path = .ok (tolerated fs path) := by
  rw [load_eq]
  exact (foldlM_tolerate_iff (written fs path) _).mpr h

theorem load_illegible {fs : FileSystem} {path : Bytes} (h : ¬ Legible fs path) :
    ∃ err, load fs path = .error err := by
  cases hload : load fs path with
  | error err => exact ⟨err, rfl⟩
  | ok settings =>
    rw [load_eq] at hload
    exact absurd (readable_of_foldlM hload) h

/-- The parser fails, or it returns a prefix length that the scanner cannot shift by. -/
def ParseFails (pton : InetPton) (s : Bytes) : Prop :=
  (∃ fault, parseCidr pton s = .error fault) ∨ ∃ base, parseCidr pton s = .ok (some (base, 0))

theorem parseFails_iff (pton : InetPton) (s : Bytes) : ParseFails pton s ↔ Unscannable pton s := by
  by_cases hs : 47 ∈ s
  · obtain ⟨head, rest, rfl, hhead⟩ := List.eq_append_cons_of_mem hs
    have hsplit : Unscannable pton (head ++ 47 :: rest) ↔ pton.parse (cString head) ≠ none ∧
        ∀ v ∈ strtol rest, 2 ^ 64 ≤ v.natAbs ∨ v % 256 = 0 := by
      constructor
      · rintro ⟨head', rest', heq, hhead', hrefuses⟩
        obtain ⟨rfl, rfl⟩ := append_delimiter_inj hhead hhead' heq
        exact hrefuses
      · intro hrefuses
        exact ⟨head, rest, rfl, hhead, hrefuses⟩
    rw [hsplit, ParseFails, parseCidr_append pton hhead]
    cases pton.parse (cString head) with
    | none => simp
    | some x =>
      cases hnumber : stoul rest with
      | error fault =>
        refine iff_of_true (Or.inl ⟨fault, rfl⟩) ⟨Option.some_ne_none x, ?_⟩
        intro v hv
        by_contra hfits
        obtain ⟨n, hn, _⟩ := stoul_of_strtol hv (Nat.lt_of_not_le (not_or.mp hfits).1)
        rw [hnumber] at hn
        cases hn
      | ok n =>
        obtain ⟨v, hv, hrange, hvalue⟩ := strtol_of_stoul hnumber
        have hzero : n.toUInt8 = 0 ↔ v % 256 = 0 := by
          rw [← UInt8.toNat_inj]
          change n.toUInt8.toNat = 0 ↔ _
          omega
        have hrefuses : (∀ w ∈ strtol rest, 2 ^ 64 ≤ w.natAbs ∨ w % 256 = 0) ↔ n.toUInt8 = 0 := by
          rw [hzero, hv]
          simp only [Option.mem_def, Option.some.injEq, forall_eq']
          omega
        rw [hrefuses]
        by_cases hlong : 32 < n.toUInt8
        · have hne : n.toUInt8 ≠ 0 := fun h => absurd (h ▸ hlong) (by decide)
          simp [Except.map, hlong, hne]
        · simp [Except.map, hlong]
  · rw [ParseFails, parseCidr_of_not_mem pton hs]
    refine iff_of_false (by simp) ?_
    rintro ⟨head, rest, rfl, _⟩
    exact hs (by simp)

/-- The scanner fails on these subnets and on no others. -/
theorem scan_fails_iff (order : ByteOrder) (pton : InetPton) (s : Bytes) (ports : List UInt16) :
    (∃ fault, scan order pton s ports = .error fault) ↔ Unscannable pton s := by
  rw [← parseFails_iff, ParseFails]
  cases hparse : parseCidr pton s with
  | error fault =>
    refine iff_of_true ⟨fault, ?_⟩ (Or.inl ⟨fault, rfl⟩)
    rw [scan, sweep, hparse]
    rfl
  | ok accepted =>
    rcases accepted with _ | ⟨base, p⟩
    · have hscan : scan order pton s ports = .ok (pure (sortByIp [])) := by
        rw [scan, sweep, hparse]
        rfl
      simp [hscan]
    · by_cases hp : p = 0
      · subst hp
        exact iff_of_true ⟨_, scan_zero hparse ports⟩ (Or.inr ⟨base, rfl⟩)
      · obtain ⟨swept, hswept, hasks, _⟩ := sweep_of_ne order hparse hp ports
        obtain ⟨devices, hscan, _⟩ := scan_of_sweep hswept hasks
        simp [hscan, hp]

/-- However the probes are answered, every device on the list has an open port. -/
theorem probeHosts_yields (order : ByteOrder) (baseIp : UInt32) (ports : List UInt16)
    (hosts : List UInt32) {results : List (UInt32 × DiscoveredDevice)}
    (h : ∀ r ∈ results, r.2.ports ≠ []) :
    (probeHosts order baseIp ports hosts results).Yields
      (fun found => ∀ r ∈ found, r.2.ports ≠ []) := by
  induction hosts generalizing results with
  | nil => exact .done h
  | cons host rest ih =>
    rw [probeHosts]
    refine (Dialogue.yields_true _).bind (fun dev _ => ?_)
    split
    · rename_i hopen
      refine ih (fun r hr => ?_)
      rcases List.mem_append.mp hr with hr | hr
      · exact h r hr
      · rw [List.mem_singleton.mp hr]
        exact hopen
    · exact ih h

theorem sweep_yields {order : ByteOrder} {pton : InetPton} {s : Bytes} {ports : List UInt16}
    {swept : Probing (List (UInt32 × DiscoveredDevice))}
    (h : sweep order pton s ports = .ok swept) :
    swept.Yields (fun found => ∀ r ∈ found, r.2.ports ≠ []) := by
  rw [sweep] at h
  cases hparse : parseCidr pton s with
  | error fault =>
    rw [hparse] at h
    cases h
  | ok accepted =>
    rw [hparse] at h
    rcases accepted with _ | ⟨base, p⟩
    · cases h
      exact .done (List.forall_mem_nil _)
    · change (hostCount p >>= fun count => _) = _ at h
      cases hcount : hostCount p with
      | error fault =>
        rw [hcount] at h
        cases h
      | ok count =>
        rw [hcount] at h
        cases h
        exact probeHosts_yields order base ports (hostNumbers count) (List.forall_mem_nil _)

theorem scan_yields {order : ByteOrder} {pton : InetPton} {s : Bytes} {ports : List UInt16}
    {devices : Probing (List DiscoveredDevice)} (h : scan order pton s ports = .ok devices) :
    devices.Yields (fun found => ∀ d ∈ found, d.ports ≠ []) := by
  rw [scan] at h
  cases hsweep : sweep order pton s ports with
  | error fault =>
    rw [hsweep] at h
    cases h
  | ok swept =>
    rw [hsweep] at h
    cases h
    refine (sweep_yields hsweep).bind (fun results hresults => .done ?_)
    intro d hd
    rw [sortByIp, (sortBy_perm _ _).mem_iff] at hd
    obtain ⟨r, hr, rfl⟩ := List.mem_map.mp hd
    exact hresults r hr

/-- With ports on every device there is an answer to whether there is an offer. -/
theorem offered_total {devices : List DiscoveredDevice} (hports : ∀ d ∈ devices, d.ports ≠ []) :
    ∃ offer, offered devices = some offer := by
  by_cases hone : devices.countP (fun d => d.isSolakon) = 1
  · obtain ⟨_, _, _, _, _, _, _, _, hoffer⟩ := ScanSaving.offered_of_countP hone hports
    exact ⟨_, hoffer⟩
  · exact ⟨none, if_neg hone⟩

theorem scanMode_ends (scan : Scan) {fs : FileSystem} {cfg : Config} {settings : Settings}
    (hload : load fs cfg.configPath = .ok settings)
    (hports : ∀ d ∈ scanDevices scan settings, d.ports ≠ []) :
    ∃ code, code ≤ 1 ∧ scanMode scan fs cfg = .ok (some (code, fs)) := by
  rw [scanMode, hload]
  simp only [Except.map]
  by_cases hnone : scanDevices scan settings = []
  · exact ⟨1, Nat.le_refl 1, by rw [if_pos hnone]⟩
  · obtain ⟨offer, hoffer⟩ := offered_total hports
    refine ⟨0, Nat.zero_le 1, ?_⟩
    rw [if_neg hnone, hoffer]
    cases offer <;> rfl

theorem main_illegible {scan : Scan} {fs : FileSystem} {stdin : Bytes} {args : List Bytes}
    {err : StoiError} (hhelp : (parseArgs {} args).help = false)
    (hscan : (parseArgs {} args).scan = false)
    (hload : load fs (parseArgs {} args).configPath = .error err) :
    main scan fs stdin args = .error err := by
  unfold main
  dsimp only
  rw [hhelp, hscan, hload]
  rfl

theorem promptPath_ends {fs : FileSystem} (hdefault : Legible fs []) (stdin : Bytes) (cfg : Config)
    (settings : Settings) :
    ∃ outcome fs', promptPath fs stdin cfg settings = .ok (outcome, fs') ∧
      ∀ code, outcome = .exit code → code = 1 := by
  rw [promptPath, load_legible hdefault]
  simp only [Except.map]
  split
  · exact ⟨_, _, rfl, fun code hcode => (Outcome.exit.inj hcode).symm⟩
  · split
    · split
      · exact ⟨_, _, rfl, fun code hcode => (Outcome.exit.inj hcode).symm⟩
      · exact ⟨_, _, rfl, fun code hcode => by cases hcode⟩
    · exact ⟨_, _, rfl, fun code hcode => (Outcome.exit.inj hcode).symm⟩

/-- The two failures of a run that does not scan: at the file it was given, or at the default
file when no host is known. -/
theorem main_fails (scan : Scan) {fs : FileSystem} (stdin : Bytes) {args : List Bytes}
    (hhelp : (parseArgs {} args).help = false) (hscan : (parseArgs {} args).scan = false)
    (h : ¬ Legible fs (parseArgs {} args).configPath ∨
      (overrides (parseArgs {} args) (tolerated fs (parseArgs {} args).configPath)).host = [] ∧
        ¬ Legible fs []) :
    ∃ err, main scan fs stdin args = .error err := by
  by_cases hfile : Legible fs (parseArgs {} args).configPath
  · obtain ⟨hhost, hdefault⟩ := h.resolve_left (not_not.mpr hfile)
    obtain ⟨err, herr⟩ := load_illegible hdefault
    refine ⟨err, ?_⟩
    rw [RememberedHost.main_monitor scan fs stdin hhelp hscan (load_legible hfile), if_pos hhost,
      promptPath, herr]
    rfl
  · obtain ⟨err, herr⟩ := load_illegible hfile
    exact ⟨err, main_illegible hhelp hscan herr⟩

theorem main_ends (scan : Scan) {fs : FileSystem} (stdin : Bytes) {args : List Bytes}
    (hhelp : (parseArgs {} args).help = false) (hscan : (parseArgs {} args).scan = false)
    (hfile : Legible fs (parseArgs {} args).configPath)
    (hhost : (overrides (parseArgs {} args)
      (tolerated fs (parseArgs {} args).configPath)).host = [] → Legible fs []) :
    ∃ outcome fs', main scan fs stdin args = .ok (some (outcome, fs')) ∧
      ∀ code, outcome = .exit code → code = 1 := by
  rw [RememberedHost.main_monitor scan fs stdin hhelp hscan (load_legible hfile)]
  split
  · rename_i hnone
    obtain ⟨outcome, fs', hprompt, hcode⟩ := promptPath_ends (hhost hnone) stdin
      (parseArgs {} args) (overrides (parseArgs {} args)
        (tolerated fs (parseArgs {} args).configPath))
    exact ⟨outcome, fs', by rw [hprompt]; rfl, hcode⟩
  · exact ⟨_, _, rfl, fun code hcode => by cases hcode⟩

/-- A run that has come to its exit. -/
structure Released (m : Machine σ τ) (args : List Bytes) (e : Ending σ τ) : Prop where
  code : e.code ≤ 1
  probes : e.probing.sockets.opened = [] ∧ e.probing.sockets.stray = 0
  sockets : ∀ exit ∈ e.monitor, AllClosed exit.modbus ∧ AllClosed exit.listening
  answers : ∀ exit ∈ e.monitor, AnswersPolled exit.thread exit.polled
  succeeded : ∀ exit ∈ e.monitor, (e.code = 0 ↔ m.monitor.connects = true ∧
    ((parseArgs {} args).server = true → m.monitor.listens = true))

theorem released_start (m : Machine σ τ) (args : List Bytes) {code : ℕ} (hcode : code ≤ 1)
    (fs : FileSystem) :
    Released m args ⟨code, fs, Process.start m.probeNet m.descriptors, none⟩ where
  code := hcode
  probes := ⟨rfl, rfl⟩
  sockets := fun _ hexit => by cases hexit
  answers := fun _ hexit => by cases hexit
  succeeded := fun _ hexit => by cases hexit

/-- A run comes to its exit, except that it fails on these inputs. -/
def Concludes (m : Machine σ τ) (args : List Bytes) (aborts : Prop) : Prop :=
  (aborts → ∃ crash, program m args = .error crash) ∧
    (¬ aborts → ∃ ending, program m args = .ok (some ending) ∧ Released m args ending)

theorem program_help (m : Machine σ τ) {args : List Bytes}
    (hhelp : (parseArgs {} args).help = true) : Concludes m args False := by
  refine ⟨False.elim, fun _ => ⟨_, ?_, released_start m args (Nat.zero_le 1) m.fs⟩⟩
  have hmain : main (fun _ _ _ => []) m.fs m.stdin args = .ok (some (.exit 0, m.fs)) := by
    unfold main
    dsimp only
    rw [if_pos hhelp]
  rw [program, probing, hhelp]
  simp only [Bool.true_or, if_true, conclude, hmain]

theorem program_scan (m : Machine σ τ) {args : List Bytes}
    (hhelp : (parseArgs {} args).help = false) (hscan : (parseArgs {} args).scan = true)
    (hroom : lowestFree m.descriptors < fdSetSize) :
    Concludes m args (¬ Legible m.fs (parseArgs {} args).configPath ∨
      Unscannable m.monitor.pton (tolerated m.fs (parseArgs {} args).configPath).scanSubnet) := by
  have hprobing : probing m (parseArgs {} args) =
      match load m.fs (parseArgs {} args).configPath with
      | .error err => .error (.config err)
      | .ok settings =>
        match scan m.order m.monitor.pton settings.scanSubnet (scanPortsOrDefault settings) with
        | .error fault => .error (.scan fault)
        | .ok devices => .ok (devices.runWith (tryConnect m.probes 2000)
            (Process.start m.probeNet m.descriptors)) := by
    rw [probing, hhelp, hscan]
    rfl
  by_cases hfile : Legible m.fs (parseArgs {} args).configPath
  · have hload := load_legible hfile
    have hfails := scan_fails_iff m.order m.monitor.pton
      (tolerated m.fs (parseArgs {} args).configPath).scanSubnet
      (scanPortsOrDefault (tolerated m.fs (parseArgs {} args).configPath))
    rw [hload] at hprobing
    dsimp only at hprobing
    cases hresult : scan m.order m.monitor.pton
        (tolerated m.fs (parseArgs {} args).configPath).scanSubnet
        (scanPortsOrDefault (tolerated m.fs (parseArgs {} args).configPath)) with
    | error fault =>
      rw [hresult] at hprobing
      refine ⟨fun _ => ⟨.scan fault, by rw [program, hprobing]⟩, fun hsafe => ?_⟩
      exact absurd (Or.inr (hfails.mp ⟨fault, hresult⟩)) hsafe
    | ok devices =>
      have hscannable : ¬ Unscannable m.monitor.pton
          (tolerated m.fs (parseArgs {} args).configPath).scanSubnet := by
        intro hrefused
        obtain ⟨fault, hfault⟩ := hfails.mpr hrefused
        rw [hresult] at hfault
        cases hfault
      refine ⟨fun haborts => absurd hfile (haborts.resolve_right hscannable), fun _ => ?_⟩
      obtain ⟨found, st, hrun, hquiet, _⟩ := scan_quiet hresult m.probes 2000 m.probeNet hroom
      have hports := (scan_yields hresult).runWith hrun
      obtain ⟨code, hcode, hmode⟩ := scanMode_ends (fun _ _ _ => found) hload hports
      have hmain : main (fun _ _ _ => found) m.fs m.stdin args =
          .ok (some (.exit code, m.fs)) := by
        unfold main
        dsimp only
        rw [hhelp, hscan, if_neg Bool.false_ne_true, if_pos rfl, hmode]
        rfl
      rw [hresult] at hprobing
      dsimp only at hprobing
      refine ⟨⟨code, m.fs, st, none⟩, ?_, hcode, ⟨hquiet.opened, hquiet.closedOnce⟩, ?_, ?_, ?_⟩
      · rw [program, hprobing, hrun]
        simp only [conclude, hmain]
      all_goals
        intro exit hexit
        cases hexit
  · obtain ⟨err, herr⟩ := load_illegible hfile
    rw [herr] at hprobing
    refine ⟨fun _ => ⟨.config err, by rw [program, hprobing]⟩, fun hsafe => ?_⟩
    exact absurd (Or.inl hfile) hsafe

theorem program_monitor (m : Machine σ τ) {args : List Bytes}
    (hhelp : (parseArgs {} args).help = false) (hscan : (parseArgs {} args).scan = false)
    (hclosing : (parseArgs {} args).server = true → 6 ≤ m.monitor.closing.length) :
    Concludes m args (¬ Legible m.fs (parseArgs {} args).configPath ∨
      (overrides (parseArgs {} args)
        (tolerated m.fs (parseArgs {} args).configPath)).host = [] ∧ ¬ Legible m.fs []) := by
  have hprogram : program m args =
      conclude m args [] (Process.start m.probeNet m.descriptors) := by
    rw [program, probing, hhelp, hscan]
    rfl
  constructor
  · intro haborts
    obtain ⟨err, herr⟩ := main_fails (fun _ _ _ => []) m.stdin hhelp hscan haborts
    exact ⟨.config err, by rw [hprogram, conclude, herr]⟩
  · intro hsafe
    obtain ⟨hfile, hdefault⟩ := not_or.mp hsafe
    obtain ⟨outcome, fs, hmain, hcode⟩ := main_ends (fun _ _ _ => []) m.stdin hhelp hscan
      (not_not.mp hfile) (fun hhost => not_not.mp (not_and.mp hdefault hhost))
    rw [hprogram, conclude, hmain]
    cases outcome with
    | exit code => exact ⟨_, rfl, released_start m args (hcode code rfl).le fs⟩
    | connect cfg settings =>
      obtain rfl := main_connect_cfg hmain
      obtain ⟨hlow, hhigh⟩ := parseArgs_refreshHz_range args
      obtain ⟨exit, hrun, hmodbus, hlistening, hanswers⟩ :=
        monitor_closes hlow hhigh settings m.monitor hclosing
      have hcode : exit.code ≤ 1 := by
        rcases monitorRun_loop hrun with ⟨hfailed, _⟩ | ⟨_, _, _, hdone, _⟩ <;> omega
      refine ⟨⟨exit.code, fs, Process.start m.probeNet m.descriptors, some exit⟩, ?_, hcode,
        ⟨rfl, rfl⟩, ?_, ?_, ?_⟩
      · simp only [hrun, Option.map_some]
      · rintro exit' ⟨⟩
        exact ⟨hmodbus, hlistening⟩
      · rintro exit' ⟨⟩
        exact hanswers
      · rintro exit' ⟨⟩
        exact monitorRun_code hrun

/-- On every command line, whatever the files, the input, the network, the clocks, the keys and
the clients are: the program fails only on the configuration files and the subnets named above,
and always on these; otherwise it comes to its exit with nothing left open. A scan needs a
descriptor that fits into the set of `select`, and a server the steps that its thread has left
after the stop: as long as no client connects the thread waits in accept, and the program for
it. -/
theorem program_ends (m : Machine σ τ) (args : List Bytes)
    (hroom : (parseArgs {} args).scan = true → lowestFree m.descriptors < fdSetSize)
    (hclosing : (parseArgs {} args).server = true → 6 ≤ m.monitor.closing.length) :
    Concludes m args (Aborts m args) := by
  cases hhelp : (parseArgs {} args).help with
  | true =>
    have hsafe : Aborts m args ↔ False :=
      iff_of_false (fun haborts => by rw [haborts.1] at hhelp; cases hhelp) id
    rw [hsafe]
    exact program_help m hhelp
  | false =>
    cases hscan : (parseArgs {} args).scan with
    | true =>
      have haborts : Aborts m args ↔ ¬ Legible m.fs (parseArgs {} args).configPath ∨
          Unscannable m.monitor.pton
            (tolerated m.fs (parseArgs {} args).configPath).scanSubnet := by
        simp [Aborts, hhelp, hscan]
      rw [haborts]
      exact program_scan m hhelp hscan (hroom hscan)
    | false =>
      have haborts : Aborts m args ↔ ¬ Legible m.fs (parseArgs {} args).configPath ∨
          (overrides (parseArgs {} args)
            (tolerated m.fs (parseArgs {} args).configPath)).host = [] ∧ ¬ Legible m.fs [] := by
        simp [Aborts, hhelp, hscan]
      rw [haborts]
      exact program_monitor m hhelp hscan hclosing

def servingMachine : Machine Unit (Option Probe) where
  order := .little
  fs := ConfigRoundTrip.emptyDisk
  stdin := []
  probes := steady slowModbus
  probeNet := none
  descriptors := [0, 1, 2]
  monitor := twoPasses

theorem program_ends_serving :
    Concludes servingMachine [utf8 "192.168.178.121", utf8 "--server"]
      (Aborts servingMachine [utf8 "192.168.178.121", utf8 "--server"]) :=
  program_ends servingMachine [utf8 "192.168.178.121", utf8 "--server"]
    (fun _ => by decide) (fun _ => by decide)

end SolakonMonitor.WholeProgram
