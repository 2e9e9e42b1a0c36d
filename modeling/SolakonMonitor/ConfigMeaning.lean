import SolakonMonitor.ConfigRoundTrip

/-!
What a configuration file says: the assignments of its solakon sections, in order.
Loading a file is applying them one by one. It returns exactly when every number
among them can be read, and the ports it returns are the numbers written last
exactly when these fit into sixteen bits.
-/
namespace SolakonMonitor.ConfigMeaning

open BigEndian DecimalText TextLines ConfigLoader ConfigRoundTrip

/-- A key and its value, as written. -/
abbrev Entry := Bytes × Bytes

/-- How a line reads on its own. -/
inductive LineKind where
  | skipped
  | header (section' : Bytes)
  | entry (e : Entry)
  deriving DecidableEq

def classifyTrimmed : Bytes → LineKind
  | [] => .skipped
  | first :: rest =>
    let line := first :: rest
    if first = 59 ∨ first = 35 then .skipped
    else if first = 91 ∧ line.getLast? = some 93 then .header ((line.drop 1).take (line.length - 2))
    else
      match line.findIdx? (fun b => b = 61) with
      | none => .skipped
      | some eq => .entry (trimmed (line.take eq), trimmed (line.drop (eq + 1)))

def classify (line : Bytes) : LineKind := classifyTrimmed (trimmed line)

/-- The assignments among the lines, when they start inside a section. -/
def assignments : Bytes → List Bytes → List Entry
  | _, [] => []
  | current, line :: rest =>
    match classify line with
    | .skipped => assignments current rest
    | .header section' => assignments section' rest
    | .entry e =>
      if current = utf8 "solakon" then e :: assignments current rest else assignments current rest

/-- The lines of the file that `load` reads; none without a readable file. -/
def fileLines (fs : FileSystem) (path : Bytes) : List Bytes :=
  if fs.pathExists (loadPath fs path) then
    match fs.readFile (loadPath fs path) with
    | none => []
    | some content => fields 10 content
  else []

/-- What the file that `load` reads assigns. -/
def written (fs : FileSystem) (path : Bytes) : List Entry := assignments [] (fileLines fs path)

def assignEntry (cfg : Settings) (e : Entry) : Except StoiError Settings := assign cfg e.1 e.2

theorem readLine_eq (st : Reader) (line : Bytes) :
    readLine st line = match classify line with
      | .skipped => .ok st
      | .header section' => .ok { st with currentSection := section' }
      | .entry e =>
        if st.currentSection = utf8 "solakon" then
          (assignEntry st.cfg e).map (fun cfg => { st with cfg := cfg })
        else .ok st := by
  rw [readLine, classify]
  cases trimmed line with
  | nil => rfl
  | cons first rest =>
    rw [readTrimmed, classifyTrimmed]
    split
    · rfl
    · split
      · rfl
      · cases (first :: rest).findIdx? (fun b => b = 61) with
        | none => rfl
        | some eq =>
          simp only [ne_eq, ite_not]
          rfl

/-- Reading lines is applying their assignments. -/
theorem foldlM_readLine (lines : List Bytes) (st : Reader) :
    (lines.foldlM readLine st).map Reader.cfg =
      (assignments st.currentSection lines).foldlM assignEntry st.cfg := by
  induction lines generalizing st with
  | nil => rfl
  | cons line rest ih =>
    rw [List.foldlM_cons, readLine_eq, assignments]
    cases classify line with
    | skipped => exact ih st
    | header section' => exact ih { st with currentSection := section' }
    | entry e =>
      by_cases hsection : st.currentSection = utf8 "solakon"
      · simp only [if_pos hsection, List.foldlM_cons]
        cases hassign : assignEntry st.cfg e with
        | error err => rfl
        | ok cfg => exact ih { st with cfg := cfg }
      · simp only [if_neg hsection]
        exact ih st

theorem load_eq (fs : FileSystem) (path : Bytes) :
    load fs path = (written fs path).foldlM assignEntry { configPath := loadPath fs path } := by
  rw [load, written, fileLines]
  cases fs.pathExists (loadPath fs path) with
  | false => rfl
  | true =>
    cases fs.readFile (loadPath fs path) with
    | none => rfl
    | some content => exact foldlM_readLine (fields 10 content) _

inductive Key where
  | ip | modbusPort | httpsPort | refreshHz | scanSubnet | scanPorts | unknown
  deriving DecidableEq, Repr

def keyOf (key : Bytes) : Key :=
  if key = utf8 "ip" then .ip
  else if key = utf8 "modbus_port" then .modbusPort
  else if key = utf8 "https_port" then .httpsPort
  else if key = utf8 "refresh_hz" then .refreshHz
  else if key = utf8 "scan_subnet" then .scanSubnet
  else if key = utf8 "scan_ports" then .scanPorts
  else .unknown

theorem assignEntry_eq (cfg : Settings) (e : Entry) :
    assignEntry cfg e = match keyOf e.1 with
      | .ip => .ok { cfg with host := e.2 }
      | .modbusPort => (stoi e.2).map (fun v => { cfg with modbusPort := toPort v })
      | .httpsPort => (stoi e.2).map (fun v => { cfg with httpsPort := toPort v })
      | .refreshHz => (stoi e.2).map (fun v => { cfg with refreshHz := v })
      | .scanSubnet => .ok { cfg with scanSubnet := e.2 }
      | .scanPorts => (parsePorts e.2).map (fun ports => { cfg with scanPorts := ports })
      | .unknown => .ok cfg := by
  unfold assignEntry assign keyOf
  split_ifs <;> rfl

/-- The text starts with a number that an int can hold. -/
def IsInt (s : Bytes) : Prop := ∃ n, strtol s = some n ∧ -2147483648 ≤ n ∧ n ≤ 2147483647

/-- The texts between the commas of a list of ports, without the blank ones. -/
def portTexts (val : Bytes) : List Bytes :=
  ((fields 44 val).map trimmed).filter (fun port => port ≠ [])

/-- Every number that the assignment calls for can be read. -/
def Readable (e : Entry) : Prop :=
  match keyOf e.1 with
  | .modbusPort | .httpsPort | .refreshHz => IsInt e.2
  | .scanPorts => ∀ port ∈ portTexts e.2, IsInt port
  | .ip | .scanSubnet | .unknown => True

theorem stoi_eq_ok_iff (s : Bytes) (v : Int32) :
    stoi s = .ok v ↔ ∃ n, strtol s = some n ∧ (-2147483648 ≤ n ∧ n ≤ 2147483647) ∧
      v = Int32.ofInt n := by
  unfold stoi
  cases strtol s with
  | none => simp
  | some n =>
    by_cases hrange : -2147483648 ≤ n ∧ n ≤ 2147483647
    · simp only [if_pos hrange, Except.ok.injEq, Option.some.injEq]
      constructor
      · intro hv
        exact ⟨n, rfl, hrange, hv.symm⟩
      · intro h
        obtain ⟨m, rfl, _, hv⟩ := h
        exact hv.symm
    · simp only [if_neg hrange]
      constructor
      · intro h
        cases h
      · intro h
        obtain ⟨m, hm, hin, _⟩ := h
        rw [← Option.some.inj hm] at hin
        exact absurd hin hrange

theorem isInt_iff (s : Bytes) : IsInt s ↔ ∃ v, stoi s = .ok v := by
  constructor
  · intro h
    obtain ⟨n, hn, hrange⟩ := h
    exact ⟨Int32.ofInt n, (stoi_eq_ok_iff s _).mpr ⟨n, hn, hrange, rfl⟩⟩
  · intro h
    obtain ⟨v, hv⟩ := h
    obtain ⟨n, hn, hrange, _⟩ := (stoi_eq_ok_iff s v).mp hv
    exact ⟨n, hn, hrange⟩

theorem parsePorts_eq (val : Bytes) :
    parsePorts val = (portTexts val).foldlM (fun ports port =>
      (stoi port).map (fun v => ports ++ [toPort v])) [] := by
  have hloop : ∀ (pieces : List Bytes) (done : List UInt16),
      pieces.foldlM (fun ports port =>
        if trimmed port = [] then .ok ports
        else do
          let v ← stoi (trimmed port)
          return ports ++ [toPort v]) done =
        ((pieces.map trimmed).filter (fun port => port ≠ [])).foldlM (fun ports port =>
          (stoi port).map (fun v => ports ++ [toPort v])) done := by
    intro pieces
    induction pieces with
    | nil => intro done; rfl
    | cons piece rest ih =>
      intro done
      rw [List.foldlM_cons, List.map_cons, List.filter_cons]
      by_cases hblank : trimmed piece = []
      · simp only [hblank, if_true, ne_eq, not_true_eq_false, decide_false, Bool.false_eq_true,
          if_false]
        exact ih done
      · simp only [hblank, if_false, ne_eq, not_false_eq_true, decide_true, if_true,
          List.foldlM_cons]
        cases stoi (trimmed piece) with
        | error err => rfl
        | ok v => exact ih (done ++ [toPort v])
  exact hloop (fields 44 val) []

theorem toPort_toNat (n : ℤ) : ((toPort (Int32.ofInt n)).toNat : ℤ) = n % 65536 := by
  have hbits : (Int32.ofInt n).toUInt32.toNat = (n % 4294967296).toNat := by
    change (BitVec.ofInt 32 n).toNat = _
    rw [BitVec.toNat_ofInt]
    rfl
  rw [toPort, UInt32.toNat_toUInt16, hbits]
  omega

theorem foldlM_ports_ok {texts : List Bytes} {done ports : List UInt16}
    (h : texts.foldlM (fun ports port => (stoi port).map (fun v => ports ++ [toPort v])) done =
      .ok ports) :
    (∀ port ∈ texts, IsInt port) ∧ ports.map (fun p => (p.toNat : ℤ)) =
      done.map (fun p => (p.toNat : ℤ)) ++ (texts.filterMap strtol).map (· % 65536) := by
  induction texts generalizing done with
  | nil =>
    cases h
    exact ⟨by simp, by simp⟩
  | cons text rest ih =>
    rw [List.foldlM_cons] at h
    cases hv : stoi text with
    | error err =>
      rw [hv] at h
      cases h
    | ok v =>
      rw [hv] at h
      obtain ⟨hrest, hports⟩ := ih h
      obtain ⟨n, hn, hrange, rfl⟩ := (stoi_eq_ok_iff text v).mp hv
      refine ⟨?_, ?_⟩
      · intro port hport
        rcases List.mem_cons.mp hport with rfl | hport
        · exact ⟨n, hn, hrange⟩
        · exact hrest port hport
      · rw [hports, List.filterMap_cons_some hn]
        simp [toPort_toNat]

theorem foldlM_ports_exists {texts : List Bytes} (done : List UInt16)
    (h : ∀ port ∈ texts, IsInt port) :
    ∃ ports, texts.foldlM (fun ports port =>
      (stoi port).map (fun v => ports ++ [toPort v])) done = .ok ports := by
  induction texts generalizing done with
  | nil => exact ⟨done, rfl⟩
  | cons text rest ih =>
    obtain ⟨v, hv⟩ := (isInt_iff text).mp (h text List.mem_cons_self)
    obtain ⟨ports, hports⟩ := ih (done ++ [toPort v])
      (fun port hport => h port (List.mem_cons_of_mem text hport))
    refine ⟨ports, ?_⟩
    rw [List.foldlM_cons, hv]
    exact hports

theorem parsePorts_ok {val : Bytes} {ports : List UInt16} (h : parsePorts val = .ok ports) :
    (∀ port ∈ portTexts val, IsInt port) ∧ ports.map (fun p => (p.toNat : ℤ)) =
      ((portTexts val).filterMap strtol).map (· % 65536) := by
  rw [parsePorts_eq] at h
  exact foldlM_ports_ok h

theorem map_ok_iff {ε α β : Type} (x : Except ε α) (f : α → β) :
    (∃ b, x.map f = .ok b) ↔ ∃ a, x = .ok a := by
  cases x with
  | error e => exact iff_of_false (fun ⟨b, hb⟩ => by cases hb) (fun ⟨a, ha⟩ => by cases ha)
  | ok a => exact iff_of_true ⟨f a, rfl⟩ ⟨a, rfl⟩

/-- An assignment is applied exactly when its numbers can be read. -/
theorem assignEntry_ok_iff (cfg : Settings) (e : Entry) :
    (∃ cfg', assignEntry cfg e = .ok cfg') ↔ Readable e := by
  rw [assignEntry_eq, Readable]
  cases keyOf e.1 with
  | ip | scanSubnet | unknown => exact iff_of_true ⟨_, rfl⟩ trivial
  | modbusPort | httpsPort | refreshHz => exact (map_ok_iff _ _).trans (isInt_iff e.2).symm
  | scanPorts =>
    refine (map_ok_iff _ _).trans ?_
    constructor
    · intro h
      obtain ⟨ports, hports⟩ := h
      exact (parsePorts_ok hports).1
    · intro h
      rw [parsePorts_eq]
      exact foldlM_ports_exists [] h

/-- Apply an assignment, or leave the settings alone where its value is malformed. -/
def tolerate (cfg : Settings) (e : Entry) : Settings :=
  match assignEntry cfg e with
  | .ok cfg' => cfg'
  | .error _ => cfg

def tolerated (fs : FileSystem) (path : Bytes) : Settings :=
  (written fs path).foldl tolerate { configPath := loadPath fs path }

theorem readable_of_foldlM {entries : List Entry} {initial cfg : Settings}
    (h : entries.foldlM assignEntry initial = .ok cfg) : ∀ e ∈ entries, Readable e := by
  induction entries generalizing initial with
  | nil => simp
  | cons e rest ih =>
    rw [List.foldlM_cons] at h
    cases hassign : assignEntry initial e with
    | error err =>
      rw [hassign] at h
      cases h
    | ok next =>
      rw [hassign] at h
      rw [List.forall_mem_cons]
      exact ⟨(assignEntry_ok_iff initial e).mp ⟨next, hassign⟩, ih h⟩

theorem foldlM_tolerate_iff (entries : List Entry) (cfg : Settings) :
    entries.foldlM assignEntry cfg = .ok (entries.foldl tolerate cfg) ↔
      ∀ e ∈ entries, Readable e := by
  refine ⟨readable_of_foldlM, fun h => ?_⟩
  induction entries generalizing cfg with
  | nil => rfl
  | cons e rest ih =>
    rw [List.forall_mem_cons, ← assignEntry_ok_iff cfg e] at h
    obtain ⟨⟨cfg', hassign⟩, hrest⟩ := h
    have htolerate : tolerate cfg e = cfg' := by rw [tolerate, hassign]
    rw [List.foldlM_cons, hassign, List.foldl_cons, htolerate]
    exact ih cfg' hrest

/-- Loading returns, with malformed values left at the previous ones, exactly when
every number assigned in a solakon section can be read. -/
theorem load_tolerates_iff (fs : FileSystem) (path : Bytes) :
    load fs path = .ok (tolerated fs path) ↔ ∀ e ∈ written fs path, Readable e := by
  rw [load_eq]
  exact foldlM_tolerate_iff (written fs path) _

def diskWith (content : String) : FileSystem :=
  { emptyDisk with
    files := fun path => if path = utf8 "solakon.conf" then some (utf8 content) else none }

/-- One port that is no number ends the loading. -/
theorem load_malformed_port :
    load (diskWith "[solakon]\nmodbus_port = abc\n") [] = .error .invalidArgument ∧
      load (diskWith "[solakon]\nmodbus_port = abc\n") [] ≠
        .ok (tolerated (diskWith "[solakon]\nmodbus_port = abc\n") []) := by
  have herror : load (diskWith "[solakon]\nmodbus_port = abc\n") [] = .error .invalidArgument := by
    rfl
  refine ⟨herror, ?_⟩
  rw [herror]
  intro h
  cases h

/-- The value the last assignment of a key gives. -/
def lastValue (key : Key) : List Entry → Option Bytes
  | [] => none
  | e :: rest => (lastValue key rest).or (if keyOf e.1 = key then some e.2 else none)

/-- A setting that one key reads from its value, and no other key touches, ends as the
last assignment of that key leaves it. -/
theorem foldlM_last {β : Type} (key : Key) (get : Settings → β) (read : Bytes → Option β)
    (hset : ∀ cfg cfg' e, keyOf e.1 = key → assignEntry cfg e = .ok cfg' →
      read e.2 = some (get cfg'))
    (hother : ∀ cfg cfg' e, keyOf e.1 ≠ key → assignEntry cfg e = .ok cfg' → get cfg' = get cfg)
    {entries : List Entry} {cfg cfg' : Settings}
    (h : entries.foldlM assignEntry cfg = .ok cfg') :
    some (get cfg') = match lastValue key entries with
      | none => some (get cfg)
      | some value => read value := by
  induction entries generalizing cfg with
  | nil =>
    cases h
    rfl
  | cons e rest ih =>
    rw [List.foldlM_cons] at h
    cases hassign : assignEntry cfg e with
    | error err =>
      rw [hassign] at h
      cases h
    | ok next =>
      rw [hassign] at h
      have hrest := ih h
      rw [lastValue]
      cases hlast : lastValue key rest with
      | some value => simpa only [hlast, Option.some_or] using hrest
      | none =>
        rw [hlast] at hrest
        by_cases hkey : keyOf e.1 = key
        · simp only [if_pos hkey, Option.none_or]
          rw [hset cfg next e hkey hassign]
          exact hrest
        · simp only [if_neg hkey, Option.none_or]
          rw [← hother cfg next e hkey hassign]
          exact hrest

/-- The number of the last assignment of a port. -/
def portWritten (key : Key) (entries : List Entry) : Option ℤ := (lastValue key entries).bind strtol

/-- The numbers of the last list of scan ports. -/
def portsWritten (entries : List Entry) : Option (List ℤ) :=
  (lastValue .scanPorts entries).map (fun value => (portTexts value).filterMap strtol)

/-- The port is its default or the number written for it. -/
def AsWritten (number : Option ℤ) (initial port : UInt16) : Prop :=
  port = initial ∨ number = some (port.toNat : ℤ)

structure PortsAsWritten (entries : List Entry) (cfg : Settings) : Prop where
  modbusPort : AsWritten (portWritten .modbusPort entries) 502 cfg.modbusPort
  httpsPort : AsWritten (portWritten .httpsPort entries) 443 cfg.httpsPort
  scanPorts : cfg.scanPorts = [502, 443] ∨ ∃ numbers, portsWritten entries = some numbers ∧
    (cfg.scanPorts.map (fun port => (port.toNat : ℤ))).Sublist numbers

/-- The number is a port, or the sixteen bits left of it are those of the default. -/
def Fits (initial : UInt16) (n : ℤ) : Prop :=
  (0 ≤ n ∧ n ≤ 65535) ∨ n % 65536 = (initial.toNat : ℤ)

structure PortsFit (entries : List Entry) : Prop where
  modbusPort : ∀ n ∈ portWritten .modbusPort entries, Fits 502 n
  httpsPort : ∀ n ∈ portWritten .httpsPort entries, Fits 443 n
  scanPorts : ∀ numbers ∈ portsWritten entries,
    (∀ n ∈ numbers, 0 ≤ n ∧ n ≤ 65535) ∨ numbers.map (· % 65536) = [502, 443]

theorem toPort_of_stoi {s : Bytes} {v : Int32} (h : stoi s = .ok v) :
    (strtol s).map (· % 65536) = some ((toPort v).toNat : ℤ) := by
  obtain ⟨n, hn, _, rfl⟩ := (stoi_eq_ok_iff s v).mp h
  rw [hn, Option.map_some, toPort_toNat]

/-- What the port keys leave in their settings. -/
structure PortEffect (e : Entry) (cfg' : Settings) : Prop where
  modbusPort : keyOf e.1 = .modbusPort →
    (strtol e.2).map (· % 65536) = some (cfg'.modbusPort.toNat : ℤ)
  httpsPort : keyOf e.1 = .httpsPort →
    (strtol e.2).map (· % 65536) = some (cfg'.httpsPort.toNat : ℤ)
  scanPorts : keyOf e.1 = .scanPorts →
    some (((portTexts e.2).filterMap strtol).map (· % 65536)) =
      some (cfg'.scanPorts.map (fun port => (port.toNat : ℤ)))

theorem assignEntry_effect {cfg cfg' : Settings} {e : Entry} (h : assignEntry cfg e = .ok cfg') :
    PortEffect e cfg' := by
  rw [assignEntry_eq] at h
  constructor
  · intro hkey
    rw [hkey] at h
    obtain ⟨v, hv, rfl⟩ := map_eq_ok h
    exact toPort_of_stoi hv
  · intro hkey
    rw [hkey] at h
    obtain ⟨v, hv, rfl⟩ := map_eq_ok h
    exact toPort_of_stoi hv
  · intro hkey
    rw [hkey] at h
    obtain ⟨ports, hports, rfl⟩ := map_eq_ok h
    exact congrArg some (parsePorts_ok hports).2.symm

/-- Only its own key changes a setting. -/
structure Framed (key : Key) (cfg cfg' : Settings) : Prop where
  host : key ≠ .ip → cfg'.host = cfg.host
  modbusPort : key ≠ .modbusPort → cfg'.modbusPort = cfg.modbusPort
  httpsPort : key ≠ .httpsPort → cfg'.httpsPort = cfg.httpsPort
  refreshHz : key ≠ .refreshHz → cfg'.refreshHz = cfg.refreshHz
  scanSubnet : key ≠ .scanSubnet → cfg'.scanSubnet = cfg.scanSubnet
  scanPorts : key ≠ .scanPorts → cfg'.scanPorts = cfg.scanPorts

theorem assignEntry_frame {cfg cfg' : Settings} {e : Entry} (h : assignEntry cfg e = .ok cfg') :
    Framed (keyOf e.1) cfg cfg' := by
  rw [assignEntry_eq] at h
  cases hkey : keyOf e.1 with
  | ip | scanSubnet | unknown =>
    rw [hkey] at h
    cases h
    constructor <;> first | exact fun _ => rfl | exact fun hne => absurd rfl hne
  | modbusPort | httpsPort | refreshHz | scanPorts =>
    rw [hkey] at h
    obtain ⟨v, _, rfl⟩ := map_eq_ok h
    constructor <;> first | exact fun _ => rfl | exact fun hne => absurd rfl hne

/-- What a port is after loading: its default, or the number written cut to sixteen bits. -/
theorem port_loaded {key : Key} {entries : List Entry} {initial : UInt16} (port : UInt16)
    (h : some (port.toNat : ℤ) = match lastValue key entries with
      | none => some (initial.toNat : ℤ)
      | some value => (strtol value).map (· % 65536)) :
    AsWritten (portWritten key entries) initial port ↔
      ∀ n ∈ portWritten key entries, Fits initial n := by
  rw [AsWritten, portWritten]
  cases hlast : lastValue key entries with
  | none =>
    simp only [hlast, Option.some.injEq, Nat.cast_inj, UInt16.toNat_inj] at h
    simp [h]
  | some value =>
    rw [hlast] at h
    cases hn : strtol value with
    | none =>
      simp only [hn, Option.map_none] at h
      cases h
    | some n =>
      simp only [hn, Option.map_some, Option.some.injEq] at h
      simp only [Option.bind_some, hn, Option.mem_def, Option.some.injEq, forall_eq', Fits,
        ← UInt16.toNat_inj]
      have hlt := port.toNat_lt
      omega

theorem scanPorts_loaded {entries : List Entry} (ports : List UInt16)
    (h : some (ports.map (fun port => (port.toNat : ℤ))) = match lastValue .scanPorts entries with
      | none => some [502, 443]
      | some value => some (((portTexts value).filterMap strtol).map (· % 65536))) :
    (ports = [502, 443] ∨ ∃ numbers, portsWritten entries = some numbers ∧
        (ports.map (fun port => (port.toNat : ℤ))).Sublist numbers) ↔
      ∀ numbers ∈ portsWritten entries,
        (∀ n ∈ numbers, 0 ≤ n ∧ n ≤ 65535) ∨ numbers.map (· % 65536) = [502, 443] := by
  have hdefault : ports = [502, 443] ↔ ports.map (fun port => (port.toNat : ℤ)) = [502, 443] := by
    have hinj : Function.Injective (fun port : UInt16 => (port.toNat : ℤ)) := by
      intro p q hpq
      exact UInt16.toNat_inj.mp (Nat.cast_inj.mp hpq)
    have hlist : ([502, 443] : List ℤ) =
        [502, 443].map (fun port : UInt16 => (port.toNat : ℤ)) := rfl
    rw [hlist]
    exact (List.map_injective_iff.mpr hinj).eq_iff.symm
  rw [hdefault, portsWritten]
  cases hlast : lastValue .scanPorts entries with
  | none =>
    simp only [hlast, Option.some.injEq] at h
    simp [h]
  | some value =>
    simp only [hlast, Option.some.injEq] at h
    simp only [Option.map_some, Option.some.injEq, exists_eq_left', Option.mem_def, forall_eq', h]
    generalize (portTexts value).filterMap strtol = numbers
    have hsub : (numbers.map (· % 65536)).Sublist numbers ↔ ∀ n ∈ numbers, 0 ≤ n ∧ n ≤ 65535 := by
      constructor
      · intro hsub n hn
        have hsame := hsub.eq_of_length (List.length_map _)
        rw [← hsame] at hn
        obtain ⟨m, _, rfl⟩ := List.mem_map.mp hn
        omega
      · intro hrange
        have hsame : numbers.map (· % 65536) = numbers := by
          refine (List.map_congr_left (fun n hn => ?_)).trans (List.map_id numbers)
          have hn' := hrange n hn
          change n % 65536 = n
          omega
        rw [hsame]
    rw [hsub]
    tauto

/-- On a file that loads, every port is the number written for it or its default
exactly when every number that counts is a port or wraps onto the default. -/
theorem load_ports_iff (fs : FileSystem) (path : Bytes) (cfg : Settings)
    (hload : load fs path = .ok cfg) :
    PortsAsWritten (written fs path) cfg ↔ PortsFit (written fs path) := by
  rw [load_eq] at hload
  have hmodbus := port_loaded cfg.modbusPort
    (foldlM_last .modbusPort (fun cfg => (cfg.modbusPort.toNat : ℤ))
      (fun value => (strtol value).map (· % 65536))
      (fun _ _ _ hkey h => (assignEntry_effect h).modbusPort hkey)
      (fun _ _ _ hkey h => by rw [(assignEntry_frame h).modbusPort hkey]) hload)
  have hhttps := port_loaded cfg.httpsPort
    (foldlM_last .httpsPort (fun cfg => (cfg.httpsPort.toNat : ℤ))
      (fun value => (strtol value).map (· % 65536))
      (fun _ _ _ hkey h => (assignEntry_effect h).httpsPort hkey)
      (fun _ _ _ hkey h => by rw [(assignEntry_frame h).httpsPort hkey]) hload)
  have hscan := scanPorts_loaded cfg.scanPorts
    (foldlM_last .scanPorts (fun cfg => cfg.scanPorts.map (fun port => (port.toNat : ℤ)))
      (fun value => some (((portTexts value).filterMap strtol).map (· % 65536)))
      (fun _ _ _ hkey h => (assignEntry_effect h).scanPorts hkey)
      (fun _ _ _ hkey h => congrArg _ ((assignEntry_frame h).scanPorts hkey)) hload)
  constructor
  · intro h
    exact ⟨hmodbus.mp h.modbusPort, hhttps.mp h.httpsPort, hscan.mp h.scanPorts⟩
  · intro h
    exact ⟨hmodbus.mpr h.modbusPort, hhttps.mpr h.httpsPort, hscan.mpr h.scanPorts⟩

theorem load_ports_iff_list :
    PortsAsWritten (written (diskWith "[solakon]\nscan_ports = 80, ,8080\n") [])
        { scanPorts := [80, 8080], configPath := utf8 "solakon.conf" } ↔
      PortsFit (written (diskWith "[solakon]\nscan_ports = 80, ,8080\n") []) :=
  load_ports_iff (diskWith "[solakon]\nscan_ports = 80, ,8080\n") []
    { scanPorts := [80, 8080], configPath := utf8 "solakon.conf" } rfl

/-- Port 65537 is loaded as port 1. -/
theorem load_wrapped_port :
    load (diskWith "[solakon]\nmodbus_port = 65537\n") [] =
        .ok { modbusPort := 1, configPath := utf8 "solakon.conf" } ∧
      ¬ PortsAsWritten (written (diskWith "[solakon]\nmodbus_port = 65537\n") [])
        { modbusPort := 1, configPath := utf8 "solakon.conf" } := by
  refine ⟨rfl, ?_⟩
  intro h
  have hnumber : portWritten .modbusPort
      (written (diskWith "[solakon]\nmodbus_port = 65537\n") []) = some 65537 := by rfl
  have hport := h.modbusPort
  rw [AsWritten, hnumber] at hport
  revert hport
  decide

end SolakonMonitor.ConfigMeaning
