import SolakonMonitor.ConfigLoader

/-!
Saving and loading the configuration.
The loader only produces host and subnet texts without newlines and without
blanks at their ends. The saved text is a list of lines; read one by one, each
assignment gives its setting back, so loading a saved configuration returns it.
-/
namespace SolakonMonitor.ConfigRoundTrip

open BigEndian DecimalText TextLines ConfigLoader

/-- No newline, and no blank at either end. -/
structure Tidy (s : Bytes) : Prop where
  ends : Trimmed isBlank s
  oneLine : 10 ∉ s

theorem tidy_trimmed {s : Bytes} (h : 10 ∉ s) : Tidy (trimmed s) :=
  ⟨trimmed_trim isBlank s, fun hmem => h (mem_of_mem_trim hmem)⟩

theorem tidy_of_forall {s : Bytes} (h : ∀ b ∈ s, isBlank b = false) : Tidy s where
  ends := trimmed_of_forall h
  oneLine := fun hmem => by cases h 10 hmem

theorem tidy_of_all {s : Bytes} (h : s.all (fun b => !isBlank b) = true) : Tidy s :=
  tidy_of_forall (fun b hb => by simpa using List.all_eq_true.mp h b hb)

/-- The texts of a configuration are tidy. -/
structure TidySettings (cfg : Settings) : Prop where
  host : Tidy cfg.host
  scanSubnet : Tidy cfg.scanSubnet

theorem tidySettings_default (path : Bytes) : TidySettings { configPath := path } := by
  have hsubnet : Tidy (utf8 "192.168.178.0/24") := tidy_of_all rfl
  exact ⟨⟨Trimmed.nil isBlank, List.not_mem_nil⟩, hsubnet⟩

theorem map_eq_ok {ε α β : Type} {x : Except ε α} {f : α → β} {b : β}
    (h : x.map f = .ok b) : ∃ a, x = .ok a ∧ f a = b := by
  cases x with
  | error e => cases h
  | ok a => exact ⟨a, rfl, Except.ok.inj h⟩

/-- A loop that may fail keeps an invariant that each of its steps keeps. -/
private theorem foldlM_preserves {ε σ α : Type} {f : σ → α → Except ε σ} (inv : σ → Prop)
    {l : List α} (hstep : ∀ s a s', a ∈ l → inv s → f s a = .ok s' → inv s') {s s' : σ}
    (hs : inv s) (hrun : l.foldlM f s = .ok s') : inv s' := by
  induction l generalizing s with
  | nil =>
    cases hrun
    exact hs
  | cons a l ih =>
    rw [List.foldlM_cons] at hrun
    cases hfirst : f s a with
    | error e =>
      rw [hfirst] at hrun
      cases hrun
    | ok t =>
      rw [hfirst] at hrun
      exact ih (fun s a s' ha => hstep s a s' (List.mem_cons_of_mem _ ha))
        (hstep s a t List.mem_cons_self hs hfirst) hrun

theorem assign_tidy {cfg cfg' : Settings} {key val : Bytes} (hcfg : TidySettings cfg)
    (hval : Tidy val) (h : assign cfg key val = .ok cfg') : TidySettings cfg' := by
  unfold assign at h
  split_ifs at h
  · rw [← Except.ok.inj h]
    exact ⟨hval, hcfg.scanSubnet⟩
  · obtain ⟨v, _, rfl⟩ := map_eq_ok h
    exact ⟨hcfg.host, hcfg.scanSubnet⟩
  · obtain ⟨v, _, rfl⟩ := map_eq_ok h
    exact ⟨hcfg.host, hcfg.scanSubnet⟩
  · obtain ⟨v, _, rfl⟩ := map_eq_ok h
    exact ⟨hcfg.host, hcfg.scanSubnet⟩
  · rw [← Except.ok.inj h]
    exact ⟨hcfg.host, hval⟩
  · obtain ⟨v, _, rfl⟩ := map_eq_ok h
    exact ⟨hcfg.host, hcfg.scanSubnet⟩
  · rw [← Except.ok.inj h]
    exact hcfg

/-- The only way a line changes the settings is an assignment of trimmed texts. -/
theorem readTrimmed_cases {st st' : Reader} {line : Bytes} (h : readTrimmed st line = .ok st') :
    st'.cfg = st.cfg ∨ ∃ eq, st.currentSection = utf8 "solakon" ∧
      assign st.cfg (trimmed (line.take eq)) (trimmed (line.drop (eq + 1))) = .ok st'.cfg := by
  cases line with
  | nil => exact Or.inl (congrArg Reader.cfg (Except.ok.inj h)).symm
  | cons first rest =>
    have hskip : ∀ {section' : Bytes}, st' = { st with currentSection := section' } →
        st'.cfg = st.cfg := by
      rintro section' rfl
      rfl
    rw [readTrimmed] at h
    split at h
    · exact Or.inl (hskip (Except.ok.inj h).symm)
    · split at h
      · exact Or.inl (hskip (Except.ok.inj h).symm)
      · split at h
        · exact Or.inl (hskip (Except.ok.inj h).symm)
        · rename_i eq _
          split at h
          · exact Or.inl (hskip (Except.ok.inj h).symm)
          · rename_i hsection
            obtain ⟨cfg, hassign, rfl⟩ := map_eq_ok h
            exact Or.inr ⟨eq, not_not.mp hsection, hassign⟩

theorem readLine_tidy {st st' : Reader} {line : Bytes} (hline : 10 ∉ line)
    (hst : TidySettings st.cfg) (h : readLine st line = .ok st') : TidySettings st'.cfg := by
  rcases readTrimmed_cases h with hsame | ⟨eq, _, hassign⟩
  · rw [hsame]
    exact hst
  · refine assign_tidy hst (tidy_trimmed (fun hmem => hline ?_)) hassign
    exact mem_of_mem_trim (List.mem_of_mem_drop hmem)

theorem load_tidy {fs : FileSystem} {path : Bytes} {cfg : Settings} (h : load fs path = .ok cfg) :
    TidySettings cfg := by
  have hdefault := tidySettings_default (loadPath fs path)
  unfold load at h
  simp only at h
  split at h
  · rw [← Except.ok.inj h]
    exact hdefault
  · split at h
    · rw [← Except.ok.inj h]
      exact hdefault
    · obtain ⟨st, hread, rfl⟩ := map_eq_ok h
      refine foldlM_preserves (fun st => TidySettings st.cfg) ?_ hdefault hread
      intro st line st' hmem hst hline
      exact readLine_tidy (not_mem_of_mem_fields hmem) hst hline

theorem assign_configPath {cfg cfg' : Settings} {key val : Bytes}
    (h : assign cfg key val = .ok cfg') : cfg'.configPath = cfg.configPath := by
  unfold assign at h
  split_ifs at h
  all_goals
    first
      | cases h
        rfl
      | obtain ⟨v, _, rfl⟩ := map_eq_ok h
        rfl

theorem load_configPath {fs : FileSystem} {path : Bytes} {cfg : Settings}
    (h : load fs path = .ok cfg) : cfg.configPath = loadPath fs path := by
  unfold load at h
  simp only at h
  split at h
  · rw [← Except.ok.inj h]
  · split at h
    · rw [← Except.ok.inj h]
    · obtain ⟨st, hread, rfl⟩ := map_eq_ok h
      refine foldlM_preserves (fun st => st.cfg.configPath = loadPath fs path) ?_ rfl hread
      intro st line st' _ hst hline
      rcases readTrimmed_cases hline with hsame | ⟨eq, _, hassign⟩
      · rw [hsame, hst]
      · rw [assign_configPath hassign, hst]

theorem loadPath_ne_nil (fs : FileSystem) (path : Bytes) : loadPath fs path ≠ [] := by
  unfold loadPath
  by_cases hpath : path ≠ []
  · rwa [if_pos hpath]
  · rw [if_neg hpath]
    by_cases hexists : fs.pathExists (homePath fs) = true
    · rw [if_pos hexists]
      intro hnil
      rw [hnil] at hexists
      cases hexists
    · rw [if_neg hexists]
      decide

/-- Loading again from the path a configuration came from gives it again. -/
theorem load_again {fs : FileSystem} {path : Bytes} {cfg : Settings}
    (h : load fs path = .ok cfg) : load fs cfg.configPath = .ok cfg := by
  have hpath : loadPath fs cfg.configPath = loadPath fs path := by
    rw [load_configPath h]
    exact if_pos (loadPath_ne_nil fs path)
  rw [← h]
  unfold load
  rw [hpath]

/-- A key that is neither a comment nor a header and holds no equals sign. -/
structure PlainKey (key : Bytes) : Prop where
  ends : Trimmed isBlank key
  head : ∃ k ∈ key.head?, k ≠ 59 ∧ k ≠ 35 ∧ k ≠ 91
  noEquals : 61 ∉ key

theorem PlainKey.exists_cons {key : Bytes} (hkey : PlainKey key) :
    ∃ k rest, key = k :: rest ∧ k ≠ 59 ∧ k ≠ 35 ∧ k ≠ 91 := by
  obtain ⟨k, hk, hne⟩ := hkey.head
  cases key with
  | nil => cases hk
  | cons a rest => exact ⟨k, rest, by rw [Option.mem_some.mp hk], hne⟩

theorem PlainKey.findIdx {key : Bytes} (hkey : PlainKey key) (rest : Bytes) :
    (key ++ [32, 61] ++ rest).findIdx? (fun b => b = 61) = some (key.length + 1) := by
  have hnot : (61 : UInt8) ∉ key ++ [32] := by
    simpa using hkey.noEquals
  have hfind := findIdx?_delimiter hnot rest
  simpa using hfind

/-- Once trimmed, an assignment line is the key, the equals sign and a text that
trims to the value. -/
theorem trimmed_assignment {key val : Bytes} (hkey : PlainKey key) (hval : Trimmed isBlank val) :
    ∃ rest, trimmed (key ++ [32, 61, 32] ++ val) = key ++ [32, 61] ++ rest ∧
      trimmed rest = val := by
  have hne : key ≠ [] := by
    obtain ⟨k, rest, rfl, _⟩ := hkey.exists_cons
    exact List.cons_ne_nil k rest
  have hblank : ∀ b ∈ ([32] : Bytes), isBlank b = true := List.forall_mem_singleton.mpr rfl
  cases val with
  | nil =>
    have hends : Trimmed isBlank (key ++ [32] ++ [61]) :=
      hkey.ends.between (tidy_of_all rfl).ends hne (List.cons_ne_nil 61 [])
    have htrim := hends.trim_append [] [32] (by simp) hblank
    refine ⟨[], ?_, rfl⟩
    rw [trimmed]
    simpa using htrim
  | cons b val =>
    refine ⟨32 :: b :: val, ?_, ?_⟩
    · have hends : Trimmed isBlank (key ++ [32, 61, 32] ++ b :: val) :=
        hkey.ends.between hval hne (List.cons_ne_nil b val)
      rw [trimmed, hends.trim_eq]
      simp
    · simpa [trimmed] using hval.trim_append [32] [] hblank (by simp)

theorem readLine_assignment (cfg : Settings) {key val : Bytes} (hkey : PlainKey key)
    (hval : Trimmed isBlank val) :
    readLine ⟨cfg, utf8 "solakon"⟩ (key ++ [32, 61, 32] ++ val) =
      (assign cfg key val).map (fun cfg => ⟨cfg, utf8 "solakon"⟩) := by
  obtain ⟨rest, hline, hrest⟩ := trimmed_assignment hkey hval
  have hfind := hkey.findIdx rest
  have hkeyText : trimmed ((key ++ [32, 61] ++ rest).take (key.length + 1)) = key := by
    have hsplit : key ++ [32, 61] ++ rest = key ++ [32] ++ 61 :: rest := by simp
    rw [hsplit, List.take_left' (by simp), trimmed]
    simpa using hkey.ends.trim_append [] [32] (by simp) (List.forall_mem_singleton.mpr rfl)
  have hvalText : trimmed ((key ++ [32, 61] ++ rest).drop (key.length + 1 + 1)) = val := by
    rw [List.drop_left' (by simp), hrest]
  obtain ⟨k, keyRest, hcons, hcomment, hhash, hheader⟩ := hkey.exists_cons
  have hfirst : key ++ [32, 61] ++ rest = k :: (keyRest ++ [32, 61] ++ rest) := by
    rw [hcons]
    rfl
  rw [readLine, hline]
  rw [hfirst] at hfind hkeyText hvalText ⊢
  rw [readTrimmed, if_neg (by tauto), if_neg (by tauto), hfind]
  simp only [ne_eq, not_true_eq_false, if_false, hkeyText, hvalText]

theorem stoi_decimalInt (v : Int32) : stoi (decimalInt v.toInt) = .ok v := by
  have hlow := v.le_toInt
  have hhigh := v.toInt_lt
  rw [stoi, strtol_decimalInt]
  simp only
  rw [if_pos (by omega), Int32.ofInt_toInt]

theorem stoi_decimal (port : UInt16) : (stoi (decimal port.toNat)).map toPort = .ok port := by
  have hlt := port.toNat_lt
  rw [stoi, strtol_decimal]
  simp only
  rw [if_pos (by omega), Except.map, Except.ok.injEq, ← UInt16.toNat_inj, toPort,
    Int32.ofInt_eq_ofNat, Int32.toUInt32_ofNat', UInt32.toNat_toUInt16, UInt32.toNat_ofNat']
  omega

theorem isBlank_of_isDigit {b : UInt8} (hb : isDigit b = true) : isBlank b = false := by
  rw [Bool.eq_false_iff]
  intro hblank
  simp only [isBlank, Bool.or_eq_true, decide_eq_true_eq] at hblank
  rcases hblank with ((rfl | rfl) | rfl) | rfl <;> cases hb

theorem tidy_decimal (n : ℕ) : Tidy (decimal n) :=
  tidy_of_forall (fun _ hb => isBlank_of_isDigit (isDigit_of_mem_decimal hb))

theorem tidy_decimalInt (z : ℤ) : Tidy (decimalInt z) := by
  refine tidy_of_forall (fun b hb => ?_)
  rw [decimalInt] at hb
  split at hb
  · rcases List.mem_cons.mp hb with rfl | hb
    · rfl
    · exact isBlank_of_isDigit (isDigit_of_mem_decimal hb)
  · exact isBlank_of_isDigit (isDigit_of_mem_decimal hb)

def portsText (ports : List UInt16) : Bytes :=
  List.intercalate [44] (ports.map (fun port => decimal port.toNat))

theorem portsText_cons_cons (port next : UInt16) (ports : List UInt16) :
    portsText (port :: next :: ports) =
      decimal port.toNat ++ 44 :: portsText (next :: ports) := by
  simp [portsText, List.intercalate_cons_cons]

theorem isBlank_of_mem_portsText {ports : List UInt16} {b : UInt8} (hb : b ∈ portsText ports) :
    isBlank b = false := by
  induction ports with
  | nil => cases hb
  | cons port ports ih =>
    cases ports with
    | nil => exact isBlank_of_isDigit (isDigit_of_mem_decimal (by simpa [portsText] using hb))
    | cons next ports =>
      rw [portsText_cons_cons, List.mem_append, List.mem_cons] at hb
      rcases hb with hb | rfl | hb
      · exact isBlank_of_isDigit (isDigit_of_mem_decimal hb)
      · rfl
      · exact ih hb

theorem tidy_portsText (ports : List UInt16) : Tidy (portsText ports) :=
  tidy_of_forall (fun _ hb => isBlank_of_mem_portsText hb)

theorem parsePorts_portsText (ports : List UInt16) : parsePorts (portsText ports) = .ok ports := by
  have hfields : fields 44 (portsText ports) = ports.map (fun port => decimal port.toNat) := by
    refine fields_intercalate 44 _ ?_
    intro x hx
    obtain ⟨port, _, rfl⟩ := List.mem_map.mp hx
    refine ⟨fun hmem => ?_, decimal_ne_nil _⟩
    cases isDigit_of_mem_decimal hmem
  have hloop : ∀ (rest done : List UInt16),
      (rest.map (fun port => decimal port.toNat)).foldlM (fun ports port =>
        if trimmed port = [] then .ok ports
        else do
          let v ← stoi (trimmed port)
          return ports ++ [toPort v]) done =
          (.ok (done ++ rest) : Except StoiError (List UInt16)) := by
    intro rest
    induction rest with
    | nil => simp [pure, Except.pure]
    | cons port rest ih =>
      intro done
      obtain ⟨v, hv, hport⟩ := map_eq_ok (stoi_decimal port)
      rw [List.map_cons, List.foldlM_cons, trimmed, (tidy_decimal port.toNat).ends.trim_eq,
        if_neg (decimal_ne_nil _), hv]
      simpa [bind, Except.bind, hport, pure, Except.pure] using ih (done ++ [port])
  rw [parsePorts, hfields, hloop, List.nil_append]

def assignment (key : String) (val : Bytes) : Bytes := utf8 key ++ [32, 61, 32] ++ val

def savedLines (cfg : Settings) : List Bytes :=
  [utf8 "[solakon]",
   utf8 "; IP-Adresse des Solakon ONE Wechselrichters",
   assignment "ip" cfg.host, [],
   utf8 "; Modbus TCP Port (Standard: 502)",
   assignment "modbus_port" (decimal cfg.modbusPort.toNat), [],
   utf8 "; HTTPS Port für Web-Oberfläche (Standard: 443)",
   assignment "https_port" (decimal cfg.httpsPort.toNat), [],
   utf8 "; Aktualisierungsrate in Hz (1-60)",
   assignment "refresh_hz" (decimalInt cfg.refreshHz.toInt), [],
   utf8 "; Netzwerk-Scan-Einstellungen",
   utf8 "; Subnet zum Scannen (CIDR-Notation)",
   assignment "scan_subnet" cfg.scanSubnet, [],
   utf8 "; Zu scannende Ports (kommagetrennt)",
   assignment "scan_ports" (portsText cfg.scanPorts)]

theorem utf8_append (s t : String) : utf8 (s ++ t) = utf8 s ++ utf8 t := by
  rw [utf8, String.toList_append, List.flatMap_append]
  rfl

theorem utf8_line (s : String) : utf8 (s ++ "\n") = utf8 s ++ [10] := utf8_append s "\n"

theorem utf8_key (s : String) : utf8 (s ++ " = ") = utf8 s ++ [32, 61, 32] := utf8_append s " = "

theorem settingsText_eq (cfg : Settings) :
    settingsText cfg = (savedLines cfg).flatMap (fun line => line ++ [10]) := by
  have hline1 := utf8_line "[solakon]"
  have hline2 := utf8_line "; IP-Adresse des Solakon ONE Wechselrichters"
  have hline3 := utf8_line "; Modbus TCP Port (Standard: 502)"
  have hline4 := utf8_line "; HTTPS Port für Web-Oberfläche (Standard: 443)"
  have hline5 := utf8_line "; Aktualisierungsrate in Hz (1-60)"
  have hline6 := utf8_line "; Netzwerk-Scan-Einstellungen"
  have hline7 := utf8_line "; Subnet zum Scannen (CIDR-Notation)"
  have hline8 := utf8_line "; Zu scannende Ports (kommagetrennt)"
  have hIp := utf8_key "ip"
  have hModbusPort := utf8_key "modbus_port"
  have hHttpsPort := utf8_key "https_port"
  have hRefreshHz := utf8_key "refresh_hz"
  have hScanSubnet := utf8_key "scan_subnet"
  have hScanPorts := utf8_key "scan_ports"
  have hend : utf8 "\n" = [10] := rfl
  have hblank : utf8 "\n\n" = [10, 10] := rfl
  simp only [String.reduceAppend] at *
  simp only [settingsText, settingsPieces, savedLines, assignment, portsText, *,
    List.flatten_cons, List.flatten_nil, List.flatMap_cons, List.flatMap_nil, List.append_assoc,
    List.cons_append, List.nil_append, List.append_nil]

theorem readLine_nil (st : Reader) : readLine st [] = .ok st := rfl

/-- A semicolon makes a line a comment. -/
theorem readLine_comment (s : String) (st : Reader) :
    readLine st (utf8 (";" ++ s)) = .ok st := by
  have hcons : utf8 (";" ++ s) = 59 :: utf8 s := utf8_append ";" s
  obtain ⟨rest, hrest⟩ := List.rdropWhile_prefix isBlank (59 :: utf8 s)
  have htrimmed : ∃ tail, trimmed (59 :: utf8 s) = 59 :: tail := by
    cases htail : (59 :: utf8 s).rdropWhile isBlank with
    | nil =>
      have hblank := List.rdropWhile_eq_nil_iff.mp htail 59 List.mem_cons_self
      cases hblank
    | cons b tail =>
      rw [htail, List.cons_append] at hrest
      have hb := (List.cons.inj hrest).1
      subst hb
      exact ⟨tail, htail⟩
  obtain ⟨tail, htail⟩ := htrimmed
  rw [readLine, hcons, htail, readTrimmed, if_pos (Or.inl rfl)]

theorem plainKey (key : String) (h : (utf8 key).all (fun b => !isBlank b && b != 61) = true)
    (hhead : ∃ k ∈ (utf8 key).head?, k ≠ 59 ∧ k ≠ 35 ∧ k ≠ 91) : PlainKey (utf8 key) := by
  have hbytes : ∀ b ∈ utf8 key, isBlank b = false ∧ b ≠ 61 := by
    intro b hb
    simpa using List.all_eq_true.mp h b hb
  exact ⟨trimmed_of_forall (fun b hb => (hbytes b hb).1), hhead,
    fun hmem => (hbytes 61 hmem).2 rfl⟩

theorem readLine_saved {key : String} {val : Bytes} {cfg cfg' : Settings}
    (hkey : PlainKey (utf8 key)) (hval : Tidy val) (h : assign cfg (utf8 key) val = .ok cfg') :
    readLine ⟨cfg, utf8 "solakon"⟩ (assignment key val) = .ok ⟨cfg', utf8 "solakon"⟩ := by
  rw [assignment, readLine_assignment cfg hkey hval.ends, h]
  rfl

private theorem foldlM_ok_cons {ε σ α : Type} {f : σ → α → Except ε σ} {s t : σ} {a : α}
    {l : List α} (h : f s a = .ok t) : (a :: l).foldlM f s = l.foldlM f t := by
  rw [List.foldlM_cons, h]
  rfl

theorem readSavedLines (cfg init : Settings) (hcfg : TidySettings cfg) :
    (savedLines cfg).foldlM readLine ⟨init, []⟩ =
      .ok ⟨{ cfg with configPath := init.configPath }, utf8 "solakon"⟩ := by
  have hcomment1 := readLine_comment " IP-Adresse des Solakon ONE Wechselrichters"
  have hcomment2 := readLine_comment " Modbus TCP Port (Standard: 502)"
  have hcomment3 := readLine_comment " HTTPS Port für Web-Oberfläche (Standard: 443)"
  have hcomment4 := readLine_comment " Aktualisierungsrate in Hz (1-60)"
  have hcomment5 := readLine_comment " Netzwerk-Scan-Einstellungen"
  have hcomment6 := readLine_comment " Subnet zum Scannen (CIDR-Notation)"
  have hcomment7 := readLine_comment " Zu scannende Ports (kommagetrennt)"
  simp only [String.reduceAppend] at *
  have hsection : ∀ cfg, readLine ⟨cfg, []⟩ (utf8 "[solakon]") = .ok ⟨cfg, utf8 "solakon"⟩ :=
    fun _ => rfl
  obtain ⟨modbus, hmodbus, hmodbusPort⟩ := map_eq_ok (stoi_decimal cfg.modbusPort)
  obtain ⟨https, hhttps, hhttpsPort⟩ := map_eq_ok (stoi_decimal cfg.httpsPort)
  have hrefresh := stoi_decimalInt cfg.refreshHz
  have hports := parsePorts_portsText cfg.scanPorts
  rw [savedLines, foldlM_ok_cons (hsection _), foldlM_ok_cons (hcomment1 _),
    foldlM_ok_cons (readLine_saved (plainKey "ip" rfl ⟨_, rfl, by decide⟩) hcfg.host rfl),
    foldlM_ok_cons (readLine_nil _), foldlM_ok_cons (hcomment2 _),
    foldlM_ok_cons (readLine_saved (plainKey "modbus_port" rfl ⟨_, rfl, by decide⟩)
      (tidy_decimal _) (congrArg (Except.map _) hmodbus)),
    foldlM_ok_cons (readLine_nil _), foldlM_ok_cons (hcomment3 _),
    foldlM_ok_cons (readLine_saved (plainKey "https_port" rfl ⟨_, rfl, by decide⟩)
      (tidy_decimal _) (congrArg (Except.map _) hhttps)),
    foldlM_ok_cons (readLine_nil _), foldlM_ok_cons (hcomment4 _),
    foldlM_ok_cons (readLine_saved (plainKey "refresh_hz" rfl ⟨_, rfl, by decide⟩)
      (tidy_decimalInt _) (congrArg (Except.map _) hrefresh)),
    foldlM_ok_cons (readLine_nil _), foldlM_ok_cons (hcomment5 _), foldlM_ok_cons (hcomment6 _),
    foldlM_ok_cons (readLine_saved (plainKey "scan_subnet" rfl ⟨_, rfl, by decide⟩)
      hcfg.scanSubnet rfl),
    foldlM_ok_cons (readLine_nil _), foldlM_ok_cons (hcomment7 _),
    foldlM_ok_cons (readLine_saved (plainKey "scan_ports" rfl ⟨_, rfl, by decide⟩)
      (tidy_portsText _) (congrArg (Except.map _) hports)), List.foldlM_nil]
  rw [← hmodbusPort, ← hhttpsPort]
  rfl

theorem oneLine_assignment {key : String} {val : Bytes} (hkey : 10 ∉ utf8 key) (hval : Tidy val) :
    10 ∉ assignment key val := by
  have hsign : (10 : UInt8) ∉ ([32, 61, 32] : Bytes) := by decide
  simp only [assignment, List.mem_append, not_or]
  exact ⟨⟨hkey, hsign⟩, hval.oneLine⟩

theorem oneLine_savedLines (cfg : Settings) (hcfg : TidySettings cfg) :
    ∀ line ∈ savedLines cfg, 10 ∉ line := by
  have hip := oneLine_assignment (show 10 ∉ utf8 "ip" by decide) hcfg.host
  have hmodbus := oneLine_assignment (show 10 ∉ utf8 "modbus_port" by decide)
    (tidy_decimal cfg.modbusPort.toNat)
  have hhttps := oneLine_assignment (show 10 ∉ utf8 "https_port" by decide)
    (tidy_decimal cfg.httpsPort.toNat)
  have hrefresh := oneLine_assignment (show 10 ∉ utf8 "refresh_hz" by decide)
    (tidy_decimalInt cfg.refreshHz.toInt)
  have hsubnet := oneLine_assignment (show 10 ∉ utf8 "scan_subnet" by decide) hcfg.scanSubnet
  have hports := oneLine_assignment (show 10 ∉ utf8 "scan_ports" by decide)
    (tidy_portsText cfg.scanPorts)
  simp only [savedLines, List.forall_mem_cons]
  exact ⟨by decide, by decide, hip, by decide, by decide, hmodbus, by decide, by decide, hhttps,
    by decide, by decide, hrefresh, by decide, by decide, by decide, hsubnet, by decide, by decide,
    hports, by simp⟩

/-- The disk takes that many more bytes. -/
def Takes (fs : FileSystem) (n : ℕ) : Prop := ∀ room ∈ fs.room, n ≤ room

theorem makeParent_room (fs : FileSystem) (path : Bytes) :
    (fs.makeParent path).room = fs.room := by
  unfold FileSystem.makeParent
  split
  · rfl
  · unfold FileSystem.mkdir
    split <;> rfl

theorem openTruncated_some {fs fs' : FileSystem} {path : Bytes}
    (h : fs.openTruncated path = some fs') :
    cString path ≠ [] ∧ fs'.files (cString path) = some [] ∧
      fs'.permitted (cString path) = true ∧ fs'.room = fs.room := by
  unfold FileSystem.openTruncated at h
  split at h
  · cases h
  · rename_i hopen
    simp only [Bool.or_eq_true, not_or, Bool.not_eq_true', Bool.not_eq_false,
      decide_eq_true_eq] at hopen
    rw [← Option.some.inj h]
    exact ⟨hopen.1.1.1, Function.update_self _ _ _, hopen.1.2, rfl⟩

theorem write_file {fs : FileSystem} {path text : Bytes}
    (hempty : fs.files (cString path) = some []) (hroom : Takes fs text.length) :
    (fs.write path text).files (cString path) = some text := by
  have htaken : fs.taken text = text := by
    cases hn : fs.room with
    | none => simp only [FileSystem.taken, hn]
    | some n =>
      simp only [FileSystem.taken, hn]
      exact List.take_of_length_le (hroom n hn)
  simp only [FileSystem.write, Function.update_self, hempty, Option.map_some, List.nil_append,
    htaken]

/-- A successful save on a disk with room leaves the whole text in the file. -/
theorem save_file {fs : FileSystem} {cfg : Settings}
    (hroom : Takes fs (settingsText cfg).length) (hsave : (save fs cfg).1 = true) :
    cString cfg.configPath ≠ [] ∧
      (save fs cfg).2.files (cString cfg.configPath) = some (settingsText cfg) ∧
      (save fs cfg).2.permitted (cString cfg.configPath) = true := by
  unfold save at hsave ⊢
  by_cases hpath : cfg.configPath = []
  · rw [if_pos hpath] at hsave
    cases hsave
  · rw [if_neg hpath] at hsave ⊢
    cases hopen : (fs.makeParent cfg.configPath).openTruncated cfg.configPath with
    | none =>
      rw [hopen] at hsave
      cases hsave
    | some opened =>
      obtain ⟨hname, hempty, hpermitted, hopenRoom⟩ := openTruncated_some hopen
      have hfits : Takes opened (settingsText cfg).length := by
        rw [Takes, hopenRoom, makeParent_room]
        exact hroom
      exact ⟨hname, write_file hempty hfits, hpermitted⟩

theorem load_save {fs : FileSystem} {cfg : Settings} (hcfg : TidySettings cfg)
    (hroom : Takes fs (settingsText cfg).length) (hsave : (save fs cfg).1 = true) :
    load (save fs cfg).2 cfg.configPath = .ok cfg := by
  obtain ⟨hname, hfile, hpermitted⟩ := save_file hroom hsave
  have hpath : cfg.configPath ≠ [] := by
    intro hnil
    exact hname (by rw [hnil]; rfl)
  have hloadPath : loadPath (save fs cfg).2 cfg.configPath = cfg.configPath := if_pos hpath
  have hread : (save fs cfg).2.readFile cfg.configPath = some (settingsText cfg) := by
    rw [FileSystem.readFile, if_pos hpermitted, hfile]
  have hexists : (save fs cfg).2.pathExists cfg.configPath = true := by
    rw [FileSystem.pathExists, hfile, decide_eq_true hname]
    rfl
  have hfields : fields 10 (settingsText cfg) = savedLines cfg := by
    rw [settingsText_eq, fields_flatMap 10 _ (oneLine_savedLines cfg hcfg)]
  have hlines := readSavedLines cfg { configPath := cfg.configPath } hcfg
  unfold load
  simp only [hloadPath, hexists, hread, hfields, hlines, Bool.not_true, Bool.false_eq_true,
    if_false]
  rfl

/-- What is loaded is tidy; a tidy configuration saved to a file on a disk that takes the whole text
is loaded back unchanged; so saving a loaded configuration and loading it again changes nothing. On
a full disk a save says that it has succeeded, too. -/
theorem config_roundTrip :
    (∀ (fs : FileSystem) (path : Bytes) (cfg : Settings), load fs path = .ok cfg →
      TidySettings cfg) ∧
    (∀ (fs : FileSystem) (cfg : Settings), TidySettings cfg →
      Takes fs (settingsText cfg).length → (save fs cfg).1 = true →
      load (save fs cfg).2 cfg.configPath = .ok cfg) ∧
    (∀ (fs fs' : FileSystem) (path : Bytes) (cfg : Settings), load fs path = .ok cfg →
      Takes fs' (settingsText cfg).length → (save fs' cfg).1 = true →
      load (save fs' cfg).2 cfg.configPath = .ok cfg) :=
  ⟨fun _ _ _ hload => load_tidy hload,
    fun _ _ hcfg hroom hsave => load_save hcfg hroom hsave,
    fun _ _ _ _ hload hroom hsave => load_save (load_tidy hload) hroom hsave⟩

/-- An empty current directory, and a host text full of the reader's own signs. -/
def emptyDisk : FileSystem where
  files := fun _ => none
  dirs := fun _ => false
  permitted := fun _ => true
  room := some 4096
  home := none

def signsSettings : Settings :=
  { host := utf8 "[a]=;b#", refreshHz := -7, scanPorts := [], configPath := utf8 "solakon.conf" }

theorem config_roundTrip_signs :
    load (save emptyDisk signsSettings).2 (utf8 "solakon.conf") = .ok signsSettings :=
  config_roundTrip.2.1 emptyDisk signsSettings
    ⟨tidy_of_all rfl, tidy_of_all rfl⟩
    (fun _ hroom => by cases hroom; decide +kernel) (by decide +kernel)

end SolakonMonitor.ConfigRoundTrip
