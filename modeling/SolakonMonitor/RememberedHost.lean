import SolakonMonitor.ConfigMeaning
import SolakonMonitor.SavingFailures
import SolakonMonitor.SettingPrecedence

/-!
An address typed at the prompt, and the run after it.
The address is saved as it was typed and loaded without the blanks around it. It is saved in
the default file, so a run that names another file does not find it there, and gives up.
-/
namespace SolakonMonitor.RememberedHost

open BigEndian DecimalText TextLines ConfigLoader ConfigRoundTrip ConfigMeaning MainProgram
open SavingFailures SettingPrecedence

/-- Once trimmed, an assignment line is the key, the equals sign and a text that trims as the
value does. -/
theorem trimmed_line {key : Bytes} (hkey : PlainKey key) (val : Bytes) :
    ∃ rest, trimmed (key ++ [32, 61, 32] ++ val) = key ++ [32, 61] ++ rest ∧
      trimmed rest = trimmed val := by
  have hne : key ≠ [] := by
    obtain ⟨k, rest, rfl, _⟩ := hkey.exists_cons
    exact List.cons_ne_nil k rest
  obtain ⟨x, z, hval, hx, hz⟩ := exists_trim isBlank val
  have hinner : Trimmed isBlank (trim isBlank val) := trimmed_trim isBlank val
  have hx' : ∀ b ∈ 32 :: x, isBlank b = true := List.forall_mem_cons.mpr ⟨rfl, hx⟩
  rw [show trimmed val = trim isBlank val from rfl]
  generalize trim isBlank val = text at hval hinner ⊢
  subst hval
  by_cases hnil : text = []
  · subst hnil
    have hends : Trimmed isBlank (key ++ [32] ++ [61]) :=
      hkey.ends.between (tidy_of_all rfl).ends hne (List.cons_ne_nil 61 [])
    have hblank : ∀ b ∈ 32 :: x ++ z, isBlank b = true := by
      intro b hb
      rcases List.mem_append.mp hb with hb | hb
      · exact hx' b hb
      · exact hz b hb
    have htrim := hends.trim_append [] (32 :: x ++ z) (by simp) hblank
    refine ⟨[], ?_, rfl⟩
    rw [trimmed]
    simpa using htrim
  · have hends : Trimmed isBlank (key ++ ([32, 61, 32] ++ x) ++ text) :=
      hkey.ends.between hinner hne hnil
    refine ⟨32 :: x ++ text, ?_, ?_⟩
    · have htrim := hends.trim_append [] z (by simp) hz
      rw [trimmed]
      simpa using htrim
    · have htrim := hinner.trim_append (32 :: x) [] hx' (by simp)
      rw [List.append_nil] at htrim
      exact htrim

theorem classify_assignment {key : Bytes} (hkey : PlainKey key) (val : Bytes) :
    classify (key ++ [32, 61, 32] ++ val) = .entry (key, trimmed val) := by
  obtain ⟨rest, hline, hrest⟩ := trimmed_line hkey val
  have hfind := hkey.findIdx rest
  have hkeyText : trimmed ((key ++ [32, 61] ++ rest).take (key.length + 1)) = key := by
    have hsplit : key ++ [32, 61] ++ rest = key ++ [32] ++ 61 :: rest := by simp
    rw [hsplit, List.take_left' (by simp), trimmed]
    simpa using hkey.ends.trim_append [] [32] (by simp) (List.forall_mem_singleton.mpr rfl)
  have hvalText : trimmed ((key ++ [32, 61] ++ rest).drop (key.length + 1 + 1)) = trimmed val := by
    rw [List.drop_left' (by simp), hrest]
  obtain ⟨k, keyRest, hcons, hcomment, hhash, hheader⟩ := hkey.exists_cons
  have hfirst : key ++ [32, 61] ++ rest = k :: (keyRest ++ [32, 61] ++ rest) := by
    rw [hcons]
    rfl
  rw [classify, hline]
  rw [hfirst] at hfind hkeyText hvalText ⊢
  rw [classifyTrimmed, if_neg (by tauto), if_neg (by tauto), hfind]
  simp only [hkeyText, hvalText]

/-- The reader does not see blanks around a value. -/
theorem readLine_trimmed (st : Reader) {key : Bytes} (hkey : PlainKey key) (val : Bytes) :
    readLine st (key ++ [32, 61, 32] ++ val) =
      readLine st (key ++ [32, 61, 32] ++ trimmed val) := by
  have hagain : trimmed (trimmed val) = trimmed val := (trimmed_trim isBlank val).trim_eq
  rw [readLine_eq, readLine_eq, classify_assignment hkey, classify_assignment hkey, hagain]

def remembered (s : Settings) : Settings := { s with host := trimmed s.host }

theorem tidy_remembered {s : Settings} (hline : 10 ∉ s.host) (hsubnet : Tidy s.scanSubnet) :
    TidySettings (remembered s) :=
  ⟨tidy_trimmed hline, hsubnet⟩

theorem fields_settingsText {s : Settings} (hline : 10 ∉ s.host) (hsubnet : Tidy s.scanSubnet) :
    fields 10 (settingsText s) = savedLines s := by
  have hone : ∀ line ∈ savedLines s, 10 ∉ line := by
    intro line hmem
    have hreplaced : savedLines s = (savedLines (remembered s)).set 2 (assignment "ip" s.host) :=
      rfl
    rw [hreplaced] at hmem
    rcases List.mem_or_eq_of_mem_set hmem with hmem | rfl
    · exact oneLine_savedLines _ (tidy_remembered hline hsubnet) line hmem
    · have hkey : (10 : UInt8) ∉ utf8 "ip" ++ [32, 61, 32] := by decide
      exact List.not_mem_append hkey hline
  rw [settingsText_eq, fields_flatMap 10 _ hone]

/-- What was saved is loaded without the blanks around the host. -/
theorem load_typed {fs : FileSystem} {s : Settings} (hline : 10 ∉ s.host)
    (hsubnet : Tidy s.scanSubnet) (hroom : Takes fs (settingsText s).length)
    (hsave : (save fs s).1 = true) : load (save fs s).2 s.configPath = .ok (remembered s) := by
  obtain ⟨hname, hfile, hpermitted⟩ := save_file hroom hsave
  have hpath : s.configPath ≠ [] := by
    intro hnil
    exact hname (by rw [hnil]; rfl)
  have hloadPath : loadPath (save fs s).2 s.configPath = s.configPath := if_pos hpath
  have hread : (save fs s).2.readFile s.configPath = some (settingsText s) := by
    rw [FileSystem.readFile, if_pos hpermitted, hfile]
  have hexists : (save fs s).2.pathExists s.configPath = true := by
    rw [FileSystem.pathExists, hfile, decide_eq_true hname]
    rfl
  have hhost : ∀ st, readLine st (assignment "ip" s.host) =
      readLine st (assignment "ip" (remembered s).host) := fun st =>
    readLine_trimmed st (plainKey "ip" rfl ⟨_, rfl, by decide⟩) s.host
  have hlines := readSavedLines (remembered s) { configPath := s.configPath }
    (tidy_remembered hline hsubnet)
  have hsame : (savedLines s).foldlM readLine ⟨{ configPath := s.configPath }, []⟩ =
      (savedLines (remembered s)).foldlM readLine ⟨{ configPath := s.configPath }, []⟩ := by
    simp only [savedLines, List.foldlM_cons, hhost]
    rfl
  unfold load
  simp only [hloadPath, hexists, hread, fields_settingsText hline hsubnet, hsame, hlines,
    Bool.not_true, Bool.false_eq_true, if_false]
  rfl

theorem promptIp_oneLine (input : Bytes) : 10 ∉ promptIp input := by
  rw [promptIp, fgets]
  by_cases hempty : input = []
  · rw [if_pos hempty]
    exact List.not_mem_nil
  · rw [if_neg hempty]
    have hline : 10 ∉ input.takeWhile (fun b => b ≠ 10) := by
      intro hmem
      simpa using List.mem_takeWhile_imp hmem
    generalize input.takeWhile (fun b => b ≠ 10) = line at hline ⊢
    -- what is read is the beginning of the line and its end
    have hbegins : cString ((if line.length < input.length then line ++ [10] else line).take
        (64 - 1)) <+: line ++ [10] := by
      refine (List.takeWhile_prefix _).trans ((List.take_prefix _ _).trans ?_)
      split
      · exact List.prefix_refl _
      · exact List.prefix_append _ _
    dsimp only
    generalize cString _ = text at hbegins ⊢
    rcases List.prefix_concat_iff.mp hbegins with rfl | hinside
    · rw [List.getLast?_concat, if_pos rfl, List.dropLast_concat]
      exact hline
    · have hnone : 10 ∉ text := fun hmem => hline (hinside.subset hmem)
      split
      · exact fun hmem => hnone ((List.dropLast_prefix text).subset hmem)
      · exact hnone

/-- Neither help nor a scan: the settings are loaded, and the user is asked where no host is
given. -/
theorem main_monitor (scan : Scan) (fs : FileSystem) (stdin : Bytes) {args : List Bytes}
    (hhelp : (parseArgs {} args).help = false) (hscan : (parseArgs {} args).scan = false)
    {file : Settings} (hload : load fs (parseArgs {} args).configPath = .ok file) :
    main scan fs stdin args =
      if (overrides (parseArgs {} args) file).host = [] then
        (promptPath fs stdin (parseArgs {} args) (overrides (parseArgs {} args) file)).map some
      else .ok (some (.connect (parseArgs {} args) (overrides (parseArgs {} args) file), fs)) := by
  unfold main
  dsimp only
  rw [hhelp, hscan, hload]
  rfl

theorem main_connects {scan : Scan} {fs fs' : FileSystem} {stdin : Bytes} {args : List Bytes}
    {cfg : Config} {s : Settings}
    (hmain : main scan fs stdin args = .ok (some (.connect cfg s, fs'))) :
    (parseArgs {} args).help = false ∧ (parseArgs {} args).scan = false := by
  unfold main at hmain
  dsimp only at hmain
  generalize parseArgs {} args = parsed at hmain ⊢
  split at hmain
  · cases hmain
  · split at hmain
    · obtain ⟨result, _, heq⟩ := map_eq_ok hmain
      cases result <;> cases heq
    · rename_i hhelp hscan
      exact ⟨eq_false_of_ne_true hhelp, eq_false_of_ne_true hscan⟩

/-- A run that asks connects to what was typed, and has tried to save it. -/
theorem main_prompted {scan : Scan} {fs fs' : FileSystem} {stdin : Bytes} {args : List Bytes}
    {file s : Settings} {cfg : Config} (hload : load fs (parseArgs {} args).configPath = .ok file)
    (hask : (overrides (parseArgs {} args) file).host = [])
    (hmain : main scan fs stdin args = .ok (some (.connect cfg s, fs'))) :
    cfg = parseArgs {} args ∧ fs' = (save fs s).2 ∧
      s = promptedSettings fs cfg (overrides cfg file) (promptIp (stdin.drop 1)) := by
  obtain ⟨hhelp, hscan⟩ := main_connects hmain
  rw [main_monitor scan fs stdin hhelp hscan hload, if_pos hask] at hmain
  obtain ⟨result, hprompt, heq⟩ := map_eq_ok hmain
  cases heq
  obtain ⟨check, _, heq⟩ := map_eq_ok hprompt
  split at heq
  · cases heq
  · split at heq
    · dsimp only at heq
      split at heq
      · cases heq
      · cases heq
        exact ⟨rfl, rfl, rfl⟩
    · cases heq

/-- The names of files, and the rest of the disk but for the directories, are as before. -/
theorem save_keeps (fs : FileSystem) (s : Settings) :
    (save fs s).2.home = fs.home ∧ (save fs s).2.permitted = fs.permitted ∧
      ∀ path, path ≠ cString s.configPath → (save fs s).2.files path = fs.files path := by
  have hparent : (fs.makeParent s.configPath).home = fs.home ∧
      (fs.makeParent s.configPath).permitted = fs.permitted := by
    unfold FileSystem.makeParent
    split
    · exact ⟨rfl, rfl⟩
    · unfold FileSystem.mkdir
      split <;> exact ⟨rfl, rfl⟩
  unfold save
  split
  · exact ⟨rfl, rfl, fun _ _ => rfl⟩
  · cases hopen : (fs.makeParent s.configPath).openTruncated s.configPath with
    | none =>
      refine ⟨hparent.1, hparent.2, fun path _ => ?_⟩
      rw [makeParent_files]
    | some opened =>
      unfold FileSystem.openTruncated at hopen
      split at hopen
      · cases hopen
      · cases hopen
        refine ⟨hparent.1, hparent.2, fun path hne => ?_⟩
        simp only [FileSystem.write, Function.update_of_ne hne, makeParent_files]

/-- Another file that is named is loaded as before. -/
theorem load_other (fs : FileSystem) (s : Settings) {path : Bytes} (hne : path ≠ [])
    (hother : cString path ≠ cString s.configPath) : load (save fs s).2 path = load fs path := by
  obtain ⟨_, hpermitted, hfiles⟩ := save_keeps fs s
  have hread : (save fs s).2.readFile path = fs.readFile path := by
    rw [FileSystem.readFile, FileSystem.readFile, hpermitted, hfiles _ hother]
  -- a file that is not found has no lines, like one that cannot be read
  have hlines : ∀ fs : FileSystem, fileLines fs path =
      if cString path = [] then [] else ((fs.readFile path).map (fields 10)).getD [] := by
    intro fs
    have hpath : loadPath fs path = path := if_pos hne
    rw [fileLines, hpath, FileSystem.pathExists, FileSystem.readFile]
    by_cases hname : cString path = []
    · simp [hname]
    · cases hfile : fs.files (cString path) with
      | none => cases fs.dirs (cString path) <;> cases fs.permitted (cString path) <;> simp [hname]
      | some content => cases fs.permitted (cString path) <;> simp [hname]
  rw [load_eq, load_eq, written, written, hlines, hlines, hread, loadPath, loadPath, if_pos hne,
    if_pos hne]

theorem loadPath_saved {fs : FileSystem} {s : Settings} (hpath : s.configPath = defaultPath fs)
    (hroom : Takes fs (settingsText s).length) (hsave : (save fs s).1 = true) :
    loadPath (save fs s).2 [] = s.configPath := by
  obtain ⟨hname, hfile, _⟩ := save_file hroom hsave
  have hhome : homePath (save fs s).2 = homePath fs := by
    rw [homePath, homePath, (save_keeps fs s).1]
  rw [loadPath, if_neg (not_not.mpr rfl), hhome]
  cases hfs : fs.home with
  | none =>
    have hnone : homePath fs = [] := by rw [homePath, hfs]
    rw [hnone, hpath, defaultPath, hfs]
    rfl
  | some home =>
    have hsome : homePath fs = s.configPath := by rw [homePath, hpath, defaultPath, hfs]
    have hexists : (save fs s).2.pathExists s.configPath = true := by
      rw [FileSystem.pathExists, hfile, decide_eq_true hname]
      rfl
    rw [hsome, if_pos hexists]

/-- What was typed is in the settings that the next run has from the file and the options. -/
theorem overrides_remembered {cfg : Config} {file : Settings} {fs : FileSystem} {ip : Bytes}
    (hhost : cfg.host = []) :
    overrides cfg (remembered (promptedSettings fs cfg (overrides cfg file) ip)) =
      remembered (promptedSettings fs cfg (overrides cfg file) ip) := by
  simp only [overrides, remembered, promptedSettings, hhost, ne_eq, not_true_eq_false, if_false,
    ite_self, Settings.mk.injEq, true_and, and_true]
  split <;> rfl

/-- After a run that asked for the address and saved it, the next run with the same arguments
connects to it without asking, and touches no file; where the arguments name another file, it
gives up. -/
theorem next_run {scan : Scan} {fs fs' : FileSystem} {stdin : Bytes} {args : List Bytes}
    {file s : Settings} {cfg : Config} (hload : load fs (parseArgs {} args).configPath = .ok file)
    (hprompted : Prompted (given {} args) file)
    (hmain : main scan fs stdin args = .ok (some (.connect cfg s, fs')))
    (hsave : (save fs s).1 = true) (hroom : Takes fs (settingsText s).length)
    (htyped : trimmed s.host ≠ []) (scan' : Scan) (stdin' : Bytes) :
    (cfg.configPath = [] ∨ cfg.configPath = defaultPath fs →
      main scan' fs' stdin' args =
        .ok (some (.connect cfg { s with host := trimmed s.host }, fs'))) ∧
    (cfg.configPath ≠ [] → cString cfg.configPath ≠ cString (defaultPath fs) →
      main scan' fs' stdin' args = .ok (some (.exit 1, fs'))) := by
  have hmatches : Matches (given {} args) (parseArgs {} args) := parseArgs_matches args ⟨rfl, rfl⟩
  have hask := (overrides_host_eq_nil_iff file hmatches).mpr hprompted
  obtain ⟨hhelp, hscan⟩ := main_connects hmain
  obtain ⟨rfl, rfl, hs⟩ := main_prompted hload hask hmain
  have hhost : (parseArgs {} args).host = [] := hmatches.host.trans hprompted.1
  have hpath : s.configPath = defaultPath fs := by rw [hs]; rfl
  have hline : 10 ∉ s.host := by
    rw [hs]
    exact promptIp_oneLine _
  have hsubnet : Tidy s.scanSubnet := by
    rw [hs]
    exact (load_tidy hload).scanSubnet
  have hsaved := load_typed hline hsubnet hroom hsave
  have hconfigured : s.configPath ≠ [] := by
    intro hnil
    exact (save_file hroom hsave).1 (by rw [hnil]; rfl)
  have hfound : load (save fs s).2 [] = .ok (remembered s) := by
    have hsamePath : loadPath (save fs s).2 [] = loadPath (save fs s).2 s.configPath :=
      (loadPath_saved hpath hroom hsave).trans (if_pos hconfigured).symm
    rw [← hsaved]
    unfold load
    rw [hsamePath]
  have hsame : overrides (parseArgs {} args) (remembered s) = remembered s := by
    rw [hs]
    exact overrides_remembered hhost
  constructor
  · intro hdefault
    have hagain : load (save fs s).2 (parseArgs {} args).configPath = .ok (remembered s) := by
      rcases hdefault with hnil | hdefault
      · rw [hnil, hfound]
      · rw [hdefault, ← hpath, hsaved]
    rw [main_monitor scan' (save fs s).2 stdin' hhelp hscan hagain, hsame]
    exact if_neg htyped
  · intro hne hother
    rw [← hpath] at hother
    have hagain := (load_other fs s hne hother).trans hload
    rw [main_monitor scan' (save fs s).2 stdin' hhelp hscan hagain, if_pos hask, promptPath, hfound]
    have hfile : (remembered s).configPath ≠ [] := hconfigured
    have hhost : (remembered s).host ≠ [] := htyped
    simp only [Except.map, if_neg hfile, if_neg hhost]

def homeDisk : FileSystem :=
  { emptyDisk with
    dirs := fun path => path = utf8 "/home/solakon/.config"
    room := none
    home := some (utf8 "/home/solakon") }

/-- What is typed has a blank before it and a tab behind it. -/
def typedAddress : Bytes := utf8 "\n 192.168.178.121\t\n"

def jsonArguments : List Bytes := [utf8 "--json"]

def typedSettings : Settings :=
  { host := utf8 " 192.168.178.121\t",
    configPath := utf8 "/home/solakon/.config/solakon-monitor/solakon.conf" }

theorem main_typedAddress :
    main (fun _ _ _ => []) homeDisk typedAddress jsonArguments =
      .ok (some (.connect (parseArgs {} jsonArguments) typedSettings,
        (save homeDisk typedSettings).2)) := rfl

theorem next_run_typedAddress :
    ((parseArgs {} jsonArguments).configPath = [] ∨
        (parseArgs {} jsonArguments).configPath = defaultPath homeDisk →
      main (fun _ _ _ => []) (save homeDisk typedSettings).2 [] jsonArguments =
        .ok (some (.connect (parseArgs {} jsonArguments)
          { typedSettings with host := trimmed typedSettings.host },
          (save homeDisk typedSettings).2))) ∧
    ((parseArgs {} jsonArguments).configPath ≠ [] →
      cString (parseArgs {} jsonArguments).configPath ≠ cString (defaultPath homeDisk) →
      main (fun _ _ _ => []) (save homeDisk typedSettings).2 [] jsonArguments =
        .ok (some (.exit 1, (save homeDisk typedSettings).2))) := by
  have hload : load homeDisk (parseArgs {} jsonArguments).configPath =
      .ok { configPath := utf8 "solakon.conf" } := rfl
  have hsave : (save homeDisk typedSettings).1 = true := by decide +kernel
  have hroom : Takes homeDisk (settingsText typedSettings).length := fun _ h => by cases h
  have htyped : trimmed typedSettings.host ≠ [] := by decide +kernel
  exact next_run hload ⟨rfl, rfl⟩ main_typedAddress hsave hroom htyped (fun _ _ _ => []) []

/-- Help, a scan and a run that knows its host leave everything as it is; otherwise only the
default file has changed, and only in a run that asked for the address and connects to what was
typed. -/
structure WritesAnswer (fs fs' : FileSystem) (stdin : Bytes) (args : List Bytes)
    (outcome : Outcome) : Prop where
  helps : (parseArgs {} args).help = true → fs' = fs
  scans : (parseArgs {} args).scan = true → fs' = fs
  knows : ∀ file, load fs (parseArgs {} args).configPath = .ok file →
    ¬ Prompted (given {} args) file → fs' = fs
  others : ∀ path, path ≠ cString (defaultPath fs) → fs'.files path = fs.files path
  settled : fs'.home = fs.home ∧ fs'.permitted = fs.permitted
  asked : fs' = fs ∨ promptIp (stdin.drop 1) ≠ [] ∧
    ∃ cfg s, outcome = .connect cfg s ∧ s.host = promptIp (stdin.drop 1)

theorem writesAnswer_refl (fs : FileSystem) (stdin : Bytes) (args : List Bytes)
    (outcome : Outcome) : WritesAnswer fs fs stdin args outcome :=
  ⟨fun _ => rfl, fun _ => rfl, fun _ _ _ => rfl, fun _ _ => rfl, ⟨rfl, rfl⟩, Or.inl rfl⟩

theorem scanMode_unchanged {scan : Scan} {fs fs' : FileSystem} {cfg : Config} {code : ℕ}
    (h : scanMode scan fs cfg = .ok (some (code, fs'))) : fs' = fs := by
  obtain ⟨settings, _, heq⟩ := map_eq_ok h
  split at heq
  · cases heq
    rfl
  · obtain ⟨offer, _, heq⟩ := Option.map_eq_some_iff.mp heq
    cases offer <;> cases heq <;> rfl

theorem promptPath_writes {fs fs' : FileSystem} {stdin : Bytes} {args : List Bytes}
    {file settings : Settings} {outcome : Outcome} (hhelp : (parseArgs {} args).help ≠ true)
    (hscan : (parseArgs {} args).scan ≠ true)
    (hload : load fs (parseArgs {} args).configPath = .ok file)
    (hprompted : Prompted (given {} args) file)
    (h : promptPath fs stdin (parseArgs {} args) settings = .ok (outcome, fs')) :
    WritesAnswer fs fs' stdin args outcome := by
  obtain ⟨check, _, heq⟩ := map_eq_ok h
  split at heq
  · cases heq
    exact writesAnswer_refl fs stdin args _
  · split at heq
    · dsimp only at heq
      split at heq
      · cases heq
        exact writesAnswer_refl fs stdin args _
      · rename_i htyped
        cases heq
        obtain ⟨hhome, hpermitted, hfiles⟩ := save_keeps fs
          (promptedSettings fs (parseArgs {} args) settings (promptIp (stdin.drop 1)))
        refine ⟨fun hhelps => absurd hhelps hhelp, fun hscans => absurd hscans hscan, ?_, hfiles,
          ⟨hhome, hpermitted⟩, Or.inr ⟨htyped, _, _, rfl, rfl⟩⟩
        intro file' hload' hknows
        rw [hload] at hload'
        cases hload'
        exact absurd hprompted hknows
    · cases heq
      exact writesAnswer_refl fs stdin args _

/-- On every command line: help, a scan and a run that knows its host write nothing, and a run
that asks writes the default file and no other. -/
theorem main_writes (scan : Scan) (fs fs' : FileSystem) (stdin : Bytes) (args : List Bytes)
    (outcome : Outcome) (hmain : main scan fs stdin args = .ok (some (outcome, fs'))) :
    WritesAnswer fs fs' stdin args outcome := by
  have hmatches : Matches (given {} args) (parseArgs {} args) := parseArgs_matches args ⟨rfl, rfl⟩
  unfold main at hmain
  dsimp only at hmain
  split at hmain
  · cases hmain
    exact writesAnswer_refl fs stdin args _
  · rename_i hhelp
    split at hmain
    · obtain ⟨result, hscan, heq⟩ := map_eq_ok hmain
      obtain ⟨⟨code, fs₁⟩, rfl, heq⟩ := Option.map_eq_some_iff.mp heq
      cases heq
      rw [scanMode_unchanged hscan]
      exact writesAnswer_refl fs stdin args _
    · rename_i hscan
      cases hload : load fs (parseArgs {} args).configPath with
      | error err =>
        rw [hload] at hmain
        cases hmain
      | ok file =>
        simp only [hload, bind, Except.bind] at hmain
        split at hmain
        · rename_i hask
          obtain ⟨result, hprompt, heq⟩ := map_eq_ok hmain
          cases heq
          exact promptPath_writes hhelp hscan hload
            ((overrides_host_eq_nil_iff file hmatches).mp hask) hprompt
        · cases hmain
          exact writesAnswer_refl fs stdin args _

theorem main_writes_typedAddress :
    WritesAnswer homeDisk (save homeDisk typedSettings).2 typedAddress jsonArguments
      (.connect (parseArgs {} jsonArguments) typedSettings) :=
  main_writes (fun _ _ _ => []) homeDisk (save homeDisk typedSettings).2 typedAddress
    jsonArguments (.connect (parseArgs {} jsonArguments) typedSettings) main_typedAddress

end SolakonMonitor.RememberedHost
