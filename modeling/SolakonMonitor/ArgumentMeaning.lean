import SolakonMonitor.ConfigMeaning
import SolakonMonitor.MainProgram

/-!
What a command line says: the options the parser recognises, in order, each with the
argument it consumed. Parsing is applying them one by one, so every setting is what
the last option that touches it leaves. The numbers given are the settings taken,
cut to their ranges, except for the Modbus port, which is narrowed to sixteen bits
before it is checked.
-/
namespace SolakonMonitor.ArgumentMeaning

open BigEndian DecimalText ConfigLoader ConfigMeaning MainProgram

/-- A recognised argument and the one after it, where that was consumed. -/
structure GivenOption where
  kind : ArgKind
  text : Bytes
  value : Option Bytes
  deriving DecidableEq

/-- Whether an option of this kind consumes the next argument. -/
def consumes (kind : ArgKind) (next : Bytes) : Bool :=
  match kind with
  | .config | .port | .interval => true
  | .server => next.head? ≠ some 45
  | _ => false

def options : List Bytes → List GivenOption
  | [] => []
  | [arg] => [⟨argKind arg, arg, none⟩]
  | arg :: next :: rest =>
    if consumes (argKind arg) next then ⟨argKind arg, arg, some next⟩ :: options rest
    else ⟨argKind arg, arg, none⟩ :: options (next :: rest)

def applyOption (cfg : Config) (o : GivenOption) : Config :=
  match o.kind, o.value with
  | .help, _ => { cfg with help := true }
  | .config, some value => { cfg with configPath := value }
  | .scan, _ => { cfg with scan := true }
  | .port, some value => { cfg with modbusPort := portArgument value }
  | .once, _ => { cfg with once := true }
  | .json, _ => { cfg with json := true }
  | .server, some value =>
    { cfg with server := true, serverPort := serverPortArgument value }
  | .server, none => { cfg with server := true }
  | .interval, some value => { cfg with refreshHz := intervalArgument value }
  | .art, _ => { cfg with art := true }
  | .host, _ => { cfg with host := o.text }
  | _, _ => cfg

theorem parseArg_none (cfg : Config) (arg : Bytes) :
    parseArg cfg arg none = (applyOption cfg ⟨argKind arg, arg, none⟩, false) := by
  unfold parseArg
  generalize argKind arg = kind
  cases kind <;> rfl

theorem parseArg_some (cfg : Config) (arg next : Bytes) :
    parseArg cfg arg (some next) =
      if consumes (argKind arg) next then (applyOption cfg ⟨argKind arg, arg, some next⟩, true)
      else (applyOption cfg ⟨argKind arg, arg, none⟩, false) := by
  unfold parseArg
  generalize argKind arg = kind
  cases kind with
  | server => by_cases hdash : next.head? = some 45 <;> simp [hdash, consumes, applyOption]
  | _ => rfl

theorem parseArgs_eq (args : List Bytes) (cfg : Config) :
    parseArgs cfg args = (options args).foldl applyOption cfg := by
  induction args using options.induct generalizing cfg with
  | case1 => rfl
  | case2 arg => rw [parseArgs, parseArg_none, options, List.foldl_cons, List.foldl_nil]
  | case3 arg next rest hconsumes ih =>
    rw [parseArgs, parseArg_some, if_pos hconsumes, options, if_pos hconsumes, List.foldl_cons]
    exact ih _
  | case4 arg next rest hkept ih =>
    rw [parseArgs, parseArg_some, if_neg hkept, options, if_neg hkept, List.foldl_cons]
    exact ih _

/-- The values that options of a kind consumed, in order. -/
def values (kind : ArgKind) (opts : List GivenOption) : List Bytes :=
  opts.filterMap (fun o => if o.kind = kind then o.value else none)

/-- The value that the last such option consumed. -/
def lastArgument (kind : ArgKind) (args : List Bytes) : Option Bytes :=
  (values kind (options args)).getLast?

/-- A setting that only the values of one kind of option change ends as the last of them
leaves it. -/
theorem parseArgs_setting {β : Type} (kind : ArgKind) (get : Config → β) (read : Bytes → β)
    (happly : ∀ cfg o, get (applyOption cfg o) =
      if o.kind = kind then (o.value.map read).getD (get cfg) else get cfg) (args : List Bytes) :
    get (parseArgs {} args) = ((lastArgument kind args).map read).getD (get {}) := by
  rw [parseArgs_eq, lastArgument]
  generalize ({} : Config) = cfg
  generalize options args = opts
  induction opts generalizing cfg with
  | nil => rfl
  | cons o rest ih =>
    rw [List.foldl_cons, ih, happly, values, values, List.filterMap_cons]
    by_cases hkind : o.kind = kind
    · rw [if_pos hkind, if_pos hkind]
      cases hvalue : o.value with
      | none => rfl
      | some value =>
        rw [List.getLast?_cons]
        cases (rest.filterMap (fun o => if o.kind = kind then o.value else none)).getLast? <;> rfl
    · rw [if_neg hkind, if_neg hkind]

theorem parseArgs_modbusPort (args : List Bytes) :
    (parseArgs {} args).modbusPort = ((lastArgument .port args).map portArgument).getD 502 := by
  apply parseArgs_setting .port Config.modbusPort portArgument
  rintro cfg ⟨kind, text, value⟩
  cases kind <;> cases value <;> rfl

theorem parseArgs_serverPort (args : List Bytes) :
    (parseArgs {} args).serverPort =
      ((lastArgument .server args).map serverPortArgument).getD 8080 := by
  apply parseArgs_setting .server Config.serverPort serverPortArgument
  rintro cfg ⟨kind, text, value⟩
  cases kind <;> cases value <;> rfl

theorem parseArgs_refreshHz (args : List Bytes) :
    (parseArgs {} args).refreshHz =
      ((lastArgument .interval args).map intervalArgument).getD 1 := by
  apply parseArgs_setting .interval Config.refreshHz intervalArgument
  rintro cfg ⟨kind, text, value⟩
  cases kind <;> cases value <;> rfl

/-- The number that the last such option gives. -/
def lastNumber (kind : ArgKind) (args : List Bytes) : Option ℤ :=
  (lastArgument kind args).bind strtol

/-- Every number the options ask for is one that an int can hold. -/
def IntsGiven (args : List Bytes) : Prop :=
  ∀ kind ∈ [ArgKind.port, .server, .interval], ∀ value ∈ values kind (options args), IsInt value

/-- A number that is a port, and otherwise the default. -/
def portOr (initial : ℤ) (number : Option ℤ) : ℤ :=
  match number with
  | none => initial
  | some n => if 1 ≤ n ∧ n ≤ 65535 then n else initial

/-- The settings are the last numbers given, cut to their ranges. -/
structure NumbersTaken (args : List Bytes) (cfg : Config) : Prop where
  modbusPort : (cfg.modbusPort.toNat : ℤ) = portOr 502 (lastNumber .port args)
  serverPort : cfg.serverPort.toInt = portOr 8080 (lastNumber .server args)
  refreshHz : cfg.refreshHz.toInt =
    ((lastNumber .interval args).map (fun n => max 1 (min n 60))).getD 1

theorem atoi_of_int {value : Bytes} {n : ℤ} (hn : strtol value = some n)
    (hrange : -2147483648 ≤ n ∧ n ≤ 2147483647) :
    atoi value = Int32.ofInt n ∧ (atoi value).toInt = n := by
  have hclamp : max (-9223372036854775808) (min n 9223372036854775807) = n := by omega
  have hatoi : atoi value = Int32.ofInt n := by
    simp only [atoi, hn, hclamp]
  refine ⟨hatoi, ?_⟩
  rw [hatoi]
  exact Int32.toInt_ofInt_of_le hrange.1 (by omega)

theorem portArgument_eq_iff {value : Bytes} {n : ℤ} (hn : strtol value = some n)
    (hrange : -2147483648 ≤ n ∧ n ≤ 2147483647) :
    ((portArgument value).toNat : ℤ) = portOr 502 (some n) ↔
      (1 ≤ n ∧ n ≤ 65535) ∨ n % 65536 = 0 ∨ n % 65536 = 502 := by
  have hport : ((toPort (atoi value)).toNat : ℤ) = n % 65536 := by
    rw [(atoi_of_int hn hrange).1, toPort_toNat]
  have hcheck : toPort (atoi value) < 1 ↔ n % 65536 = 0 := by
    rw [UInt16.lt_iff_toNat_lt]
    change (toPort (atoi value)).toNat < 1 ↔ _
    omega
  rw [portArgument, portOr]
  by_cases hzero : n % 65536 = 0
  · rw [if_pos (hcheck.mpr hzero)]
    have hout : ¬ (1 ≤ n ∧ n ≤ 65535) := by omega
    rw [if_neg hout]
    exact iff_of_true rfl (Or.inr (Or.inl hzero))
  · rw [if_neg (fun h => hzero (hcheck.mp h)), hport]
    split <;> omega

theorem serverPortArgument_toInt {value : Bytes} {n : ℤ} (hn : strtol value = some n)
    (hrange : -2147483648 ≤ n ∧ n ≤ 2147483647) :
    (serverPortArgument value).toInt = portOr 8080 (some n) := by
  have hint := (atoi_of_int hn hrange).2
  have hlow : atoi value < 1 ↔ n < 1 := by
    rw [Int32.lt_iff_toInt_lt, hint]
    rfl
  have hhigh : 65535 < atoi value ↔ 65535 < n := by
    rw [Int32.lt_iff_toInt_lt, hint]
    rfl
  rw [serverPortArgument, portOr]
  by_cases hin : 1 ≤ n ∧ n ≤ 65535
  · rw [if_pos hin, if_neg (by rw [hlow, hhigh]; omega), hint]
  · rw [if_neg hin, if_pos (by rw [hlow, hhigh]; omega)]
    rfl

theorem intervalArgument_toInt (value : Bytes) :
    (intervalArgument value).toInt = max 1 (min (atoi value).toInt 60) := by
  have hlow : atoi value < 1 ↔ (atoi value).toInt < 1 := Int32.lt_iff_toInt_lt
  have hhigh : 60 < atoi value ↔ 60 < (atoi value).toInt := Int32.lt_iff_toInt_lt
  rw [intervalArgument]
  by_cases hsmall : (atoi value).toInt < 1
  · rw [if_pos (hlow.mpr hsmall)]
    change (1 : ℤ) = _
    omega
  · rw [if_neg (fun h => hsmall (hlow.mp h))]
    by_cases hlarge : 60 < (atoi value).toInt
    · rw [if_pos (hhigh.mpr hlarge)]
      change (60 : ℤ) = _
      omega
    · rw [if_neg (fun h => hlarge (hhigh.mp h))]
      omega

theorem lastNumber_cases {args : List Bytes} {kind : ArgKind}
    (hints : ∀ value ∈ values kind (options args), IsInt value) :
    (lastArgument kind args = none ∧ lastNumber kind args = none) ∨
      ∃ value n, lastArgument kind args = some value ∧ lastNumber kind args = some n ∧
        strtol value = some n ∧ -2147483648 ≤ n ∧ n ≤ 2147483647 := by
  cases hlast : lastArgument kind args with
  | none => exact Or.inl ⟨rfl, by rw [lastNumber, hlast, Option.bind_none]⟩
  | some value =>
    obtain ⟨n, hn, hrange⟩ := hints value (List.mem_of_getLast? hlast)
    exact Or.inr ⟨value, n, rfl, by rw [lastNumber, hlast, Option.bind_some, hn], hn, hrange⟩

theorem modbusPort_taken_iff {args : List Bytes} (hints : IntsGiven args) :
    ((parseArgs {} args).modbusPort.toNat : ℤ) = portOr 502 (lastNumber .port args) ↔
      ∀ n ∈ lastNumber .port args, (1 ≤ n ∧ n ≤ 65535) ∨ n % 65536 = 0 ∨ n % 65536 = 502 := by
  rw [parseArgs_modbusPort]
  rcases lastNumber_cases (hints .port (by simp)) with
    ⟨hlast, hnumber⟩ | ⟨value, n, hlast, hnumber, hn, hrange⟩
  · rw [hlast, hnumber]
    exact iff_of_true rfl (fun n hn => by cases hn)
  · rw [hlast, hnumber, Option.map_some, Option.getD_some, portArgument_eq_iff hn hrange]
    simp

theorem serverPort_taken {args : List Bytes} (hints : IntsGiven args) :
    (parseArgs {} args).serverPort.toInt = portOr 8080 (lastNumber .server args) := by
  rw [parseArgs_serverPort]
  rcases lastNumber_cases (hints .server (by simp)) with
    ⟨hlast, hnumber⟩ | ⟨value, n, hlast, hnumber, hn, hrange⟩
  · rw [hlast, hnumber]
    rfl
  · rw [hlast, hnumber]
    exact serverPortArgument_toInt hn hrange

theorem refreshHz_taken {args : List Bytes} (hints : IntsGiven args) :
    (parseArgs {} args).refreshHz.toInt =
      ((lastNumber .interval args).map (fun n => max 1 (min n 60))).getD 1 := by
  rw [parseArgs_refreshHz]
  rcases lastNumber_cases (hints .interval (by simp)) with
    ⟨hlast, hnumber⟩ | ⟨value, n, hlast, hnumber, hn, hrange⟩
  · rw [hlast, hnumber]
    rfl
  · rw [hlast, hnumber, Option.map_some, Option.getD_some, intervalArgument_toInt,
      (atoi_of_int hn hrange).2]
    rfl

/-- With numbers that an int can hold, the settings are the last numbers given exactly
when the last Modbus port is a port, or is the default or zero modulo 65536. -/
theorem parseArgs_numbers_iff (args : List Bytes) (hints : IntsGiven args) :
    NumbersTaken args (parseArgs {} args) ↔
      ∀ n ∈ lastNumber .port args, (1 ≤ n ∧ n ≤ 65535) ∨ n % 65536 = 0 ∨ n % 65536 = 502 := by
  constructor
  · intro h
    exact (modbusPort_taken_iff hints).mp h.modbusPort
  · intro h
    exact ⟨(modbusPort_taken_iff hints).mpr h, serverPort_taken hints, refreshHz_taken hints⟩

theorem intsGiven_port {text : String} (h : IsInt (utf8 text)) :
    IntsGiven [utf8 "--port", utf8 text] := by
  intro kind hkind value hvalue
  simp only [List.mem_cons, List.not_mem_nil, or_false] at hkind
  rcases hkind with rfl | rfl | rfl
  · rw [show values .port (options [utf8 "--port", utf8 text]) = [utf8 text] from rfl,
      List.mem_singleton] at hvalue
    rw [hvalue]
    exact h
  · cases hvalue
  · cases hvalue

theorem parseArgs_numbers_iff_modbus :
    NumbersTaken [utf8 "--port", utf8 "1502"] (parseArgs {} [utf8 "--port", utf8 "1502"]) ↔
      ∀ n ∈ lastNumber .port [utf8 "--port", utf8 "1502"],
        (1 ≤ n ∧ n ≤ 65535) ∨ n % 65536 = 0 ∨ n % 65536 = 502 :=
  parseArgs_numbers_iff [utf8 "--port", utf8 "1502"] (intsGiven_port ⟨1502, rfl, by decide⟩)

/-- Port 65537 is taken as port 1. -/
theorem parseArgs_wrapped_port :
    IntsGiven [utf8 "--port", utf8 "65537"] ∧
      (parseArgs {} [utf8 "--port", utf8 "65537"]).modbusPort = 1 ∧
      ¬ NumbersTaken [utf8 "--port", utf8 "65537"]
        (parseArgs {} [utf8 "--port", utf8 "65537"]) := by
  refine ⟨intsGiven_port ⟨65537, rfl, by decide⟩, rfl, ?_⟩
  intro h
  have hport := h.modbusPort
  rw [show (parseArgs {} [utf8 "--port", utf8 "65537"]).modbusPort = 1 from rfl,
    show lastNumber .port [utf8 "--port", utf8 "65537"] = some 65537 from rfl] at hport
  revert hport
  decide

end SolakonMonitor.ArgumentMeaning
