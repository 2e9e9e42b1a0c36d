import SolakonMonitor.ConfigLoader

/-!
The main program up to the connection: command line, scan mode, and the choice
of host and port. Arguments are the bytes of the C strings after the program's
name; standard input is the bytes it will deliver. What is printed is left out.
The network scan is a parameter.
-/
namespace SolakonMonitor.MainProgram

open BigEndian DecimalText ConfigLoader

structure Config where
  host : Bytes := []
  refreshHz : Int32 := 1
  modbusPort : UInt16 := 502
  once : Bool := false
  json : Bool := false
  server : Bool := false
  serverPort : Int32 := 8080
  help : Bool := false
  scan : Bool := false
  art : Bool := false
  configPath : Bytes := []
  deriving DecidableEq

/-- `strtol` saturates at the range of long; the cast to int keeps the low word. -/
def atoi (s : Bytes) : Int32 :=
  match strtol s with
  | none => 0
  | some v => Int32.ofInt (max (-9223372036854775808) (min v 9223372036854775807))

def portArgument (value : Bytes) : UInt16 :=
  if toPort (atoi value) < 1 then 502 else toPort (atoi value)

def serverPortArgument (value : Bytes) : Int32 :=
  if atoi value < 1 ∨ 65535 < atoi value then 8080 else atoi value

def intervalArgument (value : Bytes) : Int32 :=
  if atoi value < 1 then 1 else if 60 < atoi value then 60 else atoi value

/-- The branch of the parser an argument takes, by its text alone. -/
inductive ArgKind where
  | help | config | scan | port | once | json | server | interval | art | host | ignored
  deriving DecidableEq, Repr

def argKind (arg : Bytes) : ArgKind :=
  if arg = utf8 "--help" ∨ arg = utf8 "-h" then .help
  else if arg = utf8 "--config" then .config
  else if arg = utf8 "--scan" then .scan
  else if arg = utf8 "--port" ∨ arg = utf8 "-p" then .port
  else if arg = utf8 "--once" then .once
  else if arg = utf8 "--json" then .json
  else if arg = utf8 "--server" then .server
  else if arg = utf8 "--interval" then .interval
  else if arg = utf8 "--art" then .art
  else if arg.head? ≠ some 45 then .host
  else .ignored

/-- One pass of the loop over the arguments, and whether it consumed the next one. -/
def parseArg (cfg : Config) (arg : Bytes) (next : Option Bytes) : Config × Bool :=
  match argKind arg, next with
  | .help, _ => ({ cfg with help := true }, false)
  | .config, some value => ({ cfg with configPath := value }, true)
  | .scan, _ => ({ cfg with scan := true }, false)
  | .port, some value => ({ cfg with modbusPort := portArgument value }, true)
  | .once, _ => ({ cfg with once := true }, false)
  | .json, _ => ({ cfg with json := true }, false)
  | .server, some value =>
    if value.head? ≠ some 45 then
      ({ cfg with server := true, serverPort := serverPortArgument value }, true)
    else ({ cfg with server := true }, false)
  | .server, none => ({ cfg with server := true }, false)
  | .interval, some value => ({ cfg with refreshHz := intervalArgument value }, true)
  | .art, _ => ({ cfg with art := true }, false)
  | .host, _ => ({ cfg with host := arg }, false)
  | _, _ => (cfg, false)

def parseArgs : Config → List Bytes → Config
  | cfg, [] => cfg
  | cfg, [arg] => (parseArg cfg arg none).1
  | cfg, arg :: next :: rest =>
    if (parseArg cfg arg (some next)).2 then parseArgs (parseArg cfg arg (some next)).1 rest
    else parseArgs (parseArg cfg arg (some next)).1 (next :: rest)

/-- Up to `size - 1` bytes, ending with the first newline; none at the end of input. -/
def fgets (size : ℕ) (input : Bytes) : Option Bytes :=
  if input = [] then none
  else
    let line := input.takeWhile (fun b => b ≠ 10)
    some ((if line.length < input.length then line ++ [10] else line).take (size - 1))

def promptIp (input : Bytes) : Bytes :=
  match fgets 64 input with
  | none => []
  | some buf =>
    let text := cString buf
    if text.getLast? = some 10 then text.dropLast else text

structure DiscoveredDevice where
  ip : Bytes
  ports : List UInt16
  isSolakon : Bool
  deriving DecidableEq

/-- The scanner: subnet, ports, and timeout in milliseconds. -/
abbrev Scan := Bytes → List UInt16 → ℕ → List DiscoveredDevice

/-- The address and port offered when exactly one device is a Solakon. The outer
none is an access outside a vector. -/
def offered (devices : List DiscoveredDevice) : Option (Option (Bytes × UInt16)) :=
  if devices.countP (fun d => d.isSolakon) = 1 then do
    let device ← devices.find? (fun d => d.isSolakon)
    let first ← devices[0]?
    let port ← first.ports[0]?
    return some (device.ip, port)
  else some none

/-- `configPath` only appears in the messages. -/
def saveDiscovered (fs : FileSystem) (ip : Bytes) (port : UInt16) (_configPath : Bytes) :
    Bool × FileSystem :=
  save fs { host := ip, modbusPort := port }

def scanPortsOrDefault (settings : Settings) : List UInt16 :=
  if settings.scanPorts = [] then [502, 443] else settings.scanPorts

def scanDevices (scan : Scan) (settings : Settings) : List DiscoveredDevice :=
  scan settings.scanSubnet (scanPortsOrDefault settings) 2000

/-- The user confirms an offer; the exit code and the file system afterwards. -/
def scanMode (scan : Scan) (fs : FileSystem) (cfg : Config) :
    Except StoiError (Option (ℕ × FileSystem)) :=
  (load fs cfg.configPath).map (fun settings =>
    if scanDevices scan settings = [] then some (1, fs)
    else (offered (scanDevices scan settings)).map (fun offer =>
      match offer with
      | none => (0, fs)
      | some (ip, port) => (0, (saveDiscovered fs ip port settings.configPath).2)))

inductive Outcome where
  | exit (code : ℕ)
  | connect (cfg : Config) (settings : Settings)
  deriving DecidableEq

/-- Options that differ from their default replace the loaded settings. -/
def overrides (cfg : Config) (settings : Settings) : Settings :=
  { settings with
    host := if cfg.host ≠ [] then cfg.host else settings.host
    modbusPort := if cfg.modbusPort ≠ 502 then cfg.modbusPort else settings.modbusPort
    refreshHz := if cfg.refreshHz ≠ 1 then cfg.refreshHz else settings.refreshHz }

/-- The settings connected with after the user typed an address. -/
def promptedSettings (fs : FileSystem) (cfg : Config) (settings : Settings) (ip : Bytes) :
    Settings :=
  { settings with host := ip, modbusPort := cfg.modbusPort, configPath := defaultPath fs }

/-- Without a host: give up, or ask for one and save it. One byte of the input is
dropped before the address is read. -/
def promptPath (fs : FileSystem) (stdin : Bytes) (cfg : Config) (settings : Settings) :
    Except StoiError (Outcome × FileSystem) :=
  (load fs []).map (fun check =>
    if check.configPath = [] then (.exit 1, fs)
    else if check.host = [] then
      let ip := promptIp (stdin.drop 1)
      if ip = [] then (.exit 1, fs)
      else (.connect cfg (promptedSettings fs cfg settings ip),
        (save fs (promptedSettings fs cfg settings ip)).2)
    else (.exit 1, fs))

/-- Up to `connect`; the inner none is an access outside a vector in scan mode. -/
def main (scan : Scan) (fs : FileSystem) (stdin : Bytes) (args : List Bytes) :
    Except StoiError (Option (Outcome × FileSystem)) :=
  let cfg := parseArgs {} args
  if cfg.help then .ok (some (.exit 0, fs))
  else if cfg.scan then
    (scanMode scan fs cfg).map (fun result => result.map (fun p => (.exit p.1, p.2)))
  else do
    let settings ← load fs cfg.configPath
    if (overrides cfg settings).host = [] then
      (promptPath fs stdin cfg (overrides cfg settings)).map some
    else return some (.connect cfg (overrides cfg settings), fs)

end SolakonMonitor.MainProgram
