import SolakonMonitor.DecimalText
import SolakonMonitor.TextLines
import Mathlib.Logic.Function.Basic

/-!
The configuration file: path lookup, the line-by-line reader and the writer.
The file system maps a path, cut at its first NUL, to a file or a directory; the
process may open some paths, and the disk may take only part of a write. An
exception of `stoi` leaves the loader as an error.
-/
namespace SolakonMonitor.ConfigLoader

open BigEndian DecimalText TextLines

structure Settings where
  host : Bytes := []
  modbusPort : UInt16 := 502
  httpsPort : UInt16 := 443
  refreshHz : Int32 := 1
  scanSubnet : Bytes := utf8 "192.168.178.0/24"
  scanPorts : List UInt16 := [502, 443]
  configPath : Bytes := []
  deriving DecidableEq

/-- `room` is what the disk takes of the next write; none is no bound. -/
structure FileSystem where
  files : Bytes → Option Bytes
  dirs : Bytes → Bool
  permitted : Bytes → Bool
  room : Option ℕ
  home : Option Bytes

def parentDir (path : Bytes) : Option Bytes :=
  if 47 ∈ path then some (path.rdropWhile (fun b => b ≠ 47)).dropLast else none

namespace FileSystem

/-- Whether `stat` finds the path; it never finds the empty one. -/
def pathExists (fs : FileSystem) (path : Bytes) : Bool :=
  cString path ≠ [] && ((fs.files (cString path)).isSome || fs.dirs (cString path))

/-- The directory a path lies in exists. -/
def reachable (fs : FileSystem) (path : Bytes) : Bool :=
  match parentDir path with
  | none => true
  | some dir => dir = [] || fs.dirs dir

def mkdir (fs : FileSystem) (dir : Bytes) : FileSystem :=
  if fs.pathExists dir || !fs.permitted (cString dir) || !fs.reachable (cString dir) ||
      cString dir = [] then fs
  else { fs with dirs := Function.update fs.dirs (cString dir) true }

def makeParent (fs : FileSystem) (path : Bytes) : FileSystem :=
  match parentDir path with
  | none => fs
  | some dir => fs.mkdir dir

def readFile (fs : FileSystem) (path : Bytes) : Option Bytes :=
  if fs.permitted (cString path) then fs.files (cString path) else none

/-- Open for writing, which empties or creates the file. -/
def openTruncated (fs : FileSystem) (path : Bytes) : Option FileSystem :=
  if cString path = [] || fs.dirs (cString path) || !fs.permitted (cString path) ||
      ((fs.files (cString path)).isNone && !fs.reachable (cString path)) then none
  else some { fs with files := Function.update fs.files (cString path) (some []) }

def taken (fs : FileSystem) (text : Bytes) : Bytes :=
  match fs.room with
  | none => text
  | some n => text.take n

def write (fs : FileSystem) (path text : Bytes) : FileSystem :=
  { fs with
    files := Function.update fs.files (cString path)
      ((fs.files (cString path)).map (fun old => old ++ fs.taken text))
    room := fs.room.map (fun n => n - text.length) }

end FileSystem

def isBlank (b : UInt8) : Bool := b = 32 || b = 9 || b = 13 || b = 10

def trimmed (s : Bytes) : Bytes := trim isBlank s

inductive StoiError where
  | invalidArgument
  | outOfRange
  deriving DecidableEq, Repr

def stoi (s : Bytes) : Except StoiError Int32 :=
  match strtol s with
  | none => .error .invalidArgument
  | some v =>
    if -2147483648 ≤ v ∧ v ≤ 2147483647 then .ok (Int32.ofInt v) else .error .outOfRange

/-- `static_cast<uint16_t>` of an int. -/
def toPort (v : Int32) : UInt16 := v.toUInt32.toUInt16

def parsePorts (val : Bytes) : Except StoiError (List UInt16) :=
  (fields 44 val).foldlM (fun ports port =>
    if trimmed port = [] then .ok ports
    else do
      let v ← stoi (trimmed port)
      return ports ++ [toPort v]) []

/-- What the reader does with one key of the solakon section. -/
def assign (cfg : Settings) (key val : Bytes) : Except StoiError Settings :=
  if key = utf8 "ip" then .ok { cfg with host := val }
  else if key = utf8 "modbus_port" then
    (stoi val).map (fun v => { cfg with modbusPort := toPort v })
  else if key = utf8 "https_port" then
    (stoi val).map (fun v => { cfg with httpsPort := toPort v })
  else if key = utf8 "refresh_hz" then
    (stoi val).map (fun v => { cfg with refreshHz := v })
  else if key = utf8 "scan_subnet" then .ok { cfg with scanSubnet := val }
  else if key = utf8 "scan_ports" then
    (parsePorts val).map (fun ports => { cfg with scanPorts := ports })
  else .ok cfg

structure Reader where
  cfg : Settings
  currentSection : Bytes := []
  deriving DecidableEq

/-- One trimmed line: blank or comment, section header, assignment, or ignored. -/
def readTrimmed (st : Reader) : Bytes → Except StoiError Reader
  | [] => .ok st
  | first :: rest =>
    let line := first :: rest
    if first = 59 ∨ first = 35 then .ok st
    else if first = 91 ∧ line.getLast? = some 93 then
      .ok { st with currentSection := (line.drop 1).take (line.length - 2) }
    else
      match line.findIdx? (fun b => b = 61) with
      | none => .ok st
      | some eq =>
        if st.currentSection ≠ utf8 "solakon" then .ok st
        else (assign st.cfg (trimmed (line.take eq)) (trimmed (line.drop (eq + 1)))).map
          (fun cfg => { st with cfg := cfg })

def readLine (st : Reader) (line : Bytes) : Except StoiError Reader :=
  readTrimmed st (trimmed line)

def homeConfig (home : Bytes) : Bytes := home ++ utf8 "/.config/solakon-monitor/solakon.conf"

/-- The file under the home directory; empty where there is none. -/
def homePath (fs : FileSystem) : Bytes :=
  match fs.home with
  | some home => homeConfig home
  | none => []

/-- The path `load` settles on. -/
def loadPath (fs : FileSystem) (overridePath : Bytes) : Bytes :=
  if overridePath ≠ [] then overridePath
  else if fs.pathExists (homePath fs) then homePath fs
  else utf8 "solakon.conf"

def load (fs : FileSystem) (overridePath : Bytes) : Except StoiError Settings :=
  let path := loadPath fs overridePath
  let cfg : Settings := { configPath := path }
  if !fs.pathExists path then .ok cfg
  else
    match fs.readFile path with
    | none => .ok cfg
    | some content =>
      ((fields 10 content).foldlM readLine { cfg := cfg }).map (fun st => st.cfg)

/-- What `save` streams into the file, piece by piece. -/
def settingsPieces (cfg : Settings) : List Bytes :=
  [utf8 "[solakon]\n",
   utf8 "; IP-Adresse des Solakon ONE Wechselrichters\n",
   utf8 "ip = ", cfg.host, utf8 "\n\n",
   utf8 "; Modbus TCP Port (Standard: 502)\n",
   utf8 "modbus_port = ", decimal cfg.modbusPort.toNat, utf8 "\n\n",
   utf8 "; HTTPS Port für Web-Oberfläche (Standard: 443)\n",
   utf8 "https_port = ", decimal cfg.httpsPort.toNat, utf8 "\n\n",
   utf8 "; Aktualisierungsrate in Hz (1-60)\n",
   utf8 "refresh_hz = ", decimalInt cfg.refreshHz.toInt, utf8 "\n\n",
   utf8 "; Netzwerk-Scan-Einstellungen\n",
   utf8 "; Subnet zum Scannen (CIDR-Notation)\n",
   utf8 "scan_subnet = ", cfg.scanSubnet, utf8 "\n\n",
   utf8 "; Zu scannende Ports (kommagetrennt)\n",
   utf8 "scan_ports = ",
   List.intercalate [44] (cfg.scanPorts.map (fun port => decimal port.toNat)),
   utf8 "\n"]

def settingsText (cfg : Settings) : Bytes := (settingsPieces cfg).flatten

/-- Failed writes go unnoticed: the result only tells whether the file was opened. -/
def save (fs : FileSystem) (cfg : Settings) : Bool × FileSystem :=
  if cfg.configPath = [] then (false, fs)
  else
    match (fs.makeParent cfg.configPath).openTruncated cfg.configPath with
    | none => (false, fs.makeParent cfg.configPath)
    | some opened => (true, opened.write cfg.configPath (settingsText cfg))

def defaultPath (fs : FileSystem) : Bytes :=
  match fs.home with
  | some home => homeConfig home
  | none => utf8 "solakon.conf"

end SolakonMonitor.ConfigLoader
