import SolakonMonitor.Device
import SolakonMonitor.SinglePrecision

/-!
What the terminal shows to people.
The full screen and the picture of the power flows, byte by byte as they are printed, with
the formatting helpers they share. A text printed through a C string ends at its first NUL.
The clock and the size of the window are arguments.
-/
namespace SolakonMonitor.TerminalScreen

open BigEndian DecimalText Device SinglePrecision

inductive Color where
  | black | red | green | yellow | blue | magenta | cyan | white
  | dimGray | brightRed | brightGreen | brightYellow
  | brightBlue | brightMagenta | brightCyan | brightWhite
  deriving DecidableEq, Repr

def colorReset : Bytes := utf8 "\x1b[0m"

def colorBold : Bytes := utf8 "\x1b[1m"

def fgColors : Color → Bytes
  | .black => utf8 "\x1b[30m"
  | .red => utf8 "\x1b[31m"
  | .green => utf8 "\x1b[32m"
  | .yellow => utf8 "\x1b[33m"
  | .blue => utf8 "\x1b[34m"
  | .magenta => utf8 "\x1b[35m"
  | .cyan => utf8 "\x1b[36m"
  | .white => utf8 "\x1b[37m"
  | .dimGray => utf8 "\x1b[90m"
  | .brightRed => utf8 "\x1b[91m"
  | .brightGreen => utf8 "\x1b[92m"
  | .brightYellow => utf8 "\x1b[93m"
  | .brightBlue => utf8 "\x1b[94m"
  | .brightMagenta => utf8 "\x1b[95m"
  | .brightCyan => utf8 "\x1b[96m"
  | .brightWhite => utf8 "\x1b[97m"

/-- No caller gives a background. -/
def color (fg : Color) (text : Bytes) : Bytes := fgColors fg ++ text ++ colorReset

def bold (fg : Color) (text : Bytes) : Bytes := colorBold ++ fgColors fg ++ text ++ colorReset

def dim (fg : Color) (text : Bytes) : Bytes := fgColors fg ++ text ++ colorReset

def separator (width : ℕ) (c : UInt8) (fg : Color) : Bytes := color fg (List.replicate width c)

def sectionHeader (title : Bytes) (width : ℕ) : Bytes :=
  bold .brightCyan (List.replicate ((width - title.length - 2) / 2) 32 ++ title ++ [32])

def statusBadge (label : Bytes) (ok : Bool) : Bytes :=
  if ok then bold .green label else bold .red label

/-- The argument is a float, and so is the quotient. -/
def formatPower (watts : ℚ) : Bytes :=
  let watts := toFloat watts
  if 1000 ≤ watts then fixedText 2 (toFloat (watts / 1000)) ++ utf8 " kW"
  else fixedText 0 watts ++ utf8 " W"

example : formatPower 12345 = utf8 "12.35 kW" := by decide +kernel

def formatVoltage (v : ℚ) : Bytes := fixedText 1 v ++ utf8 " V"

def formatCurrent (a : ℚ) : Bytes := fixedText 2 a ++ utf8 " A"

/-- `%0Nlld`: the sign counts as one of the places. -/
def zeroPadded (width : ℕ) (z : ℤ) : Bytes :=
  if z < 0 then 45 :: padded (width - 1) z.natAbs else padded width z.natAbs

/-- Time points are counts of nanoseconds in 64 bits, and so is their difference, which wraps
around where it overflows. -/
def formatUptime (now tp : Int64) : Bytes :=
  let diff := (now - tp).toInt.tdiv 1000000000
  if 86400 ≤ diff then
    let d := diff.tdiv 86400
    let h := (diff.tmod 86400).tdiv 3600
    let m := (diff.tmod 3600).tdiv 60
    let s := diff.tmod 60
    decimalInt d ++ utf8 "d " ++ zeroPadded 2 h ++ utf8 ":" ++ zeroPadded 2 m ++ utf8 ":" ++
      zeroPadded 2 s
  else
    let h := (diff.tdiv 3600).tmod 24
    let m := (diff.tmod 3600).tdiv 60
    let s := diff.tmod 60
    zeroPadded 2 h ++ utf8 ":" ++ zeroPadded 2 m ++ utf8 ":" ++ zeroPadded 2 s

/-- The number of signs that fill the bar: `round` takes halves away from zero. -/
def barFilled (value maxVal : ℚ) (width : ℕ) : ℕ :=
  let ratio := min (toFloat (value / maxVal)) 1
  min width (toFloat (ratio * width) + 1 / 2).floor.toNat

def bar (value maxVal : ℚ) (width : ℕ) (fg : Color) : Bytes :=
  if maxVal ≤ 0 then List.replicate width 32
  else color fg (List.replicate (barFilled value maxVal width) 35) ++
    List.replicate (width - barFilled value maxVal width) 32

structure TerminalUI where
  screenWidth : ℕ := 80
  screenHeight : ℕ := 24
  deriving DecidableEq

/-- Columns and rows, or none where the output is not a terminal. -/
abbrev Winsize := Option (UInt16 × UInt16)

def atLeast (ui : TerminalUI) : TerminalUI := ⟨max 80 ui.screenWidth, max 24 ui.screenHeight⟩

def resize (winsize : Winsize) (ui : TerminalUI) : TerminalUI :=
  match winsize with
  | some (columns, rows) => atLeast ⟨columns.toNat, rows.toNat⟩
  | none => atLeast ui

/-- The window as `render_art` looks at it: an empty one does not count, and the height is
left alone. -/
def resizeArt (winsize : Winsize) (ui : TerminalUI) : TerminalUI :=
  match winsize with
  | some (columns, _) =>
    if 0 < columns then { ui with screenWidth := max 80 columns.toNat }
    else { ui with screenWidth := max 80 ui.screenWidth }
  | none => { ui with screenWidth := max 80 ui.screenWidth }

/-- `%-Ns` -/
def padRight (width : ℕ) (text : Bytes) : Bytes := text ++ List.replicate (width - text.length) 32

def initText : Bytes := utf8 "\x1b[?1049h" ++ utf8 "\x1b[?25l"

def shutdownText : Bytes := utf8 "\x1b[?1049l" ++ utf8 "\x1b[?25h" ++ utf8 "\x1b[0m"

def drawHeader (ui : TerminalUI) (now : ℤ) (snap : DeviceSnapshot) : Bytes :=
  bold .brightCyan (utf8 "Solakon ONE Monitor") ++ utf8 "\n" ++
  utf8 "IP: 192.168.178.121  |  Modbus TCP :502  |  Uptime: " ++
    formatUptime (Int64.ofInt now) (Int64.ofInt snap.timestamp) ++ utf8 "\n" ++
  separator ui.screenWidth 45 .dimGray ++ utf8 "\n"

def statusText (status1 : UInt16) : Bytes × Color :=
  if status1 = 0 then (utf8 "Standby", .yellow)
  else if status1 = 2 then (utf8 "Betrieb", .green)
  else if status1 = 6 then (utf8 "Fehler!", .red)
  else (utf8 "Reserviert", .dimGray)

def drawInverterInfo (ui : TerminalUI) (info : DeviceInfo) : Bytes :=
  utf8 "\n" ++ sectionHeader (utf8 "Wechselrichter") ui.screenWidth ++ utf8 "\n" ++
  utf8 "  Modell: " ++ cString (bold .brightWhite info.modelName) ++ utf8 "\n" ++
  utf8 "  SN: " ++ dim .dimGray (cString info.serialNumber) ++ utf8 "\n" ++
  utf8 "  Status: " ++ bold (statusText info.status1).2 (statusText info.status1).1 ++
    utf8 "\n" ++
  utf8 "  Rated: " ++ fixedText 2 info.ratedPowerKw ++ utf8 " kW | Max: " ++
    fixedText 2 info.maxActiveKw ++ utf8 " kW | Max apparent: " ++
    fixedText 2 info.maxApparentKva ++ utf8 " kVA\n" ++
  separator ui.screenWidth 32 .dimGray ++ utf8 "\n"

def drawStatus (ui : TerminalUI) (valid : Bool) : Bytes :=
  utf8 "\n" ++ sectionHeader (utf8 "Systemstatus") ui.screenWidth ++ utf8 "\n" ++
  utf8 "  " ++ statusBadge (utf8 "Modbus") valid ++ utf8 "  Verbunden: " ++
    (if valid then bold .green (utf8 "Ja") else dim .red (utf8 "Nein")) ++ utf8 "\n" ++
  utf8 "  " ++ separator ui.screenWidth 32 .dimGray ++ utf8 "\n"

def drawPowerBlock (label : Bytes) (powerW : ℚ) : Bytes :=
  utf8 "  " ++ padRight 18 (label ++ utf8 ":") ++ utf8 " " ++ formatPower powerW ++ utf8 "\n"

def drawPower (ui : TerminalUI) (energy : EnergyData) : Bytes :=
  utf8 "\n" ++ sectionHeader (utf8 "Leistungen") ui.screenWidth ++ utf8 "\n" ++
  drawPowerBlock (utf8 "Smart Meter") energy.smartMeterPowerW ++
  drawPowerBlock (utf8 "AC Leistung") energy.acActivePowerW ++
  drawPowerBlock (utf8 "PV Leistung") energy.pvTotalPowerW ++
  drawPowerBlock (utf8 "Batterie") energy.batteryPowerW ++
  separator ui.screenWidth 32 .dimGray ++ utf8 "\n"

def drawMeter (ui : TerminalUI) (m : MeterData) : Bytes :=
  utf8 "  Spannung: " ++ formatVoltage m.rVoltage ++ utf8 "\n" ++
  utf8 "  Strom: " ++ formatCurrent m.rCurrent ++ utf8 "\n" ++
  utf8 "  Leistung: " ++ formatPower m.combinedActivePower ++ utf8 "\n" ++
  utf8 "  Frequenz: " ++ fixedText 2 m.frequency ++ utf8 " Hz\n" ++
  separator ui.screenWidth 32 .dimGray ++ utf8 "\n"

def drawMeterBlock (ui : TerminalUI) (title : Bytes) (m : MeterData) : Bytes :=
  if m.connected then
    utf8 "\n" ++ sectionHeader title ui.screenWidth ++ utf8 "\n" ++ drawMeter ui m
  else []

def drawMeterData (ui : TerminalUI) (snap : DeviceSnapshot) : Bytes :=
  drawMeterBlock ui (utf8 "Meter1/CT1") snap.meter1 ++
  drawMeterBlock ui (utf8 "Meter2/CT2") snap.meter2

def drawBattery (ui : TerminalUI) (bms : BMSData) : Bytes :=
  utf8 "\n" ++ sectionHeader (utf8 "Batterie (BMS)") ui.screenWidth ++ utf8 "\n" ++
  utf8 "  SoC: " ++ fixedText 0 bms.soc ++ utf8 "%\n" ++
  utf8 "    " ++ bar bms.soc 100 (ui.screenWidth - 10) (if 20 < bms.soc then .green else .red) ++
    utf8 "\n" ++
  utf8 "  Spannung: " ++ fixedText 1 bms.voltage ++ utf8 " V | Strom: " ++
    fixedText 1 bms.current ++ utf8 " A | Temp: " ++ fixedText 1 bms.temperature ++
    utf8 " °C\n" ++
  utf8 "  SoH: " ++ fixedText 0 bms.soh ++ utf8 "% | Restenergie: " ++
    fixedText 1 bms.remainEnergyWh ++ utf8 " Wh\n" ++
  utf8 "  Max Zelle: " ++ fixedText 0 bms.maxCellVoltage ++ utf8 " mV | Min Zelle: " ++
    fixedText 0 bms.minCellVoltage ++ utf8 " mV\n" ++
  separator ui.screenWidth 32 .dimGray ++ utf8 "\n"

def footer : Bytes := utf8 " [q] Quit"

def drawFooter (ui : TerminalUI) : Bytes :=
  utf8 "\n" ++ dim .dimGray footer ++
    dim .dimGray (List.replicate (ui.screenWidth - footer.length - 1) 32) ++ utf8 "\x1b[0m" ++
    utf8 "\n"

/-- What `render` prints on a window that `resize` has measured. -/
def screenText (ui : TerminalUI) (now : ℤ) (snap : DeviceSnapshot) : Bytes :=
  drawHeader ui now snap ++ drawInverterInfo ui snap.info ++ drawStatus ui snap.valid ++
    drawPower ui snap.energy ++ drawMeterData ui snap ++ drawBattery ui snap.bms ++ drawFooter ui

def render (winsize : Winsize) (now : ℤ) (snap : DeviceSnapshot) (ui : TerminalUI) :
    TerminalUI × Bytes :=
  (resize winsize ui, screenText (resize winsize ui) now snap)

def pvLine (pv : ℚ) : Bytes :=
  if 100 < pv then utf8 "PV -> +" ++ formatPower pv ++ utf8 " ->" else utf8 "PV --- OFF"

def smLine (smartM : ℚ) : Bytes :=
  if 100 < smartM then utf8 "NETZ -> +" ++ formatPower smartM ++ utf8 " -> SM"
  else if smartM < -100 then utf8 "SM -> +" ++ formatPower (-smartM) ++ utf8 " -> NETZ"
  else utf8 "NETZ --- 0W ---"

/-- `std::to_string((int)soc)` -/
def socText (soc : ℚ) : Bytes := decimalInt (soc.num.tdiv soc.den)

def battLine (batt soc : ℚ) : Bytes :=
  if 5 < batt then
    utf8 "BATT [Lade +" ++ formatPower batt ++ utf8 "] SOC:" ++ socText soc ++ utf8 "%]"
  else if batt < -5 then
    utf8 "BATT [Entl +-" ++ formatPower (-batt) ++ utf8 "] SOC:" ++ socText soc ++ utf8 "%]"
  else utf8 "BATT [SOC:" ++ socText soc ++ utf8 "%]"

def centred (width : ℕ) (line : Bytes) : Bytes :=
  List.replicate ((width - line.length) / 2) 32 ++ line

def artText (width : ℕ) (snap : DeviceSnapshot) : Bytes :=
  utf8 "\x1b[36m" ++ padRight width (utf8 "Solakon ONE Monitor - Art Mode") ++ utf8 "\x1b[0m\n" ++
  centred width (pvLine snap.energy.pvTotalPowerW) ++ utf8 "\n" ++
  centred width (smLine snap.energy.smartMeterPowerW) ++ utf8 "\n" ++
  centred width (battLine snap.energy.batteryPowerW snap.bms.soc) ++ utf8 "\n" ++
  utf8 "\x1b[90m" ++ padRight (width - 16) (utf8 "  [q] Quit") ++ utf8 "\x1b[0m\n"

def renderArt (winsize : Winsize) (snap : DeviceSnapshot) (ui : TerminalUI) : TerminalUI × Bytes :=
  (resizeArt winsize ui, artText (resizeArt winsize ui).screenWidth snap)

end SolakonMonitor.TerminalScreen
