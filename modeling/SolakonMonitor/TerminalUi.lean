import SolakonMonitor.NumberValue
import SolakonMonitor.SnapshotServing

/-!
The terminal's output for machines.
A snapshot is printed as a JSON document with a fixed number of decimals for each
quantity. The pieces are the lines of an object, so the document is read back as a value
with the same members as the server's.
-/
namespace SolakonMonitor.TerminalUi

open BigEndian DecimalText Device HttpServer JsonText SnapshotServing NumberValue

/-- What the calls of `printf` write, one after another; `now` is the clock. -/
def renderPieces (now : ℤ) (snap : DeviceSnapshot) : List Bytes :=
  [utf8 "\x7b\n",
   utf8 "  \"timestamp\": ", decimalInt (now.tdiv 1000000000), utf8 ",\n",
   utf8 "  \"valid\": ", boolText snap.valid, utf8 ",\n",
   utf8 "  \"power\": \x7b\n",
   utf8 "    \"smart_meter_w\": ", fixedText 1 snap.energy.smartMeterPowerW, utf8 ",\n",
   utf8 "    \"ac_power_w\": ", fixedText 1 snap.energy.acActivePowerW, utf8 ",\n",
   utf8 "    \"pv_power_w\": ", fixedText 1 snap.energy.pvTotalPowerW, utf8 ",\n",
   utf8 "    \"battery_power_w\": ", fixedText 1 snap.energy.batteryPowerW, utf8 "\n",
   utf8 "  \x7d,\n",
   utf8 "  \"energy\": \x7b\n",
   utf8 "    \"charge_total_kwh\": ", fixedText 1 snap.energy.totalChargeKwh, utf8 ",\n",
   utf8 "    \"charge_today_kwh\": ", fixedText 1 snap.energy.totalChargeTodayKwh, utf8 ",\n",
   utf8 "    \"discharge_total_kwh\": ", fixedText 1 snap.energy.totalDischargeKwh, utf8 ",\n",
   utf8 "    \"discharge_today_kwh\": ", fixedText 1 snap.energy.totalDischargeTodayKwh,
     utf8 ",\n",
   utf8 "    \"feeder_total_kwh\": ", fixedText 1 snap.energy.totalFeederKwh, utf8 ",\n",
   utf8 "    \"feeder_today_kwh\": ", fixedText 1 snap.energy.totalFeederTodayKwh, utf8 ",\n",
   utf8 "    \"consumption_total_kwh\": ", fixedText 1 snap.energy.totalConsumptionKwh,
     utf8 ",\n",
   utf8 "    \"consumption_today_kwh\": ", fixedText 1 snap.energy.totalConsumptionTodayKwh,
     utf8 ",\n",
   utf8 "    \"output_total_kwh\": ", fixedText 1 snap.energy.totalOutputKwh, utf8 ",\n",
   utf8 "    \"output_today_kwh\": ", fixedText 1 snap.energy.totalOutputTodayKwh, utf8 ",\n",
   utf8 "    \"load_total_kwh\": ", fixedText 1 snap.energy.totalLoadKwh, utf8 ",\n",
   utf8 "    \"load_today_kwh\": ", fixedText 1 snap.energy.totalLoadTodayKwh, utf8 "\n",
   utf8 "  \x7d,\n",
   utf8 "  \"battery\": \x7b\n",
   utf8 "    \"soc_pct\": ", fixedText 0 snap.bms.soc, utf8 ",\n",
   utf8 "    \"voltage_v\": ", fixedText 1 snap.bms.voltage, utf8 ",\n",
   utf8 "    \"current_a\": ", fixedText 1 snap.bms.current, utf8 ",\n",
   utf8 "    \"temperature_c\": ", fixedText 1 snap.bms.temperature, utf8 "\n",
   utf8 "  \x7d,\n",
   utf8 "  \"meter1\": \x7b\n",
   utf8 "    \"connected\": ", boolText snap.meter1.connected, utf8 ",\n",
   utf8 "    \"voltage_v\": ", fixedText 1 snap.meter1.rVoltage, utf8 ",\n",
   utf8 "    \"current_a\": ", fixedText 2 snap.meter1.rCurrent, utf8 ",\n",
   utf8 "    \"power_w\": ", fixedText 1 snap.meter1.combinedActivePower, utf8 "\n",
   utf8 "  \x7d,\n",
   utf8 "  \"meter2\": \x7b\n",
   utf8 "    \"connected\": ", boolText snap.meter2.connected, utf8 ",\n",
   utf8 "    \"voltage_v\": ", fixedText 1 snap.meter2.rVoltage, utf8 ",\n",
   utf8 "    \"current_a\": ", fixedText 2 snap.meter2.rCurrent, utf8 ",\n",
   utf8 "    \"power_w\": ", fixedText 1 snap.meter2.combinedActivePower, utf8 "\n",
   utf8 "  \x7d\n",
   utf8 "\x7d\n"]

def renderJson (now : ℤ) (snap : DeviceSnapshot) : Bytes := (renderPieces now snap).flatten

def fixed (key : Bytes) (plain : isPlain key = true) (f : ℕ) (q : ℚ) : Member where
  key := key
  text := fixedText f q
  value := .number ⟨fixedText f q, isNumber_fixedText f q⟩
  plain := plain
  standsFor := .number ⟨fixedText f q, isNumber_fixedText f q⟩

def renderedPower (energy : EnergyData) : List Member :=
  [fixed (utf8 "smart_meter_w") (.refl true) 1 energy.smartMeterPowerW,
   fixed (utf8 "ac_power_w") (.refl true) 1 energy.acActivePowerW,
   fixed (utf8 "pv_power_w") (.refl true) 1 energy.pvTotalPowerW,
   fixed (utf8 "battery_power_w") (.refl true) 1 energy.batteryPowerW]

def renderedEnergy (energy : EnergyData) : List Member :=
  [fixed (utf8 "charge_total_kwh") (.refl true) 1 energy.totalChargeKwh,
   fixed (utf8 "charge_today_kwh") (.refl true) 1 energy.totalChargeTodayKwh,
   fixed (utf8 "discharge_total_kwh") (.refl true) 1 energy.totalDischargeKwh,
   fixed (utf8 "discharge_today_kwh") (.refl true) 1 energy.totalDischargeTodayKwh,
   fixed (utf8 "feeder_total_kwh") (.refl true) 1 energy.totalFeederKwh,
   fixed (utf8 "feeder_today_kwh") (.refl true) 1 energy.totalFeederTodayKwh,
   fixed (utf8 "consumption_total_kwh") (.refl true) 1 energy.totalConsumptionKwh,
   fixed (utf8 "consumption_today_kwh") (.refl true) 1 energy.totalConsumptionTodayKwh,
   fixed (utf8 "output_total_kwh") (.refl true) 1 energy.totalOutputKwh,
   fixed (utf8 "output_today_kwh") (.refl true) 1 energy.totalOutputTodayKwh,
   fixed (utf8 "load_total_kwh") (.refl true) 1 energy.totalLoadKwh,
   fixed (utf8 "load_today_kwh") (.refl true) 1 energy.totalLoadTodayKwh]

def renderedBattery (bms : BMSData) : List Member :=
  [fixed (utf8 "soc_pct") (.refl true) 0 bms.soc,
   fixed (utf8 "voltage_v") (.refl true) 1 bms.voltage,
   fixed (utf8 "current_a") (.refl true) 1 bms.current,
   fixed (utf8 "temperature_c") (.refl true) 1 bms.temperature]

def renderedMeter (meter : MeterData) : List Member :=
  [flag (utf8 "connected") (.refl true) meter.connected,
   fixed (utf8 "voltage_v") (.refl true) 1 meter.rVoltage,
   fixed (utf8 "current_a") (.refl true) 2 meter.rCurrent,
   fixed (utf8 "power_w") (.refl true) 1 meter.combinedActivePower]

def renderedMembers (seconds : ℤ) (snap : DeviceSnapshot) : List Member :=
  [integer (utf8 "timestamp") (.refl true) seconds,
   flag (utf8 "valid") (.refl true) snap.valid,
   group (utf8 "power") (.refl true) (renderedPower snap.energy) (List.cons_ne_nil _ _),
   group (utf8 "energy") (.refl true) (renderedEnergy snap.energy) (List.cons_ne_nil _ _),
   group (utf8 "battery") (.refl true) (renderedBattery snap.bms) (List.cons_ne_nil _ _),
   group (utf8 "meter1") (.refl true) (renderedMeter snap.meter1) (List.cons_ne_nil _ _),
   group (utf8 "meter2") (.refl true) (renderedMeter snap.meter2) (List.cons_ne_nil _ _)]

/-- The value the terminal prints for a snapshot. -/
def rendered (seconds : ℤ) (snap : DeviceSnapshot) : Json :=
  .object ((renderedMembers seconds snap).map Member.entry)

set_option maxRecDepth 10000 in
/-- The literals of the terminal are lines of the document. -/
theorem renderPieces_eq (now : ℤ) (snap : DeviceSnapshot) :
    renderPieces now snap =
      utf8 "\x7b\n" :: lineStart 2 (utf8 "timestamp") ::
          decimalInt (now.tdiv 1000000000) :: utf8 ",\n" ::
        lineStart 2 (utf8 "valid") :: boolText snap.valid :: utf8 ",\n" ::
        (lineStart 2 (utf8 "power") ++ [123, 10]) :: (linePieces 4 (renderedPower snap.energy) ++
        utf8 "  \x7d,\n" :: (lineStart 2 (utf8 "energy") ++ [123, 10]) ::
          (linePieces 4 (renderedEnergy snap.energy) ++
        utf8 "  \x7d,\n" :: (lineStart 2 (utf8 "battery") ++ [123, 10]) ::
          (linePieces 4 (renderedBattery snap.bms) ++
        utf8 "  \x7d,\n" :: (lineStart 2 (utf8 "meter1") ++ [123, 10]) ::
          (linePieces 4 (renderedMeter snap.meter1) ++
        utf8 "  \x7d,\n" :: (lineStart 2 (utf8 "meter2") ++ [123, 10]) ::
          (linePieces 4 (renderedMeter snap.meter2) ++ [utf8 "  \x7d\n", utf8 "\x7d\n"]))))) :=
  (rfl)

theorem renderJson_eq (now : ℤ) (snap : DeviceSnapshot) :
    renderJson now snap = objectText 0 (renderedMembers (now.tdiv 1000000000) snap) ++ [10] := by
  rw [renderJson, renderPieces_eq]
  simp only [List.flatten_cons, List.flatten_append, List.flatten_nil, linePieces_flatten]
  simp only [renderedMembers, objectText, membersText_cons, membersText_last, integer, flag,
    group, lineStart, List.append_assoc, List.cons_append, List.nil_append]
  rfl

theorem readDocument_renderJson (now : ℤ) (snap : DeviceSnapshot) :
    readDocument (renderJson now snap) = some (rendered (now.tdiv 1000000000) snap) := by
  rw [renderJson_eq]
  exact readDocument_of_standsFor (.object 0 (List.cons_ne_nil _ _))

end SolakonMonitor.TerminalUi
