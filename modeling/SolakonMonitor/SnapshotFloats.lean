import SolakonMonitor.Device
import SolakonMonitor.SinglePrecision

/-!
A snapshot as the source stores it.
The device module computes exact quotients; here every float field holds what its conversion
and division give in single precision. Texts, flags and integers are stored as they were read.
-/
namespace SolakonMonitor.SnapshotFloats

open Device SinglePrecision

def storedInfo (info : DeviceInfo) : DeviceInfo :=
  { info with
    ratedPowerKw := quotient 1000 info.ratedPowerKw
    maxActiveKw := quotient 1000 info.maxActiveKw
    maxApparentKva := quotient 1000 info.maxApparentKva
    maxReactiveNegKvar := quotient 1000 info.maxReactiveNegKvar }

def storedMeter (meter : MeterData) : MeterData :=
  { meter with
    rVoltage := quotient 10 meter.rVoltage
    sVoltage := quotient 10 meter.sVoltage
    tVoltage := quotient 10 meter.tVoltage
    rCurrent := quotient 1000 meter.rCurrent
    sCurrent := quotient 1000 meter.sCurrent
    tCurrent := quotient 1000 meter.tCurrent
    rActivePower := quotient 10 meter.rActivePower
    sActivePower := quotient 10 meter.sActivePower
    tActivePower := quotient 10 meter.tActivePower
    combinedActivePower := quotient 10 meter.combinedActivePower
    frequency := quotient 100 meter.frequency }

def storedBms (bms : BMSData) : BMSData :=
  { bms with
    voltage := quotient 10 bms.voltage
    current := quotient 10 bms.current
    temperature := quotient 10 bms.temperature
    soc := toFloat bms.soc
    maxTemperature := quotient 10 bms.maxTemperature
    minTemperature := quotient 10 bms.minTemperature
    maxCellVoltage := toFloat bms.maxCellVoltage
    minCellVoltage := toFloat bms.minCellVoltage
    soh := toFloat bms.soh
    remainEnergyWh := quotient (1 / 10) bms.remainEnergyWh }

def storedEnergy (energy : EnergyData) : EnergyData where
  pvTotalPowerW := toFloat energy.pvTotalPowerW
  acActivePowerW := toFloat energy.acActivePowerW
  smartMeterPowerW := toFloat energy.smartMeterPowerW
  batteryPowerW := toFloat energy.batteryPowerW
  totalChargeKwh := quotient 10 energy.totalChargeKwh
  totalChargeTodayKwh := quotient 10 energy.totalChargeTodayKwh
  totalDischargeKwh := quotient 10 energy.totalDischargeKwh
  totalDischargeTodayKwh := quotient 10 energy.totalDischargeTodayKwh
  totalFeederKwh := quotient 10 energy.totalFeederKwh
  totalFeederTodayKwh := quotient 10 energy.totalFeederTodayKwh
  totalConsumptionKwh := quotient 10 energy.totalConsumptionKwh
  totalConsumptionTodayKwh := quotient 10 energy.totalConsumptionTodayKwh
  totalOutputKwh := quotient 10 energy.totalOutputKwh
  totalOutputTodayKwh := quotient 10 energy.totalOutputTodayKwh
  totalLoadKwh := quotient 10 energy.totalLoadKwh
  totalLoadTodayKwh := quotient 10 energy.totalLoadTodayKwh

def stored (snap : DeviceSnapshot) : DeviceSnapshot :=
  { snap with
    info := storedInfo snap.info
    meter1 := storedMeter snap.meter1
    meter2 := storedMeter snap.meter2
    bms := storedBms snap.bms
    energy := storedEnergy snap.energy }

/-- A number of so many decimal places as it is stored. -/
def storedNumber (places : ℕ) (q : ℚ) : ℚ :=
  if places = 0 then toFloat q else quotient (10 ^ places) q

theorem storedNumber_near {places : ℕ} (hplaces : places ≤ 3) (q : ℚ) :
    |storedNumber places q - q| ≤ |q| / 8000000 := by
  rw [storedNumber]
  split
  · have hnear := toFloat_near q
    have hq := abs_nonneg q
    linarith
  · have hpower : (10 : ℚ) ^ places = ((10 ^ places : ℤ) : ℚ) := by push_cast; rfl
    have hsmall : |(10 : ℤ) ^ places| < 16777216 := by
      rw [abs_of_pos (by positivity)]
      exact (pow_le_pow_right₀ (by norm_num) hplaces).trans_lt (by norm_num)
    refine quotient_near ?_ (by positivity) q
    rw [hpower, toFloat_intCast hsmall]

end SolakonMonitor.SnapshotFloats
