import SolakonMonitor.Dialogue
import SolakonMonitor.ModbusClient
import Mathlib.Data.Rat.Defs

/-!
The device abstraction: register addresses, the snapshot record, and the
register-reading program that fills it. The program is a dialogue over the
typed client reads, whose answer is none when the read reports an error; a
result argument then keeps its old value. The single-precision fields are
exact rationals, and an uninitialised local is an argument of its function.
-/
namespace SolakonMonitor.Device

open BigEndian ModbusClient

namespace Reg

def bms1 : UInt16 := 37002
def bms1Main : UInt16 := 37003
def bms1Sn : UInt16 := 37005
def bms1SlaveCount : UInt16 := 37032
def bms1Voltage : UInt16 := 37609
def bms1Current : UInt16 := 37610
def bms1Temp : UInt16 := 37611
def bms1Soc : UInt16 := 37612
def bms1MaxTemp : UInt16 := 37617
def bms1MinTemp : UInt16 := 37618
def bms1MaxCell : UInt16 := 37619
def bms1MinCell : UInt16 := 37620
def bms1Soh : UInt16 := 37624
def bms1RemainEnergy : UInt16 := 37632

def meter1Conn : UInt16 := 38801
def meter1RVoltage : UInt16 := 38802
def meter1SVoltage : UInt16 := 38804
def meter1TVoltage : UInt16 := 38806
def meter1RCurrent : UInt16 := 38808
def meter1SCurrent : UInt16 := 38810
def meter1TCurrent : UInt16 := 38812
def meter1RPower : UInt16 := 38814
def meter1SPower : UInt16 := 38816
def meter1TPower : UInt16 := 38818
def meter1CombinedPower : UInt16 := 38838
def meter1Freq : UInt16 := 38844

def meter2Conn : UInt16 := 38901
def meter2RVoltage : UInt16 := 38902
def meter2SVoltage : UInt16 := 38904
def meter2TVoltage : UInt16 := 38906
def meter2RCurrent : UInt16 := 38908
def meter2SCurrent : UInt16 := 38910
def meter2TCurrent : UInt16 := 38912
def meter2CombinedPower : UInt16 := 38938
def meter2Freq : UInt16 := 38946

def protocolVersion : UInt16 := 39000
def modelName2 : UInt16 := 39002
def pn : UInt16 := 39018
def sn2 : UInt16 := 39034
def modelId : UInt16 := 39050
def numStrings : UInt16 := 39051
def numMppt : UInt16 := 39052
def ratedPower : UInt16 := 39053
def maxActive : UInt16 := 39055
def maxApparent : UInt16 := 39057
def maxReactiveNeg : UInt16 := 39059
def status1 : UInt16 := 39063
def status3 : UInt16 := 39065
def alarm1 : UInt16 := 39066
def alarm2 : UInt16 := 39067

def pvTotalPower : UInt16 := 39118
def acTotalPower : UInt16 := 39134
def smartMeterPower : UInt16 := 39168
def batteryPower : UInt16 := 39230

def totalChargeCap : UInt16 := 39605
def totalChargeToday : UInt16 := 39603
def totalDischarge : UInt16 := 39609
def totalDischargeToday : UInt16 := 39607
def totalFeeder : UInt16 := 39613
def totalFeederToday : UInt16 := 39611
def totalConsumption : UInt16 := 39617
def totalConsumptionToday : UInt16 := 39615
def totalOutput : UInt16 := 39621
def totalOutputToday : UInt16 := 39619
def totalLoad : UInt16 := 39625
def totalLoadToday : UInt16 := 39623

end Reg

structure DeviceInfo where
  modelName : Bytes := []
  serialNumber : Bytes := []
  protocolVersion : UInt16 := 0
  modelId : UInt16 := 0
  numStrings : UInt16 := 0
  numMppt : UInt16 := 0
  ratedPowerKw : ℚ := 0
  maxActiveKw : ℚ := 0
  maxApparentKva : ℚ := 0
  maxReactiveNegKvar : ℚ := 0
  status1 : UInt16 := 0
  status3 : UInt32 := 0
  alarm1 : UInt16 := 0
  alarm2 : UInt16 := 0
  deriving DecidableEq

structure MeterData where
  connected : Bool := false
  rVoltage : ℚ := 0
  sVoltage : ℚ := 0
  tVoltage : ℚ := 0
  rCurrent : ℚ := 0
  sCurrent : ℚ := 0
  tCurrent : ℚ := 0
  rActivePower : ℚ := 0
  sActivePower : ℚ := 0
  tActivePower : ℚ := 0
  combinedActivePower : ℚ := 0
  frequency : ℚ := 0
  deriving DecidableEq

structure BMSData where
  online : UInt16 := 0
  mainControl : UInt16 := 0
  sn : Bytes := []
  slaveCount : UInt16 := 0
  voltage : ℚ := 0
  current : ℚ := 0
  temperature : ℚ := 0
  soc : ℚ := 0
  maxTemperature : ℚ := 0
  minTemperature : ℚ := 0
  maxCellVoltage : ℚ := 0
  minCellVoltage : ℚ := 0
  soh : ℚ := 0
  remainEnergyWh : ℚ := 0
  deriving DecidableEq

structure EnergyData where
  pvTotalPowerW : ℚ := 0
  acActivePowerW : ℚ := 0
  smartMeterPowerW : ℚ := 0
  batteryPowerW : ℚ := 0
  totalChargeKwh : ℚ := 0
  totalChargeTodayKwh : ℚ := 0
  totalDischargeKwh : ℚ := 0
  totalDischargeTodayKwh : ℚ := 0
  totalFeederKwh : ℚ := 0
  totalFeederTodayKwh : ℚ := 0
  totalConsumptionKwh : ℚ := 0
  totalConsumptionTodayKwh : ℚ := 0
  totalOutputKwh : ℚ := 0
  totalOutputTodayKwh : ℚ := 0
  totalLoadKwh : ℚ := 0
  totalLoadTodayKwh : ℚ := 0
  deriving DecidableEq

/-- `timestamp` counts nanoseconds since the epoch of the system clock. -/
structure DeviceSnapshot where
  info : DeviceInfo := {}
  meter1 : MeterData := {}
  meter2 : MeterData := {}
  bms : BMSData := {}
  energy : EnergyData := {}
  timestamp : ℤ := 0
  valid : Bool := false
  deriving DecidableEq

/-- A read's answer: its value, or none for any error code. -/
abbrev Answer (r : RegRead) : Type := Option r.Value

abbrev Reads := Dialogue RegRead Answer

/-- A table giving every read its outcome during one fetch. -/
abbrev Outcomes := (r : RegRead) → Answer r

/-- Ask for a read into a variable that held `value`: whether it succeeded, and
what the variable holds afterwards. -/
def readInto (r : RegRead) (value : r.Value) : Reads (Bool × r.Value) := do
  let answer ← Dialogue.question r
  return (answer.isSome, answer.getD value)

def readU16 (addr value : UInt16) : Reads (Bool × UInt16) := readInto (.u16 addr) value

def readI16 (addr : UInt16) (value : Int16) : Reads (Bool × Int16) := readInto (.i16 addr) value

def readU32 (addr : UInt16) (value : UInt32) : Reads (Bool × UInt32) := readInto (.u32 addr) value

def readI32 (addr : UInt16) (value : Int32) : Reads (Bool × Int32) := readInto (.i32 addr) value

def readString (addr regCount : UInt16) (result : Bytes) : Reads (Bool × Bytes) :=
  readInto (.string addr regCount) result

/-- `val` and `s3` are the locals the source leaves uninitialised. -/
def readInverterInfo (val s3 : UInt32) (info : DeviceInfo) : Reads DeviceInfo := do
  let (ok, val) ← readU32 Reg.protocolVersion val
  let info := { info with
    protocolVersion := if ok then val.toUInt16 else info.protocolVersion }
  let (_, modelName) ← readString Reg.modelName2 16 info.modelName
  let info := { info with modelName := modelName }
  let (_, serialNumber) ← readString Reg.pn 16 info.serialNumber
  let info := { info with serialNumber := serialNumber }
  let (_, modelId) ← readU16 Reg.modelId info.modelId
  let info := { info with modelId := modelId }
  let (_, numStrings) ← readU16 Reg.numStrings info.numStrings
  let info := { info with numStrings := numStrings }
  let (_, numMppt) ← readU16 Reg.numMppt info.numMppt
  let info := { info with numMppt := numMppt }
  let ival : Int32 := 0
  let (ok, ival) ← readI32 Reg.ratedPower ival
  let info := { info with
    ratedPowerKw := if ok then (ival.toInt : ℚ) / 1000 else info.ratedPowerKw }
  let (ok, ival) ← readI32 Reg.maxActive ival
  let info := { info with
    maxActiveKw := if ok then (ival.toInt : ℚ) / 1000 else info.maxActiveKw }
  let (ok, ival) ← readI32 Reg.maxApparent ival
  let info := { info with
    maxApparentKva := if ok then (ival.toInt : ℚ) / 1000 else info.maxApparentKva }
  let (ok, ival) ← readI32 Reg.maxReactiveNeg ival
  let info := { info with
    maxReactiveNegKvar := if ok then (ival.toInt : ℚ) / 1000 else info.maxReactiveNegKvar }
  let (_, status1) ← readU16 Reg.status1 info.status1
  let info := { info with status1 := status1 }
  let (_, s3) ← readU32 Reg.status3 s3
  let info := { info with status3 := s3 }
  let (_, alarm1) ← readU16 Reg.alarm1 info.alarm1
  let info := { info with alarm1 := alarm1 }
  let (_, alarm2) ← readU16 Reg.alarm2 info.alarm2
  return { info with alarm2 := alarm2 }

/-- The error codes are ignored: each field takes whatever `uval` or `ival` holds. -/
def readMeterData (m1 m2 : MeterData) : Reads (MeterData × MeterData) := do
  let uval : UInt16 := 0
  let ival : Int32 := 0
  let (_, uval) ← readU16 Reg.meter1Conn uval
  let m1 := { m1 with connected := uval == 1 }
  let (_, ival) ← readI32 Reg.meter1RVoltage ival
  let m1 := { m1 with rVoltage := (ival.toInt : ℚ) / 10 }
  let (_, ival) ← readI32 Reg.meter1SVoltage ival
  let m1 := { m1 with sVoltage := (ival.toInt : ℚ) / 10 }
  let (_, ival) ← readI32 Reg.meter1TVoltage ival
  let m1 := { m1 with tVoltage := (ival.toInt : ℚ) / 10 }
  let (_, ival) ← readI32 Reg.meter1RCurrent ival
  let m1 := { m1 with rCurrent := (ival.toInt : ℚ) / 1000 }
  let (_, ival) ← readI32 Reg.meter1SCurrent ival
  let m1 := { m1 with sCurrent := (ival.toInt : ℚ) / 1000 }
  let (_, ival) ← readI32 Reg.meter1TCurrent ival
  let m1 := { m1 with tCurrent := (ival.toInt : ℚ) / 1000 }
  let (_, ival) ← readI32 Reg.meter1RPower ival
  let m1 := { m1 with rActivePower := (ival.toInt : ℚ) / 10 }
  let (_, ival) ← readI32 Reg.meter1SPower ival
  let m1 := { m1 with sActivePower := (ival.toInt : ℚ) / 10 }
  let (_, ival) ← readI32 Reg.meter1TPower ival
  let m1 := { m1 with tActivePower := (ival.toInt : ℚ) / 10 }
  let (_, ival) ← readI32 Reg.meter1CombinedPower ival
  let m1 := { m1 with combinedActivePower := (ival.toInt : ℚ) / 10 }
  let (_, ival) ← readI32 Reg.meter1Freq ival
  let m1 := { m1 with frequency := (ival.toInt : ℚ) / 100 }
  let (_, uval) ← readU16 Reg.meter2Conn uval
  let m2 := { m2 with connected := uval == 1 }
  let (_, ival) ← readI32 Reg.meter2RVoltage ival
  let m2 := { m2 with rVoltage := (ival.toInt : ℚ) / 10 }
  let (_, ival) ← readI32 Reg.meter2SVoltage ival
  let m2 := { m2 with sVoltage := (ival.toInt : ℚ) / 10 }
  let (_, ival) ← readI32 Reg.meter2TVoltage ival
  let m2 := { m2 with tVoltage := (ival.toInt : ℚ) / 10 }
  let (_, ival) ← readI32 Reg.meter2RCurrent ival
  let m2 := { m2 with rCurrent := (ival.toInt : ℚ) / 1000 }
  let (_, ival) ← readI32 Reg.meter2SCurrent ival
  let m2 := { m2 with sCurrent := (ival.toInt : ℚ) / 1000 }
  let (_, ival) ← readI32 Reg.meter2TCurrent ival
  let m2 := { m2 with tCurrent := (ival.toInt : ℚ) / 1000 }
  let (_, ival) ← readI32 Reg.meter2CombinedPower ival
  let m2 := { m2 with combinedActivePower := (ival.toInt : ℚ) / 10 }
  let (_, ival) ← readI32 Reg.meter2Freq ival
  let m2 := { m2 with frequency := (ival.toInt : ℚ) / 100 }
  return (m1, m2)

def readBatteryData (bms : BMSData) : Reads BMSData := do
  let uval : UInt16 := 0
  let ival : Int16 := 0
  let (_, uval) ← readU16 Reg.bms1 uval
  let bms := { bms with online := uval }
  let (_, uval) ← readU16 Reg.bms1Main uval
  let bms := { bms with mainControl := uval }
  let (_, sn) ← readString Reg.bms1Sn 16 bms.sn
  let bms := { bms with sn := sn }
  let (_, uval) ← readU16 Reg.bms1SlaveCount uval
  let bms := { bms with slaveCount := uval }
  let (_, uval) ← readU16 Reg.bms1Voltage uval
  let bms := { bms with voltage := (uval.toNat : ℚ) / 10 }
  let (_, ival) ← readI16 Reg.bms1Current ival
  let bms := { bms with current := (ival.toInt : ℚ) / 10 }
  let (_, ival) ← readI16 Reg.bms1Temp ival
  let bms := { bms with temperature := (ival.toInt : ℚ) / 10 }
  let (_, uval) ← readU16 Reg.bms1Soc uval
  let bms := { bms with soc := (uval.toNat : ℚ) }
  let (_, ival) ← readI16 Reg.bms1MaxTemp ival
  let bms := { bms with maxTemperature := (ival.toInt : ℚ) / 10 }
  let (_, ival) ← readI16 Reg.bms1MinTemp ival
  let bms := { bms with minTemperature := (ival.toInt : ℚ) / 10 }
  let (_, uval) ← readU16 Reg.bms1MaxCell uval
  let bms := { bms with maxCellVoltage := (uval.toNat : ℚ) }
  let (_, uval) ← readU16 Reg.bms1MinCell uval
  let bms := { bms with minCellVoltage := (uval.toNat : ℚ) }
  let (_, uval) ← readU16 Reg.bms1Soh uval
  let bms := { bms with soh := (uval.toNat : ℚ) }
  let (_, uval) ← readU16 Reg.bms1RemainEnergy uval
  return { bms with remainEnergyWh := (uval.toNat : ℚ) / (1 / 10) }

def readEnergyData (energy : EnergyData) : Reads EnergyData := do
  let uval : UInt32 := 0
  let (ok, pvRaw) ← readI32 Reg.pvTotalPower 0
  let energy := { energy with
    pvTotalPowerW := if ok then (pvRaw.toInt : ℚ) else energy.pvTotalPowerW }
  let (ok, acRaw) ← readI32 Reg.acTotalPower 0
  let energy := { energy with
    acActivePowerW := if ok then (acRaw.toInt : ℚ) else energy.acActivePowerW }
  let (ok, smartRaw) ← readI32 Reg.smartMeterPower 0
  let energy := { energy with
    smartMeterPowerW := if ok then (smartRaw.toInt : ℚ) else energy.smartMeterPowerW }
  let (ok, batRaw) ← readI32 Reg.batteryPower 0
  let energy := { energy with
    batteryPowerW := if ok then (batRaw.toInt : ℚ) else energy.batteryPowerW }
  let (ok, uval) ← readU32 Reg.totalChargeCap uval
  let energy := { energy with
    totalChargeKwh := if ok then (uval.toNat : ℚ) / 10 else energy.totalChargeKwh }
  let (ok, uval) ← readU32 Reg.totalChargeToday uval
  let energy := { energy with
    totalChargeTodayKwh := if ok then (uval.toNat : ℚ) / 10 else energy.totalChargeTodayKwh }
  let (ok, uval) ← readU32 Reg.totalDischarge uval
  let energy := { energy with
    totalDischargeKwh := if ok then (uval.toNat : ℚ) / 10 else energy.totalDischargeKwh }
  let (ok, uval) ← readU32 Reg.totalDischargeToday uval
  let energy := { energy with
    totalDischargeTodayKwh :=
      if ok then (uval.toNat : ℚ) / 10 else energy.totalDischargeTodayKwh }
  let (ok, uval) ← readU32 Reg.totalFeeder uval
  let energy := { energy with
    totalFeederKwh := if ok then (uval.toNat : ℚ) / 10 else energy.totalFeederKwh }
  let (ok, uval) ← readU32 Reg.totalFeederToday uval
  let energy := { energy with
    totalFeederTodayKwh := if ok then (uval.toNat : ℚ) / 10 else energy.totalFeederTodayKwh }
  let (ok, uval) ← readU32 Reg.totalConsumption uval
  let energy := { energy with
    totalConsumptionKwh := if ok then (uval.toNat : ℚ) / 10 else energy.totalConsumptionKwh }
  let (ok, uval) ← readU32 Reg.totalConsumptionToday uval
  let energy := { energy with
    totalConsumptionTodayKwh :=
      if ok then (uval.toNat : ℚ) / 10 else energy.totalConsumptionTodayKwh }
  let (ok, uval) ← readU32 Reg.totalOutput uval
  let energy := { energy with
    totalOutputKwh := if ok then (uval.toNat : ℚ) / 10 else energy.totalOutputKwh }
  let (ok, uval) ← readU32 Reg.totalOutputToday uval
  let energy := { energy with
    totalOutputTodayKwh := if ok then (uval.toNat : ℚ) / 10 else energy.totalOutputTodayKwh }
  let (ok, uval) ← readU32 Reg.totalLoad uval
  let energy := { energy with
    totalLoadKwh := if ok then (uval.toNat : ℚ) / 10 else energy.totalLoadKwh }
  let (ok, uval) ← readU32 Reg.totalLoadToday uval
  return { energy with
    totalLoadTodayKwh := if ok then (uval.toNat : ℚ) / 10 else energy.totalLoadTodayKwh }

/-- `now` is the clock at the start of the fetch. -/
def Impl.fetchSnapshot (now : ℤ) (val s3 : UInt32) : Reads DeviceSnapshot := do
  let snap : DeviceSnapshot := { timestamp := now }
  let info ← readInverterInfo val s3 snap.info
  let (meter1, meter2) ← readMeterData snap.meter1 snap.meter2
  let bms ← readBatteryData snap.bms
  let energy ← readEnergyData snap.energy
  return { snap with
    info := info, meter1 := meter1, meter2 := meter2, bms := bms, energy := energy
    valid := true }

/-- `impl` is null until the first `connect`. -/
structure SolakonDevice where
  impl : Option Client := none
  deriving DecidableEq

def SolakonDevice.fetchSnapshot (device : SolakonDevice) (now : ℤ) (val s3 : UInt32) :
    Reads DeviceSnapshot :=
  match device.impl with
  | none => return {}
  | some _ => Impl.fetchSnapshot now val s3

/-- The fetch over a socket, each read made by the client in turn. -/
def SolakonDevice.fetchOver {σ : Type} (sock : Socket σ) (device : SolakonDevice) (now : ℤ)
    (val s3 : UInt32) (net : σ) : Option (DeviceSnapshot × (SolakonDevice × σ)) :=
  match device.impl with
  | none => some ({}, device, net)
  | some client =>
    ((Impl.fetchSnapshot now val s3).runWith (RegRead.perform sock) ⟨client, net⟩).map
      (fun p => (p.1, ⟨some p.2.client⟩, p.2.net))

end SolakonMonitor.Device
