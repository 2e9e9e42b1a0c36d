import SolakonMonitor.Device
import SolakonMonitor.ModbusSession
import Mathlib.Data.Rat.Cast.Defs
import Mathlib.Tactic.NormNum

/-!
The fields of a snapshot, one by one.
Each field has the read that feeds it, the variable that read goes through, and
the documented divisor. The main lemma computes every field of a fetched
snapshot from the outcomes of the reads: its own value when the read succeeded,
and otherwise what the shared variable still holds.
-/
namespace SolakonMonitor.SnapshotFields

open BigEndian ModbusClient ModbusSession Device

inductive Field where
  | protocolVersion | modelName | serialNumber | modelId | numStrings | numMppt | ratedPowerKw
  | maxActiveKw | maxApparentKva | maxReactiveNegKvar | status1 | status3 | alarm1 | alarm2
  | meter1Connected | meter1RVoltage | meter1SVoltage | meter1TVoltage | meter1RCurrent
  | meter1SCurrent | meter1TCurrent | meter1RActivePower | meter1SActivePower
  | meter1TActivePower | meter1CombinedActivePower | meter1Frequency | meter2Connected
  | meter2RVoltage | meter2SVoltage | meter2TVoltage | meter2RCurrent | meter2SCurrent
  | meter2TCurrent | meter2CombinedActivePower | meter2Frequency | bmsOnline | bmsMainControl
  | bmsSn | bmsSlaveCount | bmsVoltage | bmsCurrent | bmsTemperature | bmsSoc
  | bmsMaxTemperature | bmsMinTemperature | bmsMaxCellVoltage | bmsMinCellVoltage | bmsSoh
  | bmsRemainEnergyWh | pvTotalPowerW | acActivePowerW | smartMeterPowerW | batteryPowerW
  | totalChargeKwh | totalChargeTodayKwh | totalDischargeKwh | totalDischargeTodayKwh
  | totalFeederKwh | totalFeederTodayKwh | totalConsumptionKwh | totalConsumptionTodayKwh
  | totalOutputKwh | totalOutputTodayKwh | totalLoadKwh | totalLoadTodayKwh
  deriving DecidableEq, Repr

inductive FieldValue where
  | text (s : Bytes)
  | number (q : ℚ)
  | flag (b : Bool)
  deriving DecidableEq

namespace Field

/-- The fields in the order their reads are made. -/
def all : List Field :=
  [.protocolVersion, .modelName, .serialNumber, .modelId, .numStrings, .numMppt, .ratedPowerKw,
   .maxActiveKw, .maxApparentKva, .maxReactiveNegKvar, .status1, .status3, .alarm1, .alarm2,
   .meter1Connected, .meter1RVoltage, .meter1SVoltage, .meter1TVoltage, .meter1RCurrent,
   .meter1SCurrent, .meter1TCurrent, .meter1RActivePower, .meter1SActivePower,
   .meter1TActivePower, .meter1CombinedActivePower, .meter1Frequency, .meter2Connected,
   .meter2RVoltage, .meter2SVoltage, .meter2TVoltage, .meter2RCurrent, .meter2SCurrent,
   .meter2TCurrent, .meter2CombinedActivePower, .meter2Frequency, .bmsOnline, .bmsMainControl,
   .bmsSn, .bmsSlaveCount, .bmsVoltage, .bmsCurrent, .bmsTemperature, .bmsSoc,
   .bmsMaxTemperature, .bmsMinTemperature, .bmsMaxCellVoltage, .bmsMinCellVoltage, .bmsSoh,
   .bmsRemainEnergyWh, .pvTotalPowerW, .acActivePowerW, .smartMeterPowerW, .batteryPowerW,
   .totalChargeKwh, .totalChargeTodayKwh, .totalDischargeKwh, .totalDischargeTodayKwh,
   .totalFeederKwh, .totalFeederTodayKwh, .totalConsumptionKwh, .totalConsumptionTodayKwh,
   .totalOutputKwh, .totalOutputTodayKwh, .totalLoadKwh, .totalLoadTodayKwh]

theorem mem_all (f : Field) : f ∈ all := by
  cases f <;> decide

def value (snap : DeviceSnapshot) : Field → FieldValue
  | .protocolVersion => .number snap.info.protocolVersion.toNat
  | .modelName => .text snap.info.modelName
  | .serialNumber => .text snap.info.serialNumber
  | .modelId => .number snap.info.modelId.toNat
  | .numStrings => .number snap.info.numStrings.toNat
  | .numMppt => .number snap.info.numMppt.toNat
  | .ratedPowerKw => .number snap.info.ratedPowerKw
  | .maxActiveKw => .number snap.info.maxActiveKw
  | .maxApparentKva => .number snap.info.maxApparentKva
  | .maxReactiveNegKvar => .number snap.info.maxReactiveNegKvar
  | .status1 => .number snap.info.status1.toNat
  | .status3 => .number snap.info.status3.toNat
  | .alarm1 => .number snap.info.alarm1.toNat
  | .alarm2 => .number snap.info.alarm2.toNat
  | .meter1Connected => .flag snap.meter1.connected
  | .meter1RVoltage => .number snap.meter1.rVoltage
  | .meter1SVoltage => .number snap.meter1.sVoltage
  | .meter1TVoltage => .number snap.meter1.tVoltage
  | .meter1RCurrent => .number snap.meter1.rCurrent
  | .meter1SCurrent => .number snap.meter1.sCurrent
  | .meter1TCurrent => .number snap.meter1.tCurrent
  | .meter1RActivePower => .number snap.meter1.rActivePower
  | .meter1SActivePower => .number snap.meter1.sActivePower
  | .meter1TActivePower => .number snap.meter1.tActivePower
  | .meter1CombinedActivePower => .number snap.meter1.combinedActivePower
  | .meter1Frequency => .number snap.meter1.frequency
  | .meter2Connected => .flag snap.meter2.connected
  | .meter2RVoltage => .number snap.meter2.rVoltage
  | .meter2SVoltage => .number snap.meter2.sVoltage
  | .meter2TVoltage => .number snap.meter2.tVoltage
  | .meter2RCurrent => .number snap.meter2.rCurrent
  | .meter2SCurrent => .number snap.meter2.sCurrent
  | .meter2TCurrent => .number snap.meter2.tCurrent
  | .meter2CombinedActivePower => .number snap.meter2.combinedActivePower
  | .meter2Frequency => .number snap.meter2.frequency
  | .bmsOnline => .number snap.bms.online.toNat
  | .bmsMainControl => .number snap.bms.mainControl.toNat
  | .bmsSn => .text snap.bms.sn
  | .bmsSlaveCount => .number snap.bms.slaveCount.toNat
  | .bmsVoltage => .number snap.bms.voltage
  | .bmsCurrent => .number snap.bms.current
  | .bmsTemperature => .number snap.bms.temperature
  | .bmsSoc => .number snap.bms.soc
  | .bmsMaxTemperature => .number snap.bms.maxTemperature
  | .bmsMinTemperature => .number snap.bms.minTemperature
  | .bmsMaxCellVoltage => .number snap.bms.maxCellVoltage
  | .bmsMinCellVoltage => .number snap.bms.minCellVoltage
  | .bmsSoh => .number snap.bms.soh
  | .bmsRemainEnergyWh => .number snap.bms.remainEnergyWh
  | .pvTotalPowerW => .number snap.energy.pvTotalPowerW
  | .acActivePowerW => .number snap.energy.acActivePowerW
  | .smartMeterPowerW => .number snap.energy.smartMeterPowerW
  | .batteryPowerW => .number snap.energy.batteryPowerW
  | .totalChargeKwh => .number snap.energy.totalChargeKwh
  | .totalChargeTodayKwh => .number snap.energy.totalChargeTodayKwh
  | .totalDischargeKwh => .number snap.energy.totalDischargeKwh
  | .totalDischargeTodayKwh => .number snap.energy.totalDischargeTodayKwh
  | .totalFeederKwh => .number snap.energy.totalFeederKwh
  | .totalFeederTodayKwh => .number snap.energy.totalFeederTodayKwh
  | .totalConsumptionKwh => .number snap.energy.totalConsumptionKwh
  | .totalConsumptionTodayKwh => .number snap.energy.totalConsumptionTodayKwh
  | .totalOutputKwh => .number snap.energy.totalOutputKwh
  | .totalOutputTodayKwh => .number snap.energy.totalOutputTodayKwh
  | .totalLoadKwh => .number snap.energy.totalLoadKwh
  | .totalLoadTodayKwh => .number snap.energy.totalLoadTodayKwh

/-- The read whose result the field is assigned from. -/
def read : Field → RegRead
  | .protocolVersion => .u32 Reg.protocolVersion
  | .modelName => .string Reg.modelName2 16
  | .serialNumber => .string Reg.pn 16
  | .modelId => .u16 Reg.modelId
  | .numStrings => .u16 Reg.numStrings
  | .numMppt => .u16 Reg.numMppt
  | .ratedPowerKw => .i32 Reg.ratedPower
  | .maxActiveKw => .i32 Reg.maxActive
  | .maxApparentKva => .i32 Reg.maxApparent
  | .maxReactiveNegKvar => .i32 Reg.maxReactiveNeg
  | .status1 => .u16 Reg.status1
  | .status3 => .u32 Reg.status3
  | .alarm1 => .u16 Reg.alarm1
  | .alarm2 => .u16 Reg.alarm2
  | .meter1Connected => .u16 Reg.meter1Conn
  | .meter1RVoltage => .i32 Reg.meter1RVoltage
  | .meter1SVoltage => .i32 Reg.meter1SVoltage
  | .meter1TVoltage => .i32 Reg.meter1TVoltage
  | .meter1RCurrent => .i32 Reg.meter1RCurrent
  | .meter1SCurrent => .i32 Reg.meter1SCurrent
  | .meter1TCurrent => .i32 Reg.meter1TCurrent
  | .meter1RActivePower => .i32 Reg.meter1RPower
  | .meter1SActivePower => .i32 Reg.meter1SPower
  | .meter1TActivePower => .i32 Reg.meter1TPower
  | .meter1CombinedActivePower => .i32 Reg.meter1CombinedPower
  | .meter1Frequency => .i32 Reg.meter1Freq
  | .meter2Connected => .u16 Reg.meter2Conn
  | .meter2RVoltage => .i32 Reg.meter2RVoltage
  | .meter2SVoltage => .i32 Reg.meter2SVoltage
  | .meter2TVoltage => .i32 Reg.meter2TVoltage
  | .meter2RCurrent => .i32 Reg.meter2RCurrent
  | .meter2SCurrent => .i32 Reg.meter2SCurrent
  | .meter2TCurrent => .i32 Reg.meter2TCurrent
  | .meter2CombinedActivePower => .i32 Reg.meter2CombinedPower
  | .meter2Frequency => .i32 Reg.meter2Freq
  | .bmsOnline => .u16 Reg.bms1
  | .bmsMainControl => .u16 Reg.bms1Main
  | .bmsSn => .string Reg.bms1Sn 16
  | .bmsSlaveCount => .u16 Reg.bms1SlaveCount
  | .bmsVoltage => .u16 Reg.bms1Voltage
  | .bmsCurrent => .i16 Reg.bms1Current
  | .bmsTemperature => .i16 Reg.bms1Temp
  | .bmsSoc => .u16 Reg.bms1Soc
  | .bmsMaxTemperature => .i16 Reg.bms1MaxTemp
  | .bmsMinTemperature => .i16 Reg.bms1MinTemp
  | .bmsMaxCellVoltage => .u16 Reg.bms1MaxCell
  | .bmsMinCellVoltage => .u16 Reg.bms1MinCell
  | .bmsSoh => .u16 Reg.bms1Soh
  | .bmsRemainEnergyWh => .u16 Reg.bms1RemainEnergy
  | .pvTotalPowerW => .i32 Reg.pvTotalPower
  | .acActivePowerW => .i32 Reg.acTotalPower
  | .smartMeterPowerW => .i32 Reg.smartMeterPower
  | .batteryPowerW => .i32 Reg.batteryPower
  | .totalChargeKwh => .u32 Reg.totalChargeCap
  | .totalChargeTodayKwh => .u32 Reg.totalChargeToday
  | .totalDischargeKwh => .u32 Reg.totalDischarge
  | .totalDischargeTodayKwh => .u32 Reg.totalDischargeToday
  | .totalFeederKwh => .u32 Reg.totalFeeder
  | .totalFeederTodayKwh => .u32 Reg.totalFeederToday
  | .totalConsumptionKwh => .u32 Reg.totalConsumption
  | .totalConsumptionTodayKwh => .u32 Reg.totalConsumptionToday
  | .totalOutputKwh => .u32 Reg.totalOutput
  | .totalOutputTodayKwh => .u32 Reg.totalOutputToday
  | .totalLoadKwh => .u32 Reg.totalLoad
  | .totalLoadTodayKwh => .u32 Reg.totalLoadToday

/-- The registers read into `uval` by `readMeterData`, in order. -/
def meterWords : List UInt16 := [Reg.meter1Conn, Reg.meter2Conn]

/-- The registers read into `ival` by `readMeterData`. -/
def meterLongs : List UInt16 :=
  [Reg.meter1RVoltage, Reg.meter1SVoltage, Reg.meter1TVoltage, Reg.meter1RCurrent,
   Reg.meter1SCurrent, Reg.meter1TCurrent, Reg.meter1RPower, Reg.meter1SPower,
   Reg.meter1TPower, Reg.meter1CombinedPower, Reg.meter1Freq, Reg.meter2RVoltage,
   Reg.meter2SVoltage, Reg.meter2TVoltage, Reg.meter2RCurrent, Reg.meter2SCurrent,
   Reg.meter2TCurrent, Reg.meter2CombinedPower, Reg.meter2Freq]

/-- The registers read into `uval` by `readBatteryData`. -/
def batteryWords : List UInt16 :=
  [Reg.bms1, Reg.bms1Main, Reg.bms1SlaveCount, Reg.bms1Voltage, Reg.bms1Soc, Reg.bms1MaxCell,
   Reg.bms1MinCell, Reg.bms1Soh, Reg.bms1RemainEnergy]

/-- The registers read into `ival` by `readBatteryData`. -/
def batteryShorts : List UInt16 :=
  [Reg.bms1Current, Reg.bms1Temp, Reg.bms1MaxTemp, Reg.bms1MinTemp]

/-- The registers read, in order, into the variable the field is taken from; empty
where the assignment is skipped or the field itself is the variable. -/
def scratch : Field → List UInt16
  | .meter1Connected | .meter2Connected => meterWords
  | .meter1RVoltage | .meter1SVoltage | .meter1TVoltage | .meter1RCurrent | .meter1SCurrent
  | .meter1TCurrent | .meter1RActivePower | .meter1SActivePower | .meter1TActivePower
  | .meter1CombinedActivePower | .meter1Frequency | .meter2RVoltage | .meter2SVoltage
  | .meter2TVoltage | .meter2RCurrent | .meter2SCurrent | .meter2TCurrent
  | .meter2CombinedActivePower | .meter2Frequency => meterLongs
  | .bmsOnline | .bmsMainControl | .bmsSlaveCount | .bmsVoltage | .bmsSoc | .bmsMaxCellVoltage
  | .bmsMinCellVoltage | .bmsSoh | .bmsRemainEnergyWh => batteryWords
  | .bmsCurrent | .bmsTemperature | .bmsMaxTemperature | .bmsMinTemperature => batteryShorts
  | _ => []

/-- The documented divisor of the raw register value. -/
def scale : Field → ℚ
  | .meter1RVoltage | .meter1SVoltage | .meter1TVoltage | .meter1RActivePower
  | .meter1SActivePower | .meter1TActivePower | .meter1CombinedActivePower | .meter2RVoltage
  | .meter2SVoltage | .meter2TVoltage | .meter2CombinedActivePower | .bmsVoltage | .bmsCurrent
  | .bmsTemperature | .bmsMaxTemperature | .bmsMinTemperature | .totalChargeKwh
  | .totalChargeTodayKwh | .totalDischargeKwh | .totalDischargeTodayKwh | .totalFeederKwh
  | .totalFeederTodayKwh | .totalConsumptionKwh | .totalConsumptionTodayKwh | .totalOutputKwh
  | .totalOutputTodayKwh | .totalLoadKwh | .totalLoadTodayKwh => 10
  | .meter1Frequency | .meter2Frequency => 100
  | .ratedPowerKw | .maxActiveKw | .maxApparentKva | .maxReactiveNegKvar | .meter1RCurrent
  | .meter1SCurrent | .meter1TCurrent | .meter2RCurrent | .meter2SCurrent | .meter2TCurrent =>
      1000
  | .bmsRemainEnergyWh => 1 / 10
  | _ => 1

/-- How a raw number appears in the field. -/
def shown (f : Field) (raw : ℤ) : FieldValue :=
  match f with
  | .meter1Connected | .meter2Connected => .flag (raw == 1)
  | .protocolVersion => .number (raw % 65536 : ℤ)
  | f => .number (raw / f.scale)

/-- The reads made into the field's variable before its own, the last one first. -/
def earlier (f : Field) : List UInt16 :=
  (f.scratch.takeWhile (fun a => a ≠ f.read.addr)).reverse

end Field

/-- What a variable holds after reads that may fail, the last one first. -/
def lastRead {α : Type} (get : UInt16 → Option α) : List UInt16 → α → α
  | [], init => init
  | a :: rest, init => (get a).getD (lastRead get rest init)

namespace Field

/-- The number the field's variable holds when the field is assigned. -/
def raw (o : Outcomes) (s3 : UInt32) (f : Field) : ℤ :=
  match f.read with
  | .u16 a => (lastRead (fun b => o (.u16 b)) (a :: f.earlier) 0).toNat
  | .i16 a => (lastRead (fun b => o (.i16 b)) (a :: f.earlier) 0).toInt
  | .u32 a => (lastRead (fun b => o (.u32 b)) (a :: f.earlier)
      (if f = .status3 then s3 else 0)).toNat
  | .i32 a => (lastRead (fun b => o (.i32 b)) (a :: f.earlier) 0).toInt
  | .string _ _ => 0

def fetched (o : Outcomes) (s3 : UInt32) (f : Field) : FieldValue :=
  match f.read with
  | .string a n => .text ((o (.string a n)).getD [])
  | _ => f.shown (f.raw o s3)

private theorem plain_nat (n : ℕ) : FieldValue.number n = .number (((n : ℤ) : ℚ) / 1) := by
  rw [Int.cast_natCast, div_one]

private theorem scaled_nat (n : ℕ) (d : ℚ) :
    FieldValue.number ((n : ℚ) / d) = .number (((n : ℤ) : ℚ) / d) := by
  rw [Int.cast_natCast]

private theorem flag_eq_one (w : UInt16) :
    FieldValue.flag (w == 1) = .flag ((w.toNat : ℤ) == 1) := by
  congr 1
  rw [Bool.eq_iff_iff, beq_iff_eq, beq_iff_eq, ← UInt16.toNat_inj]
  exact (Nat.cast_inj (R := ℤ)).symm

private theorem guarded_plain (x : Option Int32) :
    FieldValue.number (if x.isSome then ((x.getD 0).toInt : ℚ) else 0) =
      .number (((x.getD 0).toInt : ℚ) / 1) := by
  cases x <;> simp

private theorem guarded_int (x : Option Int32) (v : Int32) (d : ℚ) :
    FieldValue.number (if x.isSome then ((x.getD v).toInt : ℚ) / d else 0) =
      .number (((x.getD 0).toInt : ℚ) / d) := by
  cases x <;> simp

private theorem guarded_nat (x : Option UInt32) (v : UInt32) (d : ℚ) :
    FieldValue.number (if x.isSome then ((x.getD v).toNat : ℚ) / d else 0) =
      .number ((((x.getD 0).toNat : ℤ) : ℚ) / d) := by
  cases x <;> simp

private theorem guarded_narrow (x : Option UInt32) (v : UInt32) :
    FieldValue.number ((if x.isSome then (x.getD v).toUInt16 else 0).toNat : ℕ) =
      .number ((((x.getD 0).toNat : ℤ) % 65536 : ℤ) : ℚ) := by
  cases x with
  | none => rfl
  | some w =>
    simp only [Option.isSome_some, if_true, Option.getD_some, UInt32.toNat_toUInt16]
    norm_cast

theorem value_fetch (o : Outcomes) (now : ℤ) (val s3 : UInt32) (f : Field) :
    f.value ((Impl.fetchSnapshot now val s3).answer o) = f.fetched o s3 := by
  cases f
  case protocolVersion => exact guarded_narrow _ _
  case modelName | serialNumber | meter1RVoltage | meter1SVoltage | meter1TVoltage |
      meter1RCurrent | meter1SCurrent | meter1TCurrent | meter1RActivePower |
      meter1SActivePower | meter1TActivePower | meter1CombinedActivePower | meter1Frequency |
      meter2RVoltage | meter2SVoltage | meter2TVoltage | meter2RCurrent | meter2SCurrent |
      meter2TCurrent | meter2CombinedActivePower | meter2Frequency | bmsSn | bmsCurrent |
      bmsTemperature | bmsMaxTemperature | bmsMinTemperature => rfl
  case modelId | numStrings | numMppt | status1 | status3 | alarm1 | alarm2 | bmsOnline |
      bmsMainControl | bmsSlaveCount | bmsSoc | bmsMaxCellVoltage | bmsMinCellVoltage | bmsSoh =>
    exact plain_nat _
  case ratedPowerKw | maxActiveKw | maxApparentKva | maxReactiveNegKvar =>
    exact guarded_int _ _ _
  case meter1Connected | meter2Connected => exact flag_eq_one _
  case bmsVoltage | bmsRemainEnergyWh => exact scaled_nat _ _
  case pvTotalPowerW | acActivePowerW | smartMeterPowerW | batteryPowerW => exact guarded_plain _
  case totalChargeKwh | totalChargeTodayKwh | totalDischargeKwh | totalDischargeTodayKwh |
      totalFeederKwh | totalFeederTodayKwh | totalConsumptionKwh | totalConsumptionTodayKwh |
      totalOutputKwh | totalOutputTodayKwh | totalLoadKwh | totalLoadTodayKwh =>
    exact guarded_nat _ _ _

theorem asks_fetch (now : ℤ) (val s3 : UInt32) :
    Dialogue.Asks (Impl.fetchSnapshot now val s3) (all.map read) := by
  repeat refine .ask _ (fun _ => ?_)
  exact .done _

theorem reads_nodup : (all.map read).Nodup := by
  decide +kernel

end Field

/-- A finished fetch over any socket is the fetch from a table of outcomes, and
the table holds the outcome each field's read had on the socket. -/
theorem fetchOver_outcomes {σ : Type} (sock : Socket σ) (client : Client) (now : ℤ)
    (val s3 : UInt32) {net net' : σ} {snap : DeviceSnapshot} {device' : SolakonDevice}
    (hrun : SolakonDevice.fetchOver sock ⟨some client⟩ now val s3 net =
      some (snap, device', net')) :
    ∃ o : Outcomes, (Impl.fetchSnapshot now val s3).answer o = snap ∧
      (Impl.fetchSnapshot now val s3).transcript (RegRead.perform sock) ⟨client, net⟩ =
        (Field.all.map Field.read).map (fun r => ⟨r, o r⟩) := by
  obtain ⟨⟨snap', link'⟩, hfetch, heq⟩ := Option.map_eq_some_iff.mp hrun
  obtain ⟨rfl, _⟩ := Prod.mk.inj heq
  obtain ⟨o, _, hanswer, htranscript⟩ := Dialogue.exists_table
    (Field.asks_fetch now val s3) Field.reads_nodup (fun _ => none) hfetch
  exact ⟨o, hanswer, htranscript⟩

def bankOutcomes (bank : Bank) : Outcomes := fun r => some (meaning bank r)

theorem read_quantity (f : Field) : 1 ≤ f.read.quantity.toNat ∧ f.read.quantity.toNat ≤ 125 := by
  cases f <;> decide

/-- From a prompt server that holds one bank and refuses nothing, a fetch over
the socket is the fetch from that bank, and it leaves the wire drained. -/
theorem fetchOver_bank (p : Peer) (bank : Bank) (client : Client) (now : ℤ) (val s3 : UInt32)
    (w : Wire) (hclean : w.outstanding = []) (hprompt : ∀ j, p.schedule j ≠ none)
    (hbank : ∀ k, p.bank k = bank) (hserves : ∀ k, p.refuses k = none) :
    ∃ device' w', SolakonDevice.fetchOver p.socket ⟨some client⟩ now val s3 w =
        some ((Impl.fetchSnapshot now val s3).answer (bankOutcomes bank), device', w') ∧
      w'.outstanding = [] := by
  have hatomic : ∀ k r, p.atomicRead k r = p.atomicRead 0 r := by
    intro k r
    simp only [Peer.atomicRead, Peer.Grants, hbank, hserves]
  have hstep : ∀ (r : RegRead) (link : Link Wire), link.net.outstanding = [] →
      ∃ link', r.perform p.socket link = some (p.atomicRead 0 r, link') ∧
        link'.net.outstanding = [] := by
    intro r link hlink
    obtain ⟨outcome, link', hperform, hsettled⟩ := perform_drained p r link hlink
    rcases hsettled.settled with ⟨hout, hdrain⟩ | ⟨_, j, _, _, hnone⟩
    · exact ⟨link', by rw [hperform, hout, hatomic], hdrain⟩
    · exact absurd hnone (hprompt j)
  obtain ⟨link', hfetch, hdrain⟩ := Dialogue.runWith_table hstep
    (Impl.fetchSnapshot now val s3) ⟨client, w⟩ hclean
  have hsame : (Impl.fetchSnapshot now val s3).answer (p.atomicRead 0) =
      (Impl.fetchSnapshot now val s3).answer (bankOutcomes bank) := by
    refine Dialogue.answer_congr (Field.asks_fetch now val s3) ?_
    intro r hr
    obtain ⟨f, _, rfl⟩ := List.mem_map.mp hr
    rw [Peer.atomicRead, if_pos ⟨hserves 0, read_quantity f⟩, hbank, bankOutcomes]
  refine ⟨⟨some link'.client⟩, link'.net, ?_, hdrain⟩
  simp only [SolakonDevice.fetchOver, hfetch, hsame, Option.map_some]

/-- The number a read's value stands for; a string stands for none. -/
def rawNumber : (r : RegRead) → r.Value → ℤ
  | .u16 _, v => v.toNat
  | .i16 _, v => v.toInt
  | .u32 _, v => v.toNat
  | .i32 _, v => v.toInt
  | .string _ _, _ => 0

/-- The read of the same type at another address. -/
def sameTypeAt (b : UInt16) : RegRead → RegRead
  | .u16 _ => .u16 b
  | .i16 _ => .i16 b
  | .u32 _ => .u32 b
  | .i32 _ => .i32 b
  | .string _ n => .string b n

def rawOutcome (o : Outcomes) (r : RegRead) : Option ℤ := (o r).map (rawNumber r)

theorem lastRead_eq {α : Type} (toRaw : α → ℤ) (get : UInt16 → Option α) (addrs : List UInt16)
    (init : α) :
    toRaw (lastRead get addrs init) =
      (addrs.findSome? (fun a => (get a).map toRaw)).getD (toRaw init) := by
  induction addrs with
  | nil => rfl
  | cons a rest ih =>
    cases hget : get a with
    | none => simp only [lastRead, hget, Option.getD_none, List.findSome?_cons, Option.map_none, ih]
    | some v => simp only [lastRead, hget, Option.getD_some, List.findSome?_cons, Option.map_some]

namespace Field

/-- The number the field's variable still holds from the reads before the field's own. -/
def leftover (o : Outcomes) (f : Field) : Option ℤ :=
  f.earlier.findSome? (fun b => rawOutcome o (sameTypeAt b f.read))

/-- The number in the field's variable before any read. -/
def initial (s3 : UInt32) (f : Field) : ℤ := if f = .status3 then s3.toNat else 0

private theorem lastRead_cons {α : Type} (toRaw : α → ℤ) (get : UInt16 → Option α) (a : UInt16)
    (rest : List UInt16) (init : α) :
    toRaw (lastRead get (a :: rest) init) = ((get a).map toRaw).getD
      ((rest.findSome? (fun b => (get b).map toRaw)).getD (toRaw init)) := by
  rw [← lastRead_eq, lastRead]
  cases get a <;> rfl

/-- Only the variable behind `status3` starts indeterminate. -/
theorem initial_eq_zero (s3 : UInt32) (f : Field) (hread : ∀ a, f.read ≠ .u32 a) :
    f.initial s3 = 0 := by
  apply if_neg
  intro hs
  subst hs
  exact hread Reg.status3 rfl

theorem raw_eq (o : Outcomes) (s3 : UInt32) (f : Field) (htext : ∀ a n, f.read ≠ .string a n) :
    f.raw o s3 = (rawOutcome o f.read).getD ((f.leftover o).getD (f.initial s3)) := by
  have hinitial := initial_eq_zero s3 f
  unfold raw leftover
  generalize f.earlier = rest
  cases hr : f.read with
  | u16 a =>
    rw [hinitial (fun b => by simp [hr])]
    exact lastRead_cons (fun v : UInt16 => (v.toNat : ℤ)) (fun b => o (.u16 b)) a rest 0
  | i16 a =>
    rw [hinitial (fun b => by simp [hr])]
    exact lastRead_cons (fun v : Int16 => v.toInt) (fun b => o (.i16 b)) a rest 0
  | u32 a =>
    refine (lastRead_cons (fun v : UInt32 => (v.toNat : ℤ)) (fun b => o (.u32 b)) a rest _).trans ?_
    by_cases hs : f = .status3
    · simp only [initial, hs, if_true]
      rfl
    · simp only [initial, hs, if_false]
      rfl
  | i32 a =>
    rw [hinitial (fun b => by simp [hr])]
    exact lastRead_cons (fun v : Int32 => v.toInt) (fun b => o (.i32 b)) a rest 0
  | string a n => exact absurd hr (htext a n)

theorem default_value (f : Field) :
    f.value {} = match f.read with
      | .string _ _ => .text []
      | _ => f.shown 0 := by
  have hall : ∀ g ∈ all, g.value {} = match g.read with
      | .string _ _ => .text []
      | _ => g.shown 0 := by
    decide +kernel
  exact hall f (mem_all f)

/-- How the value of a read appears in the field. -/
def present (f : Field) : (r : RegRead) → r.Value → FieldValue
  | .string _ _, v => .text v
  | r, v => f.shown (rawNumber r v)

theorem fetched_some {o : Outcomes} {f : Field} {r : RegRead} {v : r.Value} (s3 : UInt32)
    (hr : f.read = r) (h : o r = some v) : f.fetched o s3 = f.present r v := by
  have hraw : (∀ a n, f.read ≠ .string a n) → f.raw o s3 = rawNumber r v := by
    intro htext
    rw [raw_eq o s3 f htext, hr, rawOutcome, h, Option.map_some, Option.getD_some]
  cases r with
  | string a n => simp only [fetched, hr, h, Option.getD_some, present]
  | _ =>
    rw [fetched, hraw (by simp [hr]), hr]
    rfl

theorem fetched_none {o : Outcomes} {f : Field} (s3 : UInt32) (h : o f.read = none) :
    f.fetched o s3 = match f.read with
      | .string _ _ => .text []
      | _ => f.shown ((f.leftover o).getD (f.initial s3)) := by
  have hraw : (∀ a n, f.read ≠ .string a n) →
      f.raw o s3 = (f.leftover o).getD (f.initial s3) := by
    intro htext
    rw [raw_eq o s3 f htext, rawOutcome, h, Option.map_none, Option.getD_none]
  cases hr : f.read with
  | string a n =>
    rw [hr] at h
    simp only [fetched, hr, h, Option.getD_none]
  | _ => simp only [fetched, hr, hraw (by simp [hr])]

end Field

end SolakonMonitor.SnapshotFields
