import SolakonMonitor.MainProgram
import SolakonMonitor.ConfigRoundTrip

/-!
What scan mode leaves in the configuration file.
The settings handed to the writer are built afresh and name no file, so nothing
is written: after a confirmed offer the file holds what it held before, which is
the offered address and port only if they had been there already.
-/
namespace SolakonMonitor.ScanSaving

open BigEndian DecimalText ConfigLoader ConfigRoundTrip MainProgram

theorem saveDiscovered_unchanged (fs : FileSystem) (ip : Bytes) (port : UInt16) (path : Bytes) :
    saveDiscovered fs ip port path = (false, fs) := rfl

/-- With one Solakon among the devices and ports on each of them, its address is offered
with the first port of the device listed first. -/
theorem offered_of_countP {devices : List DiscoveredDevice}
    (hone : devices.countP (fun d => d.isSolakon) = 1) (hports : ∀ d ∈ devices, d.ports ≠ []) :
    ∃ first rest port device, devices = first :: rest ∧ device ∈ devices ∧
      device.isSolakon = true ∧ first.ports.head? = some port ∧
      offered devices = some (some (device.ip, port)) := by
  have hfound : (devices.find? (fun d => d.isSolakon)).isSome := by
    rw [List.find?_isSome, ← List.countP_pos_iff, hone]
    exact Nat.one_pos
  obtain ⟨device, hfind⟩ := Option.isSome_iff_exists.mp hfound
  cases devices with
  | nil => cases hfind
  | cons first rest =>
    obtain ⟨port, ports, hfirst⟩ := List.exists_cons_of_ne_nil (hports first List.mem_cons_self)
    refine ⟨first, rest, port, device, rfl, List.mem_of_find?_eq_some hfind,
      List.find?_some hfind, by rw [hfirst, List.head?_cons], ?_⟩
    rw [offered, if_pos hone, hfind]
    simp only [List.getElem?_cons_zero, hfirst, Option.bind_eq_bind, Option.bind_some,
      Option.pure_def]

/-- The file holds the offer, and every other setting as in `before`. -/
def Stored (fs : FileSystem) (path ip : Bytes) (port : UInt16) (before : Settings) : Prop :=
  load fs path = .ok { before with host := ip, modbusPort := port }

theorem stored_iff {fs : FileSystem} {before : Settings} (ip : Bytes) (port : UInt16)
    (h : load fs before.configPath = .ok before) :
    Stored fs before.configPath ip port before ↔
      before.host = ip ∧ before.modbusPort = port := by
  constructor
  · intro hstored
    have hsame := Except.ok.inj (h.symm.trans hstored)
    exact ⟨congrArg Settings.host hsame, congrArg Settings.modbusPort hsame⟩
  · intro hsame
    obtain ⟨rfl, rfl⟩ := hsame
    exact h

/-- After scan mode has made an offer and the user confirmed it, the file holds the
offer exactly when it had held that address and port before. -/
theorem scanMode_stored_iff (scan : Scan) (fs : FileSystem) (cfg : Config) (before : Settings)
    (ip : Bytes) (port : UInt16) (hload : load fs cfg.configPath = .ok before)
    (hoffer : offered (scanDevices scan before) = some (some (ip, port))) :
    ∃ fs', scanMode scan fs cfg = .ok (some (0, fs')) ∧
      (Stored fs' before.configPath ip port before ↔
        before.host = ip ∧ before.modbusPort = port) := by
  refine ⟨fs, ?_, stored_iff ip port (load_again hload)⟩
  have hne : scanDevices scan before ≠ [] := by
    intro hnil
    rw [hnil] at hoffer
    cases hoffer
  simp only [scanMode, hload, Except.map, if_neg hne, hoffer, Option.map_some,
    saveDiscovered_unchanged]

def inverter : DiscoveredDevice := ⟨utf8 "192.168.178.121", [502], true⟩

def freshSettings : Settings := { configPath := utf8 "solakon.conf" }

theorem scanMode_stored_iff_fresh :
    ∃ fs', scanMode (fun _ _ _ => [inverter]) emptyDisk { configPath := freshSettings.configPath } =
        .ok (some (0, fs')) ∧
      (Stored fs' freshSettings.configPath inverter.ip 502 freshSettings ↔
        freshSettings.host = inverter.ip ∧ freshSettings.modbusPort = 502) :=
  scanMode_stored_iff (fun _ _ _ => [inverter]) emptyDisk
    { configPath := freshSettings.configPath } freshSettings inverter.ip 502 rfl rfl

/-- The file could be written, the offer is confirmed, and nothing is stored. -/
theorem scanMode_discards_offer :
    (save emptyDisk freshSettings).1 = true ∧
      ∃ fs', scanMode (fun _ _ _ => [inverter]) emptyDisk
          { configPath := freshSettings.configPath } = .ok (some (0, fs')) ∧
        ¬ Stored fs' freshSettings.configPath inverter.ip 502 freshSettings := by
  refine ⟨by decide +kernel, emptyDisk, rfl, ?_⟩
  intro hstored
  have hhost := ((stored_iff inverter.ip 502 rfl).mp hstored).1
  revert hhost
  decide

end SolakonMonitor.ScanSaving
