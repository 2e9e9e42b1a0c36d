import SolakonMonitor.RegisterMap
import SolakonMonitor.TerminalUi

/-!
The two JSON documents of one snapshot, compared.
They have the same keys throughout. A number of the server's, rounded to the decimals
the terminal prints, is the terminal's exactly when its register's value does not need
more than the six digits a stream keeps.
-/
namespace SolakonMonitor.JsonEmitters

open BigEndian DecimalText JsonText Rounding NumberValue Device ModbusSession SnapshotFields
open RegisterMap HttpServer SnapshotServing TerminalUi

mutual

/-- The same keys at every level, and related values under them; the relation gets the
path of keys that leads to the values. -/
def Related (R : List Bytes → Json → Json → Prop) : List Bytes → Json → Json → Prop
  | path, .object members, .object members' => MembersRelated R path members members'
  | path, value, value' => R path value value'

def MembersRelated (R : List Bytes → Json → Json → Prop) :
    List Bytes → List (Bytes × Json) → List (Bytes × Json) → Prop
  | _, [], [] => True
  | path, (key, value) :: rest, (key', value') :: rest' =>
    key = key' ∧ Related R (path ++ [key]) value value' ∧ MembersRelated R path rest rest'
  | _, _, _ => False

end

/-- The first number, rounded to the decimals of the second one, is the second one. The
timestamps are only both numbers. -/
def Agrees : List Bytes → Json → Json → Prop
  | path, .number a, .number b =>
    path = [utf8 "timestamp"] ∨
      Rounds (10 ^ (-decimals b.val : ℤ)) (numberValue a.val) (numberValue b.val)
  | _, .bool a, .bool b => a = b
  | _, _, _ => False

/-- Both texts are JSON documents, and they agree. The clocks may have moved on. -/
def EmittersAgree (now now' : ℤ) (snap : DeviceSnapshot) : Prop :=
  ∃ served shown, readDocument (snapshotToJson now snap) = some served ∧
    readDocument (renderJson now' snap) = some shown ∧ Related Agrees [] served shown

/-- A number in both documents: its field, the decimal places of the field's register and
the decimals the terminal prints. -/
structure Printed where
  field : Field
  places : ℕ
  decimals : ℕ
  deriving DecidableEq

def printed : List Printed :=
  [⟨.smartMeterPowerW, 0, 1⟩, ⟨.acActivePowerW, 0, 1⟩, ⟨.pvTotalPowerW, 0, 1⟩,
   ⟨.batteryPowerW, 0, 1⟩,
   ⟨.totalChargeKwh, 1, 1⟩, ⟨.totalChargeTodayKwh, 1, 1⟩, ⟨.totalDischargeKwh, 1, 1⟩,
   ⟨.totalDischargeTodayKwh, 1, 1⟩, ⟨.totalFeederKwh, 1, 1⟩, ⟨.totalFeederTodayKwh, 1, 1⟩,
   ⟨.totalConsumptionKwh, 1, 1⟩, ⟨.totalConsumptionTodayKwh, 1, 1⟩, ⟨.totalOutputKwh, 1, 1⟩,
   ⟨.totalOutputTodayKwh, 1, 1⟩, ⟨.totalLoadKwh, 1, 1⟩, ⟨.totalLoadTodayKwh, 1, 1⟩,
   ⟨.bmsSoc, 0, 0⟩, ⟨.bmsVoltage, 1, 1⟩, ⟨.bmsCurrent, 1, 1⟩, ⟨.bmsTemperature, 1, 1⟩,
   ⟨.meter1RVoltage, 1, 1⟩, ⟨.meter1RCurrent, 3, 2⟩, ⟨.meter1CombinedActivePower, 1, 1⟩,
   ⟨.meter2RVoltage, 1, 1⟩, ⟨.meter2RCurrent, 3, 2⟩, ⟨.meter2CombinedActivePower, 1, 1⟩]

/-- The number of a field; zero where it is none. -/
def quantityOf (snap : DeviceSnapshot) (f : Field) : ℚ :=
  match f.value snap with
  | .number q => q
  | _ => 0

/-- The integer read from the register needs at most six digits; where the terminal leaves
out its last place, it need only be within five of one that does. -/
def Printed.SixDigits (p : Printed) (raw : ℤ) : Prop :=
  if p.places ≤ p.decimals then Significant 6 (raw : ℚ)
  else ∃ y : ℤ, Significant 6 (y : ℚ) ∧ |raw - y| ≤ 5

/-- What the server writes for a number, rounded, is what the terminal prints. -/
def Printed.Matches (p : Printed) (q : ℚ) : Prop :=
  Rounds (10 ^ (-p.decimals : ℤ)) (numberValue (generalText q))
    (numberValue (fixedText p.decimals q))

theorem agrees_timestamp (a b : NumberText) :
    Agrees [utf8 "timestamp"] (.number a) (.number b) ↔ True :=
  iff_true_intro (Or.inl rfl)

theorem agrees_flag (path : List Bytes) (b : Bool) : Agrees path (.bool b) (.bool b) ↔ True :=
  iff_true_intro rfl

/-- Below the top level every number counts. -/
theorem agrees_quantity (outer key : Bytes) (f : ℕ) (q : ℚ) :
    Agrees [outer, key] (.number ⟨generalText q, isNumber_generalText q⟩)
        (.number ⟨fixedText f q, isNumber_fixedText f q⟩) ↔
      Rounds (10 ^ (-f : ℤ)) (numberValue (generalText q)) (numberValue (fixedText f q)) := by
  rw [Agrees, decimals_fixedText]
  exact or_iff_right (fun h => List.cons_ne_nil _ _ (List.cons.inj h).2)

theorem documents_agree_iff (now now' : ℤ) (snap : DeviceSnapshot) :
    EmittersAgree now now' snap ↔ ∀ p ∈ printed, p.Matches (quantityOf snap p.field) := by
  have hdocuments : EmittersAgree now now' snap ↔
      Related Agrees [] (document (now.tdiv 1000000000) snap)
        (rendered (now'.tdiv 1000000000) snap) := by
    simp only [EmittersAgree, readDocument_snapshotToJson, readDocument_renderJson,
      Option.some.injEq, exists_eq_left', exists_and_left]
  rw [hdocuments]
  -- the keys are equal literals; a quantity's field is looked up by computation
  simp only [document, documentMembers, rendered, renderedMembers, powerMembers, energyMembers,
    batteryMembers, meterMembers, renderedPower, renderedEnergy, renderedBattery, renderedMeter,
    integer, flag, group, quantity, fixed, List.map_cons, List.map_nil, Member.entry, Related,
    MembersRelated, List.nil_append, List.cons_append, agrees_timestamp, agrees_flag,
    agrees_quantity, true_and, and_true, and_assoc]
  simp only [printed, List.forall_mem_cons, List.not_mem_nil, false_implies, implies_true,
    and_true, Printed.Matches, quantityOf, Field.value]

theorem quantityOf_fetch (o : Outcomes) (now : ℤ) (val s3 : UInt32) :
    ∀ p ∈ printed, quantityOf ((Impl.fetchSnapshot now val s3).answer o) p.field =
      (p.field.raw o s3 : ℚ) / 10 ^ p.places := by
  have hscale : ∀ p ∈ printed, p.field.scale = 10 ^ p.places := by
    decide +kernel
  have hshown : ∀ p ∈ printed, p.field.fetched o s3 =
      .number ((p.field.raw o s3 : ℚ) / p.field.scale) := by
    simp only [printed, List.forall_mem_cons, List.not_mem_nil, false_implies, implies_true,
      and_true]
    repeat' constructor
  intro p hp
  rw [quantityOf, Field.value_fetch, hshown p hp, hscale p hp]

theorem matches_iff {p : Printed} (hp : p ∈ printed) (raw : ℤ) :
    p.Matches ((raw : ℚ) / 10 ^ p.places) ↔ p.SixDigits raw := by
  have hplaces : ∀ p ∈ printed, p.places ≤ p.decimals ∨ p.places = p.decimals + 1 := by
    decide
  rw [Printed.Matches, Printed.SixDigits]
  rcases hplaces p hp with hle | heq
  · rw [if_pos hle, general_fixed_exact_iff raw hle]
  · rw [if_neg (by omega), heq, general_fixed_tenth_iff]

/-- For every snapshot a fetch can give, the two documents agree exactly when every
printed register value needs at most six digits, up to what the terminal leaves out. -/
theorem emitters_agree_iff (o : Outcomes) (now now' now'' : ℤ) (val s3 : UInt32) :
    EmittersAgree now' now'' ((Impl.fetchSnapshot now val s3).answer o) ↔
      ∀ p ∈ printed, p.SixDigits (p.field.raw o s3) := by
  rw [documents_agree_iff]
  refine forall₂_congr (fun p hp => ?_)
  rw [quantityOf_fetch o now val s3 p hp, matches_iff hp]

def largeCharge : Bank := fun a => if a = 39605 then 188 else if a = 39606 then 24910 else 0

/-- The server writes 1.23457e+06 where the terminal prints 1234567.8. -/
theorem emitters_large_charge : ¬ EmittersAgree 0 0 (bankSnapshot 0 0 0 largeCharge) := by
  intro h
  have hp : Printed.mk .totalChargeKwh 1 1 ∈ printed := by decide
  have hmatch := (documents_agree_iff 0 0 _).mp h _ hp
  rw [bankSnapshot, quantityOf_fetch _ 0 0 0 _ hp, matches_iff hp] at hmatch
  have hraw : Field.totalChargeKwh.raw (bankOutcomes largeCharge) 0 = 12345678 := by decide
  rw [hraw] at hmatch
  rcases hundred_dvd_of_significant (K := ℚ) hmatch with hzeros | hsmall
  · exact absurd hzeros (by decide)
  · exact absurd hsmall (by decide)

end SolakonMonitor.JsonEmitters
