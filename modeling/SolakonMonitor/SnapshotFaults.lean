import SolakonMonitor.SnapshotFields

/-!
Fetches with failing reads.
The valid flag of a snapshot says nothing about the reads: over whole polling
runs it is trustworthy only where no read fails. A field whose own read fails
keeps its default exactly when the variable it is assigned from holds nothing
visible from an earlier read; this settles when two fetches isolate their fields.
-/
namespace SolakonMonitor.SnapshotFaults

open BigEndian ModbusClient Device SnapshotFields

/-- One pass of the polling loop: the clock, the indeterminate locals, and the
outcomes of its reads. -/
structure Fetch where
  now : ℤ
  val : UInt32
  s3 : UInt32
  outcomes : Outcomes

def Fetch.snapshot (p : Fetch) (device : SolakonDevice) : DeviceSnapshot :=
  (device.fetchSnapshot p.now p.val p.s3).answer p.outcomes

def pollLoop {σ : Type} (sock : Socket σ) : SolakonDevice → List (ℤ × UInt32 × UInt32) → σ →
    Option (List DeviceSnapshot × SolakonDevice × σ)
  | device, [], net => some ([], device, net)
  | device, (now, val, s3) :: rest, net => do
      let (snap, device, net) ← device.fetchOver sock now val s3 net
      let (snaps, device, net) ← pollLoop sock device rest net
      return (snap :: snaps, device, net)

/-- One pass over a socket is a fetch from a table of outcomes, and a connected
device stays connected. -/
theorem fetchOver_fetch {σ : Type} (sock : Socket σ) {device device' : SolakonDevice} {now : ℤ}
    {val s3 : UInt32} {net net' : σ} {snap : DeviceSnapshot}
    (hrun : device.fetchOver sock now val s3 net = some (snap, device', net')) :
    (∃ o : Outcomes, snap = (Fetch.mk now val s3 o).snapshot device) ∧
      device'.impl.isSome = device.impl.isSome := by
  cases himpl : device.impl with
  | none =>
    simp only [SolakonDevice.fetchOver, himpl, Option.some.injEq, Prod.mk.injEq] at hrun
    obtain ⟨rfl, rfl, rfl⟩ := hrun
    refine ⟨⟨fun _ => none, ?_⟩, by rw [himpl]⟩
    simp only [Fetch.snapshot, SolakonDevice.fetchSnapshot, himpl, Dialogue.pure_eq_done,
      Dialogue.answer_done]
  | some client =>
    have hdevice : device = ⟨some client⟩ := by rw [← himpl]
    subst hdevice
    obtain ⟨o, hanswer, _⟩ := fetchOver_outcomes sock client now val s3 hrun
    refine ⟨⟨o, hanswer.symm⟩, ?_⟩
    obtain ⟨_, _, heq⟩ := Option.map_eq_some_iff.mp hrun
    rw [← (Prod.mk.inj (Prod.mk.inj heq).2).1]
    rfl

theorem snapshot_congr {device device' : SolakonDevice} (p : Fetch)
    (h : device'.impl.isSome = device.impl.isSome) : p.snapshot device' = p.snapshot device := by
  obtain ⟨impl⟩ := device
  obtain ⟨impl'⟩ := device'
  cases impl <;> cases impl' <;> first | rfl | cases h

/-- A finished polling run over any socket is a list of fetches from tables. -/
theorem pollLoop_fetches {σ : Type} (sock : Socket σ) (ticks : List (ℤ × UInt32 × UInt32))
    {device device' : SolakonDevice} {net net' : σ} {snaps : List DeviceSnapshot}
    (hrun : pollLoop sock device ticks net = some (snaps, device', net')) :
    ∃ fetches : List Fetch, fetches.map (fun p => (p.now, p.val, p.s3)) = ticks ∧
      snaps = fetches.map (fun p => p.snapshot device) := by
  induction ticks generalizing device net snaps with
  | nil =>
    simp only [pollLoop, Option.some.injEq, Prod.mk.injEq] at hrun
    exact ⟨[], rfl, hrun.1.symm⟩
  | cons tick rest ih =>
    obtain ⟨now, val, s3⟩ := tick
    simp only [pollLoop, Option.bind_eq_bind, Option.bind_eq_some_iff] at hrun
    obtain ⟨⟨snap, device₁, net₁⟩, hfetch, ⟨later, device₂, net₂⟩, hrest, heq⟩ := hrun
    simp only [Option.pure_def, Option.some.injEq, Prod.mk.injEq] at heq
    obtain ⟨rfl, rfl, rfl⟩ := heq
    obtain ⟨⟨o, hsnap⟩, hsome⟩ := fetchOver_fetch sock hfetch
    obtain ⟨fetches, hticks, hsnaps⟩ := ih hrest
    refine ⟨⟨now, val, s3, o⟩ :: fetches, by rw [List.map_cons, hticks], ?_⟩
    rw [hsnaps, List.map_cons, hsnap]
    congr 1
    exact List.map_congr_left (fun p _ => snapshot_congr p hsome)

/-- Marked valid, a snapshot holds only fields whose read succeeded. -/
def Sound (o : Outcomes) (snap : DeviceSnapshot) : Prop :=
  snap.valid = true → ∀ f : Field, o f.read ≠ none

theorem snapshot_valid (p : Fetch) (device : SolakonDevice) :
    (p.snapshot device).valid = device.impl.isSome := by
  obtain ⟨_ | client⟩ := device <;> rfl

/-- Whatever the reads of a run meet, the flag of its snapshots says whether `connect` was called
before it. -/
theorem pollLoop_valid {σ : Type} (sock : Socket σ) (ticks : List (ℤ × UInt32 × UInt32))
    {device device' : SolakonDevice} {net net' : σ} {snaps : List DeviceSnapshot}
    (hrun : pollLoop sock device ticks net = some (snaps, device', net')) :
    ∀ snap ∈ snaps, snap.valid = device.impl.isSome := by
  obtain ⟨fetches, _, hsnaps⟩ := pollLoop_fetches sock ticks hrun
  rw [hsnaps]
  intro snap hsnap
  obtain ⟨p, _, rfl⟩ := List.mem_map.mp hsnap
  exact snapshot_valid p device

/-- A polling run marks only sound snapshots valid exactly when the device was
never connected or no read of the run fails. -/
theorem polling_sound_iff (device : SolakonDevice) (fetches : List Fetch) :
    (∀ p ∈ fetches, Sound p.outcomes (p.snapshot device)) ↔
      device.impl = none ∨ ∀ p ∈ fetches, ∀ f : Field, p.outcomes f.read ≠ none := by
  constructor
  · intro hsound
    cases himpl : device.impl with
    | none => exact Or.inl rfl
    | some client =>
      refine Or.inr (fun p hp => hsound p hp ?_)
      rw [snapshot_valid, himpl, Option.isSome_some]
  · intro hcondition p hp
    rcases hcondition with hnone | hall
    · intro hvalid
      rw [snapshot_valid, hnone] at hvalid
      cases hvalid
    · exact fun _ => hall p hp

/-- Every read of a fetch over a dead connection fails, and the snapshot is valid. -/
theorem polling_unsound_dead_connection :
    ¬ ∀ p ∈ [Fetch.mk 0 0 0 (fun _ => none)], Sound p.outcomes (p.snapshot ⟨some {}⟩) := by
  intro hsound
  exact hsound _ List.mem_cons_self rfl .status1 rfl

/-- The leftover number shows in the field as its default does. -/
def Blank (f : Field) (n : ℤ) : Prop :=
  match f with
  | .meter1Connected | .meter2Connected => n ≠ 1
  | _ => n = 0

/-- What a failed read of the field leaves in it is the default: nothing visible
is left over, and the field is not taken from an indeterminate variable. -/
def Harmless (o : Outcomes) (f : Field) : Prop :=
  f ≠ .status3 ∧ Blank f ((f.leftover o).getD 0)

theorem scale_ne_zero (f : Field) : f.scale ≠ 0 := by
  have hall : ∀ g ∈ Field.all, g.scale ≠ 0 := by
    decide +kernel
  exact hall f f.mem_all

theorem shown_eq_zero_iff (f : Field) (n : ℤ) (hf : f ≠ .protocolVersion) :
    f.shown n = f.shown 0 ↔ Blank f n := by
  have hflag : FieldValue.flag (n == 1) = .flag ((0 : ℤ) == 1) ↔ n ≠ 1 := by
    rw [FieldValue.flag.injEq, Bool.eq_iff_iff, beq_iff_eq, beq_iff_eq]
    omega
  have hnumber : FieldValue.number (n / f.scale) = .number (((0 : ℤ) : ℚ) / f.scale) ↔ n = 0 := by
    rw [FieldValue.number.injEq, div_left_inj' (scale_ne_zero f), Int.cast_inj]
  cases f
  case protocolVersion => exact absurd rfl hf
  case meter1Connected | meter2Connected => exact hflag
  all_goals exact hnumber

/-- Strings and the protocol version are read straight into their own variable. -/
theorem leftover_eq_none (o : Outcomes) (f : Field)
    (hf : f = .protocolVersion ∨ ∃ a n, f.read = .string a n) : f.leftover o = none := by
  have hscratch : f.scratch = [] := by
    rcases hf with rfl | ⟨a, n, hr⟩
    · rfl
    · cases f <;> first | rfl | cases hr
  rw [Field.leftover, Field.earlier, hscratch]
  rfl

theorem blank_zero (f : Field) : Blank f 0 := by
  cases f <;> first | rfl | exact Int.zero_ne_one

theorem not_harmless_status3 (o : Outcomes) (h : o Field.status3.read = none) :
    ¬ ∀ s3, Field.status3.fetched o s3 = Field.status3.value {} := by
  intro hall
  have hone := hall 1
  have hnone : Field.status3.leftover o = none := rfl
  rw [Field.fetched_none 1 h, Field.default_value, hnone] at hone
  revert hone
  decide +kernel

/-- A failed read leaves the default in its field, whatever the indeterminate
locals hold, exactly when the leftover is harmless. -/
theorem failed_eq_default_iff (o : Outcomes) (f : Field) (h : o f.read = none) :
    (∀ s3, f.fetched o s3 = f.value {}) ↔ Harmless o f := by
  by_cases hs : f = .status3
  · subst hs
    exact iff_of_false (not_harmless_status3 o h) (fun hharmless => hharmless.1 rfl)
  · have hinitial : ∀ s3, f.initial s3 = 0 := fun _ => if_neg hs
    have hown : (∃ a n, f.read = .string a n) ∨ f = .protocolVersion →
        ((∀ s3, f.fetched o s3 = f.value {}) ↔ Harmless o f) := by
      intro hf
      have hnone := leftover_eq_none o f hf.symm
      refine iff_of_true (fun s3 => ?_) ⟨hs, ?_⟩
      · rw [Field.fetched_none s3 h, Field.default_value, hnone, hinitial]
        rfl
      · rw [hnone]
        exact blank_zero f
    by_cases hp : f = .protocolVersion
    · exact hown (Or.inr hp)
    · have hshown : (∀ s3 : UInt32, f.shown ((f.leftover o).getD (f.initial s3)) = f.shown 0) ↔
          Harmless o f := by
        simp only [hinitial, forall_const, shown_eq_zero_iff f _ hp, Harmless, ne_eq, hs,
          not_false_eq_true, true_and]
      cases hr : f.read with
      | string a n => exact hown (Or.inl ⟨a, n, hr⟩)
      | _ => simpa only [Field.fetched_none _ h, Field.default_value, hr] using hshown

/-- Two fetches, whatever their clocks and indeterminate locals, agree on every
field whose own read had one outcome in both, with the default for a failed read. -/
def Isolated (o o' : Outcomes) : Prop :=
  ∀ (now now' : ℤ) (val val' s3 s3' : UInt32) (f : Field), o f.read = o' f.read →
    f.value ((Impl.fetchSnapshot now val s3).answer o) =
        f.value ((Impl.fetchSnapshot now' val' s3').answer o') ∧
      (o f.read = none → f.value ((Impl.fetchSnapshot now val s3).answer o) = f.value {})

/-- Two fetches isolate their fields exactly when every field whose read failed
in both has a harmless leftover in both. -/
theorem isolated_iff (o o' : Outcomes) :
    Isolated o o' ↔ ∀ f : Field, o f.read = none → o' f.read = none →
      Harmless o f ∧ Harmless o' f := by
  constructor
  · intro hiso f hf hf'
    have hsame : ∀ s3 s3', f.fetched o s3 = f.fetched o' s3' ∧ f.fetched o s3 = f.value {} := by
      intro s3 s3'
      obtain ⟨heq, hdefault⟩ := hiso 0 0 0 0 s3 s3' f (hf.trans hf'.symm)
      simp only [Field.value_fetch] at heq hdefault
      exact ⟨heq, hdefault hf⟩
    refine ⟨(failed_eq_default_iff o f hf).mp (fun s3 => (hsame s3 0).2), ?_⟩
    exact (failed_eq_default_iff o' f hf').mp
      (fun s3' => (hsame 0 s3').1.symm.trans (hsame 0 s3').2)
  · intro hharmless now now' val val' s3 s3' f hsame
    rw [Field.value_fetch, Field.value_fetch]
    cases hf : o f.read with
    | none =>
      have hf' : o' f.read = none := hsame.symm.trans hf
      obtain ⟨hleft, hright⟩ := hharmless f hf hf'
      have hdefault := (failed_eq_default_iff o f hf).mpr hleft s3
      have hdefault' := (failed_eq_default_iff o' f hf').mpr hright s3'
      exact ⟨hdefault.trans hdefault'.symm, fun _ => hdefault⟩
    | some v =>
      have hf' : o' f.read = some v := hsame.symm.trans hf
      rw [Field.fetched_some s3 rfl hf, Field.fetched_some s3' rfl hf']
      exact ⟨rfl, fun hnone => by cases hnone⟩

/-- A voltage of meter 1 stays behind in every later field of the meters. -/
theorem not_isolated_meter1RVoltage :
    ¬ Isolated (fun r => match r with
        | .i32 a => if a = Reg.meter1RVoltage then some 2300 else none
        | _ => none)
      (fun _ => none) := by
  intro hiso
  have hvoltage := (hiso 0 0 0 0 0 0 .meter1SVoltage rfl).1
  revert hvoltage
  decide +kernel

end SolakonMonitor.SnapshotFaults
