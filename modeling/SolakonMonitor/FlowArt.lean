import SolakonMonitor.SnapshotFields
import SolakonMonitor.NumberValue
import SolakonMonitor.TerminalScreen
import SolakonMonitor.TextLines

/-!
The directions in the picture of the power flows.
The data model counts power fed into the grid as positive, and power the battery gives. The
picture draws a flow once its reading leaves a band around zero, and then always the opposite
one.
-/
namespace SolakonMonitor.FlowArt

open BigEndian DecimalText Device JsonText NumberValue SnapshotFields TerminalScreen TextLines

inductive Flow where
  | feedIn | consumption | charging | discharging
  deriving DecidableEq, Repr

namespace Flow

/-- What a line says before the power: where it flows from, or what the battery does. -/
def opening : Flow → Bytes
  | .feedIn => utf8 "SM -> +"
  | .consumption => utf8 "NETZ -> +"
  | .charging => utf8 "BATT [Lade +"
  | .discharging => utf8 "BATT [Entl +"

def closing : Flow → Bytes
  | .feedIn => utf8 " -> NETZ"
  | .consumption => utf8 " -> SM"
  | .charging | .discharging => utf8 "] SOC:"

def reading (smart batt : ℚ) : Flow → ℚ
  | .feedIn | .consumption => smart
  | .charging | .discharging => batt

/-- The signs of the data model. -/
def Allowed (r : ℚ) : Flow → Prop
  | .feedIn | .discharging => 0 < r
  | .consumption | .charging => r < 0

/-- The readings for which the picture has the flow. -/
def Drawn (r : ℚ) : Flow → Prop
  | .feedIn => r < -100
  | .consumption => 100 < r
  | .charging => 5 < r
  | .discharging => r < -5

end Flow

/-- A line of the output, apart from the blanks before it. -/
def Prints (out text : Bytes) : Prop :=
  text ∈ (fields 10 out).map (List.dropWhile (fun b => b = 32))

def Shows (out : Bytes) (flow : Flow) (power : Bytes) : Prop :=
  ∃ rest, Prints out (flow.opening ++ power ++ flow.closing ++ rest)

/-- Every flow that is shown has the sign of its reading, and its amount as the power. -/
def FollowsConventions (smart batt : ℚ) (out : Bytes) : Prop :=
  ∀ flow power, Shows out flow power → flow.Allowed (flow.reading smart batt) ∧
    power = formatPower |flow.reading smart batt|

theorem not_mem_fixedText (f : ℕ) (q : ℚ) : (10 : UInt8) ∉ fixedText f q := by
  intro hmem
  exact absurd (bytes_of_isNumber (isNumber_fixedText f q) 10 hmem) (by decide)

theorem not_mem_formatPower (watts : ℚ) : (10 : UInt8) ∉ formatPower watts := by
  rw [formatPower]
  split
  · exact List.not_mem_append (not_mem_fixedText _ _) (by decide)
  · exact List.not_mem_append (not_mem_fixedText _ _) (by decide)

theorem not_mem_socText (soc : ℚ) : (10 : UInt8) ∉ socText soc := by
  intro hmem
  exact absurd (bytes_of_isNumber (isNumber_decimalInt _) 10 hmem) (by decide)

theorem not_mem_around {before after : Bytes} (watts : ℚ) (hbefore : (10 : UInt8) ∉ before)
    (hafter : (10 : UInt8) ∉ after) : (10 : UInt8) ∉ before ++ formatPower watts ++ after :=
  List.not_mem_append (List.not_mem_append hbefore (not_mem_formatPower watts)) hafter

theorem not_mem_pvLine (pv : ℚ) : (10 : UInt8) ∉ pvLine pv := by
  rw [pvLine]
  split
  · exact not_mem_around pv (by decide) (by decide)
  · decide

theorem not_mem_smLine (smartM : ℚ) : (10 : UInt8) ∉ smLine smartM := by
  rw [smLine]
  split
  · exact not_mem_around smartM (by decide) (by decide)
  · split
    · exact not_mem_around (-smartM) (by decide) (by decide)
    · decide

theorem not_mem_battLine (batt soc : ℚ) : (10 : UInt8) ∉ battLine batt soc := by
  have hcharge {before : Bytes} (hbefore : (10 : UInt8) ∉ before) :
      (10 : UInt8) ∉ before ++ socText soc ++ utf8 "%]" :=
    List.not_mem_append (List.not_mem_append hbefore (not_mem_socText soc)) (by decide)
  rw [battLine]
  split
  · exact hcharge (not_mem_around batt (by decide) (by decide))
  · split
    · exact hcharge (not_mem_around (-batt) (by decide) (by decide))
    · exact hcharge (by decide)

theorem not_mem_replicate (n : ℕ) : (10 : UInt8) ∉ List.replicate n 32 := by
  intro hmem
  exact absurd (List.eq_of_mem_replicate hmem) (by decide)

theorem not_mem_padRight {text : Bytes} (width : ℕ) (htext : (10 : UInt8) ∉ text) :
    (10 : UInt8) ∉ padRight width text :=
  List.not_mem_append htext (not_mem_replicate _)

def titleLine (width : ℕ) : Bytes :=
  utf8 "\x1b[36m" ++ padRight width (utf8 "Solakon ONE Monitor - Art Mode") ++ utf8 "\x1b[0m"

def quitLine (width : ℕ) : Bytes :=
  utf8 "\x1b[90m" ++ padRight (width - 16) (utf8 "  [q] Quit") ++ utf8 "\x1b[0m"

theorem not_mem_titleLine (width : ℕ) : (10 : UInt8) ∉ titleLine width :=
  List.not_mem_append (List.not_mem_append (by decide) (not_mem_padRight width (by decide)))
    (by decide)

theorem not_mem_quitLine (width : ℕ) : (10 : UInt8) ∉ quitLine width :=
  List.not_mem_append (List.not_mem_append (by decide)
    (not_mem_padRight (width - 16) (by decide))) (by decide)

theorem not_mem_centred {line : Bytes} (width : ℕ) (hline : (10 : UInt8) ∉ line) :
    (10 : UInt8) ∉ centred width line :=
  List.not_mem_append (not_mem_replicate _) hline

theorem fields_artText (width : ℕ) (snap : DeviceSnapshot) :
    fields 10 (artText width snap) =
      [titleLine width, centred width (pvLine snap.energy.pvTotalPowerW),
        centred width (smLine snap.energy.smartMeterPowerW),
        centred width (battLine snap.energy.batteryPowerW snap.bms.soc), quitLine width] := by
  have hend : utf8 "\x1b[0m\n" = utf8 "\x1b[0m" ++ [10] := by decide
  have hnewline : utf8 "\n" = [10] := by decide
  rw [← fields_flatMap 10 [titleLine width, _, _, _, _]]
  · simp only [artText, titleLine, quitLine, hend, hnewline, List.flatMap_cons, List.flatMap_nil,
      List.append_assoc, List.append_nil]
  · simp only [List.forall_mem_cons]
    exact ⟨not_mem_titleLine width, not_mem_centred width (not_mem_pvLine _),
      not_mem_centred width (not_mem_smLine _), not_mem_centred width (not_mem_battLine _ _),
      not_mem_quitLine width, List.forall_mem_nil _⟩

theorem dropWhile_centred {line : Bytes} (width : ℕ) (hline : ∀ b ∈ line.head?, b ≠ 32) :
    (centred width line).dropWhile (fun b => b = 32) = line := by
  rw [centred, List.dropWhile_append_of_pos, dropWhile_of_head]
  · intro b hb
    exact decide_eq_false (hline b hb)
  · intro b hb
    exact decide_eq_true (List.eq_of_mem_replicate hb)

theorem head_pvLine (pv : ℚ) : (pvLine pv).head? = some 80 := by
  rw [pvLine]
  split <;> rfl

theorem head_smLine (smartM : ℚ) :
    (smLine smartM).head? = some 78 ∨ (smLine smartM).head? = some 83 := by
  rw [smLine]
  split
  · exact Or.inl rfl
  · split
    · exact Or.inr rfl
    · exact Or.inl rfl

theorem head_battLine (batt soc : ℚ) : (battLine batt soc).head? = some 66 := by
  rw [battLine]
  split
  · rfl
  · split <;> rfl

theorem lines_artText (width : ℕ) (snap : DeviceSnapshot) :
    (fields 10 (artText width snap)).map (List.dropWhile (fun b => b = 32)) =
      [titleLine width, pvLine snap.energy.pvTotalPowerW, smLine snap.energy.smartMeterPowerW,
        battLine snap.energy.batteryPowerW snap.bms.soc, quitLine width] := by
  have hpv : ∀ b ∈ (pvLine snap.energy.pvTotalPowerW).head?, b ≠ 32 := by
    rw [head_pvLine]
    simp
  have hsm : ∀ b ∈ (smLine snap.energy.smartMeterPowerW).head?, b ≠ 32 := by
    rcases head_smLine snap.energy.smartMeterPowerW with h | h <;> rw [h] <;> simp
  have hbatt : ∀ b ∈ (battLine snap.energy.batteryPowerW snap.bms.soc).head?, b ≠ 32 := by
    rw [head_battLine]
    simp
  rw [fields_artText]
  simp only [List.map_cons, List.map_nil, dropWhile_centred width hpv,
    dropWhile_centred width hsm, dropWhile_centred width hbatt]
  rfl

theorem prints_artText {width : ℕ} {snap : DeviceSnapshot} {text : Bytes} :
    Prints (artText width snap) text ↔ text = titleLine width ∨
      text = pvLine snap.energy.pvTotalPowerW ∨ text = smLine snap.energy.smartMeterPowerW ∨
      text = battLine snap.energy.batteryPowerW snap.bms.soc ∨ text = quitLine width := by
  rw [Prints, lines_artText]
  simp only [List.mem_cons, List.not_mem_nil, or_false]

/-- As far as both go, the texts are the same. -/
def Agree (a b : Bytes) : Prop := a <+: b ∨ b <+: a

instance (a b : Bytes) : Decidable (Agree a b) := inferInstanceAs (Decidable (_ ∨ _))

theorem agree_of_append {a b x y : Bytes} (h : a ++ x = b ++ y) : Agree a b :=
  List.prefix_or_prefix_of_prefix (List.prefix_append a x) (h ▸ List.prefix_append b y)

theorem eq_of_agree {f g : Flow} (h : Agree f.opening g.opening) : f = g := by
  cases f <;> cases g <;> first | rfl | exact absurd h (by decide)

theorem not_agree_opening (flow : Flow) : ∀ text ∈ [utf8 "\x1b[36m", utf8 "\x1b[90m",
    utf8 "PV -> +", utf8 "PV --- OFF", utf8 "NETZ --- 0W ---", utf8 "BATT [SOC:"],
    ¬ Agree flow.opening text := by
  cases flow <;> decide

theorem drawn_of_smLine {flow : Flow} {smart : ℚ} (batt : ℚ) {rest : Bytes}
    (h : flow.opening ++ rest = smLine smart) : flow.Drawn (flow.reading smart batt) := by
  rw [smLine] at h
  split at h
  · rename_i hlarge
    rw [List.append_assoc] at h
    cases (eq_of_agree (agree_of_append h) : flow = .consumption)
    exact hlarge
  · split at h
    · rename_i hsmall
      rw [List.append_assoc] at h
      cases (eq_of_agree (agree_of_append h) : flow = .feedIn)
      exact hsmall
    · rw [← List.append_nil (utf8 "NETZ --- 0W ---")] at h
      exact absurd (agree_of_append h) (not_agree_opening flow _ (by simp))

theorem drawn_of_battLine {flow : Flow} (smart : ℚ) {batt soc : ℚ} {rest : Bytes}
    (h : flow.opening ++ rest = battLine batt soc) : flow.Drawn (flow.reading smart batt) := by
  have hminus : utf8 "BATT [Entl +-" = utf8 "BATT [Entl +" ++ [45] := by decide
  rw [battLine] at h
  split at h
  · rename_i hlarge
    simp only [List.append_assoc] at h
    cases (eq_of_agree (agree_of_append h) : flow = .charging)
    exact hlarge
  · split at h
    · rename_i hsmall
      simp only [hminus, List.append_assoc] at h
      cases (eq_of_agree (agree_of_append h) : flow = .discharging)
      exact hsmall
    · rw [List.append_assoc] at h
      exact absurd (agree_of_append h) (not_agree_opening flow _ (by simp))

theorem not_pvLine (flow : Flow) (pv : ℚ) (rest : Bytes) : flow.opening ++ rest ≠ pvLine pv := by
  intro h
  rw [pvLine] at h
  split at h
  · rw [List.append_assoc] at h
    exact not_agree_opening flow _ (by simp) (agree_of_append h)
  · rw [← List.append_nil (utf8 "PV --- OFF")] at h
    exact not_agree_opening flow _ (by simp) (agree_of_append h)

/-- The picture has a flow exactly for the readings outside the band. -/
theorem exists_shows_iff (width : ℕ) (snap : DeviceSnapshot) (flow : Flow) :
    (∃ power, Shows (artText width snap) flow power) ↔
      flow.Drawn (flow.reading snap.energy.smartMeterPowerW snap.energy.batteryPowerW) := by
  constructor
  · rintro ⟨power, rest, hprints⟩
    rw [List.append_assoc, List.append_assoc, prints_artText] at hprints
    rcases hprints with h | h | h | h | h
    · rw [titleLine, List.append_assoc] at h
      exact absurd (agree_of_append h) (not_agree_opening flow _ (by simp))
    · exact absurd h (not_pvLine flow _ _)
    · exact drawn_of_smLine _ h
    · exact drawn_of_battLine _ h
    · rw [quitLine, List.append_assoc] at h
      exact absurd (agree_of_append h) (not_agree_opening flow _ (by simp))
  · intro hdrawn
    simp only [Shows, prints_artText]
    cases flow with
    | feedIn =>
      simp only [Flow.Drawn, Flow.reading] at hdrawn
      refine ⟨formatPower (-snap.energy.smartMeterPowerW), [], Or.inr (Or.inr (Or.inl ?_))⟩
      rw [smLine, if_neg (by linarith), if_pos hdrawn, List.append_nil]
      rfl
    | consumption =>
      simp only [Flow.Drawn, Flow.reading] at hdrawn
      refine ⟨formatPower snap.energy.smartMeterPowerW, [], Or.inr (Or.inr (Or.inl ?_))⟩
      rw [smLine, if_pos hdrawn, List.append_nil]
      rfl
    | charging =>
      simp only [Flow.Drawn, Flow.reading] at hdrawn
      refine ⟨formatPower snap.energy.batteryPowerW, socText snap.bms.soc ++ utf8 "%]",
        Or.inr (Or.inr (Or.inr (Or.inl ?_)))⟩
      rw [battLine, if_pos hdrawn]
      simp only [Flow.opening, Flow.closing, List.append_assoc]
    | discharging =>
      -- A minus sign stands between the plus of the line and the power.
      simp only [Flow.Drawn, Flow.reading] at hdrawn
      refine ⟨45 :: formatPower (-snap.energy.batteryPowerW), socText snap.bms.soc ++ utf8 "%]",
        Or.inr (Or.inr (Or.inr (Or.inl ?_)))⟩
      rw [battLine, if_neg (by linarith), if_pos hdrawn]
      simp only [Flow.opening, Flow.closing, List.append_assoc]
      rfl

theorem Flow.not_allowed_of_drawn {flow : Flow} {r : ℚ} (h : flow.Drawn r) :
    ¬ flow.Allowed r := by
  cases flow <;> simp only [Flow.Drawn, Flow.Allowed] at h ⊢ <;> linarith

theorem followsConventions_iff (width : ℕ) (snap : DeviceSnapshot) :
    FollowsConventions snap.energy.smartMeterPowerW snap.energy.batteryPowerW
        (artText width snap) ↔
      ∀ flow : Flow,
        ¬ flow.Drawn (flow.reading snap.energy.smartMeterPowerW snap.energy.batteryPowerW) := by
  constructor
  · intro hfollows flow hdrawn
    obtain ⟨power, hshows⟩ := (exists_shows_iff width snap flow).mpr hdrawn
    exact Flow.not_allowed_of_drawn hdrawn (hfollows flow power hshows).1
  · intro hnone flow power hshows
    exact absurd ((exists_shows_iff width snap flow).mp ⟨power, hshows⟩) (hnone flow)

theorem forall_not_drawn_iff (smart batt : ℚ) :
    (∀ flow : Flow, ¬ flow.Drawn (flow.reading smart batt)) ↔
      (-100 ≤ smart ∧ smart ≤ 100) ∧ -5 ≤ batt ∧ batt ≤ 5 := by
  constructor
  · intro hnone
    exact ⟨⟨not_lt.mp (hnone .feedIn), not_lt.mp (hnone .consumption)⟩,
      not_lt.mp (hnone .discharging), not_lt.mp (hnone .charging)⟩
  · rintro ⟨⟨hfeed, hconsumption⟩, hdischarging, hcharging⟩ flow
    cases flow with
    | feedIn => exact not_lt.mpr hfeed
    | consumption => exact not_lt.mpr hconsumption
    | charging => exact not_lt.mpr hcharging
    | discharging => exact not_lt.mpr hdischarging

theorem smartMeterPowerW_fetch {o : Outcomes} {smart : Int32}
    (hsmart : o (.i32 Reg.smartMeterPower) = some smart) (now : ℤ) (val s3 : UInt32) :
    ((Impl.fetchSnapshot now val s3).answer o).energy.smartMeterPowerW = smart.toInt := by
  have hvalue := (Field.value_fetch o now val s3 .smartMeterPowerW).trans
    (Field.fetched_some s3 rfl hsmart)
  exact (FieldValue.number.inj hvalue).trans (div_one _)

theorem batteryPowerW_fetch {o : Outcomes} {batt : Int32}
    (hbatt : o (.i32 Reg.batteryPower) = some batt) (now : ℤ) (val s3 : UInt32) :
    ((Impl.fetchSnapshot now val s3).answer o).energy.batteryPowerW = batt.toInt := by
  have hvalue := (Field.value_fetch o now val s3 .batteryPowerW).trans
    (Field.fetched_some s3 rfl hbatt)
  exact (FieldValue.number.inj hvalue).trans (div_one _)

/-- Whatever the other reads give, the picture of a fetched snapshot follows the conventions
of the data model exactly when both readings lie in the band where no flow is drawn. -/
theorem renderArt_follows_iff {o : Outcomes} {smart batt : Int32}
    (hsmart : o (.i32 Reg.smartMeterPower) = some smart)
    (hbatt : o (.i32 Reg.batteryPower) = some batt)
    (winsize : Winsize) (ui : TerminalUI) (now : ℤ) (val s3 : UInt32) :
    FollowsConventions smart.toInt batt.toInt
        (renderArt winsize ((Impl.fetchSnapshot now val s3).answer o) ui).2 ↔
      (-100 ≤ smart.toInt ∧ smart.toInt ≤ 100) ∧ -5 ≤ batt.toInt ∧ batt.toInt ≤ 5 := by
  have hfollows := followsConventions_iff (resizeArt winsize ui).screenWidth
    ((Impl.fetchSnapshot now val s3).answer o)
  rw [smartMeterPowerW_fetch hsmart, batteryPowerW_fetch hbatt, forall_not_drawn_iff] at hfollows
  rw [renderArt, hfollows]
  norm_cast

/-- The outcomes of reads of which only the two of the picture's flows succeed. -/
def flowOutcomes (smart batt : Int32) : Outcomes
  | .i32 addr =>
    if addr = Reg.smartMeterPower then some smart
    else if addr = Reg.batteryPower then some batt
    else none
  | _ => none

theorem renderArt_follows_iff_idle :
    FollowsConventions (20 : Int32).toInt (-3 : Int32).toInt
        (renderArt none ((Impl.fetchSnapshot 0 0 0).answer (flowOutcomes 20 (-3))) {}).2 ↔
      (-100 ≤ (20 : Int32).toInt ∧ (20 : Int32).toInt ≤ 100) ∧
        -5 ≤ (-3 : Int32).toInt ∧ (-3 : Int32).toInt ≤ 5 :=
  renderArt_follows_iff (o := flowOutcomes 20 (-3)) rfl rfl none {} 0 0 0

/-- Power fed into the grid is drawn as flowing out of it. -/
theorem not_follows_feedIn :
    ¬ FollowsConventions (500 : Int32).toInt (0 : Int32).toInt
      (renderArt none ((Impl.fetchSnapshot 0 0 0).answer (flowOutcomes 500 0)) {}).2 := by
  intro hfollows
  have hraw : (500 : Int32).toInt = 500 := by decide
  have hsmart := smartMeterPowerW_fetch (o := flowOutcomes 500 0) rfl 0 0 0
  have hdrawn : Flow.Drawn (Flow.reading
      ((Impl.fetchSnapshot 0 0 0).answer (flowOutcomes 500 0)).energy.smartMeterPowerW
      ((Impl.fetchSnapshot 0 0 0).answer (flowOutcomes 500 0)).energy.batteryPowerW
      .consumption) .consumption := by
    rw [Flow.reading, hsmart, hraw]
    norm_num [Flow.Drawn]
  obtain ⟨power, hshows⟩ := (exists_shows_iff _ _ .consumption).mpr hdrawn
  exact absurd (hfollows .consumption power hshows).1 (by
    rw [Flow.reading, hraw]
    norm_num [Flow.Allowed])

end SolakonMonitor.FlowArt
