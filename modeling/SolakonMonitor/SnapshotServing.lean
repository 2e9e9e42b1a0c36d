import SolakonMonitor.HttpServer
import SolakonMonitor.JsonText

/-!
Snapshots served while others are stored.
The poll loop stores snapshots and the server thread answers requests, one at a time;
a request copies the stored snapshot and writes the document from the copy later. The
document is read back as a JSON value that names every quantity.
-/
namespace SolakonMonitor.SnapshotServing

open BigEndian DecimalText Device HttpServer JsonText

def integer (key : Bytes) (plain : isPlain key = true) (z : ℤ) : Member where
  key := key
  text := decimalInt z
  value := .number ⟨decimalInt z, isNumber_decimalInt z⟩
  plain := plain
  standsFor := .number ⟨decimalInt z, isNumber_decimalInt z⟩

def quantity (key : Bytes) (plain : isPlain key = true) (q : ℚ) : Member where
  key := key
  text := generalText q
  value := .number ⟨generalText q, isNumber_generalText q⟩
  plain := plain
  standsFor := .number ⟨generalText q, isNumber_generalText q⟩

def flag (key : Bytes) (plain : isPlain key = true) (b : Bool) : Member where
  key := key
  text := boolText b
  value := .bool b
  plain := plain
  standsFor := .bool b

def group (key : Bytes) (plain : isPlain key = true) (members : List Member)
    (hne : members ≠ []) : Member where
  key := key
  text := objectText 2 members
  value := .object (members.map Member.entry)
  plain := plain
  standsFor := .object 2 hne

def powerMembers (energy : EnergyData) : List Member :=
  [quantity (utf8 "smart_meter_w") rfl energy.smartMeterPowerW,
   quantity (utf8 "ac_power_w") rfl energy.acActivePowerW,
   quantity (utf8 "pv_power_w") rfl energy.pvTotalPowerW,
   quantity (utf8 "battery_power_w") rfl energy.batteryPowerW]

def energyMembers (energy : EnergyData) : List Member :=
  [quantity (utf8 "charge_total_kwh") rfl energy.totalChargeKwh,
   quantity (utf8 "charge_today_kwh") rfl energy.totalChargeTodayKwh,
   quantity (utf8 "discharge_total_kwh") rfl energy.totalDischargeKwh,
   quantity (utf8 "discharge_today_kwh") rfl energy.totalDischargeTodayKwh,
   quantity (utf8 "feeder_total_kwh") rfl energy.totalFeederKwh,
   quantity (utf8 "feeder_today_kwh") rfl energy.totalFeederTodayKwh,
   quantity (utf8 "consumption_total_kwh") rfl energy.totalConsumptionKwh,
   quantity (utf8 "consumption_today_kwh") rfl energy.totalConsumptionTodayKwh,
   quantity (utf8 "output_total_kwh") rfl energy.totalOutputKwh,
   quantity (utf8 "output_today_kwh") rfl energy.totalOutputTodayKwh,
   quantity (utf8 "load_total_kwh") rfl energy.totalLoadKwh,
   quantity (utf8 "load_today_kwh") rfl energy.totalLoadTodayKwh]

def batteryMembers (bms : BMSData) : List Member :=
  [quantity (utf8 "soc_pct") rfl bms.soc,
   quantity (utf8 "voltage_v") rfl bms.voltage,
   quantity (utf8 "current_a") rfl bms.current,
   quantity (utf8 "temperature_c") rfl bms.temperature]

def meterMembers (meter : MeterData) : List Member :=
  [flag (utf8 "connected") rfl meter.connected,
   quantity (utf8 "voltage_v") rfl meter.rVoltage,
   quantity (utf8 "current_a") rfl meter.rCurrent,
   quantity (utf8 "power_w") rfl meter.combinedActivePower]

def documentMembers (seconds : ℤ) (snap : DeviceSnapshot) : List Member :=
  [integer (utf8 "timestamp") rfl seconds,
   flag (utf8 "valid") rfl snap.valid,
   group (utf8 "power") rfl (powerMembers snap.energy) (List.cons_ne_nil _ _),
   group (utf8 "energy") rfl (energyMembers snap.energy) (List.cons_ne_nil _ _),
   group (utf8 "battery") rfl (batteryMembers snap.bms) (List.cons_ne_nil _ _),
   group (utf8 "meter1") rfl (meterMembers snap.meter1) (List.cons_ne_nil _ _),
   group (utf8 "meter2") rfl (meterMembers snap.meter2) (List.cons_ne_nil _ _)]

/-- The value that reports a snapshot, dated with the seconds given. -/
def document (seconds : ℤ) (snap : DeviceSnapshot) : Json :=
  .object ((documentMembers seconds snap).map Member.entry)

set_option maxRecDepth 10000 in
/-- The literals of the server are lines of the document. -/
theorem jsonPieces_eq (now : ℤ) (snap : DeviceSnapshot) :
    jsonPieces now snap =
      utf8 "\x7b\n" :: lineStart 2 (utf8 "timestamp") ::
          decimalInt (now.tdiv 1000000000) :: utf8 ",\n" ::
        lineStart 2 (utf8 "valid") :: boolText snap.valid :: utf8 ",\n" ::
        (lineStart 2 (utf8 "power") ++ [123, 10]) :: (linePieces 4 (powerMembers snap.energy) ++
        utf8 "  \x7d,\n" :: (lineStart 2 (utf8 "energy") ++ [123, 10]) ::
          (linePieces 4 (energyMembers snap.energy) ++
        utf8 "  \x7d,\n" :: (lineStart 2 (utf8 "battery") ++ [123, 10]) ::
          (linePieces 4 (batteryMembers snap.bms) ++
        utf8 "  \x7d,\n" :: (lineStart 2 (utf8 "meter1") ++ [123, 10]) ::
          (linePieces 4 (meterMembers snap.meter1) ++
        utf8 "  \x7d,\n" :: (lineStart 2 (utf8 "meter2") ++ [123, 10]) ::
          (linePieces 4 (meterMembers snap.meter2) ++ [utf8 "  \x7d\n", utf8 "\x7d\n"]))))) :=
  (rfl)

theorem snapshotToJson_eq (now : ℤ) (snap : DeviceSnapshot) :
    snapshotToJson now snap =
      objectText 0 (documentMembers (now.tdiv 1000000000) snap) ++ [10] := by
  rw [snapshotToJson, jsonPieces_eq]
  simp only [List.flatten_cons, List.flatten_append, List.flatten_nil, linePieces_flatten]
  simp only [documentMembers, objectText, membersText_cons, membersText_last, integer, flag,
    group, lineStart, List.append_assoc, List.cons_append, List.nil_append]
  rfl

theorem readDocument_snapshotToJson (now : ℤ) (snap : DeviceSnapshot) :
    readDocument (snapshotToJson now snap) = some (document (now.tdiv 1000000000) snap) := by
  rw [snapshotToJson_eq]
  exact readDocument_of_standsFor (.object 0 (List.cons_ne_nil _ _))

/-- The date of a document is one of its values. -/
theorem document_seconds {seconds seconds' : ℤ} {snap snap' : DeviceSnapshot}
    (h : document seconds snap = document seconds' snap') : seconds = seconds' := by
  simp only [document, documentMembers, integer, List.map_cons, Member.entry, Json.object.injEq,
    List.cons.injEq, Prod.mk.injEq, Json.number.injEq, Subtype.mk.injEq] at h
  have hread := congrArg strtol h.1.2
  rw [strtol_decimalInt, strtol_decimalInt] at hread
  exact Option.some.inj hread

/-- The poll loop stores a snapshot; the server thread takes its copy for a request it
has read, or writes its response by the clock. -/
inductive Event where
  | update (snap : DeviceSnapshot)
  | copy (received : Bytes)
  | answer (now : ℤ)

/-- A request being answered: what was read, the copy, and what had happened before it. -/
structure Pending where
  received : Bytes
  copied : DeviceSnapshot
  before : List Event

/-- The server between two steps; `past` has the steps so far. -/
structure Serving where
  server : Server := {}
  pending : Option Pending := none
  past : List Event := []

/-- A response with the request it answers, what had happened before its copy, and the
clock when it was written. -/
structure Reply where
  received : Bytes
  before : List Event
  now : ℤ
  response : Option Bytes

def updateSnapshot (snap : DeviceSnapshot) (server : Server) : Server :=
  { server with latestSnapshot := snap }

def getSnapshot (server : Server) : DeviceSnapshot := server.latestSnapshot

/-- The server thread answers one request after another; a step that is not its turn
changes nothing. -/
def step (st : Serving) (event : Event) : Serving × List Reply :=
  let st' := { st with past := st.past ++ [event] }
  match event, st.pending with
  | .update snap, _ => ({ st' with server := updateSnapshot snap st.server }, [])
  | .copy received, none =>
    ({ st' with pending := some ⟨received, getSnapshot st.server, st.past⟩ }, [])
  | .copy _, some _ => (st', [])
  | .answer _, none => (st', [])
  | .answer now, some p =>
    ({ st' with pending := none },
      [⟨p.received, p.before, now, handleClient { latestSnapshot := p.copied } now p.received⟩])

def run : Serving → List Event → List Reply
  | _, [] => []
  | st, event :: rest => (step st event).2 ++ run (step st event).1 rest

/-- The snapshot stored last, the default one before any. -/
def lastStored (events : List Event) : DeviceSnapshot :=
  events.foldl (fun stored event =>
    match event with
    | .update snap => snap
    | _ => stored) {}

def seconds (time : ℤ) : ℤ := time.tdiv 1000000000

def AsksData (received : Bytes) : Prop :=
  Target (received.take 4095) (utf8 "/data") ∨ Target (received.take 4095) (utf8 "/")

/-- The body reports the snapshot stored last before the copy, and dates it with its own
time. -/
def HonestlyDated (reply : Reply) : Prop :=
  ∃ response body, reply.response = some response ∧ responseBody response = some body ∧
    readDocument body = some (document (seconds (lastStored reply.before).timestamp)
      (lastStored reply.before))

theorem lastStored_append (events : List Event) (event : Event) :
    lastStored (events ++ [event]) =
      match event with
      | .update snap => snap
      | _ => lastStored events := by
  rw [lastStored, List.foldl_append]
  cases event <;> rfl

/-- The stored snapshot and the copy of a pending request are what was stored last. -/
structure Consistent (st : Serving) : Prop where
  stored : st.server.latestSnapshot = lastStored st.past
  copied : ∀ p, st.pending = some p → p.copied = lastStored p.before

theorem consistent_initial : Consistent {} where
  stored := rfl
  copied := by
    intro p hp
    cases hp

/-- A response is written from what was stored last before its copy. -/
def Served (reply : Reply) : Prop :=
  reply.response =
    handleClient { latestSnapshot := lastStored reply.before } reply.now reply.received

theorem step_consistent {st : Serving} (h : Consistent st) (event : Event) :
    Consistent (step st event).1 ∧ ∀ reply ∈ (step st event).2, Served reply := by
  obtain ⟨server, pending, past⟩ := st
  have hlast := lastStored_append past event
  cases event with
  | update snap => exact ⟨⟨hlast.symm, h.copied⟩, List.forall_mem_nil _⟩
  | copy received =>
    have hstored := h.stored.trans hlast.symm
    cases pending with
    | none =>
      refine ⟨⟨hstored, ?_⟩, List.forall_mem_nil _⟩
      intro p hp
      cases hp
      exact h.stored
    | some p => exact ⟨⟨hstored, h.copied⟩, List.forall_mem_nil _⟩
  | answer now =>
    have hstored := h.stored.trans hlast.symm
    cases pending with
    | none => exact ⟨⟨hstored, h.copied⟩, List.forall_mem_nil _⟩
    | some p =>
      refine ⟨⟨hstored, ?_⟩, ?_⟩
      · intro q hq
        cases hq
      · intro reply hr
        rw [List.mem_singleton.mp hr, Served, ← h.copied p rfl]

/-- In every interleaving each response is written from what was stored last before its
request took its copy. -/
theorem run_served (events : List Event) {st : Serving} (h : Consistent st) :
    ∀ reply ∈ run st events, Served reply := by
  induction events generalizing st with
  | nil =>
    intro reply hr
    cases hr
  | cons event rest ih =>
    obtain ⟨hnext, hreplies⟩ := step_consistent h event
    intro reply hr
    rcases List.mem_append.mp hr with hr | hr
    · exact hreplies reply hr
    · exact ih hnext reply hr

/-- A data request is answered with one snapshot, dated by the clock. -/
theorem served_document {reply : Reply} (hserved : Served reply) (hdata : AsksData reply.received) :
    ∃ response body, reply.response = some response ∧ responseBody response = some body ∧
      readDocument body = some (document (seconds reply.now) (lastStored reply.before)) := by
  have hne : reply.received ≠ [] := by
    intro hnil
    rw [AsksData, hnil] at hdata
    rcases hdata with htarget | htarget
    · obtain ⟨method, rest, heq, _⟩ := htarget
      simp at heq
    · obtain ⟨method, rest, heq, _⟩ := htarget
      simp at heq
  refine ⟨_, _, hserved.trans (if_neg hne), responseBody_buildResponse _, ?_⟩
  have hpath : extractPath (reply.received.take 4095) = utf8 "/data" ∨
      extractPath (reply.received.take 4095) = utf8 "/" :=
    hdata.imp extractPath_of_target extractPath_of_target
  rw [route, if_pos hpath]
  exact readDocument_snapshotToJson reply.now _

theorem served_honest_iff {reply : Reply} (hserved : Served reply)
    (hdata : AsksData reply.received) :
    HonestlyDated reply ↔ seconds reply.now = seconds (lastStored reply.before).timestamp := by
  obtain ⟨response, body, hresponse, hbody, hread⟩ := served_document hserved hdata
  constructor
  · intro h
    obtain ⟨response', body', hresponse', hbody', hread'⟩ := h
    rw [hresponse] at hresponse'
    cases hresponse'
    rw [hbody] at hbody'
    cases hbody'
    rw [hread] at hread'
    exact document_seconds (Option.some.inj hread')
  · intro h
    rw [h] at hread
    exact ⟨response, body, hresponse, hbody, hread⟩

/-- The copy of a pending request was taken where the ghost says. -/
def Recorded (st : Serving) : Prop :=
  ∀ p, st.pending = some p → ∃ later, st.past = p.before ++ .copy p.received :: later

theorem step_recorded {st : Serving} (h : Recorded st) (event : Event) :
    (step st event).1.past = st.past ++ [event] ∧ Recorded (step st event).1 ∧
      ∀ reply ∈ (step st event).2,
        ∃ later, st.past = reply.before ++ .copy reply.received :: later := by
  obtain ⟨server, pending, past⟩ := st
  have hkept : ∀ p, pending = some p →
      ∃ later, past ++ [event] = p.before ++ .copy p.received :: later := by
    intro p hp
    obtain ⟨later, hlater⟩ := h p hp
    have hpast : past = p.before ++ .copy p.received :: later := hlater
    exact ⟨later ++ [event], by rw [hpast, List.append_assoc, List.cons_append]⟩
  cases event with
  | update snap => exact ⟨rfl, hkept, List.forall_mem_nil _⟩
  | copy received =>
    cases pending with
    | none =>
      refine ⟨rfl, ?_, List.forall_mem_nil _⟩
      intro p hp
      cases hp
      exact ⟨[], rfl⟩
    | some p => exact ⟨rfl, hkept, List.forall_mem_nil _⟩
  | answer now =>
    cases pending with
    | none => exact ⟨rfl, hkept, List.forall_mem_nil _⟩
    | some p =>
      refine ⟨rfl, ?_, ?_⟩
      · intro q hq
        cases hq
      · intro reply hr
        rw [List.mem_singleton.mp hr]
        exact h p rfl

/-- A reply's `before` is the beginning of the run up to the copy. -/
theorem run_before (events : List Event) {st : Serving} (h : Recorded st) :
    ∀ reply ∈ run st events,
      ∃ later, st.past ++ events = reply.before ++ .copy reply.received :: later := by
  induction events generalizing st with
  | nil =>
    intro reply hr
    cases hr
  | cons event rest ih =>
    obtain ⟨hpast, hnext, hreplies⟩ := step_recorded h event
    intro reply hr
    rcases List.mem_append.mp hr with hr | hr
    · obtain ⟨later, hlater⟩ := hreplies reply hr
      exact ⟨later ++ event :: rest, by rw [hlater, List.append_assoc, List.cons_append]⟩
    · obtain ⟨later, hlater⟩ := ih hnext reply hr
      rw [hpast, List.append_assoc] at hlater
      exact ⟨later, hlater⟩

/-- A response to a data request is the document of the snapshot stored last before a copy that
the run has made for it, with the time of the response. -/
theorem run_reports (events : List Event) :
    ∀ reply ∈ run {} events, AsksData reply.received →
      (∃ later, events = reply.before ++ .copy reply.received :: later) ∧
      ∃ response body, reply.response = some response ∧ responseBody response = some body ∧
        readDocument body = some (document (seconds reply.now) (lastStored reply.before)) := by
  intro reply hr hdata
  have hrecorded : Recorded {} := fun p hp => by cases hp
  exact ⟨run_before events hrecorded reply hr,
    served_document (run_served events consistent_initial reply hr) hdata⟩

/-- In an interleaving every response to a data request reports the snapshot stored last
before its copy, with that snapshot's own time, exactly when every such response is
written within the second in which its snapshot was taken. -/
theorem run_honest_iff (events : List Event) :
    (∀ reply ∈ run {} events, AsksData reply.received → HonestlyDated reply) ↔
      ∀ reply ∈ run {} events, AsksData reply.received →
        seconds reply.now = seconds (lastStored reply.before).timestamp := by
  have hserved := run_served events consistent_initial
  constructor
  · intro h reply hr hdata
    exact (served_honest_iff (hserved reply hr) hdata).mp (h reply hr hdata)
  · intro h reply hr hdata
    exact (served_honest_iff (hserved reply hr) hdata).mpr (h reply hr hdata)

def lateRequest : List Event :=
  [.update { timestamp := 1000000000, valid := true },
   .copy (utf8 "GET /data HTTP/1.1\r\n\r\n"), .answer 2000000000]

theorem lateRequest_dated_now :
    ¬ ∀ reply ∈ run {} lateRequest, AsksData reply.received → HonestlyDated reply := by
  intro h
  have hdata : AsksData (utf8 "GET /data HTTP/1.1\r\n\r\n") :=
    Or.inl ⟨utf8 "GET", utf8 "HTTP/1.1\r\n\r\n", rfl, by decide, by decide⟩
  have hserved := run_served lateRequest consistent_initial _ List.mem_cons_self
  have hdated := (served_honest_iff hserved hdata).mp (h _ List.mem_cons_self hdata)
  exact absurd hdated (by decide)

end SolakonMonitor.SnapshotServing
