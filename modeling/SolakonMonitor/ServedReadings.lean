import SolakonMonitor.JsonEmitters
import SolakonMonitor.WireTraffic

/-!
What a client of the HTTP server reads of the device's registers.
A poll makes the same requests every time, so the place of a field says which request its number
comes from. A whole run of the server mode on a device that answers promptly serves documents
whose numbers are those registers' contents, to six digits, though they are stored in single
precision on the way.
-/
namespace SolakonMonitor.ServedReadings

open BigEndian DecimalText JsonText Rounding NumberValue ModbusClient ModbusSession ClientConnect
open Device SnapshotFields RegisterMap HttpServer SnapshotServing JsonEmitters ConfigLoader
open MainProgram StateMachine MonitorRun WireTraffic SinglePrecision SnapshotFloats

/-- The request that makes a read in the poll that begins with request `start`. -/
def requestOf (start : ℕ) (r : RegRead) : ℕ := start + pollReads.idxOf r

def pollOutcomes (p : Peer) (start : ℕ) : Outcomes := fun r => p.atomicRead (requestOf start r) r

/-- The content of the registers when the read is made, unless it is refused. -/
def granted (p : Peer) (start : ℕ) (r : RegRead) : Option ℤ :=
  if p.refuses (requestOf start r) = none then some (content (p.bank (requestOf start r)) r)
  else none

/-- A field's number is that of its own read; when this is refused, that of the last read granted
before it into the same variable, or zero. -/
def reported (p : Peer) (start : ℕ) (f : Field) : ℤ :=
  ((f.read.addr :: f.earlier).findSome? (fun a => granted p start (sameTypeAt a f.read))).getD 0

/-- A snapshot that a fetch from these outcomes gives, as it is stored. -/
def Gives (o : Outcomes) (snap : DeviceSnapshot) : Prop :=
  ∃ now val s3, snap = stored ((Impl.fetchSnapshot now val s3).answer o)

/-- Under prompt delivery a fetch makes one request for each field, and leaves nothing unread. -/
theorem fetchOver_poll (p : Peer) (hprompt : ∀ j, p.schedule j ≠ none) (client : Client) (now : ℤ)
    (val s3 : UInt32) {w : Wire} (hclean : w.outstanding = []) :
    ∃ snap client' w', SolakonDevice.fetchOver p.socket ⟨some client⟩ now val s3 w =
        some (snap, ⟨some client'⟩, w') ∧
      Gives (pollOutcomes p w.requests) (stored snap) ∧ w'.outstanding = [] ∧
      w'.requests = w.requests + pollReads.length := by
  have hstep : ∀ r ∈ pollReads, ∀ link : Link Wire, link.net.outstanding = [] →
      ∃ link', r.perform p.socket link = some (p.atomicRead link.net.requests r, link') ∧
        link'.net.outstanding = [] ∧ link'.net.requests = link.net.requests + 1 := by
    intro r hr link hlink
    obtain ⟨f, _, rfl⟩ := List.mem_map.mp hr
    obtain ⟨outcome, link', hperform, hsettled⟩ := perform_drained p f.read link hlink
    have hquantity : f.read.quantity ≠ 0 := by
      intro hzero
      have hpos := (read_quantity f).1
      rw [hzero] at hpos
      exact absurd hpos (by decide)
    rcases hsettled.settled with ⟨hout, hdrain⟩ | ⟨_, j, _, _, hnone⟩
    · exact ⟨link', by rw [hperform, hout], hdrain, hsettled.requests_eq hquantity⟩
    · exact absurd hnone (hprompt j)
  obtain ⟨link', hfetch, hdrain, hrequests⟩ :=
    (Field.asks_fetch now val s3).runWith_counted Field.reads_nodup hstep (s := ⟨client, w⟩) hclean
  refine ⟨_, link'.client, link'.net, ?_, ⟨now, val, s3, rfl⟩, hdrain, hrequests⟩
  simp only [SolakonDevice.fetchOver, hfetch, Option.map_some]
  rfl

theorem rawOutcome_poll (p : Peer) (start : ℕ) {r : RegRead} (hread : ∀ a n, r ≠ .string a n) :
    rawOutcome (pollOutcomes p start) r = granted p start r := by
  have hquantity : 1 ≤ r.quantity.toNat ∧ r.quantity.toNat ≤ 125 := by
    cases r with
    | string a n => exact absurd rfl (hread a n)
    | _ => exact ⟨Nat.le_of_ble_eq_true rfl, Nat.le_of_ble_eq_true rfl⟩
  rw [rawOutcome, pollOutcomes, Peer.atomicRead, granted]
  by_cases hrefuse : p.refuses (requestOf start r) = none
  · rw [if_pos ⟨hrefuse, hquantity⟩, if_pos hrefuse, Option.map_some, rawNumber_meaning]
  · rw [if_neg (fun h => hrefuse h.1), if_neg hrefuse, Option.map_none]

theorem raw_poll (p : Peer) (start : ℕ) (s3 : UInt32) {f : Field}
    (htext : ∀ a n, f.read ≠ .string a n) (hstatus : f ≠ .status3) :
    f.raw (pollOutcomes p start) s3 = reported p start f := by
  have hown : sameTypeAt f.read.addr f.read = f.read := by
    cases f.read <;> rfl
  have hnumber : ∀ a, rawOutcome (pollOutcomes p start) (sameTypeAt a f.read) =
      granted p start (sameTypeAt a f.read) := by
    intro a
    apply rawOutcome_poll
    cases hr : f.read with
    | string b n => exact absurd hr (htext b n)
    | _ => exact fun _ _ h => by cases h
  have hfirst := hnumber f.read.addr
  rw [hown] at hfirst
  have hrest : f.leftover (pollOutcomes p start) =
      f.earlier.findSome? (fun a => granted p start (sameTypeAt a f.read)) := by
    rw [Field.leftover]
    simp only [hnumber]
  rw [Field.raw_eq _ _ _ htext, hfirst, hrest, Field.initial, if_neg hstatus, reported,
    List.findSome?_cons, hown]
  cases granted p start f.read <;> rfl

def member (key : Bytes) : Json → Option Json
  | .object members => (members.find? (fun entry => entry.1 = key)).map Prod.snd
  | _ => none

/-- The number that two keys lead to. -/
def numberAt (outer key : Bytes) (doc : Json) : Option ℚ :=
  match (member outer doc).bind (member key) with
  | some (.number t) => some (numberValue t.val)
  | _ => none

/-- A number of the document: its keys, its field and the decimal places of its registers. -/
structure Reading where
  outer : Bytes
  key : Bytes
  field : Field
  places : ℕ

def readings : List Reading :=
  [⟨utf8 "power", utf8 "smart_meter_w", .smartMeterPowerW, 0⟩,
   ⟨utf8 "power", utf8 "ac_power_w", .acActivePowerW, 0⟩,
   ⟨utf8 "power", utf8 "pv_power_w", .pvTotalPowerW, 0⟩,
   ⟨utf8 "power", utf8 "battery_power_w", .batteryPowerW, 0⟩,
   ⟨utf8 "energy", utf8 "charge_total_kwh", .totalChargeKwh, 1⟩,
   ⟨utf8 "energy", utf8 "charge_today_kwh", .totalChargeTodayKwh, 1⟩,
   ⟨utf8 "energy", utf8 "discharge_total_kwh", .totalDischargeKwh, 1⟩,
   ⟨utf8 "energy", utf8 "discharge_today_kwh", .totalDischargeTodayKwh, 1⟩,
   ⟨utf8 "energy", utf8 "feeder_total_kwh", .totalFeederKwh, 1⟩,
   ⟨utf8 "energy", utf8 "feeder_today_kwh", .totalFeederTodayKwh, 1⟩,
   ⟨utf8 "energy", utf8 "consumption_total_kwh", .totalConsumptionKwh, 1⟩,
   ⟨utf8 "energy", utf8 "consumption_today_kwh", .totalConsumptionTodayKwh, 1⟩,
   ⟨utf8 "energy", utf8 "output_total_kwh", .totalOutputKwh, 1⟩,
   ⟨utf8 "energy", utf8 "output_today_kwh", .totalOutputTodayKwh, 1⟩,
   ⟨utf8 "energy", utf8 "load_total_kwh", .totalLoadKwh, 1⟩,
   ⟨utf8 "energy", utf8 "load_today_kwh", .totalLoadTodayKwh, 1⟩,
   ⟨utf8 "battery", utf8 "soc_pct", .bmsSoc, 0⟩,
   ⟨utf8 "battery", utf8 "voltage_v", .bmsVoltage, 1⟩,
   ⟨utf8 "battery", utf8 "current_a", .bmsCurrent, 1⟩,
   ⟨utf8 "battery", utf8 "temperature_c", .bmsTemperature, 1⟩,
   ⟨utf8 "meter1", utf8 "voltage_v", .meter1RVoltage, 1⟩,
   ⟨utf8 "meter1", utf8 "current_a", .meter1RCurrent, 3⟩,
   ⟨utf8 "meter1", utf8 "power_w", .meter1CombinedActivePower, 1⟩,
   ⟨utf8 "meter2", utf8 "voltage_v", .meter2RVoltage, 1⟩,
   ⟨utf8 "meter2", utf8 "current_a", .meter2RCurrent, 3⟩,
   ⟨utf8 "meter2", utf8 "power_w", .meter2CombinedActivePower, 1⟩]

theorem numberAt_document (seconds : ℤ) (snap : DeviceSnapshot) :
    ∀ r ∈ readings, numberAt r.outer r.key (document seconds snap) =
      some (numberValue (generalText (quantityOf snap r.field))) := by
  simp only [readings, List.forall_mem_cons, List.not_mem_nil, false_implies, implies_true,
    and_true]
  repeat' constructor

/-- A number as a reader gets it: off by no more than one part in 190,000, and exact when six
digits are enough. -/
structure SixDigits (q v : ℚ) : Prop where
  close : |v - q| ≤ |q| / 190000
  exact : Significant 6 q → v = q

/-- Storing a number in single precision does no harm to its six digits. -/
theorem sixDigits_generalText {q f : ℚ} (hnear : |f - q| ≤ |q| / 8000000) :
    SixDigits q (numberValue (generalText f)) := by
  have hq := abs_nonneg q
  by_cases hf : f = 0
  · rw [hf, zero_sub, abs_neg] at hnear
    have hzero : q = 0 := abs_eq_zero.mp (by linarith)
    rw [hf, hzero, numberValue_generalText_zero]
    exact ⟨by norm_num, fun _ => rfl⟩
  · obtain ⟨x, hlow, hhigh, hrounds⟩ := numberValue_generalText hf
    have hunit : (0 : ℚ) < 10 ^ (x + 1 - (6 : ℕ)) := ten_zpow_pos _
    refine ⟨?_, ?_⟩
    · have hsplit : (10 : ℚ) ^ (x + 1 - (6 : ℕ)) = 10 ^ x / 100000 := by
        rw [show x + 1 - ((6 : ℕ) : ℤ) = x - 5 by push_cast; ring, zpow_sub₀ (by norm_num)]
        norm_num
      have hprinted := hrounds.abs_sub_le hunit
      rw [abs_sub_comm, hsplit] at hprinted
      have hsize := abs_sub_abs_le_abs_sub f q
      have htriangle := abs_sub_le (numberValue (generalText f)) f q
      linarith
    · intro hdigits
      exact hrounds.unique (rounds_near hlow hhigh (by linarith) hdigits)

/-- The value of a reading after so many polls, which follow each other on one connection; zero
before the first. -/
def reading (p : Peer) : ℕ → Reading → ℚ
  | 0, _ => 0
  | n + 1, r => reported p (n * pollReads.length) r.field / 10 ^ r.places

/-- The document says whether there has been a poll, and has every number of the last one. -/
structure Reports (p : Peer) (polls : ℕ) (doc : Json) : Prop where
  valid : member (utf8 "valid") doc = some (.bool (decide (polls ≠ 0)))
  numbers : ∀ r ∈ readings, ∃ v, numberAt r.outer r.key doc = some v ∧
    SixDigits (reading p polls r) v

def isNumeric : RegRead → Bool
  | .string _ _ => false
  | _ => true

theorem readings_places : ∀ r ∈ readings, r.places ≤ 3 := by
  decide

theorem readings_numeric : ∀ r ∈ readings, (∀ a n, r.field.read ≠ .string a n) ∧
    r.field ≠ .status3 := by
  have hall : ∀ r ∈ readings, isNumeric r.field.read = true ∧ r.field ≠ .status3 := by
    decide
  intro r hr
  obtain ⟨hnumeric, hstatus⟩ := hall r hr
  refine ⟨?_, hstatus⟩
  intro a n heq
  rw [heq] at hnumeric
  exact Bool.false_ne_true hnumeric

/-- A reading's field is stored with the decimal places of its registers. -/
theorem quantityOf_stored (snap : DeviceSnapshot) : ∀ r ∈ readings,
    quantityOf (stored snap) r.field = storedNumber r.places (quantityOf snap r.field) := by
  have hten : ∀ q, storedNumber 1 q = quotient 10 q := by
    intro q
    rw [storedNumber, if_neg (by decide), pow_one]
  have hthousand : ∀ q, storedNumber 3 q = quotient 1000 q := by
    intro q
    rw [storedNumber, if_neg (by decide)]
    norm_num
  simp only [readings, List.forall_mem_cons, List.not_mem_nil, false_implies, implies_true,
    and_true, hten, hthousand]
  repeat' constructor

theorem quantityOf_poll {p : Peer} {start : ℕ} {snap : DeviceSnapshot}
    (h : Gives (pollOutcomes p start) snap) : ∀ r ∈ readings,
      quantityOf snap r.field =
        storedNumber r.places ((reported p start r.field : ℚ) / 10 ^ r.places) := by
  have hprinted : ∀ r ∈ readings, ∃ q ∈ printed, q.field = r.field ∧ q.places = r.places := by
    decide
  obtain ⟨now, val, s3, rfl⟩ := h
  intro r hr
  obtain ⟨q, hq, hfield, hplaces⟩ := hprinted r hr
  obtain ⟨htext, hstatus⟩ := readings_numeric r hr
  rw [quantityOf_stored _ r hr, ← hfield, ← hplaces, quantityOf_fetch _ now val s3 q hq, hfield,
    raw_poll p start s3 htext hstatus]

theorem document_reports {p : Peer} (n : ℕ) {snap : DeviceSnapshot} (seconds : ℤ)
    (h : Gives (pollOutcomes p (n * pollReads.length)) snap) :
    Reports p (n + 1) (document seconds snap) := by
  have hquantity := quantityOf_poll h
  refine ⟨?_, ?_⟩
  · obtain ⟨now, val, s3, rfl⟩ := h
    rfl
  · intro r hr
    refine ⟨_, numberAt_document seconds snap r hr, ?_⟩
    rw [hquantity r hr]
    exact sixDigits_generalText (storedNumber_near (readings_places r hr) _)

theorem document_reports_none (p : Peer) (seconds : ℤ) : Reports p 0 (document seconds {}) := by
  have hzero : ∀ r ∈ readings, quantityOf {} r.field = 0 := by
    decide +kernel
  refine ⟨rfl, ?_⟩
  intro r hr
  refine ⟨_, numberAt_document seconds {} r hr, ?_⟩
  rw [hzero r hr]
  exact sixDigits_generalText (by norm_num [reading])

/-- The snapshots polled so far are those of the polls on this connection, in order, and nothing
is left unread. -/
structure Polled (p : Peer) (w : World Wire) : Prop where
  connected : w.device.impl.isSome = true
  drained : w.net.outstanding = []
  requests : w.net.requests = w.polled.length * pollReads.length
  snapshots : ∀ i snap, (w.polled.map Prod.snd)[i]? = some snap →
    Gives (pollOutcomes p (i * pollReads.length)) snap

theorem Polled.poll {p : Peer} {w w' : World Wire} {time : ℤ} {snap : DeviceSnapshot}
    (h : Polled p w) (hconnected : w'.device.impl.isSome = true)
    (hdrained : w'.net.outstanding = [])
    (hrequests : w'.net.requests = w.net.requests + pollReads.length)
    (hpolled : w'.polled = w.polled ++ [(time, snap)])
    (hgives : Gives (pollOutcomes p w.net.requests) snap) : Polled p w' := by
  refine ⟨hconnected, hdrained, ?_, ?_⟩
  · rw [hrequests, h.requests, hpolled, List.length_append, List.length_singleton, Nat.succ_mul]
  · intro i snap' hi
    rw [hpolled, List.map_append] at hi
    rcases Nat.lt_or_ge i (w.polled.map Prod.snd).length with hearly | hlate
    · rw [List.getElem?_append_left hearly] at hi
      exact h.snapshots i snap' hi
    · rw [List.getElem?_append_right hlate] at hi
      obtain ⟨hlast, hsnap⟩ := List.getElem?_eq_some_iff.mp hi
      rw [List.map_cons, List.map_nil, List.length_singleton] at hlast
      rw [List.length_map] at hlate hlast
      have hi' : i = w.polled.length := by omega
      rw [hi', ← h.requests, ← hsnap]
      simpa only [List.map_cons, List.map_nil, List.getElem_singleton] using hgives

theorem fetch_polled {p : Peer} (hprompt : ∀ j, p.schedule j ≠ none) {tick : Tick}
    {w w' : World Wire} {snap : DeviceSnapshot} (h : Polled p w)
    (hfetch : fetch p.socket tick w = some (snap, w')) : Polled p w' := by
  obtain ⟨client, hclient⟩ := Option.isSome_iff_exists.mp h.connected
  have hdevice : w.device = ⟨some client⟩ := by rw [← hclient]
  obtain ⟨snap', client', net', hrun, hgives, hdrained, hrequests⟩ :=
    fetchOver_poll p hprompt client tick.now tick.val tick.s3 h.drained
  rw [fetch, hdevice, hrun, Option.map_some, Option.some.injEq, Prod.mk.injEq] at hfetch
  obtain ⟨rfl, rfl⟩ := hfetch
  exact h.poll rfl hdrained hrequests rfl hgives

theorem serverPass_polled {p : Peer} (hprompt : ∀ j, p.schedule j ≠ none) {cfg : Config}
    {tick : Tick} {w w' : World Wire} (h : Polled p w)
    (hpass : serverPass cfg p.socket tick w = some w') : Polled p w' := by
  obtain ⟨_, _, ⟨_, snap, w₁, hfetch, rfl⟩ | ⟨_, rfl⟩⟩ := serverPass_cases hpass
  · have h₁ := fetch_polled hprompt h hfetch
    exact ⟨h₁.connected, h₁.drained, h₁.requests, h₁.snapshots⟩
  · exact ⟨h.connected, h.drained, h.requests, h.snapshots⟩

theorem terminalPass_polled {p : Peer} (hprompt : ∀ j, p.schedule j ≠ none) {cfg : Config}
    {tick : Tick} {w w' : World Wire} (h : Polled p w)
    (hpass : terminalPass cfg p.socket tick w = some w') : Polled p w' := by
  obtain ⟨_, _, ⟨_, snap, hfetch⟩ | ⟨_, rfl⟩⟩ := terminalPass_cases hpass
  · exact fetch_polled hprompt h hfetch
  · exact h

theorem polled_start (p : Peer) {s : Surroundings Wire} (hnet : s.net = {})
    {device : SolakonDevice} (hconnected : device.impl.isSome = true) :
    Polled p (s.world device) where
  connected := hconnected
  drained := congrArg Wire.outstanding hnet
  requests := (congrArg Wire.requests hnet).trans (Nat.zero_mul _).symm
  snapshots := fun i snap hi => by cases hi

/-- The body of an answer to a data request is the document of its copy. -/
theorem served_data {request : ServerThread.Request} {response : Bytes}
    (hserved : ServerThread.Served request response) (hdata : AsksData request.received) :
    ∃ body, responseBody response = some body ∧
      readDocument body = some (document (seconds request.now)
        (ServerThread.lastOf request.before)) := by
  have hreply : SnapshotServing.Served ⟨request.received,
      [.update (ServerThread.lastOf request.before)], request.now, some response⟩ := hserved.symm
  obtain ⟨response', body, hresponse, hbody, hread⟩ := served_document hreply hdata
  cases hresponse
  exact ⟨body, hbody, hread⟩

theorem lastOf_reports {p : Peer} {w : World Wire} (h : Polled p w) {before : List DeviceSnapshot}
    (hbefore : before <+: w.polled.map Prod.snd) (seconds : ℤ) :
    Reports p before.length (document seconds (ServerThread.lastOf before)) := by
  obtain rfl | ⟨init, snap, rfl⟩ := before.eq_nil_or_concat
  · exact document_reports_none p seconds
  · rw [List.concat_eq_append, List.length_append, List.length_singleton,
      ServerThread.lastOf_append]
    obtain ⟨later, hlater⟩ := hbefore
    apply document_reports
    apply h.snapshots
    rw [← hlater, List.concat_eq_append, List.append_assoc, List.getElem?_append_right le_rfl]
    simp

/-- In a whole run of the server mode on a device that answers promptly, every answer to a data
request is a document of the polls before its copy: each number in it is, to six digits and in
spite of the single precision it is stored in, the content of the registers of its field when
the last of these polls made the request for it. -/
theorem clients_read {p : Peer} (hprompt : ∀ j, p.schedule j ≠ none) {cfg : Config}
    (hlow : 1 ≤ cfg.refreshHz.toInt) (hhigh : cfg.refreshHz.toInt ≤ 60) {settings : Settings}
    {s : Surroundings Wire} (hsock : s.sock = p.socket) (hnet : s.net = {}) {exit : Exit Wire}
    (hrun : monitorRun cfg settings s = some exit) :
    ∀ exchange ∈ exit.thread.finished, AsksData exchange.request.received →
      ∃ body doc, responseBody exchange.response = some body ∧ readDocument body = some doc ∧
        Reports p exchange.request.before.length doc := by
  intro exchange hexchange hdata
  rcases monitorRun_thread hlow hhigh hrun with
    hidle | ⟨device, w, events, hconnected, hloop, hpolled, hevents, hupdates⟩
  · rw [hidle] at hexchange
    cases hexchange
  · have hclient : device.impl.isSome = true := by
      cases himpl : device.impl with
      | none =>
        rw [SocketOwnership.deviceIsConnected, himpl] at hconnected
        cases hconnected
      | some client => rfl
    have hstart := polled_start p hnet hclient
    rw [hsock] at hloop
    have hw := PassLoop.loop_keeps (fun _ _ _ => serverPass_polled hprompt) s.ticks hstart hloop
    rw [hevents] at hexchange
    have hserved := ((ServerThread.exec_sound events).finished exchange hexchange).served
    have hbefore := ((ServerThread.exec_ordered events).finished.1 exchange hexchange).2
    rw [ServerThread.exec_stored, hupdates] at hbefore
    obtain ⟨body, hbody, hread⟩ := served_data hserved hdata
    exact ⟨body, _, hbody, hread, lastOf_reports hw hbefore _⟩

def countingPeer : Peer where
  bank k a := UInt16.ofNat (a + k)
  refuses k := if k = 0 then some 2 else none
  schedule _ := some 300

def asksOnce : List ServerThread.Answer :=
  [⟨none, [], 0, 0⟩, ⟨some (fdOf 5), [], 0, 0⟩,
   ⟨none, utf8 "GET /data HTTP/1.1\r\n\r\n", 0, 0⟩, ⟨none, [], 0, 0⟩,
   ⟨none, [], 1700000000000000000, 0⟩, ⟨none, [], 0, 0⟩, ⟨none, [], 0, 100000⟩, ⟨none, [], 0, 0⟩]

def oneRequest : Surroundings Wire where
  pton := Ipv4.strictPton
  socket := twoPasses.socket
  refused := none
  sock := countingPeer.socket
  net := {}
  start := 0
  ticks := [⟨1000000000, 0, 0, 0, asksOnce, some 113⟩]
  listening := twoPasses.listening
  closing := twoPasses.closing

theorem clients_read_oneRequest :
    ∃ exit, monitorRun serving {} oneRequest = some exit ∧ exit.thread.finished.length = 1 ∧
      ∀ exchange ∈ exit.thread.finished, AsksData exchange.request.received →
        ∃ body doc, responseBody exchange.response = some body ∧ readDocument body = some doc ∧
          Reports countingPeer exchange.request.before.length doc := by
  have hfinished : (monitorRun serving {} oneRequest).map
      (fun exit => exit.thread.finished.length) = some 1 := by
    decide +kernel
  obtain ⟨exit, hrun, hone⟩ := Option.map_eq_some_iff.mp hfinished
  exact ⟨exit, hrun, hone,
    clients_read (fun _ => Option.some_ne_none 300) (by decide) (by decide) rfl rfl hrun⟩

end SolakonMonitor.ServedReadings
