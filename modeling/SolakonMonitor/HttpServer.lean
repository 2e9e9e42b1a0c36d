import SolakonMonitor.DecimalText
import SolakonMonitor.Device
import SolakonMonitor.TextLines

/-!
The HTTP server's answer to one request.
A request is what one read delivered into the buffer. Its path chooses a status
line and a body, and the response is assembled from the body alone. The
specification splits a response at its first empty line and reads the status code
off its first line; it agrees with the routing on the known paths only.
-/
namespace SolakonMonitor.HttpServer

open BigEndian DecimalText TextLines Device

def httpOk : Bytes := utf8 "HTTP/1.1 200 OK\r\n"
def httpNotFound : Bytes := utf8 "HTTP/1.1 404 Not Found\r\n"
def contentTypeJson : Bytes := utf8 "Content-Type: application/json\r\n"
def connectionClose : Bytes := utf8 "Connection: close\r\n"
def crlf : Bytes := utf8 "\r\n"

structure Server where
  latestSnapshot : DeviceSnapshot := {}
  deriving DecidableEq

def boolText (b : Bool) : Bytes := if b then utf8 "true" else utf8 "false"

/-- The pieces of the JSON document; `now` is the clock of the request. -/
def jsonPieces (now : ℤ) (snap : DeviceSnapshot) : List Bytes :=
  [utf8 "\x7b\n",
   utf8 "  \"timestamp\": ", decimalInt (now.tdiv 1000000000), utf8 ",\n",
   utf8 "  \"valid\": ", boolText snap.valid, utf8 ",\n",
   utf8 "  \"power\": \x7b\n",
   utf8 "    \"smart_meter_w\": ", generalText snap.energy.smartMeterPowerW, utf8 ",\n",
   utf8 "    \"ac_power_w\": ", generalText snap.energy.acActivePowerW, utf8 ",\n",
   utf8 "    \"pv_power_w\": ", generalText snap.energy.pvTotalPowerW, utf8 ",\n",
   utf8 "    \"battery_power_w\": ", generalText snap.energy.batteryPowerW, utf8 "\n",
   utf8 "  \x7d,\n",
   utf8 "  \"energy\": \x7b\n",
   utf8 "    \"charge_total_kwh\": ", generalText snap.energy.totalChargeKwh, utf8 ",\n",
   utf8 "    \"charge_today_kwh\": ", generalText snap.energy.totalChargeTodayKwh, utf8 ",\n",
   utf8 "    \"discharge_total_kwh\": ", generalText snap.energy.totalDischargeKwh, utf8 ",\n",
   utf8 "    \"discharge_today_kwh\": ", generalText snap.energy.totalDischargeTodayKwh, utf8 ",\n",
   utf8 "    \"feeder_total_kwh\": ", generalText snap.energy.totalFeederKwh, utf8 ",\n",
   utf8 "    \"feeder_today_kwh\": ", generalText snap.energy.totalFeederTodayKwh, utf8 ",\n",
   utf8 "    \"consumption_total_kwh\": ", generalText snap.energy.totalConsumptionKwh, utf8 ",\n",
   utf8 "    \"consumption_today_kwh\": ", generalText snap.energy.totalConsumptionTodayKwh,
     utf8 ",\n",
   utf8 "    \"output_total_kwh\": ", generalText snap.energy.totalOutputKwh, utf8 ",\n",
   utf8 "    \"output_today_kwh\": ", generalText snap.energy.totalOutputTodayKwh, utf8 ",\n",
   utf8 "    \"load_total_kwh\": ", generalText snap.energy.totalLoadKwh, utf8 ",\n",
   utf8 "    \"load_today_kwh\": ", generalText snap.energy.totalLoadTodayKwh, utf8 "\n",
   utf8 "  \x7d,\n",
   utf8 "  \"battery\": \x7b\n",
   utf8 "    \"soc_pct\": ", generalText snap.bms.soc, utf8 ",\n",
   utf8 "    \"voltage_v\": ", generalText snap.bms.voltage, utf8 ",\n",
   utf8 "    \"current_a\": ", generalText snap.bms.current, utf8 ",\n",
   utf8 "    \"temperature_c\": ", generalText snap.bms.temperature, utf8 "\n",
   utf8 "  \x7d,\n",
   utf8 "  \"meter1\": \x7b\n",
   utf8 "    \"connected\": ", boolText snap.meter1.connected, utf8 ",\n",
   utf8 "    \"voltage_v\": ", generalText snap.meter1.rVoltage, utf8 ",\n",
   utf8 "    \"current_a\": ", generalText snap.meter1.rCurrent, utf8 ",\n",
   utf8 "    \"power_w\": ", generalText snap.meter1.combinedActivePower, utf8 "\n",
   utf8 "  \x7d,\n",
   utf8 "  \"meter2\": \x7b\n",
   utf8 "    \"connected\": ", boolText snap.meter2.connected, utf8 ",\n",
   utf8 "    \"voltage_v\": ", generalText snap.meter2.rVoltage, utf8 ",\n",
   utf8 "    \"current_a\": ", generalText snap.meter2.rCurrent, utf8 ",\n",
   utf8 "    \"power_w\": ", generalText snap.meter2.combinedActivePower, utf8 "\n",
   utf8 "  \x7d\n",
   utf8 "\x7d\n"]

def snapshotToJson (now : ℤ) (snap : DeviceSnapshot) : Bytes := (jsonPieces now snap).flatten

def extractPath (request : Bytes) : Bytes :=
  match request.findIdx? (fun b => b = 32) with
  | none => []
  | some methodEnd =>
    match (request.drop (methodEnd + 1)).findIdx? (fun b => b = 32) with
    | none => []
    | some length => (request.drop (methodEnd + 1)).take length

def healthBody : Bytes := utf8 "\x7b\"status\": \"ok\"\x7d\n"
def notFoundBody : Bytes := utf8 "Not Found\n"

/-- The status line and the body chosen for a path. -/
def route (server : Server) (now : ℤ) (path : Bytes) : Bytes × Bytes :=
  if path = utf8 "/data" ∨ path = utf8 "/" then
    (httpOk, snapshotToJson now server.latestSnapshot)
  else if path = utf8 "/health" then (httpOk, healthBody)
  else (httpNotFound, notFoundBody)

def buildResponse (body : Bytes) : Bytes :=
  httpOk ++ contentTypeJson ++ connectionClose ++
    (utf8 "Content-Length: " ++ decimal body.length) ++ crlf ++ crlf ++ body

/-- The response for what the first read delivered, at most 4095 bytes of it; none
when the read delivered nothing. -/
def handleClient (server : Server) (now : ℤ) (received : Bytes) : Option Bytes :=
  if received = [] then none
  else some (buildResponse (route server now (extractPath (received.take 4095))).2)

/-- The text between the first two spaces of a request. -/
def Target (request path : Bytes) : Prop :=
  ∃ method rest, request = method ++ 32 :: (path ++ 32 :: rest) ∧ 32 ∉ method ∧ 32 ∉ path

theorem extractPath_of_target {request path : Bytes} (h : Target request path) :
    extractPath request = path := by
  obtain ⟨method, rest, rfl, hmethod, hpath⟩ := h
  simp only [extractPath, findIdx?_delimiter hmethod, drop_delimiter, findIdx?_delimiter hpath,
    List.take_left']

theorem extractPath_eq_nil {request : Bytes} (h : ¬ ∃ path, Target request path) :
    extractPath request = [] := by
  by_cases hfirst : 32 ∈ request
  · obtain ⟨method, tail, rfl, hmethod⟩ := List.eq_append_cons_of_mem hfirst
    have htail : 32 ∉ tail := by
      intro hsecond
      obtain ⟨path, rest, rfl, hpath⟩ := List.eq_append_cons_of_mem hsecond
      exact h ⟨path, method, rest, rfl, hmethod, hpath⟩
    simp only [extractPath, findIdx?_delimiter hmethod, drop_delimiter,
      findIdx?_of_not_mem htail]
  · simp only [extractPath, findIdx?_of_not_mem hfirst]

/-- A response split at its first empty line. -/
def splitAtEmptyLine : Bytes → Option (Bytes × Bytes)
  | 13 :: 10 :: 13 :: 10 :: body => some ([], body)
  | [] => none
  | b :: rest => (splitAtEmptyLine rest).map (fun p => (b :: p.1, p.2))

/-- The second word of the first line. -/
def statusCode (response : Bytes) : Option Bytes :=
  (fields 32 (response.takeWhile (fun b => b ≠ 13)))[1]?

def responseBody (response : Bytes) : Option Bytes := (splitAtEmptyLine response).map Prod.snd

theorem splitAtEmptyLine_cons {b : UInt8} (hb : b ≠ 13) (rest : Bytes) :
    splitAtEmptyLine (b :: rest) = (splitAtEmptyLine rest).map (fun p => (b :: p.1, p.2)) := by
  rw [splitAtEmptyLine]
  intro body heq
  exact absurd heq hb

/-- A line that another line follows belongs to the header block. -/
theorem splitAtEmptyLine_line {line rest : Bytes} (hline : 13 ∉ line)
    (hrest : rest.head? ≠ some 13) :
    splitAtEmptyLine (line ++ 13 :: 10 :: rest) =
      (splitAtEmptyLine rest).map (fun p => (line ++ 13 :: 10 :: p.1, p.2)) := by
  induction line with
  | nil =>
    have hten : splitAtEmptyLine (10 :: rest) =
        (splitAtEmptyLine rest).map (fun p => (10 :: p.1, p.2)) :=
      splitAtEmptyLine_cons (by decide) rest
    rw [List.nil_append, splitAtEmptyLine, hten, Option.map_map]
    · rfl
    · intro body _ heq
      rw [(List.cons.inj heq).2] at hrest
      exact hrest rfl
  | cons a line ih =>
    have ha : a ≠ 13 := fun heq => hline (heq ▸ List.mem_cons_self)
    rw [List.cons_append, splitAtEmptyLine_cons ha,
      ih (fun hmem => hline (List.mem_cons_of_mem a hmem)), Option.map_map]
    rfl

theorem splitAtEmptyLine_last {line : Bytes} (hline : 13 ∉ line) (body : Bytes) :
    splitAtEmptyLine (line ++ 13 :: 10 :: 13 :: 10 :: body) = some (line, body) := by
  induction line with
  | nil => rfl
  | cons a line ih =>
    have ha : a ≠ 13 := fun heq => hline (heq ▸ List.mem_cons_self)
    rw [List.cons_append, splitAtEmptyLine_cons ha,
      ih (fun hmem => hline (List.mem_cons_of_mem a hmem))]
    rfl

/-- The header block of a body of this length, without its last line end. -/
def headerBlock (length : ℕ) : Bytes :=
  utf8 "HTTP/1.1 200 OK" ++ 13 :: 10 :: (utf8 "Content-Type: application/json" ++ 13 :: 10 ::
    (utf8 "Connection: close" ++ 13 :: 10 :: (utf8 "Content-Length: " ++ decimal length)))

/-- Whatever the body holds, it is what follows the header block. -/
theorem splitAtEmptyLine_buildResponse (body : Bytes) :
    splitAtEmptyLine (buildResponse body) = some (headerBlock body.length, body) := by
  have hlength : (13 : UInt8) ∉ utf8 "Content-Length: " ++ decimal body.length := by
    rw [List.mem_append]
    intro hmem
    rcases hmem with hmem | hmem
    · revert hmem
      decide
    · cases isDigit_of_mem_decimal hmem
  have hlines : buildResponse body = utf8 "HTTP/1.1 200 OK" ++ 13 :: 10 ::
      (utf8 "Content-Type: application/json" ++ 13 :: 10 :: (utf8 "Connection: close" ++
        13 :: 10 :: ((utf8 "Content-Length: " ++ decimal body.length) ++
          13 :: 10 :: 13 :: 10 :: body))) := by
    have hok : httpOk = utf8 "HTTP/1.1 200 OK" ++ [13, 10] := rfl
    have htype : contentTypeJson = utf8 "Content-Type: application/json" ++ [13, 10] := rfl
    have hclose : connectionClose = utf8 "Connection: close" ++ [13, 10] := rfl
    have hcrlf : crlf = [13, 10] := rfl
    simp only [buildResponse, hok, htype, hclose, hcrlf, List.append_assoc, List.cons_append,
      List.nil_append]
  rw [hlines, splitAtEmptyLine_line (by decide) (fun h => by cases h),
    splitAtEmptyLine_line (by decide) (fun h => by cases h),
    splitAtEmptyLine_line (by decide) (fun h => by cases h), splitAtEmptyLine_last hlength]
  rfl

theorem responseBody_buildResponse (body : Bytes) :
    responseBody (buildResponse body) = some body := by
  rw [responseBody, splitAtEmptyLine_buildResponse, Option.map_some]

theorem statusCode_buildResponse (body : Bytes) :
    statusCode (buildResponse body) = some (utf8 "200") := by
  rfl

def Known (path : Bytes) : Prop := path = utf8 "/data" ∨ path = utf8 "/" ∨ path = utf8 "/health"

structure Agrees (server : Server) (now : ℤ) (request response : Bytes) : Prop where
  data : ∀ path, Target request path → path = utf8 "/data" ∨ path = utf8 "/" →
    statusCode response = some (utf8 "200") ∧
      responseBody response = some (snapshotToJson now server.latestSnapshot)
  health : Target request (utf8 "/health") →
    statusCode response = some (utf8 "200") ∧ responseBody response = some healthBody
  notFound : (¬ ∃ path, Target request path ∧ Known path) →
    statusCode response = some (utf8 "404") ∧ responseBody response = some notFoundBody

/-- The status of a response agrees with the routing exactly on the known paths. -/
theorem handleClient_agrees_iff (server : Server) (now : ℤ) (received : Bytes)
    (hne : received ≠ []) (hlen : received.length ≤ 4095) :
    ∃ response, handleClient server now received = some response ∧
      (Agrees server now received response ↔ ∃ path, Target received path ∧ Known path) := by
  refine ⟨_, if_neg hne, ?_⟩
  rw [List.take_of_length_le hlen]
  have hroute : (utf8 "/health" = utf8 "/data" ∨ utf8 "/health" = utf8 "/") → False := by decide
  constructor
  · intro hagrees
    by_contra hunknown
    have hstatus := (hagrees.notFound hunknown).1
    rw [statusCode_buildResponse] at hstatus
    revert hstatus
    decide
  · intro hknown
    refine ⟨?_, ?_, fun hunknown => absurd hknown hunknown⟩
    · intro path htarget hpath
      rw [statusCode_buildResponse, responseBody_buildResponse, extractPath_of_target htarget,
        route, if_pos hpath]
      exact ⟨rfl, rfl⟩
    · intro htarget
      rw [statusCode_buildResponse, responseBody_buildResponse, extractPath_of_target htarget,
        route, if_neg hroute, if_pos rfl]
      exact ⟨rfl, rfl⟩

theorem handleClient_agrees_iff_health :
    ∃ response, handleClient {} 0 (utf8 "GET /health HTTP/1.1\r\n\r\n") = some response ∧
      (Agrees {} 0 (utf8 "GET /health HTTP/1.1\r\n\r\n") response ↔
        ∃ path, Target (utf8 "GET /health HTTP/1.1\r\n\r\n") path ∧ Known path) :=
  handleClient_agrees_iff {} 0 (utf8 "GET /health HTTP/1.1\r\n\r\n") (by decide) (by decide)

/-- An unknown path is answered with the status of a known one. -/
theorem unknown_path_ok :
    ∃ response, handleClient {} 0 (utf8 "GET /x HTTP/1.1\r\n\r\n") = some response ∧
      ¬ Agrees {} 0 (utf8 "GET /x HTTP/1.1\r\n\r\n") response := by
  refine ⟨_, rfl, ?_⟩
  intro hagrees
  have hunknown : ¬ ∃ path, Target (utf8 "GET /x HTTP/1.1\r\n\r\n") path ∧ Known path := by
    intro hexists
    obtain ⟨path, htarget, hknown⟩ := hexists
    have hpath : utf8 "/x" = path := extractPath_of_target htarget
    rw [← hpath] at hknown
    revert hknown
    unfold Known
    decide
  have hstatus := (hagrees.notFound hunknown).1
  rw [statusCode_buildResponse] at hstatus
  revert hstatus
  decide

end SolakonMonitor.HttpServer
