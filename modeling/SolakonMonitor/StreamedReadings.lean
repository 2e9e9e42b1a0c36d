import SolakonMonitor.MonitorOutput
import SolakonMonitor.ServedReadings

/-!
What a reader of the terminal's JSON reads of the device's registers.
On a device that answers promptly, the documents of a whole run are those of its polls, one for
each in order: their numbers are the registers' contents, stored in single precision and rounded
to the decimals that are printed.
-/
namespace SolakonMonitor.StreamedReadings

open BigEndian DecimalText JsonText Rounding NumberValue ModbusClient ModbusSession Device
open TerminalScreen TerminalUi JsonEmitters ConfigLoader MainProgram SocketOwnership MonitorRun
open OneShotOutput WireTraffic ServedReadings MonitorOutput SnapshotFloats

def decimalsOf (r : Reading) : ℕ :=
  ((printed.find? (fun q => q.field = r.field)).map Printed.decimals).getD 0

/-- Each number of the document is a field of the snapshot in a fixed format. -/
theorem numberAt_rendered (seconds : ℤ) (snap : DeviceSnapshot) :
    ∀ r ∈ readings, numberAt r.outer r.key (rendered seconds snap) =
      some (numberValue (fixedText (decimalsOf r) (quantityOf snap r.field))) := by
  simp only [readings, List.forall_mem_cons, List.not_mem_nil, false_implies, implies_true,
    and_true]
  repeat' constructor

/-- A number as it is printed of its content: what is stored of the content, rounded to the
decimals, and so no further from the content than half of the last one and a part in eight
million. -/
structure AsPrinted (r : Reading) (q v : ℚ) : Prop where
  rounds : Rounds (10 ^ (-decimalsOf r : ℤ)) (storedNumber r.places q) v
  close : |v - q| ≤ 10 ^ (-decimalsOf r : ℤ) / 2 + |q| / 8000000

theorem printed_stored {r : Reading} (hr : r ∈ readings) (q : ℚ) :
    AsPrinted r q (numberValue (fixedText (decimalsOf r) (storedNumber r.places q))) := by
  have hrounds := numberValue_fixedText (decimalsOf r) (storedNumber r.places q)
  refine ⟨hrounds, ?_⟩
  have hprinted := hrounds.abs_sub_le (ten_zpow_pos _)
  rw [abs_sub_comm] at hprinted
  have hstored := storedNumber_near (readings_places r hr) q
  have htriangle := abs_sub_le (numberValue (fixedText (decimalsOf r) (storedNumber r.places q)))
    (storedNumber r.places q) q
  linarith

/-- The document of a poll, by its place among the polls of the run. -/
structure Streamed (p : Peer) (poll : ℕ) (doc : Json) : Prop where
  valid : member (utf8 "valid") doc = some (.bool true)
  numbers : ∀ r ∈ readings, ∃ v, numberAt r.outer r.key doc = some v ∧
    AsPrinted r (reading p (poll + 1) r) v

theorem rendered_streamed {p : Peer} (n : ℕ) {snap : DeviceSnapshot} (seconds : ℤ)
    (h : Gives (pollOutcomes p (n * pollReads.length)) snap) :
    Streamed p n (rendered seconds snap) := by
  have hquantity := quantityOf_poll h
  refine ⟨?_, ?_⟩
  · obtain ⟨now, val, s3, rfl⟩ := h
    rfl
  · intro r hr
    refine ⟨_, numberAt_rendered seconds snap r hr, ?_⟩
    rw [hquantity r hr]
    exact printed_stored hr _

/-- In a whole run of the terminal mode in JSON on a device that answers promptly, a reader of the
stream gets one document for each poll, in order: each number in it is the content of the
registers of its field when that poll made the request for it, stored in single precision and
rounded as it is printed. -/
theorem stream_reports {p : Peer} (hprompt : ∀ j, p.schedule j ≠ none) {cfg : Config}
    (hjson : cfg.json = true) (hterminal : cfg.server = false) {settings : Settings}
    {s : Surroundings Wire} (hsock : s.sock = p.socket) (hnet : s.net = {}) {frames : List Frame}
    (hticks : s.ticks = frames.map Frame.toTick) {exit : Exit Wire}
    (hrun : monitorRun cfg settings s = some exit) (hzero : exit.code = 0) (winsize : Winsize) :
    ∃ stream docs, monitorText cfg settings s winsize frames =
        some (connectingText settings ++ (initText ++ connectedText ++ stream ++ shutdownText)) ∧
      readDocuments (stream ++ shutdownText) = (docs, shutdownText) ∧
      docs.length = exit.polled.length ∧
      ∀ (n : ℕ) (doc : Json), docs[n]? = some doc → Streamed p n doc := by
  obtain ⟨shown, hpolls, htext⟩ := terminal_prints hterminal hticks hrun hzero winsize
  refine ⟨_, shown.map document, htext, readDocuments_drawn hjson _ shown, ?_, ?_⟩
  · rw [hpolls.polled, List.length_map, List.length_map]
  · intro n doc hdoc
    rw [List.getElem?_map] at hdoc
    obtain ⟨f, hf, rfl⟩ := Option.map_eq_some_iff.mp hdoc
    rcases monitorRun_loop hrun with
      ⟨hfailed, _⟩ | ⟨device, sockets, w, _, hconnect, _, hloop, hpolled, _⟩
    · omega
    · obtain ⟨fd, _, rfl⟩ := connect_client hconnect
      rw [hterminal, if_neg Bool.false_ne_true, hsock] at hloop
      have hw := PassLoop.loop_keeps (fun _ _ _ => terminalPass_polled hprompt) s.ticks
        (polled_start p hnet rfl) hloop
      refine rendered_streamed n _ (hw.snapshots n f.2 ?_)
      rw [← hpolled, hpolls.polled, List.map_map, List.getElem?_map, hf]
      rfl

def oneFrame : List Frame := oneRequest.ticks.map (fun tick => ⟨tick, 1722883200000000000, none⟩)

theorem stream_reports_oneFrame :
    ∃ exit, monitorRun { json := true } {} oneRequest = some exit ∧ exit.polled.length = 1 ∧
      ∃ stream docs, monitorText { json := true } {} oneRequest none oneFrame =
          some (connectingText {} ++ (initText ++ connectedText ++ stream ++ shutdownText)) ∧
        readDocuments (stream ++ shutdownText) = (docs, shutdownText) ∧
        docs.length = exit.polled.length ∧
        ∀ (n : ℕ) (doc : Json), docs[n]? = some doc → Streamed countingPeer n doc := by
  have hpolled : (monitorRun { json := true } {} oneRequest).map
      (fun exit => exit.polled.length) = some 1 := by
    decide +kernel
  obtain ⟨exit, hrun, hone⟩ := Option.map_eq_some_iff.mp hpolled
  have hzero : exit.code = 0 := (monitorRun_code hrun).mpr ⟨rfl, fun _ => rfl⟩
  exact ⟨exit, hrun, hone,
    stream_reports (fun _ => Option.some_ne_none 300) rfl rfl rfl rfl rfl hrun hzero none⟩

end SolakonMonitor.StreamedReadings
