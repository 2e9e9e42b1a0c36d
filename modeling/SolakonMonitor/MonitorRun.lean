import SolakonMonitor.PassLoop
import SolakonMonitor.RefreshRate
import SolakonMonitor.ServerAnswers
import SolakonMonitor.ServerLifecycle
import SolakonMonitor.SnapshotFloats
import SolakonMonitor.SocketOwnership

/-!
The main program from the connection to its exit.
The device, the HTTP server and its thread are run together: a pass of a poll loop may fetch and
store a snapshot, and the thread goes on between two passes. Every way out closes what was
opened, and the server's answers are about the snapshots that were polled.
-/
namespace SolakonMonitor.MonitorRun

open BigEndian DecimalText Ipv4 ModbusClient ClientConnect Device ConfigLoader MainProgram
open RefreshRate StateMachine Descriptors ServerThread SocketOwnership SnapshotFloats

/-- What a pass of a poll loop meets: both clocks, the indeterminate locals of the fetch, the
steps of the server thread up to the next pass, and the key that was read. -/
structure Tick where
  steady : ℤ
  now : ℤ
  val : UInt32
  s3 : UInt32
  thread : List ServerThread.Answer
  key : Option UInt8

/-- `polled` records the snapshots with the time of the pass. -/
structure World (σ : Type) where
  device : SolakonDevice
  net : σ
  lastRefresh : ℤ
  thread : ServerThread.State := {}
  polled : List (ℤ × DeviceSnapshot) := []

/-- What a run meets; a poll loop whose ticks come to an end has got a signal, and `closing` are
the steps of the server thread after the stop. -/
structure Surroundings (σ : Type) where
  pton : InetPton
  socket : Except Errno Fd
  refused : Option Errno
  sock : Socket σ
  net : σ
  start : ℤ
  ticks : List Tick
  listening : ServerLifecycle.Answers
  closing : List ServerThread.Answer

def Surroundings.world {σ : Type} (s : Surroundings σ) (device : SolakonDevice) : World σ :=
  { device := device, net := s.net, lastRefresh := s.start }

structure Exit (σ : Type) where
  code : ℕ
  modbus : Table Int32
  listening : Table Int32
  thread : ServerThread.State
  polled : List (ℤ × DeviceSnapshot)
  net : σ

variable {σ : Type}

def quits (key : Option UInt8) : Bool := key = some 113 || key = some 81

/-- The snapshot comes back in single precision. -/
def fetch (sock : Socket σ) (tick : Tick) (w : World σ) : Option (DeviceSnapshot × World σ) :=
  (w.device.fetchOver sock tick.now tick.val tick.s3 w.net).map (fun p =>
    (stored p.1, { w with
      device := p.2.1
      net := p.2.2
      lastRefresh := tick.steady
      polled := w.polled ++ [(tick.steady, stored p.1)] }))

/-- The time since the last refresh has come to the interval. -/
def due (cfg : Config) (tick : Tick) (w : World σ) : Option Bool :=
  (refreshInterval cfg).map (fun interval =>
    interval.toInt ≤ elapsedMs tick.steady w.lastRefresh)

def terminalPass (cfg : Config) (sock : Socket σ) (tick : Tick) (w : World σ) :
    Option (World σ) := do
  let isDue ← due cfg tick w
  if cfg.once || isDue then
    let (_, w) ← fetch sock tick w
    return w
  else return w

def runThread (tick : Tick) (w : World σ) : World σ :=
  { w with thread := exec ServerThread.step w.thread (tick.thread.map .thread) }

def serverPass (cfg : Config) (sock : Socket σ) (tick : Tick) (w : World σ) :
    Option (World σ) := do
  let isDue ← due cfg tick w
  if isDue then
    let (snap, w) ← fetch sock tick w
    return runThread tick { w with thread := ServerThread.step w.thread (.update snap) }
  else return runThread tick w

/-- A loop is left after a pass by a key or, for one snapshot, at once. -/
def terminalLoop (cfg : Config) (sock : Socket σ) (ticks : List Tick) (w : World σ) :
    Option (World σ) :=
  PassLoop.loop (terminalPass cfg sock) (fun tick => cfg.once || quits tick.key) ticks w

def serverLoop (cfg : Config) (sock : Socket σ) (ticks : List Tick) (w : World σ) :
    Option (World σ) :=
  PassLoop.loop (serverPass cfg sock) (fun tick => quits tick.key) ticks w

/-- `join` returns when the thread has ended; none is a thread that is still running. -/
def join : List ServerThread.Answer → ServerThread.State → Option ServerThread.State
  | [], st => if st.phase.left = 0 then some st else none
  | answer :: rest, st =>
    if st.phase.left = 0 then some st else join rest (ServerThread.threadStep st answer)

theorem emfile_nonzero : (24 : Int32) ≠ 0 := by
  decide

/-- No socket is asked for. -/
def disconnect (device : SolakonDevice) (sockets : Table Int32) : SolakonDevice × Table Int32 :=
  deviceDisconnect (kernel (.error ⟨24, emfile_nonzero⟩) none) device sockets

/-- From the connection on; none is an access outside a buffer, a division by zero, a joinable
thread that is overwritten or destroyed, or a thread that is not joined. -/
def monitorRun (cfg : Config) (settings : Settings) (s : Surroundings σ) : Option (Exit σ) := do
  let (connected, device, sockets) :=
    deviceConnect (kernel s.socket s.refused) s.pton {} settings.host settings.modbusPort .empty
  if ¬ connected then return ⟨1, sockets, .empty, {}, [], s.net⟩
  else if ¬ cfg.server then
    let w ← terminalLoop cfg s.sock s.ticks (s.world device)
    return ⟨0, (disconnect w.device sockets).2, .empty, w.thread, w.polled, w.net⟩
  else
    let (started, server) ← ServerLifecycle.start s.listening .initial
    if ¬ started then
      let listening ← ServerLifecycle.destroy server
      return ⟨1, (disconnect device sockets).2, listening, {}, [], s.net⟩
    else
      let w ← serverLoop cfg s.sock s.ticks (s.world device)
      let thread ← join s.closing (ServerThread.step w.thread .stop)
      let listening ← ServerLifecycle.destroy (ServerLifecycle.stop server)
      return ⟨0, (disconnect w.device sockets).2, listening, thread, w.polled, w.net⟩

theorem fetch_records {sock : Socket σ} {tick : Tick} {w w' : World σ} {snap : DeviceSnapshot}
    (h : fetch sock tick w = some (snap, w')) :
    w'.lastRefresh = tick.steady ∧ w'.polled = w.polled ++ [(tick.steady, snap)] := by
  obtain ⟨p, _, heq⟩ := Option.map_eq_some_iff.mp h
  cases heq
  exact ⟨rfl, rfl⟩

/-- All that a pass of the terminal mode can do. -/
theorem terminalPass_cases {cfg : Config} {sock : Socket σ} {tick : Tick} {w w' : World σ}
    (h : terminalPass cfg sock tick w = some w') :
    ∃ isDue, due cfg tick w = some isDue ∧
      ((cfg.once || isDue) = true ∧ (∃ snap, fetch sock tick w = some (snap, w')) ∨
        ¬ (cfg.once || isDue) = true ∧ w' = w) := by
  simp only [terminalPass, Option.bind_eq_bind, Option.bind_eq_some_iff, Option.pure_def] at h
  obtain ⟨isDue, hdue, h⟩ := h
  refine ⟨isDue, hdue, ?_⟩
  split at h
  · rename_i hlate
    obtain ⟨⟨snap, w₁⟩, hfetch, heq⟩ := Option.bind_eq_some_iff.mp h
    cases heq
    exact .inl ⟨hlate, snap, hfetch⟩
  · rename_i hearly
    cases h
    exact .inr ⟨hearly, rfl⟩

theorem serverPass_cases {cfg : Config} {sock : Socket σ} {tick : Tick} {w w' : World σ}
    (h : serverPass cfg sock tick w = some w') :
    ∃ isDue, due cfg tick w = some isDue ∧
      (isDue = true ∧ (∃ snap w₁, fetch sock tick w = some (snap, w₁) ∧
          w' = runThread tick { w₁ with thread := ServerThread.step w₁.thread (.update snap) }) ∨
        ¬ isDue = true ∧ w' = runThread tick w) := by
  simp only [serverPass, Option.bind_eq_bind, Option.bind_eq_some_iff, Option.pure_def] at h
  obtain ⟨isDue, hdue, h⟩ := h
  refine ⟨isDue, hdue, ?_⟩
  split at h
  · rename_i hlate
    obtain ⟨⟨snap, w₁⟩, hfetch, heq⟩ := Option.bind_eq_some_iff.mp h
    cases heq
    exact .inl ⟨hlate, snap, w₁, hfetch, rfl⟩
  · rename_i hearly
    cases h
    exact .inr ⟨hearly, rfl⟩

theorem fetch_tracked (sock : Socket σ) (tick : Tick) {w : World σ} {sockets : Table Int32}
    (h : SocketOwnership.Tracked w.device sockets) :
    ∃ snap w', fetch sock tick w = some (snap, w') ∧
      SocketOwnership.Tracked w'.device sockets ∧ w'.thread = w.thread ∧
      w'.polled = w.polled ++ [(tick.steady, snap)] := by
  obtain ⟨⟨_ | client⟩, net, lastRefresh, thread, polled⟩ := w
  · exact ⟨_, _, rfl, h, rfl, rfl⟩
  · obtain ⟨snap, client', net', hrun, hfd⟩ :=
      fetchOver_keeps sock client net tick.now tick.val tick.s3
    refine ⟨stored snap,
      ⟨⟨some client'⟩, net', tick.steady, thread, polled ++ [(tick.steady, stored snap)]⟩, ?_,
      ⟨?_, h.closedOnce⟩, rfl, rfl⟩
    · rw [fetch, hrun]
      rfl
    · exact h.opened.trans (heldSockets_congr hfd).symm

/-- A pass of the server mode stores what it has fetched, and then the thread goes on. -/
theorem serverPass_gives {cfg : Config} {interval : Int32}
    (hinterval : refreshInterval cfg = some interval) (sock : Socket σ) (tick : Tick)
    {w : World σ} {sockets : Table Int32} (h : SocketOwnership.Tracked w.device sockets) :
    ∃ w', serverPass cfg sock tick w = some w' ∧ SocketOwnership.Tracked w'.device sockets ∧
      ∃ snaps, w'.polled.map Prod.snd = w.polled.map Prod.snd ++ snaps ∧
        w'.thread = exec ServerThread.step w.thread
          (snaps.map .update ++ tick.thread.map .thread) := by
  have hdue : due cfg tick w =
      some (decide (interval.toInt ≤ elapsedMs tick.steady w.lastRefresh)) := by
    rw [due, hinterval, Option.map_some]
  by_cases hlate : interval.toInt ≤ elapsedMs tick.steady w.lastRefresh
  · obtain ⟨snap, w', hfetch, htracked, hthread, hpolled⟩ := fetch_tracked sock tick h
    rw [decide_eq_true hlate] at hdue
    refine ⟨runThread tick { w' with thread := ServerThread.step w'.thread (.update snap) }, ?_,
      htracked, [snap], ?_, ?_⟩
    · simp only [serverPass, hdue, hfetch, if_true, Option.bind_eq_bind, Option.bind_some,
        Option.pure_def]
    · rw [runThread, hpolled, List.map_append]
      rfl
    · rw [runThread, hthread]
      rfl
  · rw [decide_eq_false hlate] at hdue
    refine ⟨runThread tick w, ?_, h, [], (List.append_nil _).symm, rfl⟩
    simp only [serverPass, hdue, Bool.false_eq_true, if_false, Option.bind_eq_bind,
      Option.bind_some, Option.pure_def]

theorem terminalPass_gives {cfg : Config} {interval : Int32}
    (hinterval : refreshInterval cfg = some interval) (sock : Socket σ) (tick : Tick)
    {w : World σ} {sockets : Table Int32} (h : SocketOwnership.Tracked w.device sockets) :
    ∃ w', terminalPass cfg sock tick w = some w' ∧ SocketOwnership.Tracked w'.device sockets ∧
      w'.thread = w.thread := by
  have hdue : due cfg tick w =
      some (decide (interval.toInt ≤ elapsedMs tick.steady w.lastRefresh)) := by
    rw [due, hinterval, Option.map_some]
  obtain ⟨snap, w', hfetch, htracked, hthread, _⟩ := fetch_tracked sock tick h
  rw [terminalPass, hdue, Option.bind_eq_bind, Option.bind_some]
  split
  · refine ⟨w', ?_, htracked, hthread⟩
    rw [hfetch]
    rfl
  · exact ⟨w, rfl, h, rfl⟩

/-- The server thread has been given the snapshots that were polled, in order. -/
def Reached (w : World σ) : Prop :=
  ∃ events, w.thread = exec ServerThread.step {} events ∧ .stop ∉ events ∧
    events.flatMap Event.updates = w.polled.map Prod.snd

theorem updates_thread (answers : List ServerThread.Answer) :
    (answers.map Event.thread).flatMap Event.updates = [] := by
  rw [List.flatMap_eq_nil_iff]
  intro event hevent
  obtain ⟨answer, _, rfl⟩ := List.mem_map.mp hevent
  rfl

theorem stop_not_mem (answers : List ServerThread.Answer) :
    Event.stop ∉ answers.map Event.thread := by
  intro hmem
  obtain ⟨answer, _, heq⟩ := List.mem_map.mp hmem
  cases heq

theorem serverPass_reached {w w' : World σ} {tick : Tick} (snaps : List DeviceSnapshot)
    (h : Reached w)
    (hthread : w'.thread = exec ServerThread.step w.thread
      (snaps.map .update ++ tick.thread.map .thread))
    (hpolled : w'.polled.map Prod.snd = w.polled.map Prod.snd ++ snaps) : Reached w' := by
  obtain ⟨events, hevents, hstop, hupdates⟩ := h
  refine ⟨events ++ (snaps.map .update ++ tick.thread.map .thread), ?_, ?_, ?_⟩
  · rw [hthread, hevents, ← exec_append]
  · refine List.not_mem_append hstop (List.not_mem_append ?_ (stop_not_mem _))
    intro hmem
    obtain ⟨snap, _, heq⟩ := List.mem_map.mp hmem
    cases heq
  · have hsnaps : (snaps.map Event.update).flatMap Event.updates = snaps := by
      rw [List.flatMap_map]
      exact List.flatMap_singleton' snaps
    rw [List.flatMap_append, List.flatMap_append, updates_thread, hsnaps, hupdates, hpolled,
      List.append_nil]

theorem serverLoop_reached {cfg : Config} {interval : Int32}
    (hinterval : refreshInterval cfg = some interval) (sock : Socket σ) (ticks : List Tick)
    {w : World σ} {sockets : Table Int32} (htracked : SocketOwnership.Tracked w.device sockets)
    (hreached : Reached w) :
    ∃ w', serverLoop cfg sock ticks w = some w' ∧
      SocketOwnership.Tracked w'.device sockets ∧ Reached w' := by
  let inv (w : World σ) : Prop := SocketOwnership.Tracked w.device sockets ∧ Reached w
  have hpass : ∀ tick w, inv w → ∃ w', serverPass cfg sock tick w = some w' ∧ inv w' := by
    intro tick w hw
    obtain ⟨w', hstep, htracked', snaps, hpolled, hthread⟩ :=
      serverPass_gives hinterval sock tick hw.1
    exact ⟨w', hstep, htracked', serverPass_reached snaps hw.2 hthread hpolled⟩
  exact PassLoop.loop_returns hpass _ ticks ⟨htracked, hreached⟩

theorem terminalLoop_tracked {cfg : Config} {interval : Int32}
    (hinterval : refreshInterval cfg = some interval) (sock : Socket σ) (ticks : List Tick)
    {w : World σ} {sockets : Table Int32} (htracked : SocketOwnership.Tracked w.device sockets) :
    ∃ w', terminalLoop cfg sock ticks w = some w' ∧
      SocketOwnership.Tracked w'.device sockets ∧ w'.thread = w.thread := by
  let inv (w' : World σ) : Prop :=
    SocketOwnership.Tracked w'.device sockets ∧ w'.thread = w.thread
  have hpass : ∀ tick w, inv w → ∃ w', terminalPass cfg sock tick w = some w' ∧ inv w' := by
    intro tick w hw
    obtain ⟨w', hstep, htracked', hthread⟩ := terminalPass_gives hinterval sock tick hw.1
    exact ⟨w', hstep, htracked', hthread.trans hw.2⟩
  exact PassLoop.loop_returns hpass _ ticks ⟨htracked, rfl⟩

/-- A stopped thread is joined after as many steps as it has left. -/
theorem join_ends (answers : List ServerThread.Answer) {st : ServerThread.State}
    (hstopped : st.running = false) (henough : st.phase.left ≤ answers.length) :
    ∃ events, join answers st = some (exec ServerThread.step st events) ∧
      (exec ServerThread.step st events).phase.left = 0 ∧
      events.flatMap Event.updates = [] := by
  induction answers generalizing st with
  | nil =>
    have hended : st.phase.left = 0 := Nat.le_zero.mp henough
    exact ⟨[], if_pos hended, hended, rfl⟩
  | cons answer rest ih =>
    by_cases hended : st.phase.left = 0
    · exact ⟨[], if_pos hended, hended, rfl⟩
    · have hnext := (threadStep_left hstopped answer).1
      rw [List.length_cons] at henough
      obtain ⟨events, hjoin, hleft, hupdates⟩ :=
        ih ((threadStep_running st answer).trans hstopped)
          (by omega : (ServerThread.threadStep st answer).phase.left ≤ rest.length)
      refine ⟨.thread answer :: events, ?_, hleft, hupdates⟩
      rw [join, if_neg hended, hjoin]
      rfl

theorem join_exec (answers : List ServerThread.Answer) {st st' : ServerThread.State}
    (hjoin : join answers st = some st') :
    ∃ events, st' = exec ServerThread.step st events ∧ events.flatMap Event.updates = [] := by
  induction answers generalizing st with
  | nil =>
    rw [join] at hjoin
    split at hjoin
    · cases hjoin
      exact ⟨[], rfl, rfl⟩
    · cases hjoin
  | cons answer rest ih =>
    rw [join] at hjoin
    split at hjoin
    · cases hjoin
      exact ⟨[], rfl, rfl⟩
    · obtain ⟨events, hevents, hupdates⟩ := ih hjoin
      exact ⟨.thread answer :: events, hevents, hupdates⟩

/-- Every socket of a table has been closed, exactly once. -/
structure AllClosed (sockets : Table Int32) : Prop where
  none : sockets.opened = []
  closedOnce : sockets.stray = 0

theorem disconnect_closes {device : SolakonDevice} {sockets : Table Int32}
    (h : SocketOwnership.Tracked device sockets) : AllClosed (disconnect device sockets).2 := by
  obtain ⟨_ | client⟩ := device
  · exact ⟨h.none_open rfl, h.closedOnce⟩
  · obtain ⟨_, hnone, hstray⟩ := disconnect_releases (.error ⟨24, emfile_nonzero⟩) none h
    exact ⟨hnone, hstray⟩

/-- The connection to the device comes about. -/
def Surroundings.connects (s : Surroundings σ) : Bool :=
  match s.socket, s.refused with
  | .ok _, none => true
  | _, _ => false

/-- The HTTP server gets its socket, its port and its backlog. -/
def Surroundings.listens (s : Surroundings σ) : Bool :=
  match s.listening.socket with
  | .ok _ => s.listening.setsockopt && s.listening.bind && s.listening.listen
  | .error _ => false

theorem connect_leaves (s : Surroundings σ) (host : Bytes) (port : UInt16) :
    ∃ device sockets,
      deviceConnect (kernel s.socket s.refused) s.pton {} host port .empty =
        (s.connects, device, sockets) ∧
      SocketOwnership.Tracked device sockets ∧ deviceIsConnected device = s.connects := by
  have hfresh : SocketOwnership.Tracked ⟨some {}⟩ .empty := ⟨rfl, rfl⟩
  obtain ⟨htracked, hconnected⟩ :=
    connect_tracked (σ := σ) s.pton host port s.socket s.refused hfresh
  refine ⟨_, _, ?_, htracked, hconnected.trans ?_⟩
  · rw [Surroundings.connects]
    cases s.socket with
    | error errno => rfl
    | ok fd => cases s.refused <;> rfl
  · rw [Surroundings.connects]
    cases s.socket with
    | error errno => rfl
    | ok fd => cases s.refused <;> rfl

/-- A device that is connected has a client that has not made a request. -/
theorem connect_client {s : Surroundings σ} {host : Bytes} {port : UInt16}
    {device : SolakonDevice} {sockets : Table Int32}
    (h : deviceConnect (kernel s.socket s.refused) s.pton {} host port .empty =
      (true, device, sockets)) :
    ∃ fd, s.socket = .ok fd ∧ device = ⟨some { socketFd := fd.val }⟩ := by
  cases hsocket : s.socket with
  | error errno =>
    rw [hsocket] at h
    cases h
  | ok fd =>
    cases hrefused : s.refused with
    | some errno =>
      rw [hsocket, hrefused] at h
      cases h
    | none =>
      rw [hsocket, hrefused] at h
      cases h
      exact ⟨fd, rfl, rfl⟩

/-- A start that fails leaves nothing to close, and one that succeeds is ended by a stop. -/
theorem start_leaves (answers : ServerLifecycle.Answers) :
    ∃ started server, ServerLifecycle.start answers .initial = some (started, server) ∧
      (started = false → ∃ listening, ServerLifecycle.destroy server = some listening ∧
        AllClosed listening) ∧
      ∃ listening, ServerLifecycle.destroy (ServerLifecycle.stop server) = some listening ∧
        AllClosed listening := by
  have hidle : ServerLifecycle.Kept .initial := .idle .empty rfl rfl
  obtain ⟨started, server, hstart, hkept, hfailed⟩ := ServerLifecycle.start_kept hidle answers
  have hdestroy : ∀ st : ServerLifecycle.Process, ServerLifecycle.Kept st →
      ∃ listening, ServerLifecycle.destroy st = some listening ∧ AllClosed listening := by
    intro st hst
    obtain ⟨hstopped, hserver, hopened⟩ := ServerLifecycle.stop_kept hst
    refine ⟨(ServerLifecycle.stop st).sockets, ?_, hopened, hstopped.stray⟩
    rw [ServerLifecycle.destroy, hserver, if_neg Bool.false_ne_true]
  exact ⟨started, server, hstart, fun _ => hdestroy server hkept,
    hdestroy _ (ServerLifecycle.stop_kept hkept).1⟩

theorem start_listens (s : Surroundings σ) :
    (ServerLifecycle.start s.listening .initial).map Prod.fst = some s.listens := by
  rw [Surroundings.listens, ServerLifecycle.start]
  cases hsocket : s.listening.socket with
  | error errno => rfl
  | ok fd =>
    cases hsetsockopt : s.listening.setsockopt <;> cases hbind : s.listening.bind <;>
      cases hlisten : s.listening.listen <;> rfl

/-- The exit code is zero exactly when the device was connected and, in server mode, the server
listened. -/
theorem monitorRun_code {cfg : Config} {settings : Settings} {s : Surroundings σ} {exit : Exit σ}
    (hrun : monitorRun cfg settings s = some exit) :
    exit.code = 0 ↔ s.connects = true ∧ (cfg.server = true → s.listens = true) := by
  obtain ⟨device, sockets, hconnect, _⟩ := connect_leaves s settings.host settings.modbusPort
  have hlistens := start_listens s
  simp only [monitorRun, hconnect, Option.bind_eq_bind, Option.pure_def] at hrun
  split at hrun
  · rename_i hconnects
    cases hrun
    simp [hconnects]
  · rename_i hconnects
    split at hrun
    · rename_i hterminal
      obtain ⟨w, _, heq⟩ := Option.bind_eq_some_iff.mp hrun
      cases heq
      simp [not_not.mp hconnects, hterminal]
    · rename_i hserver
      obtain ⟨⟨started, server⟩, hstart, heq⟩ := Option.bind_eq_some_iff.mp hrun
      rw [hstart, Option.map_some, Option.some.injEq] at hlistens
      dsimp only at hlistens heq
      split at heq
      · rename_i hfailed
        obtain ⟨listening, _, heq⟩ := Option.bind_eq_some_iff.mp heq
        cases heq
        simp [not_not.mp hserver, ← hlistens, hfailed]
      · rename_i hstarted
        obtain ⟨w, _, heq⟩ := Option.bind_eq_some_iff.mp heq
        obtain ⟨thread, _, heq⟩ := Option.bind_eq_some_iff.mp heq
        obtain ⟨listening, _, heq⟩ := Option.bind_eq_some_iff.mp heq
        cases heq
        simp [not_not.mp hconnects, ← hlistens, not_not.mp hstarted]

/-- Every client is let go, every answer is about a snapshot that was polled before its copy, and
later connections never see an older one. -/
structure AnswersPolled (thread : ServerThread.State) (polled : List (ℤ × DeviceSnapshot)) :
    Prop where
  closed : AllClosed thread.clients
  answered : ∀ exchange ∈ thread.finished, Delivered exchange ∧
    exchange.request.arrived <+: exchange.request.before ∧
    exchange.request.before <+: polled.map Prod.snd
  ordered : thread.finished.Pairwise (fun exchange later =>
    exchange.request.before <+: later.request.arrived)

theorem answersPolled_unserved (polled : List (ℤ × DeviceSnapshot)) : AnswersPolled {} polled :=
  ⟨⟨rfl, rfl⟩, List.forall_mem_nil _, List.Pairwise.nil⟩

/-- The thread that was given what was polled, and then stopped and joined. -/
theorem join_answersPolled {w : World σ} (hreached : Reached w)
    (closing : List ServerThread.Answer) (hclosing : 6 ≤ closing.length) :
    ∃ thread, join closing (ServerThread.step w.thread .stop) = some thread ∧
      AnswersPolled thread w.polled := by
  obtain ⟨events, hevents, _, hupdates⟩ := hreached
  have hleft : (ServerThread.step w.thread .stop).phase.left ≤ closing.length := by
    refine le_trans ?_ hclosing
    change w.thread.phase.left ≤ 6
    cases w.thread.phase <;> simp [Phase.left]
  obtain ⟨later, hjoin, hended, hnone⟩ := join_ends closing
    (show (ServerThread.step w.thread .stop).running = false from rfl) hleft
  have hthread : exec ServerThread.step (ServerThread.step w.thread .stop) later =
      exec ServerThread.step {} (events ++ .stop :: later) := by
    rw [exec_append, exec_cons, hevents]
  rw [hthread] at hjoin hended
  have hpolled : (events ++ .stop :: later).flatMap Event.updates = w.polled.map Prod.snd := by
    rw [List.flatMap_append, List.flatMap_cons, hnone, hupdates]
    exact List.append_nil _
  have htracked := exec_tracked (events ++ .stop :: later)
  have hsound := exec_sound (events ++ .stop :: later)
  have hordered := (exec_ordered (events ++ .stop :: later)).finished
  have hphase : (exec ServerThread.step {} (events ++ .stop :: later)).phase = .ended := by
    revert hended
    cases (exec ServerThread.step {} (events ++ .stop :: later)).phase <;> simp [Phase.left]
  refine ⟨_, hjoin, ⟨⟨htracked.ended hphase, htracked.closedOnce⟩, ?_, hordered.2⟩⟩
  intro exchange hexchange
  rw [← hpolled, ← exec_stored]
  exact ⟨hsound.finished exchange hexchange, hordered.1 exchange hexchange⟩

/-- Whatever the calls answer, the program comes to its end with every Modbus, listening and
client socket closed, once, and its answers are about what was polled. A server comes to it after
the steps that its thread has left: in accept the thread waits for a client, and the run in join
for the thread. -/
theorem monitor_closes {cfg : Config} (hlow : 1 ≤ cfg.refreshHz.toInt)
    (hhigh : cfg.refreshHz.toInt ≤ 60) (settings : Settings) (s : Surroundings σ)
    (hclosing : cfg.server = true → 6 ≤ s.closing.length) :
    ∃ exit, monitorRun cfg settings s = some exit ∧ AllClosed exit.modbus ∧
      AllClosed exit.listening ∧ AnswersPolled exit.thread exit.polled := by
  obtain ⟨interval, hinterval, _⟩ := refreshInterval_eq rfl hlow hhigh
  have hempty : AllClosed .empty := ⟨rfl, rfl⟩
  obtain ⟨device, sockets, hconnect, htracked, hheld⟩ :=
    connect_leaves s settings.host settings.modbusPort
  simp only [monitorRun, hconnect]
  cases hconnects : s.connects with
  | false =>
    have hexclusive : Exclusive ⟨device, sockets⟩ := SocketOwnership.Tracked.exclusive htracked
    have hnone : sockets.opened = [] := hexclusive.disconnected (hheld.trans hconnects)
    exact ⟨⟨1, sockets, .empty, {}, [], s.net⟩, rfl, ⟨hnone, htracked.closedOnce⟩, hempty,
      answersPolled_unserved []⟩
  | true =>
    cases hserver : cfg.server with
    | false =>
      obtain ⟨w', hloop, htracked', hthread⟩ :=
        terminalLoop_tracked (w := s.world device) hinterval s.sock s.ticks htracked
      refine ⟨⟨0, (disconnect w'.device sockets).2, .empty, w'.thread, w'.polled, w'.net⟩, ?_,
        disconnect_closes htracked', hempty, ?_⟩
      · simp only [hloop, Bool.false_eq_true, not_true_eq_false, not_false_eq_true, if_true,
          if_false, Option.bind_eq_bind, Option.bind_some, Option.pure_def]
      · rw [hthread]
        exact answersPolled_unserved w'.polled
    | true =>
      obtain ⟨started, server, hstart, hfailed, listening, hdestroyed, hclosed⟩ :=
        start_leaves s.listening
      cases started with
      | false =>
        obtain ⟨listening', hdestroyed', hclosed'⟩ := hfailed rfl
        refine ⟨⟨1, (disconnect device sockets).2, listening', {}, [], s.net⟩, ?_,
          disconnect_closes htracked, hclosed', answersPolled_unserved []⟩
        simp only [hstart, hdestroyed', Bool.false_eq_true, not_true_eq_false, not_false_eq_true,
          if_true, if_false, Option.bind_eq_bind, Option.bind_some, Option.pure_def]
      | true =>
        have hreached : Reached (s.world device) := ⟨[], rfl, List.not_mem_nil, rfl⟩
        obtain ⟨w', hloop, htracked', hreached'⟩ :=
          serverLoop_reached hinterval s.sock s.ticks htracked hreached
        obtain ⟨thread, hjoin, hanswers⟩ := join_answersPolled hreached' s.closing (hclosing hserver)
        refine ⟨⟨0, (disconnect w'.device sockets).2, listening, thread, w'.polled, w'.net⟩, ?_,
          disconnect_closes htracked', hclosed, hanswers⟩
        simp only [hstart, hloop, hjoin, hdestroyed, not_true_eq_false, if_false,
          Option.bind_eq_bind, Option.bind_some, Option.pure_def]

/-- The server thread of a run has been given what the loop has polled, or has not been
started. -/
theorem monitorRun_thread {cfg : Config} (hlow : 1 ≤ cfg.refreshHz.toInt)
    (hhigh : cfg.refreshHz.toInt ≤ 60) {settings : Settings} {s : Surroundings σ} {exit : Exit σ}
    (hrun : monitorRun cfg settings s = some exit) :
    exit.thread = {} ∨ ∃ device w events, deviceIsConnected device = true ∧
      serverLoop cfg s.sock s.ticks (s.world device) = some w ∧ exit.polled = w.polled ∧
      exit.thread = exec ServerThread.step {} events ∧
      events.flatMap Event.updates = w.polled.map Prod.snd := by
  obtain ⟨interval, hinterval, _⟩ := refreshInterval_eq rfl hlow hhigh
  obtain ⟨device, sockets, hconnect, htracked, hheld⟩ :=
    connect_leaves s settings.host settings.modbusPort
  simp only [monitorRun, hconnect, Option.bind_eq_bind, Option.pure_def] at hrun
  split at hrun
  · cases hrun
    exact Or.inl rfl
  · rename_i hconnects
    split at hrun
    · obtain ⟨w, hloop, heq⟩ := Option.bind_eq_some_iff.mp hrun
      obtain ⟨w', hloop', _, hthread⟩ :=
        terminalLoop_tracked (w := s.world device) hinterval s.sock s.ticks htracked
      have hsame := hloop.symm.trans hloop'
      cases hsame
      cases heq
      exact Or.inl hthread
    · obtain ⟨started, _, heq⟩ := Option.bind_eq_some_iff.mp hrun
      split at heq
      · obtain ⟨listening, _, heq⟩ := Option.bind_eq_some_iff.mp heq
        cases heq
        exact Or.inl rfl
      · obtain ⟨w, hloop, heq⟩ := Option.bind_eq_some_iff.mp heq
        obtain ⟨thread, hjoin, heq⟩ := Option.bind_eq_some_iff.mp heq
        obtain ⟨listening, _, heq⟩ := Option.bind_eq_some_iff.mp heq
        cases heq
        have hstart : Reached (s.world device) := ⟨[], rfl, List.not_mem_nil, rfl⟩
        obtain ⟨w', hloop', _, events, hevents, _, hupdates⟩ :=
          serverLoop_reached hinterval s.sock s.ticks htracked hstart
        have hsame := hloop.symm.trans hloop'
        cases hsame
        obtain ⟨later, hlater, hnone⟩ := join_exec s.closing hjoin
        refine Or.inr ⟨device, w, events ++ .stop :: later, ?_, hloop, rfl, ?_, ?_⟩
        · exact hheld.trans (not_not.mp hconnects)
        · rw [hlater, exec_append, exec_cons, hevents]
        · rw [List.flatMap_append, List.flatMap_cons, hnone, hupdates]
          exact List.append_nil _

/-- What a run has polled, and what it has left of the network, is its loop's, when it has come
to one. -/
theorem monitorRun_loop {cfg : Config} {settings : Settings} {s : Surroundings σ} {exit : Exit σ}
    (hrun : monitorRun cfg settings s = some exit) :
    exit.code = 1 ∧ exit.polled = [] ∧ exit.net = s.net ∨ ∃ device sockets w, exit.code = 0 ∧
      deviceConnect (kernel s.socket s.refused) s.pton {} settings.host settings.modbusPort
        .empty = (true, device, sockets) ∧
      SocketOwnership.Tracked device sockets ∧
      (if cfg.server then serverLoop cfg s.sock s.ticks (s.world device)
        else terminalLoop cfg s.sock s.ticks (s.world device)) = some w ∧
      exit.polled = w.polled ∧ exit.net = w.net := by
  obtain ⟨device, sockets, hconnect, htracked, _⟩ :=
    connect_leaves s settings.host settings.modbusPort
  simp only [monitorRun, hconnect, Option.bind_eq_bind, Option.pure_def] at hrun
  split at hrun
  · cases hrun
    exact Or.inl ⟨rfl, rfl, rfl⟩
  · rename_i hconnects
    rw [not_not.mp hconnects] at hconnect
    split at hrun
    · rename_i hserver
      obtain ⟨w, hloop, heq⟩ := Option.bind_eq_some_iff.mp hrun
      cases heq
      exact Or.inr ⟨device, sockets, w, rfl, hconnect, htracked, by rw [if_neg hserver, hloop], rfl,
        rfl⟩
    · rename_i hserver
      obtain ⟨started, _, heq⟩ := Option.bind_eq_some_iff.mp hrun
      split at heq
      · obtain ⟨listening, _, heq⟩ := Option.bind_eq_some_iff.mp heq
        cases heq
        exact Or.inl ⟨rfl, rfl, rfl⟩
      · obtain ⟨w, hloop, heq⟩ := Option.bind_eq_some_iff.mp heq
        obtain ⟨thread, _, heq⟩ := Option.bind_eq_some_iff.mp heq
        obtain ⟨listening, _, heq⟩ := Option.bind_eq_some_iff.mp heq
        cases heq
        refine Or.inr ⟨device, sockets, w, rfl, hconnect, htracked, ?_, rfl, rfl⟩
        rw [if_pos (not_not.mp hserver), hloop]

def idleAnswer : ServerThread.Answer := ⟨none, [], 0, 0⟩

/-- A network that has nothing to say, a pass that is early and one that is due. -/
def twoPasses : Surroundings Unit where
  pton := strictPton
  socket := .ok (fdOf 3)
  refused := none
  sock := ⟨fun _ _ net => (.error 104, net), fun _ _ net => (.failed 104, net)⟩
  net := ()
  start := 0
  ticks := [⟨500000000, 0, 0, 0, [idleAnswer], none⟩, ⟨1100000000, 0, 0, 0, [idleAnswer], some 113⟩]
  listening := ⟨.ok (fdOf 4), true, true, true⟩
  closing := List.replicate 6 idleAnswer

def serving : Config := { server := true }

theorem twoPasses_runs : ∃ exit, monitorRun serving {} twoPasses = some exit :=
  Option.isSome_iff_exists.mp (by decide +kernel)

end SolakonMonitor.MonitorRun
