import SolakonMonitor.ClientConnect
import SolakonMonitor.Descriptors
import SolakonMonitor.ReplyFrames
import SolakonMonitor.SnapshotFields

/-!
Who closes the Modbus socket.
Every call of the device leaves the process with the one socket of its connection or with
none. The end of the device closes nothing: its implementation is behind a plain pointer,
and the client's destructor, which would disconnect, never runs.
-/
namespace SolakonMonitor.SocketOwnership

open BigEndian DecimalText Ipv4 ModbusClient ClientConnect Device SnapshotFields ReplyFrames
open Descriptors

/-- A call of the device, with what the system answers in it. -/
inductive Call (σ : Type) where
  | connect (host : Bytes) (port : UInt16) (socket : Except Errno Fd) (refused : Option Errno)
  | disconnect
  | fetchSnapshot (sock : Socket σ) (net : σ) (now : ℤ) (val s3 : UInt32)

/-- The system calls of one call, on the sockets that the process has open. -/
def kernel (socket : Except Errno Fd) (refused : Option Errno) : Sockets (Table Int32) where
  socket t := (socket, match socket with
    | .ok fd => t.enter fd.val
    | .error _ => t)
  connect _ _ _ t := (refused, t)
  close fd t := t.close fd

def deviceConnect {τ : Type} (sys : Sockets τ) (pton : InetPton) (device : SolakonDevice)
    (host : Bytes) (port : UInt16) (net : τ) : Bool × SolakonDevice × τ :=
  let client := device.impl.getD {}
  let (connected, result) := implConnect sys pton client host port net
  (connected, ⟨some result.client⟩, result.net)

def deviceDisconnect {τ : Type} (sys : Sockets τ) (device : SolakonDevice) (net : τ) :
    SolakonDevice × τ :=
  match device.impl with
  | none => (device, net)
  | some client =>
    let (client, net) := ClientConnect.disconnect sys client net
    (⟨some client⟩, net)

def deviceIsConnected (device : SolakonDevice) : Bool := device.impl.any isConnected

structure Process where
  device : SolakonDevice
  sockets : Table Int32

def Process.initial : Process := ⟨{}, .empty⟩

variable {σ : Type}

/-- none is an access outside a buffer. -/
def step (pton : InetPton) (st : Process) : Call σ → Option Process
  | .connect host port socket refused =>
    let (_, device, sockets) :=
      deviceConnect (kernel socket refused) pton st.device host port st.sockets
    some ⟨device, sockets⟩
  | .disconnect =>
    -- no socket is asked for here
    let (device, sockets) :=
      deviceDisconnect (kernel (.error ⟨24, by decide⟩) none) st.device st.sockets
    some ⟨device, sockets⟩
  | .fetchSnapshot sock net now val s3 =>
    (st.device.fetchOver sock now val s3 net).map (fun p => { st with device := p.2.1 })

def run (pton : InetPton) (calls : List (Call σ)) : Option Process :=
  calls.foldlM (step pton) .initial

/-- `~SolakonDevice() = default` drops the pointer to the implementation and nothing else. -/
def destroy (st : Process) : Process := { st with device := {} }

/-- One socket is open while the device is connected and none otherwise, and no descriptor has
been closed that was not open. -/
structure Exclusive (st : Process) : Prop where
  connected : deviceIsConnected st.device = true → st.sockets.opened.length = 1
  disconnected : deviceIsConnected st.device = false → st.sockets.opened = []
  closedOnce : st.sockets.stray = 0

/-- The sockets are owned throughout the calls, and none is left open after the device's end. -/
structure Owns (pton : InetPton) (calls : List (Call σ)) : Prop where
  throughout : ∀ before, before <+: calls → ∃ st, run pton before = some st ∧ Exclusive st
  afterwards : ∃ st, run pton calls = some st ∧ (destroy st).sockets.opened = [] ∧
    (destroy st).sockets.stray = 0

/-- Whether the device is connected after a call, by what the system answers. -/
def staysConnected (connected : Bool) : Call σ → Bool
  | .connect _ _ (.ok _) none => true
  | .connect _ _ _ _ => false
  | .disconnect => false
  | .fetchSnapshot _ _ _ _ _ => connected

/-- The last of the connects and disconnects is a connect that got a socket and was accepted. -/
def endsConnected (calls : List (Call σ)) : Bool := calls.foldl staysConnected false

def heldSockets (device : SolakonDevice) : List Int32 :=
  (device.impl.toList.filter isConnected).map Client.socketFd

/-- The open sockets are those that the device knows of. -/
structure Tracked (device : SolakonDevice) (sockets : Table Int32) : Prop where
  opened : sockets.opened.map Prod.fst = heldSockets device
  closedOnce : sockets.stray = 0

theorem heldSockets_connected {client : Client} (h : isConnected client = true) :
    heldSockets ⟨some client⟩ = [client.socketFd] := by
  simp only [heldSockets, Option.toList_some, List.filter_cons, h, if_true, List.filter_nil,
    List.map_cons, List.map_nil]

theorem heldSockets_disconnected {client : Client} (h : isConnected client = false) :
    heldSockets ⟨some client⟩ = [] := by
  simp only [heldSockets, Option.toList_some, List.filter_cons, h, Bool.false_eq_true, if_false,
    List.filter_nil, List.map_nil]

theorem heldSockets_congr {client client' : Client} (h : client'.socketFd = client.socketFd) :
    heldSockets ⟨some client'⟩ = heldSockets ⟨some client⟩ := by
  have hconnected : isConnected client' = isConnected client := by
    rw [isConnected, isConnected, h]
  cases hclient : isConnected client with
  | true =>
    rw [heldSockets_connected hclient, heldSockets_connected (hconnected.trans hclient), h]
  | false =>
    rw [heldSockets_disconnected hclient, heldSockets_disconnected (hconnected.trans hclient)]

theorem isConnected_released (client : Client) :
    isConnected { client with socketFd := -1 } = false := by
  change decide ((0 : Int32) ≤ -1) = false
  decide

theorem isConnected_fd (client : Client) (fd : Fd) :
    isConnected { client with socketFd := fd.val } = true :=
  decide_eq_true fd.property

theorem Tracked.none_open {device : SolakonDevice} {sockets : Table Int32}
    (h : Tracked device sockets) (hheld : heldSockets device = []) : sockets.opened = [] := by
  have hopened := h.opened
  rw [hheld] at hopened
  exact List.map_eq_nil_iff.mp hopened

theorem disconnect_releases (socket : Except Errno Fd) (refused : Option Errno) {client : Client}
    {sockets : Table Int32} (h : Tracked ⟨some client⟩ sockets) :
    isConnected (disconnect (kernel socket refused) client sockets).1 = false ∧
      (disconnect (kernel socket refused) client sockets).2.opened = [] ∧
      (disconnect (kernel socket refused) client sockets).2.stray = 0 := by
  cases hconnected : isConnected client with
  | true =>
    have hopened := h.opened
    rw [heldSockets_connected hconnected] at hopened
    obtain ⟨hnone, hstray⟩ := Table.close_single hopened
    rw [disconnect, if_pos hconnected]
    exact ⟨isConnected_released client, hnone, hstray.trans h.closedOnce⟩
  | false =>
    rw [disconnect, hconnected, if_neg Bool.false_ne_true]
    exact ⟨hconnected, h.none_open (heldSockets_disconnected hconnected), h.closedOnce⟩

/-- A connect opens one socket and keeps it, or closes what it opened. -/
theorem connect_tracked (pton : InetPton) (host : Bytes) (port : UInt16)
    (socket : Except Errno Fd) (refused : Option Errno) {client : Client} {sockets : Table Int32}
    (h : Tracked ⟨some client⟩ sockets) :
    Tracked ⟨some (connect (kernel socket refused) pton client host port sockets).client⟩
        (connect (kernel socket refused) pton client host port sockets).net ∧
      isConnected (connect (kernel socket refused) pton client host port sockets).client =
        staysConnected (isConnected client) (.connect host port socket refused : Call σ) := by
  obtain ⟨_, hnone, hstray⟩ := disconnect_releases socket refused h
  generalize hrest : disconnect (kernel socket refused) client sockets = rest at hnone hstray
  obtain ⟨client', sockets'⟩ := rest
  cases socket with
  | error errno =>
    have hconnect : connect (kernel (.error errno) refused) pton client host port sockets =
        ⟨some (.errno errno.val), { client' with socketFd := -1 }, none, sockets'⟩ := by
      rw [connect_eq, hrest]
      rfl
    rw [hconnect]
    refine ⟨⟨?_, hstray⟩, isConnected_released _⟩
    rw [heldSockets_disconnected (isConnected_released _)]
    exact congrArg (List.map Prod.fst) hnone
  | ok fd =>
    have hentered := Table.enter_empty hnone fd.val
    cases refused with
    | some errno =>
      have hconnect : connect (kernel (.ok fd) (some errno)) pton client host port sockets =
          ⟨some (.errno errno.val), { client' with socketFd := -1 },
            some (socketAddress pton host, port), (sockets'.enter fd.val).close fd.val⟩ := by
        rw [connect_eq, hrest]
        rfl
      obtain ⟨hclosed, hsame⟩ := Table.close_single hentered
      rw [hconnect]
      refine ⟨⟨?_, hsame.trans hstray⟩, isConnected_released _⟩
      rw [heldSockets_disconnected (isConnected_released _)]
      exact congrArg (List.map Prod.fst) hclosed
    | none =>
      have hconnect : connect (kernel (.ok fd) none) pton client host port sockets =
          ⟨none, { client' with socketFd := fd.val }, some (socketAddress pton host, port),
            sockets'.enter fd.val⟩ := by
        rw [connect_eq, hrest]
        rfl
      rw [hconnect]
      refine ⟨⟨?_, hstray⟩, isConnected_fd _ fd⟩
      rw [heldSockets_connected (isConnected_fd _ fd)]
      exact hentered

theorem readHoldingRegisters_socketFd {sock : Socket σ} {addr count : UInt16}
    {output : List UInt16} {link : Link σ} {result : (ℤ × List UInt16) × Link σ}
    (hrun : readHoldingRegisters sock addr count output link = some result) :
    result.2.client.socketFd = link.client.socketFd := by
  rw [readHoldingRegisters] at hrun
  split at hrun
  · rw [← Option.some.inj hrun]
  · dsimp only at hrun
    split at hrun
    · rw [← Option.some.inj hrun]
      rfl
    · split at hrun
      · rw [← Option.some.inj hrun]
        rfl
      · obtain ⟨out, _, heq⟩ := Option.map_eq_some_iff.mp hrun
        rw [← heq]
        rfl

theorem perform_keeps (sock : Socket σ) (f : Field) (link : Link σ) :
    ∃ answer link', f.read.perform sock link = some (answer, link') ∧
      link'.client.socketFd = link.client.socketFd := by
  have hle : f.read.quantity.toNat ≤ 127 := (read_quantity f).2.trans (by decide)
  obtain ⟨result, hrun⟩ := Option.ne_none_iff_exists'.mp (readHoldingRegisters_defined sock
    f.read.addr f.read.quantity (List.replicate f.read.quantity.toNat 0) link hle)
  have hperform := RegRead.perform_eq sock f.read link
  rw [hrun, Option.map_some] at hperform
  exact ⟨_, _, hperform, readHoldingRegisters_socketFd hrun⟩

/-- A fetch always comes to an end, on the socket it began with. -/
theorem fetchOver_keeps (sock : Socket σ) (client : Client) (net : σ) (now : ℤ)
    (val s3 : UInt32) :
    ∃ snap client' net', SolakonDevice.fetchOver sock ⟨some client⟩ now val s3 net =
        some (snap, ⟨some client'⟩, net') ∧
      client'.socketFd = client.socketFd := by
  have hreads : ∀ r ∈ Field.all.map Field.read, ∀ link : Link σ,
      link.client.socketFd = client.socketFd → ∃ answer link',
        RegRead.perform sock r link = some (answer, link') ∧
          link'.client.socketFd = client.socketFd := by
    intro r hr link hlink
    obtain ⟨f, _, rfl⟩ := List.mem_map.mp hr
    obtain ⟨answer, link', hrun, hfd⟩ := perform_keeps sock f link
    exact ⟨answer, link', hrun, hfd.trans hlink⟩
  have hstart : (Link.mk client net).client.socketFd = client.socketFd := rfl
  obtain ⟨snap, link', hrun, hfd⟩ :=
    (Field.asks_fetch now val s3).runWith_invariant hreads hstart
  refine ⟨snap, link'.client, link'.net, ?_, hfd⟩
  simp only [SolakonDevice.fetchOver, hrun, Option.map_some]

theorem tracked_fresh {device : SolakonDevice} {sockets : Table Int32}
    (h : Tracked device sockets) : Tracked ⟨some (device.impl.getD {})⟩ sockets := by
  obtain ⟨_ | client⟩ := device
  · refine ⟨?_, h.closedOnce⟩
    rw [h.none_open rfl, Option.getD_none, heldSockets_disconnected (isConnected_released {})]
    rfl
  · exact h

theorem step_tracked (pton : InetPton) {st : Process} (h : Tracked st.device st.sockets)
    (call : Call σ) :
    ∃ st', step pton st call = some st' ∧ Tracked st'.device st'.sockets ∧
      deviceIsConnected st'.device = staysConnected (deviceIsConnected st.device) call := by
  cases call with
  | connect host port socket refused =>
    obtain ⟨htracked, hconnected⟩ :=
      connect_tracked (σ := σ) pton host port socket refused (tracked_fresh h)
    refine ⟨_, rfl, htracked, hconnected.trans ?_⟩
    cases socket with
    | error errno => rfl
    | ok fd => cases refused <;> rfl
  | disconnect =>
    obtain ⟨⟨_ | client⟩, sockets⟩ := st
    · exact ⟨_, rfl, h, rfl⟩
    · obtain ⟨hconnected, hnone, hstray⟩ :=
        disconnect_releases (.error ⟨24, by decide⟩) none h
      refine ⟨_, rfl, ⟨?_, hstray⟩, hconnected⟩
      exact (congrArg (List.map Prod.fst) hnone).trans (heldSockets_disconnected hconnected).symm
  | fetchSnapshot sock net now val s3 =>
    obtain ⟨⟨_ | client⟩, sockets⟩ := st
    · exact ⟨_, rfl, h, rfl⟩
    · obtain ⟨snap, client', net', hrun, hfd⟩ := fetchOver_keeps sock client net now val s3
      refine ⟨⟨⟨some client'⟩, sockets⟩, ?_, ⟨?_, h.closedOnce⟩, ?_⟩
      · rw [step, hrun]
        rfl
      · exact h.opened.trans (heldSockets_congr hfd).symm
      · simp only [deviceIsConnected, Option.any_some, isConnected, hfd, staysConnected]

theorem run_tracked (pton : InetPton) (calls : List (Call σ)) :
    ∃ st, run pton calls = some st ∧ Tracked st.device st.sockets ∧
      deviceIsConnected st.device = endsConnected calls := by
  refine run_invariant (fun calls (st : Process) => Tracked st.device st.sockets ∧
    deviceIsConnected st.device = endsConnected calls) ⟨⟨rfl, rfl⟩, rfl⟩ ?_ calls
  intro calls st call ⟨htracked, hconnected⟩
  obtain ⟨st', hstep, htracked', hconnected'⟩ := step_tracked pton htracked call
  refine ⟨st', hstep, htracked', ?_⟩
  rw [hconnected', hconnected, endsConnected, endsConnected, List.foldl_append]
  rfl

theorem Tracked.exclusive {st : Process} (h : Tracked st.device st.sockets) : Exclusive st := by
  obtain ⟨⟨_ | client⟩, sockets⟩ := st
  · exact ⟨fun hconnected => (by cases hconnected), fun _ => h.none_open rfl, h.closedOnce⟩
  · refine ⟨?_, ?_, h.closedOnce⟩
    · intro hconnected
      have hlength := congrArg List.length h.opened
      rw [heldSockets_connected hconnected, List.length_map] at hlength
      exact hlength
    · intro hconnected
      exact h.none_open (heldSockets_disconnected hconnected)

/-- The sockets are owned in every run, to its end, exactly when the device does not end
connected: nothing closes the socket of a device that goes away. -/
theorem owns_iff (pton : InetPton) (calls : List (Call σ)) :
    Owns pton calls ↔ endsConnected calls = false := by
  obtain ⟨st, hrun, htracked, hconnected⟩ := run_tracked pton calls
  constructor
  · intro howns
    obtain ⟨st', hrun', hnone, _⟩ := howns.afterwards
    rw [hrun, Option.some.injEq] at hrun'
    subst hrun'
    rw [← hconnected]
    by_contra hopen
    rw [Bool.not_eq_false] at hopen
    have hone := htracked.exclusive.connected hopen
    have hzero : st.sockets.opened.length = 0 := congrArg List.length hnone
    omega
  · intro hends
    refine ⟨?_, st, hrun, ?_, htracked.closedOnce⟩
    · intro before _
      obtain ⟨st', hrun', htracked', _⟩ := run_tracked pton before
      exact ⟨st', hrun', htracked'.exclusive⟩
    · exact htracked.exclusive.disconnected (hconnected.trans hends)

def connectOnly : List (Call Unit) :=
  [.connect (utf8 "10.0.0.1") 502 (.ok (fdOf 3)) none]

/-- A device that goes away while connected leaves its socket open. -/
theorem not_owns_connected :
    ((run strictPton connectOnly).map destroy).map (fun st => st.sockets.opened) = some [(3, 0)] ∧
      ¬ Owns strictPton connectOnly := by
  have hopened : ((run strictPton connectOnly).map destroy).map (fun st => st.sockets.opened) =
      some [(3, 0)] := rfl
  refine ⟨hopened, ?_⟩
  intro howns
  obtain ⟨st, hrun, hnone, _⟩ := howns.afterwards
  rw [hrun, Option.map_some, Option.map_some, hnone, Option.some.injEq] at hopened
  cases hopened

end SolakonMonitor.SocketOwnership
