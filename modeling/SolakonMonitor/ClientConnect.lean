import SolakonMonitor.ModbusClient
import SolakonMonitor.SubnetText

/-!
Where the Modbus client connects to.
The system's sockets are a parameter with a state of their own, and so is the parser of
dotted texts. What the parser says about the host is not looked at: a text it rejects
leaves the zeroed address as it is, and the connection is attempted to that.
-/
namespace SolakonMonitor.ClientConnect

open BigEndian DecimalText Ipv4 ModbusClient SubnetText

/-- A number that `errno` holds after a failure. -/
abbrev Errno := { errno : Int32 // errno ≠ 0 }

/-- Descriptors are not negative. -/
abbrev Fd := { fd : Int32 // 0 ≤ fd }

theorem small_nonneg (n : UInt8) : 0 ≤ Int32.ofNat n.toNat := by
  have hlt := n.toNat_lt
  have hvalue : (Int32.ofNat n.toNat).toInt = n.toNat := Int32.toInt_ofNat_of_lt (by omega)
  rw [Int32.le_iff_toInt_le, hvalue]
  exact Int.natCast_nonneg _

def fdOf (n : UInt8) : Fd := ⟨Int32.ofNat n.toNat, small_nonneg n⟩

/-- `connect` is given the address and the port as the network reads them, and fails with an
errno. -/
structure Sockets (σ : Type) where
  socket : σ → Except Errno Fd × σ
  connect : Int32 → UInt32 → UInt16 → σ → Option Errno × σ
  close : Int32 → σ → σ

/-- What a call leaves behind: the error it returns, the client, and where it tried to
connect. -/
structure Connected (σ : Type) where
  error : Option ErrorCode
  client : Client
  attempt : Option (UInt32 × UInt16)
  net : σ

variable {σ : Type}

def isConnected (client : Client) : Bool := 0 ≤ client.socketFd

def disconnect (sys : Sockets σ) (client : Client) (net : σ) : Client × σ :=
  if isConnected client then
    ({ client with socketFd := -1 }, sys.close client.socketFd net)
  else (client, net)

def socketAddress (pton : InetPton) (host : Bytes) : UInt32 :=
  match pton.parse (cString host) with
  | some x => x
  | none => 0

def connect (sys : Sockets σ) (pton : InetPton) (client : Client) (host : Bytes) (port : UInt16)
    (net : σ) : Connected σ :=
  let (client, net) := if isConnected client then disconnect sys client net else (client, net)
  match sys.socket net with
  | (.error errno, net) =>
    ⟨some (.errno errno.val), { client with socketFd := -1 }, none, net⟩
  | (.ok fd, net) =>
    let addr := socketAddress pton host
    match sys.connect fd.val addr port net with
    | (some errno, net) =>
      ⟨some (.errno errno.val), { client with socketFd := -1 }, some (addr, port),
        sys.close fd.val net⟩
    | (none, net) => ⟨none, { client with socketFd := fd.val }, some (addr, port), net⟩

def implConnect (sys : Sockets σ) (pton : InetPton) (client : Client) (host : Bytes)
    (port : UInt16) (net : σ) : Bool × Connected σ :=
  ((connect sys pton client host port net).error.isNone, connect sys pton client host port net)

/-- A connection is attempted to the address that the text stands for, or not at all, with
an error and no connection left. -/
structure Honoured (pton : InetPton) (host : Bytes) (port : UInt16) (result : Connected σ) :
    Prop where
  attempted : ∀ attempt ∈ result.attempt, pton.parse host = some attempt.1 ∧ attempt.2 = port
  refused : result.attempt = none →
    (∃ error, result.error = some error) ∧ isConnected result.client = false

/-- No socket is to be had once the old connection is closed. -/
def NoSocket (sys : Sockets σ) (client : Client) (net : σ) : Prop :=
  ∃ errno, (sys.socket (disconnect sys client net).2).1 = .error errno

theorem connect_eq (sys : Sockets σ) (pton : InetPton) (client : Client) (host : Bytes)
    (port : UInt16) (net : σ) :
    connect sys pton client host port net =
      match sys.socket (disconnect sys client net).2 with
      | (.error errno, net') =>
        ⟨some (.errno errno.val), { (disconnect sys client net).1 with socketFd := -1 }, none, net'⟩
      | (.ok fd, net') =>
        match sys.connect fd.val (socketAddress pton host) port net' with
        | (some errno, net'') =>
          ⟨some (.errno errno.val), { (disconnect sys client net).1 with socketFd := -1 },
            some (socketAddress pton host, port), sys.close fd.val net''⟩
        | (none, net'') =>
          ⟨none, { (disconnect sys client net).1 with socketFd := fd.val },
            some (socketAddress pton host, port), net''⟩ := by
  unfold connect disconnect
  by_cases hconnected : isConnected client = true
  · simp only [if_pos hconnected]
  · simp only [if_neg hconnected]

theorem connect_noSocket {sys : Sockets σ} {client : Client} {net : σ}
    (h : NoSocket sys client net) (pton : InetPton) (host : Bytes) (port : UInt16) :
    (connect sys pton client host port net).attempt = none ∧
      (∃ error, (connect sys pton client host port net).error = some error) ∧
      isConnected (connect sys pton client host port net).client = false := by
  obtain ⟨errno, herrno⟩ := h
  rw [connect_eq]
  cases hsocket : sys.socket (disconnect sys client net).2 with
  | mk answer net' =>
    rw [hsocket] at herrno
    subst herrno
    exact ⟨rfl, ⟨_, rfl⟩, rfl⟩

/-- With a socket, the connection is attempted, to whatever address there is. -/
theorem connect_attempt {sys : Sockets σ} {client : Client} {net : σ}
    (h : ¬ NoSocket sys client net) (pton : InetPton) (host : Bytes) (port : UInt16) :
    (connect sys pton client host port net).attempt = some (socketAddress pton host, port) := by
  rw [connect_eq]
  cases hsocket : sys.socket (disconnect sys client net).2 with
  | mk answer net' =>
    cases answer with
    | error errno => exact absurd ⟨errno, by rw [hsocket]⟩ h
    | ok fd =>
      dsimp only
      split <;> rfl

theorem socketAddress_of_parse {pton : InetPton} {host : Bytes} {x : UInt32}
    (h : pton.parse host = some x) : socketAddress pton host = x := by
  rw [socketAddress, (cString_eq_of_parse h).2, h]

/-- The host is honoured or refused exactly when it is accepted as an address, or there is
no socket to connect with. -/
theorem connect_honoured_iff (sys : Sockets σ) (pton : InetPton) (client : Client) (host : Bytes)
    (port : UInt16) (net : σ) :
    Honoured pton host port (connect sys pton client host port net) ↔
      (∃ x, pton.parse host = some x) ∨ NoSocket sys client net := by
  by_cases hsocket : NoSocket sys client net
  · obtain ⟨hattempt, herror, hclosed⟩ := connect_noSocket hsocket pton host port
    refine iff_of_true ⟨?_, fun _ => ⟨herror, hclosed⟩⟩ (Or.inr hsocket)
    intro attempt hmem
    rw [hattempt] at hmem
    cases hmem
  · have hattempt := connect_attempt hsocket pton host port
    constructor
    · intro h
      exact Or.inl ⟨_, (h.attempted _ hattempt).1⟩
    · intro h
      rcases h with ⟨x, hx⟩ | h
      · refine ⟨?_, ?_⟩
        · intro attempt hmem
          rw [hattempt, Option.mem_def, Option.some.injEq] at hmem
          subst hmem
          exact ⟨by rw [socketAddress_of_parse hx, hx], rfl⟩
        · intro hnone
          rw [hattempt] at hnone
          cases hnone
      · exact absurd h hsocket

/-- A system that has a socket and accepts every connection. -/
def openSystem : Sockets Unit where
  socket := fun _ => (.ok (fdOf 3), ())
  connect := fun _ _ _ _ => (none, ())
  close := fun _ _ => ()

/-- A host name is connected to as `0.0.0.0`. -/
theorem connect_hostname :
    (connect openSystem strictPton {} (utf8 "solakon.local") 502 ()).attempt = some (0, 502) ∧
      (implConnect openSystem strictPton {} (utf8 "solakon.local") 502 ()).1 = true ∧
      ¬ Honoured strictPton (utf8 "solakon.local") 502
        (connect openSystem strictPton {} (utf8 "solakon.local") 502 ()) := by
  have hattempt : (connect openSystem strictPton {} (utf8 "solakon.local") 502 ()).attempt =
      some (0, 502) := rfl
  refine ⟨hattempt, rfl, ?_⟩
  intro h
  have hparse := (h.attempted (0, 502) hattempt).1
  revert hparse
  decide +kernel

end SolakonMonitor.ClientConnect
