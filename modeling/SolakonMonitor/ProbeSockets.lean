import Mathlib.Data.List.Perm.Subperm
import SolakonMonitor.ClientConnect
import SolakonMonitor.Descriptors
import SolakonMonitor.SubnetScan

/-!
The system calls of a scan.
Each probe asks for a socket, connects it without blocking and waits for it with `select`. What
the calls answer is a parameter with a state of its own. A scan leaves no socket open and waits
no longer than its probes may; where the network keeps to one outcome for each probe, it
reports the hosts that accept a connection within the timeout, in the order of their labels.
-/
namespace SolakonMonitor.ProbeSockets

open BigEndian DecimalText Ipv4 TextOrder MainProgram NetworkScanner SubnetScan ClientConnect
open Descriptors

structure Timeval where
  sec : ℕ
  usec : ℕ

def Timeval.microseconds (tv : Timeval) : ℕ := tv.sec * 1000000 + tv.usec

def timeval (timeoutMs : ℕ) : Timeval := ⟨timeoutMs / 1000, timeoutMs % 1000 * 1000⟩

/-- As `errno.h` has it. -/
def einprogress : Int32 := 115

/-- As `select.h` has it. -/
def fdSetSize : ℕ := 1024

/-- The answers to the calls; `select` also tells for how long it waited, in microseconds, and
`soError` what is in `err` after `getsockopt`. -/
structure System (σ : Type) where
  socket : σ → Option Errno × σ
  connect : Probe → σ → Option Errno × σ
  select : Timeval → σ → ℤ × ℕ × σ
  soError : σ → Int32 × σ
  patient : ∀ tv net, (select tv net).2.1 ≤ tv.microseconds

/-- `others` are the descriptors the rest of the program has open; `given` are those that the
scan has got, and `waited` is the time spent in `select`. -/
structure Process (σ : Type) where
  net : σ
  others : List ℕ
  sockets : Table ℕ := .empty
  given : List ℕ := []
  waited : ℕ := 0

variable {σ : Type}

/-- A new socket gets the lowest number that is not in use. -/
def lowestFree (used : List ℕ) : ℕ :=
  ((List.range (used.length + 1)).find? (fun fd => fd ∉ used)).getD 0

def openSocket (st : Process σ) (net : σ) : ℕ × Process σ :=
  let fd := lowestFree (st.others ++ st.sockets.opened.map Prod.fst)
  (fd, { st with net := net, sockets := st.sockets.enter fd, given := st.given ++ [fd] })

def closeSocket (st : Process σ) (fd : ℕ) (net : σ) : Process σ :=
  { st with net := net, sockets := st.sockets.close fd }

/-- none is `FD_SET` of a descriptor that does not fit. -/
def tryConnect (sys : System σ) (timeoutMs : ℕ) (probe : Probe) (st : Process σ) :
    Option (Bool × Process σ) :=
  match sys.socket st.net with
  | (some _, net) => some (false, { st with net := net })
  | (none, net) =>
    let (fd, st) := openSocket st net
    match sys.connect probe st.net with
    | (none, net) => some (true, closeSocket st fd net)
    | (some errno, net) =>
      if errno.val ≠ einprogress then some (false, closeSocket st fd net)
      else if fdSetSize ≤ fd then none
      else
        let (sel, waited, net) := sys.select (timeval timeoutMs) net
        let st := { st with waited := st.waited + waited }
        if sel ≤ 0 then some (false, closeSocket st fd net)
        else
          let (err, net) := sys.soError net
          some (err = 0, closeSocket st fd net)

def Process.start (net : σ) (others : List ℕ) : Process σ := ⟨net, others, .empty, [], 0⟩

theorem exists_free (used : List ℕ) : ∃ fd ∈ List.range (used.length + 1), fd ∉ used := by
  by_contra hnone
  push Not at hnone
  have hsub := (List.nodup_range (n := used.length + 1)).subperm hnone
  have hlen := hsub.length_le
  rw [List.length_range] at hlen
  omega

theorem lowestFree_spec (used : List ℕ) :
    lowestFree used ∉ used ∧ ∀ fd < lowestFree used, fd ∈ used := by
  obtain ⟨free, hfree, hunused⟩ := exists_free used
  cases hfind : (List.range (used.length + 1)).find? (fun fd => fd ∉ used) with
  | none =>
    have hall := List.find?_eq_none.mp hfind free hfree
    exact absurd (decide_eq_true hunused) hall
  | some fd =>
    have hlowest : lowestFree used = fd := by rw [lowestFree, hfind, Option.getD_some]
    obtain ⟨hnot, _, hbefore⟩ := List.find?_range_eq_some.mp hfind
    rw [hlowest]
    refine ⟨of_decide_eq_true hnot, ?_⟩
    intro lower hlower
    have hused := hbefore lower hlower
    rw [Bool.not_eq_true', decide_eq_false_iff_not, not_not] at hused
    exact hused

theorem timeval_microseconds (timeoutMs : ℕ) :
    (timeval timeoutMs).microseconds = timeoutMs * 1000 := by
  simp only [timeval, Timeval.microseconds]
  omega

/-- What a probe leaves that got a socket. -/
def probed (st : Process σ) (net : σ) (waited : ℕ) : Process σ :=
  { st with
    net := net
    sockets := (st.sockets.enter (lowestFree st.others)).close (lowestFree st.others)
    given := st.given ++ [lowestFree st.others]
    waited := st.waited + waited }

/-- Whatever the calls answer, a probe that starts with no socket open ends so. -/
theorem tryConnect_cases (sys : System σ) (timeoutMs : ℕ) (probe : Probe) {st : Process σ}
    (hnone : st.sockets.opened = []) (hroom : lowestFree st.others < fdSetSize) :
    (∃ net, tryConnect sys timeoutMs probe st = some (false, { st with net := net })) ∨
      ∃ isOpen net waited, waited ≤ timeoutMs * 1000 ∧
        tryConnect sys timeoutMs probe st = some (isOpen, probed st net waited) := by
  have hfd : lowestFree (st.others ++ st.sockets.opened.map Prod.fst) = lowestFree st.others := by
    rw [hnone, List.map_nil, List.append_nil]
  simp only [tryConnect, openSocket, hfd]
  cases sys.socket st.net with
  | mk failed net =>
    cases failed with
    | some errno => exact Or.inl ⟨net, rfl⟩
    | none =>
      refine Or.inr ?_
      dsimp only
      cases sys.connect probe net with
      | mk failed net =>
        cases failed with
        | none => exact ⟨true, net, 0, Nat.zero_le _, rfl⟩
        | some errno =>
          dsimp only
          by_cases hprogress : errno.val ≠ einprogress
          · rw [if_pos hprogress]
            exact ⟨false, net, 0, Nat.zero_le _, rfl⟩
          · rw [if_neg hprogress, if_neg (Nat.not_le.mpr hroom)]
            have hpatient := sys.patient (timeval timeoutMs) net
            rw [timeval_microseconds] at hpatient
            by_cases hready : (sys.select (timeval timeoutMs) net).1 ≤ 0
            · rw [if_pos hready]
              exact ⟨false, _, _, hpatient, rfl⟩
            · rw [if_neg hready]
              exact ⟨_, _, _, hpatient, rfl⟩

/-- Between two probes. -/
structure Quiet (others : List ℕ) (timeoutMs : ℕ) (st : Process σ) : Prop where
  kept : st.others = others
  opened : st.sockets.opened = []
  closedOnce : st.sockets.stray = 0
  given : ∀ fd ∈ st.given, fd = lowestFree others
  waited : st.waited ≤ st.given.length * (timeoutMs * 1000)

theorem quiet_start (net : σ) (others : List ℕ) (timeoutMs : ℕ) :
    Quiet others timeoutMs (Process.start net others) :=
  ⟨rfl, rfl, rfl, List.forall_mem_nil _, Nat.zero_le _⟩

theorem probed_quiet {others : List ℕ} {timeoutMs : ℕ} {st : Process σ}
    (h : Quiet others timeoutMs st) (net : σ) {waited : ℕ} (hwaited : waited ≤ timeoutMs * 1000) :
    Quiet others timeoutMs (probed st net waited) := by
  obtain ⟨hclosed, hstray⟩ := Table.close_single (Table.enter_empty h.opened (lowestFree st.others))
  refine ⟨h.kept, hclosed, hstray.trans h.closedOnce, ?_, ?_⟩
  · intro fd hfd
    rcases List.mem_append.mp hfd with hfd | hfd
    · exact h.given fd hfd
    · rw [List.mem_singleton.mp hfd, h.kept]
  · have hbefore := h.waited
    change st.waited + waited ≤ (st.given ++ [_]).length * (timeoutMs * 1000)
    rw [List.length_append, List.length_singleton, Nat.succ_mul]
    omega

/-- A probe keeps the process quiet and asks for one socket at most. -/
theorem tryConnect_quiet (sys : System σ) {others : List ℕ} {timeoutMs : ℕ}
    (hroom : lowestFree others < fdSetSize) (probe : Probe) {st : Process σ}
    (h : Quiet others timeoutMs st) :
    ∃ isOpen st', tryConnect sys timeoutMs probe st = some (isOpen, st') ∧
      Quiet others timeoutMs st' ∧ st'.given.length ≤ st.given.length + 1 := by
  rw [← h.kept] at hroom
  rcases tryConnect_cases sys timeoutMs probe h.opened hroom with hfailed | hprobed
  · obtain ⟨net, hstep⟩ := hfailed
    exact ⟨false, _, hstep, ⟨h.kept, h.opened, h.closedOnce, h.given, h.waited⟩,
      Nat.le_succ _⟩
  · obtain ⟨isOpen, net, waited, hwaited, hstep⟩ := hprobed
    refine ⟨isOpen, _, hstep, probed_quiet h net hwaited, ?_⟩
    exact (List.length_append).le

theorem probes_length (addresses : List UInt32) (ports : List UInt16) :
    (probes addresses ports).length = addresses.length * ports.length := by
  induction addresses with
  | nil => rw [probes, List.flatMap_nil, List.length_nil, List.length_nil, Nat.zero_mul]
  | cons x rest ih =>
    rw [probes, List.flatMap_cons, List.length_append, List.length_map, List.length_cons,
      Nat.succ_mul, Nat.add_comm]
    exact congrArg (· + ports.length) ih

/-- A scan that comes about asks about 255 hosts at most. -/
theorem scan_asks {order : ByteOrder} {pton : InetPton} {s : Bytes} {ports : List UInt16}
    {devices : Probing (List DiscoveredDevice)} (h : scan order pton s ports = .ok devices) :
    ∃ questions, devices.Asks questions ∧ questions.length ≤ 255 * ports.length := by
  cases hparse : parseCidr pton s with
  | error fault =>
    rw [scan, sweep, hparse] at h
    cases h
  | ok accepted =>
    cases accepted with
    | none =>
      rw [scan, sweep, hparse] at h
      cases h
      exact ⟨[], .done _, Nat.zero_le _⟩
    | some network =>
      obtain ⟨base, p⟩ := network
      by_cases hp : p = 0
      · subst hp
        rw [scan_zero hparse] at h
        cases h
      · obtain ⟨swept, hswept, hasks, _⟩ := sweep_of_ne order hparse hp ports
        obtain ⟨devices', hdevices, hasks', _⟩ := scan_of_sweep hswept hasks
        rw [h, Except.ok.injEq] at hdevices
        subst hdevices
        refine ⟨_, hasks', ?_⟩
        rw [probes_length]
        refine Nat.mul_le_mul_right _ ?_
        rw [subnetHosts, List.length_map, List.length_range']
        omega

theorem scan_quiet {order : ByteOrder} {pton : InetPton} {s : Bytes} {ports : List UInt16}
    {devices : Probing (List DiscoveredDevice)} (h : scan order pton s ports = .ok devices)
    (sys : System σ) (timeoutMs : ℕ) (net : σ) {others : List ℕ}
    (hroom : lowestFree others < fdSetSize) :
    ∃ found st, devices.runWith (tryConnect sys timeoutMs) (Process.start net others) =
        some (found, st) ∧
      Quiet others timeoutMs st ∧ st.given.length ≤ 255 * ports.length := by
  obtain ⟨questions, hasks, hfew⟩ := scan_asks h
  let asked (st : Process σ) : ℕ := st.given.length
  have hstep : ∀ probe ∈ questions, ∀ st : Process σ, Quiet others timeoutMs st →
      ∃ isOpen st', tryConnect sys timeoutMs probe st = some (isOpen, st') ∧
        Quiet others timeoutMs st' ∧ asked st' ≤ asked st + 1 :=
    fun probe _ st hst => tryConnect_quiet sys hroom probe hst
  obtain ⟨found, st, hrun, hquiet, hgiven⟩ :=
    hasks.runWith_cost hstep (quiet_start net others timeoutMs)
  refine ⟨found, st, hrun, hquiet, hgiven.trans ?_⟩
  change 0 + questions.length * 1 ≤ _
  omega

/-- Whatever the calls answer, a scan ends with no socket open and each one closed once. It
makes 255 probes for each port at most, has one socket open at a time, always with the lowest
number that the rest of the program has not in use, and waits no longer than the timeout for
each; so no descriptor leaves the set of `select`. -/
theorem scan_sockets {order : ByteOrder} {pton : InetPton} {s : Bytes} {ports : List UInt16}
    {devices : Probing (List DiscoveredDevice)} (h : scan order pton s ports = .ok devices)
    (sys : System σ) (timeoutMs : ℕ) (net : σ) {others : List ℕ}
    (hroom : lowestFree others < fdSetSize) :
    (∃ questions, devices.Asks questions ∧ questions.length ≤ 255 * ports.length) ∧
    (lowestFree others ∉ others ∧ ∀ lower < lowestFree others, lower ∈ others) ∧
    ∃ found st, devices.runWith (tryConnect sys timeoutMs) (Process.start net others) =
        some (found, st) ∧
      st.sockets.opened = [] ∧ st.sockets.stray = 0 ∧
      (∀ i < st.sockets.count, st.sockets.closed.count i = 1) ∧
      (∀ fd ∈ st.given, fd = lowestFree others) ∧ st.given.length ≤ 255 * ports.length ∧
      st.waited ≤ 255 * ports.length * (timeoutMs * 1000) := by
  obtain ⟨found, st, hrun, hquiet, hlength⟩ := scan_quiet h sys timeoutMs net hroom
  refine ⟨scan_asks h, lowestFree_spec others, found, st, hrun, hquiet.opened, hquiet.closedOnce,
    fun i hi => Table.closed_once hquiet.opened hi, hquiet.given, hlength, ?_⟩
  exact hquiet.waited.trans (Nat.mul_le_mul_right _ hlength)

/-- What becomes of a connection; a delay is counted in microseconds. -/
inductive Outcome where
  | accepts
  | refuses (errno : Errno) (hdone : errno.val ≠ einprogress)
  | later (delay : ℕ) (error : Int32)
  | silent

/-- The state is the connection that is under way. -/
def steady (outcome : Probe → Outcome) : System (Option Probe) where
  socket := fun pending => (none, pending)
  connect := fun probe _ =>
    match outcome probe with
    | .accepts => (none, none)
    | .refuses errno _ => (some errno, none)
    | .later _ _ | .silent => (some ⟨einprogress, by decide⟩, some probe)
  select := fun tv pending =>
    match pending.map outcome with
    | some (.later delay _) =>
      if delay ≤ tv.microseconds then (1, delay, pending) else (0, tv.microseconds, pending)
    | _ => (0, tv.microseconds, pending)
  soError := fun pending =>
    match pending.map outcome with
    | some (.later _ error) => (error, none)
    | _ => (0, none)
  patient := by
    intro tv pending
    split
    · split
      · rename_i hsoon
        exact hsoon
      · exact le_rfl
    · exact le_rfl

/-- The connection comes about, without an error, before the time is over. -/
def accepted (timeoutMs : ℕ) : Outcome → Bool
  | .accepts => true
  | .later delay error => delay ≤ timeoutMs * 1000 ∧ error = 0
  | _ => false

theorem tryConnect_outcome (outcome : Probe → Outcome) (timeoutMs : ℕ) (probe : Probe)
    {st : Process (Option Probe)} (hnone : st.sockets.opened = [])
    (hroom : lowestFree st.others < fdSetSize) :
    (tryConnect (steady outcome) timeoutMs probe st).map Prod.fst =
      some (accepted timeoutMs (outcome probe)) := by
  have hfd : lowestFree (st.others ++ st.sockets.opened.map Prod.fst) = lowestFree st.others := by
    rw [hnone, List.map_nil, List.append_nil]
  have hfits := Nat.not_le.mpr hroom
  simp only [tryConnect, openSocket, hfd]
  cases houtcome : outcome probe with
  | accepts => simp [steady, houtcome, accepted]
  | refuses errno hdone => simp [steady, houtcome, accepted, hdone]
  | later delay error =>
    by_cases hsoon : delay ≤ timeoutMs * 1000
    · simp [steady, houtcome, accepted, timeval_microseconds, hfits, hsoon]
    · simp [steady, houtcome, accepted, timeval_microseconds, hfits, hsoon]
  | silent => simp [steady, houtcome, accepted, hfits]

theorem tryConnect_steady (outcome : Probe → Outcome) {others : List ℕ} {timeoutMs : ℕ}
    (hroom : lowestFree others < fdSetSize) (probe : Probe) {st : Process (Option Probe)}
    (h : Quiet others timeoutMs st) :
    ∃ st', tryConnect (steady outcome) timeoutMs probe st =
      some (accepted timeoutMs (outcome probe), st') ∧ Quiet others timeoutMs st' := by
  obtain ⟨isOpen, st', hstep, hquiet, _⟩ := tryConnect_quiet (steady outcome) hroom probe h
  rw [← h.kept] at hroom
  have houtcome := tryConnect_outcome outcome timeoutMs probe h.opened hroom
  rw [hstep, Option.map_some, Option.some.injEq] at houtcome
  rw [← houtcome]
  exact ⟨st', hstep, hquiet⟩

/-- The devices of the hosts that answer, each with its label and its ports, in the order of the
labels as texts. -/
structure Lists (order : ByteOrder) (base : UInt32) (p : UInt8) (ports : List UInt16)
    (table : Probe → Bool) (found : List DiscoveredDevice) : Prop where
  finds : Finds (subnetHosts base p) ports table found
  devices : found.Perm ((responding base p ports table).map (deviceAt order table ports))
  ordered : found.Pairwise (fun d e => textLess e.ip d.ip = false)

theorem lists_sortByIp (order : ByteOrder) (base : UInt32) (p : UInt8) (ports : List UInt16)
    (table : Probe → Bool) :
    Lists order base p ports table
      (sortByIp ((responding base p ports table).map (deviceAt order table ports))) where
  finds := finds_sortByIp order base p ports table
  devices := sortBy_perm DiscoveredDevice.ip _
  ordered := sortBy_pairwise DiscoveredDevice.ip _

/-- Where every probe has an outcome of its own, a scan through the system calls reports one
device for each host that accepts a connection within the timeout at a listed port, with its
label and these ports as listed, in the order of the labels. -/
theorem scan_finds (order : ByteOrder) {pton : InetPton} {s : Bytes} {base : UInt32} {p : UInt8}
    (h : parseCidr pton s = .ok (some (base, p))) (hp : p ≠ 0) (ports : List UInt16)
    (outcome : Probe → Outcome) (timeoutMs : ℕ) {others : List ℕ}
    (hroom : lowestFree others < fdSetSize) :
    ∃ devices found st, scan order pton s ports = .ok devices ∧
      devices.runWith (tryConnect (steady outcome) timeoutMs) (Process.start none others) =
        some (found, st) ∧
      Lists order base p ports (fun probe => accepted timeoutMs (outcome probe)) found := by
  obtain ⟨swept, hswept, hasks, hanswer⟩ := sweep_of_ne order h hp ports
  obtain ⟨devices, hdevices, _, hsorted⟩ := scan_of_sweep hswept hasks
  obtain ⟨st, hrun, _⟩ := Dialogue.runWith_table
    (fun probe st hst => tryConnect_steady outcome hroom probe hst) devices _
    (quiet_start none others timeoutMs)
  refine ⟨devices, _, st, hdevices, hrun, ?_⟩
  rw [hsorted, hanswer, List.map_map]
  exact lists_sortByIp order base p ports _

def slowModbus (probe : Probe) : Outcome := if probe.2 = 502 then .later 1000 0 else .silent

theorem scan_finds_slowModbus :
    ∃ devices found st,
      scan .little strictPton (utf8 "192.168.178.0/24") [502, 443] = .ok devices ∧
      devices.runWith (tryConnect (steady slowModbus) 2000) (Process.start none [0, 1, 2]) =
        some (found, st) ∧
      Lists .little (ofOctets 192 168 178 0) 24 [502, 443]
        (fun probe => accepted 2000 (slowModbus probe)) found :=
  scan_finds .little (show parseCidr strictPton (utf8 "192.168.178.0/24") =
    .ok (some (ofOctets 192 168 178 0, 24)) from rfl) (by decide) [502, 443] slowModbus 2000
    (by decide)

theorem scan_sockets_slowModbus :
    ∃ devices, scan .little strictPton (utf8 "192.168.178.0/24") [502, 443] = .ok devices ∧
      (∃ questions, devices.Asks questions ∧
        questions.length ≤ 255 * [(502 : UInt16), 443].length) ∧
      (lowestFree [0, 1, 2] ∉ [0, 1, 2] ∧ ∀ lower < lowestFree [0, 1, 2], lower ∈ [0, 1, 2]) ∧
      ∃ found st, devices.runWith (tryConnect (steady slowModbus) 2000)
          (Process.start none [0, 1, 2]) = some (found, st) ∧
        st.sockets.opened = [] ∧ st.sockets.stray = 0 ∧
        (∀ i < st.sockets.count, st.sockets.closed.count i = 1) ∧
        (∀ fd ∈ st.given, fd = lowestFree [0, 1, 2]) ∧
        st.given.length ≤ 255 * [(502 : UInt16), 443].length ∧
        st.waited ≤ 255 * [(502 : UInt16), 443].length * (2000 * 1000) := by
  have hparse : parseCidr strictPton (utf8 "192.168.178.0/24") =
      .ok (some (ofOctets 192 168 178 0, 24)) := rfl
  obtain ⟨swept, hswept, hasks, _⟩ := sweep_of_ne .little hparse (by decide) [502, 443]
  obtain ⟨devices, hdevices, _⟩ := scan_of_sweep hswept hasks
  exact ⟨devices, hdevices, scan_sockets hdevices (steady slowModbus) 2000 none (by decide)⟩

end SolakonMonitor.ProbeSockets
