import SolakonMonitor.MonitorRun

/-!
What the monitor sends to the device.
Every byte that is handed to the socket is a read request, and the requests of a poll are the
same whatever the device answers, with transaction ids that count on. The number of receives is
bounded.
-/
namespace SolakonMonitor.WireTraffic

open BigEndian ModbusClient ClientConnect Device SnapshotFields ConfigLoader MainProgram MonitorRun

/-- A network with the calls made on it. -/
structure Traffic (σ : Type) where
  net : σ
  sent : List (Int32 × Bytes) := []
  receives : ℕ := 0

variable {σ : Type}

/-- A socket that also writes down what is handed to it. -/
def recording (sock : Socket σ) : Socket (Traffic σ) where
  send fd bytes t :=
    ((sock.send fd bytes t.net).1,
      { t with net := (sock.send fd bytes t.net).2, sent := t.sent ++ [(fd, bytes)] })
  recv fd n t :=
    ((sock.recv fd n t.net).1,
      { t with net := (sock.recv fd n t.net).2, receives := t.receives + 1 })

def requestFrames (fd : Int32) : UInt16 → List RegRead → List (Int32 × Bytes)
  | _, [] => []
  | id, r :: rest => (fd, (request id r.addr r.quantity).bytes) :: requestFrames fd (id + 1) rest

/-- How many receives these reads need at most: each one takes a byte. -/
def receiveBound (reads : List RegRead) : ℕ := (reads.map (fun r => respLen r.quantity)).sum

theorem requestFrames_concat (fd : Int32) (id : UInt16) (past : List RegRead) (r : RegRead) :
    requestFrames fd id (past ++ [r]) = requestFrames fd id past ++
      [(fd, (request (id + UInt16.ofNat past.length) r.addr r.quantity).bytes)] := by
  induction past generalizing id with
  | nil =>
    rw [List.length_nil, show UInt16.ofNat 0 = 0 from rfl, UInt16.add_zero]
    rfl
  | cons q past ih =>
    have hid : id + 1 + UInt16.ofNat past.length = id + UInt16.ofNat (past.length + 1) := by
      rw [UInt16.ofNat_add, UInt16.add_assoc, UInt16.add_comm 1]
      rfl
    rw [List.cons_append, requestFrames, requestFrames, ih, List.length_cons, hid,
      List.cons_append]

theorem recording_recv {sock : Socket σ} {fd : Int32} {n : ℕ} {t t' : Traffic σ} {r : Recv n}
    (h : (recording sock).recv fd n t = (r, t')) :
    t'.sent = t.sent ∧ t'.receives = t.receives + 1 := by
  obtain rfl : _ = t' := congrArg Prod.snd h
  exact ⟨rfl, rfl⟩

theorem recvLoop_traffic (sock : Socket σ) (fd : Int32) (respLen : ℕ) (response : Bytes)
    (t : Traffic σ) :
    (recvLoop (recording sock) fd respLen response t).2.sent = t.sent ∧
      (recvLoop (recording sock) fd respLen response t).2.receives ≤
        t.receives + (respLen - response.length) := by
  fun_induction recvLoop (recording sock) fd respLen response t with
  | case1 response t hmore errno t' hrecv | case2 response t hmore t' hrecv
  | case3 response t hmore t' hrecv =>
    obtain ⟨hsent, hreceives⟩ := recording_recv hrecv
    refine ⟨hsent, ?_⟩
    dsimp only
    omega
  | case4 response t hmore chunk t' hrecv ih =>
    obtain ⟨hsent, hreceives⟩ := recording_recv hrecv
    have hpos := chunk.length_pos
    refine ⟨ih.1.trans hsent, ih.2.trans ?_⟩
    rw [List.length_append]
    omega
  | case5 response t hdone => exact ⟨rfl, Nat.le_add_right _ _⟩

theorem sendReceive_traffic (sock : Socket σ) (fd : Int32) (request : Bytes) (respLen : ℕ)
    (t : Traffic σ) :
    (sendReceive (recording sock) fd request respLen t).2.sent = t.sent ++ [(fd, request)] ∧
      (sendReceive (recording sock) fd request respLen t).2.receives ≤ t.receives + respLen := by
  rw [sendReceive]
  cases hsend : (recording sock).send fd request t with
  | mk result t' =>
    obtain rfl : _ = t' := congrArg Prod.snd hsend
    cases result with
    | error errno => exact ⟨rfl, Nat.le_add_right _ _⟩
    | ok n => exact recvLoop_traffic sock fd respLen [] _

theorem perform_traffic {sock : Socket σ} {r : RegRead} (hquantity : r.quantity ≠ 0)
    {link link' : Link (Traffic σ)} {outcome : Option r.Value}
    (h : r.perform (recording sock) link = some (outcome, link')) :
    link'.client = link.client.nextTransaction ∧
      link'.net.sent = link.net.sent ++ [(link.client.socketFd,
        (request link.client.transactionId r.addr r.quantity).bytes)] ∧
      link'.net.receives ≤ link.net.receives + respLen r.quantity := by
  rw [RegRead.perform_eq, readHoldingRegisters, if_neg] at h
  · have htraffic := sendReceive_traffic sock link.client.nextTransaction.socketFd
      (request link.client.transactionId r.addr r.quantity).bytes (respLen r.quantity) link.net
    dsimp only at h
    generalize sendReceive _ _ _ _ _ = received at h htraffic
    obtain ⟨⟨error⟩ | ⟨resp⟩, t'⟩ := received
    · cases h
      exact ⟨rfl, htraffic⟩
    · dsimp only at h
      split at h
      · cases h
        exact ⟨rfl, htraffic⟩
      · rw [Option.map_map] at h
        obtain ⟨out, _, heq⟩ := Option.map_eq_some_iff.mp h
        cases heq
        exact ⟨rfl, htraffic⟩
  · rw [List.length_replicate]
    exact not_or.mpr ⟨hquantity, lt_irrefl _⟩

def pollReads : List RegRead := Field.all.map Field.read

/-- What has been sent since the connection was opened are the requests for these reads. -/
structure Asked (fd : Int32) (past : List RegRead) (client : Client) (t : Traffic σ) : Prop where
  client : client = ⟨fd, 1 + UInt16.ofNat past.length⟩
  sent : t.sent = requestFrames fd 1 past
  receives : t.receives ≤ receiveBound past

theorem Asked.read {sock : Socket σ} {fd : Int32} {past : List RegRead} {r : RegRead}
    (hquantity : r.quantity ≠ 0) {link link' : Link (Traffic σ)} {outcome : Option r.Value}
    (h : Asked fd past link.client link.net)
    (hread : r.perform (recording sock) link = some (outcome, link')) :
    Asked fd (past ++ [r]) link'.client link'.net := by
  obtain ⟨hclient, hsent, hreceives⟩ := perform_traffic hquantity hread
  have hpast := h.receives
  refine ⟨?_, ?_, ?_⟩
  · rw [hclient, h.client, Client.nextTransaction, List.length_append, List.length_singleton,
      UInt16.ofNat_add, UInt16.add_assoc]
    rfl
  · rw [hsent, h.sent, h.client, requestFrames_concat]
  · rw [receiveBound, List.map_append, List.sum_append, List.map_singleton, List.sum_singleton,
      ← receiveBound]
    omega

theorem pollReads_quantity : ∀ r ∈ pollReads, r.quantity ≠ 0 := by
  decide

/-- The world after these polls; it has a client with an open socket. -/
def Polling (fd : Int32) (w : World (Traffic σ)) : Prop :=
  ∃ client, w.device = ⟨some client⟩ ∧
    Asked fd (List.replicate w.polled.length pollReads).flatten client w.net

theorem fetch_polling {sock : Socket σ} {fd : Int32} {tick : Tick} {w w' : World (Traffic σ)}
    {snap : DeviceSnapshot} (h : Polling fd w)
    (hfetch : fetch (recording sock) tick w = some (snap, w')) : Polling fd w' := by
  obtain ⟨client, hdevice, hasked⟩ := h
  rw [fetch, hdevice] at hfetch
  obtain ⟨⟨snap', device', net'⟩, hrun, heq⟩ := Option.map_eq_some_iff.mp hfetch
  obtain ⟨⟨snap'', link'⟩, hpoll, hlink⟩ := Option.map_eq_some_iff.mp hrun
  have hread : ∀ r ∈ pollReads, ∀ (past : List RegRead) (link : Link (Traffic σ))
      (outcome : Option r.Value) (link' : Link (Traffic σ)),
      Asked fd past link.client link.net →
        r.perform (recording sock) link = some (outcome, link') →
          Asked fd (past ++ [r]) link'.client link'.net :=
    fun r hr _ _ _ _ hlink hperform => hlink.read (pollReads_quantity r hr) hperform
  have hdone := (Field.asks_fetch tick.now tick.val tick.s3).runWith_history hread hasked hpoll
  cases hlink
  cases heq
  refine ⟨link'.client, rfl, ?_⟩
  rw [List.length_append, List.length_singleton, List.replicate_succ', List.flatten_append,
    List.flatten_singleton]
  exact hdone

theorem serverPass_polling {cfg : Config} {sock : Socket σ} {fd : Int32} {tick : Tick}
    {w w' : World (Traffic σ)} (h : Polling fd w)
    (hpass : serverPass cfg (recording sock) tick w = some w') : Polling fd w' := by
  obtain ⟨_, _, ⟨_, snap, w₁, hfetch, rfl⟩ | ⟨_, rfl⟩⟩ := serverPass_cases hpass
  · have hpolling := fetch_polling h hfetch
    exact hpolling
  · exact h

theorem terminalPass_polling {cfg : Config} {sock : Socket σ} {fd : Int32} {tick : Tick}
    {w w' : World (Traffic σ)} (h : Polling fd w)
    (hpass : terminalPass cfg (recording sock) tick w = some w') : Polling fd w' := by
  obtain ⟨_, _, ⟨_, snap, hfetch⟩ | ⟨_, rfl⟩⟩ := terminalPass_cases hpass
  · exact fetch_polling h hfetch
  · exact h

theorem receiveBound_polls (polls : ℕ) :
    receiveBound (List.replicate polls pollReads).flatten = polls * 887 := by
  have hone : receiveBound pollReads = 887 := by decide +kernel
  induction polls with
  | zero => rfl
  | succ polls ih =>
    rw [List.replicate_succ, List.flatten_cons, receiveBound, List.map_append, List.sum_append,
      ← receiveBound, ← receiveBound, hone, ih, Nat.succ_mul, Nat.add_comm]

theorem requestFrames_getElem? (fd : Int32) (id : UInt16) (reads : List RegRead) (i : ℕ) :
    (requestFrames fd id reads)[i]? = reads[i]?.map (fun r =>
      (fd, (request (id + UInt16.ofNat i) r.addr r.quantity).bytes)) := by
  induction reads generalizing id i with
  | nil => rfl
  | cons r reads ih =>
    cases i with
    | zero =>
      rw [show UInt16.ofNat 0 = 0 from rfl, UInt16.add_zero]
      rfl
    | succ i =>
      have hid : id + 1 + UInt16.ofNat i = id + UInt16.ofNat (i + 1) := by
        rw [UInt16.ofNat_add, UInt16.add_assoc, UInt16.add_comm 1]
        rfl
      rw [requestFrames, List.getElem?_cons_succ, ih, hid, List.getElem?_cons_succ]

theorem wordBytes_inj {a b : UInt16} (h : wordBytes a = wordBytes b) : a = b := by
  simp only [wordBytes, List.cons.injEq, and_true] at h
  rw [← word_hiByte_loByte a, h.1, h.2, word_hiByte_loByte]

/-- A frame begins with its transaction id. -/
theorem requestFrames_distinct {fd : Int32} {id : UInt16} {reads : List RegRead} {i j : ℕ}
    {a b : Int32 × Bytes} (hlt : i < j) (hnear : j < i + 65536)
    (ha : (requestFrames fd id reads)[i]? = some a)
    (hb : (requestFrames fd id reads)[j]? = some b) : a.2.take 2 ≠ b.2.take 2 := by
  rw [requestFrames_getElem?] at ha hb
  obtain ⟨r, _, rfl⟩ := Option.map_eq_some_iff.mp ha
  obtain ⟨q, _, rfl⟩ := Option.map_eq_some_iff.mp hb
  intro heq
  have hid : id + UInt16.ofNat i = id + UInt16.ofNat j := wordBytes_inj heq
  have hmod := congrArg UInt16.toNat hid
  simp only [UInt16.toNat_add, UInt16.toNat_ofNat'] at hmod
  omega

/-- On the opened socket there are the requests of so many polls, and nothing else, under
transaction ids that come again only after all the others; a poll needs no more receives than
its replies have bytes. -/
structure OnlyReads (s : Surroundings (Traffic σ)) (polls : ℕ) (t : Traffic σ) : Prop where
  sent : ∃ fd : Fd, (polls = 0 ∨ s.socket = .ok fd) ∧
    t.sent = requestFrames fd.val 1 (List.replicate polls pollReads).flatten
  distinct : ∀ i j a b, i < j → j < i + 65536 → t.sent[i]? = some a → t.sent[j]? = some b →
    a.2.take 2 ≠ b.2.take 2
  receives : t.receives ≤ polls * 887

/-- Whatever the device answers, all that a run sends to it are the read requests of its polls,
one for each field. -/
theorem monitor_only_reads {cfg : Config} {settings : Settings} {sock : Socket σ} {net : σ}
    {s : Surroundings (Traffic σ)} (hsock : s.sock = recording sock) (hnet : s.net = ⟨net, [], 0⟩)
    {exit : Exit (Traffic σ)} (hrun : monitorRun cfg settings s = some exit) :
    OnlyReads s exit.polled.length exit.net := by
  rcases monitorRun_loop hrun with
    ⟨_, hpolled, hexit⟩ | ⟨device, sockets, w, _, hconnect, _, hloop, hpolled, hexit⟩
  · rw [hpolled, hexit, hnet]
    refine ⟨⟨⟨0, Int32.le_refl 0⟩, Or.inl rfl, rfl⟩, ?_, Nat.zero_le _⟩
    intro i j a b _ _ ha
    cases ha
  · obtain ⟨fd, hfd, rfl⟩ := connect_client hconnect
    have hstart : Polling fd.val (s.world ⟨some { socketFd := fd.val }⟩) := by
      refine ⟨_, rfl, ?_⟩
      change Asked fd.val [] _ s.net
      rw [hnet]
      exact ⟨rfl, rfl, Nat.le_refl _⟩
    have hpolling : Polling fd.val w := by
      rw [hsock] at hloop
      split at hloop
      · exact PassLoop.loop_keeps (fun _ _ _ => serverPass_polling) s.ticks hstart hloop
      · exact PassLoop.loop_keeps (fun _ _ _ => terminalPass_polling) s.ticks hstart hloop
    obtain ⟨client, _, hasked⟩ := hpolling
    have hreceives := hasked.receives
    rw [receiveBound_polls] at hreceives
    rw [hpolled, hexit]
    refine ⟨⟨fd, Or.inr hfd, hasked.sent⟩, ?_, hreceives⟩
    rw [hasked.sent]
    intro i j a b
    exact requestFrames_distinct

/-- The two passes on a network that is written down. -/
def recordedPasses : Surroundings (Traffic Unit) where
  pton := twoPasses.pton
  socket := twoPasses.socket
  refused := twoPasses.refused
  sock := recording twoPasses.sock
  net := ⟨(), [], 0⟩
  start := twoPasses.start
  ticks := twoPasses.ticks
  listening := twoPasses.listening
  closing := twoPasses.closing

theorem monitor_only_reads_recordedPasses :
    ∃ exit, monitorRun serving {} recordedPasses = some exit ∧ exit.polled.length = 1 ∧
      OnlyReads recordedPasses exit.polled.length exit.net := by
  have hpolled : (monitorRun serving {} recordedPasses).map (fun exit => exit.polled.length) =
      some 1 := by
    decide +kernel
  obtain ⟨exit, hrun, hone⟩ := Option.map_eq_some_iff.mp hpolled
  exact ⟨exit, hrun, hone, monitor_only_reads rfl rfl hrun⟩

end SolakonMonitor.WireTraffic
