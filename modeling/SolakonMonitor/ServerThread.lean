import SolakonMonitor.ClientConnect
import SolakonMonitor.Descriptors
import SolakonMonitor.ResponseDelivery
import SolakonMonitor.SnapshotServing
import SolakonMonitor.StateMachine

/-!
The server thread, one system call or test at a time, beside the thread that polls.
Between any two of its steps the other thread may store a snapshot or stop the server. It
works on one connection at a time and closes each one it accepts, whatever the calls return;
a stop makes it end.
-/
namespace SolakonMonitor.ServerThread

open BigEndian DecimalText Device HttpServer ResponseDelivery ClientConnect Descriptors
open StateMachine

/-- What was stored when the connection was accepted and before the copy was made, what was
read, and the clock of the answer. -/
structure Request where
  arrived : List DeviceSnapshot
  received : Bytes := []
  before : List DeviceSnapshot := []
  now : ℤ := 0

/-- Where the thread is; a phase holds the locals that are still used. -/
inductive Phase where
  /-- before the test of the loop -/
  | testing
  | accepting
  /-- before the test after an `accept` that failed -/
  | refused
  | reading (fd : Fd) (request : Request)
  /-- before the copy of the snapshot, which only the data paths use -/
  | routing (fd : Fd) (request : Request)
  /-- before the response is built -/
  | answering (fd : Fd) (request : Request) (copied : DeviceSnapshot)
  /-- before the test of the send loop -/
  | offering (fd : Fd) (request : Request) (response : Bytes) (sending : Sending)
  | writing (fd : Fd) (request : Request) (response : Bytes) (sending : Sending)
  | ended

/-- A connection that got an answer, when it is closed. -/
structure Exchange where
  request : Request
  response : Bytes
  sending : Sending

/-- `stored` and `finished` record what the source does not keep. -/
structure State where
  running : Bool := true
  latestSnapshot : DeviceSnapshot := {}
  phase : Phase := .testing
  clients : Table Int32 := .empty
  stored : List DeviceSnapshot := []
  finished : List Exchange := []

/-- What the thread's next call returns; nothing received stands for an end of the stream, a
timeout or an error. -/
structure Answer where
  accepted : Option Fd
  received : Bytes
  now : ℤ
  written : ℤ

inductive Event where
  | update (snap : DeviceSnapshot)
  | stop
  | thread (answer : Answer)

def Event.isThread : Event → Bool
  | .thread _ => true
  | _ => false

def closeClient (st : State) (fd : Fd) : State :=
  { st with clients := st.clients.close fd.val, phase := .testing }

def finish (st : State) (fd : Fd) (exchange : Exchange) : State :=
  closeClient { st with finished := st.finished ++ [exchange] } fd

/-- `write` takes no more than it is offered. -/
def taken (answer : Answer) (offered : ℕ) : ℤ := min answer.written offered

def advance (response : Bytes) (sending : Sending) (r : ℤ) : Sending :=
  { sent := sending.sent + r.toNat
    socket := sending.socket ++ (response.drop sending.sent).take r.toNat }

def threadStep (st : State) (answer : Answer) : State :=
  match st.phase with
  | .testing => { st with phase := if st.running then .accepting else .ended }
  | .accepting =>
    match answer.accepted with
    | some fd =>
      { st with clients := st.clients.enter fd.val, phase := .reading fd { arrived := st.stored } }
    | none => { st with phase := .refused }
  | .refused => { st with phase := if st.running then .testing else .ended }
  | .reading fd request =>
    if answer.received = [] then closeClient st fd
    else { st with phase := .routing fd { request with received := answer.received } }
  | .routing fd request =>
    { st with phase := .answering fd { request with before := st.stored } st.latestSnapshot }
  | .answering fd request copied =>
    match handleClient { latestSnapshot := copied } answer.now request.received with
    | some response =>
      { st with phase := .offering fd { request with now := answer.now } response {} }
    | none => closeClient st fd
  | .offering fd request response sending =>
    if sending.sent < response.length then
      if st.running then { st with phase := .writing fd request response sending }
      else finish st fd ⟨request, response, sending⟩
    else finish st fd ⟨request, response, sending⟩
  | .writing fd request response sending =>
    let r := taken answer (response.length - sending.sent)
    if r ≤ 0 then finish st fd ⟨request, response, sending⟩
    else { st with phase := .offering fd request response (advance response sending r) }
  | .ended => st

/-- `stop` clears the flag first; the listening socket is not the thread's to close. -/
def step (st : State) : Event → State
  | .update snap => { st with latestSnapshot := snap, stored := st.stored ++ [snap] }
  | .stop => { st with running := false }
  | .thread answer => threadStep st answer

/-- Without a connection. -/
def Phase.Idle : Phase → Prop
  | .testing | .accepting | .refused | .ended => True
  | _ => False

/-- A step of the thread, by what it does to the connection and its request. -/
inductive Move (answer : Answer) (st : State) : State → Prop where
  | idle (phase : Phase) (hfrom : st.phase.Idle) (hto : phase.Idle) :
      Move answer st { st with phase := phase }
  | accept (fd : Fd) (hfrom : st.phase.Idle) :
      Move answer st
        { st with
          clients := st.clients.enter fd.val
          phase := .reading fd { arrived := st.stored } }
  | lose (fd : Fd) (request : Request) (hfrom : st.phase = .reading fd request) :
      Move answer st (closeClient st fd)
  | receive (fd : Fd) (request : Request) (hfrom : st.phase = .reading fd request)
      (hne : answer.received ≠ []) :
      Move answer st { st with phase := .routing fd { request with received := answer.received } }
  | copy (fd : Fd) (request : Request) (hfrom : st.phase = .routing fd request) :
      Move answer st
        { st with phase := .answering fd { request with before := st.stored } st.latestSnapshot }
  | respond (fd : Fd) (request : Request) (copied : DeviceSnapshot) (response : Bytes)
      (hfrom : st.phase = .answering fd request copied)
      (hresponse : handleClient { latestSnapshot := copied } answer.now request.received =
        some response) :
      Move answer st
        { st with phase := .offering fd { request with now := answer.now } response {} }
  | mute (fd : Fd) (request : Request) (copied : DeviceSnapshot)
      (hfrom : st.phase = .answering fd request copied)
      (hnone : handleClient { latestSnapshot := copied } answer.now request.received = none) :
      Move answer st (closeClient st fd)
  | offer (fd : Fd) (request : Request) (response : Bytes) (sending : Sending)
      (hfrom : st.phase = .offering fd request response sending)
      (hmore : sending.sent < response.length) (hrunning : st.running = true) :
      Move answer st { st with phase := .writing fd request response sending }
  | take (fd : Fd) (request : Request) (response : Bytes) (sending : Sending) (r : ℤ)
      (hfrom : st.phase = .writing fd request response sending) (hpos : 0 < r)
      (hle : r.toNat ≤ response.length - sending.sent) :
      Move answer st
        { st with phase := .offering fd request response (advance response sending r) }
  | complete (fd : Fd) (request : Request) (response : Bytes) (sending : Sending)
      (hfrom : st.phase = .offering fd request response sending)
      (hlast : response.length ≤ sending.sent) :
      Move answer st (finish st fd ⟨request, response, sending⟩)
  | interrupt (fd : Fd) (request : Request) (response : Bytes) (sending : Sending)
      (hfrom : st.phase = .offering fd request response sending)
      (hlast : st.running = false) :
      Move answer st (finish st fd ⟨request, response, sending⟩)
  | fail (fd : Fd) (request : Request) (response : Bytes) (sending : Sending)
      (hfrom : st.phase = .writing fd request response sending)
      (hlast : taken answer (response.length - sending.sent) ≤ 0) :
      Move answer st (finish st fd ⟨request, response, sending⟩)

theorem threadStep_move (st : State) (answer : Answer) : Move answer st (threadStep st answer) := by
  cases hphase : st.phase with
  | testing =>
    simp only [threadStep, hphase]
    refine .idle _ (by rw [hphase]; trivial) ?_
    split <;> trivial
  | accepting =>
    have hidle : st.phase.Idle := by rw [hphase]; trivial
    simp only [threadStep, hphase]
    split
    · exact .accept _ hidle
    · exact .idle _ hidle trivial
  | refused =>
    simp only [threadStep, hphase]
    refine .idle _ (by rw [hphase]; trivial) ?_
    split <;> trivial
  | reading fd request =>
    simp only [threadStep, hphase]
    split
    · exact .lose fd request hphase
    · rename_i hne
      exact .receive fd request hphase hne
  | routing fd request =>
    simp only [threadStep, hphase]
    exact .copy fd request hphase
  | answering fd request copied =>
    simp only [threadStep, hphase]
    split
    · rename_i response hresponse
      exact .respond fd request copied response hphase hresponse
    · rename_i hnone
      exact .mute fd request copied hphase hnone
  | offering fd request response sending =>
    simp only [threadStep, hphase]
    split
    · rename_i hmore
      split
      · rename_i hrunning
        exact .offer fd request response sending hphase hmore hrunning
      · rename_i hstopped
        exact .interrupt fd request response sending hphase (Bool.eq_false_iff.mpr hstopped)
    · rename_i hless
      exact .complete fd request response sending hphase (Nat.le_of_not_lt hless)
  | writing fd request response sending =>
    simp only [threadStep, hphase]
    have hbound : taken answer (response.length - sending.sent) ≤
        (response.length - sending.sent : ℕ) := min_le_right _ _
    split
    · rename_i hfailed
      exact .fail fd request response sending hphase hfailed
    · rename_i hpos
      generalize taken answer (response.length - sending.sent) = r at hbound hpos ⊢
      exact .take fd request response sending r hphase (by omega) (by omega)
  | ended =>
    simp only [threadStep, hphase]
    have hmove : Move answer st { st with phase := .ended } :=
      .idle .ended (by rw [hphase]; trivial) trivial
    rwa [← hphase] at hmove

def Phase.clients : Phase → List Int32
  | .reading fd _ | .routing fd _ | .answering fd _ _ | .offering fd _ _ _ | .writing fd _ _ _ =>
    [fd.val]
  | .testing | .accepting | .refused | .ended => []

theorem Phase.Idle.clients {phase : Phase} (h : phase.Idle) : phase.clients = [] := by
  cases phase <;> first | rfl | exact absurd h id

/-- The connection the thread works on is the one that is open, and none has been closed that
was not. -/
structure Tracked (st : State) : Prop where
  opened : st.clients.opened.map Prod.fst = st.phase.clients
  closedOnce : st.clients.stray = 0

theorem closeClient_tracked {st : State} {fd : Fd}
    (hopened : st.clients.opened.map Prod.fst = [fd.val]) (hstray : st.clients.stray = 0) :
    Tracked (closeClient st fd) := by
  obtain ⟨hnone, hsame⟩ := Table.close_single hopened
  exact ⟨congrArg (List.map Prod.fst) hnone, hsame.trans hstray⟩

theorem threadStep_tracked {st : State} (h : Tracked st) (answer : Answer) :
    Tracked (threadStep st answer) := by
  obtain ⟨hopened, hstray⟩ := h
  have hmove := threadStep_move st answer
  generalize threadStep st answer = st' at hmove ⊢
  cases hmove with
  | idle phase hfrom hto => exact ⟨hopened.trans (hfrom.clients.trans hto.clients.symm), hstray⟩
  | accept fd hfrom =>
    exact ⟨Table.enter_empty (List.map_eq_nil_iff.mp (hopened.trans hfrom.clients)) _, hstray⟩
  | lose fd request hfrom =>
    rw [hfrom] at hopened
    exact closeClient_tracked hopened hstray
  | receive fd request hfrom hne =>
    rw [hfrom] at hopened
    exact ⟨hopened, hstray⟩
  | copy fd request hfrom =>
    rw [hfrom] at hopened
    exact ⟨hopened, hstray⟩
  | respond fd request copied response hfrom hresponse =>
    rw [hfrom] at hopened
    exact ⟨hopened, hstray⟩
  | mute fd request copied hfrom hnone =>
    rw [hfrom] at hopened
    exact closeClient_tracked hopened hstray
  | offer fd request response sending hfrom hmore hrunning =>
    rw [hfrom] at hopened
    exact ⟨hopened, hstray⟩
  | take fd request response sending r hfrom hpos hle =>
    rw [hfrom] at hopened
    exact ⟨hopened, hstray⟩
  | complete fd request response sending hfrom hlast
  | interrupt fd request response sending hfrom hlast
  | fail fd request response sending hfrom hlast =>
    rw [hfrom] at hopened
    exact closeClient_tracked hopened hstray

theorem step_tracked (st : State) (event : Event) (h : Tracked st) : Tracked (step st event) := by
  cases event with
  | update snap => exact ⟨h.opened, h.closedOnce⟩
  | stop => exact ⟨h.opened, h.closedOnce⟩
  | thread answer => exact threadStep_tracked h answer

/-- Between the test of the flag and the end of the thread, counted in its steps. -/
def Phase.left : Phase → ℕ
  | .ended => 0
  | .testing | .refused => 1
  | .offering .. => 2
  | .answering .. | .writing .. => 3
  | .routing .. => 4
  | .reading .. => 5
  | .accepting => 6

/-- The writes that a step makes. -/
def writes (st : State) (event : Event) : List Unit :=
  match event, st.phase with
  | .thread _, .writing .. => [()]
  | _, _ => []

/-- The writes that are still to come from a thread that has been stopped. -/
def Phase.writesLeft : Phase → ℕ
  | .writing .. => 1
  | _ => 0

theorem threadStep_running (st : State) (answer : Answer) :
    (threadStep st answer).running = st.running := by
  have hmove := threadStep_move st answer
  generalize threadStep st answer = st' at hmove ⊢
  cases hmove <;> rfl

theorem step_stopped (st : State) (event : Event) (h : st.running = false) :
    (step st event).running = false := by
  cases event with
  | update snap => exact h
  | stop => rfl
  | thread answer => exact (threadStep_running st answer).trans h

/-- Every step of a stopped thread brings it nearer to its end. -/
theorem threadStep_left {st : State} (h : st.running = false) (answer : Answer) :
    (threadStep st answer).phase.left ≤ st.phase.left - 1 ∧
      (writes st (.thread answer)).length + (threadStep st answer).phase.writesLeft ≤
        st.phase.writesLeft := by
  cases hphase : st.phase with
  | testing => simp [threadStep, writes, hphase, h, Phase.left, Phase.writesLeft]
  | accepting =>
    cases haccepted : answer.accepted <;>
      simp [threadStep, writes, hphase, haccepted, Phase.left, Phase.writesLeft]
  | refused => simp [threadStep, writes, hphase, h, Phase.left, Phase.writesLeft]
  | reading fd request =>
    simp only [threadStep, writes, hphase]
    split <;> simp [closeClient, Phase.left, Phase.writesLeft]
  | routing fd request => simp [threadStep, writes, hphase, Phase.left, Phase.writesLeft]
  | answering fd request copied =>
    simp only [threadStep, writes, hphase]
    split <;> simp [closeClient, Phase.left, Phase.writesLeft]
  | offering fd request response sending =>
    simp only [threadStep, writes, hphase, h, Bool.false_eq_true, if_false]
    split <;> simp [finish, closeClient, Phase.left, Phase.writesLeft]
  | writing fd request response sending =>
    simp only [threadStep, writes, hphase]
    split <;> simp [finish, closeClient, Phase.left, Phase.writesLeft]
  | ended => simp [threadStep, writes, hphase, Phase.left, Phase.writesLeft]

/-- While the flag is set the thread goes on. -/
def Alive (st : State) : Prop := st.running = true → st.phase ≠ .ended

theorem step_alive (st : State) (event : Event) (h : Alive st) : Alive (step st event) := by
  cases event with
  | update snap => exact h
  | stop => exact fun hfalse => absurd hfalse Bool.false_ne_true
  | thread answer =>
    intro hrunning
    rw [step, threadStep_running] at hrunning
    have halive := h hrunning
    cases hphase : st.phase with
    | ended => exact absurd hphase halive
    | testing => simp [step, threadStep, hphase, hrunning]
    | accepting => cases haccepted : answer.accepted <;> simp [step, threadStep, hphase, haccepted]
    | refused => simp [step, threadStep, hphase, hrunning]
    | reading fd request =>
      simp only [step, threadStep, hphase]
      split <;> simp [closeClient]
    | routing fd request => simp [step, threadStep, hphase]
    | answering fd request copied =>
      simp only [step, threadStep, hphase]
      split <;> simp [closeClient]
    | offering fd request response sending =>
      simp only [step, threadStep, hphase, hrunning, if_true]
      split <;> simp [finish, closeClient]
    | writing fd request response sending =>
      simp only [step, threadStep, hphase]
      split <;> simp [finish, closeClient]

theorem exec_running (events : List Event) {st : State} (h : st.running = true)
    (hstop : .stop ∉ events) : (exec step st events).running = true := by
  induction events generalizing st with
  | nil => exact h
  | cons event events ih =>
    obtain ⟨hnow, hlater⟩ := not_or.mp (List.mem_cons.not.mp hstop)
    apply ih _ hlater
    cases event with
    | update snap => exact h
    | stop => exact absurd rfl hnow
    | thread answer => exact (threadStep_running st answer).trans h

theorem exec_tracked (events : List Event) : Tracked (exec step {} events) :=
  exec_invariant step_tracked events ⟨rfl, rfl⟩

theorem Tracked.ended {st : State} (h : Tracked st) (hended : st.phase = .ended) :
    st.clients.opened = [] := by
  have hopened := h.opened
  rw [hended] at hopened
  exact List.map_eq_nil_iff.mp hopened

/-- At any moment one connection is open at most, nothing is closed that is not open, and
every other connection accepted so far has been closed exactly once. The thread ends only
after a stop, and then with none open. -/
theorem connections_closed (events : List Event) :
    let st := exec step {} events
    st.clients.opened.length ≤ 1 ∧ st.clients.stray = 0 ∧
      (∀ s < st.clients.count,
        (st.clients.opened.map Prod.snd).count s + st.clients.closed.count s = 1) ∧
      (st.phase = .ended → .stop ∈ events ∧ st.clients.opened = []) := by
  intro st
  have htracked : Tracked st := exec_tracked events
  have halive : Alive st := exec_invariant step_alive events (fun _ h => by cases h)
  refine ⟨?_, htracked.closedOnce, fun s hs => Table.count_accounted st.clients hs, ?_⟩
  · rw [← List.length_map Prod.fst, htracked.opened]
    cases st.phase <;> simp [Phase.clients]
  · intro hended
    refine ⟨?_, htracked.ended hended⟩
    by_contra hstop
    exact halive (exec_running events rfl hstop) hended

/-- Once the server is stopped the thread ends within six of its own steps, whatever they are
answered and whatever the other thread does, and it makes one more write at most. -/
theorem stop_ends (events later : List Event) :
    let st := exec step {} (events ++ [.stop])
    (shown step writes st later).length ≤ 1 ∧
      (6 ≤ later.countP Event.isThread →
        (exec step st later).phase = .ended ∧ (exec step st later).clients.opened = []) := by
  intro st
  have hstopped : st.running = false := congrArg State.running (exec_append _ events [.stop])
  constructor
  · let rank (s : State) : ℕ := s.phase.writesLeft
    have hpaid : ∀ s e, s.running = false →
        (writes s e).length + rank (step s e) ≤ rank s := by
      intro s e hs
      cases e with
      | update snap => exact (Nat.zero_add _).le
      | stop => exact (Nat.zero_add _).le
      | thread answer => exact (threadStep_left hs answer).2
    refine (length_shown_le step_stopped hpaid later hstopped).trans ?_
    change st.phase.writesLeft ≤ 1
    cases st.phase <;> simp [Phase.writesLeft]
  · intro hsteps
    have hrank : (exec step st later).phase.left = 0 := by
      let rank (s : State) : ℕ := s.phase.left
      suffices h : rank (exec step st later) = 0 from h
      have henough : rank st ≤ later.countP Event.isThread := by
        refine le_trans ?_ hsteps
        change st.phase.left ≤ 6
        cases st.phase <;> simp [Phase.left]
      refine exec_rank step_stopped ?_ ?_ later hstopped henough
      · intro s e hs
        cases e with
        | update snap => exact le_rfl
        | stop => exact le_rfl
        | thread answer =>
          have hnext : rank (threadStep s answer) ≤ rank s - 1 := (threadStep_left hs answer).1
          change rank (threadStep s answer) ≤ rank s
          omega
      · intro s e hs hthread hpos
        cases e with
        | update snap => cases hthread
        | stop => cases hthread
        | thread answer =>
          have hnext : rank (threadStep s answer) ≤ rank s - 1 := (threadStep_left hs answer).1
          change rank (threadStep s answer) < rank s
          omega
    have hended : (exec step st later).phase = .ended := by
      revert hrank
      cases (exec step st later).phase <;> simp [Phase.left]
    have htracked : Tracked (exec step st later) :=
      exec_invariant step_tracked later (exec_invariant step_tracked _ ⟨rfl, rfl⟩)
    have hopened := htracked.opened
    rw [hended] at hopened
    exact ⟨hended, List.map_eq_nil_iff.mp hopened⟩

end SolakonMonitor.ServerThread
