import SolakonMonitor.ServerThread
import SolakonMonitor.SnapshotServing

/-!
What the server thread answers while snapshots are stored.
Each answer is written from one copy of the snapshot, and the copies follow the order of the
updates. Seen from the outside, the steps of the thread between two calls are the steps of the
coarser model, in which a request is copied and answered.
-/
namespace SolakonMonitor.ServerThread

open BigEndian DecimalText Device HttpServer ResponseDelivery ClientConnect StateMachine

def lastOf (snaps : List DeviceSnapshot) : DeviceSnapshot := snaps.getLast?.getD {}

/-- The response was written from what was stored last before the copy. -/
def Served (request : Request) (response : Bytes) : Prop :=
  handleClient { latestSnapshot := lastOf request.before } request.now request.received =
    some response

/-- The copy is what was stored last, and a write is only begun with something left. -/
def Phase.Sound : Phase → Prop
  | .answering _ request copied => copied = lastOf request.before
  | .offering _ request response sending => Served request response ∧ Faithful response sending
  | .writing _ request response sending =>
    Served request response ∧ Faithful response sending ∧ sending.sent < response.length
  | _ => True

/-- The client has got the beginning of its response. -/
structure Delivered (exchange : Exchange) : Prop where
  served : Served exchange.request exchange.response
  socket : exchange.sending.socket <+: exchange.response

structure Sound (st : State) : Prop where
  stored : st.latestSnapshot = lastOf st.stored
  phase : st.phase.Sound
  finished : ∀ exchange ∈ st.finished, Delivered exchange

theorem Phase.Idle.sound {phase : Phase} (h : phase.Idle) : phase.Sound := by
  cases phase <;> trivial

theorem finish_sound {st : State} {fd : Fd} {request : Request} {response : Bytes}
    {sending : Sending} (h : Sound st) (hserved : Served request response)
    (hfaithful : Faithful response sending) :
    Sound (finish st fd ⟨request, response, sending⟩) := by
  refine ⟨h.stored, trivial, ?_⟩
  intro exchange hexchange
  rcases List.mem_append.mp hexchange with hold | hnew
  · exact h.finished exchange hold
  · rw [List.mem_singleton.mp hnew]
    refine ⟨hserved, ?_⟩
    dsimp only
    rw [hfaithful.socket]
    exact List.take_prefix _ _

theorem threadStep_sound {st : State} (h : Sound st) (answer : Answer) :
    Sound (threadStep st answer) := by
  have hphase := h.phase
  have hmove := threadStep_move st answer
  generalize threadStep st answer = st' at hmove ⊢
  cases hmove with
  | idle phase hfrom hto => exact ⟨h.stored, hto.sound, h.finished⟩
  | accept fd hfrom => exact ⟨h.stored, trivial, h.finished⟩
  | lose fd request hfrom => exact ⟨h.stored, trivial, h.finished⟩
  | receive fd request hfrom hne => exact ⟨h.stored, trivial, h.finished⟩
  | copy fd request hfrom => exact ⟨h.stored, h.stored, h.finished⟩
  | respond fd request copied response hfrom hresponse =>
    rw [hfrom] at hphase
    have hcopied : copied = lastOf request.before := hphase
    rw [hcopied] at hresponse
    exact ⟨h.stored, ⟨hresponse, faithful_start response⟩, h.finished⟩
  | mute fd request copied hfrom hnone => exact ⟨h.stored, trivial, h.finished⟩
  | offer fd request response sending hfrom hmore hrunning =>
    rw [hfrom] at hphase
    exact ⟨h.stored, ⟨hphase.1, hphase.2, hmore⟩, h.finished⟩
  | take fd request response sending r hfrom hpos hle =>
    rw [hfrom] at hphase
    exact ⟨h.stored, ⟨hphase.1, faithful_step hphase.2.1 hle⟩, h.finished⟩
  | complete fd request response sending hfrom hlast
  | interrupt fd request response sending hfrom hlast =>
    rw [hfrom] at hphase
    exact finish_sound h hphase.1 hphase.2
  | fail fd request response sending hfrom hlast =>
    rw [hfrom] at hphase
    exact finish_sound h hphase.1 hphase.2.1

theorem lastOf_append (snaps : List DeviceSnapshot) (snap : DeviceSnapshot) :
    lastOf (snaps ++ [snap]) = snap := by
  rw [lastOf, List.getLast?_concat, Option.getD_some]

theorem step_sound (st : State) (event : Event) (h : Sound st) : Sound (step st event) := by
  cases event with
  | update snap => exact ⟨(lastOf_append st.stored snap).symm, h.phase, h.finished⟩
  | stop => exact ⟨h.stored, h.phase, h.finished⟩
  | thread answer => exact threadStep_sound h answer

/-- What was stored when the connection was accepted, and when the copy was made. -/
def Phase.moments : Phase → List (List DeviceSnapshot)
  | .reading _ request | .routing _ request => [request.arrived]
  | .answering _ request _ | .offering _ request _ _ | .writing _ request _ _ =>
    [request.arrived, request.before]
  | .testing | .accepting | .refused | .ended => []

def Exchange.moments (exchange : Exchange) : List (List DeviceSnapshot) :=
  [exchange.request.arrived, exchange.request.before]

/-- Everything noted so far, in the order of the connections. -/
def State.moments (st : State) : List (List DeviceSnapshot) :=
  st.finished.flatMap Exchange.moments ++ st.phase.moments

/-- What is noted later has seen every snapshot that was noted before. -/
def Ordered (st : State) : Prop := (st.moments ++ [st.stored]).Pairwise (· <+: ·)

theorem Phase.Idle.moments {phase : Phase} (h : phase.Idle) : phase.moments = [] := by
  cases phase <;> first | rfl | exact absurd h id

/-- The last of an increasing list may be noted once more, or grow. -/
theorem pairwise_note {noted : List (List DeviceSnapshot)} {stored later : List DeviceSnapshot}
    (h : (noted ++ [stored]).Pairwise (· <+: ·)) (hlater : stored <+: later) :
    (noted ++ [later]).Pairwise (· <+: ·) ∧
      (noted ++ [stored] ++ [later]).Pairwise (· <+: ·) := by
  have hlast : ∀ seen ∈ noted ++ [stored], seen <+: later := by
    intro seen hseen
    rcases List.mem_append.mp hseen with hseen | hseen
    · have hbefore := (List.pairwise_append.mp h).2.2 seen hseen stored (by simp)
      exact hbefore.trans hlater
    · rw [List.mem_singleton.mp hseen]
      exact hlater
  have hall : (noted ++ [stored] ++ [later]).Pairwise (· <+: ·) := by
    refine List.pairwise_append.mpr ⟨h, List.pairwise_singleton _ _, ?_⟩
    intro seen hseen last hmem
    rw [List.mem_singleton.mp hmem]
    exact hlast seen hseen
  refine ⟨hall.sublist ?_, hall⟩
  rw [List.append_assoc]
  exact (List.Sublist.refl noted).append (List.sublist_append_right _ _)

/-- A step of the thread notes what is stored, forgets a connection or leaves the notes as
they are. -/
theorem threadStep_moments (st : State) (answer : Answer) :
    (threadStep st answer).stored = st.stored ∧
      ((threadStep st answer).moments = st.moments ++ [st.stored] ∨
        (threadStep st answer).moments.Sublist st.moments) := by
  have hmove := threadStep_move st answer
  generalize threadStep st answer = st' at hmove ⊢
  cases hmove with
  | idle phase hfrom hto =>
    refine ⟨rfl, Or.inr ?_⟩
    rw [State.moments, State.moments, hfrom.moments, hto.moments]
  | accept fd hfrom =>
    refine ⟨rfl, Or.inl ?_⟩
    rw [State.moments, State.moments, hfrom.moments, List.append_nil]
    rfl
  | lose fd request hfrom =>
    exact ⟨rfl, Or.inr ((List.Sublist.refl _).append (List.nil_sublist _))⟩
  | receive fd request hfrom hne =>
    refine ⟨rfl, Or.inr ?_⟩
    rw [State.moments, State.moments, hfrom]
    exact List.Sublist.refl _
  | copy fd request hfrom =>
    refine ⟨rfl, Or.inl ?_⟩
    rw [State.moments, State.moments, hfrom, List.append_assoc]
    rfl
  | respond fd request copied response hfrom hresponse =>
    refine ⟨rfl, Or.inr ?_⟩
    rw [State.moments, State.moments, hfrom]
    exact List.Sublist.refl _
  | mute fd request copied hfrom hnone =>
    exact ⟨rfl, Or.inr ((List.Sublist.refl _).append (List.nil_sublist _))⟩
  | offer fd request response sending hfrom hmore hrunning =>
    refine ⟨rfl, Or.inr ?_⟩
    rw [State.moments, State.moments, hfrom]
    exact List.Sublist.refl _
  | take fd request response sending r hfrom hpos hle =>
    refine ⟨rfl, Or.inr ?_⟩
    rw [State.moments, State.moments, hfrom]
    exact List.Sublist.refl _
  | complete fd request response sending hfrom hlast
  | interrupt fd request response sending hfrom hlast
  | fail fd request response sending hfrom hlast =>
    refine ⟨rfl, Or.inr ?_⟩
    have hsame : (finish st fd ⟨request, response, sending⟩).moments = st.moments := by
      change (st.finished ++ [_]).flatMap Exchange.moments ++ [] = _
      rw [State.moments, hfrom, List.flatMap_append, List.append_nil, List.flatMap_singleton]
      rfl
    rw [hsame]

theorem step_ordered (st : State) (event : Event) (h : Ordered st) : Ordered (step st event) := by
  cases event with
  | update snap => exact (pairwise_note h (List.prefix_append _ _)).1
  | stop => exact h
  | thread answer =>
    obtain ⟨hstored, hmoments⟩ := threadStep_moments st answer
    rw [Ordered, step, hstored]
    rcases hmoments with hnoted | hfewer
    · rw [hnoted]
      exact (pairwise_note h (List.prefix_refl _)).2
    · exact List.Pairwise.sublist (hfewer.append (List.Sublist.refl _)) h

def Event.updates : Event → List DeviceSnapshot
  | .update snap => [snap]
  | _ => []

theorem step_stored (st : State) (event : Event) :
    (step st event).stored = st.stored ++ event.updates := by
  cases event with
  | update snap => rfl
  | stop => exact (List.append_nil _).symm
  | thread answer => exact (threadStep_moments st answer).1.trans (List.append_nil _).symm

theorem exec_stored (events : List Event) :
    (exec step {} events).stored = events.flatMap Event.updates := by
  let inv (past : List Event) (st : State) : Prop := st.stored = past.flatMap Event.updates
  have hstep : ∀ past st event, inv past st → inv (past ++ [event]) (step st event) := by
    intro past st event hst
    have hst' : st.stored = past.flatMap Event.updates := hst
    change (step st event).stored = (past ++ [event]).flatMap Event.updates
    rw [step_stored, hst', List.flatMap_append, List.flatMap_singleton]
  exact exec_history hstep events rfl

theorem Ordered.finished {st : State} (h : Ordered st) :
    (∀ exchange ∈ st.finished, exchange.request.arrived <+: exchange.request.before ∧
      exchange.request.before <+: st.stored) ∧
    st.finished.Pairwise (fun exchange later =>
      exchange.request.before <+: later.request.arrived) := by
  obtain ⟨hmoments, -, hstored⟩ := List.pairwise_append.mp h
  obtain ⟨hfinished, -, -⟩ := List.pairwise_append.mp hmoments
  obtain ⟨hown, hacross⟩ := List.pairwise_flatMap.mp hfinished
  refine ⟨?_, ?_⟩
  · intro exchange hexchange
    refine ⟨List.rel_of_pairwise_cons (hown exchange hexchange) (by simp), ?_⟩
    apply hstored
    · refine List.mem_append_left _ (List.mem_flatMap.mpr ⟨exchange, hexchange, ?_⟩)
      exact List.mem_cons_of_mem _ List.mem_cons_self
    · exact List.mem_cons_self
  · refine hacross.imp ?_
    intro exchange later hboth
    exact hboth _ (List.mem_cons_of_mem _ List.mem_cons_self) _ List.mem_cons_self

theorem exec_sound (events : List Event) : Sound (exec step {} events) :=
  exec_invariant step_sound events ⟨rfl, trivial, List.forall_mem_nil _⟩

theorem exec_ordered (events : List Event) : Ordered (exec step {} events) :=
  exec_invariant step_ordered events (List.pairwise_singleton _ _)

/-- What ended the sending of a response: the server was stopped before a write, or a write
took nothing. -/
def CutShort (events : List Event) (exchange : Exchange) : Prop :=
  ∃ past answer fd, past ++ [.thread answer] <+: events ∧
    ((exec step {} past).phase =
          .offering fd exchange.request exchange.response exchange.sending ∧ .stop ∈ past ∨
      (exec step {} past).phase =
          .writing fd exchange.request exchange.response exchange.sending ∧ answer.written ≤ 0)

theorem CutShort.later {events : List Event} {exchange : Exchange} (h : CutShort events exchange)
    (event : Event) : CutShort (events ++ [event]) exchange := by
  obtain ⟨past, answer, fd, hprefix, hcut⟩ := h
  exact ⟨past, answer, fd, hprefix.trans (List.prefix_append _ _), hcut⟩

/-- The answers that are not whole were cut short. -/
def Whole (events : List Event) (st : State) : Prop :=
  ∀ exchange ∈ st.finished,
    exchange.sending.socket = exchange.response ∨ CutShort events exchange

theorem finish_whole {past : List Event} {st : State} {answer : Answer} {fd : Fd}
    {exchange : Exchange} (h : Whole past st)
    (hlast : exchange.sending.socket = exchange.response ∨
      CutShort (past ++ [.thread answer]) exchange) :
    Whole (past ++ [.thread answer]) (finish st fd exchange) := by
  intro other hother
  rcases List.mem_append.mp hother with hold | hnew
  · exact (h other hold).imp_right (fun hcut => hcut.later _)
  · rw [List.mem_singleton.mp hnew]
    exact hlast

theorem threadStep_whole {past : List Event} (answer : Answer)
    (h : Whole past (exec step {} past)) :
    Whole (past ++ [.thread answer]) (threadStep (exec step {} past) answer) := by
  have hphase := (exec_sound past).phase
  have hmove := threadStep_move (exec step {} past) answer
  have hkept : ∀ st, st.finished = (exec step {} past).finished →
      Whole (past ++ [.thread answer]) st := by
    intro st hfinished exchange hexchange
    rw [hfinished] at hexchange
    exact (h exchange hexchange).imp_right (fun hcut => hcut.later _)
  generalize threadStep (exec step {} past) answer = st' at hmove ⊢
  cases hmove with
  | complete fd request response sending hfrom hlast =>
    rw [hfrom] at hphase
    exact finish_whole h (Or.inl (hphase.2.whole_iff.mpr hlast))
  | interrupt fd request response sending hfrom hlast =>
    refine finish_whole h (Or.inr ⟨past, answer, fd, List.prefix_refl _, Or.inl ⟨hfrom, ?_⟩⟩)
    by_contra hstop
    rw [exec_running past rfl hstop] at hlast
    cases hlast
  | fail fd request response sending hfrom hlast =>
    refine finish_whole h (Or.inr ⟨past, answer, fd, List.prefix_refl _, Or.inr ⟨hfrom, ?_⟩⟩)
    rw [hfrom] at hphase
    have hmore := hphase.2.2
    unfold taken at hlast
    omega
  | _ => exact hkept _ rfl

theorem exec_whole (events : List Event) : Whole events (exec step {} events) := by
  let inv (past : List Event) (st : State) : Prop := st = exec step {} past ∧ Whole past st
  have hstep : ∀ past st event, inv past st → inv (past ++ [event]) (step st event) := by
    intro past st event hst
    obtain ⟨rfl, hwhole⟩ := hst
    have hnext : exec step {} (past ++ [event]) = step (exec step {} past) event :=
      exec_append _ past [event]
    refine ⟨hnext.symm, ?_⟩
    cases event with
    | update snap => exact fun other hother => (hwhole other hother).imp_right (·.later _)
    | stop => exact fun other hother => (hwhole other hother).imp_right (·.later _)
    | thread answer => exact threadStep_whole answer hwhole
  exact (exec_history hstep events ⟨rfl, List.forall_mem_nil _⟩).2

/-- Whatever the calls return and wherever the updates come: each answer is written from the
snapshot stored last before its copy, which was stored no earlier than the one at hand when
the connection was accepted, and later connections never see an older one. The client gets
the beginning of the answer, and all of it unless a write took nothing or the server was
stopped before it. -/
theorem answers_in_order (events : List Event) :
    let st := exec step {} events
    (∀ exchange ∈ st.finished, Delivered exchange ∧
      (exchange.sending.socket = exchange.response ∨ CutShort events exchange) ∧
      exchange.request.arrived <+: exchange.request.before ∧
      exchange.request.before <+: events.flatMap Event.updates) ∧
    st.finished.Pairwise (fun exchange later =>
      exchange.request.before <+: later.request.arrived) := by
  intro st
  have hsound : Sound st := exec_sound events
  have hordered : Ordered st := exec_ordered events
  refine ⟨?_, hordered.finished.2⟩
  intro exchange hexchange
  rw [← exec_stored events]
  exact ⟨hsound.finished exchange hexchange, exec_whole events exchange hexchange,
    hordered.finished.1 exchange hexchange⟩

/-- A request as it is answered: what was read, the clock and the response. -/
structure Shown where
  received : Bytes
  now : ℤ
  response : Option Bytes

def answered (st : State) (event : Event) : List Shown :=
  match event, st.phase with
  | .thread answer, .answering _ request copied =>
    [⟨request.received, answer.now,
      handleClient { latestSnapshot := copied } answer.now request.received⟩]
  | _, _ => []

/-- The request that has its copy and waits for its response. -/
def Phase.pending : Phase → Option (Bytes × DeviceSnapshot)
  | .answering _ request copied => some (request.received, copied)
  | _ => none

/-- The same snapshot is stored, and the same request is pending with the same copy. -/
structure Related (st : State) (serving : SnapshotServing.Serving) : Prop where
  stored : serving.server.latestSnapshot = st.latestSnapshot
  pending : serving.pending.map (fun p => (p.received, p.copied)) = st.phase.pending

end SolakonMonitor.ServerThread
