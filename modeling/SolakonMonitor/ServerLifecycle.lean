import SolakonMonitor.ClientConnect
import SolakonMonitor.Descriptors

/-!
Starting and stopping the HTTP server.
The running flag, the listening descriptor and the server thread are changed by start,
stop and the destructor only; the thread reads them. They agree after every call, whichever
system call fails, so no thread is overwritten and every listening socket is closed.
Joining the thread is taken to return.
-/
namespace SolakonMonitor.ServerLifecycle

open ClientConnect Descriptors

/-- `serverThread` says whether the thread is joinable. -/
structure Server where
  serverFd : Int32 := -1
  serverThread : Bool := false
  running : Bool := false
  deriving DecidableEq

/-- What the system calls of one start answer; the flags say that a call succeeds. -/
structure Answers where
  socket : Except Errno { fd : Int32 // 0 ≤ fd }
  setsockopt : Bool
  bind : Bool
  listen : Bool

/-- The server and the listening sockets that the process has open. -/
structure Process where
  server : Server
  sockets : Table Int32

def Process.initial : Process := ⟨{}, .empty⟩

/-- Assigning to a thread that is joinable ends the process. -/
def assignThread (server : Server) : Option Server :=
  if server.serverThread then none else some { server with serverThread := true }

/-- The exits after the socket is there: close it and forget it. -/
def abandon (st : Process) : Process :=
  ⟨{ st.server with serverFd := -1 }, st.sockets.close st.server.serverFd⟩

def start (answers : Answers) (st : Process) : Option (Bool × Process) :=
  if st.server.running then some (false, st)
  else
    match answers.socket with
    | .error _ => some (false, { st with server := { st.server with serverFd := -1 } })
    | .ok fd =>
      let st : Process := ⟨{ st.server with serverFd := fd.val }, st.sockets.enter fd.val⟩
      if ¬ answers.setsockopt then some (false, abandon st)
      else if ¬ answers.bind then some (false, abandon st)
      else if ¬ answers.listen then some (false, abandon st)
      else (assignThread { st.server with running := true }).map
        (fun server => (true, { st with server := server }))

def stop (st : Process) : Process :=
  if ¬ st.server.running then st
  else
    let st : Process := { st with server := { st.server with running := false } }
    let st : Process :=
      if 0 ≤ st.server.serverFd then
        ⟨{ st.server with serverFd := -1 }, st.sockets.close st.server.serverFd⟩
      else st
    if st.server.serverThread then { st with server := { st.server with serverThread := false } }
    else st

/-- `~Server` stops the server; the members go away after it, and a joinable thread among
them would end the process. -/
def destroy (st : Process) : Option (Table Int32) :=
  if (stop st).server.serverThread then none else some (stop st).sockets

inductive Call where
  | start (answers : Answers)
  | stop

/-- none is the end of the process by a joinable thread. -/
def step (st : Process) : Call → Option Process
  | .start answers => (start answers st).map Prod.snd
  | .stop => some (stop st)

def run (calls : List Call) : Option Process := calls.foldlM step .initial

/-- The flag, the descriptor and the thread say the same. -/
structure InStep (server : Server) : Prop where
  listening : server.running = true ↔ 0 ≤ server.serverFd
  threaded : 0 ≤ server.serverFd ↔ server.serverThread = true

/-- Either nothing is there, or the server runs on the one socket that is open. -/
inductive Kept : Process → Prop where
  | idle (sockets : Table Int32) (hopened : sockets.opened = []) (hstray : sockets.stray = 0) :
      Kept ⟨{}, sockets⟩
  | serving (fd : Int32) (sockets : Table Int32) (hfd : 0 ≤ fd)
      (hopened : sockets.opened.map Prod.fst = [fd]) (hstray : sockets.stray = 0) :
      Kept ⟨⟨fd, true, true⟩, sockets⟩

theorem Kept.stray {st : Process} (h : Kept st) : st.sockets.stray = 0 := by
  cases h with
  | idle sockets hopened hstray => exact hstray
  | serving fd sockets hfd hopened hstray => exact hstray

theorem Kept.inStep {st : Process} (h : Kept st) : InStep st.server := by
  cases h with
  | idle sockets hopened hstray =>
    have hnone : ¬ (0 : Int32) ≤ -1 := by decide
    exact ⟨iff_of_false Bool.false_ne_true hnone, iff_of_false hnone Bool.false_ne_true⟩
  | serving fd sockets hfd hopened hstray =>
    exact ⟨iff_of_true rfl hfd, iff_of_true hfd rfl⟩

theorem start_kept {st : Process} (h : Kept st) (answers : Answers) :
    ∃ ok st', start answers st = some (ok, st') ∧ Kept st' ∧
      (ok = false → st'.server = st.server) := by
  cases h with
  | serving fd sockets hfd hopened hstray =>
    exact ⟨false, _, rfl, .serving fd sockets hfd hopened hstray, fun _ => rfl⟩
  | idle sockets hopened hstray =>
    cases hsocket : answers.socket with
    | error errno =>
      refine ⟨false, _, ?_, .idle sockets hopened hstray, fun _ => rfl⟩
      simp only [start, hsocket, Bool.false_eq_true, if_false]
    | ok fd =>
      have hentered := Table.enter_empty hopened fd.val
      obtain ⟨hclosed, hsame⟩ := Table.close_single hentered
      have habandoned : Kept ⟨{}, (sockets.enter fd.val).close fd.val⟩ :=
        .idle _ hclosed (hsame.trans hstray)
      by_cases hfails : answers.setsockopt = true ∧ answers.bind = true ∧ answers.listen = true
      · obtain ⟨hsetsockopt, hbind, hlisten⟩ := hfails
        refine ⟨true, _, ?_, .serving fd.val (sockets.enter fd.val) fd.property hentered hstray,
          fun hfalse => by cases hfalse⟩
        simp only [start, hsocket, hsetsockopt, hbind, hlisten, assignThread, Bool.false_eq_true,
          if_false, not_true_eq_false, Option.map_some]
      · refine ⟨false, _, ?_, habandoned, fun _ => rfl⟩
        simp only [start, hsocket, abandon, Bool.false_eq_true, if_false]
        split
        · rfl
        · split
          · rfl
          · split
            · rfl
            · rename_i hsetsockopt hbind hlisten
              exact absurd ⟨not_not.mp hsetsockopt, not_not.mp hbind, not_not.mp hlisten⟩ hfails

theorem stop_kept {st : Process} (h : Kept st) :
    Kept (stop st) ∧ (stop st).server = {} ∧ (stop st).sockets.opened = [] := by
  cases h with
  | idle sockets hopened hstray => exact ⟨.idle sockets hopened hstray, rfl, hopened⟩
  | serving fd sockets hfd hopened hstray =>
    obtain ⟨hclosed, hsame⟩ := Table.close_single hopened
    have hstop : stop ⟨⟨fd, true, true⟩, sockets⟩ = ⟨{}, sockets.close fd⟩ := by
      simp only [stop, not_true_eq_false, if_false, hfd, if_true]
    rw [hstop]
    exact ⟨.idle _ hclosed (hsame.trans hstray), rfl, hclosed⟩

theorem run_kept (calls : List Call) : ∃ st, run calls = some st ∧ Kept st := by
  refine run_invariant (fun _ st => Kept st) (.idle .empty rfl rfl) ?_ calls
  intro _ st call hkept
  cases call with
  | start answers =>
    obtain ⟨ok, st', hstart, hkept', _⟩ := start_kept hkept answers
    exact ⟨st', by rw [step, hstart, Option.map_some], hkept'⟩
  | stop => exact ⟨stop st, rfl, (stop_kept hkept).1⟩

/-- After every sequence of calls the three agree, a start that fails changes none of them,
no joinable thread is overwritten or destroyed, and the end of the server has closed every
listening socket exactly once. Every join is taken to return: that the thread ends is a matter of
its own steps. -/
theorem lifecycle (calls : List Call) :
    ∃ st, run calls = some st ∧ InStep st.server ∧
      (∀ answers, ∃ ok st', start answers st = some (ok, st') ∧
        (ok = false → st'.server = st.server)) ∧
      ∃ sockets, destroy st = some sockets ∧ sockets.opened = [] ∧ sockets.stray = 0 ∧
        ∀ s, s < sockets.count → sockets.closed.count s = 1 := by
  obtain ⟨st, hrun, hkept⟩ := run_kept calls
  refine ⟨st, hrun, hkept.inStep, ?_, ?_⟩
  · intro answers
    obtain ⟨ok, st', hstart, _, hsame⟩ := start_kept hkept answers
    exact ⟨ok, st', hstart, hsame⟩
  · obtain ⟨hstopped, hserver, hopened⟩ := stop_kept hkept
    refine ⟨(stop st).sockets, ?_, hopened, hstopped.stray,
      fun s hs => Table.closed_once hopened hs⟩
    rw [destroy, hserver, if_neg Bool.false_ne_true]

end SolakonMonitor.ServerLifecycle
