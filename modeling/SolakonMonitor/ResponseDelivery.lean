import Mathlib.Data.List.TakeDrop
import SolakonMonitor.HttpServer

/-!
The framing of a response and its way onto the socket.
The header block is a status line and fields, whatever the body holds, and the length it
announces is the length of what follows. The send loop offers what is left to `write`
until everything is taken, a write fails or the server is stopped.
-/
namespace SolakonMonitor.ResponseDelivery

open BigEndian DecimalText HttpServer

/-- A letter, a digit or a dash. -/
def isNameChar (b : UInt8) : Bool :=
  isDigit b || (65 ≤ b && b ≤ 90) || (97 ≤ b && b ≤ 122) || b = 45

def isPrintable (b : UInt8) : Bool := 32 ≤ b && b ≤ 126

/-- The lines of a header block. -/
def headerText (statusLine : Bytes) (headers : List (Bytes × Bytes)) : Bytes :=
  List.intercalate [13, 10] (statusLine :: headers.map (fun f => f.1 ++ 58 :: 32 :: f.2))

/-- A version, a code and a reason, then fields with different names. -/
structure WellFormed (statusLine : Bytes) (headers : List (Bytes × Bytes)) : Prop where
  status : ∃ code reason, statusLine = utf8 "HTTP/1.1 " ++ (code ++ 32 :: reason) ∧
    code.length = 3 ∧ (∀ b ∈ code, isDigit b = true) ∧ ∀ b ∈ reason, isPrintable b = true
  names : ∀ f ∈ headers, f.1 ≠ [] ∧ ∀ b ∈ f.1, isNameChar b = true
  values : ∀ f ∈ headers, ∀ b ∈ f.2, isPrintable b = true
  distinct : (headers.map Prod.fst).Nodup

/-- The field announces this many bytes, as a decimal. -/
def Announces (headers : List (Bytes × Bytes)) (length : ℕ) : Prop :=
  ∃ value, (utf8 "Content-Length", value) ∈ headers ∧ (∀ b ∈ value, isDigit b = true) ∧
    strtol value = some (length : ℤ)

def responseHeaders (length : ℕ) : List (Bytes × Bytes) :=
  [(utf8 "Content-Type", utf8 "application/json"), (utf8 "Connection", utf8 "close"),
    (utf8 "Content-Length", decimal length)]

theorem headerBlock_eq (length : ℕ) :
    headerBlock length = headerText (utf8 "HTTP/1.1 200 OK") (responseHeaders length) := by
  have htype : utf8 "Content-Type: application/json" =
      utf8 "Content-Type" ++ 58 :: 32 :: utf8 "application/json" := rfl
  have hclose : utf8 "Connection: close" = utf8 "Connection" ++ 58 :: 32 :: utf8 "close" := rfl
  have hlength : utf8 "Content-Length: " = utf8 "Content-Length" ++ [58, 32] := rfl
  simp only [headerBlock, headerText, responseHeaders, htype, hclose, hlength, List.map_cons,
    List.map_nil, List.intercalate_cons_cons, List.intercalate_singleton, List.append_assoc,
    List.cons_append, List.nil_append]

theorem isPrintable_of_isDigit {b : UInt8} (h : isDigit b = true) : isPrintable b = true := by
  have hrange := (isDigit_iff b).mp h
  simp only [isPrintable, Bool.and_eq_true, decide_eq_true_eq, UInt8.le_iff_toNat_le]
  change 32 ≤ b.toNat ∧ b.toNat ≤ 126
  omega

theorem responseHeaders_wellFormed (length : ℕ) :
    WellFormed (utf8 "HTTP/1.1 200 OK") (responseHeaders length) := by
  refine ⟨⟨utf8 "200", utf8 "OK", rfl, rfl, List.all_eq_true.mp rfl, List.all_eq_true.mp rfl⟩,
    ?_, ?_, ?_⟩
  · have hname : ∀ name : Bytes, (name ≠ [] && name.all isNameChar) = true →
        name ≠ [] ∧ ∀ b ∈ name, isNameChar b = true := by
      intro name h
      rw [Bool.and_eq_true, decide_eq_true_eq, List.all_eq_true] at h
      exact h
    simp only [responseHeaders, List.forall_mem_cons]
    exact ⟨hname _ rfl, hname _ rfl, hname _ rfl, List.forall_mem_nil _⟩
  · simp only [responseHeaders, List.forall_mem_cons]
    refine ⟨List.all_eq_true.mp rfl, List.all_eq_true.mp rfl, ?_, List.forall_mem_nil _⟩
    intro b hb
    exact isPrintable_of_isDigit (isDigit_of_mem_decimal hb)
  · change [utf8 "Content-Type", utf8 "Connection", utf8 "Content-Length"].Nodup
    decide

theorem responseHeaders_announces (length : ℕ) : Announces (responseHeaders length) length :=
  ⟨decimal length, by simp [responseHeaders], fun _ hb => isDigit_of_mem_decimal hb,
    strtol_decimal length⟩

/-- The results of `write`, by the number of the call and the number of bytes offered; it
never takes more than that. -/
structure Writer where
  result : ℕ → ℕ → ℤ
  bounded : ∀ call offered, result call offered ≤ offered

/-- `sent` bytes of the response have been taken, `socket` is what was put there. -/
structure Sending where
  sent : ℕ := 0
  socket : Bytes := []

/-- The server's state is read before each call of `write`, counted from `call`; none is a
loop that has not ended. -/
def sendLoop (writer : Writer) (running : ℕ → Bool) (response : Bytes) :
    ℕ → ℕ → Sending → Option Sending
  | 0, _, _ => none
  | fuel + 1, call, s =>
    if s.sent < response.length then
      if running call then
        let r := writer.result call (response.length - s.sent)
        if r ≤ 0 then some s
        else
          sendLoop writer running response fuel (call + 1)
            { sent := s.sent + r.toNat
              socket := s.socket ++ (response.drop s.sent).take r.toNat }
      else some s
    else some s

/-- What is on the socket is the part of the response counted as sent. -/
structure Faithful (response : Bytes) (s : Sending) : Prop where
  bounded : s.sent ≤ response.length
  socket : s.socket = response.take s.sent

theorem faithful_start (response : Bytes) : Faithful response {} := ⟨Nat.zero_le _, rfl⟩

theorem faithful_step {response : Bytes} {s : Sending} (h : Faithful response s) {n : ℕ}
    (hn : n ≤ response.length - s.sent) :
    Faithful response ⟨s.sent + n, s.socket ++ (response.drop s.sent).take n⟩ := by
  have hbound := h.bounded
  refine ⟨by dsimp only; omega, ?_⟩
  rw [h.socket, ← List.take_add]

theorem Faithful.whole_iff {response : Bytes} {s : Sending} (h : Faithful response s) :
    s.socket = response ↔ response.length ≤ s.sent := by
  rw [h.socket, List.take_eq_self_iff]

/-- What is left of a number of bytes before each call of `write`. -/
def Writer.left (writer : Writer) (total : ℕ) : ℕ → ℕ
  | 0 => total
  | call + 1 =>
    writer.left total call - (writer.result call (writer.left total call)).toNat

theorem Writer.left_antitone (writer : Writer) (total : ℕ) : Antitone (writer.left total) :=
  antitone_nat_of_succ_le (fun _ => Nat.sub_le _ _)

/-- As long as something is left the server runs and the next write takes something. -/
def Undisturbed (writer : Writer) (running : ℕ → Bool) (total : ℕ) : Prop :=
  ∀ call, 0 < writer.left total call →
    running call = true ∧ 0 < writer.result call (writer.left total call)

/-- The loop before a call: what it still has to send is what is left, and nothing has
disturbed it. -/
structure Underway (writer : Writer) (running : ℕ → Bool) (response : Bytes) (call : ℕ)
    (s : Sending) : Prop where
  faithful : Faithful response s
  left : writer.left response.length call = response.length - s.sent
  past : ∀ earlier < call, running earlier = true ∧
    0 < writer.result earlier (writer.left response.length earlier)

/-- A call that finds the server running and takes something leaves the loop underway. -/
theorem underway_step {writer : Writer} {running : ℕ → Bool} {response : Bytes} {call : ℕ}
    {s : Sending} (h : Underway writer running response call s) (hrunning : running call = true)
    (hpos : 0 < writer.result call (response.length - s.sent)) :
    Underway writer running response (call + 1)
      ⟨s.sent + (writer.result call (response.length - s.sent)).toNat,
        s.socket ++ (response.drop s.sent).take
          (writer.result call (response.length - s.sent)).toNat⟩ := by
  have hbounded := writer.bounded call (response.length - s.sent)
  refine ⟨faithful_step h.faithful (by omega), ?_, ?_⟩
  · rw [Writer.left, h.left]
    dsimp only
    omega
  · intro earlier hearlier
    rcases Nat.lt_succ_iff_lt_or_eq.mp hearlier with hbefore | rfl
    · exact h.past earlier hbefore
    · rw [h.left]
      exact ⟨hrunning, hpos⟩

/-- Every write moves the loop on by a byte at least, and it ends with everything sent
exactly when nothing disturbs it. -/
theorem sendLoop_ends (writer : Writer) (running : ℕ → Bool) (response : Bytes) (fuel call : ℕ)
    (s : Sending) (hs : Underway writer running response call s)
    (hfuel : response.length - s.sent < fuel) :
    ∃ s', sendLoop writer running response fuel call s = some s' ∧ Faithful response s' ∧
      (response.length ≤ s'.sent ↔ Undisturbed writer running response.length) := by
  induction fuel generalizing call s with
  | zero => exact absurd hfuel (Nat.not_lt_zero _)
  | succ fuel ih =>
    rw [sendLoop]
    by_cases hmore : s.sent < response.length
    · rw [if_pos hmore]
      have hleft : 0 < writer.left response.length call := by
        rw [hs.left]
        omega
      by_cases hrunning : running call = true
      · rw [if_pos hrunning]
        dsimp only
        by_cases hfailed : writer.result call (response.length - s.sent) ≤ 0
        · rw [if_pos hfailed]
          refine ⟨s, rfl, hs.faithful, iff_of_false (Nat.not_le.mpr hmore) ?_⟩
          intro hundisturbed
          have hpos := (hundisturbed call hleft).2
          rw [hs.left] at hpos
          omega
        · rw [if_neg hfailed]
          have hpos := Int.not_le.mp hfailed
          apply ih (call + 1) _ (underway_step hs hrunning hpos)
          dsimp only
          omega
      · rw [if_neg hrunning]
        refine ⟨s, rfl, hs.faithful, iff_of_false (Nat.not_le.mpr hmore) ?_⟩
        intro hundisturbed
        exact hrunning (hundisturbed call hleft).1
    · rw [if_neg hmore]
      refine ⟨s, rfl, hs.faithful, iff_of_true (Nat.not_lt.mp hmore) ?_⟩
      intro other hother
      apply hs.past other
      -- from this call on nothing is left
      by_contra hlater
      have hless := writer.left_antitone response.length (Nat.not_lt.mp hlater)
      have hnone := hs.left
      omega

/-- A response splits at its first empty line into a well-formed header block and its body,
whose length the block announces. The send loop ends; the socket has got the beginning of
the response, and all of it exactly when every write takes something and the server runs as
long as something is left. -/
theorem response_delivered (body : Bytes) :
    (∃ statusLine headers,
        splitAtEmptyLine (buildResponse body) = some (headerText statusLine headers, body) ∧
        WellFormed statusLine headers ∧ Announces headers body.length) ∧
      ∀ (writer : Writer) (running : ℕ → Bool) (fuel : ℕ), (buildResponse body).length < fuel →
        ∃ s, sendLoop writer running (buildResponse body) fuel 0 {} = some s ∧
          s.socket = (buildResponse body).take s.sent ∧ s.socket <+: buildResponse body ∧
          (s.socket = buildResponse body ↔
            Undisturbed writer running (buildResponse body).length) := by
  constructor
  · refine ⟨utf8 "HTTP/1.1 200 OK", responseHeaders body.length, ?_,
      responseHeaders_wellFormed body.length, responseHeaders_announces body.length⟩
    rw [splitAtEmptyLine_buildResponse, headerBlock_eq]
  · intro writer running fuel hfuel
    have hstart : Underway writer running (buildResponse body) 0 {} :=
      ⟨faithful_start _, rfl, fun _ h => absurd h (Nat.not_lt_zero _)⟩
    obtain ⟨s, hloop, hfaithful, hwhole⟩ :=
      sendLoop_ends writer running (buildResponse body) fuel 0 {} hstart hfuel
    refine ⟨s, hloop, hfaithful.socket, ?_, hfaithful.whole_iff.trans hwhole⟩
    rw [hfaithful.socket]
    exact List.take_prefix _ _

def byteWriter : Writer where
  result := fun _ n => min n 1
  bounded := fun _ _ => min_le_left _ _

theorem byteWriter_undisturbed (total : ℕ) :
    Undisturbed byteWriter (fun _ => true) total := by
  intro call hleft
  refine ⟨rfl, ?_⟩
  change (0 : ℤ) < min (byteWriter.left total call : ℤ) 1
  omega

theorem response_delivered_bytewise :
    ∃ s, sendLoop byteWriter (fun _ => true) (buildResponse healthBody)
          ((buildResponse healthBody).length + 1) 0 {} = some s ∧
        s.socket = buildResponse healthBody := by
  obtain ⟨s, hloop, _, _, hwhole⟩ :=
    (response_delivered healthBody).2 byteWriter (fun _ => true) _ (Nat.lt_succ_self _)
  exact ⟨s, hloop, hwhole.mpr (byteWriter_undisturbed _)⟩

end SolakonMonitor.ResponseDelivery
