import SolakonMonitor.ModbusClient

/-!
One exchange with an arbitrary peer.
The peer's bytes arrive in segments; a recv takes from the first segment what it
has room for, and after the last one it reports why nothing more comes. The
client accepts a reply on its length and its function code alone, and its receive
buffer agrees with its copy loop up to 127 registers.
-/
namespace SolakonMonitor.ReplyFrames

open BigEndian ModbusClient

/-- What recv reports when no bytes are left to hand over. -/
inductive Ending where
  | closed
  | again
  | failed (errno : Int32)
  deriving DecidableEq, Repr

def Ending.recv {n : ℕ} : Ending → Recv n
  | .closed => .closed
  | .again => .again
  | .failed errno => .failed errno

def Ending.error : Ending → ErrorCode
  | .closed => .connectionReset
  | .again => .timedOut
  | .failed errno => .errno errno

abbrev Segment := { bytes : Bytes // bytes ≠ [] }

/-- The part of a segment that a recv of `n` bytes hands over. -/
def Segment.chunk {n : ℕ} (segment : Segment) (hn : 0 < n) : Chunk n where
  bytes := segment.val.take n
  nonempty := by
    have hpos := List.length_pos_iff.mpr segment.property
    exact List.ne_nil_of_length_pos (by rw [List.length_take]; omega)
  fits := List.length_take_le n segment.val

/-- What the network has for one exchange: the result of the send, and then the
segments that arrive. -/
structure Inbound where
  sent : Except Int32 ℕ
  segments : List Segment
  ending : Ending

/-- The bytes a recv left of a segment stay in front of the others. -/
def putBack (bytes : Bytes) (segments : List Segment) : List Segment :=
  if h : bytes ≠ [] then ⟨bytes, h⟩ :: segments else segments

namespace Inbound

def arrived (w : Inbound) : Bytes := w.segments.flatMap Subtype.val

def recv (n : ℕ) (w : Inbound) : Recv n × Inbound :=
  match w.segments with
  | [] => (w.ending.recv, w)
  | segment :: rest =>
    if hn : 0 < n then
      (.data (segment.chunk hn), { w with segments := putBack (segment.val.drop n) rest })
    else (.again, w)

def socket : Socket Inbound where
  send _ _ w := (w.sent, w)
  recv _ n w := w.recv n

theorem recv_cases {n : ℕ} (hn : 0 < n) (w : Inbound) :
    (w.arrived = [] ∧ w.recv n = (w.ending.recv, w)) ∨
      ∃ (chunk : Chunk n) (w' : Inbound), w.recv n = (.data chunk, w') ∧
        w'.ending = w.ending ∧ w.arrived = chunk.bytes ++ w'.arrived := by
  obtain ⟨sent, segments, ending⟩ := w
  cases segments with
  | nil => exact Or.inl ⟨rfl, rfl⟩
  | cons segment rest =>
    have hrest : (putBack (segment.val.drop n) rest).flatMap Subtype.val =
        segment.val.drop n ++ rest.flatMap Subtype.val := by
      unfold putBack
      split
      · rfl
      · rename_i hnil
        rw [not_not.mp hnil, List.nil_append]
    refine Or.inr ⟨segment.chunk hn, ⟨sent, putBack (segment.val.drop n) rest, ending⟩, ?_, rfl, ?_⟩
    · simp only [recv, hn, dite_true]
    · rw [arrived, arrived, hrest, ← List.append_assoc]
      exact congrArg (· ++ _) (List.take_append_drop n segment.val).symm

end Inbound

/-- However the bytes are cut into segments, the loop fills the buffer with the
first of them, or reports why they stop short; it leaves the rest unread. -/
theorem recvLoop_arrived (fd : Int32) (respLen : ℕ) (acc : Bytes) (w : Inbound)
    (hacc : acc.length ≤ respLen) :
    ∃ w', recvLoop Inbound.socket fd respLen acc w =
        (if respLen ≤ acc.length + w.arrived.length then
          .ok (acc ++ w.arrived.take (respLen - acc.length))
        else .error w.ending.error, w') ∧
      w'.arrived = w.arrived.drop (respLen - acc.length) := by
  induction hm : respLen - acc.length using Nat.strong_induction_on generalizing acc w with
  | h m ih =>
    subst hm
    by_cases hlt : acc.length < respLen
    · rcases w.recv_cases (Nat.sub_pos_of_lt hlt) with
        ⟨hnil, hrecv⟩ | ⟨chunk, w₁, hrecv, hend, hsplit⟩
      · refine ⟨w, ?_, by rw [hnil, List.drop_nil]⟩
        rw [recvLoop, if_pos hlt, hnil, List.length_nil, Nat.add_zero, if_neg (Nat.not_le.mpr hlt)]
        simp only [Inbound.socket, hrecv]
        cases w.ending <;> rfl
      · have hpos := chunk.length_pos
        have hfits := chunk.fits
        have hlength : (acc ++ chunk.bytes).length = acc.length + chunk.bytes.length :=
          List.length_append
        obtain ⟨w', hrun, hleft⟩ := ih (respLen - (acc ++ chunk.bytes).length) (by omega)
          (acc ++ chunk.bytes) w₁ (by omega) rfl
        have hrest : respLen - (acc ++ chunk.bytes).length =
            respLen - acc.length - chunk.bytes.length := by omega
        refine ⟨w', ?_, ?_⟩
        · rw [recvLoop, if_pos hlt]
          simp only [Inbound.socket, hrecv] at hrun ⊢
          rw [hrun, hend, hsplit, hrest, List.take_append, List.take_of_length_le hfits,
            List.append_assoc]
          simp only [List.length_append, Nat.add_assoc]
        · rw [hleft, hrest, hsplit, List.drop_append, List.drop_of_length_le hfits,
            List.nil_append]
    · refine ⟨w, ?_, by rw [Nat.sub_eq_zero_of_le (Nat.not_lt.mp hlt), List.drop_zero]⟩
      rw [recvLoop, if_neg hlt, if_pos (by omega), Nat.sub_eq_zero_of_le (Nat.not_lt.mp hlt),
        List.take_zero, List.append_nil]

theorem recvLoop_length {σ : Type} (sock : Socket σ) (fd : Int32) (respLen : ℕ) (acc : Bytes)
    (net : σ) (hacc : acc.length ≤ respLen) {resp : Bytes} {net' : σ}
    (hrun : recvLoop sock fd respLen acc net = (.ok resp, net')) : resp.length = respLen := by
  induction hm : respLen - acc.length using Nat.strong_induction_on generalizing acc net with
  | h m ih =>
    rw [recvLoop] at hrun
    split at hrun
    · split at hrun
      · cases hrun
      · cases hrun
      · cases hrun
      · rename_i chunk _ _
        have hpos := chunk.length_pos
        have hfits := chunk.fits
        have hlength : (acc ++ chunk.bytes).length = acc.length + chunk.bytes.length :=
          List.length_append
        exact ih (respLen - (acc ++ chunk.bytes).length) (by omega) (acc ++ chunk.bytes) _
          (by omega) hrun rfl
    · cases hrun
      omega

/-- The header fields of a reply that the client does not look at. -/
structure HeaderMatches (transactionId count : UInt16) (frame : Bytes) : Prop where
  transactionId : frame.take 2 = wordBytes transactionId
  protocolId : (frame.drop 2).take 2 = wordBytes 0
  length : (frame.drop 4).take 2 = wordBytes (UInt16.ofNat (3 + 2 * count.toNat))
  unitId : frame[6]? = some 1
  byteCount : frame[8]? = some (UInt8.ofNat (2 * count.toNat))

/-- The frame is the normal reply to a read of `count` registers. -/
structure ReplyTo (transactionId count : UInt16) (frame : Bytes) : Prop where
  size : frame.length = 9 + 2 * count.toNat
  header : HeaderMatches transactionId count frame
  function : frame[7]? = some 0x03

/-- The header lies in the first nine bytes. -/
theorem headerMatches_take_iff {transactionId count : UInt16} {frame : Bytes} (n : ℕ) :
    HeaderMatches transactionId count (frame.take (9 + n)) ↔
      HeaderMatches transactionId count frame := by
  have hword : ∀ k, k ≤ 7 → ((frame.take (9 + n)).drop k).take 2 = (frame.drop k).take 2 := by
    intro k hk
    rw [List.drop_take, List.take_take, Nat.min_eq_left (by omega)]
  have hbyte : ∀ k, k < 9 → (frame.take (9 + n))[k]? = frame[k]? := by
    intro k hk
    exact List.getElem?_take_of_lt (by omega)
  constructor
  · intro h
    have htxn := hword 0 (by omega)
    rw [List.drop_zero, List.drop_zero] at htxn
    exact ⟨htxn ▸ h.transactionId, hword 2 (by omega) ▸ h.protocolId, hword 4 (by omega) ▸ h.length,
      hbyte 6 (by omega) ▸ h.unitId, hbyte 8 (by omega) ▸ h.byteCount⟩
  · intro h
    have htxn := hword 0 (by omega)
    rw [List.drop_zero, List.drop_zero] at htxn
    exact ⟨htxn ▸ h.transactionId, hword 2 (by omega) ▸ h.protocolId, hword 4 (by omega) ▸ h.length,
      hbyte 6 (by omega) ▸ h.unitId, hbyte 8 (by omega) ▸ h.byteCount⟩

/-- Only the bytes of the copied registers matter. -/
theorem registers_take (data : Bytes) (count : ℕ) :
    registers (data.take (2 * count)) count = registers data count := by
  refine List.map_congr_left (fun i hi => ?_)
  have hlt := List.mem_range.mp hi
  simp only [List.getD_eq_getElem?_getD]
  rw [List.getElem?_take_of_lt (by omega), List.getElem?_take_of_lt (by omega)]

/-- The bytes that arrive are enough, and the function code is that of the request. -/
def Accepts (count : UInt16) (w : Inbound) : Prop :=
  (∃ n, w.sent = .ok n) ∧ 9 + 2 * count.toNat ≤ w.arrived.length ∧ w.arrived[7]? = some 0x03

theorem functionCode_take (resp : Bytes) {n : ℕ} (h : 9 + n ≤ resp.length) :
    functionCode (resp.take (9 + n)) = 0x03 ↔ resp[7]? = some 0x03 := by
  have hget : resp[7]? = some resp[7] := List.getElem?_eq_getElem (by omega)
  rw [functionCode, List.getD_eq_getElem?_getD, List.getElem?_take_of_lt (by omega), hget,
    Option.getD_some, Option.some.injEq]

/-- A call either takes a reply it accepts, and then returns its registers, or
reports -1 and leaves the output alone; it takes no more than a reply off the socket. -/
theorem readHoldingRegisters_run (addr count : UInt16) (output : List UInt16) (client : Client)
    (w : Inbound) (hcount : count ≠ 0) (hle : count.toNat ≤ 127)
    (hout : count.toNat ≤ output.length) :
    ∃ w' : Inbound, (∃ n, n ≤ 9 + 2 * count.toNat ∧ w'.arrived = w.arrived.drop n) ∧
      ((Accepts count w ∧
        readHoldingRegisters Inbound.socket addr count output ⟨client, w⟩ =
          some (((count.toNat : ℤ), registers (w.arrived.drop 9) count.toNat ++
            output.drop count.toNat), ⟨client.nextTransaction, w'⟩)) ∨
      (¬ Accepts count w ∧
        readHoldingRegisters Inbound.socket addr count output ⟨client, w⟩ =
          some ((-1, output), ⟨client.nextTransaction, w'⟩))) := by
  have hguard : ¬ (count = 0 ∨ output.length < count.toNat) := by
    intro h
    rcases h with h | h
    · exact hcount h
    · omega
  have hbuffer := (respLen_eq_iff count).mpr hle
  cases hsent : w.sent with
  | error errno =>
    refine ⟨w, ⟨0, Nat.zero_le _, rfl⟩, Or.inr ⟨?_, ?_⟩⟩
    · intro haccepts
      obtain ⟨n, hn⟩ := haccepts.1
      cases hsent.symm.trans hn
    · rw [readHoldingRegisters, if_neg hguard]
      simp only [sendReceive, Inbound.socket, hsent]
  | ok n =>
    obtain ⟨w', hloop, hleft⟩ := recvLoop_arrived client.nextTransaction.socketFd
      (respLen count) [] w (Nat.zero_le _)
    rw [List.length_nil, Nat.zero_add, Nat.sub_zero, List.nil_append] at hloop
    rw [List.length_nil, Nat.sub_zero, hbuffer] at hleft
    have hrun : sendReceive Inbound.socket client.nextTransaction.socketFd
        (request client.transactionId addr count).bytes (respLen count) w =
          recvLoop Inbound.socket client.nextTransaction.socketFd (respLen count) [] w := by
      simp only [sendReceive, Inbound.socket, hsent]
    refine ⟨w', ⟨_, Nat.le_refl _, hleft⟩, ?_⟩
    rw [readHoldingRegisters, if_neg hguard]
    simp only [hrun, hloop]
    by_cases hlen : respLen count ≤ w.arrived.length
    · have hfunction := functionCode_take w.arrived (hbuffer ▸ hlen)
      rw [← hbuffer] at hfunction
      simp only [if_pos hlen]
      by_cases hcode : w.arrived[7]? = some 0x03
      · refine Or.inl ⟨⟨⟨n, hsent⟩, hbuffer ▸ hlen, hcode⟩, ?_⟩
        have hdata : (w.arrived.take (respLen count)).drop 9 =
            (w.arrived.drop 9).take (2 * count.toNat) := by
          rw [hbuffer, List.drop_take, Nat.add_sub_cancel_left]
        have hroom : 2 * count.toNat ≤ ((w.arrived.drop 9).take (2 * count.toNat)).length := by
          rw [List.length_take, List.length_drop]
          omega
        rw [if_neg (not_not.mpr (hfunction.mpr hcode)), hdata,
          copyRegisters_eq _ _ _ hroom hout, registers_take]
        rfl
      · refine Or.inr ⟨fun h => hcode h.2.2, ?_⟩
        rw [if_pos (fun h => hcode (hfunction.mp h))]
    · refine Or.inr ⟨fun h => hlen (hbuffer ▸ h.2.1), ?_⟩
      simp only [if_neg hlen]

theorem readHoldingRegisters_arrived (addr count : UInt16) (output : List UInt16) (client : Client)
    (w : Inbound) (hcount : count ≠ 0) (hle : count.toNat ≤ 127)
    (hout : count.toNat ≤ output.length) :
    ∃ link', (Accepts count w ∧
        readHoldingRegisters Inbound.socket addr count output ⟨client, w⟩ =
          some (((count.toNat : ℤ), registers (w.arrived.drop 9) count.toNat ++
            output.drop count.toNat), link')) ∨
      (¬ Accepts count w ∧
        readHoldingRegisters Inbound.socket addr count output ⟨client, w⟩ =
          some ((-1, output), link')) := by
  obtain ⟨w', _, hcase⟩ := readHoldingRegisters_run addr count output client w hcount hle hout
  exact ⟨⟨client.nextTransaction, w'⟩, hcase⟩

/-- A call rejects what is not the reply to its own request exactly when the
function code or the length gives it away, or nothing else in the header is wrong. -/
theorem rejects_or_replyTo_iff (client : Client) (addr count : UInt16) (output : List UInt16)
    (w : Inbound) (hcount : 2 * count.toNat ≤ 250) :
    ∃ result link', readHoldingRegisters Inbound.socket addr count output ⟨client, w⟩ =
        some (result, link') ∧
      ((result.1 = -1 ∨ ReplyTo client.transactionId count (w.arrived.take (9 + 2 * count.toNat))) ↔
        (count = 0 ∨ output.length < count.toNat) ∨ ¬ Accepts count w ∨
          HeaderMatches client.transactionId count w.arrived) := by
  by_cases hguard : count = 0 ∨ output.length < count.toNat
  · refine ⟨(-1, output), ⟨client, w⟩, ?_, iff_of_true (Or.inl rfl) (Or.inl hguard)⟩
    rw [readHoldingRegisters, if_pos hguard]
  · obtain ⟨hne, hout⟩ := not_or.mp hguard
    obtain ⟨link', hcase⟩ := readHoldingRegisters_arrived addr count output client w hne (by omega)
      (Nat.not_lt.mp hout)
    rcases hcase with ⟨haccepts, hrun⟩ | ⟨hrejects, hrun⟩
    · refine ⟨_, link', hrun, ?_⟩
      have hsuccess : ((count.toNat : ℤ) = -1) → False := by omega
      have hframe : ReplyTo client.transactionId count (w.arrived.take (9 + 2 * count.toNat)) ↔
          HeaderMatches client.transactionId count w.arrived := by
        constructor
        · intro hreply
          exact (headerMatches_take_iff _).mp hreply.header
        · intro hheader
          refine ⟨?_, (headerMatches_take_iff _).mpr hheader, ?_⟩
          · rw [List.length_take]
            exact Nat.min_eq_left haccepts.2.1
          · rw [List.getElem?_take_of_lt (by omega)]
            exact haccepts.2.2
      rw [hframe]
      tauto
    · exact ⟨_, link', hrun, iff_of_true (Or.inl rfl) (Or.inr (Or.inl hrejects))⟩

/-- A peer that sends these bytes in one segment and then nothing. -/
def replying (bytes : Bytes) : Inbound where
  sent := .ok 12
  segments := if h : bytes ≠ [] then [⟨bytes, h⟩] else []
  ending := .again

/-- The reply to another request, from another unit, about another protocol. -/
def strayFrame : Bytes := [0, 9, 7, 7, 0, 99, 5, 3, 4, 0, 42]

theorem rejects_or_replyTo_iff_stray :
    ∃ result link', readHoldingRegisters Inbound.socket 100 1 [0] ⟨⟨3, 1⟩, replying strayFrame⟩ =
        some (result, link') ∧
      ((result.1 = -1 ∨ ReplyTo 1 1 ((replying strayFrame).arrived.take (9 + 2 * UInt16.toNat 1))) ↔
        ((1 : UInt16) = 0 ∨ [(0 : UInt16)].length < UInt16.toNat 1) ∨
          ¬ Accepts 1 (replying strayFrame) ∨ HeaderMatches 1 1 (replying strayFrame).arrived) :=
  rejects_or_replyTo_iff ⟨3, 1⟩ 100 1 [0] (replying strayFrame) (by decide)

/-- A stray frame is decoded into a register. -/
theorem strayFrame_accepted :
    ∃ result link', readHoldingRegisters Inbound.socket 100 1 [0] ⟨⟨3, 1⟩, replying strayFrame⟩ =
        some (result, link') ∧
      ¬ (result.1 = -1 ∨
        ReplyTo 1 1 ((replying strayFrame).arrived.take (9 + 2 * UInt16.toNat 1))) := by
  obtain ⟨link', hcase⟩ := readHoldingRegisters_arrived 100 1 [0] ⟨3, 1⟩ (replying strayFrame)
    (by decide) (by decide) (by decide)
  rcases hcase with ⟨_, hrun⟩ | ⟨hrejects, _⟩
  · refine ⟨_, link', hrun, ?_⟩
    intro h
    rcases h with hcode | hreply
    · cases hcode
    · have htxn := hreply.header.transactionId
      revert htxn
      decide
  · exact absurd ⟨⟨12, rfl⟩, by decide, by decide⟩ hrejects

/-- The buffer has the size of the reply, and every index of the copy loop lies
inside it. -/
structure InBounds (count : UInt16) : Prop where
  size : respLen count = 9 + 2 * count.toNat
  indices : ∀ i, i < count.toNat → 9 + (2 * i + 1) < respLen count

/-- With too few bytes the copy loop leaves the buffer. -/
theorem copyRegisters_outside (data : Bytes) (count : ℕ) (output : List UInt16)
    (hdata : data.length < 2 * count) : copyRegisters data count output = none := by
  induction count with
  | zero => omega
  | succ n ih =>
    have hstep : copyRegisters data (n + 1) output = (copyRegisters data n output).bind
        (fun out => data[2 * n]?.bind (fun hi => data[2 * n + 1]?.bind
          (fun lo => some (out.set n (word hi lo))))) := by
      unfold copyRegisters
      rw [List.range_succ, List.foldlM_append]
      simp only [List.foldlM_cons, List.foldlM_nil, Option.bind_eq_bind, Option.pure_def,
        Option.bind_fun_some]
    have hlast : data[2 * n + 1]? = none := List.getElem?_eq_none (by omega)
    rw [hstep, hlast]
    cases copyRegisters data n output with
    | none => rfl
    | some out => cases data[2 * n]? <;> rfl

/-- Up to 127 registers no exchange, over any socket, leaves the buffer. -/
theorem readHoldingRegisters_defined {σ : Type} (sock : Socket σ) (addr count : UInt16)
    (output : List UInt16) (link : Link σ) (hle : count.toNat ≤ 127) :
    readHoldingRegisters sock addr count output link ≠ none := by
  rw [readHoldingRegisters]
  split
  · exact Option.some_ne_none _
  · rename_i hguard
    dsimp only
    split
    · exact Option.some_ne_none _
    · rename_i resp net hrun
      split
      · exact Option.some_ne_none _
      · have hlength : resp.length = respLen count := by
          unfold sendReceive at hrun
          split at hrun
          · cases hrun
          · exact recvLoop_length sock _ _ [] _ (Nat.zero_le _) hrun
        rw [(respLen_eq_iff count).mpr hle] at hlength
        have hout : count.toNat ≤ output.length := by
          have := not_or.mp hguard
          omega
        rw [copyRegisters_eq _ _ _ (by rw [List.length_drop]; omega) hout]
        exact Option.some_ne_none _

/-- A reply header with the right function code and the rest of the buffer zero. -/
def bareReply (count : UInt16) : Bytes :=
  [0, 0, 0, 0, 0, 0, 0, 3] ++ List.replicate (respLen count - 8) 0

/-- From 128 registers on, a reply that fills the buffer makes the copy loop leave it. -/
theorem readHoldingRegisters_undefined (client : Client) (addr count : UInt16)
    (output : List UInt16) (hgt : 127 < count.toNat) (hout : count.toNat ≤ output.length) :
    readHoldingRegisters Inbound.socket addr count output ⟨client, replying (bareReply count)⟩ =
      none := by
  have hguard : ¬ (count = 0 ∨ output.length < count.toNat) := by
    intro h
    rcases h with h | h
    · rw [h] at hgt
      cases hgt
    · omega
  have hmin : 9 ≤ respLen count := Nat.le_add_right _ _
  have harrived : (replying (bareReply count)).arrived = bareReply count := by
    simp [replying, bareReply, Inbound.arrived]
  have hlength : (bareReply count).length = respLen count := by
    simp only [bareReply, List.length_append, List.length_cons, List.length_nil,
      List.length_replicate]
    omega
  obtain ⟨w', hloop, _⟩ := recvLoop_arrived client.nextTransaction.socketFd (respLen count) []
    (replying (bareReply count)) (Nat.zero_le _)
  rw [List.length_nil, Nat.zero_add, Nat.sub_zero, List.nil_append, harrived, hlength,
    if_pos (Nat.le_refl _), List.take_of_length_le (Nat.le_of_eq hlength)] at hloop
  have hrun : sendReceive Inbound.socket client.nextTransaction.socketFd
      (request client.transactionId addr count).bytes (respLen count) (replying (bareReply count)) =
        (.ok (bareReply count), w') := hloop
  have hshort : respLen count - 9 < 2 * count.toNat := by
    have hbyte := (byteCount count).toNat_lt
    simp only [respLen]
    omega
  rw [readHoldingRegisters, if_neg hguard]
  simp only [hrun]
  have hcode : functionCode (bareReply count) = 0x03 := rfl
  rw [if_neg (not_not.mpr hcode), copyRegisters_outside _ _ _ (by rw [List.length_drop]; omega)]
  rfl

/-- The buffer agrees with the copy loop exactly up to 127 registers, and exactly then
no exchange over any socket leaves the buffer. -/
theorem inBounds_iff (addr count : UInt16) (output : List UInt16)
    (hout : count.toNat ≤ output.length) :
    (InBounds count ↔ count.toNat ≤ 127) ∧
      ((∀ (σ : Type) (sock : Socket σ) (link : Link σ),
        readHoldingRegisters sock addr count output link ≠ none) ↔ count.toNat ≤ 127) := by
  constructor
  · constructor
    · intro h
      exact (respLen_eq_iff count).mp h.size
    · intro hle
      have hsize := (respLen_eq_iff count).mpr hle
      exact ⟨hsize, fun i hi => by omega⟩
  · constructor
    · intro hdefined
      by_contra hgt
      exact hdefined Inbound Inbound.socket ⟨{}, replying (bareReply count)⟩
        (readHoldingRegisters_undefined {} addr count output (Nat.not_le.mp hgt) hout)
    · intro hle σ sock link
      exact readHoldingRegisters_defined sock addr count output link hle

theorem inBounds_iff_string :
    (InBounds 16 ↔ UInt16.toNat 16 ≤ 127) ∧
      ((∀ (σ : Type) (sock : Socket σ) (link : Link σ),
        readHoldingRegisters sock 39002 16 (List.replicate 16 0) link ≠ none) ↔
          UInt16.toNat 16 ≤ 127) :=
  inBounds_iff 39002 16 (List.replicate 16 0) (by decide)

/-- For 128 registers the buffer holds the header only, and a reply that ends there
is copied from beyond it. -/
theorem not_inBounds_128 :
    ¬ InBounds 128 ∧ readHoldingRegisters Inbound.socket 0 128 (List.replicate 128 0)
      ⟨{}, replying (bareReply 128)⟩ = none := by
  refine ⟨?_, ?_⟩
  · intro h
    have hle := (respLen_eq_iff 128).mp h.size
    revert hle
    decide
  · exact readHoldingRegisters_undefined {} 0 128 (List.replicate 128 0) (by decide)
      (by rw [List.length_replicate]; decide)

end SolakonMonitor.ReplyFrames
