import SolakonMonitor.ModbusClient
import Mathlib.Data.List.Induction

/-!
A client and a conforming Modbus TCP server on one connection.
The server answers each request, in order, from the register bank it holds at
that moment or with an exception frame. Reply bytes wait on the wire, each
marked with the request it answers, until a recv hands some of them over; the
schedule decides how many, or lets the recv time out with bytes outstanding.
The markers and the log of those handed over are no part of the client's state.
-/
namespace SolakonMonitor.ModbusSession

open BigEndian ModbusClient

abbrev Bank := ℕ → UInt16

def window (bank : Bank) (addr count : ℕ) : List UInt16 :=
  (List.range count).map (fun i => bank (addr + i))

def doubleWord (bank : Bank) (addr : ℕ) : ℕ :=
  65536 * (bank addr).toNat + (bank (addr + 1)).toNat

/-- Text held two characters to a register, without the padding at its end. -/
def text (bank : Bank) (addr count : ℕ) : Bytes :=
  ((window bank addr count).flatMap (fun w =>
    [UInt8.ofNat (w.toNat / 256), UInt8.ofNat (w.toNat % 256)])).rdropWhile
      (fun b => b = 0 || b = 32)

/-- What a typed read of the bank means, at one instant. -/
def meaning (bank : Bank) : (r : RegRead) → r.Value
  | .u16 a => bank a.toNat
  | .i16 a => Int16.ofInt (twosComplement 16 (bank a.toNat).toNat)
  | .u32 a => UInt32.ofNat (doubleWord bank a.toNat)
  | .i32 a => Int32.ofInt (twosComplement 32 (doubleWord bank a.toNat))
  | .string a n => text bank a.toNat n.toNat

structure Peer where
  bank : ℕ → Bank
  refuses : ℕ → Option UInt8
  schedule : ℕ → Option ℕ

/-- Whether request `k`, for this many registers, gets the normal reply. -/
def Peer.Grants (p : Peer) (k : ℕ) (quantity : UInt16) : Prop :=
  p.refuses k = none ∧ 1 ≤ quantity.toNat ∧ quantity.toNat ≤ 125

instance (p : Peer) (k : ℕ) (quantity : UInt16) : Decidable (p.Grants k quantity) := by
  unfold Peer.Grants
  infer_instance

/-- The abstract read: refused, or the meaning of the bank when request `k` is served. -/
def Peer.atomicRead (p : Peer) (k : ℕ) (r : RegRead) : Option r.Value :=
  if p.Grants k r.quantity then some (meaning (p.bank k) r) else none

def normalFrame (transactionId : Bytes) (unit : UInt8) (ws : List UInt16) : Bytes :=
  transactionId ++ [0, 0] ++ wordBytes (UInt16.ofNat (3 + 2 * ws.length)) ++
    [unit, 0x03, UInt8.ofNat (2 * ws.length)] ++ wordsBytes ws

def exceptionFrame (transactionId : Bytes) (unit function code : UInt8) : Bytes :=
  transactionId ++ [0, 0, 0, 3] ++ [unit, function ||| 0x80, code]

/-- The server's reply to one request as it came over the wire. -/
def Peer.serve (p : Peer) (k : ℕ) : Bytes → Bytes
  | [t1, t0, _, _, _, _, unit, function, a1, a0, q1, q0] =>
      if function = 0x03 ∧ p.Grants k (word q1 q0) then
        normalFrame [t1, t0] unit (window (p.bank k) (word a1 a0).toNat (word q1 q0).toNat)
      else exceptionFrame [t1, t0] unit function ((p.refuses k).getD 3)
  | _ => []

/-- `ticks` counts the recvs that found bytes outstanding; `received` lists the
requests answered by the bytes handed over since the last send. -/
structure Wire where
  requests : ℕ := 0
  outstanding : List (ℕ × UInt8) := []
  ticks : ℕ := 0
  received : List ℕ := []
  deriving DecidableEq, Repr

def Peer.wireSend (p : Peer) (bytes : Bytes) (w : Wire) : Wire where
  requests := w.requests + 1
  outstanding := w.outstanding ++ (p.serve w.requests bytes).map (w.requests, ·)
  ticks := w.ticks
  received := []

/-- Hand over the first `k` outstanding bytes. -/
def Wire.deliver (w : Wire) (k : ℕ) : Wire where
  requests := w.requests
  outstanding := w.outstanding.drop k
  ticks := w.ticks + 1
  received := w.received ++ (w.outstanding.take k).map Prod.fst

/-- The length of the chunk when the schedule allows up to `k + 1` bytes. -/
def Wire.chunkLength (w : Wire) (k n : ℕ) : ℕ := min (min (k + 1) n) w.outstanding.length

theorem Wire.chunk_ne_nil (w : Wire) {n : ℕ} (h : 0 < n ∧ w.outstanding ≠ []) (k : ℕ) :
    (w.outstanding.take (w.chunkLength k n)).map Prod.snd ≠ [] := by
  have hpos := List.length_pos_iff.mpr h.2
  intro hnil
  have hlen := congrArg List.length hnil
  simp only [Wire.chunkLength, List.length_map, List.length_take, List.length_nil] at hlen
  omega

theorem Wire.chunk_length_le (w : Wire) (k n : ℕ) :
    ((w.outstanding.take (w.chunkLength k n)).map Prod.snd).length ≤ n := by
  simp only [Wire.chunkLength, List.length_map, List.length_take]
  omega

def Peer.wireRecv (p : Peer) (n : ℕ) (w : Wire) : Recv n × Wire :=
  if h : 0 < n ∧ w.outstanding ≠ [] then
    match p.schedule w.ticks with
    | none => (.again, { w with ticks := w.ticks + 1 })
    | some k =>
      (.data {
          bytes := (w.outstanding.take (w.chunkLength k n)).map Prod.snd
          nonempty := w.chunk_ne_nil h k
          fits := w.chunk_length_le k n },
        w.deliver (w.chunkLength k n))
  else (.again, w)

def Peer.socket (p : Peer) : Socket Wire where
  send _ bytes w := (.ok bytes.length, p.wireSend bytes w)
  recv _ n w := p.wireRecv n w

/-- A recv between these two points timed out with reply bytes outstanding. -/
def Peer.LateIn (p : Peer) (before after : ℕ) : Prop :=
  ∃ j, before ≤ j ∧ j < after ∧ p.schedule j = none

/-- From `w` to `w'` exactly the first `k` outstanding bytes were handed over. -/
structure Drained (w w' : Wire) (k : ℕ) : Prop where
  bound : k ≤ w.outstanding.length
  requests_eq : w'.requests = w.requests
  outstanding_eq : w'.outstanding = w.outstanding.drop k
  received_eq : w'.received = w.received ++ (w.outstanding.take k).map Prod.fst
  ticks_le : w.ticks ≤ w'.ticks

theorem Drained.refl (w : Wire) : Drained w w 0 where
  bound := Nat.zero_le _
  requests_eq := rfl
  outstanding_eq := rfl
  received_eq := by simp
  ticks_le := Nat.le_refl _

theorem Drained.tick (w : Wire) : Drained w { w with ticks := w.ticks + 1 } 0 where
  bound := Nat.zero_le _
  requests_eq := rfl
  outstanding_eq := rfl
  received_eq := by simp
  ticks_le := Nat.le_succ _

theorem Drained.deliver (w : Wire) (k : ℕ) (hk : k ≤ w.outstanding.length) :
    Drained w (w.deliver k) k where
  bound := hk
  requests_eq := rfl
  outstanding_eq := rfl
  received_eq := rfl
  ticks_le := Nat.le_succ _

theorem Drained.trans {w w₁ w₂ : Wire} {k l : ℕ} (h : Drained w w₁ k) (h' : Drained w₁ w₂ l) :
    Drained w w₂ (k + l) where
  bound := by
    have hl := h'.bound
    rw [h.outstanding_eq, List.length_drop] at hl
    have hk := h.bound
    omega
  requests_eq := h'.requests_eq.trans h.requests_eq
  outstanding_eq := by rw [h'.outstanding_eq, h.outstanding_eq, List.drop_drop]
  received_eq := by
    rw [h'.received_eq, h.received_eq, h.outstanding_eq, List.append_assoc, ← List.map_append,
      ← List.take_add]
  ticks_le := Nat.le_trans h.ticks_le h'.ticks_le

/-- The loop either fills the buffer or stops on a timeout with the buffer
unfilled; then nothing is outstanding any more, or what is comes late. -/
theorem recvLoop_wire (p : Peer) (fd : Int32) (respLen : ℕ) (acc : Bytes) (w : Wire)
    (hacc : acc.length ≤ respLen) :
    ∃ result k w', recvLoop p.socket fd respLen acc w = (result, w') ∧ Drained w w' k ∧
      ((result = .ok (acc ++ (w.outstanding.take k).map Prod.snd) ∧
          acc.length + k = respLen) ∨
        (result = .error .timedOut ∧ acc.length + k < respLen ∧
          (w'.outstanding = [] ∨ p.LateIn w.ticks w'.ticks))) := by
  induction hm : respLen - acc.length using Nat.strong_induction_on generalizing acc w with
  | h m ih =>
    by_cases hlt : acc.length < respLen
    · by_cases hout : w.outstanding = []
      · refine ⟨.error .timedOut, 0, w, ?_, Drained.refl w, Or.inr ⟨rfl, hlt, Or.inl hout⟩⟩
        rw [recvLoop]
        simp [hlt, Peer.socket, Peer.wireRecv, hout]
      · have hn : 0 < respLen - acc.length ∧ w.outstanding ≠ [] := ⟨by omega, hout⟩
        cases hs : p.schedule w.ticks with
        | none =>
          refine ⟨.error .timedOut, 0, { w with ticks := w.ticks + 1 }, ?_, Drained.tick w,
            Or.inr ⟨rfl, hlt, Or.inr ⟨w.ticks, Nat.le_refl _, Nat.lt_succ_self _, hs⟩⟩⟩
          rw [recvLoop]
          simp [hlt, Peer.socket, Peer.wireRecv, hn, hs]
        | some c =>
          have hle : w.chunkLength c (respLen - acc.length) ≤ w.outstanding.length :=
            Nat.min_le_right _ _
          have hfit : w.chunkLength c (respLen - acc.length) ≤ respLen - acc.length :=
            (Nat.min_le_left _ _).trans (Nat.min_le_right _ _)
          have hpos : 0 < w.chunkLength c (respLen - acc.length) := by
            have hlen := List.length_pos_iff.mpr hout
            unfold Wire.chunkLength
            omega
          generalize hk : w.chunkLength c (respLen - acc.length) = k at hle hfit hpos
          have hunfold : recvLoop p.socket fd respLen acc w =
              recvLoop p.socket fd respLen (acc ++ (w.outstanding.take k).map Prod.snd)
                (w.deliver k) := by
            rw [recvLoop]
            simp [hlt, Peer.socket, Peer.wireRecv, hn, hs, hk]
          have hlength : (acc ++ (w.outstanding.take k).map Prod.snd).length = acc.length + k := by
            simp only [List.length_append, List.length_map, List.length_take]
            omega
          obtain ⟨result, l, w', hrun, hdrained, hresult⟩ :=
            ih (respLen - (acc.length + k)) (by omega)
              (acc ++ (w.outstanding.take k).map Prod.snd) (w.deliver k)
              (by omega) (by rw [hlength])
          have hstep := Drained.deliver w k hle
          refine ⟨result, k + l, w', hunfold.trans hrun, hstep.trans hdrained, ?_⟩
          rcases hresult with ⟨hok, hfull⟩ | ⟨herr, hshort, hend⟩
          · refine Or.inl ⟨?_, by omega⟩
            rw [hok, List.take_add, List.map_append, List.append_assoc]
            rfl
          · refine Or.inr ⟨herr, by omega, ?_⟩
            rcases hend with hnil | ⟨j, hj, hj', hnone⟩
            · exact Or.inl hnil
            · exact Or.inr ⟨j, hstep.ticks_le.trans hj, hj', hnone⟩
    · refine ⟨.ok acc, 0, w, ?_, Drained.refl w, Or.inl ⟨by simp, by omega⟩⟩
      rw [recvLoop, if_neg hlt]

theorem window_length (bank : Bank) (addr count : ℕ) : (window bank addr count).length = count := by
  simp [window]

theorem serve_request (p : Peer) (k : ℕ) (txn addr count : UInt16) :
    p.serve k (request txn addr count).bytes =
      if p.Grants k count then
        normalFrame (wordBytes txn) 1 (window (p.bank k) addr.toNat count.toNat)
      else exceptionFrame (wordBytes txn) 1 0x03 ((p.refuses k).getD 3) := by
  simp only [MBPRequest.bytes, request, wordBytes, List.cons_append, List.nil_append, Peer.serve,
    word_hiByte_loByte, true_and]

theorem normalFrame_length (txn : UInt16) (unit : UInt8) (ws : List UInt16) :
    (normalFrame (wordBytes txn) unit ws).length = 9 + 2 * ws.length := by
  simp only [normalFrame, List.length_append, wordsBytes_length, wordBytes, List.length_cons,
    List.length_nil]

theorem normalFrame_functionCode (txn : UInt16) (unit : UInt8) (ws : List UInt16) :
    functionCode (normalFrame (wordBytes txn) unit ws) = 0x03 := rfl

theorem normalFrame_data (txn : UInt16) (unit : UInt8) (ws : List UInt16) :
    (normalFrame (wordBytes txn) unit ws).drop 9 = wordsBytes ws := rfl

theorem exceptionFrame_length (txn : UInt16) (unit function code : UInt8) :
    (exceptionFrame (wordBytes txn) unit function code).length = 9 := rfl

theorem exceptionFrame_functionCode (txn : UInt16) (unit code : UInt8) :
    functionCode (exceptionFrame (wordBytes txn) unit 0x03 code) = 0x83 := rfl

/-- An exchange on a drained wire returns the whole reply when that fills the
buffer, and drains the wire again unless the reply is late. -/
theorem sendReceive_drained (p : Peer) (fd : Int32) (req : Bytes) (respLen : ℕ) (w : Wire)
    (hclean : w.outstanding = []) (hlen : (p.serve w.requests req).length ≤ respLen) :
    ∃ result w', sendReceive p.socket fd req respLen w = (result, w') ∧
      w'.requests = w.requests + 1 ∧ w.ticks ≤ w'.ticks ∧
      (∀ i ∈ w'.received, i = w.requests) ∧
      ((result = .ok (p.serve w.requests req) ∧ (p.serve w.requests req).length = respLen ∧
          w'.outstanding = []) ∨
        (result = .error .timedOut ∧ (p.serve w.requests req).length < respLen ∧
          w'.outstanding = []) ∨
        (result = .error .timedOut ∧ p.LateIn w.ticks w'.ticks)) := by
  obtain ⟨result, k, w', hrun, hdrained, hresult⟩ :=
    recvLoop_wire p fd respLen [] (p.wireSend req w) (Nat.zero_le _)
  have hsent : (p.wireSend req w).outstanding =
      (p.serve w.requests req).map (w.requests, ·) := by
    simp [Peer.wireSend, hclean]
  generalize hreply : p.serve w.requests req = reply at hlen hsent
  have hk : k ≤ reply.length := by
    have h := hdrained.bound
    rwa [hsent, List.length_map] at h
  have hbytes : ((p.wireSend req w).outstanding.take k).map Prod.snd = reply.take k := by
    rw [hsent, ← List.map_take, List.map_map]
    exact List.map_id _
  have hleft : w'.outstanding.length = reply.length - k := by
    rw [hdrained.outstanding_eq, hsent, List.length_drop, List.length_map]
  refine ⟨result, w', hrun, hdrained.requests_eq, hdrained.ticks_le, ?_, ?_⟩
  · intro i hi
    rw [hdrained.received_eq, hsent, ← List.map_take, List.map_map] at hi
    simp only [Peer.wireSend, List.nil_append, List.mem_map, Function.comp_apply] at hi
    obtain ⟨b, _, hb⟩ := hi
    exact hb.symm
  · simp only [List.length_nil, Nat.zero_add, List.nil_append, hbytes] at hresult
    rcases hresult with ⟨hok, hfull⟩ | ⟨herr, hshort, hend⟩
    · have hall : reply.take k = reply := List.take_of_length_le (by omega)
      exact Or.inl ⟨hall ▸ hok, by omega, List.length_eq_zero_iff.mp (by omega)⟩
    · rcases hend with hnil | hlate
      · have hzero := List.length_eq_zero_iff.mpr hnil
        exact Or.inr (Or.inl ⟨herr, by omega, hnil⟩)
      · exact Or.inr (Or.inr ⟨herr, hlate⟩)

/-- Where a call on a drained wire stands afterwards: it has the abstract read's
outcome and the wire is drained again, or its own reply is late and it failed. -/
theorem readHoldingRegisters_drained (p : Peer) (addr count : UInt16) (output : List UInt16)
    (link : Link Wire) (hclean : link.net.outstanding = []) (hcount : count ≠ 0)
    (hout : count.toNat ≤ output.length) :
    ∃ result w', readHoldingRegisters p.socket addr count output link =
        some (result, ⟨link.client.nextTransaction, w'⟩) ∧
      w'.requests = link.net.requests + 1 ∧ link.net.ticks ≤ w'.ticks ∧
      (∀ i ∈ w'.received, i = link.net.requests) ∧
      ((p.Grants link.net.requests count ∧ w'.outstanding = [] ∧
          result = ((count.toNat : ℤ),
            window (p.bank link.net.requests) addr.toNat count.toNat ++ output.drop count.toNat)) ∨
        (¬ p.Grants link.net.requests count ∧ w'.outstanding = [] ∧ result = (-1, output)) ∨
        (p.LateIn link.net.ticks w'.ticks ∧ result = (-1, output))) := by
  have hguard : ¬ (count = 0 ∨ output.length < count.toNat) := by
    rintro (h | h)
    · exact hcount h
    · omega
  have hserve := serve_request p link.net.requests link.client.transactionId addr count
  by_cases hgrant : p.Grants link.net.requests count
  · rw [if_pos hgrant] at hserve
    have hlen : (p.serve link.net.requests
        (request link.client.transactionId addr count).bytes).length = respLen count := by
      rw [hserve, normalFrame_length, window_length,
        (respLen_eq_iff count).mpr (by have := hgrant.2.2; omega)]
    obtain ⟨result, w', hrun, hreq, hticks, htags, hresult⟩ := sendReceive_drained p
      link.client.socketFd _ (respLen count) link.net hclean hlen.le
    rcases hresult with ⟨hok, -, hdrain⟩ | ⟨-, hshort, -⟩ | ⟨herr, hlate⟩
    · refine ⟨_, w', ?_, hreq, hticks, htags, Or.inl ⟨hgrant, hdrain, rfl⟩⟩
      have hcopy := copyRegisters_eq
        (wordsBytes (window (p.bank link.net.requests) addr.toNat count.toNat)) count.toNat output
        (by rw [wordsBytes_length, window_length]) hout
      have hregs := registers_wordsBytes
        (window (p.bank link.net.requests) addr.toNat count.toNat) []
      rw [window_length, List.append_nil] at hregs
      rw [readHoldingRegisters, if_neg hguard]
      simp only [Client.nextTransaction, hrun, hok, hserve, normalFrame_functionCode,
        normalFrame_data, hcopy, hregs, ne_eq, not_true_eq_false, if_false, Option.map_some]
    · omega
    · refine ⟨_, w', ?_, hreq, hticks, htags, Or.inr (Or.inr ⟨hlate, rfl⟩)⟩
      rw [readHoldingRegisters, if_neg hguard]
      simp only [Client.nextTransaction, hrun, herr]
  · rw [if_neg hgrant] at hserve
    have hlen : (p.serve link.net.requests
        (request link.client.transactionId addr count).bytes).length = 9 := by
      rw [hserve, exceptionFrame_length]
    obtain ⟨result, w', hrun, hreq, hticks, htags, hresult⟩ := sendReceive_drained p
      link.client.socketFd (request link.client.transactionId addr count).bytes (respLen count)
      link.net hclean (by rw [hlen]; exact Nat.le_add_right _ _)
    rcases hresult with ⟨hok, -, hdrain⟩ | ⟨herr, -, hdrain⟩ | ⟨herr, hlate⟩
    · refine ⟨_, w', ?_, hreq, hticks, htags, Or.inr (Or.inl ⟨hgrant, hdrain, rfl⟩)⟩
      rw [readHoldingRegisters, if_neg hguard]
      simp only [Client.nextTransaction, hrun, hok, hserve, exceptionFrame_functionCode]
      rfl
    · refine ⟨_, w', ?_, hreq, hticks, htags, Or.inr (Or.inl ⟨hgrant, hdrain, rfl⟩)⟩
      rw [readHoldingRegisters, if_neg hguard]
      simp only [Client.nextTransaction, hrun, herr]
    · refine ⟨_, w', ?_, hreq, hticks, htags, Or.inr (Or.inr ⟨hlate, rfl⟩)⟩
      rw [readHoldingRegisters, if_neg hguard]
      simp only [Client.nextTransaction, hrun, herr]

private theorem wordBytes_eq (w : UInt16) :
    wordBytes w = [UInt8.ofNat (w.toNat / 256), UInt8.ofNat (w.toNat % 256)] := by
  rw [wordBytes, ← hiByte_toNat, ← loByte_toNat, UInt8.ofNat_toNat, UInt8.ofNat_toNat]

theorem decode_window (bank : Bank) (r : RegRead) :
    r.decode (window bank r.addr.toNat r.quantity.toNat) = meaning bank r := by
  have hdword : ∀ a : ℕ, dword (bank a) (bank (a + 1)) = UInt32.ofNat (doubleWord bank a) := by
    intro a
    rw [doubleWord, ← dword_toNat, UInt32.ofNat_toNat]
  cases r with
  | u16 a => rfl
  | i16 a =>
    change (bank a.toNat).toInt16 = _
    rw [meaning, ← toInt16_toInt, Int16.ofInt_toInt]
  | u32 a =>
    change dword (bank a.toNat) (bank (a.toNat + 1)) = _
    rw [meaning, hdword]
  | i32 a =>
    have hlt : doubleWord bank a.toNat < 2 ^ 32 := by
      rw [doubleWord, ← dword_toNat]
      exact UInt32.toNat_lt _
    change (dword (bank a.toNat) (bank (a.toNat + 1))).toInt32 = _
    rw [meaning, hdword, ← Int32.ofInt_toInt (UInt32.toInt32 _), toInt32_toInt,
      UInt32.toNat_ofNat_of_lt' hlt]
  | string a n =>
    have hflat : ∀ ws : List UInt16, wordsBytes ws = ws.flatMap (fun w =>
        [UInt8.ofNat (w.toNat / 256), UInt8.ofNat (w.toNat % 256)]) := by
      intro ws
      rw [wordsBytes, funext wordBytes_eq]
    change registerText (window bank a.toNat n.toNat) = _
    rw [registerText, meaning, text, hflat]

/-- The link a typed read leaves behind, and what became of the read. -/
structure Settled (p : Peer) (r : RegRead) (link : Link Wire) (outcome : Option r.Value)
    (link' : Link Wire) : Prop where
  requests_eq : r.quantity ≠ 0 → link'.net.requests = link.net.requests + 1
  ticks_le : link.net.ticks ≤ link'.net.ticks
  tags : outcome ≠ none → ∀ i ∈ link'.net.received, i = link.net.requests
  settled : (outcome = p.atomicRead link.net.requests r ∧ link'.net.outstanding = []) ∨
    (outcome = none ∧ p.LateIn link.net.ticks link'.net.ticks)

/-- The step lemma: a typed read on a drained wire is the abstract read, or it
fails because its own reply is late. -/
theorem perform_drained (p : Peer) (r : RegRead) (link : Link Wire)
    (hclean : link.net.outstanding = []) :
    ∃ outcome link', r.perform p.socket link = some (outcome, link') ∧
      Settled p r link outcome link' := by
  by_cases hcount : r.quantity = 0
  · have hnone : p.atomicRead link.net.requests r = none := by
      rw [Peer.atomicRead, if_neg]
      intro hgrant
      have hpos := hgrant.2.1
      rw [hcount] at hpos
      exact absurd hpos (by decide)
    refine ⟨none, link, ?_, ?_⟩
    · rw [RegRead.perform_eq, readHoldingRegisters, if_pos (Or.inl hcount)]
      rfl
    · exact ⟨fun h => absurd hcount h, Nat.le_refl _, fun h => absurd rfl h,
        Or.inl ⟨hnone.symm, hclean⟩⟩
  · obtain ⟨result, w', hrun, hreq, hticks, htags, hresult⟩ :=
      readHoldingRegisters_drained p r.addr r.quantity (List.replicate r.quantity.toNat 0) link
        hclean hcount (by rw [List.length_replicate])
    rcases hresult with ⟨hgrant, hdrain, rfl⟩ | ⟨hrefuse, hdrain, rfl⟩ | ⟨hlate, rfl⟩
    · refine ⟨some (meaning (p.bank link.net.requests) r), ⟨link.client.nextTransaction, w'⟩,
        ?_, ?_⟩
      · rw [RegRead.perform_eq, hrun, Option.map_some, List.drop_replicate, Nat.sub_self,
          List.replicate_zero, List.append_nil, decode_window,
          if_neg (Int.not_lt.mpr (Int.natCast_nonneg _))]
      · refine ⟨fun _ => hreq, hticks, fun _ => htags, Or.inl ⟨?_, hdrain⟩⟩
        rw [Peer.atomicRead, if_pos hgrant]
    · refine ⟨none, ⟨link.client.nextTransaction, w'⟩, ?_, ?_⟩
      · rw [RegRead.perform_eq, hrun]
        rfl
      · refine ⟨fun _ => hreq, hticks, fun h => absurd rfl h, Or.inl ⟨?_, hdrain⟩⟩
        rw [Peer.atomicRead, if_neg hrefuse]
    · refine ⟨none, ⟨link.client.nextTransaction, w'⟩, ?_, ?_⟩
      · rw [RegRead.perform_eq, hrun]
        rfl
      · exact ⟨fun _ => hreq, hticks, fun h => absurd rfl h, Or.inr ⟨rfl, hlate⟩⟩

/-- One call of a session: the request it sent, its outcome, the requests
answered by the bytes it took, and how many bytes it left on the wire. -/
structure CallRecord where
  request : ℕ
  read : RegRead
  outcome : Option read.Value
  received : List ℕ
  leftover : ℕ

def callRecord (r : RegRead) (outcome : Option r.Value) (link link' : Link Wire) : CallRecord where
  request := link.net.requests
  read := r
  outcome := outcome
  received := link'.net.received
  leftover := link'.net.outstanding.length

/-- The calls in order on one connection; `none` is undefined behaviour. -/
def session (p : Peer) : List RegRead → Link Wire → Option (List CallRecord × Link Wire)
  | [], link => some ([], link)
  | r :: rest, link => do
      let (outcome, link') ← r.perform p.socket link
      let (records, final) ← session p rest link'
      return (callRecord r outcome link link' :: records, final)

/-- The abstract session: request `k` reads the bank the server holds then. -/
def atomicSession (p : Peer) : ℕ → List RegRead → List ((r : RegRead) × Option r.Value)
  | _, [] => []
  | k, r :: rest => ⟨r, p.atomicRead k r⟩ :: atomicSession p (k + 1) rest

def opened (client : Client) : Link Wire := ⟨client, {}⟩

/-- A successful call returns the data of the reply to its own request, and all
bytes it took belong to that reply. -/
def CallRecord.OwnReply (p : Peer) (c : CallRecord) : Prop :=
  ∀ v, c.outcome = some v →
    p.atomicRead c.request c.read = some v ∧ ∀ i ∈ c.received, i = c.request

theorem session_cons {p : Peer} {r : RegRead} {rest : List RegRead} {link link' final : Link Wire}
    {outcome : Option r.Value} {records : List CallRecord}
    (hrun : r.perform p.socket link = some (outcome, link'))
    (hrest : session p rest link' = some (records, final)) :
    session p (r :: rest) link = some (callRecord r outcome link link' :: records, final) := by
  simp only [session, hrun, hrest, Option.bind_eq_bind, Option.bind_some, Option.pure_def]

/-- In every call but the last, no recv gives up while reply bytes are
outstanding. -/
def OnTime (p : Peer) : List RegRead → Link Wire → Prop
  | [], _ => True
  | [_], _ => True
  | r :: next :: rest, link => ∀ outcome link', r.perform p.socket link = some (outcome, link') →
      ¬ p.LateIn link.net.ticks link'.net.ticks ∧ OnTime p (next :: rest) link'

theorem Settled.ownReply {p : Peer} {r : RegRead} {link link' : Link Wire}
    {outcome : Option r.Value} (h : Settled p r link outcome link') :
    (callRecord r outcome link link').OwnReply p := by
  intro v hv
  change outcome = some v at hv
  rcases h.settled with ⟨hatomic, _⟩ | ⟨hnone, _⟩
  · have hne : outcome ≠ none := fun hnone => Option.some_ne_none v (hv.symm.trans hnone)
    exact ⟨hatomic.symm.trans hv, h.tags hne⟩
  · rw [hnone] at hv
    contradiction

/-- As long as earlier replies come on time, every successful call of a session
returns the data of its own reply. -/
theorem session_ownReply (p : Peer) (reads : List RegRead) (link : Link Wire)
    (hclean : link.net.outstanding = []) (htime : OnTime p reads link) :
    ∃ records final, session p reads link = some (records, final) ∧
      ∀ c ∈ records, c.OwnReply p := by
  induction reads generalizing link with
  | nil => exact ⟨[], link, rfl, by simp⟩
  | cons r rest ih =>
    obtain ⟨outcome, link', hrun, hsettled⟩ := perform_drained p r link hclean
    have hown := hsettled.ownReply
    cases rest with
    | nil =>
      refine ⟨[callRecord r outcome link link'], link', session_cons hrun rfl, ?_⟩
      simpa only [List.mem_singleton, forall_eq] using hown
    | cons next rest =>
      obtain ⟨hlate, htail⟩ := htime outcome link' hrun
      have hdrain : link'.net.outstanding = [] := by
        rcases hsettled.settled with ⟨_, hdrain⟩ | ⟨_, hin⟩
        · exact hdrain
        · exact absurd hin hlate
      obtain ⟨records, final, hrest, hrecords⟩ := ih link' hdrain htail
      refine ⟨callRecord r outcome link link' :: records, final, session_cons hrun hrest, ?_⟩
      intro c hc
      rcases List.mem_cons.mp hc with rfl | hc
      · exact hown
      · exact hrecords c hc

/-- From a drained wire, a session without late replies is the abstract session,
and every call drains the wire again. -/
theorem session_atomic (p : Peer) (hprompt : ∀ j, p.schedule j ≠ none) (reads : List RegRead)
    (link : Link Wire) (hclean : link.net.outstanding = [])
    (hq : ∀ r ∈ reads, r.quantity ≠ 0) :
    ∃ records final, session p reads link = some (records, final) ∧
      records.map (fun c => (⟨c.read, c.outcome⟩ : (r : RegRead) × Option r.Value)) =
        atomicSession p link.net.requests reads ∧
      ∀ c ∈ records, c.read ∈ reads ∧ c.outcome = p.atomicRead c.request c.read ∧
        c.leftover = 0 := by
  induction reads generalizing link with
  | nil => exact ⟨[], link, rfl, rfl, by simp⟩
  | cons r rest ih =>
    obtain ⟨outcome, link', hrun, hsettled⟩ := perform_drained p r link hclean
    have hboth : outcome = p.atomicRead link.net.requests r ∧ link'.net.outstanding = [] := by
      rcases hsettled.settled with hboth | ⟨_, j, _, _, hnone⟩
      · exact hboth
      · exact absurd hnone (hprompt j)
    obtain ⟨records, final, hrest, hatomic, hrecords⟩ :=
      ih link' hboth.2 (fun q hqmem => hq q (List.mem_cons_of_mem r hqmem))
    refine ⟨callRecord r outcome link link' :: records, final, session_cons hrun hrest, ?_, ?_⟩
    · rw [List.map_cons, hatomic, hsettled.requests_eq (hq r List.mem_cons_self), hboth.1,
        atomicSession]
      rfl
    · intro c hc
      rcases List.mem_cons.mp hc with rfl | hc
      · exact ⟨List.mem_cons_self, hboth.1, List.length_eq_zero_iff.mpr hboth.2⟩
      · obtain ⟨hread, houtcome, hleft⟩ := hrecords c hc
        exact ⟨List.mem_cons_of_mem r hread, houtcome, hleft⟩

theorem atomicRead_isSome_iff (p : Peer) (k : ℕ) (r : RegRead)
    (hq : 1 ≤ r.quantity.toNat ∧ r.quantity.toNat ≤ 125) :
    p.atomicRead k r ≠ none ↔ p.refuses k = none := by
  unfold Peer.atomicRead Peer.Grants
  by_cases hrefuse : p.refuses k = none <;> simp [hrefuse, hq]

/-- On a connection where earlier replies come on time, whatever the chunks and
the exceptions, no successful call returns another request's data. -/
theorem opened_session_ownReply (p : Peer) (client : Client) (reads : List RegRead)
    (htime : OnTime p reads (opened client)) :
    ∃ records final, session p reads (opened client) = some (records, final) ∧
      ∀ c ∈ records, c.OwnReply p :=
  session_ownReply p reads (opened client) rfl htime

/-- A server that refuses no request and sends every reply in chunks of five. -/
def chunkedPeer : Peer where
  bank k _ := UInt16.ofNat k
  refuses _ := none
  schedule _ := some 4

theorem opened_session_ownReply_chunked :
    ∃ records final, session chunkedPeer [.u16 100, .u32 200] (opened ⟨3, 65535⟩) =
        some (records, final) ∧ ∀ c ∈ records, c.OwnReply chunkedPeer := by
  apply opened_session_ownReply chunkedPeer ⟨3, 65535⟩ [.u16 100, .u32 200]
  intro outcome link' _
  refine ⟨?_, trivial⟩
  intro hlate
  obtain ⟨j, _, _, hnone⟩ := hlate
  exact Option.some_ne_none 4 hnone

/-- A server whose first reply arrives only after the recv for it timed out. -/
def latePeer : Peer where
  bank k _ := if k = 0 then 11 else 22
  refuses _ := none
  schedule j := if j = 0 then none else some 100

/-- The second of two reads succeeds with bytes of the reply to the first. -/
theorem session_late_reply :
    ∃ records final, session latePeer [.u16 100, .u16 200] (opened {}) = some (records, final) ∧
      ¬ ∀ c ∈ records, c.OwnReply latePeer := by
  have hrun : (session latePeer [.u16 100, .u16 200] (opened {})).map (fun out =>
      out.1.map (fun c => (c.request, c.outcome.isSome, c.received))) =
        some [(0, false, []), (1, true, List.replicate 11 0)] := by
    decide +kernel
  obtain ⟨out, hout, hrecords⟩ := Option.map_eq_some_iff.mp hrun
  refine ⟨out.1, out.2, hout, ?_⟩
  intro hown
  have hmem : (1, true, List.replicate 11 0) ∈
      out.1.map (fun c => (c.request, c.outcome.isSome, c.received)) := by
    rw [hrecords]
    simp
  obtain ⟨c, hc, heq⟩ := List.mem_map.mp hmem
  simp only [Prod.mk.injEq] at heq
  obtain ⟨hrequest, hsome, hreceived⟩ := heq
  obtain ⟨v, hv⟩ := Option.isSome_iff_exists.mp hsome
  have htag := (hown c hc v hv).2 0 (by rw [hreceived]; simp)
  omega

/-- Under prompt delivery the byte stream refines atomic reads of the bank: call
`k` succeeds exactly when the server does not refuse it, with the meaning of the
bank at that instant, and leaves no byte unread. -/
theorem session_refines_atomicSession (p : Peer) (client : Client) (reads : List RegRead)
    (hprompt : ∀ j, p.schedule j ≠ none)
    (hq : ∀ r ∈ reads, 1 ≤ r.quantity.toNat ∧ r.quantity.toNat ≤ 125) :
    ∃ records final, session p reads (opened client) = some (records, final) ∧
      records.map (fun c => (⟨c.read, c.outcome⟩ : (r : RegRead) × Option r.Value)) =
        atomicSession p 0 reads ∧
      ∀ c ∈ records, (c.outcome ≠ none ↔ p.refuses c.request = none) ∧ c.leftover = 0 := by
  have hne : ∀ r ∈ reads, r.quantity ≠ 0 := by
    intro r hr hzero
    have hpos := (hq r hr).1
    rw [hzero] at hpos
    exact absurd hpos (by decide)
  obtain ⟨records, final, hrun, hatomic, hrecords⟩ :=
    session_atomic p hprompt reads (opened client) rfl hne
  refine ⟨records, final, hrun, hatomic, ?_⟩
  intro c hc
  obtain ⟨hread, houtcome, hleft⟩ := hrecords c hc
  refine ⟨?_, hleft⟩
  rw [houtcome]
  exact atomicRead_isSome_iff p c.request c.read (hq c.read hread)

theorem session_refines_atomicSession_wrap :
    ∃ records final, session chunkedPeer [.i32 100, .string 200 125] (opened ⟨3, 65535⟩) =
        some (records, final) ∧
      records.map (fun c => (⟨c.read, c.outcome⟩ : (r : RegRead) × Option r.Value)) =
        atomicSession chunkedPeer 0 [.i32 100, .string 200 125] ∧
      ∀ c ∈ records, (c.outcome ≠ none ↔ chunkedPeer.refuses c.request = none) ∧
        c.leftover = 0 :=
  session_refines_atomicSession chunkedPeer ⟨3, 65535⟩ [.i32 100, .string 200 125]
    (fun _ => Option.some_ne_none 4) (by decide)

end SolakonMonitor.ModbusSession
