import SolakonMonitor.ReplyFrames

/-!
What a read promises its callers.
The peer's bytes arrive in chunks of any size, and may stop anywhere. A read takes no
byte beyond its reply; it delivers all its registers or touches nothing, and the typed
readers pass this on to their result arguments.
-/
namespace SolakonMonitor.ReceiveContract

open BigEndian ModbusClient ReplyFrames

/-- A whole reply arrives before the stream breaks off, and its function code is that of
the request. -/
def Complete (count : UInt16) (w : Inbound) : Prop :=
  9 + 2 * count.toNat ≤ w.arrived.length ∧ w.arrived[7]? = some 0x03

/-- `n` and `out` are the result of a read of `count` registers into `output`, `left` is what
it leaves on the socket. -/
structure Contract (count : UInt16) (output : List UInt16) (w : Inbound) (n : ℤ)
    (out : List UInt16) (left : Inbound) : Prop where
  success : n = count.toNat ↔ Complete count w
  copied : Complete count w → ∀ i, i < count.toNat → ∃ hi lo,
    w.arrived[9 + 2 * i]? = some hi ∧ w.arrived[10 + 2 * i]? = some lo ∧
      out[i]? = some (word hi lo)
  beyond : ∀ i, count.toNat ≤ i → out[i]? = output[i]?
  failure : ¬ Complete count w → n = -1 ∧ out = output
  consumed : ∃ taken, w.arrived = taken ++ left.arrived ∧ taken.length ≤ 9 + 2 * count.toNat

theorem accepts_iff {count : UInt16} {w : Inbound} {sent : ℕ} (hsent : w.sent = .ok sent) :
    Accepts count w ↔ Complete count w := by
  constructor
  · intro h
    exact h.2
  · intro h
    exact ⟨⟨sent, hsent⟩, h⟩

/-- The register at an index is made of the two bytes behind the header that stand for it. -/
theorem registers_getElem? {bytes : Bytes} {count i : ℕ} (hi : i < count)
    (hbytes : 9 + 2 * count ≤ bytes.length) :
    ∃ hi lo, bytes[9 + 2 * i]? = some hi ∧ bytes[10 + 2 * i]? = some lo ∧
      (registers (bytes.drop 9) count)[i]? = some (word hi lo) := by
  have hhigh : bytes[9 + 2 * i]? = some bytes[9 + 2 * i] := List.getElem?_eq_getElem (by omega)
  have hlow : bytes[10 + 2 * i]? = some bytes[10 + 2 * i] := List.getElem?_eq_getElem (by omega)
  refine ⟨_, _, hhigh, hlow, ?_⟩
  have hnext : 9 + (2 * i + 1) = 10 + 2 * i := by omega
  rw [registers, List.getElem?_map, List.getElem?_range hi, Option.map_some,
    List.getD_eq_getElem?_getD, List.getD_eq_getElem?_getD, List.getElem?_drop, List.getElem?_drop,
    hnext, hhigh, hlow, Option.getD_some, Option.getD_some]

theorem consumed_of_drop {w left : Inbound} {bound : ℕ}
    (h : ∃ n, n ≤ bound ∧ left.arrived = w.arrived.drop n) :
    ∃ taken, w.arrived = taken ++ left.arrived ∧ taken.length ≤ bound := by
  obtain ⟨n, hn, hleft⟩ := h
  refine ⟨w.arrived.take n, ?_, (List.length_take_le n _).trans hn⟩
  rw [hleft, List.take_append_drop]

theorem readHoldingRegisters_contract (addr count : UInt16) (output : List UInt16)
    (client : Client) (w : Inbound) (hcount : 1 ≤ count.toNat) (hbuffer : 2 * count.toNat ≤ 255)
    (hout : count.toNat ≤ output.length) {sent : ℕ} (hsent : w.sent = .ok sent) :
    ∃ n out left, readHoldingRegisters Inbound.socket addr count output ⟨client, w⟩ =
        some ((n, out), ⟨client.nextTransaction, left⟩) ∧
      Contract count output w n out left := by
  have hne : count ≠ 0 := by
    rintro rfl
    exact absurd hcount (by decide)
  obtain ⟨left, hleft, hcase⟩ :=
    readHoldingRegisters_run addr count output client w hne (by omega) hout
  rw [accepts_iff hsent] at hcase
  have hconsumed := consumed_of_drop hleft
  rcases hcase with ⟨hcomplete, hrun⟩ | ⟨hbroken, hrun⟩
  · refine ⟨_, _, left, hrun, iff_of_true rfl hcomplete, ?_, ?_, fun h => absurd hcomplete h,
      hconsumed⟩
    · intro _ i hi
      rw [List.getElem?_append_left (by rw [registers_length]; exact hi)]
      exact registers_getElem? hi hcomplete.1
    · intro i hi
      rw [List.getElem?_append_right (by rw [registers_length]; exact hi), registers_length,
        List.getElem?_drop, Nat.add_sub_cancel' hi]
  · exact ⟨_, _, left, hrun, iff_of_false (by omega) hbroken, fun h => absurd h hbroken,
      fun _ _ => rfl, fun _ => ⟨rfl, rfl⟩, hconsumed⟩

theorem perform_of_broken (r : RegRead) (client : Client) (w : Inbound)
    (hcount : 1 ≤ r.quantity.toNat) (hbuffer : 2 * r.quantity.toNat ≤ 255) {sent : ℕ}
    (hsent : w.sent = .ok sent) (hbroken : ¬ Complete r.quantity w) :
    ∃ link', r.perform Inbound.socket ⟨client, w⟩ = some (none, link') := by
  obtain ⟨n, out, left, hrun, hcontract⟩ := readHoldingRegisters_contract r.addr r.quantity
    (List.replicate r.quantity.toNat 0) client w hcount hbuffer
    (Nat.le_of_eq List.length_replicate.symm) hsent
  obtain ⟨rfl, -⟩ := hcontract.failure hbroken
  refine ⟨⟨client.nextTransaction, left⟩, ?_⟩
  rw [RegRead.perform_eq, hrun, Option.map_some, if_pos (show (-1 : ℤ) < 0 by decide)]

/-- Without a complete reply a typed read reports an error and keeps its result argument. -/
theorem call_of_broken (r : RegRead) (value : r.Value) (client : Client) (w : Inbound)
    (hcount : 1 ≤ r.quantity.toNat) (hbuffer : 2 * r.quantity.toNat ≤ 255) {sent : ℕ}
    (hsent : w.sent = .ok sent) (hbroken : ¬ Complete r.quantity w) :
    ∃ link', r.call Inbound.socket value ⟨client, w⟩ = some ((some .ioError, value), link') := by
  obtain ⟨link', hperform⟩ := perform_of_broken r client w hcount hbuffer hsent hbroken
  refine ⟨link', ?_⟩
  rw [RegRead.call_eq_perform, hperform]
  rfl

/-- A read either delivers a whole reply or touches neither its output nor the results of
the typed readers. -/
theorem receive_contract (addr count : UInt16) (output : List UInt16) (client : Client)
    (w : Inbound) (sent : ℕ) (hcount : 1 ≤ count.toNat) (hbuffer : 2 * count.toNat ≤ 255)
    (hout : count.toNat ≤ output.length) (hsent : w.sent = .ok sent) :
    (∃ n out left, readHoldingRegisters Inbound.socket addr count output ⟨client, w⟩ =
        some ((n, out), ⟨client.nextTransaction, left⟩) ∧
      Contract count output w n out left) ∧
    ∀ (r : RegRead) (value : r.Value), r.quantity = count → ¬ Complete count w →
      ∃ link', r.call Inbound.socket value ⟨client, w⟩ = some ((some .ioError, value), link') := by
  refine ⟨readHoldingRegisters_contract addr count output client w hcount hbuffer hout hsent, ?_⟩
  intro r value hquantity hbroken
  subst hquantity
  exact call_of_broken r value client w hcount hbuffer hsent hbroken

def choppedReply : Inbound where
  sent := .ok 12
  segments := [⟨[0, 1, 0], by decide⟩, ⟨[0, 0, 5, 1, 3], by decide⟩, ⟨[2, 1, 44], by decide⟩]
  ending := .closed

theorem receive_contract_chopped :
    (∃ n out left, readHoldingRegisters Inbound.socket 39050 1 [0] ⟨⟨3, 1⟩, choppedReply⟩ =
        some ((n, out), ⟨(Client.mk 3 1).nextTransaction, left⟩) ∧
      Contract 1 [0] choppedReply n out left) ∧
    ∀ (r : RegRead) (value : r.Value), r.quantity = 1 → ¬ Complete 1 choppedReply →
      ∃ link', r.call Inbound.socket value ⟨⟨3, 1⟩, choppedReply⟩ =
        some ((some .ioError, value), link') :=
  receive_contract 39050 1 [0] ⟨3, 1⟩ choppedReply 12 (by decide) (by decide) (by decide) rfl

end SolakonMonitor.ReceiveContract
