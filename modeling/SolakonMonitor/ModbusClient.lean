import SolakonMonitor.BigEndian
import Mathlib.Data.List.DropRight

/-!
The Modbus TCP client: one request frame out, one reply read back.
The socket is a parameter with its own state; each recv hands over a nonempty
chunk no longer than asked for, or reports a timeout, an error or the end of
the stream. The outer option of every read is undefined behaviour: it is none
exactly when the copy loop indexes past the receive buffer.
-/
namespace SolakonMonitor.ModbusClient

open BigEndian

inductive ErrorCode where
  | errno (value : Int32)
  | timedOut
  | connectionReset
  | ioError
  deriving DecidableEq, Repr

structure Chunk (n : ℕ) where
  bytes : Bytes
  nonempty : bytes ≠ []
  fits : bytes.length ≤ n

theorem Chunk.length_pos {n : ℕ} (c : Chunk n) : 0 < c.bytes.length :=
  List.length_pos_iff.mpr c.nonempty

inductive Recv (n : ℕ) where
  | data (chunk : Chunk n)
  | closed
  | again
  | failed (errno : Int32)

/-- `send` reports an errno or the number of bytes it took. -/
structure Socket (σ : Type) where
  send : Int32 → Bytes → σ → Except Int32 ℕ × σ
  recv : Int32 → (n : ℕ) → σ → Recv n × σ

structure Client where
  socketFd : Int32 := -1
  transactionId : UInt16 := 1
  deriving DecidableEq, Repr

/-- `transaction_id_++`, wrapping at 16 bits. -/
def Client.nextTransaction (c : Client) : Client :=
  { c with transactionId := c.transactionId + 1 }

/-- The client and the network it talks to. -/
structure Link (σ : Type) where
  client : Client
  net : σ
  deriving DecidableEq, Repr

structure MBPRequest where
  transactionId : UInt16
  protocolId : UInt16 := 0
  length : UInt16
  unitId : UInt8
  functionCode : UInt8
  startAddr : UInt16
  quantity : UInt16
  deriving DecidableEq, Repr

/-- The packed struct after every field went through `htons`. -/
def MBPRequest.bytes (req : MBPRequest) : Bytes :=
  wordBytes req.transactionId ++ wordBytes req.protocolId ++ wordBytes req.length ++
    [req.unitId, req.functionCode] ++ wordBytes req.startAddr ++ wordBytes req.quantity

variable {σ : Type}

def recvLoop (sock : Socket σ) (fd : Int32) (respLen : ℕ) (response : Bytes) (net : σ) :
    Except ErrorCode Bytes × σ :=
  if response.length < respLen then
    match sock.recv fd (respLen - response.length) net with
    | (.failed errno, net) => (.error (.errno errno), net)
    | (.again, net) => (.error .timedOut, net)
    | (.closed, net) => (.error .connectionReset, net)
    | (.data chunk, net) => recvLoop sock fd respLen (response ++ chunk.bytes) net
  else (.ok response, net)
termination_by respLen - response.length
decreasing_by
  have hpos := chunk.length_pos
  simp only [List.length_append]
  omega

/-- The number of bytes `send` took is not looked at. -/
def sendReceive (sock : Socket σ) (fd : Int32) (request : Bytes) (respLen : ℕ) (net : σ) :
    Except ErrorCode Bytes × σ :=
  match sock.send fd request net with
  | (.error errno, net) => (.error (.errno errno), net)
  | (.ok _, net) => recvLoop sock fd respLen [] net

/-- `output[i] = (data[2 * i] << 8) | data[2 * i + 1]` for each `i < count`. -/
def copyRegisters (data : Bytes) (count : ℕ) (output : List UInt16) : Option (List UInt16) :=
  (List.range count).foldlM (fun out i => do
    let hi ← data[2 * i]?
    let lo ← data[2 * i + 1]?
    return out.set i (word hi lo)) output

def byteCount (count : UInt16) : UInt8 := (count * 2).toUInt8

def respLen (count : UInt16) : ℕ := 9 + (byteCount count).toNat

/-- The offset of `function_code` in the packed response. -/
def functionCode (resp : Bytes) : UInt8 := resp.getD 7 0

def request (transactionId startAddr count : UInt16) : MBPRequest where
  transactionId := transactionId
  length := 6
  unitId := 1
  functionCode := 0x03
  startAddr := startAddr
  quantity := count

def readHoldingRegisters (sock : Socket σ) (startAddr count : UInt16) (output : List UInt16)
    (link : Link σ) : Option ((ℤ × List UInt16) × Link σ) :=
  if count = 0 ∨ output.length < count.toNat then some ((-1, output), link)
  else
    let req := request link.client.transactionId startAddr count
    let client := link.client.nextTransaction
    match sendReceive sock client.socketFd req.bytes (respLen count) link.net with
    | (.error _, net) => some ((-1, output), ⟨client, net⟩)
    | (.ok resp, net) =>
      if functionCode resp ≠ 0x03 then some ((-1, output), ⟨client, net⟩)
      else (copyRegisters (resp.drop 9) count.toNat output).map
        (fun out => (((count.toNat : ℤ), out), ⟨client, net⟩))

def readU16 (sock : Socket σ) (addr value : UInt16) (link : Link σ) :
    Option ((Option ErrorCode × UInt16) × Link σ) :=
  (readHoldingRegisters sock addr 1 [0] link).map fun ((n, buf), link) =>
    if n < 0 then ((some .ioError, value), link) else ((none, buf.getD 0 0), link)

def readI16 (sock : Socket σ) (addr : UInt16) (value : Int16) (link : Link σ) :
    Option ((Option ErrorCode × Int16) × Link σ) :=
  (readHoldingRegisters sock addr 1 [0] link).map fun ((n, buf), link) =>
    if n < 0 then ((some .ioError, value), link) else ((none, (buf.getD 0 0).toInt16), link)

def readU32 (sock : Socket σ) (addr : UInt16) (value : UInt32) (link : Link σ) :
    Option ((Option ErrorCode × UInt32) × Link σ) :=
  (readHoldingRegisters sock addr 2 [0, 0] link).map fun ((n, buf), link) =>
    if n < 0 then ((some .ioError, value), link)
    else ((none, dword (buf.getD 0 0) (buf.getD 1 0)), link)

/-- `uval` starts indeterminate and is read only after a success wrote it. -/
def readI32 (sock : Socket σ) (addr : UInt16) (value : Int32) (link : Link σ) :
    Option ((Option ErrorCode × Int32) × Link σ) :=
  (readU32 sock addr 0 link).map fun ((ec, uval), link) =>
    if ec.isNone then ((ec, uval.toInt32), link) else ((ec, value), link)

/-- Bytes of the registers with trailing NULs and spaces popped. -/
def registerText (buf : List UInt16) : Bytes :=
  (wordsBytes buf).rdropWhile (fun b => b = 0 || b = 32)

def readString (sock : Socket σ) (addr regCount : UInt16) (result : Bytes) (link : Link σ) :
    Option ((Option ErrorCode × Bytes) × Link σ) :=
  (readHoldingRegisters sock addr regCount (List.replicate regCount.toNat 0) link).map
    fun ((n, buf), link) =>
      if n < 0 then ((some .ioError, result), link) else ((none, registerText buf), link)

/-- One call of the client's typed readers. -/
inductive RegRead where
  | u16 (addr : UInt16)
  | i16 (addr : UInt16)
  | u32 (addr : UInt16)
  | i32 (addr : UInt16)
  | string (addr regCount : UInt16)
  deriving DecidableEq, Repr

namespace RegRead

@[reducible] def Value : RegRead → Type
  | .u16 _ => UInt16
  | .i16 _ => Int16
  | .u32 _ => UInt32
  | .i32 _ => Int32
  | .string _ _ => Bytes

def addr : RegRead → UInt16
  | .u16 a => a
  | .i16 a => a
  | .u32 a => a
  | .i32 a => a
  | .string a _ => a

def quantity : RegRead → UInt16
  | .u16 _ => 1
  | .i16 _ => 1
  | .u32 _ => 2
  | .i32 _ => 2
  | .string _ n => n

def default : (r : RegRead) → r.Value
  | .u16 _ => 0
  | .i16 _ => 0
  | .u32 _ => 0
  | .i32 _ => 0
  | .string _ _ => []

/-- The value carried by the registers a call reads. -/
def decode : (r : RegRead) → List UInt16 → r.Value
  | .u16 _, buf => buf.getD 0 0
  | .i16 _, buf => (buf.getD 0 0).toInt16
  | .u32 _, buf => dword (buf.getD 0 0) (buf.getD 1 0)
  | .i32 _, buf => (dword (buf.getD 0 0) (buf.getD 1 0)).toInt32
  | .string _ _, buf => registerText buf

/-- The call as the source makes it, with its result argument passed in. -/
def call (sock : Socket σ) : (r : RegRead) → r.Value → Link σ →
    Option ((Option ErrorCode × r.Value) × Link σ)
  | .u16 a, value, link => readU16 sock a value link
  | .i16 a, value, link => readI16 sock a value link
  | .u32 a, value, link => readU32 sock a value link
  | .i32 a, value, link => readI32 sock a value link
  | .string a n, value, link => readString sock a n value link

/-- What a caller that tests the error code learns. -/
def perform (sock : Socket σ) (r : RegRead) (link : Link σ) :
    Option (Option r.Value × Link σ) :=
  (r.call sock r.default link).map fun ((ec, value), link) =>
    (if ec.isNone then some value else none, link)

end RegRead

/-- A call is `readHoldingRegisters` into a zeroed buffer, then the decoding. -/
theorem RegRead.call_eq (sock : Socket σ) (r : RegRead) (value : r.Value) (link : Link σ) :
    r.call sock value link =
      (readHoldingRegisters sock r.addr r.quantity (List.replicate r.quantity.toNat 0) link).map
        (fun p => if p.1.1 < 0 then ((some .ioError, value), p.2)
          else ((none, r.decode p.1.2), p.2)) := by
  cases r with
  | i32 a =>
    simp only [RegRead.call, readI32, readU32, Option.map_map]
    congr 1
    funext p
    by_cases hneg : p.1.1 < 0
    · simp only [Function.comp_apply, hneg, if_true, Option.isNone_some, Bool.false_eq_true,
        if_false]
    · simp only [Function.comp_apply, hneg, if_false, Option.isNone_none, if_true,
        RegRead.decode]
  | u16 a => rfl
  | i16 a => rfl
  | u32 a => rfl
  | string a n => rfl

theorem RegRead.perform_eq (sock : Socket σ) (r : RegRead) (link : Link σ) :
    r.perform sock link =
      (readHoldingRegisters sock r.addr r.quantity (List.replicate r.quantity.toNat 0) link).map
        (fun p => (if p.1.1 < 0 then none else some (r.decode p.1.2), p.2)) := by
  rw [RegRead.perform, RegRead.call_eq, Option.map_map]
  congr 1
  funext p
  by_cases hneg : p.1.1 < 0
  · simp only [Function.comp_apply, hneg, if_true, Option.isNone_some, Bool.false_eq_true,
      if_false]
  · simp only [Function.comp_apply, hneg, if_false, Option.isNone_none, if_true]

/-- A call leaves its result argument alone exactly when it reports an error. -/
theorem RegRead.call_eq_perform (sock : Socket σ) (r : RegRead) (value : r.Value)
    (link : Link σ) :
    r.call sock value link = (r.perform sock link).map (fun p =>
      ((if p.1.isSome then none else some .ioError, p.1.getD value), p.2)) := by
  rw [RegRead.call_eq, RegRead.perform_eq, Option.map_map]
  congr 1
  funext p
  by_cases hneg : p.1.1 < 0
  · simp only [Function.comp_apply, hneg, if_true, Option.isSome_none, Bool.false_eq_true,
      if_false, Option.getD_none]
  · simp only [Function.comp_apply, hneg, if_false, Option.isSome_some, if_true, Option.getD_some]

/-- The byte count is not truncated up to 127 registers. -/
theorem respLen_eq_iff (count : UInt16) :
    respLen count = 9 + 2 * count.toNat ↔ count.toNat ≤ 127 := by
  have hlt := count.toNat_lt
  simp only [respLen, byteCount, UInt16.toNat_toUInt8, UInt16.toNat_mul]
  change 9 + count.toNat * 2 % 2 ^ 16 % 2 ^ 8 = _ ↔ _
  omega

def registers (data : Bytes) (count : ℕ) : List UInt16 :=
  (List.range count).map (fun i => word (data.getD (2 * i) 0) (data.getD (2 * i + 1) 0))

theorem registers_length (data : Bytes) (count : ℕ) : (registers data count).length = count := by
  simp [registers]

/-- Inside the buffer the loop overwrites the first `count` entries and no others. -/
theorem copyRegisters_eq (data : Bytes) (count : ℕ) (output : List UInt16)
    (hdata : 2 * count ≤ data.length) (hout : count ≤ output.length) :
    copyRegisters data count output = some (registers data count ++ output.drop count) := by
  induction count with
  | zero => rfl
  | succ n ih =>
    have hprev := ih (by omega) (by omega)
    have hhi : data[2 * n]? = some (data.getD (2 * n) 0) := by
      rw [List.getD_eq_getElem?_getD, List.getElem?_eq_getElem (by omega), Option.getD_some]
    have hlo : data[2 * n + 1]? = some (data.getD (2 * n + 1) 0) := by
      rw [List.getD_eq_getElem?_getD, List.getElem?_eq_getElem (by omega), Option.getD_some]
    have hset : (registers data n ++ output.drop n).set n
        (word (data.getD (2 * n) 0) (data.getD (2 * n + 1) 0)) =
          registers data (n + 1) ++ output.drop (n + 1) := by
      have hdrop : output.drop n = output[n] :: output.drop (n + 1) :=
        List.drop_eq_getElem_cons (by omega)
      rw [List.set_append_right _ _ (by rw [registers_length]), registers_length, Nat.sub_self,
        hdrop, List.set_cons_zero]
      simp only [registers, List.range_succ, List.map_append, List.map_cons, List.map_nil,
        List.append_assoc, List.cons_append, List.nil_append]
    unfold copyRegisters at hprev ⊢
    rw [List.range_succ, List.foldlM_append, hprev]
    simp only [List.foldlM_cons, List.foldlM_nil, hhi, hlo, hset, Option.pure_def,
      Option.bind_eq_bind, Option.bind_some]

theorem registers_wordsBytes (ws : List UInt16) (rest : Bytes) :
    registers (wordsBytes ws ++ rest) ws.length = ws := by
  apply List.ext_getElem?
  intro i
  by_cases hi : i < ws.length
  · have hlen := wordsBytes_length ws
    have hhi : (wordsBytes ws ++ rest).getD (2 * i) 0 = hiByte ws[i] := by
      rw [List.getD_eq_getElem?_getD, List.getElem?_append_left (by omega),
        wordsBytes_getElem?_hi, List.getElem?_eq_getElem hi, Option.map_some, Option.getD_some]
    have hlo : (wordsBytes ws ++ rest).getD (2 * i + 1) 0 = loByte ws[i] := by
      rw [List.getD_eq_getElem?_getD, List.getElem?_append_left (by omega),
        wordsBytes_getElem?_lo, List.getElem?_eq_getElem hi, Option.map_some, Option.getD_some]
    rw [registers, List.getElem?_map, List.getElem?_range hi, Option.map_some, hhi, hlo,
      word_hiByte_loByte, List.getElem?_eq_getElem hi]
  · rw [List.getElem?_eq_none (by rw [registers_length]; omega),
      List.getElem?_eq_none (by omega)]

end SolakonMonitor.ModbusClient
