import TcplsBasics.Ports.Tcpls.Stream

/-!
# The TCPLS connection (`tcpls/mod.rs`)

A `TcplsConnection` multiplexes streams over one TLS connection.  The sender
side is `create_record`: it walks the streams in the `HashMap`'s iteration
order, appends one STREAM frame for each stream with data left while more
than a frame header fits, and then the queued control frames (`ctrl_buf`).
The receiver side is `process_record`: it walks the record backwards from its
last byte, each frame being recognised by its last byte, its type.

The loop of `process_record` never reads index `0` (`while i > 0`); a
"safeguard" after it reads `payload[0]` and answers a PING found there.
`Frames` shows what that does on records whose first frame is longer than one
byte.

The loop is `processRecordLoop`, by well-founded recursion on `i`: every frame
handler consumes at least one byte (`processFrame_consumed_pos`), so `i`
decreases at each turn.

Every `u64` is a `Nat`, as in `Stream`.  `rand::random_u64`, which only a
server calls, is an argument of `new`.  Logging is left out.

## Main results

* `processFrame_consumed_pos`, `processRecordStep_lt`: the loop of
  `process_record` terminates.
* `addAckFrame_ctrlBuf_length`: `ctrl_buf` stays below a record.
-/

namespace TcplsBasics.Ports.Tcpls

open TcplsBasics.Verified.Rust
open TcplsBasics.Verified.Bytes

/-- `Role`. -/
inductive Role where
  | client
  | server
deriving DecidableEq, Repr

/-- `TcplsConnection`. -/
structure TcplsConnection where
  connId : UInt32
  streams : HashMap UInt32 TcplsStream
  lastStreamIdCreated : UInt32
  ctrlBuf : Bytes
  internalHighestRecordSequence : Nat
  ackReceived : Bool
  role : Role
  lastStreamProcessed : UInt32
  highestRecordSequenceReceived : Nat
  sessionToken : Nat
deriving DecidableEq

namespace TcplsConnection

/-- `TcplsConnection::new`: stream `0`, empty, is there from the start.
`random` is what `rand::random_u64()` returns, drawn only for a server. -/
def new (connId : UInt32) (role : Role) (random : Except Unit Nat) :
    Except Panic TcplsConnection := do
  let stream1 := TcplsStreamBuilder.new 0
  let streams := (HashMap.empty : HashMap UInt32 TcplsStream).insert 0 stream1.build
  let sessionToken ←
    match role with
    | .client => pure 0
    | .server => expectOk random "Failed to create token"
  return {
    connId, streams, lastStreamIdCreated := 0, ctrlBuf := [], internalHighestRecordSequence := 0,
    ackReceived := false, role, lastStreamProcessed := 0, highestRecordSequenceReceived := 0,
    sessionToken }

/-! ## Control frames -/

/-- `add_ack_frame`: `[highest sequence: u64][conn id: u32][ACK_FRAME]` into
`ctrl_buf`, while that stays below a record.  The guard keeps `ctrl_buf` far
from `isize::MAX`, so neither extend can panic. -/
def addAckFrame (c : TcplsConnection) : TcplsConnection :=
  if c.ctrlBuf.length + 13 < maxRecordSize then
    { c with ctrlBuf := c.ctrlBuf ++ toBeBytes 8 c.internalHighestRecordSequence
        ++ toBeBytes 4 c.connId.toNat ++ [ackFrame] }
  else c

/-- `read_ack`: the ACK frame whose type byte is at `offset`.  Returns `13`,
the length of an ACK frame. -/
def readAck (c : TcplsConnection) (payload : Bytes) (offset : Nat) :
    Except Panic (TcplsConnection × Nat) := do
  -- `offset -= 4` leaves `offset` at `lo`
  let lo ← checkedSub offset 4
  let connIdBytes ← slice payload lo offset
  let _ ← expectOk (sliceToU32 connIdBytes) "Failed to convert bytes"
  let highestTlsSeq ← (
    if lo < 8 then do
      -- the source's way around the subtraction below: `&payload[0..offset + 1]`
      let hi ← checkedAdd 64 lo 1
      let seqBytes ← slice payload 0 hi
      expectOk (sliceToU64 seqBytes) "Failed to convert bytes"
    else do
      let seqLo ← checkedSub lo 8
      let seqBytes ← slice payload seqLo lo
      expectOk (sliceToU64 seqBytes) "Failed to convert bytes")
  let c := if highestTlsSeq > c.highestRecordSequenceReceived then
      { c with highestRecordSequenceReceived := highestTlsSeq } else c
  return (c, 13)

/-! ## Receiving -/

/-- `recv_stream_frame`: the STREAM frame whose type byte is at `offset`, on
its stream, created empty if it is new.  Returns the bytes read before the
type byte. -/
def recvStreamFrame (c : TcplsConnection) (payload : Bytes) (offset : Nat) :
    Except Panic (TcplsConnection × Nat) := do
  -- `offset -= 4` leaves `offset` at `lo`
  let lo ← checkedSub offset 4
  let idBytes ← slice payload lo offset
  let streamId ← expectOk (sliceToU32 idBytes) "Failed to convert bytes"
  -- `entry(stream_id).or_insert(TcplsStream::new(stream_id, Vec::new()))`
  let st := (c.streams.get? streamId).getD (TcplsStream.new streamId [])
  let newData ← slice payload 0 lo
  let (st, read) ← st.readStreamFrame newData
  let consumed ← checkedAdd 64 read 4
  return ({ c with streams := c.streams.insert streamId st, lastStreamProcessed := streamId },
    consumed)

/-- `process_frame`: dispatch on the type byte at `i`.  Returns the length of
the frame. -/
def processFrame (c : TcplsConnection) (payload : Bytes) (i : Nat) :
    Except Panic (Except Error (TcplsConnection × Nat)) := do
  let typ ← index payload i
  if typ = paddingFrame then
    return .ok (c, 1)
  else if typ = pingFrame then
    return .ok (c.addAckFrame, 1)
  else if typ = ackFrame then do
    let (c, consumed) ← { c with ackReceived := true }.readAck payload i
    return .ok (c, consumed)
  else if typ = streamFrameType ∨ typ = streamFrameFin then do
    let (c, read) ← c.recvStreamFrame payload i
    -- `consumed += self.recv_stream_frame(payload, i) + 1`, the type byte
    let consumed ← checkedAdd 64 read 1
    return .ok (c.addAckFrame, consumed)
  else if typ ∈ [newTokenFrame, connectionResetFrame, newAddressFrame, removeAddressFrame,
      streamChangeFrame] then
    .error ⟨"internal error: entered unreachable code"⟩
  else
    return .error .unknownTcplsType

/-! The four branches of `process_frame` that handle a frame, by its type byte. -/

section ProcessFrame

variable {c : TcplsConnection} {payload : Bytes} {i : Nat}

theorem processFrame_padding (h : index payload i = .ok paddingFrame) :
    c.processFrame payload i = .ok (.ok (c, 1)) := by
  rw [processFrame, h, ok_bind]
  rfl

theorem processFrame_ping (h : index payload i = .ok pingFrame) :
    c.processFrame payload i = .ok (.ok (c.addAckFrame, 1)) := by
  rw [processFrame, h, ok_bind]
  rfl

theorem processFrame_ack (h : index payload i = .ok ackFrame) :
    c.processFrame payload i
      = { c with ackReceived := true }.readAck payload i >>= fun r => .ok (.ok r) := by
  rw [processFrame, h, ok_bind]
  rfl

theorem processFrame_stream {typ : UInt8} (h : index payload i = .ok typ)
    (htyp : typ = streamFrameType ∨ typ = streamFrameFin) :
    c.processFrame payload i
      = c.recvStreamFrame payload i >>= fun r =>
          checkedAdd 64 r.2 1 >>= fun consumed => .ok (.ok (r.1.addAckFrame, consumed)) := by
  rw [processFrame, h, ok_bind]
  rcases htyp with rfl | rfl <;> rfl

end ProcessFrame

/-- What `read_ack` can do: consume the 13 bytes of an ACK frame, and at
most raise the highest sequence number received. -/
theorem readAck_result {c c' : TcplsConnection} {payload : Bytes} {offset n : Nat}
    (h : c.readAck payload offset = .ok (c', n)) :
    n = 13 ∧ (c' = c ∨ ∃ seq, c' = { c with highestRecordSequenceReceived := seq }) := by
  unfold readAck at h
  obtain ⟨_, -, h⟩ := bind_eq_ok.mp h
  obtain ⟨_, -, h⟩ := bind_eq_ok.mp h
  obtain ⟨_, -, h⟩ := bind_eq_ok.mp h
  obtain ⟨seq, -, h⟩ := bind_eq_ok.mp h
  cases h
  refine ⟨rfl, ?_⟩
  split
  · exact .inr ⟨seq, rfl⟩
  · exact .inl rfl

/-- What `recv_stream_frame` can do: read a frame into the stream it names,
the one there or a new one, insert it and note it as the last processed. -/
theorem recvStreamFrame_result {c c' : TcplsConnection} {payload : Bytes} {offset n : Nat}
    (h : c.recvStreamFrame payload offset = .ok (c', n)) :
    ∃ id newData st read,
      ((c.streams.get? id).getD (TcplsStream.new id [])).readStreamFrame newData = .ok (st, read) ∧
      c' = { c with streams := c.streams.insert id st, lastStreamProcessed := id } := by
  unfold recvStreamFrame at h
  obtain ⟨_, -, h⟩ := bind_eq_ok.mp h
  obtain ⟨_, -, h⟩ := bind_eq_ok.mp h
  obtain ⟨streamId, -, h⟩ := bind_eq_ok.mp h
  obtain ⟨newData, -, h⟩ := bind_eq_ok.mp h
  obtain ⟨⟨st, read⟩, hread, h⟩ := bind_eq_ok.mp h
  obtain ⟨_, -, h⟩ := bind_eq_ok.mp h
  cases h
  exact ⟨streamId, newData, st, read, hread, rfl⟩

theorem readAck_consumed {c c' : TcplsConnection} {payload : Bytes} {offset n : Nat}
    (h : c.readAck payload offset = .ok (c', n)) : n = 13 :=
  (readAck_result h).1

/-- Every frame handler consumes at least one byte. -/
theorem processFrame_consumed_pos {c c' : TcplsConnection} {payload : Bytes} {i n : Nat}
    (h : c.processFrame payload i = .ok (.ok (c', n))) : 0 < n := by
  unfold processFrame at h
  obtain ⟨typ, -, h⟩ := bind_eq_ok.mp h
  split_ifs at h
  · cases h
    omega
  · cases h
    omega
  · -- ACK: `read_ack` always reports the 13 bytes of an ACK frame
    obtain ⟨⟨_, consumed⟩, hack, h⟩ := bind_eq_ok.mp h
    cases h
    rw [readAck_consumed hack]
    omega
  · -- STREAM: the stream frame's bytes plus its type byte
    obtain ⟨⟨_, read⟩, -, h⟩ := bind_eq_ok.mp h
    obtain ⟨consumed, hadd, h⟩ := bind_eq_ok.mp h
    cases h
    unfold checkedAdd at hadd
    split at hadd
    · cases hadd
      omega
    · cases hadd
  · cases h

/-- One turn of the `while i > 0` loop of `process_record`: the frame at `i`,
and the next `i`.  An unknown frame type is the `expect` panic. -/
def processRecordStep (c : TcplsConnection) (payload : Bytes) (i : Nat) :
    Except Panic (TcplsConnection × Nat) := do
  let r ← c.processFrame payload i
  let (c, consumed) ← expectOk r "error while reading record"
  return (c, if i > consumed then i - consumed else 0)

theorem processRecordStep_lt {c c' : TcplsConnection} {payload : Bytes} {i i' : Nat}
    (h : c.processRecordStep payload i = .ok (c', i')) (hi : 0 < i) : i' < i := by
  unfold processRecordStep at h
  obtain ⟨r, hr, h⟩ := bind_eq_ok.mp h
  cases r with
  | error e => cases h
  | ok p =>
      obtain ⟨c₁, consumed⟩ := p
      have hpos : 0 < consumed := processFrame_consumed_pos hr
      simp only [expectOk_ok, ok_bind] at h
      cases h
      split <;> omega

/-- The `while i > 0` loop of `process_record`. -/
def processRecordLoop (c : TcplsConnection) (payload : Bytes) (i : Nat) :
    Except Panic TcplsConnection :=
  if hi : i > 0 then
    match h : c.processRecordStep payload i with
    | .ok (c', i') =>
        have : i' < i := processRecordStep_lt h hi
        c'.processRecordLoop payload i'
    | .error p => .error p
  else .ok c
termination_by i

theorem processRecordLoop_zero (c : TcplsConnection) (payload : Bytes) :
    c.processRecordLoop payload 0 = .ok c := by
  rw [processRecordLoop, dif_neg (Nat.lt_irrefl 0)]

/-- One turn of the loop, then the loop from where it left `i`. -/
theorem processRecordLoop_pos (c : TcplsConnection) (payload : Bytes) {i : Nat} (hi : 0 < i) :
    c.processRecordLoop payload i
      = c.processRecordStep payload i >>= fun r => r.1.processRecordLoop payload r.2 := by
  rw [processRecordLoop, dif_pos hi]
  split
  · rename_i c' i' h
    simp only [h, ok_bind]
  · rename_i p h
    simp only [h, error_bind]

/-- What one turn of the loop keeps, the whole loop keeps: the loop's own
induction, on `i`, which every turn lowers. -/
theorem processRecordLoop_invariant (P : TcplsConnection → Prop) {payload : Bytes}
    (hstep : ∀ c c' i i', P c → c.processRecordStep payload i = .ok (c', i') → P c')
    {c c' : TcplsConnection} {i : Nat} (hc : P c) (h : c.processRecordLoop payload i = .ok c') :
    P c' := by
  induction i using Nat.strongRecOn generalizing c with
  | _ i ih =>
      by_cases hi : 0 < i
      · rw [processRecordLoop_pos c payload hi] at h
        obtain ⟨⟨c₁, i₁⟩, hs, h⟩ := bind_eq_ok.mp h
        exact ih i₁ (processRecordStep_lt hs hi) (hstep c c₁ i i₁ hc hs) h
      · rw [Nat.eq_zero_of_not_pos hi, processRecordLoop_zero] at h
        cases h
        exact hc

/-- `process_record`: the frames from the last byte backwards, then the
safeguard on the first byte, which the loop never reads.  The source's result
is always `Ok(())`: an error is a panic (`expect`). -/
def processRecord (c : TcplsConnection) (payload : Bytes) : Except Panic TcplsConnection := do
  let i ← checkedSub payload.length 1
  let c ← c.processRecordLoop payload i
  let first ← index payload 0
  return if first = pingFrame then c.addAckFrame else c

/-! ## Sending -/

/-- The `for stream in self.streams.values_mut()` loop of `create_record`,
over the values in iteration order: the updated values, the record, and
`last_stream_processed`. -/
def createRecordLoop (record : Bytes) (spaceLeft : Nat) (lastStreamProcessed : UInt32) :
    List TcplsStream → Except Panic (List TcplsStream × Bytes × UInt32)
  | [] => .ok ([], record, lastStreamProcessed)
  | stream :: rest => do
      if stream.hasDataToSend && decide (spaceLeft > streamHeaderSize) then
        let (stream, frame) ← stream.createStreamFrame spaceLeft
        -- `unwrap_or_default()`
        let record ← extendFromSlice record (frame.getD [])
        let spaceLeft ← checkedSub maxRecordSize record.length
        let (rest, record, last) ← createRecordLoop record spaceLeft stream.getId rest
        return (stream :: rest, record, last)
      else
        let (rest, record, last) ← createRecordLoop record spaceLeft lastStreamProcessed rest
        return (stream :: rest, record, last)

/-- `create_record`: STREAM frames, then the control frames if they fit.  An
empty record is sent as one PADDING frame. -/
def createRecord (c : TcplsConnection) : Except Panic (TcplsConnection × Except Error Bytes) := do
  let spaceLeft ← checkedSub maxRecordSize c.ctrlBuf.length
  let (values, record, lastStreamProcessed) ←
    createRecordLoop [] spaceLeft c.lastStreamProcessed c.streams.values
  let c := { c with streams := c.streams.setValues values, lastStreamProcessed }
  let room ← checkedSub maxRecordSize c.ctrlBuf.length
  let (c, record) ←
    if record.length < room then do
      let record ← extendFromSlice record c.ctrlBuf
      pure ({ c with ctrlBuf := [] }, record)
    else pure (c, record)
  return (c,
    if record.length = 0 then .ok [0]
    else if record.length ≤ maxRecordSize then .ok record
    else .error .unexpectedRecordSize)

/-! ## Streams and the rest of the interface -/

/-- `get_mut(&id).unwrap().add_data_to_send(data)`, the body shared by
`set_data` and `set_stream_data`. -/
def addDataToStream (c : TcplsConnection) (id : UInt32) (data : Bytes) :
    Except Panic TcplsConnection := do
  let stream ← expect (c.streams.get? id) unwrapNone
  let stream ← stream.addDataToSend data
  return { c with streams := c.streams.insert id stream }

/-- `set_data`: data for stream `0`. -/
def setData (c : TcplsConnection) (data : Bytes) : Except Panic TcplsConnection :=
  c.addDataToStream 0 data

/-- `set_stream_data`: data for the last stream attached. -/
def setStreamData (c : TcplsConnection) (data : Bytes) : Except Panic TcplsConnection :=
  c.addDataToStream c.lastStreamIdCreated data

/-- `attach_stream`. -/
def attachStream (c : TcplsConnection) (nStream : TcplsStream) (id : UInt32) : TcplsConnection :=
  { c with streams := c.streams.insert id nStream, lastStreamIdCreated := id }

/-- `get_stream_data`: `contains_key`, then `get(&id).unwrap()`. -/
def getStreamData (c : TcplsConnection) (id : UInt32) : Except Error Bytes :=
  match c.streams.get? id with
  | some stream => .ok stream.getStreamData
  | none => .error .streamNotFound

/-- `has_data`: `ans = ans || stream.has_data_to_send()` over the streams. -/
def hasData (c : TcplsConnection) : Bool :=
  c.streams.values.foldl (fun ans stream => ans || stream.hasDataToSend) false

/-- `get_id`. -/
def getId (c : TcplsConnection) : UInt32 := c.connId

/-- `update_tls_seq`. -/
def updateTlsSeq (c : TcplsConnection) (tlsSeq : Nat) : TcplsConnection :=
  { c with internalHighestRecordSequence := tlsSeq }

/-- `get_highest_tls_record_seq`. -/
def getHighestTlsRecordSeq (c : TcplsConnection) : Nat := c.internalHighestRecordSequence

/-- `inv_ack`. -/
def invAck (c : TcplsConnection) : TcplsConnection := { c with ackReceived := !c.ackReceived }

/-- `has_received_ack`. -/
def hasReceivedAck (c : TcplsConnection) : Bool := c.ackReceived

/-- `get_last_stream_processed_id`. -/
def getLastStreamProcessedId (c : TcplsConnection) : UInt32 := c.lastStreamProcessed

/-- `get_role`. -/
def getRole (c : TcplsConnection) : Role := c.role

/-- `get_session_token`. -/
def getSessionToken (c : TcplsConnection) : Nat := c.sessionToken

/-- `set_session_token`: a client takes the new token, a server keeps its own. -/
def setSessionToken (c : TcplsConnection) (newSessToken : Nat) : TcplsConnection :=
  { c with sessionToken := match c.role with
    | .client => newSessToken
    | .server => c.sessionToken }

/-! ## What each operation leaves alone -/

/-- A new connection has an empty `ctrl_buf` and one stream, `0`, empty. -/
theorem new_eq_ok {connId : UInt32} {role : Role} {random : Except Unit Nat} {c : TcplsConnection}
    (h : TcplsConnection.new connId role random = .ok c) :
    c.ctrlBuf = [] ∧ ∀ id, c.streams.get? id
      = if id = 0 then some (TcplsStreamBuilder.new 0).build else none := by
  unfold TcplsConnection.new at h
  have hstreams : ∀ id, ((HashMap.empty : HashMap UInt32 TcplsStream).insert 0
      (TcplsStreamBuilder.new 0).build).get? id
      = if id = 0 then some (TcplsStreamBuilder.new 0).build else none := by
    intro id
    rw [HashMap.get?_insert]
    rfl
  cases role with
  | client =>
      cases h
      exact ⟨rfl, hstreams⟩
  | server =>
      cases random with
      | error e => cases h
      | ok v =>
          cases h
          exact ⟨rfl, hstreams⟩

/-- `set_data` and `set_stream_data`: the stream at `id` gets `data` queued. -/
theorem addDataToStream_eq_ok {c c' : TcplsConnection} {id : UInt32} {data : Bytes}
    (h : c.addDataToStream id data = .ok c') :
    ∃ st, c.streams.get? id = some st ∧ st.sndData.length + data.length ≤ isizeMax ∧
      c' = { c with streams := c.streams.insert id { st with sndData := st.sndData ++ data } } := by
  unfold addDataToStream at h
  obtain ⟨st, hst, h⟩ := bind_eq_ok.mp h
  obtain ⟨st', hadd, h⟩ := bind_eq_ok.mp h
  obtain ⟨rfl, hlen⟩ := TcplsStream.addDataToSend_eq_ok hadd
  cases h
  cases hget : c.streams.get? id with
  | none =>
      rw [hget] at hst
      cases hst
  | some st₀ =>
      rw [hget] at hst
      cases hst
      exact ⟨st, rfl, hlen, rfl⟩

/-- The converse: a stream that is there, with room for the data, gets it. -/
theorem addDataToStream_of_get {c : TcplsConnection} {id : UInt32} {st : TcplsStream} {data : Bytes}
    (hst : c.streams.get? id = some st) (hlen : st.sndData.length + data.length ≤ isizeMax) :
    c.addDataToStream id data
      = .ok { c with streams := c.streams.insert id { st with sndData := st.sndData ++ data } } := by
  unfold addDataToStream TcplsStream.addDataToSend
  rw [hst, expect_some, ok_bind, extendFromSlice_eq_ok hlen]
  rfl

@[simp] theorem addAckFrame_streams (c : TcplsConnection) : c.addAckFrame.streams = c.streams := by
  unfold addAckFrame
  split <;> rfl

/-- `ctrl_buf` never reaches a whole record, whatever the number of ACKs. -/
theorem addAckFrame_ctrlBuf_length (c : TcplsConnection) (h : c.ctrlBuf.length < maxRecordSize) :
    c.addAckFrame.ctrlBuf.length < maxRecordSize := by
  unfold addAckFrame
  split
  · simp only [List.length_append, length_toBeBytes, List.length_singleton]
    omega
  · exact h

/-- An ACK frame is appended exactly when there is room for it. -/
theorem addAckFrame_ctrlBuf (c : TcplsConnection) (h : c.ctrlBuf.length + 13 < maxRecordSize) :
    c.addAckFrame.ctrlBuf = c.ctrlBuf ++ toBeBytes 8 c.internalHighestRecordSequence
      ++ toBeBytes 4 c.connId.toNat ++ [ackFrame] := by
  simp [addAckFrame, h]

end TcplsConnection

end TcplsBasics.Ports.Tcpls
