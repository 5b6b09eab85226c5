import TcplsBasics.Ports.RecordLayer

/-!
# The record deframer (`msgs/deframer.rs`)

`MessageDeframer` keeps what it has read from the peer in one buffer `buf`,
of which the first `used` bytes are live.  `pop` parses records from the
front of that region, opens each through the record layer, and returns
every record that is not a handshake record as it is.  Handshake records
are joined: their plaintexts are copied, in place, to the front of the
buffer (`joining_hs.payload`), over the records they came from
(`joining_hs.message`), until a whole handshake message
`[type: u8][length: u24][body]` is there; `pop` then returns one message at
a time, and discards the joined records after the last one.

The model follows the source function by function.  Slices, copies and the
`unwrap` panic out of range; `debug_assert!` panics as in a debug build.
`pop`'s loop runs on fuel `used + 1`; every round consumes at least one
record header, so the fuel never runs out (`Queue.popLoop_fuel` and
`pop_view` in `Deframer.Queue`).

## Main results

* `payloadSize_append_message`: the expected length of joined bytes that start
  with a whole handshake message is that message's length.
-/

namespace TcplsBasics.Ports.Msgs.Deframer

open TcplsBasics.Verified.Rust TcplsBasics.Verified.Codec
open TcplsBasics.Ports.Errors TcplsBasics.Ports.Msgs.Enums TcplsBasics.Ports.Msgs.Message
open TcplsBasics.Ports.RecordLayer

/-- `HEADER_SIZE` of a handshake message. -/
def headerSize : Nat := 1 + 3

/-- `MAX_HANDSHAKE_SIZE`. -/
def maxHandshakeSize : Nat := 0xffff

/-- `READ_SIZE`. -/
def readSize : Nat := 4096

/-- `Range<usize>`; `end` is a keyword here, so the upper bound is `stop`. -/
structure Range where
  start : Nat
  stop : Nat
deriving DecidableEq, Repr

/-- `ExactSizeIterator::len` of a range: empty when it does not go up. -/
def Range.len (r : Range) : Nat := r.stop - r.start

/-- `HandshakePayloadMeta`. -/
structure HandshakePayloadMeta where
  message : Range
  payload : Range
  version : Nat
  expectedLen : Option Nat
  quic : Bool
deriving DecidableEq, Repr

/-- `MessageDeframer`. -/
structure MessageDeframer where
  desynced : Bool
  buf : List UInt8
  joiningHs : Option HandshakePayloadMeta
  used : Nat
deriving DecidableEq, Repr

/-- `MessageDeframer::default`. -/
def MessageDeframer.default : MessageDeframer := ⟨false, [], none, 0⟩

/-- `HandshakePayloadState`. -/
inductive HandshakePayloadState where
  | blocked
  | complete (len : Nat)
  | «continue»
deriving DecidableEq, Repr

/-- `Deframed`. -/
structure Deframed where
  wantCloseBeforeDecrypt : Bool
  aligned : Bool
  trialDecryptionFinished : Bool
  message : PlainMessage
deriving DecidableEq, Repr

/-- How a round of `pop`'s loop leaves the loop: by `return`, or by `break`
with the length of the joined handshake message. -/
inductive Exit where
  | ret (r : Except Error (Option Deframed))
  | brk (len : Nat)
deriving DecidableEq, Repr

/-- The panic of `debug_assert!(!want_close_before_decrypt)`. -/
def wantCloseAssertion : Panic := ⟨"assertion failed: !want_close_before_decrypt"⟩

/-- The panic of `debug_assert_eq!(meta.quic, quic)`. -/
def quicAssertion : Panic := ⟨"assertion `left == right` failed"⟩

/-! ## Handshake message lengths -/

/-- `payload_size`: the length a handshake message announces, header included,
once its header is there. -/
def payloadSize (buf : List UInt8) : Except Error (Option Nat) :=
  if buf.length < headerSize then .ok none
  else
    match readUInt 3 ((buf.take headerSize).drop 1) with
    | some (len, _) =>
      if maxHandshakeSize < len then .error (.corruptMessagePayload .handshake)
      else .ok (some (headerSize + len))
    | none => .ok none

/-- A whole handshake message: a type, a 24-bit length and a body of that
length, no longer than `MAX_HANDSHAKE_SIZE`. -/
def HandshakeMessage (m : List UInt8) : Prop :=
  ∃ typ body, m = typ :: encodeUInt 3 body.length ++ body ∧ body.length ≤ maxHandshakeSize

/-- The length of what follows the header does not change once the header is there. -/
theorem payloadSize_append {b : List UInt8} (h : headerSize ≤ b.length) (c : List UInt8) :
    payloadSize (b ++ c) = payloadSize b := by
  have hc : headerSize ≤ (b ++ c).length := by simp; omega
  have htake : (b ++ c).take headerSize = b.take headerSize := List.take_append_of_le_length h
  simp only [payloadSize, Nat.not_lt.mpr h, Nat.not_lt.mpr hc, if_false, htake]

/-- Joined bytes that start with a whole message announce that message's length. -/
theorem payloadSize_append_message {m : List UInt8} (hm : HandshakeMessage m) (c : List UInt8) :
    payloadSize (m ++ c) = .ok (some m.length) := by
  obtain ⟨typ, body, rfl, hbody⟩ := hm
  have hlt : body.length < 256 ^ 3 := Nat.lt_of_le_of_lt hbody (by decide)
  have hread : readUInt 3 (encodeUInt 3 body.length) = some (body.length, []) := by
    simpa using readUInt_encodeUInt hlt []
  have hhead : ((typ :: encodeUInt 3 body.length ++ body ++ c).take headerSize).drop 1 =
      encodeUInt 3 body.length := by
    simp [headerSize]
  have hlen : headerSize ≤ (typ :: encodeUInt 3 body.length ++ body ++ c).length := by
    simp [headerSize]
  simp only [payloadSize, Nat.not_lt.mpr hlen, if_false, hhead, hread,
    Nat.not_lt.mpr hbody]
  simp [headerSize]
  omega

/-! ## The deframer -/

namespace HandshakePayloadMeta

/-- The guard `Some(len) if len <= meta.payload.len()`: the joined message is complete. -/
def completeLen (hs : HandshakePayloadMeta) : Option Nat :=
  match hs.expectedLen with
  | some len => if len ≤ hs.payload.len then some len else none
  | none => none

/-- The `HandshakePayloadState` that ends `append_hs`. -/
def payloadState (hs : HandshakePayloadMeta) (used : Nat) : HandshakePayloadState :=
  match hs.completeLen with
  | some len => .complete len
  | none => if hs.message.stop < used then .continue else .blocked

end HandshakePayloadMeta

namespace MessageDeframer

/-- `MessageDeframer::discard`: the bytes after `taken` move to the front. -/
def discard (d : MessageDeframer) (taken : Nat) : Except Panic MessageDeframer :=
  if taken < d.used then do
    let buf ← copyWithin d.buf taken d.used 0
    pure { d with buf, used := d.used - taken }
  else if taken = d.used then pure { d with used := 0 }
  else pure d

/-- The end of `append_hs`, on the joining state it has written. -/
def appendHsState (d : MessageDeframer) (hs : HandshakePayloadMeta) :
    Except Error HandshakePayloadState × MessageDeframer :=
  (.ok (hs.payloadState d.used), { d with joiningHs := some hs })

/-- `MessageDeframer::append_hs`: copy a handshake plaintext after the joined
bytes, or to the front of the buffer when no message is being joined. -/
def appendHs (d : MessageDeframer) (version : Nat) (payload : List UInt8) (stop : Nat)
    (quic : Bool) : Except Panic (Except Error HandshakePayloadState × MessageDeframer) :=
  match d.joiningHs with
  | some hs =>
    if hs.quic ≠ quic then .error quicAssertion
    else do
      let buf ← cloneFromSlice d.buf hs.payload.stop (hs.payload.stop + payload.length) payload
      let hs := { hs with
        message := { hs.message with stop := stop }
        payload := { hs.payload with stop := hs.payload.stop + payload.length } }
      let d := { d with buf }
      if hs.expectedLen = none then do
        let bytes ← slice d.buf hs.payload.start hs.payload.stop
        match payloadSize bytes with
        | .error e => pure (.error e, { d with joiningHs := some hs })
        | .ok expectedLen => pure (d.appendHsState { hs with expectedLen })
      else pure (d.appendHsState hs)
  | none =>
    match payloadSize payload with
    | .error e => pure (.error e, d)
    | .ok expectedLen => do
      let buf ← cloneFromSlice d.buf 0 payload.length payload
      pure ({ d with buf }.appendHsState ⟨⟨0, stop⟩, ⟨0, payload.length⟩, version, expectedLen, quic⟩)

/-- The last part of a round of `pop`'s loop: an opened record's plaintext. -/
def handlePlaintext (d : MessageDeframer) (rl : ReadRecordLayer) (stop : Nat) (msg : PlainMessage) :
    Except Panic (Option Exit × MessageDeframer × ReadRecordLayer) :=
  if d.joiningHs.isSome ∧ msg.typ ≠ .handshake then
    pure (some (.ret (.error (.peerMisbehaved .messageInterleavedWithHandshakeMessage))),
      { d with desynced := true }, rl)
  else if msg.typ ≠ .handshake then do
    let d ← d.discard stop
    pure (some (.ret (.ok (some ⟨false, true, false, msg⟩))), d, rl)
  else do
    let (r, d) ← d.appendHs msg.version msg.payload stop false
    match r with
    | .error e => pure (some (.ret (.error e)), d, rl)
    | .ok .blocked => pure (some (.ret (.ok none)), d, rl)
    | .ok (.complete len) => pure (some (.brk len), d, rl)
    | .ok .continue => pure (none, d, rl)

/-- A record read off the buffer, ending at `stop`: `ChangeCipherSpec` goes out
undecrypted, anything else through the record layer. -/
def handleRecord (dec : MessageDecrypter) (d : MessageDeframer) (rl : ReadRecordLayer)
    (stop : Nat) (m : OpaqueMessage) :
    Except Panic (Option Exit × MessageDeframer × ReadRecordLayer) :=
  if m.typ = .changeCipherSpec ∧ d.joiningHs.isNone then do
    let d ← d.discard stop
    pure (some (.ret (.ok (some ⟨false, true, false, m.intoPlainMessage⟩))), d, rl)
  else
    match rl.decryptIncoming dec m with
    | (.error e, rl) => pure (some (.ret (.error e)), d, rl)
    | (.ok none, rl) =>
      -- rejected early data, dropped; inside a join it is interleaved
      if d.joiningHs.isSome then
        pure (some (.ret (.error (.peerMisbehaved .rejectedEarlyDataInterleavedWithHandshakeMessage))),
          { d with desynced := true }, rl)
      else do
        let d ← d.discard stop
        pure (none, d, rl)
    | (.ok (some ⟨wantCloseBeforeDecrypt, plaintext⟩), rl) =>
      if wantCloseBeforeDecrypt then .error wantCloseAssertion
      else d.handlePlaintext rl stop plaintext

/-- Parse the next record from `buf[start..used]`. -/
def readRecord (dec : MessageDecrypter) (d : MessageDeframer) (rl : ReadRecordLayer) (start : Nat) :
    Except Panic (Option Exit × MessageDeframer × ReadRecordLayer) := do
  let window ← slice d.buf start d.used
  match OpaqueMessage.read window with
  | .error .tooShortForHeader => pure (some (.ret (.ok none)), d, rl)
  | .error .tooShortForLength => pure (some (.ret (.ok none)), d, rl)
  | .error _ => pure (some (.ret (.error .corruptMessage)), { d with desynced := true }, rl)
  | .ok (m, rest) => d.handleRecord dec rl (start + (window.length - rest.length)) m

/-- One round of `pop`'s loop; `none` is `continue`. -/
def popRound (dec : MessageDecrypter) (d : MessageDeframer) (rl : ReadRecordLayer) :
    Except Panic (Option Exit × MessageDeframer × ReadRecordLayer) :=
  match d.joiningHs with
  | some hs =>
    match hs.completeLen with
    | some len => pure (some (.brk len), d, rl)
    | none => if hs.quic then pure (some (.ret (.ok none)), d, rl)
      else d.readRecord dec rl hs.message.stop
  | none => d.readRecord dec rl 0

/-- `pop`'s loop, on fuel. -/
def popLoop (dec : MessageDecrypter) :
    Nat → MessageDeframer → ReadRecordLayer → Except Panic (Exit × MessageDeframer × ReadRecordLayer)
  | 0, d, rl => pure (.ret (.ok none), d, rl)
  | fuel + 1, d, rl => do
    let (exit, d, rl) ← d.popRound dec rl
    match exit with
    | none => popLoop dec fuel d rl
    | some exit => pure (exit, d, rl)

/-- What `pop` does after its loop breaks: return the joined message of
`expected_len` bytes, and either step past it or discard the joined records. -/
def takeJoined (d : MessageDeframer) (expectedLen : Nat) :
    Except Panic (Except Error (Option Deframed) × MessageDeframer) := do
  let hs ← expect d.joiningHs unwrapNone
  let payload ← slice d.buf hs.payload.start (hs.payload.start + expectedLen)
  let message : PlainMessage := ⟨.handshake, hs.version, payload⟩
  if expectedLen < hs.payload.len then do
    let hs := { hs with payload := { hs.payload with start := hs.payload.start + expectedLen } }
    let rest ← slice d.buf hs.payload.start hs.payload.stop
    match payloadSize rest with
    | .error e => pure (.error e, { d with joiningHs := some hs })
    | .ok expectedLen =>
      pure (.ok (some ⟨false, false, true, message⟩), { d with joiningHs := some { hs with expectedLen } })
  else do
    let d ← { d with joiningHs := none }.discard hs.message.stop
    pure (.ok (some ⟨false, true, true, message⟩), d)

/-- `MessageDeframer::pop`. -/
def pop (dec : MessageDecrypter) (d : MessageDeframer) (rl : ReadRecordLayer) :
    Except Panic (Except Error (Option Deframed) × MessageDeframer × ReadRecordLayer) :=
  if d.desynced then pure (.error .corruptMessage, d, rl)
  else if d.used = 0 then pure (.ok none, d, rl)
  else do
    let (exit, d, rl) ← d.popLoop dec (d.used + 1) rl
    match exit with
    | .ret r => pure (r, d, rl)
    | .brk len => do
      let (r, d) ← d.takeJoined len
      pure (r, d, rl)

/-- `MessageDeframer::prepare_read`: grow the buffer for a read of up to
`READ_SIZE` bytes, or shrink it once a large message is gone. -/
def prepareRead (d : MessageDeframer) : Except String MessageDeframer :=
  let allowMax := match d.joiningHs with
    | some _ => maxHandshakeSize
    | none => OpaqueMessage.maxWireSize
  if allowMax ≤ d.used then .error "message buffer full"
  else
    let needCapacity := min allowMax (d.used + readSize)
    if d.buf.length < needCapacity then .ok { d with buf := resize d.buf needCapacity 0 }
    else if d.used = 0 ∨ allowMax < d.buf.length then .ok { d with buf := resize d.buf needCapacity 0 }
    else .ok d

/-- `MessageDeframer::read`: the reader hands over as many bytes of `incoming`
as fit after `used`. -/
def read (d : MessageDeframer) (incoming : List UInt8) :
    Except Panic (Except String (Nat × MessageDeframer)) :=
  match d.prepareRead with
  | .error err => pure (.error err)
  | .ok d => do
    let room ← sliceFrom d.buf d.used
    let newBytes := min incoming.length room.length
    let buf ← cloneFromSlice d.buf d.used (d.used + newBytes) (incoming.take newBytes)
    pure (.ok (newBytes, { d with buf, used := d.used + newBytes }))

/-- `MessageDeframer::push`: a QUIC handshake payload, joined directly. -/
def push (d : MessageDeframer) (version : Nat) (payload : List UInt8) :
    Except Panic (Except Error Unit × MessageDeframer) :=
  if 0 < d.used ∧ d.joiningHs.isNone then
    pure (.error (.general "cannot push QUIC messages into unrelated connection"), d)
  else
    match d.prepareRead with
    | .error err => pure (.error (.general err), d)
    | .ok d => do
      let stop := d.used + payload.length
      let (r, d) ← d.appendHs version payload stop true
      match r with
      | .error e => pure (.error e, d)
      | .ok _ => pure (.ok (), { d with used := stop })

/-- `MessageDeframer::has_pending`. -/
def hasPending (d : MessageDeframer) : Bool := 0 < d.used

end MessageDeframer

end TcplsBasics.Ports.Msgs.Deframer
