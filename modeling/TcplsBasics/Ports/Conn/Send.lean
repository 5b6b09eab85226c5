import TcplsBasics.Ports.Msgs.Message
import TcplsBasics.Ports.VecBuf

/-!
# Sending application data (`conn.rs`, `record_layer.rs`, `client/client_conn.rs`)

The plaintext writer of a connection (`Writer::write`, `write_vectored`,
`WriteEarlyData`) ends in `CommonState::send_plain`.  Before the handshake
completes the bytes are buffered in `sendable_plaintext`, a prefix of them
if the buffer limit bites, and `start_outgoing_traffic` later sends that
buffer.  After it, `send_appdata_encrypt` fragments the data, encrypts each
fragment with the next sequence number and queues the record in
`sendable_tls`; with `Limit::Yes` it reports `sendable_tls.apply_limit(len)`
bytes as accepted.

What the model observes is `encrypted`, which is not a field of the source:
the records handed to the encrypter, oldest first.  `appData` is the
application data among them.

The accepted length and the encrypted bytes come from different places:
`apply_limit` bounds what is reported, while the fragmenter is given the
whole payload.  After the handshake every byte written is encrypted and
queued whatever is reported (`sendSomePlaintext_encrypts_all`), so a writer
that retries the unaccepted tail sends it twice.  Before the handshake the
reported prefix is exactly what is buffered and later sent
(`sendSomePlaintext_buffers`, `startOutgoingTraffic_appData`).

## Main results

* `sendFragments_seals`: a run of fragments through the record layer.
* `sendSomePlaintext_encrypts_all`: after the handshake, all of `buf` is encrypted.
* `sendSomePlaintext_buffers`, `startOutgoingTraffic_appData`: before it, the
  accepted prefix is buffered and then sent.
-/

namespace TcplsBasics.Ports.Conn.Send

open TcplsBasics.Verified.Rust TcplsBasics.Ports.Errors TcplsBasics.Ports.VecBuf
open TcplsBasics.Ports.Msgs.Handshake TcplsBasics.Ports.Msgs.Message

/-! ## The record layer -/

/-- `SEQ_SOFT_LIMIT`. -/
def seqSoftLimit : Nat := 0xffff_ffff_ffff_0000

/-- `SEQ_HARD_LIMIT`. -/
def seqHardLimit : Nat := 0xffff_ffff_ffff_fffe

/-- The sending half of `RecordLayer`: the next sequence number, and whether
`encrypt_state` is `Active`. -/
structure RecordLayer where
  writeSeq : Nat
  isEncrypting : Bool
deriving DecidableEq, Repr

namespace RecordLayer

/-- `RecordLayer::wants_close_before_encrypt`. -/
def wantsCloseBeforeEncrypt (rl : RecordLayer) : Bool := rl.writeSeq = seqSoftLimit

/-- `RecordLayer::encrypt_exhausted`. -/
def encryptExhausted (rl : RecordLayer) : Bool := seqHardLimit ≤ rl.writeSeq

/-- `RecordLayer::encrypt_outgoing`: the encrypter's error is unwrapped. -/
def encryptOutgoing (enc : MessageEncrypter) (rl : RecordLayer) (plain : BorrowedPlainMessage) :
    Except Panic (OpaqueMessage × RecordLayer) :=
  if !rl.isEncrypting then .error ⟨"assertion failed: self.encrypt_state == DirectionState::Active"⟩
  else if rl.encryptExhausted then .error ⟨"assertion failed: !self.encrypt_exhausted()"⟩
  else do
    let em ← expectOk (enc plain rl.writeSeq) "called `Result::unwrap()` on an `Err` value"
    pure (em, { rl with writeSeq := rl.writeSeq + 1 })

end RecordLayer

/-! ## The sending state of `CommonState` -/

/-- `DEFAULT_BUFFER_LIMIT`. -/
def defaultBufferLimit : Nat := 64 * 1024

/-- The fields of `CommonState` the send path reads or writes, and the
record of what it encrypted. -/
structure CommonState where
  recordLayer : RecordLayer
  messageFragmenter : MessageFragmenter
  maySendApplicationData : Bool
  earlyTraffic : Bool
  sendablePlaintext : ChunkVecBuffer
  sendableTls : ChunkVecBuffer
  queuedKeyUpdateMessage : Option (List UInt8)
  /-- Not a field of the source: the records handed to the encrypter, oldest first. -/
  encrypted : List BorrowedPlainMessage

/-- The send path of `CommonState::new`. -/
def CommonState.new : CommonState :=
  ⟨⟨0, false⟩, .default, false, false, .new (some defaultBufferLimit), .new (some defaultBufferLimit),
    none, []⟩

/-- The application data among records, in order. -/
def appDataOf (ms : List BorrowedPlainMessage) : List UInt8 :=
  (ms.filter fun m => m.typ = .applicationData).flatMap PlainMessage.payload

/-- The application data encrypted so far, in order. -/
def appData (st : CommonState) : List UInt8 := appDataOf st.encrypted

/-- `Limit`. -/
inductive Limit where
  | yes
  | no
deriving DecidableEq, Repr

/-- The panic of a recursion that never returns. -/
def stackOverflow : Panic := ⟨"thread has overflowed its stack"⟩

/-- `CommonState::queue_tls_message`. -/
def queueTlsMessage (st : CommonState) (m : OpaqueMessage) : CommonState :=
  { st with sendableTls := (st.sendableTls.append m.encode).2 }

/-- `CommonState::send_single_fragment`.  At the soft limit
`send_close_notify` sends its alert through this same function, which sees
the same sequence number and sends the alert again: it never returns. -/
def sendSingleFragment (enc : MessageEncrypter) (st : CommonState) (m : BorrowedPlainMessage) :
    Except Panic CommonState :=
  if st.recordLayer.wantsCloseBeforeEncrypt then .error stackOverflow
  else if st.recordLayer.encryptExhausted then .ok st
  else do
    let (em, rl) ← st.recordLayer.encryptOutgoing enc m
    pure { queueTlsMessage { st with recordLayer := rl } em with encrypted := st.encrypted ++ [m] }

/-- `for m in iter { self.send_single_fragment(m) }`. -/
def sendFragments (enc : MessageEncrypter) :
    CommonState → List BorrowedPlainMessage → Except Panic CommonState
  | st, [] => .ok st
  | st, m :: ms => do
    let st ← sendSingleFragment enc st m
    sendFragments enc st ms

/-- `CommonState::send_msg_encrypt`. -/
def sendMsgEncrypt (enc : MessageEncrypter) (st : CommonState) (m : PlainMessage) :
    Except Panic CommonState :=
  sendFragments enc st (st.messageFragmenter.fragmentMessage m)

/-- The length `send_appdata_encrypt` reports: `apply_limit` under `Limit::Yes`. -/
def limitedLength (b : ChunkVecBuffer) (limit : Limit) (len : Nat) : Nat :=
  match limit with
  | .yes => b.applyLimit len
  | .no => len

/-- `CommonState::send_appdata_encrypt`. -/
def sendAppdataEncrypt (enc : MessageEncrypter) (st : CommonState) (payload : List UInt8)
    (limit : Limit) : Except Panic (Nat × CommonState) := do
  let len := limitedLength st.sendableTls limit payload.length
  -- the whole payload is fragmented, not its first `len` bytes
  let st ← sendFragments enc st
    (st.messageFragmenter.fragmentSlice .applicationData ProtocolVersion.tlsv1_2 payload)
  pure (len, st)

/-- `CommonState::send_plain`. -/
def sendPlain (enc : MessageEncrypter) (st : CommonState) (data : List UInt8) (limit : Limit) :
    Except Panic (Nat × CommonState) :=
  if !st.maySendApplicationData then
    let (len, buf) :=
      match limit with
      | .yes => st.sendablePlaintext.appendLimitedCopy data
      | .no => st.sendablePlaintext.append data
    .ok (len, { st with sendablePlaintext := buf })
  else if !st.recordLayer.isEncrypting then
    .error ⟨"assertion failed: self.record_layer.is_encrypting()"⟩
  else if data = [] then .ok (0, st)
  else sendAppdataEncrypt enc st data limit

/-- `CommonState::perhaps_write_key_update`. -/
def perhapsWriteKeyUpdate (st : CommonState) : CommonState :=
  match st.queuedKeyUpdateMessage with
  | some message =>
    { st with queuedKeyUpdateMessage := none, sendableTls := (st.sendableTls.append message).2 }
  | none => st

/-- `ConnectionCommon::send_some_plaintext`, which `Writer::write` calls. -/
def sendSomePlaintext (enc : MessageEncrypter) (st : CommonState) (buf : List UInt8) :
    Except Panic (Nat × CommonState) :=
  sendPlain enc (perhapsWriteKeyUpdate st) buf .yes

/-- `PlaintextSink::write_vectored`. -/
def writeVectored (enc : MessageEncrypter) :
    CommonState → List (List UInt8) → Except Panic (Nat × CommonState)
  | st, [] => .ok (0, st)
  | st, buf :: bufs => do
    let (n, st) ← sendSomePlaintext enc st buf
    let (m, st) ← writeVectored enc st bufs
    pure (n + m, st)

/-- A run of `Writer::write` calls, with what each returned. -/
def writeAll (enc : MessageEncrypter) :
    CommonState → List (List UInt8) → Except Panic (List Nat × CommonState)
  | st, [] => .ok ([], st)
  | st, buf :: bufs => do
    let (n, st) ← sendSomePlaintext enc st buf
    let (ns, st) ← writeAll enc st bufs
    pure (n :: ns, st)

/-- `CommonState::write_tls`, to a writer that takes `accepts` bytes. -/
def writeTls (st : CommonState) (accepts : Nat) : Nat × CommonState :=
  let (used, buf) := st.sendableTls.writeTo accepts
  (used, { st with sendableTls := buf })

/-- `CommonState::set_buffer_limit`. -/
def setBufferLimit (st : CommonState) (limit : Option Nat) : CommonState :=
  { st with sendablePlaintext := st.sendablePlaintext.setLimit limit,
            sendableTls := st.sendableTls.setLimit limit }

/-- The loop of `flush_plaintext` over the popped chunks. -/
def flushChunks (enc : MessageEncrypter) : CommonState → List (List UInt8) → Except Panic CommonState
  | st, [] => .ok st
  | st, buf :: bufs => do
    let (_, st) ← sendPlain enc st buf .no
    flushChunks enc st bufs

/-- `CommonState::flush_plaintext`.  The loop pops one chunk at a time; once
application data may be sent `send_plain` does not touch
`sendable_plaintext`, so popping every chunk first sends the same records. -/
def flushPlaintext (enc : MessageEncrypter) (st : CommonState) : Except Panic CommonState :=
  if !st.maySendApplicationData then .ok st
  else
    flushChunks enc { st with sendablePlaintext := { st.sendablePlaintext with chunks := [] } }
      st.sendablePlaintext.chunks

/-- `CommonState::start_outgoing_traffic`. -/
def startOutgoingTraffic (enc : MessageEncrypter) (st : CommonState) : Except Panic CommonState :=
  flushPlaintext enc { st with maySendApplicationData := true }

/-! ## Early data -/

/-- `EarlyDataState`. -/
inductive EarlyDataState where
  | disabled
  | ready
  | accepted
  | acceptedFinished
  | rejected
deriving DecidableEq, Repr

/-- The client's `EarlyData`. -/
structure EarlyData where
  state : EarlyDataState
  left : Nat
deriving DecidableEq, Repr

/-- `EarlyData::check_write`; `none` is the `InvalidInput` error. -/
def EarlyData.checkWrite (ed : EarlyData) (sz : Nat) : Except Panic (Option (Nat × EarlyData)) :=
  match ed.state with
  | .disabled => .error ⟨"internal error: entered unreachable code"⟩
  | .ready | .accepted =>
    if ed.left < sz then .ok (some (ed.left, { ed with left := 0 }))
    else .ok (some (sz, { ed with left := ed.left - sz }))
  | .rejected | .acceptedFinished => .ok none

/-- `CommonState::send_early_plaintext`. -/
def sendEarlyPlaintext (enc : MessageEncrypter) (st : CommonState) (data : List UInt8) :
    Except Panic (Nat × CommonState) :=
  if !st.earlyTraffic then .error ⟨"assertion failed: self.early_traffic"⟩
  else if !st.recordLayer.isEncrypting then
    .error ⟨"assertion failed: self.record_layer.is_encrypting()"⟩
  else if data = [] then .ok (0, st)
  else sendAppdataEncrypt enc st data .yes

/-- `ClientConnection::write_early_data`; `none` is the `InvalidInput` error. -/
def writeEarlyData (enc : MessageEncrypter) (ed : EarlyData) (st : CommonState)
    (data : List UInt8) : Except Panic (Option (Nat × EarlyData × CommonState)) := do
  match ← ed.checkWrite data.length with
  | none => pure none
  | some (sz, ed) =>
    let (n, st) ← sendEarlyPlaintext enc st (data.take sz)
    pure (some (n, ed, st))

/-! ## What the record layer does to the state -/

/-- The encrypter never fails. -/
def Total (enc : MessageEncrypter) : Prop := ∀ m seq, ∃ em, enc m seq = .ok em

/-- `st'` is `st` once the record layer has encrypted and queued `ms`: only
the sequence number, the queued records and `encrypted` change. -/
def Seals (st st' : CommonState) (ms : List BorrowedPlainMessage) : Prop :=
  ∃ tls : ChunkVecBuffer, st' =
    { st with recordLayer := { st.recordLayer with writeSeq := st.recordLayer.writeSeq + ms.length },
              sendableTls := tls, encrypted := st.encrypted ++ ms }

@[simp] theorem appDataOf_nil : appDataOf [] = [] := rfl

@[simp] theorem appDataOf_append (ms ms' : List BorrowedPlainMessage) :
    appDataOf (ms ++ ms') = appDataOf ms ++ appDataOf ms' := by
  simp [appDataOf, List.filter_append]

/-- Application-data fragments carry exactly their payload. -/
@[simp] theorem appDataOf_fragmentSlice (f : MessageFragmenter) (version : Nat)
    (payload : List UInt8) :
    appDataOf (f.fragmentSlice .applicationData version payload) = payload := by
  have hall : (f.fragmentSlice .applicationData version payload).filter
      (fun m => m.typ = .applicationData) = f.fragmentSlice .applicationData version payload :=
    List.filter_eq_self.mpr fun m hm => by
      simp [MessageFragmenter.typ_of_mem_fragmentSlice hm]
  rw [appDataOf, hall, List.flatMap_def, MessageFragmenter.flatten_fragmentSlice]

namespace Seals

variable {st st₁ st₂ : CommonState} {ms ms₁ ms₂ : List BorrowedPlainMessage}

theorem refl (st : CommonState) : Seals st st [] :=
  ⟨st.sendableTls, by cases st; simp⟩

theorem trans (h₁ : Seals st st₁ ms₁) (h₂ : Seals st₁ st₂ ms₂) : Seals st st₂ (ms₁ ++ ms₂) := by
  obtain ⟨tls₁, rfl⟩ := h₁
  obtain ⟨tls₂, rfl⟩ := h₂
  exact ⟨tls₂, by simp [Nat.add_assoc]⟩

theorem writeSeq (h : Seals st st' ms) :
    st'.recordLayer.writeSeq = st.recordLayer.writeSeq + ms.length := by
  obtain ⟨tls, rfl⟩ := h
  rfl

theorem isEncrypting (h : Seals st st' ms) :
    st'.recordLayer.isEncrypting = st.recordLayer.isEncrypting := by
  obtain ⟨tls, rfl⟩ := h
  rfl

theorem maySendApplicationData (h : Seals st st' ms) :
    st'.maySendApplicationData = st.maySendApplicationData := by
  obtain ⟨tls, rfl⟩ := h
  rfl

theorem appData (h : Seals st st' ms) : Send.appData st' = Send.appData st ++ appDataOf ms := by
  obtain ⟨tls, rfl⟩ := h
  simp [Send.appData]

theorem queuedKeyUpdateMessage (h : Seals st st' ms) :
    st'.queuedKeyUpdateMessage = st.queuedKeyUpdateMessage := by
  obtain ⟨tls, rfl⟩ := h
  rfl

end Seals

section Sealing

variable {enc : MessageEncrypter} {st : CommonState}

theorem sendSingleFragment_seals (henc : Total enc) (hencr : st.recordLayer.isEncrypting = true)
    (hseq : st.recordLayer.writeSeq < seqSoftLimit) (m : BorrowedPlainMessage) :
    ∃ st', sendSingleFragment enc st m = .ok st' ∧ Seals st st' [m] := by
  obtain ⟨em, hem⟩ := henc m st.recordLayer.writeSeq
  have hclose : st.recordLayer.wantsCloseBeforeEncrypt = false := by
    simp [RecordLayer.wantsCloseBeforeEncrypt, Nat.ne_of_lt hseq]
  have hexhausted : st.recordLayer.encryptExhausted = false := by
    simp only [RecordLayer.encryptExhausted, decide_eq_false_iff_not, Nat.not_le]
    exact Nat.lt_trans hseq (by decide)
  refine ⟨_, ?_, (st.sendableTls.append em.encode).2, rfl⟩
  simp only [sendSingleFragment, hclose, hexhausted, Bool.false_eq_true, if_false,
    RecordLayer.encryptOutgoing, hencr, Bool.not_true, hem, expectOk_ok, ok_bind]
  rfl

/-- Below the soft limit, every fragment is encrypted and queued, in order. -/
theorem sendFragments_seals (henc : Total enc) :
    ∀ (ms : List BorrowedPlainMessage) (st : CommonState), st.recordLayer.isEncrypting = true →
      st.recordLayer.writeSeq + ms.length ≤ seqSoftLimit →
      ∃ st', sendFragments enc st ms = .ok st' ∧ Seals st st' ms
  | [], st, _, _ => ⟨st, rfl, Seals.refl st⟩
  | m :: ms, st, hencr, hseq => by
    have hlt : st.recordLayer.writeSeq < seqSoftLimit := by
      simp only [List.length_cons] at hseq
      omega
    obtain ⟨st₁, h₁, hseals₁⟩ := sendSingleFragment_seals henc hencr hlt m
    have hseq₁ : st₁.recordLayer.writeSeq + ms.length ≤ seqSoftLimit := by
      rw [hseals₁.writeSeq]
      simp only [List.length_cons, List.length_nil] at hseq ⊢
      omega
    obtain ⟨st₂, h₂, hseals₂⟩ :=
      sendFragments_seals henc ms st₁ (hseals₁.isEncrypting.trans hencr) hseq₁
    refine ⟨st₂, ?_, hseals₁.trans hseals₂⟩
    simp [sendFragments, h₁, h₂]

/-- `send_appdata_encrypt` reports the limited length and encrypts every fragment. -/
theorem sendAppdataEncrypt_seals (henc : Total enc) (hencr : st.recordLayer.isEncrypting = true)
    {payload : List UInt8} (hseq : st.recordLayer.writeSeq + payload.length ≤ seqSoftLimit)
    (limit : Limit) :
    ∃ st', sendAppdataEncrypt enc st payload limit =
        .ok (limitedLength st.sendableTls limit payload.length, st') ∧
      Seals st st' (st.messageFragmenter.fragmentSlice .applicationData ProtocolVersion.tlsv1_2 payload) := by
  have hfrag := MessageFragmenter.length_fragmentSlice_le st.messageFragmenter .applicationData
    ProtocolVersion.tlsv1_2 payload
  obtain ⟨st', h, hseals⟩ := sendFragments_seals henc
    (st.messageFragmenter.fragmentSlice .applicationData ProtocolVersion.tlsv1_2 payload) st hencr
    (by omega)
  exact ⟨st', by simp [sendAppdataEncrypt, h], hseals⟩

/-- Once application data may be sent, `send_plain` reports the limited
length and encrypts all of `data`. -/
theorem sendPlain_seals (henc : Total enc) (hmay : st.maySendApplicationData = true)
    (hencr : st.recordLayer.isEncrypting = true) {data : List UInt8}
    (hseq : st.recordLayer.writeSeq + data.length ≤ seqSoftLimit) (limit : Limit) :
    ∃ st', sendPlain enc st data limit = .ok (limitedLength st.sendableTls limit data.length, st') ∧
      ∃ ms, Seals st st' ms ∧ ms.length ≤ data.length ∧ appDataOf ms = data := by
  by_cases hdata : data = []
  · subst hdata
    refine ⟨st, ?_, [], Seals.refl st, Nat.le_refl _, rfl⟩
    cases limit <;> simp [sendPlain, hmay, hencr, limitedLength]
  · obtain ⟨st', h, hseals⟩ := sendAppdataEncrypt_seals henc hencr hseq limit
    refine ⟨st', by simp [sendPlain, hmay, hencr, hdata, h], _, hseals,
      MessageFragmenter.length_fragmentSlice_le _ _ _ _, appDataOf_fragmentSlice _ _ _⟩

@[simp] theorem perhapsWriteKeyUpdate_recordLayer (st : CommonState) :
    (perhapsWriteKeyUpdate st).recordLayer = st.recordLayer := by
  unfold perhapsWriteKeyUpdate
  split <;> rfl

@[simp] theorem perhapsWriteKeyUpdate_maySendApplicationData (st : CommonState) :
    (perhapsWriteKeyUpdate st).maySendApplicationData = st.maySendApplicationData := by
  unfold perhapsWriteKeyUpdate
  split <;> rfl

@[simp] theorem perhapsWriteKeyUpdate_encrypted (st : CommonState) :
    (perhapsWriteKeyUpdate st).encrypted = st.encrypted := by
  unfold perhapsWriteKeyUpdate
  split <;> rfl

@[simp] theorem perhapsWriteKeyUpdate_sendablePlaintext (st : CommonState) :
    (perhapsWriteKeyUpdate st).sendablePlaintext = st.sendablePlaintext := by
  unfold perhapsWriteKeyUpdate
  split <;> rfl

/-- After the handshake, `send_some_plaintext` reports the limited length
but encrypts the whole of `buf`. -/
theorem sendSomePlaintext_encrypts_all (henc : Total enc) (hmay : st.maySendApplicationData = true)
    (hencr : st.recordLayer.isEncrypting = true) {buf : List UInt8}
    (hseq : st.recordLayer.writeSeq + buf.length ≤ seqSoftLimit) :
    ∃ st', sendSomePlaintext enc st buf =
        .ok ((perhapsWriteKeyUpdate st).sendableTls.applyLimit buf.length, st') ∧
      ∃ ms, Seals (perhapsWriteKeyUpdate st) st' ms ∧ ms.length ≤ buf.length ∧ appDataOf ms = buf :=
  sendPlain_seals henc (by simpa using hmay) (by simpa using hencr) (by simpa using hseq) .yes

/-- Before the handshake, `send_some_plaintext` buffers exactly the prefix it
reports as accepted, and encrypts nothing. -/
theorem sendSomePlaintext_buffers (hmay : st.maySendApplicationData = false) (buf : List UInt8) :
    ∃ st', sendSomePlaintext enc st buf = .ok (st.sendablePlaintext.applyLimit buf.length, st') ∧
      st'.sendablePlaintext.bytes =
        st.sendablePlaintext.bytes ++ buf.take (st.sendablePlaintext.applyLimit buf.length) ∧
      st'.encrypted = st.encrypted ∧ st'.maySendApplicationData = false ∧
      st'.recordLayer = st.recordLayer := by
  refine ⟨{ perhapsWriteKeyUpdate st with
    sendablePlaintext := (st.sendablePlaintext.appendLimitedCopy buf).2 }, ?_, ?_⟩
  · simp [sendSomePlaintext, sendPlain, hmay]
  · simp [hmay]

/-- Flushing chunks once data may be sent seals each of them whole, in order,
in no more records than bytes. -/
theorem flushChunks_seals (henc : Total enc) :
    ∀ (chunks : List (List UInt8)) (st : CommonState), st.maySendApplicationData = true →
      st.recordLayer.isEncrypting = true →
      st.recordLayer.writeSeq + chunks.flatten.length ≤ seqSoftLimit →
      ∃ st', flushChunks enc st chunks = .ok st' ∧
        ∃ ms, Seals st st' ms ∧ ms.length ≤ chunks.flatten.length ∧ appDataOf ms = chunks.flatten
  | [], st, _, _, _ => ⟨st, rfl, [], Seals.refl st, Nat.le_refl _, rfl⟩
  | c :: cs, st, hmay, hencr, hseq => by
    simp only [List.flatten_cons, List.length_append] at hseq
    obtain ⟨st₁, h₁, ms₁, hseals₁, hlen₁, hdata₁⟩ := sendPlain_seals henc hmay hencr
      (show st.recordLayer.writeSeq + c.length ≤ seqSoftLimit by omega) .no
    have hseq₁ : st₁.recordLayer.writeSeq + cs.flatten.length ≤ seqSoftLimit := by
      rw [hseals₁.writeSeq]
      omega
    obtain ⟨st₂, h₂, ms₂, hseals₂, hlen₂, hdata₂⟩ := flushChunks_seals henc cs st₁
      (hseals₁.maySendApplicationData.trans hmay) (hseals₁.isEncrypting.trans hencr) hseq₁
    refine ⟨st₂, by simp [flushChunks, h₁, h₂], ms₁ ++ ms₂, hseals₁.trans hseals₂, ?_, ?_⟩
    · simp only [List.length_append, List.flatten_cons]
      omega
    · rw [appDataOf_append, hdata₁, hdata₂, List.flatten_cons]

/-- `start_outgoing_traffic` seals exactly the buffered plaintext, in no more
records than bytes, after letting application data flow and emptying the buffer. -/
theorem startOutgoingTraffic_seals (henc : Total enc) (hencr : st.recordLayer.isEncrypting = true)
    (hseq : st.recordLayer.writeSeq + st.sendablePlaintext.bytes.length ≤ seqSoftLimit) :
    ∃ st', startOutgoingTraffic enc st = .ok st' ∧
      ∃ ms, Seals
          { st with
            maySendApplicationData := true
            sendablePlaintext := { st.sendablePlaintext with chunks := [] } } st' ms ∧
        ms.length ≤ st.sendablePlaintext.bytes.length ∧ appDataOf ms = st.sendablePlaintext.bytes := by
  obtain ⟨st', h, hseals⟩ := flushChunks_seals henc st.sendablePlaintext.chunks
    { st with maySendApplicationData := true, sendablePlaintext := { st.sendablePlaintext with chunks := [] } }
    rfl hencr hseq
  exact ⟨st', by simpa [startOutgoingTraffic, flushPlaintext] using h, hseals⟩

/-- `start_outgoing_traffic` encrypts exactly the buffered plaintext. -/
theorem startOutgoingTraffic_appData (henc : Total enc) (hencr : st.recordLayer.isEncrypting = true)
    (hseq : st.recordLayer.writeSeq + st.sendablePlaintext.bytes.length ≤ seqSoftLimit) :
    ∃ st', startOutgoingTraffic enc st = .ok st' ∧
      appData st' = appData st ++ st.sendablePlaintext.bytes := by
  obtain ⟨st', h, ms, hseals, -, hdata⟩ := startOutgoingTraffic_seals henc hencr hseq
  refine ⟨st', h, ?_⟩
  rw [hseals.appData, hdata]
  rfl

/-- After the handshake a run of writes encrypts every byte written, in
order, whatever each write reports: the reports are only bounds. -/
theorem writeAll_encrypts_all (henc : Total enc) :
    ∀ (bufs : List (List UInt8)) (st : CommonState), st.maySendApplicationData = true →
      st.recordLayer.isEncrypting = true →
      st.recordLayer.writeSeq + bufs.flatten.length ≤ seqSoftLimit →
      ∃ ns st', writeAll enc st bufs = .ok (ns, st') ∧
        List.Forall₂ (fun n buf => n ≤ buf.length) ns bufs ∧
        appData st' = appData st ++ bufs.flatten
  | [], st, _, _, _ => ⟨[], st, rfl, .nil, by simp⟩
  | buf :: bufs, st, hmay, hencr, hseq => by
    simp only [List.flatten_cons, List.length_append] at hseq
    obtain ⟨st₁, h₁, ms, hseals, hlen, hdata⟩ :=
      sendSomePlaintext_encrypts_all henc hmay hencr
        (show st.recordLayer.writeSeq + buf.length ≤ seqSoftLimit by omega)
    have hseq₁ : st₁.recordLayer.writeSeq + bufs.flatten.length ≤ seqSoftLimit := by
      rw [hseals.writeSeq, perhapsWriteKeyUpdate_recordLayer]
      omega
    obtain ⟨ns, st₂, h₂, hns, happ⟩ := writeAll_encrypts_all henc bufs st₁
      (by rw [hseals.maySendApplicationData]; simpa using hmay)
      (by rw [hseals.isEncrypting]; simpa using hencr) hseq₁
    refine ⟨(perhapsWriteKeyUpdate st).sendableTls.applyLimit buf.length :: ns, st₂,
      by simp [writeAll, h₁, h₂], .cons (ChunkVecBuffer.applyLimit_le _ _) hns, ?_⟩
    rw [happ, hseals.appData, hdata, List.flatten_cons, ← List.append_assoc]
    simp [appData]

/-- Before the handshake a run of writes buffers exactly the prefix each
write reports, and encrypts nothing. -/
theorem writeAll_buffers :
    ∀ (bufs : List (List UInt8)) (st : CommonState), st.maySendApplicationData = false →
      ∃ ns st', writeAll enc st bufs = .ok (ns, st') ∧
        st'.sendablePlaintext.bytes =
          st.sendablePlaintext.bytes ++ (List.zipWith (fun buf n => buf.take n) bufs ns).flatten ∧
        st'.encrypted = st.encrypted ∧ st'.maySendApplicationData = false ∧
        st'.recordLayer = st.recordLayer
  | [], st, _ => ⟨[], st, rfl, by simp, rfl, ‹_›, rfl⟩
  | buf :: bufs, st, hmay => by
    obtain ⟨st₁, h₁, hbytes₁, henc₁, hmay₁, hrl₁⟩ := @sendSomePlaintext_buffers enc st hmay buf
    obtain ⟨ns, st₂, h₂, hbytes₂, henc₂, hmay₂, hrl₂⟩ := writeAll_buffers bufs st₁ hmay₁
    refine ⟨st.sendablePlaintext.applyLimit buf.length :: ns, st₂, by simp [writeAll, h₁, h₂], ?_,
      henc₂.trans henc₁, hmay₂, hrl₂.trans hrl₁⟩
    rw [hbytes₂, hbytes₁, List.zipWith_cons_cons, List.flatten_cons, List.append_assoc]

/-- Prefixes of the items are no longer than the items. -/
theorem length_flatten_zipWith_take_le :
    ∀ (bufs : List (List UInt8)) (ns : List Nat),
      (List.zipWith (fun buf n => buf.take n) bufs ns).flatten.length ≤ bufs.flatten.length
  | [], _ => by simp
  | _ :: _, [] => by simp
  | buf :: bufs, n :: ns => by
    have ih := length_flatten_zipWith_take_le bufs ns
    simp only [List.zipWith_cons_cons, List.flatten_cons, List.length_append, List.length_take]
    omega

/-- Writes before the handshake, then `start_outgoing_traffic`: each write
buffers exactly the prefix it reports and encrypts nothing, and the data
`start_outgoing_traffic` then encrypts is what was buffered before and exactly
those prefixes, in order. -/
theorem writeAll_startOutgoingTraffic (henc : Total enc) {bufs : List (List UInt8)}
    (hmay : st.maySendApplicationData = false) (hencr : st.recordLayer.isEncrypting = true)
    (hseq : st.recordLayer.writeSeq + st.sendablePlaintext.bytes.length + bufs.flatten.length ≤
      seqSoftLimit) :
    ∃ ns st₁ st₂, writeAll enc st bufs = .ok (ns, st₁) ∧
      st₁.sendablePlaintext.bytes =
        st.sendablePlaintext.bytes ++ (List.zipWith (fun buf n => buf.take n) bufs ns).flatten ∧
      st₁.encrypted = st.encrypted ∧ st₁.recordLayer = st.recordLayer ∧
      startOutgoingTraffic enc st₁ = .ok st₂ ∧
      appData st₂ = appData st ++ st.sendablePlaintext.bytes ++
        (List.zipWith (fun buf n => buf.take n) bufs ns).flatten := by
  obtain ⟨ns, st₁, h₁, hbytes, henc₁, -, hrl⟩ := @writeAll_buffers enc bufs st hmay
  have hprefix := length_flatten_zipWith_take_le bufs ns
  obtain ⟨st₂, h₂, happ⟩ := @startOutgoingTraffic_appData enc st₁ henc (by rw [hrl]; exact hencr)
    (by rw [hrl, hbytes, List.length_append]; omega)
  refine ⟨ns, st₁, st₂, h₁, hbytes, henc₁, hrl, h₂, ?_⟩
  rw [happ, hbytes, appData, henc₁, ← List.append_assoc]
  rfl

end Sealing

/-! ## Runs against a buffer limit -/

/-- Records of the TLS 1.3 shape: the payload, its content type and a 16-byte tag. -/
def tls13Shaped : MessageEncrypter := fun m _ =>
  .ok ⟨.applicationData, ProtocolVersion.tlsv1_2, m.payload ++ [m.typ.getU8] ++ List.replicate 16 0⟩

theorem tls13Shaped_total : Total tls13Shaped := fun _ _ => ⟨_, rfl⟩

/-- A connection whose handshake is done, after `set_buffer_limit(Some(48))`. -/
def limitedConnection : CommonState :=
  setBufferLimit { CommonState.new with recordLayer := ⟨0, true⟩, maySendApplicationData := true }
    (some 48)

/-- A connection still in its handshake, keys ready, after `set_buffer_limit(Some(32))`. -/
def limitedHandshake : CommonState :=
  setBufferLimit { CommonState.new with recordLayer := ⟨0, true⟩ } (some 32)

/-- `b"01234567890123456789"`. -/
def digits : List UInt8 := (List.range 20).map fun i => UInt8.ofNat (0x30 + i % 10)

theorem writer_encrypts_unaccepted_bytes :
    (writeAll tls13Shaped limitedConnection [digits, digits]).map (fun r => (r.1, appData r.2)) =
      .ok ([20, 6], digits ++ digits) :=
  rfl

theorem limited_writes_encrypt_all :
    Total tls13Shaped ∧ limitedConnection.maySendApplicationData = true ∧
      limitedConnection.recordLayer.isEncrypting = true ∧
      limitedConnection.recordLayer.writeSeq + [digits, digits].flatten.length ≤ seqSoftLimit ∧
      ∃ ns st', writeAll tls13Shaped limitedConnection [digits, digits] = .ok (ns, st') ∧
        List.Forall₂ (fun n buf => n ≤ buf.length) ns [digits, digits] ∧
        appData st' = appData limitedConnection ++ [digits, digits].flatten := by
  refine ⟨?henc, ?hmay, ?hencr, ?hseq,
    writeAll_encrypts_all ?henc [digits, digits] limitedConnection ?hmay ?hencr ?hseq⟩
  · exact tls13Shaped_total
  · rfl
  · rfl
  · decide

theorem limited_handshake_writes_sent :
    Total tls13Shaped ∧ limitedHandshake.maySendApplicationData = false ∧
      limitedHandshake.recordLayer.isEncrypting = true ∧
      limitedHandshake.recordLayer.writeSeq + limitedHandshake.sendablePlaintext.bytes.length +
        [digits, digits].flatten.length ≤ seqSoftLimit ∧
      ∃ ns st₁ st₂, writeAll tls13Shaped limitedHandshake [digits, digits] = .ok (ns, st₁) ∧
        st₁.sendablePlaintext.bytes = limitedHandshake.sendablePlaintext.bytes ++
          (List.zipWith (fun buf n => buf.take n) [digits, digits] ns).flatten ∧
        st₁.encrypted = limitedHandshake.encrypted ∧ st₁.recordLayer = limitedHandshake.recordLayer ∧
        startOutgoingTraffic tls13Shaped st₁ = .ok st₂ ∧
        appData st₂ = appData limitedHandshake ++ limitedHandshake.sendablePlaintext.bytes ++
          (List.zipWith (fun buf n => buf.take n) [digits, digits] ns).flatten := by
  refine ⟨?henc, ?hmay, ?hencr, ?hseq, writeAll_startOutgoingTraffic ?henc ?hmay ?hencr ?hseq⟩
  · exact tls13Shaped_total
  · rfl
  · rfl
  · decide

end TcplsBasics.Ports.Conn.Send
