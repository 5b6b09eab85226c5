import TcplsBasics.Ports.Conn.Send

/-!
# Closing at the soft limit (`conn.rs`, `record_layer.rs`)

`send_single_fragment` sends `close_notify` before it encrypts a fragment
once the write sequence number reaches `SEQ_SOFT_LIMIT`.  The alert goes out
through `send_close_notify`, `send_warning_alert_no_log`, `send_msg` and
`send_msg_encrypt`, which fragments it and hands the first fragment back to
`send_single_fragment`.  Nothing on the way moves `write_seq`, so the inner
call is at the soft limit again and sends the alert again.

Each function here takes the room `depth` left on the stack, one frame a
call, and a call with no room left is the stack overflow.  From an encrypting
state at the soft limit every depth overflows
(`sendSingleFragmentOn_overflows`): the recursion has no bottom, so no stack
is deep enough.  Anywhere else one frame is enough, and the call does what
`Send.sendSingleFragment` does (`sendSingleFragmentOn_eq`,
`sendMsgEncryptOn_eq`); that is what lets the send path of `Send` stand for
the recursion at the soft limit by its stack overflow.

The build modelled is the default one: the `quic` feature, under which
`send_msg` keeps a QUIC connection's alerts instead of sending them, is off.
-/

namespace TcplsBasics.Ports.Conn.CloseNotify

open TcplsBasics.Verified.Rust TcplsBasics.Ports.Errors TcplsBasics.Ports.Msgs.Enums
open TcplsBasics.Ports.Msgs.Handshake TcplsBasics.Ports.Msgs.Message TcplsBasics.Ports.Conn.Send

/-- `Message::build_alert(level, desc)` as the `PlainMessage` that `send_msg`
fragments: the payload is the level byte and the description byte. -/
def buildAlert (level : AlertLevel) (desc : AlertDescription) : PlainMessage :=
  ⟨.alert, ProtocolVersion.tlsv1_2, [level.getU8, desc.getU8]⟩

section Calls

variable (enc : MessageEncrypter)

mutual

/-- `CommonState::send_single_fragment`, with `depth` frames left. -/
def sendSingleFragmentOn : Nat → CommonState → BorrowedPlainMessage → Except Panic CommonState
  | 0, _, _ => .error stackOverflow
  | depth + 1, st, m => do
    let st ← if st.recordLayer.wantsCloseBeforeEncrypt then sendCloseNotifyOn depth st
      else pure st
    if st.recordLayer.encryptExhausted then pure st
    else
      let (em, rl) ← st.recordLayer.encryptOutgoing enc m
      pure { queueTlsMessage { st with recordLayer := rl } em with encrypted := st.encrypted ++ [m] }

/-- `CommonState::send_close_notify`. -/
def sendCloseNotifyOn : Nat → CommonState → Except Panic CommonState
  | 0, _ => .error stackOverflow
  | depth + 1, st => sendWarningAlertNoLogOn depth st .closeNotify

/-- `CommonState::send_warning_alert_no_log`. -/
def sendWarningAlertNoLogOn : Nat → CommonState → AlertDescription → Except Panic CommonState
  | 0, _, _ => .error stackOverflow
  | depth + 1, st, desc => sendMsgOn depth st (buildAlert .warning desc) st.recordLayer.isEncrypting

/-- `CommonState::send_msg`. -/
def sendMsgOn : Nat → CommonState → PlainMessage → Bool → Except Panic CommonState
  | 0, _, _, _ => .error stackOverflow
  | depth + 1, st, m, mustEncrypt =>
    if !mustEncrypt then
      .ok ((st.messageFragmenter.fragmentMessage m).foldl
        (fun st m => queueTlsMessage st m.toUnencryptedOpaque) st)
    else sendMsgEncryptOn depth st m

/-- `CommonState::send_msg_encrypt`. -/
def sendMsgEncryptOn : Nat → CommonState → PlainMessage → Except Panic CommonState
  | 0, _, _ => .error stackOverflow
  | depth + 1, st, m => (st.messageFragmenter.fragmentMessage m).foldlM (sendSingleFragmentOn depth) st

end

end Calls

/-! ## One frame down -/

section Frames

variable {enc : MessageEncrypter} {st : CommonState}

@[simp] theorem sendSingleFragmentOn_zero (m : BorrowedPlainMessage) :
    sendSingleFragmentOn enc 0 st m = .error stackOverflow := rfl

@[simp] theorem sendCloseNotifyOn_succ (depth : Nat) :
    sendCloseNotifyOn enc (depth + 1) st = sendWarningAlertNoLogOn enc depth st .closeNotify := rfl

@[simp] theorem sendWarningAlertNoLogOn_succ (depth : Nat) (desc : AlertDescription) :
    sendWarningAlertNoLogOn enc (depth + 1) st desc =
      sendMsgOn enc depth st (buildAlert .warning desc) st.recordLayer.isEncrypting := rfl

@[simp] theorem sendMsgOn_succ_true (depth : Nat) (m : PlainMessage) :
    sendMsgOn enc (depth + 1) st m true = sendMsgEncryptOn enc depth st m := rfl

@[simp] theorem sendMsgEncryptOn_succ (depth : Nat) (m : PlainMessage) :
    sendMsgEncryptOn enc (depth + 1) st m =
      (st.messageFragmenter.fragmentMessage m).foldlM (sendSingleFragmentOn enc depth) st := rfl

/-- Away from the soft limit a fragment takes one frame, and is sent as
`Send.sendSingleFragment` sends it. -/
theorem sendSingleFragmentOn_succ_of_not_close (hclose : st.recordLayer.wantsCloseBeforeEncrypt = false)
    (depth : Nat) (m : BorrowedPlainMessage) :
    sendSingleFragmentOn enc (depth + 1) st m = sendSingleFragment enc st m := by
  simp only [sendSingleFragmentOn, sendSingleFragment, hclose, Bool.false_eq_true, if_false, pure_bind]
  rfl

/-- At the soft limit, a failed `close_notify` fails the fragment. -/
theorem sendSingleFragmentOn_succ_of_close (hclose : st.recordLayer.wantsCloseBeforeEncrypt = true)
    {depth : Nat} {e : Panic} (h : sendCloseNotifyOn enc depth st = .error e) (m : BorrowedPlainMessage) :
    sendSingleFragmentOn enc (depth + 1) st m = .error e := by
  simp only [sendSingleFragmentOn, hclose, if_true, h]
  rfl

/-- An alert has a first fragment. -/
theorem fragmentMessage_buildAlert (f : MessageFragmenter) (level : AlertLevel)
    (desc : AlertDescription) : ∃ frag rest, f.fragmentMessage (buildAlert level desc) = frag :: rest := by
  rw [MessageFragmenter.fragmentMessage, buildAlert, MessageFragmenter.fragmentSlice,
    chunks_of_ne_nil (List.cons_ne_nil _ _), List.map_cons]
  exact ⟨_, _, rfl⟩

/-- From an encrypting state `send_close_notify` overflows when the
`send_single_fragment` it reaches, four frames down and at the same state,
overflows on every fragment. -/
theorem sendCloseNotifyOn_overflows_of (hencr : st.recordLayer.isEncrypting = true) {depth : Nat}
    (h : ∀ d m, depth = d + 4 → sendSingleFragmentOn enc d st m = .error stackOverflow) :
    sendCloseNotifyOn enc depth st = .error stackOverflow := by
  match depth with
  | 0 => rfl
  | 1 => rfl
  | 2 => rfl
  | 3 =>
    show sendMsgOn enc 1 st _ st.recordLayer.isEncrypting = _
    rw [hencr]
    rfl
  | d + 4 =>
    obtain ⟨frag, rest, hfrags⟩ := fragmentMessage_buildAlert st.messageFragmenter .warning .closeNotify
    rw [sendCloseNotifyOn_succ, sendWarningAlertNoLogOn_succ, hencr, sendMsgOn_succ_true,
      sendMsgEncryptOn_succ, hfrags, List.foldlM_cons, h d frag rfl]
    rfl

end Frames

/-! ## The soft limit -/

section SoftLimit

variable {enc : MessageEncrypter} {st : CommonState}

theorem wantsCloseBeforeEncrypt_iff :
    st.recordLayer.wantsCloseBeforeEncrypt = true ↔ st.recordLayer.writeSeq = seqSoftLimit := by
  simp [RecordLayer.wantsCloseBeforeEncrypt]

/-- At the soft limit every depth overflows. -/
theorem sendSingleFragmentOn_softLimit (hencr : st.recordLayer.isEncrypting = true)
    (hsoft : st.recordLayer.writeSeq = seqSoftLimit) (depth : Nat) (m : BorrowedPlainMessage) :
    sendSingleFragmentOn enc depth st m = .error stackOverflow := by
  -- the inner call is four frames further down, at the same state
  induction depth using Nat.strongRecOn generalizing m with
  | ind depth ih =>
    cases depth with
    | zero => rfl
    | succ d =>
      have hclose : sendCloseNotifyOn enc d st = .error stackOverflow :=
        sendCloseNotifyOn_overflows_of hencr fun d' m' hd => ih d' (by omega) m'
      exact sendSingleFragmentOn_succ_of_close (wantsCloseBeforeEncrypt_iff.mpr hsoft) hclose m

/-- **`close_notify` at the soft limit never returns.**  From an encrypting
state whose write sequence number is `SEQ_SOFT_LIMIT`, `send_single_fragment`
and `send_close_notify` overflow every stack, however deep. -/
theorem sendSingleFragment_softLimit_overflows (enc : MessageEncrypter) (st : CommonState)
    (hencr : st.recordLayer.isEncrypting = true) (hsoft : st.recordLayer.writeSeq = seqSoftLimit)
    (depth : Nat) (m : BorrowedPlainMessage) :
    sendSingleFragmentOn enc depth st m = .error stackOverflow ∧
      sendCloseNotifyOn enc depth st = .error stackOverflow := by
  constructor
  · exact sendSingleFragmentOn_softLimit hencr hsoft depth m
  · apply sendCloseNotifyOn_overflows_of hencr
    intro d m' _
    exact sendSingleFragmentOn_softLimit hencr hsoft d m'

/-- An encrypting connection at the soft limit. -/
def softLimitState : CommonState := { CommonState.new with recordLayer := ⟨seqSoftLimit, true⟩ }

theorem soft_limit_fragment_overflows :
    softLimitState.recordLayer.isEncrypting = true ∧
      softLimitState.recordLayer.writeSeq = seqSoftLimit ∧
      sendSingleFragmentOn tls13Shaped (2 ^ 20) softLimitState ⟨.applicationData, ProtocolVersion.tlsv1_2, [0x68, 0x69]⟩ =
        .error stackOverflow ∧
      sendCloseNotifyOn tls13Shaped (2 ^ 20) softLimitState = .error stackOverflow :=
  ⟨rfl, rfl, sendSingleFragment_softLimit_overflows tls13Shaped softLimitState rfl rfl (2 ^ 20) _⟩

end SoftLimit

/-! ## The send path of `Send` -/

section Refinement

variable {enc : MessageEncrypter} {st : CommonState}

/-- From an encrypting state, one frame and up, `send_single_fragment` is
`Send.sendSingleFragment`: at the soft limit both are the stack overflow. -/
theorem sendSingleFragmentOn_eq (hencr : st.recordLayer.isEncrypting = true) (depth : Nat)
    (m : BorrowedPlainMessage) :
    sendSingleFragmentOn enc (depth + 1) st m = sendSingleFragment enc st m := by
  cases hclose : st.recordLayer.wantsCloseBeforeEncrypt with
  | false => exact sendSingleFragmentOn_succ_of_not_close hclose depth m
  | true =>
    rw [sendSingleFragmentOn_softLimit hencr (wantsCloseBeforeEncrypt_iff.mp hclose), sendSingleFragment,
      if_pos hclose]

/-- `encrypt_outgoing` moves the sequence number and nothing else. -/
theorem encryptOutgoing_recordLayer {rl rl' : RecordLayer} {m : BorrowedPlainMessage}
    {em : OpaqueMessage} (h : rl.encryptOutgoing enc m = .ok (em, rl')) :
    rl' = { rl with writeSeq := rl.writeSeq + 1 } := by
  unfold RecordLayer.encryptOutgoing at h
  split at h
  · cases h
  split at h
  · cases h
  obtain ⟨em', -, h⟩ := bind_eq_ok.mp h
  cases h
  rfl

/-- Sending a fragment keeps the record layer encrypting. -/
theorem isEncrypting_of_sendSingleFragment {st' : CommonState} {m : BorrowedPlainMessage}
    (h : sendSingleFragment enc st m = .ok st') :
    st'.recordLayer.isEncrypting = st.recordLayer.isEncrypting := by
  unfold sendSingleFragment at h
  split at h
  · cases h
  split at h
  · cases h
    rfl
  obtain ⟨⟨em, rl⟩, henc, h⟩ := bind_eq_ok.mp h
  cases h
  rw [encryptOutgoing_recordLayer henc]
  rfl

/-- The fragment loop, one frame and up, is `Send.sendFragments`. -/
theorem foldlM_sendSingleFragmentOn (depth : Nat) :
    ∀ (ms : List BorrowedPlainMessage) (st : CommonState), st.recordLayer.isEncrypting = true →
      ms.foldlM (sendSingleFragmentOn enc (depth + 1)) st = sendFragments enc st ms
  | [], _, _ => rfl
  | m :: ms, st, hencr => by
    rw [List.foldlM_cons, sendSingleFragmentOn_eq hencr, sendFragments]
    cases h : sendSingleFragment enc st m with
    | error e => rfl
    | ok st' =>
      have hencr' : st'.recordLayer.isEncrypting = true := (isEncrypting_of_sendSingleFragment h).trans hencr
      exact foldlM_sendSingleFragmentOn depth ms st' hencr'

/-- From an encrypting state, two frames and up, `send_msg_encrypt` is
`Send.sendMsgEncrypt`. -/
theorem sendMsgEncryptOn_eq (hencr : st.recordLayer.isEncrypting = true) (depth : Nat)
    (m : PlainMessage) : sendMsgEncryptOn enc (depth + 2) st m = sendMsgEncrypt enc st m := by
  rw [sendMsgEncryptOn_succ, foldlM_sendSingleFragmentOn depth _ st hencr, sendMsgEncrypt]

end Refinement

/-- A `close_notify` from a fresh encrypting connection, two frames down. -/
theorem close_notify_sent_as_send_sends :
    ({ CommonState.new with recordLayer := ⟨0, true⟩ } : CommonState).recordLayer.isEncrypting = true ∧
      sendMsgEncryptOn tls13Shaped (0 + 2) { CommonState.new with recordLayer := ⟨0, true⟩ }
          (buildAlert .warning .closeNotify) =
        sendMsgEncrypt tls13Shaped { CommonState.new with recordLayer := ⟨0, true⟩ }
          (buildAlert .warning .closeNotify) :=
  ⟨rfl, sendMsgEncryptOn_eq rfl 0 _⟩

end TcplsBasics.Ports.Conn.CloseNotify
