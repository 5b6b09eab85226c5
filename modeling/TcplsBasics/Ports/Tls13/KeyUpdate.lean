import TcplsBasics.Ports.Tls13.Refinement

/-!
# Key updates and writes after the handshake

Once a TLS 1.3 connection is established, `ExpectTraffic::handle_key_update`
is what moves its keys.  It first refuses a `KeyUpdate` that arrives while a
handshake message is only partly received (`check_aligned_handshake`, fed by
the deframer's `aligned`).  Every other `KeyUpdate` moves the read secret one
generation on, and one that asks for an update is answered by a
notification, sealed at once under the write keys in use and queued, after
which the write secret moves on too.  A request that comes while a
notification is still queued is answered by that one.  Application data is
written by `send_some_plaintext`, which first sends the queued notification
(`perhaps_write_key_update`) and then seals the data record by record under
the write keys, each record taking the next write sequence number.

`Generations` is what RFC 8446 asks of one end, with the keys left out: how
many times each direction has moved, whether an answer is still to be sent
(§4.6.3), and the alert a `KeyUpdate` is refused with (§5.1 for one not at a
record boundary, §4.6.3 for a request byte other than 0 and 1).  Over every
run of `KeyUpdate`s and writes whose records stay below `SEQ_SOFT_LIMIT` the
connection keeps to it (`trafficRun_tracks`): its traffic secrets are the
generations' iterates of `derive_next`, the record layer works under their
keys, a notification is queued exactly when one is owed and is the old write
key's sealing of `KeyUpdate(update_not_requested)`, every byte written is
sealed, and a run the model refuses ends with the model's alert.

## Main results

* `TrafficEvent.apply_tracks`: one event keeps the connection at its generations.
* `trafficRun_tracks`: so does every run within the sequence budget.
-/

namespace TcplsBasics.Ports.Tls13.KeyUpdate

open TcplsBasics.Verified.Rust
open TcplsBasics.Ports.Tls13.KeySchedule (Prk)
open TcplsBasics.Ports.Tls13.Schedule
open TcplsBasics.Ports.Cipher (Side Tls13MessageEncrypter)
open TcplsBasics.Ports.Errors
open TcplsBasics.Ports.Msgs.Enums (AlertDescription)
open TcplsBasics.Ports.Msgs.Message (PlainMessage)
open TcplsBasics.Ports.Conn.Send (seqSoftLimit seqHardLimit Seals appData appDataOf)

/-! ## `ExpectTraffic` on key updates, and writes -/

/-- `ExpectTraffic::handle_key_update`, alike on both sides; the QUIC check is
left out, as the build modelled has no QUIC connection. -/
def handleKeyUpdate (self : KeyScheduleTraffic) (common : CommonState) (request : Nat) :
    Except Panic (Except Fatal (KeyScheduleTraffic × CommonState)) :=
  match common.checkAlignedHandshake with
  | .error e => pure (.error e)
  | .ok () =>
    match common.shouldUpdateKey request with
    | .error e => pure (.error e)
    | .ok update => do
      let (self, common) ← if update then self.updateEncrypterAndNotify common else pure (self, common)
      let (self, common) ← self.updateDecrypter common
      pure (.ok (self, common))

/-- `ConnectionCommon::send_some_plaintext`: the queued notification goes out
first, then the data is sealed under the write keys. -/
def sendSomePlaintext (common : CommonState) (data : List UInt8) : Except Panic (Nat × CommonState) := do
  let (n, st) ← Conn.Send.sendSomePlaintext common.encrypter common.toCommonState data
  pure (n, { common with toCommonState := st })

/-- `CommonState::start_traffic`, with which `ExpectFinished::handle` ends:
application data may flow, and what was written during the handshake is sealed. -/
def startTraffic (common : CommonState) : Except Panic CommonState := do
  let st ← Conn.Send.startOutgoingTraffic common.encrypter common.toCommonState
  pure { common with toCommonState := st }

/-- What moves the keys of an established connection: a `KeyUpdate` with its
request byte and whether the deframer found it aligned, and a write. -/
inductive TrafficEvent where
  | keyUpdate (request : Nat) (aligned : Bool)
  | write (data : List UInt8)
deriving DecidableEq, Repr

/-- `ExpectTraffic` on one event; the deframer sets `aligned_handshake` before
the message is handled. -/
def TrafficEvent.apply : TrafficEvent → KeyScheduleTraffic → CommonState →
    Except Panic (Except Fatal (KeyScheduleTraffic × CommonState))
  | .keyUpdate request aligned, self, common => handleKeyUpdate self { common with alignedHandshake := aligned } request
  | .write data, self, common => do
    let (_, common) ← sendSomePlaintext common data
    pure (.ok (self, common))

/-- A run of events; a fatal error ends the connection. -/
def trafficRun (self : KeyScheduleTraffic) (common : CommonState) :
    List TrafficEvent → Except Panic (Except Fatal (KeyScheduleTraffic × CommonState))
  | [] => pure (.ok (self, common))
  | event :: events => do
    match ← event.apply self common with
    | .error e => pure (.error e)
    | .ok (self, common) => trafficRun self common events

namespace TrafficEvent

/-- Whether an event is a `KeyUpdate`. -/
def isKeyUpdate : TrafficEvent → Bool
  | .keyUpdate _ _ => true
  | .write _ => false

/-- The most records an event seals: a notification, or one per byte written. -/
def records : TrafficEvent → Nat
  | .keyUpdate _ _ => 1
  | .write data => data.length

/-- The application data an event writes. -/
def written : TrafficEvent → List UInt8
  | .keyUpdate _ _ => []
  | .write data => data

end TrafficEvent

/-! ## What RFC 8446 asks of one end -/

/-- How many times each direction's traffic secret has moved, and whether
an answer to a requested update is still to be sent. -/
structure Generations where
  read : Nat
  write : Nat
  pending : Bool
deriving DecidableEq, Repr

/-- One event: a `KeyUpdate` not at a record boundary is refused with
`unexpected_message` (§5.1), one with a request byte other than 0 and 1 with
`illegal_parameter` (§4.6.3); any other moves the read generation, and one
that asks for an update moves the write generation unless an answer is still
to be sent.  A write sends the answer. -/
def Generations.step (g : Generations) : TrafficEvent → Except AlertDescription Generations
  | .keyUpdate request aligned =>
    if !aligned then .error .unexpectedMessage
    else if request = KeyUpdateRequest.updateNotRequested then .ok { g with read := g.read + 1 }
    else if request = KeyUpdateRequest.updateRequested then
      .ok (if g.pending then { g with read := g.read + 1 } else ⟨g.read + 1, g.write + 1, true⟩)
    else .error .illegalParameter
  | .write _ => .ok { g with pending := false }

/-- A run of events, up to the first one refused. -/
def Generations.run (g : Generations) : List TrafficEvent → Except AlertDescription Generations
  | [] => .ok g
  | event :: events => do
    let g ← g.step event
    g.run events

/-- The read generation counts the `KeyUpdate`s of a run. -/
theorem Generations.read_run {g g' : Generations} {events : List TrafficEvent} (hrun : g.run events = .ok g') :
    g'.read = g.read + events.countP TrafficEvent.isKeyUpdate := by
  induction events generalizing g with
  | nil =>
    cases hrun
    rfl
  | cons event events ih =>
    rw [Generations.run] at hrun
    obtain ⟨g₁, hstep, hrun₁⟩ := bind_eq_ok.mp hrun
    rw [ih hrun₁, List.countP_cons]
    have hread : g₁.read = g.read + if event.isKeyUpdate then 1 else 0 := by
      cases event with
      | write data =>
        cases hstep
        rfl
      | keyUpdate request aligned =>
        simp only [Generations.step] at hstep
        split_ifs at hstep <;> cases hstep <;> rfl
    rw [hread]
    omega

/-- An aligned `KeyUpdate` moves the generations as `should_update_key`
decides, on a connection whose queued answer is the pending flag: the read
side always, the write side too when it answers `true`; its error carries the
step's alert. -/
theorem Generations.step_of_shouldUpdateKey {g : Generations} {common : CommonState}
    (hpending : common.queuedKeyUpdateMessage.isSome = g.pending) (request : Nat) :
    (∀ b, common.shouldUpdateKey request = .ok b → g.step (.keyUpdate request true) =
      .ok (if b then ⟨g.read + 1, g.write + 1, true⟩ else { g with read := g.read + 1 })) ∧
    (∀ f, common.shouldUpdateKey request = .error f →
      ∃ a, g.step (.keyUpdate request true) = .error a ∧ f.alert = some a) := by
  unfold CommonState.shouldUpdateKey
  by_cases h0 : request = KeyUpdateRequest.updateNotRequested
  · refine ⟨fun b hb => ?_, fun f hf => by simp [h0] at hf⟩
    simp only [h0, if_true, Except.ok.injEq] at hb
    subst hb
    simp [Generations.step, h0]
  by_cases h1 : request = KeyUpdateRequest.updateRequested
  · subst h1
    refine ⟨fun b hb => ?_, fun f hf => by simp [h0] at hf⟩
    simp only [h0, if_false, if_true, Except.ok.injEq] at hb
    subst hb
    -- the answer is owed exactly when one is queued
    cases hq : common.queuedKeyUpdateMessage with
    | some q =>
      have hg : g.pending = true := by rw [← hpending, hq, Option.isSome_some]
      simp [Generations.step, h0, hg]
    | none =>
      have hg : g.pending = false := by rw [← hpending, hq, Option.isSome_none]
      simp [Generations.step, h0, hg]
  · refine ⟨fun b hb => by simp [h0, h1] at hb, fun f hf => ?_⟩
    simp only [h0, h1, if_false, Except.error.injEq] at hf
    subst hf
    exact ⟨.illegalParameter, by simp [Generations.step, h0, h1], rfl⟩

/-! ## What each call computes -/

/-- The application traffic secret after one update (`derive_next`). -/
def nextSecret (secret : Prk) : Prk := expandSecret secret trafficUpdLabel []

@[simp] theorem algorithm_nextSecret (secret : Prk) : (nextSecret secret).algorithm = secret.algorithm := rfl

@[simp] theorem algorithm_iterate_nextSecret (secret : Prk) (n : Nat) :
    (nextSecret^[n] secret).algorithm = secret.algorithm := by
  induction n generalizing secret with
  | zero => rfl
  | succ n ih => rw [Function.iterate_succ_apply, ih, algorithm_nextSecret]

/-- A side's current application traffic secret. -/
def trafficSecret (self : KeyScheduleTraffic) : Side → Prk
  | .client => self.currentClientTrafficSecret
  | .server => self.currentServerTrafficSecret

/-- The schedule with a side's secret one update on. -/
def advance (self : KeyScheduleTraffic) : Side → KeyScheduleTraffic
  | .client => { self with currentClientTrafficSecret := nextSecret self.currentClientTrafficSecret }
  | .server => { self with currentServerTrafficSecret := nextSecret self.currentServerTrafficSecret }

section Advance

variable (self : KeyScheduleTraffic) (side : Side)

@[simp] theorem ks_advance : (advance self side).ks = self.ks := by
  cases side <;> rfl

@[simp] theorem trafficSecret_advance_self : trafficSecret (advance self side) side = nextSecret (trafficSecret self side) := by
  cases side <;> rfl

@[simp] theorem trafficSecret_advance_peer : trafficSecret (advance self side) side.peer = trafficSecret self side.peer := by
  cases side <;> rfl

@[simp] theorem trafficSecret_advance_other : trafficSecret (advance self side.peer) side = trafficSecret self side := by
  cases side <;> rfl

end Advance

/-- Both application traffic secrets are of the suite's HKDF. -/
def TrafficWf (self : KeyScheduleTraffic) : Prop :=
  ∀ side, (trafficSecret self side).algorithm = self.ks.suite.hkdfAlgorithm

theorem TrafficWf.advance {self : KeyScheduleTraffic} (hwf : TrafficWf self) (side : Side) :
    TrafficWf (advance self side) := by
  intro other
  rw [ks_advance]
  cases side <;> cases other
  exacts [hwf .client, hwf .server, hwf .client, hwf .server]

theorem nextApplicationTrafficSecret_eq {self : KeyScheduleTraffic} (hwf : TrafficWf self) (side : Side) :
    self.nextApplicationTrafficSecret side = .ok (nextSecret (trafficSecret self side), advance self side) := by
  cases side with
  | client =>
    have hsecret : self.currentClientTrafficSecret.algorithm = self.ks.suite.hkdfAlgorithm := hwf .client
    rw [KeyScheduleTraffic.nextApplicationTrafficSecret, KeySchedule.deriveNext_eq _ hsecret, ok_bind]
    rfl
  | server =>
    have hsecret : self.currentServerTrafficSecret.algorithm = self.ks.suite.hkdfAlgorithm := hwf .server
    rw [KeyScheduleTraffic.nextApplicationTrafficSecret, KeySchedule.deriveNext_eq _ hsecret, ok_bind]
    rfl

/-- The plaintext of the notification: `KeyUpdate` with `update_not_requested`. -/
def notify : PlainMessage := PlainMessage.ofMessage buildKeyUpdateNotify

/-- The notification is sealed under the encrypter in use at the write
sequence number, which moves on. -/
theorem enqueueKeyUpdateNotification_eq {common : CommonState} {e : Tls13MessageEncrypter}
    (henc : common.messageEncrypter = some e) (hencrypting : common.recordLayer.isEncrypting = true)
    (hroom : common.recordLayer.writeSeq < seqHardLimit) :
    ∃ em, e.encrypt notify common.recordLayer.writeSeq = .ok em ∧
      common.enqueueKeyUpdateNotification =
        .ok { common with
          recordLayer := ⟨common.recordLayer.writeSeq + 1, true⟩
          queuedKeyUpdateMessage := some em.encode
          encrypted := common.encrypted ++ [notify] } := by
  refine ⟨_, rfl, ?_⟩
  have hexhausted : common.recordLayer.encryptExhausted = false := by
    simp only [Conn.Send.RecordLayer.encryptExhausted, decide_eq_false_iff_not, Nat.not_le, hroom]
  simp only [CommonState.enqueueKeyUpdateNotification, Conn.Send.RecordLayer.encryptOutgoing, hencrypting,
    hexhausted, CommonState.encrypter, henc, Bool.not_true, Bool.false_eq_true, if_false]
  rfl

/-- The notification is a handshake message: it carries no application data. -/
@[simp] theorem appDataOf_notify : appDataOf [notify] = [] := rfl

/-- A TLS 1.3 encrypter never fails. -/
theorem encrypter_total {common : CommonState} {e : Tls13MessageEncrypter} (henc : common.messageEncrypter = some e) :
    Conn.Send.Total common.encrypter := by
  intro m seq
  simp only [CommonState.encrypter, henc]
  exact ⟨_, rfl⟩

theorem checkAlignedHandshake_of_aligned {common : CommonState} (haligned : common.alignedHandshake = true) :
    common.checkAlignedHandshake = .ok () := by
  simp [CommonState.checkAlignedHandshake, haligned]

section Handle

variable {self : KeyScheduleTraffic} (hwf : TrafficWf self)
include hwf

theorem trafficUpdateDecrypter_eq (common : CommonState) :
    self.updateDecrypter common =
      .ok (advance self common.side.peer,
        common.setMessageDecrypter (self.ks.decrypterOf (nextSecret (trafficSecret self common.side.peer)))) := by
  rw [KeyScheduleTraffic.updateDecrypter, nextApplicationTrafficSecret_eq hwf, ok_bind]
  dsimp only
  rw [ks_advance, KeySchedule.setDecrypter_eq self.ks ((algorithm_nextSecret _).trans (hwf _)), ok_bind]
  rfl

/-- The notification goes out under the old keys, then the new write keys
are installed. -/
theorem updateEncrypterAndNotify_eq {common : CommonState} {e : Tls13MessageEncrypter}
    (henc : common.messageEncrypter = some e) (hencrypting : common.recordLayer.isEncrypting = true)
    (hroom : common.recordLayer.writeSeq < seqHardLimit) :
    ∃ em, e.encrypt notify common.recordLayer.writeSeq = .ok em ∧
      self.updateEncrypterAndNotify common =
        .ok (advance self common.side,
          ({ common with
            recordLayer := ⟨common.recordLayer.writeSeq + 1, true⟩
            queuedKeyUpdateMessage := some em.encode
            encrypted := common.encrypted ++ [notify] } : CommonState).setMessageEncrypter
            (self.ks.encrypterOf (nextSecret (trafficSecret self common.side)))) := by
  obtain ⟨em, hem, henqueue⟩ := enqueueKeyUpdateNotification_eq henc hencrypting hroom
  refine ⟨em, hem, ?_⟩
  rw [KeyScheduleTraffic.updateEncrypterAndNotify, nextApplicationTrafficSecret_eq hwf, ok_bind]
  dsimp only
  rw [henqueue, ok_bind, ks_advance, KeySchedule.setEncrypter_eq self.ks ((algorithm_nextSecret _).trans (hwf _)),
    ok_bind]
  rfl

theorem handleKeyUpdate_of_false {common : CommonState} {request : Nat}
    (haligned : common.alignedHandshake = true) (hupdate : common.shouldUpdateKey request = .ok false) :
    handleKeyUpdate self common request =
      .ok (.ok (advance self common.side.peer,
        common.setMessageDecrypter (self.ks.decrypterOf (nextSecret (trafficSecret self common.side.peer))))) := by
  unfold handleKeyUpdate
  rw [checkAlignedHandshake_of_aligned haligned]
  dsimp only
  rw [hupdate]
  simp only [Bool.false_eq_true, if_false, pure_bind, trafficUpdateDecrypter_eq hwf]
  rfl

theorem handleKeyUpdate_of_true {common : CommonState} {request : Nat} {e : Tls13MessageEncrypter}
    (haligned : common.alignedHandshake = true) (hupdate : common.shouldUpdateKey request = .ok true)
    (henc : common.messageEncrypter = some e) (hencrypting : common.recordLayer.isEncrypting = true)
    (hroom : common.recordLayer.writeSeq < seqHardLimit) :
    ∃ em, e.encrypt notify common.recordLayer.writeSeq = .ok em ∧
      let common' := ({ common with
          recordLayer := ⟨common.recordLayer.writeSeq + 1, true⟩
          queuedKeyUpdateMessage := some em.encode
          encrypted := common.encrypted ++ [notify] } : CommonState).setMessageEncrypter
        (self.ks.encrypterOf (nextSecret (trafficSecret self common.side)))
      let self' := advance self common.side
      handleKeyUpdate self common request =
        .ok (.ok (advance self' common'.side.peer,
          common'.setMessageDecrypter (self'.ks.decrypterOf (nextSecret (trafficSecret self' common'.side.peer))))) := by
  obtain ⟨em, hem, hnotify⟩ := updateEncrypterAndNotify_eq hwf henc hencrypting hroom
  refine ⟨em, hem, ?_⟩
  unfold handleKeyUpdate
  rw [checkAlignedHandshake_of_aligned haligned]
  dsimp only
  rw [hupdate]
  simp only [if_true, hnotify, ok_bind, trafficUpdateDecrypter_eq (hwf.advance _)]
  rfl

end Handle

theorem handleKeyUpdate_of_error {self : KeyScheduleTraffic} {common : CommonState} {request : Nat} {f : Fatal}
    (haligned : common.alignedHandshake = true) (hupdate : common.shouldUpdateKey request = .error f) :
    handleKeyUpdate self common request = .ok (.error f) := by
  unfold handleKeyUpdate
  rw [checkAlignedHandshake_of_aligned haligned]
  dsimp only
  rw [hupdate]
  rfl

theorem handleKeyUpdate_of_unaligned {self : KeyScheduleTraffic} {common : CommonState} {request : Nat}
    (haligned : common.alignedHandshake = false) :
    handleKeyUpdate self common request =
      .ok (.error ⟨some .unexpectedMessage, .peerMisbehaved .keyEpochWithPendingFragment⟩) := by
  unfold handleKeyUpdate
  simp only [CommonState.checkAlignedHandshake, haligned, Bool.not_false, if_true]
  rfl

/-! ## Writes -/

section Writes

variable {common : CommonState} {e : Tls13MessageEncrypter} (henc : common.messageEncrypter = some e)
  (hencrypting : common.recordLayer.isEncrypting = true)
include henc hencrypting

/-- Once application data may flow, a write seals every byte of its data, in
no more records than bytes, after sending a queued notification. -/
theorem sendSomePlaintext_eq (hmay : common.maySendApplicationData = true) {data : List UInt8}
    (hseq : common.recordLayer.writeSeq + data.length ≤ seqSoftLimit) :
    ∃ n st, sendSomePlaintext common data = .ok (n, { common with toCommonState := st }) ∧
      ∃ ms, Seals (Conn.Send.perhapsWriteKeyUpdate common.toCommonState) st ms ∧ ms.length ≤ data.length ∧
        appDataOf ms = data := by
  obtain ⟨st, h, hseals⟩ := Conn.Send.sendSomePlaintext_encrypts_all (encrypter_total henc) hmay hencrypting hseq
  refine ⟨(Conn.Send.perhapsWriteKeyUpdate common.toCommonState).sendableTls.applyLimit data.length, st, ?_, hseals⟩
  rw [sendSomePlaintext, h]
  rfl

/-- `start_traffic` lets application data flow and seals what was written
during the handshake, in no more records than bytes. -/
theorem startTraffic_eq (hseq : common.recordLayer.writeSeq + common.sendablePlaintext.bytes.length ≤ seqSoftLimit) :
    ∃ st, startTraffic common = .ok { common with toCommonState := st } ∧
      ∃ ms, Seals
          { common.toCommonState with
            maySendApplicationData := true
            sendablePlaintext := { common.sendablePlaintext with chunks := [] } } st ms ∧
        ms.length ≤ common.sendablePlaintext.bytes.length ∧ appDataOf ms = common.sendablePlaintext.bytes := by
  obtain ⟨st, h, hseals⟩ := Conn.Send.startOutgoingTraffic_seals (encrypter_total henc) hencrypting hseq
  refine ⟨st, ?_, hseals⟩
  rw [startTraffic, h]
  rfl

end Writes

/-! ## The connection keeps to its generations -/

/-- The connection of suite `suite` is at generations `g`, counted from the
application traffic secrets `own` and `peer` it started with: each side's
secret is its generation's iterate, the record layer writes and reads under
their keys, a notification is queued exactly when one is owed and is then
`KeyUpdate(update_not_requested)` sealed under the previous write secret, and
application data flows. -/
structure Tracks (suite : Tls13CipherSuite) (own peer : Prk) (g : Generations) (schedule : KeyScheduleTraffic)
    (common : CommonState) : Prop where
  suite_eq : schedule.ks.suite = suite
  own_algorithm : own.algorithm = suite.hkdfAlgorithm
  peer_algorithm : peer.algorithm = suite.hkdfAlgorithm
  own_eq : trafficSecret schedule common.side = nextSecret^[g.write] own
  peer_eq : trafficSecret schedule common.side.peer = nextSecret^[g.read] peer
  encrypter_eq : common.messageEncrypter = some (schedule.ks.encrypterOf (trafficSecret schedule common.side))
  decrypter_eq : common.messageDecrypter = some (schedule.ks.decrypterOf (trafficSecret schedule common.side.peer))
  pending_eq : common.queuedKeyUpdateMessage.isSome = g.pending
  queued_sealed : ∀ q, common.queuedKeyUpdateMessage = some q → ∃ w, g.write = w + 1 ∧
    ∃ seq em, (schedule.ks.encrypterOf (nextSecret^[w] own)).encrypt notify seq = .ok em ∧ q = em.encode
  encrypting : common.recordLayer.isEncrypting = true
  maySend : common.maySendApplicationData = true

theorem Side.eq_or_eq_peer (side other : Side) : other = side ∨ other = side.peer := by
  cases side <;> cases other <;> simp [Side.peer]

theorem queuedKeyUpdateMessage_perhapsWriteKeyUpdate (st : Conn.Send.CommonState) :
    (Conn.Send.perhapsWriteKeyUpdate st).queuedKeyUpdateMessage = none := by
  unfold Conn.Send.perhapsWriteKeyUpdate
  split
  · rfl
  · assumption

section Tracks

variable {suite : Tls13CipherSuite} {own peer : Prk} {g : Generations} {self : KeyScheduleTraffic}
  {common : CommonState}

theorem Tracks.wf (h : Tracks suite own peer g self common) : TrafficWf self := by
  intro side
  obtain rfl | rfl := Side.eq_or_eq_peer common.side side
  · rw [h.own_eq, algorithm_iterate_nextSecret, h.own_algorithm, h.suite_eq]
  · rw [h.peer_eq, algorithm_iterate_nextSecret, h.peer_algorithm, h.suite_eq]

/-- The deframer's `aligned` is not part of what is tracked. -/
theorem Tracks.aligned (h : Tracks suite own peer g self common) (aligned : Bool) :
    Tracks suite own peer g self { common with alignedHandshake := aligned } :=
  ⟨h.suite_eq, h.own_algorithm, h.peer_algorithm, h.own_eq, h.peer_eq, h.encrypter_eq, h.decrypter_eq,
    h.pending_eq, h.queued_sealed, h.encrypting, h.maySend⟩

/-- Reading under the peer's next secret moves the read generation. -/
theorem Tracks.read (h : Tracks suite own peer g self common) :
    Tracks suite own peer { g with read := g.read + 1 } (advance self common.side.peer)
      (common.setMessageDecrypter (self.ks.decrypterOf (nextSecret (trafficSecret self common.side.peer)))) where
  suite_eq := by
    rw [ks_advance]
    exact h.suite_eq
  own_algorithm := h.own_algorithm
  peer_algorithm := h.peer_algorithm
  own_eq := by
    rw [CommonState.side_setMessageDecrypter, trafficSecret_advance_other]
    exact h.own_eq
  peer_eq := by
    rw [CommonState.side_setMessageDecrypter, trafficSecret_advance_self, h.peer_eq, Function.iterate_succ_apply']
  encrypter_eq := by
    rw [CommonState.messageEncrypter_setMessageDecrypter, CommonState.side_setMessageDecrypter, ks_advance,
      trafficSecret_advance_other]
    exact h.encrypter_eq
  decrypter_eq := by
    rw [CommonState.messageDecrypter_setMessageDecrypter, CommonState.side_setMessageDecrypter, ks_advance,
      trafficSecret_advance_self]
  pending_eq := h.pending_eq
  queued_sealed := by
    rw [ks_advance]
    exact h.queued_sealed
  encrypting := h.encrypting
  maySend := h.maySend

/-- Sealing the notification under the own secret and writing under its
successor moves the write generation, and the notification is owed until
written. -/
theorem Tracks.write (h : Tracks suite own peer g self common) {em : Msgs.Message.OpaqueMessage}
    (hem : (self.ks.encrypterOf (trafficSecret self common.side)).encrypt notify common.recordLayer.writeSeq = .ok em) :
    Tracks suite own peer { g with write := g.write + 1, pending := true } (advance self common.side)
      (({ common with
          recordLayer := ⟨common.recordLayer.writeSeq + 1, true⟩
          queuedKeyUpdateMessage := some em.encode
          encrypted := common.encrypted ++ [notify] } : CommonState).setMessageEncrypter
        (self.ks.encrypterOf (nextSecret (trafficSecret self common.side)))) where
  suite_eq := by
    rw [ks_advance]
    exact h.suite_eq
  own_algorithm := h.own_algorithm
  peer_algorithm := h.peer_algorithm
  own_eq := by
    rw [CommonState.side_setMessageEncrypter, trafficSecret_advance_self, h.own_eq, Function.iterate_succ_apply']
  peer_eq := by
    rw [CommonState.side_setMessageEncrypter, trafficSecret_advance_peer]
    exact h.peer_eq
  encrypter_eq := by
    rw [CommonState.messageEncrypter_setMessageEncrypter, CommonState.side_setMessageEncrypter, ks_advance,
      trafficSecret_advance_self]
  decrypter_eq := by
    rw [CommonState.messageDecrypter_setMessageEncrypter, CommonState.side_setMessageEncrypter, ks_advance,
      trafficSecret_advance_peer]
    exact h.decrypter_eq
  pending_eq := rfl
  queued_sealed := by
    rintro q ⟨⟩
    refine ⟨g.write, rfl, common.recordLayer.writeSeq, em, ?_, rfl⟩
    rw [ks_advance, ← h.own_eq]
    exact hem
  encrypting := rfl
  maySend := h.maySend

/-- A write that seals its records leaves the keys and sends the queued
notification. -/
theorem Tracks.sealed (h : Tracks suite own peer g self common) {st : Conn.Send.CommonState}
    {ms : List PlainMessage} (hseals : Seals (Conn.Send.perhapsWriteKeyUpdate common.toCommonState) st ms) :
    Tracks suite own peer { g with pending := false } self { common with toCommonState := st } where
  suite_eq := h.suite_eq
  own_algorithm := h.own_algorithm
  peer_algorithm := h.peer_algorithm
  own_eq := h.own_eq
  peer_eq := h.peer_eq
  encrypter_eq := h.encrypter_eq
  decrypter_eq := h.decrypter_eq
  pending_eq := by
    show st.queuedKeyUpdateMessage.isSome = false
    rw [hseals.queuedKeyUpdateMessage, queuedKeyUpdateMessage_perhapsWriteKeyUpdate, Option.isSome_none]
  queued_sealed := by
    intro q hq
    change st.queuedKeyUpdateMessage = some q at hq
    rw [hseals.queuedKeyUpdateMessage, queuedKeyUpdateMessage_perhapsWriteKeyUpdate] at hq
    cases hq
  encrypting := by
    show st.recordLayer.isEncrypting = true
    rw [hseals.isEncrypting, Conn.Send.perhapsWriteKeyUpdate_recordLayer]
    exact h.encrypting
  maySend := by
    show st.maySendApplicationData = true
    rw [hseals.maySendApplicationData, Conn.Send.perhapsWriteKeyUpdate_maySendApplicationData]
    exact h.maySend

end Tracks

/-! ## Every run keeps to the generations -/

section Run

variable {suite : Tls13CipherSuite} {own peer : Prk}

/-- One event within the sequence budget: what the generations allow, the
connection does and keeps to them, sealing what is written; what they refuse
ends the connection with their alert. -/
theorem TrafficEvent.apply_tracks {g : Generations} {self : KeyScheduleTraffic} {common : CommonState}
    (h : Tracks suite own peer g self common) (event : TrafficEvent)
    (hroom : common.recordLayer.writeSeq + event.records ≤ seqSoftLimit) :
    (∀ g', g.step event = .ok g' →
      ∃ self' common', event.apply self common = .ok (.ok (self', common')) ∧ Tracks suite own peer g' self' common' ∧
        common'.recordLayer.writeSeq ≤ common.recordLayer.writeSeq + event.records ∧
        appData common'.toCommonState = appData common.toCommonState ++ event.written) ∧
    (∀ a, g.step event = .error a → ∃ f, event.apply self common = .ok (.error f) ∧ f.alert = some a) := by
  cases event with
  | write data =>
    refine ⟨?_, fun a hstep => nomatch hstep⟩
    rintro g' ⟨⟩
    obtain ⟨n, st, happly, ms, hseals, hlen, hdata⟩ :=
      sendSomePlaintext_eq h.encrypter_eq h.encrypting h.maySend
        (show common.recordLayer.writeSeq + data.length ≤ seqSoftLimit from hroom)
    refine ⟨self, _, by rw [TrafficEvent.apply, happly]; rfl, h.sealed hseals, ?_, ?_⟩
    · show st.recordLayer.writeSeq ≤ _
      rw [hseals.writeSeq, Conn.Send.perhapsWriteKeyUpdate_recordLayer]
      exact Nat.add_le_add_left hlen _
    · show appData st = _
      rw [hseals.appData, hdata]
      simp [appData, TrafficEvent.written]
  | keyUpdate request aligned =>
    cases aligned with
    | false =>
      refine ⟨fun g' hstep => by simp [Generations.step] at hstep, fun a hstep => ?_⟩
      simp only [Generations.step, Bool.not_false, if_true, Except.error.injEq] at hstep
      subst hstep
      have happly : (TrafficEvent.keyUpdate request false).apply self common =
          .ok (.error ⟨some .unexpectedMessage, .peerMisbehaved .keyEpochWithPendingFragment⟩) := by
        rw [TrafficEvent.apply]
        exact handleKeyUpdate_of_unaligned rfl
      exact ⟨_, happly, rfl⟩
    | true =>
      have ha := h.aligned true
      have hseq : common.recordLayer.writeSeq < seqHardLimit :=
        Nat.lt_of_lt_of_le (Nat.lt_of_succ_le hroom) (by decide)
      have hstep := Generations.step_of_shouldUpdateKey ha.pending_eq request
      -- the connection does what its own decision says; the generations follow it
      cases hupdate : ({ common with alignedHandshake := true } : CommonState).shouldUpdateKey request with
      | ok b =>
        rw [hstep.1 b hupdate]
        refine ⟨?_, ?_⟩
        · rintro g' ⟨⟩
          cases b with
          | false =>
            exact ⟨_, _, handleKeyUpdate_of_false ha.wf rfl hupdate, ha.read, Nat.le_add_right _ _,
              by simp [appData, TrafficEvent.written]⟩
          | true =>
            obtain ⟨em, hem, happly⟩ :=
              handleKeyUpdate_of_true ha.wf rfl hupdate ha.encrypter_eq ha.encrypting hseq
            exact ⟨_, _, happly, (ha.write hem).read, Nat.zero_le _, by simp [appData, TrafficEvent.written]⟩
        · rintro a ⟨⟩
      | error f =>
        obtain ⟨a, hrefused, halert⟩ := hstep.2 f hupdate
        rw [hrefused]
        refine ⟨?_, ?_⟩
        · rintro g' ⟨⟩
        · rintro a' ⟨⟩
          exact ⟨f, handleKeyUpdate_of_error rfl hupdate, halert⟩

/-- A whole run within the sequence budget, by induction on it with
`apply_tracks` at each event. -/
theorem trafficRun_tracks {g : Generations} {self : KeyScheduleTraffic} {common : CommonState}
    (h : Tracks suite own peer g self common) (events : List TrafficEvent)
    (hbudget : common.recordLayer.writeSeq + (events.map TrafficEvent.records).sum ≤ seqSoftLimit) :
    (∀ g', g.run events = .ok g' →
      ∃ self' common', trafficRun self common events = .ok (.ok (self', common')) ∧
        Tracks suite own peer g' self' common' ∧
        appData common'.toCommonState = appData common.toCommonState ++ events.flatMap TrafficEvent.written) ∧
    (∀ a, g.run events = .error a → ∃ f, trafficRun self common events = .ok (.error f) ∧ f.alert = some a) := by
  induction events generalizing g self common with
  | nil =>
    refine ⟨?_, fun a hrun => nomatch hrun⟩
    rintro g' ⟨⟩
    exact ⟨self, common, rfl, h, by simp⟩
  | cons event events ih =>
    rw [List.map_cons, List.sum_cons] at hbudget
    obtain ⟨hallowed, hrefused⟩ := TrafficEvent.apply_tracks h event (by omega)
    cases hstep : g.step event with
    | error a =>
      refine ⟨fun g' hrun => ?_, fun a' hrun => ?_⟩
      · rw [Generations.run, hstep] at hrun
        cases hrun
      rw [Generations.run, hstep] at hrun
      cases hrun
      obtain ⟨f, happly, halert⟩ := hrefused a hstep
      refine ⟨f, ?_, halert⟩
      rw [trafficRun, happly]
      rfl
    | ok g₁ =>
      obtain ⟨self₁, common₁, happly, h₁, hseq₁, hdata₁⟩ := hallowed g₁ hstep
      have hrun : g.run (event :: events) = g₁.run events := by
        rw [Generations.run, hstep]
        rfl
      have htraffic : trafficRun self common (event :: events) = trafficRun self₁ common₁ events := by
        rw [trafficRun, happly]
        rfl
      obtain ⟨hallowed₁, hrefused₁⟩ := ih h₁ (by omega)
      rw [hrun, htraffic]
      refine ⟨fun g' hrun' => ?_, hrefused₁⟩
      obtain ⟨self', common', hrun₁, h', hdata'⟩ := hallowed₁ g' hrun'
      refine ⟨self', common', hrun₁, h', ?_⟩
      rw [hdata', hdata₁, List.flatMap_cons, List.append_assoc]

end Run

end TcplsBasics.Ports.Tls13.KeyUpdate
