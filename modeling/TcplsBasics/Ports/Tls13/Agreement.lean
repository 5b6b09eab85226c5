import TcplsBasics.Ports.Tls13.Schedule
import TcplsBasics.Ports.Server.Hs

/-!
# Both ends of a TLS 1.3 handshake key their records alike

The client and the server walk the key schedule by different calls: the
client from `fill_in_psk_binder` through `derive_client_handshake_secrets`,
`into_pre_finished_client_traffic` and `into_traffic`, the server from
`check_binder` through `derive_server_handshake_secrets`,
`set_handshake_decrypter`, `into_traffic_with_client_finished_pending` and
`sign_client_finish`.  `clientHandshake` and `serverHandshake` are those calls
in the order `client/tls13.rs` and `server/tls13.rs` make them along a
handshake that succeeds, with the rest of each state's handling left out;
the early-data decision decides where each side switches keys.

Given the same PSK, shared secret and transcript hashes, and a resumed suite
of the negotiated one's hash, the two runs meet: the binder and both
Finished MACs are the ones the peer computes, each direction is keyed from
one secret at both ends with its sequence numbers reset, and both ends keep
the same traffic key schedule (`handshake_keys_agree`).  The resumed suite
matters because the client builds its early key schedule under it and
changes suite only in `derive_client_handshake_secrets`.
-/

namespace TcplsBasics.Ports.Tls13.Agreement

open TcplsBasics.Verified.Rust
open TcplsBasics.Ports.Tls13.Schedule
open TcplsBasics.Ports.Tls13.KeySchedule (Prk)
open TcplsBasics.Ports.Cipher (Side Agrees13)
open TcplsBasics.Ports.RecordLayer (DirectionState)
open TcplsBasics.Ports.Server.Hs (EarlyDataDecision)

/-! ## The two runs -/

/-- The transcript hashes a handshake feeds the key schedule: each side
takes them from its own transcript, so they are the same on both sides when
the transcripts are. -/
structure TranscriptHashes where
  /-- The ClientHello up to its binders. -/
  binder : List UInt8
  /-- The ClientHello. -/
  clientHello : List UInt8
  /-- Up to the ServerHello. -/
  serverHello : List UInt8
  /-- Up to the server's CertificateVerify: what the server's Finished covers. -/
  serverFinished : List UInt8
  /-- Up to the server's Finished. -/
  afterServerFinished : List UInt8
  /-- Up to the client's CertificateVerify: what the client's Finished covers. -/
  clientFinished : List UInt8

/-- Suites of one hash.  `can_resume_from` compares hashes; ring's HKDF and
HMAC are fixed by the hash. -/
def SharesHash (prev suite : Tls13CipherSuite) : Prop :=
  prev.hkdfAlgorithm = suite.hkdfAlgorithm ∧ prev.hmacAlgorithm = suite.hmacAlgorithm

/-- What a client's handshake takes from its key schedule: the PSK binder,
the connection after each switch of keys, the two Finished MACs, and the
traffic key schedule. -/
structure ClientKeys where
  binder : Option (List UInt8)
  /-- After the early traffic keys, if early data is sent. -/
  early : CommonState
  /-- Under handshake keys both ways. -/
  handshake : CommonState
  /-- The MAC the server's Finished must carry. -/
  serverFinished : List UInt8
  /-- The MAC the client's Finished carries. -/
  clientFinished : List UInt8
  /-- Under application keys both ways. -/
  traffic : CommonState
  schedule : KeyScheduleTraffic

/-- What a server's handshake takes from its key schedule.  The server
switches its two directions at different times. -/
structure ServerKeys where
  /-- The binder it expects of the PSK. -/
  binder : Option (List UInt8)
  /-- After the early traffic keys, on resumption. -/
  early : CommonState
  /-- Writing under its handshake keys. -/
  handshakeWrite : CommonState
  /-- Reading under the client's handshake keys. -/
  handshakeRead : CommonState
  /-- The MAC its Finished carries. -/
  serverFinished : List UInt8
  /-- Writing under its application keys. -/
  trafficWrite : CommonState
  /-- The MAC the client's Finished must carry. -/
  clientFinished : List UInt8
  /-- Under application keys both ways. -/
  traffic : CommonState
  schedule : KeyScheduleTraffic

/-- `fill_in_psk_binder` and `derive_early_traffic_secret`: on resumption,
the early key schedule under the resumed suite, the binder, and the early
traffic keys when early data is sent. -/
def clientEarly (resuming : Option (Tls13CipherSuite × List UInt8)) (sendsEarlyData : Bool)
    (h : TranscriptHashes) (common : CommonState) :
    Except Panic (Option (KeyScheduleEarly × List UInt8) × CommonState) :=
  match resuming with
  | none => .ok (none, common)
  | some (resumingSuite, secret) => do
    let early ← KeyScheduleEarly.new resumingSuite secret
    let binder ← early.resumptionPskBinderKeyAndSignVerifyData h.binder
    let common ← if sendsEarlyData then early.clientEarlyTrafficSecret h.clientHello common else pure common
    pure (some (early, binder), common)

/-- `handle_server_hello` up to the shared secret: on resumption the schedule
goes on from the early one, under the resumed suite, and otherwise starts
afresh. -/
def clientPreHandshake (suite : Tls13CipherSuite) (early : Option KeyScheduleEarly) :
    Except Panic KeySchedulePreHandshake :=
  match early with
  | some early => .ok (KeySchedulePreHandshake.ofEarly early)
  | none => KeySchedulePreHandshake.new suite

/-- `derive_client_handshake_secrets`, then `ExpectEncryptedExtensions` and
`ExpectFinished` up to the client's own flight: the handshake secrets, the
MAC the server's Finished must carry, and the client under handshake keys.
With early data the client's handshake encrypter waits for the server's
answer. -/
def clientHandshakeKeys (suite : Tls13CipherSuite) (start : KeyScheduleHandshakeStart) (resumed : Bool)
    (decision : EarlyDataDecision) (h : TranscriptHashes) (common : CommonState) :
    Except Panic (KeyScheduleHandshake × List UInt8 × CommonState) := do
  let earlyDataEnabled := resumed && decision != .disabled
  let (hs, common) ← start.deriveClientHandshakeSecrets earlyDataEnabled h.serverHello suite common
  -- `ExpectEncryptedExtensions`: the server turned the early data down
  let common ← if earlyDataEnabled && decision == .requestedButRejected then hs.setHandshakeEncrypter common
    else pure common
  let serverFinished ← hs.signServerFinish h.serverFinished
  -- `ExpectFinished`: `EndOfEarlyData` went out under the early keys
  let common ← if earlyDataEnabled && decision == .accepted then hs.setHandshakeEncrypter common
    else pure common
  pure (hs, serverFinished, common)

/-- The client's calls on the key schedule along a handshake. -/
def clientHandshake (suite : Tls13CipherSuite) (resuming : Option (Tls13CipherSuite × List UInt8))
    (decision : EarlyDataDecision) (sharedSecret : List UInt8) (h : TranscriptHashes) (common : CommonState) :
    Except Panic ClientKeys := do
  let (early, common) ← clientEarly resuming (decision != .disabled) h common
  let earlyState := common
  let pre ← clientPreHandshake suite (early.map Prod.fst)
  let start ← pre.intoHandshake sharedSecret
  let (hs, serverFinished, common) ← clientHandshakeKeys suite start early.isSome decision h common
  let handshakeState := common
  let (beforeFinished, clientFinished) ← hs.intoPreFinishedClientTraffic h.afterServerFinished h.clientFinished
  let (schedule, common) ← beforeFinished.intoTraffic common
  pure ⟨early.map Prod.snd, earlyState, handshakeState, serverFinished, clientFinished, common, schedule⟩

/-- `check_binder`, for the PSK the server selects. -/
def serverBinder (suite : Tls13CipherSuite) (psk : Option (List UInt8)) (h : TranscriptHashes) :
    Except Panic (Option (List UInt8)) :=
  match psk with
  | none => .ok none
  | some psk => do
    let early ← KeyScheduleEarly.new suite psk
    let binder ← early.resumptionPskBinderKeyAndSignVerifyData h.binder
    pure (some binder)

/-- `emit_server_hello` up to the shared secret: on resumption the server
reads under the early traffic keys, whatever it decides about early data. -/
def serverEarly (suite : Tls13CipherSuite) (psk : Option (List UInt8)) (h : TranscriptHashes)
    (common : CommonState) : Except Panic (KeySchedulePreHandshake × CommonState) :=
  match psk with
  | none => do
    let pre ← KeySchedulePreHandshake.new suite
    pure (pre, common)
  | some psk => do
    let early ← KeyScheduleEarly.new suite psk
    let common ← early.clientEarlyTrafficSecret h.clientHello common
    pure (KeySchedulePreHandshake.ofEarly early, common)

/-- The server's calls on the key schedule along a handshake: accepted early
data is read under the early keys until `EndOfEarlyData`, after the server
already writes under its application keys. -/
def serverHandshake (suite : Tls13CipherSuite) (psk : Option (List UInt8)) (decision : EarlyDataDecision)
    (maxEarlyDataSize : Nat) (sharedSecret : List UInt8) (h : TranscriptHashes) (common : CommonState) :
    Except Panic ServerKeys := do
  let binder ← serverBinder suite psk h
  let (pre, common) ← serverEarly suite psk h common
  let earlyState := common
  let start ← pre.intoHandshake sharedSecret
  let (hs, common) ← start.deriveServerHandshakeSecrets h.serverHello common
  let handshakeWrite := common
  -- `ExpectClientHello::handle`, after the server's flight
  let common ← match decision with
    | .disabled => hs.setHandshakeDecrypter none common
    | .requestedButRejected => hs.setHandshakeDecrypter (some maxEarlyDataSize) common
    | .accepted => pure common
  let serverFinished ← hs.signServerFinish h.serverFinished
  let (pending, common) ← hs.intoTrafficWithClientFinishedPending h.afterServerFinished common
  let trafficWrite := common
  -- `ExpectEarlyData`: `EndOfEarlyData`
  let common ← if decision = .accepted then pending.updateDecrypter common else pure common
  let handshakeRead := common
  let ((schedule, clientFinished), common) ← pending.signClientFinish h.clientFinished common
  pure ⟨binder, earlyState, handshakeWrite, handshakeRead, serverFinished, trafficWrite, clientFinished, common,
    schedule⟩

/-- One direction of a connection is keyed alike at both ends: the reader
opens what the writer seals, and both count records from zero. -/
structure Paired (writer reader : CommonState) : Prop where
  agrees : Agrees13 reader.decrypter writer.encrypter
  writeSeq_eq : writer.recordLayer.writeSeq = 0
  readSeq_eq : reader.readLayer.readSeq = 0

/-- Ends keyed from one secret of one suite are paired. -/
theorem Paired.of_secret {writer reader : CommonState} (ks : KeySchedule) (secret : Prk)
    (hw : writer.encrypter = (ks.encrypterOf secret).encrypt) (hr : reader.decrypter = (ks.decrypterOf secret).decrypt)
    (hwseq : writer.recordLayer.writeSeq = 0) (hrseq : reader.readLayer.readSeq = 0) : Paired writer reader :=
  ⟨hr ▸ hw ▸ ks.agrees_decrypterOf secret, hwseq, hrseq⟩

/-! ## What the runs compute -/

section Spec

variable {suite resumingSuite : Tls13CipherSuite}

/-- A resumed suite of the negotiated one's hash starts the same schedule. -/
theorem current_early (hshares : SharesHash resumingSuite suite) (psk : Option (List UInt8)) :
    (KeySchedule.early resumingSuite psk).current = (KeySchedule.early suite psk).current := by
  obtain ⟨hkdf, hmac⟩ := hshares
  simp only [KeySchedule.early, extract, Tls13CipherSuite.zeros, hkdf, hmac]

/-- The client's change of suite in `derive_client_handshake_secrets` leaves
it with the server's schedule. -/
theorem next_withSuite (hshares : SharesHash resumingSuite suite) (psk : Option (List UInt8))
    (secret : List UInt8) :
    ({ (KeySchedule.early resumingSuite psk).next secret with suite := suite } : KeySchedule) =
      (KeySchedule.early suite psk).next secret := by
  obtain ⟨hkdf, hmac⟩ := hshares
  simp only [KeySchedule.next, KeySchedule.early, KeySchedule.secret, extract, Tls13CipherSuite.zeros,
    Tls13CipherSuite.emptyHash, hkdf, hmac]

theorem secret_early (hshares : SharesHash resumingSuite suite) (psk : Option (List UInt8)) (kind : SecretKind)
    (hsHash : List UInt8) :
    (KeySchedule.early resumingSuite psk).secret kind hsHash = (KeySchedule.early suite psk).secret kind hsHash := by
  rw [KeySchedule.secret, KeySchedule.secret, current_early hshares]

theorem verifyData_early (hshares : SharesHash resumingSuite suite) (psk : Option (List UInt8)) (baseKey : Prk)
    (hsHash : List UInt8) :
    (KeySchedule.early resumingSuite psk).verifyData baseKey hsHash = (KeySchedule.early suite psk).verifyData baseKey hsHash := by
  simp only [KeySchedule.verifyData, KeySchedule.suite_early, hshares.2]

theorem emptyHash_eq (hshares : SharesHash resumingSuite suite) : resumingSuite.emptyHash = suite.emptyHash := by
  simp only [Tls13CipherSuite.emptyHash, hshares.1]

theorem clientEarly_some {common : CommonState} (hside : common.side = .client) (psk : List UInt8)
    (sendsEarlyData : Bool) (h : TranscriptHashes) :
    clientEarly (some (resumingSuite, psk)) sendsEarlyData h common =
      let ks := KeySchedule.early resumingSuite (some psk)
      .ok (some (⟨ks⟩, ks.verifyData (ks.secret .resumptionPskBinderKey resumingSuite.emptyHash) h.binder),
        if sendsEarlyData then common.setMessageEncrypter (ks.encrypterOf (ks.secret .clientEarlyTrafficSecret h.clientHello))
        else common) := by
  simp only [clientEarly, KeyScheduleEarly.new_eq, ok_bind, KeyScheduleEarly.resumptionPskBinderKeyAndSignVerifyData_eq]
  cases sendsEarlyData with
  | false => rfl
  | true => simp only [if_true, KeyScheduleEarly.clientEarlyTrafficSecret_eq, hside, ok_bind]; rfl

/-- The client's early phase under a resumed suite of the negotiated one's
hash: its binder is the one the server computes, its schedule goes on as the
server's once the suite is swapped, and its early data is keyed as the
server's would be under the same AEAD. -/
theorem clientEarly_spec (hshares : SharesHash resumingSuite suite) {common : CommonState}
    (hside : common.side = .client) (psk : Option (List UInt8)) (sendsEarlyData : Bool) (h : TranscriptHashes) :
    let ks := KeySchedule.early suite psk
    ∃ early earlyState, clientEarly (psk.map (resumingSuite, ·)) sendsEarlyData h common = .ok (early, earlyState) ∧
      earlyState.side = .client ∧
      early.map Prod.snd = psk.map (fun p => let ks := KeySchedule.early suite (some p)
        ks.verifyData (ks.secret .resumptionPskBinderKey suite.emptyHash) h.binder) ∧
      (∃ ks₀ : KeySchedule, clientPreHandshake suite (early.map Prod.fst) = .ok ⟨ks₀⟩ ∧ ks₀.Wf ∧
        ks₀.suite.hkdfAlgorithm = suite.hkdfAlgorithm ∧
        ∀ secret, ({ ks₀.next secret with suite := suite } : KeySchedule) = ks.next secret) ∧
      (psk.isSome → sendsEarlyData → resumingSuite.aeadAlgorithm = suite.aeadAlgorithm →
        earlyState = common.setMessageEncrypter (ks.encrypterOf (ks.secret .clientEarlyTrafficSecret h.clientHello))) := by
  cases psk with
  | none =>
    refine ⟨none, common, rfl, hside, rfl,
      ⟨KeySchedule.early suite none, KeySchedulePreHandshake.new_eq suite, rfl, rfl, fun _ => rfl⟩, ?_⟩
    intro hsome
    cases hsome
  | some psk =>
    refine ⟨_, _, clientEarly_some hside psk sendsEarlyData h, ?side, ?binder,
      ⟨KeySchedule.early resumingSuite (some psk), rfl, rfl, hshares.1, next_withSuite hshares (some psk)⟩, ?early⟩
    case side => cases sendsEarlyData <;> exact hside
    case binder =>
      simp only [Option.map_some, verifyData_early hshares, secret_early hshares, emptyHash_eq hshares]
    case early =>
      intro _ hsends haead
      simp only [hsends, if_true, secret_early hshares, KeySchedule.encrypterOf, KeySchedule.suite_early, haead]

/-- The client's handshake phase ends under both handshake keys of the
negotiated suite, whatever became of early data: only the moment its
encrypter switches depends on it. -/
theorem clientHandshakeKeys_eq {ks₀ : KeySchedule} (hks : ks₀.Wf) (hsuite : ks₀.suite.hkdfAlgorithm = suite.hkdfAlgorithm)
    {common : CommonState} (hside : common.side = .client) (resumed : Bool) (decision : EarlyDataDecision)
    (h : TranscriptHashes) :
    clientHandshakeKeys suite ⟨ks₀⟩ resumed decision h common =
      let ks : KeySchedule := { ks₀ with suite := suite }
      let serverSecret := ks.secret .serverHandshakeTrafficSecret h.serverHello
      .ok (ks.handshake h.serverHello, ks.verifyData serverSecret h.serverFinished,
        (common.setMessageDecrypter (ks.decrypterOf serverSecret)).setMessageEncrypter
          (ks.encrypterOf (ks.secret .clientHandshakeTrafficSecret h.serverHello))) := by
  have hks' : ({ ks₀ with suite := suite } : KeySchedule).Wf := hks.trans hsuite
  unfold clientHandshakeKeys
  dsimp only
  rw [KeyScheduleHandshakeStart.deriveClientHandshakeSecrets_eq hks hsuite hside, ok_bind]
  dsimp only
  simp only [KeyScheduleHandshake.signServerFinish_eq hks', ok_bind]
  cases resumed with
  | false => rfl
  | true =>
    cases decision with
    | disabled => rfl
    | requestedButRejected =>
      simp +decide only [if_true, if_false, KeyScheduleHandshake.setHandshakeEncrypter_eq hks',
        CommonState.side_setMessageDecrypter, hside, ok_bind]
      rfl
    | accepted =>
      simp +decide only [if_true, if_false, pure_bind, KeyScheduleHandshake.setHandshakeEncrypter_eq hks',
        CommonState.side_setMessageDecrypter, hside, ok_bind]
      rfl

/-- The client's run after its early phase: under the negotiated suite it
keys the handshake both ways, signs both Finished MACs, and keys application
traffic both ways. -/
theorem clientHandshake_eq {resuming : Option (Tls13CipherSuite × List UInt8)} {decision : EarlyDataDecision}
    {h : TranscriptHashes} {common earlyState : CommonState} {early : Option (KeyScheduleEarly × List UInt8)}
    (hearly : clientEarly resuming (decision != .disabled) h common = .ok (early, earlyState))
    (hside : earlyState.side = .client) {ks₀ : KeySchedule}
    (hpre : clientPreHandshake suite (early.map Prod.fst) = .ok ⟨ks₀⟩) (hks : ks₀.Wf)
    (hsuite : ks₀.suite.hkdfAlgorithm = suite.hkdfAlgorithm) (sharedSecret : List UInt8) :
    clientHandshake suite resuming decision sharedSecret h common =
      let ks : KeySchedule := { ks₀.next sharedSecret with suite := suite }
      let serverSecret := ks.secret .serverHandshakeTrafficSecret h.serverHello
      let clientSecret := ks.secret .clientHandshakeTrafficSecret h.serverHello
      let handshake :=
        (earlyState.setMessageDecrypter (ks.decrypterOf serverSecret)).setMessageEncrypter (ks.encrypterOf clientSecret)
      let traffic := ks.traffic h.afterServerFinished
      .ok ⟨early.map Prod.snd, earlyState, handshake, ks.verifyData serverSecret h.serverFinished,
        ks.verifyData clientSecret h.clientFinished,
        (handshake.setMessageDecrypter (traffic.ks.decrypterOf traffic.currentServerTrafficSecret)).setMessageEncrypter
          (traffic.ks.encrypterOf traffic.currentClientTrafficSecret), traffic⟩ := by
  have hks' : ({ ks₀.next sharedSecret with suite := suite } : KeySchedule).Wf := (ks₀.wf_next sharedSecret).trans hsuite
  unfold clientHandshake
  rw [hearly, ok_bind]
  dsimp only
  rw [hpre, ok_bind, KeySchedulePreHandshake.intoHandshake_eq hks, ok_bind,
    clientHandshakeKeys_eq (ks₀.wf_next sharedSecret) hsuite hside, ok_bind]
  dsimp only
  rw [KeyScheduleHandshake.intoPreFinishedClientTraffic_eq hks', ok_bind]
  dsimp only
  rw [KeyScheduleClientBeforeFinished.intoTraffic_eq (by simp only [CommonState.side_setMessageEncrypter,
    CommonState.side_setMessageDecrypter, hside]), ok_bind]
  rfl

theorem serverBinder_eq (psk : Option (List UInt8)) (h : TranscriptHashes) :
    serverBinder suite psk h = .ok (psk.map fun p => let ks := KeySchedule.early suite (some p)
      ks.verifyData (ks.secret .resumptionPskBinderKey suite.emptyHash) h.binder) := by
  cases psk with
  | none => rfl
  | some psk =>
    simp only [serverBinder, KeyScheduleEarly.new_eq, ok_bind,
      KeyScheduleEarly.resumptionPskBinderKeyAndSignVerifyData_eq]
    rfl

/-- On resumption the server reads under the early traffic keys at once. -/
theorem serverEarly_eq {common : CommonState} (hside : common.side = .server) (psk : Option (List UInt8))
    (h : TranscriptHashes) :
    serverEarly suite psk h common = .ok (⟨KeySchedule.early suite psk⟩, match psk with
      | none => common
      | some p =>
        let ks := KeySchedule.early suite (some p)
        common.setMessageDecrypter (ks.decrypterOf (ks.secret .clientEarlyTrafficSecret h.clientHello))) := by
  cases psk with
  | none =>
    simp only [serverEarly, KeySchedulePreHandshake.new_eq, ok_bind]
    rfl
  | some psk =>
    simp only [serverEarly, KeyScheduleEarly.new_eq, ok_bind, KeyScheduleEarly.clientEarlyTrafficSecret_eq, hside]
    rfl

/-- The server's run after its early phase: it writes under its handshake
keys, reads the client's flight under the client's handshake keys (after
the early data it accepted, or skipping what it rejected), writes under its
application keys before the client's Finished, and reads under the
client's application keys after it. -/
theorem serverHandshake_eq {psk : Option (List UInt8)} {decision : EarlyDataDecision} {h : TranscriptHashes}
    {common earlyState : CommonState} {binder : Option (List UInt8)} {ks₀ : KeySchedule}
    (hbinder : serverBinder suite psk h = .ok binder) (hearly : serverEarly suite psk h common = .ok (⟨ks₀⟩, earlyState))
    (hks : ks₀.Wf) (hside : earlyState.side = .server) (maxEarlyDataSize : Nat) (sharedSecret : List UInt8) :
    serverHandshake suite psk decision maxEarlyDataSize sharedSecret h common =
      let ks := ks₀.next sharedSecret
      let clientSecret := ks.secret .clientHandshakeTrafficSecret h.serverHello
      let serverSecret := ks.secret .serverHandshakeTrafficSecret h.serverHello
      let handshakeWrite := earlyState.setMessageEncrypter (ks.encrypterOf serverSecret)
      let traffic := ks.traffic h.afterServerFinished
      let trafficWrite := (match decision with
        | .disabled => handshakeWrite.setMessageDecrypter (ks.decrypterOf clientSecret)
        | .requestedButRejected =>
          handshakeWrite.setMessageDecrypterWithTrialDecryption (ks.decrypterOf clientSecret) maxEarlyDataSize
        | .accepted => handshakeWrite).setMessageEncrypter (traffic.ks.encrypterOf traffic.currentServerTrafficSecret)
      let handshakeRead :=
        if decision = .accepted then trafficWrite.setMessageDecrypter (traffic.ks.decrypterOf clientSecret) else trafficWrite
      .ok ⟨binder, earlyState, handshakeWrite, handshakeRead, ks.verifyData serverSecret h.serverFinished, trafficWrite,
        ks.verifyData clientSecret h.clientFinished,
        handshakeRead.setMessageDecrypter (traffic.ks.decrypterOf traffic.currentClientTrafficSecret), traffic⟩ := by
  have hnext := ks₀.wf_next sharedSecret
  unfold serverHandshake
  rw [hbinder, ok_bind, hearly, ok_bind]
  dsimp only
  rw [KeySchedulePreHandshake.intoHandshake_eq hks, ok_bind]
  dsimp only
  rw [@KeyScheduleHandshakeStart.deriveServerHandshakeSecrets_eq ⟨ks₀.next sharedSecret⟩ hnext _ hside, ok_bind]
  dsimp only
  -- what the server reads the client's flight with is the decision's; the
  -- rest of the run is the same calls on each branch
  cases decision <;>
  simp +decide only [KeyScheduleHandshake.setHandshakeDecrypter_eq hnext, KeyScheduleHandshake.signServerFinish_eq hnext,
    KeyScheduleHandshake.intoTrafficWithClientFinishedPending_eq hnext,
    KeyScheduleTrafficWithClientFinishedPending.updateDecrypter_eq (hnext.secret _ _),
    KeyScheduleTrafficWithClientFinishedPending.signClientFinish_eq (hnext.secret _ _), CommonState.side_setMessageEncrypter,
    CommonState.side_setMessageDecrypter, CommonState.side_setMessageDecrypterWithTrialDecryption, hside, ok_bind,
    pure_bind, if_true, if_false] <;>
  rfl

end Spec

/-! ## The two ends agree -/

section Agree

variable {suite resumingSuite : Tls13CipherSuite}

/-- Given one PSK, one shared secret and one transcript, and a resumed suite
of the negotiated one's hash, the client's and the server's runs both
return and meet: the client's binder is the one the server checks, each
direction is keyed from one secret at both ends and counted from its first
record, both Finished MACs are the ones the peer computes, and both ends
keep one traffic key schedule.  Early data the client sends under the
negotiated AEAD is keyed as the server reads it. -/
theorem handshake_keys_agree (hshares : SharesHash resumingSuite suite) {cc sc : CommonState}
    (hcside : cc.side = .client) (hsside : sc.side = .server) (psk : Option (List UInt8))
    (decision : EarlyDataDecision) (maxEarlyDataSize : Nat) (sharedSecret : List UInt8) (h : TranscriptHashes) :
    ∃ c s, clientHandshake suite (psk.map (resumingSuite, ·)) decision sharedSecret h cc = .ok c ∧
      serverHandshake suite psk decision maxEarlyDataSize sharedSecret h sc = .ok s ∧
      c.binder = s.binder ∧
      Paired s.handshakeWrite c.handshake ∧ Paired c.handshake s.handshakeRead ∧
      c.serverFinished = s.serverFinished ∧ c.clientFinished = s.clientFinished ∧
      Paired s.trafficWrite c.traffic ∧ Paired c.traffic s.traffic ∧ c.schedule = s.schedule ∧
      (psk.isSome → decision ≠ .disabled → resumingSuite.aeadAlgorithm = suite.aeadAlgorithm →
        Paired c.early s.early) := by
  obtain ⟨early, earlyState, hearly, hside, hbinder, ⟨ks₀, hpre, hks₀, hsuite₀, hks⟩, hearlyKeys⟩ :=
    clientEarly_spec hshares hcside psk (decision != .disabled) h
  rw [clientHandshake_eq hearly hside hpre hks₀ hsuite₀ sharedSecret, hks sharedSecret,
    serverHandshake_eq (serverBinder_eq psk h) (serverEarly_eq hsside psk h) (KeySchedule.wf_early suite psk)
      (by cases psk <;> exact hsside) maxEarlyDataSize sharedSecret]
  set ks := (KeySchedule.early suite psk).next sharedSecret
  refine ⟨_, _, rfl, rfl, hbinder, ?handshakeWrite, ?handshakeRead, rfl, rfl, ?trafficWrite, ?traffic, rfl, ?early⟩
  case handshakeWrite =>
    exact Paired.of_secret ks (ks.secret .serverHandshakeTrafficSecret h.serverHello) (by simp) (by simp) (by simp)
      (by simp)
  case handshakeRead =>
    cases decision <;>
    exact Paired.of_secret ks (ks.secret .clientHandshakeTrafficSecret h.serverHello) (by simp) (by simp) (by simp)
      (by simp)
  case trafficWrite =>
    exact Paired.of_secret (ks.traffic h.afterServerFinished).ks (ks.traffic h.afterServerFinished).currentServerTrafficSecret
      (by simp) (by simp) (by simp) (by simp)
  case traffic =>
    exact Paired.of_secret (ks.traffic h.afterServerFinished).ks (ks.traffic h.afterServerFinished).currentClientTrafficSecret
      (by simp) (by simp) (by simp) (by simp)
  case early =>
    intro hsome hdecision haead
    have hsends : earlyState = _ := hearlyKeys hsome (bne_iff_ne.mpr hdecision) haead
    cases psk with
    | none => cases hsome
    | some p =>
      exact Paired.of_secret (KeySchedule.early suite (some p))
        ((KeySchedule.early suite (some p)).secret .clientEarlyTrafficSecret h.clientHello)
        (by simp [hsends]) (by simp) (by simp [hsends]) (by simp)

theorem length_zeroSign :
    ∀ _ _ : List UInt8, (List.replicate 32 (0 : UInt8)).length = KeySchedule.zeroHkdf.digest.outputLen :=
  fun _ _ => List.length_replicate

theorem zeroHkdf_outputLen_le : KeySchedule.zeroHkdf.digest.outputLen ≤ maxOutputLen := by
  decide

theorem nullAead_keyLen_le : Cipher.nullAead.keyLen ≤ 255 * KeySchedule.zeroHkdf.digest.outputLen := by
  decide

/-- A SHA-256-sized hash, an all-zero HKDF-Expand and a zero HMAC, over the
null AEAD. -/
def zeroSuite : Tls13CipherSuite where
  hkdfAlgorithm := KeySchedule.zeroHkdf
  hmacAlgorithm := ⟨KeySchedule.zeroHkdf.digest, fun _ _ => List.replicate 32 0, length_zeroSign, by decide⟩
  aeadAlgorithm := Cipher.nullAead
  digestAlgorithm_hmac := Eq.refl KeySchedule.zeroHkdf.digest
  outputLen_le := zeroHkdf_outputLen_le
  keyLen_le := nullAead_keyLen_le

theorem zero_handshake_keys_agree :
    SharesHash zeroSuite zeroSuite ∧ (CommonState.new .client).side = .client ∧
      (CommonState.new .server).side = .server ∧
    ∃ c s, clientHandshake zeroSuite ((some [1]).map (zeroSuite, ·)) .accepted [2] ⟨[3], [4], [5], [6], [7], [8]⟩
        (CommonState.new .client) = .ok c ∧
      serverHandshake zeroSuite (some [1]) .accepted 16 [2] ⟨[3], [4], [5], [6], [7], [8]⟩ (CommonState.new .server) =
        .ok s ∧
      c.binder = s.binder ∧
      Paired s.handshakeWrite c.handshake ∧ Paired c.handshake s.handshakeRead ∧
      c.serverFinished = s.serverFinished ∧ c.clientFinished = s.clientFinished ∧
      Paired s.trafficWrite c.traffic ∧ Paired c.traffic s.traffic ∧ c.schedule = s.schedule ∧
      ((some [1]).isSome → EarlyDataDecision.accepted ≠ .disabled →
        zeroSuite.aeadAlgorithm = zeroSuite.aeadAlgorithm → Paired c.early s.early) :=
  ⟨⟨rfl, rfl⟩, rfl, rfl, handshake_keys_agree ⟨rfl, rfl⟩ rfl rfl (some [1]) .accepted 16 [2] ⟨[3], [4], [5], [6], [7], [8]⟩⟩

end Agree

end TcplsBasics.Ports.Tls13.Agreement
