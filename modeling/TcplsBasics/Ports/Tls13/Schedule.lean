import TcplsBasics.Ports.Tls13.KeySchedule
import TcplsBasics.Ports.RecordLayer
import TcplsBasics.Ports.Cipher
import TcplsBasics.Ports.Msgs.Payload

/-!
# The TLS 1.3 key schedule (`tls13/key_schedule.rs`)

`KeySchedule` keeps the current secret and the suite, and is only used
through typestates: `KeyScheduleEarly` (a resumption PSK), then
`KeySchedulePreHandshake`, `KeyScheduleHandshakeStart` (after the shared
secret), `KeyScheduleHandshake` (the two handshake traffic secrets), the
client's `KeyScheduleClientBeforeFinished` or the server's
`KeyScheduleTrafficWithClientFinishedPending`, and `KeyScheduleTraffic` (the
application traffic and exporter secrets).  Each secret is `hkdf_expand` of
the current one under its `SecretKind`'s label and a transcript hash; moving
to the next stage extracts a new current secret from the hash of no messages
under `"derived"` and the next input.  On each switch of keys a side installs
record protection: `set_encrypter` and `set_decrypter` derive the AEAD key
and IV from a traffic secret and reset that direction's sequence number.

Every `hkdf_expand` unwraps ring's `expand`, which panics past 255 hash
blocks, and `KeySchedule::new` slices a hash's length of zeros out of
`MAX_OUTPUT_LEN`: the model keeps both panics, and the suite carries what ring
guarantees of its algorithms, under which neither happens
(`setEncrypter_eq`, `derive_eq` and the lemmas after them).  Where the source
asserts the side with `debug_assert_eq!` the model panics on the other side.

`CommonState` here is the part of the connection the key schedule reaches:
the side, the record layer's two ciphers and sequence state, and the queued
KeyUpdate.  The key log and the QUIC secrets are left out: neither changes
what is derived or installed.
-/

namespace TcplsBasics.Ports.Tls13.Schedule

open TcplsBasics.Verified.Rust
open TcplsBasics.Verified.Digest (HmacAlgorithm digest)
open TcplsBasics.Verified.Aead (LessSafeKey Kdf)
open TcplsBasics.Ports.Tls13.KeySchedule (HkdfAlgorithm Prk hkdfExpand hkdfExpandInfo expandInfo hkdfExpand_eq
  hkdfExpandInfo_of_le)
open TcplsBasics.Ports.Cipher (Tls13MessageEncrypter Tls13MessageDecrypter Iv nonceLen Side Agrees13)
open TcplsBasics.Ports.RecordLayer (ReadRecordLayer DirectionState)
open TcplsBasics.Ports.Errors TcplsBasics.Ports.Msgs.Enums TcplsBasics.Ports.Msgs.Message
open TcplsBasics.Ports.HashHs

/-! ## Labels and suites -/

/-- `SecretKind`. -/
inductive SecretKind where
  | resumptionPskBinderKey
  | clientEarlyTrafficSecret
  | clientHandshakeTrafficSecret
  | serverHandshakeTrafficSecret
  | clientApplicationTrafficSecret
  | serverApplicationTrafficSecret
  | exporterMasterSecret
  | resumptionMasterSecret
  | derivedSecret
deriving DecidableEq, Repr

/-- `SecretKind::to_bytes`. -/
def SecretKind.toBytes : SecretKind → List UInt8
  | .resumptionPskBinderKey => [0x72, 0x65, 0x73, 0x20, 0x62, 0x69, 0x6e, 0x64, 0x65, 0x72]  -- res binder
  | .clientEarlyTrafficSecret => [0x63, 0x20, 0x65, 0x20, 0x74, 0x72, 0x61, 0x66, 0x66, 0x69, 0x63]  -- c e traffic
  | .clientHandshakeTrafficSecret =>
    [0x63, 0x20, 0x68, 0x73, 0x20, 0x74, 0x72, 0x61, 0x66, 0x66, 0x69, 0x63]  -- c hs traffic
  | .serverHandshakeTrafficSecret =>
    [0x73, 0x20, 0x68, 0x73, 0x20, 0x74, 0x72, 0x61, 0x66, 0x66, 0x69, 0x63]  -- s hs traffic
  | .clientApplicationTrafficSecret =>
    [0x63, 0x20, 0x61, 0x70, 0x20, 0x74, 0x72, 0x61, 0x66, 0x66, 0x69, 0x63]  -- c ap traffic
  | .serverApplicationTrafficSecret =>
    [0x73, 0x20, 0x61, 0x70, 0x20, 0x74, 0x72, 0x61, 0x66, 0x66, 0x69, 0x63]  -- s ap traffic
  | .exporterMasterSecret => [0x65, 0x78, 0x70, 0x20, 0x6d, 0x61, 0x73, 0x74, 0x65, 0x72]  -- exp master
  | .resumptionMasterSecret => [0x72, 0x65, 0x73, 0x20, 0x6d, 0x61, 0x73, 0x74, 0x65, 0x72]  -- res master
  | .derivedSecret => [0x64, 0x65, 0x72, 0x69, 0x76, 0x65, 0x64]  -- derived

/-- `SecretKind::log_label`. -/
def SecretKind.logLabel : SecretKind → Option String
  | .clientEarlyTrafficSecret => some "CLIENT_EARLY_TRAFFIC_SECRET"
  | .clientHandshakeTrafficSecret => some "CLIENT_HANDSHAKE_TRAFFIC_SECRET"
  | .serverHandshakeTrafficSecret => some "SERVER_HANDSHAKE_TRAFFIC_SECRET"
  | .clientApplicationTrafficSecret => some "CLIENT_TRAFFIC_SECRET_0"
  | .serverApplicationTrafficSecret => some "SERVER_TRAFFIC_SECRET_0"
  | .exporterMasterSecret => some "EXPORTER_SECRET"
  | _ => none

/-- `b"finished"`. -/
def finishedLabel : List UInt8 := [0x66, 0x69, 0x6e, 0x69, 0x73, 0x68, 0x65, 0x64]

/-- `b"traffic upd"`. -/
def trafficUpdLabel : List UInt8 := [0x74, 0x72, 0x61, 0x66, 0x66, 0x69, 0x63, 0x20, 0x75, 0x70, 0x64]

/-- `b"resumption"`. -/
def resumptionLabel : List UInt8 := [0x72, 0x65, 0x73, 0x75, 0x6d, 0x70, 0x74, 0x69, 0x6f, 0x6e]

/-- `digest::MAX_OUTPUT_LEN`. -/
def maxOutputLen : Nat := 64

/-- The fields of `Tls13CipherSuite` the key schedule reads: the HKDF, the
HMAC it is built on, and the AEAD algorithm, with what ring guarantees of
its algorithms. -/
structure Tls13CipherSuite where
  hkdfAlgorithm : HkdfAlgorithm
  /-- `hkdf_algorithm.hmac_algorithm()`. -/
  hmacAlgorithm : HmacAlgorithm
  /-- `common.aead_algorithm`. -/
  aeadAlgorithm : Verified.Aead.Algorithm
  /-- ring's HKDF is HMAC over the same hash. -/
  digestAlgorithm_hmac : hmacAlgorithm.digestAlgorithm = hkdfAlgorithm.digest
  /-- No ring digest is longer than `MAX_OUTPUT_LEN`. -/
  outputLen_le : hkdfAlgorithm.digest.outputLen ≤ maxOutputLen
  /-- A traffic key fits in 255 hash blocks: ring's keys are at most 32 bytes long. -/
  keyLen_le : aeadAlgorithm.keyLen ≤ 255 * hkdfAlgorithm.digest.outputLen

/-- `zeroes[..suite.hkdf_algorithm.len()]`. -/
def zeroes (suite : Tls13CipherSuite) : Except Panic (List UInt8) :=
  slice (List.replicate maxOutputLen 0) 0 suite.hkdfAlgorithm.digest.outputLen

/-- `hkdf::Salt::new(suite.hkdf_algorithm, salt).extract(secret)`: HMAC keyed
by the salt. -/
def extract (suite : Tls13CipherSuite) (salt secret : List UInt8) : Prk :=
  ⟨suite.hkdfAlgorithm, suite.hmacAlgorithm.sign salt secret⟩

/-! ## The connection state the key schedule reaches -/

/-- The fields of `CommonState` the key schedule reads and writes, beside
those of the send path. -/
structure CommonState extends Conn.Send.CommonState where
  side : Side
  /-- `record_layer.message_encrypter`; `none` is `InvalidMessageEncrypter`. -/
  messageEncrypter : Option Tls13MessageEncrypter
  /-- `record_layer.message_decrypter`; `none` is `InvalidMessageDecrypter`. -/
  messageDecrypter : Option Tls13MessageDecrypter
  /-- The receiving half of `record_layer`. -/
  readLayer : ReadRecordLayer
  /-- `aligned_handshake`: the last message the deframer gave ended a handshake
  message at a record boundary. -/
  alignedHandshake : Bool

namespace CommonState

/-- `CommonState::new`, with `RecordLayer::new`'s invalid encrypter and
decrypter. -/
def new (side : Side) : CommonState :=
  { toCommonState := Conn.Send.CommonState.new, side := side, messageEncrypter := none, messageDecrypter := none,
    readLayer := ReadRecordLayer.new, alignedHandshake := true }

/-- What the record layer encrypts with. -/
def encrypter (common : CommonState) : MessageEncrypter :=
  match common.messageEncrypter with
  | some e => e.encrypt
  | none => fun _ _ => .error .encryptError

/-- What the record layer decrypts with. -/
def decrypter (common : CommonState) : MessageDecrypter :=
  match common.messageDecrypter with
  | some d => d.decrypt
  | none => RecordLayer.invalidMessageDecrypter

/-- `RecordLayer::set_message_encrypter`: `prepare_message_encrypter`, which
resets the write sequence number, then `start_encrypting`. -/
def setMessageEncrypter (common : CommonState) (cipher : Tls13MessageEncrypter) : CommonState :=
  { common with messageEncrypter := some cipher, recordLayer := ⟨0, true⟩ }

/-- `RecordLayer::set_message_decrypter`: `prepare_message_decrypter`, which
resets the read sequence number, then `start_decrypting`, with trial
decryption off. -/
def setMessageDecrypter (common : CommonState) (cipher : Tls13MessageDecrypter) : CommonState :=
  { common with messageDecrypter := some cipher, readLayer := ⟨0, .active, none⟩ }

/-- `RecordLayer::set_message_decrypter_with_trial_decryption`. -/
def setMessageDecrypterWithTrialDecryption (common : CommonState) (cipher : Tls13MessageDecrypter)
    (maxLength : Nat) : CommonState :=
  { common with messageDecrypter := some cipher, readLayer := ⟨0, .active, some maxLength⟩ }

end CommonState

/-! `KeyUpdateRequest`, as the byte `HandshakePayload::KeyUpdate` carries. -/

namespace KeyUpdateRequest

/-- `KeyUpdateRequest::UpdateNotRequested`. -/
def updateNotRequested : Nat := 0

/-- `KeyUpdateRequest::UpdateRequested`. -/
def updateRequested : Nat := 1

end KeyUpdateRequest

/-- `Message::build_key_update_notify`. -/
def buildKeyUpdateNotify : Message :=
  ⟨Msgs.Handshake.ProtocolVersion.tlsv1_3,
    MessagePayload.mkHandshake ⟨Msgs.Handshake.HandshakeType.keyUpdate,
      .keyUpdate KeyUpdateRequest.updateNotRequested⟩⟩

namespace CommonState

/-- `CommonState::enqueue_key_update_notification`: the notification is
encrypted now, under the keys in use, and queued. -/
def enqueueKeyUpdateNotification (common : CommonState) : Except Panic CommonState := do
  let message := PlainMessage.ofMessage buildKeyUpdateNotify
  let (em, recordLayer) ← common.recordLayer.encryptOutgoing common.encrypter message
  pure { common with recordLayer := recordLayer, queuedKeyUpdateMessage := some em.encode,
                     encrypted := common.encrypted ++ [message] }

/-- `CommonState::check_aligned_handshake`: a key change must not come while
a handshake message is only partly received. -/
def checkAlignedHandshake (common : CommonState) : Except Fatal Unit :=
  if !common.alignedHandshake then
    .error ⟨some .unexpectedMessage, .peerMisbehaved .keyEpochWithPendingFragment⟩
  else .ok ()

/-- `CommonState::should_update_key`. -/
def shouldUpdateKey (common : CommonState) (request : Nat) : Except Fatal Bool :=
  if request = KeyUpdateRequest.updateNotRequested then .ok false
  else if request = KeyUpdateRequest.updateRequested then .ok common.queuedKeyUpdateMessage.isNone
  else .error ⟨some .illegalParameter, .corruptMessagePayload .handshake⟩

end CommonState

/-- `debug_assert_eq!`. -/
def debugAssertEq {α : Type} [DecidableEq α] (left right : α) : Except Panic Unit :=
  if left = right then .ok () else .error assertEqFailed

/-! ## Traffic keys -/

/-- `derive_traffic_key`: `hkdf_expand` under `b"key"` to a key of the
algorithm's length. -/
def deriveTrafficKey (secret : Prk) (aead : Verified.Aead.Algorithm) : Except Panic LessSafeKey := do
  let key ← hkdfExpandInfo secret aead.keyLen [0x6b, 0x65, 0x79] []
  pure ⟨aead, key⟩

/-- `derive_traffic_iv`: `hkdf_expand` under `b"iv"`, filled into the IV. -/
def deriveTrafficIv (secret : Prk) : Except Panic Iv := do
  let iv ← hkdfExpandInfo secret nonceLen [0x69, 0x76] []
  if h : iv.length = nonceLen then pure ⟨iv, h⟩ else .error ⟨unwrapErr⟩

/-! ## `KeySchedule` -/

/-- `KeySchedule`. -/
structure KeySchedule where
  current : Prk
  suite : Tls13CipherSuite

namespace KeySchedule

/-- `KeySchedule::new`: the secret extracted under a zero salt. -/
def new (suite : Tls13CipherSuite) (secret : List UInt8) : Except Panic KeySchedule := do
  let salt ← zeroes suite
  pure ⟨extract suite salt secret, suite⟩

/-- `KeySchedule::new_with_empty_secret`. -/
def newWithEmptySecret (suite : Tls13CipherSuite) : Except Panic KeySchedule := do
  let secret ← zeroes suite
  new suite secret

/-- `KeySchedule::derive`, into a key of `keyType`. -/
def derive (ks : KeySchedule) (keyType : HkdfAlgorithm) (kind : SecretKind) (hsHash : List UInt8) :
    Except Panic Prk :=
  hkdfExpand ks.current keyType kind.toBytes hsHash

/-- `KeySchedule::derive_for_empty_hash`, into a `Prk` or a `Salt`. -/
def deriveForEmptyHash (ks : KeySchedule) (kind : SecretKind) : Except Panic Prk :=
  ks.derive ks.suite.hkdfAlgorithm kind (digest ks.suite.hmacAlgorithm.digestAlgorithm [])

/-- `KeySchedule::input_secret`. -/
def inputSecret (ks : KeySchedule) (secret : List UInt8) : Except Panic KeySchedule := do
  let salt ← ks.deriveForEmptyHash .derivedSecret
  pure { ks with current := extract ks.suite salt.bytes secret }

/-- `KeySchedule::input_empty`. -/
def inputEmpty (ks : KeySchedule) : Except Panic KeySchedule := do
  let secret ← zeroes ks.suite
  ks.inputSecret secret

/-- `KeySchedule::derive_logged_secret`. -/
def deriveLoggedSecret (ks : KeySchedule) (kind : SecretKind) (hsHash : List UInt8) : Except Panic Prk := do
  let _ ← expect kind.logLabel "not a loggable secret"
  ks.derive ks.suite.hkdfAlgorithm kind hsHash

/-- `KeySchedule::sign_verify_data`: HMAC under the key expanded from
`baseKey` by `b"finished"`. -/
def signVerifyData (ks : KeySchedule) (baseKey : Prk) (hsHash : List UInt8) : Except Panic (List UInt8) := do
  let hmacKey ← hkdfExpandInfo baseKey ks.suite.hmacAlgorithm.digestAlgorithm.outputLen finishedLabel []
  pure (ks.suite.hmacAlgorithm.sign hmacKey hsHash)

/-- `KeySchedule::sign_finish`. -/
def signFinish (ks : KeySchedule) (baseKey : Prk) (hsHash : List UInt8) : Except Panic (List UInt8) :=
  ks.signVerifyData baseKey hsHash

/-- `KeySchedule::derive_next`. -/
def deriveNext (ks : KeySchedule) (baseKey : Prk) : Except Panic Prk :=
  hkdfExpand baseKey ks.suite.hkdfAlgorithm trafficUpdLabel []

/-- `KeySchedule::derive_ticket_psk`. -/
def deriveTicketPsk (ks : KeySchedule) (rms : Prk) (nonce : List UInt8) : Except Panic (List UInt8) :=
  hkdfExpandInfo rms ks.suite.hkdfAlgorithm.digest.outputLen resumptionLabel nonce

/-- `KeySchedule::set_encrypter`. -/
def setEncrypter (ks : KeySchedule) (secret : Prk) (common : CommonState) : Except Panic CommonState := do
  let key ← deriveTrafficKey secret ks.suite.aeadAlgorithm
  let iv ← deriveTrafficIv secret
  pure (common.setMessageEncrypter ⟨key, iv⟩)

/-- `KeySchedule::derive_decrypter`. -/
def deriveDecrypter (ks : KeySchedule) (secret : Prk) : Except Panic Tls13MessageDecrypter := do
  let key ← deriveTrafficKey secret ks.suite.aeadAlgorithm
  let iv ← deriveTrafficIv secret
  pure ⟨key, iv⟩

/-- `KeySchedule::set_decrypter`. -/
def setDecrypter (ks : KeySchedule) (secret : Prk) (common : CommonState) : Except Panic CommonState := do
  let cipher ← ks.deriveDecrypter secret
  pure (common.setMessageDecrypter cipher)

end KeySchedule

/-! ## The typestates -/

/-- `KeyScheduleEarly`. -/
structure KeyScheduleEarly where
  ks : KeySchedule

/-- `KeySchedulePreHandshake`. -/
structure KeySchedulePreHandshake where
  ks : KeySchedule

/-- `KeyScheduleHandshakeStart`. -/
structure KeyScheduleHandshakeStart where
  ks : KeySchedule

/-- `KeyScheduleHandshake`. -/
structure KeyScheduleHandshake where
  ks : KeySchedule
  clientHandshakeTrafficSecret : Prk
  serverHandshakeTrafficSecret : Prk

/-- `KeyScheduleTraffic`. -/
structure KeyScheduleTraffic where
  ks : KeySchedule
  currentClientTrafficSecret : Prk
  currentServerTrafficSecret : Prk
  currentExporterSecret : Prk

/-- `KeyScheduleClientBeforeFinished`. -/
structure KeyScheduleClientBeforeFinished where
  traffic : KeyScheduleTraffic

/-- `KeyScheduleTrafficWithClientFinishedPending`. -/
structure KeyScheduleTrafficWithClientFinishedPending where
  handshakeClientTrafficSecret : Prk
  traffic : KeyScheduleTraffic

namespace KeyScheduleEarly

/-- `KeyScheduleEarly::new`. -/
def new (suite : Tls13CipherSuite) (secret : List UInt8) : Except Panic KeyScheduleEarly := do
  let ks ← KeySchedule.new suite secret
  pure ⟨ks⟩

/-- `KeyScheduleEarly::client_early_traffic_secret`: the client encrypts
early data under it, the server decrypts. -/
def clientEarlyTrafficSecret (self : KeyScheduleEarly) (hsHash : List UInt8) (common : CommonState) :
    Except Panic CommonState := do
  let secret ← self.ks.deriveLoggedSecret .clientEarlyTrafficSecret hsHash
  match common.side with
  | .client => self.ks.setEncrypter secret common
  | .server => self.ks.setDecrypter secret common

/-- `KeyScheduleEarly::resumption_psk_binder_key_and_sign_verify_data`. -/
def resumptionPskBinderKeyAndSignVerifyData (self : KeyScheduleEarly) (hsHash : List UInt8) :
    Except Panic (List UInt8) := do
  let resumptionPskBinderKey ← self.ks.deriveForEmptyHash .resumptionPskBinderKey
  self.ks.signVerifyData resumptionPskBinderKey hsHash

end KeyScheduleEarly

namespace KeySchedulePreHandshake

/-- `KeySchedulePreHandshake::new`. -/
def new (suite : Tls13CipherSuite) : Except Panic KeySchedulePreHandshake := do
  let ks ← KeySchedule.newWithEmptySecret suite
  pure ⟨ks⟩

/-- `From<KeyScheduleEarly> for KeySchedulePreHandshake`. -/
def ofEarly (early : KeyScheduleEarly) : KeySchedulePreHandshake := ⟨early.ks⟩

/-- `KeySchedulePreHandshake::into_handshake`: the shared secret goes in. -/
def intoHandshake (self : KeySchedulePreHandshake) (secret : List UInt8) :
    Except Panic KeyScheduleHandshakeStart := do
  let ks ← self.ks.inputSecret secret
  pure ⟨ks⟩

end KeySchedulePreHandshake

namespace KeyScheduleTraffic

/-- `KeyScheduleTraffic::new`. -/
def new (ks : KeySchedule) (hsHash : List UInt8) : Except Panic KeyScheduleTraffic := do
  let ks ← ks.inputEmpty
  let currentClientTrafficSecret ← ks.deriveLoggedSecret .clientApplicationTrafficSecret hsHash
  let currentServerTrafficSecret ← ks.deriveLoggedSecret .serverApplicationTrafficSecret hsHash
  let currentExporterSecret ← ks.deriveLoggedSecret .exporterMasterSecret hsHash
  pure ⟨ks, currentClientTrafficSecret, currentServerTrafficSecret, currentExporterSecret⟩

/-- `KeyScheduleTraffic::next_application_traffic_secret`: the side's secret
moves one step and the new one is returned. -/
def nextApplicationTrafficSecret (self : KeyScheduleTraffic) (side : Side) :
    Except Panic (Prk × KeyScheduleTraffic) :=
  match side with
  | .client => do
    let secret ← self.ks.deriveNext self.currentClientTrafficSecret
    pure (secret, { self with currentClientTrafficSecret := secret })
  | .server => do
    let secret ← self.ks.deriveNext self.currentServerTrafficSecret
    pure (secret, { self with currentServerTrafficSecret := secret })

/-- `KeyScheduleTraffic::update_encrypter_and_notify`: the notification goes
out under the old keys, and the new ones are installed after it. -/
def updateEncrypterAndNotify (self : KeyScheduleTraffic) (common : CommonState) :
    Except Panic (KeyScheduleTraffic × CommonState) := do
  let (secret, self) ← self.nextApplicationTrafficSecret common.side
  let common ← common.enqueueKeyUpdateNotification
  let common ← self.ks.setEncrypter secret common
  pure (self, common)

/-- `KeyScheduleTraffic::update_decrypter`. -/
def updateDecrypter (self : KeyScheduleTraffic) (common : CommonState) :
    Except Panic (KeyScheduleTraffic × CommonState) := do
  let (secret, self) ← self.nextApplicationTrafficSecret common.side.peer
  let common ← self.ks.setDecrypter secret common
  pure (self, common)

/-- `KeyScheduleTraffic::resumption_master_secret_and_derive_ticket_psk`. -/
def resumptionMasterSecretAndDeriveTicketPsk (self : KeyScheduleTraffic) (hsHash nonce : List UInt8) :
    Except Panic (List UInt8) := do
  let resumptionMasterSecret ← self.ks.derive self.ks.suite.hkdfAlgorithm .resumptionMasterSecret hsHash
  self.ks.deriveTicketPsk resumptionMasterSecret nonce

/-- `KeyScheduleTraffic::export_keying_material`. -/
def exportKeyingMaterial (self : KeyScheduleTraffic) (out label : List UInt8) (context : Option (List UInt8)) :
    Except Panic (Except Error (List UInt8)) :=
  KeySchedule.exportKeyingMaterial self.ks.suite.hkdfAlgorithm self.currentExporterSecret out label context

end KeyScheduleTraffic

namespace KeyScheduleHandshakeStart

/-- `KeyScheduleHandshakeStart::into_handshake`: both handshake traffic
secrets, at the hash of the transcript up to the ServerHello. -/
def intoHandshake (self : KeyScheduleHandshakeStart) (hsHash : List UInt8) :
    Except Panic KeyScheduleHandshake := do
  let clientSecret ← self.ks.deriveLoggedSecret .clientHandshakeTrafficSecret hsHash
  let serverSecret ← self.ks.deriveLoggedSecret .serverHandshakeTrafficSecret hsHash
  pure ⟨self.ks, clientSecret, serverSecret⟩

/-- `KeyScheduleHandshakeStart::derive_client_handshake_secrets`: the suite
may have changed on resumption; the client decrypts with the server's secret
and, unless it is sending early data, encrypts with its own. -/
def deriveClientHandshakeSecrets (self : KeyScheduleHandshakeStart) (earlyDataEnabled : Bool)
    (hsHash : List UInt8) (suite : Tls13CipherSuite) (common : CommonState) :
    Except Panic (KeyScheduleHandshake × CommonState) := do
  debugAssertEq common.side .client
  let self : KeyScheduleHandshakeStart := ⟨{ self.ks with suite := suite }⟩
  let new ← self.intoHandshake hsHash
  let common ← new.ks.setDecrypter new.serverHandshakeTrafficSecret common
  let common ← if !earlyDataEnabled then new.ks.setEncrypter new.clientHandshakeTrafficSecret common
    else pure common
  pure (new, common)

/-- `KeyScheduleHandshakeStart::derive_server_handshake_secrets`: the server
encrypts with its secret, and goes on decrypting with what it had. -/
def deriveServerHandshakeSecrets (self : KeyScheduleHandshakeStart) (hsHash : List UInt8)
    (common : CommonState) : Except Panic (KeyScheduleHandshake × CommonState) := do
  debugAssertEq common.side .server
  let new ← self.intoHandshake hsHash
  let common ← new.ks.setEncrypter new.serverHandshakeTrafficSecret common
  pure (new, common)

end KeyScheduleHandshakeStart

namespace KeyScheduleHandshake

/-- `KeyScheduleHandshake::sign_server_finish`. -/
def signServerFinish (self : KeyScheduleHandshake) (hsHash : List UInt8) : Except Panic (List UInt8) :=
  self.ks.signFinish self.serverHandshakeTrafficSecret hsHash

/-- `KeyScheduleHandshake::set_handshake_encrypter`. -/
def setHandshakeEncrypter (self : KeyScheduleHandshake) (common : CommonState) :
    Except Panic CommonState := do
  debugAssertEq common.side .client
  self.ks.setEncrypter self.clientHandshakeTrafficSecret common

/-- `KeyScheduleHandshake::set_handshake_decrypter`: with trial decryption of
`max_early_data_size` bytes when the server skips rejected early data. -/
def setHandshakeDecrypter (self : KeyScheduleHandshake) (skipRequested : Option Nat)
    (common : CommonState) : Except Panic CommonState := do
  debugAssertEq common.side .server
  match skipRequested with
  | none => self.ks.setDecrypter self.clientHandshakeTrafficSecret common
  | some maxEarlyDataSize => do
    let cipher ← self.ks.deriveDecrypter self.clientHandshakeTrafficSecret
    pure (common.setMessageDecrypterWithTrialDecryption cipher maxEarlyDataSize)

/-- `KeyScheduleHandshake::into_traffic_with_client_finished_pending`: the
server writes under its application secret at once, and keeps the client's
handshake secret for the client's Finished. -/
def intoTrafficWithClientFinishedPending (self : KeyScheduleHandshake) (hsHash : List UInt8)
    (common : CommonState) : Except Panic (KeyScheduleTrafficWithClientFinishedPending × CommonState) := do
  debugAssertEq common.side .server
  let traffic ← KeyScheduleTraffic.new self.ks hsHash
  let common ← traffic.ks.setEncrypter traffic.currentServerTrafficSecret common
  pure (⟨self.clientHandshakeTrafficSecret, traffic⟩, common)

/-- `KeyScheduleHandshake::into_pre_finished_client_traffic`: the client's
Finished MAC is signed here, before it switches keys. -/
def intoPreFinishedClientTraffic (self : KeyScheduleHandshake) (preFinishedHash handshakeHash : List UInt8) :
    Except Panic (KeyScheduleClientBeforeFinished × List UInt8) := do
  let traffic ← KeyScheduleTraffic.new self.ks preFinishedHash
  let tag ← traffic.ks.signFinish self.clientHandshakeTrafficSecret handshakeHash
  pure (⟨traffic⟩, tag)

end KeyScheduleHandshake

/-- `KeyScheduleClientBeforeFinished::into_traffic`. -/
def KeyScheduleClientBeforeFinished.intoTraffic (self : KeyScheduleClientBeforeFinished)
    (common : CommonState) : Except Panic (KeyScheduleTraffic × CommonState) := do
  debugAssertEq common.side .client
  let common ← self.traffic.ks.setDecrypter self.traffic.currentServerTrafficSecret common
  let common ← self.traffic.ks.setEncrypter self.traffic.currentClientTrafficSecret common
  pure (self.traffic, common)

namespace KeyScheduleTrafficWithClientFinishedPending

/-- `KeyScheduleTrafficWithClientFinishedPending::update_decrypter`: after
accepted early data, the client's handshake keys take over reading. -/
def updateDecrypter (self : KeyScheduleTrafficWithClientFinishedPending) (common : CommonState) :
    Except Panic CommonState := do
  debugAssertEq common.side .server
  self.traffic.ks.setDecrypter self.handshakeClientTrafficSecret common

/-- `KeyScheduleTrafficWithClientFinishedPending::sign_client_finish`: the
MAC the client's Finished must carry, then the client's application keys
for reading. -/
def signClientFinish (self : KeyScheduleTrafficWithClientFinishedPending) (hsHash : List UInt8)
    (common : CommonState) : Except Panic ((KeyScheduleTraffic × List UInt8) × CommonState) := do
  debugAssertEq common.side .server
  let tag ← self.traffic.ks.signFinish self.handshakeClientTrafficSecret hsHash
  let common ← self.traffic.ks.setDecrypter self.traffic.currentClientTrafficSecret common
  pure ((self.traffic, tag), common)

end KeyScheduleTrafficWithClientFinishedPending

/-! ## What the record layer's setters leave -/

namespace CommonState

variable (common : CommonState) (e : Tls13MessageEncrypter) (d : Tls13MessageDecrypter) (maxLength : Nat)

@[simp] theorem side_setMessageEncrypter : (common.setMessageEncrypter e).side = common.side := rfl

@[simp] theorem side_setMessageDecrypter : (common.setMessageDecrypter d).side = common.side := rfl

@[simp] theorem side_setMessageDecrypterWithTrialDecryption :
    (common.setMessageDecrypterWithTrialDecryption d maxLength).side = common.side := rfl

@[simp] theorem encrypter_setMessageEncrypter : (common.setMessageEncrypter e).encrypter = e.encrypt := rfl

@[simp] theorem encrypter_setMessageDecrypter : (common.setMessageDecrypter d).encrypter = common.encrypter := rfl

@[simp] theorem encrypter_setMessageDecrypterWithTrialDecryption :
    (common.setMessageDecrypterWithTrialDecryption d maxLength).encrypter = common.encrypter := rfl

@[simp] theorem decrypter_setMessageEncrypter : (common.setMessageEncrypter e).decrypter = common.decrypter := rfl

@[simp] theorem decrypter_setMessageDecrypter : (common.setMessageDecrypter d).decrypter = d.decrypt := rfl

@[simp] theorem decrypter_setMessageDecrypterWithTrialDecryption :
    (common.setMessageDecrypterWithTrialDecryption d maxLength).decrypter = d.decrypt := rfl

@[simp] theorem messageEncrypter_setMessageEncrypter : (common.setMessageEncrypter e).messageEncrypter = some e :=
  rfl

@[simp] theorem messageEncrypter_setMessageDecrypter :
    (common.setMessageDecrypter d).messageEncrypter = common.messageEncrypter := rfl

@[simp] theorem messageEncrypter_setMessageDecrypterWithTrialDecryption :
    (common.setMessageDecrypterWithTrialDecryption d maxLength).messageEncrypter = common.messageEncrypter := rfl

@[simp] theorem messageDecrypter_setMessageEncrypter :
    (common.setMessageEncrypter e).messageDecrypter = common.messageDecrypter := rfl

@[simp] theorem messageDecrypter_setMessageDecrypter : (common.setMessageDecrypter d).messageDecrypter = some d :=
  rfl

@[simp] theorem messageDecrypter_setMessageDecrypterWithTrialDecryption :
    (common.setMessageDecrypterWithTrialDecryption d maxLength).messageDecrypter = some d := rfl

@[simp] theorem recordLayer_setMessageEncrypter : (common.setMessageEncrypter e).recordLayer = ⟨0, true⟩ := rfl

@[simp] theorem recordLayer_setMessageDecrypter :
    (common.setMessageDecrypter d).recordLayer = common.recordLayer := rfl

@[simp] theorem recordLayer_setMessageDecrypterWithTrialDecryption :
    (common.setMessageDecrypterWithTrialDecryption d maxLength).recordLayer = common.recordLayer := rfl

@[simp] theorem encrypted_setMessageEncrypter : (common.setMessageEncrypter e).encrypted = common.encrypted := rfl

@[simp] theorem encrypted_setMessageDecrypter : (common.setMessageDecrypter d).encrypted = common.encrypted := rfl

@[simp] theorem readLayer_setMessageEncrypter : (common.setMessageEncrypter e).readLayer = common.readLayer := rfl

@[simp] theorem readLayer_setMessageDecrypter : (common.setMessageDecrypter d).readLayer = ⟨0, .active, none⟩ := rfl

@[simp] theorem readLayer_setMessageDecrypterWithTrialDecryption :
    (common.setMessageDecrypterWithTrialDecryption d maxLength).readLayer = ⟨0, .active, some maxLength⟩ := rfl

end CommonState

/-! ## What each call computes

A secret `hkdf_expand` derives is as long as the hash and of the HKDF it was
expanded under, so no expansion of the schedule runs past 255 blocks: with
the current secret of the suite's HKDF (`KeySchedule.Wf`), every call
returns, and the lemmas below say what. -/

/-- What `hkdf_expand` derives from a secret under its own HKDF, as long as
the hash. -/
def expandSecret (secret : Prk) (label context : List UInt8) : Prk :=
  ⟨secret.algorithm, secret.algorithm.expandBytes secret.bytes
    (expandInfo secret.algorithm.digest.outputLen label context) secret.algorithm.digest.outputLen⟩

@[simp] theorem algorithm_expandSecret (secret : Prk) (label context : List UInt8) :
    (expandSecret secret label context).algorithm = secret.algorithm := rfl

theorem hkdfExpand_self (secret : Prk) (label context : List UInt8) :
    hkdfExpand secret secret.algorithm label context = .ok (expandSecret secret label context) :=
  hkdfExpand_eq label context rfl

theorem length_kdf (alg : HkdfAlgorithm) (secret label context : List UInt8) (n : Nat) :
    (alg.expandBytes secret (expandInfo n label context) n).length = n :=
  alg.length_expandBytes _ _ n

/-- `hkdf_expand` under an HKDF, as the `Kdf` record protection is derived with. -/
def kdf (alg : HkdfAlgorithm) : Kdf :=
  ⟨fun secret label context n => alg.expandBytes secret (expandInfo n label context) n, length_kdf alg⟩

@[simp] theorem debugAssertEq_self {α : Type} [DecidableEq α] (a : α) : debugAssertEq a a = .ok () :=
  if_pos rfl

theorem zeroes_eq (suite : Tls13CipherSuite) :
    zeroes suite = .ok (List.replicate suite.hkdfAlgorithm.digest.outputLen 0) := by
  have hle : suite.hkdfAlgorithm.digest.outputLen ≤ (List.replicate maxOutputLen (0 : UInt8)).length := by
    simpa using suite.outputLen_le
  rw [zeroes, slice_eq_ok (Nat.zero_le _) hle]
  simp [List.take_replicate, Nat.min_eq_left suite.outputLen_le]

namespace Tls13CipherSuite

variable (suite : Tls13CipherSuite)

theorem outputLen_pos : 0 < suite.hkdfAlgorithm.digest.outputLen := by
  rw [← suite.digestAlgorithm_hmac]
  exact suite.hmacAlgorithm.outputLen_pos

/-- The hash of no messages, under the suite's hash. -/
def emptyHash : List UInt8 := digest suite.hkdfAlgorithm.digest []

/-- A string of zeros as long as the hash. -/
def zeros : List UInt8 := List.replicate suite.hkdfAlgorithm.digest.outputLen 0

end Tls13CipherSuite

theorem deriveTrafficKey_eq {secret : Prk} {aead : Verified.Aead.Algorithm}
    (h : aead.keyLen ≤ 255 * secret.algorithm.digest.outputLen) :
    deriveTrafficKey secret aead = .ok (Cipher.deriveTrafficKey (kdf secret.algorithm) secret.bytes aead) := by
  rw [deriveTrafficKey, hkdfExpandInfo_of_le _ _ h]
  rfl

theorem deriveTrafficIv_eq {secret : Prk} (h : nonceLen ≤ 255 * secret.algorithm.digest.outputLen) :
    deriveTrafficIv secret = .ok (Cipher.deriveTrafficIv (kdf secret.algorithm) secret.bytes) := by
  rw [deriveTrafficIv, hkdfExpandInfo_of_le _ _ h, ok_bind, dif_pos (length_kdf _ _ _ _ _)]
  rfl

namespace KeySchedule

/-- The current secret is of the suite's HKDF. -/
def Wf (ks : KeySchedule) : Prop := ks.current.algorithm = ks.suite.hkdfAlgorithm

/-- The secret of `kind` at `hsHash`. -/
def secret (ks : KeySchedule) (kind : SecretKind) (hsHash : List UInt8) : Prk :=
  expandSecret ks.current kind.toBytes hsHash

/-- The schedule after `input_secret`. -/
def next (ks : KeySchedule) (secret : List UInt8) : KeySchedule :=
  ⟨extract ks.suite (ks.secret .derivedSecret ks.suite.emptyHash).bytes secret, ks.suite⟩

@[simp] theorem suite_next (ks : KeySchedule) (secret : List UInt8) : (ks.next secret).suite = ks.suite := rfl

theorem wf_next (ks : KeySchedule) (secret : List UInt8) : (ks.next secret).Wf := rfl

/-- Every secret of a schedule is of the schedule's HKDF. -/
theorem Wf.secret {ks : KeySchedule} (hks : ks.Wf) (kind : SecretKind) (hsHash : List UInt8) :
    (ks.secret kind hsHash).algorithm = ks.suite.hkdfAlgorithm := hks

@[simp] theorem algorithm_secret (ks : KeySchedule) (kind : SecretKind) (hsHash : List UInt8) :
    (ks.secret kind hsHash).algorithm = ks.current.algorithm := rfl

/-- The schedule a handshake starts from: the PSK extracted under a zero
salt, or zeros in its place. -/
def early (suite : Tls13CipherSuite) (psk : Option (List UInt8)) : KeySchedule :=
  ⟨extract suite suite.zeros (psk.getD suite.zeros), suite⟩

@[simp] theorem suite_early (suite : Tls13CipherSuite) (psk : Option (List UInt8)) : (early suite psk).suite = suite :=
  rfl

theorem wf_early (suite : Tls13CipherSuite) (psk : Option (List UInt8)) : (early suite psk).Wf := rfl

/-- The Finished MAC `sign_verify_data` computes under a base key. -/
def verifyData (ks : KeySchedule) (baseKey : Prk) (hsHash : List UInt8) : List UInt8 :=
  ks.suite.hmacAlgorithm.sign (expandSecret baseKey finishedLabel []).bytes hsHash

@[simp] theorem verifyData_next (ks : KeySchedule) (secret : List UInt8) :
    (ks.next secret).verifyData = ks.verifyData := rfl

theorem new_eq (suite : Tls13CipherSuite) (secret : List UInt8) :
    KeySchedule.new suite secret = .ok ⟨extract suite suite.zeros secret, suite⟩ := by
  rw [KeySchedule.new, zeroes_eq, ok_bind]
  rfl

theorem newWithEmptySecret_eq (suite : Tls13CipherSuite) :
    KeySchedule.newWithEmptySecret suite = .ok ⟨extract suite suite.zeros suite.zeros, suite⟩ := by
  rw [KeySchedule.newWithEmptySecret, zeroes_eq, ok_bind, new_eq]
  rfl

section Wf

variable {ks : KeySchedule} (hks : ks.Wf)
include hks

theorem derive_eq (kind : SecretKind) (hsHash : List UInt8) :
    ks.derive ks.suite.hkdfAlgorithm kind hsHash = .ok (ks.secret kind hsHash) := by
  rw [KeySchedule.derive, ← hks]
  exact hkdfExpand_self _ _ _

theorem deriveForEmptyHash_eq (kind : SecretKind) :
    ks.deriveForEmptyHash kind = .ok (ks.secret kind ks.suite.emptyHash) := by
  rw [deriveForEmptyHash, ks.suite.digestAlgorithm_hmac]
  exact derive_eq hks kind _

theorem inputSecret_eq (secret : List UInt8) : ks.inputSecret secret = .ok (ks.next secret) := by
  rw [inputSecret, deriveForEmptyHash_eq hks, ok_bind]
  rfl

theorem inputEmpty_eq : ks.inputEmpty = .ok (ks.next ks.suite.zeros) := by
  rw [inputEmpty, zeroes_eq, ok_bind]
  exact inputSecret_eq hks _

theorem deriveLoggedSecret_eq {kind : SecretKind} (hkind : kind.logLabel.isSome) (hsHash : List UInt8) :
    ks.deriveLoggedSecret kind hsHash = .ok (ks.secret kind hsHash) := by
  obtain ⟨name, hname⟩ := Option.isSome_iff_exists.mp hkind
  rw [deriveLoggedSecret, hname, expect_some, ok_bind]
  exact derive_eq hks kind hsHash

end Wf

/-- The encrypter `set_encrypter` installs for a secret. -/
def encrypterOf (ks : KeySchedule) (secret : Prk) : Tls13MessageEncrypter :=
  Cipher.setEncrypter (kdf secret.algorithm) ks.suite.aeadAlgorithm secret.bytes

/-- The decrypter `derive_decrypter` makes of a secret. -/
def decrypterOf (ks : KeySchedule) (secret : Prk) : Tls13MessageDecrypter :=
  Cipher.deriveDecrypter (kdf secret.algorithm) ks.suite.aeadAlgorithm secret.bytes

@[simp] theorem encrypterOf_next (ks : KeySchedule) (secret : List UInt8) :
    (ks.next secret).encrypterOf = ks.encrypterOf := rfl

@[simp] theorem decrypterOf_next (ks : KeySchedule) (secret : List UInt8) :
    (ks.next secret).decrypterOf = ks.decrypterOf := rfl

/-- The decrypter of a secret opens what the encrypter of that secret seals. -/
theorem agrees_decrypterOf (ks : KeySchedule) (secret : Prk) :
    Agrees13 (ks.decrypterOf secret).decrypt (ks.encrypterOf secret).encrypt :=
  Cipher.deriveDecrypter_agrees _ _ _

section Secret

variable (ks : KeySchedule) {secret : Prk} (hsecret : secret.algorithm = ks.suite.hkdfAlgorithm)
include hsecret

theorem keyLen_le_secret : ks.suite.aeadAlgorithm.keyLen ≤ 255 * secret.algorithm.digest.outputLen := by
  rw [hsecret]
  exact ks.suite.keyLen_le

theorem nonceLen_le_secret : nonceLen ≤ 255 * secret.algorithm.digest.outputLen := by
  have hpos := ks.suite.outputLen_pos
  rw [hsecret, nonceLen]
  omega

theorem deriveDecrypter_eq : ks.deriveDecrypter secret = .ok (ks.decrypterOf secret) := by
  rw [deriveDecrypter, deriveTrafficKey_eq (keyLen_le_secret ks hsecret), ok_bind,
    deriveTrafficIv_eq (nonceLen_le_secret ks hsecret), ok_bind]
  rfl

theorem setEncrypter_eq (common : CommonState) :
    ks.setEncrypter secret common = .ok (common.setMessageEncrypter (ks.encrypterOf secret)) := by
  rw [setEncrypter, deriveTrafficKey_eq (keyLen_le_secret ks hsecret), ok_bind,
    deriveTrafficIv_eq (nonceLen_le_secret ks hsecret), ok_bind]
  rfl

theorem setDecrypter_eq (common : CommonState) :
    ks.setDecrypter secret common = .ok (common.setMessageDecrypter (ks.decrypterOf secret)) := by
  rw [setDecrypter, deriveDecrypter_eq ks hsecret, ok_bind]
  rfl

theorem signVerifyData_eq (hsHash : List UInt8) :
    ks.signVerifyData secret hsHash = .ok (ks.verifyData secret hsHash) := by
  have hle : ks.suite.hmacAlgorithm.digestAlgorithm.outputLen ≤ 255 * secret.algorithm.digest.outputLen := by
    rw [ks.suite.digestAlgorithm_hmac, hsecret]
    omega
  rw [signVerifyData, hkdfExpandInfo_of_le _ _ hle, ok_bind, ks.suite.digestAlgorithm_hmac, ← hsecret]
  rfl

theorem deriveNext_eq : ks.deriveNext secret = .ok (expandSecret secret trafficUpdLabel []) := by
  rw [deriveNext, ← hsecret]
  exact hkdfExpand_self _ _ _

end Secret

end KeySchedule

/-! ## What each stage computes -/

namespace KeySchedule

/-- The handshake traffic secrets `into_handshake` derives at `hsHash`. -/
def handshake (ks : KeySchedule) (hsHash : List UInt8) : KeyScheduleHandshake :=
  ⟨ks, ks.secret .clientHandshakeTrafficSecret hsHash, ks.secret .serverHandshakeTrafficSecret hsHash⟩

/-- The traffic schedule `KeyScheduleTraffic::new` makes at `hsHash`. -/
def traffic (ks : KeySchedule) (hsHash : List UInt8) : KeyScheduleTraffic :=
  let master := ks.next ks.suite.zeros
  ⟨master, master.secret .clientApplicationTrafficSecret hsHash,
    master.secret .serverApplicationTrafficSecret hsHash, master.secret .exporterMasterSecret hsHash⟩

@[simp] theorem ks_handshake (ks : KeySchedule) (hsHash : List UInt8) : (ks.handshake hsHash).ks = ks := rfl

@[simp] theorem clientHandshakeTrafficSecret_handshake (ks : KeySchedule) (hsHash : List UInt8) :
    (ks.handshake hsHash).clientHandshakeTrafficSecret = ks.secret .clientHandshakeTrafficSecret hsHash := rfl

@[simp] theorem serverHandshakeTrafficSecret_handshake (ks : KeySchedule) (hsHash : List UInt8) :
    (ks.handshake hsHash).serverHandshakeTrafficSecret = ks.secret .serverHandshakeTrafficSecret hsHash := rfl

@[simp] theorem ks_traffic (ks : KeySchedule) (hsHash : List UInt8) :
    (ks.traffic hsHash).ks = ks.next ks.suite.zeros := rfl

@[simp] theorem currentClientTrafficSecret_traffic (ks : KeySchedule) (hsHash : List UInt8) :
    (ks.traffic hsHash).currentClientTrafficSecret =
      (ks.next ks.suite.zeros).secret .clientApplicationTrafficSecret hsHash := rfl

@[simp] theorem currentServerTrafficSecret_traffic (ks : KeySchedule) (hsHash : List UInt8) :
    (ks.traffic hsHash).currentServerTrafficSecret =
      (ks.next ks.suite.zeros).secret .serverApplicationTrafficSecret hsHash := rfl

@[simp] theorem currentExporterSecret_traffic (ks : KeySchedule) (hsHash : List UInt8) :
    (ks.traffic hsHash).currentExporterSecret = (ks.next ks.suite.zeros).secret .exporterMasterSecret hsHash := rfl

end KeySchedule

theorem KeyScheduleTraffic.new_eq {ks : KeySchedule} (hks : ks.Wf) (hsHash : List UInt8) :
    KeyScheduleTraffic.new ks hsHash = .ok (ks.traffic hsHash) := by
  have hmaster := ks.wf_next ks.suite.zeros
  rw [KeyScheduleTraffic.new, KeySchedule.inputEmpty_eq hks, ok_bind,
    KeySchedule.deriveLoggedSecret_eq hmaster rfl, ok_bind, KeySchedule.deriveLoggedSecret_eq hmaster rfl, ok_bind,
    KeySchedule.deriveLoggedSecret_eq hmaster rfl, ok_bind]
  rfl

theorem KeyScheduleEarly.new_eq (suite : Tls13CipherSuite) (secret : List UInt8) :
    KeyScheduleEarly.new suite secret = .ok ⟨KeySchedule.early suite (some secret)⟩ := by
  rw [KeyScheduleEarly.new, KeySchedule.new_eq, ok_bind]
  rfl

theorem KeySchedulePreHandshake.new_eq (suite : Tls13CipherSuite) :
    KeySchedulePreHandshake.new suite = .ok ⟨KeySchedule.early suite none⟩ := by
  rw [KeySchedulePreHandshake.new, KeySchedule.newWithEmptySecret_eq, ok_bind]
  rfl

theorem KeySchedulePreHandshake.intoHandshake_eq {self : KeySchedulePreHandshake} (hks : self.ks.Wf)
    (secret : List UInt8) : self.intoHandshake secret = .ok ⟨self.ks.next secret⟩ := by
  rw [KeySchedulePreHandshake.intoHandshake, KeySchedule.inputSecret_eq hks, ok_bind]
  rfl

theorem KeyScheduleHandshakeStart.intoHandshake_eq {self : KeyScheduleHandshakeStart} (hks : self.ks.Wf)
    (hsHash : List UInt8) : self.intoHandshake hsHash = .ok (self.ks.handshake hsHash) := by
  rw [KeyScheduleHandshakeStart.intoHandshake, KeySchedule.deriveLoggedSecret_eq hks rfl, ok_bind,
    KeySchedule.deriveLoggedSecret_eq hks rfl, ok_bind]
  rfl

namespace KeyScheduleHandshakeStart

variable {self : KeyScheduleHandshakeStart} (hks : self.ks.Wf) {common : CommonState}
include hks

theorem deriveClientHandshakeSecrets_eq {suite : Tls13CipherSuite}
    (hsuite : self.ks.suite.hkdfAlgorithm = suite.hkdfAlgorithm) (hside : common.side = .client)
    (earlyDataEnabled : Bool) (hsHash : List UInt8) :
    self.deriveClientHandshakeSecrets earlyDataEnabled hsHash suite common =
      let ks : KeySchedule := { self.ks with suite := suite }
      let common := common.setMessageDecrypter (ks.decrypterOf (ks.secret .serverHandshakeTrafficSecret hsHash))
      .ok (ks.handshake hsHash,
        if earlyDataEnabled then common
        else common.setMessageEncrypter (ks.encrypterOf (ks.secret .clientHandshakeTrafficSecret hsHash))) := by
  -- the suite is replaced before anything is derived; its HKDF is the old one
  have hks' : (⟨self.ks.current, suite⟩ : KeySchedule).Wf := hks.trans hsuite
  rw [deriveClientHandshakeSecrets, hside, debugAssertEq_self, ok_bind]
  dsimp only
  rw [intoHandshake_eq hks', ok_bind]
  simp only [KeySchedule.ks_handshake, KeySchedule.serverHandshakeTrafficSecret_handshake,
    KeySchedule.clientHandshakeTrafficSecret_handshake, KeySchedule.setDecrypter_eq _ (hks'.secret _ _), ok_bind]
  cases earlyDataEnabled with
  | false =>
    simp only [Bool.not_false, if_true, KeySchedule.setEncrypter_eq _ (hks'.secret _ _), ok_bind]
    rfl
  | true => rfl

theorem deriveServerHandshakeSecrets_eq (hside : common.side = .server) (hsHash : List UInt8) :
    self.deriveServerHandshakeSecrets hsHash common =
      .ok (self.ks.handshake hsHash,
        common.setMessageEncrypter (self.ks.encrypterOf (self.ks.secret .serverHandshakeTrafficSecret hsHash))) := by
  rw [deriveServerHandshakeSecrets, hside, debugAssertEq_self, ok_bind, intoHandshake_eq hks, ok_bind]
  simp only [KeySchedule.ks_handshake, KeySchedule.serverHandshakeTrafficSecret_handshake,
    KeySchedule.setEncrypter_eq _ (hks.secret _ _), ok_bind]
  rfl

end KeyScheduleHandshakeStart

namespace KeyScheduleHandshake

variable {ks : KeySchedule} (hks : ks.Wf) (helloHash : List UInt8) {common : CommonState}
include hks

theorem signServerFinish_eq (hsHash : List UInt8) :
    (ks.handshake helloHash).signServerFinish hsHash =
      .ok (ks.verifyData (ks.secret .serverHandshakeTrafficSecret helloHash) hsHash) :=
  KeySchedule.signVerifyData_eq ks (hks.secret _ _) hsHash

theorem setHandshakeEncrypter_eq (hside : common.side = .client) :
    (ks.handshake helloHash).setHandshakeEncrypter common =
      .ok (common.setMessageEncrypter (ks.encrypterOf (ks.secret .clientHandshakeTrafficSecret helloHash))) := by
  rw [setHandshakeEncrypter, hside, debugAssertEq_self, ok_bind]
  exact KeySchedule.setEncrypter_eq ks (hks.secret _ _) common

theorem setHandshakeDecrypter_eq (hside : common.side = .server) (skipRequested : Option Nat) :
    (ks.handshake helloHash).setHandshakeDecrypter skipRequested common =
      let cipher := ks.decrypterOf (ks.secret .clientHandshakeTrafficSecret helloHash)
      .ok (match skipRequested with
        | none => common.setMessageDecrypter cipher
        | some maxEarlyDataSize => common.setMessageDecrypterWithTrialDecryption cipher maxEarlyDataSize) := by
  unfold setHandshakeDecrypter
  rw [hside, debugAssertEq_self, ok_bind]
  cases skipRequested with
  | none => exact KeySchedule.setDecrypter_eq ks (hks.secret _ _) common
  | some maxEarlyDataSize =>
    simp only [KeySchedule.ks_handshake, KeySchedule.clientHandshakeTrafficSecret_handshake,
      KeySchedule.deriveDecrypter_eq ks (hks.secret _ _), ok_bind]
    rfl

theorem intoTrafficWithClientFinishedPending_eq (hside : common.side = .server) (hsHash : List UInt8) :
    (ks.handshake helloHash).intoTrafficWithClientFinishedPending hsHash common =
      .ok (⟨ks.secret .clientHandshakeTrafficSecret helloHash, ks.traffic hsHash⟩,
        common.setMessageEncrypter ((ks.traffic hsHash).ks.encrypterOf (ks.traffic hsHash).currentServerTrafficSecret)) := by
  rw [intoTrafficWithClientFinishedPending, hside, debugAssertEq_self, ok_bind, KeySchedule.ks_handshake,
    KeyScheduleTraffic.new_eq hks, ok_bind]
  simp only [KeySchedule.ks_traffic, KeySchedule.currentServerTrafficSecret_traffic,
    KeySchedule.setEncrypter_eq _ ((ks.wf_next ks.suite.zeros).secret _ _), ok_bind]
  rfl

theorem intoPreFinishedClientTraffic_eq (preFinishedHash handshakeHash : List UInt8) :
    (ks.handshake helloHash).intoPreFinishedClientTraffic preFinishedHash handshakeHash =
      .ok (⟨ks.traffic preFinishedHash⟩,
        ks.verifyData (ks.secret .clientHandshakeTrafficSecret helloHash) handshakeHash) := by
  rw [intoPreFinishedClientTraffic, KeySchedule.ks_handshake, KeyScheduleTraffic.new_eq hks, ok_bind]
  simp only [KeySchedule.ks_traffic, KeySchedule.clientHandshakeTrafficSecret_handshake, KeySchedule.signFinish,
    KeySchedule.signVerifyData_eq (ks.next ks.suite.zeros) (hks.secret _ _), KeySchedule.verifyData_next, ok_bind]
  rfl

end KeyScheduleHandshake

theorem KeyScheduleClientBeforeFinished.intoTraffic_eq {ks : KeySchedule} {common : CommonState}
    (hside : common.side = .client) (hsHash : List UInt8) :
    (⟨ks.traffic hsHash⟩ : KeyScheduleClientBeforeFinished).intoTraffic common =
      let traffic := ks.traffic hsHash
      .ok (traffic, (common.setMessageDecrypter (traffic.ks.decrypterOf traffic.currentServerTrafficSecret)).setMessageEncrypter
        (traffic.ks.encrypterOf traffic.currentClientTrafficSecret)) := by
  have hmaster := ks.wf_next ks.suite.zeros
  rw [intoTraffic, hside, debugAssertEq_self, ok_bind]
  simp only [KeySchedule.ks_traffic, KeySchedule.currentServerTrafficSecret_traffic,
    KeySchedule.currentClientTrafficSecret_traffic, KeySchedule.setDecrypter_eq _ (hmaster.secret _ _),
    KeySchedule.setEncrypter_eq _ (hmaster.secret _ _), ok_bind]
  rfl

namespace KeyScheduleTrafficWithClientFinishedPending

variable {ks : KeySchedule} {secret : Prk} (hsecret : secret.algorithm = ks.suite.hkdfAlgorithm)
  (hsHash : List UInt8) {common : CommonState} (hside : common.side = .server)
include hsecret hside

theorem updateDecrypter_eq :
    (⟨secret, ks.traffic hsHash⟩ : KeyScheduleTrafficWithClientFinishedPending).updateDecrypter common =
      .ok (common.setMessageDecrypter ((ks.traffic hsHash).ks.decrypterOf secret)) := by
  rw [updateDecrypter, hside, debugAssertEq_self, ok_bind]
  exact KeySchedule.setDecrypter_eq (ks.next ks.suite.zeros) hsecret common

theorem signClientFinish_eq (finishedHash : List UInt8) :
    (⟨secret, ks.traffic hsHash⟩ : KeyScheduleTrafficWithClientFinishedPending).signClientFinish finishedHash common =
      let traffic := ks.traffic hsHash
      .ok ((traffic, ks.verifyData secret finishedHash),
        common.setMessageDecrypter (traffic.ks.decrypterOf traffic.currentClientTrafficSecret)) := by
  rw [signClientFinish, hside, debugAssertEq_self, ok_bind]
  simp only [KeySchedule.ks_traffic, KeySchedule.currentClientTrafficSecret_traffic, KeySchedule.signFinish,
    KeySchedule.signVerifyData_eq (ks.next ks.suite.zeros) hsecret, KeySchedule.verifyData_next,
    KeySchedule.setDecrypter_eq _ ((ks.wf_next ks.suite.zeros).secret _ _), ok_bind]
  rfl

end KeyScheduleTrafficWithClientFinishedPending

namespace KeyScheduleEarly

variable {suite : Tls13CipherSuite} {psk : List UInt8}

theorem clientEarlyTrafficSecret_eq (hsHash : List UInt8) (common : CommonState) :
    (⟨KeySchedule.early suite (some psk)⟩ : KeyScheduleEarly).clientEarlyTrafficSecret hsHash common =
      let ks := KeySchedule.early suite (some psk)
      let secret := ks.secret .clientEarlyTrafficSecret hsHash
      .ok (match common.side with
        | .client => common.setMessageEncrypter (ks.encrypterOf secret)
        | .server => common.setMessageDecrypter (ks.decrypterOf secret)) := by
  have hks := KeySchedule.wf_early suite (some psk)
  rw [clientEarlyTrafficSecret, KeySchedule.deriveLoggedSecret_eq hks rfl, ok_bind]
  cases common.side with
  | client => exact KeySchedule.setEncrypter_eq _ (hks.secret _ _) common
  | server => exact KeySchedule.setDecrypter_eq _ (hks.secret _ _) common

theorem resumptionPskBinderKeyAndSignVerifyData_eq (hsHash : List UInt8) :
    (⟨KeySchedule.early suite (some psk)⟩ : KeyScheduleEarly).resumptionPskBinderKeyAndSignVerifyData hsHash =
      let ks := KeySchedule.early suite (some psk)
      .ok (ks.verifyData (ks.secret .resumptionPskBinderKey suite.emptyHash) hsHash) := by
  have hks := KeySchedule.wf_early suite (some psk)
  rw [resumptionPskBinderKeyAndSignVerifyData, KeySchedule.deriveForEmptyHash_eq hks, ok_bind]
  exact KeySchedule.signVerifyData_eq _ (hks.secret _ _) hsHash

end KeyScheduleEarly

end TcplsBasics.Ports.Tls13.Schedule
