import TcplsBasics.Ports.Tls13.Agreement
import TcplsBasics.Ports.Tls13.Rfc8446

/-!
# The key schedule computes RFC 8446's

`tls13/key_schedule.rs` keeps its secrets as `hkdf::Prk`s and hands them on
from one typestate to the next; RFC 8446 §7 writes the same schedule as
Derive-Secret, HKDF-Extract and HKDF-Expand-Label over byte strings
(`Rfc8446`).  Every label the schedule expands under is short and every
context is a hash or empty, so each `hkdf_expand` of the source is an
HKDF-Expand-Label that can be formed (`expandLabel_expandSecret`), and the
secrets, the Finished MACs, the binder and the traffic keys come out as §7
has them.

At the level of a whole run: a server that walks `server/tls13.rs`'s calls
over the hashes of a transcript writes and reads each direction under the
keys §7.3 derives from the secret §7.1 names for it, checks the binder of
§4.2.11.2, and signs and checks the Finished MACs of §4.4.4
(`serverHandshake_refines_rfc8446`).
-/

namespace TcplsBasics.Ports.Tls13.Refinement

open TcplsBasics.Verified.Digest (digest length_digest)
open TcplsBasics.Ports.Tls13.KeySchedule (HkdfAlgorithm Prk expandLabel expandLabel_of_fit labelPrefix)
open TcplsBasics.Ports.Tls13.Schedule
open TcplsBasics.Ports.Tls13.Agreement
open TcplsBasics.Ports.Server.Hs (EarlyDataDecision)

/-! ## One expansion -/

/-- A label of `tls13/key_schedule.rs`, behind the `"tls13 "` prefix, fits
the one-byte length of an `HkdfLabel`. -/
theorem SecretKind.toBytes_fits (kind : SecretKind) : labelPrefix.length + kind.toBytes.length < 2 ^ 8 := by
  cases kind <;> decide

theorem length_digest_lt (suite : Tls13CipherSuite) (messages : List UInt8) :
    (digest suite.hkdfAlgorithm.digest messages).length < 2 ^ 8 := by
  have hout := suite.outputLen_le
  rw [length_digest]
  unfold maxOutputLen at hout
  omega

/-- What `hkdf_expand` derives of a secret of one of the suite's HKDF is the
HKDF-Expand-Label of RFC 8446 at the hash's length. -/
theorem expandLabel_expandSecret {suite : Tls13CipherSuite} {secret : Prk}
    (hsecret : secret.algorithm = suite.hkdfAlgorithm) {label context : List UInt8}
    (hlabel : labelPrefix.length + label.length < 2 ^ 8) (hcontext : context.length < 2 ^ 8) :
    expandLabel suite.hkdfAlgorithm secret.bytes label context suite.hkdfAlgorithm.digest.outputLen =
      some (expandSecret secret label context).bytes := by
  have hpos := suite.outputLen_pos
  have hout := suite.outputLen_le
  unfold maxOutputLen at hout
  rw [expandSecret, hsecret]
  exact expandLabel_of_fit (by omega) (by omega) hlabel hcontext

/-! ## The secrets of §7.1 -/

section Secrets

variable {suite : Tls13CipherSuite}

/-- Derive-Secret at a schedule's current secret is the schedule's secret of
that kind at the messages' hash. -/
theorem deriveSecret_eq {ks : KeySchedule} (hks : ks.Wf) (hsuite : ks.suite = suite) (kind : SecretKind)
    (messages : List UInt8) :
    Rfc8446.deriveSecret suite.hkdfAlgorithm ks.current.bytes kind.toBytes messages =
      some (ks.secret kind (digest suite.hkdfAlgorithm.digest messages)).bytes := by
  subst hsuite
  exact expandLabel_expandSecret hks (SecretKind.toBytes_fits kind) (length_digest_lt ks.suite messages)

theorem earlySecret_eq (psk : Option (List UInt8)) :
    Rfc8446.earlySecret suite.hkdfAlgorithm suite.hmacAlgorithm psk = (KeySchedule.early suite psk).current.bytes :=
  rfl

/-- `input_secret` is HKDF-Extract under the salt Derive-Secret gives at
`"derived"`. -/
theorem next_eq {ks : KeySchedule} (hks : ks.Wf) (hsuite : ks.suite = suite) (secret : List UInt8) :
    (Rfc8446.deriveSecret suite.hkdfAlgorithm ks.current.bytes Rfc8446.Label.derived []).bind
        (fun salt => pure (Rfc8446.hkdfExtract suite.hmacAlgorithm salt secret)) = some (ks.next secret).current.bytes := by
  rw [show Rfc8446.Label.derived = SecretKind.derivedSecret.toBytes from rfl, deriveSecret_eq hks hsuite, Option.bind_some]
  subst hsuite
  rfl

theorem handshakeSecret_eq (psk : Option (List UInt8)) (ecdhe : List UInt8) :
    Rfc8446.handshakeSecret suite.hkdfAlgorithm suite.hmacAlgorithm psk ecdhe =
      some ((KeySchedule.early suite psk).next ecdhe).current.bytes :=
  next_eq (KeySchedule.wf_early suite psk) rfl ecdhe

theorem masterSecret_eq (psk : Option (List UInt8)) (ecdhe : List UInt8) :
    let ks := (KeySchedule.early suite psk).next ecdhe
    Rfc8446.masterSecret suite.hkdfAlgorithm suite.hmacAlgorithm psk ecdhe =
      some (ks.next ks.suite.zeros).current.bytes := by
  rw [Rfc8446.masterSecret, handshakeSecret_eq, Option.bind_eq_bind, Option.bind_some]
  exact next_eq (KeySchedule.wf_next (KeySchedule.early suite psk) ecdhe) rfl suite.zeros

/-- Each secret of §7.1 is the schedule's of that kind: the handshake
secrets of the schedule after the shared secret, the application secrets of
the one after it. -/
theorem handshakeTrafficSecret_eq (psk : Option (List UInt8)) (ecdhe hello : List UInt8) :
    let ks := (KeySchedule.early suite psk).next ecdhe
    let hash := digest suite.hkdfAlgorithm.digest hello
    Rfc8446.clientHandshakeTrafficSecret suite.hkdfAlgorithm suite.hmacAlgorithm psk ecdhe hello =
        some (ks.secret .clientHandshakeTrafficSecret hash).bytes ∧
      Rfc8446.serverHandshakeTrafficSecret suite.hkdfAlgorithm suite.hmacAlgorithm psk ecdhe hello =
        some (ks.secret .serverHandshakeTrafficSecret hash).bytes := by
  have hks := KeySchedule.wf_next (KeySchedule.early suite psk) ecdhe
  constructor
  · rw [Rfc8446.clientHandshakeTrafficSecret, handshakeSecret_eq, Option.bind_eq_bind, Option.bind_some]
    exact deriveSecret_eq hks rfl .clientHandshakeTrafficSecret hello
  · rw [Rfc8446.serverHandshakeTrafficSecret, handshakeSecret_eq, Option.bind_eq_bind, Option.bind_some]
    exact deriveSecret_eq hks rfl .serverHandshakeTrafficSecret hello

theorem applicationTrafficSecret_eq (psk : Option (List UInt8)) (ecdhe finished : List UInt8) :
    let traffic := ((KeySchedule.early suite psk).next ecdhe).traffic (digest suite.hkdfAlgorithm.digest finished)
    Rfc8446.clientApplicationTrafficSecret suite.hkdfAlgorithm suite.hmacAlgorithm psk ecdhe finished =
        some traffic.currentClientTrafficSecret.bytes ∧
      Rfc8446.serverApplicationTrafficSecret suite.hkdfAlgorithm suite.hmacAlgorithm psk ecdhe finished =
        some traffic.currentServerTrafficSecret.bytes ∧
      Rfc8446.exporterMasterSecret suite.hkdfAlgorithm suite.hmacAlgorithm psk ecdhe finished =
        some traffic.currentExporterSecret.bytes := by
  have hmaster := KeySchedule.wf_next ((KeySchedule.early suite psk).next ecdhe) suite.zeros
  refine ⟨?_, ?_, ?_⟩
  · rw [Rfc8446.clientApplicationTrafficSecret, masterSecret_eq, Option.bind_eq_bind, Option.bind_some]
    exact deriveSecret_eq hmaster rfl .clientApplicationTrafficSecret finished
  · rw [Rfc8446.serverApplicationTrafficSecret, masterSecret_eq, Option.bind_eq_bind, Option.bind_some]
    exact deriveSecret_eq hmaster rfl .serverApplicationTrafficSecret finished
  · rw [Rfc8446.exporterMasterSecret, masterSecret_eq, Option.bind_eq_bind, Option.bind_some]
    exact deriveSecret_eq hmaster rfl .exporterMasterSecret finished

theorem clientEarlyTrafficSecret_eq (psk clientHello : List UInt8) :
    let ks := KeySchedule.early suite (some psk)
    Rfc8446.clientEarlyTrafficSecret suite.hkdfAlgorithm suite.hmacAlgorithm psk clientHello =
      some (ks.secret .clientEarlyTrafficSecret (digest suite.hkdfAlgorithm.digest clientHello)).bytes :=
  deriveSecret_eq (KeySchedule.wf_early suite (some psk)) rfl .clientEarlyTrafficSecret clientHello

/-- `sign_verify_data` is the Finished MAC of §4.4.4. -/
theorem verifyData_eq (ks : KeySchedule) (hsuite : ks.suite = suite) {baseKey : Prk}
    (hbase : baseKey.algorithm = suite.hkdfAlgorithm) (messages : List UInt8) :
    Rfc8446.verifyData suite.hkdfAlgorithm suite.hmacAlgorithm baseKey.bytes messages =
      some (ks.verifyData baseKey (digest suite.hkdfAlgorithm.digest messages)) := by
  subst hsuite
  rw [Rfc8446.verifyData, Rfc8446.finishedKey, expandLabel_expandSecret hbase (by decide) (by decide), Option.map_some]
  rfl

/-- `resumption_psk_binder_key_and_sign_verify_data` is the binder of
§4.2.11.2. -/
theorem binder_eq (psk messages : List UInt8) :
    let ks := KeySchedule.early suite (some psk)
    Rfc8446.binder suite.hkdfAlgorithm suite.hmacAlgorithm psk messages =
      some (ks.verifyData (ks.secret .resumptionPskBinderKey suite.emptyHash)
        (digest suite.hkdfAlgorithm.digest messages)) := by
  have hks := KeySchedule.wf_early suite (some psk)
  rw [Rfc8446.binder, Rfc8446.binderKey, show Rfc8446.Label.resBinder = SecretKind.resumptionPskBinderKey.toBytes from rfl,
    earlySecret_eq, deriveSecret_eq hks (KeySchedule.suite_early suite (some psk)), Option.bind_some]
  exact verifyData_eq _ rfl (hks.secret _ _) messages

end Secrets

/-! ## The traffic keys of §7.3 -/

section Keys

variable {ks : KeySchedule} {secret : Prk} (hsecret : secret.algorithm = ks.suite.hkdfAlgorithm)
include hsecret

theorem keyed_encrypterOf :
    Rfc8446.Keyed ks.suite.hkdfAlgorithm ks.suite.aeadAlgorithm secret.bytes (ks.encrypterOf secret).encKey
      (ks.encrypterOf secret).iv := by
  have hkey := ks.keyLen_le_secret hsecret
  have hiv := ks.nonceLen_le_secret hsecret
  have hout := ks.suite.outputLen_le
  unfold maxOutputLen at hout
  rw [hsecret] at hkey hiv
  refine ⟨rfl, ?_, ?_⟩
  · rw [Rfc8446.writeKey, expandLabel_of_fit hkey (by omega) (by decide) (by decide), ← hsecret]
    rfl
  · rw [Rfc8446.writeIv, expandLabel_of_fit hiv (by decide) (by decide) (by decide), ← hsecret]
    rfl

theorem keyed_decrypterOf :
    Rfc8446.Keyed ks.suite.hkdfAlgorithm ks.suite.aeadAlgorithm secret.bytes (ks.decrypterOf secret).decKey
      (ks.decrypterOf secret).iv :=
  keyed_encrypterOf hsecret

end Keys

/-! ## A whole run -/

/-- The messages of a handshake up to each point where the key schedule
takes the transcript's hash. -/
structure Transcript where
  binder : List UInt8
  clientHello : List UInt8
  serverHello : List UInt8
  serverFinished : List UInt8
  afterServerFinished : List UInt8
  clientFinished : List UInt8

/-- The hashes a side takes of a transcript. -/
def Transcript.hashes (alg : Verified.Digest.Algorithm) (t : Transcript) : TranscriptHashes :=
  ⟨digest alg t.binder, digest alg t.clientHello, digest alg t.serverHello, digest alg t.serverFinished,
    digest alg t.afterServerFinished, digest alg t.clientFinished⟩

/-- The record layer writes under the keys §7.3 derives from `secret`. -/
def WritesUnder (alg : HkdfAlgorithm) (aead : Verified.Aead.Algorithm) (secret : Option (List UInt8))
    (common : CommonState) : Prop :=
  ∃ s e, secret = some s ∧ common.messageEncrypter = some e ∧ Rfc8446.Keyed alg aead s e.encKey e.iv

/-- The record layer reads under the keys §7.3 derives from `secret`. -/
def ReadsUnder (alg : HkdfAlgorithm) (aead : Verified.Aead.Algorithm) (secret : Option (List UInt8))
    (common : CommonState) : Prop :=
  ∃ s d, secret = some s ∧ common.messageDecrypter = some d ∧ Rfc8446.Keyed alg aead s d.decKey d.iv

section Run

variable {ks : KeySchedule} {secret : Prk} (hsecret : secret.algorithm = ks.suite.hkdfAlgorithm)
  {common : CommonState}
include hsecret

theorem writesUnder_of (hcommon : common.messageEncrypter = some (ks.encrypterOf secret)) :
    WritesUnder ks.suite.hkdfAlgorithm ks.suite.aeadAlgorithm (some secret.bytes) common :=
  ⟨_, _, rfl, hcommon, keyed_encrypterOf hsecret⟩

theorem readsUnder_of (hcommon : common.messageDecrypter = some (ks.decrypterOf secret)) :
    ReadsUnder ks.suite.hkdfAlgorithm ks.suite.aeadAlgorithm (some secret.bytes) common :=
  ⟨_, _, rfl, hcommon, keyed_decrypterOf hsecret⟩

end Run

/-- A server that walks `server/tls13.rs`'s calls on the key schedule over the
hashes of a transcript computes what RFC 8446 §7 does: the binder it checks
is §4.2.11.2's, each direction it writes or reads is keyed (§7.3) from the
secret §7.1 names for it at the time, both Finished MACs are §4.4.4's, and
its exporter secret is the exporter master secret. -/
theorem serverHandshake_refines_rfc8446 {suite : Tls13CipherSuite} {common : CommonState}
    (hside : common.side = .server) (psk : Option (List UInt8)) (decision : EarlyDataDecision)
    (maxEarlyDataSize : Nat) (ecdhe : List UInt8) (t : Transcript) :
    let alg := suite.hkdfAlgorithm
    let hmac := suite.hmacAlgorithm
    let aead := suite.aeadAlgorithm
    ∃ s, serverHandshake suite psk decision maxEarlyDataSize ecdhe (t.hashes alg.digest) common = .ok s ∧
      s.binder = psk.bind (Rfc8446.binder alg hmac · t.binder) ∧
      (∀ p, psk = some p → ReadsUnder alg aead (Rfc8446.clientEarlyTrafficSecret alg hmac p t.clientHello) s.early) ∧
      WritesUnder alg aead (Rfc8446.serverHandshakeTrafficSecret alg hmac psk ecdhe t.serverHello) s.handshakeWrite ∧
      some s.serverFinished = (Rfc8446.serverHandshakeTrafficSecret alg hmac psk ecdhe t.serverHello).bind
        (Rfc8446.verifyData alg hmac · t.serverFinished) ∧
      ReadsUnder alg aead (Rfc8446.clientHandshakeTrafficSecret alg hmac psk ecdhe t.serverHello) s.handshakeRead ∧
      some s.clientFinished = (Rfc8446.clientHandshakeTrafficSecret alg hmac psk ecdhe t.serverHello).bind
        (Rfc8446.verifyData alg hmac · t.clientFinished) ∧
      WritesUnder alg aead (Rfc8446.serverApplicationTrafficSecret alg hmac psk ecdhe t.afterServerFinished)
        s.trafficWrite ∧
      ReadsUnder alg aead (Rfc8446.clientApplicationTrafficSecret alg hmac psk ecdhe t.afterServerFinished) s.traffic ∧
      Rfc8446.exporterMasterSecret alg hmac psk ecdhe t.afterServerFinished =
        some s.schedule.currentExporterSecret.bytes := by
  intro alg hmac aead
  let ks := (KeySchedule.early suite psk).next ecdhe
  have hks : ks.Wf := KeySchedule.wf_next _ ecdhe
  have hmaster : (ks.next suite.zeros).Wf := KeySchedule.wf_next ks suite.zeros
  obtain ⟨hclient, hserver⟩ := @handshakeTrafficSecret_eq suite psk ecdhe t.serverHello
  obtain ⟨hclientAp, hserverAp, hexporter⟩ := @applicationTrafficSecret_eq suite psk ecdhe t.afterServerFinished
  rw [serverHandshake_eq (serverBinder_eq psk _) (serverEarly_eq hside psk _) (KeySchedule.wf_early suite psk)
    (by cases psk <;> exact hside) maxEarlyDataSize ecdhe]
  refine ⟨_, rfl, ?binder, ?early, ?handshakeWrite, ?serverFinished, ?handshakeRead, ?clientFinished, ?trafficWrite,
    ?traffic, hexporter⟩
  case binder =>
    cases psk with
    | none => rfl
    | some p => rw [Option.map_some, Option.bind_some, binder_eq]; rfl
  case early =>
    rintro p rfl
    rw [clientEarlyTrafficSecret_eq]
    exact readsUnder_of ((KeySchedule.wf_early suite (some p)).secret _ _) rfl
  case handshakeWrite =>
    rw [hserver]
    exact writesUnder_of (hks.secret _ _) rfl
  case serverFinished =>
    rw [hserver, Option.bind_some]
    exact (verifyData_eq ks rfl (hks.secret _ _) _).symm
  case handshakeRead =>
    rw [hclient]
    cases decision <;> exact readsUnder_of (hks.secret _ _) rfl
  case clientFinished =>
    rw [hclient, Option.bind_some]
    exact (verifyData_eq ks rfl (hks.secret _ _) _).symm
  case trafficWrite =>
    rw [hserverAp]
    exact writesUnder_of (hmaster.secret _ _) rfl
  case traffic =>
    rw [hclientAp]
    exact readsUnder_of (hmaster.secret _ _) rfl

theorem zero_serverHandshake_refines_rfc8446 :
    (CommonState.new .server).side = .server ∧
    let alg := zeroSuite.hkdfAlgorithm
    let hmac := zeroSuite.hmacAlgorithm
    let aead := zeroSuite.aeadAlgorithm
    let t : Transcript := ⟨[3], [4], [5], [6], [7], [8]⟩
    ∃ s, serverHandshake zeroSuite (some [1]) .requestedButRejected 16 [2] (t.hashes alg.digest)
        (CommonState.new .server) = .ok s ∧
      s.binder = (some [1]).bind (Rfc8446.binder alg hmac · t.binder) ∧
      (∀ p, some [1] = some p → ReadsUnder alg aead (Rfc8446.clientEarlyTrafficSecret alg hmac p t.clientHello) s.early) ∧
      WritesUnder alg aead (Rfc8446.serverHandshakeTrafficSecret alg hmac (some [1]) [2] t.serverHello) s.handshakeWrite ∧
      some s.serverFinished = (Rfc8446.serverHandshakeTrafficSecret alg hmac (some [1]) [2] t.serverHello).bind
        (Rfc8446.verifyData alg hmac · t.serverFinished) ∧
      ReadsUnder alg aead (Rfc8446.clientHandshakeTrafficSecret alg hmac (some [1]) [2] t.serverHello) s.handshakeRead ∧
      some s.clientFinished = (Rfc8446.clientHandshakeTrafficSecret alg hmac (some [1]) [2] t.serverHello).bind
        (Rfc8446.verifyData alg hmac · t.clientFinished) ∧
      WritesUnder alg aead (Rfc8446.serverApplicationTrafficSecret alg hmac (some [1]) [2] t.afterServerFinished)
        s.trafficWrite ∧
      ReadsUnder alg aead (Rfc8446.clientApplicationTrafficSecret alg hmac (some [1]) [2] t.afterServerFinished)
        s.traffic ∧
      Rfc8446.exporterMasterSecret alg hmac (some [1]) [2] t.afterServerFinished =
        some s.schedule.currentExporterSecret.bytes :=
  ⟨rfl, serverHandshake_refines_rfc8446 rfl (some [1]) .requestedButRejected 16 [2] ⟨[3], [4], [5], [6], [7], [8]⟩⟩

end TcplsBasics.Ports.Tls13.Refinement
