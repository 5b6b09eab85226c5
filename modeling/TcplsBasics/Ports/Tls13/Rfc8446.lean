import TcplsBasics.Ports.Tls13.KeySchedule
import TcplsBasics.Ports.Cipher

/-!
# RFC 8446's key schedule

What a TLS 1.3 key schedule is for, stated apart from any implementation:
the secrets of RFC 8446 §7.1, from the PSK, the (EC)DHE shared secret and the
transcript; the traffic keys of §7.3; the Finished MAC of §4.4.4 and the PSK
binder of §4.2.11.2, which is a Finished MAC under the binder key; and the
key update of §7.2, which moves a direction's secret one generation on.  Derive-Secret is HKDF-Expand-Label at the hash of the
messages so far, HKDF-Expand-Label is HKDF-Expand of an `HkdfLabel`
(`KeySchedule.expandLabel`), and HKDF-Extract is HMAC keyed by the salt.  A
value is `none` where an `HkdfLabel` cannot be formed.

`Keyed` says that a record key and IV are the traffic keys §7.3 derives from
a secret; `Refinement` and `Traffic` show that the connection's keys are.
-/

namespace TcplsBasics.Ports.Tls13.Rfc8446

open TcplsBasics.Verified.Digest (HmacAlgorithm digest)
open TcplsBasics.Verified.Aead (LessSafeKey)
open TcplsBasics.Ports.Tls13.KeySchedule (HkdfAlgorithm expandLabel)
open TcplsBasics.Ports.Cipher (Tls13MessageEncrypter Tls13MessageDecrypter Iv nonceLen Agrees13)

/-! ## Labels -/

namespace Label

/-- `"derived"`. -/
def derived : List UInt8 := [0x64, 0x65, 0x72, 0x69, 0x76, 0x65, 0x64]

/-- `"res binder"`. -/
def resBinder : List UInt8 := [0x72, 0x65, 0x73, 0x20, 0x62, 0x69, 0x6e, 0x64, 0x65, 0x72]

/-- `"c e traffic"`. -/
def cETraffic : List UInt8 := [0x63, 0x20, 0x65, 0x20, 0x74, 0x72, 0x61, 0x66, 0x66, 0x69, 0x63]

/-- `"c hs traffic"`. -/
def cHsTraffic : List UInt8 := [0x63, 0x20, 0x68, 0x73, 0x20, 0x74, 0x72, 0x61, 0x66, 0x66, 0x69, 0x63]

/-- `"s hs traffic"`. -/
def sHsTraffic : List UInt8 := [0x73, 0x20, 0x68, 0x73, 0x20, 0x74, 0x72, 0x61, 0x66, 0x66, 0x69, 0x63]

/-- `"c ap traffic"`. -/
def cApTraffic : List UInt8 := [0x63, 0x20, 0x61, 0x70, 0x20, 0x74, 0x72, 0x61, 0x66, 0x66, 0x69, 0x63]

/-- `"s ap traffic"`. -/
def sApTraffic : List UInt8 := [0x73, 0x20, 0x61, 0x70, 0x20, 0x74, 0x72, 0x61, 0x66, 0x66, 0x69, 0x63]

/-- `"exp master"`. -/
def expMaster : List UInt8 := [0x65, 0x78, 0x70, 0x20, 0x6d, 0x61, 0x73, 0x74, 0x65, 0x72]

/-- `"finished"`. -/
def finished : List UInt8 := [0x66, 0x69, 0x6e, 0x69, 0x73, 0x68, 0x65, 0x64]

/-- `"traffic upd"`. -/
def trafficUpd : List UInt8 := [0x74, 0x72, 0x61, 0x66, 0x66, 0x69, 0x63, 0x20, 0x75, 0x70, 0x64]

/-- `"key"`. -/
def key : List UInt8 := [0x6b, 0x65, 0x79]

/-- `"iv"`. -/
def iv : List UInt8 := [0x69, 0x76]

end Label

/-! ## The secrets of §7.1 -/

section Schedule

variable (alg : HkdfAlgorithm) (hmac : HmacAlgorithm)

/-- A string of `Hash.length` zeros. -/
def zeros : List UInt8 := List.replicate alg.digest.outputLen 0

/-- HKDF-Extract: HMAC keyed by the salt. -/
def hkdfExtract (salt ikm : List UInt8) : List UInt8 := hmac.sign salt ikm

/-- Derive-Secret. -/
def deriveSecret (secret label messages : List UInt8) : Option (List UInt8) :=
  expandLabel alg secret label (digest alg.digest messages) alg.digest.outputLen

/-- The Early Secret: the PSK extracted under a zero salt, or zeros in its place. -/
def earlySecret (psk : Option (List UInt8)) : List UInt8 :=
  hkdfExtract hmac (zeros alg) (psk.getD (zeros alg))

/-- The Handshake Secret. -/
def handshakeSecret (psk : Option (List UInt8)) (ecdhe : List UInt8) : Option (List UInt8) := do
  let salt ← deriveSecret alg (earlySecret alg hmac psk) Label.derived []
  pure (hkdfExtract hmac salt ecdhe)

/-- The Master Secret. -/
def masterSecret (psk : Option (List UInt8)) (ecdhe : List UInt8) : Option (List UInt8) := do
  let secret ← handshakeSecret alg hmac psk ecdhe
  let salt ← deriveSecret alg secret Label.derived []
  pure (hkdfExtract hmac salt (zeros alg))

/-- `binder_key` of a resumption PSK. -/
def binderKey (psk : List UInt8) : Option (List UInt8) :=
  deriveSecret alg (earlySecret alg hmac (some psk)) Label.resBinder []

/-- `client_early_traffic_secret`, at the ClientHello. -/
def clientEarlyTrafficSecret (psk clientHello : List UInt8) : Option (List UInt8) :=
  deriveSecret alg (earlySecret alg hmac (some psk)) Label.cETraffic clientHello

/-- `client_handshake_traffic_secret`, at the messages up to the ServerHello. -/
def clientHandshakeTrafficSecret (psk : Option (List UInt8)) (ecdhe hello : List UInt8) :
    Option (List UInt8) := do
  let secret ← handshakeSecret alg hmac psk ecdhe
  deriveSecret alg secret Label.cHsTraffic hello

/-- `server_handshake_traffic_secret`. -/
def serverHandshakeTrafficSecret (psk : Option (List UInt8)) (ecdhe hello : List UInt8) :
    Option (List UInt8) := do
  let secret ← handshakeSecret alg hmac psk ecdhe
  deriveSecret alg secret Label.sHsTraffic hello

/-- `client_application_traffic_secret_0`, at the messages up to the
server's Finished. -/
def clientApplicationTrafficSecret (psk : Option (List UInt8)) (ecdhe finished : List UInt8) :
    Option (List UInt8) := do
  let secret ← masterSecret alg hmac psk ecdhe
  deriveSecret alg secret Label.cApTraffic finished

/-- `server_application_traffic_secret_0`. -/
def serverApplicationTrafficSecret (psk : Option (List UInt8)) (ecdhe finished : List UInt8) :
    Option (List UInt8) := do
  let secret ← masterSecret alg hmac psk ecdhe
  deriveSecret alg secret Label.sApTraffic finished

/-- `exporter_master_secret`. -/
def exporterMasterSecret (psk : Option (List UInt8)) (ecdhe finished : List UInt8) :
    Option (List UInt8) := do
  let secret ← masterSecret alg hmac psk ecdhe
  deriveSecret alg secret Label.expMaster finished

/-- `finished_key` of a base key (§4.4.4). -/
def finishedKey (baseKey : List UInt8) : Option (List UInt8) :=
  expandLabel alg baseKey Label.finished [] alg.digest.outputLen

/-- `verify_data`: the HMAC of the transcript's hash under the finished key. -/
def verifyData (baseKey messages : List UInt8) : Option (List UInt8) :=
  (finishedKey alg baseKey).map fun key => hmac.sign key (digest alg.digest messages)

/-- The PSK binder: a Finished MAC under the binder key, over the
ClientHello up to its binders (§4.2.11.2). -/
def binder (psk messages : List UInt8) : Option (List UInt8) :=
  (binderKey alg hmac psk).bind fun key => verifyData alg hmac key messages

/-- `application_traffic_secret_N+1` (§7.2). -/
def nextTrafficSecret (secret : List UInt8) : Option (List UInt8) :=
  expandLabel alg secret Label.trafficUpd [] alg.digest.outputLen

/-- `application_traffic_secret_N` of `application_traffic_secret_0`: the
secret after `N` key updates. -/
def trafficSecretAfter (secret : List UInt8) : Nat → Option (List UInt8)
  | 0 => some secret
  | n + 1 => (trafficSecretAfter secret n).bind (nextTrafficSecret alg)

end Schedule

/-! ## Traffic keys (§7.3) -/

section Keys

variable (alg : HkdfAlgorithm)

/-- `[sender]_write_key`. -/
def writeKey (aead : Verified.Aead.Algorithm) (secret : List UInt8) : Option (List UInt8) :=
  expandLabel alg secret Label.key [] aead.keyLen

/-- `[sender]_write_iv`. -/
def writeIv (secret : List UInt8) : Option (List UInt8) :=
  expandLabel alg secret Label.iv [] nonceLen

/-- A key and an IV derived from `secret` as §7.3 derives them. -/
structure Keyed (aead : Verified.Aead.Algorithm) (secret : List UInt8) (key : LessSafeKey) (iv : Iv) : Prop where
  algorithm_eq : key.algorithm = aead
  writeKey_eq : writeKey alg aead secret = some key.key
  writeIv_eq : writeIv alg secret = some iv.bytes

end Keys

end TcplsBasics.Ports.Tls13.Rfc8446
