import TcplsBasics.Verified.Aead
import TcplsBasics.Ports.Msgs.Message

/-!
# Record protection (`cipher.rs`, `tls12/cipher.rs`, `tls12/mod.rs`, `tls13/mod.rs`)

The two ends of a connection build their encrypter and decrypter apart, from
the same secrets, and each side rebuilds the nonce and the additional data
from what it has.

Under TLS 1.2 `make_cipher_pair` cuts one key block into the client's and the
server's write keys and IVs; a side encrypts with its own and decrypts with its
peer's.  The AES-GCM encrypter XORs the sequence number into a twelve-byte IV
(the fixed IV, then eight bytes of the key block) and puts the last eight
bytes of the nonce on the wire; the decrypter puts its four-byte salt in front
of them.  The length in the additional data is the plaintext's on both sides:
the decrypter takes it from the record's length less a fixed overhead.

Under TLS 1.3 the content type is the last byte of the sealed plaintext and
the record goes out as `ApplicationData`.  The decrypter drops trailing zeros
and reads the type from the byte before them, so the type comes back as
`ContentType::from` of its byte: a type reads back unless it is an `Unknown`
of a byte that has a name.

The AEAD is ring's, abstracted (`Verified.Aead`), and so are the TLS 1.2 PRF
and the TLS 1.3 key derivation (`Kdf`).

## Main results

* `GcmMessageDecrypter.decrypt_encrypt`, `ChaCha20Poly1305MessageDecrypter.decrypt_encrypt`:
  a decrypter with the encrypter's key and IV opens what it sealed.
* `makeCipherPair_agree`: a side's encrypter and its peer's decrypter agree.
* `Tls13MessageDecrypter.decrypt_encrypt`: TLS 1.3 records read back, with the
  version set to TLS 1.3.
* `Tls13MessageDecrypter.decrypt_padded`: a padded inner plaintext opens to
  its type and payload.
* `record_protection_agrees`: the three together, for the ciphers the source
  builds from one set of secrets.
* `unknown_type_decrypts_as_handshake`: `Unknown(0x16)` comes back as
  `Handshake`.
-/

namespace TcplsBasics.Ports.Cipher

open TcplsBasics.Verified.Rust TcplsBasics.Verified.Aead TcplsBasics.Verified.Codec
open TcplsBasics.Ports.Errors TcplsBasics.Ports.Msgs.Enums TcplsBasics.Ports.Msgs.Message
open TcplsBasics.Ports.Msgs.Handshake

/-! ## Nonces -/

/-- `ring::aead::NONCE_LEN`. -/
def nonceLen : Nat := 12

/-- `Iv`: a write or read IV, `[u8; NONCE_LEN]`. -/
structure Iv where
  bytes : List UInt8
  length_eq : bytes.length = nonceLen

/-- `Iv::copy`: the debug assertion on the length, then `copy_from_slice`. -/
def Iv.copy (value : List UInt8) : Except Panic Iv :=
  if h : value.length = nonceLen then .ok ⟨value, h⟩ else .error assertEqFailed

/-- `make_nonce`: the sequence number big-endian in the last eight of twelve
zero bytes, XORed with the IV. -/
def makeNonce (iv : Iv) (seq : Nat) : List UInt8 :=
  xorBytes (List.replicate 4 0 ++ encodeUInt 8 seq) iv.bytes

@[simp] theorem Iv.copy_eq_ok {value : List UInt8} (h : value.length = nonceLen) :
    Iv.copy value = .ok ⟨value, h⟩ := dif_pos h

@[simp] theorem length_makeNonce (iv : Iv) (seq : Nat) : (makeNonce iv seq).length = nonceLen := by
  simp [makeNonce, iv.length_eq, length_encodeUInt, nonceLen]

/-- The first four bytes of a nonce are the IV's: the sequence number only
reaches the last eight. -/
theorem take_makeNonce (iv : Iv) (seq : Nat) : (makeNonce iv seq).take 4 = iv.bytes.take 4 := by
  have hiv : (iv.bytes.take 4).length = 4 := by simp [iv.length_eq, nonceLen]
  rw [makeNonce, take_xorBytes, List.take_left' (List.length_replicate ..)]
  exact xorBytes_replicate_zero hiv

/-! ## TLS 1.2 -/

/-- `make_tls12_aad`: sequence number, type, version and length, the length
cast to `u16`. -/
def makeTls12Aad (seq : Nat) (typ : ContentType) (vers len : Nat) : List UInt8 :=
  encodeUInt 8 seq ++ [typ.getU8] ++ encodeUInt 2 vers ++ encodeUInt 2 len

/-- `GCM_EXPLICIT_NONCE_LEN`. -/
def gcmExplicitNonceLen : Nat := 8

/-- `GCM_OVERHEAD`. -/
def gcmOverhead : Nat := gcmExplicitNonceLen + 16

/-- `CHACHAPOLY1305_OVERHEAD`. -/
def chachapoly1305Overhead : Nat := 16

/-- `GcmMessageEncrypter`. -/
structure GcmMessageEncrypter where
  encKey : LessSafeKey
  iv : Iv

/-- `GcmMessageDecrypter`: the salt is `[u8; 4]`. -/
structure GcmMessageDecrypter where
  decKey : LessSafeKey
  decSalt : List UInt8
  length_decSalt : decSalt.length = 4

/-- `ChaCha20Poly1305MessageEncrypter`. -/
structure ChaCha20Poly1305MessageEncrypter where
  encKey : LessSafeKey
  encOffset : Iv

/-- `ChaCha20Poly1305MessageDecrypter`. -/
structure ChaCha20Poly1305MessageDecrypter where
  decKey : LessSafeKey
  decOffset : Iv

/-- `GcmMessageEncrypter::encrypt`: the last eight bytes of the nonce, then the
ciphertext and the tag. -/
def GcmMessageEncrypter.encrypt (e : GcmMessageEncrypter) : MessageEncrypter := fun msg seq =>
  let nonce := makeNonce e.iv seq
  let aad := makeTls12Aad seq msg.typ msg.version msg.payload.length
  let sealed := e.encKey.sealInPlaceSeparateTag nonce aad msg.payload
  .ok ⟨msg.typ, msg.version, nonce.drop 4 ++ sealed.1 ++ sealed.2⟩

/-- `GcmMessageDecrypter::decrypt`: the nonce is the salt and the first eight
bytes of the payload, which is opened after them. -/
def GcmMessageDecrypter.decrypt (d : GcmMessageDecrypter) : MessageDecrypter := fun msg seq =>
  let payload := msg.payload
  if payload.length < gcmOverhead then .error .decryptError
  else
    let nonce := d.decSalt ++ payload.take 8
    let aad := makeTls12Aad seq msg.typ msg.version (payload.length - gcmOverhead)
    match d.decKey.openWithin nonce aad payload gcmExplicitNonceLen with
    | none => .error .decryptError
    | some plain =>
      if plain.length > maxFragmentLen then .error .peerSentOversizedRecord
      else .ok { msg with payload := plain }.intoPlainMessage

/-- `ChaCha20Poly1305MessageEncrypter::encrypt`. -/
def ChaCha20Poly1305MessageEncrypter.encrypt (e : ChaCha20Poly1305MessageEncrypter) :
    MessageEncrypter := fun msg seq =>
  let nonce := makeNonce e.encOffset seq
  let aad := makeTls12Aad seq msg.typ msg.version msg.payload.length
  .ok ⟨msg.typ, msg.version, e.encKey.sealInPlaceAppendTag nonce aad msg.payload⟩

/-- `ChaCha20Poly1305MessageDecrypter::decrypt`. -/
def ChaCha20Poly1305MessageDecrypter.decrypt (d : ChaCha20Poly1305MessageDecrypter) :
    MessageDecrypter := fun msg seq =>
  let payload := msg.payload
  if payload.length < chachapoly1305Overhead then .error .decryptError
  else
    let nonce := makeNonce d.decOffset seq
    let aad := makeTls12Aad seq msg.typ msg.version (payload.length - chachapoly1305Overhead)
    match d.decKey.openInPlace nonce aad payload with
    | none => .error .decryptError
    | some plain =>
      if plain.length > maxFragmentLen then .error .peerSentOversizedRecord
      else .ok { msg with payload := plain }.intoPlainMessage

/-- `Tls12AeadAlgorithm`: its two implementations. -/
inductive Tls12AeadAlgorithm where
  | aesGcm
  | chaCha20Poly1305
deriving DecidableEq, Repr

namespace Tls12AeadAlgorithm

/-- `Tls12AeadAlgorithm::decrypter`. -/
def decrypter : Tls12AeadAlgorithm → LessSafeKey → List UInt8 → Except Panic MessageDecrypter
  | .aesGcm, decKey, decIv =>
    if h : decIv.length = 4 then .ok (GcmMessageDecrypter.decrypt ⟨decKey, decIv, h⟩)
    else .error assertEqFailed
  | .chaCha20Poly1305, decKey, iv => do
    let decOffset ← Iv.copy iv
    pure (ChaCha20Poly1305MessageDecrypter.decrypt ⟨decKey, decOffset⟩)

/-- `Tls12AeadAlgorithm::encrypter`: AES-GCM's IV is the write IV followed by
the explicit nonce bytes; ChaCha20-Poly1305 ignores the latter. -/
def encrypter : Tls12AeadAlgorithm → LessSafeKey → List UInt8 → List UInt8 →
    Except Panic MessageEncrypter
  | .aesGcm, encKey, writeIv, explicit =>
    if h₁ : writeIv.length = 4 then
      if h₂ : explicit.length = 8 then
        .ok (GcmMessageEncrypter.encrypt ⟨encKey, ⟨writeIv ++ explicit, by simp [h₁, h₂, nonceLen]⟩⟩)
      else .error assertEqFailed
    else .error assertEqFailed
  | .chaCha20Poly1305, encKey, encIv, _ => do
    let encOffset ← Iv.copy encIv
    pure (ChaCha20Poly1305MessageEncrypter.encrypt ⟨encKey, encOffset⟩)

end Tls12AeadAlgorithm

/-- The fields of `Tls12CipherSuite` that record protection reads. -/
structure Tls12CipherSuite where
  aeadAlgorithm : Algorithm
  aeadAlg : Tls12AeadAlgorithm
  fixedIvLen : Nat
  explicitNonceLen : Nat

/-- The shape the suites of `tls12/mod.rs` have: AES-GCM with a four-byte
fixed IV and eight explicit bytes, or ChaCha20-Poly1305 with a twelve-byte
IV, over a ring algorithm with sixteen-byte tags. -/
def Tls12CipherSuite.Shaped (s : Tls12CipherSuite) : Prop :=
  s.aeadAlgorithm.tagLen = 16 ∧
    (s.aeadAlg = .aesGcm ∧ s.fixedIvLen = 4 ∧ s.explicitNonceLen = 8 ∨
      s.aeadAlg = .chaCha20Poly1305 ∧ s.fixedIvLen = 12 ∧ s.explicitNonceLen = 0)

/-- `ConnectionRandoms`. -/
structure ConnectionRandoms where
  client : List UInt8
  server : List UInt8

/-- `ConnectionSecrets`. -/
structure ConnectionSecrets where
  randoms : ConnectionRandoms
  suite : Tls12CipherSuite
  masterSecret : List UInt8

/-- `join_randoms`. -/
def joinRandoms (first second : List UInt8) : List UInt8 := first ++ second

/-- `Side`. -/
inductive Side where
  | client
  | server
deriving DecidableEq, Repr

/-- `Side::peer`. -/
def Side.peer : Side → Side
  | .client => .server
  | .server => .client

namespace ConnectionSecrets

/-- The length `make_key_block` asks the PRF for. -/
def keyBlockLen (s : ConnectionSecrets) : Nat :=
  (s.suite.aeadAlgorithm.keyLen + s.suite.fixedIvLen) * 2 + s.suite.explicitNonceLen

/-- `make_key_block`: the PRF over the master secret, the label
`b"key expansion"` and the server random before the client random. -/
def makeKeyBlock (prf : Kdf) (s : ConnectionSecrets) : List UInt8 :=
  prf.derive s.masterSecret
    [0x6b, 0x65, 0x79, 0x20, 0x65, 0x78, 0x70, 0x61, 0x6e, 0x73, 0x69, 0x6f, 0x6e]
    (joinRandoms s.randoms.server s.randoms.client) s.keyBlockLen

end ConnectionSecrets

/-- `split_key`: `split_at` panics on a short key block. -/
def splitKey (keyBlock : List UInt8) (alg : Algorithm) : Except Panic (LessSafeKey × List UInt8) := do
  let (key, rest) ← splitAt keyBlock alg.keyLen
  let key ← expect (LessSafeKey.new? alg key) unwrapErr
  pure (key, rest)

/-- The key block cut as `make_cipher_pair` cuts it. -/
structure KeyBlock where
  clientWriteKey : LessSafeKey
  serverWriteKey : LessSafeKey
  clientWriteIv : List UInt8
  serverWriteIv : List UInt8
  extra : List UInt8

/-- The cuts of `make_cipher_pair`: two keys, two fixed IVs, and the rest. -/
def splitKeyBlock (keyBlock : List UInt8) (suite : Tls12CipherSuite) : Except Panic KeyBlock := do
  let (clientWriteKey, keyBlock) ← splitKey keyBlock suite.aeadAlgorithm
  let (serverWriteKey, keyBlock) ← splitKey keyBlock suite.aeadAlgorithm
  let (clientWriteIv, keyBlock) ← splitAt keyBlock suite.fixedIvLen
  let (serverWriteIv, extra) ← splitAt keyBlock suite.fixedIvLen
  pure ⟨clientWriteKey, serverWriteKey, clientWriteIv, serverWriteIv, extra⟩

/-- `ConnectionSecrets::make_cipher_pair`: a side writes with its own key and
IV and reads with its peer's. -/
def ConnectionSecrets.makeCipherPair (prf : Kdf) (s : ConnectionSecrets) (side : Side) :
    Except Panic (MessageDecrypter × MessageEncrypter) := do
  let kb ← splitKeyBlock (s.makeKeyBlock prf) s.suite
  let (writeKey, writeIv, readKey, readIv) := match side with
    | .client => (kb.clientWriteKey, kb.clientWriteIv, kb.serverWriteKey, kb.serverWriteIv)
    | .server => (kb.serverWriteKey, kb.serverWriteIv, kb.clientWriteKey, kb.clientWriteIv)
  let dec ← s.suite.aeadAlg.decrypter readKey readIv
  let enc ← s.suite.aeadAlg.encrypter writeKey writeIv kb.extra
  pure (dec, enc)

/-! ## TLS 1.3 -/

/-- `make_tls13_aad`: the outer header of a record of `len` bytes. -/
def makeTls13Aad (len : Nat) : List UInt8 :=
  [0x17, 0x03, 0x03, UInt8.ofNat (len >>> 8), UInt8.ofNat len]

/-- The loop of `unpad_tls13` on the bytes in reverse, where `Vec::pop` takes
the head. -/
def unpadRev : List UInt8 → ContentType × List UInt8
  | [] => (.unknown 0, [])
  | b :: rest => if b = 0 then unpadRev rest else (ContentType.ofU8 b, rest)

/-- `unpad_tls13`: zeros are popped off the end, the first other byte is the
content type, and what is left is the payload. -/
def unpadTls13 (v : List UInt8) : ContentType × List UInt8 :=
  ((unpadRev v.reverse).1, (unpadRev v.reverse).2.reverse)

/-- `Tls13MessageEncrypter`. -/
structure Tls13MessageEncrypter where
  encKey : LessSafeKey
  iv : Iv

/-- `Tls13MessageDecrypter`. -/
structure Tls13MessageDecrypter where
  decKey : LessSafeKey
  iv : Iv

/-- `Tls13MessageEncrypter::encrypt`: the type byte goes after the payload
and the record goes out as TLS 1.2 `ApplicationData`. -/
def Tls13MessageEncrypter.encrypt (e : Tls13MessageEncrypter) : MessageEncrypter := fun msg seq =>
  let totalLen := msg.payload.length + 1 + e.encKey.algorithm.tagLen
  let payload := msg.payload ++ [msg.typ.getU8]
  let nonce := makeNonce e.iv seq
  let aad := makeTls13Aad totalLen
  .ok ⟨.applicationData, ProtocolVersion.tlsv1_2, e.encKey.sealInPlaceAppendTag nonce aad payload⟩

/-- `Tls13MessageDecrypter::decrypt`. -/
def Tls13MessageDecrypter.decrypt (d : Tls13MessageDecrypter) : MessageDecrypter := fun msg seq =>
  let payload := msg.payload
  if payload.length < d.decKey.algorithm.tagLen then .error .decryptError
  else
    let nonce := makeNonce d.iv seq
    let aad := makeTls13Aad payload.length
    match d.decKey.openInPlace nonce aad payload with
    | none => .error .decryptError
    | some plain =>
      if plain.length > maxFragmentLen + 1 then .error .peerSentOversizedRecord
      else
        let typ := (unpadTls13 plain).1
        let payload := (unpadTls13 plain).2
        if typ = .unknown 0 then .error (.peerMisbehaved .illegalTlsInnerPlaintext)
        else if payload.length > maxFragmentLen then .error .peerSentOversizedRecord
        else .ok ⟨typ, ProtocolVersion.tlsv1_3, payload⟩

/-- `derive_traffic_key`: the secret expanded under `b"key"` to a key of the
algorithm's length. -/
def deriveTrafficKey (hkdf : Kdf) (secret : List UInt8) (alg : Algorithm) : LessSafeKey :=
  ⟨alg, hkdf.derive secret [0x6b, 0x65, 0x79] [] alg.keyLen⟩

/-- `derive_traffic_iv`: the secret expanded under `b"iv"`. -/
def deriveTrafficIv (hkdf : Kdf) (secret : List UInt8) : Iv :=
  ⟨hkdf.derive secret [0x69, 0x76] [] nonceLen, hkdf.length_derive _ _ _ _⟩

/-- The encrypter `KeyScheduleTraffic::set_encrypter` installs. -/
def setEncrypter (hkdf : Kdf) (alg : Algorithm) (secret : List UInt8) : Tls13MessageEncrypter :=
  ⟨deriveTrafficKey hkdf secret alg, deriveTrafficIv hkdf secret⟩

/-- `KeyScheduleTraffic::derive_decrypter`. -/
def deriveDecrypter (hkdf : Kdf) (alg : Algorithm) (secret : List UInt8) : Tls13MessageDecrypter :=
  ⟨deriveTrafficKey hkdf secret alg, deriveTrafficIv hkdf secret⟩

/-! ## TLS 1.2: a decrypter opens what its encrypter sealed -/

theorem GcmMessageEncrypter.encrypt_eq (e : GcmMessageEncrypter) (m : PlainMessage) (seq : Nat) :
    e.encrypt m seq = .ok ⟨m.typ, m.version, (makeNonce e.iv seq).drop 4 ++
      e.encKey.sealInPlaceAppendTag (makeNonce e.iv seq)
        (makeTls12Aad seq m.typ m.version m.payload.length) m.payload⟩ := by
  simp only [GcmMessageEncrypter.encrypt, List.append_assoc,
    LessSafeKey.sealInPlaceSeparateTag_append]

/-- A GCM decrypter with the encrypter's key, whose salt is the first four
bytes of the encrypter's IV, opens every record the encrypter makes. -/
theorem GcmMessageDecrypter.decrypt_encrypt {e : GcmMessageEncrypter} {d : GcmMessageDecrypter}
    (hkey : d.decKey = e.encKey) (hsalt : d.decSalt = e.iv.bytes.take 4)
    (htag : e.encKey.algorithm.tagLen = 16) {m : PlainMessage}
    (hm : m.payload.length ≤ maxFragmentLen) (seq : Nat) :
    (e.encrypt m seq >>= (d.decrypt · seq)) = .ok m := by
  rw [GcmMessageEncrypter.encrypt_eq, ok_bind]
  set nonce := makeNonce e.iv seq
  set aad := makeTls12Aad seq m.typ m.version m.payload.length with haad_def
  set sealed := e.encKey.sealInPlaceAppendTag nonce aad m.payload
  have hwire : (nonce.drop 4).length = 8 := by simp [nonce, nonceLen]
  have hsealed : sealed.length = m.payload.length + 16 := by simp [sealed, htag]
  -- the salt and the eight bytes on the wire make the encrypter's nonce again
  have hnonce : d.decSalt ++ (nonce.drop 4 ++ sealed).take 8 = nonce := by
    rw [hsalt, ← take_makeNonce e.iv seq, List.take_left' hwire, List.take_append_drop]
  have haad : (nonce.drop 4 ++ sealed).length - gcmOverhead = m.payload.length := by
    simp only [List.length_append, hwire, hsealed, gcmOverhead, gcmExplicitNonceLen]
    omega
  have hopen : d.decKey.openWithin nonce aad (nonce.drop 4 ++ sealed) gcmExplicitNonceLen =
      some m.payload := by
    rw [hkey, show gcmExplicitNonceLen = (nonce.drop 4).length from hwire.symm]
    exact LessSafeKey.openWithin_append ..
  have hlong : ¬(nonce.drop 4 ++ sealed).length < gcmOverhead := by
    simp only [List.length_append, hwire, hsealed, gcmOverhead, gcmExplicitNonceLen]
    omega
  simp only [GcmMessageDecrypter.decrypt, if_neg hlong, hnonce, haad, ← haad_def, hopen,
    if_neg (Nat.not_lt.mpr hm)]
  rfl

/-- A ChaCha20-Poly1305 decrypter with the encrypter's key and IV opens
every record the encrypter makes. -/
theorem ChaCha20Poly1305MessageDecrypter.decrypt_encrypt {e : ChaCha20Poly1305MessageEncrypter}
    {d : ChaCha20Poly1305MessageDecrypter} (hkey : d.decKey = e.encKey)
    (hiv : d.decOffset = e.encOffset) (htag : e.encKey.algorithm.tagLen = 16) {m : PlainMessage}
    (hm : m.payload.length ≤ maxFragmentLen) (seq : Nat) :
    (e.encrypt m seq >>= (d.decrypt · seq)) = .ok m := by
  simp only [ChaCha20Poly1305MessageEncrypter.encrypt, ok_bind]
  set aad := makeTls12Aad seq m.typ m.version m.payload.length with haad_def
  set sealed := e.encKey.sealInPlaceAppendTag (makeNonce e.encOffset seq) aad m.payload
  have hsealed : sealed.length = m.payload.length + 16 := by simp [sealed, htag]
  have hlong : ¬sealed.length < chachapoly1305Overhead := by
    rw [hsealed, chachapoly1305Overhead]
    omega
  have haad : sealed.length - chachapoly1305Overhead = m.payload.length := by
    rw [hsealed, chachapoly1305Overhead]
    omega
  have hopen : d.decKey.openInPlace (makeNonce d.decOffset seq) aad sealed = some m.payload := by
    rw [hkey, hiv]
    exact LessSafeKey.openInPlace_sealInPlaceAppendTag ..
  simp only [ChaCha20Poly1305MessageDecrypter.decrypt, if_neg hlong, haad, ← haad_def, hopen,
    if_neg (Nat.not_lt.mpr hm)]
  rfl

/-- A decrypter opens every record an encrypter seals, for every plaintext
within `MAX_FRAGMENT_LEN` and every sequence number. -/
def Agrees (dec : MessageDecrypter) (enc : MessageEncrypter) : Prop :=
  ∀ (m : PlainMessage) (seq : Nat), m.payload.length ≤ maxFragmentLen →
    (enc m seq >>= (dec · seq)) = .ok m

/-- The decrypter and the encrypter one algorithm builds from one key and
IV agree, when the IV and the extra bytes have the lengths of the algorithm. -/
theorem Tls12AeadAlgorithm.agrees {alg : Tls12AeadAlgorithm} {key : LessSafeKey}
    {iv extra : List UInt8} (htag : key.algorithm.tagLen = 16)
    (hshape : alg = .aesGcm ∧ iv.length = 4 ∧ extra.length = 8 ∨
      alg = .chaCha20Poly1305 ∧ iv.length = 12) :
    ∃ dec enc, alg.decrypter key iv = .ok dec ∧ alg.encrypter key iv extra = .ok enc ∧
      Agrees dec enc := by
  rcases hshape with ⟨rfl, h₄, h₈⟩ | ⟨rfl, h₁₂⟩
  case inl =>
    refine ⟨_, _, dif_pos h₄, by rw [encrypter, dif_pos h₄, dif_pos h₈], fun m seq hm => ?_⟩
    exact GcmMessageDecrypter.decrypt_encrypt rfl (List.take_left' h₄).symm htag hm seq
  case inr =>
    refine ⟨ChaCha20Poly1305MessageDecrypter.decrypt ⟨key, ⟨iv, h₁₂⟩⟩,
      ChaCha20Poly1305MessageEncrypter.encrypt ⟨key, ⟨iv, h₁₂⟩⟩,
      by rw [decrypter, Iv.copy_eq_ok h₁₂]; rfl, by rw [encrypter, Iv.copy_eq_ok h₁₂]; rfl,
      fun m seq hm => ?_⟩
    exact ChaCha20Poly1305MessageDecrypter.decrypt_encrypt rfl rfl htag hm seq

theorem splitKey_eq {keyBlock : List UInt8} {alg : Algorithm} (h : alg.keyLen ≤ keyBlock.length) :
    splitKey keyBlock alg = .ok (⟨alg, keyBlock.take alg.keyLen⟩, keyBlock.drop alg.keyLen) := by
  simp [splitKey, splitAt_eq_ok h, LessSafeKey.new?_eq_some (List.length_take_of_le h)]

/-- The key and the IV a side writes with. -/
def KeyBlock.writeKey (kb : KeyBlock) : Side → LessSafeKey
  | .client => kb.clientWriteKey
  | .server => kb.serverWriteKey

/-- See `KeyBlock.writeKey`. -/
def KeyBlock.writeIv (kb : KeyBlock) : Side → List UInt8
  | .client => kb.clientWriteIv
  | .server => kb.serverWriteIv

@[simp] theorem Side.peer_peer (side : Side) : side.peer.peer = side := by
  cases side <;> rfl

/-- A key block of the length `make_key_block` asks for is cut without a
panic, into keys of the suite's algorithm, IVs of its fixed length and the
explicit nonce bytes. -/
theorem splitKeyBlock_ok {keyBlock : List UInt8} {suite : Tls12CipherSuite}
    (hlen : keyBlock.length =
      (suite.aeadAlgorithm.keyLen + suite.fixedIvLen) * 2 + suite.explicitNonceLen) :
    ∃ kb, splitKeyBlock keyBlock suite = .ok kb ∧
      (∀ side, (kb.writeKey side).algorithm = suite.aeadAlgorithm ∧
        (kb.writeIv side).length = suite.fixedIvLen) ∧
      kb.extra.length = suite.explicitNonceLen := by
  -- each cut leaves enough for the next: the block is exactly as long as the cuts
  obtain ⟨alg, _, F, _⟩ := suite
  dsimp only at hlen ⊢
  have h₁ : alg.keyLen ≤ keyBlock.length := by omega
  have h₂ : alg.keyLen ≤ (keyBlock.drop alg.keyLen).length := by
    simp only [List.length_drop]
    omega
  have h₃ : F ≤ ((keyBlock.drop alg.keyLen).drop alg.keyLen).length := by
    simp only [List.length_drop]
    omega
  have h₄ : F ≤ (((keyBlock.drop alg.keyLen).drop alg.keyLen).drop F).length := by
    simp only [List.length_drop]
    omega
  refine ⟨⟨⟨alg, keyBlock.take alg.keyLen⟩, ⟨alg, (keyBlock.drop alg.keyLen).take alg.keyLen⟩,
    ((keyBlock.drop alg.keyLen).drop alg.keyLen).take F,
    (((keyBlock.drop alg.keyLen).drop alg.keyLen).drop F).take F,
    (((keyBlock.drop alg.keyLen).drop alg.keyLen).drop F).drop F⟩, ?_, ?_, ?_⟩
  · simp only [splitKeyBlock, splitKey_eq h₁, ok_bind, splitKey_eq h₂, splitAt_eq_ok h₃,
      splitAt_eq_ok h₄]
    rfl
  · intro side
    cases side
    · exact ⟨rfl, List.length_take_of_le h₃⟩
    · exact ⟨rfl, List.length_take_of_le h₄⟩
  · simp only [List.length_drop]
    omega

/-- `make_cipher_pair` once the key block is cut: the peer's key and IV to
read, its own to write. -/
theorem makeCipherPair_eq {prf : Kdf} {s : ConnectionSecrets} {kb : KeyBlock}
    (hsplit : splitKeyBlock (s.makeKeyBlock prf) s.suite = .ok kb) (side : Side) :
    s.makeCipherPair prf side = (do
      let dec ← s.suite.aeadAlg.decrypter (kb.writeKey side.peer) (kb.writeIv side.peer)
      let enc ← s.suite.aeadAlg.encrypter (kb.writeKey side) (kb.writeIv side) kb.extra
      pure (dec, enc)) := by
  cases side <;> simp only [ConnectionSecrets.makeCipherPair, hsplit, ok_bind] <;> rfl

@[simp] theorem length_makeKeyBlock (prf : Kdf) (s : ConnectionSecrets) :
    (s.makeKeyBlock prf).length = s.keyBlockLen :=
  prf.length_derive _ _ _ _

/-- For a suite of the source's shape, `make_cipher_pair` returns on both
sides, and a side's encrypter agrees with its peer's decrypter. -/
theorem makeCipherPair_agree (prf : Kdf) {s : ConnectionSecrets} (hs : s.suite.Shaped)
    (side : Side) :
    ∃ decA encA decB encB, s.makeCipherPair prf side = .ok (decA, encA) ∧
      s.makeCipherPair prf side.peer = .ok (decB, encB) ∧ Agrees decB encA := by
  obtain ⟨htag, hshape⟩ := hs
  obtain ⟨kb, hsplit, hkeys, hextra⟩ := splitKeyBlock_ok (length_makeKeyBlock prf s)
  have hfits : ∀ side', (kb.writeKey side').algorithm.tagLen = 16 ∧
      (s.suite.aeadAlg = .aesGcm ∧ (kb.writeIv side').length = 4 ∧ kb.extra.length = 8 ∨
        s.suite.aeadAlg = .chaCha20Poly1305 ∧ (kb.writeIv side').length = 12) := by
    intro side'
    rw [(hkeys side').1, (hkeys side').2, hextra]
    exact ⟨htag, hshape.imp id (fun h => ⟨h.1, h.2.1⟩)⟩
  obtain ⟨decB, encA, hdecB, hencA, hagree⟩ :=
    Tls12AeadAlgorithm.agrees (hfits side).1 (hfits side).2
  obtain ⟨decA, encB, hdecA, hencB, -⟩ :=
    Tls12AeadAlgorithm.agrees (hfits side.peer).1 (hfits side.peer).2
  refine ⟨decA, encA, decB, encB, ?_, ?_, hagree⟩
  · rw [makeCipherPair_eq hsplit, hdecA, ok_bind, hencA]
    rfl
  · rw [makeCipherPair_eq hsplit, Side.peer_peer, hdecB, ok_bind, hencB]
    rfl

/-! ## TLS 1.3: the inner plaintext -/

theorem unpadRev_replicate_zero {t : UInt8} (ht : t ≠ 0) (k : Nat) (rest : List UInt8) :
    unpadRev (List.replicate k 0 ++ t :: rest) = (ContentType.ofU8 t, rest) := by
  induction k with
  | zero => simp [unpadRev, ht]
  | succ k ih => simp [List.replicate_succ, unpadRev, ih]

/-- The padding is dropped up to the last non-zero byte, which is the type. -/
theorem unpadTls13_padded {t : UInt8} (ht : t ≠ 0) (payload : List UInt8) (k : Nat) :
    unpadTls13 (payload ++ t :: List.replicate k 0) = (ContentType.ofU8 t, payload) := by
  have hrev : (payload ++ t :: List.replicate k 0).reverse =
      List.replicate k 0 ++ t :: payload.reverse := by
    simp
  simp [unpadTls13, hrev, unpadRev_replicate_zero ht]

theorem ofU8_ne_unknown_zero {t : UInt8} (ht : t ≠ 0) : ContentType.ofU8 t ≠ .unknown 0 := by
  intro h
  have hbyte := ContentType.getU8_ofU8 t
  rw [h] at hbyte
  exact ht hbyte.symm

/-- A record sealed under the decrypter's key and nonce, and the additional
data of its own length, over a payload, a non-zero type byte and zero
padding within the limit, opens to that type and payload. -/
theorem Tls13MessageDecrypter.decrypt_padded (d : Tls13MessageDecrypter) {t : UInt8} (ht : t ≠ 0)
    {payload : List UInt8} {k : Nat} (hlen : payload.length + 1 + k ≤ maxFragmentLen + 1)
    {r : OpaqueMessage} {seq : Nat}
    (hr : r.payload = d.decKey.sealInPlaceAppendTag (makeNonce d.iv seq)
      (makeTls13Aad (payload.length + 1 + k + d.decKey.algorithm.tagLen))
      (payload ++ t :: List.replicate k 0)) :
    d.decrypt r seq = .ok ⟨ContentType.ofU8 t, ProtocolVersion.tlsv1_3, payload⟩ := by
  have hx : (payload ++ t :: List.replicate k 0).length = payload.length + 1 + k := by
    simp only [List.length_append, List.length_cons, List.length_replicate]
    omega
  have hsealed : r.payload.length = payload.length + 1 + k + d.decKey.algorithm.tagLen := by
    rw [hr, LessSafeKey.length_sealInPlaceAppendTag, hx]
  have hshort : ¬r.payload.length < d.decKey.algorithm.tagLen := by omega
  have hopen : d.decKey.openInPlace (makeNonce d.iv seq) (makeTls13Aad r.payload.length) r.payload =
      some (payload ++ t :: List.replicate k 0) := by
    rw [hsealed, hr, LessSafeKey.openInPlace_sealInPlaceAppendTag]
  have hplain : ¬(payload ++ t :: List.replicate k 0).length > maxFragmentLen + 1 := by omega
  have hpayload : ¬payload.length > maxFragmentLen := by omega
  simp only [Tls13MessageDecrypter.decrypt, if_neg hshort, hopen, if_neg hplain,
    unpadTls13_padded ht, if_neg (ofU8_ne_unknown_zero ht), if_neg hpayload]

/-- What TLS 1.3 record protection keeps: every record with a canonical
content type whose byte is not zero reads back, with the version set to
TLS 1.3. -/
def Agrees13 (dec : MessageDecrypter) (enc : MessageEncrypter) : Prop :=
  ∀ (m : PlainMessage) (seq : Nat), m.typ.Canonical → m.typ.getU8 ≠ 0 →
    m.payload.length ≤ maxFragmentLen →
      (enc m seq >>= (dec · seq)) = .ok { m with version := ProtocolVersion.tlsv1_3 }

/-- A TLS 1.3 decrypter with the encrypter's key and IV opens every record
the encrypter makes: the type byte is the padding-free case of
`decrypt_padded`. -/
theorem Tls13MessageDecrypter.decrypt_encrypt {e : Tls13MessageEncrypter}
    {d : Tls13MessageDecrypter} (hkey : d.decKey = e.encKey) (hiv : d.iv = e.iv) :
    Agrees13 d.decrypt e.encrypt := by
  intro m seq htyp hne hm
  simp only [Tls13MessageEncrypter.encrypt, ok_bind]
  have hpad : m.payload ++ [m.typ.getU8] = m.payload ++ m.typ.getU8 :: List.replicate 0 0 := rfl
  rw [@Tls13MessageDecrypter.decrypt_padded d _ hne m.payload 0 (by omega) _ seq
    (by rw [hkey, hiv, hpad]), ContentType.ofU8_getU8 htyp]

/-- The encrypter and the decrypter of one traffic secret share the key and
the IV. -/
theorem deriveDecrypter_agrees (hkdf : Kdf) (alg : Algorithm) (secret : List UInt8) :
    Agrees13 (deriveDecrypter hkdf alg secret).decrypt (setEncrypter hkdf alg secret).encrypt :=
  Tls13MessageDecrypter.decrypt_encrypt rfl rfl

/-! ## The two endpoints agree -/

/-- Record protection agrees between the two endpoints.  Under TLS 1.2, for a
suite of the source's shape, `make_cipher_pair` returns on both sides and the
peer opens every record a side seals.  Under TLS 1.3, for the encrypter and
the decrypter of one traffic secret, every record with a canonical content
type whose byte is not zero reads back with the version TLS 1.3, and a record
the peer sealed over a payload, a non-zero type byte and zero padding within
the limit opens to the type of that byte and the payload. -/
theorem record_protection_agrees (prf : Kdf) {s : ConnectionSecrets} (hs : s.suite.Shaped)
    (side : Side) (hkdf : Kdf) (alg : Algorithm) (secret : List UInt8) :
    (∃ decA encA decB encB, s.makeCipherPair prf side = .ok (decA, encA) ∧
      s.makeCipherPair prf side.peer = .ok (decB, encB) ∧ Agrees decB encA) ∧
    Agrees13 (deriveDecrypter hkdf alg secret).decrypt (setEncrypter hkdf alg secret).encrypt ∧
    ∀ (payload : List UInt8) (t : UInt8) (k : Nat) (r : OpaqueMessage) (seq : Nat), t ≠ 0 →
      payload.length + 1 + k ≤ maxFragmentLen + 1 →
      r.payload = (setEncrypter hkdf alg secret).encKey.sealInPlaceAppendTag
        (makeNonce (setEncrypter hkdf alg secret).iv seq)
        (makeTls13Aad (payload.length + 1 + k + alg.tagLen)) (payload ++ t :: List.replicate k 0) →
      (deriveDecrypter hkdf alg secret).decrypt r seq =
        .ok ⟨ContentType.ofU8 t, ProtocolVersion.tlsv1_3, payload⟩ := by
  refine ⟨makeCipherPair_agree prf hs side, deriveDecrypter_agrees hkdf alg secret, ?_⟩
  intro payload t k r seq ht hlen hr
  exact Tls13MessageDecrypter.decrypt_padded _ ht hlen hr

/-- A null AEAD to run the model on: the plaintext, then sixteen zero bytes
of tag. -/
def nullAead : Algorithm where
  keyLen := 16
  tagLen := 16
  sealBytes _ _ _ x := x ++ List.replicate 16 0
  openBytes _ _ _ c := some (c.take (c.length - 16))
  length_sealBytes := by
    intros
    simp
  openBytes_sealBytes := by
    intros
    simp

/-- A key derivation that gives zeros. -/
def zeroKdf : Kdf := ⟨fun _ _ _ n => List.replicate n 0, by simp⟩

/-- An AES-GCM suite over the null AEAD. -/
def nullGcmSecrets : ConnectionSecrets := ⟨⟨[], []⟩, ⟨nullAead, .aesGcm, 4, 8⟩, []⟩

theorem nullGcm_record_protection_agrees :
    nullGcmSecrets.suite.Shaped ∧
    (∃ decA encA decB encB, nullGcmSecrets.makeCipherPair zeroKdf .client = .ok (decA, encA) ∧
      nullGcmSecrets.makeCipherPair zeroKdf Side.client.peer = .ok (decB, encB) ∧
      Agrees decB encA) ∧
    Agrees13 (deriveDecrypter zeroKdf nullAead []).decrypt (setEncrypter zeroKdf nullAead []).encrypt ∧
    ∀ (payload : List UInt8) (t : UInt8) (k : Nat) (r : OpaqueMessage) (seq : Nat), t ≠ 0 →
      payload.length + 1 + k ≤ maxFragmentLen + 1 →
      r.payload = (setEncrypter zeroKdf nullAead []).encKey.sealInPlaceAppendTag
        (makeNonce (setEncrypter zeroKdf nullAead []).iv seq)
        (makeTls13Aad (payload.length + 1 + k + nullAead.tagLen))
        (payload ++ t :: List.replicate k 0) →
      (deriveDecrypter zeroKdf nullAead []).decrypt r seq =
        .ok ⟨ContentType.ofU8 t, ProtocolVersion.tlsv1_3, payload⟩ :=
  have hs : nullGcmSecrets.suite.Shaped := ⟨rfl, .inl ⟨rfl, rfl, rfl⟩⟩
  ⟨hs, record_protection_agrees zeroKdf hs .client zeroKdf nullAead []⟩

/-- A record of type `Unknown(0x16)` comes back as `Handshake`, under every
AEAD, secret and sequence number: the type is read back from its byte. -/
theorem unknown_type_decrypts_as_handshake (hkdf : Kdf) (alg : Algorithm) (secret : List UInt8)
    (seq : Nat) :
    ((setEncrypter hkdf alg secret).encrypt ⟨.unknown 0x16, ProtocolVersion.tlsv1_3, []⟩ seq >>=
        ((deriveDecrypter hkdf alg secret).decrypt · seq)) =
      .ok ⟨.handshake, ProtocolVersion.tlsv1_3, []⟩ ∧
    ContentType.handshake ≠ .unknown 0x16 := by
  refine ⟨?_, by decide⟩
  simp only [Tls13MessageEncrypter.encrypt, ok_bind]
  rw [@Tls13MessageDecrypter.decrypt_padded _ 0x16 (by decide) [] 0 (by decide) _ seq rfl]
  rfl

/-- The null AEAD, at sequence number zero. -/
theorem null_aead_unknown_type_decrypts_as_handshake :
    ((setEncrypter zeroKdf nullAead []).encrypt ⟨.unknown 0x16, ProtocolVersion.tlsv1_3, []⟩ 0 >>=
        ((deriveDecrypter zeroKdf nullAead []).decrypt · 0)) =
      .ok ⟨.handshake, ProtocolVersion.tlsv1_3, []⟩ ∧
    ContentType.handshake ≠ .unknown 0x16 :=
  unknown_type_decrypts_as_handshake zeroKdf nullAead [] 0

end TcplsBasics.Ports.Cipher
