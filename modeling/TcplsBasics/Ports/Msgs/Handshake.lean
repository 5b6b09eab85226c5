import TcplsBasics.Ports.Msgs.Extensions
import TcplsBasics.Verified.Rust

/-!
# Handshake messages (`msgs/handshake.rs`)

`HandshakeMessagePayload` with every payload of `HandshakePayload`, its
encoder and `read_version`, and the helpers of `ClientHelloPayload` that
the PSK binder uses: `check_psk_ext_is_last`, `set_psk_binder` and
`get_encoding_for_binder_signing`.

A handshake message is `[type: u8][length: u24][body]`.  `read_version`
takes the version the connection negotiated, which selects the TLS 1.2 or
TLS 1.3 form of `Certificate`, `CertificateRequest` and `NewSessionTicket`;
a `ServerHello` whose random is the fixed `HELLO_RETRY_REQUEST_RANDOM` is
read as a `HelloRetryRequest`, and a `HelloRetryRequest` is encoded with the
`ServerHello` type.  A body decoder that leaves bytes behind makes the whole
message fail, as in the source.

## Main results

* `encode_of_last_psk`: a ClientHello whose last extension is a PSK offer
  ends with the encoding of its binders.
* `getEncodingForBinderSigning_of_last`: binder signing then hashes the
  encoding minus exactly those bytes.
-/

namespace TcplsBasics.Ports.Msgs.Handshake

open TcplsBasics.Verified.Codec TcplsBasics.Verified.Rust TcplsBasics.Ports.Msgs.Extensions

/-! ## Codes -/

namespace HandshakeType

def helloRequest : Nat := 0x00
def clientHello : Nat := 0x01
def serverHello : Nat := 0x02
def newSessionTicket : Nat := 0x04
def endOfEarlyData : Nat := 0x05
def helloRetryRequest : Nat := 0x06
def encryptedExtensions : Nat := 0x08
def certificate : Nat := 0x0b
def serverKeyExchange : Nat := 0x0c
def certificateRequest : Nat := 0x0d
def serverHelloDone : Nat := 0x0e
def certificateVerify : Nat := 0x0f
def clientKeyExchange : Nat := 0x10
def finished : Nat := 0x14
def certificateStatus : Nat := 0x16
def keyUpdate : Nat := 0x18
def messageHash : Nat := 0xfe

end HandshakeType

namespace ProtocolVersion

def tlsv1_0 : Nat := 0x0301
def tlsv1_2 : Nat := 0x0303
def tlsv1_3 : Nat := 0x0304

end ProtocolVersion

/-- `Compression::Null`. -/
def Compression.null : Nat := 0x00

/-- `ECCurveType::NamedCurve`. -/
def ECCurveType.namedCurve : Nat := 0x03

/-- `CipherSuite::TLS_EMPTY_RENEGOTIATION_INFO_SCSV`. -/
def CipherSuite.tlsEmptyRenegotiationInfoScsv : Nat := 0x00ff

/-! ## Randoms and session ids -/

/-- `Random`: 32 bytes. -/
structure Random where
  bytes : List UInt8
  length_eq : bytes.length = 32
deriving DecidableEq

def Random.read : Decoder Random := fun b =>
  if h : 32 ≤ b.length then some (⟨b.take 32, by simp [h]⟩, b.drop 32) else none

/-- `HELLO_RETRY_REQUEST_RANDOM`. -/
def helloRetryRequestRandom : Random :=
  ⟨[0xcf, 0x21, 0xad, 0x74, 0xe5, 0x9a, 0x61, 0x11, 0xbe, 0x1d, 0x8c, 0x02, 0x1e, 0x65, 0xb8, 0x91,
    0xc2, 0xa2, 0x11, 0x16, 0x7a, 0xbb, 0x8c, 0x5e, 0x07, 0x9e, 0x09, 0xe2, 0xc8, 0xa8, 0x33, 0x9c],
    rfl⟩

/-- `ZERO_RANDOM`. -/
def zeroRandom : Random := ⟨List.replicate 32 0, rfl⟩

/-- `SessionID`: at most 32 bytes. -/
structure SessionID where
  data : List UInt8
  length_le : data.length ≤ 32
deriving DecidableEq

/-- `SessionID::empty`. -/
def SessionID.empty : SessionID := ⟨[], by simp⟩

def SessionID.encode (s : SessionID) : List UInt8 := encodeBlock 1 s.data

/-- What a length byte of at most `32` takes off the bytes fits a `SessionID`. -/
theorem SessionID.length_take_le {len : Nat} (b : List UInt8) (h : ¬ 32 < len) :
    (b.take len).length ≤ 32 := by
  rw [List.length_take]
  omega

def SessionID.read : Decoder SessionID := fun b =>
  match readUInt 1 b with
  | none => none
  | some (len, b) =>
    if h₁ : 32 < len then none
    else if _h₂ : len ≤ b.length then some (⟨b.take len, SessionID.length_take_le b h₁⟩, b.drop len)
    else none

/-! ## Hellos -/

/-- `ClientHelloPayload`. -/
structure ClientHelloPayload where
  clientVersion : Nat
  random : Random
  sessionId : SessionID
  cipherSuites : List Nat
  compressionMethods : List Nat
  extensions : List ClientExtension
deriving DecidableEq

namespace ClientHelloPayload

/-- `ClientHelloPayload::encode`: the extension block only when there are extensions. -/
def encode (ch : ClientHelloPayload) : List UInt8 :=
  encodeUInt 2 ch.clientVersion ++ ch.random.bytes ++ ch.sessionId.encode ++
    encodeVec 2 (encodeUInt 2) ch.cipherSuites ++ encodeVec 1 (encodeUInt 1) ch.compressionMethods ++
    if ch.extensions = [] then [] else encodeVec 2 ClientExtension.encode ch.extensions

/-- `ClientHelloPayload::read`, which succeeds only on the whole input and
with at least one extension. -/
def read (validDnsName : List UInt8 → Bool) (b : List UInt8) : Option ClientHelloPayload :=
  match readUInt 2 b with
  | none => none
  | some (clientVersion, b) =>
    match Random.read b with
    | none => none
    | some (random, b) =>
      match SessionID.read b with
      | none => none
      | some (sessionId, b) =>
        match readVec 2 (readUInt 2) b with
        | none => none
        | some (cipherSuites, b) =>
          match readVec 1 (readUInt 1) b with
          | none => none
          | some (compressionMethods, b) =>
            let exts :=
              if b ≠ [] then readVec 2 (ClientExtension.read validDnsName) b else some ([], b)
            match exts with
            | none => none
            | some (extensions, b) =>
              if b ≠ [] ∨ extensions = [] then none
              else some ⟨clientVersion, random, sessionId, cipherSuites, compressionMethods,
                extensions⟩

/-- `ClientHelloPayload::find_extension`. -/
def findExtension (ch : ClientHelloPayload) (typ : Nat) : Option ClientExtension :=
  ch.extensions.find? fun e => e.getType = typ

/-- An extension of a type is found exactly when the client sent one. -/
theorem findExtension_isSome_iff {ch : ClientHelloPayload} {typ : Nat} :
    (ch.findExtension typ).isSome ↔ typ ∈ ch.extensions.map ClientExtension.getType := by
  rw [findExtension, List.find?_isSome]
  simp only [List.mem_map, decide_eq_true_eq]

/-- `ClientHelloPayload::get_sni_extension`. -/
def getSniExtension (ch : ClientHelloPayload) : Option (List ServerName) :=
  match ch.findExtension ExtensionType.serverName with
  | some (.serverName req) => some req
  | _ => none

/-- `ClientHelloPayload::get_alpn_extension`. -/
def getAlpnExtension (ch : ClientHelloPayload) : Option (List (List UInt8)) :=
  match ch.findExtension ExtensionType.alProtocolNegotiation with
  | some (.protocols req) => some req
  | _ => none

/-- `ClientHelloPayload::get_quic_params_extension`. -/
def getQuicParamsExtension (ch : ClientHelloPayload) : Option (List UInt8) :=
  match (ch.findExtension ExtensionType.transportParameters).or
      (ch.findExtension ExtensionType.transportParametersDraft) with
  | some (.transportParameters bytes) => some bytes
  | some (.transportParametersDraft bytes) => some bytes
  | _ => none

/-- `ClientHelloPayload::get_versions_extension`. -/
def getVersionsExtension (ch : ClientHelloPayload) : Option (List Nat) :=
  match ch.findExtension ExtensionType.supportedVersions with
  | some (.supportedVersions versions) => some versions
  | _ => none

/-- `ClientHelloPayload::ems_support_offered`. -/
def emsSupportOffered (ch : ClientHelloPayload) : Bool :=
  (ch.findExtension ExtensionType.extendedMasterSecret).isSome

/-- `ClientHelloPayload::early_data_extension_offered`. -/
def earlyDataExtensionOffered (ch : ClientHelloPayload) : Bool :=
  (ch.findExtension ExtensionType.earlyData).isSome

/-- A ClientHello with an ALPN offer sent an extension of that type. -/
theorem alpn_mem_of_getAlpnExtension {ch : ClientHelloPayload} {req : List (List UInt8)}
    (h : ch.getAlpnExtension = some req) :
    ExtensionType.alProtocolNegotiation ∈ ch.extensions.map ClientExtension.getType := by
  rw [← findExtension_isSome_iff]
  unfold getAlpnExtension at h
  split at h <;> simp_all

/-- A ClientHello with a server name sent an extension of that type. -/
theorem serverName_mem_of_getSniExtension {ch : ClientHelloPayload} {req : List ServerName}
    (h : ch.getSniExtension = some req) :
    ExtensionType.serverName ∈ ch.extensions.map ClientExtension.getType := by
  rw [← findExtension_isSome_iff]
  unfold getSniExtension at h
  split at h <;> simp_all

/-- `ClientHelloPayload::get_psk`. -/
def getPsk (ch : ClientHelloPayload) : Option PresharedKeyOffer :=
  match ch.findExtension ExtensionType.preSharedKey with
  | some (.presharedKey offer) => some offer
  | _ => none

/-- `ClientHelloPayload::check_psk_ext_is_last`. -/
def checkPskExtIsLast (ch : ClientHelloPayload) : Bool :=
  match ch.extensions.getLast? with
  | some e => e.getType = ExtensionType.preSharedKey
  | none => false

/-- `ClientHelloPayload::set_psk_binder`: only a PSK offer in last position
is touched; `binders[0] = ...` panics on an offer without binders. -/
def setPskBinder (ch : ClientHelloPayload) (binder : List UInt8) :
    Except Panic ClientHelloPayload :=
  match ch.extensions.getLast? with
  | some (.presharedKey offer) =>
    match offer.binders with
    | [] => .error ⟨"index out of bounds: the len is 0 but the index is 0"⟩
    | _ :: binders =>
      .ok { ch with
        extensions := ch.extensions.dropLast ++ [.presharedKey { offer with
          binders := binder :: binders }] }
  | _ => .ok ch

/-- `set_psk_binder` replaces the first binder of a PSK offer in last position. -/
theorem setPskBinder_of_last {ch : ClientHelloPayload} {pre : List ClientExtension}
    {offer : PresharedKeyOffer} {b : List UInt8} {bs : List (List UInt8)}
    (h : ch.extensions = pre ++ [.presharedKey offer]) (hb : offer.binders = b :: bs)
    (binder : List UInt8) :
    ch.setPskBinder binder =
      .ok { ch with extensions := pre ++ [.presharedKey { offer with binders := binder :: bs }] } := by
  simp [setPskBinder, h, hb]

/-- `set_psk_binder` does nothing when the last extension is not a PSK offer. -/
theorem setPskBinder_of_not_last {ch : ClientHelloPayload}
    (h : ∀ offer, ch.extensions.getLast? ≠ some (.presharedKey offer)) (binder : List UInt8) :
    ch.setPskBinder binder = .ok ch := by
  unfold setPskBinder
  split
  · rename_i offer hlast
    exact absurd hlast (h offer)
  · rfl

end ClientHelloPayload

/-- `ServerHelloPayload`. -/
structure ServerHelloPayload where
  legacyVersion : Nat
  random : Random
  sessionId : SessionID
  cipherSuite : Nat
  compressionMethod : Nat
  extensions : List ServerExtension
deriving DecidableEq

namespace ServerHelloPayload

def encode (sh : ServerHelloPayload) : List UInt8 :=
  encodeUInt 2 sh.legacyVersion ++ sh.random.bytes ++ sh.sessionId.encode ++
    encodeUInt 2 sh.cipherSuite ++ encodeUInt 1 sh.compressionMethod ++
    if sh.extensions = [] then [] else encodeVec 2 ServerExtension.encode sh.extensions

/-- `ServerHelloPayload::read`, after the version and random, which the
caller fills in; extensions are read only if bytes follow. -/
def read (b : List UInt8) : Option ServerHelloPayload :=
  match SessionID.read b with
  | none => none
  | some (sessionId, b) =>
    match readUInt 2 b with
    | none => none
    | some (cipherSuite, b) =>
      match readUInt 1 b with
      | none => none
      | some (compressionMethod, b) =>
        let exts := if b ≠ [] then readVec 2 ServerExtension.read b else some ([], b)
        match exts with
        | none => none
        | some (extensions, b) =>
          if b ≠ [] then none
          else some ⟨0, zeroRandom, sessionId, cipherSuite, compressionMethod, extensions⟩

end ServerHelloPayload

/-- `HelloRetryRequest`. -/
structure HelloRetryRequest where
  legacyVersion : Nat
  sessionId : SessionID
  cipherSuite : Nat
  extensions : List HelloRetryExtension
deriving DecidableEq

namespace HelloRetryRequest

def encode (hrr : HelloRetryRequest) : List UInt8 :=
  encodeUInt 2 hrr.legacyVersion ++ helloRetryRequestRandom.bytes ++ hrr.sessionId.encode ++
    encodeUInt 2 hrr.cipherSuite ++ encodeUInt 1 Compression.null ++
    encodeVec 2 HelloRetryExtension.encode hrr.extensions

/-- `HelloRetryRequest::read`, after the version and random; a compression
other than `Null` is refused. -/
def read : Decoder HelloRetryRequest := fun b =>
  match SessionID.read b with
  | none => none
  | some (sessionId, b) =>
    match readUInt 2 b with
    | none => none
    | some (cipherSuite, b) =>
      match readUInt 1 b with
      | none => none
      | some (compression, b) =>
        if compression ≠ Compression.null then none
        else wrap (HelloRetryRequest.mk 0 sessionId cipherSuite)
          (readVec 2 HelloRetryExtension.read b)

/-- `HelloRetryRequest::find_extension`. -/
def findExtension (hrr : HelloRetryRequest) (typ : Nat) : Option HelloRetryExtension :=
  hrr.extensions.find? fun e => e.getType = typ

/-- `HelloRetryRequest::get_cookie`. -/
def getCookie (hrr : HelloRetryRequest) : Option (List UInt8) :=
  match hrr.findExtension ExtensionType.cookie with
  | some (.cookie c) => some c
  | _ => none

end HelloRetryRequest

/-! ## Certificates, key exchange and tickets -/

/-- `key::Certificate::encode`, a `u24` block. -/
def encodeCertificate (cert : List UInt8) : List UInt8 := encodeBlock 3 cert

/-- `CertificatePayload::encode`. -/
def encodeCertificatePayload (certs : List (List UInt8)) : List UInt8 :=
  encodeVec 3 encodeCertificate certs

/-- `CertificatePayload::read`: at most `0x10000` bytes of certificates. -/
def readCertificatePayload : Decoder (List (List UInt8)) := readVecLimited 3 0x10000 (readBlock 3)

/-- `CertificateEntry`. -/
structure CertificateEntry where
  cert : List UInt8
  exts : List CertificateExtension
deriving DecidableEq

def CertificateEntry.encode (e : CertificateEntry) : List UInt8 :=
  encodeCertificate e.cert ++ encodeVec 2 CertificateExtension.encode e.exts

def CertificateEntry.read : Decoder CertificateEntry := fun b =>
  match readBlock 3 b with
  | none => none
  | some (cert, b) => wrap (CertificateEntry.mk cert) (readVec 2 CertificateExtension.read b)

/-- `CertificatePayloadTLS13`. -/
structure CertificatePayloadTLS13 where
  context : List UInt8
  entries : List CertificateEntry
deriving DecidableEq

def CertificatePayloadTLS13.encode (p : CertificatePayloadTLS13) : List UInt8 :=
  encodeBlock 1 p.context ++ encodeVec 3 CertificateEntry.encode p.entries

def CertificatePayloadTLS13.read : Decoder CertificatePayloadTLS13 := fun b =>
  match readBlock 1 b with
  | none => none
  | some (context, b) =>
    wrap (CertificatePayloadTLS13.mk context) (readVecLimited 3 0x10000 CertificateEntry.read b)

/-- `DigitallySignedStruct`. -/
structure DigitallySignedStruct where
  scheme : Nat
  sig : List UInt8
deriving DecidableEq

def DigitallySignedStruct.encode (d : DigitallySignedStruct) : List UInt8 :=
  encodeUInt 2 d.scheme ++ encodeBlock 2 d.sig

def DigitallySignedStruct.read : Decoder DigitallySignedStruct := fun b =>
  match readUInt 2 b with
  | none => none
  | some (scheme, b) => wrap (DigitallySignedStruct.mk scheme) (readBlock 2 b)

/-- `ECDHEServerKeyExchange`, with its `ServerECDHParams` and `ECParameters`
flattened; `publicKey` is the field `public`. -/
structure ECDHEServerKeyExchange where
  curveType : Nat
  namedGroup : Nat
  publicKey : List UInt8
  dss : DigitallySignedStruct
deriving DecidableEq

def ECDHEServerKeyExchange.encode (x : ECDHEServerKeyExchange) : List UInt8 :=
  encodeUInt 1 x.curveType ++ encodeUInt 2 x.namedGroup ++ encodeBlock 1 x.publicKey ++ x.dss.encode

/-- `ServerKeyExchangePayload`: read as `Unknown`, parsed once the key
exchange algorithm is known. -/
inductive ServerKeyExchangePayload where
  | ecdhe (x : ECDHEServerKeyExchange)
  | unknown (payload : List UInt8)
deriving DecidableEq

def ServerKeyExchangePayload.encode : ServerKeyExchangePayload → List UInt8
  | .ecdhe x => x.encode
  | .unknown payload => payload

/-- `CertificateRequestPayload`. -/
structure CertificateRequestPayload where
  certtypes : List Nat
  sigschemes : List Nat
  canames : List (List UInt8)
deriving DecidableEq

def CertificateRequestPayload.encode (p : CertificateRequestPayload) : List UInt8 :=
  encodeVec 1 (encodeUInt 1) p.certtypes ++ encodeVec 2 (encodeUInt 2) p.sigschemes ++
    encodeVec 2 (encodeBlock 2) p.canames

/-- `CertificateRequestPayload::read`: an empty list of schemes is refused. -/
def CertificateRequestPayload.read : Decoder CertificateRequestPayload := fun b =>
  match readVec 1 (readUInt 1) b with
  | none => none
  | some (certtypes, b) =>
    match readVec 2 (readUInt 2) b with
    | none => none
    | some (sigschemes, b) =>
      match readVec 2 (readBlock 2) b with
      | none => none
      | some (canames, b) =>
        if sigschemes = [] then none else some (⟨certtypes, sigschemes, canames⟩, b)

/-- `CertificateRequestPayloadTLS13`. -/
structure CertificateRequestPayloadTLS13 where
  context : List UInt8
  extensions : List CertReqExtension
deriving DecidableEq

def CertificateRequestPayloadTLS13.encode (p : CertificateRequestPayloadTLS13) : List UInt8 :=
  encodeBlock 1 p.context ++ encodeVec 2 CertReqExtension.encode p.extensions

def CertificateRequestPayloadTLS13.read : Decoder CertificateRequestPayloadTLS13 := fun b =>
  match readBlock 1 b with
  | none => none
  | some (context, b) =>
    wrap (CertificateRequestPayloadTLS13.mk context) (readVec 2 CertReqExtension.read b)

/-- `NewSessionTicketPayload`. -/
structure NewSessionTicketPayload where
  lifetimeHint : Nat
  ticket : List UInt8
deriving DecidableEq

def NewSessionTicketPayload.encode (p : NewSessionTicketPayload) : List UInt8 :=
  encodeUInt 4 p.lifetimeHint ++ encodeBlock 2 p.ticket

def NewSessionTicketPayload.read : Decoder NewSessionTicketPayload := fun b =>
  match readUInt 4 b with
  | none => none
  | some (lifetimeHint, b) => wrap (NewSessionTicketPayload.mk lifetimeHint) (readBlock 2 b)

/-- `NewSessionTicketPayloadTLS13`. -/
structure NewSessionTicketPayloadTLS13 where
  lifetime : Nat
  ageAdd : Nat
  nonce : List UInt8
  ticket : List UInt8
  exts : List NewSessionTicketExtension
deriving DecidableEq

def NewSessionTicketPayloadTLS13.encode (p : NewSessionTicketPayloadTLS13) : List UInt8 :=
  encodeUInt 4 p.lifetime ++ encodeUInt 4 p.ageAdd ++ encodeBlock 1 p.nonce ++
    encodeBlock 2 p.ticket ++ encodeVec 2 NewSessionTicketExtension.encode p.exts

def NewSessionTicketPayloadTLS13.read : Decoder NewSessionTicketPayloadTLS13 := fun b =>
  match readUInt 4 b with
  | none => none
  | some (lifetime, b) =>
    match readUInt 4 b with
    | none => none
    | some (ageAdd, b) =>
      match readBlock 1 b with
      | none => none
      | some (nonce, b) =>
        match readBlock 2 b with
        | none => none
        | some (ticket, b) =>
          wrap (NewSessionTicketPayloadTLS13.mk lifetime ageAdd nonce ticket)
            (readVec 2 NewSessionTicketExtension.read b)

/-! ## Handshake messages -/

/-- `HandshakePayload`. -/
inductive HandshakePayload where
  | helloRequest
  | clientHello (ch : ClientHelloPayload)
  | serverHello (sh : ServerHelloPayload)
  | helloRetryRequest (hrr : HelloRetryRequest)
  | certificate (certs : List (List UInt8))
  | certificateTls13 (p : CertificatePayloadTLS13)
  | serverKeyExchange (p : ServerKeyExchangePayload)
  | certificateRequest (p : CertificateRequestPayload)
  | certificateRequestTls13 (p : CertificateRequestPayloadTLS13)
  | certificateVerify (d : DigitallySignedStruct)
  | serverHelloDone
  | endOfEarlyData
  | clientKeyExchange (payload : List UInt8)
  | newSessionTicket (p : NewSessionTicketPayload)
  | newSessionTicketTls13 (p : NewSessionTicketPayloadTLS13)
  | encryptedExtensions (exts : List ServerExtension)
  | keyUpdate (request : Nat)
  | finished (payload : List UInt8)
  | certificateStatus (status : CertificateStatus)
  | messageHash (payload : List UInt8)
  | unknown (payload : List UInt8)
deriving DecidableEq

/-- `HandshakePayload::encode`. -/
def HandshakePayload.encode : HandshakePayload → List UInt8
  | .helloRequest => []
  | .serverHelloDone => []
  | .endOfEarlyData => []
  | .clientHello ch => ch.encode
  | .serverHello sh => sh.encode
  | .helloRetryRequest hrr => hrr.encode
  | .certificate certs => encodeCertificatePayload certs
  | .certificateTls13 p => p.encode
  | .serverKeyExchange p => p.encode
  | .clientKeyExchange payload => payload
  | .certificateRequest p => p.encode
  | .certificateRequestTls13 p => p.encode
  | .certificateVerify d => d.encode
  | .newSessionTicket p => p.encode
  | .newSessionTicketTls13 p => p.encode
  | .encryptedExtensions exts => encodeVec 2 ServerExtension.encode exts
  | .keyUpdate request => encodeUInt 1 request
  | .finished payload => payload
  | .certificateStatus status => status.encode
  | .messageHash payload => payload
  | .unknown payload => payload

/-- `HandshakeMessagePayload`. -/
structure HandshakeMessagePayload where
  typ : Nat
  payload : HandshakePayload
deriving DecidableEq

namespace HandshakeMessagePayload

/-- `HandshakeMessagePayload::encode`: a `HelloRetryRequest` goes out with
the `ServerHello` type. -/
def encode (m : HandshakeMessagePayload) : List UInt8 :=
  encodeUInt 1 (if m.typ = HandshakeType.helloRetryRequest then HandshakeType.serverHello else m.typ) ++
    encodeBlock 3 m.payload.encode

/-- A decoder's result under a handshake type, with its value wrapped. -/
def wrapTyp {α : Type} (typ : Nat) (f : α → HandshakePayload) (r : Option (α × List UInt8)) :
    Option (Nat × HandshakePayload × List UInt8) :=
  r.map fun p => (typ, f p.1, p.2)

/-- The `match typ` of `read_version` on the body `sub`: the type (a
`ServerHello` may become a `HelloRetryRequest`), the payload, and what the
payload's decoder left. A guarded arm whose guard fails falls through. -/
def readPayload (validDnsName : List UInt8 → Bool) (vers typ : Nat) (sub : List UInt8) :
    Option (Nat × HandshakePayload × List UInt8) :=
  if typ = HandshakeType.helloRequest ∧ sub = [] then some (typ, .helloRequest, [])
  else if typ = HandshakeType.clientHello then
    (ClientHelloPayload.read validDnsName sub).map fun ch => (typ, .clientHello ch, [])
  else if typ = HandshakeType.serverHello then
    match readUInt 2 sub with
    | none => none
    | some (version, sub) =>
      match Random.read sub with
      | none => none
      | some (random, sub) =>
        if random = helloRetryRequestRandom then
          wrapTyp HandshakeType.helloRetryRequest
            (fun hrr => .helloRetryRequest { hrr with legacyVersion := version })
            (HelloRetryRequest.read sub)
        else
          (ServerHelloPayload.read sub).map fun sh =>
            (typ, .serverHello { sh with legacyVersion := version, random }, [])
  else if typ = HandshakeType.certificate ∧ vers = ProtocolVersion.tlsv1_3 then
    wrapTyp typ .certificateTls13 (CertificatePayloadTLS13.read sub)
  else if typ = HandshakeType.certificate then
    wrapTyp typ .certificate (readCertificatePayload sub)
  else if typ = HandshakeType.serverKeyExchange then
    some (typ, .serverKeyExchange (.unknown sub), [])
  else if typ = HandshakeType.serverHelloDone then
    if sub ≠ [] then none else some (typ, .serverHelloDone, [])
  else if typ = HandshakeType.clientKeyExchange then some (typ, .clientKeyExchange sub, [])
  else if typ = HandshakeType.certificateRequest ∧ vers = ProtocolVersion.tlsv1_3 then
    wrapTyp typ .certificateRequestTls13 (CertificateRequestPayloadTLS13.read sub)
  else if typ = HandshakeType.certificateRequest then
    wrapTyp typ .certificateRequest (CertificateRequestPayload.read sub)
  else if typ = HandshakeType.certificateVerify then
    wrapTyp typ .certificateVerify (DigitallySignedStruct.read sub)
  else if typ = HandshakeType.newSessionTicket ∧ vers = ProtocolVersion.tlsv1_3 then
    wrapTyp typ .newSessionTicketTls13 (NewSessionTicketPayloadTLS13.read sub)
  else if typ = HandshakeType.newSessionTicket then
    wrapTyp typ .newSessionTicket (NewSessionTicketPayload.read sub)
  else if typ = HandshakeType.encryptedExtensions then
    wrapTyp typ .encryptedExtensions (readVec 2 ServerExtension.read sub)
  else if typ = HandshakeType.keyUpdate then wrapTyp typ .keyUpdate (readUInt 1 sub)
  else if typ = HandshakeType.endOfEarlyData then
    if sub ≠ [] then none else some (typ, .endOfEarlyData, [])
  else if typ = HandshakeType.finished then some (typ, .finished sub, [])
  else if typ = HandshakeType.certificateStatus then
    wrapTyp typ .certificateStatus (CertificateStatus.read sub)
  -- neither appears on the wire
  else if typ = HandshakeType.messageHash then none
  else if typ = HandshakeType.helloRetryRequest then none
  else some (typ, .unknown sub, [])

/-- `HandshakeMessagePayload::read_version`. -/
def readVersion (validDnsName : List UInt8 → Bool) (vers : Nat) :
    Decoder HandshakeMessagePayload := fun b =>
  match readUInt 1 b with
  | none => none
  | some (typ, b) =>
    match readBlock 3 b with
    | none => none
    | some (sub, b) =>
      match readPayload validDnsName vers typ sub with
      | none => none
      | some (typ, payload, left) => if left = [] then some (⟨typ, payload⟩, b) else none

/-- The length `get_encoding_for_binder_signing` cuts off: the binders of a
PSK offer in last position, else nothing. -/
def binderLen (m : HandshakeMessagePayload) : Nat :=
  match m.payload with
  | .clientHello ch =>
    match ch.extensions.getLast? with
    | some (.presharedKey offer) => (encodeBinders offer.binders).length
    | _ => 0
  | _ => 0

/-- `HandshakeMessagePayload::build_handshake_hash`: the `message_hash`
message that stands for a transcript hash after a HelloRetryRequest. -/
def buildHandshakeHash (hash : List UInt8) : HandshakeMessagePayload :=
  ⟨HandshakeType.messageHash, .messageHash hash⟩

/-- `HandshakeMessagePayload::get_encoding_for_binder_signing`. -/
def getEncodingForBinderSigning (m : HandshakeMessagePayload) : List UInt8 :=
  m.encode.take (m.encode.length - m.binderLen)

/-- The encoding of a ClientHello message whose last extension is a PSK
offer, up to the offer's binders, which are `len` bytes long: the message
and extension-block lengths count them, nothing else of them is read. -/
def pskFront (t : Nat) (ch : ClientHelloPayload) (pre : List ClientExtension)
    (ids : List PresharedKeyIdentity) (len : Nat) : List UInt8 :=
  let P := pre.flatMap ClientExtension.encode
  let I := encodeVec 2 PresharedKeyIdentity.encode ids
  let E := encodeUInt 2 ExtensionType.preSharedKey ++ encodeUInt 2 (I.length + len) ++ I
  let A := encodeUInt 2 ch.clientVersion ++ ch.random.bytes ++ ch.sessionId.encode ++
    encodeVec 2 (encodeUInt 2) ch.cipherSuites ++ encodeVec 1 (encodeUInt 1) ch.compressionMethods
  let body := A ++ encodeUInt 2 (P.length + E.length + len) ++ P ++ E
  encodeUInt 1 (if t = HandshakeType.helloRetryRequest then HandshakeType.serverHello else t) ++
    encodeUInt 3 (body.length + len) ++ body

/-- A ClientHello whose last extension is a PSK offer ends with the
encoding of the offer's binders. -/
theorem encode_of_last_psk {t : Nat} {ch : ClientHelloPayload} {pre : List ClientExtension}
    {offer : PresharedKeyOffer} (h : ch.extensions = pre ++ [.presharedKey offer]) :
    (⟨t, .clientHello ch⟩ : HandshakeMessagePayload).encode =
      pskFront t ch pre offer.identities (encodeBinders offer.binders).length ++
        encodeBinders offer.binders := by
  simp only [encode, HandshakePayload.encode, ClientHelloPayload.encode, h, List.append_eq_nil_iff,
    List.cons_ne_nil, and_false, if_false, pskFront, encodeVec, encodeBlock, List.flatMap_append,
    List.flatMap_singleton, ClientExtension.encode, encodeExtension, ClientExtension.getType,
    ClientExtension.encodeBody, PresharedKeyOffer.encode, List.length_append, List.append_assoc,
    length_encodeUInt, Nat.add_assoc]

/-- With a PSK offer in last position, binder signing hashes the encoding
up to the binders. -/
theorem getEncodingForBinderSigning_of_last {t : Nat} {ch : ClientHelloPayload}
    {pre : List ClientExtension} {offer : PresharedKeyOffer}
    (h : ch.extensions = pre ++ [.presharedKey offer]) :
    (⟨t, .clientHello ch⟩ : HandshakeMessagePayload).getEncodingForBinderSigning =
      pskFront t ch pre offer.identities (encodeBinders offer.binders).length := by
  have hlen : (⟨t, .clientHello ch⟩ : HandshakeMessagePayload).binderLen =
      (encodeBinders offer.binders).length := by
    simp [binderLen, h]
  rw [getEncodingForBinderSigning, hlen, encode_of_last_psk h, List.length_append,
    Nat.add_sub_cancel, List.take_left]

end HandshakeMessagePayload

/-! ## Vector decoding stops -/

/-- A TLS 1.3 certificate entry takes its certificate block and its
extensions' length. -/
theorem CertificateEntry.progress_read : Progress CertificateEntry.read := by
  apply Progress.of_eq (Progress.bind (progress_readBlock (n := 3) (by decide))
    fun cert => (progress_readVec (n := 2) (by decide) CertificateExtension.read).shrinks.map (CertificateEntry.mk cert))
  intro b
  unfold CertificateEntry.read
  cases readBlock 3 b with
  | none => rfl
  | some p => rfl

/-- **Vector decoding stops, and takes exactly what it declares.**  Every item
decoder `read_vec_u8`, `read_vec_u16` and `read_vec_u24_limited` are used with
takes at least one byte whenever it returns: the one- and two-byte codes
(`CipherSuite`, `Compression`, `ECPointFormat`, `NamedGroup`,
`SignatureScheme`, `ProtocolVersion`, `PSKKeyExchangeMode`,
`ClientCertificateType`), the length-prefixed payloads (`PayloadU8`,
`PayloadU16`, `DistinguishedName`, `Certificate`), `ServerName`,
`PresharedKeyIdentity`, `KeyShareEntry`, `CertificateEntry`, and every
extension enum, unknown arms included.  With such a decoder the loop
`while sub.any_left()` stops on every byte string, with the result the model
computes; a vector decoder that returns has taken its length prefix and
exactly the bytes it declares; and `read_vec_u24_limited` refuses a declared
length above its limit. -/
theorem vecDecoding_terminates (validDnsName : List UInt8 → Bool) :
    (Progress (readUInt 1) ∧ Progress (readUInt 2) ∧ Progress (readBlock 1) ∧ Progress (readBlock 2) ∧
      Progress (readBlock 3) ∧ Progress (ServerName.read validDnsName) ∧ Progress PresharedKeyIdentity.read ∧
      Progress KeyShareEntry.read ∧ Progress (ClientExtension.read validDnsName) ∧
      Progress ServerExtension.read ∧ Progress HelloRetryExtension.read ∧ Progress CertificateExtension.read ∧
      Progress CertificateEntry.read ∧ Progress CertReqExtension.read ∧ Progress NewSessionTicketExtension.read) ∧
    (∀ (α : Type) (dec : Decoder α), Progress dec →
      ∀ b, ∃ res, ItemsLoop dec b res ∧ readItems dec b.length b = res) ∧
    (∀ (α : Type) (n : Nat) (dec : Decoder α) (b r : List UInt8) (xs : List α),
      readVec n dec b = some (xs, r) → ∃ sub, b = encodeBlock n sub ++ r ∧ sub.length < 256 ^ n) ∧
    (∀ (α : Type) (n max : Nat) (dec : Decoder α) (b r : List UInt8) (xs : List α),
      readVecLimited n max dec b = some (xs, r) → ∃ sub, b = encodeBlock n sub ++ r ∧ sub.length ≤ max) ∧
    (∀ (α : Type) (n max len : Nat) (dec : Decoder α) (b r : List UInt8),
      readUInt n b = some (len, r) → max < len → readVecLimited n max dec b = none) := by
  refine ⟨⟨progress_readUInt (by decide), progress_readUInt (by decide), progress_readBlock (by decide),
    progress_readBlock (by decide), progress_readBlock (by decide), ServerName.progress_read validDnsName,
    PresharedKeyIdentity.progress_read, KeyShareEntry.progress_read, progress_readExtension _,
    progress_readExtension _, progress_readExtension _, progress_readExtension _, CertificateEntry.progress_read,
    progress_readExtension _, progress_readExtension _⟩, ?_, ?_, ?_, ?_⟩
  · intro α dec hp b
    exact ⟨_, (itemsLoop_iff hp b _).mpr rfl, rfl⟩
  · intro α n dec b r xs h
    exact readVec_consumes h
  · intro α n max dec b r xs h
    exact readVecLimited_consumes h
  · intro α n max len dec b r hlen hmax
    exact readVecLimited_of_lt hlen hmax

end TcplsBasics.Ports.Msgs.Handshake
