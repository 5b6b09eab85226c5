import TcplsBasics.Verified.Codec

/-!
# Hello extensions (`msgs/handshake.rs`, `msgs/enums.rs`)

The extensions of the hello messages and of the TLS 1.3 certificate,
certificate request and ticket messages, with the codecs of the source.

An enumeration built by `enum_builder!` (`ExtensionType`, `NamedGroup`,
`ProtocolVersion`, ...) is modelled by its wire code: `read` maps every code
to one value (a named one or `Unknown(code)`) and `get_u16` maps it back, so
on the values a decoder produces the two agree.  The codes the decoders
dispatch on are named in `ExtensionType` and beside the types that use them.

Every extension is encoded the same way, `[type: u16][length: u16][body]`,
and read the same way: the type, a sub-reader over the body, the body's
decoder for that type, and `None` if the body decoder left bytes in the
sub-reader.  `encodeExtension` and `readExtension` are that shared frame;
each extension type supplies its `get_type`, its body encoding and its body
decoder.

`ClientExtension` has two TCPLS arms that differ from the others: `Tcpls`
is decoded without reading its body, and `TcplsExt` is decoded from
`TCPLS_JOIN` or `TCPLS_TOKEN` but encoded under `get_type()`, which is
`TCPLS`.

A host name in `server_name` is checked by `webpki::DnsNameRef::try_from_ascii`,
which is outside this repository: the decoders take that check as a
parameter `validDnsName`.
-/

namespace TcplsBasics.Ports.Msgs.Extensions

open TcplsBasics.Verified.Codec

/-! ## Codes -/

namespace ExtensionType

def serverName : Nat := 0x0000
def statusRequest : Nat := 0x0005
def ellipticCurves : Nat := 0x000a
def ecPointFormats : Nat := 0x000b
def signatureAlgorithms : Nat := 0x000d
def alProtocolNegotiation : Nat := 0x0010
def sct : Nat := 0x0012
def extendedMasterSecret : Nat := 0x0017
def sessionTicket : Nat := 0x0023
def preSharedKey : Nat := 0x0029
def earlyData : Nat := 0x002a
def supportedVersions : Nat := 0x002b
def cookie : Nat := 0x002c
def pskKeyExchangeModes : Nat := 0x002d
def certificateAuthorities : Nat := 0x002f
def keyShare : Nat := 0x0033
def transportParameters : Nat := 0x0039
def tcpls : Nat := 0x003a
def tcplsJoin : Nat := 0x003b
def tcplsToken : Nat := 0x003c
def renegotiationInfo : Nat := 0xff01
def transportParametersDraft : Nat := 0xffa5

end ExtensionType

/-- `ServerNameType::HostName`. -/
def ServerNameType.hostName : Nat := 0x00

/-- `CertificateStatusType::OCSP`. -/
def CertificateStatusType.ocsp : Nat := 0x01

/-! ## The shared extension frame -/

/-- `[type: u16][length: u16][body]`, as every `encode` of an extension writes it. -/
def encodeExtension (typ : Nat) (body : List UInt8) : List UInt8 :=
  encodeUInt 2 typ ++ encodeBlock 2 body

/-- Every extension's `read`: the type, a sub-reader over the body, the body
decoder for the type, and `None` if that decoder left bytes behind. -/
def readExtension {α : Type} (readBody : Nat → Decoder α) : Decoder α := fun b =>
  match readUInt 2 b with
  | none => none
  | some (typ, b) =>
    match readBlock 2 b with
    | none => none
    | some (sub, b) =>
      match readBody typ sub with
      | none => none
      | some (ext, left) => if left = [] then some (ext, b) else none

/-- A decoder's result with its value wrapped. -/
def wrap {α β : Type} (f : α → β) (r : Option (α × List UInt8)) : Option (β × List UInt8) :=
  r.map fun p => (f p.1, p.2)

/-! ## Payloads -/

/-- `ServerNamePayload`: a host name keeps the raw bytes the source keeps
beside its `DnsName`, and encodes them. -/
inductive ServerNamePayload where
  | hostName (raw : List UInt8)
  | unknown (payload : List UInt8)
deriving DecidableEq, Repr

/-- `ServerName`. -/
structure ServerName where
  typ : Nat
  payload : ServerNamePayload
deriving DecidableEq, Repr

/-- `ServerName::encode`. -/
def ServerName.encode (n : ServerName) : List UInt8 :=
  encodeUInt 1 n.typ ++
    match n.payload with
    | .hostName raw => encodeBlock 2 raw
    | .unknown payload => payload

/-- `ServerName::read`: a host name must pass the DNS name check; any other
name type takes the rest of the list. -/
def ServerName.read (validDnsName : List UInt8 → Bool) : Decoder ServerName := fun b =>
  match readUInt 1 b with
  | none => none
  | some (typ, b) =>
    if typ = ServerNameType.hostName then
      match readBlock 2 b with
      | none => none
      | some (raw, b) => if validDnsName raw then some (⟨typ, .hostName raw⟩, b) else none
    else some (⟨typ, .unknown b⟩, [])

/-- `ClientSessionTicket`. -/
inductive ClientSessionTicket where
  | request
  | offer (payload : List UInt8)
deriving DecidableEq, Repr

/-- `KeyShareEntry`. -/
structure KeyShareEntry where
  group : Nat
  payload : List UInt8
deriving DecidableEq, Repr

def KeyShareEntry.encode (k : KeyShareEntry) : List UInt8 :=
  encodeUInt 2 k.group ++ encodeBlock 2 k.payload

def KeyShareEntry.read : Decoder KeyShareEntry := fun b =>
  match readUInt 2 b with
  | none => none
  | some (group, b) => wrap (KeyShareEntry.mk group) (readBlock 2 b)

/-- `PresharedKeyIdentity`. -/
structure PresharedKeyIdentity where
  identity : List UInt8
  obfuscatedTicketAge : Nat
deriving DecidableEq, Repr

def PresharedKeyIdentity.encode (i : PresharedKeyIdentity) : List UInt8 :=
  encodeBlock 2 i.identity ++ encodeUInt 4 i.obfuscatedTicketAge

def PresharedKeyIdentity.read : Decoder PresharedKeyIdentity := fun b =>
  match readBlock 2 b with
  | none => none
  | some (identity, b) => wrap (PresharedKeyIdentity.mk identity) (readUInt 4 b)

/-- `PresharedKeyOffer`: the identities, then the binders. -/
structure PresharedKeyOffer where
  identities : List PresharedKeyIdentity
  binders : List (List UInt8)
deriving DecidableEq, Repr

/-- `PresharedKeyBinders::encode`, the suffix of the offer that binder signing drops. -/
def encodeBinders (binders : List (List UInt8)) : List UInt8 := encodeVec 2 (encodeBlock 1) binders

def PresharedKeyOffer.encode (o : PresharedKeyOffer) : List UInt8 :=
  encodeVec 2 PresharedKeyIdentity.encode o.identities ++ encodeBinders o.binders

def PresharedKeyOffer.read : Decoder PresharedKeyOffer := fun b =>
  match readVec 2 PresharedKeyIdentity.read b with
  | none => none
  | some (identities, b) => wrap (PresharedKeyOffer.mk identities) (readVec 2 (readBlock 1) b)

/-- `OCSPCertificateStatusRequest`. -/
structure OCSPCertificateStatusRequest where
  responderIds : List (List UInt8)
  extensions : List UInt8
deriving DecidableEq, Repr

/-- `CertificateStatusRequest`. -/
inductive CertificateStatusRequest where
  | ocsp (req : OCSPCertificateStatusRequest)
  | unknown (typ : Nat) (payload : List UInt8)
deriving DecidableEq, Repr

def CertificateStatusRequest.encode : CertificateStatusRequest → List UInt8
  | .ocsp req =>
    encodeUInt 1 CertificateStatusType.ocsp ++ encodeVec 2 (encodeBlock 2) req.responderIds ++
      encodeBlock 2 req.extensions
  | .unknown typ payload => encodeUInt 1 typ ++ payload

def CertificateStatusRequest.read : Decoder CertificateStatusRequest := fun b =>
  match readUInt 1 b with
  | none => none
  | some (typ, b) =>
    if typ = CertificateStatusType.ocsp then
      match readVec 2 (readBlock 2) b with
      | none => none
      | some (responderIds, b) =>
        wrap (fun extensions => .ocsp ⟨responderIds, extensions⟩) (readBlock 2 b)
    else some (.unknown typ b, [])

/-- `UnknownExtension`: the type read and the whole body. -/
structure UnknownExtension where
  typ : Nat
  payload : List UInt8
deriving DecidableEq, Repr

/-- `TcplsExtension`: the type read and the whole body. -/
structure TcplsExtension where
  typ : Nat
  payload : List UInt8
deriving DecidableEq, Repr

/-! ## `ClientExtension` -/

/-- `ClientExtension`. -/
inductive ClientExtension where
  | ecPointFormats (formats : List Nat)
  | namedGroups (groups : List Nat)
  | signatureAlgorithms (schemes : List Nat)
  | serverName (names : List ServerName)
  | sessionTicket (ticket : ClientSessionTicket)
  | protocols (names : List (List UInt8))
  | supportedVersions (versions : List Nat)
  | keyShare (entries : List KeyShareEntry)
  | presharedKeyModes (modes : List Nat)
  | presharedKey (offer : PresharedKeyOffer)
  | cookie (cookie : List UInt8)
  | extendedMasterSecretRequest
  | certificateStatusRequest (req : CertificateStatusRequest)
  | signedCertificateTimestampRequest
  | transportParameters (params : List UInt8)
  | transportParametersDraft (params : List UInt8)
  | earlyData
  | tcpls
  | tcplsExt (ext : TcplsExtension)
  | unknown (ext : UnknownExtension)
deriving DecidableEq, Repr

namespace ClientExtension

/-- `ClientExtension::get_type`. -/
def getType : ClientExtension → Nat
  | .ecPointFormats _ => ExtensionType.ecPointFormats
  | .namedGroups _ => ExtensionType.ellipticCurves
  | .signatureAlgorithms _ => ExtensionType.signatureAlgorithms
  | .serverName _ => ExtensionType.serverName
  | .sessionTicket _ => ExtensionType.sessionTicket
  | .protocols _ => ExtensionType.alProtocolNegotiation
  | .supportedVersions _ => ExtensionType.supportedVersions
  | .keyShare _ => ExtensionType.keyShare
  | .presharedKeyModes _ => ExtensionType.pskKeyExchangeModes
  | .presharedKey _ => ExtensionType.preSharedKey
  | .cookie _ => ExtensionType.cookie
  | .extendedMasterSecretRequest => ExtensionType.extendedMasterSecret
  | .certificateStatusRequest _ => ExtensionType.statusRequest
  | .signedCertificateTimestampRequest => ExtensionType.sct
  | .transportParameters _ => ExtensionType.transportParameters
  | .transportParametersDraft _ => ExtensionType.transportParametersDraft
  | .earlyData => ExtensionType.earlyData
  | .tcpls => ExtensionType.tcpls
  | .tcplsExt _ => ExtensionType.tcpls
  | .unknown r => r.typ

/-- The `sub` buffer of `ClientExtension::encode`. -/
def encodeBody : ClientExtension → List UInt8
  | .ecPointFormats formats => encodeVec 1 (encodeUInt 1) formats
  | .namedGroups groups => encodeVec 2 (encodeUInt 2) groups
  | .signatureAlgorithms schemes => encodeVec 2 (encodeUInt 2) schemes
  | .serverName names => encodeVec 2 ServerName.encode names
  | .sessionTicket .request => []
  | .extendedMasterSecretRequest => []
  | .signedCertificateTimestampRequest => []
  | .tcpls => []
  | .earlyData => []
  | .sessionTicket (.offer payload) => payload
  | .protocols names => encodeVec 2 (encodeBlock 1) names
  | .supportedVersions versions => encodeVec 1 (encodeUInt 2) versions
  | .keyShare entries => encodeVec 2 KeyShareEntry.encode entries
  | .presharedKeyModes modes => encodeVec 1 (encodeUInt 1) modes
  | .presharedKey offer => offer.encode
  | .cookie c => encodeBlock 2 c
  | .certificateStatusRequest req => req.encode
  | .transportParameters params => params
  | .transportParametersDraft params => params
  | .tcplsExt ext => ext.payload
  | .unknown ext => ext.payload

/-- `ClientExtension::encode`. -/
def encode (e : ClientExtension) : List UInt8 := encodeExtension e.getType e.encodeBody

/-- The `match typ` of `ClientExtension::read`, on the sub-reader `sub`. A
guarded arm whose guard fails falls through to `Unknown`. -/
def readBody (validDnsName : List UInt8 → Bool) (typ : Nat) (sub : List UInt8) :
    Option (ClientExtension × List UInt8) :=
  if typ = ExtensionType.ecPointFormats then wrap ecPointFormats (readVec 1 (readUInt 1) sub)
  else if typ = ExtensionType.ellipticCurves then wrap namedGroups (readVec 2 (readUInt 2) sub)
  else if typ = ExtensionType.signatureAlgorithms then
    wrap signatureAlgorithms (readVec 2 (readUInt 2) sub)
  else if typ = ExtensionType.serverName then
    wrap serverName (readVec 2 (ServerName.read validDnsName) sub)
  else if typ = ExtensionType.sessionTicket then
    if sub ≠ [] then some (.sessionTicket (.offer sub), []) else some (.sessionTicket .request, [])
  else if typ = ExtensionType.alProtocolNegotiation then
    wrap protocols (readVec 2 (readBlock 1) sub)
  else if typ = ExtensionType.supportedVersions then
    wrap supportedVersions (readVec 1 (readUInt 2) sub)
  else if typ = ExtensionType.keyShare then wrap keyShare (readVec 2 KeyShareEntry.read sub)
  else if typ = ExtensionType.pskKeyExchangeModes then
    wrap presharedKeyModes (readVec 1 (readUInt 1) sub)
  else if typ = ExtensionType.preSharedKey then wrap presharedKey (PresharedKeyOffer.read sub)
  else if typ = ExtensionType.cookie then wrap cookie (readBlock 2 sub)
  else if typ = ExtensionType.extendedMasterSecret ∧ sub = [] then
    some (.extendedMasterSecretRequest, [])
  else if typ = ExtensionType.statusRequest then
    wrap certificateStatusRequest (CertificateStatusRequest.read sub)
  else if typ = ExtensionType.sct ∧ sub = [] then some (.signedCertificateTimestampRequest, [])
  else if typ = ExtensionType.transportParameters then some (.transportParameters sub, [])
  else if typ = ExtensionType.transportParametersDraft then
    some (.transportParametersDraft sub, [])
  else if typ = ExtensionType.earlyData ∧ sub = [] then some (.earlyData, [])
  -- `TCPLS` does not read its body: a non-empty one is left over
  else if typ = ExtensionType.tcpls then some (.tcpls, sub)
  else if typ = ExtensionType.tcplsJoin ∨ typ = ExtensionType.tcplsToken then
    some (.tcplsExt ⟨typ, sub⟩, [])
  else some (.unknown ⟨typ, sub⟩, [])

/-- `ClientExtension::read`. -/
def read (validDnsName : List UInt8 → Bool) : Decoder ClientExtension :=
  readExtension (readBody validDnsName)

end ClientExtension

/-! ## `ServerExtension` -/

/-- `ServerExtension`. -/
inductive ServerExtension where
  | ecPointFormats (formats : List Nat)
  | serverNameAck
  | sessionTicketAck
  | renegotiationInfo (info : List UInt8)
  | protocols (names : List (List UInt8))
  | keyShare (entry : KeyShareEntry)
  | presharedKey (index : Nat)
  | extendedMasterSecretAck
  | certificateStatusAck
  | signedCertificateTimestamp (scts : List (List UInt8))
  | supportedVersions (version : Nat)
  | transportParameters (params : List UInt8)
  | transportParametersDraft (params : List UInt8)
  | earlyData
  | tcpls
  | tcplsJoin (ext : TcplsExtension)
  | tcplsToken (ext : TcplsExtension)
  | unknown (ext : UnknownExtension)
deriving DecidableEq, Repr

namespace ServerExtension

/-- `ServerExtension::get_type`. -/
def getType : ServerExtension → Nat
  | .ecPointFormats _ => ExtensionType.ecPointFormats
  | .serverNameAck => ExtensionType.serverName
  | .sessionTicketAck => ExtensionType.sessionTicket
  | .renegotiationInfo _ => ExtensionType.renegotiationInfo
  | .protocols _ => ExtensionType.alProtocolNegotiation
  | .keyShare _ => ExtensionType.keyShare
  | .presharedKey _ => ExtensionType.preSharedKey
  | .extendedMasterSecretAck => ExtensionType.extendedMasterSecret
  | .certificateStatusAck => ExtensionType.statusRequest
  | .signedCertificateTimestamp _ => ExtensionType.sct
  | .supportedVersions _ => ExtensionType.supportedVersions
  | .transportParameters _ => ExtensionType.transportParameters
  | .transportParametersDraft _ => ExtensionType.transportParametersDraft
  | .earlyData => ExtensionType.earlyData
  | .tcpls => ExtensionType.tcpls
  | .tcplsToken _ => ExtensionType.tcplsToken
  | .tcplsJoin _ => ExtensionType.tcplsJoin
  | .unknown r => r.typ

/-- The `sub` buffer of `ServerExtension::encode`. -/
def encodeBody : ServerExtension → List UInt8
  | .ecPointFormats formats => encodeVec 1 (encodeUInt 1) formats
  | .serverNameAck => []
  | .sessionTicketAck => []
  | .extendedMasterSecretAck => []
  | .certificateStatusAck => []
  | .tcpls => []
  | .earlyData => []
  | .renegotiationInfo info => encodeBlock 1 info
  | .protocols names => encodeVec 2 (encodeBlock 1) names
  | .keyShare entry => entry.encode
  | .presharedKey index => encodeUInt 2 index
  | .signedCertificateTimestamp scts => encodeVec 2 (encodeBlock 2) scts
  | .supportedVersions version => encodeUInt 2 version
  | .transportParameters params => params
  | .transportParametersDraft params => params
  | .tcplsJoin ext => ext.payload
  | .tcplsToken ext => ext.payload
  | .unknown ext => ext.payload

/-- `ServerExtension::encode`. -/
def encode (e : ServerExtension) : List UInt8 := encodeExtension e.getType e.encodeBody

/-- The `match typ` of `ServerExtension::read`. The acknowledgements read
nothing, so a non-empty body is left over. -/
def readBody (typ : Nat) (sub : List UInt8) : Option (ServerExtension × List UInt8) :=
  if typ = ExtensionType.ecPointFormats then wrap ecPointFormats (readVec 1 (readUInt 1) sub)
  else if typ = ExtensionType.serverName then some (.serverNameAck, sub)
  else if typ = ExtensionType.sessionTicket then some (.sessionTicketAck, sub)
  else if typ = ExtensionType.statusRequest then some (.certificateStatusAck, sub)
  else if typ = ExtensionType.renegotiationInfo then wrap renegotiationInfo (readBlock 1 sub)
  else if typ = ExtensionType.alProtocolNegotiation then
    wrap protocols (readVec 2 (readBlock 1) sub)
  else if typ = ExtensionType.keyShare then wrap keyShare (KeyShareEntry.read sub)
  else if typ = ExtensionType.preSharedKey then wrap presharedKey (readUInt 2 sub)
  else if typ = ExtensionType.extendedMasterSecret then some (.extendedMasterSecretAck, sub)
  else if typ = ExtensionType.sct then
    wrap signedCertificateTimestamp (readVec 2 (readBlock 2) sub)
  else if typ = ExtensionType.supportedVersions then wrap supportedVersions (readUInt 2 sub)
  else if typ = ExtensionType.transportParameters then some (.transportParameters sub, [])
  else if typ = ExtensionType.transportParametersDraft then
    some (.transportParametersDraft sub, [])
  else if typ = ExtensionType.tcpls then some (.tcpls, sub)
  else if typ = ExtensionType.tcplsJoin then some (.tcplsJoin ⟨typ, sub⟩, [])
  else if typ = ExtensionType.tcplsToken then some (.tcplsToken ⟨typ, sub⟩, [])
  else if typ = ExtensionType.earlyData then some (.earlyData, sub)
  else some (.unknown ⟨typ, sub⟩, [])

/-- `ServerExtension::read`. -/
def read : Decoder ServerExtension := readExtension readBody

end ServerExtension

/-! ## The extensions of the other handshake messages -/

/-- `HelloRetryExtension`. -/
inductive HelloRetryExtension where
  | keyShare (group : Nat)
  | cookie (cookie : List UInt8)
  | supportedVersions (version : Nat)
  | unknown (ext : UnknownExtension)
deriving DecidableEq, Repr

namespace HelloRetryExtension

def getType : HelloRetryExtension → Nat
  | .keyShare _ => ExtensionType.keyShare
  | .cookie _ => ExtensionType.cookie
  | .supportedVersions _ => ExtensionType.supportedVersions
  | .unknown r => r.typ

def encodeBody : HelloRetryExtension → List UInt8
  | .keyShare group => encodeUInt 2 group
  | .cookie c => encodeBlock 2 c
  | .supportedVersions version => encodeUInt 2 version
  | .unknown ext => ext.payload

def encode (e : HelloRetryExtension) : List UInt8 := encodeExtension e.getType e.encodeBody

def readBody (typ : Nat) (sub : List UInt8) : Option (HelloRetryExtension × List UInt8) :=
  if typ = ExtensionType.keyShare then wrap keyShare (readUInt 2 sub)
  else if typ = ExtensionType.cookie then wrap cookie (readBlock 2 sub)
  else if typ = ExtensionType.supportedVersions then wrap supportedVersions (readUInt 2 sub)
  else some (.unknown ⟨typ, sub⟩, [])

def read : Decoder HelloRetryExtension := readExtension readBody

end HelloRetryExtension

/-- `CertificateStatus`: an OCSP response. -/
structure CertificateStatus where
  ocspResponse : List UInt8
deriving DecidableEq, Repr

def CertificateStatus.encode (s : CertificateStatus) : List UInt8 :=
  encodeUInt 1 CertificateStatusType.ocsp ++ encodeBlock 3 s.ocspResponse

def CertificateStatus.read : Decoder CertificateStatus := fun b =>
  match readUInt 1 b with
  | none => none
  | some (typ, b) =>
    if typ = CertificateStatusType.ocsp then wrap CertificateStatus.mk (readBlock 3 b) else none

/-- `CertificateExtension`. -/
inductive CertificateExtension where
  | certificateStatus (status : CertificateStatus)
  | signedCertificateTimestamp (scts : List (List UInt8))
  | unknown (ext : UnknownExtension)
deriving DecidableEq, Repr

namespace CertificateExtension

def getType : CertificateExtension → Nat
  | .certificateStatus _ => ExtensionType.statusRequest
  | .signedCertificateTimestamp _ => ExtensionType.sct
  | .unknown r => r.typ

def encodeBody : CertificateExtension → List UInt8
  | .certificateStatus status => status.encode
  | .signedCertificateTimestamp scts => encodeVec 2 (encodeBlock 2) scts
  | .unknown ext => ext.payload

def encode (e : CertificateExtension) : List UInt8 := encodeExtension e.getType e.encodeBody

def readBody (typ : Nat) (sub : List UInt8) : Option (CertificateExtension × List UInt8) :=
  if typ = ExtensionType.statusRequest then wrap certificateStatus (CertificateStatus.read sub)
  else if typ = ExtensionType.sct then
    wrap signedCertificateTimestamp (readVec 2 (readBlock 2) sub)
  else some (.unknown ⟨typ, sub⟩, [])

def read : Decoder CertificateExtension := readExtension readBody

end CertificateExtension

/-- `CertReqExtension`. -/
inductive CertReqExtension where
  | signatureAlgorithms (schemes : List Nat)
  | authorityNames (names : List (List UInt8))
  | unknown (ext : UnknownExtension)
deriving DecidableEq, Repr

namespace CertReqExtension

def getType : CertReqExtension → Nat
  | .signatureAlgorithms _ => ExtensionType.signatureAlgorithms
  | .authorityNames _ => ExtensionType.certificateAuthorities
  | .unknown r => r.typ

def encodeBody : CertReqExtension → List UInt8
  | .signatureAlgorithms schemes => encodeVec 2 (encodeUInt 2) schemes
  | .authorityNames names => encodeVec 2 (encodeBlock 2) names
  | .unknown ext => ext.payload

def encode (e : CertReqExtension) : List UInt8 := encodeExtension e.getType e.encodeBody

/-- An empty list of signature schemes is refused. -/
def readBody (typ : Nat) (sub : List UInt8) : Option (CertReqExtension × List UInt8) :=
  if typ = ExtensionType.signatureAlgorithms then
    match readVec 2 (readUInt 2) sub with
    | none => none
    | some (schemes, left) => if schemes = [] then none else some (.signatureAlgorithms schemes, left)
  else if typ = ExtensionType.certificateAuthorities then
    wrap authorityNames (readVec 2 (readBlock 2) sub)
  else some (.unknown ⟨typ, sub⟩, [])

def read : Decoder CertReqExtension := readExtension readBody

end CertReqExtension

/-- `NewSessionTicketExtension`. -/
inductive NewSessionTicketExtension where
  | earlyData (maxSize : Nat)
  | unknown (ext : UnknownExtension)
deriving DecidableEq, Repr

namespace NewSessionTicketExtension

def getType : NewSessionTicketExtension → Nat
  | .earlyData _ => ExtensionType.earlyData
  | .unknown r => r.typ

def encodeBody : NewSessionTicketExtension → List UInt8
  | .earlyData maxSize => encodeUInt 4 maxSize
  | .unknown ext => ext.payload

def encode (e : NewSessionTicketExtension) : List UInt8 := encodeExtension e.getType e.encodeBody

def readBody (typ : Nat) (sub : List UInt8) : Option (NewSessionTicketExtension × List UInt8) :=
  if typ = ExtensionType.earlyData then wrap earlyData (readUInt 4 sub)
  else some (.unknown ⟨typ, sub⟩, [])

def read : Decoder NewSessionTicketExtension := readExtension readBody

end NewSessionTicketExtension

/-! ## Every item decoder takes a byte -/

/-- An extension takes at least its four-byte frame, whatever its body decoder
does: an unknown type's arm takes the rest of the body, but never more. -/
theorem progress_readExtension {α : Type} (readBody : Nat → Decoder α) : Progress (readExtension readBody) := by
  intro b x r h
  simp only [readExtension] at h
  split at h
  · cases h
  · rename_i typ b₁ htyp
    split at h
    · cases h
    · rename_i sub b₂ hblock
      split at h
      · cases h
      · split_ifs at h
        have hr : b₂ = r := (Prod.mk.inj (Option.some.inj h)).2
        have hfirst := progress_readUInt (by decide) b typ b₁ htyp
        have hsecond := (progress_readBlock (by decide)).shrinks b₁ sub b₂ hblock
        rw [← hr]
        omega

/-- A server name takes its type byte, and a host name its block too. -/
theorem ServerName.progress_read (validDnsName : List UInt8 → Bool) : Progress (ServerName.read validDnsName) := by
  intro b x r h
  simp only [ServerName.read] at h
  split at h
  · cases h
  · rename_i typ b₁ htyp
    have hfirst := progress_readUInt (by decide) b typ b₁ htyp
    split_ifs at h
    · split at h
      · cases h
      · rename_i raw b₂ hblock
        split_ifs at h
        have hr : b₂ = r := (Prod.mk.inj (Option.some.inj h)).2
        have hsecond := (progress_readBlock (by decide)).shrinks b₁ raw b₂ hblock
        rw [← hr]
        omega
    · -- any other name type takes the rest
      have hr : ([] : List UInt8) = r := (Prod.mk.inj (Option.some.inj h)).2
      rw [← hr, List.length_nil]
      omega

/-- A key share takes its group and its block. -/
theorem KeyShareEntry.progress_read : Progress KeyShareEntry.read := by
  apply Progress.of_eq (Progress.bind (progress_readUInt (n := 2) (by decide))
    fun group => (progress_readBlock (n := 2) (by decide)).shrinks.map (KeyShareEntry.mk group))
  intro b
  unfold KeyShareEntry.read
  cases readUInt 2 b with
  | none => rfl
  | some p => rfl

/-- A PSK identity takes its block and its four-byte age. -/
theorem PresharedKeyIdentity.progress_read : Progress PresharedKeyIdentity.read := by
  apply Progress.of_eq (Progress.bind (progress_readBlock (n := 2) (by decide))
    fun identity => (progress_readUInt (n := 4) (by decide)).shrinks.map (PresharedKeyIdentity.mk identity))
  intro b
  unfold PresharedKeyIdentity.read
  cases readBlock 2 b with
  | none => rfl
  | some p => rfl

end TcplsBasics.Ports.Msgs.Extensions
