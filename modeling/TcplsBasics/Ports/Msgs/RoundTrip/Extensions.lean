import TcplsBasics.Ports.Msgs.RoundTrip

/-!
# Every extension reads back (`msgs/handshake.rs`)

An extension reads back from its encoding when its arm is the one its type
selects in `read`, and that arm's body decoder reads the body back with
nothing left over.  `Wf` says, arm by arm, which values those are: lists
whose items and bytes fit their prefixes, a ticket offer that is not empty
(an empty body is read as a request), a `server_name` list in which only the
last name may be of a type other than `host_name` (such a name takes the rest
of the list), an `Unknown` extension whose type no arm claims, and never a
`TcplsExt`, which is encoded under the type `TCPLS`.

Every proof has one shape: `readExtension_of_readBody` reduces an extension
to its body, and the `readBody_encodeBody` of each kind takes each arm's body
decoder back through the round trips of `Verified.Codec`.

## Main results

* `ClientExtension.roundTrip_read`, `ServerExtension.roundTrip_read`,
  `HelloRetryExtension.roundTrip_read`, `CertificateExtension.roundTrip_read`,
  `CertReqExtension.roundTrip_read`, `NewSessionTicketExtension.roundTrip_read`:
  each kind of extension reads back from its encoding, whatever follows it.
-/

namespace TcplsBasics.Ports.Msgs.Extensions

open TcplsBasics.Verified.Bytes TcplsBasics.Verified.Codec

/-! ## The frame and the item decoders -/

/-- The type and the body of an extension fit their two-byte fields. -/
def FrameFits (typ : Nat) (body : List UInt8) : Prop := typ < 256 ^ 2 ∧ body.length < 256 ^ 2

/-- An extension whose body decoder reads its body back, with nothing left,
reads back from its frame. -/
theorem readExtension_of_readBody {α : Type} {readBody : Nat → Decoder α} {typ : Nat}
    {body : List UInt8} (hfits : FrameFits typ body) {x : α} (h : readBody typ body = some (x, []))
    (r : List UInt8) : readExtension readBody (encodeExtension typ body ++ r) = some (x, r) := by
  rw [readExtension_encodeExtension readBody hfits.1 hfits.2 r, h]
  rfl

theorem encodeExtension_ne_nil (typ : Nat) (body : List UInt8) : encodeExtension typ body ≠ [] := by
  rw [← List.length_pos_iff, encodeExtension, List.length_append, length_encodeUInt]
  omega

theorem encodeBlock_ne_nil {w : Nat} (hw : 0 < w) (p : List UInt8) : encodeBlock w p ≠ [] := by
  rw [← List.length_pos_iff, length_encodeBlock]
  omega

/-- A vector of `w`-byte integers reads back when its values and bytes fit. -/
theorem roundTrip_readUIntVec (n : Nat) {w : Nat} (hw : 0 < w) :
    RoundTrip (encodeVec n (encodeUInt w)) (readVec n (readUInt w)) (VecFits n (encodeUInt w) (· < 256 ^ w)) :=
  RoundTrip.readVec n (roundTrip_readUInt w) fun v _ => Handshake.ClientHelloPayload.encodeUInt_ne_nil hw v

/-- A vector of `w`-byte-prefixed blocks reads back when its blocks and bytes fit. -/
theorem roundTrip_readBlockVec (n : Nat) {w : Nat} (hw : 0 < w) :
    RoundTrip (encodeVec n (encodeBlock w)) (readVec n (readBlock w))
      (VecFits n (encodeBlock w) (·.length < 256 ^ w)) :=
  RoundTrip.readVec n (roundTrip_readBlock w) fun p _ => encodeBlock_ne_nil hw p

/-- The fields of a key share fit their prefixes. -/
def KeyShareEntry.Fits (k : KeyShareEntry) : Prop := k.group < 256 ^ 2 ∧ k.payload.length < 256 ^ 2

theorem KeyShareEntry.roundTrip_read : RoundTrip KeyShareEntry.encode KeyShareEntry.read KeyShareEntry.Fits := by
  rintro ⟨group, payload⟩ r ⟨hgroup, hpayload⟩
  simp [KeyShareEntry.read, KeyShareEntry.encode, List.append_assoc, readUInt_encodeUInt hgroup,
    readBlock_encodeBlock hpayload, wrap]

theorem KeyShareEntry.encode_ne_nil (k : KeyShareEntry) : k.encode ≠ [] := by
  simp [KeyShareEntry.encode, Handshake.ClientHelloPayload.encodeUInt_ne_nil (show 0 < 2 by decide)]

/-- The fields of a PSK identity fit their prefix and width. -/
def PresharedKeyIdentity.Fits (i : PresharedKeyIdentity) : Prop :=
  i.identity.length < 256 ^ 2 ∧ i.obfuscatedTicketAge < 256 ^ 4

theorem PresharedKeyIdentity.roundTrip_read :
    RoundTrip PresharedKeyIdentity.encode PresharedKeyIdentity.read PresharedKeyIdentity.Fits := by
  rintro ⟨identity, age⟩ r ⟨hidentity, hage⟩
  simp [PresharedKeyIdentity.read, PresharedKeyIdentity.encode, List.append_assoc,
    readBlock_encodeBlock hidentity, readUInt_encodeUInt hage, wrap]

theorem PresharedKeyIdentity.encode_ne_nil (i : PresharedKeyIdentity) : i.encode ≠ [] := by
  simp [PresharedKeyIdentity.encode, encodeBlock_ne_nil (show 0 < 2 by decide)]

/-- The identities and the binders of a PSK offer fit their vectors. -/
def PresharedKeyOffer.Fits (o : PresharedKeyOffer) : Prop :=
  VecFits 2 PresharedKeyIdentity.encode PresharedKeyIdentity.Fits o.identities ∧
    VecFits 2 (encodeBlock 1) (·.length < 256 ^ 1) o.binders

theorem PresharedKeyOffer.roundTrip_read :
    RoundTrip PresharedKeyOffer.encode PresharedKeyOffer.read PresharedKeyOffer.Fits := by
  rintro ⟨identities, binders⟩ r ⟨hidentities, hbinders⟩
  have hid := RoundTrip.readVec 2 PresharedKeyIdentity.roundTrip_read
    (fun i _ => i.encode_ne_nil) identities (encodeVec 2 (encodeBlock 1) binders ++ r) hidentities
  have hbind := roundTrip_readBlockVec 2 (show 0 < 1 by decide) binders r hbinders
  simp only [PresharedKeyOffer.read, PresharedKeyOffer.encode, encodeBinders, List.append_assoc,
    hid,
    hbind, wrap, Option.map_some]

/-! ## Server names -/

/-- A name `ServerName::read` reads back at the end of its input: a host
name that passes the DNS check, or a name of another type, whose payload is
then all that follows its type. -/
def ServerName.Wf (validDnsName : List UInt8 → Bool) (n : ServerName) : Prop :=
  match n.payload with
  | .hostName raw => n.typ = ServerNameType.hostName ∧ validDnsName raw = true ∧ raw.length < 256 ^ 2
  | .unknown _ => n.typ ≠ ServerNameType.hostName ∧ n.typ < 256 ^ 1

/-- A host name, which stops at the end of its block. -/
def ServerName.IsHostName (n : ServerName) : Prop := ∃ raw, n.payload = .hostName raw

/-- The names of a `server_name` extension that read back: each on its own,
the bytes within the prefix, and every name but the last a host name. -/
def ServerName.ListWf (validDnsName : List UInt8 → Bool) (names : List ServerName) : Prop :=
  VecFits 2 ServerName.encode (ServerName.Wf validDnsName) names ∧ ∀ n ∈ names.dropLast,
    n.IsHostName

theorem ServerName.roundTrip_read_hostName (validDnsName : List UInt8 → Bool) :
    RoundTrip ServerName.encode (ServerName.read validDnsName) fun n =>
      n.Wf validDnsName ∧ n.IsHostName := by
  rintro ⟨typ, payload⟩ r ⟨hwf, raw, hraw⟩
  subst hraw
  obtain ⟨rfl, hvalid, hlen⟩ := hwf
  simp [ServerName.read, ServerName.encode, List.append_assoc,
    readUInt_encodeUInt (show ServerNameType.hostName < 256 ^ 1 by decide),
      readBlock_encodeBlock hlen,
    hvalid]

/-- A name of another type takes the rest of the list: it reads back at the end. -/
theorem ServerName.read_encode (validDnsName : List UInt8 → Bool) {n : ServerName}
    (h : n.Wf validDnsName) : ServerName.read validDnsName n.encode = some (n, []) := by
  obtain ⟨typ, payload⟩ := n
  cases payload with
  | hostName raw => exact (roundTrip_read_hostName validDnsName).at_end ⟨h, raw, rfl⟩
  | unknown payload =>
    obtain ⟨hne, hlt⟩ := h
    simp [ServerName.read, ServerName.encode, readUInt_encodeUInt hlt, hne]

theorem ServerName.encode_ne_nil (n : ServerName) : n.encode ≠ [] := by
  simp [ServerName.encode, Handshake.ClientHelloPayload.encodeUInt_ne_nil (show 0 < 1 by decide)]

theorem ServerName.roundTrip_readVec (validDnsName : List UInt8 → Bool) :
    RoundTrip (encodeVec 2 ServerName.encode) (readVec 2 (ServerName.read validDnsName))
      (ServerName.ListWf validDnsName) := by
  rintro names r ⟨hfits, hhost⟩
  exact RoundTrip.readVec_dropLast 2 (roundTrip_read_hostName validDnsName)
    (fun n h => ServerName.read_encode validDnsName h) (fun n _ => n.encode_ne_nil) names r
    ⟨hfits, fun n hn => ⟨hfits.1 n (List.dropLast_subset names hn), hhost n hn⟩⟩

/-! ## Status requests -/

/-- A status request `CertificateStatusRequest::read` reads back: an OCSP
request whose fields fit, or a request of another type, which takes the rest. -/
def CertificateStatusRequest.Wf : CertificateStatusRequest → Prop
  | .ocsp req => VecFits 2 (encodeBlock 2) (·.length < 256 ^ 2) req.responderIds ∧
      req.extensions.length < 256 ^ 2
  | .unknown typ _ => typ ≠ CertificateStatusType.ocsp ∧ typ < 256 ^ 1

theorem CertificateStatusRequest.read_encode {req : CertificateStatusRequest} (h : req.Wf) :
    CertificateStatusRequest.read req.encode = some (req, []) := by
  cases req with
  | ocsp req =>
    obtain ⟨hids, hexts⟩ := h
    have hvec := roundTrip_readBlockVec 2 (show 0 < 2 by decide) req.responderIds
      (encodeBlock 2 req.extensions) hids
    simp [CertificateStatusRequest.read, CertificateStatusRequest.encode, List.append_assoc,
      readUInt_encodeUInt (show CertificateStatusType.ocsp < 256 ^ 1 by decide), hvec,
      (roundTrip_readBlock 2).at_end hexts, wrap]
  | unknown typ payload =>
    obtain ⟨hne, hlt⟩ := h
    simp [CertificateStatusRequest.read, CertificateStatusRequest.encode, readUInt_encodeUInt hlt,
      hne]

/-! ## `ClientExtension` -/

namespace ClientExtension

/-- The types `ClientExtension::read` gives an arm of their own. -/
def knownTypes : List Nat :=
  [ExtensionType.ecPointFormats, ExtensionType.ellipticCurves, ExtensionType.signatureAlgorithms,
    ExtensionType.serverName, ExtensionType.sessionTicket, ExtensionType.alProtocolNegotiation,
    ExtensionType.supportedVersions, ExtensionType.keyShare, ExtensionType.pskKeyExchangeModes,
    ExtensionType.preSharedKey, ExtensionType.cookie, ExtensionType.extendedMasterSecret,
    ExtensionType.statusRequest, ExtensionType.sct, ExtensionType.transportParameters,
    ExtensionType.transportParametersDraft, ExtensionType.earlyData, ExtensionType.tcpls,
    ExtensionType.tcplsJoin, ExtensionType.tcplsToken]

/-- The client extensions whose body `read` takes back, arm by arm. -/
def Wf (validDnsName : List UInt8 → Bool) : ClientExtension → Prop
  | .ecPointFormats formats => VecFits 1 (encodeUInt 1) (· < 256 ^ 1) formats
  | .namedGroups groups => VecFits 2 (encodeUInt 2) (· < 256 ^ 2) groups
  | .signatureAlgorithms schemes => VecFits 2 (encodeUInt 2) (· < 256 ^ 2) schemes
  | .serverName names => ServerName.ListWf validDnsName names
  | .sessionTicket .request => True
  | .sessionTicket (.offer payload) => payload ≠ []
  | .protocols names => VecFits 2 (encodeBlock 1) (·.length < 256 ^ 1) names
  | .supportedVersions versions => VecFits 1 (encodeUInt 2) (· < 256 ^ 2) versions
  | .keyShare entries => VecFits 2 KeyShareEntry.encode KeyShareEntry.Fits entries
  | .presharedKeyModes modes => VecFits 1 (encodeUInt 1) (· < 256 ^ 1) modes
  | .presharedKey offer => offer.Fits
  | .cookie c => c.length < 256 ^ 2
  | .extendedMasterSecretRequest => True
  | .certificateStatusRequest req => req.Wf
  | .signedCertificateTimestampRequest => True
  | .transportParameters _ => True
  | .transportParametersDraft _ => True
  | .earlyData => True
  | .tcpls => True
  -- encoded under `TCPLS`, read as `TCPLS` or refused
  | .tcplsExt _ => False
  | .unknown ext => ext.typ ∉ knownTypes

/-- The arm each type selects reads its body back. -/
theorem readBody_encodeBody (validDnsName : List UInt8 → Bool) :
    ∀ {e : ClientExtension}, e.Wf validDnsName →
      readBody validDnsName e.getType e.encodeBody = some (e, [])
  | .ecPointFormats formats, h => by
    simp +decide only [readBody, getType, encodeBody, reduceIte, false_and,
      (roundTrip_readUIntVec 1 (by decide)).at_end h,
      wrap, Option.map_some]
  | .namedGroups groups, h => by
    simp +decide only [readBody, getType, encodeBody, reduceIte, false_and,
      (roundTrip_readUIntVec 2 (by decide)).at_end h,
      wrap, Option.map_some]
  | .signatureAlgorithms schemes, h => by
    simp +decide only [readBody, getType, encodeBody, reduceIte, false_and,
      (roundTrip_readUIntVec 2 (by decide)).at_end h,
      wrap, Option.map_some]
  | .serverName names, h => by
    simp +decide only [readBody, getType, encodeBody, reduceIte, false_and,
      (ServerName.roundTrip_readVec validDnsName).at_end h,
      wrap, Option.map_some]
  | .sessionTicket .request, _ => by
    simp +decide only [readBody, getType, encodeBody, reduceIte]
  | .sessionTicket (.offer payload), h => by
    have hne : payload ≠ [] := h
    simp +decide only [readBody, getType, encodeBody, reduceIte, ne_eq, hne, not_false_eq_true]
  | .protocols names, h => by
    simp +decide only [readBody, getType, encodeBody, reduceIte, false_and,
      (roundTrip_readBlockVec 2 (by decide)).at_end h,
      wrap, Option.map_some]
  | .supportedVersions versions, h => by
    simp +decide only [readBody, getType, encodeBody, reduceIte, false_and,
      (roundTrip_readUIntVec 1 (by decide)).at_end h,
      wrap, Option.map_some]
  | .keyShare entries, h => by
    simp +decide only [readBody, getType, encodeBody, reduceIte, false_and,
      (RoundTrip.readVec 2 KeyShareEntry.roundTrip_read fun k _ => k.encode_ne_nil).at_end h,
      wrap, Option.map_some]
  | .presharedKeyModes modes, h => by
    simp +decide only [readBody, getType, encodeBody, reduceIte, false_and,
      (roundTrip_readUIntVec 1 (by decide)).at_end h,
      wrap, Option.map_some]
  | .presharedKey offer, h => by
    simp +decide only [readBody, getType, encodeBody, reduceIte, false_and,
      PresharedKeyOffer.roundTrip_read.at_end h,
      wrap, Option.map_some]
  | .cookie c, h => by
    simp +decide only [readBody, getType, encodeBody, reduceIte, false_and,
      (roundTrip_readBlock 2).at_end h, wrap,
      Option.map_some]
  | .extendedMasterSecretRequest, _ => by
    simp +decide only [readBody, getType, encodeBody, reduceIte]
  | .certificateStatusRequest req, h => by
    simp +decide only [readBody, getType, encodeBody, reduceIte, false_and,
      CertificateStatusRequest.read_encode h, wrap,
      Option.map_some]
  | .signedCertificateTimestampRequest, _ => by
    simp +decide only [readBody, getType, encodeBody, reduceIte]
  | .transportParameters params, _ => by
    simp +decide only [readBody, getType, encodeBody, reduceIte, false_and]
  | .transportParametersDraft params, _ => by
    simp +decide only [readBody, getType, encodeBody, reduceIte, false_and]
  | .earlyData, _ => by
    simp +decide only [readBody, getType, encodeBody, reduceIte]
  | .tcpls, _ => by
    simp +decide only [readBody, getType, encodeBody, reduceIte]
  | .tcplsExt _, h => h.elim
  | .unknown ⟨typ, payload⟩, h => by
    simp only [Wf, knownTypes, List.mem_cons, List.not_mem_nil, or_false, not_or] at h
    simp [readBody, getType, encodeBody, h]

/-- Every client extension that fits its frame and its arm reads back. -/
theorem roundTrip_read (validDnsName : List UInt8 → Bool) :
    RoundTrip ClientExtension.encode (ClientExtension.read validDnsName) fun e =>
      FrameFits e.getType e.encodeBody ∧ e.Wf validDnsName :=
  fun _ r h => readExtension_of_readBody h.1 (readBody_encodeBody validDnsName h.2) r

end ClientExtension

/-! ## `ServerExtension` -/

namespace ServerExtension

/-- The types `ServerExtension::read` gives an arm of their own. -/
def knownTypes : List Nat :=
  [ExtensionType.ecPointFormats, ExtensionType.serverName, ExtensionType.sessionTicket,
    ExtensionType.statusRequest, ExtensionType.renegotiationInfo,
      ExtensionType.alProtocolNegotiation,
    ExtensionType.keyShare, ExtensionType.preSharedKey, ExtensionType.extendedMasterSecret,
    ExtensionType.sct, ExtensionType.supportedVersions, ExtensionType.transportParameters,
    ExtensionType.transportParametersDraft, ExtensionType.tcpls, ExtensionType.tcplsJoin,
    ExtensionType.tcplsToken, ExtensionType.earlyData]

/-- The server extensions whose body `read` takes back, arm by arm. -/
def Wf : ServerExtension → Prop
  | .ecPointFormats formats => VecFits 1 (encodeUInt 1) (· < 256 ^ 1) formats
  | .serverNameAck => True
  | .sessionTicketAck => True
  | .renegotiationInfo info => info.length < 256 ^ 1
  | .protocols names => VecFits 2 (encodeBlock 1) (·.length < 256 ^ 1) names
  | .keyShare entry => entry.Fits
  | .presharedKey index => index < 256 ^ 2
  | .extendedMasterSecretAck => True
  | .certificateStatusAck => True
  | .signedCertificateTimestamp scts => VecFits 2 (encodeBlock 2) (·.length < 256 ^ 2) scts
  | .supportedVersions version => version < 256 ^ 2
  | .transportParameters _ => True
  | .transportParametersDraft _ => True
  | .earlyData => True
  | .tcpls => True
  | .tcplsJoin ext => ext.typ = ExtensionType.tcplsJoin
  | .tcplsToken ext => ext.typ = ExtensionType.tcplsToken
  | .unknown ext => ext.typ ∉ knownTypes

/-- The arm each type selects reads its body back. -/
theorem readBody_encodeBody : ∀ {e : ServerExtension},
  e.Wf → readBody e.getType e.encodeBody = some (e, [])
  | .ecPointFormats formats, h => by
    simp +decide only [readBody, getType, encodeBody, reduceIte,
      (roundTrip_readUIntVec 1 (by decide)).at_end h,
      wrap, Option.map_some]
  | .serverNameAck, _ => by
    simp +decide only []
  | .sessionTicketAck, _ => by
    simp +decide only []
  | .renegotiationInfo info, h => by
    simp +decide only [readBody, getType, encodeBody, reduceIte, (roundTrip_readBlock 1).at_end h,
      wrap,
      Option.map_some]
  | .protocols names, h => by
    simp +decide only [readBody, getType, encodeBody, reduceIte,
      (roundTrip_readBlockVec 2 (by decide)).at_end h,
      wrap, Option.map_some]
  | .keyShare entry, h => by
    simp +decide only [readBody, getType, encodeBody, reduceIte,
      KeyShareEntry.roundTrip_read.at_end h, wrap,
      Option.map_some]
  | .presharedKey index, h => by
    simp +decide only [readBody, getType, encodeBody, reduceIte, (roundTrip_readUInt 2).at_end h,
      wrap,
      Option.map_some]
  | .extendedMasterSecretAck, _ => by
    simp +decide only []
  | .certificateStatusAck, _ => by
    simp +decide only []
  | .signedCertificateTimestamp scts, h => by
    simp +decide only [readBody, getType, encodeBody, reduceIte,
      (roundTrip_readBlockVec 2 (by decide)).at_end h,
      wrap, Option.map_some]
  | .supportedVersions version, h => by
    simp +decide only [readBody, getType, encodeBody, reduceIte, (roundTrip_readUInt 2).at_end h,
      wrap,
      Option.map_some]
  | .transportParameters params, _ => by
    simp +decide only [readBody, getType, encodeBody, reduceIte]
  | .transportParametersDraft params, _ => by
    simp +decide only [readBody, getType, encodeBody, reduceIte]
  | .earlyData, _ => by
    simp +decide only []
  | .tcpls, _ => by
    simp +decide only []
  | .tcplsJoin ⟨typ, payload⟩, h => by
    cases h
    rfl
  | .tcplsToken ⟨typ, payload⟩, h => by
    cases h
    rfl
  | .unknown ⟨typ, payload⟩, h => by
    simp only [Wf, knownTypes, List.mem_cons, List.not_mem_nil, or_false, not_or] at h
    simp [readBody, getType, encodeBody, h]

/-- Every server extension that fits its frame and its arm reads back. -/
theorem roundTrip_read :
    RoundTrip ServerExtension.encode ServerExtension.read fun e => FrameFits e.getType e.encodeBody ∧ e.Wf :=
  fun _ r h => readExtension_of_readBody h.1 (readBody_encodeBody h.2) r

end ServerExtension

/-! ## The extensions of the other handshake messages -/

namespace HelloRetryExtension

/-- The retry extensions whose body `read` takes back. -/
def Wf : HelloRetryExtension → Prop
  | .keyShare group => group < 256 ^ 2
  | .cookie c => c.length < 256 ^ 2
  | .supportedVersions version => version < 256 ^ 2
  | .unknown ext =>
    ext.typ ∉ [ExtensionType.keyShare, ExtensionType.cookie, ExtensionType.supportedVersions]

theorem readBody_encodeBody : ∀ {e : HelloRetryExtension},
  e.Wf → readBody e.getType e.encodeBody = some (e, [])
  | .keyShare group, h => by
    simp +decide only [readBody, getType, encodeBody, reduceIte, (roundTrip_readUInt 2).at_end h,
      wrap,
      Option.map_some]
  | .cookie c, h => by
    simp +decide only [readBody, getType, encodeBody, reduceIte, (roundTrip_readBlock 2).at_end h,
      wrap,
      Option.map_some]
  | .supportedVersions version, h => by
    simp +decide only [readBody, getType, encodeBody, reduceIte, (roundTrip_readUInt 2).at_end h,
      wrap,
      Option.map_some]
  | .unknown ⟨typ, payload⟩, h => by
    simp only [Wf, List.mem_cons, List.not_mem_nil, or_false, not_or] at h
    simp [readBody, getType, encodeBody, h]

theorem roundTrip_read :
    RoundTrip HelloRetryExtension.encode HelloRetryExtension.read fun e =>
      FrameFits e.getType e.encodeBody ∧ e.Wf :=
  fun _ r h => readExtension_of_readBody h.1 (readBody_encodeBody h.2) r

end HelloRetryExtension

theorem CertificateStatus.roundTrip_read :
    RoundTrip CertificateStatus.encode CertificateStatus.read (·.ocspResponse.length < 256 ^ 3) := by
  rintro ⟨response⟩ r h
  simp [CertificateStatus.read, CertificateStatus.encode, List.append_assoc,
    readUInt_encodeUInt (show CertificateStatusType.ocsp < 256 ^ 1 by decide), readBlock_encodeBlock h, wrap]

namespace CertificateExtension

/-- The certificate extensions whose body `read` takes back. -/
def Wf : CertificateExtension → Prop
  | .certificateStatus status => status.ocspResponse.length < 256 ^ 3
  | .signedCertificateTimestamp scts => VecFits 2 (encodeBlock 2) (·.length < 256 ^ 2) scts
  | .unknown ext => ext.typ ∉ [ExtensionType.statusRequest, ExtensionType.sct]

theorem readBody_encodeBody : ∀ {e : CertificateExtension},
  e.Wf → readBody e.getType e.encodeBody = some (e, [])
  | .certificateStatus status, h => by
    simp +decide only [readBody, getType, encodeBody, reduceIte, CertificateStatus.roundTrip_read.at_end h,
      wrap, Option.map_some]
  | .signedCertificateTimestamp scts, h => by
    simp +decide only [readBody, getType, encodeBody, reduceIte,
      (roundTrip_readBlockVec 2 (by decide)).at_end h,
      wrap, Option.map_some]
  | .unknown ⟨typ, payload⟩, h => by
    simp only [Wf, List.mem_cons, List.not_mem_nil, or_false, not_or] at h
    simp [readBody, getType, encodeBody, h]

theorem roundTrip_read :
    RoundTrip CertificateExtension.encode CertificateExtension.read fun e =>
      FrameFits e.getType e.encodeBody ∧ e.Wf :=
  fun _ r h => readExtension_of_readBody h.1 (readBody_encodeBody h.2) r

end CertificateExtension

namespace CertReqExtension

/-- The certificate request extensions whose body `read` takes back: a list
of signature schemes must not be empty. -/
def Wf : CertReqExtension → Prop
  | .signatureAlgorithms schemes => VecFits 2 (encodeUInt 2) (· < 256 ^ 2) schemes ∧ schemes ≠ []
  | .authorityNames names => VecFits 2 (encodeBlock 2) (·.length < 256 ^ 2) names
  | .unknown ext => ext.typ ∉ [ExtensionType.signatureAlgorithms,
    ExtensionType.certificateAuthorities]

theorem readBody_encodeBody : ∀ {e : CertReqExtension},
  e.Wf → readBody e.getType e.encodeBody = some (e, [])
  | .signatureAlgorithms schemes, ⟨hfits, hne⟩ => by
    simp +decide only [readBody, getType, encodeBody, reduceIte,
      (roundTrip_readUIntVec 2 (by decide)).at_end hfits,
      hne, if_false]
  | .authorityNames names, h => by
    simp +decide only [readBody, getType, encodeBody, reduceIte,
      (roundTrip_readBlockVec 2 (by decide)).at_end h,
      wrap, Option.map_some]
  | .unknown ⟨typ, payload⟩, h => by
    simp only [Wf, List.mem_cons, List.not_mem_nil, or_false, not_or] at h
    simp [readBody, getType, encodeBody, h]

theorem roundTrip_read :
    RoundTrip CertReqExtension.encode CertReqExtension.read fun e =>
      FrameFits e.getType e.encodeBody ∧ e.Wf :=
  fun _ r h => readExtension_of_readBody h.1 (readBody_encodeBody h.2) r

end CertReqExtension

namespace NewSessionTicketExtension

/-- The ticket extensions whose body `read` takes back. -/
def Wf : NewSessionTicketExtension → Prop
  | .earlyData maxSize => maxSize < 256 ^ 4
  | .unknown ext => ext.typ ≠ ExtensionType.earlyData

theorem readBody_encodeBody :
    ∀ {e : NewSessionTicketExtension}, e.Wf → readBody e.getType e.encodeBody = some (e, [])
  | .earlyData maxSize, h => by
    simp +decide only [readBody, getType, encodeBody, reduceIte, (roundTrip_readUInt 4).at_end h,
      wrap,
      Option.map_some]
  | .unknown ⟨typ, payload⟩, h => by
    simp [readBody, getType, encodeBody, show typ ≠ ExtensionType.earlyData from h]

theorem roundTrip_read :
    RoundTrip NewSessionTicketExtension.encode NewSessionTicketExtension.read fun e =>
      FrameFits e.getType e.encodeBody ∧ e.Wf :=
  fun _ r h => readExtension_of_readBody h.1 (readBody_encodeBody h.2) r

end NewSessionTicketExtension

end TcplsBasics.Ports.Msgs.Extensions

