import TcplsBasics.Ports.Msgs.RoundTrip.Extensions
import TcplsBasics.Ports.Msgs.Persist.ServerValue

/-!
# Every handshake message reads back (`msgs/handshake.rs`)

`HandshakeMessagePayload::read_version` reads back the encoding of every
handshake message in the form its decoders produce, whatever follows the
message.  `HandshakePayload.Wf` names that form arm by arm, and each
condition is one the decoders impose:

* the message's type is the one of its payload, and the version selects
  between the TLS 1.2 and TLS 1.3 forms of `Certificate`,
  `CertificateRequest` and `NewSessionTicket`;
* a ClientHello carries at least one extension, and a ServerHello a random
  other than the HelloRetryRequest random, under which it is read as a
  HelloRetryRequest;
* a ServerKeyExchange is the `Unknown` form it is read in, a `message_hash`
  is never read, and an `Unknown` message has a type no arm claims;
* lists, blocks and integers fit their prefixes and widths, and extensions
  are those of `RoundTrip.Extensions`.

## Main results

* `HandshakePayload.readPayload_encode`: each payload's decoder takes its
  encoding back, under the type the encoding carries.
* `HandshakeMessagePayload.readVersion_encode`: every handshake message in
  that form reads back from its encoding, and the reader stops at its end
  (`roundTrip_readVersion`).
-/

namespace TcplsBasics.Ports.Msgs.Handshake

open TcplsBasics.Verified.Bytes TcplsBasics.Verified.Codec TcplsBasics.Ports.Msgs.Extensions

/-! ## Hellos -/

namespace ClientHelloPayload

/-- A ClientHello that `read` takes back: its fields fit, each extension is
one that reads back, and there is at least one extension. -/
structure Wf (validDnsName : List UInt8 → Bool) (ch : ClientHelloPayload) : Prop extends ch.Fits where
  extensions_wf : ∀ e ∈ ch.extensions, e.Wf validDnsName
  extensions_ne : ch.extensions ≠ []

theorem read_encode (validDnsName : List UInt8 → Bool) {ch : ClientHelloPayload}
    (h : ch.Wf validDnsName) : ClientHelloPayload.read validDnsName ch.encode = some ch := by
  have hsuites := RoundTrip.readVec 2 (roundTrip_readUInt 2) (fun _ _ => encodeUInt_ne_nil (by decide) _)
    ch.cipherSuites (encodeVec 1 (encodeUInt 1) ch.compressionMethods ++
      encodeVec 2 ClientExtension.encode ch.extensions) ⟨h.suites, h.suites_len⟩
  have hcomps := RoundTrip.readVec 1 (roundTrip_readUInt 1) (fun _ _ => encodeUInt_ne_nil (by decide) _)
    ch.compressionMethods (encodeVec 2 ClientExtension.encode ch.extensions)
    ⟨h.compressions, h.compressions_len⟩
  have hexts := (RoundTrip.readVec 2 (ClientExtension.roundTrip_read validDnsName)
    fun e _ => e.encode_ne_nil).at_end
      ⟨fun e he => ⟨h.extensions e he, h.extensions_wf e he⟩, h.extensions_len⟩
  have hblock : encodeVec 2 ClientExtension.encode ch.extensions ≠ [] := encodeBlock_ne_nil (by decide) _
  simp only [ClientHelloPayload.read, ClientHelloPayload.encode, List.append_assoc,
    readUInt_encodeUInt h.version, Random.read_append, SessionID.read_append, hsuites, hcomps, ne_eq,
    hblock, not_false_eq_true, if_true, hexts, not_true_eq_false, h.extensions_ne, or_self, if_false]

end ClientHelloPayload

namespace ServerHelloPayload

/-- A ServerHello that `read_version` takes back as one: its fields fit, its
random is not the HelloRetryRequest random, and its extensions read back. -/
structure Wf (sh : ServerHelloPayload) : Prop where
  version : sh.legacyVersion < 256 ^ 2
  random : sh.random ≠ helloRetryRequestRandom
  cipherSuite : sh.cipherSuite < 256 ^ 2
  compression : sh.compressionMethod < 256 ^ 1
  extensions : VecFits 2 ServerExtension.encode (fun e => FrameFits e.getType e.encodeBody ∧ e.Wf)
    sh.extensions

/-- After the random, `read` takes back every field but the version and the
random, which the caller fills in; the extension block is read when bytes
follow, so no extensions and no block read back alike. -/
theorem read_tail {sh : ServerHelloPayload} (h : sh.Wf) :
    ServerHelloPayload.read (sh.sessionId.encode ++ (encodeUInt 2 sh.cipherSuite ++
      (encodeUInt 1 sh.compressionMethod ++
        if sh.extensions = [] then [] else encodeVec 2 ServerExtension.encode sh.extensions))) =
      some { sh with legacyVersion := 0, random := zeroRandom } := by
  by_cases hnil : sh.extensions = []
  · simp [ServerHelloPayload.read, SessionID.read_append, readUInt_encodeUInt h.cipherSuite,
      (roundTrip_readUInt 1).at_end h.compression, hnil]
  · have hexts := (RoundTrip.readVec 2 ServerExtension.roundTrip_read
      fun e _ => encodeExtension_ne_nil e.getType e.encodeBody).at_end h.extensions
    have hblock : encodeVec 2 ServerExtension.encode sh.extensions ≠ [] := encodeBlock_ne_nil (by decide) _
    simp [ServerHelloPayload.read, SessionID.read_append, readUInt_encodeUInt h.cipherSuite,
      readUInt_encodeUInt h.compression, hnil, hblock, hexts]

end ServerHelloPayload

namespace HelloRetryRequest

/-- A HelloRetryRequest whose fields and extensions read back. -/
structure Wf (hrr : HelloRetryRequest) : Prop where
  version : hrr.legacyVersion < 256 ^ 2
  cipherSuite : hrr.cipherSuite < 256 ^ 2
  extensions : VecFits 2 HelloRetryExtension.encode (fun e => FrameFits e.getType e.encodeBody ∧ e.Wf)
    hrr.extensions

/-- After the random, `read` takes back every field but the version, which
the caller fills in; the compression written is `Null`, the one accepted. -/
theorem read_tail {hrr : HelloRetryRequest} (h : hrr.Wf) (r : List UInt8) :
    HelloRetryRequest.read (hrr.sessionId.encode ++ (encodeUInt 2 hrr.cipherSuite ++
      (encodeUInt 1 Compression.null ++ (encodeVec 2 HelloRetryExtension.encode hrr.extensions ++ r)))) =
      some ({ hrr with legacyVersion := 0 }, r) := by
  have hexts := RoundTrip.readVec 2 HelloRetryExtension.roundTrip_read
    (fun e _ => encodeExtension_ne_nil e.getType e.encodeBody) hrr.extensions r h.extensions
  simp [HelloRetryRequest.read, SessionID.read_append, readUInt_encodeUInt h.cipherSuite,
    readUInt_encodeUInt (show Compression.null < 256 ^ 1 by decide), hexts, wrap]

end HelloRetryRequest

/-! ## Certificates, key exchange and tickets -/

/-- A TLS 1.3 certificate entry whose certificate and extensions read back. -/
def CertificateEntry.Wf (e : CertificateEntry) : Prop :=
  e.cert.length < 256 ^ 3 ∧
    VecFits 2 CertificateExtension.encode (fun x => FrameFits x.getType x.encodeBody ∧ x.Wf) e.exts

theorem CertificateEntry.roundTrip_read : RoundTrip CertificateEntry.encode CertificateEntry.read CertificateEntry.Wf := by
  rintro ⟨cert, exts⟩ r ⟨hcert, hexts⟩
  have hvec := RoundTrip.readVec 2 CertificateExtension.roundTrip_read
    (fun x _ => encodeExtension_ne_nil x.getType x.encodeBody) exts r hexts
  simp [CertificateEntry.read, CertificateEntry.encode, encodeCertificate, List.append_assoc,
    readBlock_encodeBlock hcert, hvec, wrap]

theorem CertificateEntry.encode_ne_nil (e : CertificateEntry) : e.encode ≠ [] := by
  simp [CertificateEntry.encode, encodeCertificate, encodeBlock_ne_nil (show 0 < 3 by decide)]

/-- A TLS 1.3 Certificate whose context and entries read back, the entries
within the `0x10000` bytes `read` allows. -/
def CertificatePayloadTLS13.Wf (p : CertificatePayloadTLS13) : Prop :=
  p.context.length < 256 ^ 1 ∧ (∀ e ∈ p.entries, e.Wf) ∧
    (p.entries.flatMap CertificateEntry.encode).length ≤ 0x10000

theorem CertificatePayloadTLS13.roundTrip_read :
    RoundTrip CertificatePayloadTLS13.encode CertificatePayloadTLS13.read CertificatePayloadTLS13.Wf := by
  rintro ⟨context, entries⟩ r ⟨hcontext, hentries, hmax⟩
  dsimp only at hcontext hentries hmax
  have hvec := RoundTrip.readVecLimited 3 0x10000 CertificateEntry.roundTrip_read
    (fun e _ => e.encode_ne_nil) entries r ⟨hentries, hmax, by omega⟩
  simp [CertificatePayloadTLS13.read, CertificatePayloadTLS13.encode, List.append_assoc,
    readBlock_encodeBlock hcontext, hvec, wrap]

/-- A signature whose scheme and bytes fit their fields. -/
def DigitallySignedStruct.Fits (d : DigitallySignedStruct) : Prop :=
  d.scheme < 256 ^ 2 ∧ d.sig.length < 256 ^ 2

theorem DigitallySignedStruct.roundTrip_read :
    RoundTrip DigitallySignedStruct.encode DigitallySignedStruct.read DigitallySignedStruct.Fits := by
  rintro ⟨scheme, sig⟩ r ⟨hscheme, hsig⟩
  simp [DigitallySignedStruct.read, DigitallySignedStruct.encode, List.append_assoc,
    readUInt_encodeUInt hscheme, readBlock_encodeBlock hsig, wrap]

/-- A TLS 1.2 CertificateRequest that `read` takes back: its lists fit, and
the list of signature schemes is not empty. -/
def CertificateRequestPayload.Wf (p : CertificateRequestPayload) : Prop :=
  VecFits 1 (encodeUInt 1) (· < 256 ^ 1) p.certtypes ∧ VecFits 2 (encodeUInt 2) (· < 256 ^ 2) p.sigschemes ∧
    p.sigschemes ≠ [] ∧ VecFits 2 (encodeBlock 2) (·.length < 256 ^ 2) p.canames

theorem CertificateRequestPayload.roundTrip_read :
    RoundTrip CertificateRequestPayload.encode CertificateRequestPayload.read CertificateRequestPayload.Wf := by
  rintro ⟨certtypes, sigschemes, canames⟩ r ⟨htypes, hschemes, hne, hnames⟩
  have h₁ := roundTrip_readUIntVec 1 (show 0 < 1 by decide) certtypes
    (encodeVec 2 (encodeUInt 2) sigschemes ++ (encodeVec 2 (encodeBlock 2) canames ++ r)) htypes
  have h₂ := roundTrip_readUIntVec 2 (show 0 < 2 by decide) sigschemes
    (encodeVec 2 (encodeBlock 2) canames ++ r) hschemes
  have h₃ := roundTrip_readBlockVec 2 (show 0 < 2 by decide) canames r hnames
  simp only [CertificateRequestPayload.read, CertificateRequestPayload.encode, List.append_assoc, h₁, h₂,
    h₃, hne, if_false]

/-- A TLS 1.3 CertificateRequest whose context and extensions read back. -/
def CertificateRequestPayloadTLS13.Wf (p : CertificateRequestPayloadTLS13) : Prop :=
  p.context.length < 256 ^ 1 ∧
    VecFits 2 CertReqExtension.encode (fun e => FrameFits e.getType e.encodeBody ∧ e.Wf) p.extensions

theorem CertificateRequestPayloadTLS13.roundTrip_read :
    RoundTrip CertificateRequestPayloadTLS13.encode CertificateRequestPayloadTLS13.read
      CertificateRequestPayloadTLS13.Wf := by
  rintro ⟨context, extensions⟩ r ⟨hcontext, hexts⟩
  have hvec := RoundTrip.readVec 2 CertReqExtension.roundTrip_read
    (fun e _ => encodeExtension_ne_nil e.getType e.encodeBody) extensions r hexts
  simp [CertificateRequestPayloadTLS13.read, CertificateRequestPayloadTLS13.encode, List.append_assoc,
    readBlock_encodeBlock hcontext, hvec, wrap]

/-- A TLS 1.2 ticket whose lifetime hint and ticket fit their fields. -/
def NewSessionTicketPayload.Fits (p : NewSessionTicketPayload) : Prop :=
  p.lifetimeHint < 256 ^ 4 ∧ p.ticket.length < 256 ^ 2

theorem NewSessionTicketPayload.roundTrip_read :
    RoundTrip NewSessionTicketPayload.encode NewSessionTicketPayload.read NewSessionTicketPayload.Fits := by
  rintro ⟨hint, ticket⟩ r ⟨hhint, hticket⟩
  simp [NewSessionTicketPayload.read, NewSessionTicketPayload.encode, List.append_assoc,
    readUInt_encodeUInt hhint, readBlock_encodeBlock hticket, wrap]

/-- A TLS 1.3 ticket whose fields and extensions read back. -/
def NewSessionTicketPayloadTLS13.Wf (p : NewSessionTicketPayloadTLS13) : Prop :=
  p.lifetime < 256 ^ 4 ∧ p.ageAdd < 256 ^ 4 ∧ p.nonce.length < 256 ^ 1 ∧ p.ticket.length < 256 ^ 2 ∧
    VecFits 2 NewSessionTicketExtension.encode (fun e => FrameFits e.getType e.encodeBody ∧ e.Wf) p.exts

theorem NewSessionTicketPayloadTLS13.roundTrip_read :
    RoundTrip NewSessionTicketPayloadTLS13.encode NewSessionTicketPayloadTLS13.read
      NewSessionTicketPayloadTLS13.Wf := by
  rintro ⟨lifetime, ageAdd, nonce, ticket, exts⟩ r ⟨hlifetime, hage, hnonce, hticket, hexts⟩
  have hvec := RoundTrip.readVec 2 NewSessionTicketExtension.roundTrip_read
    (fun e _ => encodeExtension_ne_nil e.getType e.encodeBody) exts r hexts
  simp [NewSessionTicketPayloadTLS13.read, NewSessionTicketPayloadTLS13.encode, List.append_assoc,
    readUInt_encodeUInt hlifetime, readUInt_encodeUInt hage, readBlock_encodeBlock hnonce,
    readBlock_encodeBlock hticket, hvec, wrap]

/-! ## Handshake messages -/

namespace HandshakePayload

/-- The handshake types `read_version` gives an arm of their own. -/
def knownTypes : List Nat :=
  [HandshakeType.helloRequest, HandshakeType.clientHello, HandshakeType.serverHello,
    HandshakeType.certificate, HandshakeType.serverKeyExchange, HandshakeType.serverHelloDone,
    HandshakeType.clientKeyExchange, HandshakeType.certificateRequest, HandshakeType.certificateVerify,
    HandshakeType.newSessionTicket, HandshakeType.encryptedExtensions, HandshakeType.keyUpdate,
    HandshakeType.endOfEarlyData, HandshakeType.finished, HandshakeType.certificateStatus,
    HandshakeType.messageHash, HandshakeType.helloRetryRequest]

/-- The payloads `read_version` at the version `vers` takes back under the
handshake type `typ`, arm by arm. -/
def Wf (validDnsName : List UInt8 → Bool) (vers typ : Nat) : HandshakePayload → Prop
  | .helloRequest => typ = HandshakeType.helloRequest
  | .clientHello ch => typ = HandshakeType.clientHello ∧ ch.Wf validDnsName
  | .serverHello sh => typ = HandshakeType.serverHello ∧ sh.Wf
  | .helloRetryRequest hrr => typ = HandshakeType.helloRetryRequest ∧ hrr.Wf
  | .certificate certs => typ = HandshakeType.certificate ∧ vers ≠ ProtocolVersion.tlsv1_3 ∧
      (certs.flatMap encodeCertificate).length ≤ 0x10000
  | .certificateTls13 p => typ = HandshakeType.certificate ∧ vers = ProtocolVersion.tlsv1_3 ∧ p.Wf
  | .serverKeyExchange (.unknown _) => typ = HandshakeType.serverKeyExchange
  -- read as `Unknown`, and decoded once the key exchange algorithm is known
  | .serverKeyExchange (.ecdhe _) => False
  | .certificateRequest p => typ = HandshakeType.certificateRequest ∧ vers ≠ ProtocolVersion.tlsv1_3 ∧ p.Wf
  | .certificateRequestTls13 p =>
      typ = HandshakeType.certificateRequest ∧ vers = ProtocolVersion.tlsv1_3 ∧ p.Wf
  | .certificateVerify d => typ = HandshakeType.certificateVerify ∧ d.Fits
  | .serverHelloDone => typ = HandshakeType.serverHelloDone
  | .endOfEarlyData => typ = HandshakeType.endOfEarlyData
  | .clientKeyExchange _ => typ = HandshakeType.clientKeyExchange
  | .newSessionTicket p => typ = HandshakeType.newSessionTicket ∧ vers ≠ ProtocolVersion.tlsv1_3 ∧ p.Fits
  | .newSessionTicketTls13 p =>
      typ = HandshakeType.newSessionTicket ∧ vers = ProtocolVersion.tlsv1_3 ∧ p.Wf
  | .encryptedExtensions exts => typ = HandshakeType.encryptedExtensions ∧
      VecFits 2 ServerExtension.encode (fun e => FrameFits e.getType e.encodeBody ∧ e.Wf) exts
  | .keyUpdate request => typ = HandshakeType.keyUpdate ∧ request < 256 ^ 1
  | .finished _ => typ = HandshakeType.finished
  | .certificateStatus status => typ = HandshakeType.certificateStatus ∧
      status.ocspResponse.length < 256 ^ 3
  -- only ever built for the transcript, never read off the wire
  | .messageHash _ => False
  | .unknown _ => typ ∉ knownTypes ∧ typ < 256 ^ 1

/-- The type a message goes out under: a HelloRetryRequest is sent as a ServerHello. -/
def wireTyp (typ : Nat) : Nat :=
  if typ = HandshakeType.helloRetryRequest then HandshakeType.serverHello else typ

/-- Every type a payload is read under fits the type byte. -/
theorem Wf.typ_lt {validDnsName : List UInt8 → Bool} {vers typ : Nat} {p : HandshakePayload}
    (h : p.Wf validDnsName vers typ) : typ < 256 ^ 1 := by
  cases p with
  | unknown => exact h.2
  | messageHash => exact h.elim
  | serverKeyExchange x =>
    cases x with
    | ecdhe => exact h.elim
    | unknown =>
      obtain rfl : typ = _ := h
      decide
  | helloRequest | serverHelloDone | endOfEarlyData | clientKeyExchange | finished =>
    obtain rfl : typ = _ := h
    decide
  | _ =>
    obtain ⟨rfl, -⟩ := h
    decide

theorem Wf.wireTyp_lt {validDnsName : List UInt8 → Bool} {vers typ : Nat} {p : HandshakePayload}
    (h : p.Wf validDnsName vers typ) : wireTyp typ < 256 ^ 1 := by
  unfold wireTyp
  split
  · decide
  · exact h.typ_lt

/-- **Each payload reads back**, under the type its encoding carries. -/
theorem readPayload_encode (validDnsName : List UInt8 → Bool) (vers : Nat) :
    ∀ {typ : Nat} {p : HandshakePayload}, p.Wf validDnsName vers typ →
      HandshakeMessagePayload.readPayload validDnsName vers (wireTyp typ) p.encode = some (typ, p, [])
  | _, .helloRequest, rfl => rfl
  | _, .clientHello ch, ⟨rfl, h⟩ => by
    simp +decide only [HandshakeMessagePayload.readPayload, wireTyp, reduceIte, false_and, encode,
      ClientHelloPayload.read_encode validDnsName h, Option.map_some]
  | _, .serverHello sh, ⟨rfl, h⟩ => by
    simp +decide only [HandshakeMessagePayload.readPayload, wireTyp, reduceIte, false_and, encode,
      ServerHelloPayload.encode, List.append_assoc, readUInt_encodeUInt h.version, Random.read_append,
      if_neg h.random, ServerHelloPayload.read_tail h, Option.map_some]
  | _, .helloRetryRequest hrr, ⟨rfl, h⟩ => by
    have htail := HelloRetryRequest.read_tail h []
    rw [List.append_nil] at htail
    simp +decide only [HandshakeMessagePayload.readPayload, wireTyp, reduceIte, false_and, encode,
      HelloRetryRequest.encode, List.append_assoc, readUInt_encodeUInt h.version, Random.read_append,
      htail, HandshakeMessagePayload.wrapTyp, Option.map_some]
  | _, .certificate certs, ⟨rfl, hvers, h⟩ => by
    simp +decide only [HandshakeMessagePayload.readPayload, wireTyp, reduceIte, false_and, encode, hvers,
      and_false, Persist.roundTrip_readCertificatePayload.at_end h, HandshakeMessagePayload.wrapTyp,
      Option.map_some]
  | _, .certificateTls13 p, ⟨rfl, hvers, h⟩ => by
    simp +decide only [HandshakeMessagePayload.readPayload, wireTyp, reduceIte, false_and, encode, hvers,
      and_self, CertificatePayloadTLS13.roundTrip_read.at_end h, HandshakeMessagePayload.wrapTyp,
      Option.map_some]
  | _, .serverKeyExchange (.unknown payload), rfl => by
    simp +decide only [HandshakeMessagePayload.readPayload, wireTyp, reduceIte, false_and, encode,
      ServerKeyExchangePayload.encode]
  | _, .serverKeyExchange (.ecdhe _), h => h.elim
  | _, .certificateRequest p, ⟨rfl, hvers, h⟩ => by
    simp +decide only [HandshakeMessagePayload.readPayload, wireTyp, reduceIte, false_and, encode, hvers,
      and_false, CertificateRequestPayload.roundTrip_read.at_end h, HandshakeMessagePayload.wrapTyp,
      Option.map_some]
  | _, .certificateRequestTls13 p, ⟨rfl, hvers, h⟩ => by
    simp +decide only [HandshakeMessagePayload.readPayload, wireTyp, reduceIte, false_and, encode, hvers,
      and_self, CertificateRequestPayloadTLS13.roundTrip_read.at_end h, HandshakeMessagePayload.wrapTyp,
      Option.map_some]
  | _, .certificateVerify d, ⟨rfl, h⟩ => by
    simp +decide only [HandshakeMessagePayload.readPayload, wireTyp, reduceIte, false_and, encode,
      DigitallySignedStruct.roundTrip_read.at_end h, HandshakeMessagePayload.wrapTyp, Option.map_some]
  | _, .serverHelloDone, rfl => rfl
  | _, .endOfEarlyData, rfl => rfl
  | _, .clientKeyExchange payload, rfl => by
    simp +decide only [HandshakeMessagePayload.readPayload, wireTyp, reduceIte, false_and, encode]
  | _, .newSessionTicket p, ⟨rfl, hvers, h⟩ => by
    simp +decide only [HandshakeMessagePayload.readPayload, wireTyp, reduceIte, false_and, encode, hvers,
      and_false, NewSessionTicketPayload.roundTrip_read.at_end h, HandshakeMessagePayload.wrapTyp,
      Option.map_some]
  | _, .newSessionTicketTls13 p, ⟨rfl, hvers, h⟩ => by
    simp +decide only [HandshakeMessagePayload.readPayload, wireTyp, reduceIte, false_and, encode, hvers,
      and_self, NewSessionTicketPayloadTLS13.roundTrip_read.at_end h, HandshakeMessagePayload.wrapTyp,
      Option.map_some]
  | _, .encryptedExtensions exts, ⟨rfl, h⟩ => by
    simp +decide only [HandshakeMessagePayload.readPayload, wireTyp, reduceIte, false_and, encode,
      (RoundTrip.readVec 2 ServerExtension.roundTrip_read
        fun e _ => encodeExtension_ne_nil e.getType e.encodeBody).at_end h,
      HandshakeMessagePayload.wrapTyp, Option.map_some]
  | _, .keyUpdate request, ⟨rfl, h⟩ => by
    simp +decide only [HandshakeMessagePayload.readPayload, wireTyp, reduceIte, false_and, encode,
      (roundTrip_readUInt 1).at_end h, HandshakeMessagePayload.wrapTyp, Option.map_some]
  | _, .finished payload, rfl => by
    simp +decide only [HandshakeMessagePayload.readPayload, wireTyp, reduceIte, false_and, encode]
  | _, .certificateStatus status, ⟨rfl, h⟩ => by
    simp +decide only [HandshakeMessagePayload.readPayload, wireTyp, reduceIte, false_and, encode,
      CertificateStatus.roundTrip_read.at_end h, HandshakeMessagePayload.wrapTyp, Option.map_some]
  | _, .messageHash _, h => h.elim
  | typ, .unknown payload, ⟨hknown, _⟩ => by
    simp only [knownTypes, List.mem_cons, List.not_mem_nil, or_false, not_or] at hknown
    simp [HandshakeMessagePayload.readPayload, wireTyp, encode, hknown]

end HandshakePayload

namespace HandshakeMessagePayload

/-- A handshake message `read_version` at `vers` takes back: its payload in
the form of its type, within the `u24` length. -/
def Wf (validDnsName : List UInt8 → Bool) (vers : Nat) (m : HandshakeMessagePayload) : Prop :=
  m.payload.Wf validDnsName vers m.typ ∧ m.payload.encode.length < 256 ^ 3

/-- `read_version` at `vers` reads back the messages in the form its decoders produce. -/
theorem roundTrip_readVersion (validDnsName : List UInt8 → Bool) (vers : Nat) :
    RoundTrip encode (readVersion validDnsName vers) (Wf validDnsName vers) := by
  rintro ⟨typ, payload⟩ r ⟨hwf, hlen⟩
  have hpayload := HandshakePayload.readPayload_encode validDnsName vers hwf
  have htyp := hwf.wireTyp_lt
  simp only [HandshakePayload.wireTyp] at hpayload htyp
  simp only [readVersion, encode, List.append_assoc, readUInt_encodeUInt htyp, readBlock_encodeBlock hlen,
    hpayload, if_true]

/-- **Every handshake message reads back.**  At any version, `read_version`
takes a message in the form its decoders produce back from its encoding,
whatever follows, and stops where the message ends. -/
theorem readVersion_encode (validDnsName : List UInt8 → Bool) (vers : Nat) {m : HandshakeMessagePayload}
    (h : m.Wf validDnsName vers) (r : List UInt8) :
    readVersion validDnsName vers (m.encode ++ r) = some (m, r) :=
  roundTrip_readVersion validDnsName vers m r h

/-- A TLS 1.3 Finished message, followed by the next message's first byte,
reads back. -/
theorem readVersion_encode_finished :
    (⟨HandshakeType.finished, .finished [1, 2, 3]⟩ : HandshakeMessagePayload).Wf (fun _ => true)
        ProtocolVersion.tlsv1_3 ∧
      readVersion (fun _ => true) ProtocolVersion.tlsv1_3
          ((⟨HandshakeType.finished, .finished [1, 2, 3]⟩ : HandshakeMessagePayload).encode ++ [0x14]) =
        some (⟨HandshakeType.finished, .finished [1, 2, 3]⟩, [0x14]) := by
  have h : (⟨HandshakeType.finished, .finished [1, 2, 3]⟩ : HandshakeMessagePayload).Wf (fun _ => true)
      ProtocolVersion.tlsv1_3 := ⟨rfl, by decide⟩
  exact ⟨h, readVersion_encode _ _ h _⟩

end HandshakeMessagePayload

end TcplsBasics.Ports.Msgs.Handshake
