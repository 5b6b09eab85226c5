import TcplsBasics.Ports.Msgs.Handshake

/-!
# The ClientHello (`client/hs.rs`, `client/tls13.rs`)

`emit_client_hello_for_retry` builds the ClientHello's extension list in
order: the fixed extensions, the optional SNI, SCT request, key share,
cookie, PSK modes and ALPN, then `extra_exts`.  A TLS 1.3 ticket resumption
goes through `prepare_resumption`, which appends `EarlyData` and a
`PreSharedKey` offer with a zero binder, "this must go last"; otherwise a
TLS 1.2 ticket or a ticket request is appended.  Last of all, a TCPLS
client appends the `TCPLS` extension, after the PSK offer.

`fill_in_psk_binder` then computes the binder over
`get_encoding_for_binder_signing` and hands it to `set_psk_binder`, which
writes it only into a PSK offer in last position.  The binder's key
schedule and hash, outside this model, are a function `binderOf` of the
resumed session and the bytes hashed.

The state `prepare_resumption` sets on the connection (the resumption
suite, early data) is left out: nothing here reads it.

## Main results

* `clientHelloExtensions_of_resume`: on a TLS 1.3 resumption, the extension
  list ends with the zero-binder PSK offer, followed by `TCPLS` on a TCPLS
  client.
* `emitClientHello_tcpls_resume`: a TCPLS client's resumption ClientHello
  keeps its PSK offer before `TCPLS`, so the offer is not last and its binder
  stays zero.
* `emitClientHello_resume`: without TCPLS the offer is last, carries the
  binder computed over the encoding minus the binders, and that encoding is
  a prefix of the ClientHello sent.
* `emitClientHello_pskOffer`: the two together, for every configuration.
-/

namespace TcplsBasics.Ports.Client.Hello

open TcplsBasics.Verified.Codec TcplsBasics.Verified.Rust
open TcplsBasics.Ports.Msgs.Extensions TcplsBasics.Ports.Msgs.Handshake

/-! ## Configuration and sessions -/

/-- `Tls13CipherSuite`: its code, its hash algorithm, and the hash's output length. -/
structure Tls13CipherSuite where
  suite : Nat
  hashAlgorithm : Nat
  hashLen : Nat
deriving DecidableEq

/-- `Tls13CipherSuite::can_resume_from`: a session resumes into a suite with the same hash. -/
def Tls13CipherSuite.canResumeFrom (s prev : Tls13CipherSuite) : Option Tls13CipherSuite :=
  if prev.hashAlgorithm = s.hashAlgorithm then some prev else none

/-- `SupportedCipherSuite`. -/
inductive SupportedCipherSuite where
  | tls12 (suite : Nat)
  | tls13 (suite : Tls13CipherSuite)
deriving DecidableEq

/-- `SupportedCipherSuite::tls13`. -/
def SupportedCipherSuite.tls13? : SupportedCipherSuite → Option Tls13CipherSuite
  | .tls13 s => some s
  | .tls12 _ => none

/-- A retrieved `Tls13ClientSessionValue`: the ticket, the suite,
`max_early_data_size`, and `obfuscated_ticket_age()` at the time of retrieval. -/
structure Tls13ClientSessionValue where
  ticket : List UInt8
  suite : Tls13CipherSuite
  maxEarlyDataSize : Nat
  obfuscatedTicketAge : Nat
deriving DecidableEq

/-- A retrieved `ClientSessionValue`. -/
inductive ClientSessionValue where
  | tls13 (value : Tls13ClientSessionValue)
  | tls12 (ticket : List UInt8)
deriving DecidableEq

/-- `Retrieved::tls13`. -/
def ClientSessionValue.tls13? : ClientSessionValue → Option Tls13ClientSessionValue
  | .tls13 v => some v
  | .tls12 _ => none

/-- The fields of `ClientConfig` the ClientHello reads. -/
structure ClientConfig where
  supportsTls12 : Bool
  supportsTls13 : Bool
  kxGroups : List Nat
  verifySchemes : List Nat
  enableSni : Bool
  enableTickets : Bool
  enableEarlyData : Bool
  alpnProtocols : List (List UInt8)
  cipherSuites : List Nat
  tcplsEnabled : Bool
deriving DecidableEq

/-- The arguments of `emit_client_hello_for_retry` the extensions depend on;
`serverName` is `server_name.for_sni()`. -/
structure HelloInput where
  resumingSession : Option ClientSessionValue
  retryreq : Option HelloRetryRequest
  serverName : Option (List UInt8)
  keyShare : Option KeyShareEntry
  extraExts : List ClientExtension
  maySendSctList : Bool
  suite : Option SupportedCipherSuite
  isQuic : Bool

/-- `ECPointFormat::Uncompressed`. -/
def ECPointFormat.uncompressed : Nat := 0x00

/-- `PSKKeyExchangeMode::PSK_DHE_KE`. -/
def PSKKeyExchangeMode.pskDheKe : Nat := 0x01

/-- `trim_hostname_trailing_dot_for_sni`. -/
def trimHostnameTrailingDotForSni (name : List UInt8) : List UInt8 :=
  if name.getLast? = some 0x2e then name.dropLast else name

/-- `ClientExtension::make_sni`. -/
def makeSni (name : List UInt8) : ClientExtension :=
  .serverName [⟨ServerNameType.hostName, .hostName (trimHostnameTrailingDotForSni name)⟩]

/-- `CertificateStatusRequest::build_ocsp`. -/
def buildOcsp : CertificateStatusRequest := .ocsp ⟨[], []⟩

/-! ## The extension list -/

/-- The extensions pushed before the resumption decision, `extra_exts` last. -/
def baseExtensions (config : ClientConfig) (input : HelloInput) (supportedVersions : List Nat)
    (supportTls13 : Bool) : List ClientExtension :=
  [.supportedVersions supportedVersions, .ecPointFormats [ECPointFormat.uncompressed],
      .namedGroups config.kxGroups, .signatureAlgorithms config.verifySchemes,
      .extendedMasterSecretRequest, .certificateStatusRequest buildOcsp] ++
    (match input.serverName, config.enableSni with
      | some name, true => [makeSni name]
      | _, _ => []) ++
    (if input.maySendSctList then [.signedCertificateTimestampRequest] else []) ++
    (match input.keyShare with
      | some entry => [.keyShare [entry]]
      | none => []) ++
    (match input.retryreq.bind HelloRetryRequest.getCookie with
      | some cookie => [.cookie cookie]
      | none => []) ++
    (if supportTls13 && config.enableTickets then [.presharedKeyModes [PSKKeyExchangeMode.pskDheKe]]
      else []) ++
    (if config.alpnProtocols ≠ [] then [.protocols config.alpnProtocols] else []) ++
    input.extraExts

/-- `tls13::prepare_resumption`: `EarlyData` if it may be used, then the PSK
offer with a zero binder of the suite's hash length. -/
def prepareResumption (config : ClientConfig) (ticket : List UInt8)
    (resuming : Tls13ClientSessionValue) (exts : List ClientExtension) (doingRetry : Bool) :
    List ClientExtension :=
  let exts :=
    if config.enableEarlyData && decide (0 < resuming.maxEarlyDataSize) && !doingRetry then
      exts ++ [.earlyData]
    else exts
  exts ++ [.presharedKey ⟨[⟨ticket, resuming.obfuscatedTicketAge⟩],
    [List.replicate resuming.suite.hashLen 0]⟩]

/-- The session `fill_in_binder` resumes, when the suite of a retry allows it. -/
def resumable (input : HelloInput) : Option Tls13ClientSessionValue :=
  input.resumingSession.bind fun resuming =>
    match input.suite, resuming.tls13? with
    | some suite, some resuming =>
      (suite.tls13?.bind fun s => s.canResumeFrom resuming.suite).map fun _ => resuming
    | none, some resuming => some resuming
    | _, _ => none

/-- `(ticket, resume_version)`: the cached ticket and the version it is for. -/
def ticketAndVersion : Option ClientSessionValue → List UInt8 × Nat
  | some (.tls13 v) => (v.ticket, ProtocolVersion.tlsv1_3)
  | some (.tls12 t) => (t, ProtocolVersion.tlsv1_2)
  | none => ([], 0)

/-- `supported_versions`: TLS 1.3, then TLS 1.2 unless over QUIC. -/
def supportedVersions (config : ClientConfig) (input : HelloInput) : List Nat :=
  (if config.supportsTls13 then [ProtocolVersion.tlsv1_3] else []) ++
    (if config.supportsTls12 && !input.isQuic then [ProtocolVersion.tlsv1_2] else [])

/-- `fill_in_binder` and what it appends: a TLS 1.3 ticket resumption goes
through `prepare_resumption`, else a ticket or a ticket request is offered
when tickets are enabled. -/
def resumeExtensions (config : ClientConfig) (input : HelloInput) (exts : List ClientExtension) :
    List ClientExtension × Option Tls13ClientSessionValue :=
  let (ticket, resumeVersion) := ticketAndVersion input.resumingSession
  if config.supportsTls13 && config.enableTickets &&
      decide (resumeVersion = ProtocolVersion.tlsv1_3) && !ticket.isEmpty then
    match resumable input with
    | some resuming =>
      (prepareResumption config ticket resuming exts input.retryreq.isSome, some resuming)
    | none => (exts, none)
  else if config.enableTickets then
    (exts ++ [.sessionTicket (if ticket.isEmpty then .request else .offer ticket)], none)
  else (exts, none)

/-- The extension list of `emit_client_hello_for_retry`, and the session
whose binder is to be filled in. -/
def clientHelloExtensions (config : ClientConfig) (input : HelloInput) :
    Except Panic (List ClientExtension × Option Tls13ClientSessionValue) := do
  if supportedVersions config input = [] then
    throw ⟨"assertion failed: !supported_versions.is_empty()"⟩
  if input.keyShare.isSome && !config.supportsTls13 then
    throw ⟨"assertion failed: support_tls13"⟩
  let (exts, fillInBinder) := resumeExtensions config input
    (baseExtensions config input (supportedVersions config input) config.supportsTls13)
  -- the TCPLS extension is pushed after the PSK offer
  let exts := if config.tcplsEnabled then exts ++ [.tcpls] else exts
  pure (exts, fillInBinder)

/-- What `clientHelloExtensions` returns when it does not panic. -/
theorem clientHelloExtensions_eq_ok {config : ClientConfig} {input : HelloInput}
    {exts : List ClientExtension} {fill : Option Tls13ClientSessionValue}
    (h : clientHelloExtensions config input = .ok (exts, fill)) :
    let r := resumeExtensions config input
      (baseExtensions config input (supportedVersions config input) config.supportsTls13)
    exts = r.1 ++ (if config.tcplsEnabled then [.tcpls] else []) ∧ fill = r.2 := by
  simp only [clientHelloExtensions] at h
  split_ifs at h <;> cases h <;> simp [*]

/-- `prepare_resumption` appends the zero-binder PSK offer last. -/
theorem prepareResumption_eq (config : ClientConfig) (ticket : List UInt8)
    (resuming : Tls13ClientSessionValue) (exts : List ClientExtension) (doingRetry : Bool) :
    ∃ pre, prepareResumption config ticket resuming exts doingRetry =
      pre ++ [.presharedKey ⟨[⟨ticket, resuming.obfuscatedTicketAge⟩],
        [List.replicate resuming.suite.hashLen 0]⟩] := by
  unfold prepareResumption
  split_ifs
  · exact ⟨_, rfl⟩
  · exact ⟨_, rfl⟩

/-- A session to fill in is one `prepare_resumption` has offered, last. -/
theorem resumeExtensions_of_some {config : ClientConfig} {input : HelloInput}
    {exts : List ClientExtension} {resuming : Tls13ClientSessionValue}
    (h : (resumeExtensions config input exts).2 = some resuming) :
    ∃ pre ticket, (resumeExtensions config input exts).1 =
      pre ++ [.presharedKey ⟨[⟨ticket, resuming.obfuscatedTicketAge⟩],
        [List.replicate resuming.suite.hashLen 0]⟩] := by
  simp only [resumeExtensions] at h ⊢
  split_ifs at h ⊢
  split at h
  · cases h
    obtain ⟨pre, hpre⟩ := prepareResumption_eq config (ticketAndVersion input.resumingSession).1
      resuming exts input.retryreq.isSome
    exact ⟨pre, _, hpre⟩
  · cases h

/-- On a TLS 1.3 resumption the extension list ends with the zero-binder PSK
offer, followed by `TCPLS` on a TCPLS client. -/
theorem clientHelloExtensions_of_resume {config : ClientConfig} {input : HelloInput}
    {exts : List ClientExtension} {resuming : Tls13ClientSessionValue}
    (h : clientHelloExtensions config input = .ok (exts, some resuming)) :
    ∃ pre ticket, exts = pre ++ [.presharedKey ⟨[⟨ticket, resuming.obfuscatedTicketAge⟩],
        [List.replicate resuming.suite.hashLen 0]⟩] ++
      (if config.tcplsEnabled then [.tcpls] else []) := by
  obtain ⟨hexts, hfill⟩ := clientHelloExtensions_eq_ok h
  obtain ⟨pre, ticket, hpre⟩ := resumeExtensions_of_some hfill.symm
  exact ⟨pre, ticket, by rw [hexts, hpre]⟩

/-! ## The message -/

/-- `tls13::fill_in_psk_binder`: the binder over the transcript and the
encoding for binder signing, written by `set_psk_binder`. -/
def fillInPskBinder (binderOf : Tls13ClientSessionValue → List UInt8 → List UInt8)
    (resuming : Tls13ClientSessionValue) (transcript : List UInt8) (hmp : HandshakeMessagePayload) :
    Except Panic HandshakeMessagePayload :=
  let realBinder := binderOf resuming (transcript ++ hmp.getEncodingForBinderSigning)
  match hmp.payload with
  | .clientHello ch => (ch.setPskBinder realBinder).map fun ch => { hmp with payload := .clientHello ch }
  | _ => .ok hmp

/-- The ClientHello of `emit_client_hello_for_retry` before its binder is
filled in, with `hello.sent_extensions`. -/
def clientHelloPayload (config : ClientConfig) (random : Random) (sessionId : Option SessionID)
    (exts : List ClientExtension) : HandshakeMessagePayload :=
  ⟨HandshakeType.clientHello, .clientHello ⟨ProtocolVersion.tlsv1_2, random,
    sessionId.getD SessionID.empty, config.cipherSuites ++ [CipherSuite.tlsEmptyRenegotiationInfoScsv],
    [Compression.null], exts⟩⟩

/-- `emit_client_hello_for_retry`: the ClientHello sent and
`hello.sent_extensions`. -/
def emitClientHello (binderOf : Tls13ClientSessionValue → List UInt8 → List UInt8)
    (config : ClientConfig) (input : HelloInput) (random : Random) (sessionId : Option SessionID)
    (transcript : List UInt8) : Except Panic (HandshakeMessagePayload × List Nat) := do
  let (exts, fillInBinder) ← clientHelloExtensions config input
  let chp := clientHelloPayload config random sessionId exts
  let chp ←
    match fillInBinder with
    | some resuming => fillInPskBinder binderOf resuming transcript chp
    | none => pure chp
  pure (chp, exts.map ClientExtension.getType)

/-! ## Where the binder goes -/

/-- The extensions of the ClientHello built from `exts`. -/
@[simp] theorem clientHelloPayload_extensions (config : ClientConfig) (random : Random)
    (sessionId : Option SessionID) (exts : List ClientExtension) :
    (clientHelloPayload config random sessionId exts).payload =
      .clientHello ⟨ProtocolVersion.tlsv1_2, random, sessionId.getD SessionID.empty,
        config.cipherSuites ++ [CipherSuite.tlsEmptyRenegotiationInfoScsv], [Compression.null], exts⟩ :=
  rfl

/-- On a TCPLS client, the PSK offer of a resumption is followed by `TCPLS`:
`set_psk_binder` leaves it alone and the ClientHello goes out as built,
with the zero binder. -/
theorem emitClientHello_tcpls_resume (binderOf : Tls13ClientSessionValue → List UInt8 → List UInt8)
    {config : ClientConfig} {input : HelloInput} {exts : List ClientExtension}
    {resuming : Tls13ClientSessionValue} (htcpls : config.tcplsEnabled = true)
    (h : clientHelloExtensions config input = .ok (exts, some resuming)) (random : Random)
    (sessionId : Option SessionID) (transcript : List UInt8) :
    emitClientHello binderOf config input random sessionId transcript =
        .ok (clientHelloPayload config random sessionId exts, exts.map ClientExtension.getType) ∧
      ∃ pre ticket, exts = pre ++ [.presharedKey ⟨[⟨ticket, resuming.obfuscatedTicketAge⟩],
        [List.replicate resuming.suite.hashLen 0]⟩, .tcpls] := by
  obtain ⟨pre, ticket, hexts⟩ := clientHelloExtensions_of_resume h
  rw [htcpls, if_pos rfl, List.append_assoc, List.singleton_append] at hexts
  refine ⟨?_, pre, ticket, hexts⟩
  have hlast : ∀ offer, exts.getLast? ≠ some (.presharedKey offer) := by simp [hexts]
  simp only [emitClientHello, h, ok_bind, fillInPskBinder, clientHelloPayload_extensions]
  rw [ClientHelloPayload.setPskBinder_of_not_last hlast]
  rfl

/-- Without TCPLS, the PSK offer of a resumption is last: `set_psk_binder`
writes the binder computed over the encoding up to the binders, and when the
binder has the hash's length those are the bytes the sent ClientHello has
before its binders. -/
theorem emitClientHello_resume (binderOf : Tls13ClientSessionValue → List UInt8 → List UInt8)
    {config : ClientConfig} {input : HelloInput} {exts : List ClientExtension}
    {resuming : Tls13ClientSessionValue} (htcpls : config.tcplsEnabled = false)
    (h : clientHelloExtensions config input = .ok (exts, some resuming)) (random : Random)
    (sessionId : Option SessionID) (transcript : List UInt8) :
    ∃ pre offer, exts = pre ++ [.presharedKey offer] ∧
      offer.binders = [List.replicate resuming.suite.hashLen 0] ∧
      let plain := (clientHelloPayload config random sessionId exts).getEncodingForBinderSigning
      let binder := binderOf resuming (transcript ++ plain)
      let sent := clientHelloPayload config random sessionId
        (pre ++ [.presharedKey { offer with binders := [binder] }])
      emitClientHello binderOf config input random sessionId transcript =
          .ok (sent, exts.map ClientExtension.getType) ∧
        plain ++ encodeBinders offer.binders = (clientHelloPayload config random sessionId exts).encode ∧
        (binder.length = resuming.suite.hashLen → plain ++ encodeBinders [binder] = sent.encode) := by
  obtain ⟨pre, ticket, hexts⟩ := clientHelloExtensions_of_resume h
  rw [htcpls, if_neg (by simp), List.append_nil] at hexts
  refine ⟨pre, _, hexts, rfl, ?_⟩
  intro plain binder sent
  have hbuilt : plain = HandshakeMessagePayload.pskFront HandshakeType.clientHello _ pre _ _ :=
    HandshakeMessagePayload.getEncodingForBinderSigning_of_last hexts
  refine ⟨?_, ?_, fun hlen => ?_⟩
  · simp only [emitClientHello, h, ok_bind, fillInPskBinder, clientHelloPayload_extensions]
    rw [ClientHelloPayload.setPskBinder_of_last hexts rfl]
    rfl
  · rw [hbuilt]
    exact (HandshakeMessagePayload.encode_of_last_psk hexts).symm
  · have hsame : (encodeBinders [binder]).length =
        (encodeBinders [List.replicate resuming.suite.hashLen 0]).length := by
      simp [encodeBinders, encodeVec, encodeBlock, hlen]
    rw [show sent.encode = _ from HandshakeMessagePayload.encode_of_last_psk rfl, hbuilt]
    simp only [hsame]
    rfl

/-! ## A TCPLS client resuming a TLS 1.3 session -/

/-- A TCPLS client of TLS 1.3 only, with tickets enabled. -/
def tcplsTicketConfig : ClientConfig :=
  ⟨false, true, [0x001d], [0x0804], false, true, false, [], [0x1301], true⟩

/-- A first ClientHello resuming a TLS 1.3 session under a SHA-256 suite,
with a key share. -/
def tls13TicketInput : HelloInput :=
  ⟨some (.tls13 ⟨[0x01], ⟨0x1301, 4, 32⟩, 0, 0⟩), none, none, some ⟨0x001d, [0x09]⟩, [], false,
    none, false⟩

/-- Whatever the binder, the ClientHello sent carries a PSK offer whose binder
is the zero placeholder, and the offer is not the last extension: the server
refuses it with `PskExtensionMustBeLast`. -/
theorem emitClientHello_tcpls_zero_binder (binderOf : Tls13ClientSessionValue → List UInt8 → List UInt8) :
    ((emitClientHello binderOf tcplsTicketConfig tls13TicketInput zeroRandom none []).map
      fun out => match out.1.payload with
        | .clientHello ch => (ch.getPsk.map (·.binders), ch.checkPskExtIsLast)
        | _ => (none, true)) = .ok (some [List.replicate 32 0], false) := by
  rfl

/-! ## Both kinds of client -/

/-- **Where a resumption's PSK offer goes.**  For every configuration and
input that resume a TLS 1.3 session: a TCPLS client sends the ClientHello as
built, its PSK offer followed by `TCPLS` and holding the zero binder; any
other client sends the offer last, with the binder computed over the
encoding up to the binders, which is the front of the ClientHello built and,
for a binder of the hash's length, of the one sent. -/
theorem emitClientHello_pskOffer (binderOf : Tls13ClientSessionValue → List UInt8 → List UInt8)
    {config : ClientConfig} {input : HelloInput} {exts : List ClientExtension}
    {resuming : Tls13ClientSessionValue}
    (h : clientHelloExtensions config input = .ok (exts, some resuming)) (random : Random)
    (sessionId : Option SessionID) (transcript : List UInt8) :
    (config.tcplsEnabled = true →
      emitClientHello binderOf config input random sessionId transcript =
          .ok (clientHelloPayload config random sessionId exts, exts.map ClientExtension.getType) ∧
        ∃ pre ticket, exts = pre ++ [.presharedKey ⟨[⟨ticket, resuming.obfuscatedTicketAge⟩],
          [List.replicate resuming.suite.hashLen 0]⟩, .tcpls]) ∧
    (config.tcplsEnabled = false →
      ∃ pre offer, exts = pre ++ [.presharedKey offer] ∧
        offer.binders = [List.replicate resuming.suite.hashLen 0] ∧
        let plain := (clientHelloPayload config random sessionId exts).getEncodingForBinderSigning
        let binder := binderOf resuming (transcript ++ plain)
        let sent := clientHelloPayload config random sessionId
          (pre ++ [.presharedKey { offer with binders := [binder] }])
        emitClientHello binderOf config input random sessionId transcript =
            .ok (sent, exts.map ClientExtension.getType) ∧
          plain ++ encodeBinders offer.binders = (clientHelloPayload config random sessionId exts).encode ∧
          (binder.length = resuming.suite.hashLen → plain ++ encodeBinders [binder] = sent.encode)) :=
  ⟨fun htcpls => emitClientHello_tcpls_resume binderOf htcpls h random sessionId transcript,
    fun htcpls => emitClientHello_resume binderOf htcpls h random sessionId transcript⟩

/-- The TCPLS client resuming a TLS 1.3 session above, under any binder. -/
theorem tcpls_resumption_offer_placed :
    ∃ exts resuming, clientHelloExtensions tcplsTicketConfig tls13TicketInput = .ok (exts, some resuming) ∧
      (tcplsTicketConfig.tcplsEnabled = true →
        emitClientHello (fun _ _ => []) tcplsTicketConfig tls13TicketInput zeroRandom none [] =
            .ok (clientHelloPayload tcplsTicketConfig zeroRandom none exts, exts.map ClientExtension.getType) ∧
          ∃ pre ticket, exts = pre ++ [.presharedKey ⟨[⟨ticket, resuming.obfuscatedTicketAge⟩],
            [List.replicate resuming.suite.hashLen 0]⟩, .tcpls]) ∧
      (tcplsTicketConfig.tcplsEnabled = false →
        ∃ pre offer, exts = pre ++ [.presharedKey offer] ∧
          offer.binders = [List.replicate resuming.suite.hashLen 0] ∧
          let plain := (clientHelloPayload tcplsTicketConfig zeroRandom none exts).getEncodingForBinderSigning
          let binder := (fun _ _ => []) resuming ([] ++ plain)
          let sent := clientHelloPayload tcplsTicketConfig zeroRandom none
            (pre ++ [.presharedKey { offer with binders := [binder] }])
          emitClientHello (fun _ _ => []) tcplsTicketConfig tls13TicketInput zeroRandom none [] =
              .ok (sent, exts.map ClientExtension.getType) ∧
            plain ++ encodeBinders offer.binders =
              (clientHelloPayload tcplsTicketConfig zeroRandom none exts).encode ∧
            (binder.length = resuming.suite.hashLen → plain ++ encodeBinders [binder] = sent.encode)) := by
  obtain ⟨exts, resuming, h⟩ : ∃ exts resuming,
      clientHelloExtensions tcplsTicketConfig tls13TicketInput = .ok (exts, some resuming) :=
    ⟨_, _, rfl⟩
  exact ⟨exts, resuming, h, emitClientHello_pskOffer (fun _ _ => []) h zeroRandom none []⟩

end TcplsBasics.Ports.Client.Hello
