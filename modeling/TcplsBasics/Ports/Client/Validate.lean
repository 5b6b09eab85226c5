import TcplsBasics.Ports.Client.Hello
import TcplsBasics.Ports.Server.Hs

/-!
# What the client accepts from the server (`client/common.rs`, `client/hs.rs`, `client/tls13.rs`)

The client notes the types of the extensions it sent
(`ClientHelloDetails::sent_extensions`) and refuses a reply extension of any
other type, except those the message allows unsolicited: renegotiation info
in a TLS 1.2 ServerHello (`ExpectServerHello::handle`), the TCPLS token in
TLS 1.3 EncryptedExtensions (`validate_encrypted_extensions`).

Against the server's answers of `Server.Hs`: under TLS 1.3 the client accepts
every EncryptedExtensions the server builds for its ClientHello.  Under
TLS 1.2 it accepts the ServerHello unless the server answered TCPLS: the
token that comes with that answer is not allowed unsolicited in a
ServerHello, so a TCPLS client and a TCPLS server that settle on TLS 1.2
abort the handshake with `UnsolicitedServerHelloExtension`.

## Main results

* `validateEncryptedExtensions_emitEncryptedExtensions`: TLS 1.3 replies pass.
* `checkServerHello_emitServerHello`: TLS 1.2 replies pass when TCPLS is not
  enabled on both sides.
* `checkServerHello_emitServerHello_tcpls`: with TCPLS enabled on both sides,
  every TLS 1.2 reply is refused.
-/

namespace TcplsBasics.Ports.Client.Validate

open TcplsBasics.Verified.Rust TcplsBasics.Verified.Bytes TcplsBasics.Verified.Appends
open TcplsBasics.Ports.Errors TcplsBasics.Ports.Msgs.Extensions TcplsBasics.Ports.Msgs.Handshake
open TcplsBasics.Ports.Client.Hello TcplsBasics.Ports.Server.Hs

/-! ## The client's checks -/

/-- `ClientHelloDetails`. -/
structure ClientHelloDetails where
  sentExtensions : List Nat
deriving DecidableEq, Repr

/-- `ClientHelloDetails::server_sent_unsolicited_extensions`. -/
def ClientHelloDetails.serverSentUnsolicitedExtensions (hello : ClientHelloDetails)
    (receivedExts : List ServerExtension) (allowedUnsolicited : List Nat) : Bool :=
  receivedExts.any fun ext =>
    !hello.sentExtensions.contains ext.getType && !allowedUnsolicited.contains ext.getType

/-- `has_duplicate_extension` of `ServerHelloPayload` and of `EncryptedExtensions`. -/
def hasDuplicateExtension (exts : List ServerExtension) : Bool :=
  hasDuplicate [] (exts.map ServerExtension.getType)

/-- The extension checks of `ExpectServerHello::handle`, in its order. -/
def checkServerHello (hello : ClientHelloDetails) (serverHello : ServerHelloPayload) :
    Except Fatal Unit :=
  if serverHello.compressionMethod ≠ Compression.null then
    .error (illegalParam .selectedUnofferedCompression)
  else if hasDuplicateExtension serverHello.extensions then
    .error ⟨some .decodeError, .peerMisbehaved .duplicateServerHelloExtensions⟩
  else if hello.serverSentUnsolicitedExtensions serverHello.extensions
      [ExtensionType.renegotiationInfo] then
    .error ⟨some .unsupportedExtension, .peerMisbehaved .unsolicitedServerHelloExtension⟩
  else .ok ()

/-- `ALLOWED_PLAINTEXT_EXTS`. -/
def allowedPlaintextExts : List Nat :=
  [ExtensionType.keyShare, ExtensionType.preSharedKey, ExtensionType.supportedVersions]

/-- `DISALLOWED_TLS13_EXTS`. -/
def disallowedTls13Exts : List Nat :=
  [ExtensionType.ecPointFormats, ExtensionType.sessionTicket, ExtensionType.renegotiationInfo,
    ExtensionType.extendedMasterSecret]

/-- `validate_encrypted_extensions`. -/
def validateEncryptedExtensions (hello : ClientHelloDetails) (exts : List ServerExtension) :
    Except Fatal Unit :=
  if hasDuplicateExtension exts then
    .error ⟨some .decodeError, .peerMisbehaved .duplicateEncryptedExtensions⟩
  else if hello.serverSentUnsolicitedExtensions exts [ExtensionType.tcplsToken] then
    .error ⟨some .unsupportedExtension, .peerMisbehaved .unsolicitedEncryptedExtension⟩
  else if exts.any fun ext =>
      allowedPlaintextExts.contains ext.getType || disallowedTls13Exts.contains ext.getType then
    .error ⟨some .unsupportedExtension, .peerMisbehaved .disallowedEncryptedExtension⟩
  else .ok ()

theorem serverSentUnsolicitedExtensions_eq_false_iff {hello : ClientHelloDetails}
    {exts : List ServerExtension} {allowed : List Nat} :
    hello.serverSentUnsolicitedExtensions exts allowed = false ↔
      ∀ e ∈ exts, e.getType ∈ hello.sentExtensions ∨ e.getType ∈ allowed := by
  simp [ClientHelloDetails.serverSentUnsolicitedExtensions, List.any_eq_false, or_iff_not_imp_left]

/-- A list built in an order of distinct types has no repeated type. -/
theorem hasDuplicateExtension_eq_false {ok : Nat → Prop} {block : List Nat}
    {exts : List ServerExtension} (h : AppendsIn ServerExtension.getType ok block [] exts)
    (hb : block.Nodup) : hasDuplicateExtension exts = false :=
  hasDuplicate_nil_eq_false_iff.mpr (h.nodup hb)

/-! ## Against the server's answers -/

/-- The types a ClientHello's details record. -/
def detailsOf (ch : ClientHelloPayload) : ClientHelloDetails :=
  ⟨ch.extensions.map ClientExtension.getType⟩

section Agreement

variable {config : ServerConfig} {common : CommonState} {ch : ClientHelloPayload}
  {forResume : Bool} {ocspResponse sctList : Option (List UInt8)} {s' : Processing}

theorem sent_of_answerable {typ : Nat} (h : Answerable config ch typ) :
    typ ∈ (detailsOf ch).sentExtensions ∨ typ ∈ [ExtensionType.tcplsToken] := by
  rcases h with h | ⟨rfl, -⟩
  exacts [.inl h, .inr (List.mem_singleton_self _)]

/-- Without TCPLS enabled on both sides, only renegotiation info goes unsolicited. -/
theorem sent_of_answerable12 {typ : Nat}
    (hno : ¬((ch.findExtension ExtensionType.tcpls).isSome ∧ config.tcplsEnabled))
    (h : Answerable12 config ch typ) :
    typ ∈ (detailsOf ch).sentExtensions ∨ typ ∈ [ExtensionType.renegotiationInfo] := by
  rcases h with (h | ⟨-, htcpls, hon⟩) | rfl
  · exact .inl h
  · exact absurd ⟨ClientHelloPayload.findExtension_isSome_iff.mpr htcpls, hon⟩ hno
  · exact .inr (List.mem_singleton_self _)

/-- Under TLS 1.3 the client accepts the server's EncryptedExtensions. -/
theorem validateEncryptedExtensions_emitEncryptedExtensions {resumeAllows : Bool}
    {exts : List ServerExtension} {decision : EarlyDataDecision}
    (h : emitEncryptedExtensions common ocspResponse sctList ch forResume [] config
      resumeAllows = .ok (.ok (exts, decision, s'))) :
    validateEncryptedExtensions (detailsOf ch) exts = .ok () := by
  have happ := emitEncryptedExtensions_appendsIn (fun e he => absurd he List.not_mem_nil) h
  have hdup : hasDuplicateExtension exts = false := hasDuplicateExtension_eq_false happ (by decide)
  have hsolicited : (detailsOf ch).serverSentUnsolicitedExtensions exts
      [ExtensionType.tcplsToken] = false :=
    serverSentUnsolicitedExtensions_eq_false_iff.mpr fun e he =>
      sent_of_answerable (happ.forall_mem e he)
  have hallowed : (exts.any fun ext =>
      allowedPlaintextExts.contains ext.getType || disallowedTls13Exts.contains ext.getType) =
        false := by
    rw [List.any_eq_false]
    intro e he
    have hblock := happ.key_mem he
    revert hblock
    generalize e.getType = typ
    decide +revert
  simp only [validateEncryptedExtensions, hdup, hsolicited, hallowed, Bool.false_eq_true,
    if_false]

/-- Under TLS 1.2 the client accepts the server's ServerHello when TCPLS is
not enabled on both sides. -/
theorem checkServerHello_emitServerHello {sessionId : SessionID} {suite : Nat} {random : Random}
    {sh : ServerHelloPayload}
    (hno : ¬((ch.findExtension ExtensionType.tcpls).isSome ∧ config.tcplsEnabled))
    (h : emitServerHello config common sessionId suite ch.emsSupportOffered ocspResponse sctList
      ch forResume random [] = .ok (.ok (sh, s'))) :
    checkServerHello (detailsOf ch) sh = .ok () := by
  have happ := emitServerHello_appendsIn (fun e he => absurd he List.not_mem_nil) h
  have hdup : hasDuplicateExtension sh.extensions = false :=
    hasDuplicateExtension_eq_false happ (by decide)
  have hsolicited : (detailsOf ch).serverSentUnsolicitedExtensions sh.extensions
      [ExtensionType.renegotiationInfo] = false :=
    serverSentUnsolicitedExtensions_eq_false_iff.mpr fun e he =>
      sent_of_answerable12 hno (happ.forall_mem e he)
  simp [checkServerHello, emitServerHello_compressionMethod h, hdup, hsolicited]

/-- With TCPLS enabled on both sides, the client refuses every TLS 1.2
ServerHello: the TCPLS token in it was not sent, and a ServerHello allows
only renegotiation info unsolicited. -/
theorem checkServerHello_emitServerHello_tcpls {sessionId : SessionID} {suite : Nat}
    {random : Random} {sh : ServerHelloPayload}
    (hboth : (ch.findExtension ExtensionType.tcpls).isSome ∧ config.tcplsEnabled)
    (hnotoken : ExtensionType.tcplsToken ∉ ch.extensions.map ClientExtension.getType)
    (h : emitServerHello config common sessionId suite ch.emsSupportOffered ocspResponse sctList
      ch forResume random [] = .ok (.ok (sh, s'))) :
    checkServerHello (detailsOf ch) sh =
      .error ⟨some .unsupportedExtension, .peerMisbehaved .unsolicitedServerHelloExtension⟩ := by
  have happ := emitServerHello_appendsIn (fun e he => absurd he List.not_mem_nil) h
  have hdup : hasDuplicateExtension sh.extensions = false :=
    hasDuplicateExtension_eq_false happ (by decide)
  have hunsolicited : (detailsOf ch).serverSentUnsolicitedExtensions sh.extensions
      [ExtensionType.renegotiationInfo] = true := by
    obtain ⟨e, he, htyp⟩ := List.mem_map.mp (tcplsToken_mem_emitServerHello hboth h)
    simp only [ClientHelloDetails.serverSentUnsolicitedExtensions, List.any_eq_true]
    refine ⟨e, he, ?_⟩
    simp [detailsOf, htyp, hnotoken]
    decide
  simp [checkServerHello, emitServerHello_compressionMethod h, hdup, hunsolicited]

end Agreement

/-! ## Runs -/

/-- A server with TCPLS enabled, no ALPN protocols and no ticketer. -/
def tcplsServerConfig : ServerConfig := ⟨[], true, false⟩

/-- The server's common state under TLS 1.2, session token 7. -/
def tls12Common : CommonState := ⟨false, false, none, none, false, 7⟩

/-- The server's common state under TLS 1.3, session token 7. -/
def tls13Common : CommonState := ⟨true, false, none, none, false, 7⟩

/-- A ClientHello offering only TCPLS. -/
def tcplsHello : ClientHelloPayload :=
  ⟨ProtocolVersion.tlsv1_2, zeroRandom, SessionID.empty, [0x1301], [Compression.null], [.tcpls]⟩

/-- A ClientHello offering only the extended master secret. -/
def emsHello : ClientHelloPayload :=
  ⟨ProtocolVersion.tlsv1_2, zeroRandom, SessionID.empty, [0xc02f], [Compression.null],
    [.extendedMasterSecretRequest]⟩

/-- The server's answer to `TCPLS`: `TCPLS` and the token 7. -/
def tcplsReply : List ServerExtension :=
  [.tcpls, .tcplsToken ⟨ExtensionType.tcplsToken, toBeBytes 8 7⟩]

theorem tcpls_tls13_reply_accepted :
    emitEncryptedExtensions tls13Common none none tcplsHello false [] tcplsServerConfig false =
        .ok (.ok (tcplsReply, .disabled,
          ⟨⟨tcplsReply, false⟩, { tls13Common with otherTcplsEnabled := true }, none, none⟩)) ∧
      validateEncryptedExtensions (detailsOf tcplsHello) tcplsReply = .ok () := by
  refine ⟨?h, validateEncryptedExtensions_emitEncryptedExtensions ?h⟩
  rfl

theorem ems_tls12_reply_accepted :
    ¬((emsHello.findExtension ExtensionType.tcpls).isSome ∧ tcplsServerConfig.tcplsEnabled) ∧
      emitServerHello tcplsServerConfig tls12Common SessionID.empty 0xc02f
          emsHello.emsSupportOffered none none emsHello false zeroRandom [] =
        .ok (.ok (⟨ProtocolVersion.tlsv1_2, zeroRandom, SessionID.empty, 0xc02f, Compression.null,
            [.extendedMasterSecretAck]⟩,
          ⟨⟨[.extendedMasterSecretAck], false⟩, tls12Common, none, none⟩)) ∧
      checkServerHello (detailsOf emsHello)
          ⟨ProtocolVersion.tlsv1_2, zeroRandom, SessionID.empty, 0xc02f, Compression.null,
            [.extendedMasterSecretAck]⟩ = .ok () := by
  refine ⟨?hno, ?h, checkServerHello_emitServerHello ?hno ?h⟩
  · decide
  · rfl

theorem tcpls_tls12_reply_refused :
    ((tcplsHello.findExtension ExtensionType.tcpls).isSome ∧ tcplsServerConfig.tcplsEnabled) ∧
      ExtensionType.tcplsToken ∉ tcplsHello.extensions.map ClientExtension.getType ∧
      emitServerHello tcplsServerConfig tls12Common SessionID.empty 0xc02f
          tcplsHello.emsSupportOffered none none tcplsHello false zeroRandom [] =
        .ok (.ok (⟨ProtocolVersion.tlsv1_2, zeroRandom, SessionID.empty, 0xc02f, Compression.null,
            tcplsReply⟩,
          ⟨⟨tcplsReply, false⟩, { tls12Common with otherTcplsEnabled := true }, none, none⟩)) ∧
      checkServerHello (detailsOf tcplsHello)
          ⟨ProtocolVersion.tlsv1_2, zeroRandom, SessionID.empty, 0xc02f, Compression.null,
            tcplsReply⟩ =
        .error ⟨some .unsupportedExtension, .peerMisbehaved .unsolicitedServerHelloExtension⟩ := by
  refine ⟨?hboth, ?hnotoken, ?h, checkServerHello_emitServerHello_tcpls ?hboth ?hnotoken ?h⟩
  · decide
  · decide
  · rfl

/-- The first flight of a handshake that settles on TLS 1.2: the client's
ClientHello, the server's ServerHello to it, and the client's check of that
ServerHello against the extensions it noted as sent. -/
def tls12FirstFlight (binderOf : Tls13ClientSessionValue → List UInt8 → List UInt8)
    (config : ClientConfig) (input : HelloInput) (serverConfig : ServerConfig)
    (common : CommonState) : Except Panic (Except Fatal (Except Fatal Unit)) := do
  let (hm, sent) ← emitClientHello binderOf config input zeroRandom none []
  match hm.payload with
  | .clientHello ch =>
    let reply ← emitServerHello serverConfig common SessionID.empty 0xc02f ch.emsSupportOffered
      none none ch false zeroRandom []
    pure (reply.map fun r => checkServerHello ⟨sent⟩ r.1)
  | _ => pure (.ok (.ok ()))

/-- A client offering TLS 1.2 and TLS 1.3 with TCPLS enabled and no tickets. -/
def tcplsDualConfig : ClientConfig :=
  ⟨true, true, [0x001d], [0x0804], false, false, false, [], [0x1301, 0xc02f], true⟩

/-- A first ClientHello with an x25519 key share and no session to resume. -/
def freshInput : HelloInput := ⟨none, none, none, some ⟨0x001d, [0x09]⟩, [], false, none, false⟩

theorem tcpls_tls12_handshake_aborted
    (binderOf : Tls13ClientSessionValue → List UInt8 → List UInt8) :
    tls12FirstFlight binderOf tcplsDualConfig freshInput tcplsServerConfig tls12Common =
      .ok (.ok (.error ⟨some .unsupportedExtension, .peerMisbehaved .unsolicitedServerHelloExtension⟩)) :=
  rfl

end TcplsBasics.Ports.Client.Validate
