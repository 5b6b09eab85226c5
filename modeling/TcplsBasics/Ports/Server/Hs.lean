import TcplsBasics.Ports.Error
import TcplsBasics.Ports.Msgs.Handshake
import TcplsBasics.Verified.Appends

/-!
# The server's extension answers (`server/hs.rs`, `server/tls12.rs`, `server/tls13.rs`)

`ExtensionProcessing::process_common` answers the extensions of a ClientHello
for both protocol versions, and `process_tls12` adds the TLS 1.2 answers.
Under TLS 1.2 the whole list goes into the ServerHello (`emit_server_hello`);
under TLS 1.3 it goes into EncryptedExtensions, with an `EarlyData`
acknowledgement when early data is accepted (`emit_encrypted_extensions`).

`process_common` is a sequence of steps on a `Processing` state, one per
feature: ALPN, QUIC transport parameters, the server-name and status-request
acknowledgements, the SCT list, and the TCPLS pair.  Each step pushes answers
of its own types, so a whole reply lists its types in the fixed order
`commonOrder ++ tls12Order` (or `commonOrder ++ [earlyData]`), each at most
once.  Every answer is to an extension the client sent, with two exceptions:
the TCPLS token, pushed when the client sent `TCPLS` and the server enables
it (`Answerable`), and, under TLS 1.2 only, renegotiation info, pushed when
the client lists the signalling cipher suite (`Answerable12`).

## Main results

* `processCommon_appendsIn`: what `process_common` pushes.
* `emitServerHello_appendsIn`, `emitEncryptedExtensions_appendsIn`: the
  extension lists of the TLS 1.2 ServerHello and the TLS 1.3 EncryptedExtensions.
* `tcplsToken_mem_emitServerHello`: a TLS 1.2 ServerHello to a TCPLS client
  from a TCPLS server carries the TCPLS token.
-/

namespace TcplsBasics.Ports.Server.Hs

open TcplsBasics.Verified.Rust TcplsBasics.Verified.Codec TcplsBasics.Verified.Bytes
open TcplsBasics.Verified.Appends
open TcplsBasics.Ports.Errors TcplsBasics.Ports.Msgs.Extensions TcplsBasics.Ports.Msgs.Handshake

/-! ## State -/

/-- The fields of `ServerConfig` that extension processing reads. -/
structure ServerConfig where
  alpnProtocols : List (List UInt8)
  tcplsEnabled : Bool
  /-- `config.ticketer.enabled()`. -/
  ticketerEnabled : Bool
deriving DecidableEq, Repr

/-- The fields of the server's `CommonState` that extension processing reads or sets. -/
structure CommonState where
  isTls13 : Bool
  isQuic : Bool
  alpnProtocol : Option (List UInt8)
  quicParams : Option (List UInt8)
  otherTcplsEnabled : Bool
  tcplsToken : Nat
deriving DecidableEq, Repr

/-- `ExtensionProcessing`. -/
structure ExtensionProcessing where
  exts : List ServerExtension
  sendTicket : Bool
deriving DecidableEq, Repr

/-- `ExtensionProcessing::new`. -/
def ExtensionProcessing.new : ExtensionProcessing := ⟨[], false⟩

/-- What extension processing writes to: `self`, the common state, and the
OCSP response and SCT list it may take. -/
structure Processing where
  ep : ExtensionProcessing
  common : CommonState
  ocspResponse : Option (List UInt8)
  sctList : Option (List UInt8)
deriving DecidableEq, Repr

namespace Processing

/-- `self.exts.push(ext)`. -/
def push (s : Processing) (ext : ServerExtension) : Processing :=
  { s with ep := { s.ep with exts := s.ep.exts ++ [ext] } }

/-- `self.exts.extend(extra_exts)`. -/
def extend (s : Processing) (extraExts : List ServerExtension) : Processing :=
  { s with ep := { s.ep with exts := s.ep.exts ++ extraExts } }

@[simp] theorem push_exts (s : Processing) (ext : ServerExtension) :
    (s.push ext).ep.exts = s.ep.exts ++ [ext] := rfl

@[simp] theorem extend_exts (s : Processing) (extraExts : List ServerExtension) :
    (s.extend extraExts).ep.exts = s.ep.exts ++ extraExts := rfl

end Processing

/-! ## `process_common` -/

/-- The ALPN part of `process_common`: our first protocol that the client
offers, refused outright if the client offers an empty one. -/
def processAlpn (config : ServerConfig) (hello : ClientHelloPayload) (s : Processing) :
    Except Fatal Processing :=
  match hello.getAlpnExtension with
  | none => .ok s
  | some theirProtocols =>
    if theirProtocols.any List.isEmpty then
      .error ⟨none, .peerMisbehaved .offeredEmptyApplicationProtocol⟩
    else
      let selected := config.alpnProtocols.find? fun p => theirProtocols.contains p
      let s := { s with common := { s.common with alpnProtocol := selected } }
      match selected with
      | some p => .ok (s.push (.protocols [p]))
      | none =>
        if config.alpnProtocols ≠ [] then
          .error ⟨some .noApplicationProtocol, .noApplicationProtocol⟩
        else .ok s

/-- The QUIC part of `process_common`: strict ALPN, and the client's
transport parameters are required. -/
def processQuic (config : ServerConfig) (hello : ClientHelloPayload) (s : Processing) :
    Except Fatal Processing :=
  if s.common.isQuic then
    if s.common.alpnProtocol.isNone ∧
        (config.alpnProtocols ≠ [] ∨ hello.getAlpnExtension.isSome) then
      .error ⟨some .noApplicationProtocol, .noApplicationProtocol⟩
    else
      match hello.getQuicParamsExtension with
      | some params => .ok { s with common := { s.common with quicParams := some params } }
      | none => .error (missingExtension .missingQuicTransportParameters)
  else .ok s

/-- The SNI part of `process_common`: acknowledge a server name on a full handshake. -/
def processSni (hello : ClientHelloPayload) (forResume : Bool) (s : Processing) : Processing :=
  if !forResume ∧ hello.getSniExtension.isSome then s.push .serverNameAck else s

/-- The status-request part of `process_common`: only TLS 1.2 acknowledges in
the ServerHello, and the response is dropped when it will not be sent. -/
def processOcsp (hello : ClientHelloPayload) (forResume : Bool) (s : Processing) : Processing :=
  if !forResume ∧ (hello.findExtension ExtensionType.statusRequest).isSome then
    if s.ocspResponse.isSome ∧ !s.common.isTls13 then s.push .certificateStatusAck else s
  else { s with ocspResponse := none }

/-- `ServerExtension::make_sct`: `expect` on the configured list. -/
def makeSct (sctList : List UInt8) : Except Panic ServerExtension := do
  let scts ← expect ((readVec 2 (readBlock 2) sctList).map Prod.fst) "invalid SCT list"
  pure (.signedCertificateTimestamp scts)

/-- The SCT part of `process_common`: under TLS 1.2 the list is taken into
the ServerHello; otherwise it is dropped unless the client asked for it. -/
def processSct (hello : ClientHelloPayload) (forResume : Bool) (s : Processing) :
    Except Panic Processing :=
  if !forResume ∧ (hello.findExtension ExtensionType.sct).isSome then
    if !s.common.isTls13 then
      match s.sctList with
      | some sctList => do
        let ext ← makeSct sctList
        pure ({ s with sctList := none }.push ext)
      | none => pure s
    else pure s
  else pure { s with sctList := none }

/-- The TCPLS part of `process_common`: when the client sent `TCPLS` and the
server enables it, note the peer's support and answer with `TCPLS` and the
session's token, `u64::to_be_bytes`. -/
def processTcpls (config : ServerConfig) (hello : ClientHelloPayload) (s : Processing) :
    Processing :=
  if (hello.findExtension ExtensionType.tcpls).isSome ∧ config.tcplsEnabled then
    ({ s with common := { s.common with otherTcplsEnabled := true } }.push .tcpls).push
      (.tcplsToken ⟨ExtensionType.tcplsToken, toBeBytes 8 s.common.tcplsToken⟩)
  else s

/-- `ExtensionProcessing::process_common`.  Of `resumedata` only
`is_some()` is read: `forResume`. -/
def processCommon (config : ServerConfig) (hello : ClientHelloPayload) (forResume : Bool)
    (extraExts : List ServerExtension) (s : Processing) : Except Panic (Except Fatal Processing) :=
  match processAlpn config hello s >>= processQuic config hello with
  | .error e => pure (.error e)
  | .ok s => do
    let s ← processSct hello forResume (processOcsp hello forResume (processSni hello forResume s))
    pure (.ok ((processTcpls config hello s).extend extraExts))

/-! ## The TLS 1.2 ServerHello and the TLS 1.3 EncryptedExtensions -/

/-- The renegotiation part of `process_tls12`: an empty `renegotiation_info`
when the client offers secure renegotiation, by extension or by the
signalling cipher suite. -/
def processReneg (hello : ClientHelloPayload) (s : Processing) : Processing :=
  if (hello.findExtension ExtensionType.renegotiationInfo).isSome ∨
      CipherSuite.tlsEmptyRenegotiationInfoScsv ∈ hello.cipherSuites then
    s.push (.renegotiationInfo [])
  else s

/-- The ticket part of `process_tls12`. -/
def processTickets (config : ServerConfig) (hello : ClientHelloPayload) (s : Processing) :
    Processing :=
  if (hello.findExtension ExtensionType.sessionTicket).isSome ∧ config.ticketerEnabled then
    { s with ep := { s.ep with sendTicket := true } }.push .sessionTicketAck
  else s

/-- The extended-master-secret part of `process_tls12`. -/
def processEms (usingEms : Bool) (s : Processing) : Processing :=
  if usingEms then s.push .extendedMasterSecretAck else s

/-- `ExtensionProcessing::process_tls12`. -/
def processTls12 (config : ServerConfig) (hello : ClientHelloPayload) (usingEms : Bool)
    (s : Processing) : Processing :=
  processEms usingEms (processTickets config hello (processReneg hello s))

/-- `emit_server_hello`: the ServerHello it sends, and the state after, whose
`ep.sendTicket` it returns. -/
def emitServerHello (config : ServerConfig) (common : CommonState) (sessionId : SessionID)
    (suite : Nat) (usingEms : Bool) (ocspResponse sctList : Option (List UInt8))
    (hello : ClientHelloPayload) (forResume : Bool) (random : Random)
    (extraExts : List ServerExtension) :
    Except Panic (Except Fatal (ServerHelloPayload × Processing)) := do
  match ← processCommon config hello forResume extraExts
      ⟨.new, common, ocspResponse, sctList⟩ with
  | .error e => pure (.error e)
  | .ok s =>
    let s := processTls12 config hello usingEms s
    pure (.ok (⟨ProtocolVersion.tlsv1_2, random, sessionId, suite, Compression.null, s.ep.exts⟩, s))

/-- `EarlyDataDecision`. -/
inductive EarlyDataDecision where
  | disabled
  | requestedButRejected
  | accepted
deriving DecidableEq, Repr

/-- `decide_if_early_data_allowed`.  `resumeAllows` is the rest of its test:
resuming a fresh session of this version, suite and ALPN protocol, with
early data configured and not already rejected. -/
def decideIfEarlyDataAllowed (hello : ClientHelloPayload) (resumeAllows : Bool) :
    EarlyDataDecision :=
  if hello.earlyDataExtensionOffered then
    if resumeAllows then .accepted else .requestedButRejected
  else .disabled

/-- `emit_encrypted_extensions`: the extensions it sends, the early-data
decision it returns, and the state after. -/
def emitEncryptedExtensions (common : CommonState) (ocspResponse sctList : Option (List UInt8))
    (hello : ClientHelloPayload) (forResume : Bool) (extraExts : List ServerExtension)
    (config : ServerConfig) (resumeAllows : Bool) :
    Except Panic (Except Fatal (List ServerExtension × EarlyDataDecision × Processing)) := do
  match ← processCommon config hello forResume extraExts
      ⟨.new, common, ocspResponse, sctList⟩ with
  | .error e => pure (.error e)
  | .ok s =>
    let earlyData := decideIfEarlyDataAllowed hello resumeAllows
    let s := if earlyData = .accepted then s.push .earlyData else s
    pure (.ok (s.ep.exts, earlyData, s))

/-! ## What the answers are -/

/-- The extension types the server may answer with: one the client sent, or
the TCPLS token when the client sent `TCPLS` and the server enables TCPLS. -/
def Answerable (config : ServerConfig) (hello : ClientHelloPayload) (typ : Nat) : Prop :=
  typ ∈ hello.extensions.map ClientExtension.getType ∨
    (typ = ExtensionType.tcplsToken ∧
      ExtensionType.tcpls ∈ hello.extensions.map ClientExtension.getType ∧ config.tcplsEnabled)

/-- Under TLS 1.2, renegotiation info as well. -/
def Answerable12 (config : ServerConfig) (hello : ClientHelloPayload) (typ : Nat) : Prop :=
  Answerable config hello typ ∨ typ = ExtensionType.renegotiationInfo

/-- The types `process_common` pushes, in push order. -/
def commonOrder : List Nat :=
  [ExtensionType.alProtocolNegotiation, ExtensionType.serverName, ExtensionType.statusRequest,
    ExtensionType.sct, ExtensionType.tcpls, ExtensionType.tcplsToken]

/-- The types `process_tls12` pushes, in push order. -/
def tls12Order : List Nat :=
  [ExtensionType.renegotiationInfo, ExtensionType.sessionTicket, ExtensionType.extendedMasterSecret]

section Answers

variable {config : ServerConfig} {hello : ClientHelloPayload} {forResume : Bool}
  {s s' : Processing}

/-- The shape every step lemma has: the step pushed answers of types in `block`. -/
abbrev Pushes (ok : Nat → Prop) (block : List Nat) (s s' : Processing) : Prop :=
  AppendsIn ServerExtension.getType ok block s.ep.exts s'.ep.exts

theorem offered_of_findExtension {typ : Nat} (h : (hello.findExtension typ).isSome) :
    Answerable config hello typ :=
  .inl (ClientHelloPayload.findExtension_isSome_iff.mp h)

theorem processAlpn_pushes (h : processAlpn config hello s = .ok s') :
    Pushes (Answerable config hello) [ExtensionType.alProtocolNegotiation] s s' := by
  unfold processAlpn at h
  split at h
  · cases h
    exact AppendsIn.refl _ _
  · rename_i theirProtocols halpn
    have hoffered : Answerable config hello ExtensionType.alProtocolNegotiation :=
      .inl (ClientHelloPayload.alpn_mem_of_getAlpnExtension halpn)
    dsimp only at h
    split at h
    · cases h
    · split at h
      · cases h
        exact AppendsIn.push hoffered
      · split at h
        · cases h
        · cases h
          exact AppendsIn.refl _ _

theorem processQuic_exts (h : processQuic config hello s = .ok s') : s'.ep.exts = s.ep.exts := by
  unfold processQuic at h
  split_ifs at h
  · split at h <;> cases h
    rfl
  · cases h
    rfl

theorem processSni_pushes :
    Pushes (Answerable config hello) [ExtensionType.serverName] s (processSni hello forResume s) := by
  unfold processSni
  split_ifs with hreq
  · obtain ⟨req, hsni⟩ := Option.isSome_iff_exists.mp hreq.2
    exact AppendsIn.push (.inl (ClientHelloPayload.serverName_mem_of_getSniExtension hsni))
  · exact AppendsIn.refl _ _

theorem processOcsp_pushes :
    Pushes (Answerable config hello) [ExtensionType.statusRequest] s (processOcsp hello forResume s) := by
  unfold processOcsp
  split_ifs with hreq
  · exact AppendsIn.push (offered_of_findExtension hreq.2)
  · exact AppendsIn.refl _ _
  · exact AppendsIn.refl _ _

theorem processSct_pushes (h : processSct hello forResume s = .ok s') :
    Pushes (Answerable config hello) [ExtensionType.sct] s s' := by
  unfold processSct at h
  split_ifs at h with hreq hver
  · split at h
    · rename_i sctList _
      obtain ⟨ext, hext, h⟩ := bind_eq_ok.mp h
      cases h
      unfold makeSct at hext
      obtain ⟨scts, -, hext⟩ := bind_eq_ok.mp hext
      cases hext
      exact AppendsIn.push (offered_of_findExtension hreq.2)
    · cases h
      exact AppendsIn.refl _ _
  · cases h
    exact AppendsIn.refl _ _
  · cases h
    exact AppendsIn.refl _ _

/-- The token that `process_tcpls` pushes. -/
def tcplsTokenExt (common : CommonState) : ServerExtension :=
  .tcplsToken ⟨ExtensionType.tcplsToken, toBeBytes 8 common.tcplsToken⟩

theorem processTcpls_pushes :
    Pushes (Answerable config hello) [ExtensionType.tcpls, ExtensionType.tcplsToken] s
      (processTcpls config hello s) := by
  unfold processTcpls
  split_ifs with hboth
  · have htcpls : ExtensionType.tcpls ∈ hello.extensions.map ClientExtension.getType :=
      ClientHelloPayload.findExtension_isSome_iff.mp hboth.1
    have htcplsAck : Pushes (Answerable config hello) [ExtensionType.tcpls] s
        ({ s with common := { s.common with otherTcplsEnabled := true } }.push .tcpls) :=
      AppendsIn.push (.inl htcpls)
    exact htcplsAck.trans (AppendsIn.push (x := tcplsTokenExt s.common) (.inr ⟨rfl, htcpls, hboth.2⟩))
  · exact AppendsIn.refl _ _

/-- `process_common` pushes answers in `commonOrder`, then the extra extensions. -/
theorem processCommon_appendsIn {extraExts : List ServerExtension}
    (hextra : ∀ e ∈ extraExts, Answerable config hello e.getType)
    (h : processCommon config hello forResume extraExts s = .ok (.ok s')) :
    Pushes (Answerable config hello) (commonOrder ++ extraExts.map ServerExtension.getType) s s' := by
  unfold processCommon at h
  split at h
  · cases h
  · rename_i s₁ h₁
    obtain ⟨s₀, halpn, hquic⟩ := bind_eq_ok.mp h₁
    obtain ⟨s₂, hsct, h⟩ := bind_eq_ok.mp h
    cases h
    have hext : Pushes (Answerable config hello) (extraExts.map ServerExtension.getType)
        (processTcpls config hello s₂) ((processTcpls config hello s₂).extend extraExts) :=
      ⟨extraExts, rfl, List.Sublist.refl _, hextra⟩
    have hquic' : Pushes (Answerable config hello) [] s₀ s₁ := by
      rw [Pushes, processQuic_exts hquic]
      exact AppendsIn.refl _ _
    have hall := ((((((processAlpn_pushes halpn).trans hquic').trans processSni_pushes).trans
      processOcsp_pushes).trans (processSct_pushes hsct)).trans processTcpls_pushes).trans hext
    exact hall

theorem processReneg_pushes :
    Pushes (Answerable12 config hello) [ExtensionType.renegotiationInfo] s (processReneg hello s) := by
  unfold processReneg
  split_ifs
  · exact AppendsIn.push (.inr rfl)
  · exact AppendsIn.refl _ _

theorem processTickets_pushes :
    Pushes (Answerable12 config hello) [ExtensionType.sessionTicket] s
      (processTickets config hello s) := by
  unfold processTickets
  split_ifs with hticket
  · exact AppendsIn.push (.inl (offered_of_findExtension hticket.1))
  · exact AppendsIn.refl _ _

theorem processEms_pushes (hems : hello.emsSupportOffered = true) (usingEms : Bool) :
    Pushes (Answerable12 config hello) [ExtensionType.extendedMasterSecret] s
      (processEms usingEms s) := by
  unfold processEms
  split_ifs
  · exact AppendsIn.push (.inl (offered_of_findExtension hems))
  · exact AppendsIn.refl _ _

/-- `process_tls12` pushes answers in `tls12Order`, given the server's
`using_ems`, which is set from the ClientHello. -/
theorem processTls12_pushes :
    Pushes (Answerable12 config hello) tls12Order s
      (processTls12 config hello hello.emsSupportOffered s) := by
  have hems : Pushes (Answerable12 config hello) [ExtensionType.extendedMasterSecret]
      (processTickets config hello (processReneg hello s))
      (processEms hello.emsSupportOffered (processTickets config hello (processReneg hello s))) := by
    cases hoffered : hello.emsSupportOffered
    · exact AppendsIn.refl _ _
    · exact processEms_pushes hoffered true
  exact (processReneg_pushes.trans processTickets_pushes).trans hems

theorem mem_processTcpls (hboth : (hello.findExtension ExtensionType.tcpls).isSome ∧
      config.tcplsEnabled) : tcplsTokenExt s.common ∈ (processTcpls config hello s).ep.exts := by
  simp [processTcpls, hboth, tcplsTokenExt]

/-- Both sides enabling TCPLS, `process_common` answers with the token. -/
theorem tcplsToken_mem_processCommon {extraExts : List ServerExtension}
    (hboth : (hello.findExtension ExtensionType.tcpls).isSome ∧ config.tcplsEnabled)
    (h : processCommon config hello forResume extraExts s = .ok (.ok s')) :
    ExtensionType.tcplsToken ∈ s'.ep.exts.map ServerExtension.getType := by
  unfold processCommon at h
  split at h
  · cases h
  · obtain ⟨s₂, -, h⟩ := bind_eq_ok.mp h
    cases h
    have hmem := List.mem_map_of_mem (f := ServerExtension.getType) (mem_processTcpls (s := s₂) hboth)
    rw [Processing.extend_exts, List.map_append]
    exact List.mem_append_left _ hmem

/-- The TLS 1.2 ServerHello selects no compression. -/
theorem emitServerHello_compressionMethod {common : CommonState} {sessionId : SessionID}
    {suite : Nat} {usingEms : Bool} {ocspResponse sctList : Option (List UInt8)} {random : Random}
    {extraExts : List ServerExtension} {sh : ServerHelloPayload}
    (h : emitServerHello config common sessionId suite usingEms ocspResponse sctList
      hello forResume random extraExts = .ok (.ok (sh, s'))) :
    sh.compressionMethod = Compression.null := by
  unfold emitServerHello at h
  obtain ⟨r, -, h⟩ := bind_eq_ok.mp h
  split at h
  · cases h
  · cases h
    rfl

/-- The extensions of the TLS 1.2 ServerHello: those of `process_common`,
then those of `process_tls12`. -/
theorem emitServerHello_appendsIn {common : CommonState} {sessionId : SessionID} {suite : Nat}
    {ocspResponse sctList : Option (List UInt8)} {random : Random}
    {extraExts : List ServerExtension} {sh : ServerHelloPayload}
    (hextra : ∀ e ∈ extraExts, Answerable config hello e.getType)
    (h : emitServerHello config common sessionId suite hello.emsSupportOffered ocspResponse sctList
      hello forResume random extraExts = .ok (.ok (sh, s'))) :
    AppendsIn ServerExtension.getType (Answerable12 config hello)
      (commonOrder ++ extraExts.map ServerExtension.getType ++ tls12Order) [] sh.extensions := by
  unfold emitServerHello at h
  obtain ⟨r, hr, h⟩ := bind_eq_ok.mp h
  split at h
  · cases h
  · rename_i s₁
    cases h
    have hcommon : Pushes (Answerable12 config hello)
        (commonOrder ++ extraExts.map ServerExtension.getType) ⟨.new, common, ocspResponse, sctList⟩ s₁ :=
      (processCommon_appendsIn hextra hr).mono (List.Sublist.refl _) fun _ ha => Or.inl ha
    exact hcommon.trans processTls12_pushes

/-- `process_tls12` keeps every answer already pushed. -/
theorem mem_processTls12 {usingEms : Bool} {e : ServerExtension} (he : e ∈ s.ep.exts) :
    e ∈ (processTls12 config hello usingEms s).ep.exts := by
  unfold processTls12 processEms processTickets processReneg
  split_ifs <;> simp [he]

/-- Both sides enabling TCPLS, the TLS 1.2 ServerHello carries the token. -/
theorem tcplsToken_mem_emitServerHello {common : CommonState} {sessionId : SessionID}
    {suite : Nat} {usingEms : Bool} {ocspResponse sctList : Option (List UInt8)} {random : Random}
    {extraExts : List ServerExtension} {sh : ServerHelloPayload}
    (hboth : (hello.findExtension ExtensionType.tcpls).isSome ∧ config.tcplsEnabled)
    (h : emitServerHello config common sessionId suite usingEms ocspResponse sctList
      hello forResume random extraExts = .ok (.ok (sh, s'))) :
    ExtensionType.tcplsToken ∈ sh.extensions.map ServerExtension.getType := by
  unfold emitServerHello at h
  obtain ⟨r, hr, h⟩ := bind_eq_ok.mp h
  split at h
  · cases h
  · rename_i s₁
    cases h
    have htoken := tcplsToken_mem_processCommon hboth hr
    obtain ⟨e, he, htyp⟩ := List.mem_map.mp htoken
    exact List.mem_map.mpr ⟨e, mem_processTls12 he, htyp⟩

/-- The TLS 1.3 EncryptedExtensions: those of `process_common`, then the
early-data acknowledgement. -/
theorem emitEncryptedExtensions_appendsIn {common : CommonState}
    {ocspResponse sctList : Option (List UInt8)} {extraExts : List ServerExtension}
    {resumeAllows : Bool} {exts : List ServerExtension} {decision : EarlyDataDecision}
    (hextra : ∀ e ∈ extraExts, Answerable config hello e.getType)
    (h : emitEncryptedExtensions common ocspResponse sctList hello forResume extraExts config
      resumeAllows = .ok (.ok (exts, decision, s'))) :
    AppendsIn ServerExtension.getType (Answerable config hello)
      (commonOrder ++ extraExts.map ServerExtension.getType ++ [ExtensionType.earlyData]) [] exts := by
  unfold emitEncryptedExtensions at h
  obtain ⟨r, hr, h⟩ := bind_eq_ok.mp h
  split at h
  · cases h
  · rename_i s₁
    cases h
    have hearly : Pushes (Answerable config hello) [ExtensionType.earlyData] s₁
        (if decideIfEarlyDataAllowed hello resumeAllows = .accepted then s₁.push .earlyData
          else s₁) := by
      split_ifs with hacc
      · have hoffered : hello.earlyDataExtensionOffered = true := by
          unfold decideIfEarlyDataAllowed at hacc
          split_ifs at hacc with hreq
          exact hreq
        exact AppendsIn.push (offered_of_findExtension hoffered)
      · exact AppendsIn.refl _ _
    exact (processCommon_appendsIn hextra hr).trans hearly

end Answers

end TcplsBasics.Ports.Server.Hs
