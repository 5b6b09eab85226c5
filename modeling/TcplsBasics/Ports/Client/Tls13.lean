import TcplsBasics.Ports.Client.Validate

/-!
# The client's EncryptedExtensions (`client/tls13.rs`)

`ExpectEncryptedExtensions::handle` checks the server's TLS 1.3
EncryptedExtensions (`validate_encrypted_extensions`), takes the server's ALPN
protocol (`hs::process_alpn_protocol`), and then walks the extensions: `Tcpls`
records that the server enabled TCPLS, and `TcplsToken` records the session
token, the big-endian value of its payload, through
`decode_u64(..).unwrap()`.  Under QUIC the transport parameters are then
required.  What follows in `handle` only chooses the next state and is left out.

`ServerExtension::read` gives a `TcplsToken` the whole body of its extension,
whatever its length, and `validate_encrypted_extensions` lets a token through
even when the client sent none.  `decode_u64` is `None` unless the payload is
exactly eight bytes, so a token of any other length passes every check before
the loop and then panics the client at the `unwrap`.

## Main results

* `processTcplsExtensions_eq_ok`: when every token is eight bytes long, the
  loop records TCPLS and the value of the last token.
* `processTcplsExtensions_panics`: a token of any other length panics the loop.
* `encryptedExtensions_short_token_panics`: such a token, in extensions that
  pass the checks before the loop, panics the client.
-/

namespace TcplsBasics.Ports.Client.Tls13

open TcplsBasics.Verified.Rust TcplsBasics.Verified.Bytes TcplsBasics.Verified.Codec
open TcplsBasics.Ports.Errors TcplsBasics.Ports.Msgs.Extensions TcplsBasics.Ports.Msgs.Handshake
open TcplsBasics.Ports.Client.Hello TcplsBasics.Ports.Server.Hs TcplsBasics.Ports.Client.Validate

/-! ## The pieces of `handle` -/

/-- `codec::decode_u64`: the big-endian value of exactly eight bytes. -/
def decodeU64 (bytes : List UInt8) : Option Nat :=
  if bytes.length = 8 then some (fromBeBytes bytes) else none

/-- `ProtocolNameList::as_single_slice`. -/
def asSingleSlice (names : List (List UInt8)) : Option (List UInt8) :=
  match names with
  | [name] => some name
  | _ => none

/-- `find_extension` of `EncryptedExtensions`. -/
def findExtension (exts : List ServerExtension) (typ : Nat) : Option ServerExtension :=
  exts.find? fun e => e.getType = typ

/-- `get_alpn_protocol` of `EncryptedExtensions`. -/
def getAlpnProtocol (exts : List ServerExtension) : Option (List UInt8) :=
  match findExtension exts ExtensionType.alProtocolNegotiation with
  | some (.protocols protos) => asSingleSlice protos
  | _ => none

/-- `get_quic_params_extension` of `EncryptedExtensions`. -/
def getQuicParamsExtension (exts : List ServerExtension) : Option (List UInt8) :=
  match (findExtension exts ExtensionType.transportParameters).or
      (findExtension exts ExtensionType.transportParametersDraft) with
  | some (.transportParameters bytes) => some bytes
  | some (.transportParametersDraft bytes) => some bytes
  | _ => none

/-- `hs::process_alpn_protocol`: the server's protocol, which the client must
have offered; under QUIC, one is required when the client configured any. -/
def processAlpnProtocol (common : CommonState) (config : ClientConfig)
    (proto : Option (List UInt8)) : Except Fatal CommonState :=
  let common := { common with alpnProtocol := proto }
  if common.alpnProtocol.any fun p => !config.alpnProtocols.contains p then
    .error (illegalParam .selectedUnofferedApplicationProtocol)
  else if common.isQuic && common.alpnProtocol.isNone && !config.alpnProtocols.isEmpty then
    .error ⟨some .noApplicationProtocol, .noApplicationProtocol⟩
  else .ok common

/-- One turn of the `for ext in exts` loop of `handle`: `set_other_tcpls` on
`Tcpls`, `set_tcpls_token(decode_u64(..).unwrap())` on `TcplsToken`. -/
def processTcplsExtension (common : CommonState) : ServerExtension → Except Panic CommonState
  | .tcpls => .ok { common with otherTcplsEnabled := true }
  | .tcplsToken tcpls => do
      let tcplsToken ← expect (decodeU64 tcpls.payload) unwrapNone
      return { common with tcplsToken }
  | _ => .ok common

/-- The `for ext in exts` loop of `handle`. -/
def processTcplsExtensions (common : CommonState) : List ServerExtension → Except Panic CommonState
  | [] => .ok common
  | ext :: rest => processTcplsExtension common ext >>= fun common => processTcplsExtensions common rest

/-- What `ExpectEncryptedExtensions::handle` does with the extensions: the
checks, ALPN, the TCPLS loop and QUIC's transport parameters.  An `Except
Fatal` result is what `handle` returns; a panic is outside it. -/
def processEncryptedExtensions (common : CommonState) (config : ClientConfig)
    (hello : ClientHelloDetails) (exts : List ServerExtension) :
    Except Panic (Except Fatal CommonState) := do
  match validateEncryptedExtensions hello exts with
  | .error e => return .error e
  | .ok () =>
    match processAlpnProtocol common config (getAlpnProtocol exts) with
    | .error e => return .error e
    | .ok common =>
      let common ← processTcplsExtensions common exts
      if common.isQuic then
        match getQuicParamsExtension exts with
        | some params => return .ok { common with quicParams := some params }
        | none => return .error (missingExtension .missingQuicTransportParameters)
      else return .ok common

/-! ## The TCPLS loop -/

/-- The value a `TcplsToken` carries, if the extension is one. -/
def tokenValue? : ServerExtension → Option Nat
  | .tcplsToken tcpls => some (fromBeBytes tcpls.payload)
  | _ => none

/-- The token the loop keeps: the value of the last `TcplsToken`. -/
def lastToken (exts : List ServerExtension) : Option Nat := (exts.filterMap tokenValue?).getLast?

theorem decodeU64_of_length {bytes : List UInt8} (h : bytes.length = 8) :
    decodeU64 bytes = some (fromBeBytes bytes) :=
  if_pos h

theorem decodeU64_eq_none {bytes : List UInt8} (h : bytes.length ≠ 8) : decodeU64 bytes = none :=
  if_neg h

theorem lastToken_cons (e : ServerExtension) (rest : List ServerExtension) :
    lastToken (e :: rest) = (lastToken rest).or (tokenValue? e) := by
  unfold lastToken
  cases h : tokenValue? e with
  | none => simp [h]
  | some v =>
      rw [List.filterMap_cons, h]
      cases hr : (rest.filterMap tokenValue?).getLast? with
      | none =>
          rw [List.getLast?_eq_none_iff.mp hr]
          rfl
      | some w =>
          rw [List.getLast?_cons, hr]
          rfl

/-- A token that is not eight bytes long panics the turn that meets it. -/
theorem processTcplsExtension_panics (common : CommonState) {tcpls : TcplsExtension}
    (hlen : tcpls.payload.length ≠ 8) :
    processTcplsExtension common (.tcplsToken tcpls) = .error ⟨unwrapNone⟩ := by
  simp only [processTcplsExtension, decodeU64_eq_none hlen]
  rfl

/-- Every other turn writes at most the two TCPLS fields. -/
theorem processTcplsExtension_eq_ok (common : CommonState) {e : ServerExtension}
    (h : ∀ tcpls, e = .tcplsToken tcpls → tcpls.payload.length = 8) :
    processTcplsExtension common e = .ok { common with
      otherTcplsEnabled := common.otherTcplsEnabled || decide (ServerExtension.tcpls = e)
      tcplsToken := (tokenValue? e).getD common.tcplsToken } := by
  cases e with
  | tcpls => simp [processTcplsExtension, tokenValue?]
  | tcplsToken tcpls => simp [processTcplsExtension, tokenValue?, decodeU64_of_length (h tcpls rfl)]
  | _ => simp [processTcplsExtension, tokenValue?]

/-- **The loop on tokens of eight bytes.**  It does not panic; it records that
the server enabled TCPLS when some extension says so, and keeps the value of
the last token, or the token there was. -/
theorem processTcplsExtensions_eq_ok (common : CommonState) (exts : List ServerExtension)
    (h : ∀ tcpls, .tcplsToken tcpls ∈ exts → tcpls.payload.length = 8) :
    processTcplsExtensions common exts = .ok { common with
      otherTcplsEnabled := common.otherTcplsEnabled || decide (.tcpls ∈ exts)
      tcplsToken := (lastToken exts).getD common.tcplsToken } := by
  induction exts generalizing common with
  | nil => simp [processTcplsExtensions, lastToken]
  | cons e rest ih =>
      have hrest : ∀ tcpls, .tcplsToken tcpls ∈ rest → tcpls.payload.length = 8 :=
        fun tcpls ht => h tcpls (List.mem_cons_of_mem _ ht)
      rw [processTcplsExtensions, processTcplsExtension_eq_ok common
        (fun tcpls he => h tcpls (he ▸ List.mem_cons_self)), ok_bind, ih _ hrest, lastToken_cons]
      cases hl : lastToken rest <;> simp [Bool.or_assoc]

/-- A TLS 1.3 client that has not heard of TCPLS yet reads `Tcpls` and an
eight-byte token of value 7. -/
theorem eight_byte_token_recorded :
    (∀ tcpls, ServerExtension.tcplsToken tcpls ∈
        [.tcpls, .tcplsToken ⟨ExtensionType.tcplsToken, [0, 0, 0, 0, 0, 0, 0, 7]⟩] →
        tcpls.payload.length = 8) ∧
      processTcplsExtensions ⟨true, false, none, none, false, 0⟩
          [.tcpls, .tcplsToken ⟨ExtensionType.tcplsToken, [0, 0, 0, 0, 0, 0, 0, 7]⟩] =
        .ok ⟨true, false, none, none, true, 7⟩ := by
  have h : ∀ tcpls, ServerExtension.tcplsToken tcpls ∈
      [.tcpls, .tcplsToken ⟨ExtensionType.tcplsToken, [0, 0, 0, 0, 0, 0, 0, 7]⟩] →
      tcpls.payload.length = 8 := by
    intro tcpls ht
    simp only [List.mem_cons, reduceCtorEq, ServerExtension.tcplsToken.injEq, List.not_mem_nil,
      or_false, false_or] at ht
    rw [ht]
    rfl
  exact ⟨h, processTcplsExtensions_eq_ok _ _ h⟩

/-- **A short or long token panics the loop**, wherever it stands. -/
theorem processTcplsExtensions_panics (common : CommonState) {exts : List ServerExtension}
    {tcpls : TcplsExtension} (ht : .tcplsToken tcpls ∈ exts) (hlen : tcpls.payload.length ≠ 8) :
    processTcplsExtensions common exts = .error ⟨unwrapNone⟩ := by
  induction exts generalizing common with
  | nil => cases ht
  | cons e rest ih =>
      rw [processTcplsExtensions]
      by_cases hbad : ∃ t, e = .tcplsToken t ∧ t.payload.length ≠ 8
      · -- this turn panics
        obtain ⟨t, rfl, ht'⟩ := hbad
        rw [processTcplsExtension_panics common ht']
        rfl
      · -- this turn goes through, and the token is further on
        have hgood : ∀ t, e = .tcplsToken t → t.payload.length = 8 := fun t he =>
          Classical.byContradiction fun hne => hbad ⟨t, he, hne⟩
        have hrest : .tcplsToken tcpls ∈ rest := by
          rcases List.mem_cons.mp ht with he | hr
          · exact absurd (hgood tcpls he.symm) hlen
          · exact hr
        rw [processTcplsExtension_eq_ok common hgood, ok_bind, ih _ hrest]

/-! ## The handler -/

/-- **A token of another length panics the client.**  When the extensions pass
`validate_encrypted_extensions` and ALPN, which a `TcplsToken` of any length
does, one whose payload is not eight bytes makes `decode_u64(..).unwrap()`
panic. -/
theorem encryptedExtensions_short_token_panics (common : CommonState) (config : ClientConfig)
    (hello : ClientHelloDetails) (exts : List ServerExtension)
    (hvalid : validateEncryptedExtensions hello exts = .ok ()) {common' : CommonState}
    (halpn : processAlpnProtocol common config (getAlpnProtocol exts) = .ok common')
    {tcpls : TcplsExtension} (ht : .tcplsToken tcpls ∈ exts) (hlen : tcpls.payload.length ≠ 8) :
    processEncryptedExtensions common config hello exts = .error ⟨unwrapNone⟩ := by
  unfold processEncryptedExtensions
  rw [hvalid]
  dsimp only
  rw [halpn]
  dsimp only
  rw [processTcplsExtensions_panics common' ht hlen]
  rfl

/-- A client at the start of TLS 1.3, with no token yet. -/
def tls13ClientCommon : CommonState := ⟨true, false, none, none, false, 0⟩

/-- The server's answer with a four-byte token, the `u32` the comment on
`TcplsExtension` announces. -/
def shortTokenReply : List ServerExtension :=
  [.tcpls, .tcplsToken ⟨ExtensionType.tcplsToken, [0x00, 0x00, 0x00, 0x07]⟩]

theorem short_token_reply_panics :
    readVec 2 ServerExtension.read (encodeVec 2 ServerExtension.encode shortTokenReply)
        = some (shortTokenReply, []) ∧
      validateEncryptedExtensions (detailsOf tcplsHello) shortTokenReply = .ok () ∧
      processAlpnProtocol tls13ClientCommon tcplsDualConfig (getAlpnProtocol shortTokenReply)
        = .ok tls13ClientCommon ∧
      processEncryptedExtensions tls13ClientCommon tcplsDualConfig (detailsOf tcplsHello)
        shortTokenReply = .error ⟨unwrapNone⟩ := by
  have hvalid : validateEncryptedExtensions (detailsOf tcplsHello) shortTokenReply = .ok () := by
    decide
  have halpn : processAlpnProtocol tls13ClientCommon tcplsDualConfig
      (getAlpnProtocol shortTokenReply) = .ok tls13ClientCommon := by
    decide
  refine ⟨by decide, hvalid, halpn, ?_⟩
  have htoken : ServerExtension.tcplsToken ⟨ExtensionType.tcplsToken, [0x00, 0x00, 0x00, 0x07]⟩
      ∈ shortTokenReply := by
    decide
  exact encryptedExtensions_short_token_panics _ _ _ _ hvalid halpn htoken (by decide)

end TcplsBasics.Ports.Client.Tls13
