import TcplsBasics.Ports.Msgs.Handshake
import TcplsBasics.Ports.Error

/-!
# The version and suite a server settles on (`server/hs.rs`, `suites.rs`)

`ExpectClientHello::with_certified_key` first picks the protocol version
from the client's `supported_versions` extension, or from the legacy
`client_version` when there is none, against the versions the server enables.
Then the cert resolver chooses a key, and the server's suites are reduced to
those usable with the key's signature algorithm (`reduce_given_sigalg`) and of
that version (`reduce_given_version`).  One of the two selection loops then
picks the suite: the client's order (`choose_ciphersuite_preferring_client`),
or the server's when `ignore_client_order` is set
(`choose_ciphersuite_preferring_server`).

A suite is known by its id, its version and, under TLS 1.2, the signature
schemes it signs with.  The cert resolver is left open: `with_certified_key`
is taken at any key the resolver returns, and the signature schemes it is
offered, which only the resolver reads, are left out.

`ServerConfig` is built by `ConfigBuilder::with_protocol_versions`, which
refuses a configuration with no suite of an enabled version; `SuiteConfig`
carries that as a field, proved of every configuration the builder accepts
(`SuiteConfig.build`).  Without it, a server that enables neither version
would answer a legacy ClientHello with TLS 1.2.

## Main results

* `chooseVersion_agreed`: the version is one both sides support.
* `chooseCiphersuitePreferringServer_eq_some`,
  `chooseCiphersuitePreferringClient_eq_some`: what each loop picks.
* `withCertifiedKey_negotiates`: the version and suite are supported on both
  sides, the suite is the first acceptable one in the preferred order, and
  with no acceptable suite the handshake fails with `NoCipherSuitesInCommon`.
-/

namespace TcplsBasics.Ports.Server.Negotiation

open TcplsBasics.Verified.Rust
open TcplsBasics.Ports.Errors TcplsBasics.Ports.Msgs.Extensions TcplsBasics.Ports.Msgs.Handshake

/-! ## Suites -/

/-- `SignatureAlgorithm`. -/
inductive SignatureAlgorithm where
  | anonymous
  | rsa
  | dsa
  | ecdsa
  | ed25519
  | ed448
  | unknown (x : Nat)
deriving DecidableEq, Repr

/-- `SignatureScheme::sign`: the algorithm of a scheme, `Unknown(0)` for the
EdDSA schemes and every other one. -/
def sign (scheme : Nat) : SignatureAlgorithm :=
  if scheme ∈ [0x0201, 0x0401, 0x0501, 0x0601, 0x0804, 0x0805, 0x0806] then .rsa
  else if scheme ∈ [0x0403, 0x0503, 0x0603] then .ecdsa
  else .unknown 0

/-- `SupportedCipherSuite`: a TLS 1.2 suite with the schemes it signs with,
or a TLS 1.3 suite. -/
inductive SupportedCipherSuite where
  | tls12 (suite : Nat) (sign : List Nat)
  | tls13 (suite : Nat)
deriving DecidableEq, Repr

namespace SupportedCipherSuite

/-- `SupportedCipherSuite::suite`. -/
def suite : SupportedCipherSuite → Nat
  | tls12 suite _ => suite
  | tls13 suite => suite

/-- `SupportedCipherSuite::version().version`. -/
def version : SupportedCipherSuite → Nat
  | tls12 .. => ProtocolVersion.tlsv1_2
  | tls13 _ => ProtocolVersion.tlsv1_3

/-- `SupportedCipherSuite::usable_for_signature_algorithm`: any key under
TLS 1.3. -/
def usableForSignatureAlgorithm (s : SupportedCipherSuite) (sigAlg : SignatureAlgorithm) : Bool :=
  match s with
  | tls13 _ => true
  | tls12 _ schemes => schemes.any fun scheme => sign scheme = sigAlg

end SupportedCipherSuite

/-- `choose_ciphersuite_preferring_client`: the first client suite the server
has, the server's first suite of that id. -/
def chooseCiphersuitePreferringClient (clientSuites : List Nat)
    (serverSuites : List SupportedCipherSuite) : Option SupportedCipherSuite :=
  clientSuites.findSome? fun clientSuite => serverSuites.find? fun x => clientSuite == x.suite

/-- `choose_ciphersuite_preferring_server`: the first server suite the client
offers. -/
def chooseCiphersuitePreferringServer (clientSuites : List Nat)
    (serverSuites : List SupportedCipherSuite) : Option SupportedCipherSuite :=
  serverSuites.find? fun x => clientSuites.contains x.suite

/-- `reduce_given_sigalg`. -/
def reduceGivenSigalg (all : List SupportedCipherSuite) (sigalg : SignatureAlgorithm) :
    List SupportedCipherSuite :=
  all.filter fun suite => suite.usableForSignatureAlgorithm sigalg

/-- `reduce_given_version`. -/
def reduceGivenVersion (all : List SupportedCipherSuite) (version : Nat) :
    List SupportedCipherSuite :=
  all.filter fun suite => suite.version == version

-- `test_client_pref` and `test_server_pref`: `TLS13_AES_128_GCM_SHA256` is
-- `0x1301`, `TLS13_AES_256_GCM_SHA384` is `0x1302`
example : chooseCiphersuitePreferringClient [0x1301, 0x1302] [.tls13 0x1302, .tls13 0x1301]
    = some (.tls13 0x1301) := by decide

example : chooseCiphersuitePreferringServer [0x1301, 0x1302] [.tls13 0x1302, .tls13 0x1301]
    = some (.tls13 0x1302) := by decide

/-! ## The server's configuration -/

/-- `EnabledVersions`. -/
structure EnabledVersions where
  tls12 : Bool
  tls13 : Bool
deriving DecidableEq, Repr

/-- `EnabledVersions::contains`. -/
def EnabledVersions.contains (ev : EnabledVersions) (version : Nat) : Bool :=
  if version = ProtocolVersion.tlsv1_2 then ev.tls12
  else if version = ProtocolVersion.tlsv1_3 then ev.tls13
  else false

/-- One turn of the loop of `EnabledVersions::new`. -/
def EnabledVersions.set (ev : EnabledVersions) (v : Nat) : EnabledVersions :=
  if v = ProtocolVersion.tlsv1_2 then { ev with tls12 := true }
  else if v = ProtocolVersion.tlsv1_3 then { ev with tls13 := true }
  else ev

/-- `EnabledVersions::new`: each TLS 1.2 or TLS 1.3 entry of `versions` sets
its flag. -/
def EnabledVersions.new (versions : List Nat) : EnabledVersions :=
  versions.foldl EnabledVersions.set ⟨false, false⟩

/-- What `with_protocol_versions` hands to the next builder state. -/
structure WantsVerifier where
  cipherSuites : List SupportedCipherSuite
  kxGroups : List Nat
  versions : EnabledVersions
deriving DecidableEq, Repr

/-- `ConfigBuilder::with_protocol_versions`: a configuration with no suite of
one of `versions`, or with no key-exchange group, is refused. -/
def withProtocolVersions (cipherSuites : List SupportedCipherSuite) (kxGroups : List Nat)
    (versions : List Nat) : Except Error WantsVerifier :=
  if !cipherSuites.any fun suite => versions.contains suite.version then
    .error (.general "no usable cipher suites configured")
  else if kxGroups.isEmpty then .error (.general "no kx groups configured")
  else .ok ⟨cipherSuites, kxGroups, EnabledVersions.new versions⟩

/-- A turn of the loop sets the flag of `v` exactly when its entry is `v`. -/
theorem EnabledVersions.contains_set (ev : EnabledVersions) (w : Nat) {v : Nat}
    (hv : v = ProtocolVersion.tlsv1_2 ∨ v = ProtocolVersion.tlsv1_3) :
    (ev.set w).contains v = (ev.contains v || w == v) := by
  unfold EnabledVersions.set
  rcases hv with rfl | rfl <;> split_ifs with h12 h13 <;>
    simp_all [EnabledVersions.contains, ProtocolVersion.tlsv1_2, ProtocolVersion.tlsv1_3]

theorem EnabledVersions.contains_foldl (versions : List Nat) (ev : EnabledVersions) {v : Nat}
    (hv : v = ProtocolVersion.tlsv1_2 ∨ v = ProtocolVersion.tlsv1_3) :
    (versions.foldl EnabledVersions.set ev).contains v = (ev.contains v || versions.contains v) := by
  induction versions generalizing ev with
  | nil => simp
  | cons w versions ih =>
    rw [List.foldl_cons, ih, EnabledVersions.contains_set _ _ hv, List.contains_cons, Bool.or_assoc, BEq.comm]

/-- The enabled versions hold a suite's version exactly when `versions` does. -/
theorem EnabledVersions.contains_new (versions : List Nat) (suite : SupportedCipherSuite) :
    (EnabledVersions.new versions).contains suite.version = versions.contains suite.version := by
  have hv : suite.version = ProtocolVersion.tlsv1_2 ∨ suite.version = ProtocolVersion.tlsv1_3 := by
    cases suite <;> simp [SupportedCipherSuite.version]
  rw [EnabledVersions.new, EnabledVersions.contains_foldl _ _ hv]
  rcases hv with h | h <;> rw [h] <;> rfl

/-- What `with_protocol_versions` accepts has a suite of an enabled version. -/
theorem withProtocolVersions_usable {cipherSuites : List SupportedCipherSuite} {kxGroups versions : List Nat}
    {wv : WantsVerifier} (h : withProtocolVersions cipherSuites kxGroups versions = .ok wv) :
    ∃ suite ∈ wv.cipherSuites, wv.versions.contains suite.version = true := by
  unfold withProtocolVersions at h
  split_ifs at h with hany hkx
  cases h
  have hany' : (cipherSuites.any fun suite => versions.contains suite.version) = true := by
    revert hany
    cases cipherSuites.any fun suite => versions.contains suite.version <;> simp
  obtain ⟨suite, hmem, hcontains⟩ := List.any_eq_true.mp hany'
  exact ⟨suite, hmem, by rw [EnabledVersions.contains_new]; exact hcontains⟩

/-- The fields of `ServerConfig` that `with_certified_key` reads, with the
check of `with_protocol_versions`: some suite has an enabled version. -/
structure SuiteConfig where
  cipherSuites : List SupportedCipherSuite
  versions : EnabledVersions
  ignoreClientOrder : Bool
  usable : ∃ suite ∈ cipherSuites, versions.contains suite.version = true

/-- The configuration a builder chain makes: `with_protocol_versions`, then
the verifier and the certificate resolver, which `with_certified_key` does
not read, and `ignore_client_order`. -/
def SuiteConfig.build (cipherSuites : List SupportedCipherSuite) (kxGroups versions : List Nat)
    (ignoreClientOrder : Bool) : Except Error SuiteConfig :=
  match h : withProtocolVersions cipherSuites kxGroups versions with
  | .ok wv => .ok ⟨wv.cipherSuites, wv.versions, ignoreClientOrder, withProtocolVersions_usable h⟩
  | .error e => .error e

-- `with_safe_defaults` with TLS 1.2 only, over TLS 1.3 suites alone, is refused
example : (SuiteConfig.build [.tls13 0x1302, .tls13 0x1301] [0x001d] [ProtocolVersion.tlsv1_2] false).toBool
    = false := by decide

/-- `ServerConfig::supports_version`. -/
def SuiteConfig.supportsVersion (config : SuiteConfig) (v : Nat) : Bool :=
  config.versions.contains v && config.cipherSuites.any fun cs => cs.version == v

/-! ## `with_certified_key` -/

/-- `bad_version`: a `ProtocolVersion` alert. -/
def badVersion (why : PeerIncompatible) : Fatal := ⟨some .protocolVersion, .peerIncompatible why⟩

/-- `hs::incompatible`: a `HandshakeFailure` alert. -/
def incompatible (why : PeerIncompatible) : Fatal := ⟨some .handshakeFailure, .peerIncompatible why⟩

/-- The version `with_certified_key` picks, or the alert it sends. -/
def chooseVersion (config : SuiteConfig) (hello : ClientHelloPayload) (isQuic : Bool) :
    Except Fatal Nat :=
  let tls13Enabled := config.supportsVersion ProtocolVersion.tlsv1_3
  let tls12Enabled := config.supportsVersion ProtocolVersion.tlsv1_2
  match hello.getVersionsExtension with
  | some versions =>
    if versions.contains ProtocolVersion.tlsv1_3 && tls13Enabled then .ok ProtocolVersion.tlsv1_3
    else if !versions.contains ProtocolVersion.tlsv1_2 || !tls12Enabled then
      .error (badVersion .tls12NotOfferedOrEnabled)
    else if isQuic then .error (badVersion .tls13RequiredForQuic)
    else .ok ProtocolVersion.tlsv1_2
  | none =>
    if hello.clientVersion < ProtocolVersion.tlsv1_2 then .error (badVersion .tls12NotOffered)
    else if !tls12Enabled && tls13Enabled then
      .error (badVersion .supportedVersionsExtensionRequired)
    else if isQuic then .error (badVersion .tls13RequiredForQuic)
    else .ok ProtocolVersion.tlsv1_2

/-- The negotiation of `ExpectClientHello::with_certified_key`: the version,
the key the cert resolver returns (`none` when it finds none), and the suite. -/
def withCertifiedKey (config : SuiteConfig) (hello : ClientHelloPayload) (isQuic : Bool)
    (certkey : Option SignatureAlgorithm) : Except Fatal (Nat × SupportedCipherSuite) := do
  let version ← chooseVersion config hello isQuic
  let sigalg ← match certkey with
    | some sigalg => .ok sigalg
    | none => .error ⟨some .accessDenied, .general "no server certificate chain resolved"⟩
  let suitableSuites := reduceGivenSigalg config.cipherSuites sigalg
  let suitableSuites := reduceGivenVersion suitableSuites version
  let suite := if config.ignoreClientOrder then
      chooseCiphersuitePreferringServer hello.cipherSuites suitableSuites
    else chooseCiphersuitePreferringClient hello.cipherSuites suitableSuites
  match suite with
  | some suite => .ok (version, suite)
  | none => .error (incompatible .noCipherSuitesInCommon)

/-! ## What the negotiation guarantees -/

/-- A version both sides support: TLS 1.3 when the client lists it and the
server enables it, otherwise TLS 1.2, offered by the client (in
`supported_versions`, or by `client_version` when that is absent) and enabled
by the server. -/
def VersionAgreed (config : SuiteConfig) (hello : ClientHelloPayload) (version : Nat) : Prop :=
  version = ProtocolVersion.tlsv1_3 ∧
      (∃ versions, hello.getVersionsExtension = some versions ∧ ProtocolVersion.tlsv1_3 ∈ versions) ∧
      config.supportsVersion ProtocolVersion.tlsv1_3 = true ∨
    version = ProtocolVersion.tlsv1_2 ∧
      (match hello.getVersionsExtension with
        | some versions => ProtocolVersion.tlsv1_2 ∈ versions
        | none => ProtocolVersion.tlsv1_2 ≤ hello.clientVersion) ∧
      config.supportsVersion ProtocolVersion.tlsv1_2 = true

/-- A suite the server may use for the client, the version and the key: the
client offers it, it is of the version, and the key can sign for it. -/
structure Acceptable (hello : ClientHelloPayload) (version : Nat) (sigalg : SignatureAlgorithm)
    (s : SupportedCipherSuite) : Prop where
  offered : s.suite ∈ hello.cipherSuites
  version_eq : s.version = version
  usable : s.usableForSignatureAlgorithm sigalg = true

/-- The server's suites of the version the key can sign for, as a predicate. -/
theorem suitable_iff {hello : ClientHelloPayload} {version : Nat} {sigalg : SignatureAlgorithm}
    (s : SupportedCipherSuite) :
    (s.usableForSignatureAlgorithm sigalg && s.version == version &&
        hello.cipherSuites.contains s.suite) = true ↔ Acceptable hello version sigalg s := by
  simp only [Bool.and_eq_true, beq_iff_eq, List.contains_iff_mem]
  exact ⟨fun ⟨⟨hu, hv⟩, ho⟩ => ⟨ho, hv, hu⟩, fun h => ⟨⟨h.usable, h.version_eq⟩, h.offered⟩⟩

/-- A search in the reduced suites is one in the server's suites. -/
theorem find?_reduce (all : List SupportedCipherSuite) (sigalg : SignatureAlgorithm) (version : Nat)
    (p : SupportedCipherSuite → Bool) :
    (reduceGivenVersion (reduceGivenSigalg all sigalg) version).find? p
      = all.find? fun s => s.usableForSignatureAlgorithm sigalg && s.version == version && p s := by
  induction all with
  | nil => rfl
  | cons s all ih =>
      unfold reduceGivenVersion reduceGivenSigalg at ih ⊢
      by_cases hu : s.usableForSignatureAlgorithm sigalg = true
      · by_cases hv : (s.version == version) = true
        · -- `s` is kept: both searches look at it first
          simp only [List.filter_cons, hu, hv, if_true, List.find?_cons, Bool.true_and]
          cases p s
          · exact ih
          · rfl
        · simp only [List.filter_cons, hu, hv, if_true, List.find?_cons, Bool.true_and,
            Bool.false_and]
          exact ih
      · simp only [List.filter_cons, hu, List.find?_cons, Bool.false_and]
        exact ih

theorem supportsVersion_of_usable (config : SuiteConfig) :
    config.supportsVersion ProtocolVersion.tlsv1_2 = true ∨
      config.supportsVersion ProtocolVersion.tlsv1_3 = true := by
  obtain ⟨s, hs, hcontains⟩ := config.usable
  have hany : ∀ v, s.version = v → config.cipherSuites.any (fun cs => cs.version == v) = true :=
    fun v hv => List.any_eq_true.mpr ⟨s, hs, by simp [hv]⟩
  cases s with
  | tls12 suite schemes =>
      left
      simp only [SuiteConfig.supportsVersion, Bool.and_eq_true]
      exact ⟨hcontains, hany _ rfl⟩
  | tls13 suite =>
      right
      simp only [SuiteConfig.supportsVersion, Bool.and_eq_true]
      exact ⟨hcontains, hany _ rfl⟩

/-- **The version both sides support.** -/
theorem chooseVersion_agreed {config : SuiteConfig} {hello : ClientHelloPayload} {isQuic : Bool}
    {version : Nat} (h : chooseVersion config hello isQuic = .ok version) :
    VersionAgreed config hello version := by
  unfold chooseVersion at h
  unfold VersionAgreed
  cases hext : hello.getVersionsExtension with
  | some versions =>
      rw [hext] at h
      dsimp only at h
      split_ifs at h with h13 h12 hquic
      · cases h
        simp only [Bool.and_eq_true, List.contains_iff_mem] at h13
        exact .inl ⟨rfl, ⟨versions, rfl, h13.1⟩, h13.2⟩
      · cases h
        simp only [Bool.or_eq_true, Bool.not_eq_true', List.contains_iff_mem, not_or,
          Bool.not_eq_false] at h12
        exact .inr ⟨rfl, by simpa using h12.1, by simpa using h12.2⟩
  | none =>
      rw [hext] at h
      dsimp only at h
      split_ifs at h with hlegacy h12 hquic
      cases h
      have h12 : config.supportsVersion ProtocolVersion.tlsv1_2 = true := by
        rcases supportsVersion_of_usable config with h | h
        · exact h
        · simpa [h] using h12
      exact .inr ⟨rfl, by omega, h12⟩

/-- **The server's preference.**  The suite picked is the first acceptable
suite of the server. -/
theorem chooseCiphersuitePreferringServer_eq_some {config : SuiteConfig}
    {hello : ClientHelloPayload} {version : Nat} {sigalg : SignatureAlgorithm}
    {suite : SupportedCipherSuite}
    (h : chooseCiphersuitePreferringServer hello.cipherSuites
      (reduceGivenVersion (reduceGivenSigalg config.cipherSuites sigalg) version) = some suite) :
    Acceptable hello version sigalg suite ∧ ∃ pre post, config.cipherSuites = pre ++ suite :: post ∧
      ∀ s ∈ pre, ¬ Acceptable hello version sigalg s := by
  rw [chooseCiphersuitePreferringServer, find?_reduce, List.find?_eq_some_iff_append] at h
  obtain ⟨hsuite, pre, post, hsplit, hpre⟩ := h
  refine ⟨(suitable_iff suite).mp hsuite, pre, post, hsplit, fun s hs hacc => ?_⟩
  have := hpre s hs
  rw [(suitable_iff s).mpr hacc] at this
  cases this

/-- **The client's preference.**  The suite picked has the first id of the
client for which the server has an acceptable suite, and is the server's
first acceptable suite of that id. -/
theorem chooseCiphersuitePreferringClient_eq_some {config : SuiteConfig}
    {hello : ClientHelloPayload} {version : Nat} {sigalg : SignatureAlgorithm}
    {suite : SupportedCipherSuite}
    (h : chooseCiphersuitePreferringClient hello.cipherSuites
      (reduceGivenVersion (reduceGivenSigalg config.cipherSuites sigalg) version) = some suite) :
    Acceptable hello version sigalg suite ∧
      (∃ pre post, hello.cipherSuites = pre ++ suite.suite :: post ∧
        ∀ c ∈ pre, ∀ s ∈ config.cipherSuites, Acceptable hello version sigalg s → s.suite ≠ c) ∧
      ∃ pre post, config.cipherSuites = pre ++ suite :: post ∧
        ∀ s ∈ pre, Acceptable hello version sigalg s → s.suite ≠ suite.suite := by
  rw [chooseCiphersuitePreferringClient, List.findSome?_eq_some_iff] at h
  obtain ⟨preC, c, postC, hclient, hfind, hbefore⟩ := h
  rw [find?_reduce, List.find?_eq_some_iff_append] at hfind
  obtain ⟨hsuite, pre, post, hsplit, hpre⟩ := hfind
  simp only [Bool.and_eq_true, beq_iff_eq] at hsuite
  have hc : c = suite.suite := hsuite.2
  subst hc
  have hacc : Acceptable hello version sigalg suite :=
    ⟨by rw [hclient]; simp, hsuite.1.2, hsuite.1.1⟩
  refine ⟨hacc, ⟨preC, postC, hclient, ?_⟩, pre, post, hsplit, ?_⟩
  · -- no earlier id of the client matches an acceptable suite
    intro c hcpre s hs hsacc hsc
    have hnone := hbefore c hcpre
    rw [find?_reduce, List.find?_eq_none] at hnone
    exact hnone s hs (by simp [hsacc.usable, hsacc.version_eq, hsc])
  · intro s hs hsacc hsid
    have := hpre s hs
    simp [hsacc.usable, hsacc.version_eq, hsid] at this

/-- With no acceptable suite, neither loop picks one. -/
theorem choose_eq_none {config : SuiteConfig} {hello : ClientHelloPayload} {version : Nat}
    {sigalg : SignatureAlgorithm}
    (h : ∀ s ∈ config.cipherSuites, ¬ Acceptable hello version sigalg s) :
    chooseCiphersuitePreferringServer hello.cipherSuites
        (reduceGivenVersion (reduceGivenSigalg config.cipherSuites sigalg) version) = none ∧
      chooseCiphersuitePreferringClient hello.cipherSuites
        (reduceGivenVersion (reduceGivenSigalg config.cipherSuites sigalg) version) = none := by
  constructor
  · rw [chooseCiphersuitePreferringServer, find?_reduce, List.find?_eq_none]
    intro s hs hsuit
    exact h s hs ((suitable_iff s).mp hsuit)
  · rw [chooseCiphersuitePreferringClient, List.findSome?_eq_none_iff]
    intro c hc
    rw [find?_reduce, List.find?_eq_none]
    intro s hs hsuit
    simp only [Bool.and_eq_true, beq_iff_eq] at hsuit
    exact h s hs ⟨by rw [← hsuit.2]; exact hc, hsuit.1.2, hsuit.1.1⟩

/-- **What the server settles on.**  For any key the cert resolver returns:
when `with_certified_key` goes on with a version and a suite, the version is
one both sides support, and the suite is one of the server's, acceptable to
the client for that version and key, and the first such in the client's order
(the server's when `ignore_client_order` is set).  When the version is settled
and no suite is acceptable, the handshake fails with `NoCipherSuitesInCommon`. -/
theorem withCertifiedKey_negotiates (config : SuiteConfig) (hello : ClientHelloPayload)
    (isQuic : Bool) (sigalg : SignatureAlgorithm) :
    (∀ version suite, withCertifiedKey config hello isQuic (some sigalg) = .ok (version, suite) →
      VersionAgreed config hello version ∧ suite ∈ config.cipherSuites ∧
        Acceptable hello version sigalg suite ∧
        if config.ignoreClientOrder then
          ∃ pre post, config.cipherSuites = pre ++ suite :: post ∧
            ∀ s ∈ pre, ¬ Acceptable hello version sigalg s
        else
          (∃ pre post, hello.cipherSuites = pre ++ suite.suite :: post ∧
            ∀ c ∈ pre, ∀ s ∈ config.cipherSuites, Acceptable hello version sigalg s → s.suite ≠ c) ∧
          ∃ pre post, config.cipherSuites = pre ++ suite :: post ∧
            ∀ s ∈ pre, Acceptable hello version sigalg s → s.suite ≠ suite.suite) ∧
    (∀ version, chooseVersion config hello isQuic = .ok version →
      (∀ s ∈ config.cipherSuites, ¬ Acceptable hello version sigalg s) →
      withCertifiedKey config hello isQuic (some sigalg) = .error (incompatible .noCipherSuitesInCommon)) := by
  constructor
  · intro version suite h
    unfold withCertifiedKey at h
    obtain ⟨v, hv, h⟩ := bind_eq_ok.mp h
    simp only [ok_bind] at h
    split at h
    · -- the suite the loop picked, and the version it was picked for
      rename_i picked hpick
      cases h
      refine ⟨chooseVersion_agreed hv, ?_⟩
      split at hpick
      · rename_i hserver
        obtain ⟨hacc, pre, post, hsplit, hpre⟩ := chooseCiphersuitePreferringServer_eq_some hpick
        exact ⟨by rw [hsplit]; simp, hacc, by rw [if_pos hserver]; exact ⟨pre, post, hsplit, hpre⟩⟩
      · rename_i hclient
        obtain ⟨hacc, horder, pre, post, hsplit, hpre⟩ := chooseCiphersuitePreferringClient_eq_some hpick
        exact ⟨by rw [hsplit]; simp, hacc,
          by rw [if_neg hclient]; exact ⟨horder, pre, post, hsplit, hpre⟩⟩
    · cases h
  · intro version hv hnone
    obtain ⟨hserver, hclient⟩ := choose_eq_none hnone
    unfold withCertifiedKey
    rw [hv, ok_bind]
    simp only [ok_bind]
    split
    · rename_i picked hpick
      split at hpick
      · rw [hserver] at hpick
        cases hpick
      · rw [hclient] at hpick
        cases hpick
    · rfl

/-- A server with both TLS 1.3 AES-GCM suites, the 256-bit one first. -/
def tls13Server : SuiteConfig :=
  ⟨[.tls13 0x1302, .tls13 0x1301], ⟨true, true⟩, false, ⟨.tls13 0x1302, by decide, by decide⟩⟩

/-- A TLS 1.3 ClientHello preferring the 128-bit suite. -/
def tls13Hello : ClientHelloPayload :=
  ⟨ProtocolVersion.tlsv1_2, zeroRandom, SessionID.empty, [0x1301, 0x1302], [Compression.null],
    [.supportedVersions [ProtocolVersion.tlsv1_3, ProtocolVersion.tlsv1_2]]⟩

theorem tls13Hello_negotiates :
    withCertifiedKey tls13Server tls13Hello false (some .ecdsa)
        = .ok (ProtocolVersion.tlsv1_3, .tls13 0x1301) ∧
      VersionAgreed tls13Server tls13Hello ProtocolVersion.tlsv1_3 ∧
      Acceptable tls13Hello ProtocolVersion.tlsv1_3 .ecdsa (.tls13 0x1301) := by
  have hrun : withCertifiedKey tls13Server tls13Hello false (some .ecdsa)
      = .ok (ProtocolVersion.tlsv1_3, .tls13 0x1301) := by
    decide
  obtain ⟨hagreed, -, hacc, -⟩ :=
    (withCertifiedKey_negotiates tls13Server tls13Hello false .ecdsa).1 _ _ hrun
  exact ⟨hrun, hagreed, hacc⟩

end TcplsBasics.Ports.Server.Negotiation
