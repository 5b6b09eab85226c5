import TcplsBasics.Ports.Msgs.Handshake
import TcplsBasics.Ports.Msgs.Enums

/-!
# Server session values (`msgs/persist.rs`)

A TLS server keeps what it needs to resume a session in a
`ServerSessionValue`, and stores its encoding in the session cache or seals
it in a ticket.  The encoding lays the fields out one after the other: each
optional field behind a flag byte, the SNI as a `u8` block, the version and
suite as their `u16` codes, the client's certificate chain as a `u24` vector
that `read` refuses past `0x10000` bytes, the times as `u64` and `u32`.

`read` takes back every field from the encoding whenever the blocks fit their
prefixes, the SNI is a name webpki accepts, and the version and suite are
canonical (`ServerSessionValue.read_encode`).  The last condition is the
`enum_builder!` one: `Unknown(0x0303)` goes out as `0x0303` and comes back
as `TLSv1_2`, which the derived `PartialEq` tells apart
(`unknown_version_reads_as_tls12`).

`webpki::DnsName` is the bytes of the name; webpki's check is the parameter
`validDnsName`, and turning a checked name into a `DnsName` and back to
`&str` keeps its bytes.
-/

namespace TcplsBasics.Ports.Msgs.Persist

open TcplsBasics.Verified.Codec TcplsBasics.Ports.Msgs.Enums TcplsBasics.Ports.Msgs.Handshake

/-! ## Optional fields -/

section Optional

variable {α : Type}

/-- An optional field of `ServerSessionValue::encode`: the byte `1` and the
value, or the byte `0`. -/
def encodeOption (enc : α → List UInt8) : Option α → List UInt8
  | some x => encodeUInt 1 1 ++ enc x
  | none => encodeUInt 1 0

/-- An optional field of `ServerSessionValue::read`: a flag of `1` and the
value; any other flag is `None`. -/
def readOption (dec : Decoder α) : Decoder (Option α) := fun b =>
  match readUInt 1 b with
  | none => none
  | some (flag, b) =>
    if flag = 1 then (dec b).map fun p => (some p.1, p.2)
    else some (none, b)

theorem roundTrip_readOption {enc : α → List UInt8} {dec : Decoder α} {wf : α → Prop}
    (hrt : RoundTrip enc dec wf) : RoundTrip (encodeOption enc) (readOption dec) fun o => ∀ x ∈ o, wf x := by
  intro o r hwf
  cases o with
  | none => simp [encodeOption, readOption, readUInt_encodeUInt]
  | some x =>
    have hx : dec (enc x ++ r) = some (x, r) := hrt x r (hwf x rfl)
    simp [encodeOption, readOption, List.append_assoc, readUInt_encodeUInt, hx]

end Optional

/-! ## The value and its codec -/

/-- The name in `ServerSessionValue::read`: a `PayloadU8`, which
`DnsNameRef::try_from_ascii` must accept. -/
def readDnsName (validDnsName : List UInt8 → Bool) : Decoder (List UInt8) := fun b =>
  match readBlock 1 b with
  | none => none
  | some (name, b) => if validDnsName name then some (name, b) else none

/-- `ServerSessionValue`. -/
structure ServerSessionValue where
  sni : Option (List UInt8)
  version : ProtocolVersion
  cipherSuite : CipherSuite
  masterSecret : List UInt8
  extendedMs : Bool
  clientCertChain : Option (List (List UInt8))
  alpn : Option (List UInt8)
  applicationData : List UInt8
  creationTimeSec : UInt64
  ageObfuscationOffset : UInt32
  freshness : Option Bool
deriving DecidableEq, Repr

namespace ServerSessionValue

/-- `ServerSessionValue::encode`. -/
def encode (v : ServerSessionValue) : List UInt8 :=
  encodeOption (encodeBlock 1) v.sni ++ v.version.encode ++ v.cipherSuite.encode ++
    encodeBlock 1 v.masterSecret ++ encodeUInt 1 (if v.extendedMs then 1 else 0) ++
    encodeOption encodeCertificatePayload v.clientCertChain ++ encodeOption (encodeBlock 1) v.alpn ++
    encodeBlock 2 v.applicationData ++ encodeUInt 8 v.creationTimeSec.toNat ++
    encodeUInt 4 v.ageObfuscationOffset.toNat

/-- `ServerSessionValue::read`: `freshness` starts out `None`. -/
def read (validDnsName : List UInt8 → Bool) : Decoder ServerSessionValue := fun b =>
  match readOption (readDnsName validDnsName) b with
  | none => none
  | some (sni, b) =>
    match EnumU16.read b with
    | none => none
    | some (v, b) =>
      match EnumU16.read b with
      | none => none
      | some (cs, b) =>
        match readBlock 1 b with
        | none => none
        | some (ms, b) =>
          match readUInt 1 b with
          | none => none
          | some (ems, b) =>
            match readOption readCertificatePayload b with
            | none => none
            | some (ccert, b) =>
              match readOption (readBlock 1) b with
              | none => none
              | some (alpn, b) =>
                match readBlock 2 b with
                | none => none
                | some (applicationData, b) =>
                  match readUInt 8 b with
                  | none => none
                  | some (creationTimeSec, b) =>
                    match readUInt 4 b with
                    | none => none
                    | some (ageObfuscationOffset, b) =>
                      some (⟨sni, v, cs, ms, ems == 1, ccert, alpn, applicationData,
                        UInt64.ofNat creationTimeSec, UInt32.ofNat ageObfuscationOffset, none⟩, b)

/-! ## Reading back an encoding -/

/-- The blocks fit their prefixes and the SNI is a name webpki accepts. -/
structure BlocksFit (validDnsName : List UInt8 → Bool) (v : ServerSessionValue) : Prop where
  sni : ∀ name ∈ v.sni, validDnsName name = true
  masterSecret : v.masterSecret.length ≤ 255
  clientCertChain : ∀ chain ∈ v.clientCertChain, (chain.flatMap encodeCertificate).length ≤ 0x10000
  alpn : ∀ alpn ∈ v.alpn, alpn.length ≤ 255
  applicationData : v.applicationData.length ≤ 65535

/-- The conditions under which `read` takes back an encoding: the blocks fit,
and the two enums are canonical. -/
structure Fits (validDnsName : List UInt8 → Bool) (v : ServerSessionValue) : Prop
    extends BlocksFit validDnsName v where
  version : v.version.Canonical
  cipherSuite : v.cipherSuite.Canonical

end ServerSessionValue

/-- A name webpki accepts reads back, when names fit a `u8` length as webpki's do. -/
theorem roundTrip_readDnsName {validDnsName : List UInt8 → Bool}
    (hdns : ∀ name, validDnsName name = true → name.length ≤ 253) :
    RoundTrip (encodeBlock 1) (readDnsName validDnsName) (validDnsName · = true) := by
  intro name r hvalid
  have hlen : name.length < 256 ^ 1 := by have := hdns name hvalid; omega
  simp [readDnsName, readBlock_encodeBlock hlen, hvalid]

/-- Every certificate of a chain within the limit fits its `u24` prefix. -/
theorem length_lt_of_mem_chain {chain : List (List UInt8)} (hchain : (chain.flatMap encodeCertificate).length ≤ 0x10000)
    {cert : List UInt8} (hcert : cert ∈ chain) : cert.length < 256 ^ 3 := by
  have hle : (encodeCertificate cert).length ≤ (chain.flatMap encodeCertificate).length := by
    rw [List.flatMap_def]
    exact (List.infix_of_mem_flatten (List.mem_map_of_mem hcert)).length_le
  simp only [encodeCertificate, length_encodeBlock] at hle
  omega

/-- `CertificatePayload` reads back when its certificates take at most `0x10000` bytes. -/
theorem roundTrip_readCertificatePayload :
    RoundTrip encodeCertificatePayload readCertificatePayload
      fun chain => (chain.flatMap encodeCertificate).length ≤ 0x10000 := by
  intro chain r hchain
  have hblocks : (chain.flatMap (encodeBlock 3)).length ≤ 0x10000 := hchain
  have hne : ∀ cert, cert.length < 256 ^ 3 → encodeCertificate cert ≠ [] := fun cert _ => by
    simp [encodeCertificate, encodeBlock, encodeUInt, Verified.Bytes.toBeBytes]
  exact RoundTrip.readVecLimited 3 0x10000 (roundTrip_readBlock 3) hne chain r
    ⟨fun _ hcert => length_lt_of_mem_chain hchain hcert, hblocks, by omega⟩

/-- Where the blocks fit, `read` takes back every field but the enums, which
come back as the values their codes name. -/
theorem ServerSessionValue.read_encode_of_blocksFit {validDnsName : List UInt8 → Bool}
    (hdns : ∀ name, validDnsName name = true → name.length ≤ 253) {v : ServerSessionValue}
    (hv : v.BlocksFit validDnsName) (r : List UInt8) :
    ServerSessionValue.read validDnsName (v.encode ++ r) =
      some ({ v with
        version := EnumU16.ofU16 v.version.getU16, cipherSuite := EnumU16.ofU16 v.cipherSuite.getU16,
        freshness := none }, r) := by
  have hsni : ∀ r, readOption (readDnsName validDnsName) (encodeOption (encodeBlock 1) v.sni ++ r) =
      some (v.sni, r) := fun r => roundTrip_readOption (roundTrip_readDnsName hdns) v.sni r hv.sni
  have hms : ∀ r, readBlock 1 (encodeBlock 1 v.masterSecret ++ r) = some (v.masterSecret, r) :=
    fun r => readBlock_encodeBlock (by simpa using Nat.lt_succ_of_le hv.masterSecret) r
  have hems : ∀ r, readUInt 1 (encodeUInt 1 (if v.extendedMs then 1 else 0) ++ r) =
      some (if v.extendedMs then 1 else 0, r) :=
    fun r => readUInt_encodeUInt (by split <;> decide) r
  have hchain : ∀ r, readOption readCertificatePayload (encodeOption encodeCertificatePayload v.clientCertChain ++ r) =
      some (v.clientCertChain, r) :=
    fun r => roundTrip_readOption roundTrip_readCertificatePayload v.clientCertChain r hv.clientCertChain
  have halpn : ∀ r, readOption (readBlock 1) (encodeOption (encodeBlock 1) v.alpn ++ r) = some (v.alpn, r) :=
    fun r => roundTrip_readOption (roundTrip_readBlock 1) v.alpn r fun alpn h => by
      simpa using Nat.lt_succ_of_le (hv.alpn alpn h)
  have happ : ∀ r, readBlock 2 (encodeBlock 2 v.applicationData ++ r) = some (v.applicationData, r) :=
    fun r => readBlock_encodeBlock (by simpa using Nat.lt_succ_of_le hv.applicationData) r
  have htime : ∀ r, readUInt 8 (encodeUInt 8 v.creationTimeSec.toNat ++ r) = some (v.creationTimeSec.toNat, r) :=
    fun r => readUInt_encodeUInt v.creationTimeSec.toNat_lt r
  have hage : ∀ r, readUInt 4 (encodeUInt 4 v.ageObfuscationOffset.toNat ++ r) =
      some (v.ageObfuscationOffset.toNat, r) :=
    fun r => readUInt_encodeUInt v.ageObfuscationOffset.toNat_lt r
  simp only [ServerSessionValue.read, ServerSessionValue.encode, List.append_assoc, hsni, EnumU16.read_encode,
    hms, hems, hchain, halpn, happ, htime, hage, UInt64.ofNat_toNat, UInt32.ofNat_toNat]
  cases v.extendedMs <;> rfl

theorem serverSessionValue_read_encode (validDnsName : List UInt8 → Bool)
    (hdns : ∀ name, validDnsName name = true → name.length ≤ 253) (v : ServerSessionValue)
    (hv : v.Fits validDnsName) (r : List UInt8) :
    ServerSessionValue.read validDnsName (v.encode ++ r) = some ({ v with freshness := none }, r) := by
  rw [ServerSessionValue.read_encode_of_blocksFit hdns hv.toBlocksFit r, hv.version, hv.cipherSuite]

/-- A TLS 1.3 session for the name `a` with `TLS13_AES_128_GCM_SHA256`, a
one-certificate chain and the protocol `h2`. -/
def exampleSession : ServerSessionValue :=
  ⟨some [0x61], .ofU16 0x0304, .ofU16 0x1301, List.replicate 48 0, true, some [[0x30]], some [0x68, 0x32],
    [], 1, 2, some true⟩

theorem exampleSession_restored :
    exampleSession.Fits (fun name => decide (name.length ≤ 253)) ∧
    ServerSessionValue.read (fun name => decide (name.length ≤ 253)) (exampleSession.encode ++ []) =
      some ({ exampleSession with freshness := none }, []) := by
  have hfit : exampleSession.Fits fun name => decide (name.length ≤ 253) :=
    ⟨⟨by simp [exampleSession], by simp [exampleSession], by simp [exampleSession, encodeCertificate, encodeBlock],
      by simp [exampleSession], by simp [exampleSession]⟩,
      show (EnumU16.ofU16 0x0304 : ProtocolVersion).Canonical from EnumU16.canonical_ofU16 _,
      show (EnumU16.ofU16 0x1301 : CipherSuite).Canonical from EnumU16.canonical_ofU16 _⟩
  exact ⟨hfit, serverSessionValue_read_encode _ (fun _ h => of_decide_eq_true h) exampleSession hfit []⟩

/-- A session with empty blocks, no SNI, no chain and no ALPN, whose version is
`Unknown(0x0303)`; its suite is `Unknown(0xffff)`, a code with no name. -/
def unknownTls12Session : ServerSessionValue :=
  ⟨none, .unknown 0x0303, .unknown 0xffff, [], false, none, none, [], 0, 0, none⟩

/-- With a name check that keeps to webpki's length limit, the encoding of
`unknownTls12Session` reads back with the version `TLSv1_2`, though every
block fits and the suite is canonical. -/
theorem unknown_version_reads_as_tls12 :
    unknownTls12Session.cipherSuite.Canonical ∧
    ∃ v', ServerSessionValue.read (fun name => decide (name.length ≤ 253)) unknownTls12Session.encode =
      some (v', []) ∧ v'.version = Enums.ProtocolVersion.tlsv1_2 ∧ v'.version ≠ unknownTls12Session.version := by
  have hsuite : unknownTls12Session.cipherSuite.Canonical :=
    EnumU16.canonical_unknown_iff.mpr (by decide)
  have hfit : unknownTls12Session.BlocksFit fun name => decide (name.length ≤ 253) :=
    ⟨nofun, by decide, nofun, nofun, by decide⟩
  have hread := ServerSessionValue.read_encode_of_blocksFit (fun _ h => of_decide_eq_true h) hfit []
  rw [List.append_nil] at hread
  have hnamed : (EnumU16.ofU16 (0x0303 : UInt16) : ProtocolVersion) = Enums.ProtocolVersion.tlsv1_2 := by decide
  exact ⟨hsuite, _, hread, hnamed, by decide⟩

end TcplsBasics.Ports.Msgs.Persist
