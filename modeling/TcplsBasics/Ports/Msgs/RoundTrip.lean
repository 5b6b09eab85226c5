import TcplsBasics.Ports.Msgs.Handshake

/-!
# Reading back what was encoded (`msgs/handshake.rs`)

Every extension is read as `[type: u16][length: u16][body]`: the reader
stops exactly at the end of the body, whatever the body decoder makes of it
(`ClientExtension.read_delimits`).  So a vector of extensions fails to read
exactly when one of its extensions does.

Two arms of `ClientExtension` do not read back what they encode.
`TcplsExt` is decoded from `TCPLS_JOIN` or `TCPLS_TOKEN` but encoded under
`get_type()`, which is `TCPLS`: its bytes change on the way back.  `TCPLS`
is decoded without reading its body, so the encoding of a `TcplsExt` with
a non-empty payload is refused, and with it the whole ClientHello.

## Main results

* `tcplsExt_reencoded_as_tcpls`: a `TCPLS_JOIN` or `TCPLS_TOKEN` extension
  is read into a value whose encoding carries the type `TCPLS`.
* `readVersion_clientHello_tcplsExt`: a ClientHello whose extensions fit
  their prefixes and include a `TcplsExt` with a payload does not read back.
-/

namespace TcplsBasics.Ports.Msgs.Extensions

open TcplsBasics.Verified.Bytes TcplsBasics.Verified.Codec

/-! ## The extension frame -/

/-- The frame's reader on an encoded frame: the body decoder on the body,
and the bytes after the frame. -/
theorem readExtension_encodeExtension {α : Type} (readBody : Nat → Decoder α) {typ : Nat}
    (htyp : typ < 256 ^ 2) {body : List UInt8} (hbody : body.length < 256 ^ 2) (r : List UInt8) :
    readExtension readBody (encodeExtension typ body ++ r) =
      match readBody typ body with
      | none => none
      | some (ext, left) => if left = [] then some (ext, r) else none := by
  rcases hb : readBody typ body with _ | ⟨ext, left⟩ <;>
    simp only [readExtension, encodeExtension, List.append_assoc, readUInt_encodeUInt htyp,
      readBlock_encodeBlock hbody, hb]

namespace ClientExtension

/-- The type and the body of an extension fit their two-byte fields. -/
def Fits (e : ClientExtension) : Prop := e.getType < 256 ^ 2 ∧ e.encodeBody.length < 256 ^ 2

theorem encode_ne_nil (e : ClientExtension) : e.encode ≠ [] := by
  rw [ClientExtension.encode, encodeExtension, ← List.length_pos_iff, List.length_append,
    length_encodeUInt]
  omega

/-- Reading an encoded extension fails or stops at its end. -/
theorem read_delimits (validDnsName : List UInt8 → Bool) :
    Delimits ClientExtension.encode (ClientExtension.read validDnsName) Fits := by
  rintro e r ⟨htyp, hbody⟩
  rw [ClientExtension.read, ClientExtension.encode, readExtension_encodeExtension _ htyp hbody]
  split
  · exact .inl rfl
  · split_ifs
    · exact .inr ⟨_, rfl⟩
    · exact .inl rfl

/-- `TCPLS` leaves its body unread: the encoding of a `TcplsExt` with a
payload is refused. -/
theorem read_tcplsExt (validDnsName : List UInt8 → Bool) {t : TcplsExtension}
    (hne : t.payload ≠ []) (hlen : t.payload.length < 256 ^ 2) (r : List UInt8) :
    ClientExtension.read validDnsName ((ClientExtension.tcplsExt t).encode ++ r) = none := by
  show readExtension _ (encodeExtension ExtensionType.tcpls t.payload ++ r) = none
  rw [readExtension_encodeExtension _ (by decide) hlen]
  have hbody : readBody validDnsName ExtensionType.tcpls t.payload = some (.tcpls, t.payload) := rfl
  simp only [hbody, if_neg hne]

end ClientExtension

/-- `TcplsExt` does not encode what it was read from: a `TCPLS_JOIN` or
`TCPLS_TOKEN` extension is read, with nothing left over, into a value that
`encode` writes under the type `TCPLS`, so the bytes differ. -/
theorem tcplsExt_reencoded_as_tcpls (validDnsName : List UInt8 → Bool) {typ : Nat}
    (htyp : typ = ExtensionType.tcplsJoin ∨ typ = ExtensionType.tcplsToken) {body : List UInt8}
    (hbody : body.length < 256 ^ 2) (r : List UInt8) :
    ClientExtension.read validDnsName (encodeExtension typ body ++ r) =
        some (.tcplsExt ⟨typ, body⟩, r) ∧
      (ClientExtension.tcplsExt ⟨typ, body⟩).encode = encodeExtension ExtensionType.tcpls body ∧
      (ClientExtension.tcplsExt ⟨typ, body⟩).encode ≠ encodeExtension typ body := by
  have hlt : typ < 256 ^ 2 := by
    rcases htyp with rfl | rfl <;> decide
  have hread : ClientExtension.readBody validDnsName typ body = some (.tcplsExt ⟨typ, body⟩, []) := by
    rcases htyp with rfl | rfl <;> rfl
  refine ⟨?_, rfl, ?_⟩
  · rw [ClientExtension.read, readExtension_encodeExtension _ hlt hbody, hread]
    rfl
  · -- the two encodings differ in their type field
    intro h
    have htake := congrArg (List.take 2) h
    simp only [ClientExtension.encode, ClientExtension.getType, encodeExtension,
      List.take_left' (length_encodeUInt 2 _)] at htake
    have hval := congrArg (fromBeBytes) htake
    rw [encodeUInt, encodeUInt, fromBeBytes_toBeBytes_of_lt (by decide),
      fromBeBytes_toBeBytes_of_lt hlt] at hval
    rcases htyp with rfl | rfl <;> exact absurd hval (by decide)

/-- A `TCPLS_JOIN` extension with an empty body comes back as `TCPLS`. -/
theorem tcplsJoin_reencoded :
    ClientExtension.read (fun _ => true) [0x00, 0x3b, 0x00, 0x00] = some (.tcplsExt ⟨0x3b, []⟩, []) ∧
      (ClientExtension.tcplsExt ⟨0x3b, []⟩).encode = [0x00, 0x3a, 0x00, 0x00] ∧
      (ClientExtension.tcplsExt ⟨0x3b, []⟩).encode ≠ [0x00, 0x3b, 0x00, 0x00] :=
  @tcplsExt_reencoded_as_tcpls (fun _ => true) _ (.inl rfl) [] (by decide) []

end TcplsBasics.Ports.Msgs.Extensions

namespace TcplsBasics.Ports.Msgs.Handshake

open TcplsBasics.Verified.Codec TcplsBasics.Ports.Msgs.Extensions

/-! ## Hellos -/

theorem Random.read_append (x : Random) (r : List UInt8) : Random.read (x.bytes ++ r) = some (x, r) := by
  have h : 32 ≤ (x.bytes ++ r).length := by simp [x.length_eq]
  simp only [Random.read, dif_pos h, List.take_left' x.length_eq, List.drop_left' x.length_eq]

theorem SessionID.read_append (s : SessionID) (r : List UInt8) :
    SessionID.read (s.encode ++ r) = some (s, r) := by
  have hlen : s.data.length < 256 ^ 1 := by have := s.length_le; omega
  have hfit : s.data.length ≤ (s.data ++ r).length := by simp
  simp only [SessionID.read, SessionID.encode, encodeBlock, List.append_assoc,
    readUInt_encodeUInt hlen, dif_neg (Nat.not_lt.mpr s.length_le), dif_pos hfit,
    List.take_left' rfl, List.drop_left' rfl]

namespace ClientHelloPayload

/-- The fields of a ClientHello fit the prefixes and widths they are
encoded in. -/
structure Fits (ch : ClientHelloPayload) : Prop where
  version : ch.clientVersion < 256 ^ 2
  suites : ∀ s ∈ ch.cipherSuites, s < 256 ^ 2
  suites_len : (ch.cipherSuites.flatMap (encodeUInt 2)).length < 256 ^ 2
  compressions : ∀ c ∈ ch.compressionMethods, c < 256 ^ 1
  compressions_len : (ch.compressionMethods.flatMap (encodeUInt 1)).length < 256 ^ 1
  extensions : ∀ e ∈ ch.extensions, e.Fits
  extensions_len : (ch.extensions.flatMap ClientExtension.encode).length < 256 ^ 2

theorem encodeUInt_ne_nil {n : Nat} (hn : 0 < n) (v : Nat) : encodeUInt n v ≠ [] := by
  rw [← List.length_pos_iff, length_encodeUInt]
  exact hn

/-- A ClientHello with a `TcplsExt` that has a payload does not read back. -/
theorem read_encode_tcplsExt (validDnsName : List UInt8 → Bool) {ch : ClientHelloPayload}
    (hfits : ch.Fits) {t : TcplsExtension} (ht : .tcplsExt t ∈ ch.extensions) (hne : t.payload ≠ []) :
    ClientHelloPayload.read validDnsName ch.encode = none := by
  have hexts : ch.extensions ≠ [] := List.ne_nil_of_mem ht
  have hsuites := RoundTrip.readVec 2 (roundTrip_readUInt 2) (fun _ _ => encodeUInt_ne_nil (by decide) _)
    ch.cipherSuites (encodeVec 1 (encodeUInt 1) ch.compressionMethods ++
      encodeVec 2 ClientExtension.encode ch.extensions) ⟨hfits.suites, hfits.suites_len⟩
  have hcomps := RoundTrip.readVec 1 (roundTrip_readUInt 1) (fun _ _ => encodeUInt_ne_nil (by decide) _)
    ch.compressionMethods (encodeVec 2 ClientExtension.encode ch.extensions)
    ⟨hfits.compressions, hfits.compressions_len⟩
  have htfits := hfits.extensions _ ht
  have hexts_read := readVec_encodeVec_eq_none 2 (ClientExtension.read_delimits validDnsName)
    (fun e _ => e.encode_ne_nil) hfits.extensions
    ⟨_, ht, ClientExtension.read_tcplsExt validDnsName hne htfits.2⟩ hfits.extensions_len []
  rw [List.append_nil] at hexts_read
  have hblock : encodeVec 2 ClientExtension.encode ch.extensions ≠ [] := by
    rw [encodeVec, encodeBlock, ← List.length_pos_iff, List.length_append, length_encodeUInt]
    omega
  simp only [ClientHelloPayload.read, ClientHelloPayload.encode, if_neg hexts, List.append_assoc,
    readUInt_encodeUInt hfits.version, Random.read_append, SessionID.read_append, hsuites, hcomps,
    ne_eq, hblock, not_false_eq_true, if_true, hexts_read]

end ClientHelloPayload

/-- `read_version` refuses the encoding of a ClientHello whose fields fit
their prefixes and whose extensions include a `TcplsExt` with a payload,
whatever the version. -/
theorem readVersion_clientHello_tcplsExt (validDnsName : List UInt8 → Bool) (vers : Nat)
    {ch : ClientHelloPayload} (hfits : ch.Fits) (hlen : ch.encode.length < 256 ^ 3)
    {t : TcplsExtension} (ht : .tcplsExt t ∈ ch.extensions) (hne : t.payload ≠ []) :
    HandshakeMessagePayload.readVersion validDnsName vers
      (⟨HandshakeType.clientHello, .clientHello ch⟩ : HandshakeMessagePayload).encode = none := by
  have hread := ClientHelloPayload.read_encode_tcplsExt validDnsName hfits ht hne
  have hpayload : HandshakeMessagePayload.readPayload validDnsName vers HandshakeType.clientHello
      ch.encode = none := by
    rw [HandshakeMessagePayload.readPayload, if_neg (fun h => absurd h.1 (by decide)), if_pos rfl, hread]
    rfl
  have hhrr : ¬HandshakeType.clientHello = HandshakeType.helloRetryRequest := by decide
  have hblock := readBlock_encodeBlock hlen []
  rw [List.append_nil] at hblock
  simp only [HandshakeMessagePayload.readVersion, HandshakeMessagePayload.encode, hhrr, if_false,
    readUInt_encodeUInt (show HandshakeType.clientHello < 256 ^ 1 by decide), HandshakePayload.encode,
    hblock, hpayload]

/-- A ClientHello offering `TLS13_AES_128_GCM_SHA256` with one `TCPLS_JOIN`
extension of one byte. -/
def joinHello : ClientHelloPayload where
  clientVersion := 0x0303
  random := ⟨List.replicate 32 0, by simp⟩
  sessionId := SessionID.empty
  cipherSuites := [0x1301]
  compressionMethods := [0]
  extensions := [.tcplsExt ⟨ExtensionType.tcplsJoin, [1]⟩]

theorem joinHello_fits : joinHello.Fits where
  version := by decide
  suites := by decide
  suites_len := by decide
  compressions := by decide
  compressions_len := by decide
  extensions := by
    intro e he
    simp only [joinHello, List.mem_singleton] at he
    subst he
    exact ⟨by decide, by decide⟩
  extensions_len := by decide

/-- The TLS 1.3 reader refuses the encoding of `joinHello`. -/
theorem joinHello_not_read :
    joinHello.Fits ∧ joinHello.encode.length < 256 ^ 3 ∧
      HandshakeMessagePayload.readVersion (fun _ => true) ProtocolVersion.tlsv1_3
        (⟨HandshakeType.clientHello, .clientHello joinHello⟩ : HandshakeMessagePayload).encode = none :=
  ⟨joinHello_fits, by decide, readVersion_clientHello_tcplsExt (fun _ => true) ProtocolVersion.tlsv1_3
    joinHello_fits (by decide) (List.mem_singleton_self _) (by decide)⟩

end TcplsBasics.Ports.Msgs.Handshake
