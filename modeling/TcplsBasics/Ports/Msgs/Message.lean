import TcplsBasics.Ports.Error
import TcplsBasics.Ports.Msgs.Handshake

/-!
# Records (`msgs/message.rs`, `msgs/fragmenter.rs`, `cipher.rs`)

A TLS record on the wire is `[type: u8][version: u16][length: u16][payload]`
(`OpaqueMessage`).  `read` checks the header only once all five bytes are
there, so a strict prefix of a record that passes the checks is reported as
too short, never as malformed: that is what lets the deframer wait for more
bytes.

`MessageFragmenter` cuts a payload into records of at most `max_frag`
bytes; its invariant `0 < max_frag` is a field, which is what lets
`slice::chunks` be called on it.  A record protection is a pair of functions
on records and sequence numbers (`MessageEncrypter`, `MessageDecrypter`).

## Main results

* `OpaqueMessage.read_encode`: a record reads back from its encoding.
* `flatten_fragmentSlice`: the fragments of a payload put back together are the payload.
-/

namespace TcplsBasics.Ports.Msgs.Message

open TcplsBasics.Verified.Rust TcplsBasics.Verified.Codec TcplsBasics.Verified.Bytes
open TcplsBasics.Ports.Errors TcplsBasics.Ports.Msgs.Handshake TcplsBasics.Ports.Msgs.Enums

/-! ## Records -/

/-- `PlainMessage`: a record's type, version and plaintext. -/
structure PlainMessage where
  typ : ContentType
  version : Nat
  payload : List UInt8
deriving DecidableEq, Repr

/-- `BorrowedPlainMessage`: the same record over a borrowed payload. -/
abbrev BorrowedPlainMessage := PlainMessage

/-- `OpaqueMessage`: a record as it goes on the wire, payload protected or not. -/
structure OpaqueMessage where
  typ : ContentType
  version : Nat
  payload : List UInt8
deriving DecidableEq, Repr

/-- `MessageError`. -/
inductive MessageError where
  | tooShortForHeader
  | tooShortForLength
  | illegalLength
  | illegalContentType
  | illegalProtocolVersion
deriving DecidableEq, Repr

/-- The codes of `ProtocolVersion` that have names. -/
def knownProtocolVersions : List Nat :=
  [0x0200, 0x0300, 0x0301, 0x0302, 0x0303, 0x0304, 0xfeff, 0xfefd, 0xfefc]

namespace OpaqueMessage

/-- `OpaqueMessage::MAX_PAYLOAD`. -/
def maxPayload : Nat := 16384 + 2048

/-- `OpaqueMessage::HEADER_SIZE`. -/
def headerSize : Nat := 1 + 2 + 2

/-- `OpaqueMessage::MAX_WIRE_SIZE`. -/
def maxWireSize : Nat := maxPayload + headerSize

/-- `OpaqueMessage::encode`: the length is cast to `u16`. -/
def encode (m : OpaqueMessage) : List UInt8 :=
  [m.typ.getU8] ++ encodeUInt 2 m.version ++ encodeUInt 2 m.payload.length ++ m.payload

/-- The header checks of `OpaqueMessage::read`, in its order. -/
def checkHeader (typ : ContentType) (version len : Nat) : Except MessageError Unit :=
  if typ ≠ .applicationData ∧ len = 0 then .error .illegalLength
  else if maxPayload ≤ len then .error .illegalLength
  else if typ.isUnknown then .error .illegalContentType
  else if version ∉ knownProtocolVersions ∧ version &&& 0xff00 ≠ 0x0300 then
    .error .illegalProtocolVersion
  else .ok ()

/-- `OpaqueMessage::read`: a record and the bytes after it. -/
def read (b : List UInt8) : Except MessageError (OpaqueMessage × List UInt8) :=
  match b with
  | [] => .error .tooShortForHeader
  | t :: b =>
    match readUInt 2 b with
    | none => .error .tooShortForHeader
    | some (version, b) =>
      match readUInt 2 b with
      | none => .error .tooShortForHeader
      | some (len, b) => do
        checkHeader (ContentType.ofU8 t) version len
        match take len b with
        | none => .error .tooShortForLength
        | some (payload, b) => pure (⟨ContentType.ofU8 t, version, payload⟩, b)

@[simp] theorem length_encode (m : OpaqueMessage) :
    m.encode.length = headerSize + m.payload.length := by
  simp [encode, headerSize]
  omega

/-- A record whose fields pass the header checks reads back from its encoding. -/
theorem read_encode {m : OpaqueMessage} (htyp : m.typ.Canonical) (hver : m.version < 2 ^ 16)
    (hhead : checkHeader m.typ m.version m.payload.length = .ok ()) (r : List UInt8) :
    read (m.encode ++ r) = .ok (m, r) := by
  have hlen : m.payload.length < 256 ^ 2 := by
    have hmax : m.payload.length < maxPayload := by
      unfold checkHeader at hhead
      split_ifs at hhead with h₁ h₂
      exact Nat.lt_of_not_le h₂
    exact Nat.lt_of_lt_of_le hmax (by decide)
  simp only [encode, List.cons_append, List.nil_append, List.append_assoc, read]
  have hv : m.version < 256 ^ 2 := Nat.lt_of_lt_of_le hver (by decide)
  simp only [readUInt_encodeUInt hv, readUInt_encodeUInt hlen,
    ContentType.ofU8_getU8 htyp, hhead, ok_bind, take_append rfl]
  rfl

/-- A record that `read` gets back from its encoding: a canonical type, a
16-bit version and a header that passes the checks. -/
structure Valid (m : OpaqueMessage) : Prop where
  canonical : m.typ.Canonical
  version_lt : m.version < 2 ^ 16
  header : checkHeader m.typ m.version m.payload.length = .ok ()

theorem Valid.read_encode {m : OpaqueMessage} (hm : m.Valid) (r : List UInt8) :
    read (m.encode ++ r) = .ok (m, r) :=
  OpaqueMessage.read_encode hm.canonical hm.version_lt hm.header r

/-- What `read` accepts is a record's encoding, then the bytes it leaves. -/
theorem eq_of_read {b r : List UInt8} {m : OpaqueMessage} (h : read b = .ok (m, r)) :
    b = m.encode ++ r := by
  unfold read at h
  split at h
  · cases h
  · next t b =>
    split at h
    · cases h
    · next version b' hv =>
      split at h
      · cases h
      · next len b'' hl =>
        obtain ⟨_, -, h⟩ := bind_eq_ok.mp h
        split at h
        · cases h
        · next payload rest hp =>
          cases h
          obtain ⟨rfl, -⟩ := eq_of_readUInt hv
          obtain ⟨rfl, -⟩ := eq_of_readUInt hl
          obtain ⟨rfl, hlen⟩ := eq_of_take hp
          simp [encode, hlen]

/-- Fewer than five bytes are too short for a record header. -/
theorem read_of_length_lt {b : List UInt8} (h : b.length < headerSize) :
    read b = .error .tooShortForHeader := by
  unfold headerSize at h
  match b with
  | [] => rfl
  | t :: b =>
    simp only [List.length_cons] at h
    simp only [read]
    by_cases h₂ : b.length < 2
    · rw [readUInt_eq_none h₂]
    · split
      · rfl
      · next version b' hv =>
        obtain ⟨rfl, -⟩ := eq_of_readUInt hv
        rw [readUInt_eq_none (by simp at h; omega)]

/-- A valid record's header followed by too few payload bytes is too short. -/
theorem read_header_of_length_lt {m : OpaqueMessage} (hm : m.Valid) {c : List UInt8}
    (hc : c.length < m.payload.length) :
    read ([m.typ.getU8] ++ encodeUInt 2 m.version ++ encodeUInt 2 m.payload.length ++ c) =
      .error .tooShortForLength := by
  have hlen : m.payload.length < 256 ^ 2 := by
    have hmax : m.payload.length < maxPayload := by
      have hhead := hm.header
      unfold checkHeader at hhead
      split_ifs at hhead with h₁ h₂
      exact Nat.lt_of_not_le h₂
    exact Nat.lt_of_lt_of_le hmax (by decide)
  have hv : m.version < 256 ^ 2 := Nat.lt_of_lt_of_le hm.version_lt (by decide)
  simp only [List.cons_append, List.nil_append, List.append_assoc, read]
  simp only [readUInt_encodeUInt hv, readUInt_encodeUInt hlen,
    ContentType.ofU8_getU8 hm.canonical, hm.header, ok_bind, take_eq_none hc]

/-- A strict prefix of a valid record is too short, never malformed: the
header checks run only once the whole header is there, and then pass. -/
theorem read_of_prefix {m : OpaqueMessage} (hm : m.Valid) {p t : List UInt8}
    (h : p ++ t = m.encode) (ht : t ≠ []) :
    read p = .error .tooShortForHeader ∨ read p = .error .tooShortForLength := by
  rw [encode] at h
  rcases List.append_eq_append_iff.mp h with ⟨a, hhead, -⟩ | ⟨c, rfl, hpayload⟩
  · -- `p` ends inside the header, or is exactly the header
    by_cases hlt : p.length < headerSize
    · exact .inl (read_of_length_lt hlt)
    · have ha : a = [] := by
        have := congrArg List.length hhead
        simp [headerSize] at this hlt
        exact List.eq_nil_of_length_eq_zero (by omega)
      subst ha
      rw [List.append_nil] at hhead
      refine .inr ?_
      rw [← hhead, ← List.append_nil ([m.typ.getU8] ++ _ ++ _)]
      refine read_header_of_length_lt hm ?_
      have hlen := congrArg List.length h
      simp [← hhead] at hlen
      rw [List.length_nil, ← hlen]
      exact List.length_pos_of_ne_nil ht
  · refine .inr (read_header_of_length_lt hm ?_)
    rw [hpayload, List.length_append]
    have := List.length_pos_of_ne_nil ht
    omega

/-- `OpaqueMessage::into_plain_message`. -/
def intoPlainMessage (m : OpaqueMessage) : PlainMessage := ⟨m.typ, m.version, m.payload⟩

end OpaqueMessage

/-- `BorrowedPlainMessage::to_unencrypted_opaque`. -/
def PlainMessage.toUnencryptedOpaque (m : PlainMessage) : OpaqueMessage :=
  ⟨m.typ, m.version, m.payload⟩

/-! ## Record protection -/

/-- `MessageEncrypter::encrypt`: a record and its sequence number. -/
abbrev MessageEncrypter := BorrowedPlainMessage → Nat → Except Error OpaqueMessage

/-- `MessageDecrypter::decrypt`: a record and its sequence number. -/
abbrev MessageDecrypter := OpaqueMessage → Nat → Except Error PlainMessage

/-! ## Fragmenting -/

/-- `MAX_FRAGMENT_LEN`. -/
def maxFragmentLen : Nat := 16384

/-- `PACKET_OVERHEAD`. -/
def packetOverhead : Nat := 1 + 2 + 2

/-- `MAX_FRAGMENT_SIZE`. -/
def maxFragmentSize : Nat := maxFragmentLen + packetOverhead

/-- `MessageFragmenter`, whose `max_frag` is never zero. -/
structure MessageFragmenter where
  maxFrag : Nat
  pos : 0 < maxFrag

namespace MessageFragmenter

/-- `MessageFragmenter::default`. -/
def default : MessageFragmenter := ⟨maxFragmentLen, by decide⟩

/-- `MessageFragmenter::fragment_slice`. -/
def fragmentSlice (f : MessageFragmenter) (typ : ContentType) (version : Nat)
    (payload : List UInt8) : List BorrowedPlainMessage :=
  (chunks f.maxFrag f.pos payload).map fun c => ⟨typ, version, c⟩

/-- `MessageFragmenter::fragment_message`. -/
def fragmentMessage (f : MessageFragmenter) (msg : PlainMessage) : List BorrowedPlainMessage :=
  f.fragmentSlice msg.typ msg.version msg.payload

/-- A size the check accepts leaves room for a byte after the header. -/
theorem sub_packetOverhead_pos {sz : Nat} (h : 32 ≤ sz ∧ sz ≤ maxFragmentSize) :
    0 < sz - packetOverhead := by
  unfold packetOverhead
  omega

/-- `MessageFragmenter::set_max_fragment_size`: the fragmenter it leaves,
whatever the old size; a size counts the header. -/
def setMaxFragmentSize : Option Nat → Except Error MessageFragmenter
  | some sz =>
    if h : 32 ≤ sz ∧ sz ≤ maxFragmentSize then .ok ⟨sz - packetOverhead, sub_packetOverhead_pos h⟩
    else .error .badMaxFragmentSize
  | none => .ok default

/-- The fragments put back together are the payload. -/
@[simp] theorem flatten_fragmentSlice (f : MessageFragmenter) (typ : ContentType) (version : Nat)
    (payload : List UInt8) :
    ((f.fragmentSlice typ version payload).map PlainMessage.payload).flatten = payload := by
  simp [fragmentSlice, List.map_map, Function.comp_def]

/-- There are at most as many fragments as payload bytes. -/
theorem length_fragmentSlice_le (f : MessageFragmenter) (typ : ContentType) (version : Nat)
    (payload : List UInt8) : (f.fragmentSlice typ version payload).length ≤ payload.length := by
  simpa [fragmentSlice] using length_chunks_le payload

/-- Every fragment has the type it was cut with. -/
theorem typ_of_mem_fragmentSlice {f : MessageFragmenter} {typ : ContentType} {version : Nat}
    {payload : List UInt8} {m : BorrowedPlainMessage} (h : m ∈ f.fragmentSlice typ version payload) :
    m.typ = typ := by
  simp only [fragmentSlice, List.mem_map] at h
  obtain ⟨c, -, rfl⟩ := h
  rfl

end MessageFragmenter

end TcplsBasics.Ports.Msgs.Message
