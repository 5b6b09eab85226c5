import TcplsBasics.Ports.Msgs.Deframer.Safety

/-!
# What the buffer limit lets through

`prepare_read` grows the buffer to at most `MAX_HANDSHAKE_SIZE` bytes while a
handshake message is being joined, and to at most
`OpaqueMessage::MAX_WIRE_SIZE` otherwise, and `read` fills it no further: so
`used` never exceeds `MAX_HANDSHAKE_SIZE`.  The joined plaintext is copied
over the records it came from, and each of them left its five-byte header
behind it: the join's plaintext ends at least a record header before its
records end, and they end at or below `used` (`MessageDeframer.Gapped`).
So every handshake message `pop` returns is at most
`MAX_HANDSHAKE_SIZE - 5` bytes long, although `payload_size` accepts
messages of up to `MAX_HANDSHAKE_SIZE + 4`.  A larger one is never
returned: a reader that pops after every read fills the buffer and fails
with `message buffer full`.

## Main results

* `MessageDeframer.pop_gapped`: `pop` keeps the gap, never raises `used`, and
  returns a handshake message only at least a header shorter than `used`.
* `Reaches.gapped`: every deframer reachable from `MessageDeframer::default`
  keeps the gap, with `used ≤ MAX_HANDSHAKE_SIZE`.
* `MessageDeframer.receiveAll_bounded`: no run of reads and pops returns a
  handshake message longer than `MAX_HANDSHAKE_SIZE - 5`.
-/

namespace TcplsBasics.Ports.Msgs.Deframer

open TcplsBasics.Verified.Rust TcplsBasics.Verified.Codec
open TcplsBasics.Ports.Errors TcplsBasics.Ports.Msgs.Enums TcplsBasics.Ports.Msgs.Message
open TcplsBasics.Ports.RecordLayer

/-! ## The gap behind the joined plaintext -/

/-- A join's plaintext ends at least a record header before the records it
came from, and they end at or below `used`. -/
structure HandshakePayloadMeta.Gapped (hs : HandshakePayloadMeta) (used : Nat) : Prop where
  header_le : hs.payload.stop + OpaqueMessage.headerSize ≤ hs.message.stop
  message_le : hs.message.stop ≤ used

namespace MessageDeframer

/-- The join of the deframer, if any, keeps a header's gap. -/
def Gapped (d : MessageDeframer) : Prop :=
  ∀ hs, d.joiningHs = some hs → hs.Gapped d.used

/-- What a round's exit says of the state it leaves: a message it returns is
not a handshake message, since those come only out of the join, and the
length it breaks on is joined. -/
def ExitJoined (d : MessageDeframer) : Option Exit → Prop
  | some (.ret (.ok (some m))) => m.message.typ ≠ .handshake
  | some (.brk len) => ∃ hs, d.joiningHs = some hs ∧ len ≤ hs.payload.len
  | _ => True

variable {d d' : MessageDeframer}

theorem gapped_of_none (h : d.joiningHs = none) : d.Gapped := by
  intro hs hj
  rw [h] at hj
  cases hj

end MessageDeframer

/-- More live bytes keep the gap. -/
theorem HandshakePayloadMeta.Gapped.mono {hs : HandshakePayloadMeta} {used used' : Nat}
    (h : hs.Gapped used) (hle : used ≤ used') : hs.Gapped used' :=
  ⟨h.header_le, Nat.le_trans h.message_le hle⟩

theorem HandshakePayloadMeta.completeLen_of_payloadState {hs : HandshakePayloadMeta} {used len : Nat}
    (h : hs.payloadState used = .complete len) : hs.completeLen = some len := by
  unfold HandshakePayloadMeta.payloadState at h
  split at h
  · next len' hc =>
    cases h
    exact hc
  · split_ifs at h

/-! ## A round of `pop` keeps the gap -/

namespace MessageDeframer

variable {d d' : MessageDeframer}

/-- `discard` keeps the join and never raises `used`. -/
theorem discard_used {taken : Nat} (h : d.discard taken = .ok d') :
    d'.joiningHs = d.joiningHs ∧ d'.used ≤ d.used := by
  unfold discard at h
  split_ifs at h with hlt heq
  · obtain ⟨buf, -, h⟩ := bind_eq_ok.mp h
    cases h
    exact ⟨rfl, Nat.sub_le _ _⟩
  · cases h
    exact ⟨rfl, Nat.zero_le _⟩
  · cases h
    exact ⟨rfl, Nat.le_refl _⟩

/-- Outside a join, `discard` keeps the gap: there is no joined message to keep it for. -/
theorem discard_gapped {taken : Nat} (h : d.discard taken = .ok d') (hj : d.joiningHs = none) :
    d'.Gapped ∧ d'.used ≤ d.used :=
  have hd := discard_used h
  ⟨gapped_of_none (hd.1.trans hj), hd.2⟩

/-- The end of `append_hs` writes a join with the gap and leaves `used` as it is. -/
theorem appendHsState_gapped {hs : HandshakePayloadMeta} {r : Except Error HandshakePayloadState}
    (h : d.appendHsState hs = (r, d')) (hgap : hs.Gapped d.used) :
    d'.Gapped ∧ d'.used = d.used ∧
      ∀ len, r = .ok (.complete len) → ∃ hs, d'.joiningHs = some hs ∧ len ≤ hs.payload.len := by
  unfold appendHsState at h
  cases h
  refine ⟨fun hs' hj => ?_, rfl, fun len hr => ⟨hs, rfl, ?_⟩⟩
  · cases hj
    exact hgap
  · have hc := HandshakePayloadMeta.completeLen_of_payloadState (Except.ok.inj hr)
    exact HandshakePayloadMeta.completeLen_le hc

/-- `append_hs` of a plaintext from a record that ends at `stop`, at least a
header after the plaintext would end if copied to the join's end. -/
theorem appendHs_gapped {version : Nat} {payload : List UInt8} {stop : Nat} {quic : Bool}
    {r : Except Error HandshakePayloadState} (hg : d.Gapped)
    (hlen : d.base + OpaqueMessage.headerSize + payload.length ≤ stop) (hstop : stop ≤ d.used)
    (h : d.appendHs version payload stop quic = .ok (r, d')) :
    d'.Gapped ∧ d'.used = d.used ∧
      ∀ len, r = .ok (.complete len) → ∃ hs, d'.joiningHs = some hs ∧ len ≤ hs.payload.len := by
  unfold appendHs at h
  cases hj : d.joiningHs with
  | some hs =>
    rw [hj] at h
    dsimp only at h
    rw [base_of_some hj] at hlen
    have hgap := hg hs hj
    have hgap' : ({ hs with
        message := { hs.message with stop := stop }
        payload := { hs.payload with stop := hs.payload.stop + payload.length } } :
          HandshakePayloadMeta).Gapped d.used := by
      have := hgap.header_le
      exact ⟨by simp only; omega, hstop⟩
    split_ifs at h with hquic hexp
    · -- the header may be complete now: it is read off the joined bytes
      obtain ⟨buf, -, h⟩ := bind_eq_ok.mp h
      obtain ⟨bytes, -, h⟩ := bind_eq_ok.mp h
      split at h
      · cases h
        refine ⟨fun hs' hj' => ?_, rfl, fun len hr => by cases hr⟩
        cases hj'
        exact hgap'
      · have hst := appendHsState_gapped (Except.ok.inj h) ⟨hgap'.header_le, hgap'.message_le⟩
        exact hst
    · obtain ⟨buf, -, h⟩ := bind_eq_ok.mp h
      have hst := appendHsState_gapped (Except.ok.inj h) hgap'
      exact hst
  | none =>
    rw [hj] at h
    dsimp only at h
    rw [base_of_none hj] at hlen
    split at h
    · cases h
      exact ⟨hg, rfl, fun len hr => by cases hr⟩
    · obtain ⟨buf, -, h⟩ := bind_eq_ok.mp h
      have hst := appendHsState_gapped (Except.ok.inj h)
        ⟨show payload.length + OpaqueMessage.headerSize ≤ stop by omega, hstop⟩
      exact hst

variable {dec : MessageDecrypter} {rl rl' : ReadRecordLayer} {e : Option Exit}

/-- An opened record's plaintext, the record ending at `stop`. -/
theorem handlePlaintext_gapped {stop : Nat} {msg : PlainMessage} (hg : d.Gapped)
    (hlen : d.base + OpaqueMessage.headerSize + msg.payload.length ≤ stop) (hstop : stop ≤ d.used)
    (h : d.handlePlaintext rl stop msg = .ok (e, d', rl')) :
    d'.Gapped ∧ d'.used ≤ d.used ∧ ExitJoined d' e := by
  unfold handlePlaintext at h
  split_ifs at h with hinter hother
  · cases h
    exact ⟨hg, Nat.le_refl _, trivial⟩
  · -- a record that is not a handshake record comes only outside a join
    have hj : d.joiningHs = none := by
      cases hj : d.joiningHs with
      | none => rfl
      | some hs => exact absurd ⟨by simp [hj], hother⟩ hinter
    obtain ⟨d₁, hdisc, h⟩ := bind_eq_ok.mp h
    cases h
    obtain ⟨hg₁, hused⟩ := discard_gapped hdisc hj
    exact ⟨hg₁, hused, hother⟩
  · obtain ⟨⟨r, d₁⟩, happ, h⟩ := bind_eq_ok.mp h
    obtain ⟨hg₁, hused, hcomplete⟩ := appendHs_gapped hg hlen hstop happ
    dsimp only at h
    split at h <;> cases h
    all_goals refine ⟨hg₁, Nat.le_of_eq hused, ?_⟩
    all_goals first | trivial | exact hcomplete _ rfl

/-- A record parsed off the buffer, ending at `stop`, behind the bytes joined so far. -/
theorem handleRecord_gapped (hdec : Shortening dec) {m : OpaqueMessage} {stop : Nat} (hg : d.Gapped)
    (hm : d.base + m.encode.length = stop) (hstop : stop ≤ d.used)
    (h : d.handleRecord dec rl stop m = .ok (e, d', rl')) :
    d'.Gapped ∧ d'.used ≤ d.used ∧ ExitJoined d' e := by
  unfold handleRecord at h
  by_cases hccs : m.typ = .changeCipherSpec ∧ d.joiningHs.isNone = true
  · -- `ChangeCipherSpec` outside a join goes out as it came
    rw [if_pos hccs] at h
    obtain ⟨d₁, hdisc, h⟩ := bind_eq_ok.mp h
    cases h
    obtain ⟨hg₁, hused⟩ := discard_gapped hdisc (Option.isNone_iff_eq_none.mp hccs.2)
    have htyp : m.intoPlainMessage.typ ≠ .handshake := by
      rw [show m.intoPlainMessage.typ = m.typ from rfl, hccs.1]
      decide
    exact ⟨hg₁, hused, htyp⟩
  · rw [if_neg hccs] at h
    rcases hdecr : rl.decryptIncoming dec m with ⟨_ | (_ | ⟨wantClose, p⟩), rl₁⟩ <;>
      rw [hdecr] at h <;> dsimp only at h
    · cases h
      exact ⟨hg, Nat.le_refl _, trivial⟩
    · by_cases hj : d.joiningHs.isSome = true
      · rw [if_pos hj] at h
        cases h
        exact ⟨hg, Nat.le_refl _, trivial⟩
      · rw [if_neg hj] at h
        obtain ⟨d₁, hdisc, h⟩ := bind_eq_ok.mp h
        cases h
        obtain ⟨hg₁, hused⟩ := discard_gapped hdisc (by simpa using hj)
        exact ⟨hg₁, hused, trivial⟩
    · split_ifs at h
      have hp := length_le_of_decryptIncoming hdec hdecr
      have hlen : d.base + OpaqueMessage.headerSize + p.payload.length ≤ stop := by
        rw [← hm, OpaqueMessage.length_encode]
        simp only at hp
        omega
      exact handlePlaintext_gapped hg hlen hstop h

/-- Parsing the next record off the buffer, after the records joined so far. -/
theorem readRecord_gapped (hdec : Shortening dec) (hg : d.Gapped)
    (h : d.readRecord dec rl d.base = .ok (e, d', rl')) :
    d'.Gapped ∧ d'.used ≤ d.used ∧ ExitJoined d' e := by
  unfold readRecord at h
  obtain ⟨window, hwindow, h⟩ := bind_eq_ok.mp h
  have hlen := slice_length hwindow
  split at h
  · cases h
    exact ⟨hg, Nat.le_refl _, trivial⟩
  · cases h
    exact ⟨hg, Nat.le_refl _, trivial⟩
  · cases h
    exact ⟨hg, Nat.le_refl _, trivial⟩
  · next m rest hread =>
    have hsplit := congrArg List.length (OpaqueMessage.eq_of_read hread)
    rw [List.length_append, OpaqueMessage.length_encode] at hsplit
    have hm : d.base + m.encode.length = d.base + (window.length - rest.length) := by
      rw [OpaqueMessage.length_encode]
      omega
    have hstop : d.base + (window.length - rest.length) ≤ d.used := by
      unfold OpaqueMessage.headerSize at hsplit
      omega
    exact handleRecord_gapped hdec hg hm hstop h

/-- One round of `pop`'s loop. -/
theorem popRound_gapped (hdec : Shortening dec) (hg : d.Gapped)
    (h : d.popRound dec rl = .ok (e, d', rl')) :
    d'.Gapped ∧ d'.used ≤ d.used ∧ ExitJoined d' e := by
  unfold popRound at h
  cases hj : d.joiningHs with
  | none =>
    rw [hj] at h
    dsimp only at h
    rw [← base_of_none hj] at h
    exact readRecord_gapped hdec hg h
  | some hs =>
    rw [hj] at h
    dsimp only at h
    split at h
    · next len hc =>
      cases h
      exact ⟨hg, Nat.le_refl _, hs, hj, HandshakePayloadMeta.completeLen_le hc⟩
    · split_ifs at h
      · cases h
        exact ⟨hg, Nat.le_refl _, trivial⟩
      · rw [← base_of_some hj] at h
        exact readRecord_gapped hdec hg h

/-- `pop`'s loop, for any fuel. -/
theorem popLoop_gapped (hdec : Shortening dec) :
    ∀ (n : Nat) {d d' : MessageDeframer} {rl rl' : ReadRecordLayer} {e : Exit}, d.Gapped →
      d.popLoop dec n rl = .ok (e, d', rl') → d'.Gapped ∧ d'.used ≤ d.used ∧ ExitJoined d' (some e)
  | 0, d, d', rl, rl', e, hg, h => by
    cases h
    exact ⟨hg, Nat.le_refl _, trivial⟩
  | n + 1, d, d', rl, rl', e, hg, h => by
    simp only [popLoop] at h
    obtain ⟨⟨x, d₁, rl₁⟩, hround, h⟩ := bind_eq_ok.mp h
    obtain ⟨hg₁, hused₁, hx⟩ := popRound_gapped hdec hg hround
    cases x with
    | none =>
      obtain ⟨hg', hused', he⟩ := popLoop_gapped hdec n hg₁ h
      exact ⟨hg', Nat.le_trans hused' hused₁, he⟩
    | some x =>
      cases h
      exact ⟨hg₁, hused₁, hx⟩

/-- Returning a joined message of `len` bytes: it is at least a header shorter
than `used`, since the records it came from end behind it. -/
theorem takeJoined_gapped {hs : HandshakePayloadMeta} {len : Nat}
    {r : Except Error (Option Deframed)} (hg : d.Gapped) (hj : d.joiningHs = some hs)
    (hlen : len ≤ hs.payload.len) (h : d.takeJoined len = .ok (r, d')) :
    d'.Gapped ∧ d'.used ≤ d.used ∧
      ∀ m, r = .ok (some m) → m.message.payload.length + OpaqueMessage.headerSize ≤ d.used := by
  have hgap := hg hs hj
  unfold takeJoined at h
  rw [hj, expect_some, ok_bind] at h
  obtain ⟨payload, hpayload, h⟩ := bind_eq_ok.mp h
  have hbound : payload.length + OpaqueMessage.headerSize ≤ d.used := by
    have := hgap.header_le
    have := hgap.message_le
    unfold Range.len at hlen
    rw [slice_length hpayload]
    omega
  have hnext : ∀ e, ({ hs with
      payload := { hs.payload with start := hs.payload.start + len }, expectedLen := e } :
        HandshakePayloadMeta).Gapped d.used := fun e => ⟨hgap.header_le, hgap.message_le⟩
  split_ifs at h with hlt
  · obtain ⟨rest, -, h⟩ := bind_eq_ok.mp h
    split at h
    · cases h
      refine ⟨fun hs' hj' => ?_, Nat.le_refl _, fun m hm => by cases hm⟩
      cases hj'
      exact hnext _
    · cases h
      refine ⟨fun hs' hj' => ?_, Nat.le_refl _, fun m hm => ?_⟩
      · cases hj'
        exact hnext _
      · cases hm
        exact hbound
  · obtain ⟨d₁, hdisc, h⟩ := bind_eq_ok.mp h
    cases h
    obtain ⟨hg₁, hused⟩ := discard_gapped hdisc rfl
    refine ⟨hg₁, hused, fun m hm => ?_⟩
    cases hm
    exact hbound

/-- `pop` keeps the gap and never raises `used`; a handshake message it
returns is at least a record header shorter than `used` was. -/
theorem pop_gapped (hdec : Shortening dec) {r : Except Error (Option Deframed)} (hg : d.Gapped)
    (h : d.pop dec rl = .ok (r, d', rl')) :
    d'.Gapped ∧ d'.used ≤ d.used ∧
      ∀ m, r = .ok (some m) → m.message.typ = .handshake →
        m.message.payload.length + OpaqueMessage.headerSize ≤ d.used := by
  unfold pop at h
  split_ifs at h with hdes hzero
  · cases h
    exact ⟨hg, Nat.le_refl _, fun m hm => by cases hm⟩
  · cases h
    exact ⟨hg, Nat.le_refl _, fun m hm => by cases hm⟩
  · obtain ⟨⟨exit, d₁, rl₁⟩, hloop, h⟩ := bind_eq_ok.mp h
    obtain ⟨hg₁, hused₁, hexit⟩ := popLoop_gapped hdec _ hg hloop
    cases exit with
    | ret r' =>
      cases h
      refine ⟨hg₁, hused₁, fun m hm htyp => ?_⟩
      subst hm
      exact absurd htyp hexit
    | brk len =>
      obtain ⟨hs, hj, hlen⟩ := hexit
      obtain ⟨⟨r', d₂⟩, htake, h⟩ := bind_eq_ok.mp h
      cases h
      obtain ⟨hg₂, hused₂, hbound⟩ := takeJoined_gapped hg₁ hj hlen htake
      exact ⟨hg₂, Nat.le_trans hused₂ hused₁,
        fun m hm _ => Nat.le_trans (hbound m hm) hused₁⟩

/-! ## `read` stops at `MAX_HANDSHAKE_SIZE` -/

/-- `prepare_read` leaves the live bytes and the join as they are, in a
buffer of at most `MAX_HANDSHAKE_SIZE` bytes: the larger of its two limits. -/
theorem prepareRead_le (h : d.prepareRead = .ok d') :
    d'.used = d.used ∧ d'.joiningHs = d.joiningHs ∧ d'.buf.length ≤ maxHandshakeSize := by
  have hwire : OpaqueMessage.maxWireSize ≤ maxHandshakeSize := by decide
  unfold prepareRead at h
  cases hj : d.joiningHs with
  | some hs =>
    rw [hj] at h
    dsimp only at h
    split_ifs at h with hfull hgrow hshrink <;> cases h
    · exact ⟨rfl, rfl, by rw [length_resize]; omega⟩
    · exact ⟨rfl, rfl, by rw [length_resize]; omega⟩
    · exact ⟨rfl, hj, by omega⟩
  | none =>
    rw [hj] at h
    dsimp only at h
    split_ifs at h with hfull hgrow hshrink <;> cases h
    · exact ⟨rfl, rfl, by rw [length_resize]; omega⟩
    · exact ⟨rfl, rfl, by rw [length_resize]; omega⟩
    · exact ⟨rfl, hj, by omega⟩

/-- `read` keeps the gap, and fills the buffer to at most `MAX_HANDSHAKE_SIZE` bytes. -/
theorem read_gapped {incoming : List UInt8} {n : Nat} (hg : d.Gapped)
    (h : d.read incoming = .ok (.ok (n, d'))) : d'.Gapped ∧ d'.used ≤ maxHandshakeSize := by
  unfold read at h
  split at h
  · cases h
  · next d₁ hprep =>
    obtain ⟨hused₁, hj₁, hbuf₁⟩ := prepareRead_le hprep
    obtain ⟨room, hroom, h⟩ := bind_eq_ok.mp h
    obtain ⟨buf, hclone, h⟩ := bind_eq_ok.mp h
    cases h
    have hlive : d₁.used ≤ d₁.buf.length ∧ room.length = d₁.buf.length - d₁.used := by
      unfold sliceFrom at hroom
      split_ifs at hroom with hle
      cases hroom
      exact ⟨hle, List.length_drop⟩
    refine ⟨fun hs hj => ?_, ?_⟩
    · rw [hj₁] at hj
      exact (hg hs hj).mono (by rw [← hused₁]; exact Nat.le_add_right _ _)
    · show d₁.used + min incoming.length room.length ≤ maxHandshakeSize
      omega

end MessageDeframer

/-! ## Every reachable deframer -/

/-- A message `pop` returned, if it is a handshake message, fits in
`MAX_HANDSHAKE_SIZE` bytes together with one record header. -/
def Deframed.Fits (m : Deframed) : Prop :=
  m.message.typ = .handshake → m.message.payload.length + OpaqueMessage.headerSize ≤ maxHandshakeSize

namespace Reaches

variable {d d' : MessageDeframer}

/-- Reads and pops keep the gap, and `used` within `MAX_HANDSHAKE_SIZE`. -/
theorem gapped (h : Reaches .default d) : d.Gapped ∧ d.used ≤ maxHandshakeSize := by
  induction h with
  | refl => exact ⟨MessageDeframer.gapped_of_none rfl, Nat.zero_le _⟩
  | read _ hread ih => exact MessageDeframer.read_gapped ih.1 hread
  | pop _ hdec hpop ih =>
    obtain ⟨hg, hused, -⟩ := MessageDeframer.pop_gapped hdec ih.1 hpop
    exact ⟨hg, Nat.le_trans hused ih.2⟩

/-- Every handshake message `pop` returns on a reachable deframer fits. -/
theorem pop_fits {dec : MessageDecrypter} {rl rl' : ReadRecordLayer} {m : Deframed}
    (h : Reaches .default d) (hdec : Shortening dec)
    (hpop : d.pop dec rl = .ok (.ok (some m), d', rl')) : m.Fits := by
  intro htyp
  obtain ⟨hg, hmax⟩ := h.gapped
  obtain ⟨-, -, hbound⟩ := MessageDeframer.pop_gapped hdec hg hpop
  exact Nat.le_trans (hbound m rfl htyp) hmax

end Reaches

/-! ## Runs of reads and pops -/

namespace MessageDeframer

variable {dec : MessageDecrypter}

/-- `process_new_packets` from a reachable deframer returns messages that fit,
and leaves a reachable deframer. -/
theorem popAll_fits (hdec : Shortening dec) :
    ∀ (n : Nat) {d d' : MessageDeframer} {rl rl' : ReadRecordLayer} {ms : List Deframed}
      {err : Option Error}, Reaches .default d → d.popAll dec n rl = .ok (ms, err, d', rl') →
      Reaches .default d' ∧ ∀ m ∈ ms, m.Fits
  | 0, d, d', rl, rl', ms, err, hreach, h => by
    cases h
    exact ⟨hreach, fun m hm => by cases hm⟩
  | n + 1, d, d', rl, rl', ms, err, hreach, h => by
    simp only [popAll] at h
    obtain ⟨⟨r, d₁, rl₁⟩, hpop, h⟩ := bind_eq_ok.mp h
    have hreach₁ : Reaches .default d₁ := .pop hreach hdec hpop
    rcases r with e | _ | m <;> dsimp only at h
    · cases h
      exact ⟨hreach₁, fun m hm => by cases hm⟩
    · cases h
      exact ⟨hreach₁, fun m hm => by cases hm⟩
    · obtain ⟨⟨ms', e', d₂, rl₂⟩, hall, h⟩ := bind_eq_ok.mp h
      cases h
      obtain ⟨hreach₂, hfits⟩ := popAll_fits hdec n hreach₁ hall
      refine ⟨hreach₂, fun x hx => ?_⟩
      rcases List.mem_cons.mp hx with rfl | hx
      · exact hreach.pop_fits hdec hpop
      · exact hfits x hx

/-- `read_tls` of one chunk, with the pops after each read. -/
theorem deliver_fits (hdec : Shortening dec) :
    ∀ (n : Nat) {chunk : List UInt8} {d d' : MessageDeframer} {rl rl' : ReadRecordLayer}
      {ms : List Deframed} {s : Option Stop}, Reaches .default d →
      d.deliver dec n chunk rl = .ok (ms, s, d', rl') → Reaches .default d' ∧ ∀ m ∈ ms, m.Fits
  | 0, chunk, d, d', rl, rl', ms, s, hreach, h => by
    cases h
    exact ⟨hreach, fun m hm => by cases hm⟩
  | n + 1, chunk, d, d', rl, rl', ms, s, hreach, h => by
    simp only [deliver] at h
    obtain ⟨r, hread, h⟩ := bind_eq_ok.mp h
    rcases r with err | ⟨k, d₁⟩ <;> dsimp only at h
    · cases h
      exact ⟨hreach, fun m hm => by cases hm⟩
    · have hreach₁ : Reaches .default d₁ := .read hreach hread
      obtain ⟨⟨ms₁, e, d₂, rl₂⟩, hall, h⟩ := bind_eq_ok.mp h
      obtain ⟨hreach₂, hfits₁⟩ := popAll_fits hdec _ hreach₁ hall
      rcases e with _ | e <;> dsimp only at h
      · split_ifs at h
        · cases h
          exact ⟨hreach₂, hfits₁⟩
        · obtain ⟨⟨ms', s', d₃, rl₃⟩, hdel, h⟩ := bind_eq_ok.mp h
          cases h
          obtain ⟨hreach₃, hfits'⟩ := deliver_fits hdec n hreach₂ hdel
          refine ⟨hreach₃, fun x hx => ?_⟩
          rcases List.mem_append.mp hx with hx | hx
          · exact hfits₁ x hx
          · exact hfits' x hx
      · cases h
        exact ⟨hreach₂, hfits₁⟩

/-- A run over the reader's chunks from a reachable deframer returns only
messages that fit. -/
theorem receiveAll_fits (hdec : Shortening dec) :
    ∀ (chunks : List (List UInt8)) {d d' : MessageDeframer} {rl rl' : ReadRecordLayer}
      {ms : List Deframed} {s : Option Stop}, Reaches .default d →
      d.receiveAll dec chunks rl = .ok (ms, s, d', rl') → ∀ m ∈ ms, m.Fits
  | [], d, d', rl, rl', ms, s, _, h => by
    cases h
    exact fun m hm => by cases hm
  | c :: cs, d, d', rl, rl', ms, s, hreach, h => by
    simp only [receiveAll] at h
    obtain ⟨⟨ms₁, s₁, d₁, rl₁⟩, hdel, h⟩ := bind_eq_ok.mp h
    obtain ⟨hreach₁, hfits₁⟩ := deliver_fits hdec _ hreach hdel
    rcases s₁ with _ | s₁ <;> dsimp only at h
    · obtain ⟨⟨ms', s', d₂, rl₂⟩, hrest, h⟩ := bind_eq_ok.mp h
      cases h
      intro x hx
      rcases List.mem_append.mp hx with hx | hx
      · exact hfits₁ x hx
      · exact receiveAll_fits hdec cs hreach₁ hrest x hx
    · cases h
      exact hfits₁

end MessageDeframer

/-- What a run returns of a message that fits: a handshake message at most
`MAX_HANDSHAKE_SIZE - 5` bytes long. -/
theorem Deframed.Fits.contents_le {x : Deframed} (h : x.Fits) (htyp : x.contents.typ = .handshake) :
    x.contents.payload.length + OpaqueMessage.headerSize ≤ maxHandshakeSize := by
  unfold Deframed.contents at htyp ⊢
  split_ifs at htyp ⊢ with hx
  · exact h hx
  · exact absurd htyp hx

/-! ## A message `payload_size` accepts that never comes out -/

/-- A handshake message that `payload_size` accepts but that does not fit in
`MAX_HANDSHAKE_SIZE` bytes beside a record header is never returned.  From
`MessageDeframer::default`, on any stream of valid records that the record
layer opens short into plaintexts carrying just that message, in any chunks,
the reads and pops return nothing and stop on `message buffer full`. -/
theorem large_handshake_message_fills_buffer {dec : MessageDecrypter} (hdec : Shortening dec)
    {rl : ReadRecordLayer} {rs : List OpaqueMessage} {ps : List PlainMessage} {m : List UInt8}
    (hm : HandshakeMessage m) (hlarge : maxHandshakeSize < m.length + OpaqueMessage.headerSize)
    (hvalid : ∀ r ∈ rs, r.Valid) (hopen : Opens dec rl rs ps)
    (hframed : Framed [] ps [⟨.handshake, 0, m⟩])
    (chunks : List (List UInt8)) (hchunks : chunks.flatten = encodeRecords rs) :
    payloadSize m = .ok (some m.length) ∧
      ∃ d rl', MessageDeframer.default.receiveAll dec chunks rl =
        .ok ([], some (.readFailed "message buffer full"), d, rl') := by
  refine ⟨by simpa using payloadSize_append_message hm [], ?_⟩
  obtain ⟨ms, s, d, rl', hrun, hcase⟩ :=
    MessageDeframer.receiveAll_default hvalid hopen hframed chunks hchunks
  have hfits := MessageDeframer.receiveAll_fits hdec chunks .refl hrun
  have hnever : ∀ x ∈ ms, x.contents ≠ ⟨.handshake, 0, m⟩ := by
    intro x hx hxm
    have hle := (hfits x hx).contents_le (by rw [hxm])
    rw [hxm] at hle
    exact absurd hle (Nat.not_le_of_lt hlarge)
  rcases hcase with ⟨-, hout⟩ | ⟨rfl, hpre⟩
  · have hmem : (⟨.handshake, 0, m⟩ : PlainMessage) ∈ ms.map Deframed.contents := by
      rw [hout]
      exact List.mem_singleton_self _
    obtain ⟨x, hx, hxm⟩ := List.mem_map.mp hmem
    exact absurd hxm (hnever x hx)
  · cases ms with
    | nil => exact ⟨d, rl', hrun⟩
    | cons x xs =>
      have hxm : x.contents = ⟨.handshake, 0, m⟩ := (List.cons_prefix_cons.mp hpre).1
      exact absurd hxm (hnever x List.mem_cons_self)

/-- A `ClientHello`-typed handshake message with the largest body
`payload_size` accepts: `MAX_HANDSHAKE_SIZE` zero bytes. -/
def largestMessage : List UInt8 :=
  0x01 :: encodeUInt 3 maxHandshakeSize ++ List.replicate maxHandshakeSize 0

/-- The message as a peer sends it before any key is in use: cut by
`MessageFragmenter::default` into records of at most `MAX_FRAGMENT_LEN`
bytes, unencrypted. -/
def largestRecords : List OpaqueMessage :=
  (MessageFragmenter.default.fragmentMessage ⟨.handshake, 0x0303, largestMessage⟩).map
    PlainMessage.toUnencryptedOpaque

theorem largestMessage_handshake : HandshakeMessage largestMessage :=
  ⟨0x01, List.replicate maxHandshakeSize 0, by rw [List.length_replicate]; rfl,
    Nat.le_of_eq (List.length_replicate ..)⟩

theorem length_largestMessage : largestMessage.length = headerSize + maxHandshakeSize := by
  simp only [largestMessage, List.length_append, List.length_cons, length_encodeUInt,
    List.length_replicate, headerSize]

theorem mem_largestRecords {r : OpaqueMessage} (hr : r ∈ largestRecords) :
    ∃ c, r = ⟨.handshake, 0x0303, c⟩ ∧ c ≠ [] ∧ c.length ≤ maxFragmentLen := by
  simp only [largestRecords, MessageFragmenter.fragmentMessage, MessageFragmenter.fragmentSlice,
    List.map_map, List.mem_map, Function.comp_apply] at hr
  obtain ⟨c, hc, rfl⟩ := hr
  exact ⟨c, rfl, mem_chunks hc⟩

theorem largestRecords_valid : ∀ r ∈ largestRecords, r.Valid := by
  intro r hr
  obtain ⟨c, rfl, hne, hlen⟩ := mem_largestRecords hr
  have hshort : ¬(ContentType.handshake ≠ .applicationData ∧ c.length = 0) :=
    fun h => hne (List.eq_nil_of_length_eq_zero h.2)
  have hmax : ¬(OpaqueMessage.maxPayload ≤ c.length) := by
    unfold OpaqueMessage.maxPayload
    unfold maxFragmentLen at hlen
    omega
  refine ⟨show ContentType.handshake.Canonical by decide, show 0x0303 < 2 ^ 16 by decide, ?_⟩
  show OpaqueMessage.checkHeader .handshake 0x0303 c.length = .ok ()
  unfold OpaqueMessage.checkHeader
  rw [if_neg hshort, if_neg hmax, if_neg (by decide), if_neg (by decide)]

theorem largestRecords_opens :
    Opens invalidMessageDecrypter ReadRecordLayer.new largestRecords
      (largestRecords.map OpaqueMessage.intoPlainMessage) :=
  Opens.of_not_active (by decide) fun r hr => by
    obtain ⟨c, rfl, -⟩ := mem_largestRecords hr
    show ContentType.handshake ≠ .changeCipherSpec
    decide

/-- The records carry the message's bytes, in `MAX_FRAGMENT_LEN` pieces. -/
theorem payloads_largestRecords :
    (largestRecords.map OpaqueMessage.intoPlainMessage).map PlainMessage.payload =
      chunks MessageFragmenter.default.maxFrag MessageFragmenter.default.pos largestMessage := by
  simp only [largestRecords, MessageFragmenter.fragmentMessage, MessageFragmenter.fragmentSlice,
    List.map_map]
  exact List.map_id _

theorem largestRecords_framed :
    Framed [] (largestRecords.map OpaqueMessage.intoPlainMessage) [⟨.handshake, 0, largestMessage⟩] := by
  refine Framed.of_joined largestMessage_handshake (fun p hp => ?_) ?_
  · obtain ⟨r, hr, rfl⟩ := List.mem_map.mp hp
    obtain ⟨c, rfl, hne, -⟩ := mem_largestRecords hr
    exact ⟨rfl, hne⟩
  · rw [payloads_largestRecords, List.nil_append, flatten_chunks]

theorem invalidMessageDecrypter_shortening : Shortening invalidMessageDecrypter :=
  fun _ _ _ h => by cases h

/-- The largest message `payload_size` accepts, sent in five records, read
in one chunk: the run fills the buffer and never returns it. -/
theorem largest_message_fills_buffer :
    payloadSize largestMessage = .ok (some largestMessage.length) ∧
      ∃ d rl', MessageDeframer.default.receiveAll invalidMessageDecrypter [encodeRecords largestRecords]
        ReadRecordLayer.new = .ok ([], some (.readFailed "message buffer full"), d, rl') :=
  large_handshake_message_fills_buffer invalidMessageDecrypter_shortening largestMessage_handshake
    (by rw [length_largestMessage]; decide)
    largestRecords_valid largestRecords_opens largestRecords_framed _ List.flatten_singleton

end TcplsBasics.Ports.Msgs.Deframer
