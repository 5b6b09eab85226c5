import TcplsBasics.Ports.Msgs.Deframer.Queue
import TcplsBasics.Verified.Agree

/-!
# The buffer implements the queue

`MessageDeframer.view` reads a `Queue` off the buffer: the bytes still to
parse are `buf[base..used]`, after the joined records, and the joined
plaintext is `buf[payload.start..payload.end]`.  `Wf` is what keeps those
ranges inside the buffer and in order.  Each function of the deframer,
started in a well-formed state, ends as the queue's function does on the
view: with the same panic, or the same result in a well-formed state whose
view is the queue's state (`Refines`).  Nothing else is assumed of the
record layer than that its decrypter never lengthens a record: that is
what keeps the in-place copy of a handshake plaintext below the bytes still
to parse.

## Main results

* `pop_refines`: `pop` on the buffer is `Queue.pop` on its view.
* `read_refines`: `read` either reports a full buffer or appends to the view
  as many bytes as it says, at least one.
-/

namespace TcplsBasics.Ports.Msgs.Deframer

open TcplsBasics.Verified.Rust TcplsBasics.Verified.Results
open TcplsBasics.Ports.Errors TcplsBasics.Ports.Msgs.Enums TcplsBasics.Ports.Msgs.Message
open TcplsBasics.Ports.RecordLayer

/-! ## The view of the buffer -/

/-- The joined plaintext, `buf[payload.start..payload.end]`. -/
def HandshakePayloadMeta.joining (hs : HandshakePayloadMeta) (buf : List UInt8) : Joining :=
  ⟨(buf.take hs.payload.stop).drop hs.payload.start, hs.version, hs.expectedLen, hs.quic⟩

namespace MessageDeframer

/-- Where the bytes still to parse start: after the joined records, if any. -/
def base (d : MessageDeframer) : Nat :=
  match d.joiningHs with
  | some hs => hs.message.stop
  | none => 0

/-- The queue the buffer holds. -/
def view (d : MessageDeframer) : Queue :=
  ⟨d.desynced, (d.buf.take d.used).drop d.base, d.joiningHs.map (·.joining d.buf)⟩

end MessageDeframer

/-- The ranges of a join, in order and below `used`. -/
structure HandshakePayloadMeta.Wf (hs : HandshakePayloadMeta) (used : Nat) : Prop where
  start_le : hs.payload.start ≤ hs.payload.stop
  payload_le : hs.payload.stop ≤ hs.message.stop
  message_le : hs.message.stop ≤ used
  message_pos : 0 < hs.message.stop
  not_quic : hs.quic = false
  expected_le : ∀ l, hs.expectedLen = some l → l ≤ headerSize + maxHandshakeSize

/-- A well-formed deframer: the live bytes are in the buffer, and so is the join. -/
structure MessageDeframer.Wf (d : MessageDeframer) : Prop where
  used_le : d.used ≤ d.buf.length
  joining : ∀ hs, d.joiningHs = some hs → hs.Wf d.used

/-- The deframer `d` is well formed and holds the queue `q`. -/
structure Refines (d : MessageDeframer) (q : Queue) : Prop where
  wf : d.Wf
  view : d.view = q

/-- A round's or `pop`'s result on the buffer and on the queue: the same
outcome and record layer, and a buffer that holds the queue. -/
def RefinesStep {α : Type} (x : α × MessageDeframer × ReadRecordLayer)
    (y : α × Queue × ReadRecordLayer) : Prop :=
  x.1 = y.1 ∧ Refines x.2.1 y.2.1 ∧ x.2.2 = y.2.2

/-- A result with a deframer and one with a queue: the same value, and a
buffer that holds the queue. -/
def RefinesPair {α : Type} (x : α × MessageDeframer) (y : α × Queue) : Prop :=
  x.1 = y.1 ∧ Refines x.2 y.2

/-! ## Reading the view -/

/-- A complete joined message lies within the joined payload. -/
theorem HandshakePayloadMeta.completeLen_le {hs : HandshakePayloadMeta} {len : Nat}
    (h : hs.completeLen = some len) : len ≤ hs.payload.len := by
  unfold HandshakePayloadMeta.completeLen at h
  split at h
  · split_ifs at h with hle
    cases h
    exact hle
  · cases h

section View

variable {d : MessageDeframer} {hs : HandshakePayloadMeta}

@[simp] theorem view_desynced : d.view.desynced = d.desynced := rfl

@[simp] theorem view_pending : d.view.pending = (d.buf.take d.used).drop d.base := rfl

@[simp] theorem view_joining : d.view.joining = d.joiningHs.map (·.joining d.buf) := rfl

theorem base_of_none (h : d.joiningHs = none) : d.base = 0 := by
  simp [MessageDeframer.base, h]

theorem base_of_some (h : d.joiningHs = some hs) : d.base = hs.message.stop := by
  simp [MessageDeframer.base, h]

/-- The bytes still to parse start no later than `used`. -/
theorem base_le (hwf : d.Wf) : d.base ≤ d.used := by
  cases h : d.joiningHs with
  | none => rw [base_of_none h]; exact Nat.zero_le _
  | some hs => rw [base_of_some h]; exact (hwf.joining hs h).message_le

/-- `buf[base..used]`, the slice `pop` parses, is the view's `pending`. -/
theorem slice_base (hwf : d.Wf) : slice d.buf d.base d.used = .ok d.view.pending := by
  rw [slice_eq_ok (base_le hwf) hwf.used_le, view_pending, List.drop_take]

theorem length_pending (hwf : d.Wf) : d.view.pending.length = d.used - d.base := by
  simp only [view_pending, List.length_drop, List.length_take]
  have := hwf.used_le
  omega

theorem length_joining {buf : List UInt8} {used : Nat} (hwf : hs.Wf used) (hused : used ≤ buf.length) :
    (hs.joining buf).payload.length = hs.payload.len := by
  have := hwf.payload_le
  have := hwf.message_le
  simp only [HandshakePayloadMeta.joining, List.length_drop, List.length_take, Range.len]
  omega

/-- The guard on the joined message reads the same off the ranges and off the bytes. -/
theorem completeLen_joining {buf : List UInt8} {used : Nat} (hwf : hs.Wf used)
    (hused : used ≤ buf.length) : (hs.joining buf).completeLen = hs.completeLen := by
  simp only [Joining.completeLen, HandshakePayloadMeta.completeLen, length_joining hwf hused]
  rfl

/-- The join of a state is well formed once its ranges are. -/
theorem wf_of_joining {d : MessageDeframer} (hused : d.used ≤ d.buf.length)
    (hj : d.joiningHs = some hs) (hwf : hs.Wf d.used) : d.Wf :=
  ⟨hused, fun hs' h => by rw [hj] at h; cases h; exact hwf⟩

/-- A state outside a join is well formed once its live bytes are in the buffer. -/
theorem wf_of_none {d : MessageDeframer} (hused : d.used ≤ d.buf.length) (hj : d.joiningHs = none) :
    d.Wf :=
  ⟨hused, fun hs h => by rw [hj] at h; cases h⟩

/-- A state inside a join holds the queue of its ranges. -/
theorem refines_of_joining {d : MessageDeframer} (hused : d.used ≤ d.buf.length)
    (hj : d.joiningHs = some hs) (hwf : hs.Wf d.used) :
    Refines d ⟨d.desynced, (d.buf.take d.used).drop hs.message.stop, some (hs.joining d.buf)⟩ :=
  ⟨wf_of_joining hused hj hwf, by simp [MessageDeframer.view, MessageDeframer.base, hj]⟩

end View

/-- Every length `payload_size` announces is within `MAX_HANDSHAKE_SIZE` plus the header. -/
theorem payloadSize_le {b : List UInt8} {l : Nat} (h : payloadSize b = .ok (some l)) :
    l ≤ headerSize + maxHandshakeSize := by
  unfold payloadSize at h
  split_ifs at h
  · cases h
  · split at h
    · split_ifs at h with hmax
      cases h
      exact Nat.add_le_add_left (Nat.le_of_not_lt hmax) _
    · cases h

/-! ## Dropping parsed bytes -/

/-- `discard` outside a join drops the first `taken` bytes still to parse. -/
theorem discard_refines {d : MessageDeframer} (hwf : d.Wf) (hj : d.joiningHs = none) {taken : Nat}
    (h : taken ≤ d.used) :
    ∃ d', d.discard taken = .ok d' ∧ Refines d' { d.view with pending := d.view.pending.drop taken } := by
  have hused := hwf.used_le
  unfold MessageDeframer.discard
  by_cases hlt : taken < d.used
  · rw [if_pos hlt, copyWithin_eq_ok (Nat.le_of_lt hlt) hused (by omega)]
    have hlive : (d.buf.drop taken).take (d.used - taken) = (d.buf.take d.used).drop taken :=
      List.drop_take.symm
    have hlen : ((d.buf.take d.used).drop taken).length = d.used - taken := by
      simp only [List.length_take, List.length_drop]
      omega
    refine ⟨_, rfl, wf_of_none (by simp; omega) hj, ?_⟩
    simp only [MessageDeframer.view, MessageDeframer.base, hj, Option.map_none, List.drop_zero,
      List.take_zero, List.nil_append, Nat.zero_add, hlive]
    rw [List.take_left' hlen]
  · have heq : taken = d.used := by omega
    rw [if_neg hlt, if_pos heq]
    refine ⟨_, rfl, wf_of_none (Nat.zero_le _) hj, ?_⟩
    have hdrop : ((d.buf.take d.used).drop 0).drop taken = [] :=
      List.drop_eq_nil_of_le (by simp; omega)
    simp only [MessageDeframer.view, MessageDeframer.base, hj, Option.map_none, List.take_zero,
      List.drop_nil, hdrop]

/-! ## Joining a handshake plaintext -/

/-- The end of `append_hs` on the buffer and on the queue agree once the join
it writes is well formed and the queue holds the bytes after it. -/
theorem appendHsState_refines {d : MessageDeframer} {hs : HandshakePayloadMeta} {q : Queue}
    (hused : d.used ≤ d.buf.length) (hwf : hs.Wf d.used) (hdes : q.desynced = d.desynced)
    (hpend : q.pending = (d.buf.take d.used).drop hs.message.stop) :
    RefinesPair (d.appendHsState hs) (q.appendHsState (hs.joining d.buf)) := by
  have hrest : q.pending ≠ [] ↔ hs.message.stop < d.used := by
    rw [hpend, Ne, ← List.length_eq_zero_iff]
    simp only [List.length_drop, List.length_take]
    omega
  refine ⟨?_, wf_of_joining hused rfl hwf, ?_⟩
  · simp only [MessageDeframer.appendHsState, Queue.appendHsState, HandshakePayloadMeta.payloadState,
      completeLen_joining hwf hused]
    cases hs.completeLen with
    | some len => rfl
    | none => simp only [hrest]
  · simp [MessageDeframer.appendHsState, Queue.appendHsState, MessageDeframer.view,
      MessageDeframer.base, hdes, hpend]

/-- `append_hs` outside a join: the plaintext is copied to the front of the
buffer, below the record it came from. -/
theorem appendHs_refines_of_none {d : MessageDeframer} (hwf : d.Wf) (hj : d.joiningHs = none)
    {version : Nat} {payload : List UInt8} {stop : Nat} (hlen : payload.length ≤ stop)
    (hpos : 0 < stop) (hstop : stop ≤ d.used) :
    Agree RefinesPair (d.appendHs version payload stop false)
      (d.view.appendHs version payload ((d.buf.take d.used).drop stop) false) := by
  have hused := hwf.used_le
  have hj' : d.view.joining = none := by simp [hj]
  unfold MessageDeframer.appendHs Queue.appendHs
  rw [hj, hj']
  dsimp only
  cases hsize : payloadSize payload with
  | error e => exact ⟨rfl, hwf, rfl⟩
  | ok expectedLen =>
    dsimp only
    have hp : payload.length ≤ d.buf.length := by omega
    rw [cloneFromSlice_eq_ok (Nat.zero_le _) hp (by simp)]
    have hjoin : (HandshakePayloadMeta.mk ⟨0, stop⟩ ⟨0, payload.length⟩ version expectedLen false).joining
        (d.buf.take 0 ++ payload ++ d.buf.drop payload.length) = ⟨payload, version, expectedLen, false⟩ := by
      simp only [HandshakePayloadMeta.joining]
      rw [drop_take_splice_self (by simp) (Nat.zero_le _) hp (Nat.le_refl 0)]
      simp
    have hwf' : (HandshakePayloadMeta.mk ⟨0, stop⟩ ⟨0, payload.length⟩ version expectedLen false).Wf d.used :=
      ⟨Nat.zero_le _, hlen, hstop, hpos, rfl,
        fun l (hl : expectedLen = some l) => payloadSize_le (hl ▸ hsize)⟩
    have h := appendHsState_refines (d := { d with buf := d.buf.take 0 ++ payload ++ d.buf.drop payload.length })
      (q := { d.view with pending := (d.buf.take d.used).drop stop }) (by simp; omega) hwf' rfl
      (drop_take_splice_of_le (by simp) (Nat.zero_le _) hp hlen).symm
    rw [hjoin] at h
    exact h

/-- `append_hs` inside a join: the plaintext is copied after the joined bytes,
over the records they came from and below the bytes still to parse. -/
theorem appendHs_refines_of_some {d : MessageDeframer} (hwf : d.Wf) {hs : HandshakePayloadMeta}
    (hj : d.joiningHs = some hs) {version : Nat} {payload : List UInt8} {stop : Nat}
    (hlen : hs.message.stop + payload.length ≤ stop) (hstop : stop ≤ d.used) :
    Agree RefinesPair (d.appendHs version payload stop false)
      (d.view.appendHs version payload ((d.buf.take d.used).drop stop) false) := by
  have hused := hwf.used_le
  have hwfj := hwf.joining hs hj
  have hlen' : hs.payload.stop + payload.length ≤ stop := by have := hwfj.payload_le; omega
  have hj' : d.view.joining = some (hs.joining d.buf) := by simp [hj]
  have hp : hs.payload.stop + payload.length ≤ d.buf.length := by omega
  unfold MessageDeframer.appendHs Queue.appendHs
  rw [hj, hj']
  dsimp only
  rw [if_neg (by simp [hwfj.not_quic]), if_neg (by simp [HandshakePayloadMeta.joining, hwfj.not_quic]),
    cloneFromSlice_eq_ok (Nat.le_add_right _ _) hp (by simp), ok_bind]
  let buf := d.buf.take hs.payload.stop ++ payload ++ d.buf.drop (hs.payload.stop + payload.length)
  let hs' : HandshakePayloadMeta := { hs with
    message := { hs.message with stop := stop }
    payload := { hs.payload with stop := hs.payload.stop + payload.length } }
  have hbuf : buf.length = d.buf.length := length_splice (by simp) (Nat.le_add_right _ _) hp
  have hbytes : (buf.take (hs.payload.stop + payload.length)).drop hs.payload.start =
      (hs.joining d.buf).payload ++ payload :=
    drop_take_splice_self (by simp) (Nat.le_add_right _ _) hp hwfj.start_le
  have hjoin : ∀ e, { hs' with expectedLen := e }.joining buf =
      { hs.joining d.buf with payload := (hs.joining d.buf).payload ++ payload, expectedLen := e } := by
    intro e
    simp only [HandshakePayloadMeta.joining]
    rw [hbytes]
    rfl
  have hrest : (buf.take d.used).drop stop = (d.buf.take d.used).drop stop :=
    drop_take_splice_of_le (by simp) (Nat.le_add_right _ _) hp hlen'
  have hwf' : ∀ e, (∀ l, e = some l → l ≤ headerSize + maxHandshakeSize) →
      ({ hs' with expectedLen := e }).Wf d.used := fun e he =>
    ⟨Nat.le_trans hwfj.start_le (Nat.le_add_right _ _), hlen', hstop,
      Nat.lt_of_lt_of_le hwfj.message_pos (Nat.le_trans (Nat.le_add_right _ _) hlen),
      hwfj.not_quic, he⟩
  have hused' : d.used ≤ buf.length := by rw [hbuf]; exact hused
  by_cases hexp : hs.expectedLen = none
  · -- the header may be complete now: it is read off the joined bytes
    rw [if_pos hexp, if_pos (show (hs.joining d.buf).expectedLen = none from hexp),
      slice_eq_ok (Nat.le_trans hwfj.start_le (Nat.le_add_right _ _)) (by rw [hbuf]; exact hp),
      ok_bind, ← List.drop_take, hbytes]
    cases hsize : payloadSize ((hs.joining d.buf).payload ++ payload) with
    | error e =>
      have h := refines_of_joining (d := { d with buf, joiningHs := some { hs' with expectedLen := hs.expectedLen } })
        hused' rfl (hwf' _ hwfj.expected_le)
      rw [hjoin, hrest] at h
      exact ⟨rfl, h⟩
    | ok expectedLen =>
      have h := @appendHsState_refines { d with buf } { hs' with expectedLen }
        ⟨d.desynced, (d.buf.take d.used).drop stop, some (hs.joining d.buf)⟩ hused'
        (hwf' _ fun l (hl : expectedLen = some l) => payloadSize_le (hl ▸ hsize)) rfl hrest.symm
      rw [hjoin] at h
      exact h
  · rw [if_neg hexp, if_neg (show ¬(hs.joining d.buf).expectedLen = none from hexp)]
    have h := @appendHsState_refines { d with buf } { hs' with expectedLen := hs.expectedLen }
      ⟨d.desynced, (d.buf.take d.used).drop stop, some (hs.joining d.buf)⟩ hused'
      (hwf' _ hwfj.expected_le) rfl hrest.symm
    rw [hjoin] at h
    exact h

/-- `append_hs` on a record that ends at `stop`, after the bytes joined so far. -/
theorem appendHs_refines {d : MessageDeframer} (hwf : d.Wf) {version : Nat} {payload : List UInt8}
    {stop : Nat} (hlen : d.base + payload.length ≤ stop) (hpos : 0 < stop) (hstop : stop ≤ d.used) :
    Agree RefinesPair (d.appendHs version payload stop false)
      (d.view.appendHs version payload ((d.buf.take d.used).drop stop) false) := by
  cases hj : d.joiningHs with
  | none =>
    rw [base_of_none hj, Nat.zero_add] at hlen
    exact appendHs_refines_of_none hwf hj hlen hpos hstop
  | some hs =>
    rw [base_of_some hj] at hlen
    exact appendHs_refines_of_some hwf hj hlen hstop

/-! ## A round of `pop` -/

section Round

variable {dec : MessageDecrypter} {d : MessageDeframer} {rl : ReadRecordLayer}

/-- Marking the deframer desynced marks its queue so. -/
theorem refines_desynced (hwf : d.Wf) :
    Refines { d with desynced := true } { d.view with desynced := true } :=
  ⟨⟨hwf.used_le, hwf.joining⟩, rfl⟩

/-- An opened record's plaintext, the record ending at `stop`: the buffer and
the queue take the same branch. -/
theorem handlePlaintext_refines (hwf : d.Wf) {stop : Nat} {msg : PlainMessage}
    (hlen : d.base + msg.payload.length ≤ stop) (hpos : 0 < stop) (hstop : stop ≤ d.used) :
    Agree RefinesStep (d.handlePlaintext rl stop msg)
      (d.view.handlePlaintext rl ((d.buf.take d.used).drop stop) msg) := by
  have hsome : d.view.joining.isSome = d.joiningHs.isSome := by simp
  unfold MessageDeframer.handlePlaintext Queue.handlePlaintext
  rw [hsome]
  by_cases hinter : d.joiningHs.isSome = true ∧ msg.typ ≠ .handshake
  · rw [if_pos hinter, if_pos hinter]
    exact ⟨rfl, refines_desynced hwf, rfl⟩
  · rw [if_neg hinter, if_neg hinter]
    by_cases hother : msg.typ ≠ .handshake
    · -- a record that is not a handshake record comes only outside a join
      have hj : d.joiningHs = none := by
        cases hj : d.joiningHs with
        | none => rfl
        | some hs => exact absurd ⟨by simp [hj], hother⟩ hinter
      rw [if_pos hother, if_pos hother]
      obtain ⟨d', hdisc, href⟩ := discard_refines hwf hj hstop
      rw [hdisc, ok_bind]
      refine ⟨rfl, ?_, rfl⟩
      simpa [base_of_none hj] using href
    · rw [if_neg hother, if_neg hother]
      refine Agree.bind (appendHs_refines hwf hlen hpos hstop) ?_
      rintro ⟨r, d'⟩ ⟨r', q'⟩ ⟨rfl, href⟩
      cases r with
      | error e => exact ⟨rfl, href, rfl⟩
      | ok s => cases s <;> exact ⟨rfl, href, rfl⟩

/-- A record parsed off the buffer, ending at `stop`. -/
theorem handleRecord_refines (hwf : d.Wf) {m : OpaqueMessage} {stop : Nat}
    (hshort : (m.typ = .changeCipherSpec ∧ d.joiningHs.isNone = true) ∨ ShortAt dec rl m)
    (hm : d.base + m.encode.length = stop) (hstop : stop ≤ d.used) :
    Agree RefinesStep (d.handleRecord dec rl stop m)
      (d.view.handleRecord dec rl ((d.buf.take d.used).drop stop) m) := by
  have hnone : d.view.joining.isNone = d.joiningHs.isNone := by simp
  have hsome : d.view.joining.isSome = d.joiningHs.isSome := by simp
  have hpos : 0 < stop := by
    rw [← hm, OpaqueMessage.length_encode]
    unfold OpaqueMessage.headerSize
    omega
  unfold MessageDeframer.handleRecord Queue.handleRecord
  rw [hnone, hsome]
  by_cases hccs : m.typ = .changeCipherSpec ∧ d.joiningHs.isNone = true
  · -- `ChangeCipherSpec` outside a join goes out as it came
    have hj : d.joiningHs = none := Option.isNone_iff_eq_none.mp hccs.2
    rw [if_pos hccs, if_pos hccs]
    obtain ⟨d', hdisc, href⟩ := discard_refines hwf hj hstop
    rw [hdisc, ok_bind]
    refine ⟨rfl, ?_, rfl⟩
    simpa [base_of_none hj] using href
  · rw [if_neg hccs, if_neg hccs]
    rcases hdecr : rl.decryptIncoming dec m with ⟨e | (_ | ⟨wantClose, p⟩), rl₁⟩ <;> dsimp only
    · exact ⟨rfl, ⟨hwf, rfl⟩, rfl⟩
    · by_cases hj : d.joiningHs.isSome = true
      · rw [if_pos hj, if_pos hj]
        exact ⟨rfl, refines_desynced hwf, rfl⟩
      · have hj' : d.joiningHs = none := by simpa using hj
        rw [if_neg hj, if_neg hj]
        obtain ⟨d', hdisc, href⟩ := discard_refines hwf hj' hstop
        rw [hdisc, ok_bind]
        refine ⟨rfl, ?_, rfl⟩
        simpa [base_of_none hj'] using href
    · cases wantClose
      · -- the plaintext is no longer than the record, so it fits below `stop`
        have hp := (hshort.resolve_left hccs) _ _ hdecr
        have hlen : d.base + p.payload.length ≤ stop := by
          rw [← hm, OpaqueMessage.length_encode]
          simp only at hp
          omega
        exact handlePlaintext_refines hwf hlen hpos hstop
      · exact Agree.error _

/-- Decrypting the record at the front of the queue returns no plaintext longer
than it, unless it is a `ChangeCipherSpec` that goes out undecrypted. -/
def FrontShort (dec : MessageDecrypter) (d : MessageDeframer) (rl : ReadRecordLayer) : Prop :=
  ∀ m rest, OpaqueMessage.read d.view.pending = .ok (m, rest) →
    (m.typ = .changeCipherSpec ∧ d.joiningHs.isNone = true) ∨ ShortAt dec rl m

/-- Parsing the next record off the buffer is parsing it off the queue. -/
theorem readRecord_refines (hshort : FrontShort dec d rl) (hwf : d.Wf) :
    Agree RefinesStep (d.readRecord dec rl d.base) (d.view.readRecord dec rl) := by
  unfold MessageDeframer.readRecord Queue.readRecord
  rw [slice_base hwf, ok_bind]
  cases hread : OpaqueMessage.read d.view.pending with
  | error e =>
    cases e <;> first | exact ⟨rfl, ⟨hwf, rfl⟩, rfl⟩ | exact ⟨rfl, refines_desynced hwf, rfl⟩
  | ok r =>
    obtain ⟨m, rest⟩ := r
    dsimp only
    have hsplit := OpaqueMessage.eq_of_read hread
    have hlen := congrArg List.length hsplit
    rw [List.length_append] at hlen
    have hrest : (d.buf.take d.used).drop (d.base + m.encode.length) = rest := by
      rw [← List.drop_drop, ← view_pending, hsplit, List.drop_left]
    have hstop : d.base + m.encode.length ≤ d.used := by
      have := length_pending hwf
      have := base_le hwf
      omega
    have h := handleRecord_refines hwf (hshort m rest hread) rfl hstop
    rw [hrest] at h
    rw [show d.view.pending.length - rest.length = m.encode.length by omega]
    exact h

/-- A round that opens the front record opens it short. -/
theorem frontShort_of_roundShort (hshort : d.view.RoundShort dec rl)
    (hc : ∀ j, d.view.joining = some j → j.completeLen = none) : FrontShort dec d rl := by
  intro m rest hread
  have hnone : d.view.joining.isNone = d.joiningHs.isNone := by
    rw [view_joining, Option.isNone_map]
  rw [← hnone]
  exact hshort m rest hread hc

/-- One round of `pop`'s loop on the buffer is one on the queue. -/
theorem popRound_refines (hshort : d.view.RoundShort dec rl) (hwf : d.Wf) :
    Agree RefinesStep (d.popRound dec rl) (d.view.popRound dec rl) := by
  unfold MessageDeframer.popRound Queue.popRound
  cases hj : d.joiningHs with
  | none =>
    have hj' : d.view.joining = none := by simp [hj]
    rw [hj']
    dsimp only
    have h := readRecord_refines (frontShort_of_roundShort hshort (by rw [hj']; simp)) hwf
    rwa [base_of_none hj] at h
  | some hs =>
    have hwfj := hwf.joining hs hj
    have hj' : d.view.joining = some (hs.joining d.buf) := by simp [hj]
    rw [hj']
    dsimp only
    rw [completeLen_joining hwfj hwf.used_le]
    cases hc : hs.completeLen with
    | some len => exact ⟨rfl, ⟨hwf, rfl⟩, rfl⟩
    | none =>
      dsimp only
      rw [show (hs.joining d.buf).quic = false from hwfj.not_quic, hwfj.not_quic]
      have hc' : ∀ j, d.view.joining = some j → j.completeLen = none := by
        rintro j hj''
        rw [hj', Option.some.injEq] at hj''
        rw [← hj'', completeLen_joining hwfj hwf.used_le, hc]
      have h := readRecord_refines (frontShort_of_roundShort hshort hc') hwf
      rwa [base_of_some hj] at h

/-- `pop`'s loop on the buffer is the loop on the queue, for any fuel. -/
theorem popLoop_refines :
    ∀ (n : Nat) (d : MessageDeframer) (rl : ReadRecordLayer), d.Wf → d.view.ShortRun dec n rl →
      Agree RefinesStep (d.popLoop dec n rl) (d.view.popLoop dec n rl)
  | 0, d, rl, hwf, _ => ⟨rfl, ⟨hwf, rfl⟩, rfl⟩
  | n + 1, d, rl, hwf, ⟨hshort, hnext⟩ => by
    simp only [MessageDeframer.popLoop, Queue.popLoop]
    refine Agree.bind_ok (popRound_refines hshort hwf) ?_
    rintro ⟨exit, d', rl'⟩ ⟨exit', q', rl''⟩ hround ⟨hexit, href, hrl⟩
    dsimp only at hexit hrl href
    subst hexit hrl
    cases exit with
    | none =>
      have h := popLoop_refines n d' rl' href.wf (href.view ▸ hnext q' rl' hround)
      rwa [href.view] at h
    | some e => exact ⟨rfl, href, rfl⟩

end Round

/-! ## `pop` -/

section Pop

variable {dec : MessageDecrypter} {d : MessageDeframer} {rl : ReadRecordLayer}

/-- Returning a complete joined message: its bytes are the front of the
joined plaintext, and what follows them stays joined. -/
theorem takeJoined_refines (hwf : d.Wf) {hs : HandshakePayloadMeta} (hj : d.joiningHs = some hs)
    {len : Nat} (hc : hs.completeLen = some len) :
    Agree RefinesPair (d.takeJoined len) (d.view.takeJoined len) := by
  have hwfj := hwf.joining hs hj
  have hused := hwf.used_le
  have hle := HandshakePayloadMeta.completeLen_le hc
  have hstart := hwfj.start_le
  have hstop : hs.payload.stop ≤ d.buf.length := by
    have := hwfj.payload_le
    have := hwfj.message_le
    omega
  unfold Range.len at hle
  have hj' : d.view.joining = some (hs.joining d.buf) := by simp [hj]
  unfold MessageDeframer.takeJoined Queue.takeJoined
  rw [hj, hj', expect_some, expect_some, ok_bind, ok_bind,
    slice_eq_ok (Nat.le_add_right _ _) (by omega), ok_bind]
  have hmsg : (d.buf.drop hs.payload.start).take (hs.payload.start + len - hs.payload.start) =
      (hs.joining d.buf).payload.take len := by
    simp only [HandshakePayloadMeta.joining, List.drop_take, List.take_take, Nat.add_sub_cancel_left]
    congr 1
    omega
  rw [hmsg, show (hs.joining d.buf).payload.length = hs.payload.len from length_joining hwfj hused]
  by_cases hmore : len < hs.payload.len
  · rw [if_pos hmore, if_pos hmore]
    dsimp only
    rw [slice_eq_ok (by unfold Range.len at hmore; omega) hstop, ok_bind]
    have hleft : (d.buf.drop (hs.payload.start + len)).take (hs.payload.stop - (hs.payload.start + len)) =
        (hs.joining d.buf).payload.drop len := by
      simp only [HandshakePayloadMeta.joining, List.drop_take, List.drop_drop]
      congr 1
      omega
    rw [hleft]
    let hs' : HandshakePayloadMeta := { hs with payload := { hs.payload with start := hs.payload.start + len } }
    have hjoin : ∀ e, { hs' with expectedLen := e }.joining d.buf =
        { hs.joining d.buf with payload := (hs.joining d.buf).payload.drop len, expectedLen := e } := by
      intro e
      simp only [HandshakePayloadMeta.joining, List.drop_drop]
      congr 1
    have hwf' : ∀ e, (∀ l, e = some l → l ≤ headerSize + maxHandshakeSize) →
        ({ hs' with expectedLen := e }).Wf d.used := fun e he =>
      ⟨by unfold Range.len at hmore; show hs.payload.start + len ≤ hs.payload.stop; omega,
        hwfj.payload_le, hwfj.message_le, hwfj.message_pos, hwfj.not_quic, he⟩
    cases hsize : payloadSize ((hs.joining d.buf).payload.drop len) with
    | error e =>
      have h := refines_of_joining (d := { d with joiningHs := some { hs' with expectedLen := hs.expectedLen } })
        hused rfl (hwf' _ hwfj.expected_le)
      rw [hjoin] at h
      refine ⟨rfl, ?_⟩
      rw [view_pending, base_of_some hj]
      exact h
    | ok expectedLen =>
      have h := refines_of_joining (d := { d with joiningHs := some { hs' with expectedLen } })
        hused rfl (hwf' _ fun l (hl : expectedLen = some l) => payloadSize_le (hl ▸ hsize))
      rw [hjoin] at h
      refine ⟨rfl, ?_⟩
      rw [view_pending, base_of_some hj]
      exact h
  · -- the last joined message: the joined records go
    rw [if_neg hmore, if_neg hmore]
    obtain ⟨d', hdisc, href⟩ := discard_refines (d := { d with joiningHs := none })
      (wf_of_none hused rfl) rfl hwfj.message_le
    rw [hdisc, ok_bind]
    refine ⟨rfl, ?_⟩
    simpa [MessageDeframer.view, MessageDeframer.base, hj] using href

/-- `used == 0` is the queue holding nothing. -/
theorem used_eq_zero_iff (hwf : d.Wf) : d.used = 0 ↔ d.view.pending = [] ∧ d.view.joining = none := by
  constructor
  · intro h0
    have hj : d.joiningHs = none := by
      cases hj : d.joiningHs with
      | none => rfl
      | some hs =>
        have := (hwf.joining hs hj).message_pos
        have := (hwf.joining hs hj).message_le
        omega
    simp [hj, h0]
  · rintro ⟨hp, hj⟩
    have hj' : d.joiningHs = none := by simpa using hj
    have hlen := length_pending hwf
    rw [hp, base_of_none hj'] at hlen
    simp at hlen
    omega

/-- `pop` on the buffer is `pop` on its queue, when every record its loop
opens comes out no longer: the same panic, or the same result in a
well-formed state holding the queue's. -/
theorem pop_refines_of_shortRun (hshort : d.view.ShortRun dec (d.used + 1) rl) (hwf : d.Wf) :
    Agree RefinesStep (d.pop dec rl) (d.view.pop dec rl) := by
  unfold MessageDeframer.pop Queue.pop
  rw [view_desynced]
  by_cases hdes : d.desynced = true
  · rw [if_pos hdes, if_pos hdes]
    exact ⟨rfl, ⟨hwf, rfl⟩, rfl⟩
  · rw [if_neg hdes, if_neg hdes]
    by_cases hzero : d.used = 0
    · rw [if_pos hzero, if_pos ((used_eq_zero_iff hwf).mp hzero)]
      exact ⟨rfl, ⟨hwf, rfl⟩, rfl⟩
    · rw [if_neg hzero, if_neg (mt (used_eq_zero_iff hwf).mpr hzero)]
      -- the queue's fuel is its pending bytes; the buffer's is `used`, no less
      have hfuel : d.view.pending.length ≤ d.used := by
        rw [length_pending hwf]
        omega
      rw [← Queue.popLoop_fuel (d.view.pending.length + 1) (d.used + 1) d.view rl (Nat.lt_succ_self _)
        (Nat.succ_le_succ hfuel)]
      refine Agree.bind_ok (popLoop_refines (d.used + 1) d rl hwf hshort) ?_
      rintro ⟨exit, d', rl'⟩ ⟨exit', q', rl''⟩ hloop ⟨hexit, href, hrl⟩
      dsimp only at hexit hrl href
      subst hexit hrl
      cases exit with
      | ret r => exact ⟨rfl, href, rfl⟩
      | brk len =>
        obtain ⟨j, hj, hc⟩ := Queue.popLoop_brk hloop
        rw [← href.view, view_joining, Option.map_eq_some_iff] at hj
        obtain ⟨hs, hhs, rfl⟩ := hj
        rw [completeLen_joining (href.wf.joining hs hhs) href.wf.used_le] at hc
        have h := takeJoined_refines href.wf hhs hc
        rw [href.view] at h
        refine Agree.bind h ?_
        rintro ⟨r, d''⟩ ⟨r', q''⟩ ⟨rfl, href'⟩
        exact ⟨rfl, href', rfl⟩

/-- `pop` on the buffer is `pop` on its queue, with a decrypter that never
lengthens a record. -/
theorem pop_refines (hdec : Shortening dec) (hwf : d.Wf) :
    Agree RefinesStep (d.pop dec rl) (d.view.pop dec rl) :=
  pop_refines_of_shortRun (Queue.shortRun_of_shortening hdec _ _ _) hwf

end Pop

/-! ## `read` -/

section Read

variable {d : MessageDeframer}

/-- A buffer that keeps the live bytes holds the same queue. -/
theorem view_of_take_eq (hwf : d.Wf) {buf : List UInt8} (h : buf.take d.used = d.buf.take d.used) :
    { d with buf }.view = d.view := by
  have htake : ∀ k, k ≤ d.used → buf.take k = d.buf.take k := fun k hk => by
    rw [← Nat.min_eq_left hk, ← List.take_take, h, List.take_take]
  simp only [MessageDeframer.view, MessageDeframer.base, h]
  congr 1
  cases hj : d.joiningHs with
  | none => rfl
  | some hs =>
    have hwfj := hwf.joining hs hj
    simp only [Option.map_some, HandshakePayloadMeta.joining,
      htake _ (Nat.le_trans hwfj.payload_le hwfj.message_le)]

/-- `prepare_read` either refuses, or leaves room after `used` with the live
bytes where they were. -/
theorem prepareRead_cases (hwf : d.Wf) :
    d.prepareRead = .error "message buffer full" ∨
      ∃ buf, d.prepareRead = .ok { d with buf } ∧ d.used < buf.length ∧
        buf.take d.used = d.buf.take d.used := by
  have hused := hwf.used_le
  unfold MessageDeframer.prepareRead
  dsimp only
  split_ifs with hfull hgrow hshrink
  · exact .inl rfl
  · exact .inr ⟨_, rfl, by simp only [length_resize, readSize]; omega,
      take_resize 0 (by simp only [readSize]; omega) hused⟩
  · exact .inr ⟨_, rfl, by simp only [length_resize, readSize]; omega,
      take_resize 0 (by simp only [readSize]; omega) hused⟩
  · exact .inr ⟨d.buf, rfl, by simp only [readSize] at hgrow; omega, rfl⟩

/-- `read` either reports a full buffer, or appends to the queue as many of the
incoming bytes as it says it read: no more than there are, and at least one
when there are any. -/
theorem read_refines (hwf : d.Wf) (incoming : List UInt8) :
    d.read incoming = .ok (.error "message buffer full") ∨
      ∃ n d', d.read incoming = .ok (.ok (n, d')) ∧ Refines d' (d.view.receive (incoming.take n)) ∧
        n ≤ incoming.length ∧ (incoming ≠ [] → 0 < n) := by
  unfold MessageDeframer.read
  rcases prepareRead_cases hwf with hfull | ⟨buf, hprep, hroom, hlive⟩
  · rw [hfull]
    exact .inl rfl
  · rw [hprep]
    dsimp only
    rw [sliceFrom_eq_ok (Nat.le_of_lt hroom), ok_bind]
    let n := min incoming.length (buf.drop d.used).length
    have hn : d.used + n ≤ buf.length := by simp only [n, List.length_drop]; omega
    have hsrc : (incoming.take n).length = d.used + n - d.used := by
      rw [List.length_take, Nat.add_sub_cancel_left]
      exact Nat.min_eq_left (Nat.min_le_left _ _)
    rw [cloneFromSlice_eq_ok (Nat.le_add_right _ _) hn hsrc, ok_bind]
    refine .inr ⟨n, _, rfl, ⟨?_, ?_⟩, Nat.min_le_left _ _, fun hne => ?_⟩
    · -- the new bytes lie below the buffer's end, and the join below `used`
      have hlen := length_splice hsrc (Nat.le_add_right _ _) hn
      refine ⟨by rw [hlen]; exact hn, fun hs hj => ?_⟩
      have hwfj := hwf.joining hs hj
      exact ⟨hwfj.start_le, hwfj.payload_le, Nat.le_trans hwfj.message_le (Nat.le_add_right _ _),
        hwfj.message_pos, hwfj.not_quic, hwfj.expected_le⟩
    · -- the new bytes follow the live ones, and the join is below them
      have hview := view_of_take_eq hwf hlive
      have hbase : d.base ≤ d.used := base_le hwf
      have hfront : (buf.take d.used ++ incoming.take n).length = d.used + n := by
        simp only [List.length_append, List.length_take]
        omega
      rw [← hview]
      show Queue.mk d.desynced
          (((buf.take d.used ++ incoming.take n ++ buf.drop (d.used + n)).take (d.used + n)).drop d.base)
          (d.joiningHs.map (·.joining (buf.take d.used ++ incoming.take n ++ buf.drop (d.used + n)))) =
        Queue.mk d.desynced ((buf.take d.used).drop d.base ++ incoming.take n)
          (d.joiningHs.map (·.joining buf))
      rw [List.take_left' hfront, List.drop_append_of_le_length (by simp only [List.length_take]; omega)]
      congr 1
      cases hj : d.joiningHs with
      | none => rfl
      | some hs =>
        have hwfj := hwf.joining hs hj
        simp only [Option.map_some, HandshakePayloadMeta.joining,
          take_splice_of_le (Nat.le_trans hwfj.payload_le hwfj.message_le) (Nat.le_of_lt hroom)]
    · have hpos : 0 < incoming.length := List.length_pos_of_ne_nil hne
      simp only [n, List.length_drop]
      omega

end Read

end TcplsBasics.Ports.Msgs.Deframer
