import TcplsBasics.Ports.Msgs.Deframer.Stream

/-!
# The deframer on any input

The peer controls every byte the deframer reads.  Whatever it sends, and
whatever record layer `pop` opens records with, so long as the decrypter
never lengthens a record, the buffer stays well formed: `read` and `pop`
keep `MessageDeframer.Wf`, so every slice and copy they make is in range.
`pop` can panic only at `debug_assert!(!want_close_before_decrypt)`, when it
opens a record at `read_seq = SEQ_SOFT_LIMIT`; and once desynced, the
deframer answers every `pop` with `CorruptMessage`.

The panics are found on the queue, where a step is short to follow; the
buffer raises the queue's (`pop_refines`).

## Main results

* `Queue.pop_safe`: outside QUIC, the queue's `pop` panics only at the
  want-close assertion.
* `reachable_deframer_safe`: every deframer reachable from
  `MessageDeframer::default` by reads and pops is well formed, reads without
  panicking, pops panicking only at the want-close assertion, and stays
  desynced.
* `want_close_record_panics`: that assertion does fire, on a deframer that
  has read one record, when the record layer has read `SEQ_SOFT_LIMIT`
  records; `RecordLayer::decrypt_incoming` sets the flag there and the
  connection's `deframe` expects to see it.
-/

namespace TcplsBasics.Ports.Msgs.Deframer

open TcplsBasics.Verified.Rust TcplsBasics.Verified.Results
open TcplsBasics.Ports.Errors TcplsBasics.Ports.Msgs.Enums TcplsBasics.Ports.Msgs.Message
open TcplsBasics.Ports.RecordLayer TcplsBasics.Ports.Conn.Send

/-! ## The panics of the queue's `pop` -/

namespace Queue

/-- No QUIC handshake is being joined. -/
def NoQuic (q : Queue) : Prop := ∀ j, q.joining = some j → j.quic = false

/-- A result of a step of `pop`: the want-close assertion, or a queue with
no QUIC join. -/
def Safe {α : Type} : Except Panic (α × Queue × ReadRecordLayer) → Prop
  | .ok r => r.2.1.NoQuic
  | .error p => p = wantCloseAssertion

variable {dec : MessageDecrypter} {q : Queue} {rl : ReadRecordLayer}

theorem noQuic_appendHsState {j : Joining} (hj : j.quic = false) : (q.appendHsState j).2.NoQuic := by
  rintro _ ⟨⟩
  exact hj

/-- Outside QUIC, `append_hs` never panics and starts no QUIC join. -/
theorem appendHs_noQuic (hq : q.NoQuic) (version : Nat) (payload rest : List UInt8) :
    ∃ r q', q.appendHs version payload rest false = .ok (r, q') ∧ q'.NoQuic := by
  unfold appendHs
  cases hj : q.joining with
  | none =>
    dsimp only
    cases payloadSize payload with
    | error e => exact ⟨_, q, rfl, fun j h => by rw [hj] at h; cases h⟩
    | ok e => exact ⟨_, _, rfl, noQuic_appendHsState rfl⟩
  | some j =>
    have hquic := hq j hj
    dsimp only
    rw [if_neg (by simp [hquic])]
    split_ifs
    · cases payloadSize (j.payload ++ payload) with
      | error e =>
        refine ⟨_, _, rfl, ?_⟩
        rintro _ ⟨⟩
        exact hquic
      | ok e => exact ⟨_, _, rfl, noQuic_appendHsState hquic⟩
    · exact ⟨_, _, rfl, noQuic_appendHsState hquic⟩

/-- An opened plaintext never panics the queue. -/
theorem handlePlaintext_noQuic (hq : q.NoQuic) (rl : ReadRecordLayer) (rest : List UInt8)
    (msg : PlainMessage) : ∃ r, q.handlePlaintext rl rest msg = .ok r ∧ r.2.1.NoQuic := by
  unfold handlePlaintext
  split_ifs
  · exact ⟨_, rfl, hq⟩
  · exact ⟨_, rfl, hq⟩
  · obtain ⟨r, q', happ, hq'⟩ := appendHs_noQuic hq msg.version msg.payload rest
    rw [happ, ok_bind]
    rcases r with e | (_ | len | _) <;> exact ⟨_, rfl, hq'⟩

/-- A record panics the queue only at the want-close assertion. -/
theorem handleRecord_safe (hq : q.NoQuic) (rest : List UInt8) (m : OpaqueMessage) :
    Safe (q.handleRecord dec rl rest m) := by
  unfold handleRecord
  by_cases hccs : m.typ = .changeCipherSpec ∧ q.joining.isNone = true
  · rw [if_pos hccs]
    exact hq
  · rw [if_neg hccs]
    rcases rl.decryptIncoming dec m with ⟨e | (_ | ⟨wantClose, p⟩), rl₁⟩
    · exact hq
    · dsimp only
      by_cases hj : q.joining.isSome = true
      · rw [if_pos hj]
        exact hq
      · rw [if_neg hj]
        exact hq
    · dsimp only
      cases wantClose
      · obtain ⟨r, hr, hq'⟩ := handlePlaintext_noQuic hq rl₁ rest p
        rw [if_neg Bool.false_ne_true, hr]
        exact hq'
      · rfl

theorem readRecord_safe (hq : q.NoQuic) : Safe (q.readRecord dec rl) := by
  unfold readRecord
  split
  · exact hq
  · exact hq
  · exact hq
  · exact handleRecord_safe hq _ _

theorem popRound_safe (hq : q.NoQuic) : Safe (q.popRound dec rl) := by
  unfold popRound
  split
  · split
    · exact hq
    · split_ifs
      · exact hq
      · exact readRecord_safe hq
  · exact readRecord_safe hq

theorem popLoop_safe : ∀ (n : Nat) {q : Queue} {rl : ReadRecordLayer}, q.NoQuic →
    Safe (q.popLoop dec n rl)
  | 0, _, _, hq => hq
  | n + 1, q, rl, hq => by
    have h : Safe (q.popRound dec rl) := popRound_safe hq
    simp only [popLoop]
    cases hround : q.popRound dec rl with
    | error p =>
      rw [hround] at h
      exact h
    | ok r =>
      obtain ⟨exit, q₁, rl₁⟩ := r
      rw [hround] at h
      rw [ok_bind]
      cases exit with
      | none => exact popLoop_safe n h
      | some e => exact h

/-- Returning a joined message never panics once one is joined. -/
theorem takeJoined_noQuic (hq : q.NoQuic) {j : Joining} (hj : q.joining = some j) (len : Nat) :
    ∃ r q', q.takeJoined len = .ok (r, q') ∧ q'.NoQuic := by
  have hquic := hq j hj
  unfold takeJoined
  rw [hj, expect_some, ok_bind]
  dsimp only
  split_ifs
  · cases payloadSize (j.payload.drop len) with
    | error e =>
      refine ⟨_, _, rfl, ?_⟩
      rintro _ ⟨⟩
      exact hquic
    | ok e =>
      refine ⟨_, _, rfl, ?_⟩
      rintro _ ⟨⟩
      exact hquic
  · exact ⟨_, _, rfl, fun _ h => by cases h⟩

/-- Outside QUIC, the queue's `pop` panics only at the want-close assertion. -/
theorem pop_safe (hq : q.NoQuic) : Safe (q.pop dec rl) := by
  unfold pop
  split_ifs
  · exact hq
  · exact hq
  · have h : Safe (q.popLoop dec (q.pending.length + 1) rl) := popLoop_safe _ hq
    cases hloop : q.popLoop dec (q.pending.length + 1) rl with
    | error p =>
      rw [hloop] at h
      exact h
    | ok r =>
      obtain ⟨exit, q₁, rl₁⟩ := r
      rw [hloop] at h
      rw [ok_bind]
      cases exit with
      | ret r => exact h
      | brk len =>
        obtain ⟨j, hj, -⟩ := popLoop_brk hloop
        obtain ⟨r, q', htake, hq'⟩ := takeJoined_noQuic h hj len
        dsimp only
        rw [htake, ok_bind]
        exact hq'

end Queue

/-! ## The buffer -/

namespace MessageDeframer

variable {dec : MessageDecrypter} {d : MessageDeframer} {rl : ReadRecordLayer}

theorem noQuic_view (hwf : d.Wf) : d.view.NoQuic := by
  intro j hj
  rw [view_joining, Option.map_eq_some_iff] at hj
  obtain ⟨hs, hhs, rfl⟩ := hj
  exact (hwf.joining hs hhs).not_quic

/-- With a decrypter that never lengthens a record, `pop` on a well-formed
buffer panics only at the want-close assertion. -/
theorem pop_panic (hdec : Shortening dec) (hwf : d.Wf) {p : Panic} (h : d.pop dec rl = .error p) :
    p = wantCloseAssertion := by
  have hagree : Agree RefinesStep (d.pop dec rl) (d.view.pop dec rl) := pop_refines hdec hwf
  rw [h] at hagree
  have hsafe : Queue.Safe (d.view.pop dec rl) := Queue.pop_safe (noQuic_view hwf)
  rw [Agree.error_left hagree] at hsafe
  exact hsafe

/-- `pop` keeps the buffer well formed. -/
theorem wf_of_pop (hdec : Shortening dec) (hwf : d.Wf) {r : Except Error (Option Deframed)}
    {d' : MessageDeframer} {rl' : ReadRecordLayer} (h : d.pop dec rl = .ok (r, d', rl')) : d'.Wf := by
  have hagree : Agree RefinesStep (d.pop dec rl) (d.view.pop dec rl) := pop_refines hdec hwf
  rw [h] at hagree
  obtain ⟨_, -, -, href, -⟩ := Agree.ok_left hagree
  exact href.wf

/-- `read` never panics on a well-formed buffer, and keeps it well formed. -/
theorem read_wf (hwf : d.Wf) (incoming : List UInt8) :
    ∃ r, d.read incoming = .ok r ∧ ∀ n d', r = .ok (n, d') → d'.Wf := by
  rcases read_refines hwf incoming with hfull | ⟨n, d', hread, href, -⟩
  · exact ⟨_, hfull, fun _ _ h => by cases h⟩
  · refine ⟨_, hread, ?_⟩
    rintro _ _ ⟨⟩
    exact href.wf

theorem desynced_of_read (hwf : d.Wf) {incoming : List UInt8} {n : Nat} {d' : MessageDeframer}
    (h : d.read incoming = .ok (.ok (n, d'))) : d'.desynced = d.desynced := by
  rcases read_refines hwf incoming with hfull | ⟨n', d'', hread, href, -⟩
  · rw [hfull] at h
    cases h
  · rw [hread] at h
    cases h
    rw [← view_desynced, href.view, ← view_desynced]
    rfl

/-- A desynced deframer answers `pop` with `CorruptMessage`, and stays as it is. -/
theorem pop_of_desynced (h : d.desynced = true) :
    d.pop dec rl = .ok (.error .corruptMessage, d, rl) := by
  unfold pop
  rw [if_pos h]
  rfl

end MessageDeframer

/-- The deframers reached from `d` by reads of any bytes and pops with any
record layer whose decrypter never lengthens a record. -/
inductive Reaches (d : MessageDeframer) : MessageDeframer → Prop
  | refl : Reaches d d
  | read {d₁ d₂ : MessageDeframer} {incoming : List UInt8} {n : Nat} :
      Reaches d d₁ → d₁.read incoming = .ok (.ok (n, d₂)) → Reaches d d₂
  | pop {d₁ d₂ : MessageDeframer} {dec : MessageDecrypter} {rl rl' : ReadRecordLayer}
      {r : Except Error (Option Deframed)} :
      Reaches d d₁ → Shortening dec → d₁.pop dec rl = .ok (r, d₂, rl') → Reaches d d₂

namespace Reaches

variable {d d' : MessageDeframer}

/-- Reads and pops keep the buffer well formed. -/
theorem wf (hwf : d.Wf) (h : Reaches d d') : d'.Wf := by
  induction h with
  | refl => exact hwf
  | read _ hread ih =>
    obtain ⟨r, hr, hwf'⟩ := MessageDeframer.read_wf ih _
    rw [hread] at hr
    exact hwf' _ _ (Except.ok.inj hr).symm
  | pop _ hdec hpop ih => exact MessageDeframer.wf_of_pop hdec ih hpop

/-- Once desynced, a well-formed deframer stays desynced. -/
theorem desynced (hwf : d.Wf) (hd : d.desynced = true) (h : Reaches d d') : d'.desynced = true := by
  induction h with
  | refl => exact hd
  | read hreach hread ih =>
    rw [MessageDeframer.desynced_of_read (hreach.wf hwf) hread]
    exact ih
  | pop _ _ hpop ih =>
    rw [MessageDeframer.pop_of_desynced ih] at hpop
    cases hpop
    exact ih

end Reaches

/-- The deframer never indexes out of range, whatever the peer sends.  On
every deframer reachable from `MessageDeframer::default`, `used` is within
the buffer and the joined ranges are ordered below it, with an expected
length of at most `MAX_HANDSHAKE_SIZE + 4`; `read` never panics; `pop`, with
a decrypter that never lengthens a record, panics only at the want-close
assertion; and once desynced, every later `pop` returns `CorruptMessage`. -/
theorem reachable_deframer_safe {d : MessageDeframer} (h : Reaches .default d) :
    d.used ≤ d.buf.length ∧
    (∀ hs, d.joiningHs = some hs →
      hs.payload.start ≤ hs.payload.stop ∧ hs.payload.stop ≤ hs.message.stop ∧
        hs.message.stop ≤ d.used ∧ ∀ l, hs.expectedLen = some l → l ≤ maxHandshakeSize + 4) ∧
    (∀ incoming, ∃ r, d.read incoming = .ok r) ∧
    (∀ dec rl p, Shortening dec → d.pop dec rl = .error p → p = wantCloseAssertion) ∧
    (d.desynced = true → ∀ d', Reaches d d' → ∀ dec rl, d'.pop dec rl = .ok (.error .corruptMessage, d', rl)) := by
  have hwf := h.wf MessageDeframer.default_refines.wf
  refine ⟨hwf.used_le, fun hs hj => ?_, fun incoming => ?_, fun dec rl p hdec hpop => ?_, ?_⟩
  · have hwfj := hwf.joining hs hj
    refine ⟨hwfj.start_le, hwfj.payload_le, hwfj.message_le, fun l hl => ?_⟩
    have := hwfj.expected_le l hl
    unfold headerSize at this
    omega
  · obtain ⟨r, hr, -⟩ := MessageDeframer.read_wf hwf incoming
    exact ⟨r, hr⟩
  · exact MessageDeframer.pop_panic hdec hwf hpop
  · intro hdes d' hreach dec rl
    exact MessageDeframer.pop_of_desynced (hreach.desynced hwf hdes)

set_option maxRecDepth 20000 in
/-- After a read of two records and a pop of the first, the second still
buffered. -/
theorem two_records_popped_deframer_safe :
    ∃ n d₁ r d rl', MessageDeframer.default.read (encodeRecords [closeNotifyRecord, closeNotifyRecord]) =
        .ok (.ok (n, d₁)) ∧
      d₁.pop innerTypeDecrypter ⟨0, .active, none⟩ = .ok (r, d, rl') ∧ 0 < d.used ∧
      d.used ≤ d.buf.length ∧
      (∀ hs, d.joiningHs = some hs →
        hs.payload.start ≤ hs.payload.stop ∧ hs.payload.stop ≤ hs.message.stop ∧
          hs.message.stop ≤ d.used ∧ ∀ l, hs.expectedLen = some l → l ≤ maxHandshakeSize + 4) ∧
      (∀ incoming, ∃ r, d.read incoming = .ok r) ∧
      (∀ dec rl p, Shortening dec → d.pop dec rl = .error p → p = wantCloseAssertion) ∧
      (d.desynced = true → ∀ d', Reaches d d' → ∀ dec rl, d'.pop dec rl = .ok (.error .corruptMessage, d', rl)) := by
  have h : ∃ n d₁ r d rl', MessageDeframer.default.read (encodeRecords [closeNotifyRecord, closeNotifyRecord]) =
        .ok (.ok (n, d₁)) ∧ d₁.pop innerTypeDecrypter ⟨0, .active, none⟩ = .ok (r, d, rl') ∧ 0 < d.used :=
    ⟨_, _, _, _, _, rfl, rfl, by decide⟩
  obtain ⟨n, d₁, r, d, rl', hread, hpop, hused⟩ := h
  exact ⟨n, d₁, r, d, rl', hread, hpop, hused,
    reachable_deframer_safe (.pop (.read .refl hread) innerTypeDecrypter_shortening hpop)⟩

set_option maxRecDepth 20000 in
/-- `pop` does panic, at the want-close assertion: a deframer that has read
one record opens it with a record layer at `read_seq = SEQ_SOFT_LIMIT`. -/
theorem want_close_record_panics :
    Shortening innerTypeDecrypter ∧ ∃ d, Reaches .default d ∧
      d.pop innerTypeDecrypter ⟨seqSoftLimit, .active, none⟩ = .error wantCloseAssertion := by
  have h : ∃ n d, MessageDeframer.default.read (encodeRecords [closeNotifyRecord]) = .ok (.ok (n, d)) ∧
      d.pop innerTypeDecrypter ⟨seqSoftLimit, .active, none⟩ = .error wantCloseAssertion :=
    ⟨_, _, rfl, rfl⟩
  obtain ⟨n, d, hread, hpop⟩ := h
  exact ⟨innerTypeDecrypter_shortening, d, .read .refl hread, hpop⟩

end TcplsBasics.Ports.Msgs.Deframer
