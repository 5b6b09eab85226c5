import TcplsBasics.Ports.Msgs.Deframer

/-!
# The deframer over a byte queue

`MessageDeframer` keeps three things in one buffer: the joined handshake
plaintext, the records it came from, and the bytes not yet parsed.  A
`Queue` keeps the first and the last as lists of their own, and has no
indices: `pending` is what is left to parse and `joining` holds the joined
plaintext.  Its `pop` takes the same decisions as the source's, in the same
order, with each in-place copy and each `discard` replaced by the list
operation it stands for.  `Deframer.Refinement` proves that the buffer is
an implementation of this queue.

## Main results

* `Queue.popLoop_fuel`: every round that goes on consumes a record, so a
  loop given more fuel than there are pending bytes ends the same way.
* `Queue.popLoop_brk`: the loop breaks only on a complete joined message.
-/

namespace TcplsBasics.Ports.Msgs.Deframer

open TcplsBasics.Verified.Rust
open TcplsBasics.Ports.Errors TcplsBasics.Ports.Msgs.Enums TcplsBasics.Ports.Msgs.Message
open TcplsBasics.Ports.RecordLayer

/-- The handshake plaintext being joined. -/
structure Joining where
  payload : List UInt8
  version : Nat
  expectedLen : Option Nat
  quic : Bool
deriving DecidableEq, Repr

/-- The guard `Some(len) if len <= meta.payload.len()` on the joined bytes. -/
def Joining.completeLen (j : Joining) : Option Nat :=
  match j.expectedLen with
  | some len => if len ≤ j.payload.length then some len else none
  | none => none

/-- The deframer with its buffer split into the joined plaintext and the
bytes still to parse. -/
structure Queue where
  desynced : Bool
  pending : List UInt8
  joining : Option Joining
deriving DecidableEq, Repr

namespace Queue

/-- The end of `append_hs`: whether bytes to parse are left decides between
`Continue` and `Blocked`. -/
def appendHsState (q : Queue) (j : Joining) : Except Error HandshakePayloadState × Queue :=
  (.ok (match j.completeLen with
    | some len => .complete len
    | none => if q.pending ≠ [] then .continue else .blocked),
    { q with joining := some j })

/-- `append_hs` on the queue: the record's plaintext goes after the joined
bytes, and the record leaves `pending` (for `rest`). -/
def appendHs (q : Queue) (version : Nat) (payload rest : List UInt8) (quic : Bool) :
    Except Panic (Except Error HandshakePayloadState × Queue) :=
  match q.joining with
  | some j =>
    if j.quic ≠ quic then .error quicAssertion
    else
      let j := { j with payload := j.payload ++ payload }
      let q := { q with pending := rest }
      if j.expectedLen = none then
        match payloadSize j.payload with
        | .error e => pure (.error e, { q with joining := some j })
        | .ok expectedLen => pure (q.appendHsState { j with expectedLen })
      else pure (q.appendHsState j)
  | none =>
    match payloadSize payload with
    | .error e => pure (.error e, q)
    | .ok expectedLen => pure ({ q with pending := rest }.appendHsState ⟨payload, version, expectedLen, quic⟩)

/-- An opened record's plaintext, as in `MessageDeframer.handlePlaintext`. -/
def handlePlaintext (q : Queue) (rl : ReadRecordLayer) (rest : List UInt8) (msg : PlainMessage) :
    Except Panic (Option Exit × Queue × ReadRecordLayer) :=
  if q.joining.isSome ∧ msg.typ ≠ .handshake then
    pure (some (.ret (.error (.peerMisbehaved .messageInterleavedWithHandshakeMessage))),
      { q with desynced := true }, rl)
  else if msg.typ ≠ .handshake then
    pure (some (.ret (.ok (some ⟨false, true, false, msg⟩))), { q with pending := rest }, rl)
  else do
    let (r, q) ← q.appendHs msg.version msg.payload rest false
    match r with
    | .error e => pure (some (.ret (.error e)), q, rl)
    | .ok .blocked => pure (some (.ret (.ok none)), q, rl)
    | .ok (.complete len) => pure (some (.brk len), q, rl)
    | .ok .continue => pure (none, q, rl)

/-- A record parsed off `pending`, with `rest` after it. -/
def handleRecord (dec : MessageDecrypter) (q : Queue) (rl : ReadRecordLayer) (rest : List UInt8)
    (m : OpaqueMessage) : Except Panic (Option Exit × Queue × ReadRecordLayer) :=
  if m.typ = .changeCipherSpec ∧ q.joining.isNone then
    pure (some (.ret (.ok (some ⟨false, true, false, m.intoPlainMessage⟩))), { q with pending := rest }, rl)
  else
    match rl.decryptIncoming dec m with
    | (.error e, rl) => pure (some (.ret (.error e)), q, rl)
    | (.ok none, rl) =>
      if q.joining.isSome then
        pure (some (.ret (.error (.peerMisbehaved .rejectedEarlyDataInterleavedWithHandshakeMessage))),
          { q with desynced := true }, rl)
      else pure (none, { q with pending := rest }, rl)
    | (.ok (some ⟨wantCloseBeforeDecrypt, plaintext⟩), rl) =>
      if wantCloseBeforeDecrypt then .error wantCloseAssertion
      else q.handlePlaintext rl rest plaintext

/-- Parse the next record off `pending`. -/
def readRecord (dec : MessageDecrypter) (q : Queue) (rl : ReadRecordLayer) :
    Except Panic (Option Exit × Queue × ReadRecordLayer) :=
  match OpaqueMessage.read q.pending with
  | .error .tooShortForHeader => pure (some (.ret (.ok none)), q, rl)
  | .error .tooShortForLength => pure (some (.ret (.ok none)), q, rl)
  | .error _ => pure (some (.ret (.error .corruptMessage)), { q with desynced := true }, rl)
  | .ok (m, rest) => q.handleRecord dec rl rest m

/-- One round of `pop`'s loop; `none` is `continue`. -/
def popRound (dec : MessageDecrypter) (q : Queue) (rl : ReadRecordLayer) :
    Except Panic (Option Exit × Queue × ReadRecordLayer) :=
  match q.joining with
  | some j =>
    match j.completeLen with
    | some len => pure (some (.brk len), q, rl)
    | none => if j.quic then pure (some (.ret (.ok none)), q, rl) else q.readRecord dec rl
  | none => q.readRecord dec rl

/-- `pop`'s loop, on fuel. -/
def popLoop (dec : MessageDecrypter) :
    Nat → Queue → ReadRecordLayer → Except Panic (Exit × Queue × ReadRecordLayer)
  | 0, q, rl => pure (.ret (.ok none), q, rl)
  | fuel + 1, q, rl => do
    let (exit, q, rl) ← q.popRound dec rl
    match exit with
    | none => popLoop dec fuel q rl
    | some exit => pure (exit, q, rl)

/-- The joined message of `expectedLen` bytes, and what is left joined. -/
def takeJoined (q : Queue) (expectedLen : Nat) :
    Except Panic (Except Error (Option Deframed) × Queue) := do
  let j ← expect q.joining unwrapNone
  let message : PlainMessage := ⟨.handshake, j.version, j.payload.take expectedLen⟩
  if expectedLen < j.payload.length then
    let j := { j with payload := j.payload.drop expectedLen }
    match payloadSize j.payload with
    | .error e => pure (.error e, { q with joining := some j })
    | .ok expectedLen =>
      pure (.ok (some ⟨false, false, true, message⟩), { q with joining := some { j with expectedLen } })
  else pure (.ok (some ⟨false, true, true, message⟩), { q with joining := none })

/-- `pop` on the queue, with fuel for every pending byte. -/
def pop (dec : MessageDecrypter) (q : Queue) (rl : ReadRecordLayer) :
    Except Panic (Except Error (Option Deframed) × Queue × ReadRecordLayer) :=
  if q.desynced then pure (.error .corruptMessage, q, rl)
  else if q.pending = [] ∧ q.joining = none then pure (.ok none, q, rl)
  else do
    let (exit, q, rl) ← q.popLoop dec (q.pending.length + 1) rl
    match exit with
    | .ret r => pure (r, q, rl)
    | .brk len => do
      let (r, q) ← q.takeJoined len
      pure (r, q, rl)

/-- Bytes from the peer join the end of `pending`. -/
def receive (q : Queue) (bytes : List UInt8) : Queue := { q with pending := q.pending ++ bytes }

/-- The record at the front of `pending`, if a round of `pop` opens it now,
comes out of `decrypt_incoming` no longer than it went in, or is a
`ChangeCipherSpec` that goes out as it is. -/
def RoundShort (dec : MessageDecrypter) (q : Queue) (rl : ReadRecordLayer) : Prop :=
  ∀ m rest, OpaqueMessage.read q.pending = .ok (m, rest) →
    (∀ j, q.joining = some j → j.completeLen = none) →
    (m.typ = .changeCipherSpec ∧ q.joining.isNone = true) ∨ ShortAt dec rl m

/-- `RoundShort` at every round of `pop`'s loop on fuel `n`. -/
def ShortRun (dec : MessageDecrypter) : Nat → Queue → ReadRecordLayer → Prop
  | 0, _, _ => True
  | n + 1, q, rl => q.RoundShort dec rl ∧
    ∀ q' rl', q.popRound dec rl = .ok (none, q', rl') → ShortRun dec n q' rl'

/-- A decrypter that never lengthens a record is short at every round. -/
theorem shortRun_of_shortening {dec : MessageDecrypter} (hdec : Shortening dec) :
    ∀ (n : Nat) (q : Queue) (rl : ReadRecordLayer), q.ShortRun dec n rl
  | 0, _, _ => trivial
  | n + 1, _, rl => ⟨fun m _ _ _ => .inr (Shortening.shortAt hdec rl m),
    fun q' rl' _ => shortRun_of_shortening hdec n q' rl'⟩

/-! ## How the loop goes on and how it breaks -/

variable {dec : MessageDecrypter} {q q' : Queue} {rl rl' : ReadRecordLayer}

/-- `append_hs` leaves `pending` at `rest` whenever it reaches a payload state. -/
theorem appendHs_pending {version : Nat} {payload rest : List UInt8} {quic : Bool}
    {s : HandshakePayloadState} (h : q.appendHs version payload rest quic = .ok (.ok s, q')) :
    q'.pending = rest := by
  unfold appendHs at h
  split at h
  · dsimp only at h
    split_ifs at h
    · split at h <;> cases h
      rfl
    · cases h
      rfl
  · split at h <;> cases h
    rfl

/-- A plaintext handled without returning was a handshake message appended by
`append_hs`: the round goes on at a `Continue` state and breaks at a complete one. -/
theorem handlePlaintext_appended {rest : List UInt8} {msg : PlainMessage} {e : Option Exit}
    (h : q.handlePlaintext rl rest msg = .ok (e, q', rl')) (he : ∀ r, e ≠ some (.ret r)) :
    (e = none ∧ q.appendHs msg.version msg.payload rest false = .ok (.ok .continue, q')) ∨
      ∃ len, e = some (.brk len) ∧ q.appendHs msg.version msg.payload rest false = .ok (.ok (.complete len), q') := by
  unfold handlePlaintext at h
  split_ifs at h
  · cases h
    exact absurd rfl (he _)
  · cases h
    exact absurd rfl (he _)
  · cases happ : q.appendHs msg.version msg.payload rest false with
    | error p => rw [happ] at h; cases h
    | ok r =>
      obtain ⟨r, q₁⟩ := r
      rw [happ] at h
      -- the state `append_hs` reached decides the exit
      cases r with
      | error e => cases h; exact absurd rfl (he _)
      | ok s =>
        cases s with
        | blocked => cases h; exact absurd rfl (he _)
        | complete len => cases h; exact .inr ⟨len, rfl, rfl⟩
        | «continue» => cases h; exact .inl ⟨rfl, rfl⟩

/-- A record handled without returning was either dropped outside a join,
the round going on with `rest`, or decrypted to a plaintext handled so. -/
theorem handleRecord_onward {rest : List UInt8} {m : OpaqueMessage} {e : Option Exit}
    (h : q.handleRecord dec rl rest m = .ok (e, q', rl')) (he : ∀ r, e ≠ some (.ret r)) :
    (e = none ∧ q'.pending = rest) ∨ ∃ rl₁ p, q.handlePlaintext rl₁ rest p = .ok (e, q', rl') := by
  unfold handleRecord at h
  by_cases hccs : m.typ = .changeCipherSpec ∧ q.joining.isNone = true
  · rw [if_pos hccs] at h
    cases h
    exact absurd rfl (he _)
  · rw [if_neg hccs] at h
    rcases hdec : rl.decryptIncoming dec m with ⟨e | (_ | ⟨wantClose, p⟩), rl₁⟩ <;>
      rw [hdec] at h <;> dsimp only at h
    · cases h
      exact absurd rfl (he _)
    · -- a dropped record goes on outside a join only
      by_cases hj : q.joining.isSome = true
      · rw [if_pos hj] at h
        cases h
        exact absurd rfl (he _)
      · rw [if_neg hj] at h
        cases h
        exact .inl ⟨rfl, rfl⟩
    · cases wantClose
      · exact .inr ⟨rl₁, p, h⟩
      · cases h

/-- `handlePlaintext` goes on only after appending a record's plaintext, with
`rest` left to parse. -/
theorem handlePlaintext_next {rest : List UInt8} {msg : PlainMessage}
    (h : q.handlePlaintext rl rest msg = .ok (none, q', rl')) : q'.pending = rest := by
  rcases handlePlaintext_appended h (by simp) with ⟨-, happ⟩ | ⟨len, hbrk, -⟩
  · exact appendHs_pending happ
  · cases hbrk

/-- `handleRecord` goes on only with `rest` left to parse. -/
theorem handleRecord_next {rest : List UInt8} {m : OpaqueMessage}
    (h : q.handleRecord dec rl rest m = .ok (none, q', rl')) : q'.pending = rest := by
  rcases handleRecord_onward h (by simp) with ⟨-, hrest⟩ | ⟨rl₁, p, hp⟩
  · exact hrest
  · exact handlePlaintext_next hp

/-- A round that goes on has consumed the record at the front of `pending`. -/
theorem popRound_next (h : q.popRound dec rl = .ok (none, q', rl')) :
    ∃ m, OpaqueMessage.read q.pending = .ok (m, q'.pending) := by
  have hread : q.readRecord dec rl = .ok (none, q', rl') →
      ∃ m, OpaqueMessage.read q.pending = .ok (m, q'.pending) := by
    intro h
    unfold readRecord at h
    split at h
    · cases h
    · cases h
    · cases h
    · next m rest hm =>
      exact ⟨m, by rw [hm, handleRecord_next h]⟩
  unfold popRound at h
  split at h
  · split at h
    · cases h
    · split_ifs at h
      · cases h
      · exact hread h
  · exact hread h

theorem appendHsState_complete {j : Joining} {len : Nat}
    (h : q.appendHsState j = (.ok (.complete len), q')) :
    q'.joining = some j ∧ j.completeLen = some len := by
  unfold appendHsState at h
  cases hj : j.completeLen with
  | some len' =>
    rw [hj] at h
    cases h
    exact ⟨rfl, rfl⟩
  | none =>
    rw [hj] at h
    split_ifs at h <;> cases h

/-- `append_hs` reports a complete message only when the joined bytes hold one. -/
theorem appendHs_complete {version : Nat} {payload rest : List UInt8} {quic : Bool} {len : Nat}
    (h : q.appendHs version payload rest quic = .ok (.ok (.complete len), q')) :
    ∃ j, q'.joining = some j ∧ j.completeLen = some len := by
  unfold appendHs at h
  split at h
  · dsimp only at h
    split_ifs at h
    · split at h
      · cases h
      · exact ⟨_, appendHsState_complete (Except.ok.inj h)⟩
    · exact ⟨_, appendHsState_complete (Except.ok.inj h)⟩
  · split at h
    · cases h
    · exact ⟨_, appendHsState_complete (Except.ok.inj h)⟩

theorem handlePlaintext_brk {rest : List UInt8} {msg : PlainMessage} {len : Nat}
    (h : q.handlePlaintext rl rest msg = .ok (some (.brk len), q', rl')) :
    ∃ j, q'.joining = some j ∧ j.completeLen = some len := by
  rcases handlePlaintext_appended h (by simp) with ⟨hnone, -⟩ | ⟨len', hbrk, happ⟩
  · cases hnone
  · cases hbrk
    exact appendHs_complete happ

theorem handleRecord_brk {rest : List UInt8} {m : OpaqueMessage} {len : Nat}
    (h : q.handleRecord dec rl rest m = .ok (some (.brk len), q', rl')) :
    ∃ j, q'.joining = some j ∧ j.completeLen = some len := by
  rcases handleRecord_onward h (by simp) with ⟨hnone, -⟩ | ⟨rl₁, p, hp⟩
  · cases hnone
  · exact handlePlaintext_brk hp

/-- A round breaks only on a complete joined message. -/
theorem popRound_brk {len : Nat} (h : q.popRound dec rl = .ok (some (.brk len), q', rl')) :
    ∃ j, q'.joining = some j ∧ j.completeLen = some len := by
  have hread : q.readRecord dec rl = .ok (some (.brk len), q', rl') →
      ∃ j, q'.joining = some j ∧ j.completeLen = some len := by
    intro h
    unfold readRecord at h
    split at h
    · cases h
    · cases h
    · cases h
    · exact handleRecord_brk h
  unfold popRound at h
  split at h
  · next j hj =>
    split at h
    · next len' hlen =>
      cases h
      exact ⟨j, hj, hlen⟩
    · split_ifs at h
      · cases h
      · exact hread h
  · exact hread h

/-- The loop breaks only on a complete joined message. -/
theorem popLoop_brk :
    ∀ {n : Nat} {q q' : Queue} {rl rl' : ReadRecordLayer} {len : Nat},
      popLoop dec n q rl = .ok (.brk len, q', rl') →
      ∃ j, q'.joining = some j ∧ j.completeLen = some len
  | 0, _, _, _, _, _, h => by cases h
  | n + 1, q, q', rl, rl', len, h => by
    simp only [popLoop] at h
    cases hround : q.popRound dec rl with
    | error p => rw [hround] at h; cases h
    | ok r =>
      obtain ⟨exit, q₁, rl₁⟩ := r
      rw [hround] at h
      cases exit with
      | none => exact popLoop_brk h
      | some exit =>
        cases h
        exact popRound_brk hround

/-- More fuel than pending bytes is enough: the loop then ends as with any more. -/
theorem popLoop_fuel :
    ∀ (n m : Nat) (q : Queue) (rl : ReadRecordLayer), q.pending.length < n → n ≤ m →
      popLoop dec m q rl = popLoop dec n q rl
  | 0, _, _, _, hn, _ => absurd hn (Nat.not_lt_zero _)
  | n + 1, m + 1, q, rl, hn, hm => by
    simp only [popLoop]
    cases hround : q.popRound dec rl with
    | error p => rfl
    | ok r =>
      obtain ⟨exit, q₁, rl₁⟩ := r
      cases exit with
      | some exit => rfl
      | none =>
        -- the round consumed a record of at least a header's length
        obtain ⟨msg, hmsg⟩ := popRound_next hround
        have hlen := congrArg List.length (OpaqueMessage.eq_of_read hmsg)
        simp only [List.length_append, OpaqueMessage.length_encode] at hlen
        exact popLoop_fuel n m q₁ rl₁ (by unfold OpaqueMessage.headerSize at hlen; omega) (by omega)

end Queue

end TcplsBasics.Ports.Msgs.Deframer
