import TcplsBasics.Ports.VecBuf
import TcplsBasics.Ports.Error
import TcplsBasics.Verified.Rust

/-!
# Early data on the server (`server/server_conn.rs`, `server/tls13.rs`)

A TLS 1.3 server that accepts 0-RTT data keeps it in a `ChunkVecBuffer`
limited to `max_early_data_size` (`EarlyDataState::accept`).  In
`ExpectEarlyData` every ApplicationData record goes through
`take_received_plaintext`, which takes the record whole when `apply_limit`
lets all of it in and otherwise makes `handle` fail with
`TooMuchEarlyDataReceived`.  The application reads the buffer through
`ServerConnection::early_data()` (`ReadEarlyData`) whenever it likes.

`apply_limit` measures the room against what the buffer holds now, not
against what has come in: a read frees room, and the next records take it
again.  What the buffer holds stays within the limit (`earlyRun_bounded`), and
a phase without reads takes at most `max_early_data_size` bytes
(`earlyRun_records_le`); with reads, the bytes taken in are not bounded at
all (`earlyData_accepted_past_limit`).

`EarlyDataRun` is the early-data phase as a sequence of events, and
`earlyRun` also counts the bytes `take_received_plaintext` took, a count
the source does not keep.
-/

namespace TcplsBasics.Ports.Server.EarlyData

open TcplsBasics.Verified.Rust TcplsBasics.Ports.VecBuf TcplsBasics.Ports.Errors

/-- `EarlyDataState`. -/
inductive EarlyDataState where
  | new
  | accepted (received : ChunkVecBuffer)
  | rejected
deriving DecidableEq, Repr

namespace EarlyDataState

/-- `EarlyDataState::accept`. -/
def accept (maxSize : Nat) : EarlyDataState := .accepted (ChunkVecBuffer.new (some maxSize))

/-- `EarlyDataState::read`, behind `ReadEarlyData`: the bytes read, or the
`BrokenPipe` error unless early data was accepted. -/
def read (s : EarlyDataState) (room : Nat) : Except Unit Nat × EarlyDataState :=
  match s with
  | .accepted received => ((.ok (received.read room).1), .accepted (received.read room).2)
  | s => (.error (), s)

/-- `EarlyDataState::take_received_plaintext`: the whole record, if the
limit lets all of it in. -/
def takeReceivedPlaintext (s : EarlyDataState) (bytes : List UInt8) : Bool × EarlyDataState :=
  let available := bytes.length
  match s with
  | .accepted received =>
    if received.applyLimit available = available then (true, .accepted (received.append bytes).2)
    else (false, s)
  | _ => (false, s)

end EarlyDataState

/-- `ExpectEarlyData::handle` on an ApplicationData record. -/
def expectEarlyData (s : EarlyDataState) (payload : List UInt8) : Except Fatal EarlyDataState :=
  match s.takeReceivedPlaintext payload with
  | (true, s) => .ok s
  | (false, _) => .error ⟨some .unexpectedMessage, .peerMisbehaved .tooMuchEarlyDataReceived⟩

/-- What happens in the early-data phase: a record from the client, or a read
by the application into a buffer of `room` bytes. -/
inductive EarlyDataEvent where
  | record (payload : List UInt8)
  | read (room : Nat)
deriving DecidableEq, Repr

/-- The phase, event by event, until `handle` fails: the state, and the bytes
`take_received_plaintext` took. -/
def earlyRun (s : EarlyDataState) : List EarlyDataEvent → Except Fatal (EarlyDataState × Nat)
  | [] => .ok (s, 0)
  | .record payload :: rest => do
      let s ← expectEarlyData s payload
      let r ← earlyRun s rest
      return (r.1, payload.length + r.2)
  | .read room :: rest => earlyRun (s.read room).2 rest

/-! ## What the buffer holds -/

/-- Accepted early data, with the buffer within `maxSize`. -/
def Bounded (maxSize : Nat) (s : EarlyDataState) : Prop :=
  ∃ received, s = .accepted received ∧ received.limit = some maxSize ∧ received.len ≤ maxSize

theorem bounded_accept (maxSize : Nat) : Bounded maxSize (EarlyDataState.accept maxSize) :=
  ⟨_, rfl, rfl, Nat.zero_le _⟩

/-- A record goes in exactly when it fits beside what the buffer holds. -/
theorem expectEarlyData_accepted {received : ChunkVecBuffer} {maxSize : Nat}
    (hlimit : received.limit = some maxSize) (hlen : received.len ≤ maxSize)
    (payload : List UInt8) :
    expectEarlyData (.accepted received) payload
      = if received.len + payload.length ≤ maxSize then .ok (.accepted (received.append payload).2)
        else .error ⟨some .unexpectedMessage, .peerMisbehaved .tooMuchEarlyDataReceived⟩ := by
  have hfits : (received.applyLimit payload.length = payload.length)
      ↔ received.len + payload.length ≤ maxSize := by
    simp only [ChunkVecBuffer.applyLimit, hlimit]
    omega
  unfold expectEarlyData EarlyDataState.takeReceivedPlaintext
  dsimp only
  by_cases h : received.len + payload.length ≤ maxSize
  · rw [if_pos (hfits.mpr h), if_pos h]
  · rw [if_neg (fun h' => h (hfits.mp h')), if_neg h]

theorem Bounded.expectEarlyData {maxSize : Nat} {s s' : EarlyDataState} (hs : Bounded maxSize s)
    {payload : List UInt8} (h : expectEarlyData s payload = .ok s') : Bounded maxSize s' := by
  obtain ⟨received, rfl, hlimit, hlen⟩ := hs
  rw [expectEarlyData_accepted hlimit hlen] at h
  split at h
  · cases h
    rename_i hfit
    refine ⟨_, rfl, by rw [ChunkVecBuffer.limit_append]; exact hlimit, ?_⟩
    simp only [ChunkVecBuffer.len_eq_length_bytes, ChunkVecBuffer.bytes_append,
      List.length_append] at hfit ⊢
    exact hfit
  · cases h

theorem Bounded.read {maxSize : Nat} {s : EarlyDataState} (hs : Bounded maxSize s) (room : Nat) :
    Bounded maxSize (s.read room).2 := by
  obtain ⟨received, rfl, hlimit, hlen⟩ := hs
  obtain ⟨-, hbytes, hlimit'⟩ := received.read_spec room
  refine ⟨_, rfl, by rw [hlimit']; exact hlimit, ?_⟩
  rw [ChunkVecBuffer.len_eq_length_bytes, hbytes, List.length_drop]
  rw [ChunkVecBuffer.len_eq_length_bytes] at hlen
  omega

/-- **The buffer stays within the limit** along every phase. -/
theorem earlyRun_bounded {maxSize : Nat} :
    ∀ {s : EarlyDataState} {events : List EarlyDataEvent} {s' : EarlyDataState} {taken : Nat},
      Bounded maxSize s → earlyRun s events = .ok (s', taken) → Bounded maxSize s'
  | s, [], s', taken, hs, h => by
      cases h
      exact hs
  | s, .record payload :: rest, s', taken, hs, h => by
      obtain ⟨s₁, h₁, h⟩ := bind_eq_ok.mp h
      obtain ⟨⟨s₂, taken₂⟩, h₂, h⟩ := bind_eq_ok.mp h
      cases h
      exact earlyRun_bounded (hs.expectEarlyData h₁) h₂
  | s, .read room :: rest, s', taken, hs, h => earlyRun_bounded (hs.read room) h

/-- Without reads, what the records brought is all still in the buffer. -/
theorem earlyRun_records {maxSize : Nat} :
    ∀ {received : ChunkVecBuffer} {payloads : List (List UInt8)} {s' : EarlyDataState}
      {taken : Nat}, received.limit = some maxSize → received.len ≤ maxSize →
      earlyRun (.accepted received) (payloads.map .record) = .ok (s', taken) →
      ∃ received', s' = .accepted received' ∧ received'.len = received.len + taken
  | received, [], s', taken, _, _, h => by
      cases h
      exact ⟨received, rfl, rfl⟩
  | received, p :: ps, s', taken, hlimit, hlen, h => by
      obtain ⟨s₁, h₁, h⟩ := bind_eq_ok.mp h
      rw [expectEarlyData_accepted hlimit hlen] at h₁
      split at h₁
      · cases h₁
        rename_i hfit
        obtain ⟨⟨s₂, taken₂⟩, h₂, h⟩ := bind_eq_ok.mp h
        cases h
        have hlen₁ : (received.append p).2.len = received.len + p.length := by
          simp only [ChunkVecBuffer.len_eq_length_bytes, ChunkVecBuffer.bytes_append,
            List.length_append]
        obtain ⟨received', rfl, hreceived'⟩ := earlyRun_records
          (by rw [ChunkVecBuffer.limit_append]; exact hlimit) (by omega) h₂
        exact ⟨received', rfl, by omega⟩
      · cases h₁

/-- **Without reads, at most `max_early_data_size` bytes go in.**  What the
tests see: a phase of records alone. -/
theorem earlyRun_records_le (maxSize : Nat) (payloads : List (List UInt8)) {s' : EarlyDataState}
    {taken : Nat}
    (h : earlyRun (EarlyDataState.accept maxSize) (payloads.map .record) = .ok (s', taken)) :
    taken ≤ maxSize := by
  obtain ⟨received', rfl, hreceived'⟩ := earlyRun_records rfl (Nat.zero_le _) h
  obtain ⟨received, heq, -, hle⟩ := earlyRun_bounded (bounded_accept maxSize) h
  cases heq
  have hnew : (ChunkVecBuffer.new (some maxSize)).len = 0 := rfl
  omega

/-- Records of two bytes and one byte, under a limit of four. -/
theorem three_bytes_taken_within_limit :
    earlyRun (EarlyDataState.accept 4) ([[1, 2], [3]].map .record) =
        .ok (.accepted ⟨[[1, 2], [3]], some 4⟩, 3) ∧ 3 ≤ 4 := by
  have h : earlyRun (EarlyDataState.accept 4) ([[1, 2], [3]].map .record) =
      .ok (.accepted ⟨[[1, 2], [3]], some 4⟩, 3) := rfl
  exact ⟨h, earlyRun_records_le 4 [[1, 2], [3]] h⟩

/-! ## What the phase takes in -/

/-- A record, then a read of all of it: the application reading early data as
it comes. -/
def recordThenRead (payload : List UInt8) : List EarlyDataEvent :=
  [.record payload, .read payload.length]

/-- From an empty buffer, records that each fit the limit, each read right
away, all go in. -/
theorem earlyRun_drained {maxSize : Nat} :
    ∀ {received : ChunkVecBuffer} (payloads : List (List UInt8)),
      received.limit = some maxSize → received.len = 0 → (∀ p ∈ payloads, p.length ≤ maxSize) →
      ∃ s', earlyRun (.accepted received) (payloads.flatMap recordThenRead)
        = .ok (s', (payloads.map List.length).sum)
  | received, [], _, _, _ => ⟨_, rfl⟩
  | received, p :: ps, hlimit, hempty, hps => by
      have hp := hps p List.mem_cons_self
      have h₁ := expectEarlyData_accepted hlimit (by omega) p
      rw [if_pos (by omega)] at h₁
      obtain ⟨hk, hbytes, hlimit₂⟩ := ((received.append p).2).read_spec p.length
      have hlen₁ : (received.append p).2.len = p.length := by
        rw [ChunkVecBuffer.len_eq_length_bytes] at hempty
        simp only [ChunkVecBuffer.len_eq_length_bytes, ChunkVecBuffer.bytes_append,
          List.length_append]
        omega
      have hempty₂ : (((received.append p).2).read p.length).2.len = 0 := by
        rw [ChunkVecBuffer.len_eq_length_bytes, hbytes, hk, hlen₁, Nat.min_self, List.length_drop,
          ← ChunkVecBuffer.len_eq_length_bytes, hlen₁, Nat.sub_self]
      obtain ⟨s', hs'⟩ := earlyRun_drained ps
        (by rw [hlimit₂, ChunkVecBuffer.limit_append]; exact hlimit) hempty₂
        (fun q hq => hps q (List.mem_cons_of_mem _ hq))
      refine ⟨s', ?_⟩
      simp only [List.flatMap_cons, recordThenRead, List.cons_append, List.nil_append, earlyRun,
        h₁, ok_bind, EarlyDataState.read, hs', List.map_cons, List.sum_cons]
      rfl

/-- **Reads make room again.**  Any number of records, each within
`max_early_data_size`, all go in when the application reads each one as it
comes: the bytes taken in are the sum of their lengths, as far past the limit
as the records go. -/
theorem earlyData_accepted_past_limit (maxSize : Nat) (payloads : List (List UInt8))
    (h : ∀ p ∈ payloads, p.length ≤ maxSize) :
    ∃ s', earlyRun (EarlyDataState.accept maxSize) (payloads.flatMap recordThenRead)
      = .ok (s', (payloads.map List.length).sum) :=
  earlyRun_drained payloads rfl rfl h

theorem two_records_past_limit :
    (∀ p ∈ ([[1, 2, 3, 4], [5, 6, 7, 8]] : List (List UInt8)), p.length ≤ 4) ∧
      ∃ s', earlyRun (EarlyDataState.accept 4)
        (([[1, 2, 3, 4], [5, 6, 7, 8]] : List (List UInt8)).flatMap recordThenRead) = .ok (s', 8) := by
  have h : ∀ p ∈ ([[1, 2, 3, 4], [5, 6, 7, 8]] : List (List UInt8)), p.length ≤ 4 := by decide
  exact ⟨h, earlyData_accepted_past_limit 4 _ h⟩

end TcplsBasics.Ports.Server.EarlyData
