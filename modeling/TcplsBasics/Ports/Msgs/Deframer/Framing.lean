import TcplsBasics.Ports.Msgs.Deframer.Queue

/-!
# What a stream of records frames into

A record that is not a handshake record carries one message of its own.
The plaintexts of handshake records form one byte stream, in which whole
handshake messages `[type: u8][length: u24][body]` follow one another,
split over records and packed into them at any boundary, with no other
record between two records of one message (RFC 8446, §5.1).
`Framed b ps out` says that the plaintexts `ps`, read after the handshake
bytes `b` joined so far, carry the messages `out` in this way; `Opens`
says how the deframer turns records into plaintexts.  Each handshake
plaintext is non-empty, as RFC 8446 also requires: an empty one between two
messages starts a join that the next record then interrupts.

`Queue.Midway` is the invariant of `Queue.pop` on such a stream: what the
queue holds, followed by what is still to arrive, frames into what is still
to be returned.  Each round of the loop keeps it, and `pop` either returns
the next message or waits, with nothing it could pop, for more bytes.

## Main results

* `Framed.message_inv`: joined bytes that start with a whole message return
  that message first.
* `Queue.popRound_midway`, `Queue.popLoop_midway`, `Queue.takeJoined_midway`:
  a round, the loop and the return of a joined message keep `Midway` and
  never fail.
* `Queue.pop_midway`: `pop` returns the next message, or waits idle.
* `Queue.shortRun_midway`: on a framed stream every record `pop` decrypts
  comes out no longer, so the buffer implements the queue there.
-/

namespace TcplsBasics.Ports.Msgs.Deframer

open TcplsBasics.Verified.Rust TcplsBasics.Verified.Codec
open TcplsBasics.Ports.Errors TcplsBasics.Ports.Msgs.Enums TcplsBasics.Ports.Msgs.Message
open TcplsBasics.Ports.RecordLayer

/-! ## Record streams -/

/-- The bytes of records sent one after another. -/
def encodeRecords (rs : List OpaqueMessage) : List UInt8 :=
  (rs.map OpaqueMessage.encode).flatten

@[simp] theorem encodeRecords_nil : encodeRecords [] = [] := rfl

@[simp] theorem encodeRecords_cons (r : OpaqueMessage) (rs : List OpaqueMessage) :
    encodeRecords (r :: rs) = r.encode ++ encodeRecords rs := rfl

/-- Reading the front of a stream of valid records gives its first record,
or asks for more bytes. -/
theorem read_of_append_eq_encodeRecords {rs : List OpaqueMessage} (hvalid : ∀ r ∈ rs, r.Valid)
    {p t : List UInt8} (h : p ++ t = encodeRecords rs) :
    (OpaqueMessage.read p = .error .tooShortForHeader ∨
      OpaqueMessage.read p = .error .tooShortForLength) ∨
    ∃ r rs' rest, rs = r :: rs' ∧ OpaqueMessage.read p = .ok (r, rest) ∧
      rest ++ t = encodeRecords rs' := by
  cases rs with
  | nil =>
    have hp : p = [] := (List.append_eq_nil_iff.mp h).1
    subst hp
    exact .inl (.inl rfl)
  | cons r rs =>
    have hr : r.Valid := hvalid r List.mem_cons_self
    rw [encodeRecords_cons] at h
    rcases List.append_eq_append_iff.mp h with ⟨a, he, ht⟩ | ⟨c, hp, hw⟩
    · -- `p` ends inside the first record, or exactly at its end
      cases a with
      | nil =>
        rw [List.append_nil] at he
        refine .inr ⟨r, rs, [], rfl, ?_, by rw [ht, List.nil_append, List.nil_append]⟩
        rw [← he, ← List.append_nil r.encode, hr.read_encode]
      | cons x xs => exact .inl (OpaqueMessage.read_of_prefix hr he.symm (List.cons_ne_nil x xs))
    · refine .inr ⟨r, rs, c, rfl, ?_, hw.symm⟩
      rw [hp, hr.read_encode]

/-! ## Handshake messages in joined bytes -/

theorem HandshakeMessage.headerSize_le {m : List UInt8} (hm : HandshakeMessage m) :
    headerSize ≤ m.length := by
  obtain ⟨typ, body, rfl, -⟩ := hm
  simp [headerSize]

/-- Two whole messages at the front of the same bytes are the same message. -/
theorem HandshakeMessage.append_inj {m m' b b' : List UInt8} (hm : HandshakeMessage m)
    (hm' : HandshakeMessage m') (h : m ++ b = m' ++ b') : m = m' ∧ b = b' := by
  have hsize := payloadSize_append_message hm b
  rw [h, payloadSize_append_message hm' b'] at hsize
  have hlen : m'.length = m.length := by simpa using hsize
  exact List.append_inj h hlen.symm

/-- Joined bytes with no whole message at their front. -/
def NoMessage (b : List UInt8) : Prop :=
  ∀ m rest, HandshakeMessage m → b ≠ m ++ rest

theorem noMessage_nil : NoMessage [] := by
  intro m rest hm h
  have hlen := congrArg List.length h
  have hhead := hm.headerSize_le
  rw [List.length_nil, List.length_append] at hlen
  unfold headerSize at hhead
  omega

/-- `payload_size` of the front of a run of whole messages: no length while
the header is short, and the first message's length once it is there. -/
theorem payloadSize_of_append_eq_flatten {b tail : List UInt8} {ms : List (List UInt8)}
    (hms : ∀ m ∈ ms, HandshakeMessage m) (h : b ++ tail = ms.flatten) :
    payloadSize b = .ok none ∨
      ∃ m, HandshakeMessage m ∧ payloadSize b = .ok (some m.length) ∧
        (m.length ≤ b.length → b = m ++ b.drop m.length) := by
  cases ms with
  | nil =>
    have hb : b = [] := (List.append_eq_nil_iff.mp h).1
    subst hb
    exact .inl (by simp [payloadSize, headerSize])
  | cons m ms =>
    by_cases hshort : b.length < headerSize
    · exact .inl (by simp [payloadSize, hshort])
    · have hm := hms m List.mem_cons_self
      rw [List.flatten_cons] at h
      refine .inr ⟨m, hm, ?_, fun hle => ?_⟩
      · rw [← payloadSize_append (Nat.le_of_not_lt hshort) tail, h, payloadSize_append_message hm]
      · -- `b` and the messages agree on their first `m.length` bytes
        have htake : b.take m.length = m := by
          have h' := congrArg (List.take m.length) h
          rwa [List.take_append_of_le_length hle, List.take_left' rfl] at h'
        conv_lhs => rw [← List.take_append_drop m.length b, htake]

/-! ## Framed streams -/

/-- The plaintexts `ps`, read after the joined handshake bytes `b`, carry
the messages `out`: each plaintext that is not a handshake one as it is,
and each handshake message with its bytes, under version `0`. -/
inductive Framed : List UInt8 → List PlainMessage → List PlainMessage → Prop
  | nil : Framed [] [] []
  /-- A plaintext that is not a handshake one, between two handshake messages. -/
  | record {p : PlainMessage} {ps out} : p.typ ≠ .handshake → Framed [] ps out →
      Framed [] (p :: ps) (p :: out)
  /-- A non-empty handshake plaintext joins the handshake bytes. -/
  | fragment {b : List UInt8} {p : PlainMessage} {ps out} : p.typ = .handshake →
      p.payload ≠ [] → Framed (b ++ p.payload) ps out → Framed b (p :: ps) out
  /-- A whole handshake message at the front of the joined bytes. -/
  | message {m b : List UInt8} {ps out} : HandshakeMessage m → Framed b ps out →
      Framed (m ++ b) ps (⟨.handshake, 0, m⟩ :: out)

namespace Framed

variable {b : List UInt8} {ps : List PlainMessage} {out : List PlainMessage}

/-- Joined bytes of a framed stream are the front of a run of whole messages. -/
theorem prefix_flatten (h : Framed b ps out) :
    ∃ (ms : List (List UInt8)) (tail : List UInt8),
      (∀ m ∈ ms, HandshakeMessage m) ∧ b ++ tail = ms.flatten := by
  induction h with
  | nil => exact ⟨[], [], by simp, rfl⟩
  | record _ _ _ => exact ⟨[], [], by simp, rfl⟩
  | @fragment b p _ _ _ _ _ ih =>
    obtain ⟨ms, tail, hms, heq⟩ := ih
    exact ⟨ms, p.payload ++ tail, hms, by rw [← heq, List.append_assoc]⟩
  | @message m _ _ _ hm _ ih =>
    obtain ⟨ms, tail, hms, heq⟩ := ih
    refine ⟨m :: ms, tail, ?_, ?_⟩
    · intro m' hm'
      rcases List.mem_cons.mp hm' with rfl | hm'
      · exact hm
      · exact hms m' hm'
    · rw [List.flatten_cons, ← heq, List.append_assoc]

/-- The joined bytes of a framed stream never announce an oversized message. -/
theorem payloadSize_ok (h : Framed b ps out) : ∃ e, payloadSize b = .ok e := by
  obtain ⟨ms, tail, hms, heq⟩ := h.prefix_flatten
  rcases payloadSize_of_append_eq_flatten hms heq with h | ⟨m, _, h, _⟩
  · exact ⟨_, h⟩
  · exact ⟨_, h⟩

/-- Once the joined bytes are as long as they announce, they start with a
whole message of that length. -/
theorem complete (h : Framed b ps out) {len : Nat} (hsize : payloadSize b = .ok (some len))
    (hlen : len ≤ b.length) : ∃ m, HandshakeMessage m ∧ m.length = len ∧ b = m ++ b.drop len := by
  obtain ⟨ms, tail, hms, heq⟩ := h.prefix_flatten
  rcases payloadSize_of_append_eq_flatten hms heq with hnone | ⟨m, hm, hsome, hsplit⟩
  · rw [hsize] at hnone
    cases hnone
  · rw [hsize] at hsome
    have hm_len : m.length = len := by simpa using hsome.symm
    subst hm_len
    exact ⟨m, hm, rfl, hsplit hlen⟩

/-- Joined bytes that start with a whole message return that message first;
the plaintexts then carry the rest after the bytes behind it. -/
theorem message_inv {m : List UInt8} (hm : HandshakeMessage m) (h : Framed (m ++ b) ps out) :
    ∃ out', out = ⟨.handshake, 0, m⟩ :: out' ∧ Framed b ps out' := by
  -- the joined bytes are an index of the relation: induct on it with their split general
  generalize hc : m ++ b = c at h
  induction h generalizing b with
  | nil => exact absurd hc.symm (noMessage_nil m b hm)
  | record _ _ => exact absurd hc.symm (noMessage_nil m b hm)
  | @fragment c p _ _ htyp hne _ ih =>
    obtain ⟨out', rfl, h'⟩ := ih (b := b ++ p.payload) (by rw [← hc, List.append_assoc])
    exact ⟨out', rfl, .fragment htyp hne h'⟩
  | message hm' h' _ =>
    obtain ⟨rfl, rfl⟩ := hm.append_inj hm' hc
    exact ⟨_, rfl, h'⟩

/-- The next plaintext, when no whole message is joined: a record between
messages, or a non-empty handshake plaintext that joins the bytes. -/
theorem cons_inv {p : PlainMessage} (h : Framed b (p :: ps) out) (hb : NoMessage b) :
    (b = [] ∧ p.typ ≠ .handshake ∧ ∃ out', out = p :: out' ∧ Framed [] ps out') ∨
      (p.typ = .handshake ∧ p.payload ≠ [] ∧ Framed (b ++ p.payload) ps out) := by
  cases h with
  | record htyp h' => exact .inl ⟨rfl, htyp, _, rfl, h'⟩
  | fragment htyp hne h' => exact .inr ⟨htyp, hne, h'⟩
  | message hm _ => exact absurd rfl (hb _ _ hm)

/-- With no plaintext left and no whole message joined, nothing is left. -/
theorem nil_inv (h : Framed b [] out) (hb : NoMessage b) : b = [] ∧ out = [] := by
  cases h with
  | nil => exact ⟨rfl, rfl⟩
  | message hm _ => exact absurd rfl (hb _ _ hm)

/-- Non-empty handshake plaintexts that, after the joined bytes `b`, make up
one whole message carry that message. -/
theorem of_joined {m : List UInt8} (hm : HandshakeMessage m) :
    ∀ {b : List UInt8} {ps : List PlainMessage}, (∀ p ∈ ps, p.typ = .handshake ∧ p.payload ≠ []) →
      b ++ (ps.map PlainMessage.payload).flatten = m → Framed b ps [⟨.handshake, 0, m⟩]
  | b, [], _, h => by
    rw [List.map_nil, List.flatten_nil, List.append_nil] at h
    subst h
    have hframed := Framed.message hm Framed.nil
    rwa [List.append_nil] at hframed
  | b, p :: ps, hps, h => by
    obtain ⟨htyp, hne⟩ := hps p List.mem_cons_self
    refine .fragment htyp hne (of_joined hm (fun p' hp' => hps p' (List.mem_cons_of_mem _ hp')) ?_)
    rw [← h, List.map_cons, List.flatten_cons, List.append_assoc]

end Framed

/-- How the deframer opens the records `rs`, in order, from the record layer
`rl`: a `ChangeCipherSpec` record as it is, any other by a successful
`decrypt_incoming` that is not at the sequence number where the peer should
have closed, into a plaintext no longer than the record. -/
inductive Opens (dec : MessageDecrypter) :
    ReadRecordLayer → List OpaqueMessage → List PlainMessage → Prop
  | nil {rl : ReadRecordLayer} : Opens dec rl [] []
  | changeCipherSpec {rl : ReadRecordLayer} {r : OpaqueMessage} {rs ps} :
      r.typ = .changeCipherSpec → Opens dec rl rs ps → Opens dec rl (r :: rs) (r.intoPlainMessage :: ps)
  | decrypt {rl rl' : ReadRecordLayer} {r : OpaqueMessage} {rs} {p : PlainMessage} {ps} :
      r.typ ≠ .changeCipherSpec → rl.decryptIncoming dec r = (.ok (some ⟨false, p⟩), rl') →
      p.payload.length ≤ r.payload.length → Opens dec rl' rs ps → Opens dec rl (r :: rs) (p :: ps)

/-- A record layer that is not decrypting yet opens every record but a
`ChangeCipherSpec` into its own plaintext. -/
theorem Opens.of_not_active {dec : MessageDecrypter} {rl : ReadRecordLayer}
    (hrl : rl.decryptState ≠ .active) :
    ∀ {rs : List OpaqueMessage}, (∀ r ∈ rs, r.typ ≠ .changeCipherSpec) →
      Opens dec rl rs (rs.map OpaqueMessage.intoPlainMessage)
  | [], _ => .nil
  | r :: rs, h => by
    have hdecr : rl.decryptIncoming dec r = (.ok (some ⟨false, r.intoPlainMessage⟩), rl) := by
      unfold ReadRecordLayer.decryptIncoming
      rw [if_pos hrl]
    exact .decrypt (h r List.mem_cons_self) hdecr (Nat.le_refl _)
      (of_not_active hrl fun r' hr' => h r' (List.mem_cons_of_mem _ hr'))

/-! ## The queue on a framed stream -/

/-- A join the deframer keeps on a framed stream: some bytes, the expected
length `payload_size` gives them, and not a QUIC one. -/
structure Joining.Wf (j : Joining) : Prop where
  payload_ne : j.payload ≠ []
  expected : payloadSize j.payload = .ok j.expectedLen
  not_quic : j.quic = false

theorem Joining.completeLen_eq_some {j : Joining} {len : Nat} (h : j.completeLen = some len) :
    j.expectedLen = some len ∧ len ≤ j.payload.length := by
  unfold Joining.completeLen at h
  split at h
  · next l hl =>
    split_ifs at h with hle
    cases h
    exact ⟨hl, hle⟩
  · cases h

/-- A join that is not complete has no whole message at its front. -/
theorem Joining.Wf.noMessage {j : Joining} (hj : j.Wf) (hc : j.completeLen = none) :
    NoMessage j.payload := by
  intro m rest hm heq
  have hsize := hj.expected
  rw [heq, payloadSize_append_message hm] at hsize
  have hexp : j.expectedLen = some m.length := by simpa using hsize.symm
  unfold Joining.completeLen at hc
  rw [hexp, heq, List.length_append] at hc
  dsimp only at hc
  rw [if_pos (Nat.le_add_right _ _)] at hc
  cases hc

theorem headerSize_le_of_payloadSize {b : List UInt8} {l : Nat} (h : payloadSize b = .ok (some l)) :
    headerSize ≤ b.length := by
  unfold payloadSize at h
  split_ifs at h with hlt
  · cases h
  · exact Nat.le_of_not_lt hlt

/-- The message `pop` returned, with the version of a joined handshake
message left out: it is the version of the record the join started with. -/
def Deframed.contents (m : Deframed) : PlainMessage :=
  if m.message.typ = .handshake then { m.message with version := 0 } else m.message

theorem Deframed.contents_of_ne {m : Deframed} (h : m.message.typ ≠ .handshake) :
    m.contents = m.message := by
  rw [Deframed.contents, if_neg h]

namespace Queue

/-- The handshake bytes joined so far. -/
def joined (q : Queue) : List UInt8 :=
  match q.joining with
  | some j => j.payload
  | none => []

/-- The bytes the queue holds. -/
def size (q : Queue) : Nat := q.pending.length + q.joined.length

/-- Midway through a stream that frames into `out`, with `later` still to
arrive: the queue is in sync, its join is well formed, and the pending and
later bytes are records that open into plaintexts which, after the joined
bytes, carry `out`. -/
structure Midway (dec : MessageDecrypter) (q : Queue) (rl : ReadRecordLayer) (later : List UInt8)
    (out : List PlainMessage) : Prop where
  synced : q.desynced = false
  join : ∀ j, q.joining = some j → j.Wf
  stream : ∃ rs ps, (∀ r ∈ rs, r.Valid) ∧ q.pending ++ later = encodeRecords rs ∧
    Opens dec rl rs ps ∧ Framed q.joined ps out

/-- Nothing can be popped yet: no whole record is pending and no whole
message joined. -/
structure Idle (q : Queue) : Prop where
  no_record : ∀ m rest, OpaqueMessage.read q.pending ≠ .ok (m, rest)
  no_message : ∀ j, q.joining = some j → j.completeLen = none

/-- What a round of `pop`'s loop does on a framed stream, by how it exits:
it goes on having consumed bytes, waits idle, returns the next message, or
breaks on a whole joined message.  It never fails. -/
def RoundOk (q q' : Queue) (out out' : List PlainMessage) : Option Exit → Prop
  | none => out' = out ∧ q'.size < q.size
  | some (.ret (.ok none)) => out' = out ∧ q'.Idle
  | some (.ret (.ok (some m))) => out = m.contents :: out' ∧ q'.size < q.size
  | some (.ret (.error _)) => False
  | some (.brk len) =>
    out' = out ∧ q'.size ≤ q.size ∧ ∃ j, q'.joining = some j ∧ j.completeLen = some len

variable {dec : MessageDecrypter} {q : Queue} {rl : ReadRecordLayer} {later : List UInt8}
  {out : List PlainMessage}

theorem joined_of_some {j : Joining} (hj : q.joining = some j) : q.joined = j.payload := by
  rw [joined, hj]

theorem joining_eq_none_of_joined (hjoin : ∀ j, q.joining = some j → j.Wf) (h : q.joined = []) :
    q.joining = none := by
  cases hj : q.joining with
  | none => rfl
  | some j =>
    rw [joined, hj] at h
    exact absurd h (hjoin j hj).payload_ne

theorem noMessage_joined (hjoin : ∀ j, q.joining = some j → j.Wf)
    (hc : ∀ j, q.joining = some j → j.completeLen = none) : NoMessage q.joined := by
  cases hj : q.joining with
  | none =>
    rw [joined, hj]
    exact noMessage_nil
  | some j =>
    rw [joined, hj]
    exact (hjoin j hj).noMessage (hc j hj)

/-- Nothing pending and nothing complete joined is idle. -/
theorem idle_of_pending_nil (hp : q.pending = [])
    (hc : ∀ j, q.joining = some j → j.completeLen = none) : q.Idle :=
  ⟨fun m rest hread => (by rw [hp] at hread; cases hread), hc⟩

theorem RoundOk.of_size_lt {q q₁ q' : Queue} {out out' : List PlainMessage} {ex : Exit}
    (h : RoundOk q₁ q' out out' (some ex)) (hlt : q₁.size < q.size) : RoundOk q q' out out' (some ex) :=
  match ex, h with
  | .ret (.ok none), h => h
  | .ret (.ok (some _)), ⟨hout, hs⟩ => ⟨hout, Nat.lt_trans hs hlt⟩
  | .ret (.error _), h => h.elim
  | .brk _, ⟨hout, hs, hj⟩ => ⟨hout, Nat.le_trans hs (Nat.le_of_lt hlt), hj⟩

/-- `append_hs` on a framed stream: the plaintext joins the bytes, under the
expected length `payload_size` gives them all. -/
theorem appendHs_framed (hjoin : ∀ j, q.joining = some j → j.Wf) (version : Nat)
    (rest : List UInt8) {payload : List UInt8} (hne : payload ≠ []) {e : Option Nat}
    (hsize : payloadSize (q.joined ++ payload) = .ok e) :
    ∃ j', q.appendHs version payload rest false = .ok ({ q with pending := rest }.appendHsState j') ∧
      j'.payload = q.joined ++ payload ∧ j'.Wf := by
  unfold appendHs
  cases hj : q.joining with
  | none =>
    rw [joined, hj, List.nil_append] at hsize
    refine ⟨⟨payload, version, e, false⟩, ?_, by rw [joined, hj, List.nil_append], hne, hsize, rfl⟩
    rw [hsize]
    rfl
  | some j =>
    have hwf := hjoin j hj
    rw [joined, hj] at hsize
    dsimp only
    rw [if_neg (by simp [hwf.not_quic])]
    cases hexp : j.expectedLen with
    | none =>
      rw [if_pos rfl, hsize]
      exact ⟨{ j with payload := j.payload ++ payload, expectedLen := e }, rfl, by rw [joined, hj],
        by simp [hwf.payload_ne], hsize, hwf.not_quic⟩
    | some l =>
      rw [if_neg (by simp)]
      have hhead := headerSize_le_of_payloadSize (hexp ▸ hwf.expected)
      exact ⟨{ j with payload := j.payload ++ payload, expectedLen := some l }, rfl, by rw [joined, hj],
        by simp [hwf.payload_ne], by rw [payloadSize_append hhead, hwf.expected, hexp], hwf.not_quic⟩

/-! ## A round of `pop` on a framed stream -/

/-- An opened plaintext on a framed stream: a record between messages goes
out, a handshake plaintext joins the bytes. -/
theorem handlePlaintext_midway (hsync : q.desynced = false) (hjoin : ∀ j, q.joining = some j → j.Wf)
    (hc : ∀ j, q.joining = some j → j.completeLen = none) {p : PlainMessage} {ps : List PlainMessage}
    {rs : List OpaqueMessage} {rest : List UInt8} (hframed : Framed q.joined (p :: ps) out)
    (hopen : Opens dec rl rs ps) (hvalid : ∀ r ∈ rs, r.Valid) (hrest : rest ++ later = encodeRecords rs)
    (hlen : rest.length + p.payload.length < q.pending.length) :
    ∃ e q' out', q.handlePlaintext rl rest p = .ok (e, q', rl) ∧ q'.Midway dec rl later out' ∧
      RoundOk q q' out out' e := by
  rcases hframed.cons_inv (noMessage_joined hjoin hc) with
    ⟨hnil, htyp, out', rfl, h'⟩ | ⟨htyp, hne, h'⟩
  · -- a record between messages goes out as it is
    have hnone := joining_eq_none_of_joined hjoin hnil
    refine ⟨some (.ret (.ok (some ⟨false, true, false, p⟩))), { q with pending := rest }, out', ?_,
      ⟨hsync, by simp [hnone], rs, ps, hvalid, hrest, hopen, by simpa [joined, hnone] using h'⟩,
      by rw [Deframed.contents_of_ne htyp], ?_⟩
    · unfold handlePlaintext
      rw [if_neg (by simp [hnone]), if_pos htyp]
      rfl
    · simp only [size, joined, hnone]
      omega
  · -- a handshake plaintext joins the bytes
    obtain ⟨e, he⟩ := h'.payloadSize_ok
    obtain ⟨j', happ, hpay, hwf'⟩ := appendHs_framed hjoin p.version rest hne he
    have hmid : Midway dec { q with pending := rest, joining := some j' } rl later out :=
      ⟨hsync, by rintro _ ⟨⟩; exact hwf', rs, ps, hvalid, hrest, hopen, by simpa [joined, hpay] using h'⟩
    have hsize : ({ q with pending := rest, joining := some j' } : Queue).size < q.size := by
      simp only [size, joined, hpay, List.length_append] at hlen ⊢
      omega
    unfold handlePlaintext
    rw [if_neg (by simp [htyp]), if_neg (by simp [htyp]), happ, ok_bind]
    simp only [appendHsState]
    cases hcj : j'.completeLen with
    | some len => exact ⟨some (.brk len), _, out, rfl, hmid, rfl, Nat.le_of_lt hsize, j', rfl, hcj⟩
    | none =>
      by_cases hrest' : rest = []
      · -- the last pending record: wait for more bytes
        subst hrest'
        refine ⟨some (.ret (.ok none)), _, out, by simp; rfl, hmid, rfl, idle_of_pending_nil rfl ?_⟩
        rintro _ ⟨⟩
        exact hcj
      · exact ⟨none, _, out, by simp [hrest']; rfl, hmid, rfl, hsize⟩

/-- A record parsed off a framed stream: a `ChangeCipherSpec` goes out as it
is, any other opens into the next plaintext. -/
theorem handleRecord_midway (hsync : q.desynced = false) (hjoin : ∀ j, q.joining = some j → j.Wf)
    (hc : ∀ j, q.joining = some j → j.completeLen = none) {r : OpaqueMessage}
    {rs : List OpaqueMessage} {ps : List PlainMessage} {rest : List UInt8}
    (hframed : Framed q.joined ps out) (hopen : Opens dec rl (r :: rs) ps)
    (hvalid : ∀ r ∈ rs, r.Valid) (hrest : rest ++ later = encodeRecords rs)
    (hpend : q.pending = r.encode ++ rest) :
    ∃ e q' rl' out', q.handleRecord dec rl rest r = .ok (e, q', rl') ∧
      q'.Midway dec rl' later out' ∧ RoundOk q q' out out' e := by
  have hlen : q.pending.length = OpaqueMessage.headerSize + r.payload.length + rest.length := by
    rw [hpend, List.length_append, OpaqueMessage.length_encode]
  unfold OpaqueMessage.headerSize at hlen
  cases hopen with
  | changeCipherSpec hccs hopen' =>
    rcases hframed.cons_inv (noMessage_joined hjoin hc) with ⟨hnil, htyp, out', rfl, h'⟩ | ⟨htyp, _⟩
    · have hnone := joining_eq_none_of_joined hjoin hnil
      refine ⟨some (.ret (.ok (some ⟨false, true, false, r.intoPlainMessage⟩))), { q with pending := rest },
        rl, out', ?_, ⟨hsync, by simp [hnone], _, _, hvalid, hrest, hopen', by simpa [joined, hnone] using h'⟩,
        by rw [Deframed.contents_of_ne htyp], ?_⟩
      · unfold handleRecord
        rw [if_pos ⟨hccs, by simp [hnone]⟩]
        rfl
      · simp only [size, joined, hnone]
        omega
    · -- a `ChangeCipherSpec` record is no handshake plaintext
      exact absurd (hccs.symm.trans htyp) (by decide)
  | decrypt hnccs hdecr hshort hopen' =>
    obtain ⟨e, q', out', hpl, hmid, hok⟩ :=
      handlePlaintext_midway hsync hjoin hc hframed hopen' hvalid hrest (by omega)
    refine ⟨e, q', _, out', ?_, hmid, hok⟩
    unfold handleRecord
    rw [if_neg (fun h => hnccs h.1), hdecr]
    dsimp only
    rw [if_neg Bool.false_ne_true]
    exact hpl

theorem readRecord_midway (h : q.Midway dec rl later out)
    (hc : ∀ j, q.joining = some j → j.completeLen = none) :
    ∃ e q' rl' out', q.readRecord dec rl = .ok (e, q', rl') ∧ q'.Midway dec rl' later out' ∧
      RoundOk q q' out out' e := by
  obtain ⟨rs, ps, hvalid, hstream, hopen, hframed⟩ := h.stream
  unfold readRecord
  rcases read_of_append_eq_encodeRecords hvalid hstream with hshort | ⟨r, rs', rest, rfl, hread, hrest⟩
  · -- the next record is not whole yet: wait for more bytes
    have hidle : q.Idle :=
      ⟨fun m rest hread => (by rcases hshort with h' | h' <;> rw [h'] at hread <;> cases hread), hc⟩
    rcases hshort with h' | h' <;> rw [h'] <;> exact ⟨some (.ret (.ok none)), q, rl, out, rfl, h, rfl, hidle⟩
  · rw [hread]
    exact handleRecord_midway h.synced h.join hc hframed hopen
      (fun r' hr' => hvalid r' (List.mem_cons_of_mem r hr')) hrest (OpaqueMessage.eq_of_read hread)

/-- One round of `pop`'s loop keeps a framed stream framed, and never fails. -/
theorem popRound_midway (h : q.Midway dec rl later out) :
    ∃ e q' rl' out', q.popRound dec rl = .ok (e, q', rl') ∧ q'.Midway dec rl' later out' ∧
      RoundOk q q' out out' e := by
  unfold popRound
  cases hj : q.joining with
  | none => exact readRecord_midway h (by simp [hj])
  | some j =>
    dsimp only
    cases hc : j.completeLen with
    | some len => exact ⟨some (.brk len), q, rl, out, rfl, h, rfl, Nat.le_refl _, j, hj, hc⟩
    | none =>
      dsimp only
      rw [(h.join j hj).not_quic, if_neg Bool.false_ne_true]
      refine readRecord_midway h ?_
      rintro j' hj'
      rw [hj, Option.some.injEq] at hj'
      rw [← hj']
      exact hc

/-- Returning a whole joined message: it is the next one to return, and
what follows it stays joined. -/
theorem takeJoined_midway (h : q.Midway dec rl later out) {j : Joining} (hj : q.joining = some j)
    {len : Nat} (hc : j.completeLen = some len) :
    ∃ m q' out', q.takeJoined len = .ok (.ok (some m), q') ∧ q'.Midway dec rl later out' ∧
      out = m.contents :: out' ∧ q'.size < q.size := by
  have hwf := h.join j hj
  obtain ⟨rs, ps, hvalid, hstream, hopen, hframed⟩ := h.stream
  rw [joined_of_some hj] at hframed
  obtain ⟨hexp, hle⟩ := j.completeLen_eq_some hc
  obtain ⟨m, hm, hmlen, hsplit⟩ := hframed.complete (hexp ▸ hwf.expected) hle
  rw [hsplit] at hframed
  obtain ⟨out', rfl, h'⟩ := hframed.message_inv hm
  have hmsg : j.payload.take len = m := by
    rw [hsplit]
    exact List.take_left' hmlen
  have hhead := hm.headerSize_le
  unfold headerSize at hhead
  unfold takeJoined
  rw [hj, expect_some, ok_bind]
  dsimp only
  by_cases hmore : len < j.payload.length
  · -- more joined bytes follow: they are the front of the next message
    rw [if_pos hmore]
    obtain ⟨e, he⟩ := h'.payloadSize_ok
    rw [he]
    refine ⟨_, { q with joining := some { j with payload := j.payload.drop len, expectedLen := e } },
      out', rfl, ⟨h.synced, ?_, rs, ps, hvalid, hstream, hopen, by simpa [joined] using h'⟩,
      by simp [Deframed.contents, hmsg], ?_⟩
    · rintro _ ⟨⟩
      exact ⟨by simp [List.drop_eq_nil_iff]; omega, he, hwf.not_quic⟩
    · simp only [size, joined, hj, List.length_drop]
      omega
  · -- the last joined message: nothing stays joined
    rw [if_neg hmore]
    have hdrop : j.payload.drop len = [] := List.drop_eq_nil_of_le (Nat.le_of_not_lt hmore)
    rw [hdrop] at h'
    refine ⟨_, { q with joining := none }, out', rfl,
      ⟨h.synced, by simp, rs, ps, hvalid, hstream, hopen, h'⟩, by simp [Deframed.contents, hmsg], ?_⟩
    have hpos := List.length_pos_of_ne_nil hwf.payload_ne
    simp only [size, joined, hj, List.length_nil]
    omega

/-- `pop`'s loop on a framed stream, with fuel for every pending byte, ends
the way one of its rounds does. -/
theorem popLoop_midway : ∀ (n : Nat) {q : Queue} {rl : ReadRecordLayer}
    {out : List PlainMessage}, q.Midway dec rl later out → q.pending.length < n →
    ∃ ex q' rl' out', q.popLoop dec n rl = .ok (ex, q', rl') ∧ q'.Midway dec rl' later out' ∧
      RoundOk q q' out out' (some ex)
  | 0, _, _, _, _, hn => absurd hn (Nat.not_lt_zero _)
  | n + 1, q, rl, out, h, hn => by
    obtain ⟨e, q₁, rl₁, out₁, hround, h₁, hok⟩ := popRound_midway h
    simp only [popLoop, hround, ok_bind]
    cases e with
    | none =>
      obtain ⟨rfl, hsize⟩ := hok
      obtain ⟨m, hm⟩ := popRound_next hround
      have hlen := congrArg List.length (OpaqueMessage.eq_of_read hm)
      simp only [List.length_append, OpaqueMessage.length_encode] at hlen
      unfold OpaqueMessage.headerSize at hlen
      obtain ⟨ex, q', rl', out', hloop, h', hok'⟩ := popLoop_midway n h₁ (by omega)
      exact ⟨ex, q', rl', out', hloop, h', hok'.of_size_lt hsize⟩
    | some ex => exact ⟨ex, q₁, rl₁, out₁, rfl, h₁, hok⟩

/-- `pop` on a framed stream returns the next message to return, or waits
idle, with nothing it could pop, for more bytes. -/
theorem pop_midway (h : q.Midway dec rl later out) :
    ∃ r q' rl' out', q.pop dec rl = .ok (r, q', rl') ∧ q'.Midway dec rl' later out' ∧
      ((r = .ok none ∧ out' = out ∧ q'.Idle) ∨
        (∃ m, r = .ok (some m) ∧ out = m.contents :: out' ∧ q'.size < q.size)) := by
  unfold pop
  rw [h.synced, if_neg Bool.false_ne_true]
  by_cases hempty : q.pending = [] ∧ q.joining = none
  · rw [if_pos hempty]
    refine ⟨_, q, rl, out, rfl, h, .inl ⟨rfl, rfl, idle_of_pending_nil hempty.1 ?_⟩⟩
    intro j hj
    rw [hempty.2] at hj
    cases hj
  · rw [if_neg hempty]
    obtain ⟨ex, q₁, rl₁, out₁, hloop, h₁, hok⟩ :=
      popLoop_midway (q.pending.length + 1) h (Nat.lt_succ_self _)
    rw [hloop, ok_bind]
    cases ex with
    | ret r =>
      rcases r with e | (_ | m)
      · exact hok.elim
      · exact ⟨_, q₁, rl₁, out₁, rfl, h₁, .inl ⟨rfl, hok.1, hok.2⟩⟩
      · exact ⟨_, q₁, rl₁, out₁, rfl, h₁, .inr ⟨m, rfl, hok.1, hok.2⟩⟩
    | brk len =>
      obtain ⟨rfl, hle, j, hj, hc⟩ := hok
      obtain ⟨m, q', out', htake, h', hout, hlt⟩ := takeJoined_midway h₁ hj hc
      refine ⟨_, q', rl₁, out', ?_, h', .inr ⟨m, rfl, hout, Nat.lt_of_lt_of_le hlt hle⟩⟩
      dsimp only
      rw [htake, ok_bind]
      rfl

/-! ## Opening records short, and the end of the stream -/

/-- On a framed stream the record a round opens is the next one sent, which
`Opens` opens short. -/
theorem roundShort_midway (h : q.Midway dec rl later out) : q.RoundShort dec rl := by
  intro m rest hread hc
  obtain ⟨rs, ps, hvalid, hstream, hopen, hframed⟩ := h.stream
  rcases read_of_append_eq_encodeRecords hvalid hstream with hshort | ⟨r, rs', rest', rfl, hread', _⟩
  · rcases hshort with h' | h' <;> rw [h'] at hread <;> cases hread
  · rw [hread] at hread'
    obtain ⟨rfl, -⟩ := Prod.mk.inj (Except.ok.inj hread')
    cases hopen with
    | changeCipherSpec hccs _ =>
      rcases hframed.cons_inv (noMessage_joined h.join hc) with ⟨hnil, -⟩ | ⟨htyp, -⟩
      · exact .inl ⟨hccs, by simp [joining_eq_none_of_joined h.join hnil]⟩
      · exact absurd (hccs.symm.trans htyp) (by decide)
    | decrypt _ hdecr hshort _ =>
      refine .inr fun d rl' hd => ?_
      rw [hdecr] at hd
      obtain rfl := Option.some.inj (Except.ok.inj (Prod.mk.inj hd).1)
      exact hshort

/-- On a framed stream every record `pop`'s loop opens comes out no longer. -/
theorem shortRun_midway : ∀ (n : Nat) {q : Queue} {rl : ReadRecordLayer}
    {out : List PlainMessage}, q.Midway dec rl later out → q.ShortRun dec n rl
  | 0, _, _, _, _ => trivial
  | n + 1, _, _, _, h => ⟨roundShort_midway h, fun q' rl' hround => by
      obtain ⟨e, q₁, rl₁, out₁, hround', h₁, _⟩ := popRound_midway h
      rw [hround] at hround'
      simp only [Except.ok.injEq, Prod.mk.injEq] at hround'
      obtain ⟨rfl, rfl, rfl⟩ := hround'
      exact shortRun_midway n h₁⟩

/-- Bytes from the peer move from what is to arrive to what is pending. -/
theorem Midway.receive {c : List UInt8} (h : q.Midway dec rl (c ++ later) out) (n : Nat) :
    (q.receive (c.take n)).Midway dec rl (c.drop n ++ later) out := by
  obtain ⟨rs, ps, hvalid, hstream, hopen, hframed⟩ := h.stream
  refine ⟨h.synced, h.join, rs, ps, hvalid, ?_, hopen, hframed⟩
  rw [Queue.receive, List.append_assoc, ← List.append_assoc (c.take n), List.take_append_drop, hstream]

/-- Idle once everything has arrived, nothing is left to return. -/
theorem Midway.out_eq_nil (h : q.Midway dec rl [] out) (hidle : q.Idle) : out = [] := by
  obtain ⟨rs, ps, hvalid, hstream, hopen, hframed⟩ := h.stream
  rw [List.append_nil] at hstream
  cases rs with
  | nil =>
    cases hopen
    exact (hframed.nil_inv (noMessage_joined h.join hidle.no_message)).2
  | cons r rs =>
    refine absurd ?_ (hidle.no_record r (encodeRecords rs))
    rw [hstream, encodeRecords_cons, (hvalid r List.mem_cons_self).read_encode]

end Queue

end TcplsBasics.Ports.Msgs.Deframer
