import TcplsBasics.Ports.Msgs.Deframer.Framing
import TcplsBasics.Ports.Msgs.Deframer.Refinement

/-!
# The deframer over a whole stream from the peer

`read_tls` hands the deframer what the reader returns, at most what fits
after `used`, and `process_new_packets` then pops until `pop` returns
`Ok(None)`.  `MessageDeframer.receiveAll` runs the two on the buffer, over
the chunks the reader returns, until the bytes run out, a read fails, or
`pop` fails.

On a stream of valid records that frames into `out` the buffer implements
the queue (`Deframer.Refinement`) at every `pop`, since every record it opens
comes out no longer, and the queue returns `out` one message at a time
(`Deframer.Framing`).  So the run returns exactly `out`, unless a read fails
first because the buffer is full, and then it has returned a prefix of it.

## Main results

* `MessageDeframer.popAll_midway`: `process_new_packets` pops, on the
  buffer, the next messages of a framed stream and stops idle.
* `receiveAll_delivers_messages`: from `MessageDeframer::default`, any
  chunking of a framed stream of records is returned as the messages it
  carries, or a read fails with `message buffer full` after a prefix of them.
-/

namespace TcplsBasics.Ports.Msgs.Deframer

open TcplsBasics.Verified.Rust TcplsBasics.Verified.Results
open TcplsBasics.Ports.Errors TcplsBasics.Ports.Msgs.Enums TcplsBasics.Ports.Msgs.Message
open TcplsBasics.Ports.RecordLayer

/-- Why a run over the peer's bytes stopped before they ran out. -/
inductive Stop where
  /-- `read` failed. -/
  | readFailed (err : String)
  /-- `pop` returned an error. -/
  | popFailed (e : Error)

namespace MessageDeframer

/-- `while let Some(msg) = self.message_deframer.pop(&mut self.record_layer)?`
in `process_new_packets`: the messages popped, and the error it stopped on. -/
def popAll (dec : MessageDecrypter) :
    Nat → MessageDeframer → ReadRecordLayer →
      Except Panic (List Deframed × Option Error × MessageDeframer × ReadRecordLayer)
  | 0, d, rl => pure ([], none, d, rl)
  | fuel + 1, d, rl => do
    let (r, d, rl) ← d.pop dec rl
    match r with
    | .error e => pure ([], some e, d, rl)
    | .ok none => pure ([], none, d, rl)
    | .ok (some m) => do
      let (ms, e, d, rl) ← d.popAll dec fuel rl
      pure (m :: ms, e, d, rl)

/-- `read_tls` of the bytes `chunk` the reader returns, again while some are
left, each read followed by `popAll`. -/
def deliver (dec : MessageDecrypter) :
    Nat → List UInt8 → MessageDeframer → ReadRecordLayer →
      Except Panic (List Deframed × Option Stop × MessageDeframer × ReadRecordLayer)
  | 0, _, d, rl => pure ([], none, d, rl)
  | fuel + 1, chunk, d, rl => do
    match ← d.read chunk with
    | .error err => pure ([], some (.readFailed err), d, rl)
    | .ok (n, d) => do
      let (ms, e, d, rl) ← d.popAll dec (d.used + 1) rl
      match e with
      | some e => pure (ms, some (.popFailed e), d, rl)
      | none =>
        if chunk.length ≤ n then pure (ms, none, d, rl)
        else do
          let (ms', s, d, rl) ← d.deliver dec fuel (chunk.drop n) rl
          pure (ms ++ ms', s, d, rl)

/-- The peer's bytes, in the chunks the reader returns them in, through `deliver`. -/
def receiveAll (dec : MessageDecrypter) :
    List (List UInt8) → MessageDeframer → ReadRecordLayer →
      Except Panic (List Deframed × Option Stop × MessageDeframer × ReadRecordLayer)
  | [], d, rl => pure ([], none, d, rl)
  | c :: cs, d, rl => do
    let (ms, s, d, rl) ← d.deliver dec (c.length + 1) c rl
    match s with
    | some s => pure (ms, some s, d, rl)
    | none => do
      let (ms', s, d, rl) ← d.receiveAll dec cs rl
      pure (ms ++ ms', s, d, rl)

variable {d : MessageDeframer}

/-- The queue a buffer holds is no larger than its live bytes. -/
theorem size_view_le (hwf : d.Wf) : d.view.size ≤ d.used := by
  have hpend := length_pending hwf
  have hbase := base_le hwf
  unfold Queue.size
  cases hj : d.joiningHs with
  | none =>
    have hnone : d.view.joining = none := by rw [view_joining, hj, Option.map_none]
    rw [Queue.joined, hnone, List.length_nil]
    rw [base_of_none hj] at hpend
    omega
  | some hs =>
    have hwfj := hwf.joining hs hj
    have hsome : d.view.joining = some (hs.joining d.buf) := by rw [view_joining, hj, Option.map_some]
    rw [Queue.joined_of_some hsome, length_joining hwfj hwf.used_le]
    rw [base_of_some hj] at hpend
    have := hwfj.start_le
    have := hwfj.payload_le
    have := hwfj.message_le
    unfold Range.len
    omega

/-- The start of a run: the default deframer holds the empty queue. -/
theorem default_refines : Refines MessageDeframer.default ⟨false, [], none⟩ :=
  ⟨⟨Nat.le_refl 0, fun _ h => by cases h⟩, rfl⟩

end MessageDeframer

/-! ## A run over a framed stream -/

namespace MessageDeframer

variable {dec : MessageDecrypter} {later : List UInt8}

/-- `process_new_packets` on a framed stream pops the next messages and
stops idle, with nothing it could pop, and never fails. -/
theorem popAll_midway : ∀ (n : Nat) {d : MessageDeframer} {q : Queue} {rl : ReadRecordLayer}
    {out : List PlainMessage}, Refines d q → q.Midway dec rl later out → q.size < n →
    ∃ ms d' q' rl' out', d.popAll dec n rl = .ok (ms, none, d', rl') ∧ Refines d' q' ∧
      q'.Midway dec rl' later out' ∧ q'.Idle ∧ out = ms.map Deframed.contents ++ out'
  | 0, _, _, _, _, _, _, hn => absurd hn (Nat.not_lt_zero _)
  | n + 1, d, q, rl, out, href, h, hn => by
    -- the buffer pops as the queue does: every record it opens comes out short
    have hshort : d.view.ShortRun dec (d.used + 1) rl := href.view ▸ Queue.shortRun_midway _ h
    have hpop := pop_refines_of_shortRun hshort href.wf
    rw [href.view] at hpop
    obtain ⟨r, q₁, rl₁, out₁, hqpop, h₁, hcase⟩ := Queue.pop_midway h
    rw [hqpop] at hpop
    obtain ⟨⟨r', d₁, rl₁'⟩, hdpop, hr, href₁, hrl⟩ := Agree.ok_right hpop
    dsimp only at hr href₁ hrl
    subst hr hrl
    simp only [popAll, hdpop, ok_bind]
    rcases hcase with ⟨rfl, rfl, hidle⟩ | ⟨m, rfl, rfl, hlt⟩
    · exact ⟨[], d₁, q₁, _, _, rfl, href₁, h₁, hidle, rfl⟩
    · obtain ⟨ms, d', q', rl', out', hall, href', h', hidle, rfl⟩ := popAll_midway n href₁ h₁ (by omega)
      simp only [hall, ok_bind]
      exact ⟨m :: ms, d', q', rl', out', rfl, href', h', hidle, rfl⟩

/-- `read_tls` of one chunk of a framed stream, and the pops after each read:
the next messages, or a full buffer after a prefix of them. -/
theorem deliver_midway : ∀ (n : Nat) {chunk : List UInt8} {d : MessageDeframer} {q : Queue}
    {rl : ReadRecordLayer} {out : List PlainMessage}, Refines d q → q.Midway dec rl (chunk ++ later) out →
    chunk.length < n →
    ∃ ms s d' rl', d.deliver dec n chunk rl = .ok (ms, s, d', rl') ∧
      ((s = none ∧ ∃ q' out', Refines d' q' ∧ q'.Midway dec rl' later out' ∧ q'.Idle ∧
          out = ms.map Deframed.contents ++ out') ∨
        (s = some (.readFailed "message buffer full") ∧ ms.map Deframed.contents <+: out))
  | 0, _, _, _, _, _, _, _, hn => absurd hn (Nat.not_lt_zero _)
  | n + 1, chunk, d, q, rl, out, href, h, hn => by
    simp only [deliver]
    rcases read_refines href.wf chunk with hfull | ⟨k, d₁, hread, href₁, hle, hpos⟩
    · rw [hfull, ok_bind]
      exact ⟨[], some (.readFailed "message buffer full"), d, rl, rfl, .inr ⟨rfl, List.nil_prefix⟩⟩
    · rw [hread, ok_bind]
      rw [href.view] at href₁
      have h₁ := Queue.Midway.receive h k
      obtain ⟨ms, d₂, q₂, rl₂, out₂, hall, href₂, h₂, hidle, rfl⟩ :=
        popAll_midway (d₁.used + 1) href₁ h₁ (Nat.lt_succ_of_le (size_view_le href₁.wf |>.trans_eq' (by rw [href₁.view])))
      dsimp only
      rw [hall, ok_bind]
      dsimp only
      by_cases hdone : chunk.length ≤ k
      · -- the whole chunk was read
        rw [if_pos hdone]
        rw [List.drop_eq_nil_of_le hdone, List.nil_append] at h₂
        exact ⟨ms, none, d₂, rl₂, rfl, .inl ⟨rfl, q₂, out₂, href₂, h₂, hidle, rfl⟩⟩
      · -- the rest of the chunk is read next
        rw [if_neg hdone]
        have hk : 0 < k := hpos (fun hnil => hdone (by rw [hnil]; exact Nat.zero_le _))
        obtain ⟨ms', s, d', rl', hdel, hcase⟩ :=
          deliver_midway n href₂ h₂ (by rw [List.length_drop]; omega)
        rw [hdel, ok_bind]
        refine ⟨ms ++ ms', s, d', rl', rfl, ?_⟩
        rcases hcase with ⟨rfl, q', out', href', h', hidle', rfl⟩ | ⟨rfl, hpre⟩
        · exact .inl ⟨rfl, q', out', href', h', hidle', by rw [List.map_append, List.append_assoc]⟩
        · exact .inr ⟨rfl, by rw [List.map_append]; exact (List.prefix_append_right_inj _).mpr hpre⟩

/-- A run over the chunks of a framed stream returns the messages it
carries, or a full buffer after a prefix of them. -/
theorem receiveAll_midway : ∀ (chunks : List (List UInt8)) {d : MessageDeframer} {q : Queue}
    {rl : ReadRecordLayer} {out : List PlainMessage}, Refines d q →
    q.Midway dec rl chunks.flatten out → q.Idle →
    ∃ ms s d' rl', d.receiveAll dec chunks rl = .ok (ms, s, d', rl') ∧
      ((s = none ∧ ms.map Deframed.contents = out) ∨
        (s = some (.readFailed "message buffer full") ∧ ms.map Deframed.contents <+: out))
  | [], d, _, rl, _, _, h, hidle =>
    ⟨[], none, d, rl, rfl, .inl ⟨rfl, (h.out_eq_nil hidle).symm⟩⟩
  | c :: cs, d, q, rl, out, href, h, _ => by
    rw [List.flatten_cons] at h
    obtain ⟨ms, s, d₁, rl₁, hdel, hcase⟩ := deliver_midway (c.length + 1) href h (Nat.lt_succ_self _)
    simp only [receiveAll, hdel, ok_bind]
    rcases hcase with ⟨rfl, q₁, out₁, href₁, h₁, hidle₁, rfl⟩ | ⟨rfl, hpre⟩
    · obtain ⟨ms', s, d', rl', hall, hcase⟩ := receiveAll_midway cs href₁ h₁ hidle₁
      rw [hall, ok_bind]
      refine ⟨ms ++ ms', s, d', rl', rfl, ?_⟩
      rcases hcase with ⟨rfl, hout⟩ | ⟨rfl, hpre⟩
      · exact .inl ⟨rfl, by rw [List.map_append, hout]⟩
      · exact .inr ⟨rfl, by rw [List.map_append]; exact (List.prefix_append_right_inj _).mpr hpre⟩
    · exact ⟨ms, _, d₁, rl₁, rfl, .inr ⟨rfl, hpre⟩⟩

/-- A default deframer runs midway through any stream of valid records that
opens and frames `out`, from its start. -/
theorem receiveAll_default {dec : MessageDecrypter} {rl : ReadRecordLayer}
    {rs : List OpaqueMessage} {ps : List PlainMessage} {out : List PlainMessage}
    (hvalid : ∀ r ∈ rs, r.Valid) (hopen : Opens dec rl rs ps) (hframed : Framed [] ps out)
    (chunks : List (List UInt8)) (hchunks : chunks.flatten = encodeRecords rs) :
    ∃ ms s d rl', default.receiveAll dec chunks rl = .ok (ms, s, d, rl') ∧
      ((s = none ∧ ms.map Deframed.contents = out) ∨
        (s = some (.readFailed "message buffer full") ∧ ms.map Deframed.contents <+: out)) := by
  have h : (⟨false, [], none⟩ : Queue).Midway dec rl chunks.flatten out :=
    ⟨rfl, fun _ h => (by cases h), rs, ps, hvalid, by rw [List.nil_append, hchunks], hopen, hframed⟩
  exact receiveAll_midway chunks default_refines h (Queue.idle_of_pending_nil rfl fun _ h => (by cases h))

end MessageDeframer

/-- The deframer returns exactly the messages a stream of records carries,
whatever the chunks the reader returns it in.  From
`MessageDeframer::default`, on valid records that the record layer opens
short into plaintexts framing `out`, a run of reads each followed by pops
until `Ok(None)` never panics and no `pop` fails: it returns `out`, or a
read fails because the buffer is full, after a prefix of `out`. -/
theorem receiveAll_delivers_messages {dec : MessageDecrypter} {rl : ReadRecordLayer}
    {rs : List OpaqueMessage} {ps : List PlainMessage} {out : List PlainMessage}
    (hvalid : ∀ r ∈ rs, r.Valid) (hopen : Opens dec rl rs ps) (hframed : Framed [] ps out)
    (chunks : List (List UInt8)) (hchunks : chunks.flatten = encodeRecords rs) :
    ∃ ms s d rl', MessageDeframer.default.receiveAll dec chunks rl = .ok (ms, s, d, rl') ∧
      ((s = none ∧ ms.map Deframed.contents = out) ∨
        (s = some (.readFailed "message buffer full") ∧ ms.map Deframed.contents <+: out)) :=
  MessageDeframer.receiveAll_default hvalid hopen hframed chunks hchunks

/-- A `Finished`-sized handshake message in one plaintext record. -/
def finishedRecord : OpaqueMessage := ⟨.handshake, 0x0303, [0x14, 0, 0, 1, 0xab]⟩

/-- The record, read in two chunks by a record layer that is not yet
decrypting, comes out as its one message. -/
theorem finished_record_delivered :
    ∃ ms s d rl', MessageDeframer.default.receiveAll invalidMessageDecrypter
        [[0x16, 0x03], (encodeRecords [finishedRecord]).drop 2] ReadRecordLayer.new = .ok (ms, s, d, rl') ∧
      ((s = none ∧ ms.map Deframed.contents = [⟨.handshake, 0, [0x14, 0, 0, 1, 0xab]⟩]) ∨
        (s = some (.readFailed "message buffer full") ∧
          ms.map Deframed.contents <+: [⟨.handshake, 0, [0x14, 0, 0, 1, 0xab]⟩])) :=
  have hm : HandshakeMessage [0x14, 0, 0, 1, 0xab] := ⟨0x14, [0xab], rfl, by decide⟩
  receiveAll_delivers_messages
    (fun r hr => by
      rw [List.mem_singleton] at hr
      subst hr
      exact ⟨by decide, by decide, rfl⟩)
    (.decrypt (by decide) rfl (Nat.le_refl _) .nil : Opens invalidMessageDecrypter ReadRecordLayer.new
      [finishedRecord] [finishedRecord.intoPlainMessage])
    (.fragment rfl (by simp [finishedRecord, OpaqueMessage.intoPlainMessage])
      (show Framed ([0x14, 0, 0, 1, 0xab] ++ []) [] _ from .message hm .nil))
    _ rfl

/-- A decrypter shaped like TLS 1.3's with no tag: the last byte of a record
is its inner content type, the bytes before it its plaintext. -/
def innerTypeDecrypter : MessageDecrypter := fun m _ =>
  match m.payload.reverse with
  | t :: rest => .ok ⟨ContentType.ofU8 t, 0x0304, rest.reverse⟩
  | [] => .error .decryptError

theorem innerTypeDecrypter_shortening : Shortening innerTypeDecrypter := by
  intro m seq p h
  unfold innerTypeDecrypter at h
  cases hrev : m.payload.reverse with
  | nil =>
    rw [hrev] at h
    cases h
  | cons t rest =>
    rw [hrev] at h
    cases h
    have hlen := congrArg List.length hrev
    rw [List.length_reverse, List.length_cons] at hlen
    show rest.reverse.length ≤ m.payload.length
    rw [List.length_reverse]
    omega

/-- A record that opens to an empty handshake plaintext. -/
def emptyHandshakeRecord : OpaqueMessage := ⟨.applicationData, 0x0303, [0x16]⟩

/-- A record that opens to a `close_notify` alert. -/
def closeNotifyRecord : OpaqueMessage := ⟨.applicationData, 0x0303, [0x01, 0x00, 0x15]⟩

set_option maxRecDepth 20000 in
/-- An empty handshake plaintext between two messages starts a join, and the
alert after it is then interleaved: `pop` fails, though every record opens
short, the handshake bytes (none) are whole messages and the alert falls
between them. -/
theorem empty_handshake_record_interrupts :
    Shortening innerTypeDecrypter ∧
    ∃ d rl', MessageDeframer.default.receiveAll innerTypeDecrypter
        [encodeRecords [emptyHandshakeRecord, closeNotifyRecord]] ⟨0, .active, none⟩ =
      .ok ([], some (.popFailed (.peerMisbehaved .messageInterleavedWithHandshakeMessage)), d, rl') :=
  ⟨innerTypeDecrypter_shortening, _, _, rfl⟩

end TcplsBasics.Ports.Msgs.Deframer
