import TcplsBasics.Ports.Tcpls.Delivery

/-!
# The records `create_record` cuts, from every reachable connection

One connection, driven through its whole interface: it is built by
`TcplsConnection::new`, gets data (`set_data`, `set_stream_data`) and streams
(`attach_stream`), queues ACK frames (`add_ack_frame`), cuts records
(`create_record`), takes whatever record the peer sends (`process_record`), and
has its counters and token set (`update_tls_seq`, `inv_ack`,
`set_session_token`).  `Reachable c` is every state this leads to, with the
`HashMap`'s iteration order changing at any time.

A stream is attached with any state whose `snd_offset` lies inside its
`snd_data`.  That covers every stream the application can hold:
`TcplsStream::new` and `TcplsStreamBuilder::build` start at offset `0`, and no
public method of `TcplsStream` moves the offset past the data.

The invariant (`SendState`) is what `create_record` rests on: `ctrl_buf` stays
below a record, by `add_ack_frame`'s guard, and every stream keeps
`snd_offset` inside `snd_data`; `process_record` writes only the receiving
side of a stream.  From it `create_record` is one equation
(`createRecord_eq`).  Its loop gives the first stream in iteration order the
room `MAX_RECORD_SIZE - ctrl_buf.len()`, and every later one the room the
record leaves, which no longer keeps anything for `ctrl_buf`; the control
frames then go at the end only when the frames leave strictly more room than
`ctrl_buf` takes.

## Main results

* `Reachable.sendState`: the invariant holds in every reachable state.
* `createRecord_eq`: what `create_record` returns from a state of the invariant.
* `reachable_createRecord_fits`: from every reachable state, `create_record`
  returns one record of `1` to `MAX_RECORD_SIZE` bytes whose frames fit their
  fields, each stream framing greedily and advancing by exactly the bytes it
  framed, and `ctrl_buf` appended whole and cleared, or left as it was.
* `createRecord_holds_back_ackFrames`: a first frame that fills the room left
  for the control frames keeps them out of the record.
-/

namespace TcplsBasics.Ports.Tcpls

open TcplsBasics.Verified.Rust
open TcplsBasics.Verified.Bytes

/-! ## The sending side of a stream -/

namespace TcplsStream

/-- `handle_offset` writes only `rcv_data`. -/
theorem handleOffset_snd {s s' : TcplsStream} {newOffset : Nat} {data : Bytes}
    (h : s.handleOffset newOffset data = .ok s') :
    s'.sndData = s.sndData ∧ s'.sndOffset = s.sndOffset := by
  unfold handleOffset at h
  obtain ⟨reach, -, h⟩ := bind_eq_ok.mp h
  split_ifs at h
  · -- the gap: zeros, then the data
    obtain ⟨_, -, h⟩ := bind_eq_ok.mp h
    obtain ⟨_, -, h⟩ := bind_eq_ok.mp h
    obtain ⟨_, -, h⟩ := bind_eq_ok.mp h
    obtain ⟨_, -, h⟩ := bind_eq_ok.mp h
    cases h
    exact ⟨rfl, rfl⟩
  · -- a frame before the last one, copied over
    obtain ⟨_, -, h⟩ := bind_eq_ok.mp h
    obtain ⟨_, -, h⟩ := bind_eq_ok.mp h
    cases h
    exact ⟨rfl, rfl⟩
  · obtain ⟨_, -, h⟩ := bind_eq_ok.mp h
    cases h
    exact ⟨rfl, rfl⟩

/-- `read_stream_frame` writes only the receiving side of the stream. -/
theorem readStreamFrame_snd {s s' : TcplsStream} {newData : Bytes} {n : Nat}
    (h : s.readStreamFrame newData = .ok (s', n)) :
    s'.sndData = s.sndData ∧ s'.sndOffset = s.sndOffset := by
  unfold readStreamFrame at h
  obtain ⟨_, -, h⟩ := bind_eq_ok.mp h
  obtain ⟨_, -, h⟩ := bind_eq_ok.mp h
  obtain ⟨_, -, h⟩ := bind_eq_ok.mp h
  obtain ⟨_, -, h⟩ := bind_eq_ok.mp h
  obtain ⟨_, -, h⟩ := bind_eq_ok.mp h
  obtain ⟨_, -, h⟩ := bind_eq_ok.mp h
  obtain ⟨_, -, h⟩ := bind_eq_ok.mp h
  obtain ⟨_, -, h⟩ := bind_eq_ok.mp h
  obtain ⟨s₁, hs₁, h⟩ := bind_eq_ok.mp h
  have hsnd := handleOffset_snd hs₁
  cases h
  split <;> exact hsnd

theorem SndInv.of_snd {s s' : TcplsStream} (h : s.SndInv) (hdata : s'.sndData = s.sndData)
    (hoffset : s'.sndOffset = s.sndOffset) : s'.SndInv :=
  ⟨by rw [hdata, hoffset]; exact h.offset_le, by rw [hdata]; exact h.length_le⟩

theorem sndInv_new (streamId : UInt32) (rData : Bytes) : (TcplsStream.new streamId rData).SndInv :=
  ⟨Nat.zero_le _, Nat.zero_le _⟩

end TcplsStream

/-! ## The invariant -/

namespace TcplsConnection

/-- What every state of a connection keeps for `create_record`: `ctrl_buf`
below a record, and every stream's `snd_offset` inside its `snd_data`. -/
structure SendState (c : TcplsConnection) : Prop where
  ctrlBuf_lt : c.ctrlBuf.length < maxRecordSize
  streams_ok : ∀ id st, c.streams.get? id = some st → st.SndInv

section SendState

variable {c c' : TcplsConnection}

theorem SendState.entries (hc : c.SendState) : ∀ e ∈ c.streams.entries, e.2.SndInv :=
  fun e he => hc.streams_ok e.1 e.2 (HashMap.get?_eq_some_iff.mpr he)

/-- The invariant reads only `ctrl_buf` and the streams. -/
theorem SendState.of_eq (hc : c.SendState) (hctrl : c'.ctrlBuf = c.ctrlBuf)
    (hstreams : c'.streams = c.streams) : c'.SendState :=
  ⟨by rw [hctrl]; exact hc.ctrlBuf_lt, by rw [hstreams]; exact hc.streams_ok⟩

/-- A step that writes one stream, keeping its sending bounds, keeps the
invariant. -/
theorem SendState.of_insert (hc : c.SendState) {id : UInt32} {st : TcplsStream} (hst : st.SndInv)
    (hctrl : c'.ctrlBuf = c.ctrlBuf) (hstreams : c'.streams = c.streams.insert id st) :
    c'.SendState := by
  refine ⟨by rw [hctrl]; exact hc.ctrlBuf_lt, ?_⟩
  intro id' st' h'
  rw [hstreams, HashMap.get?_insert] at h'
  split at h'
  · cases h'
    exact hst
  · exact hc.streams_ok id' st' h'

theorem sendState_new {connId : UInt32} {role : Role} {random : Except Unit Nat}
    (h : TcplsConnection.new connId role random = .ok c) : c.SendState := by
  obtain ⟨hctrl, hstreams⟩ := new_eq_ok h
  refine ⟨by rw [hctrl]; decide, ?_⟩
  intro id st hst
  rw [hstreams id] at hst
  split at hst
  · cases hst
    exact ⟨Nat.zero_le _, Nat.zero_le _⟩
  · cases hst

theorem SendState.addDataToStream (hc : c.SendState) {id : UInt32} {data : Bytes}
    (h : c.addDataToStream id data = .ok c') : c'.SendState := by
  obtain ⟨st, hst, hlen, rfl⟩ := addDataToStream_eq_ok h
  have hoff := (hc.streams_ok id st hst).offset_le
  exact hc.of_insert ⟨by simp only [List.length_append]; omega, by simpa using hlen⟩ rfl rfl

theorem SendState.attachStream (hc : c.SendState) {st : TcplsStream} (hst : st.SndInv)
    (id : UInt32) : (c.attachStream st id).SendState :=
  hc.of_insert hst rfl rfl

theorem SendState.reorder (hc : c.SendState) (l : List (UInt32 × TcplsStream))
    (h : l.Perm c.streams.entries) : { c with streams := c.streams.reorder l h }.SendState :=
  ⟨hc.ctrlBuf_lt, by simpa using hc.streams_ok⟩

theorem SendState.addAckFrame (hc : c.SendState) : c.addAckFrame.SendState :=
  ⟨addAckFrame_ctrlBuf_length c hc.ctrlBuf_lt, by simpa using hc.streams_ok⟩

/-- `read_ack` writes only the highest sequence number received. -/
theorem readAck_eq_ok {payload : Bytes} {offset n : Nat}
    (h : c.readAck payload offset = .ok (c', n)) : c'.ctrlBuf = c.ctrlBuf ∧ c'.streams = c.streams := by
  obtain ⟨-, rfl | ⟨seq, rfl⟩⟩ := readAck_result h <;> exact ⟨rfl, rfl⟩

/-- `recv_stream_frame` writes one stream, the one there or a new one, and
only its receiving side. -/
theorem recvStreamFrame_eq_ok {payload : Bytes} {offset n : Nat}
    (h : c.recvStreamFrame payload offset = .ok (c', n)) :
    c'.ctrlBuf = c.ctrlBuf ∧ ∃ id st, c'.streams = c.streams.insert id st ∧
      st.sndData = ((c.streams.get? id).getD (TcplsStream.new id [])).sndData ∧
      st.sndOffset = ((c.streams.get? id).getD (TcplsStream.new id [])).sndOffset := by
  obtain ⟨id, _, st, _, hread, rfl⟩ := recvStreamFrame_result h
  obtain ⟨hdata, hoffset⟩ := TcplsStream.readStreamFrame_snd hread
  exact ⟨rfl, id, st, rfl, hdata, hoffset⟩

theorem SendState.recvStreamFrame (hc : c.SendState) {payload : Bytes} {offset n : Nat}
    (h : c.recvStreamFrame payload offset = .ok (c', n)) : c'.SendState := by
  obtain ⟨hctrl, id, st, hstreams, hdata, hoffset⟩ := recvStreamFrame_eq_ok h
  have hold : ((c.streams.get? id).getD (TcplsStream.new id [])).SndInv := by
    cases hget : c.streams.get? id with
    | none => exact TcplsStream.sndInv_new id []
    | some st₀ => exact hc.streams_ok id st₀ hget
  exact hc.of_insert (hold.of_snd hdata hoffset) hctrl hstreams

theorem SendState.processFrame (hc : c.SendState) {payload : Bytes} {i n : Nat}
    (h : c.processFrame payload i = .ok (.ok (c', n))) : c'.SendState := by
  unfold TcplsConnection.processFrame at h
  obtain ⟨typ, -, h⟩ := bind_eq_ok.mp h
  split_ifs at h
  · cases h
    exact hc
  · cases h
    exact hc.addAckFrame
  · obtain ⟨⟨c₁, consumed⟩, hack, h⟩ := bind_eq_ok.mp h
    cases h
    obtain ⟨hctrl, hstreams⟩ := readAck_eq_ok hack
    exact hc.of_eq hctrl hstreams
  · obtain ⟨⟨c₁, read⟩, hrecv, h⟩ := bind_eq_ok.mp h
    obtain ⟨consumed, -, h⟩ := bind_eq_ok.mp h
    cases h
    exact (hc.recvStreamFrame hrecv).addAckFrame
  · cases h

theorem SendState.processRecordStep (hc : c.SendState) {payload : Bytes} {i i' : Nat}
    (h : c.processRecordStep payload i = .ok (c', i')) : c'.SendState := by
  unfold TcplsConnection.processRecordStep at h
  obtain ⟨r, hr, h⟩ := bind_eq_ok.mp h
  cases r with
  | error e => cases h
  | ok p =>
      obtain ⟨c₁, consumed⟩ := p
      simp only [expectOk_ok, ok_bind] at h
      cases h
      exact hc.processFrame hr

/-- Whatever the peer's record, `process_record` keeps the invariant. -/
theorem SendState.processRecord (hc : c.SendState) {payload : Bytes}
    (h : c.processRecord payload = .ok c') : c'.SendState := by
  unfold TcplsConnection.processRecord at h
  obtain ⟨i, -, h⟩ := bind_eq_ok.mp h
  obtain ⟨c₁, hloop, h⟩ := bind_eq_ok.mp h
  obtain ⟨first, -, h⟩ := bind_eq_ok.mp h
  have hc₁ : c₁.SendState :=
    processRecordLoop_invariant SendState (fun _ _ _ _ hc hs => hc.processRecordStep hs) hc hloop
  cases h
  split
  · exact hc₁.addAckFrame
  · exact hc₁

end SendState

/-! ## `create_record` -/

/-- The `match record.len()` of `create_record`: an empty record is sent as
one PADDING frame. -/
def padIfEmpty (record : Bytes) : Bytes := if record = [] then [0] else record

theorem length_padIfEmpty_pos (record : Bytes) : 0 < (padIfEmpty record).length := by
  unfold padIfEmpty
  split
  · decide
  · exact List.length_pos_iff.mpr ‹_›

theorem padIfEmpty_of_ne_nil {record : Bytes} (h : record ≠ []) : padIfEmpty record = record :=
  if_neg h

theorem length_padIfEmpty_le {record : Bytes} (h : record.length ≤ maxRecordSize) :
    (padIfEmpty record).length ≤ maxRecordSize := by
  unfold padIfEmpty
  split
  · decide
  · exact h

/-- The `match` of `create_record` on a record that fits. -/
theorem recordLen_match {record : Bytes} (h : record.length ≤ maxRecordSize) :
    (if record.length = 0 then Except.ok [0]
      else if record.length ≤ maxRecordSize then Except.ok record
      else Except.error Error.unexpectedRecordSize) = .ok (padIfEmpty record) := by
  by_cases h0 : record = []
  · subst h0
    rfl
  · rw [if_neg (by simpa using h0), if_pos h, padIfEmpty, if_neg h0]

/-- What `create_record` leaves once its loop has framed `adv id` bytes of
the stream at `id` and processed `last` last: the frames, then the control
frames when the frames leave strictly more room than they take. -/
def cutRecord (c : TcplsConnection) (adv : UInt32 → Nat) (last : UInt32) :
    TcplsConnection × Bytes :=
  let frames := encodeAll (chunksOf c.streams.entries adv)
  let c₁ := { c with
    streams := c.streams.setValues (c.streams.entries.map fun e => e.2.advance (adv e.1))
    lastStreamProcessed := last }
  if frames.length < maxRecordSize - c.ctrlBuf.length then
    ({ c₁ with ctrlBuf := [] }, padIfEmpty (frames ++ c.ctrlBuf))
  else (c₁, padIfEmpty frames)

/-- **The record `create_record` builds.**  From a state of the invariant,
the loop frames `adv id` bytes of the stream at `id`, greedily from the room
`MAX_RECORD_SIZE - ctrl_buf.len()`, and the frames fit a record. -/
theorem createRecord_eq (c : TcplsConnection) (hc : c.SendState) :
    ∃ adv : UInt32 → Nat, ∃ last,
      (∀ e ∈ c.streams.entries, e.2.sndOffset + adv e.1 ≤ e.2.sndData.length) ∧
      Greedy adv c.streams.entries [] (maxRecordSize - c.ctrlBuf.length) ∧
      (encodeAll (chunksOf c.streams.entries adv)).length ≤ maxRecordSize ∧
      c.createRecord = .ok ((c.cutRecord adv last).1, .ok (c.cutRecord adv last).2) := by
  have hctrl := hc.ctrlBuf_lt
  obtain ⟨adv, last, hadv, hgreedy, hlen, hloop⟩ :=
    createRecordLoop_spec_le c.streams.entries c.streams.nodup hc.entries []
      (maxRecordSize - c.ctrlBuf.length) (by simp only [List.length_nil]; omega)
      c.lastStreamProcessed
  rw [List.nil_append] at hloop hlen
  refine ⟨adv, last, hadv, hgreedy, hlen, ?_⟩
  have hisize : isizeMax = 2 ^ 63 - 1 := rfl
  have hmax : maxRecordSize = 16384 := rfl
  unfold createRecord cutRecord
  simp only [checkedSub_eq_ok (Nat.le_of_lt hctrl), ok_bind, HashMap.values, hloop]
  split
  · rename_i hroom
    rw [extendFromSlice_eq_ok (by omega), ok_bind]
    simp only [pure_bind]
    rw [recordLen_match (by rw [List.length_append]; omega)]
    rfl
  · simp only [pure_bind]
    rw [recordLen_match hlen]
    rfl

/-- Of the two ways `create_record` can end: the control frames appended
whole and cleared, or kept for the next record. -/
theorem cutRecord_cases (c : TcplsConnection) (adv : UInt32 → Nat) (last : UInt32) :
    (c.cutRecord adv last).1.streams
        = c.streams.setValues (c.streams.entries.map fun e => e.2.advance (adv e.1)) ∧
      ((encodeAll (chunksOf c.streams.entries adv)).length < maxRecordSize - c.ctrlBuf.length ∧
          (c.cutRecord adv last).2 = padIfEmpty (encodeAll (chunksOf c.streams.entries adv) ++ c.ctrlBuf) ∧
          (c.cutRecord adv last).1.ctrlBuf = [] ∨
        maxRecordSize - c.ctrlBuf.length ≤ (encodeAll (chunksOf c.streams.entries adv)).length ∧
          (c.cutRecord adv last).2 = padIfEmpty (encodeAll (chunksOf c.streams.entries adv)) ∧
          (c.cutRecord adv last).1.ctrlBuf = c.ctrlBuf) := by
  unfold cutRecord
  dsimp only
  split
  · exact ⟨rfl, .inl ⟨‹_›, rfl, rfl⟩⟩
  · exact ⟨rfl, .inr ⟨by omega, rfl, rfl⟩⟩

theorem SendState.cutRecord {c : TcplsConnection} (hc : c.SendState) {adv : UInt32 → Nat}
    (hadv : ∀ e ∈ c.streams.entries, e.2.sndOffset + adv e.1 ≤ e.2.sndData.length)
    (last : UInt32) : (c.cutRecord adv last).1.SendState := by
  obtain ⟨hstreams, hcases⟩ := cutRecord_cases c adv last
  have hok : ∀ id st, (c.cutRecord adv last).1.streams.get? id = some st → st.SndInv := by
    intro id st h
    rw [hstreams, HashMap.get?_setValues_map, Option.map_eq_some_iff] at h
    obtain ⟨st₀, hst₀, rfl⟩ := h
    exact TcplsStream.sndInv_advance (hc.streams_ok id st₀ hst₀)
      (hadv (id, st₀) (HashMap.get?_eq_some_iff.mp hst₀))
  rcases hcases with ⟨-, -, hctrl⟩ | ⟨-, -, hctrl⟩
  · exact ⟨by rw [hctrl]; decide, hok⟩
  · exact ⟨by rw [hctrl]; exact hc.ctrlBuf_lt, hok⟩

theorem SendState.createRecord {c c' : TcplsConnection} (hc : c.SendState)
    {r : Except Error Bytes} (h : c.createRecord = .ok (c', r)) : c'.SendState := by
  obtain ⟨adv, last, hadv, -, -, hcreate⟩ := createRecord_eq c hc
  rw [hcreate] at h
  cases h
  exact hc.cutRecord hadv last

/-! ## Runs -/

/-- The states a connection reaches: from `new`, any sequence of calls of its
interface, with any record from the peer, and its iteration order changed at
any time.  A stream is attached with its offset inside its data. -/
inductive Reachable : TcplsConnection → Prop
  | new {c : TcplsConnection} (connId : UInt32) (role : Role) (random : Except Unit Nat) :
      TcplsConnection.new connId role random = .ok c → Reachable c
  | setData {c c' : TcplsConnection} (data : Bytes) :
      Reachable c → c.setData data = .ok c' → Reachable c'
  | setStreamData {c c' : TcplsConnection} (data : Bytes) :
      Reachable c → c.setStreamData data = .ok c' → Reachable c'
  | attachStream {c : TcplsConnection} (st : TcplsStream) (id : UInt32) :
      Reachable c → st.SndInv → Reachable (c.attachStream st id)
  | reorder {c : TcplsConnection} (l : List (UInt32 × TcplsStream)) (h : l.Perm c.streams.entries) :
      Reachable c → Reachable { c with streams := c.streams.reorder l h }
  | addAckFrame {c : TcplsConnection} : Reachable c → Reachable c.addAckFrame
  | createRecord {c c' : TcplsConnection} (r : Except Error Bytes) :
      Reachable c → c.createRecord = .ok (c', r) → Reachable c'
  | processRecord {c c' : TcplsConnection} (payload : Bytes) :
      Reachable c → c.processRecord payload = .ok c' → Reachable c'
  | updateTlsSeq {c : TcplsConnection} (tlsSeq : Nat) :
      Reachable c → Reachable (c.updateTlsSeq tlsSeq)
  | invAck {c : TcplsConnection} : Reachable c → Reachable c.invAck
  | setSessionToken {c : TcplsConnection} (newSessToken : Nat) :
      Reachable c → Reachable (c.setSessionToken newSessToken)

/-- The invariant holds in every reachable state. -/
theorem Reachable.sendState {c : TcplsConnection} (h : c.Reachable) : c.SendState := by
  induction h with
  | new _ _ _ hnew => exact sendState_new hnew
  | setData _ _ hset ih => exact ih.addDataToStream hset
  | setStreamData _ _ hset ih => exact ih.addDataToStream hset
  | attachStream st id _ hst ih => exact ih.attachStream hst id
  | reorder l hperm _ ih => exact ih.reorder l hperm
  | addAckFrame _ ih => exact ih.addAckFrame
  | createRecord _ _ hcreate ih => exact ih.createRecord hcreate
  | processRecord _ _ hprocess ih => exact ih.processRecord hprocess
  | updateTlsSeq _ _ ih => exact ih.of_eq rfl rfl
  | invAck _ ih => exact ih.of_eq rfl rfl
  | setSessionToken _ _ ih => exact ih.of_eq rfl rfl

/-! ## The records of a run -/

/-- **Every record fits one TLS fragment, and no byte is lost.**  From every
reachable state `create_record` returns a record, never
`UnexpectedRecordSize`, of `1` to `MAX_RECORD_SIZE` bytes.  Its STREAM frames
are cut from the streams in iteration order, `snd_data[snd_offset..snd_offset +
adv id]` from the stream at `id`, each within its fields, its `u16` length
among them; `adv` is the loop's greedy framing, every stream with data taking
what the room it is given allows, and the stream advances by exactly what it
framed.  `ctrl_buf` is appended whole and cleared, or left as it was. -/
theorem reachable_createRecord_fits {c : TcplsConnection} (hc : c.Reachable) :
    ∃ c' r, c.createRecord = .ok (c', .ok r) ∧ 1 ≤ r.length ∧ r.length ≤ maxRecordSize ∧
      ∃ adv : UInt32 → Nat,
        Greedy adv c.streams.entries [] (maxRecordSize - c.ctrlBuf.length) ∧
        (∀ f ∈ chunksOf c.streams.entries adv, f.WellFormed) ∧
        (∀ e ∈ c.streams.entries, e.2.sndOffset + adv e.1 ≤ e.2.sndData.length) ∧
        c'.streams = c.streams.setValues (c.streams.entries.map fun e => e.2.advance (adv e.1)) ∧
        (r = padIfEmpty (encodeAll (chunksOf c.streams.entries adv) ++ c.ctrlBuf) ∧ c'.ctrlBuf = [] ∨
          r = encodeAll (chunksOf c.streams.entries adv) ∧ c'.ctrlBuf = c.ctrlBuf) := by
  have hs := hc.sendState
  have hctrl := hs.ctrlBuf_lt
  obtain ⟨adv, last, hadv, hgreedy, hlen, hcreate⟩ := createRecord_eq c hs
  obtain ⟨hstreams, hcases⟩ := cutRecord_cases c adv last
  have hwf : ∀ f ∈ chunksOf c.streams.entries adv, f.WellFormed := fun f hf =>
    wellFormed_of_mem_chunksOf hs.entries hlen hf
  rcases hcases with ⟨hroom, hr, hctrl'⟩ | ⟨hfull, hr, hctrl'⟩
  · -- the control frames fit after the frames
    refine ⟨_, _, hcreate, ?_, ?_, adv, hgreedy, hwf, hadv, hstreams, .inl ⟨hr, hctrl'⟩⟩
    · rw [hr]
      exact length_padIfEmpty_pos _
    · rw [hr]
      exact length_padIfEmpty_le (by rw [List.length_append]; omega)
  · -- the frames alone: they leave no more room than `ctrl_buf` takes, so they are not empty
    have hne : encodeAll (chunksOf c.streams.entries adv) ≠ [] := by
      intro h
      rw [h, List.length_nil] at hfull
      omega
    rw [padIfEmpty_of_ne_nil hne] at hr
    refine ⟨_, _, hcreate, ?_, ?_, adv, hgreedy, hwf, hadv, hstreams, .inr ⟨hr, hctrl'⟩⟩
    · rw [hr]
      exact List.length_pos_iff.mpr hne
    · rw [hr]
      exact hlen

/-- A client with three bytes queued on stream `0` and one ACK frame. -/
theorem queued_client_record_fits :
    ∃ c : TcplsConnection, c.Reachable ∧ c.hasData = true ∧ c.ctrlBuf ≠ [] ∧
    ∃ c' r, c.createRecord = .ok (c', .ok r) ∧ 1 ≤ r.length ∧ r.length ≤ maxRecordSize ∧
      ∃ adv : UInt32 → Nat,
        Greedy adv c.streams.entries [] (maxRecordSize - c.ctrlBuf.length) ∧
        (∀ f ∈ chunksOf c.streams.entries adv, f.WellFormed) ∧
        (∀ e ∈ c.streams.entries, e.2.sndOffset + adv e.1 ≤ e.2.sndData.length) ∧
        c'.streams = c.streams.setValues (c.streams.entries.map fun e => e.2.advance (adv e.1)) ∧
        (r = padIfEmpty (encodeAll (chunksOf c.streams.entries adv) ++ c.ctrlBuf) ∧ c'.ctrlBuf = [] ∨
          r = encodeAll (chunksOf c.streams.entries adv) ∧ c'.ctrlBuf = c.ctrlBuf) := by
  obtain ⟨c₀, hnew⟩ : ∃ c₀, TcplsConnection.new 0 .client (.error ()) = .ok c₀ := ⟨_, rfl⟩
  obtain ⟨hctrl₀, hstreams₀⟩ := new_eq_ok hnew
  have hset := @addDataToStream_of_get c₀ 0 _ [1, 2, 3] (by rw [hstreams₀ 0, if_pos rfl])
    (by simp [TcplsStreamBuilder.build, TcplsStreamBuilder.new, isizeMax])
  have hreach := Reachable.addAckFrame (Reachable.setData _ (.new 0 .client (.error ()) hnew) hset)
  refine ⟨_, hreach, ?_, ?_, reachable_createRecord_fits hreach⟩
  · cases hnew
    decide
  · rw [addAckFrame_ctrlBuf _ (by simp [hctrl₀, maxRecordSize])]
    simp

/-- **A full first frame holds the control frames back.**  When the first
stream in iteration order has at least as many bytes left as the room
`MAX_RECORD_SIZE - ctrl_buf.len()` leaves for a frame's data, its frame takes
that room exactly; the record is then not below `MAX_RECORD_SIZE -
ctrl_buf.len()`, and `ctrl_buf` stays queued, out of the record. -/
theorem createRecord_holds_back_ackFrames (c : TcplsConnection) (hc : c.SendState)
    {id : UInt32} {st : TcplsStream} {rest : List (UInt32 × TcplsStream)}
    (hfirst : c.streams.entries = (id, st) :: rest)
    (hroom : c.ctrlBuf.length + streamHeaderSize < maxRecordSize)
    (hfill : maxRecordSize ≤ c.ctrlBuf.length + streamHeaderSize + (st.sndData.length - st.sndOffset)) :
    ∃ c' r, c.createRecord = .ok (c', .ok r) ∧ c'.ctrlBuf = c.ctrlBuf := by
  obtain ⟨adv, last, hadv, hgreedy, -, hcreate⟩ := createRecord_eq c hc
  obtain ⟨-, hcases⟩ := cutRecord_cases c adv last
  have hmem : (id, st) ∈ c.streams.entries := by
    rw [hfirst]
    exact List.mem_cons_self
  have hst : st.SndInv := hc.entries (id, st) hmem
  have hn : adv id = maxRecordSize - c.ctrlBuf.length - streamHeaderSize := by
    have hsend : (st.hasDataToSend && decide (maxRecordSize - c.ctrlBuf.length > streamHeaderSize))
        = true := by
      simp only [TcplsStream.hasDataToSend, Bool.and_eq_true, Bool.not_eq_true',
        List.isEmpty_eq_false_iff, decide_eq_true_eq, ne_eq]
      refine ⟨⟨?_, by omega⟩, by omega⟩
      intro hnil
      rw [hnil, List.length_nil] at hfill
      omega
    rw [hfirst] at hgreedy
    rw [hgreedy.1]
    dsimp only
    rw [TcplsStream.framedIn, if_pos hsend, TcplsStream.frameDataLength]
    omega
  have hframe : (encodeAll (st.chunkFrames (adv id))).length = maxRecordSize - c.ctrlBuf.length := by
    rw [TcplsStream.length_encodeAll_chunkFrames st (by omega) (by simpa using hadv (id, st) hmem)]
    omega
  have hlong : maxRecordSize - c.ctrlBuf.length ≤ (encodeAll (chunksOf c.streams.entries adv)).length := by
    rw [hfirst, chunksOf_cons, encodeAll_append, List.length_append]
    exact hframe ▸ Nat.le_add_right _ _
  rcases hcases with ⟨hlt, -, -⟩ | ⟨-, -, hctrl⟩
  · omega
  · exact ⟨_, _, hcreate, hctrl⟩

/-- A client with `16356` bytes queued on stream `0` and one ACK frame: the
frame of those bytes is `16371 = MAX_RECORD_SIZE - 13` bytes long, so the ACK
frame stays queued. -/
theorem ack_held_back_by_full_frame :
    ∃ c : TcplsConnection, c.Reachable ∧ c.ctrlBuf ≠ [] ∧
      ∃ c' r, c.createRecord = .ok (c', .ok r) ∧ c'.ctrlBuf = c.ctrlBuf := by
  obtain ⟨data, hdata⟩ : ∃ data : Bytes, data.length = 16356 :=
    ⟨List.replicate 16356 0, List.length_replicate⟩
  obtain ⟨c₀, hnew⟩ : ∃ c₀, TcplsConnection.new 0 .client (.error ()) = .ok c₀ := ⟨_, rfl⟩
  obtain ⟨hctrl₀, hstreams₀⟩ := new_eq_ok hnew
  have hentries₀ : c₀.streams.entries = [(0, (TcplsStreamBuilder.new 0).build)] := by
    cases hnew
    rfl
  have hset := @addDataToStream_of_get c₀ 0 _ data (by rw [hstreams₀ 0, if_pos rfl])
    (by simp [TcplsStreamBuilder.build, TcplsStreamBuilder.new, hdata, isizeMax])
  have hreach := Reachable.addAckFrame (Reachable.setData _ (.new 0 .client (.error ()) hnew) hset)
  have hkey : (0 : UInt32) ∈ c₀.streams.keys := by simp [HashMap.keys, hentries₀]
  have hfirst : (c₀.streams.insert 0 ({ (TcplsStreamBuilder.new 0).build with
      sndData := (TcplsStreamBuilder.new 0).build.sndData ++ data })).entries
      = [(0, { (TcplsStreamBuilder.new 0).build with
          sndData := (TcplsStreamBuilder.new 0).build.sndData ++ data })] := by
    unfold HashMap.insert
    rw [dif_pos hkey]
    simp [hentries₀]
  refine ⟨_, hreach, ?_, createRecord_holds_back_ackFrames _ hreach.sendState
    (by rw [addAckFrame_streams]; exact hfirst) ?_ ?_⟩
  all_goals rw [addAckFrame_ctrlBuf _ (by simp [hctrl₀, maxRecordSize])]
  · simp
  · simp [hctrl₀, maxRecordSize, streamHeaderSize]
  · simp [hctrl₀, hdata, maxRecordSize, streamHeaderSize, TcplsStreamBuilder.build,
      TcplsStreamBuilder.new]

end TcplsConnection

end TcplsBasics.Ports.Tcpls
