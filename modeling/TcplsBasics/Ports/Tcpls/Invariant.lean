import TcplsBasics.Ports.Tcpls.Record

/-!
# What every reachable connection keeps (`tcpls/mod.rs`)

Over the runs of `Record` (`Reachable`: `new`, then any sequence of the
interface's calls, with any record from the peer), a connection keeps three
things, the invariant `Inv`:

* `ctrl_buf` is whole ACK frames of the connection, `[seq: u64][conn id:
  u32][ACK_FRAME]` each, and stays below a record (`SendState`):
  `add_ack_frame` appends a whole frame or nothing, `create_record` clears
  the buffer or leaves it, and nothing else writes it;
* every stream keeps `snd_offset` inside `snd_data` (`SendState`);
* streams `0` and `last_stream_id_created` are in the map: `new` puts `0`
  there and sets `last_stream_id_created` to `0`, `attach_stream` inserts the
  stream it names, and no call removes a stream.  So the `unwrap`s of
  `set_data` and `set_stream_data` never panic.

`process_record` is the one call with a loop.  What it can do to these parts
is said once, as the relation `Receives` (it adds streams and ACK frames of
the current sequence number, and keeps the connection's id, sequence number
and last stream created), and proved of each frame handler and then of the
loop.

## Main results

* `processRecord_receives`: what `process_record` does, whatever the record.
* `Reachable.inv`: the invariant holds in every reachable state.
* `reachable_connection_invariant`: its three parts, and the two `unwrap`s.
-/

namespace TcplsBasics.Ports.Tcpls

open TcplsBasics.Verified.Rust
open TcplsBasics.Verified.Bytes

namespace TcplsConnection

/-! ## ACK frames -/

/-- The ACK frames of the connection `connId` with the sequence numbers `seqs`. -/
def ackFrames (connId : UInt32) (seqs : List Nat) : Bytes :=
  encodeAll (seqs.map fun seq => .ack seq connId)

@[simp] theorem ackFrames_nil (connId : UInt32) : ackFrames connId [] = [] := rfl

theorem ackFrames_append (connId : UInt32) (seqs seqs' : List Nat) :
    ackFrames connId (seqs ++ seqs') = ackFrames connId seqs ++ ackFrames connId seqs' := by
  simp [ackFrames]

/-- `add_ack_frame` appends the frame of the current sequence number, or nothing. -/
theorem addAckFrame_ctrlBuf_cases (c : TcplsConnection) :
    c.addAckFrame.ctrlBuf = c.ctrlBuf ++ ackFrames c.connId [c.internalHighestRecordSequence] ∨
      c.addAckFrame.ctrlBuf = c.ctrlBuf := by
  unfold addAckFrame
  split
  · left
    simp [ackFrames, Frame.encode]
  · right
    rfl

@[simp] theorem addAckFrame_connId (c : TcplsConnection) : c.addAckFrame.connId = c.connId := by
  unfold addAckFrame
  split <;> rfl

@[simp] theorem addAckFrame_internalHighestRecordSequence (c : TcplsConnection) :
    c.addAckFrame.internalHighestRecordSequence = c.internalHighestRecordSequence := by
  unfold addAckFrame
  split <;> rfl

@[simp] theorem addAckFrame_lastStreamIdCreated (c : TcplsConnection) :
    c.addAckFrame.lastStreamIdCreated = c.lastStreamIdCreated := by
  unfold addAckFrame
  split <;> rfl

/-! ## What `process_record` does -/

/-- What `process_record` may do to the parts of a connection the invariant
reads: add streams, and queue ACK frames of the current sequence number; the
connection's id, that number and the last stream created stay. -/
structure Receives (c c' : TcplsConnection) : Prop where
  connId_eq : c'.connId = c.connId
  seq_eq : c'.internalHighestRecordSequence = c.internalHighestRecordSequence
  last_eq : c'.lastStreamIdCreated = c.lastStreamIdCreated
  streams_mono : ∀ id, (c.streams.get? id).isSome → (c'.streams.get? id).isSome
  acks : ∃ n, c'.ctrlBuf = c.ctrlBuf ++ ackFrames c.connId (List.replicate n c.internalHighestRecordSequence)

namespace Receives

variable {c c₁ c₂ : TcplsConnection}

theorem refl (c : TcplsConnection) : Receives c c :=
  ⟨rfl, rfl, rfl, fun _ h => h, 0, by simp⟩

theorem trans (h₁ : Receives c c₁) (h₂ : Receives c₁ c₂) : Receives c c₂ := by
  obtain ⟨n₁, hacks₁⟩ := h₁.acks
  obtain ⟨n₂, hacks₂⟩ := h₂.acks
  refine ⟨h₂.connId_eq.trans h₁.connId_eq, h₂.seq_eq.trans h₁.seq_eq, h₂.last_eq.trans h₁.last_eq,
    fun id h => h₂.streams_mono id (h₁.streams_mono id h), n₁ + n₂, ?_⟩
  rw [hacks₂, hacks₁, h₁.connId_eq, h₁.seq_eq, List.replicate_add, ackFrames_append, List.append_assoc]

/-- A write that leaves the invariant's parts alone. -/
theorem of_eq (hctrl : c₁.ctrlBuf = c.ctrlBuf) (hconn : c₁.connId = c.connId)
    (hseq : c₁.internalHighestRecordSequence = c.internalHighestRecordSequence)
    (hlast : c₁.lastStreamIdCreated = c.lastStreamIdCreated) (hstreams : c₁.streams = c.streams) :
    Receives c c₁ :=
  ⟨hconn, hseq, hlast, fun id h => hstreams ▸ h, 0, by simp [hctrl]⟩

theorem addAckFrame (c : TcplsConnection) : Receives c c.addAckFrame := by
  refine ⟨by simp, by simp, by simp, fun id h => by simpa using h, ?_⟩
  rcases addAckFrame_ctrlBuf_cases c with h | h
  · exact ⟨1, h⟩
  · exact ⟨0, by simp [h]⟩

end Receives

section Receiving

variable {c c' : TcplsConnection} {payload : Bytes}

theorem readAck_receives {offset n : Nat} (h : c.readAck payload offset = .ok (c', n)) :
    Receives c c' := by
  obtain ⟨-, rfl | ⟨seq, rfl⟩⟩ := readAck_result h
  · exact Receives.refl _
  · exact Receives.of_eq rfl rfl rfl rfl rfl

/-- `recv_stream_frame` inserts the stream the frame lands on, and writes
nothing else the invariant reads. -/
theorem recvStreamFrame_receives {offset n : Nat} (h : c.recvStreamFrame payload offset = .ok (c', n)) :
    Receives c c' := by
  obtain ⟨_, _, _, _, -, rfl⟩ := recvStreamFrame_result h
  refine ⟨rfl, rfl, rfl, ?_, 0, by simp⟩
  intro id hid
  simp only [HashMap.get?_insert]
  split
  · rfl
  · exact hid

theorem processFrame_receives {i n : Nat} (h : c.processFrame payload i = .ok (.ok (c', n))) :
    Receives c c' := by
  unfold TcplsConnection.processFrame at h
  obtain ⟨typ, -, h⟩ := bind_eq_ok.mp h
  split_ifs at h
  · -- PADDING
    cases h
    exact Receives.refl c
  · -- PING
    cases h
    exact Receives.addAckFrame c
  · -- ACK: `ack_received` is set first
    obtain ⟨⟨c₁, consumed⟩, hack, h⟩ := bind_eq_ok.mp h
    cases h
    have hset : Receives c { c with ackReceived := true } := Receives.of_eq rfl rfl rfl rfl rfl
    exact hset.trans (readAck_receives hack)
  · -- STREAM: the frame, then its ACK
    obtain ⟨⟨c₁, read⟩, hrecv, h⟩ := bind_eq_ok.mp h
    obtain ⟨consumed, -, h⟩ := bind_eq_ok.mp h
    cases h
    exact (recvStreamFrame_receives hrecv).trans (Receives.addAckFrame c₁)
  · cases h

theorem processRecordStep_receives {i i' : Nat} (h : c.processRecordStep payload i = .ok (c', i')) :
    Receives c c' := by
  unfold TcplsConnection.processRecordStep at h
  obtain ⟨r, hr, h⟩ := bind_eq_ok.mp h
  cases r with
  | error e => cases h
  | ok p =>
      obtain ⟨c₁, consumed⟩ := p
      simp only [expectOk_ok, ok_bind] at h
      cases h
      exact processFrame_receives hr

/-- Whatever the peer's record, `process_record` only adds streams and ACK
frames of the current sequence number. -/
theorem processRecord_receives (h : c.processRecord payload = .ok c') : Receives c c' := by
  unfold TcplsConnection.processRecord at h
  obtain ⟨i, -, h⟩ := bind_eq_ok.mp h
  obtain ⟨c₁, hloop, h⟩ := bind_eq_ok.mp h
  obtain ⟨first, -, h⟩ := bind_eq_ok.mp h
  -- the loop's own induction, with `Receives c` as what each turn keeps
  have hc₁ : Receives c c₁ :=
    processRecordLoop_invariant (Receives c)
      (fun _ _ _ _ hc hs => hc.trans (processRecordStep_receives hs)) (Receives.refl c) hloop
  cases h
  -- the safeguard on the first byte
  split
  · exact hc₁.trans (Receives.addAckFrame c₁)
  · exact hc₁

end Receiving

/-! ## What `create_record` does -/

@[simp] theorem cutRecord_connId (c : TcplsConnection) (adv : UInt32 → Nat) (last : UInt32) :
    (c.cutRecord adv last).1.connId = c.connId := by
  unfold cutRecord
  dsimp only
  split <;> rfl

@[simp] theorem cutRecord_lastStreamIdCreated (c : TcplsConnection) (adv : UInt32 → Nat) (last : UInt32) :
    (c.cutRecord adv last).1.lastStreamIdCreated = c.lastStreamIdCreated := by
  unfold cutRecord
  dsimp only
  split <;> rfl

/-! ## The invariant -/

/-- What every reachable connection keeps: `SendState` (`ctrl_buf` below a
record, every stream's offset inside its data), `ctrl_buf` whole ACK frames of
the connection, and streams `0` and `last_stream_id_created` in the map. -/
structure Inv (c : TcplsConnection) : Prop where
  sendState : c.SendState
  ctrlBuf_acks : ∃ seqs, c.ctrlBuf = ackFrames c.connId seqs
  zero_mem : (c.streams.get? 0).isSome
  last_mem : (c.streams.get? c.lastStreamIdCreated).isSome

section Inv

variable {c c' : TcplsConnection}

theorem inv_new {connId : UInt32} {role : Role} {random : Except Unit Nat}
    (h : TcplsConnection.new connId role random = .ok c) : c.Inv := by
  obtain ⟨hctrl, hstreams⟩ := new_eq_ok h
  have hlast : c.lastStreamIdCreated = 0 := by
    unfold TcplsConnection.new at h
    cases role with
    | client =>
        cases h
        rfl
    | server =>
        cases random with
        | error e => cases h
        | ok v =>
            cases h
            rfl
  have hzero : (c.streams.get? 0).isSome := by simp [hstreams]
  exact ⟨sendState_new h, ⟨[], by simp [hctrl]⟩, hzero, hlast ▸ hzero⟩

/-- A write of a stream already in the map keeps every key there. -/
theorem Inv.addDataToStream (hc : c.Inv) {id : UInt32} {data : Bytes}
    (h : c.addDataToStream id data = .ok c') : c'.Inv := by
  have hs := hc.sendState.addDataToStream h
  obtain ⟨st, -, -, rfl⟩ := addDataToStream_eq_ok h
  exact ⟨hs, hc.ctrlBuf_acks, HashMap.isSome_get?_insert _ _ hc.zero_mem,
    HashMap.isSome_get?_insert _ _ hc.last_mem⟩

theorem Inv.attachStream (hc : c.Inv) {st : TcplsStream} (hst : st.SndInv) (id : UInt32) :
    (c.attachStream st id).Inv := by
  refine ⟨hc.sendState.attachStream hst id, hc.ctrlBuf_acks, ?_, ?_⟩
  · -- stream `0` stays, whether or not `id` is `0`
    exact HashMap.isSome_get?_insert _ _ hc.zero_mem
  · -- the stream attached is the last one created
    show ((c.streams.insert id st).get? id).isSome
    simp

theorem Inv.reorder (hc : c.Inv) (l : List (UInt32 × TcplsStream)) (h : l.Perm c.streams.entries) :
    { c with streams := c.streams.reorder l h }.Inv :=
  ⟨hc.sendState.reorder l h, hc.ctrlBuf_acks, by simpa using hc.zero_mem, by simpa using hc.last_mem⟩

/-- `process_record` and `add_ack_frame`: what `Receives` allows keeps the
invariant's last three parts. -/
theorem Inv.of_receives (hc : c.Inv) (hs : c'.SendState) (h : Receives c c') : c'.Inv := by
  obtain ⟨seqs, hseqs⟩ := hc.ctrlBuf_acks
  obtain ⟨n, hacks⟩ := h.acks
  refine ⟨hs, ⟨seqs ++ List.replicate n c.internalHighestRecordSequence, ?_⟩, h.streams_mono 0 hc.zero_mem, ?_⟩
  · rw [hacks, hseqs, h.connId_eq, ackFrames_append]
  · rw [h.last_eq]
    exact h.streams_mono _ hc.last_mem

theorem Inv.addAckFrame (hc : c.Inv) : c.addAckFrame.Inv :=
  hc.of_receives hc.sendState.addAckFrame (Receives.addAckFrame c)

theorem Inv.processRecord (hc : c.Inv) {payload : Bytes} (h : c.processRecord payload = .ok c') :
    c'.Inv :=
  hc.of_receives (hc.sendState.processRecord h) (processRecord_receives h)

theorem Inv.createRecord (hc : c.Inv) {r : Except Error Bytes} (h : c.createRecord = .ok (c', r)) :
    c'.Inv := by
  obtain ⟨adv, last, -, -, -, hcreate⟩ := createRecord_eq c hc.sendState
  rw [hcreate] at h
  obtain ⟨rfl, -⟩ := Prod.mk.inj (Except.ok.inj h)
  obtain ⟨hstreams, hcases⟩ := cutRecord_cases c adv last
  have hmem : ∀ k, (c.streams.get? k).isSome → ((c.cutRecord adv last).1.streams.get? k).isSome := by
    intro k hk
    rw [hstreams, HashMap.get?_setValues_map, Option.isSome_map]
    exact hk
  refine ⟨hc.sendState.createRecord hcreate, ?_, hmem 0 hc.zero_mem, by simpa using hmem _ hc.last_mem⟩
  rcases hcases with ⟨-, -, hnil⟩ | ⟨-, -, hsame⟩
  · exact ⟨[], by simp [hnil]⟩
  · rw [hsame, cutRecord_connId]
    exact hc.ctrlBuf_acks

/-- The invariant reads only `ctrl_buf`, the id, the streams and the last stream created. -/
theorem Inv.of_eq (hc : c.Inv) (hctrl : c'.ctrlBuf = c.ctrlBuf) (hconn : c'.connId = c.connId)
    (hstreams : c'.streams = c.streams) (hlast : c'.lastStreamIdCreated = c.lastStreamIdCreated) :
    c'.Inv := by
  obtain ⟨seqs, hseqs⟩ := hc.ctrlBuf_acks
  exact ⟨hc.sendState.of_eq hctrl hstreams, ⟨seqs, by rw [hctrl, hconn, hseqs]⟩,
    hstreams ▸ hc.zero_mem, hstreams ▸ hlast ▸ hc.last_mem⟩

end Inv

/-- The invariant holds in every reachable state. -/
theorem Reachable.inv {c : TcplsConnection} (h : c.Reachable) : c.Inv := by
  induction h with
  | new _ _ _ hnew => exact inv_new hnew
  | setData _ _ hset ih => exact ih.addDataToStream hset
  | setStreamData _ _ hset ih => exact ih.addDataToStream hset
  | attachStream st id _ hst ih => exact ih.attachStream hst id
  | reorder l hperm _ ih => exact ih.reorder l hperm
  | addAckFrame _ ih => exact ih.addAckFrame
  | createRecord _ _ hcreate ih => exact ih.createRecord hcreate
  | processRecord _ _ hprocess ih => exact ih.processRecord hprocess
  | updateTlsSeq _ _ ih => exact ih.of_eq rfl rfl rfl rfl
  | invAck _ ih => exact ih.of_eq rfl rfl rfl rfl
  | setSessionToken _ _ ih => exact ih.of_eq rfl rfl rfl rfl

/-- The `unwrap` of `add_data_to_stream` finds a stream that is there; only
the capacity of `snd_data` can still make it panic. -/
theorem addDataToStream_ne_unwrapNone {c : TcplsConnection} {id : UInt32} (hid : (c.streams.get? id).isSome)
    (data : Bytes) : c.addDataToStream id data ≠ .error ⟨unwrapNone⟩ := by
  obtain ⟨st, hst⟩ := Option.isSome_iff_exists.mp hid
  by_cases hlen : st.sndData.length + data.length ≤ isizeMax
  · rw [addDataToStream_of_get hst hlen]
    exact nofun
  · unfold addDataToStream TcplsStream.addDataToSend
    rw [hst, expect_some, ok_bind, extendFromSlice_eq_error (Nat.lt_of_not_le hlen), error_bind, error_bind]
    simp [unwrapNone]

theorem reachable_connection_invariant {c : TcplsConnection} (hc : c.Reachable) :
    (∃ seqs : List Nat, c.ctrlBuf = encodeAll (seqs.map fun seq => .ack seq c.connId)) ∧
      c.ctrlBuf.length < maxRecordSize ∧
    (∀ id st, c.streams.get? id = some st → st.sndOffset ≤ st.sndData.length) ∧
    (c.streams.get? 0).isSome ∧ (c.streams.get? c.lastStreamIdCreated).isSome ∧
    ∀ data, c.setData data ≠ .error ⟨unwrapNone⟩ ∧ c.setStreamData data ≠ .error ⟨unwrapNone⟩ := by
  have hinv := hc.inv
  refine ⟨hinv.ctrlBuf_acks, hinv.sendState.ctrlBuf_lt,
    fun id st h => (hinv.sendState.streams_ok id st h).offset_le, hinv.zero_mem, hinv.last_mem, ?_⟩
  intro data
  exact ⟨addDataToStream_ne_unwrapNone hinv.zero_mem data, addDataToStream_ne_unwrapNone hinv.last_mem data⟩

/-- A client with a built stream `5` attached and one ACK queued. -/
theorem attached_client_invariant :
    ∃ c : TcplsConnection, c.Reachable ∧ c.lastStreamIdCreated = 5 ∧
      ((∃ seqs : List Nat, c.ctrlBuf = encodeAll (seqs.map fun seq => .ack seq c.connId)) ∧
        c.ctrlBuf.length < maxRecordSize ∧
      (∀ id st, c.streams.get? id = some st → st.sndOffset ≤ st.sndData.length) ∧
      (c.streams.get? 0).isSome ∧ (c.streams.get? c.lastStreamIdCreated).isSome ∧
      ∀ data, c.setData data ≠ .error ⟨unwrapNone⟩ ∧ c.setStreamData data ≠ .error ⟨unwrapNone⟩) := by
  obtain ⟨c₀, hnew⟩ : ∃ c, TcplsConnection.new 0 .client (.error ()) = .ok c := ⟨_, rfl⟩
  have hbuilt : (TcplsStreamBuilder.new 5).build.SndInv := ⟨Nat.zero_le _, by decide⟩
  have hc : ((c₀.attachStream (TcplsStreamBuilder.new 5).build 5).addAckFrame).Reachable :=
    .addAckFrame (.attachStream _ 5 (.new 0 .client (.error ()) hnew) hbuilt)
  exact ⟨_, hc, by simp [attachStream], reachable_connection_invariant hc⟩

end TcplsConnection

end TcplsBasics.Ports.Tcpls
