import TcplsBasics.Ports.Tcpls.Frames

/-!
# In-order delivery from a sender to a receiver

A sender `S` and a receiver `R`, both built by `TcplsConnection::new`.  The
sender queues data (`set_data`, `set_stream_data`), attaches streams built by
`TcplsStreamBuilder`, and cuts records (`create_record`); the receiver
processes every record in order (`process_record`) and attaches nothing.
`Reach S R` is every state this can lead to; the `HashMap`'s iteration order,
which decides the order of the frames in a record, is any order at any time
(`Reach.reorder`).

The invariant (`DeliveryInv`) says that the receiver holds, for every stream
id, exactly the bytes the sender has framed on it (`sentOn`), and that a stream
of the receiver has `rcv_offset` inside `rcv_data`.  The second part is what
makes every frame of the next record land in the third branch of
`handle_offset`, or in the first with an empty gap
(`handleOffset_of_eq_length`).

## Main results

* `createRecord_spec`: the record `create_record` builds, and the sender after it.
* `processRecord_chunks`: the receiver takes such a record without a panic and
  then holds what the sender has framed.
* `reach_deliveryInv`: the invariant holds along every run.
* `DeliveryInv.getStreamData_sent`: the receiver then holds exactly what the
  sender has framed.
-/

namespace TcplsBasics.Ports.Tcpls

open TcplsBasics.Verified.Rust
open TcplsBasics.Verified.Bytes

/-! ## Framing a stream -/

namespace TcplsStream

/-- The stream after `n` more of its bytes were framed. -/
def advance (st : TcplsStream) (n : Nat) : TcplsStream := { st with sndOffset := st.sndOffset + n }

/-- The bytes the stream has put into frames: `snd_data[0..snd_offset]`. -/
def sent (st : TcplsStream) : Bytes := st.sndData.take st.sndOffset

/-- The frames that carry the next `n` bytes: none when `n = 0`, otherwise
one, with `FIN` when it reaches the end of `snd_data`. -/
def chunkFrames (st : TcplsStream) (n : Nat) : List Frame :=
  if n = 0 then []
  else [.stream ((st.sndData.drop st.sndOffset).take n) st.sndOffset st.streamId
    (decide (st.sndOffset + n = st.sndData.length))]

/-- What holds of every stream of a sender: `snd_offset` inside `snd_data`,
and `snd_data` a `Vec`. -/
structure SndInv (st : TcplsStream) : Prop where
  offset_le : st.sndOffset ≤ st.sndData.length
  length_le : st.sndData.length ≤ isizeMax

@[simp] theorem advance_zero (st : TcplsStream) : st.advance 0 = st := rfl

@[simp] theorem chunkFrames_zero (st : TcplsStream) : st.chunkFrames 0 = [] := rfl

@[simp] theorem advance_advance (st : TcplsStream) (n m : Nat) : (st.advance n).advance m = st.advance (n + m) := by
  simp only [advance, Nat.add_assoc]

theorem sent_advance (st : TcplsStream) (n : Nat) :
    (st.advance n).sent = st.sent ++ (st.sndData.drop st.sndOffset).take n := by
  simp [advance, sent, List.take_add]

theorem length_sent (st : TcplsStream) (h : st.SndInv) : st.sent.length = st.sndOffset := by
  simp [sent, h.offset_le]

theorem sndInv_advance {st : TcplsStream} {n : Nat} (h : st.SndInv)
    (hn : st.sndOffset + n ≤ st.sndData.length) : (st.advance n).SndInv :=
  ⟨hn, h.length_le⟩

/-- How many bytes a stream frames in the `create_record` loop with room
`space`: `frameDataLength` when it has data left and room for more than a
header, none otherwise. -/
def framedIn (st : TcplsStream) (space : Nat) : Nat :=
  if st.hasDataToSend && decide (space > streamHeaderSize) then st.frameDataLength space else 0

/-- A frame of `n > 0` bytes inside the data is `n` bytes and a header. -/
theorem length_encodeAll_chunkFrames (st : TcplsStream) {n : Nat} (hn : 0 < n)
    (hle : st.sndOffset + n ≤ st.sndData.length) :
    (encodeAll (st.chunkFrames n)).length = n + streamHeaderSize := by
  simp only [chunkFrames, if_neg (Nat.pos_iff_ne_zero.mp hn), encodeAll_cons, encodeAll_nil,
    List.append_nil, Frame.encode, length_streamFrame, List.length_take, List.length_drop]
  omega

/-- One stream of the `create_record` loop, with room `space` left in a record
that has room for it: it frames `framedIn space` of its bytes, in a frame
that fits the room.  The room is recomputed from the record only after a
frame: a stream that frames nothing leaves it to the next. -/
theorem createRecordLoop_step (st : TcplsStream) (hst : st.SndInv) (record : Bytes) {space : Nat}
    (hspace : record.length + space ≤ maxRecordSize) (last : UInt32) (rest : List TcplsStream) :
    st.sndOffset + st.framedIn space ≤ st.sndData.length ∧
      (encodeAll (st.chunkFrames (st.framedIn space))).length ≤ space ∧
      TcplsConnection.createRecordLoop record space last (st :: rest)
        = TcplsConnection.createRecordLoop (record ++ encodeAll (st.chunkFrames (st.framedIn space)))
            (if st.framedIn space = 0 then space
             else maxRecordSize - (record ++ encodeAll (st.chunkFrames (st.framedIn space))).length)
            (if st.framedIn space = 0 then last else st.streamId) rest >>= fun r =>
          .ok (st.advance (st.framedIn space) :: r.1, r.2) := by
  have hisize : isizeMax = 2 ^ 63 - 1 := rfl
  have hmax : maxRecordSize = 16384 := rfl
  have h15 : streamHeaderSize = 15 := rfl
  by_cases hsend : st.hasDataToSend && decide (space > streamHeaderSize)
  · -- a frame of `min (remaining, space - 15)` bytes
    have hdata : 0 < st.sndData.length - st.sndOffset ∧ st.sndData ≠ [] := by
      simp only [hasDataToSend, Bool.and_eq_true, Bool.not_eq_true', List.isEmpty_eq_false_iff,
        decide_eq_true_eq] at hsend
      exact ⟨by omega, hsend.1.1⟩
    have hroom : streamHeaderSize < space := by
      have := ((Bool.and_eq_true _ _).mp hsend).2
      simpa using this
    have hbounds : st.SendBounds :=
      ⟨List.length_pos_iff.mpr hdata.2, hst.offset_le, hst.length_le⟩
    have hn : st.framedIn space = st.frameDataLength space := if_pos hsend
    set n := st.frameDataLength space with hn_def
    have hnval : n = min (st.sndData.length - st.sndOffset) (space - streamHeaderSize) := by
      simp only [hn_def, frameDataLength]
    have hnpos : n ≠ 0 := by omega
    -- the frame type: FIN exactly when the frame reaches the end of `snd_data`
    have htyp : (if st.sndData.length - st.sndOffset + streamHeaderSize > space then streamFrameType
          else streamFrameFin)
        = if decide (st.sndOffset + n = st.sndData.length) then streamFrameFin
          else streamFrameType := by
      by_cases hcut : st.sndData.length - st.sndOffset + streamHeaderSize > space
      · rw [if_pos hcut, if_neg (by simp only [decide_eq_true_eq]; omega)]
      · rw [if_neg hcut, if_pos (by simp only [decide_eq_true_eq]; omega)]
    have hframe : encodeAll (st.chunkFrames n) = streamFrame ((st.sndData.drop st.sndOffset).take n)
        st.sndOffset st.streamId (if st.sndData.length - st.sndOffset + streamHeaderSize > space
          then streamFrameType else streamFrameFin) := by
      rw [htyp]
      simp [chunkFrames, hnpos, Frame.encode]
    have hflen : (encodeAll (st.chunkFrames n)).length = n + streamHeaderSize :=
      length_encodeAll_chunkFrames st (Nat.pos_of_ne_zero hnpos) (by omega)
    rw [hn]
    refine ⟨by omega, by omega, ?_⟩
    rw [TcplsConnection.createRecordLoop, if_pos hsend,
      createStreamFrame_spec st _ hbounds hroom (by omega)]
    simp only [ok_bind, Option.getD_some]
    rw [← hn_def, ← hframe, extendFromSlice_eq_ok (by rw [hflen]; omega), ok_bind,
      checkedSub_eq_ok (by rw [List.length_append, hflen]; omega), ok_bind, if_neg hnpos,
      if_neg hnpos]
    simp only [getId]
    cases TcplsConnection.createRecordLoop (record ++ encodeAll (st.chunkFrames n))
        (maxRecordSize - (record ++ encodeAll (st.chunkFrames n)).length) st.streamId rest with
    | error p => rfl
    | ok r => rfl
  · -- nothing to send, or no room: the stream is left as it is
    have hn : st.framedIn space = 0 := if_neg hsend
    rw [hn]
    refine ⟨by simpa using hst.offset_le, by simp, ?_⟩
    rw [TcplsConnection.createRecordLoop, if_neg hsend]
    simp only [chunkFrames_zero, encodeAll_nil, List.append_nil, if_pos, advance_zero]
    cases TcplsConnection.createRecordLoop record space last rest with
    | error p => rfl
    | ok r => rfl

end TcplsStream

namespace TcplsConnection

/-- The frames of a record cut from the entries `es` when the stream at each
key `id` frames `adv id` bytes, in iteration order. -/
def chunksOf (es : List (UInt32 × TcplsStream)) (adv : UInt32 → Nat) : List Frame :=
  es.flatMap fun e => e.2.chunkFrames (adv e.1)

/-- The frames of the record `create_record` returns: a record with no frame
is sent as one PADDING frame, `vec![0]`. -/
def recordFrames (fs : List Frame) : List Frame := if fs = [] then [.padding] else fs

@[simp] theorem chunksOf_nil (adv : UInt32 → Nat) : chunksOf [] adv = [] := rfl

@[simp] theorem chunksOf_cons (e : UInt32 × TcplsStream) (es : List (UInt32 × TcplsStream))
    (adv : UInt32 → Nat) : chunksOf (e :: es) adv = e.2.chunkFrames (adv e.1) ++ chunksOf es adv :=
  rfl

/-- The loop of `create_record` frames greedily, from the room `space` in
`record`: each stream in iteration order frames `framedIn` of the room it is
given, and after a frame the room is what the record leaves. -/
def Greedy (adv : UInt32 → Nat) : List (UInt32 × TcplsStream) → Bytes → Nat → Prop
  | [], _, _ => True
  | e :: es, record, space =>
    adv e.1 = e.2.framedIn space ∧
      Greedy adv es (record ++ encodeAll (e.2.chunkFrames (adv e.1)))
        (if adv e.1 = 0 then space else maxRecordSize - (record ++ encodeAll (e.2.chunkFrames (adv e.1))).length)

/-- Greedy framing reads `adv` only at the keys of the entries. -/
theorem Greedy.congr {adv adv' : UInt32 → Nat} :
    ∀ {es : List (UInt32 × TcplsStream)} {record : Bytes} {space : Nat},
      (∀ e ∈ es, adv' e.1 = adv e.1) → Greedy adv es record space → Greedy adv' es record space
  | [], _, _, _, _ => trivial
  | e :: es, record, space, hsame, ⟨hhead, hrest⟩ => by
    have he := hsame e List.mem_cons_self
    refine ⟨he.trans hhead, ?_⟩
    rw [he]
    exact Greedy.congr (fun e' h' => hsame e' (List.mem_cons_of_mem _ h')) hrest

/-- **The `create_record` loop, from any room.**  Over entries with distinct
keys, starting with room `space` in a record that has it, the loop frames
`adv id` bytes on the stream at each key, greedily, and the record grows by
those frames in iteration order without passing `MAX_RECORD_SIZE`. -/
theorem createRecordLoop_spec_le (es : List (UInt32 × TcplsStream))
    (hkeys : (es.map Prod.fst).Nodup) (hes : ∀ e ∈ es, e.2.SndInv) (record : Bytes) (space : Nat)
    (hspace : record.length + space ≤ maxRecordSize) (last : UInt32) :
    ∃ adv : UInt32 → Nat, ∃ last', (∀ e ∈ es, e.2.sndOffset + adv e.1 ≤ e.2.sndData.length) ∧
      Greedy adv es record space ∧
      (record ++ encodeAll (chunksOf es adv)).length ≤ maxRecordSize ∧
      createRecordLoop record space last (es.map Prod.snd)
        = .ok (es.map fun e => e.2.advance (adv e.1), record ++ encodeAll (chunksOf es adv), last') := by
  induction es generalizing record space last with
  | nil =>
      exact ⟨fun _ => 0, last, by simp, trivial, by simp; omega, by simp [createRecordLoop]⟩
  | cons e es ih =>
      obtain ⟨k, st⟩ := e
      rw [List.map_cons, List.nodup_cons] at hkeys
      have hst : st.SndInv := hes (k, st) List.mem_cons_self
      obtain ⟨hn, hflen, hstep⟩ :=
        TcplsStream.createRecordLoop_step st hst record hspace last (es.map Prod.snd)
      set n := st.framedIn space
      have hspace' : (record ++ encodeAll (st.chunkFrames n)).length +
          (if n = 0 then space else maxRecordSize - (record ++ encodeAll (st.chunkFrames n)).length)
          ≤ maxRecordSize := by
        by_cases h0 : n = 0
        · rw [if_pos h0, h0, TcplsStream.chunkFrames_zero, encodeAll_nil, List.append_nil]
          exact hspace
        · rw [if_neg h0, List.length_append]
          omega
      obtain ⟨adv, last', hadv, hgreedy, hlen', hloop⟩ :=
        ih hkeys.2 (fun e he => hes e (List.mem_cons_of_mem _ he)) _ _ hspace'
          (if n = 0 then last else st.streamId)
      let adv' : UInt32 → Nat := fun id => if id = k then n else adv id
      have hsame : ∀ e ∈ es, adv' e.1 = adv e.1 := by
        intro e he
        have hne : e.1 ≠ k := by
          rintro rfl
          exact hkeys.1 (List.mem_map.mpr ⟨e, he, rfl⟩)
        simp [adv', hne]
      have hmap : es.map (fun e => e.2.advance (adv' e.1)) = es.map (fun e => e.2.advance (adv e.1)) :=
        List.map_congr_left fun e he => by rw [hsame e he]
      have hchunks : chunksOf es adv' = chunksOf es adv :=
        List.flatMap_congr fun e he => by rw [hsame e he]
      have hk : adv' k = n := by simp [adv']
      refine ⟨adv', last', ?_, ?_, ?_, ?_⟩
      · intro e he
        rcases List.mem_cons.mp he with rfl | he
        · rw [hk]
          exact hn
        · rw [hsame e he]
          exact hadv e he
      · refine ⟨hk, ?_⟩
        rw [hk]
        exact hgreedy.congr hsame
      · rw [chunksOf_cons, hk, hchunks, encodeAll_append, ← List.append_assoc]
        exact hlen'
      · rw [List.map_cons, hstep, hloop, ok_bind, List.map_cons, hmap, chunksOf_cons, hk, hchunks,
          encodeAll_append, ← List.append_assoc]

/-- **The `create_record` loop.**  Over entries with distinct keys, the loop
frames some number `adv id` of bytes on the stream at each key, and the record
grows by those frames in iteration order. -/
theorem createRecordLoop_spec (es : List (UInt32 × TcplsStream)) (hkeys : (es.map Prod.fst).Nodup)
    (hes : ∀ e ∈ es, e.2.SndInv) (record : Bytes) (hrec : record.length ≤ maxRecordSize)
    (last : UInt32) :
    ∃ adv : UInt32 → Nat, ∃ last', (∀ e ∈ es, e.2.sndOffset + adv e.1 ≤ e.2.sndData.length) ∧
      (record ++ encodeAll (chunksOf es adv)).length ≤ maxRecordSize ∧
      createRecordLoop record (maxRecordSize - record.length) last (es.map Prod.snd)
        = .ok (es.map fun e => e.2.advance (adv e.1), record ++ encodeAll (chunksOf es adv), last') := by
  obtain ⟨adv, last', hadv, -, hlen, hloop⟩ :=
    createRecordLoop_spec_le es hkeys hes record (maxRecordSize - record.length) (by omega) last
  exact ⟨adv, last', hadv, hlen, hloop⟩

/-- **The record `create_record` builds.**  With `ctrl_buf` empty, as it is on
a sender, the record holds the STREAM frames of the loop, or one PADDING frame
when there are none, and each stream has advanced past what it framed. -/
theorem createRecord_spec (c : TcplsConnection) (hctrl : c.ctrlBuf = [])
    (hinv : ∀ e ∈ c.streams.entries, e.2.SndInv) :
    ∃ adv : UInt32 → Nat, ∃ last,
      (∀ e ∈ c.streams.entries, e.2.sndOffset + adv e.1 ≤ e.2.sndData.length) ∧
      (encodeAll (chunksOf c.streams.entries adv)).length ≤ maxRecordSize ∧
      c.createRecord = .ok ({ c with
          streams := c.streams.setValues (c.streams.entries.map fun e => e.2.advance (adv e.1)),
          lastStreamProcessed := last },
        .ok (encodeAll (recordFrames (chunksOf c.streams.entries adv)))) := by
  obtain ⟨adv, last, hadv, hlen, hloop⟩ :=
    createRecordLoop_spec c.streams.entries c.streams.nodup hinv [] (Nat.zero_le _)
      c.lastStreamProcessed
  simp only [List.nil_append, List.length_nil, Nat.sub_zero] at hloop hlen
  refine ⟨adv, last, hadv, hlen, ?_⟩
  unfold createRecord
  simp only [hctrl, List.length_nil, checkedSub_eq_ok (Nat.zero_le _), Nat.sub_zero, ok_bind,
    HashMap.values, hloop]
  -- the `match record.len()` of the source
  have hfinal : (if (encodeAll (chunksOf c.streams.entries adv)).length = 0 then Except.ok [0]
      else if (encodeAll (chunksOf c.streams.entries adv)).length ≤ maxRecordSize then
        Except.ok (encodeAll (chunksOf c.streams.entries adv))
      else Except.error Error.unexpectedRecordSize)
      = .ok (encodeAll (recordFrames (chunksOf c.streams.entries adv))) := by
    by_cases h0 : chunksOf c.streams.entries adv = []
    · rw [h0]
      rfl
    · have hne : (encodeAll (chunksOf c.streams.entries adv)).length ≠ 0 := fun h =>
        h0 (encodeAll_eq_nil (List.eq_nil_of_length_eq_zero h))
      rw [if_neg hne, if_pos hlen, recordFrames, if_neg h0]
  have hisize : isizeMax = 2 ^ 63 - 1 := rfl
  have hmax : maxRecordSize = 16384 := rfl
  split
  · rw [extendFromSlice_eq_ok (by simp only [List.length_nil]; omega), ok_bind, List.append_nil]
    simp only [pure_bind, hfinal]
    rfl
  · simp only [pure_bind, hfinal]
    rfl

/-! ## The receiver's side -/

/-- The receiver holds `E id` on each stream `id`: a stream it does not have
is one on which `E` is empty, and a stream it has keeps `rcv_offset` inside
`rcv_data`. -/
structure Holds (R : TcplsConnection) (E : UInt32 → Bytes) : Prop where
  absent : ∀ id, R.streams.get? id = none → E id = []
  present : ∀ id rt, R.streams.get? id = some rt → rt.rcvData = E id ∧ rt.rcvOffset ≤ rt.rcvData.length

theorem Holds.addAckFrame {R : TcplsConnection} {E : UInt32 → Bytes} (h : R.Holds E) :
    R.addAckFrame.Holds E :=
  ⟨by simpa using h.absent, by simpa using h.present⟩

theorem Holds.congr {R : TcplsConnection} {E E' : UInt32 → Bytes} (h : R.Holds E)
    (hE : ∀ id, E id = E' id) : R.Holds E' := by
  have : E = E' := funext hE
  exact this ▸ h

/-- A STREAM frame that starts where the receiver's stream ends extends it by
its data, whether the stream is there or is created. -/
theorem deliverStream_holds {R : TcplsConnection} {E : UInt32 → Bytes} (hR : R.Holds E)
    (data : Bytes) (id : UInt32) (hlen : (E id).length + data.length ≤ isizeMax) :
    ∃ R', R.deliverStream data (E id).length id = .ok R' ∧
      R'.Holds (fun id' => if id' = id then E id ++ data else E id') := by
  obtain ⟨st, hst, hdata, hoff⟩ : ∃ st, (R.streams.get? id).getD (TcplsStream.new id []) = st ∧
      st.rcvData = E id ∧ st.rcvOffset ≤ st.rcvData.length := by
    cases h : R.streams.get? id with
    | none => exact ⟨_, rfl, by simp [TcplsStream.new, hR.absent id h], by simp [TcplsStream.new]⟩
    | some rt => exact ⟨rt, rfl, hR.present id rt h⟩
  have hho := st.handleOffset_of_eq_length data hoff (by rw [hdata]; exact hlen)
  refine ⟨_, by rw [deliverStream, hst, ← hdata, hho, ok_bind]; rfl, ?_, ?_⟩
  · intro id' h'
    rw [HashMap.get?_insert] at h'
    split at h'
    · cases h'
    · rename_i hne
      simpa [hne] using hR.absent id' h'
  · intro id' rt h'
    rw [HashMap.get?_insert] at h'
    split at h'
    · -- the stream of the frame: `rcv_offset` is the larger of the old one and the frame's
      cases h'
      rename_i heq
      subst heq
      simp only [if_true, ← hdata]
      split <;> simp
      omega
    · rename_i hne
      simpa [hne] using hR.present id' rt h'

/-- **Receiving the frames of a record.**  If the receiver holds what each
stream of the entries has framed, handling the frames cut from them leaves it
holding what they have framed after the record. -/
theorem handleFrames_chunksOf (es : List (UInt32 × TcplsStream)) (hkeys : (es.map Prod.fst).Nodup)
    (adv : UInt32 → Nat)
    (hes : ∀ e ∈ es, e.2.streamId = e.1 ∧ e.2.SndInv ∧ e.2.sndOffset + adv e.1 ≤ e.2.sndData.length)
    {R : TcplsConnection} {E : UInt32 → Bytes} (hR : R.Holds E) (hE : ∀ e ∈ es, E e.1 = e.2.sent) :
    ∃ R', R.handleFrames (chunksOf es adv) = .ok R' ∧
      R'.Holds (fun id => match es.lookup id with
        | some st => (st.advance (adv id)).sent
        | none => E id) := by
  induction es with
  | nil => exact ⟨R, rfl, hR⟩
  | cons e es ih =>
      obtain ⟨k, st⟩ := e
      rw [List.map_cons, List.nodup_cons] at hkeys
      obtain ⟨hid, hst, hadv⟩ : st.streamId = k ∧ st.SndInv ∧ st.sndOffset + adv k ≤ st.sndData.length :=
        hes (k, st) List.mem_cons_self
      obtain ⟨R₁, hR₁, hholds₁⟩ := ih hkeys.2 (fun e he => hes e (List.mem_cons_of_mem _ he))
        (fun e he => hE e (List.mem_cons_of_mem _ he))
      have hk : es.lookup k = none := by
        rw [List.lookup_eq_none_iff]
        intro p hp
        simp only [bne_iff_ne, ne_eq]
        rintro rfl
        exact hkeys.1 (List.mem_map.mpr ⟨p, hp, rfl⟩)
      have hE₁k : (match es.lookup k with
          | some st => (st.advance (adv k)).sent
          | none => E k) = st.sent := by
        rw [hk]
        exact hE (k, st) List.mem_cons_self
      have hlookup : ∀ id, id ≠ k → ((k, st) :: es).lookup id = es.lookup id := fun id hidk => by
        simp only [List.lookup_cons, beq_false_of_ne hidk]
      rw [chunksOf_cons, handleFrames_append, hR₁, ok_bind]
      by_cases h0 : adv k = 0
      · -- no frame for this stream
        refine ⟨R₁, by simp [h0], hholds₁.congr fun id => ?_⟩
        by_cases hidk : id = k
        · subst hidk
          simp only [List.lookup_cons, beq_self_eq_true] at hE₁k ⊢
          rw [hE₁k, h0, TcplsStream.advance_zero]
        · rw [hlookup id hidk]
      · -- one frame at `snd_offset`, which is where the receiver's stream ends
        have hlen : (st.sent).length + ((st.sndData.drop st.sndOffset).take (adv k)).length
            ≤ isizeMax := by
          rw [st.length_sent hst]
          simp only [List.length_take, List.length_drop]
          have := hst.length_le
          have := hst.offset_le
          omega
        rw [← hE₁k] at hlen
        obtain ⟨R₂, hR₂, hholds₂⟩ := deliverStream_holds hholds₁
          ((st.sndData.drop st.sndOffset).take (adv k)) k hlen
        refine ⟨R₂.addAckFrame, ?_, hholds₂.addAckFrame.congr fun id => ?_⟩
        · rw [hE₁k, st.length_sent hst] at hR₂
          simp [TcplsStream.chunkFrames, h0, handleFrames_cons, handleFrame, hid, hR₂]
        · by_cases hidk : id = k
          · subst hidk
            simp only [List.lookup_cons, beq_self_eq_true, if_true]
            rw [hE₁k, TcplsStream.sent_advance]
          · rw [if_neg hidk, hlookup id hidk]

/-- Every frame of a record is no longer than the record. -/
theorem length_encode_le_encodeAll {f : Frame} {fs : List Frame} (h : f ∈ fs) :
    f.encode.length ≤ (encodeAll fs).length := by
  induction fs with
  | nil => cases h
  | cons g fs ih =>
      rw [encodeAll_cons, List.length_append]
      rcases List.mem_cons.mp h with rfl | h
      · omega
      · have := ih h
        omega

/-- The frames cut from a sender's streams fit their fields. -/
theorem wellFormed_of_mem_chunksOf {es : List (UInt32 × TcplsStream)} {adv : UInt32 → Nat}
    (hes : ∀ e ∈ es, e.2.SndInv) (hlen : (encodeAll (chunksOf es adv)).length ≤ maxRecordSize)
    {f : Frame} (hf : f ∈ chunksOf es adv) : f.WellFormed := by
  have hflen := length_encode_le_encodeAll hf
  obtain ⟨e, he, hfe⟩ := List.mem_flatMap.mp hf
  have hsnd := hes e he
  have hisize : isizeMax = 2 ^ 63 - 1 := rfl
  have hmax : maxRecordSize = 16384 := rfl
  unfold TcplsStream.chunkFrames at hfe
  split at hfe
  · cases hfe
  · rw [List.mem_singleton] at hfe
    subst hfe
    simp only [Frame.encode, length_streamFrame, streamHeaderSize] at hflen
    have := hsnd.offset_le
    have := hsnd.length_le
    exact ⟨by omega, by omega⟩

/-- **The receiver takes a sender's record.**  `process_record` on a record
cut from streams whose bytes the receiver holds returns without a panic, and
the receiver then holds what the streams have framed after the record. -/
theorem processRecord_chunks (es : List (UInt32 × TcplsStream)) (hkeys : (es.map Prod.fst).Nodup)
    (adv : UInt32 → Nat)
    (hes : ∀ e ∈ es, e.2.streamId = e.1 ∧ e.2.SndInv ∧ e.2.sndOffset + adv e.1 ≤ e.2.sndData.length)
    (hlen : (encodeAll (chunksOf es adv)).length ≤ maxRecordSize)
    {R : TcplsConnection} {E : UInt32 → Bytes} (hR : R.Holds E) (hE : ∀ e ∈ es, E e.1 = e.2.sent) :
    ∃ R', R.processRecord (encodeAll (recordFrames (chunksOf es adv))) = .ok R' ∧
      R'.Holds (fun id => match es.lookup id with
        | some st => (st.advance (adv id)).sent
        | none => E id) := by
  obtain ⟨R₁, hR₁, hholds⟩ := handleFrames_chunksOf es hkeys adv hes hR hE
  have hwf : ∀ f ∈ chunksOf es adv, f.WellFormed := fun f hf =>
    wellFormed_of_mem_chunksOf (fun e he => (hes e he).2.1) hlen hf
  unfold recordFrames
  split
  · -- no frame: one PADDING frame, which changes nothing
    rename_i h0
    rw [h0] at hR₁
    cases hR₁
    refine ⟨R, ?_, hholds⟩
    rw [processRecord_encodeAll R .padding [] (by simp [Frame.WellFormed])]
    rfl
  · rename_i h0
    obtain ⟨g, rest, hgr⟩ := List.exists_cons_of_ne_nil h0
    rw [hgr] at hR₁ hwf ⊢
    rw [processRecord_encodeAll R g rest hwf, hR₁, ok_bind]
    exact ⟨_, rfl, by split <;> [exact hholds.addAckFrame; exact hholds]⟩

/-! ## Runs -/

/-- The bytes the sender has framed on stream `id`, none on a stream it does
not have. -/
def sentOn (S : TcplsConnection) (id : UInt32) : Bytes :=
  match S.streams.get? id with
  | some st => st.sent
  | none => []

/-- The invariant of a run: the sender's control buffer stays empty, each of
its streams is filed under its own id and keeps its offset inside its data,
and the receiver holds what the sender has framed. -/
structure DeliveryInv (S R : TcplsConnection) : Prop where
  ctrlBuf_eq : S.ctrlBuf = []
  streams_ok : ∀ id st, S.streams.get? id = some st → st.streamId = id ∧ st.SndInv
  holds : R.Holds S.sentOn

/-- The states a sender `S` and a receiver `R` reach: both from `new`, then any
interleaving of the sender's calls, with every record it cuts processed by the
receiver in order.  The sender's iteration order may change at any time. -/
inductive Reach : TcplsConnection → TcplsConnection → Prop
  | new {S R : TcplsConnection} (connIdS connIdR : UInt32) (roleS roleR : Role)
      (randomS randomR : Except Unit Nat) :
      TcplsConnection.new connIdS roleS randomS = .ok S →
      TcplsConnection.new connIdR roleR randomR = .ok R → Reach S R
  | setData {S S' R : TcplsConnection} (data : Bytes) :
      Reach S R → S.setData data = .ok S' → Reach S' R
  | setStreamData {S S' R : TcplsConnection} (data : Bytes) :
      Reach S R → S.setStreamData data = .ok S' → Reach S' R
  | attachStream {S R : TcplsConnection} {b : TcplsStreamBuilder} (id : UInt32) (data : Bytes) :
      Reach S R → (TcplsStreamBuilder.new id).addData data = .ok b → id ∉ S.streams.keys →
      Reach (S.attachStream b.build id) R
  | reorder {S R : TcplsConnection} (l : List (UInt32 × TcplsStream))
      (h : l.Perm S.streams.entries) :
      Reach S R → Reach { S with streams := S.streams.reorder l h } R
  | createRecord {S S' R R' : TcplsConnection} (record : Bytes) :
      Reach S R → S.createRecord = .ok (S', .ok record) → R.processRecord record = .ok R' →
      Reach S' R'

section Steps

variable {S R : TcplsConnection}

theorem deliveryInv_new {connIdS connIdR : UInt32} {roleS roleR : Role}
    {randomS randomR : Except Unit Nat}
    (hS : TcplsConnection.new connIdS roleS randomS = .ok S)
    (hR : TcplsConnection.new connIdR roleR randomR = .ok R) : DeliveryInv S R := by
  obtain ⟨hctrl, hstreams⟩ := new_eq_ok hS
  obtain ⟨-, hrstreams⟩ := new_eq_ok hR
  have hsent : ∀ id, S.sentOn id = [] := by
    intro id
    unfold sentOn
    rw [hstreams id]
    by_cases h0 : id = 0
    · rw [if_pos h0]
      rfl
    · rw [if_neg h0]
  refine ⟨hctrl, ?_, ⟨fun id _ => hsent id, ?_⟩⟩
  · intro id st h
    rw [hstreams id] at h
    split at h
    · cases h
      rename_i h0
      exact ⟨h0.symm, ⟨Nat.zero_le _, Nat.zero_le _⟩⟩
    · cases h
  · intro id rt h
    rw [hrstreams id] at h
    split at h
    · cases h
      exact ⟨(hsent id).symm, Nat.le_refl _⟩
    · cases h

/-- A step that files one stream under its own id, within its sending bounds
and with what it has framed unchanged, keeps the invariant. -/
theorem DeliveryInv.of_insert (hinv : DeliveryInv S R) {S' : TcplsConnection} {id : UInt32}
    {st : TcplsStream} (hctrl : S'.ctrlBuf = S.ctrlBuf) (hstreams : S'.streams = S.streams.insert id st)
    (hid : st.streamId = id) (hst : st.SndInv) (hsent : st.sent = S.sentOn id) : DeliveryInv S' R := by
  have hsentOn : ∀ id', S'.sentOn id' = S.sentOn id' := by
    intro id'
    unfold sentOn
    rw [hstreams, HashMap.get?_insert]
    by_cases h' : id' = id
    · subst h'
      rw [if_pos rfl]
      exact hsent
    · rw [if_neg h']
  refine ⟨hctrl ▸ hinv.ctrlBuf_eq, ?_, hinv.holds.congr fun id' => (hsentOn id').symm⟩
  intro id' st' h'
  rw [hstreams, HashMap.get?_insert] at h'
  by_cases h'' : id' = id
  · rw [if_pos h''] at h'
    cases h'
    subst h''
    exact ⟨hid, hst⟩
  · rw [if_neg h''] at h'
    exact hinv.streams_ok id' st' h'

/-- Queuing data leaves every stream's framed bytes as they were. -/
theorem DeliveryInv.addDataToStream (hinv : DeliveryInv S R) {S' : TcplsConnection} {id : UInt32}
    {data : Bytes} (h : S.addDataToStream id data = .ok S') : DeliveryInv S' R := by
  obtain ⟨st, hst, hlen, rfl⟩ := addDataToStream_eq_ok h
  obtain ⟨hid, hsnd⟩ := hinv.streams_ok id st hst
  refine hinv.of_insert rfl rfl hid ⟨?_, by simpa using hlen⟩ ?_
  · -- the offset stays where it was, inside the longer data
    simp only [List.length_append]
    have := hsnd.offset_le
    omega
  · -- the data goes after `snd_offset`, so what was framed is unchanged
    simp [sentOn, hst, TcplsStream.sent, List.take_append_of_le_length hsnd.offset_le]

/-- A stream attached under a fresh id has framed nothing. -/
theorem DeliveryInv.attachStream (hinv : DeliveryInv S R) {b : TcplsStreamBuilder} {id : UInt32}
    {data : Bytes} (hb : (TcplsStreamBuilder.new id).addData data = .ok b)
    (hfresh : id ∉ S.streams.keys) : DeliveryInv (S.attachStream b.build id) R := by
  obtain ⟨hbeq, hlen⟩ := TcplsStreamBuilder.addData_eq_ok hb
  have hnone : S.streams.get? id = none := HashMap.get?_eq_none_iff.mpr hfresh
  refine hinv.of_insert rfl rfl (by rw [hbeq]; rfl) ⟨Nat.zero_le _, ?_⟩ ?_
  · simpa [hbeq, TcplsStreamBuilder.build, TcplsStreamBuilder.new] using hlen
  · rw [sentOn, hnone]
    rfl

theorem DeliveryInv.reorder (hinv : DeliveryInv S R) (l : List (UInt32 × TcplsStream))
    (h : l.Perm S.streams.entries) : DeliveryInv { S with streams := S.streams.reorder l h } R :=
  ⟨hinv.ctrlBuf_eq, by simpa using hinv.streams_ok,
    hinv.holds.congr fun id => by simp [sentOn]⟩

/-- **One record.**  From a state of the invariant, `create_record` returns a
record, `process_record` takes it without a panic, and the invariant holds
again. -/
theorem DeliveryInv.createRecord (hinv : DeliveryInv S R) :
    ∃ S' record R', S.createRecord = .ok (S', .ok record) ∧ R.processRecord record = .ok R' ∧
      DeliveryInv S' R' := by
  have hentry : ∀ e ∈ S.streams.entries, S.streams.get? e.1 = some e.2 := fun e he =>
    HashMap.get?_eq_some_iff.mpr he
  obtain ⟨adv, last, hadv, hlen, hcreate⟩ := createRecord_spec S hinv.ctrlBuf_eq
    (fun e he => (hinv.streams_ok e.1 e.2 (hentry e he)).2)
  obtain ⟨R', hprocess, hholds⟩ := processRecord_chunks S.streams.entries S.streams.nodup adv
    (fun e he => ⟨(hinv.streams_ok e.1 e.2 (hentry e he)).1,
      (hinv.streams_ok e.1 e.2 (hentry e he)).2, hadv e he⟩)
    hlen hinv.holds (fun e he => by simp [sentOn, hentry e he])
  refine ⟨_, _, R', hcreate, hprocess, ⟨hinv.ctrlBuf_eq, ?_, ?_⟩⟩
  · -- each stream has advanced by what it framed, within its data
    intro id st' h'
    simp only [HashMap.get?_setValues_map, Option.map_eq_some_iff] at h'
    obtain ⟨st, hst, rfl⟩ := h'
    obtain ⟨hid, hsnd⟩ := hinv.streams_ok id st hst
    exact ⟨hid, TcplsStream.sndInv_advance hsnd (hadv (id, st) (HashMap.get?_eq_some_iff.mp hst))⟩
  · apply hholds.congr
    intro id
    simp only [sentOn, HashMap.get?_setValues_map]
    change (match S.streams.get? id with
      | some st => (st.advance (adv id)).sent
      | none => S.sentOn id) = _
    unfold sentOn
    cases S.streams.get? id <;> rfl

end Steps

/-- The invariant holds along every run. -/
theorem reach_deliveryInv {S R : TcplsConnection} (h : Reach S R) : DeliveryInv S R := by
  induction h with
  | new _ _ _ _ _ _ hS hR => exact deliveryInv_new hS hR
  | setData _ _ hset ih => exact ih.addDataToStream hset
  | setStreamData _ _ hset ih => exact ih.addDataToStream hset
  | attachStream _ _ _ hb hfresh ih => exact ih.attachStream hb hfresh
  | reorder l hperm _ ih => exact ih.reorder l hperm
  | createRecord _ _ hcreate hprocess ih =>
      obtain ⟨S', record', R', hcreate', hprocess', hinv'⟩ := ih.createRecord
      rw [hcreate] at hcreate'
      cases hcreate'
      rw [hprocess] at hprocess'
      cases hprocess'
      exact hinv'

/-- `ans = ans || ...` over a list, from `ans`. -/
private theorem foldl_or (p : TcplsStream → Bool) (l : List TcplsStream) (b : Bool) :
    l.foldl (fun ans st => ans || p st) b = (b || l.any p) := by
  induction l generalizing b with
  | nil => simp
  | cons st l ih => simp [ih, Bool.or_assoc]

/-- `has_data`: some stream has data left to send. -/
theorem hasData_eq_any (c : TcplsConnection) : c.hasData = c.streams.values.any TcplsStream.hasDataToSend := by
  rw [hasData, foldl_or, Bool.false_or]

/-- When `has_data` is false, no stream has data left to send. -/
theorem hasDataToSend_of_hasData {c : TcplsConnection} (h : c.hasData = false)
    {st : TcplsStream} (hst : st ∈ c.streams.values) : st.hasDataToSend = false := by
  rw [hasData_eq_any, List.any_eq_false] at h
  simpa using h st hst

section Holds

variable {S R : TcplsConnection} (hinv : DeliveryInv S R)
include hinv

/-- The receiver holds, on every stream on which the sender has framed bytes,
exactly those bytes. -/
theorem DeliveryInv.getStreamData_sent {id : UInt32} {st : TcplsStream} (hst : S.streams.get? id = some st)
    (hpos : 0 < st.sndOffset) : R.getStreamData id = .ok (st.sndData.take st.sndOffset) := by
  have hsent : S.sentOn id = st.sent := by simp [sentOn, hst]
  have hlen := st.length_sent (hinv.streams_ok id st hst).2
  cases hr : R.streams.get? id with
  | none =>
      have hnil := hinv.holds.absent id hr
      rw [hsent] at hnil
      rw [hnil, List.length_nil] at hlen
      omega
  | some rt =>
      have hdata := (hinv.holds.present id rt hr).1
      rw [hsent] at hdata
      simp [getStreamData, hr, TcplsStream.getStreamData, hdata, TcplsStream.sent]

/-- Once `has_data` is false, the receiver holds every byte queued on every
non-empty stream. -/
theorem DeliveryInv.getStreamData_all (hno : S.hasData = false) {id : UInt32} {st : TcplsStream}
    (hst : S.streams.get? id = some st) (hne : st.sndData ≠ []) : R.getStreamData id = .ok st.sndData := by
  have hsend := hasDataToSend_of_hasData hno
    (List.mem_map.mpr ⟨(id, st), HashMap.get?_eq_some_iff.mp hst, rfl⟩)
  have hoff := (hinv.streams_ok id st hst).2.offset_le
  have heq : st.sndOffset = st.sndData.length := by
    simp [TcplsStream.hasDataToSend, hne] at hsend
    omega
  have hall := hinv.getStreamData_sent hst (by rw [heq]; exact List.length_pos_iff.mpr hne)
  rwa [heq, List.take_length] at hall

end Holds

end TcplsConnection

end TcplsBasics.Ports.Tcpls
