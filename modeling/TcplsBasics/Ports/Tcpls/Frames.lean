import TcplsBasics.Ports.Tcpls.Connection

/-!
# What `process_record` does to a record of frames

The frames a TCPLS record can carry, as `create_record` and `add_ack_frame`
write them, and what handling one frame means (`handleFrame`): PADDING does
nothing, PING queues an ACK, ACK raises the highest sequence received, STREAM
hands its offset and data to `read_stream_frame` on its stream and queues an
ACK.  A record is handled from its last frame to its first (`handleFrames`).

`process_record` on the concatenation of well-formed frames does exactly that,
except for its safeguard on the first byte: when the first frame is longer
than one byte and its first byte happens to be `0x01` (a STREAM frame whose
data starts with `0x01`, or an ACK whose sequence number has `0x01` as its
top byte), the safeguard takes that byte for a PING and queues one more ACK.

## Main results

* `processFrame_encode`: `process_frame` at the last byte of a frame handles
  that frame and consumes exactly its bytes.
* `processRecordLoop_encodeAll`: the loop handles every frame from the last
  to the first, except a one-byte first frame, which it never reaches.
* `processRecord_encodeAll`: `process_record` handles every frame once, then
  queues a spurious ACK exactly when `Frame.spuriousAck` holds of the first.
* `processRecord_eq_handleFrames`: when it does not, `process_record` is
  `handleFrames`.
-/

namespace TcplsBasics.Ports.Tcpls

open TcplsBasics.Verified.Rust
open TcplsBasics.Verified.Bytes

/-- The frames of a TCPLS record that the receiver handles. -/
inductive Frame where
  | padding
  | ping
  | ack (highestTlsSeq : Nat) (connId : UInt32)
  | stream (data : Bytes) (offset : Nat) (streamId : UInt32) (fin : Bool)
deriving DecidableEq, Repr

namespace Frame

/-- The wire form, type byte last. -/
def encode : Frame → Bytes
  | padding => [paddingFrame]
  | ping => [pingFrame]
  | ack seq connId => toBeBytes 8 seq ++ toBeBytes 4 connId.toNat ++ [ackFrame]
  | stream data offset streamId fin =>
      streamFrame data offset streamId (if fin then streamFrameFin else streamFrameType)

/-- Every field fits its width on the wire. -/
def WellFormed : Frame → Prop
  | padding => True
  | ping => True
  | ack seq _ => seq < 2 ^ 64
  | stream data offset _ _ => data.length < 2 ^ 16 ∧ offset < 2 ^ 64

instance (f : Frame) : Decidable f.WellFormed :=
  match f with
  | padding => inferInstanceAs (Decidable True)
  | ping => inferInstanceAs (Decidable True)
  | ack seq _ => inferInstanceAs (Decidable (seq < 2 ^ 64))
  | stream data offset _ _ => inferInstanceAs (Decidable (data.length < 2 ^ 16 ∧ offset < 2 ^ 64))

/-- The first frame of a record that the safeguard of `process_record`
answers as a PING although it is not one. -/
def spuriousAck (f : Frame) : Bool :=
  decide (1 < f.encode.length) && f.encode.head? == some pingFrame

theorem length_encode_pos (f : Frame) : 0 < f.encode.length := by
  cases f <;> simp [encode, streamHeaderSize]

/-- Only PADDING and PING are one byte long. -/
theorem length_encode_eq_one {f : Frame} (h : f.encode.length = 1) : f = padding ∨ f = ping := by
  cases f with
  | padding => exact .inl rfl
  | ping => exact .inr rfl
  | ack seq connId => simp [encode] at h
  | stream data offset streamId fin => simp [encode, streamHeaderSize] at h

end Frame

/-- A record: its frames one after the other. -/
def encodeAll (fs : List Frame) : Bytes := fs.flatMap Frame.encode

@[simp] theorem encodeAll_nil : encodeAll [] = [] := rfl

@[simp] theorem encodeAll_cons (f : Frame) (fs : List Frame) :
    encodeAll (f :: fs) = f.encode ++ encodeAll fs := rfl

@[simp] theorem encodeAll_append (fs gs : List Frame) :
    encodeAll (fs ++ gs) = encodeAll fs ++ encodeAll gs := by
  simp [encodeAll]

/-- No frame is empty, so a record of no bytes has no frames. -/
theorem encodeAll_eq_nil {fs : List Frame} (h : encodeAll fs = []) : fs = [] := by
  cases fs with
  | nil => rfl
  | cons f fs =>
      have hpos := f.length_encode_pos
      have hlen := congrArg List.length h
      simp only [encodeAll_cons, List.length_append, List.length_nil] at hlen
      omega

namespace TcplsConnection

/-- What a STREAM frame does to its stream: `read_stream_frame` on the frame's
offset and data, the stream created empty if it is new. -/
def deliverStream (c : TcplsConnection) (data : Bytes) (offset : Nat) (streamId : UInt32) :
    Except Panic TcplsConnection := do
  let st := (c.streams.get? streamId).getD (TcplsStream.new streamId [])
  let st ← st.handleOffset offset data
  let st := if st.rcvOffset < offset then { st with rcvOffset := offset } else st
  return { c with streams := c.streams.insert streamId st, lastStreamProcessed := streamId }

/-- Handling one frame. -/
def handleFrame (c : TcplsConnection) : Frame → Except Panic TcplsConnection
  | .padding => .ok c
  | .ping => .ok c.addAckFrame
  | .ack seq _ =>
      .ok { c with ackReceived := true,
                   highestRecordSequenceReceived := max c.highestRecordSequenceReceived seq }
  | .stream data offset streamId _ => do
      let c ← c.deliverStream data offset streamId
      return c.addAckFrame

/-- Handling a record's frames from the last to the first. -/
def handleFrames (c : TcplsConnection) (fs : List Frame) : Except Panic TcplsConnection :=
  fs.foldr (fun f r => r >>= fun c => c.handleFrame f) (.ok c)

@[simp] theorem handleFrames_nil (c : TcplsConnection) : c.handleFrames [] = .ok c := rfl

theorem handleFrames_cons (c : TcplsConnection) (f : Frame) (fs : List Frame) :
    c.handleFrames (f :: fs) = c.handleFrames fs >>= fun c' => c'.handleFrame f := rfl

/-- The later frames are handled first. -/
theorem handleFrames_append (c : TcplsConnection) (fs gs : List Frame) :
    c.handleFrames (fs ++ gs) = c.handleFrames gs >>= fun c' => c'.handleFrames fs := by
  induction fs with
  | nil =>
      rw [List.nil_append]
      cases c.handleFrames gs <;> rfl
  | cons f fs ih =>
      simp only [List.cons_append, handleFrames_cons, ih]
      cases c.handleFrames gs <;> rfl

/-! ## One frame -/

private theorem index_last (pre body post : Bytes) (t : UInt8) :
    index (pre ++ (body ++ [t]) ++ post) (pre.length + (body ++ [t]).length - 1) = .ok t := by
  have h := index_append_middle (pre ++ body) post t
  have hlen : pre.length + (body ++ [t]).length - 1 = (pre ++ body).length := by simp
  rw [hlen]
  simpa using h

/-- `read_ack` on a whole ACK frame: the offset of its type byte leaves eight
bytes before the connection id, so the second branch reads the sequence. -/
theorem readAck_encode (c : TcplsConnection) (pre post : Bytes) (seq : Nat) (connId : UInt32)
    (hseq : seq < 2 ^ 64) :
    c.readAck (pre ++ Frame.encode (.ack seq connId) ++ post) (pre.length + 12)
      = .ok ({ c with highestRecordSequenceReceived := max c.highestRecordSequenceReceived seq },
          13) := by
  have hP : pre ++ Frame.encode (.ack seq connId) ++ post
      = pre ++ toBeBytes 8 seq ++ toBeBytes 4 connId.toNat ++ ([ackFrame] ++ post) := by
    simp [Frame.encode]
  have h₁ : slice (pre ++ Frame.encode (.ack seq connId) ++ post) (pre.length + 8) (pre.length + 12)
      = .ok (toBeBytes 4 connId.toNat) := by
    rw [hP]
    simpa [Nat.add_assoc] using slice_append_middle (pre ++ toBeBytes 8 seq)
      (toBeBytes 4 connId.toNat) ([ackFrame] ++ post)
  have h₂ : slice (pre ++ Frame.encode (.ack seq connId) ++ post) pre.length (pre.length + 8)
      = .ok (toBeBytes 8 seq) := by
    rw [hP, List.append_assoc (pre ++ toBeBytes 8 seq)]
    simp
  have hmax : (if seq > c.highestRecordSequenceReceived then
        { c with highestRecordSequenceReceived := seq } else c)
      = { c with highestRecordSequenceReceived := max c.highestRecordSequenceReceived seq } := by
    split
    · rw [Nat.max_eq_right (by omega)]
    · rw [Nat.max_eq_left (by omega)]
  simp only [readAck, checkedSub_eq_ok (show 4 ≤ pre.length + 12 by omega),
    show pre.length + 12 - 4 = pre.length + 8 by omega, h₁, ok_bind, sliceToU32_toBeBytes,
    expectOk_ok, show ¬pre.length + 8 < 8 by omega, if_false,
    checkedSub_eq_ok (show 8 ≤ pre.length + 8 by omega), Nat.add_sub_cancel, h₂,
    sliceToU64_toBeBytes, Nat.mod_eq_of_lt hseq, hmax]
  rfl

/-- `recv_stream_frame` on a whole STREAM frame: the stream id, then the
frame's body through `read_stream_frame`. -/
theorem recvStreamFrame_streamFrame (c : TcplsConnection) (pre post data : Bytes) (offset : Nat)
    (streamId : UInt32) (t : UInt8) (hdata : data.length < 2 ^ 16) (hoffset : offset < 2 ^ 64) :
    c.recvStreamFrame (pre ++ streamFrame data offset streamId t ++ post)
        (pre.length + data.length + 14)
      = c.deliverStream data offset streamId >>= fun c' => .ok (c', data.length + 14) := by
  have hP : pre ++ streamFrame data offset streamId t ++ post
      = (pre ++ data ++ toBeBytes 2 data.length ++ toBeBytes 8 offset) ++ toBeBytes 4 streamId.toNat
        ++ (t :: post) := by
    simp [streamFrame]
  have hbody : (pre ++ data ++ toBeBytes 2 data.length ++ toBeBytes 8 offset).length
      = pre.length + data.length + 10 := by
    simp only [List.length_append, length_toBeBytes]
  have h₁ : slice (pre ++ streamFrame data offset streamId t ++ post)
      (pre.length + data.length + 10) (pre.length + data.length + 14)
      = .ok (toBeBytes 4 streamId.toNat) := by
    rw [hP, ← hbody, show pre.length + data.length + 14
      = (pre ++ data ++ toBeBytes 2 data.length ++ toBeBytes 8 offset).length
        + (toBeBytes 4 streamId.toNat).length by rw [hbody, length_toBeBytes]]
    exact slice_append_middle _ _ _
  have h₂ : slice (pre ++ streamFrame data offset streamId t ++ post) 0
      (pre.length + data.length + 10)
      = .ok (pre ++ data ++ toBeBytes 2 data.length ++ toBeBytes 8 offset) := by
    rw [hP, ← hbody, List.append_assoc]
    exact slice_zero_append _ _
  simp only [recvStreamFrame, checkedSub_eq_ok (show 4 ≤ pre.length + data.length + 14 by omega),
    show pre.length + data.length + 14 - 4 = pre.length + data.length + 10 by omega, h₁, h₂,
    ok_bind, sliceToU32_toBeBytes, expectOk_ok,
    TcplsStream.readStreamFrame_streamBody _ pre data offset hdata hoffset, deliverStream]
  cases (((c.streams.get? streamId).getD (TcplsStream.new streamId [])).handleOffset offset data) with
  | error p => rfl
  | ok st =>
      simp only [ok_bind, pure_bind, offsetSize, lengthSize]
      rw [checkedAdd_eq_ok (by omega)]
      rfl

/-- **One frame.**  `process_frame` at the last byte of a well-formed frame
handles that frame and reports its length. -/
theorem processFrame_encode (c : TcplsConnection) (pre post : Bytes) (f : Frame)
    (hf : f.WellFormed) :
    c.processFrame (pre ++ f.encode ++ post) (pre.length + f.encode.length - 1)
      = c.handleFrame f >>= fun c' => .ok (.ok (c', f.encode.length)) := by
  cases f with
  | padding => exact processFrame_padding (index_last pre [] post paddingFrame)
  | ping => exact processFrame_ping (index_last pre [] post pingFrame)
  | ack seq connId =>
      have hi : pre.length + (Frame.encode (.ack seq connId)).length - 1 = pre.length + 12 := by
        simp [Frame.encode]
      have hidx : index (pre ++ Frame.encode (.ack seq connId) ++ post)
          (pre.length + (Frame.encode (.ack seq connId)).length - 1) = .ok ackFrame :=
        index_last pre (toBeBytes 8 seq ++ toBeBytes 4 connId.toNat) post ackFrame
      rw [processFrame_ack hidx, hi, readAck_encode _ _ _ _ _ hf]
      rfl
  | stream data offset streamId fin =>
      have hi : pre.length + (Frame.encode (.stream data offset streamId fin)).length - 1
          = pre.length + data.length + 14 := by
        simp [Frame.encode, streamHeaderSize]
        omega
      have htyp : (if fin then streamFrameFin else streamFrameType) = streamFrameType
          ∨ (if fin then streamFrameFin else streamFrameType) = streamFrameFin := by
        cases fin <;> simp
      have hidx : index (pre ++ Frame.encode (.stream data offset streamId fin) ++ post)
          (pre.length + (Frame.encode (.stream data offset streamId fin)).length - 1)
          = .ok (if fin then streamFrameFin else streamFrameType) :=
        index_last pre (data ++ toBeBytes 2 data.length ++ toBeBytes 8 offset
          ++ toBeBytes 4 streamId.toNat) post _
      rw [processFrame_stream hidx htyp, hi]
      simp only [Frame.encode]
      rw [recvStreamFrame_streamFrame _ _ _ _ _ _ _ hf.1 hf.2, handleFrame]
      cases c.deliverStream data offset streamId with
      | error p => rfl
      | ok c' =>
          have hdata : data.length < 2 ^ 16 := hf.1
          simp only [ok_bind, pure_bind]
          rw [checkedAdd_eq_ok (by omega), ok_bind, length_streamFrame, streamHeaderSize]

/-! ## The loop and the record -/

/-- One turn of the loop at the last byte of a frame: the frame is handled
and `i` moves to the last byte of the frame before, or to `0`. -/
theorem processRecordStep_encode (c : TcplsConnection) (pre post : Bytes) (f : Frame)
    (hf : f.WellFormed) :
    c.processRecordStep (pre ++ f.encode ++ post) (pre.length + f.encode.length - 1)
      = c.handleFrame f >>= fun c' => .ok (c', pre.length - 1) := by
  unfold processRecordStep
  rw [processFrame_encode c pre post f hf]
  cases c.handleFrame f with
  | error p => rfl
  | ok c' =>
      have hpos := f.length_encode_pos
      -- `i -= consumed`, or `i = 0` when the frame reaches back to index `0` or `1`
      have hnext : (if pre.length + f.encode.length - 1 > f.encode.length
          then pre.length + f.encode.length - 1 - f.encode.length else 0) = pre.length - 1 := by
        split <;> omega
      simp only [ok_bind, expectOk_ok, hnext]
      rfl

/-- **The loop.**  On a record of well-formed frames, the `while i > 0` loop
handles the frames from the last to the first; a one-byte first frame sits at
index `0` and is never reached. -/
theorem processRecordLoop_encodeAll (g : Frame) (rest : List Frame)
    (hwf : ∀ f ∈ g :: rest, f.WellFormed) (c : TcplsConnection) (post : Bytes) :
    c.processRecordLoop (encodeAll (g :: rest) ++ post) ((encodeAll (g :: rest)).length - 1)
      = c.handleFrames rest >>= fun c' =>
          if g.encode.length = 1 then .ok c' else c'.handleFrame g := by
  -- the loop meets the frames from the end: induction on `rest` from the right
  induction rest using List.reverseRecOn generalizing c post with
  | nil =>
      simp only [encodeAll_cons, encodeAll_nil, List.append_nil, handleFrames_nil, ok_bind]
      by_cases h1 : g.encode.length = 1
      · rw [if_pos h1, h1, Nat.sub_self, processRecordLoop_zero]
      · have hpos : 0 < g.encode.length - 1 := by
          have := g.length_encode_pos
          omega
        have hstep := processRecordStep_encode c [] post g (hwf g List.mem_cons_self)
        simp only [List.nil_append, List.length_nil, Nat.zero_add] at hstep
        rw [if_neg h1, processRecordLoop_pos c _ hpos, hstep]
        cases c.handleFrame g with
        | error p => rfl
        | ok c' => exact processRecordLoop_zero _ _
  | append_singleton rest f ih =>
      have hf : f.WellFormed := hwf f (by simp)
      have hrest : ∀ f' ∈ g :: rest, f'.WellFormed := fun f' hf' =>
        hwf f' (by simp only [List.mem_cons, List.mem_append] at hf' ⊢; tauto)
      have hP : encodeAll (g :: (rest ++ [f])) ++ post = encodeAll (g :: rest) ++ f.encode ++ post := by
        simp [List.append_assoc]
      have hlen : (encodeAll (g :: (rest ++ [f]))).length - 1
          = (encodeAll (g :: rest)).length + f.encode.length - 1 := by
        simp [Nat.add_assoc]
      have hpos : 0 < (encodeAll (g :: rest)).length + f.encode.length - 1 := by
        have := g.length_encode_pos
        have := f.length_encode_pos
        simp only [encodeAll_cons, List.length_append]
        omega
      rw [hP, hlen, processRecordLoop_pos c _ hpos, processRecordStep_encode c _ post f hf,
        handleFrames_append, handleFrames_cons, handleFrames_nil, ok_bind]
      cases c.handleFrame f with
      | error p => rfl
      | ok c₁ =>
          have := ih hrest c₁ (f.encode ++ post)
          rw [← List.append_assoc] at this
          exact this

/-- **The record.**  `process_record` on a record of well-formed frames
handles each frame once, from the last to the first, and then queues one more
ACK exactly when the first frame is longer than a byte and starts with
`0x01`. -/
theorem processRecord_encodeAll (c : TcplsConnection) (g : Frame) (rest : List Frame)
    (hwf : ∀ f ∈ g :: rest, f.WellFormed) :
    c.processRecord (encodeAll (g :: rest))
      = c.handleFrames (g :: rest) >>= fun c' =>
          .ok (if g.spuriousAck then c'.addAckFrame else c') := by
  obtain ⟨b, tl, hb⟩ : ∃ b tl, g.encode = b :: tl := by
    have := g.length_encode_pos
    cases h : g.encode with
    | nil => simp [h] at this
    | cons b tl => exact ⟨b, tl, rfl⟩
  have hne : 1 ≤ (encodeAll (g :: rest)).length := by
    simp [hb]
  have hfirst : index (encodeAll (g :: rest)) 0 = .ok b := by
    simp [index, hb]
  have hloop := processRecordLoop_encodeAll g rest hwf c []
  rw [List.append_nil] at hloop
  unfold processRecord
  rw [checkedSub_eq_ok hne, ok_bind, hloop, hfirst, handleFrames_cons]
  cases c.handleFrames rest with
  | error p => rfl
  | ok c₁ =>
      simp only [ok_bind]
      by_cases h1 : g.encode.length = 1
      · -- PADDING or PING at index `0`: the safeguard is what handles it
        rw [if_pos h1]
        rcases Frame.length_encode_eq_one h1 with rfl | rfl
        · cases hb
          rfl
        · cases hb
          rfl
      · rw [if_neg h1]
        have hspurious : g.spuriousAck = (b == pingFrame) := by
          have htl : 0 < tl.length := by
            rw [hb, List.length_cons] at h1
            omega
          simp [Frame.spuriousAck, hb, htl]
        cases c₁.handleFrame g with
        | error p => rfl
        | ok c₂ =>
            rw [hspurious]
            by_cases hping : b = pingFrame <;> simp [hping]

/-- A record whose first frame the safeguard leaves alone is handled frame by
frame, each exactly once. -/
theorem processRecord_eq_handleFrames (c : TcplsConnection) (g : Frame) (rest : List Frame)
    (hwf : ∀ f ∈ g :: rest, f.WellFormed) (hg : g.spuriousAck = false) :
    c.processRecord (encodeAll (g :: rest)) = c.handleFrames (g :: rest) := by
  rw [processRecord_encodeAll c g rest hwf, hg]
  cases c.handleFrames (g :: rest) <;> rfl

/-- A fresh client handles a record of one STREAM frame of data `0x02` once. -/
theorem stream_record_handled_once :
    ∃ c, TcplsConnection.new 0 .client (.ok 0) = .ok c ∧
      c.processRecord (encodeAll [.stream [0x02] 0 0 true]) = c.handleFrames [.stream [0x02] 0 0 true] := by
  obtain ⟨c, hc⟩ : ∃ c, TcplsConnection.new 0 .client (.ok 0) = .ok c := ⟨_, rfl⟩
  have hwf : ∀ f ∈ [Frame.stream [0x02] 0 0 true], f.WellFormed := by decide
  have hg : (Frame.stream [0x02] 0 0 true).spuriousAck = false := by decide
  exact ⟨c, hc, processRecord_eq_handleFrames c _ [] hwf hg⟩

/-- A STREAM frame starts with its data, so it draws the spurious ACK exactly
when its data starts with `0x01`. -/
theorem spuriousAck_stream (data : Bytes) (offset : Nat) (streamId : UInt32) (fin : Bool) :
    (Frame.stream data offset streamId fin).spuriousAck = (data.head? == some pingFrame) := by
  cases data with
  | nil =>
      -- the first byte is then the high byte of the length, `0`
      simp [Frame.spuriousAck, Frame.encode, streamFrame, toBeBytes, pingFrame]
  | cons b bs => simp [Frame.spuriousAck, Frame.encode, streamFrame]

end TcplsConnection

/-- The record `create_record` sends for one byte `0x01` queued on stream `0`. -/
def pingLikeRecord : Bytes := encodeAll [.stream [0x01] 0 0 true]

/-- A fresh receiver answers the one STREAM frame of `pingLikeRecord` with two
ACK frames (26 bytes of `ctrl_buf`), where handling the frame once queues one. -/
theorem processRecord_pingLikeRecord_acks_twice :
    ((TcplsConnection.new 0 .client (.ok 0)) >>= fun r => r.processRecord pingLikeRecord).map
        (·.ctrlBuf.length) = .ok 26 ∧
      ((TcplsConnection.new 0 .client (.ok 0)) >>= fun r =>
        r.handleFrames [.stream [0x01] 0 0 true]).map (·.ctrlBuf.length) = .ok 13 := by
  have hwf : ∀ f ∈ [Frame.stream [0x01] 0 0 true], f.WellFormed := by decide
  refine ⟨?_, by decide⟩
  simp only [pingLikeRecord, TcplsConnection.processRecord_encodeAll _ _ _ hwf,
    TcplsConnection.spuriousAck_stream]
  decide

end TcplsBasics.Ports.Tcpls
