import TcplsBasics.Verified.Rust
import TcplsBasics.Verified.Bytes

/-!
# TCPLS streams (`tcpls/stream.rs`, `tcpls/utils.rs`, `tcpls/error.rs`)

A `TcplsStream` holds the bytes queued for sending with the offset up to which
they have been framed (`snd_data`, `snd_offset`), and the bytes received with
the offset of the last frame that arrived (`rcv_data`, `rcv_offset`).

A STREAM frame is written data first and header last, so that a receiver
can parse a record from its end:

    [data][len: u16 BE][offset: u64 BE][stream id: u32 BE][type]

`createStreamFrame` builds it (through `addMetaDataToFrame`, which writes the
offset *before* `snd_offset` advances), and `readStreamFrame` takes it apart
from the end once the type byte and the stream id are gone.  `handleOffset`
is the three-way reassembly of `rcv_data`: a gap is padded with zeros, an
earlier frame is copied over what is there, and anything else is appended.

Every `u64` of the source is a `Nat` here.  The ones read from the wire are
below `2 ^ 64` because they are read from eight bytes, and `snd_offset` only
grows by `checkedAdd 64`, so no value leaves the range.

## Main results

* `createStreamFrame_spec`: under the sender's bounds, the frame carries the
  next `min (remaining, max_size - 15)` queued bytes at offset `snd_offset`.
* `readStreamFrame_streamBody`: reading the body of a frame written by
  `streamFrame` hands its offset and data to `handleOffset`.
* `handleOffset_of_eq_length`: a frame that starts where `rcv_data` ends is
  appended, whichever of the first and third branches takes it.
* `reversed_frames_overwrite`: two frames delivered in reverse order leave
  only the first in `rcv_data`; the second is overwritten.
-/

namespace TcplsBasics.Ports.Tcpls

open TcplsBasics.Verified.Rust
open TcplsBasics.Verified.Bytes

/-! ## Constants and conversions (`utils.rs`) -/

/-- `PADDING_FRAME`. -/
def paddingFrame : UInt8 := 0x00
/-- `PING_FRAME`. -/
def pingFrame : UInt8 := 0x01
/-- `STREAM_FRAME`. -/
def streamFrameType : UInt8 := 0x02
/-- `STREAM_FRAME_FIN`. -/
def streamFrameFin : UInt8 := 0x03
/-- `ACK_FRAME`. -/
def ackFrame : UInt8 := 0x04
/-- `NEW_TOKEN_FRAME`. -/
def newTokenFrame : UInt8 := 0x05
/-- `CONNECTION_RESET_FRAME`. -/
def connectionResetFrame : UInt8 := 0x06
/-- `NEW_ADDRESS_FRAME`. -/
def newAddressFrame : UInt8 := 0x07
/-- `REMOVE_ADDRESS_FRAME`. -/
def removeAddressFrame : UInt8 := 0x08
/-- `STREAM_CHANGE_FRAME`. -/
def streamChangeFrame : UInt8 := 0x09

/-- `MAX_RECORD_SIZE`, which is `MAX_FRAGMENT_LEN`. -/
def maxRecordSize : Nat := 16384

/-- `STREAM_HEADER_SIZE`: length, offset, stream id and type. -/
def streamHeaderSize : Nat := 15

/-- `OFFSET_SIZE`. -/
def offsetSize : Nat := 8

/-- `LENGTH_SIZE`. -/
def lengthSize : Nat := 2

/-- `tcpls::error::Error`. -/
inductive Error where
  | notEnoughPlace
  | emptyBuffer
  | unknownTcplsType
  | streamNotFound
  | badSliceLength
  | unexpectedRecordSize
deriving DecidableEq, Repr

/-- `conversion::slice_to_u16`. -/
def sliceToU16 (bytes : Bytes) : Except Error Nat :=
  if bytes.length ≠ 2 then .error .badSliceLength else .ok (fromBeBytes bytes)

/-- `conversion::slice_to_u32`. -/
def sliceToU32 (bytes : Bytes) : Except Error UInt32 :=
  if bytes.length ≠ 4 then .error .badSliceLength else .ok (UInt32.ofNat (fromBeBytes bytes))

/-- `conversion::slice_to_u64`. -/
def sliceToU64 (bytes : Bytes) : Except Error Nat :=
  if bytes.length ≠ 8 then .error .badSliceLength else .ok (fromBeBytes bytes)

@[simp] theorem sliceToU16_toBeBytes (v : Nat) : sliceToU16 (toBeBytes 2 v) = .ok (v % 2 ^ 16) := by
  simp [sliceToU16, fromBeBytes_toBeBytes]

@[simp] theorem sliceToU32_toBeBytes (v : UInt32) : sliceToU32 (toBeBytes 4 v.toNat) = .ok v := by
  have hv : v.toNat < 256 ^ 4 := v.toNat_lt
  simp [sliceToU32, fromBeBytes_toBeBytes_of_lt hv]

@[simp] theorem sliceToU64_toBeBytes (v : Nat) : sliceToU64 (toBeBytes 8 v) = .ok (v % 2 ^ 64) := by
  simp [sliceToU64, fromBeBytes_toBeBytes]

/-! ## The stream -/

/-- `TcplsStream`. -/
structure TcplsStream where
  streamId : UInt32
  rcvOffset : Nat
  sndOffset : Nat
  sndData : Bytes
  rcvData : Bytes
deriving DecidableEq, Repr

namespace TcplsStream

/-- `TcplsStream::new`. -/
def new (streamId : UInt32) (rData : Bytes) : TcplsStream :=
  { streamId, rcvOffset := 0, sndOffset := 0, sndData := [], rcvData := rData }

/-- `handle_offset`: place `data`, which the peer sent at `newOffset`, into `rcv_data`. -/
def handleOffset (s : TcplsStream) (newOffset : Nat) (data : Bytes) : Except Panic TcplsStream := do
  let reach ← checkedAdd 64 s.rcvOffset data.length
  if newOffset > reach then do
    -- a gap: zeros up to `newOffset`, then the data
    let gap ← checkedSub newOffset s.rcvData.length
    let diff ← fromElem (0 : UInt8) gap
    let rcvData ← extendFromSlice s.rcvData diff
    let rcvData ← extendFromSlice rcvData data
    return { s with rcvData }
  else if newOffset < s.rcvOffset then do
    -- a frame before the last one: copied over what is there
    let stop ← checkedAdd 64 newOffset data.length
    let rcvData ← cloneFromSlice s.rcvData newOffset stop data
    return { s with rcvData }
  else do
    let rcvData ← extendFromSlice s.rcvData data
    return { s with rcvData }

/-- `read_stream_frame`: `newData` ends with the offset and the length of a
frame, the data before them.  Returns the bytes it read. -/
def readStreamFrame (s : TcplsStream) (newData : Bytes) : Except Panic (TcplsStream × Nat) := do
  let cursor := newData.length
  let lo ← checkedSub cursor offsetSize
  let offsetBytes ← slice newData lo cursor
  let streamOffset ← expectOk (sliceToU64 offsetBytes) "Failed to convert bytes"
  let cursor := lo
  let lo ← checkedSub cursor lengthSize
  let lenBytes ← slice newData lo cursor
  let streamLen ← expectOk (sliceToU16 lenBytes) "Failed to convert bytes"
  let cursor := lo
  let lo ← checkedSub cursor streamLen
  let data ← slice newData lo cursor
  let s ← s.handleOffset streamOffset data
  let s := if s.rcvOffset < streamOffset then { s with rcvOffset := streamOffset } else s
  return (s, streamLen + offsetSize + lengthSize)

/-- `add_meta_data_to_frame`: length, the current `snd_offset`, stream id, type. -/
def addMetaDataToFrame (s : TcplsStream) (frame : Bytes) (len : Nat) (typeValue : UInt8) :
    Except Panic Bytes := do
  let frame ← extendFromSlice frame (toBeBytes 2 len)
  let frame ← extendFromSlice frame (toBeBytes 8 s.sndOffset)
  let frame ← extendFromSlice frame (toBeBytes 4 s.streamId.toNat)
  push frame typeValue

/-- `create_stream_frame`: a frame of at most `maxSize` bytes with the next
queued data, `STREAM_FRAME_FIN` when it takes all of it. -/
def createStreamFrame (s : TcplsStream) (maxSize : Nat) : Except Panic (TcplsStream × Option Bytes) := do
  if s.sndData.isEmpty then
    return (s, none)
  let rest ← sliceFrom s.sndData s.sndOffset
  let (data, typ) ←
    if rest.length + streamHeaderSize > maxSize then do
      let upTo ← checkedAdd 64 s.sndOffset maxSize
      let dataSize ← checkedSub upTo streamHeaderSize
      let data ← slice s.sndData s.sndOffset dataSize
      pure (data, streamFrameType)
    else
      pure (rest, streamFrameFin)
  let frame ← extendFromSlice [] data
  -- `frame.len() as u16`
  let cpLen := frame.length % 2 ^ 16
  let frame ← s.addMetaDataToFrame frame cpLen typ
  let sndOffset ← checkedAdd 64 s.sndOffset cpLen
  return ({ s with sndOffset }, some frame)

/-- `get_stream_data`. -/
def getStreamData (s : TcplsStream) : Bytes := s.rcvData

/-- `add_data_to_send`. -/
def addDataToSend (s : TcplsStream) (data : Bytes) : Except Panic TcplsStream := do
  let sndData ← extendFromSlice s.sndData data
  return { s with sndData }

theorem addDataToSend_eq_ok {s s' : TcplsStream} {data : Bytes} (h : s.addDataToSend data = .ok s') :
    s' = { s with sndData := s.sndData ++ data } ∧ s.sndData.length + data.length ≤ isizeMax := by
  unfold addDataToSend extendFromSlice at h
  split at h
  · cases h
    exact ⟨rfl, ‹_›⟩
  · cases h

/-- `has_data_to_send`. -/
def hasDataToSend (s : TcplsStream) : Bool :=
  !s.sndData.isEmpty && decide (s.sndData.length > s.sndOffset)

/-- `get_id`. -/
def getId (s : TcplsStream) : UInt32 := s.streamId

end TcplsStream

/-- `TcplsStreamBuilder`. -/
structure TcplsStreamBuilder where
  streamId : UInt32
  sndData : Bytes
deriving DecidableEq, Repr

namespace TcplsStreamBuilder

/-- `TcplsStreamBuilder::new`. -/
def new (streamId : UInt32) : TcplsStreamBuilder := { streamId, sndData := [] }

/-- `TcplsStreamBuilder::add_data`. -/
def addData (b : TcplsStreamBuilder) (data : Bytes) : Except Panic TcplsStreamBuilder := do
  let sndData ← extendFromSlice b.sndData data
  return { b with sndData }

theorem addData_eq_ok {b b' : TcplsStreamBuilder} {data : Bytes} (h : b.addData data = .ok b') :
    b' = { b with sndData := b.sndData ++ data } ∧ b.sndData.length + data.length ≤ isizeMax := by
  unfold addData extendFromSlice at h
  split at h
  · cases h
    exact ⟨rfl, ‹_›⟩
  · cases h

/-- `TcplsStreamBuilder::build`. -/
def build (b : TcplsStreamBuilder) : TcplsStream :=
  { streamId := b.streamId, rcvOffset := 0, sndOffset := 0, sndData := b.sndData, rcvData := [] }

end TcplsStreamBuilder

/-! ## The wire format of a STREAM frame -/

/-- The bytes of a STREAM frame: what `create_stream_frame` returns. -/
def streamFrame (data : Bytes) (offset : Nat) (streamId : UInt32) (typ : UInt8) : Bytes :=
  data ++ toBeBytes 2 data.length ++ toBeBytes 8 offset ++ toBeBytes 4 streamId.toNat ++ [typ]

@[simp] theorem length_streamFrame (data : Bytes) (offset : Nat) (streamId : UInt32) (typ : UInt8) :
    (streamFrame data offset streamId typ).length = data.length + streamHeaderSize := by
  simp [streamFrame, streamHeaderSize]

/-! ## Sending -/

namespace TcplsStream

/-- How many queued bytes a frame of at most `maxSize` bytes carries. -/
def frameDataLength (s : TcplsStream) (maxSize : Nat) : Nat :=
  min (s.sndData.length - s.sndOffset) (maxSize - streamHeaderSize)

/-- The bounds under which a stream frames its data: non-empty, `snd_offset`
inside `snd_data`, and a `Vec` of at most `isize::MAX` bytes. -/
structure SendBounds (s : TcplsStream) : Prop where
  nonempty : 0 < s.sndData.length
  offset_le : s.sndOffset ≤ s.sndData.length
  length_le : s.sndData.length ≤ isizeMax

theorem addMetaDataToFrame_eq (s : TcplsStream) (frame : Bytes) (len : Nat) (typ : UInt8)
    (h : frame.length + streamHeaderSize ≤ isizeMax) :
    s.addMetaDataToFrame frame len typ
      = .ok (frame ++ toBeBytes 2 len ++ toBeBytes 8 s.sndOffset ++ toBeBytes 4 s.streamId.toNat
          ++ [typ]) := by
  simp only [streamHeaderSize] at h
  unfold addMetaDataToFrame
  rw [extendFromSlice_eq_ok (by simp; omega), ok_bind, extendFromSlice_eq_ok (by simp; omega),
    ok_bind, extendFromSlice_eq_ok (by simp; omega), ok_bind, push_eq_ok (by simp; omega)]

/-- **The frame `create_stream_frame` builds.**  With room for more than a
header, the frame carries the next `frameDataLength` queued bytes at offset
`snd_offset`, and `snd_offset` moves past them. -/
theorem createStreamFrame_spec (s : TcplsStream) (maxSize : Nat) (hs : s.SendBounds)
    (hmin : streamHeaderSize < maxSize) (hmax : maxSize ≤ maxRecordSize) :
    s.createStreamFrame maxSize =
      .ok ({ s with sndOffset := s.sndOffset + s.frameDataLength maxSize },
        some (streamFrame ((s.sndData.drop s.sndOffset).take (s.frameDataLength maxSize))
          s.sndOffset s.streamId
          (if s.sndData.length - s.sndOffset + streamHeaderSize > maxSize then streamFrameType
           else streamFrameFin))) := by
  obtain ⟨hne, hoff, hlen⟩ := hs
  have hisize : isizeMax = 2 ^ 63 - 1 := rfl
  simp only [maxRecordSize] at hmax
  simp only [streamHeaderSize] at hmin
  have hnonempty : s.sndData.isEmpty = false := by
    cases h : s.sndData with
    | nil => simp [h] at hne
    | cons _ _ => rfl
  unfold createStreamFrame frameDataLength
  simp only [hnonempty, Bool.false_eq_true, if_false, sliceFrom_eq_ok hoff, ok_bind, List.length_drop,
    streamHeaderSize]
  by_cases hsplit : s.sndData.length - s.sndOffset + 15 > maxSize
  · -- the data is cut at `max_size - STREAM_HEADER_SIZE` bytes
    have hn : min (s.sndData.length - s.sndOffset) (maxSize - 15) = maxSize - 15 := by omega
    have hdata : ((s.sndData.drop s.sndOffset).take (maxSize - 15)).length = maxSize - 15 := by
      simp; omega
    simp only [hsplit, if_true, hn]
    rw [checkedAdd_eq_ok (by omega), ok_bind, checkedSub_eq_ok (by omega), ok_bind,
      slice_eq_ok (by omega) (by omega), ok_bind, pure_bind,
      show s.sndOffset + maxSize - 15 - s.sndOffset = maxSize - 15 by omega,
      extendFromSlice_eq_ok (by simp; omega), ok_bind]
    simp only [List.nil_append, hdata, Nat.mod_eq_of_lt (show maxSize - 15 < 2 ^ 16 by omega)]
    rw [addMetaDataToFrame_eq _ _ _ _ (by rw [hdata]; simp only [streamHeaderSize]; omega), ok_bind,
      checkedAdd_eq_ok (by omega)]
    simp [streamFrame, hdata, List.append_assoc]
  · -- the rest of the queue fits, and the frame closes it
    have hn : min (s.sndData.length - s.sndOffset) (maxSize - 15) = s.sndData.length - s.sndOffset := by
      omega
    have hrest : (s.sndData.drop s.sndOffset).length = s.sndData.length - s.sndOffset := by simp
    simp only [hsplit, if_false, hn, List.take_of_length_le (Nat.le_of_eq hrest)]
    rw [pure_bind, extendFromSlice_eq_ok (by simp; omega), ok_bind]
    simp only [List.nil_append, hrest,
      Nat.mod_eq_of_lt (show s.sndData.length - s.sndOffset < 2 ^ 16 by omega)]
    rw [addMetaDataToFrame_eq _ _ _ _ (by rw [hrest]; simp only [streamHeaderSize]; omega), ok_bind,
      checkedAdd_eq_ok (by omega)]
    simp [streamFrame, hrest, List.append_assoc]

/-! ## Receiving -/

/-- **In-order reassembly.**  A frame that starts exactly where `rcv_data`
ends is appended.  When `rcv_offset + len` is below the frame's offset the
first branch takes it, but the gap it pads is `new_offset - rcv_data.len()`,
which is zero. -/
theorem handleOffset_of_eq_length (s : TcplsStream) (data : Bytes)
    (hoff : s.rcvOffset ≤ s.rcvData.length) (hlen : s.rcvData.length + data.length ≤ isizeMax) :
    s.handleOffset s.rcvData.length data = .ok { s with rcvData := s.rcvData ++ data } := by
  have hisize : isizeMax = 2 ^ 63 - 1 := rfl
  unfold handleOffset
  rw [checkedAdd_eq_ok (by omega), ok_bind]
  by_cases hgap : s.rcvData.length > s.rcvOffset + data.length
  · rw [if_pos hgap, checkedSub_eq_ok (Nat.le_refl _), ok_bind, Nat.sub_self,
      fromElem_eq_ok (Nat.zero_le _), ok_bind, List.replicate_zero,
      extendFromSlice_eq_ok (by simp; omega), ok_bind, List.append_nil,
      extendFromSlice_eq_ok hlen, ok_bind]
    rfl
  · rw [if_neg hgap, if_neg (by omega), extendFromSlice_eq_ok hlen, ok_bind]
    rfl

/-- **Reading a frame body.**  On a buffer that ends with `data`, its `u16`
length and a `u64` offset, `read_stream_frame` hands exactly that offset and
that data to `handle_offset`, then moves `rcv_offset` up to the offset. -/
theorem readStreamFrame_streamBody (s : TcplsStream) (pre data : Bytes) (offset : Nat)
    (hdata : data.length < 2 ^ 16) (hoffset : offset < 2 ^ 64) :
    s.readStreamFrame (pre ++ data ++ toBeBytes 2 data.length ++ toBeBytes 8 offset) =
      (do
        let s' ← s.handleOffset offset data
        return (if s'.rcvOffset < offset then { s' with rcvOffset := offset } else s',
          data.length + offsetSize + lengthSize)) := by
  have h₁ : checkedSub (pre ++ data ++ toBeBytes 2 data.length ++ toBeBytes 8 offset).length offsetSize
      = .ok (pre ++ data ++ toBeBytes 2 data.length).length := by
    rw [checkedSub_eq_ok (by simp [offsetSize]; omega)]
    simp [offsetSize]
    omega
  have h₂ : slice (pre ++ data ++ toBeBytes 2 data.length ++ toBeBytes 8 offset)
      (pre ++ data ++ toBeBytes 2 data.length).length
      (pre ++ data ++ toBeBytes 2 data.length ++ toBeBytes 8 offset).length
      = .ok (toBeBytes 8 offset) := by
    rw [slice_eq_ok (by simp) (Nat.le_refl _), List.drop_left, List.length_append,
      Nat.add_sub_cancel_left, List.take_length]
  have h₃ : checkedSub (pre ++ data ++ toBeBytes 2 data.length).length lengthSize
      = .ok (pre ++ data).length := by
    rw [checkedSub_eq_ok (by simp [lengthSize]; omega)]
    simp [lengthSize]
    omega
  have h₄ : slice (pre ++ data ++ toBeBytes 2 data.length ++ toBeBytes 8 offset)
      (pre ++ data).length (pre ++ data ++ toBeBytes 2 data.length).length
      = .ok (toBeBytes 2 data.length) := by
    rw [slice_eq_ok (by simp) (by simp), List.append_assoc (pre ++ data), List.drop_left,
      List.length_append, Nat.add_sub_cancel_left, List.take_left]
  have h₅ : checkedSub (pre ++ data).length data.length = .ok pre.length := by
    rw [checkedSub_eq_ok (by simp)]
    simp
  have h₆ : slice (pre ++ data ++ toBeBytes 2 data.length ++ toBeBytes 8 offset)
      pre.length (pre ++ data).length = .ok data := by
    rw [slice_eq_ok (by simp) (by simp)]
    simp
  simp only [readStreamFrame, h₁, h₂, h₃, h₄, h₅, h₆, ok_bind, sliceToU64_toBeBytes,
    sliceToU16_toBeBytes, Nat.mod_eq_of_lt hoffset, Nat.mod_eq_of_lt hdata, expectOk_ok]

/-- **The third branch.**  A frame that starts at or after the last frame's
offset, and no further than that offset plus its own length, is appended. -/
theorem handleOffset_append (s : TcplsStream) {newOffset : Nat} {data : Bytes}
    (h₁ : s.rcvOffset ≤ newOffset) (h₂ : newOffset ≤ s.rcvOffset + data.length)
    (hreach : s.rcvOffset + data.length < 2 ^ 64)
    (hlen : s.rcvData.length + data.length ≤ isizeMax) :
    s.handleOffset newOffset data = .ok { s with rcvData := s.rcvData ++ data } := by
  unfold handleOffset
  rw [checkedAdd_eq_ok hreach, ok_bind, if_neg (by omega), if_neg (by omega),
    extendFromSlice_eq_ok hlen, ok_bind]
  rfl

/-- **The second branch.**  A frame that starts before the last frame's
offset is copied over `rcv_data` from its own offset on, whatever is there. -/
theorem handleOffset_overwrite (s : TcplsStream) {newOffset : Nat} {data : Bytes}
    (h : newOffset < s.rcvOffset) (hreach : s.rcvOffset + data.length < 2 ^ 64)
    (hfit : newOffset + data.length ≤ s.rcvData.length) :
    s.handleOffset newOffset data = .ok { s with
      rcvData := s.rcvData.take newOffset ++ data ++ s.rcvData.drop (newOffset + data.length) } := by
  unfold handleOffset
  rw [checkedAdd_eq_ok hreach, ok_bind, if_neg (by omega), if_pos h, checkedAdd_eq_ok (by omega),
    ok_bind, cloneFromSlice_eq_ok (by omega) hfit (by omega), ok_bind]
  rfl

/-- With room for `k` bytes past the header and at least `k` bytes still
queued, the frame carries exactly the next `k` bytes. -/
theorem createStreamFrame_of_room (s : TcplsStream) {k : Nat} (hs : s.SendBounds) (hk : 0 < k)
    (hroom : k ≤ s.sndData.length - s.sndOffset) (hmax : k + streamHeaderSize ≤ maxRecordSize) :
    ∃ typ, s.createStreamFrame (k + streamHeaderSize) =
      .ok ({ s with sndOffset := s.sndOffset + k },
        some (streamFrame ((s.sndData.drop s.sndOffset).take k) s.sndOffset s.streamId typ)) := by
  have hfd : s.frameDataLength (k + streamHeaderSize) = k := by
    rw [frameDataLength, Nat.add_sub_cancel]
    exact Nat.min_eq_right hroom
  have hspec := s.createStreamFrame_spec _ hs (by omega) hmax
  rw [hfd] at hspec
  exact ⟨_, hspec⟩

/-- A whole frame read in the third branch: appended, with `rcv_offset`
moved up to the frame's offset. -/
theorem readStreamFrame_append (s : TcplsStream) (data : Bytes) (offset : Nat)
    (hdata : data.length < 2 ^ 16) (h₁ : s.rcvOffset ≤ offset)
    (h₂ : offset ≤ s.rcvOffset + data.length) (hreach : s.rcvOffset + data.length < 2 ^ 64)
    (hlen : s.rcvData.length + data.length ≤ isizeMax) :
    s.readStreamFrame (data ++ toBeBytes 2 data.length ++ toBeBytes 8 offset) =
      .ok ({ s with rcvData := s.rcvData ++ data, rcvOffset := offset },
        data.length + offsetSize + lengthSize) := by
  have hread := s.readStreamFrame_streamBody [] data offset hdata (by omega)
  rw [List.nil_append, handleOffset_append s h₁ h₂ hreach hlen, ok_bind] at hread
  rw [hread]
  by_cases hlt : s.rcvOffset < offset
  · rw [if_pos hlt]
    rfl
  · -- not below: the frame starts at `rcv_offset` itself, which stays
    have heq : s.rcvOffset = offset := by omega
    rw [if_neg hlt, ← heq]
    rfl

/-- A whole frame read in the second branch: copied over `rcv_data`, with
`rcv_offset` left where it is. -/
theorem readStreamFrame_overwrite (s : TcplsStream) (data : Bytes) (offset : Nat)
    (hdata : data.length < 2 ^ 16) (h : offset < s.rcvOffset)
    (hreach : s.rcvOffset + data.length < 2 ^ 64)
    (hfit : offset + data.length ≤ s.rcvData.length) :
    s.readStreamFrame (data ++ toBeBytes 2 data.length ++ toBeBytes 8 offset) =
      .ok ({ s with
          rcvData := s.rcvData.take offset ++ data ++ s.rcvData.drop (offset + data.length) },
        data.length + offsetSize + lengthSize) := by
  have hread := s.readStreamFrame_streamBody [] data offset hdata (by omega)
  rw [List.nil_append, handleOffset_overwrite s h hreach hfit, ok_bind] at hread
  rw [hread, if_neg (show ¬ s.rcvOffset < offset by omega)]
  rfl

end TcplsStream

/-! ## Out-of-order reception -/

/-- **Two frames delivered in reverse order.**  A sender with `bytes` queued
cuts two frames of `k` bytes each with `create_stream_frame(k + 15)`.  A fresh
receiver given the second frame and then the first keeps only the first `k`
bytes: the second frame is appended at position 0, since `rcv_offset + len`
is not below its offset, and the first is then copied over it.  The sender
has framed `2 * k` bytes. -/
theorem reversed_frames_overwrite (streamId : UInt32) {bytes : Bytes} {k : Nat} (hk : 0 < k)
    (hlen : 2 * k ≤ bytes.length) (hmax : k + streamHeaderSize ≤ maxRecordSize)
    (hbytes : bytes.length ≤ isizeMax) :
    ∃ sender₁ sender₂ sender₃ typ₁ typ₂ receiver₁ receiver₂ n₁ n₂,
      (TcplsStream.new streamId []).addDataToSend bytes = .ok sender₁ ∧
      sender₁.createStreamFrame (k + streamHeaderSize) =
        .ok (sender₂, some (streamFrame (bytes.take k) 0 streamId typ₁)) ∧
      sender₂.createStreamFrame (k + streamHeaderSize) =
        .ok (sender₃, some (streamFrame ((bytes.drop k).take k) k streamId typ₂)) ∧
      (TcplsStream.new streamId []).readStreamFrame
        ((bytes.drop k).take k ++ toBeBytes 2 k ++ toBeBytes 8 k) = .ok (receiver₁, n₁) ∧
      receiver₁.readStreamFrame (bytes.take k ++ toBeBytes 2 k ++ toBeBytes 8 0) =
        .ok (receiver₂, n₂) ∧
      receiver₂.rcvData = bytes.take k ∧
      sender₃.sndData.take sender₃.sndOffset = bytes.take (2 * k) := by
  have hk16 : k < 2 ^ 16 := by
    unfold maxRecordSize streamHeaderSize at hmax
    omega
  have hisize : isizeMax = 2 ^ 63 - 1 := rfl
  let sender₁ : TcplsStream := { TcplsStream.new streamId [] with sndData := bytes }
  have hadd : (TcplsStream.new streamId []).addDataToSend bytes = .ok sender₁ := by
    rw [TcplsStream.addDataToSend, extendFromSlice_eq_ok (by simpa [TcplsStream.new] using hbytes)]
    rfl
  obtain ⟨typ₁, hc₁⟩ := sender₁.createStreamFrame_of_room
    ⟨by simp [sender₁]; omega, Nat.zero_le _, hbytes⟩ hk (by simp [sender₁, TcplsStream.new]; omega) hmax
  rw [show sender₁.sndOffset + k = k from Nat.zero_add k] at hc₁
  obtain ⟨typ₂, hc₂⟩ := ({ sender₁ with sndOffset := k } : TcplsStream).createStreamFrame_of_room
    ⟨by simp [sender₁]; omega, by simp [sender₁]; omega, hbytes⟩ hk (by simp [sender₁]; omega) hmax
  have hd₂ : ((bytes.drop k).take k).length = k := by
    simp only [List.length_take, List.length_drop]
    omega
  have hd₁ : (bytes.take k).length = k := by
    simp only [List.length_take]
    omega
  have hread₁ := (TcplsStream.new streamId []).readStreamFrame_append ((bytes.drop k).take k) k
    (by omega) (Nat.zero_le _) (by simp [TcplsStream.new]; omega)
    (by simp [TcplsStream.new]; omega) (by simp [TcplsStream.new]; omega)
  rw [hd₂] at hread₁
  let receiver₁ : TcplsStream :=
    { TcplsStream.new streamId [] with rcvData := (bytes.drop k).take k, rcvOffset := k }
  have hread₂ := receiver₁.readStreamFrame_overwrite (bytes.take k) 0 (by omega)
    (by simp [receiver₁]; omega) (by simp [receiver₁]; omega) (by simp [receiver₁, hd₁, hd₂])
  rw [hd₁] at hread₂
  refine ⟨sender₁, _, _, typ₁, typ₂, receiver₁, _, _, _, hadd, hc₁, hc₂, hread₁, hread₂, ?_, ?_⟩
  · simp [receiver₁]
  · show bytes.take (k + k) = bytes.take (2 * k)
    rw [Nat.two_mul]

/-- Four queued bytes cut into frames of two: delivered in reverse order,
the receiver keeps `[1, 2]` of the `[1, 2, 3, 4]` sent. -/
theorem reversed_frames_overwrite_four :
    0 < 2 ∧ 2 * 2 ≤ [1, 2, 3, 4].length ∧ 2 + streamHeaderSize ≤ maxRecordSize ∧
      [1, 2, 3, 4].length ≤ isizeMax ∧
    ∃ sender₁ sender₂ sender₃ typ₁ typ₂ receiver₁ receiver₂ n₁ n₂,
      (TcplsStream.new 0 []).addDataToSend [1, 2, 3, 4] = .ok sender₁ ∧
      sender₁.createStreamFrame (2 + streamHeaderSize) =
        .ok (sender₂, some (streamFrame ([1, 2, 3, 4].take 2) 0 0 typ₁)) ∧
      sender₂.createStreamFrame (2 + streamHeaderSize) =
        .ok (sender₃, some (streamFrame (([1, 2, 3, 4].drop 2).take 2) 2 0 typ₂)) ∧
      (TcplsStream.new 0 []).readStreamFrame
        (([1, 2, 3, 4].drop 2).take 2 ++ toBeBytes 2 2 ++ toBeBytes 8 2) = .ok (receiver₁, n₁) ∧
      receiver₁.readStreamFrame ([1, 2, 3, 4].take 2 ++ toBeBytes 2 2 ++ toBeBytes 8 0) =
        .ok (receiver₂, n₂) ∧
      receiver₂.rcvData = [1, 2, 3, 4].take 2 ∧
      sender₃.sndData.take sender₃.sndOffset = [1, 2, 3, 4].take (2 * 2) :=
  ⟨by decide, by decide, by decide, by decide,
    reversed_frames_overwrite 0 (by decide) (by decide) (by decide) (by decide)⟩

end TcplsBasics.Ports.Tcpls
