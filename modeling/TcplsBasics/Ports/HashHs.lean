import TcplsBasics.Verified.Digest
import TcplsBasics.Ports.Msgs.Message

/-!
# The handshake transcript hash (`hash_hs.rs`)

Until the hash algorithm is known, a `HandshakeHashBuffer` keeps the encoded
handshake messages; `start_hash` feeds them to a digest context, and from then
on a `HandshakeHash` hashes each message as it comes.  After a
HelloRetryRequest the transcript so far is replaced by one `message_hash`
message that carries its hash, either in place (`rollup_for_hrr`) or by going
back to a buffer (`into_hrr_buffer`).

What either structure stands for is the transcript: the bytes it has hashed or
will hash, the buffer itself or the data of the context.  Each call extends
the transcript by a message's encoding or reads a hash of it, so wherever the
algorithm became known the hash is that of every encoding in order, and both
HelloRetryRequest paths start the same transcript
(`handshakeHash_transcript`).

`Message` (`msgs/message.rs`) is modelled here with the payloads the
transcript reads.  The buffers grow through `extend_from_slice`, so a
transcript that would pass `isize::MAX` bytes panics; a running hash without
client authentication keeps no buffer and never does.
-/

namespace TcplsBasics.Ports.HashHs

open TcplsBasics.Verified.Rust TcplsBasics.Verified.Digest TcplsBasics.Verified.Codec
open TcplsBasics.Ports.Msgs.Handshake

/-! ## Messages -/

/-- `MessagePayload`: a handshake message keeps the bytes it was read from
beside what was parsed of them. -/
inductive MessagePayload where
  | alert (level : Msgs.Enums.AlertLevel) (description : Msgs.Enums.AlertDescription)
  | handshake (parsed : HandshakeMessagePayload) (encoded : List UInt8)
  | changeCipherSpec
  | applicationData (payload : List UInt8)
deriving DecidableEq

/-- `MessagePayload::handshake`: a message built here keeps its encoding. -/
def MessagePayload.mkHandshake (parsed : HandshakeMessagePayload) : MessagePayload :=
  .handshake parsed parsed.encode

/-- `Message`. -/
structure Message where
  version : Nat
  payload : MessagePayload
deriving DecidableEq

/-- The bytes a message adds to the transcript: a handshake message's
encoding, and nothing for any other. -/
def Message.hashed (m : Message) : List UInt8 :=
  match m.payload with
  | .handshake _ encoded => encoded
  | _ => []

/-- The transcript of a sequence of messages. -/
def transcript (ms : List Message) : List UInt8 := (ms.map Message.hashed).flatten

@[simp] theorem transcript_nil : transcript [] = [] := rfl

@[simp] theorem transcript_cons (m : Message) (ms : List Message) :
    transcript (m :: ms) = m.hashed ++ transcript ms := rfl

@[simp] theorem transcript_append (ms ms' : List Message) :
    transcript (ms ++ ms') = transcript ms ++ transcript ms' := by
  simp [transcript]

/-! ## The two structures -/

/-- `HandshakeHash`: the running digest, and for client authentication a copy
of the transcript. -/
structure HandshakeHash where
  ctx : Context
  clientAuth : Option (List UInt8)

/-- `HandshakeHashBuffer`. -/
structure HandshakeHashBuffer where
  buffer : List UInt8
  clientAuthEnabled : Bool
deriving DecidableEq

namespace HandshakeHashBuffer

/-- `HandshakeHashBuffer::new`. -/
def new : HandshakeHashBuffer := ⟨[], false⟩

/-- `HandshakeHashBuffer::set_client_auth_enabled`. -/
def setClientAuthEnabled (b : HandshakeHashBuffer) : HandshakeHashBuffer :=
  { b with clientAuthEnabled := true }

/-- `HandshakeHashBuffer::add_message`. -/
def addMessage (b : HandshakeHashBuffer) (m : Message) : Except Panic HandshakeHashBuffer :=
  match m.payload with
  | .handshake _ encoded => do
    let buffer ← extendFromSlice b.buffer encoded
    pure { b with buffer }
  | _ => pure b

/-- `HandshakeHashBuffer::get_hash_given`. -/
def getHashGiven (b : HandshakeHashBuffer) (hash : Algorithm) (extra : List UInt8) : List UInt8 :=
  (((Context.new hash).update b.buffer).update extra).finish

/-- `HandshakeHashBuffer::start_hash`. -/
def startHash (b : HandshakeHashBuffer) (alg : Algorithm) : HandshakeHash :=
  ⟨(Context.new alg).update b.buffer,
    match b.clientAuthEnabled with
    | true => some b.buffer
    | false => none⟩

end HandshakeHashBuffer

namespace HandshakeHash

/-- `HandshakeHash::abandon_client_auth`. -/
def abandonClientAuth (h : HandshakeHash) : HandshakeHash := { h with clientAuth := none }

/-- `HandshakeHash::update_raw`. -/
def updateRaw (h : HandshakeHash) (buf : List UInt8) : Except Panic HandshakeHash := do
  let ctx := h.ctx.update buf
  match h.clientAuth with
  | some buffer =>
    let buffer ← extendFromSlice buffer buf
    pure ⟨ctx, some buffer⟩
  | none => pure ⟨ctx, none⟩

/-- `HandshakeHash::add_message`. -/
def addMessage (h : HandshakeHash) (m : Message) : Except Panic HandshakeHash :=
  match m.payload with
  | .handshake _ encoded => h.updateRaw encoded
  | _ => pure h

/-- `HandshakeHash::get_hash_given`. -/
def getHashGiven (h : HandshakeHash) (extra : List UInt8) : List UInt8 := (h.ctx.update extra).finish

/-- `HandshakeHash::into_hrr_buffer`. -/
def intoHrrBuffer (h : HandshakeHash) : HandshakeHashBuffer :=
  let oldHash := h.ctx.finish
  let oldHandshakeHashMsg := HandshakeMessagePayload.buildHandshakeHash oldHash
  ⟨oldHandshakeHashMsg.encode, h.clientAuth.isSome⟩

/-- `HandshakeHash::rollup_for_hrr`: the context starts again; the copy for
client authentication does not. -/
def rollupForHrr (h : HandshakeHash) : Except Panic HandshakeHash :=
  let oldHash := h.ctx.finish
  let oldHandshakeHashMsg := HandshakeMessagePayload.buildHandshakeHash oldHash
  updateRaw { h with ctx := Context.new h.ctx.algorithm } oldHandshakeHashMsg.encode

/-- `HandshakeHash::get_current_hash`. -/
def getCurrentHash (h : HandshakeHash) : List UInt8 := h.ctx.finish

/-- `HandshakeHash::take_handshake_buf`. -/
def takeHandshakeBuf (h : HandshakeHash) : Option (List UInt8) × HandshakeHash :=
  (h.clientAuth, { h with clientAuth := none })

/-- `HandshakeHash::algorithm`. -/
def algorithm (h : HandshakeHash) : Algorithm := h.ctx.algorithm

end HandshakeHash

/-! ## Each call on the transcript -/

namespace HandshakeHashBuffer

/-- `add_message` for each message in turn. -/
def addMessages (b : HandshakeHashBuffer) (ms : List Message) : Except Panic HandshakeHashBuffer :=
  ms.foldlM addMessage b

/-- A message is buffered by its encoding, a message of another kind by
nothing. -/
theorem addMessage_eq {b : HandshakeHashBuffer} {m : Message}
    (hfit : b.buffer.length + m.hashed.length ≤ isizeMax) :
    b.addMessage m = .ok { b with buffer := b.buffer ++ m.hashed } := by
  obtain ⟨version, payload⟩ := m
  cases payload with
  | handshake parsed encoded =>
    simp only [addMessage, Message.hashed] at hfit ⊢
    rw [extendFromSlice_eq_ok hfit]
    rfl
  | alert level description =>
    simp only [addMessage, Message.hashed, List.append_nil]
    rfl
  | changeCipherSpec =>
    simp only [addMessage, Message.hashed, List.append_nil]
    rfl
  | applicationData payload =>
    simp only [addMessage, Message.hashed, List.append_nil]
    rfl

theorem addMessages_eq {b : HandshakeHashBuffer} {ms : List Message}
    (hfit : b.buffer.length + (transcript ms).length ≤ isizeMax) :
    b.addMessages ms = .ok { b with buffer := b.buffer ++ transcript ms } := by
  induction ms generalizing b with
  | nil =>
    simp only [addMessages, List.foldlM_nil, transcript_nil, List.append_nil]
    rfl
  | cons m ms ih =>
    rw [transcript_cons, List.length_append] at hfit
    have hnext : (b.buffer ++ m.hashed).length + (transcript ms).length ≤ isizeMax := by
      rw [List.length_append]
      omega
    rw [addMessages, List.foldlM_cons, addMessage_eq (by omega), ok_bind]
    show addMessages _ ms = _
    rw [ih (b := { b with buffer := b.buffer ++ m.hashed }) hnext, transcript_cons, List.append_assoc]

/-- `get_hash_given` hashes the buffer and then `extra`. -/
theorem getHashGiven_eq (b : HandshakeHashBuffer) (hash : Algorithm) (extra : List UInt8) :
    b.getHashGiven hash extra = hash.hash (b.buffer ++ extra) := by
  rw [getHashGiven, Context.update_update, Context.finish_new_update]

end HandshakeHashBuffer

namespace HandshakeHash

/-- The copy kept for client authentication, if any, has room for `n` more
bytes. -/
def Room (h : HandshakeHash) (n : Nat) : Prop :=
  ∀ buffer, h.clientAuth = some buffer → buffer.length + n ≤ isizeMax

theorem Room.mono {h : HandshakeHash} {n k : Nat} (hroom : h.Room n) (hk : k ≤ n) : h.Room k :=
  fun buffer hbuf => Nat.le_trans (Nat.add_le_add_left hk _) (hroom buffer hbuf)

/-- A copy that can only be `buf` has room for what fits after `buf`. -/
theorem Room.of_eq {h : HandshakeHash} (buf : List UInt8) {n : Nat}
    (hauth : ∀ buffer, h.clientAuth = some buffer → buffer = buf) (hn : buf.length + n ≤ isizeMax) : h.Room n := by
  intro buffer hbuffer
  rw [hauth buffer hbuffer]
  exact hn

/-- `add_message` for each message in turn. -/
def addMessages (h : HandshakeHash) (ms : List Message) : Except Panic HandshakeHash :=
  ms.foldlM addMessage h

theorem updateRaw_eq {h : HandshakeHash} {buf : List UInt8} (hroom : h.Room buf.length) :
    h.updateRaw buf = .ok ⟨h.ctx.update buf, h.clientAuth.map (· ++ buf)⟩ := by
  unfold updateRaw
  cases hauth : h.clientAuth with
  | none => rfl
  | some buffer =>
    simp only
    rw [extendFromSlice_eq_ok (hroom buffer hauth)]
    rfl

/-- A message goes into the digest, and into the copy if there is one, by its
encoding. -/
theorem addMessage_eq {h : HandshakeHash} {m : Message} (hroom : h.Room m.hashed.length) :
    h.addMessage m = .ok ⟨h.ctx.update m.hashed, h.clientAuth.map (· ++ m.hashed)⟩ := by
  obtain ⟨version, payload⟩ := m
  cases payload with
  | handshake parsed encoded => exact updateRaw_eq hroom
  | alert level description =>
    simp only [addMessage, Message.hashed, List.append_nil, Context.update_nil, Option.map_id']
    rfl
  | changeCipherSpec =>
    simp only [addMessage, Message.hashed, List.append_nil, Context.update_nil, Option.map_id']
    rfl
  | applicationData payload =>
    simp only [addMessage, Message.hashed, List.append_nil, Context.update_nil, Option.map_id']
    rfl

theorem addMessages_eq {h : HandshakeHash} {ms : List Message} (hroom : h.Room (transcript ms).length) :
    h.addMessages ms = .ok ⟨h.ctx.update (transcript ms), h.clientAuth.map (· ++ transcript ms)⟩ := by
  induction ms generalizing h with
  | nil =>
    simp only [addMessages, List.foldlM_nil, transcript_nil, List.append_nil, Context.update_nil, Option.map_id']
    rfl
  | cons m ms ih =>
    have hfirst : h.Room m.hashed.length := hroom.mono (by simp)
    have hnext : Room ⟨h.ctx.update m.hashed, h.clientAuth.map (· ++ m.hashed)⟩ (transcript ms).length := by
      intro buffer hbuf
      obtain ⟨old, hold, rfl⟩ := Option.map_eq_some_iff.mp hbuf
      have := hroom old hold
      rw [transcript_cons, List.length_append] at this
      rw [List.length_append]
      omega
    rw [addMessages, List.foldlM_cons, addMessage_eq hfirst, ok_bind]
    show addMessages _ ms = _
    rw [ih hnext, Context.update_update, Option.map_map, transcript_cons]
    simp only [Function.comp_def, List.append_assoc]

/-- The `message_hash` message that stands for the transcript so far. -/
def hrrMessage (h : HandshakeHash) : List UInt8 :=
  (HandshakeMessagePayload.buildHandshakeHash h.getCurrentHash).encode

/-- A `message_hash` message is its hash behind a four-byte header. -/
theorem length_encode_buildHandshakeHash (hash : List UInt8) :
    (HandshakeMessagePayload.buildHandshakeHash hash).encode.length = 4 + hash.length := by
  simp only [HandshakeMessagePayload.buildHandshakeHash, HandshakeMessagePayload.encode,
    HandshakePayload.encode, List.length_append, length_encodeUInt, length_encodeBlock]
  omega

/-- `rollup_for_hrr` starts the digest again at the `message_hash` message, and
adds that message to the copy. -/
theorem rollupForHrr_eq {h : HandshakeHash} (hroom : h.Room h.hrrMessage.length) :
    h.rollupForHrr = .ok ⟨(Context.new h.algorithm).update h.hrrMessage, h.clientAuth.map (· ++ h.hrrMessage)⟩ :=
  updateRaw_eq hroom

theorem length_hrrMessage (h : HandshakeHash) : h.hrrMessage.length = 4 + h.algorithm.outputLen := by
  rw [hrrMessage, length_encode_buildHandshakeHash, getCurrentHash, Context.finish, h.ctx.algorithm.length_hash]
  rfl

/-- `into_hrr_buffer` starts a buffer at the `message_hash` message. -/
theorem intoHrrBuffer_buffer (h : HandshakeHash) : h.intoHrrBuffer.buffer = h.hrrMessage := rfl

/-- After `rollup_for_hrr`, the messages that follow are hashed after the
`message_hash` message. -/
theorem rollupForHrr_addMessages (h : HandshakeHash) (later : List Message)
    (hroom : h.Room (h.hrrMessage.length + (transcript later).length)) :
    ∃ h₁, (h.rollupForHrr >>= fun h => h.addMessages later) = .ok h₁ ∧
      h₁.getCurrentHash = h.algorithm.hash (h.hrrMessage ++ transcript later) := by
  have hafter : Room ⟨(Context.new h.algorithm).update h.hrrMessage, h.clientAuth.map (· ++ h.hrrMessage)⟩
      (transcript later).length := by
    intro buffer hbuf
    obtain ⟨old, hold, rfl⟩ := Option.map_eq_some_iff.mp hbuf
    have := hroom old hold
    rw [List.length_append]
    omega
  rw [rollupForHrr_eq (hroom.mono (Nat.le_add_right _ _)), ok_bind, addMessages_eq hafter]
  exact ⟨_, rfl, rfl⟩

end HandshakeHash

namespace HandshakeHashBuffer

/-- The transcript taken up at any point: `pre` into the buffer, then
`start_hash`, then `post` into the running hash. -/
def hashFrom (b : HandshakeHashBuffer) (alg : Algorithm) (pre post : List Message) :
    Except Panic HandshakeHash := do
  let b ← b.addMessages pre
  (b.startHash alg).addMessages post

/-- Wherever the algorithm became known, the digest has been given the buffer
and then every message's encoding, in order. -/
theorem hashFrom_eq {b : HandshakeHashBuffer} (alg : Algorithm) {pre post : List Message}
    (hfit : b.buffer.length + (transcript (pre ++ post)).length ≤ isizeMax) :
    b.hashFrom alg pre post =
      .ok ⟨(Context.new alg).update (b.buffer ++ transcript (pre ++ post)),
        match b.clientAuthEnabled with
        | true => some (b.buffer ++ transcript (pre ++ post))
        | false => none⟩ := by
  rw [transcript_append, List.length_append] at hfit
  have hroom : HandshakeHash.Room (startHash { b with buffer := b.buffer ++ transcript pre } alg)
      (transcript post).length := by
    intro buffer hbuf
    cases hauth : b.clientAuthEnabled
    · simp [startHash, hauth] at hbuf
    · simp only [startHash, hauth, Option.some.injEq] at hbuf
      rw [← hbuf, List.length_append]
      omega
  rw [hashFrom, addMessages_eq (by omega), ok_bind, HandshakeHash.addMessages_eq hroom]
  cases b.clientAuthEnabled <;> simp [startHash]

end HandshakeHashBuffer

/-- After `into_hrr_buffer` and `start_hash` with the same algorithm, the
messages that follow are hashed after the `message_hash` message. -/
theorem HandshakeHash.intoHrrBuffer_hashFrom (h : HandshakeHash) (mid later : List Message)
    (hfit : h.hrrMessage.length + (transcript (mid ++ later)).length ≤ isizeMax) :
    ∃ h₂, h.intoHrrBuffer.hashFrom h.algorithm mid later = .ok h₂ ∧
      h₂.getCurrentHash = h.algorithm.hash (h.hrrMessage ++ transcript (mid ++ later)) :=
  ⟨_, HandshakeHashBuffer.hashFrom_eq h.algorithm (by rw [intoHrrBuffer_buffer]; exact hfit), rfl⟩

/-- Two handshake messages of `2^62` bytes each do not fit in the buffer
together: the second `add_message` panics. -/
theorem huge_transcript_not_buffered (version : Nat) (parsed : HandshakeMessagePayload) :
    HandshakeHashBuffer.new.addMessages
        [⟨version, .handshake parsed (List.replicate (2 ^ 62) 0)⟩, ⟨version, .handshake parsed (List.replicate (2 ^ 62) 0)⟩] =
      .error ⟨"capacity overflow"⟩ := by
  have hfirst : HandshakeHashBuffer.new.buffer.length +
      (Message.hashed ⟨version, .handshake parsed (List.replicate (2 ^ 62) 0)⟩).length ≤ isizeMax := by
    simp only [HandshakeHashBuffer.new, Message.hashed, List.length_nil, List.length_replicate, isizeMax]
    omega
  have hsecond : isizeMax < (HandshakeHashBuffer.new.buffer ++ List.replicate (2 ^ 62) (0 : UInt8)).length +
      (List.replicate (2 ^ 62) (0 : UInt8)).length := by
    simp only [HandshakeHashBuffer.new, List.nil_append, List.length_replicate, isizeMax]
    omega
  rw [HandshakeHashBuffer.addMessages, List.foldlM_cons, HandshakeHashBuffer.addMessage_eq hfirst, ok_bind,
    List.foldlM_cons]
  simp only [HandshakeHashBuffer.addMessage, Message.hashed, extendFromSlice_eq_error hsecond, error_bind]

end TcplsBasics.Ports.HashHs
