import TcplsBasics.Ports.Msgs.Deframer.Stream
import TcplsBasics.Ports.Msgs.Payload
import TcplsBasics.Ports.Cipher

/-!
# Two endpoints in lockstep (`conn.rs`, `record_layer.rs`, `msgs/deframer.rs`)

One endpoint sends messages with `send_msg(m, true)`: each is fragmented,
every fragment sealed with the next write sequence number, and its record
queued in `sendable_tls`.  The peer reads those bytes, in whatever chunks its
reader returns, into its deframer, which opens each record with the next
read sequence number and joins handshake fragments.

When the peer's decrypter opens what the encrypter seals (`Protects`), as
the TLS 1.3 pair of one traffic secret does, and the two sequence numbers
start equal, the peer's deframer returns every message sent, in order: a
handshake message whole, any other message as its fragments, read at
TLS 1.3.  The proof meets in the middle, as the deframer's own does: the
sender queues sealed records (`Sealed`, `Queues`), the peer opens them into
the fragments (`opens_sealed`), and the fragments frame into what is
delivered (`framed_fragments`); `receiveAll_midway` does the rest.

## Main results

* `sendMsgs_queues`: the sender queues the sealed records of every fragment.
* `opens_sealed`: the peer opens them, in lockstep, into the fragments.
* `framed_fragments`: the fragments of messages frame into what is delivered.
* `sendMsgs_delivered`: with the TLS 1.3 keys of one traffic secret, every
  message sent comes out of the peer's deframer.
-/

namespace TcplsBasics.Ports.Conn.Lockstep

open TcplsBasics.Verified.Rust TcplsBasics.Verified.Aead TcplsBasics.Ports.Errors
open TcplsBasics.Ports.Msgs.Enums TcplsBasics.Ports.Msgs.Handshake TcplsBasics.Ports.Msgs.Message
open TcplsBasics.Ports.Msgs.Payload TcplsBasics.Ports.Msgs.Deframer TcplsBasics.Ports.RecordLayer
open TcplsBasics.Ports.Conn.Send TcplsBasics.Ports.Cipher TcplsBasics.Ports.VecBuf TcplsBasics.Ports.HashHs

/-! ## The sender -/

/-- `send_msg(m, true)` of each message in turn, as a flight is sent. -/
def sendMsgs (enc : MessageEncrypter) : CommonState → List Message → Except Panic CommonState
  | st, [] => .ok st
  | st, m :: ms => do
    let st ← sendMsgEncrypt enc st (PlainMessage.ofMessage m)
    sendMsgs enc st ms

/-- The fragments the messages are cut into, in order. -/
def fragmentsOf (f : MessageFragmenter) (msgs : List Message) : List PlainMessage :=
  msgs.flatMap fun m => f.fragmentMessage (PlainMessage.ofMessage m)

@[simp] theorem fragmentsOf_nil (f : MessageFragmenter) : fragmentsOf f [] = [] := rfl

@[simp] theorem fragmentsOf_cons (f : MessageFragmenter) (m : Message) (msgs : List Message) :
    fragmentsOf f (m :: msgs) = f.fragmentMessage (PlainMessage.ofMessage m) ++ fragmentsOf f msgs :=
  List.flatMap_cons

/-- The records `enc` seals the fragments `ms` into, one sequence number
each from `seq` on. -/
inductive Sealed (enc : MessageEncrypter) : Nat → List PlainMessage → List OpaqueMessage → Prop
  | nil {seq : Nat} : Sealed enc seq [] []
  | cons {seq : Nat} {m : PlainMessage} {r : OpaqueMessage} {ms : List PlainMessage}
      {rs : List OpaqueMessage} : enc m seq = .ok r → Sealed enc (seq + 1) ms rs →
      Sealed enc seq (m :: ms) (r :: rs)

section Sealing

variable {enc : MessageEncrypter}

theorem Sealed.length_eq : ∀ {seq : Nat} {ms : List PlainMessage} {rs : List OpaqueMessage},
    Sealed enc seq ms rs → rs.length = ms.length
  | _, _, _, .nil => rfl
  | _, _, _, .cons _ h => by rw [List.length_cons, List.length_cons, h.length_eq]

theorem Sealed.append : ∀ {seq : Nat} {ms ms' : List PlainMessage} {rs rs' : List OpaqueMessage},
    Sealed enc seq ms rs → Sealed enc (seq + ms.length) ms' rs' → Sealed enc seq (ms ++ ms') (rs ++ rs')
  | _, _, _, _, _, .nil, h' => h'
  | seq, _ :: ms, _, _, _, .cons hm h, h' => by
    have hseq : seq + 1 + ms.length = seq + (ms.length + 1) := by omega
    exact .cons hm (h.append (by rw [hseq]; exact h'))

/-- `st'` is `st` once the records `rs` are queued: the write sequence number
is past them and their bytes follow what was queued before. -/
structure Queues (st st' : CommonState) (rs : List OpaqueMessage) : Prop where
  writeSeq : st'.recordLayer.writeSeq = st.recordLayer.writeSeq + rs.length
  isEncrypting : st'.recordLayer.isEncrypting = st.recordLayer.isEncrypting
  fragmenter : st'.messageFragmenter = st.messageFragmenter
  bytes : st'.sendableTls.bytes = st.sendableTls.bytes ++ encodeRecords rs

theorem encodeRecords_append (rs rs' : List OpaqueMessage) :
    encodeRecords (rs ++ rs') = encodeRecords rs ++ encodeRecords rs' := by
  simp [encodeRecords]

theorem Queues.refl (st : CommonState) : Queues st st [] := ⟨rfl, rfl, rfl, by simp⟩

theorem Queues.trans {st st₁ st₂ : CommonState} {rs₁ rs₂ : List OpaqueMessage} (h₁ : Queues st st₁ rs₁)
    (h₂ : Queues st₁ st₂ rs₂) : Queues st st₂ (rs₁ ++ rs₂) where
  writeSeq := by rw [h₂.writeSeq, h₁.writeSeq, List.length_append, Nat.add_assoc]
  isEncrypting := h₂.isEncrypting.trans h₁.isEncrypting
  fragmenter := h₂.fragmenter.trans h₁.fragmenter
  bytes := by rw [h₂.bytes, h₁.bytes, encodeRecords_append, List.append_assoc]

/-- Below the soft limit, a fragment that seals is sealed with the write
sequence number and queued. -/
theorem sendSingleFragment_queues {st : CommonState} (hencr : st.recordLayer.isEncrypting = true)
    (hseq : st.recordLayer.writeSeq < seqSoftLimit) {m : BorrowedPlainMessage} {r : OpaqueMessage}
    (hm : enc m st.recordLayer.writeSeq = .ok r) :
    ∃ st', sendSingleFragment enc st m = .ok st' ∧ Queues st st' [r] := by
  have hclose : st.recordLayer.wantsCloseBeforeEncrypt = false := by
    simp [RecordLayer.wantsCloseBeforeEncrypt, Nat.ne_of_lt hseq]
  have hexhausted : st.recordLayer.encryptExhausted = false := by
    simp only [RecordLayer.encryptExhausted, decide_eq_false_iff_not, Nat.not_le]
    exact Nat.lt_trans hseq (by decide)
  refine ⟨{ queueTlsMessage
      { st with recordLayer := { st.recordLayer with writeSeq := st.recordLayer.writeSeq + 1 } } r with
        encrypted := st.encrypted ++ [m] }, ?_, ⟨rfl, rfl, rfl, ?_⟩⟩
  · simp only [sendSingleFragment, hclose, hexhausted, Bool.false_eq_true, if_false,
      RecordLayer.encryptOutgoing, hencr, Bool.not_true, hm, expectOk_ok, ok_bind]
    rfl
  · simp [queueTlsMessage]

/-- Below the soft limit, every fragment is sealed, in order, and queued. -/
theorem sendFragments_queues :
    ∀ (ms : List BorrowedPlainMessage) (st : CommonState), (∀ m ∈ ms, ∀ seq, ∃ r, enc m seq = .ok r) →
      st.recordLayer.isEncrypting = true → st.recordLayer.writeSeq + ms.length ≤ seqSoftLimit →
      ∃ st' rs, sendFragments enc st ms = .ok st' ∧ Sealed enc st.recordLayer.writeSeq ms rs ∧
        Queues st st' rs
  | [], st, _, _, _ => ⟨st, [], rfl, .nil, .refl st⟩
  | m :: ms, st, hseal, hencr, hroom => by
    have hlt : st.recordLayer.writeSeq < seqSoftLimit := by
      rw [List.length_cons] at hroom
      omega
    obtain ⟨r, hr⟩ := hseal m List.mem_cons_self st.recordLayer.writeSeq
    obtain ⟨st₁, h₁, hq₁⟩ := sendSingleFragment_queues hencr hlt hr
    have hroom₁ : st₁.recordLayer.writeSeq + ms.length ≤ seqSoftLimit := by
      rw [hq₁.writeSeq, List.length_singleton]
      rw [List.length_cons] at hroom
      omega
    obtain ⟨st₂, rs, h₂, hsealed, hq₂⟩ := sendFragments_queues ms st₁
      (fun m' hm' => hseal m' (List.mem_cons_of_mem m hm')) (hq₁.isEncrypting.trans hencr) hroom₁
    rw [hq₁.writeSeq, List.length_singleton] at hsealed
    exact ⟨st₂, r :: rs, by simp [sendFragments, h₁, h₂], .cons hr hsealed, hq₁.trans hq₂⟩

/-- **The sender queues the sealed records of every fragment.**  Below the
soft limit, `send_msg(m, true)` of each message in turn seals every fragment
of every message with the next write sequence number and queues the records,
in order. -/
theorem sendMsgs_queues :
    ∀ (msgs : List Message) (st : CommonState),
      (∀ m ∈ fragmentsOf st.messageFragmenter msgs, ∀ seq, ∃ r, enc m seq = .ok r) →
      st.recordLayer.isEncrypting = true →
      st.recordLayer.writeSeq + (fragmentsOf st.messageFragmenter msgs).length ≤ seqSoftLimit →
      ∃ st' rs, sendMsgs enc st msgs = .ok st' ∧
        Sealed enc st.recordLayer.writeSeq (fragmentsOf st.messageFragmenter msgs) rs ∧ Queues st st' rs
  | [], st, _, _, _ => ⟨st, [], rfl, .nil, .refl st⟩
  | m :: msgs, st, hseal, hencr, hroom => by
    rw [fragmentsOf_cons] at hseal hroom
    rw [List.length_append] at hroom
    obtain ⟨st₁, rs₁, h₁, hs₁, hq₁⟩ := sendFragments_queues _ st
      (fun m' hm' => hseal m' (List.mem_append_left _ hm')) hencr (by omega)
    have hfrag := hq₁.fragmenter
    obtain ⟨st₂, rs₂, h₂, hs₂, hq₂⟩ := sendMsgs_queues msgs st₁
      (by rw [hfrag]; exact fun m' hm' => hseal m' (List.mem_append_right _ hm'))
      (hq₁.isEncrypting.trans hencr)
      (by rw [hfrag, hq₁.writeSeq, hs₁.length_eq]; omega)
    rw [hfrag, hq₁.writeSeq, hs₁.length_eq] at hs₂
    refine ⟨st₂, rs₁ ++ rs₂, ?_, by rw [fragmentsOf_cons]; exact hs₁.append hs₂, hq₁.trans hq₂⟩
    simp only [sendMsgs, sendMsgEncrypt, h₁, ok_bind, h₂]

end Sealing

/-! ## The peer opens the records -/

/-- A fragment TLS 1.3 protects: a named content type other than the zero
byte, and at most `MAX_FRAGMENT_LEN` bytes. -/
structure Protectable (m : PlainMessage) : Prop where
  canonical : m.typ.Canonical
  ne_zero : m.typ.getU8 ≠ 0
  length_le : m.payload.length ≤ maxFragmentLen

/-- A record protection the peer opens every fragment with: its decrypter
opens at TLS 1.3 what its encrypter seals, and a fragment within
`MAX_FRAGMENT_LEN` seals into a valid record, not a ChangeCipherSpec one,
no shorter than the fragment. -/
structure Protects (dec : MessageDecrypter) (enc : MessageEncrypter) : Prop where
  agrees : Agrees13 dec enc
  seals : ∀ (m : PlainMessage) (seq : Nat), m.payload.length ≤ maxFragmentLen →
    ∃ r, enc m seq = .ok r ∧ r.Valid ∧ r.typ ≠ .changeCipherSpec ∧ m.payload.length ≤ r.payload.length

variable {dec : MessageDecrypter} {enc : MessageEncrypter}

/-- A protectable fragment's record is valid, and opens at its sequence number. -/
theorem Protects.opens (hp : Protects dec enc) {m : PlainMessage} (hm : Protectable m) {seq : Nat}
    {r : OpaqueMessage} (h : enc m seq = .ok r) :
    r.Valid ∧ r.typ ≠ .changeCipherSpec ∧ m.payload.length ≤ r.payload.length ∧
      dec r seq = .ok { m with version := ProtocolVersion.tlsv1_3 } := by
  obtain ⟨r', h', hvalid, hccs, hlen⟩ := hp.seals m seq hm.length_le
  rw [h] at h'
  cases h'
  have hagree := hp.agrees m seq hm.canonical hm.ne_zero hm.length_le
  rw [h, ok_bind] at hagree
  exact ⟨hvalid, hccs, hlen, hagree⟩

/-- With keys active, below the soft limit, a record that decrypts is
returned and the read sequence number moves on. -/
theorem decryptIncoming_of_decrypt {rl : ReadRecordLayer} {r : OpaqueMessage} {p : PlainMessage}
    (hactive : rl.decryptState = .active) (hseq : rl.readSeq < seqSoftLimit)
    (h : dec r rl.readSeq = .ok p) :
    rl.decryptIncoming dec r = (.ok (some ⟨false, p⟩), { rl with readSeq := rl.readSeq + 1 }) := by
  simp [ReadRecordLayer.decryptIncoming, hactive, h, Nat.ne_of_lt hseq]

/-- **The peer opens the records in lockstep.**  From the read sequence
number the records were sealed from, below the soft limit, the peer opens
every record into its fragment, read at TLS 1.3; the records are valid. -/
theorem opens_sealed (hp : Protects dec enc) :
    ∀ {seq : Nat} {ms : List PlainMessage} {rs : List OpaqueMessage}, Sealed enc seq ms rs →
      (∀ m ∈ ms, Protectable m) → seq + ms.length ≤ seqSoftLimit →
      ∀ (rl : ReadRecordLayer), rl.decryptState = .active → rl.readSeq = seq →
        (∀ r ∈ rs, r.Valid) ∧ Opens dec rl rs (ms.map fun m => { m with version := ProtocolVersion.tlsv1_3 })
  | _, _, _, .nil, _, _, _, _, _ => ⟨fun _ h => (by cases h), .nil⟩
  | seq, m :: ms, r :: rs, .cons hm hrest, hprot, hroom, rl, hactive, hseq => by
    obtain ⟨hvalid, hccs, hlen, hdec⟩ := hp.opens (hprot m List.mem_cons_self) hm
    rw [List.length_cons] at hroom
    have hlt : rl.readSeq < seqSoftLimit := by
      rw [hseq]
      omega
    have hstep := decryptIncoming_of_decrypt hactive hlt (by rw [hseq]; exact hdec)
    obtain ⟨hvalid', hopens⟩ := opens_sealed hp hrest (fun m' hm' => hprot m' (List.mem_cons_of_mem m hm'))
      (by omega) { rl with readSeq := rl.readSeq + 1 } hactive (by simp [hseq])
    refine ⟨?_, .decrypt hccs hstep hlen hopens⟩
    rintro r' (_ | ⟨_, hr'⟩)
    · exact hvalid
    · exact hvalid' r' hr'

/-! ## The fragments frame into the messages -/

/-- What the peer's deframer returns for a message whose fragments it reads
at version `vers`: a handshake message whole, any other as its fragments. -/
def delivered (f : MessageFragmenter) (vers : Nat) (m : PlainMessage) : List PlainMessage :=
  if m.typ = .handshake then [⟨.handshake, 0, m.payload⟩] else f.fragmentSlice m.typ vers m.payload

/-- Records that are not handshake ones pass through the framing as they are. -/
theorem framed_records {rest out : List PlainMessage} (h : Framed [] rest out) {ps : List PlainMessage}
    (hps : ∀ p ∈ ps, p.typ ≠ .handshake) : Framed [] (ps ++ rest) (ps ++ out) := by
  induction ps with
  | nil => exact h
  | cons p ps ih =>
    have hp : p.typ ≠ .handshake := hps p List.mem_cons_self
    have hrest : ∀ q ∈ ps, q.typ ≠ .handshake := fun q hq => hps q (List.mem_cons_of_mem p hq)
    exact .record hp (ih hrest)

/-- Non-empty handshake fragments join the handshake bytes, in order. -/
theorem framed_fragments_append {rest out : List PlainMessage} {v : Nat} {cs : List (List UInt8)}
    (hcs : ∀ c ∈ cs, c ≠ []) {b : List UInt8} (h : Framed (b ++ cs.flatten) rest out) :
    Framed b (cs.map (fun c => ⟨.handshake, v, c⟩) ++ rest) out := by
  induction cs generalizing b with
  | nil => simpa using h
  | cons c cs ih =>
    have hc : c ≠ [] := hcs c List.mem_cons_self
    have hrest : ∀ c' ∈ cs, c' ≠ [] := fun c' hc' => hcs c' (List.mem_cons_of_mem c hc')
    rw [List.flatten_cons, ← List.append_assoc] at h
    exact .fragment rfl hc (ih hrest h)

/-- The fragments of one message frame into what is delivered of it. -/
theorem framed_message (f : MessageFragmenter) (vers : Nat) {m : PlainMessage}
    (hm : m.typ = .handshake → HandshakeMessage m.payload) {rest out : List PlainMessage}
    (h : Framed [] rest out) :
    Framed [] (f.fragmentSlice m.typ vers m.payload ++ rest) (delivered f vers m ++ out) := by
  unfold delivered
  split_ifs with htyp
  · -- the fragments join into the one message, which comes out whole
    have hjoin : Framed ([] ++ (chunks f.maxFrag f.pos m.payload).flatten) rest
        (⟨.handshake, 0, m.payload⟩ :: out) := by
      have hmsg := Framed.message (hm htyp) h
      rw [List.append_nil] at hmsg
      rwa [flatten_chunks, List.nil_append]
    rw [MessageFragmenter.fragmentSlice, htyp, List.singleton_append]
    exact framed_fragments_append (fun c hc => (mem_chunks hc).1) hjoin
  · exact framed_records h fun p hp => by rw [MessageFragmenter.typ_of_mem_fragmentSlice hp]; exact htyp

/-- **The fragments of messages frame into what is delivered**, message by
message, whatever version each is read at. -/
theorem framed_fragments (f : MessageFragmenter) (vers : PlainMessage → Nat) {msgs : List PlainMessage}
    (h : ∀ m ∈ msgs, m.typ = .handshake → HandshakeMessage m.payload) :
    Framed [] (msgs.flatMap fun m => f.fragmentSlice m.typ (vers m) m.payload)
      (msgs.flatMap fun m => delivered f (vers m) m) := by
  induction msgs with
  | nil => exact .nil
  | cons m msgs ih =>
    have hm : m.typ = .handshake → HandshakeMessage m.payload := h m List.mem_cons_self
    have hrest : ∀ m' ∈ msgs, m'.typ = .handshake → HandshakeMessage m'.payload :=
      fun m' hm' => h m' (List.mem_cons_of_mem m hm')
    rw [List.flatMap_cons, List.flatMap_cons]
    exact framed_message f (vers m) hm (ih hrest)

/-! ## From one endpoint to the other -/

/-- What the peer's deframer returns for the messages sent, read at TLS 1.3. -/
def deliveredAll (f : MessageFragmenter) (msgs : List Message) : List PlainMessage :=
  msgs.flatMap fun m => delivered f ProtocolVersion.tlsv1_3 (PlainMessage.ofMessage m)

/-- Every payload's type is a named one other than the zero byte. -/
theorem contentType_canonical (mp : MessagePayload) :
    mp.contentType.Canonical ∧ mp.contentType.getU8 ≠ 0 := by
  cases mp <;> dsimp only [MessagePayload.contentType] <;> decide

/-- Every fragment of a message, cut within `MAX_FRAGMENT_LEN`, is protectable. -/
theorem protectable_of_mem_fragmentsOf {f : MessageFragmenter} (hfrag : f.maxFrag ≤ maxFragmentLen)
    {msgs : List Message} {p : PlainMessage} (hp : p ∈ fragmentsOf f msgs) : Protectable p := by
  simp only [fragmentsOf, List.mem_flatMap, MessageFragmenter.fragmentMessage,
    MessageFragmenter.fragmentSlice, List.mem_map] at hp
  obtain ⟨m, -, c, hc, rfl⟩ := hp
  obtain ⟨hcanon, hne⟩ := contentType_canonical m.payload
  exact ⟨hcanon, hne, (mem_chunks hc).2.trans hfrag⟩

/-- The fragments read at TLS 1.3 are the fragments cut at TLS 1.3. -/
theorem map_fragmentsOf (f : MessageFragmenter) (msgs : List Message) :
    (fragmentsOf f msgs).map (fun m => { m with version := ProtocolVersion.tlsv1_3 }) =
      (msgs.map PlainMessage.ofMessage).flatMap fun m =>
        f.fragmentSlice m.typ ProtocolVersion.tlsv1_3 m.payload := by
  simp [fragmentsOf, List.map_flatMap, List.flatMap_map, MessageFragmenter.fragmentMessage,
    MessageFragmenter.fragmentSlice, Function.comp_def]

/-- Every message sent comes out of the peer's deframer, for any record
protection the peer opens every fragment with. -/
theorem sendMsgs_delivered_of_protects (hp : Protects dec enc) {st : CommonState}
    (hencr : st.recordLayer.isEncrypting = true) (hfrag : st.messageFragmenter.maxFrag ≤ maxFragmentLen)
    {msgs : List Message}
    (hmsgs : ∀ m ∈ msgs, m.payload.contentType = .handshake → HandshakeMessage m.payload.encode)
    (hroom : st.recordLayer.writeSeq + (fragmentsOf st.messageFragmenter msgs).length ≤ seqSoftLimit)
    {rl : ReadRecordLayer} (hactive : rl.decryptState = .active) (hseq : rl.readSeq = st.recordLayer.writeSeq) :
    ∃ st' wire, sendMsgs enc st msgs = .ok st' ∧ st'.sendableTls.bytes = st.sendableTls.bytes ++ wire ∧
      ∀ chunks : List (List UInt8), chunks.flatten = wire →
        ∃ ms s d rl', MessageDeframer.default.receiveAll dec chunks rl = .ok (ms, s, d, rl') ∧
          ((s = none ∧ ms.map Deframed.contents = deliveredAll st.messageFragmenter msgs) ∨
            (s = some (.readFailed "message buffer full") ∧
              ms.map Deframed.contents <+: deliveredAll st.messageFragmenter msgs)) := by
  have hprot : ∀ m ∈ fragmentsOf st.messageFragmenter msgs, Protectable m :=
    fun _ hm => protectable_of_mem_fragmentsOf hfrag hm
  obtain ⟨st', rs, hsend, hsealed, hq⟩ := sendMsgs_queues msgs st
    (fun m hm seq => (hp.seals m seq (hprot m hm).length_le).imp fun _ h => h.1) hencr hroom
  refine ⟨st', encodeRecords rs, hsend, hq.bytes, fun chunks hchunks => ?_⟩
  obtain ⟨hvalid, hopens⟩ := opens_sealed hp hsealed hprot hroom rl hactive hseq
  have hframed : Framed [] ((fragmentsOf st.messageFragmenter msgs).map
      fun m => { m with version := ProtocolVersion.tlsv1_3 }) (deliveredAll st.messageFragmenter msgs) := by
    rw [map_fragmentsOf, deliveredAll, ← List.flatMap_map]
    refine framed_fragments st.messageFragmenter (fun _ => ProtocolVersion.tlsv1_3) fun p hp' htyp => ?_
    obtain ⟨m, hm, rfl⟩ := List.mem_map.mp hp'
    rw [ofMessage_eq] at htyp ⊢
    exact hmsgs m hm htyp
  have h : (⟨false, [], none⟩ : Queue).Midway dec rl chunks.flatten (deliveredAll st.messageFragmenter msgs) :=
    ⟨rfl, fun _ h => (by cases h), rs, _, hvalid, by rw [List.nil_append, hchunks], hopens, hframed⟩
  exact MessageDeframer.receiveAll_midway chunks MessageDeframer.default_refines h
    (Queue.idle_of_pending_nil rfl fun _ h => (by cases h))

/-! ## TLS 1.3 -/

/-- A TLS 1.3 record goes out as TLS 1.2 application data: the fragment, its
type byte and the tag. -/
theorem tls13_encrypt_eq (e : Tls13MessageEncrypter) (m : PlainMessage) (seq : Nat) :
    ∃ payload, e.encrypt m seq = .ok ⟨.applicationData, Msgs.Handshake.ProtocolVersion.tlsv1_2, payload⟩ ∧
      payload.length = m.payload.length + 1 + e.encKey.algorithm.tagLen := by
  refine ⟨_, rfl, ?_⟩
  simp only [LessSafeKey.length_sealInPlaceAppendTag, List.length_append, List.length_singleton]

/-- The TLS 1.3 encrypter and decrypter of one traffic secret protect every
fragment, when the type byte and the tag fit the 2 KiB that `MAX_PAYLOAD`
allows beyond a fragment. -/
theorem tls13_protects (hkdf : Kdf) (alg : Algorithm) (secret : List UInt8) (htag : 1 + alg.tagLen < 2048) :
    Protects (deriveDecrypter hkdf alg secret).decrypt (setEncrypter hkdf alg secret).encrypt where
  agrees := deriveDecrypter_agrees hkdf alg secret
  seals m seq hm := by
    obtain ⟨payload, hr, hlen⟩ := tls13_encrypt_eq (setEncrypter hkdf alg secret) m seq
    change payload.length = m.payload.length + 1 + alg.tagLen at hlen
    have hmax : ¬(OpaqueMessage.maxPayload ≤ payload.length) := by
      unfold OpaqueMessage.maxPayload
      unfold maxFragmentLen at hm
      omega
    have hheader : OpaqueMessage.checkHeader .applicationData Msgs.Handshake.ProtocolVersion.tlsv1_2
        payload.length = .ok () := by
      rw [OpaqueMessage.checkHeader, if_neg (by simp), if_neg hmax, if_neg (by decide), if_neg (by decide)]
    refine ⟨_, hr, ⟨show ContentType.applicationData.Canonical by decide,
      show Msgs.Handshake.ProtocolVersion.tlsv1_2 < 2 ^ 16 by decide, hheader⟩, (fun h => by cases h), ?_⟩
    show m.payload.length ≤ payload.length
    omega

/-- **The peer's deframer returns every message sent.**  An endpoint sends
messages with `send_msg(m, true)` under the TLS 1.3 encrypter of a traffic
secret, and the peer reads the bytes queued, in any chunks, into a fresh
deframer whose decrypter is that secret's.  When the write and read sequence
numbers start equal, the fragments stay below the soft limit, every
handshake message is a whole one within `MAX_HANDSHAKE_SIZE`, and type byte
and tag fit the record overhead, the sender queues the records without
panic, and the peer never panics and no `pop` fails: it returns every
message, in order, a handshake message whole and any other as its fragments
read at TLS 1.3, or a read fails because the buffer is full, after a prefix
of them. -/
theorem sendMsgs_delivered (hkdf : Kdf) (alg : Algorithm) (secret : List UInt8) (htag : 1 + alg.tagLen < 2048)
    {st : CommonState} (hencr : st.recordLayer.isEncrypting = true)
    (hfrag : st.messageFragmenter.maxFrag ≤ maxFragmentLen) {msgs : List Message}
    (hmsgs : ∀ m ∈ msgs, m.payload.contentType = .handshake → HandshakeMessage m.payload.encode)
    (hroom : st.recordLayer.writeSeq + (fragmentsOf st.messageFragmenter msgs).length ≤ seqSoftLimit)
    {rl : ReadRecordLayer} (hactive : rl.decryptState = .active) (hseq : rl.readSeq = st.recordLayer.writeSeq) :
    ∃ st' wire, sendMsgs (setEncrypter hkdf alg secret).encrypt st msgs = .ok st' ∧
      st'.sendableTls.bytes = st.sendableTls.bytes ++ wire ∧
      ∀ chunks : List (List UInt8), chunks.flatten = wire →
        ∃ ms s d rl', MessageDeframer.default.receiveAll (deriveDecrypter hkdf alg secret).decrypt chunks rl =
            .ok (ms, s, d, rl') ∧
          ((s = none ∧ ms.map Deframed.contents = deliveredAll st.messageFragmenter msgs) ∨
            (s = some (.readFailed "message buffer full") ∧
              ms.map Deframed.contents <+: deliveredAll st.messageFragmenter msgs)) :=
  sendMsgs_delivered_of_protects (tls13_protects hkdf alg secret htag) hencr hfrag hmsgs hroom hactive hseq

/-- An endpoint after the handshake: encrypting from sequence number 0, with
the default fragmenter. -/
def trafficState : CommonState := { CommonState.new with recordLayer := ⟨0, true⟩ }

/-- A peer that decrypts from sequence number 0. -/
def trafficReader : ReadRecordLayer := ⟨0, .active, none⟩

/-- A Finished message, then a `close_notify` alert. -/
def finishedThenClose : List Message :=
  [⟨ProtocolVersion.tlsv1_3, .mkHandshake ⟨HandshakeType.finished, .finished [1, 2, 3]⟩⟩,
    Message.buildAlert .warning .closeNotify]

/-- A Finished message and a `close_notify` alert, sealed under the null
AEAD, come out of the peer's deframer. -/
theorem finished_then_close_delivered :
    (1 + nullAead.tagLen < 2048 ∧ trafficState.recordLayer.isEncrypting = true ∧
      trafficState.messageFragmenter.maxFrag ≤ maxFragmentLen ∧
      (∀ m ∈ finishedThenClose, m.payload.contentType = .handshake → HandshakeMessage m.payload.encode) ∧
      trafficState.recordLayer.writeSeq + (fragmentsOf trafficState.messageFragmenter finishedThenClose).length ≤
        seqSoftLimit ∧
      trafficReader.decryptState = .active ∧ trafficReader.readSeq = trafficState.recordLayer.writeSeq) ∧
    ∃ st' wire, sendMsgs (setEncrypter zeroKdf nullAead []).encrypt trafficState finishedThenClose = .ok st' ∧
      st'.sendableTls.bytes = trafficState.sendableTls.bytes ++ wire ∧
      ∀ chunks : List (List UInt8), chunks.flatten = wire →
        ∃ ms s d rl', MessageDeframer.default.receiveAll (deriveDecrypter zeroKdf nullAead []).decrypt chunks
            trafficReader = .ok (ms, s, d, rl') ∧
          ((s = none ∧ ms.map Deframed.contents = deliveredAll trafficState.messageFragmenter finishedThenClose) ∨
            (s = some (.readFailed "message buffer full") ∧
              ms.map Deframed.contents <+: deliveredAll trafficState.messageFragmenter finishedThenClose)) := by
  have htag : 1 + nullAead.tagLen < 2048 := by decide
  have hfrag : trafficState.messageFragmenter.maxFrag ≤ maxFragmentLen := by decide
  have hmsgs : ∀ m ∈ finishedThenClose, m.payload.contentType = .handshake →
      HandshakeMessage m.payload.encode := by
    intro m hm htyp
    simp only [finishedThenClose, List.mem_cons, List.not_mem_nil, or_false] at hm
    rcases hm with rfl | rfl
    · exact ⟨0x14, [1, 2, 3], by decide, by decide⟩
    · cases htyp
  have hroom : trafficState.recordLayer.writeSeq +
      (fragmentsOf trafficState.messageFragmenter finishedThenClose).length ≤ seqSoftLimit := by
    decide
  exact ⟨⟨htag, rfl, hfrag, hmsgs, hroom, rfl, rfl⟩,
    sendMsgs_delivered zeroKdf nullAead [] htag rfl hfrag hmsgs hroom rfl rfl⟩

end TcplsBasics.Ports.Conn.Lockstep
