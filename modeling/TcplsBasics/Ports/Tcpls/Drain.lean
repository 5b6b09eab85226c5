import TcplsBasics.Ports.Tcpls.Record

/-!
# The send loop drains every stream (`tcpls/mod.rs`, `tcpls-client.rs`)

A sender calls `create_record` until `has_data()` is false, as the example
client's file-sending loop does.  The measure is the number of bytes the
streams have still to frame, `∑ₛ (snd_data.len() - snd_offset)` (`unsent`).

The first stream with data gets the room `MAX_RECORD_SIZE - ctrl_buf.len()`
(streams without data leave the room as it was), and `create_stream_frame`
moves at least one byte whenever the room exceeds a frame header.  So a call
with `ctrl_buf.len() <= MAX_RECORD_SIZE - STREAM_HEADER_SIZE - 1` and data
left frames a byte (`createRecord_unsent_lt`).  Any other call frames nothing
and then has room for all of `ctrl_buf`, which it clears
(`createRecord_clears`); `create_record` never adds to `ctrl_buf`, so it stays
empty.  A run therefore needs at most `unsent + 1` calls.

## Main results

* `createRecordLoop_unsent`: the loop of `create_record` never adds to
  `unsent`, and lowers it when the room fits a frame and some stream has data.
* `createRecords_drains`: from a small `ctrl_buf`, at most `unsent` calls.
* `sendLoop_terminates`: from every reachable state, at most `unsent + 1`
  calls, with the two facts each call rests on.
* `reach_delivers_in_order`: between a sender and a receiver, every record is
  taken, the receiver holds what the sender has framed, and the sender
  drains (`Reach.drain`), the receiver then holding every byte queued.
-/

namespace TcplsBasics.Ports.Tcpls

open TcplsBasics.Verified.Rust
open TcplsBasics.Verified.Bytes

namespace TcplsStream

/-- The bytes of the stream not framed yet. -/
def unsent (st : TcplsStream) : Nat := st.sndData.length - st.sndOffset

/-- The bytes of the streams `sts` not framed yet. -/
def unsentOf (sts : List TcplsStream) : Nat := (sts.map unsent).sum

@[simp] theorem unsentOf_nil : unsentOf [] = 0 := rfl

@[simp] theorem unsentOf_cons (st : TcplsStream) (sts : List TcplsStream) :
    unsentOf (st :: sts) = st.unsent + unsentOf sts := rfl

theorem hasDataToSend_iff (st : TcplsStream) : st.hasDataToSend = true ↔ 0 < st.unsent := by
  simp only [hasDataToSend, unsent, Bool.and_eq_true, Bool.not_eq_true', List.isEmpty_eq_false_iff,
    decide_eq_true_eq]
  constructor
  · rintro ⟨-, h⟩
    omega
  · intro h
    exact ⟨List.ne_nil_of_length_pos (by omega), by omega⟩

theorem unsent_advance (st : TcplsStream) (n : Nat) : (st.advance n).unsent = st.unsent - n := by
  simp only [unsent, advance]
  omega

/-- With room for more than a header, a stream with data frames at least one byte. -/
theorem framedIn_pos {st : TcplsStream} {space : Nat} (hdata : st.hasDataToSend = true)
    (hroom : streamHeaderSize < space) : 0 < st.framedIn space := by
  have hunsent := (hasDataToSend_iff st).mp hdata
  rw [framedIn, if_pos (by simp [hdata, hroom]), frameDataLength]
  simp only [unsent] at hunsent
  omega

/-- A stream without data, or without room, frames nothing. -/
theorem framedIn_eq_zero {st : TcplsStream} {space : Nat}
    (h : (st.hasDataToSend && decide (space > streamHeaderSize)) = false) : st.framedIn space = 0 := by
  rw [framedIn, if_neg (by simp [h])]

end TcplsStream

namespace TcplsConnection

open TcplsStream

/-- The bytes the connection's streams have still to frame. -/
def unsent (c : TcplsConnection) : Nat := unsentOf c.streams.values

/-! ## The loop of `create_record` -/

/-- The room a turn of the loop leaves the next stream fits the grown record. -/
theorem space_after_step {st : TcplsStream} {record : Bytes} {space : Nat}
    (hspace : record.length + space ≤ maxRecordSize)
    (hflen : (encodeAll (st.chunkFrames (st.framedIn space))).length ≤ space) :
    (record ++ encodeAll (st.chunkFrames (st.framedIn space))).length +
      (if st.framedIn space = 0 then space
        else maxRecordSize - (record ++ encodeAll (st.chunkFrames (st.framedIn space))).length)
      ≤ maxRecordSize := by
  by_cases h0 : st.framedIn space = 0
  · rw [if_pos h0, h0, chunkFrames_zero, encodeAll_nil, List.append_nil]
    exact hspace
  · rw [if_neg h0, List.length_append]
    omega

/-- **What the loop does to `unsent`.**  It keeps the number of streams and
never adds a byte to frame; with room for more than a header and a stream with
data, it frames at least one, in the first stream that has data. -/
theorem createRecordLoop_unsent (sts : List TcplsStream) (hsts : ∀ st ∈ sts, st.SndInv)
    (record : Bytes) (space : Nat) (hspace : record.length + space ≤ maxRecordSize) (last : UInt32)
    {vs : List TcplsStream} {rec : Bytes} {last' : UInt32}
    (h : createRecordLoop record space last sts = .ok (vs, rec, last')) :
    vs.length = sts.length ∧ unsentOf vs ≤ unsentOf sts ∧
      (streamHeaderSize < space → sts.any hasDataToSend = true → unsentOf vs < unsentOf sts) := by
  induction sts generalizing record space last vs rec last' with
  | nil =>
      simp only [createRecordLoop, Except.ok.injEq, Prod.mk.injEq] at h
      obtain ⟨rfl, -, -⟩ := h
      simp
  | cons st rest ih =>
      have hst : st.SndInv := hsts st List.mem_cons_self
      obtain ⟨hn, hflen, hstep⟩ := createRecordLoop_step st hst record hspace last rest
      rw [hstep] at h
      obtain ⟨⟨vs', rec', last''⟩, hrest, h⟩ := bind_eq_ok.mp h
      obtain ⟨rfl, -⟩ := Prod.mk.inj (Except.ok.inj h)
      obtain ⟨hlen, hle, hlt⟩ :=
        ih (fun st' h' => hsts st' (List.mem_cons_of_mem _ h')) _ _ (space_after_step hspace hflen) _ hrest
      have hframed : st.framedIn space ≤ st.unsent := by
        simp only [TcplsStream.unsent]
        omega
      refine ⟨by simp [hlen], ?_, ?_⟩
      · simp only [unsentOf_cons, unsent_advance]
        omega
      · intro hroom hany
        simp only [unsentOf_cons, unsent_advance]
        by_cases hdata : st.hasDataToSend = true
        · -- the first stream with data frames a byte
          have hpos := framedIn_pos hdata hroom
          omega
        · -- a stream without data leaves the room, and the data, to the rest
          have h0 : st.framedIn space = 0 := framedIn_eq_zero (by simp [Bool.eq_false_iff.mpr hdata])
          have hrest_any : rest.any hasDataToSend = true := by
            simpa [Bool.eq_false_iff.mpr hdata] using hany
          have := hlt (by rw [if_pos h0]; exact hroom) hrest_any
          omega

/-- A loop in which no stream frames leaves the streams and the record as they were. -/
theorem createRecordLoop_idle (sts : List TcplsStream) (record : Bytes) (space : Nat) (last : UInt32)
    (h : ∀ st ∈ sts, (st.hasDataToSend && decide (space > streamHeaderSize)) = false) :
    createRecordLoop record space last sts = .ok (sts, record, last) := by
  induction sts generalizing last with
  | nil => rfl
  | cons st rest ih =>
      rw [createRecordLoop, if_neg (by simp [h st List.mem_cons_self]),
        ih last (fun st' h' => h st' (List.mem_cons_of_mem _ h'))]
      rfl

/-! ## One call of `create_record` -/

/-- **What `create_record` returns**, as far as the streams and `ctrl_buf` go:
the loop's streams written back, and `ctrl_buf` appended and cleared when the
loop's record leaves strictly more room than it takes, or left. -/
theorem createRecord_eq_ok {c c' : TcplsConnection} {r : Except Error Bytes}
    (hctrl : c.ctrlBuf.length < maxRecordSize) (h : c.createRecord = .ok (c', r)) :
    ∃ vs rec last, createRecordLoop [] (maxRecordSize - c.ctrlBuf.length) c.lastStreamProcessed
        c.streams.values = .ok (vs, rec, last) ∧ c'.streams = c.streams.setValues vs ∧
      (rec.length < maxRecordSize - c.ctrlBuf.length ∧ c'.ctrlBuf = [] ∨
        maxRecordSize - c.ctrlBuf.length ≤ rec.length ∧ c'.ctrlBuf = c.ctrlBuf) := by
  unfold createRecord at h
  rw [checkedSub_eq_ok (Nat.le_of_lt hctrl), ok_bind] at h
  obtain ⟨⟨vs, rec, last⟩, hloop, h⟩ := bind_eq_ok.mp h
  simp only at h
  rw [checkedSub_eq_ok (Nat.le_of_lt hctrl), ok_bind] at h
  split at h
  · -- the control frames go in
    rename_i hroom
    obtain ⟨rec', -, h⟩ := bind_eq_ok.mp h
    simp only [pure_bind] at h
    obtain ⟨rfl, -⟩ := Prod.mk.inj (Except.ok.inj h)
    exact ⟨vs, rec, last, hloop, rfl, .inl ⟨hroom, rfl⟩⟩
  · rename_i hfull
    simp only [pure_bind] at h
    obtain ⟨rfl, -⟩ := Prod.mk.inj (Except.ok.inj h)
    exact ⟨vs, rec, last, hloop, rfl, .inr ⟨Nat.le_of_not_lt hfull, rfl⟩⟩

variable {c c' : TcplsConnection} {r : Except Error Bytes}

/-- From every state of the invariant, `create_record` returns. -/
theorem SendState.createRecord_ok (hc : c.SendState) : ∃ c' r, c.createRecord = .ok (c', r) := by
  obtain ⟨adv, last, -, -, -, hcreate⟩ := createRecord_eq c hc
  exact ⟨_, _, hcreate⟩

/-- `create_record` keeps each stream's data and moves its offset on. -/
theorem createRecord_advances (hc : c.SendState) (h : c.createRecord = .ok (c', r)) {id : UInt32}
    {st : TcplsStream} (hst : c.streams.get? id = some st) : ∃ n, c'.streams.get? id = some (st.advance n) := by
  obtain ⟨adv, last, -, -, -, hcreate⟩ := createRecord_eq c hc
  rw [hcreate] at h
  cases h
  refine ⟨adv id, ?_⟩
  rw [(cutRecord_cases c adv last).1, HashMap.get?_setValues_map, hst]
  rfl

theorem SendState.values (hc : c.SendState) : ∀ st ∈ c.streams.values, st.SndInv := by
  intro st hst
  obtain ⟨e, he, rfl⟩ := List.mem_map.mp hst
  exact hc.entries e he

/-- The streams after a call have as many bytes left as the loop left them. -/
theorem unsent_of_createRecord (hc : c.SendState) (h : c.createRecord = .ok (c', r)) :
    ∃ vs rec last, createRecordLoop [] (maxRecordSize - c.ctrlBuf.length) c.lastStreamProcessed
        c.streams.values = .ok (vs, rec, last) ∧ c'.unsent = unsentOf vs ∧
      (rec.length < maxRecordSize - c.ctrlBuf.length ∧ c'.ctrlBuf = [] ∨
        maxRecordSize - c.ctrlBuf.length ≤ rec.length ∧ c'.ctrlBuf = c.ctrlBuf) := by
  obtain ⟨vs, rec, last, hloop, hstreams, hctrl⟩ := createRecord_eq_ok hc.ctrlBuf_lt h
  have hlen : vs.length = c.streams.values.length :=
    (createRecordLoop_unsent _ hc.values [] _ (by simp only [List.length_nil]; omega) _ hloop).1
  refine ⟨vs, rec, last, hloop, ?_, hctrl⟩
  rw [unsent, hstreams, HashMap.values_setValues _ (by simpa [HashMap.values] using hlen)]

/-- `create_record` clears `ctrl_buf` or leaves it. -/
theorem createRecord_ctrlBuf (hc : c.SendState) (h : c.createRecord = .ok (c', r)) :
    c'.ctrlBuf = [] ∨ c'.ctrlBuf = c.ctrlBuf := by
  obtain ⟨_, _, _, _, _, hctrl⟩ := unsent_of_createRecord hc h
  rcases hctrl with ⟨-, hnil⟩ | ⟨-, hsame⟩
  · exact .inl hnil
  · exact .inr hsame

/-- A call never adds a byte to frame. -/
theorem createRecord_unsent_le (hc : c.SendState) (h : c.createRecord = .ok (c', r)) :
    c'.unsent ≤ c.unsent := by
  obtain ⟨vs, rec, last, hloop, hunsent, -⟩ := unsent_of_createRecord hc h
  rw [hunsent]
  exact (createRecordLoop_unsent _ hc.values [] _ (by simp only [List.length_nil]; omega) _ hloop).2.1

/-- A call with room for a frame after `ctrl_buf`, and data left, frames at
least one byte. -/
theorem createRecord_unsent_lt (hc : c.SendState)
    (hsmall : c.ctrlBuf.length ≤ maxRecordSize - streamHeaderSize - 1) (hdata : c.hasData = true)
    (h : c.createRecord = .ok (c', r)) : c'.unsent < c.unsent := by
  obtain ⟨vs, rec, last, hloop, hunsent, -⟩ := unsent_of_createRecord hc h
  have hroom : streamHeaderSize < maxRecordSize - c.ctrlBuf.length := by
    have h15 : streamHeaderSize = 15 := rfl
    have hmax : maxRecordSize = 16384 := rfl
    omega
  rw [hunsent]
  exact (createRecordLoop_unsent _ hc.values [] _ (by simp only [List.length_nil]; omega) _ hloop).2.2
    hroom (by rwa [← hasData_eq_any])

/-- Any other call frames nothing, so the empty record leaves room for all of
`ctrl_buf`, which it clears. -/
theorem createRecord_clears (hc : c.SendState)
    (hother : ¬ (c.ctrlBuf.length ≤ maxRecordSize - streamHeaderSize - 1 ∧ c.hasData = true))
    (h : c.createRecord = .ok (c', r)) : c'.ctrlBuf = [] := by
  obtain ⟨vs, rec, last, hloop, -, hctrl⟩ := unsent_of_createRecord hc h
  have h15 : streamHeaderSize = 15 := rfl
  have hmax : maxRecordSize = 16384 := rfl
  have hidle : ∀ st ∈ c.streams.values,
      (st.hasDataToSend && decide (maxRecordSize - c.ctrlBuf.length > streamHeaderSize)) = false := by
    intro st hst
    by_cases hsmall : c.ctrlBuf.length ≤ maxRecordSize - streamHeaderSize - 1
    · have hnodata : c.hasData = false := by simpa [hsmall] using hother
      simp [hasDataToSend_of_hasData hnodata hst]
    · have hfull : ¬ maxRecordSize - c.ctrlBuf.length > streamHeaderSize := by omega
      simp [hfull]
  rw [createRecordLoop_idle _ _ _ _ hidle] at hloop
  simp only [Except.ok.injEq, Prod.mk.injEq] at hloop
  obtain ⟨-, rfl, -⟩ := hloop
  rcases hctrl with ⟨-, hnil⟩ | ⟨hfull, -⟩
  · exact hnil
  · have := hc.ctrlBuf_lt
    rw [List.length_nil] at hfull
    omega

/-! ## Runs of `create_record` -/

/-- `create_record` called `n` times in a row, nothing else in between: the
state after the last call. -/
def createRecords : Nat → TcplsConnection → Except Panic TcplsConnection
  | 0, c => .ok c
  | n + 1, c => do
      let (c, _) ← c.createRecord
      createRecords n c

theorem createRecords_succ {n : Nat} (h : c.createRecord = .ok (c', r)) :
    createRecords (n + 1) c = createRecords n c' := by
  simp [createRecords, h]

/-- **From a small `ctrl_buf`, at most `unsent` calls.**  By induction on
`unsent`, which each call with data left lowers; `ctrl_buf` stays small, as
calls only clear it. -/
theorem createRecords_drains (k : Nat) :
    ∀ {c : TcplsConnection}, c.Reachable → c.unsent = k →
      c.ctrlBuf.length ≤ maxRecordSize - streamHeaderSize - 1 →
      ∃ n ≤ k, ∃ c', createRecords n c = .ok c' ∧ c'.hasData = false := by
  induction k using Nat.strongRecOn with
  | _ k ih =>
      intro c hc hk hsmall
      cases hdata : c.hasData with
      | false => exact ⟨0, Nat.zero_le _, c, rfl, hdata⟩
      | true =>
          have hs := hc.sendState
          obtain ⟨c₁, r, hcreate⟩ := hs.createRecord_ok
          have hlt := createRecord_unsent_lt hs hsmall hdata hcreate
          have hsmall₁ : c₁.ctrlBuf.length ≤ maxRecordSize - streamHeaderSize - 1 := by
            rcases createRecord_ctrlBuf hs hcreate with hnil | hsame
            · rw [hnil, List.length_nil]
              exact Nat.zero_le _
            · rwa [hsame]
          obtain ⟨n, hn, c', hrun, hdone⟩ :=
            ih c₁.unsent (hk ▸ hlt) (.createRecord _ hc hcreate) rfl hsmall₁
          exact ⟨n + 1, by omega, c', by rw [createRecords_succ hcreate]; exact hrun, hdone⟩

theorem sendLoop_terminates {c : TcplsConnection} (hc : c.Reachable) :
    (∃ n ≤ c.unsent + 1, ∃ c', createRecords n c = .ok c' ∧ c'.hasData = false) ∧
    ∀ c' r, c.createRecord = .ok (c', r) →
      (c.ctrlBuf.length ≤ maxRecordSize - streamHeaderSize - 1 → c.hasData = true →
        c'.unsent < c.unsent) ∧
      (¬ (c.ctrlBuf.length ≤ maxRecordSize - streamHeaderSize - 1 ∧ c.hasData = true) →
        c'.ctrlBuf = []) ∧
      (c.ctrlBuf = [] → c'.ctrlBuf = []) := by
  have hs := hc.sendState
  refine ⟨?_, fun c' r h => ⟨fun hsmall hdata => createRecord_unsent_lt hs hsmall hdata h,
    fun hother => createRecord_clears hs hother h, fun hnil => ?_⟩⟩
  · by_cases hsmall : c.ctrlBuf.length ≤ maxRecordSize - streamHeaderSize - 1
    · obtain ⟨n, hn, c', hrun, hdone⟩ := createRecords_drains c.unsent hc rfl hsmall
      exact ⟨n, by omega, c', hrun, hdone⟩
    · cases hdata : c.hasData with
      | false => exact ⟨0, Nat.zero_le _, c, rfl, hdata⟩
      | true =>
          -- the first call only clears `ctrl_buf`; the rest frame a byte each
          obtain ⟨c₁, r, hcreate⟩ := hs.createRecord_ok
          have hnil₁ := createRecord_clears hs (fun h' => hsmall h'.1) hcreate
          have hle := createRecord_unsent_le hs hcreate
          obtain ⟨n, hn, c', hrun, hdone⟩ :=
            createRecords_drains c₁.unsent (.createRecord _ hc hcreate) rfl
              (by rw [hnil₁, List.length_nil]; exact Nat.zero_le _)
          exact ⟨n + 1, by omega, c', by rw [createRecords_succ hcreate]; exact hrun, hdone⟩
  · rcases createRecord_ctrlBuf hs h with hnil' | hsame
    · exact hnil'
    · rw [hsame, hnil]

/-- A client with three bytes queued on stream `0`. -/
theorem three_queued_bytes_drained :
    ∃ c : TcplsConnection, c.Reachable ∧ c.unsent = 3 ∧
      ((∃ n ≤ c.unsent + 1, ∃ c', createRecords n c = .ok c' ∧ c'.hasData = false) ∧
      ∀ c' r, c.createRecord = .ok (c', r) →
        (c.ctrlBuf.length ≤ maxRecordSize - streamHeaderSize - 1 → c.hasData = true →
          c'.unsent < c.unsent) ∧
        (¬ (c.ctrlBuf.length ≤ maxRecordSize - streamHeaderSize - 1 ∧ c.hasData = true) →
          c'.ctrlBuf = []) ∧
        (c.ctrlBuf = [] → c'.ctrlBuf = [])) := by
  obtain ⟨c₀, hnew⟩ : ∃ c₀, TcplsConnection.new 0 .client (.error ()) = .ok c₀ := ⟨_, rfl⟩
  obtain ⟨-, hstreams₀⟩ := new_eq_ok hnew
  have hentries₀ : c₀.streams.entries = [(0, (TcplsStreamBuilder.new 0).build)] := by
    cases hnew
    rfl
  have hset := @addDataToStream_of_get c₀ 0 _ [1, 2, 3] (by rw [hstreams₀ 0, if_pos rfl])
    (by simp [TcplsStreamBuilder.build, TcplsStreamBuilder.new, isizeMax])
  have hreach := Reachable.setData _ (.new 0 .client (.error ()) hnew) hset
  have hkey : (0 : UInt32) ∈ c₀.streams.keys := by simp [HashMap.keys, hentries₀]
  have hunsent : ({ c₀ with streams := c₀.streams.insert 0 { (TcplsStreamBuilder.new 0).build with
      sndData := (TcplsStreamBuilder.new 0).build.sndData ++ [1, 2, 3] } } : TcplsConnection).unsent = 3 := by
    simp [unsent, HashMap.values, HashMap.insert, hkey, hentries₀, TcplsStream.unsent,
      TcplsStreamBuilder.build, TcplsStreamBuilder.new]
  exact ⟨_, hreach, hunsent, sendLoop_terminates hreach⟩

/-! ## Delivery until the sender is drained -/

section Delivery

variable {S R : TcplsConnection}

theorem DeliveryInv.sendState (hinv : DeliveryInv S R) : S.SendState :=
  ⟨by rw [hinv.ctrlBuf_eq]; decide, fun id st h => (hinv.streams_ok id st h).2⟩

/-- From every state of a run the next record is cut and taken, the run goes
on, and while data is left the record frames at least one more byte. -/
theorem Reach.next (h : Reach S R) :
    ∃ S' record R', S.createRecord = .ok (S', .ok record) ∧ R.processRecord record = .ok R' ∧ Reach S' R' ∧
      (S.hasData = true → S'.unsent < S.unsent) := by
  have hinv := reach_deliveryInv h
  obtain ⟨S', record, R', hcreate, hprocess, -⟩ := hinv.createRecord
  refine ⟨S', record, R', hcreate, hprocess, .createRecord record h hcreate hprocess, fun hdata => ?_⟩
  exact createRecord_unsent_lt hinv.sendState (by rw [hinv.ctrlBuf_eq]; decide) hdata hcreate

/-- **The sender drains.**  By induction on `unsent`: records cut and taken one
after another from any state of a run reach a state where `has_data` is
false, every stream having kept its data and moved its offset on. -/
theorem Reach.drain (k : Nat) :
    ∀ {S R : TcplsConnection}, Reach S R → S.unsent = k →
      ∃ S' R', Reach S' R' ∧ S'.hasData = false ∧
        ∀ id st, S.streams.get? id = some st → ∃ n, S'.streams.get? id = some (st.advance n) := by
  induction k using Nat.strongRecOn with
  | _ k ih =>
      intro S R h hk
      cases hdata : S.hasData with
      | false => exact ⟨S, R, h, hdata, fun id st hst => ⟨0, hst⟩⟩
      | true =>
          obtain ⟨S₁, record, R₁, hcreate, -, h₁, hlt⟩ := h.next
          obtain ⟨S', R', h', hdone, hadv'⟩ := ih S₁.unsent (hk ▸ hlt hdata) h₁ rfl
          refine ⟨S', R', h', hdone, fun id st hst => ?_⟩
          obtain ⟨n₁, hst₁⟩ := createRecord_advances (reach_deliveryInv h).sendState hcreate hst
          obtain ⟨n₂, hst'⟩ := hadv' id _ hst₁
          exact ⟨n₁ + n₂, by rw [hst', advance_advance]⟩

/-- **In-order delivery.**  Along every run, the next record is cut and taken
without a panic, and frames at least one more byte while data is left; the
receiver holds, on every stream on which the sender has framed bytes,
exactly those bytes, and once `has_data` is false every byte queued on every
non-empty stream; and records cut and taken from there reach such a state,
where the receiver holds every byte the sender had queued. -/
theorem reach_delivers_in_order (h : Reach S R) :
    (∃ S' record R', S.createRecord = .ok (S', .ok record) ∧ R.processRecord record = .ok R' ∧
      Reach S' R' ∧ (S.hasData = true → S'.unsent < S.unsent)) ∧
    (∀ id st, S.streams.get? id = some st → 0 < st.sndOffset →
      R.getStreamData id = .ok (st.sndData.take st.sndOffset)) ∧
    (S.hasData = false → ∀ id st, S.streams.get? id = some st → st.sndData ≠ [] →
      R.getStreamData id = .ok st.sndData) ∧
    (∃ S' R', Reach S' R' ∧ S'.hasData = false ∧
      ∀ id st, S.streams.get? id = some st → st.sndData ≠ [] → R'.getStreamData id = .ok st.sndData) := by
  have hinv := reach_deliveryInv h
  obtain ⟨S', R', h', hdone, hadv⟩ := Reach.drain S.unsent h rfl
  refine ⟨h.next, fun id st hst hpos => hinv.getStreamData_sent hst hpos,
    fun hno id st hst hne => hinv.getStreamData_all hno hst hne, S', R', h', hdone, fun id st hst hne => ?_⟩
  obtain ⟨n, hst'⟩ := hadv id st hst
  have hall := (reach_deliveryInv h').getStreamData_all hdone hst' hne
  exact hall

/-- Three bytes queued on stream `0` of a fresh sender, to a fresh receiver. -/
theorem three_bytes_delivered_in_order :
    ∃ S R : TcplsConnection, Reach S R ∧ S.unsent = 3 ∧
    (∃ S' record R', S.createRecord = .ok (S', .ok record) ∧ R.processRecord record = .ok R' ∧
      Reach S' R' ∧ (S.hasData = true → S'.unsent < S.unsent)) ∧
    (∀ id st, S.streams.get? id = some st → 0 < st.sndOffset →
      R.getStreamData id = .ok (st.sndData.take st.sndOffset)) ∧
    (S.hasData = false → ∀ id st, S.streams.get? id = some st → st.sndData ≠ [] →
      R.getStreamData id = .ok st.sndData) ∧
    (∃ S' R', Reach S' R' ∧ S'.hasData = false ∧
      ∀ id st, S.streams.get? id = some st → st.sndData ≠ [] → R'.getStreamData id = .ok st.sndData) := by
  obtain ⟨c₀, hnew⟩ : ∃ c₀, TcplsConnection.new 0 .client (.error ()) = .ok c₀ := ⟨_, rfl⟩
  obtain ⟨-, hstreams₀⟩ := new_eq_ok hnew
  have hentries₀ : c₀.streams.entries = [(0, (TcplsStreamBuilder.new 0).build)] := by
    cases hnew
    rfl
  have hset := @addDataToStream_of_get c₀ 0 _ [1, 2, 3] (by rw [hstreams₀ 0, if_pos rfl])
    (by simp [TcplsStreamBuilder.build, TcplsStreamBuilder.new, isizeMax])
  have hreach := Reach.setData _ (.new 0 0 .client .client (.error ()) (.error ()) hnew hnew) hset
  have hkey : (0 : UInt32) ∈ c₀.streams.keys := by simp [HashMap.keys, hentries₀]
  have hunsent : ({ c₀ with streams := c₀.streams.insert 0 { (TcplsStreamBuilder.new 0).build with
      sndData := (TcplsStreamBuilder.new 0).build.sndData ++ [1, 2, 3] } } : TcplsConnection).unsent = 3 := by
    simp [unsent, HashMap.values, HashMap.insert, hkey, hentries₀, TcplsStream.unsent,
      TcplsStreamBuilder.build, TcplsStreamBuilder.new]
  exact ⟨_, _, hreach, hunsent, reach_delivers_in_order hreach⟩

end Delivery

end TcplsConnection

end TcplsBasics.Ports.Tcpls
