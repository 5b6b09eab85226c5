import Mathlib
import TcplsBasics.Verified.Rust

/-!
# A byte queue made of chunks (`vecbuf.rs`)

`ChunkVecBuffer` holds the byte vectors appended to it, oldest first, and
an optional limit that `apply_limit` enforces on what callers append.  What
it holds, as a byte stream, is the chunks put together (`bytes`): appending
extends that stream, and `consume`, `read` and `write_to` remove bytes from
its front.

## Main results

* `bytes_append`, `bytes_consume`: the byte stream after an append and after
  the front is consumed.
* `read_spec`, `readInto_spec`: a read takes as many bytes as fit the
  caller's buffer, from the front of the stream, and leaves them at the front
  of that buffer.
* `applyLimit_le`: a limited copy takes at most the bytes it is given.
* `chunkVecBuffer_fifo`: along any run from a new buffer no chunk is empty
  (`Wf`), and every call acts on the stream as on a queue (`QueueSpec`).

The `read` loop is a well-founded recursion on the room left and the number of
chunks, so it ends on every input; `write_to`'s writer is the number of bytes
it accepts.
-/

namespace TcplsBasics.Ports.VecBuf

open TcplsBasics.Verified.Rust

/-- `ChunkVecBuffer`. -/
structure ChunkVecBuffer where
  chunks : List (List UInt8)
  limit : Option Nat
deriving DecidableEq, Repr

/-- The `consume` loop over the chunks. -/
def consumeChunks : Nat → List (List UInt8) → List (List UInt8)
  | _, [] => []
  | used, buf :: rest =>
    if used < buf.length then buf.drop used :: rest else consumeChunks (used - buf.length) rest

namespace ChunkVecBuffer

/-- `ChunkVecBuffer::new`. -/
def new (limit : Option Nat) : ChunkVecBuffer := ⟨[], limit⟩

/-- `ChunkVecBuffer::set_limit`. -/
def setLimit (b : ChunkVecBuffer) (newLimit : Option Nat) : ChunkVecBuffer :=
  { b with limit := newLimit }

/-- `ChunkVecBuffer::is_empty`. -/
def isEmpty (b : ChunkVecBuffer) : Bool := b.chunks.isEmpty

/-- `ChunkVecBuffer::len`. -/
def len (b : ChunkVecBuffer) : Nat := (b.chunks.map List.length).sum

/-- The bytes held, oldest first. -/
def bytes (b : ChunkVecBuffer) : List UInt8 := b.chunks.flatten

/-- `ChunkVecBuffer::apply_limit`: `saturating_sub` is truncated subtraction. -/
def applyLimit (b : ChunkVecBuffer) (len : Nat) : Nat :=
  match b.limit with
  | some limit => min len (limit - b.len)
  | none => len

/-- `ChunkVecBuffer::append`: an empty vector is not pushed. -/
def append (b : ChunkVecBuffer) (bytes : List UInt8) : Nat × ChunkVecBuffer :=
  (bytes.length, if bytes ≠ [] then { b with chunks := b.chunks ++ [bytes] } else b)

/-- `ChunkVecBuffer::append_limited_copy`. -/
def appendLimitedCopy (b : ChunkVecBuffer) (bytes : List UInt8) : Nat × ChunkVecBuffer :=
  let take := b.applyLimit bytes.length
  (take, (b.append (bytes.take take)).2)

/-- `ChunkVecBuffer::pop`. -/
def pop (b : ChunkVecBuffer) : Option (List UInt8) × ChunkVecBuffer :=
  match b.chunks with
  | [] => (none, b)
  | c :: cs => (some c, { b with chunks := cs })

/-- `ChunkVecBuffer::consume`. -/
def consume (b : ChunkVecBuffer) (used : Nat) : ChunkVecBuffer :=
  { b with chunks := consumeChunks used b.chunks }

/-- `ChunkVecBuffer::write_to`: the writer takes `accepts` bytes of the first
64 chunks, at most all of them. -/
def writeTo (b : ChunkVecBuffer) (accepts : Nat) : Nat × ChunkVecBuffer :=
  if b.isEmpty then (0, b)
  else
    let used := min accepts ((b.chunks.take 64).map List.length).sum
    (used, b.consume used)

@[simp] theorem len_eq_length_bytes (b : ChunkVecBuffer) : b.len = b.bytes.length := by
  simp [len, bytes, List.length_flatten]

@[simp] theorem bytes_append (b : ChunkVecBuffer) (bytes : List UInt8) :
    (b.append bytes).2.bytes = b.bytes ++ bytes := by
  by_cases h : bytes = [] <;> simp [append, ChunkVecBuffer.bytes, h]

@[simp] theorem limit_append (b : ChunkVecBuffer) (bytes : List UInt8) :
    (b.append bytes).2.limit = b.limit := by
  by_cases h : bytes = [] <;> simp [append, h]

theorem bytes_consumeChunks :
    ∀ (used : Nat) (cs : List (List UInt8)), (consumeChunks used cs).flatten = cs.flatten.drop used
  | _, [] => by simp [consumeChunks]
  | used, buf :: rest => by
    unfold consumeChunks
    split_ifs with h
    · rw [List.flatten_cons, List.flatten_cons, List.drop_append_of_le_length (Nat.le_of_lt h)]
    · rw [bytes_consumeChunks, List.flatten_cons, List.drop_append,
        List.drop_eq_nil_of_le (Nat.le_of_not_lt h), List.nil_append]

@[simp] theorem bytes_consume (b : ChunkVecBuffer) (used : Nat) :
    (b.consume used).bytes = b.bytes.drop used :=
  bytes_consumeChunks used b.chunks

theorem length_consumeChunks_le :
    ∀ (used : Nat) (cs : List (List UInt8)), (consumeChunks used cs).length ≤ cs.length
  | _, [] => by simp [consumeChunks]
  | used, buf :: rest => by
    unfold consumeChunks
    split_ifs
    · simp
    · have := length_consumeChunks_le (used - buf.length) rest
      simp only [List.length_cons]
      omega

/-- A turn of the `read` loop shortens the chunks, or fills the caller's
buffer. -/
theorem readLoop_decreasing {room : Nat} {chunks : List (List UInt8)} (h : 0 < room ∧ chunks ≠ []) :
    room - min (chunks.head h.2).length room
        + (consumeChunks (min (chunks.head h.2).length room) chunks).length
      < room + chunks.length := by
  obtain ⟨hroom, hne⟩ := h
  obtain ⟨c, cs, rfl⟩ := List.exists_cons_of_ne_nil hne
  simp only [List.head_cons]
  unfold consumeChunks
  split_ifs with hlt
  · simp only [List.length_cons]
    omega
  · have := length_consumeChunks_le (min c.length room - c.length) cs
    simp only [List.length_cons]
    omega

/-- The `while offs < buf.len() && !self.is_empty()` loop of
`ChunkVecBuffer::read`, with `room = buf.len() - offs`: each turn reads the
front chunk, or what fits of it, through `<&[u8] as Read>::read`, and
consumes that much.  Returns the bytes read and the chunks left. -/
def readLoop (room : Nat) (chunks : List (List UInt8)) : Nat × List (List UInt8) :=
  if h : 0 < room ∧ chunks ≠ [] then
    let used := min (chunks.head h.2).length room
    let r := readLoop (room - used) (consumeChunks used chunks)
    (used + r.1, r.2)
  else (0, chunks)
termination_by room + chunks.length
decreasing_by exact readLoop_decreasing h

/-- The loop reads as much as fits from the front of the chunks. -/
theorem readLoop_spec (room : Nat) (chunks : List (List UInt8)) :
    (readLoop room chunks).1 = min room chunks.flatten.length ∧
      (readLoop room chunks).2.flatten = chunks.flatten.drop (readLoop room chunks).1 := by
  induction room, chunks using readLoop.induct with
  | case1 room chunks h used ih =>
      rw [readLoop, dif_pos h]
      dsimp only
      have hused : used = min (chunks.head h.2).length room := rfl
      obtain ⟨hk, hrest⟩ := ih
      rw [hused] at hk hrest
      have hhead : (chunks.head h.2).length ≤ chunks.flatten.length := by
        obtain ⟨c, cs, rfl⟩ := List.exists_cons_of_ne_nil h.2
        simp
      rw [bytes_consumeChunks, List.length_drop] at hk
      rw [bytes_consumeChunks, List.drop_drop] at hrest
      refine ⟨by omega, ?_⟩
      rw [hrest, Nat.add_comm]
  | case2 room chunks h =>
      rw [readLoop, dif_neg h]
      refine ⟨?_, by simp⟩
      by_cases hroom : 0 < room
      · have : chunks = [] := by
          by_contra hne
          exact h ⟨hroom, hne⟩
        simp [this]
      · simp only at hroom ⊢
        omega

theorem readLoop_of_pos {room : Nat} {chunks : List (List UInt8)} (h : 0 < room ∧ chunks ≠ []) :
    readLoop room chunks =
      (min (chunks.head h.2).length room +
          (readLoop (room - min (chunks.head h.2).length room)
            (consumeChunks (min (chunks.head h.2).length room) chunks)).1,
        (readLoop (room - min (chunks.head h.2).length room)
          (consumeChunks (min (chunks.head h.2).length room) chunks)).2) := by
  rw [readLoop, dif_pos h]

theorem readLoop_of_not {room : Nat} {chunks : List (List UInt8)} (h : ¬ (0 < room ∧ chunks ≠ [])) :
    readLoop room chunks = (0, chunks) := by
  rw [readLoop, dif_neg h]

/-- Up to the length of the front chunk, the bytes start with that chunk. -/
theorem take_flatten_of_le_head {chunks : List (List UInt8)} (h : chunks ≠ []) {n : Nat}
    (hn : n ≤ (chunks.head h).length) : chunks.flatten.take n = (chunks.head h).take n := by
  obtain ⟨c, cs, rfl⟩ := List.exists_cons_of_ne_nil h
  rw [List.head_cons] at hn ⊢
  rw [List.flatten_cons, List.take_append_of_le_length hn]

/-- `ChunkVecBuffer::read` into a buffer of `room` bytes. -/
def read (b : ChunkVecBuffer) (room : Nat) : Nat × ChunkVecBuffer :=
  let r := readLoop room b.chunks
  (r.1, { b with chunks := r.2 })

/-- The `read` loop with the caller's buffer: each turn,
`<&[u8] as Read>::read(&mut buf[offs..])` copies what fits of the front chunk
to `buf[offs..]`, and that much is consumed. -/
def readIntoLoop (buf : List UInt8) (offs : Nat) (chunks : List (List UInt8)) :
    Nat × List UInt8 × List (List UInt8) :=
  if h : offs < buf.length ∧ chunks ≠ [] then
    let used := min (chunks.head h.2).length (buf.length - offs)
    readIntoLoop (overwrite buf offs ((chunks.head h.2).take used)) (offs + used)
      (consumeChunks used chunks)
  else (offs, buf, chunks)
termination_by buf.length - offs + chunks.length
decreasing_by
  have hcopy : (overwrite buf offs ((chunks.head h.2).take (min (chunks.head h.2).length (buf.length - offs)))).length
      = buf.length := by
    apply length_overwrite
    simp only [List.length_take]
    omega
  have hturn := readLoop_decreasing (show 0 < buf.length - offs ∧ chunks ≠ [] from ⟨by omega, h.2⟩)
  rw [hcopy]
  omega

/-- `ChunkVecBuffer::read`, with what it leaves in the caller's buffer: the
count, the buffer, and the `ChunkVecBuffer` after. -/
def readInto (b : ChunkVecBuffer) (buf : List UInt8) : Nat × List UInt8 × ChunkVecBuffer :=
  let r := readIntoLoop buf 0 b.chunks
  (r.1, r.2.1, { b with chunks := r.2.2 })

/-- The loop with the buffer is the loop on the room left in it, writing the
bytes it reads at `offs` on. -/
theorem readIntoLoop_eq (buf : List UInt8) (offs : Nat) (chunks : List (List UInt8)) (hoffs : offs ≤ buf.length) :
    readIntoLoop buf offs chunks =
      (offs + (readLoop (buf.length - offs) chunks).1,
        overwrite buf offs (chunks.flatten.take (readLoop (buf.length - offs) chunks).1),
        (readLoop (buf.length - offs) chunks).2) := by
  induction buf, offs, chunks using readIntoLoop.induct with
  | case1 buf offs chunks h used ih =>
    have hused : used ≤ (chunks.head h.2).length ∧ used ≤ buf.length - offs :=
      ⟨Nat.min_le_left _ _, Nat.min_le_right _ _⟩
    have htake : ((chunks.head h.2).take used).length = used := by
      rw [List.length_take]
      omega
    have hcopy : (overwrite buf offs ((chunks.head h.2).take used)).length = buf.length :=
      length_overwrite (by omega)
    rw [readIntoLoop, dif_pos h]
    dsimp only
    rw [ih (by omega), hcopy, readLoop_of_pos (show 0 < buf.length - offs ∧ chunks ≠ [] from ⟨by omega, h.2⟩),
      Nat.sub_sub]
    have hmerge := overwrite_overwrite hoffs ((chunks.head h.2).take used)
      ((consumeChunks used chunks).flatten.take (readLoop (buf.length - (offs + used)) (consumeChunks used chunks)).1)
    rw [htake] at hmerge
    refine Prod.ext (Nat.add_assoc _ _ _) (Prod.ext ?_ rfl)
    dsimp only
    rw [hmerge, bytes_consumeChunks, ← take_flatten_of_le_head h.2 hused.1, ← List.take_add]
  | case2 buf offs chunks h =>
    have hnot : ¬ (0 < buf.length - offs ∧ chunks ≠ []) := fun hpos => h ⟨by omega, hpos.2⟩
    rw [readIntoLoop, dif_neg h, readLoop_of_not hnot, List.take_zero, overwrite_nil, Nat.add_zero]

theorem applyLimit_le (b : ChunkVecBuffer) (len : Nat) : b.applyLimit len ≤ len := by
  unfold applyLimit
  split <;> omega

@[simp] theorem applyLimit_zero (b : ChunkVecBuffer) : b.applyLimit 0 = 0 := by
  unfold applyLimit
  split <;> simp

@[simp] theorem fst_appendLimitedCopy (b : ChunkVecBuffer) (bytes : List UInt8) :
    (b.appendLimitedCopy bytes).1 = b.applyLimit bytes.length := rfl

@[simp] theorem bytes_appendLimitedCopy (b : ChunkVecBuffer) (bytes : List UInt8) :
    (b.appendLimitedCopy bytes).2.bytes = b.bytes ++ bytes.take (b.applyLimit bytes.length) := by
  simp [appendLimitedCopy]

/-- `read` takes what fits from the front of the bytes. -/
theorem read_spec (b : ChunkVecBuffer) (room : Nat) :
    (b.read room).1 = min room b.len ∧ (b.read room).2.bytes = b.bytes.drop (b.read room).1 ∧
      (b.read room).2.limit = b.limit := by
  obtain ⟨hk, hrest⟩ := readLoop_spec room b.chunks
  exact ⟨by rw [len_eq_length_bytes]; exact hk, hrest, rfl⟩

/-- `read` leaves the front of the bytes in the caller's buffer, as many as
fit, and the rest of the buffer as it was. -/
theorem readInto_spec (b : ChunkVecBuffer) (buf : List UInt8) :
    (b.readInto buf).1 = min buf.length b.len ∧
      (b.readInto buf).2.1 = b.bytes.take (b.readInto buf).1 ++ buf.drop (b.readInto buf).1 ∧
      (b.readInto buf).2.2.bytes = b.bytes.drop (b.readInto buf).1 ∧ (b.readInto buf).2.2.limit = b.limit := by
  obtain ⟨hk, hrest⟩ := readLoop_spec buf.length b.chunks
  have hloop := readIntoLoop_eq buf 0 b.chunks (Nat.zero_le _)
  rw [Nat.sub_zero, Nat.zero_add] at hloop
  have hcount : (b.readInto buf).1 = (readLoop buf.length b.chunks).1 := by
    simp only [readInto, hloop]
  have hlen : (b.bytes.take (readLoop buf.length b.chunks).1).length = (readLoop buf.length b.chunks).1 := by
    rw [List.length_take, bytes, hk]
    omega
  refine ⟨?_, ?_, ?_, rfl⟩
  · rw [hcount, hk, len_eq_length_bytes]
    rfl
  · rw [hcount]
    simp only [readInto, hloop, overwrite, List.take_zero, List.nil_append]
    rw [← bytes, hlen, Nat.zero_add]
  · rw [hcount]
    simp only [readInto, hloop, bytes]
    exact hrest

/-! ## `write_to` and `pop` -/

/-- The bytes `write_to` offers the writer: the first 64 chunks. -/
def offered (b : ChunkVecBuffer) : List UInt8 := (b.chunks.take 64).flatten

/-- What is offered is the front of the bytes. -/
theorem bytes_eq_offered_append (b : ChunkVecBuffer) :
    b.bytes = b.offered ++ (b.chunks.drop 64).flatten := by
  rw [bytes, offered, ← List.flatten_append, List.take_append_drop]

theorem fst_writeTo (b : ChunkVecBuffer) (accepts : Nat) :
    (b.writeTo accepts).1 = min accepts b.offered.length := by
  unfold writeTo
  split_ifs with hempty
  · have hnil : b.chunks = [] := List.isEmpty_iff.mp hempty
    simp [offered, hnil]
  · simp [offered, List.length_flatten]

theorem bytes_writeTo (b : ChunkVecBuffer) (accepts : Nat) :
    (b.writeTo accepts).2.bytes = b.bytes.drop (b.writeTo accepts).1 := by
  unfold writeTo
  split_ifs
  · rfl
  · exact bytes_consume b _

/-- The writer is given the front of the bytes, and `write_to` removes what it
accepted of them. -/
theorem writeTo_spec (b : ChunkVecBuffer) (accepts : Nat) :
    (b.writeTo accepts).1 = min accepts b.offered.length ∧
      b.offered.take (b.writeTo accepts).1 = b.bytes.take (b.writeTo accepts).1 ∧
      (b.writeTo accepts).2.bytes = b.bytes.drop (b.writeTo accepts).1 := by
  have hused := fst_writeTo b accepts
  refine ⟨hused, ?_, bytes_writeTo b accepts⟩
  rw [bytes_eq_offered_append, List.take_append_of_le_length (by omega)]

theorem pop_eq_none_iff (b : ChunkVecBuffer) : b.pop.1 = none ↔ b.chunks = [] := by
  unfold pop
  split <;> simp_all

theorem bytes_of_pop {b : ChunkVecBuffer} {c : List UInt8} (h : b.pop.1 = some c) :
    c ∈ b.chunks ∧ b.bytes = c ++ b.pop.2.bytes := by
  unfold pop at h ⊢
  split at h
  · cases h
  · next c' cs hchunks =>
    cases h
    simp [bytes, hchunks]

/-! ## No chunk is empty -/

/-- The invariant `read`'s progress rests on: `append` never pushes an empty
vector, and `consume` keeps only a nonempty rest of the chunk it stops in. -/
structure Wf (b : ChunkVecBuffer) : Prop where
  chunk_ne_nil : ∀ c ∈ b.chunks, c ≠ []

theorem consumeChunks_ne_nil :
    ∀ (used : Nat) (cs : List (List UInt8)), (∀ c ∈ cs, c ≠ []) → ∀ c ∈ consumeChunks used cs, c ≠ []
  | _, [], _ => by simp [consumeChunks]
  | used, buf :: rest, h => by
    have hrest : ∀ c ∈ rest, c ≠ [] := fun c hc => h c (List.mem_cons_of_mem _ hc)
    unfold consumeChunks
    split_ifs with hlt
    · intro c hc
      rcases List.mem_cons.mp hc with rfl | hc
      · -- the chunk `consume` stops in keeps `buf.len() - used > 0` bytes
        rw [ne_eq, ← List.length_eq_zero_iff, List.length_drop]
        omega
      · exact hrest c hc
    · exact consumeChunks_ne_nil _ rest hrest

theorem readLoop_ne_nil (room : Nat) (chunks : List (List UInt8)) (h : ∀ c ∈ chunks, c ≠ []) :
    ∀ c ∈ (readLoop room chunks).2, c ≠ [] := by
  induction room, chunks using readLoop.induct with
  | case1 room chunks hpos used ih =>
    rw [readLoop_of_pos hpos]
    exact ih (consumeChunks_ne_nil _ _ h)
  | case2 room chunks hpos =>
    rw [readLoop_of_not hpos]
    exact h

theorem wf_new (limit : Option Nat) : Wf (new limit) := ⟨by simp [new]⟩

namespace Wf

variable {b : ChunkVecBuffer} (hb : Wf b)
include hb

theorem setLimit (newLimit : Option Nat) : Wf (b.setLimit newLimit) := ⟨hb.chunk_ne_nil⟩

theorem append (bytes : List UInt8) : Wf (b.append bytes).2 := by
  constructor
  unfold ChunkVecBuffer.append
  split_ifs with hne
  · intro c hc
    rcases List.mem_append.mp hc with hc | hc
    · exact hb.chunk_ne_nil c hc
    · rw [List.mem_singleton.mp hc]
      exact hne
  · exact hb.chunk_ne_nil

theorem appendLimitedCopy (bytes : List UInt8) : Wf (b.appendLimitedCopy bytes).2 :=
  hb.append _

theorem pop : Wf b.pop.2 := by
  constructor
  unfold ChunkVecBuffer.pop
  split
  · exact hb.chunk_ne_nil
  · next c cs hchunks =>
    intro c' hc'
    exact hb.chunk_ne_nil c' (by rw [hchunks]; exact List.mem_cons_of_mem _ hc')

theorem consume (used : Nat) : Wf (b.consume used) :=
  ⟨consumeChunks_ne_nil used b.chunks hb.chunk_ne_nil⟩

theorem readInto (buf : List UInt8) : Wf (b.readInto buf).2.2 := by
  constructor
  simp only [ChunkVecBuffer.readInto, readIntoLoop_eq buf 0 b.chunks (Nat.zero_le _)]
  exact readLoop_ne_nil _ _ hb.chunk_ne_nil

theorem writeTo (accepts : Nat) : Wf (b.writeTo accepts).2 := by
  unfold ChunkVecBuffer.writeTo
  split_ifs
  · exact hb
  · exact hb.consume _

/-- With no empty chunk, the bytes are empty only when the chunks are. -/
theorem bytes_eq_nil_iff : b.bytes = [] ↔ b.chunks = [] := by
  constructor
  · intro hnil
    by_contra hne
    obtain ⟨c, cs, hchunks⟩ := List.exists_cons_of_ne_nil hne
    have hc := hb.chunk_ne_nil c (by rw [hchunks]; exact List.mem_cons_self)
    rw [bytes, hchunks, List.flatten_cons, List.append_eq_nil_iff] at hnil
    exact hc hnil.1
  · intro hnil
    rw [bytes, hnil, List.flatten_nil]

/-- A writer that takes anything is given something, as long as there are
bytes: the first chunk is not empty. -/
theorem writeTo_pos {accepts : Nat} (haccepts : 0 < accepts) (hne : b.bytes ≠ []) :
    0 < (b.writeTo accepts).1 := by
  obtain ⟨c, cs, hchunks⟩ := List.exists_cons_of_ne_nil (mt hb.bytes_eq_nil_iff.mpr hne)
  have hc := hb.chunk_ne_nil c (by rw [hchunks]; exact List.mem_cons_self)
  have hoffered : c.length ≤ b.offered.length := by
    simp [offered, hchunks]
  have hcpos : 0 < c.length := List.length_pos_iff.mpr hc
  rw [fst_writeTo]
  omega

end Wf

/-! ## Runs -/

/-- The calls made on a `ChunkVecBuffer`. -/
inductive Op where
  | setLimit (newLimit : Option Nat)
  | append (bytes : List UInt8)
  | appendLimitedCopy (bytes : List UInt8)
  | pop
  | read (buf : List UInt8)
  | writeTo (accepts : Nat)
deriving DecidableEq, Repr

/-- The buffer after one call. -/
def apply (b : ChunkVecBuffer) : Op → ChunkVecBuffer
  | .setLimit newLimit => b.setLimit newLimit
  | .append bytes => (b.append bytes).2
  | .appendLimitedCopy bytes => (b.appendLimitedCopy bytes).2
  | .pop => b.pop.2
  | .read buf => (b.readInto buf).2.2
  | .writeTo accepts => (b.writeTo accepts).2

/-- The buffer after a sequence of calls. -/
def run (b : ChunkVecBuffer) (ops : List Op) : ChunkVecBuffer := ops.foldl apply b

theorem Wf.apply {b : ChunkVecBuffer} (hb : Wf b) : ∀ op, Wf (b.apply op)
  | .setLimit newLimit => hb.setLimit newLimit
  | .append bytes => hb.append bytes
  | .appendLimitedCopy bytes => hb.appendLimitedCopy bytes
  | .pop => hb.pop
  | .read buf => hb.readInto buf
  | .writeTo accepts => hb.writeTo accepts

theorem Wf.run {b : ChunkVecBuffer} (hb : Wf b) (ops : List Op) : Wf (b.run ops) := by
  induction ops generalizing b with
  | nil => exact hb
  | cons op ops ih => exact ih (hb.apply op)

/-- What the buffer promises as a queue of the bytes it holds: what each call
returns, and what it leaves, in terms of that queue alone. -/
structure QueueSpec (b : ChunkVecBuffer) : Prop where
  len : b.len = b.bytes.length
  append : ∀ bytes, (b.append bytes).1 = bytes.length ∧ (b.append bytes).2.bytes = b.bytes ++ bytes
  appendLimitedCopy : ∀ bytes, (b.appendLimitedCopy bytes).1 = b.applyLimit bytes.length ∧
    (b.appendLimitedCopy bytes).2.bytes = b.bytes ++ bytes.take (b.applyLimit bytes.length)
  pop_none : b.pop.1 = none ↔ b.bytes = []
  pop_some : ∀ c, b.pop.1 = some c → c ≠ [] ∧ b.bytes = c ++ b.pop.2.bytes
  read : ∀ buf, (b.readInto buf).1 = min buf.length b.len ∧
    (b.readInto buf).2.1 = b.bytes.take (b.readInto buf).1 ++ buf.drop (b.readInto buf).1 ∧
    (b.readInto buf).2.2.bytes = b.bytes.drop (b.readInto buf).1
  writeTo : ∀ accepts, (b.writeTo accepts).1 = min accepts b.offered.length ∧
    b.offered.take (b.writeTo accepts).1 = b.bytes.take (b.writeTo accepts).1 ∧
    (b.writeTo accepts).2.bytes = b.bytes.drop (b.writeTo accepts).1 ∧
    (0 < accepts → b.bytes ≠ [] → 0 < (b.writeTo accepts).1)

theorem Wf.queueSpec {b : ChunkVecBuffer} (hb : Wf b) : QueueSpec b where
  len := len_eq_length_bytes b
  append bytes := ⟨rfl, bytes_append b bytes⟩
  appendLimitedCopy bytes := ⟨rfl, bytes_appendLimitedCopy b bytes⟩
  pop_none := by rw [pop_eq_none_iff, hb.bytes_eq_nil_iff]
  pop_some c hc := ⟨hb.chunk_ne_nil c (bytes_of_pop hc).1, (bytes_of_pop hc).2⟩
  read buf := by
    obtain ⟨hk, hbuf, hbytes, -⟩ := readInto_spec b buf
    exact ⟨hk, hbuf, hbytes⟩
  writeTo accepts := by
    obtain ⟨hused, hfront, hbytes⟩ := writeTo_spec b accepts
    exact ⟨hused, hfront, hbytes, hb.writeTo_pos⟩

/-- **`ChunkVecBuffer` is a byte queue.**  After any sequence of calls from a
new buffer, no chunk is empty, and every next call acts on the bytes held, the
chunks put together, as a queue: `len` is their number, `append` and
`append_limited_copy` add at the back (the latter the first
`apply_limit(len)` bytes), `pop` takes a nonempty front piece, `read` copies
the first `min(buf.len(), len)` bytes into `buf` and removes them, and
`write_to` offers the writer the front of the bytes and removes what it
accepted, which is something whenever it accepts anything. -/
theorem chunkVecBuffer_fifo (limit : Option Nat) (ops : List Op) :
    Wf ((new limit).run ops) ∧ QueueSpec ((new limit).run ops) := by
  have hwf := (wf_new limit).run ops
  exact ⟨hwf, hwf.queueSpec⟩

end ChunkVecBuffer

end TcplsBasics.Ports.VecBuf
