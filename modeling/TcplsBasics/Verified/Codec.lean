import TcplsBasics.Verified.Bytes

/-!
# Length-prefixed binary codecs

A decoder reads a value off the front of a byte string and returns the
bytes after it; an encoder maps a value to bytes. The building blocks of
length-prefixed wire formats are here for any element type: fixed-width
big-endian integers, a block of bytes after an `n`-byte length, and the
vector of items that fills such a block.

Two properties relate a decoder to an encoder:

* `Canonical enc dec`: whatever `dec` accepts is the encoding of what it
  returns, followed by the bytes it leaves. Re-encoding a decoded value
  gives back exactly the bytes that were read.
* `RoundTrip enc dec wf`: `dec` reads back the encoding of every value
  satisfying `wf`, whatever bytes follow it.

Each building block has both, with the side conditions its length prefix
needs, and the vector lemmas lift them from the items to the vector.

The item loop of a vector reads until its block is used up. It runs on
fuel equal to the block's length, which is enough for any decoder that
consumes a byte per item: `readItems_flatMap` proves the loop returns.

## Main results

* `readUInt_encodeUInt`, `eq_of_readUInt`: fixed-width integers.
* `readBlock_encodeBlock`, `eq_of_readBlock`: length-prefixed blocks.
* `readItems_flatMap`, `eq_of_readItems`: the items filling a block.
* `RoundTrip.readVec`, `RoundTrip.readVecLimited`:
  length-prefixed vectors.
* `RoundTrip.readWhole`, `Canonical.eq_of_readWhole`: a decoder that must
  take all of its input.
* `readVec_encodeVec_eq_none`: a vector fails to read when one of its
  items does and the others stop at their ends (`Delimits`).
* `itemsLoop_iff`: with an item decoder that takes a byte whenever it returns
  (`Progress`), the item loop as it runs (`ItemsLoop`) stops on every block,
  with the result the fuelled loop computes.
* `readVec_consumes`, `readVecLimited_consumes`, `readVecLimited_of_lt`: a
  vector takes its prefix and exactly the bytes it declares, and a limited one
  refuses a length above its limit.
-/

namespace TcplsBasics.Verified.Codec

open TcplsBasics.Verified.Bytes

/-- A decoder: the value read off the front, and the bytes after it. -/
abbrev Decoder (α : Type) := List UInt8 → Option (α × List UInt8)

section Properties

variable {α : Type}

/-- Everything `dec` accepts is the encoding of what it returns. -/
def Canonical (enc : α → List UInt8) (dec : Decoder α) : Prop :=
  ∀ b x r, dec b = some (x, r) → b = enc x ++ r

/-- `dec` reads back the encoding of every value with `wf`, whatever follows. -/
def RoundTrip (enc : α → List UInt8) (dec : Decoder α) (wf : α → Prop) : Prop :=
  ∀ x r, wf x → dec (enc x ++ r) = some (x, r)

end Properties

/-! ## Bytes and integers -/

/-- The next `n` bytes, if there are that many. -/
def take (n : Nat) : Decoder (List UInt8) := fun b =>
  if n ≤ b.length then some (b.take n, b.drop n) else none

/-- All the bytes that are left. -/
def rest : Decoder (List UInt8) := fun b => some (b, [])

/-- An `n`-byte big-endian unsigned integer. -/
def readUInt (n : Nat) : Decoder Nat := fun b =>
  (take n b).map fun p => (fromBeBytes p.1, p.2)

/-- The `n`-byte big-endian encoding of `v`, modulo `256 ^ n` as a cast does. -/
def encodeUInt (n v : Nat) : List UInt8 := toBeBytes n v

theorem take_append {n : Nat} {x : List UInt8} (h : x.length = n) (r : List UInt8) :
    take n (x ++ r) = some (x, r) := by
  subst h
  simp [take]

theorem eq_of_take {n : Nat} {b x r : List UInt8} (h : take n b = some (x, r)) :
    b = x ++ r ∧ x.length = n := by
  simp only [take] at h
  split_ifs at h with hn
  cases h
  exact ⟨(List.take_append_drop n b).symm, List.length_take_of_le hn⟩

theorem take_eq_none {n : Nat} {b : List UInt8} (h : b.length < n) : take n b = none := by
  simp only [take, ite_eq_right_iff, reduceCtorEq, imp_false, Nat.not_le]
  exact h

theorem readUInt_eq_none {n : Nat} {b : List UInt8} (h : b.length < n) : readUInt n b = none := by
  simp [readUInt, take_eq_none h]

@[simp] theorem length_encodeUInt (n v : Nat) : (encodeUInt n v).length = n :=
  length_toBeBytes n v

theorem readUInt_encodeUInt {n v : Nat} (h : v < 256 ^ n) (r : List UInt8) :
    readUInt n (encodeUInt n v ++ r) = some (v, r) := by
  rw [readUInt, take_append (length_encodeUInt n v)]
  simp [encodeUInt, fromBeBytes_toBeBytes_of_lt h]

theorem eq_of_readUInt {n v : Nat} {b r : List UInt8} (h : readUInt n b = some (v, r)) :
    b = encodeUInt n v ++ r ∧ v < 256 ^ n := by
  simp only [readUInt, Option.map_eq_some_iff, Prod.exists, Prod.mk.injEq] at h
  obtain ⟨x, r', htake, rfl, rfl⟩ := h
  obtain ⟨rfl, hlen⟩ := eq_of_take htake
  refine ⟨?_, hlen ▸ fromBeBytes_lt x⟩
  rw [encodeUInt, ← hlen, toBeBytes_fromBeBytes]

/-! ## Length-prefixed blocks -/

/-- A block of bytes after its `n`-byte length. -/
def readBlock (n : Nat) : Decoder (List UInt8) := fun b =>
  (readUInt n b).bind fun p => take p.1 p.2

/-- A block of bytes after its `n`-byte length. -/
def encodeBlock (n : Nat) (p : List UInt8) : List UInt8 := encodeUInt n p.length ++ p

@[simp] theorem length_encodeBlock (n : Nat) (p : List UInt8) :
    (encodeBlock n p).length = n + p.length := by
  simp [encodeBlock]

theorem readBlock_encodeBlock {n : Nat} {p : List UInt8} (h : p.length < 256 ^ n)
    (r : List UInt8) : readBlock n (encodeBlock n p ++ r) = some (p, r) := by
  simp [readBlock, encodeBlock, readUInt_encodeUInt h, take_append rfl]

theorem eq_of_readBlock {n : Nat} {b p r : List UInt8} (h : readBlock n b = some (p, r)) :
    b = encodeBlock n p ++ r ∧ p.length < 256 ^ n := by
  simp only [readBlock, Option.bind_eq_some_iff, Prod.exists] at h
  obtain ⟨len, r', hlen, htake⟩ := h
  obtain ⟨rfl, hlt⟩ := eq_of_readUInt hlen
  obtain ⟨rfl, rfl⟩ := eq_of_take htake
  exact ⟨by simp [encodeBlock], hlt⟩

/-! ## The items of a block -/

/-- `while sub.any_left() { ret.push(T::read(&mut sub)?) }`, on fuel. -/
def readItems {α : Type} (dec : Decoder α) : Nat → List UInt8 → Option (List α)
  | _, [] => some []
  | 0, _ :: _ => none
  | fuel + 1, b@(_ :: _) =>
    match dec b with
    | none => none
    | some (x, r) => (readItems dec fuel r).map (x :: ·)

section Items

variable {α : Type} {enc : α → List UInt8} {dec : Decoder α} {wf : α → Prop}

@[simp] theorem readItems_nil (fuel : Nat) : readItems dec fuel [] = some [] := by
  cases fuel <;> rfl

theorem readItems_succ {fuel : Nat} {b r : List UInt8} {x : α} (hb : b ≠ [])
    (h : dec b = some (x, r)) :
    readItems dec (fuel + 1) b = (readItems dec fuel r).map (x :: ·) := by
  obtain ⟨c, cs, rfl⟩ := List.exists_cons_of_ne_nil hb
  simp [readItems, h]

/-- Every item's encoding is non-empty: the items of a block are at most its bytes. -/
theorem length_le_length_flatMap (hne : ∀ x, wf x → enc x ≠ []) :
    ∀ {xs : List α}, (∀ x ∈ xs, wf x) → xs.length ≤ (xs.flatMap enc).length
  | [], _ => by simp
  | x :: xs, hwf => by
    have hx : 0 < (enc x).length :=
      List.length_pos_iff.mpr (hne x (hwf x List.mem_cons_self))
    have ih := length_le_length_flatMap hne fun y hy => hwf y (List.mem_cons_of_mem x hy)
    simp only [List.flatMap_cons, List.length_append, List.length_cons]
    omega

/-- The item loop reads back the items of a block, on any fuel that covers them. -/
theorem readItems_flatMap (hrt : RoundTrip enc dec wf) (hne : ∀ x, wf x → enc x ≠ []) :
    ∀ {xs : List α} {fuel : Nat}, (∀ x ∈ xs, wf x) → xs.length ≤ fuel →
      readItems dec fuel (xs.flatMap enc) = some xs
  | [], _, _, _ => by simp
  | x :: xs, fuel + 1, hwf, hfuel => by
    have hx := hwf x List.mem_cons_self
    have hxs : ∀ y ∈ xs, wf y := fun y hy => hwf y (List.mem_cons_of_mem x hy)
    have hb : enc x ++ xs.flatMap enc ≠ [] := by simp [hne x hx]
    rw [List.flatMap_cons, readItems_succ hb (hrt x _ hx),
      readItems_flatMap hrt hne hxs (by simpa using hfuel)]
    rfl

/-- What the item loop accepts is the concatenation of its items' encodings. -/
theorem eq_of_readItems (hc : Canonical enc dec) :
    ∀ {fuel : Nat} {b : List UInt8} {xs : List α}, readItems dec fuel b = some xs →
      b = xs.flatMap enc
  | _, [], xs, h => by
    rw [readItems_nil] at h
    cases h
    rfl
  | 0, _ :: _, _, h => by cases h
  | fuel + 1, c :: cs, xs, h => by
    simp only [readItems] at h
    split at h
    · cases h
    · rename_i x r hdec
      simp only [Option.map_eq_some_iff] at h
      obtain ⟨ys, hys, rfl⟩ := h
      rw [hc _ _ _ hdec, eq_of_readItems hc hys]
      rfl

end Items

/-! ## Length-prefixed vectors -/

/-- `read_vec_u8`, `read_vec_u16`, ...: the items of a block after an `n`-byte length. -/
def readVec {α : Type} (n : Nat) (dec : Decoder α) : Decoder (List α) := fun b =>
  match readBlock n b with
  | none => none
  | some (sub, r) => (readItems dec sub.length sub).map (·, r)

/-- `encode_vec_u8`, `encode_vec_u16`, ...: the items' encodings after their length. -/
def encodeVec {α : Type} (n : Nat) (enc : α → List UInt8) (xs : List α) : List UInt8 :=
  encodeBlock n (xs.flatMap enc)

/-- The side condition of `RoundTrip.readVec`: every item has `wf`, and their
bytes fit the `n`-byte length prefix. -/
def VecFits {α : Type} (n : Nat) (enc : α → List UInt8) (wf : α → Prop) (xs : List α) : Prop :=
  (∀ x ∈ xs, wf x) ∧ (xs.flatMap enc).length < 256 ^ n

/-- `read_vec_u24_limited`: a vector whose length is refused above `max`. -/
def readVecLimited {α : Type} (n max : Nat) (dec : Decoder α) : Decoder (List α) := fun b =>
  match readUInt n b with
  | none => none
  | some (len, r) =>
    if max < len then none
    else
      match take len r with
      | none => none
      | some (sub, r) => (readItems dec sub.length sub).map (·, r)

section Vectors

variable {α : Type} {enc : α → List UInt8} {dec : Decoder α} {wf : α → Prop}

/-- A vector reads back when its items do and their bytes fit the length prefix. -/
theorem RoundTrip.readVec (n : Nat) (hrt : RoundTrip enc dec wf)
    (hne : ∀ x, wf x → enc x ≠ []) :
    RoundTrip (encodeVec n enc) (Codec.readVec n dec)
      fun xs => (∀ x ∈ xs, wf x) ∧ (xs.flatMap enc).length < 256 ^ n := by
  rintro xs r ⟨hwf, hlen⟩
  simp only [Codec.readVec, encodeVec, readBlock_encodeBlock hlen]
  rw [readItems_flatMap hrt hne hwf (length_le_length_flatMap hne hwf)]
  rfl

/-- A limited vector reads back as a vector does when its bytes are also within the limit. -/
theorem RoundTrip.readVecLimited (n max : Nat) (hrt : RoundTrip enc dec wf)
    (hne : ∀ x, wf x → enc x ≠ []) :
    RoundTrip (encodeVec n enc) (Codec.readVecLimited n max dec)
      fun xs => (∀ x ∈ xs, wf x) ∧ (xs.flatMap enc).length ≤ max ∧ (xs.flatMap enc).length < 256 ^ n := by
  rintro xs r ⟨hwf, hmax, hlen⟩
  simp only [Codec.readVecLimited, encodeVec, encodeBlock, List.append_assoc, readUInt_encodeUInt hlen,
    Nat.not_lt.mpr hmax, if_false, take_append rfl]
  rw [readItems_flatMap hrt hne hwf (length_le_length_flatMap hne hwf)]
  rfl

/-- A round trip at the end of the input. -/
theorem RoundTrip.at_end (hrt : RoundTrip enc dec wf) {x : α} (hx : wf x) : dec (enc x) = some (x, []) := by
  simpa using hrt x [] hx

/-- The item loop reads back items of which every one reads back at the end of
the block, and every one but the last whatever follows it. -/
theorem readItems_flatMap_dropLast (hrt : RoundTrip enc dec wf) {wfEnd : α → Prop}
    (hend : ∀ x, wfEnd x → dec (enc x) = some (x, [])) (hne : ∀ x, wfEnd x → enc x ≠ []) :
    ∀ {xs : List α} {fuel : Nat}, (∀ x ∈ xs, wfEnd x) → (∀ x ∈ xs.dropLast, wf x) →
      xs.length ≤ fuel → readItems dec fuel (xs.flatMap enc) = some xs
  | [], _, _, _, _ => by simp
  | _ :: _, 0, _, _, hfuel => absurd hfuel (by simp)
  | [x], fuel + 1, hall, _, _ => by
    have hx := hall x List.mem_cons_self
    rw [List.flatMap_cons, List.flatMap_nil, List.append_nil, readItems_succ (hne x hx) (hend x hx),
      readItems_nil]
    rfl
  | x :: y :: xs, fuel + 1, hall, hwf, hfuel => by
    have hx : wf x := hwf x (by simp)
    have hb : enc x ++ (y :: xs).flatMap enc ≠ [] := by simp [hne x (hall x List.mem_cons_self)]
    have hrest : ∀ z ∈ (y :: xs).dropLast, wf z := fun z hz => hwf z (by
      rw [List.dropLast_cons_cons]
      exact List.mem_cons_of_mem x hz)
    rw [List.flatMap_cons, readItems_succ hb (hrt x _ hx),
      readItems_flatMap_dropLast hrt hend hne (fun z hz => hall z (List.mem_cons_of_mem x hz)) hrest
        (by simpa using hfuel)]
    rfl

/-- A vector reads back when every item reads back at the end of the block,
every one but the last whatever follows it, and their bytes fit the prefix:
the last item may take all that is left of the block. -/
theorem RoundTrip.readVec_dropLast (n : Nat) (hrt : RoundTrip enc dec wf) {wfEnd : α → Prop}
    (hend : ∀ x, wfEnd x → dec (enc x) = some (x, [])) (hne : ∀ x, wfEnd x → enc x ≠ []) :
    RoundTrip (encodeVec n enc) (Codec.readVec n dec) fun xs =>
      VecFits n enc wfEnd xs ∧ ∀ x ∈ xs.dropLast, wf x := by
  rintro xs r ⟨⟨hall, hlen⟩, hwf⟩
  simp only [Codec.readVec, encodeVec, readBlock_encodeBlock hlen]
  rw [readItems_flatMap_dropLast hrt hend hne hall hwf (length_le_length_flatMap hne hall)]
  rfl

/-- A fixed-width integer reads back when it fits its width. -/
theorem roundTrip_readUInt (n : Nat) : RoundTrip (encodeUInt n) (readUInt n) (· < 256 ^ n) :=
  fun _ r h => readUInt_encodeUInt h r

/-- A block reads back when its length fits the prefix. -/
theorem roundTrip_readBlock (n : Nat) : RoundTrip (encodeBlock n) (readBlock n) (·.length < 256 ^ n) :=
  fun _ r h => readBlock_encodeBlock h r

end Vectors

/-! ## Decoders that must take every byte -/

section Whole

variable {α : Type} {enc : α → List UInt8} {dec : Decoder α} {wf : α → Prop}

/-- `dec` on the whole input, accepted only if it leaves no byte: a `read`
followed by `filter(|_| !r.any_left())`. -/
def readWhole (dec : Decoder α) (b : List UInt8) : Option α :=
  match dec b with
  | some (x, []) => some x
  | _ => none

theorem readWhole_of_eq {b : List UInt8} {x : α} (h : dec b = some (x, [])) :
    readWhole dec b = some x := by
  simp [readWhole, h]

/-- A value that reads back reads back whole from its encoding alone. -/
theorem RoundTrip.readWhole (hrt : RoundTrip enc dec wf) {x : α} (hx : wf x) :
    Codec.readWhole dec (enc x) = some x :=
  readWhole_of_eq (hrt.at_end hx)

/-- What a canonical decoder takes whole is the encoding of what it returns. -/
theorem Canonical.eq_of_readWhole (hc : Canonical enc dec) {b : List UInt8} {x : α}
    (h : Codec.readWhole dec b = some x) : b = enc x := by
  have hdec : dec b = some (x, []) := by
    unfold Codec.readWhole at h
    split at h
    · next hdec =>
      cases h
      exact hdec
    · cases h
  simpa using hc b x [] hdec

end Whole

/-! ## Decoders that stop at an item's end -/

section Delimits

variable {α : Type} {enc : α → List UInt8} {dec : Decoder α} {wf : α → Prop}

/-- On the encoding of a value with `wf`, `dec` either fails or stops exactly
at its end, whatever it returns. -/
def Delimits (enc : α → List UInt8) (dec : Decoder α) (wf : α → Prop) : Prop :=
  ∀ x r, wf x → dec (enc x ++ r) = none ∨ ∃ y, dec (enc x ++ r) = some (y, r)

theorem readItems_succ_eq_none {fuel : Nat} {b : List UInt8} (hb : b ≠ []) (h : dec b = none) :
    readItems dec (fuel + 1) b = none := by
  obtain ⟨c, cs, rfl⟩ := List.exists_cons_of_ne_nil hb
  simp [readItems, h]

/-- The items of a block fail to read when one of them does, and each item
before it stops at its end. -/
theorem readItems_flatMap_eq_none (hdel : Delimits enc dec wf) (hne : ∀ x, wf x → enc x ≠ []) :
    ∀ {xs : List α} {fuel : Nat}, (∀ x ∈ xs, wf x) → (∃ x ∈ xs, ∀ r, dec (enc x ++ r) = none) →
      readItems dec fuel (xs.flatMap enc) = none
  | [], _, _, ⟨_, hx, _⟩ => absurd hx List.not_mem_nil
  | x :: xs, fuel, hwf, ⟨y, hy, hbad⟩ => by
    have hx := hwf x List.mem_cons_self
    have hb : enc x ++ xs.flatMap enc ≠ [] := by simp [hne x hx]
    rw [List.flatMap_cons]
    cases fuel with
    | zero =>
      obtain ⟨c, cs, hc⟩ := List.exists_cons_of_ne_nil hb
      rw [hc]
      rfl
    | succ fuel =>
      rcases List.mem_cons.mp hy with rfl | hy
      · exact readItems_succ_eq_none hb (hbad _)
      · rcases hdel x (xs.flatMap enc) hx with hnone | ⟨z, hz⟩
        · exact readItems_succ_eq_none hb hnone
        · rw [readItems_succ hb hz,
            readItems_flatMap_eq_none hdel hne (fun w hw => hwf w (List.mem_cons_of_mem x hw))
              ⟨y, hy, hbad⟩]
          rfl

/-- A vector fails to read when one of its items does. -/
theorem readVec_encodeVec_eq_none (n : Nat) (hdel : Delimits enc dec wf)
    (hne : ∀ x, wf x → enc x ≠ []) {xs : List α} (hwf : ∀ x ∈ xs, wf x)
    (hbad : ∃ x ∈ xs, ∀ r, dec (enc x ++ r) = none) (hlen : (xs.flatMap enc).length < 256 ^ n)
    (r : List UInt8) : readVec n dec (encodeVec n enc xs ++ r) = none := by
  simp only [readVec, encodeVec, readBlock_encodeBlock hlen]
  rw [readItems_flatMap_eq_none hdel hne hwf hbad]
  rfl

end Delimits

/-! ## Decoders that make progress

The item loop of a vector stops only because each item takes bytes off the
block.  `ItemsLoop` is that loop as it runs, with no fuel: it relates a block
to the loop's result exactly when the loop stops on it.  For an item decoder
that takes at least one byte whenever it returns (`Progress`), the loop stops
on every block, with the result `readItems` computes on the block's length as
fuel (`itemsLoop_iff`). -/

section Progress

variable {α β : Type}

/-- `dec` never hands back more bytes than it was given. -/
def Shrinks (dec : Decoder α) : Prop := ∀ b x r, dec b = some (x, r) → r.length ≤ b.length

/-- `dec` takes at least one byte whenever it returns. -/
def Progress (dec : Decoder α) : Prop := ∀ b x r, dec b = some (x, r) → r.length < b.length

theorem Progress.shrinks {dec : Decoder α} (h : Progress dec) : Shrinks dec :=
  fun b x r hdec => Nat.le_of_lt (h b x r hdec)

theorem progress_readUInt {n : Nat} (hn : 0 < n) : Progress (readUInt n) := by
  intro b v r h
  rw [(eq_of_readUInt h).1, List.length_append, length_encodeUInt]
  omega

theorem progress_readBlock {n : Nat} (hn : 0 < n) : Progress (readBlock n) := by
  intro b p r h
  rw [(eq_of_readBlock h).1, List.length_append, length_encodeBlock]
  omega

/-- Wrapping what a decoder returns changes nothing of the bytes it takes. -/
theorem Shrinks.map {dec : Decoder α} (h : Shrinks dec) (f : α → β) :
    Shrinks fun b => (dec b).map fun p => (f p.1, p.2) := by
  intro b y r hmap
  obtain ⟨⟨x, r'⟩, hdec, hp⟩ := Option.map_eq_some_iff.mp hmap
  have hr : r' = r := (Prod.mk.inj hp).2
  rw [← hr]
  exact h b x r' hdec

/-- Progress is a property of what the decoder computes, however it is written. -/
theorem Progress.of_eq {dec dec' : Decoder α} (h : Progress dec) (heq : ∀ b, dec' b = dec b) :
    Progress dec' := by
  intro b x r h'
  rw [heq b] at h'
  exact h b x r h'

/-- A decoder that makes progress, followed by any that does not give bytes
back, makes progress. -/
theorem Progress.bind {dec : Decoder α} {k : α → Decoder β} (hdec : Progress dec)
    (hk : ∀ x, Shrinks (k x)) : Progress fun b => (dec b).bind fun p => k p.1 p.2 := by
  intro b y r hbind
  obtain ⟨⟨x, r'⟩, hfirst, hsecond⟩ := Option.bind_eq_some_iff.mp hbind
  exact Nat.lt_of_le_of_lt (hk x r' y r hsecond) (hdec b x r' hfirst)

/-- A vector takes at least its length prefix. -/
theorem progress_readVec {n : Nat} (hn : 0 < n) (dec : Decoder α) : Progress (readVec n dec) := by
  intro b xs r h
  simp only [readVec] at h
  split at h
  · cases h
  · rename_i sub r' hblock
    obtain ⟨ys, -, hys⟩ := Option.map_eq_some_iff.mp h
    cases hys
    exact progress_readBlock hn b sub r hblock

/-- `while sub.any_left() { ret.push(T::read(&mut sub)?) }` as it runs:
`ItemsLoop dec b res` when the loop started on the block `b` stops with `res`. -/
inductive ItemsLoop (dec : Decoder α) : List UInt8 → Option (List α) → Prop
  | done : ItemsLoop dec [] (some [])
  | fail {b : List UInt8} : b ≠ [] → dec b = none → ItemsLoop dec b none
  | next {b r : List UInt8} {x : α} {res : Option (List α)} :
      b ≠ [] → dec b = some (x, r) → ItemsLoop dec r res → ItemsLoop dec b (res.map (x :: ·))

/-- The loop is deterministic: where it stops, it stops with one result. -/
theorem ItemsLoop.unique {dec : Decoder α} {b : List UInt8} {res₁ res₂ : Option (List α)}
    (h₁ : ItemsLoop dec b res₁) (h₂ : ItemsLoop dec b res₂) : res₁ = res₂ := by
  induction h₁ generalizing res₂ with
  | done =>
    cases h₂ with
    | done => rfl
    | fail hne _ => exact absurd rfl hne
    | next hne _ _ => exact absurd rfl hne
  | fail hne hnone =>
    cases h₂ with
    | done => exact absurd rfl hne
    | fail _ _ => rfl
    | next _ hsome _ => rw [hnone] at hsome; cases hsome
  | next hne hsome hrest ih =>
    cases h₂ with
    | done => exact absurd rfl hne
    | fail _ hnone => rw [hnone] at hsome; cases hsome
    | next _ hsome' hrest' =>
      rw [hsome] at hsome'
      cases hsome'
      rw [ih hrest']

/-- With an item decoder that makes progress, the loop stops on every block,
with what the item loop computes on any fuel that covers the block. -/
theorem itemsLoop_readItems {dec : Decoder α} (hp : Progress dec) :
    ∀ (fuel : Nat) (b : List UInt8), b.length ≤ fuel → ItemsLoop dec b (readItems dec fuel b)
  | _, [], _ => by
    rw [readItems_nil]
    exact .done
  | 0, c :: cs, h => absurd h (by simp)
  | fuel + 1, c :: cs, h => by
    have hne : c :: cs ≠ [] := List.cons_ne_nil c cs
    cases hdec : dec (c :: cs) with
    | none =>
      rw [readItems_succ_eq_none hne hdec]
      exact .fail hne hdec
    | some p =>
      obtain ⟨x, r⟩ := p
      -- the item took a byte, so the fuel left covers what is left
      have hr := hp _ _ _ hdec
      have hfuel : r.length ≤ fuel := by
        simp only [List.length_cons] at h hr
        omega
      rw [readItems_succ hne hdec]
      exact .next hne hdec (itemsLoop_readItems hp fuel r hfuel)

/-- With an item decoder that makes progress, the loop's result on a block is
`readItems` on the block's length as fuel. -/
theorem itemsLoop_iff {dec : Decoder α} (hp : Progress dec) (b : List UInt8) (res : Option (List α)) :
    ItemsLoop dec b res ↔ readItems dec b.length b = res := by
  have hloop := itemsLoop_readItems hp b.length b (Nat.le_refl _)
  constructor
  · intro h
    exact (h.unique hloop).symm
  · intro h
    rw [← h]
    exact hloop

/-- A vector decoder takes its length prefix and exactly the bytes it declares. -/
theorem readVec_consumes {n : Nat} {dec : Decoder α} {b r : List UInt8} {xs : List α}
    (h : readVec n dec b = some (xs, r)) : ∃ sub, b = encodeBlock n sub ++ r ∧ sub.length < 256 ^ n := by
  simp only [readVec] at h
  split at h
  · cases h
  · rename_i sub r' hblock
    obtain ⟨ys, -, hys⟩ := Option.map_eq_some_iff.mp h
    cases hys
    exact ⟨sub, eq_of_readBlock hblock⟩

/-- `read_vec_u24_limited` refuses a declared length above `max`. -/
theorem readVecLimited_of_lt {n max len : Nat} {dec : Decoder α} {b r : List UInt8}
    (hlen : readUInt n b = some (len, r)) (hmax : max < len) : readVecLimited n max dec b = none := by
  simp [readVecLimited, hlen, hmax]

/-- A limited vector takes its length prefix and exactly the bytes it
declares, at most `max` of them. -/
theorem readVecLimited_consumes {n max : Nat} {dec : Decoder α} {b r : List UInt8} {xs : List α}
    (h : readVecLimited n max dec b = some (xs, r)) :
    ∃ sub, b = encodeBlock n sub ++ r ∧ sub.length ≤ max := by
  simp only [readVecLimited] at h
  split at h
  · cases h
  · rename_i len r' hlen
    split_ifs at h with hmax
    split at h
    · cases h
    · rename_i sub r'' htake
      obtain ⟨ys, -, hys⟩ := Option.map_eq_some_iff.mp h
      cases hys
      obtain ⟨hb, -⟩ := eq_of_readUInt hlen
      obtain ⟨hr', hsub⟩ := eq_of_take htake
      refine ⟨sub, ?_, by omega⟩
      rw [hb, hr', encodeBlock, hsub, List.append_assoc]

end Progress

end TcplsBasics.Verified.Codec
