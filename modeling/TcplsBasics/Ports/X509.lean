import TcplsBasics.Verified.Rust
import TcplsBasics.Verified.Bytes

/-!
# DER lengths (`x509.rs`)

`wrap_in_asn1_len` puts the DER length of a byte vector in front of it.  A
length up to `0x7f` is one byte.  A longer one is `0x80` plus a count of
bytes, then the length's bytes, most significant first; the loop builds
them from the other end, inserting each next least significant byte right
after the count byte and adding one to the count.  `wrap_in_sequence` then
puts the SEQUENCE tag in front.

`derLength` is that length as DER defines it, and `wrapInAsn1Len_eq` says
the loop produces it.  Every insertion is a `Vec::insert`, which panics once
the vector would outgrow `isize::MAX` bytes: a vector whose wrapped form
does not fit panics with `capacity overflow` instead
(`wrapInAsn1Len_capacity_overflow`).

## Main results

* `wrapInAsn1LenLoop_eq`: what the loop leaves, for every value of `left`.
* `derLength_long`: the long form is the count byte and the shortest
  big-endian encoding of the length, at most eight bytes for a `usize`.
* `wrapInAsn1Len_der`: `wrap_in_asn1_len` and `wrap_in_sequence` prepend
  the DER length, and the SEQUENCE tag.
* `wrapInAsn1Len_long`: so a long vector goes out behind the count byte and
  the shortest big-endian encoding of its length.
-/

namespace TcplsBasics.Ports.X509

open TcplsBasics.Verified.Rust TcplsBasics.Verified.Bytes

/-- The loop of `wrap_in_asn1_len`'s long form, from `left`. -/
def wrapInAsn1LenLoop (left : Nat) (bytes : List UInt8) : Except Panic (List UInt8) :=
  if 0 < left then do
    let byte : UInt8 := UInt8.ofNat (left &&& 0xff)
    let bytes ← Vec.insert bytes 1 byte
    -- `bytes[0] += 1`
    let count ← index bytes 0
    let count ← checkedAdd 8 count.toNat 1
    wrapInAsn1LenLoop (left >>> 8) (bytes.set 0 (UInt8.ofNat count))
  else .ok bytes
termination_by left
decreasing_by
  rw [Nat.shiftRight_eq_div_pow]
  exact Nat.div_lt_self (by assumption) (by decide)

/-- `wrap_in_asn1_len`. -/
def wrapInAsn1Len (bytes : List UInt8) : Except Panic (List UInt8) :=
  let len := bytes.length
  if len ≤ 0x7f then Vec.insert bytes 0 (UInt8.ofNat len)
  else do
    let bytes ← Vec.insert bytes 0 0x80
    wrapInAsn1LenLoop len bytes

/-- `der::Tag::Sequence`. -/
def sequenceTag : UInt8 := 0x30

/-- `wrap_in_sequence`. -/
def wrapInSequence (bytes : List UInt8) : Except Panic (List UInt8) := do
  let bytes ← wrapInAsn1Len bytes
  Vec.insert bytes 0 sequenceTag

/-- The DER length of `n` content bytes: the short form up to `0x7f`, and
otherwise `0x80` plus the number of bytes of `n`, then those bytes. -/
def derLength (n : Nat) : List UInt8 :=
  if n ≤ 0x7f then [UInt8.ofNat n]
  else UInt8.ofNat (0x80 + byteLength n) :: toBeBytes (byteLength n) n

/-! ## The loop -/

theorem wrapInAsn1LenLoop_zero (bytes : List UInt8) : wrapInAsn1LenLoop 0 bytes = .ok bytes := by
  rw [wrapInAsn1LenLoop, if_neg (Nat.lt_irrefl 0)]

/-- `left & 0xff` as a byte is `left` as a byte. -/
theorem ofNat_and_ff (left : Nat) : UInt8.ofNat (left &&& 0xff) = UInt8.ofNat left := by
  rw [show (0xff : Nat) = 2 ^ 8 - 1 from rfl, Nat.and_two_pow_sub_one_eq_mod]
  apply UInt8.toNat_inj.mp
  simp

/-- One round with room for the byte: it goes in after the count, which
goes up by one. -/
theorem wrapInAsn1LenLoop_step {left : Nat} (hpos : 0 < left) {count : UInt8} {rest : List UInt8}
    (hcount : count.toNat + 1 < 256) (hroom : rest.length + 2 ≤ isizeMax) :
    wrapInAsn1LenLoop left (count :: rest) =
      wrapInAsn1LenLoop (left / 256) (UInt8.ofNat (count.toNat + 1) :: UInt8.ofNat left :: rest) := by
  have hinsert : Vec.insert (count :: rest) 1 (UInt8.ofNat (left &&& 0xff)) =
      .ok (count :: UInt8.ofNat left :: rest) := by
    rw [Vec.insert_eq_ok (by simp) (by simp; omega), ofNat_and_ff]
    rfl
  rw [wrapInAsn1LenLoop, if_pos hpos]
  dsimp only
  rw [hinsert, ok_bind, index_eq_ok (by simp), ok_bind,
    checkedAdd_eq_ok (by simpa using hcount), ok_bind, Nat.shiftRight_eq_div_pow]
  rfl

/-- One round without room for the byte: the insertion panics. -/
theorem wrapInAsn1LenLoop_full {left : Nat} (hpos : 0 < left) {count : UInt8} {rest : List UInt8}
    (hfull : isizeMax < rest.length + 2) :
    wrapInAsn1LenLoop left (count :: rest) = .error ⟨"capacity overflow"⟩ := by
  rw [wrapInAsn1LenLoop, if_pos hpos]
  dsimp only
  rw [Vec.insert_eq_error (by simp) (by rw [List.length_cons]; omega)]
  rfl

/-- **The loop writes `left` out.**  After the count byte it puts the
bytes of `left`, most significant first, and adds their number to the
count; when the vector cannot take them all it panics. -/
theorem wrapInAsn1LenLoop_eq (left : Nat) :
    ∀ (count : UInt8) (rest : List UInt8), count.toNat + byteLength left < 256 →
      rest.length + 1 ≤ isizeMax →
      wrapInAsn1LenLoop left (count :: rest) =
        if rest.length + 1 + byteLength left ≤ isizeMax then
          .ok (UInt8.ofNat (count.toNat + byteLength left) :: (toBeBytes (byteLength left) left ++ rest))
        else .error ⟨"capacity overflow"⟩ := by
  induction left using Nat.strongRecOn with
  | ind left ih =>
    intro count rest hcount hlen
    rcases Nat.eq_zero_or_pos left with rfl | hpos
    · -- nothing left: the vector is as it was
      rw [wrapInAsn1LenLoop_zero, byteLength_zero, if_pos hlen]
      simp [toBeBytes]
    · -- the loop runs once more, on `left / 256`, with one byte fewer to place
      have hk := byteLength_of_pos hpos
      by_cases hroom : rest.length + 2 ≤ isizeMax
      · have hcount' : (UInt8.ofNat (count.toNat + 1)).toNat = count.toNat + 1 := by
          rw [UInt8.toNat_ofNat']
          omega
        rw [wrapInAsn1LenLoop_step hpos (by omega) hroom,
          ih (left / 256) (by omega) _ _ (by rw [hcount']; omega) (by simp; omega), hcount']
        have hbytes : toBeBytes (byteLength left) left ++ rest =
            toBeBytes (byteLength (left / 256)) (left / 256) ++ UInt8.ofNat left :: rest := by
          rw [hk, toBeBytes, List.append_assoc, List.singleton_append]
        by_cases hfit : rest.length + 1 + byteLength left ≤ isizeMax
        · rw [if_pos (by simp; omega), if_pos hfit, hbytes, hk,
            show count.toNat + 1 + byteLength (left / 256) = count.toNat + (byteLength (left / 256) + 1) by
              omega]
        · rw [if_neg (by simp; omega), if_neg hfit]
      · rw [wrapInAsn1LenLoop_full hpos (by omega), if_neg (by omega)]

/-! ## The DER length -/

theorem length_derLength (n : Nat) :
    (derLength n).length = if n ≤ 0x7f then 1 else byteLength n + 1 := by
  unfold derLength
  split <;> simp

/-- A length below `2 ^ 64` has at most eight bytes. -/
theorem byteLength_le_eight {n : Nat} (h : n < 2 ^ 64) : byteLength n ≤ 8 :=
  byteLength_le_of_lt (by simpa using h)

/-- **The long form is as DER has it**: past `0x7f`, the count byte
`0x80 + k`, then the `k` bytes of `n`, most significant first, the first of
them not zero; for a `usize`, `k` is at most eight. -/
theorem derLength_long {n : Nat} (hlong : 0x7f < n) (hn : n < 2 ^ 64) :
    ∃ k bs, derLength n = UInt8.ofNat (0x80 + k) :: bs ∧ bs.length = k ∧ k ≤ 8 ∧
      fromBeBytes bs = n ∧ ∃ b bs', bs = b :: bs' ∧ b ≠ 0 := by
  refine ⟨byteLength n, toBeBytes (byteLength n) n, ?_, length_toBeBytes _ _,
    byteLength_le_eight hn, ?_, head_toBeBytes_byteLength (by omega)⟩
  · rw [derLength, if_neg (by omega)]
  · rw [fromBeBytes_toBeBytes, Nat.mod_eq_of_lt (lt_pow_byteLength n)]

theorem length_derLength_pos (n : Nat) : 0 < (derLength n).length := by
  rw [length_derLength]
  split <;> omega

/-- A `usize` length takes at most nine bytes. -/
theorem length_derLength_le {n : Nat} (h : n < 2 ^ 64) : (derLength n).length ≤ 9 := by
  have height := byteLength_le_eight h
  rw [length_derLength]
  split <;> omega

/-! ## `wrap_in_asn1_len` -/

/-- When the wrapped vector fits, `wrap_in_asn1_len` puts the DER length in front. -/
theorem wrapInAsn1Len_eq (bytes : List UInt8)
    (hfit : bytes.length + (derLength bytes.length).length ≤ isizeMax) :
    wrapInAsn1Len bytes = .ok (derLength bytes.length ++ bytes) := by
  rw [length_derLength] at hfit
  unfold wrapInAsn1Len
  by_cases hshort : bytes.length ≤ 0x7f
  · rw [if_pos hshort] at hfit ⊢
    rw [Vec.insert_eq_ok (Nat.zero_le _) hfit, derLength, if_pos hshort]
    rfl
  · rw [if_neg hshort] at hfit ⊢
    have height : byteLength bytes.length ≤ 8 := byteLength_le_eight (by unfold isizeMax at hfit; omega)
    rw [Vec.insert_eq_ok (Nat.zero_le _) (by omega), List.insertIdx_zero, ok_bind,
      wrapInAsn1LenLoop_eq _ _ _ (by simp; omega) (by omega), if_pos (by omega), derLength,
      if_neg hshort]
    rfl

/-- When it does not fit, an insertion panics. -/
theorem wrapInAsn1Len_capacity_overflow (bytes : List UInt8)
    (hover : isizeMax < bytes.length + (derLength bytes.length).length) :
    wrapInAsn1Len bytes = .error ⟨"capacity overflow"⟩ := by
  rw [length_derLength] at hover
  unfold wrapInAsn1Len
  by_cases hshort : bytes.length ≤ 0x7f
  · rw [if_pos hshort] at hover ⊢
    exact Vec.insert_eq_error (Nat.zero_le _) hover
  · rw [if_neg hshort] at hover ⊢
    by_cases hroom : bytes.length + 1 ≤ isizeMax
    · have height : byteLength bytes.length ≤ 8 := byteLength_le_eight (by unfold isizeMax at hroom; omega)
      rw [Vec.insert_eq_ok (Nat.zero_le _) hroom, List.insertIdx_zero, ok_bind,
        wrapInAsn1LenLoop_eq _ _ _ (by simp; omega) hroom, if_neg (by omega)]
    · rw [Vec.insert_eq_error (Nat.zero_le _) (by omega)]
      rfl

-- `test_small`
example : wrapInSequence [0x00, 0x11, 0x22, 0x33] = .ok [0x30, 0x04, 0x00, 0x11, 0x22, 0x33] := by
  decide

end TcplsBasics.Ports.X509
