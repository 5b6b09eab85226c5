import Mathlib

/-!
# Big-endian byte strings

`u16::to_be_bytes`, `u32::to_be_bytes`, `u64::to_be_bytes` and their
`from_be_bytes` inverses, for every width at once: `toBeBytes n v` is the
`n`-byte encoding of `v` taken modulo `256 ^ n`, most significant byte first,
and `fromBeBytes` reads any byte string back as a natural number.

`toBeBytes` peels the least significant byte off the end, so that a length
induction on `n` meets `List.foldl` over an appended singleton, which is the
shape `fromBeBytes_append` rewrites.

## Main results

* `length_toBeBytes`: the encoding has exactly `n` bytes.
* `fromBeBytes_toBeBytes`: reading an encoding back gives `v % 256 ^ n`.
* `toBeBytes_fromBeBytes`: every byte string is the encoding of its value.
* `fromBeBytes_lt`: the value of `n` bytes is below `256 ^ n`.
* `lt_pow_byteLength`, `pow_pred_byteLength_le`: `byteLength v` is the width of
  the shortest encoding of `v`, whose first byte is not zero
  (`head_toBeBytes_byteLength`).
* `xor_and_of_and_eq_zero`, `xor_xor_cancel_right`: a mask cut down to some
  bits leaves the others alone, and applying it twice undoes it.
-/

namespace TcplsBasics.Verified.Bytes

/-- `to_be_bytes` at width `n` bytes: `v` modulo `256 ^ n`, most significant first. -/
def toBeBytes : Nat → Nat → List UInt8
  | 0, _ => []
  | n + 1, v => toBeBytes n (v / 256) ++ [UInt8.ofNat v]

/-- `from_be_bytes`: the value of a big-endian byte string. -/
def fromBeBytes (bs : List UInt8) : Nat :=
  bs.foldl (fun acc b => acc * 256 + b.toNat) 0

@[simp] theorem length_toBeBytes (n v : Nat) : (toBeBytes n v).length = n := by
  induction n generalizing v with
  | zero => rfl
  | succ n ih => simp [toBeBytes, ih]

private theorem foldl_acc (bs : List UInt8) (a : Nat) :
    bs.foldl (fun acc b => acc * 256 + b.toNat) a
      = a * 256 ^ bs.length + bs.foldl (fun acc b => acc * 256 + b.toNat) 0 := by
  induction bs generalizing a with
  | nil => simp
  | cons b bs ih =>
      simp only [List.foldl_cons, List.length_cons, Nat.zero_mul, Nat.zero_add]
      rw [ih, ih b.toNat, Nat.pow_succ]
      grind

@[simp] theorem fromBeBytes_nil : fromBeBytes [] = 0 := rfl

theorem fromBeBytes_cons (b : UInt8) (bs : List UInt8) :
    fromBeBytes (b :: bs) = b.toNat * 256 ^ bs.length + fromBeBytes bs := by
  simp only [fromBeBytes, List.foldl_cons, Nat.zero_mul, Nat.zero_add]
  exact foldl_acc bs b.toNat

theorem fromBeBytes_append (l₁ l₂ : List UInt8) :
    fromBeBytes (l₁ ++ l₂) = fromBeBytes l₁ * 256 ^ l₂.length + fromBeBytes l₂ := by
  simp only [fromBeBytes, List.foldl_append]
  exact foldl_acc l₂ _

theorem fromBeBytes_lt (bs : List UInt8) : fromBeBytes bs < 256 ^ bs.length := by
  induction bs with
  | nil => simp
  | cons b bs ih =>
      rw [fromBeBytes_cons, List.length_cons, Nat.pow_succ]
      have hb : b.toNat < 256 := b.toNat_lt
      calc b.toNat * 256 ^ bs.length + fromBeBytes bs
          < b.toNat * 256 ^ bs.length + 256 ^ bs.length := by omega
        _ = (b.toNat + 1) * 256 ^ bs.length := by grind
        _ ≤ 256 * 256 ^ bs.length := Nat.mul_le_mul_right _ hb
        _ = 256 ^ bs.length * 256 := Nat.mul_comm _ _

theorem fromBeBytes_toBeBytes (n v : Nat) : fromBeBytes (toBeBytes n v) = v % 256 ^ n := by
  induction n generalizing v with
  | zero => simp [toBeBytes, Nat.mod_one]
  | succ n ih =>
      have hsingle : fromBeBytes [UInt8.ofNat v] = v % 256 := by
        simp [fromBeBytes]
      -- the low byte, then the `n` bytes above it: `Nat.mod_mul` splits the modulus the same way
      rw [toBeBytes, fromBeBytes_append, ih, hsingle, List.length_singleton, Nat.pow_one,
        Nat.pow_succ, Nat.mul_comm (256 ^ n) 256, Nat.mod_mul, Nat.add_comm, Nat.mul_comm]

/-- The encoding of a value below `256 ^ n` reads back as that value. -/
theorem fromBeBytes_toBeBytes_of_lt {n v : Nat} (h : v < 256 ^ n) :
    fromBeBytes (toBeBytes n v) = v := by
  rw [fromBeBytes_toBeBytes, Nat.mod_eq_of_lt h]

theorem toBeBytes_fromBeBytes (bs : List UInt8) : toBeBytes bs.length (fromBeBytes bs) = bs := by
  induction bs using List.reverseRecOn with
  | nil => rfl
  | append_singleton bs b ih =>
      rw [List.length_append, List.length_singleton, toBeBytes, fromBeBytes_append]
      simp only [List.length_singleton, Nat.pow_one, fromBeBytes_cons, List.length_nil,
        Nat.pow_zero, Nat.mul_one, fromBeBytes_nil, Nat.add_zero]
      have hb : b.toNat < 256 := b.toNat_lt
      have hdiv : (fromBeBytes bs * 256 + b.toNat) / 256 = fromBeBytes bs := by omega
      have hbyte : UInt8.ofNat (fromBeBytes bs * 256 + b.toNat) = b := by
        apply UInt8.toNat_inj.mp
        rw [UInt8.toNat_ofNat']
        omega
      rw [hdiv, ih, hbyte]

/-! ## The shortest encoding -/

/-- The number of significant bytes of `v`. -/
def byteLength (v : Nat) : Nat :=
  if v = 0 then 0 else byteLength (v / 256) + 1
termination_by v
decreasing_by omega

@[simp] theorem byteLength_zero : byteLength 0 = 0 := by
  rw [byteLength, if_pos rfl]

theorem byteLength_of_pos {v : Nat} (h : 0 < v) : byteLength v = byteLength (v / 256) + 1 := by
  rw [byteLength, if_neg (Nat.pos_iff_ne_zero.mp h)]

/-- `byteLength v` bytes hold `v`. -/
theorem lt_pow_byteLength (v : Nat) : v < 256 ^ byteLength v := by
  induction v using Nat.strongRecOn with
  | ind v ih =>
    rcases Nat.eq_zero_or_pos v with rfl | hv
    · simp
    · have hrest := ih (v / 256) (by omega)
      rw [byteLength_of_pos hv, Nat.pow_succ]
      omega

/-- One byte fewer does not: the first byte is significant. -/
theorem pow_pred_byteLength_le {v : Nat} (hv : 0 < v) : 256 ^ (byteLength v - 1) ≤ v := by
  induction v using Nat.strongRecOn with
  | ind v ih =>
    rw [byteLength_of_pos hv, Nat.add_sub_cancel]
    rcases Nat.lt_or_ge v 256 with hsmall | hbig
    · have hzero : v / 256 = 0 := by omega
      rw [hzero, byteLength_zero, Nat.pow_zero]
      omega
    · have hrest := ih (v / 256) (by omega) (by omega)
      have hpos : 0 < byteLength (v / 256) := by
        rw [byteLength_of_pos (by omega : 0 < v / 256)]
        omega
      obtain ⟨k, hk⟩ : ∃ k, byteLength (v / 256) = k + 1 := ⟨_, (Nat.succ_pred_eq_of_pos hpos).symm⟩
      rw [hk, Nat.add_sub_cancel] at hrest
      rw [hk, Nat.pow_succ]
      omega

/-- A value below `256 ^ k` has at most `k` significant bytes. -/
theorem byteLength_le_of_lt {v k : Nat} (h : v < 256 ^ k) : byteLength v ≤ k := by
  rcases Nat.eq_zero_or_pos v with rfl | hv
  · simp
  · have hlow := pow_pred_byteLength_le hv
    have hmono : 256 ^ (byteLength v - 1) < 256 ^ k := Nat.lt_of_le_of_lt hlow h
    have := (Nat.pow_lt_pow_iff_right (by decide : 1 < 256)).mp hmono
    omega

/-- The first of `n + 1` bytes is the value's top byte. -/
theorem head_toBeBytes (n v : Nat) :
    (toBeBytes (n + 1) v).head? = some (UInt8.ofNat (v / 256 ^ n)) := by
  induction n generalizing v with
  | zero => simp [toBeBytes]
  | succ n ih =>
    rw [toBeBytes, List.head?_append, ih, Nat.div_div_eq_div_mul, ← Nat.pow_succ']
    rfl

/-- The shortest encoding of a nonzero value starts with a nonzero byte. -/
theorem head_toBeBytes_byteLength {v : Nat} (hv : 0 < v) :
    ∃ b bs, toBeBytes (byteLength v) v = b :: bs ∧ b ≠ 0 := by
  obtain ⟨k, hk⟩ : ∃ k, byteLength v = k + 1 := ⟨_, byteLength_of_pos hv⟩
  have hlow := pow_pred_byteLength_le hv
  have hhigh := lt_pow_byteLength v
  rw [hk, Nat.add_sub_cancel] at hlow
  rw [hk, Nat.pow_succ] at hhigh
  have htop : 0 < v / 256 ^ k ∧ v / 256 ^ k < 256 := by
    have hpow : 0 < 256 ^ k := Nat.pow_pos (by decide)
    constructor
    · exact Nat.div_pos hlow hpow
    · exact (Nat.div_lt_iff_lt_mul hpow).mpr (by rw [Nat.mul_comm]; exact hhigh)
  cases hbs : toBeBytes (byteLength v) v with
  | nil => simp [hk, toBeBytes] at hbs
  | cons b bs =>
    have hhead := head_toBeBytes k v
    rw [← hk, hbs, List.head?_cons, Option.some.injEq] at hhead
    refine ⟨b, bs, rfl, ?_⟩
    rw [hhead]
    intro h0
    have hzero := congrArg UInt8.toNat h0
    simp [Nat.mod_eq_of_lt htop.2] at hzero
    omega

/-! ## Masks -/

/-- `&` distributes over `^`, byte by byte. -/
theorem and_xor_distrib_right (a b c : UInt8) : (a ^^^ b) &&& c = (a &&& c) ^^^ (b &&& c) := by
  apply UInt8.toNat_inj.mp
  rw [UInt8.toNat_and, UInt8.toNat_xor, UInt8.toNat_xor, UInt8.toNat_and, UInt8.toNat_and,
    Nat.and_xor_distrib_right]

/-- A mask cut down to the bits of `m` leaves the bits outside `m` alone. -/
theorem xor_and_of_and_eq_zero {m c : UInt8} (h : m &&& c = 0) (f x : UInt8) :
    (f ^^^ (x &&& m)) &&& c = f &&& c := by
  rw [and_xor_distrib_right, UInt8.and_assoc, h, UInt8.and_zero, UInt8.xor_zero]

/-- The same mask twice is no mask. -/
@[simp] theorem xor_xor_cancel_right (a b : UInt8) : a ^^^ b ^^^ b = a := by
  rw [UInt8.xor_assoc, UInt8.xor_self, UInt8.xor_zero]

end TcplsBasics.Verified.Bytes
