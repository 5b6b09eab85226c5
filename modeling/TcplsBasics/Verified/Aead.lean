import Mathlib

/-!
# Authenticated encryption, as ring offers it

An AEAD algorithm (`Algorithm`) is known here by its key and tag lengths
and by two functions: `sealBytes` returns the ciphertext of a plaintext with
a tag of `tagLen` bytes after it, and `openBytes` gives the plaintext back from
what `sealBytes` made under the same key, nonce and additional data.  That is
all that is assumed of it; what `openBytes` does with any other input is left
open.

ring's `LessSafeKey` is a key bound to an algorithm, and its in-place
operations are derived from the two functions: `sealInPlaceSeparateTag`
returns the ciphertext and the tag apart, and `openWithin` opens the bytes
from an offset on, leaving the plaintext at the front.

A key derivation (`Kdf`) turns a secret, a label and a context into as many
bytes as asked for; the TLS 1.2 PRF and TLS 1.3's HKDF-Expand-Label are both
of this shape.  A nonce is a fixed IV XORed with a counter (`xorBytes`).

## Main results

* `LessSafeKey.openInPlace_sealInPlaceAppendTag`: opening undoes sealing.
* `LessSafeKey.openWithin_append`: opening from an offset skips what
  precedes the sealed bytes.
* `xorBytes_replicate_zero`: XOR with zeros leaves the other side as it is.
-/

namespace TcplsBasics.Verified.Aead

/-- An AEAD algorithm: `sealBytes key nonce aad plaintext` and its inverse. -/
structure Algorithm where
  keyLen : Nat
  tagLen : Nat
  sealBytes : List UInt8 → List UInt8 → List UInt8 → List UInt8 → List UInt8
  openBytes : List UInt8 → List UInt8 → List UInt8 → List UInt8 → Option (List UInt8)
  length_sealBytes : ∀ key nonce aad x, (sealBytes key nonce aad x).length = x.length + tagLen
  openBytes_sealBytes : ∀ key nonce aad x, openBytes key nonce aad (sealBytes key nonce aad x) = some x

/-- `aead::LessSafeKey`: key bytes bound to their algorithm. -/
structure LessSafeKey where
  algorithm : Algorithm
  key : List UInt8

namespace LessSafeKey

/-- `UnboundKey::new`: refuses a key of the wrong length. -/
def new? (alg : Algorithm) (key : List UInt8) : Option LessSafeKey :=
  if key.length = alg.keyLen then some ⟨alg, key⟩ else none

/-- `seal_in_place_append_tag`. -/
def sealInPlaceAppendTag (k : LessSafeKey) (nonce aad x : List UInt8) : List UInt8 :=
  k.algorithm.sealBytes k.key nonce aad x

/-- `seal_in_place_separate_tag`: the ciphertext, as long as the plaintext,
and the tag. -/
def sealInPlaceSeparateTag (k : LessSafeKey) (nonce aad x : List UInt8) :
    List UInt8 × List UInt8 :=
  ((k.sealInPlaceAppendTag nonce aad x).take x.length,
    (k.sealInPlaceAppendTag nonce aad x).drop x.length)

/-- `open_in_place`: the plaintext, if the bytes open. -/
def openInPlace (k : LessSafeKey) (nonce aad inOut : List UInt8) : Option (List UInt8) :=
  k.algorithm.openBytes k.key nonce aad inOut

/-- `open_within`: open the bytes from `src` on. -/
def openWithin (k : LessSafeKey) (nonce aad inOut : List UInt8) (src : Nat) :
    Option (List UInt8) :=
  if src ≤ inOut.length then k.openInPlace nonce aad (inOut.drop src) else none

variable (k : LessSafeKey) (nonce aad x : List UInt8)

@[simp] theorem new?_eq_some {alg : Algorithm} {key : List UInt8} (h : key.length = alg.keyLen) :
    new? alg key = some ⟨alg, key⟩ := if_pos h

@[simp] theorem length_sealInPlaceAppendTag :
    (k.sealInPlaceAppendTag nonce aad x).length = x.length + k.algorithm.tagLen :=
  k.algorithm.length_sealBytes _ _ _ _

@[simp] theorem openInPlace_sealInPlaceAppendTag :
    k.openInPlace nonce aad (k.sealInPlaceAppendTag nonce aad x) = some x :=
  k.algorithm.openBytes_sealBytes _ _ _ _

theorem sealInPlaceSeparateTag_append :
    (k.sealInPlaceSeparateTag nonce aad x).1 ++ (k.sealInPlaceSeparateTag nonce aad x).2 =
      k.sealInPlaceAppendTag nonce aad x :=
  List.take_append_drop _ _

theorem openWithin_append (pre : List UInt8) :
    k.openWithin nonce aad (pre ++ k.sealInPlaceAppendTag nonce aad x) pre.length = some x := by
  rw [openWithin, if_pos (by simp), List.drop_left, openInPlace_sealInPlaceAppendTag]

end LessSafeKey

/-- A key derivation: a secret, a label and a context give `n` bytes. -/
structure Kdf where
  derive : List UInt8 → List UInt8 → List UInt8 → Nat → List UInt8
  length_derive : ∀ secret label context n, (derive secret label context n).length = n

/-! ## Nonces -/

/-- Bytewise XOR, as long as the shorter side. -/
def xorBytes (a b : List UInt8) : List UInt8 := List.zipWith (· ^^^ ·) a b

@[simp] theorem length_xorBytes (a b : List UInt8) :
    (xorBytes a b).length = min a.length b.length :=
  List.length_zipWith

theorem take_xorBytes (n : Nat) (a b : List UInt8) :
    (xorBytes a b).take n = xorBytes (a.take n) (b.take n) :=
  List.take_zipWith

theorem xorBytes_replicate_zero {n : Nat} {b : List UInt8} (h : b.length = n) :
    xorBytes (List.replicate n 0) b = b := by
  subst h
  induction b with
  | nil => rfl
  | cons x b ih =>
    simp only [xorBytes, List.length_cons, List.replicate_succ, List.zipWith_cons_cons,
      UInt8.zero_xor] at ih ⊢
    rw [ih]

end TcplsBasics.Verified.Aead
