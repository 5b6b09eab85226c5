import Mathlib

/-!
# Hashes and HMAC, as ring offers them

A digest algorithm is known here by its output length and one function from
the bytes hashed to the digest; nothing else is assumed of it.  A streaming
`Context` keeps what it was given, so that finishing it hashes the bytes fed
to it in order, whatever the pieces were: that is the one property of ring's
`digest::Context` the models rely on.

An HMAC algorithm, likewise, is a keyed function whose tags are as long as
its digest.
-/

namespace TcplsBasics.Verified.Digest

/-- `digest::Algorithm`: the hash of a byte string, `outputLen` bytes long. -/
structure Algorithm where
  outputLen : Nat
  hash : List UInt8 → List UInt8
  length_hash : ∀ data, (hash data).length = outputLen

/-- A digest of `n` bytes that hashes only the length of its input, to run
the models on concrete inputs. -/
def lengthDigest (n : Nat) : Algorithm :=
  ⟨n, fun data => List.replicate n (UInt8.ofNat data.length), fun _ => List.length_replicate⟩

/-- `digest::Context`: the algorithm and the bytes given to it so far. -/
structure Context where
  algorithm : Algorithm
  data : List UInt8

namespace Context

/-- `Context::new`. -/
def new (algorithm : Algorithm) : Context := ⟨algorithm, []⟩

/-- `Context::update`. -/
def update (ctx : Context) (data : List UInt8) : Context := ⟨ctx.algorithm, ctx.data ++ data⟩

/-- `Context::finish`. -/
def finish (ctx : Context) : List UInt8 := ctx.algorithm.hash ctx.data

@[simp] theorem update_nil (ctx : Context) : ctx.update [] = ctx := by
  simp [update]

@[simp] theorem update_update (ctx : Context) (a b : List UInt8) :
    (ctx.update a).update b = ctx.update (a ++ b) := by
  simp [update, List.append_assoc]

/-- A context started on an algorithm hashes what it was given. -/
@[simp] theorem finish_new_update (algorithm : Algorithm) (data : List UInt8) :
    ((new algorithm).update data).finish = algorithm.hash data := rfl

end Context

/-- `digest::digest`. -/
def digest (algorithm : Algorithm) (data : List UInt8) : List UInt8 := algorithm.hash data

@[simp] theorem length_digest (algorithm : Algorithm) (data : List UInt8) :
    (digest algorithm data).length = algorithm.outputLen :=
  algorithm.length_hash data

/-- `hmac::Algorithm`: a keyed `sign`, whose tags are as long as the digest. -/
structure HmacAlgorithm where
  digestAlgorithm : Algorithm
  sign : List UInt8 → List UInt8 → List UInt8
  length_sign : ∀ key data, (sign key data).length = digestAlgorithm.outputLen
  outputLen_pos : 0 < digestAlgorithm.outputLen

end TcplsBasics.Verified.Digest
