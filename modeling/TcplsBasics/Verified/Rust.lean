import Mathlib

/-!
# The Rust semantics the models are written in

A model of a Rust function is a Lean function into `Except Panic`: `.ok v` is
a return, `.error p` is a panic with the message `p.msg`.  A `Result<T, E>`
that the function returns is a value like any other, so a fallible function
that may also panic has type `Except Panic (Except E T)`.

Arithmetic follows the debug profile, which is the one the repository's tests
run under: unsigned subtraction below zero and addition past the width panic
(`checkedSub`, `checkedAdd`).  Slicing and indexing panic out of bounds, and a
byte vector cannot grow past `isize::MAX` elements (`extendFromSlice`): this
is the guarantee of `Vec` that keeps every `u64` length and offset in range.

`std::collections::HashMap` is the list of its entries, with the distinctness
of the keys as a field (`HashMap.nodup`), so that a map with a repeated key
cannot be built.  Its iteration order is unspecified in Rust; a model visits
the entries in list order, and a statement that must hold for every order
quantifies over every permutation of the entries (`HashMap.reorder`).

Panic messages are the standard library's texts without the interpolated
numbers.

## Main results

* `checkedSub_eq_ok`, `checkedAdd_eq_ok`, `slice_eq_ok`, `extendFromSlice_eq_ok`:
  the in-bounds cases, which is what every model proof rewrites with.
* `HashMap.get?_insert`, `HashMap.get?_setValues_map`: lookups after an update.
* `HashMap.get?_reorder`: a lookup does not see the iteration order.
* `hasDuplicate_nil_eq_false_iff`: the `HashSet` scan for a repeated item
  finds none exactly on a duplicate-free list.
-/

namespace TcplsBasics.Verified.Rust

/-- A Rust panic, with the message the standard library prints. -/
structure Panic where
  msg : String
deriving DecidableEq, Repr

/-- `usize::MAX` on a 64-bit target. -/
def usizeMax : Nat := 2 ^ 64 - 1

/-- `isize::MAX` on a 64-bit target: no `Vec<u8>` is longer. -/
def isizeMax : Nat := 2 ^ 63 - 1

/-- The bytes a model reads and writes. -/
abbrev Bytes := List UInt8

/-! ## Unsigned arithmetic in the debug profile -/

/-- `a - b` on an unsigned integer: panics when `b > a`. -/
def checkedSub (a b : Nat) : Except Panic Nat :=
  if b ≤ a then .ok (a - b) else .error ⟨"attempt to subtract with overflow"⟩

/-- `a + b` on a `bits`-bit unsigned integer: panics past `2 ^ bits - 1`. -/
def checkedAdd (bits a b : Nat) : Except Panic Nat :=
  if a + b < 2 ^ bits then .ok (a + b) else .error ⟨"attempt to add with overflow"⟩

/-- `a * b` on a `bits`-bit unsigned integer: panics past `2 ^ bits - 1`. -/
def checkedMul (bits a b : Nat) : Except Panic Nat :=
  if a * b < 2 ^ bits then .ok (a * b) else .error ⟨"attempt to multiply with overflow"⟩

/-- `a.saturating_add(b)` on a `bits`-bit unsigned integer.  (`saturating_sub`
is `Nat` subtraction.) -/
def saturatingAdd (bits a b : Nat) : Nat := min (a + b) (2 ^ bits - 1)

@[simp] theorem checkedSub_eq_ok {a b : Nat} (h : b ≤ a) : checkedSub a b = .ok (a - b) := by
  simp [checkedSub, h]

@[simp] theorem checkedAdd_eq_ok {bits a b : Nat} (h : a + b < 2 ^ bits) :
    checkedAdd bits a b = .ok (a + b) := by
  simp [checkedAdd, h]

@[simp] theorem checkedMul_eq_ok {bits a b : Nat} (h : a * b < 2 ^ bits) :
    checkedMul bits a b = .ok (a * b) := by
  simp [checkedMul, h]

theorem checkedMul_eq_error {bits a b : Nat} (h : 2 ^ bits ≤ a * b) :
    checkedMul bits a b = .error ⟨"attempt to multiply with overflow"⟩ := by
  simp [checkedMul, Nat.not_lt.mpr h]

theorem saturatingAdd_le (bits a b : Nat) : saturatingAdd bits a b ≤ a + b := Nat.min_le_left _ _

/-! ## Sequencing

`Except.ok a >>= f` is `f a` by definition, but `simp` does not see it
through the `Monad` instance: these two lemmas let it step through a model's
`do` block one bind at a time. -/

@[simp] theorem ok_bind {ε α β : Type} (a : α) (f : α → Except ε β) :
    (Except.ok a >>= f) = f a := rfl

@[simp] theorem error_bind {ε α β : Type} (e : ε) (f : α → Except ε β) :
    (Except.error e >>= f) = Except.error e := rfl

/-- A sequence returns exactly when its first step returns and the rest
returns from there: how a proof takes a model's `do` block apart. -/
theorem bind_eq_ok {ε α β : Type} {x : Except ε α} {f : α → Except ε β} {b : β} :
    x >>= f = .ok b ↔ ∃ a, x = .ok a ∧ f a = .ok b := by
  cases x with
  | error e => simp
  | ok a => simp

/-! ## `Option` and `Result` -/

/-- `Option::expect` and `Option::unwrap`. -/
def expect {α : Type} (o : Option α) (msg : String) : Except Panic α :=
  match o with
  | some a => .ok a
  | none => .error ⟨msg⟩

/-- `Result::expect`: the message, then the error. -/
def expectOk {ε α : Type} (r : Except ε α) (msg : String) : Except Panic α :=
  match r with
  | .ok a => .ok a
  | .error _ => .error ⟨msg⟩

/-- The message `unwrap` prints on `None`. -/
def unwrapNone : String := "called `Option::unwrap()` on a `None` value"

/-- The message `unwrap` prints on `Err`. -/
def unwrapErr : String := "called `Result::unwrap()` on an `Err` value"

/-- The message of a failed `assert_eq!` or `debug_assert_eq!`. -/
def assertEqFailed : Panic := ⟨"assertion failed: `(left == right)`"⟩

@[simp] theorem expect_some {α : Type} (a : α) (msg : String) : expect (some a) msg = .ok a := rfl

@[simp] theorem expectOk_ok {ε α : Type} (a : α) (msg : String) :
    expectOk (.ok a : Except ε α) msg = .ok a := rfl

@[simp] theorem expectOk_error {ε α : Type} (e : ε) (msg : String) :
    expectOk (.error e : Except ε α) msg = .error ⟨msg⟩ := rfl

/-! ## Slices -/

section Slices

variable {α : Type}

/-- `&v[lo..hi]`: the order check comes before the length check, as in `core`. -/
def slice (v : List α) (lo hi : Nat) : Except Panic (List α) :=
  if lo ≤ hi then
    if hi ≤ v.length then .ok ((v.drop lo).take (hi - lo))
    else .error ⟨"range end index out of range for slice"⟩
  else .error ⟨"slice index starts after it ends"⟩

/-- `&v[lo..]`. -/
def sliceFrom (v : List α) (lo : Nat) : Except Panic (List α) :=
  if lo ≤ v.length then .ok (v.drop lo) else .error ⟨"range start index out of range for slice"⟩

/-- `v.split_at(mid)`. -/
def splitAt (v : List α) (mid : Nat) : Except Panic (List α × List α) :=
  if mid ≤ v.length then .ok (v.take mid, v.drop mid) else .error ⟨"mid > len"⟩

/-- `v[i]`. -/
def index (v : List α) (i : Nat) : Except Panic α :=
  match v[i]? with
  | some a => .ok a
  | none => .error ⟨"index out of bounds"⟩

/-- `v[lo..hi].clone_from_slice(src)`: the range is checked as by `slice`,
then the lengths must agree. -/
def cloneFromSlice (v : List α) (lo hi : Nat) (src : List α) : Except Panic (List α) := do
  let _ ← slice v lo hi
  if src.length = hi - lo then .ok (v.take lo ++ src ++ v.drop hi)
  else .error ⟨"destination and source slices have different lengths"⟩

/-- `v.copy_from_slice(src)`: the lengths must agree. -/
def copyFromSlice (v src : List α) : Except Panic (List α) :=
  if src.length = v.length then .ok src
  else .error ⟨"source slice length does not match destination slice length"⟩

/-- `v.copy_within(lo..hi, dest)`: the range is checked as by `slice`, and the
`hi - lo` items must fit from `dest` on. -/
def copyWithin (v : List α) (lo hi dest : Nat) : Except Panic (List α) := do
  let src ← slice v lo hi
  if dest + src.length ≤ v.length then .ok (v.take dest ++ src ++ v.drop (dest + src.length))
  else .error ⟨"dest is out of bounds"⟩

/-- `buf[offs..offs + src.len()].copy_from_slice(src)`, in bounds: the items
from `offs` on are overwritten with `src`. -/
def overwrite (buf : List α) (offs : Nat) (src : List α) : List α :=
  buf.take offs ++ src ++ buf.drop (offs + src.length)

/-- `v.resize(n, a)`: cut to `n` items, or filled up to `n` with `a`. -/
def resize (v : List α) (n : Nat) (a : α) : List α := v.take n ++ List.replicate (n - v.length) a

@[simp] theorem slice_eq_ok {v : List α} {lo hi : Nat} (h₁ : lo ≤ hi) (h₂ : hi ≤ v.length) :
    slice v lo hi = .ok ((v.drop lo).take (hi - lo)) := by
  simp [slice, h₁, h₂]

@[simp] theorem copyFromSlice_eq_ok {v src : List α} (h : src.length = v.length) :
    copyFromSlice v src = .ok src := if_pos h

theorem slice_length {v w : List α} {lo hi : Nat} (h : slice v lo hi = .ok w) :
    w.length = hi - lo := by
  unfold slice at h
  split at h
  · split at h
    · cases h
      simp only [List.length_take, List.length_drop]
      omega
    · cases h
  · cases h

@[simp] theorem splitAt_eq_ok {v : List α} {mid : Nat} (h : mid ≤ v.length) :
    splitAt v mid = .ok (v.take mid, v.drop mid) := if_pos h

@[simp] theorem sliceFrom_eq_ok {v : List α} {lo : Nat} (h : lo ≤ v.length) :
    sliceFrom v lo = .ok (v.drop lo) := by
  simp [sliceFrom, h]

theorem index_eq_ok {v : List α} {i : Nat} (h : i < v.length) : index v i = .ok v[i] := by
  simp [index, List.getElem?_eq_getElem h]

@[simp] theorem cloneFromSlice_eq_ok {v src : List α} {lo hi : Nat} (h₁ : lo ≤ hi)
    (h₂ : hi ≤ v.length) (h : src.length = hi - lo) :
    cloneFromSlice v lo hi src = .ok (v.take lo ++ src ++ v.drop hi) := by
  simp [cloneFromSlice, h₁, h₂, h]

theorem length_overwrite {buf src : List α} {offs : Nat} (h : offs + src.length ≤ buf.length) :
    (overwrite buf offs src).length = buf.length := by
  simp only [overwrite, List.length_append, List.length_take, List.length_drop]
  omega

@[simp] theorem overwrite_nil (buf : List α) (offs : Nat) : overwrite buf offs [] = buf := by
  simp [overwrite]

/-- Two writes side by side are one write of both. -/
theorem overwrite_overwrite {buf : List α} {offs : Nat} (h : offs ≤ buf.length) (s t : List α) :
    overwrite (overwrite buf offs s) (offs + s.length) t = overwrite buf offs (s ++ t) := by
  have hfront : (buf.take offs).length = offs := List.length_take_of_le h
  have hs : s.length ≤ s.length + t.length := Nat.le_add_right _ _
  simp [overwrite, List.take_append, List.drop_append, hfront, List.drop_drop, Nat.add_assoc,
    List.take_of_length_le, List.drop_eq_nil_of_le, hs]

@[simp] theorem copyWithin_eq_ok {v : List α} {lo hi dest : Nat} (h₁ : lo ≤ hi)
    (h₂ : hi ≤ v.length) (h : dest + (hi - lo) ≤ v.length) :
    copyWithin v lo hi dest =
      .ok (v.take dest ++ (v.drop lo).take (hi - lo) ++ v.drop (dest + (hi - lo))) := by
  have hlen : ((v.drop lo).take (hi - lo)).length = hi - lo := by simp; omega
  simp [copyWithin, h₁, h₂, hlen, h]

@[simp] theorem length_resize (v : List α) (n : Nat) (a : α) : (resize v n a).length = n := by
  simp [resize]
  omega

/-- Growing or cutting keeps the items that were there before the new length. -/
theorem take_resize {v : List α} {n m : Nat} (a : α) (h₁ : m ≤ n) (h₂ : m ≤ v.length) :
    (resize v n a).take m = v.take m := by
  have hm : m ≤ (v.take n).length := by simp; omega
  rw [resize, List.take_append_of_le_length hm, List.take_take, Nat.min_eq_left h₁]

/-! ### In-place writes

`cloneFromSlice` and `copyWithin` return `v.take lo ++ src ++ v.drop hi`: the
items before `lo` and from `hi` on are where they were. -/

section Splice

variable {v src : List α} {lo hi : Nat}

theorem length_splice (hs : src.length = hi - lo) (hlo : lo ≤ hi) (hhi : hi ≤ v.length) :
    (v.take lo ++ src ++ v.drop hi).length = v.length := by
  simp only [List.length_append, List.length_take, List.length_drop, hs]
  omega

/-- Reading at or after `hi` does not see the write. -/
theorem drop_take_splice_of_le (hs : src.length = hi - lo) (hlo : lo ≤ hi) (hhi : hi ≤ v.length)
    {n k : Nat} (hk : hi ≤ k) :
    ((v.take lo ++ src ++ v.drop hi).take n).drop k = (v.take n).drop k := by
  have hA : (v.take lo ++ src).length = hi := by simp [hs]; omega
  have hdrop : (v.take lo ++ src ++ v.drop hi).drop k = v.drop k := by
    rw [List.drop_append, List.drop_eq_nil_of_le (by omega), List.nil_append, hA, List.drop_drop,
      Nat.add_sub_cancel' hk]
  rw [List.drop_take, List.drop_take, hdrop]

/-- Reading before `lo` does not see the write. -/
theorem take_splice_of_le {k : Nat} (hk : k ≤ lo) (hlo : lo ≤ v.length) :
    (v.take lo ++ src ++ v.drop hi).take k = v.take k := by
  have hk' : k ≤ (v.take lo).length := by simp; omega
  rw [List.append_assoc, List.take_append_of_le_length hk', List.take_take, Nat.min_eq_left hk]

/-- What was before the write, from `j` on, then what was written. -/
theorem drop_take_splice_self (hs : src.length = hi - lo) (hlo : lo ≤ hi) (hhi : hi ≤ v.length)
    {j : Nat} (hj : j ≤ lo) :
    ((v.take lo ++ src ++ v.drop hi).take hi).drop j = (v.take lo).drop j ++ src := by
  have hA : (v.take lo ++ src).length = hi := by simp [hs]; omega
  have hj' : j ≤ (v.take lo).length := by simp; omega
  rw [← hA, List.take_left, List.drop_append_of_le_length hj']

end Splice

/-- The slice over the middle part of a concatenation is that part. -/
theorem slice_append_middle (a b c : List α) :
    slice (a ++ b ++ c) a.length (a.length + b.length) = .ok b := by
  rw [slice_eq_ok (by omega) (by simp)]
  simp

/-- The prefix slice `&v[..a.len()]` of a concatenation. -/
theorem slice_zero_append (a b : List α) : slice (a ++ b) 0 a.length = .ok a := by
  rw [slice_eq_ok (Nat.zero_le _) (by simp)]
  simp

theorem index_append_middle (a c : List α) (x : α) : index (a ++ x :: c) a.length = .ok x := by
  simp [index]

/-- The loop of `chunks`, on fuel: each round cuts off the next `n` items. -/
def chunksLoop (n : Nat) : Nat → List α → List (List α)
  | 0, _ => []
  | fuel + 1, v => if v = [] then [] else v.take n :: chunksLoop n fuel (v.drop n)

/-- `v.chunks(n)`, for `n > 0` (`core` panics on zero): slices of `n` items
in order, the last one possibly shorter.  The loop takes at least one item
a round, so fuel `v.len()` is enough. -/
def chunks (n : Nat) (_ : 0 < n) (v : List α) : List (List α) := chunksLoop n v.length v

section Chunks

variable {n : Nat} {hn : 0 < n}

@[simp] theorem chunksLoop_nil (fuel : Nat) : chunksLoop n fuel ([] : List α) = [] := by
  cases fuel <;> simp [chunksLoop]

/-- Any fuel that covers the items gives the same chunks. -/
theorem chunksLoop_eq (hn : 0 < n) :
    ∀ (fuel fuel' : Nat) (v : List α), v.length ≤ fuel → v.length ≤ fuel' →
      chunksLoop n fuel v = chunksLoop n fuel' v
  | 0, _, v, h, _ => by simp [List.eq_nil_of_length_eq_zero (Nat.le_zero.mp h)]
  | _ + 1, 0, v, _, h' => by simp [List.eq_nil_of_length_eq_zero (Nat.le_zero.mp h')]
  | fuel + 1, fuel' + 1, v, h, h' => by
    by_cases hv : v = []
    · simp [hv]
    · have hdrop : (v.drop n).length ≤ fuel ∧ (v.drop n).length ≤ fuel' := by
        simp only [List.length_drop]
        omega
      simp only [chunksLoop, hv, if_false, chunksLoop_eq hn fuel fuel' _ hdrop.1 hdrop.2]

@[simp] theorem chunks_nil : chunks n hn ([] : List α) = [] := by
  simp [chunks]

theorem chunks_of_ne_nil {v : List α} (h : v ≠ []) :
    chunks n hn v = v.take n :: chunks n hn (v.drop n) := by
  obtain ⟨k, hk⟩ : ∃ k, v.length = k + 1 :=
    Nat.exists_eq_succ_of_ne_zero (Nat.pos_iff_ne_zero.mp (List.length_pos_iff.mpr h))
  have hdrop : (v.drop n).length ≤ k := by
    simp only [List.length_drop]
    omega
  rw [chunks, hk, chunksLoop, if_neg h, chunks, chunksLoop_eq hn k _ _ hdrop (Nat.le_refl _)]

/-- Induction along the chunks of a slice: what holds of the empty slice, and
of every nonempty `v` once it holds of what is left after its first chunk,
holds of every slice. -/
theorem chunks_induction (hn : 0 < n) {motive : List α → Prop} (nil : motive [])
    (cons : ∀ v, v ≠ [] → motive (v.drop n) → motive v) (v : List α) : motive v := by
  induction v using WellFounded.induction (measure List.length).wf with
  | h v ih =>
    by_cases hv : v = []
    · rw [hv]
      exact nil
    · apply cons v hv
      apply ih
      have : 0 < v.length := List.length_pos_iff.mpr hv
      show (v.drop n).length < v.length
      simp only [List.length_drop]
      omega

/-- The chunks put back together are the slice. -/
@[simp] theorem flatten_chunks (v : List α) : (chunks n hn v).flatten = v := by
  induction v using WellFounded.induction (measure List.length).wf with
  | h v ih =>
    by_cases hv : v = []
    · simp [hv]
    · have hlt : (v.drop n).length < v.length := by
        have : 0 < v.length := List.length_pos_iff.mpr hv
        simp only [List.length_drop]
        omega
      rw [chunks_of_ne_nil hv, List.flatten_cons, ih _ hlt, List.take_append_drop]

/-- Every chunk is non-empty, so there are at most as many chunks as items. -/
theorem length_chunks_le (v : List α) : (chunks n hn v).length ≤ v.length := by
  induction v using WellFounded.induction (measure List.length).wf with
  | h v ih =>
    by_cases hv : v = []
    · simp [hv]
    · have hpos : 0 < v.length := List.length_pos_iff.mpr hv
      have hlt : (v.drop n).length < v.length := by
        simp only [List.length_drop]
        omega
      have hrest := ih _ hlt
      rw [chunks_of_ne_nil hv, List.length_cons]
      simp only [List.length_drop] at hrest
      omega

/-- Every chunk has at least one item and at most `n`. -/
theorem mem_chunks {v c : List α} (h : c ∈ chunks n hn v) : c ≠ [] ∧ c.length ≤ n := by
  induction v using WellFounded.induction (measure List.length).wf with
  | h v ih =>
    by_cases hv : v = []
    · rw [hv, chunks_nil] at h
      cases h
    · rw [chunks_of_ne_nil hv] at h
      rcases List.mem_cons.mp h with rfl | h
      · refine ⟨fun hnil => hv ?_, List.length_take_le _ _⟩
        exact (List.take_eq_nil_iff.mp hnil).resolve_left (Nat.pos_iff_ne_zero.mp hn)
      · have hlt : (v.drop n).length < v.length := by
          have : 0 < v.length := List.length_pos_iff.mpr hv
          simp only [List.length_drop]
          omega
        exact ih _ hlt h

end Chunks

end Slices

/-! ## Byte vectors -/

section Vec

variable {α : Type}

/-- `Vec::extend_from_slice`: reserving past `isize::MAX` bytes panics. -/
def extendFromSlice (v s : List α) : Except Panic (List α) :=
  if v.length + s.length ≤ isizeMax then .ok (v ++ s) else .error ⟨"capacity overflow"⟩

/-- `Vec::push`. -/
def push (v : List α) (a : α) : Except Panic (List α) :=
  extendFromSlice v [a]

/-- `Vec::insert`: panics past the end, and when the vector would outgrow
`isize::MAX` bytes. -/
def Vec.insert (v : List α) (index : Nat) (element : α) : Except Panic (List α) :=
  if index ≤ v.length then
    if v.length + 1 ≤ isizeMax then .ok (v.insertIdx index element) else .error ⟨"capacity overflow"⟩
  else .error ⟨"insertion index should be <= len"⟩

/-- `vec![a; n]`. -/
def fromElem (a : α) (n : Nat) : Except Panic (List α) :=
  if n ≤ isizeMax then .ok (List.replicate n a) else .error ⟨"capacity overflow"⟩

@[simp] theorem extendFromSlice_eq_ok {v s : List α} (h : v.length + s.length ≤ isizeMax) :
    extendFromSlice v s = .ok (v ++ s) := by
  simp [extendFromSlice, h]

@[simp] theorem push_eq_ok {v : List α} {a : α} (h : v.length + 1 ≤ isizeMax) :
    push v a = .ok (v ++ [a]) := by
  simp [push, extendFromSlice, h]

@[simp] theorem Vec.insert_eq_ok {v : List α} {index : Nat} {element : α} (hi : index ≤ v.length)
    (h : v.length + 1 ≤ isizeMax) : Vec.insert v index element = .ok (v.insertIdx index element) := by
  simp [Vec.insert, hi, h]

theorem Vec.insert_eq_error {v : List α} {index : Nat} {element : α} (hi : index ≤ v.length)
    (h : isizeMax < v.length + 1) : Vec.insert v index element = .error ⟨"capacity overflow"⟩ := by
  simp [Vec.insert, hi, Nat.not_le.mpr h]

@[simp] theorem fromElem_eq_ok {a : α} {n : Nat} (h : n ≤ isizeMax) :
    fromElem a n = .ok (List.replicate n a) := by
  simp [fromElem, h]

theorem extendFromSlice_eq_error {v s : List α} (h : isizeMax < v.length + s.length) :
    extendFromSlice v s = .error ⟨"capacity overflow"⟩ := by
  simp [extendFromSlice, Nat.not_le.mpr h]

end Vec

/-! ## `HashMap` -/

/-- `HashMap<K, V>`: its entries in the map's iteration order, keys distinct. -/
@[ext]
structure HashMap (K V : Type) [DecidableEq K] where
  entries : List (K × V)
  nodup : (entries.map Prod.fst).Nodup

namespace HashMap

variable {K V : Type} [DecidableEq K]

instance [DecidableEq V] : DecidableEq (HashMap K V) :=
  fun a b => decidable_of_iff (a.entries = b.entries) HashMap.ext_iff.symm

/-- `HashMap::new`. -/
def empty : HashMap K V := ⟨[], List.nodup_nil⟩

/-- `HashMap::get`. -/
def get? (m : HashMap K V) (k : K) : Option V := m.entries.lookup k

/-- `HashMap::contains_key`. -/
def containsKey (m : HashMap K V) (k : K) : Bool := (m.get? k).isSome

/-- `HashMap::values`, in iteration order. -/
def values (m : HashMap K V) : List V := m.entries.map Prod.snd

/-- The keys, in iteration order. -/
def keys (m : HashMap K V) : List K := m.entries.map Prod.fst

private theorem map_fst_map_replace (l : List (K × V)) (k : K) (v : V) :
    (l.map fun e => if e.1 = k then (k, v) else e).map Prod.fst = l.map Prod.fst := by
  induction l with
  | nil => rfl
  | cons e l ih =>
      simp only [List.map_cons, ih, List.cons.injEq, and_true]
      split <;> simp_all

/-- `HashMap::insert` (and `entry(k).or_insert(v)` on an absent key): an
existing key keeps its place, a new key goes after the others. -/
def insert (m : HashMap K V) (k : K) (v : V) : HashMap K V :=
  if h : k ∈ m.keys then
    ⟨m.entries.map (fun e => if e.1 = k then (k, v) else e), by
      rw [map_fst_map_replace]; exact m.nodup⟩
  else
    ⟨m.entries ++ [(k, v)], by
      rw [List.map_append, List.map_singleton, List.nodup_append]
      refine ⟨m.nodup, List.nodup_singleton k, ?_⟩
      intro a ha b hb
      rw [List.mem_singleton] at hb
      subst hb
      rintro rfl
      exact h ha⟩

omit [DecidableEq K] in
private theorem map_fst_setValues (l : List (K × V)) (vs : List V) :
    (l.zipWith (fun e v => (e.1, v)) vs ++ l.drop vs.length).map Prod.fst = l.map Prod.fst := by
  induction l generalizing vs with
  | nil => cases vs <;> rfl
  | cons e l ih =>
      cases vs with
      | nil => simp
      | cons v vs =>
          simp only [List.zipWith_cons_cons, List.length_cons, List.drop_succ_cons,
            List.cons_append, List.map_cons]
          rw [ih]

/-- Write `vs` back over the values in iteration order: what a `values_mut`
loop leaves behind.  The keys never change. -/
def setValues (m : HashMap K V) (vs : List V) : HashMap K V :=
  ⟨m.entries.zipWith (fun e v => (e.1, v)) vs ++ m.entries.drop vs.length, by
    rw [map_fst_setValues]; exact m.nodup⟩

omit [DecidableEq K] in
private theorem map_snd_zipWith (l : List (K × V)) (vs : List V) (h : vs.length = l.length) :
    (l.zipWith (fun e v => (e.1, v)) vs).map Prod.snd = vs := by
  induction l generalizing vs with
  | nil => exact (List.eq_nil_of_length_eq_zero h).symm
  | cons e l ih =>
      cases vs with
      | nil => cases h
      | cons v vs =>
          simp only [List.zipWith_cons_cons, List.map_cons, List.cons.injEq, true_and]
          exact ih vs (Nat.succ.inj h)

/-- Values written back in full are the map's values. -/
theorem values_setValues (m : HashMap K V) {vs : List V} (h : vs.length = m.entries.length) :
    (m.setValues vs).values = vs := by
  simp only [values, setValues, h, List.drop_length, List.append_nil]
  exact map_snd_zipWith m.entries vs h

/-- The same map, iterated in the order `l`. -/
def reorder (m : HashMap K V) (l : List (K × V)) (h : l.Perm m.entries) : HashMap K V :=
  ⟨l, (h.map Prod.fst).nodup_iff.mpr m.nodup⟩

/-- On distinct keys, `lookup` finds exactly the entries of the list. -/
theorem lookup_eq_some_iff_mem {l : List (K × V)} (hl : (l.map Prod.fst).Nodup) {k : K} {v : V} :
    l.lookup k = some v ↔ (k, v) ∈ l := by
  induction l with
  | nil => simp
  | cons e l ih =>
      obtain ⟨k', v'⟩ := e
      simp only [List.map_cons, List.nodup_cons, List.mem_map] at hl
      rw [List.lookup_cons, List.mem_cons]
      by_cases hk : k = k'
      · subst hk
        have hnot : (k, v) ∉ l := fun hm => hl.1 ⟨(k, v), hm, rfl⟩
        simp [hnot, eq_comm]
      · have hkb : (k == k') = false := by simpa using hk
        simp only [hkb, ih hl.2]
        constructor
        · exact Or.inr
        · rintro (h | h)
          · exact absurd (Prod.mk.inj h).1 hk
          · exact h

theorem get?_eq_some_iff {m : HashMap K V} {k : K} {v : V} :
    m.get? k = some v ↔ (k, v) ∈ m.entries :=
  lookup_eq_some_iff_mem m.nodup

/-- A lookup does not see the iteration order. -/
@[simp] theorem get?_reorder (m : HashMap K V) (l : List (K × V)) (h : l.Perm m.entries) (k : K) :
    (m.reorder l h).get? k = m.get? k := by
  cases hv : m.get? k with
  | none =>
      simp only [get?, reorder] at hv ⊢
      rw [List.lookup_eq_none_iff] at hv ⊢
      exact fun p hp => hv p (h.mem_iff.mp hp)
  | some v =>
      rw [get?_eq_some_iff] at hv ⊢
      exact h.mem_iff.mpr hv

theorem get?_eq_none_iff {m : HashMap K V} {k : K} : m.get? k = none ↔ k ∉ m.keys := by
  rw [get?, List.lookup_eq_none_iff]
  constructor
  · intro h hk
    obtain ⟨p, hp, rfl⟩ := List.mem_map.mp hk
    simpa using h p hp
  · intro h p hp
    simp only [bne_iff_ne, ne_eq]
    rintro rfl
    exact h (List.mem_map.mpr ⟨p, hp, rfl⟩)

@[simp] theorem get?_insert (m : HashMap K V) (k k' : K) (v : V) :
    (m.insert k v).get? k' = if k' = k then some v else m.get? k' := by
  unfold insert
  split
  · rename_i hk
    split
    · subst k'
      rw [get?_eq_some_iff]
      obtain ⟨e, he, hek⟩ := List.mem_map.mp hk
      exact List.mem_map.mpr ⟨e, he, by simp [hek]⟩
    · rename_i hne
      simp only [get?]
      induction m.entries with
      | nil => rfl
      | cons e l ih =>
          obtain ⟨k₀, v₀⟩ := e
          by_cases h₀ : k₀ = k
          · subst h₀
            have h₁ : (k' == k₀) = false := by simpa using hne
            simp [List.lookup_cons, h₁, ih]
          · simp [List.lookup_cons, h₀, ih]
  · rename_i hk
    have hnone : m.entries.lookup k = none := get?_eq_none_iff.mpr hk
    split
    · subst k'
      simp [get?, List.lookup_append, hnone]
    · rename_i hne
      have hsingle : [(k, v)].lookup k' = none := by
        rw [List.lookup_cons, beq_false_of_ne hne, List.lookup_nil]
      rw [get?, get?, List.lookup_append, hsingle, Option.or_none]

/-- An insert never removes a key. -/
theorem isSome_get?_insert (m : HashMap K V) {k k' : K} (v : V) (h : (m.get? k').isSome) :
    ((m.insert k v).get? k').isSome := by
  rw [get?_insert]
  split
  · rfl
  · exact h

omit [DecidableEq K] in
private theorem zipWith_map_self (l : List (K × V)) (f : K × V → V) :
    l.zipWith (fun e v => (e.1, v)) (l.map f) = l.map fun e => (e.1, f e) := by
  induction l with
  | nil => rfl
  | cons e l ih => simp [ih]

private theorem lookup_map_values (l : List (K × V)) (f : K × V → V) (k : K) :
    (l.map fun e => (e.1, f e)).lookup k = (l.lookup k).map fun v => f (k, v) := by
  induction l with
  | nil => rfl
  | cons e l ih =>
      obtain ⟨k', v⟩ := e
      by_cases hk : k = k'
      · subst hk
        simp
      · have hkb : (k == k') = false := by simpa using hk
        simp [List.lookup_cons, hkb, ih]

/-- A `values_mut` loop that rewrites each value by a function of its entry. -/
@[simp] theorem get?_setValues_map (m : HashMap K V) (f : K × V → V) (k : K) :
    (m.setValues (m.entries.map f)).get? k = (m.get? k).map fun v => f (k, v) := by
  simp only [setValues, get?, List.length_map, List.drop_length, List.append_nil, zipWith_map_self]
  exact lookup_map_values _ _ _

@[simp] theorem keys_insert_of_mem {m : HashMap K V} {k : K} (v : V) (h : k ∈ m.keys) :
    (m.insert k v).keys = m.keys := by
  unfold insert
  rw [dif_pos h]
  exact map_fst_map_replace m.entries k v

theorem mem_keys_iff {m : HashMap K V} {k : K} : k ∈ m.keys ↔ (m.get? k).isSome := by
  cases h : m.get? k with
  | none => simpa using get?_eq_none_iff.mp h
  | some v =>
      simp only [Option.isSome_some, iff_true]
      exact List.mem_map.mpr ⟨(k, v), get?_eq_some_iff.mp h, rfl⟩

@[simp] theorem keys_insert_of_not_mem {m : HashMap K V} {k : K} (v : V) (h : k ∉ m.keys) :
    (m.insert k v).keys = m.keys ++ [k] := by
  unfold insert
  rw [dif_neg h]
  simp [keys]

/-- `HashMap::len`. -/
def len (m : HashMap K V) : Nat := m.entries.length

theorem len_eq_length_keys (m : HashMap K V) : m.len = m.keys.length := by
  simp [len, keys]

/-- `HashMap::remove`: the value the key had, and the map without it. -/
def remove (m : HashMap K V) (k : K) : Option V × HashMap K V :=
  (m.get? k, ⟨m.entries.filter (fun e => e.1 ≠ k), ((List.filter_sublist).map Prod.fst).nodup m.nodup⟩)

@[simp] theorem get?_remove (m : HashMap K V) (k k' : K) :
    (m.remove k).2.get? k' = if k' = k then none else m.get? k' := by
  apply Option.ext
  intro v
  rw [get?_eq_some_iff]
  simp only [remove, List.mem_filter, decide_eq_true_eq]
  split
  · rename_i hk
    simp [hk]
  · rename_i hk
    rw [get?_eq_some_iff]
    simp [hk]

@[simp] theorem keys_remove (m : HashMap K V) (k : K) :
    (m.remove k).2.keys = m.keys.filter (fun k' => k' ≠ k) := by
  simp only [remove, keys, List.filter_map]
  rfl

end HashMap

/-! ## A `HashSet` scan for repeats -/

section Duplicates

variable {α : Type} [DecidableEq α]

/-- The `has_duplicate_extension` loop: walk the items with the set `seen` of
those already visited, and stop at the first one already in it. -/
def hasDuplicate (seen : List α) : List α → Bool
  | [] => false
  | a :: as => if a ∈ seen then true else hasDuplicate (a :: seen) as

/-- The scan finds nothing exactly when the items are distinct and new. -/
theorem hasDuplicate_eq_false_iff {seen l : List α} :
    hasDuplicate seen l = false ↔ l.Nodup ∧ ∀ a ∈ l, a ∉ seen := by
  induction l generalizing seen with
  | nil => simp [hasDuplicate]
  | cons a l ih =>
      by_cases ha : a ∈ seen
      · simp [hasDuplicate, ha]
      · simp only [hasDuplicate, ha, if_false, ih, List.nodup_cons, List.mem_cons]
        constructor
        · rintro ⟨hl, hnew⟩
          exact ⟨⟨fun hal => hnew a hal (.inl rfl), hl⟩, fun b hb hbs => by
            rcases hb with rfl | hb
            exacts [ha hbs, hnew b hb (.inr hbs)]⟩
        · rintro ⟨⟨hal, hl⟩, hnew⟩
          refine ⟨hl, fun b hb hbs => ?_⟩
          rcases hbs with rfl | hbs
          exacts [hal hb, hnew b (.inr hb) hbs]

/-- From an empty set, the scan finds nothing exactly on distinct items. -/
theorem hasDuplicate_nil_eq_false_iff {l : List α} : hasDuplicate [] l = false ↔ l.Nodup := by
  simp [hasDuplicate_eq_false_iff]

end Duplicates

end TcplsBasics.Verified.Rust
