import TcplsBasics.Verified.Rust

/-!
# A bounded map that forgets its oldest keys (`limited_cache.rs`)

`LimitedCache` keeps a `HashMap` and, beside it, the queue `oldest` of its
keys in the order they came in.  A new key goes to the back of the queue; an
old key written again keeps its place.  After a new key, once the queue has
filled the capacity that `VecDeque::with_capacity` allocated, the key at its
front leaves the queue and the map, so that the next push never grows the
queue.  `remove` takes the key out of the map and, by a linear search, out of
the queue.

The capacity is a field fixed by `new`: the queue is never full when a key is
pushed (`WellFormed.length_lt`), so it never reallocates.

`FifoMap` says what the cache is for: a map with its keys in arrival order
that forgets the oldest key once `capacity` keys are in.  `Abstracts` relates
a cache to such a map, and every operation keeps the relation on a
well-formed cache, one where the map's keys are the queue's, each once.

## Main results

* `WellFormed.apply`: every operation keeps the map and the queue in step.
* `Abstracts.apply`: every operation does to the cache what it does to the
  reference map.
* `limitedCache_fifo`: along any run from `new`, the map and the queue agree,
  the map holds fewer keys than the capacity, and every lookup is the
  reference map's.
-/

namespace TcplsBasics.Ports.Cache

open TcplsBasics.Verified.Rust

/-- `LimitedCache<K, V>`, with the capacity of `oldest`. -/
structure LimitedCache (K V : Type) [DecidableEq K] where
  map : HashMap K V
  /-- first item is the oldest key -/
  oldest : List K
  capacity : Nat

/-- The operations that change a cache. -/
inductive CacheOp (K V : Type) where
  | insert (k : K) (v : V)
  | getOrInsertDefaultAndEdit (k : K) (edit : V → V)
  | remove (k : K)

namespace LimitedCache

variable {K V : Type} [DecidableEq K]

/-- `LimitedCache::new`, with the capacity the `VecDeque` was allocated with. -/
def new (capacity : Nat) : LimitedCache K V := ⟨.empty, [], capacity⟩

/-- The end of both insertions: "ensure next insertion does not require a
realloc". -/
def evictIfFull (c : LimitedCache K V) (insertedNewItem : Bool) : LimitedCache K V :=
  if insertedNewItem && c.capacity == c.oldest.length then
    match c.oldest with
    | oldestKey :: oldest => { c with map := (c.map.remove oldestKey).2, oldest := oldest }
    | [] => c
  else c

/-- `LimitedCache::get_or_insert_default_and_edit`. -/
def getOrInsertDefaultAndEdit [Inhabited V] (c : LimitedCache K V) (k : K) (edit : V → V) :
    LimitedCache K V :=
  let (insertedNewItem, c) :=
    match c.map.get? k with
    | some value => (false, { c with map := c.map.insert k (edit value) })
    | none => (true, { c with oldest := c.oldest ++ [k], map := c.map.insert k (edit default) })
  c.evictIfFull insertedNewItem

/-- `LimitedCache::insert`: an old key's place in `oldest` is not freshened. -/
def insert (c : LimitedCache K V) (k : K) (v : V) : LimitedCache K V :=
  let (insertedNewItem, c) :=
    match c.map.get? k with
    | some _ => (false, { c with map := c.map.insert k v })
    | none => (true, { c with oldest := c.oldest ++ [k], map := c.map.insert k v })
  c.evictIfFull insertedNewItem

/-- `LimitedCache::get`. -/
def get (c : LimitedCache K V) (k : K) : Option V := c.map.get? k

/-- `LimitedCache::remove`. -/
def remove (c : LimitedCache K V) (k : K) : Option V × LimitedCache K V :=
  match c.map.remove k with
  | (some value, map) =>
    match c.oldest.findIdx? (fun item => item == k) with
    | some index => (some value, { c with map := map, oldest := c.oldest.eraseIdx index })
    | none => (some value, { c with map := map })
  | (none, map) => (none, { c with map := map })

/-- One operation. -/
def apply [Inhabited V] (c : LimitedCache K V) : CacheOp K V → LimitedCache K V
  | .insert k v => c.insert k v
  | .getOrInsertDefaultAndEdit k edit => c.getOrInsertDefaultAndEdit k edit
  | .remove k => (c.remove k).2

/-- A run of operations. -/
def run [Inhabited V] (c : LimitedCache K V) (ops : List (CacheOp K V)) : LimitedCache K V :=
  ops.foldl apply c

end LimitedCache

/-! ## What the cache is for -/

/-- A map with its keys in arrival order, that forgets the oldest key once
`capacity` keys are in. -/
structure FifoMap (K V : Type) where
  lookup : K → Option V
  queue : List K
  capacity : Nat

namespace FifoMap

variable {K V : Type} [DecidableEq K]

/-- No keys. -/
def empty (capacity : Nat) : FifoMap K V := ⟨fun _ => none, [], capacity⟩

/-- Forget the oldest key. -/
def dropOldest (r : FifoMap K V) : FifoMap K V :=
  match r.queue with
  | [] => r
  | k :: queue => ⟨Function.update r.lookup k none, queue, r.capacity⟩

/-- Give `k` the value `v`: a key already in keeps its place, a new one goes
last, and the oldest key goes once the queue reaches the capacity. -/
def write (r : FifoMap K V) (k : K) (v : V) : FifoMap K V :=
  if (r.lookup k).isSome then { r with lookup := Function.update r.lookup k (some v) }
  else
    let r : FifoMap K V := ⟨Function.update r.lookup k (some v), r.queue ++ [k], r.capacity⟩
    if r.queue.length = r.capacity then r.dropOldest else r

/-- Forget `k`. -/
def erase (r : FifoMap K V) (k : K) : FifoMap K V :=
  ⟨Function.update r.lookup k none, r.queue.erase k, r.capacity⟩

/-- One operation: editing writes the edited value, or the edited default. -/
def apply [Inhabited V] (r : FifoMap K V) : CacheOp K V → FifoMap K V
  | .insert k v => r.write k v
  | .getOrInsertDefaultAndEdit k edit => r.write k (edit ((r.lookup k).getD default))
  | .remove k => r.erase k

/-- A run of operations. -/
def run [Inhabited V] (r : FifoMap K V) (ops : List (CacheOp K V)) : FifoMap K V :=
  ops.foldl apply r

@[simp] theorem dropOldest_of_nil {r : FifoMap K V} (h : r.queue = []) : r.dropOldest = r := by
  rw [dropOldest, h]

@[simp] theorem dropOldest_of_cons {r : FifoMap K V} {k : K} {queue : List K}
    (h : r.queue = k :: queue) :
    r.dropOldest = ⟨Function.update r.lookup k none, queue, r.capacity⟩ := by
  rw [dropOldest, h]

@[simp] theorem capacity_write (r : FifoMap K V) (k : K) (v : V) : (r.write k v).capacity = r.capacity := by
  unfold write
  split
  · rfl
  · dsimp only
    split
    · unfold dropOldest
      split <;> rfl
    · rfl

@[simp] theorem capacity_apply [Inhabited V] (r : FifoMap K V) (op : CacheOp K V) :
    (r.apply op).capacity = r.capacity := by
  cases op <;> simp [apply, erase]

theorem capacity_run [Inhabited V] : ∀ (r : FifoMap K V) (ops : List (CacheOp K V)),
    (r.run ops).capacity = r.capacity
  | _, [] => rfl
  | r, op :: ops => (capacity_run (r.apply op) ops).trans (capacity_apply r op)

end FifoMap

namespace LimitedCache

variable {K V : Type} [DecidableEq K] {c : LimitedCache K V} {r : FifoMap K V}

/-! ## One lemma per step -/

theorem evictIfFull_of_ne (h : c.capacity ≠ c.oldest.length) (b : Bool) : c.evictIfFull b = c := by
  simp [evictIfFull, h]

theorem evictIfFull_of_nil (h : c.oldest = []) (b : Bool) : c.evictIfFull b = c := by
  unfold evictIfFull
  rw [h]
  split <;> rfl

theorem evictIfFull_of_cons (hfull : c.capacity = c.oldest.length) {oldestKey : K} {oldest : List K}
    (h : c.oldest = oldestKey :: oldest) :
    c.evictIfFull true = { c with map := (c.map.remove oldestKey).2, oldest := oldest } := by
  unfold evictIfFull
  rw [if_pos (by simp [hfull]), h]

theorem getOrInsertDefaultAndEdit_of_some [Inhabited V] {k : K} {value : V}
    (h : c.map.get? k = some value) (edit : V → V) :
    c.getOrInsertDefaultAndEdit k edit = { c with map := c.map.insert k (edit value) } := by
  simp only [getOrInsertDefaultAndEdit, h]
  rfl

theorem getOrInsertDefaultAndEdit_of_none [Inhabited V] {k : K} (h : c.map.get? k = none)
    (edit : V → V) :
    c.getOrInsertDefaultAndEdit k edit =
      ({ c with oldest := c.oldest ++ [k], map := c.map.insert k (edit default) } :
        LimitedCache K V).evictIfFull true := by
  simp only [getOrInsertDefaultAndEdit, h]

/-- `insert` is the edit that overwrites. -/
theorem insert_eq [Inhabited V] (c : LimitedCache K V) (k : K) (v : V) :
    c.insert k v = c.getOrInsertDefaultAndEdit k (fun _ => v) := by
  unfold insert getOrInsertDefaultAndEdit
  cases c.map.get? k <;> rfl

/-! ## The map and the queue in step -/

/-- The map's keys are the queue's, each once, and the queue is shorter than
the capacity. -/
structure WellFormed (c : LimitedCache K V) : Prop where
  nodup : c.oldest.Nodup
  mem_keys : ∀ k, k ∈ c.map.keys ↔ k ∈ c.oldest
  length_lt : c.oldest.length < c.capacity

theorem wellFormed_new {capacity : Nat} (h : 0 < capacity) :
    (new capacity : LimitedCache K V).WellFormed :=
  ⟨List.nodup_nil, fun k => by simp [new, HashMap.empty, HashMap.keys], h⟩

/-- A well-formed cache holds as many keys as its queue. -/
theorem WellFormed.len_eq (hc : c.WellFormed) : c.map.len = c.oldest.length := by
  rw [HashMap.len_eq_length_keys]
  apply List.Perm.length_eq
  exact (List.perm_ext_iff_of_nodup c.map.nodup hc.nodup).mpr hc.mem_keys

/-- `remove` on a well-formed cache: the key leaves the map and the queue. -/
theorem remove_eq (hc : c.WellFormed) (k : K) :
    c.remove k = (c.get k, { c with map := (c.map.remove k).2, oldest := c.oldest.erase k }) := by
  have hidx : c.oldest.idxOf? k = c.oldest.findIdx? (fun item => item == k) := rfl
  unfold remove
  cases hget : c.map.get? k with
  | none =>
    have hk : k ∉ c.oldest := fun hk => by
      have hsome := HashMap.mem_keys_iff.mp ((hc.mem_keys k).mpr hk)
      rw [hget] at hsome
      cases hsome
    have hremove : c.map.remove k = (none, (c.map.remove k).2) := Prod.ext hget rfl
    rw [hremove, get, hget, List.erase_of_not_mem hk]
  | some value =>
    have hremove : c.map.remove k = (some value, (c.map.remove k).2) := Prod.ext hget rfl
    rw [hremove, get, hget, List.erase_eq_eraseIdx, hidx]
    -- the code's search and `erase` look for the same index
    cases c.oldest.findIdx? (fun item => item == k) <;> rfl

/-- A new key pushed onto a queue with room: once the queue reaches the
capacity, its front key goes from both, and the cache is well formed again. -/
theorem wellFormed_evictIfFull (hnodup : c.oldest.Nodup) (hkeys : ∀ k, k ∈ c.map.keys ↔ k ∈ c.oldest)
    (hlen : c.oldest.length ≤ c.capacity) (hpos : 0 < c.capacity) :
    (c.evictIfFull true).WellFormed := by
  by_cases hfull : c.capacity = c.oldest.length
  · obtain ⟨oldestKey, oldest, hq⟩ := List.exists_cons_of_ne_nil fun h : c.oldest = [] => by
      rw [h, List.length_nil] at hfull
      omega
    rw [evictIfFull_of_cons hfull hq]
    rw [hq] at hnodup hkeys hfull
    have hfresh : oldestKey ∉ oldest := (List.nodup_cons.mp hnodup).1
    refine ⟨(List.nodup_cons.mp hnodup).2, fun k => ?_, ?_⟩
    · show k ∈ (c.map.remove oldestKey).2.keys ↔ k ∈ oldest
      rw [HashMap.keys_remove, List.mem_filter, hkeys, List.mem_cons, decide_eq_true_iff]
      constructor
      · rintro ⟨rfl | hk, hne⟩
        · exact absurd rfl hne
        · exact hk
      · intro hk
        exact ⟨.inr hk, fun h => hfresh (h ▸ hk)⟩
    · show oldest.length < c.capacity
      rw [hfull, List.length_cons]
      omega
  · rw [evictIfFull_of_ne hfull]
    exact ⟨hnodup, hkeys, by omega⟩

theorem WellFormed.getOrInsertDefaultAndEdit [Inhabited V] (hc : c.WellFormed) (k : K)
    (edit : V → V) : (c.getOrInsertDefaultAndEdit k edit).WellFormed := by
  cases hget : c.map.get? k with
  | some value =>
    have hk : k ∈ c.map.keys := HashMap.mem_keys_iff.mpr (by rw [hget]; rfl)
    rw [getOrInsertDefaultAndEdit_of_some hget]
    refine ⟨hc.nodup, fun k' => ?_, hc.length_lt⟩
    show k' ∈ (c.map.insert k (edit value)).keys ↔ k' ∈ c.oldest
    rw [HashMap.keys_insert_of_mem _ hk]
    exact hc.mem_keys k'
  | none =>
    have hk : k ∉ c.map.keys := HashMap.get?_eq_none_iff.mp hget
    have hk' : k ∉ c.oldest := fun h => hk ((hc.mem_keys k).mpr h)
    have hlt := hc.length_lt
    rw [getOrInsertDefaultAndEdit_of_none hget]
    apply wellFormed_evictIfFull
    · show (c.oldest ++ [k]).Nodup
      rw [← List.concat_eq_append, List.nodup_concat]
      exact ⟨hk', hc.nodup⟩
    · intro k'
      show k' ∈ (c.map.insert k (edit default)).keys ↔ k' ∈ c.oldest ++ [k]
      rw [HashMap.keys_insert_of_not_mem _ hk, List.mem_append, List.mem_append, hc.mem_keys]
    · show (c.oldest ++ [k]).length ≤ c.capacity
      rw [List.length_append, List.length_singleton]
      omega
    · show 0 < c.capacity
      omega

theorem WellFormed.remove (hc : c.WellFormed) (k : K) : (c.remove k).2.WellFormed := by
  rw [remove_eq hc]
  refine ⟨hc.nodup.erase k, fun k' => ?_, ?_⟩
  · show k' ∈ (c.map.remove k).2.keys ↔ k' ∈ c.oldest.erase k
    rw [HashMap.keys_remove, List.mem_filter, hc.nodup.mem_erase_iff, hc.mem_keys,
      decide_eq_true_iff, and_comm]
  · show (c.oldest.erase k).length < c.capacity
    exact Nat.lt_of_le_of_lt List.length_erase_le hc.length_lt

theorem WellFormed.apply [Inhabited V] (hc : c.WellFormed) : ∀ op, (c.apply op).WellFormed
  | .insert k v => by
    rw [LimitedCache.apply, insert_eq]
    exact hc.getOrInsertDefaultAndEdit k _
  | .getOrInsertDefaultAndEdit k edit => hc.getOrInsertDefaultAndEdit k edit
  | .remove k => hc.remove k

/-! ## The cache is the reference map -/

/-- The cache `c` is the map `r`: the same lookups, the same queue, the
same capacity. -/
structure Abstracts (c : LimitedCache K V) (r : FifoMap K V) : Prop where
  get : ∀ k, c.map.get? k = r.lookup k
  oldest : c.oldest = r.queue
  capacity : c.capacity = r.capacity

theorem abstracts_new (capacity : Nat) :
    Abstracts (new capacity : LimitedCache K V) (FifoMap.empty capacity) :=
  ⟨fun _ => rfl, rfl, rfl⟩

theorem Abstracts.evictIfFull (h : Abstracts c r) :
    Abstracts (c.evictIfFull true) (if r.queue.length = r.capacity then r.dropOldest else r) := by
  by_cases hfull : c.capacity = c.oldest.length
  · rw [if_pos (by rw [← h.oldest, ← h.capacity, hfull])]
    cases hq : c.oldest with
    | nil =>
      rw [evictIfFull_of_nil hq, FifoMap.dropOldest_of_nil (h.oldest.symm.trans hq)]
      exact h
    | cons oldestKey oldest =>
      rw [evictIfFull_of_cons hfull hq, FifoMap.dropOldest_of_cons (h.oldest.symm.trans hq)]
      refine ⟨fun k => ?_, rfl, h.capacity⟩
      show (c.map.remove oldestKey).2.get? k = Function.update r.lookup oldestKey none k
      rw [HashMap.get?_remove, Function.update_apply, h.get]
  · rw [evictIfFull_of_ne hfull, if_neg (by rw [← h.oldest, ← h.capacity]; exact Ne.symm hfull)]
    exact h

theorem Abstracts.getOrInsertDefaultAndEdit [Inhabited V] (h : Abstracts c r) (k : K)
    (edit : V → V) :
    Abstracts (c.getOrInsertDefaultAndEdit k edit) (r.apply (.getOrInsertDefaultAndEdit k edit)) := by
  have hlookup : ∀ k', (c.map.insert k (edit ((r.lookup k).getD default))).get? k' =
      Function.update r.lookup k (some (edit ((r.lookup k).getD default))) k' := by
    intro k'
    rw [HashMap.get?_insert, Function.update_apply, h.get]
  cases hget : c.map.get? k with
  | some value =>
    have hr : r.lookup k = some value := (h.get k).symm.trans hget
    rw [getOrInsertDefaultAndEdit_of_some hget]
    simp only [hr, Option.getD_some] at hlookup
    simp only [FifoMap.apply, FifoMap.write, hr, Option.getD_some, Option.isSome_some, if_true]
    exact ⟨hlookup, h.oldest, h.capacity⟩
  | none =>
    have hr : r.lookup k = none := (h.get k).symm.trans hget
    rw [getOrInsertDefaultAndEdit_of_none hget]
    simp only [hr, Option.getD_none] at hlookup
    simp only [FifoMap.apply, FifoMap.write, hr, Option.getD_none, Option.isSome_none,
      Bool.false_eq_true, if_false]
    have hpushed : Abstracts
        ({ c with oldest := c.oldest ++ [k], map := c.map.insert k (edit default) } : LimitedCache K V)
        ⟨Function.update r.lookup k (some (edit default)), r.queue ++ [k], r.capacity⟩ :=
      ⟨hlookup, by rw [h.oldest], h.capacity⟩
    exact hpushed.evictIfFull

theorem Abstracts.remove (hc : c.WellFormed) (h : Abstracts c r) (k : K) :
    Abstracts (c.remove k).2 (r.erase k) := by
  rw [remove_eq hc]
  refine ⟨fun k' => ?_, by rw [h.oldest]; rfl, h.capacity⟩
  show (c.map.remove k).2.get? k' = Function.update r.lookup k none k'
  rw [HashMap.get?_remove, Function.update_apply, h.get]

theorem Abstracts.apply [Inhabited V] (hc : c.WellFormed) (h : Abstracts c r) :
    ∀ op, Abstracts (c.apply op) (r.apply op)
  | .insert k v => by
    rw [LimitedCache.apply, insert_eq]
    exact h.getOrInsertDefaultAndEdit k (fun _ => v)
  | .getOrInsertDefaultAndEdit k edit => h.getOrInsertDefaultAndEdit k edit
  | .remove k => h.remove hc k

/-- Along a run, the cache stays well formed and stays the reference map. -/
theorem run_abstracts [Inhabited V] :
    ∀ (ops : List (CacheOp K V)) {c : LimitedCache K V} {r : FifoMap K V},
      c.WellFormed → Abstracts c r → (c.run ops).WellFormed ∧ Abstracts (c.run ops) (r.run ops)
  | [], _, _, hc, h => ⟨hc, h⟩
  | op :: ops, _, _, hc, h => run_abstracts ops (hc.apply op) (h.apply hc op)

/-- **`LimitedCache` is a bounded FIFO map.**  Along any run of `insert`,
`get_or_insert_default_and_edit` and `remove` from `new`, with a capacity of
at least one: the map's keys are the keys of `oldest`, which holds each
once; the map holds fewer keys than the capacity; and every lookup, and the
queue itself, are those of the reference map. -/
theorem limitedCache_fifo [Inhabited V] (capacity : Nat) (hpos : 1 ≤ capacity)
    (ops : List (CacheOp K V)) :
    ((new capacity : LimitedCache K V).run ops).oldest.Nodup ∧
      (∀ k, k ∈ ((new capacity : LimitedCache K V).run ops).map.keys ↔
        k ∈ ((new capacity : LimitedCache K V).run ops).oldest) ∧
      ((new capacity : LimitedCache K V).run ops).map.len ≤ capacity - 1 ∧
      (∀ k, ((new capacity : LimitedCache K V).run ops).get k =
        ((FifoMap.empty capacity : FifoMap K V).run ops).lookup k) ∧
      ((new capacity : LimitedCache K V).run ops).oldest =
        ((FifoMap.empty capacity : FifoMap K V).run ops).queue := by
  obtain ⟨hc, h⟩ := run_abstracts ops (wellFormed_new hpos) (abstracts_new capacity)
  have hlen : ((new capacity : LimitedCache K V).run ops).map.len ≤ capacity - 1 := by
    rw [hc.len_eq]
    have hlt := hc.length_lt
    have hcap : ((new capacity : LimitedCache K V).run ops).capacity = capacity := by
      rw [h.capacity, FifoMap.capacity_run]
      rfl
    omega
  exact ⟨hc.nodup, hc.mem_keys, hlen, h.get, h.oldest⟩

/-- `test_evicts_second_oldest_item_if_first_removed`, with numbers for the keys. -/
def evictSecondOldestOps : List (CacheOp Nat Nat) :=
  [.insert 1 1, .insert 2 2, .remove 1, .insert 3 3, .insert 4 4]

example : ((new 3 : LimitedCache Nat Nat).run evictSecondOldestOps).get 2 = none ∧
    ((new 3 : LimitedCache Nat Nat).run evictSecondOldestOps).get 4 = some 4 := by
  decide

theorem three_slot_cache_fifo :
    1 ≤ 3 ∧
      ((new 3 : LimitedCache Nat Nat).run evictSecondOldestOps).oldest.Nodup ∧
      (∀ k, k ∈ ((new 3 : LimitedCache Nat Nat).run evictSecondOldestOps).map.keys ↔
        k ∈ ((new 3 : LimitedCache Nat Nat).run evictSecondOldestOps).oldest) ∧
      ((new 3 : LimitedCache Nat Nat).run evictSecondOldestOps).map.len ≤ 3 - 1 ∧
      (∀ k, ((new 3 : LimitedCache Nat Nat).run evictSecondOldestOps).get k =
        ((FifoMap.empty 3 : FifoMap Nat Nat).run evictSecondOldestOps).lookup k) ∧
      ((new 3 : LimitedCache Nat Nat).run evictSecondOldestOps).oldest =
        ((FifoMap.empty 3 : FifoMap Nat Nat).run evictSecondOldestOps).queue :=
  ⟨by decide, limitedCache_fifo 3 (by decide) evictSecondOldestOps⟩

end LimitedCache

end TcplsBasics.Ports.Cache
