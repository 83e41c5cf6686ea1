import Resolver.Proofs.Cache.Insertion
import Resolver.Proofs.Cache.Search

/-!
# Operations on a store

A run performs any operations on a new store, its clock being moved at will in between. When the
store is to start over, the memory for its arena may be refused.

Main statements: a new store is laid out as it should be, without entries (`laid_blank`), and one that
is refused memory keeps its entries where they were filed (`Laid.rekeyed`).
-/

namespace Resolver.Cache

/-! ## A new store -/

theorem four_dvd_headsFor (size : Nat) : 4 ∣ headsFor size := by
  unfold headsFor
  -- the least number of bytes is 4, and every other is a higher power of two
  cases hlog : (size / 32).log2 with
  | zero => exact Nat.dvd_refl 4
  | succ k =>
    have hpow : Nat.pow 2 (k + 1 + 1) = 4 * 2 ^ k := by
      show 2 ^ (k + 1 + 1) = 4 * 2 ^ k
      rw [Nat.pow_succ, Nat.pow_succ]
      omega
    have hpos : 0 < 2 ^ k := Nat.two_pow_pos k
    rw [hpow, Nat.max_eq_right (by omega)]
    exact Nat.dvd_mul_right 4 _

theorem headsFor_pos (size : Nat) : 0 < headsFor size :=
  Nat.lt_of_lt_of_le (by decide) (Nat.le_max_left 4 _)

theorem headsFor_le {size : Nat} (h : minSize ≤ size) : headsFor size ≤ size := by
  unfold minSize at h
  unfold headsFor
  refine Nat.max_le.2 ⟨by omega, ?_⟩
  have hlog : 2 ^ (size / 32).log2 ≤ size / 32 := Nat.log2_self_le (by omega)
  show 2 ^ ((size / 32).log2 + 1) ≤ size
  rw [Nat.pow_succ]
  omega

theorem sizeFor_bounds (capacity : Nat) :
    minSize ≤ sizeFor capacity ∧ sizeFor capacity ≤ maxSize := by
  unfold sizeFor minSize maxSize
  omega

/-- A block of zeros has the word 0 everywhere. -/
theorem word_zeros {size pos : Nat} (h : pos + 4 ≤ size) :
    Arena.word (Block.zeros size) pos = .ok 0 := by
  refine Arena.word_eq_of_holds (Block.holds_iff.2 ⟨?_, ?_⟩) (by decide)
  · rw [Block.size_zeros]
    exact h
  · intro i hi
    rw [length_toLittleEndian] at hi
    have hzeros : (Block.zeros size).toList = List.replicate size 0 := rfl
    rw [hzeros, List.getElem?_replicate, if_pos (by omega)]
    show some 0 = ([0, 0, 0, 0] : Bytes)[i]?
    match i, hi with
    | 0, _ | 1, _ | 2, _ | 3, _ => rfl

/-- A store without entries is laid out as it should be. -/
theorem laid_blank (capacity : Nat) (hashKey : Bytes) (motion : UInt64) (filed : Nat → Bytes) :
    Laid (blank capacity hashKey motion) filed [] [] := by
  obtain ⟨hmin, hmax⟩ := sizeFor_bounds capacity
  have hsize : (blank capacity hashKey motion).size = sizeFor capacity := Block.size_zeros _
  exact {
    size_le := Nat.le_trans (Nat.le_of_eq hsize) hmax
    heads_pos := headsFor_pos _
    heads_dvd := four_dvd_headsFor _
    heads_le_writer := Nat.le_refl _
    writer_le_oldest := headsFor_le hmin
    oldest_le_unused := Nat.le_refl _
    unused_le_size := Nat.le_of_eq hsize.symm
    unused_eq_size := fun _ => hsize.symm
    old_tiled := rfl
    young_tiled := rfl
    chained := by
      intro head hhead
      have hlt : head < headsFor (sizeFor capacity) := hhead.1
      have hdvd := hhead.2
      have := four_dvd_headsFor (sizeFor capacity)
      have := headsFor_le hmin
      exact word_zeros (by omega) }

/-- With another hash key, the entries are still filed where they were. -/
theorem Laid.rekeyed {c : Cache} {filed : Nat → Bytes} {old young : List Placed}
    (h : Laid c filed old young) (hashKey : Bytes) :
    Laid { c with hashKey := hashKey } filed old young where
  size_le := h.size_le
  heads_pos := h.heads_pos
  heads_dvd := h.heads_dvd
  heads_le_writer := h.heads_le_writer
  writer_le_oldest := h.writer_le_oldest
  oldest_le_unused := h.oldest_le_unused
  unused_le_size := h.unused_le_size
  unused_eq_size := h.unused_eq_size
  old_tiled := h.old_tiled
  young_tiled := h.young_tiled
  chained := h.chained

/-! ## Operations -/

/-- What is done with a store. -/
inductive Operation
  | set (key data : Bytes) (ttl : Nat)
  | get (key : Bytes)
  /-- The store is to start over, and the memory for its arena is granted or refused. -/
  | reinit (capacity : Nat) (hashKey : Bytes) (granted : Bool)
  /-- The clock comes to show another time, later or earlier. -/
  | clock (now : Tai64)
  deriving DecidableEq, Repr

/-- Whether the store is to start over and is refused the memory for it. -/
def Operation.isRefused : Operation → Bool
  | .reinit _ _ granted => !granted
  | .set _ _ _ | .get _ | .clock _ => false

/-- A store with the time its clock shows. -/
structure Clocked where
  cache : Cache
  now : Tai64

namespace Clocked

/-- A new store, which was granted its memory. -/
def new (capacity : Nat) (hashKey : Bytes) (now : Tai64) : Clocked :=
  ⟨Cache.new capacity hashKey, now⟩

/-- Performs one operation. Only a search has an answer. Whether a store starts over when it is to is
told by the operation. -/
def perform (s : Clocked) : Operation → Except Damage (Option Hit × Clocked)
  | .set key data ttl =>
    (s.cache.set s.now key data ttl).map fun cache => (none, { s with cache := cache })
  | .get key => (s.cache.get s.now key).map fun answer => (answer, s)
  | .reinit capacity hashKey granted =>
    .ok (none, { s with cache := (s.cache.reinit capacity hashKey granted).2 })
  | .clock now => .ok (none, { s with now := now })

/-- Performs operations one after the other, with the answer to each. -/
def run (s : Clocked) : List Operation → Except Damage (List (Option Hit) × Clocked)
  | [] => .ok ([], s)
  | op :: ops =>
    match s.perform op with
    | .error e => .error e
    | .ok (answer, s) => (s.run ops).map fun (answers, s) => (answer :: answers, s)

end Clocked

end Resolver.Cache
