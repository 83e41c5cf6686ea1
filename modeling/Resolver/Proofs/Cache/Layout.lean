import Resolver.Proofs.Cache.Entries

/-!
# The layout of a store

What the cursors, the entries and the links of a store have to do with one another. `Laid` says it
of given entries; `WellFormed` says it of those that are read off the arena.

An entry is filed in the bucket that its key has under the hash key of the store. A store that is
refused memory when it starts over has another hash key for the entries that stay, so the hash key
that an entry was filed under is told for each, by its offset. A store is settled if all entries were
filed under the hash key it has.

The nodes of a bucket are its link and the entries of its chain. Main statements: every node
belongs to one bucket (`Laid.head_unique`), and the links of two nodes do not overlap
(`Laid.nodes_apart`), so that one link can be written without touching the rest of the layout
(`Laid.setWord`).
-/

namespace Resolver.Cache

/-! ## Entries and buckets of a store -/

/-- The entries from before the writer last turned round, the oldest first. -/
def old (c : Cache) : List Placed :=
  between c.arena c.oldest c.unused

/-- The entries written since the writer last turned round, the oldest first. -/
def young (c : Cache) : List Placed :=
  between c.arena c.heads c.writer

/-- The entries of a store with their offsets, the oldest first. -/
def live (c : Cache) : List Placed :=
  c.old ++ c.young

/-- Whether a bucket link is at the offset. -/
def IsHead (c : Cache) (head : Nat) : Prop :=
  head < c.heads ∧ 4 ∣ head

/-- The bucket that an entry was filed in: that of its key under the hash key told for its offset. -/
def home (c : Cache) (filed : Nat → Bytes) (p : Placed) : Nat :=
  bucketOf (filed p.pos) c.heads p.entry.key

/-- The offsets of those entries that were filed in the bucket with its link at `head`, the newest
first. -/
def chainOf (c : Cache) (filed : Nat → Bytes) (head : Nat) (ps : List Placed) : List Nat :=
  ((ps.filter fun p => c.home filed p = head).map Placed.pos).reverse

/-- The offsets of the entries of a bucket, the newest first. -/
def chain (c : Cache) (filed : Nat → Bytes) (head : Nat) : List Nat :=
  c.chainOf filed head c.live

/-! ## The invariant -/

/-- A store is laid out as it should be, with the given older and younger entries, each filed under
the hash key told for its offset. -/
structure Laid (c : Cache) (filed : Nat → Bytes) (old young : List Placed) : Prop where
  size_le : c.size ≤ maxSize
  heads_pos : 0 < c.heads
  heads_dvd : 4 ∣ c.heads
  heads_le_writer : c.heads ≤ c.writer
  writer_le_oldest : c.writer ≤ c.oldest
  oldest_le_unused : c.oldest ≤ c.unused
  unused_le_size : c.unused ≤ c.size
  /-- Once the last of the older entries is given up, the space behind them is free too. -/
  unused_eq_size : c.oldest = c.unused → c.unused = c.size
  old_tiled : Tiled c.arena c.unused c.oldest old
  young_tiled : Tiled c.arena c.writer c.heads young
  /-- The entries of each bucket make a chain from the newest to the oldest. -/
  chained : ∀ head, c.IsHead head →
    Arena.Chained c.arena 0 head (c.chainOf filed head (old ++ young))

/-- A store is laid out as it should be, with its entries filed under the hash keys told. -/
def WellFormed (c : Cache) (filed : Nat → Bytes) : Prop :=
  Laid c filed c.old c.young

/-- Every offset is told the hash key that the store has. -/
def current (c : Cache) : Nat → Bytes :=
  fun _ => c.hashKey

/-- A store is laid out as it should be, and all its entries were filed under the hash key it has. -/
def Settled (c : Cache) : Prop :=
  c.WellFormed c.current

/-! ## Chains of entries -/

theorem isHead_bucketOf {c : Cache} (h : 0 < c.heads) (hashKey key : Bytes) :
    c.IsHead (bucketOf hashKey c.heads key) := by
  refine ⟨?_, Nat.dvd_mul_left 4 _⟩
  have hlt := Nat.mod_lt ((SipHash.hash hashKey key).toNat % 0x100000000) h
  unfold bucketOf
  omega

theorem isHead_bucket {c : Cache} (h : 0 < c.heads) (key : Bytes) : c.IsHead (c.bucket key) :=
  isHead_bucketOf h c.hashKey key

theorem isHead_home {c : Cache} (h : 0 < c.heads) (filed : Nat → Bytes) (p : Placed) :
    c.IsHead (c.home filed p) :=
  isHead_bucketOf h (filed p.pos) p.entry.key

/-- Entries that were filed under the hash key of the store are in the buckets of their keys. -/
@[simp]
theorem home_current (c : Cache) (p : Placed) : c.home c.current p = c.bucket p.entry.key := rfl

theorem mem_chainOf {c : Cache} {filed : Nat → Bytes} {head q : Nat} {ps : List Placed} :
    q ∈ c.chainOf filed head ps ↔ ∃ p ∈ ps, c.home filed p = head ∧ p.pos = q := by
  unfold chainOf
  simp only [List.mem_reverse, List.mem_map, List.mem_filter, decide_eq_true_eq, and_assoc]

/-- The chains depend on what is told of the offsets of their entries alone. -/
theorem chainOf_congr {c : Cache} {filed filed' : Nat → Bytes} {ps : List Placed}
    (h : ∀ p ∈ ps, filed' p.pos = filed p.pos) (head : Nat) :
    c.chainOf filed' head ps = c.chainOf filed head ps := by
  unfold chainOf
  rw [List.filter_congr fun p hp => ?_]
  unfold home
  rw [h p hp]

/-- The oldest entry is the last of its chain. -/
theorem chainOf_cons (c : Cache) (filed : Nat → Bytes) (p : Placed) (ps : List Placed) :
    c.chainOf filed (c.home filed p) (p :: ps) = c.chainOf filed (c.home filed p) ps ++ [p.pos] := by
  unfold chainOf
  rw [List.filter_cons_of_pos (by simp), List.map_cons, List.reverse_cons]

theorem chainOf_cons_of_ne {c : Cache} {filed : Nat → Bytes} {head : Nat} {p : Placed}
    (h : c.home filed p ≠ head) (ps : List Placed) :
    c.chainOf filed head (p :: ps) = c.chainOf filed head ps := by
  unfold chainOf
  rw [List.filter_cons_of_neg (by simpa using h)]

/-- The newest entry is the first of its chain. -/
theorem chainOf_concat (c : Cache) (filed : Nat → Bytes) (p : Placed) (ps : List Placed) :
    c.chainOf filed (c.home filed p) (ps ++ [p]) = p.pos :: c.chainOf filed (c.home filed p) ps := by
  unfold chainOf
  rw [List.filter_append, List.filter_cons_of_pos (by simp), List.filter_nil,
    List.map_append, List.map_singleton, List.reverse_append, List.reverse_singleton,
    List.singleton_append]

theorem chainOf_concat_of_ne {c : Cache} {filed : Nat → Bytes} {head : Nat} {p : Placed}
    (h : c.home filed p ≠ head) (ps : List Placed) :
    c.chainOf filed head (ps ++ [p]) = c.chainOf filed head ps := by
  unfold chainOf
  rw [List.filter_append, List.filter_cons_of_neg (by simpa using h), List.filter_nil,
    List.append_nil]

namespace Laid

variable {c : Cache} {filed : Nat → Bytes} {old young : List Placed}

/-! ## Entries read off -/

theorem old_eq (h : Laid c filed old young) : c.old = old :=
  h.old_tiled.between_eq

theorem young_eq (h : Laid c filed old young) : c.young = young :=
  h.young_tiled.between_eq

theorem live_eq (h : Laid c filed old young) : c.live = old ++ young := by
  unfold live
  rw [h.old_eq, h.young_eq]

theorem wellFormed (h : Laid c filed old young) : c.WellFormed filed := by
  unfold WellFormed
  rw [h.old_eq, h.young_eq]
  exact h

/-- Only what is told of the offsets of entries matters. -/
theorem refiled {filed' : Nat → Bytes} (h : Laid c filed old young)
    (hfiled : ∀ p ∈ old ++ young, filed' p.pos = filed p.pos) : Laid c filed' old young where
  size_le := h.size_le
  heads_pos := h.heads_pos
  heads_dvd := h.heads_dvd
  heads_le_writer := h.heads_le_writer
  writer_le_oldest := h.writer_le_oldest
  oldest_le_unused := h.oldest_le_unused
  unused_le_size := h.unused_le_size
  unused_eq_size := h.unused_eq_size
  old_tiled := h.old_tiled
  young_tiled := h.young_tiled
  chained := by
    intro head hhead
    rw [chainOf_congr hfiled]
    exact h.chained head hhead

/-! ## Cursors -/

theorem oldest_le_size (h : Laid c filed old young) : c.oldest ≤ c.size :=
  Nat.le_trans h.oldest_le_unused h.unused_le_size

theorem heads_le_size (h : Laid c filed old young) : c.heads ≤ c.size :=
  Nat.le_trans (Nat.le_trans h.heads_le_writer h.writer_le_oldest) h.oldest_le_size

/-! ## Entries do not overlap -/

theorem mem (h : Laid c filed old young) {p : Placed} (hp : p ∈ old ++ young) :
    EntryAt c.arena p.pos p.entry ∧ c.heads ≤ p.pos ∧ p.pos + p.entry.length ≤ c.size := by
  have := h.heads_le_writer
  have := h.writer_le_oldest
  have := h.oldest_le_unused
  have := h.unused_le_size
  rcases List.mem_append.1 hp with hp | hp
  · obtain ⟨hat, hlow, hhigh⟩ := h.old_tiled.mem hp
    exact ⟨hat, by omega, by omega⟩
  · obtain ⟨hat, hlow, hhigh⟩ := h.young_tiled.mem hp
    exact ⟨hat, by omega, by omega⟩

theorem apart (h : Laid c filed old young) {p q : Placed} (hp : p ∈ old ++ young)
    (hq : q ∈ old ++ young) :
    p = q ∨ p.pos + p.entry.length ≤ q.pos ∨ q.pos + q.entry.length ≤ p.pos := by
  have := h.writer_le_oldest
  rcases List.mem_append.1 hp with hp | hp <;> rcases List.mem_append.1 hq with hq | hq
  · exact h.old_tiled.apart hp hq
  · have := (h.old_tiled.mem hp).2.1
    have := (h.young_tiled.mem hq).2.2
    omega
  · have := (h.young_tiled.mem hp).2.2
    have := (h.old_tiled.mem hq).2.1
    omega
  · exact h.young_tiled.apart hp hq

theorem eq_of_pos_eq (h : Laid c filed old young) {p q : Placed} (hp : p ∈ old ++ young)
    (hq : q ∈ old ++ young) (heq : p.pos = q.pos) : p = q := by
  have := p.entry.header_le_length
  have := q.entry.header_le_length
  rcases h.apart hp hq with hpq | hpq
  · exact hpq
  · omega

theorem nodup (h : Laid c filed old young) : ((old ++ young).map Placed.pos).Nodup := by
  rw [List.map_append, List.nodup_append]
  refine ⟨h.old_tiled.nodup, h.young_tiled.nodup, ?_⟩
  intro q hq r hr heq
  obtain ⟨p, hp, rfl⟩ := List.mem_map.1 hq
  obtain ⟨p', hp', rfl⟩ := List.mem_map.1 hr
  have := (h.old_tiled.mem hp).2.1
  have := (h.young_tiled.mem hp').2.2
  have := h.writer_le_oldest
  have := p'.entry.header_le_length
  omega

/-! ## Nodes -/

/-- A node is a bucket link or the link of an entry. -/
theorem node_cases {head q : Nat} {ps : List Placed}
    (hq : q ∈ head :: c.chainOf filed head ps) :
    q = head ∨ ∃ p ∈ ps, c.home filed p = head ∧ p.pos = q := by
  rcases List.mem_cons.1 hq with hq | hq
  · exact .inl hq
  · exact .inr (mem_chainOf.1 hq)

/-- A node belongs to one bucket. -/
theorem head_unique (h : Laid c filed old young) {head head' q : Nat} (hhead : c.IsHead head)
    (hhead' : c.IsHead head') (hq : q ∈ head :: c.chainOf filed head (old ++ young))
    (hq' : q ∈ head' :: c.chainOf filed head' (old ++ young)) : head = head' := by
  have := hhead.1
  have := hhead'.1
  -- a bucket link stands before all entries, and an entry is in the bucket it was filed in alone
  rcases node_cases hq with rfl | ⟨p, hp, hpb, hpos⟩ <;>
    rcases node_cases hq' with rfl | ⟨p', hp', hpb', hpos'⟩
  · rfl
  · have := (h.mem hp').2.1
    omega
  · have := (h.mem hp).2.1
    omega
  · rw [← hpb, ← hpb', h.eq_of_pos_eq hp hp' (hpos.trans hpos'.symm)]

/-- The links of two nodes do not overlap. -/
theorem nodes_apart (h : Laid c filed old young) {head head' q q' : Nat} (hhead : c.IsHead head)
    (hhead' : c.IsHead head') (hq : q ∈ head :: c.chainOf filed head (old ++ young))
    (hq' : q' ∈ head' :: c.chainOf filed head' (old ++ young)) (hne : q ≠ q') :
    q + 4 ≤ q' ∨ q' + 4 ≤ q := by
  obtain ⟨hlt, hdvd⟩ := hhead
  obtain ⟨hlt', hdvd'⟩ := hhead'
  have hheads := h.heads_dvd
  rcases node_cases hq with rfl | ⟨p, hp, -, rfl⟩ <;>
    rcases node_cases hq' with rfl | ⟨p', hp', -, rfl⟩
  · -- both are multiples of four
    omega
  · have := (h.mem hp').2.1
    omega
  · have := (h.mem hp).2.1
    omega
  · have := p.entry.header_le_length
    have := p'.entry.header_le_length
    rcases h.apart hp hp' with rfl | hpq
    · contradiction
    · omega

/-- The link of a node lies inside the arena. -/
theorem node_le_size (h : Laid c filed old young) {head q : Nat} (hhead : c.IsHead head)
    (hq : q ∈ head :: c.chainOf filed head (old ++ young)) : q + 4 ≤ c.size := by
  obtain ⟨hlt, hdvd⟩ := hhead
  have := h.heads_dvd
  have := h.heads_le_size
  rcases node_cases hq with rfl | ⟨p, hp, -, rfl⟩
  · omega
  · have := (h.mem hp).2.2
    have := p.entry.header_le_length
    omega

/-- The link of a node is no part of an entry behind its own link. -/
theorem node_apart_body (h : Laid c filed old young) {head q : Nat} (hhead : c.IsHead head)
    (hq : q ∈ head :: c.chainOf filed head (old ++ young)) {p : Placed} (hp : p ∈ old ++ young) :
    p.pos + p.entry.length ≤ q ∨ q + 4 ≤ p.pos + 4 := by
  rcases node_cases hq with rfl | ⟨p', hp', -, rfl⟩
  · have := hhead.1
    have := (h.mem hp).2.1
    omega
  · have := p'.entry.header_le_length
    rcases h.apart hp hp' with rfl | hpq
    · omega
    · omega

/-- The nodes of a bucket are distinct. -/
theorem nodup_nodes (h : Laid c filed old young) {head : Nat} (hhead : c.IsHead head) :
    (head :: c.chainOf filed head (old ++ young)).Nodup := by
  rw [List.nodup_cons]
  constructor
  · intro hmem
    obtain ⟨p, hp, -, hpos⟩ := mem_chainOf.1 hmem
    have := (h.mem hp).2.1
    have := hhead.1
    omega
  · unfold chainOf
    exact (List.reverse_perm _).nodup_iff.2 (h.nodup.sublist (List.filter_sublist.map _))

/-- The offset of a node is a number of four bytes. -/
theorem node_lt (h : Laid c filed old young) {head q : Nat} (hhead : c.IsHead head)
    (hq : q ∈ head :: c.chainOf filed head (old ++ young)) : q < 0x100000000 := by
  have := h.node_le_size hhead hq
  have := h.size_le
  unfold maxSize at this
  omega

/-! ## The chains of a store -/

/-- An entry is on the chain of the bucket it was filed in and on no other. -/
theorem mem_chain_iff (h : c.WellFormed filed) {p : Placed} (hp : p ∈ c.live) {head : Nat} :
    p.pos ∈ c.chain filed head ↔ head = c.home filed p := by
  unfold chain
  rw [mem_chainOf]
  constructor
  · rintro ⟨q, hq, hhome, hpos⟩
    rw [← hhome, Laid.eq_of_pos_eq h hq hp hpos]
  · rintro rfl
    exact ⟨p, hp, rfl, rfl⟩

/-- The last link of a chain holds the offset of the link before it. -/
theorem word_tail (h : c.WellFormed filed) {head tail : Nat} {links : List Nat}
    (hhead : c.IsHead head) (hchain : c.chain filed head = links ++ [tail]) :
    Arena.word c.arena tail = .ok (links.getLastD head) := by
  have hlinks := Laid.chained h head hhead
  rw [show c.chainOf filed head (c.old ++ c.young) = links ++ [tail] from hchain] at hlinks
  exact hlinks.word_last

/-- The entry where the older ones begin is the last of its chain. -/
theorem oldest_tail (h : c.WellFormed filed) (hsome : c.oldest < c.unused) :
    ∃ o ∈ c.live, o.pos = c.oldest ∧
      (c.chain filed (c.home filed o)).getLast? = some c.oldest := by
  have htiled := Laid.old_tiled h
  obtain ⟨o, rest, hold⟩ := htiled.exists_cons (Nat.ne_of_lt hsome)
  unfold chain live
  rw [hold] at htiled ⊢
  refine ⟨o, List.mem_append_left _ List.mem_cons_self, htiled.1, ?_⟩
  rw [List.cons_append, chainOf_cons, List.getLast?_concat, htiled.1]

/-! ## Writing one link -/

/-- One link can be written without touching another one or an entry. -/
theorem setWord (h : Laid c filed old young) {head q value : Nat} (hhead : c.IsHead head)
    (hq : q ∈ head :: c.chainOf filed head (old ++ young)) (hvalue : value < 0x100000000) :
    ∃ a, Arena.setWord c.arena q value = .ok a ∧ a.size = c.size ∧ Arena.word a q = .ok value ∧
      (∀ head' q', c.IsHead head' → q' ∈ head' :: c.chainOf filed head' (old ++ young) → q' ≠ q →
        Arena.word a q' = Arena.word c.arena q') ∧
      ∀ p ∈ old ++ young, EntryAt a p.pos p.entry := by
  have hlen := length_toLittleEndian 4 value
  have hfit : q + (toLittleEndian 4 value).length ≤ c.arena.size := by
    rw [hlen]
    exact h.node_le_size hhead hq
  obtain ⟨a, hset, hwrite⟩ := Arena.exists_write hfit
  refine ⟨a, hset, Block.size_of_write? hwrite,
    Arena.word_eq_of_holds (Block.holds_of_write? hwrite) hvalue, ?_, ?_⟩
  · intro head' q' hhead' hq' hne
    apply Arena.word_of_write? hwrite
    rw [hlen]
    exact h.nodes_apart hhead' hhead hq' hq hne
  · intro p hp
    apply (h.mem hp).1.of_write? hwrite
    rw [hlen]
    exact h.node_apart_body hhead hq hp

end Laid

end Resolver.Cache
