import Resolver.Database.Builder

/-!
# Linear probing

A search looks at the slots of a table from the one its hash starts at, round the table. A table is
well filled when these slots hold the slots of the hash in the order they were put in and none of
them stands behind an empty one.

Main statements: a slot that is put in goes into the first empty place that the search for its hash
meets (`Table.putIn_insert`), and so the table of a list of slots is well filled
(`Table.filled_ofSlots`).
-/

namespace Resolver.Database

/-! ## The slots of a hash -/

/-- The taken slots with a hash, in order. -/
def withHash (h : UInt32) (places : Table) : List Slot :=
  places.filterMap (·.filter (·.hash = h))

theorem withHash_cons_none (h : UInt32) (rest : Table) :
    withHash h (none :: rest) = withHash h rest := by
  unfold withHash
  rw [List.filterMap_cons_none rfl]

theorem withHash_cons_some (h : UInt32) (s : Slot) (rest : Table) :
    withHash h (some s :: rest) =
      if s.hash = h then s :: withHash h rest else withHash h rest := by
  unfold withHash
  rw [List.filterMap_cons, Option.filter_some]
  by_cases hs : s.hash = h
  · rw [decide_eq_true hs, if_pos rfl, if_pos hs]
  · rw [decide_eq_false hs, if_neg Bool.false_ne_true, if_neg hs]

theorem withHash_append (h : UInt32) (front back : Table) :
    withHash h (front ++ back) = withHash h front ++ withHash h back := by
  unfold withHash
  rw [List.filterMap_append]

theorem mem_withHash {h : UInt32} {places : Table} {s : Slot} :
    s ∈ withHash h places ↔ some s ∈ places ∧ s.hash = h := by
  unfold withHash
  rw [List.mem_filterMap]
  simp only [Option.filter_eq_some_iff, decide_eq_true_eq]
  constructor
  · rintro ⟨place, hmem, rfl, hhash⟩
    exact ⟨hmem, hhash⟩
  · rintro ⟨hmem, hhash⟩
    exact ⟨some s, hmem, rfl, hhash⟩

/-! ## Places in the order of a search -/

/-- The places, in the order that a search for `h` looks at them, hold the slots of `h` in the
order they were put in, and no such slot stands behind an empty place. -/
structure Probed (h : UInt32) (slots : List Slot) (places : Table) : Prop where
  withHash_eq : withHash h places = slots
  gapless : places.Pairwise fun a b => a = none → ∀ s, b = some s → s.hash ≠ h

namespace Probed

variable {h : UInt32} {slots : List Slot} {places : Table}

theorem tail {place : Option Slot} (hp : Probed h slots (place :: places)) :
    Probed h (withHash h places) places :=
  ⟨rfl, (List.pairwise_cons.1 hp.gapless).2⟩

/-- Behind an empty place there is no slot of the hash. -/
theorem withHash_eq_nil (hp : Probed h slots (none :: places)) : withHash h places = [] := by
  rw [List.eq_nil_iff_forall_not_mem]
  intro s hs
  obtain ⟨hmem, hhash⟩ := mem_withHash.1 hs
  exact (List.pairwise_cons.1 hp.gapless).1 (some s) hmem rfl s rfl hhash

/-- An empty place can be filled with a slot of another hash, and with one of the same hash if
there is no empty place before it. -/
theorem fill {front back : Table} {s : Slot} (hp : Probed h slots (front ++ none :: back))
    (hfront : s.hash = h → none ∉ front) :
    Probed h (if s.hash = h then slots ++ [s] else slots) (front ++ some s :: back) := by
  obtain ⟨hfound, hgapless⟩ := hp
  rw [List.pairwise_append, List.pairwise_cons] at hgapless
  obtain ⟨hfrontless, ⟨hbehind, hbackless⟩, hacross⟩ := hgapless
  have hempty : Probed h (withHash h (none :: back)) (none :: back) :=
    ⟨rfl, List.pairwise_cons.2 ⟨hbehind, hbackless⟩⟩
  have hback := hempty.withHash_eq_nil
  refine ⟨?_, ?_⟩
  · rw [withHash_append, withHash_cons_none, hback, List.append_nil] at hfound
    rw [withHash_append, withHash_cons_some, hback, hfound]
    split
    · rfl
    · exact List.append_nil _
  · -- only the new slot can stand behind an empty place that was there before
    rw [List.pairwise_append, List.pairwise_cons]
    refine ⟨hfrontless, ⟨fun b _ hnone => (nomatch hnone), hbackless⟩, ?_⟩
    intro a ha b hb hnone s' hs'
    rcases List.mem_cons.1 hb with rfl | hb
    · obtain rfl := Option.some.inj hs'
      rintro rfl
      exact hfront rfl (hnone ▸ ha)
    · exact hacross a ha b (List.mem_cons_of_mem _ hb) hnone s' hs'

end Probed

namespace Table

/-- The places of a table in the order that a search from the place `start` looks at them. -/
def round (t : Table) (start : Nat) : Table :=
  t.drop start ++ t.take start

@[simp]
theorem length_round (t : Table) (start : Nat) : (t.round start).length = t.length := by
  unfold round
  rw [List.length_append, List.length_drop, List.length_take]
  omega

theorem mem_round {t : Table} {start : Nat} {place : Option Slot} :
    place ∈ t.round start ↔ place ∈ t := by
  unfold round
  rw [List.mem_append, or_comm, ← List.mem_append, List.take_append_drop]

/-- The place that a search looks at after `k` others. -/
theorem getElem?_round {t : Table} {start k : Nat} (hstart : start ≤ t.length)
    (hk : k < t.length) : (t.round start)[k]? = t[(start + k) % t.length]? := by
  unfold round
  by_cases hfits : start + k < t.length
  · rw [List.getElem?_append_left (by rw [List.length_drop]; omega), List.getElem?_drop,
      Nat.mod_eq_of_lt hfits]
  · -- the round has come to the end of the table and goes on from its beginning
    have hmod : (start + k) % t.length = start + k - t.length := by
      rw [Nat.mod_eq_sub_mod (by omega), Nat.mod_eq_of_lt (by omega)]
    rw [List.getElem?_append_right (by rw [List.length_drop]; omega), List.length_drop, hmod,
      List.getElem?_take_of_lt (by omega)]
    congr 1
    omega

/-- Seen from a place that is not behind it, a place stands before the end of the table. -/
theorem round_of_le {left right : Table} {start : Nat} (h : start ≤ left.length)
    (place : Option Slot) :
    (left ++ place :: right).round start =
      left.drop start ++ place :: (right ++ left.take start) := by
  unfold round
  rw [List.drop_append_of_le_length h, List.take_append_of_le_length h, List.append_assoc,
    List.cons_append]

/-- Seen from a place behind it, a place stands behind the end of the table. -/
theorem round_of_lt {left right : Table} {start : Nat} (h : left.length < start)
    (place : Option Slot) :
    (left ++ place :: right).round start =
      right.drop (start - (left.length + 1)) ++ left ++
        place :: right.take (start - (left.length + 1)) := by
  unfold round
  obtain ⟨k, rfl⟩ : ∃ k, start = left.length + 1 + k := ⟨start - (left.length + 1), by omega⟩
  rw [Nat.add_sub_cancel_left, Nat.add_assoc, List.drop_length_add_append,
    List.take_length_add_append, Nat.add_comm 1 k, List.drop_succ_cons, List.take_succ_cons,
    List.append_assoc]

/-- One place of a table is one place of the round from any start. -/
theorem exists_round (left right : Table) (start : Nat) :
    ∃ front back, ∀ place, (left ++ place :: right).round start = front ++ place :: back := by
  by_cases h : start ≤ left.length
  · exact ⟨_, _, round_of_le h⟩
  · exact ⟨_, _, round_of_lt (Nat.lt_of_not_le h)⟩

/-- What a search meets once an empty place was filled. -/
theorem probed_of_round {h : UInt32} {slots : List Slot} {left right front back : Table} {s : Slot}
    {start : Nat}
    (hround : ∀ place, (left ++ place :: right).round start = front ++ place :: back)
    (hfront : s.hash = h → none ∉ front)
    (hp : Probed h slots ((left ++ none :: right).round start)) :
    Probed h (if s.hash = h then slots ++ [s] else slots)
      ((left ++ some s :: right).round start) := by
  rw [hround] at hp ⊢
  exact hp.fill hfront

/-! ## Putting a slot in -/

/-- The first empty place. -/
theorem exists_of_findIdx? {t : Table} {k : Nat} (h : t.findIdx? Option.isNone = some k) :
    ∃ front back, t = front ++ none :: back ∧ front.length = k ∧ none ∉ front := by
  obtain ⟨hlt, hnone, hfirst⟩ := List.findIdx?_eq_some_iff_getElem.1 h
  have hlen : (t.take k).length = k := by
    rw [List.length_take]
    omega
  refine ⟨t.take k, t.drop (k + 1), ?_, hlen, ?_⟩
  · rw [← Option.isNone_iff_eq_none.1 hnone, ← List.drop_eq_getElem_cons hlt,
      List.take_append_drop]
  · intro hmem
    obtain ⟨j, hj, hget⟩ := List.getElem_of_mem hmem
    rw [List.getElem_take] at hget
    exact hfirst j (by omega) (by rw [hget]; rfl)

theorem not_mem_of_findIdx? {t : Table} (h : t.findIdx? Option.isNone = none) : none ∉ t := by
  intro hmem
  exact Bool.noConfusion (List.findIdx?_eq_none_iff.1 h none hmem)

theorem set_length (left right : Table) (place place' : Option Slot) :
    (left ++ place :: right).set left.length place' = left ++ place' :: right := by
  rw [List.set_append_right _ _ (Nat.le_refl _), Nat.sub_self, List.set_cons_zero]

/-- A slot was put into a table, in the first empty place that a search from `start` meets. -/
def PutIn (t : Table) (start : Nat) (s : Slot) (t' : Table) : Prop :=
  ∃ left right, t = left ++ none :: right ∧ t' = left ++ some s :: right ∧
    ∃ front back, none ∉ front ∧
      ∀ place, (left ++ place :: right).round start = front ++ place :: back

/-- An empty place from `start` on is met before the end of the table. -/
theorem putIn_of_drop {t : Table} {start k : Nat} (s : Slot) (hstart : start < t.length)
    (h : (t.drop start).findIdx? Option.isNone = some k) :
    t.PutIn start s (t.set (start + k) (some s)) := by
  obtain ⟨front, back, hdrop, rfl, hfront⟩ := exists_of_findIdx? h
  have htake : (t.take start).length = start := by
    rw [List.length_take]
    omega
  have ht : t = (t.take start ++ front) ++ none :: back := by
    rw [List.append_assoc, ← hdrop, List.take_append_drop]
  have hlen : (t.take start ++ front).length = start + front.length := by
    rw [List.length_append, htake]
  refine ⟨t.take start ++ front, back, ht, ?_, front, back ++ t.take start, hfront, ?_⟩
  · conv => lhs; rw [ht]
    rw [← hlen, set_length]
  · intro place
    rw [round_of_le (by omega), List.drop_left' htake, List.take_left' htake]

/-- Without one, the search goes round to the first empty place before `start`. -/
theorem putIn_of_take {t : Table} {start k : Nat} (s : Slot) (hstart : start < t.length)
    (hnone : (t.drop start).findIdx? Option.isNone = none)
    (h : (t.take start).findIdx? Option.isNone = some k) :
    t.PutIn start s (t.set k (some s)) := by
  obtain ⟨left, rest, htake, rfl, hleft⟩ := exists_of_findIdx? h
  have ht : t = left ++ none :: (rest ++ t.drop start) := by
    rw [← List.cons_append, ← List.append_assoc, ← htake, List.take_append_drop]
  have hlen : start = left.length + 1 + rest.length := by
    have := congrArg List.length htake
    rw [List.length_take, List.length_append, List.length_cons] at this
    omega
  refine ⟨left, rest ++ t.drop start, ht, ?_, t.drop start ++ left, rest, ?_, ?_⟩
  · conv => lhs; rw [ht]
    rw [set_length]
  · rw [List.mem_append, not_or]
    exact ⟨not_mem_of_findIdx? hnone, hleft⟩
  · intro place
    have hsub : start - (left.length + 1) = rest.length := by omega
    rw [round_of_lt (by omega), hsub, List.drop_left' rfl, List.take_left' rfl]

/-- As long as there is an empty place, a slot goes into the first that a search for its hash
meets. -/
theorem putIn_insert {t : Table} (s : Slot) (h : none ∈ t) :
    t.PutIn (firstSlot s.hash t.length) s (t.insert s) := by
  have hstart : firstSlot s.hash t.length < t.length :=
    Nat.mod_lt _ (List.length_pos_of_mem h)
  unfold insert
  generalize firstSlot s.hash t.length = start at hstart ⊢
  dsimp only
  cases hbehind : (t.drop start).findIdx? Option.isNone with
  | some k => exact putIn_of_drop s hstart hbehind
  | none =>
    cases hbefore : (t.take start).findIdx? Option.isNone with
    | some k => exact putIn_of_take s hstart hbehind hbefore
    | none =>
      -- no place is left empty on either side of the start
      rw [← List.take_append_drop start t, List.mem_append] at h
      rcases h with h | h
      · exact absurd h (not_mem_of_findIdx? hbefore)
      · exact absurd h (not_mem_of_findIdx? hbehind)

/-! ## Tables of slots -/

/-- The table holds the given slots and nothing else, where a search for their hashes finds them
in order. -/
structure Filled (t : Table) (slots : List Slot) : Prop where
  count : t.countP Option.isSome = slots.length
  probed : ∀ h, Probed h (slots.filter (·.hash = h)) (t.round (firstSlot h t.length))

namespace Filled

variable {t : Table} {slots : List Slot}

theorem mem (hf : Filled t slots) {s : Slot} (hs : some s ∈ t) : s ∈ slots := by
  have hfound : s ∈ withHash s.hash (t.round (firstSlot s.hash t.length)) :=
    mem_withHash.2 ⟨mem_round.2 hs, rfl⟩
  rw [(hf.probed s.hash).withHash_eq] at hfound
  exact (List.mem_filter.1 hfound).1

/-- A table with fewer slots than places has an empty one. -/
theorem none_mem (hf : Filled t slots) (hroom : slots.length < t.length) : none ∈ t := by
  apply Classical.byContradiction
  intro hfull
  have hall : t.countP Option.isSome = t.length := by
    rw [List.countP_eq_length]
    intro place hplace
    rw [Option.isSome_iff_ne_none]
    rintro rfl
    exact hfull hplace
  have := hf.count
  omega

/-- As long as not every place is taken, a slot can be put in behind the others of its hash. -/
theorem insert (hf : Filled t slots) (hroom : slots.length < t.length) (s : Slot) :
    (t.insert s).length = t.length ∧ Filled (t.insert s) (slots ++ [s]) := by
  obtain ⟨left, right, ht, hinsert, front, back, hfront, hround⟩ :=
    putIn_insert s (hf.none_mem hroom)
  have hlength : (t.insert s).length = t.length := by
    rw [hinsert, ht]
    simp only [List.length_append, List.length_cons]
  refine ⟨hlength, ?_, ?_⟩
  · have hcount := hf.count
    rw [ht, List.countP_append, List.countP_cons_of_neg (by decide)] at hcount
    rw [hinsert, List.countP_append, List.countP_cons_of_pos rfl, List.length_append,
      List.length_singleton]
    omega
  · intro h
    have hslots : (slots ++ [s]).filter (·.hash = h) =
        if s.hash = h then slots.filter (·.hash = h) ++ [s] else slots.filter (·.hash = h) := by
      rw [List.filter_append]
      by_cases hs : s.hash = h
      · rw [if_pos hs, List.filter_cons_of_pos (by simpa using hs), List.filter_nil]
      · rw [if_neg hs, List.filter_cons_of_neg (by simpa using hs), List.filter_nil,
          List.append_nil]
    have hprobed := hf.probed h
    conv at hprobed => rhs; lhs; rw [ht]
    rw [hslots, hlength, hinsert]
    by_cases hs : s.hash = h
    · -- a search for the hash of the slot meets no empty place before the one it went into
      rw [hs] at hround
      exact probed_of_round hround (fun _ => hfront) hprobed
    · obtain ⟨front, back, hround⟩ := exists_round left right (firstSlot h t.length)
      exact probed_of_round hround (fun heq => absurd heq hs) hprobed

/-- As long as there are places for them, slots can be put in one after the other. -/
theorem foldl_insert (hf : Filled t slots) (more : List Slot)
    (hroom : slots.length + more.length ≤ t.length) :
    (more.foldl Table.insert t).length = t.length ∧
      Filled (more.foldl Table.insert t) (slots ++ more) := by
  induction more generalizing t slots with
  | nil =>
    rw [List.append_nil]
    exact ⟨rfl, hf⟩
  | cons s more ih =>
    rw [List.length_cons] at hroom
    obtain ⟨hlength, hinsert⟩ := hf.insert (by omega) s
    obtain ⟨hlength', hmore⟩ :=
      ih hinsert (by rw [hlength, List.length_append, List.length_singleton]; omega)
    rw [List.append_assoc, List.singleton_append] at hmore
    exact ⟨hlength'.trans hlength, hmore⟩

end Filled

/-- A table without slots. -/
theorem filled_replicate (n : Nat) : Filled (List.replicate n none) [] := by
  have hround : ∀ start, round (List.replicate n none) start = List.replicate n none := by
    intro start
    unfold round
    rw [List.drop_replicate, List.take_replicate, List.replicate_append_replicate]
    congr 1
    omega
  refine ⟨?_, fun h => ⟨?_, ?_⟩⟩
  · rw [List.countP_replicate, if_neg (by decide), List.length_nil]
  · rw [hround, List.filter_nil, List.eq_nil_iff_forall_not_mem]
    intro s hs
    exact nomatch List.eq_of_mem_replicate (mem_withHash.1 hs).1
  · rw [hround, List.pairwise_replicate]
    exact .inr fun _ s hs => nomatch hs

/-- The table of a list of slots has twice as many places and is well filled. -/
theorem filled_ofSlots (slots : List Slot) :
    (ofSlots slots).length = 2 * slots.length ∧ Filled (ofSlots slots) slots := by
  have hfold := (filled_replicate (2 * slots.length)).foldl_insert slots (by
    rw [List.length_nil, List.length_replicate]
    omega)
  rw [List.length_replicate, List.nil_append] at hfold
  exact hfold

end Table

end Resolver.Database
