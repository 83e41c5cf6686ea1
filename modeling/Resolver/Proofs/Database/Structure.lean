import Mathlib.Algebra.BigOperators.Group.Finset.Piecewise
import Mathlib.Algebra.BigOperators.Ring.Finset
import Mathlib.Data.List.ReduceOption
import Resolver.Proofs.Database.Image

/-!
# The structure of a database file

Where everything stands in the file that is built of some records, told by the pairs of numbers that
are read from it: the entries of the header, the records and the places of the hash tables.

The position of a table follows from the number of records in the tables before it, so the header is
known without looking at the file. A table holds the slots of its records and nothing else
(`Filled.reduceOption_perm`); as records lie at different positions, each slot stands at one place,
and the places that the search for it looks at before are taken (`Filled.exists_probe`).

Main statement: a file that is built is of this structure (`finished_of_build`).
-/

namespace Resolver.Database

open Finset (range)

/-! ## Positions and sizes -/

/-- The number of records that belong to a table. -/
def load (records : List (Bytes × Bytes)) (i : Nat) : Nat :=
  records.countP fun (key, _) => tableOf (hash key) == i

/-- The position after the records. -/
def recordsEnd (records : List (Bytes × Bytes)) : Nat :=
  headerLength + (records.map fun (key, data) => 8 + key.length + data.length).sum

/-- The position of a table, behind the records and the tables before it. -/
def tablePosition (records : List (Bytes × Bytes)) (i : Nat) : Nat :=
  recordsEnd records + ∑ j ∈ range i, 16 * load records j

/-- The header. -/
def headerBytes (records : List (Bytes × Bytes)) : Bytes :=
  (List.range tableCount).flatMap fun i => pairBytes (tablePosition records i) (2 * load records i)

/-- The hash tables one after the other. -/
def tablesBytes (records : List (Bytes × Bytes)) : Bytes :=
  (List.range tableCount).flatMap fun i =>
    (tableFor (place headerLength records) i).flatMap slotBytes

/-! ## What is read from the file -/

/-- The pair of numbers at a position of a file; none where the file is too short. -/
def wordsAt? (image : Bytes) (pos : Nat) : Option (Nat × Nat) :=
  ((Block.ofList image).slice? pos 8).map pairOf

/-- The pair of numbers at the `k`-th place of the `i`-th table of a file. -/
def placeAt? (records : List (Bytes × Bytes)) (image : Bytes) (i k : Nat) : Option (Nat × Nat) :=
  wordsAt? image (tablePosition records i + 8 * k)

/-- The table of a record. -/
def Record.table (r : Record) : Nat :=
  tableOf (hash r.key)

/-- The pair of numbers that stands for a record in its table. -/
def Record.words (r : Record) : Nat × Nat :=
  ((hash r.key).toNat, r.pos)

/-- The place that a search for a record looks at after `d` others. -/
def Record.probe (r : Record) (slots d : Nat) : Nat :=
  (firstSlot (hash r.key) slots + d) % slots

/-- The structure of the file with the given records. -/
structure Finished (records : List (Bytes × Bytes)) (image : Bytes) : Prop where
  /-- The file is the header, the records in the order they were added and the tables in theirs. -/
  parts : image = headerBytes records ++ (recordsBytes records ++ tablesBytes records)
  length : image.length =
    headerLength + (records.map fun (key, data) => 8 + key.length + data.length).sum +
      16 * records.length
  entry : ∀ i < tableCount,
    wordsAt? image (8 * i) = some (tablePosition records i, 2 * load records i)
  record : ∀ r ∈ place headerLength records,
    (Block.ofList image).Holds r.pos (recordBytes r.key r.data)
  /-- Each record stands in its table, and no place that a search looks at before is empty. -/
  stands : ∀ r ∈ place headerLength records, ∃ d < 2 * load records r.table,
    placeAt? records image r.table (r.probe (2 * load records r.table) d) = some r.words ∧
      ∀ e < d, placeAt? records image r.table (r.probe (2 * load records r.table) e) ≠ some (0, 0)
  /-- No record stands at two places. -/
  once : ∀ r ∈ place headerLength records, ∀ i < tableCount, ∀ k < 2 * load records i,
    ∀ j < tableCount, ∀ l < 2 * load records j, placeAt? records image i k = some r.words →
      placeAt? records image j l = some r.words → i = j ∧ k = l
  /-- Every other place is empty. -/
  other : ∀ i < tableCount, ∀ k < 2 * load records i, placeAt? records image i k = some (0, 0) ∨
    ∃ r ∈ place headerLength records, r.table = i ∧ placeAt? records image i k = some r.words
  /-- At least half of each table is empty. -/
  half : ∀ i < tableCount,
    (List.range (2 * load records i)).countP (placeAt? records image i · ≠ some (0, 0)) ≤
      (List.range (2 * load records i)).countP (placeAt? records image i · = some (0, 0))

/-! ## Taken places -/

theorem withHash_eq_filter (h : UInt32) (places : Table) :
    withHash h places = places.reduceOption.filter (·.hash = h) := by
  rw [List.reduceOption, List.filter_filterMap]
  rfl

namespace Table

theorem round_perm (t : Table) (start : Nat) : (t.round start).Perm t := by
  have hswap : (t.round start).Perm (t.take start ++ t.drop start) := List.perm_append_comm
  rwa [List.take_append_drop] at hswap

/-- In a table without repetitions, a slot stands at one place. -/
theorem eq_of_getElem? {t : Table} (hnodup : t.reduceOption.Nodup) {s : Slot} {j k : Nat}
    (hj : t[j]? = some (some s)) (hk : t[k]? = some (some s)) : j = k := by
  obtain ⟨hjlt, hj⟩ := List.getElem?_eq_some_iff.1 hj
  obtain ⟨hklt, hk⟩ := List.getElem?_eq_some_iff.1 hk
  have happart := List.pairwise_iff_getElem.1 (List.pairwise_filterMap.1 hnodup)
  rcases Nat.lt_trichotomy j k with hlt | heq | hlt
  · exact absurd rfl (happart j k hjlt hklt hlt s hj s hk)
  · exact heq
  · exact absurd rfl (happart k j hklt hjlt hlt s hk s hj)

namespace Filled

variable {t : Table} {slots : List Slot}

/-- A table holds its slots, each as often as it was put in. -/
theorem reduceOption_perm (hf : Filled t slots) : t.reduceOption.Perm slots := by
  rw [List.perm_iff_count]
  intro s
  have hround : (t.round (firstSlot s.hash t.length)).reduceOption.Perm t.reduceOption :=
    (round_perm t _).filterMap id
  calc t.reduceOption.count s
      = (t.round (firstSlot s.hash t.length)).reduceOption.count s := (hround.count_eq s).symm
    _ = (withHash s.hash (t.round (firstSlot s.hash t.length))).count s := by
      rw [withHash_eq_filter]
      exact (List.count_filter (by simp only [decide_true])).symm
    _ = (slots.filter (·.hash = s.hash)).count s := by rw [(hf.probed s.hash).withHash_eq]
    _ = slots.count s := List.count_filter (by simp only [decide_true])

/-- A slot stands where the search for its hash comes to, and no place before is empty. -/
theorem exists_probe (hf : Filled t slots) {s : Slot} (hs : s ∈ slots) :
    ∃ d < t.length, t[(firstSlot s.hash t.length + d) % t.length]? = some (some s) ∧
      ∀ e < d, t[(firstSlot s.hash t.length + e) % t.length]? ≠ some none := by
  have hmem : some s ∈ t := List.reduceOption_mem_iff.1 (hf.reduceOption_perm.mem_iff.2 hs)
  have hstart : firstSlot s.hash t.length ≤ t.length :=
    Nat.le_of_lt (Nat.mod_lt _ (List.length_pos_of_mem hmem))
  obtain ⟨d, hd, hat⟩ := List.getElem_of_mem (mem_round.2 hmem)
  have hdlt : d < t.length := by
    rwa [length_round] at hd
  refine ⟨d, hdlt, ?_, ?_⟩
  · rw [← getElem?_round hstart hdlt, List.getElem?_eq_getElem hd, hat]
  · intro e he hnone
    rw [← getElem?_round hstart (Nat.lt_trans he hdlt)] at hnone
    obtain ⟨helt, hnone⟩ := List.getElem?_eq_some_iff.1 hnone
    have hgapless := List.pairwise_iff_getElem.1 (hf.probed s.hash).gapless
    exact hgapless e d helt hd he hnone s hat rfl

/-- What is not taken is empty. -/
theorem countP_isNone (hf : Filled t slots) :
    t.countP Option.isNone + slots.length = t.length := by
  have hsplit := List.length_eq_countP_add_countP Option.isSome (l := t)
  have hnone : t.countP (fun place => decide ¬place.isSome = true) = t.countP Option.isNone := by
    congr 1
    funext place
    cases place <;> rfl
  rw [hf.count, hnone] at hsplit
  omega

end Filled

end Table

/-! ## The tables of records -/

/-- The slots of the records that belong to a table. -/
def slotsFor (records : List Record) (i : Nat) : List Slot :=
  (records.map Record.slot).filter fun s => tableOf s.hash == i

theorem mem_slotsFor {records : List Record} {i : Nat} {s : Slot} :
    s ∈ slotsFor records i ↔ ∃ r ∈ records, r.slot = s ∧ r.table = i := by
  unfold slotsFor
  rw [List.mem_filter, List.mem_map]
  constructor
  · rintro ⟨⟨r, hr, rfl⟩, htable⟩
    exact ⟨r, hr, rfl, eq_of_beq htable⟩
  · rintro ⟨r, hr, rfl, htable⟩
    exact ⟨⟨r, hr, rfl⟩, beq_iff_eq.2 htable⟩

theorem length_slotsFor (pos : Nat) (records : List (Bytes × Bytes)) (i : Nat) :
    (slotsFor (place pos records) i).length = load records i := by
  unfold slotsFor load
  conv => rhs; rw [← map_place pos records]
  rw [← List.countP_eq_length_filter, List.countP_map, List.countP_map]
  rfl

theorem filled_tableFor (records : List Record) (i : Nat) :
    (tableFor records i).Filled (slotsFor records i) :=
  (Table.filled_ofSlots _).2

theorem length_tableFor (pos : Nat) (records : List (Bytes × Bytes)) (i : Nat) :
    (tableFor (place pos records) i).length = 2 * load records i := by
  rw [← length_slotsFor pos]
  exact (Table.filled_ofSlots _).1

/-- Records lie one behind the other. -/
theorem pairwise_place (pos : Nat) (records : List (Bytes × Bytes)) :
    (∀ r ∈ place pos records, pos ≤ r.pos) ∧
      (place pos records).Pairwise fun r r' => r.pos < r'.pos := by
  induction records generalizing pos with
  | nil => exact ⟨fun r hr => (nomatch hr), List.Pairwise.nil⟩
  | cons record rest ih =>
    obtain ⟨hlow, hpairwise⟩ := ih (pos + 8 + record.1.length + record.2.length)
    refine ⟨?_, List.pairwise_cons.2 ⟨?_, hpairwise⟩⟩
    · intro r hr
      rcases List.mem_cons.1 hr with rfl | hr
      · exact Nat.le_refl _
      · exact Nat.le_trans (by omega) (hlow r hr)
    · intro r hr
      exact Nat.lt_of_lt_of_le (by dsimp only; omega) (hlow r hr)

/-- No slot is in a table twice, as no two records have one position. -/
theorem nodup_tableFor (pos : Nat) (records : List (Bytes × Bytes)) (i : Nat) :
    (tableFor (place pos records) i).reduceOption.Nodup := by
  rw [(filled_tableFor _ i).reduceOption_perm.nodup_iff]
  have hslots : ((place pos records).map Record.slot).Nodup := by
    rw [List.Nodup, List.pairwise_map]
    refine (pairwise_place pos records).2.imp ?_
    intro r r' hlt heq
    exact Nat.ne_of_lt hlt (congrArg Slot.pos heq)
  exact hslots.filter _

/-! ## Where the tables are -/

theorem length_recordsBytes (records : List (Bytes × Bytes)) :
    (recordsBytes records).length =
      (records.map fun (key, data) => 8 + key.length + data.length).sum := by
  unfold recordsBytes
  rw [List.length_flatMap]
  congr 1
  exact List.map_congr_left fun record _ => length_recordBytes record.1 record.2

/-- Every record belongs to one table. -/
theorem sum_load (records : List (Bytes × Bytes)) :
    ∑ i ∈ range tableCount, load records i = records.length := by
  induction records with
  | nil => exact Finset.sum_const_zero
  | cons record rest ih =>
    have hcons : ∀ i, load (record :: rest) i =
        load rest i + if tableOf (hash record.1) = i then 1 else 0 := by
      intro i
      unfold load
      rw [List.countP_cons]
      simp only [beq_iff_eq]
    have hmem : tableOf (hash record.1) ∈ range tableCount :=
      Finset.mem_range.2 (Nat.mod_lt _ (by decide))
    rw [Finset.sum_congr rfl fun i _ => hcons i, Finset.sum_add_distrib, ih, Finset.sum_ite_eq,
      if_pos hmem, List.length_cons]

/-- Tables are placed one behind the other. -/
theorem placeTables_range' {position : Nat → Nat} {group : Nat → List Slot}
    (hposition : ∀ i, position (i + 1) = position i + 8 * (2 * (group i).length))
    {first count : Nat} {tables : List (Nat × Table)}
    (h : placeTables? (position first) ((List.range' first count).map group) = some tables) :
    tables = (List.range' first count).map fun i => (position i, Table.ofSlots (group i)) := by
  induction count generalizing first tables with
  | zero => exact (Option.some.inj h).symm
  | succ count ih =>
    rw [List.range'_succ, List.map_cons] at h ⊢
    obtain ⟨-, rest, hrest, rfl⟩ := placeTables_cons h
    rw [← hposition] at hrest
    rw [ih hrest]

/-- The parts of a file, with the position of each table. -/
theorem parts_of_build {records : List (Bytes × Bytes)} {image : Bytes}
    (h : build records = .ok image) :
    ∃ tables, placeTables? (tablePosition records 0)
        ((List.range tableCount).map (slotsFor (place headerLength records))) = some tables ∧
      tables = ((List.range tableCount).map fun i =>
        (tablePosition records i, tableFor (place headerLength records) i)) ∧
      image = headerBytes records ++ (recordsBytes records ++ tablesBytes records) := by
  unfold build at h
  cases hadd : Builder.empty.addAll records with
  | error e =>
    rw [hadd] at h
    contradiction
  | ok b =>
    rw [hadd] at h
    obtain ⟨hrecords, hslots, hend, -⟩ := Builder.addAll_ok hadd
    obtain ⟨tables, htables, himage⟩ := Builder.finish_ok h
    have hfirst : b.layout.fileEnd = tablePosition records 0 := by
      rw [hend, length_recordsBytes]
      rfl
    have hgroups : b.layout.groups =
        (List.range tableCount).map (slotsFor (place headerLength records)) := by
      unfold Layout.groups
      rw [hslots]
      rfl
    unfold Layout.finish? at htables
    rw [hfirst, hgroups] at htables
    have hposition : ∀ i, tablePosition records (i + 1) = tablePosition records i +
        8 * (2 * (slotsFor (place headerLength records) i).length) := by
      intro i
      unfold tablePosition
      rw [Finset.sum_range_succ, length_slotsFor]
      omega
    have hplaced := htables
    rw [List.range_eq_range'] at hplaced
    have hall := placeTables_range' hposition hplaced
    rw [← List.range_eq_range'] at hall
    refine ⟨tables, htables, hall, ?_⟩
    rw [himage, hrecords, hall, List.flatMap_map, List.flatMap_map]
    unfold headerBytes tablesBytes
    simp only [← length_tableFor headerLength]
    rfl

theorem length_header (records : List (Bytes × Bytes)) :
    (headerBytes records).length = headerLength := by
  unfold headerBytes
  rw [Block.length_flatMap_of_width _ fun _ => length_pairBytes _ _, List.length_range]
  rfl

theorem length_tablesBytes (records : List (Bytes × Bytes)) :
    (tablesBytes records).length = 16 * records.length := by
  have hrange : ∀ n, ((List.range n).flatMap fun i =>
      (tableFor (place headerLength records) i).flatMap slotBytes).length =
        ∑ i ∈ range n, 16 * load records i := by
    intro n
    induction n with
    | zero => rfl
    | succ n ih =>
      rw [List.range_succ, List.flatMap_append, List.length_append, ih, List.flatMap_singleton,
        length_tableBytes, length_tableFor, Finset.sum_range_succ]
      omega
  unfold tablesBytes
  rw [hrange, ← Finset.mul_sum, sum_load]

section

variable {records : List (Bytes × Bytes)} {image : Bytes} {i j k l : Nat} {r : Record}

/-- The entry of a table in the header and the table at its position. -/
theorem table_of_build (h : build records = .ok image) (hi : i < tableCount) :
    (Block.ofList image).Holds (8 * i) (pairBytes (tablePosition records i) (2 * load records i)) ∧
      tablePosition records i + 8 * (2 * load records i) ≤ maxWord32 ∧
      (Block.ofList image).Holds (tablePosition records i)
        ((tableFor (place headerLength records) i).flatMap slotBytes) := by
  obtain ⟨tables, htables, hall, himage⟩ := parts_of_build h
  have hfile := Block.holds_ofList_self image
  conv at hfile => rhs; rw [himage]
  rw [Block.holds_append_iff, Block.holds_append_iff, Nat.zero_add, length_header,
    length_recordsBytes] at hfile
  obtain ⟨hheader, -, htablesBytes⟩ := hfile
  have hbodies : tablesBytes records = tables.flatMap fun table => table.2.flatMap slotBytes := by
    rw [hall, List.flatMap_map]
    rfl
  rw [hbodies] at htablesBytes
  have hrange : (List.range tableCount)[i]? = some i := List.getElem?_range hi
  have hgroup : ((List.range tableCount).map (slotsFor (place headerLength records)))[i]? =
      some (slotsFor (place headerLength records) i) := by
    rw [List.getElem?_map, hrange]
    rfl
  obtain ⟨pos, hpos, hfits, hholds⟩ := holds_placeTables htables htablesBytes hgroup
  rw [hall, List.getElem?_map, hrange] at hpos
  obtain rfl := (Prod.mk.inj (Option.some.inj hpos)).1
  have hentry := hheader.flatMap (fun _ => length_pairBytes _ _) hrange
  rw [Nat.zero_add] at hentry
  have hlength := length_tableFor headerLength records i
  unfold tableFor at hlength
  refine ⟨hentry, ?_, hholds⟩
  rw [← hlength]
  exact hfits

/-! ## The places as they are read -/

/-- The pair of numbers that stands for a place. -/
def placeWords : Option Slot → Nat × Nat
  | some s => (s.hash.toNat, s.pos)
  | none => (0, 0)

theorem wordsAt?_of_holds {pos first second : Nat}
    (h : (Block.ofList image).Holds pos (pairBytes first second)) (hfirst : first ≤ maxWord32)
    (hsecond : second ≤ maxWord32) : wordsAt? image pos = some (first, second) := by
  rw [wordsAt?, h.slice?_eq (length_pairBytes first second), Option.map_some,
    pairOf_pairBytes hfirst hsecond]

/-- What is read at a place of a table. -/
theorem placeAt?_of_build (h : build records = .ok image) (hi : i < tableCount)
    (hk : k < 2 * load records i) :
    placeAt? records image i k =
      (tableFor (place headerLength records) i)[k]?.map placeWords := by
  obtain ⟨-, -, hholds⟩ := table_of_build h hi
  rw [← length_tableFor headerLength] at hk
  have hat := List.getElem?_eq_getElem hk
  have hmem := List.getElem_mem hk
  generalize (tableFor (place headerLength records) i)[k] = slot at hat hmem
  have hslot := hholds.flatMap length_slotBytes hat
  rw [hat, Option.map_some]
  cases slot with
  | none => exact wordsAt?_of_holds hslot (by decide) (by decide)
  | some s =>
    obtain ⟨r, hr, rfl, -⟩ := mem_slotsFor.1 ((filled_tableFor _ i).mem hmem)
    obtain ⟨-, hstop, -⟩ := (image_of_build h).record r hr
    unfold Record.stop at hstop
    exact wordsAt?_of_holds hslot (Nat.le_of_lt_succ r.slot.hash.toNat_lt)
      (show r.pos ≤ maxWord32 by omega)

theorem placeAt?_eq_zero_iff (h : build records = .ok image) (hi : i < tableCount)
    (hk : k < 2 * load records i) :
    placeAt? records image i k = some (0, 0) ↔
      (tableFor (place headerLength records) i)[k]? = some none := by
  rw [placeAt?_of_build h hi hk]
  constructor
  · intro hzero
    obtain ⟨slot, hat, hwords⟩ := Option.map_eq_some_iff.1 hzero
    cases slot with
    | none => exact hat
    | some s =>
      -- no record lies at position 0
      obtain ⟨r, hr, rfl, -⟩ :=
        mem_slotsFor.1 ((filled_tableFor _ i).mem (List.mem_of_getElem? hat))
      have hpos := ((image_of_build h).record r hr).1
      exact absurd (congrArg Prod.snd hwords) (Nat.ne_of_gt hpos)
  · intro hat
    rw [hat]
    rfl

theorem placeAt?_eq_words_iff (h : build records = .ok image) (hi : i < tableCount)
    (hk : k < 2 * load records i) (hr : r ∈ place headerLength records) :
    placeAt? records image i k = some r.words ↔
      (tableFor (place headerLength records) i)[k]? = some (some r.slot) := by
  rw [placeAt?_of_build h hi hk]
  constructor
  · intro hwordsAt
    obtain ⟨slot, hat, hwords⟩ := Option.map_eq_some_iff.1 hwordsAt
    obtain ⟨hhash, hpos⟩ := Prod.mk.inj hwords
    cases slot with
    | none => exact absurd hpos.symm (Nat.ne_of_gt ((image_of_build h).record r hr).1)
    | some s =>
      obtain ⟨hash, pos⟩ := s
      obtain rfl := UInt32.toNat_inj.1 hhash
      obtain rfl : pos = r.pos := hpos
      exact hat
  · intro hat
    rw [hat]
    rfl

/-- Counting the empty places of a table one after the other. -/
theorem Table.countP_range (t : Table) :
    (List.range t.length).countP (t[·]? = some none) = t.countP Option.isNone := by
  have hplaces : (List.range t.length).map (t[·]?) = t.map some := by
    apply List.ext_getElem
    · rw [List.length_map, List.length_map, List.length_range]
    · intro k hk _
      rw [List.length_map, List.length_range] at hk
      rw [List.getElem_map, List.getElem_map, List.getElem_range, List.getElem?_eq_getElem hk]
  have hcount : ((List.range t.length).map (t[·]?)).countP (· = some none) =
      (t.map some).countP (· = some none) := by rw [hplaces]
  rw [List.countP_map, List.countP_map] at hcount
  refine hcount.trans ?_
  congr 1
  funext place
  cases place <;> rfl

/-! ## The structure of what is built -/

theorem stands_of_build (h : build records = .ok image) (hr : r ∈ place headerLength records) :
    ∃ d < 2 * load records r.table,
      placeAt? records image r.table (r.probe (2 * load records r.table) d) = some r.words ∧
        ∀ e < d, placeAt? records image r.table (r.probe (2 * load records r.table) e) ≠
          some (0, 0) := by
  have htable : r.table < tableCount := Nat.mod_lt _ (by decide)
  obtain ⟨d, hd, hat, hbefore⟩ :=
    (filled_tableFor (place headerLength records) r.table).exists_probe
      (mem_slotsFor.2 ⟨r, hr, rfl, rfl⟩)
  rw [length_tableFor] at hd hat hbefore
  have hprobe : ∀ e, r.probe (2 * load records r.table) e < 2 * load records r.table :=
    fun e => Nat.mod_lt _ (Nat.zero_lt_of_lt hd)
  refine ⟨d, hd, (placeAt?_eq_words_iff h htable (hprobe d) hr).2 hat, ?_⟩
  intro e he hzero
  exact hbefore e he ((placeAt?_eq_zero_iff h htable (hprobe e)).1 hzero)

theorem once_of_build (h : build records = .ok image) (hr : r ∈ place headerLength records)
    (hi : i < tableCount) (hk : k < 2 * load records i) (hj : j < tableCount)
    (hl : l < 2 * load records j) (hik : placeAt? records image i k = some r.words)
    (hjl : placeAt? records image j l = some r.words) : i = j ∧ k = l := by
  rw [placeAt?_eq_words_iff h hi hk hr] at hik
  rw [placeAt?_eq_words_iff h hj hl hr] at hjl
  have htable : ∀ {i k : Nat}, (tableFor (place headerLength records) i)[k]? = some (some r.slot) →
      tableOf r.slot.hash = i := by
    intro i k hat
    obtain ⟨r', -, hslot, htable⟩ :=
      mem_slotsFor.1 ((filled_tableFor _ i).mem (List.mem_of_getElem? hat))
    rw [← hslot]
    exact htable
  obtain rfl : i = j := (htable hik).symm.trans (htable hjl)
  exact ⟨rfl, Table.eq_of_getElem? (nodup_tableFor headerLength records i) hik hjl⟩

theorem other_of_build (h : build records = .ok image) (hi : i < tableCount)
    (hk : k < 2 * load records i) : placeAt? records image i k = some (0, 0) ∨
      ∃ r ∈ place headerLength records,
        r.table = i ∧ placeAt? records image i k = some r.words := by
  have hlt := hk
  rw [← length_tableFor headerLength] at hlt
  have hat := List.getElem?_eq_getElem hlt
  cases hslot : (tableFor (place headerLength records) i)[k] with
  | none =>
    rw [hslot] at hat
    exact .inl ((placeAt?_eq_zero_iff h hi hk).2 hat)
  | some s =>
    rw [hslot] at hat
    obtain ⟨r, hr, rfl, htable⟩ :=
      mem_slotsFor.1 ((filled_tableFor _ i).mem (List.mem_of_getElem? hat))
    exact .inr ⟨r, hr, htable, (placeAt?_eq_words_iff h hi hk hr).2 hat⟩

/-- As many places of a table are empty as there are records that belong to it. -/
theorem countP_of_build (h : build records = .ok image) (hi : i < tableCount) :
    (List.range (2 * load records i)).countP (placeAt? records image i · = some (0, 0)) =
      load records i := by
  have hempty :
      (List.range (2 * load records i)).countP (placeAt? records image i · = some (0, 0)) =
      (List.range (2 * load records i)).countP
        ((tableFor (place headerLength records) i)[·]? = some none) := by
    apply List.countP_congr
    intro k hk
    rw [decide_eq_true_iff, decide_eq_true_iff]
    exact placeAt?_eq_zero_iff h hi (List.mem_range.1 hk)
  have hlength := length_tableFor headerLength records i
  have hcount := (filled_tableFor (place headerLength records) i).countP_isNone
  rw [← Table.countP_range, hlength, length_slotsFor] at hcount
  omega

/-- A file that is built has its header, its records and its tables where they belong: each entry of
the header tells the position and the number of places of its table, each record stands once, in its
table and with no empty place between where the search for it starts and where it stands, and all
other places are empty, at least half of each table. -/
theorem finished_of_build (h : build records = .ok image) : Finished records image where
  parts := by
    obtain ⟨-, -, -, himage⟩ := parts_of_build h
    exact himage
  length := by
    obtain ⟨-, -, -, himage⟩ := parts_of_build h
    rw [himage, List.length_append, List.length_append, length_header, length_recordsBytes,
      length_tablesBytes]
    omega
  entry i hi := by
    obtain ⟨hentry, hfits, -⟩ := table_of_build h hi
    exact wordsAt?_of_holds hentry (by omega) (by omega)
  record r hr := ((image_of_build h).record r hr).2.2
  stands r hr := stands_of_build h hr
  once r hr i hi k hk j hj l hl hik hjl := once_of_build h hr hi hk hj hl hik hjl
  other i hi k hk := other_of_build h hi hk
  half i hi := by
    have hcount := countP_of_build h hi
    have hsplit := List.length_eq_countP_add_countP (placeAt? records image i · = some (0, 0))
      (l := List.range (2 * load records i))
    rw [List.length_range, hcount] at hsplit
    simp only [decide_eq_true_eq] at hsplit
    simp only [ne_eq]
    omega

end

/-- Three records, two of them with one key. -/
theorem finished_of_build_twice :
    ∃ image, build [([97], [1]), ([98], [2]), ([97], [3])] = .ok image ∧
      Finished [([97], [1]), ([98], [2]), ([97], [3])] image := by
  have hbuilt : (build [([97], [1]), ([98], [2]), ([97], [3])]).isOk = true := by decide +kernel
  cases himage : build [([97], [1]), ([98], [2]), ([97], [3])] with
  | error e =>
    rw [himage] at hbuilt
    contradiction
  | ok image => exact ⟨image, rfl, finished_of_build himage⟩

end Resolver.Database
