import Resolver.Database.Reader
import Resolver.Proofs.Database.Image

/-!
# Looking up a key

What a search does in the file of a database with given records.

Main statements: from each place of a table on, a search finds the records with the key whose slots
are still to come (`Finder.collect_after`), and so it finds all of them in their order
(`getAll_of_image`).
-/

namespace Resolver

namespace Database

variable {b : Block} {mapped : Bool} {pos : Nat}

/-! ## Reading -/

theorem read_of_holds {len : Nat} {bytes : Bytes} (h : b.Holds pos bytes)
    (hlen : bytes.length = len) : (Database.mk (.file b) mapped).read pos len = .ok bytes := by
  unfold read
  dsimp only
  split
  · rename_i hnone
    rw [hnone.1] at hlen
    rw [List.eq_nil_of_length_eq_zero hlen]
  · rw [h.slice?_eq hlen]

theorem readPair_of_holds {first second : Nat} (h : b.Holds pos (pairBytes first second))
    (hfirst : first ≤ maxWord32) (hsecond : second ≤ maxWord32) :
    (Database.mk (.file b) mapped).readPair pos = .ok (first, second) := by
  unfold readPair
  rw [read_of_holds h (length_pairBytes _ _), Except.map, pairOf_pairBytes hfirst hsecond]

/-- Comparing a key chunk by chunk tells whether it is the one that stands there. -/
theorem keyAt_of_holds {stored key : Bytes} (h : b.Holds pos stored)
    (hlen : stored.length = key.length) (hfits : pos + key.length ≤ maxWord32) :
    (Database.mk (.file b) mapped).keyAt key pos = .ok (decide (stored = key)) := by
  -- a chunk that agrees leaves a shorter key to compare
  induction hn : key.length using Nat.strongRecOn generalizing key stored pos with
  | ind n ih =>
    unfold keyAt
    by_cases hempty : key = []
    · rw [dif_pos hempty, hempty]
      rw [hempty] at hlen
      rw [List.eq_nil_of_length_eq_zero hlen]
      rfl
    · rw [dif_neg hempty]
      have hpos := List.length_pos_iff.2 hempty
      have hsplit := h
      rw [← List.take_append_drop chunkLength stored, Block.holds_append_iff] at hsplit
      have htake : (stored.take chunkLength).length = (key.take chunkLength).length := by
        rw [List.length_take, List.length_take, hlen]
      rw [read_of_holds hsplit.1 htake]
      dsimp only
      by_cases hchunk : stored.take chunkLength = key.take chunkLength
      · have hstep : 0 < chunkLength := by decide
        have hchunkLength : (key.take chunkLength).length = min chunkLength key.length :=
          List.length_take
        have hrestLength : (key.drop chunkLength).length = key.length - chunkLength :=
          List.length_drop
        have hmod : (pos + (key.take chunkLength).length) % 0x100000000 =
            pos + (key.take chunkLength).length := by
          unfold maxWord32 at hfits
          exact Nat.mod_eq_of_lt (by omega)
        rw [if_pos hchunk, hmod, ← htake]
        rw [ih (key.drop chunkLength).length (by omega) hsplit.2
          (by rw [List.length_drop, List.length_drop, hlen]) (by omega) rfl]
        congr 1
        rw [decide_eq_decide]
        constructor
        · intro hdrop
          rw [← List.take_append_drop chunkLength stored, hchunk, hdrop, List.take_append_drop]
        · rintro rfl
          rfl
      · rw [if_neg hchunk]
        congr 1
        exact (decide_eq_false fun heq => hchunk (by rw [heq])).symm

/-! ## One record -/

/-- The record at a position, seen with a key. -/
theorem recordAt_of_holds (mapped : Bool) {r : Record} (h : b.Holds r.pos (recordBytes r.key r.data))
    (hstop : r.stop ≤ maxWord32) (key : Bytes) :
    (Database.mk (.file b) mapped).recordAt key r.pos =
      .ok (if r.key = key then some ⟨r.pos + 8 + key.length, r.data.length⟩ else none) := by
  unfold Record.stop at hstop
  rw [recordBytes, Block.holds_append_iff, Block.holds_append_iff, length_pairBytes] at h
  obtain ⟨hlengths, hkey, -⟩ := h
  unfold recordAt
  simp only [bind, Except.bind, readPair_of_holds hlengths (by omega) (by omega)]
  by_cases hlen : r.key.length = key.length
  · rw [if_neg (not_not_intro hlen)]
    simp only [pure, Except.pure]
    rw [if_neg (by omega)]
    simp only [keyAt_of_holds hkey hlen (by omega)]
    by_cases heq : r.key = key
    · rw [if_pos (by simpa using heq), if_neg (by omega), if_pos heq, hlen]
    · rw [if_neg (by simpa using heq), if_neg heq]
  · rw [if_pos hlen, if_neg fun heq => hlen (congrArg List.length heq)]
    rfl

/-- The data of a record can be read. -/
theorem readData_of_holds {r : Record} (h : b.Holds r.pos (recordBytes r.key r.data)) :
    (Database.mk (.file b) mapped).readData ⟨r.pos + 8 + r.key.length, r.data.length⟩ =
      .ok r.data := by
  rw [recordBytes, Block.holds_append_iff, Block.holds_append_iff, length_pairBytes] at h
  obtain ⟨-, -, hdata⟩ := h
  have hfits := hdata.le_size
  unfold readData fileLength?
  dsimp only
  rw [if_neg (by omega), read_of_holds hdata rfl]

end Database

/-! ## Searching a table -/

namespace Finder

open Database

/-- The search for a hash in the table at `table` after `probes` of its `slots` places. -/
def after (h : UInt32) (table slots probes : Nat) : Finder :=
  ⟨probes, h, table + 8 * ((firstSlot h slots + probes) % slots), table, slots⟩

theorem advance_after (h : UInt32) {table slots : Nat} (probes : Nat) (hslots : 0 < slots)
    (hfits : table + 8 * slots ≤ maxWord32) :
    (after h table slots probes).advance = (after h table slots (probes + 1), .ok ()) := by
  have hlt := Nat.mod_lt (firstSlot h slots + probes) hslots
  have hnext : (firstSlot h slots + (probes + 1)) % slots =
      ((firstSlot h slots + probes) % slots + 1) % slots := by
    rw [Nat.mod_add_mod, Nat.add_assoc]
  have hmod : (table + 8 * ((firstSlot h slots + probes) % slots) + 8) % 0x100000000 =
      table + 8 * ((firstSlot h slots + probes) % slots) + 8 := by
    unfold maxWord32 at hfits
    exact Nat.mod_eq_of_lt (by omega)
  unfold advance slotOffset after
  dsimp only
  rw [if_pos hfits, hmod, hnext]
  dsimp only
  generalize (firstSlot h slots + probes) % slots = place at hlt ⊢
  by_cases hlast : place + 1 = slots
  · -- behind the last place comes the first
    rw [if_pos (by omega), hlast, Nat.mod_self]
    rfl
  · rw [if_neg (by omega), Nat.mod_eq_of_lt (by omega), Nat.mul_add]
    rfl

variable {f f' : Finder} {db : Database} {key : Bytes}

theorem scan_of_end (h : f.slots ≤ f.probes) : f.scan db key = (f, .ok none) := by
  rw [scan, if_neg (Nat.not_lt.2 h)]

theorem scan_of_empty {hash : Nat} (h : f.probes < f.slots)
    (hread : db.readPair f.slot = .ok (hash, 0)) : f.scan db key = (f, .ok none) := by
  rw [scan, if_pos h]
  simp only [hread, if_true]

/-- At a taken place a search finds the record with the key or goes on. -/
theorem scan_of_slot {hash pos : Nat} (found : Option DataRef) (h : f.probes < f.slots)
    (hread : db.readPair f.slot = .ok (hash, pos)) (hpos : pos ≠ 0)
    (hadvance : f.advance = (f', .ok ()))
    (hfound : if hash = f.hash.toNat then db.recordAt key pos = .ok found else found = none) :
    f.scan db key = found.elim (f'.scan db key) fun ref => (f', .ok (some ref)) := by
  rw [scan, if_pos h]
  simp only [hread, if_neg hpos]
  split
  · rename_i heq
    rw [hadvance] at heq
    cases (Prod.mk.inj heq).2
  · rename_i heq
    rw [hadvance] at heq
    obtain ⟨rfl, -⟩ := Prod.mk.inj heq
    by_cases hhash : hash = f.hash.toNat
    · rw [if_pos hhash] at hfound
      rw [if_neg (not_not_intro hhash), hfound]
      cases found <;> rfl
    · rw [if_neg hhash] at hfound
      rw [if_pos hhash, hfound]
      rfl

/-! ## One answer after the other -/

theorem collect_of_error {e : ReadError} (h : f.scan db key = (f', .error e)) :
    f.collect db key = .error e := by
  rw [collect]
  split <;> rename_i heq <;> rw [h] at heq <;> cases heq
  rfl

theorem collect_of_none (h : f.scan db key = (f', .ok none)) : f.collect db key = .ok [] := by
  rw [collect]
  split <;> rename_i heq <;> rw [h] at heq <;> cases heq

/-- After a record that was found, a search goes on. -/
theorem collect_of_some {ref : DataRef} (h : f.scan db key = (f', .ok (some ref))) :
    f.collect db key =
      (db.readData ref).bind fun data => (f'.collect db key).map (data :: ·) := by
  rw [collect]
  split <;> rename_i heq <;> rw [h] at heq <;> cases heq
  cases db.readData ref <;> rfl

/-- Searches that find the same go on in the same way. -/
theorem collect_congr (h : f.scan db key = f'.scan db key) :
    f.collect db key = f'.collect db key := by
  rcases hscan : f'.scan db key with ⟨f₁, found⟩
  rw [hscan] at h
  cases found with
  | error e => rw [collect_of_error h, collect_of_error hscan]
  | ok found =>
    cases found with
    | none => rw [collect_of_none h, collect_of_none hscan]
    | some ref => rw [collect_of_some h, collect_of_some hscan]

/-- The answers of a search begin with what it finds first. -/
theorem scan_of_collect {datas : List Bytes} (h : f.collect db key = .ok datas) :
    (∃ f', f.scan db key = (f', .ok none) ∧ datas = []) ∨
      ∃ f' ref data rest, f.scan db key = (f', .ok (some ref)) ∧
        db.readData ref = .ok data ∧ datas = data :: rest := by
  rcases hscan : f.scan db key with ⟨f', found⟩
  cases found with
  | error e =>
    rw [collect_of_error hscan] at h
    contradiction
  | ok found =>
    cases found with
    | none =>
      rw [collect_of_none hscan] at h
      exact .inl ⟨f', rfl, (Except.ok.inj h).symm⟩
    | some ref =>
      rw [collect_of_some hscan] at h
      cases hread : db.readData ref with
      | error e =>
        rw [hread] at h
        contradiction
      | ok data =>
        cases hrest : f'.collect db key with
        | error e =>
          rw [hread, hrest] at h
          contradiction
        | ok rest =>
          rw [hread, hrest] at h
          exact .inr ⟨f', ref, data, rest, rfl, hread, (Except.ok.inj h).symm⟩

end Finder

/-! ## Searching the file -/

namespace Database

variable {b : Block} {mapped : Bool} {records : List Record}

/-- Every slot of a table is the slot of a record. -/
theorem exists_record {i : Nat} {s : Slot} (h : some s ∈ tableFor records i) :
    ∃ r ∈ records, r.slot = s := by
  have hs := (Table.filled_ofSlots _).2.mem h
  exact List.mem_map.1 (List.mem_filter.1 hs).1

/-- In the order of a search, the table of a key holds the slots of the records with its hash. -/
theorem probed_tableFor (records : List Record) (key : Bytes) :
    Probed (hash key) ((records.filter fun r => hash r.key = hash key).map Record.slot)
      ((tableFor records (tableOf (hash key))).round
        (firstSlot (hash key) (tableFor records (tableOf (hash key))).length)) := by
  have hslots : ((records.map Record.slot).filter fun s => tableOf s.hash == tableOf (hash key)).filter
      (·.hash = hash key) = (records.filter fun r => hash r.key = hash key).map Record.slot := by
    rw [List.filter_filter, List.filter_map]
    congr 1
    apply List.filter_congr
    intro r _
    by_cases heq : hash r.key = hash key
    · simp [Record.slot, heq]
    · simp [Record.slot, heq]
  rw [← hslots]
  exact (Table.filled_ofSlots _).2.probed (hash key)

end Database

namespace Finder

open Database

variable {b : Block} {mapped : Bool} {records : List Record} {t : Table} {table : Nat}

/-- What stands at the next place of a search. -/
theorem holds_after {h : UInt32} {probes : Nat} {place : Option Slot} {rest : Table}
    (hholds : b.Holds table (t.flatMap slotBytes)) (hprobes : probes < t.length)
    (hplaces : (t.round (firstSlot h t.length)).drop probes = place :: rest) :
    b.Holds (after h table t.length probes).slot (slotBytes place) := by
  have hstart : firstSlot h t.length ≤ t.length :=
    Nat.le_of_lt (Nat.mod_lt _ (Nat.zero_lt_of_lt hprobes))
  have hplace : (t.round (firstSlot h t.length))[probes]? = some place := by
    rw [← List.head?_drop, hplaces]
    rfl
  rw [Table.getElem?_round hstart hprobes] at hplace
  exact hholds.flatMap length_slotBytes hplace

/-- A search stops at the slot of a record with the key and passes by that of any other. -/
theorem scan_after (mapped : Bool) {key : Bytes} {probes : Nat} {r : Record} {rest : Table}
    (hrecord : 0 < r.pos ∧ r.stop ≤ maxWord32 ∧ b.Holds r.pos (recordBytes r.key r.data))
    (hfits : table + 8 * t.length ≤ maxWord32) (hholds : b.Holds table (t.flatMap slotBytes))
    (hprobes : probes < t.length)
    (hplaces : (t.round (firstSlot (Database.hash key) t.length)).drop probes =
      some r.slot :: rest) :
    (after (Database.hash key) table t.length probes).scan ⟨.file b, mapped⟩ key =
      if r.key = key then
        (after (Database.hash key) table t.length (probes + 1),
          .ok (some ⟨r.pos + 8 + r.key.length, r.data.length⟩))
      else (after (Database.hash key) table t.length (probes + 1)).scan ⟨.file b, mapped⟩ key := by
  obtain ⟨hpos, hstop, hbytes⟩ := hrecord
  have hposLe : r.pos ≤ maxWord32 := by
    unfold Record.stop at hstop
    omega
  have hhashLe : r.slot.hash.toNat ≤ maxWord32 := Nat.le_of_lt_succ r.slot.hash.toNat_lt
  have hread : (Database.mk (.file b) mapped).readPair
      (after (Database.hash key) table t.length probes).slot =
      .ok (r.slot.hash.toNat, r.slot.pos) :=
    readPair_of_holds (holds_after hholds hprobes hplaces) hhashLe hposLe
  have hadvance :=
    advance_after (Database.hash key) probes (Nat.zero_lt_of_lt hprobes) hfits
  have hrecordAt := recordAt_of_holds mapped hbytes hstop key
  by_cases hkey : r.key = key
  · rw [if_pos hkey] at hrecordAt ⊢
    rw [hkey]
    refine scan_of_slot (some _) hprobes hread (Nat.ne_of_gt hpos) hadvance ?_
    rw [if_pos (by rw [← hkey]; rfl)]
    exact hrecordAt
  · rw [if_neg hkey] at hrecordAt ⊢
    refine scan_of_slot none hprobes hread (Nat.ne_of_gt hpos) hadvance ?_
    split
    · exact hrecordAt
    · rfl

/-- At a taken place stands the slot of a record, of the next one to come if it has the hash. -/
theorem exists_next {key : Bytes} {s : Slot} {places : Table} {coming : List Record}
    (hslots : ∃ r ∈ records, r.slot = s)
    (hprobed : Probed (Database.hash key) (coming.map Record.slot) (some s :: places))
    (hcoming : ∀ r ∈ coming, r ∈ records) :
    ∃ r ∈ records, r.slot = s ∧ ∃ later, (∀ r ∈ later, r ∈ records) ∧
      Probed (Database.hash key) (later.map Record.slot) places ∧
      coming.filter (·.key = key) = (r :: later).filter (·.key = key) := by
  have hlater := hprobed.tail
  have hfound := hprobed.withHash_eq
  rw [withHash_cons_some] at hfound
  by_cases hhash : s.hash = Database.hash key
  · rw [if_pos hhash] at hfound
    obtain ⟨r, later, rfl, hslot, hrest⟩ := List.map_eq_cons_iff.1 hfound.symm
    rw [← hrest] at hlater
    exact ⟨r, hcoming r List.mem_cons_self, hslot, later,
      fun r hr => hcoming r (List.mem_cons_of_mem _ hr), hlater, rfl⟩
  · rw [if_neg hhash] at hfound
    obtain ⟨r, hr, rfl⟩ := hslots
    -- a record with another hash has another key
    have hkey : r.key ≠ key := by
      rintro rfl
      exact hhash rfl
    rw [hfound] at hlater
    refine ⟨r, hr, rfl, coming, hcoming, hlater, ?_⟩
    rw [List.filter_cons_of_neg (by simpa using hkey)]

/-- From each place of the table on, a search finds the records with the key whose slots are still
to come. -/
theorem collect_after {key : Bytes} (himage : Image b records)
    (hfits : table + 8 * t.length ≤ maxWord32) (hholds : b.Holds table (t.flatMap slotBytes))
    (hslots : ∀ s, some s ∈ t → ∃ r ∈ records, r.slot = s) {probes : Nat} {places : Table}
    {coming : List Record}
    (hplaces : (t.round (firstSlot (Database.hash key) t.length)).drop probes = places)
    (hprobed : Probed (Database.hash key) (coming.map Record.slot) places)
    (hcoming : ∀ r ∈ coming, r ∈ records) :
    (after (Database.hash key) table t.length probes).collect ⟨.file b, mapped⟩ key =
      .ok ((coming.filter (·.key = key)).map Record.data) := by
  -- the places not yet looked at get fewer, and the records to come are those of their slots
  induction places generalizing probes coming with
  | nil =>
    have hend : t.length ≤ probes := by
      rw [List.drop_eq_nil_iff, Table.length_round] at hplaces
      exact hplaces
    obtain rfl := List.map_eq_nil_iff.1 hprobed.withHash_eq.symm
    exact collect_of_none (scan_of_end hend)
  | cons place places ih =>
    have hlt : probes < t.length := by
      apply Nat.lt_of_not_le
      intro hle
      rw [List.drop_eq_nil_of_le (by rw [Table.length_round]; exact hle)] at hplaces
      contradiction
    have hrest : (t.round (firstSlot (Database.hash key) t.length)).drop (probes + 1) = places := by
      rw [← List.drop_drop, hplaces]
      rfl
    cases place with
    | none =>
      -- an empty place ends the search, and no slot of the hash stands behind it
      have hnone := hprobed.withHash_eq_nil
      rw [← withHash_cons_none, hprobed.withHash_eq] at hnone
      obtain rfl := List.map_eq_nil_iff.1 hnone
      exact collect_of_none (scan_of_empty hlt
        (readPair_of_holds (holds_after hholds hlt hplaces) (by decide) (by decide)))
    | some s =>
      have hmem : some s ∈ t := by
        rw [← Table.mem_round, ← List.take_append_drop probes (t.round _), hplaces]
        exact List.mem_append_right _ List.mem_cons_self
      obtain ⟨r, hr, rfl, later, hlater, hprobed', hfilter⟩ :=
        exists_next (hslots s hmem) hprobed hcoming
      have hscan := scan_after mapped (himage.record r hr) hfits hholds hlt hplaces
      have hcollect := ih hrest hprobed' hlater
      rw [hfilter]
      by_cases hkey : r.key = key
      · rw [if_pos hkey] at hscan
        rw [collect_of_some hscan, readData_of_holds (himage.record r hr).2.2, hcollect,
          List.filter_cons_of_pos (by simpa using hkey), List.map_cons]
        rfl
      · rw [if_neg hkey] at hscan
        rw [collect_congr hscan, hcollect, List.filter_cons_of_neg (by simpa using hkey)]

end Finder

namespace Database

/-- In the file of a database, every search for all the data of a key finds them in the order of
their records. -/
theorem getAll_of_image {b : Block} {records : List Record} (himage : Image b records)
    (mapped : Bool) (key : Bytes) :
    (Database.mk (.file b) mapped).getAll key =
      .ok ((records.filter (·.key = key)).map Record.data) := by
  have hlt : tableOf (hash key) < tableCount := Nat.mod_lt _ (by decide)
  obtain ⟨table, hpair, hfits, hholds⟩ := himage.table _ hlt
  have hprobed := probed_tableFor records key
  have hslots : ∀ s, some s ∈ tableFor records (tableOf (hash key)) → ∃ r ∈ records, r.slot = s :=
    fun s hs => exists_record hs
  have hread : (Database.mk (.file b) mapped).readPair (8 * tableOf (hash key)) =
      .ok (table, (tableFor records (tableOf (hash key))).length) :=
    readPair_of_holds hpair (by omega) (by omega)
  have hsame : (records.filter (·.key = key)) =
      (records.filter fun r => hash r.key = hash key).filter (·.key = key) := by
    rw [List.filter_filter]
    apply List.filter_congr
    intro r _
    by_cases heq : r.key = key
    · simp [heq]
    · simp [heq]
  generalize tableFor records (tableOf (hash key)) = t at *
  unfold getAll Finder.enter
  dsimp only
  rw [hread, hsame]
  dsimp only
  by_cases hempty : t.length = 0
  · rw [if_pos hempty]
    obtain rfl := List.eq_nil_of_length_eq_zero hempty
    have hnone := hprobed.withHash_eq
    rw [Table.round, List.drop_nil, List.take_nil] at hnone
    rw [List.map_eq_nil_iff.1 hnone.symm]
    rfl
  · have hstart : firstSlot (hash key) t.length < t.length := Nat.mod_lt _ (by omega)
    have hslot : firstSlot (hash key) t.length = (firstSlot (hash key) t.length + 0) % t.length :=
      (Nat.mod_eq_of_lt hstart).symm
    rw [if_neg hempty, slotOffset, if_pos (by omega)]
    dsimp only
    conv => lhs; rw [hslot]
    exact Finder.collect_after himage hfits hholds hslots (List.drop_zero) hprobed
      fun r hr => (List.mem_filter.1 hr).1

end Database

end Resolver
