import Resolver.Proofs.Contents
import Resolver.Proofs.Database.Probing

/-!
# The image of a database

What stands in the file of a finished database: in the header the position and the number of places
of each table, at these positions the tables, and each record at the position its slot names.

Main statement: the file that is built of some records is such an image (`image_of_build`).
-/

namespace Resolver.Database

/-- A record with its position. -/
structure Record where
  pos : Nat
  key : Bytes
  data : Bytes
  deriving DecidableEq, Repr

namespace Record

/-- The slot that a record takes. -/
def slot (r : Record) : Slot :=
  ⟨hash r.key, r.pos⟩

/-- The position after a record. -/
def stop (r : Record) : Nat :=
  r.pos + 8 + r.key.length + r.data.length

end Record

/-- Records laid out one after the other from `pos` on. -/
def place : Nat → List (Bytes × Bytes) → List Record
  | _, [] => []
  | pos, (key, data) :: rest => ⟨pos, key, data⟩ :: place (pos + 8 + key.length + data.length) rest

/-- The bytes of records one after the other. -/
def recordsBytes (records : List (Bytes × Bytes)) : Bytes :=
  records.flatMap fun (key, data) => recordBytes key data

/-- The table of the records whose hashes belong to it. -/
def tableFor (records : List Record) (i : Nat) : Table :=
  Table.ofSlots ((records.map Record.slot).filter fun s => tableOf s.hash == i)

/-- The block is the file of a database with the given records. -/
structure Image (b : Block) (records : List Record) : Prop where
  table : ∀ i < tableCount, ∃ pos,
    b.Holds (8 * i) (pairBytes pos (tableFor records i).length) ∧
      pos + 8 * (tableFor records i).length ≤ maxWord32 ∧
      b.Holds pos ((tableFor records i).flatMap slotBytes)
  record : ∀ r ∈ records,
    0 < r.pos ∧ r.stop ≤ maxWord32 ∧ b.Holds r.pos (recordBytes r.key r.data)

/-! ## Records -/

theorem recordsBytes_cons (key data : Bytes) (rest : List (Bytes × Bytes)) :
    recordsBytes ((key, data) :: rest) = recordBytes key data ++ recordsBytes rest := rfl

/-- Laying records out loses none of them. -/
theorem map_place (pos : Nat) (records : List (Bytes × Bytes)) :
    (place pos records).map (fun r => (r.key, r.data)) = records := by
  induction records generalizing pos with
  | nil => rfl
  | cons record rest ih => rw [place, List.map_cons, ih]

/-- Where records stand one behind the other, each stands at the position it was laid out at. -/
theorem holds_place {b : Block} {pos : Nat} {records : List (Bytes × Bytes)}
    (h : b.Holds pos (recordsBytes records)) {r : Record} (hr : r ∈ place pos records) :
    b.Holds r.pos (recordBytes r.key r.data) := by
  induction records generalizing pos with
  | nil => exact nomatch hr
  | cons record rest ih =>
    rw [recordsBytes_cons, Block.holds_append_iff, length_recordBytes, ← Nat.add_assoc,
      ← Nat.add_assoc] at h
    rcases List.mem_cons.1 hr with rfl | hr
    · exact h.1
    · exact ih h.2 hr

namespace Builder

theorem add_ok {b b' : Builder} {key data : Bytes} (h : b.add key data = .ok b') :
    b.layout.fileEnd + 8 + key.length + data.length ≤ maxWord32 ∧
      b' = ⟨⟨⟨hash key, b.layout.fileEnd⟩ :: b.layout.slots,
        b.layout.fileEnd + 8 + key.length + data.length⟩, (key, data) :: b.records⟩ := by
  unfold add Layout.add? at h
  dsimp only at h
  by_cases hfits : b.layout.fileEnd + 8 + key.length + data.length ≤ maxWord32
  · rw [if_pos hfits] at h
    exact ⟨hfits, (Except.ok.inj h).symm⟩
  · rw [if_neg hfits] at h
    contradiction

/-- What is there once records were added. -/
theorem addAll_ok {b b' : Builder} {records : List (Bytes × Bytes)}
    (h : b.addAll records = .ok b') :
    b'.records.reverse = b.records.reverse ++ records ∧
      b'.layout.slots.reverse =
        b.layout.slots.reverse ++ (place b.layout.fileEnd records).map Record.slot ∧
      b'.layout.fileEnd = b.layout.fileEnd + (recordsBytes records).length ∧
      ∀ r ∈ place b.layout.fileEnd records,
        b.layout.fileEnd ≤ r.pos ∧ r.stop ≤ maxWord32 := by
  induction records generalizing b with
  | nil =>
    obtain rfl := Except.ok.inj h
    exact ⟨(List.append_nil _).symm, (List.append_nil _).symm, rfl, fun r hr => nomatch hr⟩
  | cons record rest ih =>
    obtain ⟨key, data⟩ := record
    unfold addAll at h
    split at h
    · rename_i b₁ hadd
      obtain ⟨hfits, rfl⟩ := add_ok hadd
      obtain ⟨hrecords, hslots, hend, hplaced⟩ := ih h
      dsimp only at hrecords hslots hend hplaced
      refine ⟨?_, ?_, ?_, ?_⟩
      · rw [hrecords, List.reverse_cons, List.append_assoc, List.singleton_append]
      · rw [hslots, List.reverse_cons, List.append_assoc, List.singleton_append]
        rfl
      · rw [hend, recordsBytes_cons, List.length_append, length_recordBytes]
        omega
      · intro r hr
        rcases List.mem_cons.1 hr with rfl | hr
        · exact ⟨Nat.le_refl _, hfits⟩
        · obtain ⟨hlow, hstop⟩ := hplaced r hr
          exact ⟨by omega, hstop⟩
    · contradiction

end Builder

/-! ## Tables -/

theorem length_slotBytes (place : Option Slot) : (slotBytes place).length = 8 := by
  cases place <;> exact length_pairBytes _ _

/-- Each place of a table takes eight bytes. -/
theorem length_tableBytes (t : Table) : (t.flatMap slotBytes).length = 8 * t.length :=
  Block.length_flatMap_of_width t length_slotBytes

theorem length_headerBytes (tables : List (Nat × Table)) :
    (tables.flatMap fun (pos, table) => pairBytes pos table.length).length =
      8 * tables.length :=
  Block.length_flatMap_of_width tables fun _ => length_pairBytes _ _

theorem placeTables_cons {pos : Nat} {group : List Slot} {groups : List (List Slot)}
    {tables : List (Nat × Table)} (h : placeTables? pos (group :: groups) = some tables) :
    pos + 8 * (2 * group.length) ≤ maxWord32 ∧
      ∃ rest, placeTables? (pos + 8 * (2 * group.length)) groups = some rest ∧
        tables = (pos, Table.ofSlots group) :: rest := by
  unfold placeTables? at h
  dsimp only at h
  split at h
  · rename_i hfits
    obtain ⟨rest, hrest, rfl⟩ := Option.map_eq_some_iff.1 h
    exact ⟨hfits, rest, hrest, rfl⟩
  · contradiction

theorem length_placeTables {pos : Nat} {groups : List (List Slot)} {tables : List (Nat × Table)}
    (h : placeTables? pos groups = some tables) : tables.length = groups.length := by
  induction groups generalizing pos tables with
  | nil =>
    obtain rfl := Option.some.inj h
    rfl
  | cons group groups ih =>
    obtain ⟨-, rest, hrest, rfl⟩ := placeTables_cons h
    rw [List.length_cons, List.length_cons, ih hrest]

/-- Where tables stand one behind the other, each stands at the position it was given. -/
theorem holds_placeTables {b : Block} {pos : Nat} {groups : List (List Slot)}
    {tables : List (Nat × Table)} (h : placeTables? pos groups = some tables)
    (hholds : b.Holds pos (tables.flatMap fun (_, table) => table.flatMap slotBytes))
    {i : Nat} {group : List Slot} (hgroup : groups[i]? = some group) :
    ∃ p, tables[i]? = some (p, Table.ofSlots group) ∧
      p + 8 * (Table.ofSlots group).length ≤ maxWord32 ∧
      b.Holds p ((Table.ofSlots group).flatMap slotBytes) := by
  induction groups generalizing pos tables i with
  | nil => exact nomatch hgroup
  | cons first groups ih =>
    obtain ⟨hfits, rest, hrest, rfl⟩ := placeTables_cons h
    have hlength := (Table.filled_ofSlots first).1
    rw [List.flatMap_cons, Block.holds_append_iff, length_tableBytes, hlength] at hholds
    cases i with
    | zero =>
      obtain rfl := Option.some.inj hgroup
      exact ⟨pos, rfl, by rw [hlength]; exact hfits, hholds.1⟩
    | succ i => exact ih hrest hholds.2 hgroup

theorem length_groups (l : Layout) : l.groups.length = tableCount := by
  unfold Layout.groups
  rw [List.length_map, List.length_range]

theorem getElem?_groups (l : Layout) {i : Nat} (hi : i < tableCount) :
    l.groups[i]? = some (l.slots.reverse.filter fun s => tableOf s.hash == i) := by
  unfold Layout.groups
  rw [List.getElem?_map, List.getElem?_range hi]
  rfl

/-! ## The file -/

/-- What a finished file is made of. -/
theorem Builder.finish_ok {b : Builder} {bytes : Bytes} (h : b.finish = .ok bytes) :
    ∃ tables, b.layout.finish? = some tables ∧
      bytes = (tables.flatMap fun (pos, table) => pairBytes pos table.length) ++
        (recordsBytes b.records.reverse ++
          tables.flatMap fun (_, table) => table.flatMap slotBytes) := by
  unfold Builder.finish at h
  split at h
  · rename_i tables htables
    exact ⟨tables, htables, (Except.ok.inj h).symm⟩
  · contradiction

/-- The file that is built of some records is a database with these records. -/
theorem image_of_build {records : List (Bytes × Bytes)} {bytes : Bytes}
    (h : build records = .ok bytes) : Image (.ofList bytes) (place headerLength records) := by
  unfold build at h
  cases hadd : Builder.empty.addAll records with
  | error e =>
    rw [hadd] at h
    contradiction
  | ok b =>
    rw [hadd] at h
    obtain ⟨hrecords, hslots, hend, hplaced⟩ := Builder.addAll_ok hadd
    obtain ⟨tables, htables, rfl⟩ := Builder.finish_ok h
    have hheader : 8 * tables.length = headerLength := by
      rw [length_placeTables htables, length_groups]
      rfl
    have hfile := Block.holds_ofList_self
      ((tables.flatMap fun (pos, table) => pairBytes pos table.length) ++
        (recordsBytes b.records.reverse ++
          tables.flatMap fun (_, table) => table.flatMap slotBytes))
    rw [hrecords] at hfile ⊢
    generalize Block.ofList _ = block at hfile ⊢
    -- the file is the header, the records and the tables, one behind the other
    rw [Block.holds_append_iff, Block.holds_append_iff, Nat.zero_add, length_headerBytes,
      hheader] at hfile
    obtain ⟨hpairs, hbodies, hslotBytes⟩ := hfile
    refine ⟨?_, ?_⟩
    · intro i hi
      have hgroup := getElem?_groups b.layout hi
      rw [hslots] at hgroup
      have htablesAt : block.Holds b.layout.fileEnd
          (tables.flatMap fun (_, table) => table.flatMap slotBytes) := by
        rw [hend]
        exact hslotBytes
      obtain ⟨p, hp, hfits, hholds⟩ := holds_placeTables htables htablesAt hgroup
      have hpair := hpairs.flatMap (fun _ => length_pairBytes _ _) hp
      rw [Nat.zero_add] at hpair
      exact ⟨p, hpair, hfits, hholds⟩
    · intro r hr
      obtain ⟨hlow, hstop⟩ := hplaced r hr
      have hpos : 0 < headerLength := by decide
      exact ⟨Nat.lt_of_lt_of_le hpos hlow, hstop, holds_place hbodies hr⟩

end Resolver.Database
