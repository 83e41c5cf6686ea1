import Resolver.Database.Writer
import Resolver.Proofs.Database.Structure

/-!
# The limit on the size of a database

A writer checks lengths, sums and products of positions piece by piece, as words of four bytes.
Together these checks come to one bound: a record is accepted exactly if the position after it is a
word, and a database is finished exactly if the position after its last table is one.

A writer is in step with a `Builder` that was given the records it accepted (`InStep`), so the file
it finishes is the one that is built of these.

Main statement: whatever records are added, accepted or refused in any order, the bound is exact, a
refused record leaves no trace, and no number in a finished file is cut off (`Writer.addEach_limit`).
-/

namespace Resolver.Database

/-! ## Checked positions -/

/-- A number that is no greater than a word is one. -/
theorem exists_word {w : UInt32} {n : Nat} (h : n ≤ w.toNat) : ∃ v : UInt32, v.toNat = n := by
  refine ⟨UInt32.ofNat n, ?_⟩
  rw [UInt32.toNat_ofNat']
  exact Nat.mod_eq_of_lt (Nat.lt_of_le_of_lt h w.toNat_lt)

namespace Writer

/-- The checks of a record come to one bound on the position after it. -/
theorem next?_eq (pos : UInt32) (keyLength dataLength : Nat) :
    next? pos keyLength dataLength = word? (pos.toNat + 8 + keyLength + dataLength) := by
  have height : (8 : UInt32).toNat = 8 := rfl
  apply Option.ext
  intro next
  unfold next?
  simp only [Option.bind_eq_bind, Option.bind_eq_some_iff, word?_eq_some_iff, sum?_eq_some_iff,
    height]
  constructor
  · rintro ⟨key, rfl, data, rfl, p, hp, q, hq, hnext⟩
    omega
  · intro hnext
    -- each length and each sum before the last is no greater than the last
    obtain ⟨key, hkey⟩ := exists_word (show keyLength ≤ next.toNat by omega)
    obtain ⟨data, hdata⟩ := exists_word (show dataLength ≤ next.toNat by omega)
    obtain ⟨p, hp⟩ := exists_word (show pos.toNat + 8 ≤ next.toNat by omega)
    obtain ⟨q, hq⟩ := exists_word (show pos.toNat + 8 + keyLength ≤ next.toNat by omega)
    exact ⟨key, hkey, data, hdata, p, hp, q, by omega, by omega⟩

/-- The checks of a table come to one bound on the position after it. -/
theorem places_tableEnd?_eq (pos : UInt32) (count : Nat) :
    (word? (2 * count)).bind (tableEnd? pos) = word? (pos.toNat + 8 * (2 * count)) := by
  have height : (8 : UInt32).toNat = 8 := rfl
  apply Option.ext
  intro next
  unfold tableEnd?
  simp only [Option.bind_eq_bind, Option.bind_eq_some_iff, word?_eq_some_iff, sum?_eq_some_iff,
    product?_eq_some_iff, height]
  constructor
  · rintro ⟨places, hplaces, length, hlength, hnext⟩
    omega
  · intro hnext
    obtain ⟨places, hplaces⟩ := exists_word (show 2 * count ≤ next.toNat by omega)
    obtain ⟨length, hlength⟩ := exists_word (show 8 * (2 * count) ≤ next.toNat by omega)
    exact ⟨places, hplaces, length, by omega, by omega⟩

end Writer

/-! ## The bound on tables -/

/-- Tables can be placed exactly if the position after the last of them is a word. -/
theorem placeTables?_isSome_iff {pos : Nat} (groups : List (List Slot)) (hpos : pos ≤ maxWord32) :
    (placeTables? pos groups).isSome = true ↔
      pos + 16 * (groups.map List.length).sum ≤ maxWord32 := by
  induction groups generalizing pos with
  | nil => exact iff_of_true rfl hpos
  | cons group groups ih =>
    unfold placeTables?
    rw [List.map_cons, List.sum_cons]
    dsimp only
    split
    · rename_i hfits
      rw [Option.isSome_map, ih hfits]
      omega
    · exact iff_of_false Bool.false_ne_true (by omega)

/-- Every record has a slot in one table. -/
theorem sum_length_groups {b : Builder} {records : List (Bytes × Bytes)}
    (h : Builder.empty.addAll records = .ok b) :
    (b.layout.groups.map List.length).sum = records.length := by
  obtain ⟨-, hslots, -⟩ := Builder.addAll_ok h
  have hload : ∀ i, (b.layout.slots.reverse.filter fun s => tableOf s.hash == i).length =
      load records i := by
    intro i
    rw [hslots, ← length_slotsFor headerLength]
    rfl
  have hlengths : b.layout.groups.map List.length =
      (List.range tableCount).map (load records) := by
    unfold Layout.groups
    rw [List.map_map]
    exact List.map_congr_left fun i _ => hload i
  rw [hlengths, ← sum_load records]
  rfl

/-- The position after the records that were added. -/
theorem fileEnd_of_addAll {b : Builder} {records : List (Bytes × Bytes)}
    (h : Builder.empty.addAll records = .ok b) : b.layout.fileEnd = recordsEnd records := by
  obtain ⟨-, -, hend, -⟩ := Builder.addAll_ok h
  rw [hend, length_recordsBytes]
  rfl

/-- A database is finished exactly if the position after its last table is a word. -/
theorem Builder.finish_cases {b : Builder} {records : List (Bytes × Bytes)}
    (h : Builder.empty.addAll records = .ok b) (hend : b.layout.fileEnd ≤ maxWord32) :
    if recordsEnd records + 16 * records.length ≤ maxWord32 then ∃ image, b.finish = .ok image
    else b.finish = .error .tooBig := by
  have hplaced := placeTables?_isSome_iff b.layout.groups hend
  rw [sum_length_groups h] at hplaced
  rw [← fileEnd_of_addAll h]
  unfold Builder.finish Layout.finish?
  cases htables : placeTables? b.layout.fileEnd b.layout.groups with
  | none =>
    rw [htables] at hplaced
    rw [if_neg fun hfits => nomatch hplaced.2 hfits]
  | some tables =>
    rw [htables] at hplaced
    rw [if_pos (hplaced.1 rfl)]
    exact ⟨_, rfl⟩

/-! ## In step with a builder -/

/-- A writer has written the records of a builder, behind a header of zeros. -/
structure Writer.InStep (w : Writer) (b : Builder) : Prop where
  pos_eq : w.pos.toNat = b.layout.fileEnd
  slots_eq : w.slots = b.layout.slots.reverse
  bytes_eq : w.out.bytes = List.replicate headerLength 0 ++ recordsBytes b.records.reverse
  atEnd : w.out.AtEnd

namespace Writer

variable {w : Writer} {b : Builder} {key data : Bytes}

theorem inStep_start : start.InStep Builder.empty where
  pos_eq := by decide
  slots_eq := rfl
  bytes_eq := (Output.atEnd_empty.write_bytes _).trans (List.append_nil _).symm
  atEnd := Output.atEnd_empty.write _

namespace InStep

theorem fileEnd_le (h : w.InStep b) : b.layout.fileEnd ≤ maxWord32 := by
  rw [← h.pos_eq]
  exact Nat.le_of_lt_succ w.pos.toNat_lt

/-- What is written of a record is what the file holds of it. -/
theorem record_bytes {o : Output} (h : o.AtEnd) (key data : Bytes) :
    ((((o.write (toLittleEndian 4 key.length)).write (toLittleEndian 4 data.length)).write
      key).write data).bytes = o.bytes ++ recordBytes key data := by
  have h₁ := h.write (toLittleEndian 4 key.length)
  have h₂ := h₁.write (toLittleEndian 4 data.length)
  have h₃ := h₂.write key
  rw [h₃.write_bytes, h₂.write_bytes, h₁.write_bytes, h.write_bytes]
  unfold recordBytes pairBytes
  simp only [List.append_assoc]

/-- A record that is accepted is added to both. -/
theorem add (h : w.InStep b)
    (hfits : b.layout.fileEnd + 8 + key.length + data.length ≤ maxWord32) :
    ∃ b' w', b.add key data = .ok b' ∧ w.add key data = (.ok (), w') ∧ w'.InStep b' := by
  unfold Builder.add Layout.add? Writer.add
  rw [if_pos hfits, next?_eq, h.pos_eq]
  cases hnext : word? (b.layout.fileEnd + 8 + key.length + data.length) with
  | none => exact absurd (word?_eq_none_iff.1 hnext) (Nat.not_lt.2 hfits)
  | some next =>
    refine ⟨_, _, rfl, rfl, ?_, ?_, ?_, ?_⟩
    · exact word?_eq_some_iff.1 hnext
    · show w.slots ++ [_] = _
      rw [h.slots_eq, List.reverse_cons]
    · show Output.bytes _ = _
      rw [record_bytes h.atEnd, h.bytes_eq, List.append_assoc, List.reverse_cons]
      unfold recordsBytes
      rw [List.flatMap_append, List.flatMap_singleton]
    · exact (((h.atEnd.write _).write _).write _).write _

/-- A record that is refused leaves the writer as it was. -/
theorem add_refused (h : w.InStep b)
    (hlarge : maxWord32 < b.layout.fileEnd + 8 + key.length + data.length) :
    w.add key data = (.error .tooBig, w) := by
  unfold Writer.add
  rw [next?_eq, h.pos_eq, word?_eq_none_iff.2 hlarge]

end InStep

/-! ## Finishing -/

/-- The tables that are written are those that are placed. -/
theorem writeTables_eq (hend : w.out.AtEnd) (groups : List (List Slot)) (header : Bytes) :
    match placeTables? w.pos.toNat groups with
    | none => w.writeTables header groups = .error .tooBig
    | some tables => ∃ w', w'.out.bytes = w.out.bytes ++
          (tables.flatMap fun (_, table) => table.flatMap slotBytes) ∧
        w.writeTables header groups =
          .ok (w', header ++ tables.flatMap fun (pos, table) => pairBytes pos table.length) := by
  induction groups generalizing w header with
  | nil => exact ⟨w, (List.append_nil _).symm, by rw [List.flatMap_nil, List.append_nil]; rfl⟩
  | cons group groups ih =>
    have hchecks := places_tableEnd?_eq w.pos group.length
    unfold placeTables? writeTables
    dsimp only
    by_cases hfits : w.pos.toNat + 8 * (2 * group.length) ≤ maxWord32
    · rw [if_pos hfits]
      obtain ⟨next, hnext⟩ : ∃ next, word? (w.pos.toNat + 8 * (2 * group.length)) = some next :=
        Option.ne_none_iff_exists'.1 fun hnone =>
          absurd (word?_eq_none_iff.1 hnone) (Nat.not_lt.2 hfits)
      rw [hnext, Option.bind_eq_some_iff] at hchecks
      obtain ⟨places, hplaces, htable⟩ := hchecks
      have hpos := word?_eq_some_iff.1 hnext
      have hcount := word?_eq_some_iff.1 hplaces
      have hwritten := hend.write_bytes ((Table.ofSlots group).flatMap slotBytes)
      simp only [hplaces, htable]
      -- the writer goes on behind the table, with its entry in the header
      have hrest := ih (w := ⟨w.out.write ((Table.ofSlots group).flatMap slotBytes), w.slots, next⟩)
        (hend.write _) (header ++ pairBytes w.pos.toNat places.toNat)
      dsimp only at hrest
      rw [hpos] at hrest
      cases htables : placeTables? (w.pos.toNat + 8 * (2 * group.length)) groups with
      | none =>
        rw [htables] at hrest
        exact hrest
      | some tables =>
        rw [htables] at hrest
        obtain ⟨w', hbytes, hwrite⟩ := hrest
        have hlength := (Table.filled_ofSlots group).1
        refine ⟨w', ?_, ?_⟩
        · rw [hbytes, hwritten, List.flatMap_cons, List.append_assoc]
        · rw [hwrite, List.flatMap_cons, hcount, hlength, List.append_assoc]
    · rw [if_neg hfits]
      rw [word?_eq_none_iff.2 (Nat.not_le.1 hfits)] at hchecks
      cases hplaces : word? (2 * group.length) with
      | none => rfl
      | some places =>
        rw [hplaces, Option.bind_some] at hchecks
        simp only [hchecks]

/-- A writer finishes the file that is built of the same records. -/
theorem InStep.finish_eq (h : w.InStep b) : w.finish = b.finish := by
  have hgroups : w.groups = b.layout.groups := by
    unfold groups Layout.groups
    rw [h.slots_eq]
  have htables := writeTables_eq h.atEnd b.layout.groups []
  unfold finish Builder.finish Layout.finish?
  rw [h.pos_eq] at htables
  rw [hgroups]
  cases hplaced : placeTables? b.layout.fileEnd b.layout.groups with
  | none =>
    rw [hplaced] at htables
    simp only [htables]
  | some tables =>
    rw [hplaced] at htables
    obtain ⟨w', hbytes, hwrite⟩ := htables
    simp only [hwrite]
    -- the entries of the tables take the place of the zeros
    have hheader : (tables.flatMap fun (pos, table) => pairBytes pos table.length).length =
        (List.replicate headerLength (0 : UInt8)).length := by
      rw [length_headerBytes, length_placeTables hplaced, length_groups, List.length_replicate]
      rfl
    rw [h.bytes_eq, List.append_assoc] at hbytes
    rw [List.nil_append, Output.rewind_write hbytes hheader]
    rfl

/-! ## Any records -/

/-- The records that were accepted, when these answers were given. -/
def accepted (records : List (Bytes × Bytes)) (answers : List (Except MakeError Unit)) :
    List (Bytes × Bytes) :=
  (records.zip answers).filterMap fun (record, answer) =>
    if answer.isOk then some record else none

theorem addEach_cons {w₁ w₂ : Writer} {answer : Except MakeError Unit} {rest : List (Bytes × Bytes)}
    {answers : List (Except MakeError Unit)} (hadd : w.add key data = (answer, w₁))
    (hrest : w₁.addEach rest = (answers, w₂)) :
    w.addEach ((key, data) :: rest) = (answer :: answers, w₂) := by
  unfold addEach
  rw [hadd]
  dsimp only
  rw [hrest]

/-- However records are accepted and refused, the writer is in step with the builder of those that
were accepted, and it would be the same without the others. -/
theorem InStep.addEach (h : w.InStep b) (records : List (Bytes × Bytes)) :
    ∃ answers w' b', w.addEach records = (answers, w') ∧
      b.addAll (accepted records answers) = .ok b' ∧ w'.InStep b' ∧
      w.addEach (accepted records answers) =
        ((accepted records answers).map fun _ => .ok (), w') := by
  induction records generalizing w b with
  | nil => exact ⟨[], w, b, rfl, rfl, h, rfl⟩
  | cons record rest ih =>
    obtain ⟨key, data⟩ := record
    by_cases hfits : b.layout.fileEnd + 8 + key.length + data.length ≤ maxWord32
    · obtain ⟨b₁, w₁, hbuilder, hadd, hstep⟩ := h.add hfits
      obtain ⟨answers, w', b', heach, hall, hstep', hkept⟩ := ih hstep
      have hcons : accepted ((key, data) :: rest) (.ok () :: answers) =
          (key, data) :: accepted rest answers := rfl
      refine ⟨.ok () :: answers, w', b', addEach_cons hadd heach, ?_, hstep', ?_⟩
      · rw [hcons, Builder.addAll, hbuilder]
        exact hall
      · rw [hcons]
        exact addEach_cons hadd hkept
    · have hrefused := h.add_refused (Nat.not_le.1 hfits)
      obtain ⟨answers, w', b', heach, hall, hstep', hkept⟩ := ih h
      exact ⟨.error .tooBig :: answers, w', b', addEach_cons hrefused heach, hall, hstep', hkept⟩

end Writer

/-! ## Numbers in the file -/

/-- Every number in the file with the given records is the one it stands for, none cut off. -/
structure Exact (records : List (Bytes × Bytes)) (image : Bytes) : Prop where
  length : image.length = recordsEnd records + 16 * records.length
  /-- The header tells where the tables are and how many places they have. -/
  entry : ∀ i < tableCount,
    wordsAt? image (8 * i) = some (tablePosition records i, 2 * load records i)
  /-- Each record stands behind its two lengths. -/
  record : ∀ r ∈ place headerLength records,
    wordsAt? image r.pos = some (r.key.length, r.data.length) ∧
      (Block.ofList image).Holds (r.pos + 8) (r.key ++ r.data)
  /-- Each record is in its table, with its hash and its position. -/
  slot : ∀ r ∈ place headerLength records, ∃ k < 2 * load records r.table,
    placeAt? records image r.table k = some r.words

/-- The numbers in a file that is built are exact. -/
theorem exact_of_build {records : List (Bytes × Bytes)} {image : Bytes}
    (h : build records = .ok image) : Exact records image where
  length := by
    obtain ⟨-, -, -, himage⟩ := parts_of_build h
    rw [himage, List.length_append, List.length_append, length_header, length_recordsBytes,
      length_tablesBytes]
    unfold recordsEnd
    omega
  entry i hi := by
    obtain ⟨hentry, hfits, -⟩ := table_of_build h hi
    exact wordsAt?_of_holds hentry (by omega) (by omega)
  record r hr := by
    obtain ⟨-, hstop, hholds⟩ := (image_of_build h).record r hr
    unfold Record.stop at hstop
    unfold recordBytes at hholds
    rw [Block.holds_append_iff, length_pairBytes] at hholds
    exact ⟨wordsAt?_of_holds hholds.1 (by omega) (by omega), hholds.2⟩
  slot r hr := by
    have htable : r.table < tableCount := Nat.mod_lt _ (by decide)
    have hslot : some r.slot ∈ tableFor (place headerLength records) r.table := by
      have hmem := mem_slotsFor.2 ⟨r, hr, rfl, rfl⟩
      exact List.reduceOption_mem_iff.1 ((filled_tableFor _ _).reduceOption_perm.mem_iff.2 hmem)
    obtain ⟨k, hat⟩ := List.mem_iff_getElem?.1 hslot
    obtain ⟨hlt, -⟩ := List.getElem?_eq_some_iff.1 hat
    rw [length_tableFor] at hlt
    exact ⟨k, hlt, (placeAt?_eq_words_iff h htable hlt hr).2 hat⟩

/-- Whatever records are added one after the other, each accepted or refused, a record is accepted
next exactly if the position after it is no greater than `2 ^ 32 - 1`. Otherwise it is refused as too
big and leaves the writer as it was; so the writer is the one that was given the accepted records
alone. It finishes exactly if the position after the tables, which take 16 bytes for each record, is
no greater than `2 ^ 32 - 1` either, and then no number in the file is cut off. -/
theorem Writer.addEach_limit (records : List (Bytes × Bytes)) :
    ∃ answers w, start.addEach records = (answers, w) ∧
      start.addEach (accepted records answers) =
        ((accepted records answers).map fun _ => .ok (), w) ∧
      (∀ key data, ((w.add key data).1 = .ok () ↔
          recordsEnd (accepted records answers) + 8 + key.length + data.length ≤ 2 ^ 32 - 1) ∧
        ((w.add key data).1 ≠ .ok () → w.add key data = (.error .tooBig, w))) ∧
      ((∃ image, w.finish = .ok image) ↔
        recordsEnd (accepted records answers) + 16 * (accepted records answers).length ≤
          2 ^ 32 - 1) ∧
      (∀ cause, w.finish = .error cause → cause = .tooBig) ∧
      ∀ image, w.finish = .ok image → Exact (accepted records answers) image := by
  obtain ⟨answers, w, b, heach, hall, hstep, hkept⟩ := inStep_start.addEach records
  have hend := fileEnd_of_addAll hall
  have hfinish := Builder.finish_cases hall hstep.fileEnd_le
  have hbuild : build (accepted records answers) = w.finish := by
    unfold build
    rw [hall, hstep.finish_eq]
    rfl
  rw [← hstep.finish_eq] at hfinish
  refine ⟨answers, w, heach, hkept, ?_, ?_, ?_, ?_⟩
  · intro key data
    rw [← hend]
    by_cases hfits : b.layout.fileEnd + 8 + key.length + data.length ≤ maxWord32
    · obtain ⟨b', w', -, hadd, -⟩ := hstep.add hfits
      rw [hadd]
      exact ⟨iff_of_true rfl hfits, fun hrefused => absurd rfl hrefused⟩
    · have hrefused := hstep.add_refused (Nat.not_le.1 hfits)
      rw [hrefused]
      exact ⟨iff_of_false nofun hfits, fun _ => rfl⟩
  · split at hfinish
    · rename_i hfits
      exact iff_of_true hfinish hfits
    · rename_i hlarge
      rw [hfinish]
      exact iff_of_false (fun hdone => nomatch hdone.choose_spec) hlarge
  · intro cause hcause
    rw [hcause] at hfinish
    split at hfinish
    · exact nomatch hfinish.choose_spec
    · exact Except.error.inj hfinish
  · intro image himage
    exact exact_of_build (hbuild.trans himage)

end Resolver.Database
