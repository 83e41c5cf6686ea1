import Resolver.Proofs.Database.Lookup

/-!
# What is built can be looked up

Main statement: in the file that is built of some records, each key finds the data that were added
with it, in the order they were added, and nothing else (`build_getAll`).
-/

namespace Resolver.Database

/-- The first of all the data of a key is what a search for one finds. -/
theorem get_of_getAll {db : Database} {key : Bytes} {datas : List Bytes}
    (h : db.getAll key = .ok datas) : db.get key = .ok datas.head? := by
  have hprobes : Finder.fresh.restart.probes = 0 := rfl
  have hrestart : Finder.fresh.restart.enter db key = Finder.fresh.enter db key := rfl
  unfold getAll at h
  unfold get Finder.find Finder.next
  rw [if_pos hprobes, hrestart]
  generalize Finder.fresh.enter db key = entry at h ⊢
  obtain ⟨f, entered⟩ := entry
  cases entered with
  | error e => contradiction
  | ok hasSlots =>
    cases hasSlots with
    | false =>
      obtain rfl := Except.ok.inj h
      rfl
    | true =>
      replace h : f.collect db key = .ok datas := h
      dsimp only
      rcases Finder.scan_of_collect h with ⟨f', hscan, rfl⟩ | ⟨f', ref, data, rest, hscan, hread, rfl⟩
      · rw [hscan]
        rfl
      · rw [hscan]
        dsimp only
        rw [hread]
        rfl

/-- In the file that is built of some records, a search for all the data of a key finds those that
were added with it. -/
theorem getAll_of_build {records : List (Bytes × Bytes)} {image : Bytes}
    (h : build records = .ok image) (mapped : Bool) (key : Bytes) :
    (Database.mk (.file (.ofList image)) mapped).getAll key =
      .ok ((records.filter (·.1 = key)).map (·.2)) := by
  have hall := getAll_of_image (image_of_build h) mapped key
  have hrecords : ((place headerLength records).filter (·.key = key)).map Record.data =
      (records.filter (·.1 = key)).map (·.2) := by
    conv => rhs; rw [← map_place headerLength records]
    rw [List.filter_map, List.map_map]
    rfl
  rw [hrecords] at hall
  exact hall

/-- In the file that is built of some records, read by mapping or by position, a search for all the
data of a key finds those that were added with it, each once and in the order they were added, and a
search for one finds the first of them. -/
theorem build_getAll {records : List (Bytes × Bytes)} {image : Bytes}
    (h : build records = .ok image) (mapped : Bool) (key : Bytes) :
    (Database.mk (.file (.ofList image)) mapped).getAll key =
        .ok ((records.filter (·.1 = key)).map (·.2)) ∧
      (Database.mk (.file (.ofList image)) mapped).get key =
        .ok ((records.filter (·.1 = key)).map (·.2)).head? := by
  have hall := getAll_of_build h mapped key
  exact ⟨hall, get_of_getAll hall⟩

/-- A key that was added twice, with another one in between. -/
theorem build_getAll_twice :
    ∃ image, build [([97], [1]), ([98], [2]), ([97], [3])] = .ok image ∧
      (Database.mk (.file (.ofList image)) true).getAll [97] = .ok [[1], [3]] ∧
      (Database.mk (.file (.ofList image)) true).get [97] = .ok (some [1]) := by
  have hbuilt : (build [([97], [1]), ([98], [2]), ([97], [3])]).isOk = true := by decide +kernel
  cases himage : build [([97], [1]), ([98], [2]), ([97], [3])] with
  | error e =>
    rw [himage] at hbuilt
    contradiction
  | ok image => exact ⟨image, rfl, build_getAll himage true [97]⟩

end Resolver.Database
