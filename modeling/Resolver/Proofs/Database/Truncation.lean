import Resolver.Proofs.Database.Sources

/-!
# Files that are cut off

A file that has lost its end still has its header, or the first part of it. Whatever a lookup reads
of such a file either stands there as it does in the whole file, or it is not all inside the file and
the read is refused; no reader takes the end of the file for an empty slot or for another key.

Main statement: a lookup in the first bytes of a file has the answer that the whole file gives, or an
error that names bytes that are cut off (`lookup_take`).
-/

namespace Resolver

/-- What stands in the first bytes of a file stands in the whole file. -/
theorem Block.Holds.of_take {image bytes : Bytes} {n pos : Nat}
    (h : (Block.ofList (image.take n)).Holds pos bytes) : (Block.ofList image).Holds pos bytes := by
  rw [Block.holds_iff] at h ⊢
  simp only [← Block.length_toList, Block.toList_ofList, List.length_take] at h ⊢
  obtain ⟨hfits, hbytes⟩ := h
  refine ⟨by omega, fun i hi => ?_⟩
  rw [← hbytes i hi, List.getElem?_take_of_lt (by omega)]

namespace Database

variable {short whole : Database} {size : Nat} {key : Bytes}

/-! ## What is left of a file -/

/-- `short` is what is left of `whole` when only `size` bytes are kept. It reads what is left of the
file like `whole`, as far as bytes are read at all, and refuses the rest. -/
structure Truncates (size : Nat) (short whole : Database) : Prop where
  read_inside : ∀ {pos len}, 0 < len → pos + len ≤ size → short.read pos len = whole.read pos len
  read_outside : ∀ {pos len}, 0 < len → size < pos + len →
    short.read pos len = .error (.outside pos (len % 0x100000000))
  data_inside : ∀ {ref : DataRef}, ref.pos + ref.len ≤ size →
    short.readData ref = whole.readData ref
  data_outside : ∀ {ref : DataRef}, size < ref.pos + ref.len →
    short.readData ref = .error (.outside ref.pos ref.len)

/-- What a file with `size` bytes left answers where the whole file answers `whole`: the same, or an
error that names bytes which are not all among those left. -/
def Cut {α : Type} (size : Nat) (short whole : Except ReadError α) : Prop :=
  short = whole ∨ ∃ pos len, short = .error (.outside pos len) ∧ size < pos + len

namespace Cut

variable {α β : Type} {a a' : Except ReadError α}

theorem map (h : Cut size a a') (f : α → β) : Cut size (a.map f) (a'.map f) := by
  rcases h with rfl | ⟨pos, len, rfl, hout⟩
  · exact .inl rfl
  · exact .inr ⟨pos, len, rfl, hout⟩

/-- An error ends a computation, so that what follows has to be compared only where both go on with
the same. -/
theorem bind (h : Cut size a a') {f f' : α → Except ReadError β}
    (hrest : ∀ x, a = .ok x → Cut size (f x) (f' x)) : Cut size (a.bind f) (a'.bind f') := by
  rcases h with rfl | ⟨pos, len, rfl, hout⟩
  · cases a with
    | error e => exact .inl rfl
    | ok x => exact hrest x rfl
  · exact .inr ⟨pos, len, rfl, hout⟩

/-- What is answered at all is what the whole file answers. -/
theorem eq_ok {x : α} (h : Cut size a a') (hok : a = .ok x) : a' = .ok x := by
  rcases h with rfl | ⟨pos, len, herror, -⟩
  · exact hok
  · rw [hok] at herror
    contradiction

end Cut

namespace Truncates

theorem data_cut (h : Truncates size short whole) (ref : DataRef) :
    Cut size (short.readData ref) (whole.readData ref) := by
  rcases Nat.lt_or_ge size (ref.pos + ref.len) with hout | hin
  · exact .inr ⟨ref.pos, ref.len, h.data_outside hout, hout⟩
  · exact .inl (h.data_inside hin)

/-- Of reads that are not empty and no longer than a chunk of a key, all give what they give in the
whole file, or one of them is refused. -/
theorem sameOn_or_refused (h : Truncates size short whole) {accesses : List Access}
    (hlen : ∀ a ∈ accesses, 0 < a.len ∧ a.len ≤ chunkLength) :
    SameOn accesses short whole ∨
      ∃ a ∈ accesses, short.read a.pos a.len = .error (.outside a.pos a.len) ∧
        size < a.pos + a.len := by
  by_cases hin : ∀ a ∈ accesses, a.pos + a.len ≤ size
  · exact .inl fun a ha => (h.read_inside (hlen a ha).1 (hin a ha)).symm
  · push Not at hin
    obtain ⟨a, ha, hout⟩ := hin
    obtain ⟨hpos, hchunk⟩ := hlen a ha
    have hword : a.len % 0x100000000 = a.len :=
      Nat.mod_eq_of_lt (Nat.lt_of_le_of_lt hchunk (by decide))
    refine .inr ⟨a, ha, ?_, hout⟩
    rw [h.read_outside hpos hout, hword]

end Truncates

end Database

/-! ## Searching what is left -/

namespace Finder

open Database

variable {short whole : Database} {size : Nat}

/-- What the slots that are left come to. After an error nothing is said about the state. -/
theorem scan_cut (h : Truncates size short whole) (f : Finder) (key : Bytes) :
    f.scan short key = f.scan whole key ∨
      ∃ pos len, (f.scan short key).2 = .error (.outside pos len) ∧ size < pos + len := by
  -- The reads are those made of what is left; if none is refused, the whole file gives the same.
  have hlen : ∀ a ∈ (f.looks short key).flatMap (·.lookAccesses short key),
      0 < a.len ∧ a.len ≤ chunkLength := by
    intro a ha
    obtain ⟨g, -, ha⟩ := List.mem_flatMap.1 ha
    exact len_of_mem_lookAccesses ha
  rcases h.sameOn_or_refused hlen with hsame | ⟨a, ha, hrefused, hout⟩
  · exact .inl (scan_congr hsame).symm
  · exact .inr ⟨a.pos, a.len, scan_of_failed ha hrefused, hout⟩

theorem next_cut (h : Truncates size short whole) (f : Finder) (key : Bytes) :
    f.next short key = f.next whole key ∨
      ∃ pos len, (f.next short key).2 = .error (.outside pos len) ∧ size < pos + len := by
  rcases h.sameOn_or_refused fun a (ha : a ∈ f.accesses short key) => len_of_mem_accesses ha with
    hsame | ⟨a, ha, hrefused, hout⟩
  · exact .inl (next_congr hsame).symm
  · exact .inr ⟨a.pos, a.len, next_of_failed ha hrefused, hout⟩

theorem enter_cut (h : Truncates size short whole) (f : Finder) (key : Bytes) :
    f.enter short key = f.enter whole key ∨
      ∃ pos len, (f.enter short key).2 = .error (.outside pos len) ∧ size < pos + len := by
  have hlen : ∀ a ∈ [Access.mk (8 * tableOf (Database.hash key)) 8],
      0 < a.len ∧ a.len ≤ chunkLength := by
    intro a ha
    obtain rfl := List.mem_singleton.1 ha
    exact len_pair _
  rcases h.sameOn_or_refused hlen with hsame | ⟨a, ha, hrefused, hout⟩
  · exact .inl (enter_congr (readPair_congr (hsame _ List.mem_cons_self))).symm
  · obtain rfl := List.mem_singleton.1 ha
    refine .inr ⟨_, _, ?_, hout⟩
    rw [enter_of_failed (readPair_of_failed hrefused)]

/-- By induction on the records that are found in what is left. -/
theorem collect_cut (h : Truncates size short whole) (f : Finder) (key : Bytes) :
    Cut size (f.collect short key) (f.collect whole key) := by
  fun_induction Finder.collect f short key with
  | case1 f f' e hscan =>
    rcases scan_cut h f key with hsame | ⟨pos, len, herror, hout⟩
    · exact .inl (collect_of_error (hsame ▸ hscan)).symm
    · rw [hscan] at herror
      exact .inr ⟨pos, len, congrArg _ (Except.error.inj herror), hout⟩
  | case2 f f' hscan =>
    rcases scan_cut h f key with hsame | ⟨pos, len, herror, -⟩
    · exact .inl (collect_of_none (hsame ▸ hscan)).symm
    · rw [hscan] at herror
      contradiction
  | case3 f f' ref hscan e hread =>
    rcases scan_cut h f key with hsame | ⟨pos, len, herror, -⟩
    · have hdata := h.data_cut ref
      rw [hread] at hdata
      rw [collect_of_some (hsame ▸ hscan)]
      exact hdata.bind (f := fun data => .ok [data]) fun _ hread => by contradiction
    · rw [hscan] at herror
      contradiction
  | case4 f f' ref hscan data hread ih =>
    rcases scan_cut h f key with hsame | ⟨pos, len, herror, -⟩
    · have hwhole : f.scan whole key = (f', .ok (some ref)) := hsame ▸ hscan
      rw [collect_of_some hwhole, (h.data_cut ref).eq_ok hread]
      exact ih.map (data :: ·)
    · rw [hscan] at herror
      contradiction

end Finder

/-! ## Lookups -/

namespace Database

variable {short whole : Database} {size : Nat}

theorem get_cut (h : Truncates size short whole) (key : Bytes) :
    Cut size (short.get key) (whole.get key) := by
  unfold get Finder.find
  rcases Finder.next_cut h Finder.fresh.restart key with hsame | ⟨pos, len, herror, hout⟩
  · rw [← hsame]
    split
    · exact .inl rfl
    · exact .inl rfl
    · exact (h.data_cut _).map some
  · rw [herror]
    exact .inr ⟨pos, len, rfl, hout⟩

theorem getAll_cut (h : Truncates size short whole) (key : Bytes) :
    Cut size (short.getAll key) (whole.getAll key) := by
  unfold getAll
  rcases Finder.enter_cut h Finder.fresh key with hsame | ⟨pos, len, herror, hout⟩
  · rw [← hsame]
    split
    · exact .inl rfl
    · exact .inl rfl
    · exact Finder.collect_cut h _ key
  · rcases hentered : Finder.fresh.enter short key with ⟨f, found⟩
    rw [hentered] at herror
    obtain rfl : found = .error (.outside pos len) := herror
    exact .inr ⟨pos, len, rfl, hout⟩

/-- The two ways of opening what a path names. -/
inductive Opening
  /-- The file is mapped if it can be mapped. -/
  | mapping
  | byPosition
  deriving DecidableEq, Repr

/-- Opens what a path names. -/
def Opening.database : Opening → Content → Database
  | .mapping => ofContent
  | .byPosition => unmapped

theorem Opening.exists_mapped (way : Opening) (b : Block) :
    ∃ mapped, way.database (.file b) = ⟨.file b, mapped⟩ := by
  cases way <;> exact ⟨_, rfl⟩

/-- A read that is not all inside the file is refused, unless it is one of nothing. -/
theorem read_of_size_lt {b : Block} (mapped : Bool) {pos len : Nat} (hlen : 0 < len)
    (hout : b.size < pos + len) :
    (Database.mk (.file b) mapped).read pos len = .error (.outside pos (len % 0x100000000)) := by
  unfold read
  dsimp only
  rw [if_neg (by omega), Block.slice?_eq_none_iff.2 hout]

/-- The first bytes of a file are what is left of it, however each of the two is opened. -/
theorem truncates_take (image : Bytes) (n : Nat) (mapped mapped' : Bool) :
    Truncates (image.take n).length ⟨.file (.ofList (image.take n)), mapped⟩
      ⟨.file (.ofList image), mapped'⟩ := by
  have hinside : ∀ {pos len}, pos + len ≤ (image.take n).length →
      (Database.mk (.file (.ofList (image.take n))) mapped).read pos len =
        (Database.mk (.file (.ofList image)) mapped').read pos len := by
    intro pos len hin
    obtain ⟨bytes, hslice⟩ := Option.ne_none_iff_exists'.1
      (show (Block.ofList (image.take n)).slice? pos len ≠ none by
        rw [Ne, Block.slice?_eq_none_iff]
        exact Nat.not_lt.2 hin)
    obtain ⟨hlen, hheld⟩ := Block.slice?_eq_some_iff.1 hslice
    rw [read_of_holds hheld hlen, read_of_holds hheld.of_take hlen]
  have hshorter : (image.take n).length ≤ image.length := List.length_take_le' n image
  exact {
    read_inside := fun _ => hinside
    read_outside := fun hlen hout => read_of_size_lt mapped hlen hout
    data_inside := fun {ref} hin => by
      show (if (image.take n).length < ref.pos + ref.len then _ else _) =
        if image.length < ref.pos + ref.len then _ else _
      rw [if_neg (Nat.not_lt.2 hin), if_neg (by omega), hinside hin]
    data_outside := fun {ref} hout => by
      show (if (image.take n).length < ref.pos + ref.len then _ else _) = _
      rw [if_pos hout] }

/-- A file that has lost its end never loses a key without a word. Whatever bytes it holds, wherever
it is cut and however the file and what is left of it are opened, a lookup in what is left has the
answer of the whole file or an error that names bytes which are cut off. So a record or a list of data
that it answers is the one of the whole file, and a key that it does not find is not there. -/
theorem lookup_take (image : Bytes) (n : Nat) (way way' : Opening) (key : Bytes) :
    let short := way.database (.file (.ofList (image.take n)))
    let whole := way'.database (.file (.ofList image))
    Cut (image.take n).length (short.get key) (whole.get key) ∧
      Cut (image.take n).length (short.getAll key) (whole.getAll key) ∧
      (∀ found, short.get key = .ok found → whole.get key = .ok found) ∧
      ∀ datas, short.getAll key = .ok datas → whole.getAll key = .ok datas := by
  intro short whole
  obtain ⟨mapped, hshort⟩ := way.exists_mapped (.ofList (image.take n))
  obtain ⟨mapped', hwhole⟩ := way'.exists_mapped (.ofList image)
  have hleft : Truncates (image.take n).length short whole := by
    rw [show short = _ from hshort, show whole = _ from hwhole]
    exact truncates_take image n mapped mapped'
  have hget := get_cut hleft key
  have hall := getAll_cut hleft key
  exact ⟨hget, hall, fun _ => hget.eq_ok, fun _ => hall.eq_ok⟩

/-- A header of one pair, a table of one slot and the record with key `[165]` and data `[7, 9]`, whole
and cut in the slot, the length of the record and its data. -/
example :
    let image := pairBytes 8 1 ++ pairBytes 177408 16 ++ pairBytes 1 2 ++ [165, 7, 9]
    [27, 15, 23, 26].map (fun n => (ofContent (.file (.ofList (image.take n)))).get [165]) =
      [.ok (some [7, 9]), .error (.outside 8 8), .error (.outside 16 8), .error (.outside 25 2)] := by
  cbv

end Database
end Resolver
