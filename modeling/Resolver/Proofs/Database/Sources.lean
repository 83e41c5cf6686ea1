import Mathlib
import Resolver.Proofs.Database.Accesses

/-!
# Mapped files and files read by position

A file is read through a mapping or by position. A mapping knows its length and checks every read
against it; a read by position is made in pieces as the system hands them out, and a read of no
bytes never gets as far as the end of the file.

Main statements: a read by position comes to the same however it is cut into pieces
(`Block.Fills.eq_slice?`), and whatever is asked of a file, it answers alike when it is mapped and when it
is read by position (`run_ofContent_eq`).
-/

namespace Resolver

/-! ## Reads in pieces -/

namespace Block

variable {b : Block} {pos len : Nat} {piece : Bytes} {outcome : Option Bytes}

/-- A read by position. The system hands out some of the bytes at a time until none are wanted any
more, or until it comes to the end of the file. -/
inductive Fills (b : Block) : Nat → Nat → Option Bytes → Prop
  | done (pos : Nat) : Fills b pos 0 (some [])
  | ended {pos len : Nat} (hlen : 0 < len) (hend : b.size ≤ pos) : Fills b pos len none
  | piece {pos len : Nat} {piece : Bytes} {rest : Option Bytes} (hpiece : piece ≠ [])
      (hheld : b.Holds pos piece) (hrest : Fills b (pos + piece.length) len rest) :
      Fills b pos (piece.length + len) (rest.map (piece ++ ·))

theorem slice?_eq_none_iff : b.slice? pos len = none ↔ b.size < pos + len := by
  rw [slice?]
  split <;> simp <;> omega

/-- Behind bytes that stand there, a slice goes on with what stands behind them. -/
theorem Holds.slice?_add (h : b.Holds pos piece) (len : Nat) :
    b.slice? pos (piece.length + len) = (b.slice? (pos + piece.length) len).map (piece ++ ·) := by
  cases hrest : b.slice? (pos + piece.length) len with
  | none =>
    rw [slice?_eq_none_iff] at hrest
    rw [Option.map_none, slice?_eq_none_iff]
    omega
  | some rest =>
    obtain ⟨hlen, hrest⟩ := slice?_eq_some_iff.1 hrest
    rw [Option.map_some, slice?_eq_some_iff]
    exact ⟨by rw [List.length_append, hlen], holds_append_iff.2 ⟨h, hrest⟩⟩

/-- Wherever a read is cut, it gives the slice, and nothing if that is not all inside the file. -/
theorem Fills.eq_slice? (h : b.Fills pos len outcome) :
    outcome = if len = 0 then some [] else b.slice? pos len := by
  induction h with
  | done pos => rw [if_pos rfl]
  | ended hlen hend =>
    rw [if_neg (by omega), eq_comm, slice?_eq_none_iff]
    omega
  | @piece pos len piece rest hpiece hheld hrest ih =>
    have hpos := List.length_pos_iff.2 hpiece
    have hempty : b.slice? (pos + piece.length) 0 = some [] := by
      rw [slice?_eq, Nat.add_zero, if_pos hheld.le_size, List.take_zero]
    rw [if_neg (by omega), hheld.slice?_add, ih]
    split
    · next hnone => rw [hnone, hempty]
    · rfl

/-- A read can go on to its end: with one piece, if there are bytes left at all. -/
theorem exists_fills (b : Block) (pos len : Nat) : ∃ outcome, b.Fills pos len outcome := by
  by_cases hlen : len = 0
  · rw [hlen]
    exact ⟨_, .done pos⟩
  by_cases hend : b.size ≤ pos
  · exact ⟨_, .ended (Nat.pos_of_ne_zero hlen) hend⟩
  obtain ⟨piece, hslice⟩ := Option.ne_none_iff_exists'.1
    (show b.slice? pos (min len (b.size - pos)) ≠ none by rw [Ne, slice?_eq_none_iff]; omega)
  obtain ⟨hlength, hheld⟩ := slice?_eq_some_iff.1 hslice
  have hpiece : piece ≠ [] := List.length_pos_iff.1 (by omega)
  have hsum : len = piece.length + (len - piece.length) := by omega
  rw [hsum]
  by_cases hrest : len - piece.length = 0
  · rw [hrest]
    exact ⟨_, .piece hpiece hheld (.done _)⟩
  · exact ⟨_, .piece hpiece hheld (.ended (Nat.pos_of_ne_zero hrest) (by omega))⟩

end Block

/-! ## Requests -/

namespace Database

variable {db db' : Database} {b : Block}

/-- What is asked of an open file. Any number of searches may be under way in it. -/
inductive Request
  | restart (search : Nat)
  | find (search : Nat) (key : Bytes)
  | next (search : Nat) (key : Bytes)
  | get (key : Bytes)
  | getAll (key : Bytes)
  | readData (ref : DataRef)
  | read (pos len : Nat)
  deriving DecidableEq, Repr

/-- What is answered to it. -/
inductive Reply
  | nothing
  | found (result : Except ReadError (Option DataRef))
  | first (result : Except ReadError (Option Bytes))
  | all (result : Except ReadError (List Bytes))
  | bytes (result : Except ReadError Bytes)

/-- The states of all searches with one of them changed. -/
def moved (searches : Nat → Finder) (i : Nat) (f : Finder) : Nat → Finder :=
  fun j => if j = i then f else searches j

/-- Answers one request. A search keeps the state it is left in, after an error too. -/
def perform (db : Database) (searches : Nat → Finder) : Request → Reply × (Nat → Finder)
  | .restart i => (.nothing, moved searches i (searches i).restart)
  | .find i key =>
    let (f, result) := (searches i).find db key
    (.found result, moved searches i f)
  | .next i key =>
    let (f, result) := (searches i).next db key
    (.found result, moved searches i f)
  | .get key => (.first (db.get key), searches)
  | .getAll key => (.all (db.getAll key), searches)
  | .readData ref => (.bytes (db.readData ref), searches)
  | .read pos len => (.bytes (db.read pos len), searches)

/-- Answers requests one after the other. -/
def run (db : Database) (searches : Nat → Finder) : List Request → List Reply × (Nat → Finder)
  | [] => ([], searches)
  | request :: requests =>
    let (reply, searches) := db.perform searches request
    let (replies, searches) := db.run searches requests
    (reply :: replies, searches)

/-! ## Files that hold the same -/

/-- Two databases hold the same bytes, as far as bytes are read at all, and the same data. -/
structure Agree (db db' : Database) : Prop where
  read_eq : ∀ pos len, 0 < len → db'.read pos len = db.read pos len
  readData_eq : ∀ ref, db'.readData ref = db.readData ref

namespace Agree

variable {f : Finder} {key : Bytes}

theorem readPair_eq (h : Agree db db') (pos : Nat) : db'.readPair pos = db.readPair pos :=
  readPair_congr (h.read_eq pos 8 (by decide))

/-- No call of a search reads nothing, so it has the same answer. -/
theorem next_eq (h : Agree db db') (f : Finder) (key : Bytes) :
    f.next db' key = f.next db key := by
  apply Finder.next_congr
  intro a ha
  exact h.read_eq a.pos a.len (Finder.len_of_mem_accesses ha).1

theorem find_eq (h : Agree db db') (f : Finder) (key : Bytes) :
    f.find db' key = f.find db key :=
  h.next_eq f.restart key

theorem scan_eq (h : Agree db db') (f : Finder) (key : Bytes) :
    f.scan db' key = f.scan db key := by
  apply Finder.scan_congr
  intro a ha
  obtain ⟨g, -, ha⟩ := List.mem_flatMap.1 ha
  exact h.read_eq a.pos a.len (Finder.len_of_mem_lookAccesses ha).1

theorem collect_eq (h : Agree db db') (f : Finder) (key : Bytes) :
    f.collect db' key = f.collect db key := by
  fun_induction Finder.collect f db key with
  | case1 f f' e hscan => exact Finder.collect_of_error ((h.scan_eq f key).trans hscan)
  | case2 f f' hscan => exact Finder.collect_of_none ((h.scan_eq f key).trans hscan)
  | case3 f f' ref hscan e hread =>
    rw [Finder.collect_of_some ((h.scan_eq f key).trans hscan), h.readData_eq, hread]
    rfl
  | case4 f f' ref hscan data hread ih =>
    rw [Finder.collect_of_some ((h.scan_eq f key).trans hscan), h.readData_eq, hread, ← ih]
    rfl

theorem get_eq (h : Agree db db') (key : Bytes) : db'.get key = db.get key := by
  unfold get
  rw [h.find_eq]
  simp only [h.readData_eq]

theorem getAll_eq (h : Agree db db') (key : Bytes) : db'.getAll key = db.getAll key := by
  unfold getAll
  rw [Finder.enter_congr (h.readPair_eq _)]
  simp only [h.collect_eq]

/-- Databases that hold the same answer a request alike, unless it is to read nothing. -/
theorem perform_eq (h : Agree db db') (searches : Nat → Finder) {request : Request}
    (hread : ∀ pos len, request = .read pos len → 0 < len) :
    db'.perform searches request = db.perform searches request := by
  cases request with
  | restart i => rfl
  | find i key => simp only [perform, h.find_eq]
  | next i key => simp only [perform, h.next_eq]
  | get key => simp only [perform, h.get_eq]
  | getAll key => simp only [perform, h.getAll_eq]
  | readData ref => simp only [perform, h.readData_eq]
  | read pos len => simp only [perform, h.read_eq pos len (hread pos len rfl)]

theorem run_eq (h : Agree db db') (searches : Nat → Finder) {requests : List Request}
    (hread : ∀ pos len, .read pos len ∈ requests → 0 < len) :
    db'.run searches requests = db.run searches requests := by
  induction requests generalizing searches with
  | nil => rfl
  | cons request requests ih =>
    have hfirst : db'.perform searches request = db.perform searches request := by
      apply h.perform_eq
      rintro pos len rfl
      exact hread pos len List.mem_cons_self
    have hrest := fun searches => ih searches fun pos len hmem =>
      hread pos len (List.mem_cons_of_mem _ hmem)
    simp only [run, hfirst, hrest]

end Agree

/-! ## Mapped and by position -/

theorem ofContent_file (hsome : 0 < b.size) (hsize : b.size ≤ maxWord32) :
    ofContent (.file b) = ⟨.file b, true⟩ := by
  simp [ofContent, hsome, hsize]

/-- A mapping refuses a read exactly if it is not all inside the file. -/
theorem read_mapped (b : Block) (pos len : Nat) :
    (Database.mk (.file b) true).read pos len =
      (b.slice? pos len).elim (.error (.outside pos (len % 0x100000000))) .ok := by
  unfold read
  dsimp only
  rw [if_neg (by simp)]
  cases b.slice? pos len <;> rfl

/-- Reads by position come to what the pieces come to. -/
theorem read_unmapped {pos len : Nat} {outcome : Option Bytes} (h : b.Fills pos len outcome) :
    (unmapped (.file b)).read pos len =
      outcome.elim (.error (.outside pos (len % 0x100000000))) .ok := by
  rw [h.eq_slice?]
  unfold read unmapped
  dsimp only
  by_cases hlen : len = 0
  · rw [if_pos ⟨hlen, rfl⟩, if_pos hlen]
    rfl
  · rw [if_neg (fun hboth => hlen hboth.1), if_neg hlen]
    cases b.slice? pos len <;> rfl

/-- The two ways of reading differ only on reads of nothing from behind the end of the file. -/
theorem read_mapped_eq_iff (b : Block) (pos len : Nat) :
    (Database.mk (.file b) true).read pos len = (unmapped (.file b)).read pos len ↔
      0 < len ∨ pos ≤ b.size := by
  obtain ⟨outcome, hfills⟩ := b.exists_fills pos len
  rw [read_mapped, read_unmapped hfills, hfills.eq_slice?]
  by_cases hlen : len = 0
  · rw [if_pos hlen, hlen, Block.slice?]
    by_cases hpos : pos ≤ b.size
    · simp [hpos]
    · simp [hpos]
  · rw [if_neg hlen]
    simp [Nat.pos_of_ne_zero hlen]

/-- That the data lie inside the file is checked before they are read. -/
theorem agree_unmapped (b : Block) : Agree (Database.mk (.file b) true) (unmapped (.file b)) where
  read_eq pos len hlen := ((read_mapped_eq_iff b pos len).2 (.inl hlen)).symm
  readData_eq ref := by
    show (if b.size < ref.pos + ref.len then _ else (unmapped (.file b)).read ref.pos ref.len) =
      if b.size < ref.pos + ref.len then _ else (Database.mk (.file b) true).read ref.pos ref.len
    by_cases hout : b.size < ref.pos + ref.len
    · rw [if_pos hout, if_pos hout]
    · rw [if_neg hout, if_neg hout, (read_mapped_eq_iff b ref.pos ref.len).2 (.inr (by omega))]

/-- A file that is not empty and not too large is mapped, and answers everything that is asked of it
like one that is read by position, whatever it holds and whatever states the searches are in; errors
name the same stretch. Only reads of nothing are left out: from behind the end of the file these
fail in a mapping alone. A read by position is as the system makes it, in any pieces. -/
theorem run_ofContent_eq {b : Block} (hsome : 0 < b.size) (hsize : b.size ≤ maxWord32)
    (searches : Nat → Finder) {requests : List Request}
    (hread : ∀ pos len, .read pos len ∈ requests → 0 < len) :
    (ofContent (.file b)).mapped = true ∧ (unmapped (.file b)).mapped = false ∧
      (ofContent (.file b)).run searches requests =
        (unmapped (.file b)).run searches requests ∧
      (∀ pos len, (ofContent (.file b)).read pos len = (unmapped (.file b)).read pos len ↔
        0 < len ∨ pos ≤ b.size) ∧
      ∀ pos len outcome, b.Fills pos len outcome →
        (unmapped (.file b)).read pos len =
          outcome.elim (.error (.outside pos (len % 0x100000000))) .ok := by
  rw [ofContent_file hsome hsize]
  refine ⟨rfl, rfl, ?_, read_mapped_eq_iff b, fun pos len outcome => read_unmapped⟩
  exact ((agree_unmapped b).run_eq searches hread).symm

/-- A file too short for its header, with one slot that points past its end and one whose record
claims more data than there are. A search goes on after the error of the first slot. -/
theorem run_ofContent_eq_corrupt :
    ∃ (b : Block) (requests : List Request),
      requests = [.find 0 [165], .next 0 [165], .readData ⟨33, 0xFFFFFFF0⟩, .next 0 [165],
        .read 30 3] ∧
      0 < b.size ∧ b.size ≤ maxWord32 ∧ (∀ pos len, .read pos len ∈ requests → 0 < len) ∧
      (ofContent (.file b)).mapped = true ∧
      (ofContent (.file b)).run (fun _ => .fresh) requests =
        (unmapped (.file b)).run (fun _ => .fresh) requests ∧
      ((unmapped (.file b)).run (fun _ => .fresh) requests).1 =
        [.found (.error (.outside 3000 8)), .found (.ok (some ⟨33, 0xFFFFFFF0⟩)),
          .bytes (.error (.outside 33 0xFFFFFFF0)), .found (.ok none),
          .bytes (.ok [255, 255, 165])] := by
  let b : Block := .ofList (pairBytes 8 2 ++ (pairBytes 177408 24 ++ (pairBytes 177408 3000 ++
    (pairBytes 1 0xFFFFFFF0 ++ [165]))))
  let requests : List Request :=
    [.find 0 [165], .next 0 [165], .readData ⟨33, 0xFFFFFFF0⟩, .next 0 [165], .read 30 3]
  have hread : ∀ pos len, .read pos len ∈ requests → 0 < len := by
    intro pos len hmem
    simp [requests] at hmem
    omega
  obtain ⟨hmapped, -, hrun, -⟩ := run_ofContent_eq (b := b) (by decide) (by decide)
    (fun _ => .fresh) hread
  exact ⟨b, requests, rfl, by decide, by decide, hread, hmapped, hrun, by cbv⟩

end Database

end Resolver
