import Resolver.Database.Builder

/-!
# Writing a database as records are added

A `Builder` keeps the records and puts the file together in the end. Here the file grows with every
record: bytes go to a place in it that moves on as they are written, behind a header of zeros that is
overwritten in the end. Positions are words of four bytes, and every sum and product of them is
checked on its own.
-/

namespace Resolver.Database

/-! ## Words -/

/-- A number as a word of four bytes; none when it does not fit. -/
def word? (n : Nat) : Option UInt32 :=
  if n ≤ maxWord32 then some (UInt32.ofNat n) else none

/-- The sum of two words; none when it is no word. -/
def sum? (a b : UInt32) : Option UInt32 :=
  word? (a.toNat + b.toNat)

/-- The product of two words; none when it is no word. -/
def product? (a b : UInt32) : Option UInt32 :=
  word? (a.toNat * b.toNat)

/-- A word fits as the number it is. -/
theorem word?_eq_some_iff {n : Nat} {w : UInt32} : word? n = some w ↔ w.toNat = n := by
  unfold word? maxWord32
  by_cases hfits : n ≤ 0xFFFFFFFF
  · have hread : (UInt32.ofNat n).toNat = n := by
      rw [UInt32.toNat_ofNat', Nat.mod_eq_of_lt (by omega)]
    rw [if_pos hfits, Option.some.injEq]
    constructor
    · rintro rfl
      exact hread
    · intro h
      exact UInt32.toNat_inj.1 (hread.trans h.symm)
  · rw [if_neg hfits]
    have hlt := w.toNat_lt
    exact iff_of_false nofun (by omega)

theorem word?_eq_none_iff {n : Nat} : word? n = none ↔ maxWord32 < n := by
  unfold word?
  split
  · exact iff_of_false nofun (by omega)
  · exact iff_of_true rfl (by omega)

theorem sum?_eq_some_iff {a b c : UInt32} : sum? a b = some c ↔ c.toNat = a.toNat + b.toNat :=
  word?_eq_some_iff

theorem product?_eq_some_iff {a b c : UInt32} :
    product? a b = some c ↔ c.toNat = a.toNat * b.toNat :=
  word?_eq_some_iff

/-! ## Files -/

/-- A file that is written, with the place where the next bytes go. -/
structure Output where
  bytes : Bytes
  place : Nat
  deriving DecidableEq, Repr

namespace Output

/-- An empty file. -/
def empty : Output :=
  ⟨[], 0⟩

/-- Writes bytes over those that stand at the place, and on behind the end. -/
def write (o : Output) (new : Bytes) : Output :=
  ⟨o.bytes.take o.place ++ (new ++ o.bytes.drop (o.place + new.length)), o.place + new.length⟩

/-- Goes back to the start. -/
def rewind (o : Output) : Output :=
  { o with place := 0 }

/-- The place is behind all that was written. -/
def AtEnd (o : Output) : Prop :=
  o.place = o.bytes.length

theorem atEnd_empty : empty.AtEnd := rfl

theorem AtEnd.write_bytes {o : Output} (h : o.AtEnd) (new : Bytes) :
    (o.write new).bytes = o.bytes ++ new := by
  unfold AtEnd at h
  unfold write
  rw [h, List.take_length, List.drop_eq_nil_of_le (Nat.le_add_right ..), List.append_nil]

theorem AtEnd.write {o : Output} (h : o.AtEnd) (new : Bytes) : (o.write new).AtEnd := by
  unfold AtEnd
  rw [h.write_bytes, List.length_append, ← show o.place = o.bytes.length from h]
  rfl

/-- What is written at the start takes the place of as many bytes. -/
theorem rewind_write {o : Output} {front behind new : Bytes} (h : o.bytes = front ++ behind)
    (hlength : new.length = front.length) : (o.rewind.write new).bytes = new ++ behind := by
  show o.bytes.take 0 ++ (new ++ o.bytes.drop (0 + new.length)) = _
  rw [h, List.take_zero, List.nil_append, Nat.zero_add, List.drop_left' hlength.symm]

end Output

/-! ## Records -/

/-- A database that is being written. -/
structure Writer where
  out : Output
  /-- The slots of the records in the order they were added. -/
  slots : List Slot
  /-- The position after the last record. -/
  pos : UInt32
  deriving DecidableEq, Repr

namespace Writer

/-- A database without records, its header still to come. -/
def start : Writer :=
  ⟨Output.empty.write (List.replicate headerLength 0), [], UInt32.ofNat headerLength⟩

/-- The position after a record at a position. -/
def next? (pos : UInt32) (keyLength dataLength : Nat) : Option UInt32 := do
  let key ← word? keyLength
  let data ← word? dataLength
  let pos ← sum? pos 8
  let pos ← sum? pos key
  sum? pos data

/-- Adds a record. One that would end past the greatest position is refused before anything is
written. -/
def add (w : Writer) (key data : Bytes) : Except MakeError Unit × Writer :=
  match next? w.pos key.length data.length with
  | none => (.error .tooBig, w)
  | some next =>
    let out := w.out.write (toLittleEndian 4 key.length)
    let out := out.write (toLittleEndian 4 data.length)
    let out := out.write key
    let out := out.write data
    (.ok (), ⟨out, w.slots ++ [⟨hash key, w.pos.toNat⟩], next⟩)

/-- Adds records one after the other, going on when one is refused, with the answer to each. -/
def addEach (w : Writer) : List (Bytes × Bytes) → List (Except MakeError Unit) × Writer
  | [] => ([], w)
  | (key, data) :: rest =>
    let (answer, w) := w.add key data
    let (answers, w) := w.addEach rest
    (answer :: answers, w)

/-! ## Tables -/

/-- The slots of each table in the order they were added. -/
def groups (w : Writer) : List (List Slot) :=
  (List.range tableCount).map fun i => w.slots.filter fun s => tableOf s.hash == i

/-- The position after a table at a position. -/
def tableEnd? (pos places : UInt32) : Option UInt32 := do
  let length ← product? places 8
  sum? pos length

/-- Writes the tables of some groups of slots one behind the other, and adds their entries to a
header. -/
def writeTables (w : Writer) (header : Bytes) : List (List Slot) → Except MakeError (Writer × Bytes)
  | [] => .ok (w, header)
  | group :: groups =>
    match word? (2 * group.length) with
    | none => .error .tooBig
    | some places =>
      let header := header ++ pairBytes w.pos.toNat places.toNat
      let out := w.out.write ((Table.ofSlots group).flatMap slotBytes)
      match tableEnd? w.pos places with
      | none => .error .tooBig
      | some pos => writeTables { w with out := out, pos := pos } header groups

/-- Writes the tables and the header, and gives the finished file. -/
def finish (w : Writer) : Except MakeError Bytes :=
  match w.writeTables [] w.groups with
  | .error e => .error e
  | .ok (w, header) => .ok (w.out.rewind.write header).bytes

end Writer

end Resolver.Database
