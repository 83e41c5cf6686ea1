import Resolver.Block
import Resolver.Database.Format

/-!
# Building a constant database

Records are laid out one after the other as they are added; the hash tables follow and the header
is filled in last. Each table has twice as many slots as records. A record takes the first empty
slot from the one its hash starts at.

`Layout` is the arithmetic of positions alone, so that the limit on the size of the file can be
reasoned about, and computed, without the contents of the records.
-/

namespace Resolver

/-- Why a database could not be built. -/
inductive MakeError
  /-- A position would not fit in four bytes. -/
  | tooBig
  /-- The system refused. -/
  | system (cause : OsError)
  deriving DecidableEq, Repr

/-- The wording of a failed build. -/
def MakeError.message : MakeError → String
  | .tooBig => "database would exceed 4 GiB"
  | .system cause => s!"database write failed: {cause.message}"

namespace Database

/-! ## Where records lie -/

/-- A taken slot: the full hash of a record's key and the position of the record. -/
structure Slot where
  hash : UInt32
  pos : Nat
  deriving DecidableEq, Repr

/-- Where the records of a file lie. -/
structure Layout where
  /-- The slots of the records, the last added first. -/
  slots : List Slot
  /-- The position after the last record. -/
  fileEnd : Nat
  deriving DecidableEq, Repr

namespace Layout

/-- The layout without records. -/
def empty : Layout :=
  ⟨[], headerLength⟩

/-- The layout with one more record; none when it would end past the greatest position. -/
def add? (l : Layout) (hash : UInt32) (keyLength dataLength : Nat) : Option Layout :=
  let next := l.fileEnd + 8 + keyLength + dataLength
  if next ≤ maxWord32 then some ⟨⟨hash, l.fileEnd⟩ :: l.slots, next⟩ else none

end Layout

/-! ## Hash tables -/

/-- A hash table, with nothing in an empty slot. -/
abbrev Table := List (Option Slot)

/-- Puts a slot into the first empty place from the one its hash starts at, round the table. -/
def Table.insert (t : Table) (s : Slot) : Table :=
  let start := firstSlot s.hash t.length
  match (t.drop start).findIdx? Option.isNone with
  | some k => t.set (start + k) (some s)
  | none =>
    match (t.take start).findIdx? Option.isNone with
    | some k => t.set k (some s)
    | none => t

/-- The table of the given records, in the order they were added. -/
def Table.ofSlots (slots : List Slot) : Table :=
  slots.foldl Table.insert (List.replicate (2 * slots.length) none)

/-- A slot as the file holds it. -/
def slotBytes : Option Slot → Bytes
  | some s => pairBytes s.hash.toNat s.pos
  | none => pairBytes 0 0

/-- The records of each table in the order they were added. -/
def Layout.groups (l : Layout) : List (List Slot) :=
  (List.range tableCount).map fun i => l.slots.reverse.filter fun s => tableOf s.hash == i

/-- The hash tables with their positions, the first at `pos`; none when one would end past the
greatest position. -/
def placeTables? (pos : Nat) : List (List Slot) → Option (List (Nat × Table))
  | [] => some []
  | group :: groups =>
    let next := pos + 8 * (2 * group.length)
    if next ≤ maxWord32 then
      (placeTables? next groups).map ((pos, Table.ofSlots group) :: ·)
    else none

/-- The hash tables behind the records, with their positions. -/
def Layout.finish? (l : Layout) : Option (List (Nat × Table)) :=
  placeTables? l.fileEnd l.groups

/-! ## The file -/

/-- A database under construction. -/
structure Builder where
  layout : Layout
  /-- The records, the last added first. -/
  records : List (Bytes × Bytes)

namespace Builder

/-- A database without records. -/
def empty : Builder :=
  ⟨Layout.empty, []⟩

/-- Adds a record; a refused record changes nothing. -/
def add (b : Builder) (key data : Bytes) : Except MakeError Builder :=
  match b.layout.add? (hash key) key.length data.length with
  | some layout => .ok ⟨layout, (key, data) :: b.records⟩
  | none => .error .tooBig

/-- Adds records up to the first that is refused. -/
def addAll (b : Builder) : List (Bytes × Bytes) → Except MakeError Builder
  | [] => .ok b
  | (key, data) :: rest =>
    match b.add key data with
    | .ok b => b.addAll rest
    | .error e => .error e

/-- The finished file. -/
def finish (b : Builder) : Except MakeError Bytes :=
  match b.layout.finish? with
  | some tables =>
    .ok (tables.flatMap (fun (pos, table) => pairBytes pos table.length) ++
      (b.records.reverse.flatMap (fun (key, data) => recordBytes key data) ++
        tables.flatMap (fun (_, table) => table.flatMap slotBytes)))
  | none => .error .tooBig

end Builder

/-- The file with the given records. -/
def build (records : List (Bytes × Bytes)) : Except MakeError Bytes := do
  (← Builder.empty.addAll records).finish

end Database

end Resolver
