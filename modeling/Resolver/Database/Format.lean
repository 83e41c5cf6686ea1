import Resolver.Bytes
import Resolver.OsError

/-!
# The constant database format

A database file is a header of 256 pairs `(position, slots)`, the records in the order they were
added, and 256 hash tables. A record is the length of its key, the length of its data, the key and
the data. A table slot is `(hash, position of the record)`, with position 0 for an empty slot. All
numbers have four bytes, least significant first.

A key with hash `h` belongs to table `h % 256` and is looked for from slot `h / 256 % slots` on.
-/

namespace Resolver.Database

/-- The length of the header. -/
def headerLength : Nat := 2048

/-- The number of hash tables. -/
def tableCount : Nat := 256

/-- The greatest position and the greatest length. -/
def maxWord32 : Nat := 0xFFFFFFFF

/-- The hash of a key. -/
def hash (key : Bytes) : UInt32 :=
  key.foldl (fun h b => (h + (h <<< 5)) ^^^ b.toUInt32) 5381

/-- The table that a hash belongs to. -/
def tableOf (h : UInt32) : Nat :=
  h.toNat % tableCount

/-- The slot that the search for a hash starts from in a table with so many slots. -/
def firstSlot (h : UInt32) (slots : Nat) : Nat :=
  h.toNat / tableCount % slots

/-- A pair of numbers as the file holds it. -/
def pairBytes (first second : Nat) : Bytes :=
  toLittleEndian 4 first ++ toLittleEndian 4 second

/-- The pair of numbers that eight bytes hold. -/
def pairOf (bytes : Bytes) : Nat × Nat :=
  (littleEndian (bytes.take 4), littleEndian (bytes.drop 4))

/-- A record as the file holds it. -/
def recordBytes (key data : Bytes) : Bytes :=
  pairBytes key.length data.length ++ (key ++ data)

theorem length_pairBytes (a b : Nat) : (pairBytes a b).length = 8 := by
  simp [pairBytes]

theorem pairOf_pairBytes {a b : Nat} (ha : a ≤ maxWord32) (hb : b ≤ maxWord32) :
    pairOf (pairBytes a b) = (a, b) := by
  have h4 : (toLittleEndian 4 a).length = 4 := length_toLittleEndian 4 a
  have hpow : Nat.pow 256 4 = maxWord32 + 1 := rfl
  simp only [pairOf, pairBytes, List.take_left' h4, List.drop_left' h4, littleEndian_toLittleEndian,
    hpow]
  rw [Nat.mod_eq_of_lt (Nat.lt_succ_of_le ha), Nat.mod_eq_of_lt (Nat.lt_succ_of_le hb)]

theorem length_recordBytes (key data : Bytes) :
    (recordBytes key data).length = 8 + key.length + data.length := by
  simp only [recordBytes, List.length_append, length_pairBytes]
  omega

end Resolver.Database
