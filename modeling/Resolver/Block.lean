import Resolver.Bytes

/-!
# Blocks

Bytes in memory that are read and written at offsets. Every access is checked: one that would leave
the block gives nothing.

Main statements: a slice is what stands there in the list of bytes (`slice?_eq`), and writing
replaces the bytes in their place and keeps the rest (`toList_of_write?`).
-/

namespace Resolver

/-- A block of bytes addressed by offset. -/
structure Block where
  bytes : ByteArray

namespace Block

/-- The bytes of a block, in order. -/
def toList (b : Block) : Bytes :=
  b.bytes.data.toList

/-- The block that holds the given bytes. -/
def ofList (bytes : Bytes) : Block :=
  ⟨⟨bytes.toArray⟩⟩

/-- A block of `size` zero bytes. -/
def zeros (size : Nat) : Block :=
  ⟨⟨Array.replicate size 0⟩⟩

/-- The number of bytes. -/
def size (b : Block) : Nat :=
  b.bytes.size

/-- The `len` bytes from `pos` on. -/
def slice? (b : Block) (pos len : Nat) : Option Bytes :=
  if pos + len ≤ b.size then some (b.bytes.extract pos (pos + len)).data.toList else none

/-- The bytes with `new` laid over them from `pos` on. -/
def overlay (bytes : ByteArray) (pos : Nat) : Bytes → ByteArray
  | [] => bytes
  | b :: rest => overlay (bytes.set! pos b) (pos + 1) rest

/-- The block with `new` written from `pos` on. -/
def write? (b : Block) (pos : Nat) (new : Bytes) : Option Block :=
  if pos + new.length ≤ b.size then some ⟨overlay b.bytes pos new⟩ else none

@[simp]
theorem toList_ofList (bytes : Bytes) : (ofList bytes).toList = bytes := rfl

@[simp]
theorem length_toList (b : Block) : b.toList.length = b.size := rfl

@[simp]
theorem size_zeros (n : Nat) : (zeros n).size = n := by
  simp [zeros, size, ByteArray.size]

/-- A slice is what stands there in the list of bytes. -/
theorem slice?_eq (b : Block) (pos len : Nat) :
    b.slice? pos len =
      if pos + len ≤ b.size then some ((b.toList.drop pos).take len) else none := by
  simp only [slice?, toList, ByteArray.data_extract, Array.toList_extract,
    List.extract_eq_take_drop]
  rw [Nat.add_sub_cancel_left]

/-- Laying bytes over others replaces those in their place and keeps the rest. -/
theorem toList_overlay (bytes : ByteArray) (pos : Nat) (new : Bytes)
    (h : pos + new.length ≤ bytes.size) :
    (overlay bytes pos new).data.toList =
      bytes.data.toList.take pos ++ (new ++ bytes.data.toList.drop (pos + new.length)) := by
  induction new generalizing bytes pos with
  | nil => simp [overlay]
  | cons b rest ih =>
    rw [List.length_cons] at h
    have hlen : bytes.data.toList.length = bytes.size := rfl
    have hpos : pos < bytes.data.toList.length := by omega
    have hset : (bytes.set! pos b).data.toList = bytes.data.toList.set pos b :=
      Array.toList_setIfInBounds ..
    have hsize : (bytes.set! pos b).data.toList.length = bytes.data.toList.length := by
      rw [hset, List.length_set]
    have hfit : pos + 1 + rest.length ≤ (bytes.set! pos b).size := by
      rw [show (bytes.set! pos b).size = (bytes.set! pos b).data.toList.length from rfl, hsize]
      omega
    rw [overlay, ih _ _ hfit, hset, List.take_add_one, List.take_set_of_le (Nat.le_refl pos),
      List.getElem?_set_self hpos, List.drop_set_of_lt (by omega), List.length_cons]
    simp only [Option.toList_some, List.append_assoc, List.cons_append, List.nil_append]
    rw [Nat.add_right_comm, Nat.add_assoc]

/-- What a block holds after bytes were written. -/
theorem toList_of_write? {b b' : Block} {pos : Nat} {new : Bytes} (h : b.write? pos new = some b') :
    b'.toList = b.toList.take pos ++ (new ++ b.toList.drop (pos + new.length)) := by
  rw [write?] at h
  split at h
  · next hfit =>
    obtain rfl := Option.some.inj h
    exact toList_overlay b.bytes pos new hfit
  · contradiction

/-- Writing keeps the size. -/
theorem size_of_write? {b b' : Block} {pos : Nat} {new : Bytes} (h : b.write? pos new = some b') :
    b'.size = b.size := by
  have hfit : pos + new.length ≤ b.size := by
    rw [write?] at h
    split at h
    · assumption
    · contradiction
  rw [← length_toList, toList_of_write? h, ← length_toList]
  rw [← length_toList] at hfit
  simp only [List.length_append, List.length_take, List.length_drop]
  omega

end Block

end Resolver
