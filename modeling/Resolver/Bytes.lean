/-!
# Byte strings

Names, keys, values and messages are lists of bytes. This module holds the fixed-width numbers
that the formats store in them, in either byte order, and ASCII case folding.

Main statements: a number of the right size survives being written and read back
(`littleEndian_toLittleEndian`, `bigEndian_toBigEndian`), and the written forms have their width.
-/

namespace Resolver

/-- A byte string: a name, a key, a value or a message. -/
abbrev Bytes := List UInt8

/-- The greatest number of 64 bits. -/
def maxWord64 : Nat := 0xFFFFFFFFFFFFFFFF

/-- The number whose base-256 digits are `bytes`, least significant first. -/
def littleEndian : Bytes → Nat
  | [] => 0
  | b :: rest => b.toNat + 256 * littleEndian rest

/-- The number whose base-256 digits are `bytes`, most significant first. -/
def bigEndian (bytes : Bytes) : Nat :=
  littleEndian bytes.reverse

/-- The low `width` base-256 digits of `n`, least significant first. -/
def toLittleEndian : Nat → Nat → Bytes
  | 0, _ => []
  | width + 1, n => UInt8.ofNat n :: toLittleEndian width (n / 256)

/-- The low `width` base-256 digits of `n`, most significant first. -/
def toBigEndian (width n : Nat) : Bytes :=
  (toLittleEndian width n).reverse

@[simp]
theorem length_toLittleEndian (width n : Nat) : (toLittleEndian width n).length = width := by
  induction width generalizing n with
  | zero => rfl
  | succ w ih => simp [toLittleEndian, ih]

@[simp]
theorem length_toBigEndian (width n : Nat) : (toBigEndian width n).length = width := by
  simp [toBigEndian]

/-- Writing a number and reading it back keeps its low digits. -/
theorem littleEndian_toLittleEndian (width n : Nat) :
    littleEndian (toLittleEndian width n) = n % Nat.pow 256 width := by
  induction width generalizing n with
  | zero => exact (Nat.mod_one n).symm
  | succ w ih =>
    have hpow : Nat.pow 256 (w + 1) = 256 * Nat.pow 256 w := Nat.mul_comm _ _
    rw [toLittleEndian, littleEndian, ih, hpow, Nat.mod_mul, UInt8.toNat_ofNat']

theorem bigEndian_toBigEndian (width n : Nat) :
    bigEndian (toBigEndian width n) = n % Nat.pow 256 width := by
  rw [bigEndian, toBigEndian, List.reverse_reverse, littleEndian_toLittleEndian]

theorem littleEndian_lt (bytes : Bytes) : littleEndian bytes < Nat.pow 256 bytes.length := by
  induction bytes with
  | nil => exact Nat.zero_lt_one
  | cons b rest ih =>
    have hb : b.toNat < 256 := b.toNat_lt
    have hpow : Nat.pow 256 (rest.length + 1) = 256 * Nat.pow 256 rest.length := Nat.mul_comm _ _
    rw [littleEndian, List.length_cons, hpow]
    omega

theorem bigEndian_lt (bytes : Bytes) : bigEndian bytes < Nat.pow 256 bytes.length := by
  rw [bigEndian, ← List.length_reverse]
  exact littleEndian_lt bytes.reverse

/-- A 16-bit number in network order, as messages hold types, classes, ids and counts. -/
def wordBytes (w : UInt16) : Bytes :=
  toBigEndian 2 w.toNat

@[simp]
theorem length_wordBytes (w : UInt16) : (wordBytes w).length = 2 :=
  length_toBigEndian 2 w.toNat

/-- The 16-bit number that two bytes in network order stand for. -/
def wordOf (high low : UInt8) : UInt16 :=
  UInt16.ofNat (256 * high.toNat + low.toNat)

/-- The ASCII lower-case form of a byte; every byte but the 26 capitals stays as it is. -/
def lowerByte (b : UInt8) : UInt8 :=
  if 65 ≤ b ∧ b ≤ 90 then b + 32 else b

/-- The ASCII lower-case form of a byte string. -/
def lowerBytes (bytes : Bytes) : Bytes :=
  bytes.map lowerByte

@[simp]
theorem length_lowerBytes (bytes : Bytes) : (lowerBytes bytes).length = bytes.length := by
  simp [lowerBytes]

/-- The pieces of a byte string between occurrences of `separator`, empty pieces included. -/
def splitAtByte (separator : UInt8) : Bytes → List Bytes
  | [] => [[]]
  | b :: rest =>
    if b = separator then [] :: splitAtByte separator rest
    else match splitAtByte separator rest with
      | [] => [[b]]
      | piece :: pieces => (b :: piece) :: pieces

end Resolver
