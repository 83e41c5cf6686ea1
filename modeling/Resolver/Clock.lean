import Resolver.Bytes

/-!
# Clocks

Two scales of time. `Tai64` counts whole seconds on the TAI64 scale for the ages of stored
answers: 64 bits, and arithmetic stops at the ends of the scale. `Instant` is a reading of the
monotonic clock that deadlines are set on.
-/

namespace Resolver

/-- A second on the TAI64 scale. -/
structure Tai64 where
  seconds : UInt64
  deriving DecidableEq, Repr

namespace Tai64

/-- The label of the first second of 1970: `2 ^ 62 + 10`. -/
def unixEpoch : Nat := 4611686018427387914

/-- The second labelled `n`, or the last of the scale if `n` is past it. -/
def clamp (n : Nat) : Tai64 :=
  ⟨UInt64.ofNat (min n maxWord64)⟩

/-- The second that is `secs` seconds after the start of 1970. -/
def ofUnix (secs : Nat) : Tai64 :=
  clamp (unixEpoch + secs)

/-- The second of a wall-clock reading in milliseconds from the start of 1970; readings before it
count as its start. -/
def ofUnixMillis (millis : Int) : Tai64 :=
  ofUnix (millis.toNat / 1000)

/-- The second `secs` later, or the last of the scale. -/
def add (t : Tai64) (secs : Nat) : Tai64 :=
  clamp (t.seconds.toNat + secs)

/-- The seconds from `earlier` to `t`, zero if `earlier` is the later one. -/
def secondsSince (t earlier : Tai64) : Nat :=
  t.seconds.toNat - earlier.seconds.toNat

/-- The second `secs` further on a clock whose counter wraps around. -/
def tick (t : Tai64) (secs : UInt64) : Tai64 :=
  ⟨t.seconds + secs⟩

/-- The external form: eight bytes in network order. -/
def pack (t : Tai64) : Bytes :=
  toBigEndian 8 t.seconds.toNat

/-- The second with the given external form. -/
def unpack (bytes : Bytes) : Tai64 :=
  ⟨UInt64.ofNat (bigEndian bytes)⟩

@[simp]
theorem toNat_seconds_clamp (n : Nat) : (clamp n).seconds.toNat = min n maxWord64 := by
  have h : min n maxWord64 < 0x10000000000000000 := by simp only [maxWord64]; omega
  rw [clamp, UInt64.toNat_ofNat', Nat.mod_eq_of_lt h]

/-- The external form reads back as the second it was made from. -/
theorem unpack_pack (t : Tai64) : unpack t.pack = t := by
  have h : t.seconds.toNat < Nat.pow 256 8 := t.seconds.toNat_lt
  rw [unpack, pack, bigEndian_toBigEndian, Nat.mod_eq_of_lt h, UInt64.ofNat_toNat]

end Tai64

/-- A length of time in nanoseconds. -/
abbrev Duration := Nat

namespace Duration

/-- So many whole seconds. -/
def seconds (n : Nat) : Duration := n * 1000000000

/-- So many milliseconds. -/
def millis (n : Nat) : Duration := n * 1000000

/-- The whole seconds of a length of time. -/
def wholeSeconds (d : Duration) : Nat := d / 1000000000

end Duration

/-- A reading of the monotonic clock, in nanoseconds from its start. -/
structure Instant where
  nanos : Nat
  deriving DecidableEq, Repr

namespace Instant

/-- The first reading that is past the clock's range: its seconds are a signed 64-bit number. -/
def limit : Nat := 0x8000000000000000 * 1000000000

/-- The reading `d` later, `none` when that is past the clock's range. -/
def add? (t : Instant) (d : Duration) : Option Instant :=
  if t.nanos + d < limit then some ⟨t.nanos + d⟩ else none

/-- Whether one reading comes before another. -/
def before (a b : Instant) : Bool :=
  a.nanos < b.nanos

/-- The time from `earlier` to `t`, zero if `earlier` is the later one. -/
def since (t earlier : Instant) : Duration :=
  t.nanos - earlier.nanos

/-- The earlier of two readings. -/
def earliest (a b : Instant) : Instant :=
  if a.before b then a else b

end Instant

end Resolver
