import Resolver.Bytes

/-!
# SipHash-2-4

A keyed hash of byte strings with a 64-bit result: two rounds for each eight bytes of the message
and four at the end.
-/

namespace Resolver.SipHash

/-- The four words the hash works on. -/
structure State where
  v0 : UInt64
  v1 : UInt64
  v2 : UInt64
  v3 : UInt64

/-- The word with its bits moved up by `n` places, those that leave coming back below. -/
def rotateLeft (x : UInt64) (n : UInt64) : UInt64 :=
  (x <<< n) ||| (x >>> (64 - n))

/-- One round of mixing. -/
def State.round (s : State) : State :=
  let v0 := s.v0 + s.v1
  let v1 := rotateLeft s.v1 13 ^^^ v0
  let v0 := rotateLeft v0 32
  let v2 := s.v2 + s.v3
  let v3 := rotateLeft s.v3 16 ^^^ v2
  let v0 := v0 + v3
  let v3 := rotateLeft v3 21 ^^^ v0
  let v2 := v2 + v1
  let v1 := rotateLeft v1 17 ^^^ v2
  let v2 := rotateLeft v2 32
  ⟨v0, v1, v2, v3⟩

/-- Takes in one word of the message. -/
def State.absorb (s : State) (m : UInt64) : State :=
  let s := State.round (State.round { s with v3 := s.v3 ^^^ m })
  { s with v0 := s.v0 ^^^ m }

/-- The state before the message, from the two halves of the key. -/
def start (k0 k1 : UInt64) : State :=
  ⟨k0 ^^^ 0x736f6d6570736575, k1 ^^^ 0x646f72616e646f6d,
    k0 ^^^ 0x6c7967656e657261, k1 ^^^ 0x7465646279746573⟩

/-- Takes in the rest of a message, of which the words before were taken in already; `size` is the
length of the whole message, whose low byte closes the last word. -/
def State.absorbAll (s : State) (size : Nat) (message : Bytes) : State :=
  match message with
  | b0 :: b1 :: b2 :: b3 :: b4 :: b5 :: b6 :: b7 :: rest =>
    (s.absorb (UInt64.ofNat (littleEndian [b0, b1, b2, b3, b4, b5, b6, b7]))).absorbAll size rest
  | last => s.absorb (UInt64.ofNat (littleEndian last + size % 256 * 0x100000000000000))

/-- The hash of a message under a 16-byte key. -/
def hash (key message : Bytes) : UInt64 :=
  let k0 := UInt64.ofNat (littleEndian (key.take 8))
  let k1 := UInt64.ofNat (littleEndian ((key.drop 8).take 8))
  let s := (start k0 k1).absorbAll message.length message
  let s := State.round (State.round (State.round (State.round { s with v2 := s.v2 ^^^ 0xff })))
  s.v0 ^^^ s.v1 ^^^ s.v2 ^^^ s.v3

end Resolver.SipHash
