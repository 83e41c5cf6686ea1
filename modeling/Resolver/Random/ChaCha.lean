import Resolver.Bytes

/-!
# The ChaCha20 block function

One block is sixteen 32-bit words made from a 256-bit key and a 64-bit block number: ten double
rounds on the initial state, then the initial state added word by word. The stream number is zero.
-/

namespace Resolver.ChaCha

/-- The sixteen words of a state or of a block. -/
abbrev Block := Vector UInt32 16

/-- The eight words of a key. -/
abbrev Key := Vector UInt32 8

/-- The word with its bits moved up by `n` places, those that leave coming back below. -/
def rotateLeft (x : UInt32) (n : UInt32) : UInt32 :=
  (x <<< n) ||| (x >>> (32 - n))

/-- The quarter round on four places of a state. -/
def quarterRound (s : Block) (a b c d : Fin 16) : Block :=
  let s := s.set a (s[a] + s[b])
  let s := s.set d (rotateLeft (s[d] ^^^ s[a]) 16)
  let s := s.set c (s[c] + s[d])
  let s := s.set b (rotateLeft (s[b] ^^^ s[c]) 12)
  let s := s.set a (s[a] + s[b])
  let s := s.set d (rotateLeft (s[d] ^^^ s[a]) 8)
  let s := s.set c (s[c] + s[d])
  s.set b (rotateLeft (s[b] ^^^ s[c]) 7)

/-- A round down the columns and a round along the diagonals. -/
def doubleRound (s : Block) : Block :=
  let s := quarterRound s 0 4 8 12
  let s := quarterRound s 1 5 9 13
  let s := quarterRound s 2 6 10 14
  let s := quarterRound s 3 7 11 15
  let s := quarterRound s 0 5 10 15
  let s := quarterRound s 1 6 11 12
  let s := quarterRound s 2 7 8 13
  quarterRound s 3 4 9 14

/-- The state a block is made from: four constants, the key, the block number and the stream. -/
def initial (key : Key) (number : UInt64) : Block :=
  #v[0x61707865, 0x3320646e, 0x79622d32, 0x6b206574,
    key[0], key[1], key[2], key[3], key[4], key[5], key[6], key[7],
    number.toUInt32, (number >>> 32).toUInt32, 0, 0]

/-- The block of a key with a given number. -/
def block (key : Key) (number : UInt64) : Block :=
  let start := initial key number
  let mixed := Nat.fold 10 (fun _ _ s => doubleRound s) start
  Vector.zipWith (· + ·) mixed start

/-- The key that 32 bytes stand for, each word least significant byte first. Bytes that are missing
count as zero. -/
def Key.ofBytes (seed : Bytes) : Key :=
  Vector.ofFn fun i => UInt32.ofNat (littleEndian ((seed.drop (4 * i.val)).take 4))

end Resolver.ChaCha
