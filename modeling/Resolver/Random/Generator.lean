import Resolver.Random.ChaCha

/-!
# The random source

Query ids, source ports and hash keys come from one generator, the words of a ChaCha20 keystream
taken in order. A seed fixes every draw that follows.
-/

namespace Resolver

/-- A place in a ChaCha20 keystream. -/
structure Generator where
  key : ChaCha.Key
  /-- The number of the next block to make. -/
  next : UInt64
  /-- The words of the current block that are still to be taken. -/
  pending : List UInt32
  deriving DecidableEq

namespace Generator

/-- The start of the keystream of a 32-byte seed. -/
def ofSeed (seed : Bytes) : Generator :=
  ⟨ChaCha.Key.ofBytes seed, 0, []⟩

/-- The next word of the keystream. -/
def word (g : Generator) : UInt32 × Generator :=
  match g.pending with
  | w :: rest => (w, { g with pending := rest })
  | [] =>
    let block := (ChaCha.block g.key g.next).toList
    (block.headD 0, { g with next := g.next + 1, pending := block.tail })

/-- A 16-bit number: the low half of the next word. -/
def id (g : Generator) : UInt16 × Generator :=
  let (w, g) := g.word
  (w.toUInt16, g)

/-- The next `n` words as bytes, each word least significant byte first. -/
def bytesOfWords (g : Generator) : Nat → Bytes × Generator
  | 0 => ([], g)
  | n + 1 =>
    let (w, g) := g.word
    let (rest, g) := g.bytesOfWords n
    (toLittleEndian 4 w.toNat ++ rest, g)

/-- A 128-bit key. -/
def key128 (g : Generator) : Bytes × Generator :=
  g.bytesOfWords 4

/-- The largest low half of a product that keeps the draw uniform: `n` shifted to the top of the
word, less one. -/
def acceptanceZone (n : UInt32) : UInt32 :=
  (n <<< UInt32.ofNat (31 - n.toNat.log2)) - 1

/-- The most draws made for one number. The rule that numbers are drawn by knows no such bound: it
draws until a draw is accepted. This source departs from it where 256 draws in a row are refused; as
each is accepted with a probability of at least one half, that takes a chance of one in `2 ^ 256`. -/
def maxDraws : Nat := 256

/-- A number below `n` from the high half of `word * n`, drawn again while the low half lies
outside the acceptance zone. The last of `draws` is taken as it is, accepted or not. -/
def belowWithin (n : UInt32) : Nat → Generator → UInt32 × Generator
  | 0, g => (0, g)
  | draws + 1, g =>
    let (w, g) := g.word
    let product := w.toUInt64 * n.toUInt64
    if product.toUInt32 ≤ acceptanceZone n ∨ draws = 0 then ((product >>> 32).toUInt32, g)
    else belowWithin n draws g

/-- A number below `n`, every one equally likely. For `n = 0` it is 0 and nothing is drawn. -/
def below (g : Generator) (n : UInt32) : UInt32 × Generator :=
  if n = 0 then (0, g) else belowWithin n maxDraws g

@[simp]
theorem length_bytesOfWords (g : Generator) (n : Nat) :
    (g.bytesOfWords n).1.length = 4 * n := by
  induction n generalizing g with
  | zero => rfl
  | succ n ih =>
    simp only [bytesOfWords, List.length_append, length_toLittleEndian, ih]
    omega

@[simp]
theorem length_key128 (g : Generator) : g.key128.1.length = 16 :=
  length_bytesOfWords g 4

end Generator

end Resolver
