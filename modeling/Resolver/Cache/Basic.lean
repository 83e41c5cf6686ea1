import Resolver.Cache.Arena
import Resolver.Clock
import Resolver.SipHash

/-!
# The answer cache

A fixed-size store of answers with a time to live that gives up its oldest entries for new ones.
Everything lives in one arena:

* `[0, heads)`: one link per bucket,
* `[heads, writer)`: entries, the newest on the right,
* `[writer, oldest)`: free space,
* `[oldest, unused)`: entries from before the writer last turned round, the oldest on the left,
* `[unused, size)`: space left over when it turned round.

An entry is a link, the lengths of key and data, the second it expires, the key and the data. The
entries of a bucket form a chain from the newest to the oldest. A link holds the exclusive or of
the offsets of its two neighbours in the chain, with 0 beyond the oldest, so a chain can be walked
from its head and its oldest entry can be cut off knowing only that entry. New entries go in behind
the head; the entry given up is always the oldest of its chain.

Memory for an arena may be refused, when a store is made or starts over. Whether it is granted is an
argument of these functions, so what is said of both arguments is said of every allocator.
-/

namespace Resolver

/-- A store of answers in an arena. -/
structure Cache where
  arena : Arena
  /-- The bytes of the bucket links. -/
  heads : Nat
  /-- Where the next entry goes. -/
  writer : Nat
  /-- Where the oldest entry begins, or the end of the arena. -/
  oldest : Nat
  /-- Where the entries from before the last turn end. -/
  unused : Nat
  /-- The key of the hash that spreads keys over the buckets. -/
  hashKey : Bytes
  /-- The bytes ever written, modulo `2 ^ 64`. -/
  motion : UInt64

namespace Cache

/-! ## Limits -/

/-- The longest key. -/
def maxKey : Nat := 1000

/-- The longest data. -/
def maxData : Nat := 1000000

/-- The longest time to live, seven days. -/
def maxTtl : Nat := 604800

/-- The smallest arena. -/
def minSize : Nat := 100

/-- The largest arena. -/
def maxSize : Nat := 1000000000

/-- The bytes of an entry before its key. -/
def entryHeader : Nat := 20

/-- The most entries of a chain that a search looks past. A flood of keys with one hash cannot make
a search longer than this. -/
def maxChain : Nat := 100

/-! ## Making a store -/

/-- The arena size for a wanted capacity. -/
def sizeFor (capacity : Nat) : Nat :=
  max minSize (min capacity maxSize)

/-- The bytes of bucket links in an arena: the least power of two that is at least 4 and more than
a thirty-second of the arena. -/
def headsFor (size : Nat) : Nat :=
  max 4 (Nat.pow 2 ((size / 32).log2 + 1))

/-- An empty store that goes on counting bytes written from `motion`. -/
def blank (capacity : Nat) (hashKey : Bytes) (motion : UInt64) : Cache :=
  let size := sizeFor capacity
  let heads := headsFor size
  ⟨Block.zeros size, heads, heads, size, size, hashKey, motion⟩

/-- An empty store. -/
def new (capacity : Nat) (hashKey : Bytes) : Cache :=
  blank capacity hashKey 0

/-- The refusal of memory that was asked for. -/
inductive MemoryError
  /-- The allocator has none to give. -/
  | refused
  deriving DecidableEq, Repr

/-- The text for a refusal of memory. -/
def MemoryError.message : MemoryError → String
  | refused => "memory allocation failed because the memory allocator returned an error"

/-- Lays a store out anew, without entries, in an arena for another capacity. Unless the memory for
that arena is granted, nothing changes. -/
def layout (c : Cache) (capacity : Nat) (granted : Bool) : Except MemoryError Unit × Cache :=
  if granted then (.ok (), blank capacity c.hashKey c.motion) else (.error .refused, c)

/-- A store that has no arena yet. -/
def unlaid (hashKey : Bytes) : Cache :=
  ⟨Block.zeros 0, 0, 0, 0, 0, hashKey, 0⟩

/-- Makes a store, if the memory for its arena is granted. -/
def create (capacity : Nat) (hashKey : Bytes) (granted : Bool) : Except MemoryError Cache :=
  let (result, c) := (unlaid hashKey).layout capacity granted
  result.map fun _ => c

/-- Starts over with another size and hash key and without entries; the count of bytes written goes
on. The hash key is replaced before memory is asked for. If that is refused, the entries stay, each
in the bucket of its key under the hash key it was stored with. -/
def reinit (c : Cache) (capacity : Nat) (hashKey : Bytes) (granted : Bool) :
    Except MemoryError Unit × Cache :=
  { c with hashKey := hashKey }.layout capacity granted

/-- The size of the arena. -/
def size (c : Cache) : Nat :=
  c.arena.size

/-- The bytes between the cursors that hold entries. -/
def used (c : Cache) : Nat :=
  (c.writer - c.heads) + (c.unused - c.oldest)

/-- The sizes of a store and what it counts. -/
structure Stats where
  size : Nat
  heads : Nat
  used : Nat
  /-- Bytes ever written. -/
  motion : UInt64
  deriving DecidableEq, Repr

/-- What a store tells of itself. -/
def stats (c : Cache) : Stats :=
  ⟨c.size, c.heads, c.used, c.motion⟩

/-- The offset of the bucket link for a key under a hash key: the low 32 bits of its hash, cut down
to a multiple of four below `heads`. -/
def bucketOf (hashKey : Bytes) (heads : Nat) (key : Bytes) : Nat :=
  (SipHash.hash hashKey key).toNat % 0x100000000 % heads / 4 * 4

/-- The offset of the bucket link for a key. -/
def bucket (c : Cache) (key : Bytes) : Nat :=
  bucketOf c.hashKey c.heads key

/-! ## Searching -/

/-- What a search finds. -/
structure Hit where
  data : Bytes
  /-- The seconds left to live. -/
  ttl : Nat
  deriving DecidableEq, Repr

/-- Whether the entry at `pos` has the given key. -/
def holds (c : Cache) (pos : Nat) (key : Bytes) : Except Damage Bool := do
  let keyLength ← Arena.word c.arena (pos + 4)
  if keyLength ≠ key.length then return false
  let stored ← Arena.slice c.arena (pos + entryHeader) key.length
  return stored == key

/-- The answer in the entry at `pos`, whose key has length `keyLength`; none once it is older than
its time to live. -/
def answer (c : Cache) (now : Tai64) (pos keyLength : Nat) : Except Damage (Option Hit) := do
  let expiry := Tai64.unpack (← Arena.slice c.arena (pos + 12) 8)
  if expiry.seconds < now.seconds then return none
  let dataLength ← Arena.word c.arena (pos + 8)
  let data ← Arena.slice c.arena (pos + entryHeader + keyLength) dataLength
  return some ⟨data, min (expiry.secondsSince now) maxTtl⟩

/-- Searches the chain from the entry at `pos`, which comes after the link at `prev`, looking at no
more than `steps` entries. -/
def search (c : Cache) (now : Tai64) (key : Bytes) :
    (steps prev pos : Nat) → Except Damage (Option Hit)
  | 0, _, _ => .ok none
  | steps + 1, prev, pos => do
    if pos = 0 then return none
    if ← c.holds pos key then c.answer now pos key.length
    else
      let link ← Arena.word c.arena pos
      c.search now key steps pos (prev ^^^ link)

/-- The answer stored last under a key, unless it has expired. -/
def get (c : Cache) (now : Tai64) (key : Bytes) : Except Damage (Option Hit) := do
  if maxKey < key.length then return none
  let head := c.bucket key
  let first ← Arena.word c.arena head
  c.search now key (maxChain + 1) head first

/-! ## Making room -/

/-- Gives up the oldest entry. It is the last of its chain, so its link is the offset of the entry
or bucket link before it, which then becomes the last. When no older entries are left, the space
they took is free up to the end of the arena. -/
def evictOldest : Cache → Except Damage Cache
  | ⟨arena, heads, writer, oldest, unused, hashKey, motion⟩ => do
    let before ← Arena.word arena oldest
    let link ← Arena.word arena before
    -- Taking the offset out of its neighbour's link makes that neighbour the end of the chain.
    let arena ← Arena.setWord arena before (link ^^^ oldest)
    let keyLength ← Arena.word arena (oldest + 4)
    let dataLength ← Arena.word arena (oldest + 8)
    let next := oldest + (keyLength + dataLength + entryHeader)
    if unused < next then throw ⟨next⟩
    else if next = unused then
      let size := arena.size
      return ⟨arena, heads, writer, size, size, hashKey, motion⟩
    else return ⟨arena, heads, writer, next, unused, hashKey, motion⟩

/-- Turns round: the entries written so far become the older ones and writing starts again behind
the bucket links. -/
def turn (c : Cache) : Cache :=
  { c with unused := c.writer, oldest := c.heads, writer := c.heads }

/-- What giving up the oldest entry leaves alone, and that it shrinks the older part. -/
theorem evictOldest_ok {c c' : Cache} (h : c.evictOldest = .ok c') :
    c'.writer = c.writer ∧ c'.heads = c.heads ∧ c'.hashKey = c.hashKey ∧ c'.motion = c.motion ∧
      c.oldest < c.unused ∧ c'.unused - c'.oldest < c.unused - c.oldest := by
  obtain ⟨arena, heads, writer, oldest, unused, hashKey, motion⟩ := c
  simp only [evictOldest, bind, Except.bind, throw, throwThe, MonadExceptOf.throw, pure,
    Except.pure, entryHeader] at h
  split at h <;> try contradiction
  split at h <;> try contradiction
  split at h <;> try contradiction
  split at h <;> try contradiction
  split at h <;> try contradiction
  rename_i keyLength _ _ dataLength _
  by_cases hpast : unused < oldest + (keyLength + dataLength + 20)
  · simp [hpast] at h
  · by_cases hend : oldest + (keyLength + dataLength + 20) = unused
    · simp [hend] at h
      subst h
      simp only [true_and]
      omega
    · simp [hpast, hend] at h
      subst h
      simp only [true_and]
      omega

/-- Makes room for an entry of `length` bytes in front of the older entries, giving up as many of
them as it takes and turning round when the end of the arena is reached. The flag says whether the
entry fits; it does not when even an empty arena is too small for it. -/
def makeRoom (c : Cache) (length : Nat) : Except Damage (Bool × Cache) :=
  if c.writer + length ≤ c.oldest then .ok (true, c)
  else if c.oldest = c.unused then
    -- Nothing is left to give up: the entry is larger than the whole space for entries.
    if c.writer ≤ c.heads then .ok (false, c)
    else
      match _h : c.turn.evictOldest with
      | .error e => .error e
      | .ok c' => c'.makeRoom length
  else
    match _h : c.evictOldest with
    | .error e => .error e
    | .ok c' => c'.makeRoom length
termination_by (c.writer - c.heads, c.unused - c.oldest)
decreasing_by
  · obtain ⟨hw, hh, -⟩ := evictOldest_ok _h
    refine Prod.Lex.left _ _ ?_
    simp only [hw, hh, turn]
    omega
  · obtain ⟨hw, hh, -, -, -, hlt⟩ := evictOldest_ok _h
    rw [hw, hh]
    exact Prod.Lex.right _ hlt

/-! ## Storing -/

/-- The bytes of an entry at offset `pos` of the chain with bucket link `head`, whose newest entry
is at `first`. -/
def entryBytes (head first : Nat) (expiry : Tai64) (key data : Bytes) : Bytes :=
  toLittleEndian 4 (first ^^^ head) ++ (toLittleEndian 4 key.length ++
    (toLittleEndian 4 data.length ++ (expiry.pack ++ (key ++ data))))

/-- Writes an entry where there is room for it and puts it in front of its chain. -/
def push (c : Cache) (expiry : Tai64) (key data : Bytes) : Except Damage Cache := do
  let head := c.bucket key
  let length := key.length + data.length + entryHeader
  let ⟨arena, heads, writer, oldest, unused, hashKey, motion⟩ := c
  let first ← Arena.word arena head
  let link ← if first = 0 then pure 0 else Arena.word arena first
  -- The entry that was the newest had the bucket link for a neighbour; now it has the new entry.
  let arena ← if first = 0 then pure arena else Arena.setWord arena first (link ^^^ head ^^^ writer)
  let arena ← Arena.write arena writer (entryBytes head first expiry key data)
  let arena ← Arena.setWord arena head writer
  return ⟨arena, heads, writer + length, oldest, unused, hashKey, motion + UInt64.ofNat length⟩

/-- Stores data under a key for `ttl` seconds from `now`, at most seven days. Too long a key, too
much data or a zero time to live is ignored. -/
def set (c : Cache) (now : Tai64) (key data : Bytes) (ttl : Nat) : Except Damage Cache := do
  if maxKey < key.length ∨ maxData < data.length ∨ ttl = 0 then return c
  let (fits, c) ← c.makeRoom (key.length + data.length + entryHeader)
  if fits then c.push (now.add (min ttl maxTtl)) key data else return c

end Cache

end Resolver
