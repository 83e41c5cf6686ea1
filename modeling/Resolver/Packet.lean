import Resolver.Name

/-!
# Reading messages

Enough of the message format to check a reply and to key and age a packet: the possibly compressed
name at a place, the one question of a reply, the header flags a client acts on, and the smallest
time to live among the answers.

A reader's place is what is left of the packet from there on. Positions are counted in bytes from
the front of the packet.
-/

namespace Resolver.Packet

/-- The length of a message header. -/
def headerLength : Nat := 12

/-- The class of Internet records. -/
def classInternet : UInt16 := 1

/-- The most compression pointers that are followed for one name. -/
def maxJumps : Nat := 100

/-! ## Names in messages -/

/-- The `len` bytes at `pos` and the position after them. -/
def copy? (packet : Bytes) (pos len : Nat) : Option (Bytes × Nat) :=
  if pos + len ≤ packet.length then some ((packet.drop pos).take len, pos + len) else none

/-- The name at `rest` in uncompressed wire form, when `used` bytes of it came before and `jumps`
more pointers may be followed. A first byte of 192 or more makes a pointer with a 14-bit target
counted from the front of the packet; one of 64 to 191 stands for nothing. -/
def expand (packet : Bytes) (jumps used : Nat) (rest : Bytes) : Option Bytes :=
  match rest with
  | [] => none
  | n :: tail =>
    if 192 ≤ n then
      match tail, jumps with
      | low :: _, left + 1 =>
        expand packet left used (packet.drop (n.toNat % 64 * 256 + low.toNat))
      | _, _ => none
    -- The first bytes 64 to 191 are reserved.
    else if 64 ≤ n then none
    else if n = 0 then some [0]
    else if (tail.take n.toNat).length < n.toNat then none
    -- The root label still needs a byte.
    else if Name.maxLength ≤ used + 1 + n.toNat then none
    else
      (expand packet jumps (used + 1 + n.toNat) (tail.drop n.toNat)).map
        (n :: tail.take n.toNat ++ ·)
termination_by (jumps, rest.length)
decreasing_by
  · exact Prod.Lex.left _ _ (Nat.lt_succ_self _)
  · refine Prod.Lex.right _ ?_
    simp only [List.length_drop, List.length_cons]
    omega

/-- What follows the encoded name at `rest`: the bytes behind its root label or behind the first
pointer. -/
def skipName (rest : Bytes) : Option Bytes :=
  match rest with
  | [] => none
  | n :: tail =>
    if 192 ≤ n then some (tail.drop 1)
    else if n = 0 then some tail
    else skipName (tail.drop n.toNat)
termination_by rest.length
decreasing_by simp only [List.length_drop, List.length_cons]; omega

/-- The name at `rest`, in uncompressed wire form, and what follows its encoding. -/
def takeName (packet rest : Bytes) : Option (Bytes × Bytes) := do
  let name ← expand packet maxJumps 0 rest
  let after ← skipName rest
  return (name, after)

/-- The name at position `pos`, in uncompressed wire form, and the position after its encoding. -/
def nameAt? (packet : Bytes) (pos : Nat) : Option (Bytes × Nat) :=
  (takeName packet (packet.drop pos)).map fun (name, after) =>
    (name, packet.length - after.length)

/-! ## Flags -/

/-- The response code in the low half of the fourth byte. -/
def responseCode? (packet : Bytes) : Option Nat :=
  (packet[3]?).map fun b => b.toNat % 16

/-- Whether a reply sends the client to a stream connection: its truncation bit is set, or it has
no whole header. -/
def wantsTcp (packet : Bytes) : Bool :=
  if packet.length < headerLength then true
  else match packet[2]? with
    | some flags => flags &&& 2 != 0
    | none => true

/-- Whether a reply reports a failure of the server: every response code but "no error" (0) and
"no such name" (3) does, and so does a reply without a whole header. -/
def serverFailed (packet : Bytes) : Bool :=
  if packet.length < headerLength then true
  else match responseCode? packet with
    | some 0 | some 3 => false
    | _ => true

/-! ## The question -/

/-- The question of a message that has exactly one. -/
structure Question where
  id : UInt16
  name : Bytes
  qtype : UInt16
  qclass : UInt16
  deriving DecidableEq, Repr

/-- The question of a message; `none` when its question count is not one or the question is not
whole. -/
def question? (packet : Bytes) : Option Question :=
  match packet with
  | id1 :: id0 :: _ :: _ :: count1 :: count0 :: _ :: _ :: _ :: _ :: _ :: _ :: body =>
    if count1 = 0 ∧ count0 = 1 then
      match takeName packet body with
      | some (name, t1 :: t0 :: c1 :: c0 :: _) =>
        some ⟨wordOf id1 id0, name, wordOf t1 t0, wordOf c1 c0⟩
      | _ => none
    else none
  | _ => none

/-- The key an answer is stored under: the record type and the lower-case name. -/
def cacheKey? (qtype : UInt16) (name : Bytes) : Option Bytes :=
  (Name.lower? name).map (wordBytes qtype ++ ·)

/-! ## Times to live -/

/-- What follows `count` questions at `rest`. A question cut off after its name leaves nothing. -/
def skipQuestions (packet : Bytes) : Nat → Bytes → Option Bytes
  | 0, rest => some rest
  | count + 1, rest => do
    let (_, after) ← takeName packet rest
    skipQuestions packet count (after.drop 4)

/-- The smaller of a time to live and the smallest before it, if there was one. -/
def lowerTtl (least : Option Nat) (ttl : Nat) : Nat :=
  match least with
  | some t => min t ttl
  | none => ttl

/-- The smallest time to live of `count` records at `rest` and of those before them. Each record is
a name, ten bytes of type, class, time to live and data length, and its data. -/
def leastTtl (packet : Bytes) : Nat → Option Nat → Bytes → Option Nat
  | 0, least, _ => least
  | count + 1, least, rest => do
    let (_, after) ← takeName packet rest
    match after with
    | _ :: _ :: _ :: _ :: t3 :: t2 :: t1 :: t0 :: l1 :: l0 :: body =>
      let size := bigEndian [l1, l0]
      if (body.take size).length < size then none
      else
        leastTtl packet count (some (lowerTtl least (bigEndian [t3, t2, t1, t0])))
          (body.drop size)
    | _ => none

/-- The smallest time to live among the answers of a message; `none` when there are none or the
message is not whole up to the end of its answers. -/
def minAnswerTtl? (packet : Bytes) : Option Nat :=
  match packet with
  | _ :: _ :: _ :: _ :: q1 :: q0 :: a1 :: a0 :: _ :: _ :: _ :: _ :: body => do
    let answers ← skipQuestions packet (bigEndian [q1, q0]) body
    leastTtl packet (bigEndian [a1, a0]) none answers
  | _ => none

end Resolver.Packet
