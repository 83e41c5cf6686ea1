import Resolver.Net.Address

/-!
# IPv6 addresses

The text of an address of eight 16-bit groups, and reading it.
-/

namespace Resolver

/-- An IPv6 address, by its groups. -/
structure Ipv6 where
  groups : List UInt16
  deriving DecidableEq, Repr

namespace Ipv6

/-- A group in hexadecimal without leading zeros. -/
def groupText (g : UInt16) : String :=
  String.ofList (Nat.toDigits 16 g.toNat)

/-- Groups with colons between them. -/
def joined (groups : List UInt16) : String :=
  String.intercalate ":" (groups.map groupText)

/-- The number of zero groups in front. -/
def zerosAt (groups : List UInt16) : Nat :=
  (groups.takeWhile (· = 0)).length

/-- Where the first of the longest runs of zero groups starts, and its length. -/
def longestZeros (groups : List UInt16) : Nat × Nat :=
  (List.range groups.length).foldl
    (fun (best : Nat × Nat) i =>
      let n := zerosAt (groups.drop i)
      if best.2 < n then (i, n) else best)
    (0, 0)

/-- The text of an address in hexadecimal: the first longest run of two or more zero groups is left
out. -/
def toGroupText (ip : Ipv6) : String :=
  let (start, count) := longestZeros ip.groups
  if 1 < count then
    joined (ip.groups.take start) ++ "::" ++ joined (ip.groups.drop (start + count))
  else joined ip.groups

/-- The text of an address. One that stands for an IPv4 address ends in its dotted form. -/
def toText (ip : Ipv6) : String :=
  match ip.groups with
  | [0, 0, 0, 0, 0, 0xffff, high, low] =>
    let v4 : Ipv4 := ⟨UInt8.ofNat (high.toNat / 256), UInt8.ofNat high.toNat,
      UInt8.ofNat (low.toNat / 256), UInt8.ofNat low.toNat⟩
    "::ffff:" ++ v4.toDotted
  | _ => ip.toGroupText

/-! ## Reading -/

/-- The value of a hexadecimal digit. -/
def hexDigit? (c : Char) : Option Nat :=
  if '0' ≤ c ∧ c ≤ '9' then some (c.toNat - 48)
  else if 'a' ≤ c ∧ c ≤ 'f' then some (c.toNat - 87)
  else if 'A' ≤ c ∧ c ≤ 'F' then some (c.toNat - 55)
  else none

/-- A group: one to four hexadecimal digits. -/
def group? (text : List Char) : Option UInt16 := do
  let digits ← text.mapM hexDigit?
  if text = [] ∨ 4 < text.length then none
  else return UInt16.ofNat (digits.foldl (fun n d => 16 * n + d) 0)

/-- The two groups of an IPv4 address. -/
def groupsOf (ip : Ipv4) : List UInt16 :=
  [wordOf ip.a ip.b, wordOf ip.c ip.d]

/-- The groups of a text with colons between them. The last of them may be a dotted IPv4 address,
unless the text goes on (`more`). -/
def groups? (more : Bool) (text : List Char) : Option (List UInt16) :=
  if text = [] then some []
  else
    let pieces := Pieces.split ':' text
    match if more then none else Ipv4.ofDotted? (String.ofList (pieces.getLastD [])) with
    | some ip => do return (← pieces.dropLast.mapM group?) ++ groupsOf ip
    | none => pieces.mapM group?

/-- A text as it is before and behind the first two colons in a row. -/
def splitAtGap : (before text : List Char) → List Char × Option (List Char)
  | before, ':' :: ':' :: rest => (before.reverse, some rest)
  | before, c :: rest => splitAtGap (c :: before) rest
  | before, [] => (before.reverse, none)

/-- The address with a given text: eight groups, or fewer with two colons in a row for the zero
groups that are left out, of which there is at least one. -/
def ofText? (text : List Char) : Option Ipv6 := do
  match splitAtGap [] text with
  | (before, none) =>
    let groups ← groups? false before
    if groups.length = 8 then some ⟨groups⟩ else none
  | (before, some behind) =>
    let head ← groups? true before
    let tail ← groups? false behind
    let left := 8 - (head.length + tail.length)
    if left = 0 then none else some ⟨head ++ (List.replicate left 0 ++ tail)⟩

end Ipv6

end Resolver
