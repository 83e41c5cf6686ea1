import Resolver.Bytes
import Resolver.Text.Pieces

/-!
# Network addresses

The four bytes of an IPv4 address and their dotted decimal form.
-/

namespace Resolver

/-- An IPv4 address. -/
structure Ipv4 where
  a : UInt8
  b : UInt8
  c : UInt8
  d : UInt8
  deriving DecidableEq, Repr

namespace Ipv4

/-- The address that stands for none, 0.0.0.0. -/
def unspecified : Ipv4 := ⟨0, 0, 0, 0⟩

/-- The host itself, 127.0.0.1. -/
def localhost : Ipv4 := ⟨127, 0, 0, 1⟩

/-- The four bytes in network order. -/
def octets (ip : Ipv4) : Bytes :=
  [ip.a, ip.b, ip.c, ip.d]

/-- The addresses that consecutive groups of four bytes stand for. -/
def groups : Bytes → List Ipv4
  | a :: b :: c :: d :: rest => ⟨a, b, c, d⟩ :: groups rest
  | _ => []

/-- Whether this address stays on the host. -/
def isLoopback (ip : Ipv4) : Bool :=
  ip.a == 127

/-- The dotted decimal form. -/
def toDotted (ip : Ipv4) : String :=
  s!"{ip.a.toNat}.{ip.b.toNat}.{ip.c.toNat}.{ip.d.toNat}"

/-- The number that decimal digits stand for; none if there is another character among them. -/
def decimal? (digits : List Char) : Option Nat :=
  digits.foldl (fun n c => match n with
    | some n => if c.isDigit then some (10 * n + (c.toNat - 48)) else none
    | none => none) (some 0)

/-- A part of a dotted address: one to three digits without a leading zero, at most 255. -/
def part? (digits : List Char) : Option UInt8 :=
  if digits = [] ∨ 3 < digits.length then none
  else if digits.head? = some '0' ∧ digits.length ≠ 1 then none
  else match decimal? digits with
    | some n => if n ≤ 255 then some (UInt8.ofNat n) else none
    | none => none

/-- The address with a given dotted decimal form: exactly four parts. -/
def ofDotted? (text : String) : Option Ipv4 :=
  match Pieces.split '.' text.toList with
  | [a, b, c, d] => do return ⟨← part? a, ← part? b, ← part? c, ← part? d⟩
  | _ => none

end Ipv4

end Resolver
