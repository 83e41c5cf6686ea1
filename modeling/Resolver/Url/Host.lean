import Resolver.Net.Address6
import Resolver.Text.International
import Resolver.Url.Escape

/-!
# Hosts

The host in the address of a document: a domain, or an address of the network in one of several
forms. Schemes that are known have domains that can be looked up; the host of another scheme is any
text.
-/

namespace Resolver.Url

/-- A host. -/
inductive Host
  | domain (name : String)
  | ipv4 (ip : Ipv4)
  | ipv6 (ip : Ipv6)
  deriving DecidableEq, Repr

namespace Host

/-- The host that is none. -/
def empty : Host := .domain ""

/-- The text of a host. -/
def toText : Host → String
  | domain name => name
  | ipv4 ip => ip.toDotted
  | ipv6 ip => "[" ++ ip.toGroupText ++ "]"

/-- Whether a character stands in no host. -/
def isForbidden (c : Char) : Bool :=
  c ∈ ['\x00', '\t', '\n', '\x0d', ' ', '#', '/', ':', '<', '>', '?', '@', '[', '\\', ']', '^',
    '|']

/-- Whether an ASCII character stands in no domain. -/
def isForbiddenInDomain (c : Char) : Bool :=
  isForbidden c || c.toNat < 0x20 || c == '%' || c.toNat == 0x7F

/-! ## Numbers as addresses -/

/-- The digits and the base of a number: hexadecimal behind `0x`, octal behind a zero. -/
def numeralOf : List Char → List Char × Nat
  | '0' :: 'x' :: digits | '0' :: 'X' :: digits => (digits, 16)
  | '0' :: c :: digits => (c :: digits, 8)
  | digits => (digits, 10)

/-- A number in a host. No digits behind a mark of the base are zero. -/
def number? (text : List Char) : Option Nat := do
  let (digits, base) := numeralOf text
  let values ← digits.mapM Ipv6.hexDigit?
  if text = [] ∨ values.any (base ≤ ·) then none
  else return values.foldl (fun n d => base * n + d) 0

/-- The parts of a domain; a dot at its end does not count. -/
def partsOf (name : List Char) : List (List Char) :=
  let parts := Pieces.split '.' name
  if 1 < parts.length ∧ parts.getLast? = some [] then parts.dropLast else parts

/-- Whether a domain must be an address: its last part is a number, or digits at least. -/
def endsInNumber (name : List Char) : Bool :=
  match (partsOf name).getLast? with
  | some last => (last ≠ [] ∧ last.all Char.isDigit) || (number? last).isSome
  | none => false

/-- The address of a domain of up to four numbers. Each but the last is a byte, and the last holds
all bytes that are left. -/
def address? (name : List Char) : Option Ipv4 := do
  let numbers ← (partsOf name).mapM number?
  let last := numbers.getLastD 0
  let bytes := numbers.dropLast
  if 4 < numbers.length ∨ bytes.any (255 < ·) ∨ Nat.pow 256 (4 - bytes.length) ≤ last then none
  else
    match bytes.map UInt8.ofNat ++ toBigEndian (4 - bytes.length) last with
    | [a, b, c, d] => some ⟨a, b, c, d⟩
    | _ => none

/-! ## Reading -/

/-- An address in brackets; none if the text does not start with one. -/
def bracketed? (text : List Char) : Option (Option Host) :=
  match text with
  | '[' :: rest =>
    if rest.getLast? = some ']' then some ((Ipv6.ofText? rest.dropLast).map .ipv6) else some none
  | _ => none

/-- The host of a scheme that is known. -/
def ofText? (text : List Char) : Option Host :=
  match bracketed? text with
  | some host => host
  | none => do
    let decoded ← (Utf8.decode? (unescape (String.ofList text))).toOption
    let name ← International.toAscii? isForbiddenInDomain decoded
    if name = "" then none
    else if endsInNumber name.toList then (address? name.toList).map .ipv4
    else return .domain name

/-- The host of another scheme. -/
def ofPlainText? (text : List Char) : Option Host :=
  match bracketed? text with
  | some host => host
  | none =>
    if text.any isForbidden then none
    else some (.domain (String.ofList (escape isEscaped text)))

end Host

end Resolver.Url
