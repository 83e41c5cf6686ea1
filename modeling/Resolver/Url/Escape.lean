import Resolver.Text.Utf8

/-!
# Escapes in addresses of documents

Characters that must not stand in a part of such an address are written as their bytes, each as a
percent sign and two hexadecimal digits. Which characters these are depends on the part.
-/

namespace Resolver.Url

/-! ## What is escaped -/

/-- Whether a character is escaped everywhere: a control character, or none of ASCII. -/
def isEscaped (c : Char) : Bool :=
  c.toNat < 0x20 || 0x7F ≤ c.toNat

/-- Whether a character is escaped in fragments. -/
def isEscapedInFragment (c : Char) : Bool :=
  isEscaped c || c ∈ [' ', '"', '<', '>', '\x60']

/-- Whether a character is escaped in paths. -/
def isEscapedInPath (c : Char) : Bool :=
  isEscapedInFragment c || c ∈ ['#', '?', '\x7b', '\x7d']

/-- Whether a character is escaped in names and passwords of users. -/
def isEscapedInUser (c : Char) : Bool :=
  isEscapedInPath c || c ∈ ['/', ':', ';', '=', '@', '[', '\\', ']', '^', '|']

/-- Whether a character is escaped in queries. -/
def isEscapedInQuery (c : Char) : Bool :=
  isEscaped c || c ∈ [' ', '"', '#', '<', '>']

/-! ## Escapes -/

/-- The hexadecimal digit of a number below 16, in capitals. -/
def escapeDigit (n : Nat) : Char :=
  Char.ofNat (if n < 10 then 48 + n else 55 + n)

/-- A byte as an escape. -/
def escapeByte (b : UInt8) : List Char :=
  ['%', escapeDigit (b.toNat / 16), escapeDigit (b.toNat % 16)]

/-- A text in which the characters that satisfy a test are escaped. -/
def escape (test : Char → Bool) (text : List Char) : List Char :=
  text.flatMap fun c =>
    if test c then (Utf8.encode (String.singleton c)).flatMap escapeByte else [c]

/-- The value of a hexadecimal digit. -/
def escapeValue? (b : UInt8) : Option Nat :=
  if 48 ≤ b ∧ b ≤ 57 then some (b.toNat - 48)
  else if 65 ≤ b ∧ b ≤ 70 then some (b.toNat - 55)
  else if 97 ≤ b ∧ b ≤ 102 then some (b.toNat - 87)
  else none

/-- The bytes of a text in which bytes may be escaped, behind the bytes `seen` (last first). A
percent sign without two digits stands for itself. -/
def unescapeFrom (seen : Bytes) : Bytes → Bytes
  | 37 :: a :: b :: rest =>
    match escapeValue? a, escapeValue? b with
    | some high, some low => unescapeFrom (UInt8.ofNat (16 * high + low) :: seen) rest
    | _, _ => unescapeFrom (37 :: seen) (a :: b :: rest)
  | x :: rest => unescapeFrom (x :: seen) rest
  | [] => seen.reverse

/-- The bytes of a text in which bytes may be escaped. -/
def unescape (text : String) : Bytes :=
  unescapeFrom [] (Utf8.encode text)

end Resolver.Url
