import Resolver.Text.Pieces

/-!
# Listings

Tables of characters that are written as text: items with blanks between them, which give
characters by their numbers in hexadecimal.
-/

namespace Resolver.Listing

/-- The value of a hexadecimal digit in capitals. -/
def digit (c : Char) : Nat :=
  if c ≤ '9' then c.toNat - 48 else c.toNat - 55

/-- The number that hexadecimal digits stand for. -/
def number (digits : List Char) : Nat :=
  digits.foldl (fun n c => 16 * n + digit c) 0

/-- The items of a listing. -/
def items (lines : List String) : List (List Char) :=
  lines.flatMap fun line => Pieces.split ' ' line.toList

example : number "1F4A9".toList = 0x1F4A9 := by decide +kernel

end Resolver.Listing
