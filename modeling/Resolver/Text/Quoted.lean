import Resolver.Text.Hidden

/-!
# Quoted text

Text between double quotes, for descriptions of what was found. Quotes, backslashes and characters
that would not show are written as escapes.
-/

namespace Resolver.Quoted

/-- The number of a character in hexadecimal between braces. -/
def byNumber (c : Char) : List Char :=
  "\\u\x7b".toList ++ (Nat.toDigits 16 c.toNat ++ ['}'])

/-- A character as it is written between quotes. -/
def encodeChar (c : Char) : List Char :=
  if c = '"' then ['\\', '"']
  else if c = '\\' then ['\\', '\\']
  else if c = '\n' then ['\\', 'n']
  else if c = '\r' then ['\\', 'r']
  else if c = '\t' then ['\\', 't']
  else if c.toNat = 0 then ['\\', '0']
  else if Hidden.isHidden c then byNumber c
  else [c]

/-- A text between quotes. -/
def encode (text : String) : String :=
  String.ofList ('"' :: (text.toList.flatMap encodeChar ++ ['"']))

end Resolver.Quoted
