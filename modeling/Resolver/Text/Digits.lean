import Resolver.Bytes

/-!
# Bytes as digits

Byte strings written in hexadecimal and in base 64.
-/

namespace Resolver.Digits

/-- The hexadecimal digit of a number below 16, in lower case. -/
def hexDigit (n : Nat) : Char :=
  Char.ofNat (if n < 10 then 48 + n else 87 + n)

/-- Two hexadecimal digits a byte. -/
def hex (bytes : Bytes) : String :=
  String.ofList (bytes.flatMap fun b => [hexDigit (b.toNat / 16), hexDigit (b.toNat % 16)])

/-- The base 64 digit of a number below 64. -/
def base64Digit (n : Nat) : Char :=
  if n < 26 then Char.ofNat (65 + n)
  else if n < 52 then Char.ofNat (71 + n)
  else if n < 62 then Char.ofNat (n - 4)
  else if n = 62 then '+' else '/'

/-- Four base 64 digits for each three bytes; the last group is filled up with `=`. -/
def base64Digits : Bytes → List Char
  | a :: b :: c :: rest =>
    let n := bigEndian [a, b, c]
    base64Digit (n / 262144) :: base64Digit (n / 4096 % 64) :: base64Digit (n / 64 % 64) ::
      base64Digit (n % 64) :: base64Digits rest
  | [a, b] =>
    let n := bigEndian [a, b, 0]
    [base64Digit (n / 262144), base64Digit (n / 4096 % 64), base64Digit (n / 64 % 64), '=']
  | [a] =>
    let n := bigEndian [a, 0, 0]
    [base64Digit (n / 262144), base64Digit (n / 4096 % 64), '=', '=']
  | [] => []

/-- A byte string in base 64. -/
def base64 (bytes : Bytes) : String :=
  String.ofList (base64Digits bytes)

end Resolver.Digits
