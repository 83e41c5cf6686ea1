/-!
# Punycode

Text as ASCII letters and digits: the ASCII characters of the text, a hyphen, and digits in base 36
that say which other characters are to be put in and where. They are numbers of variable length,
each the distance to the next place in the order of characters and, for one character, of positions.
How long a number is depends on a bias that follows the distances before it.
-/

namespace Resolver.Punycode

/-! ## Digits and numbers -/

/-- The number of digits. -/
def base : Nat := 36

/-- The first character that is not ASCII. -/
def firstCode : Nat := 128

/-- The greatest character. -/
def lastCode : Nat := 0x10FFFF

/-- The bias of the first number. -/
def firstBias : Nat := 72

/-- The value of a digit: letters of either case, then the decimal digits. -/
def digit? (c : Char) : Option Nat :=
  if 'a' ≤ c ∧ c ≤ 'z' then some (c.toNat - 97)
  else if 'A' ≤ c ∧ c ≤ 'Z' then some (c.toNat - 65)
  else if '0' ≤ c ∧ c ≤ '9' then some (c.toNat - 22)
  else none

/-- The digit of a value below the base. -/
def digitOf (d : Nat) : Char :=
  if d < 26 then Char.ofNat (97 + d) else Char.ofNat (22 + d)

/-- How far a distance is scaled down, and what is left of it. -/
def settle (delta : Nat) : Nat :=
  if delta ≤ 455 then base * delta / (delta + 38)
  else base + settle (delta / 35)
termination_by delta

/-- The bias for the next number after a distance, when so many characters are in place. -/
def adapt (delta count : Nat) (first : Bool) : Nat :=
  let delta := if first then delta / 700 else delta / 2
  settle (delta + delta / count)

/-- The threshold of a digit: one below it ends its number. -/
def threshold (place bias : Nat) : Nat :=
  max 1 (min 26 (place - bias))

theorem threshold_pos (place bias : Nat) : 1 ≤ threshold place bias :=
  Nat.le_max_left _ _

/-! ## Decoding -/

/-- Reads a number of variable length: the number and what follows it. -/
def number? (bias : Nat) : (place weight sum : Nat) → List Char → Option (Nat × List Char)
  | _, _, _, [] => none
  | place, weight, sum, c :: rest => do
    let d ← digit? c
    let sum := sum + d * weight
    let t := threshold place bias
    if d < t then some (sum, rest)
    else number? bias (place + base) (weight * (base - t)) sum rest

/-- Puts in the characters that the digits say, into those in place. `code` is the character and
`index` the position reached; `fuel` is at least the number of digits. -/
def insertAll : (fuel code index bias : Nat) → (chars digits : List Char) → Option (List Char)
  | _, _, _, _, chars, [] => some chars
  | 0, _, _, _, _, _ => none
  | fuel + 1, code, index, bias, chars, digits => do
    let (delta, rest) ← number? bias base 1 0 digits
    let count := chars.length + 1
    let place := index + delta
    let code := code + place / count
    let position := place % count
    if lastCode < code ∨ (0xD800 ≤ code ∧ code ≤ 0xDFFF) then none
    else
      let chars := chars.take position ++ Char.ofNat code :: chars.drop position
      insertAll fuel code (position + 1) (adapt delta count (index == 0)) chars rest

/-- An encoded text, taken apart at its last hyphen. A hyphen in front parts nothing. -/
def parts (encoded : List Char) : List Char × List Char :=
  let digits := (encoded.reverse.takeWhile (· ≠ '-')).reverse
  let plain := encoded.take (encoded.length - digits.length - 1)
  if plain = [] then ([], encoded) else (plain, digits)

/-- The text that an encoded text stands for. -/
def decode? (encoded : List Char) : Option (List Char) :=
  let (plain, digits) := parts encoded
  insertAll digits.length firstCode 0 firstBias plain digits

/-! ## Encoding -/

/-- The digits of a number from a place on. -/
def digits (bias place n : Nat) : List Char :=
  let t := threshold place bias
  if n < t then [digitOf n]
  else digitOf (t + (n - t) % (base - t)) :: digits bias (place + base) ((n - t) / (base - t))
termination_by n
decreasing_by
  have h₁ := threshold_pos place bias
  exact Nat.lt_of_le_of_lt (Nat.div_le_self _ _) (by omega)

/-- How far an encoding has come. -/
structure Encoder where
  /-- The digits so far, last first. -/
  written : List Char
  /-- The places gone over since the last number. -/
  delta : Nat
  bias : Nat
  /-- The characters in place. -/
  count : Nat

/-- Goes over a character of the text, for the places of the character `code`. -/
def Encoder.pass (plain code : Nat) (e : Encoder) (c : Char) : Encoder :=
  if c.toNat < code then { e with delta := e.delta + 1 }
  else if c.toNat = code then
    ⟨(digits e.bias base e.delta).reverse ++ e.written, 0,
      adapt e.delta (e.count + 1) (e.count == plain), e.count + 1⟩
  else e

/-- Writes the places of characters, given in ascending order from `next` on. -/
def Encoder.run (text : List Char) (plain : Nat) : (next : Nat) → List Nat → Encoder → Encoder
  | _, [], e => e
  | next, code :: codes, e =>
    let e := { e with delta := e.delta + (code - next) * (e.count + 1) }
    let e := text.foldl (Encoder.pass plain code) e
    run text plain (code + 1) codes { e with delta := e.delta + 1 }

/-- The characters of a text that are not ASCII, in ascending order, each once. -/
def codesOf (text : List Char) : List Nat :=
  let codes := (text.filter fun c => firstCode ≤ c.toNat).map Char.toNat
  (codes.mergeSort fun a b => a ≤ b).eraseReps

/-- A text in encoded form. -/
def encode (text : List Char) : List Char :=
  let plain := text.filter fun c => c.toNat < firstCode
  let e := Encoder.run text plain.length firstCode (codesOf text) ⟨[], 0, firstBias, plain.length⟩
  plain ++ (if plain = [] then [] else ['-']) ++ e.written.reverse

end Resolver.Punycode
