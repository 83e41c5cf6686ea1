import Resolver.Decimal.Shortest
import Resolver.Text.Utf8

/-!
# JSON text, read strictly from left to right

The pieces of JSON as a reader meets them: blanks, literals, numbers and strings. The first problem
met ends the reading; it is reported with the offset it was met at, from which line and column are
counted. The text is known to be valid UTF-8.
-/

namespace Resolver.Json

/-- What is wrong with a text. -/
inductive Problem
  | endInList
  | endInObject
  | endInString
  | endInValue
  | expectedColon
  | expectedListEnd
  | expectedObjectEnd
  | expectedLiteral
  | expectedValue
  | invalidEscape
  | invalidNumber
  | numberOutOfRange
  | controlCharacter
  | keyNotString
  | loneSurrogate
  | trailingComma
  | trailingCharacters
  | unfinishedSurrogates
  /-- The text is well formed but not what is wanted. -/
  | unwanted (description : String)
  deriving DecidableEq, Repr

/-- The kinds of problems. -/
inductive Category
  /-- The text is not JSON. -/
  | syntactic
  /-- The text says something that is not wanted. -/
  | unwanted
  /-- The text ends too soon. -/
  | unfinished
  deriving DecidableEq, Repr

namespace Problem

/-- The kind of a problem. -/
def category : Problem → Category
  | endInList | endInObject | endInString | endInValue => .unfinished
  | unwanted _ => .unwanted
  | _ => .syntactic

/-- The wording of a problem. -/
def message : Problem → String
  | endInList => "EOF while parsing a list"
  | endInObject => "EOF while parsing an object"
  | endInString => "EOF while parsing a string"
  | endInValue => "EOF while parsing a value"
  | expectedColon => "expected \x60:\x60"
  | expectedListEnd => "expected \x60,\x60 or \x60]\x60"
  | expectedObjectEnd => "expected \x60,\x60 or \x60\x7d\x60"
  | expectedLiteral => "expected ident"
  | expectedValue => "expected value"
  | invalidEscape => "invalid escape"
  | invalidNumber => "invalid number"
  | numberOutOfRange => "number out of range"
  | controlCharacter => "control character (\\u0000-\\u001F) found while parsing a string"
  | keyNotString => "key must be a string"
  | loneSurrogate => "lone leading surrogate in hex escape"
  | trailingComma => "trailing comma"
  | trailingCharacters => "trailing characters"
  | unfinishedSurrogates => "unexpected end of hex escape"
  | unwanted description => description

end Problem

/-- A problem and how many bytes were read when it was met. -/
structure Fault where
  problem : Problem
  offset : Nat
  deriving DecidableEq, Repr

/-- The wording of a fault in a text, with its line and column. -/
def Fault.message (text : Bytes) (f : Fault) : String :=
  let seen := text.take f.offset
  let line := 1 + seen.count 10
  let column := (seen.reverse.takeWhile (· ≠ 10)).length
  s!"{f.problem.message} at line {line} column {column}"

/-- A place in a text. -/
structure Cursor where
  /-- What is left. -/
  rest : Bytes
  /-- How many bytes were read. -/
  offset : Nat
  deriving DecidableEq, Repr

/-- A reader takes a value off the front of a text. -/
abbrev Reader (α : Type) := Cursor → Except Fault (α × Cursor)

namespace Cursor

/-- The start of a text. -/
def start (text : Bytes) : Cursor := ⟨text, 0⟩

/-- The place after the next byte. -/
def next (c : Cursor) : Cursor :=
  match c.rest with
  | [] => c
  | _ :: rest => ⟨rest, c.offset + 1⟩

/-- The place so many bytes on. -/
def advance (c : Cursor) (n : Nat) : Cursor :=
  ⟨c.rest.drop n, c.offset + n⟩

/-- The place that a reader reached from here, which is never behind this one. -/
def upTo (c after : Cursor) : Cursor :=
  c.advance (after.offset - c.offset)

/-- Going over a byte makes the rest shorter. -/
theorem length_next (c : Cursor) {b : UInt8} {rest : Bytes} (h : c.rest = b :: rest) :
    c.next.rest.length < c.rest.length := by
  rw [next, h]
  exact Nat.lt_succ_self rest.length

/-- Going on makes the rest no longer. -/
theorem length_upTo (c after : Cursor) : (c.upTo after).rest.length ≤ c.rest.length := by
  rw [upTo, advance, List.length_drop]
  exact Nat.sub_le _ _

/-- The next byte, zero at the end. -/
def peek (c : Cursor) : UInt8 :=
  c.rest.headD 0

/-- A problem with what was read. -/
def fault (c : Cursor) (p : Problem) : Except Fault α :=
  .error ⟨p, c.offset⟩

/-- A problem with the next byte. -/
def faultNext (c : Cursor) (p : Problem) : Except Fault α :=
  .error ⟨p, c.next.offset⟩

/-- Goes over the bytes in front that satisfy a test. -/
def skipWhile (test : UInt8 → Bool) : Bytes → Nat → Cursor
  | [], n => ⟨[], n⟩
  | b :: rest, n => if test b then skipWhile test rest (n + 1) else ⟨b :: rest, n⟩

/-- Whether a byte is blank. -/
def isBlank (b : UInt8) : Bool :=
  b == 32 || b == 10 || b == 9 || b == 13

/-- Whether a byte is a decimal digit. -/
def isDigit (b : UInt8) : Bool :=
  48 ≤ b && b ≤ 57

/-- Goes over blanks. -/
def skipBlanks (c : Cursor) : Cursor :=
  skipWhile isBlank c.rest c.offset

/-- Goes over digits. -/
def skipDigits (c : Cursor) : Cursor :=
  skipWhile isDigit c.rest c.offset

end Cursor

/-- Reads the rest of a literal. -/
def literal : Bytes → Reader Unit
  | [], c => .ok ((), c)
  | b :: more, c =>
    match c.rest with
    | [] => c.fault .endInValue
    | x :: _ => if x = b then literal more c.next else c.next.fault .expectedLiteral

/-- The letters of `null` after the first. -/
def nullTail : Bytes := [117, 108, 108]

/-- The letters of `true` after the first. -/
def trueTail : Bytes := [114, 117, 101]

/-- The letters of `false` after the first. -/
def falseTail : Bytes := [97, 108, 115, 101]

/-! ## Numbers -/

/-- A number as it is written. -/
inductive Number
  /-- A natural number below `2 ^ 64`. -/
  | natural (n : Nat)
  /-- The negative of a positive number up to `2 ^ 63`. -/
  | negative (n : Nat)
  /-- Any other. -/
  | float (negative : Bool) (x : Binary64)
  deriving DecidableEq, Repr

/-- The floating-point number `significand * 10 ^ exponent`. -/
def float (negative : Bool) (significand : Nat) (exponent : Int) : Reader Number := fun c =>
  match Binary64.ofDecimal? significand exponent with
  | some x => .ok (.float negative x, c)
  | none => c.fault .numberOutOfRange

/-- The greatest number of an exponent. -/
def maxExponent : Nat := 0x7FFFFFFF

/-- Takes the digits of an exponent that stays below the greatest; the flag says that it does
not. -/
def exponentDigits : Bytes → Nat → Nat → Nat × Bool × Cursor
  | [], n, offset => (n, false, ⟨[], offset⟩)
  | b :: rest, n, offset =>
    if Cursor.isDigit b then
      let n' := 10 * n + (b.toNat - 48)
      if maxExponent < n' then (n, true, ⟨rest, offset + 1⟩)
      else exponentDigits rest n' (offset + 1)
    else (n, false, ⟨b :: rest, offset⟩)

/-- Reads an exponent from its `e` on. -/
def exponentPart (negative : Bool) (significand : Nat) (scale : Int) : Reader Number := fun c =>
  let c := c.next
  let down := c.peek == 45
  let c := if c.peek = 43 ∨ c.peek = 45 then c.next else c
  match c.rest with
  | [] => c.fault .endInValue
  | b :: _ =>
    if Cursor.isDigit b then
      let (n, tooGreat, c) := exponentDigits c.rest 0 c.offset
      if tooGreat then
        if significand ≠ 0 ∧ down = false then c.fault .numberOutOfRange
        else .ok (.float negative .zero, c.skipDigits)
      else float negative significand (if down then scale - n else scale + n) c
    else c.next.fault .invalidNumber

/-- Takes digits into a number that stays below `2 ^ 64`, counting them; stops before a digit that
would take it further. -/
def digitsInto : Bytes → Nat → Nat → Nat → Nat × Nat × Cursor
  | [], n, count, offset => (n, count, ⟨[], offset⟩)
  | b :: rest, n, count, offset =>
    if Cursor.isDigit b && 10 * n + (b.toNat - 48) ≤ maxWord64 then
      digitsInto rest (10 * n + (b.toNat - 48)) (count + 1) (offset + 1)
    else (n, count, ⟨b :: rest, offset⟩)

/-- Reads a fraction from its point on. -/
def fractionPart (negative : Bool) (significand : Nat) (scale : Int) : Reader Number := fun c =>
  let c := c.next
  let (n, count, c) := digitsInto c.rest significand 0 c.offset
  if count = 0 ∧ Cursor.isDigit c.peek = false then
    if c.rest = [] then c.faultNext .endInValue else c.faultNext .invalidNumber
  else
    let c := c.skipDigits
    if c.peek = 101 ∨ c.peek = 69 then exponentPart negative n (scale - count) c
    else float negative n (scale - count) c

/-- The whole number read, or what its fraction or exponent makes of it. -/
def numberTail (negative : Bool) (significand : Nat) (scale : Int) : Reader Number := fun c =>
  if c.peek = 46 then fractionPart negative significand scale c
  else if c.peek = 101 ∨ c.peek = 69 then exponentPart negative significand scale c
  else if scale ≠ 0 then float negative significand scale c
  else if negative = false then .ok (.natural significand, c)
  else if 0 < significand ∧ significand ≤ 0x8000000000000000 then .ok (.negative significand, c)
  else float true significand 0 c

/-- Reads a number after its sign. -/
def number (negative : Bool) : Reader Number := fun c =>
  match c.rest with
  | [] => c.fault .endInValue
  | b :: _ =>
    if b = 48 then
      if Cursor.isDigit c.next.peek then c.next.faultNext .invalidNumber
      else numberTail negative 0 0 c.next
    else if Cursor.isDigit b then
      let (n, _, c) := digitsInto c.rest 0 0 c.offset
      let past := c.skipDigits
      numberTail negative n (past.offset - c.offset) past
    else c.next.fault .invalidNumber

/-- Goes over an exponent from its `e` on. -/
def skipExponent (c : Cursor) : Except Fault Cursor :=
  let c := c.next
  let c := if c.peek = 43 ∨ c.peek = 45 then c.next else c
  if Cursor.isDigit c.peek then .ok c.skipDigits else c.next.fault .invalidNumber

/-- Goes over a number after its sign. -/
def skipNumber (c : Cursor) : Except Fault Cursor :=
  if c.peek = 48 ∧ Cursor.isDigit c.next.peek then c.next.faultNext .invalidNumber
  else if Cursor.isDigit c.peek = false then c.next.fault .invalidNumber
  else
    let c := if c.peek = 48 then c.next else c.skipDigits
    if c.peek = 46 then
      let c := c.next
      if Cursor.isDigit c.peek = false then c.faultNext .invalidNumber
      else
        let c := c.skipDigits
        if c.peek = 101 ∨ c.peek = 69 then skipExponent c else .ok c
    else if c.peek = 101 ∨ c.peek = 69 then skipExponent c
    else .ok c

/-! ## Strings -/

/-- The value of a hexadecimal digit. -/
def hexDigit? (b : UInt8) : Option Nat :=
  if Cursor.isDigit b then some (b.toNat - 48)
  else if 97 ≤ b ∧ b ≤ 102 then some (b.toNat - 87)
  else if 65 ≤ b ∧ b ≤ 70 then some (b.toNat - 55)
  else none

/-- Reads four hexadecimal digits. -/
def fourHex : Reader Nat := fun c =>
  match c.rest with
  | h3 :: h2 :: h1 :: h0 :: rest =>
    let c : Cursor := ⟨rest, c.offset + 4⟩
    match hexDigit? h3, hexDigit? h2, hexDigit? h1, hexDigit? h0 with
    | some d3, some d2, some d1, some d0 => .ok (((d3 * 16 + d2) * 16 + d1) * 16 + d0, c)
    | _, _, _, _ => c.fault .invalidEscape
  | rest => Cursor.fault ⟨[], c.offset + rest.length⟩ .endInString

/-- Whether a number is the first of a pair of surrogates. -/
def isLeading (n : Nat) : Bool := 0xD800 ≤ n && n ≤ 0xDBFF

/-- Whether a number is the second of a pair of surrogates. -/
def isTrailing (n : Nat) : Bool := 0xDC00 ≤ n && n ≤ 0xDFFF

/-- Reads one given byte between surrogates. -/
def between (b : UInt8) : Reader Unit := fun c =>
  match c.rest with
  | [] => c.fault .endInString
  | x :: _ => if x = b then .ok ((), c.next) else c.next.fault .unfinishedSurrogates

/-- Reads an escape of hexadecimal digits after its `u`; two of them may make one character. -/
def unicodeEscape : Reader Char := fun c => do
  let (n, c) ← fourHex c
  if isTrailing n then c.fault .loneSurrogate
  else if isLeading n then
    let ((), c) ← between 92 c
    let ((), c) ← between 117 c
    let (m, c) ← fourHex c
    if isTrailing m then
      return (Char.ofNat (0x10000 + (n - 0xD800) * 0x400 + (m - 0xDC00)), c)
    else c.fault .loneSurrogate
  else return (Char.ofNat n, c)

/-- The character that a letter after a backslash stands for. -/
def escaped? (b : UInt8) : Option UInt8 :=
  match b with
  | 34 => some 34
  | 92 => some 92
  | 47 => some 47
  | 98 => some 8
  | 102 => some 12
  | 110 => some 10
  | 114 => some 13
  | 116 => some 9
  | _ => none

/-- Reads an escape after its backslash. -/
def escape : Reader Bytes := fun c =>
  match c.rest with
  | [] => c.fault .endInString
  | b :: _ =>
    if b = 117 then do
      let (x, c) ← unicodeEscape c.next
      return (Utf8.encode (String.singleton x), c)
    else match escaped? b with
      | some x => .ok ([x], c.next)
      | none => c.next.fault .invalidEscape

/-- Reads a string after its opening quote, behind the bytes `seen` (last first). -/
def stringFrom (seen : Bytes) (c : Cursor) : Except Fault (Bytes × Cursor) :=
  match _h : c.rest with
  | [] => c.fault .endInString
  | b :: _ =>
    if b = 34 then .ok (seen.reverse, c.next)
    else if b = 92 then
      match escape c.next with
      | .ok (bytes, after) => stringFrom (bytes.reverse ++ seen) (c.next.upTo after)
      | .error e => .error e
    else if b < 32 then c.next.fault .controlCharacter
    else stringFrom (b :: seen) c.next
termination_by c.rest.length
decreasing_by
  · exact Nat.lt_of_le_of_lt (c.next.length_upTo after) (c.length_next _h)
  · exact c.length_next _h

/-- Reads a string after its opening quote. -/
def string : Reader String := fun c => do
  let (bytes, c) ← stringFrom [] c
  return (Utf8.decodeLossy bytes, c)

/-- Goes over an escape after its backslash. It need not make sense together with another. -/
def skipEscape (c : Cursor) : Except Fault Cursor :=
  match c.rest with
  | [] => c.fault .endInString
  | b :: _ =>
    if b = 117 then (fourHex c.next).map (·.2)
    else if (escaped? b).isSome then .ok c.next
    else c.next.fault .invalidEscape

/-- Goes over a string after its opening quote. -/
def skipString (c : Cursor) : Except Fault Cursor :=
  match _h : c.rest with
  | [] => c.fault .endInString
  | b :: _ =>
    if b = 34 then .ok c.next
    else if b = 92 then
      match skipEscape c.next with
      | .ok after => skipString (c.next.upTo after)
      | .error e => .error e
    else if b < 32 then c.fault .controlCharacter
    else skipString c.next
termination_by c.rest.length
decreasing_by
  · exact Nat.lt_of_le_of_lt (c.next.length_upTo after) (c.length_next _h)
  · exact c.length_next _h

/-! ## Values that do not matter -/

/-- A bracket that is still open. -/
inductive Bracket
  | list
  | object
  deriving DecidableEq, Repr

/-- What the end of the text inside a bracket is. -/
def Bracket.atEnd : Bracket → Problem
  | .list => .endInList
  | .object => .endInObject

/-- What is wrong when neither a comma nor the closing bracket follows an element. -/
def Bracket.expectedEnd : Bracket → Problem
  | .list => .expectedListEnd
  | .object => .expectedObjectEnd

/-- The byte that closes a bracket. -/
def Bracket.closer : Bracket → UInt8
  | .list => 93
  | .object => 125

/-- Goes over the key of an object's member and the colon behind it. -/
def skipKey (c : Cursor) : Except Fault Cursor := do
  let c := c.skipBlanks
  match c.rest with
  | [] => c.faultNext .endInObject
  | b :: _ =>
    if b ≠ 34 then c.faultNext .keyNotString
    else
      let c ← skipString c.next
      let c := c.skipBlanks
      match c.rest with
      | [] => c.faultNext .endInObject
      | x :: _ => if x = 58 then return c.next else c.faultNext .expectedColon

/-- Goes over a value that is neither list nor object, or over the bracket that opens one. -/
def skipScalar (c : Cursor) : Except Fault (Option Bracket × Cursor) :=
  match c.rest with
  | [] => c.faultNext .endInValue
  | b :: _ =>
    let plain := fun (r : Except Fault Cursor) => r.map fun c => (none, c)
    if b = 110 then plain ((literal nullTail c.next).map (·.2))
    else if b = 116 then plain ((literal trueTail c.next).map (·.2))
    else if b = 102 then plain ((literal falseTail c.next).map (·.2))
    else if b = 45 then plain (skipNumber c.next)
    else if Cursor.isDigit b then plain (skipNumber c)
    else if b = 34 then plain (skipString c.next)
    else if b = 91 then .ok (some .list, c.next)
    else if b = 123 then .ok (some .object, c.next)
    else c.faultNext .expectedValue

/-- After an element, or after an opening bracket (`fresh`): closes the brackets that end here and
goes to where the next element begins. The answer is the brackets still open; none open means that
the whole value was gone over. -/
def skipClosers : Bool → List Bracket → Cursor → Except Fault (List Bracket × Cursor)
  | _, [], c => .ok ([], c)
  | fresh, bracket :: outer, c =>
    let c := c.skipBlanks
    match c.rest with
    | [] => c.faultNext bracket.atEnd
    | b :: _ =>
      if b = 44 ∧ fresh = false then .ok (bracket :: outer, c.next)
      else if b = bracket.closer then skipClosers false outer c.next
      else if fresh then .ok (bracket :: outer, c)
      else c.faultNext bracket.expectedEnd

/-- Goes over the rest of a value inside the given brackets. There is fuel for one step a byte. -/
def skipInside : Nat → List Bracket → Cursor → Except Fault Cursor
  | 0, _, c => .ok c
  | fuel + 1, brackets, c => do
    let (opened, c) ← skipScalar c.skipBlanks
    let (brackets, c) ←
      skipClosers opened.isSome (opened.toList ++ brackets) c
    match brackets with
    | [] => return c
    | .list :: _ => skipInside fuel brackets c
    | .object :: _ => skipInside fuel brackets (← skipKey c)

/-- Goes over a value. There is fuel for one step a byte. -/
def skipValue (fuel : Nat) (c : Cursor) : Except Fault Cursor :=
  skipInside fuel [] c

end Resolver.Json
