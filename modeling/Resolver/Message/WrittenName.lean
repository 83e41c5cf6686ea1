import Resolver.Message.Decoder
import Resolver.Text.Blank
import Resolver.Text.Numeral

/-!
# Names as they are written

A written name has dots between its labels. A dot at its end makes it whole. Behind a backslash
stands a character that is to be taken as it is, or three octal digits for its number.
-/

namespace Resolver.Message

/-- A name as it is written: something may follow one that is not whole. -/
structure WrittenName where
  labels : Labels
  isWhole : Bool
  deriving DecidableEq, Repr

namespace WrittenName

/-! ## Labels -/

/-- The longest label. -/
def maxLabel : Nat := 63

/-- Whether a character can stand in a label of a name that is looked up. -/
def isSafe (first : Bool) (c : Char) : Bool :=
  c.isAlphanum || c == '_' || c == '.' || (c == '-' && !first) || (c == '*' && first)

/-- A label that needs no encoding. -/
def safeLabel (text : List Char) : Except Flaw Bytes :=
  if text ≠ [] ∧ (text.take 1).all (isSafe true) ∧ (text.drop 1).all (isSafe false) then
    if maxLabel < text.length then .error (.labelTooLong text.length)
    else .ok (Utf8.encode (String.ofList text))
  else .error (.other ("Malformed label: " ++ String.ofList text))

/-- What is written for a character that older rules for encoding names did not have. -/
def olderForm (c : Char) : List Char :=
  match c with
  | 'ß' | 'ẞ' => ['s', 's']
  | 'ς' => ['σ']
  | '\u200C' | '\u200D' => []
  | c => [c]

/-- Whether an ASCII character stands in no name of a host. -/
def isForbidden (c : Char) : Bool :=
  c.toNat < 128 && !(c.isAlphanum || c == '-' || c == '.')

/-- The label with a given text, encoded if it has to be. -/
def labelOf (text : List Char) : Except Flaw Bytes :=
  if text = ['*'] ∨ text.head? = some '_' then safeLabel text
  else
    match International.toAscii? isForbidden (String.ofList (text.flatMap olderForm)) with
    | some written => safeLabel written.toList
    | none => .error (.other "Label contains invalid characters: Err(Errors)")

/-- Labels with one more behind them. -/
def withLabel (labels : Labels) (text : List Char) : Except Flaw Labels := do
  let label ← labelOf text
  let length := lengthOf labels + label.length + 1
  if maxLength < length then .error (.nameTooLong length) else return labels ++ [label]

/-! ## Names -/

/-- How far a name was read. -/
structure Progress where
  labels : Labels
  /-- The characters of the next label, last first. -/
  label : List Char
  /-- Behind a backslash, the values of the digits after it. -/
  escape : Option (List Nat)

/-- Whether a character is a control character. -/
def isControl (c : Char) : Bool :=
  c.toNat < 0x20 || (0x7F ≤ c.toNat && c.toNat < 0xA0)

/-- A character that cannot stand where it does. -/
def unrecognized {α : Type} (c : Char) : Except Flaw α :=
  .error (.other ("unrecognized char: " ++ String.singleton c))

/-- The value of an octal digit. -/
def octal (c : Char) : Except Flaw Nat :=
  if '0' ≤ c ∧ c ≤ '7' then .ok (c.toNat - 48)
  else .error (.other ("illegal char: " ++ String.singleton c))

/-- One character more of the next label. -/
def Progress.push (p : Progress) (c : Char) : Progress :=
  { p with label := c :: p.label, escape := none }

/-- Reads a character behind a backslash and the digits after it. Every numeral counts as a digit,
but it must be an octal one. -/
def Progress.stepEscaped (p : Progress) (c : Char) : List Nat → Except Flaw Progress
  | [] =>
    if Numeral.isNumeral c then do return { p with escape := some [← octal c] } else .ok (p.push c)
  | [a] =>
    if Numeral.isNumeral c then do return { p with escape := some [a, ← octal c] }
    else unrecognized c
  | a :: b :: _ =>
    if Numeral.isNumeral c then do return p.push (Char.ofNat (64 * a + 8 * b + (← octal c)))
    else unrecognized c

/-- Reads a character. -/
def Progress.step (p : Progress) (c : Char) : Except Flaw Progress :=
  match p.escape with
  | some digits => p.stepEscaped c digits
  | none =>
    if c = '.' then do return ⟨← withLabel p.labels p.label.reverse, [], none⟩
    else if c = '\\' then .ok { p with escape := some [] }
    else if isControl c || Blank.isBlank c then unrecognized c
    else .ok (p.push c)

/-- The name that a text stands for. A dot alone is the root. -/
def ofText (text : String) : Except Flaw WrittenName :=
  if text = "." then .ok ⟨[], true⟩
  else do
    let p ← text.toList.foldlM Progress.step ⟨[], [], none⟩
    if p.label = [] then return ⟨p.labels, text ≠ ""⟩
    else return ⟨← withLabel p.labels p.label.reverse, false⟩

/-- The text of a name. -/
def toText (name : WrittenName) : String :=
  String.intercalate "." (name.labels.map labelText) ++ if name.isWhole then "." else ""

end WrittenName

end Resolver.Message
