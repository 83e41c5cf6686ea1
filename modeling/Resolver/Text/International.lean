import Resolver.Text.Composition
import Resolver.Text.Direction
import Resolver.Text.Folding
import Resolver.Text.Joining
import Resolver.Text.Punycode

/-!
# Internationalised names

A label of a name can hold other than ASCII characters. It has a form that is shown and a form that
is written, in which such a label is a mark and its encoding. Reading a name takes labels in either
form, folds them and makes sure that each is one that can be shown; both forms of the name can then
be given.

A name holds only what folding leaves, no label starts with a mark, joiners stand only where they
are of use, and a name with letters that are written from right to left keeps the order of its
labels.
-/

namespace Resolver.International

/-- A label in both forms. -/
structure Label where
  shown : List Char
  written : List Char
  deriving DecidableEq, Repr

/-- What stands in front of an encoded label. -/
def mark : List Char :=
  ['x', 'n', '-', '-']

/-- The most characters of an encoding that is read. -/
def maxEncoded : Nat := 2000

/-- The most characters of a label that has to be encoded. -/
def maxShown : Nat := 1000

/-- Whether a text has ASCII characters only. -/
def isAscii (text : List Char) : Bool :=
  text.all fun c => c.toNat < 128

/-- The small form of an ASCII letter. -/
def lower (c : Char) : Char :=
  if 'A' ≤ c ∧ c ≤ 'Z' then Char.ofNat (c.toNat + 32) else c

/-- Whether a text starts with the mark of encoded labels. -/
def isMarked (text : List Char) : Bool :=
  text.take 4 == mark

/-- What a marked label in small letters stands for. It must be what folding and composing make of
it, without any of the `denied` ASCII characters. -/
def decode? (denied : Char → Bool) (label : List Char) : Option (List Char) :=
  let encoded := label.drop 4
  if label.getLast? = some '-' ∨ maxEncoded < encoded.length then none
  else match Punycode.decode? encoded with
    | none => none
    | some text =>
      if text.all (fun c => Folding.isFolded c && !denied c) ∧ Composition.compose text = text then
        some text
      else none

/-- Whether a label can be shown as it is. -/
def isShowable (label : List Char) : Bool :=
  !label.head?.any Marks.isMark && Joining.areOfUse [] label &&
    (isAscii label || label.length ≤ maxShown)

/-- A label in both forms, given in either of them, folded. -/
def label? (denied : Char → Bool) (text : List Char) : Option Label :=
  if isMarked text then
    match if isAscii text then decode? denied text else none with
    | some shown => if isShowable shown then some ⟨shown, text⟩ else none
    | none => none
  else if isShowable text then
    some ⟨text, if isAscii text then text else mark ++ Punycode.encode text⟩
  else none

/-- A text folded and composed, without any of the `denied` ASCII characters. Those in an encoded
label are not looked at before it is decoded. -/
def folded? (denied : Char → Bool) (text : List Char) : Option (List Char) := do
  let parts ← text.mapM Folding.fold?
  let folded := Composition.compose parts.flatten
  if (!(isAscii text && isMarked folded)) && folded.any denied then none
  else return folded

/-- The labels of a name. Folding can make more of what stands between two dots. -/
def labels? (denied : Char → Bool) (name : List Char) : Option (List Label) := do
  let pieces ← (Pieces.split '.' name).mapM (folded? denied)
  let labels ← (pieces.flatMap (Pieces.split '.')).mapM (label? denied)
  if labels.any (·.shown.any Direction.turnsRight) ∧
      !labels.all (Direction.isOrderly ·.shown) then none
  else return labels

/-- A name in the form that is shown. -/
def toUnicode? (name : String) : Option String := do
  let labels ← labels? (fun _ => false) name.toList
  return String.ofList (Pieces.join '.' (labels.map Label.shown))

/-- A name in the form that is written, without any of the `denied` ASCII characters. -/
def toAscii? (denied : Char → Bool) (name : String) : Option String := do
  let labels ← labels? denied name.toList
  return String.ofList (Pieces.join '.' (labels.map Label.written))

end Resolver.International
