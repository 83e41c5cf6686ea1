import Resolver.Bytes
import Resolver.Text.Utf8

/-!
# Domain names in wire form

A wire name is a run of labels, each behind a byte with its length (1 to 63), closed by the empty
label of the root; it takes at most 255 bytes. Functions here look at the name in front of a byte
string and never at what follows it.

`labels?` is the view the others are understood through: the label contents up to the root.
-/

namespace Resolver.Name

/-! ## Labels -/

/-- The longest wire name, its root label included. -/
def maxLength : Nat := 255

/-- The longest label. -/
def maxLabel : Nat := 63

/-- The labels in front of `bytes` up to the root, of any total length. -/
def labelsOf (bytes : Bytes) : Option (List Bytes) :=
  match bytes with
  | [] => none
  | n :: rest =>
    if n = 0 then some []
    else if maxLabel < n.toNat then none
    else if (rest.take n.toNat).length < n.toNat then none
    else (labelsOf (rest.drop n.toNat)).map (rest.take n.toNat :: ·)
termination_by bytes.length
decreasing_by simp only [List.length_drop, List.length_cons]; omega

/-- The wire form of a list of labels. -/
def ofLabels : List Bytes → Bytes
  | [] => [0]
  | label :: labels => UInt8.ofNat label.length :: label ++ ofLabels labels

/-- How many bytes the wire form of a list of labels takes. -/
def wireLength : List Bytes → Nat
  | [] => 1
  | label :: labels => 1 + label.length + wireLength labels

@[simp]
theorem length_ofLabels (labels : List Bytes) : (ofLabels labels).length = wireLength labels := by
  induction labels with
  | nil => rfl
  | cons label labels ih => simp [ofLabels, wireLength, ih]; omega

/-- The labels of the name in front of `bytes`, `none` when no valid name stands there. -/
def labels? (bytes : Bytes) : Option (List Bytes) :=
  (labelsOf bytes).filter fun labels => wireLength labels ≤ maxLength

/-! ## Length, folding and equality -/

/-- The length of the name in front of `bytes`, root label included; `none` when it is not closed
inside `bytes`, has too long a label or is too long itself. -/
def length? (bytes : Bytes) : Option Nat :=
  (labels? bytes).map wireLength

/-- The lower-case form of the name in front of `bytes`. -/
def lower? (bytes : Bytes) : Option Bytes :=
  (length? bytes).map fun n => lowerBytes (bytes.take n)

/-- Whether two byte strings start with the same name, ASCII case aside. -/
def equal (a b : Bytes) : Bool :=
  match length? a, length? b with
  | some m, some n => m == n && lowerBytes (a.take m) == lowerBytes (b.take n)
  | _, _ => false

/-! ## Dotted form -/

/-- The byte that separates labels in dotted form. -/
def dot : UInt8 := 46

/-- A dotted name without its optional final dot. -/
def withoutFinalDot (text : Bytes) : Bytes :=
  if text.getLast? = some dot then text.dropLast else text

/-- The labels of a dotted name; the empty text names the root. -/
def dottedLabels (text : Bytes) : List Bytes :=
  if withoutFinalDot text = [] then [] else splitAtByte dot (withoutFinalDot text)

/-- The wire form of a dotted name. There are no escapes; a label must have 1 to 63 bytes, and the
whole at most 255. -/
def ofDotted? (text : String) : Option Bytes :=
  let labels := dottedLabels (Utf8.encode text)
  if labels.all (fun label => 1 ≤ label.length && label.length ≤ maxLabel) &&
      wireLength labels ≤ maxLength then
    some (ofLabels labels)
  else none

/-- Text read so far, with the labels of the rest of the name appended. A label that runs past the
end is cut there, and a dot goes between a label and the text before it. -/
def dottedFrom (bytes : Bytes) (text : String) : String :=
  match bytes with
  | [] => text
  | n :: rest =>
    if n = 0 then text
    else
      dottedFrom (rest.drop n.toNat)
        ((if text.isEmpty then text else text.push '.') ++ Utf8.decodeLossy (rest.take n.toNat))
termination_by bytes.length
decreasing_by simp only [List.length_drop, List.length_cons]; omega

/-- The dotted form of a wire name for display; the root is a single dot. Any bytes are accepted. -/
def toDotted (bytes : Bytes) : String :=
  let text := dottedFrom bytes ""
  if text.isEmpty then "." else text

end Resolver.Name
