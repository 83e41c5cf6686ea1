import Resolver.Text.International
import Resolver.Text.Utf8

/-!
# Taking messages apart

Readers for the parts of a message, strict about where names may point: a compressed name points to
a name before it and must not run into the name it came from.
-/

namespace Resolver.Message

/-- Why a message cannot be taken apart. -/
inductive Flaw
  | endOfInput
  | labelTooLong (length : Nat)
  | nameTooLong (length : Nat)
  | unknownLabel (code : UInt8)
  | pointerNotPrior (index target : Nat)
  | overlappingNames (name other : Nat)
  | dataTooLong (needed left : Nat)
  | wrongDataLength (read expected : Nat)
  | unknownType (type : UInt16)
  | optionsNotAtRoot (name : String)
  | other (description : String)
  deriving DecidableEq, Repr

/-- The wording of a flaw. -/
def Flaw.message : Flaw → String
  | endOfInput => "unexpected end of input reached"
  | labelTooLong n => s!"label bytes exceed 63: {n}"
  | nameTooLong n => s!"name label data exceed 255: {n}"
  | unknownLabel code =>
    "unrecognized label code: " ++ String.ofList (Nat.toDigits 2 code.toNat)
  | pointerNotPrior i t => s!"label points to data not prior to idx: {i} ptr: {t}"
  | overlappingNames n o => s!"overlapping labels name {n} other {o}"
  | dataTooLong needed left =>
    s!"rdata length too large for remaining bytes, need: {needed} remain: {left}"
  | wrongDataLength read expected =>
    s!"incorrect rdata length read: {read} expected: {expected}"
  | unknownType t => s!"record type value unknown: {t.toNat}"
  | optionsNotAtRoot name => s!"edns resource record label must be the root label (.): {name}"
  | other description => description

/-! ## Readers -/

/-- A text in UTF-8. -/
def textOf (bytes : Bytes) : Except Flaw String :=
  match Utf8.decode? bytes with
  | .ok text => .ok text
  | .error _ => .error (.other "error parsing utf8 string")

/-- A place in a message. -/
structure Place where
  /-- What is left. -/
  rest : Bytes
  /-- How many bytes come before. -/
  index : Nat
  deriving Repr

/-- A reader takes a value off a message at a place. Its outcome tells where it stopped also when
it found a flaw. -/
abbrev Reader (α : Type) := Place → Except Flaw α × Place

namespace Reader

/-- Reads one thing after another. -/
def bind {α β : Type} (r : Reader α) (f : α → Reader β) : Reader β := fun p =>
  match r p with
  | (.ok a, p) => f a p
  | (.error e, p) => (.error e, p)

instance : Monad Reader where
  pure a := fun p => (.ok a, p)
  bind := bind

/-- Finds a flaw. -/
def flaw {α : Type} (e : Flaw) : Reader α := fun p => (.error e, p)

/-- Where the reader is. -/
def place : Reader Place := fun p => (.ok p, p)

/-- Reads a byte. -/
def byte : Reader UInt8 := fun p =>
  match p.rest with
  | b :: rest => (.ok b, ⟨rest, p.index + 1⟩)
  | [] => (.error .endOfInput, p)

/-- Reads so many bytes. -/
def bytes (n : Nat) : Reader Bytes := fun p =>
  if (p.rest.take n).length < n then (.error .endOfInput, p)
  else (.ok (p.rest.take n), ⟨p.rest.drop n, p.index + n⟩)

/-- Reads a number of so many bytes in network order. -/
def number (width : Nat) : Reader Nat := do
  return bigEndian (← bytes width)

/-- Reads a 16-bit number. -/
def word : Reader UInt16 := do
  return UInt16.ofNat (← number 2)

/-- Reads a string behind a byte with its length. -/
def shortString : Reader Bytes := do
  bytes (← byte).toNat

/-- Reads one thing after another as long as `width` bytes or more lie in front of `stop`. Each
reading knows what was read before it; the things in `seen`, last first, come in front. -/
def fill {α : Type} (width stop : Nat) (read : Option α → Reader α) :
    (fuel : Nat) → (seen : List α) → Place → Except Flaw (List α) × Place
  | 0, seen, p => (.ok seen.reverse, p)
  | fuel + 1, seen, p =>
    if stop < p.index + width then (.ok seen.reverse, p)
    else match read seen.head? p with
      | (.ok a, p) => fill width stop read fuel (a :: seen) p
      | (.error e, p) => (.error e, p)

/-- Reads one thing after another until `length` bytes were read. -/
def within {α : Type} (length : Nat) (read : Reader α) : Reader (List α) := fun p =>
  fill 1 (p.index + length) (fun _ => read) length [] p

/-- Reads so many things. -/
def times {α : Type} (read : Reader α) : (count : Nat) → (seen : List α) → Place →
    Except Flaw (List α) × Place
  | 0, seen, p => (.ok seen.reverse, p)
  | count + 1, seen, p =>
    match read p with
    | (.ok a, p) => times read count (a :: seen) p
    | (.error e, p) => (.error e, p)

/-- Reads bytes that were taken off before. -/
def inside {α : Type} (bytes : Bytes) (read : Reader α) : Reader α := fun p =>
  ((read ⟨bytes, 0⟩).1, p)

/-- Reads one thing after another up to the end. -/
def toEnd {α : Type} (read : Reader α) : Reader (List α) := fun p =>
  within p.rest.length read p

end Reader

/-! ## Reading names -/

/-- A domain name, by its labels. -/
abbrev Labels := List Bytes

/-- The length of a name as it counts against the limit: a byte a label besides its contents. -/
def lengthOf (labels : Labels) : Nat :=
  labels.foldl (fun n label => n + label.length) (max 1 labels.length)

/-- The most that the length of a name may come to with a label more. -/
def maxLength : Nat := 255

/-- A name that is whole. It must stay below the limit. -/
def ended (labels : Labels) : Except Flaw Labels :=
  if maxLength ≤ lengthOf labels then .error (.nameTooLong (lengthOf labels)) else .ok labels

/-- Reads the labels of a name that starts at `start`, behind the labels `seen`. If another name
pointed here, it starts at `limit`, and this one has to end before. A label counts as read also when
there is no room for it. -/
def labelsFrom (message : Bytes) (start : Nat) (limit : Option Nat) (seen : Labels) (p : Place) :
    Except Flaw Labels × Place :=
  if limit.any (· ≤ p.index) then (.error (.overlappingNames start (limit.getD 0)), p)
  else
    match _hr : p.rest with
    | [] => (.error .endOfInput, p)
    | n :: rest =>
      if n = 0 then (ended seen, ⟨rest, p.index + 1⟩)
      else if 192 ≤ n then
        match rest with
        | [] => (.error .endOfInput, p)
        | low :: rest =>
          let after : Place := ⟨rest, p.index + 2⟩
          let target := n.toNat % 64 * 256 + low.toNat
          -- Each name pointed to starts before the one that points there, so this comes to an end.
          if _h : target < start then
            match (labelsFrom message target (some start) seen ⟨message.drop target, target⟩).1 with
            | .ok labels => (ended labels, after)
            | .error e => (.error e, after)
          else (.error (.pointerNotPrior p.index target), after)
      else if 64 ≤ n then (.error (.unknownLabel n), p)
      else
        let label := rest.take n.toNat
        let after : Place := ⟨rest.drop n.toNat, p.index + 1 + n.toNat⟩
        if label.length < n.toNat then (.error .endOfInput, ⟨rest, p.index + 1⟩)
        else if maxLength < lengthOf seen + n.toNat + 1 then (.error (.nameTooLong n.toNat), after)
        else labelsFrom message start limit (seen ++ [label]) after
termination_by (start, p.rest.length)
decreasing_by
  · exact Prod.Lex.left _ _ _h
  · refine Prod.Lex.right _ ?_
    simp only [_hr, List.length_drop, List.length_cons]
    omega

/-- Reads a name. -/
def readName (message : Bytes) : Reader Labels := fun p =>
  labelsFrom message p.index none [] p

/-! ## Writing names -/

/-- Whether a byte stands for itself in the text of a label. -/
def isPlain (first : Bool) (b : UInt8) : Bool :=
  (48 ≤ b && b ≤ 57) || (65 ≤ b && b ≤ 90) || (97 ≤ b && b ≤ 122) || b == 95 ||
    (b == 45 && !first) || (b == 42 && first)

/-- A byte in the text of a label: other printable characters stand behind a backslash, the rest is
written in octal. -/
def labelChars (first : Bool) (b : UInt8) : List Char :=
  if isPlain first b then [Char.ofNat b.toNat]
  else if 0x20 < b ∧ b < 0x7f then ['\\', Char.ofNat b.toNat]
  else
    let n := b.toNat
    let digit := fun k => Char.ofNat (48 + k)
    ['\\', digit (n / 64), digit (n / 8 % 8), digit (n % 8)]

/-- The text of a label, with what does not stand for itself escaped. -/
def escapedLabel : Bytes → String
  | [] => ""
  | b :: rest => String.ofList (labelChars true b ++ rest.flatMap (labelChars false))

/-- The text of a label. One that encodes other than ASCII characters is shown decoded. -/
def labelText (label : Bytes) : String :=
  if label.take 4 = Utf8.encode "xn--" then
    (International.toUnicode? (Utf8.decodeLossy label)).getD (escapedLabel label)
  else escapedLabel label

/-- The text of a name, with a dot at its end. -/
def nameText (labels : Labels) : String :=
  String.intercalate "." (labels.map labelText) ++ "."

end Resolver.Message
