import Resolver.Bytes

/-!
# UTF-8

Reading text out of byte strings. `nextScalar` reads one scalar value or tells how many bytes are
wrong there; the lenient reader `decodeLossy` and the strict reader `decode?` are both built on it.

A wrong sequence is the longest run of bytes at its place that begins some well-formed character;
it counts as one error, and the lenient reader shows one replacement character for it.
-/

namespace Resolver.Utf8

/-! ## One character -/

/-- What stands at the front of a non-empty byte string. -/
inductive Scalar
  /-- A well-formed character of the given number of bytes. -/
  | good (c : Char) (width : Nat)
  /-- So many bytes that begin a character, followed by one that cannot continue it. -/
  | bad (width : Nat)
  /-- So many bytes that begin a character, followed by the end of the text. -/
  | cut (width : Nat)
  deriving DecidableEq, Repr

/-- A byte that continues a character. -/
def isContinuation (b : UInt8) : Bool :=
  128 ≤ b && b ≤ 191

/-- The low six bits of a continuation byte. -/
def payload (b : UInt8) : Nat :=
  b.toNat % 64

/-- Whether `second` may follow the lead byte `lead` of a three-byte character: no overlong forms
and no surrogates. -/
def isSecondOfThree (lead second : UInt8) : Bool :=
  if lead = 0xE0 then 0xA0 ≤ second && second ≤ 0xBF
  else if lead = 0xED then 0x80 ≤ second && second ≤ 0x9F
  else isContinuation second

/-- Whether `second` may follow the lead byte `lead` of a four-byte character: no overlong forms
and nothing above the last scalar value. -/
def isSecondOfFour (lead second : UInt8) : Bool :=
  if lead = 0xF0 then 0x90 ≤ second && second ≤ 0xBF
  else if lead = 0xF4 then 0x80 ≤ second && second ≤ 0x8F
  else isContinuation second

/-- The character with lead byte `lead`, given the bytes after it. -/
def nextScalar (lead : UInt8) (rest : Bytes) : Scalar :=
  if lead < 0x80 then .good (Char.ofNat lead.toNat) 1
  else if 0xC2 ≤ lead && lead ≤ 0xDF then
    match rest with
    | [] => .cut 1
    | b :: _ =>
      if isContinuation b then .good (Char.ofNat (lead.toNat % 32 * 64 + payload b)) 2 else .bad 1
  else if 0xE0 ≤ lead && lead ≤ 0xEF then
    match rest with
    | [] => .cut 1
    | b :: rest' =>
      if isSecondOfThree lead b then
        match rest' with
        | [] => .cut 2
        | c :: _ =>
          if isContinuation c then
            .good (Char.ofNat ((lead.toNat % 16 * 64 + payload b) * 64 + payload c)) 3
          else .bad 2
      else .bad 1
  else if 0xF0 ≤ lead && lead ≤ 0xF4 then
    match rest with
    | [] => .cut 1
    | b :: rest' =>
      if isSecondOfFour lead b then
        match rest' with
        | [] => .cut 2
        | c :: rest'' =>
          if isContinuation c then
            match rest'' with
            | [] => .cut 3
            | d :: _ =>
              if isContinuation d then
                .good (Char.ofNat
                  (((lead.toNat % 8 * 64 + payload b) * 64 + payload c) * 64 + payload d)) 4
              else .bad 3
          else .bad 2
      else .bad 1
  else .bad 1

/-! ## The lenient reading -/

/-- The character that stands for a wrong sequence. -/
def replacement : Char :=
  '\uFFFD'

/-- The lenient reading of the rest of a text, behind the characters `seen` (last first). -/
def lossyFrom (bytes : Bytes) (seen : List Char) : List Char :=
  match bytes with
  | [] => seen.reverse
  | lead :: rest =>
    match nextScalar lead rest with
    | .good c width => lossyFrom (rest.drop (width - 1)) (c :: seen)
    | .bad width => lossyFrom (rest.drop (width - 1)) (replacement :: seen)
    | .cut _ => (replacement :: seen).reverse
termination_by bytes.length
decreasing_by all_goals simp only [List.length_drop, List.length_cons]; omega

/-- The lenient reading of a byte string: each wrong sequence becomes one replacement character. -/
def decodeLossy (bytes : Bytes) : String :=
  String.ofList (lossyFrom bytes [])

/-! ## The strict reading -/

/-- Why a byte string is not text. -/
structure Malformed where
  /-- How many bytes in front are well formed. -/
  validUpTo : Nat
  /-- The width of the wrong sequence, `none` when the text ends inside a character. -/
  width : Option Nat
  deriving DecidableEq, Repr

/-- The wording of a failed strict reading. -/
def Malformed.message (m : Malformed) : String :=
  match m.width with
  | some w => s!"invalid utf-8 sequence of {w} bytes from index {m.validUpTo}"
  | none => s!"incomplete utf-8 byte sequence from index {m.validUpTo}"

/-- The strict reading of the rest of a text that starts at byte `pos`, behind the characters
`seen` (last first). -/
def strictFrom (bytes : Bytes) (pos : Nat) (seen : List Char) : Except Malformed (List Char) :=
  match bytes with
  | [] => .ok seen.reverse
  | lead :: rest =>
    match nextScalar lead rest with
    | .good c width => strictFrom (rest.drop (width - 1)) (pos + width) (c :: seen)
    | .bad width => .error ⟨pos, some width⟩
    | .cut _ => .error ⟨pos, none⟩
termination_by bytes.length
decreasing_by simp only [List.length_drop, List.length_cons]; omega

/-- The strict reading of a byte string: the text, or where it first goes wrong. -/
def decode? (bytes : Bytes) : Except Malformed String :=
  (strictFrom bytes 0 []).map String.ofList

/-- The UTF-8 form of a text. -/
def encode (text : String) : Bytes :=
  text.toUTF8.toList

end Resolver.Utf8
