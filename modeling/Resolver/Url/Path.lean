import Resolver.Text.Pieces
import Resolver.Url.Escape

/-!
# Paths

The path in the address of a document: segments behind slashes. A segment of one dot goes nowhere
and one of two dots back to the segment before; a path of the file system may start with the letter
of a drive, which stays.
-/

namespace Resolver.Url

/-- The kinds of schemes. -/
inductive Kind
  /-- The file system. -/
  | file
  /-- A scheme that is known. -/
  | known
  | other
  deriving DecidableEq, Repr

/-- Whether backslashes count as slashes under a scheme. -/
def Kind.isSpecial (kind : Kind) : Bool :=
  kind ≠ .other

/-- Whether a character parts segments. -/
def Kind.isSlash (kind : Kind) (c : Char) : Bool :=
  c = '/' ∨ (c = '\\' ∧ kind.isSpecial)

namespace Path

/-- A dot, which may be escaped, at the front of a text, and what is behind it. -/
def dot? : List Char → Option (List Char)
  | '.' :: rest | '%' :: '2' :: 'e' :: rest | '%' :: '2' :: 'E' :: rest => some rest
  | _ => none

/-- Whether a segment is one dot. -/
def isDot (segment : List Char) : Bool :=
  dot? segment = some []

/-- Whether a segment is two dots. -/
def isTwoDots (segment : List Char) : Bool :=
  (dot? segment).bind dot? = some []

/-- Whether a segment is the letter of a drive. -/
def isDrive : List Char → Bool
  | [letter, c] => letter.isAlpha && (c == ':' || c == '|')
  | _ => false

/-- How far a path was gone along. -/
structure Progress where
  /-- The segments, last first. -/
  segments : List (List Char)
  /-- Whether it starts with a drive. -/
  hasDrive : Bool

/-- Goes back to the segment before, unless the last one is a drive. -/
def Progress.back (p : Progress) : Progress :=
  match p.segments with
  | last :: before => if isDrive last then p else { p with segments := before }
  | [] => p

/-- Goes along a segment. The colon behind the letter of a drive may be written as a bar. -/
def Progress.push (kind : Kind) (p : Progress) (segment : List Char) : Progress :=
  if kind = .file ∧ p.segments = [] ∧ isDrive segment then ⟨[segment.take 1 ++ [':']], true⟩
  else { p with segments := segment :: p.segments }

/-- Goes along a segment that has a slash behind it. -/
def Progress.along (kind : Kind) (p : Progress) (segment : List Char) : Progress :=
  if isTwoDots segment then p.back
  else if isDot segment then p
  else p.push kind segment

/-- Goes along the last segment, which has no slash behind it. -/
def Progress.finish (kind : Kind) (p : Progress) (segment : List Char) : Progress :=
  if isTwoDots segment ∨ isDot segment then (p.along kind segment).push .other []
  else p.push kind segment

/-- The text of a path. -/
def Progress.toText (p : Progress) : List Char :=
  p.segments.reverse.flatMap ('/' :: ·)

/-- A path of the file system with one slash in front only. -/
def withOneSlash (path : List Char) : List Char :=
  '/' :: path.dropWhile (· = '/')

/-- The path that a text without its first slash stands for, and whether it starts with a drive. -/
def ofText (kind : Kind) (text : List Char) : List Char × Bool :=
  let slashes := text.map fun c => if kind.isSlash c then '/' else c
  let segments := (Pieces.split '/' slashes).map (escape isEscapedInPath)
  let p := segments.dropLast.foldl (Progress.along kind) ⟨[], false⟩
  let p := p.finish kind (segments.getLastD [])
  (if kind = .file then withOneSlash p.toText else p.toText, p.hasDrive)

end Path

end Resolver.Url
