/-!
# Pieces of a text

Taking a text apart at each place where a given character stands, and putting pieces together with a
character between them.
-/

namespace Resolver.Pieces

/-- The pieces of a text behind the characters of a piece, last first, and the pieces `seen`, last
first. -/
def splitFrom (separator : Char) (piece : List Char) (seen : List (List Char)) :
    List Char → List (List Char)
  | [] => (piece.reverse :: seen).reverse
  | c :: rest =>
    if c = separator then splitFrom separator [] (piece.reverse :: seen) rest
    else splitFrom separator (c :: piece) seen rest

/-- The pieces of a text between the places where a character stands; there is always one. -/
def split (separator : Char) (text : List Char) : List (List Char) :=
  splitFrom separator [] [] text

/-- Pieces with a character between them. -/
def join (separator : Char) : List (List Char) → List Char
  | [] => []
  | piece :: pieces => piece ++ pieces.flatMap (separator :: ·)

end Resolver.Pieces
