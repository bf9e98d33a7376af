/-!
# Pieces of text

A text with separators in it is a list of pieces; two separators in a row have an
empty piece between them.
-/

namespace ContentNode.Text

/-- The pieces of a text between separators. -/
def pieces (separator : Char) : List Char → List (List Char)
  | [] => [[]]
  | c :: rest =>
    match pieces separator rest with
    | [] => [[c]]
    | piece :: more => if c = separator then [] :: piece :: more else (c :: piece) :: more

/-- The pieces that are not empty. -/
def words (separator : Char) (text : List Char) : List (List Char) :=
  (pieces separator text).filter (· ≠ [])

end ContentNode.Text
