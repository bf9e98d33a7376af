import ContentNode.Text.Pieces
import ContentNode.Toml.Fault

/-!
# Excerpts

A message about a part of a text shows the line in which the part begins and marks it
there.
-/

namespace ContentNode.Toml

/-- A line and a column in it, both from one. -/
structure Location where
  line : Nat
  column : Nat
deriving DecidableEq

namespace Location

/-- The location after some characters. -/
def after (s : List Char) : Location :=
  s.foldl (fun at_ c =>
    if c = '\n' then ⟨at_.line + 1, 1⟩ else ⟨at_.line, at_.column + 1⟩) ⟨1, 1⟩

/-- The number of bytes since the last line break. -/
def bytesInLine (s : List Char) : Nat :=
  (String.ofList (s.reverse.takeWhile (· != '\n'))).utf8ByteSize

/-- The location of a place in a text.  The end of the text is one column after its
last character, also after a line break.  The column of a character beyond ASCII counts
bytes. -/
def of (text : List Char) (place : Place) : Location :=
  let before := text.take (text.length - place)
  match text.drop (text.length - place), before.reverse with
  | [], [] => ⟨1, 1⟩
  | [], _ :: earlier =>
    let location := after earlier.reverse
    { location with column := location.column + 1 }
  | c :: _, _ =>
    let location := after before
    if c.toNat < 128 then location else { location with column := bytesInLine before + 1 }

end Location

namespace Excerpt

/-- What an excerpt begins with. -/
def title (location : Location) : String :=
  s!"TOML parse error at line {location.line}, column {location.column}"

/-- A text of one character only. -/
def run (c : Char) (n : Nat) : String := String.ofList (List.replicate n c)

/-- A message about what stands between two places of a text. -/
def render (text : List Char) (span : Span) (message : String) : String :=
  let location := Location.of text span.first
  let part := (text.drop (text.length - span.first)).take (span.first - span.last)
  let content := String.ofList ((Text.pieces '\n' text)[location.line - 1]?.getD [])
  let width := min (String.ofList part).utf8ByteSize (content.utf8ByteSize - (location.column - 1))
  let margin := run ' ' ((toString location.line).length + 1)
  String.join <| (· ++ "\n") <$> [
    title location,
    s!"{margin}|",
    s!"{location.line} | {content}",
    margin ++ "|" ++ run ' ' location.column ++ run '^' (max 1 width),
    message]

end Excerpt

end ContentNode.Toml
