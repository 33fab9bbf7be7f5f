import SqlSnippet.Text.Search

/-!
# Line comments

A line is commented for everything that follows a `--` on it.  Toggling a line adds
the marker and a space behind its indentation, or takes the marker and one space
away when the line begins with it.  Only the line itself decides what becomes of it,
and an offset that is not the beginning of a line changes nothing.
-/

namespace SqlSnippet

open Chars

/-- What starts a line comment. -/
def commentMarker : Text := ['-', '-']

/-- The beginning of the line that holds the position of a signed offset. -/
def lineStart (t : Text) (offset : Int) : Nat :=
  let before := t.take (t.position offset)
  before.length - (before.reverse.takeWhile (· ≠ '\n')).length

/-- A comment marker stands between the beginning of the line and the offset. -/
def isCommentedAt (t : Text) (offset : Int) : Bool :=
  match Text.find? commentMarker (t.drop (lineStart t offset)) with
  | some i => (↑(lineStart t offset + i) : Int) < offset
  | none => false

/-- The line begins with a comment marker, blanks apart. -/
def isCommentLine (line : Text) : Bool :=
  commentMarker.isPrefixOf line.stripLeft

/-- A commented line without its marker and the space behind it. -/
def uncommented (line : Text) : Text :=
  line.indentation ++ match line.stripLeft.drop commentMarker.length with
    | ' ' :: rest => rest
    | rest => rest

/-- A line with a marker and a space behind its indentation. -/
def commented (line : Text) : Text :=
  line.indentation ++ commentMarker ++ ' ' :: line.stripLeft

def toggledLine (line : Text) : Text :=
  if isCommentLine line then uncommented line else commented line

/-- What a request to toggle a line comes to. -/
inductive Toggle where
  /-- The offset lies outside the text. -/
  | outside
  /-- The offset lies inside a line. -/
  | midLine
  /-- The line was commented and no longer is. -/
  | uncommented (text : Text)
  /-- The line was not commented and now is. -/
  | commented (text : Text)
deriving DecidableEq, Repr

/-- A line begins at this position. -/
def isLineStart (t : Text) (pos : Nat) : Bool :=
  pos == 0 || t[pos - 1]? == some '\n'

/-- Toggle the line that begins at a signed offset. -/
def toggleAt (t : Text) (offset : Int) : Toggle :=
  if offset < 0 ∨ (t.length : Int) ≤ offset then .outside
  else if !isLineStart t offset.toNat then .midLine
  else
    let before := t.take offset.toNat
    let line := (t.drop offset.toNat).takeWhile (· ≠ '\n')
    let after := (t.drop offset.toNat).dropWhile (· ≠ '\n')
    if isCommentLine line then .uncommented (before ++ uncommented line ++ after)
    else .commented (before ++ commented line ++ after)

/-- The text that is left after a request on `t`. -/
def Toggle.textFrom (t : Text) : Toggle → Text
  | .outside | .midLine => t
  | .uncommented text | .commented text => text

end SqlSnippet
