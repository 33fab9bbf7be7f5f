import SqlSnippet.Text.Basic

/-!
# Styled text

A styled text is a plain text with a style for the whole of it and further styles for some of its
stretches.  Control characters that would move the cursor are left out of every
piece, and positions count in what is left.
-/

namespace SqlSnippet

/-- The ways in which text is shown. -/
inductive Style where
  | white
  | boldYellow
  | dimYellow
  | dim
  | green
  | yellow
  | cyan
  | red
deriving DecidableEq, Repr

def Style.name : Style → String
  | white => "white"
  | boldYellow => "bold yellow"
  | dimYellow => "dim yellow"
  | dim => "dim"
  | green => "green"
  | yellow => "yellow"
  | cyan => "cyan"
  | red => "red"

/-- The characters that a terminal obeys instead of showing: bell, backspace, vertical
tab, form feed and carriage return. -/
def isTerminalControl (c : Char) : Bool :=
  [7, 8, 11, 12, 13].contains c.toNat

/-- A text without the characters that a terminal obeys. -/
def Text.shown (t : Text) : Text := t.filter fun c => !isTerminalControl c

/-- A stretch of a text and its style. -/
structure Span where
  start : Nat
  stop : Nat
  style : Style
deriving DecidableEq, Repr

/-- A text with styles. -/
structure StyledText where
  plain : Text
  base : Option Style
  spans : List Span
deriving DecidableEq, Repr

namespace StyledText

def ofText (t : Text) (style : Style) : StyledText := ⟨t.shown, some style, []⟩

def empty : StyledText := ⟨[], none, []⟩

/-- Add a piece in a style.  An empty piece leaves no trace; a piece of which nothing is
shown still leaves its span. -/
def append (s : StyledText) (piece : Text) (style : Style) : StyledText :=
  if piece.isEmpty then s
  else
    { s with
      plain := s.plain ++ piece.shown
      spans := s.spans ++ [⟨s.plain.length, s.plain.length + piece.shown.length, style⟩] }

end StyledText

end SqlSnippet
