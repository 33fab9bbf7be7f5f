import SqlSnippet.Chars.Printable
import SqlSnippet.Text.CodePoint
import SqlSnippet.Text.Hex

/-!
# Texts in messages

A message shows a text between quotes, so that blanks at its ends and control characters
can be seen.  The quotes are single ones, unless the text has single quotes and no double ones.
Inside, the quote and the backslash are escaped, and so is every code point that cannot
be printed.
-/

namespace SqlSnippet

open Chars

def displayMark (t : CodeText) : Char :=
  if t.contains (.ofChar '\x27') && !t.contains (.ofChar '"') then '"' else '\x27'

def displayedChar (mark c : Char) : Text :=
  if c = mark ∨ c = '\\' then ['\\', c]
  else if c = '\n' then ['\\', 'n']
  else if c = '\r' then ['\\', 'r']
  else if c = '\t' then ['\\', 't']
  else if isPrintable c then [c]
  else if c.toNat < 0x100 then '\\' :: 'x' :: hexDigits 2 c.toNat
  else if c.toNat < 0x10000 then '\\' :: 'u' :: hexDigits 4 c.toNat
  else '\\' :: 'U' :: hexDigits 8 c.toNat

def displayedPoint (mark : Char) (p : CodePoint) : Text :=
  match p.char? with
  | some c => displayedChar mark c
  | none => '\\' :: 'u' :: hexDigits 4 p.val

/-- A text between quotes, with all that cannot be seen escaped. -/
def CodeText.displayed (t : CodeText) : Text :=
  let mark := displayMark t
  mark :: t.flatMap (displayedPoint mark) ++ [mark]

end SqlSnippet
