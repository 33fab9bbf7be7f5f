import SqlSnippet.Chars.Digit
import SqlSnippet.Chars.Letter

/-!
# Word characters

Identifiers and keywords are runs of word characters.  A word starts where a word
character does not follow another one.
-/

namespace SqlSnippet.Chars

/-- Letters, numeric characters and the underscore. -/
def isWord (c : Char) : Bool :=
  c == '_' || isLetter c || isNumeric c

end SqlSnippet.Chars
