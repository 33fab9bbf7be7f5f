import SqlSnippet.Settings.Format

/-!
# Characters of a YAML text

Lines end in a line feed or in one of three other line breaks.  Carriage returns do not
occur, because the ends of lines are made the same before a text is read.
-/

namespace SqlSnippet.Yaml

def isBreak (c : Char) : Bool :=
  c == '\n' || c == '\x85' || c == '\u2028' || c == '\u2029'

def isGap (c : Char) : Bool := c == ' ' || c == '\t' || isBreak c

/-- Nothing of a word follows: the text ends here, or there is a gap. -/
def atGap : Text → Bool
  | [] => true
  | c :: _ => isGap c

def isAllowed (c : Char) : Bool :=
  let n := c.toNat
  n == 0x09 || n == 0x0A || n == 0x0D || (0x20 ≤ n && n ≤ 0x7E) || n == 0x85 ||
    (0xA0 ≤ n && n ≤ 0xD7FF) || (0xE000 ≤ n && n ≤ 0xFFFD) || 0x10000 ≤ n

/-- Three dashes or three points as a word of their own, which end a document if they
stand at the beginning of a line. -/
def atMarker : Text → Bool
  | '-' :: '-' :: '-' :: rest => atGap rest
  | '.' :: '.' :: '.' :: rest => atGap rest
  | _ => false

end SqlSnippet.Yaml
