import SqlSnippet.Number.Shortest
import SqlSnippet.Yaml.Plain

/-!
# Written scalars

A text is written plain if it reads back as itself, else between single quotes, and between double
quotes with escapes if it has code points outside printable ASCII or blanks around a line break.
Behind column 80 a text is continued on the next line at the next single space.  A key is never
continued.
-/

namespace SqlSnippet.Yaml

def isBare (c : Char) : Bool := c == '\n' || (' ' ≤ c && c ≤ '~')

def isEdge (c : Char) : Bool := c == ' ' || isBreak c

def isMultiline (t : Text) : Bool := t.any isBreak

/-- A blank and a line break stand side by side. -/
def hasBrokenBlank : Text → Bool
  | c :: d :: rest =>
    (c == ' ' && isBreak d) || (isBreak c && d == ' ') || hasBrokenBlank (d :: rest)
  | _ => false

/-- A colon in front of a gap or a number sign behind one, after the first character. -/
def hasInnerMark : Text → Bool
  | c :: d :: rest => (d == ':' && atGap rest) || (d == '#' && isGap c) || hasInnerMark (d :: rest)
  | _ => false

def hasLeadingMark : Text → Bool
  | [] => false
  | c :: rest =>
    ("#,[]\x7b\x7d&*!|>\x27\"%@\x60".toList).contains c ||
      ((c == '?' || c == ':' || c == '-') && atGap rest)

def startsLikeMarker (t : Text) : Bool :=
  ['-', '-', '-'].isPrefixOf t || ['.', '.', '.'].isPrefixOf t

def fitsPlain (t : Text) : Bool :=
  plainKind t == .text && t.all isBare && !isMultiline t &&
    !t.head?.any isEdge && !t.getLast?.any isEdge &&
    !startsLikeMarker t && !hasLeadingMark t && !hasInnerMark t

def fitsSingle (t : Text) : Bool := t.all isBare && !hasBrokenBlank t

/-- How a text is written. -/
inductive Quotes where
  | none
  | single
  | double
deriving DecidableEq, Repr

/-- The quotes for a text; a key keeps to one line. -/
def quotesFor (asKey : Bool) (t : Text) : Quotes :=
  if fitsPlain t then .none
  else if fitsSingle t && !(asKey && isMultiline t) then .single
  else .double

/-- The column behind which a text is continued on the next line. -/
def lineWidth : Nat := 80

def blanks (count : Nat) : Text := List.replicate count ' '

/-- A single space at which a text can be continued on the next line. -/
def isFoldPoint (previous : Option Char) (c : Char) (rest : Text) : Bool :=
  c == ' ' && previous.any (· ≠ ' ') && rest.head?.any (· ≠ ' ')

/-- A plain or single-quoted text from `column` on, with its further lines indented.  A line
break is written twice, so that it is not read as a space. -/
def foldedFrom (quotes fold : Bool) (indent : Nat) (previous : Option Char) (column : Nat) :
    Text → Text
  | [] => []
  | c :: rest =>
    if c = '\n' then
      let breaks := if previous = some '\n' then ['\n'] else ['\n', '\n']
      if rest.head? = some '\n' then
        breaks ++ foldedFrom quotes fold indent (some c) column rest
      else breaks ++ blanks indent ++ foldedFrom quotes fold indent (some c) indent rest
    else if fold ∧ lineWidth < column ∧ isFoldPoint previous c rest then
      '\n' :: blanks indent ++ foldedFrom quotes fold indent (some c) indent rest
    else if quotes ∧ c = '\x27' then
      c :: c :: foldedFrom quotes fold indent (some c) (column + 2) rest
    else c :: foldedFrom quotes fold indent (some c) (column + 1) rest

def escapeLetter? (c : Char) : Option Char :=
  ([('\x00', '0'), ('\x07', 'a'), ('\x08', 'b'), ('\t', 't'), ('\n', 'n'), ('\x0B', 'v'),
    ('\x0C', 'f'), ('\r', 'r'), ('\x1B', 'e'), ('"', '"'), ('\\', '\\'),
    ('\x85', 'N'), ('\xA0', '_'), ('\u2028', 'L'), ('\u2029', 'P')].find?
      fun p => p.1 == c).map Prod.snd

def numericEscape (p : CodePoint) : Text :=
  let hex (letter : Char) (width : Nat) : Text :=
    '\\' :: letter :: (hexDigits width p.val).map Char.toUpper
  if p.val ≤ 0xFF then hex 'x' 2 else if p.val ≤ 0xFFFF then hex 'u' 4 else hex 'U' 8

/-- How a code point stands between double quotes: as a character or as an escape. -/
inductive QuotedForm where
  | bare (c : Char)
  | escape (t : Text)
deriving DecidableEq, Repr

def quotedForm (p : CodePoint) : QuotedForm :=
  match p.char? with
  | none => .escape (numericEscape p)
  | some c =>
    match escapeLetter? c with
    | some letter => .escape ['\\', letter]
    | none => if ' ' ≤ c ∧ c ≤ '~' then .bare c else .escape (numericEscape p)

/-- A backslash that keeps a space at the beginning of a line. -/
def spaceGuard (t : CodeText) : Text :=
  if t.head? = some (CodePoint.ofChar ' ') then ['\\'] else []

/-- A double-quoted text from `column` on.  It is continued on the next line behind a backslash, but
neither in front of its first nor behind its last code point, and only at a space or next to an
escape; `fresh` says that an escape or a line end stands directly in front. -/
def escapedFrom (fold : Bool) (indent : Nat) (first fresh : Bool) (column : Nat) :
    CodeText → Text
  | [] => []
  | p :: rest =>
    let mayBreak := fold && !first && !rest.isEmpty
    let lineEnd (next : CodeText) : Text := '\\' :: '\n' :: blanks indent ++ spaceGuard next
    match quotedForm p with
    | .escape e =>
      let behind := column + e.length
      if mayBreak ∧ lineWidth + 1 < behind then
        e ++ lineEnd rest ++
          escapedFrom fold indent false true (indent + (spaceGuard rest).length) rest
      else e ++ escapedFrom fold indent false true behind rest
    | .bare c =>
      if mayBreak ∧ (c = ' ' ∨ fresh) ∧ lineWidth < column then
        lineEnd (p :: rest) ++ c ::
          escapedFrom fold indent false false (indent + (spaceGuard (p :: rest)).length + 1) rest
      else c :: escapedFrom fold indent false false (column + 1) rest

def writtenText (asKey : Bool) (indent column : Nat) (points : CodeText) : Text :=
  let escaped := '"' :: escapedFrom (!asKey) indent true false (column + 1) points ++ ['"']
  match points.chars? with
  | none => escaped
  | some t =>
    match quotesFor asKey t with
    | .none => foldedFrom false (!asKey) indent none column t
    | .single => '\x27' :: foldedFrom true (!asKey) indent none (column + 1) t ++ ['\x27']
    | .double => escaped

def intText (n : Int) : Text := Text.ofString (toString n)

def boolText (b : Bool) : Text := if b then ['t', 'r', 'u', 'e'] else ['f', 'a', 'l', 's', 'e']

/-- A fraction always has a point, and its special values have names that start with one. -/
def floatText (x : Binary64) : Text :=
  if x.isNaN then Text.ofString ".nan"
  else if x.isInfinite then Text.ofString (if x.isNegative then "-.inf" else ".inf")
  else if x.text.contains '.' then x.text
  else x.text.flatMap fun c => if c = 'e' then ['.', '0', 'e'] else [c]

/-- A scalar that begins in `column`.  Apart from texts only a moment has a space, behind which
it can be continued on the next line. -/
def writtenScalar (asKey : Bool) (indent column : Nat) : Scalar → Text
  | .null => ['n', 'u', 'l', 'l']
  | .bool b => boolText b
  | .int n => intText n
  | .float x => floatText x
  | .date d => d.iso
  | .moment m => foldedFrom false (!asKey) indent none column m.text
  | .text points => writtenText asKey indent column points

end SqlSnippet.Yaml
