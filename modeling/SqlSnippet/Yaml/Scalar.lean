import SqlSnippet.Text.CodePoint
import SqlSnippet.Text.Hex
import SqlSnippet.Yaml.Chars

/-!
# Reading scalars

A scalar is read from the front of a text, and what stands behind it is given back.  A plain
scalar ends where a colon, a comment or an indicator begins; a quoted one ends at its quote.
Both may run over several lines: a single line break becomes a space, and of several in a row
all but the first are kept.  An escape between double quotes may name half of a pair of units, so a
quoted scalar is read as code points.
-/

namespace SqlSnippet.Yaml

/-- What the line breaks inside a scalar leave: the first one, unless it is a plain line feed, and
all further ones; a single line feed leaves a space. -/
def foldBreaks (first : Char) (more : Text) : Text :=
  (if first = '\n' then (if more.isEmpty then [' '] else []) else [first]) ++ more

def keptBreak (c : Char) : Char := if c = '\x85' then '\n' else c

/-- The gap between two words of a plain scalar. -/
inductive PlainGap where
  | none
  | spaces (count : Nat)
  | breaks (first : Char) (more : Text)
deriving DecidableEq, Repr

/-- What a gap leaves between the words around it. -/
def PlainGap.text : PlainGap → Text
  | none => []
  | spaces count => List.replicate count ' '
  | breaks first more => foldBreaks first more

/-- A word of a plain scalar ends in front of `c`, which `rest` follows. -/
def endsPlain (inFlow : Bool) (c : Char) (rest : Text) : Bool :=
  isGap c ||
    (c == ':' && (atGap rest ||
      inFlow && match rest with
        | d :: _ => [',', '[', ']', '{', '}'].contains d
        | [] => false)) ||
    (inFlow && [',', '?', '[', ']', '{', '}'].contains c)

/-- The scalar and what stands behind it.  Here `column` is the column of the next character,
`gap` stands in front of it, and `mark` is the text with that gap. -/
def plainFrom (inFlow : Bool) (indent : Nat) (column : Nat) (gap : PlainGap) (mark : Text) :
    Text → Text × Text
  | [] => ([], mark)
  | c :: rest =>
    if c = ' ' then
      let wider := match gap with
        | .none => .spaces 1
        | .spaces count => .spaces (count + 1)
        | .breaks first more => .breaks first more
      plainFrom inFlow indent (column + 1) wider mark rest
    else if isBreak c then
      if atMarker rest then ([], mark)
      else
        let longer := match gap with
          | .breaks first more => .breaks first (more ++ [keptBreak c])
          | _ => .breaks (keptBreak c) []
        plainFrom inFlow indent 0 longer mark rest
    else if endsPlain inFlow c rest then ([], mark)
    else if gap ≠ .none ∧ (c = '#' ∨ (!inFlow ∧ column < indent)) then ([], mark)
    else
      let (value, behind) := plainFrom inFlow indent (column + 1) .none rest rest
      (gap.text ++ c :: value, behind)

def readPlain (inFlow : Bool) (indent column : Nat) (t : Text) : Text × Text :=
  plainFrom inFlow indent column .none t t

def escapedChar? (c : Char) : Option Char :=
  ([('0', '\x00'), ('a', '\x07'), ('b', '\x08'), ('t', '\t'), ('\t', '\t'), ('n', '\n'),
    ('v', '\x0B'), ('f', '\x0C'), ('r', '\r'), ('e', '\x1B'), (' ', ' '), ('"', '"'), ('\\', '\\'),
    ('/', '/'), ('N', '\x85'), ('_', '\xA0'), ('L', '\u2028'), ('P', '\u2029')].find?
      fun p => p.1 == c).map Prod.snd

/-- The number of hexadecimal digits that a letter behind a backslash asks for. -/
def escapeWidth? (c : Char) : Option Nat :=
  if c = 'x' then some 2 else if c = 'u' then some 4 else if c = 'U' then some 8 else none

/-- The code point with a number.  There is none above `0x10FFFF`, and a number of more than 31 bits
is too large to be asked for. -/
def codePointAt (n : Nat) : Except ReadError CodePoint :=
  if h : n < 0x110000 then .ok ⟨n, h⟩
  else if n < Nat.pow 2 31 then .error .invalidScalar
  else .error .overflow

/-- Where the reader of a quoted scalar stands. -/
inductive QuotedState where
  /-- Behind blanks that are kept unless a line break follows them. -/
  | inLine (blanks : Text)
  /-- At the beginning of a line, behind the text that the line breaks leave. -/
  | lineStart (first : Option Char) (more : Text)
  /-- Behind a backslash. -/
  | escape
  /-- Inside the digits of a code point. -/
  | code (left value : Nat)
deriving DecidableEq, Repr

/-- What was read of a quoted scalar, and the text behind it. -/
abbrev QuotedRead := Except ReadError (CodeText × Text)

def inFront (points : CodeText) (read : QuotedRead) : QuotedRead :=
  read.map fun r => (points ++ r.1, r.2)

namespace QuotedState

/-- The state behind a space or a tab; at the beginning of a line they count for nothing. -/
def afterBlank (c : Char) : QuotedState → QuotedState
  | inLine blanks => inLine (blanks ++ [c])
  | state => state

def afterBreak (c : Char) : QuotedState → QuotedState
  | lineStart first more => lineStart first (more ++ [c])
  | _ => lineStart (some c) []

/-- What the state leaves before the next character that is kept. -/
def pending : QuotedState → Text
  | inLine blanks => blanks
  | lineStart (some first) more => foldBreaks first more
  | lineStart none more => more
  | escape | code .. => []

end QuotedState

/-- The rest of a quoted scalar and what stands behind its quote. -/
def quotedFrom (quote : Char) (state : QuotedState) : Text → QuotedRead
  | [] => .error .malformed
  | c :: rest =>
    match state with
    | .escape =>
      match escapedChar? c, escapeWidth? c with
      | some d, _ => inFront (Text.codePoints [d]) (quotedFrom quote (.inLine []) rest)
      | none, some width => quotedFrom quote (.code width 0) rest
      | none, none =>
        if isBreak c && !atMarker rest then quotedFrom quote (.lineStart none []) rest
        else .error .malformed
    | .code left value =>
      match hexValue? c with
      | none => .error .malformed
      | some digit =>
        if left = 1 then
          match codePointAt (16 * value + digit) with
          | .ok point => inFront [point] (quotedFrom quote (.inLine []) rest)
          | .error e => .error e
        else quotedFrom quote (.code (left - 1) (16 * value + digit)) rest
    | state =>
      let kept (more : Text) : CodeText := (state.pending ++ more).codePoints
      if c = ' ' ∨ c = '\t' then quotedFrom quote (state.afterBlank c) rest
      else if isBreak c then
        if atMarker rest then .error .malformed
        else quotedFrom quote (state.afterBreak (keptBreak c)) rest
      else if c = '\\' ∧ quote = '"' then inFront (kept []) (quotedFrom quote .escape rest)
      else if c = quote then
        match rest with
        | '\x27' :: behind =>
          if quote = '\x27' then
            inFront (kept [quote]) (quotedFrom quote (.inLine []) behind)
          else .ok (kept [], rest)
        | _ => .ok (kept [], rest)
      else inFront (kept [c]) (quotedFrom quote (.inLine []) rest)

def readQuoted (quote : Char) (t : Text) : QuotedRead := quotedFrom quote (.inLine []) t

end SqlSnippet.Yaml
