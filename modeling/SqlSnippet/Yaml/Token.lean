import SqlSnippet.Yaml.Scalar

/-!
# Tokens

A text is cut into tokens: scalars, the marks of flow collections, and the beginnings and
ends of blocks, which come from the indentation.  Whether a scalar or a flow collection is
a key is known only at the colon behind it.  Up to then it is a candidate, and it stays
one on its own line and within 1024 characters; the colon puts the key token in front of it.
Anchors, tags, directives and literal blocks are not part of a configuration and are refused.
Where the text cannot be cut any further the tokens end in a fault.  Tokens behind an open candidate
are not handed over before that candidate is settled, so a fault hides them.
-/

namespace SqlSnippet.Yaml

/-- A piece of a text. -/
inductive Token where
  | documentStart
  | documentEnd
  | blockSequence
  | blockMapping
  | blockEnd
  | flowSequence
  | flowSequenceEnd
  | flowMapping
  | flowMappingEnd
  | item
  | comma
  | key
  | value
  | plain (text : Text)
  | quoted (points : CodeText)
  | fault (error : ReadError)
deriving DecidableEq, Repr

/-- A place where a key may have begun. -/
structure KeyCandidate where
  position : Nat
  /-- It stands at the margin of its block, so nothing but a key may stand there. -/
  required : Bool
  index : Nat
  line : Nat
  column : Nat
deriving DecidableEq, Repr

/-- Where the scanner stands and what it found so far. -/
structure Scanner where
  text : Text
  index : Nat
  line : Nat
  column : Nat
  /-- The tokens, the last one first. -/
  tokens : List Token
  /-- The columns of the open blocks, the innermost one first. -/
  blocks : List Nat
  /-- The candidate of each open flow collection, the innermost one first, and of the block. -/
  candidates : List (Option KeyCandidate)
  keyAllowed : Bool
deriving Repr

namespace Scanner

def start (t : Text) : Scanner := ⟨t, 0, 0, 0, [], [], [none], true⟩

def inFlow (s : Scanner) : Bool := 1 < s.candidates.length

/-- The first column of a line that continues a scalar of the innermost block. -/
def margin (s : Scanner) : Nat :=
  match s.blocks with
  | [] => 0
  | column :: _ => column + 1

/-- The scanner behind one character.  A byte order mark takes no column. -/
def behindChar (s : Scanner) (c : Char) : Scanner :=
  if isBreak c then { s with index := s.index + 1, line := s.line + 1, column := 0 }
  else if c = '\uFEFF' then { s with index := s.index + 1 }
  else { s with index := s.index + 1, column := s.column + 1 }

def moveTo (s : Scanner) (rest : Text) : Scanner :=
  { (s.text.take (s.text.length - rest.length)).foldl behindChar s with text := rest }

/-- The text behind spaces, comments and line breaks, and whether there was a line break. -/
def skipGaps (inComment sawBreak : Bool) : Text → Text × Bool
  | [] => ([], sawBreak)
  | c :: rest =>
    if isBreak c then skipGaps false true rest
    else if inComment || c == ' ' then skipGaps inComment sawBreak rest
    else if c = '#' then skipGaps true sawBreak rest
    else (c :: rest, sawBreak)

def emit (s : Scanner) (token : Token) (rest : Text) : Scanner :=
  { s.moveTo rest with tokens := token :: s.tokens }

/-- The number of blocks whose column lies behind `column`. -/
def closing (column : Nat) (blocks : List Nat) : Nat :=
  (blocks.takeWhile (column < ·)).length

def close (s : Scanner) (count : Nat) : Scanner :=
  { s with
    tokens := List.replicate count .blockEnd ++ s.tokens
    blocks := s.blocks.drop count }

/-- Close the blocks that a token in the current column ends. -/
def unwind (s : Scanner) : Scanner :=
  if s.inFlow then s else s.close (closing s.column s.blocks)

def unwindAll (s : Scanner) : Scanner := if s.inFlow then s else s.close s.blocks.length

def opensBlock (s : Scanner) (column : Nat) : Bool :=
  match s.blocks with
  | [] => true
  | innermost :: _ => innermost < column

/-- Open a block in the current column, unless it is open already. -/
def openBlock (s : Scanner) (token : Token) : Scanner :=
  if s.opensBlock s.column then
    { s with tokens := token :: s.tokens, blocks := s.column :: s.blocks }
  else s

/-- Give up a candidate; a required one must not be given up. -/
def giveUp : Option KeyCandidate → Except ReadError (Option KeyCandidate)
  | some k => if k.required then .error .malformed else .ok none
  | none => .ok none

def dropCandidate (s : Scanner) : Except ReadError Scanner :=
  match s.candidates with
  | [] => .ok s
  | innermost :: outer =>
    (giveUp innermost).map fun gone => { s with candidates := gone :: outer }

/-- A candidate is too far back to be a key. -/
def isStale (s : Scanner) (k : KeyCandidate) : Bool :=
  k.line != s.line || 1024 < s.index - k.index

def dropStale (s : Scanner) : Except ReadError Scanner := do
  let candidates ← s.candidates.mapM fun candidate =>
    match candidate with
    | some k => if s.isStale k then giveUp (some k) else .ok (some k)
    | none => .ok none
  return { s with candidates := candidates }

/-- Take the current place as a candidate, where a key is allowed. -/
def noteCandidate (s : Scanner) : Except ReadError Scanner :=
  if s.keyAllowed then
    s.dropCandidate.map fun s =>
      let required := !s.inFlow && s.blocks.head? == some s.column
      let candidate := ⟨s.tokens.length, required, s.index, s.line, s.column⟩
      { s with candidates := some candidate :: s.candidates.drop 1 }
  else .ok s

def insertToken (position : Nat) (token : Token) (tokens : List Token) : List Token :=
  let later := tokens.length - position
  tokens.take later ++ token :: tokens.drop later

/-! ## One token -/

def marker (s : Scanner) (token : Token) : Except ReadError Scanner :=
  s.unwindAll.dropCandidate.map fun s =>
    { s.emit token (s.text.drop 3) with keyAllowed := false }

def flowStart (s : Scanner) (token : Token) (rest : Text) : Except ReadError Scanner :=
  s.noteCandidate.map fun s =>
    { s.emit token rest with candidates := none :: s.candidates, keyAllowed := true }

def flowEnd (s : Scanner) (token : Token) (rest : Text) : Except ReadError Scanner :=
  if s.inFlow then
    s.dropCandidate.map fun s =>
      { s.emit token rest with candidates := s.candidates.drop 1, keyAllowed := false }
  else .error .malformed

def comma (s : Scanner) (rest : Text) : Except ReadError Scanner :=
  s.dropCandidate.map fun s => { s.emit .comma rest with keyAllowed := true }

/-- A mark that opens a block in its column: the dash of an item or the mark of a long key. -/
def blockMark (s : Scanner) (block token : Token) (keyAllowed : Bool) (rest : Text) :
    Except ReadError Scanner :=
  if !s.inFlow && !s.keyAllowed then .error .malformed
  else
    let opened := if s.inFlow then s else s.openBlock block
    opened.dropCandidate.map fun s => { s.emit token rest with keyAllowed := keyAllowed }

/-- A colon: it makes the candidate a key, or stands for the value of an empty key. -/
def colon (s : Scanner) (rest : Text) : Except ReadError Scanner :=
  match s.candidates with
  | some k :: outer =>
    let keyed :=
      { s with candidates := none :: outer, tokens := insertToken k.position .key s.tokens }
    let opened :=
      if !s.inFlow && s.opensBlock k.column then
        { keyed with
          tokens := insertToken k.position .blockMapping keyed.tokens
          blocks := k.column :: keyed.blocks }
      else keyed
    .ok { opened.emit .value rest with keyAllowed := false }
  | _ => s.blockMark .blockMapping .value (!s.inFlow) rest

def plainScalar (s : Scanner) : Except ReadError Scanner :=
  s.noteCandidate.map fun s =>
    let (value, rest) := readPlain s.inFlow s.margin s.column s.text
    { s.emit (.plain value) rest with keyAllowed := false }

def quotedScalar (s : Scanner) (quote : Char) (body : Text) : Except ReadError Scanner := do
  let s ← s.noteCandidate
  let (value, rest) ← readQuoted quote body
  return { s.emit (.quoted value) rest with keyAllowed := false }

def startsPlain (inFlow : Bool) (c : Char) (rest : Text) : Bool :=
  !(isGap c || ("-?:,[]\x7b\x7d#&*!|>%@\x60\"\x27".toList).contains c) ||
    (!atGap rest && (c == '-' || (!inFlow && (c == '?' || c == ':'))))

/-- Read the token in front of which the scanner stands. -/
def step (s : Scanner) : Except ReadError Scanner :=
  match s.text with
  | [] => .ok s
  | c :: rest =>
    if s.column = 0 ∧ atMarker s.text then
      s.marker (if c = '-' then .documentStart else .documentEnd)
    else if c = '[' then s.flowStart .flowSequence rest
    else if c = '{' then s.flowStart .flowMapping rest
    else if c = ']' then s.flowEnd .flowSequenceEnd rest
    else if c = '}' then s.flowEnd .flowMappingEnd rest
    else if c = ',' then s.comma rest
    else if c = '-' ∧ atGap rest then s.blockMark .blockSequence .item true rest
    else if c = '?' ∧ (s.inFlow ∨ atGap rest) then
      s.blockMark .blockMapping .key (!s.inFlow) rest
    else if c = ':' ∧ (s.inFlow ∨ atGap rest) then s.colon rest
    else if c = '\x27' ∨ c = '"' then s.quotedScalar c rest
    else if startsPlain s.inFlow c rest then s.plainScalar
    else .error .malformed

def prepare (s : Scanner) : Except ReadError Scanner :=
  let (rest, sawBreak) := skipGaps false false s.text
  let moved := s.moveTo rest
  ({ moved with keyAllowed := s.keyAllowed || (sawBreak && !s.inFlow) }.dropStale).map unwind

/-- The tokens in front of the first candidate that is still open. -/
def settled (s : Scanner) : List Token :=
  let isOpen : Option KeyCandidate → Option Nat
    | some k => if s.isStale k then none else some k.position
    | none => none
  s.tokens.reverse.take ((s.candidates.filterMap isOpen).foldl min s.tokens.length)

/-- The tokens of a text that cannot be cut any further. -/
def faulty (s : Scanner) (e : ReadError) : List Token := s.settled ++ [.fault e]

/-- The scanner behind its next token; none behind the last one. -/
def advance (s : Scanner) : Except ReadError (Option Scanner) := do
  let s ← s.prepare
  if s.text.isEmpty then return none else return some (← s.step)

def finish (s : Scanner) : List Token :=
  match s.prepare.bind fun s => s.unwindAll.dropCandidate with
  | .ok last => last.tokens.reverse
  | .error e => s.faulty e

/-- All tokens from here on, up to the end of the text or to the fault that stands there.  Each step
takes at least one character, so as many steps as there are characters, and one more to see
the end, are enough. -/
def run (fault : Option ReadError) : Nat → Scanner → List Token
  | 0, s => s.faulty .malformed
  | steps + 1, s =>
    match s.advance with
    | .ok (some next) => run fault steps next
    | .ok none =>
      match fault with
      | some e => s.faulty e
      | none => s.finish
    | .error e => s.faulty e

end Scanner

def withoutOrderMark : Text → Text
  | c :: rest => if c = '\uFEFF' then rest else c :: rest
  | [] => []

def tokensOf (t : Text) (fault : Option ReadError) : List Token :=
  let body := withoutOrderMark t
  Scanner.run fault (body.length + 1) (.start body)

end SqlSnippet.Yaml
