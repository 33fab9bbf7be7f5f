import SqlSnippet.Parameter

/-!
# Writing a new value

A new value is written where the old one is looked for.  A single literal is searched exactly
from the beginning of the parameter; a bound is searched behind its keyword,
without regard to case; a list is read again at the beginning of its clause, or else
searched by the text of the clause.  When the search fails, every literal with the old
value is exchanged instead, so that no parameter is too stale to be applied.
-/

namespace SqlSnippet

open Chars

/-- What is known of a parameter when it is replaced.  It need not belong to the
text at hand: its fields may hold anything and its offsets may be negative. -/
structure Target where
  field : Text
  kind : Kind
  value : Text
  start : Int
  clauseStart : Int
  clause : Text
  isDate : Bool
deriving DecidableEq, Repr

/-- What a parameter tells about its own replacement. -/
def Parameter.target (p : Parameter) : Target where
  field := p.field
  kind := p.kind
  value := p.value
  start := p.start
  clauseStart := p.clauseStart
  clause := p.clause
  isDate := p.isDate

/-- Why a targeted replacement is impossible. -/
inductive Miss where
  | literal (old : Text) (offset : Int)
  | bound (keyword value : Text) (offset : Int)
  | list (field : Text)
  /-- The offset does not fit a signed machine word, so no search can start there. -/
  | hugeOffset
deriving DecidableEq, Repr

/-- A date in the ISO form takes the style of the date that it replaces; every other value
is taken as it is. -/
def Target.prepare (target : Target) (value : Text) : Text :=
  if target.isDate then
    match Date.ofIso? value, DateStyle.of? target.value with
    | some d, some style => style.render d
    | _, _ => value
  else value

/-- An ISO date that replaces a date without a style. -/
def Target.lacksStyle (target : Target) (value : Text) : Bool :=
  target.isDate && (Date.ofIso? value).isSome && (DateStyle.of? target.value).isNone

/-! ## Lists -/

/-- The text with its first pair of parentheses holding `body` instead. -/
def exchangeBody (body : Text) : Text → Text
  | [] => []
  | c :: rest =>
    if c = '(' then
      match rest.dropWhile (· ≠ ')') with
      | _ :: after => '(' :: body ++ ')' :: after
      | [] => c :: rest
    else c :: exchangeBody body rest

def readBareList? (field t : Text) : Option (Text × Text) := do
  let (name, t) ← Text.readFolded? field t
  let (gap₁, t) ← readGap? t
  let (inWord, t) ← Text.readFolded? ['i', 'n'] t
  let gap₂ := t.takeWhile isBlank
  let (body, t) ← readBody? (t.dropWhile isBlank)
  some (name ++ gap₁ ++ inWord ++ gap₂ ++ '(' :: body ++ [')'], t)

def readListOf? (field t : Text) : Option (Text × Text) :=
  let qualified := do
    let (table, rest) ← readWord? t
    match rest with
    | '.' :: rest =>
      (readBareList? field rest).map fun (read, rest) => (table ++ '.' :: read, rest)
    | _ => none
  match qualified with
  | some found => some found
  | none => readBareList? field t

/-- The position at which a search with a signed offset starts: never before the
beginning, never behind the end. -/
def searchStart (t : Text) (offset : Int) : Nat := min offset.toNat t.length

def offsetBound : Int := 0x8000000000000000

/-- A search can start at the offset: it fits a signed machine word of 64 bits.  An offset
inside the text always does, since no text is longer than such a word can count. -/
def isSearchable (t : Text) (offset : Int) : Bool :=
  -offsetBound ≤ offset && (offset < offsetBound || offset ≤ t.length)

/-- The text after a targeted replacement; `relocated` tells that a list was found
by the text of its clause and not at its offset. -/
structure Replacement where
  text : Except Miss Text
  relocated : Bool

def replaceList (t : Text) (target : Target) (value : Text) : Replacement :=
  let body := joinMembers (quoteMembers value)
  if !isSearchable t target.clauseStart then ⟨.error .hugeOffset, false⟩
  else
    let pos := searchStart t target.clauseStart
    match readListOf? target.field (t.drop pos) with
    | some (read, rest) => ⟨.ok (t.take pos ++ exchangeBody body read ++ rest), false⟩
    | none =>
      if (Text.find? target.clause t).isNone then ⟨.error (.list target.field), true⟩
      else ⟨.ok (Text.replaceFirst target.clause (exchangeBody body target.clause) t), true⟩

/-- Read a keyword, blanks and a literal with this value: what stands before the literal,
and the rest. -/
def readBound? (keyword value t : Text) : Option (Text × Text) := do
  let (word, t) ← Text.readFolded? keyword t
  let (gap, t) ← readGap? t
  let (_, t) ← Text.readFolded? value.enclosed t
  some (word ++ gap, t)

/-- The first bound with this keyword and value: all that stands before its literal, and the
rest. -/
def findBound? (keyword value : Text) : Text → Option (Text × Text)
  | [] => none
  | c :: t =>
    match readBound? keyword value (c :: t) with
    | some found => some found
    | none => (findBound? keyword value t).map fun (before, rest) => (c :: before, rest)

def replaceBound (t : Text) (target : Target) (keyword value : Text) : Replacement :=
  if !isSearchable t target.start then ⟨.error .hugeOffset, false⟩
  else
    let pos := searchStart t target.start
    match findBound? keyword target.value (t.drop pos) with
    | some (before, rest) => ⟨.ok (t.take pos ++ before ++ value.quoted ++ rest), false⟩
    | none => ⟨.error (.bound keyword target.value target.start), false⟩

def replaceLiteral (t : Text) (target : Target) (value : Text) : Replacement :=
  let old := target.value.quoted
  match Text.findFrom? old t target.start with
  | some i => ⟨.ok (t.splice i old.length value.quoted), false⟩
  | none => ⟨.error (.literal old target.start), false⟩

/-- Replace the literal of a target at the place that its kind leads to. -/
def replaceTargeted (t : Text) (target : Target) (value : Text) : Replacement :=
  match target.kind with
  | .list => replaceList t target value
  | .rangeStart => replaceBound t target ['b', 'e', 't', 'w', 'e', 'e', 'n'] value
  | .rangeEnd => replaceBound t target ['a', 'n', 'd'] value
  | .simple => replaceLiteral t target value

/-- Replace every literal that holds the old value, letter by letter as it is. -/
def replaceEverywhere (t : Text) (target : Target) (value : Text) : Text :=
  Text.replaceAll target.value.enclosed value.quoted t

/-- The text with a new value for a target. -/
def substitute (t : Text) (target : Target) (value : Text) : Text :=
  let prepared := target.prepare value
  match (replaceTargeted t target prepared).text with
  | .ok text => text
  | .error _ => replaceEverywhere t target prepared

end SqlSnippet
