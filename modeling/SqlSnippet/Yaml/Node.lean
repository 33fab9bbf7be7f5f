import SqlSnippet.Yaml.Token

/-!
# Nodes

A document is a tree of scalars, sequences and mappings.  The tokens of a tree are read from the
front; a key or a value that is missing counts as an empty plain scalar.  A text holds at most one
document.  Where the tokens end in a fault, reading fails for the reason of the fault, unless an
earlier token is out of place.
-/

namespace SqlSnippet.Yaml

/-- A node of a document. -/
inductive Node where
  | plain (text : Text)
  | quoted (points : CodeText)
  | sequence (items : List Node)
  | mapping (pairs : List (Node × Node))
deriving Repr, Inhabited

namespace Node

def empty : Node := .plain []

def nextIs (these : List Token) (tokens : List Token) : Bool :=
  match tokens with
  | [] => false
  | token :: _ => these.contains token

def failure (tokens : List Token) : ReadError :=
  match tokens with
  | .fault e :: _ => e
  | _ => .malformed

/-- What may follow the key or the value of a block mapping that is left out. -/
def pairEnds : List Token := [.key, .value, .blockEnd]

/-! ## Reading from the front

The first argument bounds the depth of the calls; every call that does not fail at once either
takes a token or is followed by one that does. -/

mutual

/-- A node, and the tokens behind it.  In a mapping a sequence may stand at the
margin of the mapping. -/
def read (depth : Nat) (inMapping : Bool) (tokens : List Token) :
    Except ReadError (Node × List Token) :=
  match depth with
  | 0 => .error .malformed
  | depth + 1 =>
    match tokens with
    | .plain text :: rest => .ok (.plain text, rest)
    | .quoted points :: rest => .ok (.quoted points, rest)
    | .item :: _ =>
      if inMapping then
        (readLooseItems depth tokens).map fun (items, rest) => (.sequence items, rest)
      else .error (failure tokens)
    | .blockSequence :: rest =>
      (readItems depth rest).map fun (items, rest) => (.sequence items, rest)
    | .blockMapping :: rest =>
      (readPairs depth rest).map fun (pairs, rest) => (.mapping pairs, rest)
    | .flowSequence :: rest =>
      (readFlowItems depth true rest).map fun (items, rest) => (.sequence items, rest)
    | .flowMapping :: rest =>
      (readFlowPairs depth true rest).map fun (pairs, rest) => (.mapping pairs, rest)
    | _ => .error (failure tokens)

def readOrEmpty (depth : Nat) (ends : List Token) (inMapping : Bool) (tokens : List Token) :
    Except ReadError (Node × List Token) :=
  match depth with
  | 0 => .error .malformed
  | depth + 1 => if nextIs ends tokens then .ok (empty, tokens) else read depth inMapping tokens

/-- The value behind a key, which may be left out with its colon. -/
def readValue (depth : Nat) (ends : List Token) (inMapping : Bool) (tokens : List Token) :
    Except ReadError (Node × List Token) :=
  match depth with
  | 0 => .error .malformed
  | depth + 1 =>
    match tokens with
    | .value :: rest => readOrEmpty depth ends inMapping rest
    | _ => .ok (empty, tokens)

def readItems (depth : Nat) (tokens : List Token) : Except ReadError (List Node × List Token) :=
  match depth with
  | 0 => .error .malformed
  | depth + 1 =>
    match tokens with
    | .item :: rest => do
      let (node, rest) ← readOrEmpty depth [.item, .blockEnd] false rest
      let (nodes, rest) ← readItems depth rest
      return (node :: nodes, rest)
    | .blockEnd :: rest => .ok ([], rest)
    | _ => .error (failure tokens)

/-- The items of a sequence at the margin of a mapping, which has no end of its own. -/
def readLooseItems (depth : Nat) (tokens : List Token) :
    Except ReadError (List Node × List Token) :=
  match depth with
  | 0 => .error .malformed
  | depth + 1 =>
    match tokens with
    | .item :: rest => do
      let (node, rest) ← readOrEmpty depth (.item :: pairEnds) false rest
      let (nodes, rest) ← readLooseItems depth rest
      return (node :: nodes, rest)
    | _ => .ok ([], tokens)

def readPairs (depth : Nat) (tokens : List Token) :
    Except ReadError (List (Node × Node) × List Token) :=
  match depth with
  | 0 => .error .malformed
  | depth + 1 =>
    match tokens with
    | .key :: rest => do
      let (key, rest) ← readOrEmpty depth pairEnds true rest
      let (value, rest) ← readValue depth pairEnds true rest
      let (pairs, rest) ← readPairs depth rest
      return ((key, value) :: pairs, rest)
    | .blockEnd :: rest => .ok ([], rest)
    | _ => .error (failure tokens)

/-- The items of a flow sequence, up to its bracket.  An item with a key is a mapping of one
pair. -/
def readFlowItems (depth : Nat) (first : Bool) (tokens : List Token) :
    Except ReadError (List Node × List Token) :=
  match depth with
  | 0 => .error .malformed
  | depth + 1 =>
    match tokens, first with
    | .flowSequenceEnd :: rest, _ => .ok ([], rest)
    | .comma :: .flowSequenceEnd :: rest, false => .ok ([], rest)
    | .comma :: rest, false => readFlowItem depth rest
    | rest, true => readFlowItem depth rest
    | _, false => .error (failure tokens)

def readFlowItem (depth : Nat) (tokens : List Token) : Except ReadError (List Node × List Token) :=
  match depth with
  | 0 => .error .malformed
  | depth + 1 => do
    let ends := [Token.comma, .flowSequenceEnd]
    let (node, rest) ← match tokens with
      | .key :: rest => do
        let (key, rest) ← readOrEmpty depth (.value :: ends) false rest
        let (value, rest) ← readValue depth ends false rest
        pure (.mapping [(key, value)], rest)
      | _ => read depth false tokens
    let (nodes, rest) ← readFlowItems depth false rest
    return (node :: nodes, rest)

def readFlowPairs (depth : Nat) (first : Bool) (tokens : List Token) :
    Except ReadError (List (Node × Node) × List Token) :=
  match depth with
  | 0 => .error .malformed
  | depth + 1 =>
    match tokens, first with
    | .flowMappingEnd :: rest, _ => .ok ([], rest)
    | .comma :: .flowMappingEnd :: rest, false => .ok ([], rest)
    | .comma :: rest, false => readFlowPair depth rest
    | rest, true => readFlowPair depth rest
    | _, false => .error (failure tokens)

/-- One pair of a flow mapping and those behind it.  A node without a key token has no value. -/
def readFlowPair (depth : Nat) (tokens : List Token) :
    Except ReadError (List (Node × Node) × List Token) :=
  match depth with
  | 0 => .error .malformed
  | depth + 1 => do
    let ends := [Token.comma, .flowMappingEnd]
    let (pair, rest) ← match tokens with
      | .key :: rest => do
        let (key, rest) ← readOrEmpty depth (.value :: ends) false rest
        let (value, rest) ← readValue depth ends false rest
        pure ((key, value), rest)
      | _ => (read depth false tokens).map fun (node, rest) => ((node, empty), rest)
    let (pairs, rest) ← readFlowPairs depth false rest
    return (pair :: pairs, rest)

end

/-- What was read is all that there is, ends of documents apart. -/
def alone (read : Except ReadError (Node × List Token)) : Except ReadError Node :=
  read.bind fun (node, rest) =>
    match rest.dropWhile (· == .documentEnd) with
    | [] => .ok node
    | next => .error (failure next)

/-- The only document of a text; none when there is no document at all. -/
def document? (tokens : List Token) : Except ReadError (Option Node) :=
  let depth := 4 * tokens.length + 4
  match tokens with
  | [] => .ok none
  | .documentStart :: rest =>
    if rest.isEmpty || nextIs [.documentStart, .documentEnd] rest then
      (alone (.ok (empty, rest))).map some
    else (alone (read depth false rest)).map some
  | _ => (alone (read depth false tokens)).map some

end Node

end SqlSnippet.Yaml
