import SqlSnippet.Text.Basic

/-!
# Control sequences

A terminal takes some characters for orders, above all control sequences: an escape and a bracket,
parameters, a few marks and a last character.  A text that is printed where no terminal
reads it has them taken out.
-/

namespace SqlSnippet

namespace Text

def isParameter (c : Char) : Bool := '0' ≤ c && c ≤ '?'

def isIntermediate (c : Char) : Bool := ' ' ≤ c && c ≤ '/'

def isFinal (c : Char) : Bool := '@' ≤ c && c ≤ '~'

/-- The length of the control sequence that a text begins with; zero if it does not. -/
def sequenceLength : Text → Nat
  | '\x1B' :: '[' :: rest =>
    let behind := (rest.dropWhile isParameter).dropWhile isIntermediate
    match behind with
    | c :: _ => if isFinal c then rest.length - behind.length + 3 else 0
    | [] => 0
  | _ => 0

/-- The text without its control sequences, where the first `skipped` characters are part of one. -/
def stripSequences (skipped : Nat) : Text → Text
  | [] => []
  | c :: rest =>
    match skipped with
    | more + 1 => stripSequences more rest
    | 0 =>
      match sequenceLength (c :: rest) with
      | 0 => c :: stripSequences 0 rest
      | more + 1 => stripSequences more rest

def withoutSequences (t : Text) : Text := stripSequences 0 t

end Text

end SqlSnippet
