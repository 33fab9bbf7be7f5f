import SqlSnippet.Clause.Read
import SqlSnippet.Order

/-!
# Finding the clauses of a snippet

A scan tries one form of clause at the beginning of every word, from the left, and
goes on behind each clause that it finds.  Ranges are found first.  A list counts
unless it overlaps a range, and a comparison unless it overlaps a range or a
counted list.  The clauses that count never overlap, and they are given in the
order in which they stand.
-/

namespace SqlSnippet

open Chars

/-- A clause and the position at which it starts. -/
structure Hit where
  start : Nat
  clause : Clause
deriving DecidableEq, Repr

def Hit.stop (h : Hit) : Nat := h.start + h.clause.text.length

/-- The two clauses share a character. -/
def Hit.overlaps (a b : Hit) : Bool :=
  a.start < b.stop && b.start < a.stop

/-- The clauses of one form in a text that begins at `pos`, after passing over its
first `skip` characters.  `inWord` tells whether a word character stands before
the text, so that no word begins there. -/
def scanFrom (read? : Text → Option (Clause × Text)) :
    (pos skip : Nat) → (inWord : Bool) → Text → List Hit
  | _, _, _, [] => []
  | pos, skip + 1, _, c :: rest => scanFrom read? (pos + 1) skip (isWord c) rest
  | pos, 0, inWord, c :: rest =>
    match if inWord then none else read? (c :: rest) with
    | some (clause, after) =>
      ⟨pos, clause⟩ :: scanFrom read? (pos + 1) (rest.length - after.length) (isWord c) rest
    | none => scanFrom read? (pos + 1) 0 (isWord c) rest

/-- All clauses of one form, from the left and without overlaps. -/
def scan (read? : Text → Option (Clause × Text)) (t : Text) : List Hit :=
  scanFrom read? 0 0 false t

def rangeHits (t : Text) : List Hit :=
  scan (fun t => (RangeClause.read? t).map fun (c, rest) => (.range c, rest)) t

/-- The lists of a snippet, whether they count or not. -/
def listHits (t : Text) : List Hit :=
  scan (fun t => (ListClause.read? t).map fun (c, rest) => (.list c, rest)) t

def comparisonHits (t : Text) : List Hit :=
  scan (fun t => (Comparison.read? t).map fun (c, rest) => (.comparison c, rest)) t

/-- Those of `hits` that overlap none of `taken`. -/
def apartFrom (taken hits : List Hit) : List Hit :=
  hits.filter fun h => !taken.any h.overlaps

/-- The clauses that count, form by form. -/
def countedHits (t : Text) : List Hit :=
  let ranges := rangeHits t
  let lists := apartFrom ranges (listHits t)
  let comparisons := apartFrom (ranges ++ lists) (comparisonHits t)
  ranges ++ lists ++ comparisons

/-- The clauses of a snippet, in the order in which they stand. -/
def clauses (t : Text) : List Hit := sortByKey Hit.start (countedHits t)

end SqlSnippet
