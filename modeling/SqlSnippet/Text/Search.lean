import SqlSnippet.Chars.Case
import SqlSnippet.Text.Basic

/-!
# Searching and replacing

Exact search for a piece of text, search without regard to case, and the two ways
in which a signed offset names a position: counted from the end when it is
negative, or cut off at the start.
-/

namespace SqlSnippet.Text

open Chars

/-- The first position at which `needle` occurs. -/
def find? (needle : Text) : Text → Option Nat
  | [] => if needle.isEmpty then some 0 else none
  | c :: rest =>
    if needle.isPrefixOf (c :: rest) then some 0 else (find? needle rest).map (· + 1)

/-- Exchange the `size` characters at position `at` for `new`. -/
def splice (t : Text) (pos size : Nat) (new : Text) : Text :=
  t.take pos ++ new ++ t.drop (pos + size)

def replaceFirst (old new t : Text) : Text :=
  match find? old t with
  | some i => t.splice i old.length new
  | none => t

/-- Exchange every occurrence of `old`, from the left and without overlaps, after
passing over the first `skip` characters. -/
def replaceAllFrom (old new : Text) : Nat → Text → Text
  | _, [] => []
  | skip + 1, _ :: rest => replaceAllFrom old new skip rest
  | 0, c :: rest =>
    if old.isPrefixOf (c :: rest) then new ++ replaceAllFrom old new (old.length - 1) rest
    else c :: replaceAllFrom old new 0 rest

def replaceAll (old new t : Text) : Text := replaceAllFrom old new 0 t

/-- Read `word` off the front of a text, whatever the case of its letters: the
characters read and the rest. -/
def readFolded? : Text → Text → Option (Text × Text)
  | [], t => some ([], t)
  | _ :: _, [] => none
  | p :: ps, c :: t =>
    if sameLetter p c then (readFolded? ps t).map fun (read, rest) => (c :: read, rest)
    else none

/-- The position named by an offset that counts from the end when it is negative,
cut off at both ends. -/
def position (t : Text) (offset : Int) : Nat :=
  if offset < 0 then (offset + t.length).toNat else min offset.toNat t.length

/-- The first occurrence of `needle` at or after the position of a signed offset. -/
def findFrom? (needle t : Text) (offset : Int) : Option Nat :=
  (find? needle (t.drop (t.position offset))).map (· + t.position offset)

end SqlSnippet.Text
