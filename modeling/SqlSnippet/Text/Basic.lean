import SqlSnippet.Chars.Blank

/-!
# Texts

A text is a list of characters, so that offsets count characters and every
operation is a recursion on the list.  This module has the operations on white
space and on separators.
-/

namespace SqlSnippet

/-- A piece of SQL, a literal or a name, as its characters. -/
abbrev Text := List Char

def Text.ofString (s : String) : Text := s.toList

def Text.toString (t : Text) : String := String.ofList t

namespace Text

open Chars

def stripLeft (t : Text) : Text := t.dropWhile isBlank

def stripRight (t : Text) : Text := (t.reverse.dropWhile isBlank).reverse

/-- The text without the blanks around it. -/
def strip (t : Text) : Text := t.stripLeft.stripRight

def indentation (t : Text) : Text := t.takeWhile isBlank

theorem indentation_append_stripLeft (t : Text) : t.indentation ++ t.stripLeft = t :=
  List.takeWhile_append_dropWhile

/-- The maximal runs of characters that are not blank. -/
def words : Text → List Text
  | [] => []
  | c :: rest =>
    if isBlank c then words rest
    else match rest, words rest with
      | d :: _, w :: ws => if isBlank d then [c] :: w :: ws else (c :: w) :: ws
      | _, ws => [c] :: ws

/-- The parts between the occurrences of a separator; one part when there is none. -/
def splitOn (sep : Char) : Text → List Text
  | [] => [[]]
  | c :: rest =>
    if c = sep then [] :: splitOn sep rest
    else match splitOn sep rest with
      | [] => [[c]]
      | part :: parts => (c :: part) :: parts

def join (sep : Text) (parts : List Text) : Text := List.intercalate sep parts

/-- The text with a line feed for every carriage return, alone or in front of a line feed. -/
def unifyLines : Text → Text
  | '\r' :: '\n' :: rest => '\n' :: unifyLines rest
  | '\r' :: rest => '\n' :: unifyLines rest
  | c :: rest => c :: unifyLines rest
  | [] => []

theorem splitOn_ne_nil (sep : Char) (t : Text) : splitOn sep t ≠ [] := by
  cases t with
  | nil => simp [splitOn]
  | cons c rest =>
    unfold splitOn
    split
    · simp
    · split <;> simp

end Text

end SqlSnippet
