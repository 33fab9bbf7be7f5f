import SqlSnippet.Text.CodePoint

/-!
# Paths

A path is a list of names with slashes between them.  Its names need not be texts: half of a
pair stands for a byte that begins no character.  Where a path leads depends on the folders
at hand; this module has what can be said of the path alone.
-/

namespace SqlSnippet

/-- The names on the way from the root to a file or folder. -/
abbrev Place := List CodeText

namespace CodePoint

/-- Half of a pair that stands for a byte above 127. -/
def isByte (p : CodePoint) : Bool := 0xDC80 ≤ p.val && p.val ≤ 0xDCFF

def byteSize (p : CodePoint) : Nat := (p.char?.map Char.utf8Size).getD 1

end CodePoint

def CodeText.byteSize (t : CodeText) : Nat := t.foldl (fun size p => size + p.byteSize) 0

namespace Path

def slash : CodePoint := .ofChar '/'

def dot : CodePoint := .ofChar '.'

def isAbsolute (path : CodeText) : Bool := path.head? == some slash

/-- The names of a path; a slash at its end asks for the folder itself. -/
def names (path : CodeText) : List CodeText :=
  ((path.splitOn slash).filter fun name => !name.isEmpty) ++
    if path.getLast? = some slash then [[dot]] else []

/-- The path without the slashes at its end, unless it has nothing else. -/
def withoutEndSlashes (path : CodeText) : CodeText :=
  if path.all (· = slash) then path else (path.reverse.dropWhile (· = slash)).reverse

/-- The path of the folder that a path leads through last. -/
def folder (path : CodeText) : CodeText :=
  withoutEndSlashes (path.reverse.dropWhile (· ≠ slash)).reverse

def lastName (path : CodeText) : CodeText := (path.reverse.takeWhile (· ≠ slash)).reverse

/-- The folder that a path lies in and its name there; a slash at the end of the path counts for
nothing. -/
def parent (path : CodeText) : CodeText × CodeText :=
  if (lastName path).isEmpty then (folder (folder path), lastName (folder path))
  else (folder path, lastName path)

/-- A path that holds a NUL character, or half of a pair that stands for no byte, names nothing. -/
def isNamable (path : CodeText) : Bool :=
  path.all fun p => p != .ofChar '\x00' && (p.char?.isSome || p.isByte)

def maxNameSize : Nat := 255

def maxPathSize : Nat := 4095

end Path

end SqlSnippet
