import SqlSnippet.Settings.Sorted
import SqlSnippet.Yaml.Written

/-!
# Written settings

A table is written in block form, one key a line in the order of a sorted table, with what belongs
to a key indented by two columns below it; the items of a list stand at the margin of their key.
Empty tables and lists are written as a pair of brackets.  A key that is empty, long or of several
lines gets a question mark, and its colon stands on a line of its own.
-/

namespace SqlSnippet.Yaml

def newLine (indent : Nat) : Text := '\n' :: blanks indent

def isShortKey : Scalar → Bool
  | .text points =>
    !points.isEmpty && !points.any (fun p => p.char?.any isBreak) && points.length < 123
  | .int n => (intText n).length < 123
  | _ => true

/-- A scalar or an empty collection that begins in a column; nothing for the others. -/
def inlineText? (indent column : Nat) : Setting → Option Text
  | .scalar s => some (writtenScalar false indent column s)
  | .list [] => some ['[', ']']
  | .table [] => some ['{', '}']
  | .list (_ :: _) | .table (_ :: _) => none

mutual

/-- What follows the colon of a short key that ends in front of `column`. -/
def behindKey (indent column : Nat) (value : Setting) : Text :=
  match value with
  | .list (item :: items) => newLine indent ++ writtenItems indent (item :: items)
  | .table (entry :: entries) =>
    newLine (indent + 2) ++ writtenEntries (indent + 2) (entry :: entries)
  | scalar => ' ' :: (inlineText? (indent + 2) (column + 1) scalar).getD []
termination_by structural value

def behindMark (indent : Nat) (value : Setting) : Text :=
  match value with
  | .list (item :: items) => ' ' :: writtenItems (indent + 2) (item :: items)
  | .table (entry :: entries) => ' ' :: writtenEntries (indent + 2) (entry :: entries)
  | scalar => ' ' :: (inlineText? (indent + 2) (indent + 2) scalar).getD []
termination_by structural value

def writtenItems (indent : Nat) (items : List Setting) : Text :=
  match items with
  | [] => []
  | item :: rest =>
    '-' :: behindMark indent item ++
      if rest.isEmpty then [] else newLine indent ++ writtenItems indent rest
termination_by structural items

def writtenEntries (indent : Nat) (entries : List (Scalar × Setting)) : Text :=
  match entries with
  | [] => []
  | (key, value) :: rest =>
    (if isShortKey key then
      let written := writtenScalar true (indent + 2) indent key
      written ++ ':' :: behindKey indent (indent + written.length + 1) value
    else
      '?' :: ' ' :: writtenScalar false (indent + 2) (indent + 2) key ++ newLine indent ++
        ':' :: behindMark indent value) ++
      if rest.isEmpty then [] else newLine indent ++ writtenEntries indent rest
termination_by structural entries

end

/-- The document of a table that is sorted already. -/
def writtenTable (entries : Settings) : Text :=
  (if entries.isEmpty then ['{', '}'] else writtenEntries 0 entries) ++ ['\n']

def writeSettings? (settings : Settings) : Option Text :=
  if Settings.haveText settings then
    some (writtenTable (Settings.sorted (Settings.sortedEntries settings)))
  else none

end SqlSnippet.Yaml
