import SqlSnippet.Text.Basic

/-!
# Month names

The English months in full and by their first three letters.  A name is recognised
whatever the case of its letters.
-/

namespace SqlSnippet

def shortMonths : List Text :=
  [['J', 'A', 'N'], ['F', 'E', 'B'], ['M', 'A', 'R'], ['A', 'P', 'R'],
   ['M', 'A', 'Y'], ['J', 'U', 'N'], ['J', 'U', 'L'], ['A', 'U', 'G'],
   ['S', 'E', 'P'], ['O', 'C', 'T'], ['N', 'O', 'V'], ['D', 'E', 'C']]

def fullMonths : List Text :=
  [['J', 'A', 'N', 'U', 'A', 'R', 'Y'],
   ['F', 'E', 'B', 'R', 'U', 'A', 'R', 'Y'],
   ['M', 'A', 'R', 'C', 'H'],
   ['A', 'P', 'R', 'I', 'L'],
   ['M', 'A', 'Y'],
   ['J', 'U', 'N', 'E'],
   ['J', 'U', 'L', 'Y'],
   ['A', 'U', 'G', 'U', 'S', 'T'],
   ['S', 'E', 'P', 'T', 'E', 'M', 'B', 'E', 'R'],
   ['O', 'C', 'T', 'O', 'B', 'E', 'R'],
   ['N', 'O', 'V', 'E', 'M', 'B', 'E', 'R'],
   ['D', 'E', 'C', 'E', 'M', 'B', 'E', 'R']]

/-- The position of the month with this name in the year, counted from zero. -/
def monthIndex? (name : Text) : Option Nat :=
  let capitals := name.map Char.toUpper
  (shortMonths.idxOf? capitals).or (fullMonths.idxOf? capitals)

/-- The first letter as it is and the others small. -/
def capitalized : Text → Text
  | [] => []
  | c :: rest => c :: rest.map Char.toLower

end SqlSnippet
