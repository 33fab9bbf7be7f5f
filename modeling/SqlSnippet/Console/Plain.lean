import SqlSnippet.Console.Event

/-!
# Console events without styles

A terminal that knows no styles shows each event as lines of text.  The tags of a message are left
out, and what was escaped is shown as it was meant.
-/

namespace SqlSnippet

/-- What is shown of a text with markup, inside a tag or behind `slashes` backslashes. -/
def unmarkedFrom (inTag : Bool) (slashes : Nat) : Text → Text
  | [] => List.replicate slashes '\\'
  | c :: rest =>
    if inTag then unmarkedFrom (c ≠ ']') 0 rest
    else if c = '\\' then unmarkedFrom false (slashes + 1) rest
    else if c = '[' && isTagBody rest then
      List.replicate (slashes / 2) '\\' ++
        if slashes % 2 = 1 then c :: unmarkedFrom false 0 rest else unmarkedFrom true 0 rest
    else List.replicate slashes '\\' ++ c :: unmarkedFrom false 0 rest

def Text.unmarked (t : Text) : Text := unmarkedFrom false 0 t

def tableLines (rows : List Row) : List Text :=
  let titles := tableColumns.map fun column => Text.ofString column.title
  let cells := titles :: rows.map fun row => row.cells.map fun cell => cell.standIn.unmarked
  let widths := cells.foldl (fun widths row => List.zipWith max widths (row.map List.length))
    (titles.map List.length)
  cells.map fun row =>
    (Text.join [' ', ' '] (List.zipWith (fun width cell =>
      cell ++ List.replicate (width - cell.length) ' ') widths row)).stripRight

/-- An event as it is shown; only a prompt leaves its line open. -/
def ConsoleEvent.plain : ConsoleEvent → Text
  | message markup => markup.standIn.unmarked ++ ['\n']
  | table rows => (tableLines rows).flatMap fun line => line ++ ['\n']
  | line text => text.plain ++ ['\n']
  | previewPanel body => Text.ofString previewTitle ++ '\n' :: body.plain ++ ['\n']
  | textPanel title body => title.standIn.unmarked ++ '\n' :: body.standIn.unmarked ++ ['\n']
  | prompt text => Text.ofString text

end SqlSnippet
