import SqlSnippet.Console.Markup
import SqlSnippet.Editor.Control
import SqlSnippet.Editor.Preview

/-!
# What the console shows

Everything that reaches the console is an event: a message with markup, the table of
controls, a styled line, a panel, or a prompt at which an answer is read.
-/

namespace SqlSnippet

/-- A row of the table of controls. -/
structure Row where
  cells : List CodeText
  dimmed : Bool
deriving DecidableEq, Repr

structure TableColumn where
  title : String
  style : String
  justify : String
deriving DecidableEq, Repr

def tableColumns : List TableColumn :=
  [⟨"#", "dim", "right"⟩, ⟨"Field", "bold", "left"⟩, ⟨"Type", "", "left"⟩,
    ⟨"Value", "yellow", "left"⟩, ⟨"Action", "", "left"⟩]

/-- Something that is shown. -/
inductive ConsoleEvent where
  | message (markup : CodeText)
  | table (rows : List Row)
  | line (text : StyledText)
  | previewPanel (body : StyledText)
  | textPanel (title body : CodeText)
  | prompt (text : String)
deriving DecidableEq, Repr

def ConsoleEvent.isPrompt : ConsoleEvent → Bool
  | prompt _ => true
  | _ => false

def previewTitle : String := "SQL"

def Control.row (c : Control) : Row where
  cells :=
    [.ofString (toString c.index), c.label.escaped.codePoints, .ofString c.inputType.name,
      c.shownValue.escaped.codePoints,
      tagged (if c.isCommented then "green" else "red") (.ofString c.toggleLabel)]
  dimmed := c.dimmed

/-- The table of controls, or a notice that there are none. -/
def showControls (list : List Control) : ConsoleEvent :=
  if list.isEmpty then .message (tagged "yellow" (.ofString "No parameters found"))
  else .table (list.map Control.row)

def helpLine : StyledText :=
  let pieces : List (String × Style) :=
    [("#", .dim), (" edit  ", .green), ("t #", .dim), (" comment/uncomment  ", .yellow),
      ("s", .dim), (" save  ", .cyan), ("q", .dim), (" quit", .red)]
  pieces.foldl (fun s (piece, style) => s.append (Text.ofString piece) style)
    ⟨Text.ofString "  ", none, []⟩

/-- A prompt with an optional default behind it. -/
def promptText (question : Text) (default : Option Text) : String :=
  let hint := match default with
    | some value => Text.ofString " (" ++ value ++ [')']
    | none => []
  (question ++ hint ++ Text.ofString ": ").shown.toString

end SqlSnippet
