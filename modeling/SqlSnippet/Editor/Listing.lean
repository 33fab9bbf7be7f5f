import SqlSnippet.Editor.Control
import SqlSnippet.Text.Json

/-!
# Listings

A listing gives the controls of a snippet as JSON for other programs: an array with one
object per control, one member a line, each level indented by two spaces.
-/

namespace SqlSnippet

def jsonBool (b : Bool) : Text := Text.ofString (if b then "true" else "false")

def jsonNat (n : Nat) : Text := Text.ofString (toString n)

def Control.members (c : Control) : List (String × Text) :=
  [("index", jsonNat c.index), ("label", c.label.json), ("kind", (Text.ofString c.kind.name).json),
    ("input_type", (Text.ofString c.inputType.name).json), ("value", c.seed.json),
    ("original_value", c.literal.json), ("is_commented", jsonBool c.isCommented),
    ("toggle_label", (Text.ofString c.toggleLabel).json), ("dimmed", jsonBool c.dimmed),
    ("line_start", jsonNat c.lineStart)]

/-- Parts on lines of their own with commas between them, between two brackets. -/
def bracketed (opening closing : Char) (indent : Nat) (parts : List Text) : Text :=
  if parts.isEmpty then [opening, closing]
  else
    let line := '\n' :: List.replicate (indent + 2) ' '
    opening :: line ++ Text.join (',' :: line) parts ++ '\n' :: List.replicate indent ' ' ++
      [closing]

def Control.object (c : Control) : Text :=
  bracketed '\x7b' '\x7d' 2
    (c.members.map fun (name, value) => (Text.ofString name).json ++ Text.ofString ": " ++ value)

/-- The listing of controls. -/
def listing (list : List Control) : Text := bracketed '[' ']' 0 (list.map Control.object)

end SqlSnippet
