import SqlSnippet.Text.CodePoint

/-!
# Markup

Messages for the console carry their styles as tags in brackets.  Text that is not meant
as markup is escaped: a backslash goes before every bracket that could open a tag, and the
backslashes in front of it are doubled.
-/

namespace SqlSnippet

def isTagStart (c : Char) : Bool :=
  c.isLower || c == '#' || c == '/' || c == '@'

def isBracket (c : Char) : Bool := c == '[' || c == ']'

/-- What follows an opening bracket makes it a tag: a fitting first character, and a closing bracket
before any other opening one. -/
def isTagBody : Text → Bool
  | [] => false
  | c :: rest =>
    isTagStart c && List.find? isBracket rest == some ']'

/-- Escape a text behind `slashes` backslashes. -/
def escapeBehind (slashes : Nat) : Text → Text
  | [] => List.replicate slashes '\\'
  | c :: rest =>
    if c = '\\' then escapeBehind (slashes + 1) rest
    else
      let before := if c = '[' && isTagBody rest then 2 * slashes + 1 else slashes
      List.replicate before '\\' ++ c :: escapeBehind 0 rest

/-- A text that is shown as it is.  A single backslash at the end is doubled, so that it does not
escape what comes next. -/
def Text.escaped (t : Text) : Text :=
  let e := escapeBehind 0 t
  match e.reverse with
  | '\\' :: '\\' :: _ => e
  | '\\' :: _ => e ++ ['\\']
  | _ => e

/-- A message in a style. -/
def tagged (style : String) (message : CodeText) : CodeText :=
  let name := Text.ofString style
  Text.codePoints ('[' :: name ++ [']']) ++ message ++ Text.codePoints ('[' :: '/' :: name ++ [']'])

/-- The bodies of the tags in a text behind `slashes` backslashes.  A tag behind an odd number of
them is none. -/
def tagsBehind (slashes : Nat) : Text → List Text
  | [] => []
  | c :: rest =>
    if c = '\\' then tagsBehind (slashes + 1) rest
    else if c = '[' ∧ isTagBody rest ∧ slashes % 2 = 0 then
      rest.takeWhile (· ≠ ']') :: tagsBehind 0 rest
    else tagsBehind 0 rest

/-- The name in the body of a tag, in front of its parameters. -/
def tagName (body : Text) : Text := Text.strip ((body.takeWhile (· ≠ '=')).map Char.toLower)

/-- Every closing tag closes one of the open tags, the last one if it has no name. -/
def closesTags (opened : List Text) : List Text → Bool
  | [] => true
  | ('/' :: body) :: rest =>
    let name := tagName body
    if name.isEmpty then !opened.isEmpty && closesTags opened.tail rest
    else opened.contains name && closesTags (opened.erase name) rest
  | body :: rest => closesTags (tagName body :: opened) rest

end SqlSnippet
