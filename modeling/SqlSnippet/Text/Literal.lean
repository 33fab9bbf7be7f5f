import SqlSnippet.Text.Basic

/-!
# Literals and member lists

A SQL string literal is its content between single quotes, with every quote of the
content written twice.  The members of an `IN` list are separated by commas, and
each of them is read back without the blanks and the pair of quotes around it.
-/

namespace SqlSnippet

def quoteMark : Char := '\x27'

namespace Text

def doubleQuotes (value : Text) : Text :=
  value.flatMap fun c => if c = quoteMark then [quoteMark, quoteMark] else [c]

/-- A value between quotes, just as it is. -/
def enclosed (value : Text) : Text := quoteMark :: value ++ [quoteMark]

/-- A value as a SQL literal. -/
def quoted (value : Text) : Text := value.doubleQuotes.enclosed

/-- A member without the pair of quotes around it; a lone quote stays. -/
def unquoted : Text → Text
  | [] => []
  | c :: rest =>
    if c = quoteMark ∧ rest.getLast? = some quoteMark then rest.dropLast else c :: rest

end Text

/-- The members of a list body: split at commas, stripped and unquoted. -/
def splitMembers (body : Text) : List Text :=
  (body.splitOn ',').map fun member => member.strip.unquoted

/-- The literals that a new value of a list stands for, one for each comma-separated part. -/
def quoteMembers (value : Text) : List Text :=
  (value.splitOn ',').map fun member => member.strip.quoted

def joinMembers (members : List Text) : Text := Text.join [',', ' '] members

end SqlSnippet
