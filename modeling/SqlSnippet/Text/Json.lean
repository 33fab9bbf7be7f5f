import SqlSnippet.Text.Hex

/-!
# JSON texts

A text in JSON stands between double quotes and has only printable ASCII characters.  All others
are escaped by their 16-bit units, a character above `0xFFFF` by two of them.
-/

namespace SqlSnippet

/-- A unit of 16 bits as an escape. -/
def unitEscape (unit : Nat) : Text := '\\' :: 'u' :: hexDigits 4 unit

def jsonChar (c : Char) : Text :=
  if c = '"' ∨ c = '\\' then ['\\', c]
  else if c = '\n' then ['\\', 'n']
  else if c = '\r' then ['\\', 'r']
  else if c = '\t' then ['\\', 't']
  else if c = '\x08' then ['\\', 'b']
  else if c = '\x0C' then ['\\', 'f']
  else if ' ' ≤ c ∧ c ≤ '~' then [c]
  else if c.toNat < 0x10000 then unitEscape c.toNat
  else
    let n := c.toNat - 0x10000
    unitEscape (0xD800 + n / 0x400) ++ unitEscape (0xDC00 + n % 0x400)

/-- A text in JSON. -/
def Text.json (t : Text) : Text := '"' :: t.flatMap jsonChar ++ ['"']

end SqlSnippet
