import SqlSnippet.Chars.Digit
import SqlSnippet.Text.Basic

/-!
# Reading whole numbers

Whole numbers are read in the decimal digits of any script, with at most 4300 digits.  A number
that was typed as an argument may have blanks around it, a sign, and single underscores between
its digits.
-/

namespace SqlSnippet

open Chars

def maxDigits : Nat := 4300

def numberOf? (digits : Text) : Option Nat :=
  digits.foldlM (fun n c => (decimalValue? c).map (10 * n + ·)) 0

def isDigitText (t : Text) : Bool := !t.isEmpty && t.all isDigit

/-- The number that a text of digits stands for; none when a digit is not decimal or when
there are too many of them. -/
def digitsNumber? (digits : Text) : Option Nat :=
  if digits.length ≤ maxDigits then numberOf? digits else none

/-- The digits without the underscores between them; none when an underscore does not stand
between two digits. -/
def ungroupDigits? : Text → Option Text
  | [] => none
  | [c] => if c = '_' then none else some [c]
  | c :: d :: rest =>
    if c = '_' then none
    else if d = '_' then (ungroupDigits? rest).map (c :: ·)
    else (ungroupDigits? (d :: rest)).map (c :: ·)

/-- A blank that may stand around a number: none of the four ASCII separators. -/
def isNumberBlank (c : Char) : Bool :=
  isBlank c && !(0x1C ≤ c.toNat && c.toNat ≤ 0x1F)

def unsigned? (t : Text) : Option Nat := (ungroupDigits? t).bind digitsNumber?

def integerOf? (t : Text) : Option Int :=
  let body := ((t.dropWhile isNumberBlank).reverse.dropWhile isNumberBlank).reverse
  match body with
  | '-' :: rest => (unsigned? rest).map fun n => -(n : Int)
  | '+' :: rest => (unsigned? rest).map Int.ofNat
  | _ => (unsigned? body).map Int.ofNat

end SqlSnippet
