import SqlSnippet.Number.Rounding
import SqlSnippet.Text.Basic

/-!
# Reading decimals

A decimal is read as the binary fraction next to it.  It has ASCII digits, at most one point,
and an exponent if there is one; infinities and values that are no number go by their names.
-/

namespace SqlSnippet

def isAsciiDigit (c : Char) : Bool := '0' ≤ c && c ≤ '9'

def asciiNumber (digits : Text) : Nat := digits.foldl (fun n c => 10 * n + (c.toNat - 48)) 0

/-- The binary fraction next to `digits * 10 ^ exponent`, where the digits may start with zeros.
What is beyond the largest fraction is infinite, and what is far below the smallest is zero. -/
def Binary64.nearest (digits : Text) (exponent : Int) : Binary64 :=
  let n := asciiNumber digits
  if n = 0 ∨ exponent + digits.length < -400 then ⟨0⟩
  else if 400 < exponent then .infinity
  else .ofQuotient (n * Nat.pow 10 exponent.toNat) (Nat.pow 10 (-exponent).toNat)

/-- A sign and the rest; no sign is a plus. -/
def signed (t : Text) : Bool × Text :=
  match t with
  | '-' :: rest => (true, rest)
  | '+' :: rest => (false, rest)
  | _ => (false, t)

/-- The exponent that stands behind the mark `e`; zero when nothing does. -/
def exponent? : Text → Option Int
  | [] => some 0
  | _ :: rest =>
    let (negative, digits) := signed rest
    if digits.isEmpty || !digits.all isAsciiDigit then none
    else some (if negative then -(asciiNumber digits : Int) else asciiNumber digits)

def Binary64.ofUnsigned? (t : Text) : Option Binary64 :=
  if t = ['i', 'n', 'f'] then some .infinity
  else if t = ['n', 'a', 'n'] then some .notANumber
  else
    let mantissa := t.takeWhile (· ≠ 'e')
    let whole := mantissa.takeWhile (· ≠ '.')
    let fraction := (mantissa.dropWhile (· ≠ '.')).drop 1
    let digits := whole ++ fraction
    if digits.isEmpty || !digits.all isAsciiDigit then none
    else (exponent? (t.dropWhile (· ≠ 'e'))).map fun e => .nearest digits (e - fraction.length)

def Binary64.ofDecimal? (t : Text) : Option Binary64 :=
  let (negative, body) := signed t
  (Binary64.ofUnsigned? body).map fun x => if negative then x.negate else x

end SqlSnippet
