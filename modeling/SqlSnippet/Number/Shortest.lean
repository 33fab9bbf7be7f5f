import SqlSnippet.Number.Binary64

/-!
# The shortest decimal of a fraction

A fraction is written with the fewest decimal digits that still name it.  Every real number
nearer to it than to its neighbours names it, and so do the two points in the middle if its
mantissa is even.  With one digit, two digits, and so on, the two decimals next to it are
tried; the first length with a success wins, and of two successes the nearer one, or the even one
if both are as near.
-/

namespace SqlSnippet

/-- The number `digits * 10 ^ exponent`. -/
structure Decimal where
  digits : Nat
  exponent : Int
deriving DecidableEq, Repr

/-- Compare `digits * 10 ^ i` with `n * 2 ^ j`. -/
def compareScaled (digits : Nat) (i : Int) (n : Nat) (j : Int) : Ordering :=
  compare (digits * Nat.pow 10 i.toNat * Nat.pow 2 (-j).toNat)
    (n * Nat.pow 2 j.toNat * Nat.pow 10 (-i).toNat)

/-- A decimal lies between the middles to the two neighbours of a magnitude; the
middles count if the mantissa is even. -/
def Magnitude.isNamedBy (x : Magnitude) (d : Decimal) : Bool :=
  let low := 4 * x.mantissa - (if x.closeBelow then 1 else 2)
  let high := 4 * x.mantissa + 2
  let even := x.mantissa % 2 == 0
  let belowHigh := compareScaled d.digits d.exponent high (x.exponent - 2)
  let aboveLow := compareScaled d.digits d.exponent low (x.exponent - 2)
  (aboveLow == .gt || even && aboveLow == .eq) && (belowHigh == .lt || even && belowHigh == .eq)

def digitCount (n : Nat) : Nat := (Nat.toDigits 10 n).length

/-- The least `k` for which a positive magnitude is below `10 ^ k`. -/
def Magnitude.scale (x : Magnitude) : Int :=
  let (num, den) := x.ratio
  if den ≤ num then digitCount (num / den) else 1 - digitCount ((den - 1) / num)

/-- The decimals of a given length on both sides of a magnitude, the nearer one first. -/
def Magnitude.neighbours (x : Magnitude) (length : Nat) : List Decimal :=
  let exponent := x.scale - length
  let (num, den) := x.ratio
  let num := num * Nat.pow 10 (-exponent).toNat
  let den := den * Nat.pow 10 exponent.toNat
  let below := num / den
  let twice := 2 * (num % den)
  if twice < den ∨ (twice = den ∧ below % 2 = 0) then [⟨below, exponent⟩, ⟨below + 1, exponent⟩]
  else [⟨below + 1, exponent⟩, ⟨below, exponent⟩]

def Magnitude.exact (x : Magnitude) : Decimal :=
  ⟨x.mantissa * Nat.pow 2 x.exponent.toNat * Nat.pow 5 (-x.exponent).toNat, min x.exponent 0⟩

/-- The shortest decimal that names a positive magnitude. -/
def Magnitude.shortest (x : Magnitude) : Decimal :=
  ((List.range 17).findSome? fun n => (x.neighbours (n + 1)).find? x.isNamedBy).getD x.exact

def Decimal.significant (d : Decimal) : Text :=
  ((Nat.toDigits 10 d.digits).reverse.dropWhile (· = '0')).reverse

/-- The exponent of the first digit. -/
def Decimal.leading (d : Decimal) : Int := d.exponent + digitCount d.digits - 1

def exponentDigits (n : Nat) : Text :=
  if n < 10 then '0' :: Nat.toDigits 10 n else Nat.toDigits 10 n

/-- A decimal is written without an exponent from `0.0001` up to, but not including,
`10 ^ 16`, and then has at least one digit behind the point. -/
def Decimal.text (d : Decimal) : Text :=
  let digits := d.significant
  let e := d.leading
  if 0 ≤ e ∧ e < 16 then
    let whole := e.toNat + 1
    if digits.length ≤ whole then
      digits ++ List.replicate (whole - digits.length) '0' ++ ['.', '0']
    else digits.take whole ++ '.' :: digits.drop whole
  else if -4 ≤ e ∧ e < 0 then '0' :: '.' :: List.replicate ((-e).toNat - 1) '0' ++ digits
  else
    let mantissa := match digits with
      | [] => []
      | [c] => [c]
      | c :: rest => c :: '.' :: rest
    mantissa ++ 'e' :: (if e < 0 then '-' else '+') :: exponentDigits e.natAbs

def Binary64.text (x : Binary64) : Text :=
  if x.isNaN then ['n', 'a', 'n']
  else
    let body :=
      if x.isInfinite then ['i', 'n', 'f']
      else if x.isZero then ['0', '.', '0']
      else x.magnitude.shortest.text
    if x.isNegative then '-' :: body else body

end SqlSnippet
