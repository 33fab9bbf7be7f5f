import SqlSnippet.Text.Basic

/-!
# Binary fractions

A fraction is kept as the 64 bits of its binary format, so that two fractions can be
compared and told apart.  A finite one is a whole number times a power of two; the bits also
hold a sign, the infinities, and values that are no number.
-/

namespace SqlSnippet

/-- A number in the binary format of 64 bits. -/
structure Binary64 where
  bits : UInt64
deriving DecidableEq, Repr

namespace Binary64

def ofFloat (x : Float) : Binary64 := ⟨x.toBits⟩

def toFloat (x : Binary64) : Float := Float.ofBits x.bits

def isNegative (x : Binary64) : Bool := Nat.pow 2 63 ≤ x.bits.toNat

def exponentField (x : Binary64) : Nat := x.bits.toNat / Nat.pow 2 52 % Nat.pow 2 11

def fractionField (x : Binary64) : Nat := x.bits.toNat % Nat.pow 2 52

def isNaN (x : Binary64) : Bool := x.exponentField == 2047 && x.fractionField != 0

def isInfinite (x : Binary64) : Bool := x.exponentField == 2047 && x.fractionField == 0

/-- The value is zero, whatever its sign. -/
def isZero (x : Binary64) : Bool := x.exponentField == 0 && x.fractionField == 0

def negate (x : Binary64) : Binary64 := ⟨x.bits ^^^ 0x8000000000000000⟩

def infinity : Binary64 := ⟨0x7FF0000000000000⟩

def notANumber : Binary64 := ⟨0x7FF8000000000000⟩

end Binary64

/-- The magnitude of a finite number, `mantissa * 2 ^ exponent`. -/
structure Magnitude where
  mantissa : Nat
  exponent : Int
  /-- The next smaller magnitude is half as far away as the next larger one. -/
  closeBelow : Bool
deriving DecidableEq, Repr

def Binary64.magnitude (x : Binary64) : Magnitude :=
  if x.exponentField = 0 then ⟨x.fractionField, -1074, false⟩
  else ⟨Nat.pow 2 52 + x.fractionField, (x.exponentField : Int) - 1075,
    x.fractionField == 0 && 1 < x.exponentField⟩

/-- The magnitude as a quotient of two whole numbers. -/
def Magnitude.ratio (x : Magnitude) : Nat × Nat :=
  (x.mantissa * Nat.pow 2 x.exponent.toNat, Nat.pow 2 (-x.exponent).toNat)

/-- The exact value of a finite number. -/
def Binary64.value (x : Binary64) : Rat :=
  let (num, den) := x.magnitude.ratio
  mkRat (if x.isNegative then -num else num) den

end SqlSnippet
