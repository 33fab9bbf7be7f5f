import SqlSnippet.Number.Binary64

/-!
# Rounding

A positive quotient is rounded to the binary fraction next to it, and to the one with the even
mantissa if two are as near.  All steps are taken in whole numbers, so nothing is rounded twice.
-/

namespace SqlSnippet

/-- The whole number next to a quotient; the even one of two. -/
def roundQuotient (num den : Nat) : Nat :=
  let below := num / den
  let twice := 2 * (num % den)
  if twice < den ∨ (twice = den ∧ below % 2 = 0) then below else below + 1

/-- The exponent for which the mantissa of a positive quotient has 53 bits, or the least one. -/
def mantissaExponent (num den : Nat) : Int :=
  let low : Int := (num.log2 : Int) - den.log2 - 53
  let full := Nat.pow 2 53 * den * Nat.pow 2 low.toNat ≤ num * Nat.pow 2 (-low).toNat
  max (if full then low + 1 else low) (-1074)

/-- The fraction next to a quotient; the infinite one if it is beyond the largest. -/
def Binary64.ofQuotient (num den : Nat) : Binary64 :=
  if num = 0 then ⟨0⟩
  else
    let exponent := mantissaExponent num den
    let mantissa :=
      roundQuotient (num * Nat.pow 2 (-exponent).toNat) (den * Nat.pow 2 exponent.toNat)
    let bits := (exponent + 1074).toNat * Nat.pow 2 52 + mantissa
    if bits < 0x7FF0000000000000 then ⟨bits.toUInt64⟩ else .infinity

def Binary64.ofNat (n : Nat) : Binary64 := .ofQuotient n 1

end SqlSnippet
