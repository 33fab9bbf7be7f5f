/-!
# Character classes as code point ranges

A class of characters is kept as an ascending list of closed intervals of code
points.  Classes that hold every second character of an interval, as the cased
alphabets do, carry a step beside the two ends.
-/

namespace SqlSnippet.Chars

/-- Ascending closed intervals of code points. -/
abbrev Ranges := List (Nat × Nat)

def Ranges.holds (table : Ranges) (c : Char) : Bool :=
  table.any fun r => r.1 ≤ c.toNat && c.toNat ≤ r.2

/-- Intervals `(first, last, step)`: the code points `first`, `first + step`, … up to `last`. -/
abbrev Strides := List (Nat × Nat × Nat)

/-- One stride reaches the code point `n`. -/
def strideHolds (first last step n : Nat) : Bool :=
  first ≤ n && n ≤ last && (n - first) % step == 0

def Strides.holds (table : Strides) (c : Char) : Bool :=
  table.any fun r => strideHolds r.1 r.2.1 r.2.2 c.toNat

end SqlSnippet.Chars
