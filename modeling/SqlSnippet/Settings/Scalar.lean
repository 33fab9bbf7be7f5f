import SqlSnippet.Calendar.Moment
import SqlSnippet.Number.Binary64
import SqlSnippet.Text.CodePoint

/-!
# Scalars

A scalar is a value without parts.  A table binds scalars of every kind, so it has to be said when
two of them are the same key and which of them comes first.  Each scalar has a rank for that:
numbers rank by their values, whatever their form, and truth values among them as one and zero;
days, clocks, moments and texts rank among their own kind.
-/

namespace SqlSnippet

/-- A value without parts. -/
inductive Scalar where
  | null
  | bool (b : Bool)
  | int (n : Int)
  | float (x : Binary64)
  | date (d : Date)
  | moment (m : Moment)
  | text (t : CodeText)
deriving DecidableEq, Repr, Inhabited

/-- Where a scalar stands among all keys. -/
inductive KeyRank where
  | null
  | notANumber
  | minusInfinity
  | number (value : Rat)
  | infinity
  | day (number : Nat)
  /-- A time on a clock whose zone is not known. -/
  | clock (microseconds : Int)
  /-- A time that is the same everywhere. -/
  | instant (microseconds : Int)
  | text (t : CodeText)
deriving DecidableEq

/-- The kinds of ranks that can be compared with each other. -/
inductive KeyKind where
  | number
  | day
  | clock
  | instant
  | text
deriving DecidableEq

def Binary64.rank (x : Binary64) : KeyRank :=
  if x.isNaN then .notANumber
  else if x.isInfinite then (if x.isNegative then .minusInfinity else .infinity)
  else .number x.value

def Moment.rank (m : Moment) : KeyRank :=
  match m.zone with
  | none => .clock m.clock
  | some lead => .instant (m.clock - lead * 60 * 1000000)

def Scalar.rank : Scalar → KeyRank
  | .null => .null
  | .bool b => .number (if b then 1 else 0)
  | .int n => .number n
  | .float x => x.rank
  | .date d => .day d.dayNumber
  | .moment m => m.rank
  | .text t => .text t

namespace KeyRank

/-- The kind of a rank; null cannot be compared with anything. -/
def kind? : KeyRank → Option KeyKind
  | null => none
  | notANumber | minusInfinity | number _ | infinity => some .number
  | day _ => some .day
  | clock _ => some .clock
  | instant _ => some .instant
  | text _ => some .text

def isComparable (a b : KeyRank) : Bool := a.kind?.isSome && a.kind? == b.kind?

/-- A rank comes before another one.  A value that is no number comes before nothing. -/
def before : KeyRank → KeyRank → Bool
  | number a, number b => a < b
  | minusInfinity, number _ | minusInfinity, infinity | number _, infinity => true
  | day a, day b => a < b
  | clock a, clock b => a < b
  | instant a, instant b => a < b
  | text a, text b => a < b
  | _, _ => false

end KeyRank

namespace Scalar

/-- Two scalars are the same key. -/
def isKey (a b : Scalar) : Prop := a.rank = b.rank

instance (a b : Scalar) : Decidable (isKey a b) := inferInstanceAs (Decidable (a.rank = b.rank))

def named (name : Text) : Scalar := .text name.codePoints

theorem isKey_refl (a : Scalar) : isKey a a := rfl

theorem isKey_symm {a b : Scalar} (h : isKey a b) : isKey b a := Eq.symm h

theorem isKey_trans {a b c : Scalar} (h : isKey a b) (h' : isKey b c) : isKey a c := Eq.trans h h'

end Scalar

end SqlSnippet
