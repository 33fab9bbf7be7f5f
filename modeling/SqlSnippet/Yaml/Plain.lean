import SqlSnippet.Number.Decimal
import SqlSnippet.Settings.Scalar
import SqlSnippet.Text.Hex
import SqlSnippet.Text.Number
import SqlSnippet.Yaml.Chars

/-!
# Plain scalars

A scalar without quotes stands for what it looks like: a truth value, a number, null, a date, a date
with a time of day, or else the text itself.  Numbers may have underscores between their digits;
whole numbers may be binary, octal, decimal, hexadecimal or counted in sixties, as hours and minutes
are.  A text that looks like something else has to be quoted when it is written.
-/

namespace SqlSnippet.Yaml

/-- What a plain scalar looks like. -/
inductive PlainKind where
  | text
  | null
  | bool
  | int
  | float
  | timestamp
  /-- The key under which another mapping is merged. -/
  | mergeKey
  /-- The key for the default value of a mapping. -/
  | valueKey
deriving DecidableEq, Repr

/-- A word as it stands, with a capital, and in capitals. -/
def spellings (word : String) : List Text :=
  [Text.ofString word, Text.ofString word.capitalize, Text.ofString word.toUpper]

def trueWords : List Text := ["yes", "true", "on"].flatMap spellings

def falseWords : List Text := ["no", "false", "off"].flatMap spellings

def nullWords : List Text := [] :: ['~'] :: spellings "null"

def infinityWords : List Text := [Text.ofString ".inf", Text.ofString ".Inf", Text.ofString ".INF"]

def noNumberWords : List Text := [Text.ofString ".nan", Text.ofString ".NaN", Text.ofString ".NAN"]

def isDigitOrGroup (c : Char) : Bool := isAsciiDigit c || c == '_'

/-- A digit behind which more digits and underscores may stand. -/
def isGroupedNumber : Text → Bool
  | [] => false
  | c :: rest => isAsciiDigit c && rest.all isDigitOrGroup

def isSixtieth : Text → Bool
  | [c] => isAsciiDigit c
  | [c, d] => '0' ≤ c && c ≤ '5' && isAsciiDigit d
  | _ => false

/-- Parts below sixty, separated by colons, behind a first part. -/
def isSexagesimal (t : Text) : Bool :=
  match t.splitOn ':' with
  | first :: part :: parts => isGroupedNumber first && (part :: parts).all isSixtieth
  | _ => false

def isExponent : Text → Bool
  | [] => true
  | e :: sign :: c :: rest =>
    (e == 'e' || e == 'E') && (sign == '-' || sign == '+') && (c :: rest).all isAsciiDigit
  | _ => false

/-- What may stand behind the point of a fraction. -/
def isFractionTail (t : Text) : Bool := isExponent (t.dropWhile isDigitOrGroup)

def isFraction (t : Text) : Bool :=
  match t.dropWhile isDigitOrGroup with
  | '.' :: rest => isGroupedNumber (t.takeWhile isDigitOrGroup) && isFractionTail rest
  | _ => false

def isBareFraction : Text → Bool
  | '.' :: c :: rest => isAsciiDigit c && isFractionTail rest
  | _ => false

def isSexagesimalFraction (t : Text) : Bool :=
  match t.dropWhile (· ≠ '.') with
  | _ :: rest => isSexagesimal (t.takeWhile (· ≠ '.')) && rest.all isDigitOrGroup
  | [] => false

def isFloatForm (t : Text) : Bool :=
  let body := (signed t).2
  isFraction body || isBareFraction t || isSexagesimalFraction body ||
    infinityWords.contains body || noNumberWords.contains t

def isIntForm (t : Text) : Bool :=
  match (signed t).2 with
  | ['0'] => true
  | '0' :: 'b' :: rest => !rest.isEmpty && rest.all fun c => c == '0' || c == '1' || c == '_'
  | '0' :: 'x' :: rest => !rest.isEmpty && rest.all fun c => (hexValue? c).isSome || c == '_'
  | '0' :: rest => rest.all fun c => ('0' ≤ c && c ≤ '7') || c == '_'
  | body => isGroupedNumber body || isSexagesimal body

/-! ## Forms of dates -/

/-- The number in front that has `least` to `most` digits, and the rest. -/
def numberForm? (least most : Nat) (t : Text) : Option (Nat × Text) :=
  let run := (t.take most).takeWhile isAsciiDigit
  if least ≤ run.length then some (asciiNumber run, t.drop run.length) else none

def dropChar? (c : Char) : Text → Option Text
  | d :: rest => if c = d then some rest else none
  | [] => none

/-- A day in numbers. -/
structure DayForm where
  year : Nat
  month : Nat
  day : Nat
deriving DecidableEq, Repr

/-- A day in front, with at least `least` digits for the month and as many for the day. -/
def dayForm? (least : Nat) (t : Text) : Option (DayForm × Text) := do
  let (year, t) ← numberForm? 4 4 t
  let (month, t) ← numberForm? least 2 (← dropChar? '-' t)
  let (day, t) ← numberForm? least 2 (← dropChar? '-' t)
  return (⟨year, month, day⟩, t)

def dateForm? (t : Text) : Option DayForm := do
  let (day, rest) ← dayForm? 2 t
  if rest.isEmpty then some day else none

/-- A time of day in numbers, with the digits of a fraction of a second and the lead of a zone in
minutes. -/
structure TimeForm where
  hour : Nat
  minute : Nat
  second : Nat
  fraction : Text
  zone : Option Int
deriving DecidableEq, Repr

def isBlankInLine (c : Char) : Bool := c == ' ' || c == '\t'

/-- The zone that a text names; an empty text names none. -/
def zoneForm? (t : Text) : Option (Option Int) :=
  match t.dropWhile isBlankInLine with
  | [] => if t.isEmpty then some none else none
  | ['Z'] => some (some 0)
  | sign :: rest => do
    let (hours, rest) ← numberForm? 1 2 rest
    let (minutes, rest) ← if rest.isEmpty then some (0, []) else
      (dropChar? ':' rest).bind (numberForm? 2 2)
    let lead : Int := hours * 60 + minutes
    if !rest.isEmpty then none
    else if sign = '+' then some (some lead)
    else if sign = '-' then some (some (-lead))
    else none

/-- Hours, minutes, seconds, perhaps a fraction of a second, and perhaps a zone. -/
def timeForm? (t : Text) : Option TimeForm := do
  let (hour, t) ← numberForm? 1 2 t
  let (minute, t) ← numberForm? 2 2 (← dropChar? ':' t)
  let (second, t) ← numberForm? 2 2 (← dropChar? ':' t)
  let (fraction, t) := match t with
    | '.' :: rest => (rest.takeWhile isAsciiDigit, rest.dropWhile isAsciiDigit)
    | _ => ([], t)
  return ⟨hour, minute, second, fraction, ← zoneForm? t⟩

def momentForm? (t : Text) : Option (DayForm × TimeForm) := do
  let (day, rest) ← dayForm? 1 t
  match rest with
  | [] => none
  | c :: rest =>
    if c = 'T' ∨ c = 't' then return (day, ← timeForm? rest)
    else if isBlankInLine c then return (day, ← timeForm? (rest.dropWhile isBlankInLine))
    else none

/-- What a plain scalar looks like. -/
def plainKind (t : Text) : PlainKind :=
  if trueWords.contains t || falseWords.contains t then .bool
  else if isFloatForm t then .float
  else if isIntForm t then .int
  else if t = ['<', '<'] then .mergeKey
  else if nullWords.contains t then .null
  else if (dateForm? t).isSome || (momentForm? t).isSome then .timestamp
  else if t = ['='] then .valueKey
  else .text

def numberIn (base : Nat) (digits : Text) : Option Nat :=
  if digits.isEmpty then none
  else digits.foldlM (fun n c => (hexValue? c).map (base * n + ·)) 0

def decimalNumber? (digits : Text) : Option Nat :=
  if digits.isEmpty || maxDigits < digits.length then none else some (asciiNumber digits)

def wholeNumber? (body : Text) : Option Nat :=
  match body with
  | ['0'] => some 0
  | '0' :: 'b' :: digits => numberIn 2 digits
  | '0' :: 'x' :: digits => numberIn 16 digits
  | '0' :: _ => numberIn 8 body
  | _ => (body.splitOn ':').foldlM (fun n part => (decimalNumber? part).map (60 * n + ·)) 0

def intValue? (t : Text) : Option Int :=
  let (negative, body) := signed (t.filter (· ≠ '_'))
  (wholeNumber? body).map fun n => if negative then -(n : Int) else n

/-- The fraction that parts below sixty stand for, added up from the last one.  The weight of a part
is a whole number, which must not be beyond the largest fraction. -/
def sexagesimalValue (body : Text) : Except ReadError Binary64 :=
  let step (sum : Float × Nat) (part : Text) : Except ReadError (Float × Nat) :=
    match Binary64.ofUnsigned? part with
    | none => .error .invalidScalar
    | some x =>
      let weight := Binary64.ofNat sum.2
      if weight.isInfinite then .error .overflow
      else .ok (sum.1 + x.toFloat * weight.toFloat, sum.2 * 60)
  ((body.splitOn ':').reverse.foldlM step (0, 1)).map fun sum => .ofFloat sum.1

/-- A value that was asked for, or the refusal of a scalar that has none. -/
def orInvalid {α : Type} : Option α → Except ReadError α
  | some x => .ok x
  | none => .error .invalidScalar

def floatValue (t : Text) : Except ReadError Binary64 :=
  let (negative, body) := signed (t.filter (· ≠ '_'))
  let value :=
    if infinityWords.contains body then .ok Binary64.infinity
    else if noNumberWords.contains body then .ok Binary64.notANumber
    else if body.contains ':' then sexagesimalValue body
    else orInvalid (Binary64.ofUnsigned? (body.map Char.toLower))
  value.map fun x => if negative then x.negate else x

def DayForm.date? (day : DayForm) : Option Date := Date.ofNumbers? day.year day.month day.day

/-- The microseconds that the digits behind a point stand for; more than six are cut off. -/
def microseconds (fraction : Text) : Nat :=
  asciiNumber (fraction.take 6) * Nat.pow 10 (6 - fraction.length)

def momentOf? (day : DayForm) (time : TimeForm) : Option Moment :=
  day.date?.bind fun date =>
    Moment.ofNumbers? date time.hour time.minute time.second (microseconds time.fraction) time.zone

def timeValue? (t : Text) : Option Scalar :=
  match dateForm? t with
  | some day => day.date?.map .date
  | none => (momentForm? t).bind fun (day, time) => (momentOf? day time).map .moment

/-- The value that a plain scalar stands for; the two special keys stand for none. -/
def plainValue (t : Text) : Except ReadError Scalar :=
  match plainKind t with
  | .text => .ok (.named t)
  | .null => .ok .null
  | .bool => .ok (.bool (trueWords.contains t))
  | .int => (orInvalid (intValue? t)).map .int
  | .float => (floatValue t).map .float
  | .timestamp => orInvalid (timeValue? t)
  | .mergeKey | .valueKey => .error .malformed

end SqlSnippet.Yaml
