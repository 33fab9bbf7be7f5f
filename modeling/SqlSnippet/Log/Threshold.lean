import SqlSnippet.Text.Basic

/-!
# Thresholds of the log

A threshold is given by the name of a level, in any mixture of small letters and capitals.
Every other name stands for the threshold of warnings, apart from two that mean something
else in a log and are refused.
-/

namespace SqlSnippet

/-- Why a name gives no threshold. -/
inductive ThresholdError where
  /-- The name of a template for messages. -/
  | template
  /-- The name of the table of template styles. -/
  | styleTable
deriving DecidableEq, Repr

def warningThreshold : Nat := 30

def thresholdNames : List (Text × Nat) :=
  [("CRITICAL", 50), ("FATAL", 50), ("ERROR", 40), ("WARNING", 30), ("WARN", 30), ("INFO", 20),
    ("DEBUG", 10), ("NOTSET", 0)].map fun (name, number) => (Text.ofString name, number)

/-- The letters outside ASCII whose capitals are in ASCII. -/
def foreignCapitals : List (Char × String) :=
  [('\u00DF', "SS"), ('\u0131', "I"), ('\u017F', "S"), ('\uFB00', "FF"), ('\uFB01', "FI"),
    ('\uFB02', "FL"), ('\uFB03', "FFI"), ('\uFB04', "FFL"), ('\uFB05', "ST"), ('\uFB06', "ST")]

/-- The capitals of a letter that may stand in a name. -/
def nameCapitals (c : Char) : Text :=
  match foreignCapitals.find? fun p => p.1 == c with
  | some (_, capitals) => Text.ofString capitals
  | none => [c.toUpper]

def thresholdOf (name : Text) : Except ThresholdError Nat :=
  let capitals := name.flatMap nameCapitals
  if capitals = Text.ofString "BASIC_FORMAT" then .error .template
  else if capitals = Text.ofString "_STYLES" then .error .styleTable
  else .ok (((thresholdNames.find? fun p => p.1 == capitals).map Prod.snd).getD warningThreshold)

end SqlSnippet
