import SqlSnippet.Settings.Basic

/-!
# Paths of keys

A setting inside nested tables is named by the keys on the way to it, with dots between them.
All of these are texts, so a setting below a key of another kind has no name.  A lookup gives
nothing as soon as a key is missing or a value on the way is no table.  An assignment makes the
tables that are missing, and fails, without changing anything, when a value on the way is no table.
-/

namespace SqlSnippet

/-- The keys that a dotted name stands for; empty ones count. -/
def pathOf (name : CodeText) : List CodeText := name.splitOn (.ofChar '.')

namespace Settings

def getPath? : List CodeText → Settings → Option Setting
  | [], _ => none
  | [key], table => get? (.text key) table
  | key :: rest, table =>
    match get? (.text key) table with
    | some (.table inner) => getPath? rest inner
    | _ => none

def lookup? (name : CodeText) (table : Settings) : Option Setting := getPath? (pathOf name) table

def setPath? : List CodeText → Setting → Settings → Option Settings
  | [], _, table => some table
  | [key], value, table => some (put (.text key) value table)
  | key :: rest, value, table =>
    match get? (.text key) table with
    | none => (setPath? rest value []).map fun inner => put (.text key) (.table inner) table
    | some (.table old) =>
      (setPath? rest value old).map fun inner => put (.text key) (.table inner) table
    | some _ => none

def assign? (name : CodeText) (value : Setting) (table : Settings) : Option Settings :=
  setPath? (pathOf name) value table

end Settings

/-- Why an update breaks off. -/
inductive UpdateError where
  | reservedName
  /-- A value on the way to the setting is no table. -/
  | blocked (name : CodeText)
deriving DecidableEq, Repr

/-- The name that no setting may be assigned under. -/
def reservedName : CodeText := .ofString "self"

/-- The table that an update leaves, and why it broke off if it did. -/
structure Updated where
  settings : Settings
  error : Option UpdateError
deriving Repr

/-- Assign one name after another up to the first that fails; null is not assigned. -/
def Settings.assignAll : List (CodeText × Setting) → Settings → Updated
  | [], table => ⟨table, none⟩
  | (_, .scalar .null) :: rest, table => assignAll rest table
  | (name, value) :: rest, table =>
    match table.assign? name value with
    | some changed => assignAll rest changed
    | none => ⟨table, some (.blocked name)⟩

/-- Assign several names.  Nothing is assigned when one of them is reserved. -/
def Settings.update (changes : List (CodeText × Setting)) (table : Settings) : Updated :=
  if changes.any fun change => change.1 == reservedName then ⟨table, some .reservedName⟩
  else table.assignAll changes

end SqlSnippet
