import SqlSnippet.Files.Storage
import SqlSnippet.Log.Threshold

/-!
# Loggers

Loggers form a tree by the dots in their names, with a root above all of them.  A logger is made
when it is asked for the first time and put below the nearest one that exists; a logger that is made
later takes its place between them.  A logger without a threshold of its own has that of the
nearest logger above it.  Setting up a logger gives it a threshold and new handlers: one for
the console and, if asked for, one for a file.
-/

namespace SqlSnippet

/-- Where a logger writes to. -/
inductive LogHandler where
  | console
  | file
deriving DecidableEq, Repr

/-- A logger.  Its threshold is zero if it has none of its own. -/
structure Logger where
  name : Text
  threshold : Nat
  handlers : List LogHandler
  parent : Text
deriving DecidableEq, Repr

/-- A name without a logger, and the names of loggers that were made below it. -/
structure Vacancy where
  name : Text
  below : List Text
deriving DecidableEq, Repr

/-- All loggers, the names between them that have none, and the files that they write to. -/
structure Loggers where
  list : List Logger
  vacancies : List Vacancy
  storage : Storage

namespace Loggers

def rootName : Text := ['r', 'o', 'o', 't']

def applicationName : Text := Text.ofString "sqlparam"

/-- The name under which a logger is known; an empty name is that of the root. -/
def knownName (name : Text) : Text := if name.isEmpty then rootName else name

def insideName (name : Text) : Text :=
  let inner := applicationName ++ ['.']
  if name = applicationName ∨ inner.isPrefixOf name then name else inner ++ name

/-- The names above a name that is given backwards, the nearest one first.  The character in
front of a dot is not looked at again, so of two dots in a row only the second one ends a name. -/
def namesAbove : Text → List Text
  | '.' :: c :: front => (c :: front).reverse :: namesAbove front
  | _ :: front => namesAbove front
  | [] => []

def find? (l : Loggers) (name : Text) : Option Logger := l.list.find? fun g => g.name == name

def put (l : Loggers) (g : Logger) : Loggers :=
  { l with list := g :: l.list.filter fun h => h.name != g.name }

def root : Logger := ⟨rootName, warningThreshold, [], rootName⟩

def initial (s : Storage) : Loggers := ⟨[root], [], s⟩

/-- A name of a logger is noted at a name above it that has none. -/
def note (l : Loggers) (above name : Text) : Loggers :=
  let below := ((l.vacancies.find? fun v => v.name == above).map Vacancy.below).getD []
  let others := l.vacancies.filter fun v => v.name != above
  { l with vacancies := ⟨above, below ++ [name]⟩ :: others }

/-- Put a logger below the first of the names above it that has a logger, or else below the root. -/
def link (l : Loggers) (g : Logger) : List Text → Loggers
  | [] => l.put { g with parent := rootName }
  | above :: further =>
    if (l.find? above).isSome then l.put { g with parent := above }
    else (l.note above g.name).link g further

/-- Put the loggers that were made below a vacant name below its new logger, unless they have a
logger in between. -/
def adopt (l : Loggers) (name : Text) : Loggers :=
  let below := (l.vacancies.filter fun v => v.name == name).flatMap Vacancy.below
  let moved := l.list.map fun g =>
    if below.contains g.name && !name.isPrefixOf g.parent then { g with parent := name } else g
  { l with list := moved, vacancies := l.vacancies.filter fun v => v.name != name }

def ensure (l : Loggers) (name : Text) : Loggers :=
  if (l.find? name).isSome then l
  else (l.adopt name).link ⟨name, 0, [], rootName⟩ (namesAbove name.reverse)

/-- The threshold that holds for a logger.  The way up to the root passes each logger at
most once. -/
def thresholdWithin (l : Loggers) : Nat → Text → Nat
  | 0, _ => 0
  | steps + 1, name =>
    match l.find? name with
    | none => 0
    | some g =>
      if g.threshold ≠ 0 ∨ name = rootName then g.threshold
      else l.thresholdWithin steps g.parent

def threshold (l : Loggers) (name : Text) : Nat := l.thresholdWithin (l.list.length + 1) name

/-- Why a logger is not set up. -/
inductive SetupError where
  | threshold (error : ThresholdError)
  | file (error : FileError)
deriving DecidableEq, Repr

/-- The path of a log file with the names of folders that are left again taken out. -/
def directPath (path : CodeText) : CodeText :=
  let names := (Path.names path).foldl Storage.enter []
  if names.isEmpty then [Path.dot] else List.intercalate [Path.slash] names

/-- The storage with a log file, which keeps its bytes if it exists. -/
def openLog (s : Storage) (path : CodeText) : Except FileError Storage := do
  let place ← s.writable (directPath path)
  return if (s.entry? place).isSome then s else s.put place (.file .empty)

/-- The loggers after one of them was set up, and the error that kept it from being complete. -/
def setup (l : Loggers) (name : Text) (level : Option Text) (logFile : Option CodeText) :
    Loggers × Except SetupError Logger :=
  let name := knownName name
  let l := l.ensure name
  let old := (l.find? name).getD root
  match thresholdOf (level.getD []) with
  | .error e => (l, .error (.threshold e))
  | .ok threshold =>
    let quiet : Logger := { old with threshold := threshold, handlers := [.console] }
    match logFile with
    | some (c :: path) =>
      match openLog l.storage (c :: path) with
      | .error e => (l.put quiet, .error (.file e))
      | .ok s =>
        let g : Logger := { quiet with handlers := [.console, .file] }
        ({ l.put g with storage := s }, .ok g)
    | _ => (l.put quiet, .ok quiet)

end Loggers

end SqlSnippet
