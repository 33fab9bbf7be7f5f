import SqlSnippet.Command.Run
import SqlSnippet.Console.Plain
import SqlSnippet.Yaml.Meaning

/-!
# The program

The program loads the files that its command may use, carries the command out on them, and writes
back what has changed.  An editing session wants its answers one by one, so it is run again with
each further line of the input, and what it shows beyond the last run is shown.  Everything that is
decided is decided by the run.  A link counts as what it leads to, and the disk is taken to store
everything; if it does not, the program ends where it writes back.
-/

namespace SqlSnippet

def systemPath (place : Place) : String :=
  "/" ++ String.intercalate "/" (place.map fun name => name.standIn.toString)

/-- The places that names lead to one after another. -/
def passed (place : Place) : List CodeText → List Place
  | [] => [place]
  | name :: rest => place :: passed (Storage.enter place name) rest

def entryAt (place : Place) : IO (Option Entry) := do
  let real ← try some <$> IO.FS.realPath (systemPath place) catch _ => pure none
  match real with
  | none => return none
  | some path =>
    if ← path.isDir then return some .folder
    else return some (.file (← IO.FS.readBinFile path))

def loadStorage (working : Place) (paths : List CodeText) : IO Storage := do
  let places := paths.flatMap fun path =>
    passed (Storage.originIn working path) (Path.names path)
  let entries ← (passed [] working ++ places).eraseDups.filterMapM fun place => do
    return (← entryAt place).map fun entry => (place, entry)
  return ⟨working, entries, .ample⟩

/-- Write back what has changed, in the order in which it was made. -/
def saveStorage (before after : Storage) : IO Unit := do
  for (place, entry) in after.entries.reverse do
    match before.entry? place, entry with
    | some (.file old), .file new =>
      if old.data ≠ new.data then IO.FS.writeBinFile (systemPath place) new
    | some .folder, _ => pure ()
    | _, .file new => IO.FS.writeBinFile (systemPath place) new
    | _, .folder => IO.FS.createDirAll (systemPath place)
    | _, .link _ => pure ()

def pathsOf (home : CodeText) (line : List CodeText) : List CodeText :=
  match CommandLine.of line with
  | .invocation i =>
    let snippet := (i.command.request? i.arguments).bind Request.path?
    Configuration.fileFor home i.file :: snippet.toList.flatMap fun path => [path, backupPath path]
  | .help | .misuse => []

def takesInput (line : List CodeText) : Bool :=
  match CommandLine.of line with
  | .invocation i => (i.command.request? i.arguments).bind Request.path? == some inputPath
  | .help | .misuse => false

/-- How much of a run was shown already. -/
structure Shown where
  events : Nat
  printed : Nat

def Shown.reveal (shown : Shown) (console : List ConsoleEvent) (printed : Text) : IO Shown := do
  let out ← IO.getStdout
  for event in console.drop shown.events do
    out.putStr event.plain.toString
  out.putStr (Text.toString (printed.drop shown.printed))
  out.flush
  return ⟨max shown.events console.length, max shown.printed printed.length⟩

/-- Run a command, with one more line of the input as long as an answer is wanted and there is
one.  The line that answers a question is part of what is printed, and is on the terminal
already. -/
partial def converse (attempt : Text → Outcome) (input : Text) (shown : Shown) :
    IO (Outcome × Shown) := do
  let outcome := attempt input
  let effect := outcome.effect
  if effect.unanswered then
    let asked := (effect.console.reverse.dropWhile fun event => !event.isPrompt).reverse
    let shown ← shown.reveal asked effect.printed
    let answer := (Text.ofString (← (← IO.getStdin).getLine)).unifyLines
    if answer.isEmpty then return (outcome, shown)
    else
      let answered := if effect.printed.isEmpty then 0 else answer.length
      converse attempt (input ++ answer) { shown with printed := shown.printed + answered }
  else return (outcome, shown)

/-- What is said about a run that was not carried through. -/
def complaint : Verdict → Option String
  | .success | .failure => none
  | .misuse => some "Usage: sqlparam [OPTIONS] COMMAND [ARGS]..."
  | .crash cause => some s!"Error: {cause.message}"

end SqlSnippet

open SqlSnippet in
/-- Carry out a command line; the result tells the caller how it ended. -/
def main (arguments : List String) : IO UInt32 := do
  let line := arguments.map CodeText.ofString
  let host : Host := ⟨.ofString ((← IO.getEnv "HOME").getD ""), .terminal, Yaml.format⟩
  let working := Path.names (.ofString (← IO.currentDir).toString)
  let storage ← loadStorage working (pathsOf host.home line)
  let input ← if takesInput line then (← IO.getStdin).readToEnd else pure ""
  let (outcome, shown) ← converse (run host storage line) (Text.ofString input) ⟨0, 0⟩
  let effect := outcome.effect
  saveStorage storage effect.storage
  discard (shown.reveal effect.console effect.printed)
  for record in effect.log do
    IO.eprintln s!"{record.level.name} {record.source} {record.message.standIn.toString}"
  if let some words := complaint effect.verdict then IO.eprintln words
  return effect.verdict.exitCode.toUInt32
