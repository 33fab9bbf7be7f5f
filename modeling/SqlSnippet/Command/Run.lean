import SqlSnippet.Command.Confirm
import SqlSnippet.Command.Request
import SqlSnippet.Command.Snippet
import SqlSnippet.Editor.Listing
import SqlSnippet.Editor.Session
import SqlSnippet.Log.Threshold
import SqlSnippet.Settings.Configuration
import SqlSnippet.Text.Sequence

/-!
# Runs of the commands

A run opens the configuration, takes the threshold of the log from the options or from the settings,
and then reads the arguments of its command and carries it out.  All that it does is in its outcome:
what it shows, reports and prints, the files that it leaves, and how it ends.  A message is the last
thing that a command does, so one that the console refuses breaks off a run whose files have changed
already.
-/

namespace SqlSnippet

/-- What a run is given besides its files. -/
structure Host where
  home : CodeText
  console : Console
  format : DocumentFormat

/-- A failure that no message is shown for. -/
inductive Crash where
  | undecodable
  /-- The configuration cannot be read, although its form is not to blame. -/
  | unread (cause : ReadError)
  | noText
  | unnamable
  | update (error : UpdateError)
  | threshold (error : ThresholdError)
  /-- A number has digits that cannot be read, or too many of them. -/
  | badNumber
  /-- Half of a pair was to be written to a file or shown. -/
  | unencodable
  | markup
deriving DecidableEq, Repr

def Crash.message : Crash → String
  | undecodable => "A file holds no text in UTF-8"
  | unread _ => "The configuration cannot be read"
  | noText => "The configuration cannot be written"
  | unnamable => "A path holds a character that no path has"
  | update (.blocked name) => s!"No table holds the setting {name.standIn.toString}"
  | update .reservedName => "The name of the setting is reserved"
  | threshold _ => "The level of the log is no level"
  | badNumber => "A number cannot be read"
  | unencodable => "A text has no encoding"
  | markup => "A message has a closing tag that closes nothing"

def ConsoleTrouble.crash : ConsoleTrouble → Crash
  | markup => .markup
  | encoding => .unencodable

/-- How a run ends. -/
inductive Verdict where
  | success
  /-- A refusal that was shown, or an answer that is missing. -/
  | failure
  | misuse
  | crash (cause : Crash)
deriving DecidableEq, Repr

/-- The number that tells the caller how a run ended. -/
def Verdict.exitCode : Verdict → Nat
  | success => 0
  | failure | crash _ => 1
  | misuse => 2

/-- What a command does. -/
structure Effect where
  verdict : Verdict
  storage : Storage
  console : List ConsoleEvent
  printed : Text
  log : List LogRecord
  /-- The input ended where an answer was wanted. -/
  unanswered : Bool

/-- What a run does; its records are those that the threshold lets through. -/
structure Outcome where
  effect : Effect
  threshold : Nat

namespace Effect

/-- Nothing happens but that something may be shown. -/
def ending (verdict : Verdict) (s : Storage) (console : List ConsoleEvent) : Effect :=
  ⟨verdict, s, console, [], [], false⟩

def refused (s : Storage) (message : CodeText) : Effect := ending .failure s [refusal message]

def behind (e : Effect) (console : List ConsoleEvent) (log : List LogRecord) : Effect :=
  { e with console := console ++ e.console, log := log ++ e.log }

def printing (e : Effect) (t : Text) : Effect := { e with printed := t ++ e.printed }

/-- A text is printed, without what a terminal would take for orders. -/
def echoing (s : Storage) (t : Text) : Effect :=
  (ending .success s []).printing t.withoutSequences

/-- An effect as far as a console shows it. -/
def shownOn (e : Effect) (console : Console) : Effect :=
  match console.showUntil e.console with
  | (_, none) => e
  | (shown, some trouble) =>
    { e with verdict := .crash trouble.crash, console := shown, unanswered := false }

end Effect

def notice (style : String) (message : CodeText) : ConsoleEvent := .message (tagged style message)

def editRecords (events : List EditEvent) : List LogRecord := events.map EditEvent.record

/-- Carry on with the snippet at a path. -/
def withSnippet (s : Storage) (input : Text) (path : CodeText) (use : Text → Effect) : Effect :=
  match readSnippet s input path with
  | .ok t => use t
  | .error (.refused e) => .refused s e.message
  | .error .undecodable => .ending (.crash .undecodable) s []
  | .error .unnamable => .ending (.crash .unnamable) s []

/-- Write a snippet back, keeping its old bytes if the settings say so, and say that it is done. -/
def store (c : Configuration) (s : Storage) (path : CodeText) (edited : Option Text)
    (done : String) : Effect :=
  let written := writeSnippet s path edited (c.isOn "editor.backup_on_save")
  match written.error with
  | some (.refused e) => .refused written.storage e.message
  | some .unencodable => .ending (.crash .unencodable) written.storage []
  | some .unnamable => .ending (.crash .unnamable) written.storage []
  | none =>
    { Effect.ending .success written.storage [notice "green" (.ofString s!"✓ {done} " ++ path)] with
      log := [⟨.info, "sqlparam.cli", .ofString "Wrote snippet to " ++ path⟩] }

/-- Send an edited snippet back to its file, or print it. -/
def deliver (c : Configuration) (s : Storage) (path : CodeText) (inPlace : Bool)
    (events : List EditEvent) (result : Except EditError (Option Text)) : Effect :=
  Effect.behind
    (match result with
      | .error e => .refused s (.ofString e.message)
      | .ok edited =>
        if inPlace then store c s path edited "Updated"
        else match edited with
          | some t => .echoing s t
          | none => .ending (.crash .unencodable) s [])
    [] (editRecords events)

/-- The lines of a text, the last one only if it is not empty. -/
def linesOf (t : Text) : List Text :=
  let parts := t.splitOn '\n'
  if parts.getLast? = some [] then parts.dropLast else parts

def saveQuestion (path : Text) : Text :=
  (Text.ofString "Save changes to " ++ path ++ Text.ofString "? [Y/n]: ").withoutSequences

/-- Save the result of a session, after a confirmation if the settings ask for one. -/
def saveResult (c : Configuration) (s : Storage) (path : CodeText) (result : Text)
    (answers : List Text) : Effect :=
  if c.isOn "editor.confirm_save" then
    match path.chars? with
    | none => .ending (.crash .unencodable) s []
    | some name =>
      let confirmation := confirm (saveQuestion name) answers
      Effect.printing
        (match confirmation.decided with
          | none => { Effect.ending .failure s [] with unanswered := true }
          | some false => .ending .success s [notice "yellow" (.ofString "Changes discarded")]
          | some true => store c s path result "Saved")
        confirmation.shown
  else store c s path result "Saved"

def answerLines (answers : List Answer) : List Text :=
  answers.filterMap fun
    | .line t => some t
    | .interrupt => none

def SessionError.verdict : SessionError → Verdict
  | interrupted | endOfInput => .failure
  | badNumber => .crash .badNumber
  | refused trouble => .crash trouble.crash

/-- Edit a snippet in a session whose answers are the lines of the input. -/
def editSnippet (console : Console) (c : Configuration) (s : Storage) (path : CodeText) (t : Text)
    (lines : List Text) : Effect :=
  let run := runSession console (c.isOn "output.show_preview") t (lines.map .line)
  let ended : Effect := match run.ending with
    | .cancelled => .ending .success s [notice "yellow" (.ofString "Edit cancelled")]
    | .failed error => .ending error.verdict s []
    | .saved result =>
      if result = t then .ending .success s [notice "dim" (.ofString "No changes")]
      else if path = inputPath then .echoing s result
      else saveResult c s path result (answerLines run.unread)
  let prompts := (run.console.filter ConsoleEvent.isPrompt).length
  Effect.behind { ended with unanswered := ended.unanswered || lines.length < prompts }
    run.console (editRecords run.events)

/-! ## Settings -/

/-- The setting that a typed value stands for: a truth value, a number, or the text itself. -/
def typedSetting? (value : CodeText) : Option Setting :=
  match value.chars? with
  | none => some (.scalar (.text value))
  | some t =>
    let word := t.map Char.toLower
    if word = ['t', 'r', 'u', 'e'] then some (.ofBool true)
    else if word = ['f', 'a', 'l', 's', 'e'] then some (.ofBool false)
    else if isDigitText t then (digitsNumber? t).map fun n => .scalar (.int n)
    else some (.ofText t)

/-- A typed setting as it is shown, where a text is shown as it was typed. -/
def shownSetting (value : CodeText) : Setting → CodeText
  | .scalar (.bool true) => .ofString "True"
  | .scalar (.bool false) => .ofString "False"
  | .scalar (.int n) => .ofString (toString n)
  | _ => value

def saveConfiguration (format : DocumentFormat) (c : Configuration) (s : Storage)
    (done : List ConsoleEvent) : Effect :=
  let saved := c.save format s
  Effect.behind
    (match saved.error with
      | some (.refused e) => .refused saved.storage e.message
      | some .unnamable => .ending (.crash .unnamable) saved.storage []
      | some .noText => .ending (.crash .noText) saved.storage []
      | none => .ending .success saved.storage done)
    [] (saved.events.map ConfigurationEvent.record)

def assignSetting (format : DocumentFormat) (c : Configuration) (s : Storage)
    (key value : CodeText) : Effect :=
  match typedSetting? value with
  | none => .ending (.crash .badNumber) s []
  | some setting =>
    let (changed, error) := c.update [(key, setting)]
    match error with
    | some e => .ending (.crash (.update e)) s []
    | none =>
      saveConfiguration format changed s
        [notice "green" (.ofString "Set " ++ key ++ .ofString " = " ++ shownSetting value setting)]

def restoreDefaults (format : DocumentFormat) (c : Configuration) (s : Storage) : Effect :=
  saveConfiguration format c.reset s
    [notice "green" (.ofString "Created default configuration at: " ++ c.file),
      .message (.ofString "Edit this file to customize your settings.")]

def versionLines : List ConsoleEvent :=
  [notice "bold blue" (.ofString "SQL Snippet Parameters"),
    .message (.ofString "Version: 0.1.0"),
    .message
      (.ofString "Description: Re-parameterize stored SQL snippets without hand-editing the text")]

/-! ## Requests and runs -/

/-- Carry out a request.  A snippet that is read from the input leaves no lines for answers. -/
def Request.perform (host : Host) (c : Configuration) (s : Storage) (input : Text) :
    Request → Effect
  | .params path asJson =>
    withSnippet s input path fun t =>
      Effect.behind
        (if asJson then (Effect.ending .success s []).printing (listing (controls t) ++ ['\n'])
          else .ending .success s [showControls (controls t)])
        [] (editRecords [detectionEvent t])
  | .set path index value inPlace =>
    withSnippet s input path fun t =>
      deliver c s path inPlace (enterValueEvents t index value) (enterValue t index value)
  | .toggle path index inPlace =>
    withSnippet s input path fun t =>
      deliver c s path inPlace (toggleEvents t index) ((SqlSnippet.toggle t index).map some)
  | .edit path =>
    withSnippet s input path fun t =>
      editSnippet host.console c s path t (if path = inputPath then [] else linesOf input)
  | .configShow =>
    match host.format.dump c.settings with
    | some t =>
      .ending .success s
        [.textPanel (.ofString "Configuration (" ++ c.file ++ .ofString ")") t.codePoints]
    | none => .ending (.crash .noText) s []
  | .configInit => restoreDefaults host.format c s
  | .configSet key value => assignSetting host.format c s key value
  | .version => .ending .success s versionLines
  | .help => .ending .success s []

/-- The name of a level that a setting gives; a setting that is no text gives none. -/
def levelName : Setting → Text
  | .scalar (.text points) => points.chars?.getD []
  | _ => []

def Invocation.threshold (i : Invocation) (c : Configuration) : Except Crash Nat :=
  let named (name : Text) : Except Crash Nat := (thresholdOf name).mapError .threshold
  if i.debug then named (Text.ofString "DEBUG")
  else if i.verbose then named (Text.ofString "INFO")
  else
    let setting := c.get (.ofString "logging.level") (.ofText defaultLevel)
    if setting.hasText then named (levelName setting) else .error .noText

/-- The changes of the settings that the options make. -/
def Invocation.changes (i : Invocation) : List (CodeText × Setting) :=
  if i.verbose then [(.ofString "output.verbose", .ofBool true)] else []

/-- Why a run ends before its command begins. -/
def OpenError.effect (s : Storage) : OpenError → Effect
  | .refused e => .refused s (.ofString "Configuration error: " ++ e.message)
  | .unread cause => .ending (.crash (.unread cause)) s []

/-- The lowest level of the records that a threshold lets through; zero leaves it to the root. -/
def effectiveThreshold (threshold : Nat) : Nat :=
  if threshold = 0 then warningThreshold else threshold

def Invocation.perform (host : Host) (i : Invocation) (c : Configuration) (s : Storage)
    (input : Text) : Outcome :=
  let (c, error) := c.update i.changes
  match error with
  | some e => ⟨.ending (.crash (.update e)) s [], 0⟩
  | none =>
    match i.threshold c with
    | .error cause => ⟨.ending (.crash cause) s [], 0⟩
    | .ok threshold =>
      let effect := match i.command.request? i.arguments with
        | some request => request.perform host c s input
        | none => .ending .misuse s []
      ⟨{ effect with log := keepFrom (effectiveThreshold threshold) effect.log }, threshold⟩

/-- A run as long as the console shows everything. -/
def attempt (host : Host) (s : Storage) (line : List CodeText) (input : Text) : Outcome :=
  match CommandLine.of line with
  | .misuse => ⟨.ending .misuse s [], 0⟩
  | .help => ⟨.ending .success s [], 0⟩
  | .invocation i =>
    let opened := Configuration.openFile host.format s (Configuration.fileFor host.home i.file)
    let early := keepFrom warningThreshold (opened.events.map ConfigurationEvent.record)
    let outcome : Outcome := match opened.result with
      | .error e => ⟨e.effect s, 0⟩
      | .ok c => i.perform host c s input.unifyLines
    { outcome with effect := outcome.effect.behind [] early }

/-- A run with a command line and the text of the input. -/
def run (host : Host) (s : Storage) (line : List CodeText) (input : Text) : Outcome :=
  let outcome := attempt host s line input
  { outcome with effect := outcome.effect.shownOn host.console }

end SqlSnippet
