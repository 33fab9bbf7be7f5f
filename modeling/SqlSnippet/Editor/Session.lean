import SqlSnippet.Console.Refusal

/-!
# Editing sessions

A session shows the snippet and reads commands until one of them ends it.  The
answers are given as a list, and each prompt takes the next one.  A command edits one parameter,
which takes a second answer, or toggles one line; after either the parameters
are found anew.  Running out of answers or an interrupt at the command prompt
leaves the session without a result, while at the prompt for a value it is a failure.  So is an
answer that is no command if the console refuses to show the report of it; the other messages of a
session have no brackets of their own, and no console refuses them.
-/

namespace SqlSnippet

/-- What a prompt receives. -/
inductive Answer where
  | line (text : Text)
  | interrupt
deriving DecidableEq, Repr

/-- What an answer at the command prompt asks for. -/
inductive Command where
  | quit
  | save
  | toggle (index : Nat)
  | edit (index : Nat)
  /-- A number whose digits cannot be read. -/
  | badNumber
  | unknown
deriving DecidableEq, Repr

/-- The command with a number, when the number can be read. -/
def Command.ofDigits (command : Nat → Command) (digits : Text) : Command :=
  match digitsNumber? digits with
  | some n => command n
  | none => .badNumber

def Command.of (choice : Text) : Command :=
  if choice = ['q'] ∨ choice = ['Q'] then .quit
  else if choice = ['s'] ∨ choice = ['S'] then .save
  else match choice.words with
    | [digits] => if isDigitText digits then .ofDigits .edit digits else .unknown
    | [word, digits] =>
      if (word = ['t'] ∨ word = ['T']) ∧ isDigitText digits then .ofDigits .toggle digits
      else .unknown
    | _ => .unknown

/-- Why a session breaks off. -/
inductive SessionError where
  | interrupted
  | endOfInput
  | badNumber
  /-- A report that the console refuses. -/
  | refused (trouble : ConsoleTrouble)
deriving DecidableEq, Repr

/-- How a session ends. -/
inductive Ending where
  | saved (text : Text)
  | cancelled
  | failed (error : SessionError)
deriving DecidableEq, Repr

/-- A session from its first to its last prompt. -/
structure SessionRun where
  ending : Ending
  console : List ConsoleEvent
  events : List EditEvent
  /-- The answers that no prompt took. -/
  unread : List Answer
deriving DecidableEq, Repr

/-- The rest of a session behind what was shown and reported before. -/
def SessionRun.behind (console : List ConsoleEvent) (events : List EditEvent) (r : SessionRun) :
    SessionRun :=
  { r with console := console ++ r.console, events := events ++ r.events }

def commandPrompt : ConsoleEvent :=
  .prompt (promptText
    (Text.ofString "\nParameter # to edit, t # to toggle, s to save, q to quit") none)

def valuePrompt (c : Control) : ConsoleEvent :=
  let hint := match c.inputType with
    | .date => Text.ofString " (YYYY-MM-DD)"
    | .text => []
  .prompt (promptText (Text.ofString "Edit " ++ c.label ++ hint) (some c.seed))

/-- What is shown before each command. -/
def screen (showPreview : Bool) (t : Text) : List ConsoleEvent :=
  (if showPreview then [.previewPanel (preview t (parameters t))] else []) ++
    [showControls (controls t), .line helpLine, commandPrompt]

/-- The value that an answer gives to a control: an empty one keeps the seed. -/
def enteredValue (c : Control) (answer : Text) : Text :=
  if answer.isEmpty then c.seed else answer.strip

def refusal (message : CodeText) : ConsoleEvent := .message (tagged "red" message)

def noControl (index : Nat) : ConsoleEvent := refusal (.ofString s!"No parameter #{index}")

def unknownCommand (choice : Text) : ConsoleEvent :=
  .message (tagged "yellow" (.ofString s!"Unknown command: {choice.toString}"))

/-- A session that starts with the text `t`. -/
def runSession (console : Console) (showPreview : Bool) (t : Text) : List Answer → SessionRun
  | [] => ⟨.cancelled, screen showPreview t, [detectionEvent t], []⟩
  | .interrupt :: rest => ⟨.cancelled, screen showPreview t, [detectionEvent t], rest⟩
  | .line answer :: rest =>
    let shown := screen showPreview t
    let seen := [detectionEvent t]
    match Command.of answer.strip with
    | .quit => ⟨.cancelled, shown, seen, rest⟩
    | .save => ⟨.saved t, shown, seen, rest⟩
    | .badNumber => ⟨.failed .badNumber, shown, seen, rest⟩
    | .unknown =>
      let report := unknownCommand answer.strip
      match console.refusalOf? report with
      | some trouble => ⟨.failed (.refused trouble), shown, seen, rest⟩
      | none => (runSession console showPreview t rest).behind (shown ++ [report]) seen
    | .toggle n =>
      let events := seen ++ toggleEvents t n
      match toggle t n with
      | .ok u => (runSession console showPreview u rest).behind shown events
      | .error e =>
        (runSession console showPreview t rest).behind
          (shown ++ [refusal (.ofString e.message)]) events
    | .edit n =>
      let events := seen ++ [detectionEvent t]
      match (controls t).find? fun c => c.index == n with
      | none => (runSession console showPreview t rest).behind (shown ++ [noControl n]) events
      | some c =>
        let shown := shown ++ [valuePrompt c]
        match rest with
        | [] => ⟨.failed .endOfInput, shown, events, []⟩
        | .interrupt :: rest => ⟨.failed .interrupted, shown, events, rest⟩
        | .line value :: rest =>
          let entered := enteredValue c value
          if entered = c.seed then (runSession console showPreview t rest).behind shown events
          else
            let events := events ++ setValueEvents t n entered
            match setValue t n entered with
            | .ok u => (runSession console showPreview u rest).behind shown events
            | .error e =>
              (runSession console showPreview t rest).behind
                (shown ++ [refusal (.ofString e.message)]) events

end SqlSnippet
