import SqlSnippet.Command.Arguments
import SqlSnippet.Text.Number

/-!
# Requests

A command line names a command behind the options that hold for all commands.  The arguments of
the command are read later, when the configuration is open, and give a request.
-/

namespace SqlSnippet

/-- The commands. -/
inductive CommandName where
  | params
  | set
  | toggle
  | edit
  | configShow
  | configInit
  | configSet
  | version
deriving DecidableEq, Repr

namespace CommandName

def word : CommandName → String
  | params => "params"
  | set => "set"
  | toggle => "toggle"
  | edit => "edit"
  | configShow => "config-show"
  | configInit => "config-init"
  | configSet => "config-set"
  | version => "version"

def all : List CommandName :=
  [params, set, toggle, edit, configShow, configInit, configSet, version]

def ofWord? (word : CodeText) : Option CommandName :=
  all.find? fun c => CodeText.ofString c.word == word

end CommandName

/-- What a command is asked to do. -/
inductive Request where
  | params (path : CodeText) (asJson : Bool)
  | set (path : CodeText) (index : Int) (value : CodeText) (inPlace : Bool)
  | toggle (path : CodeText) (index : Int) (inPlace : Bool)
  | edit (path : CodeText)
  | configShow
  | configInit
  | configSet (key value : CodeText)
  | version
  | help
deriving DecidableEq, Repr

/-- What holds for all commands, and the command with its arguments. -/
structure Invocation where
  file : Option CodeText
  verbose : Bool
  debug : Bool
  command : CommandName
  arguments : List CodeText
deriving DecidableEq, Repr

/-- Every command has this option. -/
def helpForm : OptionForm := ⟨none, "help", false⟩

/-- The options that hold for all commands. -/
def sharedForms : List OptionForm :=
  [⟨some 'c', "config", true⟩, ⟨some 'v', "verbose", false⟩, ⟨none, "debug", false⟩, helpForm]

def CommandName.forms : CommandName → List OptionForm
  | params => [⟨none, "json", false⟩, helpForm]
  | set | toggle => [⟨some 'i', "in-place", false⟩, helpForm]
  | configSet => [⟨none, "key", true⟩, ⟨none, "value", true⟩, helpForm]
  | edit | configShow | configInit | version => [helpForm]

/-- What a command line asks for. -/
inductive CommandLine where
  | invocation (i : Invocation)
  | help
  | misuse
deriving DecidableEq, Repr

def CommandLine.of (line : List CodeText) : CommandLine :=
  match Arguments.parse? sharedForms false line with
  | none => .misuse
  | some a =>
    if a.hasFlag "help" then .help
    else match a.words with
      | [] => .misuse
      | word :: rest =>
        match CommandName.ofWord? word with
        | none => .misuse
        | some command =>
          .invocation ⟨a.value? "config", a.hasFlag "verbose", a.hasFlag "debug", command, rest⟩

/-- The request that the arguments of a command make; none if they are not understood. -/
def CommandName.request? (command : CommandName) (arguments : List CodeText) : Option Request := do
  let a ← Arguments.parse? command.forms true arguments
  if a.hasFlag "help" then return .help
  match command, a.words with
  | .params, [path] => return .params path (a.hasFlag "json")
  | .set, [path, index, value] =>
    return .set path (← integerOf? (← index.chars?)) value (a.hasFlag "in-place")
  | .toggle, [path, index] =>
    return .toggle path (← integerOf? (← index.chars?)) (a.hasFlag "in-place")
  | .edit, [path] => return .edit path
  | .configShow, [] => return .configShow
  | .configInit, [] => return .configInit
  | .configSet, [] => return .configSet (← a.value? "key") (← a.value? "value")
  | .version, [] => return .version
  | _, _ => none

/-- The path of the snippet that a request is about. -/
def Request.path? : Request → Option CodeText
  | params path _ | set path .. | toggle path .. | edit path => some path
  | configShow | configInit | configSet .. | version | help => none

end SqlSnippet
