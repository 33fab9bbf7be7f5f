import SqlSnippet.Files.Storage
import SqlSnippet.Log
import SqlSnippet.Settings.Format
import SqlSnippet.Settings.Merge
import SqlSnippet.Settings.Path

/-!
# Configurations

A configuration is a file and the settings that hold: those of the file, merged over the
defaults.  A file that is missing or that cannot be opened leaves the defaults, one that is
malformed or holds no mapping is refused.  Saving makes the folders of the file and writes
all settings; what has no text is found out only when the file is open, and so empty.
-/

namespace SqlSnippet

/-- Settings that hold, and the file that they are saved in. -/
structure Configuration where
  file : CodeText
  settings : Settings
deriving Repr

def defaultLevel : Text := Text.ofString "WARNING"

def defaultSettings : Settings :=
  let key (name : String) : Scalar := .named (Text.ofString name)
  let on := Setting.ofBool true
  [(key "output", .table [(key "verbose", .ofBool false), (key "color", on),
      (key "show_preview", on)]),
    (key "editor", .table [(key "backup_on_save", on), (key "confirm_save", on)]),
    (key "logging", .table [(key "level", .ofText defaultLevel)])]

def defaultFile (home : CodeText) : CodeText :=
  home ++ .ofString "/.config/sqlparam/config.yaml"

/-- Why a configuration is refused. -/
inductive ConfigurationError where
  | invalidYaml (words : CodeText)
  | notMapping (file : CodeText)
  | unsaved (cause : FileError)
deriving DecidableEq, Repr

def ConfigurationError.message : ConfigurationError → CodeText
  | invalidYaml words => .ofString "Invalid YAML in config file: " ++ words
  | notMapping file => .ofString "Config file must contain a mapping: " ++ file
  | unsaved cause => .ofString s!"Could not save config file: {cause.message}"

/-- Why no configuration is opened. -/
inductive OpenError where
  | refused (error : ConfigurationError)
  /-- The reader fails otherwise than over the form of the file. -/
  | unread (cause : ReadError)
deriving DecidableEq, Repr

/-- Why no configuration is saved. -/
inductive SaveError where
  | refused (error : ConfigurationError)
  | unnamable
  | noText
deriving DecidableEq, Repr

/-- Something that opening or saving reports. -/
inductive ConfigurationEvent where
  | loading (file : CodeText)
  | loaded (file : CodeText)
  | absent (file : CodeText)
  | invalidYaml (file words : CodeText)
  | unreadable (file : CodeText) (cause : FileError)
  | saved (file : CodeText)
  | unsaved (file : CodeText) (cause : FileError)
deriving DecidableEq, Repr

namespace ConfigurationEvent

def level : ConfigurationEvent → Level
  | loading _ | absent _ => .debug
  | loaded _ | saved _ => .info
  | unreadable .. => .warning
  | invalidYaml .. | unsaved .. => .error

def message : ConfigurationEvent → CodeText
  | loading file => .ofString "Loading config from " ++ file
  | loaded file => .ofString "Configuration loaded successfully from " ++ file
  | absent file =>
    .ofString "Config file " ++ file ++ .ofString " does not exist, using defaults"
  | invalidYaml file words =>
    .ofString "Invalid YAML in config file " ++ file ++ .ofString ": " ++ words
  | unreadable file cause =>
    .ofString "Could not load config file " ++ file ++ .ofString s!": {cause.message}"
  | saved file => .ofString "Configuration saved to " ++ file
  | unsaved file cause =>
    .ofString "Could not save config file " ++ file ++ .ofString s!": {cause.message}"

def record (e : ConfigurationEvent) : LogRecord := ⟨e.level, "sqlparam.Config", e.message⟩

end ConfigurationEvent

namespace Configuration

/-! ## Opening and saving -/

/-- What opening gives. -/
structure Opened where
  result : Except OpenError Configuration
  events : List ConfigurationEvent

/-- The settings that the bytes of a file give over the defaults. -/
def settingsOf (format : DocumentFormat) (file : CodeText) (bytes : ByteArray) :
    Except OpenError Settings :=
  match format.load bytes with
  | .error .malformed => .error (.refused (.invalidYaml (format.describe file bytes)))
  | .error cause => .error (.unread cause)
  | .ok value =>
    if value.isOn then
      match value with
      | .table entries => .ok (Settings.merge defaultSettings entries)
      | _ => .error (.refused (.notMapping file))
    else .ok defaultSettings

def readingEvents (file : CodeText) : Except OpenError Settings → List ConfigurationEvent
  | .ok _ => [.loaded file]
  | .error (.refused (.invalidYaml words)) => [.invalidYaml file words]
  | .error _ => []

/-- The file that is meant by a path, which may be left out or empty. -/
def fileFor (home : CodeText) (path : Option CodeText) : CodeText :=
  match path with
  | some (c :: rest) => c :: rest
  | _ => defaultFile home

/-- Open the configuration in a file. -/
def openFile (format : DocumentFormat) (s : Storage) (file : CodeText) : Opened :=
  if s.has file then
    match s.read file with
    | .error cause => ⟨.ok ⟨file, defaultSettings⟩, [.loading file, .unreadable file cause]⟩
    | .ok bytes =>
      let settings := settingsOf format file bytes
      ⟨settings.map fun settings => ⟨file, settings⟩, .loading file :: readingEvents file settings⟩
  else ⟨.ok ⟨file, defaultSettings⟩, [.absent file]⟩

/-- What saving leaves. -/
structure Saved where
  storage : Storage
  error : Option SaveError
  events : List ConfigurationEvent

def unsaved (c : Configuration) (s : Storage) (cause : FileError) : Saved :=
  if cause.isUnnamable then ⟨s, some .unnamable, []⟩
  else ⟨s, some (.refused (.unsaved cause)), [.unsaved c.file cause]⟩

/-- Write the settings to the file. -/
def save (format : DocumentFormat) (c : Configuration) (s : Storage) : Saved :=
  let folder := Path.folder c.file
  let made : Storage.Change := if folder.isEmpty then ⟨s, none⟩ else s.makeFolders folder
  match made.error with
  | some cause => c.unsaved made.storage cause
  | none =>
    let text? := format.dump c.settings
    let written := made.storage.write c.file (text?.getD []).toString.toUTF8
    match written.error with
    | some cause => c.unsaved written.storage cause
    | none =>
      if text?.isSome then ⟨written.storage, none, [.saved c.file]⟩
      else ⟨written.storage, some .noText, []⟩

def reset (c : Configuration) : Configuration := { c with settings := defaultSettings }

/-- The setting with a dotted name, or else a default. -/
def get (c : Configuration) (name : CodeText) (default : Setting) : Setting :=
  (c.settings.lookup? name).getD default

/-- A setting is on; it is on by default. -/
def isOn (c : Configuration) (name : String) : Bool :=
  (c.get (.ofString name) (.ofBool true)).isOn

def update (c : Configuration) (changes : List (CodeText × Setting)) :
    Configuration × Option UpdateError :=
  let updated := c.settings.update changes
  ({ c with settings := updated.settings }, updated.error)

end Configuration

end SqlSnippet
