import SqlSnippet.Files.Storage

/-!
# Snippet files

A snippet is read from a file, with its line ends as they are, or from the input that goes
by the name of a single dash.  It is written back only to a file, and the bytes that it had
can be kept in a second one.
-/

namespace SqlSnippet

/-- The path that stands for the input. -/
def inputPath : CodeText := .ofString "-"

/-- Why a snippet is not read or not written. -/
inductive SnippetError where
  | unreadable (path : CodeText) (cause : FileError)
  | unwritable (path : CodeText) (cause : FileError)
  | inputInPlace
deriving DecidableEq, Repr

def SnippetError.message : SnippetError → CodeText
  | unreadable path cause =>
    .ofString "Could not read snippet " ++ path ++ .ofString s!": {cause.message}"
  | unwritable path cause =>
    .ofString "Could not write snippet " ++ path ++ .ofString s!": {cause.message}"
  | inputInPlace => .ofString "Cannot write in place to stdin"

/-- Why there is no snippet. -/
inductive ReadFailure where
  | refused (error : SnippetError)
  | undecodable
  | unnamable
deriving DecidableEq, Repr

def readSnippet (s : Storage) (input : Text) (path : CodeText) : Except ReadFailure Text :=
  if path = inputPath then .ok input
  else match s.readText path with
    | .ok t => .ok t
    | .error (.file cause) =>
      if cause.isUnnamable then .error .unnamable else .error (.refused (.unreadable path cause))
    | .error .undecodable => .error .undecodable

/-- The path of the second file. -/
def backupPath (path : CodeText) : CodeText := path ++ .ofString ".bak"

/-- Keep the bytes of a file in its second file, if there are any. -/
def keepBackup (s : Storage) (path : CodeText) : Storage.Change :=
  if s.has path then s.copy path (backupPath path) else ⟨s, none⟩

/-- Why a snippet is not written back. -/
inductive WriteFailure where
  | refused (error : SnippetError)
  /-- The edited snippet is no text, which is found out when its file is empty already. -/
  | unencodable
  | unnamable
deriving DecidableEq, Repr

def WriteFailure.of (path : CodeText) (cause : FileError) : WriteFailure :=
  if cause.isUnnamable then .unnamable else .refused (.unwritable path cause)

/-- What writing a snippet leaves, and why it failed if it did. -/
structure Written where
  storage : Storage
  error : Option WriteFailure

def writeSnippet (s : Storage) (path : CodeText) (edited : Option Text) (backup : Bool) : Written :=
  if path = inputPath then ⟨s, some (.refused .inputInPlace)⟩
  else
    let kept : Storage.Change := if backup then keepBackup s path else ⟨s, none⟩
    match kept.error with
    | some cause => ⟨kept.storage, some (.of path cause)⟩
    | none =>
      let written := kept.storage.write path (edited.getD []).toString.toUTF8
      match written.error with
      | some cause => ⟨written.storage, some (.of path cause)⟩
      | none => ⟨written.storage, if edited.isSome then none else some .unencodable⟩

end SqlSnippet
