import SqlSnippet.Files.Path
import SqlSnippet.Text.Display

/-!
# Files and folders

A storage maps places to files, folders and links.  A path is followed name by name and link by
link, and each name but the last one has to lead to a folder.  A file is written to in two steps: it
is emptied, and then the disk stores the new bytes or only a beginning of them.  So a change that
fails can have changed a file all the same.
-/

namespace SqlSnippet

/-- What keeps a disk from storing something. -/
inductive DiskTrouble where
  | failed
  | denied
  | tooLarge
  | noSpace
  | readOnly
deriving DecidableEq, Repr

/-- The end of a write that does not store all of its bytes. -/
structure Stop where
  stored : Nat
  cause : DiskTrouble
deriving DecidableEq, Repr

/-- What a disk does not take.  Nothing is assumed of it: it may be full, limit the size of its
files, or have places that cannot be written to. -/
structure Disk where
  denial? : Place → Option DiskTrouble
  stop? : Place → ByteArray → Option Stop

namespace Disk

def ample : Disk := ⟨fun _ => none, fun _ _ => none⟩

/-- Where a write stops; one of no bytes is not even begun. -/
def stopOf? (d : Disk) (place : Place) (bytes : ByteArray) : Option Stop :=
  if bytes.isEmpty then none else d.stop? place bytes

def stored (d : Disk) (place : Place) (bytes : ByteArray) : ByteArray :=
  match d.stopOf? place bytes with
  | none => bytes
  | some stop => bytes.extract 0 stop.stored

end Disk

/-- What is found at a place. -/
inductive Entry where
  | file (bytes : ByteArray)
  | folder
  | link (target : CodeText)

/-- All entries, the folder in which relative paths start, and the disk that they are on. -/
structure Storage where
  working : Place
  entries : List (Place × Entry)
  disk : Disk

/-- Why a path cannot be used. -/
inductive FileTrouble where
  | missing
  | exists
  | notFolder
  | isFolder
  | tooLong
  | tooManyLinks
  | disk (cause : DiskTrouble)
  /-- The path is none at all, so the system was not even asked. -/
  | unnamable
deriving DecidableEq, Repr

/-- A failure and the paths that it is about. -/
inductive FileError where
  | opening (trouble : FileTrouble) (path : CodeText)
  | storing (cause : DiskTrouble)
  | copying (cause : DiskTrouble) (source target : CodeText)
  | sameFile (source target : CodeText)
deriving DecidableEq, Repr

def DiskTrouble.words : DiskTrouble → String
  | failed => "[Errno 5] Input/output error"
  | denied => "[Errno 13] Permission denied"
  | tooLarge => "[Errno 27] File too large"
  | noSpace => "[Errno 28] No space left on device"
  | readOnly => "[Errno 30] Read-only file system"

def FileTrouble.words : FileTrouble → String
  | missing => "[Errno 2] No such file or directory"
  | «exists» => "[Errno 17] File exists"
  | notFolder => "[Errno 20] Not a directory"
  | isFolder => "[Errno 21] Is a directory"
  | tooLong => "[Errno 36] File name too long"
  | tooManyLinks => "[Errno 40] Too many levels of symbolic links"
  | disk cause => cause.words
  | unnamable => "embedded null byte"

namespace FileError

def message : FileError → String
  | opening trouble path => s!"{trouble.words}: {path.displayed.toString}"
  | storing cause => cause.words
  | copying cause source target =>
    s!"{cause.words}: {source.displayed.toString} -> {target.displayed.toString}"
  | sameFile source target =>
    s!"{source.displayed.toString} and {target.displayed.toString} are the same file"

def isUnnamable : FileError → Bool
  | opening .unnamable _ => true
  | _ => false

end FileError

namespace Storage

/-! ## Places -/

/-- What is at a place; the root is always a folder. -/
def entry? (s : Storage) (place : Place) : Option Entry :=
  if place.isEmpty then some .folder
  else (s.entries.find? fun e => e.1 == place).map Prod.snd

def put (s : Storage) (place : Place) (entry : Entry) : Storage :=
  { s with entries := (place, entry) :: s.entries.filter fun e => e.1 != place }

/-- The place that a name leads to from a folder. -/
def enter (place : Place) (name : CodeText) : Place :=
  if name = [Path.dot] then place
  else if name = [Path.dot, Path.dot] then place.dropLast
  else place ++ [name]

/-- The place where a path starts that stands in a folder. -/
def originIn (folder : Place) (path : CodeText) : Place :=
  if Path.isAbsolute path then [] else folder

def origin (s : Storage) (path : CodeText) : Place := originIn s.working path

/-- Follow one name, but no link. -/
def step (s : Storage) (place : Place) (name : CodeText) : Except FileTrouble Place :=
  match s.entry? place with
  | some .folder =>
    if Path.maxNameSize < name.byteSize then .error .tooLong else .ok (enter place name)
  | some (.file _) => .error .notFolder
  | some (.link _) | none => .error .missing

/-- Where names lead to: to a place, or first to a link with the names behind it. -/
inductive Way where
  | arrived (place : Place)
  | link (folder : Place) (target : CodeText) (rest : List CodeText)
deriving DecidableEq

def walk (s : Storage) (place : Place) : List CodeText → Except FileTrouble Way
  | [] => .ok (.arrived place)
  | name :: rest => do
    let next ← s.step place name
    match s.entry? next with
    | some (.link target) => return .link place target rest
    | _ => walk s next rest

def maxLinks : Nat := 40

def followWithin (s : Storage) : Nat → Place → List CodeText → Except FileTrouble Place
  | 0, place, names => do
    match ← s.walk place names with
    | .arrived stop => return stop
    | .link .. => throw .tooManyLinks
  | links + 1, place, names => do
    match ← s.walk place names with
    | .arrived stop => return stop
    | .link folder target rest =>
      s.followWithin links (originIn folder target) (Path.names target ++ rest)

def follow (s : Storage) (place : Place) (names : List CodeText) : Except FileTrouble Place :=
  s.followWithin maxLinks place names

def namesOf (path : CodeText) : Except FileTrouble (List CodeText) :=
  if !Path.isNamable path then .error .unnamable
  else if path.isEmpty then .error .missing
  else if Path.maxPathSize < path.byteSize then .error .tooLong
  else .ok (Path.names path)

/-- The place that a path leads to, whether or not there is something. -/
def locate (s : Storage) (path : CodeText) : Except FileTrouble Place := do
  s.follow (s.origin path) (← namesOf path)

/-- The place that a path names, even if there is a link. -/
def locateName (s : Storage) (path : CodeText) : Except FileTrouble Place := do
  let names ← namesOf path
  match names.getLast? with
  | none => return s.origin path
  | some last => s.step (← s.follow (s.origin path) names.dropLast) last

def find? (s : Storage) (path : CodeText) : Option Entry :=
  match s.locate path with
  | .ok place => s.entry? place
  | .error _ => none

def has (s : Storage) (path : CodeText) : Bool := (s.find? path).isSome

def hasFolder (s : Storage) (path : CodeText) : Bool :=
  match s.find? path with
  | some .folder => true
  | _ => false

def isSame (s : Storage) (path other : CodeText) : Bool :=
  match s.locate path, s.locate other with
  | .ok place, .ok place' => place == place' && (s.entry? place).isSome
  | _, _ => false

/-! ## Files -/

def refusing {α : Type} (path : CodeText) (result : Except FileTrouble α) : Except FileError α :=
  result.mapError fun trouble => .opening trouble path

@[simp] theorem refusing_ok {α : Type} (path : CodeText) (value : α) :
    refusing path (.ok value) = .ok value :=
  rfl

@[simp] theorem refusing_error {α : Type} (path : CodeText) (trouble : FileTrouble) :
    refusing (α := α) path (.error trouble) = .error (.opening trouble path) :=
  rfl

/-- The bytes of a file. -/
def read (s : Storage) (path : CodeText) : Except FileError ByteArray :=
  refusing path do
    match s.entry? (← s.locate path) with
    | some (.file bytes) => .ok bytes
    | some .folder => .error .isFolder
    | some (.link _) | none => .error .missing

def deny (s : Storage) (place : Place) : Except FileTrouble Place :=
  match s.disk.denial? place with
  | some cause => .error (.disk cause)
  | none => .ok place

/-- The place of a file that can be written to; the file need not exist. -/
def writable (s : Storage) (path : CodeText) : Except FileError Place :=
  refusing path do
    let place ← s.locate path
    match s.entry? place with
    | some .folder | some (.link _) => .error .isFolder
    | some (.file _) | none => s.deny place

/-- What a change leaves, and why it failed if it did. -/
structure Change where
  storage : Storage
  error : Option FileError

/-- Empty the file at a place and store new bytes in it. -/
def fill (s : Storage) (place : Place) (bytes : ByteArray) (stopped : Stop → FileError) :
    Change where
  storage := s.put place (.file (s.disk.stored place bytes))
  error := (s.disk.stopOf? place bytes).map stopped

def write (s : Storage) (path : CodeText) (bytes : ByteArray) : Change :=
  match s.writable path with
  | .error e => ⟨s, some e⟩
  | .ok place => s.fill place bytes fun stop => .storing stop.cause

/-- Why the bytes of one file are not all stored in another one. -/
def copyingError (source target : CodeText) (stop : Stop) : FileError :=
  if stop.cause = .noSpace ∨ 0 < stop.stored then .copying stop.cause source target
  else .storing stop.cause

/-- Write the bytes of one file to another one. -/
def copy (s : Storage) (source target : CodeText) : Change :=
  if s.isSame source target then ⟨s, some (.sameFile source target)⟩
  else match s.read source with
    | .error e => ⟨s, some e⟩
    | .ok bytes =>
      match s.writable target with
      | .error e => ⟨s, some e⟩
      | .ok place => s.fill place bytes (copyingError source target)

/-- Why there is no text to read. -/
inductive TextError where
  | file (error : FileError)
  | undecodable
deriving DecidableEq, Repr

def readText (s : Storage) (path : CodeText) : Except TextError Text :=
  match s.read path with
  | .error e => .error (.file e)
  | .ok bytes =>
    match bytes.utf8Decode? with
    | some chars => .ok chars.toList
    | none => .error .undecodable

/-- Make a folder; no link is followed to its place. -/
def makeFolder (s : Storage) (path : CodeText) : Except FileError Storage :=
  refusing path do
    let place ← s.locateName (Path.withoutEndSlashes path)
    match s.entry? place with
    | some _ => .error .exists
    | none => return s.put (← s.deny place) .folder

/-- Make a folder, which is no failure if it is there. -/
def ensureFolder (s : Storage) (path : CodeText) : Change :=
  match s.makeFolder path with
  | .ok made => ⟨made, none⟩
  | .error e => ⟨s, if s.hasFolder path then none else some e⟩

/-- Make a folder and all folders on the way to it.  A folder is made only if it is
missing, the way to it first; a file in the place of one on the way counts as made.  The first
argument bounds the depth of the folders. -/
def makeFoldersWithin (s : Storage) : Nat → CodeText → Change
  | 0, path => s.ensureFolder path
  | depth + 1, path =>
    let (outer, name) := Path.parent path
    if outer.isEmpty || name.isEmpty || s.has outer then s.ensureFolder path
    else
      let made := s.makeFoldersWithin depth outer
      match made.error with
      | none | some (.opening .exists _) =>
        if name = [Path.dot] then ⟨made.storage, none⟩ else made.storage.ensureFolder path
      | some e => ⟨made.storage, some e⟩

def makeFolders (s : Storage) (path : CodeText) : Change := s.makeFoldersWithin path.length path

/-- The files below the working folder, by their paths from there. -/
def files (s : Storage) : List (CodeText × ByteArray) :=
  s.entries.filterMap fun (place, entry) =>
    match entry with
    | .file bytes =>
      if s.working.isPrefixOf place then
        some (List.intercalate [Path.slash] (place.drop s.working.length), bytes)
      else none
    | .folder | .link _ => none

end Storage

end SqlSnippet
