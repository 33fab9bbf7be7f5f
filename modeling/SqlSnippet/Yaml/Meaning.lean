import SqlSnippet.Yaml.Layout
import SqlSnippet.Yaml.Load
import SqlSnippet.Yaml.Node
import SqlSnippet.Yaml.Plain

/-!
# The meaning of a document

A document stands for a setting: its sequences for lists, its mappings for tables with scalars for
keys.  Of two pairs with one key the later one holds, and the pairs that a merge key brings in come
before all pairs of the mapping itself.

Scalars that stand for nothing, keys that are no scalars and merge keys without a mapping are
faults.  The outermost fault counts, and of several at the same depth the first.
-/

namespace SqlSnippet.Yaml

/-- A document whose scalars are read and whose merge keys are carried out. -/
inductive Meaning where
  | scalar (value : Except ReadError Scalar)
  | list (items : List Meaning)
  | table (pairs : List (Meaning × Meaning))
  | unmerged
deriving Inhabited

/-- What a pair of a mapping is there for. -/
inductive PairRole where
  | binding (key : Meaning)
  | merge
deriving Inhabited

/-- The pairs that the value of a merge key brings in: those of a mapping, or of the mappings in a
list, of which the first one has the last word. -/
def Meaning.merged? : Meaning → Option (List (Meaning × Meaning))
  | .table pairs => some pairs
  | .list items =>
    items.reverse.foldlM
      (fun pairs item => match item with
        | .table more => some (pairs ++ more)
        | _ => none) []
  | _ => none

/-- The mapping with these pairs: first all that merge keys bring in, then all others. -/
def Meaning.ofPairs (pairs : List (PairRole × Meaning)) : Meaning :=
  let brought := pairs.mapM fun
    | (.merge, value) => value.merged?
    | (.binding _, _) => some []
  let own := pairs.filterMap fun
    | (.merge, _) => none
    | (.binding key, value) => some (key, value)
  match brought with
  | some lists => .table (lists.flatten ++ own)
  | none => .unmerged

mutual

/-- The meaning of a node. -/
def Node.meaning : Node → Meaning
  | .plain text => .scalar (plainValue text)
  | .quoted points => .scalar (.ok (.text points))
  | .sequence items => .list (Node.meanings items)
  | .mapping pairs => .ofPairs (Node.pairMeanings pairs)
termination_by structural node => node

def Node.meanings : List Node → List Meaning
  | [] => []
  | item :: rest => item.meaning :: Node.meanings rest
termination_by structural items => items

/-- The meanings of the pairs of a mapping.  As a key the mark of a default value is a text. -/
def Node.pairMeanings : List (Node × Node) → List (PairRole × Meaning)
  | [] => []
  | (key, value) :: rest =>
    let role : PairRole := match key with
      | .plain text =>
        match plainKind text with
        | .mergeKey => .merge
        | .valueKey => .binding (.scalar (.ok (.named text)))
        | _ => .binding key.meaning
      | _ => .binding key.meaning
    (role, value.meaning) :: Node.pairMeanings rest
termination_by structural pairs => pairs

end

/-! ## Faults -/

namespace Meaning

/-- The fault of a scalar; other faults are met one step later. -/
def scalarFault : Meaning → List ReadError
  | .scalar (.error e) => [e]
  | _ => []

def keyFault : Meaning → List ReadError
  | .scalar (.error e) => [e]
  | .scalar (.ok _) => []
  | _ => [.malformed]

/-- The faults of neighbours, depth by depth. -/
def sideBySide : List (List ReadError) → List (List ReadError) → List (List ReadError)
  | [], right => right
  | left, [] => left
  | l :: left, r :: right => (l ++ r) :: sideBySide left right

mutual

/-- The faults inside a list or a table, depth by depth. -/
def faults : Meaning → List (List ReadError)
  | .scalar _ => []
  | .list items => items.flatMap scalarFault :: faultsOfItems items
  | .table pairs =>
    (pairs.flatMap fun (key, value) => key.keyFault ++ value.scalarFault) :: faultsOfPairs pairs
  | .unmerged => [[.malformed]]
termination_by structural meaning => meaning

def faultsOfItems : List Meaning → List (List ReadError)
  | [] => []
  | item :: rest => sideBySide item.faults (faultsOfItems rest)
termination_by structural items => items

def faultsOfPairs : List (Meaning × Meaning) → List (List ReadError)
  | [] => []
  | (_, value) :: rest => sideBySide value.faults (faultsOfPairs rest)
termination_by structural pairs => pairs

end

/-- The fault that counts. -/
def fault? (m : Meaning) : Option ReadError := (m.scalarFault ++ m.faults.flatten).head?

def key : Meaning → Scalar
  | .scalar (.ok s) => s
  | _ => .null

mutual

def setting : Meaning → Setting
  | .scalar (.ok s) => .scalar s
  | .scalar (.error _) | .unmerged => .scalar .null
  | .list items => .list (settings items)
  | .table pairs => .table (Settings.ofList (bindings pairs))
termination_by structural meaning => meaning

def settings : List Meaning → List Setting
  | [] => []
  | item :: rest => item.setting :: settings rest
termination_by structural items => items

def bindings : List (Meaning × Meaning) → List (Scalar × Setting)
  | [] => []
  | (key, value) :: rest => (key.key, value.setting) :: bindings rest
termination_by structural pairs => pairs

end

end Meaning

/-- The setting that a loaded text stands for; an empty text stands for null. -/
def Loaded.setting (loaded : Loaded) : Except ReadError Setting := do
  match ← Node.document? (tokensOf loaded.text loaded.fault) with
  | none => return .scalar .null
  | some node =>
    let meaning := node.meaning
    match meaning.fault? with
    | some e => throw e
    | none => return meaning.setting

def load (bytes : ByteArray) : Except ReadError Setting :=
  match decoded? bytes, (Loaded.ofBytes bytes).setting with
  | none, .ok _ => .error .undecodable
  | _, result => result

def format : DocumentFormat :=
  ⟨load, fun _ _ => .ofString "the text breaks the rules of the format", writeSettings?⟩

end SqlSnippet.Yaml
