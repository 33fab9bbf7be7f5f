import SqlSnippet.Text.CodePoint

/-!
# Arguments

Arguments are words and options.  An option has a long name behind two dashes, and perhaps a letter
behind one dash; several letters may share a dash.  An option with a value takes the rest of its own
argument or else the next one, whatever that looks like.  Behind two dashes that stand alone
everything is a word, and a single dash is a word too.  Arguments come from outside as bytes, so
they can have halves of pairs in them.
-/

namespace SqlSnippet

/-- An option that a command knows. -/
structure OptionForm where
  letter : Option Char
  name : String
  takesValue : Bool
deriving DecidableEq, Repr

/-- What was given to a command. -/
structure Arguments where
  flags : List String
  /-- The values in the order in which they were given. -/
  values : List (String × CodeText)
  words : List CodeText
deriving DecidableEq, Repr

namespace Arguments

def ofWords (words : List CodeText) : Arguments := ⟨[], [], words⟩

def hasFlag (a : Arguments) (name : String) : Bool := a.flags.contains name

/-- The last value that was given to an option. -/
def value? (a : Arguments) (name : String) : Option CodeText :=
  (a.values.reverse.find? fun v => v.1 == name).map Prod.snd

/-- The options of one argument: its flags, and perhaps a last option that takes a value, with
that value if the argument holds it. -/
structure Options where
  flags : List String
  last : Option (String × Option CodeText)
deriving DecidableEq, Repr

/-- The options behind one dash. -/
def letters? (forms : List OptionForm) : CodeText → Option Options
  | [] => some ⟨[], none⟩
  | p :: rest =>
    match forms.find? fun f => f.letter.map CodePoint.ofChar == some p with
    | none => none
    | some f =>
      if f.takesValue then some ⟨[], some (f.name, if rest.isEmpty then none else some rest)⟩
      else (letters? forms rest).map fun o => { o with flags := f.name :: o.flags }

def long? (forms : List OptionForm) (body : CodeText) : Option Options :=
  let name := body.takeWhile (· ≠ .ofChar '=')
  let inline := match body.dropWhile (· ≠ .ofChar '=') with
    | _ :: value => some value
    | [] => none
  match forms.find? fun f => CodeText.ofString f.name == name, inline with
  | none, _ => none
  | some f, inline =>
    if f.takesValue then some ⟨[], some (f.name, inline)⟩
    else if inline.isNone then some ⟨[f.name], none⟩
    else none

def dash : CodePoint := .ofChar '-'

/-- The options of an argument that begins with a dash; none if one of them is unknown. -/
def options? (forms : List OptionForm) (arg : CodeText) : Option Options :=
  if [dash, dash].isPrefixOf arg then long? forms (arg.drop 2) else letters? forms (arg.drop 1)

def isOption (arg : CodeText) : Bool := arg.head? == some dash && 1 < arg.length

def behind (o : Options) (value : Option (String × CodeText)) (a : Arguments) : Arguments :=
  { a with flags := o.flags ++ a.flags, values := value.toList ++ a.values }

/-- Sort out arguments.  Unless options may stand behind words, the first word ends them. -/
def parse? (forms : List OptionForm) (mixed : Bool) : List CodeText → Option Arguments
  | [] => some (.ofWords [])
  | arg :: rest =>
    if arg = [dash, dash] then some (.ofWords rest)
    else if isOption arg then
      match options? forms arg with
      | none => none
      | some o =>
        match o.last with
        | none => (parse? forms mixed rest).map (behind o none)
        | some (name, some value) => (parse? forms mixed rest).map (behind o (some (name, value)))
        | some (name, none) =>
          match rest with
          | [] => none
          | value :: rest => (parse? forms mixed rest).map (behind o (some (name, value)))
    else if mixed then (parse? forms mixed rest).map fun a => { a with words := arg :: a.words }
    else some (.ofWords (arg :: rest))

end Arguments

end SqlSnippet
