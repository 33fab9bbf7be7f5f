import SqlSnippet.Settings.Scalar
import SqlSnippet.Text.Number

/-!
# Settings

A setting is a scalar, a list or a table of settings.  A table keeps its keys in the order in
which they were first bound, each of them once.  Binding a key again replaces its setting and keeps
the key as it was, which matters where one key has several forms.
-/

namespace SqlSnippet

/-- A configuration value. -/
inductive Setting where
  | scalar (s : Scalar)
  | list (items : List Setting)
  | table (entries : List (Scalar × Setting))
deriving Repr, Inhabited

/-- The bindings of a table. -/
abbrev Settings := List (Scalar × Setting)

namespace Setting

def ofBool (b : Bool) : Setting := .scalar (.bool b)

def ofText (t : Text) : Setting := .scalar (.text t.codePoints)

/-- A setting that counts as "on": everything but null, false, the zeros and what is empty. -/
def isOn : Setting → Bool
  | .scalar .null => false
  | .scalar (.bool b) => b
  | .scalar (.int n) => n != 0
  | .scalar (.float x) => !x.isZero
  | .scalar (.date _) | .scalar (.moment _) => true
  | .scalar (.text t) => !t.isEmpty
  | .list items => !items.isEmpty
  | .table entries => !entries.isEmpty

end Setting

namespace Settings

/-- The setting that a key is bound to. -/
def get? (key : Scalar) : Settings → Option Setting
  | [] => none
  | (k, v) :: rest => if k.isKey key then some v else get? key rest

/-- Bind a key, in its place if it is bound already, else behind all others. -/
def put (key : Scalar) (value : Setting) : Settings → Settings
  | [] => [(key, value)]
  | (k, v) :: rest => if k.isKey key then (k, value) :: rest else (k, v) :: put key value rest

/-- The table with the given bindings; of two for the same key the later one holds. -/
def ofList (bindings : List (Scalar × Setting)) : Settings :=
  bindings.foldl (fun table (key, value) => put key value table) []

theorem get?_put_self (key : Scalar) (value : Setting) (table : Settings) :
    get? key (put key value table) = some value := by
  induction table with
  | nil => simp [put, get?, Scalar.isKey_refl]
  | cons entry rest ih =>
    obtain ⟨k, v⟩ := entry
    unfold put
    split
    · next h => simp [get?, h]
    · next h => simp [get?, h, ih]

theorem get?_put_of_not_isKey {key other : Scalar} (value : Setting) (table : Settings)
    (h : ¬ key.isKey other) : get? other (put key value table) = get? other table := by
  induction table with
  | nil => simp [put, get?, h]
  | cons entry rest ih =>
    obtain ⟨k, v⟩ := entry
    unfold put
    split
    · next hk =>
      have : ¬ k.isKey other := fun ho => h (Scalar.isKey_trans (Scalar.isKey_symm hk) ho)
      simp [get?, this]
    · simp [get?, ih]

end Settings

/-- A whole number has a text only if it has not too many digits. -/
def Scalar.hasText : Scalar → Bool
  | .int n => n.natAbs < Nat.pow 10 maxDigits
  | _ => true

mutual

def Setting.hasText : Setting → Bool
  | .scalar s => s.hasText
  | .list items => Setting.allHaveText items
  | .table entries => Settings.haveText entries
termination_by structural value => value

def Setting.allHaveText : List Setting → Bool
  | [] => true
  | item :: rest => item.hasText && Setting.allHaveText rest
termination_by structural items => items

def Settings.haveText : List (Scalar × Setting) → Bool
  | [] => true
  | (key, value) :: rest => key.hasText && value.hasText && Settings.haveText rest
termination_by structural entries => entries

end

end SqlSnippet
