import SqlSnippet.Order.Halving
import SqlSnippet.Settings.Basic

/-!
# Sorted tables

A table is shown in ascending order of its keys if any two of them can be compared.  One that
has keys of several kinds is shown in its own order.
-/

namespace SqlSnippet

namespace Settings

/-- Every key can be compared with the first one. -/
def isComparable : Settings → Bool
  | [] => true
  | (first, _) :: rest => rest.all fun entry => first.rank.isComparable entry.1.rank

/-- The bindings of a table in the order in which they are shown. -/
def sorted (table : Settings) : Settings :=
  if table.isComparable then sortHalving (fun a b => a.1.rank.before b.1.rank) table else table

theorem sorted_perm (table : Settings) : table.sorted.Perm table := by
  unfold sorted
  split
  · exact sortHalving_perm _ _
  · exact .refl _

end Settings

mutual

def Setting.sorted : Setting → Setting
  | .scalar s => .scalar s
  | .list items => .list (Setting.sortedItems items)
  | .table entries => .table (Settings.sorted (Settings.sortedEntries entries))
termination_by structural value => value

def Setting.sortedItems : List Setting → List Setting
  | [] => []
  | item :: rest => item.sorted :: Setting.sortedItems rest
termination_by structural items => items

def Settings.sortedEntries : List (Scalar × Setting) → List (Scalar × Setting)
  | [] => []
  | (key, value) :: rest => (key, value.sorted) :: Settings.sortedEntries rest
termination_by structural entries => entries

end

end SqlSnippet
