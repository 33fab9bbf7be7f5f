import SqlSnippet.Settings.Basic

/-!
# Merging settings

A table is merged over another one key by key.  Where both have a table the two are
merged in turn; everywhere else the setting of the upper table replaces that of the lower one.
-/

namespace SqlSnippet

mutual

/-- What a key is bound to when `lower` lies under a setting. -/
def Setting.over (lower : Option Setting) : Setting → Setting
  | .table upper =>
    match lower with
    | some (.table entries) => .table (Settings.merge entries upper)
    | _ => .table upper
  | upper => upper
termination_by structural upper => upper

/-- The table `lower` with all bindings of the upper table merged over it. -/
def Settings.merge (lower : Settings) : List (Scalar × Setting) → Settings
  | [] => lower
  | (key, value) :: rest =>
    Settings.merge (lower.put key (value.over (lower.get? key))) rest
termination_by structural upper => upper

end

end SqlSnippet
