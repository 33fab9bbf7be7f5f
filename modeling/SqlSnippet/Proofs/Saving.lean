import SqlSnippet.Proofs.Merging
import SqlSnippet.Proofs.Storing
import SqlSnippet.Settings.Configuration
import SqlSnippet.Yaml.Meaning

/-!
# Saving and opening again

Opening lays a file over the defaults, so an opened configuration has all keys of the defaults, and
updates leave it so.  Saved and opened again, it is laid over the defaults once more, and nothing of
them comes back.  This holds for every format whose tables bind each key once and that reads what it
has written.
-/

namespace SqlSnippet

namespace DocumentFormat

/-- A setting that is read binds each key once, in all its tables. -/
def BindsOnce (format : DocumentFormat) : Prop :=
  ∀ bytes value, format.load bytes = .ok value → value.Unambiguous

/-- What is written for some settings is read as the same settings. -/
def Restores (format : DocumentFormat) (settings : Settings) : Prop :=
  ∀ t, format.dump settings = some t →
    ∃ value, format.load t.toString.toUTF8 = .ok value ∧ value.Same (.table settings)

end DocumentFormat

namespace Yaml

mutual

/-- A document is read as tables that bind each key once. -/
theorem Meaning.unambiguous_setting (m : Meaning) : m.setting.Unambiguous := by
  cases m with
  | scalar value =>
      cases value with
      | ok s => exact .scalar s
      | error e => exact .scalar .null
  | unmerged => exact .scalar .null
  | list items => exact .list (Meaning.unambiguous_settings items)
  | table pairs => exact Settings.unambiguous_ofList (Meaning.unambiguous_bindings pairs)

theorem Meaning.unambiguous_settings (items : List Meaning) :
    ∀ item ∈ Meaning.settings items, item.Unambiguous := by
  cases items with
  | nil => exact fun item hitem => absurd hitem List.not_mem_nil
  | cons first rest =>
      rw [Meaning.settings, List.forall_mem_cons]
      exact ⟨first.unambiguous_setting, Meaning.unambiguous_settings rest⟩

theorem Meaning.unambiguous_bindings (pairs : List (Meaning × Meaning)) :
    ∀ binding ∈ Meaning.bindings pairs, binding.2.Unambiguous := by
  cases pairs with
  | nil => exact fun binding hbinding => absurd hbinding List.not_mem_nil
  | cons first rest =>
      obtain ⟨key, value⟩ := first
      rw [Meaning.bindings, List.forall_mem_cons]
      exact ⟨value.unambiguous_setting, Meaning.unambiguous_bindings rest⟩

end

theorem Loaded.unambiguous_of_setting {loaded : Loaded} {value : Setting}
    (h : loaded.setting = .ok value) : value.Unambiguous := by
  rw [Loaded.setting] at h
  cases hdocument : Node.document? (tokensOf loaded.text loaded.fault) with
  | error e =>
      rw [hdocument] at h
      cases h
  | ok document =>
      rw [hdocument] at h
      cases document with
      | none =>
          cases h
          exact .scalar .null
      | some node =>
          simp only [bind, Except.bind] at h
          split at h
          next => cases h
          next =>
            cases h
            exact node.meaning.unambiguous_setting

theorem bindsOnce_format : format.BindsOnce := by
  intro bytes value hload
  change load bytes = .ok value at hload
  rw [load] at hload
  split at hload
  · cases hload
  · exact Loaded.unambiguous_of_setting hload

end Yaml

namespace Configuration

variable {format : DocumentFormat} {s : Storage} {file : CodeText} {bytes : ByteArray}
  {settings : Settings} {c : Configuration}

theorem settingsOf_of_table {entries : Settings}
    (hloaded : format.load bytes = .ok (.table entries)) :
    settingsOf format file bytes = .ok (Settings.merge defaultSettings entries) := by
  rw [settingsOf, hloaded]
  cases entries <;> rfl

/-- All keys of the defaults are bound in the settings that a file gives. -/
theorem settingsOf_covers (honce : format.BindsOnce)
    (h : settingsOf format file bytes = .ok settings) : settings.Covers defaultSettings := by
  cases hloaded : format.load bytes with
  | error e =>
      rw [settingsOf, hloaded] at h
      cases e <;> cases h
  | ok value =>
      cases value with
      | table entries =>
          rw [settingsOf_of_table hloaded] at h
          obtain rfl := Except.ok.inj h
          exact Settings.covers_merge (honce _ _ hloaded) _
      | scalar | list =>
          simp only [settingsOf, hloaded] at h
          split at h
          · cases h
          · obtain rfl := Except.ok.inj h
            exact Settings.Covers.refl _

theorem openFile_covers (honce : format.BindsOnce)
    (h : (openFile format s file).result = .ok c) : c.settings.Covers defaultSettings := by
  rw [openFile] at h
  split at h
  next =>
    split at h
    next =>
      obtain rfl := Except.ok.inj h
      exact Settings.Covers.refl _
    next bytes hread =>
      cases hsettings : settingsOf format file bytes with
      | error e =>
          simp only [hsettings, Except.map] at h
          cases h
      | ok settings =>
          simp only [hsettings, Except.map] at h
          obtain rfl := Except.ok.inj h
          exact settingsOf_covers honce hsettings
  next =>
    obtain rfl := Except.ok.inj h
    exact Settings.Covers.refl _

/-- A configuration that was opened, and then updated with scalars any number of times, each time
as far as the update went. -/
inductive Reached (format : DocumentFormat) (s : Storage) (file : CodeText) : Configuration → Prop
  | opened {c : Configuration} (hopened : (openFile format s file).result = .ok c) :
      Reached format s file c
  | updated {c : Configuration} {changes : List (CodeText × Setting)}
      (hreached : Reached format s file c)
      (hscalar : ∀ change ∈ changes, ∃ x, change.2 = .scalar x) :
      Reached format s file (c.update changes).1

theorem Reached.covers (honce : format.BindsOnce) (h : Reached format s file c) :
    c.settings.Covers defaultSettings := by
  induction h with
  | opened hopened => exact openFile_covers honce hopened
  | updated _ hscalar ih => exact ih.update hscalar

/-! ## Saving -/

theorem unsaved_error_ne_none (c : Configuration) (s : Storage) (cause : FileError) :
    (c.unsaved s cause).error ≠ none := by
  rw [unsaved]
  split <;> exact Option.some_ne_none _

/-- A configuration that was saved has its text in its file. -/
theorem read_of_save (h : (c.save format s).error = none) :
    ∃ t, format.dump c.settings = some t ∧
      (c.save format s).storage.read c.file = .ok t.toString.toUTF8 := by
  simp only [save] at h ⊢
  generalize (if (Path.folder c.file).isEmpty = true then (⟨s, none⟩ : Storage.Change)
    else s.makeFolders (Path.folder c.file)) = outer at h ⊢
  obtain ⟨made, trouble⟩ := outer
  cases trouble with
  | some cause => exact absurd h (unsaved_error_ne_none c made cause)
  | none =>
      dsimp only at h ⊢
      cases hwrite : (made.write c.file
          ((format.dump c.settings).getD []).toString.toUTF8).error with
      | some cause =>
          rw [hwrite] at h
          exact absurd h (unsaved_error_ne_none c _ cause)
      | none =>
          rw [hwrite] at h
          cases htext : format.dump c.settings with
          | none =>
              rw [htext] at h
              cases h
          | some t =>
              rw [htext] at hwrite
              exact ⟨t, rfl, Storage.read_write hwrite⟩

/-- What was saved is opened again as the same settings, if what is written for them is read as the
same settings.  The defaults, over which it is laid, neither come back nor take anything away. -/
theorem openFile_save {s₀ : Storage} (honce : format.BindsOnce)
    (hreached : Reached format s₀ file c) (hsaved : (c.save format s).error = none)
    (hrestores : format.Restores c.settings) :
    ∃ c', (openFile format (c.save format s).storage c.file).result = .ok c' ∧ c'.file = c.file ∧
      (Setting.table c'.settings).Same (.table c.settings) := by
  obtain ⟨t, hwritten, hread⟩ := read_of_save hsaved
  obtain ⟨value, hloaded, hsame⟩ := hrestores t hwritten
  cases value with
  | scalar | list => cases hsame.shape_eq
  | table entries =>
      have hcovers := (hreached.covers honce).of_same hsame.symm
      refine ⟨⟨c.file, Settings.merge defaultSettings entries⟩, ?_, rfl, ?_⟩
      · rw [openFile, if_pos (Storage.has_of_read hread), hread]
        simp only [settingsOf_of_table hloaded, Except.map]
      · exact (hcovers.merge_same (honce _ _ hloaded)).trans hsame

theorem unambiguous_defaultSettings : (Setting.table defaultSettings).Unambiguous := by
  have hsection : ∀ table : Settings, table.Pairwise (fun a b => ¬ a.1.isKey b.1) →
      (∀ entry ∈ table, ∃ x, entry.2 = .scalar x) → (Setting.table table).Unambiguous := by
    intro table hkeys hscalar
    refine .table hkeys fun entry hmem => ?_
    obtain ⟨x, hx⟩ := hscalar entry hmem
    exact hx ▸ .scalar x
  refine .table (by unfold Settings.KeysApart; decide) ?_
  simp only [defaultSettings, List.forall_mem_cons, List.not_mem_nil, false_implies, implies_true,
    and_true]
  refine ⟨hsection _ (by decide) ?_, hsection _ (by decide) ?_, hsection _ (by decide) ?_⟩
  · simp [Setting.ofBool]
  · simp [Setting.ofBool]
  · simp [Setting.ofText]

/-- Of two updates the first one takes the place of a table, and the second one then breaks off. -/
theorem openFile_save_scalar :
    let s : Storage := ⟨[], [], .ample⟩
    let c := ((⟨.ofString "c", defaultSettings⟩ : Configuration).update
      [(.ofString "editor", .ofBool false), (.ofString "editor.confirm_save", .ofBool true)]).1
    ∃ c', (openFile Yaml.format (c.save Yaml.format s).storage c.file).result = .ok c' ∧
      c'.file = c.file ∧ (Setting.table c'.settings).Same (.table c.settings) := by
  intro s c
  have hscalar : ∀ change ∈ [(CodeText.ofString "editor", Setting.ofBool false),
      (CodeText.ofString "editor.confirm_save", Setting.ofBool true)],
      ∃ x, change.2 = .scalar x := by
    simp [Setting.ofBool]
  have hreached : Reached Yaml.format s (.ofString "c") c := .updated (.opened rfl) hscalar
  have hunambiguous : (Setting.table c.settings).Unambiguous :=
    Settings.unambiguous_update unambiguous_defaultSettings hscalar
  have hsaved : (c.save Yaml.format s).error = none := by decide +kernel
  refine openFile_save Yaml.bindsOnce_format hreached hsaved fun t ht => ?_
  have hwritten : Yaml.format.dump c.settings = some (Text.ofString
      ("editor: false\nlogging:\n  level: WARNING\n" ++
        "output:\n  color: true\n  show_preview: true\n  verbose: false\n")) := by
    decide +kernel
  obtain rfl := Option.some.inj (hwritten.symm.trans ht)
  refine ⟨(Setting.table c.settings).sorted, ?_, hunambiguous.same_sorted⟩
  decide +kernel

end Configuration

end SqlSnippet
