import SqlSnippet.Command.Snippet
import SqlSnippet.Proofs.Storing
import SqlSnippet.Settings.Configuration
import SqlSnippet.Yaml.Meaning
import Mathlib.Data.List.Basic

/-!
# Files that are neither read nor refused

A configuration that breaks the rules of its format is refused, and a file that cannot be opened is
passed over or refused.  Whatever else keeps the format from reading a file is neither, and bytes
that are no text always keep it from that.  A snippet has no format, so only its bytes and its path
can be at fault.
-/

namespace SqlSnippet

/-- Only texts in UTF-8 are read. -/
def DocumentFormat.ReadsTexts (format : DocumentFormat) : Prop :=
  ∀ bytes value, format.load bytes = .ok value → IsText bytes

theorem Yaml.readsTexts_format : Yaml.format.ReadsTexts := by
  intro bytes value hload
  change load bytes = .ok value at hload
  rw [isText_iff]
  intro hnone
  rw [load, decoded?, hnone, Option.map_none] at hload
  split at hload
  next => cases hload
  next hfails => exact hfails value rfl hload

def OpenError.ofFault (words : CodeText) : ReadError → OpenError
  | .malformed => .refused (.invalidYaml words)
  | cause => .unread cause

namespace Configuration

variable {format : DocumentFormat} {s : Storage} {file : CodeText} {bytes : ByteArray}

theorem settingsOf_of_fault {fault : ReadError} (h : format.load bytes = .error fault) :
    settingsOf format file bytes = .error (.ofFault (format.describe file bytes) fault) := by
  rw [settingsOf, h]
  cases fault <;> rfl

theorem settingsOf_of_value {value : Setting} (h : format.load bytes = .ok value) :
    (∃ settings, settingsOf format file bytes = .ok settings) ∨
      settingsOf format file bytes = .error (.refused (.notMapping file)) := by
  rw [settingsOf, h]
  dsimp only
  split
  · split
    · exact Or.inl ⟨_, rfl⟩
    · exact Or.inr rfl
  · exact Or.inl ⟨_, rfl⟩

theorem openFile_of_read (hread : s.read file = .ok bytes) :
    (openFile format s file).result =
      (settingsOf format file bytes).map fun settings => (⟨file, settings⟩ : Configuration) := by
  rw [openFile, if_pos (Storage.has_of_read hread), hread]

theorem openFile_of_fault {fault : ReadError} (hread : s.read file = .ok bytes)
    (h : format.load bytes = .error fault) :
    (openFile format s file).result = .error (.ofFault (format.describe file bytes) fault) := by
  rw [openFile_of_read hread, settingsOf_of_fault h]
  rfl

theorem OpenError.ofFault_eq_refused_iff {words : CodeText} {fault : ReadError} :
    (∃ refusal, OpenError.ofFault words fault = .refused refusal) ↔ fault = .malformed := by
  cases fault <;> simp [OpenError.ofFault]

/-- A configuration is opened or refused exactly when nothing but the form of its file is at
fault. -/
theorem openFile_contained_iff :
    ((∃ c, (openFile format s file).result = .ok c) ∨
        ∃ refusal, (openFile format s file).result = .error (.refused refusal)) ↔
      ∀ bytes fault, s.read file = .ok bytes → format.load bytes = .error fault →
        fault = .malformed := by
  cases hread : s.read file with
  | error cause =>
      refine iff_of_true (Or.inl ?_) fun bytes fault h => by cases h
      rw [openFile, hread]
      split <;> exact ⟨_, rfl⟩
  | ok bytes =>
      rw [openFile_of_read hread]
      cases hload : format.load bytes with
      | ok value =>
          refine iff_of_true ?_ fun bytes' fault hbytes hfault => ?_
          · rcases @settingsOf_of_value format file bytes value hload with ⟨settings, hok⟩ | herror
            · exact Or.inl ⟨_, by rw [hok]; rfl⟩
            · exact Or.inr ⟨_, by rw [herror]; rfl⟩
          · cases hbytes
            cases hload.symm.trans hfault
      | error fault =>
          rw [settingsOf_of_fault hload]
          constructor
          · intro h bytes' fault' hbytes hfault
            cases hbytes
            cases hload.symm.trans hfault
            rcases h with ⟨c, hc⟩ | ⟨refusal, hrefusal⟩
            · cases hc
            · exact OpenError.ofFault_eq_refused_iff.mp ⟨refusal, Except.error.inj hrefusal⟩
          · intro h
            obtain rfl := h bytes fault rfl hload
            exact Or.inr ⟨_, rfl⟩

/-- Bytes that are no text give no configuration. -/
theorem openFile_ne_ok_of_not_isText (htexts : format.ReadsTexts) (hread : s.read file = .ok bytes)
    (htext : ¬ IsText bytes) (c : Configuration) : (openFile format s file).result ≠ .ok c := by
  cases hload : format.load bytes with
  | ok value => exact absurd (htexts bytes value hload) htext
  | error fault =>
      rw [openFile_of_fault hread hload]
      simp

end Configuration

/-! ## Paths that are none -/

namespace Storage

variable {s : Storage} {path : CodeText} {cause : FileError}

theorem bind_ne_error {ε α β : Type} {x : Except ε α} {f : α → Except ε β} {e : ε}
    (hx : x ≠ .error e) (hf : ∀ a, f a ≠ .error e) : (x >>= f) ≠ .error e := by
  cases x with
  | error e' => exact fun h => hx (congrArg Except.error (Except.error.inj h))
  | ok a => exact hf a

theorem ok_ne_error {ε α : Type} (a : α) (e : ε) : (Except.ok a : Except ε α) ≠ .error e := by
  simp

theorem deny_ne_unnamable (s : Storage) (place : Place) : s.deny place ≠ .error .unnamable := by
  rw [deny]
  split <;> simp

theorem step_ne_unnamable (s : Storage) (place : Place) (name : CodeText) :
    s.step place name ≠ .error .unnamable := by
  rw [step]
  split
  · split <;> simp
  · simp
  · simp
  · simp

theorem walk_ne_unnamable (s : Storage) (place : Place) (names : List CodeText) :
    s.walk place names ≠ .error .unnamable := by
  induction names generalizing place with
  | nil => exact ok_ne_error _ _
  | cons name names ih =>
      rw [walk]
      refine bind_ne_error (s.step_ne_unnamable place name) fun next => ?_
      split
      · exact ok_ne_error _ _
      · exact ih next

theorem followWithin_ne_unnamable (s : Storage) (links : Nat) (place : Place)
    (names : List CodeText) : s.followWithin links place names ≠ .error .unnamable := by
  induction links generalizing place names with
  | zero =>
      rw [followWithin]
      refine bind_ne_error (s.walk_ne_unnamable place names) fun way => ?_
      cases way with
      | arrived stop => exact ok_ne_error _ _
      | link folder target rest => simp [throw, throwThe, MonadExceptOf.throw]
  | succ links ih =>
      rw [followWithin]
      refine bind_ne_error (s.walk_ne_unnamable place names) fun way => ?_
      cases way with
      | arrived stop => exact ok_ne_error _ _
      | link folder target rest => exact ih _ _

theorem namesOf_eq_unnamable_iff :
    namesOf path = .error .unnamable ↔ Path.isNamable path = false := by
  rw [namesOf]
  split_ifs with hpath hnil hlong
  · exact iff_of_true rfl (by simpa using hpath)
  · exact iff_of_false (by simp) (by simpa using hpath)
  · exact iff_of_false (by simp) (by simpa using hpath)
  · exact iff_of_false (by simp) (by simpa using hpath)

theorem locate_eq_unnamable_iff :
    s.locate path = .error .unnamable ↔ Path.isNamable path = false := by
  rw [← namesOf_eq_unnamable_iff, locate]
  cases namesOf path with
  | error trouble => simp [bind, Except.bind]
  | ok names => exact iff_of_false (s.followWithin_ne_unnamable maxLinks _ names) (ok_ne_error _ _)

theorem refusing_isUnnamable_iff {α : Type} {result : Except FileTrouble α}
    (h : refusing path result = .error cause) :
    cause.isUnnamable = true ↔ result = .error .unnamable := by
  cases result with
  | ok value => cases h
  | error trouble =>
      obtain rfl := Except.error.inj h
      cases trouble <;> simp [FileError.isUnnamable]

/-- A path that names something is never refused for its form. -/
theorem isUnnamable_of_read_iff (h : s.read path = .error cause) :
    cause.isUnnamable = true ↔ Path.isNamable path = false := by
  rw [← @locate_eq_unnamable_iff s path, refusing_isUnnamable_iff h]
  cases hlocate : s.locate path with
  | error trouble => simp [bind, Except.bind]
  | ok place =>
      simp only [bind, Except.bind]
      split <;> simp

end Storage

/-! ## Snippets -/

section Snippets

variable {s : Storage} {input : Text} {path : CodeText}

theorem isNamable_of_read {bytes : ByteArray} (hread : s.read path = .ok bytes) :
    Path.isNamable path = true := by
  obtain ⟨place, hlocate, -⟩ := Storage.read_eq_ok_iff.mp hread
  by_contra hname
  have hnone := (@Storage.locate_eq_unnamable_iff s path).mpr (Bool.not_eq_true _ ▸ hname)
  cases hlocate.symm.trans hnone

theorem readSnippet_undecodable_iff :
    readSnippet s input path = .error .undecodable ↔
      path ≠ inputPath ∧ ∃ bytes, s.read path = .ok bytes ∧ ¬ IsText bytes := by
  rw [← Storage.readText_undecodable_iff, readSnippet]
  by_cases hpath : path = inputPath
  · simp [hpath]
  rw [if_neg hpath]
  cases s.readText path with
  | ok t => simp
  | error e =>
      cases e with
      | file cause =>
          dsimp only
          split <;> simp
      | undecodable => simp [hpath]

theorem readSnippet_unnamable_iff :
    readSnippet s input path = .error .unnamable ↔
      path ≠ inputPath ∧ Path.isNamable path = false := by
  rw [readSnippet]
  by_cases hpath : path = inputPath
  · simp [hpath]
  rw [if_neg hpath, Storage.readText]
  cases hread : s.read path with
  | error cause =>
      have hname := Storage.isUnnamable_of_read_iff hread
      dsimp only
      split
      · exact iff_of_true rfl ⟨hpath, hname.mp ‹_›⟩
      · exact iff_of_false (by simp) fun h => absurd (hname.mpr h.2) ‹_›
  | ok bytes =>
      have hname := isNamable_of_read hread
      dsimp only
      cases bytes.utf8Decode? <;> simp [hname]

/-- A snippet is read or refused exactly when its path is one and its bytes are a text. -/
theorem readSnippet_contained_iff :
    ((∃ t, readSnippet s input path = .ok t) ∨
        ∃ refusal, readSnippet s input path = .error (.refused refusal)) ↔
      path = inputPath ∨ Path.isNamable path = true ∧
        ∀ bytes, s.read path = .ok bytes → IsText bytes := by
  have hcontained : ((∃ t, readSnippet s input path = .ok t) ∨
      ∃ refusal, readSnippet s input path = .error (.refused refusal)) ↔
      readSnippet s input path ≠ .error .undecodable ∧
        readSnippet s input path ≠ .error .unnamable := by
    cases readSnippet s input path with
    | ok t => simp
    | error failure => cases failure <;> simp
  rw [hcontained, ne_eq, ne_eq, readSnippet_undecodable_iff, readSnippet_unnamable_iff]
  by_cases hpath : path = inputPath
  · simp [hpath]
  · simp [hpath, and_comm, not_imp_not]

end Snippets

end SqlSnippet
