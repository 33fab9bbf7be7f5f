import SqlSnippet.Proofs.Failures
import SqlSnippet.Proofs.Refusals
import SqlSnippet.Proofs.Rewriting
import SqlSnippet.Proofs.Tables

/-!
# Runs that crash

Besides the files that are neither read nor refused there are a few other ways to crash: an update
of a setting below a value that is no table, a level of the log that is none, a number whose digits
cannot be read or written, a path that is none, something to be written that is no text, and a
message that the console refuses.
-/

namespace SqlSnippet

/-- The crash that comes of a snippet that is neither written nor refused. -/
def WriteFailure.crash? : WriteFailure → Option Crash
  | .refused _ => none
  | .unencodable => some .unencodable
  | .unnamable => some .unnamable

section Writes

variable {s : Storage} {path target : CodeText} {u : Option Text} {keep : Bool} {old : ByteArray}
  {cause : FileError} {crash : Crash}

theorem isNamable_backupPath (h : Path.isNamable path = true) :
    Path.isNamable (backupPath path) = true := by
  rw [Path.isNamable] at h
  rw [backupPath, Path.isNamable, List.all_append, h]
  decide

theorem WriteFailure.crash?_of (h : cause.isUnnamable = false) :
    (WriteFailure.of path cause).crash? = none := by
  simp [WriteFailure.of, h, crash?]

theorem isUnnamable_of_writable (h : s.writable path = .error cause)
    (hname : Path.isNamable path = true) : cause.isUnnamable = false := by
  rw [← Bool.not_eq_true, Storage.refusing_isUnnamable_iff h]
  refine Storage.bind_ne_error ?_ fun place => ?_
  · rw [Ne, Storage.locate_eq_unnamable_iff, hname]
    decide
  · split
    · simp
    · simp
    · exact s.deny_ne_unnamable place
    · exact s.deny_ne_unnamable place

theorem isUnnamable_of_write {bytes : ByteArray} (h : (s.write path bytes).error = some cause)
    (hname : Path.isNamable path = true) : cause.isUnnamable = false := by
  rw [Storage.write] at h
  cases hwritable : s.writable path with
  | error e =>
      rw [hwritable] at h
      obtain rfl := Option.some.inj h
      exact isUnnamable_of_writable hwritable hname
  | ok place =>
      rw [hwritable] at h
      obtain ⟨stop, -, rfl⟩ := Option.map_eq_some_iff.mp h
      rfl

theorem isUnnamable_of_keepBackup (hread : s.read path = .ok old)
    (h : (keepBackup s path).error = some cause) : cause.isUnnamable = false := by
  rw [keepBackup_of_read hread, Storage.copy] at h
  split at h
  next =>
    obtain rfl := Option.some.inj h
    rfl
  next =>
    rw [hread] at h
    dsimp only at h
    cases hwritable : s.writable (backupPath path) with
    | error e =>
        rw [hwritable] at h
        obtain rfl := Option.some.inj h
        exact isUnnamable_of_writable hwritable (isNamable_backupPath (isNamable_of_read hread))
    | ok place =>
        rw [hwritable] at h
        obtain ⟨stop, -, rfl⟩ := Option.map_eq_some_iff.mp h
        rw [Storage.copyingError]
        split <;> rfl

theorem write_error_of_none {place : Place} (h : s.writable path = .ok place) :
    (s.write path (encoded none)).error = none :=
  (Storage.write_of_writable h _).2.mpr rfl

/-- Writing to a file that was read crashes only over something that is no text, and then with the
file open. -/
theorem writeSnippet_crash_iff (hread : s.read path = .ok old) (hpath : path ≠ inputPath) :
    (writeSnippet s path u keep).error.bind WriteFailure.crash? = some crash ↔
      crash = .unencodable ∧ u = none ∧ (keep = true → (keepBackup s path).error = none) ∧
        ∃ place, s.writable path = .ok place := by
  have hname := isNamable_of_read hread
  rw [writeSnippet, if_neg hpath]
  by_cases hkeep : keep = true → (keepBackup s path).error = none
  · obtain ⟨kept, hkept, hafter⟩ := exists_kept hread hkeep
    rw [hkept]
    dsimp only
    rw [← encoded]
    cases hcause : (kept.write path (encoded u)).error with
    | some cause =>
        have hnamable := isUnnamable_of_write hcause hname
        refine iff_of_false (by simp [WriteFailure.crash?_of hnamable]) ?_
        rintro ⟨-, rfl, -, place, hwritable⟩
        rw [write_error_of_none (hafter.writable.trans hwritable)] at hcause
        cases hcause
    | none =>
        cases hwritable : s.writable path with
        | error e =>
            rw [Storage.write_of_not_writable (hafter.writable.trans hwritable)] at hcause
            cases hcause
        | ok place =>
            cases u with
            | none => exact ⟨fun h => ⟨(Option.some.inj h).symm, rfl, hkeep, place, rfl⟩,
                fun h => congrArg some h.1.symm⟩
            | some t => simp
  · obtain ⟨rfl, hfailed⟩ := Classical.not_imp.mp hkeep
    obtain ⟨cause, hcause⟩ := Option.ne_none_iff_exists'.mp hfailed
    have hnamable := isUnnamable_of_keepBackup hread hcause
    rw [if_pos rfl]
    dsimp only
    rw [hcause]
    refine iff_of_false (by simp [WriteFailure.crash?_of hnamable]) ?_
    rintro ⟨-, -, hkept, -⟩
    cases hkept rfl

end Writes

/-! ## Crashes -/

/-- The crash that comes of a configuration that is neither opened nor refused. -/
def OpenError.crash? : OpenError → Option Crash
  | .refused _ => none
  | .unread cause => some (.unread cause)

def SaveError.crash? : SaveError → Option Crash
  | .refused _ => none
  | .unnamable => some .unnamable
  | .noText => some .noText

/-- Saving a configuration comes to a crash. -/
inductive Configuration.SaveCrashes (format : DocumentFormat) (c : Configuration) (s : Storage) :
    Crash → Prop
  | intro {e : SaveError} {cause : Crash} (herror : (c.save format s).error = some e)
      (hcrash : e.crash? = some cause) : SaveCrashes format c s cause

/-- The ways in which a request comes to a crash on the text `t` of its snippet. -/
inductive Request.CrashesOn (console : Console) (c : Configuration) (s : Storage)
    (input t : Text) : Request → Crash → Prop
  | written {request : Request} {path : CodeText} {place : Place}
      (hpath : request.path? = some path)
      (hwrites : request.Rewrites console c s input path place t none) :
      CrashesOn console c s input t request .unencodable
  | printed {path value : CodeText} {index : Int} (hset : enterValue t index value = .ok none) :
      CrashesOn console c s input t (.set path index value false) .unencodable
  /-- The session breaks off over a number that cannot be read or a report that is refused. -/
  | session {path : CodeText} {error : SessionError} {cause : Crash} (hfile : path ≠ inputPath)
      (hending : (c.session console input t).ending = .failed error)
      (hcrash : error.verdict = .crash cause) : CrashesOn console c s input t (.edit path) cause
  /-- The path has no text, so the question that names it cannot be asked. -/
  | asked {path : CodeText} {u : Text} (hfile : path ≠ inputPath)
      (hsaved : (c.session console input t).ending = .saved u) (hchanged : u ≠ t)
      (hask : c.isOn "editor.confirm_save" = true) (hname : path.chars? = none) :
      CrashesOn console c s input t (.edit path) .unencodable

/-- The ways in which a request comes to a crash. -/
inductive Request.Crashes (host : Host) (c : Configuration) (s : Storage) (input : Text) :
    Request → Crash → Prop
  | undecodable {request : Request} {path : CodeText} {bytes : ByteArray}
      (hpath : request.path? = some path) (hfile : path ≠ inputPath)
      (hread : s.read path = .ok bytes) (hbytes : ¬ IsText bytes) :
      Crashes host c s input request .undecodable
  | unnamable {request : Request} {path : CodeText} (hpath : request.path? = some path)
      (hfile : path ≠ inputPath) (hname : Path.isNamable path = false) :
      Crashes host c s input request .unnamable
  | snippet {request : Request} {path : CodeText} {t : Text} {cause : Crash}
      (hpath : request.path? = some path) (hread : readSnippet s input path = .ok t)
      (hcrash : request.CrashesOn host.console c s input t cause) :
      Crashes host c s input request cause
  | shown (htext : host.format.dump c.settings = none) :
      Crashes host c s input .configShow .noText
  | restored {cause : Crash} (hsave : c.reset.SaveCrashes host.format s cause) :
      Crashes host c s input .configInit cause
  | typed {key value : CodeText} (htyped : typedSetting? value = none) :
      Crashes host c s input (.configSet key value) .badNumber
  | assigned {key value : CodeText} {setting : Setting} {e : UpdateError}
      (htyped : typedSetting? value = some setting)
      (hupdate : (c.update [(key, setting)]).2 = some e) :
      Crashes host c s input (.configSet key value) (.update e)
  | saved {key value : CodeText} {setting : Setting} {changed : Configuration} {cause : Crash}
      (htyped : typedSetting? value = some setting)
      (hupdate : c.update [(key, setting)] = (changed, none))
      (hsave : changed.SaveCrashes host.format s cause) :
      Crashes host c s input (.configSet key value) cause

/-- The ways in which a run comes to a crash as long as the console shows everything. -/
inductive AttemptCrashes (host : Host) (s : Storage) (line : List CodeText) (input : Text) :
    Crash → Prop
  | opening {i : Invocation} {e : OpenError} {cause : Crash}
      (hline : CommandLine.of line = .invocation i)
      (hopened : (Configuration.openFile host.format s
        (Configuration.fileFor host.home i.file)).result = .error e)
      (hcrash : e.crash? = some cause) : AttemptCrashes host s line input cause
  | update {i : Invocation} {opened : Configuration} {e : UpdateError}
      (hline : CommandLine.of line = .invocation i)
      (hopened : (Configuration.openFile host.format s
        (Configuration.fileFor host.home i.file)).result = .ok opened)
      (hupdate : (opened.update i.changes).2 = some e) :
      AttemptCrashes host s line input (.update e)
  | threshold {i : Invocation} {opened c : Configuration} {cause : Crash}
      (hline : CommandLine.of line = .invocation i)
      (hopened : (Configuration.openFile host.format s
        (Configuration.fileFor host.home i.file)).result = .ok opened)
      (hupdate : opened.update i.changes = (c, none)) (hthreshold : i.threshold c = .error cause) :
      AttemptCrashes host s line input cause
  | request {i : Invocation} {c : Configuration} {request : Request} {cause : Crash}
      (hline : CommandLine.of line = .invocation i) (hconfigured : i.Configured host s c)
      (hrequest : i.command.request? i.arguments = some request)
      (hcrash : request.Crashes host c s input.unifyLines cause) :
      AttemptCrashes host s line input cause

/-- The ways in which a run comes to a crash. -/
inductive Crashes (host : Host) (s : Storage) (line : List CodeText) (input : Text) :
    Crash → Prop
  | attempted {cause : Crash}
      (hshown : ∀ event ∈ (attempt host s line input).effect.console,
        host.console.refusalOf? event = none)
      (hcrash : AttemptCrashes host s line input cause) : Crashes host s line input cause
  | refused {before after : List ConsoleEvent} {event : ConsoleEvent} {trouble : ConsoleTrouble}
      (hconsole : (attempt host s line input).effect.console = before ++ event :: after)
      (hshown : ∀ e ∈ before, host.console.refusalOf? e = none)
      (hrefused : host.console.refusalOf? event = some trouble) :
      Crashes host s line input trouble.crash

section Snippets

variable {host : Host} {console : Console} {c : Configuration} {s : Storage} {input t : Text}
  {path : CodeText} {u : Option Text} {cause : Crash} {use : Text → Effect} {done : String}

theorem withSnippet_crash_iff :
    (withSnippet s input path use).verdict = .crash cause ↔
      (readSnippet s input path = .error .undecodable ∧ cause = .undecodable) ∨
      (readSnippet s input path = .error .unnamable ∧ cause = .unnamable) ∨
      ∃ t, readSnippet s input path = .ok t ∧ (use t).verdict = .crash cause := by
  rw [withSnippet]
  cases hread : readSnippet s input path with
  | ok t => simp
  | error failure => cases failure <;> simp [Effect.refused, Effect.ending, eq_comm]

theorem store_crash_eq (c : Configuration) (s : Storage) (path : CodeText) (u : Option Text)
    (done : String) :
    (store c s path u done).verdict = .crash cause ↔
      (writeSnippet s path u (c.isOn "editor.backup_on_save")).error.bind WriteFailure.crash? =
        some cause := by
  rw [store]
  dsimp only
  split
  next e he => simp [he, WriteFailure.crash?, Effect.refused, Effect.ending]
  next he => simp [he, WriteFailure.crash?, Effect.ending]
  next he => simp [he, WriteFailure.crash?, Effect.ending]
  next he => simp [he, Effect.ending]

/-- A snippet is stored without a crash if it is a text, and what is no text crashes only when
nothing else has kept it from being written. -/
theorem store_crash_iff (hread : readSnippet s input path = .ok t) :
    (store c s path u done).verdict = .crash cause ↔
      cause = .unencodable ∧ u = none ∧ path ≠ inputPath ∧
        (c.isOn "editor.backup_on_save" = true → (keepBackup s path).error = none) ∧
        ∃ place, s.writable path = .ok place := by
  rw [store_crash_eq]
  by_cases hpath : path = inputPath
  · rw [writeSnippet, if_pos hpath]
    simp [hpath, WriteFailure.crash?]
  · have htext := (readSnippet_eq_ok_iff hpath).mp hread
    rw [writeSnippet_crash_iff (Storage.readText_eq_ok_iff.mp htext) hpath]
    simp only [hpath, ne_eq, not_false_eq_true, true_and]

theorem deliver_crash_iff {inPlace : Bool} {events : List EditEvent}
    {edited : Except EditError (Option Text)} (hread : readSnippet s input path = .ok t) :
    (deliver c s path inPlace events edited).verdict = .crash cause ↔
      cause = .unencodable ∧ edited = .ok none ∧ (inPlace = true → path ≠ inputPath ∧
        (c.isOn "editor.backup_on_save" = true → (keepBackup s path).error = none) ∧
        ∃ place, s.writable path = .ok place) := by
  cases edited with
  | error e => exact iff_of_false Verdict.noConfusion nofun
  | ok u =>
      cases inPlace with
      | false =>
          cases u with
          | none =>
              exact ⟨fun h => ⟨(Verdict.crash.inj h).symm, rfl, nofun⟩,
                fun h => congrArg Verdict.crash h.1.symm⟩
          | some v => exact iff_of_false Verdict.noConfusion nofun
      | true =>
          refine (@store_crash_iff c s input t path u cause "Updated" hread).trans ?_
          simp

theorem saveResult_crash_iff {answers : List Text} {v : Text}
    (hread : readSnippet s input path = .ok t) :
    (saveResult c s path v answers).verdict = .crash cause ↔
      cause = .unencodable ∧ c.isOn "editor.confirm_save" = true ∧ path.chars? = none := by
  have hstore : (store c s path v "Saved").verdict ≠ .crash cause := by
    rw [Ne, store_crash_iff hread]
    rintro ⟨-, hnone, -⟩
    cases hnone
  rw [saveResult]
  split
  next hask =>
    cases hname : path.chars? with
    | none => simp [Effect.ending, hask, eq_comm]
    | some name =>
        refine iff_of_false ?_ (by simp)
        dsimp only [Effect.printing]
        cases (confirm (saveQuestion name) answers).decided with
        | none => exact Verdict.noConfusion
        | some decided =>
            cases decided with
            | false => exact Verdict.noConfusion
            | true => exact hstore
  next hask => exact iff_of_false hstore fun h => hask h.2.1

/-- The edit of a file crashes inside its session, or over a path that has no text. -/
theorem editSnippet_crash_iff (hread : readSnippet s input path = .ok t)
    (hfile : path ≠ inputPath) :
    (editSnippet console c s path t (linesOf input)).verdict = .crash cause ↔
      (∃ error, (c.session console input t).ending = .failed error ∧
        error.verdict = .crash cause) ∨
      ∃ v, (c.session console input t).ending = .saved v ∧ v ≠ t ∧ cause = .unencodable ∧
        c.isOn "editor.confirm_save" = true ∧ path.chars? = none := by
  rw [editSnippet, ← Configuration.session]
  cases (c.session console input t).ending with
  | cancelled => simp [Effect.behind, Effect.ending]
  | failed error => simp [Effect.behind, Effect.ending]
  | saved v =>
      dsimp only [Effect.behind]
      by_cases hchanged : v = t
      · simp [hchanged, Effect.ending]
      · simp only [hchanged, hfile, ↓reduceIte, saveResult_crash_iff hread]
        simp [hchanged]

end Snippets

section Settings

variable {host : Host} {format : DocumentFormat} {c : Configuration} {s : Storage}
  {done : List ConsoleEvent} {cause : Crash}

theorem saveConfiguration_crash_iff :
    (saveConfiguration format c s done).verdict = .crash cause ↔
      c.SaveCrashes format s cause := by
  have hcrashes : c.SaveCrashes format s cause ↔
      ∃ e, (c.save format s).error = some e ∧ e.crash? = some cause :=
    ⟨fun ⟨herror, hcrash⟩ => ⟨_, herror, hcrash⟩, fun ⟨_, herror, hcrash⟩ => ⟨herror, hcrash⟩⟩
  rw [hcrashes, saveConfiguration]
  cases herror : (c.save format s).error with
  | none => simp [Effect.behind, Effect.ending]
  | some e =>
      cases e <;> simp [Effect.behind, Effect.ending, Effect.refused, SaveError.crash?]

theorem assignSetting_crash_iff {input : Text} {key value : CodeText} :
    (assignSetting host.format c s key value).verdict = .crash cause ↔
      (Request.configSet key value).Crashes host c s input cause := by
  rw [assignSetting]
  constructor
  · intro h
    cases htyped : typedSetting? value with
    | none =>
        rw [htyped] at h
        cases h
        exact .typed htyped
    | some setting =>
        rw [htyped] at h
        rcases hupdate : c.update [(key, setting)] with ⟨changed, error⟩
        simp only [hupdate] at h
        cases error with
        | some e =>
            cases h
            exact .assigned htyped (by rw [hupdate])
        | none => exact .saved htyped hupdate (saveConfiguration_crash_iff.mp h)
  · intro h
    cases h with
    | undecodable hpath => cases hpath
    | unnamable hpath => cases hpath
    | snippet hpath => cases hpath
    | typed htyped =>
        rw [htyped]
        rfl
    | assigned htyped hupdate =>
        simp only [htyped, hupdate]
        rfl
    | saved htyped hupdate hsave =>
        simp only [htyped, hupdate]
        exact saveConfiguration_crash_iff.mpr hsave

end Settings

/-! ## Requests -/

section Requests

variable {host : Host} {c : Configuration} {s : Storage} {input : Text} {path : CodeText}
  {request : Request} {cause : Crash}

/-- A request about a snippet crashes when the snippet is neither read nor refused, or over its
text. -/
theorem Request.crashes_iff_of_path (hpath : request.path? = some path) :
    request.Crashes host c s input cause ↔
      (readSnippet s input path = .error .undecodable ∧ cause = .undecodable) ∨
      (readSnippet s input path = .error .unnamable ∧ cause = .unnamable) ∨
      ∃ t, readSnippet s input path = .ok t ∧
        request.CrashesOn host.console c s input t cause := by
  rw [readSnippet_undecodable_iff, readSnippet_unnamable_iff]
  constructor
  · intro h
    cases h with
    | undecodable hpath' hfile hread hbytes =>
        obtain rfl := Option.some.inj (hpath'.symm.trans hpath)
        exact Or.inl ⟨⟨hfile, _, hread, hbytes⟩, rfl⟩
    | unnamable hpath' hfile hname =>
        obtain rfl := Option.some.inj (hpath'.symm.trans hpath)
        exact Or.inr (Or.inl ⟨⟨hfile, hname⟩, rfl⟩)
    | snippet hpath' hread hcrash =>
        obtain rfl := Option.some.inj (hpath'.symm.trans hpath)
        exact Or.inr (Or.inr ⟨_, hread, hcrash⟩)
    | shown | restored | typed | assigned | saved => cases hpath
  · rintro (⟨⟨hfile, bytes, hread, hbytes⟩, rfl⟩ | ⟨⟨hfile, hname⟩, rfl⟩ | ⟨t, hread, hcrash⟩)
    · exact .undecodable hpath hfile hread hbytes
    · exact .unnamable hpath hfile hname
    · exact .snippet hpath hread hcrash

theorem not_crashesOn_params {t : Text} {asJson : Bool} :
    ¬ (Request.params path asJson).CrashesOn host.console c s input t cause := by
  intro h
  cases h with
  | written hpath hwrites => cases hwrites.revises

theorem set_crash_iff {t : Text} {index : Int} {value : CodeText} {inPlace : Bool}
    {events : List EditEvent} (hread : readSnippet s input path = .ok t) :
    (deliver c s path inPlace events (enterValue t index value)).verdict = .crash cause ↔
      (Request.set path index value inPlace).CrashesOn host.console c s input t cause := by
  rw [deliver_crash_iff hread]
  constructor
  · rintro ⟨rfl, hset, hplace⟩
    cases inPlace with
    | false => exact .printed hset
    | true =>
        obtain ⟨hfile, hkeeps, place, hwritable⟩ := hplace rfl
        have htext := (readSnippet_eq_ok_iff hfile).mp hread
        exact .written rfl ⟨⟨hfile, htext, .set hset⟩, hkeeps, hwritable⟩
  · intro h
    cases h with
    | printed hset => exact ⟨rfl, hset, nofun⟩
    | written hpath hwrites =>
        obtain rfl := Option.some.inj hpath
        obtain ⟨⟨hfile, -, hrevises⟩, hkeeps, hwritable⟩ := hwrites
        cases hrevises with
        | set hset => exact ⟨rfl, hset, fun _ => ⟨hfile, hkeeps, _, hwritable⟩⟩

theorem toggle_crash_iff {t : Text} {index : Int} {inPlace : Bool} {events : List EditEvent}
    (hread : readSnippet s input path = .ok t) :
    (deliver c s path inPlace events ((toggle t index).map some)).verdict = .crash cause ↔
      (Request.toggle path index inPlace).CrashesOn host.console c s input t cause := by
  rw [deliver_crash_iff hread]
  constructor
  · rintro ⟨-, hnone, -⟩
    cases htoggle : toggle t index <;> rw [htoggle] at hnone <;> cases hnone
  · intro h
    cases h with
    | written hpath hwrites => cases hwrites.revises

theorem edit_crash_iff {t : Text} (hread : readSnippet s input path = .ok t) :
    (editSnippet host.console c s path t
        (if path = inputPath then [] else linesOf input)).verdict = .crash cause ↔
      (Request.edit path).CrashesOn host.console c s input t cause := by
  by_cases hfile : path = inputPath
  · rw [if_pos hfile]
    refine iff_of_false Verdict.noConfusion fun h => ?_
    cases h with
    | session hother => exact hother hfile
    | asked hother => exact hother hfile
    | written hpath hwrites =>
        obtain rfl := Option.some.inj hpath
        exact hwrites.file hfile
  rw [if_neg hfile, editSnippet_crash_iff hread hfile]
  constructor
  · rintro (⟨error, hending, hcrash⟩ | ⟨v, hsaved, hchanged, rfl, hask, hname⟩)
    · exact .session hfile hending hcrash
    · exact .asked hfile hsaved hchanged hask hname
  · intro h
    cases h with
    | session _ hending hcrash => exact Or.inl ⟨_, hending, hcrash⟩
    | asked _ hsaved hchanged hask hname => exact Or.inr ⟨_, hsaved, hchanged, rfl, hask, hname⟩
    | written hpath hwrites => cases hwrites.revises

theorem Request.crash_iff_of_snippet {use : Text → Effect} (hpath : request.path? = some path)
    (huse : ∀ t, readSnippet s input path = .ok t → ((use t).verdict = .crash cause ↔
      request.CrashesOn host.console c s input t cause)) :
    (withSnippet s input path use).verdict = .crash cause ↔
      request.Crashes host c s input cause := by
  rw [withSnippet_crash_iff, crashes_iff_of_path hpath]
  exact or_congr_right (or_congr_right (exists_congr fun t => and_congr_right (huse t)))

/-- A request ends in a crash in these ways and in no other. -/
theorem Request.perform_crash_iff :
    (request.perform host c s input).verdict = .crash cause ↔
      request.Crashes host c s input cause := by
  cases request with
  | params path asJson =>
      refine crash_iff_of_snippet rfl fun t _ => iff_of_false ?_ not_crashesOn_params
      cases asJson <;> exact Verdict.noConfusion
  | set path index value inPlace => exact crash_iff_of_snippet rfl fun t => set_crash_iff
  | toggle path index inPlace => exact crash_iff_of_snippet rfl fun t => toggle_crash_iff
  | edit path => exact crash_iff_of_snippet rfl fun t => edit_crash_iff
  | configShow =>
      rw [perform]
      constructor
      · intro h
        cases htext : host.format.dump c.settings with
        | some t =>
            rw [htext] at h
            cases h
        | none =>
            rw [htext] at h
            cases h
            exact .shown htext
      · intro h
        cases h with
        | undecodable hpath => cases hpath
        | unnamable hpath => cases hpath
        | snippet hpath => cases hpath
        | shown htext =>
            rw [htext]
            rfl
  | configInit =>
      rw [perform, restoreDefaults, saveConfiguration_crash_iff]
      constructor
      · exact .restored
      · intro h
        cases h with
        | undecodable hpath => cases hpath
        | unnamable hpath => cases hpath
        | snippet hpath => cases hpath
        | restored hsave => exact hsave
  | configSet key value => exact assignSetting_crash_iff
  | version | help =>
      refine iff_of_false Verdict.noConfusion fun h => ?_
      cases h with
      | undecodable hpath => cases hpath
      | unnamable hpath => cases hpath
      | snippet hpath => cases hpath

end Requests

/-! ## Runs -/

section Runs

variable {host : Host} {s : Storage} {line : List CodeText} {input : Text} {i : Invocation}
  {c : Configuration} {cause : Crash} {effect : Effect}

theorem OpenError.effect_crash_iff {e : OpenError} :
    (e.effect s).verdict = .crash cause ↔ e.crash? = some cause := by
  cases e <;> simp [effect, crash?, Effect.refused, Effect.ending]

theorem attemptCrashes_of_verdict
    (h : (attempt host s line input).effect.verdict = .crash cause) :
    AttemptCrashes host s line input cause := by
  rcases attempt_cases host s line input with hmisuse | hsuccess |
    ⟨i, e, log, hline, hopened, heffect⟩ | ⟨i, opened, log, hline, hopened, heffect⟩
  · cases hmisuse.symm.trans h
  · cases hsuccess.symm.trans h
  · rw [heffect] at h
    exact .opening hline hopened (OpenError.effect_crash_iff.mp h)
  · rw [heffect] at h
    rcases i.perform_cases host opened s input.unifyLines with ⟨e, hupdate, hverdict⟩ |
      ⟨c, cause', hupdate, hthreshold, hverdict⟩ | hmisuse |
      ⟨c, threshold, request, log', hupdate, hthreshold, hrequest, heffect'⟩
    · cases hverdict.symm.trans h
      exact .update hline hopened hupdate
    · cases hverdict.symm.trans h
      exact .threshold hline hopened hupdate hthreshold
    · cases hmisuse.symm.trans h
    · rw [heffect'] at h
      exact .request hline (.intro hopened hupdate hthreshold) hrequest
        (Request.perform_crash_iff.mp h)

theorem AttemptCrashes.verdict (h : AttemptCrashes host s line input cause) :
    (attempt host s line input).effect.verdict = .crash cause := by
  cases h with
  | opening hline hopened hcrash =>
      simp only [attempt, hline, hopened]
      exact OpenError.effect_crash_iff.mpr hcrash
  | update hline hopened hupdate =>
      simp only [attempt, hline, hopened, Invocation.perform, hupdate]
      rfl
  | threshold hline hopened hupdate hthreshold =>
      simp only [attempt, hline, hopened, Invocation.perform, hupdate, hthreshold]
      rfl
  | request hline hconfigured hrequest hcrash =>
      exact (congrArg Prod.fst (hconfigured.attempt_result hline hrequest)).trans
        (Request.perform_crash_iff.mpr hcrash)

/-- A run crashes in these ways and in no other. -/
theorem run_crash_iff :
    (run host s line input).effect.verdict = .crash cause ↔ Crashes host s line input cause := by
  have hrun : (run host s line input).effect =
      (attempt host s line input).effect.shownOn host.console := rfl
  rw [hrun]
  constructor
  · intro h
    rcases host.console.showUntil_cases (attempt host s line input).effect.console with
      ⟨hshown, -⟩ | ⟨before, event, after, trouble, hconsole, hshown, hrefused⟩
    · rw [Effect.shownOn_of_shown hshown] at h
      exact .attempted hshown (attemptCrashes_of_verdict h)
    · cases (Effect.verdict_of_refused hconsole hshown hrefused).symm.trans h
      exact .refused hconsole hshown hrefused
  · intro h
    cases h with
    | attempted hshown hcrash =>
        rw [Effect.shownOn_of_shown hshown]
        exact hcrash.verdict
    | refused hconsole hshown hrefused =>
        exact Effect.verdict_of_refused hconsole hshown hrefused

/-- A configuration is opened or refused exactly when the form of its file is at fault, if anything
is, and a snippet is read or refused exactly when its path is one and its bytes are a text.  A run
crashes over other files and in a few other ways, and a failure has been shown. -/
theorem unreadable_files_escape (host : Host) (s : Storage) (line : List CodeText) (input : Text) :
    (∀ file, ((∃ c, (Configuration.openFile host.format s file).result = .ok c) ∨
        ∃ refusal, (Configuration.openFile host.format s file).result =
          .error (.refused refusal)) ↔
      ∀ bytes fault, s.read file = .ok bytes → host.format.load bytes = .error fault →
        fault = .malformed) ∧
    (host.format.ReadsTexts → ∀ file bytes, s.read file = .ok bytes → ¬ IsText bytes →
      ∀ c, (Configuration.openFile host.format s file).result ≠ .ok c) ∧
    (∀ path, ((∃ t, readSnippet s input path = .ok t) ∨
        ∃ refusal, readSnippet s input path = .error (.refused refusal)) ↔
      path = inputPath ∨ Path.isNamable path = true ∧
        ∀ bytes, s.read path = .ok bytes → IsText bytes) ∧
    (∀ cause, (run host s line input).effect.verdict = .crash cause ↔
      Crashes host s line input cause) ∧
    ((run host s line input).effect.verdict = .failure →
      (∃ message, refusal message ∈ (run host s line input).effect.console) ∨
        (run host s line input).effect.unanswered = true) :=
  ⟨fun _ => Configuration.openFile_contained_iff,
    fun htexts _ _ => Configuration.openFile_ne_ok_of_not_isText htexts,
    fun _ => readSnippet_contained_iff, fun _ => run_crash_iff, run_explained host s line input⟩

/-- A byte that begins no character keeps a configuration from being opened, and a run on a missing
snippet shows a refusal. -/
theorem unreadable_files_escape_missing :
    let file := CodeText.ofString "c.yaml"
    let bytes : ByteArray := ⟨#[0x61, 0x3A, 0x20, 0xFF, 0x0A]⟩
    let s : Storage := ⟨[], [([file], .file bytes)], .ample⟩
    let host : Host := ⟨.ofString "h", .terminal, Yaml.format⟩
    let outcome := run host s (["params", "b.sql"].map .ofString) []
    (∀ c, (Configuration.openFile host.format s file).result ≠ .ok c) ∧
      outcome.effect.verdict = .failure ∧
      ∃ message, refusal message ∈ outcome.effect.console := by
  intro file bytes s host outcome
  have hfailure : outcome.effect.verdict = .failure := by decide +kernel
  have hanswered : outcome.effect.unanswered = false := by decide +kernel
  have htext : ¬ IsText bytes := by
    rw [isText_iff]
    decide +kernel
  obtain ⟨-, hunread, -, -, hexplained⟩ :=
    unreadable_files_escape host s (["params", "b.sql"].map .ofString) []
  refine ⟨hunread Yaml.readsTexts_format file bytes rfl htext, hfailure,
    (hexplained hfailure).resolve_right ?_⟩
  rw [hanswered]
  decide

/-- A configuration with a byte that begins no character, one with a date that does not exist, one
with an escape for no code point, and a snippet with such a byte. -/
theorem unreadable_file_crashes :
    let file := CodeText.ofString "c.yaml"
    let config (bytes : ByteArray) : Storage := ⟨[], [([file], .file bytes)], .ample⟩
    let s : Storage := ⟨[], [([.ofString "b.sql"], .file ⟨#[0x61, 0x20, 0xFF]⟩)], .ample⟩
    let host : Host := ⟨.ofString "h", .terminal, Yaml.format⟩
    let undecodable := config ⟨#[0x61, 0x3A, 0x20, 0xFF, 0x0A]⟩
    (Configuration.openFile Yaml.format undecodable file).result =
        .error (.unread .undecodable) ∧
      (Configuration.openFile Yaml.format (config "a: 2024-13-45\n".toUTF8) file).result =
        .error (.unread .invalidScalar) ∧
      (Configuration.openFile Yaml.format (config "a: \"\\UFFFFFFFF\"\n".toUTF8) file).result =
        .error (.unread .overflow) ∧
      readSnippet s [] (.ofString "b.sql") = .error .undecodable ∧
      (run host undecodable (["-c", "c.yaml", "version"].map .ofString) []).effect.verdict =
        .crash (.unread .undecodable) ∧
      (run host s (["params", "b.sql"].map .ofString) []).effect.verdict = .crash .undecodable := by
  intro file config s host undecodable
  refine ⟨?_, ?_, ?_, ?_, ?_, ?_⟩
  · exact @Configuration.openFile_of_fault Yaml.format _ file _ .undecodable rfl
      (by decide +kernel)
  · exact @Configuration.openFile_of_fault Yaml.format _ file _ .invalidScalar rfl
      (by decide +kernel)
  · exact @Configuration.openFile_of_fault Yaml.format _ file _ .overflow rfl
      (by decide +kernel)
  · decide +kernel
  · decide +kernel
  · decide +kernel

end Runs

end SqlSnippet
