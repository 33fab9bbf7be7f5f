import SqlSnippet.Command.Run
import SqlSnippet.Proofs.Storing
import SqlSnippet.Yaml.Meaning
import Mathlib.Data.List.Basic

/-!
# Files that commands rewrite

A command writes to the file of its snippet only when it has come to something new for it, and only
after the old bytes were kept if the settings ask for that.  What is then in the file is what the
disk stores: all of the new text, or a beginning of it, or nothing if what was to be written is no
text.  The old bytes are in the second file in all three cases.
-/

namespace SqlSnippet

variable {s s' : Storage} {path : CodeText} {place : Place} {t : Text} {u : Option Text}
  {old : ByteArray} {keep : Bool}

/-- The bytes that an edited snippet is written as; one that is no text has none. -/
def encoded (edited : Option Text) : ByteArray := (edited.getD []).toString.toUTF8

/-- The file at a path was written to.  The old bytes are in the second file if they were to be
kept, and all other places hold what they held. -/
structure Rewritten (s s' : Storage) (path : CodeText) (place : Place) (keep : Bool)
    (old : ByteArray) (edited : Option Text) : Prop where
  file : s'.read path = .ok (s.disk.stored place (encoded edited))
  second : keep = true → s'.read (backupPath path) = .ok old
  elsewhere : ∀ other, other ≠ place → (keep = true → s.locate (backupPath path) ≠ .ok other) →
    s'.entry? other = s.entry? other
  reached : ∀ other stop, s.locate other = .ok stop → s'.locate other = .ok stop

theorem keepBackup_of_read (hread : s.read path = .ok old) :
    keepBackup s path = s.copy path (backupPath path) := by
  rw [keepBackup, if_pos (Storage.has_of_read hread)]

/-- Keeping the old bytes leaves the file as it is, also when it fails. -/
theorem sameBut_keepBackup (hread : s.read path = .ok old) :
    Storage.SameBut s (keepBackup s path).storage (backupPath path) ∧
      (keepBackup s path).storage.read path = .ok old := by
  rw [keepBackup_of_read hread]
  rcases Storage.copy_of_read hread (backupPath path) with
    ⟨hstorage, -⟩ | ⟨beside, hwritable, happart, hstorage, -⟩
  · rw [hstorage]
    exact ⟨.refl s _, hread⟩
  · have hsame := Storage.sameBut_put hwritable (s.disk.stored beside old)
    rw [hstorage]
    refine ⟨hsame, hsame.read_eq hread ?_⟩
    rw [(Storage.writable_eq_ok_iff.mp hwritable).1]
    exact happart.symm

/-- The old bytes of a file are kept if they are to be, and the file is as it was. -/
structure Kept (s kept : Storage) (path : CodeText) (keep : Bool) (old : ByteArray) : Prop where
  file : kept.read path = .ok old
  second : keep = true → kept.read (backupPath path) = .ok old ∧
    kept.locate (backupPath path) ≠ kept.locate path
  writable : kept.writable path = s.writable path
  elsewhere : ∀ other, (keep = true → s.locate (backupPath path) ≠ .ok other) →
    kept.entry? other = s.entry? other
  reached : ∀ other stop, s.locate other = .ok stop → kept.locate other = .ok stop
  disk : kept.disk = s.disk

theorem exists_kept (hread : s.read path = .ok old)
    (hkeep : keep = true → (keepBackup s path).error = none) :
    ∃ kept, (if keep then keepBackup s path else ⟨s, none⟩) = ⟨kept, none⟩ ∧
      Kept s kept path keep old := by
  cases keep with
  | false =>
      refine ⟨s, rfl, hread, ?_, rfl, fun _ _ => rfl, fun _ _ h => h, rfl⟩
      exact fun h => Bool.noConfusion h
  | true =>
      obtain ⟨place, hlocate, -⟩ := Storage.read_eq_ok_iff.mp hread
      have herror := hkeep rfl
      rw [keepBackup_of_read hread] at herror ⊢
      rcases Storage.copy_of_read hread (backupPath path) with
        ⟨-, hfailed⟩ | ⟨beside, hbeside, happart, hstorage, hstop⟩
      · exact absurd herror hfailed
      have hsecond := (Storage.writable_eq_ok_iff.mp hbeside).1
      have hsame := Storage.sameBut_put hbeside old
      rw [Storage.stored_of_stopOf? (hstop.mp herror)] at hstorage
      rw [← hsecond] at happart
      refine ⟨s.put beside (.file old), ?_, hsame.read_eq hread happart.symm,
        fun _ => ⟨Storage.read_put hbeside, ?_⟩, hsame.writable_eq hlocate happart.symm,
        fun other h => hsame.elsewhere other (h rfl), hsame.reached, rfl⟩
      · rw [if_pos rfl, ← hstorage, ← herror]
      · rw [hsame.reached _ _ hsecond, hsame.reached _ _ hlocate, ← hsecond, ← hlocate]
        exact happart.symm

/-- A snippet is written to its file as far as the disk stores it, and a write without a failure
stores all of a text. -/
theorem writeSnippet_spec (hread : s.read path = .ok old) (hpath : path ≠ inputPath)
    (hkeep : keep = true → (keepBackup s path).error = none)
    (hwritable : s.writable path = .ok place) (u : Option Text) :
    Rewritten s (writeSnippet s path u keep).storage path place keep old u ∧
      ((writeSnippet s path u keep).error = none →
        u.isSome = true ∧ s.disk.stored place (encoded u) = encoded u) := by
  obtain ⟨kept, hkept, hafter⟩ := exists_kept hread hkeep
  have hallowed := hafter.writable.trans hwritable
  obtain ⟨hstorage, hstop⟩ := Storage.write_of_writable hallowed (encoded u)
  have hsame := Storage.sameBut_write kept path (encoded u)
  have hlocate := (Storage.writable_eq_ok_iff.mp hallowed).1
  rw [hafter.disk] at hstorage hstop
  have hrewritten : Rewritten s (kept.write path (encoded u)).storage path place keep old u := by
    refine ⟨?_, fun h => ?_, fun other hother hbeside => ?_, fun other stop h => ?_⟩
    · rw [hstorage, Storage.read_put hallowed]
    · obtain ⟨hold, happart⟩ := hafter.second h
      exact hsame.read_eq hold happart.symm
    · rw [hsame.elsewhere other, hafter.elsewhere other hbeside]
      rw [hlocate, Ne, Except.ok.injEq]
      exact hother.symm
    · exact hsame.reached other stop (hafter.reached other stop h)
  rw [writeSnippet, if_neg hpath, hkept]
  dsimp only
  rw [← encoded]
  cases hcause : (kept.write path (encoded u)).error with
  | some cause => exact ⟨hrewritten, fun h => nomatch h⟩
  | none =>
      refine ⟨hrewritten, fun h => ⟨?_, Storage.stored_of_stopOf? (hstop.mp hcause)⟩⟩
      cases u with
      | none => cases h
      | some t => rfl

/-- A file whose old bytes cannot be kept, or that cannot be written to, is left as it is. -/
theorem writeSnippet_of_not_allowed (hread : s.read path = .ok old) (hpath : path ≠ inputPath)
    (h : (keep = true → (keepBackup s path).error = none) → ∀ place, s.writable path ≠ .ok place) :
    Storage.SameBut s (writeSnippet s path u keep).storage (backupPath path) ∧
      (writeSnippet s path u keep).storage.read path = .ok old := by
  by_cases hkeep : keep = true → (keepBackup s path).error = none
  · obtain ⟨kept, hkept, hafter⟩ := exists_kept hread hkeep
    have hsame : Storage.SameBut s kept (backupPath path) :=
      ⟨fun other hne => hafter.elsewhere other fun _ => hne, hafter.reached, hafter.disk⟩
    cases hwritable : s.writable path with
    | ok place => exact absurd hwritable (h hkeep place)
    | error cause =>
        rw [writeSnippet, if_neg hpath, hkept]
        dsimp only
        rw [Storage.write_of_not_writable (hafter.writable.trans hwritable)]
        exact ⟨hsame, hafter.file⟩
  · obtain ⟨rfl, hfailed⟩ := Classical.not_imp.mp hkeep
    obtain ⟨cause, hcause⟩ := Option.ne_none_iff_exists'.mp hfailed
    rw [writeSnippet, if_neg hpath, if_pos rfl]
    dsimp only
    rw [hcause]
    exact sameBut_keepBackup hread

/-! ## Requests -/

variable {host : Host} {c : Configuration} {input : Text} {request : Request}

/-- The session in which the text of a file is edited. -/
def Configuration.session (c : Configuration) (console : Console) (input t : Text) : SessionRun :=
  runSession console (c.isOn "output.show_preview") t ((linesOf input).map .line)

/-- The answers allow the result of a session to be saved. -/
def Configuration.Confirms (c : Configuration) (path : CodeText) (answers : List Text) : Prop :=
  c.isOn "editor.confirm_save" = true →
    ∃ name, path.chars? = some name ∧ (confirm (saveQuestion name) answers).decided = some true

/-- Carried out on the text `t` of its file, a request comes to something new for this file,
which is a text unless a typed value is none.  The text of a session must have changed, and its
saving be confirmed if the settings ask for that. -/
inductive Request.Revises (console : Console) (c : Configuration) (input t : Text) :
    Request → Option Text → Prop
  | set {path value : CodeText} {index : Int} {u : Option Text}
      (hset : enterValue t index value = .ok u) :
      Revises console c input t (.set path index value true) u
  | toggle {path : CodeText} {index : Int} {u : Text}
      (htoggle : SqlSnippet.toggle t index = .ok u) :
      Revises console c input t (.toggle path index true) (some u)
  | edit {path : CodeText} {u : Text} (hsaved : (c.session console input t).ending = .saved u)
      (hchanged : u ≠ t)
      (hconfirms : c.Confirms path (answerLines (c.session console input t).unread)) :
      Revises console c input t (.edit path) (some u)

/-- What a request does to the files, and how it ends. -/
def Effect.result (e : Effect) : Verdict × Storage := (e.verdict, e.storage)

theorem readSnippet_eq_ok_iff (hpath : path ≠ inputPath) :
    readSnippet s input path = .ok t ↔ s.readText path = .ok t := by
  rw [readSnippet, if_neg hpath]
  cases s.readText path with
  | ok u => simp
  | error e =>
      cases e with
      | file cause =>
          dsimp only
          split <;> simp
      | undecodable => simp

theorem withSnippet_of_read {use : Text → Effect} (hpath : path ≠ inputPath)
    (hread : s.readText path = .ok t) : withSnippet s input path use = use t := by
  rw [withSnippet, (readSnippet_eq_ok_iff hpath).mpr hread]

theorem store_spec (c : Configuration) (s : Storage) (path : CodeText) (u : Option Text)
    (done : String) :
    (store c s path u done).storage =
        (writeSnippet s path u (c.isOn "editor.backup_on_save")).storage ∧
      ((store c s path u done).verdict = .success →
        (writeSnippet s path u (c.isOn "editor.backup_on_save")).error = none) := by
  rw [store]
  dsimp only
  split
  next e he => exact ⟨rfl, fun h => Verdict.noConfusion h⟩
  next he => exact ⟨rfl, fun h => Verdict.noConfusion h⟩
  next he => exact ⟨rfl, fun h => Verdict.noConfusion h⟩
  next he => exact ⟨rfl, fun _ => he⟩

/-- A refused edit, and a result that is printed, leave the files as they were. -/
theorem deliver_storage {inPlace : Bool} {events : List EditEvent}
    {edited : Except EditError (Option Text)}
    (h : ∀ u, edited = .ok u → inPlace = true → (store c s path u "Updated").storage = s) :
    (deliver c s path inPlace events edited).storage = s := by
  cases edited with
  | error e => rfl
  | ok u =>
      cases inPlace with
      | false => cases u <;> rfl
      | true => exact h u rfl rfl

theorem Configuration.Confirms.saveResult_result {answers : List Text} {v : Text}
    (h : c.Confirms path answers) :
    (saveResult c s path v answers).result = (store c s path v "Saved").result := by
  rw [saveResult]
  split
  next hask =>
    obtain ⟨name, hname, hdecided⟩ := h hask
    simp only [hname, hdecided]
    rfl
  next => rfl

theorem saveResult_storage_of_not_confirms {answers : List Text} {v : Text}
    (h : ¬ c.Confirms path answers) : (saveResult c s path v answers).storage = s := by
  rw [Configuration.Confirms, Classical.not_imp] at h
  obtain ⟨hask, hno⟩ := h
  rw [saveResult, if_pos hask]
  split
  next => rfl
  next name hname =>
    cases hdecided : (confirm (saveQuestion name) answers).decided with
    | none =>
        simp only [hdecided]
        rfl
    | some decided =>
        cases decided with
        | false =>
            simp only [hdecided]
            rfl
        | true => exact absurd ⟨name, hname, hdecided⟩ hno

theorem editSnippet_result_of_saved {console : Console} {v : Text} (hpath : path ≠ inputPath)
    (hsaved : (c.session console input t).ending = .saved v) (hchanged : v ≠ t) :
    (editSnippet console c s path t (linesOf input)).result =
      (saveResult c s path v (answerLines (c.session console input t).unread)).result := by
  rw [editSnippet, ← Configuration.session, hsaved]
  simp only [hchanged, hpath, ↓reduceIte]
  rfl

theorem editSnippet_storage_of_not_saved {console : Console}
    (h : ∀ u, (c.session console input t).ending = .saved u → u = t) :
    (editSnippet console c s path t (linesOf input)).storage = s := by
  rw [editSnippet, ← Configuration.session]
  cases hending : (c.session console input t).ending with
  | cancelled => rfl
  | failed error => rfl
  | saved u =>
      simp only [h u hending, ↓reduceIte]
      rfl

theorem Request.Revises.perform_result (h : request.Revises host.console c input t u)
    (hpath : request.path? = some path) (hfile : path ≠ inputPath)
    (hread : s.readText path = .ok t) :
    ∃ done, (request.perform host c s input).result = (store c s path u done).result := by
  cases h with
  | set hset =>
      obtain rfl := Option.some.inj hpath
      refine ⟨"Updated", ?_⟩
      rw [perform, withSnippet_of_read hfile hread, hset]
      rfl
  | toggle htoggle =>
      obtain rfl := Option.some.inj hpath
      refine ⟨"Updated", ?_⟩
      rw [perform, withSnippet_of_read hfile hread, htoggle]
      rfl
  | edit hsaved hchanged hconfirms =>
      obtain rfl := Option.some.inj hpath
      refine ⟨"Saved", ?_⟩
      rw [perform, withSnippet_of_read hfile hread, if_neg hfile,
        editSnippet_result_of_saved hfile hsaved hchanged, hconfirms.saveResult_result]

theorem Request.perform_storage_of_not_revises (hpath : request.path? = some path)
    (hfile : path ≠ inputPath) (hread : s.readText path = .ok t)
    (hnone : ∀ u, ¬ request.Revises host.console c input t u) :
    (request.perform host c s input).storage = s := by
  cases request with
  | params file asJson =>
      obtain rfl := Option.some.inj hpath
      rw [perform, withSnippet_of_read hfile hread]
      cases asJson <;> rfl
  | set file index value inPlace =>
      obtain rfl := Option.some.inj hpath
      rw [perform, withSnippet_of_read hfile hread]
      apply deliver_storage
      rintro u hset rfl
      exact absurd (.set hset) (hnone u)
  | toggle file index inPlace =>
      obtain rfl := Option.some.inj hpath
      rw [perform, withSnippet_of_read hfile hread]
      apply deliver_storage
      rintro u htoggle rfl
      cases hresult : SqlSnippet.toggle t index with
      | error e =>
          rw [hresult] at htoggle
          cases htoggle
      | ok v => exact absurd (.toggle hresult) (hnone (some v))
  | edit file =>
      obtain rfl := Option.some.inj hpath
      rw [perform, withSnippet_of_read hfile hread, if_neg hfile]
      by_cases hsaved : ∃ v, (c.session host.console input t).ending = .saved v ∧ v ≠ t
      · obtain ⟨v, hsaved, hchanged⟩ := hsaved
        apply Eq.trans (congrArg Prod.snd (editSnippet_result_of_saved hfile hsaved hchanged))
        apply saveResult_storage_of_not_confirms
        exact fun hconfirms => hnone (some v) (.edit hsaved hchanged hconfirms)
      · push Not at hsaved
        exact editSnippet_storage_of_not_saved hsaved
  | configShow | configInit | configSet | version | help => cases hpath

theorem Request.perform_storage_of_unread (hpath : request.path? = some path)
    (hread : ∀ t, readSnippet s input path ≠ .ok t) :
    (request.perform host c s input).storage = s := by
  have hwith : ∀ use, (withSnippet s input path use).storage = s := by
    intro use
    rw [withSnippet]
    split
    next t ht => exact absurd ht (hread t)
    next => rfl
    next => rfl
    next => rfl
  cases request with
  | params | set | toggle | edit =>
      obtain rfl := Option.some.inj hpath
      exact hwith _
  | configShow | configInit | configSet | version | help => cases hpath

theorem Request.perform_storage_of_input (hpath : request.path? = some inputPath) :
    (request.perform host c s input).storage = s := by
  have hread : ∀ use, withSnippet s input inputPath use = use input := fun use => rfl
  cases request with
  | params file asJson =>
      obtain rfl := Option.some.inj hpath
      cases asJson <;> rfl
  | set file index value inPlace =>
      obtain rfl := Option.some.inj hpath
      exact deliver_storage fun u _ _ => (store_spec c s inputPath u "Updated").1
  | toggle file index inPlace =>
      obtain rfl := Option.some.inj hpath
      exact deliver_storage fun u _ _ => (store_spec c s inputPath u "Updated").1
  | edit file =>
      obtain rfl := Option.some.inj hpath
      rw [perform, hread, if_pos rfl, editSnippet]
      cases (runSession host.console (c.isOn "output.show_preview") input
        (List.map .line [])).ending with
      | cancelled => rfl
      | failed error => rfl
      | saved u =>
          by_cases hsame : u = input
          · simp only [hsame, ↓reduceIte]
            rfl
          · simp only [hsame, ↓reduceIte]
            rfl
  | configShow | configInit | configSet | version | help => cases hpath

/-- A request comes to something new for the file at a path, where the text `t` is. -/
structure Request.Changes (console : Console) (c : Configuration) (s : Storage) (input : Text)
    (path : CodeText) (request : Request) (t : Text) (u : Option Text) : Prop where
  file : path ≠ inputPath
  text : s.readText path = .ok t
  revises : request.Revises console c input t u

/-- Nothing keeps a changed snippet from being written to its place: the old bytes are kept if they
are to be, and the file can be opened. -/
structure Request.Rewrites (console : Console) (c : Configuration) (s : Storage) (input : Text)
    (path : CodeText) (place : Place) (request : Request) (t : Text) (u : Option Text) : Prop
    extends Request.Changes console c s input path request t u where
  keeps : c.isOn "editor.backup_on_save" = true → (keepBackup s path).error = none
  writable : s.writable path = .ok place

theorem Request.Rewrites.perform_spec
    (h : request.Rewrites host.console c s input path place t u)
    (hpath : request.path? = some path) :
    Rewritten s (request.perform host c s input).storage path place
        (c.isOn "editor.backup_on_save") t.toString.toUTF8 u ∧
      ((request.perform host c s input).verdict = .success →
        u.isSome = true ∧ s.disk.stored place (encoded u) = encoded u) := by
  obtain ⟨done, hresult⟩ := h.revises.perform_result hpath h.file h.text
  obtain ⟨hverdict, hstorage⟩ := Prod.mk.inj hresult
  obtain ⟨hwritten, hnone⟩ := store_spec c s path u done
  have hread := Storage.readText_eq_ok_iff.mp h.text
  obtain ⟨hrewritten, hwhole⟩ := writeSnippet_spec hread h.file h.keeps h.writable u
  rw [hstorage, hwritten, hverdict]
  exact ⟨hrewritten, fun hsuccess => hwhole (hnone hsuccess)⟩

theorem Request.perform_storage_of_not_changes (hpath : request.path? = some path)
    (hnone : ∀ t u, ¬ request.Changes host.console c s input path t u) :
    (request.perform host c s input).storage = s := by
  by_cases hfile : path = inputPath
  · exact perform_storage_of_input (hfile ▸ hpath)
  cases htext : s.readText path with
  | ok t =>
      apply perform_storage_of_not_revises hpath hfile htext
      exact fun u hrevises => hnone t u ⟨hfile, htext, hrevises⟩
  | error cause =>
      apply perform_storage_of_unread hpath
      intro t hsnippet
      rw [readSnippet_eq_ok_iff hfile, htext] at hsnippet
      cases hsnippet

theorem Request.Changes.perform_of_not_rewrites
    (h : request.Changes host.console c s input path t u) (hpath : request.path? = some path)
    (hnone : ∀ place, ¬ request.Rewrites host.console c s input path place t u) :
    Storage.SameBut s (request.perform host c s input).storage (backupPath path) ∧
      (request.perform host c s input).storage.read path = s.read path := by
  obtain ⟨done, hresult⟩ := h.revises.perform_result hpath h.file h.text
  have hread := Storage.readText_eq_ok_iff.mp h.text
  rw [(Prod.mk.inj hresult).2, (store_spec c s path u done).1, hread]
  exact writeSnippet_of_not_allowed hread h.file
    fun hkeeps place hwritable => hnone place ⟨h, hkeeps, hwritable⟩

/-! ## Runs -/

/-- The configuration with which an invocation is carried out: that of its file with the changes
that its options make, if it gives a threshold for the log. -/
inductive Invocation.Configured (host : Host) (s : Storage) (i : Invocation) :
    Configuration → Prop
  | intro {opened c : Configuration} {threshold : Nat}
      (hopened : (Configuration.openFile host.format s
        (Configuration.fileFor host.home i.file)).result = .ok opened)
      (hupdate : opened.update i.changes = (c, none))
      (hthreshold : i.threshold c = .ok threshold) : Configured host s i c

variable {line : List CodeText} {i : Invocation}

theorem Effect.shownOn_storage (e : Effect) (console : Console) :
    (e.shownOn console).storage = e.storage := by
  rw [shownOn]
  split <;> rfl

theorem Effect.verdict_of_shownOn {e : Effect} {console : Console}
    (h : (e.shownOn console).verdict = .success) : e.verdict = .success := by
  rw [shownOn] at h
  split at h
  · exact h
  · cases h

theorem Invocation.Configured.attempt_result (h : i.Configured host s c)
    (hline : CommandLine.of line = .invocation i)
    (hrequest : i.command.request? i.arguments = some request) :
    (attempt host s line input).effect.result =
      (request.perform host c s input.unifyLines).result := by
  obtain ⟨hopened, hupdate, hthreshold⟩ := h
  simp only [attempt, hline, hopened, Invocation.perform, hupdate, hthreshold, hrequest]
  rfl

theorem attempt_storage_of_not_configured (hline : CommandLine.of line = .invocation i)
    (hnone : ∀ c, ¬ i.Configured host s c) : (attempt host s line input).effect.storage = s := by
  simp only [attempt, hline]
  cases hopened : (Configuration.openFile host.format s
      (Configuration.fileFor host.home i.file)).result with
  | error e => cases e <;> rfl
  | ok opened =>
      simp only [Invocation.perform]
      cases hupdate : (opened.update i.changes).2 with
      | some e => rfl
      | none =>
          simp only
          cases hthreshold : i.threshold (opened.update i.changes).1 with
          | error cause => rfl
          | ok threshold =>
              exact absurd (.intro hopened (Prod.ext rfl hupdate) hthreshold) (hnone _)

/-- What a command on a snippet does to the files.  If it comes to something new and nothing keeps
that from being written, the file of the snippet holds what the disk stores of it, all of it if the
run succeeds, the old bytes are in the second file if the settings ask for that, and all other
places are as they were.  If it is kept from being written the file has its old bytes and only the
second one can differ.  If there is nothing new, all files are as they were. -/
theorem run_rewrites_snippet (hline : CommandLine.of line = .invocation i)
    (hrequest : i.command.request? i.arguments = some request)
    (hpath : request.path? = some path) :
    (∀ c t u place, i.Configured host s c →
      request.Rewrites host.console c s input.unifyLines path place t u →
        s.read path = .ok t.toString.toUTF8 ∧
        Rewritten s (run host s line input).effect.storage path place
          (c.isOn "editor.backup_on_save") t.toString.toUTF8 u ∧
        ((run host s line input).effect.verdict = .success → ∃ v, u = some v ∧
          (run host s line input).effect.storage.read path = .ok v.toString.toUTF8)) ∧
    ((¬ ∃ c t u place, i.Configured host s c ∧
        request.Rewrites host.console c s input.unifyLines path place t u) →
      Storage.SameBut s (run host s line input).effect.storage (backupPath path) ∧
        (run host s line input).effect.storage.read path = s.read path) ∧
    ((¬ ∃ c t u, i.Configured host s c ∧
        request.Changes host.console c s input.unifyLines path t u) →
      (run host s line input).effect.storage = s) := by
  have hstorage : (run host s line input).effect.storage =
      (attempt host s line input).effect.storage := Effect.shownOn_storage _ _
  have hperform : ∀ c, i.Configured host s c → (attempt host s line input).effect.storage =
      (request.perform host c s input.unifyLines).storage :=
    fun c hc => congrArg Prod.snd (hc.attempt_result hline hrequest)
  have hunchanged : (¬ ∃ c t u, i.Configured host s c ∧
      request.Changes host.console c s input.unifyLines path t u) →
      (run host s line input).effect.storage = s := by
    intro hnone
    rw [hstorage]
    by_cases hconfigured : ∃ c, i.Configured host s c
    · obtain ⟨c, hconfigured⟩ := hconfigured
      rw [hperform c hconfigured]
      apply Request.perform_storage_of_not_changes hpath
      exact fun t u hchanges => hnone ⟨c, t, u, hconfigured, hchanges⟩
    · exact attempt_storage_of_not_configured hline (not_exists.mp hconfigured)
  refine ⟨fun c t u place hconfigured hrewrites => ?_, fun hnone => ?_, hunchanged⟩
  · obtain ⟨hrewritten, hwhole⟩ := hrewrites.perform_spec hpath
    rw [← hperform c hconfigured, ← hstorage] at hrewritten
    refine ⟨Storage.readText_eq_ok_iff.mp hrewrites.text, hrewritten, fun hsuccess => ?_⟩
    have hattempt := Effect.verdict_of_shownOn hsuccess
    have hresult : (attempt host s line input).effect.result = _ :=
      hconfigured.attempt_result hline hrequest
    obtain ⟨hsome, hstored⟩ := hwhole ((congrArg Prod.fst hresult).symm.trans hattempt)
    obtain ⟨v, rfl⟩ := Option.isSome_iff_exists.mp hsome
    refine ⟨v, rfl, ?_⟩
    rw [hrewritten.file, hstored]
    rfl
  · by_cases hchanges : ∃ c t u, i.Configured host s c ∧
        request.Changes host.console c s input.unifyLines path t u
    · obtain ⟨c, t, u, hconfigured, hchanges⟩ := hchanges
      rw [hstorage, hperform c hconfigured]
      exact hchanges.perform_of_not_rewrites hpath
        fun place hrewrites => hnone ⟨c, t, u, place, hconfigured, hrewrites⟩
    · rw [hunchanged hchanges]
      exact ⟨.refl s _, rfl⟩

/-- With the default settings the old bytes are kept. -/
theorem run_rewrites_snippet_twice :
    let path := CodeText.ofString "q"
    let old := (Text.ofString "a = 'x'").toString.toUTF8
    let s : Storage := ⟨[], [([path], .file old)], .ample⟩
    let host : Host := ⟨.ofString "h", .recorder, Yaml.format⟩
    let outcome := run host s (["set", "q", "0", "y", "--in-place"].map .ofString) []
    outcome.effect.verdict = .success ∧ s.read path = .ok old ∧
      Rewritten s outcome.effect.storage path [path] true old (some (Text.ofString "a = 'y'")) ∧
      outcome.effect.storage.read path = .ok (Text.ofString "a = 'y'").toString.toUTF8 := by
  intro path old s host outcome
  let i : Invocation := ⟨none, false, false, .set, ["q", "0", "y", "--in-place"].map .ofString⟩
  let c : Configuration := ⟨defaultFile host.home, defaultSettings⟩
  let request : Request := .set path 0 (.ofString "y") true
  have hline : CommandLine.of (["set", "q", "0", "y", "--in-place"].map .ofString) =
      .invocation i := by
    decide +kernel
  have hrequest : i.command.request? i.arguments = some request := by decide +kernel
  have hconfigured : i.Configured host s c :=
    @Invocation.Configured.intro host s i c c warningThreshold rfl rfl (by decide +kernel)
  have hkeep : c.isOn "editor.backup_on_save" = true := by decide +kernel
  have hread : s.read path = .ok old := rfl
  have hrewrites : request.Rewrites host.console c s (Text.unifyLines []) path [path]
      (Text.ofString "a = 'x'") (some (Text.ofString "a = 'y'")) :=
    { file := by decide
      text := Storage.readText_eq_ok_iff.mpr hread
      revises := .set (by decide +kernel)
      keeps := fun _ => by decide +kernel
      writable := by decide +kernel }
  have hsuccess : outcome.effect.verdict = .success := by decide +kernel
  obtain ⟨hold, hrewritten, hwhole⟩ :=
    (run_rewrites_snippet hline hrequest rfl).1 c _ _ _ hconfigured hrewrites
  rw [hkeep] at hrewritten
  obtain ⟨v, hv, hnew⟩ := hwhole hsuccess
  obtain rfl := Option.some.inj hv
  exact ⟨hsuccess, hold, hrewritten, hnew⟩

/-- A value that is no text empties the file, and a disk that is full leaves a beginning of the new
text in it. -/
theorem run_loses_snippet :
    let path := CodeText.ofString "q"
    let old := (Text.ofString "a = 'x'").toString.toUTF8
    let full : Disk := ⟨fun _ => none,
      fun place _ => if place = [path] then some ⟨4, .noSpace⟩ else none⟩
    let s : Storage := ⟨[], [([path], .file old)], .ample⟩
    let host : Host := ⟨.ofString "h", .recorder, Yaml.format⟩
    let unencodable : CodeText := [0xDCFF]
    let emptied := run host s
      [.ofString "set", path, .ofString "0", unencodable, .ofString "--in-place"] []
    let cut := run host { s with disk := full }
      (["set", "q", "0", "y", "--in-place"].map .ofString) []
    s.read path = .ok old ∧
      enterValue (Text.ofString "a = 'x'") 0 unencodable = .ok none ∧
      emptied.effect.verdict = .crash .unencodable ∧
      emptied.effect.storage.read path = .ok .empty ∧ ByteArray.empty ≠ old ∧
      setValue (Text.ofString "a = 'x'") 0 ['y'] = .ok (Text.ofString "a = 'y'") ∧
      cut.effect.verdict = .failure ∧
      cut.effect.storage.read path = .ok (Text.ofString "a = ").toString.toUTF8 := by
  decide +kernel

end SqlSnippet
