import SqlSnippet.Command.Run
import Mathlib.Tactic.SplitIfs

/-!
# Runs that fail

A run that fails, and does not crash, has shown why, or the input has ended where an answer was
wanted.  The console takes nothing from this: what it refuses makes a run crash.
-/

namespace SqlSnippet

/-- An effect that failed shows a refusal, or the input ended where an answer was wanted. -/
def Effect.Explained (e : Effect) : Prop :=
  e.verdict = .failure → (∃ message, refusal message ∈ e.console) ∨ e.unanswered = true

theorem Effect.explained_refused (s : Storage) (message : CodeText) :
    (Effect.refused s message).Explained :=
  fun _ => Or.inl ⟨message, List.mem_singleton_self _⟩

theorem Effect.explained_of_ne {e : Effect} (h : e.verdict ≠ .failure) : e.Explained :=
  fun hfailure => absurd hfailure h

theorem Effect.Explained.behind {e : Effect} (h : e.Explained) (console : List ConsoleEvent)
    (log : List LogRecord) : (e.behind console log).Explained := by
  intro hfailure
  refine (h hfailure).imp_left ?_
  rintro ⟨message, hmem⟩
  exact ⟨message, List.mem_append_right console hmem⟩

/-- The number of prompts that were shown. -/
def promptCount (console : List ConsoleEvent) : Nat := (console.filter ConsoleEvent.isPrompt).length

@[simp]
theorem promptCount_append (console more : List ConsoleEvent) :
    promptCount (console ++ more) = promptCount console + promptCount more := by
  rw [promptCount, List.filter_append, List.length_append, promptCount, promptCount]

@[simp]
theorem promptCount_valuePrompt (c : Control) : promptCount [valuePrompt c] = 1 := rfl

@[simp]
theorem promptCount_screen (showPreview : Bool) (t : Text) :
    promptCount (screen showPreview t) = 1 := by
  have hcontrols : promptCount [showControls (controls t)] = 0 := by
    rw [showControls]
    split <;> rfl
  have hscreen : screen showPreview t =
      (if showPreview then [.previewPanel (preview t (parameters t))] else []) ++
        ([showControls (controls t)] ++ [.line helpLine, commandPrompt]) := rfl
  rw [hscreen, promptCount_append, promptCount_append, hcontrols]
  cases showPreview <;> rfl

/-- The prompts of a session that broke off for want of an answer outnumber the answers. -/
theorem length_lt_promptCount {console : Console} {showPreview : Bool} {t : Text}
    {answers : List Answer}
    (h : (runSession console showPreview t answers).ending = .failed .endOfInput) :
    answers.length < promptCount (runSession console showPreview t answers).console := by
  fun_induction runSession console showPreview t answers with
  | case1 | case2 | case3 | case4 | case5 | case6 | case12 => cases h
  | case11 => simp +zetaDelta
  | _ =>
      rename_i ih
      have hrest := ih h
      simp +zetaDelta only [SessionRun.behind, promptCount_append, promptCount_screen,
        promptCount_valuePrompt, List.length_cons] at hrest ⊢
      omega

theorem interrupt_mem_of_interrupted {console : Console} {showPreview : Bool} {t : Text}
    {answers : List Answer}
    (h : (runSession console showPreview t answers).ending = .failed .interrupted) :
    .interrupt ∈ answers := by
  fun_induction runSession console showPreview t answers with
  | case1 | case3 | case4 | case5 | case6 | case11 => cases h
  | case2 => exact List.mem_cons_self
  | case12 => exact List.mem_cons_of_mem _ List.mem_cons_self
  | case7 | case8 | case9 | case10 =>
      rename_i ih
      exact List.mem_cons_of_mem _ (ih h)
  | case13 | case14 | case15 =>
      rename_i ih
      exact List.mem_cons_of_mem _ (List.mem_cons_of_mem _ (ih h))

/-! ## Requests -/

section Requests

variable {s : Storage} {input : Text} {path : CodeText} {use : Text → Effect}

theorem withSnippet_explained (h : ∀ t, (use t).Explained) :
    (withSnippet s input path use).Explained := by
  rw [withSnippet]
  split
  next t _ => exact h t
  next e _ => exact Effect.explained_refused s e.message
  next => exact Effect.explained_of_ne Verdict.noConfusion
  next => exact Effect.explained_of_ne Verdict.noConfusion

theorem store_explained (c : Configuration) (s : Storage) (path : CodeText) (u : Option Text)
    (done : String) : (store c s path u done).Explained := by
  rw [store]
  dsimp only
  split
  · exact Effect.explained_refused _ _
  · exact Effect.explained_of_ne Verdict.noConfusion
  · exact Effect.explained_of_ne Verdict.noConfusion
  · exact Effect.explained_of_ne Verdict.noConfusion

theorem deliver_explained (c : Configuration) (s : Storage) (path : CodeText) (inPlace : Bool)
    (events : List EditEvent) (edited : Except EditError (Option Text)) :
    (deliver c s path inPlace events edited).Explained := by
  refine Effect.Explained.behind ?_ _ _
  cases edited with
  | error e => exact Effect.explained_refused s _
  | ok u =>
      cases inPlace with
      | false => cases u <;> exact Effect.explained_of_ne Verdict.noConfusion
      | true => exact store_explained c s path u "Updated"

theorem saveResult_explained (c : Configuration) (s : Storage) (path : CodeText) (v : Text)
    (answers : List Text) : (saveResult c s path v answers).Explained := by
  have hstore := store_explained c s path v "Saved"
  rw [saveResult]
  split
  · cases path.chars? with
    | none => exact Effect.explained_of_ne Verdict.noConfusion
    | some name =>
        dsimp only [Effect.printing]
        cases (confirm (saveQuestion name) answers).decided with
        | none => exact fun _ => Or.inr rfl
        | some decided =>
            cases decided with
            | false => exact Effect.explained_of_ne Verdict.noConfusion
            | true => exact hstore
  · exact hstore

theorem editSnippet_explained (console : Console) (c : Configuration) (s : Storage)
    (path : CodeText) (t : Text) (lines : List Text) :
    (editSnippet console c s path t lines).Explained := by
  rw [editSnippet]
  cases hending : (runSession console (c.isOn "output.show_preview") t
      (lines.map .line)).ending with
  | cancelled => exact Effect.explained_of_ne Verdict.noConfusion
  | failed error =>
      cases error with
      | badNumber | refused => exact Effect.explained_of_ne Verdict.noConfusion
      | interrupted =>
          have hmem := interrupt_mem_of_interrupted hending
          simp at hmem
      | endOfInput =>
          intro _
          have hprompts := length_lt_promptCount hending
          rw [List.length_map] at hprompts
          right
          simp only [Effect.behind, Effect.ending, Bool.false_or, decide_eq_true_eq]
          exact hprompts
  | saved u =>
      refine Effect.Explained.behind ?_ _ _
      intro hfailure
      dsimp only at hfailure ⊢
      split_ifs at hfailure ⊢
      · cases hfailure
      · cases hfailure
      · refine (saveResult_explained c s path u _ hfailure).imp_right fun h => ?_
        rw [h, Bool.true_or]

theorem saveConfiguration_explained (format : DocumentFormat) (c : Configuration) (s : Storage)
    (done : List ConsoleEvent) : (saveConfiguration format c s done).Explained := by
  rw [saveConfiguration]
  refine Effect.Explained.behind ?_ _ _
  split
  · exact Effect.explained_refused _ _
  · exact Effect.explained_of_ne Verdict.noConfusion
  · exact Effect.explained_of_ne Verdict.noConfusion
  · exact Effect.explained_of_ne Verdict.noConfusion

theorem assignSetting_explained (format : DocumentFormat) (c : Configuration) (s : Storage)
    (key value : CodeText) : (assignSetting format c s key value).Explained := by
  rw [assignSetting]
  split
  · exact Effect.explained_of_ne Verdict.noConfusion
  · dsimp only
    split
    · exact Effect.explained_of_ne Verdict.noConfusion
    · exact saveConfiguration_explained _ _ _ _

theorem Request.perform_explained (host : Host) (c : Configuration) (s : Storage) (input : Text)
    (request : Request) : (request.perform host c s input).Explained := by
  cases request with
  | params path asJson =>
      refine withSnippet_explained fun t => Effect.Explained.behind ?_ _ _
      cases asJson <;> exact Effect.explained_of_ne Verdict.noConfusion
  | set path index value inPlace =>
      exact withSnippet_explained fun t => deliver_explained c s path inPlace _ _
  | toggle path index inPlace =>
      exact withSnippet_explained fun t => deliver_explained c s path inPlace _ _
  | edit path => exact withSnippet_explained fun t => editSnippet_explained _ c s path t _
  | configShow =>
      rw [perform]
      split <;> exact Effect.explained_of_ne Verdict.noConfusion
  | configInit => exact saveConfiguration_explained _ _ _ _
  | configSet key value => exact assignSetting_explained _ c s key value
  | version | help => exact Effect.explained_of_ne Verdict.noConfusion

end Requests

/-! ## Runs -/

section Runs

variable {effect : Effect}

theorem Console.showUntil_append {console : Console} {before after : List ConsoleEvent}
    {event : ConsoleEvent} {trouble : ConsoleTrouble}
    (hshown : ∀ e ∈ before, console.refusalOf? e = none)
    (hrefused : console.refusalOf? event = some trouble) :
    console.showUntil (before ++ event :: after) = (before, some trouble) := by
  induction before with
  | nil => rw [List.nil_append, showUntil, hrefused]
  | cons first before ih =>
      rw [List.forall_mem_cons] at hshown
      rw [List.cons_append, showUntil, hshown.1, ih hshown.2]

/-- All events are shown, or one of them is the first that is refused. -/
theorem Console.showUntil_cases (console : Console) (events : List ConsoleEvent) :
    ((∀ event ∈ events, console.refusalOf? event = none) ∧
      console.showUntil events = (events, none)) ∨
    ∃ before event after trouble, events = before ++ event :: after ∧
      (∀ e ∈ before, console.refusalOf? e = none) ∧
      console.refusalOf? event = some trouble := by
  induction events with
  | nil => exact Or.inl ⟨nofun, rfl⟩
  | cons event rest ih =>
      rw [showUntil]
      cases hrefusal : console.refusalOf? event with
      | some trouble => exact Or.inr ⟨[], event, rest, trouble, rfl, nofun, hrefusal⟩
      | none =>
          rcases ih with ⟨hshown, huntil⟩ | ⟨before, e, after, trouble, rfl, hshown, hrefused⟩
          · left
            rw [huntil]
            exact ⟨List.forall_mem_cons.mpr ⟨hrefusal, hshown⟩, rfl⟩
          · exact Or.inr ⟨event :: before, e, after, trouble, rfl,
              List.forall_mem_cons.mpr ⟨hrefusal, hshown⟩, hrefused⟩

theorem Effect.shownOn_of_shown {console : Console}
    (h : ∀ event ∈ effect.console, console.refusalOf? event = none) :
    effect.shownOn console = effect := by
  rcases console.showUntil_cases effect.console with
    ⟨-, huntil⟩ | ⟨before, event, after, trouble, hconsole, -, hrefused⟩
  · rw [shownOn, huntil]
  · have hnone := h event (hconsole ▸ List.mem_append_right before List.mem_cons_self)
    cases hrefused.symm.trans hnone

theorem Effect.verdict_of_refused {console : Console} {before after : List ConsoleEvent}
    {event : ConsoleEvent} {trouble : ConsoleTrouble}
    (hconsole : effect.console = before ++ event :: after)
    (hshown : ∀ e ∈ before, console.refusalOf? e = none)
    (hrefused : console.refusalOf? event = some trouble) :
    (effect.shownOn console).verdict = .crash trouble.crash := by
  rw [shownOn, hconsole, Console.showUntil_append hshown hrefused]

theorem OpenError.effect_explained (s : Storage) (e : OpenError) : (e.effect s).Explained := by
  cases e with
  | refused e => exact Effect.explained_refused _ _
  | unread cause => exact Effect.explained_of_ne Verdict.noConfusion

/-- An invocation ends before its command begins, or its request is carried out. -/
theorem Invocation.perform_cases (host : Host) (i : Invocation) (opened : Configuration)
    (s : Storage) (input : Text) :
    (∃ e, (opened.update i.changes).2 = some e ∧
      (i.perform host opened s input).effect.verdict = .crash (.update e)) ∨
    (∃ c cause, opened.update i.changes = (c, none) ∧ i.threshold c = .error cause ∧
      (i.perform host opened s input).effect.verdict = .crash cause) ∨
    (i.perform host opened s input).effect.verdict = .misuse ∨
    ∃ c threshold request log, opened.update i.changes = (c, none) ∧
      i.threshold c = .ok threshold ∧ i.command.request? i.arguments = some request ∧
      (i.perform host opened s input).effect =
        { request.perform host c s input with log := log } := by
  rcases hupdate : opened.update i.changes with ⟨c, _ | e⟩
  · right
    cases hthreshold : i.threshold c with
    | error cause =>
        left
        refine ⟨c, cause, rfl, hthreshold, ?_⟩
        simp only [perform, hupdate, hthreshold]
        rfl
    | ok threshold =>
        right
        cases hrequest : i.command.request? i.arguments with
        | none =>
            left
            simp only [perform, hupdate, hthreshold, hrequest]
            rfl
        | some request =>
            right
            refine ⟨c, threshold, request, (i.perform host opened s input).effect.log, rfl,
              hthreshold, rfl, ?_⟩
            simp only [perform, hupdate, hthreshold, hrequest]
  · left
    refine ⟨e, rfl, ?_⟩
    simp only [perform, hupdate]
    rfl

/-- A run ends before its configuration is open, or its invocation is carried out. -/
theorem attempt_cases (host : Host) (s : Storage) (line : List CodeText) (input : Text) :
    (attempt host s line input).effect.verdict = .misuse ∨
    (attempt host s line input).effect.verdict = .success ∨
    (∃ i e log, CommandLine.of line = .invocation i ∧
      (Configuration.openFile host.format s
        (Configuration.fileFor host.home i.file)).result = .error e ∧
      (attempt host s line input).effect = { e.effect s with log := log }) ∨
    ∃ i c log, CommandLine.of line = .invocation i ∧
      (Configuration.openFile host.format s
        (Configuration.fileFor host.home i.file)).result = .ok c ∧
      (attempt host s line input).effect =
        { (i.perform host c s input.unifyLines).effect with log := log } := by
  cases hline : CommandLine.of line with
  | misuse =>
      left
      simp only [attempt, hline]
      rfl
  | help =>
      right; left
      simp only [attempt, hline]
      rfl
  | invocation i =>
      right; right
      cases hopened : (Configuration.openFile host.format s
          (Configuration.fileFor host.home i.file)).result with
      | error e =>
          left
          refine ⟨i, e, (attempt host s line input).effect.log, rfl, hopened, ?_⟩
          simp only [attempt, hline, hopened]
          rfl
      | ok c =>
          right
          refine ⟨i, c, (attempt host s line input).effect.log, rfl, hopened, ?_⟩
          simp only [attempt, hline, hopened]
          rfl

theorem attempt_explained (host : Host) (s : Storage) (line : List CodeText) (input : Text) :
    (attempt host s line input).effect.Explained := by
  rcases attempt_cases host s line input with hmisuse | hsuccess |
    ⟨i, e, log, -, -, heffect⟩ | ⟨i, opened, log, -, -, heffect⟩
  · exact Effect.explained_of_ne (by rw [hmisuse]; exact Verdict.noConfusion)
  · exact Effect.explained_of_ne (by rw [hsuccess]; exact Verdict.noConfusion)
  · rw [heffect]
    exact e.effect_explained s
  · rw [heffect]
    rcases i.perform_cases host opened s input.unifyLines with ⟨e, -, hverdict⟩ |
      ⟨c, cause, -, -, hverdict⟩ | hmisuse | ⟨c, threshold, request, log', -, -, -, heffect'⟩
    · exact Effect.explained_of_ne (by rw [hverdict]; exact Verdict.noConfusion)
    · exact Effect.explained_of_ne (by rw [hverdict]; exact Verdict.noConfusion)
    · exact Effect.explained_of_ne (by rw [hmisuse]; exact Verdict.noConfusion)
    · rw [heffect']
      exact request.perform_explained host c s _

/-- A run that fails has shown a refusal, or the input has ended where an answer was wanted. -/
theorem run_explained (host : Host) (s : Storage) (line : List CodeText) (input : Text) :
    (run host s line input).effect.Explained := by
  have hrun : (run host s line input).effect =
      (attempt host s line input).effect.shownOn host.console := rfl
  rw [hrun]
  rcases host.console.showUntil_cases (attempt host s line input).effect.console with
    ⟨hshown, -⟩ | ⟨before, event, after, trouble, hconsole, hshown, hrefused⟩
  · rw [Effect.shownOn_of_shown hshown]
    exact attempt_explained host s line input
  · apply Effect.explained_of_ne
    rw [Effect.verdict_of_refused hconsole hshown hrefused]
    exact Verdict.noConfusion

end Runs

end SqlSnippet
