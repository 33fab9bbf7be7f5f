import SqlSnippet.Proofs.Commands
import SqlSnippet.Proofs.Rows

/-!
# Sessions as sequences of edits

A session is a dialogue, but what it does to the text is a sequence of edits: the answers up to
the one that ends it spell them, one after the other, each for the text that the edits before it
have left.  An answer to the prompt for a value is never read as a command, and a command that
is refused leaves the text as it is.  So a session that saves returns what its edits come to,
and every other session has been ended at a prompt, or over a report that the console refuses.
-/

namespace SqlSnippet

theorem nodup_spans (t : Text) : ((parameters t).map Parameter.span).Nodup := by
  refine List.pairwise_map.mpr ((parameters_pairwise_start t).imp ?_)
  intro p q hlt heq
  exact Nat.ne_of_lt hlt (congrArg Prod.fst heq)

theorem controlsFrom_eq {index : Nat} {seen : List (Nat × Nat)} {list : List Parameter}
    (hlist : (list.map Parameter.span).Nodup) (hseen : ∀ p ∈ list, p.span ∉ seen) :
    controlsFrom index seen list = list.mapIdx fun k p => Control.of (index + k) p := by
  induction list generalizing index seen with
  | nil => rfl
  | cons p rest ih =>
      rw [List.map_cons, List.nodup_cons] at hlist
      have hp : seen.contains p.span = false := by
        simpa using hseen p List.mem_cons_self
      have hrest : ∀ q ∈ rest, q.span ∉ p.span :: seen := by
        intro q hq hmem
        rcases List.mem_cons.mp hmem with heq | hmem
        · exact hlist.1 (heq ▸ List.mem_map_of_mem hq)
        · exact hseen q (List.mem_cons_of_mem p hq) hmem
      rw [controlsFrom, hp, if_neg Bool.false_ne_true, ih hlist.2 hrest, List.mapIdx_cons]
      simp only [Nat.add_zero, Nat.add_comm, Nat.add_left_comm]

/-- Every parameter has one control, whose number is the place of the parameter. -/
theorem controls_eq (t : Text) : controls t = (parameters t).mapIdx Control.of := by
  rw [controls, controlsOf, controlsFrom_eq (nodup_spans t) (by simp)]
  simp only [Nat.zero_add]

theorem find?_mapIdx_control (list : List Parameter) (first n : Nat) :
    (list.mapIdx fun k p => Control.of (first + k) p).find? (fun c => c.index == first + n) =
      list[n]?.map (Control.of (first + n)) := by
  induction list generalizing first n with
  | nil => rfl
  | cons p rest ih =>
      rw [List.mapIdx_cons]
      cases n with
      | zero => rw [List.find?_cons_of_pos (by simp [Control.of])]; rfl
      | succ n =>
          have hrest := ih (first + 1) n
          simp only [Nat.add_assoc, Nat.add_comm 1] at hrest
          rw [List.find?_cons_of_neg (by simp [Control.of]), hrest, List.getElem?_cons_succ]

theorem find?_controls (t : Text) (n : Nat) :
    (controls t).find? (fun c => c.index == n) = (parameters t)[n]?.map (Control.of n) := by
  have hfind := find?_mapIdx_control (parameters t) 0 n
  simpa only [controls_eq, Nat.zero_add] using hfind

/-- A change of the text that a command asks for. -/
inductive Edit where
  | toggle (index : Nat)
  | setValue (index : Nat) (value : Text)
deriving DecidableEq, Repr

namespace Edit

/-- What the edit comes to on a text. -/
def result (t : Text) : Edit → Except EditError Text
  | toggle n => SqlSnippet.toggle t n
  | setValue n value => SqlSnippet.setValue t n value

/-- The text that the edit leaves: a refused one leaves it as it is. -/
def textFrom (t : Text) (e : Edit) : Text :=
  match e.result t with
  | .ok u => u
  | .error _ => t

end Edit

theorem Edit.textFrom_of_outside {t : Text} {n : Nat} (h : (parameters t).length ≤ n) :
    Edit.textFrom t (.toggle n) = t := by
  have hnone : (parameters t)[n]? = none := List.getElem?_eq_none h
  have hnat : ¬ (n : Int) < 0 := by omega
  rw [Edit.textFrom, Edit.result, SqlSnippet.toggle, parameterAt, if_neg hnat,
    Int.toNat_natCast, hnone]
  rfl

/-- The text that edits leave, one after the other. -/
def editedText (t : Text) (edits : List Edit) : Text := edits.foldl Edit.textFrom t

/-! ## What answers ask for -/

/-- These answers keep a session with the text `t` running, and they spell these edits.  Only
the number of a parameter asks for a value, which is the next answer; an empty value, or the one
that the control starts with, spells no edit. -/
inductive Dictates (console : Console) : Text → List Answer → List Edit → Prop
  | nothing (t : Text) : Dictates console t [] []
  | unknown {t answer : Text} {rest : List Answer} {edits : List Edit}
      (hunknown : ∀ c, ¬ Spells answer.strip c)
      (hshown : console.refusalOf? (unknownCommand answer.strip) = none)
      (hrest : Dictates console t rest edits) :
      Dictates console t (.line answer :: rest) edits
  | toggle {t answer : Text} {n : Nat} {rest : List Answer} {edits : List Edit}
      (hspells : Spells answer.strip (.toggle n))
      (hrest : Dictates console (Edit.textFrom t (.toggle n)) rest edits) :
      Dictates console t (.line answer :: rest) (.toggle n :: edits)
  | outside {t answer : Text} {n : Nat} {rest : List Answer} {edits : List Edit}
      (hspells : Spells answer.strip (.edit n)) (houtside : (parameters t).length ≤ n)
      (hrest : Dictates console t rest edits) :
      Dictates console t (.line answer :: rest) edits
  | keep {t answer value : Text} {n : Nat} {p : Parameter} {rest : List Answer}
      {edits : List Edit} (hspells : Spells answer.strip (.edit n))
      (hp : (parameters t)[n]? = some p)
      (hvalue : value = [] ∨ value.strip = (Control.of n p).seed)
      (hrest : Dictates console t rest edits) :
      Dictates console t (.line answer :: .line value :: rest) edits
  | setValue {t answer value : Text} {n : Nat} {p : Parameter} {rest : List Answer}
      {edits : List Edit} (hspells : Spells answer.strip (.edit n))
      (hp : (parameters t)[n]? = some p) (hvalue : value ≠ [])
      (hseed : value.strip ≠ (Control.of n p).seed)
      (hrest : Dictates console (Edit.textFrom t (.setValue n value.strip)) rest edits) :
      Dictates console t (.line answer :: .line value :: rest) (.setValue n value.strip :: edits)

/-- A session with the text `t` ends at these answers in this way, and leaves these of them
unread. -/
inductive Stops (console : Console) : Text → List Answer → Ending → List Answer → Prop
  | save {t answer : Text} {rest : List Answer} (hspells : Spells answer.strip .save) :
      Stops console t (.line answer :: rest) (.saved t) rest
  | quit {t answer : Text} {rest : List Answer} (hspells : Spells answer.strip .quit) :
      Stops console t (.line answer :: rest) .cancelled rest
  | interrupt {t : Text} {rest : List Answer} : Stops console t (.interrupt :: rest) .cancelled rest
  | noAnswer {t : Text} : Stops console t [] .cancelled []
  | badNumber {t answer : Text} {rest : List Answer}
      (hspells : Spells answer.strip .badNumber) :
      Stops console t (.line answer :: rest) (.failed .badNumber) rest
  | refused {t answer : Text} {rest : List Answer} {trouble : ConsoleTrouble}
      (hunknown : ∀ c, ¬ Spells answer.strip c)
      (hrefused : console.refusalOf? (unknownCommand answer.strip) = some trouble) :
      Stops console t (.line answer :: rest) (.failed (.refused trouble)) rest
  | interruptedValue {t answer : Text} {n : Nat} {rest : List Answer}
      (hspells : Spells answer.strip (.edit n)) (hinside : n < (parameters t).length) :
      Stops console t (.line answer :: .interrupt :: rest) (.failed .interrupted) rest
  | noValue {t answer : Text} {n : Nat} (hspells : Spells answer.strip (.edit n))
      (hinside : n < (parameters t).length) :
      Stops console t [.line answer] (.failed .endOfInput) []

/-- How a session ends and the answers that it leaves unread. -/
def SessionRun.outcome (r : SessionRun) : Ending × List Answer := (r.ending, r.unread)

@[simp]
theorem SessionRun.outcome_behind (r : SessionRun) (console : List ConsoleEvent)
    (events : List EditEvent) : (r.behind console events).outcome = r.outcome := rfl

theorem SessionRun.behind_behind (r : SessionRun) (console console' : List ConsoleEvent)
    (events events' : List EditEvent) :
    (r.behind console events).behind console' events' =
      r.behind (console' ++ console) (events' ++ events) := by
  simp only [SessionRun.behind, List.append_assoc]

/-- Behind these answers a session with the text `t` goes on with the text `u`, whatever the
answers after them. -/
def Continues (console : Console) (showPreview : Bool) (t : Text) (read : List Answer)
    (u : Text) : Prop :=
  ∃ shown events, ∀ rest, runSession console showPreview t (read ++ rest) =
    (runSession console showPreview u rest).behind shown events

variable {console : Console} {showPreview : Bool}

theorem Continues.trans {t u v : Text} {read read' : List Answer}
    (h : Continues console showPreview t read u) (h' : Continues console showPreview u read' v) :
    Continues console showPreview t (read ++ read') v := by
  obtain ⟨shown, events, hfirst⟩ := h
  obtain ⟨shown', events', hsecond⟩ := h'
  refine ⟨shown ++ shown', events ++ events', fun rest => ?_⟩
  rw [List.append_assoc, hfirst, hsecond, SessionRun.behind_behind]

theorem Continues.outcome {t u : Text} {read : List Answer}
    (h : Continues console showPreview t read u) (rest : List Answer) :
    (runSession console showPreview t (read ++ rest)).outcome =
      (runSession console showPreview u rest).outcome := by
  obtain ⟨shown, events, hbehind⟩ := h
  rw [hbehind, SessionRun.outcome_behind]

section Step

variable {t answer : Text} {n : Nat} {p : Parameter} {rest : List Answer}

/-- An answer that is no command is reported, and the session goes on with the same text. -/
theorem runSession_unknown (hunknown : ∀ c, ¬ Spells answer.strip c)
    (hshown : console.refusalOf? (unknownCommand answer.strip) = none) (rest : List Answer) :
    runSession console showPreview t (.line answer :: rest) =
      (runSession console showPreview t rest).behind
        (screen showPreview t ++ [unknownCommand answer.strip]) [detectionEvent t] := by
  have hof := (Command.of_eq_unknown_iff (isTrimmed_strip answer)).mpr hunknown
  simp only [runSession, hof, hshown]

theorem runSession_outside (hspells : Spells answer.strip (.edit n))
    (houtside : (parameters t).length ≤ n) (rest : List Answer) :
    runSession console showPreview t (.line answer :: rest) =
      (runSession console showPreview t rest).behind (screen showPreview t ++ [noControl n])
        ([detectionEvent t] ++ [detectionEvent t]) := by
  have hnone : (parameters t)[n]? = none := List.getElem?_eq_none houtside
  simp only [runSession, hspells.of_eq, find?_controls, hnone, Option.map_none]

theorem continues_unknown (showPreview : Bool) (t : Text) (hunknown : ∀ c, ¬ Spells answer.strip c)
    (hshown : console.refusalOf? (unknownCommand answer.strip) = none) :
    Continues console showPreview t [.line answer] t :=
  ⟨_, _, runSession_unknown hunknown hshown⟩

theorem continues_outside (console : Console) (showPreview : Bool)
    (hspells : Spells answer.strip (.edit n)) (houtside : (parameters t).length ≤ n) :
    Continues console showPreview t [.line answer] t :=
  ⟨_, _, runSession_outside hspells houtside⟩

theorem continues_toggle (console : Console) (showPreview : Bool) (t : Text)
    (hspells : Spells answer.strip (.toggle n)) :
    Continues console showPreview t [.line answer] (Edit.textFrom t (.toggle n)) := by
  simp only [Continues, List.cons_append, List.nil_append, runSession, hspells.of_eq,
    Edit.textFrom, Edit.result]
  cases toggle t n with
  | ok u => exact ⟨_, _, fun _ => rfl⟩
  | error e => exact ⟨_, _, fun _ => rfl⟩

theorem continues_value (console : Console) (showPreview : Bool)
    (hspells : Spells answer.strip (.edit n)) (hp : (parameters t)[n]? = some p) (value : Text) :
    Continues console showPreview t [.line answer, .line value]
      (if enteredValue (Control.of n p) value = (Control.of n p).seed then t
        else Edit.textFrom t (.setValue n (enteredValue (Control.of n p) value))) := by
  simp only [Continues, List.cons_append, List.nil_append, runSession, hspells.of_eq,
    find?_controls, hp, Option.map_some, Edit.textFrom, Edit.result]
  split
  next => exact ⟨_, _, fun _ => rfl⟩
  next =>
    cases setValue t n (enteredValue (Control.of n p) value) with
    | ok u => exact ⟨_, _, fun _ => rfl⟩
    | error e => exact ⟨_, _, fun _ => rfl⟩

end Step

/-! ## Whole sessions -/

theorem enteredValue_eq_seed {c : Control} {value : Text}
    (hvalue : value = [] ∨ value.strip = c.seed) : enteredValue c value = c.seed := by
  unfold enteredValue
  split
  next => rfl
  next hne => exact hvalue.resolve_left (by simpa using hne)

theorem enteredValue_eq_strip {c : Control} {value : Text} (hvalue : value ≠ []) :
    enteredValue c value = value.strip := by
  rw [enteredValue, if_neg (by simpa using hvalue)]

/-- What answers dictate is what a session makes of them before it reads on. -/
theorem Dictates.continues {t : Text} {read : List Answer} {edits : List Edit}
    (h : Dictates console t read edits) (showPreview : Bool) :
    Continues console showPreview t read (editedText t edits) := by
  induction h with
  | nothing => exact ⟨[], [], fun _ => rfl⟩
  | unknown hunknown hshown _ ih =>
      exact (continues_unknown showPreview _ hunknown hshown).trans ih
  | toggle hspells _ ih => exact (continues_toggle console showPreview _ hspells).trans ih
  | outside hspells houtside _ ih =>
      exact (continues_outside console showPreview hspells houtside).trans ih
  | @keep t answer value n p rest edits hspells hp hvalue _ ih =>
      have hfirst := continues_value console showPreview hspells hp value
      rw [if_pos (enteredValue_eq_seed hvalue)] at hfirst
      exact hfirst.trans ih
  | @setValue t answer value n p rest edits hspells hp hvalue hseed _ ih =>
      have hfirst := continues_value console showPreview hspells hp value
      rw [enteredValue_eq_strip hvalue, if_neg hseed] at hfirst
      exact hfirst.trans ih

theorem Stops.outcome {t : Text} {answers rest : List Answer}
    {ending : Ending} (h : Stops console t answers ending rest) :
    (runSession console showPreview t answers).outcome = (ending, rest) := by
  cases h with
  | save hspells => simp only [runSession, hspells.of_eq, SessionRun.outcome]
  | quit hspells => simp only [runSession, hspells.of_eq, SessionRun.outcome]
  | interrupt => simp only [runSession, SessionRun.outcome]
  | noAnswer => simp only [runSession, SessionRun.outcome]
  | badNumber hspells => simp only [runSession, hspells.of_eq, SessionRun.outcome]
  | refused hunknown hrefused =>
      have hof := (Command.of_eq_unknown_iff (isTrimmed_strip _)).mpr hunknown
      simp only [runSession, hof, hrefused, SessionRun.outcome]
  | interruptedValue hspells hinside =>
      simp only [runSession, hspells.of_eq, find?_controls, List.getElem?_eq_getElem hinside,
        Option.map_some, SessionRun.outcome]
  | noValue hspells hinside =>
      simp only [runSession, hspells.of_eq, find?_controls, List.getElem?_eq_getElem hinside,
        Option.map_some, SessionRun.outcome]

/-- Every session reads answers that dictate edits, up to those at which it ends. -/
theorem exists_dictates (console : Console) (t : Text) (answers : List Answer) :
    ∃ read edits behind ending rest, answers = read ++ behind ∧ Dictates console t read edits ∧
      Stops console (editedText t edits) behind ending rest :=
  match answers with
  | [] => ⟨[], [], [], _, _, rfl, .nothing t, .noAnswer⟩
  | .interrupt :: rest => ⟨[], [], _, _, _, rfl, .nothing t, .interrupt⟩
  | .line answer :: rest => by
      have hspells : ∀ c, c ≠ .unknown → Command.of answer.strip = c → Spells answer.strip c :=
        fun c hc => (Command.of_eq_iff (isTrimmed_strip answer) hc).mp
      cases hcommand : Command.of answer.strip with
      | quit =>
          exact ⟨[], [], _, _, _, rfl, .nothing t, .quit (hspells _ Command.noConfusion hcommand)⟩
      | save =>
          exact ⟨[], [], _, _, _, rfl, .nothing t, .save (hspells _ Command.noConfusion hcommand)⟩
      | badNumber =>
          exact ⟨[], [], _, _, _, rfl, .nothing t,
            .badNumber (hspells _ Command.noConfusion hcommand)⟩
      | unknown =>
          have hunknown := (Command.of_eq_unknown_iff (isTrimmed_strip answer)).mp hcommand
          cases hrefused : console.refusalOf? (unknownCommand answer.strip) with
          | some trouble =>
              exact ⟨[], [], _, _, _, rfl, .nothing t, .refused hunknown hrefused⟩
          | none =>
              obtain ⟨read, edits, behind, ending, unread, rfl, hdictates, hstops⟩ :=
                exists_dictates console t rest
              exact ⟨.line answer :: read, edits, behind, ending, unread, rfl,
                .unknown hunknown hrefused hdictates, hstops⟩
      | toggle n =>
          obtain ⟨read, edits, behind, ending, unread, rfl, hdictates, hstops⟩ :=
            exists_dictates console (Edit.textFrom t (.toggle n)) rest
          exact ⟨.line answer :: read, .toggle n :: edits, behind, ending, unread, rfl,
            .toggle (hspells _ Command.noConfusion hcommand) hdictates, hstops⟩
      | edit n =>
          have hedit := hspells _ Command.noConfusion hcommand
          by_cases hinside : n < (parameters t).length
          · have hp := List.getElem?_eq_getElem hinside
            match rest with
            | [] => exact ⟨[], [], _, _, _, rfl, .nothing t, .noValue hedit hinside⟩
            | .interrupt :: rest =>
                exact ⟨[], [], _, _, _, rfl, .nothing t, .interruptedValue hedit hinside⟩
            | .line value :: rest =>
                by_cases hkeep : value = [] ∨
                    value.strip = (Control.of n (parameters t)[n]).seed
                · obtain ⟨read, edits, behind, ending, unread, rfl, hdictates, hstops⟩ :=
                    exists_dictates console t rest
                  exact ⟨.line answer :: .line value :: read, edits, behind, ending, unread, rfl,
                    .keep hedit hp hkeep hdictates, hstops⟩
                · rw [not_or] at hkeep
                  obtain ⟨read, edits, behind, ending, unread, rfl, hdictates, hstops⟩ :=
                    exists_dictates console (Edit.textFrom t (.setValue n value.strip)) rest
                  exact ⟨.line answer :: .line value :: read, .setValue n value.strip :: edits,
                    behind, ending, unread, rfl,
                    .setValue hedit hp hkeep.1 hkeep.2 hdictates, hstops⟩
          · obtain ⟨read, edits, behind, ending, unread, rfl, hdictates, hstops⟩ :=
              exists_dictates console t rest
            exact ⟨.line answer :: read, edits, behind, ending, unread, rfl,
              .outside hedit (Nat.not_lt.mp hinside) hdictates, hstops⟩
termination_by answers.length

/-- A session ends in a way when its answers dictate edits up to some at which it ends so. -/
theorem runSession_outcome_iff {t : Text} {answers rest : List Answer}
    {ending : Ending} :
    (runSession console showPreview t answers).outcome = (ending, rest) ↔
      ∃ read edits behind, answers = read ++ behind ∧ Dictates console t read edits ∧
        Stops console (editedText t edits) behind ending rest := by
  constructor
  · intro h
    obtain ⟨read, edits, behind, ending', rest', rfl, hdictates, hstops⟩ :=
      exists_dictates console t answers
    rw [(hdictates.continues showPreview).outcome, hstops.outcome, Prod.mk.injEq] at h
    obtain ⟨rfl, rfl⟩ := h
    exact ⟨read, edits, behind, rfl, hdictates, hstops⟩
  · rintro ⟨read, edits, behind, rfl, hdictates, hstops⟩
    rw [(hdictates.continues showPreview).outcome, hstops.outcome]

/-- The answers leave no choice between edits. -/
theorem Dictates.unique {t : Text} {read : List Answer} {edits edits' : List Edit}
    (h : Dictates console t read edits) (h' : Dictates console t read edits') : edits = edits' := by
  induction h generalizing edits' with
  | nothing =>
      cases h'
      rfl
  | unknown hunknown hshown _ ih => cases h' <;> grind
  | toggle hspells _ ih => cases h' <;> grind [→ Spells.of_eq]
  | outside hspells houtside _ ih => cases h' <;> grind [→ Spells.of_eq]
  | keep hspells hp hvalue _ ih => cases h' <;> grind [→ Spells.of_eq]
  | setValue hspells hp hvalue hseed _ ih => cases h' <;> grind [→ Spells.of_eq]

/-- A session returns a text exactly when its answers dictate edits that come to this text, and
then ask to save it.  It is cancelled when its answers dictate edits and end, or go on with an
interrupt or the command to quit, and it fails for no other reason than an unreadable number, a
missing value or a report that the console refuses.  The answers behind the last one that was read
stay unread.  An answer that is no command and can be reported, or has the number of no parameter,
leaves the text as it is and takes no value. -/
theorem runSession_refines_edits (console : Console) (showPreview : Bool) (t : Text)
    (answers rest : List Answer) :
    (∀ r, (runSession console showPreview t answers).outcome = (.saved r, rest) ↔
      ∃ read answer edits, answers = read ++ .line answer :: rest ∧
        Spells answer.strip .save ∧ Dictates console t read edits ∧
        (∀ edits', Dictates console t read edits' → edits' = edits) ∧ r = editedText t edits) ∧
    ((runSession console showPreview t answers).outcome = (.cancelled, rest) ↔
      ∃ read edits, Dictates console t read edits ∧
        (answers = read ∧ rest = [] ∨ answers = read ++ .interrupt :: rest ∨
          ∃ answer, answers = read ++ .line answer :: rest ∧ Spells answer.strip .quit)) ∧
    (∀ error, (runSession console showPreview t answers).outcome = (.failed error, rest) ↔
      ∃ read edits behind, answers = read ++ behind ∧ Dictates console t read edits ∧
        Stops console (editedText t edits) behind (.failed error) rest) ∧
    (∀ answer, (∀ c, ¬ Spells answer.strip c) ∧
        console.refusalOf? (unknownCommand answer.strip) = none ∨
        (∃ n, (parameters t).length ≤ n ∧
          (Spells answer.strip (.toggle n) ∨ Spells answer.strip (.edit n))) →
      (runSession console showPreview t (.line answer :: answers)).outcome =
        (runSession console showPreview t answers).outcome) := by
  refine ⟨fun r => ?_, ?_, fun error => runSession_outcome_iff, ?_⟩
  · rw [runSession_outcome_iff]
    constructor
    · rintro ⟨read, edits, behind, rfl, hdictates, hstops⟩
      cases hstops with
      | save hspells =>
          exact ⟨read, _, edits, rfl, hspells, hdictates, fun _ h => h.unique hdictates, rfl⟩
    · rintro ⟨read, answer, edits, rfl, hspells, hdictates, -, rfl⟩
      exact ⟨read, edits, _, rfl, hdictates, .save hspells⟩
  · rw [runSession_outcome_iff]
    constructor
    · rintro ⟨read, edits, behind, rfl, hdictates, hstops⟩
      refine ⟨read, edits, hdictates, ?_⟩
      cases hstops with
      | quit hspells => exact Or.inr (Or.inr ⟨_, rfl, hspells⟩)
      | interrupt => exact Or.inr (Or.inl rfl)
      | noAnswer => exact Or.inl ⟨List.append_nil read, rfl⟩
    · rintro ⟨read, edits, hdictates, ⟨rfl, rfl⟩ | rfl | ⟨answer, rfl, hspells⟩⟩
      · exact ⟨_, edits, [], (List.append_nil _).symm, hdictates, .noAnswer⟩
      · exact ⟨read, edits, _, rfl, hdictates, .interrupt⟩
      · exact ⟨read, edits, _, rfl, hdictates, .quit hspells⟩
  · rintro answer (⟨hunknown, hshown⟩ | ⟨n, houtside, hspells | hspells⟩)
    · exact (continues_unknown showPreview t hunknown hshown).outcome answers
    · have htoggle := (continues_toggle console showPreview t hspells).outcome answers
      rwa [Edit.textFrom_of_outside houtside] at htoggle
    · exact (continues_outside console showPreview hspells houtside).outcome answers

/-- The value is no command, although it looks like one. -/
example : (runSession .recorder false (Text.ofString "a = 'x'") [.line (Text.ofString "0"),
      .line (Text.ofString " q "), .line (Text.ofString " t  0"), .line (Text.ofString "S"),
      .interrupt]).outcome = (.saved (Text.ofString "-- a = 'q'"), [.interrupt]) := by
  decide +kernel

end SqlSnippet
