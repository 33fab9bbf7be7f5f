import SqlSnippet.Proofs.Dates
import SqlSnippet.Proofs.Sessions

/-!
# Sessions that break off

Nearly every answer keeps a session going or ends it with a result.  An answer that is no command,
and a command with the number of no parameter, are reported and leave the text as it is.  Four
things break a session off, so that the edits made in it are lost: a command whose number cannot be
read, an answer whose report the console refuses, and an interrupt or the end of the answers where a
value is wanted.  A number cannot be read if it has too many digits, or a digit that is not decimal;
a report is refused only if there is a bracket in the answer.
-/

namespace SqlSnippet

open Chars

theorem numberOf?_eq_none_iff {digits : Text} :
    numberOf? digits = none ↔ ∃ c ∈ digits, isDecimal c = false := by
  constructor
  · intro hnone
    by_contra hall
    push Not at hall
    have hread : ∀ (n : Nat) (ds : Text), (∀ c ∈ ds, isDecimal c ≠ false) →
        (ds.foldlM (fun k c => (decimalValue? c).map (10 * k + ·)) n).isSome = true := by
      intro n ds hds
      induction ds generalizing n with
      | nil => rfl
      | cons d ds ih =>
          obtain ⟨k, hk⟩ := Option.isSome_iff_exists.mp
            (Bool.eq_true_of_not_eq_false (hds d List.mem_cons_self))
          rw [List.foldlM_cons, hk, Option.map_some, Option.bind_eq_bind, Option.bind_some]
          exact ih _ fun c hc => hds c (List.mem_cons_of_mem d hc)
    have hsome := hread 0 digits hall
    rw [← numberOf?, hnone] at hsome
    cases hsome
  · rintro ⟨c, hc, hdecimal⟩
    by_contra hsome
    obtain ⟨n, hn⟩ := Option.ne_none_iff_exists'.mp hsome
    rw [isDecimal_of_numberOf? hn c hc] at hdecimal
    cases hdecimal

/-- The digits are too many, or one of them is not decimal. -/
def IsUnreadable (digits : Text) : Prop :=
  maxDigits < digits.length ∨ ∃ c ∈ digits, isDecimal c = false

theorem digitsNumber?_eq_none_iff {digits : Text} :
    digitsNumber? digits = none ↔ IsUnreadable digits := by
  unfold digitsNumber?
  split
  next hle =>
    rw [numberOf?_eq_none_iff, IsUnreadable, or_iff_right (Nat.not_lt.mpr hle)]
  next hlt => simp only [IsUnreadable, Nat.lt_of_not_le hlt, true_or]

theorem Command.ofDigits_eq_badNumber_iff {command : Nat → Command} {digits : Text}
    (hcommand : ∀ n, command n ≠ .badNumber) :
    Command.ofDigits command digits = .badNumber ↔ IsUnreadable digits := by
  rw [← digitsNumber?_eq_none_iff, Command.ofDigits]
  split
  next n hn => simp [hn, hcommand n]
  next hnone => simp [hnone]

/-- The answer is a text of digits, or the letter of a toggle and such a text. -/
def HasDigits (choice digits : Text) : Prop :=
  isDigitText digits = true ∧ (choice = digits ∨ ∃ letter gap,
    (letter = 't' ∨ letter = 'T') ∧ IsGap gap ∧ choice = letter :: (gap ++ digits))

theorem spells_badNumber_iff {choice : Text} :
    Spells choice .badNumber ↔ ∃ digits, HasDigits choice digits ∧ IsUnreadable digits := by
  constructor
  · generalize hcommand : Command.badNumber = command
    intro hspells
    cases hspells with
    | quit | save => cases hcommand
    | @toggle letter gap digits hletter hgap hdigits =>
        refine ⟨digits, ⟨hdigits, Or.inr ⟨letter, gap, hletter, hgap, rfl⟩⟩, ?_⟩
        exact (Command.ofDigits_eq_badNumber_iff fun n => Command.noConfusion).mp hcommand.symm
    | edit hdigits =>
        refine ⟨choice, ⟨hdigits, Or.inl rfl⟩, ?_⟩
        exact (Command.ofDigits_eq_badNumber_iff fun n => Command.noConfusion).mp hcommand.symm
  · rintro ⟨digits, ⟨hdigits, rfl | ⟨letter, gap, hletter, hgap, rfl⟩⟩, hunreadable⟩
    · have hedit := Spells.edit hdigits
      rwa [(Command.ofDigits_eq_badNumber_iff fun n => Command.noConfusion).mpr hunreadable]
        at hedit
    · have htoggle := Spells.toggle hletter hgap hdigits
      rwa [(Command.ofDigits_eq_badNumber_iff fun n => Command.noConfusion).mpr hunreadable]
        at htoggle

variable {console : Console}

/-- These answers break off a session that has the text `t`, from the prompt for a command on. -/
inductive BreaksOff (console : Console) (t : Text) : List Answer → SessionError → Prop
  | badNumber {answer digits : Text} {rest : List Answer}
      (hdigits : HasDigits answer.strip digits) (hunreadable : IsUnreadable digits) :
      BreaksOff console t (.line answer :: rest) .badNumber
  | refused {answer : Text} {rest : List Answer} {trouble : ConsoleTrouble}
      (hunknown : ∀ c, ¬ Spells answer.strip c)
      (hrefused : console.refusalOf? (unknownCommand answer.strip) = some trouble) :
      BreaksOff console t (.line answer :: rest) (.refused trouble)
  | interrupted {answer : Text} {n : Nat} {rest : List Answer}
      (hspells : Spells answer.strip (.edit n)) (hinside : n < (parameters t).length) :
      BreaksOff console t (.line answer :: .interrupt :: rest) .interrupted
  | endOfInput {answer : Text} {n : Nat} (hspells : Spells answer.strip (.edit n))
      (hinside : n < (parameters t).length) : BreaksOff console t [.line answer] .endOfInput

theorem exists_stops_failed_iff {t : Text} {answers : List Answer} {error : SessionError} :
    (∃ rest, Stops console t answers (.failed error) rest) ↔ BreaksOff console t answers error := by
  constructor
  · rintro ⟨rest, hstops⟩
    cases hstops with
    | badNumber hspells =>
        obtain ⟨digits, hdigits, hunreadable⟩ := spells_badNumber_iff.mp hspells
        exact .badNumber hdigits hunreadable
    | refused hunknown hrefused => exact .refused hunknown hrefused
    | interruptedValue hspells hinside => exact .interrupted hspells hinside
    | noValue hspells hinside => exact .endOfInput hspells hinside
  · intro hbreaks
    cases hbreaks with
    | badNumber hdigits hunreadable =>
        exact ⟨_, .badNumber (spells_badNumber_iff.mpr ⟨_, hdigits, hunreadable⟩)⟩
    | refused hunknown hrefused => exact ⟨_, .refused hunknown hrefused⟩
    | interrupted hspells hinside => exact ⟨_, .interruptedValue hspells hinside⟩
    | endOfInput hspells hinside => exact ⟨_, .noValue hspells hinside⟩

/-! ## Reports -/

/-- The report of an answer without an opening bracket is refused by no console. -/
theorem refusalOf?_unknownCommand (console : Console) {choice : Text} (h : '[' ∉ choice) :
    console.refusalOf? (unknownCommand choice) = none := by
  have hwords : '[' ∉ Text.ofString s!"Unknown command: {choice.toString}" := by
    have hword : Text.ofString s!"Unknown command: {choice.toString}" =
        Text.ofString "Unknown command: " ++ choice := by
      simp only [Text.ofString, Text.toString, toString, String.toList_append, String.toList_ofList]
    rw [hword, List.mem_append, not_or]
    exact ⟨by decide, h⟩
  exact console.shows_plain .yellow _ hwords

/-- What is shown for an answer that is no command, or that has the number of no parameter. -/
inductive Reports (console : Console) (t answer : Text) : ConsoleEvent → Prop
  | unknown (hunknown : ∀ c, ¬ Spells answer.strip c)
      (hshown : console.refusalOf? (unknownCommand answer.strip) = none) :
      Reports console t answer (unknownCommand answer.strip)
  | noControl {n : Nat} (hspells : Spells answer.strip (.edit n))
      (houtside : (parameters t).length ≤ n) : Reports console t answer (noControl n)
  | noParameter {n : Nat} (hspells : Spells answer.strip (.toggle n))
      (houtside : (parameters t).length ≤ n) :
      Reports console t answer
        (refusal (.ofString (EditError.noParameter n (parameters t).length).message))

theorem parameterAt_of_outside {t : Text} {n : Nat} (h : (parameters t).length ≤ n) :
    parameterAt t n = .error (.noParameter n (parameters t).length) := by
  have hnat : ¬ (n : Int) < 0 := by omega
  rw [parameterAt, if_neg hnat, Int.toNat_natCast, List.getElem?_eq_none h]

theorem Reports.runSession_eq {t answer : Text} {report : ConsoleEvent}
    (h : Reports console t answer report) (showPreview : Bool) :
    ∃ events, ∀ rest, runSession console showPreview t (.line answer :: rest) =
      (runSession console showPreview t rest).behind (screen showPreview t ++ [report]) events := by
  cases h with
  | unknown hunknown hshown => exact ⟨_, runSession_unknown hunknown hshown⟩
  | noControl hspells houtside => exact ⟨_, runSession_outside hspells houtside⟩
  | @noParameter n hspells houtside =>
      refine ⟨detectionEvent t :: toggleEvents t n, fun rest => ?_⟩
      simp only [runSession, hspells.of_eq, toggle, parameterAt_of_outside houtside, Except.map,
        List.cons_append, List.nil_append]

/-- A session returns, with a text or with none, unless its answers dictate edits up to an
unreadable number, to an answer that is no command and that the console does not report, or to an
interrupt or the end where a value is wanted.  Every other answer that is no command, such as one
without a bracket, and every number of no parameter is reported wherever it is read, and the session
goes on with the text that it had. -/
theorem runSession_breaks_off_iff (console : Console) (showPreview : Bool) (t : Text)
    (answers : List Answer) :
    (∀ error, (runSession console showPreview t answers).ending = .failed error ↔
      ∃ read edits behind, answers = read ++ behind ∧ Dictates console t read edits ∧
        BreaksOff console (editedText t edits) behind error) ∧
    (((runSession console showPreview t answers).ending = .cancelled ∨
        ∃ u, (runSession console showPreview t answers).ending = .saved u) ↔
      ¬ ∃ error read edits behind, answers = read ++ behind ∧ Dictates console t read edits ∧
        BreaksOff console (editedText t edits) behind error) ∧
    (∀ read edits answer report, Dictates console t read edits →
      Reports console (editedText t edits) answer report →
        ∃ shown events, ∀ rest, runSession console showPreview t (read ++ .line answer :: rest) =
          (runSession console showPreview (editedText t edits) rest).behind (shown ++ [report])
            events) ∧
    (∀ answer : Text, '[' ∉ answer.strip →
      console.refusalOf? (unknownCommand answer.strip) = none) := by
  have hfailed : ∀ error, (runSession console showPreview t answers).ending = .failed error ↔
      ∃ read edits behind, answers = read ++ behind ∧ Dictates console t read edits ∧
        BreaksOff console (editedText t edits) behind error := by
    intro error
    constructor
    · intro hending
      have houtcome : (runSession console showPreview t answers).outcome =
          (.failed error, (runSession console showPreview t answers).unread) := by
        rw [SessionRun.outcome, hending]
      obtain ⟨read, edits, behind, heq, hdictates, hstops⟩ := runSession_outcome_iff.mp houtcome
      exact ⟨read, edits, behind, heq, hdictates, exists_stops_failed_iff.mp ⟨_, hstops⟩⟩
    · rintro ⟨read, edits, behind, heq, hdictates, hbreaks⟩
      obtain ⟨rest, hstops⟩ := exists_stops_failed_iff.mpr hbreaks
      exact congrArg Prod.fst
        (runSession_outcome_iff.mpr ⟨read, edits, behind, heq, hdictates, hstops⟩)
  refine ⟨hfailed, ?_, ?_, fun answer => refusalOf?_unknownCommand console⟩
  · constructor
    · rintro hreturns ⟨error, hbroken⟩
      have hending := (hfailed error).mpr hbroken
      rw [hending] at hreturns
      rcases hreturns with hcancelled | ⟨u, hsaved⟩
      · cases hcancelled
      · cases hsaved
    · intro hnone
      cases hending : (runSession console showPreview t answers).ending with
      | saved u => exact Or.inr ⟨u, rfl⟩
      | cancelled => exact Or.inl rfl
      | failed error => exact absurd ⟨error, (hfailed error).mp hending⟩ hnone
  · intro read edits answer report hdictates hreports
    obtain ⟨shown, events, hread⟩ := hdictates.continues showPreview
    obtain ⟨events', hanswer⟩ := hreports.runSession_eq showPreview
    refine ⟨shown ++ screen showPreview (editedText t edits), events ++ events', fun rest => ?_⟩
    rw [hread, hanswer, SessionRun.behind_behind, List.append_assoc]

/-- The answer to the prompt is reported, and the session goes on to the command that saves. -/
theorem runSession_reports_unknown :
    ∃ shown events, ∀ rest, runSession .terminal false (Text.ofString "a = 'x'")
        ([.line (Text.ofString "t 0")] ++ .line (Text.ofString "what?") :: rest) =
      (runSession .terminal false (Text.ofString "-- a = 'x'") rest).behind
        (shown ++ [unknownCommand (Text.ofString "what?")]) events := by
  have hunknown : ∀ c, ¬ Spells (Text.ofString "what?").strip c :=
    (Command.of_eq_unknown_iff (isTrimmed_strip _)).mp (by decide)
  have htoggle : Spells (Text.ofString "t 0").strip (.toggle 0) :=
    (Command.of_eq_iff (isTrimmed_strip _) Command.noConfusion).mp (by decide)
  have hdictates : Dictates .terminal (Text.ofString "a = 'x'") [.line (Text.ofString "t 0")]
      [.toggle 0] :=
    .toggle htoggle (.nothing _)
  have hedited : editedText (Text.ofString "a = 'x'") [.toggle 0] =
      Text.ofString "-- a = 'x'" := by
    decide
  obtain ⟨-, -, hreported, hshown⟩ :=
    runSession_breaks_off_iff .terminal false (Text.ofString "a = 'x'") []
  obtain ⟨shown, events, hgoes⟩ :=
    hreported _ _ _ _ hdictates (.unknown hunknown (hshown _ (by decide)))
  rw [hedited] at hgoes
  have hstrip : (Text.ofString "what?").strip = Text.ofString "what?" := by decide
  rw [hstrip] at hgoes
  exact ⟨shown, events, hgoes⟩

/-- A superscript or a closing tag breaks off a session at the prompt for a command, and an
interrupt or the end of the answers breaks it off where a value is wanted. -/
theorem runSession_fails :
    (runSession .terminal false (Text.ofString "x") [.line ['²']]).ending = .failed .badNumber ∧
      (runSession .terminal false (Text.ofString "x") [.line (Text.ofString "[/x]")]).ending =
        .failed (.refused .markup) ∧
      (runSession .terminal false (Text.ofString "a = 'x'") [.line ['0'], .interrupt]).ending =
        .failed .interrupted ∧
      (runSession .terminal false (Text.ofString "a = 'x'") [.line ['0']]).ending =
        .failed .endOfInput := by
  decide +kernel

end SqlSnippet
