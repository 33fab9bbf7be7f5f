import SqlSnippet.Console.Event

/-!
# What a console refuses

A console can refuse to show a message.  Its tags may not fit together, because a part of it was
typed by somebody and has a closing tag of its own, or it holds half of a pair, which has no
encoding.  Which messages those are depends on the console; a message in one style whose words have
no opening bracket is never among them.
-/

namespace SqlSnippet

/-- Why a message is not shown. -/
inductive ConsoleTrouble where
  | markup
  | encoding
deriving DecidableEq, Repr

/-- A console, by the messages that it refuses. -/
structure Console where
  refusal? : CodeText → Option ConsoleTrouble
  shows_plain : ∀ (style : Style) (words : Text), '[' ∉ words →
    refusal? (tagged style.name words.codePoints) = none

namespace Console

/-- Why an event is not shown.  Only messages and panels of text are read for tags. -/
def refusalOf? (c : Console) : ConsoleEvent → Option ConsoleTrouble
  | .message markup => c.refusal? markup
  | .textPanel title body => (c.refusal? title).or (c.refusal? body)
  | .table _ | .line _ | .previewPanel _ | .prompt _ => none

/-- The events in front of the first one that is not shown, and why it is not. -/
def showUntil (c : Console) : List ConsoleEvent → List ConsoleEvent × Option ConsoleTrouble
  | [] => ([], none)
  | event :: rest =>
    match c.refusalOf? event with
    | some trouble => ([], some trouble)
    | none => (event :: (c.showUntil rest).1, (c.showUntil rest).2)

/-- A console that keeps events instead of showing them refuses none. -/
def recorder : Console := ⟨fun _ => none, fun _ _ _ => rfl⟩

/-- A terminal refuses a closing tag that closes nothing, and what has no encoding. -/
def terminalRefusal? (markup : CodeText) : Option ConsoleTrouble :=
  if !closesTags [] (tagsBehind 0 markup.standIn) then some .markup
  else if markup.chars?.isNone then some .encoding
  else none

theorem exists_tagsBehind_append (slashes : Nat) {words : Text} (h : '[' ∉ words) (t : Text) :
    ∃ slashes', tagsBehind slashes (words ++ t) = tagsBehind slashes' t := by
  induction words generalizing slashes with
  | nil => exact ⟨slashes, rfl⟩
  | cons c words ih =>
      rw [List.mem_cons, not_or] at h
      rw [List.cons_append, tagsBehind]
      split
      next => exact ih (slashes + 1) h.2
      next =>
        rw [if_neg fun hc => h.1 hc.1.symm]
        exact ih 0 h.2

variable (style : Style)

theorem tag_opening (t : Text) :
    isTagBody (Text.ofString style.name ++ ']' :: t) = true ∧
      (Text.ofString style.name ++ ']' :: t).takeWhile (· ≠ ']') = Text.ofString style.name := by
  cases style <;> exact ⟨rfl, rfl⟩

theorem tag_closing :
    isTagBody ('/' :: Text.ofString style.name ++ [']']) = true ∧
      ('/' :: Text.ofString style.name ++ [']']).takeWhile (· ≠ ']') =
        '/' :: Text.ofString style.name := by
  cases style <;> exact ⟨rfl, rfl⟩

theorem tagsBehind_closing (slashes : Nat) :
    tagsBehind slashes ('[' :: ('/' :: Text.ofString style.name ++ [']'])) =
      if slashes % 2 = 0 then ['/' :: Text.ofString style.name] else [] := by
  obtain ⟨hbody, hname⟩ := tag_closing style
  have hrest : tagsBehind 0 ('/' :: Text.ofString style.name ++ [']']) = [] := by
    cases style <;> rfl
  rw [tagsBehind, if_neg (by decide), hbody, hname, hrest]
  simp

theorem closesTags_name :
    closesTags [] [Text.ofString style.name] = true ∧
      closesTags [] [Text.ofString style.name, '/' :: Text.ofString style.name] = true := by
  cases style <;> decide

theorem tagged_codePoints (words : Text) :
    tagged style.name words.codePoints =
      Text.codePoints ('[' :: (Text.ofString style.name ++ ']' :: words ++
        '[' :: ('/' :: Text.ofString style.name ++ [']']))) := by
  simp [tagged, Text.codePoints]

/-- The tags around words without an opening bracket fit together, even if the words end in a
backslash that escapes the closing one. -/
theorem terminalRefusal?_tagged {words : Text} (h : '[' ∉ words) :
    terminalRefusal? (tagged style.name words.codePoints) = none := by
  obtain ⟨hbody, hname⟩ := tag_opening style
    (words ++ '[' :: ('/' :: Text.ofString style.name ++ [']']))
  have hwords : '[' ∉ Text.ofString style.name ++ ']' :: words := by
    have hstyle : '[' ∉ Text.ofString style.name := by cases style <;> decide
    simp [hstyle, h]
  obtain ⟨slashes, hskip⟩ := exists_tagsBehind_append 0 hwords
    ('[' :: ('/' :: Text.ofString style.name ++ [']']))
  rw [List.append_assoc, List.cons_append] at hskip
  have htags : closesTags [] (tagsBehind 0 ('[' :: (Text.ofString style.name ++ ']' :: words ++
      '[' :: ('/' :: Text.ofString style.name ++ [']'])))) = true := by
    rw [List.append_assoc, List.cons_append, tagsBehind, if_neg (by decide),
      if_pos ⟨rfl, hbody, rfl⟩, hname, hskip, tagsBehind_closing]
    obtain ⟨hone, htwo⟩ := closesTags_name style
    split
    · exact htwo
    · exact hone
  rw [tagged_codePoints, terminalRefusal?, CodeText.standIn_codePoints, htags,
    CodeText.chars?_codePoints]
  rfl

def terminal : Console := ⟨terminalRefusal?, fun style _ h => terminalRefusal?_tagged style h⟩

example : (terminal.refusal? (tagged "yellow" (.ofString "Unknown command: [/x]"))) =
    some .markup := by
  decide

end Console

end SqlSnippet
