import SqlSnippet.Text.Basic

/-!
# Confirmations

A question is asked until the answer is yes or no, in one letter or in full, in any case and
with any blanks around it.  An empty answer means yes.
-/

namespace SqlSnippet

def decision? (answer : Text) : Option Bool :=
  let word := Text.strip (answer.map Char.toLower)
  if word = ['y'] ∨ word = ['y', 'e', 's'] ∨ word = [] then some true
  else if word = ['n'] ∨ word = ['n', 'o'] then some false
  else none

/-- What was shown while a question was asked, and what was decided; nothing when the answers ran
out first. -/
structure Confirmation where
  shown : Text
  decided : Option Bool
deriving DecidableEq, Repr

def confirm (question : Text) : List Text → Confirmation
  | [] => ⟨question, none⟩
  | answer :: rest =>
    let asked := question ++ answer ++ ['\n']
    match decision? answer with
    | some decided => ⟨asked, some decided⟩
    | none =>
      let again := confirm question rest
      { again with shown := asked ++ Text.ofString "Error: invalid input\n" ++ again.shown }

end SqlSnippet
