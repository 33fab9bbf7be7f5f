import SqlSnippet.Settings.Basic

/-!
# Document formats

A configuration is kept as a document.  How a document is read and written is up to its format,
which may fail in ways of its own; a file that breaks the rules of the format is only one of them,
and the format has words for it.
-/

namespace SqlSnippet

/-- Why a document gives no setting. -/
inductive ReadError where
  /-- The text breaks the rules of the format. -/
  | malformed
  /-- A number, a date or a character has the right form, but there is none like it. -/
  | invalidScalar
  | overflow
  | undecodable
  /-- The reader breaks off for a reason of its own. -/
  | unforeseen
deriving DecidableEq, Repr

/-- How documents are read and written. -/
structure DocumentFormat where
  load : ByteArray → Except ReadError Setting
  /-- What is said of the malformed document in a file. -/
  describe : CodeText → ByteArray → CodeText
  dump : Settings → Option Text

end SqlSnippet
