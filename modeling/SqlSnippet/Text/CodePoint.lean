import SqlSnippet.Text.Basic

/-!
# Code points

A format that names characters by their numbers can also name one half of a pair of 16-bit units,
which is no character by itself.  Where that can happen a text is a list of code points.  Every text
is one, and the others are those with halves of pairs in them.
-/

namespace SqlSnippet

/-- The number of a character or of half of a pair. -/
abbrev CodePoint := Fin 0x110000

/-- A text that may have halves of pairs among its characters. -/
abbrev CodeText := List CodePoint

namespace CodePoint

theorem toNat_lt (c : Char) : c.toNat < 0x110000 := by
  rcases c.valid with h | h
  · exact Nat.lt_trans h (by decide)
  · exact h.2

def ofChar (c : Char) : CodePoint := ⟨c.toNat, toNat_lt c⟩

/-- The character with a code point; half of a pair is none. -/
def char? (p : CodePoint) : Option Char :=
  if h : p.val.isValidChar then some (Char.ofNatAux p.val h) else none

theorem char?_ofChar (c : Char) : (ofChar c).char? = some c :=
  dif_pos c.valid

end CodePoint

def Text.codePoints (t : Text) : CodeText := t.map CodePoint.ofChar

def CodeText.ofString (s : String) : CodeText := (Text.ofString s).codePoints

/-- The text with these code points, if all of them are characters. -/
def CodeText.chars? (t : CodeText) : Option Text := t.mapM CodePoint.char?

/-- The text with the replacement character for every half of a pair. -/
def CodeText.standIn (t : CodeText) : Text := t.map fun p => p.char?.getD '\uFFFD'

theorem CodeText.chars?_codePoints (t : Text) : t.codePoints.chars? = some t := by
  induction t with
  | nil => rfl
  | cons c rest ih =>
    unfold CodeText.chars? Text.codePoints at ih ⊢
    simp [List.map_cons, List.mapM_cons, CodePoint.char?_ofChar, ih]

theorem CodeText.standIn_codePoints (t : Text) : t.codePoints.standIn = t := by
  simp [CodeText.standIn, Text.codePoints, Function.comp_def, CodePoint.char?_ofChar]

end SqlSnippet
