import SqlSnippet.Chars.Word

/-!
# Blank characters

The blanks are the characters that separate words: the white space of every
script together with the four ASCII separators and the next-line control.  No blank is a word
character, so a run of one kind ends exactly where a run of the other may begin.
-/

namespace SqlSnippet.Chars

def blankCodes : List Nat :=
  [0x9, 0xA, 0xB, 0xC, 0xD, 0x1C, 0x1D, 0x1E, 0x1F, 0x20, 0x85, 0xA0, 0x1680,
   0x2000, 0x2001, 0x2002, 0x2003, 0x2004, 0x2005, 0x2006, 0x2007, 0x2008, 0x2009,
   0x200A, 0x2028, 0x2029, 0x202F, 0x205F, 0x3000]

/-- `c` is white space or a separator. -/
def isBlank (c : Char) : Bool :=
  blankCodes.contains c.toNat

theorem isWord_eq_false_of_isBlank {c : Char} (h : isBlank c = true) : isWord c = false := by
  have hall : ∀ n ∈ blankCodes, isWord (Char.ofNat n) = false := by decide +kernel
  have hmem : c.toNat ∈ blankCodes := by simpa [isBlank] using h
  simpa using hall c.toNat hmem

end SqlSnippet.Chars
