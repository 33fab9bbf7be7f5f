import SqlSnippet.Proofs.Members
import Mathlib.Data.List.Infix

/-!
# Values that are read as nothing else

A value between its quotes is a part of the text like any other, and a scan may find a clause
that begins in it or reaches over it.  For that the value has to look like a piece of a clause:
the keyword between the bounds of a range, the lead of a range at its end, the beginning of a
list, or the end of one.  A value without such a piece and without quotes is inert.
-/

namespace SqlSnippet

open Chars

/-- Read a column and a keyword behind it, with blanks between them. -/
def readKeyword? (keyword t : Text) : Option Text := do
  let (_, t) ← Column.read? t
  let (_, t) ← readGap? t
  let (_, t) ← Text.readFolded? keyword t
  some t

/-- A list begins in the text: a column, `in` and a parenthesis. -/
def beginsList (t : Text) : Bool :=
  t.tails.any fun u => (readKeyword? inLetters u).any fun rest =>
    (rest.dropWhile isBlank).head? == some '('

/-- The text ends in the lead of a range: a column, `between` and blanks. -/
def endsInRangeLead (t : Text) : Bool :=
  t.tails.any fun u => (readKeyword? betweenLetters u).any fun rest =>
    !rest.isEmpty && rest.all isBlank

/-- The text is what stands between the bounds of a range: `and` between blanks. -/
def isRangeMiddle (t : Text) : Bool :=
  ((readGap? t).bind fun r => Text.readFolded? andLetters r.2).any fun r =>
    !r.2.isEmpty && r.2.all isBlank

/-- A value that no scan takes for a piece of a clause. -/
structure Text.IsInert (value : Text) : Prop where
  unquoted : quoteMark ∉ value
  unclosed : ')' ∉ value
  list : beginsList value = false
  range : endsInRangeLead value = false
  middle : isRangeMiddle value = false

theorem readKeyword?_eq_some_iff (keyword : Text) {t rest : Text}
    (hkeyword : keyword.all Char.isLower = true) (hne : keyword ≠ []) :
    readKeyword? keyword t = some rest ↔ ∃ (column : Column) (gap word : Text),
      column.WellFormed ∧ IsGap gap ∧ SameLetters keyword word ∧
        t = column.text ++ (gap ++ (word ++ rest)) := by
  constructor
  · intro h
    simp only [readKeyword?, Option.bind_eq_bind, Option.bind_eq_some_iff, Prod.exists,
      Option.some.injEq] at h
    obtain ⟨column, t₁, hcolumn, gap, t₂, hgap, word, t₃, hword, rfl⟩ := h
    obtain ⟨rfl, isColumn, -, -⟩ := Column.read?_eq_some_iff.mp hcolumn
    obtain ⟨rfl, isGap, -⟩ := readGap?_eq_some_iff.mp hgap
    obtain ⟨rfl, isWord⟩ := Text.readFolded?_eq_some_iff.mp hword
    exact ⟨column, gap, word, isColumn, isGap, isWord, rfl⟩
  · rintro ⟨column, gap, word, hcolumn, hgap, hword, rfl⟩
    have hread := hcolumn.read?_append_gap hgap (word ++ rest)
    have hreadGap : readGap? (gap ++ (word ++ rest)) = some (gap, word ++ rest) :=
      readGap?_eq_some_iff.mpr ⟨rfl, hgap, (hword.isName hkeyword hne).stopsAt_isBlank rest⟩
    have hreadWord : Text.readFolded? keyword (word ++ rest) = some (word, rest) :=
      Text.readFolded?_eq_some_iff.mpr ⟨rfl, hword⟩
    simp only [readKeyword?, hread, hreadGap, hreadWord, Option.bind_eq_bind, Option.bind_some]

theorem isGap_iff {t : Text} : (!t.isEmpty && t.all isBlank) = true ↔ IsGap t := by
  rw [Bool.and_eq_true, Bool.not_eq_true', List.isEmpty_eq_false_iff, List.all_eq_true, IsGap,
    IsRun]

theorem any_tails_iff {t : Text} {p : Text → Bool} :
    t.tails.any p = true ↔ ∃ front u, t = front ++ u ∧ p u = true := by
  rw [List.any_eq_true]
  constructor
  · rintro ⟨u, hu, hp⟩
    obtain ⟨front, rfl⟩ := (List.mem_tails u t).mp hu
    exact ⟨front, u, rfl, hp⟩
  · rintro ⟨front, u, rfl, hp⟩
    exact ⟨u, (List.mem_tails u _).mpr (List.suffix_append front u), hp⟩

theorem beginsList_iff {t : Text} :
    beginsList t = true ↔ ∃ (front : Text) (column : Column) (gap word blanks tail : Text),
      column.WellFormed ∧ IsGap gap ∧ SameLetters inLetters word ∧ IsRun isBlank blanks ∧
        t = front ++ (column.text ++ (gap ++ (word ++ (blanks ++ '(' :: tail)))) := by
  simp only [beginsList, any_tails_iff, Option.any_eq_true, beq_iff_eq,
    readKeyword?_eq_some_iff inLetters (by decide) (by decide)]
  constructor
  · rintro ⟨front, _, rfl, rest, ⟨column, gap, word, hcolumn, hgap, hword, rfl⟩, hhead⟩
    obtain ⟨tail, htail⟩ := List.head?_eq_some_iff.mp hhead
    have hrest : rest.takeWhile isBlank ++ '(' :: tail = rest := by
      rw [← htail, List.takeWhile_append_dropWhile]
    exact ⟨front, column, gap, word, rest.takeWhile isBlank, tail, hcolumn, hgap, hword,
      isRun_takeWhile isBlank rest, by rw [hrest]⟩
  · rintro ⟨front, column, gap, word, blanks, tail, hcolumn, hgap, hword, hblanks, rfl⟩
    have hparen : StopsAt isBlank ('(' :: tail) := StopsAt.cons (by decide) tail
    refine ⟨front, _, rfl, _, ⟨column, gap, word, hcolumn, hgap, hword, rfl⟩, ?_⟩
    rw [dropWhile_append_of_stopsAt hblanks hparen, List.head?_cons]

theorem endsInRangeLead_iff {t : Text} :
    endsInRangeLead t = true ↔ ∃ (front : Text) (column : Column) (gap word gap' : Text),
      column.WellFormed ∧ IsGap gap ∧ SameLetters betweenLetters word ∧ IsGap gap' ∧
        t = front ++ (column.text ++ (gap ++ (word ++ gap'))) := by
  simp only [endsInRangeLead, any_tails_iff, Option.any_eq_true, isGap_iff,
    readKeyword?_eq_some_iff betweenLetters (by decide) (by decide)]
  constructor
  · rintro ⟨front, _, rfl, gap', ⟨column, gap, word, hcolumn, hgap, hword, rfl⟩, hgap'⟩
    exact ⟨front, column, gap, word, gap', hcolumn, hgap, hword, hgap', rfl⟩
  · rintro ⟨front, column, gap, word, gap', hcolumn, hgap, hword, hgap', rfl⟩
    exact ⟨front, _, rfl, gap', ⟨column, gap, word, hcolumn, hgap, hword, rfl⟩, hgap'⟩

theorem isRangeMiddle_iff {t : Text} :
    isRangeMiddle t = true ↔ ∃ gap word gap' : Text,
      IsGap gap ∧ SameLetters andLetters word ∧ IsGap gap' ∧ t = gap ++ (word ++ gap') := by
  simp only [isRangeMiddle, Option.any_eq_true, Option.bind_eq_some_iff, isGap_iff, Prod.exists,
    Text.readFolded?_eq_some_iff, readGap?_eq_some_iff]
  constructor
  · rintro ⟨word, gap', ⟨gap, _, ⟨rfl, hgap, -⟩, rfl, hword⟩, hgap'⟩
    exact ⟨gap, word, gap', hgap, hword, hgap', rfl⟩
  · rintro ⟨gap, word, gap', hgap, hword, hgap', rfl⟩
    have hstop : StopsAt isBlank (word ++ gap') :=
      (hword.isName (by decide) (by decide)).stopsAt_isBlank gap'
    exact ⟨word, gap', ⟨gap, word ++ gap', ⟨rfl, hgap, hstop⟩, rfl, hword⟩, hgap'⟩

theorem ListClause.WellFormed.beginsList_append {c : ListClause} (hc : c.WellFormed)
    (front tail : Text) : beginsList (front ++ (c.lead ++ '(' :: tail)) = true :=
  beginsList_iff.mpr ⟨front, c.column, c.gap₁, c.inWord, c.gap₂, tail, hc.column, hc.gap₁,
    hc.inWord, hc.gap₂, by simp [ListClause.lead]⟩

theorem RangeClause.WellFormed.endsInRangeLead_append {c : RangeClause} (hc : c.WellFormed)
    (front : Text) : endsInRangeLead (front ++ c.lead) = true :=
  endsInRangeLead_iff.mpr ⟨front, c.column, c.gap₁, c.betweenWord, c.gap₂, hc.column, hc.gap₁,
    hc.betweenWord, hc.gap₂, by simp [RangeClause.lead]⟩

theorem RangeClause.WellFormed.isRangeMiddle_middle {c : RangeClause} (hc : c.WellFormed) :
    isRangeMiddle c.middle = true :=
  isRangeMiddle_iff.mpr ⟨c.gap₃, c.andWord, c.gap₄, hc.gap₃, hc.andWord, hc.gap₄,
    by simp [RangeClause.middle]⟩

theorem IsTrimmed.isRangeMiddle {value : Text} (h : IsTrimmed value) :
    isRangeMiddle value = false := by
  by_contra hmiddle
  obtain ⟨gap, word, gap', hgap, -, -, hvalue⟩ :=
    isRangeMiddle_iff.mp (Bool.not_eq_false _ ▸ hmiddle)
  exact h.ne_gap_append hgap _ hvalue

theorem IsTrimmed.endsInRangeLead {value : Text} (h : IsTrimmed value) :
    endsInRangeLead value = false := by
  by_contra hlead
  obtain ⟨front, column, gap, word, gap', -, -, -, hgap', hvalue⟩ :=
    endsInRangeLead_iff.mp (Bool.not_eq_false _ ▸ hlead)
  apply h.2
  rw [hvalue, ← List.append_assoc, ← List.append_assoc, ← List.append_assoc]
  exact hgap'.endsBlank_append _

theorem IsTrimmed.isInert {value : Text} (h : IsTrimmed value) (hquote : quoteMark ∉ value)
    (hopen : '(' ∉ value) (hclose : ')' ∉ value) : value.IsInert where
  unquoted := hquote
  unclosed := hclose
  list := by
    by_contra hlist
    obtain ⟨front, column, gap, word, blanks, tail, -, -, -, -, hvalue⟩ :=
      beginsList_iff.mp (Bool.not_eq_false _ ▸ hlist)
    exact hopen (by simp [hvalue])
  range := h.endsInRangeLead
  middle := h.isRangeMiddle

end SqlSnippet
