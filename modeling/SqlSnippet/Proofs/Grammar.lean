import SqlSnippet.Proofs.Parts

/-!
# The grammar of clauses

A clause is well formed when each of its parts is of the kind that its place asks for.
Reading a clause off the front of a text succeeds exactly when the text begins with a
well-formed clause, and it gives that very clause.  A range and a list need nothing of
what follows them; a comparison takes along the blanks behind its literal, and a
parenthesis if one follows them.
-/

namespace SqlSnippet

open Chars

theorem isBlank_eq_false_of_isWord {c : Char} (h : isWord c = true) : isBlank c = false := by
  cases hb : isBlank c with
  | false => rfl
  | true => exact absurd h (by simp [isWord_eq_false_of_isBlank hb])

theorem StopsAt.of_isRun {p q : Char → Bool} (hpq : ∀ c, q c = true → p c = false)
    {run : Text} (hne : run ≠ []) (hrun : IsRun q run) (rest : Text) :
    StopsAt p (run ++ rest) := by
  cases run with
  | nil => exact absurd rfl hne
  | cons c run => exact StopsAt.cons (hpq c (hrun c (by simp))) (run ++ rest)

theorem IsGap.stopsAt_isWord {gap : Text} (h : IsGap gap) (rest : Text) :
    StopsAt isWord (gap ++ rest) :=
  StopsAt.of_isRun (fun _ => isWord_eq_false_of_isBlank) h.1 h.2 rest

theorem IsName.stopsAt_isBlank {name : Text} (h : IsName name) (rest : Text) :
    StopsAt isBlank (name ++ rest) :=
  StopsAt.of_isRun (fun _ => isBlank_eq_false_of_isWord) h.1 h.2 rest

theorem stopsAt_isBlank_enclosed (value rest : Text) :
    StopsAt isBlank (value.enclosed ++ rest) :=
  StopsAt.cons (by decide) _

theorem SameLetters.isName {word read : Text} (h : SameLetters word read)
    (hword : word.all Char.isLower = true) (hne : word ≠ []) : IsName read :=
  ⟨h.ne_nil hne, h.isRun_isWord hword⟩

/-- The names of a column are made of word characters. -/
structure Column.WellFormed (c : Column) : Prop where
  name : IsName c.name
  qualifier : ∀ table ∈ c.qualifier, IsName table

theorem Column.read?_eq_some_iff {t rest : Text} {c : Column} :
    Column.read? t = some (c, rest) ↔
      t = c.text ++ rest ∧ c.WellFormed ∧ StopsAt isWord rest ∧
        (c.qualifier = none → rest.head? ≠ some '.') := by
  constructor
  · intro h
    rw [Column.read?, Option.bind_eq_bind, Option.bind_eq_some_iff] at h
    obtain ⟨⟨first, behind⟩, hfirst, h⟩ := h
    obtain ⟨rfl, hname, hstop⟩ := readWord?_eq_some_iff.mp hfirst
    dsimp only at h
    split at h
    next behind =>
      rw [Option.bind_eq_some_iff] at h
      obtain ⟨⟨second, after⟩, hsecond, h⟩ := h
      obtain ⟨rfl, hname', hstop'⟩ := readWord?_eq_some_iff.mp hsecond
      obtain ⟨rfl, rfl⟩ := Prod.mk.inj (Option.some.inj h)
      refine ⟨by simp [Column.text], ⟨hname', ?_⟩, hstop', by simp⟩
      rintro table ⟨rfl⟩
      exact hname
    next hpoint =>
      obtain ⟨rfl, rfl⟩ := Prod.mk.inj (Option.some.inj h)
      refine ⟨rfl, ⟨hname, by simp⟩, hstop, fun _ hhead => ?_⟩
      obtain ⟨tail, htail⟩ := List.head?_eq_some_iff.mp hhead
      exact hpoint tail htail
  · rintro ⟨rfl, hc, hstop, hpoint⟩
    rcases c with ⟨_ | table, name⟩
    · have hname : readWord? (name ++ rest) = some (name, rest) :=
        readWord?_eq_some_iff.mpr ⟨rfl, hc.name, hstop⟩
      simp only [Column.text, Column.read?, hname, Option.bind_eq_bind, Option.bind_some]
      split
      next tail => exact absurd rfl (hpoint rfl)
      next => rfl
    · have htable : readWord? (table ++ '.' :: (name ++ rest)) =
          some (table, '.' :: (name ++ rest)) :=
        readWord?_eq_some_iff.mpr ⟨rfl, hc.qualifier table rfl, StopsAt.cons (by decide) _⟩
      have hname : readWord? (name ++ rest) = some (name, rest) :=
        readWord?_eq_some_iff.mpr ⟨rfl, hc.name, hstop⟩
      simp [Column.text, Column.read?, htable, hname]

theorem Column.WellFormed.read?_append_gap {c : Column} (hc : c.WellFormed) {gap : Text}
    (hgap : IsGap gap) (rest : Text) :
    Column.read? (c.text ++ (gap ++ rest)) = some (c, gap ++ rest) := by
  refine Column.read?_eq_some_iff.mpr ⟨rfl, hc, hgap.stopsAt_isWord rest, fun _ hhead => ?_⟩
  obtain ⟨b, gap', rfl⟩ := List.exists_cons_of_ne_nil hgap.1
  have hb : isBlank b = true := hgap.2 b (by simp)
  have hpoint : b = '.' := by simpa using hhead
  rw [hpoint] at hb
  exact absurd hb (by decide)

/-! ## Ranges -/

/-- The letters of the keyword `between`. -/
abbrev betweenLetters : Text := ['b', 'e', 't', 'w', 'e', 'e', 'n']

/-- The letters of the keyword `and`. -/
abbrev andLetters : Text := ['a', 'n', 'd']

structure RangeClause.WellFormed (c : RangeClause) : Prop where
  column : c.column.WellFormed
  gap₁ : IsGap c.gap₁
  betweenWord : SameLetters betweenLetters c.betweenWord
  gap₂ : IsGap c.gap₂
  low : quoteMark ∉ c.low ∧ c.low ≠ []
  gap₃ : IsGap c.gap₃
  andWord : SameLetters andLetters c.andWord
  gap₄ : IsGap c.gap₄
  high : quoteMark ∉ c.high ∧ c.high ≠ []

theorem RangeClause.WellFormed.isName_betweenWord {c : RangeClause} (hc : c.WellFormed) :
    IsName c.betweenWord :=
  hc.betweenWord.isName (by decide) (by decide)

theorem RangeClause.WellFormed.isName_andWord {c : RangeClause} (hc : c.WellFormed) :
    IsName c.andWord :=
  hc.andWord.isName (by decide) (by decide)

theorem RangeClause.WellFormed.read?_text_append {c : RangeClause} (hc : c.WellFormed)
    (rest : Text) : RangeClause.read? (c.text ++ rest) = some (c, rest) := by
  let afterHigh := c.high.enclosed ++ rest
  let afterAnd := c.gap₄ ++ afterHigh
  let afterLow := c.gap₃ ++ (c.andWord ++ afterAnd)
  let afterBetween := c.gap₂ ++ (c.low.enclosed ++ afterLow)
  have htext : c.text ++ rest =
      c.column.text ++ (c.gap₁ ++ (c.betweenWord ++ afterBetween)) := by
    simp [RangeClause.text, RangeClause.lowerText, RangeClause.upperText, RangeClause.lead,
      RangeClause.middle, afterBetween, afterLow, afterAnd, afterHigh]
  have hcolumn := hc.column.read?_append_gap hc.gap₁ (c.betweenWord ++ afterBetween)
  have hgap₁ : readGap? (c.gap₁ ++ (c.betweenWord ++ afterBetween)) =
      some (c.gap₁, c.betweenWord ++ afterBetween) :=
    readGap?_eq_some_iff.mpr ⟨rfl, hc.gap₁, hc.isName_betweenWord.stopsAt_isBlank _⟩
  have hbetween : Text.readFolded? betweenLetters (c.betweenWord ++ afterBetween) =
      some (c.betweenWord, afterBetween) :=
    Text.readFolded?_eq_some_iff.mpr ⟨rfl, hc.betweenWord⟩
  have hgap₂ : readGap? afterBetween = some (c.gap₂, c.low.enclosed ++ afterLow) :=
    readGap?_eq_some_iff.mpr ⟨rfl, hc.gap₂, stopsAt_isBlank_enclosed _ _⟩
  have hlow : readFullLiteral? (c.low.enclosed ++ afterLow) = some (c.low, afterLow) :=
    readFullLiteral?_eq_some_iff.mpr ⟨rfl, hc.low⟩
  have hgap₃ : readGap? afterLow = some (c.gap₃, c.andWord ++ afterAnd) :=
    readGap?_eq_some_iff.mpr ⟨rfl, hc.gap₃, hc.isName_andWord.stopsAt_isBlank _⟩
  have hand : Text.readFolded? andLetters (c.andWord ++ afterAnd) =
      some (c.andWord, afterAnd) :=
    Text.readFolded?_eq_some_iff.mpr ⟨rfl, hc.andWord⟩
  have hgap₄ : readGap? afterAnd = some (c.gap₄, afterHigh) :=
    readGap?_eq_some_iff.mpr ⟨rfl, hc.gap₄, stopsAt_isBlank_enclosed _ _⟩
  have hhigh : readFullLiteral? afterHigh = some (c.high, rest) :=
    readFullLiteral?_eq_some_iff.mpr ⟨rfl, hc.high⟩
  simp only [RangeClause.read?, htext, hcolumn, hgap₁, hbetween, hgap₂, hlow, hgap₃, hand,
    hgap₄, hhigh, Option.bind_eq_bind, Option.bind_some]

/-- A range is read exactly where a well-formed one stands. -/
theorem RangeClause.read?_eq_some_iff {t rest : Text} {c : RangeClause} :
    RangeClause.read? t = some (c, rest) ↔ t = c.text ++ rest ∧ c.WellFormed := by
  constructor
  · intro h
    simp only [RangeClause.read?, Option.bind_eq_bind, Option.bind_eq_some_iff, Prod.exists,
      Option.some.injEq, Prod.mk.injEq] at h
    obtain ⟨column, t₁, hcolumn, gap₁, t₂, hgap₁, betweenWord, t₃, hbetween, gap₂, t₄, hgap₂,
      low, t₅, hlow, gap₃, t₆, hgap₃, andWord, t₇, hand, gap₄, t₈, hgap₄, high, t₉, hhigh,
      rfl, rfl⟩ := h
    obtain ⟨rfl, isColumn, -, -⟩ := Column.read?_eq_some_iff.mp hcolumn
    obtain ⟨rfl, isGap₁, -⟩ := readGap?_eq_some_iff.mp hgap₁
    obtain ⟨rfl, isBetween⟩ := Text.readFolded?_eq_some_iff.mp hbetween
    obtain ⟨rfl, isGap₂, -⟩ := readGap?_eq_some_iff.mp hgap₂
    obtain ⟨rfl, isLow⟩ := readFullLiteral?_eq_some_iff.mp hlow
    obtain ⟨rfl, isGap₃, -⟩ := readGap?_eq_some_iff.mp hgap₃
    obtain ⟨rfl, isAnd⟩ := Text.readFolded?_eq_some_iff.mp hand
    obtain ⟨rfl, isGap₄, -⟩ := readGap?_eq_some_iff.mp hgap₄
    obtain ⟨rfl, isHigh⟩ := readFullLiteral?_eq_some_iff.mp hhigh
    refine ⟨?_, isColumn, isGap₁, isBetween, isGap₂, isLow, isGap₃, isAnd, isGap₄, isHigh⟩
    simp [RangeClause.text, RangeClause.lowerText, RangeClause.upperText, RangeClause.lead,
      RangeClause.middle]
  · rintro ⟨rfl, hc⟩
    exact hc.read?_text_append rest

/-- The letters of the keyword `in`. -/
abbrev inLetters : Text := ['i', 'n']

structure ListClause.WellFormed (c : ListClause) : Prop where
  column : c.column.WellFormed
  gap₁ : IsGap c.gap₁
  inWord : SameLetters inLetters c.inWord
  gap₂ : IsRun isBlank c.gap₂
  body : ')' ∉ c.body ∧ c.body ≠ []

theorem ListClause.WellFormed.isName_inWord {c : ListClause} (hc : c.WellFormed) :
    IsName c.inWord :=
  hc.inWord.isName (by decide) (by decide)

theorem ListClause.WellFormed.read?_text_append {c : ListClause} (hc : c.WellFormed)
    (rest : Text) : ListClause.read? (c.text ++ rest) = some (c, rest) := by
  let afterGap := '(' :: (c.body ++ ')' :: rest)
  let afterIn := c.gap₂ ++ afterGap
  have htext : c.text ++ rest = c.column.text ++ (c.gap₁ ++ (c.inWord ++ afterIn)) := by
    simp [ListClause.text, ListClause.lead, afterIn, afterGap]
  have hcolumn := hc.column.read?_append_gap hc.gap₁ (c.inWord ++ afterIn)
  have hgap₁ : readGap? (c.gap₁ ++ (c.inWord ++ afterIn)) =
      some (c.gap₁, c.inWord ++ afterIn) :=
    readGap?_eq_some_iff.mpr ⟨rfl, hc.gap₁, hc.isName_inWord.stopsAt_isBlank _⟩
  have hin : Text.readFolded? inLetters (c.inWord ++ afterIn) = some (c.inWord, afterIn) :=
    Text.readFolded?_eq_some_iff.mpr ⟨rfl, hc.inWord⟩
  obtain ⟨hgap₂, hdrop⟩ := span_eq_iff.mpr
    ⟨(rfl : afterIn = c.gap₂ ++ afterGap), hc.gap₂, StopsAt.cons (by decide) _⟩
  have hbody : readBody? afterGap = some (c.body, rest) :=
    readBody?_eq_some_iff.mpr ⟨rfl, hc.body.1⟩
  simp [ListClause.read?, htext, hcolumn, hgap₁, hin, hgap₂, hdrop, hbody, hc.body.2,
    Option.filter]

/-- A list is read exactly where a well-formed one stands. -/
theorem ListClause.read?_eq_some_iff {t rest : Text} {c : ListClause} :
    ListClause.read? t = some (c, rest) ↔ t = c.text ++ rest ∧ c.WellFormed := by
  constructor
  · intro h
    simp only [ListClause.read?, Option.bind_eq_bind, Option.bind_eq_some_iff, Prod.exists,
      Option.some.injEq, Prod.mk.injEq, Option.filter_eq_some_iff] at h
    obtain ⟨column, t₁, hcolumn, gap₁, t₂, hgap₁, inWord, t₃, hin, body, t₄, ⟨hbody, hne⟩,
      rfl, rfl⟩ := h
    obtain ⟨rfl, isColumn, -, -⟩ := Column.read?_eq_some_iff.mp hcolumn
    obtain ⟨rfl, isGap₁, -⟩ := readGap?_eq_some_iff.mp hgap₁
    obtain ⟨rfl, isIn⟩ := Text.readFolded?_eq_some_iff.mp hin
    obtain ⟨hdrop, isBody⟩ := readBody?_eq_some_iff.mp hbody
    have isGap₂ := isRun_takeWhile isBlank t₃
    have ht₃ : t₃.takeWhile isBlank ++ t₃.dropWhile isBlank = t₃ :=
      List.takeWhile_append_dropWhile
    refine ⟨?_, isColumn, isGap₁, isIn, isGap₂, isBody, by simpa using hne⟩
    rw [hdrop] at ht₃
    conv_lhs => rw [← ht₃]
    simp [ListClause.text, ListClause.lead]
  · rintro ⟨rfl, hc⟩
    exact hc.read?_text_append rest

/-! ## Comparisons -/

/-- The letters of the keyword `like`. -/
abbrev likeLetters : Text := ['l', 'i', 'k', 'e']

/-- The sign of equality, or `like`. -/
def IsOperator (operator : Text) : Prop :=
  operator = ['='] ∨ SameLetters likeLetters operator

/-- Blanks with at most one opening parenthesis among them. -/
def IsOpening (opening : Text) : Prop :=
  ∃ before after, IsRun isBlank before ∧ IsRun isBlank after ∧
    (opening = before ∨ opening = before ++ '(' :: after)

theorem isName_of_sameLetters_like {operator : Text} (h : SameLetters likeLetters operator) :
    IsName operator :=
  h.isName (by decide) (by decide)

theorem IsOperator.stopsAt_isBlank {operator : Text} (h : IsOperator operator)
    (rest : Text) : StopsAt isBlank (operator ++ rest) := by
  rcases h with rfl | h
  · exact StopsAt.cons (by decide) rest
  · exact (isName_of_sameLetters_like h).stopsAt_isBlank rest

theorem readOperator?_eq_some_iff {t operator rest : Text} :
    readOperator? t = some (operator, rest) ↔ t = operator ++ rest ∧ IsOperator operator := by
  unfold readOperator?
  split
  next t =>
    rw [Option.some.injEq, Prod.mk.injEq]
    constructor
    · rintro ⟨rfl, rfl⟩
      exact ⟨rfl, Or.inl rfl⟩
    · rintro ⟨heq, rfl | hlike⟩
      · exact ⟨rfl, (List.cons.inj heq).2⟩
      · obtain ⟨c, tail, rfl⟩ := List.exists_cons_of_ne_nil (hlike.ne_nil (by decide))
        have hword := (isName_of_sameLetters_like hlike).2 c (by simp)
        rw [← (List.cons.inj heq).1] at hword
        exact absurd hword (by decide)
  next hno =>
    rw [Text.readFolded?_eq_some_iff]
    refine and_congr_right fun heq => ⟨Or.inr, ?_⟩
    rintro (rfl | hlike)
    · exact absurd heq (hno rest)
    · exact hlike

theorem readOpening_append (t : Text) : (readOpening t).1 ++ (readOpening t).2 = t := by
  have ht : t.takeWhile isBlank ++ t.dropWhile isBlank = t :=
    List.takeWhile_append_dropWhile
  unfold readOpening
  split
  next rest hrest =>
    rw [hrest] at ht
    simpa using ht
  next => exact ht

theorem isOpening_readOpening (t : Text) : IsOpening (readOpening t).1 := by
  unfold readOpening
  split
  next rest _ =>
    exact ⟨_, _, isRun_takeWhile isBlank t, isRun_takeWhile isBlank rest, Or.inr rfl⟩
  next => exact ⟨_, [], isRun_takeWhile isBlank t, by simp [IsRun], Or.inl rfl⟩

theorem IsOpening.readOpening_append_enclosed {opening : Text} (h : IsOpening opening)
    (value after : Text) :
    readOpening (opening ++ (value.enclosed ++ after)) =
      (opening, value.enclosed ++ after) := by
  have hquote := stopsAt_isBlank_enclosed value after
  obtain ⟨before, inside, hbefore, hinside, rfl | rfl⟩ := h
  · rw [readOpening, dropWhile_append_of_stopsAt hbefore hquote,
      takeWhile_append_of_stopsAt hbefore hquote]
    rfl
  · have hparen : StopsAt isBlank ('(' :: (inside ++ (value.enclosed ++ after))) :=
      StopsAt.cons (by decide) _
    rw [List.append_assoc, List.cons_append, readOpening,
      dropWhile_append_of_stopsAt hbefore hparen, takeWhile_append_of_stopsAt hbefore hparen]
    simp only [dropWhile_append_of_stopsAt hinside hquote,
      takeWhile_append_of_stopsAt hinside hquote]

/-- A character with which a closing would go on. -/
def isClosingChar (c : Char) : Bool := isBlank c || c == ')'

theorem isClosingChar_iff {c : Char} :
    isClosingChar c = true ↔ isBlank c = true ∨ c = ')' := by
  rw [isClosingChar, Bool.or_eq_true, beq_iff_eq]

theorem isClosingChar_of_isBlank {c : Char} (h : isBlank c = true) : isClosingChar c = true :=
  isClosingChar_iff.mpr (Or.inl h)

theorem isWord_eq_false_of_isClosingChar {c : Char} (h : isClosingChar c = true) :
    isWord c = false := by
  rcases isClosingChar_iff.mp h with hblank | rfl
  · exact isWord_eq_false_of_isBlank hblank
  · decide

/-- Blanks and a parenthesis behind them, or blanks that neither another blank nor a
parenthesis follows. -/
def IsClosing (closing rest : Text) : Prop :=
  (∃ blanks, IsRun isBlank blanks ∧ closing = blanks ++ [')']) ∨
    (IsRun isBlank closing ∧ StopsAt isClosingChar rest)

theorem readClosing_eq_iff {t closing rest : Text} :
    readClosing t = (closing, rest) ↔ t = closing ++ rest ∧ IsClosing closing rest := by
  constructor
  · intro h
    have ht : t.takeWhile isBlank ++ t.dropWhile isBlank = t :=
      List.takeWhile_append_dropWhile
    have hrun := isRun_takeWhile isBlank t
    have hstop := stopsAt_dropWhile isBlank t
    unfold readClosing at h
    split at h
    next behind hbehind =>
      obtain ⟨rfl, rfl⟩ := Prod.mk.inj h
      rw [hbehind] at ht
      exact ⟨by simpa using ht.symm, Or.inl ⟨_, hrun, rfl⟩⟩
    next hno =>
      obtain ⟨rfl, rfl⟩ := Prod.mk.inj h
      refine ⟨ht.symm, Or.inr ⟨hrun, fun c hc => ?_⟩⟩
      obtain ⟨tail, htail⟩ := List.head?_eq_some_iff.mp hc
      have hparen : c ≠ ')' := by
        rintro rfl
        exact hno tail htail
      simpa [isClosingChar, hparen] using hstop c hc
  · rintro ⟨rfl, ⟨blanks, hblanks, rfl⟩ | ⟨hrun, hstop⟩⟩
    · have hparen : StopsAt isBlank (')' :: rest) := StopsAt.cons (by decide) rest
      rw [List.append_assoc, List.singleton_append, readClosing,
        dropWhile_append_of_stopsAt hblanks hparen, takeWhile_append_of_stopsAt hblanks hparen]
      rfl
    · have hblank : StopsAt isBlank rest := by
        intro c hc
        have := hstop c hc
        simp only [isClosingChar, Bool.or_eq_false_iff] at this
        exact this.1
      rw [readClosing, dropWhile_append_of_stopsAt hrun hblank,
        takeWhile_append_of_stopsAt hrun hblank]
      split
      next => exact absurd (hstop ')' rfl) (by decide)
      next => rfl

theorem exists_isClosing (t : Text) :
    ∃ closing rest, t = closing ++ rest ∧ IsClosing closing rest :=
  ⟨_, _, readClosing_eq_iff.mp rfl⟩

/-- All parts of a comparison up to its literal are of the right kind. -/
structure Comparison.WellFormed (c : Comparison) : Prop where
  column : c.column.WellFormed
  gap : IsRun isBlank c.gap
  operator : IsOperator c.operator
  opening : IsOpening c.opening
  value : quoteMark ∉ c.value

theorem Comparison.readAfter?_eq_some_iff {column : Column} {gap operator t rest : Text}
    {c : Comparison} :
    Comparison.readAfter? column gap operator t = some (c, rest) ↔
      (c.column = column ∧ c.gap = gap ∧ c.operator = operator) ∧
        ∃ after, t = c.opening ++ (c.value.enclosed ++ after) ∧ IsOpening c.opening ∧
          quoteMark ∉ c.value ∧ readClosing after = (c.closing, rest) := by
  constructor
  · intro h
    simp only [Comparison.readAfter?, Option.bind_eq_bind, Option.bind_eq_some_iff,
      Prod.exists, Option.some.injEq, Prod.mk.injEq] at h
    obtain ⟨value, after, hvalue, rfl, rfl⟩ := h
    obtain ⟨hafter, hvalue⟩ := readLiteral?_eq_some_iff.mp hvalue
    refine ⟨⟨rfl, rfl, rfl⟩, after, ?_, isOpening_readOpening t, hvalue, rfl⟩
    conv_lhs => rw [← readOpening_append t, hafter]
  · rintro ⟨⟨rfl, rfl, rfl⟩, after, rfl, hopening, hvalue, hclosing⟩
    have hliteral : readLiteral? (c.value.enclosed ++ after) = some (c.value, after) :=
      readLiteral?_eq_some_iff.mpr ⟨rfl, hvalue⟩
    simp [Comparison.readAfter?, hopening.readOpening_append_enclosed, hliteral, hclosing]

/-- A column that has grown together with its `like`. -/
theorem Column.cutLike?_eq_some_iff {column c : Column} {operator : Text} :
    column.cutLike? = some (c, operator) ↔
      column = ⟨c.qualifier, c.name ++ operator⟩ ∧ c.name ≠ [] ∧
        SameLetters likeLetters operator := by
  constructor
  · intro h
    simp only [Column.cutLike?, Option.ite_none_right_eq_some, Option.map_eq_some_iff,
      Prod.exists, Prod.mk.injEq] at h
    obtain ⟨hlong, read, rest, hread, rfl, rfl⟩ := h
    obtain ⟨hdrop, hlike⟩ := Text.readFolded?_eq_some_iff.mp hread
    have hlength := congrArg List.length hdrop
    rw [List.length_drop, List.length_append, ← hlike.length_eq] at hlength
    have hrest : rest = [] := by
      apply List.eq_nil_of_length_eq_zero
      simp only [List.length_cons, List.length_nil] at hlength
      omega
    rw [hrest, List.append_nil] at hdrop
    refine ⟨?_, ?_, hlike⟩
    · rcases column with ⟨qualifier, name⟩
      rw [← hdrop, List.take_append_drop]
    · intro hnil
      have := congrArg List.length hnil
      simp only [List.length_take, List.length_nil] at this
      omega
  · rintro ⟨rfl, hne, hlike⟩
    have hlength : operator.length = 4 := hlike.length_eq.symm
    have hlong : 4 < (c.name ++ operator).length := by
      have := List.length_pos_of_ne_nil hne
      rw [List.length_append]
      omega
    have hread : Text.readFolded? likeLetters operator = some (operator, []) :=
      Text.readFolded?_eq_some_iff.mpr ⟨(List.append_nil operator).symm, hlike⟩
    have hsize : (c.name ++ operator).length - 4 = c.name.length := by
      rw [List.length_append, hlength, Nat.add_sub_cancel]
    simp only [Column.cutLike?, if_pos hlong, hsize, List.drop_left, List.take_left, hread,
      Option.map_some]

theorem Column.text_cut (c : Column) (operator : Text) :
    (Column.mk c.qualifier (c.name ++ operator)).text = c.text ++ operator := by
  rcases c with ⟨_ | table, name⟩ <;> simp [Column.text]

/-- The text of a comparison up to its literal begins with a well-formed column. -/
private theorem Comparison.lead_append (c : Comparison) (rest : Text) :
    c.lead ++ rest = c.column.text ++ (c.gap ++ (c.operator ++ (c.opening ++ rest))) := by
  simp [Comparison.lead]

/-- With the column and the operator apart, the gap and the operator are read off what
follows the column. -/
private theorem Comparison.read?_of_apart {c : Comparison} {after rest : Text}
    (hc : c.WellFormed)
    (happart : c.operator = ['='] ∨ c.gap ≠ [])
    (hclosing : readClosing after = (c.closing, rest)) :
    Comparison.read? (c.lead ++ (c.value.enclosed ++ after)) = some (c, rest) := by
  let behind := c.operator ++ (c.opening ++ (c.value.enclosed ++ after))
  have hcolumn : Column.read? (c.column.text ++ (c.gap ++ behind)) =
      some (c.column, c.gap ++ behind) := by
    by_cases hgap : c.gap = []
    · have heq : c.operator = ['='] := happart.resolve_right (fun hne => hne hgap)
      refine Column.read?_eq_some_iff.mpr ⟨rfl, hc.column, ?_, ?_⟩
      · simpa [behind, hgap, heq] using StopsAt.cons (p := isWord) (c := '=') (by decide) _
      · simp [behind, hgap, heq]
    · exact hc.column.read?_append_gap ⟨hgap, hc.gap⟩ behind
  obtain ⟨htake, hdrop⟩ := span_eq_iff.mpr
    ⟨(rfl : c.gap ++ behind = c.gap ++ behind), hc.gap, hc.operator.stopsAt_isBlank _⟩
  have hoperator : readOperator? behind =
      some (c.operator, c.opening ++ (c.value.enclosed ++ after)) :=
    readOperator?_eq_some_iff.mpr ⟨rfl, hc.operator⟩
  have hafter : Comparison.readAfter? c.column c.gap c.operator
      (c.opening ++ (c.value.enclosed ++ after)) = some (c, rest) :=
    Comparison.readAfter?_eq_some_iff.mpr
      ⟨⟨rfl, rfl, rfl⟩, after, rfl, hc.opening, hc.value, hclosing⟩
  rw [Comparison.lead_append]
  simp only [Comparison.read?, Option.bind_eq_bind, hcolumn, Option.bind_some, htake, hdrop,
    hoperator, hafter, behind]

theorem readOperator?_eq_none {c : Char} (hword : isWord c = false) (hsign : c ≠ '=')
    (t : Text) : readOperator? (c :: t) = none := by
  cases h : readOperator? (c :: t) with
  | none => rfl
  | some r =>
      obtain ⟨heq, hop | hlike⟩ := readOperator?_eq_some_iff.mp h
      · rw [hop] at heq
        exact absurd (List.cons.inj heq).1 hsign
      · obtain ⟨d, tail, hd⟩ := List.exists_cons_of_ne_nil (hlike.ne_nil (by decide))
        have hdword := (isName_of_sameLetters_like hlike).2 d (by simp [hd])
        rw [hd] at heq
        rw [← (List.cons.inj heq).1, hword] at hdword
        exact absurd hdword (by decide)

private theorem readOperator?_opening {opening : Text} (h : IsOpening opening)
    (value after : Text) :
    readOperator? ((opening ++ (value.enclosed ++ after)).dropWhile isBlank) = none := by
  obtain ⟨before, inside, hbefore, -, rfl | rfl⟩ := h
  · rw [dropWhile_append_of_stopsAt hbefore (stopsAt_isBlank_enclosed value after)]
    exact readOperator?_eq_none (by decide) (by decide) _
  · rw [List.append_assoc, List.cons_append,
      dropWhile_append_of_stopsAt hbefore (StopsAt.cons (by decide) _)]
    exact readOperator?_eq_none (by decide) (by decide) _

/-- What stands behind an operator goes on neither a word nor a qualified name. -/
private theorem IsOpening.exists_cons {opening : Text} (h : IsOpening opening)
    (value after : Text) :
    ∃ c tail, opening ++ (value.enclosed ++ after) = c :: tail ∧ isWord c = false ∧
      c ≠ '.' := by
  have hblank : ∀ b : Char, isBlank b = true → isWord b = false ∧ b ≠ '.' := by
    intro b hb
    refine ⟨isWord_eq_false_of_isBlank hb, ?_⟩
    rintro rfl
    exact absurd hb (by decide)
  obtain ⟨before, inside, hbefore, -, hopening⟩ := h
  cases before with
  | nil =>
      rcases hopening with rfl | rfl
      · exact ⟨_, _, rfl, by decide, by decide⟩
      · exact ⟨_, _, rfl, by decide, by decide⟩
  | cons b before =>
      have hb := hblank b (hbefore b (by simp))
      rcases hopening with rfl | rfl
      · exact ⟨_, _, rfl, hb⟩
      · exact ⟨_, _, rfl, hb⟩

/-- With the column and `like` grown together, the operator is cut off the column. -/
private theorem Comparison.read?_of_cut {c : Comparison} {after rest : Text}
    (hc : c.WellFormed) (hlike : SameLetters likeLetters c.operator) (hgap : c.gap = [])
    (hclosing : readClosing after = (c.closing, rest)) :
    Comparison.read? (c.lead ++ (c.value.enclosed ++ after)) = some (c, rest) := by
  let behind := c.opening ++ (c.value.enclosed ++ after)
  let grown : Column := ⟨c.column.qualifier, c.column.name ++ c.operator⟩
  have htext : c.lead ++ (c.value.enclosed ++ after) = grown.text ++ behind := by
    rw [Comparison.lead_append, hgap, List.nil_append, Column.text_cut, List.append_assoc]
  have hgrown : grown.WellFormed := by
    refine ⟨⟨by simp [grown, hc.column.name.1], fun ch hch => ?_⟩, hc.column.qualifier⟩
    rcases List.mem_append.mp hch with hch | hch
    · exact hc.column.name.2 ch hch
    · exact (isName_of_sameLetters_like hlike).2 ch hch
  have hcolumn : Column.read? (grown.text ++ behind) = some (grown, behind) := by
    obtain ⟨ch, tail, hbehind, hword, hpoint⟩ := hc.opening.exists_cons c.value after
    refine Column.read?_eq_some_iff.mpr ⟨rfl, hgrown, ?_, fun _ => ?_⟩
    · rw [show behind = ch :: tail from hbehind]
      exact StopsAt.cons hword tail
    · rw [show behind = ch :: tail from hbehind]
      simpa using hpoint
  have hapart : readOperator? (behind.dropWhile isBlank) = none :=
    readOperator?_opening hc.opening c.value after
  have hcut : grown.cutLike? = some (c.column, c.operator) :=
    Column.cutLike?_eq_some_iff.mpr ⟨rfl, hc.column.name.1, hlike⟩
  have hafter : Comparison.readAfter? c.column [] c.operator behind = some (c, rest) :=
    Comparison.readAfter?_eq_some_iff.mpr
      ⟨⟨rfl, hgap, rfl⟩, after, rfl, hc.opening, hc.value, hclosing⟩
  rw [htext]
  simp only [Comparison.read?, Option.bind_eq_bind, hcolumn, Option.bind_some, hapart,
    Option.bind_none, hcut, hafter]

private theorem Comparison.read?_eq_some_iff_readClosing {t rest : Text} {c : Comparison} :
    Comparison.read? t = some (c, rest) ↔
      ∃ after, t = c.lead ++ (c.value.enclosed ++ after) ∧ c.WellFormed ∧
        readClosing after = (c.closing, rest) := by
  constructor
  · intro h
    rw [Comparison.read?, Option.bind_eq_bind, Option.bind_eq_some_iff] at h
    obtain ⟨⟨column, behind⟩, hcolumn, h⟩ := h
    obtain ⟨rfl, isColumn, -, -⟩ := Column.read?_eq_some_iff.mp hcolumn
    dsimp only at h
    split at h
    next found happart =>
      obtain rfl := Option.some.inj h
      rw [Option.bind_eq_bind, Option.bind_eq_some_iff] at happart
      obtain ⟨⟨operator, tail⟩, hoperator, hafter⟩ := happart
      obtain ⟨hdrop, isOperator⟩ := readOperator?_eq_some_iff.mp hoperator
      obtain ⟨⟨rfl, hgap, rfl⟩, after, rfl, isOpening, isValue, hclosing⟩ :=
        Comparison.readAfter?_eq_some_iff.mp hafter
      have hbehind : behind.takeWhile isBlank ++ behind.dropWhile isBlank = behind :=
        List.takeWhile_append_dropWhile
      refine ⟨after, ?_, ⟨isColumn, ?_, isOperator, isOpening, isValue⟩, hclosing⟩
      · rw [Comparison.lead_append, ← hdrop, hgap, hbehind]
      · rw [hgap]
        exact isRun_takeWhile isBlank behind
    next =>
      rw [Option.bind_eq_some_iff] at h
      obtain ⟨⟨cut, operator⟩, hcut, hafter⟩ := h
      obtain ⟨rfl, hname, isLike⟩ := Column.cutLike?_eq_some_iff.mp hcut
      obtain ⟨⟨rfl, hgap, rfl⟩, after, rfl, isOpening, isValue, hclosing⟩ :=
        Comparison.readAfter?_eq_some_iff.mp hafter
      refine ⟨after, ?_, ⟨⟨⟨hname, ?_⟩, isColumn.qualifier⟩, ?_, Or.inr isLike, isOpening,
        isValue⟩, hclosing⟩
      · rw [Comparison.lead_append, hgap, List.nil_append, Column.text_cut, List.append_assoc]
      · exact fun ch hch => isColumn.name.2 ch (List.mem_append_left _ hch)
      · simp [IsRun, hgap]
  · rintro ⟨after, rfl, hc, hclosing⟩
    by_cases happart : c.operator = ['='] ∨ c.gap ≠ []
    · exact Comparison.read?_of_apart hc happart hclosing
    · rw [not_or, not_not] at happart
      exact Comparison.read?_of_cut hc (hc.operator.resolve_left happart.1) happart.2 hclosing

/-- A comparison is read exactly where a well-formed one stands that takes along all of
the closing behind its literal. -/
theorem Comparison.read?_eq_some_iff {t rest : Text} {c : Comparison} :
    Comparison.read? t = some (c, rest) ↔
      t = c.text ++ rest ∧ c.WellFormed ∧ IsClosing c.closing rest := by
  rw [Comparison.read?_eq_some_iff_readClosing]
  constructor
  · rintro ⟨after, rfl, hc, hclosing⟩
    obtain ⟨rfl, isClosing⟩ := readClosing_eq_iff.mp hclosing
    exact ⟨by simp [Comparison.text], hc, isClosing⟩
  · rintro ⟨rfl, hc, hclosing⟩
    exact ⟨c.closing ++ rest, by simp [Comparison.text], hc,
      readClosing_eq_iff.mpr ⟨rfl, hclosing⟩⟩

/-! ## The three forms together -/

/-- The forms of a clause. -/
inductive Form where
  | range
  | list
  | comparison
deriving DecidableEq, Repr

def Form.read? : Form → Text → Option (Clause × Text)
  | range, t => (RangeClause.read? t).map fun (c, rest) => (.range c, rest)
  | list, t => (ListClause.read? t).map fun (c, rest) => (.list c, rest)
  | comparison, t => (Comparison.read? t).map fun (c, rest) => (.comparison c, rest)

namespace Clause

def form : Clause → Form
  | range _ => .range
  | list _ => .list
  | comparison _ => .comparison

def WellFormed : Clause → Prop
  | range c => c.WellFormed
  | list c => c.WellFormed
  | comparison c => c.WellFormed

/-- The clause leaves nothing of the rest that it would have taken along. -/
def Closes : Clause → Text → Prop
  | range _, _ => True
  | list _, _ => True
  | comparison c, rest => IsClosing c.closing rest

end Clause

/-- Whatever its form, a clause is read exactly where it stands. -/
theorem Form.read?_eq_some_iff {f : Form} {t rest : Text} {c : Clause} :
    f.read? t = some (c, rest) ↔
      c.form = f ∧ t = c.text ++ rest ∧ c.WellFormed ∧ c.Closes rest := by
  cases f <;> cases c <;>
    simp [Form.read?, Clause.form, Clause.text, Clause.WellFormed, Clause.Closes,
      RangeClause.read?_eq_some_iff, ListClause.read?_eq_some_iff,
      Comparison.read?_eq_some_iff]

end SqlSnippet
