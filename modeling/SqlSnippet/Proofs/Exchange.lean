import SqlSnippet.Proofs.Values

/-!
# Reading a text in which a literal has been exchanged

When the literal behind some text is exchanged, a reader that starts before it finds the
same clause as before, or one that reached over the literal.  This holds because the new
literal can neither end a clause that its predecessor did not end, nor be taken for the text
between the two literals of a range.
-/

namespace SqlSnippet

open Chars

theorem RangeClause.WellFormed.endsBlank_lead {c : RangeClause} (hc : c.WellFormed) :
    EndsBlank c.lead :=
  hc.gap₂.endsBlank_append _

/-- A value that is not the word `and` between blanks does not stand between two literals. -/
theorem RangeClause.WellFormed.ne_middle {c : RangeClause} (hc : c.WellFormed) {value : Text}
    (hvalue : isRangeMiddle value = false) : value ≠ c.middle := by
  rintro rfl
  rw [hc.isRangeMiddle_middle] at hvalue
  cases hvalue

theorem RangeClause.upperText_append (c : RangeClause) (rest : Text) :
    c.upperText ++ rest = c.middle ++ quoteMark :: (c.high ++ quoteMark :: rest) := by
  simp [RangeClause.upperText, Text.enclosed]

theorem RangeClause.WellFormed.withLow {c : RangeClause} (hc : c.WellFormed) {low : Text}
    (hlow : quoteMark ∉ low ∧ low ≠ []) : RangeClause.WellFormed { c with low } :=
  ⟨hc.column, hc.gap₁, hc.betweenWord, hc.gap₂, hlow, hc.gap₃, hc.andWord, hc.gap₄, hc.high⟩

theorem RangeClause.WellFormed.withHigh {c : RangeClause} (hc : c.WellFormed) {high : Text}
    (hhigh : quoteMark ∉ high ∧ high ≠ []) : RangeClause.WellFormed { c with high } :=
  ⟨hc.column, hc.gap₁, hc.betweenWord, hc.gap₂, hc.low, hc.gap₃, hc.andWord, hc.gap₄, hhigh⟩

/-- A literal behind a cut is the first or the second literal of a range, or the range ends at
its opening quote or before, unless the literal is the word `and` between blanks. -/
theorem RangeClause.WellFormed.cut_literal {c : RangeClause} (hc : c.WellFormed)
    {front value behind rest : Text} (hclear : quoteMark ∉ value)
    (hvalue : isRangeMiddle value = false)
    (h : front ++ (value.enclosed ++ behind) = c.text ++ rest) :
    (front = c.lead ∧ value = c.low ∧ behind = c.upperText ++ rest) ∨
      (front = c.lowerText ++ c.middle ∧ value = c.high ∧ behind = rest) ∨
        ∃ tail, front ++ [quoteMark] = c.text ++ tail := by
  have hlead : quoteMark ∉ c.lead := hc.isRun_lead.notMem (by decide)
  have hmiddle : quoteMark ∉ c.middle := hc.isRun_middle.notMem (by decide)
  have h : front ++ quoteMark :: (value ++ quoteMark :: behind) = c.text ++ rest := by
    simpa [Text.enclosed] using h
  cases RangeClause.cut h with
  | lead y hfront hbehind =>
      obtain rfl := eq_nil_of_mark (notMem_of_eq_append hfront hlead).2 hbehind
      obtain ⟨hlow, hrest⟩ :=
        eq_of_append_mark_eq hclear hc.low.1 (List.cons.inj hbehind).2
      exact Or.inl ⟨by simpa using hfront.symm, hlow, hrest⟩
  | low x y hfront hlow hbehind =>
      obtain rfl := eq_nil_of_mark (notMem_of_eq_append hlow hc.low.1).2 hbehind
      have hbehind := (List.cons.inj hbehind).2
      rw [c.upperText_append] at hbehind
      exact absurd (eq_of_append_mark_eq hclear hmiddle hbehind).1 (hc.ne_middle hvalue)
  | middle x y hfront hxy hbehind =>
      obtain rfl := eq_nil_of_mark (notMem_of_eq_append hxy hmiddle).2 hbehind
      obtain ⟨hhigh, hrest⟩ :=
        eq_of_append_mark_eq hclear hc.high.1 (List.cons.inj hbehind).2
      rw [List.append_nil] at hxy
      exact Or.inr (Or.inl ⟨by rw [hfront, hxy], hhigh, hrest⟩)
  | high x y hfront hhigh hbehind =>
      obtain rfl := eq_nil_of_mark (notMem_of_eq_append hhigh hc.high.1).2 hbehind
      rw [List.append_nil] at hhigh
      refine Or.inr (Or.inr ⟨[], ?_⟩)
      simp [hfront, ← hhigh, RangeClause.text, RangeClause.upperText, Text.enclosed]
  | behind x hfront hrest =>
      exact Or.inr (Or.inr ⟨x ++ [quoteMark], by simp [hfront]⟩)

/-- A range that ends at the opening quote of a literal is there whatever the literal. -/
private theorem exists_rest_of_quote {front tail : Text} {c : RangeClause}
    (h : front ++ [quoteMark] = c.text ++ tail) (value behind : Text) :
    ∃ rest, front ++ (value.enclosed ++ behind) = c.text ++ rest := by
  refine ⟨tail ++ (value ++ quoteMark :: behind), ?_⟩
  rw [← List.append_assoc c.text, ← h]
  simp [Text.enclosed]

/-- A bound of a range can be exchanged for one that is not the word `and` between blanks. -/
theorem readsAlike_range_bound {front old value : Text} (behind : Text)
    (hold : quoteMark ∉ old ∧ old ≠ []) (hclear : quoteMark ∉ value)
    (hvalue : isRangeMiddle value = false) :
    Form.range.ReadsAlike front (old.enclosed ++ behind) (value.enclosed ++ behind) := by
  apply RangeClause.readsAlike
  intro c rest hc htext
  rcases hc.cut_literal hclear hvalue htext with
    ⟨rfl, -, rfl⟩ | ⟨rfl, -, rfl⟩ | ⟨tail, htail⟩
  · refine ⟨{ c with low := old }, rest, hc.withLow hold, ?_, Or.inr ?_⟩
    · simp [RangeClause.text, RangeClause.lowerText, RangeClause.upperText,
        RangeClause.lead, RangeClause.middle]
    · simp only [RangeClause.text, RangeClause.lowerText, RangeClause.lead, Text.enclosed,
        List.length_append, List.length_cons]
      omega
  · refine ⟨{ c with high := old }, behind, hc.withHigh hold, ?_, Or.inr ?_⟩
    · simp [RangeClause.text, RangeClause.lowerText, RangeClause.upperText,
        RangeClause.lead, RangeClause.middle]
    · simp only [RangeClause.text, RangeClause.lowerText, RangeClause.upperText,
        RangeClause.lead, RangeClause.middle, Text.enclosed, List.length_append,
        List.length_cons]
      omega
  · obtain ⟨rest', htext'⟩ := exists_rest_of_quote htail old behind
    exact ⟨c, rest', hc, htext', Or.inl rfl⟩

/-- No range has a literal behind a text that ends neither like `between` nor like `and`. -/
theorem readsAlike_range_value {front value : Text} (old behind : Text)
    (hclear : quoteMark ∉ value) (hvalue : isRangeMiddle value = false)
    (hfront : ∀ ch ∈ lastSolid front, sameLetter 'n' ch = false ∧ sameLetter 'd' ch = false) :
    Form.range.ReadsAlike front (old.enclosed ++ behind) (value.enclosed ++ behind) := by
  apply RangeClause.readsAlike
  intro c rest hc htext
  rcases hc.cut_literal hclear hvalue htext with ⟨rfl, -, -⟩ | ⟨rfl, -, -⟩ | ⟨tail, htail⟩
  · obtain ⟨ch, hlast, hch⟩ := hc.lastSolid_lead
    rw [(hfront ch hlast).1] at hch
    cases hch
  · obtain ⟨ch, hlast, hch⟩ := hc.lastSolid_middle
    rw [(hfront ch (lastSolid_append_of_eq_some hlast)).2] at hch
    cases hch
  · obtain ⟨rest', htext'⟩ := exists_rest_of_quote htail old behind
    exact ⟨c, rest', hc, htext', Or.inl rfl⟩

/-- A part of a clause that a list begins in holds its parenthesis and ends at the quote of
the first member. -/
private theorem eq_paren_of_first {first behind y z : Text} (hy : quoteMark ∉ y)
    (h : '(' :: (first.enclosed ++ behind) = y ++ quoteMark :: z) :
    y = ['('] ∧ first ++ quoteMark :: behind = z := by
  have h : '(' :: quoteMark :: (first ++ quoteMark :: behind) = y ++ quoteMark :: z := by
    simpa [Text.enclosed] using h
  cases y with
  | nil => exact absurd (List.cons.inj h).1 (by decide)
  | cons ch y =>
      rw [List.cons_append] at h
      obtain ⟨rfl, hnext⟩ := List.cons.inj h
      have hnil : y = [] :=
        eq_nil_of_mark (fun hmem => hy (List.mem_cons_of_mem '(' hmem)) hnext
      subst hnil
      exact ⟨rfl, (List.cons.inj hnext).2⟩

/-- The parenthesis of a list that begins with a trimmed literal is the end of the second
literal of a range, or the range ends before. -/
theorem RangeClause.WellFormed.cut_list {c : RangeClause} (hc : c.WellFormed)
    {front first behind rest : Text} (hclear : quoteMark ∉ first) (hfirst : IsTrimmed first)
    (h : front ++ '(' :: (first.enclosed ++ behind) = c.text ++ rest) :
    (∃ x, front = c.lowerText ++ (c.middle ++ quoteMark :: x) ∧ c.high = x ++ ['(']) ∨
      ∃ tail, front = c.text ++ tail := by
  have hframe : ∀ {t u : Text}, IsRun isFrame t → t ≠ u ++ ['('] := by
    rintro t u ht rfl
    exact absurd (List.mem_append_right u List.mem_cons_self) (ht.notMem (by decide))
  cases RangeClause.cut h with
  | lead y hlead hbehind =>
      have hquote : quoteMark ∉ c.lead := hc.isRun_lead.notMem (by decide)
      obtain ⟨rfl, -⟩ := eq_paren_of_first (notMem_of_eq_append hlead hquote).2 hbehind
      exact absurd hlead (hframe hc.isRun_lead)
  | low x y hfront hlow hbehind =>
      obtain ⟨-, hnext⟩ := eq_paren_of_first (notMem_of_eq_append hlow hc.low.1).2 hbehind
      rw [c.upperText_append] at hnext
      exact absurd (eq_of_append_mark_eq hclear (hc.isRun_middle.notMem (by decide)) hnext).1
        (hc.ne_middle hfirst.isRangeMiddle)
  | middle x y hfront hmiddle hbehind =>
      have hquote : quoteMark ∉ c.middle := hc.isRun_middle.notMem (by decide)
      obtain ⟨rfl, -⟩ := eq_paren_of_first (notMem_of_eq_append hmiddle hquote).2 hbehind
      exact absurd hmiddle (hframe hc.isRun_middle)
  | high x y hfront hhigh hbehind =>
      obtain ⟨rfl, -⟩ := eq_paren_of_first (notMem_of_eq_append hhigh hc.high.1).2 hbehind
      exact Or.inl ⟨x, hfront, hhigh⟩
  | behind x hfront hrest => exact Or.inr ⟨x, hfront⟩

/-- A list that holds a quote can be exchanged for one that begins with a trimmed literal. -/
theorem readsAlike_range_list {front body first : Text} (behind behind' : Text)
    (hbody : quoteMark ∈ body) (hclear : quoteMark ∉ first) (hfirst : IsTrimmed first) :
    Form.range.ReadsAlike front ('(' :: (body ++ behind))
      ('(' :: (first.enclosed ++ behind')) := by
  apply RangeClause.readsAlike
  intro c rest hc htext
  rcases hc.cut_list hclear hfirst htext with ⟨x, hfront, hhigh⟩ | ⟨tail, hfront⟩
  · obtain ⟨b, b', rfl, hb⟩ := List.eq_append_cons_of_mem hbody
    have hnew : quoteMark ∉ x ++ '(' :: b ∧ x ++ '(' :: b ≠ [] := by
      have hx : quoteMark ∉ x := (notMem_of_eq_append hhigh hc.high.1).1
      exact ⟨List.not_mem_append hx (by simpa [quoteMark] using hb), by simp⟩
    refine ⟨{ c with high := x ++ '(' :: b }, b' ++ behind, hc.withHigh hnew, ?_, Or.inr ?_⟩
    · simp [hfront, RangeClause.text, RangeClause.lowerText, RangeClause.upperText,
        RangeClause.lead, RangeClause.middle, Text.enclosed]
    · simp only [hfront, RangeClause.text, RangeClause.lowerText, RangeClause.upperText,
        RangeClause.lead, RangeClause.middle, Text.enclosed, List.length_append,
        List.length_cons]
      omega
  · exact ⟨c, tail ++ '(' :: (body ++ behind), hc, by simp [hfront], Or.inl rfl⟩

/-! ## Lists -/

theorem ListClause.WellFormed.withBody {c : ListClause} (hc : c.WellFormed) {body : Text}
    (hbody : ')' ∉ body ∧ body ≠ []) : ListClause.WellFormed { c with body } :=
  ⟨hc.column, hc.gap₁, hc.inWord, hc.gap₂, hbody⟩

/-- The body of a list can be exchanged for one that the same parenthesis ends. -/
theorem readsAlike_list_body {front body body' : Text} (behind : Text)
    (hbody : ')' ∉ body ∧ body ≠ []) (hbody' : ')' ∉ body') :
    Form.list.ReadsAlike front ('(' :: (body ++ ')' :: behind))
      ('(' :: (body' ++ ')' :: behind)) := by
  apply ListClause.readsAlike
  intro c rest hc htext
  cases ListClause.cut htext with
  | lead y hfront hbehind =>
      have hparen : '(' ∉ c.lead := hc.isRun_lead.notMem (by decide)
      obtain rfl := eq_nil_of_mark (notMem_of_eq_append hfront hparen).2 hbehind
      rw [List.append_nil] at hfront
      obtain ⟨-, rfl⟩ := eq_of_append_mark_eq hbody' hc.body.1 (List.cons.inj hbehind).2
      refine ⟨{ c with body }, behind, hc.withBody hbody, ?_, Or.inr ?_⟩
      · simp [← hfront, ListClause.text, ListClause.lead]
      · simp only [← hfront, ListClause.text, ListClause.lead, List.length_append,
          List.length_cons]
        omega
  | body x y hfront hxy hbehind =>
      have hclear : ')' ∉ '(' :: body' := by simp [hbody']
      obtain ⟨hx, hy⟩ := notMem_of_eq_append hxy hc.body.1
      obtain ⟨-, rfl⟩ := eq_of_append_mark_eq hclear hy hbehind
      have hnew : ')' ∉ x ++ '(' :: body := List.not_mem_append hx (by simp [hbody.1])
      refine ⟨{ c with body := x ++ '(' :: body }, behind, hc.withBody ⟨hnew, by simp⟩, ?_,
        Or.inr ?_⟩
      · simp [hfront, ListClause.text, ListClause.lead]
      · simp only [hfront, ListClause.text, ListClause.lead, List.length_append,
          List.length_cons]
        omega
  | behind x hfront hrest =>
      exact ⟨c, x ++ '(' :: (body ++ ')' :: behind), hc, by simp [hfront], Or.inl rfl⟩

/-! ## Comparisons -/

theorem IsClosing.isRun {closing rest : Text} (h : IsClosing closing rest) :
    IsRun isClosingChar closing := by
  have hblank : ∀ c, isBlank c = true → isClosingChar c = true :=
    fun _ hc => isClosingChar_of_isBlank hc
  rcases h with ⟨blanks, hrun, rfl⟩ | ⟨hrun, -⟩
  · exact (hrun.mono hblank).append (by simp [IsRun, isClosingChar])
  · exact hrun.mono hblank

theorem Comparison.WellFormed.withValue {c : Comparison} (hc : c.WellFormed) {value : Text}
    (hvalue : quoteMark ∉ value) : Comparison.WellFormed { c with value } :=
  ⟨hc.column, hc.gap, hc.operator, hc.opening, hvalue⟩

/-- The literal of a comparison can be exchanged for any other. -/
theorem readsAlike_comparison_value {front old value : Text} (behind : Text)
    (hold : quoteMark ∉ old) (hclear : quoteMark ∉ value) :
    Form.comparison.ReadsAlike front (old.enclosed ++ behind) (value.enclosed ++ behind) := by
  apply Comparison.readsAlike
  intro c rest hc hcloses htext
  have hlead : quoteMark ∉ c.lead := hc.isRun_lead.notMem (by decide)
  have htext : front ++ quoteMark :: (value ++ quoteMark :: behind) = c.text ++ rest := by
    simpa [Text.enclosed] using htext
  cases Comparison.cut htext with
  | lead y hfront hbehind =>
      obtain rfl := eq_nil_of_mark (notMem_of_eq_append hfront hlead).2 hbehind
      rw [List.append_nil] at hfront
      obtain ⟨-, rfl⟩ := eq_of_append_mark_eq hclear hc.value (List.cons.inj hbehind).2
      refine ⟨{ c with value := old }, rest, hc.withValue hold, hcloses, ?_, Or.inr ?_⟩
      · simp [← hfront, Comparison.text, Comparison.lead]
      · simp only [← hfront, Comparison.text, Comparison.lead, Text.enclosed,
          List.length_append, List.length_cons]
        omega
  | value x y hfront hvalue hbehind =>
      obtain rfl := eq_nil_of_mark (notMem_of_eq_append hvalue hc.value).2 hbehind
      rw [List.append_nil] at hvalue
      obtain ⟨closing, rest', hold', hcloses'⟩ := exists_isClosing (old ++ quoteMark :: behind)
      refine ⟨{ c with closing }, rest', ⟨hc.column, hc.gap, hc.operator, hc.opening, hc.value⟩,
        hcloses', ?_, Or.inr ?_⟩
      · simp [hfront, ← hvalue, Comparison.text, Comparison.lead, Text.enclosed, ← hold']
      · simp only [hfront, ← hvalue, Comparison.text, Comparison.lead, Text.enclosed,
          List.length_append, List.length_cons]
        omega
  | behind x hfront hclosing =>
      have hquote : quoteMark ∉ c.closing := hcloses.isRun.notMem (by decide)
      rcases cut_at_mark hclosing with ⟨tail, hx, hrest⟩ | ⟨tail, hmem, -⟩
      · rw [hrest] at hcloses
        refine ⟨c, tail ++ (old.enclosed ++ behind), hc,
          IsClosing.congr hcloses (Or.inl rfl), ?_, Or.inl rfl⟩
        simp [hfront, hx, Comparison.text]
      · exact absurd (by simp [hmem]) hquote

end SqlSnippet
