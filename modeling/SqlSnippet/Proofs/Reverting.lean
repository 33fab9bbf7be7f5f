import SqlSnippet.Proofs.Toggling

/-!
# Toggling a line twice

A line that is not commented is commented by one toggle and comes back with the next one.  A
commented line comes back only if the second toggle writes the marker that the first one took
away: one marker with one space, behind all blanks of the line and in front of no other marker.
Even then it is lost if nothing but the marker was there and no line follows, since there is no line
to toggle at the end of a text.
-/

namespace SqlSnippet

open Chars

/-- The line is what toggling makes of the line `indent ++ rest`, which is not commented. -/
structure CommentedFrom (line indent rest : Text) : Prop where
  text : line = indent ++ (commentLead ++ rest)
  isRun : IsRun isBlank indent
  stops : StopsAt isBlank rest
  unmarked : ¬ commentMarker <+: rest

section Line

variable {blanks body line : Text}

theorem exists_indentation (line : Text) :
    ∃ blanks body, line = blanks ++ body ∧ IsRun isBlank blanks ∧ StopsAt isBlank body :=
  ⟨line.indentation, line.stripLeft, line.indentation_append_stripLeft.symm,
    isRun_takeWhile isBlank line, stopsAt_dropWhile isBlank line⟩

theorem toggledLine_of_unmarked (hblanks : IsRun isBlank blanks) (hbody : StopsAt isBlank body)
    (hmarker : ¬ commentMarker <+: body) :
    toggledLine (blanks ++ body) = blanks ++ (commentLead ++ body) := by
  rw [← isCommentLine_blanks_append hblanks hbody] at hmarker
  rw [toggledLine, if_neg hmarker, commented_append hblanks hbody]

theorem exists_toggledLine_of_marker (hblanks : IsRun isBlank blanks) (more : Text) :
    ∃ space rest, more = space ++ rest ∧
      (space = [' '] ∨ space = [] ∧ rest.head? ≠ some ' ') ∧
      toggledLine (blanks ++ (commentMarker ++ more)) = blanks ++ rest := by
  have hbody : StopsAt isBlank (commentMarker ++ more) := StopsAt.cons (by decide) _
  have hline := (isCommentLine_blanks_append hblanks hbody).mpr (List.prefix_append _ more)
  rw [toggledLine, if_pos hline]
  exact exists_uncommented_append hblanks more

theorem toggledLine_commentLead (hblanks : IsRun isBlank blanks) (body : Text) :
    toggledLine (blanks ++ (commentLead ++ body)) = blanks ++ body := by
  obtain ⟨space, rest, hsplit, hspace, htoggled⟩ :=
    exists_toggledLine_of_marker hblanks (' ' :: body)
  rcases hspace with rfl | ⟨rfl, hhead⟩
  · obtain rfl : body = rest := by simpa using hsplit
    exact htoggled
  · rw [List.nil_append] at hsplit
    exact absurd (hsplit ▸ rfl) hhead

theorem length_toggledLine_lt (hline : isCommentLine line = true) :
    (toggledLine line).length < line.length := by
  obtain ⟨blanks, body, rfl, hblanks, hbody⟩ := exists_indentation line
  obtain ⟨more, rfl⟩ := (isCommentLine_blanks_append hblanks hbody).mp hline
  obtain ⟨space, rest, rfl, -, htoggled⟩ := exists_toggledLine_of_marker hblanks more
  have hmarker : commentMarker.length = 2 := rfl
  rw [htoggled]
  simp only [List.length_append]
  omega

theorem CommentedFrom.toggledLine_eq {indent rest : Text} (h : CommentedFrom line indent rest) :
    toggledLine line = indent ++ rest := by
  rw [h.text, toggledLine_commentLead h.isRun]

theorem toggledLine_ne_nil (hline : isCommentLine line = false) : toggledLine line ≠ [] := by
  rw [toggledLine, hline, commented]
  simp [commentMarker]

theorem toggledLine_toggledLine_of_unmarked (hline : isCommentLine line = false) :
    toggledLine (toggledLine line) = line := by
  obtain ⟨blanks, body, rfl, hblanks, hbody⟩ := exists_indentation line
  rw [← Bool.not_eq_true, isCommentLine_blanks_append hblanks hbody] at hline
  rw [toggledLine_of_unmarked hblanks hbody hline, toggledLine_commentLead hblanks]

/-- A commented line comes back exactly when toggling would comment it like this. -/
theorem toggledLine_toggledLine_iff (hline : isCommentLine line = true) :
    toggledLine (toggledLine line) = line ↔ ∃ indent rest, CommentedFrom line indent rest := by
  constructor
  · intro hback
    obtain ⟨blanks, marked, rfl, hblanks, hmarked⟩ := exists_indentation line
    obtain ⟨more, rfl⟩ := (isCommentLine_blanks_append hblanks hmarked).mp hline
    obtain ⟨space, rest, rfl, hspace, htoggled⟩ := exists_toggledLine_of_marker hblanks more
    obtain ⟨gap, body, rfl, hgap, hbody⟩ := exists_indentation rest
    have hrun := hblanks.append hgap
    rw [htoggled, ← List.append_assoc] at hback
    have hmarker : ¬ commentMarker <+: body := by
      rw [← isCommentLine_blanks_append hrun hbody]
      intro hcomment
      have hshort := length_toggledLine_lt hcomment
      rw [hback] at hshort
      simp only [List.length_append] at hshort
      omega
    rw [toggledLine_of_unmarked hrun hbody hmarker, List.append_assoc] at hback
    have hlead := List.append_cancel_left hback
    have hgapNil : gap = [] := by
      cases gap with
      | nil => rfl
      | cons c gap =>
          have hc : c = '-' := (List.cons.inj hlead).1
          exact absurd (hgap c List.mem_cons_self) (by rw [hc]; decide)
    subst hgapNil
    refine ⟨blanks, body, ?_, hblanks, hbody, hmarker⟩
    rw [← hlead, List.nil_append]
  · rintro ⟨indent, rest, hfrom⟩
    rw [hfrom.toggledLine_eq, toggledLine_of_unmarked hfrom.isRun hfrom.stops hfrom.unmarked,
      hfrom.text]

theorem break_notMem_toggledLine (hline : '\n' ∉ line) : '\n' ∉ toggledLine line := by
  obtain ⟨blanks, body, rfl, hblanks, hbody⟩ := exists_indentation line
  by_cases hmarker : commentMarker <+: body
  · obtain ⟨more, rfl⟩ := hmarker
    obtain ⟨space, rest, rfl, -, htoggled⟩ := exists_toggledLine_of_marker hblanks more
    rw [htoggled]
    simp only [List.mem_append, not_or] at hline ⊢
    exact ⟨hline.1, hline.2.2.2⟩
  · rw [toggledLine_of_unmarked hblanks hbody hmarker]
    simp only [List.mem_append, not_or] at hline ⊢
    exact ⟨hline.1, by decide, hline.2⟩

end Line

/-! ## The line in its text -/

/-- Toggling exchanges a line for one that depends on it alone, unless there is nothing from its
beginning on. -/
theorem toggleLine_line {before line after : Text} (hbefore : EndsLine before)
    (hline : '\n' ∉ line) (hafter : StopsAt (· ≠ '\n') after) :
    toggleLine (before ++ (line ++ after)) before.length =
      before ++ (if line ++ after = [] then [] else toggledLine line ++ after) := by
  obtain ⟨blanks, body, rfl, hblanks, hbody⟩ := exists_indentation line
  by_cases hnil : blanks ++ body ++ after = []
  · have hend : ((before ++ []).length : Int) ≤ before.length := by simp
    rw [if_pos hnil, hnil, toggleLine, toggleAt, if_pos (Or.inr hend), Toggle.textFrom]
  · have hat : LineAt (before ++ (blanks ++ body ++ after)) before.length before blanks body
        after :=
      ⟨by rw [List.append_assoc blanks], rfl, hbefore, hblanks, hbody, hline, hafter⟩
    have hpos := List.length_pos_of_ne_nil hnil
    rw [if_neg hnil, hat.toggleLine_eq (by rw [List.length_append]; omega)]

theorem exists_line_at {t : Text} {ls : Nat} (hls : ls < t.length)
    (hstart : isLineStart t ls = true) :
    ∃ before line after, t = before ++ (line ++ after) ∧ before.length = ls ∧ EndsLine before ∧
      '\n' ∉ line ∧ StopsAt (· ≠ '\n') after ∧
      (t.drop ls).takeWhile (· ≠ '\n') = line ∧ (t.drop ls).dropWhile (· ≠ '\n') = after := by
  refine ⟨t.take ls, (t.drop ls).takeWhile (· ≠ '\n'), (t.drop ls).dropWhile (· ≠ '\n'), ?_, ?_,
    endsLine_take hstart, ?_, stopsAt_dropWhile _ _, rfl, rfl⟩
  · rw [List.takeWhile_append_dropWhile, List.take_append_drop]
  · rw [List.length_take, Nat.min_eq_left hls.le]
  · intro hmem
    simpa using List.mem_takeWhile_imp hmem

/-- Two toggles of a line give the text back exactly when the line is not commented, or is
commented as toggling comments a line and does not vanish with its marker at the end of the text. -/
theorem toggleLine_toggleLine_eq_iff {t : Text} {ls : Nat} (hls : ls < t.length)
    (hstart : isLineStart t ls = true) :
    toggleLine (toggleLine t ls) ls = t ↔
      isCommentLine ((t.drop ls).takeWhile (· ≠ '\n')) = false ∨
        ∃ indent rest, CommentedFrom ((t.drop ls).takeWhile (· ≠ '\n')) indent rest ∧
          ¬ (indent = [] ∧ rest = [] ∧ (t.drop ls).dropWhile (· ≠ '\n') = []) := by
  obtain ⟨before, line, after, hsplit, hlength, hbefore, hline, hafter, htake, hdrop⟩ :=
    exists_line_at hls hstart
  have hsome : line ++ after ≠ [] := by
    intro hnil
    rw [hsplit, hnil, List.append_nil, hlength] at hls
    exact Nat.lt_irrefl ls hls
  have hfirst : toggleLine t ls = before ++ (toggledLine line ++ after) := by
    rw [hsplit, ← hlength, toggleLine_line hbefore hline hafter, if_neg hsome]
  have htwice : toggleLine (toggleLine t ls) ls = t ↔
      toggledLine line ++ after ≠ [] ∧ toggledLine (toggledLine line) = line := by
    rw [hfirst, ← hlength, toggleLine_line hbefore (break_notMem_toggledLine hline) hafter, hsplit,
      List.append_right_inj]
    by_cases hnil : toggledLine line ++ after = []
    · rw [if_pos hnil]
      exact iff_of_false hsome.symm fun h => h.1 hnil
    · rw [if_neg hnil, List.append_left_inj]
      exact (and_iff_right hnil).symm
  rw [htwice, htake, hdrop]
  by_cases hcomment : isCommentLine line = true
  · rw [toggledLine_toggledLine_iff hcomment, hcomment, or_iff_right (by decide)]
    constructor
    · rintro ⟨hnil, indent, rest, hfrom⟩
      refine ⟨indent, rest, hfrom, ?_⟩
      rintro ⟨rfl, rfl, rfl⟩
      exact hnil (by rw [hfrom.toggledLine_eq]; rfl)
    · rintro ⟨indent, rest, hfrom, hnil⟩
      refine ⟨?_, indent, rest, hfrom⟩
      rw [hfrom.toggledLine_eq]
      simpa [and_assoc] using hnil
  · rw [Bool.not_eq_true] at hcomment
    refine iff_of_true ⟨?_, toggledLine_toggledLine_of_unmarked hcomment⟩ (Or.inl hcomment)
    simp [toggledLine_ne_nil hcomment]

/-- The line with the marker comes back, also as the last line of the text. -/
theorem toggleLine_toggleLine_last :
    toggleLine (toggleLine (Text.ofString "a = 'x'\n  -- ") 8) 8 =
      Text.ofString "a = 'x'\n  -- " := by
  have hfrom : CommentedFrom (Text.ofString "  -- ") (Text.ofString "  ") [] :=
    ⟨by decide, List.all_eq_true.mp (by decide), stopsAt_dropWhile isBlank [], by decide⟩
  exact (toggleLine_toggleLine_eq_iff (by decide) (by decide)).mpr
    (Or.inr ⟨Text.ofString "  ", [], hfrom, by decide⟩)

end SqlSnippet
