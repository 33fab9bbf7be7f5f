import SqlSnippet.Edit.Snippet
import SqlSnippet.Proofs.Insertion
import SqlSnippet.Proofs.Lines
import SqlSnippet.Proofs.Rows

/-!
# Commenting a line keeps the parameters

A line that is commented gets a marker behind its indentation.  When no clause reaches over
the place of the marker, the text has the same parameters as before: those behind the marker
stand further on, those of the line are commented, and nothing else about them changes.
-/

namespace SqlSnippet

open Chars

/-- The position behind the blanks with which the line at a position begins. -/
def textStart (t : Text) (ls : Nat) : Nat :=
  ls + (Text.indentation ((t.drop ls).takeWhile (· ≠ '\n'))).length

/-- The parameter after the line that begins at `ls` has been commented by a marker at
`n`. -/
def Parameter.commented (ls n : Nat) (p : Parameter) : Parameter :=
  let move := moveOf n p.clauseStart
  { p with
    start := p.start + move
    stop := p.stop + move
    clauseStart := p.clauseStart + move
    clauseStop := p.clauseStop + move
    lineStart := if ls < p.lineStart then p.lineStart + commentLead.length else p.lineStart
    isCommented := p.isCommented || p.lineStart == ls }

/-- What commenting the line at `ls` means for the line of a position `x` that the marker
moves to `y`. -/
structure LineCommented (ls : Nat) (t t' : Text) (x y : Nat) : Prop where
  lineStart : SqlSnippet.lineStart t' y = if ls < SqlSnippet.lineStart t x then
    SqlSnippet.lineStart t x + commentLead.length else SqlSnippet.lineStart t x
  isCommented : isCommentedAt t' y = (isCommentedAt t x || SqlSnippet.lineStart t x == ls)

theorem lineStart_le (front behind : Text) :
    lineStart (front ++ behind) front.length ≤ front.length := by
  obtain ⟨before, line, rfl, hbefore, hline⟩ := exists_line front
  rw [lineStart_append hbefore hline, List.length_append]
  exact Nat.le_add_right _ _

theorem lineCommented_before {front more : Text} (hmore : more ≠ []) (behind behind' : Text) :
    LineCommented (front ++ more).length (front ++ (more ++ behind))
      (front ++ (more ++ behind')) front.length front.length := by
  have hle := lineStart_le front (more ++ behind)
  have hpos := List.length_pos_of_ne_nil hmore
  have hlt : lineStart (front ++ (more ++ behind)) front.length < (front ++ more).length := by
    rw [List.length_append]
    omega
  have hcommented : isCommentedAt (front ++ (more ++ behind')) front.length =
      isCommentedAt (front ++ (more ++ behind)) front.length :=
    isCommentedAt_congr (head?_append_congr hmore behind' behind)
  refine ⟨?_, ?_⟩
  · rw [if_neg (Nat.lt_asymm hlt)]
    exact lineStart_congr front _ _
  · rw [hcommented, beq_eq_false_iff_ne.mpr (Nat.ne_of_lt hlt), Bool.or_false]

theorem lineCommented_line {before blanks line : Text} (hbefore : EndsLine before)
    (hblanks : '\n' ∉ blanks) (hline : '\n' ∉ line) (behind : Text) :
    LineCommented before.length (before ++ (blanks ++ (line ++ behind)))
      (before ++ (blanks ++ (commentLead ++ (line ++ behind))))
      (before ++ (blanks ++ line)).length
      (before ++ (blanks ++ (commentLead ++ line))).length := by
  have hlead : '\n' ∉ commentLead := by decide
  have hold := List.not_mem_append hblanks hline
  have hnew := List.not_mem_append hblanks (List.not_mem_append hlead hline)
  have hstart := lineStart_append hbefore hold behind
  have hstart' := lineStart_append hbefore hnew behind
  have hcommented := (isCommentedAt_append_iff hbefore hnew behind).mpr
    ⟨blanks.length, by simp [commentLead, commentMarker], ' ' :: (line ++ behind),
      by simp [commentLead]⟩
  simp only [List.append_assoc] at hstart hstart' hcommented
  refine ⟨?_, ?_⟩
  · rw [hstart, hstart', if_neg (Nat.lt_irrefl _)]
  · rw [hcommented, hstart, beq_self_eq_true, Bool.or_true]

theorem lineCommented_behind {before blanks first line : Text} (hfirst : first ≠ [])
    (hends : EndsLine first) (hline : '\n' ∉ line) (behind : Text) :
    LineCommented before.length (before ++ (blanks ++ (first ++ (line ++ behind))))
      (before ++ (blanks ++ (commentLead ++ (first ++ (line ++ behind)))))
      (before ++ (blanks ++ (first ++ line))).length
      (before ++ (blanks ++ (commentLead ++ (first ++ line)))).length := by
  have hends' := hends.append hfirst
  have hpos := List.length_pos_of_ne_nil hfirst
  have hstart := lineStart_append (hends' (before ++ blanks)) hline behind
  have hstart' := lineStart_append (hends' (before ++ blanks ++ commentLead)) hline behind
  have hcommented := isCommentedAt_append_iff (hends' (before ++ blanks)) hline behind
  have hcommented' :=
    isCommentedAt_append_iff (hends' (before ++ blanks ++ commentLead)) hline behind
  rw [← hcommented, ← Bool.eq_iff_iff] at hcommented'
  simp only [List.append_assoc] at hstart hstart' hcommented'
  have hlt : before.length < (before ++ (blanks ++ first)).length := by
    rw [List.length_append, List.length_append]
    omega
  refine ⟨?_, ?_⟩
  · rw [hstart, hstart', if_pos hlt]
    simp only [List.length_append]
    omega
  · rw [hcommented', hstart, beq_eq_false_iff_ne.mpr (Nat.ne_of_gt hlt), Bool.or_false]

/-! ## The parameters of one clause -/

theorem Hit.parameters_moved {ls n : Nat} {t t' : Text} {h : Hit}
    (hline : LineCommented ls t t' h.start (h.moved n).start) :
    (h.moved n).parameters t' = (h.parameters t).map (Parameter.commented ls n) := by
  obtain ⟨hstart, hcommented⟩ := hline
  have hstop := Hit.stop_moved n h
  rcases h with ⟨start, c | c | c⟩ <;>
    simp only [Hit.moved] at hstart hcommented hstop <;>
    simp only [Hit.parameters, Hit.whole, Hit.moved, Parameter.commented, List.map_cons,
      List.map_nil, hstart, hcommented, hstop, Nat.add_right_comm]

theorem EndsLine.eq_nil_or_endsBlank {before blanks : Text} (hbefore : EndsLine before)
    (hblanks : IsRun isBlank blanks) :
    before ++ blanks = [] ∨ EndsBlank (before ++ blanks) := by
  by_cases hnil : blanks = []
  · subst hnil
    rw [List.append_nil]
    exact hbefore.imp_right fun hlast => ⟨'\n', hlast, by decide⟩
  · exact Or.inr (IsGap.endsBlank_append ⟨hnil, hblanks⟩ before)

section Rows

variable {before blanks behind : Text}

/-- Every clause is moved together with its line. -/
theorem Hit.Stands.lineCommented (hbefore : EndsLine before) (hblanks : IsRun isBlank blanks)
    (hline : '\n' ∉ blanks) {h : Hit} {front rest : Text}
    (hh : h.Stands (before ++ (blanks ++ behind)) front rest) :
    LineCommented before.length (before ++ (blanks ++ behind))
      (before ++ (blanks ++ (commentLead ++ behind))) h.start
      (h.moved (before ++ blanks).length).start := by
  by_cases hlt : h.start < (before ++ blanks).length
  · obtain ⟨ch, hat, hword⟩ := hh.getElem?_start
    have hstart : h.start < before.length := by
      by_contra hge
      rw [List.length_append] at hlt
      rw [List.getElem?_append_right (by omega), List.getElem?_append_left (by omega)] at hat
      have hblank := hblanks ch (List.mem_of_getElem? hat)
      rw [isWord_eq_false_of_isBlank hblank] at hword
      cases hword
    obtain ⟨more, hmore, -⟩ := exists_append_of_length_le hh.text
      (by rw [hh.start]; exact hstart.le)
    have hne : more ≠ [] := by
      rintro rfl
      rw [hmore, List.append_nil, hh.start] at hstart
      exact Nat.lt_irrefl _ hstart
    rw [Hit.moved_of_lt hlt, hmore, List.append_assoc, List.append_assoc, ← hh.start]
    exact lineCommented_before hne (blanks ++ behind) (blanks ++ (commentLead ++ behind))
  · obtain ⟨u, hu, hbehind⟩ := exists_append_of_length_le
      (hh.text.symm.trans (List.append_assoc _ _ _).symm)
      (by rw [hh.start]; exact Nat.not_lt.mp hlt)
    have hmoved : (h.moved (before ++ blanks).length).start =
        (before ++ (blanks ++ (commentLead ++ u))).length := by
      rw [Hit.moved, moveOf, if_pos (Nat.not_lt.mp hlt), ← hh.start, hu]
      simp only [List.length_append]
      omega
    have hstart : h.start = (before ++ (blanks ++ u)).length := by
      rw [← hh.start, hu, List.append_assoc]
    rw [hmoved, hstart, hbehind]
    obtain ⟨first, line, rfl, hfirst, hnoBreak⟩ := exists_line u
    by_cases hnil : first = []
    · subst hnil
      exact lineCommented_line hbefore hline hnoBreak _
    · rw [List.append_assoc]
      exact lineCommented_behind hnil hfirst hnoBreak _

/-- The parameters after a marker has been written behind the blanks of a line. -/
theorem parameters_insert (hbefore : EndsLine before) (hblanks : IsRun isBlank blanks)
    (hline : '\n' ∉ blanks)
    (hnone : NoneReaches (before ++ (blanks ++ behind)) (before ++ blanks).length) :
    parameters (before ++ (blanks ++ (commentLead ++ behind))) =
      (parameters (before ++ (blanks ++ behind))).map
        (Parameter.commented before.length (before ++ blanks).length) := by
  have hfront := hbefore.eq_nil_or_endsBlank hblanks
  have hclauses : clauses (before ++ (blanks ++ (commentLead ++ behind))) =
      (clauses (before ++ (blanks ++ behind))).map (Hit.moved (before ++ blanks).length) := by
    rw [← List.append_assoc] at hnone
    have hinsert := clauses_insert hfront hnone
    rwa [List.append_assoc, List.append_assoc] at hinsert
  rw [parameters, hclauses, List.flatMap_map, parameters, List.map_flatMap]
  apply List.flatMap_congr
  intro h hmem
  obtain ⟨front, rest, hh⟩ := exists_stands_of_mem_clauses hmem
  exact Hit.parameters_moved (hh.lineCommented hbefore hblanks hline)

end Rows

/-! ## Commenting -/

theorem endsLine_take {t : Text} {ls : Nat} (hstart : isLineStart t ls = true) :
    EndsLine (t.take ls) := by
  rw [isLineStart, Bool.or_eq_true, beq_iff_eq, beq_iff_eq] at hstart
  by_cases hls : ls = 0
  · exact Or.inl (by rw [hls, List.take_zero])
  · right
    rw [List.getLast?_take, if_neg hls, hstart.resolve_left hls, Option.some_or]

theorem exists_blanks {t : Text} {ls : Nat} (hls : ls < t.length)
    (hstart : isLineStart t ls = true) :
    ∃ before blanks behind, t = before ++ (blanks ++ behind) ∧ EndsLine before ∧
      IsRun isBlank blanks ∧ '\n' ∉ blanks ∧ before.length = ls ∧
      (before ++ blanks).length = textStart t ls ∧
      (isCommentLine ((t.drop ls).takeWhile (· ≠ '\n')) = false →
        toggleLine t ls = before ++ (blanks ++ (commentLead ++ behind))) := by
  let line : Text := (t.drop ls).takeWhile (· ≠ '\n')
  let after : Text := (t.drop ls).dropWhile (· ≠ '\n')
  have hlength : (t.take ls).length = ls := by
    rw [List.length_take, Nat.min_eq_left hls.le]
  refine ⟨t.take ls, line.indentation, line.stripLeft ++ after, ?_, ?_, ?_, ?_, hlength, ?_, ?_⟩
  · rw [← List.append_assoc line.indentation, Text.indentation_append_stripLeft,
      List.takeWhile_append_dropWhile, List.take_append_drop]
  · exact endsLine_take hstart
  · exact isRun_takeWhile isBlank line
  · intro hmem
    have hline := List.mem_takeWhile_imp ((List.takeWhile_sublist isBlank).subset hmem)
    simp at hline
  · rw [List.length_append, hlength]
    rfl
  · intro hcomment
    have hinside : ¬ ((ls : Int) < 0 ∨ (t.length : Int) ≤ ls) := by omega
    simp only [toggleLine, toggleAt, hinside, ↓reduceIte, Int.toNat_natCast, hstart, Bool.not_true,
      Bool.false_eq_true, hcomment, Toggle.textFrom, SqlSnippet.commented, commentLead]
    simp [line, after]

/-- Commenting a line that is not commented keeps all parameters of the text, in their order,
when no clause that a scan finds reaches over the place where the text of the line begins. -/
theorem parameters_toggleLine {t : Text} {ls : Nat} (hls : ls < t.length)
    (hstart : isLineStart t ls = true)
    (hline : isCommentLine ((t.drop ls).takeWhile (· ≠ '\n')) = false)
    (hcross : ∀ h ∈ rangeHits t ++ listHits t ++ comparisonHits t,
      ¬ (h.start < textStart t ls ∧ textStart t ls < h.stop)) :
    parameters (toggleLine t ls) =
      (parameters t).map (Parameter.commented ls (textStart t ls)) := by
  have hnone : NoneReaches t (textStart t ls) := noneReaches_iff.mpr hcross
  obtain ⟨before, blanks, behind, hsplit, hbefore, hblanks, hbreak, hlength, htext, htoggle⟩ :=
    exists_blanks hls hstart
  rw [htoggle hline]
  rw [← htext] at hnone ⊢
  rw [← hlength]
  rw [hsplit] at hnone ⊢
  exact parameters_insert hbefore hblanks hbreak hnone

/-- The second of three lines is commented: its clause moves and is commented, the clause on
the third line only moves. -/
theorem parameters_toggleLine_second :
    (parameters (toggleLine (Text.ofString "a = 'x'\n b in ('y')\nc like 'z'") 8)).map
        (fun p => (p.clauseStart, p.lineStart, p.isCommented)) =
      [(0, 0, false), (12, 8, true), (23, 23, false)] := by
  have htoggle : parameters (toggleLine (Text.ofString "a = 'x'\n b in ('y')\nc like 'z'") 8) =
      (parameters (Text.ofString "a = 'x'\n b in ('y')\nc like 'z'")).map
        (Parameter.commented 8 9) :=
    parameters_toggleLine (by decide) (by decide) (by decide) (by decide)
  rw [htoggle]
  decide

end SqlSnippet
