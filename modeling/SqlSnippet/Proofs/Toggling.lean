import SqlSnippet.Proofs.Interchange
import SqlSnippet.Proofs.Sessions

/-!
# What toggling does to a clause

Toggling decides by the first characters of a line, a parameter by all that stands before its
clause on the line.  The two agree on a line that a marker begins.  Behind a marker that stands
further on, in a trailing comment or in a literal, a parameter is commented and its control
offers to uncomment it, but the line gets a second marker in front.

A marker in front of a line disables this line and no other one.  A clause in one line is
disabled as a whole, and what a longer clause has on its other lines goes on as it was.
-/

namespace SqlSnippet

open Chars

/-- The line at the position `ls` of `t` is made of these blanks and this body. -/
structure LineAt (t : Text) (ls : Nat) (before blanks body behind : Text) : Prop where
  text : t = before ++ (blanks ++ (body ++ behind))
  start : before.length = ls
  endsLine : EndsLine before
  isRun : IsRun isBlank blanks
  stops : StopsAt isBlank body
  break_notMem : '\n' ∉ blanks ++ body
  ends : StopsAt (· ≠ '\n') behind

theorem isCommentLine_blanks_append {blanks body : Text} (hblanks : IsRun isBlank blanks)
    (hbody : StopsAt isBlank body) :
    isCommentLine (blanks ++ body) = true ↔ commentMarker <+: body := by
  rw [isCommentLine, Text.stripLeft, dropWhile_append_of_stopsAt hblanks hbody,
    List.isPrefixOf_iff_prefix]

theorem commented_append {blanks body : Text} (hblanks : IsRun isBlank blanks)
    (hbody : StopsAt isBlank body) :
    commented (blanks ++ body) = blanks ++ (commentLead ++ body) := by
  rw [commented, Text.indentation, Text.stripLeft, takeWhile_append_of_stopsAt hblanks hbody,
    dropWhile_append_of_stopsAt hblanks hbody]
  simp [commentLead]

theorem exists_uncommented_append {blanks : Text} (hblanks : IsRun isBlank blanks)
    (more : Text) :
    ∃ space rest, more = space ++ rest ∧
      (space = [' '] ∨ space = [] ∧ rest.head? ≠ some ' ') ∧
      uncommented (blanks ++ (commentMarker ++ more)) = blanks ++ rest := by
  have hbody : StopsAt isBlank (commentMarker ++ more) := StopsAt.cons (by decide) _
  rw [uncommented, Text.indentation, Text.stripLeft, takeWhile_append_of_stopsAt hblanks hbody,
    dropWhile_append_of_stopsAt hblanks hbody, List.drop_left]
  split
  next rest => exact ⟨[' '], rest, rfl, Or.inl rfl, rfl⟩
  next hspace =>
    refine ⟨[], more, rfl, Or.inr ⟨rfl, ?_⟩, rfl⟩
    intro hhead
    obtain ⟨rest, rfl⟩ := List.head?_eq_some_iff.mp hhead
    exact hspace rest rfl

/-- A marker and a space are put between the blanks of a line and its body. -/
def MarkerAdded (ls : Nat) (t t' : Text) : Prop :=
  ∃ before blanks body behind, LineAt t ls before blanks body behind ∧
    t' = before ++ (blanks ++ (commentLead ++ (body ++ behind)))

/-- The marker that begins the body of a line is taken out, and with it one space that follows
it. -/
def MarkerTaken (ls : Nat) (t t' : Text) : Prop :=
  ∃ before blanks space rest behind,
    LineAt t ls before blanks (commentMarker ++ (space ++ rest)) behind ∧
    (space = [' '] ∨ space = [] ∧ rest.head? ≠ some ' ') ∧
    t' = before ++ (blanks ++ (rest ++ behind))

section Line

variable {t before blanks body behind : Text} {ls : Nat}

theorem LineAt.takeWhile_eq (h : LineAt t ls before blanks body behind) :
    (t.drop ls).takeWhile (· ≠ '\n') = blanks ++ body := by
  rw [h.text, ← h.start, List.drop_left, ← List.append_assoc,
    takeWhile_append_of_stopsAt (ne_break_of_notMem h.break_notMem) h.ends]

theorem LineAt.dropWhile_eq (h : LineAt t ls before blanks body behind) :
    (t.drop ls).dropWhile (· ≠ '\n') = behind := by
  rw [h.text, ← h.start, List.drop_left, ← List.append_assoc,
    dropWhile_append_of_stopsAt (ne_break_of_notMem h.break_notMem) h.ends]

theorem LineAt.isCommentLine_iff (h : LineAt t ls before blanks body behind) :
    isCommentLine ((t.drop ls).takeWhile (· ≠ '\n')) = true ↔ commentMarker <+: body := by
  rw [h.takeWhile_eq, isCommentLine_blanks_append h.isRun h.stops]

/-- Toggling a line exchanges it and nothing else. -/
theorem LineAt.toggleLine_eq (h : LineAt t ls before blanks body behind) (hls : ls < t.length) :
    toggleLine t ls = before ++ (toggledLine (blanks ++ body) ++ behind) := by
  have hstart : isLineStart t ls = true := by
    rw [h.text, ← h.start]
    exact isLineStart_length h.endsLine _
  have hinside : ¬ ((ls : Int) < 0 ∨ (t.length : Int) ≤ ls) := by omega
  have htake : t.take ls = before := by
    rw [h.text, ← h.start, List.take_left]
  simp only [toggleLine, toggleAt, hinside, ↓reduceIte, Int.toNat_natCast, hstart, Bool.not_true,
    Bool.false_eq_true, h.takeWhile_eq, h.dropWhile_eq, htake, toggledLine]
  split
  next => simp [Toggle.textFrom]
  next => simp [Toggle.textFrom]

theorem LineAt.toggleLine_of_unmarked (h : LineAt t ls before blanks body behind)
    (hls : ls < t.length) (hmarker : ¬ commentMarker <+: body) :
    toggleLine t ls = before ++ (blanks ++ (commentLead ++ (body ++ behind))) := by
  rw [← isCommentLine_blanks_append h.isRun h.stops] at hmarker
  rw [h.toggleLine_eq hls, toggledLine, if_neg hmarker, commented_append h.isRun h.stops]
  simp only [List.append_assoc]

theorem LineAt.markerTaken (h : LineAt t ls before blanks body behind)
    (hls : ls < t.length) (hmarker : commentMarker <+: body) :
    MarkerTaken ls t (toggleLine t ls) := by
  obtain ⟨more, rfl⟩ := hmarker
  obtain ⟨space, rest, rfl, hspace, huncommented⟩ := exists_uncommented_append h.isRun more
  refine ⟨before, blanks, space, rest, behind, h, hspace, ?_⟩
  have hline := (isCommentLine_blanks_append h.isRun h.stops).mpr
    (List.prefix_append commentMarker (space ++ rest))
  rw [h.toggleLine_eq hls, toggledLine, if_pos hline, huncommented, List.append_assoc]

end Line

/-! ## The line of a clause -/

/-- The line on which a clause begins, and how the clause goes on behind what stands before it
on the line. -/
theorem Hit.Stands.exists_lineAt {h : Hit} {t front rest : Text} (hh : h.Stands t front rest) :
    ∃ before blanks u more behind, front = before ++ (blanks ++ u) ∧
      h.clause.text ++ rest = more ++ behind ∧
      LineAt t (lineStart t h.start) before blanks (u ++ more) behind := by
  obtain ⟨ch, tail, htext, hword⟩ := hh.wellFormed.exists_cons
  obtain ⟨before, line, rfl, hbefore, hline⟩ := exists_line front
  let more : Text := (h.clause.text ++ rest).takeWhile (· ≠ '\n')
  let behind : Text := (h.clause.text ++ rest).dropWhile (· ≠ '\n')
  have hsplit : line.takeWhile isBlank ++ line.dropWhile isBlank = line :=
    List.takeWhile_append_dropWhile
  have hrest : h.clause.text ++ rest = more ++ behind := List.takeWhile_append_dropWhile.symm
  have hstart := lineStart_append hbefore hline (h.clause.text ++ rest)
  rw [← hh.text, hh.start] at hstart
  refine ⟨before, line.takeWhile isBlank, line.dropWhile isBlank, more, behind, by rw [hsplit],
    hrest, ?_, hstart.symm, hbefore, isRun_takeWhile isBlank line, ?_, ?_,
    stopsAt_dropWhile _ _⟩
  · rw [List.append_assoc, ← List.append_assoc _ _ (more ++ behind), hsplit, ← hrest,
      ← List.append_assoc]
    exact hh.text
  · cases hu : line.dropWhile isBlank with
    | cons c u =>
        have hstops := stopsAt_dropWhile isBlank line
        rw [hu] at hstops
        exact StopsAt.cons (hstops c rfl) _
    | nil =>
        have hch : ch ≠ '\n' := by
          rintro rfl
          exact absurd hword (by decide)
        have hmore : more = ch :: (tail ++ rest).takeWhile (· ≠ '\n') := by
          simp only [more, htext, List.cons_append]
          rw [List.takeWhile_cons_of_pos (by simpa using hch)]
        rw [List.nil_append, hmore]
        exact StopsAt.cons (isBlank_eq_false_of_isWord hword) _
  · rw [← List.append_assoc, hsplit]
    apply List.not_mem_append hline
    intro hmem
    simpa using List.mem_takeWhile_imp hmem

section Clause

variable {t before blanks u rest more behind : Text} {h : Hit} {ls : Nat}

/-- A clause on a line that a marker begins is commented. -/
theorem Hit.Stands.isCommentedAt_of_marker (hh : h.Stands t (before ++ (blanks ++ u)) rest)
    (hline : LineAt t ls before blanks (u ++ more) behind)
    (hbehind : h.clause.text ++ rest = more ++ behind)
    (hmarker : commentMarker <+: u ++ more) : isCommentedAt t h.start = true := by
  have hne : u ≠ [] := by
    rintro rfl
    obtain ⟨ch, tail, htext, hword⟩ := hh.wellFormed.exists_cons
    obtain ⟨tail', htail'⟩ := hmarker
    rw [← List.nil_append more, ← htail', htext] at hbehind
    rw [(List.cons.inj hbehind).1] at hword
    exact absurd hword (by decide)
  have hbreak : '\n' ∉ blanks ++ u := by
    intro hmem
    apply hline.break_notMem
    rw [← List.append_assoc]
    exact List.mem_append_left more hmem
  rw [hh.text, ← hh.start, isCommentedAt_append_iff hline.endsLine hbreak]
  refine ⟨blanks.length, ?_, ?_⟩
  · have hpos := List.length_pos_of_ne_nil hne
    rw [List.length_append]
    omega
  · rw [hbehind, List.append_assoc, List.drop_left, ← List.append_assoc]
    exact hmarker.trans (List.prefix_append _ behind)

theorem LineAt.start_lt {body : Text} (hline : LineAt t ls before blanks body behind)
    (hh : h.Stands t (before ++ (blanks ++ u)) rest) : ls < t.length := by
  obtain ⟨ch, hat, -⟩ := hh.getElem?_start
  have hinside := (List.getElem?_eq_some_iff.mp hat).1
  rw [← hh.start, List.length_append, hline.start] at hinside
  exact Nat.lt_of_le_of_lt (Nat.le_add_right ls _) hinside

end Clause

/-- The clause of a parameter and the line on which it begins. -/
theorem exists_lineAt_of_getElem? {t : Text} {i : Nat} {p : Parameter}
    (hp : (parameters t)[i]? = some p) :
    ∃ (h : Hit) (before blanks u more behind rest : Text), p ∈ h.parameters t ∧
      h.Stands t (before ++ (blanks ++ u)) rest ∧ h.clause.text ++ rest = more ++ behind ∧
      LineAt t p.lineStart before blanks (u ++ more) behind ∧ p.lineStart < t.length := by
  obtain ⟨h, hmem, hrow⟩ := mem_parameters_iff.mp (List.mem_of_getElem? hp)
  obtain ⟨front, rest, hh⟩ := exists_stands_of_mem_clauses hmem
  obtain ⟨before, blanks, u, more, behind, rfl, hbehind, hline⟩ := hh.exists_lineAt
  rw [← Hit.lineStart_of_mem_parameters hrow] at hline
  exact ⟨h, before, blanks, u, more, behind, rest, hrow, hh, hbehind, hline, hline.start_lt hh⟩

/-- A parameter that is not commented has a control with the label "Comment", and toggling puts
a marker and a space behind the blanks of its line.  A commented one has a control with the label
"Uncomment"; toggling takes the marker and one space behind it away when the marker begins the
line, and puts another marker there when it does not. -/
theorem toggle_adds_or_takes_marker {t : Text} {i : Nat} {p : Parameter}
    (hp : (parameters t)[i]? = some p) :
    ∃ c t', (controls t)[i]? = some c ∧
      c.toggleLabel = (if p.isCommented then "Uncomment" else "Comment") ∧
      toggle t i = .ok t' ∧
      (p.isCommented = false → MarkerAdded p.lineStart t t') ∧
      (p.isCommented = true →
        isCommentLine ((t.drop p.lineStart).takeWhile (· ≠ '\n')) = true →
          MarkerTaken p.lineStart t t') ∧
      (p.isCommented = true →
        isCommentLine ((t.drop p.lineStart).takeWhile (· ≠ '\n')) = false →
          MarkerAdded p.lineStart t t') := by
  obtain ⟨h, before, blanks, u, more, behind, rest, hrow, hh, hbehind, hline, hinside⟩ :=
    exists_lineAt_of_getElem? hp
  have hadded : ¬ commentMarker <+: u ++ more →
      MarkerAdded p.lineStart t (toggleLine t p.lineStart) := by
    intro hmarker
    exact ⟨before, blanks, u ++ more, behind, hline,
      hline.toggleLine_of_unmarked hinside hmarker⟩
  refine ⟨Control.of i p, toggleLine t p.lineStart, ?_, rfl, toggle_eq hp, ?_, ?_, ?_⟩
  · rw [controls_eq, List.getElem?_mapIdx, hp, Option.map_some]
  · intro hfree
    apply hadded
    intro hmarker
    rw [Hit.isCommented_of_mem_parameters hrow,
      hh.isCommentedAt_of_marker hline hbehind hmarker] at hfree
    cases hfree
  · intro _ hcomment
    exact hline.markerTaken hinside (hline.isCommentLine_iff.mp hcomment)
  · intro _ hcomment
    apply hadded
    rwa [← hline.isCommentLine_iff, Bool.not_eq_true]

/-- Of the two spaces behind the marker of a commented line one is taken away. -/
theorem toggle_takes_marker_and_space :
    ∃ c t', (controls (Text.ofString "  --  a = 'x'"))[0]? = some c ∧
      c.toggleLabel = "Uncomment" ∧
      toggle (Text.ofString "  --  a = 'x'") 0 = .ok t' ∧
      MarkerTaken 0 (Text.ofString "  --  a = 'x'") t' ∧ t' = Text.ofString "   a = 'x'" := by
  have hat : ((parameters (Text.ofString "  --  a = 'x'"))[0]?.map fun p =>
      (p.isCommented, p.lineStart)) = some (true, 0) := by decide
  obtain ⟨p, hp, hrow⟩ := Option.map_eq_some_iff.mp hat
  obtain ⟨hcommented, hstart⟩ := Prod.mk.inj hrow
  obtain ⟨c, t', hc, hlabel, htoggle, -, htaken, -⟩ := toggle_adds_or_takes_marker hp
  have hnew : toggle (Text.ofString "  --  a = 'x'") 0 = .ok (Text.ofString "   a = 'x'") := by
    decide
  rw [hcommented] at hlabel
  rw [hstart] at htaken
  exact ⟨c, t', hc, hlabel, htoggle, htaken hcommented (by decide),
    Except.ok.inj (htoggle.symm.trans hnew)⟩

/-- A clause in a trailing comment is commented, but toggling takes no marker out of its
line. -/
theorem toggle_trailing_comment_takes_no_marker :
    ∃ p c t', (parameters (Text.ofString "x = 1 -- a = 'b'"))[0]? = some p ∧
      p.isCommented = true ∧
      (controls (Text.ofString "x = 1 -- a = 'b'"))[0]? = some c ∧
      c.toggleLabel = "Uncomment" ∧
      toggle (Text.ofString "x = 1 -- a = 'b'") 0 = .ok t' ∧
      ∀ front space behind,
        Text.ofString "x = 1 -- a = 'b'" = front ++ (commentMarker ++ (space ++ behind)) →
          t' ≠ front ++ behind := by
  have hat : ((parameters (Text.ofString "x = 1 -- a = 'b'"))[0]?.map Parameter.isCommented) =
      some true := by decide
  obtain ⟨p, hp, hcommented⟩ := Option.map_eq_some_iff.mp hat
  have hcontrol : (controls (Text.ofString "x = 1 -- a = 'b'"))[0]? = some (Control.of 0 p) := by
    rw [controls_eq, List.getElem?_mapIdx, hp, Option.map_some]
  have hlabel : (Control.of 0 p).toggleLabel = "Uncomment" := if_pos hcommented
  have hnew : toggle (Text.ofString "x = 1 -- a = 'b'") 0 =
      .ok (Text.ofString "-- x = 1 -- a = 'b'") := by decide
  refine ⟨p, _, _, hp, hcommented, hcontrol, hlabel, hnew, ?_⟩
  intro front space behind hsplit htaken
  have hlength := congrArg List.length hsplit
  have hlength' := congrArg List.length htaken
  simp only [List.length_append] at hlength hlength'
  have hold : (Text.ofString "x = 1 -- a = 'b'").length = 16 := rfl
  have hlonger : (Text.ofString "-- x = 1 -- a = 'b'").length = 19 := rfl
  omega

/-! ## What a marker disables -/

/-- A marker stands in front of a position on its line. -/
def IsDisabledAt (t : Text) (x : Nat) : Prop :=
  commentMarker <:+: t.extract (lineStart t x) x

instance (t : Text) (x : Nat) : Decidable (IsDisabledAt t x) :=
  inferInstanceAs (Decidable (commentMarker <:+: t.extract (lineStart t x) x))

theorem isDisabledAt_append_iff {front line : Text} (hfront : EndsLine front)
    (hline : '\n' ∉ line) (behind : Text) :
    IsDisabledAt (front ++ (line ++ behind)) (front ++ line).length ↔ commentMarker <:+: line := by
  have hstart := lineStart_append hfront hline behind
  rw [List.append_assoc] at hstart
  rw [IsDisabledAt, hstart, List.length_append, extract_append]

section Insert

variable {before blanks : Text}

theorem length_insert (before blanks w : Text) :
    (before ++ (blanks ++ w)).length + commentLead.length =
      (before ++ (blanks ++ (commentLead ++ w))).length := by
  simp only [List.length_append]
  omega

theorem getElem?_insert (before blanks w behind : Text) :
    (before ++ (blanks ++ (commentLead ++ (w ++ behind))))[
        (before ++ (blanks ++ w)).length + commentLead.length]? =
      (before ++ (blanks ++ (w ++ behind)))[(before ++ (blanks ++ w)).length]? := by
  have hat : ∀ front : Text, (front ++ behind)[front.length]? = behind[0]? := by
    intro front
    rw [List.getElem?_append_right le_rfl, Nat.sub_self]
  have hold := hat (before ++ (blanks ++ w))
  have hnew := hat (before ++ (blanks ++ (commentLead ++ w)))
  rw [← length_insert] at hnew
  simp only [List.append_assoc] at hold hnew ⊢
  rw [hold, hnew]

/-- A marker behind the blanks of a line disables the positions behind it on this line.  The
other positions behind it are disabled if they were before. -/
theorem isDisabledAt_insert_iff (hbefore : EndsLine before) (hblanks : '\n' ∉ blanks)
    (w behind : Text) :
    IsDisabledAt (before ++ (blanks ++ (commentLead ++ (w ++ behind))))
        ((before ++ (blanks ++ w)).length + commentLead.length) ↔
      lineStart (before ++ (blanks ++ (w ++ behind))) (before ++ (blanks ++ w)).length =
          before.length ∨
        IsDisabledAt (before ++ (blanks ++ (w ++ behind))) (before ++ (blanks ++ w)).length := by
  rw [length_insert]
  obtain ⟨first, line, rfl, hfirst, hline⟩ := exists_line w
  by_cases hnil : first = []
  · subst hnil
    have hold := List.not_mem_append hblanks hline
    have hnew := List.not_mem_append hblanks
      (List.not_mem_append (by decide : '\n' ∉ commentLead) hline)
    have hstart := lineStart_append hbefore hold behind
    have hdisabled := isDisabledAt_append_iff hbefore hnew behind
    simp only [List.append_assoc, List.nil_append] at hstart hdisabled ⊢
    have hmarker : commentMarker <:+: blanks ++ (commentLead ++ line) :=
      ⟨blanks, ' ' :: line, by simp [commentLead]⟩
    rw [hdisabled, hstart]
    exact iff_of_true hmarker (Or.inl rfl)
  · have hold := hfirst.append hnil (before ++ blanks)
    have hnew := hfirst.append hnil (before ++ (blanks ++ commentLead))
    have hstart := lineStart_append hold hline behind
    have hdisabled := isDisabledAt_append_iff hold hline behind
    have hdisabled' := isDisabledAt_append_iff hnew hline behind
    simp only [List.append_assoc] at hstart hdisabled hdisabled' ⊢
    have hlater : (before ++ (blanks ++ first)).length ≠ before.length := by
      have hpos := List.length_pos_of_ne_nil hnil
      simp only [List.length_append]
      omega
    rw [hdisabled', hdisabled, hstart]
    exact (or_iff_right hlater).symm

end Insert

section Positions

variable {t before blanks u more rest behind : Text} {h : Hit} {ls x : Nat}

/-- A position of a clause cuts it in two. -/
theorem Hit.Stands.exists_cut (hh : h.Stands t (before ++ (blanks ++ u)) rest)
    (hstart : h.start ≤ x) (hstop : x < h.stop) :
    ∃ part tail, h.clause.text = part ++ tail ∧
      (before ++ (blanks ++ (u ++ part))).length = x := by
  refine ⟨h.clause.text.take (x - h.start), h.clause.text.drop (x - h.start),
    (List.take_append_drop _ _).symm, ?_⟩
  have hfront := hh.start
  rw [Hit.stop] at hstop
  simp only [List.length_append, List.length_take] at hfront ⊢
  omega

/-- A clause without a break has all its positions on one line. -/
theorem Hit.Stands.lineStart_eq (hh : h.Stands t (before ++ (blanks ++ u)) rest)
    (hline : LineAt t ls before blanks (u ++ more) behind) (hbreak : '\n' ∉ h.clause.text)
    (hstart : h.start ≤ x) (hstop : x < h.stop) : lineStart t x = ls := by
  obtain ⟨part, tail, hsplit, rfl⟩ := hh.exists_cut hstart hstop
  have hnone : '\n' ∉ blanks ++ (u ++ part) := by
    have hfirst := hline.break_notMem
    rw [hsplit] at hbreak
    simp only [List.mem_append, not_or] at hfirst hbreak ⊢
    exact ⟨hfirst.1, hfirst.2.1, hbreak.1⟩
  have hat := lineStart_append hline.endsLine hnone (tail ++ rest)
  rw [hline.start] at hat
  rw [hh.text, hsplit]
  simpa only [List.append_assoc] using hat

end Positions

/-- Toggling a line that is not commented moves the clause of a parameter by the length of the
marker.  A position of the clause is disabled then exactly when it is on the line of the
parameter or was disabled before.  So a clause without a break is disabled as a whole. -/
theorem toggle_disables_line {t : Text} {i : Nat} {p : Parameter}
    (hp : (parameters t)[i]? = some p)
    (hcomment : isCommentLine ((t.drop p.lineStart).takeWhile (· ≠ '\n')) = false) :
    ∃ t', toggle t i = .ok t' ∧
      (∀ x, p.clauseStart ≤ x → x < p.clauseStop →
        t'[x + commentLead.length]? = t[x]? ∧
        (IsDisabledAt t' (x + commentLead.length) ↔
          lineStart t x = p.lineStart ∨ IsDisabledAt t x)) ∧
      ('\n' ∉ p.clause → ∀ x, p.clauseStart ≤ x → x < p.clauseStop →
        IsDisabledAt t' (x + commentLead.length)) := by
  obtain ⟨h, before, blanks, u, more, behind, rest, hrow, hh, hbehind, hline, hinside⟩ :=
    exists_lineAt_of_getElem? hp
  obtain ⟨hclause, hclauseStart, hclauseStop⟩ := Hit.clause_eq_of_mem_parameters hrow
  rw [hclause, hclauseStart, hclauseStop]
  have hmarker : ¬ commentMarker <+: u ++ more := by
    rwa [← hline.isCommentLine_iff, Bool.not_eq_true]
  have htoggle := hline.toggleLine_of_unmarked hinside hmarker
  have hpositions : ∀ x, h.start ≤ x → x < h.stop →
      (toggleLine t p.lineStart)[x + commentLead.length]? = t[x]? ∧
        (IsDisabledAt (toggleLine t p.lineStart) (x + commentLead.length) ↔
          lineStart t x = p.lineStart ∨ IsDisabledAt t x) := by
    intro x hx hxstop
    obtain ⟨part, tail, hsplit, rfl⟩ := hh.exists_cut hx hxstop
    have hbreak : '\n' ∉ blanks := fun hmem =>
      hline.break_notMem (List.mem_append_left _ hmem)
    have hbody : u ++ more ++ behind = (u ++ part) ++ (tail ++ rest) := by
      rw [List.append_assoc, ← hbehind, hsplit]
      simp only [List.append_assoc]
    have htext := hline.text
    rw [hbody] at htoggle htext
    rw [htoggle, htext, ← hline.start]
    exact ⟨getElem?_insert before blanks (u ++ part) (tail ++ rest),
      isDisabledAt_insert_iff hline.endsLine hbreak (u ++ part) (tail ++ rest)⟩
  refine ⟨_, toggle_eq hp, hpositions, ?_⟩
  intro hbreak x hx hxstop
  exact (hpositions x hx hxstop).2.mpr (Or.inl (hh.lineStart_eq hline hbreak hx hxstop))

/-- Of a list on three lines the marker disables the first one; the second one goes on, and the
third one stays disabled by its own marker. -/
theorem toggle_disables_line_of_three :
    ∃ t', toggle (Text.ofString "a in ('x',\n'y',\n-- 'z')") 0 = .ok t' ∧
      (t'[10]? = some 'x' ∧ IsDisabledAt t' 10) ∧ (t'[15]? = some 'y' ∧ ¬ IsDisabledAt t' 15) ∧
      (t'[23]? = some 'z' ∧ IsDisabledAt t' 23) := by
  have hat : ((parameters (Text.ofString "a in ('x',\n'y',\n-- 'z')"))[0]?.map fun p =>
      (p.clauseStart, p.clauseStop, p.lineStart)) = some (0, 23, 0) := by decide
  obtain ⟨p, hp, hrow⟩ := Option.map_eq_some_iff.mp hat
  simp only [Prod.mk.injEq] at hrow
  obtain ⟨hstart, hstop, hline⟩ := hrow
  obtain ⟨t', htoggle, hpositions, -⟩ := toggle_disables_line hp (by rw [hline]; decide)
  rw [hstart, hstop, hline] at hpositions
  obtain ⟨hx, hxdisabled⟩ := hpositions 7 (by decide) (by decide)
  obtain ⟨hy, hydisabled⟩ := hpositions 12 (by decide) (by decide)
  obtain ⟨hz, hzdisabled⟩ := hpositions 20 (by decide) (by decide)
  refine ⟨t', htoggle, ⟨hx.trans (by decide), hxdisabled.mpr (by decide)⟩,
    ⟨hy.trans (by decide), ?_⟩, hz.trans (by decide),
    hzdisabled.mpr (by decide)⟩
  exact fun hdisabled => absurd (hydisabled.mp hdisabled) (by decide)

/-- A clause that goes over the end of its line is not disabled as a whole. -/
theorem toggle_leaves_second_line_active :
    ∃ p t', (parameters (Text.ofString "a in ('x',\n'y')"))[0]? = some p ∧
      p.isCommented = false ∧ 'y' ∈ p.clause ∧
      toggle (Text.ofString "a in ('x',\n'y')") 0 = .ok t' ∧
      (∃ x : Nat, t'[x]? = some 'y') ∧
      ∀ x : Nat, t'[x]? = some 'y' → ¬ IsDisabledAt t' x := by
  have hat : ((parameters (Text.ofString "a in ('x',\n'y')"))[0]?.map fun p =>
      (p.isCommented, decide ('y' ∈ p.clause))) = some (false, true) := by decide
  obtain ⟨p, hp, hrow⟩ := Option.map_eq_some_iff.mp hat
  obtain ⟨hcommented, hclause⟩ := Prod.mk.inj hrow
  have hnew : toggle (Text.ofString "a in ('x',\n'y')") 0 =
      .ok (Text.ofString "-- a in ('x',\n'y')") := by decide
  refine ⟨p, _, hp, hcommented, of_decide_eq_true hclause, hnew, ⟨15, by decide⟩, ?_⟩
  intro x hx
  have hinside : x < 18 := (List.getElem?_eq_some_iff.mp hx).1
  have hall : ∀ y < 18, (Text.ofString "-- a in ('x',\n'y')")[y]? = some 'y' →
      ¬ IsDisabledAt (Text.ofString "-- a in ('x',\n'y')") y := by decide
  exact hall x hinside hx

end SqlSnippet
