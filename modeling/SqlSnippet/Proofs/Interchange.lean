import SqlSnippet.Proofs.Commenting
import SqlSnippet.Proofs.Splice

/-!
# An edit and a comment in either order

The literal of a parameter stands behind the text with which its line begins, so neither of
the two changes moves the place of the other one away: commenting shifts the literal by the
length of the marker, and an edit leaves the indentation and the first characters of the
line as they are.  Both orders therefore come to the same text, whatever the new value is.
-/

namespace SqlSnippet

open Chars

/-- A marker stands in front of a text exactly when it stands in front of its first line. -/
theorem commentMarker_prefix_takeWhile_iff (t : Text) :
    commentMarker <+: t.takeWhile (· ≠ '\n') ↔ commentMarker <+: t := by
  constructor
  · intro h
    exact h.trans (List.takeWhile_prefix _)
  · intro h
    obtain ⟨rest, rfl⟩ := h
    have hrun : ∀ c ∈ commentMarker, decide (c ≠ '\n') = true := by simp [commentMarker]
    rw [List.takeWhile_append_of_pos hrun]
    exact List.prefix_append commentMarker _

section Line

variable {before blanks more : Text} {c : Char}

theorem takeWhile_line (hbreak : '\n' ∉ blanks) (hsolid : isBlank c = false) :
    ((before ++ (blanks ++ c :: more)).drop before.length).takeWhile (· ≠ '\n') =
      blanks ++ c :: more.takeWhile (· ≠ '\n') := by
  have hc : c ≠ '\n' := by
    rintro rfl
    exact absurd hsolid (by decide)
  rw [List.drop_left, List.takeWhile_append_of_pos (ne_break_of_notMem hbreak),
    List.takeWhile_cons_of_pos (by simpa using hc)]

theorem isCommentLine_append_iff (hblanks : IsRun isBlank blanks) (hsolid : isBlank c = false) :
    isCommentLine (blanks ++ c :: more.takeWhile (· ≠ '\n')) = true ↔
      commentMarker <+: c :: more := by
  have hstop : StopsAt isBlank (c :: more.takeWhile (· ≠ '\n')) := StopsAt.cons hsolid _
  have hc : c ≠ '\n' := by
    rintro rfl
    exact absurd hsolid (by decide)
  have hline : c :: more.takeWhile (· ≠ '\n') = (c :: more).takeWhile (· ≠ '\n') := by
    rw [List.takeWhile_cons_of_pos (by simpa using hc)]
  rw [isCommentLine, Text.stripLeft, dropWhile_append_of_stopsAt hblanks hstop,
    List.isPrefixOf_iff_prefix, hline, commentMarker_prefix_takeWhile_iff]

theorem textStart_append (hblanks : IsRun isBlank blanks) (hbreak : '\n' ∉ blanks)
    (hsolid : isBlank c = false) :
    textStart (before ++ (blanks ++ c :: more)) before.length = (before ++ blanks).length := by
  have hstop : StopsAt isBlank (c :: more.takeWhile (· ≠ '\n')) := StopsAt.cons hsolid _
  rw [textStart, takeWhile_line hbreak hsolid, Text.indentation,
    takeWhile_append_of_stopsAt hblanks hstop, List.length_append]

theorem isLineStart_length (hbefore : EndsLine before) (behind : Text) :
    isLineStart (before ++ behind) before.length = true := by
  rw [isLineStart, Bool.or_eq_true, beq_iff_eq, beq_iff_eq]
  by_cases hnil : before = []
  · left
    rw [hnil, List.length_nil]
  · right
    have hpos := List.length_pos_of_ne_nil hnil
    rw [List.getElem?_append_left (by omega), ← List.getLast?_eq_getElem?]
    exact hbefore.resolve_left hnil

/-- A line that no marker begins gets one in front of its text. -/
theorem toggleLine_append (hbefore : EndsLine before) (hblanks : IsRun isBlank blanks)
    (hbreak : '\n' ∉ blanks) (hsolid : isBlank c = false)
    (hmarker : ¬ commentMarker <+: c :: more) :
    toggleLine (before ++ (blanks ++ c :: more)) before.length =
      before ++ (blanks ++ (commentLead ++ c :: more)) := by
  have hcomment : isCommentLine (blanks ++ c :: more.takeWhile (· ≠ '\n')) = false := by
    rw [Bool.eq_false_iff, ne_eq, isCommentLine_append_iff hblanks hsolid]
    exact hmarker
  have hinside : before.length < (before ++ (blanks ++ c :: more)).length := by
    simp only [List.length_append, List.length_cons]
    omega
  obtain ⟨before', blanks', behind, hsplit, -, -, -, hlength, htext, htoggle⟩ :=
    exists_blanks hinside (isLineStart_length hbefore _)
  rw [textStart_append hblanks hbreak hsolid] at htext
  obtain ⟨hbefore', hrest⟩ := List.append_inj hsplit hlength.symm
  subst hbefore'
  rw [List.length_append, List.length_append, Nat.add_left_cancel_iff] at htext
  obtain ⟨rfl, rfl⟩ := List.append_inj hrest htext.symm
  exact htoggle (by rw [takeWhile_line hbreak hsolid, hcomment])

end Line

/-! ## The line of a clause -/

/-- What stands on the line of a clause before the clause: blanks, and a text that begins with
none. -/
theorem Hit.Stands.exists_indentation {h : Hit} {t front rest : Text}
    (hh : h.Stands t front rest) :
    ∃ before blanks u, front = before ++ (blanks ++ u) ∧ EndsLine before ∧
      IsRun isBlank blanks ∧ '\n' ∉ blanks ∧ StopsAt isBlank u ∧
      lineStart t h.start = before.length := by
  obtain ⟨before, line, hfront, hbefore, hline⟩ := exists_line front
  have hsplit : line.takeWhile isBlank ++ line.dropWhile isBlank = line :=
    List.takeWhile_append_dropWhile
  refine ⟨before, line.takeWhile isBlank, line.dropWhile isBlank, ?_, hbefore,
    isRun_takeWhile isBlank line, ?_, stopsAt_dropWhile isBlank line, ?_⟩
  · rw [hsplit, hfront]
  · intro hmem
    exact hline ((List.takeWhile_sublist isBlank).subset hmem)
  · have hstart := lineStart_append hbefore hline (h.clause.text ++ rest)
    rwa [← hfront, ← hh.text, hh.start] at hstart

theorem Hit.Stands.insert {h : Hit} {t u rest : Text} (lead : Text)
    (hh : h.Stands t (lead ++ u) rest) :
    (h.moved lead.length).Stands (lead ++ (commentLead ++ (u ++ (h.clause.text ++ rest))))
      (lead ++ (commentLead ++ u)) rest := by
  have hstart : (lead ++ u).length = h.start := hh.start
  have hword : endsInWord (lead ++ (commentLead ++ u)) = false := by
    by_cases hnil : u = []
    · rw [hnil, List.append_nil, endsInWord_append lead (by decide)]
      decide
    · rw [← List.append_assoc, endsInWord_append _ hnil, ← endsInWord_append lead hnil]
      exact hh.word
  refine ⟨by simp [Hit.moved], ?_, hword, hh.wellFormed, hh.closes⟩
  rw [List.length_append] at hstart
  rw [Hit.moved, moveOf, if_pos (by omega), ← hstart]
  simp only [List.length_append]
  omega

theorem commentMarker_prefix_append {w behind : Text} (behind' : Text) (hw : 2 ≤ w.length)
    (h : commentMarker <+: w ++ behind) : commentMarker <+: w ++ behind' := by
  have hle : commentMarker.length ≤ w.length := hw
  exact (List.prefix_of_prefix_length_le h (List.prefix_append w behind) hle).trans
    (List.prefix_append w behind')

/-- What stands on a line up to the literal of a clause begins with a character that is no
blank, and it tells whether the line is commented. -/
theorem Hit.Stands.exists_solid {h : Hit} {t front rest : Text} (hh : h.Stands t front rest)
    {kind : Kind} {slot : Slot} (hslot : h.clause.slot? kind = some slot)
    (hne : slot.before ≠ []) {u : Text} (hu : StopsAt isBlank u) :
    ∃ c w, u ++ slot.before = c :: w ∧ isBlank c = false ∧
      ∀ behind behind', commentMarker <+: c :: (w ++ behind) →
        commentMarker <+: c :: (w ++ behind') := by
  obtain ⟨ch, tail, htext, hword⟩ := hh.wellFormed.exists_cons
  obtain ⟨d, lead, hlead⟩ := List.exists_cons_of_ne_nil hne
  have hd : d = ch := by
    rw [Clause.text_eq_of_slot? hslot, hlead, List.cons_append] at htext
    exact (List.cons.inj htext).1
  cases u with
  | nil =>
      refine ⟨d, lead, hlead, isBlank_eq_false_of_isWord (hd ▸ hword), ?_⟩
      intro behind behind' hmarker
      rw [commentMarker, List.cons_prefix_cons] at hmarker
      rw [← hd, ← hmarker.1] at hword
      exact absurd hword (by decide)
  | cons c u =>
      refine ⟨c, u ++ slot.before, rfl, hu c rfl, ?_⟩
      intro behind behind' hmarker
      have hlength : 2 ≤ (c :: (u ++ slot.before)).length := by
        rw [hlead]
        simp only [List.length_cons, List.length_append]
        omega
      exact commentMarker_prefix_append behind' hlength hmarker

/-! ## Either order -/

theorem toggle_eq {t : Text} {i : Nat} {p : Parameter} (hp : (parameters t)[i]? = some p) :
    toggle t i = .ok (toggleLine t p.lineStart) := by
  rw [toggle, parameterAt_eq hp]
  rfl

theorem Parameter.written_commented (ls n : Nat) (p : Parameter) (value : Text) :
    (p.commented ls n).written value = p.written value := rfl

section Order

variable {t before blanks u rest : Text} {h : Hit} {p : Parameter} {slot : Slot}

theorem Hit.Stands.slot_before_ne_nil {front : Text} (hh : h.Stands t front rest)
    (hmem : h ∈ clauses t) (hrow : p ∈ h.parameters t)
    (hslot : h.clause.slot? p.kind = some slot) : slot.before ≠ [] := by
  intro hnil
  have hbehind := (hh.occupies hmem hrow hslot).behind
  rw [hnil, List.append_nil, hh.start, (Hit.clause_eq_of_mem_parameters hrow).2.1] at hbehind
  exact Nat.lt_irrefl _ hbehind

theorem Hit.Stands.text_of_solid (hh : h.Stands t (before ++ (blanks ++ u)) rest)
    (hslot : h.clause.slot? p.kind = some slot) {c : Char} {w : Text}
    (hsolid : u ++ slot.before = c :: w) :
    t = before ++ (blanks ++ c :: (w ++ (slot.literal ++ (slot.after ++ rest)))) := by
  rw [← List.cons_append, ← hsolid, hh.text_of_slot? hslot]
  simp only [List.append_assoc]

theorem Hit.Stands.textStart_eq (hh : h.Stands t (before ++ (blanks ++ u)) rest)
    (hblanks : IsRun isBlank blanks) (hbreak : '\n' ∉ blanks) (hu : StopsAt isBlank u)
    (hslot : h.clause.slot? p.kind = some slot) (hne : slot.before ≠ []) :
    textStart t before.length = (before ++ blanks).length := by
  obtain ⟨c, w, hsolid, hc, -⟩ := hh.exists_solid hslot hne hu
  rw [hh.text_of_solid hslot hsolid, textStart_append hblanks hbreak hc]

/-- The line of a clause is commented in the same way whatever stands from the literal on. -/
theorem Hit.Stands.toggleLine_eq (hh : h.Stands t (before ++ (blanks ++ u)) rest)
    (hbefore : EndsLine before) (hblanks : IsRun isBlank blanks) (hbreak : '\n' ∉ blanks)
    (hu : StopsAt isBlank u) (hslot : h.clause.slot? p.kind = some slot)
    (hne : slot.before ≠ [])
    (hline : isCommentLine ((t.drop before.length).takeWhile (· ≠ '\n')) = false)
    (text : Text) :
    toggleLine (before ++ (blanks ++ (u ++ (slot.before ++ text)))) before.length =
      before ++ (blanks ++ (commentLead ++ (u ++ (slot.before ++ text)))) := by
  obtain ⟨c, w, hsolid, hc, hmarker⟩ := hh.exists_solid hslot hne hu
  -- A marker in front of the new text would stand in front of the old one.
  have hunmarked : ¬ commentMarker <+: c :: (w ++ text) := by
    intro hprefix
    have hold := hmarker text (slot.literal ++ (slot.after ++ rest)) hprefix
    rw [hh.text_of_solid hslot hsolid, takeWhile_line hbreak hc, Bool.eq_false_iff, ne_eq,
      isCommentLine_append_iff hblanks hc] at hline
    exact hline hold
  rw [← List.append_assoc u, hsolid, List.cons_append]
  exact toggleLine_append hbefore hblanks hbreak hc hunmarked

/-- The commented text, when the parameter of a clause is given a new value in it. -/
theorem setValue_insert (hh : h.Stands t (before ++ (blanks ++ u)) rest)
    (hbefore : EndsLine before) (hblanks : IsRun isBlank blanks) (hbreak : '\n' ∉ blanks)
    (hnone : NoneReaches t (before ++ blanks).length) {i : Nat}
    (hp : (parameters t)[i]? = some p) (hrow : p ∈ h.parameters t)
    (hslot : h.clause.slot? p.kind = some slot) (value : Text) :
    setValue (before ++ (blanks ++ (commentLead ++ (u ++ (h.clause.text ++ rest))))) i value =
      .ok (before ++ (blanks ++ (commentLead ++
        (u ++ (slot.before ++ (p.written value ++ (slot.after ++ rest))))))) := by
  have htext : t = before ++ (blanks ++ (u ++ (h.clause.text ++ rest))) := by
    rw [hh.text]
    simp
  rw [htext] at hh hnone hp hrow
  have hmoved := Hit.parameters_moved (hh.lineCommented hbefore hblanks hbreak)
  have hcommented := parameters_insert hbefore hblanks hbreak hnone
  have hrow' : p.commented before.length (before ++ blanks).length ∈
      (h.moved (before ++ blanks).length).parameters
        (before ++ (blanks ++ (commentLead ++ (u ++ (h.clause.text ++ rest))))) := by
    rw [hmoved]
    exact List.mem_map_of_mem hrow
  have hp' : (parameters (before ++ (blanks ++ (commentLead ++
      (u ++ (h.clause.text ++ rest))))))[i]? =
        some (p.commented before.length (before ++ blanks).length) := by
    rw [hcommented, List.getElem?_map, hp, Option.map_some]
  have hstands := Hit.Stands.insert (before ++ blanks) (by rwa [List.append_assoc])
  rw [List.append_assoc] at hstands
  rw [setValue_eq hp', substitute_eq hstands hrow' hslot, Parameter.written_commented]
  simp

end Order

/-- Setting a parameter and commenting its line come to the same text in either order, when
the line is not commented and no clause that a scan finds reaches over the place where the
text of the line begins. -/
theorem toggleLine_setValue {t : Text} {i : Nat} {p : Parameter}
    (hp : (parameters t)[i]? = some p)
    (hline : isCommentLine ((t.drop p.lineStart).takeWhile (· ≠ '\n')) = false)
    (hcross : ∀ h ∈ rangeHits t ++ listHits t ++ comparisonHits t,
      ¬ (h.start < textStart t p.lineStart ∧ textStart t p.lineStart < h.stop))
    (value : Text) :
    ∃ t₁ t₂, setValue t i value = .ok t₁ ∧ toggle t i = .ok t₂ ∧
      setValue t₂ i value = .ok (toggleLine t₁ p.lineStart) := by
  obtain ⟨h, hmem, hrow⟩ := mem_parameters_iff.mp (List.mem_of_getElem? hp)
  obtain ⟨front, rest, hh⟩ := exists_stands_of_mem_clauses hmem
  obtain ⟨slot, hslot⟩ := Hit.exists_slot hrow
  have hne := hh.slot_before_ne_nil hmem hrow hslot
  obtain ⟨before, blanks, u, rfl, hbefore, hblanks, hbreak, hu, hstart⟩ :=
    hh.exists_indentation
  rw [← Hit.lineStart_of_mem_parameters hrow] at hstart
  rw [hstart] at hline hcross ⊢
  have hnone : NoneReaches t (before ++ blanks).length := by
    rw [hh.textStart_eq hblanks hbreak hu hslot hne] at hcross
    exact noneReaches_iff.mpr hcross
  have hcommented := hh.toggleLine_eq hbefore hblanks hbreak hu hslot hne hline
  have htoggle : toggleLine t before.length =
      before ++ (blanks ++ (commentLead ++ (u ++ (h.clause.text ++ rest)))) := by
    have hold := hcommented (slot.literal ++ (slot.after ++ rest))
    rw [Clause.text_eq_of_slot? hslot, List.append_assoc, List.append_assoc, ← hold,
      hh.text_of_slot? hslot]
    simp only [List.append_assoc]
  have hset := setValue_insert hh hbefore hblanks hbreak hnone hp hrow hslot value
  refine ⟨_, _, setValue_eq hp value, toggle_eq hp, ?_⟩
  rw [hstart, htoggle, hset, substitute_eq hh hrow hslot, List.append_assoc, List.append_assoc,
    hcommented]

/-- A clause on the second of two lines gets a value with a quote, a line break and a marker,
and its line is commented. -/
theorem toggleLine_setValue_second :
    ∃ t₁ t₂,
      setValue (Text.ofString "a = 'x'\n b like 'y'") 1 (Text.ofString "it's\n--z") = .ok t₁ ∧
      toggle (Text.ofString "a = 'x'\n b like 'y'") 1 = .ok t₂ ∧
      setValue t₂ 1 (Text.ofString "it's\n--z") = .ok (toggleLine t₁ 8) ∧
      toggleLine t₁ 8 = Text.ofString "a = 'x'\n -- b like 'it''s\n--z'" := by
  have hat : ((parameters (Text.ofString "a = 'x'\n b like 'y'"))[1]?.map Parameter.lineStart) =
      some 8 := by decide
  obtain ⟨p, hp, hstart⟩ := Option.map_eq_some_iff.mp hat
  obtain ⟨t₁, t₂, hset, htoggle, hboth⟩ := toggleLine_setValue hp
    (by rw [hstart]; decide) (by rw [hstart]; decide)
    (Text.ofString "it's\n--z")
  have hnew : setValue (Text.ofString "a = 'x'\n b like 'y'") 1 (Text.ofString "it's\n--z") =
      .ok (Text.ofString "a = 'x'\n b like 'it''s\n--z'") := by decide
  rw [hstart] at hboth
  refine ⟨t₁, t₂, hset, htoggle, hboth, ?_⟩
  obtain rfl := Except.ok.inj (hset.symm.trans hnew)
  decide

end SqlSnippet
