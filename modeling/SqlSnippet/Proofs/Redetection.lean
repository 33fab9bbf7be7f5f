import SqlSnippet.Proofs.Retention
import SqlSnippet.Proofs.Splice

/-!
# A value that is set is found again

The text that an edit leaves is read from scratch the next time.  When the new value has no
quotes, and nothing in it could be taken for a part of the clause around it, the parameter is
found at the same place with exactly that value.  For the bound of a range the other bound
is found too, with the value that it had.
-/

namespace SqlSnippet

open Chars

/-- A prepared value can stand for the parameter: it holds no quote, nothing that opens or
ends a list, and no blanks around it that a literal would lose or a range would read.  A
list must have held a quote before. -/
structure Parameter.Admits (p : Parameter) (value : Text) : Prop where
  unquoted : quoteMark ∉ value
  simple : p.kind = .simple → '(' ∉ value ∧ ')' ∉ value ∧ value.strip = value
  list : p.kind = .list → ')' ∉ value ∧ quoteMark ∈ p.clause
  bound : p.kind = .rangeStart ∨ p.kind = .rangeEnd → value ≠ [] ∧ value.strip = value

/-- The two parameters are the same but for their values. -/
structure Parameter.SamePlace (p p' : Parameter) : Prop where
  field : p'.field = p.field
  kind : p'.kind = p.kind
  clauseStart : p'.clauseStart = p.clauseStart
  lineStart : p'.lineStart = p.lineStart
  isCommented : p'.isCommented = p.isCommented

/-- The parameter has this value; a list has the members that the value stands for. -/
def Parameter.Holds (p : Parameter) (value : Text) : Prop :=
  match p.kind with
  | .list => p.members = (value.splitOn ',').map Text.strip
  | _ => p.value = value

/-- What a new value of the parameter `p` has to come to in the text `t`. -/
structure Parameter.FoundAgain (p : Parameter) (value t : Text) (p' : Parameter) : Prop where
  found : p' ∈ parameters t
  place : p.SamePlace p'
  value : p'.Holds value
  upper : p.kind = .rangeStart →
    ∃ q ∈ parameters t, p'.PairedWith t q ∧ p.highValue = some q.value
  lower : p.kind = .rangeEnd →
    ∃ q ∈ parameters t, q.PairedWith t p' ∧ p.lowValue = some q.value

/-- The line of a clause and its comment do not depend on the clause behind its first
character. -/
theorem Hit.Stands.line_eq {h : Hit} {t front rest : Text} (hh : h.Stands t front rest)
    {lead : Text} (hlead : lead ≠ []) {text part part' : Text}
    (htext : h.clause.text = lead ++ part) (htext' : text = lead ++ part') :
    lineStart (front ++ (text ++ rest)) h.start = lineStart t h.start ∧
      isCommentedAt (front ++ (text ++ rest)) h.start = isCommentedAt t h.start := by
  rw [hh.text, htext, htext', ← hh.start, List.append_assoc, List.append_assoc]
  exact ⟨lineStart_congr front _ _, isCommentedAt_congr (head?_append_congr hlead _ _)⟩

theorem Hit.Stands.pairedWith {t front rest : Text} {n : Nat} {c : RangeClause}
    (hh : Hit.Stands ⟨n, .range c⟩ t front rest) {p q : Parameter}
    (hrows : Hit.parameters t ⟨n, .range c⟩ = [p, q]) : p.PairedWith t q := by
  have hp : (Hit.parameters t ⟨n, .range c⟩)[0]? = some p := by rw [hrows]; rfl
  have hkind : p.kind = .rangeStart := by
    obtain rfl := Option.some.inj hp
    rfl
  obtain ⟨q', hq', hpaired⟩ := hh.paired hp hkind
  rw [hrows] at hq'
  obtain rfl := Option.some.inj hq'
  exact hpaired

section Ranges

variable {t front rest value : Text} {n : Nat} {c : RangeClause}

theorem foundAgain_low (hh : Hit.Stands ⟨n, .range c⟩ t front rest)
    (hmem : ⟨n, .range c⟩ ∈ clauses t) {p : Parameter}
    (hp : p ∈ Hit.parameters t ⟨n, .range c⟩) (hkind : p.kind = .rangeStart)
    (hclear : quoteMark ∉ value) (hvalue : IsTrimmed value) (hne : value ≠ []) :
    ∃ p', p.FoundAgain value
      (front ++ (c.lead ++ (value.enclosed ++ (c.upperText ++ rest)))) p' := by
  have hc : c.WellFormed := hh.wellFormed
  generalize hc' : ({ c with low := value } : RangeClause) = c'
  have hwell : c'.WellFormed := hc' ▸ hc.withLow ⟨hclear, hne⟩
  have hold : c.text = c.lead ++ (c.low.enclosed ++ c.upperText) := by
    simp [RangeClause.text, RangeClause.lowerText]
  have hnew : c'.text = c.lead ++ (value.enclosed ++ c.upperText) := by
    simp [← hc', RangeClause.text, RangeClause.lowerText, RangeClause.upperText,
      RangeClause.lead, RangeClause.middle]
  have hmem' := hh.mem_clauses_range hmem hwell hc.lead_ne_nil hold hnew hc.low hclear
    hvalue.isRangeMiddle
  have hstands := hh.exchange (.range c') hwell trivial
  have hsplit : c.lead ++ (value.enclosed ++ (c.upperText ++ rest)) = c'.text ++ rest := by
    simp [hnew]
  obtain ⟨hline, hcommented⟩ := hh.line_eq hc.lead_ne_nil hold hnew
  rw [hsplit]
  rcases List.mem_pair.mp hp with rfl | rfl
  · subst hc'
    refine ⟨_, mem_parameters_iff.mpr ⟨_, hmem', List.mem_cons_self⟩,
      ⟨rfl, rfl, rfl, hline, hcommented⟩, rfl, fun _ => ?_, by simp [Hit.whole]⟩
    exact ⟨_, mem_parameters_iff.mpr
      ⟨_, hmem', List.mem_cons_of_mem _ List.mem_cons_self⟩, hstands.pairedWith rfl, rfl⟩
  · cases hkind

theorem foundAgain_high (hh : Hit.Stands ⟨n, .range c⟩ t front rest)
    (hmem : ⟨n, .range c⟩ ∈ clauses t) {p : Parameter}
    (hp : p ∈ Hit.parameters t ⟨n, .range c⟩) (hkind : p.kind = .rangeEnd)
    (hclear : quoteMark ∉ value) (hvalue : IsTrimmed value) (hne : value ≠ []) :
    ∃ p', p.FoundAgain value
      (front ++ ((c.lowerText ++ c.middle) ++ (value.enclosed ++ rest))) p' := by
  have hc : c.WellFormed := hh.wellFormed
  generalize hc' : ({ c with high := value } : RangeClause) = c'
  have hwell : c'.WellFormed := hc' ▸ hc.withHigh ⟨hclear, hne⟩
  have hbefore : c.lowerText ++ c.middle ≠ [] := by
    simp [RangeClause.lowerText, Text.enclosed]
  have hold : c.text = (c.lowerText ++ c.middle) ++ (c.high.enclosed ++ []) := by
    simp [RangeClause.text, RangeClause.upperText]
  have hnew : c'.text = (c.lowerText ++ c.middle) ++ (value.enclosed ++ []) := by
    simp [← hc', RangeClause.text, RangeClause.lowerText, RangeClause.upperText,
      RangeClause.lead, RangeClause.middle]
  have hmem' := hh.mem_clauses_range hmem hwell hbefore hold hnew hc.high hclear
    hvalue.isRangeMiddle
  have hstands := hh.exchange (.range c') hwell trivial
  have hsplit : (c.lowerText ++ c.middle) ++ (value.enclosed ++ rest) = c'.text ++ rest := by
    simp [hnew]
  obtain ⟨hline, hcommented⟩ := hh.line_eq hbefore hold hnew
  rw [hsplit]
  rcases List.mem_pair.mp hp with rfl | rfl
  · cases hkind
  · subst hc'
    refine ⟨_, mem_parameters_iff.mpr
        ⟨_, hmem', List.mem_cons_of_mem _ List.mem_cons_self⟩,
      ⟨rfl, rfl, rfl, hline, hcommented⟩, rfl, by simp [Hit.whole], fun _ => ?_⟩
    exact ⟨_, mem_parameters_iff.mpr ⟨_, hmem', List.mem_cons_self⟩,
      hstands.pairedWith rfl, rfl⟩

end Ranges

theorem foundAgain_list {t front rest value : Text} {n : Nat} {c : ListClause}
    (hh : Hit.Stands ⟨n, .list c⟩ t front rest) (hmem : ⟨n, .list c⟩ ∈ clauses t)
    {p : Parameter} (hp : p ∈ Hit.parameters t ⟨n, .list c⟩) (hquote : quoteMark ∈ p.clause)
    (hclear : quoteMark ∉ value) (hparen : ')' ∉ value) :
    ∃ p', p.FoundAgain value (front ++
      (c.lead ++ ('(' :: joinMembers (quoteMembers value) ++ [')'] ++ rest))) p' := by
  have hc : c.WellFormed := hh.wellFormed
  rw [(Hit.clause_eq_of_mem_parameters hp).1] at hquote
  have hbody : quoteMark ∈ c.body := hc.quoteMark_mem_body hquote
  have hmem' := hh.mem_clauses_list hmem hbody hclear hparen
  have hold : (Clause.list c).text = c.lead ++ ('(' :: c.body ++ [')']) :=
    List.append_assoc c.lead _ _
  have hnew : ListClause.text { c with body := joinMembers (quoteMembers value) } =
      c.lead ++ ('(' :: joinMembers (quoteMembers value) ++ [')']) :=
    List.append_assoc c.lead _ _
  obtain ⟨hline, hcommented⟩ := hh.line_eq hc.lead_ne_nil hold hnew
  rw [← List.append_assoc c.lead, ← hnew]
  obtain rfl := List.mem_singleton.mp hp
  exact ⟨_, mem_parameters_iff.mpr ⟨_, hmem', List.mem_cons_self⟩,
    ⟨rfl, rfl, rfl, hline, hcommented⟩, splitMembers_written hclear, by simp [Hit.whole],
    by simp [Hit.whole]⟩

theorem foundAgain_comparison {t front rest value : Text} {n : Nat} {c : Comparison}
    (hh : Hit.Stands ⟨n, .comparison c⟩ t front rest) (hmem : ⟨n, .comparison c⟩ ∈ clauses t)
    {p : Parameter} (hp : p ∈ Hit.parameters t ⟨n, .comparison c⟩)
    (hclear : quoteMark ∉ value) (hvalue : IsTrimmed value) (hopen : '(' ∉ value)
    (hclose : ')' ∉ value) :
    ∃ p', p.FoundAgain value
      (front ++ (c.lead ++ (value.enclosed ++ (c.closing ++ rest)))) p' := by
  have hc : c.WellFormed := hh.wellFormed
  have hmem' := hh.mem_clauses_comparison hmem (hvalue.isInert hclear hopen hclose)
  have hold : (Clause.comparison c).text = c.lead ++ (c.value.enclosed ++ c.closing) :=
    List.append_assoc c.lead _ _
  have hnew : Comparison.text { c with value } = c.lead ++ (value.enclosed ++ c.closing) :=
    List.append_assoc c.lead _ _
  have hsplit : c.lead ++ (value.enclosed ++ (c.closing ++ rest)) =
      Comparison.text { c with value } ++ rest := by
    simp [hnew]
  obtain ⟨hline, hcommented⟩ := hh.line_eq hc.lead_ne_nil hold hnew
  rw [hsplit]
  obtain rfl := List.mem_singleton.mp hp
  exact ⟨_, mem_parameters_iff.mpr ⟨_, hmem', List.mem_cons_self⟩,
    ⟨rfl, rfl, rfl, hline, hcommented⟩, rfl, by simp [Hit.whole], by simp [Hit.whole]⟩

/-! ## Every parameter -/

/-- A parameter of a text that is given a value it admits is found again in the new text: at
the same place, with that value, and with the other bound of its range as it was. -/
theorem setValue_redetects {t : Text} {i : Nat} {p : Parameter}
    (hp : (parameters t)[i]? = some p) (value : Text)
    (hadmits : p.Admits (p.target.prepare value)) :
    ∃ t' p', setValue t i value = .ok t' ∧ p.FoundAgain (p.target.prepare value) t' p' := by
  obtain ⟨h, hmem, hrow⟩ := mem_parameters_iff.mp (List.mem_of_getElem? hp)
  obtain ⟨front, rest, hh⟩ := exists_stands_of_mem_clauses hmem
  obtain ⟨slot, hslot⟩ := Hit.exists_slot hrow
  obtain ⟨hclear, hsimple, hlist, hbound⟩ := hadmits
  suffices hfound : ∃ p', p.FoundAgain (p.target.prepare value)
      (front ++ (slot.before ++ (p.written value ++ (slot.after ++ rest)))) p' by
    obtain ⟨p', hfound⟩ := hfound
    rw [← substitute_eq hh hrow hslot value] at hfound
    exact ⟨_, p', setValue_eq hp value, hfound⟩
  have hquoted : p.kind ≠ .list → p.written value = (p.target.prepare value).enclosed :=
    fun hkind => (p.written_eq_quoted hkind value).trans (Text.quoted_eq_enclosed hclear)
  obtain ⟨start, c | c | c⟩ := h
  · rcases List.mem_pair.mp hrow with hlow | hhigh
    · have hkind : p.kind = .rangeStart := by rw [hlow]; rfl
      obtain ⟨hne, hstrip⟩ := hbound (Or.inl hkind)
      rw [hkind] at hslot
      obtain rfl := Option.some.inj hslot
      rw [hquoted (by simp [hkind])]
      exact foundAgain_low hh hmem hrow hkind hclear (isTrimmed_of_strip_eq hstrip) hne
    · have hkind : p.kind = .rangeEnd := by rw [hhigh]; rfl
      obtain ⟨hne, hstrip⟩ := hbound (Or.inr hkind)
      rw [hkind] at hslot
      obtain rfl := Option.some.inj hslot
      rw [hquoted (by simp [hkind])]
      exact foundAgain_high hh hmem hrow hkind hclear (isTrimmed_of_strip_eq hstrip) hne
  · have hrow' := List.mem_singleton.mp hrow
    have hkind : p.kind = .list := by rw [hrow']; rfl
    have hprepare : p.target.prepare value = value := by rw [hrow']; rfl
    have hwritten : p.written value = '(' :: joinMembers (quoteMembers value) ++ [')'] := by
      rw [Parameter.written, hkind]
    rw [hprepare] at hclear hlist ⊢
    obtain ⟨hparen, hquote⟩ := hlist hkind
    rw [hkind] at hslot
    obtain rfl := Option.some.inj hslot
    rw [hwritten]
    exact foundAgain_list hh hmem hrow hquote hclear hparen
  · have hrow' := List.mem_singleton.mp hrow
    have hkind : p.kind = .simple := by rw [hrow']; rfl
    obtain ⟨hopen, hclose, hstrip⟩ := hsimple hkind
    rw [hkind] at hslot
    obtain rfl := Option.some.inj hslot
    rw [hquoted (by simp [hkind])]
    exact foundAgain_comparison hh hmem hrow hclear (isTrimmed_of_strip_eq hstrip) hopen hclose

/-- A range of two equal bounds, the upper one of which becomes a later day in the same
style. -/
theorem setValue_redetects_later_day :
    ∃ p t' p', (parameters (Text.ofString "d between '1-jan-24' and '1-jan-24'"))[1]? = some p ∧
      p.target.prepare (Text.ofString "2025-06-30") = Text.ofString "30-jun-25" ∧
      p.Admits (Text.ofString "30-jun-25") ∧
      setValue (Text.ofString "d between '1-jan-24' and '1-jan-24'") 1
        (Text.ofString "2025-06-30") = .ok t' ∧
      p.FoundAgain (Text.ofString "30-jun-25") t' p' := by
  let p : Parameter :=
    { field := Text.ofString "d (To)", kind := .rangeEnd, value := Text.ofString "1-jan-24",
      start := 20, stop := 35, clauseStart := 0, clauseStop := 35,
      clause := Text.ofString "d between '1-jan-24' and '1-jan-24'", lineStart := 0,
      isDate := true, isCommented := false, members := [],
      lowValue := some (Text.ofString "1-jan-24"), highValue := none }
  have hp : (parameters (Text.ofString "d between '1-jan-24' and '1-jan-24'"))[1]? = some p := by
    decide
  have hprepare : p.target.prepare (Text.ofString "2025-06-30") = Text.ofString "30-jun-25" := by
    decide
  have hadmits : p.Admits (Text.ofString "30-jun-25") :=
    ⟨by decide, by decide, by decide, by decide⟩
  obtain ⟨t', p', hset, hfound⟩ :=
    setValue_redetects hp (Text.ofString "2025-06-30") (hprepare ▸ hadmits)
  exact ⟨p, t', p', hp, hprepare, hadmits, hset, hprepare ▸ hfound⟩

end SqlSnippet
