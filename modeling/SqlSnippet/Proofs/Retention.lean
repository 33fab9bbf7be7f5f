import SqlSnippet.Proofs.Clauses
import SqlSnippet.Proofs.Exchange

/-!
# A clause with a new literal still counts

When the literal of a clause that counts is exchanged, the clause with the new literal is
found at the same place and counts again.  A range only has to be found.  A list or a
comparison must in addition stay apart from the ranges, and a comparison from the lists that
count.  What was found before the clause is still found, nothing begins inside the new
literal, and a list that reaches over a comparison still overlaps the range that kept it from
counting.
-/

namespace SqlSnippet

open Chars

/-- Another clause stands where a clause stood, when it takes its place. -/
theorem Hit.Stands.exchange {h : Hit} {t front rest : Text} (hh : h.Stands t front rest)
    (c : Clause) (hc : c.WellFormed) (hcloses : c.Closes rest) :
    Hit.Stands ⟨h.start, c⟩ (front ++ (c.text ++ rest)) front rest :=
  ⟨rfl, hh.start, hh.word, hc, hcloses⟩

/-- When the text of a clause changes behind its beginning, the same clauses are found before
it, provided that none of them reached into it. -/
theorem Hit.Stands.mem_hits_before {h : Hit} {t front rest : Text}
    (hh : h.Stands t front rest) {f : Form}
    (hcross : ∀ g ∈ f.hits t, g.start < h.start → g.stop ≤ h.start)
    {text before part part' : Text} (hbefore : before ≠ [])
    (htext : h.clause.text ++ rest = before ++ part) (htext' : text ++ rest = before ++ part')
    (halike : ∀ tail, f.ReadsAlike (tail ++ before) part part') {g : Hit}
    (hlt : g.start < h.start) :
    g ∈ f.hits (front ++ (text ++ rest)) ↔ g ∈ f.hits t := by
  rw [hh.text, htext] at hcross ⊢
  rw [htext']
  rw [← hh.start] at hcross hlt
  exact Form.hits_agree_before hcross (Or.inl (head?_append_congr hbefore part part'))
    (fun tail _ _ => (halike tail).of_append) hlt

/-- A clause whose text changes behind its beginning is found again. -/
theorem Hit.Stands.mem_hits_exchange {h : Hit} {t front rest : Text}
    (hh : h.Stands t front rest) {f : Form} (hmem : h ∈ f.hits t) (c : Clause)
    (hform : c.form = f) (hc : c.WellFormed) (hcloses : c.Closes rest)
    {before part part' : Text} (hbefore : before ≠ [])
    (htext : h.clause.text ++ rest = before ++ part) (htext' : c.text ++ rest = before ++ part')
    (halike : ∀ tail, f.ReadsAlike (tail ++ before) part part') :
    ⟨h.start, c⟩ ∈ f.hits (front ++ (c.text ++ rest)) := by
  refine Form.mem_hits_of_stands hmem hform rfl (hh.exchange c hc hcloses) ?_
  intro g hg hlt
  exact (hh.mem_hits_before (fun r hr => Form.stop_le_start hr hmem) hbefore htext htext'
    halike hlt).mp hg

theorem Hit.Stands.mem_clauses_range {t front rest before old value after : Text} {n : Nat}
    {c c' : RangeClause} (hh : Hit.Stands ⟨n, .range c⟩ t front rest)
    (hmem : ⟨n, .range c⟩ ∈ clauses t) (hc' : c'.WellFormed) (hbefore : before ≠ [])
    (htext : c.text = before ++ (old.enclosed ++ after))
    (htext' : c'.text = before ++ (value.enclosed ++ after))
    (hold : quoteMark ∉ old ∧ old ≠ []) (hclear : quoteMark ∉ value)
    (hvalue : isRangeMiddle value = false) :
    ⟨n, .range c'⟩ ∈ clauses (front ++ (c'.text ++ rest)) := by
  have hold' : (Clause.range c).text ++ rest =
      before ++ (old.enclosed ++ (after ++ rest)) := by
    simp [Clause.text, htext]
  have hnew : (Clause.range c').text ++ rest =
      before ++ (value.enclosed ++ (after ++ rest)) := by
    simp [Clause.text, htext']
  have hfound := hh.mem_hits_exchange (mem_clauses_iff.mp hmem).1 (.range c') rfl hc'
    trivial hbefore hold' hnew fun tail => readsAlike_range_bound (after ++ rest) hold hclear hvalue
  exact mem_clauses_iff.mpr ⟨hfound, trivial⟩

/-! ## Lists -/

theorem RangeClause.WellFormed.not_in_lead {c : RangeClause} (hc : c.WellFormed)
    {lead rest behind : Text} (hlead : quoteMark ∉ lead) :
    lead ++ '(' :: behind ≠ c.text ++ rest := by
  intro h
  have hframe : '(' ∉ c.lead := hc.isRun_lead.notMem (by decide)
  cases RangeClause.cut h with
  | lead y hfront hbehind =>
      cases y with
      | nil => exact absurd (List.cons.inj hbehind).1 (by decide)
      | cons ch y =>
          obtain ⟨rfl, -⟩ := List.cons.inj hbehind
          exact hframe (by simp [hfront])
  | low x y hfront hlow hbehind => exact hlead (by simp [hfront])
  | middle x y hfront hmiddle hbehind =>
      exact hlead (by simp [hfront, RangeClause.lowerText, Text.enclosed])
  | high x y hfront hhigh hbehind => exact hlead (by simp [hfront])
  | behind x hfront hrest =>
      exact hlead (by simp [hfront, RangeClause.text, RangeClause.lowerText, Text.enclosed])

/-- Among the members of a list that have just been written no range begins. -/
theorem RangeClause.WellFormed.not_in_written {c : RangeClause} (hc : c.WellFormed)
    {value before tail rest behind : Text} (hclear : quoteMark ∉ value)
    (hbody : joinMembers (quoteMembers value) = before ++ tail) :
    tail ++ ')' :: behind ≠ c.text ++ rest := by
  intro h
  have hquote : quoteMark ∉ c.lead := hc.isRun_lead.notMem (by decide)
  have hparen : ')' ∉ c.lead := hc.isRun_lead.notMem (by decide)
  have htext : tail ++ ')' :: behind =
      c.lead ++ quoteMark :: (c.low ++ quoteMark :: (c.upperText ++ rest)) := by
    rw [h]
    simp [RangeClause.text, RangeClause.lowerText, Text.enclosed]
  rcases cut_at_mark htext with ⟨y, hlead, hbehind⟩ | ⟨y, htail, -⟩
  · cases y with
    | nil => exact absurd (List.cons.inj hbehind).1 (by decide)
    | cons ch y =>
        obtain ⟨rfl, -⟩ := List.cons.inj hbehind
        exact hparen (by simp [hlead])
  · -- The lead would end with blanks before a quote, where only a comma can stand.
    have hmembers : ∀ m ∈ memberValues value, quoteMark ∉ m ∧ IsTrimmed m := fun m hm =>
      ⟨fun hmem => hclear ((mem_memberValues hm).2.2 _ hmem), (mem_memberValues hm).1⟩
    have hsuffix : c.lead ++ quoteMark :: y <:+
        joinMembers ((memberValues value).map Text.enclosed) := by
      rw [← quoteMembers_eq hclear, hbody, htail]
      exact List.suffix_append before _
    obtain ⟨ch, more, hcolumn, hword⟩ := hc.column.exists_cons
    have hfalse := isWord_eq_false_of_suffix hmembers hquote hc.endsBlank_lead hsuffix ch
      (by simp [RangeClause.lead, hcolumn])
    rw [hword] at hfalse
    cases hfalse

theorem Hit.Stands.exists_offset {h g : Hit} {t front rest front' rest' : Text}
    (hh : h.Stands t front rest) (hg : g.Stands t front' rest') (hle : h.start ≤ g.start) :
    ∃ u, g.start = h.start + u.length ∧ h.clause.text ++ rest = u ++ (g.clause.text ++ rest') := by
  have htext := hg.text.symm.trans hh.text
  rw [← hh.start, ← hg.start] at hle ⊢
  obtain ⟨u, rfl, hbehind⟩ := exists_append_of_length_le htext hle
  exact ⟨u, List.length_append, hbehind⟩

/-- No range begins inside a list that has just been written. -/
theorem Hit.Stands.stop_le_of_written {t front rest front' rest' value : Text} {n : Nat}
    {c : ListClause} {g : Hit} (hclear : quoteMark ∉ value)
    (hbody : c.body = joinMembers (quoteMembers value))
    (hh : Hit.Stands ⟨n, .list c⟩ t front rest) (hg : g.Stands t front' rest')
    (hform : g.clause.form = .range) (hle : n ≤ g.start) :
    Hit.stop ⟨n, .list c⟩ ≤ g.start := by
  have hc : c.WellFormed := hh.wellFormed
  obtain ⟨u, hstart, hbehind⟩ := hh.exists_offset hg hle
  rcases g with ⟨start, r | r | r⟩
  · have hr : r.WellFormed := hg.wellFormed
    have hsplit : u ++ (r.text ++ rest') = c.lead ++ '(' :: (c.body ++ ')' :: rest) := by
      refine hbehind.symm.trans ?_
      simp [Clause.text, ListClause.text]
    rcases cut_at_mark hsplit with ⟨y, hlead, hrange⟩ | ⟨u', rfl, hinside⟩
    · have hy : quoteMark ∉ y :=
        (notMem_of_eq_append hlead (hc.isRun_lead.notMem (by decide))).2
      exact absurd hrange.symm (hr.not_in_lead hy)
    rcases cut_at_mark hinside.symm with ⟨y, hmembers, hrange⟩ | ⟨u'', rfl, -⟩
    · rw [hbody] at hmembers
      exact absurd hrange.symm (hr.not_in_written hclear hmembers)
    · simp only [Hit.stop, Clause.text, ListClause.text, List.length_append, List.length_cons,
        List.length_nil] at hstart ⊢
      omega
  · cases hform
  · cases hform

theorem ListClause.WellFormed.quoteMark_mem_body {c : ListClause} (hc : c.WellFormed)
    (h : quoteMark ∈ c.text) : quoteMark ∈ c.body := by
  rcases List.mem_append.mp h with hopened | hclosed
  · rcases List.mem_append.mp hopened with hlead | hbody
    · exact absurd hlead (hc.isRun_lead.notMem (by decide))
    · exact List.mem_of_ne_of_mem (by decide) hbody
  · exact absurd hclosed (by decide)

theorem ListClause.WellFormed.withMembers {c : ListClause} (hc : c.WellFormed) {value : Text}
    (hclear : quoteMark ∉ value) (hparen : ')' ∉ value) :
    ListClause.WellFormed { c with body := joinMembers (quoteMembers value) } := by
  obtain ⟨first, more, hfirst, -⟩ := exists_first_written hclear
  exact hc.withBody ⟨paren_notMem_written hclear hparen, by simp [hfirst, Text.enclosed]⟩

/-- A list with new members counts, when no range reaches over its beginning. -/
theorem Hit.Stands.mem_clauses_list_of_ranges {t front rest value : Text} {n : Nat}
    {c : ListClause} (hh : Hit.Stands ⟨n, .list c⟩ t front rest)
    (hmem : ⟨n, .list c⟩ ∈ clauses t) (hclear : quoteMark ∉ value) (hparen : ')' ∉ value)
    (hranges : ∀ r ∈ Form.range.hits (front ++
      (ListClause.text { c with body := joinMembers (quoteMembers value) } ++ rest)),
        r.start < n → r.stop ≤ n) :
    ⟨n, .list { c with body := joinMembers (quoteMembers value) }⟩ ∈
      clauses (front ++
        (ListClause.text { c with body := joinMembers (quoteMembers value) } ++ rest)) := by
  have hc : c.WellFormed := hh.wellFormed
  have hwell := hc.withMembers hclear hparen
  have hold : (Clause.list c).text ++ rest = c.lead ++ '(' :: (c.body ++ ')' :: rest) := by
    simp [Clause.text, ListClause.text]
  have hnew : ListClause.text { c with body := joinMembers (quoteMembers value) } ++ rest =
      c.lead ++ '(' :: (joinMembers (quoteMembers value) ++ ')' :: rest) := by
    simp [ListClause.text, ListClause.lead]
  refine mem_clauses_iff.mpr ⟨?_, ?_⟩
  · exact hh.mem_hits_exchange (mem_clauses_iff.mp hmem).1 (.list _) rfl hwell trivial
      hc.lead_ne_nil hold hnew fun tail => readsAlike_list_body rest hc.body hwell.body.1
  · intro r hr
    by_cases hlt : r.start < n
    · exact Or.inr (hranges r hr hlt)
    · obtain ⟨front', rest', hstands⟩ := Form.exists_stands hr
      have hnew := hh.exchange (.list _) hwell trivial
      exact Or.inl (hnew.stop_le_of_written hclear rfl hstands
        (Form.form_eq_of_mem_hits hr) (Nat.not_lt.mp hlt))

/-- A list with new members counts, when it held a quote before. -/
theorem Hit.Stands.mem_clauses_list {t front rest value : Text} {n : Nat}
    {c : ListClause} (hh : Hit.Stands ⟨n, .list c⟩ t front rest)
    (hmem : ⟨n, .list c⟩ ∈ clauses t) (hquote : quoteMark ∈ c.body)
    (hclear : quoteMark ∉ value) (hparen : ')' ∉ value) :
    ⟨n, .list { c with body := joinMembers (quoteMembers value) }⟩ ∈
      clauses (front ++
        (ListClause.text { c with body := joinMembers (quoteMembers value) } ++ rest)) := by
  have hc : c.WellFormed := hh.wellFormed
  obtain ⟨first, more, hfirst, hclearFirst, htrimmed⟩ := exists_first_written hclear
  have hold : (Clause.list c).text ++ rest = c.lead ++ '(' :: (c.body ++ ')' :: rest) := by
    simp [Clause.text, ListClause.text]
  have hnew : ListClause.text { c with body := joinMembers (quoteMembers value) } ++ rest =
      c.lead ++ '(' :: (first.enclosed ++ (more ++ ')' :: rest)) := by
    simp [ListClause.text, ListClause.lead, hfirst]
  have hcross : ∀ g ∈ Form.range.hits t, g.start < n → g.stop ≤ n :=
    fun g hg hlt => clauses_stop_le (mem_clauses_of_range hg) hmem hlt
  apply hh.mem_clauses_list_of_ranges hmem hclear hparen
  intro r hr hlt
  have hr := (hh.mem_hits_before hcross hc.lead_ne_nil hold hnew
    (fun tail => readsAlike_range_list _ _ hquote hclearFirst htrimmed) hlt).mp hr
  exact hcross r hr hlt

/-! ## Lists around a comparison -/

/-- Behind a text that begins a literal, a list ends before the text, or its body goes on over
the opening quote. -/
theorem ListClause.WellFormed.cut_literal {c : ListClause} (hc : c.WellFormed)
    {tail lead value behind rest : Text} (hlead : ')' ∉ lead)
    (h : tail ++ (lead ++ (value.enclosed ++ behind)) = c.text ++ rest) :
    (∃ more, tail = c.text ++ more) ∨ ∃ x y, tail ++ lead = c.lead ++ '(' :: x ∧
      c.body = x ++ y ∧ value.enclosed ++ behind = y ++ ')' :: rest := by
  have h : (tail ++ lead) ++ (value.enclosed ++ behind) = c.text ++ rest := by
    rwa [List.append_assoc]
  cases ListClause.cut h with
  | lead y hfront hbehind =>
      have hquote : quoteMark ∉ c.lead := hc.isRun_lead.notMem (by decide)
      cases y with
      | nil => exact absurd (List.cons.inj hbehind).1 (by decide)
      | cons ch y =>
          obtain ⟨rfl, -⟩ := List.cons.inj hbehind
          exact absurd (by simp [hfront]) hquote
  | body x y hfront hbody hbehind => exact Or.inr ⟨x, y, hfront, hbody, hbehind⟩
  | behind x hfront hrest =>
      have hends : tail ++ lead = (c.lead ++ '(' :: c.body) ++ ')' :: x := by
        rw [hfront]
        simp [ListClause.text]
      rcases cut_at_mark hends with ⟨y, -, hmem⟩ | ⟨more, htail, -⟩
      · exact absurd (by simp [hmem]) hlead
      · exact Or.inl ⟨more, by simp [htail, ListClause.text]⟩

section Around

variable {lead value value' behind y y' z z' : Text}

/-- Two lists that begin at the same place are the same one in front of `n`, or both of them
reach over `n`, one up to `e` and the other up to `e'`. -/
def Reach (n e e' : Nat) (g g' : Hit) : Prop :=
  g.start = g'.start ∧ (g = g' ∧ g.stop ≤ n ∨ g.stop = e ∧ g'.stop = e')

/-- When the literal of a comparison is exchanged, a list that begins before it ends where it
ended, or it ends at the next parenthesis behind the opening quote in both texts. -/
private theorem read?_list_exchange (hlead : ')' ∉ lead) (hy : ')' ∉ y) (hy' : ')' ∉ y')
    (hvalue : value.enclosed ++ behind = y ++ ')' :: z)
    (hvalue' : value'.enclosed ++ behind = y' ++ ')' :: z') {tail rest : Text} {c : Clause}
    (h : Form.list.read? (tail ++ (lead ++ (value.enclosed ++ behind))) = some (c, rest)) :
    ∃ c' rest', Form.list.read? (tail ++ (lead ++ (value'.enclosed ++ behind))) =
        some (c', rest') ∧
      (c = c' ∧ c.text.length ≤ tail.length ∨
        c.text.length = tail.length + lead.length + y.length + 1 ∧
          c'.text.length = tail.length + lead.length + y'.length + 1) := by
  obtain ⟨hform, htext, hc, -⟩ := Form.read?_eq_some_iff.mp h
  cases c with
  | range c => cases hform
  | comparison c => cases hform
  | list c =>
      have hc : c.WellFormed := hc
      rcases hc.cut_literal hlead htext with ⟨more, rfl⟩ | ⟨x, u, hfront, hbody, hbehind⟩
      · refine ⟨.list c, more ++ (lead ++ (value'.enclosed ++ behind)),
          Form.read?_eq_some_iff.mpr ⟨rfl, by simp [Clause.text], hc, trivial⟩,
          Or.inl ⟨rfl, ?_⟩⟩
        rw [Clause.text, List.length_append]
        exact Nat.le_add_right _ _
      · obtain ⟨hx, hu⟩ := notMem_of_eq_append hbody hc.body.1
        obtain ⟨rfl, rfl⟩ := eq_of_append_mark_eq hy hu (hvalue.symm.trans hbehind)
        have hne : y' ≠ [] := by
          rintro rfl
          exact absurd (List.cons.inj hvalue').1 (by decide)
        have hnew : ')' ∉ x ++ y' ∧ x ++ y' ≠ [] :=
          ⟨List.not_mem_append hx hy', by simp [hne]⟩
        have hlength := congrArg List.length hfront
        simp only [List.length_append, List.length_cons] at hlength
        refine ⟨.list { c with body := x ++ y' }, z', Form.read?_eq_some_iff.mpr
          ⟨rfl, ?_, hc.withBody hnew, trivial⟩, Or.inr ⟨?_, ?_⟩⟩
        · have hsplit : tail ++ (lead ++ (value'.enclosed ++ behind)) =
              (tail ++ lead) ++ (y' ++ ')' :: z') := by
            rw [hvalue', List.append_assoc]
          rw [hsplit, hfront]
          simp [Clause.text, ListClause.text, ListClause.lead]
        · simp only [Clause.text, ListClause.text, hbody, List.length_append,
            List.length_cons, List.length_nil]
          omega
        · have hkeep : ListClause.lead { c with body := x ++ y' } = c.lead := rfl
          simp only [Clause.text, ListClause.text, hkeep, List.length_append,
            List.length_cons, List.length_nil]
          omega

/-- The lists that begin before a comparison correspond to each other when its literal is
exchanged. -/
theorem exists_list_reach {front : Text} (hlead : ')' ∉ lead) (hy : ')' ∉ y) (hy' : ')' ∉ y')
    (hvalue : value.enclosed ++ behind = y ++ ')' :: z)
    (hvalue' : value'.enclosed ++ behind = y' ++ ')' :: z') {g' : Hit}
    (hg' : g' ∈ Form.list.hits (front ++ (lead ++ (value'.enclosed ++ behind))))
    (hlt : g'.start < front.length) :
    ∃ g ∈ Form.list.hits (front ++ (lead ++ (value.enclosed ++ behind))),
      Reach front.length (front.length + lead.length + y.length + 1)
        (front.length + lead.length + y'.length + 1) g g' := by
  have hsimulate := Form.hits_simulate .list (front ++ (lead ++ (value.enclosed ++ behind)))
    (front ++ (lead ++ (value'.enclosed ++ behind))) 0 0 front.length
    (Reach front.length (front.length + lead.length + y.length + 1)
      (front.length + lead.length + y'.length + 1)) (by simp) (by simp) ?_ ?_ g'.start hlt
  · obtain ⟨g, hg, -, hreach⟩ := hsimulate.2 g' hg' (Nat.zero_add _).symm
    exact ⟨g, hg, hreach⟩
  · intro x hx _
    simp only [Nat.zero_add]
    rw [Form.hitAt?_append hx.le, Form.hitAt?_append hx.le]
    have hlength : (front.drop x).length = front.length - x := List.length_drop
    split
    · exact Option.Rel.none
    · cases hread : Form.list.read? (front.drop x ++ (lead ++ (value.enclosed ++ behind))) with
      | none =>
          cases hread' :
            Form.list.read? (front.drop x ++ (lead ++ (value'.enclosed ++ behind))) with
          | none => exact Option.Rel.none
          | some r =>
              obtain ⟨c, rest, hold, -⟩ :=
                read?_list_exchange hlead hy' hy hvalue' hvalue hread'
              rw [hread] at hold
              cases hold
      | some r =>
          obtain ⟨c', rest', hread', hreach⟩ :=
            read?_list_exchange hlead hy hy' hvalue hvalue' hread
          rw [hread']
          refine Option.Rel.some ⟨rfl, ?_⟩
          rcases hreach with ⟨rfl, hle⟩ | ⟨hstop, hstop'⟩
          · refine Or.inl ⟨rfl, ?_⟩
            simp only [Hit.stop]
            omega
          · refine Or.inr ⟨?_, ?_⟩
            · simp only [Hit.stop]
              omega
            · simp only [Hit.stop]
              omega
  · rintro g g' ⟨hstart, ⟨rfl, -⟩ | ⟨hstop, hstop'⟩⟩ i hi
    · exact Iff.rfl
    · simp only [Hit.Covers, Nat.zero_add]
      omega

end Around

/-! ## Comparisons -/

/-- A word that begins in a literal or its closing begins among the characters of the
literal. -/
theorem exists_word_of_literal {value closing rest u text : Text} {ch : Char}
    (hclosing : IsRun isClosingChar closing) (hword : isWord ch = true)
    (h : value.enclosed ++ (closing ++ rest) = u ++ ch :: text)
    (hlt : u.length < value.enclosed.length + closing.length) :
    ∃ v w, value = v ++ w ∧ ch :: text = w ++ quoteMark :: (closing ++ rest) := by
  have h : quoteMark :: (value ++ quoteMark :: (closing ++ rest)) = u ++ ch :: text := by
    simpa [Text.enclosed] using h
  cases u with
  | nil =>
      obtain ⟨rfl, -⟩ := List.cons.inj h
      exact absurd hword (by decide)
  | cons d u =>
      have hinside := (List.cons.inj h).2.symm
      rcases cut_at_mark hinside with ⟨w, hvalue, hbehind⟩ | ⟨v, rfl, hbehind⟩
      · exact ⟨u, w, hvalue, hbehind⟩
      · simp only [Text.enclosed, List.length_append, List.length_cons, List.length_nil] at hlt
        obtain ⟨more, hmore, -⟩ := exists_append_of_length_le
          (show closing ++ rest = (v ++ [ch]) ++ text by simp [hbehind])
          (by simp only [List.length_append, List.length_singleton]; omega)
        rw [isWord_eq_false_of_isClosingChar (hclosing ch (by simp [hmore]))] at hword
        cases hword

/-- A clause that begins in a comparison behind its lead begins in the literal. -/
theorem Hit.Stands.exists_word_of_comparison {t front rest front' rest' : Text} {n : Nat}
    {c : Comparison} {g : Hit} (hh : Hit.Stands ⟨n, .comparison c⟩ t front rest)
    (hg : g.Stands t front' rest') (hle : n + c.lead.length ≤ g.start)
    (hlt : g.start < Hit.stop ⟨n, .comparison c⟩) :
    ∃ v w, c.value = v ++ w ∧
      g.clause.text ++ rest' = w ++ quoteMark :: (c.closing ++ rest) := by
  obtain ⟨u, hstart, hbehind⟩ := hh.exists_offset hg (by simp only; omega)
  simp only at hstart
  have hsplit : u ++ (g.clause.text ++ rest') =
      c.lead ++ (c.value.enclosed ++ (c.closing ++ rest)) := by
    refine hbehind.symm.trans ?_
    simp [Clause.text, Comparison.text]
  obtain ⟨u', rfl, hliteral⟩ := exists_append_of_length_le hsplit (by omega)
  obtain ⟨ch, tail, htext, hword⟩ := Clause.WellFormed.exists_cons hg.wellFormed
  rw [htext, List.cons_append] at hliteral ⊢
  refine exists_word_of_literal (IsClosing.isRun hh.closes) hword hliteral ?_
  simp only [Hit.stop, Clause.text, Comparison.text, List.length_append] at hlt hstart
  omega

/-- No range begins in a comparison behind its lead when the literal does not end in the lead
of a range. -/
theorem Hit.Stands.stop_le_range {t front rest front' rest' : Text} {n : Nat}
    {c : Comparison} {g : Hit} (hh : Hit.Stands ⟨n, .comparison c⟩ t front rest)
    (hvalue : endsInRangeLead c.value = false) (hg : g.Stands t front' rest')
    (hform : g.clause.form = .range) (hle : n + c.lead.length ≤ g.start) :
    Hit.stop ⟨n, .comparison c⟩ ≤ g.start := by
  by_contra hlt
  obtain ⟨v, w, hsplit, hbehind⟩ :=
    hh.exists_word_of_comparison hg hle (Nat.not_le.mp hlt)
  rcases g with ⟨start, r | r | r⟩
  · have hr : r.WellFormed := hg.wellFormed
    have hc : c.WellFormed := hh.wellFormed
    have hlead : quoteMark ∉ r.lead := hr.isRun_lead.notMem (by decide)
    have hw : quoteMark ∉ w := (notMem_of_eq_append hsplit hc.value).2
    have hmarks : r.lead ++ quoteMark :: (r.low ++ quoteMark :: (r.upperText ++ rest')) =
        w ++ quoteMark :: (c.closing ++ rest) := by
      rw [← hbehind]
      simp [Clause.text, RangeClause.text, RangeClause.lowerText, Text.enclosed]
    obtain ⟨rfl, -⟩ := eq_of_append_mark_eq hlead hw hmarks
    rw [hsplit, hr.endsInRangeLead_append] at hvalue
    cases hvalue
  · cases hform
  · cases hform

/-- The parenthesis of a list that begins before a quote stands before it too. -/
theorem ListClause.WellFormed.exists_paren {c : ListClause} (hc : c.WellFormed)
    {front behind rest : Text} (h : front ++ quoteMark :: behind = c.text ++ rest) :
    ∃ tail, front = c.lead ++ '(' :: tail := by
  have hlead : quoteMark ∉ c.lead := hc.isRun_lead.notMem (by decide)
  have h : front ++ quoteMark :: behind = c.lead ++ '(' :: (c.body ++ ')' :: rest) := by
    rw [h]
    simp [ListClause.text]
  rcases cut_at_mark h with ⟨y, hfront, hbehind⟩ | ⟨tail, hfront, -⟩
  · cases y with
    | nil => exact absurd (List.cons.inj hbehind).1 (by decide)
    | cons ch y =>
        obtain ⟨rfl, -⟩ := List.cons.inj hbehind
        exact absurd (by simp [hfront]) hlead
  · exact ⟨tail, hfront⟩

/-- No list begins in a comparison when none begins in the literal. -/
theorem Hit.Stands.stop_le_list {t front rest front' rest' : Text} {n : Nat}
    {c : Comparison} {g : Hit} (hh : Hit.Stands ⟨n, .comparison c⟩ t front rest)
    (hvalue : beginsList c.value = false) (hg : g.Stands t front' rest')
    (hform : g.clause.form = .list) (hle : n ≤ g.start) :
    Hit.stop ⟨n, .comparison c⟩ ≤ g.start := by
  have hc : c.WellFormed := hh.wellFormed
  by_contra hlt
  rcases g with ⟨start, l | l | l⟩
  · cases hform
  · have hl : l.WellFormed := hg.wellFormed
    by_cases hlead : n + c.lead.length ≤ start
    · obtain ⟨v, w, hsplit, hbehind⟩ :=
        hh.exists_word_of_comparison hg hlead (Nat.not_le.mp hlt)
      obtain ⟨tail, hw⟩ := hl.exists_paren hbehind.symm
      rw [hsplit, hw, hl.beginsList_append] at hvalue
      cases hvalue
    · obtain ⟨u, hstart, hbehind⟩ := hh.exists_offset hg hle
      simp only at hstart
      have hsplit : c.lead ++ quoteMark :: (c.value ++ quoteMark :: (c.closing ++ rest)) =
          u ++ (l.text ++ rest') := by
        refine Eq.trans ?_ hbehind
        simp [Clause.text, Comparison.text, Text.enclosed]
      obtain ⟨y, hy, hlist⟩ := exists_append_of_length_le hsplit (by omega)
      obtain ⟨tail, rfl⟩ := hl.exists_paren hlist.symm
      -- The keyword in front of a parenthesis is not the operator of a comparison.
      obtain ⟨ch, hlast, hch⟩ := hl.lastSolid_lead
      obtain ⟨ch', hlast', hch'⟩ := hc.lastSolid_of_lead_eq
        (show c.lead = (u ++ l.lead) ++ '(' :: tail by simp [hy])
      rw [lastSolid_append_of_eq_some hlast, Option.some.injEq] at hlast'
      subst hlast'
      rcases hch' with rfl | hch'
      · exact absurd hch (by decide)
      · exact absurd (eq_of_sameLetter (by decide) (by decide) hch hch') (by decide)
  · cases hform

section Comparison

variable {t front rest value : Text} {n : Nat} {c : Comparison}

theorem Hit.Stands.mem_ranges_before (hh : Hit.Stands ⟨n, .comparison c⟩ t front rest)
    (hapart : ∀ r ∈ Form.range.hits t, Hit.Apart ⟨n, .comparison c⟩ r)
    (hvalue : value.IsInert) {g : Hit}
    (hlt : g.start < n + c.lead.length) :
    g ∈ Form.range.hits (front ++ (Comparison.text { c with value } ++ rest)) ↔
      g ∈ Form.range.hits t := by
  have hc : c.WellFormed := hh.wellFormed
  have hstart : front.length = n := hh.start
  have hold : t = (front ++ c.lead) ++ (c.value.enclosed ++ (c.closing ++ rest)) := by
    rw [hh.text]
    simp [Clause.text, Comparison.text]
  have hnew : front ++ (Comparison.text { c with value } ++ rest) =
      (front ++ c.lead) ++ (value.enclosed ++ (c.closing ++ rest)) := by
    simp [Comparison.text, Comparison.lead]
  have hcross : ∀ r ∈ Form.range.hits t, r.start < (front ++ c.lead).length →
      r.stop ≤ (front ++ c.lead).length := by
    intro r hr hlt
    rw [List.length_append, hstart] at hlt ⊢
    have hstop := hapart r hr
    simp only [Hit.Apart, Hit.stop, Clause.text, Comparison.text, List.length_append]
      at hstop ⊢
    omega
  rw [hold] at hcross ⊢
  rw [hnew]
  have hhead : (c.value.enclosed ++ (c.closing ++ rest)).head? =
      (value.enclosed ++ (c.closing ++ rest)).head? := rfl
  refine Form.hits_agree_before hcross (Or.inl hhead) ?_
    (by rwa [List.length_append, hstart])
  rintro tail - ⟨before, htail⟩
  refine readsAlike_range_value c.value _ hvalue.unquoted hvalue.middle fun ch hch => ?_
  obtain ⟨ch', hlast, hch'⟩ := hc.lastSolid_lead
  have hsame : ch = ch' := by
    have htail' := lastSolid_append_of_eq_some (t := before) (Option.mem_def.mp hch)
    rw [htail, lastSolid_append_of_eq_some hlast, Option.some.injEq] at htail'
    exact htail'.symm
  subst hsame
  rcases hch' with rfl | rfl | hch'
  · decide
  · decide
  · refine ⟨?_, ?_⟩
    · rw [← Bool.not_eq_true]
      exact fun h => absurd (eq_of_sameLetter (by decide) (by decide) h hch') (by decide)
    · rw [← Bool.not_eq_true]
      exact fun h => absurd (eq_of_sameLetter (by decide) (by decide) h hch') (by decide)

/-- A comparison with an inert literal stays apart from the ranges. -/
theorem Hit.Stands.apart_range (hh : Hit.Stands ⟨n, .comparison c⟩ t front rest)
    (hapart : ∀ r ∈ Form.range.hits t, Hit.Apart ⟨n, .comparison c⟩ r)
    (hvalue : value.IsInert) {r : Hit}
    (hr : r ∈ Form.range.hits (front ++ (Comparison.text { c with value } ++ rest))) :
    Hit.Apart ⟨n, .comparison { c with value }⟩ r := by
  by_cases hlt : r.start < n + c.lead.length
  · have hstop := hapart r ((hh.mem_ranges_before hapart hvalue hlt).mp hr)
    simp only [Hit.Apart, Hit.stop, Clause.text, Comparison.text, List.length_append]
      at hstop ⊢
    omega
  · have hc : c.WellFormed := hh.wellFormed
    have hnew := hh.exchange (.comparison { c with value }) (hc.withValue hvalue.unquoted) hh.closes
    obtain ⟨front', rest', hstands⟩ := Form.exists_stands hr
    exact Or.inl (hnew.stop_le_range hvalue.range hstands (Form.form_eq_of_mem_hits hr)
      (Nat.not_lt.mp hlt))

theorem Hit.Stands.mem_ranges_behind (hh : Hit.Stands ⟨n, .comparison c⟩ t front rest)
    (hapart : ∀ r ∈ Form.range.hits t, Hit.Apart ⟨n, .comparison c⟩ r)
    (hvalue : value.IsInert) (i : Nat) (d : Clause) :
    ⟨n + c.lead.length + c.value.enclosed.length + i, d⟩ ∈ Form.range.hits t ↔
      ⟨n + c.lead.length + value.enclosed.length + i, d⟩ ∈
        Form.range.hits (front ++ (Comparison.text { c with value } ++ rest)) := by
  have hapart' := fun r => hh.apart_range hapart hvalue (r := r)
  have hstart : front.length = n := hh.start
  have hold : t = ((front ++ c.lead) ++ c.value.enclosed) ++ (c.closing ++ rest) := by
    rw [hh.text]
    simp [Clause.text, Comparison.text]
  have hnew : front ++ (Comparison.text { c with value } ++ rest) =
      ((front ++ c.lead) ++ value.enclosed) ++ (c.closing ++ rest) := by
    simp [Comparison.text, Comparison.lead]
  have hlength : ∀ v : Text, n + c.lead.length + v.enclosed.length =
      ((front ++ c.lead) ++ v.enclosed).length := by
    intro v
    rw [List.length_append, List.length_append, hstart]
  have hword : ∀ v : Text, endsInWord ((front ++ c.lead) ++ v.enclosed) = false := by
    intro v
    rw [Text.enclosed, ← List.append_assoc, endsInWord_append_singleton]
    decide
  have hcross : ∀ r ∈ Form.range.hits t,
      r.start < ((front ++ c.lead) ++ c.value.enclosed).length →
        r.stop ≤ ((front ++ c.lead) ++ c.value.enclosed).length := by
    intro r hr hlt
    rw [← hlength] at hlt ⊢
    have := hapart r hr
    simp only [Hit.Apart, Hit.stop, Clause.text, Comparison.text, List.length_append] at this ⊢
    omega
  have hcross' : ∀ r ∈ Form.range.hits (front ++ (Comparison.text { c with value } ++ rest)),
      r.start < ((front ++ c.lead) ++ value.enclosed).length →
        r.stop ≤ ((front ++ c.lead) ++ value.enclosed).length := by
    intro r hr hlt
    rw [← hlength] at hlt ⊢
    have := hapart' r hr
    simp only [Hit.Apart, Hit.stop, Clause.text, Comparison.text, Comparison.lead,
      List.length_append] at this hlt ⊢
    omega
  rw [hlength, hlength]
  rw [hold] at hcross ⊢
  rw [hnew] at hcross' ⊢
  exact Form.hits_agree_behind (hword _) (hword _) hcross hcross' i d

/-- A list that reaches over the beginning of a comparison ends behind its literal, when no
parenthesis is in the literal. -/
theorem Hit.Stands.exists_paren_behind {front' rest' : Text} {g : Hit}
    (hh : Hit.Stands ⟨n, .comparison c⟩ t front rest) (hvalue : ')' ∉ c.value)
    (hg : g.Stands t front' rest') (hform : g.clause.form = .list) (hlt : g.start < n)
    (hstop : n < g.stop) : ∃ b z, c.closing ++ rest = b ++ ')' :: z ∧ ')' ∉ b := by
  have hc : c.WellFormed := hh.wellFormed
  obtain ⟨tail, hfront, hbehind⟩ := exists_append_of_length_le
    (hh.text.symm.trans hg.text) (by rw [hh.start, hg.start]; exact hlt.le)
  rcases g with ⟨start, l | l | l⟩
  · cases hform
  · have hl : l.WellFormed := hg.wellFormed
    have hsplit : tail ++ (c.lead ++ (c.value.enclosed ++ (c.closing ++ rest))) =
        l.text ++ rest' := by
      refine Eq.trans ?_ hbehind.symm
      simp [Clause.text, Comparison.text]
    rcases hl.cut_literal (hc.isRun_lead.notMem (by decide)) hsplit with
      ⟨more, rfl⟩ | ⟨x, y, -, hbody, hparen⟩
    · have hlength := congrArg List.length hfront
      have hstart := hh.start
      have hstart' := hg.start
      simp only [Hit.stop, Clause.text, List.length_append] at hlength hstop hstart hstart'
      omega
    · have hy : ')' ∉ y := (notMem_of_eq_append hbody hl.body.1).2
      rcases cut_at_mark hparen with ⟨b, rfl, hb⟩ | ⟨more, hmem, -⟩
      · exact ⟨b, rest', hb, fun hmem => hy (List.mem_append_right _ hmem)⟩
      · have : ')' ∈ c.value.enclosed := by simp [hmem]
        exact absurd (by simpa [Text.enclosed, quoteMark] using this) hvalue
  · cases hform

/-- A list that reaches over a comparison with a new literal reached over it before, and ended
no further behind the literal than now. -/
private theorem Hit.Stands.exists_list_over (hh : Hit.Stands ⟨n, .comparison c⟩ t front rest)
    (hvalue : value.IsInert) {l : Hit}
    (hl : l ∈ Form.list.hits (front ++ (Comparison.text { c with value } ++ rest)))
    (hlt : l.start < n) (hstop : n < l.stop) :
    ∃ l' ∈ Form.list.hits t, l'.start = l.start ∧ n < l'.stop ∧
      l'.stop + value.enclosed.length ≤ l.stop + c.value.enclosed.length := by
  have hc : c.WellFormed := hh.wellFormed
  have hstart : front.length = n := hh.start
  have hnew := hh.exchange (.comparison { c with value }) (hc.withValue hvalue.unquoted) hh.closes
  obtain ⟨front', rest', hstands⟩ := Form.exists_stands hl
  obtain ⟨b, z, hb, hbclear⟩ :=
    hnew.exists_paren_behind hvalue.unclosed hstands (Form.form_eq_of_mem_hits hl) hlt hstop
  have hb : c.closing ++ rest = b ++ ')' :: z := hb
  -- The first parenthesis behind the opening quote, with the old literal and the new one.
  have hmem : ')' ∈ c.value.enclosed ++ (c.closing ++ rest) := by simp [hb]
  obtain ⟨y, z', hy, hyclear⟩ := List.eq_append_cons_of_mem hmem
  have hy' : value.enclosed ++ (c.closing ++ rest) = (value.enclosed ++ b) ++ ')' :: z := by
    rw [hb, List.append_assoc]
  have hyclear' : ')' ∉ value.enclosed ++ b :=
    List.not_mem_append (by simpa [Text.enclosed, quoteMark] using hvalue.unclosed) hbclear
  have hlength : y.length ≤ c.value.enclosed.length + b.length := by
    have hsame : y ++ ')' :: z' = (c.value.enclosed ++ b) ++ ')' :: z := by
      rw [← hy, hb, List.append_assoc]
    rcases cut_at_mark hsame with ⟨tail, htail, -⟩ | ⟨tail, htail, -⟩
    · have := congrArg List.length htail
      simp only [List.length_append] at this
      omega
    · exact absurd (by simp [htail]) hyclear
  have hsplit : front ++ (Comparison.text { c with value } ++ rest) =
      front ++ (c.lead ++ (value.enclosed ++ (c.closing ++ rest))) := by
    simp [Comparison.text, Comparison.lead]
  have hsplit' : t = front ++ (c.lead ++ (c.value.enclosed ++ (c.closing ++ rest))) := by
    rw [hh.text]
    simp [Clause.text, Comparison.text]
  obtain ⟨l', hl', hsame, ⟨rfl, hle⟩ | ⟨hend, hend'⟩⟩ := exists_list_reach
    (hc.isRun_lead.notMem (by decide)) hyclear hyclear' hy hy' (hsplit ▸ hl) (by rwa [hstart])
  · exact absurd (hstart ▸ hle) (Nat.not_le.mpr hstop)
  · rw [← hsplit'] at hl'
    rw [List.length_append] at hend'
    exact ⟨l', hl', hsame, by omega, by omega⟩

/-- A list that overlapped a range beside a comparison still overlaps one when the comparison
has a new literal. -/
private theorem Hit.Stands.exists_range_over (hh : Hit.Stands ⟨n, .comparison c⟩ t front rest)
    (hapart : ∀ r ∈ Form.range.hits t, Hit.Apart ⟨n, .comparison c⟩ r)
    (hvalue : value.IsInert) {l l' : Hit}
    (hsame : l'.start = l.start) (hlt : l.start < n) (hstop : n < l.stop)
    (hle : l'.stop + value.enclosed.length ≤ l.stop + c.value.enclosed.length) {r : Hit}
    (hr : r ∈ Form.range.hits t) (hover : ¬ l'.Apart r) :
    ∃ r ∈ Form.range.hits (front ++ (Comparison.text { c with value } ++ rest)),
      ¬ l.Apart r := by
  have hrlt := r.start_lt_stop
  simp only [Hit.Apart, not_or, Nat.not_le] at hover
  rcases hapart r hr with hbehind | hbefore
  · have hpast : n + c.lead.length + c.value.enclosed.length ≤ r.start := by
      simp only [Hit.stop, Clause.text, Comparison.text, List.length_append] at hbehind
      omega
    obtain ⟨i, hi⟩ := Nat.exists_eq_add_of_le hpast
    have hmoved := (hh.mem_ranges_behind hapart hvalue i r.clause).mp (hi ▸ hr)
    refine ⟨_, hmoved, ?_⟩
    have hlt' := Hit.start_lt_stop ⟨n + c.lead.length + value.enclosed.length + i, r.clause⟩
    simp only [Hit.Apart] at hlt' ⊢
    omega
  · have hbefore : r.stop ≤ n := hbefore
    have hkept := (hh.mem_ranges_before hapart hvalue
      (show r.start < n + c.lead.length by omega)).mpr hr
    refine ⟨r, hkept, ?_⟩
    simp only [Hit.Apart]
    omega

/-- A list that counts does not reach over a comparison with a new literal: the same list
reached over it before, and then it overlapped a range that it still overlaps. -/
private theorem Hit.Stands.stop_le_of_counts
    (hh : Hit.Stands ⟨n, .comparison c⟩ t front rest)
    (hcounts : Hit.Counts t ⟨n, .comparison c⟩)
    (hvalue : value.IsInert) {l : Hit}
    (hl : l ∈ Form.list.hits (front ++ (Comparison.text { c with value } ++ rest)))
    (hfree : ∀ r ∈ Form.range.hits (front ++ (Comparison.text { c with value } ++ rest)),
      l.Apart r) (hlt : l.start < n) : l.stop ≤ n := by
  obtain ⟨hapart, hlists⟩ := hcounts
  by_contra hstop
  rw [Nat.not_le] at hstop
  obtain ⟨l', hl', hsame, hreach, hle⟩ := hh.exists_list_over hvalue hl hlt hstop
  have hover : ¬ Hit.Apart ⟨n, .comparison c⟩ l' := by
    have := Hit.start_lt_stop ⟨n, .comparison c⟩
    simp only [Hit.Apart] at this ⊢
    omega
  refine hover (hlists l' hl' fun r hr => ?_)
  by_contra hnot
  obtain ⟨r', hr', hnot'⟩ :=
    hh.exists_range_over hapart hvalue hsame hlt hstop hle hr hnot
  exact hnot' (hfree r' hr')

/-- A comparison with a new literal stays apart from the lists that count. -/
theorem Hit.Stands.apart_list (hh : Hit.Stands ⟨n, .comparison c⟩ t front rest)
    (hcounts : Hit.Counts t ⟨n, .comparison c⟩)
    (hvalue : value.IsInert) {l : Hit}
    (hl : l ∈ Form.list.hits (front ++ (Comparison.text { c with value } ++ rest)))
    (hfree : ∀ r ∈ Form.range.hits (front ++ (Comparison.text { c with value } ++ rest)),
      l.Apart r) : Hit.Apart ⟨n, .comparison { c with value }⟩ l := by
  by_cases hle : n ≤ l.start
  · have hc : c.WellFormed := hh.wellFormed
    have hnew := hh.exchange (.comparison { c with value }) (hc.withValue hvalue.unquoted) hh.closes
    obtain ⟨front', rest', hstands⟩ := Form.exists_stands hl
    exact Or.inl (hnew.stop_le_list hvalue.list hstands (Form.form_eq_of_mem_hits hl) hle)
  · exact Or.inr (hh.stop_le_of_counts hcounts hvalue hl hfree
      (Nat.not_le.mp hle))

/-- A comparison with a new literal counts. -/
theorem Hit.Stands.mem_clauses_comparison (hh : Hit.Stands ⟨n, .comparison c⟩ t front rest)
    (hmem : ⟨n, .comparison c⟩ ∈ clauses t) (hvalue : value.IsInert) :
    ⟨n, .comparison { c with value }⟩ ∈
      clauses (front ++ (Comparison.text { c with value } ++ rest)) := by
  have hc : c.WellFormed := hh.wellFormed
  obtain ⟨hfound, hcounts⟩ := mem_clauses_iff.mp hmem
  have hold : (Clause.comparison c).text ++ rest =
      c.lead ++ (c.value.enclosed ++ (c.closing ++ rest)) := by
    simp [Clause.text, Comparison.text]
  have hnew : (Clause.comparison { c with value }).text ++ rest =
      c.lead ++ (value.enclosed ++ (c.closing ++ rest)) := by
    simp [Clause.text, Comparison.text, Comparison.lead]
  refine mem_clauses_iff.mpr ⟨?_, ?_, ?_⟩
  · exact hh.mem_hits_exchange hfound (.comparison { c with value }) rfl
      (hc.withValue hvalue.unquoted) hh.closes hc.lead_ne_nil hold hnew
      fun tail => readsAlike_comparison_value (c.closing ++ rest) hc.value hvalue.unquoted
  · exact fun r hr => hh.apart_range hcounts.1 hvalue hr
  · exact fun l hl hfree => hh.apart_list hcounts hvalue hl hfree

end Comparison

end SqlSnippet
