import SqlSnippet.Proofs.Crossing
import SqlSnippet.Proofs.Doubling
import SqlSnippet.Proofs.Retention
import SqlSnippet.Proofs.Splice

/-!
# A list that is given its own value

The value of a list shows its members without the quotes around them.  When it is written into the
list, every member is put between quotes again, and the blanks around it are lost.  So the new list
has the members of the old one up to these blanks, and writing its value into it changes nothing
more.  The other rows stay as they were, with two exceptions: a list without quotes may come to
stand in the bound of a range, and a comparison may reach over the end of a list that does not end
in a quoted member.
-/

namespace SqlSnippet

open Chars

/-- What stands in a list in front of a member: nothing but blanks, or a comma and blanks behind
it. -/
def LeadsToMember (t : Text) : Prop := IsRun isBlank t ∨ lastSolid t = some ','

theorem leadsToMember_append {before blanks : Text} (hbefore : before = [] ∨ [','] <:+ before)
    (hblanks : IsRun isBlank blanks) : LeadsToMember (before ++ blanks) := by
  rcases hbefore with rfl | ⟨more, rfl⟩
  · exact Or.inl hblanks
  · refine Or.inr ?_
    rw [lastSolid_append_blanks _ hblanks]
    exact lastSolid_append_singleton more (by decide)

theorem ListClause.WellFormed.opensMember {c : ListClause} (hc : c.WellFormed) (front : Text)
    {x : Text} (hx : LeadsToMember x) : OpensMember (front ++ (c.lead ++ '(' :: x)) := by
  rcases hx with hblanks | hcomma
  · obtain ⟨ch, hlast, hch⟩ := hc.lastSolid_lead
    exact Or.inr ⟨front ++ c.lead, x, ch, by simp, hblanks, lastSolid_append_of_eq_some hlast, hch⟩
  · have hsplit : front ++ (c.lead ++ '(' :: x) = (front ++ (c.lead ++ ['('])) ++ x := by simp
    rw [OpensMember, hsplit]
    exact Or.inl (lastSolid_append_of_eq_some hcomma)

theorem exists_intercalate_concat (sep : Text) (parts : List Text) (last : Text) :
    ∃ before, List.intercalate sep (parts ++ [last]) = before ++ last ∧
      (before = [] ∨ sep <:+ before) := by
  induction parts with
  | nil => exact ⟨[], by simp, Or.inl rfl⟩
  | cons part parts ih =>
      obtain ⟨before, hjoin, hbefore⟩ := ih
      refine ⟨part ++ sep ++ before, ?_, Or.inr ?_⟩
      · rw [List.cons_append, List.intercalate_cons_of_ne_nil (by simp), hjoin]
        simp
      · rcases hbefore with rfl | hbefore
        · simp
        · exact hbefore.trans (List.suffix_append _ _)

/-- A part whose last character is a quote is a literal, if the member that it stands for holds
no quote. -/
theorem enclosed_unquoted_strip {part : Text} (hlast : lastSolid part = some quoteMark)
    (hclear : quoteMark ∉ part.strip.unquoted) : part.strip.unquoted.enclosed = part.strip := by
  obtain ⟨x, y, hx, hy, hpart⟩ := exists_blanks_strip part
  have hsolid : lastSolid part.strip = some quoteMark := by
    have heq := congrArg lastSolid hpart
    rw [← List.append_assoc, lastSolid_append_blanks _ hy, lastSolid_append, lastSolid_eq_none hx,
      Option.or_none, hlast] at heq
    exact heq.symm
  have htrimmed := isTrimmed_strip part
  generalize part.strip = literal at hclear hsolid htrimmed ⊢
  obtain ⟨before, ch, rfl⟩ : ∃ before ch, literal = before ++ [ch] := by
    rcases List.eq_nil_or_concat' literal with rfl | h
    · cases hsolid
    · exact h
  have hch : isBlank ch = false := by
    have hend := htrimmed.2
    rw [endsBlank_append_singleton_iff, Bool.not_eq_true] at hend
    exact hend
  rw [lastSolid_append_singleton before hch, Option.some.injEq] at hsolid
  subst hsolid
  cases before with
  | nil => exact absurd (by decide) hclear
  | cons first before =>
      by_cases hfirst : first = quoteMark
      · subst hfirst
        simp [Text.unquoted, Text.enclosed]
      · rw [List.cons_append, Text.unquoted, if_neg (fun h => hfirst h.1)] at hclear
        simp at hclear

/-- A list whose last character is a quote ends in its last member between quotes. -/
theorem exists_last_of_quote {body : Text} (hclear : ∀ m ∈ splitMembers body, quoteMark ∉ m)
    (hlast : lastSolid body = some quoteMark) :
    ∃ x member y, body = x ++ (member.enclosed ++ y) ∧
      (splitMembers body).getLast? = some member ∧ LeadsToMember x ∧ IsRun isBlank y := by
  obtain ⟨parts, part, hparts⟩ : ∃ parts part, Text.splitOn ',' body = parts ++ [part] :=
    (List.eq_nil_or_concat' _).resolve_left (Text.splitOn_ne_nil ',' body)
  obtain ⟨before, hjoin, hbefore⟩ := exists_intercalate_concat [','] parts part
  have hbody : body = before ++ part := by
    rw [← hjoin, ← hparts, Text.splitOn_eq, List.intercalate_splitOn]
  have hmembers : (splitMembers body).getLast? = some part.strip.unquoted := by
    simp [splitMembers, hparts]
  have hpart : lastSolid part = some quoteMark := by
    rw [hbody, lastSolid_append] at hlast
    cases hsolid : lastSolid part with
    | some ch => rwa [hsolid, Option.some_or] at hlast
    | none =>
        rw [hsolid, Option.none_or] at hlast
        rcases hbefore with rfl | ⟨more, rfl⟩
        · cases hlast
        · rw [lastSolid_append_singleton more (by decide)] at hlast
          exact absurd hlast (by decide)
  have hliteral := enclosed_unquoted_strip hpart (hclear _ (List.mem_of_getLast? hmembers))
  obtain ⟨x, y, hx, hy, hblanks⟩ := exists_blanks_strip part
  refine ⟨before ++ x, part.strip.unquoted, y, ?_, hmembers, leadsToMember_append hbefore hx, hy⟩
  rw [hliteral, List.append_assoc, ← hblanks, hbody]

theorem exists_last_joined {members : List Text} {member : Text}
    (hlast : members.getLast? = some member) :
    ∃ x, joinMembers (members.map Text.enclosed) = x ++ member.enclosed ∧ LeadsToMember x := by
  obtain ⟨others, rfl⟩ := List.getLast?_eq_some_iff.mp hlast
  obtain ⟨before, hjoin, hbefore⟩ :=
    exists_intercalate_concat [',', ' '] (others.map Text.enclosed) member.enclosed
  refine ⟨before, ?_, ?_⟩
  · rw [joinMembers, Text.join, List.map_append, List.map_singleton, hjoin]
  · rcases hbefore with rfl | ⟨more, rfl⟩
    · exact Or.inl (by simp [IsRun])
    · have hsplit : more ++ [',', ' '] = (more ++ [',']) ++ [' '] := by simp
      rw [hsplit]
      refine leadsToMember_append (Or.inr (List.suffix_append more _)) ?_
      simp only [IsRun, List.mem_singleton, forall_eq]
      decide

/-- A member without the blanks in front of it begins with a character that closes nothing, and so
does its quote. -/
theorem stopsAt_isClosingChar_stripLeft {member : Text} (hparen : ')' ∉ member) (rest : Text) :
    StopsAt isClosingChar (member.stripLeft ++ quoteMark :: rest) := by
  have hblank : StopsAt isBlank member.stripLeft := stopsAt_dropWhile isBlank member
  have hsubset : ∀ ch ∈ member.stripLeft, ch ∈ member :=
    fun ch hch => (List.dropWhile_sublist isBlank).subset hch
  cases hfirst : member.stripLeft with
  | nil => exact StopsAt.cons (by decide) rest
  | cons ch tail =>
      rw [hfirst] at hblank hsubset
      have hne : ch ≠ ')' := by
        rintro rfl
        exact hparen (hsubset _ List.mem_cons_self)
      apply StopsAt.cons
      rw [isClosingChar, hblank ch rfl, Bool.false_or, beq_eq_false_iff_ne]
      exact hne

/-- A list that ends in a quoted member closes behind it. -/
theorem Hit.Stands.exists_lastMember {t front rest x member y : Text} {n : Nat} {c : ListClause}
    (hh : Hit.Stands ⟨n, .list c⟩ t front rest) (hbody : c.body = x ++ (member.enclosed ++ y))
    (hx : LeadsToMember x) (hy : IsRun isBlank y) (hclear : quoteMark ∉ member) :
    ∃ before behind, LastMember before member.strip behind ∧
      t = before ++ (member.strip ++ (behind ++ rest)) ∧
      Hit.stop ⟨n, .list c⟩ = memberStop before member.strip behind := by
  have hc : c.WellFormed := hh.wellFormed
  have hstart : front.length = n := hh.start
  obtain ⟨blanks, hblanks, hleft⟩ := stripRight_append member.stripLeft
  rw [← Text.strip] at hleft
  have hmember : member = member.indentation ++ (member.strip ++ blanks) := by
    rw [← hleft, member.indentation_append_stripLeft]
  have hparen : ')' ∉ member := fun hmem => hc.body.1 (by simp [hbody, Text.enclosed, hmem])
  have hsolid := stopsAt_isClosingChar_stripLeft hparen (y ++ [')'])
  rw [hleft, List.append_assoc] at hsolid
  have hbody : c.body = x ++ quoteMark ::
      (member.indentation ++ (member.strip ++ (blanks ++ quoteMark :: y))) := by
    rw [hbody, Text.enclosed]
    conv_lhs => rw [hmember]
    simp
  refine ⟨front ++ (c.lead ++ '(' :: x) ++ quoteMark :: member.indentation,
    blanks ++ quoteMark :: (y ++ [')']), ⟨?_, ?_, hsolid, ?_⟩, ?_, ?_⟩
  · exact ⟨_, _, rfl, hc.opensMember front hx, isRun_takeWhile isBlank member⟩
  · exact fun hmem => hclear (mem_of_mem_strip hmem)
  · refine ⟨blanks, y ++ [')'], rfl, hblanks, ?_⟩
    exact (hy.mono fun _ hch => isClosingChar_of_isBlank hch).append
      (by simp [IsRun, isClosingChar])
  · rw [hh.text]
    simp [Clause.text, ListClause.text, hbody]
  · simp only [Hit.stop, Clause.text, ListClause.text, hbody, memberStop, List.length_append,
      List.length_cons, List.length_nil]
    omega

/-! ## The new list -/

/-- The list with its own value written into it. -/
def ListClause.relisted (c : ListClause) : ListClause :=
  { c with body := joinMembers (quoteMembers (joinMembers (splitMembers c.body))) }

section Relisted

variable {c : ListClause}

theorem ListClause.quoteMark_notMem_value (hclear : ∀ m ∈ splitMembers c.body, quoteMark ∉ m) :
    quoteMark ∉ joinMembers (splitMembers c.body) :=
  notMem_joinMembers (by decide) hclear

theorem ListClause.WellFormed.paren_notMem_value (hc : c.WellFormed) :
    ')' ∉ joinMembers (splitMembers c.body) :=
  notMem_joinMembers (by decide) fun _ hm hmem => hc.body.1 ((mem_splitMembers hm).2 _ hmem)

/-- The new list has the members of the old one without the blanks around them. -/
theorem ListClause.splitMembers_relisted (hclear : ∀ m ∈ splitMembers c.body, quoteMark ∉ m) :
    splitMembers c.relisted.body = (splitMembers c.body).map Text.strip := by
  rw [relisted, splitMembers_written (quoteMark_notMem_value hclear),
    memberValues_joinMembers_splitMembers]

theorem ListClause.body_relisted (hclear : ∀ m ∈ splitMembers c.body, quoteMark ∉ m) :
    c.relisted.body = joinMembers (((splitMembers c.body).map Text.strip).map Text.enclosed) := by
  rw [relisted, quoteMembers_eq (quoteMark_notMem_value hclear),
    memberValues_joinMembers_splitMembers]

/-- Writing the value of the new list into it changes nothing. -/
theorem ListClause.relisted_relisted (hclear : ∀ m ∈ splitMembers c.body, quoteMark ∉ m) :
    c.relisted.relisted = c.relisted := by
  have hbody : c.relisted.relisted.body = c.relisted.body :=
    congrArg joinMembers (quoteMembers_shownAfter_iff.mpr (quoteMark_notMem_value hclear))
  calc c.relisted.relisted = { c with body := c.relisted.relisted.body } := rfl
    _ = { c with body := c.relisted.body } := by rw [hbody]
    _ = c.relisted := rfl

end Relisted

/-- The scan for this form finds no clause that reaches over the position. -/
def Form.NoneReaches (f : Form) (t : Text) (n : Nat) : Prop :=
  ∀ g ∈ f.hits t, g.start < n → g.stop ≤ n

section Lists

variable {t front rest : Text} {n : Nat} {c : ListClause}

/-- The row of a list that is found at a position. -/
def ListClause.row (c : ListClause) (t : Text) (n : Nat) : Parameter :=
  { Hit.whole t ⟨n, .list c⟩ .list (joinMembers (splitMembers c.body)) with
    members := splitMembers c.body }

theorem ListClause.parameters_eq (c : ListClause) (t : Text) (n : Nat) :
    Hit.parameters t ⟨n, .list c⟩ = [c.row t n] := rfl

/-- A list that is given its own value is exchanged for the new list. -/
theorem Hit.Stands.setValue_list (hh : Hit.Stands ⟨n, .list c⟩ t front rest)
    (hmem : ⟨n, .list c⟩ ∈ clauses t) :
    setValue t (rowsBefore t n) (joinMembers (splitMembers c.body)) =
      .ok (front ++ (c.relisted.text ++ rest)) := by
  have hrow : c.row t n ∈ Hit.parameters t ⟨n, .list c⟩ := List.mem_singleton_self _
  have hp : (SqlSnippet.parameters t)[rowsBefore t n]? = some (c.row t n) :=
    getElem?_parameters_iff.mpr ⟨_, hmem, 0, rfl, rfl⟩
  have hslot : (Clause.list c).slot? (c.row t n).kind =
      some ⟨c.lead, '(' :: c.body ++ [')'], []⟩ := rfl
  rw [setValue_eq hp, substitute_eq hh hrow hslot]
  simp [ListClause.row, Hit.whole, Parameter.written, ListClause.text, ListClause.relisted,
    ListClause.lead]

theorem Hit.Stands.relisted (hh : Hit.Stands ⟨n, .list c⟩ t front rest)
    (hclear : ∀ m ∈ splitMembers c.body, quoteMark ∉ m) :
    Hit.Stands ⟨n, .list c.relisted⟩ (front ++ (c.relisted.text ++ rest)) front rest := by
  have hc : c.WellFormed := hh.wellFormed
  exact hh.exchange (.list c.relisted)
    (hc.withMembers (ListClause.quoteMark_notMem_value hclear) hc.paren_notMem_value) trivial

/-- The new list counts, when the old one holds a quote or no range reaches over its beginning. -/
theorem Hit.Stands.mem_clauses_relisted (hh : Hit.Stands ⟨n, .list c⟩ t front rest)
    (hmem : ⟨n, .list c⟩ ∈ clauses t) (hclear : ∀ m ∈ splitMembers c.body, quoteMark ∉ m)
    (hbegins : quoteMark ∈ c.body ∨
      Form.range.NoneReaches (front ++ (c.relisted.text ++ rest)) n) :
    ⟨n, .list c.relisted⟩ ∈ clauses (front ++ (c.relisted.text ++ rest)) := by
  have hc : c.WellFormed := hh.wellFormed
  have hvalue := ListClause.quoteMark_notMem_value hclear
  rcases hbegins with hquote | hranges
  · exact hh.mem_clauses_list hmem hquote hvalue hc.paren_notMem_value
  · exact hh.mem_clauses_list_of_ranges hmem hvalue hc.paren_notMem_value hranges

/-- Behind two lists that count and are followed by the same text the scans find the same clauses,
if the scan for comparisons does. -/
theorem Hit.Stands.sameBehind_list {t' front' : Text} {c' : ListClause}
    (hh : Hit.Stands ⟨n, .list c⟩ t front rest) (hmem : ⟨n, .list c⟩ ∈ clauses t)
    (hh' : Hit.Stands ⟨n, .list c'⟩ t' front' rest) (hmem' : ⟨n, .list c'⟩ ∈ clauses t')
    (hcomparisons : ∀ i d, ⟨Hit.stop ⟨n, .list c⟩ + i, d⟩ ∈ Form.comparison.hits t ↔
      ⟨Hit.stop ⟨n, .list c'⟩ + i, d⟩ ∈ Form.comparison.hits t') :
    SameBehind (Hit.stop ⟨n, .list c⟩) (Hit.stop ⟨n, .list c'⟩) t t' := by
  intro f i d
  cases f with
  | range =>
      exact hh.hits_agree_behind hh'
        (fun r hr => clauses_stop_le_stop (mem_clauses_of_range hr) hmem)
        (fun r hr => clauses_stop_le_stop (mem_clauses_of_range hr) hmem') i d
  | list =>
      exact hh.hits_agree_behind hh'
        (fun l hl => Form.stop_le_stop (mem_clauses_iff.mp hmem).1 hl)
        (fun l hl => Form.stop_le_stop (mem_clauses_iff.mp hmem').1 hl) i d
  | comparison => exact hcomparisons i d

/-- Behind a list that ends in a quoted member the same comparisons are found when the list is
given its own value. -/
theorem Hit.Stands.comparisons_behind (hh : Hit.Stands ⟨n, .list c⟩ t front rest)
    (hclear : ∀ m ∈ splitMembers c.body, quoteMark ∉ m)
    (hquoted : lastSolid c.body = some quoteMark) (i : Nat) (d : Clause) :
    ⟨Hit.stop ⟨n, .list c⟩ + i, d⟩ ∈ Form.comparison.hits t ↔
      ⟨Hit.stop ⟨n, .list c.relisted⟩ + i, d⟩ ∈
        Form.comparison.hits (front ++ (c.relisted.text ++ rest)) := by
  obtain ⟨x, member, y, hbody, hlast, hx, hy⟩ := exists_last_of_quote hclear hquoted
  have hunquoted : quoteMark ∉ member := hclear member (List.mem_of_getLast? hlast)
  have hlast' : ((splitMembers c.body).map Text.strip).getLast? = some member.strip := by
    rw [List.getLast?_map, hlast, Option.map_some]
  obtain ⟨x', hbody', hx'⟩ := exists_last_joined hlast'
  rw [← ListClause.body_relisted hclear, ← List.append_nil member.strip.enclosed] at hbody'
  obtain ⟨before, behind, hm, htext, hstop⟩ := hh.exists_lastMember hbody hx hy hunquoted
  obtain ⟨before', behind', hm', htext', hstop'⟩ :=
    (hh.relisted hclear).exists_lastMember hbody' hx' (by simp [IsRun])
      (fun hmem => hunquoted (mem_of_mem_strip hmem))
  rw [Text.strip_strip] at hm' htext' hstop'
  rw [hstop, hstop', htext, htext']
  exact hm.mem_hits_behind hm' i d

end Lists

/-! ## Writing a list's own value -/

/-- In front of the closing parenthesis of a list stands a quote, perhaps with blanks behind it. -/
def Parameter.EndsQuoted (p : Parameter) : Prop :=
  lastSolid p.clause.dropLast = some quoteMark

/-- A list of the text `t` keeps apart from the clauses around it when the text becomes `t'`. -/
structure Parameter.StaysApart (p : Parameter) (t t' : Text) : Prop where
  begins : quoteMark ∈ p.clause ∨ Form.range.NoneReaches t' p.clauseStart
  ends : p.EndsQuoted ∨ Form.comparison.NoneReaches t p.clauseStop ∧
    Form.comparison.NoneReaches t' (p.clauseStop + t'.length - t.length)

section Apart

variable {t front rest : Text} {n : Nat} {c : ListClause}

theorem lastSolid_body_of_endsQuoted (h : (c.row t n).EndsQuoted) :
    lastSolid c.body = some quoteMark := by
  have hclause : (c.row t n).clause = ((c.lead ++ ['(']) ++ c.body) ++ [')'] := by
    simp [ListClause.row, Hit.whole, Clause.text, ListClause.text]
  have hlast : lastSolid (c.row t n).clause.dropLast = some quoteMark := h
  rw [hclause, List.dropLast_concat, lastSolid_append] at hlast
  cases hsolid : lastSolid c.body with
  | some ch => rwa [hsolid, Option.some_or] at hlast
  | none =>
      rw [hsolid, Option.none_or, lastSolid_append_singleton _ (by decide)] at hlast
      exact absurd hlast (by decide)

/-- Up to a list that keeps apart the scans find the same clauses. -/
theorem Hit.Stands.sameBefore_relisted (hh : Hit.Stands ⟨n, .list c⟩ t front rest)
    (hmem : ⟨n, .list c⟩ ∈ clauses t)
    (hmem' : ⟨n, .list c.relisted⟩ ∈ clauses (front ++ (c.relisted.text ++ rest))) :
    SameBefore n t (front ++ (c.relisted.text ++ rest)) := by
  have hc : c.WellFormed := hh.wellFormed
  have hstart : front.length = n := hh.start
  have htext : t = front ++ (c.text ++ rest) := hh.text
  have hhead : (c.text ++ rest).head? = (c.relisted.text ++ rest).head? := by
    have hlead : ∀ d : ListClause, d.text ++ rest = d.lead ++ '(' :: (d.body ++ ')' :: rest) := by
      simp [ListClause.text]
    rw [hlead, hlead]
    exact head?_append_congr hc.lead_ne_nil _ _
  have hcross : ∀ {u : Text} {d : Clause}, ⟨n, d⟩ ∈ clauses u →
      ∀ r ∈ Form.range.hits u, r.start < front.length → r.stop ≤ front.length := by
    intro u d hd r hr hlt
    rw [hstart] at hlt ⊢
    exact clauses_stop_le (mem_clauses_of_range hr) hd hlt
  rw [← hstart]
  rw [htext] at hmem ⊢
  exact sameBefore_of_append hhead (hcross hmem) (hcross hmem')

/-- Behind a list that keeps apart the scans find the same clauses. -/
theorem Hit.Stands.sameBehind_relisted (hh : Hit.Stands ⟨n, .list c⟩ t front rest)
    (hmem : ⟨n, .list c⟩ ∈ clauses t) (hclear : ∀ m ∈ splitMembers c.body, quoteMark ∉ m)
    (hmem' : ⟨n, .list c.relisted⟩ ∈ clauses (front ++ (c.relisted.text ++ rest)))
    (hapart : (c.row t n).StaysApart t (front ++ (c.relisted.text ++ rest))) :
    SameBehind (Hit.stop ⟨n, .list c⟩) (Hit.stop ⟨n, .list c.relisted⟩) t
      (front ++ (c.relisted.text ++ rest)) := by
  have hh' := hh.relisted hclear
  refine hh.sameBehind_list hmem hh' hmem' ?_
  rcases hapart.ends with hquoted | ⟨hnone, hnone'⟩
  · exact hh.comparisons_behind hclear (lastSolid_body_of_endsQuoted hquoted)
  · have hstop : (c.row t n).clauseStop + (front ++ (c.relisted.text ++ rest)).length - t.length =
        Hit.stop ⟨n, .list c.relisted⟩ := by
      rw [hh.text]
      simp only [ListClause.row, Hit.whole, Hit.stop, Clause.text, List.length_append]
      omega
    rw [hstop] at hnone'
    exact hh.hits_agree_behind hh' hnone hnone'

end Apart

/-- What a list of the text `t` comes to in the text `t'` that it is given its own value in: its
members lose the blanks around them, the other rows show what they showed before, and doing the
same once more changes nothing. -/
structure Parameter.Relisted (p : Parameter) (i : Nat) (t t' : Text) (p' : Parameter) : Prop where
  found : (parameters t')[i]? = some p'
  members : p'.members = p.members.map Text.strip
  label : p'.label = (p.field, p.kind, joinMembers p'.members)
  labels : (parameters t').map Parameter.label =
    ((parameters t).map Parameter.label).set i p'.label
  again : setValue t' i p'.value = .ok t'

theorem exists_row_of_kind {t : Text} {i : Nat} {p : Parameter}
    (hp : (parameters t)[i]? = some p) (hkind : p.kind = .list) :
    ∃ n c, ⟨n, .list c⟩ ∈ clauses t ∧ p = ListClause.row c t n ∧ i = rowsBefore t n := by
  obtain ⟨⟨n, c | c | c⟩, hmem, j, hj, rfl⟩ := getElem?_parameters_iff.mp hp
  · rcases List.mem_pair.mp (List.mem_of_getElem? hj) with rfl | rfl <;> cases hkind
  · cases j with
    | zero => exact ⟨n, c, hmem, (Option.some.inj hj).symm, rfl⟩
    | succ j => cases hj
  · rw [List.mem_singleton.mp (List.mem_of_getElem? hj)] at hkind
    cases hkind

/-- What the rows show stays the same when no member has blanks around it. -/
theorem Parameter.Relisted.of_trimmed {t t' : Text} {i : Nat} {p p' : Parameter}
    (h : p.Relisted i t t' p') (hp : (parameters t)[i]? = some p)
    (hvalue : p.value = joinMembers p.members) (htrimmed : ∀ m ∈ p.members, IsTrimmed m) :
    p'.members = p.members ∧
      (parameters t').map Parameter.label = (parameters t).map Parameter.label := by
  have hmembers : p'.members = p.members := by
    rw [h.members]
    exact (List.map_congr_left fun m hm => (htrimmed m hm).strip_eq).trans (List.map_id _)
  have hlabel : p'.label = p.label := by
    rw [h.label, hmembers, ← hvalue]
    rfl
  have hat : ((parameters t).map Parameter.label)[i]? = some p.label := by
    rw [List.getElem?_map, hp, Option.map_some]
  obtain ⟨hlt, heq⟩ := List.getElem?_eq_some_iff.mp hat
  refine ⟨hmembers, ?_⟩
  rw [h.labels, hlabel, ← heq]
  exact List.set_getElem_self hlt

/-- A list whose members hold no quotes, and that is given its own value, keeps its place and its
members up to the blanks around them, if it stays apart from the clauses around it.  When there are
no such blanks, all rows show what they showed before. -/
theorem setValue_own_members {t : Text} {i : Nat} {p : Parameter}
    (hp : (parameters t)[i]? = some p) (hkind : p.kind = .list)
    (hclear : ∀ m ∈ p.members, quoteMark ∉ m) :
    ∃ t', setValue t i p.value = .ok t' ∧ (p.StaysApart t t' →
      ∃ p', p.Relisted i t t' p' ∧ ((∀ m ∈ p.members, IsTrimmed m) →
        p'.members = p.members ∧
          (parameters t').map Parameter.label = (parameters t).map Parameter.label)) := by
  obtain ⟨n, c, hmem, rfl, rfl⟩ := exists_row_of_kind hp hkind
  obtain ⟨front, rest, hh⟩ := exists_stands_of_mem_clauses hmem
  have hc : c.WellFormed := hh.wellFormed
  refine ⟨_, hh.setValue_list hmem, fun hapart => ?_⟩
  have hmem' := hh.mem_clauses_relisted hmem hclear (hapart.begins.imp_left hc.quoteMark_mem_body)
  have hbefore := hh.sameBefore_relisted hmem hmem'
  have hbehind := hh.sameBehind_relisted hmem hclear hmem' hapart
  have hrows : rowsBefore (front ++ (c.relisted.text ++ rest)) n = rowsBefore t n :=
    rowsBefore_congr fun g hlt => (hbefore.mem_clauses_iff hmem rfl hmem' rfl hlt).symm
  have hagain := (hh.relisted hclear).setValue_list hmem'
  rw [ListClause.relisted_relisted hclear, hrows] at hagain
  have hrelisted : (c.row t n).Relisted (rowsBefore t n) t (front ++ (c.relisted.text ++ rest))
      (c.relisted.row (front ++ (c.relisted.text ++ rest)) n) :=
    { found := getElem?_parameters_iff.mpr ⟨_, hmem', 0, rfl, by rw [hrows, Nat.add_zero]⟩
      members := ListClause.splitMembers_relisted hclear
      label := rfl
      labels := map_label_set hbefore hbehind hmem rfl hmem' rfl (c.parameters_eq t n)
        (c.relisted.parameters_eq _ n)
      again := hagain }
  exact ⟨_, hrelisted, hrelisted.of_trimmed hp rfl⟩

/-- A list of two members, written without a space between them and with one behind them. -/
theorem setValue_own_members_reactions :
    ∃ p t' p', (parameters (Text.ofString "reaction in ('like','no' ) and region = 'EMEA'"))[0]? =
        some p ∧ p.kind = .list ∧ p.value = Text.ofString "like, no" ∧
      setValue (Text.ofString "reaction in ('like','no' ) and region = 'EMEA'") 0 p.value =
        .ok t' ∧
      p.Relisted 0 (Text.ofString "reaction in ('like','no' ) and region = 'EMEA'") t' p' ∧
      p'.members = p.members ∧ (parameters t').map Parameter.label =
        (parameters (Text.ofString "reaction in ('like','no' ) and region = 'EMEA'")).map
          Parameter.label := by
  have hat : ((parameters (Text.ofString "reaction in ('like','no' ) and region = 'EMEA'"))[0]?.map
      fun p => (p.kind, p.value, p.members, p.clause)) =
        some (.list, Text.ofString "like, no", [Text.ofString "like", Text.ofString "no"],
          Text.ofString "reaction in ('like','no' )") := by decide +kernel
  obtain ⟨p, hp, hrow⟩ := Option.map_eq_some_iff.mp hat
  simp only [Prod.mk.injEq] at hrow
  obtain ⟨hkind, hvalue, hmembers, hclause⟩ := hrow
  have hclear : ∀ m ∈ p.members, quoteMark ∉ m := by
    rw [hmembers]
    decide
  obtain ⟨t', hset, hrelisted⟩ := setValue_own_members hp hkind hclear
  have hapart : p.StaysApart (Text.ofString "reaction in ('like','no' ) and region = 'EMEA'") t' :=
    { begins := Or.inl (by rw [hclause]; decide)
      ends := Or.inl (by rw [Parameter.EndsQuoted, hclause]; decide) }
  obtain ⟨p', hp', hkept⟩ := hrelisted hapart
  have hstrip : ∀ m ∈ p.members, m.strip = m := by
    rw [hmembers]
    decide
  obtain ⟨hsame, hlabels⟩ := hkept fun m hm => isTrimmed_of_strip_eq (hstrip m hm)
  exact ⟨p, t', p', hp, hkind, hvalue, hset, hp', hsame, hlabels⟩

/-- A list that is given its own value does not keep its rows when a member holds a quote or has
blanks around it, when a range comes to reach over its beginning, or when a comparison reaches over
the end of the new list or of the old one. -/
theorem setValue_own_members_differs :
    (["name in ('O''Brien')", "name in (' A')", "x between 'a' and ' a in (1, 2)",
        "a in (dislike) and region = 'EMEA'", "a in ('dislike', 5) and b = 'c'"] :
          List String).all (fun e => decide (
        ((parameters (Text.ofString e))[0]?.map Parameter.kind) = some .list ∧
          ((parameters (Text.ofString e))[0]?.map fun p =>
            (setValue (Text.ofString e) 0 p.value).map fun t' =>
              (parameters t').map Parameter.label) ≠
            some (.ok ((parameters (Text.ofString e)).map Parameter.label)))) = true := by
  decide +kernel

end SqlSnippet
