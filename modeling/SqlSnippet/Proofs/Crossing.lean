import SqlSnippet.Proofs.Members
import SqlSnippet.Proofs.Surroundings

/-!
# Comparisons that reach over the end of a list

The last member of a list may end in what looks like the lead of a comparison, whose literal then
begins with the closing quote of the member and reaches over the end of the list.  Such a
comparison begins in the member, since none reaches over its opening quote.  So when the blanks
around the quotes of the member are dropped, or what stands in front of it changes, the comparisons
behind the list are the same.
-/

namespace SqlSnippet

open Chars

/-- What stands in front of the quote of a member: a comma, or the keyword and the parenthesis of a
list, and blanks behind them. -/
def OpensMember (before : Text) : Prop :=
  lastSolid before = some ',' ∨
    ∃ front blanks ch, before = front ++ '(' :: blanks ∧ IsRun isBlank blanks ∧
      lastSolid front = some ch ∧ sameLetter 'n' ch = true

/-- The lead of a comparison does not stand in front of the quote of a member. -/
theorem Comparison.WellFormed.not_opensMember {c : Comparison} (hc : c.WellFormed)
    (front : Text) : ¬ OpensMember (front ++ c.lead) := by
  obtain ⟨ch, hlast, hch⟩ := hc.lastSolid_lead
  rintro (hcomma | ⟨before, blanks, n, hsplit, hblanks, hn, hkeyword⟩)
  · rw [lastSolid_append_of_eq_some hlast, Option.some.injEq] at hcomma
    subst hcomma
    rcases hch with hch | hch | hch
    all_goals exact absurd hch (by decide)
  · rcases cut_at_mark hsplit with ⟨a, rfl, hlead⟩ | ⟨a, rfl, hlead⟩
    · obtain ⟨ch', hlast', hch'⟩ := hc.lastSolid_of_lead_eq hlead
      rw [lastSolid_append_of_eq_some hlast', Option.some.injEq] at hn
      subst hn
      rcases hch' with rfl | hch'
      · exact absurd hkeyword (by decide)
      · exact absurd (eq_of_sameLetter (by decide) (by decide) hkeyword hch') (by decide)
    · have hrun : IsRun isBlank c.lead := fun d hd => hblanks d (by simp [hlead, hd])
      rw [lastSolid_eq_none hrun] at hlast
      cases hlast

/-- A text up to a member: what opens it, its quote, and blanks behind the quote. -/
def EntersMember (before : Text) : Prop :=
  ∃ front blanks, before = front ++ quoteMark :: blanks ∧ OpensMember front ∧ IsRun isBlank blanks

/-- What follows a member up to the end of a list: blanks, its quote, and what may close a
comparison. -/
def ClosesMember (behind : Text) : Prop :=
  ∃ blanks closing, behind = blanks ++ quoteMark :: closing ∧ IsRun isBlank blanks ∧
    IsRun isClosingChar closing

theorem isWord_eq_false_of_quoted {blanks : Text} (hblanks : IsRun isBlank blanks) :
    ∀ ch ∈ quoteMark :: blanks, isWord ch = false := by
  intro ch hch
  rcases List.mem_cons.mp hch with rfl | hch
  · decide
  · exact isWord_eq_false_of_isBlank (hblanks ch hch)

theorem EntersMember.endsInWord_eq_false {before : Text} (h : EntersMember before) :
    endsInWord before = false := by
  obtain ⟨front, blanks, rfl, -, hblanks⟩ := h
  rw [endsInWord_append _ (List.cons_ne_nil _ _)]
  exact SqlSnippet.endsInWord_eq_false (isWord_eq_false_of_quoted hblanks)

theorem ClosesMember.isWord_eq_false {behind : Text} (h : ClosesMember behind) :
    ∀ ch ∈ behind, isWord ch = false := by
  obtain ⟨blanks, closing, rfl, hblanks, hclosing⟩ := h
  intro ch hch
  rcases List.mem_append.mp hch with hch | hch
  · exact isWord_eq_false_of_isBlank (hblanks ch hch)
  · rcases List.mem_cons.mp hch with rfl | hch
    · decide
    · exact isWord_eq_false_of_isClosingChar (hclosing ch hch)

theorem ClosesMember.ne_nil {behind : Text} (h : ClosesMember behind) : behind ≠ [] := by
  obtain ⟨blanks, closing, rfl, -⟩ := h
  simp

/-- The last member of a list, without the blanks around it, with the text up to it and with what
follows up to the end of the list. -/
structure LastMember (before member behind : Text) : Prop where
  enters : EntersMember before
  unquoted : quoteMark ∉ member
  solid : StopsAt isClosingChar (member ++ behind)
  closes : ClosesMember behind

section Member

variable {before member behind t front rest rest' : Text}

/-- What closes a comparison behind the opening quote of the member ends in front of the member. -/
theorem LastMember.closing_le (hm : LastMember before member behind) {blanks closing : Text}
    (hclosing : IsRun isClosingChar closing)
    (h : blanks ++ (member ++ (behind ++ rest)) = closing ++ rest') :
    closing.length ≤ blanks.length := by
  by_contra hlt
  obtain ⟨ch, tail, hsolid⟩ := List.exists_cons_of_ne_nil
    (List.append_ne_nil_of_right_ne_nil member hm.closes.ne_nil)
  have hsplit : blanks ++ (member ++ (behind ++ rest)) = (blanks ++ [ch]) ++ (tail ++ rest) := by
    rw [← List.append_assoc member, hsolid]
    simp
  obtain ⟨more, hmore, -⟩ := exists_append_of_length_le (h.symm.trans hsplit)
    (by rw [List.length_append, List.length_singleton]; omega)
  have hstop := hm.solid ch (by rw [hsolid, List.head?_cons]; rfl)
  rw [hclosing ch (by simp [hmore])] at hstop
  cases hstop

/-- No comparison that begins in front of the member reaches into it. -/
theorem LastMember.stop_le (hm : LastMember before member behind) {g : Hit}
    (ht : t = before ++ (member ++ (behind ++ rest))) (hg : g.Stands t front rest')
    (hform : g.clause.form = .comparison) (hlt : g.start < before.length) :
    g.stop ≤ before.length := by
  obtain ⟨start, c | c | c⟩ := g
  · cases hform
  · cases hform
  have hc : c.WellFormed := hg.wellFormed
  have hclosing : IsRun isClosingChar c.closing := IsClosing.isRun hg.closes
  have hstart : front.length = start := hg.start
  obtain ⟨opened, blanks, rfl, hopens, hblanks⟩ := hm.enters
  have htext : t = opened ++ ((quoteMark :: blanks) ++ (member ++ (behind ++ rest))) := by
    rw [ht]
    simp
  have hopened : start < opened.length := by
    by_contra hge
    have hle := hg.le_start_of_no_word htext (isWord_eq_false_of_quoted hblanks)
      (Nat.not_lt.mp hge)
    rw [List.length_append] at hlt
    exact absurd hlt (Nat.not_lt.mpr hle)
  simp only [Hit.stop, Clause.text, Comparison.text, Text.enclosed, List.length_append,
    List.length_cons, List.length_nil]
  obtain ⟨u, rfl, hbehind⟩ := exists_append_of_length_le (htext.symm.trans hg.text)
    (by rw [hstart]; exact hopened.le)
  cases Comparison.cut hbehind.symm with
  | lead y hlead hvalue =>
      obtain rfl := eq_nil_of_mark
        (notMem_of_eq_append hlead (hc.isRun_lead.notMem (by decide))).2 hvalue
      rw [List.append_nil] at hlead
      rw [← hlead] at hopens
      exact absurd hopens (hc.not_opensMember front)
  | value x y hlead hvalue hafter =>
      obtain rfl := eq_nil_of_mark (notMem_of_eq_append hvalue hc.value).2 hafter
      have hle := hm.closing_le hclosing (List.cons.inj hafter).2
      rw [List.append_nil] at hvalue
      rw [hvalue, hlead]
      simp only [List.length_append, List.length_cons]
      omega
  | behind x hliteral hafter =>
      rcases cut_at_mark hafter with ⟨tail, hx, -⟩ | ⟨tail, hmem, -⟩
      · rw [hliteral, hx]
        simp only [Text.enclosed, List.length_append, List.length_cons, List.length_nil]
        omega
      · exact absurd (by simp [hmem]) (hclosing.notMem (c := quoteMark) (by decide))

/-- A comparison that begins behind the text up to the member, and in front of the end of the list,
begins among the characters of the member. -/
theorem LastMember.exists_offset (hm : LastMember before member behind) {g : Hit}
    (ht : t = before ++ (member ++ (behind ++ rest))) (hg : g.Stands t front rest')
    (hle : before.length ≤ g.start) (hlt : g.start < before.length + (member ++ behind).length) :
    ∃ i < member.length, g.start = before.length + i := by
  obtain ⟨i, hi⟩ := Nat.exists_eq_add_of_le hle
  refine ⟨i, ?_, hi⟩
  by_contra hge
  have hsplit : t = (before ++ member) ++ (behind ++ rest) := by
    rw [ht, List.append_assoc]
  have hstop := hg.le_start_of_no_word hsplit hm.closes.isWord_eq_false
    (by rw [List.length_append]; omega)
  rw [List.length_append] at hlt hstop
  omega

end Member

/-! ## Reading from the member on -/

theorem IsOperator.ne_nil {operator : Text} (h : IsOperator operator) : operator ≠ [] := by
  rcases h with rfl | hlike
  · simp
  · exact (isName_of_sameLetters_like hlike).1

theorem IsOperator.not_endsBlank {operator : Text} (h : IsOperator operator) :
    ¬ EndsBlank operator := by
  rintro ⟨ch, hlast, hblank⟩
  rcases h with rfl | hlike
  · obtain rfl : '=' = ch := by simpa using hlast
    exact absurd hblank (by decide)
  · have hword := (isName_of_sameLetters_like hlike).2 ch (List.mem_of_getLast? hlast)
    rw [isWord_eq_false_of_isBlank hblank] at hword
    cases hword

theorem IsOpening.exchange {front blanks blanks' : Text} (h : IsOpening (front ++ blanks))
    (hblanks : IsRun isBlank blanks) (hblanks' : IsRun isBlank blanks') :
    IsOpening (front ++ blanks') := by
  obtain ⟨before, after, hbefore, hafter, hopening | hopening⟩ := h
  · have hfront : IsRun isBlank front := fun ch hch => hbefore ch (by simp [← hopening, hch])
    exact ⟨front ++ blanks', [], hfront.append hblanks', by simp [IsRun], Or.inl rfl⟩
  · rcases cut_at_mark hopening with ⟨z, -, hmem⟩ | ⟨z, rfl, rfl⟩
    · exact absurd (by simp [hmem]) (hblanks.notMem (c := '(') (by decide))
    · have hz : IsRun isBlank z := fun ch hch => hafter ch (by simp [hch])
      exact ⟨before, z ++ blanks', hbefore, hz.append hblanks', Or.inr (by simp)⟩

/-- Blanks at the end of the lead of a comparison can be exchanged for others. -/
theorem Comparison.WellFormed.exists_lead {c : Comparison} (hc : c.WellFormed)
    {front blanks blanks' value : Text} (hlead : c.lead = front ++ blanks)
    (hblanks : IsRun isBlank blanks) (hblanks' : IsRun isBlank blanks')
    (hvalue : quoteMark ∉ value) :
    ∃ c' : Comparison, c'.WellFormed ∧ c'.lead = front ++ blanks' ∧ c'.value = value ∧
      c'.closing = c.closing := by
  obtain ⟨tail, hfront, hopening⟩ : ∃ tail,
      front = (c.column.text ++ c.gap ++ c.operator) ++ tail ∧ c.opening = tail ++ blanks := by
    rcases List.append_eq_append_iff.mp (show (c.column.text ++ c.gap ++ c.operator) ++ c.opening =
      front ++ blanks from hlead) with hshort | ⟨tail, hhead, hblank⟩
    · exact hshort
    · cases tail using List.reverseRecOn with
      | nil => exact ⟨[], by simpa using hhead.symm, by simpa using hblank.symm⟩
      | append_singleton tail ch =>
          have hend : EndsBlank (front ++ (tail ++ [ch])) := by
            rw [← List.append_assoc, endsBlank_append_singleton_iff]
            exact hblanks ch (by simp [hblank])
          rw [← hhead, endsBlank_append_iff _ hc.operator.ne_nil] at hend
          exact absurd hend hc.operator.not_endsBlank
  refine ⟨{ c with opening := tail ++ blanks', value },
    ⟨hc.column, hc.gap, hc.operator, ?_, hvalue⟩, ?_, rfl, rfl⟩
  · exact (hopening ▸ hc.opening).exchange hblanks hblanks'
  · simp [Comparison.lead, hfront]

/-- A comparison whose literal begins with the closing quote of the member is read alike whatever
the blanks in front of this quote and behind it. -/
theorem read?_comparison_behind {member behind behind' rest rest' : Text}
    (hmember : quoteMark ∉ member) (hbehind : ClosesMember behind)
    (hbehind' : ClosesMember behind') {c : Clause}
    (h : Form.comparison.read? (member ++ (behind ++ rest)) = some (c, rest')) :
    ∃ c', Form.comparison.read? (member ++ (behind' ++ rest)) = some (c', rest') ∧
      c.text.length + behind'.length = c'.text.length + behind.length ∧
      member.length + behind.length < c.text.length := by
  obtain ⟨hform, htext, hc, hcloses⟩ := Form.read?_eq_some_iff.mp h
  obtain ⟨blanks, closing, rfl, hblanks, hclosing⟩ := hbehind
  obtain ⟨blanks', closing', rfl, hblanks', hclosing'⟩ := hbehind'
  cases c with
  | range c => cases hform
  | list c => cases hform
  | comparison c =>
      have hc : c.WellFormed := hc
      have htext : (member ++ blanks) ++ quoteMark :: (closing ++ rest) =
          c.lead ++ quoteMark :: (c.value ++ quoteMark :: (c.closing ++ rest')) := by
        simpa [Clause.text, Comparison.text, Text.enclosed] using htext
      obtain ⟨hlead, hafter⟩ := eq_of_append_mark_eq
        (List.not_mem_append hmember (hblanks.notMem (by decide)))
        (hc.isRun_lead.notMem (by decide)) htext
      rcases cut_at_mark hafter with ⟨tail, hvalue, rfl⟩ | ⟨tail, hmem, -⟩
      · have htail : quoteMark ∉ tail := (notMem_of_eq_append hvalue hc.value).2
        obtain ⟨c', hc', hlead', hvalue', hclosed⟩ := hc.exists_lead hlead.symm hblanks hblanks'
          (List.not_mem_append (hclosing'.notMem (c := quoteMark) (by decide)) htail)
        refine ⟨.comparison c', Form.read?_eq_some_iff.mpr ⟨rfl, ?_, hc', ?_⟩, ?_, ?_⟩
        · simp [Clause.text, Comparison.text, Text.enclosed, hlead', hvalue', hclosed]
        · show IsClosing c'.closing rest'
          rw [hclosed]
          exact hcloses
        · simp only [Clause.text, Comparison.text, Text.enclosed, hvalue, hvalue', hclosed,
            ← hlead, hlead', List.length_append, List.length_cons, List.length_nil]
          omega
        · simp only [Clause.text, Comparison.text, Text.enclosed, hvalue, ← hlead,
            List.length_append, List.length_cons, List.length_nil]
          omega
      · exact absurd (by simp [hmem]) (hclosing.notMem (c := quoteMark) (by decide))

/-! ## Comparisons behind the list -/

/-- Where a list ends whose last member is given. -/
def memberStop (before member behind : Text) : Nat :=
  before.length + (member ++ behind).length

/-- The two comparisons begin at the same place of the member, and they reach as far over the ends
of the two lists. -/
structure CrossAlike (before before' member behind behind' : Text) (d d' : Hit) : Prop where
  start : d.start + before'.length = d'.start + before.length
  reach : memberStop before member behind ≤ d.stop
  stop : d.stop + memberStop before' member behind' = d'.stop + memberStop before member behind

section Lists

variable {before before' member behind behind' rest : Text}

theorem length_append_member (before member behind : Text) :
    (before ++ (member ++ behind)).length = memberStop before member behind :=
  List.length_append

theorem memberStop_eq (before member behind : Text) :
    memberStop before member behind = before.length + member.length + behind.length := by
  rw [memberStop, List.length_append, Nat.add_assoc]

theorem append_member (before member behind rest : Text) :
    before ++ (member ++ (behind ++ rest)) = (before ++ (member ++ behind)) ++ rest := by
  simp

theorem LastMember.endsInWord_eq_false (hm : LastMember before member behind) :
    endsInWord (before ++ (member ++ behind)) = false := by
  rw [← List.append_assoc, endsInWord_append _ hm.closes.ne_nil]
  exact SqlSnippet.endsInWord_eq_false hm.closes.isWord_eq_false

theorem LastMember.hits_stop_le (hm : LastMember before member behind) (rest : Text) :
    ∀ d ∈ Form.comparison.hits (before ++ (member ++ (behind ++ rest))),
      d.start < before.length → d.stop ≤ before.length := by
  intro d hd hlt
  obtain ⟨front, rest', hstands⟩ := Form.exists_stands hd
  exact hm.stop_le rfl hstands (Form.form_eq_of_mem_hits hd) hlt

theorem LastMember.rel_hitAt? (hm : LastMember before member behind)
    (hm' : LastMember before' member behind') {j : Nat} (hj : j < member.length) :
    Option.Rel (CrossAlike before before' member behind behind')
      (Form.comparison.hitAt? (before ++ (member ++ (behind ++ rest))) (before.length + j))
      (Form.comparison.hitAt? (before' ++ (member ++ (behind' ++ rest))) (before'.length + j)) := by
  have hdrop : ∀ y : Text, (member ++ (y ++ rest)).drop j = member.drop j ++ (y ++ rest) :=
    fun y => List.drop_append_of_le_length hj.le
  have htake : ∀ y : Text, (member ++ (y ++ rest)).take j = member.take j :=
    fun y => List.take_append_of_le_length hj.le
  have hclear : quoteMark ∉ member.drop j := fun hmem => hm.unquoted (List.mem_of_mem_drop hmem)
  have hlength : (member.drop j).length = member.length - j := List.length_drop
  rw [Form.hitAt?_behind hm.enters.endsInWord_eq_false,
    Form.hitAt?_behind hm'.enters.endsInWord_eq_false, hdrop, hdrop, htake, htake]
  split
  · exact Option.Rel.none
  · cases hread : Form.comparison.read? (member.drop j ++ (behind ++ rest)) with
    | none =>
        cases hread' : Form.comparison.read? (member.drop j ++ (behind' ++ rest)) with
        | none => exact Option.Rel.none
        | some r =>
            obtain ⟨c, hold, -⟩ := read?_comparison_behind hclear hm'.closes hm.closes hread'
            rw [hread] at hold
            cases hold
    | some r =>
        obtain ⟨c', hread', hlengths, hlong⟩ :=
          read?_comparison_behind hclear hm.closes hm'.closes hread
        rw [hread']
        refine Option.Rel.some ⟨?_, ?_, ?_⟩
        all_goals simp only [Hit.stop, memberStop_eq]
        all_goals omega

/-- A comparison that reaches over the end of the one list has a partner that reaches as far over
the end of the other one. -/
theorem LastMember.exists_crossing (hm : LastMember before member behind)
    (hm' : LastMember before' member behind') {g : Hit}
    (hg : g ∈ Form.comparison.hits (before ++ (member ++ (behind ++ rest))))
    (hlt : g.start < memberStop before member behind)
    (hreach : memberStop before member behind < g.stop) :
    ∃ g' ∈ Form.comparison.hits (before' ++ (member ++ (behind' ++ rest))),
      g'.start < memberStop before' member behind' ∧
        g'.stop + memberStop before member behind = g.stop + memberStop before' member behind' := by
  have hstop := memberStop_eq before member behind
  have hstop' := memberStop_eq before' member behind'
  obtain ⟨front, rest', hstands⟩ := Form.exists_stands hg
  have hbegins : before.length ≤ g.start := by
    by_contra hbefore
    have := hm.hits_stop_le rest g hg (Nat.not_le.mp hbefore)
    omega
  obtain ⟨i, hi, hstart⟩ := hm.exists_offset rfl hstands hbegins hlt
  have hcovers : ∀ d d', CrossAlike before before' member behind behind' d d' →
      ∀ j < member.length, d.Covers (before.length + j) ↔ d'.Covers (before'.length + j) := by
    rintro d d' ⟨hstart, hlong, hend⟩ j hj
    simp only [Hit.Covers]
    omega
  have hsimulate := Form.hits_simulate .comparison _ _ _ _ member.length _
    (hm.hits_stop_le rest) (hm'.hits_stop_le rest)
    (fun j hj _ => hm.rel_hitAt? hm' hj) hcovers i hi
  obtain ⟨g', hg', hstart', hcross⟩ := hsimulate.1 g hg hstart
  exact ⟨g', hg', by omega, hcross.stop.symm⟩

/-- Behind the two lists the same comparisons are found. -/
theorem LastMember.mem_hits_behind (hm : LastMember before member behind)
    (hm' : LastMember before' member behind') (i : Nat) (c : Clause) :
    ⟨memberStop before member behind + i, c⟩ ∈
        Form.comparison.hits (before ++ (member ++ (behind ++ rest))) ↔
      ⟨memberStop before' member behind' + i, c⟩ ∈
        Form.comparison.hits (before' ++ (member ++ (behind' ++ rest))) := by
  by_cases hreach : ∃ g ∈ Form.comparison.hits (before ++ (member ++ (behind ++ rest))),
      g.start < memberStop before member behind ∧ memberStop before member behind < g.stop
  · obtain ⟨g, hg, hlt, hstop⟩ := hreach
    obtain ⟨g', hg', hlt', hend⟩ := hm.exists_crossing hm' hg hlt hstop
    obtain ⟨k, hk⟩ := Nat.exists_eq_add_of_le hstop.le
    have hk' : g'.stop = memberStop before' member behind' + k := by omega
    rw [append_member] at hg hg' ⊢
    rw [append_member before']
    rw [← length_append_member] at hlt hk hlt' hk' ⊢
    rw [← length_append_member before']
    exact Form.hits_agree_behind_reach hg hg' hlt hlt' hk hk' i c
  · have hcross : ∀ g ∈ Form.comparison.hits (before ++ (member ++ (behind ++ rest))),
        g.start < memberStop before member behind → g.stop ≤ memberStop before member behind :=
      fun g hg hlt => Nat.not_lt.mp fun hstop => hreach ⟨g, hg, hlt, hstop⟩
    have hcross' : ∀ g ∈ Form.comparison.hits (before' ++ (member ++ (behind' ++ rest))),
        g.start < memberStop before' member behind' →
          g.stop ≤ memberStop before' member behind' := by
      intro g hg hlt
      by_contra hstop
      obtain ⟨g', hg', hlt', hend⟩ := hm'.exists_crossing hm hg hlt (Nat.not_le.mp hstop)
      exact hreach ⟨g', hg', hlt', by omega⟩
    rw [append_member, ← length_append_member] at hcross hcross' ⊢
    rw [append_member before', ← length_append_member before']
    exact Form.hits_agree_behind hm.endsInWord_eq_false hm'.endsInWord_eq_false hcross hcross' i c

end Lists

end SqlSnippet
