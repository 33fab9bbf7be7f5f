import SqlSnippet.Parameter
import SqlSnippet.Proofs.Clauses

/-!
# The rows of a snippet

Every parameter belongs to one clause that counts, and the parameters of one clause stand
side by side.  Since the clauses lie one behind the other, so do the parameters: no two of
them share a character, and the two bounds of a range are always neighbours.
-/

namespace SqlSnippet

theorem mem_parameters_iff {t : Text} {p : Parameter} :
    p ∈ parameters t ↔ ∃ h ∈ clauses t, p ∈ h.parameters t :=
  List.mem_flatMap

/-- The parameter owns a piece of the text, and its clause is the text between the
positions that it gives for it. -/
structure Parameter.Spans (t : Text) (p : Parameter) : Prop where
  nonempty : p.start < p.stop
  inside : p.stop ≤ t.length
  clause : p.clause = t.extract p.clauseStart p.clauseStop
  whole : p.kind = .simple ∨ p.kind = .list →
    p.start = p.clauseStart ∧ p.stop = p.clauseStop

/-- The two parameters are the bounds of one range.  They meet behind the closing quote of
the lower bound, and each of them knows the value of the other one. -/
structure Parameter.PairedWith (t : Text) (p q : Parameter) : Prop where
  kind : q.kind = .rangeEnd
  clauseStart : q.clauseStart = p.clauseStart
  clauseStop : q.clauseStop = p.clauseStop
  clause : q.clause = p.clause
  start : p.start = p.clauseStart
  split : q.start = p.stop
  stop : q.stop = p.clauseStop
  literal : ∃ lead, t.extract p.start p.stop = lead ++ p.value.enclosed ∧
    quoteMark ∉ lead ∧ quoteMark ∉ p.value
  highValue : p.highValue = some q.value
  lowValue : q.lowValue = some p.value

theorem extract_append (front part rest : Text) :
    (front ++ (part ++ rest)).extract front.length (front.length + part.length) = part := by
  rw [List.extract, List.drop_left, Nat.add_sub_cancel_left, List.take_left]

theorem Hit.Stands.extract {h : Hit} {t front rest : Text} (hh : h.Stands t front rest) :
    t.extract h.start h.stop = h.clause.text := by
  rw [hh.text, Hit.stop, ← hh.start, extract_append]

theorem RangeClause.length_text (c : RangeClause) :
    c.text.length = c.lowerText.length + c.upperText.length :=
  List.length_append

theorem RangeClause.length_lowerText_pos (c : RangeClause) : 0 < c.lowerText.length := by
  apply List.length_pos_of_ne_nil
  simp [lowerText, Text.enclosed]

theorem RangeClause.length_upperText_pos (c : RangeClause) : 0 < c.upperText.length := by
  apply List.length_pos_of_ne_nil
  simp [upperText, Text.enclosed]

theorem Hit.start_le_of_mem_parameters {t : Text} {h : Hit} {p : Parameter}
    (hp : p ∈ h.parameters t) : h.start ≤ p.start ∧ p.start < p.stop ∧ p.stop ≤ h.stop := by
  rcases h with ⟨start, c | c | c⟩
  · have hlower := c.length_lowerText_pos
    have hupper := c.length_upperText_pos
    have hlength := c.length_text
    simp only [Hit.parameters, Hit.whole, Hit.stop, Clause.text, List.mem_cons,
      List.not_mem_nil, or_false] at hp ⊢
    rcases hp with rfl | rfl
    · exact ⟨le_rfl, by simp only; omega, by simp only; omega⟩
    · exact ⟨by simp only; omega, by simp only; omega, le_rfl⟩
  · simp only [Hit.parameters, Hit.whole, List.mem_singleton] at hp
    subst hp
    exact ⟨le_rfl, Hit.start_lt_stop ⟨start, .list c⟩, le_rfl⟩
  · simp only [Hit.parameters, Hit.whole, List.mem_singleton] at hp
    subst hp
    exact ⟨le_rfl, Hit.start_lt_stop ⟨start, .comparison c⟩, le_rfl⟩

theorem Hit.clause_eq_of_mem_parameters {t : Text} {h : Hit} {p : Parameter}
    (hp : p ∈ h.parameters t) :
    p.clause = h.clause.text ∧ p.clauseStart = h.start ∧ p.clauseStop = h.stop := by
  rcases h with ⟨start, c | c | c⟩ <;>
    simp only [Hit.parameters, Hit.whole, List.mem_cons, List.not_mem_nil, or_false] at hp
  · rcases hp with rfl | rfl <;> exact ⟨rfl, rfl, rfl⟩
  · subst hp
    exact ⟨rfl, rfl, rfl⟩
  · subst hp
    exact ⟨rfl, rfl, rfl⟩

theorem Hit.lineStart_of_mem_parameters {t : Text} {h : Hit} {p : Parameter}
    (hp : p ∈ h.parameters t) : p.lineStart = lineStart t h.start := by
  rcases h with ⟨start, c | c | c⟩
  · rcases List.mem_pair.mp hp with rfl | rfl <;> rfl
  · rw [List.mem_singleton.mp hp]
    rfl
  · rw [List.mem_singleton.mp hp]
    rfl

theorem Hit.isCommented_of_mem_parameters {t : Text} {h : Hit} {p : Parameter}
    (hp : p ∈ h.parameters t) : p.isCommented = isCommentedAt t h.start := by
  rcases h with ⟨start, c | c | c⟩
  · rcases List.mem_pair.mp hp with rfl | rfl <;> rfl
  · rw [List.mem_singleton.mp hp]
    rfl
  · rw [List.mem_singleton.mp hp]
    rfl

theorem Hit.exists_parameter (t : Text) (h : Hit) : ∃ p, p ∈ h.parameters t := by
  rcases h with ⟨start, c | c | c⟩ <;> exact ⟨_, List.mem_cons_self⟩

theorem Hit.length_parameters (t t' : Text) (h : Hit) :
    (h.parameters t).length = (h.parameters t').length := by
  rcases h with ⟨start, c | c | c⟩ <;> rfl

theorem Hit.whole_of_mem_parameters {t : Text} {h : Hit} {p : Parameter}
    (hp : p ∈ h.parameters t) (hkind : p.kind = .simple ∨ p.kind = .list) :
    p.start = h.start ∧ p.stop = h.stop := by
  rcases h with ⟨start, c | c | c⟩ <;>
    simp only [Hit.parameters, Hit.whole, List.mem_cons, List.not_mem_nil, or_false] at hp
  · rcases hp with rfl | rfl <;> simp at hkind
  · subst hp
    exact ⟨rfl, rfl⟩
  · subst hp
    exact ⟨rfl, rfl⟩

theorem Hit.Stands.spans {h : Hit} {t front rest : Text} (hh : h.Stands t front rest)
    {p : Parameter} (hp : p ∈ h.parameters t) : p.Spans t := by
  obtain ⟨-, hlt, hstop⟩ := Hit.start_le_of_mem_parameters hp
  obtain ⟨hclause, hclauseStart, hclauseStop⟩ := Hit.clause_eq_of_mem_parameters hp
  refine ⟨hlt, hstop.trans hh.stop_le_length, ?_, ?_⟩
  · rw [hclause, hclauseStart, hclauseStop, hh.extract]
  · rw [hclauseStart, hclauseStop]
    exact Hit.whole_of_mem_parameters hp

theorem Hit.parameters_pairwise (t : Text) (h : Hit) :
    (h.parameters t).Pairwise fun p q => p.stop ≤ q.start := by
  rcases h with ⟨start, c | c | c⟩ <;> simp [Hit.parameters]

/-- Only a range has a lower bound, and its upper bound comes next. -/
theorem Hit.Stands.paired {h : Hit} {t front rest : Text} (hh : h.Stands t front rest)
    {j : Nat} {p : Parameter} (hp : (h.parameters t)[j]? = some p)
    (hkind : p.kind = .rangeStart) :
    ∃ q, (h.parameters t)[j + 1]? = some q ∧ p.PairedWith t q := by
  rcases h with ⟨start, c | c | c⟩
  · have hc : c.WellFormed := hh.wellFormed
    have htext : t = front ++ (c.lowerText ++ (c.upperText ++ rest)) := by
      have := hh.text
      rwa [Clause.text, RangeClause.text, List.append_assoc] at this
    have hlower : t.extract start (start + c.lowerText.length) = c.lowerText := by
      have hstart : front.length = start := hh.start
      rw [htext, ← hstart, extract_append]
    have hlead : quoteMark ∉ c.lead := hc.isRun_lead.notMem (by decide)
    rcases j with _ | _ | j
    · obtain rfl := Option.some.inj hp
      exact ⟨_, rfl, rfl, rfl, rfl, rfl, rfl, rfl, rfl, ⟨c.lead, hlower, hlead, hc.low.1⟩,
        rfl, rfl⟩
    · obtain rfl := Option.some.inj hp
      cases hkind
    · cases hp
  · rcases j with _ | j
    · obtain rfl := Option.some.inj hp
      cases hkind
    · cases hp
  · rcases j with _ | j
    · obtain rfl := Option.some.inj hp
      cases hkind
    · cases hp

/-! ## The rows of all clauses -/

theorem exists_split_of_flatMap {α β : Type} {f : α → List β} {list : List α} {k : Nat} {b : β}
    (h : (list.flatMap f)[k]? = some b) :
    ∃ before a behind j, list = before ++ a :: behind ∧ (f a)[j]? = some b ∧
      k = (before.flatMap f).length + j := by
  induction list generalizing k with
  | nil => simp at h
  | cons a list ih =>
      rw [List.flatMap_cons] at h
      by_cases hk : k < (f a).length
      · rw [List.getElem?_append_left hk] at h
        exact ⟨[], a, list, k, rfl, h, by simp⟩
      · rw [List.getElem?_append_right (Nat.not_lt.mp hk)] at h
        obtain ⟨before, a', behind, j, rfl, hj, hindex⟩ := ih h
        refine ⟨a :: before, a', behind, j, rfl, hj, ?_⟩
        rw [List.flatMap_cons, List.length_append]
        omega

/-- An element of a list of lists lies in one of them, and its neighbours there are its
neighbours in the whole. -/
theorem exists_getElem?_of_flatMap {α β : Type} {f : α → List β} {list : List α} {k : Nat}
    {b : β} (h : (list.flatMap f)[k]? = some b) :
    ∃ a ∈ list, ∃ j, (f a)[j]? = some b ∧
      ∀ b', (f a)[j + 1]? = some b' → (list.flatMap f)[k + 1]? = some b' := by
  obtain ⟨before, a, behind, j, rfl, hj, rfl⟩ := exists_split_of_flatMap h
  refine ⟨a, by simp, j, hj, ?_⟩
  intro b' hb'
  have hlt := (List.getElem?_eq_some_iff.mp hb').1
  rw [List.flatMap_append, Nat.add_assoc, List.getElem?_append_right (Nat.le_add_right _ _),
    Nat.add_sub_cancel_left, List.flatMap_cons, List.getElem?_append_left hlt, hb']

theorem spans_of_mem_parameters {t : Text} {p : Parameter} (hp : p ∈ parameters t) :
    p.Spans t := by
  obtain ⟨h, hh, hp⟩ := mem_parameters_iff.mp hp
  obtain ⟨front, rest, hstands⟩ := exists_stands_of_mem_clauses hh
  exact hstands.spans hp

/-- Each parameter lies behind the end of the one before. -/
theorem parameters_pairwise (t : Text) :
    (parameters t).Pairwise fun p q => p.stop ≤ q.start := by
  apply List.pairwise_flatMap.mpr
  refine ⟨fun h _ => h.parameters_pairwise t, (clauses_pairwise t).imp ?_⟩
  intro a b hab p hp q hq
  obtain ⟨-, -, hstop⟩ := Hit.start_le_of_mem_parameters hp
  obtain ⟨hstart, -, -⟩ := Hit.start_le_of_mem_parameters hq
  exact hstop.trans (hab.trans hstart)

/-- Of two parameters the one that begins no later ends where the other one begins, or before. -/
theorem stop_le_start_of_mem_parameters {t : Text} {p q : Parameter} (hp : p ∈ parameters t)
    (hq : q ∈ parameters t) (hne : p ≠ q) (hle : p.start ≤ q.start) : p.stop ≤ q.start := by
  obtain ⟨i, hi, rfl⟩ := List.getElem_of_mem hp
  obtain ⟨j, hj, rfl⟩ := List.getElem_of_mem hq
  have hpairwise := List.pairwise_iff_getElem.mp (parameters_pairwise t)
  rcases Nat.lt_trichotomy i j with hlt | rfl | hlt
  · exact hpairwise i j hi hj hlt
  · exact absurd rfl hne
  · have hnonempty := (spans_of_mem_parameters hq).nonempty
    have hstop := hpairwise j i hj hi hlt
    omega

theorem parameters_pairwise_start (t : Text) :
    (parameters t).Pairwise fun p q => p.start < q.start :=
  (parameters_pairwise t).imp_of_mem fun hp _ hstop =>
    (spans_of_mem_parameters hp).nonempty.trans_le hstop

/-- The parameters of a text own pieces of it that are not empty and lie one behind the
other.  A parameter that is not the bound of a range owns its whole clause, and a lower
bound is followed by the upper bound of the same range. -/
theorem parameters_tile (t : Text) :
    (∀ p ∈ parameters t, p.Spans t) ∧
      (parameters t).Pairwise (fun p q => p.stop ≤ q.start) ∧
      ∀ k p, (parameters t)[k]? = some p → p.kind = .rangeStart →
        ∃ q, (parameters t)[k + 1]? = some q ∧ p.PairedWith t q := by
  refine ⟨fun p hp => ?_, ?_, fun k p hp hkind => ?_⟩
  · obtain ⟨h, hh, hp⟩ := mem_parameters_iff.mp hp
    obtain ⟨front, rest, hstands⟩ := exists_stands_of_mem_clauses hh
    exact hstands.spans hp
  · apply List.pairwise_flatMap.mpr
    refine ⟨fun h _ => h.parameters_pairwise t, (clauses_pairwise t).imp ?_⟩
    intro a b hab p hp q hq
    obtain ⟨-, -, hstop⟩ := Hit.start_le_of_mem_parameters hp
    obtain ⟨hstart, -, -⟩ := Hit.start_le_of_mem_parameters hq
    exact hstop.trans (hab.trans hstart)
  · obtain ⟨h, hh, j, hj, hnext⟩ := exists_getElem?_of_flatMap hp
    obtain ⟨front, rest, hstands⟩ := exists_stands_of_mem_clauses hh
    obtain ⟨q, hq, hpaired⟩ := hstands.paired hj hkind
    exact ⟨q, hnext q hq, hpaired⟩

end SqlSnippet
