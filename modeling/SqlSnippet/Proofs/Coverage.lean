import SqlSnippet.Proofs.Exchange
import SqlSnippet.Proofs.Rows
import Mathlib.Data.List.DropRight

/-!
# What detection leaves out

A clause can be read at more places than a scan tries: at the name of a qualified column, and
at any character of a name.  Every place where a clause of some form can be read is touched by
a clause that counts, unless the scan of that form has passed over the place inside a clause
that it found and that does not count.
-/

namespace SqlSnippet

open Chars

/-- The clause of one form that begins at a position.  Inside a word only a column without a
table can begin. -/
def Form.matchAt? (f : Form) (t : Text) (x : Nat) : Option Hit :=
  ((f.read? (t.drop x)).map fun r => (⟨x, r.1⟩ : Hit)).filter fun h =>
    !endsInWord (t.take x) || h.clause.column.qualifier.isNone

/-- The clause with the characters of `w` in front of the name of its column. -/
def Clause.extended (w : Text) : Clause → Clause
  | range c => range { c with column := { c.column with name := w ++ c.column.name } }
  | list c => list { c with column := { c.column with name := w ++ c.column.name } }
  | comparison c => comparison { c with column := { c.column with name := w ++ c.column.name } }

instance (h : Hit) (x : Nat) : Decidable (h.Covers x) :=
  inferInstanceAs (Decidable (h.start < x ∧ x < h.stop))

theorem exists_word (t : Text) :
    ∃ front w, t = front ++ w ∧ endsInWord front = false ∧ IsRun isWord w := by
  refine ⟨t.rdropWhile isWord, t.rtakeWhile isWord, ?_, ?_, ?_⟩
  · rw [List.rdropWhile_append_rtakeWhile]
  · by_cases hnil : t.rdropWhile isWord = []
    · rw [hnil]
      rfl
    · rw [endsInWord, List.getLast?_eq_some_getLast hnil, Option.any_some]
      exact Bool.eq_false_iff.mpr (List.rdropWhile_last_not isWord t hnil)
  · intro c hc
    exact List.mem_rtakeWhile_imp hc

section Extended

variable {c : Clause} {w : Text}

theorem Clause.form_extended (w : Text) (c : Clause) : (c.extended w).form = c.form := by
  cases c <;> rfl

theorem Column.text_extended {column : Column} (h : w ≠ [] → column.qualifier = none) :
    Column.text { column with name := w ++ column.name } = w ++ column.text := by
  rcases column with ⟨_ | table, name⟩
  · rfl
  · by_cases hw : w = []
    · rw [hw]
      rfl
    · cases h hw

theorem Clause.text_extended (h : w ≠ [] → c.column.qualifier = none) :
    (c.extended w).text = w ++ c.text := by
  have hcolumn := Column.text_extended h
  cases c with
  | range c =>
      simp only [Clause.column] at hcolumn
      simp [extended, text, RangeClause.text, RangeClause.lowerText, RangeClause.upperText,
        RangeClause.lead, RangeClause.middle, hcolumn]
  | list c =>
      simp only [Clause.column] at hcolumn
      simp [extended, text, ListClause.text, ListClause.lead, hcolumn]
  | comparison c =>
      simp only [Clause.column] at hcolumn
      simp [extended, text, Comparison.text, Comparison.lead, hcolumn]

theorem Clause.WellFormed.extended (hc : c.WellFormed) (hw : IsRun isWord w) :
    (c.extended w).WellFormed := by
  have hcolumn : Column.WellFormed { c.column with name := w ++ c.column.name } :=
    ⟨⟨by simp [hc.column.name.1], hw.append hc.column.name.2⟩, hc.column.qualifier⟩
  cases c with
  | range c => exact { (show c.WellFormed from hc) with column := hcolumn }
  | list c => exact { (show c.WellFormed from hc) with column := hcolumn }
  | comparison c => exact { (show c.WellFormed from hc) with column := hcolumn }

theorem Clause.Closes.extended {rest : Text} (h : c.Closes rest) (w : Text) :
    (c.extended w).Closes rest := by
  cases c <;> exact h

end Extended

theorem endsInWord_eq_false {t : Text} (h : ∀ c ∈ t, isWord c = false) :
    endsInWord t = false := by
  cases hlast : t.getLast? with
  | none => rw [endsInWord, hlast, Option.any_none]
  | some c => rw [endsInWord, hlast, Option.any_some, h c (List.mem_of_getLast? hlast)]

theorem endsInWord_of_isRun {t : Text} (hne : t ≠ []) (ht : IsRun isWord t) :
    endsInWord t = true := by
  rw [endsInWord, List.getLast?_eq_some_getLast hne, Option.any_some]
  exact ht _ (List.getLast_mem hne)

/-- No clause ends with a word character. -/
theorem Clause.WellFormed.endsInWord_text {c : Clause} (hc : c.WellFormed) {rest : Text}
    (hcloses : c.Closes rest) : endsInWord c.text = false := by
  cases c with
  | range c =>
      rw [Clause.text, RangeClause.text, RangeClause.upperText, Text.enclosed, ← List.append_assoc,
        ← List.append_assoc, endsInWord_append_singleton]
      decide
  | list c =>
      rw [Clause.text, ListClause.text, endsInWord_append_singleton]
      decide
  | comparison c =>
      rw [Clause.text, Comparison.text]
      by_cases hnil : c.closing = []
      · rw [hnil, List.append_nil, Text.enclosed, ← List.append_assoc, endsInWord_append_singleton]
        decide
      · rw [endsInWord_append _ hnil]
        apply endsInWord_eq_false
        intro ch hch
        exact isWord_eq_false_of_isClosingChar (IsClosing.isRun hcloses ch hch)

/-- A clause that ends behind the beginning of a run of word characters ends behind the run. -/
theorem Hit.Stands.length_lt_stop {h : Hit} {t front rest before w behind : Text}
    (hh : h.Stands t front rest) (ht : t = before ++ (w ++ behind)) (hw : IsRun isWord w)
    (hlt : before.length < h.stop) : (before ++ w).length < h.stop := by
  by_contra hle
  rw [Nat.not_lt, List.length_append] at hle
  obtain ⟨j, hj⟩ := Nat.exists_eq_add_of_lt hlt
  have hstop : (front ++ h.clause.text).length = h.stop := by
    rw [List.length_append, hh.start, Hit.stop]
  have htake : front ++ h.clause.text = before ++ w.take (j + 1) := by
    have hsplit : (front ++ h.clause.text) ++ rest = before ++ (w ++ behind) := by
      rw [List.append_assoc, ← hh.text, ht]
    have htext := congrArg (List.take h.stop) hsplit
    rw [← hstop, List.take_left, hstop, hj, Nat.add_assoc, List.take_length_add_append,
      List.take_append_of_le_length (by omega)] at htext
    exact htext
  have hrun : IsRun isWord (w.take (j + 1)) := fun c hc => hw c (List.mem_of_mem_take hc)
  have hne : w.take (j + 1) ≠ [] := by
    rw [ne_eq, List.take_eq_nil_iff]
    rintro (hzero | rfl)
    · omega
    · simp only [List.length_nil] at hle
      omega
  have hends := endsInWord_append before hne
  rw [← htake, endsInWord_append front h.clause.text_ne_nil, endsInWord_of_isRun hne hrun,
    hh.wellFormed.endsInWord_text hh.closes] at hends
  cases hends

theorem Form.exists_clause_of_mem_hits {f : Form} {t : Text} {h : Hit} (hh : h ∈ f.hits t) :
    ∃ k ∈ clauses t, ¬ h.Apart k := by
  have hself : ¬ h.Apart h := by
    have := h.start_lt_stop
    simp only [Hit.Apart]
    omega
  by_contra hnone
  have hapart : ∀ k ∈ clauses t, h.Apart k := by
    intro k hk
    by_contra hover
    exact hnone ⟨k, hk, hover⟩
  have hranges : ∀ r ∈ Form.range.hits t, h.Apart r :=
    fun r hr => hapart r (mem_clauses_of_range hr)
  have hcounts : h.Counts t := by
    rcases h with ⟨start, c | c | c⟩
    · trivial
    · exact hranges
    · exact ⟨hranges, fun l hl hfree => hapart l (mem_clauses_of_list hl hfree)⟩
  have hform := Form.form_eq_of_mem_hits hh
  exact hself (hapart h (mem_clauses_iff.mpr ⟨hform ▸ hh, hcounts⟩))

/-! ## Places where a clause can be read -/

theorem Form.matchAt?_eq_some_iff {f : Form} {t : Text} {x : Nat} {h : Hit} :
    f.matchAt? t x = some h ↔
      h.start = x ∧ (∃ rest, f.read? (t.drop x) = some (h.clause, rest)) ∧
        (endsInWord (t.take x) = true → h.clause.column.qualifier = none) := by
  rcases h with ⟨start, clause⟩
  rw [matchAt?, Option.filter_eq_some_iff, Option.map_eq_some_iff]
  constructor
  · rintro ⟨⟨⟨c, rest⟩, hread, hhit⟩, hword⟩
    obtain ⟨rfl, rfl⟩ := Hit.mk.inj hhit
    refine ⟨rfl, ⟨rest, hread⟩, fun hends => ?_⟩
    simpa [hends] using hword
  · rintro ⟨rfl, ⟨rest, hread⟩, hword⟩
    refine ⟨⟨(clause, rest), hread, rfl⟩, ?_⟩
    cases hends : endsInWord (t.take start) with
    | false => rfl
    | true => simp [hword hends]

/-- A clause that can be read inside a word is the end of one that can be read where the word
begins. -/
theorem Form.exists_hitAt?_of_matchAt? {f : Form} {t : Text} {x : Nat} {h : Hit}
    (hmatch : f.matchAt? t x = some h) :
    ∃ before w behind h', t = before ++ (w ++ behind) ∧ IsRun isWord w ∧
      (before ++ w).length = x ∧ f.hitAt? t before.length = some h' ∧ h'.stop = h.stop := by
  obtain ⟨rfl, ⟨rest, hread⟩, hqualifier⟩ := Form.matchAt?_eq_some_iff.mp hmatch
  obtain ⟨hform, htext, hc, hcloses⟩ := Form.read?_eq_some_iff.mp hread
  obtain ⟨before, w, hfront, hbefore, hw⟩ := exists_word (t.take h.start)
  have hlt : h.start < t.length := by
    by_contra hge
    rw [List.drop_of_length_le (Nat.not_lt.mp hge)] at htext
    exact h.clause.text_ne_nil (List.append_eq_nil_iff.mp htext.symm).1
  have hlength : (before ++ w).length = h.start := by
    rw [← hfront, List.length_take, Nat.min_eq_left hlt.le]
  have ht : t = before ++ (w ++ (h.clause.text ++ rest)) := by
    rw [← List.append_assoc, ← hfront, ← htext, List.take_append_drop]
  have hextended : (h.clause.extended w).text = w ++ h.clause.text := by
    apply Clause.text_extended
    intro hne
    apply hqualifier
    rw [hfront, endsInWord_append before hne, endsInWord_of_isRun hne hw]
  have hstands : Hit.Stands ⟨before.length, h.clause.extended w⟩ t before rest :=
    ⟨by rw [hextended, List.append_assoc, ← ht], rfl, hbefore, hc.extended hw,
      hcloses.extended w⟩
  refine ⟨before, w, h.clause.text ++ rest, _, ht, hw, hlength,
    Form.hitAt?_eq_some_iff_stands.mpr
      ⟨(h.clause.form_extended w).trans hform, rfl, before, rest, hstands⟩, ?_⟩
  rw [List.length_append] at hlength
  rw [Hit.stop, Hit.stop, hextended, List.length_append, ← hlength, Nat.add_assoc]

/-- A clause that can be read overlaps one that counts, unless a clause of the same form that
was found and does not count reaches over its beginning. -/
theorem exists_overlap_of_match {f : Form} {t : Text} {x : Nat} {h : Hit}
    (hmatch : f.matchAt? t x = some h)
    (hfree : ∀ d ∈ f.hits t, d ∉ clauses t → ¬ d.Covers x) :
    ∃ p ∈ parameters t, p.clauseStart < h.stop ∧ h.start < p.clauseStop := by
  obtain ⟨before, w, behind, h', ht, hw, hlength, hread, hstop⟩ :=
    Form.exists_hitAt?_of_matchAt? hmatch
  have hstart : h.start = x := (Form.matchAt?_eq_some_iff.mp hmatch).1
  have hlt := h.start_lt_stop
  have hle : before.length ≤ x := by
    rw [← hlength, List.length_append]
    exact Nat.le_add_right _ _
  have hpast : ∀ g ∈ f.hits t ++ clauses t, before.length < g.stop → x < g.stop := by
    intro g hg hbefore
    have hstands : ∃ front rest, g.Stands t front rest := by
      rcases List.mem_append.mp hg with hg | hg
      · exact Form.exists_stands hg
      · exact exists_stands_of_mem_clauses hg
    obtain ⟨front, rest, hstands⟩ := hstands
    rw [← hlength]
    exact hstands.length_lt_stop ht hw hbefore
  have hclause : ∃ k ∈ clauses t, before.length < k.stop ∧ k.start < h.stop := by
    obtain ⟨g, hg, hcases⟩ :=
      (scansFrom_hits f t).complete before.length h' (Nat.zero_le _) hread
    rcases hcases with rfl | hcovers
    · obtain ⟨k, hk, hover⟩ := Form.exists_clause_of_mem_hits hg
      have hbegin : g.start = before.length := (Form.hitAt?_eq_some_iff.mp hread).1
      simp only [Hit.Apart, not_or, Nat.not_le] at hover
      exact ⟨k, hk, by omega, by omega⟩
    · by_cases hcounts : g ∈ clauses t
      · exact ⟨g, hcounts, hcovers.2, by have := hcovers.1; omega⟩
      · refine absurd ⟨?_, ?_⟩ (hfree g hg hcounts)
        · exact lt_of_lt_of_le hcovers.1 hle
        · exact hpast g (List.mem_append_left _ hg) hcovers.2
  obtain ⟨k, hk, hbefore, hbehind⟩ := hclause
  obtain ⟨p, hp⟩ := k.exists_parameter t
  obtain ⟨-, hclauseStart, hclauseStop⟩ := Hit.clause_eq_of_mem_parameters hp
  refine ⟨p, mem_parameters_iff.mpr ⟨k, hk, hp⟩, ?_, ?_⟩
  · rwa [hclauseStart]
  · rw [hclauseStop, hstart]
    exact hpast k (List.mem_append_right _ hk) hbefore

/-- A comparison in a list is dropped, and the one behind the list is read from the middle of
its column on. -/
theorem exists_overlap_of_match_inside :
    ∃ h, Form.comparison.matchAt? (Text.ofString "a in (b = 'c') or name = 'x'") 20 = some h ∧
      ∃ p ∈ parameters (Text.ofString "a in (b = 'c') or name = 'x'"),
        p.clauseStart < h.stop ∧ h.start < p.clauseStop := by
  have hmatch : ∃ h,
      Form.comparison.matchAt? (Text.ofString "a in (b = 'c') or name = 'x'") 20 = some h :=
    Option.isSome_iff_exists.mp (by decide)
  obtain ⟨h, hmatch⟩ := hmatch
  exact ⟨h, hmatch, exists_overlap_of_match hmatch (by decide)⟩

/-- A comparison that is dropped for a list hides the comparison behind it. -/
theorem match_without_overlap :
    ∃ h, Form.comparison.matchAt?
        (Text.ofString "reaction in ('like', 'dislike') and region = 'EMEA'") 36 = some h ∧
      h.clause.text = Text.ofString "region = 'EMEA'" ∧
      ∀ p ∈ parameters (Text.ofString "reaction in ('like', 'dislike') and region = 'EMEA'"),
        ¬ (p.clauseStart < h.stop ∧ h.start < p.clauseStop) :=
  ⟨_, rfl, by decide, by decide⟩

end SqlSnippet
