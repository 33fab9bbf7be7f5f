import SqlSnippet.Proofs.Rows

/-!
# The place of a clause among the others

A parameter is named by its number, which is the number of rows that the clauses before its
own one have.  When two texts begin alike and a clause counts in both of them at the same
position, the clauses that count before it are the same as soon as the scans find the same
clauses there.  For lists they always do: a list ends at the first parenthesis, so a list that
would cover the beginning of another one ends no later.
-/

namespace SqlSnippet

open Chars

/-- A clause is found wherever its text is, whatever stands behind it; a comparison looks at the
next character. -/
theorem Hit.Stands.congr {front behind before rest : Text} {g : Hit}
    (hg : g.Stands (front ++ behind) before rest) (hstop : g.stop ≤ front.length) {behind' : Text}
    (hhead : g.clause.form = .comparison → behind.head? = behind'.head?) :
    ∃ rest', g.Stands (front ++ behind') before rest' := by
  have htext : front ++ behind = (before ++ g.clause.text) ++ rest := by
    rw [hg.text, List.append_assoc]
  have hlength : (before ++ g.clause.text).length ≤ front.length := by
    rw [List.length_append, hg.start]
    exact hstop
  obtain ⟨more, hfront, hrest⟩ := exists_append_of_length_le htext hlength
  refine ⟨more ++ behind', ?_, hg.start, hg.word, hg.wellFormed, ?_⟩
  · rw [hfront]
    simp
  · have hcloses := hg.closes
    rw [hrest] at hcloses
    rcases g with ⟨start, c | c | c⟩
    · trivial
    · trivial
    · exact IsClosing.congr hcloses (Or.inl (hhead rfl))

theorem Hit.Stands.exists_opened {t front rest : Text} {d : Hit} (hd : d.Stands t front rest)
    (hform : d.clause.form = .list) :
    ∃ opened, ')' ∉ opened ∧ t = (front ++ opened) ++ ')' :: rest ∧
      d.stop = (front ++ opened).length + 1 := by
  rcases d with ⟨start, c | c | c⟩
  · cases hform
  · have hc : c.WellFormed := hd.wellFormed
    have hstart : front.length = start := hd.start
    refine ⟨c.lead ++ '(' :: c.body, ?_, ?_, ?_⟩
    · apply List.not_mem_append
      · exact hc.isRun_lead.notMem (by decide)
      · simpa using hc.body.1
    · rw [hd.text]
      simp [Clause.text, ListClause.text]
    · simp only [Hit.stop, Clause.text, ListClause.text, List.length_append, List.length_cons,
        List.length_nil]
      omega
  · cases hform

/-- A list that covers the beginning of another list ends no later. -/
theorem Hit.Stands.stop_le_of_covers {t front rest front' rest' : Text} {d g : Hit}
    (hd : d.Stands t front rest) (hg : g.Stands t front' rest') (hform : d.clause.form = .list)
    (hform' : g.clause.form = .list) (hcovers : d.Covers g.start) : d.stop ≤ g.stop := by
  obtain ⟨opened, hclear, htext, hstop⟩ := hd.exists_opened hform
  obtain ⟨opened', -, htext', hstop'⟩ := hg.exists_opened hform'
  have hlt : front.length < (front' ++ opened').length := by
    have := hcovers.1
    rw [← hd.start, ← hg.start] at this
    rw [List.length_append]
    omega
  rcases cut_at_mark (htext.symm.trans htext') with ⟨tail, hinside, -⟩ | ⟨tail, hpast, -⟩
  · have hle := (List.prefix_append (front ++ opened) tail).length_le
    rw [← hinside] at hle
    omega
  · rcases cut_at_mark hpast with ⟨part, -, hopened⟩ | ⟨part, hfront, -⟩
    · exact absurd (by simp [hopened]) hclear
    · have hle := (List.prefix_append (front' ++ opened') (')' :: part)).length_le
      rw [← hfront] at hle
      omega

/-- What covers the beginning of a clause that ends no later than `n` ends no later than `n`
either. -/
def Form.Nested (f : Form) (t : Text) (n : Nat) : Prop :=
  ∀ d ∈ f.hits t, ∀ (g : Hit) (front rest : Text), g.Stands t front rest → g.clause.form = f →
    g.stop ≤ n → d.Covers g.start → d.stop ≤ n

theorem Form.nested_list (t : Text) (n : Nat) : Form.list.Nested t n := by
  intro d hd g front rest hg hform hstop hcovers
  obtain ⟨front', rest', hstands⟩ := Form.exists_stands hd
  exact (hstands.stop_le_of_covers hg (Form.form_eq_of_mem_hits hd) hform hcovers).trans hstop

/-- A clause in the common part of two texts is found in both of them, when the clauses that cover
its beginning lie in the common part too. -/
theorem Form.mem_hits_of_nested {f : Form} {front behind behind' : Text}
    (hhead : f = .comparison → behind.head? = behind'.head?)
    (hnested : f.Nested (front ++ behind) front.length)
    (hnested' : f.Nested (front ++ behind') front.length) {g : Hit}
    (hg : g ∈ f.hits (front ++ behind)) (hstop : g.stop ≤ front.length) :
    g ∈ f.hits (front ++ behind') := by
  -- By induction on where the clause begins.  A clause that covers its beginning in one text
  -- begins before it, so it is found in the other text, where it covers it too.
  induction hn : g.start using Nat.strong_induction_on generalizing g behind behind' with
  | h n ih =>
      obtain ⟨before, rest, hstands⟩ := Form.exists_stands hg
      have hform := Form.form_eq_of_mem_hits hg
      obtain ⟨rest', hstands'⟩ :=
        hstands.congr hstop fun hc => hhead (hform.symm.trans hc)
      refine Form.mem_hits_iff.mpr ⟨?_, ?_⟩
      · exact Form.hitAt?_eq_some_iff_stands.mpr ⟨hform, rfl, before, rest', hstands'⟩
      · intro d hd hcovers
        have hle := hnested' d hd g before rest' hstands' hform hstop hcovers
        have hold : d ∈ f.hits (front ++ behind) :=
          ih d.start (hn ▸ hcovers.1) (fun hc => (hhead hc).symm) hnested' hnested hd hle rfl
        exact (Form.mem_hits_iff.mp hg).2 d hold hcovers

theorem Form.mem_lists_of_stop_le {front behind behind' : Text} {g : Hit}
    (hg : g ∈ Form.list.hits (front ++ behind)) (hstop : g.stop ≤ front.length) :
    g ∈ Form.list.hits (front ++ behind') :=
  Form.mem_hits_of_nested (by simp) (Form.nested_list _ _) (Form.nested_list _ _) hg hstop

/-! ## What counts before a clause -/

/-- The scans find the same clauses in both texts up to the position. -/
def SameBefore (n : Nat) (t t' : Text) : Prop :=
  ∀ (f : Form) (g : Hit), g.stop ≤ n → (g ∈ f.hits t ↔ g ∈ f.hits t')

theorem SameBefore.symm {n : Nat} {t t' : Text} (h : SameBefore n t t') : SameBefore n t' t :=
  fun f g hstop => (h f g hstop).symm

section Before

variable {n : Nat} {t t' : Text} {h h' : Hit}

/-- What ends before the position and is apart from the ranges of one text is apart from those
of the other one. -/
theorem SameBefore.apart_ranges (hsame : SameBefore n t t') (hh' : h' ∈ clauses t')
    (hstart' : h'.start = n) {l : Hit} (hstop : l.stop ≤ n)
    (hfree : ∀ r ∈ Form.range.hits t, l.Apart r) : ∀ r ∈ Form.range.hits t', l.Apart r := by
  intro r hr
  by_cases hlt : r.start < n
  · have hle := clauses_stop_le (mem_clauses_of_range hr) hh' (hstart' ▸ hlt)
    exact hfree r ((hsame .range r (hstart' ▸ hle)).mpr hr)
  · exact Or.inl (hstop.trans (Nat.not_lt.mp hlt))

/-- A clause that counts before a clause of one text counts in the other one too. -/
theorem SameBefore.mem_clauses (hsame : SameBefore n t t') (hh : h ∈ clauses t)
    (hstart : h.start = n) (hh' : h' ∈ clauses t') (hstart' : h'.start = n) {g : Hit}
    (hg : g ∈ clauses t) (hlt : g.start < n) : g ∈ clauses t' := by
  have hstop : g.stop ≤ n := hstart ▸ clauses_stop_le hg hh (hstart ▸ hlt)
  obtain ⟨hfound, hcounts⟩ := mem_clauses_iff.mp hg
  refine mem_clauses_iff.mpr ⟨(hsame _ g hstop).mp hfound, ?_⟩
  rcases g with ⟨start, c | c | c⟩
  · trivial
  · exact hsame.apart_ranges hh' hstart' hstop hcounts
  · refine ⟨hsame.apart_ranges hh' hstart' hstop hcounts.1, ?_⟩
    intro l hl hfree
    by_cases hlt' : l.start < n
    · have hle : l.stop ≤ n :=
        hstart' ▸ clauses_stop_le (mem_clauses_of_list hl hfree) hh' (hstart' ▸ hlt')
      apply hcounts.2 l ((hsame .list l hle).mpr hl)
      exact hsame.symm.apart_ranges hh hstart hle hfree
    · exact Or.inl (hstop.trans (Nat.not_lt.mp hlt'))

theorem SameBefore.mem_clauses_iff (hsame : SameBefore n t t') (hh : h ∈ clauses t)
    (hstart : h.start = n) (hh' : h' ∈ clauses t') (hstart' : h'.start = n) {g : Hit}
    (hlt : g.start < n) : g ∈ clauses t ↔ g ∈ clauses t' := by
  constructor
  · intro hg
    exact hsame.mem_clauses hh hstart hh' hstart' hg hlt
  · intro hg
    exact hsame.symm.mem_clauses hh' hstart' hh hstart hg hlt

end Before

/-! ## The number of a row -/

/-- The clauses that count and begin before the position. -/
def clausesBefore (t : Text) (n : Nat) : List Hit := (clauses t).filter fun g => g.start < n

/-- How many rows the clauses before the position have. -/
def rowsBefore (t : Text) (n : Nat) : Nat :=
  ((clausesBefore t n).flatMap (Hit.parameters t)).length

/-- The clauses in front of a clause are those that begin before it. -/
theorem eq_clausesBefore {t : Text} {before behind : List Hit} {h : Hit}
    (hsplit : clauses t = before ++ h :: behind) : before = clausesBefore t h.start := by
  have hpairwise := clauses_pairwise t
  rw [hsplit, List.pairwise_append, List.pairwise_cons] at hpairwise
  obtain ⟨-, ⟨hbehind, -⟩, hbefore⟩ := hpairwise
  have hkeep : before.filter (fun g => g.start < h.start) = before := by
    apply List.filter_eq_self.mpr
    intro g hg
    rw [decide_eq_true_eq]
    exact lt_of_lt_of_le g.start_lt_stop (hbefore g hg h List.mem_cons_self)
  have hdrop : behind.filter (fun g => g.start < h.start) = [] := by
    apply List.filter_eq_nil_iff.mpr
    intro g hg
    rw [decide_eq_true_eq, Nat.not_lt]
    exact h.start_lt_stop.le.trans (hbehind g hg)
  rw [clausesBefore, hsplit, List.filter_append, List.filter_cons_of_neg (by simp), hkeep, hdrop,
    List.append_nil]

/-- A row is found behind the rows of the clauses that begin before its clause. -/
theorem getElem?_parameters_iff {t : Text} {i : Nat} {p : Parameter} :
    (parameters t)[i]? = some p ↔
      ∃ h ∈ clauses t, ∃ j, (h.parameters t)[j]? = some p ∧ i = rowsBefore t h.start + j := by
  constructor
  · intro hp
    obtain ⟨before, h, behind, j, hsplit, hj, hindex⟩ := exists_split_of_flatMap hp
    refine ⟨h, by simp [hsplit], j, hj, ?_⟩
    rw [hindex, rowsBefore, ← eq_clausesBefore hsplit]
  · rintro ⟨h, hh, j, hj, rfl⟩
    obtain ⟨before, behind, hsplit⟩ := List.append_of_mem hh
    have hlt : j < (h.parameters t).length := (List.getElem?_eq_some_iff.mp hj).1
    rw [parameters, hsplit, rowsBefore, ← eq_clausesBefore hsplit, List.flatMap_append,
      List.getElem?_append_right (Nat.le_add_right _ _), Nat.add_sub_cancel_left,
      List.flatMap_cons, List.getElem?_append_left hlt, hj]

theorem clausesBefore_congr {n : Nat} {t t' : Text}
    (h : ∀ g : Hit, g.start < n → (g ∈ clauses t ↔ g ∈ clauses t')) :
    clausesBefore t n = clausesBefore t' n := by
  have hsorted : ∀ u, (clausesBefore u n).Pairwise fun a b => a.start < b.start := by
    intro u
    exact (clauses_pairwise_start u).filter _
  apply eq_of_pairwise_lt (hsorted t) (hsorted t')
  intro g
  rw [clausesBefore, clausesBefore, List.mem_filter, List.mem_filter, decide_eq_true_eq]
  exact and_congr_left (h g)

theorem rowsBefore_congr {n : Nat} {t t' : Text}
    (h : ∀ g : Hit, g.start < n → (g ∈ clauses t ↔ g ∈ clauses t')) :
    rowsBefore t n = rowsBefore t' n := by
  rw [rowsBefore, rowsBefore, clausesBefore_congr h, List.length_flatMap, List.length_flatMap]
  congr 1
  apply List.map_congr_left
  intro g _
  exact g.length_parameters t t'

end SqlSnippet
