import SqlSnippet.Proofs.Coverage
import SqlSnippet.Proofs.Position
import SqlSnippet.Proofs.Retention

/-!
# The clauses around one that changes

One clause of a text is exchanged for another one, and both count.  The clauses that count in
front of it are the same, whatever the comparisons do that reach over its beginning: a comparison
that covers the beginning of another one ends no later.  The clauses that count behind it are the
same when the scans find the same clauses there, each as far behind the one clause as behind the
other.  Then the rows of the two texts differ in nothing but the rows of the clause.
-/

namespace SqlSnippet

open Chars

theorem IsClosing.unique {closing closing' rest rest' : Text} (h : IsClosing closing rest)
    (h' : IsClosing closing' rest') (heq : closing ++ rest = closing' ++ rest') :
    closing = closing' := by
  have hread := readClosing_eq_iff.mpr ⟨rfl, h⟩
  rw [heq, readClosing_eq_iff.mpr ⟨rfl, h'⟩] at hread
  exact (Prod.mk.inj hread).1.symm

theorem Hit.Stands.le_start_of_no_word {t front rest before part behind : Text} {g : Hit}
    (hg : g.Stands t front rest) (ht : t = before ++ (part ++ behind))
    (hpart : ∀ ch ∈ part, isWord ch = false) (hle : before.length ≤ g.start) :
    before.length + part.length ≤ g.start := by
  by_contra hlt
  obtain ⟨ch, hat, hword⟩ := hg.getElem?_start
  rw [ht, List.getElem?_append_right hle, List.getElem?_append_left (by omega)] at hat
  rw [hpart ch (List.mem_of_getElem? hat)] at hword
  cases hword

/-- A comparison that covers the beginning of another one ends no later. -/
theorem Hit.Stands.comparison_stop_le {t front rest front' rest' : Text} {n m : Nat}
    {c e : Comparison} (hd : Hit.Stands ⟨n, .comparison c⟩ t front rest)
    (hg : Hit.Stands ⟨m, .comparison e⟩ t front' rest')
    (hcovers : Hit.Covers ⟨n, .comparison c⟩ m) :
    Hit.stop ⟨n, .comparison c⟩ ≤ Hit.stop ⟨m, .comparison e⟩ := by
  have hc : c.WellFormed := hd.wellFormed
  have he : e.WellFormed := hg.wellFormed
  have hclosing : quoteMark ∉ c.closing := (IsClosing.isRun hd.closes).notMem (by decide)
  have hlead : quoteMark ∉ e.lead := he.isRun_lead.notMem (by decide)
  obtain ⟨u, hstart, hbehind⟩ := hd.exists_offset hg hcovers.1.le
  have hparts : (Clause.comparison e).text ++ rest' =
      e.lead ++ quoteMark :: (e.value ++ quoteMark :: (e.closing ++ rest')) := by
    simp [Clause.text, Comparison.text, Text.enclosed]
  simp only [Hit.stop, Clause.text, Comparison.text, Text.enclosed, List.length_append,
    List.length_cons, List.length_nil] at hstart ⊢
  cases Comparison.cut hbehind.symm with
  | lead y hfront htext =>
      have hy : quoteMark ∉ y :=
        (notMem_of_eq_append hfront (hc.isRun_lead.notMem (by decide))).2
      obtain ⟨rfl, hvalues⟩ := eq_of_append_mark_eq hlead hy (hparts.symm.trans htext)
      obtain ⟨hvalue, hrest⟩ := eq_of_append_mark_eq he.value hc.value hvalues
      have hsame := IsClosing.unique hg.closes hd.closes hrest
      have hlength := congrArg List.length hfront
      rw [List.length_append] at hlength
      rw [hvalue, hsame]
      omega
  | value x y hfront hvalue htext =>
      have hy : quoteMark ∉ y := (notMem_of_eq_append hvalue hc.value).2
      obtain ⟨rfl, hinside⟩ := eq_of_append_mark_eq hlead hy (hparts.symm.trans htext)
      have hfrontLength := congrArg List.length hfront
      have hvalueLength := congrArg List.length hvalue
      simp only [List.length_append, List.length_cons] at hfrontLength hvalueLength
      rcases cut_at_mark hinside.symm with ⟨tail, hlonger, -⟩ | ⟨tail, hmem, -⟩
      · have hlength := congrArg List.length hlonger
        rw [List.length_append] at hlength
        omega
      · exact absurd (by simp [hmem]) hclosing
  | behind x hfront htext =>
      have hfrontStart : front.length = n := hd.start
      have hsplit : t = (front ++ (c.lead ++ c.value.enclosed)) ++ (c.closing ++ rest) := by
        rw [hd.text]
        simp [Clause.text, Comparison.text]
      have hle := hg.le_start_of_no_word hsplit
        (fun ch hch => isWord_eq_false_of_isClosingChar (IsClosing.isRun hd.closes ch hch))
      have hfrontLength := congrArg List.length hfront
      have hlt := hcovers.2
      simp only [Hit.stop, Clause.text, Comparison.text, Text.enclosed, List.length_append,
        List.length_cons, List.length_nil] at hlt hfrontLength hle
      omega

theorem Form.nested_comparison (t : Text) (n : Nat) : Form.comparison.Nested t n := by
  intro d hd g front rest hg hform hstop hcovers
  obtain ⟨front', rest', hstands⟩ := Form.exists_stands hd
  have hform' := Form.form_eq_of_mem_hits hd
  obtain ⟨m, e | e | e⟩ := g
  · cases hform
  · cases hform
  · obtain ⟨k, c | c | c⟩ := d
    · cases hform'
    · cases hform'
    · exact (hstands.comparison_stop_le hg hcovers).trans hstop

theorem Form.nested_of_stop_le {f : Form} {t : Text} {n : Nat}
    (hcross : ∀ d ∈ f.hits t, d.start < n → d.stop ≤ n) : f.Nested t n := by
  intro d hd g front rest _ _ hstop hcovers
  have hlt := g.start_lt_stop
  exact hcross d hd (by have := hcovers.1; omega)

/-- Texts that begin alike, and go on with the same character, agree on what is found in their
common part, if no range reaches over its end. -/
theorem sameBefore_of_append {front behind behind' : Text} (hhead : behind.head? = behind'.head?)
    (hranges : ∀ r ∈ Form.range.hits (front ++ behind), r.start < front.length →
      r.stop ≤ front.length)
    (hranges' : ∀ r ∈ Form.range.hits (front ++ behind'), r.start < front.length →
      r.stop ≤ front.length) :
    SameBefore front.length (front ++ behind) (front ++ behind') := by
  intro f g hstop
  have hnested : ∀ {u : Text}, (∀ r ∈ Form.range.hits u, r.start < front.length →
      r.stop ≤ front.length) → f.Nested u front.length := by
    intro u hu
    cases f with
    | range => exact Form.nested_of_stop_le hu
    | list => exact Form.nested_list u _
    | comparison => exact Form.nested_comparison u _
  constructor
  · intro hg
    exact Form.mem_hits_of_nested (fun _ => hhead) (hnested hranges) (hnested hranges') hg hstop
  · intro hg
    exact Form.mem_hits_of_nested (fun _ => hhead.symm) (hnested hranges') (hnested hranges) hg
      hstop

/-! ## Behind the clause -/

theorem Form.stop_le_stop {f : Form} {t : Text} {g h : Hit} (hg : g ∈ f.hits t)
    (hh : h ∈ f.hits t) (hlt : h.start < g.stop) : h.stop ≤ g.stop := by
  have hpositive := g.start_lt_stop
  rcases Nat.lt_trichotomy h.start g.start with hbefore | hsame | hbehind
  · exact (Form.stop_le_start hh hg hbefore).trans hpositive.le
  · have hat := Form.hitAt?_of_mem_hits hh
    rw [hsame, Form.hitAt?_of_mem_hits hg, Option.some.injEq] at hat
    rw [hat]
  · exact absurd (Form.stop_le_start hg hh hbehind) (Nat.not_le.mpr hlt)

/-- Behind two clauses that are followed by the same text the same clauses are found, when none
reaches over the end of the one or of the other. -/
theorem Hit.Stands.hits_agree_behind {f : Form} {t t' front front' rest : Text} {h h' : Hit}
    (hh : h.Stands t front rest) (hh' : h'.Stands t' front' rest)
    (hcross : ∀ g ∈ f.hits t, g.start < h.stop → g.stop ≤ h.stop)
    (hcross' : ∀ g ∈ f.hits t', g.start < h'.stop → g.stop ≤ h'.stop) (i : Nat) (c : Clause) :
    ⟨h.stop + i, c⟩ ∈ f.hits t ↔ ⟨h'.stop + i, c⟩ ∈ f.hits t' := by
  have hsplit : ∀ {u a : Text} {k : Hit}, k.Stands u a rest →
      u = (a ++ k.clause.text) ++ rest ∧ k.stop = (a ++ k.clause.text).length ∧
        endsInWord (a ++ k.clause.text) = false := by
    intro u a k hk
    refine ⟨by rw [hk.text, List.append_assoc], ?_, ?_⟩
    · rw [List.length_append, hk.start, Hit.stop]
    · rw [endsInWord_append _ k.clause.text_ne_nil]
      exact hk.wellFormed.endsInWord_text hk.closes
  obtain ⟨htext, hstop, hword⟩ := hsplit hh
  obtain ⟨htext', hstop', hword'⟩ := hsplit hh'
  rw [hstop, htext] at hcross ⊢
  rw [hstop', htext'] at hcross' ⊢
  exact Form.hits_agree_behind hword hword' hcross hcross' i c

theorem Hit.Stands.rest_eq_drop {t front rest : Text} {h : Hit} (hh : h.Stands t front rest) :
    rest = t.drop h.stop := by
  rw [hh.text, Hit.stop, ← hh.start, List.drop_length_add_append, List.drop_left]

/-- Behind two texts that are followed by the same text the same clauses are found, when clauses
that begin in the two texts reach equally far over their ends. -/
theorem Form.hits_agree_behind_reach {f : Form} {front front' behind : Text} {g g' : Hit} {k : Nat}
    (hg : g ∈ f.hits (front ++ behind)) (hg' : g' ∈ f.hits (front' ++ behind))
    (hlt : g.start < front.length) (hlt' : g'.start < front'.length)
    (hstop : g.stop = front.length + k) (hstop' : g'.stop = front'.length + k)
    (i : Nat) (c : Clause) :
    ⟨front.length + i, c⟩ ∈ f.hits (front ++ behind) ↔
      ⟨front'.length + i, c⟩ ∈ f.hits (front' ++ behind) := by
  by_cases hi : i < k
  · -- The clause that reaches over the end leaves no room for another one.
    have hnone : ∀ {u : Text} {d : Hit} {n : Nat}, d ∈ f.hits u → d.start < n →
        d.stop = n + k → ⟨n + i, c⟩ ∉ f.hits u := by
      intro u d n hd hstart hdstop hmem
      have hle := Form.stop_le_start hd hmem (by simp only; omega)
      simp only at hle
      omega
    exact iff_of_false (hnone hg hlt hstop) (hnone hg' hlt' hstop')
  · obtain ⟨j, rfl⟩ := Nat.exists_eq_add_of_le (Nat.not_lt.mp hi)
    obtain ⟨before, rest, hstands⟩ := Form.exists_stands hg
    obtain ⟨before', rest', hstands'⟩ := Form.exists_stands hg'
    have hrest : rest = behind.drop k := by
      rw [hstands.rest_eq_drop, hstop, List.drop_length_add_append]
    have hrest' : rest' = behind.drop k := by
      rw [hstands'.rest_eq_drop, hstop', List.drop_length_add_append]
    rw [hrest] at hstands
    rw [hrest'] at hstands'
    rw [← Nat.add_assoc, ← Nat.add_assoc, ← hstop, ← hstop']
    exact hstands.hits_agree_behind hstands' (fun _ hd => Form.stop_le_stop hg hd)
      (fun _ hd => Form.stop_le_stop hg' hd) j c

/-- The scans find the same clauses as far behind `n` in the one text as behind `n'` in the other
one. -/
def SameBehind (n n' : Nat) (t t' : Text) : Prop :=
  ∀ (f : Form) (i : Nat) (c : Clause), ⟨n + i, c⟩ ∈ f.hits t ↔ ⟨n' + i, c⟩ ∈ f.hits t'

theorem SameBehind.symm {n n' : Nat} {t t' : Text} (h : SameBehind n n' t t') :
    SameBehind n' n t' t :=
  fun f i c => (h f i c).symm

/-- A clause that counts does not reach over the end of another one. -/
theorem clauses_stop_le_stop {t : Text} {g h : Hit} (hg : g ∈ clauses t) (hh : h ∈ clauses t)
    (hlt : g.start < h.stop) : g.stop ≤ h.stop := by
  rcases Nat.lt_trichotomy g.start h.start with hbefore | hsame | hbehind
  · exact (clauses_stop_le hg hh hbefore).trans h.start_lt_stop.le
  · have hsplit := clauses_pairwise t
    by_cases heq : g = h
    · rw [heq]
    · have hapart : g.Apart h := (hsplit.imp (S := Hit.Apart) Or.inl).forall hg hh heq
      have hpositive := g.start_lt_stop
      have hpositive' := h.start_lt_stop
      rcases hapart with hle | hle <;> omega
  · have := clauses_stop_le hh hg hbehind
    omega

section Behind

variable {t t' : Text} {h h' : Hit}

/-- What begins behind the clause of one text is as much apart from the ranges as what begins as
far behind the clause of the other one. -/
theorem SameBehind.apart_ranges (hsame : SameBehind h.stop h'.stop t t') (hh' : h' ∈ clauses t')
    {i : Nat} {c : Clause} (hfree : ∀ r ∈ Form.range.hits t, Hit.Apart ⟨h.stop + i, c⟩ r) :
    ∀ r ∈ Form.range.hits t', Hit.Apart ⟨h'.stop + i, c⟩ r := by
  intro r hr
  by_cases hlt : r.start < h'.stop
  · have hle := clauses_stop_le_stop (mem_clauses_of_range hr) hh' hlt
    exact Or.inr (hle.trans (Nat.le_add_right _ _))
  · obtain ⟨start, d⟩ := r
    obtain ⟨j, rfl⟩ := Nat.exists_eq_add_of_le (Nat.not_lt.mp hlt)
    have hapart := hfree _ ((hsame .range j d).mpr hr)
    simp only [Hit.Apart, Hit.stop] at hapart ⊢
    omega

theorem SameBehind.mem_clauses (hsame : SameBehind h.stop h'.stop t t') (hh : h ∈ clauses t)
    (hh' : h' ∈ clauses t') {i : Nat} {c : Clause} (hg : ⟨h.stop + i, c⟩ ∈ clauses t) :
    ⟨h'.stop + i, c⟩ ∈ clauses t' := by
  obtain ⟨hfound, hcounts⟩ := mem_clauses_iff.mp hg
  refine mem_clauses_iff.mpr ⟨(hsame _ i c).mp hfound, ?_⟩
  rcases c with c | c | c
  · trivial
  · exact hsame.apart_ranges hh' hcounts
  · refine ⟨hsame.apart_ranges hh' hcounts.1, ?_⟩
    intro l hl hfree
    by_cases hlt : l.start < h'.stop
    · have hle := clauses_stop_le_stop (mem_clauses_of_list hl hfree) hh' hlt
      exact Or.inr (hle.trans (Nat.le_add_right _ _))
    · obtain ⟨start, d⟩ := l
      obtain ⟨j, rfl⟩ := Nat.exists_eq_add_of_le (Nat.not_lt.mp hlt)
      have hapart := hcounts.2 _ ((hsame .list j d).mpr hl) (hsame.symm.apart_ranges hh hfree)
      simp only [Hit.Apart, Hit.stop] at hapart ⊢
      omega

theorem SameBehind.mem_clauses_iff (hsame : SameBehind h.stop h'.stop t t') (hh : h ∈ clauses t)
    (hh' : h' ∈ clauses t') {i : Nat} {c : Clause} :
    ⟨h.stop + i, c⟩ ∈ clauses t ↔ ⟨h'.stop + i, c⟩ ∈ clauses t' :=
  ⟨hsame.mem_clauses hh hh', hsame.symm.mem_clauses hh' hh⟩

end Behind

/-! ## All clauses -/

/-- The clauses that count and begin behind the position. -/
def clausesBehind (t : Text) (n : Nat) : List Hit := (clauses t).filter fun g => n ≤ g.start

theorem mem_clausesBehind_iff {t : Text} {n : Nat} {g : Hit} :
    g ∈ clausesBehind t n ↔ g ∈ clauses t ∧ n ≤ g.start := by
  rw [clausesBehind, List.mem_filter, decide_eq_true_eq]

/-- The clauses behind a clause are those that begin behind its end. -/
theorem eq_clausesBehind {t : Text} {before behind : List Hit} {h : Hit}
    (hsplit : clauses t = before ++ h :: behind) : behind = clausesBehind t h.stop := by
  have hpairwise := clauses_pairwise t
  rw [hsplit, List.pairwise_append, List.pairwise_cons] at hpairwise
  obtain ⟨-, ⟨hbehind, -⟩, hbefore⟩ := hpairwise
  have hlt := h.start_lt_stop
  have hdrop : before.filter (fun g => h.stop ≤ g.start) = [] := by
    apply List.filter_eq_nil_iff.mpr
    intro g hg
    rw [decide_eq_true_eq, Nat.not_le]
    have hle := hbefore g hg h List.mem_cons_self
    have hlt' := g.start_lt_stop
    omega
  have hkeep : behind.filter (fun g => h.stop ≤ g.start) = behind := by
    apply List.filter_eq_self.mpr
    intro g hg
    rw [decide_eq_true_eq]
    exact hbehind g hg
  rw [clausesBehind, hsplit, List.filter_append, hdrop, List.filter_cons_of_neg (by simp [hlt]),
    hkeep, List.nil_append]

/-- The clauses that count are those before a clause, the clause, and those behind it. -/
theorem clauses_eq_around {t : Text} {h : Hit} (hh : h ∈ clauses t) :
    clauses t = clausesBefore t h.start ++ h :: clausesBehind t h.stop := by
  obtain ⟨before, behind, hsplit⟩ := List.append_of_mem hh
  rw [← eq_clausesBefore hsplit, ← eq_clausesBehind hsplit, hsplit]

/-- Behind two clauses that are followed by the same clauses the same clauses count. -/
theorem SameBehind.map_clausesBehind {t t' : Text} {h h' : Hit}
    (hsame : SameBehind h.stop h'.stop t t') (hh : h ∈ clauses t) (hh' : h' ∈ clauses t') :
    (clausesBehind t h.stop).map Hit.clause = (clausesBehind t' h'.stop).map Hit.clause := by
  let shifted : Hit → Hit := fun g => ⟨h'.stop + (g.start - h.stop), g.clause⟩
  have hsorted : ∀ u n, (clausesBehind u n).Pairwise fun a b => a.start < b.start :=
    fun u _ => (clauses_pairwise_start u).filter _
  have hshift : (clausesBehind t h.stop).map shifted = clausesBehind t' h'.stop := by
    refine eq_of_pairwise_lt ?_ (hsorted t' h'.stop) fun g => ?_
    · apply List.pairwise_map.mpr
      apply (hsorted t h.stop).imp_of_mem
      intro a b ha hb hab
      have hle := (mem_clausesBehind_iff.mp ha).2
      simp only [shifted]
      omega
    · rw [List.mem_map, mem_clausesBehind_iff]
      constructor
      · rintro ⟨⟨start, c⟩, hk, rfl⟩
        obtain ⟨hk, hle⟩ := mem_clausesBehind_iff.mp hk
        obtain ⟨i, rfl⟩ := Nat.exists_eq_add_of_le hle
        simp only [shifted, Nat.add_sub_cancel_left]
        exact ⟨(hsame.mem_clauses_iff hh hh').mp hk, Nat.le_add_right _ _⟩
      · obtain ⟨start, c⟩ := g
        rintro ⟨hg, hle⟩
        obtain ⟨i, rfl⟩ := Nat.exists_eq_add_of_le hle
        refine ⟨⟨h.stop + i, c⟩, ?_, by simp only [shifted, Nat.add_sub_cancel_left]⟩
        exact mem_clausesBehind_iff.mpr
          ⟨(hsame.mem_clauses_iff hh hh').mpr hg, Nat.le_add_right _ _⟩
  rw [← hshift, List.map_map]
  rfl

/-- What a row shows: the column, the kind and the value. -/
def Parameter.label (p : Parameter) : Text × Kind × Text := (p.field, p.kind, p.value)

/-- What the rows of a clause show does not depend on where the clause stands. -/
def Clause.labels (c : Clause) : List (Text × Kind × Text) :=
  (Hit.parameters [] ⟨0, c⟩).map Parameter.label

theorem Hit.map_label_parameters (t : Text) (h : Hit) :
    (h.parameters t).map Parameter.label = h.clause.labels := by
  rcases h with ⟨start, c | c | c⟩ <;> rfl

theorem map_label_flatMap (t : Text) (hits : List Hit) :
    (hits.flatMap (Hit.parameters t)).map Parameter.label =
      (hits.map Hit.clause).flatMap Clause.labels := by
  rw [List.map_flatMap, List.flatMap_map]
  congr 1
  funext h
  exact h.map_label_parameters t

/-- When a clause with one row is exchanged for another such clause, what the other rows show
stays the same. -/
theorem map_label_set {n : Nat} {t t' : Text} {h h' : Hit} (hbefore : SameBefore n t t')
    (hbehind : SameBehind h.stop h'.stop t t') (hh : h ∈ clauses t) (hstart : h.start = n)
    (hh' : h' ∈ clauses t') (hstart' : h'.start = n) {p p' : Parameter}
    (hp : h.parameters t = [p]) (hp' : h'.parameters t' = [p']) :
    (parameters t').map Parameter.label =
      ((parameters t).map Parameter.label).set (rowsBefore t n) p'.label := by
  have hsame : clausesBefore t' n = clausesBefore t n :=
    clausesBefore_congr fun g hlt => (hbefore.mem_clauses_iff hh hstart hh' hstart' hlt).symm
  have hclauses : (clauses t).map Hit.clause = (clausesBefore t n).map Hit.clause ++
      h.clause :: (clausesBehind t h.stop).map Hit.clause := by
    rw [clauses_eq_around hh, hstart, List.map_append, List.map_cons]
  have hclauses' : (clauses t').map Hit.clause = (clausesBefore t n).map Hit.clause ++
      h'.clause :: (clausesBehind t h.stop).map Hit.clause := by
    rw [clauses_eq_around hh', hstart', hsame, List.map_append, List.map_cons,
      hbehind.map_clausesBehind hh hh']
  have hrows : (((clausesBefore t n).map Hit.clause).flatMap Clause.labels).length =
      rowsBefore t n := by
    rw [← map_label_flatMap t, List.length_map, rowsBefore]
  have hlabel : h.clause.labels = [p.label] := by
    rw [← h.map_label_parameters t, hp, List.map_singleton]
  have hlabel' : h'.clause.labels = [p'.label] := by
    rw [← h'.map_label_parameters t', hp', List.map_singleton]
  rw [parameters, parameters, map_label_flatMap, map_label_flatMap, hclauses, hclauses',
    List.flatMap_append, List.flatMap_append, List.flatMap_cons, List.flatMap_cons, hlabel,
    hlabel', ← hrows]
  simp

end SqlSnippet
