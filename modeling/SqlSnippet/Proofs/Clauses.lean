import SqlSnippet.Proofs.Scan
import Mathlib.Data.List.Sort

/-!
# The clauses that count

Three scans run over the same text, and what one of them finds may overlap what another
one has found.  The clauses that count are those that are left after the forms have been
taken in turn; they share no character, so sorting them by their starts puts each one
behind the end of the one before.
-/

namespace SqlSnippet

theorem mem_sortByKey {α : Type} {key : α → Nat} {a : α} {list : List α} :
    a ∈ sortByKey key list ↔ a ∈ list :=
  (sortByKey_perm key list).mem_iff

theorem insertByKey_pairwise {α : Type} {key : α → Nat} (a : α) {list : List α}
    (h : list.Pairwise fun x y => key x ≤ key y) :
    (insertByKey key a list).Pairwise fun x y => key x ≤ key y := by
  induction list with
  | nil => exact List.pairwise_singleton _ a
  | cons b rest ih =>
      obtain ⟨hb, hrest⟩ := List.pairwise_cons.mp h
      unfold insertByKey
      split
      next hle =>
        refine List.Pairwise.cons (fun x hx => ?_) h
        rcases List.mem_cons.mp hx with rfl | hx
        · exact hle
        · exact hle.trans (hb x hx)
      next hlt =>
        refine List.Pairwise.cons (fun x hx => ?_) (ih hrest)
        rcases List.mem_cons.mp ((insertByKey_perm key a rest).mem_iff.mp hx) with rfl | hx
        · exact (Nat.not_le.mp hlt).le
        · exact hb x hx

theorem sortByKey_pairwise {α : Type} (key : α → Nat) (list : List α) :
    (sortByKey key list).Pairwise fun x y => key x ≤ key y := by
  induction list with
  | nil => exact List.Pairwise.nil
  | cons a rest ih => exact insertByKey_pairwise a ih

/-- Elements with ascending keys are in the only order that is possible. -/
theorem eq_of_pairwise_lt {α : Type} {key : α → Nat} {list list' : List α}
    (hlist : list.Pairwise fun a b => key a < key b)
    (hlist' : list'.Pairwise fun a b => key a < key b)
    (hmem : ∀ a, a ∈ list ↔ a ∈ list') : list = list' := by
  have : Std.Irrefl fun a b : α => key a < key b := ⟨fun a => Nat.lt_irrefl (key a)⟩
  have : Std.Antisymm fun a b : α => key a < key b :=
    ⟨fun a b hab hba => absurd hab (Nat.lt_asymm hba)⟩
  exact hlist.eq_of_mem_iff hlist' hmem

/-! ## Which clauses count -/

theorem rangeHits_eq (t : Text) : rangeHits t = Form.range.hits t := rfl

theorem listHits_eq (t : Text) : listHits t = Form.list.hits t := rfl

theorem comparisonHits_eq (t : Text) : comparisonHits t = Form.comparison.hits t := rfl

/-- A list that overlaps no range counts, and a comparison that overlaps neither a range
nor a list that counts. -/
def Hit.Counts (t : Text) (h : Hit) : Prop :=
  match h.clause with
  | .range _ => True
  | .list _ => ∀ r ∈ Form.range.hits t, h.Apart r
  | .comparison _ =>
    (∀ r ∈ Form.range.hits t, h.Apart r) ∧
      ∀ l ∈ Form.list.hits t, (∀ r ∈ Form.range.hits t, l.Apart r) → h.Apart l

theorem mem_apartFrom_iff {taken hits : List Hit} {h : Hit} :
    h ∈ apartFrom taken hits ↔ h ∈ hits ∧ ∀ g ∈ taken, h.Apart g := by
  simp [apartFrom, Hit.overlaps_eq_false_iff]

theorem mem_countedHits_iff {t : Text} {h : Hit} :
    h ∈ countedHits t ↔ h ∈ h.clause.form.hits t ∧ h.Counts t := by
  have hform : ∀ {f : Form}, h ∈ f.hits t → h.clause.form = f :=
    fun hh => Form.form_eq_of_mem_hits hh
  simp only [countedHits, List.mem_append, mem_apartFrom_iff, rangeHits_eq, listHits_eq,
    comparisonHits_eq, or_imp, forall_and]
  rcases h with ⟨start, c | c | c⟩
  · simp only [Clause.form, Hit.Counts, and_true]
    constructor
    · rintro ((hh | ⟨hh, -⟩) | ⟨hh, -⟩)
      · exact hh
      · cases hform hh
      · cases hform hh
    · exact fun hh => Or.inl (Or.inl hh)
  · simp only [Clause.form, Hit.Counts]
    constructor
    · rintro ((hh | hh) | ⟨hh, -⟩)
      · cases hform hh
      · exact hh
      · cases hform hh
    · exact fun hh => Or.inl (Or.inr hh)
  · simp only [Clause.form, Hit.Counts]
    constructor
    · rintro ((hh | ⟨hh, -⟩) | ⟨hh, hranges, hlists⟩)
      · cases hform hh
      · cases hform hh
      · exact ⟨hh, hranges, fun l hl hapart => hlists l ⟨hl, hapart⟩⟩
    · rintro ⟨hh, hranges, hlists⟩
      exact Or.inr ⟨hh, hranges, fun l hl => hlists l hl.1 hl.2⟩

theorem mem_clauses_iff {t : Text} {h : Hit} :
    h ∈ clauses t ↔ h ∈ h.clause.form.hits t ∧ h.Counts t := by
  rw [clauses, mem_sortByKey, mem_countedHits_iff]

theorem mem_clauses_of_range {t : Text} {r : Hit} (hr : r ∈ Form.range.hits t) :
    r ∈ clauses t := by
  have hform := Form.form_eq_of_mem_hits hr
  rcases r with ⟨start, c | c | c⟩
  · exact mem_clauses_iff.mpr ⟨hr, trivial⟩
  · cases hform
  · cases hform

theorem mem_clauses_of_list {t : Text} {l : Hit} (hl : l ∈ Form.list.hits t)
    (hapart : ∀ r ∈ Form.range.hits t, l.Apart r) : l ∈ clauses t := by
  have hform := Form.form_eq_of_mem_hits hl
  rcases l with ⟨start, c | c | c⟩
  · cases hform
  · exact mem_clauses_iff.mpr ⟨hl, hapart⟩
  · cases hform

theorem exists_stands_of_mem_clauses {t : Text} {h : Hit} (hh : h ∈ clauses t) :
    ∃ front rest, h.Stands t front rest :=
  Form.exists_stands (mem_clauses_iff.mp hh).1

theorem apartFrom_pairwise (taken : List Hit) {hits : List Hit} (h : hits.Pairwise Hit.Apart) :
    (apartFrom taken hits).Pairwise Hit.Apart :=
  h.filter _

theorem Form.hits_pairwise_apart (f : Form) (t : Text) : (f.hits t).Pairwise Hit.Apart :=
  (f.hits_apart t).imp Or.inl

theorem countedHits_pairwise (t : Text) : (countedHits t).Pairwise Hit.Apart := by
  have hlists := apartFrom_pairwise (rangeHits t)
    (Form.list.hits_pairwise_apart t)
  have hcomparisons := apartFrom_pairwise
    (rangeHits t ++ apartFrom (rangeHits t) (listHits t))
    (Form.comparison.hits_pairwise_apart t)
  refine List.pairwise_append.mpr ⟨List.pairwise_append.mpr
    ⟨Form.range.hits_pairwise_apart t, hlists, ?_⟩, hcomparisons, ?_⟩
  · intro r hr l hl
    exact ((mem_apartFrom_iff.mp hl).2 r hr).symm
  · intro g hg h hh
    exact ((mem_apartFrom_iff.mp hh).2 g hg).symm

/-- Each clause that counts lies behind the end of the one before. -/
theorem clauses_pairwise (t : Text) :
    (clauses t).Pairwise fun a b => a.stop ≤ b.start := by
  have hsorted : (clauses t).Pairwise fun a b => a.start ≤ b.start :=
    sortByKey_pairwise Hit.start (countedHits t)
  have hapart : (clauses t).Pairwise Hit.Apart :=
    (sortByKey_perm Hit.start (countedHits t)).symm.pairwise (countedHits_pairwise t) Or.symm
  refine (hsorted.and hapart).imp_of_mem fun {a b} _ hb hab => ?_
  have hlt := b.start_lt_stop
  rcases hab with ⟨hle, hstop | hstop⟩
  · exact hstop
  · omega

theorem clauses_stop_le {t : Text} {g h : Hit} (hg : g ∈ clauses t) (hh : h ∈ clauses t)
    (hlt : g.start < h.start) : g.stop ≤ h.start :=
  stop_le_start_of_pairwise (clauses_pairwise t) hg hh hlt

theorem clauses_pairwise_start (t : Text) :
    (clauses t).Pairwise fun a b => a.start < b.start :=
  (clauses_pairwise t).imp fun {a _} hab => lt_of_lt_of_le a.start_lt_stop hab

/-- The clauses that count are the only list of them in which each begins behind the one
before. -/
theorem eq_clauses_of_mem_iff {t : Text} {list : List Hit}
    (hlist : list.Pairwise fun a b => a.start < b.start)
    (hmem : ∀ h, h ∈ list ↔ h ∈ clauses t) : list = clauses t :=
  eq_of_pairwise_lt hlist (clauses_pairwise_start t) hmem

end SqlSnippet
