import SqlSnippet.Clause.Scan
import SqlSnippet.Proofs.Cuts
import Mathlib.Data.List.Pairwise

/-!
# Scans

A scan is determined by what can be read at each position: a clause is found exactly when
it can be read where it starts and no clause found before reaches over that position.  So two
scans find corresponding clauses as soon as the readings correspond at the positions
that no clause covers.  This simulation is stated once, for regions of any two texts, and
then for texts that begin alike and for texts that end alike.
-/

namespace SqlSnippet

open Chars

/-- A word character stands at the end of the text. -/
def endsInWord (t : Text) : Bool := t.getLast?.any isWord

theorem endsInWord_append (t : Text) {u : Text} (hu : u ≠ []) :
    endsInWord (t ++ u) = endsInWord u := by
  rw [endsInWord, List.getLast?_append_of_ne_nil t hu, endsInWord]

theorem endsInWord_append_singleton (t : Text) (c : Char) :
    endsInWord (t ++ [c]) = isWord c := by
  simp [endsInWord]

/-- The position lies behind the beginning of the clause and before its end. -/
def Hit.Covers (h : Hit) (x : Nat) : Prop := h.start < x ∧ x < h.stop

/-- The two clauses share no character. -/
def Hit.Apart (a b : Hit) : Prop := a.stop ≤ b.start ∨ b.stop ≤ a.start

instance : Std.Symm Hit.Apart where
  symm _ _ := Or.symm

theorem Hit.overlaps_eq_false_iff {a b : Hit} : a.overlaps b = false ↔ a.Apart b := by
  simp only [overlaps, Bool.and_eq_false_iff, decide_eq_false_iff_not, Nat.not_lt, Apart]
  exact or_comm

/-- The clause of one form that can be read at a position, where a word begins. -/
def Form.hitAt? (f : Form) (t : Text) (x : Nat) : Option Hit :=
  if endsInWord (t.take x) then none else (f.read? (t.drop x)).map fun r => ⟨x, r.1⟩

/-- All clauses of one form, whether they count or not. -/
def Form.hits (f : Form) (t : Text) : List Hit := scan f.read? t

theorem Form.hitAt?_eq_some_iff {f : Form} {t : Text} {x : Nat} {h : Hit} :
    f.hitAt? t x = some h ↔
      h.start = x ∧ endsInWord (t.take x) = false ∧
        ∃ rest, f.read? (t.drop x) = some (h.clause, rest) := by
  rcases h with ⟨start, clause⟩
  simp only [hitAt?, Option.ite_none_left_eq_some, Bool.not_eq_true, Option.map_eq_some_iff,
    Prod.exists, Hit.mk.injEq]
  constructor
  · rintro ⟨hword, c, rest, hread, rfl, rfl⟩
    exact ⟨rfl, hword, rest, hread⟩
  · rintro ⟨rfl, hword, rest, hread⟩
    exact ⟨hword, clause, rest, hread, rfl, rfl⟩

theorem Clause.text_ne_nil (c : Clause) : c.text ≠ [] := by
  cases c with
  | range c => simp [Clause.text, RangeClause.text, RangeClause.lowerText, Text.enclosed]
  | list c => simp [Clause.text, ListClause.text]
  | comparison c => simp [Clause.text, Comparison.text, Text.enclosed]

/-- No clause is empty. -/
theorem Hit.start_lt_stop (h : Hit) : h.start < h.stop := by
  have := List.length_pos_of_ne_nil h.clause.text_ne_nil
  rw [Hit.stop]
  omega

theorem Form.hitAt?_eq_none {f : Form} {t : Text} {x : Nat} (hx : t.length ≤ x) :
    f.hitAt? t x = none := by
  cases hh : f.hitAt? t x with
  | none => rfl
  | some h =>
      obtain ⟨-, -, rest, hread⟩ := Form.hitAt?_eq_some_iff.mp hh
      obtain ⟨-, htext, -, -⟩ := Form.read?_eq_some_iff.mp hread
      rw [List.drop_of_length_le hx] at htext
      exact absurd (List.append_eq_nil_iff.mp htext.symm).1 (Clause.text_ne_nil _)

/-- The clause stands in the text between `front` and `rest`, where a word begins. -/
structure Hit.Stands (h : Hit) (t front rest : Text) : Prop where
  text : t = front ++ (h.clause.text ++ rest)
  start : front.length = h.start
  word : endsInWord front = false
  wellFormed : h.clause.WellFormed
  closes : h.clause.Closes rest

/-- A clause can be read at a position exactly when it stands there. -/
theorem Form.hitAt?_eq_some_iff_stands {f : Form} {t : Text} {x : Nat} {h : Hit} :
    f.hitAt? t x = some h ↔
      h.clause.form = f ∧ h.start = x ∧ ∃ front rest, h.Stands t front rest := by
  rw [Form.hitAt?_eq_some_iff]
  constructor
  · rintro ⟨rfl, hword, rest, hread⟩
    have hne := h.clause.text_ne_nil
    obtain ⟨hform, htext, hc, hcloses⟩ := Form.read?_eq_some_iff.mp hread
    have hlt : h.start < t.length := by
      by_contra hge
      rw [List.drop_of_length_le (Nat.not_lt.mp hge)] at htext
      exact hne (List.append_eq_nil_iff.mp htext.symm).1
    refine ⟨hform, rfl, t.take h.start, rest, ?_, ?_, hword, hc, hcloses⟩
    · rw [← htext, List.take_append_drop]
    · rw [List.length_take, Nat.min_eq_left hlt.le]
  · rintro ⟨hform, rfl, front, rest, rfl, hstart, hword, hc, hcloses⟩
    refine ⟨rfl, ?_, rest, Form.read?_eq_some_iff.mpr ⟨hform, ?_, hc, hcloses⟩⟩
    · rw [← hstart, List.take_left, hword]
    · rw [← hstart, List.drop_left]

theorem Hit.Stands.stop_le_length {h : Hit} {t front rest : Text}
    (hh : h.Stands t front rest) : h.stop ≤ t.length := by
  have hlength := congrArg List.length hh.text
  have hstart := hh.start
  simp only [List.length_append] at hlength
  rw [Hit.stop]
  omega

theorem Hit.Stands.getElem?_start {h : Hit} {t front rest : Text} (hh : h.Stands t front rest) :
    ∃ ch, t[h.start]? = some ch ∧ isWord ch = true := by
  obtain ⟨ch, tail, htext, hword⟩ := hh.wellFormed.exists_cons
  refine ⟨ch, ?_, hword⟩
  rw [hh.text, ← hh.start, List.getElem?_append_right le_rfl, Nat.sub_self, htext]
  rfl

/-! ## What a scan finds -/

/-- The clauses are those that a scan of `t` finds from a position on. -/
structure ScansFrom (f : Form) (t : Text) (pos : Nat) (hits : List Hit) : Prop where
  sound : ∀ h ∈ hits, pos ≤ h.start ∧ f.hitAt? t h.start = some h
  apart : hits.Pairwise fun a b => a.stop ≤ b.start
  complete : ∀ x h, pos ≤ x → f.hitAt? t x = some h → ∃ g ∈ hits, g = h ∨ g.Covers x

theorem ScansFrom.atEnd {f : Form} {t : Text} {pos : Nat} (hpos : t.length ≤ pos) :
    ScansFrom f t pos [] where
  sound := by simp
  apart := List.Pairwise.nil
  complete := by
    intro x h hx hh
    rw [Form.hitAt?_eq_none (hpos.trans hx)] at hh
    cases hh

/-- Where nothing can be read, a scan goes on with the next position. -/
theorem ScansFrom.pass {f : Form} {t : Text} {pos : Nat} {hits : List Hit}
    (hnone : f.hitAt? t pos = none) (hrest : ScansFrom f t (pos + 1) hits) :
    ScansFrom f t pos hits where
  sound := fun h hh => ⟨Nat.le_of_succ_le (hrest.sound h hh).1, (hrest.sound h hh).2⟩
  apart := hrest.apart
  complete := by
    intro x h hx hh
    rcases Nat.eq_or_lt_of_le hx with rfl | hlt
    · rw [hnone] at hh
      cases hh
    · exact hrest.complete x h hlt hh

/-- Behind a clause that can be read, a scan goes on with the end of the clause. -/
theorem ScansFrom.found {f : Form} {t : Text} {pos : Nat} {h : Hit} {hits : List Hit}
    (hh : f.hitAt? t pos = some h) (hrest : ScansFrom f t h.stop hits) :
    ScansFrom f t pos (h :: hits) := by
  have hstart : h.start = pos := (Form.hitAt?_eq_some_iff.mp hh).1
  have hlt := h.start_lt_stop
  refine ⟨?_, ?_, ?_⟩
  · intro g hg
    rcases List.mem_cons.mp hg with rfl | hg
    · exact ⟨hstart.ge, by rw [hstart, hh]⟩
    · have := hrest.sound g hg
      exact ⟨by omega, this.2⟩
  · exact List.Pairwise.cons (fun g hg => (hrest.sound g hg).1) hrest.apart
  · intro x g hx hg
    rcases Nat.eq_or_lt_of_le hx with rfl | hlt
    · rw [hh] at hg
      exact ⟨h, by simp, Or.inl (Option.some.inj hg)⟩
    · by_cases hstop : x < h.stop
      · exact ⟨h, by simp, Or.inr ⟨by omega, hstop⟩⟩
      · obtain ⟨k, hk, hcases⟩ := hrest.complete x g (by omega) hg
        exact ⟨k, List.mem_cons_of_mem h hk, hcases⟩

/-- The recursion of a scan keeps to the three cases. -/
theorem scansFrom_scanFrom (f : Form) (v : Text) :
    ∀ (u : Text) (skip : Nat), ScansFrom f (u ++ v) (u.length + skip)
      (scanFrom f.read? u.length skip (endsInWord u) v) := by
  induction v with
  | nil =>
      intro u skip
      rw [scanFrom]
      exact ScansFrom.atEnd (by simp)
  | cons c v ih =>
      intro u skip
      have hsplit : u ++ c :: v = (u ++ [c]) ++ v := by simp
      have hlength : (u ++ [c]).length = u.length + 1 := by simp
      have hnext := fun skip => ih (u ++ [c]) skip
      simp only [hlength, endsInWord_append_singleton, ← hsplit] at hnext
      cases skip with
      | succ skip =>
          rw [scanFrom]
          simpa [Nat.add_assoc, Nat.add_comm 1] using hnext skip
      | zero =>
          have hat : f.hitAt? (u ++ c :: v) u.length =
              (if endsInWord u then none else f.read? (c :: v)).map
                fun r => ⟨u.length, r.1⟩ := by
            rw [Form.hitAt?, List.take_left, List.drop_left]
            split <;> rfl
          unfold scanFrom
          split
          next clause after hread =>
            rw [hread, Option.map_some] at hat
            have hread' : f.read? (c :: v) = some (clause, after) :=
              (Option.ite_none_left_eq_some.mp hread).2
            obtain ⟨-, htext, -, -⟩ := Form.read?_eq_some_iff.mp hread'
            refine ScansFrom.found hat ?_
            have hskip : u.length + 1 + (v.length - after.length) =
                Hit.stop ⟨u.length, clause⟩ := by
              have hpos := List.length_pos_of_ne_nil clause.text_ne_nil
              have := congrArg List.length htext
              rw [List.length_cons, List.length_append] at this
              simp only [Hit.stop]
              omega
            exact hskip ▸ hnext (v.length - after.length)
          next hread =>
            rw [hread, Option.map_none] at hat
            exact ScansFrom.pass hat (hnext 0)

theorem scansFrom_hits (f : Form) (t : Text) : ScansFrom f t 0 (f.hits t) :=
  scansFrom_scanFrom f t [] 0

theorem Form.hits_apart (f : Form) (t : Text) :
    (f.hits t).Pairwise fun a b => a.stop ≤ b.start :=
  (scansFrom_hits f t).apart

theorem Form.hitAt?_of_mem_hits {f : Form} {t : Text} {h : Hit} (hh : h ∈ f.hits t) :
    f.hitAt? t h.start = some h :=
  ((scansFrom_hits f t).sound h hh).2

theorem Form.form_eq_of_mem_hits {f : Form} {t : Text} {h : Hit} (hh : h ∈ f.hits t) :
    h.clause.form = f :=
  (Form.hitAt?_eq_some_iff_stands.mp (Form.hitAt?_of_mem_hits hh)).1

theorem Form.exists_stands {f : Form} {t : Text} {h : Hit} (hh : h ∈ f.hits t) :
    ∃ front rest, h.Stands t front rest :=
  (Form.hitAt?_eq_some_iff_stands.mp (Form.hitAt?_of_mem_hits hh)).2.2

theorem stop_le_start_of_pairwise {list : List Hit}
    (hlist : list.Pairwise fun a b => a.stop ≤ b.start) {g h : Hit} (hg : g ∈ list)
    (hh : h ∈ list) (hlt : g.start < h.start) : g.stop ≤ h.start := by
  have hne : g ≠ h := by
    rintro rfl
    exact Nat.lt_irrefl _ hlt
  have hapart : g.Apart h := (hlist.imp (S := Hit.Apart) Or.inl).forall hg hh hne
  have := h.start_lt_stop
  rcases hapart with hle | hle <;> omega

/-- Two clauses of one scan lie one behind the other. -/
theorem Form.stop_le_start {f : Form} {t : Text} {g h : Hit} (hg : g ∈ f.hits t)
    (hh : h ∈ f.hits t) (hlt : g.start < h.start) : g.stop ≤ h.start :=
  stop_le_start_of_pairwise (f.hits_apart t) hg hh hlt

/-- A clause is found exactly when it can be read and no clause found covers its start. -/
theorem Form.mem_hits_iff {f : Form} {t : Text} {h : Hit} :
    h ∈ f.hits t ↔
      f.hitAt? t h.start = some h ∧ ∀ g ∈ f.hits t, ¬ g.Covers h.start := by
  constructor
  · intro hh
    refine ⟨Form.hitAt?_of_mem_hits hh, fun g hg hcovers => ?_⟩
    exact absurd (Form.stop_le_start hg hh hcovers.1) (Nat.not_le.mpr hcovers.2)
  · rintro ⟨hread, hfree⟩
    obtain ⟨g, hg, rfl | hcovers⟩ :=
      (scansFrom_hits f t).complete h.start h (Nat.zero_le _) hread
    · exact hg
    · exact absurd hcovers (hfree g hg)

/-- A clause that stands where another one was found is found, when only clauses that were
found before can be found in front of it. -/
theorem Form.mem_hits_of_stands {f : Form} {t t' front rest : Text} {h h' : Hit}
    (hh : h ∈ f.hits t) (hform : h'.clause.form = f) (hstart : h'.start = h.start)
    (hstands : h'.Stands t' front rest)
    (hbefore : ∀ g ∈ f.hits t', g.start < h.start → g ∈ f.hits t) : h' ∈ f.hits t' := by
  refine Form.mem_hits_iff.mpr ⟨?_, fun g hg hcovers => ?_⟩
  · exact Form.hitAt?_eq_some_iff_stands.mpr ⟨hform, rfl, front, rest, hstands⟩
  · rw [hstart] at hcovers
    have hstop := Form.stop_le_start (hbefore g hg hcovers.1) hh hcovers.1
    exact absurd hstop (Nat.not_le.mpr hcovers.2)

/-! ## Simulation -/

section Simulation

variable {f : Form} {t t' : Text} {n n' i : Nat} {R : Hit → Hit → Prop}

/-- Every clause that a scan finds `i` characters behind `n` in the first text has a partner
that is found as far behind `n'` in the second one. -/
def Form.Matched (f : Form) (t t' : Text) (n n' : Nat) (R : Hit → Hit → Prop) (i : Nat) : Prop :=
  ∀ h ∈ f.hits t, h.start = n + i → ∃ h' ∈ f.hits t', h'.start = n' + i ∧ R h h'

/-- A position that no clause covers in the second text is not covered in the first one
either, when all clauses before it have partners. -/
private theorem Form.free_of_matched (henter : ∀ g ∈ f.hits t, g.start < n → g.stop ≤ n)
    (hcovers : ∀ g g', R g g' → g.Covers (n + i) → g'.Covers (n' + i))
    (hmatched : ∀ j < i, f.Matched t t' n n' R j)
    (hfree : ∀ g' ∈ f.hits t', ¬ g'.Covers (n' + i)) : ∀ g ∈ f.hits t, ¬ g.Covers (n + i) := by
  intro g hg hcov
  have hle : n ≤ g.start := by
    by_contra hlt
    have := henter g hg (by omega)
    have := hcov.2
    omega
  have hlt := hcov.1
  obtain ⟨g', hg', -, hR⟩ := hmatched (g.start - n) (by omega) g hg (by omega)
  exact hfree g' hg' (hcovers g g' hR hcov)

/-- A clause that is found at a position has a partner, when the other position is as free as
this one and the readings correspond. -/
private theorem Form.matched_of_free
    (hfree : (∀ g ∈ f.hits t, ¬ g.Covers (n + i)) → ∀ g' ∈ f.hits t', ¬ g'.Covers (n' + i))
    (hread : (∀ g ∈ f.hits t, ¬ g.Covers (n + i)) →
      Option.Rel R (f.hitAt? t (n + i)) (f.hitAt? t' (n' + i))) :
    f.Matched t t' n n' R i := by
  intro h hh hstart
  obtain ⟨hat, hnone⟩ := Form.mem_hits_iff.mp hh
  rw [hstart] at hat hnone
  have hrel := hread hnone
  rw [hat] at hrel
  generalize hat' : f.hitAt? t' (n' + i) = found at hrel
  cases hrel with
  | some hR =>
      have hstart' := (Form.hitAt?_eq_some_iff.mp hat').1
      refine ⟨_, Form.mem_hits_iff.mpr ⟨?_, ?_⟩, hstart', hR⟩
      · rw [hstart', hat']
      · rw [hstart']
        exact hfree hnone

theorem rel_swap {α β : Type} {r : α → β → Prop} {a : Option α} {b : Option β}
    (h : Option.Rel r a b) : Option.Rel (fun y x => r x y) b a := by
  cases h with
  | some hr => exact Option.Rel.some hr
  | none => exact Option.Rel.none

/-- Two scans find corresponding clauses in two regions, when no clause reaches into either
region from before, the readings correspond at the positions that no clause covers, and
corresponding clauses cover corresponding positions. -/
theorem Form.hits_simulate (f : Form) (t t' : Text) (n n' len : Nat)
    (R : Hit → Hit → Prop)
    (henter : ∀ g ∈ f.hits t, g.start < n → g.stop ≤ n)
    (henter' : ∀ g ∈ f.hits t', g.start < n' → g.stop ≤ n')
    (hread : ∀ i < len, (∀ g ∈ f.hits t, ¬ g.Covers (n + i)) →
      Option.Rel R (f.hitAt? t (n + i)) (f.hitAt? t' (n' + i)))
    (hcovers : ∀ g g', R g g' → ∀ i < len, g.Covers (n + i) ↔ g'.Covers (n' + i)) :
    ∀ i < len, f.Matched t t' n n' R i ∧ f.Matched t' t n' n (fun g' g => R g g') i := by
  intro i
  induction i using Nat.strongRecOn with
  | ind i ih =>
      intro hi
      -- The position is covered in both texts or in neither.
      have hforward : (∀ g' ∈ f.hits t', ¬ g'.Covers (n' + i)) →
          ∀ g ∈ f.hits t, ¬ g.Covers (n + i) :=
        Form.free_of_matched henter (fun g g' hR => (hcovers g g' hR i hi).mp)
          fun j hj => (ih j hj (hj.trans hi)).1
      have hbackward : (∀ g ∈ f.hits t, ¬ g.Covers (n + i)) →
          ∀ g' ∈ f.hits t', ¬ g'.Covers (n' + i) :=
        Form.free_of_matched henter' (fun g' g hR => (hcovers g g' hR i hi).mpr)
          fun j hj => (ih j hj (hj.trans hi)).2
      exact ⟨Form.matched_of_free hbackward (hread i hi),
        Form.matched_of_free hforward fun hfree' => rel_swap (hread i hi (hforward hfree'))⟩

end Simulation

/-! ## Texts that begin alike -/

theorem Form.hitAt?_append {f : Form} {front behind : Text} {x : Nat}
    (hx : x ≤ front.length) :
    f.hitAt? (front ++ behind) x =
      if endsInWord (front.take x) then none
      else (f.read? (front.drop x ++ behind)).map fun r => ⟨x, r.1⟩ := by
  rw [Form.hitAt?, List.take_append_of_le_length hx, List.drop_append_of_le_length hx]

/-- When the text behind `front` is exchanged, the same clauses are found in `front`,
provided that none of them reached over its end, and that whatever can now be read inside
could be read there before, or something that reached over the end. -/
theorem Form.hits_agree_before {f : Form} {front behind behind' : Text}
    (hcross : ∀ h ∈ f.hits (front ++ behind), h.start < front.length →
      h.stop ≤ front.length)
    (hhead : behind.head? = behind'.head? ∨ StopsAt isClosingChar behind')
    (hnew : ∀ tail, tail ≠ [] → tail <:+ front → f.ReadsAlike tail behind behind')
    {h : Hit} (hh : h.start < front.length) :
    h ∈ f.hits (front ++ behind') ↔ h ∈ f.hits (front ++ behind) := by
  have hsimulate := Form.hits_simulate f (front ++ behind) (front ++ behind') 0 0
    front.length Eq (by simp) (by simp) ?_ (by rintro g _ rfl i -; exact Iff.rfl)
  · have hi := hsimulate h.start hh
    constructor
    · intro hmem
      obtain ⟨g, hg, -, rfl⟩ := hi.2 h hmem (Nat.zero_add _).symm
      exact hg
    · intro hmem
      obtain ⟨g, hg, -, rfl⟩ := hi.1 h hmem (Nat.zero_add _).symm
      exact hg
  · intro x hx hfree
    simp only [Nat.zero_add] at hfree ⊢
    rw [Form.hitAt?_append hx.le, Form.hitAt?_append hx.le]
    by_cases hword : endsInWord (front.take x) = true
    · simp only [hword, ↓reduceIte]
      exact Option.Rel.none
    · simp only [hword, Bool.false_eq_true, ↓reduceIte]
      have hne : front.drop x ≠ [] := by
        simpa [List.drop_eq_nil_iff] using hx
      have hlength : (front.drop x).length = front.length - x := List.length_drop
      have hfound : ∀ c rest, f.read? (front.drop x ++ behind) = some (c, rest) →
          c.text.length ≤ (front.drop x).length := by
        intro c rest hread
        have hat : f.hitAt? (front ++ behind) x = some ⟨x, c⟩ := by
          rw [Form.hitAt?_append hx.le, hread]
          simp [hword]
        have hstop := hcross ⟨x, c⟩ (Form.mem_hits_iff.mpr ⟨hat, hfree⟩) hx
        simp only [Hit.stop] at hstop
        omega
      cases hread : f.read? (front.drop x ++ behind) with
      | none =>
          cases hread' : f.read? (front.drop x ++ behind') with
          | none => exact Option.Rel.none
          | some r =>
              obtain ⟨c', rest', hold, -⟩ :=
                hnew _ hne (List.drop_suffix x front) r.1 r.2 hread'
              rw [hread] at hold
              cases hold
      | some r =>
          obtain ⟨rest', hread'⟩ := Form.read?_congr hread (hfound r.1 r.2 hread) hhead
          rw [hread']
          exact Option.Rel.some rfl

theorem Form.hitAt?_behind {f : Form} {front : Text} (hword : endsInWord front = false)
    (behind : Text) (i : Nat) :
    f.hitAt? (front ++ behind) (front.length + i) =
      if endsInWord (behind.take i) then none
      else (f.read? (behind.drop i)).map fun r => ⟨front.length + i, r.1⟩ := by
  have hsame : endsInWord (front ++ behind.take i) = endsInWord (behind.take i) := by
    by_cases hnil : behind.take i = []
    · rw [hnil, List.append_nil, hword]
      rfl
    · exact endsInWord_append front hnil
  rw [Form.hitAt?, List.take_length_add_append, List.drop_length_add_append, hsame]

/-- When the text in front of `behind` is exchanged, the same clauses are found in `behind`,
provided that no clause reaches into it from before. -/
theorem Form.hits_agree_behind {f : Form} {front front' behind : Text}
    (hword : endsInWord front = false) (hword' : endsInWord front' = false)
    (hcross : ∀ h ∈ f.hits (front ++ behind), h.start < front.length →
      h.stop ≤ front.length)
    (hcross' : ∀ h ∈ f.hits (front' ++ behind), h.start < front'.length →
      h.stop ≤ front'.length)
    (i : Nat) (c : Clause) :
    ⟨front.length + i, c⟩ ∈ f.hits (front ++ behind) ↔
      ⟨front'.length + i, c⟩ ∈ f.hits (front' ++ behind) := by
  have hsimulate := Form.hits_simulate f (front ++ behind) (front' ++ behind)
    front.length front'.length (i + 1)
    (fun g g' => g'.clause = g.clause ∧ g.start + front'.length = g'.start + front.length)
    hcross hcross' ?_ ?_ i (Nat.lt_succ_self i)
  · constructor
    · intro hmem
      obtain ⟨⟨start, clause⟩, hg, hstart, rfl, -⟩ := hsimulate.1 _ hmem rfl
      exact hstart ▸ hg
    · intro hmem
      obtain ⟨⟨start, clause⟩, hg, hstart, hclause, -⟩ := hsimulate.2 _ hmem rfl
      simp only at hstart hclause
      rw [hclause, ← hstart]
      exact hg
  · intro j _ _
    rw [Form.hitAt?_behind hword, Form.hitAt?_behind hword']
    split
    · exact Option.Rel.none
    · cases f.read? (behind.drop j) with
      | none => exact Option.Rel.none
      | some r => exact Option.Rel.some ⟨rfl, by simp only; omega⟩
  · rintro ⟨start, clause⟩ ⟨start', clause'⟩ ⟨rfl, hstart⟩ j -
    simp only [Hit.Covers, Hit.stop] at hstart ⊢
    omega

end SqlSnippet
