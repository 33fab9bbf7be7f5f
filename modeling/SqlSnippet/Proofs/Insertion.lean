import SqlSnippet.Comment
import SqlSnippet.Proofs.Clauses
import SqlSnippet.Proofs.Exchange

/-!
# A marker between two clauses

A comment marker that is written behind blanks cannot stand in the lead of a clause, and it
ends no literal and no list.  So where no clause reaches over the place of the marker, the
same clauses are found before it, the clauses behind it are found further on, and the same
ones of them count.
-/

namespace SqlSnippet

open Chars

/-- What is written in front of a line to comment it. -/
def commentLead : Text := commentMarker ++ [' ']

theorem length_commentLead : commentLead.length = 3 := rfl

theorem isWord_eq_false_of_mem_commentLead {ch : Char} (h : ch ∈ commentLead) :
    isWord ch = false := by
  simp only [commentLead, commentMarker, List.cons_append, List.nil_append, List.mem_cons,
    List.not_mem_nil, or_false] at h
  rcases h with rfl | rfl | rfl <;> decide

/-- A part that a mark ends goes on behind the marker, when it reaches up to it. -/
theorem eq_commentLead_append {mark : Char} {y z behind : Text} (hmark : mark ∉ commentLead)
    (h : commentLead ++ behind = y ++ mark :: z) :
    ∃ y', y = commentLead ++ y' ∧ behind = y' ++ mark :: z := by
  rcases cut_at_mark h with hpart | ⟨tail, hlead, -⟩
  · exact hpart
  · exact absurd (by simp [hlead]) hmark

theorem IsRun.ne_commentLead {p : Char → Bool} (hp : p '-' = false) {lead : Text}
    (hlead : IsRun p lead) (x y : Text) : lead ≠ x ++ (commentLead ++ y) := by
  rintro rfl
  exact hlead.notMem hp (by simp [commentLead, commentMarker])

theorem EndsBlank.ne_append_singleton {t : Text} (h : EndsBlank t) {c : Char}
    (hc : isBlank c = false) (u : Text) : t ≠ u ++ [c] := by
  rintro rfl
  rw [endsBlank_append_singleton_iff, hc] at h
  cases h

section Reading

variable {front : Text}

theorem RangeClause.readsAlike_insert (hfront : EndsBlank front) (behind : Text) :
    Form.range.ReadsAlike front behind (commentLead ++ behind) := by
  apply RangeClause.readsAlike
  intro c rest hc htext
  have hquote : quoteMark ∉ commentLead := by decide
  have hlonger : ∀ {x y : Text} (u : Text), front = u ++ quoteMark :: x → quoteMark ∉ x →
      quoteMark ∉ y → quoteMark ∉ x ++ y ∧ x ++ y ≠ [] := by
    intro x y u hsplit hx hy
    refine ⟨List.not_mem_append hx hy, fun hnil => ?_⟩
    rw [(List.append_eq_nil_iff.mp hnil).1] at hsplit
    exact hfront.ne_append_singleton (by decide) u hsplit
  cases RangeClause.cut htext with
  | lead y hlead hbehind =>
      obtain ⟨y', rfl, -⟩ := eq_commentLead_append hquote hbehind
      exact absurd hlead (hc.isRun_lead.ne_commentLead (by decide) _ _)
  | low x y hsplit hlow hbehind =>
      obtain ⟨y', rfl, rfl⟩ := eq_commentLead_append hquote hbehind
      have hclear := hc.low.1
      rw [hlow, List.mem_append, List.mem_append, not_or, not_or] at hclear
      have hnew := hlonger _ hsplit hclear.1 hclear.2.2
      refine ⟨{ c with low := x ++ y' }, rest, hc.withLow hnew, ?_, Or.inr ?_⟩
      · simp [hsplit, RangeClause.text, RangeClause.lowerText, RangeClause.upperText,
          RangeClause.lead, RangeClause.middle, Text.enclosed]
      · simp only [hsplit, RangeClause.text, RangeClause.lowerText, RangeClause.lead,
          Text.enclosed, List.length_append, List.length_cons]
        omega
  | middle x y hsplit hmiddle hbehind =>
      obtain ⟨y', rfl, -⟩ := eq_commentLead_append hquote hbehind
      exact absurd hmiddle (hc.isRun_middle.ne_commentLead (by decide) _ _)
  | high x y hsplit hhigh hbehind =>
      obtain ⟨y', rfl, rfl⟩ := eq_commentLead_append hquote hbehind
      have hclear := hc.high.1
      rw [hhigh, List.mem_append, List.mem_append, not_or, not_or] at hclear
      have hnew := hlonger (c.lowerText ++ c.middle) (by simp [hsplit]) hclear.1 hclear.2.2
      refine ⟨{ c with high := x ++ y' }, rest, hc.withHigh hnew, ?_, Or.inr ?_⟩
      · simp [hsplit, RangeClause.text, RangeClause.lowerText, RangeClause.upperText,
          RangeClause.lead, RangeClause.middle, Text.enclosed]
      · simp only [hsplit, RangeClause.text, RangeClause.lowerText, RangeClause.upperText,
          RangeClause.lead, RangeClause.middle, Text.enclosed, List.length_append,
          List.length_cons]
        omega
  | behind x hsplit hrest =>
      exact ⟨c, x ++ behind, hc, by simp [hsplit], Or.inl rfl⟩

theorem ListClause.readsAlike_insert (hfront : EndsBlank front) (behind : Text) :
    Form.list.ReadsAlike front behind (commentLead ++ behind) := by
  apply ListClause.readsAlike
  intro c rest hc htext
  cases ListClause.cut htext with
  | lead y hlead hbehind =>
      obtain ⟨y', rfl, -⟩ := eq_commentLead_append (by decide) hbehind
      exact absurd hlead (hc.isRun_lead.ne_commentLead (by decide) _ _)
  | body x y hsplit hbody hbehind =>
      obtain ⟨y', rfl, rfl⟩ := eq_commentLead_append (by decide) hbehind
      have hclear := hc.body.1
      rw [hbody, List.mem_append, List.mem_append, not_or, not_or] at hclear
      have hnew : ')' ∉ x ++ y' ∧ x ++ y' ≠ [] := by
        refine ⟨List.not_mem_append hclear.1 hclear.2.2, fun hnil => ?_⟩
        rw [(List.append_eq_nil_iff.mp hnil).1] at hsplit
        exact hfront.ne_append_singleton (by decide) c.lead hsplit
      refine ⟨{ c with body := x ++ y' }, rest, hc.withBody hnew, ?_, Or.inr ?_⟩
      · simp [hsplit, ListClause.text, ListClause.lead]
      · simp only [hsplit, ListClause.text, ListClause.lead, List.length_append,
          List.length_cons]
        omega
  | behind x hsplit hrest =>
      exact ⟨c, x ++ behind, hc, by simp [hsplit], Or.inl rfl⟩

/-- Blanks in front of a closing belong to it. -/
theorem IsClosing.append_blanks {blanks closing rest : Text} (hblanks : IsRun isBlank blanks)
    (h : IsClosing closing rest) : IsClosing (blanks ++ closing) rest := by
  rcases h with ⟨inside, hinside, rfl⟩ | ⟨hrun, hstop⟩
  · exact Or.inl ⟨blanks ++ inside, hblanks.append hinside, by simp⟩
  · exact Or.inr ⟨hblanks.append hrun, hstop⟩

/-- A closing in front of the marker is there without the marker too, or a longer one that
goes on behind its place. -/
private theorem IsClosing.exists_insert {closing tail behind : Text}
    (h : IsClosing closing (tail ++ (commentLead ++ behind))) :
    ∃ closing' rest, closing ++ (tail ++ behind) = closing' ++ rest ∧
      IsClosing closing' rest ∧
        (closing' = closing ∨ (closing ++ tail).length < closing'.length) := by
  rcases h with hparen | ⟨hrun, hstop⟩
  · exact ⟨closing, tail ++ behind, rfl, Or.inl hparen, Or.inl rfl⟩
  cases tail with
  | cons ch tail =>
      have hstays : IsClosing closing (ch :: (tail ++ behind)) :=
        Or.inr ⟨hrun, StopsAt.cons (hstop ch rfl) _⟩
      exact ⟨closing, ch :: (tail ++ behind), rfl, hstays, Or.inl rfl⟩
  | nil =>
      obtain ⟨extra, rest, rfl, hextra⟩ := exists_isClosing behind
      refine ⟨closing ++ extra, rest, by simp, hextra.append_blanks hrun, ?_⟩
      cases extra with
      | nil => exact Or.inl (List.append_nil closing)
      | cons ch extra =>
          right
          simp only [List.length_append, List.length_cons, List.length_nil]
          omega

theorem Comparison.readsAlike_insert (front behind : Text) :
    Form.comparison.ReadsAlike front behind (commentLead ++ behind) := by
  apply Comparison.readsAlike
  intro c rest hc hcloses htext
  cases Comparison.cut htext with
  | lead y hlead hbehind =>
      obtain ⟨y', rfl, -⟩ := eq_commentLead_append (by decide) hbehind
      exact absurd hlead (hc.isRun_lead.ne_commentLead (by decide) _ _)
  | value x y hsplit hvalue hbehind =>
      obtain ⟨y', rfl, rfl⟩ := eq_commentLead_append (by decide) hbehind
      have hclear := hc.value
      rw [hvalue, List.mem_append, List.mem_append, not_or, not_or] at hclear
      refine ⟨{ c with value := x ++ y' }, rest,
        hc.withValue (List.not_mem_append hclear.1 hclear.2.2), hcloses, ?_, Or.inr ?_⟩
      · simp [hsplit, Comparison.text, Comparison.lead, Text.enclosed]
      · simp only [hsplit, Comparison.text, Comparison.lead, Text.enclosed,
          List.length_append, List.length_cons]
        omega
  | behind x hsplit hclosing =>
      have hmark : c.closing ++ rest = x ++ '-' :: ('-' :: ' ' :: behind) := hclosing
      rcases cut_at_mark hmark with ⟨tail, rfl, rfl⟩ | ⟨tail, hmem, -⟩
      · have hcloses : IsClosing c.closing (tail ++ (commentLead ++ behind)) := hcloses
        obtain ⟨closing, rest', hsame, hcloses', hlonger⟩ := hcloses.exists_insert
        refine ⟨{ c with closing }, rest',
          ⟨hc.column, hc.gap, hc.operator, hc.opening, hc.value⟩, hcloses', ?_, ?_⟩
        · simp [hsplit, Comparison.text, Comparison.lead, ← hsame]
        · rcases hlonger with rfl | hlonger
          · exact Or.inl rfl
          · right
            simp only [hsplit, Comparison.text, Comparison.lead, List.length_append]
              at hlonger ⊢
            omega
      · exact absurd (by simp [hmem]) (hcloses.isRun.notMem (c := '-') (by decide))

end Reading

/-- Whatever the form, a marker behind blanks makes nothing readable that was not. -/
theorem Form.readsAlike_insert (f : Form) {front : Text} (hfront : EndsBlank front)
    (behind : Text) : f.ReadsAlike front behind (commentLead ++ behind) := by
  cases f with
  | range => exact RangeClause.readsAlike_insert hfront behind
  | list => exact ListClause.readsAlike_insert hfront behind
  | comparison => exact Comparison.readsAlike_insert front behind

/-! ## What the scans find -/

/-- How far the marker moves what stood at a position `x`, when it is written at `n`. -/
def moveOf (n x : Nat) : Nat := if n ≤ x then commentLead.length else 0

/-- The clause after a marker has been written at `n`. -/
def Hit.moved (n : Nat) (h : Hit) : Hit := ⟨h.start + moveOf n h.start, h.clause⟩

theorem moveOf_eq {n x : Nat} :
    n ≤ x ∧ moveOf n x = 3 ∨ x < n ∧ moveOf n x = 0 := by
  by_cases hx : n ≤ x
  · exact Or.inl ⟨hx, if_pos hx⟩
  · exact Or.inr ⟨Nat.not_le.mp hx, if_neg hx⟩

theorem Hit.moved_of_lt {n : Nat} {h : Hit} (hlt : h.start < n) : h.moved n = h := by
  rw [Hit.moved, moveOf, if_neg (Nat.not_le.mpr hlt), Nat.add_zero]

theorem Hit.stop_moved (n : Nat) (h : Hit) : (h.moved n).stop = h.stop + moveOf n h.start := by
  simp only [Hit.stop, Hit.moved]
  omega

/-- None of the scans finds a clause that reaches over the position. -/
def NoneReaches (t : Text) (n : Nat) : Prop :=
  ∀ f : Form, ∀ h ∈ f.hits t, h.start < n → h.stop ≤ n

theorem noneReaches_iff {t : Text} {n : Nat} :
    NoneReaches t n ↔ ∀ h ∈ rangeHits t ++ listHits t ++ comparisonHits t,
      ¬ (h.start < n ∧ n < h.stop) := by
  constructor
  · intro hnone h hh hcross
    rw [List.mem_append, List.mem_append] at hh
    apply absurd hcross.2
    apply Nat.not_lt.mpr
    rcases hh with (hh | hh) | hh
    · exact hnone .range h hh hcross.1
    · exact hnone .list h hh hcross.1
    · exact hnone .comparison h hh hcross.1
  · intro hcross f h hh hlt
    by_contra hreach
    refine hcross h ?_ ⟨hlt, Nat.not_le.mp hreach⟩
    rw [List.mem_append, List.mem_append]
    cases f with
    | range => exact Or.inl (Or.inl hh)
    | list => exact Or.inl (Or.inr hh)
    | comparison => exact Or.inr hh

section Scans

variable {front behind : Text}

theorem Form.mem_hits_insert_before (hfront : front = [] ∨ EndsBlank front)
    (hnone : NoneReaches (front ++ behind) front.length) {f : Form} {h : Hit}
    (hlt : h.start < front.length) :
    h ∈ f.hits (front ++ (commentLead ++ behind)) ↔ h ∈ f.hits (front ++ behind) := by
  refine Form.hits_agree_before (hnone f) (Or.inr (StopsAt.cons (by decide) _)) ?_ hlt
  rintro tail htail ⟨before, hsplit⟩
  apply Form.readsAlike_insert
  rcases hfront with hnil | hblank
  · rw [hnil] at hsplit
    exact absurd (List.append_eq_nil_iff.mp hsplit).2 htail
  · rwa [← hsplit, endsBlank_append_iff before htail] at hblank

/-- In the marker no clause begins, and none reaches into it. -/
theorem Form.stop_le_of_insert (hfront : front = [] ∨ EndsBlank front)
    (hnone : NoneReaches (front ++ behind) front.length) {f : Form} {h : Hit}
    (hh : h ∈ f.hits (front ++ (commentLead ++ behind)))
    (hlt : h.start < (front ++ commentLead).length) :
    h.start < front.length ∧ h.stop ≤ front.length := by
  by_cases hbefore : h.start < front.length
  · have hold := (Form.mem_hits_insert_before hfront hnone hbefore).mp hh
    exact ⟨hbefore, hnone f h hold hbefore⟩
  · obtain ⟨front', rest, hstands⟩ := Form.exists_stands hh
    obtain ⟨ch, hat, hword⟩ := hstands.getElem?_start
    rw [List.length_append] at hlt
    rw [List.getElem?_append_right (by omega), List.getElem?_append_left (by omega)] at hat
    rw [isWord_eq_false_of_mem_commentLead (List.mem_of_getElem? hat)] at hword
    cases hword

theorem Form.mem_hits_insert_behind (hfront : front = [] ∨ EndsBlank front)
    (hnone : NoneReaches (front ++ behind) front.length) (f : Form) (i : Nat) (c : Clause) :
    ⟨front.length + i, c⟩ ∈ f.hits (front ++ behind) ↔
      ⟨front.length + 3 + i, c⟩ ∈ f.hits (front ++ (commentLead ++ behind)) := by
  have hword : endsInWord front = false := by
    rcases hfront with rfl | ⟨ch, hlast, hblank⟩
    · rfl
    · rw [endsInWord, Option.mem_def.mp hlast]
      exact isWord_eq_false_of_isBlank hblank
  have hword' : endsInWord (front ++ commentLead) = false :=
    endsInWord_append front (by decide)
  have hcross : ∀ h ∈ f.hits ((front ++ commentLead) ++ behind),
      h.start < (front ++ commentLead).length → h.stop ≤ (front ++ commentLead).length := by
    intro h hh hlt
    rw [List.append_assoc] at hh
    have hstop := (Form.stop_le_of_insert hfront hnone hh hlt).2
    rw [List.length_append]
    omega
  have hagree := Form.hits_agree_behind hword hword' (hnone f) hcross i c
  rwa [List.length_append, List.append_assoc, length_commentLead] at hagree

/-- The marker moves the clauses behind it and changes nothing else. -/
theorem Form.mem_hits_insert_iff (hfront : front = [] ∨ EndsBlank front)
    (hnone : NoneReaches (front ++ behind) front.length) {f : Form} {g : Hit} :
    g ∈ f.hits (front ++ (commentLead ++ behind)) ↔
      ∃ h ∈ f.hits (front ++ behind), h.moved front.length = g := by
  constructor
  · intro hg
    by_cases hlt : g.start < (front ++ commentLead).length
    · obtain ⟨hbefore, -⟩ := Form.stop_le_of_insert hfront hnone hg hlt
      exact ⟨g, (Form.mem_hits_insert_before hfront hnone hbefore).mp hg,
        Hit.moved_of_lt hbefore⟩
    · rcases g with ⟨start, clause⟩
      rw [List.length_append, Nat.not_lt] at hlt
      obtain ⟨i, rfl⟩ := Nat.exists_eq_add_of_le hlt
      refine ⟨_, (Form.mem_hits_insert_behind hfront hnone f i clause).mpr hg, ?_⟩
      rw [Hit.moved, moveOf, if_pos (Nat.le_add_right _ _), Nat.add_right_comm]
  · rintro ⟨h, hh, rfl⟩
    by_cases hlt : h.start < front.length
    · rw [Hit.moved_of_lt hlt]
      exact (Form.mem_hits_insert_before hfront hnone hlt).mpr hh
    · rcases h with ⟨start, clause⟩
      obtain ⟨i, rfl⟩ := Nat.exists_eq_add_of_le (Nat.not_lt.mp hlt)
      have hmoved := (Form.mem_hits_insert_behind hfront hnone f i clause).mp hh
      rwa [Hit.moved, moveOf, if_pos (Nat.le_add_right _ _), Nat.add_right_comm]

theorem Form.forall_hits_insert_iff (hfront : front = [] ∨ EndsBlank front)
    (hnone : NoneReaches (front ++ behind) front.length) (f : Form) (P : Hit → Prop) :
    (∀ g ∈ f.hits (front ++ (commentLead ++ behind)), P g) ↔
      ∀ h ∈ f.hits (front ++ behind), P (h.moved front.length) := by
  simp only [Form.mem_hits_insert_iff hfront hnone, forall_exists_index, and_imp,
    forall_apply_eq_imp_iff₂]

end Scans

/-! ## Which of them count -/

/-- Clauses that do not reach over the marker share a character with it exactly when they did
before. -/
theorem Hit.moved_apart_iff {n : Nat} {a b : Hit} (ha : a.start < n → a.stop ≤ n)
    (hb : b.start < n → b.stop ≤ n) : (a.moved n).Apart (b.moved n) ↔ a.Apart b := by
  have hlt := a.start_lt_stop
  have hlt' := b.start_lt_stop
  simp only [Hit.Apart, Hit.stop_moved]
  simp only [Hit.moved]
  rcases moveOf_eq (n := n) (x := a.start) with hmove | hmove <;>
    rcases moveOf_eq (n := n) (x := b.start) with hmove' | hmove' <;> omega

section Counting

variable {front behind : Text}

theorem Hit.moved_counts_iff (hfront : front = [] ∨ EndsBlank front)
    (hnone : NoneReaches (front ++ behind) front.length) {h : Hit}
    (hh : h.start < front.length → h.stop ≤ front.length) :
    (h.moved front.length).Counts (front ++ (commentLead ++ behind)) ↔
      h.Counts (front ++ behind) := by
  have hranges : ∀ {g : Hit}, (g.start < front.length → g.stop ≤ front.length) →
      ((∀ r ∈ Form.range.hits (front ++ (commentLead ++ behind)),
          (g.moved front.length).Apart r) ↔
        ∀ r ∈ Form.range.hits (front ++ behind), g.Apart r) := by
    intro g hg
    refine (Form.forall_hits_insert_iff hfront hnone .range _).trans ?_
    exact forall₂_congr fun r hr => Hit.moved_apart_iff hg (hnone .range r hr)
  rcases h with ⟨start, c | c | c⟩
  · exact Iff.rfl
  · exact hranges hh
  · refine and_congr (hranges hh) ((Form.forall_hits_insert_iff hfront hnone .list _).trans ?_)
    exact forall₂_congr fun l hl => imp_congr (hranges (hnone .list l hl))
      (Hit.moved_apart_iff hh (hnone .list l hl))

/-- The clauses that count are the same, those behind the marker further on. -/
theorem clauses_insert (hfront : front = [] ∨ EndsBlank front)
    (hnone : NoneReaches (front ++ behind) front.length) :
    clauses (front ++ (commentLead ++ behind)) =
      (clauses (front ++ behind)).map (Hit.moved front.length) := by
  symm
  apply eq_clauses_of_mem_iff
  · apply List.pairwise_map.mpr
    apply (clauses_pairwise (front ++ behind)).imp
    intro a b hab
    have hlt := a.start_lt_stop
    simp only [Hit.moved]
    rcases moveOf_eq (n := front.length) (x := a.start) with hmove | hmove <;>
      rcases moveOf_eq (n := front.length) (x := b.start) with hmove' | hmove' <;> omega
  · intro g
    rw [mem_clauses_iff, List.mem_map]
    constructor
    · rintro ⟨h, hh, rfl⟩
      obtain ⟨hfound, hcounts⟩ := mem_clauses_iff.mp hh
      have hreach := hnone _ h hfound
      exact ⟨(Form.mem_hits_insert_iff hfront hnone).mpr ⟨h, hfound, rfl⟩,
        (Hit.moved_counts_iff hfront hnone hreach).mpr hcounts⟩
    · rintro ⟨hfound, hcounts⟩
      obtain ⟨h, hh, rfl⟩ := (Form.mem_hits_insert_iff hfront hnone).mp hfound
      have hreach := hnone _ h hh
      exact ⟨h, mem_clauses_iff.mpr
        ⟨hh, (Hit.moved_counts_iff hfront hnone hreach).mp hcounts⟩, rfl⟩

end Counting

end SqlSnippet
