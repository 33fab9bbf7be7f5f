import SqlSnippet.Edit.Snippet
import SqlSnippet.Proofs.Position
import SqlSnippet.Proofs.Retention
import SqlSnippet.Proofs.Splice

/-!
# The last of two edits

An edit of a comparison with an inert value leaves the comparison where it was, and it leaves
as many rows before it.  So a second edit with the same number finds the same comparison, and
what it writes takes the place of what the first edit has written.
-/

namespace SqlSnippet

open Chars

section Comparison

variable {t front rest value : Text} {n : Nat} {c : Comparison}

/-- Up to a comparison that counts the scans find the same when it has an inert literal. -/
theorem Hit.Stands.sameBefore (hh : Hit.Stands ⟨n, .comparison c⟩ t front rest)
    (hmem : ⟨n, .comparison c⟩ ∈ clauses t) (hvalue : value.IsInert) :
    SameBefore n t (front ++ (Comparison.text { c with value } ++ rest)) := by
  have hc : c.WellFormed := hh.wellFormed
  have hstart : front.length = n := hh.start
  obtain ⟨hfound, hcounts⟩ := mem_clauses_iff.mp hmem
  intro f g hstop
  have hlt : g.start < n := lt_of_lt_of_le g.start_lt_stop hstop
  -- A list that is found there has its closing parenthesis before the comparison.  A range and
  -- another comparison may be tried up to the literal, and fail at it as they did before.
  cases f with
  | range =>
      exact (hh.mem_ranges_before hcounts.1 hvalue (by omega)).symm
  | list =>
      have hle : g.stop ≤ front.length := hstart ▸ hstop
      rw [hh.text]
      exact ⟨fun hg => Form.mem_lists_of_stop_le hg hle,
        fun hg => Form.mem_lists_of_stop_le hg hle⟩
  | comparison =>
      have hold : (Clause.comparison c).text ++ rest =
          c.lead ++ (c.value.enclosed ++ (c.closing ++ rest)) := by
        simp [Clause.text, Comparison.text]
      have hnew : Comparison.text { c with value } ++ rest =
          c.lead ++ (value.enclosed ++ (c.closing ++ rest)) := by
        simp [Comparison.text, Comparison.lead]
      have hcross : ∀ r ∈ Form.comparison.hits t, r.start < n → r.stop ≤ n :=
        fun r hr hlt => Form.stop_le_start hr hfound hlt
      exact (hh.mem_hits_before hcross hc.lead_ne_nil hold hnew
        (fun tail => readsAlike_comparison_value (c.closing ++ rest) hc.value hvalue.unquoted)
        hlt).symm

/-- A comparison with an inert literal has as many rows before it as it had. -/
theorem Hit.Stands.rowsBefore_eq (hh : Hit.Stands ⟨n, .comparison c⟩ t front rest)
    (hmem : ⟨n, .comparison c⟩ ∈ clauses t) (hvalue : value.IsInert) :
    rowsBefore (front ++ (Comparison.text { c with value } ++ rest)) n = rowsBefore t n := by
  have hmem' := hh.mem_clauses_comparison hmem hvalue
  apply rowsBefore_congr
  intro g hlt
  exact ((hh.sameBefore hmem hvalue).mem_clauses_iff hmem rfl hmem' rfl hlt).symm

end Comparison

/-- Only a date takes a style from the literal that it replaces. -/
theorem prepare_eq_self {target : Target} {value : Text}
    (h : target.isDate = false ∨ Date.ofIso? value = none) : target.prepare value = value := by
  rw [Target.prepare]
  rcases h with hdate | hiso
  · rw [hdate]
    rfl
  · rw [hiso]
    split <;> rfl

theorem Hit.Stands.setValue_comparison {t front rest : Text} {n : Nat} {c : Comparison}
    (hh : Hit.Stands ⟨n, .comparison c⟩ t front rest) (hmem : ⟨n, .comparison c⟩ ∈ clauses t)
    (value : Text) (hstyle : isDateLiteral c.value = false ∨ Date.ofIso? value = none) :
    setValue t (rowsBefore t n) value =
      .ok (front ++ (c.lead ++ (value.quoted ++ (c.closing ++ rest)))) := by
  let p : Parameter := { Hit.whole t ⟨n, .comparison c⟩ .simple c.value with
    isDate := isDateLiteral c.value }
  have hrow : p ∈ Hit.parameters t ⟨n, .comparison c⟩ := List.mem_singleton_self p
  have hp : (SqlSnippet.parameters t)[rowsBefore t n]? = some p :=
    getElem?_parameters_iff.mpr ⟨_, hmem, 0, rfl, rfl⟩
  have hprepare : p.target.prepare value = value := prepare_eq_self hstyle
  have hwritten : p.written value = value.quoted := by
    rw [p.written_eq_quoted (by simp [p, Hit.whole]), hprepare]
  have hslot : (Clause.comparison c).slot? p.kind =
      some ⟨c.lead, c.value.enclosed, c.closing⟩ := rfl
  rw [setValue_eq hp, substitute_eq hh hrow hslot, hwritten]

/-- Setting a literal that is no date a second time comes to the same text as setting it once,
when the first value is inert and is no date from which the second one takes its style. -/
theorem setValue_setValue {t : Text} {i : Nat} {p : Parameter}
    (hp : (parameters t)[i]? = some p) (hkind : p.kind = .simple) (hdate : p.isDate = false)
    {first : Text} (hfirst : first.IsInert) (second : Text)
    (hstyle : isDateLiteral first = false ∨ Date.ofIso? second = none) :
    ∃ t₁ t₂, setValue t i first = .ok t₁ ∧ setValue t i second = .ok t₂ ∧
      setValue t₁ i second = .ok t₂ := by
  obtain ⟨⟨n, clause⟩, hmem, j, hj, rfl⟩ := getElem?_parameters_iff.mp hp
  obtain ⟨front, rest, hh⟩ := exists_stands_of_mem_clauses hmem
  cases clause with
  | range c =>
      rcases List.mem_pair.mp (List.mem_of_getElem? hj) with rfl | rfl <;> cases hkind
  | list c =>
      rw [List.mem_singleton.mp (List.mem_of_getElem? hj)] at hkind
      cases hkind
  | comparison c =>
      have hc : c.WellFormed := hh.wellFormed
      obtain rfl : j = 0 := by
        cases j with
        | zero => rfl
        | succ j => cases hj
      obtain rfl := Option.some.inj hj
      have hmem' := hh.mem_clauses_comparison hmem hfirst
      have hh' := hh.exchange (.comparison { c with value := first })
        (hc.withValue hfirst.unquoted) hh.closes
      have hset := hh'.setValue_comparison hmem' second hstyle
      have hwritten : front ++ (c.lead ++ (first.quoted ++ (c.closing ++ rest))) =
          front ++ (Comparison.text { c with value := first } ++ rest) := by
        rw [Text.quoted_eq_enclosed hfirst.unquoted]
        simp [Comparison.text, Comparison.lead]
      refine ⟨_, _, hh.setValue_comparison hmem first (Or.inl hdate),
        hh.setValue_comparison hmem second (Or.inl hdate), ?_⟩
      rw [hwritten, ← hh.rowsBefore_eq hmem hfirst]
      exact hset

/-- A literal behind a list becomes a value with a parenthesis, then one with a quote. -/
theorem setValue_setValue_quote :
    ∃ t₁ t₂, setValue (Text.ofString "a in ('1') and b like 'x'") 1
        (Text.ofString "between (in") = .ok t₁ ∧
      setValue (Text.ofString "a in ('1') and b like 'x'") 1 (Text.ofString "O'Neil") = .ok t₂ ∧
      setValue t₁ 1 (Text.ofString "O'Neil") = .ok t₂ := by
  have hat : ((parameters (Text.ofString "a in ('1') and b like 'x'"))[1]?.map fun p =>
      (p.kind, p.isDate)) = some (.simple, false) := by decide +kernel
  obtain ⟨p, hp, hrow⟩ := Option.map_eq_some_iff.mp hat
  obtain ⟨hkind, hdate⟩ := Prod.mk.inj hrow
  have hfirst : Text.IsInert (Text.ofString "between (in") :=
    ⟨by decide, by decide, by decide +kernel, by decide +kernel, by decide +kernel⟩
  exact setValue_setValue hp hkind hdate hfirst (Text.ofString "O'Neil")
    (Or.inl (by decide +kernel))

/-- A second edit does not come to the same text when the first value is a date and the second
one takes its style, or when the first value is not inert, for whatever reason. -/
theorem setValue_setValue_differs :
    ([("day = 'x'", "1-jan-24", "2024-02-03"), ("name = 'x'", "O'Brien", "Smith"),
        ("z in (a = 'x' and d between '1' and '2')", "y)", "z"),
        ("day = 'x' or b = (1)", "q in (1", "z"),
        ("a = 'o' or b = ' and 'c'", "d between ", "z"),
        ("x between 'a = 'o'z'", " and ", "z")] : List (String × String × String)).all
      (fun e => decide (
        ((parameters (Text.ofString e.1))[0]?.map fun p => (p.kind, p.isDate)) =
            some (.simple, false) ∧
          ((setValue (Text.ofString e.1) 0 (Text.ofString e.2.1)).bind fun t₁ =>
            setValue t₁ 0 (Text.ofString e.2.2)) ≠
              setValue (Text.ofString e.1) 0 (Text.ofString e.2.2))) = true := by
  decide +kernel

end SqlSnippet
