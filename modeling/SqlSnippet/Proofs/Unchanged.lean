import SqlSnippet.Proofs.Splice
import SqlSnippet.Proofs.Respelling

/-!
# Edits that change nothing

The value that a literal has can be written into it again.  No quote in it needs doubling, since
the literal was read up to its first quote.  A date takes no other style either: a value in the
ISO form has digits for its month, so it has no style that could be given to it.
-/

namespace SqlSnippet

open Chars

theorem isLetter_eq_false_of_monthNumber? {a b : Char} {month : Nat}
    (h : monthNumber? a b = some month) : a ≠ '-' ∧ b ≠ '-' ∧ isLetter a = false := by
  unfold monthNumber? at h
  split at h
  next hzero =>
    obtain ⟨rfl, hlow, -⟩ := hzero
    refine ⟨by decide, ?_, by decide⟩
    rintro rfl
    exact absurd hlow (by decide)
  next =>
    rw [Option.ite_none_right_eq_some] at h
    obtain ⟨⟨rfl, hlow, -⟩, -⟩ := h
    refine ⟨by decide, ?_, by decide⟩
    rintro rfl
    exact absurd hlow (by decide)

theorem exists_segments_of_ofIso? {literal : Text} {d : Date} (h : Date.ofIso? literal = some d) :
    ∃ year a b rest, literal.splitOn '-' = year :: [a, b] :: rest ∧ isLetter a = false := by
  obtain ⟨front, behind, hfront, -, hliteral⟩ := exists_blanks_strip literal
  unfold Date.ofIso? at h
  split at h
  next y₁ y₂ y₃ y₄ m₁ m₂ d₁ d₂ hstrip =>
    simp only [Option.bind_eq_bind, Option.bind_eq_some_iff] at h
    obtain ⟨year, hyear, month, hmonth, -⟩ := h
    obtain ⟨hm₁, hm₂, hletter⟩ := isLetter_eq_false_of_monthNumber? hmonth
    have hdigits : '-' ∉ [y₁, y₂, y₃, y₄] := fun hmem =>
      absurd (isDecimal_of_numberOf? hyear '-' hmem) (by decide)
    have hfirst : '-' ∉ front ++ [y₁, y₂, y₃, y₄] :=
      List.not_mem_append (notMem_of_isRun_isBlank hfront) hdigits
    have hsecond : '-' ∉ [m₁, m₂] := by simp [hm₁.symm, hm₂.symm]
    have hsplit : literal = (front ++ [y₁, y₂, y₃, y₄]) ++
        '-' :: ([m₁, m₂] ++ '-' :: ([d₁, d₂] ++ behind)) := by
      rw [hliteral, hstrip]
      simp
    refine ⟨front ++ [y₁, y₂, y₃, y₄], m₁, m₂, Text.splitOn '-' ([d₁, d₂] ++ behind), ?_, hletter⟩
    rw [hsplit, Text.splitOn_append_cons hfirst, Text.splitOn_append_cons hsecond]
  next => cases h

theorem DateStyle.of?_eq_none_of_ofIso? {literal : Text} {d : Date}
    (h : Date.ofIso? literal = some d) : DateStyle.of? literal = none := by
  obtain ⟨year, a, b, rest, hsegments, hletter⟩ := exists_segments_of_ofIso? h
  cases hstyle : DateStyle.of? literal with
  | none => rfl
  | some style =>
      unfold DateStyle.of? at hstyle
      rw [hsegments] at hstyle
      split at hstyle
      next heq =>
        simp only [List.cons.injEq] at heq
        obtain ⟨-, rfl, -⟩ := heq
        simp [hletter] at hstyle
      next => cases hstyle

theorem Target.prepare_value (target : Target) : target.prepare target.value = target.value := by
  rw [Target.prepare]
  cases hiso : Date.ofIso? target.value with
  | none => simp
  | some d => simp [DateStyle.of?_eq_none_of_ofIso? hiso]

/-- The literal of a parameter is its value between quotes. -/
theorem Hit.Stands.literal_eq {t front rest : Text} {h : Hit} (hh : h.Stands t front rest)
    (hmem : h ∈ clauses t) {p : Parameter} (hp : p ∈ h.parameters t) {slot : Slot}
    (hslot : h.clause.slot? p.kind = some slot) (hkind : p.kind ≠ .list) :
    slot.literal = p.value.enclosed ∧ quoteMark ∉ p.value := by
  obtain ⟨hextract, hquote⟩ := (hh.occupies hmem hp hslot).literal hkind
  rw [hh.text_of_slot? hslot, extract_append] at hextract
  exact ⟨hextract, hquote⟩

/-- Writing the value of a literal into it once more changes nothing, whatever this value is. -/
theorem substitute_value {t : Text} {p : Parameter} (hp : p ∈ parameters t)
    (hkind : p.kind ≠ .list) : substitute t p.target p.value = t := by
  obtain ⟨h, hmem, hrow⟩ := mem_parameters_iff.mp hp
  obtain ⟨front, rest, hh⟩ := exists_stands_of_mem_clauses hmem
  obtain ⟨slot, hslot⟩ := Hit.exists_slot hrow
  obtain ⟨hliteral, hquote⟩ := hh.literal_eq hmem hrow hslot hkind
  have hprepare : p.target.prepare p.value = p.value := p.target.prepare_value
  have hwritten : p.written p.value = slot.literal := by
    rw [p.written_eq_quoted hkind, hprepare, Text.quoted_eq_enclosed hquote, hliteral]
  rw [substitute_eq hh hrow hslot, hwritten, ← List.append_assoc]
  exact (hh.text_of_slot? hslot).symm

/-- An ISO date with blanks around it is written back as it stands. -/
theorem substitute_value_iso :
    ∃ p ∈ parameters (Text.ofString "d between ' 2024-01-05 ' and '5-jAN-24'"),
      p.kind = .rangeStart ∧ p.isDate = true ∧ p.value = Text.ofString " 2024-01-05 " ∧
      substitute (Text.ofString "d between ' 2024-01-05 ' and '5-jAN-24'") p.target p.value =
        Text.ofString "d between ' 2024-01-05 ' and '5-jAN-24'" := by
  have hat : ((parameters (Text.ofString "d between ' 2024-01-05 ' and '5-jAN-24'"))[0]?.map
      fun p => (p.kind, p.isDate, p.value)) =
        some (.rangeStart, true, Text.ofString " 2024-01-05 ") := by decide
  obtain ⟨p, hp, hrow⟩ := Option.map_eq_some_iff.mp hat
  simp only [Prod.mk.injEq] at hrow
  obtain ⟨hkind, hdate, hvalue⟩ := hrow
  have hmem := List.mem_of_getElem? hp
  exact ⟨p, hmem, hkind, hdate, hvalue, substitute_value hmem (by simp [hkind])⟩

end SqlSnippet
