import SqlSnippet.Proofs.Members

/-!
# Quotes that are written twice and read as two

A member is written with each of its quotes twice, and when it is read back, only the pair around
it is taken away.  So the members of a written list are the parts of its value with their quotes
doubled.  They are the parts themselves exactly when the value has no quotes, and the list that is
written for them is the same list only then.
-/

namespace SqlSnippet

open Chars

namespace Text

/-- Only a value without quotes is the same with its quotes doubled. -/
theorem doubleQuotes_eq_self_iff {value : Text} :
    value.doubleQuotes = value ↔ quoteMark ∉ value := by
  constructor
  · intro heq hmem
    have hcount := count_doubleQuotes value
    have hpos := List.count_pos_iff.mpr hmem
    rw [heq] at hcount
    omega
  · exact doubleQuotes_eq_self

theorem head?_doubleQuotes (value : Text) : value.doubleQuotes.head? = value.head? := by
  cases value with
  | nil => rfl
  | cons c value =>
      rw [doubleQuotes_cons]
      by_cases hc : c = quoteMark
      · rw [if_pos hc, hc]
        rfl
      · rw [if_neg hc]
        rfl

theorem reverse_doubleQuotes (value : Text) :
    value.doubleQuotes.reverse = doubleQuotes value.reverse := by
  rw [doubleQuotes, doubleQuotes, List.reverse_flatMap]
  refine List.flatMap_congr fun c _ => ?_
  by_cases hc : c = quoteMark
  · rw [Function.comp_apply, if_pos hc]
    rfl
  · rw [Function.comp_apply, if_neg hc]
    rfl

theorem getLast?_doubleQuotes (value : Text) :
    value.doubleQuotes.getLast? = value.getLast? := by
  rw [← List.head?_reverse, reverse_doubleQuotes, head?_doubleQuotes, List.head?_reverse]

theorem doubleQuotes_injective : Function.Injective doubleQuotes := by
  intro u v h
  induction u generalizing v with
  | nil =>
      have hhead : ([] : Text).head? = v.head? := by
        rw [← head?_doubleQuotes, h, head?_doubleQuotes]
      exact (List.head?_eq_none_iff.mp hhead.symm).symm
  | cons c u ih =>
      have hhead : v.head? = some c := by
        rw [← head?_doubleQuotes, ← h, head?_doubleQuotes, List.head?_cons]
      obtain ⟨v, rfl⟩ := List.head?_eq_some_iff.mp hhead
      rw [doubleQuotes_cons, doubleQuotes_cons] at h
      rw [ih (List.append_cancel_left h)]

/-- Different values are written as different literals. -/
theorem quoted_injective : Function.Injective quoted := by
  intro u v h
  have hdoubled := congrArg unquoted h
  rw [quoted, quoted, unquoted_enclosed, unquoted_enclosed] at hdoubled
  exact doubleQuotes_injective hdoubled

end Text

theorem IsTrimmed.doubleQuotes {t : Text} (h : IsTrimmed t) : IsTrimmed t.doubleQuotes := by
  rw [IsTrimmed, StopsAt, EndsBlank, Text.head?_doubleQuotes, Text.getLast?_doubleQuotes]
  exact h

theorem mem_strip {t : Text} {c : Char} (hc : c ∈ t) (hblank : isBlank c = false) :
    c ∈ t.strip := by
  obtain ⟨front, behind, hfront, hbehind, heq⟩ := exists_blanks_strip t
  rw [heq, List.mem_append, List.mem_append] at hc
  rcases hc with hc | hc | hc
  · rw [hfront c hc] at hblank
    cases hblank
  · exact hc
  · rw [hbehind c hc] at hblank
    cases hblank

theorem exists_memberValue {value : Text} {c : Char} (hc : c ∈ value) (hcomma : c ≠ ',')
    (hblank : isBlank c = false) : ∃ m ∈ memberValues value, c ∈ m := by
  have hmem : c ∈ List.intercalate [','] (value.splitOn ',') := by
    rw [Text.splitOn_eq, List.intercalate_splitOn]
    exact hc
  rcases mem_intercalate hmem with hsep | ⟨part, hpart, hc⟩
  · exact absurd (List.mem_singleton.mp hsep) hcomma
  · exact ⟨part.strip, List.mem_map_of_mem hpart, mem_strip hc hblank⟩

/-- Only the members of a value without quotes stay the same when their quotes are doubled. -/
theorem map_doubleQuotes_memberValues_iff {value : Text} :
    (memberValues value).map Text.doubleQuotes = memberValues value ↔ quoteMark ∉ value := by
  constructor
  · intro heq hmem
    obtain ⟨m, hm, hquote⟩ := exists_memberValue hmem (by decide) (by decide)
    have hsame : m.doubleQuotes = id m :=
      List.map_inj_left.mp (heq.trans (List.map_id _).symm) m hm
    exact Text.doubleQuotes_eq_self_iff.mp hsame hquote
  · exact map_doubleQuotes_memberValues

/-- Two values are written as the same members exactly when they stand for the same ones. -/
theorem quoteMembers_inj {value value' : Text} :
    quoteMembers value = quoteMembers value' ↔ memberValues value = memberValues value' := by
  rw [quoteMembers_eq_map, quoteMembers_eq_map]
  exact Text.quoted_injective.list_map.eq_iff

/-- What a list shows as its value when it has been given a value. -/
def shownAfter (value : Text) : Text :=
  joinMembers (splitMembers (joinMembers (quoteMembers value)))

/-- Stripping the members that are read back takes nothing from them. -/
theorem memberValues_shownAfter (value : Text) :
    memberValues (shownAfter value) = (memberValues value).map Text.doubleQuotes := by
  rw [shownAfter, memberValues_joinMembers_splitMembers, splitMembers_quoteMembers, List.map_map]
  exact List.map_congr_left fun m hm => (mem_memberValues hm).1.doubleQuotes.strip_eq

/-- A list that is given the value that it shows stays the same exactly when its value has no
quotes. -/
theorem quoteMembers_shownAfter_iff {value : Text} :
    quoteMembers (shownAfter value) = quoteMembers value ↔ quoteMark ∉ value :=
  calc quoteMembers (shownAfter value) = quoteMembers value
      ↔ memberValues (shownAfter value) = memberValues value := quoteMembers_inj
    _ ↔ (memberValues value).map Text.doubleQuotes = memberValues value := by
        rw [memberValues_shownAfter]
    _ ↔ quoteMark ∉ value := map_doubleQuotes_memberValues_iff

/-- The members that are read from a written list are the comma-separated parts of its value, each
stripped and with every quote doubled.  They are the stripped parts themselves, and the same list is
written for them, exactly when the value has no quotes. -/
theorem splitMembers_doubles_quotes (value : Text) :
    splitMembers (joinMembers (quoteMembers value)) =
        (List.splitOn ',' value).map (fun part : Text => part.strip.doubleQuotes) ∧
      (splitMembers (joinMembers (quoteMembers value)) =
        (List.splitOn ',' value).map Text.strip ↔ quoteMark ∉ value) ∧
      (quoteMembers (joinMembers (splitMembers (joinMembers (quoteMembers value)))) =
        quoteMembers value ↔ quoteMark ∉ value) := by
  have hread := splitMembers_quoteMembers value
  have hparts : memberValues value = (List.splitOn ',' value).map Text.strip := by
    rw [memberValues, Text.splitOn_eq]
  refine ⟨?_, ?_, ?_⟩
  · rw [hread, hparts, List.map_map]
    rfl
  · rw [hread, ← hparts]
    exact map_doubleQuotes_memberValues_iff
  · exact quoteMembers_shownAfter_iff

/-- A member with a quote, one that is a lone quote behind a wide blank, and an empty one. -/
example : splitMembers (joinMembers (quoteMembers (Text.ofString "it's,\u3000',"))) =
    [Text.ofString "it''s", Text.ofString "''", []] := by
  decide

end SqlSnippet
