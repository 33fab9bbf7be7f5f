import SqlSnippet.Proofs.Respelling

/-!
# The style of a date that has been exchanged

A date that is written in the style of a literal takes the place of that literal, and the next
date is written in the style that is found in the place.  The width of the year and the case of
the month are found there as they were.  Two things are lost: a day of two digits does not show
that a single digit may stand alone, and the name of May does not show that months are written in
full.
-/

namespace SqlSnippet

open Chars

/-- The style that a date shows when it is written in this style. -/
def DateStyle.shownBy (style : DateStyle) (d : Date) : DateStyle where
  day := style.renderDay d.day
  month := style.monthStyle.render d.month
  year := style.renderYear d.year
  monthStyle := MonthStyle.of (style.monthStyle.render d.month)

theorem DateStyle.of?_render (style : DateStyle) (d : Date) :
    DateStyle.of? (style.render d) = some (style.shownBy d) := by
  have hrun : IsRun isBlank [] := by simp [IsRun]
  have hmonth := (style.monthStyle.monthIndex?_render d.month_range).1
  have hstyle := DateStyle.of?_eq_some (style.isDigits_renderDay d.day)
    (style.isDigits_renderYear d.year) hmonth hrun hrun
  rw [List.nil_append, List.append_nil, List.nil_append, List.append_nil] at hstyle
  rw [style.render_eq d, hstyle, shownBy]

/-- Two styles write a date alike exactly when they write its day, its month and its year
alike. -/
theorem DateStyle.render_eq_render_iff (style style' : DateStyle) (d : Date) :
    style'.render d = style.render d ↔
      style'.renderDay d.day = style.renderDay d.day ∧
      style'.monthStyle.render d.month = style.monthStyle.render d.month ∧
      style'.renderYear d.year = style.renderYear d.year := by
  constructor
  · intro heq
    have hsegments := style'.splitOn_render d
    rw [heq, style.splitOn_render] at hsegments
    simp only [List.cons.injEq, and_true] at hsegments
    exact ⟨hsegments.1.symm, hsegments.2.1.symm, hsegments.2.2.symm⟩
  · rintro ⟨hday, hmonth, hyear⟩
    rw [render, render, hday, hmonth, hyear]

theorem DateStyle.length_renderDay (style : DateStyle) (day : Nat) :
    (style.renderDay day).length = 1 ↔ style.day.length = 1 ∧ day < 10 := by
  unfold renderDay
  split
  next hone => simp [hone]
  next htwo => simp [twoDigits, htwo]

theorem DateStyle.renderDay_shownBy (style : DateStyle) (d : Date) (day : Nat) :
    (style.shownBy d).renderDay day = style.renderDay day ↔
      ¬(style.day.length = 1 ∧ 10 ≤ d.day ∧ day < 10) := by
  have hshown : (style.shownBy d).day.length = 1 ↔ style.day.length = 1 ∧ d.day < 10 :=
    style.length_renderDay d.day
  have hwidth : twoDigits day ≠ [digitChar day] := by simp [twoDigits]
  by_cases hlost : style.day.length = 1 ∧ 10 ≤ d.day ∧ day < 10
  · obtain ⟨hone, hd, hday⟩ := hlost
    have htwo : ¬((style.shownBy d).day.length = 1 ∧ day < 10) := by omega
    rw [renderDay, if_neg htwo, renderDay, if_pos ⟨hone, hday⟩]
    simp [hwidth, hone, hd, hday]
  · have hsame : (style.shownBy d).day.length = 1 ∧ day < 10 ↔
        style.day.length = 1 ∧ day < 10 := by omega
    simp only [renderDay, hsame, hlost, not_false_iff]

theorem DateStyle.renderYear_shownBy (style : DateStyle) (d : Date) (year : Nat) :
    (style.shownBy d).renderYear year = style.renderYear year := by
  have hshown : (style.shownBy d).year.length = 4 ↔ style.year.length = 4 := by
    change (style.renderYear d.year).length = 4 ↔ _
    unfold renderYear
    split
    next hfour => simp [fourDigits, twoDigits, hfour]
    next htwo => simp [twoDigits, htwo]
  unfold renderYear
  simp only [hshown]

/-- Of the ways to write a month only the full name can get lost, and only in May, whose full name
has three letters. -/
theorem MonthStyle.render_of_render (style : MonthStyle) {m n : Nat} (hm : m ≤ 12)
    (hn : n ≤ 12) :
    (MonthStyle.of (style.render m)).render n = style.render n ↔
      ¬(style.isFullName = true ∧ m = 5 ∧ n ≠ 5) := by
  have hall : ∀ upper lower full : Bool, ∀ m < 13, ∀ n < 13,
      decide ((MonthStyle.of (MonthStyle.render ⟨upper, lower, full, []⟩ m)).render n =
        MonthStyle.render ⟨upper, lower, full, []⟩ n) = !(full && m == 5 && n != 5) := by
    decide +kernel
  have hboth := hall style.isUpperCase style.isLowerCase style.isFullName m (by omega) n (by omega)
  rw [Bool.eq_iff_iff, decide_eq_true_eq] at hboth
  refine Iff.trans hboth ?_
  cases style.isFullName <;> simp [Decidable.imp_iff_not_or]

/-- The style of a literal and the style that one date shows write another date differently only
if one of the two things that get lost shows in it. -/
theorem DateStyle.render_shownBy_iff (style : DateStyle) (d e : Date) :
    (style.shownBy d).render e = style.render e ↔
      ¬(style.day.length = 1 ∧ 10 ≤ d.day ∧ e.day < 10) ∧
      ¬(style.monthStyle.isFullName = true ∧ d.month = 5 ∧ e.month ≠ 5) := by
  have hmonth : (style.shownBy d).monthStyle.render e.month =
      style.monthStyle.render e.month ↔ _ :=
    style.monthStyle.render_of_render d.month_range.2 e.month_range.2
  rw [DateStyle.render_eq_render_iff, style.renderDay_shownBy d, hmonth]
  simp only [style.renderYear_shownBy d, and_true]

/-- An ISO date that is written in the style of a literal shows a style again.  Every ISO date is
written in the one style as in the other exactly when no day of two digits has taken the place of
a single digit, and no May the place of a full name. -/
theorem of?_renderIso_drift {iso : Text} {d : Date} (hiso : Date.ofIso? iso = some d)
    (literal : Text) : ∀ style ∈ DateStyle.of? literal, ∃ written style',
    style.renderIso iso = .ok written ∧ DateStyle.of? written = some style' ∧
      ((∀ iso' d', Date.ofIso? iso' = some d' → style'.renderIso iso' = style.renderIso iso') ↔
        ¬(style.day.length = 1 ∧ 10 ≤ d.day) ∧
        ¬(style.monthStyle.isFullName = true ∧ d.month = 5)) := by
  intro style _
  refine ⟨style.render d, style.shownBy d, ?_, style.of?_render d, ?_⟩
  · rw [DateStyle.renderIso, hiso]
  constructor
  · intro hsame
    let newYear : Date := ⟨1, 1, 1, by decide, by decide, by decide⟩
    have hnew := hsame newYear.iso newYear newYear.ofIso?_iso
    simp only [DateStyle.renderIso, newYear.ofIso?_iso, Except.ok.injEq] at hnew
    obtain ⟨hday, hmonth⟩ := (style.render_shownBy_iff d newYear).mp hnew
    have hsmall : newYear.day < 10 := by decide
    have hjanuary : newYear.month ≠ 5 := by decide
    exact ⟨fun hlost => hday ⟨hlost.1, hlost.2, hsmall⟩,
      fun hlost => hmonth ⟨hlost.1, hlost.2, hjanuary⟩⟩
  · rintro ⟨hday, hmonth⟩ iso' d' hiso'
    simp only [DateStyle.renderIso, hiso', Except.ok.injEq]
    rw [style.render_shownBy_iff d d']
    exact ⟨fun hlost => hday ⟨hlost.1, hlost.2.1⟩, fun hlost => hmonth ⟨hlost.1, hlost.2.1⟩⟩

/-- A date of May in the style of a literal with a full name: the month keeps its three letters
when the next date is written. -/
theorem of?_renderIso_drift_may :
    ∃ d style written style', Date.ofIso? (Text.ofString "2026-05-20") = some d ∧
      DateStyle.of? (Text.ofString "12-April-99") = some style ∧
      style.renderIso (Text.ofString "2026-05-20") = .ok written ∧
      DateStyle.of? written = some style' ∧ written = Text.ofString "20-May-26" ∧
      ¬∀ iso' d', Date.ofIso? iso' = some d' → style'.renderIso iso' = style.renderIso iso' := by
  have hd : Date.ofIso? (Text.ofString "2026-05-20") =
      some ⟨2026, 5, 20, by decide, by decide, by decide⟩ := by decide
  have hstyle : DateStyle.of? (Text.ofString "12-April-99") =
      some ⟨['1', '2'], ['A', 'p', 'r', 'i', 'l'], ['9', '9'],
        ⟨false, false, true, ['A', 'p', 'r', 'i', 'l']⟩⟩ := by decide
  obtain ⟨written, style', hwritten, hshown, hsame⟩ := of?_renderIso_drift hd _ _ hstyle
  refine ⟨_, _, written, style', hd, hstyle, hwritten, hshown, ?_, ?_⟩
  · apply Except.ok.inj
    rw [← hwritten]
    decide
  · rw [hsame]
    decide

end SqlSnippet
