import SqlSnippet.Calendar.Restyle
import SqlSnippet.Proofs.Members

/-!
# Dates written in a style and read back

A date that is written in the style of a literal is a literal again: its day and its year are
runs of digits, and its month has one of the names that are recognised.  Reading it gives
back the day and the month.  A year of four digits comes back as well; of a year of two digits
only these come back, as a year from 2000 to 2099.  The day exists in that year too, since a
leap year that is moved there stays one.
-/

namespace SqlSnippet

open Chars

theorem decimalValue?_digitChar (n : Nat) : decimalValue? (digitChar n) = some (n % 10) := by
  have hall : ∀ k < 10, decimalValue? (Char.ofNat (48 + k)) = some k := by decide
  exact hall (n % 10) (Nat.mod_lt n (by decide))

theorem isDecimal_digitChar (n : Nat) : isDecimal (digitChar n) = true := by
  rw [isDecimal, decimalValue?_digitChar, Option.isSome_some]

theorem isBlank_digitChar (n : Nat) : isBlank (digitChar n) = false := by
  have hall : ∀ k < 10, isBlank (Char.ofNat (48 + k)) = false := by decide
  exact hall (n % 10) (Nat.mod_lt n (by decide))

theorem numberOf?_twoDigits (n : Nat) : numberOf? (twoDigits n) = some (n % 100) := by
  simp only [numberOf?, twoDigits, List.foldlM_cons, List.foldlM_nil, decimalValue?_digitChar,
    Option.map_some, Option.bind_eq_bind, Option.bind_some, Option.pure_def, Option.some.injEq]
  omega

theorem numberOf?_fourDigits (n : Nat) : numberOf? (fourDigits n) = some (n % 10000) := by
  simp only [numberOf?, fourDigits, twoDigits, List.cons_append, List.nil_append,
    List.foldlM_cons, List.foldlM_nil, decimalValue?_digitChar, Option.map_some,
    Option.bind_eq_bind, Option.bind_some, Option.pure_def, Option.some.injEq]
  omega

theorem numberOf?_century (n : Nat) :
    numberOf? ('2' :: '0' :: twoDigits n) = some (2000 + n % 100) := by
  have htwo : decimalValue? '2' = some 2 := by decide
  have hzero : decimalValue? '0' = some 0 := by decide
  simp only [numberOf?, twoDigits, List.foldlM_cons, List.foldlM_nil, htwo, hzero,
    decimalValue?_digitChar, Option.map_some, Option.bind_eq_bind, Option.bind_some,
    Option.pure_def, Option.some.injEq]
  omega

theorem isDecimal_of_numberOf? {digits : Text} {n : Nat} (h : numberOf? digits = some n) :
    ∀ c ∈ digits, isDecimal c = true := by
  have hall : ∀ (m : Nat) (ds : Text),
      (ds.foldlM (fun k c => (decimalValue? c).map (10 * k + ·)) m).isSome = true →
        ∀ c ∈ ds, isDecimal c = true := by
    intro m ds
    induction ds generalizing m with
    | nil => simp
    | cons d ds ih =>
        intro hds
        rw [List.foldlM_cons] at hds
        cases hd : decimalValue? d with
        | none => simp [hd] at hds
        | some k =>
            rw [hd, Option.map_some, Option.bind_eq_bind, Option.bind_some] at hds
            intro c hc
            rcases List.mem_cons.mp hc with rfl | hc
            · rw [isDecimal, hd, Option.isSome_some]
            · exact ih _ hds c hc
  exact hall 0 digits (by rw [← numberOf?, h, Option.isSome_some])

theorem Date.ofNumbers?_eq_some_iff {year month day : Nat} {d : Date} :
    Date.ofNumbers? year month day = some d ↔ d.year = year ∧ d.month = month ∧ d.day = day := by
  constructor
  · intro h
    simp only [Date.ofNumbers?, Option.dite_none_right_eq_some] at h
    obtain ⟨hy, hm, hd, heq⟩ := h
    obtain rfl := Option.some.inj heq
    exact ⟨rfl, rfl, rfl⟩
  · rintro ⟨rfl, rfl, rfl⟩
    rw [Date.ofNumbers?, dif_pos d.year_range, dif_pos d.month_range, dif_pos d.day_range]

theorem Date.ext_numbers {d e : Date} (hyear : d.year = e.year) (hmonth : d.month = e.month)
    (hday : d.day = e.day) : d = e := by
  cases d
  cases e
  simp_all

/-- A leap year stays one when only its last two digits are kept. -/
theorem isLeapYear_century {year : Nat} (h : isLeapYear year = true) :
    isLeapYear (2000 + year % 100) = true := by
  simp only [isLeapYear, Bool.and_eq_true, Bool.or_eq_true, beq_iff_eq, bne_iff_ne] at h ⊢
  omega

theorem daysInMonth_century (year month : Nat) :
    daysInMonth year month ≤ daysInMonth (2000 + year % 100) month := by
  unfold daysInMonth
  split
  · by_cases h : isLeapYear year = true
    · rw [if_pos h, if_pos (isLeapYear_century h)]
    · rw [if_neg h]
      split <;> decide
  all_goals exact le_rfl

/-! ## The ISO form -/

theorem isTrimmed_between (m n : Nat) (t : Text) :
    IsTrimmed (digitChar m :: (t ++ [digitChar n])) := by
  refine ⟨StopsAt.cons (isBlank_digitChar m) _, ?_⟩
  rw [← List.cons_append, endsBlank_append_singleton_iff, isBlank_digitChar]
  decide

theorem monthNumber?_digits {month : Nat} (h : 1 ≤ month ∧ month ≤ 12) :
    monthNumber? (digitChar (month / 10)) (digitChar month) = some month := by
  have hall : ∀ m < 13, 1 ≤ m → monthNumber? (digitChar (m / 10)) (digitChar m) = some m := by
    decide
  exact hall month (by omega) h.1

theorem dayNumber?_digits {day : Nat} (h : 1 ≤ day ∧ day ≤ 31) :
    dayNumber? (digitChar (day / 10)) (digitChar day) = some day := by
  have hall : ∀ d < 32, 1 ≤ d → dayNumber? (digitChar (d / 10)) (digitChar d) = some d := by
    decide
  exact hall day (by omega) h.1

/-- The ISO form of a date is read as this date. -/
theorem Date.ofIso?_iso (d : Date) : Date.ofIso? d.iso = some d := by
  have hiso : d.iso = digitChar (d.year / 100 / 10) :: ([digitChar (d.year / 100),
      digitChar (d.year / 10), digitChar d.year, '-', digitChar (d.month / 10),
      digitChar d.month, '-', digitChar (d.day / 10)] ++ [digitChar d.day]) := rfl
  have hstrip : d.iso.strip = d.iso := by
    rw [hiso]
    exact (isTrimmed_between _ _ _).strip_eq
  have hyear : numberOf? [digitChar (d.year / 100 / 10), digitChar (d.year / 100),
      digitChar (d.year / 10), digitChar d.year] = some d.year := by
    have hmod : d.year % 10000 = d.year := Nat.mod_eq_of_lt (Nat.lt_succ_of_le d.year_range.2)
    exact (numberOf?_fourDigits d.year).trans (congrArg some hmod)
  have hday := dayNumber?_digits ⟨d.day_range.1, d.day_le⟩
  rw [Date.ofIso?, hstrip, hiso]
  simp only [List.cons_append, List.nil_append]
  rw [hyear, monthNumber?_digits d.month_range, hday]
  exact Date.ofNumbers?_eq_some_iff.mpr ⟨rfl, rfl, rfl⟩

theorem Date.iso_inj {d e : Date} : d.iso = e.iso ↔ d = e := by
  constructor
  · intro h
    apply Option.some.inj
    rw [← Date.ofIso?_iso d, h, Date.ofIso?_iso]
  · rintro rfl
    rfl

/-- A hyphen among the digits of the year is no ISO form. -/
theorem Date.ofIso?_eq_none {t : Text} (h : '-' ∈ t.strip.take 4) : Date.ofIso? t = none := by
  unfold Date.ofIso?
  split
  next y₁ y₂ y₃ y₄ m₁ m₂ d₁ d₂ heq =>
    rw [heq] at h
    cases hyear : numberOf? [y₁, y₂, y₃, y₄] with
    | none => rfl
    | some year => exact absurd (isDecimal_of_numberOf? hyear '-' h) (by decide)
  next => rfl

theorem hyphen_notMem_of_isDigits {segment : Text} {lengths : List Nat}
    (h : isDigits segment lengths = true) : '-' ∉ segment := by
  intro hmem
  rw [isDigits, Bool.and_eq_true, List.all_eq_true] at h
  exact absurd (h.1 '-' hmem) (by decide)

/-- The hyphen behind a day keeps a literal from being read in the ISO form. -/
theorem Date.ofIso?_eq_none_of_isDigits {literal day rest : Text}
    (hday : isDigits day [1, 2] = true) (h : literal.strip = day ++ '-' :: rest) :
    Date.ofIso? literal = none := by
  apply Date.ofIso?_eq_none
  have hlength : day.length < 4 := by
    rw [isDigits, Bool.and_eq_true, List.contains_iff_mem] at hday
    have hwidth := hday.2
    simp only [List.mem_cons, List.not_mem_nil, or_false] at hwidth
    omega
  obtain ⟨k, hk⟩ := Nat.exists_eq_add_of_lt hlength
  have hleft : 4 - day.length = k + 1 := by omega
  rw [h, List.take_append, hleft, List.take_succ_cons]
  exact List.mem_append_right _ List.mem_cons_self

/-- The month in this style is known by its name, which has no hyphen. -/
theorem MonthStyle.monthIndex?_render (style : MonthStyle) {month : Nat}
    (h : 1 ≤ month ∧ month ≤ 12) :
    monthIndex? (style.render month) = some (month - 1) ∧ '-' ∉ style.render month := by
  have hall : ∀ upper lower full : Bool, ∀ m < 13, 1 ≤ m →
      monthIndex? (MonthStyle.render ⟨upper, lower, full, []⟩ m) = some (m - 1) ∧
        '-' ∉ MonthStyle.render ⟨upper, lower, full, []⟩ m := by
    decide
  exact hall style.isUpperCase style.isLowerCase style.isFullName month (by omega) h.1

section Style

variable (style : DateStyle)

theorem DateStyle.isDigits_renderDay (day : Nat) :
    isDigits (style.renderDay day) [1, 2] = true := by
  unfold renderDay
  split <;> simp [isDigits, twoDigits, isDecimal_digitChar]

theorem DateStyle.numberOf?_renderDay {day : Nat} (h : day < 100) :
    numberOf? (style.renderDay day) = some day := by
  unfold renderDay
  split
  next hone =>
    have hday : day % 10 = day := Nat.mod_eq_of_lt hone.2
    simp [numberOf?, decimalValue?_digitChar, hday]
  next => rw [numberOf?_twoDigits, Nat.mod_eq_of_lt h]

theorem DateStyle.isDigits_renderYear (year : Nat) :
    isDigits (style.renderYear year) [2, 4] = true := by
  unfold renderYear
  split <;> simp [isDigits, fourDigits, twoDigits, isDecimal_digitChar]

/-- The year that is read back when a year has been written in this style. -/
def DateStyle.yearRead (year : Nat) : Nat :=
  if style.year.length = 4 then year else 2000 + year % 100

theorem DateStyle.yearNumber?_renderYear {year : Nat} (h : year ≤ 9999) :
    yearNumber? (style.renderYear year) = some (style.yearRead year) := by
  unfold renderYear yearRead
  split
  next hfour =>
    have hlength : (fourDigits year).length ≠ 2 := by simp [fourDigits, twoDigits]
    rw [yearNumber?, if_neg hlength, numberOf?_fourDigits, Nat.mod_eq_of_lt (by omega)]
  next htwo =>
    have hlength : (twoDigits year).length = 2 := rfl
    rw [yearNumber?, if_pos hlength, numberOf?_century]

/-! ## The literal -/

theorem DateStyle.splitOn_render (d : Date) :
    (style.render d).splitOn '-' =
      [style.renderDay d.day, style.monthStyle.render d.month, style.renderYear d.year] := by
  have hday := hyphen_notMem_of_isDigits (style.isDigits_renderDay d.day)
  have hyear := hyphen_notMem_of_isDigits (style.isDigits_renderYear d.year)
  have hmonth := (style.monthStyle.monthIndex?_render d.month_range).2
  rw [Text.splitOn_eq, render, Text.join]
  apply List.splitOn_intercalate
  · simp [hday, hyear, hmonth]
  · simp

theorem DateStyle.render_eq (d : Date) :
    style.render d = style.renderDay d.day ++
      '-' :: (style.monthStyle.render d.month ++ '-' :: style.renderYear d.year) := by
  simp [render, Text.join]

/-- A literal begins with a digit of the day and ends with one of the year. -/
theorem DateStyle.isTrimmed_render (d : Date) : IsTrimmed (style.render d) := by
  have hday : ∃ m rest, style.renderDay d.day = digitChar m :: rest := by
    unfold renderDay
    split <;> exact ⟨_, _, rfl⟩
  have hyear : ∃ front n, style.renderYear d.year = front ++ [digitChar n] := by
    unfold renderYear
    split
    · exact ⟨twoDigits (d.year / 100) ++ [digitChar (d.year / 10)], d.year, by
        simp [fourDigits, twoDigits]⟩
    · exact ⟨[digitChar (d.year / 10)], d.year, rfl⟩
  obtain ⟨m, rest, hday⟩ := hday
  obtain ⟨front, n, hyear⟩ := hyear
  have hends : style.render d = digitChar m ::
      ((rest ++ '-' :: (style.monthStyle.render d.month ++ '-' :: front)) ++ [digitChar n]) := by
    rw [render_eq, hday, hyear]
    simp
  rw [hends]
  exact isTrimmed_between m n _

theorem DateStyle.ofIso?_render (d : Date) : Date.ofIso? (style.render d) = none := by
  apply Date.ofIso?_eq_none_of_isDigits (style.isDigits_renderDay d.day)
  rw [(style.isTrimmed_render d).strip_eq, render_eq]

theorem DateStyle.dateSegments?_render (d : Date) :
    dateSegments? (style.render d) =
      some (style.renderDay d.day, d.month - 1, style.renderYear d.year) := by
  simp only [dateSegments?, (style.isTrimmed_render d).strip_eq, splitOn_render,
    isDigits_renderDay, isDigits_renderYear, Bool.and_self, ↓reduceIte,
    (style.monthStyle.monthIndex?_render d.month_range).1, Option.map_some]

/-- A date that is written in some style is read as a date with the same day and month. -/
theorem DateStyle.exists_ofLiteral?_render (d : Date) :
    ∃ d', Date.ofLiteral? (style.render d) = some d' ∧
      d'.year = style.yearRead d.year ∧ d'.month = d.month ∧ d'.day = d.day := by
  have hyear : 1 ≤ style.yearRead d.year ∧ style.yearRead d.year ≤ 9999 := by
    have hrange := d.year_range
    unfold yearRead
    split <;> omega
  have hday : 1 ≤ d.day ∧ d.day ≤ daysInMonth (style.yearRead d.year) d.month := by
    refine ⟨d.day_range.1, d.day_range.2.trans ?_⟩
    unfold yearRead
    split
    · exact le_rfl
    · exact daysInMonth_century d.year d.month
  refine ⟨⟨style.yearRead d.year, d.month, d.day, hyear, d.month_range, hday⟩, ?_, rfl, rfl, rfl⟩
  have hmonth : d.month - 1 + 1 = d.month := Nat.sub_add_cancel d.month_range.1
  have hsmall : d.day < 100 := Nat.lt_of_le_of_lt d.day_le (by decide)
  simp only [Date.ofLiteral?, ofIso?_render, dateSegments?_render, Option.bind_eq_bind,
    Option.bind_some, yearNumber?_renderYear style d.year_range.2,
    numberOf?_renderDay style hsmall, hmonth]
  exact Date.ofNumbers?_eq_some_iff.mpr ⟨rfl, rfl, rfl⟩

theorem DateStyle.yearRead_eq_iff {year : Nat} :
    style.yearRead year = year ↔
      style.year.length = 4 ∨ (2000 ≤ year ∧ year ≤ 2099) := by
  unfold yearRead
  split
  next hfour => simp [hfour]
  next htwo =>
    simp only [htwo, false_or]
    omega

end Style

/-- An ISO date that is written in the style of a literal is always read back as a date.  It
is the same date exactly when the year of the literal has four characters or the year of the
date lies between 2000 and 2099. -/
theorem toIso?_renderIso {iso : Text} {d : Date} (hiso : Date.ofIso? iso = some d)
    (literal : Text) :
    ∀ style ∈ DateStyle.of? literal, ∃ written iso', style.renderIso iso = .ok written ∧
      toIso? written = some iso' ∧
      (iso' = d.iso ↔ style.year.length = 4 ∨ (2000 ≤ d.year ∧ d.year ≤ 2099)) := by
  intro style _
  obtain ⟨d', hread, hyear, hmonth, hday⟩ := style.exists_ofLiteral?_render d
  refine ⟨style.render d, d'.iso, ?_, ?_, ?_⟩
  · rw [DateStyle.renderIso, hiso]
  · rw [toIso?, hread, Option.map_some]
  · rw [Date.iso_inj, ← style.yearRead_eq_iff, ← hyear]
    constructor
    · rintro rfl
      rfl
    · intro hsame
      exact Date.ext_numbers hsame hmonth hday

/-- The leap day of a year of the last century, in the style of a literal whose year has two
digits, is read as the leap day of another year. -/
theorem toIso?_renderIso_leap_day :
    ∃ d style written iso', Date.ofIso? (Text.ofString "1904-02-29") = some d ∧
      DateStyle.of? (Text.ofString "5-Sept-99") = some style ∧
      style.renderIso (Text.ofString "1904-02-29") = .ok written ∧
      toIso? written = some iso' ∧ iso' ≠ d.iso ∧
      written = Text.ofString "29-February-04" ∧ iso' = Text.ofString "2004-02-29" := by
  have hd : Date.ofIso? (Text.ofString "1904-02-29") =
      some ⟨1904, 2, 29, by decide, by decide, by decide⟩ := by decide
  have hstyle : DateStyle.of? (Text.ofString "5-Sept-99") =
      some ⟨['5'], ['S', 'e', 'p', 't'], ['9', '9'],
        ⟨false, false, true, ['S', 'e', 'p', 't']⟩⟩ := by decide
  obtain ⟨written, iso', hwritten, hread, hsame⟩ := toIso?_renderIso hd _ _ hstyle
  have htext : written = Text.ofString "29-February-04" := by
    apply Except.ok.inj
    rw [← hwritten]
    decide
  have hiso : toIso? (Text.ofString "29-February-04") = some (Text.ofString "2004-02-29") := by
    decide
  refine ⟨_, _, written, iso', hd, hstyle, hwritten, hread, ?_, htext, ?_⟩
  · rw [ne_eq, hsame]
    decide
  · apply Option.some.inj
    rw [← hread, htext, hiso]

end SqlSnippet
