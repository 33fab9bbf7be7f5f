import SqlSnippet.Proofs.Dates
import Mathlib.Data.List.GetD

/-!
# Date literals that are written as they stand

A date literal has many spellings: blanks around it, digits of any script, and letters of either
case.  Reading it gives a date, and writing this date in the style of the literal gives one
spelling back.  This is the literal itself exactly when it has no blanks around it, ASCII digits
only, and a month in capitals, in small letters, or with a capital first letter.  The width of
the day, the width of the year and the length of the month are kept in every case.
-/

namespace SqlSnippet

open Chars

theorem notMem_of_isRun_isBlank {blanks : Text} (h : IsRun isBlank blanks) : '-' ∉ blanks := by
  intro hmem
  exact absurd (h '-' hmem) (by decide)

theorem digitChar_eq {c : Char} {n : Nat} (hc : c.isDigit = true)
    (hn : decimalValue? c = some n) : digitChar n = c := by
  have hall : ∀ k < 10, decimalValue? (Char.ofNat (48 + k)) = some k := by decide
  have hbounds : 48 ≤ c.toNat ∧ c.toNat ≤ 57 := by
    simpa [Char.isDigit, UInt32.le_iff_toNat_le] using hc
  have hchar : Char.ofNat (48 + (c.toNat - 48)) = c := by
    rw [Nat.add_sub_cancel' hbounds.1, Char.ofNat_toNat]
  have hvalue := hall (c.toNat - 48) (by omega)
  rw [hchar, hn, Option.some.injEq] at hvalue
  rw [digitChar, hvalue, Nat.mod_eq_of_lt (by omega), hchar]

theorem isDigit_digitChar (n : Nat) : (digitChar n).isDigit = true := by
  have hall : ∀ k < 10, (Char.ofNat (48 + k)).isDigit = true := by decide
  exact hall (n % 10) (Nat.mod_lt n (by decide))

theorem twoDigits_eq {a b : Char} {m n : Nat} (ha : a.isDigit = true) (hb : b.isDigit = true)
    (hm : decimalValue? a = some m) (hn : decimalValue? b = some n) (k : Nat) :
    twoDigits (100 * k + (10 * m + n)) = [a, b] := by
  have hm' := decimalValue?_lt hm
  have hn' := decimalValue?_lt hn
  have htens : digitChar ((100 * k + (10 * m + n)) / 10) = digitChar m := by
    unfold digitChar
    congr 2
    omega
  have hones : digitChar (100 * k + (10 * m + n)) = digitChar n := by
    unfold digitChar
    congr 2
    omega
  rw [twoDigits, htens, hones, digitChar_eq ha hm, digitChar_eq hb hn]

theorem numberOf?_pair_eq_some {a b : Char} {n : Nat} (h : numberOf? [a, b] = some n) :
    ∃ x y, decimalValue? a = some x ∧ decimalValue? b = some y ∧ n = 10 * x + y := by
  simp only [numberOf?, List.foldlM_cons, List.foldlM_nil, Option.bind_eq_bind,
    Option.bind_eq_some_iff, Option.map_eq_some_iff, Option.pure_def, Option.some.injEq] at h
  obtain ⟨_, ⟨x, hx, rfl⟩, _, ⟨y, hy, rfl⟩, rfl⟩ := h
  exact ⟨x, y, hx, hy, by omega⟩

theorem numberOf?_four_eq_some {a b c d : Char} {n : Nat} (h : numberOf? [a, b, c, d] = some n) :
    ∃ w x y z, decimalValue? a = some w ∧ decimalValue? b = some x ∧ decimalValue? c = some y ∧
      decimalValue? d = some z ∧ n = 100 * (10 * w + x) + (10 * y + z) := by
  simp only [numberOf?, List.foldlM_cons, List.foldlM_nil, Option.bind_eq_bind,
    Option.bind_eq_some_iff, Option.map_eq_some_iff, Option.pure_def, Option.some.injEq] at h
  obtain ⟨_, ⟨w, hw, rfl⟩, _, ⟨x, hx, rfl⟩, _, ⟨y, hy, rfl⟩, _, ⟨z, hz, rfl⟩, rfl⟩ := h
  exact ⟨w, x, y, z, hw, hx, hy, hz, by omega⟩

/-- All decimal digits of the text are ASCII digits. -/
def HasAsciiDigits (t : Text) : Prop := ∀ c ∈ t, isDecimal c = true → c.isDigit = true

theorem isDigit_of_isDigits {segment : Text} {lengths : List Nat}
    (h : isDigits segment lengths = true) (hascii : HasAsciiDigits segment) :
    ∀ c ∈ segment, c.isDigit = true := by
  rw [isDigits, Bool.and_eq_true, List.all_eq_true] at h
  intro c hc
  exact hascii c hc (h.1 c hc)

theorem length_of_isDigits {segment : Text} {short long : Nat}
    (h : isDigits segment [short, long] = true) :
    segment.length = short ∨ segment.length = long := by
  rw [isDigits, Bool.and_eq_true] at h
  simpa using h.2

theorem DateStyle.renderDay_eq {style : DateStyle} {n : Nat}
    (hday : isDigits style.day [1, 2] = true) (hascii : HasAsciiDigits style.day)
    (hn : numberOf? style.day = some n) : style.renderDay n = style.day := by
  have hdigit := isDigit_of_isDigits hday hascii
  rw [renderDay]
  generalize style.day = day at hday hn hdigit ⊢
  rcases length_of_isDigits hday with hone | htwo
  · obtain ⟨c, rfl⟩ := List.length_eq_one_iff.mp hone
    have hvalue : decimalValue? c = some n := by simpa [numberOf?] using hn
    rw [if_pos ⟨rfl, decimalValue?_lt hvalue⟩, digitChar_eq (hdigit c (by simp)) hvalue]
  · obtain ⟨a, b, rfl⟩ := List.length_eq_two.mp htwo
    obtain ⟨x, y, hx, hy, rfl⟩ := numberOf?_pair_eq_some hn
    rw [if_neg (by simp)]
    simpa using twoDigits_eq (hdigit a (by simp)) (hdigit b (by simp)) hx hy 0

/-- A year in ASCII digits is written as it stands, with its century left out if the literal
leaves it out. -/
theorem DateStyle.renderYear_eq {style : DateStyle} {n : Nat}
    (hyear : isDigits style.year [2, 4] = true) (hascii : HasAsciiDigits style.year)
    (hn : yearNumber? style.year = some n) : style.renderYear n = style.year := by
  have hdigit := isDigit_of_isDigits hyear hascii
  rw [renderYear]
  rw [yearNumber?] at hn
  generalize style.year = year at hyear hn hdigit ⊢
  rcases length_of_isDigits hyear with htwo | hfour
  · rw [if_pos htwo] at hn
    obtain ⟨a, b, rfl⟩ := List.length_eq_two.mp htwo
    obtain ⟨w, x, y, z, hw, hx, hy, hz, rfl⟩ := numberOf?_four_eq_some hn
    rw [if_neg (by simp)]
    exact twoDigits_eq (hdigit a (by simp)) (hdigit b (by simp)) hy hz _
  · rw [if_neg (by omega)] at hn
    rw [if_pos hfour]
    obtain ⟨a, b, c, d, rfl⟩ := List.length_eq_four.mp hfour
    obtain ⟨w, x, y, z, hw, hx, hy, hz, rfl⟩ := numberOf?_four_eq_some hn
    have hcentury : (100 * (10 * w + x) + (10 * y + z)) / 100 = 100 * 0 + (10 * w + x) := by
      have hy' := decimalValue?_lt hy
      have hz' := decimalValue?_lt hz
      omega
    rw [fourDigits, hcentury, twoDigits_eq (hdigit a (by simp)) (hdigit b (by simp)) hw hx,
      twoDigits_eq (hdigit c (by simp)) (hdigit d (by simp)) hy hz]
    rfl

theorem DateStyle.hasAsciiDigits_renderDay (style : DateStyle) (day : Nat) :
    HasAsciiDigits (style.renderDay day) := by
  intro c hc _
  unfold renderDay at hc
  split at hc
  all_goals
    simp only [twoDigits, List.mem_cons, List.not_mem_nil, or_false] at hc
  · rw [hc, isDigit_digitChar]
  · rcases hc with rfl | rfl <;> exact isDigit_digitChar _

theorem DateStyle.hasAsciiDigits_renderYear (style : DateStyle) (year : Nat) :
    HasAsciiDigits (style.renderYear year) := by
  intro c hc _
  unfold renderYear at hc
  split at hc
  all_goals
    simp only [fourDigits, twoDigits, List.mem_append, List.mem_cons, List.not_mem_nil,
      or_false] at hc
  · rcases hc with (rfl | rfl) | rfl | rfl <;> exact isDigit_digitChar _
  · rcases hc with rfl | rfl <;> exact isDigit_digitChar _

/-! ## Months -/

/-- All letters are capitals, all are small, or only the first one is a capital. -/
def IsEvenlyCased (month : Text) : Prop :=
  month = month.map Char.toUpper ∨ month = month.map Char.toLower ∨
    month = capitalized (month.map Char.toUpper)

/-- The two names of the month at this place in the year, in capitals. -/
def monthNames (index : Nat) : List Text :=
  [shortMonths.getD index [], fullMonths.getD index []]

/-- What is recognised as a month is one of its names, whatever its letters look like. -/
theorem mem_monthNames {month : Text} {index : Nat} (h : monthIndex? month = some index) :
    index < 12 ∧ month.map Char.toUpper ∈ monthNames index := by
  rw [monthIndex?, Option.or_eq_some_iff] at h
  rcases h with h | ⟨-, h⟩
  · obtain ⟨hlt, hname, -⟩ := List.idxOf?_eq_some_iff.mp h
    refine ⟨hlt, ?_⟩
    rw [monthNames, List.getD_eq_getElem _ _ hlt, hname]
    exact List.mem_cons_self
  · obtain ⟨hlt, hname, -⟩ := List.idxOf?_eq_some_iff.mp h
    refine ⟨hlt, ?_⟩
    rw [monthNames, List.getD_eq_getElem fullMonths _ hlt, hname]
    exact List.mem_cons_of_mem _ List.mem_cons_self

/-- A name of the month at this place in the year.  It stays a name in each of the three cases, and
each of them is written as it stands. -/
structure IsMonthName (index : Nat) (name : Text) : Prop where
  nonempty : name ≠ []
  capitals : ∀ c ∈ name, c.isUpper = true
  found : (shortMonths.idxOf? name).or (fullMonths.idxOf? name) = some index
  toUpper_eq : name.map Char.toUpper = name
  toLower_small : (name.map Char.toLower).map Char.toLower = name.map Char.toLower
  toUpper_title : (capitalized name).map Char.toUpper = name
  render_eq : (MonthStyle.of name).render (index + 1) = name
  render_small : (MonthStyle.of (name.map Char.toLower)).render (index + 1) = name.map Char.toLower
  render_title : (MonthStyle.of (capitalized name)).render (index + 1) = capitalized name

theorem isMonthName_of_mem {index : Nat} {name : Text} (hindex : index < 12)
    (hname : name ∈ monthNames index) : IsMonthName index name := by
  have hletters : ∀ k < 12, ∀ name ∈ monthNames k, name ≠ [] ∧ name.all Char.isUpper = true := by
    decide +kernel
  have hfound : ∀ k < 12, ∀ name ∈ monthNames k,
      (shortMonths.idxOf? name).or (fullMonths.idxOf? name) = some k := by
    decide +kernel
  have hcases : ∀ k < 12, ∀ name ∈ monthNames k, name.map Char.toUpper = name ∧
      (name.map Char.toLower).map Char.toLower = name.map Char.toLower ∧
      (capitalized name).map Char.toUpper = name := by
    decide +kernel
  have hrender : ∀ k < 12, ∀ name ∈ monthNames k, (MonthStyle.of name).render (k + 1) = name ∧
      (MonthStyle.of (name.map Char.toLower)).render (k + 1) = name.map Char.toLower ∧
      (MonthStyle.of (capitalized name)).render (k + 1) = capitalized name := by
    decide +kernel
  exact
    { nonempty := (hletters index hindex name hname).1
      capitals := List.all_eq_true.mp (hletters index hindex name hname).2
      found := hfound index hindex name hname
      toUpper_eq := (hcases index hindex name hname).1
      toLower_small := (hcases index hindex name hname).2.1
      toUpper_title := (hcases index hindex name hname).2.2
      render_eq := (hrender index hindex name hname).1
      render_small := (hrender index hindex name hname).2.1
      render_title := (hrender index hindex name hname).2.2 }

theorem toUpper_eq_self {c : Char} (h : c.isLower = false) : c.toUpper = c := by
  have hrange : ¬ (97 ≤ c.val ∧ c.val ≤ 122) := by
    change (decide (97 ≤ c.val) && decide (c.val ≤ 122)) = false at h
    simpa using h
  exact dif_neg hrange

theorem toLower_toUpper (c : Char) : c.toUpper.toLower = c.toLower := by
  cases hlower : c.isLower with
  | true =>
      have hall : ∀ n ∈ List.range' 97 26,
          (Char.ofNat n).toUpper.toLower = (Char.ofNat n).toLower := by decide
      have hsame := hall _ (mem_lowerCodes hlower)
      rw [Char.ofNat_toNat] at hsame
      exact hsame
  | false => rw [toUpper_eq_self hlower]

theorem isAlpha_of_isUpper_toUpper {c : Char} (h : c.toUpper.isUpper = true) :
    c.isAlpha = true := by
  change (c.isUpper || c.isLower) = true
  cases hlower : c.isLower with
  | true => exact Bool.or_true _
  | false =>
      rw [toUpper_eq_self hlower] at h
      rw [h, Bool.true_or]

theorem isAlpha_of_monthIndex? {month : Text} {index : Nat} (h : monthIndex? month = some index) :
    month ≠ [] ∧ ∀ c ∈ month, c.isAlpha = true := by
  obtain ⟨hlt, hmem⟩ := mem_monthNames h
  have hname := isMonthName_of_mem hlt hmem
  refine ⟨fun hnil => hname.nonempty (by rw [hnil, List.map_nil]), ?_⟩
  intro c hc
  exact isAlpha_of_isUpper_toUpper (hname.capitals _ (List.mem_map_of_mem hc))

theorem toNat_lt_of_isAlpha {c : Char} (h : c.isAlpha = true) : c.toNat < 128 := by
  change (decide (65 ≤ c.val ∧ c.val ≤ 90) ||
    decide (97 ≤ c.val) && decide (c.val ≤ 122)) = true at h
  simp only [Bool.or_eq_true, Bool.and_eq_true, decide_eq_true_eq, UInt32.le_iff_toNat_le] at h
  change c.val.toNat < 128
  rcases h with ⟨-, h⟩ | ⟨-, h⟩
  · exact Nat.lt_of_le_of_lt h (by decide)
  · exact Nat.lt_of_le_of_lt h (by decide)

theorem isLetter_of_isAlpha {c : Char} (h : c.isAlpha = true) : isLetter c = true := by
  rw [isLetter, if_pos (toNat_lt_of_isAlpha h), h]

theorem hasAsciiDigits_of_isAlpha {t : Text} (h : ∀ c ∈ t, c.isAlpha = true) :
    HasAsciiDigits t := by
  have hall : ∀ n < 128, isDecimal (Char.ofNat n) = true → (Char.ofNat n).isDigit = true := by
    decide +kernel
  intro c hc hdecimal
  have hdigit := hall c.toNat (toNat_lt_of_isAlpha (h c hc))
  rw [Char.ofNat_toNat] at hdigit
  exact hdigit hdecimal

theorem MonthStyle.isEvenlyCased_render (style : MonthStyle) {month : Nat}
    (h : 1 ≤ month ∧ month ≤ 12) : IsEvenlyCased (style.render month) := by
  have hmem : (if style.isFullName then fullMonths else shortMonths).getD (month - 1) [] ∈
      monthNames (month - 1) := by
    split <;> simp [monthNames]
  have hname := isMonthName_of_mem (by omega) hmem
  unfold render
  generalize (if style.isFullName then fullMonths else shortMonths).getD (month - 1) [] = name
    at hname ⊢
  dsimp only
  split
  · exact Or.inr (Or.inl hname.toLower_small.symm)
  · split
    · exact Or.inl hname.toUpper_eq.symm
    · exact Or.inr (Or.inr (congrArg capitalized hname.toUpper_title.symm))

theorem MonthStyle.render_eq_iff {month : Text} {index : Nat}
    (h : monthIndex? month = some index) :
    (MonthStyle.of month).render (index + 1) = month ↔ IsEvenlyCased month := by
  obtain ⟨hlt, hmem⟩ := mem_monthNames h
  have hname := isMonthName_of_mem hlt hmem
  constructor
  · intro heq
    rw [← heq]
    exact (MonthStyle.of month).isEvenlyCased_render ⟨by omega, by omega⟩
  · rintro (heq | heq | heq)
    · have hcapitals := hname.render_eq
      rw [← heq] at hcapitals
      exact hcapitals
    · have hlower : (month.map Char.toUpper).map Char.toLower = month := by
        conv_rhs => rw [heq]
        rw [List.map_map]
        exact List.map_congr_left fun c _ => toLower_toUpper c
      have hsmall := hname.render_small
      rw [hlower] at hsmall
      exact hsmall
    · have htitle := hname.render_title
      rw [← heq] at htitle
      exact htitle

/-! ## Literals -/

theorem HasAsciiDigits.append {t u : Text} (ht : HasAsciiDigits t) (hu : HasAsciiDigits u) :
    HasAsciiDigits (t ++ u) := by
  intro c hc
  rcases List.mem_append.mp hc with hc | hc
  · exact ht c hc
  · exact hu c hc

/-- What is recognised as a date literal: blanks, a day, the name of a month, a year, and blanks
again. -/
theorem exists_parts_of_dateSegments? {literal day year : Text} {index : Nat}
    (h : dateSegments? literal = some (day, index, year)) :
    ∃ month front behind, isDigits day [1, 2] = true ∧ isDigits year [2, 4] = true ∧
      monthIndex? month = some index ∧ IsRun isBlank front ∧ IsRun isBlank behind ∧
      literal.strip = day ++ '-' :: (month ++ '-' :: year) ∧
      literal = front ++ (literal.strip ++ behind) := by
  unfold dateSegments? at h
  split at h
  next day' month year' hsegments =>
    rw [Option.ite_none_right_eq_some, Bool.and_eq_true, Option.map_eq_some_iff] at h
    obtain ⟨⟨hday, hyear⟩, index', hmonth, heq⟩ := h
    obtain ⟨rfl, rfl, rfl⟩ := heq
    obtain ⟨front, behind, hfront, hbehind, hliteral⟩ := exists_blanks_strip literal
    refine ⟨month, front, behind, hday, hyear, hmonth, hfront, hbehind, ?_, hliteral⟩
    have hjoin : List.intercalate ['-'] (List.splitOn '-' literal.strip) = literal.strip :=
      List.intercalate_splitOn '-'
    rw [← Text.splitOn_eq, hsegments] at hjoin
    rw [← hjoin]
    simp
  next => cases h

/-- The style of a literal counts the blanks around it to its day and its year. -/
theorem DateStyle.of?_eq_some {front day month year behind : Text} {index : Nat}
    (hday : isDigits day [1, 2] = true) (hyear : isDigits year [2, 4] = true)
    (hmonth : monthIndex? month = some index) (hfront : IsRun isBlank front)
    (hbehind : IsRun isBlank behind) :
    DateStyle.of? (front ++ ((day ++ '-' :: (month ++ '-' :: year)) ++ behind)) =
      some ⟨front ++ day, month, year ++ behind, MonthStyle.of month⟩ := by
  obtain ⟨hne, halpha⟩ := isAlpha_of_monthIndex? hmonth
  have hletters : (!month.isEmpty && month.all isLetter) = true := by
    rw [Bool.and_eq_true, Bool.not_eq_true', List.isEmpty_eq_false_iff, List.all_eq_true]
    exact ⟨hne, fun c hc => isLetter_of_isAlpha (halpha c hc)⟩
  have hsegments : Text.splitOn '-' (front ++ ((day ++ '-' :: (month ++ '-' :: year)) ++ behind)) =
      [front ++ day, month, year ++ behind] := by
    have hjoin : front ++ ((day ++ '-' :: (month ++ '-' :: year)) ++ behind) =
        List.intercalate ['-'] [front ++ day, month, year ++ behind] := by simp
    have hmonthHyphen : '-' ∉ month := fun hmem => absurd (halpha '-' hmem) (by decide)
    rw [hjoin, Text.splitOn_eq]
    apply List.splitOn_intercalate
    · simp [hyphen_notMem_of_isDigits hday, hyphen_notMem_of_isDigits hyear, hmonthHyphen,
        notMem_of_isRun_isBlank hfront, notMem_of_isRun_isBlank hbehind]
    · exact List.cons_ne_nil _ _
  rw [DateStyle.of?, hsegments]
  exact if_pos hletters

theorem DateStyle.segments_of_of? {literal : Text} {style : DateStyle}
    (h : DateStyle.of? literal = some style) :
    literal.splitOn '-' = [style.day, style.month, style.year] ∧
      style.monthStyle = MonthStyle.of style.month := by
  unfold DateStyle.of? at h
  split at h
  next day month year hsegments =>
    rw [Option.ite_none_right_eq_some, Option.some.injEq] at h
    obtain ⟨-, rfl⟩ := h
    exact ⟨hsegments, rfl⟩
  next => cases h

/-- A date is written as a literal in its style exactly when each segment is. -/
theorem DateStyle.render_eq_iff {literal : Text} {style : DateStyle}
    (h : DateStyle.of? literal = some style) (d : Date) :
    style.render d = literal ↔ style.renderDay d.day = style.day ∧
      style.monthStyle.render d.month = style.month ∧ style.renderYear d.year = style.year := by
  have hrender := style.splitOn_render d
  have hliteral := (segments_of_of? h).1
  constructor
  · intro heq
    rw [heq, hliteral] at hrender
    simp only [List.cons.injEq, and_true] at hrender
    exact ⟨hrender.1.symm, hrender.2.1.symm, hrender.2.2.symm⟩
  · rintro ⟨hday, hmonth, hyear⟩
    rw [hday, hmonth, hyear, ← hliteral, Text.splitOn_eq, Text.splitOn_eq] at hrender
    have hjoin := congrArg (List.intercalate ['-']) hrender
    rwa [List.intercalate_splitOn, List.intercalate_splitOn] at hjoin

theorem ofLiteral?_eq_some {literal day year : Text} {index : Nat} {d : Date}
    (hsegments : dateSegments? literal = some (day, index, year))
    (hiso : Date.ofIso? literal = none) (h : Date.ofLiteral? literal = some d) :
    yearNumber? year = some d.year ∧ d.month = index + 1 ∧ numberOf? day = some d.day := by
  simp only [Date.ofLiteral?, hiso, hsegments, Option.bind_eq_bind, Option.bind_some,
    Option.bind_eq_some_iff] at h
  obtain ⟨y, hyear, n, hday, hd⟩ := h
  obtain ⟨rfl, hmonth, rfl⟩ := Date.ofNumbers?_eq_some_iff.mp hd
  exact ⟨hyear, hmonth, hday⟩

theorem DateStyle.hasAsciiDigits_render (style : DateStyle) (d : Date) :
    HasAsciiDigits (style.render d) := by
  have hhyphen : HasAsciiDigits ['-'] := by
    intro c hc hdecimal
    obtain rfl := List.mem_singleton.mp hc
    exact absurd hdecimal (by decide)
  have hmonth := (style.monthStyle.monthIndex?_render d.month_range).1
  have hletters := hasAsciiDigits_of_isAlpha (isAlpha_of_monthIndex? hmonth).2
  rw [render_eq]
  exact (style.hasAsciiDigits_renderDay d.day).append
    (hhyphen.append (hletters.append
      (hhyphen.append (style.hasAsciiDigits_renderYear d.year))))

/-- Reading a date literal and writing its date in its own style gives the literal back exactly
when it has no blanks around it, ASCII digits only, and an evenly cased month. -/
theorem renderIso_toIso?_iff {literal iso : Text} (hliteral : isDateLiteral literal = true)
    (hiso : toIso? literal = some iso) :
    ∃ style, DateStyle.of? literal = some style ∧
      (style.renderIso iso = .ok literal ↔
        literal.strip = literal ∧ HasAsciiDigits literal ∧ IsEvenlyCased style.month) := by
  obtain ⟨⟨day, index, year⟩, hsegments⟩ := Option.isSome_iff_exists.mp hliteral
  obtain ⟨month, front, behind, hday, hyear, hmonth, hfront, hbehind, hstrip, hwhole⟩ :=
    exists_parts_of_dateSegments? hsegments
  rw [toIso?, Option.map_eq_some_iff] at hiso
  obtain ⟨d, hd, rfl⟩ := hiso
  obtain ⟨hyearNumber, hindex, hdayNumber⟩ :=
    ofLiteral?_eq_some hsegments (Date.ofIso?_eq_none_of_isDigits hday hstrip) hd
  have hstyle := DateStyle.of?_eq_some hday hyear hmonth hfront hbehind
  rw [← hstrip, ← hwhole] at hstyle
  refine ⟨_, hstyle, ?_⟩
  rw [DateStyle.renderIso, Date.ofIso?_iso, Except.ok.injEq]
  constructor
  · intro hrender
    refine ⟨?_, ?_, ?_⟩
    · rw [← hrender, (DateStyle.isTrimmed_render _ d).strip_eq]
    · rw [← hrender]
      exact DateStyle.hasAsciiDigits_render _ d
    · obtain ⟨-, hsame, -⟩ := (DateStyle.render_eq_iff hstyle d).mp hrender
      rw [hindex] at hsame
      exact (MonthStyle.render_eq_iff hmonth).mp hsame
  · rintro ⟨htrimmed, hascii, hcased⟩
    obtain ⟨rfl, rfl⟩ : front = [] ∧ behind = [] := by
      have hlength := congrArg List.length hwhole
      rw [htrimmed, List.length_append, List.length_append] at hlength
      exact ⟨List.eq_nil_of_length_eq_zero (by omega), List.eq_nil_of_length_eq_zero (by omega)⟩
    rw [htrimmed] at hstrip
    rw [hstrip] at hascii
    have hdayAscii : HasAsciiDigits day := fun c hc => hascii c (by simp [hc])
    have hyearAscii : HasAsciiDigits year := fun c hc => hascii c (by simp [hc])
    simp only [List.nil_append, List.append_nil] at hstyle ⊢
    rw [DateStyle.render_eq_iff hstyle]
    refine ⟨DateStyle.renderDay_eq hday hdayAscii hdayNumber, ?_,
      DateStyle.renderYear_eq hyear hyearAscii hyearNumber⟩
    rw [hindex]
    exact (MonthStyle.render_eq_iff hmonth).mpr hcased

/-- A leap day with its month in small letters is written as it stands; with only its first letter
small it is not. -/
theorem renderIso_toIso?_leap_day :
    (isDateLiteral (Text.ofString "29-february-04") = true ∧
      toIso? (Text.ofString "29-february-04") = some (Text.ofString "2004-02-29") ∧
      ∃ style, DateStyle.of? (Text.ofString "29-february-04") = some style ∧
        style.renderIso (Text.ofString "2004-02-29") = .ok (Text.ofString "29-february-04")) ∧
    (isDateLiteral (Text.ofString "29-fEBRUARY-04") = true ∧
      toIso? (Text.ofString "29-fEBRUARY-04") = some (Text.ofString "2004-02-29") ∧
      ∃ style, DateStyle.of? (Text.ofString "29-fEBRUARY-04") = some style ∧
        style.renderIso (Text.ofString "2004-02-29") ≠ .ok (Text.ofString "29-fEBRUARY-04")) := by
  constructor
  · have hliteral : isDateLiteral (Text.ofString "29-february-04") = true := by decide
    have hiso : toIso? (Text.ofString "29-february-04") = some (Text.ofString "2004-02-29") := by
      decide
    obtain ⟨style, hstyle, hwritten⟩ := renderIso_toIso?_iff hliteral hiso
    refine ⟨hliteral, hiso, style, hstyle, hwritten.mpr ⟨by decide, ?_, ?_⟩⟩
    · have hall : (Text.ofString "29-february-04").all
          (fun c => !isDecimal c || c.isDigit) = true := by
        decide
      intro c hc hdecimal
      simpa [hdecimal] using List.all_eq_true.mp hall c hc
    · have hmonth : (DateStyle.of? (Text.ofString "29-february-04")).map DateStyle.month =
          some (Text.ofString "february") := by decide
      rw [hstyle, Option.map_some, Option.some.injEq] at hmonth
      rw [hmonth]
      exact Or.inr (Or.inl (by decide))
  · have hliteral : isDateLiteral (Text.ofString "29-fEBRUARY-04") = true := by decide
    have hiso : toIso? (Text.ofString "29-fEBRUARY-04") = some (Text.ofString "2004-02-29") := by
      decide
    obtain ⟨style, hstyle, hwritten⟩ := renderIso_toIso?_iff hliteral hiso
    refine ⟨hliteral, hiso, style, hstyle, fun heq => ?_⟩
    have hmonth : (DateStyle.of? (Text.ofString "29-fEBRUARY-04")).map DateStyle.month =
        some (Text.ofString "fEBRUARY") := by decide
    rw [hstyle, Option.map_some, Option.some.injEq] at hmonth
    have hcased := (hwritten.mp heq).2.2
    rw [hmonth] at hcased
    rcases hcased with hcased | hcased | hcased
    all_goals exact absurd hcased (by decide)

end SqlSnippet
