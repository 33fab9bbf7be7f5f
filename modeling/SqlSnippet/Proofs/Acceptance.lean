import SqlSnippet.Proofs.Respelling
import Mathlib.Data.Nat.Digits.Defs

/-!
# The texts that denote a date

A date is read from two forms, blanks around them apart.  The ISO form has four digits for the
year, two for the month and two for the day; the other form has a day, the name of a month and
a year.  Both are described here without the reader: by what their digits stand for and by the
names of the months.  The reader accepts these texts and no others, and what it gives back is the
canonical form of the date, which is read as itself.
-/

namespace SqlSnippet

open Chars

/-- The text consists of decimal digits, of whatever scripts, that stand for this number. -/
def StandsFor (digits : Text) (n : Nat) : Prop :=
  ∃ values : List Nat, digits.map decimalValue? = values.map some ∧
    Nat.ofDigits 10 values.reverse = n

theorem ofDigits_reverse_cons (m v : Nat) (values : List Nat) :
    Nat.ofDigits 10 ((v :: values).reverse ++ [m]) =
      Nat.ofDigits 10 (values.reverse ++ [10 * m + v]) := by
  simp only [List.reverse_cons, List.append_assoc, List.cons_append, List.nil_append,
    Nat.ofDigits_append, Nat.ofDigits_cons, Nat.ofDigits_nil]
  ring

/-- Reading digits behind a number that has been read before. -/
theorem foldlM_decimalValue?_eq_some_iff {digits : Text} {m n : Nat} :
    digits.foldlM (fun k c => (decimalValue? c).map (10 * k + ·)) m = some n ↔
      ∃ values : List Nat, digits.map decimalValue? = values.map some ∧
        Nat.ofDigits 10 (values.reverse ++ [m]) = n := by
  induction digits generalizing m with
  | nil =>
      constructor
      · intro h
        exact ⟨[], rfl, by simpa using h⟩
      · rintro ⟨values, hvalues, hn⟩
        obtain rfl : values = [] := by simpa using hvalues.symm
        simpa using hn
  | cons c digits ih =>
      rw [List.foldlM_cons, Option.bind_eq_bind, Option.bind_eq_some_iff]
      constructor
      · rintro ⟨k, hk, h⟩
        obtain ⟨v, hv, rfl⟩ := Option.map_eq_some_iff.mp hk
        obtain ⟨values, hvalues, hn⟩ := ih.mp h
        exact ⟨v :: values, by simp [hv, hvalues], (ofDigits_reverse_cons m v values).trans hn⟩
      · rintro ⟨values, hvalues, hn⟩
        obtain _ | ⟨v, values⟩ := values
        · simp at hvalues
        rw [List.map_cons, List.map_cons, List.cons.injEq] at hvalues
        refine ⟨10 * m + v, by rw [hvalues.1, Option.map_some], ?_⟩
        exact ih.mpr ⟨values, hvalues.2, (ofDigits_reverse_cons m v values).symm.trans hn⟩

theorem numberOf?_eq_some_iff {digits : Text} {n : Nat} :
    numberOf? digits = some n ↔ StandsFor digits n := by
  rw [numberOf?, foldlM_decimalValue?_eq_some_iff]
  simp [StandsFor, Nat.ofDigits_append]

theorem StandsFor.isDecimal {digits : Text} {n : Nat} (h : StandsFor digits n) :
    ∀ c ∈ digits, isDecimal c = true :=
  isDecimal_of_numberOf? (numberOf?_eq_some_iff.mpr h)

theorem standsFor_pair {a b : Char} {n : Nat} :
    StandsFor [a, b] n ↔
      ∃ x y, decimalValue? a = some x ∧ decimalValue? b = some y ∧ 10 * x + y = n := by
  constructor
  · intro h
    obtain ⟨x, y, hx, hy, hn⟩ := numberOf?_pair_eq_some (numberOf?_eq_some_iff.mpr h)
    exact ⟨x, y, hx, hy, hn.symm⟩
  · rintro ⟨x, y, hx, hy, rfl⟩
    exact ⟨[x, y], by simp [hx, hy], by simp [Nat.ofDigits_cons, Nat.add_comm]⟩

theorem exists_digitChar {c : Char} (h : c.isDigit = true) : ∃ k < 10, digitChar k = c := by
  have hbounds : 48 ≤ c.toNat ∧ c.toNat ≤ 57 := by
    simpa [Char.isDigit, UInt32.le_iff_toNat_le] using h
  refine ⟨c.toNat - 48, by omega, ?_⟩
  rw [digitChar, Nat.mod_eq_of_lt (by omega), Nat.add_sub_cancel' hbounds.1, Char.ofNat_toNat]

theorem standsFor_digitChars {x y n : Nat} (hx : x < 10) (hy : y < 10) :
    StandsFor [digitChar x, digitChar y] n ↔ 10 * x + y = n := by
  simp only [standsFor_pair, decimalValue?_digitChar, Nat.mod_eq_of_lt hx, Nat.mod_eq_of_lt hy,
    Option.some.injEq]
  constructor
  · rintro ⟨x', y', rfl, rfl, hn⟩
    exact hn
  · intro hn
    exact ⟨x, y, rfl, rfl, hn⟩

theorem isDigit_of_le {a b c : Char} (ha : 48 ≤ a.toNat) (hb : b.toNat ≤ 57)
    (h : a ≤ c ∧ c ≤ b) : c.isDigit = true := by
  have hlow : a.toNat ≤ c.toNat := h.1
  have hhigh : c.toNat ≤ b.toNat := h.2
  simp only [Char.isDigit, Bool.and_eq_true, decide_eq_true_eq, UInt32.le_iff_toNat_le]
  exact ⟨ha.trans hlow, hhigh.trans hb⟩

/-- A reader of two digits up to a limit, on ASCII digits. -/
theorem eq_some_iff_of_ascii {read : Char → Char → Option Nat} {limit : Nat}
    (hread : ∀ x < 10, ∀ y < 10, read (digitChar x) (digitChar y) =
      if 1 ≤ 10 * x + y ∧ 10 * x + y ≤ limit then some (10 * x + y) else none)
    {a b : Char} (ha : a.isDigit = true) (hb : b.isDigit = true) {n : Nat} :
    read a b = some n ↔ StandsFor [a, b] n ∧ 1 ≤ n ∧ n ≤ limit := by
  obtain ⟨x, hx, rfl⟩ := exists_digitChar ha
  obtain ⟨y, hy, rfl⟩ := exists_digitChar hb
  rw [hread x hx y hy, standsFor_digitChars hx hy, Option.ite_none_right_eq_some,
    Option.some.injEq]
  constructor
  · rintro ⟨hrange, rfl⟩
    exact ⟨rfl, hrange⟩
  · rintro ⟨rfl, hrange⟩
    exact ⟨hrange, rfl⟩

theorem monthNumber?_eq_some_iff {a b : Char} {n : Nat} :
    monthNumber? a b = some n ↔
      a.isDigit = true ∧ b.isDigit = true ∧ StandsFor [a, b] n ∧ 1 ≤ n ∧ n ≤ 12 := by
  have hascii : ∀ x < 10, ∀ y < 10, monthNumber? (digitChar x) (digitChar y) =
      if 1 ≤ 10 * x + y ∧ 10 * x + y ≤ 12 then some (10 * x + y) else none := by
    decide
  constructor
  · intro h
    have hdigits : a.isDigit = true ∧ b.isDigit = true := by
      unfold monthNumber? at h
      split at h
      next hzero => exact ⟨by rw [hzero.1]; decide, isDigit_of_le (by decide) (by decide) hzero.2⟩
      next =>
        split at h
        next hone => exact ⟨by rw [hone.1]; decide, isDigit_of_le (by decide) (by decide) hone.2⟩
        next => cases h
    exact ⟨hdigits.1, hdigits.2, (eq_some_iff_of_ascii hascii hdigits.1 hdigits.2).mp h⟩
  · rintro ⟨ha, hb, h⟩
    exact (eq_some_iff_of_ascii hascii ha hb).mpr h

/-- Behind a leading 1 or 2 the last digit of a day is of any script. -/
theorem dayNumber?_open {a b : Char} {n : Nat} (h : a = '1' ∨ a = '2') :
    dayNumber? a b = some n ↔ StandsFor [a, b] n ∧ 1 ≤ n ∧ n ≤ 31 := by
  obtain ⟨x, hx, hvalue, hday⟩ : ∃ x, (x = 1 ∨ x = 2) ∧ decimalValue? a = some x ∧
      dayNumber? a b = (decimalValue? b).map (10 * x + ·) := by
    rcases h with rfl | rfl
    · exact ⟨1, Or.inl rfl, by decide, by simp [dayNumber?]⟩
    · exact ⟨2, Or.inr rfl, by decide, by simp [dayNumber?]⟩
  rw [hday, Option.map_eq_some_iff, standsFor_pair]
  constructor
  · rintro ⟨y, hy, rfl⟩
    have hlt := decimalValue?_lt hy
    exact ⟨⟨x, y, hvalue, hy, rfl⟩, by omega, by omega⟩
  · rintro ⟨⟨x', y, hx', hy, rfl⟩, -⟩
    obtain rfl : x = x' := Option.some.inj (hvalue.symm.trans hx')
    exact ⟨y, hy, rfl⟩

theorem dayNumber?_eq_some_iff {a b : Char} {n : Nat} :
    dayNumber? a b = some n ↔
      a.isDigit = true ∧ (b.isDigit = true ∨ a = '1' ∨ a = '2') ∧ StandsFor [a, b] n ∧
        1 ≤ n ∧ n ≤ 31 := by
  have hascii : ∀ x < 10, ∀ y < 10, dayNumber? (digitChar x) (digitChar y) =
      if 1 ≤ 10 * x + y ∧ 10 * x + y ≤ 31 then some (10 * x + y) else none := by
    decide
  by_cases hopen : a = '1' ∨ a = '2'
  · have ha : a.isDigit = true := by
      rcases hopen with rfl | rfl <;> decide
    rw [dayNumber?_open hopen]
    simp only [ha, hopen, or_true, true_and]
  constructor
  · intro h
    have hdigits : a.isDigit = true ∧ b.isDigit = true := by
      rw [not_or] at hopen
      rw [dayNumber?, if_neg hopen.1, if_neg hopen.2] at h
      split at h
      next hzero => exact ⟨by rw [hzero.1]; decide, isDigit_of_le (by decide) (by decide) hzero.2⟩
      next =>
        split at h
        next hthree =>
          exact ⟨by rw [hthree.1]; decide, isDigit_of_le (by decide) (by decide) hthree.2⟩
        next => cases h
    exact ⟨hdigits.1, Or.inl hdigits.2, (eq_some_iff_of_ascii hascii hdigits.1 hdigits.2).mp h⟩
  · rintro ⟨ha, hb, h⟩
    exact (eq_some_iff_of_ascii hascii ha (hb.resolve_right hopen)).mpr h

/-! ## The two forms -/

/-- The ISO form of a date.  The month is written in ASCII, and so is the day, but for the last
digit of a day from the 10th to the 29th. -/
inductive IsoForm : Text → Date → Prop
  | intro {year month : Text} {tens ones : Char} {d : Date}
      (year_length : year.length = 4) (year_number : StandsFor year d.year)
      (month_length : month.length = 2) (month_ascii : ∀ c ∈ month, c.isDigit = true)
      (month_number : StandsFor month d.month)
      (tens_ascii : tens.isDigit = true)
      (ones_ascii : ones.isDigit = true ∨ tens = '1' ∨ tens = '2')
      (day_number : StandsFor [tens, ones] d.day) :
      IsoForm (year ++ '-' :: (month ++ '-' :: [tens, ones])) d

/-- The number of a year, of which only the last two digits may be written in this century. -/
inductive YearForm : Text → Nat → Prop
  | short {digits : Text} {n : Nat} (length : digits.length = 2) (number : StandsFor digits n) :
      YearForm digits (2000 + n)
  | long {digits : Text} {n : Nat} (length : digits.length = 4) (number : StandsFor digits n) :
      YearForm digits n

/-- A date with the name of its month, in letters of any case. -/
inductive NamedForm : Text → Date → Prop
  | intro {day month year : Text} {d : Date}
      (day_length : day.length = 1 ∨ day.length = 2) (day_number : StandsFor day d.day)
      (month_name : month.map Char.toUpper ∈ monthNames (d.month - 1))
      (year_form : YearForm year d.year) :
      NamedForm (day ++ '-' :: (month ++ '-' :: year)) d

/-- The text denotes the date. -/
def Denotes (t : Text) (d : Date) : Prop := IsoForm t d ∨ NamedForm t d

theorem Date.ofIso?_eq_some_iff {t : Text} {d : Date} :
    Date.ofIso? t = some d ↔ IsoForm t.strip d := by
  constructor
  · intro h
    unfold Date.ofIso? at h
    split at h
    next y₁ y₂ y₃ y₄ m₁ m₂ d₁ d₂ hstrip =>
      simp only [Option.bind_eq_bind, Option.bind_eq_some_iff] at h
      obtain ⟨year, hyear, month, hmonth, day, hday, hd⟩ := h
      obtain ⟨rfl, rfl, rfl⟩ := Date.ofNumbers?_eq_some_iff.mp hd
      obtain ⟨hm₁, hm₂, hmonthNumber, -⟩ := monthNumber?_eq_some_iff.mp hmonth
      obtain ⟨htens, hones, hdayNumber, -⟩ := dayNumber?_eq_some_iff.mp hday
      have hform : IsoForm ([y₁, y₂, y₃, y₄] ++ '-' :: ([m₁, m₂] ++ '-' :: [d₁, d₂])) d :=
        .intro rfl (numberOf?_eq_some_iff.mp hyear) rfl (by simp [hm₁, hm₂]) hmonthNumber
          htens hones hdayNumber
      rw [hstrip]
      exact hform
    next => cases h
  · intro h
    generalize hstrip : t.strip = s at h
    obtain ⟨hyearLength, hyear, hmonthLength, hmonthAscii, hmonth, htens, hones, hday⟩ := h
    rename_i year month tens ones
    obtain ⟨y₁, y₂, y₃, y₄, rfl⟩ := List.length_eq_four.mp hyearLength
    obtain ⟨m₁, m₂, rfl⟩ := List.length_eq_two.mp hmonthLength
    have hmonth' := monthNumber?_eq_some_iff.mpr
      ⟨hmonthAscii m₁ (by simp), hmonthAscii m₂ (by simp), hmonth, d.month_range⟩
    have hday' := dayNumber?_eq_some_iff.mpr ⟨htens, hones, hday, d.day_range.1, d.day_le⟩
    rw [Date.ofIso?, hstrip]
    simp only [List.cons_append, List.nil_append]
    rw [numberOf?_eq_some_iff.mpr hyear, hmonth', hday']
    exact Date.ofNumbers?_eq_some_iff.mpr ⟨rfl, rfl, rfl⟩

theorem monthIndex?_eq_some_iff {month : Text} {index : Nat} :
    monthIndex? month = some index ↔
      index < 12 ∧ month.map Char.toUpper ∈ monthNames index := by
  constructor
  · exact mem_monthNames
  · rintro ⟨hlt, hname⟩
    exact (isMonthName_of_mem hlt hname).found

theorem dateSegments?_eq_some {literal day month year : Text} {index : Nat}
    (hday : isDigits day [1, 2] = true) (hyear : isDigits year [2, 4] = true)
    (hmonth : monthIndex? month = some index)
    (hstrip : literal.strip = day ++ '-' :: (month ++ '-' :: year)) :
    dateSegments? literal = some (day, index, year) := by
  have hmonthHyphen : '-' ∉ month :=
    fun hmem => absurd ((isAlpha_of_monthIndex? hmonth).2 '-' hmem) (by decide)
  have hsegments : literal.strip.splitOn '-' = [day, month, year] := by
    have hjoin : literal.strip = List.intercalate ['-'] [day, month, year] := by
      rw [hstrip]
      simp
    rw [hjoin, Text.splitOn_eq]
    apply List.splitOn_intercalate
    · simp [hyphen_notMem_of_isDigits hday, hyphen_notMem_of_isDigits hyear, hmonthHyphen]
    · exact List.cons_ne_nil _ _
  simp only [dateSegments?, hsegments, hday, hyear, Bool.and_self, ↓reduceIte, hmonth,
    Option.map_some]

theorem StandsFor.isDigits {digits : Text} {n short long : Nat} (h : StandsFor digits n)
    (hlength : digits.length = short ∨ digits.length = long) :
    isDigits digits [short, long] = true := by
  rw [SqlSnippet.isDigits, Bool.and_eq_true, List.all_eq_true]
  exact ⟨h.isDecimal, by simpa using hlength⟩

/-- A year of two digits is read with the century in front. -/
theorem numberOf?_century_eq_some_iff {digits : Text} {n : Nat} (hlength : digits.length = 2) :
    numberOf? ('2' :: '0' :: digits) = some n ↔ ∃ k, StandsFor digits k ∧ 2000 + k = n := by
  have htwo : decimalValue? '2' = some 2 := by decide
  have hzero : decimalValue? '0' = some 0 := by decide
  have hread : numberOf? ('2' :: '0' :: digits) =
      digits.foldlM (fun k c => (decimalValue? c).map (10 * k + ·)) 20 := by
    simp [numberOf?, htwo, hzero]
  have hvalue : ∀ values : List Nat, digits.map decimalValue? = values.map some →
      Nat.ofDigits 10 (values.reverse ++ [20]) = 2000 + Nat.ofDigits 10 values.reverse := by
    intro values hvalues
    have hvaluesLength : values.length = 2 := by
      simpa [hlength] using (congrArg List.length hvalues).symm
    rw [Nat.ofDigits_append, List.length_reverse, hvaluesLength, Nat.ofDigits_singleton]
    omega
  rw [hread, foldlM_decimalValue?_eq_some_iff]
  constructor
  · rintro ⟨values, hvalues, rfl⟩
    exact ⟨_, ⟨values, hvalues, rfl⟩, (hvalue values hvalues).symm⟩
  · rintro ⟨_, ⟨values, hvalues, rfl⟩, rfl⟩
    exact ⟨values, hvalues, hvalue values hvalues⟩

theorem yearNumber?_eq_some_iff {year : Text} {n : Nat}
    (hlength : year.length = 2 ∨ year.length = 4) :
    yearNumber? year = some n ↔ YearForm year n := by
  rcases hlength with htwo | hfour
  · rw [yearNumber?, if_pos htwo, numberOf?_century_eq_some_iff htwo]
    constructor
    · rintro ⟨k, hk, rfl⟩
      exact .short htwo hk
    · rintro (⟨-, hk⟩ | ⟨hlength, -⟩)
      · exact ⟨_, hk, rfl⟩
      · omega
  · rw [yearNumber?, if_neg (by omega), numberOf?_eq_some_iff]
    constructor
    · exact .long hfour
    · rintro (⟨hlength, -⟩ | ⟨-, hn⟩)
      · omega
      · exact hn

theorem YearForm.isDigits {year : Text} {n : Nat} (h : YearForm year n) :
    isDigits year [2, 4] = true := by
  cases h with
  | short length number => exact number.isDigits (Or.inl length)
  | long length number => exact number.isDigits (Or.inr length)

/-- The reader of date literals accepts the texts that denote a date, and no others. -/
theorem Date.ofLiteral?_eq_some_iff {t : Text} {d : Date} :
    Date.ofLiteral? t = some d ↔ Denotes t.strip d := by
  constructor
  · intro h
    cases hiso : Date.ofIso? t with
    | some e =>
        rw [Date.ofLiteral?, hiso] at h
        obtain rfl := Option.some.inj h
        exact Or.inl (Date.ofIso?_eq_some_iff.mp hiso)
    | none =>
        obtain ⟨⟨day, index, year⟩, hsegments⟩ : ∃ parts, dateSegments? t = some parts := by
          rw [← Option.isSome_iff_exists]
          cases hsegments : dateSegments? t with
          | some parts => rfl
          | none => simp [Date.ofLiteral?, hiso, hsegments] at h
        obtain ⟨hyear, hindex, hday⟩ := ofLiteral?_eq_some hsegments hiso h
        obtain ⟨month, -, -, hdayDigits, hyearDigits, hmonth, -, -, hstrip, -⟩ :=
          exists_parts_of_dateSegments? hsegments
        have hname : month.map Char.toUpper ∈ monthNames (d.month - 1) := by
          rw [hindex, Nat.add_sub_cancel]
          exact (mem_monthNames hmonth).2
        rw [hstrip]
        exact Or.inr (.intro (length_of_isDigits hdayDigits) (numberOf?_eq_some_iff.mp hday) hname
          ((yearNumber?_eq_some_iff (length_of_isDigits hyearDigits)).mp hyear))
  · rintro (h | h)
    · rw [Date.ofLiteral?, Date.ofIso?_eq_some_iff.mpr h]
    · generalize hstrip : t.strip = s at h
      obtain ⟨hlength, hday, hname, hyear⟩ := h
      have hmonth := monthIndex?_eq_some_iff.mpr
        ⟨show d.month - 1 < 12 by have := d.month_range; omega, hname⟩
      have hdayDigits := hday.isDigits hlength
      have hsegments := dateSegments?_eq_some hdayDigits hyear.isDigits hmonth hstrip
      have hyearNumber :=
        (yearNumber?_eq_some_iff (length_of_isDigits hyear.isDigits)).mpr hyear
      have hindex : d.month - 1 + 1 = d.month := Nat.sub_add_cancel d.month_range.1
      simp only [Date.ofLiteral?, Date.ofIso?_eq_none_of_isDigits hdayDigits hstrip, hsegments,
        hyearNumber, numberOf?_eq_some_iff.mpr hday, Option.bind_eq_bind, Option.bind_some, hindex]
      exact Date.ofNumbers?_eq_some_iff.mpr ⟨rfl, rfl, rfl⟩

/-! ## The canonical form -/

/-- What is accepted as a date is exactly what denotes one.  It becomes ten ASCII characters, which
are read as the same date and stay as they are. -/
theorem toIso?_exact (t : Text) :
    ((toIso? t).isSome = true ↔ ∃ d, Denotes t.strip d) ∧
    (∀ d, Date.ofIso? t = some d ↔ IsoForm t.strip d) ∧
    ∀ z, toIso? t = some z → ∃ d, Denotes t.strip d ∧
      (∃ year month day : Text, z = year ++ '-' :: (month ++ '-' :: day) ∧
        year.length = 4 ∧ month.length = 2 ∧ day.length = 2 ∧
        ∀ c ∈ year ++ (month ++ day), c.isDigit = true) ∧
      Date.ofIso? z = some d ∧ toIso? z = some z := by
  refine ⟨?_, fun d => Date.ofIso?_eq_some_iff, ?_⟩
  · rw [toIso?, Option.isSome_map, Option.isSome_iff_exists]
    exact exists_congr fun d => Date.ofLiteral?_eq_some_iff
  · intro z hz
    obtain ⟨d, hd, rfl⟩ := Option.map_eq_some_iff.mp hz
    refine ⟨d, Date.ofLiteral?_eq_some_iff.mp hd, ?_, Date.ofIso?_iso d, ?_⟩
    · refine ⟨fourDigits d.year, twoDigits d.month, twoDigits d.day, by simp [Date.iso], rfl, rfl,
        rfl, ?_⟩
      simp [fourDigits, twoDigits, isDigit_digitChar]
    · rw [toIso?, Date.ofLiteral?, Date.ofIso?_iso, Option.map_some]

/-- A leap day whose year has fullwidth digits, and whose last digit is a Devanagari one. -/
theorem toIso?_exact_leap_day :
    toIso? (Text.ofString " 2024-02-2९") = some (Text.ofString "2024-02-29") ∧
    ∃ d, Denotes (Text.ofString "2024-02-2९") d ∧
      Date.ofIso? (Text.ofString "2024-02-29") = some d ∧
      toIso? (Text.ofString "2024-02-29") = some (Text.ofString "2024-02-29") := by
  have hread : toIso? (Text.ofString " 2024-02-2९") = some (Text.ofString "2024-02-29") := by
    decide
  have hstrip : (Text.ofString " 2024-02-2९").strip = Text.ofString "2024-02-2९" := by
    decide
  obtain ⟨d, hd, -, hiso, hsame⟩ := (toIso?_exact _).2.2 _ hread
  rw [hstrip] at hd
  exact ⟨hread, d, hd, hiso, hsame⟩

end SqlSnippet
