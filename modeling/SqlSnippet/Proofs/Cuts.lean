import SqlSnippet.Proofs.Grammar

/-!
# Cutting a clause in two

The parts of a clause between its marks are either made of words, points and blanks, or
they are free text that the next mark ends.  When a text that begins with a clause is cut
somewhere, the cut lies in one of these parts or behind the clause.  From this one can tell
what a reader finds when the text behind the cut is exchanged.
-/

namespace SqlSnippet

open Chars

/-- A character of a lead: of a word, a blank, or a point. -/
def isFrame (c : Char) : Bool := isWord c || isBlank c || c == '.'

theorem IsRun.append {p : Char → Bool} {t u : Text} (ht : IsRun p t) (hu : IsRun p u) :
    IsRun p (t ++ u) :=
  fun c hc => (List.mem_append.mp hc).elim (ht c) (hu c)

theorem IsRun.mono {p q : Char → Bool} {t : Text} (hpq : ∀ c, p c = true → q c = true)
    (ht : IsRun p t) : IsRun q t :=
  fun c hc => hpq c (ht c hc)

theorem IsRun.notMem {p : Char → Bool} {t : Text} (ht : IsRun p t) {c : Char}
    (hc : p c = false) : c ∉ t :=
  fun hmem => by simp [ht c hmem] at hc

theorem isFrame_of_isWord {c : Char} (h : isWord c = true) : isFrame c = true := by
  simp [isFrame, h]

theorem isFrame_of_isBlank {c : Char} (h : isBlank c = true) : isFrame c = true := by
  simp [isFrame, h]

theorem Column.WellFormed.isRun_isFrame {c : Column} (hc : c.WellFormed) :
    IsRun isFrame c.text := by
  have hname := hc.name.2.mono fun _ => isFrame_of_isWord
  rcases c with ⟨_ | table, name⟩
  · exact hname
  · have htable := (hc.qualifier table rfl).2.mono fun _ => isFrame_of_isWord
    have hpoint : IsRun isFrame ['.'] := by simp [IsRun, isFrame]
    simpa [Column.text] using htable.append (hpoint.append hname)

theorem RangeClause.WellFormed.isRun_lead {c : RangeClause} (hc : c.WellFormed) :
    IsRun isFrame c.lead :=
  ((hc.column.isRun_isFrame.append (hc.gap₁.2.mono fun _ => isFrame_of_isBlank)).append
    (hc.isName_betweenWord.2.mono fun _ => isFrame_of_isWord)).append
      (hc.gap₂.2.mono fun _ => isFrame_of_isBlank)

theorem RangeClause.WellFormed.isRun_middle {c : RangeClause} (hc : c.WellFormed) :
    IsRun isFrame c.middle :=
  ((hc.gap₃.2.mono fun _ => isFrame_of_isBlank).append
    (hc.isName_andWord.2.mono fun _ => isFrame_of_isWord)).append
      (hc.gap₄.2.mono fun _ => isFrame_of_isBlank)

theorem ListClause.WellFormed.isRun_lead {c : ListClause} (hc : c.WellFormed) :
    IsRun isFrame c.lead :=
  ((hc.column.isRun_isFrame.append (hc.gap₁.2.mono fun _ => isFrame_of_isBlank)).append
    (hc.isName_inWord.2.mono fun _ => isFrame_of_isWord)).append
      (hc.gap₂.mono fun _ => isFrame_of_isBlank)

/-- A character of the lead of a comparison, where the sign of equality and an opening
parenthesis may stand too. -/
def isCompareFrame (c : Char) : Bool := isFrame c || c == '=' || c == '('

theorem Comparison.WellFormed.isRun_lead {c : Comparison} (hc : c.WellFormed) :
    IsRun isCompareFrame c.lead := by
  have hframe : ∀ ch, isFrame ch = true → isCompareFrame ch = true := by
    intro ch hch
    simp [isCompareFrame, hch]
  have hblank : ∀ ch, isBlank ch = true → isCompareFrame ch = true :=
    fun ch hch => hframe ch (isFrame_of_isBlank hch)
  have hoperator : IsRun isCompareFrame c.operator := by
    rcases hc.operator with hsign | hlike
    · simp [hsign, IsRun, isCompareFrame]
    · exact (isName_of_sameLetters_like hlike).2.mono fun _ hch =>
        hframe _ (isFrame_of_isWord hch)
  have hopening : IsRun isCompareFrame c.opening := by
    obtain ⟨before, inside, hbefore, hinside, hopening | hopening⟩ := hc.opening
    · exact hopening ▸ hbefore.mono hblank
    · have hparen : IsRun isCompareFrame ['('] := by simp [IsRun, isCompareFrame]
      rw [hopening]
      exact (hbefore.mono hblank).append (hparen.append (hinside.mono hblank))
  exact (((hc.column.isRun_isFrame.mono hframe).append (hc.gap.mono hblank)).append
    hoperator).append hopening

theorem Column.WellFormed.exists_cons {c : Column} (hc : c.WellFormed) :
    ∃ ch tail, c.text = ch :: tail ∧ isWord ch = true := by
  rcases c with ⟨_ | table, name⟩
  · obtain ⟨ch, tail, rfl⟩ := List.exists_cons_of_ne_nil hc.name.1
    exact ⟨ch, tail, rfl, hc.name.2 ch (by simp)⟩
  · have htable := hc.qualifier table rfl
    obtain ⟨ch, tail, rfl⟩ := List.exists_cons_of_ne_nil htable.1
    exact ⟨ch, _, rfl, htable.2 ch (by simp)⟩

theorem Column.WellFormed.text_ne_nil {c : Column} (hc : c.WellFormed) : c.text ≠ [] := by
  obtain ⟨ch, tail, htext, -⟩ := hc.exists_cons
  simp [htext]

theorem RangeClause.WellFormed.lead_ne_nil {c : RangeClause} (hc : c.WellFormed) :
    c.lead ≠ [] := by
  simp [RangeClause.lead, hc.column.text_ne_nil]

theorem ListClause.WellFormed.lead_ne_nil {c : ListClause} (hc : c.WellFormed) :
    c.lead ≠ [] := by
  simp [ListClause.lead, hc.column.text_ne_nil]

theorem Comparison.WellFormed.lead_ne_nil {c : Comparison} (hc : c.WellFormed) :
    c.lead ≠ [] := by
  simp [Comparison.lead, hc.column.text_ne_nil]

theorem Clause.WellFormed.column {c : Clause} (hc : c.WellFormed) : c.column.WellFormed := by
  cases c with
  | range c => exact RangeClause.WellFormed.column hc
  | list c => exact ListClause.WellFormed.column hc
  | comparison c => exact Comparison.WellFormed.column hc

theorem Clause.WellFormed.exists_cons {c : Clause} (hc : c.WellFormed) :
    ∃ ch tail, c.text = ch :: tail ∧ isWord ch = true := by
  obtain ⟨ch, tail, htext, hword⟩ := hc.column.exists_cons
  have hbegins : ∃ more, c.text = c.column.text ++ more := by
    cases c with
    | range c =>
        exact ⟨c.gap₁ ++ (c.betweenWord ++ (c.gap₂ ++ (c.low.enclosed ++ c.upperText))),
          by simp [Clause.text, Clause.column, RangeClause.text, RangeClause.lowerText,
            RangeClause.lead]⟩
    | list c =>
        exact ⟨c.gap₁ ++ (c.inWord ++ (c.gap₂ ++ '(' :: (c.body ++ [')']))),
          by simp [Clause.text, Clause.column, ListClause.text, ListClause.lead]⟩
    | comparison c =>
        exact ⟨c.gap ++ (c.operator ++ (c.opening ++ (c.value.enclosed ++ c.closing))),
          by simp [Clause.text, Clause.column, Comparison.text, Comparison.lead]⟩
  obtain ⟨more, hmore⟩ := hbegins
  exact ⟨ch, tail ++ more, by rw [hmore, htext, List.cons_append], hword⟩

/-- The last character that is no blank. -/
def lastSolid (t : Text) : Option Char := (t.filter fun c => !isBlank c).getLast?

theorem lastSolid_append (t u : Text) :
    lastSolid (t ++ u) = (lastSolid u).or (lastSolid t) := by
  simp [lastSolid, List.getLast?_append]

theorem lastSolid_append_of_eq_some {t u : Text} {c : Char} (h : lastSolid u = some c) :
    lastSolid (t ++ u) = some c := by
  rw [lastSolid_append, h, Option.some_or]

theorem lastSolid_eq_none {t : Text} (h : IsRun isBlank t) : lastSolid t = none := by
  rw [lastSolid, List.getLast?_eq_none_iff, List.filter_eq_nil_iff]
  intro c hc
  simp [h c hc]

theorem lastSolid_append_blanks (t : Text) {u : Text} (h : IsRun isBlank u) :
    lastSolid (t ++ u) = lastSolid t := by
  rw [lastSolid_append, lastSolid_eq_none h, Option.none_or]

theorem lastSolid_append_singleton (t : Text) {c : Char} (h : isBlank c = false) :
    lastSolid (t ++ [c]) = some c := by
  simp [lastSolid, h]

theorem SameLetters.lastSolid (word : Text) {read : Text} {p : Char}
    (h : SameLetters (word ++ [p]) read) (hp : p.isLower = true) :
    ∃ c, lastSolid read = some c ∧ sameLetter p c = true := by
  have hreverse := List.forall₂_reverse_iff.mpr h
  rw [List.reverse_append, List.reverse_singleton, List.singleton_append] at hreverse
  cases hread : read.reverse with
  | nil =>
      rw [hread] at hreverse
      cases hreverse
  | cons c tail =>
      rw [hread] at hreverse
      cases hreverse with
      | cons hc _ =>
          refine ⟨c, ?_, hc⟩
          rw [List.reverse_eq_cons_iff.mp hread]
          exact lastSolid_append_singleton _
            (isBlank_eq_false_of_isWord (isWord_of_sameLetter hp hc))

theorem RangeClause.WellFormed.lastSolid_lead {c : RangeClause} (hc : c.WellFormed) :
    ∃ ch, lastSolid c.lead = some ch ∧ sameLetter 'n' ch = true := by
  obtain ⟨ch, hlast, hch⟩ :=
    SameLetters.lastSolid ['b', 'e', 't', 'w', 'e', 'e'] hc.betweenWord (by decide)
  refine ⟨ch, ?_, hch⟩
  rw [RangeClause.lead, lastSolid_append_blanks _ hc.gap₂.2]
  exact lastSolid_append_of_eq_some hlast

theorem RangeClause.WellFormed.lastSolid_middle {c : RangeClause} (hc : c.WellFormed) :
    ∃ ch, lastSolid c.middle = some ch ∧ sameLetter 'd' ch = true := by
  obtain ⟨ch, hlast, hch⟩ :=
    SameLetters.lastSolid ['a', 'n'] hc.andWord (by decide)
  refine ⟨ch, ?_, hch⟩
  rw [RangeClause.middle, lastSolid_append_blanks _ hc.gap₄.2]
  exact lastSolid_append_of_eq_some hlast

theorem ListClause.WellFormed.lastSolid_lead {c : ListClause} (hc : c.WellFormed) :
    ∃ ch, lastSolid c.lead = some ch ∧ sameLetter 'n' ch = true := by
  obtain ⟨ch, hlast, hch⟩ := SameLetters.lastSolid ['i'] hc.inWord (by decide)
  refine ⟨ch, ?_, hch⟩
  rw [ListClause.lead, lastSolid_append_blanks _ hc.gap₂]
  exact lastSolid_append_of_eq_some hlast

theorem IsOperator.lastSolid {operator : Text} (h : IsOperator operator) :
    ∃ ch, lastSolid operator = some ch ∧ (ch = '=' ∨ sameLetter 'e' ch = true) := by
  rcases h with rfl | hlike
  · exact ⟨'=', by decide, Or.inl rfl⟩
  · obtain ⟨ch, hlast, hch⟩ :=
      SameLetters.lastSolid ['l', 'i', 'k'] hlike (by decide)
    exact ⟨ch, hlast, Or.inr hch⟩

theorem Comparison.WellFormed.lastSolid_lead {c : Comparison} (hc : c.WellFormed) :
    ∃ ch, lastSolid c.lead = some ch ∧ (ch = '(' ∨ ch = '=' ∨ sameLetter 'e' ch = true) := by
  obtain ⟨before, inside, hbefore, hinside, hopening | hopening⟩ := hc.opening
  · obtain ⟨ch, hlast, hch⟩ := hc.operator.lastSolid
    refine ⟨ch, ?_, Or.inr hch⟩
    rw [Comparison.lead, hopening, lastSolid_append_blanks _ hbefore]
    exact lastSolid_append_of_eq_some hlast
  · refine ⟨'(', ?_, Or.inl rfl⟩
    have hlead : c.lead =
        (c.column.text ++ c.gap ++ c.operator ++ before ++ ['(']) ++ inside := by
      simp [Comparison.lead, hopening]
    rw [hlead, lastSolid_append_blanks _ hinside]
    exact lastSolid_append_singleton _ (by decide)

/-- In front of the parenthesis of a comparison stands its operator. -/
theorem Comparison.WellFormed.lastSolid_of_lead_eq {c : Comparison} (hc : c.WellFormed)
    {before after : Text} (hlead : c.lead = before ++ '(' :: after) :
    ∃ ch, lastSolid before = some ch ∧ (ch = '=' ∨ sameLetter 'e' ch = true) := by
  have hhead : '(' ∉ c.column.text ++ c.gap ++ c.operator := by
    have hoperator : '(' ∉ c.operator := by
      rcases hc.operator with hsign | hlike
      · simp [hsign]
      · exact (isName_of_sameLetters_like hlike).2.notMem (by decide)
    simp only [List.mem_append, not_or]
    exact ⟨⟨hc.column.isRun_isFrame.notMem (by decide), hc.gap.notMem (by decide)⟩, hoperator⟩
  obtain ⟨blanks, inside, hblanks, hinside, hopening | hopening⟩ := hc.opening
  · have hmem : '(' ∈ c.lead := by simp [hlead]
    rw [Comparison.lead, hopening, List.mem_append] at hmem
    exact (hmem.elim hhead (hblanks.notMem (by decide))).elim
  · have heq : (c.column.text ++ c.gap ++ c.operator ++ blanks) ++ '(' :: inside =
        before ++ '(' :: after := by
      rw [← hlead, Comparison.lead, hopening]
      simp
    -- There is one parenthesis in all, so it stands at the same place on both sides.
    obtain ⟨rfl, -, -⟩ := (List.append_cons_inj_of_notMem
      (List.not_mem_append hhead (hblanks.notMem (by decide)))
      (hinside.notMem (by decide))).mp heq
    obtain ⟨ch, hlast, hch⟩ := hc.operator.lastSolid
    refine ⟨ch, ?_, hch⟩
    rw [lastSolid_append_blanks _ hblanks]
    exact lastSolid_append_of_eq_some hlast

/-! ## Cuts -/

/-- Two texts that go on behind their first mark are equal on both sides of it. -/
theorem eq_of_append_mark_eq {mark : Char} {t t' u u' : Text} (ht : mark ∉ t)
    (ht' : mark ∉ t') (h : t ++ mark :: u = t' ++ mark :: u') : t = t' ∧ u = u' := by
  obtain ⟨_, hdrop, htake⟩ := until_eq_iff.mpr ⟨h, ht'⟩
  obtain ⟨_, hdrop', htake'⟩ := until_eq_iff.mpr ⟨(rfl : t ++ mark :: u = t ++ mark :: u), ht⟩
  exact ⟨htake'.symm.trans htake, (List.cons.inj (hdrop'.symm.trans hdrop)).2⟩

/-- A cut lies in front of a mark or behind it. -/
theorem cut_at_mark {front behind part rest : Text} {mark : Char}
    (h : front ++ behind = part ++ mark :: rest) :
    (∃ tail, part = front ++ tail ∧ behind = tail ++ mark :: rest) ∨
      ∃ tail, front = part ++ mark :: tail ∧ rest = tail ++ behind := by
  rcases List.append_eq_append_iff.mp h with ⟨tail, hpart, hbehind⟩ | ⟨tail, hfront, hrest⟩
  · exact Or.inl ⟨tail, hpart, hbehind⟩
  · cases tail with
    | nil =>
        refine Or.inl ⟨[], ?_, ?_⟩
        · simpa using hfront.symm
        · simpa using hrest.symm
    | cons ch tail =>
        obtain ⟨rfl, hbehind⟩ := List.cons.inj hrest
        exact Or.inr ⟨tail, hfront, hbehind⟩

theorem exists_append_of_length_le {front behind part rest : Text}
    (h : front ++ behind = part ++ rest) (hle : part.length ≤ front.length) :
    ∃ tail, front = part ++ tail ∧ rest = tail ++ behind := by
  rcases List.append_eq_append_iff.mp h with ⟨tail, hpart, hbehind⟩ | hfront
  · have htail : tail = [] := by
      apply List.eq_nil_of_length_eq_zero
      rw [hpart, List.length_append] at hle
      omega
    rw [htail] at hpart hbehind
    exact ⟨[], by simpa using hpart.symm, hbehind.symm⟩
  · exact hfront

theorem head?_append_congr {part : Text} (hpart : part ≠ []) (behind behind' : Text) :
    (part ++ behind).head? = (part ++ behind').head? := by
  obtain ⟨c, tail, rfl⟩ := List.exists_cons_of_ne_nil hpart
  rfl

/-- The place of a cut in a text that begins with a range: in front of its first literal,
in that literal, between the literals, in the second one, or behind the range. -/
inductive RangeClause.Cut (c : RangeClause) (rest front behind : Text) : Prop
  | lead (y : Text) (hlead : c.lead = front ++ y)
      (hbehind : behind = y ++ quoteMark :: (c.low ++ quoteMark :: (c.upperText ++ rest)))
  | low (x y : Text) (hfront : front = c.lead ++ quoteMark :: x) (hlow : c.low = x ++ y)
      (hbehind : behind = y ++ quoteMark :: (c.upperText ++ rest))
  | middle (x y : Text) (hfront : front = c.lowerText ++ x) (hmiddle : c.middle = x ++ y)
      (hbehind : behind = y ++ quoteMark :: (c.high ++ quoteMark :: rest))
  | high (x y : Text) (hfront : front = c.lowerText ++ (c.middle ++ quoteMark :: x))
      (hhigh : c.high = x ++ y) (hbehind : behind = y ++ quoteMark :: rest)
  | behind (x : Text) (hfront : front = c.text ++ x) (hrest : rest = x ++ behind)

theorem RangeClause.cut {c : RangeClause} {rest front behind : Text}
    (h : front ++ behind = c.text ++ rest) : c.Cut rest front behind := by
  have htext : front ++ behind =
      c.lead ++ quoteMark :: (c.low ++ quoteMark :: (c.upperText ++ rest)) := by
    simpa [RangeClause.text, RangeClause.lowerText, Text.enclosed] using h
  rcases cut_at_mark htext with ⟨y, hlead, hbehind⟩ | ⟨x, rfl, hlow⟩
  · exact .lead y hlead hbehind
  rcases cut_at_mark hlow.symm with ⟨y, hlow, hbehind⟩ | ⟨x, rfl, hupper⟩
  · exact .low _ y rfl hlow hbehind
  have hupper : x ++ behind =
      c.middle ++ quoteMark :: (c.high ++ quoteMark :: rest) := by
    simpa [RangeClause.upperText, Text.enclosed] using hupper.symm
  have hlower : ∀ z, c.lead ++ quoteMark :: (c.low ++ quoteMark :: z) = c.lowerText ++ z := by
    simp [RangeClause.lowerText, Text.enclosed]
  rcases cut_at_mark hupper with ⟨y, hmiddle, hbehind⟩ | ⟨x, rfl, hhigh⟩
  · exact .middle x y (hlower x) hmiddle hbehind
  rcases cut_at_mark hhigh.symm with ⟨y, hhigh, hbehind⟩ | ⟨x, rfl, hrest⟩
  · exact .high _ y (hlower _) hhigh hbehind
  · refine .behind x ?_ hrest
    rw [hlower]
    simp [RangeClause.text, RangeClause.upperText, Text.enclosed]

/-- The place of a cut in a text that begins with a list: in front of its parenthesis, in its
body, or behind the list. -/
inductive ListClause.Cut (c : ListClause) (rest front behind : Text) : Prop
  | lead (y : Text) (hlead : c.lead = front ++ y)
      (hbehind : behind = y ++ '(' :: (c.body ++ ')' :: rest))
  | body (x y : Text) (hfront : front = c.lead ++ '(' :: x) (hbody : c.body = x ++ y)
      (hbehind : behind = y ++ ')' :: rest)
  | behind (x : Text) (hfront : front = c.text ++ x) (hrest : rest = x ++ behind)

theorem ListClause.cut {c : ListClause} {rest front behind : Text}
    (h : front ++ behind = c.text ++ rest) : c.Cut rest front behind := by
  have htext : front ++ behind = c.lead ++ '(' :: (c.body ++ ')' :: rest) := by
    simpa [ListClause.text] using h
  rcases cut_at_mark htext with ⟨y, hlead, hbehind⟩ | ⟨x, rfl, hbody⟩
  · exact .lead y hlead hbehind
  rcases cut_at_mark hbody.symm with ⟨y, hbody, hbehind⟩ | ⟨x, rfl, hrest⟩
  · exact .body _ y rfl hbody hbehind
  · exact .behind x (by simp [ListClause.text]) hrest

/-- The place of a cut in a text that begins with a comparison: in front of its literal, in
the literal, or behind it. -/
inductive Comparison.Cut (c : Comparison) (rest front behind : Text) : Prop
  | lead (y : Text) (hlead : c.lead = front ++ y)
      (hbehind : behind = y ++ quoteMark :: (c.value ++ quoteMark :: (c.closing ++ rest)))
  | value (x y : Text) (hfront : front = c.lead ++ quoteMark :: x) (hvalue : c.value = x ++ y)
      (hbehind : behind = y ++ quoteMark :: (c.closing ++ rest))
  | behind (x : Text) (hfront : front = c.lead ++ (c.value.enclosed ++ x))
      (hclosing : c.closing ++ rest = x ++ behind)

theorem Comparison.cut {c : Comparison} {rest front behind : Text}
    (h : front ++ behind = c.text ++ rest) : c.Cut rest front behind := by
  have htext : front ++ behind =
      c.lead ++ quoteMark :: (c.value ++ quoteMark :: (c.closing ++ rest)) := by
    simpa [Comparison.text, Text.enclosed] using h
  rcases cut_at_mark htext with ⟨y, hlead, hbehind⟩ | ⟨x, rfl, hvalue⟩
  · exact .lead y hlead hbehind
  rcases cut_at_mark hvalue.symm with ⟨y, hvalue, hbehind⟩ | ⟨x, rfl, hclosing⟩
  · exact .value _ y rfl hvalue hbehind
  · exact .behind x (by simp [Text.enclosed]) hclosing

theorem notMem_of_eq_append {part x y : Text} {c : Char} (h : part = x ++ y) (hc : c ∉ part) :
    c ∉ x ∧ c ∉ y := by
  rw [h, List.mem_append, not_or] at hc
  exact hc

/-- A part that a mark does not occur in is empty when the mark follows the cut. -/
theorem eq_nil_of_mark {mark : Char} {y u v : Text} (hy : mark ∉ y)
    (h : mark :: u = y ++ v) : y = [] := by
  cases y with
  | nil => rfl
  | cons c y =>
      obtain ⟨rfl, -⟩ := List.cons.inj h
      exact absurd List.mem_cons_self hy

/-! ## Exchanging the text behind a clause -/

/-- A closing is not longer in front of another text that begins with the same character
or does not go on with a closing. -/
theorem IsClosing.congr {closing front behind behind' : Text}
    (h : IsClosing closing (front ++ behind))
    (hbehind : behind.head? = behind'.head? ∨ StopsAt isClosingChar behind') :
    IsClosing closing (front ++ behind') := by
  rcases h with hparen | ⟨hrun, hstop⟩
  · exact Or.inl hparen
  · refine Or.inr ⟨hrun, ?_⟩
    cases front with
    | nil =>
        rcases hbehind with hhead | hends
        · rw [List.nil_append, StopsAt, ← hhead]
          exact hstop
        · exact hends
    | cons c front => exact StopsAt.cons (hstop c rfl) (front ++ behind')

/-- Reading a clause does not look behind it, except that a comparison looks for the rest
of its closing. -/
theorem Form.read?_congr {f : Form} {front behind behind' rest : Text} {c : Clause}
    (h : f.read? (front ++ behind) = some (c, rest))
    (hle : c.text.length ≤ front.length)
    (hbehind : behind.head? = behind'.head? ∨ StopsAt isClosingChar behind') :
    ∃ rest', f.read? (front ++ behind') = some (c, rest') := by
  obtain ⟨hform, htext, hc, hcloses⟩ := Form.read?_eq_some_iff.mp h
  obtain ⟨tail, rfl, rfl⟩ := exists_append_of_length_le htext hle
  refine ⟨tail ++ behind', Form.read?_eq_some_iff.mpr ⟨hform, by simp, hc, ?_⟩⟩
  cases c with
  | range c => trivial
  | list c => trivial
  | comparison c => exact IsClosing.congr hcloses hbehind

/-- Whatever can be read when `front` goes on with `behind'` could be read when it went on
with `behind`, unless something was read then that reached over the end of `front`. -/
def Form.ReadsAlike (f : Form) (front behind behind' : Text) : Prop :=
  ∀ c rest', f.read? (front ++ behind') = some (c, rest') →
    ∃ c' rest, f.read? (front ++ behind) = some (c', rest) ∧
      (c' = c ∨ front.length < c'.text.length)

theorem Form.ReadsAlike.of_append {f : Form} {front part behind behind' : Text}
    (h : f.ReadsAlike (front ++ part) behind behind') :
    f.ReadsAlike front (part ++ behind) (part ++ behind') := by
  intro c rest' hread
  rw [← List.append_assoc] at hread ⊢
  obtain ⟨c', rest, hread, hsame | hlong⟩ := h c rest' hread
  · exact ⟨c', rest, hread, Or.inl hsame⟩
  · refine ⟨c', rest, hread, Or.inr ?_⟩
    rw [List.length_append] at hlong
    omega

theorem RangeClause.readsAlike {front behind behind' : Text}
    (h : ∀ (c : RangeClause) (rest' : Text), c.WellFormed → front ++ behind' = c.text ++ rest' →
      ∃ (c' : RangeClause) (rest : Text), c'.WellFormed ∧ front ++ behind = c'.text ++ rest ∧
        (c' = c ∨ front.length < c'.text.length)) :
    Form.range.ReadsAlike front behind behind' := by
  intro c rest' hread
  obtain ⟨hform, htext, hc, -⟩ := Form.read?_eq_some_iff.mp hread
  cases c with
  | list c => cases hform
  | comparison c => cases hform
  | range c =>
      obtain ⟨c', rest, hc', htext', hsame⟩ := h c rest' hc htext
      refine ⟨.range c', rest, Form.read?_eq_some_iff.mpr ⟨rfl, htext', hc', trivial⟩, ?_⟩
      exact hsame.imp_left (congrArg Clause.range)

theorem ListClause.readsAlike {front behind behind' : Text}
    (h : ∀ (c : ListClause) (rest' : Text), c.WellFormed → front ++ behind' = c.text ++ rest' →
      ∃ (c' : ListClause) (rest : Text), c'.WellFormed ∧ front ++ behind = c'.text ++ rest ∧
        (c' = c ∨ front.length < c'.text.length)) :
    Form.list.ReadsAlike front behind behind' := by
  intro c rest' hread
  obtain ⟨hform, htext, hc, -⟩ := Form.read?_eq_some_iff.mp hread
  cases c with
  | range c => cases hform
  | comparison c => cases hform
  | list c =>
      obtain ⟨c', rest, hc', htext', hsame⟩ := h c rest' hc htext
      refine ⟨.list c', rest, Form.read?_eq_some_iff.mpr ⟨rfl, htext', hc', trivial⟩, ?_⟩
      exact hsame.imp_left (congrArg Clause.list)

theorem Comparison.readsAlike {front behind behind' : Text}
    (h : ∀ (c : Comparison) (rest' : Text), c.WellFormed → IsClosing c.closing rest' →
      front ++ behind' = c.text ++ rest' →
        ∃ (c' : Comparison) (rest : Text), c'.WellFormed ∧ IsClosing c'.closing rest ∧
          front ++ behind = c'.text ++ rest ∧ (c' = c ∨ front.length < c'.text.length)) :
    Form.comparison.ReadsAlike front behind behind' := by
  intro c rest' hread
  obtain ⟨hform, htext, hc, hcloses⟩ := Form.read?_eq_some_iff.mp hread
  cases c with
  | range c => cases hform
  | list c => cases hform
  | comparison c =>
      obtain ⟨c', rest, hc', hcloses', htext', hsame⟩ := h c rest' hc hcloses htext
      refine ⟨.comparison c', rest,
        Form.read?_eq_some_iff.mpr ⟨rfl, htext', hc', hcloses'⟩, ?_⟩
      exact hsame.imp_left (congrArg Clause.comparison)

end SqlSnippet
