import SqlSnippet.Edit.Snippet
import SqlSnippet.Proofs.Lines
import SqlSnippet.Proofs.Members
import SqlSnippet.Proofs.Rows

/-!
# A new value takes the place of the old one

The parameters of a text are found by one kind of reading and replaced by another: a
literal is searched for, a bound is looked for behind its keyword, a list is read again for
its field.  For a parameter of the text at hand all of these end up at the literal that the
parameter was read from, whatever else the text holds.  So an edit exchanges exactly the
characters of that literal, and never has to fall back on anything.
-/

namespace SqlSnippet

open Chars

/-- A clause around the literal of one of its parameters. -/
structure Slot where
  before : Text
  literal : Text
  after : Text
deriving DecidableEq, Repr

/-- The place that the literal of a parameter of some kind has in a clause. -/
def Clause.slot? : Clause → Kind → Option Slot
  | .range c, .rangeStart => some ⟨c.lead, c.low.enclosed, c.upperText⟩
  | .range c, .rangeEnd => some ⟨c.lowerText ++ c.middle, c.high.enclosed, []⟩
  | .list c, .list => some ⟨c.lead, '(' :: c.body ++ [')'], []⟩
  | .comparison c, .simple => some ⟨c.lead, c.value.enclosed, c.closing⟩
  | _, _ => none

/-- What is written for a new value of a parameter. -/
def Parameter.written (p : Parameter) (value : Text) : Text :=
  match p.kind with
  | .list => '(' :: joinMembers (quoteMembers value) ++ [')']
  | _ => (p.target.prepare value).quoted

theorem Clause.text_eq_of_slot? {c : Clause} {kind : Kind} {slot : Slot}
    (h : c.slot? kind = some slot) : c.text = slot.before ++ (slot.literal ++ slot.after) := by
  cases c <;> cases kind <;> cases h <;>
    simp [Clause.text, RangeClause.text, RangeClause.lowerText, RangeClause.upperText,
      ListClause.text, Comparison.text]

/-- Every parameter of a clause has its place there. -/
theorem Hit.exists_slot {t : Text} {h : Hit} {p : Parameter} (hp : p ∈ h.parameters t) :
    ∃ slot, h.clause.slot? p.kind = some slot := by
  rcases h with ⟨start, c | c | c⟩ <;>
    simp only [Hit.parameters, Hit.whole, List.mem_cons, List.not_mem_nil, or_false] at hp
  · rcases hp with rfl | rfl
    · exact ⟨_, rfl⟩
    · exact ⟨_, rfl⟩
  · subst hp
    exact ⟨_, rfl⟩
  · subst hp
    exact ⟨_, rfl⟩

/-- A text that begins with a mark is found where the first mark is, if it stands there. -/
theorem Text.find?_append {mark : Char} (needle : Text) {front : Text} (h : mark ∉ front)
    (rest : Text) :
    find? (mark :: needle) (front ++ (mark :: needle ++ rest)) = some front.length := by
  induction front with
  | nil =>
      have hprefix : (mark :: needle).isPrefixOf (mark :: (needle ++ rest)) = true :=
        List.isPrefixOf_iff_prefix.mpr (List.prefix_append (mark :: needle) rest)
      rw [List.nil_append, List.cons_append, find?, if_pos hprefix, List.length_nil]
  | cons c front ih =>
      rw [List.mem_cons, not_or] at h
      have hprefix :
          ¬ (mark :: needle).isPrefixOf (c :: (front ++ (mark :: needle ++ rest))) = true := by
        rw [List.isPrefixOf_iff_prefix, List.cons_prefix_cons]
        exact fun heq => h.1 heq.1
      rw [List.cons_append, find?, if_neg hprefix, ih h.2]
      rfl

theorem replaceLiteral_append {target : Target} {front lead : Text}
    (hstart : target.start = front.length) (hlead : quoteMark ∉ lead)
    (hvalue : quoteMark ∉ target.value) (value rest : Text) :
    replaceLiteral (front ++ (lead ++ (target.value.enclosed ++ rest))) target value =
      ⟨.ok (front ++ (lead ++ (value.quoted ++ rest))), false⟩ := by
  have hold := Text.quoted_eq_enclosed hvalue
  have hfind : Text.findFrom? target.value.enclosed
      (front ++ (lead ++ (target.value.enclosed ++ rest))) front.length =
        some (front ++ lead).length := by
    have hneedle := Text.find?_append (target.value ++ [quoteMark]) hlead rest
    rw [Text.findFrom?, Text.position_natCast (by simp), List.drop_left, Text.enclosed,
      List.cons_append, hneedle, List.length_append, Nat.add_comm]
    rfl
  have hsplit : front ++ (lead ++ (target.value.enclosed ++ rest)) =
      (front ++ lead) ++ (target.value.enclosed ++ rest) := by simp
  simp only [replaceLiteral, hstart, hold, hfind]
  rw [hsplit, Text.splice, List.take_left, ← List.drop_drop, List.drop_left, List.drop_left]
  simp

theorem readBound?_eq_some_iff {keyword value t before rest : Text} :
    readBound? keyword value t = some (before, rest) ↔
      ∃ word gap literal, before = word ++ gap ∧ t = word ++ (gap ++ (literal ++ rest)) ∧
        SameLetters keyword word ∧ IsGap gap ∧ StopsAt isBlank (literal ++ rest) ∧
          SameLetters value.enclosed literal := by
  simp only [readBound?, Option.bind_eq_bind, Option.bind_eq_some_iff, Prod.exists,
    Text.readFolded?_eq_some_iff, readGap?_eq_some_iff, Option.some.injEq, Prod.mk.injEq]
  constructor
  · rintro ⟨word, _, ⟨rfl, hword⟩, gap, _, ⟨rfl, hgap, hstop⟩, literal, _, ⟨rfl, hliteral⟩,
      rfl, rfl⟩
    exact ⟨word, gap, literal, rfl, rfl, hword, hgap, hstop, hliteral⟩
  · rintro ⟨word, gap, literal, rfl, rfl, hword, hgap, hstop, hliteral⟩
    exact ⟨word, _, ⟨rfl, hword⟩, gap, _, ⟨rfl, hgap, hstop⟩, literal, _, ⟨rfl, hliteral⟩,
      rfl, rfl⟩

theorem IsName.endsInWord_append {name : Text} (h : IsName name) (front : Text) :
    endsInWord (front ++ name) = true := by
  rw [SqlSnippet.endsInWord_append front h.1, endsInWord, List.getLast?_eq_some_getLast h.1]
  exact h.2 _ (List.getLast_mem h.1)

theorem IsRun.endsInWord_eq_false {blanks : Text} (h : IsRun isBlank blanks) :
    endsInWord blanks = false := by
  rw [endsInWord, Option.any_eq_false]
  intro c hc
  simpa using isWord_eq_false_of_isBlank (h c (List.mem_of_getLast? hc))

/-- The keyword and the blanks behind it reach up to the first quote, so a bound can be
read before a quote in one way only. -/
private theorem eq_of_readBound? {keyword value front word gap behind before rest : Text}
    (hkeyword : keyword ≠ []) (hletters : keyword.all Char.isLower = true)
    (hfront : quoteMark ∉ front) (hword : SameLetters keyword word) (hgap : IsGap gap)
    (hread : readBound? keyword value (front ++ (word ++ (gap ++ quoteMark :: behind))) =
      some (before, rest)) : front = [] := by
  obtain ⟨word', gap', literal, -, htext, hword', hgap', -, hliteral⟩ :=
    readBound?_eq_some_iff.mp hread
  have hname := hword.isName hletters hkeyword
  have hname' := hword'.isName hletters hkeyword
  obtain ⟨body, rfl⟩ : ∃ body, literal = quoteMark :: body := by
    cases hliteral with
    | cons hquote _ => exact ⟨_, by rw [eq_quoteMark_of_sameLetter hquote]⟩
  have hclear : ∀ {name blanks : Text}, IsName name → IsGap blanks →
      quoteMark ∉ name ++ blanks := fun hname hblanks =>
    List.not_mem_append (hname.2.notMem (by decide)) (hblanks.2.notMem (by decide))
  have hmarks : (front ++ (word ++ gap)) ++ quoteMark :: behind =
      (word' ++ gap') ++ quoteMark :: (body ++ rest) := by
    simpa using htext
  have heq : (front ++ word) ++ gap = word' ++ gap' := by
    rw [List.append_assoc]
    exact (eq_of_append_mark_eq (List.not_mem_append hfront (hclear hname hgap))
      (hclear hname' hgap') hmarks).1
  have hlength : word'.length = word.length := hword'.length_eq.symm.trans hword.length_eq
  -- The blanks are the same in both, so the words have different lengths unless `front`
  -- is empty.
  rcases List.append_eq_append_iff.mp heq with ⟨more, rfl, -⟩ | ⟨more, hwords, rfl⟩
  · apply List.eq_nil_of_length_eq_zero
    simp only [List.length_append] at hlength
    omega
  · cases more with
    | nil =>
        have := congrArg List.length hwords
        simp only [List.length_append, List.length_nil] at this
        exact List.eq_nil_of_length_eq_zero (by omega)
    | cons b more =>
        have hends := hname.endsInWord_append front
        have hblanks : IsRun isBlank (b :: more) :=
          fun d hd => hgap'.2 d (List.mem_append_left gap hd)
        rw [hwords, endsInWord_append word' (List.cons_ne_nil b more),
          hblanks.endsInWord_eq_false] at hends
        cases hends

/-- A bound that stands before the first quote of a text is the first that can be found
there. -/
theorem findBound?_append {keyword front word gap : Text} (hkeyword : keyword ≠ [])
    (hletters : keyword.all Char.isLower = true) (hfront : quoteMark ∉ front)
    (hword : SameLetters keyword word) (hgap : IsGap gap) (value rest : Text) :
    findBound? keyword value (front ++ (word ++ (gap ++ (value.enclosed ++ rest)))) =
      some (front ++ (word ++ gap), rest) := by
  have hhere : readBound? keyword value (word ++ (gap ++ (value.enclosed ++ rest))) =
      some (word ++ gap, rest) :=
    readBound?_eq_some_iff.mpr ⟨word, gap, value.enclosed, rfl, rfl, hword, hgap,
      stopsAt_isBlank_enclosed value rest, SameLetters.refl _⟩
  induction front with
  | nil =>
      obtain ⟨c, tail, rfl⟩ := List.exists_cons_of_ne_nil (hword.ne_nil hkeyword)
      rw [List.nil_append, List.cons_append, findBound?, ← List.cons_append, hhere]
      rfl
  | cons c front ih =>
      have hnone : readBound? keyword value
          (c :: front ++ (word ++ (gap ++ (value.enclosed ++ rest)))) = none := by
        rw [Option.eq_none_iff_forall_ne_some]
        rintro ⟨before, rest'⟩ hread
        exact List.cons_ne_nil c front
          (eq_of_readBound? hkeyword hletters hfront hword hgap hread)
      rw [List.cons_append] at hnone ⊢
      rw [findBound?, hnone]
      simp only [ih (fun hmem => hfront (List.mem_cons_of_mem c hmem)), Option.map_some,
        List.cons_append]

theorem searchStart_length (front behind : Text) :
    searchStart (front ++ behind) (front.length : Int) = front.length := by
  rw [searchStart, Int.toNat_natCast, List.length_append]
  omega

theorem isSearchable_length (front behind : Text) :
    isSearchable (front ++ behind) (front.length : Int) = true := by
  have hbound : 0 ≤ offsetBound := by decide
  simp only [isSearchable, List.length_append, Bool.and_eq_true, Bool.or_eq_true,
    decide_eq_true_eq]
  omega

theorem replaceBound_append {target : Target} {keyword front lead word gap : Text}
    (hstart : target.start = front.length) (hkeyword : keyword ≠ [])
    (hletters : keyword.all Char.isLower = true) (hlead : quoteMark ∉ lead)
    (hword : SameLetters keyword word) (hgap : IsGap gap) (value rest : Text) :
    replaceBound (front ++ (lead ++ (word ++ (gap ++ (target.value.enclosed ++ rest)))))
        target keyword value =
      ⟨.ok (front ++ (lead ++ (word ++ (gap ++ (value.quoted ++ rest))))), false⟩ := by
  have hfind := findBound?_append hkeyword hletters hlead hword hgap target.value rest
  simp [replaceBound, hstart, isSearchable_length, searchStart_length, hfind]

/-! ## Reading a list again -/

theorem exchangeBody_append {lead body : Text} (hlead : '(' ∉ lead) (hbody : ')' ∉ body)
    (body' : Text) :
    exchangeBody body' (lead ++ '(' :: body ++ [')']) = lead ++ '(' :: body' ++ [')'] := by
  induction lead with
  | nil =>
      obtain ⟨c, hdrop, -⟩ := until_eq_iff.mpr ⟨(rfl : body ++ ')' :: [] = _), hbody⟩
      rw [List.nil_append, List.cons_append, exchangeBody, if_pos rfl, hdrop]
      simp
  | cons c lead ih =>
      rw [List.mem_cons, not_or] at hlead
      simpa [exchangeBody, Ne.symm hlead.1] using ih hlead.2

theorem readBareList?_append {name gap₁ inWord gap₂ body : Text} (hgap₁ : IsGap gap₁)
    (hin : SameLetters inLetters inWord) (hgap₂ : IsRun isBlank gap₂) (hbody : ')' ∉ body)
    (rest : Text) :
    readBareList? name
        (name ++ (gap₁ ++ (inWord ++ (gap₂ ++ '(' :: (body ++ ')' :: rest))))) =
      some (name ++ gap₁ ++ inWord ++ gap₂ ++ '(' :: body ++ [')'], rest) := by
  let afterGap := '(' :: (body ++ ')' :: rest)
  let afterIn := gap₂ ++ afterGap
  have hisName : IsName inWord := hin.isName (by decide) (by decide)
  have hname : Text.readFolded? name (name ++ (gap₁ ++ (inWord ++ afterIn))) =
      some (name, gap₁ ++ (inWord ++ afterIn)) :=
    Text.readFolded?_eq_some_iff.mpr ⟨rfl, SameLetters.refl name⟩
  have hgap : readGap? (gap₁ ++ (inWord ++ afterIn)) = some (gap₁, inWord ++ afterIn) :=
    readGap?_eq_some_iff.mpr ⟨rfl, hgap₁, hisName.stopsAt_isBlank _⟩
  have hword : Text.readFolded? ['i', 'n'] (inWord ++ afterIn) = some (inWord, afterIn) :=
    Text.readFolded?_eq_some_iff.mpr ⟨rfl, hin⟩
  obtain ⟨htake, hdrop⟩ := span_eq_iff.mpr
    ⟨(rfl : afterIn = gap₂ ++ afterGap), hgap₂, StopsAt.cons (by decide) _⟩
  have hparens : readBody? afterGap = some (body, rest) :=
    readBody?_eq_some_iff.mpr ⟨rfl, hbody⟩
  simp only [readBareList?, Option.bind_eq_bind, hname, Option.bind_some, hgap, hword, htake,
    hdrop, hparens, afterIn, afterGap]

theorem readListOf?_of_bare {t name rest : Text} (hname : readWord? t = some (name, rest))
    (hpoint : rest.head? ≠ some '.') (field : Text) :
    readListOf? field t = readBareList? field t := by
  rw [readListOf?, hname]
  cases rest with
  | nil => rfl
  | cons c rest =>
      have hc : c ≠ '.' := by simpa using hpoint
      simp [hc]

theorem readListOf?_of_qualified {field t table rest read rest' : Text}
    (htable : readWord? t = some (table, '.' :: rest))
    (hread : readBareList? field rest = some (read, rest')) :
    readListOf? field t = some (table ++ '.' :: read, rest') := by
  simp only [readListOf?, htable, hread, Option.bind_eq_bind, Option.bind_some,
    Option.map_some]

theorem ListClause.WellFormed.readListOf?_append {c : ListClause} (hc : c.WellFormed)
    (rest : Text) :
    readListOf? c.column.name (c.text ++ rest) = some (c.text, rest) := by
  let behind := c.gap₁ ++ (c.inWord ++ (c.gap₂ ++ '(' :: (c.body ++ ')' :: rest)))
  have hbare : readBareList? c.column.name (c.column.name ++ behind) = some
      (c.column.name ++ c.gap₁ ++ c.inWord ++ c.gap₂ ++ '(' :: c.body ++ [')'], rest) :=
    readBareList?_append hc.gap₁ hc.inWord hc.gap₂ hc.body.1 rest
  cases hqualifier : c.column.qualifier with
  | none =>
      have htext : c.text =
          c.column.name ++ c.gap₁ ++ c.inWord ++ c.gap₂ ++ '(' :: c.body ++ [')'] := by
        simp [ListClause.text, ListClause.lead, Column.text, hqualifier]
      have hsplit : c.text ++ rest = c.column.name ++ behind := by simp [htext, behind]
      have hname : readWord? (c.column.name ++ behind) = some (c.column.name, behind) :=
        readWord?_eq_some_iff.mpr ⟨rfl, hc.column.name, hc.gap₁.stopsAt_isWord _⟩
      have hpoint : behind.head? ≠ some '.' := by
        obtain ⟨b, tail, hb⟩ := List.exists_cons_of_ne_nil hc.gap₁.1
        have hblank : isBlank b = true := hc.gap₁.2 b (by simp [hb])
        simp only [behind, hb, List.cons_append, List.head?_cons, ne_eq, Option.some.injEq]
        rintro rfl
        exact absurd hblank (by decide)
      rw [hsplit, readListOf?_of_bare hname hpoint, hbare, htext]
  | some table =>
      have htext : c.text = table ++ '.' ::
          (c.column.name ++ c.gap₁ ++ c.inWord ++ c.gap₂ ++ '(' :: c.body ++ [')']) := by
        simp [ListClause.text, ListClause.lead, Column.text, hqualifier]
      have hsplit : c.text ++ rest = table ++ '.' :: (c.column.name ++ behind) := by
        simp [htext, behind]
      have htable : readWord? (table ++ '.' :: (c.column.name ++ behind)) =
          some (table, '.' :: (c.column.name ++ behind)) :=
        readWord?_eq_some_iff.mpr
          ⟨rfl, hc.column.qualifier table hqualifier, StopsAt.cons (by decide) _⟩
      rw [hsplit, readListOf?_of_qualified htable hbare, htext]

theorem replaceList_append {target : Target} {c : ListClause} {front : Text}
    (hc : c.WellFormed) (hfield : target.field = c.column.name)
    (hstart : target.clauseStart = front.length) (value rest : Text) :
    replaceList (front ++ (c.text ++ rest)) target value =
      ⟨.ok (front ++ (c.lead ++ ('(' :: joinMembers (quoteMembers value) ++ [')'] ++ rest))),
        false⟩ := by
  have hexchange : exchangeBody (joinMembers (quoteMembers value)) c.text =
      c.lead ++ '(' :: joinMembers (quoteMembers value) ++ [')'] :=
    exchangeBody_append (hc.isRun_lead.notMem (by decide)) hc.body.1 _
  have hread := hc.readListOf?_append rest
  simp only [replaceList, hstart, hfield, isSearchable_length, searchStart_length,
    List.drop_left, List.take_left, hread, hexchange]
  simp

/-! ## The replacement of a parameter -/

theorem Parameter.written_eq_quoted {p : Parameter} (hp : p.kind ≠ .list) (value : Text) :
    p.written value = (p.target.prepare value).quoted := by
  unfold written
  split
  next hkind => exact absurd hkind hp
  next => rfl

private theorem RangeClause.WellFormed.replaceTargeted_eq {c : RangeClause}
    (hc : c.WellFormed) {front rest t : Text}
    {p : Parameter} (hp : p ∈ Hit.parameters t ⟨front.length, .range c⟩) {slot : Slot}
    (hslot : (Clause.range c).slot? p.kind = some slot) (value : Text) :
    replaceTargeted (front ++ (c.text ++ rest)) p.target (p.target.prepare value) =
      ⟨.ok (front ++ (slot.before ++ (p.written value ++ (slot.after ++ rest)))), false⟩ := by
  rcases List.mem_pair.mp hp with hlow | hhigh
  · have hkind : p.kind = .rangeStart := by rw [hlow]; rfl
    have hvalue : p.target.value = c.low := by rw [hlow]; rfl
    have hstart : p.target.start = front.length := by rw [hlow]; rfl
    have hclear : quoteMark ∉ c.column.text ++ c.gap₁ :=
      List.not_mem_append (hc.column.isRun_isFrame.notMem (by decide))
        (hc.gap₁.2.notMem (by decide))
    have hreplace := replaceBound_append hstart (by decide) (by decide) hclear
      hc.betweenWord hc.gap₂ (p.target.prepare value) (c.upperText ++ rest)
    rw [hkind] at hslot
    obtain rfl := Option.some.inj hslot
    have hwritten := p.written_eq_quoted (by simp [hkind]) value
    rw [replaceTargeted, show p.target.kind = .rangeStart from hkind, hwritten]
    simpa [RangeClause.text, RangeClause.lowerText, RangeClause.lead, hvalue] using hreplace
  · have hkind : p.kind = .rangeEnd := by rw [hhigh]; rfl
    have hvalue : p.target.value = c.high := by rw [hhigh]; rfl
    have hstart : p.target.start = (front ++ c.lowerText).length := by
      rw [hhigh, List.length_append]
      rfl
    have hreplace := replaceBound_append hstart (by decide) (by decide)
      (hc.gap₃.2.notMem (by decide)) hc.andWord hc.gap₄ (p.target.prepare value) rest
    rw [hkind] at hslot
    obtain rfl := Option.some.inj hslot
    have hwritten := p.written_eq_quoted (by simp [hkind]) value
    rw [replaceTargeted, show p.target.kind = .rangeEnd from hkind, hwritten]
    simpa [RangeClause.text, RangeClause.upperText, RangeClause.middle, hvalue] using hreplace

/-- A parameter of a clause that stands in a text is replaced at its place. -/
theorem Hit.Stands.replaceTargeted_eq {t front rest : Text} {h : Hit}
    (hh : h.Stands t front rest) {p : Parameter} (hp : p ∈ h.parameters t) {slot : Slot}
    (hslot : h.clause.slot? p.kind = some slot) (value : Text) :
    replaceTargeted t p.target (p.target.prepare value) =
      ⟨.ok (front ++ (slot.before ++ (p.written value ++ (slot.after ++ rest)))), false⟩ := by
  obtain ⟨start, clause⟩ := h
  obtain ⟨htext, hstart, -, hc, -⟩ := hh
  simp only at htext hstart hc hslot
  subst hstart
  cases clause with
  | range c =>
      rw [htext]
      exact RangeClause.WellFormed.replaceTargeted_eq hc hp hslot value
  | list c =>
      have hp := List.mem_singleton.mp hp
      have hkind : p.kind = .list := by rw [hp]; rfl
      have hprepare : p.target.prepare value = value := by rw [hp]; rfl
      have hfield : p.target.field = c.column.name := by rw [hp]; rfl
      have hstart : p.target.clauseStart = front.length := by rw [hp]; rfl
      have hreplace := replaceList_append hc hfield hstart value rest
      rw [hkind] at hslot
      obtain rfl := Option.some.inj hslot
      rw [replaceTargeted, show p.target.kind = .list from hkind, hprepare, htext]
      simpa [Clause.text, Parameter.written, hkind] using hreplace
  | comparison c =>
      have hp := List.mem_singleton.mp hp
      have hkind : p.kind = .simple := by rw [hp]; rfl
      have hvalue : p.target.value = c.value := by rw [hp]; rfl
      have hstart : p.target.start = front.length := by rw [hp]; rfl
      have hclear : quoteMark ∉ p.target.value := by
        rw [hvalue]
        exact hc.value
      have hreplace := replaceLiteral_append hstart (hc.isRun_lead.notMem (by decide)) hclear
        (p.target.prepare value) (c.closing ++ rest)
      rw [hkind] at hslot
      obtain rfl := Option.some.inj hslot
      have hwritten := p.written_eq_quoted (by simp [hkind]) value
      rw [replaceTargeted, show p.target.kind = .simple from hkind, hwritten, htext]
      simpa [Clause.text, Comparison.text, hvalue] using hreplace

/-- The text in which the literal of a parameter has been exchanged for a new one. -/
theorem substitute_eq {t front rest : Text} {h : Hit} (hh : h.Stands t front rest)
    {p : Parameter} (hp : p ∈ h.parameters t) {slot : Slot}
    (hslot : h.clause.slot? p.kind = some slot) (value : Text) :
    substitute t p.target value =
      front ++ (slot.before ++ (p.written value ++ (slot.after ++ rest))) := by
  simp only [substitute, hh.replaceTargeted_eq hp hslot value]

/-! ## Edits -/

theorem parameterAt_eq {t : Text} {i : Nat} {p : Parameter}
    (hp : (parameters t)[i]? = some p) : parameterAt t i = .ok p := by
  have hnonneg : ¬ (i : Int) < 0 := by omega
  simp only [parameterAt, hnonneg, ↓reduceIte, Int.toNat_natCast, hp]

theorem setValue_eq {t : Text} {i : Nat} {p : Parameter}
    (hp : (parameters t)[i]? = some p) (value : Text) :
    setValue t i value = .ok (substitute t p.target value) := by
  rw [setValue, parameterAt_eq hp]
  rfl

/-- The event tells that a literal was not found where it was looked for. -/
def EditEvent.isFallback : EditEvent → Bool
  | .listMoved .. | .replacedEverywhere .. => true
  | _ => false

theorem isFallback_eq_false_of_replaceTargeted {t text value : Text} {target : Target}
    (h : replaceTargeted t target (target.prepare value) = ⟨.ok text, false⟩) :
    ∀ e ∈ substitutionEvents t target value, e.isFallback = false := by
  intro e he
  simp only [substitutionEvents, h, Bool.false_eq_true, ↓reduceIte, List.append_nil] at he
  split at he
  · rw [List.mem_singleton.mp he]
    rfl
  · simp at he

/-- The literal of a parameter occupies the characters of a text from `a` up to `b`: the
place where it stands in the clause from which the parameter was read. -/
structure Parameter.Occupies (p : Parameter) (t : Text) (a b : Nat) : Prop where
  behind : p.clauseStart < a
  nonempty : a < b
  inside : b ≤ p.clauseStop
  captured : ∃ h ∈ clauses t, p ∈ h.parameters t ∧ ∃ slot, h.clause.slot? p.kind = some slot ∧
    a = h.start + slot.before.length ∧ b = a + slot.literal.length
  literal : p.kind ≠ .list → t.extract a b = p.value.enclosed ∧ quoteMark ∉ p.value
  first : p.kind = .simple ∨ p.kind = .rangeStart → quoteMark ∉ t.extract p.clauseStart a
  second : p.kind = .rangeEnd → b = p.clauseStop
  members : p.kind = .list → b = p.clauseStop ∧ '(' ∉ t.extract p.clauseStart a ∧
    ∃ body, t.extract a b = '(' :: body ++ [')'] ∧ ')' ∉ body ∧ p.members = splitMembers body

/-- What a slot tells about the parameter whose literal it holds. -/
private structure Slot.Fits (slot : Slot) (p : Parameter) : Prop where
  before : slot.before ≠ []
  nonempty : slot.literal ≠ []
  literal : p.kind ≠ .list → slot.literal = p.value.enclosed ∧ quoteMark ∉ p.value
  first : p.kind = .simple ∨ p.kind = .rangeStart → quoteMark ∉ slot.before
  after : p.kind = .rangeEnd ∨ p.kind = .list → slot.after = []
  members : p.kind = .list → '(' ∉ slot.before ∧
    ∃ body, slot.literal = '(' :: body ++ [')'] ∧ ')' ∉ body ∧ p.members = splitMembers body

private theorem Slot.fits {t : Text} {h : Hit} {p : Parameter} {slot : Slot}
    (hc : h.clause.WellFormed) (hp : p ∈ h.parameters t)
    (hslot : h.clause.slot? p.kind = some slot) : slot.Fits p := by
  obtain ⟨start, c | c | c⟩ := h
  · rcases List.mem_pair.mp hp with rfl | rfl
    · obtain rfl := Option.some.inj hslot
      exact ⟨RangeClause.WellFormed.lead_ne_nil hc, by simp [Text.enclosed],
        fun _ => ⟨rfl, hc.low.1⟩, fun _ => hc.isRun_lead.notMem (by decide),
        by simp [Hit.whole], by simp [Hit.whole]⟩
    · obtain rfl := Option.some.inj hslot
      exact ⟨by simp [RangeClause.lowerText, Text.enclosed], by simp [Text.enclosed],
        fun _ => ⟨rfl, hc.high.1⟩, by simp [Hit.whole], fun _ => rfl, by simp [Hit.whole]⟩
  · obtain rfl := List.mem_singleton.mp hp
    obtain rfl := Option.some.inj hslot
    exact ⟨ListClause.WellFormed.lead_ne_nil hc, by simp, fun hkind => absurd rfl hkind,
      by simp [Hit.whole], fun _ => rfl,
      fun _ => ⟨hc.isRun_lead.notMem (by decide), c.body, rfl, hc.body.1, rfl⟩⟩
  · obtain rfl := List.mem_singleton.mp hp
    obtain rfl := Option.some.inj hslot
    exact ⟨Comparison.WellFormed.lead_ne_nil hc, by simp [Text.enclosed],
      fun _ => ⟨rfl, hc.value⟩, fun _ => hc.isRun_lead.notMem (by decide),
      by simp [Hit.whole], by simp [Hit.whole]⟩

theorem Hit.Stands.text_of_slot? {t front rest : Text} {h : Hit} (hh : h.Stands t front rest)
    {kind : Kind} {slot : Slot} (hslot : h.clause.slot? kind = some slot) :
    t = (front ++ slot.before) ++ (slot.literal ++ (slot.after ++ rest)) := by
  rw [hh.text, Clause.text_eq_of_slot? hslot]
  simp

theorem Hit.Stands.occupies {t front rest : Text} {h : Hit} (hh : h.Stands t front rest)
    (hmem : h ∈ clauses t) {p : Parameter} (hp : p ∈ h.parameters t) {slot : Slot}
    (hslot : h.clause.slot? p.kind = some slot) :
    p.Occupies t (front ++ slot.before).length
      ((front ++ slot.before).length + slot.literal.length) := by
  have hfits := Slot.fits hh.wellFormed hp hslot
  have hbefore := List.length_pos_of_ne_nil hfits.before
  have hliteral := List.length_pos_of_ne_nil hfits.nonempty
  obtain ⟨-, hclauseStart, hclauseStop⟩ := Hit.clause_eq_of_mem_parameters hp
  have htext := Clause.text_eq_of_slot? hslot
  have hsplit := hh.text_of_slot? hslot
  have hlead : t.extract p.clauseStart (front ++ slot.before).length = slot.before := by
    rw [hclauseStart, ← hh.start, List.length_append, hsplit, List.append_assoc,
      extract_append]
  have hextract : t.extract (front ++ slot.before).length
      ((front ++ slot.before).length + slot.literal.length) = slot.literal := by
    rw [hsplit, extract_append]
  have hlength : p.clauseStop =
      (front ++ slot.before).length + slot.literal.length + slot.after.length := by
    rw [hclauseStop, Hit.stop, htext, ← hh.start]
    simp only [List.length_append]
    omega
  have hend : slot.after = [] →
      (front ++ slot.before).length + slot.literal.length = p.clauseStop := by
    intro hnil
    rw [hlength, hnil, List.length_nil, Nat.add_zero]
  refine ⟨?_, by omega, by omega, ?_, ?_, ?_, ?_, ?_⟩
  · rw [hclauseStart, ← hh.start, List.length_append]
    omega
  · exact ⟨h, hmem, hp, slot, hslot, by rw [← hh.start, List.length_append], rfl⟩
  · rw [hextract]
    exact hfits.literal
  · rw [hlead]
    exact hfits.first
  · exact fun hkind => hend (hfits.after (Or.inl hkind))
  · intro hkind
    rw [hlead, hextract]
    exact ⟨hend (hfits.after (Or.inr hkind)), hfits.members hkind⟩

/-- Setting a parameter of a text exchanges the characters of its literal for the new one,
keeps all other characters, and reports no fallback. -/
theorem setValue_splices {t : Text} {i : Nat} {p : Parameter} (hat : (parameters t)[i]? = some p)
    (value : Text) :
    ∃ a b, p.Occupies t a b ∧
      setValue t i value = .ok (t.take a ++ p.written value ++ t.drop b) ∧
      ∀ e ∈ setValueEvents t i value, e.isFallback = false := by
  obtain ⟨h, hmem, hp⟩ := mem_parameters_iff.mp (List.mem_of_getElem? hat)
  obtain ⟨front, rest, hh⟩ := exists_stands_of_mem_clauses hmem
  obtain ⟨slot, hslot⟩ := Hit.exists_slot hp
  have hreplace := hh.replaceTargeted_eq hp hslot value
  refine ⟨_, _, hh.occupies hmem hp hslot, ?_, ?_⟩
  · have hsplit : t = (front ++ slot.before) ++ (slot.literal ++ (slot.after ++ rest)) := by
      rw [hh.text, Clause.text_eq_of_slot? hslot]
      simp
    have htake : t.take (front ++ slot.before).length = front ++ slot.before := by
      conv_lhs => rw [hsplit, List.take_left]
    have hdrop : t.drop ((front ++ slot.before).length + slot.literal.length) =
        slot.after ++ rest := by
      conv_lhs => rw [hsplit, ← List.drop_drop, List.drop_left, List.drop_left]
    rw [setValue_eq hat, htake, hdrop, substitute_eq hh hp hslot]
    simp
  · intro e he
    rw [setValueEvents, parameterAt_eq hat] at he
    simp only [List.mem_cons, List.mem_append, List.not_mem_nil, or_false] at he
    rcases he with rfl | he | rfl
    · rfl
    · exact isFallback_eq_false_of_replaceTargeted hreplace e he
    · split <;> rfl

/-- The upper bound of a range, and a value with a quote. -/
theorem setValue_splices_upper :
    let t := Text.ofString "x between 'a' and 'b' -- c"
    let value := Text.ofString "it's"
    ∃ p, (parameters t)[1]? = some p ∧
      (∃ a b, p.Occupies t a b ∧
        setValue t (1 : Nat) value = .ok (t.take a ++ p.written value ++ t.drop b)) ∧
      setValue t (1 : Nat) value = .ok (Text.ofString "x between 'a' and 'it''s' -- c") := by
  intro t value
  obtain ⟨p, hp⟩ : ∃ p, (parameters t)[1]? = some p :=
    Option.isSome_iff_exists.mp (by decide)
  obtain ⟨a, b, hoccupies, hset, -⟩ := setValue_splices hp value
  exact ⟨p, hp, ⟨a, b, hoccupies, hset⟩, by decide⟩

end SqlSnippet
