import SqlSnippet.Editor.Preview
import SqlSnippet.Proofs.Rows

/-!
# What a preview shows

A preview is put together from pieces: the stretches of the parameters in the order in which they
stand, and the stretches between them.  Each piece loses the characters that a terminal obeys, and
gets a span that begins where the one before ends.  Parameters share no character, so the only
one that begins in front of the position reached is one that was shown already.
-/

namespace SqlSnippet

theorem Text.shown_append (t u : Text) : (t ++ u).shown = t.shown ++ u.shown :=
  List.filter_append t u

theorem Text.take_append_between (t : Text) {a b : Nat} (h : a ≤ b) :
    t.take a ++ t.between a b = t.take b := by
  rw [Text.between, ← List.take_add, Nat.add_sub_cancel' h]

theorem Text.between_length (t : Text) (n : Nat) : t.between n t.length = t.drop n :=
  List.take_of_length_le (by rw [List.length_drop])

theorem Text.between_ne_nil {t : Text} {a b : Nat} (h : a < b) (hb : b ≤ t.length) :
    t.between a b ≠ [] := by
  apply List.ne_nil_of_length_pos
  rw [Text.between, List.length_take, List.length_drop]
  omega

/-- How many of the characters in front of a position are shown. -/
def Text.shownBefore (t : Text) (n : Nat) : Nat := (Text.shown (t.take n)).length

theorem Text.between_shownBefore (t : Text) {a b : Nat} (h : a ≤ b) :
    t.shown.between (t.shownBefore a) (t.shownBefore b) = (t.between a b).shown := by
  have hsplit : t.shown = Text.shown (t.take b) ++ Text.shown (t.drop b) := by
    rw [← Text.shown_append, List.take_append_drop]
  rw [hsplit, Text.shownBefore, Text.shownBefore, ← t.take_append_between h, Text.shown_append,
    List.append_assoc, Text.between, List.drop_left, List.length_append, Nat.add_sub_cancel_left,
    List.take_left]

/-- The spans lead from one position to another, each beginning where the one before it ends. -/
def Tiles : Nat → Nat → List Span → Prop
  | start, stop, [] => start = stop
  | start, stop, s :: rest => s.start = start ∧ s.start ≤ s.stop ∧ Tiles s.stop stop rest

theorem Tiles.append {a b c : Nat} {spans more : List Span} (h : Tiles a b spans)
    (hmore : Tiles b c more) : Tiles a c (spans ++ more) := by
  induction spans generalizing a with
  | nil =>
      obtain rfl : a = b := h
      exact hmore
  | cons s rest ih => exact ⟨h.1, h.2.1, ih h.2.2⟩

/-- The stretch of the shown text that is left of a parameter, as it is highlighted. -/
def Parameter.mark (t : Text) (p : Parameter) : Span where
  start := t.shownBefore p.start
  stop := t.shownBefore p.stop
  style := p.highlight

theorem Parameter.highlight_ne_white (p : Parameter) : p.highlight ≠ .white := by
  rw [Parameter.highlight]
  split <;> exact Style.noConfusion

/-- The spans that are not white. -/
def StyledText.marks (s : StyledText) : List Span := s.spans.filter fun span => span.style ≠ .white

/-- A text is shown up to a position, every character of it in one span, and these are the spans
that are not white. -/
structure StyledText.Shows (s : StyledText) (t : Text) (n : Nat) (marks : List Span) : Prop where
  plain : s.plain = Text.shown (t.take n)
  tiles : Tiles 0 s.plain.length s.spans
  marks : s.marks = marks

section Shows

variable {s : StyledText} {t : Text} {a b : Nat} {marks : List Span}

/-- A further piece adds one span. -/
theorem StyledText.Shows.append (h : s.Shows t a marks) (hab : a < b) (hb : b ≤ t.length)
    (style : Style) :
    (s.append (t.between a b) style).Shows t b
      (marks ++ [⟨t.shownBefore a, t.shownBefore b, style⟩].filter
        fun span => span.style ≠ .white) := by
  have hshown := congrArg Text.shown (t.take_append_between hab.le)
  rw [Text.shown_append, ← h.plain] at hshown
  have hpiece : (t.between a b).isEmpty = false := by
    simpa using Text.between_ne_nil hab hb
  rw [StyledText.append, hpiece, if_neg Bool.false_ne_true]
  refine ⟨hshown, h.tiles.append ⟨rfl, Nat.le_add_right _ _, ?_⟩, ?_⟩
  · exact List.length_append.symm
  · rw [StyledText.marks, List.filter_append]
    rw [← List.length_append, hshown, h.plain]
    exact congrArg (· ++ _) h.marks

theorem StyledText.Shows.append_white (h : s.Shows t a marks) (hab : a ≤ b)
    (hb : b ≤ t.length) : (s.append (t.between a b) .white).Shows t b marks := by
  rcases Nat.eq_or_lt_of_le hab with rfl | hlt
  · have hpiece : t.between a a = [] := by rw [Text.between, Nat.sub_self, List.take_zero]
    rw [hpiece]
    exact h
  · simpa using h.append hlt hb .white

end Shows

/-! ## Adding parameters -/

/-- A preview under construction has come to the end of the last of these parameters, which stand
one behind the other and are what is highlighted. -/
structure PartialPreview.Marks (t : Text) (s : PartialPreview) (marked : List Parameter) :
    Prop where
  shows : s.done.Shows t s.reached (marked.map (Parameter.mark t))
  ordered : marked.Pairwise fun p q => p.stop ≤ q.start
  inside : ∀ p ∈ marked, p.stop ≤ s.reached
  reached : s.reached = 0 ∨ ∃ p ∈ marked, p.stop = s.reached

theorem PartialPreview.marks_nil (t : Text) : Marks t ⟨.empty, 0⟩ [] where
  shows := ⟨rfl, rfl, rfl⟩
  ordered := List.Pairwise.nil
  inside := by simp
  reached := Or.inl rfl

section Add

variable {t : Text} {s : PartialPreview} {marked : List Parameter} {p : Parameter}

/-- A parameter that was shown is passed over. -/
theorem PartialPreview.Marks.add_of_mem (h : Marks t s marked) (hp : p ∈ marked)
    (hspans : p.Spans t) : s.add t p = s := by
  rw [PartialPreview.add, if_pos (hspans.nonempty.trans_le (h.inside p hp))]

/-- A parameter behind all that were shown is shown behind them. -/
theorem PartialPreview.Marks.add (h : Marks t s marked) (hbehind : ∀ q ∈ marked, q.stop ≤ p.start)
    (hspans : p.Spans t) : Marks t (s.add t p) (marked ++ [p]) := by
  have hreached : s.reached ≤ p.start := by
    rcases h.reached with hzero | ⟨q, hq, hstop⟩
    · exact hzero ▸ Nat.zero_le _
    · exact hstop ▸ hbehind q hq
  have hinside : ∀ q ∈ marked ++ [p], q.stop ≤ p.stop := by
    intro q hq
    rcases List.mem_append.mp hq with hq | hq
    · exact (hbehind q hq).trans hspans.nonempty.le
    · rw [List.mem_singleton.mp hq]
  have hgap := h.shows.append_white hreached (hspans.nonempty.le.trans hspans.inside)
  have hmark := hgap.append hspans.nonempty hspans.inside p.highlight
  rw [PartialPreview.add, if_neg (Nat.not_lt.mpr hreached)]
  refine ⟨?_, ?_, hinside, Or.inr ⟨p, by simp, rfl⟩⟩
  · simpa [Parameter.mark, p.highlight_ne_white] using hmark
  · refine List.pairwise_append.mpr ⟨h.ordered, List.pairwise_singleton _ p, ?_⟩
    intro q hq r hr
    rw [List.mem_singleton.mp hr]
    exact hbehind q hq

/-- Parameters of a text, added in the order in which they begin, are highlighted once each. -/
theorem PartialPreview.Marks.foldl (h : Marks t s marked) (list : List Parameter)
    (hlist : ∀ p ∈ marked ++ list, p ∈ parameters t)
    (hsorted : (marked ++ list).Pairwise fun p q => p.start ≤ q.start) :
    ∃ marked', Marks t (list.foldl (PartialPreview.add t) s) marked' ∧
      ∀ p, p ∈ marked' ↔ p ∈ marked ++ list := by
  induction list generalizing s marked with
  | nil => exact ⟨marked, h, by simp⟩
  | cons p rest ih =>
      have hmem : p ∈ parameters t := hlist p (by simp)
      have hspans := spans_of_mem_parameters hmem
      -- A parameter that is given again begins in what is shown, any other one behind all of it.
      by_cases hp : p ∈ marked
      · have hsub : (marked ++ rest).Sublist (marked ++ p :: rest) :=
          (List.sublist_cons_self p rest).append_left marked
        obtain ⟨marked', hmarks, hiff⟩ :=
          ih h (fun q hq => hlist q (hsub.subset hq)) (hsorted.sublist hsub)
        refine ⟨marked', by rwa [List.foldl_cons, h.add_of_mem hp hspans], fun q => ?_⟩
        rw [hiff]
        refine ⟨fun hq => hsub.subset hq, fun hq => ?_⟩
        rcases List.mem_append.mp hq with hq | hq
        · exact List.mem_append_left rest hq
        · rcases List.mem_cons.mp hq with rfl | hq
          · exact List.mem_append_left rest hp
          · exact List.mem_append_right marked hq
      · have hbehind : ∀ q ∈ marked, q.stop ≤ p.start := by
          intro q hq
          have hle := (List.pairwise_append.mp hsorted).2.2 q hq p List.mem_cons_self
          have hne : q ≠ p := fun heq => hp (heq ▸ hq)
          exact stop_le_start_of_mem_parameters (hlist q (by simp [hq])) hmem hne hle
        obtain ⟨marked', hmarks, hiff⟩ := ih (h.add hbehind hspans) (by simpa using hlist)
          (by simpa using hsorted)
        exact ⟨marked', hmarks, by simpa using hiff⟩

theorem PartialPreview.Marks.finish (h : Marks t s marked)
    (hmarked : ∀ p ∈ marked, p ∈ parameters t) :
    (s.done.append (t.drop s.reached) .white).Shows t t.length
      (marked.map (Parameter.mark t)) := by
  have hreached : s.reached ≤ t.length := by
    rcases h.reached with hzero | ⟨p, hp, hstop⟩
    · exact hzero ▸ Nat.zero_le _
    · exact hstop ▸ (spans_of_mem_parameters (hmarked p hp)).inside
  rw [← t.between_length]
  exact h.shows.append_white hreached le_rfl

end Add

/-- A preview of parameters of a snippet, in any order and however often each of them is given,
shows the whole snippet.  Its spans lead from the beginning to the end.  One span for each of the
parameters covers what is left of it and has its style, and all other spans are white. -/
theorem preview_shows {t : Text} {list : List Parameter} (hne : list ≠ [])
    (hlist : ∀ p ∈ list, p ∈ parameters t) :
    (preview t list).plain = t.shown ∧
      Tiles 0 t.shown.length (preview t list).spans ∧
      (preview t list).marks =
        ((parameters t).filter fun p => p ∈ list).map (Parameter.mark t) ∧
      ((parameters t).filter fun p => p ∈ list).Nodup ∧
      ∀ p ∈ list,
        (preview t list).plain.between (p.mark t).start (p.mark t).stop =
          (t.between p.start p.stop).shown := by
  have hsorted := sortByKey_pairwise Parameter.start list
  obtain ⟨marked, hmarks, hiff⟩ := (PartialPreview.marks_nil t).foldl
    (sortByKey Parameter.start list) (fun p hp => hlist p (mem_sortByKey.mp hp)) hsorted
  have hmem : ∀ p, p ∈ marked ↔ p ∈ list := fun p => (hiff p).trans mem_sortByKey
  have hmarked : marked = (parameters t).filter fun p => p ∈ list := by
    refine eq_of_pairwise_lt ?_ ((parameters_pairwise_start t).filter _) fun p => ?_
    · refine hmarks.ordered.imp_of_mem fun hp _ hstop => ?_
      exact (spans_of_mem_parameters (hlist _ ((hmem _).mp hp))).nonempty.trans_le hstop
    · rw [List.mem_filter, decide_eq_true_eq, hmem]
      exact ⟨fun hp => ⟨hlist p hp, hp⟩, And.right⟩
  have hshows : (preview t list).Shows t t.length (marked.map (Parameter.mark t)) := by
    rw [preview, if_neg (by simpa using hne)]
    exact hmarks.finish fun p hp => hlist p ((hmem p).mp hp)
  have hplain : (preview t list).plain = t.shown := by rw [hshows.plain, List.take_length]
  refine ⟨hplain, hplain ▸ hshows.tiles, hmarked ▸ hshows.marks, ?_, fun p hp => ?_⟩
  · refine ((parameters_pairwise_start t).imp ?_).filter _
    rintro p q hlt rfl
    exact Nat.lt_irrefl _ hlt
  · rw [hplain]
    exact t.between_shownBefore (spans_of_mem_parameters (hlist p hp)).nonempty.le

/-- Three parameters, each given twice and the last one first, two of them with a return in them. -/
theorem preview_shows_returns :
    let t := Text.ofString "a = '\rx'\r-- b between '\r' and 'y' or"
    let list := (parameters t).reverse ++ parameters t
    list ≠ [] ∧ (∀ p ∈ list, p ∈ parameters t) ∧
      (preview t list).plain = Text.ofString "a = 'x'-- b between '' and 'y' or" ∧
      (preview t list).marks =
        [⟨0, 7, .boldYellow⟩, ⟨10, 22, .dimYellow⟩, ⟨22, 30, .dimYellow⟩] := by
  intro t list
  have hne : list ≠ [] := by decide +kernel
  have hlist : ∀ p ∈ list, p ∈ parameters t := by
    intro p hp
    simpa [list] using hp
  obtain ⟨hplain, -, hmarks, -⟩ := preview_shows hne hlist
  exact ⟨hne, hlist, hplain.trans (by decide +kernel), hmarks.trans (by decide +kernel)⟩

end SqlSnippet
