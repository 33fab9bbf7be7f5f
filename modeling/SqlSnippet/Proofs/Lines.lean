import SqlSnippet.Comment
import Mathlib.Data.List.Induction

/-!
# Lines and their comments

Where the line of a position begins, and whether a comment marker stands in front of the
position, are read off the text before the position and at most one character more.  The
facts below say so for a text that is cut where the line begins and at the position.
-/

namespace SqlSnippet

/-- A line begins behind the text. -/
def EndsLine (front : Text) : Prop := front = [] ∨ front.getLast? = some '\n'

theorem EndsLine.append {line : Text} (hline : EndsLine line) (hne : line ≠ []) (front : Text) :
    EndsLine (front ++ line) := by
  right
  rw [List.getLast?_append, hline.resolve_left hne, Option.some_or]

theorem ne_break_of_notMem {line : Text} (h : '\n' ∉ line) :
    ∀ c ∈ line, decide (c ≠ '\n') = true := by
  intro c hc
  rw [decide_eq_true_eq]
  rintro rfl
  exact h hc

theorem exists_line (t : Text) :
    ∃ front line, t = front ++ line ∧ EndsLine front ∧ '\n' ∉ line := by
  induction t using List.reverseRecOn with
  | nil => exact ⟨[], [], rfl, Or.inl rfl, List.not_mem_nil⟩
  | append_singleton t c ih =>
      by_cases hc : c = '\n'
      · refine ⟨t ++ [c], [], by simp, Or.inr ?_, List.not_mem_nil⟩
        rw [List.getLast?_concat, hc]
      · obtain ⟨front, line, rfl, hfront, hline⟩ := ih
        refine ⟨front, line ++ [c], by simp, hfront, ?_⟩
        exact List.not_mem_append hline (by simpa using Ne.symm hc)

theorem takeWhile_reverse_append {front line : Text} (hfront : EndsLine front)
    (hline : '\n' ∉ line) :
    ((front ++ line).reverse.takeWhile (· ≠ '\n')).length = line.length := by
  have hreverse : '\n' ∉ line.reverse := fun hmem => hline (List.mem_reverse.mp hmem)
  rw [List.reverse_append, List.takeWhile_append_of_pos (ne_break_of_notMem hreverse)]
  rcases hfront with rfl | hlast
  · simp
  · obtain ⟨before, rfl⟩ := List.getLast?_eq_some_iff.mp hlast
    simp

theorem Text.position_natCast {t : Text} {x : Nat} (hx : x ≤ t.length) :
    t.position (x : Int) = x := by
  have hnonneg : ¬ (x : Int) < 0 := by omega
  rw [Text.position, if_neg hnonneg, Int.toNat_natCast, Nat.min_eq_left hx]

theorem lineStart_append {front line : Text} (hfront : EndsLine front) (hline : '\n' ∉ line)
    (behind : Text) :
    lineStart (front ++ line ++ behind) (front ++ line).length = front.length := by
  have hposition : (front ++ line ++ behind).position ((front ++ line).length : Int) =
      (front ++ line).length := by
    apply Text.position_natCast
    exact (List.prefix_append (front ++ line) behind).length_le
  simp only [lineStart, hposition, List.take_left, takeWhile_reverse_append hfront hline]
  rw [List.length_append, Nat.add_sub_cancel]

theorem Text.find?_lt_iff {needle : Text} (hne : needle ≠ []) {t : Text} {n : Nat} :
    (∃ i < n, find? needle t = some i) ↔ ∃ i < n, needle <+: t.drop i := by
  induction t generalizing n with
  | nil => simp [find?, hne]
  | cons c t ih =>
      unfold find?
      split
      next hprefix =>
        have hhere : needle <+: c :: t := List.isPrefixOf_iff_prefix.mp hprefix
        constructor
        · rintro ⟨i, hi, -⟩
          exact ⟨0, Nat.zero_lt_of_lt hi, hhere⟩
        · rintro ⟨i, hi, -⟩
          exact ⟨0, Nat.zero_lt_of_lt hi, rfl⟩
      next hprefix =>
        have hnot : ¬ needle <+: c :: t := fun h =>
          hprefix (List.isPrefixOf_iff_prefix.mpr h)
        constructor
        · rintro ⟨i, hi, hfind⟩
          obtain ⟨j, hj, rfl⟩ := Option.map_eq_some_iff.mp hfind
          obtain ⟨k, hk, hstands⟩ := (ih (n := n - 1)).mp ⟨j, by omega, hj⟩
          exact ⟨k + 1, by omega, hstands⟩
        · rintro ⟨i, hi, hstands⟩
          cases i with
          | zero => exact absurd hstands hnot
          | succ i =>
              obtain ⟨j, hj, hfind⟩ := (ih (n := n - 1)).mpr ⟨i, by omega, hstands⟩
              exact ⟨j + 1, by omega, by rw [hfind, Option.map_some]⟩

/-- A position is commented exactly when a marker begins on its line in front of it. -/
theorem isCommentedAt_append_iff {front line : Text} (hfront : EndsLine front)
    (hline : '\n' ∉ line) (behind : Text) :
    isCommentedAt (front ++ line ++ behind) (front ++ line).length = true ↔
      ∃ i < line.length, commentMarker <+: (line ++ behind).drop i := by
  have hdrop : (front ++ line ++ behind).drop front.length = line ++ behind := by
    rw [List.append_assoc, List.drop_left]
  rw [← Text.find?_lt_iff (by decide), isCommentedAt, lineStart_append hfront hline, hdrop]
  cases Text.find? commentMarker (line ++ behind) with
  | none => simp
  | some i =>
      simp only [List.length_append, decide_eq_true_eq, Option.some.injEq]
      constructor
      · intro hlt
        exact ⟨i, by omega, rfl⟩
      · rintro ⟨j, hlt, rfl⟩
        omega

theorem lineStart_congr (front behind behind' : Text) :
    lineStart (front ++ behind) front.length = lineStart (front ++ behind') front.length := by
  obtain ⟨before, line, rfl, hbefore, hline⟩ := exists_line front
  rw [lineStart_append hbefore hline, lineStart_append hbefore hline]

/-- A marker that begins in front of a position ends at the first character behind it. -/
private theorem commentMarker_prefix_congr {line behind behind' : Text}
    (hhead : behind.head? = behind'.head?) {i : Nat} (hi : i < line.length)
    (h : commentMarker <+: (line ++ behind).drop i) :
    commentMarker <+: (line ++ behind').drop i := by
  rw [List.drop_append_of_le_length (Nat.le_of_lt hi)] at h ⊢
  have hne : line.drop i ≠ [] := by simpa [List.drop_eq_nil_iff] using hi
  obtain ⟨c, rest, hrest⟩ := List.exists_cons_of_ne_nil hne
  rw [hrest, commentMarker, List.cons_append, List.cons_prefix_cons] at h ⊢
  refine ⟨h.1, ?_⟩
  cases rest with
  | cons d rest => simpa using h.2
  | nil =>
      obtain ⟨tail, htail⟩ := h.2
      rw [List.nil_append] at htail
      rw [← htail, List.cons_append, List.head?_cons] at hhead
      obtain ⟨tail', htail'⟩ := List.head?_eq_some_iff.mp hhead.symm
      exact ⟨tail', by simp [htail']⟩

/-- Whether a position is commented is decided by what stands before it and by the next
character. -/
theorem isCommentedAt_congr {front behind behind' : Text}
    (hhead : behind.head? = behind'.head?) :
    isCommentedAt (front ++ behind) front.length =
      isCommentedAt (front ++ behind') front.length := by
  obtain ⟨before, line, rfl, hbefore, hline⟩ := exists_line front
  rw [Bool.eq_iff_iff, isCommentedAt_append_iff hbefore hline,
    isCommentedAt_append_iff hbefore hline]
  constructor
  · rintro ⟨i, hi, h⟩
    exact ⟨i, hi, commentMarker_prefix_congr hhead hi h⟩
  · rintro ⟨i, hi, h⟩
    exact ⟨i, hi, commentMarker_prefix_congr hhead.symm hi h⟩

end SqlSnippet
