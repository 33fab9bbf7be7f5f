import SqlSnippet.Proofs.Members
import SqlSnippet.Proofs.Reverting

/-!
# Toggling line by line

A text is its lines with a line break between any two of them, and a toggle at the beginning
of a line exchanges this one line for what toggling makes of it.  The empty line behind a last
line break cannot be toggled, and an offset that begins no line does nothing.

The offsets of the lines further down change with each toggle, but the number of the lines does
not, and neither does any line but the toggled one.  Two lines can therefore be toggled in either
order.
-/

namespace SqlSnippet

def closedLines (lines : List Text) : Text := lines.flatMap fun line => line ++ ['\n']

/-- Where the line with this number begins: behind the lines above it and their line breaks. -/
def lineOffset (t : Text) (k : Nat) : Nat := (closedLines ((Text.splitOn '\n' t).take k)).length

def furtherLines (lines : List Text) : Text := lines.flatMap fun line => '\n' :: line

section Lines

variable (lines : List Text)

theorem endsLine_closedLines : EndsLine (closedLines lines) := by
  induction lines using List.reverseRecOn with
  | nil => exact Or.inl rfl
  | append_singleton lines line _ =>
      right
      rw [closedLines, List.flatMap_append, List.flatMap_singleton, ← List.append_assoc,
        List.getLast?_concat]

theorem stopsAt_furtherLines : StopsAt (· ≠ '\n') (furtherLines lines) := by
  cases lines with
  | nil => exact stopsAt_dropWhile _ []
  | cons line lines => exact StopsAt.cons (by decide) _

theorem furtherLines_eq_nil : furtherLines lines = [] ↔ lines = [] := by
  cases lines with
  | nil => exact iff_of_true rfl rfl
  | cons line lines => exact iff_of_false (List.cons_ne_nil _ _) (List.cons_ne_nil _ _)

theorem join_cons (line : Text) :
    Text.join ['\n'] (line :: lines) = line ++ furtherLines lines := by
  induction lines generalizing line with
  | nil => simp [Text.join, furtherLines]
  | cons next lines ih =>
      rw [Text.join, List.intercalate_cons_cons, ← Text.join, ih, List.append_assoc]
      rfl

theorem join_append_cons (first : List Text) (line : Text) :
    Text.join ['\n'] (first ++ line :: lines) =
      closedLines first ++ (line ++ furtherLines lines) := by
  induction first with
  | nil => exact join_cons lines line
  | cons head first ih =>
      obtain ⟨next, rest, hrest⟩ : ∃ next rest, first ++ line :: lines = next :: rest :=
        List.exists_cons_of_ne_nil (by simp)
      rw [List.cons_append, hrest, Text.join, List.intercalate_cons_cons, ← Text.join, ← hrest, ih]
      simp [closedLines]

end Lines

section Split

variable (t : Text)

theorem join_splitOn : Text.join ['\n'] (Text.splitOn '\n' t) = t := by
  rw [Text.splitOn_eq, Text.join, List.intercalate_splitOn]

theorem splitOn_join {lines : List Text} (hlines : ∀ line ∈ lines, '\n' ∉ line)
    (hsome : lines ≠ []) : Text.splitOn '\n' (Text.join ['\n'] lines) = lines := by
  rw [Text.splitOn_eq, Text.join, List.splitOn_intercalate '\n' hlines hsome]

theorem splitOn_append_break (u : Text) :
    Text.splitOn '\n' (t ++ '\n' :: u) = Text.splitOn '\n' t ++ Text.splitOn '\n' u := by
  induction t with
  | nil => simp [Text.splitOn]
  | cons c t ih =>
      rw [List.cons_append]
      by_cases hc : c = '\n'
      · simp [Text.splitOn, hc, ih]
      · simp only [Text.splitOn, if_neg hc, ih]
        cases hparts : Text.splitOn '\n' t with
        | nil => exact absurd hparts (Text.splitOn_ne_nil '\n' t)
        | cons part parts => rfl

theorem closedLines_splitOn : closedLines (Text.splitOn '\n' t) = t ++ ['\n'] := by
  have hlines : Text.splitOn '\n' (t ++ ['\n']) = Text.splitOn '\n' t ++ [[]] :=
    splitOn_append_break t []
  rw [← join_splitOn (t ++ ['\n']), hlines, join_append_cons]
  simp [furtherLines]

/-- A line begins at the end of every text that ends in a line break, and has a number. -/
theorem exists_lineOffset_of_endsLine {before : Text} (h : EndsLine before) (after : Text) :
    ∃ k < (Text.splitOn '\n' (before ++ after)).length,
      lineOffset (before ++ after) k = before.length := by
  rcases h with rfl | hlast
  · exact ⟨0, List.length_pos_of_ne_nil (Text.splitOn_ne_nil _ _), rfl⟩
  · obtain ⟨above, rfl⟩ := List.getLast?_eq_some_iff.mp hlast
    have hsplit : Text.splitOn '\n' (above ++ ['\n'] ++ after) =
        Text.splitOn '\n' above ++ Text.splitOn '\n' after := by
      rw [List.append_assoc, List.singleton_append, splitOn_append_break]
    refine ⟨(Text.splitOn '\n' above).length, ?_, ?_⟩
    · rw [hsplit, List.length_append]
      exact Nat.lt_add_of_pos_right (List.length_pos_of_ne_nil (Text.splitOn_ne_nil _ _))
    · rw [lineOffset, hsplit, List.take_left, closedLines_splitOn]

end Split

/-! ## The toggle of a line -/

/-- The text with the line toggled that has this number. -/
def toggleNth (t : Text) (k : Nat) : Text := toggleLine t (lineOffset t k)

/-- The lines that are left when the one with this number is toggled. -/
def toggledLines (lines : List Text) (k : Nat) : List Text :=
  if k + 1 = lines.length ∧ lines[k]? = some [] then lines else lines.modify k toggledLine

section Toggle

variable (t : Text) (lines : List Text) {j k : Nat}

theorem length_toggledLines : (toggledLines lines k).length = lines.length := by
  rw [toggledLines]
  split
  · rfl
  · exact List.length_modify toggledLine lines k

theorem getElem?_toggledLines_ne (hne : j ≠ k) : (toggledLines lines j)[k]? = lines[k]? := by
  rw [toggledLines]
  split
  · rfl
  · exact List.getElem?_modify_ne toggledLine lines hne

theorem break_notMem_of_mem_toggledLines {lines : List Text}
    (hlines : ∀ line ∈ lines, '\n' ∉ line) : ∀ line ∈ toggledLines lines k, '\n' ∉ line := by
  rw [toggledLines]
  split
  · exact hlines
  · intro line hmem
    obtain ⟨i, hi⟩ := List.mem_iff_getElem?.mp hmem
    rw [List.getElem?_modify] at hi
    obtain ⟨old, hold, rfl⟩ := Option.map_eq_some_iff.mp hi
    have hbreak := hlines old (List.mem_of_getElem? hold)
    split
    · exact break_notMem_toggledLine hbreak
    · exact hbreak

/-- What one toggle leaves of the other lines does not depend on it. -/
theorem toggledLines_comm (hne : j ≠ k) :
    toggledLines (toggledLines lines j) k = toggledLines (toggledLines lines k) j := by
  have hj : (toggledLines lines k)[j]? = lines[j]? := getElem?_toggledLines_ne lines hne.symm
  have hk : (toggledLines lines j)[k]? = lines[k]? := getElem?_toggledLines_ne lines hne
  rw [toggledLines.eq_def (toggledLines lines j) k, toggledLines.eq_def (toggledLines lines k) j,
    length_toggledLines, length_toggledLines, hj, hk]
  simp only [toggledLines]
  split
  · rfl
  · split
    · rfl
    · exact List.modify_modify_ne toggledLine toggledLine lines hne

theorem toggledLines_append_cons (first : List Text) (line : Text) (rest : List Text) :
    toggledLines (first ++ line :: rest) first.length =
      first ++ (if line = [] ∧ rest = [] then line else toggledLine line) :: rest := by
  have hlast : first.length + 1 = (first ++ line :: rest).length ∧
      (first ++ line :: rest)[first.length]? = some [] ↔ line = [] ∧ rest = [] := by
    simp [and_comm, List.length_eq_zero_iff]
  simp only [toggledLines, hlast]
  split
  · rfl
  · rw [List.modify_eq_take_cons_drop (by simp)]
    simp

theorem toggleLine_join (first : List Text) {line : Text} (hline : '\n' ∉ line)
    (rest : List Text) :
    toggleLine (Text.join ['\n'] (first ++ line :: rest)) (closedLines first).length =
      Text.join ['\n'] (toggledLines (first ++ line :: rest) first.length) := by
  rw [toggledLines_append_cons, join_append_cons, join_append_cons,
    toggleLine_line (endsLine_closedLines first) hline (stopsAt_furtherLines rest)]
  by_cases hlast : line = [] ∧ rest = []
  · obtain ⟨rfl, rfl⟩ := hlast
    rfl
  · have hsome : line ++ furtherLines rest ≠ [] := by
      rwa [ne_eq, List.append_eq_nil_iff, furtherLines_eq_nil]
    rw [if_neg hlast, if_neg hsome]

theorem toggleNth_of_length_le (hk : (Text.splitOn '\n' t).length ≤ k) : toggleNth t k = t := by
  have hoffset : lineOffset t k = t.length + 1 := by
    rw [lineOffset, List.take_of_length_le hk, closedLines_splitOn,
      List.length_append, List.length_singleton]
  have hbehind : (t.length : Int) ≤ lineOffset t k := by omega
  rw [toggleNth, toggleLine, toggleAt, if_pos (Or.inr hbehind), Toggle.textFrom]

theorem toggleNth_eq_join (k : Nat) :
    toggleNth t k = Text.join ['\n'] (toggledLines (Text.splitOn '\n' t) k) := by
  rcases lt_or_ge k (Text.splitOn '\n' t).length with hk | hk
  · obtain ⟨first, line, rest, hlines, hlength⟩ : ∃ first line rest,
        Text.splitOn '\n' t = first ++ line :: rest ∧ first.length = k := by
      refine ⟨_, (Text.splitOn '\n' t)[k], (Text.splitOn '\n' t).drop (k + 1), ?_,
        List.length_take_of_le hk.le⟩
      rw [List.cons_getElem_drop_succ, List.take_append_drop]
    have hline : '\n' ∉ line := (mem_splitOn (by rw [hlines]; simp)).1
    have hoffset : lineOffset t k = (closedLines first).length := by
      rw [lineOffset, hlines, ← hlength, List.take_left]
    have htoggle := toggleLine_join first hline rest
    rw [← hlines, join_splitOn] at htoggle
    rw [toggleNth, hoffset, htoggle, hlength]
  · have hnone : ¬ (k + 1 = (Text.splitOn '\n' t).length ∧
        (Text.splitOn '\n' t)[k]? = some []) := by omega
    rw [toggleNth_of_length_le t hk, toggledLines, if_neg hnone, List.modify_eq_self hk,
      join_splitOn]

theorem splitOn_toggleNth (k : Nat) :
    Text.splitOn '\n' (toggleNth t k) = toggledLines (Text.splitOn '\n' t) k := by
  rw [toggleNth_eq_join]
  apply splitOn_join
  · exact break_notMem_of_mem_toggledLines fun line hmem => (mem_splitOn hmem).1
  · rw [← List.length_pos_iff, length_toggledLines]
    exact List.length_pos_of_ne_nil (Text.splitOn_ne_nil '\n' t)

theorem toggleNth_comm (hne : j ≠ k) :
    toggleNth (toggleNth t j) k = toggleNth (toggleNth t k) j := by
  rw [toggleNth_eq_join (toggleNth t j), toggleNth_eq_join (toggleNth t k), splitOn_toggleNth,
    splitOn_toggleNth, toggledLines_comm _ hne]

theorem toggleLine_eq_self_of_forall_ne {offset : Int}
    (h : ∀ k < (Text.splitOn '\n' t).length, offset ≠ lineOffset t k) :
    toggleLine t offset = t := by
  rw [toggleLine, toggleAt]
  split
  · rfl
  next hinside =>
    rw [not_or] at hinside
    obtain ⟨ls, rfl⟩ := Int.eq_ofNat_of_zero_le (not_lt.mp hinside.1)
    have hmid : isLineStart t ls = false := by
      rw [← Bool.not_eq_true]
      intro hstart
      obtain ⟨k, hk, hoffset⟩ := exists_lineOffset_of_endsLine (endsLine_take hstart) (t.drop ls)
      rw [List.take_append_drop] at hk hoffset
      have hle : ls ≤ t.length := by omega
      rw [List.length_take, Nat.min_eq_left hle] at hoffset
      exact h k hk (by rw [hoffset])
    rw [Int.toNat_natCast, hmid]
    rfl

/-- A toggle exchanges the line that begins at its offset and no other one, and changes nothing if
none begins there.  Two lines come out the same in either order. -/
theorem toggleLine_line_by_line (t : Text) :
    Text.join ['\n'] (Text.splitOn '\n' t) = t ∧
    (∀ k < (Text.splitOn '\n' t).length, toggleLine t (lineOffset t k) =
      if k + 1 = (Text.splitOn '\n' t).length ∧ (Text.splitOn '\n' t)[k]? = some [] then t
      else Text.join ['\n'] ((Text.splitOn '\n' t).modify k toggledLine)) ∧
    (∀ offset : Int, (offset < 0 ∨ (t.length : Int) ≤ offset ∨
        ∀ k < (Text.splitOn '\n' t).length, offset ≠ lineOffset t k) → toggleLine t offset = t) ∧
    (∀ j k, j ≠ k → toggleNth (toggleNth t j) k = toggleNth (toggleNth t k) j) := by
  refine ⟨join_splitOn t, ?_, ?_, ?_⟩
  · intro k hk
    rw [← toggleNth, toggleNth_eq_join, toggledLines]
    split
    · exact join_splitOn t
    · rfl
  · rintro offset (hneg | hbehind | hmid)
    · rw [toggleLine, toggleAt, if_pos (Or.inl hneg), Toggle.textFrom]
    · rw [toggleLine, toggleAt, if_pos (Or.inr hbehind), Toggle.textFrom]
    · exact toggleLine_eq_self_of_forall_ne t hmid
  · intro j k hne
    exact toggleNth_comm t hne

theorem toggleLine_line_by_line_pair :
    toggleNth (toggleNth (Text.ofString "-- a\nb") 0) 1 = Text.ofString "a\n-- b" ∧
      toggleNth (toggleNth (Text.ofString "-- a\nb") 1) 0 = Text.ofString "a\n-- b" ∧
      toggleLine (Text.ofString "-- a\nb") 3 = Text.ofString "-- a\nb" := by
  obtain ⟨-, -, hother, hcomm⟩ := toggleLine_line_by_line (Text.ofString "-- a\nb")
  have hdown : toggleNth (toggleNth (Text.ofString "-- a\nb") 0) 1 = Text.ofString "a\n-- b" := by
    decide
  refine ⟨hdown, ?_, hother 3 (Or.inr (Or.inr (by decide)))⟩
  rw [← hcomm 0 1 (by decide), hdown]

end Toggle

end SqlSnippet
