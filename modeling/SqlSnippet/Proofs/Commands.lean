import SqlSnippet.Editor.Session
import SqlSnippet.Proofs.Members

/-!
# The commands that answers spell

A command is a letter, a number, or a letter and a number with blanks between them.  The words
of a text are the parts between its blanks, so an answer without blanks around it is read as a
command exactly when it has one of these forms.
-/

namespace SqlSnippet

open Chars

/-- A text without blanks that is not empty. -/
def IsSolid (t : Text) : Prop := t ≠ [] ∧ ∀ c ∈ t, isBlank c = false

theorem isSolid_singleton {c : Char} (h : isBlank c = false) : IsSolid [c] :=
  ⟨List.cons_ne_nil c [], List.forall_mem_singleton.mpr h⟩

theorem Text.words_cons_of_isBlank {c : Char} (h : isBlank c = true) (t : Text) :
    Text.words (c :: t) = t.words := by
  conv_lhs => unfold Text.words
  rw [if_pos h]

/-- The words are the parts between blanks, without those that are empty. -/
theorem Text.words_eq (t : Text) :
    t.words = (List.splitOnP isBlank t).filter fun part => !part.isEmpty := by
  induction t with
  | nil => simp [words]
  | cons c t ih =>
      by_cases hc : isBlank c = true
      · rw [Text.words_cons_of_isBlank hc, ih, List.splitOnP_cons_eq_if_modifyHead, if_pos hc]
        simp
      · rw [List.splitOnP_cons_eq_if_modifyHead, if_neg hc]
        conv_lhs => unfold Text.words
        rw [if_neg hc]
        cases t with
        | nil => simp [words]
        | cons d t =>
            rw [ih, List.splitOnP_cons_eq_if_modifyHead]
            by_cases hd : isBlank d = true
            · rw [if_pos hd]
              cases h : (List.splitOnP isBlank t).filter fun part => !part.isEmpty with
              | nil => simp [h]
              | cons w ws => simp [h, hd]
            · rw [if_neg hd]
              obtain ⟨p, ps, hps⟩ := List.exists_cons_of_ne_nil (List.splitOnP_ne_nil isBlank t)
              simp [hps, hd]

theorem IsSolid.words_eq {t : Text} (h : IsSolid t) : t.words = [t] := by
  rw [Text.words_eq, List.splitOnP_eq_singleton h.2]
  simp [h.1]

theorem IsGap.words_append {gap : Text} (h : IsGap gap) (t u : Text) :
    (t ++ (gap ++ u)).words = t.words ++ u.words := by
  obtain ⟨b, blanks, rfl⟩ := List.exists_cons_of_ne_nil h.1
  have hb : isBlank b = true := h.2 b List.mem_cons_self
  have hblanks : Text.words (blanks ++ u) = u.words := by
    have hrun : ∀ c ∈ blanks, isBlank c = true := fun c hc => h.2 c (List.mem_cons_of_mem b hc)
    clear h
    induction blanks with
    | nil => rfl
    | cons c blanks ih =>
        rw [List.cons_append, Text.words_cons_of_isBlank (hrun c List.mem_cons_self)]
        exact ih fun d hd => hrun d (List.mem_cons_of_mem c hd)
  rw [List.cons_append, Text.words_eq, List.splitOnP_append_cons _ _ hb, List.filter_append,
    ← Text.words_eq, ← Text.words_eq, hblanks]

/-- A text without blanks around it begins with a word, and it is this word or goes on behind
a gap. -/
theorem IsTrimmed.exists_word {t : Text} (h : IsTrimmed t) (hne : t ≠ []) :
    ∃ word, IsSolid word ∧ (t = word ∨ ∃ gap rest, t = word ++ (gap ++ rest) ∧ IsGap gap ∧
      IsTrimmed rest ∧ rest ≠ []) := by
  let solid : Char → Bool := fun c => !isBlank c
  have hword := isRun_takeWhile solid t
  have hstop := stopsAt_dropWhile solid t
  have hsplit : t.takeWhile solid ++ t.dropWhile solid = t := List.takeWhile_append_dropWhile
  obtain ⟨c, tail, rfl⟩ := List.exists_cons_of_ne_nil hne
  have hc : solid c = true := by simp [solid, h.1 c rfl]
  have hsolid : IsSolid ((c :: tail).takeWhile solid) := by
    refine ⟨by rw [List.takeWhile_cons_of_pos hc]; exact List.cons_ne_nil _ _, ?_⟩
    intro d hd
    simpa [solid] using hword d hd
  refine ⟨_, hsolid, ?_⟩
  generalize (c :: tail).takeWhile solid = word at hsplit hsolid
  generalize (c :: tail).dropWhile solid = behind at hsplit hstop
  rw [← hsplit] at h ⊢
  by_cases hbehind : behind = []
  · left
    rw [hbehind, List.append_nil]
  · right
    have hgap : IsGap (behind.takeWhile isBlank) := by
      obtain ⟨b, more, rfl⟩ := List.exists_cons_of_ne_nil hbehind
      have hb : isBlank b = true := by simpa [solid] using hstop b rfl
      refine ⟨?_, isRun_takeWhile isBlank _⟩
      rw [List.takeWhile_cons_of_pos hb]
      exact List.cons_ne_nil _ _
    have hrest : behind.takeWhile isBlank ++ behind.dropWhile isBlank = behind :=
      List.takeWhile_append_dropWhile
    have hends : behind.dropWhile isBlank ≠ [] := by
      intro hnil
      apply h.2
      rw [← hrest, hnil, List.append_nil]
      exact hgap.endsBlank_append word
    refine ⟨_, _, by rw [hrest], hgap, ⟨stopsAt_dropWhile isBlank behind, ?_⟩, hends⟩
    rw [← endsBlank_append_iff (word ++ behind.takeWhile isBlank) hends, List.append_assoc,
      hrest]
    exact h.2

theorem IsTrimmed.words_eq_nil {t : Text} (h : IsTrimmed t) (hwords : t.words = []) :
    t = [] := by
  by_contra hne
  obtain ⟨word, hword, rfl | ⟨gap, rest, rfl, hgap, -, -⟩⟩ := h.exists_word hne
  · rw [hword.words_eq] at hwords
    cases hwords
  · rw [hgap.words_append, hword.words_eq] at hwords
    cases hwords

/-- The first word of a text without blanks around it, and what the other words are. -/
theorem IsTrimmed.of_words_eq_cons {t word : Text} {more : List Text} (h : IsTrimmed t)
    (hwords : t.words = word :: more) :
    (t = word ∧ more = []) ∨ ∃ gap rest, t = word ++ (gap ++ rest) ∧ IsGap gap ∧
      IsTrimmed rest ∧ rest ≠ [] ∧ rest.words = more := by
  have hne : t ≠ [] := by
    rintro rfl
    cases hwords
  obtain ⟨first, hfirst, rfl | ⟨gap, rest, rfl, hgap, hrest, hends⟩⟩ := h.exists_word hne
  · rw [hfirst.words_eq, List.cons.injEq] at hwords
    exact Or.inl ⟨hwords.1, hwords.2.symm⟩
  · rw [hgap.words_append, hfirst.words_eq, List.singleton_append, List.cons.injEq] at hwords
    obtain ⟨rfl, rfl⟩ := hwords
    exact Or.inr ⟨gap, rest, rfl, hgap, hrest, hends, rfl⟩

theorem IsTrimmed.of_words_eq_singleton {t word : Text} (h : IsTrimmed t)
    (hwords : t.words = [word]) : t = word := by
  obtain ⟨rfl, -⟩ | ⟨gap, rest, rfl, -, hrest, hends, hmore⟩ := h.of_words_eq_cons hwords
  · rfl
  · exact absurd (hrest.words_eq_nil hmore) hends

theorem IsTrimmed.of_words_eq_pair {t word other : Text} (h : IsTrimmed t)
    (hwords : t.words = [word, other]) : ∃ gap, t = word ++ (gap ++ other) ∧ IsGap gap := by
  obtain ⟨-, hmore⟩ | ⟨gap, rest, rfl, hgap, hrest, -, hmore⟩ := h.of_words_eq_cons hwords
  · cases hmore
  · exact ⟨gap, by rw [hrest.of_words_eq_singleton hmore], hgap⟩

/-! ## Spelling -/

/-- What the commands look like.  A number is a text of digits, of which not every one can be
read. -/
inductive Spells : Text → Command → Prop
  | quit {letter : Char} (hletter : letter = 'q' ∨ letter = 'Q') : Spells [letter] .quit
  | save {letter : Char} (hletter : letter = 's' ∨ letter = 'S') : Spells [letter] .save
  | toggle {letter : Char} {gap digits : Text} (hletter : letter = 't' ∨ letter = 'T')
      (hgap : IsGap gap) (hdigits : isDigitText digits = true) :
      Spells (letter :: (gap ++ digits)) (.ofDigits .toggle digits)
  | edit {digits : Text} (hdigits : isDigitText digits = true) :
      Spells digits (.ofDigits .edit digits)

theorem isDigit_eq_false_of_isBlank {c : Char} (h : isBlank c = true) : isDigit c = false := by
  have hall : ∀ n ∈ blankCodes, isDigit (Char.ofNat n) = false := by decide
  have hmem : c.toNat ∈ blankCodes := by simpa [isBlank] using h
  simpa using hall c.toNat hmem

theorem isSolid_of_isDigitText {digits : Text} (h : isDigitText digits = true) :
    IsSolid digits := by
  rw [isDigitText, Bool.and_eq_true, Bool.not_eq_true', List.isEmpty_eq_false_iff,
    List.all_eq_true] at h
  refine ⟨h.1, ?_⟩
  intro c hc
  by_contra hblank
  have hdigit := h.2 c hc
  rw [isDigit_eq_false_of_isBlank (Bool.not_eq_false _ ▸ hblank)] at hdigit
  cases hdigit

theorem Spells.ne_unknown {choice : Text} {c : Command} (h : Spells choice c) :
    c ≠ .unknown := by
  cases h with
  | quit => exact Command.noConfusion
  | save => exact Command.noConfusion
  | toggle =>
      unfold Command.ofDigits
      split <;> exact Command.noConfusion
  | edit =>
      unfold Command.ofDigits
      split <;> exact Command.noConfusion

theorem Command.of_eq_words {choice : Text} (h : ∀ c : Char, isDigit c = false → choice ≠ [c]) :
    Command.of choice = match choice.words with
      | [digits] => if isDigitText digits then .ofDigits .edit digits else .unknown
      | [word, digits] =>
        if (word = ['t'] ∨ word = ['T']) ∧ isDigitText digits then .ofDigits .toggle digits
        else .unknown
      | _ => .unknown := by
  have hquit : ¬ (choice = ['q'] ∨ choice = ['Q']) := by
    rintro (hq | hq)
    · exact h 'q' (by decide) hq
    · exact h 'Q' (by decide) hq
  have hsave : ¬ (choice = ['s'] ∨ choice = ['S']) := by
    rintro (hs | hs)
    · exact h 's' (by decide) hs
    · exact h 'S' (by decide) hs
  rw [Command.of, if_neg hquit]
  exact if_neg hsave

/-- An answer is read as the command that it spells. -/
theorem Spells.of_eq {choice : Text} {c : Command} (h : Spells choice c) :
    Command.of choice = c := by
  cases h with
  | quit hletter => rcases hletter with rfl | rfl <;> rfl
  | save hletter => rcases hletter with rfl | rfl <;> rfl
  | @toggle letter gap digits hletter hgap hdigits =>
      have hsolid : IsSolid [letter] := by
        apply isSolid_singleton
        rcases hletter with rfl | rfl <;> decide
      have hwords := hgap.words_append [letter] digits
      rw [hsolid.words_eq, (isSolid_of_isDigitText hdigits).words_eq, List.singleton_append,
        List.singleton_append] at hwords
      have hlong : ∀ c : Char, isDigit c = false → letter :: (gap ++ digits) ≠ [c] := by
        intro c _ heq
        rw [List.cons.injEq, List.append_eq_nil_iff] at heq
        exact hgap.1 heq.2.1
      have hword : [letter] = ['t'] ∨ [letter] = ['T'] :=
        hletter.imp (congrArg (fun c => [c])) (congrArg (fun c => [c]))
      rw [Command.of_eq_words hlong, hwords]
      exact if_pos ⟨hword, hdigits⟩
  | edit hdigits =>
      have hdigit : ∀ c : Char, isDigit c = false → choice ≠ [c] := by
        rintro c hc rfl
        rw [isDigitText, List.all_cons, hc] at hdigits
        cases hdigits
      rw [Command.of_eq_words hdigit, (isSolid_of_isDigitText hdigits).words_eq]
      exact if_pos hdigits

/-- Whatever is read as a command spells it. -/
theorem spells_of {choice : Text} (h : IsTrimmed choice) (hne : Command.of choice ≠ .unknown) :
    Spells choice (Command.of choice) := by
  unfold Command.of at hne ⊢
  split
  next hquit =>
    obtain rfl | rfl := hquit
    · exact Spells.quit (Or.inl rfl)
    · exact Spells.quit (Or.inr rfl)
  next hquit =>
    rw [if_neg hquit] at hne
    split
    next hsave =>
      obtain rfl | rfl := hsave
      · exact Spells.save (Or.inl rfl)
      · exact Spells.save (Or.inr rfl)
    next hsave =>
      rw [if_neg hsave] at hne
      split
      next digits hwords =>
        obtain rfl := h.of_words_eq_singleton hwords
        by_cases hdigits : isDigitText choice = true
        · rw [if_pos hdigits]
          exact Spells.edit hdigits
        · simp only [hwords, if_neg hdigits] at hne
          exact absurd rfl hne
      next word digits hwords =>
        obtain ⟨gap, rfl, hgap⟩ := h.of_words_eq_pair hwords
        by_cases hread : (word = ['t'] ∨ word = ['T']) ∧ isDigitText digits = true
        · rw [if_pos hread]
          obtain ⟨rfl | rfl, hdigits⟩ := hread
          · exact Spells.toggle (Or.inl rfl) hgap hdigits
          · exact Spells.toggle (Or.inr rfl) hgap hdigits
        · simp only [hwords, if_neg hread] at hne
          exact absurd rfl hne
      next hone htwo =>
        split at hne
        next digits hwords => exact absurd hwords (hone digits)
        next word digits hwords => exact absurd hwords (htwo word digits)
        next => exact absurd rfl hne

theorem Command.of_eq_iff {choice : Text} (h : IsTrimmed choice) {c : Command}
    (hc : c ≠ .unknown) : Command.of choice = c ↔ Spells choice c := by
  constructor
  · rintro rfl
    exact spells_of h hc
  · exact Spells.of_eq

theorem Command.of_eq_unknown_iff {choice : Text} (h : IsTrimmed choice) :
    Command.of choice = .unknown ↔ ∀ c, ¬ Spells choice c := by
  constructor
  · intro hunknown c hc
    exact hc.ne_unknown (hc.of_eq.symm.trans hunknown)
  · intro hnone
    by_contra hne
    exact hnone _ (spells_of h hne)

end SqlSnippet
