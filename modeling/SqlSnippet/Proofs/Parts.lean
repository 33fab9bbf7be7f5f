import SqlSnippet.Clause.Read
import Mathlib.Data.List.Forall2
import Mathlib.Data.List.TakeDrop
import Mathlib.Data.List.TakeWhile

/-!
# The parts of a clause, exactly

Each part of a clause is read by a function that takes as much as it can.  Here every
such function is compared with a description that does not say how the part is found:
the text is the part followed by the rest, the part is of the right kind, and the rest
does not go on with the part.  The descriptions hold in both directions, so nothing
that follows has to open a reader again.
-/

namespace SqlSnippet

open Chars

private theorem isLower_iff {c : Char} :
    c.isLower = true ↔ 97 ≤ c.toNat ∧ c.toNat ≤ 122 := by
  change (decide (97 ≤ c.val) && decide (c.val ≤ 122)) = true ↔ _
  simp [UInt32.le_iff_toNat_le]

theorem mem_lowerCodes {c : Char} (hc : c.isLower = true) :
    c.toNat ∈ List.range' 97 26 := by
  have hbounds := isLower_iff.mp hc
  rw [List.mem_range'_1]
  omega

theorem fold_of_isLower {p : Char} (hp : p.isLower = true) : fold p = p := by
  have hall : ∀ n ∈ List.range' 97 26, fold (Char.ofNat n) = Char.ofNat n := by
    decide
  simpa using hall _ (mem_lowerCodes hp)

/-- What folds to another character lies in one of the runs, and the run tells to what. -/
private theorem fold_cases (c : Char) :
    fold c = c ∨ ∃ r ∈ foldRuns, r.1 ≤ c.toNat ∧ c.toNat ≤ r.2.1 ∧
      fold c = Char.ofNat (r.2.2.2 + (c.toNat - r.1)) := by
  unfold fold
  split
  next r hr =>
    have hholds := List.find?_some hr
    simp only [strideHolds, Bool.and_eq_true, decide_eq_true_eq] at hholds
    exact Or.inr ⟨r, List.mem_of_find?_eq_some hr, hholds.1.1, hholds.1.2, rfl⟩
  next => exact Or.inl rfl

/-- The image of a run lies at or below the representative of each of its characters. -/
private theorem image_le_of_ofNat_eq {n k : Nat} {p : Char} (hp : 0 < p.toNat)
    (h : Char.ofNat (n + k) = p) : n ≤ p.toNat := by
  by_cases hvalid : (n + k).isValidChar
  · have haux : Char.ofNat (n + k) = Char.ofNatAux (n + k) hvalid := dif_pos hvalid
    have hnat : n + k = p.toNat := congrArg Char.toNat (haux.symm.trans h)
    omega
  · have haux : Char.ofNat (n + k) = Char.ofNat 0 := dif_neg hvalid
    have hnat : 0 = p.toNat := congrArg Char.toNat (haux.symm.trans h)
    omega

/-- A letter of a keyword is a word character in whatever case it is written. -/
theorem isWord_of_sameLetter {p c : Char} (hp : p.isLower = true)
    (h : sameLetter p c = true) : isWord c = true := by
  have hself : ∀ n ∈ List.range' 97 26, isWord (Char.ofNat n) = true := by
    decide +kernel
  have hruns : ∀ r ∈ foldRuns, r.2.2.2 ≤ 122 →
      ∀ n ∈ List.range' r.1 (r.2.1 + 1 - r.1), isWord (Char.ofNat n) = true := by
    decide +kernel
  have hfold : fold c = p := by
    rw [sameLetter, beq_iff_eq, fold_of_isLower hp] at h
    exact h.symm
  have hbounds := isLower_iff.mp hp
  rcases fold_cases c with hc | ⟨r, hr, hlow, hhigh, hc⟩
  · have hcp : c = p := hc.symm.trans hfold
    subst hcp
    simpa using hself _ (mem_lowerCodes hp)
  · have himage : r.2.2.2 ≤ p.toNat :=
      image_le_of_ofNat_eq (by omega) (hc.symm.trans hfold)
    have hmem : c.toNat ∈ List.range' r.1 (r.2.1 + 1 - r.1) := by
      rw [List.mem_range'_1]
      omega
    simpa using hruns r hr (by omega) _ hmem

theorem eq_quoteMark_of_sameLetter {c : Char} (h : sameLetter quoteMark c = true) :
    c = quoteMark := by
  have hquote : fold quoteMark = quoteMark := by decide +kernel
  have hruns : ∀ r ∈ foldRuns, quoteMark.toNat < r.2.2.2 := by decide +kernel
  have hfold : fold c = quoteMark := by
    rw [sameLetter, beq_iff_eq, hquote] at h
    exact h.symm
  rcases fold_cases c with hc | ⟨r, hr, -, -, hc⟩
  · exact hc.symm.trans hfold
  · have himage : r.2.2.2 ≤ quoteMark.toNat :=
      image_le_of_ofNat_eq (by decide) (hc.symm.trans hfold)
    exact absurd (hruns r hr) (by omega)

/-- A character is at most one small ASCII letter. -/
theorem eq_of_sameLetter {p q c : Char} (hp : p.isLower = true) (hq : q.isLower = true)
    (hpc : sameLetter p c = true) (hqc : sameLetter q c = true) : p = q := by
  rw [sameLetter, beq_iff_eq, fold_of_isLower hp] at hpc
  rw [sameLetter, beq_iff_eq, fold_of_isLower hq] at hqc
  exact hpc.trans hqc.symm

theorem sameLetter_refl (c : Char) : sameLetter c c = true := by
  simp [sameLetter]

/-- The text does not begin with a character that has the property `p`. -/
def StopsAt (p : Char → Bool) (t : Text) : Prop :=
  ∀ c ∈ t.head?, p c = false

/-- Every character of the text has the property `p`. -/
def IsRun (p : Char → Bool) (t : Text) : Prop :=
  ∀ c ∈ t, p c = true

theorem StopsAt.cons {p : Char → Bool} {c : Char} (hc : p c = false) (t : Text) :
    StopsAt p (c :: t) := by
  simpa [StopsAt] using hc

theorem takeWhile_append_of_stopsAt {p : Char → Bool} {run rest : Text}
    (hrun : IsRun p run) (hrest : StopsAt p rest) :
    (run ++ rest).takeWhile p = run := by
  rw [List.takeWhile_append_of_pos hrun]
  cases rest with
  | nil => simp
  | cons c rest => simp [hrest c rfl]

theorem dropWhile_append_of_stopsAt {p : Char → Bool} {run rest : Text}
    (hrun : IsRun p run) (hrest : StopsAt p rest) :
    (run ++ rest).dropWhile p = rest := by
  rw [List.dropWhile_append_of_pos hrun]
  cases rest with
  | nil => rfl
  | cons c rest => simp [hrest c rfl]

theorem isRun_takeWhile (p : Char → Bool) (t : Text) : IsRun p (t.takeWhile p) :=
  fun _ hc => List.mem_takeWhile_imp hc

theorem stopsAt_dropWhile (p : Char → Bool) (t : Text) : StopsAt p (t.dropWhile p) := by
  intro c hc
  have hstop := List.head?_dropWhile_not p t
  rw [Option.mem_def.mp hc] at hstop
  simpa using hstop

/-- A run that is taken whole is the only way to cut a text into a run and a rest that
does not go on with it. -/
theorem span_eq_iff {p : Char → Bool} {t run rest : Text} :
    (t.takeWhile p = run ∧ t.dropWhile p = rest) ↔
      t = run ++ rest ∧ IsRun p run ∧ StopsAt p rest := by
  constructor
  · rintro ⟨rfl, rfl⟩
    exact ⟨List.takeWhile_append_dropWhile.symm, isRun_takeWhile p t,
      stopsAt_dropWhile p t⟩
  · rintro ⟨rfl, hrun, hrest⟩
    exact ⟨takeWhile_append_of_stopsAt hrun hrest, dropWhile_append_of_stopsAt hrun hrest⟩

/-- Blanks, one at least. -/
def IsGap (t : Text) : Prop := t ≠ [] ∧ IsRun isBlank t

/-- Word characters, one at least. -/
def IsName (t : Text) : Prop := t ≠ [] ∧ IsRun isWord t

private theorem readRun_eq_some_iff {p : Char → Bool} {t run rest : Text} :
    (if (t.takeWhile p).isEmpty then none
      else some (t.takeWhile p, t.dropWhile p)) = some (run, rest) ↔
      t = run ++ rest ∧ (run ≠ [] ∧ IsRun p run) ∧ StopsAt p rest := by
  rw [Option.ite_none_left_eq_some, Option.some.injEq, Prod.mk.injEq, span_eq_iff]
  constructor
  · rintro ⟨hne, rfl, hrun, hrest⟩
    rw [takeWhile_append_of_stopsAt hrun hrest, List.isEmpty_iff] at hne
    exact ⟨rfl, ⟨hne, hrun⟩, hrest⟩
  · rintro ⟨rfl, ⟨hne, hrun⟩, hrest⟩
    rw [takeWhile_append_of_stopsAt hrun hrest, List.isEmpty_iff]
    exact ⟨hne, rfl, hrun, hrest⟩

theorem readWord?_eq_some_iff {t name rest : Text} :
    readWord? t = some (name, rest) ↔
      t = name ++ rest ∧ IsName name ∧ StopsAt isWord rest :=
  readRun_eq_some_iff

theorem readGap?_eq_some_iff {t gap rest : Text} :
    readGap? t = some (gap, rest) ↔
      t = gap ++ rest ∧ IsGap gap ∧ StopsAt isBlank rest :=
  readRun_eq_some_iff

/-! ## Texts up to a mark -/

/-- The text in front of the first mark, if there is a mark. -/
theorem until_eq_iff {mark : Char} {t body rest : Text} :
    (∃ c, t.dropWhile (· ≠ mark) = c :: rest ∧ t.takeWhile (· ≠ mark) = body) ↔
      t = body ++ mark :: rest ∧ mark ∉ body := by
  have hrun : IsRun (fun c => decide (c ≠ mark)) body ↔ mark ∉ body := by
    simp only [IsRun, decide_eq_true_eq]
    exact ⟨fun h hmem => h mark hmem rfl, fun h c hc heq => h (heq ▸ hc)⟩
  constructor
  · rintro ⟨c, hdrop, htake⟩
    obtain ⟨rfl, hbody, hstop⟩ := span_eq_iff.mp ⟨htake, hdrop⟩
    have hc : c = mark := by simpa using hstop c rfl
    exact ⟨by rw [hc], hrun.mp hbody⟩
  · rintro ⟨rfl, hbody⟩
    have hstop : StopsAt (fun c => decide (c ≠ mark)) (mark :: rest) :=
      StopsAt.cons (by simp) rest
    exact ⟨mark, dropWhile_append_of_stopsAt (hrun.mpr hbody) hstop,
      takeWhile_append_of_stopsAt (hrun.mpr hbody) hstop⟩

theorem readLiteral?_eq_some_iff {t value rest : Text} :
    readLiteral? t = some (value, rest) ↔
      t = value.enclosed ++ rest ∧ quoteMark ∉ value := by
  cases t with
  | nil => simp [readLiteral?, Text.enclosed]
  | cons c t =>
      have hbody : (∃ d, t.dropWhile (· ≠ quoteMark) = d :: rest ∧
          t.takeWhile (· ≠ quoteMark) = value) ↔
            t = value ++ quoteMark :: rest ∧ quoteMark ∉ value := until_eq_iff
      unfold readLiteral?
      by_cases hc : c = quoteMark
      · subst hc
        simp only [↓reduceIte, Text.enclosed, List.cons_append, List.append_assoc,
          List.nil_append, List.cons.injEq, true_and, ← hbody]
        cases t.dropWhile (· ≠ quoteMark) with
        | nil => simp
        | cons d after =>
            simp only [Option.some.injEq, Prod.mk.injEq, List.cons.injEq]
            exact ⟨fun h => ⟨d, ⟨rfl, h.2⟩, h.1⟩, fun ⟨_, ⟨_, hr⟩, ht⟩ => ⟨ht, hr⟩⟩
      · simp [hc, Text.enclosed]

theorem readFullLiteral?_eq_some_iff {t value rest : Text} :
    readFullLiteral? t = some (value, rest) ↔
      t = value.enclosed ++ rest ∧ quoteMark ∉ value ∧ value ≠ [] := by
  rw [readFullLiteral?, Option.filter_eq_some_iff, readLiteral?_eq_some_iff, and_assoc]
  simp

theorem readBody?_eq_some_iff {t body rest : Text} :
    readBody? t = some (body, rest) ↔
      t = '(' :: (body ++ ')' :: rest) ∧ ')' ∉ body := by
  unfold readBody?
  split
  next t =>
    rw [List.cons.injEq, eq_self_iff_true, true_and, ← until_eq_iff]
    cases t.dropWhile (· ≠ ')') with
    | nil => simp
    | cons d after =>
        simp only [Option.some.injEq, Prod.mk.injEq, List.cons.injEq]
        exact ⟨fun h => ⟨d, ⟨rfl, h.2⟩, h.1⟩, fun ⟨_, ⟨_, hr⟩, ht⟩ => ⟨ht, hr⟩⟩
  next hno =>
    simp only [reduceCtorEq, false_iff, not_and]
    rintro rfl
    exact (hno _ rfl).elim

/-- Two words of the same letters. -/
def SameLetters (word read : Text) : Prop :=
  List.Forall₂ (fun p c => sameLetter p c = true) word read

theorem SameLetters.refl (word : Text) : SameLetters word word :=
  List.forall₂_same.mpr fun c _ => sameLetter_refl c

theorem SameLetters.length_eq {word read : Text} (h : SameLetters word read) :
    word.length = read.length :=
  List.Forall₂.length_eq h

theorem Text.readFolded?_eq_some_iff {word t read rest : Text} :
    readFolded? word t = some (read, rest) ↔ t = read ++ rest ∧ SameLetters word read := by
  induction word generalizing t read with
  | nil =>
      simp only [readFolded?, Option.some.injEq, Prod.mk.injEq, SameLetters,
        List.forall₂_nil_left_iff]
      constructor
      · rintro ⟨rfl, rfl⟩
        exact ⟨rfl, rfl⟩
      · rintro ⟨rfl, rfl⟩
        exact ⟨rfl, rfl⟩
  | cons p ps ih =>
      cases t with
      | nil =>
          simp only [readFolded?, reduceCtorEq, List.nil_eq, List.append_eq_nil_iff, false_iff]
          rintro ⟨⟨rfl, -⟩, h⟩
          cases h
      | cons c t =>
          unfold readFolded?
          split
          next hc =>
            rw [Option.map_eq_some_iff]
            constructor
            · rintro ⟨⟨r, s⟩, hr, heq⟩
              obtain ⟨rfl, rfl⟩ := Prod.mk.inj heq
              obtain ⟨rfl, hsame⟩ := ih.mp hr
              exact ⟨rfl, List.Forall₂.cons hc hsame⟩
            · rintro ⟨heq, hsame⟩
              cases hsame with
              | cons hd htail =>
                  obtain ⟨rfl, rfl⟩ := List.cons.inj heq
                  exact ⟨_, ih.mpr ⟨rfl, htail⟩, rfl⟩
          next hc =>
            simp only [reduceCtorEq, false_iff]
            rintro ⟨heq, hsame⟩
            cases hsame with
            | cons hd htail =>
                obtain ⟨rfl, rfl⟩ := List.cons.inj heq
                exact hc hd

theorem SameLetters.isRun_isWord {word read : Text} (h : SameLetters word read)
    (hword : word.all Char.isLower = true) : IsRun isWord read := by
  induction h with
  | nil => simp [IsRun]
  | cons hd _ ih =>
      simp only [List.all_cons, Bool.and_eq_true] at hword
      intro c hc
      rcases List.mem_cons.mp hc with rfl | hc
      · exact isWord_of_sameLetter hword.1 hd
      · exact ih hword.2 c hc

theorem SameLetters.ne_nil {word read : Text} (h : SameLetters word read)
    (hword : word ≠ []) : read ≠ [] := by
  rintro rfl
  cases h
  exact hword rfl

end SqlSnippet
