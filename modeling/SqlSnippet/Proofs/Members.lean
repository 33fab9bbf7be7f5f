import SqlSnippet.Proofs.Cuts
import Mathlib.Data.List.Basic

/-!
# Trimmed values and the members of a list

A value without blanks around it cannot be mistaken for the text between two literals, which
begins and ends with a blank.  The members of a list are trimmed before they are written, so
they are read back as they were, and no clause can begin among them.
-/

namespace SqlSnippet

open Chars

def EndsBlank (t : Text) : Prop := ∃ c ∈ t.getLast?, isBlank c = true

/-- The text neither begins nor ends with a blank. -/
def IsTrimmed (t : Text) : Prop := StopsAt isBlank t ∧ ¬ EndsBlank t

theorem not_endsBlank_nil : ¬ EndsBlank [] := by
  rintro ⟨c, hc, -⟩
  cases hc

theorem endsBlank_append_iff (t : Text) {u : Text} (hu : u ≠ []) :
    EndsBlank (t ++ u) ↔ EndsBlank u := by
  rw [EndsBlank, List.getLast?_append_of_ne_nil t hu, EndsBlank]

theorem endsBlank_append_singleton_iff (t : Text) (c : Char) :
    EndsBlank (t ++ [c]) ↔ isBlank c = true := by
  simp [EndsBlank]

theorem IsGap.endsBlank_append {gap : Text} (h : IsGap gap) (t : Text) :
    EndsBlank (t ++ gap) := by
  rw [endsBlank_append_iff t h.1]
  exact ⟨gap.getLast h.1, List.getLast?_eq_some_getLast h.1, h.2 _ (List.getLast_mem h.1)⟩

theorem IsTrimmed.ne_gap_append {t gap : Text} (h : IsTrimmed t) (hgap : IsGap gap)
    (rest : Text) : t ≠ gap ++ rest := by
  rintro rfl
  obtain ⟨b, gap', rfl⟩ := List.exists_cons_of_ne_nil hgap.1
  have hstop := h.1 b rfl
  rw [hgap.2 b List.mem_cons_self] at hstop
  cases hstop

theorem stripRight_append (t : Text) :
    ∃ blanks, IsRun isBlank blanks ∧ t = t.stripRight ++ blanks := by
  refine ⟨(t.reverse.takeWhile isBlank).reverse, ?_, ?_⟩
  · intro c hc
    exact isRun_takeWhile isBlank _ c (List.mem_reverse.mp hc)
  · rw [Text.stripRight, ← List.reverse_append, List.takeWhile_append_dropWhile,
      List.reverse_reverse]

theorem not_endsBlank_stripRight (t : Text) : ¬ EndsBlank t.stripRight := by
  rintro ⟨c, hc, hblank⟩
  rw [Text.stripRight, List.getLast?_reverse] at hc
  rw [stopsAt_dropWhile isBlank t.reverse c hc] at hblank
  cases hblank

theorem isTrimmed_strip (t : Text) : IsTrimmed t.strip := by
  refine ⟨fun c hc => ?_, not_endsBlank_stripRight t.stripLeft⟩
  obtain ⟨blanks, -, heq⟩ := stripRight_append t.stripLeft
  have hhead : t.stripLeft.head? = some c := by
    obtain ⟨tail, htail⟩ := List.head?_eq_some_iff.mp hc
    rw [Text.strip] at htail
    rw [heq, htail, List.cons_append, List.head?_cons]
  exact stopsAt_dropWhile isBlank t c hhead

theorem exists_blanks_strip (t : Text) :
    ∃ front behind, IsRun isBlank front ∧ IsRun isBlank behind ∧
      t = front ++ (t.strip ++ behind) := by
  obtain ⟨blanks, hblanks, heq⟩ := stripRight_append t.stripLeft
  refine ⟨t.indentation, blanks, isRun_takeWhile isBlank t, hblanks, ?_⟩
  rw [Text.strip, ← heq, t.indentation_append_stripLeft]

theorem isTrimmed_of_strip_eq {t : Text} (h : t.strip = t) : IsTrimmed t :=
  h ▸ isTrimmed_strip t

theorem mem_of_mem_strip {t : Text} {c : Char} (h : c ∈ t.strip) : c ∈ t := by
  have hleft : c ∈ t.stripLeft := by
    obtain ⟨blanks, -, heq⟩ := stripRight_append t.stripLeft
    rw [heq]
    exact List.mem_append_left _ h
  exact (List.dropWhile_sublist isBlank).subset hleft

theorem stripRight_eq_self {t : Text} (h : ¬ EndsBlank t) : t.stripRight = t := by
  have hstop : StopsAt isBlank t.reverse := by
    intro c hc
    rw [List.head?_reverse] at hc
    exact Bool.not_eq_true _ ▸ fun hblank => h ⟨c, hc, hblank⟩
  have hrun : IsRun isBlank [] := by simp [IsRun]
  have hdrop := dropWhile_append_of_stopsAt hrun hstop
  rw [List.nil_append] at hdrop
  rw [Text.stripRight, hdrop, List.reverse_reverse]

theorem IsTrimmed.strip_eq {t : Text} (h : IsTrimmed t) : t.strip = t := by
  have hleft : t.stripLeft = t := by
    have hrun : IsRun isBlank [] := by simp [IsRun]
    exact dropWhile_append_of_stopsAt hrun h.1
  rw [Text.strip, hleft, stripRight_eq_self h.2]

theorem Text.strip_strip (t : Text) : t.strip.strip = t.strip :=
  (isTrimmed_strip t).strip_eq

theorem strip_space_cons (t : Text) : Text.strip (' ' :: t) = t.strip := by
  have hspace : isBlank ' ' = true := by decide
  rw [Text.strip, Text.strip, Text.stripLeft, Text.stripLeft, List.dropWhile_cons, if_pos hspace]

theorem isTrimmed_enclosed (value : Text) : IsTrimmed value.enclosed := by
  refine ⟨StopsAt.cons (by decide) _, ?_⟩
  rw [Text.enclosed, endsBlank_append_singleton_iff]
  decide

theorem unquoted_enclosed (value : Text) : value.enclosed.unquoted = value := by
  simp [Text.enclosed, Text.unquoted]

theorem Text.splitOn_eq (sep : Char) (t : Text) : t.splitOn sep = List.splitOn sep t := by
  induction t with
  | nil => rw [splitOn, List.splitOn_nil]
  | cons c t ih =>
      rw [splitOn, List.splitOn_cons_eq_if_modifyHead, ih]
      by_cases hc : c = sep
      · simp [hc]
      · simp only [hc, ↓reduceIte, beq_iff_eq]
        cases h : List.splitOn sep t with
        | nil => exact absurd h (List.splitOn_ne_nil sep t)
        | cons part parts => rfl

theorem Text.splitOn_append_cons {sep : Char} {part : Text} (h : sep ∉ part) (rest : Text) :
    splitOn sep (part ++ sep :: rest) = part :: splitOn sep rest := by
  induction part with
  | nil => rw [List.nil_append, splitOn, if_pos rfl]
  | cons c part ih =>
      rw [List.mem_cons, not_or] at h
      rw [List.cons_append, splitOn, if_neg (Ne.symm h.1), ih h.2]

theorem mem_splitOn {sep : Char} {t part : Text} (h : part ∈ Text.splitOn sep t) :
    sep ∉ part ∧ ∀ c ∈ part, c ∈ t := by
  induction t generalizing part with
  | nil => simp_all [Text.splitOn]
  | cons c t ih =>
      unfold Text.splitOn at h
      split at h
      next hc =>
        rcases List.mem_cons.mp h with rfl | h
        · simp
        · exact ⟨(ih h).1, fun d hd => List.mem_cons_of_mem c ((ih h).2 d hd)⟩
      next hc =>
        split at h
        next hnil => exact absurd hnil (Text.splitOn_ne_nil sep t)
        next first parts hparts =>
          rw [hparts] at ih
          rcases List.mem_cons.mp h with rfl | h
          · have hfirst := ih List.mem_cons_self
            refine ⟨fun hmem => ?_, fun d hd => ?_⟩
            · rcases List.mem_cons.mp hmem with heq | hmem
              · exact hc heq.symm
              · exact hfirst.1 hmem
            · rcases List.mem_cons.mp hd with rfl | hd
              · exact List.mem_cons_self
              · exact List.mem_cons_of_mem c (hfirst.2 d hd)
          · have hpart := ih (List.mem_cons_of_mem first h)
            exact ⟨hpart.1, fun d hd => List.mem_cons_of_mem c (hpart.2 d hd)⟩

theorem mem_intercalate {sep : Text} {parts : List Text} {c : Char}
    (h : c ∈ List.intercalate sep parts) : c ∈ sep ∨ ∃ part ∈ parts, c ∈ part := by
  induction parts with
  | nil => simp at h
  | cons part parts ih =>
      by_cases hnil : parts = []
      · subst hnil
        exact Or.inr ⟨part, by simp, by simpa using h⟩
      · rw [List.intercalate_cons_of_ne_nil hnil, List.mem_append, List.mem_append] at h
        rcases h with (h | h) | h
        · exact Or.inr ⟨part, by simp, h⟩
        · exact Or.inl h
        · rcases ih h with hsep | ⟨other, hother, hc⟩
          · exact Or.inl hsep
          · exact Or.inr ⟨other, List.mem_cons_of_mem part hother, hc⟩

theorem notMem_joinMembers {members : List Text} {c : Char} (hc : c ∉ [',', ' '])
    (h : ∀ m ∈ members, c ∉ m) : c ∉ joinMembers members := by
  intro hmem
  rcases mem_intercalate hmem with hsep | ⟨member, hmember, hmem⟩
  · exact hc hsep
  · exact h member hmember hmem

/-- With the space counted among the members, only the comma separates them. -/
theorem joinMembers_cons (member : Text) (members : List Text) :
    joinMembers (member :: members) =
      List.intercalate [','] (member :: members.map fun m => ' ' :: m) := by
  rw [joinMembers, Text.join]
  induction members generalizing member with
  | nil => simp
  | cons next members ih =>
      rw [List.intercalate_cons_cons, ih next, List.map_cons, List.intercalate_cons_cons,
        List.intercalate_cons_cons_left]
      simp

/-- Members without commas are the parts of their list, all but the first one behind a space. -/
theorem splitOn_joinMembers {member : Text} {members : List Text}
    (hcomma : ∀ m ∈ member :: members, ',' ∉ m) :
    Text.splitOn ',' (joinMembers (member :: members)) =
      member :: members.map fun m => ' ' :: m := by
  rw [joinMembers_cons, Text.splitOn_eq]
  apply List.splitOn_intercalate ',' _ (List.cons_ne_nil _ _)
  intro part hpart
  rcases List.mem_cons.mp hpart with rfl | hpart
  · exact hcomma part List.mem_cons_self
  · obtain ⟨m, hm, rfl⟩ := List.mem_map.mp hpart
    simpa using hcomma m (List.mem_cons_of_mem member hm)

theorem mem_of_mem_unquoted {t : Text} {c : Char} (h : c ∈ t.unquoted) : c ∈ t := by
  cases t with
  | nil => cases h
  | cons d rest =>
      rw [Text.unquoted] at h
      split at h
      · exact List.mem_cons_of_mem d (List.dropLast_subset rest h)
      · exact h

theorem splitMembers_ne_nil (body : Text) : splitMembers body ≠ [] := by
  simp [splitMembers, Text.splitOn_ne_nil]

/-- A member holds no comma, and has its characters from the list. -/
theorem mem_splitMembers {body member : Text} (h : member ∈ splitMembers body) :
    ',' ∉ member ∧ ∀ c ∈ member, c ∈ body := by
  obtain ⟨part, hpart, rfl⟩ := List.mem_map.mp h
  have hmem := mem_splitOn hpart
  exact ⟨fun hc => hmem.1 (mem_of_mem_strip (mem_of_mem_unquoted hc)),
    fun c hc => hmem.2 c (mem_of_mem_strip (mem_of_mem_unquoted hc))⟩

/-! ## Written members -/

theorem Text.doubleQuotes_cons (c : Char) (value : Text) :
    doubleQuotes (c :: value) =
      (if c = quoteMark then [quoteMark, quoteMark] else [c]) ++ value.doubleQuotes :=
  List.flatMap_cons

theorem Text.doubleQuotes_eq_self {value : Text} (h : quoteMark ∉ value) :
    value.doubleQuotes = value := by
  induction value with
  | nil => rfl
  | cons c rest ih =>
      rw [List.mem_cons, not_or] at h
      rw [doubleQuotes_cons, if_neg (Ne.symm h.1), ih h.2, List.singleton_append]

theorem Text.count_doubleQuotes (value : Text) :
    value.doubleQuotes.count quoteMark = 2 * value.count quoteMark := by
  induction value with
  | nil => rfl
  | cons c value ih =>
      rw [doubleQuotes_cons, List.count_append, ih]
      by_cases hc : c = quoteMark
      · rw [if_pos hc, hc, List.count_cons_self, List.count_cons_self, List.count_cons_self,
          List.count_nil]
        omega
      · rw [if_neg hc, List.count_cons_of_ne hc, List.count_cons_of_ne hc, List.count_nil,
          Nat.zero_add]

theorem Text.mem_doubleQuotes_iff {value : Text} {c : Char} :
    c ∈ value.doubleQuotes ↔ c ∈ value := by
  induction value with
  | nil => rfl
  | cons d value ih =>
      rw [doubleQuotes_cons, List.mem_append, ih, List.mem_cons]
      by_cases hd : d = quoteMark
      · simp [hd]
      · simp [hd]

theorem Text.quoted_eq_enclosed {value : Text} (h : quoteMark ∉ value) :
    value.quoted = value.enclosed := by
  rw [quoted, doubleQuotes_eq_self h]

/-- The members that the comma-separated parts of a value stand for. -/
def memberValues (value : Text) : List Text := (value.splitOn ',').map Text.strip

theorem quoteMembers_eq_map (value : Text) :
    quoteMembers value = (memberValues value).map Text.quoted := by
  rw [quoteMembers, memberValues, List.map_map, Function.comp_def]

theorem quoteMembers_eq_enclosed (value : Text) :
    quoteMembers value = ((memberValues value).map Text.doubleQuotes).map Text.enclosed := by
  rw [quoteMembers_eq_map, List.map_map]
  rfl

theorem memberValues_ne_nil (value : Text) : memberValues value ≠ [] := by
  simp [memberValues, Text.splitOn_ne_nil]

/-- A member is trimmed, holds no comma, and has its characters from the value. -/
theorem mem_memberValues {value member : Text} (h : member ∈ memberValues value) :
    IsTrimmed member ∧ ',' ∉ member ∧ ∀ c ∈ member, c ∈ value := by
  obtain ⟨part, hpart, rfl⟩ := List.mem_map.mp h
  have hmem := mem_splitOn hpart
  exact ⟨isTrimmed_strip part, fun hc => hmem.1 (mem_of_mem_strip hc),
    fun c hc => hmem.2 c (mem_of_mem_strip hc)⟩

theorem splitMembers_joinMembers {members : List Text} (hne : members ≠ [])
    (hcomma : ∀ m ∈ members, ',' ∉ m) :
    splitMembers (joinMembers (members.map Text.enclosed)) = members := by
  obtain ⟨member, members, rfl⟩ := List.exists_cons_of_ne_nil hne
  have hparts : ∀ m ∈ member.enclosed :: members.map Text.enclosed, ',' ∉ m := by
    rw [← List.map_cons, List.forall_mem_map]
    intro m hm hmem
    simp [Text.enclosed, hcomma m hm, quoteMark] at hmem
  have hread : ∀ m : Text, m.enclosed.strip.unquoted = m := by
    intro m
    rw [(isTrimmed_enclosed m).strip_eq, unquoted_enclosed]
  rw [splitMembers, List.map_cons, splitOn_joinMembers hparts]
  simp [hread, strip_space_cons, Function.comp_def]

/-- The values of joined members are the members without the blanks around them. -/
theorem memberValues_joinMembers {members : List Text} (hne : members ≠ [])
    (hcomma : ∀ m ∈ members, ',' ∉ m) :
    memberValues (joinMembers members) = members.map Text.strip := by
  obtain ⟨member, members, rfl⟩ := List.exists_cons_of_ne_nil hne
  rw [memberValues, splitOn_joinMembers hcomma]
  simp [strip_space_cons, Function.comp_def]

/-- The value that a list shows stands for its members without the blanks around them. -/
theorem memberValues_joinMembers_splitMembers (body : Text) :
    memberValues (joinMembers (splitMembers body)) = (splitMembers body).map Text.strip :=
  memberValues_joinMembers (splitMembers_ne_nil body) fun _ hm => (mem_splitMembers hm).1

/-- The members of a value without quotes stay as they are when quotes are doubled. -/
theorem map_doubleQuotes_memberValues {value : Text} (h : quoteMark ∉ value) :
    (memberValues value).map Text.doubleQuotes = memberValues value := by
  refine (List.map_congr_left fun m hm => ?_).trans (List.map_id _)
  exact Text.doubleQuotes_eq_self fun hmem => h ((mem_memberValues hm).2.2 _ hmem)

theorem quoteMembers_eq {value : Text} (h : quoteMark ∉ value) :
    quoteMembers value = (memberValues value).map Text.enclosed := by
  rw [quoteMembers_eq_enclosed, map_doubleQuotes_memberValues h]

/-- Members are read back with their quotes doubled from the list that is written for them. -/
theorem splitMembers_quoteMembers (value : Text) :
    splitMembers (joinMembers (quoteMembers value)) =
      (memberValues value).map Text.doubleQuotes := by
  rw [quoteMembers_eq_enclosed]
  apply splitMembers_joinMembers
  · exact List.map_eq_nil_iff.not.mpr (memberValues_ne_nil value)
  · rw [List.forall_mem_map]
    exact fun m hm hmem => (mem_memberValues hm).2.1 (Text.mem_doubleQuotes_iff.mp hmem)

theorem splitMembers_written {value : Text} (h : quoteMark ∉ value) :
    splitMembers (joinMembers (quoteMembers value)) = memberValues value := by
  rw [splitMembers_quoteMembers, map_doubleQuotes_memberValues h]

/-- The written members begin with a trimmed literal. -/
theorem exists_first_written {value : Text} (h : quoteMark ∉ value) :
    ∃ first behind, joinMembers (quoteMembers value) = first.enclosed ++ behind ∧
      quoteMark ∉ first ∧ IsTrimmed first := by
  obtain ⟨first, others, hmembers⟩ := List.exists_cons_of_ne_nil (memberValues_ne_nil value)
  have hmem : first ∈ memberValues value := by
    rw [hmembers]
    exact List.mem_cons_self
  have hfirst := mem_memberValues hmem
  have hclear : quoteMark ∉ first := fun hmem => h (hfirst.2.2 _ hmem)
  rw [quoteMembers_eq h, hmembers]
  cases others with
  | nil => exact ⟨first, [], by simp [joinMembers, Text.join], hclear, hfirst.1⟩
  | cons next others =>
      refine ⟨first, [',', ' '] ++ joinMembers ((next :: others).map Text.enclosed), ?_,
        hclear, hfirst.1⟩
      simp [joinMembers, Text.join, List.intercalate_cons_cons]

/-- The written members end where their list ends. -/
theorem paren_notMem_written {value : Text} (h : quoteMark ∉ value) (hparen : ')' ∉ value) :
    ')' ∉ joinMembers (quoteMembers value) := by
  rw [quoteMembers_eq h]
  apply notMem_joinMembers (by decide)
  intro literal hliteral hmem
  obtain ⟨member, hmember, rfl⟩ := List.mem_map.mp hliteral
  have hvalue : ')' ∈ member := by simpa [Text.enclosed, quoteMark] using hmem
  exact hparen ((mem_memberValues hmember).2.2 _ hvalue)

/-! ## What stands among the members -/

/-- No blank stands in front of the closing quote of a trimmed literal, so blanks in front
of a quote lie behind that literal. -/
private theorem suffix_of_endsBlank {member u z rest : Text} (hclear : quoteMark ∉ member)
    (htrimmed : IsTrimmed member) (hu : quoteMark ∉ u) (hblank : EndsBlank u)
    (h : u ++ quoteMark :: z <:+ member.enclosed ++ rest) :
    u ++ quoteMark :: z <:+ rest := by
  have hne : u ≠ [] := by
    rintro rfl
    exact not_endsBlank_nil hblank
  have hfirst : ∀ {t : Text}, u ++ quoteMark :: z ≠ quoteMark :: t :=
    fun heq => hne (eq_nil_of_mark hu heq.symm)
  have h : u ++ quoteMark :: z <:+ quoteMark :: (member ++ quoteMark :: rest) := by
    simpa [Text.enclosed] using h
  rcases List.suffix_cons_iff.mp h with heq | ⟨before, heq⟩
  · exact absurd heq hfirst
  rcases List.append_eq_append_iff.mp heq with ⟨tail, hmember, htail⟩ | ⟨tail, -, htail⟩
  · have hend : u = tail := (eq_of_append_mark_eq hu
      (notMem_of_eq_append hmember hclear).2 htail).1
    rw [hmember, ← hend] at htrimmed
    exact absurd ((endsBlank_append_iff before hne).mpr hblank) htrimmed.2
  · rcases List.suffix_cons_iff.mp ⟨tail, htail.symm⟩ with heq | hsuffix
    · exact absurd heq hfirst
    · exact hsuffix

/-- Among written members only a comma and a space stand before a quote that a blank stands
in front of. -/
theorem isWord_eq_false_of_suffix {members : List Text}
    (hmembers : ∀ m ∈ members, quoteMark ∉ m ∧ IsTrimmed m) {u z : Text}
    (hu : quoteMark ∉ u) (hblank : EndsBlank u)
    (h : u ++ quoteMark :: z <:+ joinMembers (members.map Text.enclosed)) :
    ∀ c ∈ u, isWord c = false := by
  induction members with
  | nil =>
      have := List.suffix_nil.mp h
      simp at this
  | cons member members ih =>
      obtain ⟨hclear, htrimmed⟩ := hmembers member List.mem_cons_self
      have ih := ih fun m hm => hmembers m (List.mem_cons_of_mem member hm)
      cases members with
      | nil =>
          have hnil : u ++ quoteMark :: z <:+ member.enclosed ++ [] := by
            simpa [joinMembers, Text.join] using h
          have := List.suffix_nil.mp (suffix_of_endsBlank hclear htrimmed hu hblank hnil)
          simp at this
      | cons next members =>
          let behind := joinMembers ((next :: members).map Text.enclosed)
          have hjoin : joinMembers ((member :: next :: members).map Text.enclosed) =
              member.enclosed ++ (',' :: ' ' :: behind) := by
            simp [behind, joinMembers, Text.join, List.intercalate_cons_cons]
          obtain ⟨tail, htail⟩ : ∃ tail, behind = quoteMark :: tail := by
            cases members with
            | nil => exact ⟨_, rfl⟩
            | cons other members => exact ⟨_, rfl⟩
          rw [hjoin] at h
          have h := suffix_of_endsBlank hclear htrimmed hu hblank h
          rcases List.suffix_cons_iff.mp h with heq | h
          · have hu : u = [',', ' '] := by
              rw [htail] at heq
              exact (eq_of_append_mark_eq hu (by decide) heq).1
            rw [hu]
            exact List.forall_mem_cons.mpr
              ⟨by decide, List.forall_mem_singleton.mpr (by decide)⟩
          rcases List.suffix_cons_iff.mp h with heq | h
          · have hu : u = [' '] := by
              rw [htail] at heq
              exact (eq_of_append_mark_eq hu (by decide) heq).1
            rw [hu]
            exact List.forall_mem_singleton.mpr (by decide)
          · exact ih h

end SqlSnippet
