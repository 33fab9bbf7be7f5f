import SqlSnippet.Calendar.Restyle
import SqlSnippet.Proofs.Splice

/-!
# A replacement for any target and any text

A target need not come from the text at hand.  Whatever its fields and its offsets are, its
replacement ends in one of two ways.  Either nothing is reported to have failed, and the text
changes in one region or not at all: a literal, or the list of a clause.  Or one failure is
reported, and every literal with the old value is exchanged, from the left and without overlaps.
-/

namespace SqlSnippet

open Chars

/-- The second text is the first one with every occurrence of `old` exchanged for `new`, from the
left and without overlaps. -/
inductive AllExchanged (old new : Text) : Text → Text → Prop
  | done {t : Text} (h : ¬ old <:+: t) : AllExchanged old new t t
  | next {before rest rest' : Text} (h : ¬ old <:+: before ++ old.dropLast)
      (hrest : AllExchanged old new rest rest') :
      AllExchanged old new (before ++ (old ++ rest)) (before ++ (new ++ rest'))

theorem AllExchanged.cons {old new t t' : Text} {c : Char} (hc : ¬ old <+: c :: t)
    (h : AllExchanged old new t t') : AllExchanged old new (c :: t) (c :: t') := by
  cases h with
  | done h =>
      refine .done fun hinfix => ?_
      rcases List.infix_cons_iff.mp hinfix with hbegins | hinfix
      · exact hc hbegins
      · exact h hinfix
  | @next before rest rest' h hrest =>
      have hlonger : c :: (before ++ old.dropLast) <+: c :: (before ++ (old ++ rest)) := by
        rw [List.cons_prefix_cons]
        exact ⟨rfl, (List.prefix_append_right_inj before).mpr
          (( List.dropLast_prefix old).trans (List.prefix_append old rest))⟩
      have hbefore : ¬ old <:+: (c :: before) ++ old.dropLast := by
        intro hinfix
        rcases List.infix_cons_iff.mp hinfix with hbegins | hinfix
        · exact hc (hbegins.trans hlonger)
        · exact h hinfix
      exact .next hbefore hrest

theorem AllExchanged.eq_of_not_infix {old new t t' : Text} (h : AllExchanged old new t t')
    (hnone : ¬ old <:+: t) : t' = t := by
  cases h with
  | done => rfl
  | @next before rest => exact absurd ⟨before, rest, by simp⟩ hnone

theorem Text.replaceAllFrom_eq_drop (old new : Text) (skip : Nat) (t : Text) :
    replaceAllFrom old new skip t = replaceAll old new (t.drop skip) := by
  induction skip generalizing t with
  | zero => rfl
  | succ skip ih =>
      cases t with
      | nil => simp [replaceAllFrom, replaceAll]
      | cons c t => rw [replaceAllFrom, ih, List.drop_succ_cons]

/-- Replacing all exchanges every occurrence of a text that is not empty. -/
theorem Text.allExchanged_replaceAll {old : Text} (hold : old ≠ []) (new t : Text) :
    AllExchanged old new t (replaceAll old new t) := by
  -- The rest behind an occurrence is shorter than the text, since the occurrence is not empty.
  induction hn : t.length using Nat.strong_induction_on generalizing t with
  | _ n ih =>
      subst hn
      cases t with
      | nil => exact .done (by simpa using hold)
      | cons c rest =>
          rw [replaceAll, replaceAllFrom]
          split
          next hbegins =>
            obtain ⟨behind, hbehind⟩ := List.isPrefixOf_iff_prefix.mp hbegins
            have hdrop : rest.drop (old.length - 1) = behind := by
              obtain ⟨d, old, rfl⟩ := List.exists_cons_of_ne_nil hold
              obtain ⟨-, rfl⟩ := List.cons.inj hbehind
              simp
            have hlength : behind.length < (c :: rest).length := by
              have hpositive := List.length_pos_iff.mpr hold
              rw [← hbehind, List.length_append]
              omega
            have hfirst : ¬ old <:+: [] ++ old.dropLast := by
              intro hinfix
              have hpositive := List.length_pos_iff.mpr hold
              have hle := hinfix.length_le
              rw [List.nil_append, List.length_dropLast] at hle
              omega
            have hnext : AllExchanged old new ([] ++ (old ++ behind))
                ([] ++ (new ++ replaceAll old new behind)) :=
              .next hfirst (ih _ hlength behind rfl)
            rw [replaceAllFrom_eq_drop, hdrop, ← hbehind]
            exact hnext
          next hbegins =>
            rw [List.isPrefixOf_iff_prefix] at hbegins
            exact (ih _ (Nat.lt_succ_self _) rest rfl).cons hbegins

/-- One region of the text has given way to what is written for a new value, or none has: a literal
of the target, or a list between parentheses. -/
inductive RegionExchanged (target : Target) (value : Text) : Text → Text → Prop
  | none (t : Text) : RegionExchanged target value t t
  | literal {before old after : Text} (kind : target.kind ≠ .list)
      (hold : old = target.value.doubleQuotes ∨ SameLetters target.value old) :
      RegionExchanged target value (before ++ (old.enclosed ++ after))
        (before ++ (value.quoted ++ after))
  | list {before inner after : Text} (kind : target.kind = .list) (hinner : ')' ∉ inner) :
      RegionExchanged target value (before ++ '(' :: (inner ++ ')' :: after))
        (before ++ '(' :: (joinMembers (quoteMembers value) ++ ')' :: after))

theorem RegionExchanged.append {target : Target} {value t t' : Text}
    (h : RegionExchanged target value t t') (front rest : Text) :
    RegionExchanged target value (front ++ (t ++ rest)) (front ++ (t' ++ rest)) := by
  cases h with
  | none => exact .none _
  | @literal before old after kind hold =>
      have hregion : RegionExchanged target value
          ((front ++ before) ++ (old.enclosed ++ (after ++ rest)))
          ((front ++ before) ++ (value.quoted ++ (after ++ rest))) := .literal kind hold
      simpa using hregion
  | @list before inner after kind hinner =>
      have hregion : RegionExchanged target value
          ((front ++ before) ++ '(' :: (inner ++ ')' :: (after ++ rest)))
          ((front ++ before) ++
            '(' :: (joinMembers (quoteMembers value) ++ ')' :: (after ++ rest))) :=
        .list kind hinner
      simpa using hregion

/-- A pair of parentheses that is given a new list is one region; a text without such a pair stays
as it is. -/
theorem regionExchanged_exchangeBody {target : Target} (hkind : target.kind = .list)
    (value t : Text) :
    RegionExchanged target value t (exchangeBody (joinMembers (quoteMembers value)) t) := by
  induction t with
  | nil => exact .none []
  | cons c rest ih =>
      rw [exchangeBody]
      split
      next hopen =>
        subst hopen
        split
        next mark after hdrop =>
          obtain ⟨hrest, hinner⟩ := until_eq_iff.mp ⟨mark, hdrop, rfl⟩
          have hregion : RegionExchanged target value ([] ++ '(' :: (_ ++ ')' :: after))
              ([] ++ '(' :: (joinMembers (quoteMembers value) ++ ')' :: after)) :=
            .list hkind hinner
          rw [← hrest] at hregion
          exact hregion
        next => exact .none _
      next =>
        have hregion := ih.append [c] []
        simpa using hregion

/-! ## What a search finds -/

theorem Text.exists_of_find? {needle t : Text} {i : Nat} (h : find? needle t = some i) :
    ∃ before after, t = before ++ (needle ++ after) ∧ before.length = i := by
  induction t generalizing i with
  | nil =>
      rw [find?, Option.ite_none_right_eq_some, List.isEmpty_iff, Option.some.injEq] at h
      obtain ⟨rfl, rfl⟩ := h
      exact ⟨[], [], rfl, rfl⟩
  | cons c rest ih =>
      rw [find?] at h
      split at h
      next hbegins =>
        obtain ⟨after, hafter⟩ := List.isPrefixOf_iff_prefix.mp hbegins
        exact ⟨[], after, hafter.symm, Option.some.inj h⟩
      next =>
        obtain ⟨j, hj, rfl⟩ := Option.map_eq_some_iff.mp h
        obtain ⟨before, after, rfl, rfl⟩ := ih hj
        exact ⟨c :: before, after, rfl, rfl⟩

theorem Text.exists_of_findFrom? {needle t : Text} {offset : Int} {i : Nat}
    (h : findFrom? needle t offset = some i) :
    ∃ before after, t = before ++ (needle ++ after) ∧ before.length = i := by
  obtain ⟨j, hj, rfl⟩ := Option.map_eq_some_iff.mp h
  obtain ⟨before, after, hdrop, rfl⟩ := exists_of_find? hj
  have hposition : t.position offset ≤ t.length := by
    unfold position
    split <;> omega
  refine ⟨t.take (t.position offset) ++ before, after, ?_, ?_⟩
  · rw [List.append_assoc, ← hdrop, List.take_append_drop]
  · rw [List.length_append, List.length_take_of_le hposition, Nat.add_comm]

theorem Text.splice_append (before old new after : Text) :
    (before ++ (old ++ after)).splice before.length old.length new =
      before ++ (new ++ after) := by
  rw [splice, List.take_left, ← List.drop_drop, List.drop_left, List.drop_left,
    List.append_assoc]

/-- What reads like a literal is one. -/
theorem exists_enclosed_of_sameLetters {value literal : Text}
    (h : SameLetters value.enclosed literal) :
    ∃ old, SameLetters value old ∧ literal = old.enclosed := by
  obtain ⟨mark, tail, hmark, htail, rfl⟩ := List.forall₂_cons_left_iff.mp h
  obtain rfl := eq_quoteMark_of_sameLetter hmark
  have hold := (List.forall₂_take_append _ _ _ htail.flip).flip
  have hlast := (List.forall₂_drop_append _ _ _ htail.flip).flip
  obtain ⟨mark', nothing, hmark', hnothing, hdrop⟩ := List.forall₂_cons_left_iff.mp hlast
  obtain rfl := eq_quoteMark_of_sameLetter hmark'
  obtain rfl := List.forall₂_nil_left_iff.mp hnothing
  refine ⟨_, hold, ?_⟩
  rw [Text.enclosed, List.cons_append, ← hdrop, List.take_append_drop]

theorem exists_of_findBound? {keyword value t before rest : Text}
    (h : findBound? keyword value t = some (before, rest)) :
    ∃ old, SameLetters value old ∧ t = before ++ (old.enclosed ++ rest) := by
  induction t generalizing before with
  | nil => cases h
  | cons c t ih =>
      rw [findBound?] at h
      split at h
      next found hread =>
        obtain rfl := Option.some.inj h
        obtain ⟨word, gap, literal, rfl, htext, -, -, -, hliteral⟩ :=
          readBound?_eq_some_iff.mp hread
        obtain ⟨old, hold, rfl⟩ := exists_enclosed_of_sameLetters hliteral
        exact ⟨old, hold, by rw [htext]; simp⟩
      next =>
        obtain ⟨⟨before', rest'⟩, hfound, heq⟩ := Option.map_eq_some_iff.mp h
        obtain ⟨rfl, rfl⟩ := Prod.mk.inj heq
        obtain ⟨old, hold, rfl⟩ := ih hfound
        exact ⟨old, hold, rfl⟩

theorem eq_append_of_readBareList? {field t read rest : Text}
    (h : readBareList? field t = some (read, rest)) : t = read ++ rest := by
  simp only [readBareList?, Option.bind_eq_bind, Option.bind_eq_some_iff, Prod.exists,
    Text.readFolded?_eq_some_iff, readGap?_eq_some_iff, readBody?_eq_some_iff, Option.some.injEq,
    Prod.mk.injEq] at h
  obtain ⟨name, _, ⟨rfl, -⟩, gap, _, ⟨rfl, -⟩, inWord, after, ⟨rfl, -⟩, body, _, ⟨hbody, -⟩,
    rfl, rfl⟩ := h
  have hblanks : after = after.takeWhile isBlank ++ after.dropWhile isBlank :=
    List.takeWhile_append_dropWhile.symm
  conv_lhs => rw [hblanks, hbody]
  simp

theorem eq_append_of_readListOf? {field t read rest : Text}
    (h : readListOf? field t = some (read, rest)) : t = read ++ rest := by
  unfold readListOf? at h
  dsimp only at h
  split at h
  next found hqualified =>
    obtain rfl := Option.some.inj h
    obtain ⟨⟨table, rest'⟩, hword, hlist⟩ := Option.bind_eq_some_iff.mp hqualified
    obtain ⟨rfl, -⟩ := readWord?_eq_some_iff.mp hword
    dsimp only at hlist
    split at hlist
    next behind =>
      obtain ⟨⟨read', rest''⟩, hread, heq⟩ := Option.map_eq_some_iff.mp hlist
      obtain ⟨rfl, rfl⟩ := Prod.mk.inj heq
      rw [eq_append_of_readBareList? hread]
      simp
    next => cases hlist
  next => exact eq_append_of_readBareList? h

/-! ## A targeted replacement -/

theorem regionExchanged_replaceList {t text value : Text} {target : Target}
    (hkind : target.kind = .list) (h : (replaceList t target value).text = .ok text) :
    RegionExchanged target value t text := by
  unfold replaceList at h
  dsimp only at h
  split at h
  next => cases h
  next =>
    split at h
    next read rest hread =>
      obtain rfl := Except.ok.inj h
      have hregion := (regionExchanged_exchangeBody hkind value read).append
        (t.take (searchStart t target.clauseStart)) rest
      rw [← eq_append_of_readListOf? hread, List.take_append_drop, ← List.append_assoc] at hregion
      exact hregion
    next =>
      split at h
      next => cases h
      next hfound =>
        obtain rfl := Except.ok.inj h
        rw [Text.replaceFirst]
        split
        next i hi =>
          obtain ⟨before, after, rfl, rfl⟩ := Text.exists_of_find? hi
          rw [Text.splice_append]
          exact (regionExchanged_exchangeBody hkind value target.clause).append before after
        next => exact .none t

theorem regionExchanged_replaceBound {t text keyword value : Text} {target : Target}
    (hkind : target.kind ≠ .list) (h : (replaceBound t target keyword value).text = .ok text) :
    RegionExchanged target value t text := by
  unfold replaceBound at h
  dsimp only at h
  split at h
  next => cases h
  next =>
    split at h
    next before rest hfound =>
      obtain rfl := Except.ok.inj h
      obtain ⟨old, hold, hdrop⟩ := exists_of_findBound? hfound
      have hbound : RegionExchanged target value (before ++ (old.enclosed ++ rest))
          (before ++ (value.quoted ++ rest)) := .literal hkind (Or.inr hold)
      have hregion := hbound.append (t.take (searchStart t target.start)) []
      rw [← hdrop, List.append_nil, List.take_append_drop] at hregion
      simpa using hregion
    next => cases h

theorem regionExchanged_replaceLiteral {t text value : Text} {target : Target}
    (hkind : target.kind ≠ .list) (h : (replaceLiteral t target value).text = .ok text) :
    RegionExchanged target value t text := by
  unfold replaceLiteral at h
  dsimp only at h
  split at h
  next i hi =>
    obtain rfl := Except.ok.inj h
    obtain ⟨before, after, rfl, rfl⟩ := Text.exists_of_findFrom? hi
    rw [Text.splice_append]
    exact .literal hkind (Or.inl rfl)
  next => cases h

theorem regionExchanged_replaceTargeted {t text value : Text} {target : Target}
    (h : (replaceTargeted t target value).text = .ok text) :
    RegionExchanged target value t text := by
  unfold replaceTargeted at h
  split at h
  next hkind => exact regionExchanged_replaceList hkind h
  next hkind => exact regionExchanged_replaceBound (by simp [hkind]) h
  next hkind => exact regionExchanged_replaceBound (by simp [hkind]) h
  next hkind => exact regionExchanged_replaceLiteral (by simp [hkind]) h

/-- The value that is written is the given one, or it is what writing a date in the style of the
old value makes of it, which never fails here. -/
theorem Target.prepare_eq (target : Target) (value : Text) :
    target.prepare value = value ∨ ∃ style, DateStyle.of? target.value = some style ∧
      style.renderIso value = .ok (target.prepare value) := by
  unfold Target.prepare
  split
  · split
    next d style hd hstyle => exact Or.inr ⟨style, hstyle, by rw [DateStyle.renderIso, hd]⟩
    next => exact Or.inl rfl
  · exact Or.inl rfl

/-- The event tells that every literal with the old value is exchanged, since the one that was
meant has not been found. -/
def EditEvent.isEverywhere : EditEvent → Bool
  | .replacedEverywhere .. => true
  | _ => false

theorem filter_substitutionEvents (t : Text) (target : Target) (value : Text) :
    (substitutionEvents t target value).filter EditEvent.isEverywhere =
      match (replaceTargeted t target (target.prepare value)).text with
      | .ok _ => []
      | .error cause => [.replacedEverywhere target.field cause target.value] := by
  unfold substitutionEvents
  dsimp only
  rw [List.filter_append, List.filter_append]
  split <;> split <;> split <;> simp_all [EditEvent.isEverywhere]

theorem Text.enclosed_ne_nil (value : Text) : value.enclosed ≠ [] :=
  List.cons_ne_nil _ _

/-- Whatever a target holds, its replacement gives a text.  Either no search is reported to have
failed, and one region is exchanged at most; or one is, and every literal with the old value is
exchanged, so that a text without such a literal stays as it is. -/
theorem substitute_degrades (t : Text) (target : Target) (value : Text) :
    (target.prepare value = value ∨ ∃ style, DateStyle.of? target.value = some style ∧
      style.renderIso value = .ok (target.prepare value)) ∧
    ((substitutionEvents t target value).filter EditEvent.isEverywhere = [] ∧
        RegionExchanged target (target.prepare value) t (substitute t target value) ∨
      (∃ cause, (substitutionEvents t target value).filter EditEvent.isEverywhere =
          [.replacedEverywhere target.field cause target.value]) ∧
        AllExchanged target.value.enclosed (target.prepare value).quoted t
          (substitute t target value) ∧
        (¬ target.value.enclosed <:+: t → substitute t target value = t)) := by
  refine ⟨target.prepare_eq value, ?_⟩
  rw [filter_substitutionEvents, substitute]
  cases hfound : (replaceTargeted t target (target.prepare value)).text with
  | ok text => exact Or.inl ⟨rfl, regionExchanged_replaceTargeted hfound⟩
  | error cause =>
      have hall : AllExchanged target.value.enclosed (target.prepare value).quoted t
          (replaceEverywhere t target (target.prepare value)) :=
        Text.allExchanged_replaceAll target.value.enclosed_ne_nil _ t
      exact Or.inr ⟨⟨cause, rfl⟩, hall, hall.eq_of_not_infix⟩

/-- A range is gone and its old value with it: one failure is reported, and the text stays. -/
theorem substitute_degrades_gone :
    let t := Text.ofString "a in ('x')"
    let target : Target := ⟨Text.ofString "a", .rangeEnd, Text.ofString "y", -3, 70,
      Text.ofString "a between 'x' and 'y'", false⟩
    (∃ cause, (substitutionEvents t target (Text.ofString "z")).filter EditEvent.isEverywhere =
      [.replacedEverywhere (Text.ofString "a") cause (Text.ofString "y")]) ∧
    ¬ target.value.enclosed <:+: t ∧ substitute t target (Text.ofString "z") = t := by
  intro t target
  have hgone : ¬ target.value.enclosed <:+: t := by
    decide +kernel
  rcases (substitute_degrades t target (Text.ofString "z")).2 with ⟨hnone, -⟩ | ⟨hone, -, hsame⟩
  · exact absurd hnone (by decide +kernel)
  · exact ⟨hone, hgone, hsame hgone⟩

end SqlSnippet
