import SqlSnippet.Proofs.Merging

/-!
# Merged tables path by path

A setting that is no table replaces whatever lies under it, and a table replaces whatever is no
table.  Only where both are tables does anything of the lower one remain: what the upper one has no
entry for.  So a path through a merged table leads where it leads in one of the two, as soon as
they are not both tables, and a second merge finds nothing left to change.
-/

namespace SqlSnippet

namespace Setting

theorem over_none (upper : Setting) : upper.over none = upper := by
  cases upper <;> rfl

/-- Unless both are tables, the upper setting hides the lower one. -/
theorem over_cases (lower : Option Setting) (upper : Setting) :
    (∃ under above, lower = some (.table under) ∧ upper = .table above) ∨
      upper.over lower = upper := by
  cases upper with
  | scalar | list => exact Or.inr rfl
  | table above =>
      cases lower with
      | none => exact Or.inr rfl
      | some value =>
          cases value with
          | scalar | list => exact Or.inr rfl
          | table under => exact Or.inl ⟨under, above, rfl, rfl⟩

/-- The first key of a path through a merged table. -/
theorem follow?_merge {under above : Settings} (hkeys : above.KeysApart) (key : Scalar)
    (rest : List Scalar) :
    (Setting.table (under.merge above)).follow? (key :: rest) =
      match above.get? key with
      | none => (Setting.table under).follow? (key :: rest)
      | some value => (value.over (under.get? key)).follow? rest := by
  rw [follow?_table, Settings.get?_merge hkeys]
  cases above.get? key with
  | none => rfl
  | some value => rfl

/-- What is no table in the upper setting stays where it is. -/
theorem follow?_over_of_not_isTable {upper value : Setting} {path : List Scalar}
    (hupper : upper.Unambiguous) (h : upper.follow? path = some value) (hvalue : ¬ value.IsTable)
    (lower : Option Setting) : (upper.over lower).follow? path = some value := by
  induction path generalizing upper lower with
  | nil =>
      obtain rfl := Option.some.inj h
      obtain ⟨under, above, -, rfl⟩ | hself := over_cases lower upper
      · exact absurd ⟨above, rfl⟩ hvalue
      · rw [hself]
        exact h
  | cons key rest ih =>
      obtain ⟨under, above, rfl, rfl⟩ | hself := over_cases lower upper
      · obtain ⟨inner, hinner, hrest⟩ := Option.bind_eq_some_iff.mp h
        change Settings.get? key above = some inner at hinner
        rw [Setting.over, follow?_merge hupper.keysApart, hinner]
        exact ih (hupper.of_get? hinner) hrest _
      · rw [hself]
        exact h

/-- Behind an entry that the upper setting lacks, a path leads where it leads in the lower one. -/
theorem follow?_over_of_absent {lower upper : Setting} {front : List Scalar}
    (hupper : upper.Unambiguous) (habsent : upper.follow? front = none)
    (htables : ∀ keys, keys <+: front → keys ≠ front →
      lower.LeadsToTable keys ∧ upper.LeadsToTable keys) (more : List Scalar) :
    (upper.over (some lower)).follow? (front ++ more) = lower.follow? (front ++ more) := by
  induction front generalizing lower upper with
  | nil => cases habsent
  | cons key front ih =>
      obtain ⟨⟨under, hunder⟩, above, habove⟩ :=
        htables [] (List.nil_prefix) (List.cons_ne_nil key front).symm
      obtain rfl := Option.some.inj hunder
      obtain rfl := Option.some.inj habove
      rw [Setting.over, List.cons_append, follow?_merge hupper.keysApart]
      cases hget : Settings.get? key above with
      | none => rfl
      | some value =>
          rw [follow?_table, hget] at habsent
          have hne : [key] ≠ key :: front := by
            intro heq
            obtain rfl : [] = front := (List.cons.inj heq).2
            cases habsent
          obtain ⟨⟨inner, hinner⟩, -⟩ := htables [key] (by simp) hne
          rw [follow?_singleton] at hinner
          rw [follow?_table, hinner]
          refine ih (hupper.of_get? hget) habsent fun keys hprefix hkeys => ?_
          have hinside := htables (key :: keys) ((List.cons_prefix_cons).mpr ⟨rfl, hprefix⟩)
            fun heq => hkeys (List.cons.inj heq).2
          rwa [LeadsToTable, LeadsToTable, follow?_table, follow?_table, hinner, hget] at hinside

/-- Where only one of two settings is a table, the upper one is all that is seen. -/
theorem follow?_over_of_one_table (lower : Option Setting) {upper value : Setting}
    {front : List Scalar} (hupper : upper.Unambiguous) (hvalue : upper.follow? front = some value)
    (hone : ¬ ((∃ entries, lower.bind (fun inner => inner.follow? front) = some (.table entries)) ↔
      value.IsTable)) (more : List Scalar) :
    (upper.over lower).follow? (front ++ more) = upper.follow? (front ++ more) := by
  induction front generalizing lower upper with
  | nil =>
      obtain rfl := Option.some.inj hvalue
      obtain ⟨under, above, rfl, rfl⟩ | hself := over_cases lower upper
      · exact absurd ⟨fun _ => ⟨above, rfl⟩, fun _ => ⟨under, rfl⟩⟩ hone
      · rw [hself]
  | cons key front ih =>
      obtain ⟨under, above, rfl, rfl⟩ | hself := over_cases lower upper
      · obtain ⟨inner, hinner, hrest⟩ := Option.bind_eq_some_iff.mp hvalue
        change Settings.get? key above = some inner at hinner
        rw [Setting.over, List.cons_append, follow?_merge hupper.keysApart,
          follow?_table key (front ++ more) above, hinner]
        exact ih _ (hupper.of_get? hinner) hrest hone
      · rw [hself]

end Setting

namespace Settings

variable {lower upper table : Settings} {key : Scalar} {value : Setting}

/-! ## A second merge -/

theorem put_of_get? (h : get? key table = some value) : put key value table = table := by
  induction table with
  | nil => cases h
  | cons entry table ih =>
      rw [get?] at h
      rw [put]
      split at h
      next hkey =>
        obtain rfl := Option.some.inj h
        rw [if_pos hkey]
      next hkey => rw [if_neg hkey, ih h]

/-- A table stays as it is when each setting laid over its own one gives it again. -/
theorem merge_of_absorbed (h : ∀ entry ∈ upper, ∃ value, get? entry.1 table = some value ∧
    entry.2.over (some value) = value) : merge table upper = table := by
  induction upper with
  | nil => rfl
  | cons entry rest ih =>
      rw [List.forall_mem_cons] at h
      obtain ⟨⟨value, hvalue, hover⟩, hrest⟩ := h
      rw [merge, hvalue, hover, put_of_get? hvalue]
      exact ih hrest

theorem get?_of_mem (hkeys : table.KeysApart) {entry : Scalar × Setting} (hentry : entry ∈ table) :
    get? entry.1 table = some entry.2 := by
  induction table with
  | nil => cases hentry
  | cons first table ih =>
      rw [KeysApart, List.pairwise_cons] at hkeys
      rw [get?]
      rcases List.mem_cons.mp hentry with rfl | hentry
      · rw [if_pos (Scalar.isKey_refl _)]
      · rw [if_neg (hkeys.1 entry hentry), ih hkeys.2 hentry]

end Settings

/-- Laid over what it was laid over already, a setting changes nothing. -/
theorem Setting.Unambiguous.over_over {upper : Setting} (h : upper.Unambiguous)
    (lower : Option Setting) : upper.over (some (upper.over lower)) = upper.over lower := by
  induction h generalizing lower with
  | scalar | list => rfl
  | @table entries hkeys hvalues ih =>
      -- Each entry comes upon itself in a table that hides what was below, and upon what became of
      -- it in a merged one.
      obtain ⟨under, above, rfl, habove⟩ | hself := Setting.over_cases lower (.table entries)
      · obtain rfl := Setting.table.inj habove
        refine congrArg Setting.table (Settings.merge_of_absorbed fun entry hentry => ?_)
        refine ⟨_, ?_, ih entry hentry (Settings.get? entry.1 under)⟩
        rw [Settings.get?_merge hkeys, Settings.get?_of_mem hkeys hentry]
      · rw [hself]
        refine congrArg Setting.table (Settings.merge_of_absorbed fun entry hentry => ?_)
        refine ⟨_, Settings.get?_of_mem hkeys hentry, ?_⟩
        have hnone := ih entry hentry none
        rwa [Setting.over_none] at hnone

namespace Settings

variable {lower upper : Settings} {key : Scalar} {value : Setting}

theorem put_of_get?_eq_none (h : get? key lower = none) :
    put key value lower = lower ++ [(key, value)] := by
  induction lower with
  | nil => rfl
  | cons entry lower ih =>
      rw [get?] at h
      rw [put]
      split at h
      next => cases h
      next hkey => rw [if_neg hkey, ih h, List.cons_append]

theorem merge_eq_append (hkeys : KeysApart (lower ++ upper)) :
    merge lower upper = lower ++ upper := by
  induction upper generalizing lower with
  | nil => exact (List.append_nil lower).symm
  | cons entry rest ih =>
      have hnone : get? entry.1 lower = none := by
        rw [get?_eq_none_iff]
        intro other hother
        exact (List.pairwise_append.mp hkeys).2.2 other hother entry List.mem_cons_self
      have hsplit : lower ++ entry :: rest = lower ++ [entry] ++ rest := by
        rw [List.append_assoc, List.singleton_append]
      rw [hsplit] at hkeys ⊢
      rw [merge, hnone, Setting.over_none, put_of_get?_eq_none hnone]
      exact ih hkeys

/-! ## The law of a merge -/

/-- What a path through a merged table leads to.  A setting of the upper table that is no table
stands where it stood.  Where the upper table has no entry, and both have tables in front of it, the
path goes on in the lower one.  Where one of them has a table and the other has none, the path goes
on in the upper one.  The upper table is all there is over an empty one, and merging it again
changes nothing. -/
theorem merge_pathwise (hupper : (Setting.table upper).Unambiguous) (lower : Settings) :
    (∀ path value, (Setting.table upper).follow? path = some value → ¬ value.IsTable →
        (Setting.table (merge lower upper)).follow? path = some value) ∧
      (∀ front path, front <+: path → (Setting.table upper).follow? front = none →
        (∀ keys, keys <+: front → keys ≠ front →
          (Setting.table lower).LeadsToTable keys ∧ (Setting.table upper).LeadsToTable keys) →
        (Setting.table (merge lower upper)).follow? path = (Setting.table lower).follow? path) ∧
      (∀ front path, front <+: path → ((Setting.table upper).follow? front).isSome →
        ¬ ((Setting.table lower).LeadsToTable front ↔
          (Setting.table upper).LeadsToTable front) →
        (Setting.table (merge lower upper)).follow? path = (Setting.table upper).follow? path) ∧
      merge (merge lower upper) upper = merge lower upper ∧ merge [] upper = upper := by
  refine ⟨fun path value hvalue htable => ?_, ?_, ?_, ?_, ?_⟩
  · exact Setting.follow?_over_of_not_isTable hupper hvalue htable (some (.table lower))
  · rintro front _ ⟨more, rfl⟩ habsent htables
    exact Setting.follow?_over_of_absent hupper habsent htables more
  · rintro front _ ⟨more, rfl⟩ hsome hone
    obtain ⟨value, hvalue⟩ := Option.isSome_iff_exists.mp hsome
    have hiff : (Setting.table upper).LeadsToTable front ↔ value.IsTable := by
      rw [Setting.LeadsToTable, hvalue]
      exact exists_congr fun _ => Option.some_inj
    rw [hiff] at hone
    exact Setting.follow?_over_of_one_table (some (.table lower)) hupper hvalue hone more
  · exact Setting.table.inj (hupper.over_over (some (.table lower)))
  · exact merge_eq_append hupper.keysApart

/-- Two tables under one key, and a table over what is none. -/
theorem merge_pathwise_shapes :
    let a : Scalar := .named ['a']
    let b : Scalar := .named ['b']
    let c : Scalar := .named ['c']
    let lower : Settings :=
      [(a, .table [(b, .ofBool true), (c, .ofBool true)]), (b, .ofBool true)]
    let upper : Settings := [(b, .table [(c, .ofBool false)]), (a, .table [(b, .ofBool false)])]
    (Setting.table upper).Unambiguous ∧
      (Setting.table (merge lower upper)).follow? [a, b] = some (.ofBool false) ∧
      (Setting.table (merge lower upper)).follow? [a, c] = some (.ofBool true) ∧
      (Setting.table (merge lower upper)).follow? [b, c] = some (.ofBool false) ∧
      merge (merge lower upper) upper = merge lower upper ∧ merge [] upper = upper := by
  intro a b c lower upper
  have hupper : (Setting.table upper).Unambiguous := by
    have hinner : ∀ key, (Setting.table [(key, .ofBool false)]).Unambiguous := fun key =>
      .table (List.pairwise_singleton _ _) (List.forall_mem_singleton.mpr (.scalar _))
    refine .table (by unfold KeysApart; decide) ?_
    exact List.forall_mem_cons.mpr ⟨hinner c, List.forall_mem_singleton.mpr (hinner b)⟩
  obtain ⟨hscalar, habsent, hone, hagain, hempty⟩ := merge_pathwise hupper lower
  refine ⟨hupper, ?_, ?_, ?_, hagain, hempty⟩
  · exact hscalar [a, b] (.ofBool false) (by decide) nofun
  · refine (habsent [a, c] [a, c] List.prefix_rfl (by decide) ?_).trans
      (by decide)
    intro keys hprefix hne
    obtain rfl | ⟨rest, rfl, hrest⟩ := List.prefix_cons_iff.mp hprefix
    · exact ⟨⟨_, rfl⟩, ⟨_, rfl⟩⟩
    · obtain rfl | ⟨more, rfl, hmore⟩ := List.prefix_cons_iff.mp hrest
      · exact ⟨⟨_, rfl⟩, ⟨_, rfl⟩⟩
      · rw [List.prefix_nil.mp hmore] at hne
        exact absurd rfl hne
  · refine (hone [b] [b, c] (by simp) (by decide) ?_).trans (by decide)
    have hlower : ¬ (Setting.table lower).LeadsToTable [b] := by
      rintro ⟨entries, hentries⟩
      cases hentries
    have hupper : (Setting.table upper).LeadsToTable [b] := ⟨_, rfl⟩
    exact fun hiff => hlower (hiff.mpr hupper)

end Settings

end SqlSnippet
