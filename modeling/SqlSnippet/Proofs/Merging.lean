import SqlSnippet.Proofs.Tables
import SqlSnippet.Settings.Merge
import SqlSnippet.Settings.Path

/-!
# Merging over defaults

Each key of a merged table is bound to the setting of the upper table, laid over that of the lower
one.  Once an upper table has all keys of a lower one, at every depth where both have tables,
nothing of the lower one is left to be seen, and a merge gives the upper table again.  Merging leads
to such a table, and no assignment of a scalar leads away from it.
-/

namespace SqlSnippet

namespace Settings

variable {lower upper : Settings} {key : Scalar}

theorem get?_merge (hkeys : upper.KeysApart) :
    get? key (merge lower upper) =
      match get? key upper with
      | none => get? key lower
      | some value => some (value.over (get? key lower)) := by
  induction upper generalizing lower with
  | nil => rfl
  | cons entry rest ih =>
      obtain ⟨first, value⟩ := entry
      rw [KeysApart, List.pairwise_cons] at hkeys
      rw [merge, ih hkeys.2, get?, get?_put]
      by_cases hfirst : first.isKey key
      · have hrest : get? key rest = none := by
          rw [get?_eq_none_iff]
          intro other hother hkey
          exact hkeys.1 other hother (Scalar.isKey_trans hfirst (Scalar.isKey_symm hkey))
        simp only [hrest, hfirst, ↓reduceIte, get?_congr hfirst]
      · simp only [hfirst, ↓reduceIte]

/-- Every key of the lower table is bound in the upper one, and so it is in tables that both have
under one key. -/
inductive Covers : Settings → Settings → Prop
  | intro {upper lower : Settings}
      (hbound : ∀ key, (get? key lower).isSome = true → (get? key upper).isSome = true)
      (hinner : ∀ key inner outer, get? key lower = some (.table inner) →
        get? key upper = some (.table outer) → Covers outer inner) : Covers upper lower

theorem sizeOf_lt_of_get? {value : Setting} (h : get? key upper = some value) :
    sizeOf value < sizeOf upper := by
  obtain ⟨⟨bound, value⟩, hmem, -, rfl⟩ := exists_mem_of_get? h
  have hentry := List.sizeOf_lt_of_mem hmem
  rw [Prod.mk.sizeOf_spec] at hentry
  change sizeOf value < sizeOf upper
  omega

theorem Covers.refl (table : Settings) : Covers table table := by
  refine .intro (fun _ hbound => hbound) fun key inner outer hinner houter => ?_
  obtain rfl : inner = outer := Setting.table.inj (Option.some.inj (hinner.symm.trans houter))
  have hsize := sizeOf_lt_of_get? hinner
  exact Covers.refl inner
termination_by sizeOf table
decreasing_by
  rw [Setting.table.sizeOf_spec] at hsize
  omega

/-- A merged table covers what was below. -/
theorem covers_merge (h : (Setting.table upper).Unambiguous) (lower : Settings) :
    Covers (merge lower upper) lower := by
  generalize hvalue : Setting.table upper = value at h
  induction h generalizing upper lower with
  | scalar | list => cases hvalue
  | @table entries hkeys hvalues ih =>
      obtain rfl := Setting.table.inj hvalue
      refine .intro (fun key hbound => ?_) fun key inner outer hinner houter => ?_
      · rw [get?_merge hkeys]
        split
        · exact hbound
        · rfl
      · rw [get?_merge hkeys, hinner] at houter
        cases hget : get? key upper with
        | none =>
            rw [hget] at houter
            obtain rfl := Setting.table.inj (Option.some.inj houter)
            exact Covers.refl inner
        | some value =>
            rw [hget] at houter
            obtain ⟨entry, hmem, -, hentry⟩ := exists_mem_of_get? hget
            cases value with
            | scalar | list => cases houter
            | table above =>
                obtain rfl := Setting.table.inj (Option.some.inj houter)
                exact ih entry hmem inner hentry.symm

/-- Over a table that it covers, a table comes out of a merge as it was. -/
theorem Covers.merge_same (h : Covers upper lower) (hupper : (Setting.table upper).Unambiguous) :
    (Setting.table (merge lower upper)).Same (.table upper) := by
  intro steps
  induction steps generalizing upper lower with
  | nil => rfl
  | cons step rest ih =>
      obtain ⟨hbound, hinner⟩ := h
      cases step with
      | item => rfl
      | key key =>
          simp only [Setting.shapeAt?, Setting.enter?, get?_merge hupper.keysApart]
          cases hget : get? key upper with
          | none =>
              have hlower : get? key lower = none := by
                by_contra hne
                have hsome := hbound key (Option.isSome_iff_ne_none.mpr hne)
                rw [hget] at hsome
                cases hsome
              rw [hlower]
          | some value =>
              cases value with
              | scalar | list => rfl
              | table above =>
                  cases hunder : get? key lower with
                  | none => rfl
                  | some under =>
                      cases under with
                      | scalar | list => rfl
                      | table inner =>
                          exact ih (hinner key inner above hunder hget) (hupper.of_get? hget)

/-! ## Tables that cover others -/

theorem Covers.of_same {upper' : Settings} (h : Covers upper lower)
    (hsame : (Setting.table upper).Same (.table upper')) : Covers upper' lower := by
  induction h generalizing upper' with
  | @intro upper lower hbound hinner ih =>
      refine .intro (fun key hkey => ?_) fun key inner outer hlower houter => ?_
      · obtain ⟨value, hvalue⟩ := Option.isSome_iff_exists.mp (hbound key hkey)
        obtain ⟨value', hvalue', -⟩ := hsame.exists_enter (.key key) hvalue
        exact Option.isSome_iff_exists.mpr ⟨value', hvalue'⟩
      · obtain ⟨value, hvalue, hsame'⟩ := hsame.symm.exists_enter (.key key) houter
        cases value with
        | scalar | list => cases hsame'.shape_eq
        | table outer' => exact ih key inner outer' hlower hvalue hsame'.symm

theorem Covers.put {value : Setting} (h : Covers upper lower)
    (hvalue : ∀ inner outer, get? key lower = some (.table inner) → value = .table outer →
      Covers outer inner) : Covers (put key value upper) lower := by
  obtain ⟨hbound, hinner⟩ := h
  refine .intro (fun other hother => ?_) fun other inner outer hlower houter => ?_
  · rw [get?_put]
    split
    · rfl
    · exact hbound other hother
  · rw [get?_put] at houter
    split at houter
    next hkey =>
      rw [← get?_congr hkey] at hlower
      exact hvalue inner outer hlower (Option.some.inj houter)
    next => exact hinner other inner outer hlower houter

/-- The assignment of a scalar may take the place of a table, but it takes no key away. -/
theorem Covers.setPath? {path : List CodeText} {x : Scalar} {upper' : Settings}
    (h : Covers upper lower) (hset : setPath? path (.scalar x) upper = some upper') :
    Covers upper' lower := by
  induction path generalizing upper upper' lower with
  | nil =>
      obtain rfl := Option.some.inj hset
      exact h
  | cons first rest ih =>
      cases rest with
      | nil =>
          obtain rfl := Option.some.inj hset
          exact h.put fun _ _ _ hvalue => Setting.noConfusion hvalue
      | cons second rest =>
          simp only [Settings.setPath?] at hset
          split at hset
          next hnone =>
            obtain ⟨made, -, rfl⟩ := Option.map_eq_some_iff.mp hset
            refine h.put fun inner outer hlower _ => ?_
            obtain ⟨hbound, -⟩ := h
            have hsome := hbound (.text first) (Option.isSome_iff_exists.mpr ⟨_, hlower⟩)
            rw [hnone] at hsome
            cases hsome
          next old hold =>
            obtain ⟨changed, hchanged, rfl⟩ := Option.map_eq_some_iff.mp hset
            refine h.put fun inner outer hlower houter => ?_
            obtain rfl := Setting.table.inj houter
            obtain ⟨-, hinner⟩ := h
            exact ih (hinner (.text first) inner old hlower hold) hchanged
          next => cases hset

theorem unambiguous_setPath? {path : List CodeText} {value : Setting} {upper' : Settings}
    (hupper : (Setting.table upper).Unambiguous) (hvalue : value.Unambiguous)
    (hset : Settings.setPath? path value upper = some upper') :
    (Setting.table upper').Unambiguous := by
  induction path generalizing upper upper' with
  | nil =>
      obtain rfl := Option.some.inj hset
      exact hupper
  | cons first rest ih =>
      cases rest with
      | nil =>
          obtain rfl := Option.some.inj hset
          exact hupper.put hvalue
      | cons second rest =>
          simp only [Settings.setPath?] at hset
          split at hset
          next =>
            obtain ⟨made, hmade, rfl⟩ := Option.map_eq_some_iff.mp hset
            exact hupper.put (ih Setting.unambiguous_nil hmade)
          next old hold =>
            obtain ⟨changed, hchanged, rfl⟩ := Option.map_eq_some_iff.mp hset
            exact hupper.put (ih (hupper.of_get? hold) hchanged)
          next => cases hset

/-- What every assignment of a scalar preserves is preserved by an update with scalars, also where
it breaks off. -/
theorem update_induction {P : Settings → Prop} {changes : List (CodeText × Setting)}
    (hassign : ∀ {table table' : Settings} {path : List CodeText} {x : Scalar}, P table →
      Settings.setPath? path (.scalar x) table = some table' → P table')
    (hscalar : ∀ change ∈ changes, ∃ x, change.2 = .scalar x) (h : P upper) :
    P (upper.update changes).settings := by
  have hall : P (upper.assignAll changes).settings := by
    induction changes generalizing upper with
    | nil => exact h
    | cons change changes ih =>
        obtain ⟨name, value⟩ := change
        rw [List.forall_mem_cons] at hscalar
        obtain ⟨⟨x, hx⟩, hchanges⟩ := hscalar
        obtain rfl : value = .scalar x := hx
        by_cases hnull : x = .null
        · rw [hnull]
          exact ih hchanges h
        · rw [assignAll]
          · split
            next changed hset => exact ih hchanges (hassign h hset)
            next => exact h
          · intro hx
            exact hnull (Setting.scalar.inj hx)
  rw [Settings.update]
  split
  next => exact h
  next => exact hall

theorem Covers.update {changes : List (CodeText × Setting)} (h : Covers upper lower)
    (hscalar : ∀ change ∈ changes, ∃ x, change.2 = .scalar x) :
    Covers (upper.update changes).settings lower :=
  update_induction Covers.setPath? hscalar h

theorem unambiguous_update {changes : List (CodeText × Setting)}
    (h : (Setting.table upper).Unambiguous)
    (hscalar : ∀ change ∈ changes, ∃ x, change.2 = .scalar x) :
    (Setting.table (upper.update changes).settings).Unambiguous :=
  update_induction (fun htable hset => unambiguous_setPath? htable (.scalar _) hset) hscalar h

end Settings

end SqlSnippet
