import SqlSnippet.Settings.Sorted
import Mathlib.Data.List.Basic

/-!
# Tables as mappings

The order in which a table binds its keys says nothing about what it is: two settings are the same
if the same steps lead to the same things in both.  A table that binds each key once is known
by what its keys are bound to.
-/

namespace SqlSnippet

namespace Settings

variable {key other : Scalar} {value : Setting} {table : Settings}

theorem get?_congr (h : key.isKey other) (table : Settings) :
    get? key table = get? other table := by
  induction table with
  | nil => rfl
  | cons entry table ih =>
      have hiff : entry.1.isKey key ↔ entry.1.isKey other :=
        ⟨fun hk => Scalar.isKey_trans hk h, fun ho => Scalar.isKey_trans ho (Scalar.isKey_symm h)⟩
      simp only [get?, hiff, ih]

theorem get?_put : get? other (put key value table) =
    if key.isKey other then some value else get? other table := by
  split
  next h => rw [← get?_congr h, get?_put_self]
  next h => exact get?_put_of_not_isKey value table h

theorem get?_eq_none_iff : get? key table = none ↔ ∀ entry ∈ table, ¬ entry.1.isKey key := by
  induction table with
  | nil => simp [get?]
  | cons entry table ih =>
      rw [get?, List.forall_mem_cons]
      split
      next h => simp [h]
      next h => simp [h, ih]

theorem exists_mem_of_get? (h : get? key table = some value) :
    ∃ entry ∈ table, entry.1.isKey key ∧ entry.2 = value := by
  induction table with
  | nil => cases h
  | cons entry table ih =>
      rw [get?] at h
      split at h
      next hkey => exact ⟨entry, List.mem_cons_self, hkey, Option.some.inj h⟩
      next =>
        obtain ⟨found, hmem, hfound⟩ := ih h
        exact ⟨found, List.mem_cons_of_mem entry hmem, hfound⟩

/-- Every key is bound once. -/
def KeysApart (table : Settings) : Prop := table.Pairwise fun a b => ¬ a.1.isKey b.1

theorem mem_put {entry : Scalar × Setting} (h : entry ∈ put key value table) :
    (entry.1.isKey key ∧ entry.2 = value) ∨ entry ∈ table := by
  induction table with
  | nil =>
      rw [put, List.mem_singleton] at h
      subst h
      exact Or.inl ⟨Scalar.isKey_refl key, rfl⟩
  | cons first table ih =>
      rw [put] at h
      split at h
      next hfirst =>
        rcases List.mem_cons.mp h with rfl | hmem
        · exact Or.inl ⟨hfirst, rfl⟩
        · exact Or.inr (List.mem_cons_of_mem first hmem)
      next =>
        rcases List.mem_cons.mp h with rfl | hmem
        · exact Or.inr List.mem_cons_self
        · exact (ih hmem).imp_right (List.mem_cons_of_mem first)

theorem KeysApart.put (h : KeysApart table) : KeysApart (put key value table) := by
  induction table with
  | nil => exact List.pairwise_singleton _ _
  | cons first table ih =>
      rw [KeysApart, List.pairwise_cons] at h
      rw [Settings.put]
      split
      next => exact List.pairwise_cons.mpr h
      next hfirst =>
        refine List.pairwise_cons.mpr ⟨fun entry hmem hsame => ?_, ih h.2⟩
        rcases mem_put hmem with ⟨hkey, -⟩ | hentry
        · exact hfirst (Scalar.isKey_trans hsame hkey)
        · exact h.1 entry hentry hsame

end Settings

mutual

def Setting.decideEq (a b : Setting) : Decidable (a = b) :=
  match a, b with
  | .scalar s, .scalar s' => decidable_of_iff (s = s') ⟨congrArg _, Setting.scalar.inj⟩
  | .list items, .list items' =>
    @decidable_of_iff _ (items = items') ⟨congrArg _, Setting.list.inj⟩
      (Setting.decideEqItems items items')
  | .table entries, .table entries' =>
    @decidable_of_iff _ (entries = entries') ⟨congrArg _, Setting.table.inj⟩
      (Settings.decideEqEntries entries entries')
  | .scalar _, .list _ | .scalar _, .table _ | .list _, .scalar _ | .list _, .table _
  | .table _, .scalar _ | .table _, .list _ => isFalse nofun
termination_by structural a

def Setting.decideEqItems (a b : List Setting) : Decidable (a = b) :=
  match a, b with
  | [], [] => isTrue rfl
  | item :: rest, item' :: rest' =>
    have := item.decideEq item'
    have := Setting.decideEqItems rest rest'
    decidable_of_iff (item = item' ∧ rest = rest') List.cons_eq_cons.symm
  | [], _ :: _ | _ :: _, [] => isFalse nofun
termination_by structural a

def Settings.decideEqEntries (a b : List (Scalar × Setting)) : Decidable (a = b) :=
  match a, b with
  | [], [] => isTrue rfl
  | (key, value) :: rest, (key', value') :: rest' =>
    have := value.decideEq value'
    have := Settings.decideEqEntries rest rest'
    decidable_of_iff ((key = key' ∧ value = value') ∧ rest = rest')
      (by rw [List.cons_eq_cons, Prod.mk.injEq])
  | [], _ :: _ | _ :: _, [] => isFalse nofun
termination_by structural a

end

instance : DecidableEq Setting := Setting.decideEq

/-- All tables in a setting bind each of their keys once. -/
inductive Setting.Unambiguous : Setting → Prop
  | scalar (s : Scalar) : Unambiguous (.scalar s)
  | list {items : List Setting} (hitems : ∀ item ∈ items, item.Unambiguous) :
      Unambiguous (.list items)
  | table {entries : Settings} (hkeys : entries.KeysApart)
      (hvalues : ∀ entry ∈ entries, entry.2.Unambiguous) : Unambiguous (.table entries)

theorem Setting.Unambiguous.put {key : Scalar} {value : Setting} {table : Settings}
    (htable : (Setting.table table).Unambiguous) (hvalue : value.Unambiguous) :
    (Setting.table (table.put key value)).Unambiguous := by
  cases htable with
  | table hkeys hvalues =>
      refine .table hkeys.put fun entry hmem => ?_
      rcases Settings.mem_put hmem with ⟨-, hentry⟩ | hentry
      · exact hentry ▸ hvalue
      · exact hvalues entry hentry

theorem Setting.unambiguous_nil : (Setting.table []).Unambiguous :=
  .table List.Pairwise.nil fun _ hmem => absurd hmem List.not_mem_nil

theorem Setting.Unambiguous.keysApart {table : Settings} (h : (Setting.table table).Unambiguous) :
    table.KeysApart := by
  cases h with
  | table hkeys => exact hkeys

theorem Setting.Unambiguous.of_get? {key : Scalar} {value : Setting} {table : Settings}
    (h : (Setting.table table).Unambiguous) (hvalue : table.get? key = some value) :
    value.Unambiguous := by
  cases h with
  | table _ hvalues =>
      obtain ⟨entry, hmem, -, rfl⟩ := Settings.exists_mem_of_get? hvalue
      exact hvalues entry hmem

theorem Settings.unambiguous_ofList {bindings : List (Scalar × Setting)}
    (h : ∀ binding ∈ bindings, binding.2.Unambiguous) :
    (Setting.table (ofList bindings)).Unambiguous := by
  have hfold : ∀ table : Settings, (Setting.table table).Unambiguous →
      (Setting.table (bindings.foldl (fun table binding => put binding.1 binding.2 table)
        table)).Unambiguous := by
    induction bindings with
    | nil => exact fun table htable => htable
    | cons binding bindings ih =>
        intro table htable
        rw [List.forall_mem_cons] at h
        exact ih h.2 _ (htable.put h.1)
  exact hfold [] Setting.unambiguous_nil

/-! ## The same up to order -/

/-- A step into a list or into a table. -/
inductive Step where
  | item (position : Nat)
  | key (key : Scalar)

/-- What a setting is, apart from what is in it. -/
inductive Shape where
  | scalar (s : Scalar)
  | list
  | table

namespace Setting

def shape : Setting → Shape
  | scalar s => .scalar s
  | list _ => .list
  | table _ => .table

/-- What a step leads to. -/
def enter? : Step → Setting → Option Setting
  | .item position, .list items => items[position]?
  | .key key, .table entries => Settings.get? key entries
  | _, _ => none

/-- The shape of what several steps lead to. -/
def shapeAt? (value : Setting) : List Step → Option Shape
  | [] => some value.shape
  | step :: rest => (value.enter? step).bind fun inner => inner.shapeAt? rest

/-- Two settings are the same up to the order in which their tables bind their keys. -/
def Same (a b : Setting) : Prop := ∀ steps, a.shapeAt? steps = b.shapeAt? steps

variable {a b c : Setting}

theorem Same.symm (h : a.Same b) : b.Same a := fun steps => (h steps).symm

theorem Same.trans (h : a.Same b) (h' : b.Same c) : a.Same c :=
  fun steps => (h steps).trans (h' steps)

theorem Same.shape_eq (h : a.Same b) : a.shape = b.shape := Option.some.inj (h [])

/-- What a step leads to in one of them it leads to in the other one. -/
theorem Same.exists_enter (h : a.Same b) (step : Step) {inner : Setting}
    (hinner : a.enter? step = some inner) :
    ∃ inner', b.enter? step = some inner' ∧ inner.Same inner' := by
  have hstep : ∀ rest, inner.shapeAt? rest = (b.enter? step).bind fun v => v.shapeAt? rest := by
    intro rest
    have hrest := h (step :: rest)
    rwa [shapeAt?, shapeAt?, hinner, Option.bind_some] at hrest
  cases hother : b.enter? step with
  | none =>
      have hnone := hstep []
      rw [hother] at hnone
      cases hnone
  | some inner' =>
      refine ⟨inner', rfl, fun rest => ?_⟩
      rw [hstep rest, hother, Option.bind_some]

end Setting

namespace Setting

/-- What several keys lead to, one after the other, with a table for each of them. -/
def follow? (value : Setting) : List Scalar → Option Setting
  | [] => some value
  | key :: rest => (value.enter? (.key key)).bind fun inner => inner.follow? rest

def LeadsToTable (value : Setting) (keys : List Scalar) : Prop :=
  ∃ entries, value.follow? keys = some (.table entries)

def IsTable (value : Setting) : Prop := ∃ entries, value = .table entries

theorem follow?_table (key : Scalar) (rest : List Scalar) (entries : Settings) :
    (Setting.table entries).follow? (key :: rest) =
      (Settings.get? key entries).bind fun inner => inner.follow? rest := rfl

theorem follow?_singleton (key : Scalar) (entries : Settings) :
    (Setting.table entries).follow? [key] = Settings.get? key entries :=
  Option.bind_fun_some _

end Setting

/-! ## Sorted tables -/

namespace Settings

variable {key : Scalar} {table table' : Settings}

theorem get?_perm (h : table.Perm table') (hkeys : table.KeysApart) :
    get? key table = get? key table' := by
  induction h with
  | nil => rfl
  | cons entry _ ih => rw [get?, get?, ih (List.pairwise_cons.mp hkeys).2]
  | swap first second table =>
      have happart : ¬ second.1.isKey first.1 :=
        (List.pairwise_cons.mp hkeys).1 first List.mem_cons_self
      simp only [get?]
      split
      next hsecond =>
        have hfirst : ¬ first.1.isKey key := fun hfirst =>
          happart (Scalar.isKey_trans hsecond (Scalar.isKey_symm hfirst))
        rw [if_neg hfirst]
      next => rfl
  | trans hleft hright ihleft ihright =>
      have hkeys' : KeysApart _ := hleft.pairwise hkeys fun happart hsame =>
        happart (Scalar.isKey_symm hsame)
      rw [ihleft hkeys, ihright hkeys']

theorem sortedEntries_eq_map (entries : List (Scalar × Setting)) :
    sortedEntries entries = entries.map fun entry => (entry.1, entry.2.sorted) := by
  induction entries with
  | nil => rfl
  | cons entry entries ih => rw [sortedEntries, ih, List.map_cons]

theorem get?_sortedEntries (table : Settings) :
    get? key (sortedEntries table) = (get? key table).map Setting.sorted := by
  induction table with
  | nil => rfl
  | cons entry table ih =>
      rw [sortedEntries, get?, get?, ih]
      split <;> rfl

theorem get?_sorted (hkeys : table.KeysApart) :
    get? key (sorted (sortedEntries table)) = (get? key table).map Setting.sorted := by
  have hentries : KeysApart (sortedEntries table) := by
    rw [KeysApart, sortedEntries_eq_map, List.pairwise_map]
    exact hkeys
  rw [← get?_sortedEntries]
  exact (get?_perm (sorted_perm _).symm hentries).symm

end Settings

namespace Setting

theorem getElem?_sortedItems (items : List Setting) (position : Nat) :
    (sortedItems items)[position]? = items[position]?.map sorted := by
  induction items generalizing position with
  | nil => rfl
  | cons item items ih =>
      cases position with
      | zero => rfl
      | succ position => exact ih position

/-- Sorting all tables in a setting leaves it the same. -/
theorem Unambiguous.same_sorted {a : Setting} (h : a.Unambiguous) : a.sorted.Same a := by
  intro steps
  induction steps generalizing a with
  | nil => cases h <;> rfl
  | cons step rest ih =>
      cases a with
      | scalar => rfl
      | list items =>
          cases step with
          | key => rfl
          | item position =>
              have hitems : ∀ item ∈ items, item.Unambiguous := by
                cases h with
                | list hitems => exact hitems
              simp only [sorted, shapeAt?, enter?, getElem?_sortedItems]
              cases hitem : items[position]? with
              | none => rfl
              | some item => exact ih (hitems item (List.mem_of_getElem? hitem))
      | table entries =>
          cases step with
          | item => rfl
          | key key =>
              simp only [sorted, shapeAt?, enter?, Settings.get?_sorted h.keysApart]
              cases hget : Settings.get? key entries with
              | none => rfl
              | some value => exact ih (h.of_get? hget)

end Setting

end SqlSnippet
