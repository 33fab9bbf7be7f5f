/-!
# Sorting by a position

A list is sorted by inserting its elements from the right, each one in front of the first
element that does not come before it.  Elements with the same key keep their order.
-/

namespace SqlSnippet

/-- Put `a` in front of the first element whose key is not smaller. -/
def insertByKey {α : Type} (key : α → Nat) (a : α) : List α → List α
  | [] => [a]
  | b :: rest => if key a ≤ key b then a :: b :: rest else b :: insertByKey key a rest

/-- The elements in the order of their keys. -/
def sortByKey {α : Type} (key : α → Nat) (list : List α) : List α :=
  list.foldr (insertByKey key) []

theorem insertByKey_perm {α : Type} (key : α → Nat) (a : α) (list : List α) :
    (insertByKey key a list).Perm (a :: list) := by
  induction list with
  | nil => exact List.Perm.refl _
  | cons b rest ih =>
    unfold insertByKey
    split
    · exact List.Perm.refl _
    · exact (ih.cons b).trans (List.Perm.swap a b rest)

theorem sortByKey_perm {α : Type} (key : α → Nat) (list : List α) :
    (sortByKey key list).Perm list := by
  induction list with
  | nil => exact List.Perm.refl _
  | cons a rest ih => exact (insertByKey_perm key a _).trans (ih.cons a)

end SqlSnippet
