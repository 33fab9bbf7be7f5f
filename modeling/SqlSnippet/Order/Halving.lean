/-!
# Sorting by halving

A list is sorted from its first run on: the longest part at the front that rises, or that falls and
is turned round.  Every further element is put behind the last element that it does not come before,
which is looked for in one half of what is sorted, then in a half of that half, and so on.  Where
"before" is no order, as with values that cannot be compared, the outcome still follows from the
elements and their sequence.
-/

namespace SqlSnippet

variable {α : Type}

def insertHalving (before : α → α → Bool) (a : α) (list : List α) : List α :=
  match _h : list.drop (list.length / 2) with
  | [] => [a]
  | middle :: behind =>
    let front := list.take (list.length / 2)
    if before a middle then insertHalving before a front ++ middle :: behind
    else front ++ middle :: insertHalving before a behind
termination_by list.length
decreasing_by
  all_goals
    have h := congrArg List.length _h
    grind

/-- The elements that follow `last` as long as each keeps to the one in front of it, and the
rest. -/
def splitRun (keeps : α → α → Bool) (last : α) : List α → List α × List α
  | [] => ([], [])
  | a :: rest =>
    if keeps a last then
      let (run, behind) := splitRun keeps a rest
      (a :: run, behind)
    else ([], a :: rest)

/-- The elements sorted by `before`; those of which neither comes before the other keep their
order. -/
def sortHalving (before : α → α → Bool) : List α → List α
  | a :: b :: rest =>
    let falls := before b a
    let (run, behind) := splitRun (fun later earlier => before later earlier == falls) a (b :: rest)
    let first := if falls then (a :: run).reverse else a :: run
    behind.foldl (fun sorted x => insertHalving before x sorted) first
  | list => list

theorem insertHalving_perm (before : α → α → Bool) (a : α) (list : List α) :
    (insertHalving before a list).Perm (a :: list) := by
  induction hn : list.length using Nat.strongRecOn generalizing list with
  | ind n ih =>
    unfold insertHalving
    have hsplit : list.take (list.length / 2) ++ list.drop (list.length / 2) = list :=
      List.take_append_drop _ _
    split
    · next h =>
      have hlen := congrArg List.length h
      simp only [List.length_drop, List.length_nil] at hlen
      have : list.length = 0 := by omega
      rw [List.length_eq_zero_iff.1 this]
    · next middle behind h =>
      have hlen := congrArg List.length h
      simp only [List.length_drop, List.length_cons] at hlen
      have hlist : list = list.take (list.length / 2) ++ middle :: behind := by
        rw [← h]
        exact hsplit.symm
      split
      · have hfront := ih (list.take (list.length / 2)).length
          (by simp only [List.length_take]; omega) _ rfl
        exact (hfront.append_right (middle :: behind)).trans (by rw [List.cons_append, ← hlist])
      · have hbehind := ih behind.length (by omega) _ rfl
        have hmove : (list.take (list.length / 2) ++ middle :: insertHalving before a behind).Perm
            (list.take (list.length / 2) ++ middle :: a :: behind) :=
          (hbehind.cons middle).append_left _
        have hswap : (list.take (list.length / 2) ++ middle :: a :: behind).Perm
            (list.take (list.length / 2) ++ a :: middle :: behind) :=
          (List.Perm.swap a middle behind).append_left _
        refine hmove.trans (hswap.trans (List.perm_middle.trans ?_))
        rw [← hlist]

theorem splitRun_append (keeps : α → α → Bool) (last : α) (list : List α) :
    (splitRun keeps last list).1 ++ (splitRun keeps last list).2 = list := by
  induction list generalizing last with
  | nil => rfl
  | cons a rest ih =>
    unfold splitRun
    split
    · simp [ih]
    · rfl

theorem foldl_insertHalving_perm (before : α → α → Bool) (sorted list : List α) :
    (list.foldl (fun sorted x => insertHalving before x sorted) sorted).Perm (sorted ++ list) := by
  induction list generalizing sorted with
  | nil => simp
  | cons a rest ih =>
    refine (ih _).trans ?_
    refine ((insertHalving_perm before a sorted).append_right rest).trans ?_
    exact List.perm_middle.symm

theorem sortHalving_perm (before : α → α → Bool) (list : List α) :
    (sortHalving before list).Perm list := by
  match list with
  | [] => exact .refl _
  | [_] => exact .refl _
  | a :: b :: rest =>
    have hrun := splitRun_append (fun later earlier => before later earlier == before b a) a
      (b :: rest)
    simp only [sortHalving]
    refine (foldl_insertHalving_perm before _ _).trans ?_
    split
    · refine ((List.reverse_perm _).append_right _).trans ?_
      rw [List.cons_append, hrun]
    · rw [List.cons_append, hrun]

end SqlSnippet
