import SqlSnippet.Proofs.Splice

/-!
# Quotes behind an edit

Whether a character stands inside a literal is told by the quotes before it.  What an edit
writes has its quotes in pairs, and so has a literal that was read up to its closing quote.
A list is read up to the next parenthesis, which may stand inside one of its members.  Then
the edit takes away the opening quote of that member and leaves the closing one, so that
everything behind changes sides.
-/

namespace SqlSnippet

open Chars

/-- The text ends inside a literal: its quotes do not come in pairs. -/
def endsInLiteral (t : Text) : Bool := t.count quoteMark % 2 == 1

/-- An edit of the parameter leaves the quotes behind it in pairs: a list does not end inside
one of its members. -/
def Parameter.ClosesLiterals (p : Parameter) : Prop :=
  p.kind = .list → endsInLiteral p.clause = false

theorem endsInLiteral_append (t u : Text) :
    endsInLiteral (t ++ u) = (endsInLiteral t ^^ endsInLiteral u) := by
  rw [endsInLiteral, endsInLiteral, endsInLiteral, List.count_append, Nat.add_mod]
  rcases Nat.mod_two_eq_zero_or_one (t.count quoteMark) with ht | ht <;>
    rcases Nat.mod_two_eq_zero_or_one (u.count quoteMark) with hu | hu <;>
      rw [ht, hu] <;> rfl

theorem endsInLiteral_of_notMem {t : Text} (h : quoteMark ∉ t) : endsInLiteral t = false := by
  rw [endsInLiteral, List.count_eq_zero_of_not_mem h]
  rfl

theorem endsInLiteral_enclosed (value : Text) :
    endsInLiteral value.enclosed = endsInLiteral value := by
  have hsplit : value.enclosed = [quoteMark] ++ (value ++ [quoteMark]) := rfl
  have hquote : endsInLiteral [quoteMark] = true := by decide
  rw [hsplit, endsInLiteral_append, endsInLiteral_append, hquote, Bool.xor_true, Bool.true_xor,
    Bool.not_not]

theorem endsInLiteral_doubleQuotes (value : Text) :
    endsInLiteral value.doubleQuotes = false := by
  rw [endsInLiteral, Text.count_doubleQuotes, Nat.mul_mod_right]
  rfl

theorem endsInLiteral_quoted (value : Text) : endsInLiteral value.quoted = false := by
  rw [Text.quoted, endsInLiteral_enclosed, endsInLiteral_doubleQuotes]

theorem endsInLiteral_joinMembers {members : List Text}
    (h : ∀ member ∈ members, endsInLiteral member = false) :
    endsInLiteral (joinMembers members) = false := by
  induction members with
  | nil => decide
  | cons member members ih =>
      have hmember := h member List.mem_cons_self
      have hrest := ih fun other hother => h other (List.mem_cons_of_mem member hother)
      have hsep : endsInLiteral [',', ' '] = false := by decide
      rw [joinMembers, Text.join] at hrest ⊢
      by_cases hnil : members = []
      · rw [hnil, List.intercalate_singleton]
        exact hmember
      · rw [List.intercalate_cons_of_ne_nil hnil, endsInLiteral_append, endsInLiteral_append,
          hmember, hsep, hrest]
        rfl

theorem Parameter.endsInLiteral_written (p : Parameter) (value : Text) :
    endsInLiteral (p.written value) = false := by
  by_cases hkind : p.kind = .list
  · have hmembers : ∀ member ∈ quoteMembers value, endsInLiteral member = false := by
      intro member hmember
      obtain ⟨part, -, rfl⟩ := List.mem_map.mp hmember
      exact endsInLiteral_quoted _
    have hwritten : p.written value = ['('] ++ (joinMembers (quoteMembers value) ++ [')']) := by
      rw [Parameter.written, hkind]
      rfl
    have hopen : endsInLiteral ['('] = false := by decide
    have hclose : endsInLiteral [')'] = false := by decide
    rw [hwritten, endsInLiteral_append, endsInLiteral_append, hopen, hclose,
      endsInLiteral_joinMembers hmembers]
    rfl
  · rw [p.written_eq_quoted hkind, endsInLiteral_quoted]

/-- The literal of a parameter has its quotes in pairs, unless it is a list that ends inside
one of its members. -/
theorem Hit.endsInLiteral_slot {t : Text} {h : Hit} (hc : h.clause.WellFormed) {p : Parameter}
    (hp : p ∈ h.parameters t) {slot : Slot} (hslot : h.clause.slot? p.kind = some slot) :
    endsInLiteral slot.literal = false ↔ p.ClosesLiterals := by
  rcases h with ⟨start, c | c | c⟩
  · have hc : c.WellFormed := hc
    rcases List.mem_pair.mp hp with rfl | rfl
    · obtain rfl := Option.some.inj hslot
      rw [endsInLiteral_enclosed, endsInLiteral_of_notMem hc.low.1]
      simp [Parameter.ClosesLiterals, Hit.whole]
    · obtain rfl := Option.some.inj hslot
      rw [endsInLiteral_enclosed, endsInLiteral_of_notMem hc.high.1]
      simp [Parameter.ClosesLiterals, Hit.whole]
  · have hc : c.WellFormed := hc
    have hlead : endsInLiteral c.lead = false :=
      endsInLiteral_of_notMem (hc.isRun_lead.notMem (by decide))
    obtain rfl := List.mem_singleton.mp hp
    obtain rfl := Option.some.inj hslot
    have hclause : endsInLiteral c.text = endsInLiteral ('(' :: c.body ++ [')']) := by
      rw [ListClause.text, List.append_assoc, endsInLiteral_append, hlead, Bool.false_xor]
    rw [← hclause]
    exact ⟨fun hbody _ => hbody, fun hbody => hbody rfl⟩
  · have hc : c.WellFormed := hc
    obtain rfl := List.mem_singleton.mp hp
    obtain rfl := Option.some.inj hslot
    rw [endsInLiteral_enclosed, endsInLiteral_of_notMem hc.value]
    simp [Parameter.ClosesLiterals, Hit.whole]

/-- Texts that differ in one part end on the same side when both parts have their quotes in
pairs, and on different sides when only one of them has. -/
theorem endsInLiteral_exchange {part : Text} (hpart : endsInLiteral part = false)
    (front old behind : Text) :
    endsInLiteral (front ++ (part ++ behind)) = endsInLiteral (front ++ (old ++ behind)) ↔
      endsInLiteral old = false := by
  simp only [endsInLiteral_append, hpart, Bool.false_xor]
  rcases endsInLiteral front <;> rcases endsInLiteral old <;> rcases endsInLiteral behind <;>
    decide

/-- The quotes of two texts have the same parity exactly when both texts end inside a literal
or none of them does. -/
theorem endsInLiteral_eq_iff {t u : Text} :
    endsInLiteral t = endsInLiteral u ↔ t.count quoteMark % 2 = u.count quoteMark % 2 := by
  rw [endsInLiteral, endsInLiteral]
  rcases Nat.mod_two_eq_zero_or_one (t.count quoteMark) with ht | ht <;>
    rcases Nat.mod_two_eq_zero_or_one (u.count quoteMark) with hu | hu <;>
      rw [ht, hu] <;> decide

/-- Setting a parameter keeps the parity of the quotes, and for every later character whether
it stands inside a literal, exactly when the parameter is no list that ends inside one of its
members. -/
theorem setValue_keeps_literals {t : Text} {i : Nat} {p : Parameter}
    (hp : (parameters t)[i]? = some p) (value : Text) :
    ∃ front literal behind t', t = front ++ (literal ++ behind) ∧
      p.Occupies t front.length (front.length + literal.length) ∧
      setValue t i value = .ok t' ∧ t' = front ++ (p.written value ++ behind) ∧
      (t'.count quoteMark % 2 = t.count quoteMark % 2 ↔ p.ClosesLiterals) ∧
      ∀ n, endsInLiteral (front ++ (p.written value ++ behind.take n)) =
        endsInLiteral (front ++ (literal ++ behind.take n)) ↔ p.ClosesLiterals := by
  obtain ⟨h, hmem, hrow⟩ := mem_parameters_iff.mp (List.mem_of_getElem? hp)
  obtain ⟨front, rest, hh⟩ := exists_stands_of_mem_clauses hmem
  obtain ⟨slot, hslot⟩ := Hit.exists_slot hrow
  have hsplit := hh.text_of_slot? hslot
  have hset : substitute t p.target value =
      (front ++ slot.before) ++ (p.written value ++ (slot.after ++ rest)) := by
    rw [substitute_eq hh hrow hslot, List.append_assoc]
  have hexchange : ∀ behind,
      endsInLiteral ((front ++ slot.before) ++ (p.written value ++ behind)) =
        endsInLiteral ((front ++ slot.before) ++ (slot.literal ++ behind)) ↔
          p.ClosesLiterals := by
    intro behind
    exact (endsInLiteral_exchange (p.endsInLiteral_written value) _ slot.literal behind).trans
      (Hit.endsInLiteral_slot hh.wellFormed hrow hslot)
  have hquotes := hexchange (slot.after ++ rest)
  rw [← hsplit, ← hset, endsInLiteral_eq_iff] at hquotes
  refine ⟨front ++ slot.before, slot.literal, slot.after ++ rest, _, hsplit,
    hh.occupies hmem hrow hslot, setValue_eq hp value, hset, hquotes, ?_⟩
  intro n
  exact hexchange _

/-- The members of a list become one with a quote and one with parentheses. -/
theorem setValue_keeps_literals_members :
    ∃ t', setValue (Text.ofString "a in ('x', 'y') or b = 'z'") 0 (Text.ofString "it's, (so)") =
        .ok t' ∧
      t'.count quoteMark % 2 =
        (Text.ofString "a in ('x', 'y') or b = 'z'").count quoteMark % 2 := by
  have hat : ((parameters (Text.ofString "a in ('x', 'y') or b = 'z'"))[0]?.map fun p =>
      endsInLiteral p.clause) = some false := by decide
  obtain ⟨p, hp, hclause⟩ := Option.map_eq_some_iff.mp hat
  obtain ⟨front, literal, behind, t', -, -, hset, -, hquotes, -⟩ :=
    setValue_keeps_literals hp (Text.ofString "it's, (so)")
  exact ⟨t', hset, hquotes.mpr fun _ => hclause⟩

/-- A list with a parenthesis inside its first member ends there; setting it takes away the
opening quote of that member and leaves the closing one. -/
theorem setValue_cuts_member :
    ∃ t', setValue (Text.ofString "name in ('Lee (Jr)', 'Kim') and c = 'k'") 0
        (Text.ofString "Ann") = .ok t' ∧
      t' = Text.ofString "name in ('Ann')', 'Kim') and c = 'k'" ∧
      t'.count quoteMark % 2 ≠
        (Text.ofString "name in ('Lee (Jr)', 'Kim') and c = 'k'").count quoteMark % 2 :=
  ⟨_, rfl, by decide, by decide⟩

end SqlSnippet
