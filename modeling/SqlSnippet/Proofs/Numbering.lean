import SqlSnippet.Proofs.Interchange
import SqlSnippet.Proofs.Sessions

/-!
# The numbers of controls

The number of a control is the place of its parameter in the list that was shown, counted with those
that are passed over.  Parameters of one snippet are told apart by their spans, so a list of them
has one control for each, at its first place.  The list of all has no repeats, and there a
number leads from a control to the parameter that an edit with this number changes.
-/

namespace SqlSnippet

/-- Parameters of one text that own the same stretch are the same. -/
theorem eq_of_span_eq {t : Text} {p q : Parameter} (hp : p ∈ parameters t) (hq : q ∈ parameters t)
    (h : p.span = q.span) : p = q :=
  List.inj_on_of_nodup_map (nodup_spans t) hp hq h

/-- Each parameter that was not seen has one control, numbered by its first place. -/
theorem controlsFrom_eq_eraseDups {t : Text} {list : List Parameter}
    (hlist : ∀ p ∈ list, p ∈ parameters t) (index : Nat) (seen : List (Nat × Nat)) :
    controlsFrom index seen list =
      (list.filter fun p => !seen.contains p.span).eraseDups.map
        fun p => Control.of (index + list.idxOf p) p := by
  induction list generalizing index seen with
  | nil => rfl
  | cons p rest ih =>
      rw [List.forall_mem_cons] at hlist
      obtain ⟨hp, hrest⟩ := hlist
      have hlater : ∀ q, q ≠ p →
          Control.of (index + 1 + rest.idxOf q) q = Control.of (index + (p :: rest).idxOf q) q := by
        intro q hq
        rw [List.idxOf_cons_ne rest hq.symm, Nat.add_assoc, Nat.add_comm 1]
      rw [controlsFrom]
      cases hseen : seen.contains p.span with
      | true =>
          rw [if_pos rfl, ih hrest, List.filter_cons_of_neg (by rw [hseen]; decide)]
          refine List.map_congr_left fun q hq => hlater q ?_
          rintro rfl
          have hfree := (List.mem_filter.mp (List.mem_eraseDups.mp hq)).2
          rw [hseen] at hfree
          cases hfree
      | false =>
          have htail : (rest.filter fun q => !(p.span :: seen).contains q.span) =
              (rest.filter fun q => !seen.contains q.span).filter fun q => !q == p := by
            rw [List.filter_filter]
            refine List.filter_congr fun q hq => ?_
            have hiff : q.span = p.span ↔ q = p :=
              ⟨eq_of_span_eq (hrest q hq) hp, congrArg Parameter.span⟩
            rw [List.contains_cons, Bool.not_or, Bool.beq_eq_decide_eq, Bool.beq_eq_decide_eq,
              decide_eq_decide.mpr hiff]
          rw [if_neg Bool.false_ne_true, ih hrest, List.filter_cons_of_pos (by rw [hseen]; rfl),
            List.eraseDups_cons, List.map_cons, List.idxOf_cons_self, htail]
          refine congrArg (Control.of index p :: ·) (List.map_congr_left fun q hq => hlater q ?_)
          have hne := (List.mem_filter.mp (List.mem_eraseDups.mp hq)).2
          simpa using hne

theorem controlsOf_eq_eraseDups {t : Text} {list : List Parameter}
    (hlist : ∀ p ∈ list, p ∈ parameters t) :
    controlsOf list = list.eraseDups.map fun p => Control.of (list.idxOf p) p := by
  have hall : (list.filter fun p => !([] : List (Nat × Nat)).contains p.span) = list :=
    List.filter_eq_self.mpr fun _ _ => rfl
  rw [controlsOf, controlsFrom_eq_eraseDups hlist, hall]
  simp only [Nat.zero_add]

theorem getElem?_controls (t : Text) (n : Nat) :
    (controls t)[n]? = (parameters t)[n]?.map (Control.of n) := by
  rw [controls_eq, List.getElem?_mapIdx]

/-- What a session replies to a number: it asks for the value of the control at this place, or tells
that there is none. -/
def numberReply (t : Text) (n : Nat) : ConsoleEvent :=
  match (controls t)[n]? with
  | some c => valuePrompt c
  | none => noControl n

theorem runSession_number {console : Console} {showPreview : Bool} {t answer : Text} {n : Nat}
    (hspells : Spells answer.strip (.edit n)) (rest : List Answer) :
    screen showPreview t ++ [numberReply t n] <+:
      (runSession console showPreview t (.line answer :: rest)).console := by
  rw [numberReply, getElem?_controls]
  cases hp : (parameters t)[n]? with
  | none =>
      rw [runSession_outside hspells (List.getElem?_eq_none_iff.mp hp)]
      exact List.prefix_append _ _
  | some p =>
      simp only [runSession, hspells.of_eq, find?_controls, hp, Option.map_some]
      split
      · exact List.prefix_rfl
      · exact List.prefix_rfl
      · split
        · exact List.prefix_append _ _
        · split
          · exact List.prefix_append _ _
          · exact (List.prefix_append _ _).trans (List.prefix_append _ _)

/-- A control shows the field, the literal and the line of a parameter. -/
structure Control.ShowsParameter (c : Control) (p : Parameter) : Prop where
  label : c.label = p.field
  literal : c.literal = p.value
  lineStart : c.lineStart = p.lineStart

theorem Control.showsParameter_of (index : Nat) (p : Parameter) :
    (Control.of index p).ShowsParameter p := ⟨rfl, rfl, rfl⟩

/-- The controls of a snippet are those of its parameters in order, numbered by their places, and a
session that is given a number replies with the control at this place if there is one.  A
value that is set and a line that is toggled under the number of a control are those of the
parameter that it shows.  Any list of the parameters has one control for each of them, in the order
in which they first occur, numbered by the place where they do. -/
theorem controls_address (t : Text) {list : List Parameter}
    (hlist : ∀ p ∈ list, p ∈ parameters t) :
    controls t = (parameters t).mapIdx Control.of ∧
      (∀ n, ((controls t).find? fun c => c.index == n).isSome ↔ n < (parameters t).length) ∧
      (∀ console showPreview answer n rest, Spells answer.strip (.edit n) →
        screen showPreview t ++ [numberReply t n] <+:
          (runSession console showPreview t (.line answer :: rest)).console) ∧
      (∀ c ∈ controls t, ∃ p, (parameters t)[c.index]? = some p ∧ c.ShowsParameter p ∧
        (∀ value, setValue t c.index value = .ok (substitute t p.target value)) ∧
        toggle t c.index = .ok (toggleLine t p.lineStart)) ∧
      controlsOf list = list.eraseDups.map fun p => Control.of (list.idxOf p) p := by
  refine ⟨controls_eq t, fun n => ?_, fun _ _ _ _ rest hspells => runSession_number hspells rest,
    fun c hc => ?_, controlsOf_eq_eraseDups hlist⟩
  · rw [find?_controls, Option.isSome_map, isSome_getElem?]
  · obtain ⟨n, hn⟩ := List.getElem?_of_mem hc
    rw [getElem?_controls] at hn
    obtain ⟨p, hp, rfl⟩ := Option.map_eq_some_iff.mp hn
    exact ⟨p, hp, Control.showsParameter_of n p, setValue_eq hp, toggle_eq hp⟩

/-- The second of two parameters, twice, and then both of them. -/
theorem controls_address_repeats :
    let t := Text.ofString "a = 'x' and b = 'y'"
    let list := (parameters t).drop 1 ++ (parameters t).drop 1 ++ parameters t
    let answer := Text.ofString " 1 "
    (∀ p ∈ list, p ∈ parameters t) ∧
      (controlsOf list).map (fun c => (c.index, c.label)) = [(0, ['b']), (2, ['a'])] ∧
      Spells answer.strip (.edit 1) ∧
      screen false t ++ [numberReply t 1] <+:
        (runSession .terminal false t [.line answer]).console ∧
      ∃ c ∈ controls t, c.index = 1 ∧ c.literal = ['y'] ∧
        setValue t c.index ['z'] = .ok (Text.ofString "a = 'x' and b = 'z'") := by
  intro t list answer
  have hlist : ∀ p ∈ list, p ∈ parameters t := by
    intro p hp
    rcases List.mem_append.mp hp with hp | hp
    · rcases List.mem_append.mp hp with hp | hp
      · exact List.mem_of_mem_drop hp
      · exact List.mem_of_mem_drop hp
    · exact hp
  have hspells : Spells answer.strip (.edit 1) :=
    show Spells ['1'] (.ofDigits .edit ['1']) from .edit (by decide)
  obtain ⟨hcontrols, -, hsession, hedits, hpicks⟩ := controls_address t hlist
  refine ⟨hlist, ?_, hspells, hsession .terminal false answer 1 [] hspells, ?_⟩
  · rw [hpicks]
    decide
  · obtain ⟨p, hp⟩ : ∃ p, (parameters t)[1]? = some p :=
      Option.isSome_iff_exists.mp (by decide)
    have hfacts : (parameters t)[1]?.map (fun p => (p.value, substitute t p.target ['z'])) =
        some (['y'], Text.ofString "a = 'x' and b = 'z'") := by decide
    rw [hp] at hfacts
    obtain ⟨hvalue, htext⟩ := Prod.mk.inj (Option.some.inj hfacts)
    have hc : Control.of 1 p ∈ controls t :=
      List.mem_of_getElem? ((getElem?_controls t 1).trans (by rw [hp]; rfl))
    obtain ⟨q, hq, hshows, hset, -⟩ := hedits _ hc
    obtain rfl : q = p := Option.some.inj (hq.symm.trans hp)
    exact ⟨_, hc, rfl, hshows.literal.trans hvalue, (hset ['z']).trans (congrArg _ htext)⟩

end SqlSnippet
