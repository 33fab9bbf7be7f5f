import SqlSnippet.Console.Styled
import SqlSnippet.Parameter

/-!
# The preview of a snippet

The preview shows the whole snippet with the stretches of its parameters highlighted, those in
comments dimmer than the others.  A parameter that begins inside the one before it is passed over.
-/

namespace SqlSnippet

def Text.between (t : Text) (start stop : Nat) : Text := (t.drop start).take (stop - start)

/-- How a parameter is highlighted. -/
def Parameter.highlight (p : Parameter) : Style :=
  if p.isCommented then .dimYellow else .boldYellow

/-- A preview under construction, and the position up to which it has come. -/
structure PartialPreview where
  done : StyledText
  reached : Nat

def PartialPreview.add (t : Text) (s : PartialPreview) (p : Parameter) : PartialPreview :=
  if p.start < s.reached then s
  else
    { done := (s.done.append (t.between s.reached p.start) .white).append
        (t.between p.start p.stop) p.highlight
      reached := p.stop }

/-- The snippet with the given parameters highlighted. -/
def preview (t : Text) (list : List Parameter) : StyledText :=
  if list.isEmpty then StyledText.ofText t .white
  else
    let s := (sortByKey Parameter.start list).foldl (PartialPreview.add t) ⟨.empty, 0⟩
    s.done.append (t.drop s.reached) .white

end SqlSnippet
