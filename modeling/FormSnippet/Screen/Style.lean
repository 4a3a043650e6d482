/-!
# Style — colours and emphasis

How a place of the screen is written.  Where no colour is given the terminal's own is used.
-/

namespace FormSnippet
namespace Screen

inductive Color
  | red
  | blue
  | white
  | darkGray
  deriving DecidableEq, Repr

structure Style where
  foreground : Option Color := none
  background : Option Color := none
  bold : Bool := false
  crossedOut : Bool := false
  deriving DecidableEq, Repr, Inhabited

namespace Style

/-- The style `upper` on top of `style`: what `upper` says goes, the rest stays. -/
def overlay (style upper : Style) : Style :=
  { foreground := upper.foreground.or style.foreground
    background := upper.background.or style.background
    bold := style.bold || upper.bold
    crossedOut := style.crossedOut || upper.crossedOut }

end Style
end Screen
end FormSnippet
