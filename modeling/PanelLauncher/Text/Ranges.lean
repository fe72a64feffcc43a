/-!
# Sets of code points

A set of code points is written as the increasing list of the points where membership changes,
starting outside the set.
-/

namespace PanelLauncher.Text

/-- Membership in the set whose changes are listed: an odd number of them lies at or below `n`. -/
def isWithin (bounds : Array Nat) (n : Nat) : Bool :=
  bounds.foldl (fun inside bound => if bound ≤ n then !inside else inside) false

end PanelLauncher.Text
