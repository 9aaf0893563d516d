/-!
Sets of code points.

A property of characters is stored as the sorted code points at which it begins or stops to
hold. A code point has the property when an odd number of these lie at or below it.
-/

namespace FormRules.Text

/-- A set of code points, as the sorted points where membership changes. -/
structure CodeSet where
  changes : List Nat

namespace CodeSet

/-- Membership: an odd number of changes lie at or below the code point. -/
def contains
    (set : CodeSet) (code : Nat) :
    Bool :=
  (set.changes.takeWhile (· ≤ code)).length % 2 == 1

end CodeSet

end FormRules.Text
