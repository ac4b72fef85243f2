import BearerAccess.Text.CodePoint

/-!
# Ranges of letters

Letters that have another case come in runs, all of whose members lie at the same distance from
their other form.
-/

namespace BearerAccess

/-- Every `step`-th code point of an inclusive range, with the distance to its other case. -/
structure CaseRange where
  first : Nat
  last : Nat
  step : Nat
  distance : Int

def CaseRange.holds (r : CaseRange) (n : Nat) : Bool :=
  r.first ≤ n && n ≤ r.last && (n - r.first) % r.step == 0

/-- The other case of a code point, after the first range that it belongs to. -/
def caseForm? (ranges : List CaseRange) (n : Nat) : Option Nat :=
  (ranges.find? (·.holds n)).map fun r => ((n : Int) + r.distance).toNat

end BearerAccess
