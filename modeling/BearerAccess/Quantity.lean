import BearerAccess.Failure
import BearerAccess.Number.Shortest

/-!
# Quantities

Numbers as settings and callers give them: as numbers, as truth values, or as texts to be read.
-/

namespace BearerAccess

def integerSetting (t : Text) : Except Failure Int :=
  match readInteger (String.ofList t.legible) with
  | .ok n => .ok n
  | .error .malformed => .error (Cause.setting (.notInteger t))
  | .error (.tooManyDigits count) => .error (Cause.setting (.tooManyDigits count))

def numberSetting (t : Text) : Except Failure Binary64 :=
  match readNumber? (String.ofList t.legible) with
  | some x => .ok x
  | none => .error (Cause.setting (.notNumber t))

/-- A quantity as a caller may give it. -/
inductive Quantity where
  | whole (n : Int)
  | real (x : Binary64)
  | truth (b : Bool)
  | text (t : Text)
  /-- A value of another kind, which is no quantity. -/
  | other (kind : String)
  deriving Repr

namespace Quantity

/-- The quantity as an integer; a fraction is cut off. -/
def toInteger : Quantity → Except Failure Int
  | .whole n => .ok n
  | .truth b => .ok (if b then 1 else 0)
  | .text t => integerSetting t
  | .other kind => .error (Cause.setting (.otherThanInteger kind))
  | .real x =>
    match x.truncate? with
    | some n => .ok n
    | none =>
      if x = .nan then .error (Cause.setting .wholeOfNan)
      else .error (Cause.range .wholeOfInfinity)

def toNumber : Quantity → Except Failure Binary64
  | .real x => .ok x
  | .truth b => .ok (Binary64.ofInt (if b then 1 else 0))
  | .text t => numberSetting t
  | .other kind => .error (Cause.setting (.otherThanNumber kind))
  | .whole n =>
    match Binary64.ofInt n with
    | .infinite _ => .error (Cause.range .integerTooLarge)
    | x => .ok x

end Quantity

end BearerAccess
