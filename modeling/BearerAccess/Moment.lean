import BearerAccess.World

/-!
# Moments

Times that operations are given or take from the clock. All of them are converted to universal time,
and those that have none in the years 1 to 9999 are refused.
-/

namespace BearerAccess

def DateTime.universal (d : DateTime) : Except Failure DateTime :=
  match d.toUniversal? with
  | some u => .ok u
  | none => .error (Cause.range .date)

def presentTime : Action DateTime := do
  match DateTime.ofClock? (← get).clock with
  | some now => return now
  | none => fail (.range .date)

/-- The moment that an operation is asked about: the one given, or the present. -/
def moment : Option DateTime → Action DateTime
  | none => presentTime
  | some now => liftExcept now.universal

/-- Whether a token may be used at a moment, which does not matter to a token without expiry. -/
def Token.isLive (t : Token) (now : Option DateTime) : Action Bool := do
  if t.expiresAt.isNone then return true
  match t.isLiveAt? (← moment now) with
  | some answer => return answer
  | none => fail (.range .date)

def Datum.object (d : Datum) : Except Failure Json :=
  match d.toObject? with
  | some object => .ok object
  | none => .error (Cause.range .date)

end BearerAccess
