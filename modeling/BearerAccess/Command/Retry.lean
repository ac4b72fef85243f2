import BearerAccess.Number.Shortest

/-!
# Trying again

A probe is tried a few times, with waits between the tries that double each time.
-/

namespace BearerAccess

/-- How a probe went: the number of tries, the waits in milliseconds, and whether it succeeded. -/
structure Waiting where
  calls : Nat
  waits : List Nat
  succeeded : Bool
  deriving DecidableEq, Repr

def Waiting.after (w : Waiting) (wait : Nat) : Waiting :=
  { w with calls := w.calls + 1, waits := wait :: w.waits }

/-- Tries a probe until it succeeds, at most `more + 1` times. `note` is told each wait before the
next try. -/
def retry {m : Type → Type} [Monad m] (probe : m Bool) (note : Nat → m Unit) (wait : Nat) :
    Nat → m Waiting
  | 0 => do return ⟨1, [], ← probe⟩
  | more + 1 => do
    if ← probe then return ⟨1, [], true⟩
    else
      note wait
      return (← retry probe note (2 * wait) more).after wait

def secondsText (milliseconds : Nat) : String :=
  (Binary64.ofQuotient false milliseconds 1000).text

end BearerAccess
