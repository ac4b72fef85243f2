import BearerAccess.World

/-!
# Identifiers and secrets

An identifier is the clock in six bytes and ten random bytes after it, written in five groups of
hexadecimal digits, so that identifiers sort by the time they were made. A secret is random alone.
-/

namespace BearerAccess

/-- The bytes of an identifier, written in groups of 8, 4, 4, 4 and 12 digits. -/
def identifierText (bytes : List UInt8) : String :=
  let group (first count : Nat) : List Char := hexText ((bytes.drop first).take count)
  String.ofList (group 0 4 ++ '-' :: group 4 2 ++ '-' :: group 6 2 ++ '-' :: group 8 2 ++
    '-' :: group 10 6)

def identifier (clock : Nat) (random : List UInt8) : String :=
  identifierText (bigEndian 6 clock ++ random)

def clockLimit : Int := 0x1000000000000

/-- Makes an identifier. The clock must fit into six bytes. -/
def newIdentifier : Action String := do
  let clock := (← get).clock
  if clock < 0 then fail (.range .negativeClock)
  if clockLimit ≤ clock then fail (.range .lateClock)
  let random ← drawBytes 10
  return identifier clock.toNat random

def secretSize : Nat := 32

def newSecret (size : Nat) : Action String := do
  match ← modifyGet fun w => w.draw size with
  | some bytes => return (← get).spelling bytes
  | none => fail .entropyUnavailable

end BearerAccess
