import BearerAccess.Bearer
import BearerAccess.Store.Operations

/-!
# Authentication and guards

Who a request speaks for, and the guards that let only some callers through.
-/

namespace BearerAccess

/-- The identity that a secret speaks for now or at a given moment. Unknown and expired secrets are
refused alike. -/
def authenticate (store : Store) (secret : Option Text) (now : Option DateTime) :
    Action Identity := do
  if secret.getD [] = [] then fail (.credential .emptySecret)
  match ← store.userByToken secret now with
  | some identity => return identity
  | none => fail .tokenRejected

/-- What is known of the caller of a request: its identity, or why its secret was refused. -/
structure Caller where
  identity : Option Identity := none
  refusal : Option Failure := none
  deriving DecidableEq, Repr

/-- Who a route is open to. -/
inductive Guard where
  | authenticated
  | staffOnly
  deriving DecidableEq, Repr

def Guard.check (guard : Guard) (caller : Caller) : Action Identity := do
  match caller.refusal, caller.identity with
  | some refusal, _ =>
    writeLog .debug .guards "Token was rejected; aborting"
    throw refusal
  | none, none =>
    writeLog .debug .guards "No authenticated user; aborting"
    fail .authenticationRequired
  | none, some identity =>
    if guard = .staffOnly ∧ !identity.isStaff then
      writeLog .debug .guards ("User " ++ identity.userId ++ " is not staff")
      fail .staffOnly
    return identity

end BearerAccess
