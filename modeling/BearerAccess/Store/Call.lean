import BearerAccess.Answer
import BearerAccess.Authentication
import BearerAccess.Issuance

/-!
# Calls and blocks as data

Each operation on a store as a value that can be listed, and transactions as lists of steps. A block
goes on until a step fails that is not caught.
-/

namespace BearerAccess

/-- An operation on a store. -/
inductive Call where
  | insertUser (id username : Option Text) (isStaff : Flag)
  | insertToken (id userId secret : Option Text) (name : Label) (expiresAt : Option DateTime)
  | userByToken (secret : Option Text) (now : Option DateTime)
  | authenticate (secret : Option Text) (now : Option DateTime)
  | userById (id : Option Text)
  | userByUsername (username : Option Text)
  | users
  | tokensOf (userId : Option Text)
  | deleteUser (id : Option Text)
  | deleteToken (id : Option Text)
  | isAvailable
  | createTables
  | dropTables
  /-- Gives up the connections, which are opened again when they are needed. -/
  | disconnect
  | issue (actor : Option Identity) (username : Option Text) (isStaff : Flag)
      (tokenName : Label) (expiresAt : Option DateTime)
  | bootstrap (username : Option Text) (tokenName : Label)
  deriving DecidableEq, Repr

/-- Carries out an operation. An insert has a transaction of its own. -/
def Call.perform (store : Store) : Call → Action Answer
  | insertUser id username isStaff =>
    .user <$> store.transaction (store.insertUser id username isStaff)
  | insertToken id userId secret name expiresAt =>
    .token <$> store.transaction (store.insertToken id userId secret name expiresAt)
  | userByToken secret now => .identity <$> store.userByToken secret now
  | authenticate secret now =>
    (.identity ∘ some) <$> BearerAccess.authenticate store secret now
  | userById id => .user <$> store.userById id
  | userByUsername username => .user <$> store.userByUsername username
  | users => .users <$> store.users
  | tokensOf userId => .tokens <$> store.tokensOf userId
  | deleteUser id => (fun _ => .nothing) <$> store.deleteUser id
  | deleteToken id => (fun _ => .nothing) <$> store.deleteToken id
  | isAvailable => do return .truth (← Store.isAvailable)
  | createTables => (fun _ => .nothing) <$> Store.createTables
  | dropTables => (fun _ => .nothing) <$> Store.dropTables
  | disconnect => do
    modify fun w => { w with idle := [], renewals := w.renewals + 1 }
    return .nothing
  | issue actor username isStaff tokenName expiresAt =>
    .credentials <$> issueUser store actor username isStaff tokenName expiresAt
  | bootstrap username tokenName => .credentials <$> bootstrapStaffUser store username tokenName

/-- What a step of a block does. -/
inductive BlockStep where
  | insertUser (id username : Option Text) (isStaff : Flag)
  | insertToken (id userId secret : Option Text) (name : Label) (expiresAt : Option DateTime)
  | raise (failure : Failure)
  /-- An operation beside the block, in a session of its own, whose failure is only noted. -/
  | outside (call : Call)
  /-- An operation beside the block, in a session of its own, whose failure is raised in it. -/
  | nested (call : Call)
  deriving DecidableEq, Repr

namespace BlockStep

def perform (store : Store) : BlockStep → Block Answer
  | insertUser id username isStaff => .user <$> store.insertUser id username isStaff
  | insertToken id userId secret name expiresAt =>
    .token <$> store.insertToken id userId secret name expiresAt
  | raise failure => throw failure
  | outside call | nested call => Block.outside (call.perform store)

def isOutside : BlockStep → Bool
  | outside _ => true
  | _ => false

end BlockStep

/-- A block: its steps, each with whether its failure is caught. -/
abbrev BlockScript := List (BlockStep × Bool)

namespace BlockScript

def perform (store : Store) :
    BlockScript → StateT Session (StateM World) (List (Except Failure Answer) × Except Failure Unit)
  | [] => return ([], .ok ())
  | (step, caught) :: rest => do
    let result ← (step.perform store).run
    match result with
    | .ok _ =>
      let (results, ending) ← perform store rest
      return (result :: results, ending)
    | .error failure =>
      if caught || step.isOutside then
        let (results, ending) ← perform store rest
        return (result :: results, ending)
      else return ([result], .error failure)

/-- Runs a block in a transaction: the outcomes of its steps, and that of the whole. -/
def run (store : Store) (script : BlockScript) :
    StateM World (List (Except Failure Answer) × Except Failure Unit) := fun world =>
  let (((results, ending), session), world) := perform store script {} world
  let (outcome, world) := store.finish ending session world
  ((results, outcome), world)

end BlockScript

end BearerAccess
