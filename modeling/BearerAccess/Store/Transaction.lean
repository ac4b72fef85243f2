import BearerAccess.Moment

/-!
# Transactions

A block of inserts that is stored as a whole or not at all. The block runs in one session; it ends
with a commit, or, if anything was raised in it or by the commit, with a rollback. A failure of the
rollback is logged and noted on the failure that caused it.
-/

namespace BearerAccess

/-- A store: the database as seen through sessions, into which failures may be injected. -/
structure Store where
  faults : FaultPlan := .none

def World.attach (s : Session) (w : World) : Session × World :=
  if s.connection.isSome || !w.database.reachable then (s, w)
  else
    let (c, w) := w.connect
    ({ s with connection := some c }, w)

def World.detach (s : Session) (w : World) : World :=
  match s.connection with
  | none => w
  | some c => w.giveBack c

abbrev Block := ExceptT Failure (StateT Session (StateM World))

def Block.outside (a : Action α) : Block α := fun session world =>
  let (result, world) := a world
  ((result, session), world)

namespace Store

/-- Why an insert that did not come through failed. -/
inductive Refusal where
  /-- A method of the session failed, or the database did. -/
  | unavailable
  | rejected (r : Rejection)

def handOver (i : Option Stamp → Insertion α) (session : Session) (world : World) :
    (Except Rejection α × Session) × World :=
  let (session, world) := world.attach session
  let insertion := i world.stamp?
  let (result, after, database) := session.execute world.database insertion
  let origin := session.origin? world.database insertion result
  ((result, after), { world with database }.raising origin)

/-- Adds an object to the session, flushes it to the database, and reads it back. A flush that fails
leaves the session dead. -/
def insert (store : Store) (i : Option Stamp → Insertion α) : Block (Except Refusal α) :=
  fun session world =>
    let faults := store.faults world.tasks
    let world := world.assigned
    if faults.add.isSome then
      ((.ok (.error .unavailable), session), world.raising (faults.add.map .method))
    else if faults.flush.isSome then
      let world := { world with database := session.release world.database }
      ((.ok (.error .unavailable), session.dying), world.raising (faults.flush.map .method))
    else
      match handOver i session world with
      | ((.error r, session), world) => ((.ok (.error (.rejected r)), session), world)
      | ((.ok a, session), world) =>
        if faults.refresh.isSome then
          ((.ok (.error .unavailable), session), world.raising (faults.refresh.map .method))
        else ((.ok (.ok a), session), world)

def userInsertion (id username : Option Text) (isStaff : Flag) (now : Option Stamp) :
    Insertion UserRow :=
  { statement := if id.isSome then .user else .userWithoutId
    parameters := [.other id, .other username]
    storable := isStaff.stored?.isSome
    obstacle := [id, username].findSome? textObstacle?
    apply := now.map fun createdAt t =>
      t.insertUser ⟨stored? id, stored? username, isStaff.stored?.getD false⟩ createdAt }

def userFailure (username : Option Text) : Refusal → Cause
  | .rejected (.violated v) =>
    if isUsernameViolation none (Text.ofString v.message) then .usernameTaken (stored? username)
    else .store .userNotInserted
  | .rejected (.unencodable position run) => .unencodable position run
  | _ => .store .userNotInserted

def insertUser (store : Store) (id username : Option Text) (isStaff : Flag) : Block User := do
  match ← store.insert (userInsertion id username isStaff) with
  | .ok row => return row.toUser
  | .error r => fail (userFailure username r)

def expiryStamp (expiresAt : Option DateTime) : Block (Option Stamp) := do
  match expiresAt with
  | none => return none
  | some e => (some ∘ Stamp.ofDateTime) <$> liftExcept e.universal

def tokenInsertion (id userId secret : Option Text) (name : Label) (expiry now : Option Stamp) :
    Insertion TokenRow :=
  { statement := if id.isSome then .token else .tokenWithoutId
    parameters := [.other id, .other userId, .secret secret, .other name.text?]
    obstacle := ([id, userId, secret].findSome? textObstacle?).or name.obstacle?
    apply := now.map fun createdAt t =>
      let stored := stored? name.text?
      t.insertToken ⟨stored? id, stored? userId, stored? secret, stored, expiry⟩ createdAt }

def tokenFailure : Refusal → Cause
  | .rejected (.unencodable position run) => .unencodable position run
  | .rejected .tooLarge => .range .wideValue
  | _ => .store .tokenNotInserted

/-- Inserts a token. Its expiry is converted before the session is used. -/
def insertToken (store : Store) (id userId secret : Option Text) (name : Label)
    (expiresAt : Option DateTime) : Block Token := do
  let expiry ← expiryStamp expiresAt
  match ← store.insert (tokenInsertion id userId secret name expiry) with
  | .ok row => return row.toToken
  | .error r => fail (tokenFailure r)

def rollBack (faults : Faults) (failure : Failure) (session : Session) (world : World) :
    Except Failure α × World :=
  let world := { world with database := session.release world.database }.detach session
  match faults.rollback with
  | none => (.error failure, world)
  | some message =>
    (.error { failure with rollbackError := some message },
      world.write .error .store ("Rollback failed: " ++ message))

/-- Ends a transaction: a block that went well is committed, all else is rolled back. -/
def finish (store : Store) (result : Except Failure α) (session : Session) (world : World) :
    Except Failure α × World :=
  let faults := store.faults world.tasks
  let world := world.assigned
  match result with
  | .error failure => rollBack faults failure session world
  | .ok a =>
    match session.commit? faults world.database with
    | none =>
      let world := world.raising (faults.commit.map .method)
      rollBack faults (Cause.store .notCommitted) session world
    | some database => (.ok a, { world with database }.detach session)

def transaction (store : Store) (body : Block α) : Action α := fun world =>
  let ((result, session), world) := body {} world
  store.finish result session world

end Store

end BearerAccess
