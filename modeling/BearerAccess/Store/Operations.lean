import BearerAccess.Store.Schema
import BearerAccess.Store.Transaction

/-!
# Single operations of the store

Lookups, listings and removals, each in a session of its own, and the care of the tables.
-/

namespace BearerAccess

namespace Store

/-- What a single operation makes of the rows: an answer, and the rows that it leaves if it changes
them. -/
abbrev Work (α : Type) := Tables → Except Cause (α × Option Tables)

/-- Ends a single operation in which something was raised. A rollback that fails takes its place. -/
def undo (faults : Faults) (cause : Cause) : Action α :=
  match faults.rollback with
  | none => fail cause
  | some message => fail (.session message)

/-- Ends a single operation of which a statement or the commit has failed. -/
def breakOff (faults : Faults) (name : String) (origin : Origin) : Action α := do
  modify (·.raising origin)
  undo faults (.store (.inOperation name))

/-- A query for what a text names. -/
structure Query where
  statement : Statement
  subject : Option Text

/-- The statement of a query that is given a text, which it is not if nothing is named. -/
def Query.prepared? (q : Query) : Option Statement := q.subject.map fun _ => q.statement

def Query.parameter (q : Query) : Parameter :=
  if q.statement = .ownerOfSecret then .secret q.subject else .other q.subject

/-- What is raised where the database refuses a query, or the removal of what it has found. -/
def refusal (query : Option Query) : Origin :=
  .refused (query.map Query.statement) (query.map Query.parameter).toList

/-- Puts a query to the database: what keeps its text from being handed over, or the rows, and the
connection afterwards. A connection prepares a statement once, for which it needs the tables. -/
def putQuery (rows? : Option Tables) (query : Option Query) (c : Connection) :
    Except Rejection Tables × Connection :=
  let statement := query.bind Query.prepared?
  match query.bind (textObstacle? ·.subject), rows? with
  | none, none => (.error .refused, c)
  | some obstacle, none =>
    (.error (if statement.any c.knows then obstacle else .refused), c)
  | obstacle, some rows =>
    let result := match obstacle with
      | some r => Except.error r
      | none => .ok rows
    (result, statement.elim c c.learn)

/-- Runs a single operation: it queries, deletes what it is to delete, and commits. -/
def operate (store : Store) (name : String) (query : Option Query) (work : Work α) :
    Action α := do
  let faults := store.faults (← get).tasks
  modify World.assigned
  if faults.query.isSome || faults.flush.isSome || !(← get).database.reachable then
    breakOff faults name (.first [faults.query, faults.flush] .unopened)
  else
    let c ← modifyGet World.connect
    let w ← get
    let (answer, c) := putQuery w.database.rows? query c
    modify (·.giveBack c)
    match answer with
    | .error (.unencodable position run) => undo faults (.unencodable position run)
    | .error _ => breakOff faults name (refusal query)
    | .ok rows =>
      match work rows with
      | .error cause => undo faults cause
      | .ok (a, none) =>
        if faults.commit.isSome then
          breakOff faults name (.first [faults.commit] (refusal query))
        else return a
      | .ok (a, some left) =>
        if faults.delete.isSome || faults.commit.isSome || w.database.isShut then
          breakOff faults name (.first [faults.delete, faults.commit] (refusal query))
        else
          modify fun w => { w with database := { w.database with tables := some left } }
          return a

def reading (a : α) : Except Cause (α × Option Tables) := .ok (a, none)

def userByToken (store : Store) (secret : Option Text) (now : Option DateTime) :
    Action (Option Identity) := do
  let stamp := Stamp.ofDateTime (← moment now)
  store.operate "get_user_by_token" (some ⟨.ownerOfSecret, secret⟩) fun rows =>
    reading ((rows.ownerOfSecret? (stored? secret) stamp).map UserRow.toIdentity)

def required : Option UserRow → Except Cause (User × Option Tables)
  | some row => reading row.toUser
  | none => .error .noSuchUser

def userById (store : Store) (id : Option Text) : Action User :=
  store.operate "get_user_by_id" (some ⟨.userById, id⟩) fun rows =>
    required (rows.userById? (stored? id))

def userByUsername (store : Store) (username : Option Text) : Action User :=
  store.operate "get_user_by_username" (some ⟨.userByUsername, username⟩) fun rows =>
    required (rows.userByUsername? (stored? username))

def users (store : Store) : Action (List User) :=
  store.operate "list_users" none fun rows => reading (rows.usersByAge.map UserRow.toUser)

def tokensOf (store : Store) (userId : Option Text) : Action (List Token) :=
  store.operate "list_user_tokens" (some ⟨.tokensOf, userId⟩) fun rows =>
    reading ((rows.tokensOf (stored? userId)).map TokenRow.toToken)

def deleteUser (store : Store) (id : Option Text) : Action Unit :=
  store.operate "delete_user" (some ⟨.userById, id⟩) fun rows =>
    match rows.userById? (stored? id) with
    | some row => .ok ((), some (rows.deleteUser row.id))
    | none => .error .noSuchUser

def deleteToken (store : Store) (id : Option Text) : Action Unit :=
  store.operate "delete_token" (some ⟨.tokenById, id⟩) fun rows =>
    match rows.tokenById? (stored? id) with
    | some row => .ok ((), some (rows.deleteToken row.id))
    | none => .error (.noSuchToken (stored? id))

/-- Whether the database can be opened. The log would tell the driver's error where it cannot; the
name of its kind stands in for that text, which is the driver's own. -/
def isAvailable : StateM World Bool := do
  modify World.turn
  let reachable := (← get).database.reachable
  if !reachable then
    modify (·.write .error .store
      "Encountered an error talking to database: OperationalError")
  return reachable

/-- Why the tables of a database cannot be changed by a statement; `changes` says whether it would
change them at all. -/
def schemaFailure? (db : Database) (statement : String) (changes : Bool) : Option Cause :=
  if !db.reachable then some (.schema Schema.notOpened)
  else if db.barrier = some .foreign then some (.noDatabase Schema.notDatabase)
  else if !changes then none
  else match db.barrier with
    | some (.unwritable reason) => some (.schema (Schema.failureText reason (some statement)))
    | _ => if db.locked then some (.schema (Schema.keptOut statement)) else none

/-- Changes the set of tables by a statement, if the database is at hand and the change is one. -/
def changeTables (statement : String) (change : Option Tables → Option Tables) : Action Unit := do
  modify World.turn
  let database := (← get).database
  let changed := change database.tables
  let changes := decide (changed ≠ database.tables)
  match schemaFailure? database statement changes with
  | some cause => fail cause
  | none => modify fun w => { w with database := { database with tables := changed } }

def createTables : Action Unit := changeTables Schema.makeUsers fun tables => some (tables.getD {})

def dropTables : Action Unit := changeTables Schema.removeTokens fun _ => none

end Store

end BearerAccess
