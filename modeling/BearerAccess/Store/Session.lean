import BearerAccess.Label
import BearerAccess.Store.Database
import BearerAccess.Store.Statement

/-!
# Sessions

A session gathers the inserts of one transaction. Its first insert takes the database's write lock
and a copy of the rows; a commit puts the copy in the place of the committed rows. An insert that
fails in the database undoes the session's rows, gives the lock back and leaves the session dead.
-/

namespace BearerAccess

/-- How far a session has come. -/
inductive Stage where
  /-- No insert has reached the database. -/
  | fresh
  /-- The write lock is held, and these are the rows with the session's own among them. -/
  | writing (tables : Tables)
  /-- An insert failed in the database, or could not be flushed to it. -/
  | dead
  deriving DecidableEq, Repr

/-- A value for the column that says who is staff. -/
inductive Flag where
  | unset
  | value (b : Bool)
  | unstorable
  deriving DecidableEq, Repr

/-- The flag that is stored; an unset one means no. -/
def Flag.stored? : Flag → Option Bool
  | unset => some false
  | value b => some b
  | unstorable => none

/-- Why an insert failed. -/
inductive Rejection where
  | refused
  | violated (v : Violation)
  | unencodable (position : Nat) (surrogates : List CodePoint)
  /-- An integer is too large for the database. -/
  | tooLarge
  deriving DecidableEq, Repr

def textObstacle? (t : Option Text) : Option Rejection :=
  (surrogates? t).map fun s => .unencodable s.1 s.2

def Label.obstacle? : Label → Option Rejection
  | .text t => textObstacle? (some t)
  | .missing => none
  | .tooLarge => some .tooLarge
  | .unstorable => some .refused

/-- A connection to the database: the statements that it has prepared, and the renewal after which
it was opened. -/
structure Connection where
  prepared : List Statement := []
  renewal : Nat := 0
  deriving DecidableEq, Repr

namespace Connection

def knows (c : Connection) (s : Statement) : Bool := decide (s ∈ c.prepared)

def learn (c : Connection) (s : Statement) : Connection :=
  if c.knows s then c else { c with prepared := s :: c.prepared }

end Connection

/-- A session, and its connection once it needs one. -/
structure Session where
  stage : Stage := .fresh
  connection : Option Connection := none
  deriving DecidableEq, Repr

/-- An insert: its statement and the texts given to it, whether its values pass for those of their
columns, what keeps them from being handed to the database, and what it does to the rows. It does
nothing if the moment of creation cannot be told. -/
structure Insertion (α : Type) where
  statement : Statement
  parameters : List Parameter
  storable : Bool := true
  obstacle : Option Rejection := none
  apply : Option (Tables → Except Violation (α × Tables))

namespace Session

def holdsLock (s : Session) : Bool :=
  match s.stage with
  | .writing _ => true
  | _ => false

/-- The database after the session has given up the lock that it may hold. -/
def release (s : Session) (db : Database) : Database :=
  if s.holdsLock then { db with locked := false } else db

/-- What an insert comes to in a session that is not dead: `shut` says whether others keep the rows
from being changed, and `known` whether the connection has the statement at hand, which else needs
the table. The values are taken over before the statement is carried out. -/
def attempt (rows? : Option Tables) (shut known : Bool) (i : Insertion α) :
    Except Rejection (α × Tables) :=
  if !i.storable || !(known || rows?.isSome) then .error .refused
  else match i.obstacle, i.apply, rows? with
    | some obstacle, _, _ => .error obstacle
    | none, some apply, some rows =>
      if shut then .error .refused
      else match apply rows with
        | .ok result => .ok result
        | .error v => .error (.violated v)
    | none, _, _ => .error .refused

def knows (s : Session) (i : Insertion α) : Bool := s.connection.any (·.knows i.statement)

/-- The session after its connection has prepared the statement of an insert, which it can if the
table is there. -/
def prepare (s : Session) (db : Database) (i : Insertion α) : Session :=
  if s.stage ≠ .dead && i.storable && db.rows?.isSome then
    { s with connection := s.connection.map (·.learn i.statement) }
  else s

def dying (s : Session) : Session := { s with stage := .dead }

def execute (s : Session) (db : Database) (i : Insertion α) :
    Except Rejection α × Session × Database :=
  let outcome : Except Rejection (α × Tables) := match s.stage with
    | .dead => .error .refused
    | .fresh => attempt db.rows? db.isShut (s.knows i) i
    | .writing rows => attempt (some rows) false (s.knows i) i
  let after := s.prepare db i
  match outcome with
  | .ok (a, rows) => (.ok a, { after with stage := .writing rows }, { db with locked := true })
  | .error e => (.error e, after.dying, s.release db)

/-- What is raised where the database does not carry an insert out. In a dead session nothing is
asked of it. -/
def refusal? (s : Session) (db : Database) (i : Insertion α) : Option Origin :=
  match s.stage with
  | .dead => none
  | .fresh => some (if db.reachable then .refused i.statement i.parameters else .unopened)
  | .writing _ => some (.refused i.statement i.parameters)

/-- What the failure of an insert is raised from, if it is the database that fails. -/
def origin? (s : Session) (db : Database) (i : Insertion α) : Except Rejection β → Option Origin
  | .error .refused | .error (.violated _) => s.refusal? db i
  | _ => none

/-- The database after a commit, if it succeeds. A dead session has objects left to flush, which it
cannot. -/
def commit? (s : Session) (faults : Faults) (db : Database) : Option Database :=
  if faults.commit.isSome then none
  else match s.stage with
    | .dead => none
    | .fresh => some db
    | .writing rows => some { db with tables := some rows, locked := false }

end Session

end BearerAccess
