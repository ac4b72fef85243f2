import BearerAccess.Store.Tables

/-!
# The database

A database that may be out of reach, may lack its tables, and has one write lock for all its
clients.
-/

namespace BearerAccess

/-- The surrogates that keep a text from being handed to the database: where they start, and
themselves. -/
def surrogates? (t : Option Text) : Option (Nat × List CodePoint) :=
  t.bind fun t => if t.toString?.isSome then none else some t.firstSurrogates

def stored? (t : Option Text) : Option String := t.bind Text.toString?

/-- What keeps a file from being changed. -/
inductive Barrier where
  /-- Nothing can be written, for a reason. -/
  | unwritable (reason : String)
  /-- The file is no database. -/
  | foreign
  deriving DecidableEq, Repr

/-- The state of the database between statements: its committed rows, if it has tables; whether it
can be opened; whether some client holds its write lock; and what else keeps it from being
changed. -/
structure Database where
  tables : Option Tables := some {}
  reachable : Bool := true
  locked : Bool := false
  barrier : Option Barrier := none
  deriving DecidableEq, Repr

namespace Database

def rows? (db : Database) : Option Tables := if db.reachable then db.tables else none

def isShut (db : Database) : Bool := db.locked || db.barrier.isSome

def counts? (db : Database) : Option (Nat × Nat) :=
  db.rows?.map fun t => (t.users.length, t.tokens.length)

end Database

/-- Failures injected into the methods of a session: the message that each method fails with. -/
structure Faults where
  add : Option Text := none
  flush : Option Text := none
  refresh : Option Text := none
  query : Option Text := none
  delete : Option Text := none
  commit : Option Text := none
  rollback : Option Text := none
  deriving DecidableEq, Repr

/-- Failures by the number of the task that a session is given: an insert, the end of a
transaction, or a single operation. -/
abbrev FaultPlan := Nat → Faults

def FaultPlan.none : FaultPlan := fun _ => {}

/-- Failures in the sessions of the store, and in those of stores that others open on the same
database. -/
structure Mishaps where
  store : FaultPlan := .none
  others : FaultPlan := .none

instance : Coe Faults Mishaps := ⟨fun faults => { store := fun _ => faults }⟩

end BearerAccess
