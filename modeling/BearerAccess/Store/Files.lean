import BearerAccess.Store.Location
import BearerAccess.World

/-!
# Database files

The files of the host as far as databases are concerned: which of them can be opened, what a
database in one of them is like, and how work is done on it in the place of the world's own.
-/

namespace BearerAccess

def readOnlyReason : String := "attempt to write a readonly database"

/-- The reason why nothing is written to a file beside which no journal can be kept. -/
def noJournalReason : String := "unable to open database file"

namespace World

def homePath? (w : World) : Option Path :=
  match DatabaseUrl.read w.databaseUrl >>= DatabaseUrl.location with
  | .ok (.file path _ _) => some path
  | _ => none

def isFolder (w : World) (path : Path) : Bool :=
  path.isCurrent || path ∈ Path.standardFolders || path ∈ w.folders

def isFile (w : World) (path : Path) : Bool :=
  (w.database.reachable && w.homePath? = some path) || path ∈ w.files.map (·.1) ||
    path ∈ Path.devices.map (·.1) || path ∈ Path.standardFiles

/-- A file can be opened: it is there, or it is to be made in a folder that is there. None of the
paths passed on the way may be that of a file. -/
def canOpen (w : World) (path : Path) (passed : List Path) (opening : Opening) : Bool :=
  path.isNamable && !w.isFolder path && !passed.any w.isFile &&
    (w.isFile path || (opening.mode = .create && w.isFolder path.folder))

def barrier? (path : Path) (opening : Opening) : Option Barrier :=
  if path ∈ Path.standardFiles then some .foreign
  else if opening.isReadOnly then some (.unwritable readOnlyReason)
  else match Path.devices.lookup path with
    | some reason => some (.unwritable reason)
    | none => if path.hasRoomForJournal then none else some (.unwritable noJournalReason)

def databaseIn (w : World) (path : Path) (passed : List Path) (opening : Opening) : Database :=
  let reachable := w.canOpen path passed opening
  let barrier := barrier? path opening
  if w.homePath? = some path then { w.database with reachable, barrier }
  else { tables := (w.files.lookup path).join, reachable, barrier }

/-- The world after work on the database in a file, which the work has left as it is given. -/
def withFile (w : World) (path : Path) (left : Database) : World :=
  if w.homePath? = some path then
    { w with database := { w.database with tables := left.tables, locked := left.locked } }
  else if left.reachable then
    { w with files := (path, left.tables) :: w.files.filter (·.1 ≠ path) }
  else w

end World

/-- Runs what works on a database in the place of that of the world. What becomes of the database
afterwards is for `keep` to say. -/
def World.inPlace (database : Database) (keep : World → Database → World) (a : StateM World α) :
    StateM World α := fun w =>
  let (result, after) := a { w with database }
  (result, keep { after with database := w.database } after.database)

/-- Runs what works on the database at a location. A database in memory is lost at the end. -/
def World.onDatabase (location : Location) (a : StateM World α) :
    StateM World (Except Cause α) := do
  match location with
  | .refused cause => return .error cause
  | .closed => .ok <$> inPlace { tables := none, reachable := false } (fun w _ => w) a
  | .memory writable =>
    let barrier := if writable then none else some (.unwritable readOnlyReason)
    .ok <$> inPlace { tables := none, barrier } (fun w _ => w) a
  | .file path passed opening =>
    let database := (← get).databaseIn path passed opening
    .ok <$> inPlace database (·.withFile path ·) a

end BearerAccess
