import BearerAccess.Settings
import BearerAccess.Store.Path
import BearerAccess.Store.Session
import BearerAccess.Text.Blank

/-!
# The world of the service

Everything that an operation can see or change: the clock, the source of randomness, the log, the
database and the application that is served. An action changes the world and answers or fails; a
failure keeps the changes made before it.
-/

namespace BearerAccess

/-- What the source of randomness does when it is asked. -/
inductive Draw where
  /-- It gives these bytes, cut or filled with zeros in front to the size asked for. -/
  | bytes (bytes : List UInt8)
  /-- It gives the ordinal number of the draw. -/
  | ordinal
  | failing
  deriving DecidableEq, Repr

/-- An application that serves requests: its settings, and whether it has a store of its own. -/
structure Application where
  settings : Settings
  ownStore : Bool
  deriving Repr

/-- The world of the service. -/
structure World where
  /-- Milliseconds since the beginning of 1970. -/
  clock : Int := 1600000000000
  /-- What the source of randomness does next; afterwards it gives ordinal numbers. -/
  entropy : List Draw := []
  /-- The number of draws so far. -/
  draws : Nat := 0
  /-- The rank that a message must reach to be kept. -/
  threshold : Int := 20
  /-- The messages kept so far. -/
  log : List LogEntry := []
  /-- The number of tasks that sessions have been given during the present event. -/
  tasks : Nat := 0
  /-- What the last failure of the store during the present event was raised from. -/
  origin : Option Origin := none
  database : Database := {}
  /-- Where the database is found. -/
  databaseUrl : Text := "sqlite:////srv/facility.db"
  /-- The folders that are there besides those of every host. -/
  folders : List Path := []
  /-- The connections of the store that are not in use, in the order in which they will be. -/
  idle : List Connection := []
  /-- The number of times that the store has given up its connections. -/
  renewals : Nat := 0
  /-- The files of other databases, with their tables. -/
  files : List (Path × Option Tables) := []
  application : Option Application := none
  /-- How the bytes drawn for a secret are spelt. -/
  spelling : List UInt8 → String := fun bytes => String.ofList (hexText bytes)

abbrev Action := ExceptT Failure (StateM World)

namespace World

def keep (w : World) (e : LogEntry) : World :=
  if w.threshold ≤ e.severity.rank then { w with log := w.log ++ [e] } else w

def write (w : World) (severity : Severity) (source : Source) (message : Text) : World :=
  w.keep { severity, source, message }

/-- Writes a message with the exception that it is about, which tells what it was raised from. -/
def writeException (w : World) (severity : Severity) (source : Source) (message : Text)
    (cause : Cause) : World :=
  w.keep ⟨severity, source, message, some ⟨cause, w.origin⟩⟩

/-- What a failure of the store is raised from, if anything, takes the place of what the last one
was. -/
def raising (w : World) (origin : Option Origin) : World := { w with origin := origin.or w.origin }

/-- The last `size` of some bytes, with zeros in front if there are too few. -/
def fitted (size : Nat) (bytes : List UInt8) : List UInt8 :=
  List.replicate (size - bytes.length) 0 ++ bytes.drop (bytes.length - size)

/-- Draws random bytes. Every draw counts, also one that fails. -/
def draw (size : Nat) (w : World) : Option (List UInt8) × World :=
  let count := w.draws + 1
  let rest := { w with draws := count, entropy := w.entropy.tail }
  match w.entropy.head?.getD .ordinal with
  | .bytes bytes => (some (fitted size bytes), rest)
  | .ordinal => (some (bigEndian size count), rest)
  | .failing => (none, rest)

def stamp? (w : World) : Option Stamp := (DateTime.ofClock? w.clock).map Stamp.ofDateTime

def connect (w : World) : Connection × World :=
  match w.idle with
  | [] => ({ renewal := w.renewals }, w)
  | c :: rest => (c, { w with idle := rest })

/-- Gives a connection back, which takes the last place. One that is older than the last renewal is
closed. -/
def giveBack (w : World) (c : Connection) : World :=
  if c.renewal = w.renewals then { w with idle := w.idle ++ [c] } else w

def assigned (w : World) : World := { w with tasks := w.tasks + 1 }

def turn (w : World) : World :=
  if w.database.reachable then
    let (c, w) := w.connect
    w.giveBack c
  else w

end World

def World.apart (a : StateM World α) : StateM World α := fun w =>
  let (result, after) := a { w with idle := [] }
  (result, { after with idle := w.idle })

def writeLog (severity : Severity) (source : Source) (message : Text) : Action Unit :=
  modify fun w => w.write severity source message

def drawBytes (size : Nat) : Action (List UInt8) := do
  match ← modifyGet fun w => w.draw size with
  | some bytes => return bytes
  | none => fail .noRandomness

/-- Runs an action to its end and gives the outcome, whether it is an answer or a failure. -/
def outcome (a : Action α) : Action (Except Failure α) := fun w =>
  let (result, w) := a w
  (.ok result, w)

end BearerAccess
