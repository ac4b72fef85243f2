import BearerAccess.Failure
import BearerAccess.Store.Statement

/-!
# The log

Messages have a severity and a source, and some come with the exception that they are about. A
message is kept if its severity reaches the level in force when it is written.
-/

namespace BearerAccess

/-- How serious a message is. -/
inductive Severity where
  | debug
  | info
  | warning
  | error
  deriving DecidableEq, Repr

namespace Severity

def rank : Severity → Int
  | debug => 10
  | info => 20
  | warning => 30
  | error => 40

def name : Severity → String
  | debug => "DEBUG"
  | info => "INFO"
  | warning => "WARNING"
  | error => "ERROR"

end Severity

/-- The part of the service that writes a message. -/
inductive Source where
  | service
  | issuance
  | authentication
  | guards
  | store
  | engine
  | requests
  | routes
  | command
  deriving DecidableEq, Repr

def Source.name : Source → String
  | service => "facility_reservation"
  | issuance => "facility_reservation.issuance"
  | authentication => "facility_reservation.auth"
  | guards => "facility_reservation.auth.decorators"
  | store => "facility_reservation.services.datastore"
  | engine => "facility_reservation.services.datastore.util"
  | requests => "facility_reservation.factory"
  | routes => "facility_reservation.routes"
  | command => "facility_reservation.cli"

/-- An exception that is logged: why an operation failed, and what the failure was raised from. -/
structure LoggedException where
  cause : Cause
  origin : Option Origin
  deriving DecidableEq, Repr

/-- A message of the log, with the exception that it is about. -/
structure LogEntry where
  severity : Severity
  source : Source
  message : Text
  exception : Option LoggedException := none
  deriving DecidableEq, Repr

/-- The line of a message. The exception is written out below it. -/
def LogEntry.text (e : LogEntry) : Text :=
  Text.ofString s!"{e.severity.name} {e.source.name}: " ++ e.message

/-- A level as a setting: a number, a name, or something else, which is given as it is shown. -/
inductive Level where
  | ranked (rank : Int)
  | named (name : Text)
  | other (shown : String)
  deriving DecidableEq, Repr

namespace Level

def names : List (String × Int) :=
  [("CRITICAL", 50), ("FATAL", 50), ("ERROR", 40), ("WARN", 30), ("WARNING", 30), ("INFO", 20),
   ("DEBUG", 10), ("NOTSET", 0)]

/-- The level that stands in where rank zero is set, which means that none is. -/
def unset : Int := 30

def rank? : Level → Except Failure Int
  | .ranked r => .ok (if r = 0 then unset else r)
  | .named t =>
    match names.find? (Text.ofString ·.1 = t) with
    | some (_, r) => .ok (if r = 0 then unset else r)
    | none => .error (Cause.setting (.unknownLevel t))
  | .other shown => .error (Cause.setting (.notLevel shown))

end Level

def truthText (b : Bool) : String := if b then "True" else "False"

end BearerAccess
