import BearerAccess.Store.Location
import BearerAccess.World

/-!
# Connection options

What a connection pool is opened with, by the kind of database: how many connections it keeps, how
long a caller waits for one, and how long a statement may run.
-/

namespace BearerAccess

/-- The sizes and limits that a pool is asked for. -/
structure PoolRequest where
  poolSize : Option Quantity := none
  poolTimeout : Option Quantity := none
  statementTimeout : Option Quantity := none
  deriving Repr

/-- The options that a pool is opened with. A file database has no sizes, and its limit is a time to
wait for the lock; a limit on a server's statements is in milliseconds. -/
inductive PoolOptions where
  | file (timeout : Option Binary64)
  | server (poolSize : Option Int) (poolTimeout : Option Binary64)
      (statementMilliseconds : Option Int)
  deriving DecidableEq, Repr

def convert (f : Quantity → Except Failure α) : Option Quantity → Except Failure (Option α)
  | none => .ok none
  | some q => (f q).map some

/-- A number of seconds in whole milliseconds; what is less than one is cut off. -/
def wholeMilliseconds (seconds : Quantity) : Except Failure Int := do
  let x ← seconds.toNumber
  Quantity.toInteger (.real (x * Binary64.ofInt 1000))

def poolOptions (backend : String) (request : PoolRequest) : Except Failure PoolOptions := do
  if backend = "sqlite" then
    return .file (← convert Quantity.toNumber request.statementTimeout)
  else
    let size ← convert Quantity.toInteger request.poolSize
    let timeout ← convert Quantity.toNumber request.poolTimeout
    let limit ←
      if backend = "postgresql" then convert wholeMilliseconds request.statementTimeout
      else pure none
    return .server size timeout limit

def statementOption (milliseconds : Int) : String := s!"-c statement_timeout={milliseconds}"

/-- Prepares a pool: reads the address, settles the options, and notes the address in the log. -/
def preparePool (address : Text) (request : PoolRequest) :
    Action (DatabaseUrl × PoolOptions) := do
  let url ← liftExcept (DatabaseUrl.read address)
  let options ← liftExcept (poolOptions url.backend request)
  let shown ← liftExcept url.shown
  writeLog .debug .engine ("Creating engine for " ++ shown)
  return (url, options)

def openDatabase (address : Text) (request : PoolRequest) : Action Location := do
  let (url, _) ← preparePool address request
  liftExcept url.location

end BearerAccess
