import BearerAccess.Http.Draft
import BearerAccess.Http.Service
import BearerAccess.Store.Engine

/-!
# Applications

An application is made from settings. It serves requests from a store that it is given, or from one
of its own on the database that its settings name.
-/

namespace BearerAccess

/-- What an application is made from. -/
inductive Blueprint where
  /-- Settings with some values replaced, and a store that is given. -/
  | givenStore (overrides : Overrides)
  /-- Settings with some values replaced, and a store of its own. -/
  | ownStore (overrides : Overrides)
  /-- The variables of an environment, and a store of its own. -/
  | environment (env : Environment)
  deriving Repr

namespace Blueprint

def settings (address : Text) : Blueprint → Except Failure Settings
  | givenStore overrides | ownStore overrides =>
    (Settings.read [("DATABASE_URL", address)]).map overrides.apply
  | environment env => Settings.read (("DATABASE_URL", address) :: env)

def hasStore : Blueprint → Bool
  | givenStore _ => false
  | ownStore _ | environment _ => true

end Blueprint

namespace Application

def poolRequest (s : Settings) : PoolRequest :=
  ⟨some (.whole s.poolSize), some (.real s.poolTimeout), s.statementTimeout⟩

/-- Makes an application. Its level is put in force before anything else can fail. -/
def make (b : Blueprint) : Action Application := do
  let settings ← liftExcept (b.settings (← get).databaseUrl)
  let rank ← liftExcept settings.logLevel.rank?
  modify fun w => { w with threshold := rank }
  if b.hasStore then
    let _ ← openDatabase settings.databaseUrl (poolRequest settings)
  if settings.createTables then Store.createTables
  return ⟨settings, b.hasStore⟩

/-- Makes an application and puts it in the place of the one that is there. If it cannot be made,
there is none. -/
def install (b : Blueprint) : Action Application := do
  modify fun w => { w with application := none }
  let application ← make b
  modify fun w => { w with application := some application }
  return application

/-- The application that is there, or one that is made with all settings at their defaults. -/
def current : Action Application := do
  match (← get).application with
  | some application => return application
  | none => install (.givenStore {})

/-- Answers a request by the current application. It works on the store that it was given, or on one
of its own. -/
def serve (given own : Store) (draft : RequestDraft) : Action Response := do
  let application ← current
  let r ← liftExcept (draft.sent application.settings.serverName)
  let tokenName := application.settings.tokenName
  let answering : StateM World Response :=
    if application.ownStore then World.apart (Service.answer own tokenName r)
    else Service.answer given tokenName r
  answering

end Application

end BearerAccess
