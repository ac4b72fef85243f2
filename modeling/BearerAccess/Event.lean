import BearerAccess.Command.CommandLine
import BearerAccess.Http.Application
import BearerAccess.Store.Call

/-!
# Events and runs

Whatever may happen to the service, as data, and finite runs of events.
-/

namespace BearerAccess

/-- Something that happens to the service or to its surroundings. -/
inductive Event where
  | call (c : Call)
  | block (script : BlockScript)
  | install (b : Blueprint)
  | request (draft : RequestDraft)
  | command (words : List Text) (env : Environment)
  /-- The clock moves by a number of milliseconds. -/
  | tick (milliseconds : Int)
  /-- The source of randomness is told what to do after what it has been told before. -/
  | entropy (draws : List Draw)
  /-- Another client takes the write lock of the database, or gives it back. -/
  | lock (taken : Bool)

/-- The world in which an event begins: no session has been given a task, and nothing has failed. -/
def World.anew (w : World) : World := { w with tasks := 0, origin := none }

/-- What an event is answered with. -/
inductive Reaction where
  | answer (outcome : Except Failure Answer)
  | block (results : List (Except Failure Answer)) (outcome : Except Failure Unit)
  | response (r : Response)
  | report (r : Report)

namespace Event

def answered (a : Action Answer) : StateM World Reaction := return .answer (← a.run)

def occur (mishaps : Mishaps) : Event → StateM World Reaction
  | call c => answered (c.perform ⟨mishaps.store⟩)
  | block script => do
    let (results, outcome) ← script.run ⟨mishaps.store⟩
    return .block results outcome
  | install b => answered do
    let _ ← Application.install b
    return .nothing
  | request draft => do
    match ← (Application.serve ⟨mishaps.store⟩ ⟨mishaps.others⟩ draft).run with
    | .ok response => return .response response
    | .error failure => return .answer (.error failure)
  | command words env => return .report (← CommandLine.run ⟨mishaps.others⟩ words env)
  | tick milliseconds => answered do
    modify fun w => { w with clock := w.clock + milliseconds }
    return .nothing
  | entropy draws => answered do
    modify fun w => { w with entropy := w.entropy ++ draws }
    return .nothing
  | lock taken => answered do
    modify fun w => { w with database := { w.database with locked := taken } }
    return .nothing

/-- Lets an event happen. -/
def happen (mishaps : Mishaps) (e : Event) : StateM World Reaction := fun w =>
  e.occur mishaps w.anew

def run : List (Mishaps × Event) → StateM World (List Reaction)
  | [] => return []
  | (mishaps, event) :: rest => do
    let reaction ← event.happen mishaps
    return reaction :: (← run rest)

end Event

end BearerAccess
