import BearerAccess.Answer
import BearerAccess.Authentication
import BearerAccess.Http.Message
import BearerAccess.Http.Route
import BearerAccess.Issuance
import BearerAccess.Json.Encoded
import BearerAccess.Text.UpperCase

/-!
# The service

Answers requests. The caller of a request is looked up first; a secret that is refused is kept as
the reason why guarded routes refuse the request, while a failing store ends it at once. Then the
route is found and taken.
-/

namespace BearerAccess

/-- Why a request is answered with an error. -/
inductive Problem where
  | notFound
  | wrongMethod
  | badRequest (reason : Text)
  | storeSilent
  | failure (cause : Cause)
  deriving DecidableEq, Repr

/-- What a failure means to who sent a request. -/
inductive Blame where
  | caller (status : Nat)
  /-- The service cannot go on, and says so in its log. -/
  | service
  | unexpected
  deriving DecidableEq, Repr

def Cause.blame : Cause → Blame
  | .actorMissing | .authenticationRequired | .credential _ | .tokenRejected => .caller 401
  | .actorNotStaff | .staffOnly => .caller 403
  | .noSuchUser => .caller 404
  | .usernameTaken _ => .caller 409
  | .store _ | .entropyUnavailable => .service
  | _ => .unexpected

namespace Problem

def status : Problem → Nat
  | notFound => 404
  | wrongMethod => 405
  | badRequest _ => 400
  | storeSilent => 503
  | failure cause =>
    match cause.blame with
    | .caller status => status
    | _ => 500

def reason : Problem → Text
  | notFound => "The requested URL was not found on the server. If you entered the URL manually " ++
      "please check your spelling and try again."
  | wrongMethod => "The method is not allowed for the requested URL."
  | badRequest reason => reason
  | storeSilent => "Database is not available"
  | failure cause =>
    match cause.blame with
    | .caller _ => cause.message
    | .service => "Internal server error"
    | .unexpected => "The server encountered an internal error and was unable to complete your " ++
        "request. Either the server is overloaded or there is an error in the application."

def misunderstood : Text :=
  "The browser (or proxy) sent a request that this server could not understand."

def response (p : Problem) : Response :=
  .document p.status (.record [("reason", .string p.reason)])

end Problem

abbrev Handler := ExceptT Problem (StateM World)

def Handler.perform (a : Action α) : Handler α := fun w =>
  match a w with
  | (.ok value, w) => (.ok value, w)
  | (.error f, w) => (.error (.failure f.cause), w)

namespace Service

def findCaller (store : Store) (r : Request) : Action Caller := do
  match r.authorization with
  | none =>
    writeLog .debug .authentication "No auth token"
    return {}
  | some header =>
    let look : Action Identity := do
      match bearerSecret (some header) with
      | .ok secret => authenticate store (some secret) none
      | .error problem => fail (.credential problem)
    let refuse (failure : Failure) : Action Caller := do
      writeLog .warning .authentication
        ("Authentication failed: " ++ failure.message ++ s!" ({r.method} {r.path} from {r.peer})")
      return { refusal := some failure }
    match ← outcome look with
    | .ok identity =>
      writeLog .info .authentication
        ("User authenticated: " ++ identity.userId ++ " (" ++ identity.username ++
          s!", is_staff={truthText identity.isStaff})")
      return { identity := some identity }
    | .error failure =>
      match failure.cause with
      | .credential _ | .tokenRejected => refuse failure
      | _ => throw failure

def depthLimit : Nat := 974

def payload (r : Request) : Except Problem (List (Text × Json)) :=
  let refusal := Problem.badRequest "Expected a JSON object"
  if !r.bearsJson then .error refusal
  else match Json.ofBytes depthLimit r.body with
    | .ok (.object fields) => .ok fields
    | .error .tooDeep => .error (.failure .tooDeep)
    | _ => .error refusal

/-- The username that the object asks for; what is no string counts as an empty one. -/
def requestedUsername (fields : List (Text × Json)) : Text :=
  match Json.field? fields "username" with
  | some (.string t) => t
  | _ => []

def requestedStaff (fields : List (Text × Json)) : Except Problem Bool :=
  match Json.field? fields "is_staff" with
  | none => .ok false
  | some (.bool b) => .ok b
  | some _ => .error (.badRequest "is_staff must be a boolean")

/-- Creates a user on behalf of the caller. What is wrong with the username is the request's
fault. -/
def createUser (store : Store) (tokenName : Label) (caller : Identity) (r : Request) :
    Handler Response := do
  let fields ← payload r
  let isStaff ← requestedStaff fields
  let issue := issueUser store (some caller) (some (requestedUsername fields)) (.value isStaff)
    tokenName none
  match ← Handler.perform (outcome issue) with
  | .ok credentials => return .document 201 credentials.toDatum.shown
  | .error failure =>
    match failure.cause with
    | .username _ | .unencodable _ _ => throw (.badRequest failure.message)
    | cause => throw (.failure cause)

def take (store : Store) (tokenName : Label) (caller : Caller) (r : Request) :
    Endpoint → Handler Response
  | .showStatus => do
    if ← Store.isAvailable then
      return .document 200 (.record [("status", .ofString "OK")])
    else throw .storeSilent
  | .listUsers => do
    let _ ← Handler.perform (Guard.staffOnly.check caller)
    let users ← Handler.perform store.users
    return .document 200 (.record [("users", .array (users.map (·.toDatum.shown)))])
  | .createUser => do
    let identity ← Handler.perform (Guard.staffOnly.check caller)
    createUser store tokenName identity r
  | .showCaller => do
    let identity ← Handler.perform (Guard.authenticated.check caller)
    return .document 200 identity.toDatum.shown
  | .deleteUser id => do
    let identity ← Handler.perform (Guard.staffOnly.check caller)
    Handler.perform (store.deleteUser (some (Text.ofString id)))
    Handler.perform (writeLog .info .routes
      (Text.ofString s!"User {id} deleted by " ++ identity.userId))
    return .empty 204
  | .sendFile _ => throw .notFound

def respond (store : Store) (tokenName : Label) (r : Request) : Handler Response := do
  let caller ← Handler.perform (findCaller store r)
  if r.misnamed then throw (.badRequest Problem.misunderstood)
  match Destination.find r.method r.path r.forSocket with
  | .nowhere => throw .notFound
  | .wrongMethod => throw .wrongMethod
  | .noSocket => throw (.badRequest Problem.misunderstood)
  | .moved => return .empty 308
  | .methods names => return { Response.empty 200 with allow := some names }
  | .endpoint e => take store tokenName caller r e

/-- Tells the log of a problem that is not the caller's, together with the exception behind it. -/
def report (r : Request) : Problem → World → World
  | .failure cause, w =>
    match cause.blame with
    | .caller _ => w
    | .service => w.writeException .error .requests ("Internal error: " ++ cause.message) cause
    | .unexpected => w.writeException .error .service s!"Exception on {r.path} [{r.method}]" cause
  | _, w => w

/-- Answers a request. Its method may be written in either case, but a body is left out for the
capital letters alone. -/
def answer (store : Store) (tokenName : Label) (given : Request) :
    StateM World Response := do
  let r := { given with method := upperCase given.method }
  modify (·.write .info .requests
    s!"HTTP request started: {r.method} {r.path} from {r.peer} ({r.agent})")
  let start := (← get).clock
  let response ← match ← (respond store tokenName r).run with
    | .ok response => pure response
    | .error problem =>
      modify (report r problem)
      pure problem.response
  let duration := (← get).clock - start
  modify (·.write .info .requests
    s!"HTTP request completed: {r.method} {r.path} {response.status} in {duration} ms")
  return if given.method = "HEAD" then { response with content := none } else response

end Service

end BearerAccess
