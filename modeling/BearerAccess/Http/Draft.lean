import BearerAccess.Http.Address
import BearerAccess.Http.Message
import BearerAccess.Settings

/-!
# Drafts of requests

A request as its sender writes it has a target in the place of a path. The target may be a whole
address; what it lacks is taken from the name of the service. A draft whose target or headers are
malformed is not sent.
-/

namespace BearerAccess

/-- A request as its sender writes it. -/
structure RequestDraft extends RequestParts where
  target : Text
  deriving Repr

namespace RequestDraft

def read (t : Text) : Except Failure Address :=
  match Address.split t with
  | .ok a => .ok a
  | .error problem => .error (Cause.address problem)

def line (target : Address) : Text :=
  let query : Text := if target.query = [] then [] else "?" ++ target.query
  target.path ++ query

def defaultScheme : Text := "http"

def defaultHost : Text := "localhost"

/-- The address of the service: the scheme and the authority of a target, or what stands in for
them. -/
def home (target : Address) (server : Option ServerName) : Text :=
  let scheme := if target.scheme = [] then defaultScheme else target.scheme
  let name := (server.map ServerName.shown).getD []
  let authority :=
    if target.authority ≠ [] then target.authority else if name ≠ [] then name else defaultHost
  scheme ++ "://" ++ authority ++ "/"

def isNamed (authority : Text) : Bool :=
  let (name, port) := authority.spanWhile (! ·.is ':')
  name.all (fun p => p.toChar?.any fun c => c.isAlphanum || c = '-' || c = '.') &&
    (port = [] || (1 < port.length && (port.drop 1).all NumericHost.isDigit))

def checkHost (authority : Text) : Except Failure Unit :=
  if !isNamed authority then .ok ()
  else match DomainName.decode (Address.host authority) with
    | .ok _ => .ok ()
    | .error problem => .error (Cause.address (.hostForm problem))

/-- The name of the service must be a text. The result says whether no host can have it. -/
def checkServer : Option ServerName → Except Failure Bool
  | none => .ok false
  | some (.other kind _) => .error (Cause.setting (.serverNotNamed kind))
  | some (.text t) =>
    .ok !(DomainName.encode (t.lowerCase.takeWhile (! ·.is ':'))).isOk

/-- The path that an address asks for: with escapes resolved and one slash in front. -/
def askedPath (a : Address) : String :=
  let decoded := (percentDecoded a.text).legible
  String.ofList ('/' :: decoded.dropWhile (· = '/'))

def socketSchemes : List Text := ["ws", "wss"]

/-- The request that a draft comes to, if it can be sent. A path may look like a whole address
again. -/
def sent (d : RequestDraft) (server : Option ServerName) : Except Failure Request := do
  let target ← read d.target
  let inner ← read (line target)
  let place ← (← read inner.path).ascii
  let home ← read (← (← read (home target server)).ascii).text
  if home.query ≠ [] ∨ home.fragment ≠ [] then fail (.address .queryOfBase)
  if d.isBroken then fail .brokenHeader
  let _ ← (line target).encoded
  checkHost home.authority
  let misnamed ← checkServer server
  return {
    toRequestParts := d.toRequestParts
    path := askedPath place
    forSocket := home.scheme ∈ socketSchemes
    misnamed }

end RequestDraft

end BearerAccess
