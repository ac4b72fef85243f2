/-!
# Routes

The resources of the service, the methods of each, and where a method and a path lead.
-/

namespace BearerAccess

/-- A resource that a path may name. -/
inductive Resource where
  | status
  | users
  /-- The user that the request speaks for. -/
  | me
  | user (id : String)
  /-- A file of the service, of which there are none. -/
  | file (name : String)
  deriving DecidableEq, Repr

/-- What a request may ask for. -/
inductive Endpoint where
  | showStatus
  | listUsers
  | createUser
  | showCaller
  | deleteUser (id : String)
  | sendFile (name : String)
  deriving DecidableEq, Repr

namespace Resource

def endpoints : Resource → List (String × Endpoint)
  | status => [("GET", .showStatus)]
  | users => [("GET", .listUsers), ("POST", .createUser)]
  | me => [("GET", .showCaller)]
  | user id => [("DELETE", .deleteUser id)]
  | file name => [("GET", .sendFile name)]

/-- The method by which a method is served. What can be read can be asked for its head alone. -/
def servedBy (method : String) : String := if method = "HEAD" then "GET" else method

def endpoint? (r : Resource) (method : String) : Option Endpoint :=
  r.endpoints.lookup (servedBy method)

def methodNames : List String := ["DELETE", "GET", "HEAD", "OPTIONS", "POST"]

/-- Whether a resource has a method. Every resource tells its methods. -/
def hasMethod (r : Resource) (method : String) : Bool :=
  method = "OPTIONS" || (r.endpoint? method).isSome

/-- Whether a method is that of everything that can be done with a resource. -/
def hasOnly (r : Resource) (method : String) : Bool :=
  method = "OPTIONS" || r.endpoints.all (·.1 = servedBy method)

def segments : List Char → List (List Char)
  | [] => [[]]
  | c :: cs =>
    if c = '/' then [] :: segments cs
    else match segments cs with
      | [] => [[c]]
      | s :: rest => (c :: s) :: rest

/-- The resources that a path names, the more particular one first. The name of a file has no line
feed but as its first character. -/
def ofPath (path : String) : List Resource :=
  match (segments path.toList).map String.ofList with
  | ["", "status"] => [status]
  | ["", "users"] => [users]
  | ["", "users", id] => if id = "" then [] else if id = "me" then [me, user id] else [user id]
  | "" :: "static" :: first :: rest =>
    let name := "/".intercalate (first :: rest)
    if first = "" || name.toList.tail.contains '\n' then [] else [file name]
  | _ => []

end Resource

def mergedSlashes : List Char → List Char
  | '/' :: '/' :: cs => mergedSlashes ('/' :: cs)
  | c :: cs => c :: mergedSlashes cs
  | [] => []

/-- Where a method and a path lead. -/
inductive Destination where
  | endpoint (e : Endpoint)
  /-- The methods are asked for. -/
  | methods (names : List String)
  | wrongMethod
  /-- There is a resource, but no socket. -/
  | noSocket
  /-- The path leads somewhere once its runs of slashes are merged. -/
  | moved
  | nowhere
  deriving DecidableEq, Repr

namespace Destination

def among (method : String) (resources : List Resource) : Option Destination :=
  if method = "OPTIONS" then
    if resources = [] then none
    else some (.methods (Resource.methodNames.filter fun name => resources.any (·.hasMethod name)))
  else (resources.findSome? (·.endpoint? method)).map .endpoint

def find (method path : String) (forSocket : Bool) : Destination :=
  let resources := Resource.ofPath path
  let merged := Resource.ofPath (String.ofList (mergedSlashes path.toList))
  let refusal (otherwise : Destination) : Destination :=
    if resources = [] ∧ merged = [] then .nowhere else otherwise
  if forSocket then
    if (resources ++ merged).all (·.hasOnly method) then refusal .noSocket else .wrongMethod
  else match among method resources, among method merged with
    | some destination, _ => destination
    | none, some _ => .moved
    | none, none => refusal .wrongMethod

end Destination

end BearerAccess
