import BearerAccess.Json.Writer
import BearerAccess.Text.Split

/-!
# Requests and responses

A request asks for something by a method and a path. A response carries a JSON document or nothing.
-/

namespace BearerAccess

/-- What a request carries besides the place that it is sent to. -/
structure RequestParts where
  method : String
  authorization : Option Text := none
  contentType : Option String := none
  body : List UInt8 := []
  /-- The address that the request comes from. -/
  peer : String := "127.0.0.1"
  /-- The program that the request comes from. -/
  agent : String := ""
  deriving Repr

namespace RequestParts

def isBroken (r : RequestParts) : Bool :=
  let breaks (p : CodePoint) : Bool := p.is '\r' || p.is '\n'
  [r.authorization, r.contentType.map Text.ofString].any fun header =>
    header.any fun h => h.any breaks

def isPadding (c : Char) : Bool := c = ' ' || c = '\t'

def mediaType (r : RequestParts) : List Char :=
  let given := (r.contentType.getD "").toList.takeWhile (· ≠ ';')
  let trimmed := ((given.dropWhile isPadding).reverse.dropWhile isPadding).reverse
  trimmed.map Char.toLower

def bearsJson (r : RequestParts) : Bool :=
  let application := "application/".toList
  r.mediaType = application ++ "json".toList ||
    (application.isPrefixOf r.mediaType && "+json".toList.isSuffixOf r.mediaType)

end RequestParts

/-- A request. -/
structure Request extends RequestParts where
  path : String
  /-- What is asked for is a socket. -/
  forSocket : Bool := false
  /-- The service goes by a name that no host can have. -/
  misnamed : Bool := false
  deriving Repr

/-- A response. -/
structure Response where
  status : Nat
  contentType : String := "application/json"
  content : Option Json := none
  /-- The methods that the resource has, if that is what the response tells. -/
  allow : Option (List String) := none

namespace Response

def pageType : String := "text/html; charset=utf-8"

def document (status : Nat) (content : Json) : Response := { status, content := some content }

def empty (status : Nat) : Response := { status, contentType := pageType }

/-- The text of the body: a document ends with a line feed. -/
def body (r : Response) : String :=
  match r.content with
  | none => ""
  | some content => content.text ++ "\n"

end Response

end BearerAccess
