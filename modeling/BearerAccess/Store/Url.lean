import BearerAccess.Quantity
import BearerAccess.Text.Percent
import BearerAccess.Text.Split
import BearerAccess.Text.WordCharacter

/-!
# Database addresses

The address of a database: the name of its kind and driver, then user, password, host, port, name of
the database and a query, all but the first optional. An address can be shown without its password,
if its parts have a UTF-8 form.
-/

namespace BearerAccess

/-- The address of a database. -/
structure DatabaseUrl where
  driver : String
  username : Option Text := none
  password : Option Text := none
  host : Option Text := none
  port : Option Int := none
  database : Option Text := none
  query : List (Text × Text) := []
  deriving DecidableEq, Repr

namespace DatabaseUrl

/-- Takes off a username and a password that end with an at sign. The username reaches to the first
colon or slash; a password may hold anything but an at sign. -/
def takeUser (t : Text) : Option (Text × Option Text) × Text :=
  let (name, rest) := t.spanWhile fun p => !p.is ':' && !p.is '/'
  let withPassword := match rest with
    | p :: more => if p.is ':' then Text.splitAtFirst? '@' more else none
    | [] => none
  match withPassword with
  | some (password, left) => (some (name, some password), left)
  | none =>
    match name.splitAtLast? '@' with
    | some (name, left) => (some (name, none), left ++ rest)
    | none => (none, t)

def takeBracketed? (t : Text) : Option (Text × Text) :=
  match t with
  | p :: more =>
    if !p.is '[' then none
    else
      let (inside, rest) := Text.spanWhile (fun p => !p.is '/' && !p.is '?') more
      match inside.splitAtLast? ']' with
      | some (host, left) => if host.isEmpty then none else some (host, left ++ rest)
      | none => none
  | [] => none

def takeHost (t : Text) : Option Text × Text :=
  match takeBracketed? t with
  | some (host, rest) => (some host, rest)
  | none =>
    let (host, rest) := t.spanWhile fun p => !p.is '/' && !p.is ':' && !p.is '?'
    (if host.isEmpty then none else some host, rest)

def takeAfter (mark : Char) (accept : CodePoint → Bool) (t : Text) : Option Text × Text :=
  match t with
  | p :: rest =>
    if p.is mark then
      let (part, left) := Text.spanWhile accept rest
      (some part, left)
    else (none, t)
  | [] => (none, [])

/-- The names and values of a query; those without a value are left out. -/
def readQuery (t : Text) : List (Text × Text) :=
  (t.splitAll '&').filterMap fun part => do
    let (name, value) ← part.splitAtFirst? '='
    if value.isEmpty then none else some (queryDecoded name, queryDecoded value)

/-- The code point may stand in the name of a kind of database and driver. -/
def isDriverPoint (p : CodePoint) : Bool :=
  p.toChar?.any fun c => isWordCharacter c || c = '+'

def takeDriver? (t : Text) : Option (Text × Text) :=
  let (driver, rest) := t.spanWhile isDriverPoint
  let mark : Text := "://"
  if driver.isEmpty || !mark.isPrefixOf rest then none
  else some (driver, rest.drop mark.length)

def read (t : Text) : Except Failure DatabaseUrl := do
  match takeDriver? t with
  | none => fail .malformedUrl
  | some (driver, rest) =>
    let (user, rest) := takeUser rest
    let (host, rest) := takeHost rest
    let (port, rest) := takeAfter ':' (fun p => !p.is '/' && !p.is '?') rest
    let (database, rest) := takeAfter '/' (! ·.is '?') rest
    let (query, _) := takeAfter '?' (! ·.is '\n') rest
    let port ← match port with
      | none => pure none
      | some digits => some <$> integerSetting digits
    return {
      driver := String.ofList driver.legible
      username := user.map fun u => percentDecoded u.1
      password := user.bind fun u => u.2.map percentDecoded
      host
      port
      database := database.map percentDecoded
      query := (query.map readQuery).getD [] }

def backend (u : DatabaseUrl) : String :=
  String.ofList (u.driver.toList.takeWhile (· ≠ '+'))

def queryOrder (a b : Text × Text) : Bool := !List.lex b.1 a.1 fun p q => p.val < q.val

/-- A part of an address, with escapes for all but unreserved and the given safe characters. -/
def part (safe : List Char) (t : Text) : Except Failure Text :=
  t.encoded.map fun s => percentEncoded safe s

def queryPart (t : Text) : Except Failure Text := t.encoded.map fun s => queryEncoded s

def userText (u : DatabaseUrl) (hidden : Bool) : Except Failure Text := do
  match u.username with
  | none => return []
  | some name =>
    let name ← part [' ', '+'] name
    let password ← match u.password with
      | none => pure []
      | some p => if hidden then pure (Text.ofString "***") else part [' ', '+'] p
    let secret : Text := if u.password.isSome then ":" ++ password else []
    return name ++ secret ++ Text.ofString "@"

def queryTexts (u : DatabaseUrl) : Except Failure (List Text) :=
  (u.query.mergeSort queryOrder).mapM fun p => do
    return (← queryPart p.1) ++ Text.ofString "=" ++ (← queryPart p.2)

/-- An address as text. What is neither unreserved nor safe in its place is escaped; a hidden
password is shown as stars. -/
def text (u : DatabaseUrl) (hidden : Bool) : Except Failure Text := do
  let user ← u.userText hidden
  let host : Text := match u.host with
    | none => []
    | some host => if host.any (·.is ':') then "[" ++ host ++ "]" else host
  let port : Text := match u.port with
    | none => []
    | some port => ":" ++ toString port
  let database ← match u.database with
    | none => pure []
    | some name => (Text.ofString "/" ++ ·) <$> part [' ', '+', '/'] name
  let query ← u.queryTexts
  let shownQuery : Text := if query.isEmpty then [] else "?" ++ Text.joined "&" query
  return Text.ofString u.driver ++ "://" ++ user ++ host ++ port ++ database ++ shownQuery

def shown (u : DatabaseUrl) : Except Failure Text := u.text true

end DatabaseUrl

end BearerAccess
