import BearerAccess.Number.Numeral
import BearerAccess.Text.DomainName

/-!
# Failures

Why an operation failed, as causes; the wording of each cause stands in one place.
-/

namespace BearerAccess

/-- What is wrong with a header or a secret that should name a token. -/
inductive CredentialProblem where
  | noHeader
  | otherScheme
  | malformed
  | emptySecret
  deriving DecidableEq, Repr

/-- A failure of the store: what could not be done, in which operation, at which step of it. -/
structure StoreFailure where
  message : Text
  operation : Option Text := none
  step : Option Text := none
  deriving DecidableEq, Repr

/-- The operation and the step, as far as they are given, and the message. -/
def StoreFailure.text (f : StoreFailure) : Text :=
  let context := [f.operation, f.step].filterMap id |>.filter (· ≠ [])
  context.foldr (fun (part rest : Text) => part ++ ": " ++ rest) f.message

namespace StoreFailure

def inTransaction (message step : String) : StoreFailure :=
  ⟨message, some (Text.ofString "transaction"), some step⟩

def userNotInserted : StoreFailure := inTransaction "Could not insert user" "insert_user"

def tokenNotInserted : StoreFailure := inTransaction "Could not insert token" "insert_token"

def notCommitted : StoreFailure := inTransaction "Could not commit" "commit"

def inOperation (operation : String) : StoreFailure :=
  ⟨"Database error", some (Text.ofString operation), none⟩

def notAvailable : StoreFailure :=
  ⟨"Database is not available", some (Text.ofString "is_available"), none⟩

end StoreFailure

/-- What is wrong with the username of a new user. -/
inductive UsernameProblem where
  | missing
  | tooLong
  deriving DecidableEq, Repr

/-- What is wrong with a setting. -/
inductive SettingProblem where
  | notInteger (t : Text)
  | tooManyDigits (count : Nat)
  | notNumber (t : Text)
  | unknownLevel (t : Text)
  /-- A level is neither a number nor a name; it is given as it is shown. -/
  | notLevel (shown : String)
  | notTruth (t : Text)
  | wholeOfNan
  /-- An address names more than a kind of database and a driver. -/
  | tooManyParts
  /-- What should be a number is a value of another kind. -/
  | otherThanNumber (kind : String)
  /-- What should be an integer is a value of another kind. -/
  | otherThanInteger (kind : String)
  | isolationLevel
  /-- The name of a file holds a null character. -/
  | nullInName
  /-- There is no name of a file where one is needed. -/
  | nameMissing
  /-- There is no name of a file to which options could be added. -/
  | nameMissingForOptions
  /-- The name of the server is no text, but a value of some kind. -/
  | serverNotNamed (kind : String)
  deriving DecidableEq, Repr

/-- What is wrong with the address of a web resource. -/
inductive AddressProblem where
  /-- Brackets around the host are not paired. -/
  | brackets
  /-- What stands in brackets is no numeric address. -/
  | notNumeric (text : Text)
  | futureVersion
  | bracketedShort
  /-- A character stands for one that would divide the address. -/
  | dividing (authority : Text)
  | notPort (port : Text)
  | portRange
  /-- The address of the service itself has a query or a fragment. -/
  | queryOfBase
  /-- The name of the host has no form in ASCII. -/
  | host (problem : DomainProblem)
  /-- The name of the host is the ASCII form of nothing. -/
  | hostForm (problem : DomainProblem)
  deriving DecidableEq, Repr

/-- Numbers that do not fit where they are needed. -/
inductive RangeProblem where
  | date
  | negativeClock
  | lateClock
  | wholeOfInfinity
  | integerTooLarge
  /-- An option of the database is no machine integer. -/
  | wideOption
  /-- An integer is too large for the database. -/
  | wideValue
  deriving DecidableEq, Repr

/-- Why an operation failed. -/
inductive Cause where
  /-- A user is to be created on nobody's behalf. -/
  | actorMissing
  /-- A route needs a caller that is known. -/
  | authenticationRequired
  /-- A user is to be created on behalf of one who is not staff. -/
  | actorNotStaff
  /-- A route is for staff only. -/
  | staffOnly
  /-- The username is taken. -/
  | usernameTaken (username : Option String)
  /-- No secret was presented as it should be. -/
  | credential (problem : CredentialProblem)
  /-- The secret is not that of a live token. -/
  | tokenRejected
  /-- No secret could be drawn. -/
  | entropyUnavailable
  | noSuchUser
  | noSuchToken (id : Option String)
  | store (failure : StoreFailure)
  | username (problem : UsernameProblem)
  /-- A text holds surrogates: their position and the surrogates themselves. -/
  | unencodable (position : Nat) (surrogates : List CodePoint)
  | setting (problem : SettingProblem)
  | range (problem : RangeProblem)
  /-- The source of randomness failed. -/
  | noRandomness
  | malformedUrl
  | address (problem : AddressProblem)
  /-- An address names a part of the database layer that is not there: its group and its name. -/
  | noSuchPart (group : String) (name : Text)
  /-- An address needs a driver that is not there. -/
  | noDriver (name : String)
  /-- An address names a part of the database layer that is no kind of database. -/
  | noDialect (part : String)
  /-- An address names a file on another host. -/
  | remoteFile (address : Text)
  /-- A document is nested too deep to be read. -/
  | tooDeep
  /-- A header is broken into lines. -/
  | brokenHeader
  /-- A method of a session failed. -/
  | session (message : Text)
  /-- The database refused to change its tables. -/
  | schema (message : String)
  /-- The file of the database is something else. -/
  | noDatabase (message : String)
  /-- Something else was raised by who uses the library: its kind and its message. -/
  | raised (kind : String) (message : Text)
  deriving DecidableEq, Repr

/-- A failure: its cause, and the message of a rollback that failed after it. -/
structure Failure where
  cause : Cause
  rollbackError : Option Text := none
  deriving DecidableEq, Repr

instance : Coe Cause Failure := ⟨fun c => ⟨c, none⟩⟩

def fail {m : Type → Type v} [MonadExcept Failure m] {α : Type} (cause : Cause) : m α :=
  throw (cause : Failure)

def usernameText : Option String → String
  | none => "None"
  | some s => s

namespace CredentialProblem

def message : CredentialProblem → String
  | noHeader => "Missing authorization header"
  | otherScheme => "Authorization header must use Bearer scheme"
  | malformed => "Empty or malformed token in authorization header"
  | emptySecret => "No token provided"

end CredentialProblem

def usernameLimit : Nat := 100

namespace UsernameProblem

def message : UsernameProblem → String
  | missing => "Username is required"
  | tooLong => s!"Username is longer than {usernameLimit}"

end UsernameProblem

/-- The most characters of a text that is no integer that are shown, the quote included. -/
def shownLimit : Nat := 200

namespace SettingProblem

def message : SettingProblem → String
  | notInteger t => "invalid literal for int() with base 10: " ++ t.quotedUpTo shownLimit
  | tooManyDigits count =>
    s!"Exceeds the limit ({maxIntegerDigits} digits) for integer string conversion: value has " ++
      s!"{count} digits; use sys.set_int_max_str_digits() to increase the limit"
  | notNumber t => "could not convert string to float: " ++ t.quoted
  | unknownLevel t => "Unknown level: " ++ t.quoted
  | notLevel shown => "Level not an integer or a valid string: " ++ shown
  | notTruth t => "String is not true/false: " ++ t.quoted
  | wholeOfNan => "cannot convert float NaN to integer"
  | tooManyParts => "too many values to unpack (expected 2)"
  | otherThanNumber kind =>
    s!"float() argument must be a string or a real number, not {quoted kind}"
  | otherThanInteger kind =>
    "int() argument must be a string, a bytes-like object or a real number, not " ++ quoted kind
  | isolationLevel =>
    "isolation_level string must be '', 'DEFERRED', 'IMMEDIATE', or 'EXCLUSIVE'"
  | nullInName => "embedded null byte"
  | nameMissing => "expected str, bytes or os.PathLike object, not NoneType"
  | nameMissingForOptions => "unsupported operand type(s) for +=: 'NoneType' and 'str'"
  | serverNotNamed kind => s!"{quoted kind} object has no attribute 'lower'"

end SettingProblem

namespace RangeProblem

def message : RangeProblem → String
  | date => "date value out of range"
  | negativeClock => "can't convert negative int to unsigned"
  | lateClock => "int too big to convert"
  | wholeOfInfinity => "cannot convert float infinity to integer"
  | integerTooLarge => "int too large to convert to float"
  | wideOption => "Python int too large to convert to C int"
  | wideValue => "Python int too large to convert to SQLite INTEGER"

end RangeProblem

namespace AddressProblem

def message : AddressProblem → Text
  | brackets => "Invalid IPv6 URL"
  | notNumeric text => text.quoted ++ " does not appear to be an IPv4 or IPv6 address"
  | futureVersion => "IPvFuture address is invalid"
  | bracketedShort => "An IPv4 address cannot be in brackets"
  | dividing authority =>
    "netloc '" ++ authority ++ "' contains invalid characters under NFKC normalization"
  | notPort port => "Port could not be cast to integer value as " ++ port.quoted
  | portRange => "Port out of range 0-65535"
  | queryOfBase => "base url must not contain a query string or fragment"
  | host problem => "encoding with 'idna' codec failed (UnicodeError: " ++ problem.message ++ ")"
  | hostForm (.otherForm given proper) => (DomainProblem.otherForm given proper).message
  | hostForm problem =>
    "decoding with 'idna' codec failed (UnicodeError: " ++ problem.message ++ ")"

end AddressProblem

def unencodableText (position : Nat) (surrogates : List CodePoint) : String :=
  let place := match surrogates with
    | [p] => s!"character '{String.ofList (numericEscape p.val)}' in position {position}"
    | _ => s!"characters in position {position}-{position + surrogates.length - 1}"
  s!"'utf-8' codec can't encode {place}: surrogates not allowed"

def fileAddressForms : String :=
  "Valid SQLite URL forms are:\n sqlite:///:memory: (or, sqlite://)\n" ++
    " sqlite:///relative/path/to/file.db\n sqlite:////absolute/path/to/file.db"

def Cause.message : Cause → Text
  | actorMissing => "Authenticated user is required"
  | authenticationRequired => "Authentication required"
  | actorNotStaff => "Only staff users can create new users"
  | staffOnly => "Only staff users may do this"
  | usernameTaken name => s!"Username {usernameText name} is taken"
  | credential problem => problem.message
  | tokenRejected => "Invalid or expired token"
  | entropyUnavailable => "Could not read secure random bytes"
  | noSuchUser => "User does not exist"
  | noSuchToken id => s!"Token {usernameText id} does not exist"
  | store failure => failure.text
  | username problem => problem.message
  | unencodable position surrogates => unencodableText position surrogates
  | setting problem => problem.message
  | range problem => problem.message
  | noRandomness => "no randomness"
  | malformedUrl => "Could not parse SQLAlchemy URL from given URL string"
  | address problem => problem.message
  | noSuchPart group name => s!"Can't load plugin: sqlalchemy.{group}:" ++ name
  | noDriver name => s!"No module named {quoted name}"
  | noDialect part => s!"{part} has no attribute 'dialect'"
  | remoteFile shown => "Invalid SQLite URL: " ++ shown ++ "\n" ++ fileAddressForms
  | tooDeep => "maximum recursion depth exceeded"
  | brokenHeader => "Header values must not contain newline characters."
  | session message => message
  | schema message => message
  | noDatabase message => message
  | raised _ message => message

def Failure.message (f : Failure) : Text := f.cause.message

def Text.encoded (t : Text) : Except Failure String :=
  match t.toString? with
  | some s => .ok s
  | none => let (position, run) := t.firstSurrogates; .error (Cause.unencodable position run)

end BearerAccess
