import BearerAccess.Account
import BearerAccess.Text.Split

/-!
# The tables

Rows of users and of tokens, the constraints on them, and the queries over them. Times are kept as
stamps and compared as texts.
-/

namespace BearerAccess

/-- A row of the table of users. -/
structure UserRow where
  id : String
  username : String
  isStaff : Bool
  createdAt : Stamp
  deriving DecidableEq, Repr

/-- A row of the table of tokens. -/
structure TokenRow where
  id : String
  userId : String
  secret : String
  name : String
  expiresAt : Option Stamp
  createdAt : Stamp
  deriving DecidableEq, Repr

/-- The rows of both tables, in the order of their insertion. -/
structure Tables where
  users : List UserRow := []
  tokens : List TokenRow := []
  deriving DecidableEq, Repr

def UserRow.toUser (r : UserRow) : User :=
  ⟨r.id, r.username, r.isStaff, r.createdAt.toDateTime?⟩

def UserRow.toIdentity (r : UserRow) : Identity :=
  ⟨Text.ofString r.id, Text.ofString r.username, r.isStaff⟩

def TokenRow.toToken (r : TokenRow) : Token :=
  ⟨r.id, r.userId, r.secret, r.name, r.expiresAt.bind Stamp.toDateTime?, r.createdAt.toDateTime?⟩

/-- A constraint that a row would break. -/
inductive Violation where
  | missing (column : String)
  | taken (column : String)
  | noOwner
  deriving DecidableEq, Repr

def Violation.message : Violation → String
  | missing column => "NOT NULL constraint failed: " ++ column
  | taken column => "UNIQUE constraint failed: " ++ column
  | noOwner => "FOREIGN KEY constraint failed"

/-- Whether a violation is about usernames: told by the name of the constraint where the database
gives one, and else by the column that its message names. -/
def isUsernameViolation (constraint : Option Text) (message : Text) : Bool :=
  match constraint with
  | some name => name = Text.ofString "ix_users_username"
  | none => occursIn (Text.ofString "users.username") message

/-- A user to be inserted. -/
structure NewUser where
  id : Option String
  username : Option String
  isStaff : Bool
  deriving DecidableEq, Repr

/-- A token to be inserted. -/
structure NewToken where
  id : Option String
  userId : Option String
  secret : Option String
  name : Option String
  expiresAt : Option Stamp
  deriving DecidableEq, Repr

def present (column : String) : Option α → Except Violation α
  | some a => .ok a
  | none => .error (.missing column)

namespace Tables

/-- Inserts a user. Missing values are found first, then a taken username, then a taken id. -/
def insertUser (t : Tables) (u : NewUser) (createdAt : Stamp) :
    Except Violation (UserRow × Tables) := do
  let id ← present "users.id" u.id
  let username ← present "users.username" u.username
  if t.users.any (·.username = username) then throw (.taken "users.username")
  if t.users.any (·.id = id) then throw (.taken "users.id")
  let row : UserRow := ⟨id, username, u.isStaff, createdAt⟩
  return (row, { t with users := t.users ++ [row] })

def insertToken (t : Tables) (k : NewToken) (createdAt : Stamp) :
    Except Violation (TokenRow × Tables) := do
  let id ← present "user_tokens.id" k.id
  let userId ← present "user_tokens.user_id" k.userId
  let secret ← present "user_tokens.token" k.secret
  let name ← present "user_tokens.name" k.name
  if t.tokens.any (·.secret = secret) then throw (.taken "user_tokens.token")
  if t.tokens.any (·.id = id) then throw (.taken "user_tokens.id")
  if !t.users.any (·.id = userId) then throw .noOwner
  let row : TokenRow := ⟨id, userId, secret, name, k.expiresAt, createdAt⟩
  return (row, { t with tokens := t.tokens ++ [row] })

def deleteUser (t : Tables) (id : String) : Tables :=
  { users := t.users.filter (·.id ≠ id), tokens := t.tokens.filter (·.userId ≠ id) }

def deleteToken (t : Tables) (id : String) : Tables :=
  { t with tokens := t.tokens.filter (·.id ≠ id) }

def userById? (t : Tables) (id : Option String) : Option UserRow :=
  t.users.find? fun u => some u.id = id

def userByUsername? (t : Tables) (username : Option String) : Option UserRow :=
  t.users.find? fun u => some u.username = username

def tokenById? (t : Tables) (id : Option String) : Option TokenRow :=
  t.tokens.find? fun k => some k.id = id

/-- The owner of the token with a secret, if the token has no expiry or one after `now`. -/
def ownerOfSecret? (t : Tables) (secret : Option String) (now : Stamp) : Option UserRow :=
  t.tokens.findSome? fun k =>
    if some k.secret = secret ∧ k.expiresAt.all (·.isAfter now) then
      t.users.find? (·.id = k.userId)
    else none

def utf8Bytes (s : String) : List UInt8 := s.toUTF8.data.toList

def bytesAtMost (a b : String) : Bool :=
  !List.lex (utf8Bytes b) (utf8Bytes a) fun x y => x.toNat < y.toNat

/-- The order of creation: by stamp, then by the bytes of the id. -/
def createdBefore (a b : Stamp × String) : Bool :=
  a.1.text < b.1.text || (a.1.text = b.1.text && bytesAtMost a.2 b.2)

def usersByAge (t : Tables) : List UserRow :=
  t.users.mergeSort fun a b => createdBefore (a.createdAt, a.id) (b.createdAt, b.id)

def tokensOf (t : Tables) (userId : Option String) : List TokenRow :=
  (t.tokens.filter fun k => some k.userId = userId).mergeSort fun a b =>
    createdBefore (b.createdAt, b.id) (a.createdAt, a.id)

end Tables

end BearerAccess
