import BearerAccess.Record

/-!
# Users and tokens

A user is known by an id and a username. A token is a secret that speaks for its owner until it
expires.
-/

namespace BearerAccess

/-- A user. Staff may manage other users. -/
structure User where
  userId : String
  username : String
  isStaff : Bool := false
  createdAt : Option DateTime := none
  deriving DecidableEq, Repr

/-- A token: the secret that its owner presents, under a name for people. -/
structure Token where
  tokenId : String
  userId : String
  secret : String
  name : String
  expiresAt : Option DateTime := none
  createdAt : Option DateTime := none
  deriving DecidableEq, Repr

/-- Who a secret speaks for. -/
structure Identity where
  userId : Text
  username : Text
  isStaff : Bool := false
  deriving DecidableEq, Repr

/-- A new user with its first token. -/
structure Credentials where
  user : User
  token : Token
  deriving DecidableEq, Repr

/-- Whether a token may be used at a moment: its expiry lies after it, or it has none. Nothing is
answered if one of the two times has no universal time. -/
def Token.isLiveAt? (t : Token) (now : DateTime) : Option Bool :=
  match t.expiresAt with
  | none => some true
  | some expiry => do
    let e ← expiry.toUniversal?
    let n ← now.toUniversal?
    return decide (n.instant < e.instant)

def User.toDatum (u : User) : Datum :=
  .record [("user_id", .ofString u.userId), ("username", .ofString u.username),
    ("is_staff", .ofBool u.isStaff), ("created_at", .ofTime? u.createdAt)]

def Token.toDatum (t : Token) : Datum :=
  .record [("token_id", .ofString t.tokenId), ("user_id", .ofString t.userId),
    ("token", .ofString t.secret), ("name", .ofString t.name),
    ("expires_at", .ofTime? t.expiresAt), ("created_at", .ofTime? t.createdAt)]

def Identity.toDatum (i : Identity) : Datum :=
  .record [("user_id", .ofText i.userId), ("username", .ofText i.username),
    ("is_staff", .ofBool i.isStaff)]

def Credentials.toDatum (c : Credentials) : Datum :=
  .record [("user", c.user.toDatum), ("token", c.token.toDatum)]

end BearerAccess
