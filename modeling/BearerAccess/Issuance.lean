import BearerAccess.Identifier
import BearerAccess.Store.Operations

/-!
# Issuance

New users come with a token, and the two are stored in one transaction. Staff may create users; the
first staff user is made without anybody's leave.
-/

namespace BearerAccess

def checkedUsername (username : Option Text) : Except UsernameProblem Text :=
  match username with
  | none => .error .missing
  | some t =>
    if t.isBlank then .error .missing
    else if usernameLimit < t.length then .error .tooLong
    else .ok t

/-- Makes the credentials of a user with an id and a name, inside a transaction. -/
def makeCredentials (store : Store) (userId : String) (name : Text) (isStaff : Flag)
    (tokenName : Label) (expiresAt : Option DateTime) : Block Credentials := do
  let user ← store.insertUser (some (Text.ofString userId)) (some name) isStaff
  let tokenId ← Block.outside newIdentifier
  let secret ← Block.outside (newSecret secretSize)
  let token ← store.insertToken (some (Text.ofString tokenId))
    (some (Text.ofString user.userId)) (some (Text.ofString secret)) tokenName expiresAt
  return ⟨user, token⟩

def createUser (store : Store) (username : Option Text) (isStaff : Flag)
    (tokenName : Label) (expiresAt : Option DateTime) : Action Credentials := do
  match checkedUsername username with
  | .error problem => fail (.username problem)
  | .ok name =>
    let userId ← newIdentifier
    let made ← store.transaction (makeCredentials store userId name isStaff tokenName expiresAt)
    writeLog .info .issuance
      (s!"Created user {made.user.userId} ({made.user.username}, " ++
        s!"is_staff={truthText made.user.isStaff}) with token {made.token.tokenId}")
    return made

def issueUser (store : Store) (actor : Option Identity) (username : Option Text) (isStaff : Flag)
    (tokenName : Label) (expiresAt : Option DateTime) : Action Credentials := do
  match actor with
  | none => fail .actorMissing
  | some actor =>
    if !actor.isStaff then fail .actorNotStaff
    createUser store username isStaff tokenName expiresAt

def bootstrapStaffUser (store : Store) (username : Option Text) (tokenName : Label) :
    Action Credentials := do
  let name := username.getD (Text.ofString (usernameText none))
  writeLog .info .issuance ("Bootstrapping staff user " ++ name)
  createUser store username (.value true) tokenName none

end BearerAccess
