import BearerAccess.Proofs.Admission
import BearerAccess.Proofs.Discretion
import BearerAccess.Proofs.Document

/-!
# The creation of users by request

What becomes of a request of staff for a new user is decided by the body, the draws and the rows, one
after the other: what is wrong with the body counts before all else, a taken username before a draw of
the token that fails, and only a user with a token makes a difference to the store.
-/

namespace BearerAccess

variable {w w' v : World} {rows : Tables} {now : Stamp} {s : Session} {r : Request}

/-! ### What a new user is made of -/

/-- What is drawn for a new user, one after the other: its id, the id of its token, and the secret. -/
structure Drawn where
  userId : Except Failure String
  tokenId : Except Failure String
  secret : Except Failure String

def World.drawn (w : World) : Drawn where
  userId := (newIdentifier w).1
  tokenId := (newIdentifier (newIdentifier w).2).1
  secret := (newSecret secretSize (newIdentifier (newIdentifier w).2).2).1

/-- The rows of a user with an id and a name and of its token, or the status that tells why they cannot
be added to the others. -/
def newRows (rows : Tables) (now : Stamp) (label userId username : String) (isStaff : Bool)
    (tokenId secret : Except Failure String) : Except Nat (UserRow × TokenRow) :=
  if rows.users.any (·.username = username) then .error 409
  else if rows.users.any (·.id = userId) then .error 500
  else match tokenId, secret with
    | .ok tokenId, .ok secret =>
      if rows.tokens.any (·.secret = secret) || rows.tokens.any (·.id = tokenId) then .error 500
      else .ok (⟨userId, username, isStaff, now⟩, ⟨tokenId, userId, secret, label, none, now⟩)
    | _, _ => .error 500

lemma newRows_error {label userId username : String} {isStaff : Bool}
    {tokenId secret : Except Failure String} {status : Nat}
    (h : newRows rows now label userId username isStaff tokenId secret = .error status) :
    status = 409 ∨ status = 500 := by
  unfold newRows at h
  split at h
  · cases h
    exact .inl rfl
  split at h
  · cases h
    exact .inr rfl
  split at h
  · split at h
    · cases h
      exact .inr rfl
    · cases h
  · cases h
    exact .inr rfl

/-- How a failure of the creation of a user is answered. -/
def Service.refused (f : Failure) : Problem :=
  match f.cause with
  | .username _ | .unencodable _ _ => .badRequest f.message
  | cause => .failure cause

lemma Service.refused_congr {f f' : Failure} (h : f'.cause = f.cause) :
    (refused f').status = (refused f).status := by
  unfold refused
  rw [h]
  cases f.cause <;> rfl

/-! ### The transaction -/

/-- Where nothing can be drawn, the service is at fault. -/
lemma Cause.OfDraw.status {f : Failure} (h : f.cause.OfDraw) : (Service.refused f).status = 500 := by
  obtain ⟨cause, rollbackError⟩ := f
  cases cause <;> first | rfl | exact h.elim

lemma status_of_newIdentifier {f : Failure} (h : (newIdentifier w).1 = .error f) :
    (Service.refused f).status = 500 :=
  (newIdentifier_failsFor (fun _ => id) w f h).status

lemma status_of_newSecret {size : Nat} {f : Failure} (h : (newSecret size w).1 = .error f) :
    (Service.refused f).status = 500 :=
  (newSecret_failsFor (fun _ => id) size w f h).status

namespace Tables

lemma insertUser_eq (rows : Tables) (id username : String) (isStaff : Bool) (now : Stamp) :
    rows.insertUser ⟨some id, some username, isStaff⟩ now =
      if rows.users.any (·.username = username) then .error (.taken "users.username")
      else if rows.users.any (·.id = id) then .error (.taken "users.id")
      else .ok (⟨id, username, isStaff, now⟩,
        (Change.addUser ⟨id, username, isStaff, now⟩).apply rows) := by
  unfold insertUser
  dsimp only [present, Bind.bind, Except.bind]
  split
  · rfl
  split <;> rfl

/-- A token is inserted for a user who is there, if neither its secret nor its id is. -/
lemma insertToken_eq {userId : String} (h : rows.users.any (·.id = userId)) (id secret label : String)
    (now : Stamp) : rows.insertToken ⟨some id, some userId, some secret, some label, none⟩ now =
      if rows.tokens.any (·.secret = secret) then .error (.taken "user_tokens.token")
      else if rows.tokens.any (·.id = id) then .error (.taken "user_tokens.id")
      else .ok (⟨id, userId, secret, label, none, now⟩,
        (Change.addToken ⟨id, userId, secret, label, none, now⟩).apply rows) := by
  unfold insertToken
  dsimp only [present, Bind.bind, Except.bind]
  split
  · rfl
  split
  · rfl
  · rw [h]
    rfl

end Tables

namespace Store

/-- In a working store a user is inserted just as among the rows that the session meets. -/
lemma insertUser_apply {username : String} {name : Text} (hname : name.toString? = some username)
    (hclock : w.stamp? = some now) (hsees : s.Sees w.database rows) (id : String) (isStaff : Bool) :
    ∃ s' w', ({} : Store).insertUser (some (Text.ofString id)) (some name) (.value isStaff) s w =
        ((((rows.insertUser ⟨some id, some username, isStaff⟩ now).map (·.1.toUser)).mapError
          fun v => (userFailure (some name) (.rejected (.violated v)) : Failure), s'), w') ∧
      w'.clock = w.clock ∧ w'.spelling = w.spelling ∧ w'.randomness = w.randomness ∧
      ∀ row rows', rows.insertUser ⟨some id, some username, isStaff⟩ now = .ok (row, rows') →
        s'.stage = .writing rows' := by
  have hstored : stored? (some name) = some username := hname
  have hi : Presentable (userInsertion (some (Text.ofString id)) (some name) (.value isStaff) w.stamp?)
      (·.insertUser ⟨some id, some username, isStaff⟩ now) := by
    refine ⟨rfl, ?_, ?_⟩
    · simp only [userInsertion, List.findSome?, (plain_ofString id).no_obstacle,
        textObstacle?_of_stored hstored]
    · rw [hclock]
      simp only [userInsertion, stored?_ofString, hstored]
      rfl
  obtain ⟨s', w', hinsert, hsame⟩ := insert_apply hi hsees
  refine ⟨s', w', ?_, hsame⟩
  unfold insertUser
  rw [Block.bind_apply, hinsert]
  cases rows.insertUser ⟨some id, some username, isStaff⟩ now with
  | ok result => rfl
  | error v => rfl

/-- In a working store a token that never expires is inserted for a user who is among the rows that the
session meets, or refused for one that is there. -/
lemma insertToken_apply {userId : String} (hclock : w.stamp? = some now)
    (hsees : s.Sees w.database rows) (howner : rows.users.any (·.id = userId))
    (id secret label : String) :
    ∃ s' w', ({} : Store).insertToken (some (Text.ofString id)) (some (Text.ofString userId))
        (some (Text.ofString secret)) (.text (Text.ofString label)) none s w =
          ((if rows.tokens.any (·.secret = secret) || rows.tokens.any (·.id = id) then
              .error (Cause.store .tokenNotInserted)
            else .ok (TokenRow.toToken ⟨id, userId, secret, label, none, now⟩), s'), w') ∧
      (¬(rows.tokens.any (·.secret = secret) || rows.tokens.any (·.id = id)) → s'.stage ≠ .dead) := by
  have hi : Presentable (tokenInsertion (some (Text.ofString id)) (some (Text.ofString userId))
      (some (Text.ofString secret)) (.text (Text.ofString label)) none w.stamp?)
      (·.insertToken ⟨some id, some userId, some secret, some label, none⟩ now) := by
    refine ⟨rfl, ?_, ?_⟩
    · simp only [tokenInsertion, List.findSome?, Label.obstacle?, (plain_ofString _).no_obstacle]
      rfl
    · rw [hclock]
      simp only [tokenInsertion, stored?_ofString, Label.text?]
      rfl
  obtain ⟨s', w', hinsert, -, -, -, hstage⟩ := insert_apply hi hsees
  rw [Tables.insertToken_eq howner] at hinsert hstage
  unfold insertToken
  rw [Block.bind_apply]
  change ∃ s' w', (({} : Store).insert (tokenInsertion _ _ _ _ none) >>= _) s w = _ ∧ _
  rw [Block.bind_apply, hinsert]
  by_cases hsecret : rows.tokens.any (·.secret = secret)
  · rw [if_pos hsecret, hsecret, Bool.true_or]
    exact ⟨s', w', rfl, fun h => absurd rfl h⟩
  by_cases hid : rows.tokens.any (·.id = id)
  · rw [if_neg hsecret, if_pos hid, hid, Bool.or_true]
    exact ⟨s', w', rfl, fun h => absurd rfl h⟩
  · rw [if_neg hsecret, if_neg hid] at hstage ⊢
    rw [if_neg (by rw [Bool.or_eq_true, not_or]; exact ⟨hsecret, hid⟩)]
    refine ⟨s', w', rfl, fun _ => ?_⟩
    rw [hstage _ _ rfl]
    exact Stage.noConfusion

end Store

/-- What follows in a transaction once the user is inserted. -/
lemma makeCredentials_of_user {store : Store} {userId : String} {name : Text} {isStaff : Flag}
    {user : User} {s₁ : Session} {w₁ : World} (tokenName : Label) (expiresAt : Option DateTime)
    (h : store.insertUser (some (Text.ofString userId)) (some name) isStaff s w =
      ((.ok user, s₁), w₁)) :
    makeCredentials store userId name isStaff tokenName expiresAt s w =
      match newIdentifier w₁ with
      | (.error f, w₂) => ((.error f, s₁), w₂)
      | (.ok tokenId, w₂) =>
        match newSecret secretSize w₂ with
        | (.error f, w₃) => ((.error f, s₁), w₃)
        | (.ok secret, w₃) =>
          match store.insertToken (some (Text.ofString tokenId)) (some (Text.ofString user.userId))
            (some (Text.ofString secret)) tokenName expiresAt s₁ w₃ with
          | ((.error f, s₂), w₄) => ((.error f, s₂), w₄)
          | ((.ok token, s₂), w₄) => ((.ok ⟨user, token⟩, s₂), w₄) := by
  unfold makeCredentials
  rw [Block.bind_apply, h]
  dsimp only
  rw [Block.bind_apply]
  unfold Block.outside
  rcases newIdentifier w₁ with ⟨f | tokenId, w₂⟩
  · rfl
  dsimp only
  rw [Block.bind_apply]
  rcases newSecret secretSize w₂ with ⟨f | secret, w₃⟩
  · rfl
  dsimp only
  rw [Block.bind_apply]
  rcases store.insertToken _ _ _ _ _ s₁ w₃ with ⟨⟨f | token, s₂⟩, w₄⟩
  · rfl
  · rfl

/-- In a working store a user is made with its token as the draws and the rows allow. -/
lemma makeCredentials_apply {username : String} {name : Text} (hname : name.toString? = some username)
    (hclock : w.stamp? = some now) (hsees : Session.Sees {} w.database rows)
    (label userId : String) (isStaff : Bool) :
    ∃ s w', match newRows rows now label userId username isStaff (newIdentifier w).1
        (newSecret secretSize (newIdentifier w).2).1 with
      | .ok (u, k) => s.stage ≠ .dead ∧
        makeCredentials {} userId name (.value isStaff) (.text (Text.ofString label)) none {} w =
          ((.ok ⟨u.toUser, k.toToken⟩, s), w')
      | .error status => ∃ f, (Service.refused f).status = status ∧
        makeCredentials {} userId name (.value isStaff) (.text (Text.ofString label)) none {} w =
          ((.error f, s), w') := by
  obtain ⟨s₁, w₁, huser, hclock₁, hspelling₁, hrandom₁, hstage₁⟩ :=
    Store.insertUser_apply hname hclock hsees userId isStaff
  rw [Tables.insertUser_eq] at huser hstage₁
  unfold newRows
  by_cases hnamed : rows.users.any (·.username = username)
  · rw [if_pos hnamed] at huser ⊢
    exact ⟨s₁, w₁, _, rfl, Store.makeCredentials_of_error huser⟩
  by_cases hknown : rows.users.any (·.id = userId)
  · rw [if_neg hnamed, if_pos hknown] at huser ⊢
    exact ⟨s₁, w₁, _, rfl, Store.makeCredentials_of_error huser⟩
  rw [if_neg hnamed, if_neg hknown] at huser hstage₁ ⊢
  have hwriting := hstage₁ _ _ rfl
  have hmade := makeCredentials_of_user (.text (Text.ofString label)) none huser
  obtain ⟨hid, hrandom₂⟩ := newIdentifier_congr hclock₁ hrandom₁
  have hg₂ := newIdentifier_quiet w₁
  rcases hx : newIdentifier w₁ with ⟨tokenId, w₂⟩
  rw [hx] at hmade hid hrandom₂ hg₂
  dsimp only at hid hrandom₂ hg₂
  rw [← hid]
  cases tokenId with
  | error f => exact ⟨_, _, f, status_of_newIdentifier (by rw [hx]), hmade⟩
  | ok tokenId =>
    have hspelling₂ : w₂.spelling = (newIdentifier w).2.spelling :=
      ((congrArg Ground.spelling hg₂).trans hspelling₁).trans
        (congrArg Ground.spelling (newIdentifier_quiet w)).symm
    dsimp only at hmade
    have hdrawn := newSecret_congr hspelling₂ hrandom₂ secretSize
    rcases hy : newSecret secretSize w₂ with ⟨secret, w₃⟩
    have hg₃ := (newSecret_cases hy).1.trans hg₂
    rw [hy] at hmade hdrawn
    dsimp only at hdrawn
    rw [← hdrawn]
    cases secret with
    | error f => exact ⟨_, _, f, status_of_newSecret (by rw [hy]), hmade⟩
    | ok secret =>
      have hclock₃ : w₃.stamp? = some now := by
        rw [World.stamp_of_ground hg₃, World.stamp?, hclock₁]
        exact hclock
      have hsees₃ : s₁.Sees w₃.database
          ((Change.addUser ⟨userId, username, isStaff, now⟩).apply rows) := by
        unfold Session.Sees
        rw [hwriting]
      have howner : ((Change.addUser ⟨userId, username, isStaff, now⟩).apply rows).users.any
          (·.id = userId) := by
        simp [Change.apply]
      obtain ⟨s₂, w₄, htoken, halive⟩ :=
        Store.insertToken_apply hclock₃ hsees₃ howner tokenId secret label
      change Store.insertToken _ _ _ _ _ _ _ _ =
        ((if rows.tokens.any (·.secret = secret) || rows.tokens.any (·.id = tokenId) then _ else _, _),
          _) at htoken
      dsimp only at hmade ⊢
      rw [show (UserRow.toUser ⟨userId, username, isStaff, now⟩).userId = userId from rfl, htoken]
        at hmade
      by_cases htaken : rows.tokens.any (·.secret = secret) || rows.tokens.any (·.id = tokenId)
      · rw [if_pos htaken] at hmade ⊢
        exact ⟨_, _, _, rfl, hmade⟩
      · rw [if_neg htaken] at hmade ⊢
        exact ⟨s₂, w₄, halive htaken, hmade⟩

/-- In a working store a transaction that went well is committed, if its session is alive. -/
lemma Store.finish_ok {α : Type} (a : α) (h : s.stage ≠ .dead) (w : World) :
    ∃ w', ({} : Store).finish (.ok a : Except Failure α) s w = (.ok a, w') := by
  unfold finish
  dsimp only
  cases hstage : s.stage with
  | dead => exact absurd hstage h
  | fresh =>
    simp only [Session.commit?, hstage]
    exact ⟨_, rfl⟩
  | writing rows =>
    simp only [Session.commit?, hstage]
    exact ⟨_, rfl⟩

/-- The rows that are added for a new user with a name, or the status that tells why there are none. -/
def World.creation (w : World) (rows : Tables) (now : Stamp) (label username : String)
    (isStaff : Bool) : Except Nat (UserRow × TokenRow) :=
  match w.drawn.userId with
  | .error _ => .error 500
  | .ok userId => newRows rows now label userId username isStaff w.drawn.tokenId w.drawn.secret

lemma World.creation_ok {label username : String} {isStaff : Bool} {u : UserRow} {k : TokenRow}
    (h : w.creation rows now label username isStaff = .ok (u, k)) :
    ∃ userId tokenId secret, u = ⟨userId, username, isStaff, now⟩ ∧
      k = ⟨tokenId, userId, secret, label, none, now⟩ := by
  unfold creation newRows at h
  cases huser : w.drawn.userId with
  | error f =>
    rw [huser] at h
    cases h
  | ok userId =>
    rw [huser] at h
    dsimp only at h
    split at h
    · cases h
    split at h
    · cases h
    split at h
    · split at h
      · cases h
      · cases h
        exact ⟨_, _, _, rfl, rfl⟩
    · cases h

/-- What is drawn depends on the clock and the randomness alone, and on how secrets are spelt. -/
lemma World.drawn_congr (hclock : v.clock = w.clock) (hspelling : v.spelling = w.spelling)
    (hr : v.randomness = w.randomness) : v.drawn = w.drawn := by
  obtain ⟨huser, hr₁⟩ := newIdentifier_congr hclock hr
  have hquiet := fun w : World => newIdentifier_quiet w
  have hclock₁ : (newIdentifier v).2.clock = (newIdentifier w).2.clock := by
    rw [clock_of_ground (hquiet v), clock_of_ground (hquiet w), hclock]
  obtain ⟨htoken, hr₂⟩ := newIdentifier_congr hclock₁ hr₁
  have hspelling₂ : (newIdentifier (newIdentifier v).2).2.spelling =
      (newIdentifier (newIdentifier w).2).2.spelling := by
    have hsame (w : World) : (newIdentifier w).2.spelling = w.spelling :=
      congrArg Ground.spelling (hquiet w)
    rw [hsame, hsame, hsame, hsame, hspelling]
  unfold drawn
  rw [huser, htoken, newSecret_congr hspelling₂ hr₂]

/-- In a working store that is not shut, a user is created as the draws and the rows allow. -/
lemma createUser_apply {username : String} {name : Text}
    (hchecked : checkedUsername (some name) = .ok name) (hname : name.toString? = some username)
    (hclock : w.stamp? = some now) (hrows : w.database.rows? = some rows)
    (hopen : w.database.isShut = false) (label : String) (isStaff : Bool) :
    let made := (createUser {} (some name) (.value isStaff) (.text (Text.ofString label)) none w).1
    match w.creation rows now label username isStaff with
    | .ok (u, k) => made = .ok ⟨u.toUser, k.toToken⟩
    | .error status => ∃ f, made = .error f ∧ (Service.refused f).status = status := by
  unfold createUser World.creation World.drawn
  dsimp only
  rw [hchecked]
  dsimp only
  rw [Action.bind_apply]
  rcases hid : newIdentifier w with ⟨userId, w₁⟩
  have hg := newIdentifier_quiet.ground_eq hid
  have hsees : Session.Sees {} w₁.database rows := by
    rw [World.database_of_ground hg]
    exact ⟨hrows, hopen⟩
  cases userId with
  | error f => exact ⟨f, rfl, status_of_newIdentifier (by rw [hid])⟩
  | ok userId =>
    dsimp only
    obtain ⟨s, w₂, hmade⟩ := makeCredentials_apply hname ((World.stamp_of_ground hg).trans hclock)
      hsees label userId isStaff
    rw [Action.bind_apply]
    unfold Store.transaction
    generalize newRows rows now label userId username isStaff _ _ = outcome at hmade ⊢
    cases outcome with
    | ok made =>
      obtain ⟨halive, hmade⟩ := hmade
      obtain ⟨w₃, hfinish⟩ := Store.finish_ok
        (Credentials.mk made.1.toUser made.2.toToken) halive w₂
      rw [hmade]
      simp only [hfinish]
      rfl
    | error status =>
      obtain ⟨f, hstatus, hmade⟩ := hmade
      obtain ⟨f', w₃, hfinish, hcause⟩ : ∃ f' w₃, ({} : Store).finish
          (.error f : Except Failure Credentials) s w₂ = (.error f', w₃) ∧ f'.cause = f.cause :=
        Store.finish_error s w₂
      rw [hmade]
      simp only [hfinish]
      exact ⟨f', rfl, (Service.refused_congr hcause).trans hstatus⟩

/-! ### The request -/

/-- Whether an object asks for a user who is staff, if it says so properly. -/
def staffWish? (fields : List (Text × Json)) : Option Bool :=
  match Json.field? fields "is_staff" with
  | none => some false
  | some (.bool b) => some b
  | some _ => none

/-- The username that an object asks for, if a user may have it. -/
def usernameWish? (fields : List (Text × Json)) : Option Text :=
  match Json.field? fields "username" with
  | some (.string name) => if name.isBlank || decide (100 < name.length) then none else some name
  | _ => none

/-- The name that a request asks for a new user, and whether it is to be staff; or the status that tells
what is wrong with the body. -/
def Request.wish (r : Request) : Except Nat (Text × Bool) :=
  if !r.bearsJson then .error 400
  else match Json.ofBytes Service.depthLimit r.body with
    | .error .tooDeep => .error 500
    | .error .malformed => .error 400
    | .ok (.object fields) =>
      match staffWish? fields, usernameWish? fields with
      | some isStaff, some name => .ok (name, isStaff)
      | _, _ => .error 400
    | .ok _ => .error 400

lemma Request.wish_error {status : Nat} (h : r.wish = .error status) :
    status = 400 ∨ status = 500 := by
  unfold wish at h
  split at h
  · cases h
    exact .inl rfl
  cases hbody : Json.ofBytes Service.depthLimit r.body with
  | error problem =>
    rw [hbody] at h
    cases problem with
    | tooDeep =>
      cases h
      exact .inr rfl
    | malformed =>
      cases h
      exact .inl rfl
  | ok document =>
    rw [hbody] at h
    cases document with
    | object fields =>
      dsimp only at h
      split at h
      · cases h
      · cases h
        exact .inl rfl
    | _ =>
      cases h
      exact .inl rfl

/-- The rows that a request for a new user adds, or the status that tells why it adds none. -/
def Request.creation (r : Request) (w : World) (rows : Tables) (now : Stamp) (label : String) :
    Except Nat (UserRow × TokenRow) :=
  match r.wish with
  | .error status => .error status
  | .ok (name, isStaff) => w.creation rows now label (String.ofList name.legible) isStaff

namespace Service

/-- The whole of creating a user for staff. -/
lemma createUser_apply {caller : Identity} (hstaff : caller.isStaff = true) (store : Store)
    (tokenName : Label) (r : Request) (w : World) : createUser store tokenName caller r w =
      match payload r with
      | .error problem => (.error problem, w)
      | .ok fields =>
        match requestedStaff fields with
        | .error problem => (.error problem, w)
        | .ok isStaff =>
          match BearerAccess.createUser store (some (requestedUsername fields)) (.value isStaff)
            tokenName none w with
          | (.ok credentials, w') => (.ok (.document 201 credentials.toDatum.shown), w')
          | (.error failure, w') => (.error (refused failure), w') := by
  unfold createUser
  rw [Handler.bind_apply]
  cases payload r with
  | error problem => rfl
  | ok fields =>
    change ((liftM (requestedStaff fields) : Handler Bool) >>= _) w = _
    rw [Handler.bind_apply]
    dsimp only
    cases requestedStaff fields with
    | error problem => rfl
    | ok isStaff =>
      change (Handler.perform (outcome _) >>= _) w = _
      rw [issueUser_of_staff hstaff, Handler.perform_outcome_bind]
      dsimp only
      rcases BearerAccess.createUser store _ _ tokenName none w with ⟨failure | credentials, w'⟩
      · obtain ⟨cause, noted⟩ := failure
        cases cause <;> rfl
      · rfl

/-- Nobody is created with a username that a user may not have. -/
lemma createUser_of_unfit {username : Option Text} {problem : UsernameProblem}
    (h : checkedUsername username = .error problem) (store : Store) (isStaff : Flag)
    (tokenName : Label) (w : World) : BearerAccess.createUser store username isStaff tokenName none w =
      (.error (Cause.username problem), w) := by
  unfold BearerAccess.createUser
  rw [h]
  rfl

lemma requestedStaff_eq (fields : List (Text × Json)) : requestedStaff fields =
    (staffWish? fields).elim (.error (.badRequest "is_staff must be a boolean")) .ok := by
  unfold requestedStaff staffWish?
  cases Json.field? fields "is_staff" with
  | none => rfl
  | some value => cases value <;> rfl

lemma checkedUsername_requested (fields : List (Text × Json)) :
    match usernameWish? fields with
    | some name => requestedUsername fields = name ∧ checkedUsername (some name) = .ok name
    | none => ∃ problem, checkedUsername (some (requestedUsername fields)) = .error problem := by
  unfold usernameWish? requestedUsername
  cases Json.field? fields "username" with
  | none => exact ⟨_, rfl⟩
  | some value =>
    cases value with
    | string name =>
      dsimp only
      have hchecked : checkedUsername (some name) = if name.isBlank then .error .missing
          else if usernameLimit < name.length then .error .tooLong else .ok name := rfl
      by_cases hblank : name.isBlank
      · rw [hblank, Bool.true_or]
        exact ⟨_, hchecked.trans (if_pos hblank)⟩
      rw [if_neg hblank] at hchecked
      rw [Bool.eq_false_iff.mpr hblank, Bool.false_or]
      by_cases hlong : 100 < name.length
      · rw [if_pos (decide_eq_true hlong)]
        exact ⟨_, hchecked.trans (if_pos hlong)⟩
      · rw [if_neg (by rw [decide_eq_true_eq]; exact hlong)]
        exact ⟨rfl, hchecked.trans (if_neg hlong)⟩
    | _ => exact ⟨_, rfl⟩

/-- A request for a new user is refused for its body, or has a user created as it asks. -/
lemma createUser_of_wish {caller : Identity} (hstaff : caller.isStaff = true) (store : Store)
    (tokenName : Label) (r : Request) (w : World) :
    match r.wish with
    | .error status => (settled (createUser store tokenName caller r w).1).status = status
    | .ok (name, isStaff) => checkedUsername (some name) = .ok name ∧
      createUser store tokenName caller r w =
        match BearerAccess.createUser store (some name) (.value isStaff) tokenName none w with
        | (.ok credentials, w') => (.ok (.document 201 credentials.toDatum.shown), w')
        | (.error failure, w') => (.error (refused failure), w') := by
  rw [createUser_apply hstaff]
  unfold Request.wish payload
  dsimp only
  by_cases hjson : !r.bearsJson
  · rw [if_pos hjson, if_pos hjson]
    rfl
  rw [if_neg hjson, if_neg hjson]
  cases Json.ofBytes depthLimit r.body with
  | error problem => cases problem <;> rfl
  | ok document =>
    cases document with
    | object fields =>
      dsimp only
      rw [requestedStaff_eq]
      have hname := checkedUsername_requested fields
      cases staffWish? fields with
      | none => rfl
      | some isStaff =>
        dsimp only [Option.elim]
        cases hwish : usernameWish? fields with
        | none =>
          rw [hwish] at hname
          obtain ⟨problem, hproblem⟩ := hname
          rw [createUser_of_unfit hproblem]
          rfl
        | some name =>
          rw [hwish] at hname
          obtain ⟨hrequested, hchecked⟩ := hname
          rw [hrequested]
          exact ⟨hchecked, rfl⟩
    | _ => rfl

/-- Where rows can be added, a user is created for staff just as the request, the draws and the rows
allow; what is then committed is the user with its token. -/
lemma createUser_settled {caller : Identity} (hstaff : caller.isStaff = true)
    (hclock : w.stamp? = some now) (hrows : w.database.rows? = some rows)
    (hopen : w.database.isShut = false)
    (hplain : ∀ name isStaff, r.wish = .ok (name, isStaff) → ∀ p ∈ name, p.isSurrogate = false)
    (label : String) :
    let x := createUser {} (.text (Text.ofString label)) caller r w
    match r.creation w rows now label with
    | .error status => (settled x.1).status = status
    | .ok (u, k) => x.1 = .ok (.document 201 (Credentials.mk u.toUser k.toToken).toDatum.shown) ∧
      r.wish = .ok (Text.ofString u.username, u.isStaff) ∧
      (k.userId = u.id ∧ k.name = label ∧ k.expiresAt = none) ∧
      w.Commits [.addUser u, .addToken k] x.2 := by
  have hwish := createUser_of_wish hstaff {} (.text (Text.ofString label)) r w
  unfold Request.creation
  cases hwished : r.wish with
  | error status =>
    rw [hwished] at hwish
    exact hwish
  | ok wished =>
    obtain ⟨name, isStaff⟩ := wished
    rw [hwished] at hwish
    obtain ⟨hchecked, hcreated⟩ := hwish
    obtain ⟨username, husername⟩ := Option.isSome_iff_exists.mp
      (Text.toString?_isSome (hplain name isStaff hwished))
    have hmade := BearerAccess.createUser_apply hchecked husername hclock hrows hopen label isStaff
    obtain rfl := Text.ofString_toString? husername
    have hletters : String.ofList (Text.ofString username).legible = username := by
      rw [Text.ofString, legible_letters, String.ofList_toList]
    dsimp only
    rw [hletters]
    rcases hx : BearerAccess.createUser {} (some (Text.ofString username)) (.value isStaff)
      (.text (Text.ofString label)) none w with ⟨made, w'⟩
    have hcommits := (createUser_commits hx).1
    rw [hx] at hmade hcreated
    rw [hcreated]
    cases hcreation : w.creation rows now label username isStaff with
    | error status =>
      rw [hcreation] at hmade
      obtain ⟨f, rfl, hstatus⟩ := hmade
      exact hstatus
    | ok added =>
      obtain ⟨u, k⟩ := added
      rw [hcreation] at hmade
      obtain rfl : made = .ok ⟨u.toUser, k.toToken⟩ := hmade
      obtain ⟨userId, tokenId, secret, rfl, rfl⟩ := World.creation_ok hcreation
      rw [hclock] at hcommits
      exact ⟨rfl, rfl, ⟨rfl, rfl, rfl⟩, hcommits⟩

/-- What keeps a user from being created has the status of an error. -/
lemma creation_error {label : String} {status : Nat}
    (h : r.creation w rows now label = .error status) : 400 ≤ status := by
  unfold Request.creation at h
  cases hwish : r.wish with
  | error refused =>
    rw [hwish] at h
    cases h
    obtain rfl | rfl := Request.wish_error hwish <;> decide
  | ok wished =>
    rw [hwish] at h
    unfold World.creation at h
    dsimp only at h
    split at h
    · cases h
      decide
    · obtain rfl | rfl := newRows_error h <;> decide

/-- A secret that has been added for a user belongs to that user. -/
lemma userByToken_added {u : UserRow} {k : TokenRow} (hconsistent : w.stored.Consistent)
    (hrows : w.database.rows? = some rows) (hclock : w.stamp? = some now)
    (hc : w.Commits [.addUser u, .addToken k] w') (howner : k.userId = u.id)
    (hexpiry : k.expiresAt = none) :
    w'.database.rows? = some ⟨rows.users ++ [u], rows.tokens ++ [k]⟩ ∧
      (({} : Store).userByToken (some (Text.ofString k.secret)) none w').1 =
        .ok (some u.toIdentity) := by
  have hstored : w'.stored = ⟨rows.users ++ [u], rows.tokens ++ [k]⟩ := by
    rw [hc.stored, World.stored_of_rows hrows]
    rfl
  have hreachable : w'.database.reachable = true :=
    hc.reachable.trans (Database.reachable_of_rows hrows)
  have hrows' : w'.database.rows? = some ⟨rows.users ++ [u], rows.tokens ++ [k]⟩ := by
    unfold Database.rows?
    rw [if_pos hreachable]
    cases htables : w'.database.tables with
    | none =>
      rw [World.stored, htables] at hstored
      exact absurd (congrArg Tables.users hstored).symm (by simp)
    | some tables =>
      rw [World.stored, htables] at hstored
      exact congrArg some hstored
  refine ⟨hrows', ?_⟩
  have hsecret : (Text.ofString k.secret).toString? = some k.secret := Text.toString?_ofString _
  obtain ⟨w₁, hlookup, -⟩ := Store.userByToken_apply (hc.stamp.trans hclock) hrows'
    (Option.isSome_iff_exists.mpr ⟨_, hsecret⟩)
  have howned : Tables.ownerOfSecret? ⟨rows.users ++ [u], rows.tokens ++ [k]⟩ (some k.secret) now =
      some u := by
    rw [← hstored, Tables.ownerOfSecret?_iff (hc.stored ▸ hconsistent.after hc.admits), hstored]
    exact ⟨k, by simp, rfl, by rw [hexpiry]; rfl, by simp, howner.symm⟩
  rw [hlookup, hsecret, howned]
  rfl

/-- A request of staff for a new user is answered, and leaves the world, as the creation does on behalf
of whom the secret belongs to. -/
lemma answer_of_staff (hw : w.Working) (hr : r.Guarded .createUser .staffOnly) {secret : Text}
    {u : UserRow} (hoffers : r.Offers secret) (hspeaks : w.Speaks secret u) (hstaff : u.isStaff = true)
    (tokenName : Label) : ∃ w₁, w₁.ground = w.ground ∧ w₁.randomness = w.randomness ∧
      let x := createUser {} tokenName u.toIdentity (asked r) w₁
      (answer {} tokenName r w).1 = settled x.1 ∧
        (answer {} tokenName r w).2.ground = x.2.ground := by
  obtain ⟨rows, now, hrows, hnow, howner⟩ := hw.owner
  have hbegun : (begun (asked r) w).ground = w.ground := World.ground_write _ _ _ _
  have hclock : (begun (asked r) w).stamp? = some now := (World.stamp_of_ground hbegun).trans hnow
  have hmet : (begun (asked r) w).database.rows? = some rows := by rw [database_begun, hrows]
  obtain ⟨w₁, hcaller, hg, hrandom⟩ := findCaller_apply (r := asked r) hclock hmet hr.plain
  have hresponse := respond_guarded (r := asked r) (w := begun (asked r) w) hr.route hr.named
    hr.noSocket hclock hmet hr.plain tokenName
  have hadmitted : admission (fun secret => rows.ownerOfSecret? secret.toString? now) .staffOnly
      (asked r).authorization = .ok u.toIdentity := by
    obtain ⟨header, hheader, hpresents⟩ := hoffers
    have hu : rows.ownerOfSecret? secret.toString? now = some u := (howner secret u).mpr hspeaks
    unfold admission
    rw [show (asked r).authorization = some header from hheader]
    simp only [bearerSecret_iff.mpr hpresents, hu, hstaff]
    rfl
  rw [hadmitted] at hresponse
  obtain ⟨-, w₂, hcaller₂, hresponse⟩ := hresponse
  obtain rfl : w₂ = w₁ := (Prod.mk.inj (hcaller₂.symm.trans hcaller)).2
  refine ⟨w₂, hg.trans hbegun, hrandom.trans (World.randomness_write _ _ _ _), ?_⟩
  have hhead : r.method ≠ "HEAD" := by
    intro hmethod
    exact hr.route.not_head (by rw [hmethod]; decide)
  refine ⟨by rw [answer_of_not_head hhead, hresponse]; rfl, ?_⟩
  rw [answer_apply]
  dsimp only
  rw [World.ground_write, hresponse]
  change (reported (asked r) (createUser {} tokenName u.toIdentity (asked r) w₂).1 _).ground = _
  cases (createUser {} tokenName u.toIdentity (asked r) w₂).1 with
  | ok response => rfl
  | error problem => exact Service.ground_report _ _ _

/-- A request of staff for a new user, answered. What is wrong with its body counts before all else: a
body that is no JSON object, or is nested too deep to be read; then who is staff, then the username.
After that comes the draw of an id for the user, a username that is taken, and last what else is drawn
for the token. Only a user who is answered with is added, together with its token, and at once the
secret speaks for the user. -/
theorem answer_createUser (hw : w.Working) (hopen : w.database.isShut = false)
    (hr : r.Guarded .createUser .staffOnly) {secret : Text} {caller : UserRow}
    (hoffers : r.Offers secret) (hspeaks : w.Speaks secret caller) (hstaff : caller.isStaff = true)
    (hplain : ∀ name isStaff, r.wish = .ok (name, isStaff) → ∀ p ∈ name, p.isSurrogate = false)
    (label : String) :
    ∃ rows now, w.database.rows? = some rows ∧ w.stamp? = some now ∧
      let response := (answer {} (.text (Text.ofString label)) r w).1
      let w' := (answer {} (.text (Text.ofString label)) r w).2
      match r.creation w rows now label with
      | .error status => response.status = status ∧ w'.database = w.database
      | .ok (user, token) =>
        response = .document 201 (Credentials.mk user.toUser token.toToken).toDatum.shown ∧
        r.wish = .ok (Text.ofString user.username, user.isStaff) ∧
        (token.userId = user.id ∧ token.name = label ∧ token.expiresAt = none) ∧
        w'.database.rows? = some ⟨rows.users ++ [user], rows.tokens ++ [token]⟩ ∧
        (({} : Store).userByToken (some (Text.ofString token.secret)) none w').1 =
          .ok (some user.toIdentity) := by
  obtain ⟨rows, now, hrows, hnow, -⟩ := hw.owner
  refine ⟨rows, now, hrows, hnow, ?_⟩
  obtain ⟨w₁, hg, hrandom, hresponse, hleft⟩ :=
    answer_of_staff hw hr hoffers hspeaks hstaff (.text (Text.ofString label))
  have hclock₁ : w₁.stamp? = some now := (World.stamp_of_ground hg).trans hnow
  have hrows₁ : w₁.database.rows? = some rows := by rw [World.database_of_ground hg, hrows]
  have hopen₁ : w₁.database.isShut = false := by rw [World.database_of_ground hg, hopen]
  have hcaller : caller.toIdentity.isStaff = true := hstaff
  have hsettled := createUser_settled (r := asked r) hcaller hclock₁ hrows₁ hopen₁ hplain label
  have hcreation : (asked r).creation w₁ rows now label = r.creation w rows now label := by
    have hdrawn : w₁.drawn = w.drawn := World.drawn_congr (World.clock_of_ground hg)
      (congrArg Ground.spelling hg) hrandom
    unfold Request.creation World.creation
    rw [hdrawn]
    rfl
  rw [hcreation] at hsettled
  rcases hanswer : answer {} (.text (Text.ofString label)) r w with ⟨response, w'⟩
  rw [hanswer] at hresponse hleft
  dsimp only at hresponse hleft hsettled ⊢
  cases hresult : r.creation w rows now label with
  | error status =>
    rw [hresult] at hsettled
    have hstatus : response.status = status := by rw [hresponse, hsettled]
    have hground := answer_told hanswer (hstatus ▸ creation_error hresult)
    exact ⟨hstatus, World.database_of_ground hground⟩
  | ok added =>
    obtain ⟨u, k⟩ := added
    rw [hresult] at hsettled
    obtain ⟨hshown, hwish, hrow, hcommits⟩ := hsettled
    obtain ⟨events, w₀, hempty, -, hreached⟩ := hw.reached
    have hconsistent : w.stored.Consistent := hreached ▸ Event.run_consistent hempty
    have hadded : w.Commits [.addUser u, .addToken k] w' :=
      (hcommits.after_ground hg).before_ground hleft
    refine ⟨by rw [hresponse, hshown]; rfl, hwish, hrow, ?_⟩
    exact userByToken_added hconsistent hrows hnow hadded hrow.1 hrow.2.2

/-- The user b requests a new user, with a body that says that it is JSON. -/
def newcomer (body : List UInt8) : Request :=
  { method := "POST", path := "/users", authorization := some (Text.ofString "Bearer d"),
    contentType := some "application/json", body }

lemma newcomer_guarded (body : List UInt8) : (newcomer body).Guarded .createUser .staffOnly := by
  refine ⟨?_, rfl, rfl, ?_⟩
  · have hmethod : upperCase "POST" = "POST" := by decide +kernel
    rw [show upperCase (newcomer body).method = "POST" from hmethod]
    exact .createUser
  · rintro _ ⟨⟩ p hp
    exact Text.isSurrogate_of_mem_ofString hp

lemma newcomer_offers (body : List UInt8) : (newcomer body).Offers "d" :=
  ⟨_, rfl, bearerSecret_iff.mp (by decide +kernel)⟩

lemma newcomer_bearsJson (body : List UInt8) : (newcomer body).bearsJson = true := by
  have hempty : (newcomer []).bearsJson = true := by decide +kernel
  exact hempty

/-- A user called e is requested. -/
def namedE : List UInt8 := Tables.utf8Bytes "\x7b\"username\":\"e\"\x7d"

theorem answer_createUser_named :
    ((Event.run Event.moving {}).2.Working ∧ (Event.run Event.moving {}).2.database.isShut = false ∧
      (newcomer namedE).Guarded .createUser .staffOnly ∧ (newcomer namedE).Offers "d" ∧
      (∃ u, (Event.run Event.moving {}).2.Speaks "d" u ∧ u.isStaff = true) ∧
      (newcomer namedE).wish = .ok (Text.ofString "e", false)) ∧
    (answer {} (.text (Text.ofString "f")) (newcomer namedE) (Event.run Event.moving {}).2).1.status =
      201 := by
  have hopen : (Event.run Event.moving {}).2.database.isShut = false := by decide +kernel
  have hwish : (newcomer namedE).wish = .ok (Text.ofString "e", false) := by decide +kernel
  have hplain : ∀ name isStaff, (newcomer namedE).wish = .ok (name, isStaff) →
      ∀ p ∈ name, p.isSurrogate = false := by
    intro name isStaff h p hp
    rw [hwish] at h
    cases h
    exact Text.isSurrogate_of_mem_ofString hp
  obtain ⟨u, hspeaks, hidentity⟩ := moving_speaks
  have hstaff : u.isStaff = true := congrArg Identity.isStaff hidentity
  obtain ⟨rows, now, hrows, hnow, hresult⟩ := answer_createUser moving_working hopen
    (newcomer_guarded namedE) (newcomer_offers namedE) hspeaks hstaff hplain "f"
  refine ⟨⟨moving_working, hopen, newcomer_guarded namedE, newcomer_offers namedE,
    ⟨u, hspeaks, hstaff⟩, hwish⟩, ?_⟩
  have hmade : ((Event.run Event.moving {}).2.database.rows?.bind fun rows =>
      (Event.run Event.moving {}).2.stamp?.map fun now =>
        ((newcomer namedE).creation (Event.run Event.moving {}).2 rows now "f").toBool) =
      some true := by decide +kernel
  rw [hrows, hnow] at hmade
  replace hmade : ((newcomer namedE).creation (Event.run Event.moving {}).2 rows now "f").toBool =
      true := Option.some.inj hmade
  dsimp only at hresult
  generalize (newcomer namedE).creation (Event.run Event.moving {}).2 rows now "f" = made
    at hmade hresult
  cases made with
  | error status => cases hmade
  | ok added => exact congrArg Response.status hresult.1

/-- A request that is too deep to be read ends with an internal error, whatever it asks for. -/
lemma answer_of_deep (hw : w.Working) (hr : r.Guarded .createUser .staffOnly) {secret : Text}
    {caller : UserRow} (hoffers : r.Offers secret) (hspeaks : w.Speaks secret caller)
    (hstaff : caller.isStaff = true) (tokenName : Label) (hjson : r.bearsJson = true)
    (hdeep : Json.ofBytes depthLimit r.body = .error .tooDeep) :
    (answer {} tokenName r w).1.status = 500 := by
  obtain ⟨w₁, -, -, hresponse, -⟩ := answer_of_staff hw hr hoffers hspeaks hstaff tokenName
  have hwish : (asked r).wish = .error 500 := by
    unfold Request.wish
    rw [show (asked r).bearsJson = r.bearsJson from rfl, show (asked r).body = r.body from rfl, hjson,
      hdeep]
    rfl
  have hcaller : caller.toIdentity.isStaff = true := hstaff
  have hrefused := createUser_of_wish hcaller {} tokenName (asked r) w₁
  rw [hwish] at hrefused
  rw [hresponse, hrefused]

/-- A body that is nested too deep is no JSON object, and yet the request is not said to be bad. -/
theorem answer_createUser_nested : ¬∀ (w : World) (r : Request) (secret : Text) (caller : UserRow)
    (label : String), w.Working → w.database.isShut = false → r.Guarded .createUser .staffOnly →
    r.Offers secret → w.Speaks secret caller → caller.isStaff = true →
    (∀ limit fields, Json.ofBytes limit r.body ≠ .ok (.object fields)) →
    (answer {} (.text (Text.ofString label)) r w).1.status = 400 := by
  intro h
  obtain ⟨u, hspeaks, hidentity⟩ := moving_speaks
  have hstaff : u.isStaff = true := congrArg Identity.isStaff hidentity
  have hopen : (Event.run Event.moving {}).2.database.isShut = false := by decide +kernel
  obtain ⟨n, hn⟩ : ∃ n, n = 2500 := ⟨_, rfl⟩
  have hlimit : depthLimit < n := by
    rw [hn]
    decide
  have hsize : 4 ≤ n := by omega
  have hbad := h _ (newcomer (nestedBody n)) "d" u "f" moving_working hopen (newcomer_guarded _)
    (newcomer_offers _) hspeaks hstaff (Json.ofBytes_not_object hsize)
  have hinternal := answer_of_deep moving_working (newcomer_guarded (nestedBody n))
    (newcomer_offers _) hspeaks hstaff (.text (Text.ofString "f"))
    (newcomer_bearsJson _) (Json.ofBytes_nested hsize hlimit)
  rw [hinternal] at hbad
  cases hbad

end Service

end BearerAccess
