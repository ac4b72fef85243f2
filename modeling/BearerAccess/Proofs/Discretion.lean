import BearerAccess.Proofs.Disturbance
import BearerAccess.Proofs.Told
import BearerAccess.Proofs.Twin
import BearerAccess.Proofs.Working

/-!
# Errors are told with discretion

A response with the status of an error gives a reason in JSON and nothing else, and the reason does not
depend on what the failing methods of a session say. Whatever breaks in the store while the caller is
looked up or an endpoint is at work makes an internal error of the request.
-/

namespace BearerAccess

variable {α : Type} {store store' : Store} {tokenName : Label} {r : Request} {w w' : World}

/-! ### Transactions that break -/

namespace Store

/-- What the removal of a user makes of the rows. -/
def removal (id : Option Text) : Work Unit := fun rows =>
  match rows.userById? (stored? id) with
  | some row => .ok ((), some (rows.deleteUser row.id))
  | none => .error .noSuchUser

/-- An insert fails in the store: a method of the session does, the database refuses the row, or the
row would break a rule other than that no username is taken twice. -/
def Refusal.IsFault : Refusal → Prop
  | .unavailable | .rejected .refused => True
  | .rejected (.violated v) => isUsernameViolation none (Text.ofString v.message) = false
  | .rejected _ => False

lemma userFailure_of_isFault {username : Option Text} {refusal : Refusal} (h : refusal.IsFault) :
    userFailure username refusal = .store .userNotInserted := by
  cases refusal with
  | unavailable => rfl
  | rejected e =>
    cases e with
    | refused => rfl
    | violated v => exact if_neg (Bool.not_eq_true _ ▸ h)
    | _ => exact h.elim

lemma tokenFailure_of_isFault {refusal : Refusal} (h : refusal.IsFault) :
    tokenFailure refusal = .store .tokenNotInserted := by
  cases refusal with
  | unavailable => rfl
  | rejected e =>
    cases e with
    | refused => rfl
    | violated v => rfl
    | _ => exact h.elim

/-- The insert of a new user. -/
def newUser (userId : String) (name : Text) (isStaff : Bool) : Option Stamp → Insertion UserRow :=
  userInsertion (some (Text.ofString userId)) (some name) (.value isStaff)

/-- The insert of the token of a new user. -/
def newToken (tokenId userId secret : String) (tokenName : Label) :
    Option Stamp → Insertion TokenRow :=
  tokenInsertion (some (Text.ofString tokenId)) (some (Text.ofString userId))
    (some (Text.ofString secret)) tokenName none

/-- A transaction in which a user is issued with a token breaks in the store: a row cannot be changed or
flushed, an insert fails otherwise, or the commit does. -/
inductive Halts (store : Store) (userId : String) (name : Text) (isStaff : Bool) (tokenName : Label)
    (w : World) : Prop where
  | hindered (hname : textObstacle? (some name) = none)
      (h : ((store.faults w.tasks).add.isSome ∨ (store.faults w.tasks).flush.isSome) ∨
        w.database.rows? = none ∨ w.database.isShut = true)
  | user {refusal : Refusal} {s : Session} {w' : World}
      (h : store.insert (newUser userId name isStaff) {} w = ((.ok (.error refusal), s), w'))
      (hfault : refusal.IsFault)
  | token {row : UserRow} {s₁ s₂ : Session} {w₁ w₂ w₃ w₄ : World} {tokenId secret : String}
      {refusal : Refusal}
      (huser : store.insert (newUser userId name isStaff) {} w = ((.ok (.ok row), s₁), w₁))
      (hid : newIdentifier w₁ = (.ok tokenId, w₂))
      (hsecret : newSecret secretSize w₂ = (.ok secret, w₃))
      (h : store.insert (newToken tokenId row.id secret tokenName) s₁ w₃ =
        ((.ok (.error refusal), s₂), w₄))
      (hfault : refusal.IsFault)
  | commit {credentials : Credentials} {s : Session} {w' : World}
      (h : makeCredentials store userId name (.value isStaff) tokenName none {} w =
        ((.ok credentials, s), w'))
      (hcommit : s.commit? (store.faults w'.tasks) w'.database = none)

/-- Where rows cannot be changed or flushed, a new user is not inserted. -/
lemma insert_of_hindered (userId : String) {name : Text} (isStaff : Bool)
    (hname : textObstacle? (some name) = none)
    (h : ((store.faults w.tasks).add.isSome ∨ (store.faults w.tasks).flush.isSome) ∨
      w.database.rows? = none ∨ w.database.isShut = true) :
    ∃ refusal s w', refusal.IsFault ∧
      store.insert (newUser userId name isStaff) {} w = ((.ok (.error refusal), s), w') := by
  unfold insert
  dsimp only
  split
  · exact ⟨.unavailable, _, _, trivial, rfl⟩
  rename_i hadd
  split
  · exact ⟨.unavailable, _, _, trivial, rfl⟩
  rename_i hflush
  have hrows := h.resolve_left (not_or.mpr ⟨hadd, hflush⟩)
  have hdb : (w.assigned.attach {}).2.database = w.database :=
    World.database_of_ground (World.ground_attach _ _)
  have hrefused (now : Option Stamp) : ((w.assigned.attach {}).1.execute
      (w.assigned.attach {}).2.database (newUser userId name isStaff now)).1 = .error .refused := by
    have hobstacle : (newUser userId name isStaff now).obstacle = none := by
      simp only [newUser, userInsertion, List.findSome?, (plain_ofString userId).no_obstacle, hname]
    rw [Session.execute_eq, verdict_refused hobstacle]
    intro f rows _ hsees
    rw [hdb, Session.sees_congr (World.stage_attach {} w.assigned)] at hsees
    obtain ⟨hmet, hopen⟩ := hsees
    obtain hnone | hshut := hrows
    · exact Option.some_ne_none rows (hmet.symm.trans hnone)
    · exact Bool.false_ne_true (hopen.symm.trans hshut)
  unfold handOver
  dsimp only
  rw [hrefused]
  exact ⟨.rejected .refused, _, _, trivial, rfl⟩

lemma insertUser_of_error {userId : String} {name : Text} {isStaff : Bool} {refusal : Refusal}
    {s : Session} (h : store.insert (newUser userId name isStaff) {} w = ((.ok (.error refusal), s), w'))
    (hfault : refusal.IsFault) :
    store.insertUser (some (Text.ofString userId)) (some name) (.value isStaff) {} w =
      ((.error (Cause.store .userNotInserted), s), w') := by
  unfold insertUser
  rw [Block.bind_apply, show store.insert (userInsertion _ _ _) {} w = _ from h]
  dsimp only
  rw [Block.fail_apply, userFailure_of_isFault hfault]

/-- What is made of a new user in a transaction that breaks in the store before its commit. -/
lemma makeCredentials_of_error {userId : String} {name : Text} {isStaff : Bool} {s : Session}
    {f : Failure} (h : store.insertUser (some (Text.ofString userId)) (some name) (.value isStaff) {} w =
      ((.error f, s), w')) :
    makeCredentials store userId name (.value isStaff) tokenName none {} w = ((.error f, s), w') := by
  unfold makeCredentials
  rw [Block.bind_apply, h]

lemma makeCredentials_of_token_error {userId tokenId secret : String} {name : Text} {isStaff : Bool}
    {row : UserRow} {s₁ s₂ : Session} {w₁ w₂ w₃ w₄ : World} {refusal : Refusal}
    (huser : store.insert (newUser userId name isStaff) {} w = ((.ok (.ok row), s₁), w₁))
    (hid : newIdentifier w₁ = (.ok tokenId, w₂)) (hsecret : newSecret secretSize w₂ = (.ok secret, w₃))
    (h : store.insert (newToken tokenId row.id secret tokenName) s₁ w₃ =
      ((.ok (.error refusal), s₂), w₄)) (hfault : refusal.IsFault) :
    makeCredentials store userId name (.value isStaff) tokenName none {} w =
      ((.error (Cause.store .tokenNotInserted), s₂), w₄) := by
  have hinserted : store.insertUser (some (Text.ofString userId)) (some name) (.value isStaff) {} w =
      ((.ok row.toUser, s₁), w₁) := by
    unfold insertUser
    rw [Block.bind_apply, show store.insert (userInsertion _ _ _) {} w = _ from huser]
    rfl
  have htoken : store.insertToken (some (Text.ofString tokenId))
      (some (Text.ofString row.toUser.userId)) (some (Text.ofString secret)) tokenName none s₁ w₃ =
      ((.error (Cause.store .tokenNotInserted), s₂), w₄) := by
    unfold insertToken
    rw [Block.bind_apply]
    change (store.insert (newToken tokenId row.id secret tokenName) >>= _) s₁ w₃ = _
    rw [Block.bind_apply, h]
    dsimp only
    rw [Block.fail_apply, tokenFailure_of_isFault hfault]
  have houtside {α : Type} {a : Action α} {x : α} {s : Session} {v v' : World}
      (ha : a v = (.ok x, v')) : Block.outside a s v = ((.ok x, s), v') := by
    unfold Block.outside
    rw [ha]
  unfold makeCredentials
  rw [Block.bind_apply, hinserted]
  dsimp only
  rw [Block.bind_apply, houtside hid]
  dsimp only
  rw [Block.bind_apply, houtside hsecret]
  dsimp only
  rw [Block.bind_apply, htoken]

/-- A transaction that breaks in the store fails with a failure of the store. -/
lemma transaction_of_halts {userId : String} {name : Text} {isStaff : Bool}
    (h : Halts store userId name isStaff tokenName w) :
    ∃ f w' failure, store.transaction (makeCredentials store userId name (.value isStaff) tokenName none)
      w = (.error f, w') ∧ f.cause = .store failure := by
  have hfails {failure : StoreFailure} {s : Session} {w' : World}
      (hbody : makeCredentials store userId name (.value isStaff) tokenName none {} w =
        ((.error (Cause.store failure), s), w')) :
      ∃ f w' failure, store.transaction
        (makeCredentials store userId name (.value isStaff) tokenName none) w = (.error f, w') ∧
        f.cause = .store failure := by
    obtain ⟨f, last, hfinish, hcause⟩ : ∃ f last, store.finish
        (.error (Cause.store failure) : Except Failure Credentials) s w' = (.error f, last) ∧
        f.cause = .store failure := finish_error s w'
    refine ⟨f, last, failure, ?_, hcause⟩
    unfold transaction
    rw [hbody]
    exact hfinish
  cases h with
  | hindered hname h =>
    obtain ⟨refusal, s, w', hfault, hinsert⟩ := insert_of_hindered userId isStaff hname h
    exact hfails (makeCredentials_of_error (insertUser_of_error hinsert hfault))
  | user h hfault => exact hfails (makeCredentials_of_error (insertUser_of_error h hfault))
  | token huser hid hsecret h hfault =>
    exact hfails (makeCredentials_of_token_error huser hid hsecret h hfault)
  | @commit credentials s w' h hcommit =>
    unfold transaction
    rw [h]
    unfold finish rollBack
    dsimp only
    rw [show w'.assigned.database = w'.database from rfl, hcommit]
    dsimp only
    cases (store.faults w'.tasks).rollback with
    | none => exact ⟨_, _, .notCommitted, rfl, rfl⟩
    | some message => exact ⟨_, _, .notCommitted, rfl, rfl⟩

end Store

namespace Service

/-! ### Requests that are interrupted -/

/-- A request of a staff user has got as far as its endpoint. -/
structure Reaches (store : Store) (r : Request) (w : World) (e : Endpoint) (identity : Identity)
    (w' : World) : Prop where
  caller : findCaller store r w = (.ok { identity := some identity }, w')
  staff : identity.isStaff = true
  named : r.misnamed = false
  place : Destination.find r.method r.path r.forSocket = .endpoint e

/-- A query, an insert, a removal or a commit breaks in the store while the caller of a request is
looked up or its endpoint is at work. -/
inductive Interrupted (store : Store) (tokenName : Label) (r : Request) (w : World) : Prop where
  | lookup {secret : Text} (hsecret : bearerSecret r.authorization = .ok secret)
      (h : Store.Unreadable (store.faults w.tasks) w.database)
  | listing {identity : Identity} {w' : World} (hr : Reaches store r w .listUsers identity w')
      (h : Store.Unreadable (store.faults w'.tasks) w'.database)
  | removal {id : String} {identity : Identity} {w' : World}
      (hr : Reaches store r w (.deleteUser id) identity w')
      (h : Store.Breaks (store.faults w'.tasks) w'.database (Store.removal (some (Text.ofString id))))
  | issue {identity : Identity} {w₁ w₂ : World} {fields : List (Text × Json)} {isStaff : Bool}
      {name : Text} {userId : String} (hr : Reaches store r w .createUser identity w₁)
      (hfields : payload r = .ok fields) (hstaff : requestedStaff fields = .ok isStaff)
      (hname : checkedUsername (some (requestedUsername fields)) = .ok name)
      (hid : newIdentifier w₁ = (.ok userId, w₂))
      (h : Store.Halts store userId name isStaff tokenName w₂)

/-- Staff are let through to every endpoint. -/
lemma Reaches.guarded {e : Endpoint} {identity : Identity} {guard : Guard}
    (h : Reaches store r w e identity w') (next : Identity → Handler α) :
    (Handler.perform (guard.check { identity := some identity }) >>= next) w' = next identity w' := by
  have hcheck : guard.check { identity := some identity } w' = (.ok identity, w') := by
    have hstaff : ¬(guard = .staffOnly ∧ (!identity.isStaff) = true) := by simp [h.staff]
    unfold Guard.check
    dsimp only
    rw [if_neg hstaff]
    rfl
  rw [Handler.bind_apply, Handler.perform_of_ok hcheck]

lemma Reaches.respond {e : Endpoint} {identity : Identity} (h : Reaches store r w e identity w') :
    respond store tokenName r w = take store tokenName { identity := some identity } r e w' := by
  rw [respond_of_caller h.caller, h.named, h.place]
  rfl

lemma createUser_of_halts {caller : Identity} {fields : List (Text × Json)} {isStaff : Bool}
    {name : Text} {userId : String} (hcaller : caller.isStaff = true)
    (hfields : payload r = .ok fields) (hstaff : requestedStaff fields = .ok isStaff)
    (hname : checkedUsername (some (requestedUsername fields)) = .ok name)
    (hid : newIdentifier w = (.ok userId, w')) (h : Store.Halts store userId name isStaff tokenName w') :
    ∃ failure last, createUser store tokenName caller r w =
      (.error (.failure (.store failure)), last) := by
  obtain ⟨f, last, failure, hfails, hcause⟩ := Store.transaction_of_halts h
  have hissue : issueUser store (some caller) (some (requestedUsername fields)) (.value isStaff)
      tokenName none w = (.error f, last) := by
    rw [issueUser_of_staff hcaller]
    unfold BearerAccess.createUser
    rw [hname]
    change (newIdentifier >>= _) w = _
    rw [Action.bind_apply, hid]
    dsimp only
    rw [Action.bind_apply, hfails]
  have houtcome : Handler.perform (outcome (issueUser store (some caller)
      (some (requestedUsername fields)) (.value isStaff) tokenName none)) w = (.ok (.error f), last) := by
    have hgiven : outcome (issueUser store (some caller) (some (requestedUsername fields))
        (.value isStaff) tokenName none) w = (.ok (.error f), last) := by
      rw [outcome_apply, hissue]
    exact Handler.perform_of_ok hgiven
  refine ⟨failure, last, ?_⟩
  have hlift {α : Type} {x : Except Problem α} {a : α} (h : x = .ok a) (w : World) :
      (liftM x : Handler α) w = (.ok a, w) := by
    rw [h]
    rfl
  unfold createUser
  rw [Handler.bind_apply, hlift hfields]
  dsimp only
  rw [Handler.bind_apply, hlift hstaff]
  dsimp only
  rw [Handler.bind_apply, houtcome]
  dsimp only
  rw [hcause]
  rfl

lemma users_of_unreadable (h : Store.Unreadable (store.faults w.tasks) w.database) :
    ∃ f w', store.users w = (.error f, w') ∧ (Problem.failure f.cause).status = 500 := by
  obtain ⟨cause, w', hbroken, hfails⟩ := Store.operate_of_breaks h.breaks
  exact ⟨_, w', hfails, hbroken.status _⟩

lemma deleteUser_of_breaks {id : Option Text}
    (h : Store.Breaks (store.faults w.tasks) w.database (Store.removal id)) :
    ∃ f w', store.deleteUser id w = (.error f, w') ∧ (Problem.failure f.cause).status = 500 := by
  obtain ⟨cause, w', hbroken, hfails⟩ := Store.operate_of_breaks h
  exact ⟨_, w', hfails, hbroken.status _⟩

/-- What interrupts a request makes an internal error of it. -/
lemma respond_of_interrupted (h : Interrupted store tokenName r w) :
    ∃ cause w', respond store tokenName r w = (.error (.failure cause), w') ∧
      (Problem.failure cause).status = 500 := by
  cases h with
  | lookup hsecret h => exact respond_of_disturbed tokenName ⟨_, hsecret, .inr (.inr h)⟩
  | listing hr h =>
    obtain ⟨f, last, hfails, hstatus⟩ := users_of_unreadable h
    rw [hr.respond]
    refine ⟨f.cause, last, ?_, hstatus⟩
    unfold take
    dsimp only
    rw [hr.guarded, Handler.bind_apply, Handler.perform_of_error hfails]
  | removal hr h =>
    obtain ⟨f, last, hfails, hstatus⟩ := deleteUser_of_breaks h
    rw [hr.respond]
    refine ⟨f.cause, last, ?_, hstatus⟩
    unfold take
    dsimp only
    rw [hr.guarded, Handler.bind_apply, Handler.perform_of_error hfails]
  | issue hr hfields hstaff hname hid h =>
    obtain ⟨failure, last, hfails⟩ := createUser_of_halts hr.staff hfields hstaff hname hid h
    rw [hr.respond]
    refine ⟨.store failure, last, ?_, rfl⟩
    unfold take
    dsimp only
    rw [hr.guarded, hfails]

/-! ### Messages of failing methods -/

/-- Where the same methods of a session fail, the response is the same, whatever they say. -/
lemma answer_of_sameMethods (h : ∀ n, (store.faults n).SameMethods (store'.faults n)) :
    (answer store' tokenName r w).1 = (answer store tokenName r w).1 := by
  have hkin : store.Kin False store' := fun n => ⟨h n, False.elim⟩
  have htwin : w.Twin .unchanged False w :=
    ⟨(w.renamed .unchanged).notes, w.renamed_unchanged.symm, False.elim⟩
  have hheader : r.authorization.map Renaming.unchanged.header = r.authorization := by
    rw [Option.map_congr fun h _ => Renaming.header_unchanged h, Option.map_id']
  have hheard := Twins.hears (r := .unchanged) hkin r.authorization
  rw [hheader] at hheard
  obtain ⟨hsame, -⟩ := Nearness.answer (L := .twins .unchanged False) htwin hkin hheard
    fun _ => Twins.issues hkin tokenName
  have hgiven : r.withHeader r.authorization = r := rfl
  rw [hgiven] at hsame
  generalize (answer store tokenName r w).1 = x at hsame ⊢
  generalize (answer store' tokenName r w).1 = y at hsame ⊢
  cases hsame with
  | same => rfl
  | created hmade => rw [hmade, Credentials.renamed_unchanged]

/-- A response with the status of an error tells a reason in JSON and nothing else; what it tells does
not depend on the messages of failing methods; and a request that is interrupted in the store ends with
an internal error. -/
theorem answer_discreet (store store' : Store) (tokenName : Label) (r : Request) (w : World) :
    let response := (answer store tokenName r w).1
    (r.method ≠ "HEAD" → 400 ≤ response.status → ∃ reason,
      response = .document response.status (.record [("reason", .string reason)])) ∧
    ((∀ n, (store.faults n).SameMethods (store'.faults n)) →
      (answer store' tokenName r w).1 = response) ∧
    (Destination.find (upperCase r.method) r.path r.forSocket ≠ .endpoint .showStatus →
      Interrupted store tokenName (asked r) (begun (asked r) w) → response.status = 500) := by
  refine ⟨fun hmethod hstatus => ?_, answer_of_sameMethods, fun _ h => ?_⟩
  · rw [answer_response] at hstatus ⊢
    rcases hx : respond store tokenName (asked r) (begun (asked r) w) with ⟨x, w'⟩
    rw [hx, status_rendered] at hstatus
    rw [status_rendered, rendered.eq_def, if_neg hmethod]
    cases x with
    | ok response => exact absurd hstatus (Nat.not_le.mpr (respond_told hx))
    | error problem => exact ⟨problem.reason, rfl⟩
  · obtain ⟨cause, w', hx, hinternal⟩ := respond_of_interrupted h
    rw [answer_response, hx, status_rendered]
    exact hinternal

/-- A store in which every query fails with a message. -/
def brokenWith (message : Text) : Store := ⟨fun _ => { query := some message }⟩

lemma brokenWith_sameMethods (message message' : Text) (n : Nat) :
    ((brokenWith message).faults n).SameMethods ((brokenWith message').faults n) :=
  ⟨rfl, rfl, rfl, rfl, rfl, rfl, rfl⟩

/-- The users are asked for by somebody who presents a secret. -/
def peek : Request :=
  { method := "GET", path := "/users", authorization := some (Text.ofString "Bearer x") }

theorem answer_discreet_peek :
    (peek.method ≠ "HEAD" ∧
      (∀ n, ((brokenWith "boom").faults n).SameMethods ((brokenWith "bang").faults n)) ∧
      Destination.find (upperCase peek.method) peek.path peek.forSocket ≠ .endpoint .showStatus ∧
      Interrupted (brokenWith "boom") .missing (asked peek) (begun (asked peek) {})) ∧
    (answer (brokenWith "bang") .missing peek {}).1 = (answer (brokenWith "boom") .missing peek {}).1 ∧
    ∃ reason, (answer (brokenWith "boom") .missing peek {}).1 =
      .document 500 (.record [("reason", .string reason)]) := by
  have hsecret : bearerSecret (asked peek).authorization = .ok (Text.ofString "x") := by decide +kernel
  have hplace : Destination.find (upperCase peek.method) peek.path peek.forSocket ≠
      .endpoint .showStatus := by decide +kernel
  have hinterrupted : Interrupted (brokenWith "boom") .missing (asked peek) (begun (asked peek) {}) :=
    .lookup hsecret (.inl (.inl rfl))
  have hmethods := brokenWith_sameMethods "boom" "bang"
  have hmethod : peek.method ≠ "HEAD" := by decide
  obtain ⟨hreason, hsame, hinternal⟩ :=
    answer_discreet (brokenWith "boom") (brokenWith "bang") .missing peek {}
  have hstatus := hinternal hplace hinterrupted
  refine ⟨⟨hmethod, hmethods, hplace, hinterrupted⟩, hsame hmethods, ?_⟩
  rw [← hstatus]
  exact hreason hmethod (by rw [hstatus]; decide)

end Service

end BearerAccess
