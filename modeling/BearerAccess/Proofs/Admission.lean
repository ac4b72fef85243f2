import BearerAccess.Proofs.Liveness
import BearerAccess.Proofs.Told
import BearerAccess.Proofs.Working

/-!
# Admission

Who is admitted to the routes that are open to known callers or to staff alone. It is decided before
such a route is taken, by the header, the rows and the clock; the code of the route is then run for the
owner of the secret and refuses nobody.
-/

namespace BearerAccess

variable {α β : Type} {store : Store} {tokenName : Label} {r : Request} {w w' : World}
  {rows : Tables} {now : Stamp}

/-! ### Guarded routes -/

/-- The method and the path of each route that is guarded, where it leads, and its guard. -/
inductive GuardedRoute : String → String → Endpoint → Guard → Prop where
  | showCaller : GuardedRoute "GET" "/users/me" .showCaller .authenticated
  | listUsers : GuardedRoute "GET" "/users" .listUsers .staffOnly
  | createUser : GuardedRoute "POST" "/users" .createUser .staffOnly
  | deleteUser (id : String) (hid : id ≠ "") (hsegment : '/' ∉ id.toList) :
    GuardedRoute "DELETE" ("/users/" ++ id) (.deleteUser id) .staffOnly

lemma Resource.segments_of_not_mem {cs : List Char} (h : '/' ∉ cs) : segments cs = [cs] := by
  induction cs with
  | nil => rfl
  | cons c cs ih =>
    rw [List.mem_cons, not_or] at h
    rw [segments, if_neg (Ne.symm h.1), ih h.2]

lemma Resource.ofPath_user {id : String} (hid : id ≠ "") (hsegment : '/' ∉ id.toList) :
    ofPath ("/users/" ++ id) = if id = "me" then [me, user id] else [user id] := by
  have hsegments : segments ("/users/" ++ id).toList = [[], "users".toList, id.toList] := by
    rw [String.toList_append]
    change segments ('/' :: 'u' :: 's' :: 'e' :: 'r' :: 's' :: '/' :: id.toList) = _
    simp [segments, segments_of_not_mem hsegment]
  unfold ofPath
  rw [hsegments]
  simp only [List.map_cons, List.map_nil, String.ofList_toList]
  exact if_neg hid

lemma GuardedRoute.find {method path : String} {e : Endpoint} {guard : Guard}
    (h : GuardedRoute method path e guard) :
    Destination.find method path false = .endpoint e := by
  cases h with
  | showCaller => decide +kernel
  | listUsers => decide +kernel
  | createUser => decide +kernel
  | deleteUser id hid hsegment =>
    have hamong : Destination.among "DELETE" (Resource.ofPath ("/users/" ++ id)) =
        some (.endpoint (.deleteUser id)) := by
      rw [Resource.ofPath_user hid hsegment]
      split <;> rfl
    unfold Destination.find
    dsimp only
    rw [if_neg Bool.false_ne_true, hamong]

lemma GuardedRoute.not_head {method path : String} {e : Endpoint} {guard : Guard}
    (h : GuardedRoute method path e guard) : method ≠ "HEAD" := by
  cases h <;> decide

namespace Service

/-- What a route does for a caller that it is open to. -/
def act (store : Store) (tokenName : Label) (caller : Identity) (r : Request) :
    Endpoint → Handler Response
  | .listUsers => do
    let users ← Handler.perform store.users
    return .document 200 (.record [("users", .array (users.map (·.toDatum.shown)))])
  | .createUser => createUser store tokenName caller r
  | .showCaller => return .document 200 caller.toDatum.shown
  | .deleteUser id => do
    Handler.perform (store.deleteUser (some (Text.ofString id)))
    Handler.perform (writeLog .info .routes
      (Text.ofString s!"User {id} deleted by " ++ caller.userId))
    return .empty 204
  | e => take store tokenName {} r e

lemma take_guarded {method path : String} {e : Endpoint} {guard : Guard}
    (h : GuardedRoute method path e guard) (store : Store) (tokenName : Label) (caller : Caller)
    (r : Request) : take store tokenName caller r e = (do
      let identity ← Handler.perform (guard.check caller)
      act store tokenName identity r e) := by
  cases h <;> rfl

end Service

/-! ### Failures that refuse nobody -/

/-- A cause that refuses the caller of a request. -/
def Cause.Bars : Cause → Prop
  | .actorMissing | .authenticationRequired | .credential _ | .tokenRejected => True
  | .actorNotStaff | .staffOnly => True
  | _ => False

lemma Cause.bars_iff (c : Cause) :
    c.Bars ↔ (Problem.failure c).status = 401 ∨ (Problem.failure c).status = 403 := by
  cases c <;> simp [Bars, Problem.status, blame]

/-- An action that does not fail for a cause that refuses the caller. -/
def Action.Open (a : Action α) : Prop := ∀ w f, (a w).1 = .error f → ¬f.cause.Bars

lemma Action.open_fail {c : Cause} (h : ¬c.Bars) : (fail c : Action α).Open := by
  rintro w f ⟨⟩
  exact h

namespace Store

lemma operate_open (store : Store) {name : String} {query : Option Query} {work : Work α}
    (hwork : ∀ rows cause, work rows = .error cause → ¬cause.Bars) :
    (store.operate name query work).Open := by
  intro w f hf
  obtain ⟨cause, rfl, hraises⟩ := operate_error (Prod.ext hf rfl :
    store.operate name query work w = (.error f, (store.operate name query work w).2))
  have hcause : ¬cause.Bars := by
    cases hraises with
    | hindered h => exact not_false
    | unencodable h => exact not_false
    | worked hrows h => exact hwork _ _ h
  unfold undone
  cases (store.faults w.tasks).rollback with
  | none => exact hcause
  | some message => exact not_false

end Store

lemma Cause.OfDraw.not_bars {c : Cause} (h : c.OfDraw) : ¬c.Bars := by
  intro hbars
  cases c <;> first | exact h | exact hbars

lemma Cause.OfInsert.not_bars {c : Cause} (h : c.OfInsert) : ¬c.Bars := by
  intro hbars
  cases c <;> first | exact h | exact hbars

lemma createUser_open (store : Store) (username : Option Text) (isStaff : Flag) (tokenName : Label)
    (expiresAt : Option DateTime) :
    (createUser store username isStaff tokenName expiresAt).Open := by
  have hidentifier : newIdentifier.FailsFor fun c => ¬c.Bars :=
    newIdentifier_failsFor fun _ => Cause.OfDraw.not_bars
  have hsecret : (newSecret secretSize).FailsFor fun c => ¬c.Bars :=
    newSecret_failsFor (fun _ => Cause.OfDraw.not_bars) _
  unfold createUser
  cases checkedUsername username with
  | error problem => exact Action.open_fail not_false
  | ok name =>
    refine hidentifier.bind fun userId => ?_
    refine (store.transaction_failsFor not_false ?_).bind fun made => ?_
    · exact (Block.composes_failsFor fun _ => Cause.OfInsert.not_bars).makeCredentials
        store.insert_failsFor (Block.failsFor_outside hidentifier) (Block.failsFor_outside hsecret)
        _ _ _ _ _
    · rintro w f ⟨⟩

/-- A handler that does not fail with a refusal of the caller. -/
def Handler.Open (a : Handler α) : Prop :=
  ∀ w p, (a w).1 = .error p → p.status ≠ 401 ∧ p.status ≠ 403

namespace Handler

lemma open_pure (a : α) : (pure a : Handler α).Open := by
  rintro w p ⟨⟩

lemma open_lift {x : Except Problem α}
    (h : ∀ p, x = .error p → p.status ≠ 401 ∧ p.status ≠ 403) : (liftM x : Handler α).Open := by
  intro w p hp
  cases x with
  | ok a => cases hp
  | error q =>
    cases hp
    exact h _ rfl

lemma status_of_not_bars {c : Cause} (h : ¬c.Bars) :
    (Problem.failure c).status ≠ 401 ∧ (Problem.failure c).status ≠ 403 := by
  rwa [c.bars_iff, not_or] at h

lemma open_perform {a : Action α} (h : a.Open) : (perform a).Open := by
  intro w p hp
  rcases hx : perform a w with ⟨x, w'⟩
  rw [hx] at hp
  obtain ⟨f, hf, rfl⟩ | ⟨y, -, rfl⟩ := perform_cases hx
  · cases hp
    exact status_of_not_bars (h w f (by rw [hf]))
  · cases hp

lemma Open.bind {a : Handler α} {g : α → Handler β} (ha : a.Open) (hg : ∀ x, (g x).Open) :
    (a >>= g).Open := by
  intro w p hp
  rcases hx : (a >>= g) w with ⟨x, w'⟩
  rw [hx] at hp
  obtain ⟨q, hq, rfl⟩ | ⟨y, w₁, -, hy⟩ := bind_cases hx
  · cases hp
    exact ha w p (by rw [hq])
  · exact hg y w₁ p (by rw [hy]; exact hp)

/-- What follows an action is told how it ended. -/
lemma perform_outcome_bind (a : Action α) (g : Except Failure α → Handler β) (w : World) :
    (perform (outcome a) >>= g) w = g (a w).1 (a w).2 := by
  rw [bind_apply, perform_of_ok (outcome_apply a w)]

end Handler

lemma Presents.plain {header secret : Text} (h : Presents header secret)
    (hplain : ∀ p ∈ header, p.isSurrogate = false) : secret.toString?.isSome := by
  obtain ⟨before, scheme, between, after, rfl, -⟩ := h
  exact Text.toString?_isSome fun p hp => hplain p (by simp [hp])

namespace Service

lemma payload_open (r : Request) : (liftM (payload r) : Handler _).Open := by
  refine Handler.open_lift fun p hp => ?_
  unfold payload at hp
  dsimp only at hp
  split at hp
  · cases hp
    exact ⟨by decide, by decide⟩
  split at hp
  · cases hp
  · cases hp
    exact ⟨by decide, by decide⟩
  · cases hp
    exact ⟨by decide, by decide⟩

lemma requestedStaff_open (fields : List (Text × Json)) :
    (liftM (requestedStaff fields) : Handler _).Open := by
  refine Handler.open_lift fun p hp => ?_
  unfold requestedStaff at hp
  split at hp
  · cases hp
  · cases hp
  · cases hp
    exact ⟨by decide, by decide⟩

lemma createUser_open (store : Store) (tokenName : Label) {caller : Identity}
    (hstaff : caller.isStaff = true) (r : Request) : (createUser store tokenName caller r).Open := by
  unfold createUser
  refine (payload_open r).bind fun fields => (requestedStaff_open fields).bind fun isStaff => ?_
  dsimp only
  rw [issueUser_of_staff hstaff]
  intro w p hp
  rw [Handler.perform_outcome_bind] at hp
  have hopen := BearerAccess.createUser_open store (some (requestedUsername fields))
    (.value isStaff) tokenName none w
  cases hissued : (BearerAccess.createUser store (some (requestedUsername fields))
    (.value isStaff) tokenName none w).1 with
  | ok credentials =>
    rw [hissued] at hp
    cases hp
  | error failure =>
    rw [hissued] at hp
    have hcause := hopen failure hissued
    obtain ⟨cause, noted⟩ := failure
    cases cause <;> cases hp
    all_goals first
      | exact Handler.status_of_not_bars hcause
      | exact ⟨show 400 ≠ 401 by decide, show 400 ≠ 403 by decide⟩

/-- Behind its guard a route refuses nobody who may take it. -/
lemma act_open {method path : String} {e : Endpoint} {guard : Guard}
    (hroute : GuardedRoute method path e guard) (store : Store) (tokenName : Label)
    {caller : Identity} (hstaff : guard = .staffOnly → caller.isStaff = true) (r : Request) :
    (act store tokenName caller r e).Open := by
  cases hroute with
  | showCaller => exact Handler.open_pure _
  | listUsers =>
    refine (Handler.open_perform (Store.operate_open store fun rows cause h => ?_)).bind
      fun users => Handler.open_pure _
    cases h
  | createUser => exact createUser_open store tokenName (hstaff rfl) r
  | deleteUser id hid hsegment =>
    refine (Handler.open_perform (Store.operate_open store fun rows cause h => ?_)).bind fun _ => ?_
    · cases hfound : rows.userById? (stored? (some (Text.ofString id))) with
      | some row =>
        simp only [hfound] at h
        cases h
      | none =>
        simp only [hfound] at h
        cases h
        exact not_false
    · refine (Handler.open_perform ?_).bind fun _ => Handler.open_pure _
      rintro w f ⟨⟩

/-! ### The caller -/

/-- What is found out about the caller of a request, by whom a secret belongs to. -/
def callerOf (owner? : Text → Option UserRow) : Option Text → Caller
  | none => {}
  | some header =>
    match bearerSecret (some header) with
    | .error problem => { refusal := some (Cause.credential problem) }
    | .ok secret =>
      match owner? secret with
      | none => { refusal := some Cause.tokenRejected }
      | some u => { identity := some u.toIdentity }

/-- Who a guarded route is taken for, or why it is refused. -/
def admission (owner? : Text → Option UserRow) (guard : Guard) (header : Option Text) :
    Except Cause Identity :=
  match header with
  | none => .error .authenticationRequired
  | some text =>
    match bearerSecret (some text) with
    | .error problem => .error (.credential problem)
    | .ok secret =>
      match owner? secret with
      | none => .error .tokenRejected
      | some u =>
        if guard = .staffOnly ∧ u.isStaff = false then .error .staffOnly else .ok u.toIdentity

variable {owner? : Text → Option UserRow} {header : Option Text} {guard : Guard}

/-- A guard lets pass who is admitted, and refuses everybody else for the same cause. -/
lemma check_callerOf (owner? : Text → Option UserRow) (header : Option Text) (guard : Guard)
    (w : World) :
    match admission owner? guard header with
    | .ok identity => callerOf owner? header = { identity := some identity } ∧
      (guard = .staffOnly → identity.isStaff = true) ∧
        guard.check (callerOf owner? header) w = (.ok identity, w)
    | .error cause => ∃ w', guard.check (callerOf owner? header) w = (.error ⟨cause, none⟩, w') := by
  unfold admission callerOf
  cases header with
  | none => exact ⟨_, rfl⟩
  | some text =>
    dsimp only
    cases bearerSecret (some text) with
    | error problem => exact ⟨_, rfl⟩
    | ok secret =>
      dsimp only
      cases owner? secret with
      | none => exact ⟨_, rfl⟩
      | some u =>
        dsimp only
        have hstaff : u.toIdentity.isStaff = u.isStaff := rfl
        unfold Guard.check
        by_cases hbarred : guard = .staffOnly ∧ u.isStaff = false
        · rw [if_pos hbarred]
          simp only [hstaff, hbarred]
          exact ⟨_, rfl⟩
        · rw [if_neg hbarred]
          refine ⟨rfl, fun h => ?_, ?_⟩
          · rw [hstaff]
            exact Bool.eq_true_of_not_eq_false fun hu => hbarred ⟨h, hu⟩
          · simp only [hstaff, Bool.not_eq_true', if_neg hbarred]
            rfl

/-- In a working store the caller of a request is found out, whoever it may be. -/
lemma findCaller_apply (hclock : w.stamp? = some now) (hrows : w.database.rows? = some rows)
    (hplain : ∀ h ∈ r.authorization, ∀ p ∈ h, p.isSurrogate = false) :
    ∃ w', findCaller {} r w =
        (.ok (callerOf (fun secret => rows.ownerOfSecret? secret.toString? now) r.authorization),
          w') ∧ w'.ground = w.ground ∧ w'.randomness = w.randomness := by
  cases hheader : r.authorization with
  | none =>
    refine ⟨w.write .debug .authentication "No auth token", ?_, by simp, by simp⟩
    unfold findCaller
    rw [hheader]
    rfl
  | some header =>
    have hfound : outcome (look {} header) w = (.ok (look {} header w).1, (look {} header w).2) :=
      outcome_apply _ w
    unfold findCaller
    rw [hheader]
    change ∃ w', (outcome (look {} header) >>= _) w = _ ∧ _
    simp only [Action.bind_apply, hfound]
    cases hsecret : bearerSecret (some header) with
    | error problem =>
      have hlook : look {} header w = (.error (Cause.credential problem), w) := by
        rw [look, hsecret]
        rfl
      simp only [hlook, callerOf, hsecret]
      exact ⟨_, rfl, by simp, by simp⟩
    | ok secret =>
      have hsecretPlain : secret.toString?.isSome :=
        Presents.plain (bearerSecret_iff.mp hsecret) (hplain header hheader)
      obtain ⟨w', hlookup, hg, hr⟩ := Store.userByToken_apply hclock hrows hsecretPlain
      simp only [look_of_presented hsecret, Action.bind_apply, hlookup, callerOf, hsecret]
      cases rows.ownerOfSecret? secret.toString? now with
      | none => exact ⟨_, rfl, by simp [hg], by simp [hr]⟩
      | some u => exact ⟨_, rfl, by simp [hg], by simp [hr]⟩

/-- A guarded route is taken for who is admitted; everybody else is refused. -/
lemma respond_guarded {e : Endpoint} (hroute : GuardedRoute r.method r.path e guard)
    (hnamed : r.misnamed = false) (hsocket : r.forSocket = false)
    (hclock : w.stamp? = some now) (hrows : w.database.rows? = some rows)
    (hplain : ∀ h ∈ r.authorization, ∀ p ∈ h, p.isSurrogate = false) (tokenName : Label) :
    match admission (fun secret => rows.ownerOfSecret? secret.toString? now) guard
      r.authorization with
    | .ok identity => (guard = .staffOnly → identity.isStaff = true) ∧
      ∃ w₁, findCaller {} r w = (.ok { identity := some identity }, w₁) ∧
        respond {} tokenName r w = act {} tokenName identity r e w₁
    | .error cause => ∃ w', respond {} tokenName r w = (.error (.failure cause), w') := by
  obtain ⟨w₁, hcaller, -⟩ := findCaller_apply hclock hrows hplain
  have hcheck := check_callerOf (fun secret => rows.ownerOfSecret? secret.toString? now)
    r.authorization guard w₁
  rw [respond_of_caller hcaller, hnamed, hsocket, hroute.find, hcaller]
  dsimp only
  rw [if_neg Bool.false_ne_true, take_guarded hroute, Handler.bind_apply]
  generalize admission _ guard r.authorization = admitted at hcheck ⊢
  cases admitted with
  | ok identity =>
    obtain ⟨hknown, hstaff, hcheck⟩ := hcheck
    exact ⟨hstaff, w₁, by rw [hknown], by rw [Handler.perform_of_ok hcheck]⟩
  | error cause =>
    obtain ⟨w', hcheck⟩ := hcheck
    exact ⟨w', by rw [Handler.perform_of_error hcheck]⟩

end Service

/-! ### Whom a secret belongs to -/

namespace World

/-- A secret is that of a stored token that may be used at this moment, and belongs to a user. -/
def Speaks (w : World) (secret : Text) (u : UserRow) : Prop :=
  u ∈ w.stored.users ∧ ∃ k ∈ w.stored.tokens, u.id = k.userId ∧ Text.ofString k.secret = secret ∧
    k.toToken.LiveAt w.instant

lemma stored_of_rows (h : w.database.rows? = some rows) : w.stored = rows := by
  rw [stored, Database.tables_of_rows h, Option.getD_some]

/-- The owner that is looked up is the user whom the secret belongs to. -/
lemma speaks_iff (hconsistent : w.stored.Consistent) (hdated : w.Dated)
    (hrows : w.database.rows? = some rows) (hclock : w.stamp? = some now) {secret : Text}
    {u : UserRow} :
    rows.ownerOfSecret? secret.toString? now = some u ↔ w.Speaks secret u := by
  obtain ⟨present, hpresent, rfl⟩ := Option.map_eq_some_iff.mp hclock
  obtain ⟨huniversal, hinstant⟩ := DateTime.ofInstant?_spec hpresent
  have hlive : ∀ k ∈ w.stored.tokens, (k.toToken.LiveAt w.instant ↔
      k.expiresAt.all (·.isAfter (.ofDateTime present)) = true) := by
    intro k hk
    rw [instant, ← hinstant]
    exact TokenRow.liveAt_iff (hdated k hk) huniversal
  rw [← stored_of_rows hrows, Tables.ownerOfSecret?_iff hconsistent]
  constructor
  · rintro ⟨k, hk, hsecret, hexpiry, hu, hid⟩
    exact ⟨hu, k, hk, hid, Text.ofString_toString? hsecret.symm, (hlive k hk).mpr hexpiry⟩
  · rintro ⟨hu, k, hk, hid, rfl, hexpiry⟩
    exact ⟨k, hk, (Text.toString?_ofString _).symm, (hlive k hk).mp hexpiry, hu, hid⟩

end World

/-! ### Decisions -/

/-- A world that has come about from one without rows, whose rows can be read and whose clock shows a
date. -/
structure World.Working (w : World) : Prop where
  reached : ∃ events w₀, w₀.stored = {} ∧ (∀ e ∈ events, Event.Timely e.2) ∧
    w = (Event.run events w₀).2
  rows : w.database.rows?.isSome
  clock : w.stamp?.isSome

/-- A secret belongs to whom the rows name for it, where the world is in order. -/
lemma World.Working.owner (hw : w.Working) : ∃ rows now, w.database.rows? = some rows ∧
    w.stamp? = some now ∧
      ∀ secret u, rows.ownerOfSecret? secret.toString? now = some u ↔ w.Speaks secret u := by
  obtain ⟨events, w₀, hempty, htimely, rfl⟩ := hw.reached
  obtain ⟨rows, hrows⟩ := Option.isSome_iff_exists.mp hw.rows
  obtain ⟨now, hnow⟩ := Option.isSome_iff_exists.mp hw.clock
  refine ⟨rows, now, hrows, hnow, fun secret u => ?_⟩
  exact World.speaks_iff (Event.run_consistent hempty) (Event.run_dated hempty htimely) hrows hnow

/-- A request for a guarded route. Its header, if any, is a text of characters. -/
structure Request.Guarded (r : Request) (e : Endpoint) (guard : Guard) : Prop where
  route : GuardedRoute (upperCase r.method) r.path e guard
  named : r.misnamed = false
  noSocket : r.forSocket = false
  plain : ∀ header ∈ r.authorization, ∀ p ∈ header, p.isSurrogate = false

/-- A request presents a secret. -/
def Request.Offers (r : Request) (secret : Text) : Prop :=
  ∃ header, r.authorization = some header ∧ Presents header secret

lemma Request.Offers.bearerSecret {secret : Text} (h : r.Offers secret) :
    bearerSecret r.authorization = .ok secret := by
  obtain ⟨header, hheader, hpresents⟩ := h
  rw [hheader]
  exact bearerSecret_iff.mpr hpresents

lemma Request.Offers.eq {secret secret' : Text} (h : r.Offers secret) (h' : r.Offers secret') :
    secret = secret' :=
  Except.ok.inj (h.bearerSecret.symm.trans h'.bearerSecret)

/-- Who may be behind a request, and what a guard decides on it. -/
inductive World.Decides (w : World) (r : Request) (guard : Guard) : Except Cause Identity → Prop where
  | anonymous (hheader : r.authorization = none) : Decides w r guard (.error .authenticationRequired)
  | unreadable (problem : CredentialProblem) (hheader : r.authorization ≠ none)
    (hnone : ∀ secret, ¬r.Offers secret) : Decides w r guard (.error (.credential problem))
  | unknown (secret : Text) (hoffers : r.Offers secret) (hnobody : ∀ u, ¬w.Speaks secret u) :
    Decides w r guard (.error .tokenRejected)
  | barred (secret : Text) (u : UserRow) (hoffers : r.Offers secret) (hspeaks : w.Speaks secret u)
    (hbarred : guard = .staffOnly ∧ u.isStaff = false) : Decides w r guard (.error .staffOnly)
  | admitted (secret : Text) (u : UserRow) (hoffers : r.Offers secret) (hspeaks : w.Speaks secret u)
    (hfree : ¬(guard = .staffOnly ∧ u.isStaff = false)) : Decides w r guard (.ok u.toIdentity)

namespace Service

lemma admission_decides {owner? : Text → Option UserRow}
    (hspeaks : ∀ secret u, owner? secret = some u ↔ w.Speaks secret u) (guard : Guard) :
    w.Decides r guard (admission owner? guard r.authorization) := by
  unfold admission
  cases hheader : r.authorization with
  | none => exact .anonymous hheader
  | some text =>
    dsimp only
    cases hsecret : bearerSecret (some text) with
    | error problem =>
      refine .unreadable problem (by rw [hheader]; exact Option.some_ne_none _) fun secret hoffers => ?_
      have hok := hoffers.bearerSecret
      rw [hheader, hsecret] at hok
      cases hok
    | ok secret =>
      have hoffers : r.Offers secret := ⟨text, hheader, bearerSecret_iff.mp hsecret⟩
      dsimp only
      cases howner : owner? secret with
      | none =>
        refine .unknown secret hoffers fun u hu => ?_
        rw [(hspeaks secret u).mpr hu] at howner
        cases howner
      | some u =>
        have hu : w.Speaks secret u := (hspeaks secret u).mp howner
        by_cases hbarred : guard = .staffOnly ∧ u.isStaff = false
        · simp only [if_pos hbarred]
          exact .barred secret u hoffers hu hbarred
        · simp only [if_neg hbarred]
          exact .admitted secret u hoffers hu hbarred

/-- A refusal, with the reason that is given. -/
def refusal (status : Nat) (reason : Text) : Response :=
  .document status (.record [("reason", .string reason)])

/-- What is answered follows from what the guard decides. -/
lemma answer_admission {e : Endpoint} {guard : Guard} (hr : r.Guarded e guard)
    (hclock : w.stamp? = some now) (hrows : w.database.rows? = some rows) (tokenName : Label) :
    let response := (answer {} tokenName r w).1
    match admission (fun secret => rows.ownerOfSecret? secret.toString? now) guard
      r.authorization with
    | .error cause => response = refusal (Problem.failure cause).status (Problem.failure cause).reason
    | .ok identity => ∃ w₁,
      findCaller {} (asked r) (begun (asked r) w) = (.ok { identity := some identity }, w₁) ∧
        response = settled (act {} tokenName identity (asked r) e w₁).1 ∧
        response.status ≠ 401 ∧ response.status ≠ 403 := by
  have hhead : r.method ≠ "HEAD" := by
    intro hmethod
    exact hr.route.not_head (by rw [hmethod]; decide)
  have hresponse := respond_guarded (r := asked r) (w := begun (asked r) w) hr.route hr.named
    hr.noSocket ((World.stamp_of_ground (World.ground_write _ _ _ _)).trans hclock)
    ((congrArg Database.rows? (database_begun _ w)).trans hrows) hr.plain tokenName
  dsimp only
  rw [answer_of_not_head hhead]
  change match admission _ guard r.authorization with | .ok _ => _ | .error _ => _ at hresponse
  generalize admission _ guard r.authorization = admitted at hresponse ⊢
  cases admitted with
  | error cause =>
    obtain ⟨w', hresponse⟩ := hresponse
    rw [hresponse]
    rfl
  | ok identity =>
    obtain ⟨hstaff, w₁, hcaller, hresponse⟩ := hresponse
    refine ⟨w₁, hcaller, by rw [hresponse], ?_⟩
    have htold := respond_told (Prod.eta (respond {} tokenName (asked r) (begun (asked r) w))).symm
    rw [hresponse] at htold ⊢
    have hopen := act_open hr.route {} tokenName hstaff (asked r) w₁
    cases hx : (act {} tokenName identity (asked r) e w₁).1 with
    | ok response =>
      rw [hx] at htold
      have hlow : response.status < 400 := htold
      exact ⟨(hlow.trans (by decide)).ne, (hlow.trans (by decide)).ne⟩
    | error problem => exact hopen problem hx

lemma refusal_inj {status status' : Nat} {reason reason' : Text}
    (h : refusal status reason = refusal status' reason') : reason = reason' := by
  cases h
  rfl

/-- A refusal of the caller is the same for all requests with the header for routes with the guard. -/
lemma answer_refused_alike {r' : Request} {e e' : Endpoint} {guard : Guard} (hw : w.Working)
    (hr : r.Guarded e guard) (hr' : r'.Guarded e' guard)
    (hheader : r'.authorization = r.authorization)
    (hrefused : (answer {} tokenName r w).1.status = 401 ∨ (answer {} tokenName r w).1.status = 403) :
    (answer {} tokenName r' w).1 = (answer {} tokenName r w).1 := by
  obtain ⟨rows, now, hrows, hnow, -⟩ := hw.owner
  have hresponse := answer_admission hr hnow hrows tokenName
  have hresponse' := answer_admission hr' hnow hrows tokenName
  rw [hheader] at hresponse'
  generalize admission _ guard r.authorization = decided at hresponse hresponse'
  cases decided with
  | error cause => exact hresponse'.trans hresponse.symm
  | ok identity =>
    obtain ⟨-, -, -, h401, h403⟩ := hresponse
    exact absurd hrefused (not_or.mpr ⟨h401, h403⟩)

/-- A request that presents no secret that belongs to somebody is refused, with a reason that tells
what it lacks. -/
lemma answer_of_nobody (hw : w.Working) {e : Endpoint} {guard : Guard} (hr : r.Guarded e guard)
    (tokenName : Label) (hnobody : ¬∃ secret u, r.Offers secret ∧ w.Speaks secret u) :
    (answer {} tokenName r w).1.status = 401 ∧
    ((answer {} tokenName r w).1 = refusal 401 "Authentication required" ↔
      r.authorization = none) ∧
    ((answer {} tokenName r w).1 = refusal 401 "Invalid or expired token" ↔
      ∃ secret, r.Offers secret) := by
  obtain ⟨rows, now, hrows, hnow, hspeaks⟩ := hw.owner
  have hresponse := answer_admission hr hnow hrows tokenName
  have hdecides := admission_decides (r := r) hspeaks guard
  generalize admission _ guard r.authorization = decided at hresponse hdecides
  cases hdecides with
  | anonymous hheader =>
    have hnone : ¬∃ secret, r.Offers secret := by
      rintro ⟨secret, header, hsome, -⟩
      rw [hheader] at hsome
      cases hsome
    rw [hresponse]
    exact ⟨rfl, iff_of_true rfl hheader,
      iff_of_false (fun h => absurd (refusal_inj h) (by decide)) hnone⟩
  | unreadable problem hheader hnone =>
    rw [hresponse]
    refine ⟨rfl, iff_of_false (fun h => ?_) hheader,
      iff_of_false (fun h => ?_) (not_exists.mpr hnone)⟩
    · exact absurd (refusal_inj h) (by cases problem <;> decide)
    · exact absurd (refusal_inj h) (by cases problem <;> decide)
  | unknown secret hoffers hnobody =>
    rw [hresponse]
    refine ⟨rfl, iff_of_false (fun h => absurd (refusal_inj h) (by decide)) ?_,
      iff_of_true rfl ⟨secret, hoffers⟩⟩
    obtain ⟨header, hheader, -⟩ := hoffers
    rw [hheader]
    exact Option.some_ne_none _
  | barred secret u hoffers hu hbarred => exact absurd ⟨secret, u, hoffers, hu⟩ hnobody
  | admitted secret u hoffers hu hfree => exact absurd ⟨secret, u, hoffers, hu⟩ hnobody

/-- A request that presents a secret of somebody is answered for the owner, unless the guard keeps the
owner out. -/
lemma answer_of_speaker (hw : w.Working) {e : Endpoint} {guard : Guard} (hr : r.Guarded e guard)
    (tokenName : Label) {secret : Text} {u : UserRow} (hoffers : r.Offers secret)
    (hu : w.Speaks secret u) :
    let response := (answer {} tokenName r w).1
    if guard = .staffOnly ∧ u.isStaff = false then response.status = 403
    else ∃ w₁,
      findCaller {} (asked r) (begun (asked r) w) = (.ok { identity := some u.toIdentity }, w₁) ∧
        response = settled (act {} tokenName u.toIdentity (asked r) e w₁).1 ∧
        response.status ≠ 401 ∧ response.status ≠ 403 := by
  obtain ⟨rows, now, hrows, hnow, hspeaks⟩ := hw.owner
  have hresponse := answer_admission hr hnow hrows tokenName
  have hdecides := admission_decides (r := r) hspeaks guard
  have hunique : ∀ {secret' u'}, r.Offers secret' → w.Speaks secret' u' → u' = u := by
    intro secret' u' hoffers' hu'
    rw [← hspeaks] at hu hu'
    rw [hoffers'.eq hoffers, hu] at hu'
    exact (Option.some.inj hu').symm
  generalize admission _ guard r.authorization = decided at hresponse hdecides
  cases hdecides with
  | anonymous hheader =>
    obtain ⟨header, hsome, -⟩ := hoffers
    rw [hheader] at hsome
    cases hsome
  | unreadable problem hheader hnone => exact absurd hoffers (hnone secret)
  | unknown secret' hoffers' hnobody =>
    rw [hoffers'.eq hoffers] at hnobody
    exact absurd hu (hnobody u)
  | barred secret' u' hoffers' hu' hbarred =>
    rw [hunique hoffers' hu'] at hbarred
    dsimp only at hresponse ⊢
    rw [if_pos hbarred, hresponse]
    rfl
  | admitted secret' u' hoffers' hu' hfree =>
    rw [hunique hoffers' hu'] at hfree hresponse
    dsimp only
    rw [if_neg hfree]
    exact hresponse

/-- What a request for a guarded route may do is decided by its header, the rows and the clock alone.
It is refused for want of a caller unless it presents the secret of a token that may be used; a route
for staff also refuses everybody else. To everyone whom it is open to, a route does its work for the
owner of the secret. -/
theorem answer_guarded (hw : w.Working) {e : Endpoint} {guard : Guard} (hr : r.Guarded e guard)
    (tokenName : Label) :
    let response := (answer {} tokenName r w).1
    (response.status = 401 ↔ ¬∃ secret u, r.Offers secret ∧ w.Speaks secret u) ∧
    (response = refusal 401 "Authentication required" ↔ r.authorization = none) ∧
    (response = refusal 401 "Invalid or expired token" ↔
      ∃ secret, r.Offers secret ∧ ∀ u, ¬w.Speaks secret u) ∧
    (∀ secret u, r.Offers secret → w.Speaks secret u →
      (response.status = 403 ↔ guard = .staffOnly ∧ u.isStaff = false) ∧
      (({} : Store).userByToken (some secret) none w).1 = .ok (some u.toIdentity) ∧
      (¬(guard = .staffOnly ∧ u.isStaff = false) →
        (∃ w₁, findCaller {} (asked r) (begun (asked r) w) =
            (.ok { identity := some u.toIdentity }, w₁) ∧
          response = settled (act {} tokenName u.toIdentity (asked r) e w₁).1) ∧
        (e = .showCaller → response = .document 200 u.toIdentity.toDatum.shown) ∧
        (guard = .staffOnly → ∀ username isStaff expiresAt,
          issueUser {} (some u.toIdentity) username isStaff tokenName expiresAt =
            BearerAccess.createUser {} username isStaff tokenName expiresAt))) ∧
    (∀ r' e', r'.Guarded e' guard → r'.authorization = r.authorization →
      response.status = 401 ∨ response.status = 403 →
        (answer {} tokenName r' w).1 = response) := by
  have hsame : ∀ r' e', Request.Guarded r' e' guard → r'.authorization = r.authorization →
      (answer {} tokenName r w).1.status = 401 ∨ (answer {} tokenName r w).1.status = 403 →
      (answer {} tokenName r' w).1 = (answer {} tokenName r w).1 :=
    fun _ _ hr' hheader hrefused => answer_refused_alike hw hr hr' hheader hrefused
  by_cases hsomebody : ∃ secret u, r.Offers secret ∧ w.Speaks secret u
  · have hknown : (answer {} tokenName r w).1.status ≠ 401 := by
      obtain ⟨secret, u, ho, hu⟩ := hsomebody
      have hresponse := answer_of_speaker hw hr tokenName ho hu
      dsimp only at hresponse
      split at hresponse
      · rw [hresponse]
        decide
      · obtain ⟨-, -, -, h401, -⟩ := hresponse
        exact h401
    have hnot : ∀ reason, (answer {} tokenName r w).1 ≠ refusal 401 reason :=
      fun reason h => hknown (by rw [h]; rfl)
    refine ⟨iff_of_false hknown (not_not_intro hsomebody), iff_of_false (hnot _) ?_,
      iff_of_false (hnot _) ?_, fun secret u ho hu => ?_, hsame⟩
    · obtain ⟨secret, u, ⟨header, hheader, -⟩, -⟩ := hsomebody
      rw [hheader]
      exact Option.some_ne_none _
    · rintro ⟨secret, ho, hnobody⟩
      obtain ⟨secret', u, ho', hu⟩ := hsomebody
      rw [ho'.eq ho] at hu
      exact hnobody u hu
    · obtain ⟨rows, now, hrows, hnow, hspeaks⟩ := hw.owner
      obtain ⟨header, hheader, hpresents⟩ := ho
      obtain ⟨w₂, hlookup, -⟩ := Store.userByToken_apply hnow hrows
        (hpresents.plain (hr.plain header hheader))
      rw [(hspeaks secret u).mpr hu] at hlookup
      have hresponse := answer_of_speaker hw hr tokenName ⟨header, hheader, hpresents⟩ hu
      refine ⟨?_, by rw [hlookup]; rfl, fun hfree => ?_⟩
      · dsimp only at hresponse
        split at hresponse
        case isTrue hbarred => exact iff_of_true hresponse hbarred
        case isFalse hfree =>
          obtain ⟨-, -, -, -, h403⟩ := hresponse
          exact iff_of_false h403 hfree
      · dsimp only at hresponse
        rw [if_neg hfree] at hresponse
        obtain ⟨w₁, hcaller, hresponse, -⟩ := hresponse
        refine ⟨⟨w₁, hcaller, hresponse⟩, ?_, fun hguard username isStaff expiresAt => ?_⟩
        · rintro rfl
          exact hresponse
        · refine issueUser_of_staff ?_ _ _ _ _ _
          exact Bool.eq_true_of_not_eq_false fun h => hfree ⟨hguard, h⟩
  · obtain ⟨hstatus, hanonymous, hunknown⟩ := answer_of_nobody hw hr tokenName hsomebody
    refine ⟨iff_of_true hstatus hsomebody, hanonymous, hunknown.trans ?_, ?_, hsame⟩
    · exact exists_congr fun secret =>
        (and_iff_left_of_imp fun ho u hu => hsomebody ⟨secret, u, ho, hu⟩).symm
    · exact fun secret u ho hu => absurd ⟨secret, u, ho, hu⟩ hsomebody

lemma moving_working : (Event.run Event.moving {}).2.Working :=
  ⟨⟨Event.moving, {}, rfl, Event.moving_timely, rfl⟩, by decide +kernel, by decide +kernel⟩

/-- A secret for which the store finds somebody belongs to them. -/
lemma speaks_of_found (hw : w.Working) {secret : Text} {identity : Identity}
    (hplain : secret.toString?.isSome)
    (hfound : (({} : Store).userByToken (some secret) none w).1 = .ok (some identity)) :
    ∃ u, w.Speaks secret u ∧ u.toIdentity = identity := by
  obtain ⟨rows, now, hrows, hnow, hspeaks⟩ := hw.owner
  obtain ⟨w₁, hlookup, -⟩ := Store.userByToken_apply hnow hrows hplain
  rw [hlookup] at hfound
  obtain ⟨u, hu, hidentity⟩ := Option.map_eq_some_iff.mp (Except.ok.inj hfound)
  exact ⟨u, (hspeaks secret u).mp hu, hidentity⟩

/-- The secret d belongs to b. -/
lemma moving_speaks :
    ∃ u, (Event.run Event.moving {}).2.Speaks "d" u ∧ u.toIdentity = ⟨"a", "b", true⟩ := by
  refine speaks_of_found moving_working ?_ (by decide +kernel)
  rw [Text.toString?_ofString]
  rfl

/-- The user b asks who they are. -/
def myself : Request :=
  { method := "GET", path := "/users/me", authorization := some (Text.ofString "Bearer d") }

theorem answer_guarded_myself :
    ((Event.run Event.moving {}).2.Working ∧ myself.Guarded .showCaller .authenticated) ∧
    (answer {} .missing myself (Event.run Event.moving {}).2).1 =
      .document 200 (⟨"a", "b", true⟩ : Identity).toDatum.shown := by
  have hguarded : myself.Guarded .showCaller .authenticated := by
    refine ⟨?_, rfl, rfl, ?_⟩
    · rw [show upperCase myself.method = "GET" by decide +kernel]
      exact .showCaller
    · rintro _ ⟨⟩ p hp
      exact Text.isSurrogate_of_mem_ofString hp
  have hoffers : myself.Offers "d" := ⟨_, rfl, bearerSecret_iff.mp (by decide +kernel)⟩
  obtain ⟨u, hu, hidentity⟩ := moving_speaks
  obtain ⟨-, -, -, hspeaker, -⟩ := answer_guarded moving_working hguarded .missing
  have hshown := ((hspeaker "d" u hoffers hu).2.2 (by simp)).2.1 rfl
  rw [hidentity] at hshown
  exact ⟨⟨moving_working, hguarded⟩, hshown⟩

end Service

end BearerAccess
