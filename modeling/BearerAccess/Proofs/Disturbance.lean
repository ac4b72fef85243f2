import BearerAccess.Proofs.Bearer
import BearerAccess.Proofs.Lookup
import BearerAccess.Proofs.NearnessService

/-!
# Disturbed lookups

When the owner of a secret cannot be looked up: there is no present date, the secret is no text that
could be stored, or the rows cannot be read. A request that presents such a secret is answered with an
internal error, wherever it is directed to; any other request is answered as its route has it.
-/

namespace BearerAccess

variable {α : Type} {store : Store} {tokenName : Label} {r : Request} {w w' : World}

namespace Store

variable {faults : Faults} {db : Database} {name : String} {query : Option Query} {read : Tables → α}

/-- Rows cannot be read: a method of the session fails that a reading operation calls, or there are no
rows to be had. -/
def Unreadable (faults : Faults) (db : Database) : Prop :=
  (faults.query.isSome ∨ faults.flush.isSome ∨ faults.commit.isSome) ∨ db.rows? = none

lemma Unreadable.breaks (h : Unreadable faults db) :
    Breaks faults db (fun rows => reading (read rows)) := by
  obtain (hquery | hflush | hcommit) | hrows := h
  · exact .method (.inl hquery)
  · exact .method (.inr hflush)
  · cases hrows : db.rows? with
    | none => exact .rowless hrows
    | some rows => exact .commit hrows rfl hcommit
  · exact .rowless hrows

/-- A query whose text cannot be handed over is rejected. -/
lemma visit_of_obstacle (hquery : (query.bind (textObstacle? ·.subject)).isSome) :
    ∃ e, (w.visit query).1 = .error e := by
  obtain ⟨e, he⟩ := Option.isSome_iff_exists.mp hquery
  unfold World.visit putQuery
  rw [he]
  cases w.connect.2.database.rows? with
  | none => exact ⟨_, rfl⟩
  | some rows => exact ⟨_, rfl⟩

lemma operate_of_obstacle {work : Work α} (hquery : (query.bind (textObstacle? ·.subject)).isSome) :
    ∃ cause w', Cause.Broken name cause ∧
      store.operate name query work w = (.error (undone (store.faults w.tasks) cause), w') := by
  rw [operate_apply]
  dsimp only
  split
  · exact ⟨_, _, .inl rfl, rfl⟩
  · obtain ⟨e, he⟩ := visit_of_obstacle (w := w.assigned) hquery
    rw [he]
    exact ⟨_, _, e.raised_broken name _, rfl⟩

/-- Where rows can be read, a query for what a storable text names is answered. -/
lemma operate_of_readable (h : ¬Unreadable (store.faults w.tasks) w.database)
    (hquery : query.bind (textObstacle? ·.subject) = none) :
    ∃ rows w', w.database.rows? = some rows ∧
      store.operate name query (fun rows => reading (read rows)) w = (.ok (read rows), w') := by
  simp only [Unreadable, not_or, Bool.not_eq_true, ← ne_eq, Option.ne_none_iff_exists'] at h
  obtain ⟨⟨hq, hflush, hcommit⟩, rows, hrows⟩ := h
  have hassigned : w.assigned.database.rows? = some rows := hrows
  have hvisit : (w.assigned.visit query).1 = .ok rows := by
    rw [World.visit_fst hassigned, hquery]
  refine ⟨rows, (w.assigned.visit query).2, hrows, ?_⟩
  rw [operate_apply]
  simp only [hq, hflush, Database.reachable_of_rows hrows, hvisit, reading, conclude, hcommit]
  rfl

/-- The answer of an availability check. -/
lemma isAvailable_fst (w : World) : (isAvailable w).1 = w.database.reachable := by
  rw [isAvailable_apply, World.database_of_ground (World.ground_turn w)]

end Store

/-! ### What is answered to a failure of the store -/

lemma Cause.Broken.status {name : String} {c : Cause} (h : Cause.Broken name c) (faults : Faults) :
    (Problem.failure (undone faults c).cause).status = 500 := by
  unfold undone
  cases faults.rollback with
  | some message => rfl
  | none =>
    obtain rfl | ⟨position, run, rfl⟩ := h
    · rfl
    · rfl

lemma Failure.not_refuses {f : Failure} (h : (Problem.failure f.cause).status = 500) : ¬f.Refuses := by
  obtain ⟨cause, noted⟩ := f
  cases cause
  all_goals first | exact id | cases h

/-! ### The caller -/

namespace Service

/-- The owner of the secret that a header presents cannot be looked up. -/
def Disturbed (store : Store) (header : Option Text) (w : World) : Prop :=
  ∃ secret, bearerSecret header = .ok secret ∧
    (w.stamp? = none ∨ secret.toString? = none ∨ Store.Unreadable (store.faults w.tasks) w.database)

lemma disturbed_write {header : Option Text} {severity : Severity} {source : Source} {message : Text} :
    Disturbed store header (w.write severity source message) ↔ Disturbed store header w := by
  unfold World.write World.keep
  split <;> rfl

/-- A secret that is presented is looked up, since it is never empty. -/
lemma look_of_presented {header secret : Text} (h : bearerSecret (some header) = .ok secret) :
    look store header = store.userByToken (some secret) none >>= fun found =>
      match found with
      | some identity => return identity
      | none => fail .tokenRejected := by
  have hfull : ¬(some secret).getD [] = [] := (bearerSecret_iff.mp h).isWord.1
  unfold look
  rw [h]
  exact if_neg hfull

lemma userByToken_of_disturbed {secret : Text} (h : w.stamp? = none ∨ secret.toString? = none ∨
    Store.Unreadable (store.faults w.tasks) w.database) :
    ∃ f w', store.userByToken (some secret) none w = (.error f, w') ∧
      (Problem.failure f.cause).status = 500 := by
  unfold Store.userByToken
  obtain ⟨⟨f, hmoment⟩, -⟩ | ⟨u, hmoment, hstamp⟩ := moment_cases none w
  · obtain ⟨rfl, -⟩ := moment_error hmoment
    refine ⟨Cause.range .date, w, ?_, rfl⟩
    rw [Action.bind_apply, hmoment]
  rw [Action.bind_apply, hmoment]
  dsimp only
  obtain hclock | hobstacle | hstore := h
  · rw [World.askedAt?, hclock] at hstamp
    cases hstamp
  · have hquery : ((some ⟨.ownerOfSecret, some secret⟩ : Option Store.Query).bind
        (textObstacle? ·.subject)).isSome := by
      rw [Option.bind_some, textObstacle?, surrogates?, Option.bind_some, hobstacle]
      rfl
    obtain ⟨cause, w', hbroken, hfails⟩ := Store.operate_of_obstacle hquery
    exact ⟨_, w', hfails, hbroken.status _⟩
  · obtain ⟨cause, w', hbroken, hfails⟩ := Store.operate_of_breaks hstore.breaks
    exact ⟨_, w', hfails, hbroken.status _⟩

lemma userByToken_of_undisturbed {secret : Text} {s : String} (hclock : w.stamp? ≠ none)
    (hsecret : secret.toString? = some s)
    (hstore : ¬Store.Unreadable (store.faults w.tasks) w.database) :
    ∃ found w', store.userByToken (some secret) none w = (.ok found, w') := by
  unfold Store.userByToken
  obtain ⟨-, hnone⟩ | ⟨u, hmoment, -⟩ := moment_cases none w
  · exact absurd hnone hclock
  · rw [Action.bind_apply, hmoment]
    have hquery : (some ⟨.ownerOfSecret, some secret⟩ : Option Store.Query).bind
        (textObstacle? ·.subject) = none := textObstacle?_of_stored hsecret
    obtain ⟨rows, w', -, hread⟩ := Store.operate_of_readable hstore hquery
    exact ⟨_, w', hread⟩

lemma findCaller_of_disturbed (h : Disturbed store r.authorization w) :
    ∃ f w', findCaller store r w = (.error f, w') ∧ (Problem.failure f.cause).status = 500 := by
  obtain ⟨secret, hsecret, h⟩ := h
  cases hheader : r.authorization with
  | none =>
    rw [hheader] at hsecret
    cases hsecret
  | some header =>
    rw [hheader] at hsecret
    obtain ⟨f, w', hf, hstatus⟩ := userByToken_of_disturbed h
    refine ⟨f, w', findCaller_throws hheader ?_ (Failure.not_refuses hstatus), hstatus⟩
    rw [look_of_presented hsecret, Action.bind_apply, hf]

lemma findCaller_of_refusal {header : Text} (hheader : r.authorization = some header)
    (h : ∀ f, (look store header w).1 = .error f → f.Refuses) :
    ∃ caller w', findCaller store r w = (.ok caller, w') := by
  rcases hlook : look store header w with ⟨⟨cause, noted⟩ | identity, w₁⟩
  all_goals
    have hfound : outcome (look store header) w = (.ok (look store header w).1, w₁) := by
      rw [outcome_apply, hlook]
    rw [hlook] at hfound
    unfold findCaller
    rw [hheader]
    change ∃ caller w', (outcome (look store header) >>= _) w = _
    rw [Action.bind_apply, hfound]
  · have hrefuses := h ⟨cause, noted⟩ (by rw [hlook])
    cases cause
    all_goals first | exact ⟨_, _, rfl⟩ | exact hrefuses.elim
  · exact ⟨_, _, rfl⟩

/-- Nothing ends a request whose caller can be looked up, or that presents no secret at all. -/
lemma findCaller_of_undisturbed (h : ¬Disturbed store r.authorization w) :
    ∃ caller w', findCaller store r w = (.ok caller, w') := by
  cases hheader : r.authorization with
  | none =>
    unfold findCaller
    rw [hheader]
    exact ⟨_, _, rfl⟩
  | some header =>
    refine findCaller_of_refusal hheader fun f hf => ?_
    cases hsecret : bearerSecret (some header) with
    | error problem =>
      rw [look, hsecret] at hf
      cases hf
      trivial
    | ok secret =>
      simp only [Disturbed, hheader, hsecret, Except.ok.injEq, exists_eq_left', not_or] at h
      obtain ⟨hclock, hstring, hstore⟩ := h
      obtain ⟨s, hs⟩ := Option.ne_none_iff_exists'.mp hstring
      obtain ⟨found, w', hfound⟩ := userByToken_of_undisturbed hclock hs hstore
      rw [look_of_presented hsecret, Action.bind_apply, hfound] at hf
      cases found with
      | some identity => cases hf
      | none =>
        cases hf
        trivial

/-! ### The course of a request -/

/-- What a request comes to whose caller is looked up or not known. -/
lemma respond_of_caller {caller : Caller} (h : findCaller store r w = (.ok caller, w')) :
    respond store tokenName r w =
      if r.misnamed then (.error (.badRequest Problem.misunderstood), w')
      else match Destination.find r.method r.path r.forSocket with
        | .nowhere => (.error .notFound, w')
        | .wrongMethod => (.error .wrongMethod, w')
        | .noSocket => (.error (.badRequest Problem.misunderstood), w')
        | .moved => (.ok (.empty 308), w')
        | .methods names => (.ok { Response.empty 200 with allow := some names }, w')
        | .endpoint e => take store tokenName caller r e w' := by
  unfold respond
  rw [Handler.bind_apply, Handler.perform_of_ok h]
  dsimp only
  by_cases hname : r.misnamed
  · simp only [if_pos hname]
    rfl
  simp only [if_neg hname]
  cases Destination.find r.method r.path r.forSocket <;> rfl

/-- A request whose caller cannot be looked up ends with an internal error, wherever it goes. -/
lemma respond_of_disturbed (tokenName : Label) (h : Disturbed store r.authorization w) :
    ∃ cause w', respond store tokenName r w = (.error (.failure cause), w') ∧
      (Problem.failure cause).status = 500 := by
  obtain ⟨f, w', hf, hstatus⟩ := findCaller_of_disturbed h
  refine ⟨f.cause, w', ?_, hstatus⟩
  unfold respond
  rw [Handler.bind_apply, Handler.perform_of_error hf]

end Service

end BearerAccess
