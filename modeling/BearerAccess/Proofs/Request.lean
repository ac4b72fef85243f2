import BearerAccess.Http.Service
import BearerAccess.Proofs.Authentication
import BearerAccess.Proofs.Issuance
import BearerAccess.Proofs.Shown

/-!
# Requests

What a request commits can be told from the response: a user that is created with a token, or a user
that is deleted, and either only for a caller who presents a secret of a staff user.
-/

namespace BearerAccess

variable {α β : Type} {store : Store} {tokenName : Label} {r : Request} {w w' : World}

/-- The changes that a request has made, told from the response. -/
def Request.changes (now : Option Stamp) (r : Request) (response : Response) : List Change :=
  match Destination.find (upperCase r.method) r.path r.forSocket, response.status with
  | .endpoint .createUser, 201 =>
    ((response.content.bind Credentials.ofJson?).map (·.added now none)).getD []
  | .endpoint (.deleteUser id), 204 => [.removeUser id]
  | _, _ => []

/-! ### The caller -/

@[simp] lemma outcome_apply (a : Action α) (w : World) : outcome a w = (.ok (a w).1, (a w).2) := rfl

lemma Action.Quiet.outcome {a : Action α} (ha : a.Quiet) : (outcome a).Quiet := ha

namespace Service

def look (store : Store) (header : Text) : Action Identity :=
  match bearerSecret (some header) with
  | .ok secret => authenticate store (some secret) none
  | .error problem => fail (.credential problem)

lemma look_quiet (store : Store) (header : Text) : (look store header).Quiet := by
  unfold look
  cases bearerSecret (some header) with
  | error problem => exact Action.quiet_fail _
  | ok secret => exact authenticate_quiet store (some secret) none

lemma findCaller_quiet (store : Store) (r : Request) : (findCaller store r).Quiet := by
  unfold findCaller
  cases r.authorization with
  | none => exact (Action.quiet_writeLog _ _ _).bind fun _ => Action.quiet_pure _
  | some header =>
    refine (look_quiet store header).outcome.bind fun found => ?_
    cases found with
    | ok identity => exact (Action.quiet_writeLog _ _ _).bind fun _ => Action.quiet_pure _
    | error failure =>
      dsimp only
      split
      · exact (Action.quiet_writeLog _ _ _).bind fun _ => Action.quiet_pure _
      · exact (Action.quiet_writeLog _ _ _).bind fun _ => Action.quiet_pure _
      · exact Action.quiet_throw _

/-- A caller that is known has been looked up. -/
lemma findCaller_look {caller : Caller} {identity : Identity}
    (h : findCaller store r w = (.ok caller, w')) (hi : caller.identity = some identity) :
    ∃ header w₁, r.authorization = some header ∧ look store header w = (.ok identity, w₁) := by
  unfold findCaller at h
  cases hheader : r.authorization with
  | none =>
    rw [hheader] at h
    cases h
    cases hi
  | some header =>
    rw [hheader] at h
    obtain ⟨e, -, he⟩ | ⟨found, w₁, hfound, hrest⟩ := Action.bind_cases h
    · cases he
    obtain ⟨hlook, rfl⟩ : Except.ok (look store header w).1 = Except.ok found ∧
        (look store header w).2 = w₁ := Prod.mk.inj hfound
    rcases hresult : look store header w with ⟨⟨cause, noted⟩ | known, w₂⟩
    · rw [hresult] at hlook
      cases hlook
      cases cause <;> cases hrest
      all_goals cases hi
    · rw [hresult] at hlook
      cases hlook
      cases hrest
      cases hi
      exact ⟨header, w₂, rfl, hresult⟩

/-- The caller of a request is the owner of the secret that the request presents. -/
lemma findCaller_ok {caller : Caller} {identity : Identity}
    (h : findCaller store r w = (.ok caller, w')) (hi : caller.identity = some identity) :
    ∃ secret row, bearerSecret r.authorization = .ok secret ∧ w.Finds (some secret) none row ∧
      identity = row.toIdentity := by
  obtain ⟨header, w₁, hheader, hlook⟩ := findCaller_look h hi
  unfold look at hlook
  cases hsecret : bearerSecret (some header) with
  | error problem =>
    rw [hsecret] at hlook
    cases hlook
  | ok secret =>
    rw [hsecret] at hlook
    obtain ⟨row, hrow, rfl⟩ := authenticate_ok hlook
    exact ⟨secret, row, hheader ▸ hsecret, hrow, rfl⟩

end Service

/-! ### Handlers -/

namespace Handler

@[simp] lemma pure_apply (a : α) (w : World) : (pure a : Handler α) w = (.ok a, w) := rfl

@[simp] lemma throw_apply (p : Problem) (w : World) : (throw p : Handler α) w = (.error p, w) := rfl

lemma bind_apply (a : Handler α) (f : α → Handler β) (w : World) :
    (a >>= f) w = match a w with
      | (.ok x, w') => f x w'
      | (.error p, w') => (.error p, w') := by
  change ExceptT.bindCont f (a w).1 (a w).2 = _
  rcases a w with ⟨_ | _, _⟩ <;> rfl

lemma bind_cases {a : Handler α} {f : α → Handler β} {x : Except Problem β}
    (h : (a >>= f) w = (x, w')) :
    (∃ p, a w = (.error p, w') ∧ x = .error p) ∨ ∃ y w₁, a w = (.ok y, w₁) ∧ f y w₁ = (x, w') := by
  change ExceptT.bindCont f (a w).1 (a w).2 = _ at h
  rcases ha : a w with ⟨p | y, w₁⟩
  · rw [ha] at h
    cases h
    exact .inl ⟨p, rfl, rfl⟩
  · rw [ha] at h
    exact .inr ⟨y, w₁, rfl, h⟩

lemma perform_cases {a : Action α} {x : Except Problem α} (h : perform a w = (x, w')) :
    (∃ f, a w = (.error f, w') ∧ x = .error (.failure f.cause)) ∨
      ∃ y, a w = (.ok y, w') ∧ x = .ok y := by
  unfold perform at h
  rcases ha : a w with ⟨f | y, w₁⟩
  · rw [ha] at h
    cases h
    exact .inl ⟨f, rfl, rfl⟩
  · rw [ha] at h
    cases h
    exact .inr ⟨y, rfl, rfl⟩

lemma perform_of_ok {a : Action α} {x : α} (h : a w = (.ok x, w')) : perform a w = (.ok x, w') := by
  rw [perform, h]

lemma perform_of_error {a : Action α} {f : Failure} (h : a w = (.error f, w')) :
    perform a w = (.error (.failure f.cause), w') := by
  rw [perform, h]

lemma perform_quiet {a : Action α} (ha : a.Quiet) {x : Except Problem α}
    (h : perform a w = (x, w')) : w'.ground = w.ground := by
  obtain ⟨f, hf, -⟩ | ⟨y, hy, -⟩ := perform_cases h
  · exact ha.ground_eq hf
  · exact ha.ground_eq hy

lemma guard_ok {guard : Guard} {caller : Caller} {identity : Identity}
    (h : perform (guard.check caller) w = (.ok identity, w')) :
    caller.identity = some identity ∧ (guard = .staffOnly → identity.isStaff = true) := by
  obtain ⟨f, -, he⟩ | ⟨y, hy, he⟩ := perform_cases h
  · cases he
  · cases he
    exact Guard.check_ok hy

end Handler

/-! ### What a request can do -/

/-- What answering a request comes to, with the changes that are made: nothing, or a new user, or
one user less. -/
inductive Effect (spelling : List UInt8 → String) (now : Option Stamp) (d : Destination) :
    Except Problem Response → List Change → Prop where
  | nothing {x : Except Problem Response}
      (h : ∀ response, x = .ok response → response.status ≠ 201 ∧ response.status ≠ 204) :
      Effect spelling now d x []
  | created {c : Credentials} (hc : c.Sound spelling) (hd : d = .endpoint .createUser) :
      Effect spelling now d (.ok (.document 201 c.toDatum.shown)) (c.added now none)
  | deleted {id : String} (hd : d = .endpoint (.deleteUser id)) :
      Effect spelling now d (.ok (.empty 204)) [.removeUser id]

namespace Service

/-- A part of answering commits what its effect says, and changes the rows for staff alone. -/
def Does (d : Destination) (staff : Prop) (w : World) (x : Except Problem Response) (w' : World) :
    Prop :=
  ∃ changes, Effect w.spelling w.stamp? d x changes ∧ w.Commits changes w' ∧ (changes ≠ [] → staff)

variable {d : Destination} {staff : Prop} {x : Except Problem Response}

lemma does_error {p : Problem} (hc : w.Commits [] w') : Does d staff w (.error p) w' :=
  ⟨[], .nothing no_answer, hc, fun h => absurd rfl h⟩

lemma does_response {response : Response} (h₁ : response.status ≠ 201) (h₂ : response.status ≠ 204)
    (hc : w.Commits [] w') : Does d staff w (.ok response) w' := by
  refine ⟨[], .nothing ?_, hc, fun h => absurd rfl h⟩
  rintro _ ⟨⟩
  exact ⟨h₁, h₂⟩

lemma Does.after_ground {w₁ : World} (hg : w₁.ground = w.ground) (h : Does d staff w₁ x w') :
    Does d staff w x w' := by
  obtain ⟨changes, he, hc, hs⟩ := h
  rw [World.stamp_of_ground hg, (World.Steady.of_ground hg).spelling] at he
  exact ⟨changes, he, hc.after_ground hg, hs⟩

lemma Does.mono {other : Prop} (h : Does d staff w x w') (hs : staff → other) :
    Does d other w x w' := by
  obtain ⟨changes, he, hc, hstaff⟩ := h
  exact ⟨changes, he, hc, fun hne => hs (hstaff hne)⟩

lemma createUser_does {caller : Identity}
    (h : createUser store tokenName caller r w = (x, w')) :
    Does (.endpoint .createUser) (caller.isStaff = true) w x w' := by
  unfold createUser at h
  obtain ⟨p, hfields, rfl⟩ | ⟨fields, w₁, hfields, hrest⟩ := Handler.bind_cases h
  · obtain ⟨-, rfl⟩ := Prod.mk.inj hfields
    exact does_error (.refl w)
  obtain ⟨-, rfl⟩ := Prod.mk.inj hfields
  obtain ⟨p, hflag, rfl⟩ | ⟨isStaff, w₂, hflag, hissue⟩ := Handler.bind_cases hrest
  · obtain ⟨-, rfl⟩ := Prod.mk.inj hflag
    exact does_error (.refl w)
  obtain ⟨-, rfl⟩ := Prod.mk.inj hflag
  obtain ⟨p, hissued, rfl⟩ | ⟨issued, w₃, hissued, hanswer⟩ := Handler.bind_cases hissue
  · cases hissued
  rcases hmade : issueUser store (some caller) (some (requestedUsername fields)) (.value isStaff)
    tokenName none w with ⟨made, w₄⟩
  obtain ⟨rfl, rfl⟩ : issued = made ∧ w₃ = w₄ := by
    obtain ⟨f, hf, -⟩ | ⟨y, hy, he⟩ := Handler.perform_cases hissued
    · cases hf
    · rw [outcome_apply, hmade] at hy
      cases hy
      cases he
      exact ⟨rfl, rfl⟩
  obtain ⟨hc, hsound⟩ := issueUser_commits hmade
  cases issued with
  | ok credentials =>
    cases hanswer
    obtain ⟨hcredentials, actor, hactor, hstaff⟩ := hsound credentials rfl
    cases hactor
    exact ⟨_, .created hcredentials rfl, hc, fun _ => hstaff⟩
  | error failure =>
    obtain ⟨cause, noted⟩ := failure
    cases cause <;> cases hanswer
    all_goals exact does_error hc

/-- Behind a guard a route is taken for a caller that the guard lets pass. -/
lemma guarded_does {guard : Guard} {caller : Caller} {next : Identity → Handler Response}
    (h : (Handler.perform (guard.check caller) >>= next) w = (x, w'))
    (hnext : ∀ identity w₁, caller.identity = some identity →
      (guard = .staffOnly → identity.isStaff = true) → next identity w₁ = (x, w') →
      Does d staff w₁ x w') : Does d staff w x w' := by
  obtain ⟨p, hguard, rfl⟩ | ⟨identity, w₁, hguard, hrest⟩ := Handler.bind_cases h
  · exact does_error (.of_ground (Handler.perform_quiet (Guard.check_quiet _ _) hguard))
  · have hg := Handler.perform_quiet (Guard.check_quiet _ _) hguard
    obtain ⟨hcaller, hstaff⟩ := Handler.guard_ok hguard
    exact (hnext identity w₁ hcaller hstaff hrest).after_ground hg

lemma deleteUser_does {store : Store} {id : String} {note : Text}
    (h : (do
      Handler.perform (store.deleteUser (some (Text.ofString id)))
      Handler.perform (writeLog .info .routes note)
      return .empty 204 : Handler Response) w = (x, w')) :
    Does (.endpoint (.deleteUser id)) True w x w' := by
  obtain ⟨p, hdelete, rfl⟩ | ⟨u, w₁, hdelete, hlast⟩ := Handler.bind_cases h
  · obtain ⟨f, hf, -⟩ | ⟨y, -, he⟩ := Handler.perform_cases hdelete
    · exact does_error (Store.deleteUser_commits hf)
    · cases he
  obtain ⟨f, -, he⟩ | ⟨y, hy, -⟩ := Handler.perform_cases hdelete
  · cases he
  have hc := Store.deleteUser_commits hy
  rw [changesOf, stored?_ofString] at hc
  obtain ⟨p, hnote, rfl⟩ | ⟨v, w₂, hnote, hanswer⟩ := Handler.bind_cases hlast
  · cases hnote
  have hg := Handler.perform_quiet (Action.quiet_writeLog _ _ _) hnote
  cases hanswer
  exact ⟨_, .deleted rfl, hc.before_ground hg, fun _ => trivial⟩

/-- Taking a route changes the rows for a caller who is staff, if at all. -/
lemma take_does {caller : Caller} {e : Endpoint} (h : take store tokenName caller r e w = (x, w')) :
    Does (.endpoint e) (∃ identity, caller.identity = some identity ∧ identity.isStaff = true)
      w x w' := by
  cases e with
  | showStatus =>
    have hg := Store.isAvailable_quiet w
    obtain ⟨p, hasked, rfl⟩ | ⟨available, w₁, hasked, hrest⟩ := Handler.bind_cases h
    · cases hasked
    obtain ⟨-, rfl⟩ := Prod.mk.inj hasked
    cases available with
    | true =>
      cases hrest
      exact does_response (show 200 ≠ 201 by decide) (show 200 ≠ 204 by decide) (.of_ground hg)
    | false =>
      cases hrest
      exact does_error (.of_ground hg)
  | listUsers =>
    refine guarded_does h fun identity w₁ _ _ hrest => ?_
    obtain ⟨p, hlist, rfl⟩ | ⟨users, w₂, hlist, hanswer⟩ := Handler.bind_cases hrest
    · exact does_error (.of_ground (Handler.perform_quiet (Store.users_quiet _) hlist))
    · cases hanswer
      exact does_response (show 200 ≠ 201 by decide) (show 200 ≠ 204 by decide)
        (.of_ground (Handler.perform_quiet (Store.users_quiet _) hlist))
  | createUser =>
    refine guarded_does h fun identity w₁ hcaller hstaff hrest => ?_
    exact (createUser_does hrest).mono fun _ => ⟨identity, hcaller, hstaff rfl⟩
  | showCaller =>
    refine guarded_does h fun identity w₁ _ _ hrest => ?_
    cases hrest
    exact does_response (show 200 ≠ 201 by decide) (show 200 ≠ 204 by decide) (.refl _)
  | deleteUser id =>
    refine guarded_does h fun identity w₁ hcaller hstaff hrest => ?_
    exact (deleteUser_does hrest).mono fun _ => ⟨identity, hcaller, hstaff rfl⟩
  | sendFile name =>
    cases h
    exact does_error (.refl w)

/-- Answering a request changes the rows for a caller who presents a secret of a staff user, if at
all. -/
lemma respond_does (h : respond store tokenName r w = (x, w')) :
    Does (Destination.find r.method r.path r.forSocket)
      (∃ secret row, bearerSecret r.authorization = .ok secret ∧ w.Finds (some secret) none row ∧
        row.isStaff = true) w x w' := by
  obtain ⟨p, hfind, rfl⟩ | ⟨caller, w₁, hfind, hrest⟩ := Handler.bind_cases h
  · exact does_error (.of_ground (Handler.perform_quiet (findCaller_quiet _ _) hfind))
  have hg := Handler.perform_quiet (findCaller_quiet _ _) hfind
  have hcaller : ∀ identity, caller.identity = some identity ∧ identity.isStaff = true →
      ∃ secret row, bearerSecret r.authorization = .ok secret ∧ w.Finds (some secret) none row ∧
        row.isStaff = true := by
    rintro identity ⟨hidentity, hstaff⟩
    obtain ⟨f, -, he⟩ | ⟨found, hfound, he⟩ := Handler.perform_cases hfind
    · cases he
    · cases he
      obtain ⟨secret, row, hsecret, hrow, rfl⟩ := findCaller_ok hfound hidentity
      exact ⟨secret, row, hsecret, hrow, hstaff⟩
  by_cases hname : r.misnamed
  · simp only [if_pos hname] at hrest
    cases hrest
    exact does_error (.of_ground hg)
  simp only [if_neg hname] at hrest
  cases hd : Destination.find r.method r.path r.forSocket with
  | endpoint e =>
    rw [hd] at hrest
    exact ((take_does hrest).after_ground hg).mono fun ⟨identity, hi⟩ => hcaller identity hi
  | methods names =>
    rw [hd] at hrest
    cases hrest
    exact does_response (show 200 ≠ 201 by decide) (show 200 ≠ 204 by decide) (.of_ground hg)
  | moved =>
    rw [hd] at hrest
    cases hrest
    exact does_response (show 308 ≠ 201 by decide) (show 308 ≠ 204 by decide) (.of_ground hg)
  | wrongMethod =>
    rw [hd] at hrest
    cases hrest
    exact does_error (.of_ground hg)
  | noSocket =>
    rw [hd] at hrest
    cases hrest
    exact does_error (.of_ground hg)
  | nowhere =>
    rw [hd] at hrest
    cases hrest
    exact does_error (.of_ground hg)

end Service

/-! ### The way to the creation of a user -/

namespace Resource

/-- A path is its segments with slashes between them. -/
lemma intercalate_segments (cs : List Char) : ['/'].intercalate (segments cs) = cs := by
  have hne (cs : List Char) : segments cs ≠ [] := by
    cases cs with
    | nil => exact List.cons_ne_nil _ _
    | cons c cs =>
      unfold segments
      split
      · exact List.cons_ne_nil _ _
      · split <;> exact List.cons_ne_nil _ _
  induction cs with
  | nil => rfl
  | cons c cs ih =>
    unfold segments
    obtain ⟨s, rest, hs⟩ := List.exists_cons_of_ne_nil (hne cs)
    rw [hs] at ih ⊢
    split
    · rename_i hc
      rw [hc]
      exact congrArg (List.cons '/') ih
    · cases rest <;> exact congrArg (List.cons c) ih

/-- The only path of the users is their name after a slash. -/
lemma path_of_users {path : String} (h : users ∈ ofPath path) : path = "/users" := by
  have hsegments : (segments path.toList).map String.ofList = ["", "users"] := by
    unfold ofPath at h
    split at h
    · cases List.mem_singleton.mp h
    · assumption
    · split at h
      · cases h
      · split at h <;> simp at h
    · dsimp only at h
      split at h
      · cases h
      · cases List.mem_singleton.mp h
    · cases h
  have hchars : segments path.toList = [[], ['u', 's', 'e', 'r', 's']] := by
    refine List.map_injective_iff.mpr (fun s t hst => ?_) (hsegments.trans rfl)
    exact String.ofList_injective hst
  rw [← String.ofList_toList (s := path), ← intercalate_segments path.toList, hchars]
  rfl

lemma of_createUser {resource : Resource} {method : String}
    (h : resource.endpoint? method = some .createUser) :
    resource = .users ∧ servedBy method = "POST" := by
  obtain ⟨before, later, hsplit, -⟩ := List.lookup_eq_some_iff.mp h
  have hmem : (servedBy method, Endpoint.createUser) ∈ resource.endpoints := by
    rw [hsplit]
    exact List.mem_append_right _ (List.mem_cons_self ..)
  cases resource <;> simp [endpoints] at hmem
  exact ⟨rfl, hmem⟩

end Resource

namespace Destination

lemma among_of_createUser {method : String} {resources : List Resource}
    (h : among method resources = some (.endpoint .createUser)) :
    .users ∈ resources ∧ Resource.servedBy method = "POST" := by
  unfold among at h
  split at h
  · split at h
    · cases h
    · cases h
  · obtain ⟨e, he, hdest⟩ := Option.map_eq_some_iff.mp h
    cases hdest
    obtain ⟨resource, hmem, hresource⟩ := List.exists_of_findSome?_eq_some he
    obtain ⟨rfl, hserved⟩ := Resource.of_createUser hresource
    exact ⟨hmem, hserved⟩

/-- Nothing but the method and the path of the creation of a user leads to it. -/
lemma place_of_createUser {method path : String} {forSocket : Bool}
    (h : find method path forSocket = .endpoint .createUser) :
    method = "POST" ∧ path = "/users" := by
  obtain ⟨husers, hserved⟩ :
      .users ∈ Resource.ofPath path ∧ Resource.servedBy method = "POST" := by
    unfold find at h
    dsimp only at h
    split at h
    · split at h
      · split at h
        · cases h
        · cases h
      · cases h
    · split at h
      · rename_i d hd
        rw [h] at hd
        exact among_of_createUser hd
      · cases h
      · split at h
        · cases h
        · cases h
  refine ⟨?_, Resource.path_of_users husers⟩
  unfold Resource.servedBy at hserved
  split at hserved
  · exact absurd hserved (by decide)
  · exact hserved

lemma not_head_of_createUser {method path : String} {forSocket : Bool}
    (h : find method path forSocket = .endpoint .createUser) : method ≠ "HEAD" := by
  rw [(place_of_createUser h).1]
  decide

end Destination

/-! ### The response -/

lemma Problem.status_ge (p : Problem) : 400 ≤ p.status := by
  cases p with
  | failure cause => cases cause <;> simp [status, Cause.blame]
  | _ => simp [status]

lemma Service.ground_report (r : Request) (p : Problem) (w : World) :
    (Service.report r p w).ground = w.ground := by
  unfold Service.report
  cases p with
  | failure cause =>
    dsimp only
    split
    · rfl
    · exact World.ground_writeException _ _ _ _ _
    · exact World.ground_writeException _ _ _ _ _
  | _ => rfl

lemma Request.changes_of_status {response : Response} (now : Option Stamp)
    (h₁ : response.status ≠ 201) (h₂ : response.status ≠ 204) : r.changes now response = [] := by
  unfold Request.changes
  split
  · rename_i hstatus
    exact absurd hstatus h₁
  · rename_i hstatus
    exact absurd hstatus h₂
  · rfl

def Service.rendered (method : String) (x : Except Problem Response) : Response :=
  let response := match x with
    | .ok response => response
    | .error problem => problem.response
  if method = "HEAD" then { response with content := none } else response

lemma Service.status_rendered (method : String) (x : Except Problem Response) :
    (rendered method x).status = match x with
      | .ok response => response.status
      | .error problem => problem.response.status := by
  unfold rendered
  dsimp only
  split <;> cases x <;> rfl

lemma Service.answer_cases {response : Response}
    (h : Service.answer store tokenName r w = (response, w')) :
    ∃ x w₁ w₂, w₁.ground = w.ground ∧ w'.ground = w₂.ground ∧
      respond store tokenName { r with method := upperCase r.method } w₁ = (x, w₂) ∧
      response = rendered r.method x := by
  unfold Service.answer at h
  simp only [Computation.bind_apply, Computation.modify_apply, Computation.get_apply] at h
  have hg := World.ground_write w .info .requests
    s!"HTTP request started: {upperCase r.method} {r.path} from {r.peer} ({r.agent})"
  generalize w.write .info .requests _ = w₁ at h hg
  rcases hx : respond store tokenName { r with method := upperCase r.method } w₁ with ⟨x, w₂⟩
  have hrun : (respond store tokenName { r with method := upperCase r.method }).run w₁ = (x, w₂) := hx
  rw [hrun] at h
  cases x with
  | ok answered =>
    cases h
    exact ⟨.ok answered, w₁, w₂, hg, World.ground_write _ _ _ _, hx, rfl⟩
  | error problem =>
    cases h
    refine ⟨.error problem, w₁, w₂, hg, ?_, hx, rfl⟩
    exact (World.ground_write _ _ _ _).trans (ground_report _ _ _)

/-- What a request commits can be told from the response; and it is something only if the request
presents a secret of a staff user. -/
lemma Service.answer_commits {response : Response}
    (h : Service.answer store tokenName r w = (response, w')) :
    w.Commits (r.changes w.stamp? response) w' ∧
      (r.changes w.stamp? response ≠ [] → ∃ secret row, bearerSecret r.authorization = .ok secret ∧
        w.Finds (some secret) none row ∧ row.isStaff = true) ∧
      Paired w.spelling w.stamp? (r.changes w.stamp? response) := by
  obtain ⟨x, w₁, w₂, hbefore, hafter, hx, rfl⟩ := answer_cases h
  obtain ⟨changes, he, hc, hstaff⟩ := (respond_does hx).after_ground hbefore
  have hcommits := hc.before_ground hafter
  have hchanges : r.changes w.stamp? (rendered r.method x) = changes := by
    cases he with
    | nothing hstatus =>
      have hrendered : (rendered r.method x).status ≠ 201 ∧ (rendered r.method x).status ≠ 204 := by
        rw [status_rendered]
        cases x with
        | ok answered => exact hstatus answered rfl
        | error problem =>
          have hge : 400 ≤ problem.response.status := problem.status_ge
          dsimp only
          omega
      exact Request.changes_of_status _ hrendered.1 hrendered.2
    | created hsound hd =>
      have hhead : r.method ≠ "HEAD" := by
        intro hmethod
        exact Destination.not_head_of_createUser hd (by rw [hmethod]; rfl)
      rw [rendered, if_neg hhead]
      unfold Request.changes
      rw [hd]
      change ((Credentials.ofJson? _).map _).getD [] = _
      rw [Credentials.ofJson_shown hsound.user hsound.token]
      rfl
    | deleted hd =>
      have hstatus : (rendered r.method (.ok (.empty 204))).status = 204 := status_rendered _ _
      unfold Request.changes
      rw [hd, hstatus]
      rfl
  rw [hchanges]
  refine ⟨hcommits, fun hne => ?_, ?_⟩
  · obtain ⟨secret, row, hsecret, hrow, hs⟩ := hstaff hne
    exact ⟨secret, row, hsecret, World.Finds.of_commits (.of_ground hbefore) hrow, hs⟩
  · cases he with
    | nothing => exact .nothing
    | created hsound => exact .added hsound
    | deleted => exact .removed _

end BearerAccess
