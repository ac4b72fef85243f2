import BearerAccess.Proofs.Nearness

/-!
# The service under a nearness

Requests are answered alike in worlds that are near each other, and leave them near, if the secrets
that they present are looked up alike. A response may differ only in the new user that it shows.
-/

namespace BearerAccess

variable {α α' : Type} {told : Prop}

/-- Callers that are the same but for what is not told of their refusals. -/
structure Caller.Kin (told : Prop) (c c' : Caller) : Prop where
  identity : c'.identity = c.identity
  refusal : Option.Rel (Failure.Kin told) c.refusal c'.refusal

namespace Response.Same

variable {made : Credentials → Credentials → Prop} {x y : Response}

lemma status (h : Same made x y) : y.status = x.status := by
  cases h <;> rfl

lemma without_content (h : Same made x y) :
    Same made { x with content := none } { y with content := none } := by
  cases h with
  | same => exact .same _ (.inr rfl)
  | created => exact .same _ (.inr rfl)

lemma refl (h : x.status ≠ 201) : Same made x x := .same x (.inl h)

end Response.Same

/-! ### Other headers -/

def RequestDraft.withHeader (draft : RequestDraft) (header : Option Text) : RequestDraft :=
  { draft with authorization := header }

def Request.withHeader (r : Request) (header : Option Text) : Request :=
  { r with authorization := header }

lemma Request.place_withHeader (r : Request) (header : Option Text) :
    (r.withHeader header).misnamed = r.misnamed ∧
      Destination.find (r.withHeader header).method (r.withHeader header).path
        (r.withHeader header).forSocket = Destination.find r.method r.path r.forSocket :=
  ⟨rfl, rfl⟩

/-- A draft with another header is sent as the same request with that header, if that does not change
whether it is broken into lines. -/
lemma RequestDraft.sent_withHeader (draft : RequestDraft) (header : Option Text)
    (hbroken : (draft.withHeader header).isBroken = draft.isBroken) (server : Option ServerName) :
    (draft.withHeader header).sent server = (·.withHeader header) <$> draft.sent server := by
  unfold sent
  rw [hbroken]
  simp only [map_bind]
  refine bind_congr fun target => bind_congr fun inner => bind_congr fun path => ?_
  refine bind_congr fun place => bind_congr fun site => bind_congr fun ascii => ?_
  refine bind_congr fun home => ?_
  by_cases hhome : home.query ≠ [] ∨ home.fragment ≠ []
  · rw [if_pos hhome, if_pos hhome]
    rfl
  rw [if_neg hhome, if_neg hhome]
  by_cases hlines : draft.isBroken
  · rw [if_pos hlines, if_pos hlines]
    rfl
  rw [if_neg hlines, if_neg hlines]
  simp only [map_bind, map_pure]
  rfl

/-! ### Answering, in one equation -/

namespace Service

/-- The world in which a request is begun. -/
def begun (r : Request) (w : World) : World :=
  w.write .info .requests s!"HTTP request started: {r.method} {r.path} from {r.peer} ({r.agent})"

/-- The response to what answering a request comes to. -/
def settled : Except Problem Response → Response
  | .ok response => response
  | .error problem => problem.response

/-- The world after what answering a request comes to has been reported. -/
def reported (r : Request) : Except Problem Response → World → World
  | .ok _, w => w
  | .error problem, w => report r problem w

/-- A request as it is answered: by the capital letters of its method. -/
def asked (r : Request) : Request := { r with method := upperCase r.method }

def completion (r : Request) (status : Nat) (duration : Int) : Text :=
  s!"HTTP request completed: {r.method} {r.path} {status} in {duration} ms"

lemma asked_withHeader (r : Request) (header : Option Text) :
    asked (r.withHeader header) = (asked r).withHeader header := rfl

/-- The whole of answering a request. -/
lemma answer_apply (store : Store) (tokenName : Label) (given : Request) (w : World) :
    answer store tokenName given w =
      let r := asked given
      let x := respond store tokenName r (begun r w)
      let last := reported r x.1 x.2
      (rendered given.method x.1, last.write .info .requests
        (completion r (settled x.1).status (last.clock - (begun r w).clock))) := by
  have hrun : ∀ a : Handler Response, a.run = a := fun _ => rfl
  unfold answer
  simp only [Computation.bind_apply, Computation.modify_apply, Computation.get_apply, hrun]
  unfold asked begun
  dsimp only
  rcases respond store tokenName { given with method := upperCase given.method } _ with ⟨x | x, w₁⟩
  · rfl
  · rfl

lemma answer_response (store : Store) (tokenName : Label) (given : Request) (w : World) :
    (answer store tokenName given w).1 =
      rendered given.method (respond store tokenName (asked given) (begun (asked given) w)).1 := by
  rw [answer_apply]

lemma answer_of_not_head {given : Request} (h : given.method ≠ "HEAD") (store : Store)
    (tokenName : Label) (w : World) : (answer store tokenName given w).1 =
      settled (respond store tokenName (asked given) (begun (asked given) w)).1 := by
  rw [answer_response]
  exact if_neg h

lemma database_begun (r : Request) (w : World) : (begun r w).database = w.database :=
  World.database_of_ground (World.ground_write _ _ _ _)

end Service

namespace Nearness

variable {L : Nearness} {w v : World} {store store' : Store} {tokenName : Label} {r : Request}
  {header : Option Text} {made : Credentials → Credentials → Prop}

/-! ### Callers -/

/-- Two headers by which the caller of a request is looked up alike. -/
def Hears (L : Nearness) (store store' : Store) : Option Text → Option Text → Prop :=
  Option.Rel fun header header' => ∀ w v, L.near w v →
    L.Actions Eq (Service.look store header w) (Service.look store' header' v)

lemma guardCheck (h : L.near w v) (guard : Guard) {caller caller' : Caller}
    (hcaller : caller.Kin L.told caller') :
    L.Actions Eq (guard.check caller w) (guard.check caller' v) := by
  obtain ⟨identity, refusal⟩ := caller
  obtain ⟨identity', refusal'⟩ := caller'
  obtain ⟨rfl, hrefusal⟩ := hcaller
  unfold Guard.check
  cases hrefusal with
  | some hf => exact (writeLog h _ _ _).bind fun _ _ _ _ _ h₁ => ⟨.errors hf, h₁⟩
  | none =>
    cases identity' with
    | none => exact (writeLog h _ _ _).bind fun _ _ _ _ _ h₁ => fails _ h₁
    | some identity =>
      dsimp only
      split
      · exact (writeLog h _ _ _).bind fun _ _ _ _ _ h₁ => fails _ h₁
      · exact answers rfl h

lemma findCaller (h : L.near w v) (hheard : L.Hears store store' r.authorization header) :
    L.Actions (Caller.Kin L.told) (Service.findCaller store r w)
      (Service.findCaller store' (r.withHeader header) v) := by
  unfold Service.findCaller
  dsimp only
  generalize r.authorization = given at hheard
  cases hheard with
  | none => exact (writeLog h _ _ _).bind fun _ _ _ _ _ h₁ => answers ⟨rfl, .none⟩ h₁
  | some hlook =>
    refine Coupled.bind (outcome (hlook w v h)) fun x y w₁ v₁ hxy h₁ => ?_
    cases hxy with
    | answers hidentity =>
      obtain rfl := hidentity
      exact (writeLog h₁ _ _ _).bind fun _ _ _ _ _ h₂ => answers ⟨rfl, .none⟩ h₂
    | @errors f f' hf =>
      obtain ⟨cause, noted⟩ := f
      obtain ⟨cause', noted'⟩ := f'
      have hcause : Cause.Kin L.told cause cause' := hf.cause
      cases hcause with
      | session => exact ⟨.errors hf, h₁⟩
      | same =>
        dsimp only
        split
        · exact (writeLog h₁ _ _ _).bind fun _ _ _ _ _ h₂ => answers ⟨rfl, .some hf⟩ h₂
        · exact (writeLog h₁ _ _ _).bind fun _ _ _ _ _ h₂ => answers ⟨rfl, .some hf⟩ h₂
        · exact ⟨.errors hf, h₁⟩

/-! ### Endpoints -/

/-- Users are issued alike, with credentials that correspond. -/
def Issues (L : Nearness) (made : Credentials → Credentials → Prop) (store store' : Store)
    (tokenName : Label) : Prop :=
  ∀ actor username isStaff w v, L.near w v →
    L.Actions made (issueUser store actor username isStaff tokenName none w)
      (issueUser store' actor username isStaff tokenName none v)

lemma createUser (h : L.near w v) (caller : Identity)
    (hissues : L.Issues made store store' tokenName) :
    L.Handlers (Response.Same made) (Service.createUser store tokenName caller r w)
      (Service.createUser store' tokenName caller (r.withHeader header) v) := by
  unfold Service.createUser
  have hpayload : Service.payload (r.withHeader header) = Service.payload r := rfl
  rw [hpayload]
  refine Coupled.bind (V := Eq) ⟨.rfl' .same _, h⟩ fun fields _ w₁ v₁ hfields h₁ => ?_
  obtain rfl := hfields
  refine Coupled.bind (V := Eq) ⟨.rfl' .same _, h₁⟩ fun isStaff _ w₂ v₂ hflag h₂ => ?_
  obtain rfl := hflag
  refine Coupled.bind (perform (outcome (hissues _ _ _ w₂ v₂ h₂))) fun x y w₃ v₃ hxy h₃ => ?_
  cases hxy with
  | answers hmade => exact answers (.created hmade) h₃
  | @errors f f' hf =>
    obtain ⟨cause, noted⟩ := f
    obtain ⟨cause', noted'⟩ := f'
    have hcause : Cause.Kin L.told cause cause' := hf.cause
    cases hcause with
    | session ht => exact ⟨.errors (.failure (.session ht _ _)), h₃⟩
    | same =>
      dsimp only
      split
      · exact refuses _ h₃
      · exact refuses _ h₃
      · exact refuses _ h₃

lemma guarded {V : α → α' → Prop} (h : L.near w v) {guard : Guard} {caller caller' : Caller}
    (hcaller : caller.Kin L.told caller') {next : Identity → Handler α}
    {next' : Identity → Handler α'}
    (hnext : ∀ identity w₁ v₁, L.near w₁ v₁ → L.Handlers V (next identity w₁) (next' identity v₁)) :
    L.Handlers V ((Handler.perform (guard.check caller) >>= next) w)
      ((Handler.perform (guard.check caller') >>= next') v) := by
  refine Coupled.bind (perform (guardCheck h guard hcaller)) fun identity _ w₁ v₁ hidentity h₁ => ?_
  obtain rfl := hidentity
  exact hnext _ _ _ h₁

lemma take (h : L.near w v) (hstore : store.Kin L.told store') {caller caller' : Caller}
    (hcaller : caller.Kin L.told caller') (e : Endpoint)
    (hissues : e = .createUser → L.Issues made store store' tokenName) :
    L.Handlers (Response.Same made) (Service.take store tokenName caller r e w)
      (Service.take store' tokenName caller' (r.withHeader header) e v) := by
  cases e with
  | showStatus =>
    obtain ⟨hanswer, hworld⟩ := isAvailable h
    have hasked : L.Handlers Eq ((Store.isAvailable : Handler Bool) w)
        ((Store.isAvailable : Handler Bool) v) := ⟨.answers hanswer, hworld⟩
    refine Coupled.bind hasked fun available _ w₁ v₁ hsame h₁ => ?_
    obtain rfl := hsame
    cases available with
    | true => exact answers (.refl (show 200 ≠ 201 by decide)) h₁
    | false => exact refuses _ h₁
  | listUsers =>
    refine guarded h hcaller fun identity w₁ v₁ h₁ => ?_
    refine Coupled.bind (perform (users h₁ hstore)) fun list _ w₂ v₂ hlist h₂ => ?_
    obtain rfl := hlist
    exact answers (.refl (show 200 ≠ 201 by decide)) h₂
  | createUser =>
    exact guarded h hcaller fun identity w₁ v₁ h₁ => createUser h₁ identity (hissues rfl)
  | showCaller =>
    exact guarded h hcaller fun identity w₁ v₁ h₁ =>
      answers (.refl (show 200 ≠ 201 by decide)) h₁
  | deleteUser id =>
    refine guarded h hcaller fun identity w₁ v₁ h₁ => ?_
    refine Coupled.bind (perform (deleteUser h₁ hstore _)) fun _ _ w₂ v₂ _ h₂ => ?_
    exact Coupled.bind (perform (writeLog h₂ _ _ _)) fun _ _ w₃ v₃ _ h₃ =>
      answers (.refl (show 204 ≠ 201 by decide)) h₃
  | sendFile name => exact refuses _ h

/-! ### Requests -/

lemma respond (h : L.near w v) (hstore : store.Kin L.told store')
    (hheard : L.Hears store store' r.authorization header)
    (hissues : Destination.find r.method r.path r.forSocket = .endpoint .createUser →
      L.Issues made store store' tokenName) :
    L.Handlers (Response.Same made) (Service.respond store tokenName r w)
      (Service.respond store' tokenName (r.withHeader header) v) := by
  unfold Service.respond
  obtain ⟨hmisnamed, hplace⟩ := r.place_withHeader header
  rw [hmisnamed, hplace]
  refine Coupled.bind (perform (findCaller h hheard)) fun caller caller' w₁ v₁ hcaller h₁ => ?_
  by_cases hname : r.misnamed
  · simp only [if_pos hname]
    exact refuses _ h₁
  simp only [if_neg hname]
  cases hd : Destination.find r.method r.path r.forSocket with
  | endpoint e => exact take h₁ hstore hcaller e fun he => hissues (by rw [hd, he])
  | nowhere => exact refuses _ h₁
  | wrongMethod => exact refuses _ h₁
  | noSocket => exact refuses _ h₁
  | moved => exact answers (.refl (show 308 ≠ 201 by decide)) h₁
  | methods names => exact answers (.refl (show 200 ≠ 201 by decide)) h₁

lemma report (h : L.near w v) {p p' : Problem} (hp : p.Kin L.told p') :
    L.near (Service.report r p w) (Service.report (r.withHeader header) p' v) := by
  have hsame : ∀ p, L.near (Service.report r p w) (Service.report r p v) := by
    intro p
    unfold Service.report
    cases p with
    | failure cause =>
      dsimp only
      split
      · exact h
      · exact L.writeException h fun _ => ⟨rfl, rfl⟩
      · exact L.writeException h fun _ => ⟨rfl, rfl⟩
    | _ => exact h
  cases hp with
  | same => exact hsame _
  | failure hc =>
    cases hc with
    | same => exact hsame _
    | session hn => exact L.writeException h fun ht => absurd ht hn

lemma reported (h : L.near w v) {x y : Except Problem Response}
    (hxy : Parallel (Problem.Kin L.told) (Response.Same made) x y) :
    L.near (Service.reported r x w) (Service.reported (r.withHeader header) y v) := by
  cases hxy with
  | answers => exact h
  | errors hp => exact report h hp

lemma settled {x y : Except Problem Response}
    (hxy : Parallel (Problem.Kin L.told) (Response.Same made) x y) :
    Response.Same made (Service.settled x) (Service.settled y) := by
  cases hxy with
  | answers h => exact h
  | errors hp =>
    rw [Service.settled, Service.settled, hp.response]
    rename_i p _
    have hge : 400 ≤ p.response.status := p.status_ge
    exact .refl (by omega)

lemma rendered (method : String) {x y : Except Problem Response}
    (hxy : Parallel (Problem.Kin L.told) (Response.Same made) x y) :
    Response.Same made (Service.rendered method x) (Service.rendered method y) := by
  change Response.Same made
    (if method = "HEAD" then { Service.settled x with content := none } else Service.settled x)
    (if method = "HEAD" then { Service.settled y with content := none } else Service.settled y)
  split
  · exact (settled hxy).without_content
  · exact settled hxy

/-- Requests are answered alike in worlds that are near each other, and leave them near. -/
lemma answer (h : L.near w v) (hstore : store.Kin L.told store')
    (hheard : L.Hears store store' r.authorization header)
    (hissues : Destination.find (upperCase r.method) r.path r.forSocket = .endpoint .createUser →
      L.Issues made store store' tokenName) :
    Coupled (Response.Same made) L.near (Service.answer store tokenName r w)
      (Service.answer store' tokenName (r.withHeader header) v) := by
  have hbegun : L.near (Service.begun (Service.asked r) w)
      (Service.begun ((Service.asked r).withHeader header) v) := L.write h fun _ => rfl
  obtain ⟨hanswer, hworld⟩ :
      L.Handlers (Response.Same made) _
        (Service.respond store' tokenName ((Service.asked r).withHeader header) _) :=
    respond hbegun hstore hheard hissues
  have hlast : L.near (Service.reported (Service.asked r) _ _)
      (Service.reported ((Service.asked r).withHeader header) _ _) := reported hworld hanswer
  rw [Service.answer_apply, Service.answer_apply, Service.asked_withHeader]
  refine ⟨rendered r.method hanswer, L.write hlast fun _ => ?_⟩
  rw [L.clock hlast, L.clock hbegun, (settled hanswer).status]
  rfl

/-! ### Applications -/

lemma apart {V : α → α' → Prop} {a : StateM World α} {a' : StateM World α'} (h : L.near w v)
    (ha : ∀ w v, L.near w v → Coupled V L.near (a w) (a' v)) :
    Coupled V L.near (World.apart a w) (World.apart a' v) := by
  obtain ⟨hanswer, hworld⟩ := ha _ _ (L.bare h)
  exact ⟨hanswer, L.rejoin h hworld⟩

/-- Requests are served alike by applications of one manner, in worlds that are near each other. -/
lemma serve {a b : Application} {w₁ v₁ : World} (hw : Application.current w = (.ok a, w₁))
    (hv : Application.current v = (.ok b, v₁)) (hmanner : b.manner = a.manner) (h : L.near w₁ v₁)
    {draft : RequestDraft} (hbroken : (draft.withHeader header).isBroken = draft.isBroken)
    (hheard : ∀ store, L.Hears store store draft.authorization header)
    (hissues : ∀ r, draft.sent a.settings.serverName = .ok r →
      Destination.find (upperCase r.method) r.path r.forSocket = .endpoint .createUser →
      ∀ store, L.Issues made store store a.settings.tokenName) (given own : Store) :
    L.Actions (Response.Same made) (Application.serve given own draft w)
      (Application.serve given own (draft.withHeader header) v) := by
  have hserver : b.settings.serverName = a.settings.serverName :=
    congrArg Application.Manner.serverName hmanner
  have htoken : b.settings.tokenName = a.settings.tokenName :=
    congrArg Application.Manner.tokenName hmanner
  have hown : b.ownStore = a.ownStore := congrArg Application.Manner.ownStore hmanner
  unfold Application.serve
  rw [Action.bind_apply, Action.bind_apply, hw, hv]
  dsimp only
  rw [hserver, htoken, hown, Action.bind_apply, Action.bind_apply, Action.liftExcept_apply,
    Action.liftExcept_apply, draft.sent_withHeader header hbroken]
  cases hsent : draft.sent a.settings.serverName with
  | error f => exact fails f h
  | ok r =>
    have hparts := RequestDraft.parts_of_sent hsent
    have hanswer (store : Store) (w v : World) (h : L.near w v) :
        Coupled (Response.Same made) L.near (Service.answer store a.settings.tokenName r w)
          (Service.answer store a.settings.tokenName (r.withHeader header) v) := by
      refine answer h (.refl store) ?_ fun hd => hissues r hsent hd store
      rw [hparts]
      exact hheard store
    cases hstore : a.ownStore with
    | true =>
      obtain ⟨hresponse, hworld⟩ := apart h (hanswer own)
      exact ⟨.answers hresponse, hworld⟩
    | false =>
      obtain ⟨hresponse, hworld⟩ := hanswer given w₁ v₁ h
      exact ⟨.answers hresponse, hworld⟩

end Nearness

end BearerAccess
