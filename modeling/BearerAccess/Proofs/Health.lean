import BearerAccess.Proofs.Disturbance

/-!
# The health of the store

The status of the service is the condition of the store, whoever asks for it: a request that presents
no secret, or one whose owner can be looked up or is not there, is told whether the store is at hand.
The caller is looked up first, though, and a lookup that the store disturbs ends the request.
-/

namespace BearerAccess

variable {store : Store} {tokenName : Label} {r : Request} {w : World}

namespace Service

lemma take_showStatus (store : Store) (tokenName : Label) (r : Request) (caller : Caller)
    (w : World) : ∃ w', take store tokenName caller r .showStatus w =
    (if w.database.reachable then .ok (.document 200 (.record [("status", .ofString "OK")]))
      else .error .storeSilent, w') := by
  have hasked : (Store.isAvailable : Handler Bool) w =
      (.ok w.database.reachable, (Store.isAvailable w).2) :=
    congrArg (fun b => (Except.ok b, (Store.isAvailable w).2)) (Store.isAvailable_fst w)
  refine ⟨(Store.isAvailable w).2, ?_⟩
  unfold take
  dsimp only
  rw [Handler.bind_apply, hasked]
  cases w.database.reachable <;> rfl

/-- A status request is told the condition of the store, whatever secret it presents, if any, unless
the owner of the secret cannot be looked up: that is an internal error, whatever the condition of the
store. -/
theorem answer_status (store : Store) (tokenName : Label) (r : Request) (w : World)
    (hmethod : upperCase r.method = "GET") (hpath : r.path = "/status")
    (hsocket : r.forSocket = false) :
    let response := (answer store tokenName r w).1
    (Disturbed store r.authorization w → ∃ reason,
      response = .document 500 (.record [("reason", .string reason)])) ∧
    (¬Disturbed store r.authorization w → r.misnamed = true →
      response = .document 400 (.record [("reason", .string Problem.misunderstood)])) ∧
    (¬Disturbed store r.authorization w → r.misnamed = false →
      response = if (Store.isAvailable w).1 then .document 200 (.record [("status", .ofString "OK")])
        else .document 503 (.record [("reason", .ofString "Database is not available")])) := by
  have hhead : r.method ≠ "HEAD" := by
    intro hh
    rw [hh] at hmethod
    exact absurd hmethod (by decide)
  have hplace : Destination.find (asked r).method (asked r).path (asked r).forSocket =
      .endpoint .showStatus := by
    change Destination.find (upperCase r.method) r.path r.forSocket = _
    rw [hmethod, hpath, hsocket]
    decide +kernel
  have hbegun : Disturbed store (asked r).authorization (begun (asked r) w) ↔
      Disturbed store r.authorization w := disturbed_write
  dsimp only
  rw [answer_of_not_head hhead, ← hbegun]
  refine ⟨fun hd => ?_, fun hu hname => ?_, fun hu hname => ?_⟩
  · obtain ⟨cause, w', hresponse, hstatus⟩ := respond_of_disturbed tokenName hd
    rw [hresponse]
    exact ⟨_, congrArg (Response.document · _) hstatus⟩
  all_goals
    obtain ⟨caller, w', hfound⟩ := findCaller_of_undisturbed hu
    rw [respond_of_caller hfound, show (asked r).misnamed = r.misnamed from rfl, hname]
  · rfl
  · obtain ⟨last, hlast⟩ := take_showStatus store tokenName (asked r) caller w'
    have hkept : w'.database = w.database :=
      (World.database_of_ground ((findCaller_quiet _ _).ground_eq hfound)).trans (database_begun _ w)
    rw [if_neg Bool.false_ne_true, hplace]
    dsimp only
    rw [hlast, hkept, Store.isAvailable_fst]
    cases w.database.reachable <;> rfl

/-- A status request, with a secret or without one. -/
def statusRequest (header : Option Text) : Request :=
  { method := "GET", path := "/status", authorization := header }

/-- A world whose database cannot be reached. -/
def silent : World := { database := { reachable := false } }

theorem answer_status_silent :
    (upperCase (statusRequest none).method = "GET" ∧ (statusRequest none).path = "/status" ∧
      (statusRequest none).forSocket = false) ∧
    (answer {} .missing (statusRequest none) silent).1 =
      .document 503 (.record [("reason", .ofString "Database is not available")]) := by
  have hmethod : upperCase (statusRequest none).method = "GET" := by decide +kernel
  have hundisturbed : ¬Disturbed {} (statusRequest none).authorization silent := by
    rintro ⟨secret, hsecret, -⟩
    cases hsecret
  exact ⟨⟨hmethod, rfl, rfl⟩,
    (answer_status {} .missing (statusRequest none) silent hmethod rfl rfl).2.2 hundisturbed rfl⟩

/-- The exception is needed: where the database cannot be reached, a status request that presents a
secret is not told so. -/
theorem answer_status_disturbed : ¬∀ (header : Option Text) (w : World),
    (answer {} .missing (statusRequest header) w).1.status =
      if (Store.isAvailable w).1 then 200 else 503 := by
  intro h
  have hstatus := h (some (Text.ofString "Bearer x")) silent
  revert hstatus
  decide +kernel

end Service

end BearerAccess
