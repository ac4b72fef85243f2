import BearerAccess.Proofs.AlikeService
import BearerAccess.Proofs.Careful

/-!
# What a response tells

A response with the status of an error tells that the stored rows are as they were: an endpoint that
has changed them answers that all went well.
-/

namespace BearerAccess

variable {store : Store} {tokenName : Label} {r : Request} {w w' : World}

namespace Service

/-- What answering comes to: a response that tells of no error, or an error that has left the ground
of the rows alone. -/
def Told (w : World) (x : Except Problem Response) (w' : World) : Prop :=
  match x with
  | .ok response => response.status < 400
  | .error _ => w'.ground = w.ground

variable {x : Except Problem Response}

lemma Told.after_ground {w₁ : World} (hg : w₁.ground = w.ground) (h : Told w₁ x w') :
    Told w x w' := by
  cases x with
  | ok response => exact h
  | error p => exact Eq.trans h hg

lemma createUser_told {caller : Identity} (h : createUser store tokenName caller r w = (x, w')) :
    Told w x w' := by
  unfold createUser at h
  obtain ⟨p, hfields, rfl⟩ | ⟨fields, w₁, hfields, hrest⟩ := Handler.bind_cases h
  · obtain ⟨-, rfl⟩ := Prod.mk.inj hfields
    rfl
  obtain ⟨-, rfl⟩ := Prod.mk.inj hfields
  obtain ⟨p, hflag, rfl⟩ | ⟨isStaff, w₂, hflag, hissue⟩ := Handler.bind_cases hrest
  · obtain ⟨-, rfl⟩ := Prod.mk.inj hflag
    rfl
  obtain ⟨-, rfl⟩ := Prod.mk.inj hflag
  obtain ⟨p, hissued, rfl⟩ | ⟨issued, w₃, hissued, hanswer⟩ := Handler.bind_cases hissue
  · cases hissued
  rcases hmade : issueUser store (some caller) (some (requestedUsername fields)) (.value isStaff)
    tokenName none w with ⟨result, w₄⟩
  obtain ⟨rfl, rfl⟩ : issued = result ∧ w₃ = w₄ := by
    obtain ⟨f, hf, -⟩ | ⟨y, hy, he⟩ := Handler.perform_cases hissued
    · cases hf
    · rw [outcome_apply, hmade] at hy
      cases hy
      cases he
      exact ⟨rfl, rfl⟩
  cases issued with
  | ok credentials =>
    cases hanswer
    exact show 201 < 400 by decide
  | error failure =>
    have hcall : (Call.issue (some caller) (some (requestedUsername fields)) (.value isStaff)
        tokenName none).perform store w = (.error failure, w₃) := by
      rw [Call.perform, Action.map_apply, hmade]
      rfl
    have hg := Call.perform_error_ground hcall
    obtain ⟨cause, noted⟩ := failure
    cases cause <;> cases hanswer
    all_goals exact hg

lemma guarded_told {guard : Guard} {caller : Caller} {next : Identity → Handler Response}
    (h : (Handler.perform (guard.check caller) >>= next) w = (x, w'))
    (hnext : ∀ identity w₁, next identity w₁ = (x, w') → Told w₁ x w') : Told w x w' := by
  obtain ⟨p, hguard, rfl⟩ | ⟨identity, w₁, hguard, hrest⟩ := Handler.bind_cases h
  · exact Handler.perform_quiet (Guard.check_quiet _ _) hguard
  · exact (hnext identity w₁ hrest).after_ground
      (Handler.perform_quiet (Guard.check_quiet _ _) hguard)

lemma take_told {caller : Caller} {e : Endpoint} (h : take store tokenName caller r e w = (x, w')) :
    Told w x w' := by
  cases e with
  | showStatus =>
    obtain ⟨p, hasked, rfl⟩ | ⟨available, w₁, hasked, hrest⟩ := Handler.bind_cases h
    · cases hasked
    obtain ⟨-, rfl⟩ := Prod.mk.inj hasked
    cases available with
    | true =>
      cases hrest
      exact show 200 < 400 by decide
    | false =>
      cases hrest
      exact Store.isAvailable_quiet w
  | listUsers =>
    refine guarded_told h fun identity w₁ hrest => ?_
    obtain ⟨p, hlist, rfl⟩ | ⟨users, w₂, hlist, hanswer⟩ := Handler.bind_cases hrest
    · exact Handler.perform_quiet (Store.users_quiet _) hlist
    · cases hanswer
      exact show 200 < 400 by decide
  | createUser => exact guarded_told h fun identity w₁ hrest => createUser_told hrest
  | showCaller =>
    refine guarded_told h fun identity w₁ hrest => ?_
    cases hrest
    exact show 200 < 400 by decide
  | deleteUser id =>
    refine guarded_told h fun identity w₁ hrest => ?_
    obtain ⟨p, hdelete, rfl⟩ | ⟨u, w₂, hdelete, hlast⟩ := Handler.bind_cases hrest
    · obtain ⟨f, hf, -⟩ | ⟨y, -, he⟩ := Handler.perform_cases hdelete
      · obtain ⟨-, hg⟩ | ⟨a, rows, left, -, -, hok, -⟩ := Store.operate_cases hf
        · exact hg
        · cases hok
      · cases he
    · obtain ⟨p, hnote, rfl⟩ | ⟨u, w₃, hnote, hanswer⟩ := Handler.bind_cases hlast
      · cases hnote
      · cases hanswer
        exact show 204 < 400 by decide
  | sendFile name =>
    cases h
    rfl

lemma respond_told (h : respond store tokenName r w = (x, w')) : Told w x w' := by
  obtain ⟨p, hfind, rfl⟩ | ⟨caller, w₁, hfind, hrest⟩ := Handler.bind_cases h
  · exact Handler.perform_quiet (findCaller_quiet _ _) hfind
  refine Told.after_ground (Handler.perform_quiet (findCaller_quiet _ _) hfind) ?_
  by_cases hname : r.misnamed
  · simp only [if_pos hname] at hrest
    cases hrest
    rfl
  simp only [if_neg hname] at hrest
  cases hd : Destination.find r.method r.path r.forSocket with
  | endpoint e =>
    rw [hd] at hrest
    exact take_told hrest
  | methods names =>
    rw [hd] at hrest
    cases hrest
    exact show 200 < 400 by decide
  | moved =>
    rw [hd] at hrest
    cases hrest
    exact show 308 < 400 by decide
  | wrongMethod =>
    rw [hd] at hrest
    cases hrest
    rfl
  | noSocket =>
    rw [hd] at hrest
    cases hrest
    rfl
  | nowhere =>
    rw [hd] at hrest
    cases hrest
    rfl

/-- A request that is answered with the status of an error leaves the ground of the rows alone. -/
lemma answer_told {response : Response} (h : answer store tokenName r w = (response, w'))
    (hstatus : 400 ≤ response.status) : w'.ground = w.ground := by
  obtain ⟨x, w₁, w₂, hbefore, hafter, hx, rfl⟩ := answer_cases h
  have htold := respond_told hx
  rw [status_rendered] at hstatus
  cases x with
  | ok response => exact absurd (show response.status < 400 from htold) (Nat.not_lt.mpr hstatus)
  | error p => exact hafter.trans (Eq.trans htold hbefore)

lemma surroundings_answer (store : Store) (tokenName : Label) (r : Request) (w : World) :
    (answer store tokenName r w).2.surroundings = w.surroundings :=
  World.surroundings_of_alike (fun _ _ _ h => (answer_alike h fun _ : False => .inl rfl).2) w

end Service

end BearerAccess
