import BearerAccess.Proofs.Call
import BearerAccess.Proofs.Parts

/-!
# Tables after failures

Inserts leave the stored tables alone until the commit, and what fails leaves them as they are.
-/

namespace BearerAccess

variable {α β : Type} {store : Store} {s : Session} {w w₁ w' : World}

/-! ### Parts of a block -/

/-- A part of a block that leaves the stored tables alone. -/
def Block.Spares (b : Block α) : Prop := ∀ s w, (b s w).2.database.tables = w.database.tables

namespace Block

lemma composes_spares : Composes Spares where
  pure _ _ _ := rfl
  fail _ _ _ _ := rfl
  bind {α β b g} hb hg s w := by
    have h := hb s w
    rw [bind_apply]
    rcases hx : b s w with ⟨⟨e | x, s₁⟩, w₁⟩
    · rw [hx] at h
      exact h
    · rw [hx] at h
      exact (hg x s₁ w₁).trans h

lemma spares_outside {a : Action α} (ha : a.Quiet) : (Block.outside a).Spares :=
  fun _ w => congrArg Database.tables (World.database_of_ground (ha w))

end Block

lemma Session.tables_release (s : Session) (db : Database) : (s.release db).tables = db.tables := by
  unfold release
  split <;> rfl

lemma Store.insert_spares (i : Option Stamp → Insertion α) : (store.insert i).Spares := by
  intro s w
  rcases hx : store.insert i s w with ⟨⟨r, s'⟩, w'⟩
  obtain ⟨settled, -, -, -, hcases⟩ := insert_cases hx
  obtain ⟨e, -, -, hg⟩ | ⟨e, -, -, hg⟩ | ⟨a, f, rows, rows', -, -, -, -, -, hg⟩ := hcases
  · exact congrArg (fun g : Ground => g.database.tables) hg
  · exact (congrArg (fun g : Ground => g.database.tables) hg).trans (s.tables_release _)
  · exact congrArg (fun g : Ground => g.database.tables) hg

lemma makeCredentials_spares (userId : String) (name : Text) (isStaff : Flag) (tokenName : Label)
    (expiresAt : Option DateTime) :
    (makeCredentials store userId name isStaff tokenName expiresAt).Spares :=
  Block.composes_spares.makeCredentials Store.insert_spares (Block.spares_outside newIdentifier_quiet)
    (Block.spares_outside fun _ => (newSecret_cases rfl).1) _ _ _ _ _

/-! ### Operations -/

/-- What an operation comes to: if it has failed, it has left the stored tables as they were. -/
def Careful (w : World) (x : Except Failure α × World) : Prop :=
  ∀ f, x.1 = .error f → x.2.database.tables = w.database.tables

namespace Careful

variable {x : Except Failure α × World}

lemma of_tables (h : x.2.database.tables = w.database.tables) : Careful w x := fun _ _ => h

lemma of_ground (h : x.2.ground = w.ground) : Careful w x :=
  of_tables (congrArg Database.tables (World.database_of_ground h))

lemma of_ok {a : α} (h : x.1 = .ok a) : Careful w x := by
  intro f hf
  rw [h] at hf
  cases hf

lemma after_tables (ht : w₁.database.tables = w.database.tables) (h : Careful w₁ x) :
    Careful w x := fun f hf => (h f hf).trans ht

lemma after_ground (hg : w₁.ground = w.ground) (h : Careful w₁ x) : Careful w x :=
  h.after_tables (congrArg Database.tables (World.database_of_ground hg))

lemma bind {a : Action α} {f : α → Action β} (h : Careful w (a w))
    (hf : ∀ y w₁, a w = (.ok y, w₁) → Careful w (f y w₁)) : Careful w ((a >>= f) w) := by
  rw [Action.bind_apply]
  rcases hx : a w with ⟨e | y, w₁⟩
  · rw [hx] at h
    exact fun _ _ => h e rfl
  · exact hf y w₁ hx

lemma map {a : Action α} (h : Careful w (a w)) (f : α → β) : Careful w ((f <$> a) w) := by
  rw [Action.map_apply]
  intro e he
  cases hx : (a w).1 with
  | error e' => exact h e' hx
  | ok y =>
    rw [hx] at he
    cases he

end Careful

namespace Store

lemma finish_careful (result : Except Failure α) (s : Session) (w : World) :
    Careful w (store.finish result s w) := by
  have hrolled : ∀ (faults : Faults) (f : Failure) (v : World), v.database = w.database →
      Careful w (rollBack faults f s v : Except Failure α × World) := by
    intro faults f v hv
    refine .of_tables ?_
    have htables : ({ v with database := s.release v.database }.detach s).database.tables =
        w.database.tables := by
      rw [World.database_of_ground (World.ground_detach _ _), ← hv]
      exact s.tables_release _
    unfold rollBack
    dsimp only
    cases faults.rollback with
    | none => exact htables
    | some message =>
      dsimp only
      rw [World.database_of_ground (World.ground_write _ _ _ _)]
      exact htables
  unfold finish
  dsimp only
  cases result with
  | error f => exact hrolled _ _ _ rfl
  | ok a =>
    dsimp only
    cases s.commit? (store.faults w.tasks) w.assigned.database with
    | none => exact hrolled _ _ _ rfl
    | some db => exact .of_ok rfl

lemma transaction_careful {body : Block α} (hbody : body.Spares) (w : World) :
    Careful w (store.transaction body w) := by
  have htables := hbody {} w
  unfold transaction
  rcases hx : body {} w with ⟨⟨result, s₁⟩, w₁⟩
  rw [hx] at htables
  exact (finish_careful result s₁ w₁).after_tables htables

lemma operate_careful (name : String) (query : Option Query) (work : Work α) (w : World) :
    Careful w (store.operate name query work w) := by
  obtain ⟨-, hg⟩ | ⟨a, rows, left, -, -, hr, -⟩ :=
    operate_cases (rfl : store.operate name query work w = (_, _))
  · exact .of_ground hg
  · exact .of_ok hr

lemma changeTables_careful (statement : String) (change : Option Tables → Option Tables)
    (w : World) : Careful w (changeTables statement change w) := by
  obtain ⟨-, hg⟩ | ⟨hr, -⟩ :=
    changeTables_cases (rfl : changeTables statement change w = (_, _))
  · exact .of_ground hg
  · exact .of_ok hr

end Store

lemma createUser_careful (username : Option Text) (isStaff : Flag) (tokenName : Label)
    (expiresAt : Option DateTime) (w : World) :
    Careful w (createUser store username isStaff tokenName expiresAt w) := by
  unfold createUser
  cases checkedUsername username with
  | error problem => exact .of_ground rfl
  | ok name =>
    refine .bind (.of_ground (newIdentifier_quiet w)) fun userId w₁ hid => ?_
    refine .after_ground (newIdentifier_quiet.ground_eq hid) ?_
    exact .bind (Store.transaction_careful (makeCredentials_spares _ _ _ _ _) w₁)
      fun made w₂ _ => .of_ok rfl

lemma issueUser_careful (actor : Option Identity) (username : Option Text) (isStaff : Flag)
    (tokenName : Label) (expiresAt : Option DateTime) (w : World) :
    Careful w (issueUser store actor username isStaff tokenName expiresAt w) := by
  obtain ⟨cause, -, hrefused⟩ | ⟨a, -, -, hcreates⟩ := issueUser_decides actor
  · rw [hrefused]
    exact .of_ground rfl
  · rw [hcreates]
    exact createUser_careful _ _ _ _ w

lemma bootstrapStaffUser_careful (username : Option Text) (tokenName : Label) (w : World) :
    Careful w (bootstrapStaffUser store username tokenName w) :=
  .after_ground (World.ground_write w _ _ _) (createUser_careful _ _ _ _ _)

namespace Call

lemma perform_careful (c : Call) (w : World) : Careful w (c.perform store w) := by
  have hparts := Block.composes_spares
  cases c with
  | insertUser id username isStaff =>
    exact (Store.transaction_careful (hparts.insertUser Store.insert_spares _ _ _) w).map _
  | insertToken id userId secret name expiresAt =>
    exact (Store.transaction_careful (hparts.insertToken Store.insert_spares _ _ _ _ _) w).map _
  | userByToken secret now => exact .of_ground ((store.userByToken_quiet secret now).map _ w)
  | authenticate secret now => exact .of_ground ((authenticate_quiet store secret now).map _ w)
  | userById id => exact (Store.operate_careful _ _ _ w).map _
  | userByUsername username => exact (Store.operate_careful _ _ _ w).map _
  | users => exact (Store.operate_careful _ _ _ w).map _
  | tokensOf userId => exact (Store.operate_careful _ _ _ w).map _
  | deleteUser id => exact (Store.operate_careful _ _ _ w).map _
  | deleteToken id => exact (Store.operate_careful _ _ _ w).map _
  | isAvailable => exact .of_ground (Store.isAvailable_quiet w)
  | createTables => exact (Store.changeTables_careful _ _ w).map _
  | dropTables => exact (Store.changeTables_careful _ _ w).map _
  | disconnect => exact .of_ground rfl
  | issue actor username isStaff tokenName expiresAt =>
    exact (issueUser_careful _ _ _ _ _ w).map _
  | bootstrap username tokenName => exact (bootstrapStaffUser_careful _ _ w).map _

/-- A call that fails leaves the ground of the rows alone. -/
lemma perform_error_ground {c : Call} {f : Failure} (h : c.perform store w = (.error f, w')) :
    w'.ground = w.ground := by
  have hc : w.Commits [] w' := by
    have hcommits := perform_commits h
    cases c <;> exact hcommits
  have hcareful : Careful w (c.perform store w) := perform_careful c w
  rw [h] at hcareful
  exact hc.ground_eq (hcareful f rfl)

end Call

end BearerAccess
