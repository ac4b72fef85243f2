import BearerAccess.Proofs.Operation
import BearerAccess.Store.Call

/-!
# Failing operations

What a single operation of the store fails with. Whatever hinders it is a failure of the store that
names the operation; else a row is missing, or what the operation is given cannot be used. All of it
is raised before the rollback, and a rollback that fails takes its place.
-/

namespace BearerAccess

variable {α : Type} {store : Store} {w w' : World} {f : Failure}

/-- What an operation fails with after its rollback, when a cause has been raised in it. -/
def undone (faults : Faults) (cause : Cause) : Failure :=
  match faults.rollback with
  | none => cause
  | some message => Cause.session message

/-- Something keeps an operation from its work: a method of its session fails, there are no rows to
be had, or they cannot be changed. -/
def Hindered (faults : Faults) (db : Database) : Prop :=
  (faults.query.isSome ∨ faults.flush.isSome ∨ faults.delete.isSome ∨ faults.commit.isSome) ∨
    db.rows? = none ∨ db.isShut = true

namespace Store

lemma undo_eq (faults : Faults) (cause : Cause) (w : World) :
    undo faults cause w = ((.error (undone faults cause) : Except Failure α), w) := by
  unfold undo undone
  cases faults.rollback with
  | none => rfl
  | some message => rfl

lemma putQuery_error {rows? : Option Tables} {query : Option Query} {c c' : Connection}
    {e : Rejection} (h : putQuery rows? query c = (.error e, c')) :
    (e = .refused ∧ rows? = none) ∨ ∃ position run, e = .unencodable position run ∧
      query.bind (fun q => surrogates? q.subject) = some (position, run) := by
  have hobstacle : query.bind (textObstacle? ·.subject) =
      (query.bind fun q => surrogates? q.subject).map fun s => .unencodable s.1 s.2 := by
    cases query <;> rfl
  unfold putQuery at h
  rw [hobstacle] at h
  cases hs : query.bind fun q => surrogates? q.subject with
  | none =>
    rw [hs] at h
    cases rows? <;> cases h
    exact .inl ⟨rfl, rfl⟩
  | some found =>
    rw [hs] at h
    have hfound : (e = .unencodable found.1 found.2) → (e = .refused ∧ rows? = none) ∨
        ∃ position run, e = .unencodable position run ∧ some found = some (position, run) :=
      fun he => .inr ⟨found.1, found.2, he, rfl⟩
    cases rows? with
    | none =>
      obtain ⟨he, -⟩ := Prod.mk.inj h
      split at he
      · exact hfound (Except.error.inj he).symm
      · exact .inl ⟨(Except.error.inj he).symm, rfl⟩
    | some rows =>
      obtain ⟨he, -⟩ := Prod.mk.inj h
      exact hfound (Except.error.inj he).symm

/-- What may be raised in a session that an operation is carried out in: it is hindered, its text
cannot be handed over, or it fails on the rows that it finds. -/
inductive Raises (faults : Faults) (db : Database) (name : String) (query : Option Query)
    (work : Work α) : Cause → Prop where
  | hindered (h : Hindered faults db) : Raises faults db name query work (.store (.inOperation name))
  | unencodable {position : Nat} {run : List CodePoint}
      (h : query.bind (fun q => surrogates? q.subject) = some (position, run)) :
      Raises faults db name query work (.unencodable position run)
  | worked {rows : Tables} {cause : Cause} (hrows : db.rows? = some rows)
      (hwork : work rows = .error cause) : Raises faults db name query work cause

/-- An operation fails with what is raised in its session, unless its rollback fails. -/
lemma operate_error {name : String} {query : Option Query} {work : Work α}
    (h : store.operate name query work w = (.error f, w')) :
    ∃ cause, f = undone (store.faults w.tasks) cause ∧
      Raises (store.faults w.tasks) w.database name query work cause := by
  have hundone : ∀ (cause : Cause) (w₁ : World),
      Raises (store.faults w.tasks) w.database name query work cause →
      undo (store.faults w.tasks) cause w₁ = ((.error f : Except Failure α), w') →
      ∃ cause, f = undone (store.faults w.tasks) cause ∧
        Raises (store.faults w.tasks) w.database name query work cause := by
    intro cause w₁ hraises hu
    rw [undo_eq] at hu
    exact ⟨cause, (Except.error.inj (Prod.mk.inj hu).1).symm, hraises⟩
  unfold operate at h
  simp only [Action.bind_apply, Action.get_apply, Action.modify_apply] at h
  split at h
  · rename_i hclosed
    simp only [Bool.or_eq_true, Bool.not_eq_true', World.assigned] at hclosed
    refine hundone _ _ (.hindered ?_) h
    obtain (hquery | hflush) | hreach := hclosed
    · exact .inl (.inl hquery)
    · exact .inl (.inr (.inl hflush))
    · exact .inr (.inl (by rw [Database.rows?, hreach, if_neg Bool.false_ne_true]))
  simp only [Action.bind_apply, Action.get_apply, Action.modify_apply, Action.modifyGet_apply] at h
  have hdb : w.assigned.connect.2.database = w.database :=
    World.database_of_ground (World.ground_connect _)
  generalize w.assigned.connect.2 = w₁ at h hdb
  rcases hput : putQuery w₁.database.rows? query w.assigned.connect.1 with ⟨answer, c⟩
  rw [hput] at h
  rw [hdb] at hput
  cases answer with
  | error e =>
    obtain ⟨rfl, hnone⟩ | ⟨position, run, rfl, hs⟩ := putQuery_error hput
    · exact hundone _ _ (.hindered (.inr (.inl hnone))) h
    · exact hundone _ _ (.unencodable hs) h
  | ok rows =>
    have hrows := putQuery_ok hput
    dsimp only at h
    rcases hwork : work rows with cause | ⟨a, left⟩
    · rw [hwork] at h
      exact hundone _ _ (.worked hrows hwork) h
    rw [hwork] at h
    cases left with
    | none =>
      dsimp only at h
      split at h
      · rename_i hcommit
        exact hundone _ _ (.hindered (.inl (.inr (.inr (.inr hcommit))))) h
      · cases h
    | some rows' =>
      dsimp only at h
      split at h
      · rename_i hshut
        simp only [Bool.or_eq_true, hdb] at hshut
        refine hundone _ _ (.hindered ?_) h
        obtain (hdelete | hcommit) | hshut := hshut
        · exact .inl (.inr (.inr (.inl hdelete)))
        · exact .inl (.inr (.inr (.inr hcommit)))
        · exact .inr (.inr hshut)
      · cases h

end Store

lemma moment_error {now : Option DateTime} (h : moment now w = (.error f, w')) :
    f = Cause.range .date ∧ w.askedAt? now = none := by
  cases now with
  | none =>
    simp only [moment, presentTime, Action.bind_apply, Action.get_apply] at h
    cases hclock : DateTime.ofClock? w.clock with
    | none =>
      rw [hclock] at h
      cases h
      exact ⟨rfl, by rw [World.askedAt?, World.stamp?, hclock, Option.map_none]⟩
    | some u =>
      rw [hclock] at h
      cases h
  | some now =>
    simp only [moment, DateTime.universal, Action.liftExcept_apply] at h
    cases hnow : now.toUniversal? with
    | none =>
      rw [hnow] at h
      cases h
      exact ⟨rfl, by rw [World.askedAt?, hnow, Option.map_none]⟩
    | some u =>
      rw [hnow] at h
      cases h

namespace Call

/-- The name of a lookup, a listing or a removal, under which a failure of the store is told. -/
def operation? : Call → Option String
  | userByToken _ _ => some "get_user_by_token"
  | userById _ => some "get_user_by_id"
  | userByUsername _ => some "get_user_by_username"
  | users => some "list_users"
  | tokensOf _ => some "list_user_tokens"
  | deleteUser _ => some "delete_user"
  | deleteToken _ => some "delete_token"
  | _ => none

/-- The text that a lookup, a listing or a removal hands to the database. -/
def subject : Call → Option Text
  | userByToken t _ | userById t | userByUsername t | tokensOf t | deleteUser t | deleteToken t => t
  | _ => none

/-- The row that a call is about is not there, and the cause says so. -/
def Misses (rows : Tables) : Call → Cause → Prop
  | userById id, .noSuchUser | deleteUser id, .noSuchUser => ∀ u ∈ rows.users, some u.id ≠ stored? id
  | userByUsername username, .noSuchUser => ∀ u ∈ rows.users, some u.username ≠ stored? username
  | deleteToken id, .noSuchToken named =>
    named = stored? id ∧ ∀ k ∈ rows.tokens, some k.id ≠ stored? id
  | _, _ => False

/-- The moment that a call is asked about cannot be told. -/
def Timeless (w : World) : Call → Prop
  | userByToken _ now => w.askedAt? now = none
  | _ => False

/-- How a lookup, a listing or a removal can fail: it is hindered, its row is missing, or its text or
its moment cannot be used. The last is found out before there is a session to roll back. -/
inductive Fails (store : Store) (w : World) (call : Call) (operation : String) : Failure → Prop where
  | hindered (h : Hindered (store.faults w.tasks) w.database) :
      Fails store w call operation
        (undone (store.faults w.tasks) (.store (.inOperation operation)))
  | missing {cause : Cause} (h : call.Misses w.stored cause) :
      Fails store w call operation (undone (store.faults w.tasks) cause)
  | unencodable {position : Nat} {run : List CodePoint}
      (h : surrogates? call.subject = some (position, run)) :
      Fails store w call operation (undone (store.faults w.tasks) (.unencodable position run))
  | timeless (h : call.Timeless w) : Fails store w call operation (Cause.range .date)

/-- A call that is a single operation fails as this operation does. -/
lemma fails_of_operate {call : Call} {name : String} {query : Option Store.Query}
    {work : Store.Work α}
    {a : α → Answer} (hsubject : query.bind (fun q => surrogates? q.subject) = surrogates? call.subject)
    (hwork : ∀ rows cause, work rows = .error cause → call.Misses rows cause)
    (h : (a <$> store.operate name query work) w = (.error f, w')) :
    call.Fails store w name f := by
  rw [Action.map_apply] at h
  rcases hx : store.operate name query work w with ⟨f' | x, w₁⟩
  · rw [hx] at h
    cases h
    obtain ⟨cause, rfl, hraises⟩ := Store.operate_error hx
    cases hraises with
    | hindered hh => exact .hindered hh
    | unencodable hs => exact .unencodable (hsubject ▸ hs)
    | worked hrows he =>
      have hstored : w.stored = _ := congrArg (·.getD {}) (Database.tables_of_rows hrows)
      exact .missing (hstored ▸ hwork _ _ he)
  · rw [hx] at h
    cases h

lemma missing_user {row : Option UserRow} {cause : Cause} {missed : Prop}
    (h : Store.required row = .error cause) (hnone : row = none → missed) :
    cause = .noSuchUser ∧ missed := by
  cases row with
  | none => exact ⟨(Except.error.inj h).symm, hnone rfl⟩
  | some row => cases h

/-- Every lookup, every listing and every removal fails in one of these ways. While no rollback
fails, that is with a failure of the store under the name of the operation, or because the row is
missing, or on what was given; and a rollback that fails takes the place of all these. -/
theorem perform_error {call : Call} {operation : String} (hname : call.operation? = some operation)
    (h : call.perform store w = (.error f, w')) : call.Fails store w operation f := by
  have hfind : ∀ {ι : Type} {list : List ι} {key : ι → String} {wanted : Option String},
      list.find? (fun x => some (key x) = wanted) = none → ∀ x ∈ list, some (key x) ≠ wanted := by
    intro ι list key wanted hnone x hx
    simpa using List.find?_eq_none.mp hnone x hx
  cases call with
  | userByToken secret now =>
    cases hname
    rw [perform, Action.map_apply, Store.userByToken, Action.bind_apply] at h
    obtain ⟨⟨e, hmoment⟩, -⟩ | ⟨u, hmoment, -⟩ := moment_cases now w
    · rw [hmoment] at h
      cases h
      obtain ⟨rfl, hnone⟩ := moment_error hmoment
      exact .timeless hnone
    · rw [hmoment] at h
      rw [← Action.map_apply] at h
      exact fails_of_operate rfl (fun rows cause he => by cases he) h
  | userById id =>
    cases hname
    refine fails_of_operate rfl (fun rows cause he => ?_) h
    obtain ⟨rfl, hmissed⟩ := missing_user he hfind
    exact hmissed
  | userByUsername username =>
    cases hname
    refine fails_of_operate rfl (fun rows cause he => ?_) h
    obtain ⟨rfl, hmissed⟩ := missing_user he hfind
    exact hmissed
  | users =>
    cases hname
    exact fails_of_operate rfl (fun rows cause he => by cases he) h
  | tokensOf userId =>
    cases hname
    exact fails_of_operate rfl (fun rows cause he => by cases he) h
  | deleteUser id =>
    cases hname
    refine fails_of_operate rfl (fun rows cause he => ?_) h
    cases hfound : rows.userById? (stored? id) with
    | none =>
      rw [hfound] at he
      cases he
      exact hfind hfound
    | some row =>
      rw [hfound] at he
      cases he
  | deleteToken id =>
    cases hname
    refine fails_of_operate rfl (fun rows cause he => ?_) h
    cases hfound : rows.tokenById? (stored? id) with
    | none =>
      rw [hfound] at he
      cases he
      exact ⟨rfl, hfind hfound⟩
    | some row =>
      rw [hfound] at he
      cases he
  | _ => cases hname

/-- The query and the rollback of a session fail. -/
def brokenTwice : Store := ⟨fun _ => { query := some "boom", rollback := some "rb" }⟩

/-- The lookup of x fails with the failure of its rollback, which is raised after that of its query. -/
theorem perform_error_broken :
    ((userById (some "x")).operation? = some "get_user_by_id" ∧
      (userById (some "x")).perform brokenTwice {} =
        (.error (Cause.session "rb"), ({} : World).assigned.raising (some (.method "boom")))) ∧
      (userById (some "x")).Fails brokenTwice {} "get_user_by_id" (Cause.session "rb") := by
  have hname : (userById (some "x")).operation? = some "get_user_by_id" := rfl
  have hperform : (userById (some "x")).perform brokenTwice {} =
      (.error (Cause.session "rb"), ({} : World).assigned.raising (some (.method "boom"))) := rfl
  exact ⟨⟨hname, hperform⟩, perform_error hname hperform⟩

/-- Not every failure is one of the store under the name of the operation, or that of a missing
row. -/
theorem perform_unexplained : ¬∀ (store : Store) (w : World) (call : Call) (operation : String)
    (f : Failure), call.operation? = some operation → (call.perform store w).1 = .error f →
      f.cause = .noSuchUser ∨ (∃ id, f.cause = .noSuchToken id) ∨
        f.cause = .store (.inOperation operation) := by
  intro hall
  obtain hcause | ⟨id, hcause⟩ | hcause :=
    hall brokenTwice {} (userById (some "x")) "get_user_by_id" (Cause.session "rb") rfl rfl
  all_goals cases hcause

end Call

end BearerAccess
