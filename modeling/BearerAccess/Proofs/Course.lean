import BearerAccess.Proofs.Failing

/-!
# The course of an operation

A single operation visits the database and then concludes: it has one equation, from which its outcome
can be read for every database and every plan of failures. An operation of which a statement or the
commit breaks in the store ends with a failure that no missing row can be mistaken for.
-/

namespace BearerAccess

variable {α : Type} {store : Store} {w w' : World} {name : String} {query : Option Store.Query}
  {work : Store.Work α}

namespace World

/-- A query is put to the database on the connection that is next, which is given back at once. -/
def visit (query : Option Store.Query) (w : World) : Except Rejection Tables × World :=
  let put := Store.putQuery w.connect.2.database.rows? query w.connect.1
  (put.1, w.connect.2.giveBack put.2)

/-- The world with the rows that an operation leaves, if it leaves any. -/
def leave (w : World) : Option Tables → World
  | none => w
  | some left => { w with database := { w.database with tables := some left } }

@[simp] lemma raising_none (w : World) : w.raising none = w := rfl

/-- Where there are rows, they are given to every query whose text can be handed over. -/
lemma visit_fst {rows : Tables} (hrows : w.database.rows? = some rows)
    (query : Option Store.Query) : (w.visit query).1 =
      match query.bind (textObstacle? ·.subject) with
      | some obstacle => .error obstacle
      | none => .ok rows := by
  have hdb : w.connect.2.database = w.database := database_of_ground (ground_connect _)
  rw [visit, hdb, hrows]
  unfold Store.putQuery
  cases query.bind (textObstacle? ·.subject) <;> rfl

end World

/-- What is raised in an operation, and what that is raised from in its turn. -/
structure Raised where
  cause : Cause
  origin : Option Origin := none

/-- A statement of an operation or its commit fails. -/
def Raised.broken (name : String) (origin : Origin) : Raised :=
  ⟨.store (.inOperation name), some origin⟩

/-- What is raised in an operation whose query is rejected. -/
def Rejection.raised (name : String) (query : Option Store.Query) : Rejection → Raised
  | .unencodable position run => { cause := .unencodable position run }
  | _ => .broken name (Store.refusal query)

/-- What is raised in an operation that breaks: a failure of the store, or that the text of the query
cannot be handed over. -/
def Cause.Broken (name : String) (c : Cause) : Prop :=
  c = .store (.inOperation name) ∨ ∃ position run, c = .unencodable position run

lemma Rejection.raised_broken (name : String) (query : Option Store.Query) (e : Rejection) :
    Cause.Broken name (e.raised name query).cause := by
  cases e with
  | unencodable position run => exact .inr ⟨position, run, rfl⟩
  | _ => exact .inl rfl

namespace Store

/-- How an operation ends after its query, by what it makes of the rows. -/
def conclude (faults : Faults) (shut : Bool) (name : String) (query : Option Query) :
    Except Cause (α × Option Tables) → Except Raised (α × Option Tables)
  | .error cause => .error { cause }
  | .ok (a, none) =>
    if faults.commit.isSome then .error (.broken name (.first [faults.commit] (refusal query)))
    else .ok (a, none)
  | .ok (a, some left) =>
    if faults.delete.isSome || faults.commit.isSome || shut then
      .error (.broken name (.first [faults.delete, faults.commit] (refusal query)))
    else .ok (a, some left)

/-- An operation ends with what is raised in it, after its rollback. -/
def fallOut (faults : Faults) (x : Raised) (w : World) : Except Failure α × World :=
  (.error (undone faults x.cause), w.raising x.origin)

lemma breakOff_eq (faults : Faults) (name : String) (origin : Origin) (w : World) :
    breakOff faults name origin w =
      (fallOut faults (.broken name origin) w : Except Failure α × World) := by
  rw [breakOff_apply, undo_eq]
  rfl

lemma undo_fallOut (faults : Faults) (cause : Cause) (w : World) :
    undo faults cause w = (fallOut faults { cause } w : Except Failure α × World) := by
  rw [undo_eq]
  rfl

/-- The whole course of an operation. -/
lemma operate_apply (store : Store) (name : String) (query : Option Query) (work : Work α)
    (w : World) : store.operate name query work w =
      let faults := store.faults w.tasks
      if faults.query.isSome || faults.flush.isSome || !w.database.reachable then
        fallOut faults (.broken name (.first [faults.query, faults.flush] .unopened)) w.assigned
      else
        let visited := (w.assigned.visit query).2
        match (w.assigned.visit query).1 with
        | .error e => fallOut faults (e.raised name query) visited
        | .ok rows =>
          match conclude faults w.database.isShut name query (work rows) with
          | .error x => fallOut faults x visited
          | .ok (a, left) => (.ok a, visited.leave left) := by
  unfold operate World.visit
  simp only [Action.bind_apply, Action.get_apply, Action.modify_apply]
  have hreachable : w.assigned.database.reachable = w.database.reachable := rfl
  rw [hreachable]
  split
  · exact breakOff_eq _ _ _ _
  simp only [Action.bind_apply, Action.get_apply, Action.modify_apply, Action.modifyGet_apply]
  have hdb : w.assigned.connect.2.database = w.database :=
    World.database_of_ground (World.ground_connect _)
  rcases hput : putQuery w.assigned.connect.2.database.rows? query w.assigned.connect.1
    with ⟨e | rows, c⟩
  · cases e with
    | unencodable position run => exact undo_fallOut _ _ _
    | _ => exact breakOff_eq _ _ _ _
  have hback : (w.assigned.connect.2.giveBack c).database = w.assigned.connect.2.database :=
    World.database_of_ground (World.ground_giveBack _ _)
  dsimp only
  rcases work rows with cause | ⟨a, _ | left⟩
  · exact undo_fallOut _ _ _
  · dsimp only [conclude]
    split
    · exact breakOff_eq _ _ _ _
    · rfl
  · dsimp only [conclude]
    rw [hdb]
    split
    · exact breakOff_eq _ _ _ _
    · rw [Action.bind_apply, Action.modify_apply]
      dsimp only [World.leave]
      rw [hback, hdb]
      rfl

/-! ### Operations that break -/

/-- A statement of an operation, or its commit, fails in the store: a method of the session fails, or
there are no rows to be had, or rows that are to go cannot be changed. -/
inductive Breaks (faults : Faults) (db : Database) (work : Work α) : Prop where
  | method (h : faults.query.isSome ∨ faults.flush.isSome)
  | rowless (h : db.rows? = none)
  | removal {rows left : Tables} {a : α} (hrows : db.rows? = some rows)
      (hwork : work rows = .ok (a, some left)) (h : faults.delete.isSome ∨ db.isShut = true)
  | commit {rows : Tables} {left : Option Tables} {a : α} (hrows : db.rows? = some rows)
      (hwork : work rows = .ok (a, left)) (h : faults.commit.isSome)

/-- An operation that breaks fails, and not because a row is missing. -/
lemma operate_of_breaks (h : Breaks (store.faults w.tasks) w.database work) :
    ∃ cause w', Cause.Broken name cause ∧
      store.operate name query work w = (.error (undone (store.faults w.tasks) cause), w') := by
  rw [operate_apply]
  dsimp only
  split
  · exact ⟨_, _, .inl rfl, rfl⟩
  rename_i hopen
  have hdb : w.assigned.connect.2.database = w.database :=
    World.database_of_ground (World.ground_connect _)
  cases hvisit : (w.assigned.visit query).1 with
  | error e => exact ⟨_, _, e.raised_broken name query, rfl⟩
  | ok rows =>
    have hrows : w.database.rows? = some rows := by
      rw [← hdb]
      exact putQuery_ok (Prod.ext hvisit rfl)
    dsimp only
    cases h with
    | method h =>
      simp only [Bool.or_eq_true, not_or] at hopen
      exact absurd h (not_or.mpr hopen.1)
    | rowless h =>
      rw [hrows] at h
      cases h
    | removal hthere hwork h =>
      rw [hrows] at hthere
      cases hthere
      have hshut : ((store.faults w.tasks).delete.isSome || (store.faults w.tasks).commit.isSome ||
          w.database.isShut) = true := by
        rcases h with h | h <;> simp [h]
      rw [hwork, conclude, if_pos hshut]
      exact ⟨_, _, .inl rfl, rfl⟩
    | commit hthere hwork h =>
      rw [hrows] at hthere
      cases hthere
      rename_i left a
      rw [hwork]
      cases left with
      | none =>
        rw [conclude, if_pos h]
        exact ⟨_, _, .inl rfl, rfl⟩
      | some left =>
        rw [conclude, if_pos (by simp [h])]
        exact ⟨_, _, .inl rfl, rfl⟩

end Store

end BearerAccess
