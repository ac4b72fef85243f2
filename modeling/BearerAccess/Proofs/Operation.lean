import BearerAccess.Proofs.Commit
import BearerAccess.Store.Operations

/-!
# Single operations

What an operation in a session of its own can come to: it fails and leaves the ground alone, it
answers from the rows, or it leaves the rows that it makes of them.
-/

namespace BearerAccess

variable {α : Type}

namespace Store

lemma undo_apply (faults : Faults) (cause : Cause) (w : World) :
    ∃ f, undo faults cause w = ((.error f : Except Failure α), w) := by
  unfold undo
  cases faults.rollback with
  | none => exact ⟨_, rfl⟩
  | some message => exact ⟨_, rfl⟩

lemma breakOff_apply (faults : Faults) (name : String) (origin : Origin) (w : World) :
    breakOff faults name origin w =
      (undo faults (.store (.inOperation name)) (w.raising origin) : Except Failure α × World) := rfl

lemma putQuery_ok {rows? : Option Tables} {query : Option Query} {c c' : Connection} {rows : Tables}
    (h : putQuery rows? query c = (.ok rows, c')) : rows? = some rows := by
  unfold putQuery at h
  dsimp only at h
  generalize query.bind (textObstacle? ·.subject) = obstacle at h
  cases rows? with
  | none => cases obstacle <;> cases h
  | some present =>
    cases obstacle with
    | some e => cases h
    | none =>
      cases h
      rfl

/-- A single operation fails and leaves the ground alone, or answers from the rows, or leaves the
rows that it makes of them. -/
lemma operate_cases {store : Store} {name : String} {query : Option Query} {work : Work α}
    {w w' : World} {r : Except Failure α} (h : store.operate name query work w = (r, w')) :
    ((∃ f, r = .error f) ∧ w'.ground = w.ground) ∨
      ∃ a rows left, w.database.rows? = some rows ∧ work rows = .ok (a, left) ∧ r = .ok a ∧
        ((left = none ∧ w'.ground = w.ground) ∨ ∃ rows', left = some rows' ∧
          w.database.isShut = false ∧
          w'.ground = { w.ground with database := { w.database with tables := some rows' } }) := by
  have hundone : ∀ (faults : Faults) (cause : Cause) (w₁ : World), w₁.ground = w.ground →
      undo faults cause w₁ = (r, w') → (∃ f, r = .error f) ∧ w'.ground = w.ground := by
    intro faults cause w₁ hg hu
    obtain ⟨f, hf⟩ := undo_apply (α := α) faults cause w₁
    rw [hf] at hu
    cases hu
    exact ⟨⟨f, rfl⟩, hg⟩
  have hbroken : ∀ (faults : Faults) (origin : Origin) (w₁ : World), w₁.ground = w.ground →
      breakOff faults name origin w₁ = (r, w') → (∃ f, r = .error f) ∧ w'.ground = w.ground :=
    fun faults origin w₁ hg hb => hundone faults _ (w₁.raising origin) hg hb
  unfold operate at h
  simp only [Action.bind_apply, Action.get_apply, Action.modify_apply] at h
  -- A failure before the query leaves no more than a task that has been counted.
  split at h
  · exact .inl (hbroken _ _ w.assigned rfl h)
  simp only [Action.bind_apply, Action.get_apply, Action.modify_apply, Action.modifyGet_apply] at h
  have hg : w.assigned.connect.2.ground = w.ground := World.ground_connect _
  generalize w.assigned.connect.2 = w₁ at h hg
  have hdb : w₁.database = w.database := World.database_of_ground hg
  rcases hput : putQuery w₁.database.rows? query w.assigned.connect.1 with ⟨answer, c⟩
  rw [hput] at h
  -- From here on the connection is back, whatever becomes of the query.
  have hback : (w₁.giveBack c).ground = w.ground := by rw [World.ground_giveBack, hg]
  dsimp only at h
  cases answer with
  | error e =>
    cases e with
    | unencodable position run => exact .inl (hundone _ _ _ hback h)
    | _ => exact .inl (hbroken _ _ _ hback h)
  | ok rows =>
    have hrows : w.database.rows? = some rows := hdb ▸ putQuery_ok hput
    dsimp only at h
    rcases hwork : work rows with cause | ⟨a, left⟩
    · rw [hwork] at h
      exact .inl (hundone _ _ _ hback h)
    rw [hwork] at h
    cases left with
    | none =>
      dsimp only at h
      by_cases hcommit : (store.faults w.tasks).commit.isSome
      · rw [if_pos hcommit] at h
        exact .inl (hbroken _ _ _ hback h)
      · rw [if_neg hcommit] at h
        cases h
        exact .inr ⟨a, rows, none, hrows, hwork, rfl, .inl ⟨rfl, hback⟩⟩
    | some rows' =>
      dsimp only at h
      by_cases hopen : (store.faults w.tasks).delete.isSome ||
          (store.faults w.tasks).commit.isSome || w₁.database.isShut
      · rw [if_pos hopen] at h
        exact .inl (hbroken _ _ _ hback h)
      · rw [if_neg hopen] at h
        cases h
        refine .inr ⟨a, rows, some rows', hrows, hwork, rfl, .inr ⟨rows', rfl, ?_, ?_⟩⟩
        · simp only [Bool.or_eq_true, not_or, Bool.not_eq_true] at hopen
          rw [← hdb]
          exact hopen.2
        · rw [← World.database_of_ground hback]
          exact World.ground_with_database hback _

lemma operate_quiet {store : Store} {name : String} {query : Option Query} {work : Work α}
    (hwork : ∀ rows a left, work rows = .ok (a, left) → left = none) :
    (store.operate name query work).Quiet := by
  intro w
  obtain ⟨-, hg⟩ | ⟨a, rows, left, -, hok, -, ⟨-, hg⟩ | ⟨rows', hleft, -⟩⟩ :=
    operate_cases (rfl : store.operate name query work w = (_, _))
  · exact hg
  · exact hg
  · rw [hwork rows a left hok] at hleft
    cases hleft

/-- An operation that changes nothing answers from the stored rows. -/
lemma operate_ok {store : Store} {name : String} {query : Option Query} {work : Work α}
    {w w' : World} {a : α} (hwork : ∀ rows a left, work rows = .ok (a, left) → left = none)
    (h : store.operate name query work w = (.ok a, w')) :
    work w.stored = .ok (a, none) ∧ w'.ground = w.ground := by
  obtain ⟨⟨f, hf⟩, -⟩ | ⟨b, rows, left, hrows, hok, hb, hleft⟩ := operate_cases h
  · cases hf
  cases hb
  obtain rfl := hwork rows a left hok
  obtain ⟨-, hg⟩ | ⟨rows', hnone, -⟩ := hleft
  · rw [World.stored, Database.tables_of_rows hrows, Option.getD_some]
    exact ⟨hok, hg⟩
  · cases hnone

/-! ### Lookups and listings -/

lemma reading_left {a b : α} {left : Option Tables} (h : reading a = .ok (b, left)) :
    left = none := by
  cases h
  rfl

lemma required_left {row : Option UserRow} {u : User} {left : Option Tables}
    (h : required row = .ok (u, left)) : left = none := by
  cases row with
  | none => cases h
  | some row => exact reading_left h

lemma userById_quiet (store : Store) (id : Option Text) : (store.userById id).Quiet :=
  operate_quiet fun _ _ _ => required_left

lemma userByUsername_quiet (store : Store) (username : Option Text) :
    (store.userByUsername username).Quiet :=
  operate_quiet fun _ _ _ => required_left

lemma users_quiet (store : Store) : store.users.Quiet :=
  operate_quiet fun _ _ _ => reading_left

lemma tokensOf_quiet (store : Store) (userId : Option Text) : (store.tokensOf userId).Quiet :=
  operate_quiet fun _ _ _ => reading_left

lemma users_ok {store : Store} {w w' : World} {list : List User}
    (h : store.users w = (.ok list, w')) :
    list = w.stored.usersByAge.map UserRow.toUser ∧ w'.ground = w.ground := by
  obtain ⟨hread, hg⟩ := operate_ok (fun _ _ _ => reading_left) h
  cases hread
  exact ⟨rfl, hg⟩

lemma tokensOf_ok {store : Store} {w w' : World} {userId : Option Text} {list : List Token}
    (h : store.tokensOf userId w = (.ok list, w')) :
    list = (w.stored.tokensOf (stored? userId)).map TokenRow.toToken ∧ w'.ground = w.ground := by
  obtain ⟨hread, hg⟩ := operate_ok (fun _ _ _ => reading_left) h
  cases hread
  exact ⟨rfl, hg⟩

/-- A user that is looked up is that of a stored row. -/
lemma required_ok {store : Store} {w w' : World} {name : String} {query : Option Query}
    {find : Tables → Option UserRow} {u : User}
    (h : store.operate name query (fun rows => required (find rows)) w = (.ok u, w')) :
    ∃ row, find w.stored = some row ∧ u = row.toUser ∧ w'.ground = w.ground := by
  obtain ⟨hread, hg⟩ := operate_ok (fun _ _ _ => required_left) h
  cases hfound : find w.stored with
  | none =>
    rw [hfound] at hread
    cases hread
  | some row =>
    rw [hfound] at hread
    cases hread
    exact ⟨row, rfl, rfl, hg⟩

lemma isAvailable_quiet (w : World) : (isAvailable w).2.ground = w.ground := by
  have hg := World.ground_turn w
  cases hr : w.turn.database.reachable with
  | true =>
    have he : (isAvailable w).2 = w.turn := by simp [isAvailable, hr]
    rw [he, hg]
  | false =>
    have he : (isAvailable w).2 = w.turn.write .error .store
        "Encountered an error talking to database: OperationalError" := by
      simp [isAvailable, Computation.map_apply, hr]
    rw [he, World.ground_write, hg]

end Store

/-! ### The owner of a secret -/

/-- The stamp of the moment that an operation is asked about: the one given, or the present. -/
def World.askedAt? (w : World) : Option DateTime → Option Stamp
  | none => w.stamp?
  | some now => now.toUniversal?.map Stamp.ofDateTime

lemma moment_cases (now : Option DateTime) (w : World) :
    ((∃ f, moment now w = (.error f, w)) ∧ w.askedAt? now = none) ∨
      ∃ u, moment now w = (.ok u, w) ∧ w.askedAt? now = some (Stamp.ofDateTime u) := by
  cases now with
  | none =>
    simp only [moment, presentTime, World.askedAt?, World.stamp?, Action.bind_apply,
      Action.get_apply]
    cases DateTime.ofClock? w.clock with
    | none => exact .inl ⟨⟨_, rfl⟩, rfl⟩
    | some u => exact .inr ⟨u, rfl, rfl⟩
  | some now =>
    simp only [moment, DateTime.universal, World.askedAt?, Action.liftExcept_apply]
    cases now.toUniversal? with
    | none => exact .inl ⟨⟨_, rfl⟩, rfl⟩
    | some u => exact .inr ⟨u, rfl, rfl⟩

namespace Store

variable {store : Store} {w w' : World}

lemma userByToken_quiet (store : Store) (secret : Option Text) (now : Option DateTime) :
    (store.userByToken secret now).Quiet := by
  refine Action.Quiet.bind ?_ fun u => operate_quiet fun _ _ _ => reading_left
  intro w
  obtain ⟨⟨f, hm⟩, -⟩ | ⟨u, hm, -⟩ := moment_cases now w
  · rw [hm]
  · rw [hm]

/-- An identity is found among the rows, as the owner of the secret at the moment asked about. -/
lemma userByToken_ok {secret : Option Text} {now : Option DateTime} {found : Option Identity}
    (h : store.userByToken secret now w = (.ok found, w')) :
    ∃ rows stamp, w.database.rows? = some rows ∧ w.askedAt? now = some stamp ∧
      found = (rows.ownerOfSecret? (stored? secret) stamp).map UserRow.toIdentity := by
  unfold userByToken at h
  obtain ⟨⟨f, hm⟩, -⟩ | ⟨u, hm, hstamp⟩ := moment_cases now w
  · rw [Action.bind_apply, hm] at h
    cases h
  rw [Action.bind_apply, hm] at h
  obtain ⟨⟨f, hf⟩, -⟩ | ⟨a, rows, left, hrows, hwork, ha, -⟩ := operate_cases h
  · cases hf
  · cases ha
    cases hwork
    exact ⟨rows, _, hrows, hstamp, rfl⟩

/-! ### Removals -/

lemma some_id_of_find {ι : Type} {list : List ι} {id : ι → String} {x : ι} {wanted : Option String}
    (h : list.find? (fun y => some (id y) = wanted) = some x) : wanted = some (id x) := by
  simpa [eq_comm] using List.find?_some h

/-- A user that is deleted goes with all its tokens; nothing else is ever done by it. -/
lemma deleteUser_commits {id : Option Text} {r : Except Failure Unit}
    (h : store.deleteUser id w = (r, w')) :
    w.Commits (changesOf (fun _ => (stored? id).toList.map .removeUser) r) w' := by
  obtain ⟨⟨f, rfl⟩, hg⟩ | ⟨a, rows, left, hrows, hwork, rfl, hleft⟩ := operate_cases h
  · exact .of_ground hg
  cases hfound : rows.userById? (stored? id) with
  | none =>
    rw [hfound] at hwork
    cases hwork
  | some row =>
    rw [hfound] at hwork
    cases hwork
    obtain ⟨hleft, -⟩ | ⟨rows', hleft, hopen, hg⟩ := hleft
    · cases hleft
    · cases hleft
      rw [changesOf, some_id_of_find hfound]
      exact .of_tables hopen (Database.tables_of_rows hrows) hg rfl ⟨trivial, trivial⟩

lemma deleteToken_commits {id : Option Text} {r : Except Failure Unit}
    (h : store.deleteToken id w = (r, w')) :
    w.Commits (changesOf (fun _ => (stored? id).toList.map .removeToken) r) w' := by
  obtain ⟨⟨f, rfl⟩, hg⟩ | ⟨a, rows, left, hrows, hwork, rfl, hleft⟩ := operate_cases h
  · exact .of_ground hg
  cases hfound : rows.tokenById? (stored? id) with
  | none =>
    rw [hfound] at hwork
    cases hwork
  | some row =>
    rw [hfound] at hwork
    cases hwork
    obtain ⟨hleft, -⟩ | ⟨rows', hleft, hopen, hg⟩ := hleft
    · cases hleft
    · cases hleft
      rw [changesOf, some_id_of_find hfound]
      exact .of_tables hopen (Database.tables_of_rows hrows) hg rfl ⟨trivial, trivial⟩

/-! ### The care of the tables -/

lemma open_of_schemaFailure {db : Database} {statement : String}
    (h : schemaFailure? db statement true = none) : db.isShut = false := by
  unfold schemaFailure? at h
  unfold Database.isShut
  cases hr : db.reachable with
  | false => simp [hr] at h
  | true =>
    cases hb : db.barrier with
    | none =>
      cases hl : db.locked with
      | false => rfl
      | true => simp [hr, hb, hl] at h
    | some b => cases b <;> simp [hr, hb] at h

/-- A change of the set of tables fails and leaves the ground alone, or comes about in a database
that is not shut. -/
lemma changeTables_cases {statement : String} {change : Option Tables → Option Tables}
    {r : Except Failure Unit} (h : changeTables statement change w = (r, w')) :
    ((∃ f, r = .error f) ∧ w'.ground = w.ground) ∨
      (r = .ok () ∧
        (change w.database.tables = w.database.tables ∨ w.database.isShut = false) ∧
        w'.ground = { w.ground with
          database := { w.database with tables := change w.database.tables } }) := by
  have hg := World.ground_turn w
  have hdb := World.database_of_ground hg
  unfold changeTables at h
  simp only [Action.bind_apply, Action.get_apply, Action.modify_apply] at h
  rw [hdb] at h
  cases hfailure : schemaFailure? w.database statement
      (decide (change w.database.tables ≠ w.database.tables)) with
  | some cause =>
    rw [hfailure] at h
    cases h
    exact .inl ⟨⟨_, rfl⟩, hg⟩
  | none =>
    rw [hfailure] at h
    cases h
    refine .inr ⟨rfl, ?_, ?_⟩
    · by_cases he : change w.database.tables = w.database.tables
      · exact .inl he
      · rw [decide_eq_true he] at hfailure
        exact .inr (open_of_schemaFailure hfailure)
    · exact World.ground_with_database hg _

lemma createTables_still : createTables.Still := by
  intro w
  obtain ⟨-, hg⟩ | ⟨-, hs, hg⟩ := changeTables_cases (rfl : createTables w = (_, _))
  · exact .of_ground hg
  · exact .of_change hs hg trivial rfl

lemma dropTables_commits {r : Except Failure Unit} (h : dropTables w = (r, w')) :
    w.Commits (changesOf (fun _ => [.clear]) r) w' := by
  obtain ⟨⟨f, rfl⟩, hg⟩ | ⟨rfl, hs, hg⟩ := changeTables_cases h
  · exact .of_ground hg
  · exact .of_change hs hg ⟨trivial, trivial⟩ rfl

end Store

end BearerAccess
