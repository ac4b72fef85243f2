import BearerAccess.Proofs.Commit
import BearerAccess.Store.Transaction

/-!
# Inserts in a session

What a single insert can do: leave its session as it was, kill it, or put a row among the rows of
the session.
-/

namespace BearerAccess

variable {α β : Type}

/-! ### What the database makes of an insert -/

namespace Session

/-- The rows that an insert meets, if it can change them. -/
def Sees (s : Session) (db : Database) (rows : Tables) : Prop :=
  match s.stage with
  | .fresh => db.rows? = some rows ∧ db.isShut = false
  | .writing own => own = rows
  | .dead => False

lemma sees_congr {s s' : Session} (h : s'.stage = s.stage) {db : Database} {rows : Tables} :
    s'.Sees db rows ↔ s.Sees db rows := by
  rw [Sees, Sees, h]

lemma release_congr {s s' : Session} (h : s'.stage = s.stage) (db : Database) :
    s'.release db = s.release db := by
  rw [release, release, holdsLock, holdsLock, h]

lemma attempt_ok {rows? : Option Tables} {shut known : Bool} {i : Insertion α} {a : α}
    {rows' : Tables} (h : attempt rows? shut known i = .ok (a, rows')) :
    ∃ f rows, rows? = some rows ∧ shut = false ∧ i.apply = some f ∧ f rows = .ok (a, rows') := by
  unfold attempt at h
  split at h
  · cases h
  · split at h
    · cases h
    · rename_i f rows _ hf _
      cases shut with
      | true => cases h
      | false =>
        rw [if_neg Bool.false_ne_true] at h
        split at h
        · rename_i hok
          cases h
          exact ⟨f, rows, rfl, rfl, hf, hok⟩
        · cases h
    · cases h

@[simp] lemma stage_prepare (s : Session) (db : Database) (i : Insertion α) :
    (s.prepare db i).stage = s.stage := by
  unfold prepare
  split <;> rfl

/-- An insert that the database carries out leaves the session dead, or puts its row among those
of the session. -/
lemma execute_cases {s s' : Session} {db db' : Database} {i : Insertion α}
    {r : Except Rejection α} (h : s.execute db i = (r, s', db')) :
    (∃ e, r = .error e ∧ s'.stage = .dead ∧ db' = s.release db) ∨
      ∃ a f rows rows', s.Sees db rows ∧ i.apply = some f ∧ f rows = .ok (a, rows') ∧ r = .ok a ∧
        s'.stage = .writing rows' ∧ db' = { db with locked := true } := by
  unfold execute at h
  dsimp only at h
  split at h
  · rename_i a rows' hok
    obtain ⟨rfl, rfl, rfl⟩ := Prod.mk.inj h |>.imp_right Prod.mk.inj
    right
    split at hok
    · cases hok
    · rename_i hstage
      obtain ⟨f, rows, hrows, hshut, hf, hok⟩ := attempt_ok hok
      exact ⟨a, f, rows, rows', by simp only [Sees, hstage]; exact ⟨hrows, hshut⟩, hf, hok, rfl, rfl,
        rfl⟩
    · rename_i own hstage
      obtain ⟨f, rows, hrows, -, hf, hok⟩ := attempt_ok hok
      exact ⟨a, f, rows, rows', by simp only [Sees, hstage]; exact Option.some.inj hrows, hf, hok,
        rfl, rfl, rfl⟩
  · rename_i e _
    obtain ⟨rfl, rfl, rfl⟩ := Prod.mk.inj h |>.imp_right Prod.mk.inj
    exact .inl ⟨e, rfl, rfl, rfl⟩

end Session

namespace World

@[simp] lemma ground_attach (s : Session) (w : World) : (w.attach s).2.ground = w.ground := by
  unfold attach
  split <;> simp

@[simp] lemma stage_attach (s : Session) (w : World) : (w.attach s).1.stage = s.stage := by
  unfold attach
  split <;> rfl

@[simp] lemma ground_detach (s : Session) (w : World) : (w.detach s).ground = w.ground := by
  unfold detach
  split <;> simp

end World

/-! ### Parts of a block -/

namespace Block

@[simp] lemma pure_apply (a : α) (s : Session) (w : World) :
    (pure a : Block α) s w = ((.ok a, s), w) := rfl

@[simp] lemma throw_apply (f : Failure) (s : Session) (w : World) :
    (throw f : Block α) s w = ((.error f, s), w) := rfl

@[simp] lemma fail_apply (c : Cause) (s : Session) (w : World) :
    (fail c : Block α) s w = ((.error ⟨c, none⟩, s), w) := rfl

lemma bind_apply (b : Block α) (f : α → Block β) (s : Session) (w : World) :
    (b >>= f) s w = match b s w with
      | ((.ok x, s'), w') => f x s' w'
      | ((.error e, s'), w') => ((.error e, s'), w') := by
  change ExceptT.bindCont f (b s w).1.1 (b s w).1.2 (b s w).2 = _
  rcases b s w with ⟨⟨_ | _, _⟩, _⟩ <;> rfl

lemma map_apply (f : α → β) (b : Block α) (s : Session) (w : World) :
    (f <$> b) s w = (((b s w).1.1.map f, (b s w).1.2), (b s w).2) := by
  rw [map_eq_pure_bind, bind_apply]
  rcases b s w with ⟨⟨_ | _, _⟩, _⟩ <;> rfl

lemma bind_cases {b : Block α} {f : α → Block β} {s s' : Session} {w w' : World}
    {r : Except Failure β} (h : (b >>= f) s w = ((r, s'), w')) :
    (∃ e, b s w = ((.error e, s'), w') ∧ r = .error e) ∨
      ∃ x s₁ w₁, b s w = ((.ok x, s₁), w₁) ∧ f x s₁ w₁ = ((r, s'), w') := by
  rw [bind_apply] at h
  rcases hb : b s w with ⟨⟨e | x, s₁⟩, w₁⟩
  · rw [hb] at h
    cases h
    exact .inl ⟨e, rfl, rfl⟩
  · rw [hb] at h
    exact .inr ⟨x, s₁, w₁, rfl, h⟩

end Block

namespace Store

/-- The store whose sessions never fail to read a row back. -/
def rereading (store : Store) : Store := ⟨fun n => { store.faults n with refresh := none }⟩

/-- What becomes of a session and of the world when an insert is handed to the database. -/
lemma handOver_cases {i : Option Stamp → Insertion α} {s s' : Session} {w w' : World}
    {r : Except Rejection α} (h : handOver i s w = ((r, s'), w')) :
    (∃ e, r = .error e ∧ s'.stage = .dead ∧
        w'.ground = { w.ground with database := s.release w.database }) ∨
      ∃ a f rows rows', s.Sees w.database rows ∧ (i w.stamp?).apply = some f ∧
        f rows = .ok (a, rows') ∧ r = .ok a ∧ s'.stage = .writing rows' ∧
        w'.ground = { w.ground with database := { w.database with locked := true } } := by
  unfold handOver at h
  have hg := World.ground_attach s w
  have hstage := World.stage_attach s w
  generalize w.attach s = attached at h hg hstage
  obtain ⟨s₁, w₁⟩ := attached
  dsimp only at h hg hstage
  rcases hx : s₁.execute w₁.database (i w₁.stamp?) with ⟨r₁, s₂, db⟩
  rw [hx] at h
  dsimp only at h
  rw [World.database_of_ground hg, World.stamp_of_ground hg] at h hx
  cases h
  rw [World.ground_raising, World.ground_with_database hg]
  obtain ⟨e, rfl, hdead, rfl⟩ | ⟨a, f, rows, rows', hsees, hput⟩ := Session.execute_cases hx
  · exact .inl ⟨e, rfl, hdead, by rw [Session.release_congr hstage]⟩
  · obtain ⟨hf, hok, rfl, hwriting, rfl⟩ := hput
    exact .inr ⟨a, f, rows, rows', (Session.sees_congr hstage).mp hsees, hf, hok, rfl, hwriting, rfl⟩

/-- What an insert does to its session and to the world: nothing, or it dies, or it puts a row.
Whether the row can be read back decides the answer alone. -/
lemma insert_cases {store : Store} {i : Option Stamp → Insertion α} {s s' : Session} {w w' : World}
    {r : Except Failure (Except Refusal α)} (h : store.insert i s w = ((r, s'), w')) :
    ∃ settled w₁, store.rereading.insert i s w = ((.ok settled, s'), w₁) ∧
      (r = .ok settled ∨ ∃ e, r = .ok (.error e)) ∧
      ((∃ e, settled = .error e ∧ s' = s ∧ w'.ground = w.ground) ∨
        (∃ e, settled = .error e ∧ s'.stage = .dead ∧
          w'.ground = { w.ground with database := s.release w.database }) ∨
        ∃ a f rows rows', s.Sees w.database rows ∧ (i w.stamp?).apply = some f ∧
          f rows = .ok (a, rows') ∧ settled = .ok a ∧ s'.stage = .writing rows' ∧
          w'.ground = { w.ground with database := { w.database with locked := true } }) := by
  unfold insert at h ⊢
  dsimp only [rereading] at h ⊢
  by_cases hadd : (store.faults w.tasks).add.isSome
  · rw [if_pos hadd] at h ⊢
    cases h
    exact ⟨_, _, rfl, .inl rfl, .inl ⟨_, rfl, rfl, rfl⟩⟩
  rw [if_neg hadd] at h ⊢
  by_cases hflush : (store.faults w.tasks).flush.isSome
  · rw [if_pos hflush] at h ⊢
    cases h
    exact ⟨_, _, rfl, .inl rfl, .inr (.inl ⟨_, rfl, rfl, rfl⟩)⟩
  rw [if_neg hflush] at h ⊢
  rcases hx : handOver i s w.assigned with ⟨⟨x, s₁⟩, w₁⟩
  rw [hx] at h
  obtain ⟨e, rfl, hdead, hg⟩ | ⟨a, f, rows, rows', hsees, hf, hok, rfl, hput⟩ := handOver_cases hx
  · cases h
    exact ⟨_, _, rfl, .inl rfl, .inr (.inl ⟨_, rfl, hdead, hg⟩)⟩
  · dsimp only at h ⊢
    refine ⟨.ok a, w₁, ?_, ?_, .inr (.inr ⟨a, f, rows, rows', hsees, hf, hok, rfl, ?_⟩)⟩
    all_goals
      split at h
      all_goals cases h
    · rfl
    · rfl
    · exact .inr ⟨_, rfl⟩
    · exact .inl rfl
    · exact hput
    · exact hput

/-- An insert that answers has done to some rows what it does to rows, and its session writes them
under the lock. -/
lemma insert_applies {store : Store} {i : Option Stamp → Insertion α} {s s' : Session} {w w' : World}
    {a : α} (h : store.insert i s w = ((.ok (.ok a), s'), w')) :
    ∃ f rows rows', (i w.stamp?).apply = some f ∧ f rows = .ok (a, rows') ∧
      s'.stage = .writing rows' ∧
      w'.ground = { w.ground with database := { w.database with locked := true } } := by
  obtain ⟨settled, -, -, hresult, hcases⟩ := insert_cases h
  have hsettled : settled = .ok a := by
    obtain hok | ⟨e, he⟩ := hresult
    · exact (Except.ok.inj hok).symm
    · cases he
  obtain ⟨e, he, -⟩ | ⟨e, he, -⟩ | ⟨b, f, rows, rows', -, hf, hok, hb, hput⟩ := hcases
  · rw [hsettled] at he
    cases he
  · rw [hsettled] at he
    cases he
  · rw [hsettled] at hb
    cases hb
    exact ⟨f, rows, rows', hf, hok, hput⟩

lemma userInsertion_puts {id username : Option Text} {isStaff : Flag} {now : Option Stamp}
    {f : Tables → Except Violation (UserRow × Tables)} {rows rows' : Tables} {row : UserRow}
    (hf : (userInsertion id username isStaff now).apply = some f) (hok : f rows = .ok (row, rows')) :
    now = some row.createdAt ∧ stored? id = some row.id ∧ stored? username = some row.username ∧
      (Change.addUser row).Fits rows ∧ rows' = (Change.addUser row).apply rows := by
  cases now with
  | none => cases hf
  | some stamp =>
    cases hf
    obtain ⟨hnew, rfl, hfits, hrows⟩ := Tables.insertUser_ok hok
    obtain ⟨hid, hname, -⟩ := NewUser.mk.inj hnew
    exact ⟨rfl, hid, hname, hfits, hrows⟩

lemma tokenInsertion_puts {id userId secret : Option Text} {name : Label}
    {expiry now : Option Stamp} {f : Tables → Except Violation (TokenRow × Tables)}
    {rows rows' : Tables} {row : TokenRow}
    (hf : (tokenInsertion id userId secret name expiry now).apply = some f)
    (hok : f rows = .ok (row, rows')) :
    now = some row.createdAt ∧ expiry = row.expiresAt ∧ stored? userId = some row.userId ∧
      stored? secret = some row.secret ∧ (Change.addToken row).Fits rows ∧
      rows' = (Change.addToken row).apply rows := by
  cases now with
  | none => cases hf
  | some stamp =>
    cases hf
    obtain ⟨hnew, rfl, hfits, hrows⟩ := Tables.insertToken_ok hok
    obtain ⟨-, huser, hsecret, -, hexpiry⟩ := NewToken.mk.inj hnew
    exact ⟨rfl, hexpiry, huser, hsecret, hfits, hrows⟩

end Store

end BearerAccess
