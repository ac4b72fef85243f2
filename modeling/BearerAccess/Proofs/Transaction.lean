import BearerAccess.Proofs.Insert

/-!
# Transactions

The rows of a session stand apart from the stored ones until the commit puts all of them there at
once. `Progress` is what holds throughout a transaction; every part of a block keeps it, and its end
turns it into commits of the world.
-/

namespace BearerAccess

variable {α : Type}

/-! ### A transaction on its way -/

/-- The changes that a session has made to the committed rows, for itself alone. -/
def Session.Carries (s : Session) (db : Database) (own : List Change) : Prop :=
  match s.stage with
  | .fresh => own = []
  | .writing rows => ∃ t, db.tables = some t ∧ rows = t.after own ∧ t.Admits own
  | .dead => True

/-- How far a transaction has come that began in a world: what has been committed beside it since,
and what it carries itself. It has the lock while it carries rows, which nobody else can have then. -/
structure Progress (w₀ : World) (beside own : List Change) (s : Session) (w : World) : Prop
    extends w₀.Steady w where
  locked : w.database.locked = (s.holdsLock || w₀.database.locked)
  admits : w₀.stored.Admits beside
  stored : w.stored = w₀.stored.after beside
  shut : w₀.database.isShut → w.database.tables = w₀.database.tables ∧ s.holdsLock = false
  carries : s.Carries w.database own

namespace Progress

variable {w₀ w w' : World} {beside own : List Change} {s s' : Session}

lemma start (w : World) : Progress w [] [] {} w where
  toSteady := .refl w
  locked := rfl
  admits := trivial
  stored := rfl
  shut _ := ⟨rfl, rfl⟩
  carries := rfl

lemma isShut (h : Progress w₀ beside own s w) :
    w.database.isShut = (s.holdsLock || w₀.database.isShut) := by
  rw [Database.isShut, Database.isShut, h.locked, h.barrier, Bool.or_assoc]

lemma not_shut (h : Progress w₀ beside own s w) (hl : s.holdsLock = true) :
    w₀.database.isShut = false := by
  by_contra hs
  have hf := (h.shut (by simpa using hs)).2
  rw [hl] at hf
  cases hf

/-- What is committed beside a transaction leaves alone what it carries. -/
lemma commit (h : Progress w₀ beside own s w) {changes : List Change}
    (hc : w.Commits changes w') : Progress w₀ (beside ++ changes) own s w' where
  toSteady := h.toSteady.trans hc.toSteady
  locked := hc.locked.trans h.locked
  admits := Tables.admits_append.mpr ⟨h.admits, h.stored ▸ hc.admits⟩
  stored := by rw [hc.stored, h.stored, Tables.after_append]
  shut hs := by
    obtain ⟨ht, hl⟩ := h.shut hs
    refine ⟨?_, hl⟩
    rw [hc.shut (by rw [h.isShut, hl, hs, Bool.false_or]), ht]
  carries := by
    have hcarries := h.carries
    unfold Session.Carries at hcarries ⊢
    cases hstage : s.stage with
    | fresh => simpa only [hstage] using hcarries
    | dead => trivial
    | writing rows =>
      -- The session holds the lock, so nothing beside it can have changed the rows.
      have hlock : s.holdsLock = true := by rw [Session.holdsLock, hstage]
      simp only [hstage] at hcarries ⊢
      rw [hc.shut (by rw [h.isShut, hlock, Bool.true_or])]
      exact hcarries

lemma quiet (h : Progress w₀ beside own s w) (hg : w'.ground = w.ground) :
    Progress w₀ beside own s w' := by
  simpa using h.commit (.of_ground hg)

lemma locked_release (h : Progress w₀ beside own s w) :
    (s.release w.database).locked = w₀.database.locked := by
  unfold Session.release
  by_cases hl : s.holdsLock = true
  · rw [if_pos hl]
    have hopen := h.not_shut hl
    rw [Database.isShut, Bool.or_eq_false_iff] at hopen
    exact hopen.1.symm
  · rw [if_neg hl, h.locked, Bool.eq_false_iff.mpr hl, Bool.false_or]

lemma die (h : Progress w₀ beside own s w) (more : List Change) (hdead : s'.stage = .dead)
    (hg : w'.ground = { w.ground with database := s.release w.database }) :
    Progress w₀ beside more s' w' := by
  have hdb : w'.database = s.release w.database := congrArg Ground.database hg
  have hreleased : ∀ db, (s.release db).tables = db.tables ∧
      (s.release db).reachable = db.reachable ∧ (s.release db).barrier = db.barrier := by
    intro db
    unfold Session.release
    split <;> exact ⟨rfl, rfl, rfl⟩
  obtain ⟨htables, hreachable, hbarrier⟩ := hreleased w.database
  have hlock : s'.holdsLock = false := by rw [Session.holdsLock, hdead]
  refine ⟨h.toSteady.trans (.of_database hg hreachable hbarrier), ?_, h.admits, ?_, ?_, ?_⟩
  · rw [hdb, h.locked_release, hlock, Bool.false_or]
  · rw [World.stored, hdb, htables, ← h.stored, World.stored]
  · intro hs
    rw [hdb, htables]
    exact ⟨(h.shut hs).1, hlock⟩
  · unfold Session.Carries
    rw [hdead]
    trivial

lemma open_of_sees (h : Progress w₀ beside own s w) {rows : Tables}
    (hsees : s.Sees w.database rows) : w₀.database.isShut = false := by
  unfold Session.Sees at hsees
  cases hold : s.stage with
  | fresh =>
    simp only [hold] at hsees
    have hopen := hsees.2
    rw [h.isShut, Bool.or_eq_false_iff] at hopen
    exact hopen.2
  | writing t => exact h.not_shut (by rw [Session.holdsLock, hold])
  | dead => simp only [hold] at hsees

/-- A row that an insert puts is carried from then on. -/
lemma put (h : Progress w₀ beside own s w) {rows : Tables} {c : Change}
    (hsees : s.Sees w.database rows) (hfits : c.Fits rows)
    (hstage : s'.stage = .writing (c.apply rows))
    (hg : w'.ground = { w.ground with database := { w.database with locked := true } }) :
    Progress w₀ beside (own ++ [c]) s' w' := by
  have hdb : w'.database = { w.database with locked := true } := congrArg Ground.database hg
  have hlock : s'.holdsLock = true := by rw [Session.holdsLock, hstage]
  have hopen := h.open_of_sees hsees
  have hcarries := h.carries
  refine ⟨h.toSteady.trans (.of_database hg rfl rfl), ?_, h.admits, ?_, ?_, ?_⟩
  · rw [hdb, hlock, Bool.true_or]
  · rw [World.stored, hdb, ← h.stored, World.stored]
  · intro hs
    rw [hopen] at hs
    cases hs
  · unfold Session.Sees at hsees
    unfold Session.Carries at hcarries ⊢
    rw [hstage, hdb]
    cases hold : s.stage with
    | fresh =>
      -- The first row goes on top of the committed ones.
      simp only [hold] at hsees hcarries
      have hrows : w.database.tables = some rows := Database.tables_of_rows hsees.1
      exact ⟨rows, hrows, by rw [hcarries]; rfl, by rw [hcarries]; exact ⟨hfits, trivial⟩⟩
    | writing t =>
      simp only [hold] at hsees hcarries
      obtain ⟨base, hbase, rfl, hadmits⟩ := hcarries
      subst hsees
      exact ⟨base, hbase, by rw [Tables.after_append]; rfl,
        Tables.admits_append.mpr ⟨hadmits, hfits, trivial⟩⟩
    | dead => simp only [hold] at hsees

lemma commits_beside (h : Progress w₀ beside own s w) (hl : s.holdsLock = false) :
    w₀.Commits beside w where
  toSteady := h.toSteady
  locked := by rw [h.locked, hl, Bool.false_or]
  admits := h.admits
  stored := h.stored
  shut hs := (h.shut hs).1

lemma rollBack (h : Progress w₀ beside own s w) {faults : Faults} {failure : Failure}
    {r : Except Failure α} (hr : Store.rollBack faults failure s w = (r, w')) :
    (∃ f, r = .error f) ∧ w₀.Commits beside w' := by
  have hg : w'.ground = { w.ground with database := s.release w.database } ∧ ∃ f, r = .error f := by
    unfold Store.rollBack at hr
    dsimp only at hr
    split at hr
    all_goals
      cases hr
      refine ⟨?_, _, rfl⟩
      simp only [World.ground_write, World.ground_detach]
      rfl
  have hdead := h.die [] (rfl : s.dying.stage = .dead) hg.1
  exact ⟨hg.2, hdead.commits_beside rfl⟩

/-- A commit puts the rows that the session carries in the place of the stored ones. -/
lemma commit_own (h : Progress w₀ beside own s w) {faults : Faults} {db : Database}
    (hc : s.commit? faults w.database = some db)
    (hg : w'.ground = { w.ground with database := db }) : w₀.Commits (beside ++ own) w' := by
  unfold Session.commit? at hc
  split at hc
  · cases hc
  have hcarries := h.carries
  unfold Session.Carries at hcarries
  cases hstage : s.stage with
  | dead =>
    simp only [hstage] at hc
    cases hc
  | fresh =>
    simp only [hstage] at hc hcarries
    cases hc
    rw [hcarries, List.append_nil]
    exact (h.quiet hg).commits_beside (by rw [Session.holdsLock, hstage])
  | writing rows =>
    simp only [hstage] at hc hcarries
    cases hc
    obtain ⟨t, ht, rfl, hadmits⟩ := hcarries
    have hopen := h.not_shut (by rw [Session.holdsLock, hstage])
    have hstored : w₀.stored.after beside = t := by
      rw [← h.stored, World.stored, ht]
      rfl
    have hdb := congrArg Ground.database hg
    refine ⟨h.toSteady.trans (.of_database hg rfl rfl), ?_, ?_, ?_, fun hs => ?_⟩
    · rw [Database.isShut, Bool.or_eq_false_iff] at hopen
      rw [hopen.1]
      exact congrArg Database.locked hdb
    · rw [Tables.admits_append, hstored]
      exact ⟨h.admits, hadmits⟩
    · rw [Tables.after_append, hstored]
      exact congrArg (·.tables.getD {}) hdb
    · rw [hopen] at hs
      cases hs

/-- A transaction ends with all that it carries, or fails with nothing of it. -/
lemma finish (h : Progress w₀ beside own s w) {store : Store} {result r : Except Failure α}
    (hf : store.finish result s w = (r, w')) :
    (∃ a, result = .ok a ∧ r = .ok a ∧ w₀.Commits (beside ++ own) w') ∨
      ∃ f, r = .error f ∧ w₀.Commits beside w' := by
  have hassigned : Progress w₀ beside own s w.assigned := h.quiet rfl
  unfold Store.finish at hf
  dsimp only at hf
  cases result with
  | error f =>
    obtain ⟨⟨f, rfl⟩, hc⟩ := hassigned.rollBack hf
    exact .inr ⟨f, rfl, hc⟩
  | ok a =>
    dsimp only at hf
    split at hf
    · obtain ⟨⟨f, rfl⟩, hc⟩ := (hassigned.quiet (World.ground_raising _ _)).rollBack hf
      exact .inr ⟨f, rfl, hc⟩
    · rename_i db hdb
      cases hf
      refine .inl ⟨a, rfl, rfl, hassigned.commit_own hdb ?_⟩
      simp only [World.ground_detach]
      rfl

end Progress

/-! ### Inserts of users and tokens -/

/-- The stamp under which an expiry is stored. -/
def storedExpiry (expiresAt : Option DateTime) : Option Stamp :=
  expiresAt.bind fun e => e.toUniversal?.map Stamp.ofDateTime

/-- The row that has been added for a user when its insert answers with it. -/
def User.added (now : Option Stamp) (u : User) : List Change :=
  now.toList.map fun t => .addUser ⟨u.userId, u.username, u.isStaff, t⟩

/-- The row that has been added for a token when its insert answers with it. -/
def Token.added (now : Option Stamp) (expiresAt : Option DateTime) (k : Token) : List Change :=
  now.toList.map fun t =>
    .addToken ⟨k.tokenId, k.userId, k.secret, k.name, storedExpiry expiresAt, t⟩

lemma Store.expiryStamp_cases (expiresAt : Option DateTime) (s : Session) (w : World) :
    (∃ f, Store.expiryStamp expiresAt s w = ((.error f, s), w)) ∨
      Store.expiryStamp expiresAt s w = ((.ok (storedExpiry expiresAt), s), w) := by
  cases expiresAt with
  | none => exact .inr rfl
  | some e =>
    unfold Store.expiryStamp storedExpiry DateTime.universal
    dsimp only
    rw [Block.map_apply, Option.bind_some]
    cases e.toUniversal? with
    | none => exact .inl ⟨_, rfl⟩
    | some u => exact .inr rfl

namespace Progress

variable {w₀ w w' : World} {beside own : List Change} {s s' : Session}

/-- A transaction carries the change that an insert puts, whether or not the row can be read
back. -/
lemma insert (h : Progress w₀ beside own s w) {store : Store} {i : Option Stamp → Insertion α}
    {r : Except Failure (Except Store.Refusal α)} (change : α → Change)
    (hi : ∀ f rows a rows', (i w.stamp?).apply = some f → f rows = .ok (a, rows') →
      (change a).Fits rows ∧ rows' = (change a).apply rows)
    (hx : store.insert i s w = ((r, s'), w')) :
    ∃ settled w₁, store.rereading.insert i s w = ((.ok settled, s'), w₁) ∧
      (r = .ok settled ∨ ∃ e, r = .ok (.error e)) ∧
      (∀ a, settled = .ok a →
        ∃ f rows rows', (i w.stamp?).apply = some f ∧ f rows = .ok (a, rows')) ∧
      Progress w₀ beside (own ++ changesOf (fun a => [change a]) settled) s' w' := by
  obtain ⟨settled, w₁, hsettled, hresult, hcases⟩ := Store.insert_cases hx
  refine ⟨settled, w₁, hsettled, hresult, ?_⟩
  obtain ⟨e, rfl, rfl, hg⟩ | ⟨e, rfl, hdead, hg⟩ | ⟨a, f, rows, rows', hsees, hput⟩ := hcases
  · exact ⟨no_answer, by simpa [changesOf] using h.quiet hg⟩
  · exact ⟨no_answer, h.die _ hdead hg⟩
  · obtain ⟨hf, hok, rfl, hwriting, hg⟩ := hput
    obtain ⟨hfits, rfl⟩ := hi f rows a rows' hf hok
    refine ⟨?_, h.put hsees hfits hwriting hg⟩
    rintro _ ⟨⟩
    exact ⟨f, rows, _, hf, hok⟩

/-- A transaction carries the row that the insert of a user answers with, or would have answered
with if it had read it back. -/
lemma insertUser (h : Progress w₀ beside own s w) {store : Store} {id username : Option Text}
    {isStaff : Flag} {r : Except Failure User}
    (hx : store.insertUser id username isStaff s w = ((r, s'), w')) :
    ∃ settled w₁, store.rereading.insertUser id username isStaff s w = ((settled, s'), w₁) ∧
      (∀ u, r = .ok u → settled = .ok u ∧ ∃ row : UserRow, u = row.toUser ∧
        stored? id = some row.id ∧ stored? username = some row.username) ∧
      Progress w₀ beside (own ++ changesOf (·.added w.stamp?) settled) s' w' := by
  unfold Store.insertUser at hx ⊢
  rcases hi : store.insert (Store.userInsertion id username isStaff) s w with ⟨⟨result, s₁⟩, w₁⟩
  obtain ⟨settled, w₂, hsettled, hresult, hrow, hprogress⟩ := h.insert .addUser
    (fun f rows row rows' hf hok => (Store.userInsertion_puts hf hok).2.2.2) hi
  rw [Block.bind_apply, hi] at hx
  rw [Block.bind_apply, hsettled]
  cases settled with
  | error e =>
    obtain rfl | ⟨e', rfl⟩ := hresult
    all_goals
      cases hx
      exact ⟨_, _, rfl, no_answer, hprogress⟩
  | ok row =>
    obtain ⟨f, rows, rows', hf, hok⟩ := hrow row rfl
    obtain ⟨hnow, hid, hname, -⟩ := Store.userInsertion_puts hf hok
    have hadded : row.toUser.added w.stamp? = [Change.addUser row] := by
      rw [hnow]
      rfl
    rw [changesOf, ← hadded] at hprogress
    obtain rfl | ⟨e', rfl⟩ := hresult
    · cases hx
      refine ⟨_, _, rfl, ?_, hprogress⟩
      rintro _ ⟨⟩
      exact ⟨rfl, row, rfl, hid, hname⟩
    · cases hx
      exact ⟨_, _, rfl, no_answer, hprogress⟩

/-- A transaction carries the row that the insert of a token answers with, or would have answered
with if it had read it back. -/
lemma insertToken (h : Progress w₀ beside own s w) {store : Store} {id userId secret : Option Text}
    {name : Label} {expiresAt : Option DateTime} {r : Except Failure Token}
    (hx : store.insertToken id userId secret name expiresAt s w = ((r, s'), w')) :
    ∃ settled w₁, store.rereading.insertToken id userId secret name expiresAt s w =
        ((settled, s'), w₁) ∧
      (∀ k, r = .ok k → settled = .ok k ∧ ∃ row : TokenRow, k = row.toToken ∧
        stored? userId = some row.userId ∧ stored? secret = some row.secret) ∧
      Progress w₀ beside (own ++ changesOf (·.added w.stamp? expiresAt) settled) s' w' := by
  unfold Store.insertToken at hx ⊢
  obtain ⟨f, hexpiry⟩ | hexpiry := Store.expiryStamp_cases expiresAt s w
  · rw [Block.bind_apply, hexpiry] at hx
    rw [Block.bind_apply, hexpiry]
    cases hx
    exact ⟨_, _, rfl, no_answer, by simpa [changesOf] using h⟩
  rw [Block.bind_apply, hexpiry] at hx
  rw [Block.bind_apply, hexpiry]
  dsimp only at hx ⊢
  rcases hi : store.insert (Store.tokenInsertion id userId secret name (storedExpiry expiresAt)) s w
    with ⟨⟨result, s₁⟩, w₁⟩
  obtain ⟨settled, w₂, hsettled, hresult, hrow, hprogress⟩ := h.insert .addToken
    (fun f rows row rows' hf hok => (Store.tokenInsertion_puts hf hok).2.2.2.2) hi
  rw [Block.bind_apply, hi] at hx
  rw [Block.bind_apply, hsettled]
  cases settled with
  | error e =>
    obtain rfl | ⟨e', rfl⟩ := hresult
    all_goals
      cases hx
      exact ⟨_, _, rfl, no_answer, hprogress⟩
  | ok row =>
    obtain ⟨f, rows, rows', hf, hok⟩ := hrow row rfl
    obtain ⟨hnow, hexp, huser, hsecret, -⟩ := Store.tokenInsertion_puts hf hok
    have hadded : row.toToken.added w.stamp? expiresAt = [Change.addToken row] := by
      rw [hnow, Token.added, hexp]
      rfl
    rw [changesOf, ← hadded] at hprogress
    obtain rfl | ⟨e', rfl⟩ := hresult
    · cases hx
      refine ⟨_, _, rfl, ?_, hprogress⟩
      rintro _ ⟨⟩
      exact ⟨rfl, row, rfl, huser, hsecret⟩
    · cases hx
      exact ⟨_, _, rfl, no_answer, hprogress⟩

end Progress

namespace Store

/-- What is rolled back ends with its failure, whatever becomes of the rollback. -/
lemma rollBack_error (faults : Faults) (failure : Failure) (s : Session) (w : World) :
    ∃ f w', (rollBack faults failure s w : Except Failure α × World) = (.error f, w') ∧
      f.cause = failure.cause := by
  unfold rollBack
  cases faults.rollback <;> exact ⟨_, _, rfl, rfl⟩

/-- A transaction in which something has failed ends with that failure. -/
lemma finish_error {store : Store} {f : Failure} (s : Session) (w : World) :
    ∃ f' w', store.finish (.error f : Except Failure α) s w = (.error f', w') ∧ f'.cause = f.cause :=
  rollBack_error _ f s w.assigned

end Store

/-- A transaction ends with all the changes of its block, or fails with none. -/
lemma Store.transaction_cases {store : Store} {body : Block α} {w w' : World} {r : Except Failure α}
    (h : store.transaction body w = (r, w')) :
    ∃ result s w₁, body {} w = ((result, s), w₁) ∧ ∀ own, Progress w [] own s w₁ →
      (∃ a, result = .ok a ∧ r = .ok a ∧ w.Commits own w') ∨ ∃ f, r = .error f ∧ w.Commits [] w' :=
  ⟨_, _, _, rfl, fun _ hp => hp.finish h⟩

end BearerAccess
