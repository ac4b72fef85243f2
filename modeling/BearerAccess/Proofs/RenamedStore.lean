import BearerAccess.Proofs.AlikeStore
import BearerAccess.Proofs.Renaming

/-!
# Rows and sessions under a renaming

The queries over the rows, and what inserts and removals make of them, commute with renaming the
secrets: a secret is only ever compared with another one for being the same.
-/

namespace BearerAccess

variable {α α' : Type} {r : Renaming}

/-! ### Rows -/

namespace Tables

variable {t : Tables}

lemma renamed_injective : Function.Injective (renamed r) := by
  intro t u h
  have hrows : Function.Injective (TokenRow.renamed r) := by
    rintro ⟨id, userId, secret, name, expiresAt, createdAt⟩ ⟨id', userId', secret', name', expiresAt',
      createdAt'⟩ hk
    simp only [TokenRow.renamed, TokenRow.mk.injEq] at hk ⊢
    exact ⟨hk.1, hk.2.1, Renaming.string_injective hk.2.2.1, hk.2.2.2⟩
  obtain ⟨users, tokens⟩ := t
  obtain ⟨users', tokens'⟩ := u
  simp only [renamed, Tables.mk.injEq] at h ⊢
  exact ⟨h.1, List.map_injective_iff.mpr hrows h.2⟩

lemma insertUser_renamed (t : Tables) (u : NewUser) (createdAt : Stamp) :
    (t.renamed r).insertUser u createdAt =
      (t.insertUser u createdAt).map fun x => (x.1, x.2.renamed r) := by
  obtain ⟨users, tokens⟩ := t
  change Tables.insertUser ⟨users, tokens.map (·.renamed r)⟩ u createdAt = _
  unfold insertUser
  cases present "users.id" u.id with
  | error e => rfl
  | ok id =>
  cases present "users.username" u.username with
  | error e => rfl
  | ok username =>
  simp only [bind, Except.bind]
  by_cases hname : users.any (·.username = username)
  · rw [if_pos hname, if_pos hname]
    rfl
  rw [if_neg hname, if_neg hname]
  by_cases hid : users.any (·.id = id)
  · rw [if_pos hid, if_pos hid]
    rfl
  · rw [if_neg hid, if_neg hid]
    rfl

lemma insertToken_renamed (t : Tables) (k : NewToken) (createdAt : Stamp) :
    (t.renamed r).insertToken { k with secret := k.secret.map r.string } createdAt =
      (t.insertToken k createdAt).map fun x => (x.1.renamed r, x.2.renamed r) := by
  obtain ⟨users, tokens⟩ := t
  change Tables.insertToken ⟨users, tokens.map (·.renamed r)⟩ _ createdAt = _
  have hsecret (s : String) : (tokens.map (·.renamed r)).any (·.secret = r.string s) =
      tokens.any (·.secret = s) := by
    rw [List.any_map]
    refine congrArg (List.any tokens) (funext fun k => ?_)
    simp only [Function.comp_apply, TokenRow.renamed, Renaming.string_injective.eq_iff]
  have hid (id : String) :
      (tokens.map (·.renamed r)).any (·.id = id) = tokens.any (·.id = id) := by
    rw [List.any_map]
    rfl
  obtain ⟨id, userId, secret, name, expiresAt⟩ := k
  unfold insertToken
  cases id with
  | none => rfl
  | some id =>
  cases userId with
  | none => rfl
  | some userId =>
  cases secret with
  | none => rfl
  | some secret =>
  cases name with
  | none => rfl
  | some name =>
  simp only [present, Option.map_some, bind, Except.bind, hsecret, hid]
  by_cases htaken : tokens.any (·.secret = secret)
  · rw [if_pos htaken, if_pos htaken]
    rfl
  rw [if_neg htaken, if_neg htaken]
  by_cases hthere : tokens.any (·.id = id)
  · rw [if_pos hthere, if_pos hthere]
    rfl
  rw [if_neg hthere, if_neg hthere]
  by_cases howner : (!users.any (·.id = userId)) = true
  · rw [if_pos howner, if_pos howner]
    rfl
  · rw [if_neg howner, if_neg howner]
    simp only [renamed, pure, Except.pure, Except.map, List.map_append, List.map_cons, List.map_nil,
      TokenRow.renamed]

lemma deleteUser_renamed (t : Tables) (id : String) :
    (t.renamed r).deleteUser id = (t.deleteUser id).renamed r := by
  simp only [deleteUser, renamed, List.filter_map]
  rfl

lemma deleteToken_renamed (t : Tables) (id : String) :
    (t.renamed r).deleteToken id = (t.deleteToken id).renamed r := by
  simp only [deleteToken, renamed, List.filter_map]
  rfl

lemma tokenById?_renamed (t : Tables) (id : Option String) :
    (t.renamed r).tokenById? id = (t.tokenById? id).map (·.renamed r) := by
  simp only [tokenById?, renamed, List.find?_map]
  rfl

/-- A secret speaks for the owner that the secret in its place speaks for. -/
lemma ownerOfSecret?_renamed (t : Tables) (secret : Option String) (now : Stamp) :
    (t.renamed r).ownerOfSecret? (secret.map r.string) now = t.ownerOfSecret? secret now := by
  simp only [ownerOfSecret?, renamed, List.findSome?_map]
  refine congrArg (List.findSome? · t.tokens) (funext fun k => ?_)
  have hsame : some (r.string k.secret) = secret.map r.string ↔ some k.secret = secret :=
    (Option.map_injective Renaming.string_injective).eq_iff (a := some k.secret)
  simp only [Function.comp_apply, TokenRow.renamed, hsame]

lemma tokensOf_renamed (t : Tables) (userId : Option String) :
    (t.renamed r).tokensOf userId = (t.tokensOf userId).map (·.renamed r) := by
  let later : TokenRow → TokenRow → Bool := fun a b =>
    createdBefore (b.createdAt, b.id) (a.createdAt, a.id)
  have hsorted (tokens : List TokenRow) :
      (tokens.mergeSort later).map (·.renamed r) = (tokens.map (·.renamed r)).mergeSort later :=
    List.map_mergeSort fun _ _ _ _ => rfl
  change _ = (List.mergeSort _ later).map (·.renamed r)
  rw [hsorted]
  simp only [tokensOf, renamed, List.filter_map]
  rfl

end Tables

lemma Database.rows?_renamed (db : Database) : (db.renamed r).rows? = db.rows?.map (·.renamed r) := by
  unfold rows?
  change (if db.reachable then db.tables.map (·.renamed r) else none) = _
  split <;> rfl

lemma Database.counts?_renamed (db : Database) : (db.renamed r).counts? = db.counts? := by
  rw [counts?, rows?_renamed, Option.map_map, counts?]
  exact Option.map_congr fun t _ => by simp [Tables.renamed]

/-! ### Sessions -/

/-- Two inserts that differ in the secrets that they are given, and put rows that correspond. -/
structure Insertion.Renames (r : Renaming) (f : α → α') (i : Insertion α) (i' : Insertion α') :
    Prop where
  statement : i'.statement = i.statement
  parameters : i'.parameters = i.parameters.map (·.renamed r)
  storable : i'.storable = i.storable
  obstacle : i'.obstacle = i.obstacle
  apply : Option.Rel (fun g g' => ∀ t : Tables, g' (t.renamed r) =
    (g t).map fun x => (f x.1, x.2.renamed r)) i.apply i'.apply

lemma Store.userInsertion_renames (userId username : Option Text) (isStaff : Flag)
    (now : Option Stamp) :
    (userInsertion userId username isStaff now).Renames r id
      (userInsertion userId username isStaff now) where
  statement := rfl
  parameters := rfl
  storable := rfl
  obstacle := rfl
  apply := by
    cases now with
    | none => exact .none
    | some createdAt => exact .some fun t => t.insertUser_renamed _ _

lemma Store.tokenInsertion_renames (id userId secret : Option Text) (name : Label)
    (expiry now : Option Stamp) :
    (tokenInsertion id userId secret name expiry now).Renames r (TokenRow.renamed r)
      (tokenInsertion id userId (secret.map r.text) name expiry now) where
  statement := rfl
  parameters := rfl
  storable := rfl
  obstacle := by
    simp only [tokenInsertion, List.findSome?_cons, Renaming.textObstacle?_text]
  apply := by
    cases now with
    | none => exact .none
    | some createdAt =>
      refine .some fun t => ?_
      rw [Renaming.stored?_text]
      exact t.insertToken_renamed ⟨stored? id, stored? userId, stored? secret, stored? name.text?, expiry⟩
        createdAt

namespace Session

variable {f : α → α'} {i : Insertion α} {i' : Insertion α'}

lemma attempt_renamed (hi : i.Renames r f i') (rows? : Option Tables) (shut known : Bool) :
    attempt (rows?.map (·.renamed r)) shut known i' =
      (attempt rows? shut known i).map fun x => (f x.1, x.2.renamed r) := by
  unfold attempt
  rw [hi.storable, hi.obstacle, Option.isSome_map]
  split
  · rfl
  cases i.obstacle with
  | some e => rfl
  | none =>
    have happly := hi.apply
    generalize i.apply = x at happly
    generalize i'.apply = y at happly
    cases happly with
    | none => cases rows? <;> rfl
    | @some g g' hg =>
      cases rows? with
      | none => rfl
      | some rows =>
        dsimp only [Option.map_some]
        split
        · rfl
        · rw [hg]
          cases g rows <;> rfl

lemma holdsLock_renamed (s : Session) : (s.renamed r).holdsLock = s.holdsLock := by
  obtain ⟨_ | tables | _, c⟩ := s <;> rfl

lemma release_renamed (s : Session) (db : Database) :
    (s.renamed r).release (db.renamed r) = (s.release db).renamed r := by
  unfold release
  rw [holdsLock_renamed]
  split <;> rfl

lemma verdict_renamed (hi : i.Renames r f i') (s : Session) (db : Database) :
    (s.renamed r).verdict (db.renamed r) i' =
      (s.verdict db i).map fun x => (f x.1, x.2.renamed r) := by
  have hknows : (s.renamed r).knows i' = s.knows i := by
    unfold knows
    rw [hi.statement]
    rfl
  unfold verdict
  rw [hknows, Database.rows?_renamed]
  obtain ⟨_ | tables | _, c⟩ := s
  · exact attempt_renamed hi _ _ _
  · exact attempt_renamed hi (some tables) _ _
  · rfl

lemma prepare_renamed (hi : i.Renames r f i') (s : Session) (db : Database) :
    (s.renamed r).prepare (db.renamed r) i' = (s.prepare db i).renamed r := by
  have hstage : decide ((s.renamed r).stage ≠ .dead) = decide (s.stage ≠ .dead) := by
    obtain ⟨_ | tables | _, c⟩ := s <;> rfl
  unfold prepare
  rw [hi.storable, hi.statement, Database.rows?_renamed, Option.isSome_map, hstage]
  split <;> rfl

/-- What a session makes of an insert, it makes of the insert with another secret. -/
lemma execute_renamed (hi : i.Renames r f i') (s : Session) (db : Database) :
    (s.renamed r).execute (db.renamed r) i' =
      ((s.execute db i).1.map f, (s.execute db i).2.1.renamed r, (s.execute db i).2.2.renamed r) := by
  rw [execute_eq, execute_eq, verdict_renamed hi, prepare_renamed hi, release_renamed]
  cases s.verdict db i with
  | error e => rfl
  | ok x => rfl

lemma refusal?_renamed (hi : i.Renames r f i') (s : Session) (db : Database) :
    (s.renamed r).refusal? (db.renamed r) i' = (s.refusal? db i).map (·.renamed r) := by
  unfold refusal?
  rw [hi.statement, hi.parameters]
  obtain ⟨_ | tables | _, c⟩ := s
  · change some (if db.reachable then _ else _) = _
    cases db.reachable <;> rfl
  · rfl
  · rfl

/-- What a failed insert is raised from shows the other secret. -/
lemma origin?_renamed (hi : i.Renames r f i') (s : Session) (db : Database) (x : Except Rejection α) :
    (s.renamed r).origin? (db.renamed r) i' (x.map f) = (s.origin? db i x).map (·.renamed r) := by
  cases x with
  | ok a => rfl
  | error e =>
    cases e with
    | refused => exact refusal?_renamed hi s db
    | violated v => exact refusal?_renamed hi s db
    | _ => rfl

lemma commit?_renamed (s : Session) (faults : Faults) (db : Database) :
    (s.renamed r).commit? faults (db.renamed r) = (s.commit? faults db).map (·.renamed r) := by
  unfold commit?
  split
  · rfl
  · obtain ⟨_ | tables | _, c⟩ := s <;> rfl

end Session

end BearerAccess
