import BearerAccess.Proofs.Alike
import BearerAccess.Proofs.Call
import BearerAccess.Proofs.Failing

/-!
# Operations in worlds that are alike

The operations of the store come to the same in worlds that are alike. Where the likeness is not
strict, that takes texts that can be handed to the database, or tables in it if it can be reached. Else
the operation fails, and only its failure tells whether the statement has been prepared before.
-/

namespace BearerAccess

variable {α β ε : Type} {certain : Prop} {strict : Bool}
  {around : Surroundings → Surroundings → Prop} {store : Store} {w v : World}

/-- A text has a form that can be handed to the database. -/
def Plain (t : Option Text) : Prop := ∀ x ∈ t, x.toString?.isSome = true

lemma Plain.no_obstacle {t : Option Text} (h : Plain t) : textObstacle? t = none := by
  cases t with
  | none => rfl
  | some x => rw [textObstacle?, surrogates?, Option.bind_some, if_pos (h x rfl), Option.map_none]

lemma plain_ofString (s : String) : Plain (some (Text.ofString s)) := by
  rintro _ ⟨⟩
  rw [Text.toString?_ofString, Option.isSome_some]

/-- A database has its tables, if it can be reached. -/
def Database.Furnished (db : Database) : Prop := db.reachable = true → db.tables.isSome = true

lemma Database.Furnished.rows {db : Database} (h : db.Furnished) (hr : db.reachable = true) :
    db.rows?.isSome = true := by
  rw [rows?, if_pos hr]
  exact h hr

lemma Database.rows_of_not_furnished {db : Database} (h : ¬db.Furnished) : db.rows? = none := by
  cases hrows : db.rows? with
  | none => rfl
  | some rows => exact absurd (fun _ => by rw [tables_of_rows hrows, Option.isSome_some]) h

/-- What is handed over is plain, or the database is furnished, or the likeness is strict: which
statements have been prepared before does not matter. -/
def Settled (strict : Bool) (plain : Prop) (db : Database) : Prop :=
  strict = true ∨ plain ∨ db.Furnished

/-- A failure refuses a secret, other than one that keeps it from being looked at. -/
def Failure.Refuses (f : Failure) : Prop :=
  match f.cause with
  | .credential _ | .tokenRejected => True
  | _ => False

/-! ### Single operations -/

namespace Store

lemma undo_even (faults : Faults) (cause : Cause) :
    (undo faults cause : Action α).Even strict around := by
  intro w v h
  rw [undo_eq, undo_eq]
  exact ⟨rfl, h⟩

lemma breakOff_even (faults : Faults) (name : String) (origin : Origin) :
    (breakOff faults name origin : Action α).Even strict around := by
  intro w v h
  exact undo_even faults _ _ _ (h.raising origin origin)

/-- What becomes of a query does not depend on whether its statement has been prepared before. -/
def Answerable (strict : Bool) (db : Database) (query : Option Query) : Prop :=
  Settled strict (query.bind (textObstacle? ·.subject) = none) db

lemma answerable {db : Database} {statement : Statement} {t : Option Text}
    (h : Settled strict (Plain t) db) : Answerable strict db (some ⟨statement, t⟩) :=
  h.imp_right (.imp_left Plain.no_obstacle)

lemma putQuery_alike {query : Option Query} {db : Database} {c d : Connection}
    (hquery : certain → Answerable strict db query) (hr : db.reachable = true)
    (hc : strict = true → d = c) :
    Agree certain (putQuery db.rows? query c).1 (putQuery db.rows? query d).1 ∧
      (strict = true → (putQuery db.rows? query d).2 = (putQuery db.rows? query c).2) := by
  by_cases hs : strict = true
  · obtain rfl := hc hs
    exact ⟨.same _, fun _ => rfl⟩
  refine ⟨?_, fun h => absurd h hs⟩
  by_cases hnone : query.bind (textObstacle? ·.subject) = none
  · refine .of_eq ?_
    unfold putQuery
    rw [hnone]
    cases db.rows? <;> rfl
  by_cases hfurnished : db.Furnished
  · obtain ⟨rows, hrows⟩ := Option.isSome_iff_exists.mp (hfurnished.rows hr)
    refine .of_eq ?_
    unfold putQuery
    rw [hrows]
    cases query.bind (textObstacle? ·.subject) <;> rfl
  · have hcertain : ¬certain := fun hc => (hquery hc).elim hs (·.elim hnone hfurnished)
    obtain ⟨r, hobstacle⟩ := Option.ne_none_iff_exists'.mp hnone
    unfold putQuery
    rw [Database.rows_of_not_furnished hfurnished, hobstacle]
    exact .errors hcertain _ _

lemma operate_alike (h : w.Alike strict around v) {name : String} {query : Option Query}
    {work : Work α} (hquery : certain → Answerable strict w.database query) :
    SameEffect certain strict around (store.operate name query work w)
      (store.operate name query work v) := by
  unfold operate
  rw [Action.bind_apply, Action.bind_apply, Action.get_apply, Action.get_apply]
  dsimp only
  rw [h.tasks]
  refine SameEffect.bind ⟨.same _, h.assigned⟩ fun _ w₁ v₁ hassigned h₁ => ?_
  cases hassigned
  rw [Action.bind_apply, Action.bind_apply, Action.get_apply, Action.get_apply]
  dsimp only
  rw [h₁.database]
  split
  · exact (breakOff_even _ _ _ _ _ h₁).effect
  rename_i hopen
  have hr : w.database.reachable = true := by
    by_contra hr
    have hshut : w.assigned.database.reachable = false := Bool.not_eq_true _ ▸ hr
    exact hopen (by rw [hshut, Bool.not_false, Bool.or_true])
  simp only [Action.bind_apply, Action.get_apply, Action.modify_apply, Action.modifyGet_apply]
  have hdb : w.assigned.connect.2.database = w.database :=
    World.database_of_ground (World.ground_connect _)
  obtain ⟨hconnection, h₂⟩ := h₁.connect
  generalize w.assigned.connect = connected at hconnection h₂ hdb
  generalize v₁.connect = connected' at hconnection h₂
  obtain ⟨c, w₂⟩ := connected
  obtain ⟨c', v₂⟩ := connected'
  dsimp only at hconnection h₂ hdb ⊢
  rw [← hdb] at hquery hr
  rw [h₂.database]
  obtain ⟨hanswer, hback⟩ := putQuery_alike hquery hr hconnection
  generalize putQuery w₂.database.rows? query c = put at hanswer hback
  generalize putQuery w₂.database.rows? query c' = put' at hanswer hback
  obtain ⟨answer, e⟩ := put
  obtain ⟨answer', e'⟩ := put'
  dsimp only at hanswer hback ⊢
  have h₃ := h₂.giveBack hback
  cases hanswer with
  | errors hcertain r r' =>
    cases r <;> cases r' <;> dsimp only <;> simp only [breakOff_apply, undo_eq]
    all_goals exact ⟨.errors hcertain _ _, h₃.change h₃.core h₃.idle rfl rfl⟩
  | same =>
    cases answer with
    | error r =>
      cases r with
      | unencodable position run => exact (undo_even _ _ _ _ h₃).effect
      | _ => exact (breakOff_even _ _ _ _ _ h₃).effect
    | ok rows =>
      dsimp only
      rcases work rows with cause | ⟨a, _ | left⟩
      · exact (undo_even _ _ _ _ h₃).effect
      · dsimp only
        split
        · exact (breakOff_even _ _ _ _ _ h₃).effect
        · exact ⟨.same _, h₃⟩
      · dsimp only
        split
        · exact (breakOff_even _ _ _ _ _ h₃).effect
        · exact ⟨.same _, h₃.change_database fun db => { db with tables := some left }⟩

lemma operate_even {name : String} {work : Work α} {query : Option Query}
    (hquery : query.bind (textObstacle? ·.subject) = none) :
    (store.operate name query work).Even strict around := by
  intro w v h
  have heffect : SameEffect True strict around (store.operate name query work w)
      (store.operate name query work v) := operate_alike h fun _ => .inr (.inl hquery)
  exact heffect.answer trivial

lemma userByToken_alike (h : w.Alike strict around v) {secret : Option Text}
    (now : Option DateTime) (hsecret : certain → Settled strict (Plain secret) w.database) :
    SameEffect certain strict around (store.userByToken secret now w)
      (store.userByToken secret now v) := by
  refine (moment_even now w v h).effect.bind fun _ w₁ v₁ hmoment h₁ => operate_alike h₁ ?_
  obtain ⟨⟨f, hm⟩, -⟩ | ⟨u, hm, -⟩ := moment_cases now w
  · rw [hm] at hmoment
    cases hmoment
  · rw [hm] at hmoment
    cases hmoment
    exact fun hc => answerable (hsecret hc)

/-- A lookup by a secret fails with no refusal of the secret. -/
lemma userByToken_error {secret : Option Text} {now : Option DateTime} {f : Failure} {w' : World}
    (h : store.userByToken secret now w = (.error f, w')) : ¬f.Refuses := by
  obtain ⟨e, hmoment, he⟩ | ⟨u, w₁, hmoment, hoperate⟩ := Action.bind_cases h
  · cases he
    obtain ⟨rfl, -⟩ := moment_error hmoment
    exact id
  · obtain ⟨cause, rfl, hraises⟩ := operate_error hoperate
    unfold undone
    cases (store.faults w₁.tasks).rollback with
    | some message => exact id
    | none =>
      cases hraises with
      | hindered => exact id
      | unencodable => exact id
      | worked hrows hwork => cases hwork

lemma isAvailable_apply (w : World) : isAvailable w = (w.turn.database.reachable,
    if w.turn.database.reachable then w.turn
    else w.turn.write .error .store
      "Encountered an error talking to database: OperationalError") := by
  cases hr : w.turn.database.reachable with
  | true => simp [isAvailable, hr]
  | false =>
    simp only [isAvailable, Computation.bind_apply, Computation.modify_apply,
      Computation.get_apply, hr]
    rfl

lemma isAvailable_alike (h : w.Alike strict around v) :
    SameAnswer strict around (isAvailable w) (isAvailable v) := by
  have hturn := h.turn
  rw [isAvailable_apply, isAvailable_apply, hturn.database]
  refine ⟨rfl, ?_⟩
  split
  · exact hturn
  · exact hturn.write

lemma changeTables_even (statement : String) (change : Option Tables → Option Tables) :
    (changeTables statement change).Even strict around := by
  intro w v h
  have hturn := h.turn
  unfold changeTables
  simp only [Action.bind_apply, Action.get_apply, Action.modify_apply]
  rw [hturn.database]
  cases schemaFailure? w.turn.database statement
      (decide (change w.turn.database.tables ≠ w.turn.database.tables)) with
  | some cause => exact ⟨rfl, hturn⟩
  | none => exact ⟨rfl, hturn.with_database _⟩

end Store

lemma authenticate_alike (h : w.Alike strict around v) {secret : Option Text}
    (now : Option DateTime) (hsecret : certain → Settled strict (Plain secret) w.database) :
    SameEffect certain strict around (authenticate store secret now w)
      (authenticate store secret now v) := by
  unfold authenticate
  by_cases hempty : secret.getD [] = []
  · rw [if_pos hempty, Action.bind_apply, Action.bind_apply]
    exact ⟨.same _, h⟩
  rw [if_neg hempty]
  refine (Store.userByToken_alike h now hsecret).bind fun found w₁ v₁ _ h₁ => ?_
  cases found with
  | none => exact ⟨.same _, h₁⟩
  | some identity => exact ⟨.same _, h₁⟩

/-! ### Sessions -/

namespace Session

/-- Two sessions that have come as far as each other, on the same connection if the likeness is
strict, and on none while the database is out of reach. -/
structure Alike (strict reachable : Bool) (s t : Session) : Prop where
  stage : t.stage = s.stage
  same : strict = true → t = s
  bare : reachable = false → s.connection = none ∧ t.connection = none

variable {reachable : Bool}

lemma Alike.start : ({} : Session).Alike strict reachable {} := ⟨rfl, fun _ => rfl, fun _ => ⟨rfl, rfl⟩⟩

/-- What becomes of an insert in a session does not depend on whether its statement has been prepared
before. -/
def Settles (strict : Bool) (s : Session) (db : Database) (obstacle : Option Rejection) : Prop :=
  strict = true ∨ (obstacle = none ∨ obstacle = some .refused) ∨ s.stage ≠ .fresh ∨ db.Furnished

lemma attempt_known {rows? : Option Tables} {i : Insertion α} (shut known other : Bool)
    (h : (i.obstacle = none ∨ i.obstacle = some .refused) ∨ rows?.isSome = true) :
    attempt rows? shut known i = attempt rows? shut other i := by
  unfold attempt
  cases rows? with
  | some rows => simp only [Option.isSome_some, Bool.or_true]
  | none =>
    obtain (hnone | hrefused) | hrows := h
    · rw [hnone]
      cases i.apply <;> simp only [ite_self]
    · rw [hrefused]
      simp only [ite_self]
    · cases hrows

/-- What the database makes of an insert in a session. -/
def verdict (s : Session) (db : Database) (i : Insertion α) : Except Rejection (α × Tables) :=
  match s.stage with
  | .dead => .error .refused
  | .fresh => attempt db.rows? db.isShut (s.knows i) i
  | .writing rows => attempt (some rows) false (s.knows i) i

lemma execute_eq (s : Session) (db : Database) (i : Insertion α) :
    s.execute db i = match s.verdict db i with
      | .ok (a, rows) =>
        (.ok a, { s.prepare db i with stage := .writing rows }, { db with locked := true })
      | .error e => (.error e, (s.prepare db i).dying, s.release db) := rfl

lemma verdict_agree {s t : Session} {db : Database} (h : s.Alike strict db.reachable t)
    {i : Insertion α} (hi : certain → s.Settles strict db i.obstacle) :
    Agree certain (s.verdict db i) (t.verdict db i) := by
  by_cases hs : strict = true
  · rw [h.same hs]
    exact .same _
  unfold verdict
  rw [h.stage]
  cases hstage : s.stage with
  | dead => exact .same _
  | writing rows => exact .of_eq (attempt_known _ _ _ (.inr rfl))
  | fresh =>
    by_cases hplain : i.obstacle = none ∨ i.obstacle = some .refused
    · exact .of_eq (attempt_known _ _ _ (.inl hplain))
    by_cases hfurnished : db.Furnished
    · cases hr : db.reachable with
      | true => exact .of_eq (attempt_known _ _ _ (.inr (hfurnished.rows hr)))
      | false =>
        obtain ⟨hbare, hbare'⟩ := h.bare hr
        rw [knows, knows, hbare, hbare']
        exact .same _
    · have hcertain : ¬certain := fun hc =>
        (hi hc).elim hs (·.elim hplain (·.elim (· hstage) hfurnished))
      obtain ⟨hnone, -⟩ := not_or.mp hplain
      obtain ⟨r, hobstacle⟩ := Option.ne_none_iff_exists'.mp hnone
      have hfails : ∀ known, ∃ e, attempt none db.isShut known i = .error e := by
        intro known
        unfold attempt
        rw [hobstacle]
        split
        · exact ⟨_, rfl⟩
        · exact ⟨_, rfl⟩
      rw [Database.rows_of_not_furnished hfurnished]
      obtain ⟨e, he⟩ := hfails (s.knows i)
      obtain ⟨e', he'⟩ := hfails (t.knows i)
      rw [he, he']
      exact .errors hcertain _ _

lemma bare_execute {s : Session} (h : s.connection = none) (db : Database) (i : Insertion α) :
    (s.execute db i).2.1.connection = none := by
  have hprepared : (s.prepare db i).connection = none := by
    unfold prepare
    split
    · exact congrArg (Option.map _) h
    · exact h
  rw [execute_eq]
  rcases s.verdict db i with e | ⟨a, rows⟩
  · exact hprepared
  · exact hprepared

lemma reachable_release (s : Session) (db : Database) :
    (s.release db).reachable = db.reachable := by
  unfold release
  split <;> rfl

lemma reachable_execute (s : Session) (db : Database) (i : Insertion α) :
    (s.execute db i).2.2.reachable = db.reachable := by
  rw [execute_eq]
  rcases s.verdict db i with e | ⟨a, rows⟩
  · exact s.reachable_release db
  · rfl

lemma execute_alike {s t : Session} {db : Database} (h : s.Alike strict db.reachable t)
    {i : Insertion α} (hi : certain → s.Settles strict db i.obstacle) :
    Agree certain (s.execute db i).1 (t.execute db i).1 ∧
      (s.execute db i).2.1.Alike strict db.reachable (t.execute db i).2.1 ∧
      (t.execute db i).2.2 = (s.execute db i).2.2 := by
  have hsame : strict = true → (t.execute db i).2.1 = (s.execute db i).2.1 :=
    fun hs => by rw [h.same hs]
  have hbare : db.reachable = false → (s.execute db i).2.1.connection = none ∧
      (t.execute db i).2.1.connection = none :=
    fun hr => (h.bare hr).imp (bare_execute · db i) (bare_execute · db i)
  suffices hrest : Agree certain (s.execute db i).1 (t.execute db i).1 ∧
      (t.execute db i).2.1.stage = (s.execute db i).2.1.stage ∧
      (t.execute db i).2.2 = (s.execute db i).2.2 from
    ⟨hrest.1, ⟨hrest.2.1, hsame, hbare⟩, hrest.2.2⟩
  have hverdict := verdict_agree h hi
  rw [execute_eq, execute_eq]
  generalize s.verdict db i = x at hverdict
  generalize t.verdict db i = y at hverdict
  cases hverdict with
  | errors hc e e' => exact ⟨.errors hc e e', rfl, release_congr h.stage db⟩
  | same =>
    rcases x with e | ⟨a, rows⟩
    · exact ⟨.same _, rfl, release_congr h.stage db⟩
    · exact ⟨.same _, rfl, rfl⟩

lemma commit?_congr {s t : Session} (h : t.stage = s.stage) (faults : Faults) (db : Database) :
    t.commit? faults db = s.commit? faults db := by
  rw [commit?, commit?, h]

end Session

namespace World

lemma attach_eq (w : World) (s : Session) : ∃ idle, (w.attach s).2 = { w with idle } := by
  unfold attach
  split
  · exact ⟨w.idle, rfl⟩
  · exact w.connect_eq

lemma attach_of_unreachable (h : w.database.reachable = false) (s : Session) :
    w.attach s = (s, w) := by
  rw [attach, h, Bool.not_false, Bool.or_true, if_pos rfl]

lemma detach_eq (w : World) (s : Session) : ∃ idle, w.detach s = { w with idle } := by
  unfold detach
  split
  · exact ⟨w.idle, rfl⟩
  · exact w.giveBack_eq _

namespace Alike

lemma attach (h : w.Alike strict around v) {s t : Session}
    (hst : s.Alike strict w.database.reachable t) :
    (w.attach s).1.Alike strict w.database.reachable (v.attach t).1 ∧
      (w.attach s).2.Alike strict around (v.attach t).2 := by
  have hconnection := h.connect
  cases hr : w.database.reachable with
  | false =>
    rw [attach_of_unreachable hr s, attach_of_unreachable (h.database ▸ hr) t]
    exact ⟨hr ▸ hst, h⟩
  | true =>
  by_cases hs : strict = true
  · obtain rfl := hst.same hs
    unfold World.attach
    rw [h.database]
    split
    · exact ⟨hr ▸ hst, h⟩
    · have hsession := congrArg (fun c => ({ t with connection := some c } : Session))
        (hconnection.1 hs)
      exact ⟨⟨rfl, fun _ => hsession, nofun⟩, hconnection.2⟩
  · obtain ⟨idle, hw⟩ := w.attach_eq s
    obtain ⟨idle', hv⟩ := v.attach_eq t
    refine ⟨⟨by simp [hst.stage], fun he => absurd he hs, nofun⟩, ?_⟩
    rw [hw, hv]
    exact h.change h.core (fun he => absurd he hs) rfl rfl

lemma detach (h : w.Alike strict around v) {reachable : Bool} {s t : Session}
    (hst : s.Alike strict reachable t) :
    (w.detach s).Alike strict around (v.detach t) := by
  by_cases hs : strict = true
  · obtain rfl := hst.same hs
    unfold World.detach
    split
    · exact h
    · exact h.giveBack fun _ => rfl
  · obtain ⟨idle, hw⟩ := w.detach_eq s
    obtain ⟨idle', hv⟩ := v.detach_eq t
    rw [hw, hv]
    exact h.change h.core (fun he => absurd he hs) rfl rfl

end Alike

end World

/-! ### Parts of a block -/

/-- What two sessions in two worlds come to agrees, and leaves both alike. -/
def SameProgress (certain : Prop) (strict : Bool) (around : Surroundings → Surroundings → Prop)
    (x y : (Except ε β × Session) × World) : Prop :=
  Agree certain x.1.1 y.1.1 ∧ x.1.2.Alike strict x.2.database.reachable y.1.2 ∧
    x.2.Alike strict around y.2

variable {s t : Session}

lemma SameProgress.bind {b : Block α} {f : α → Block β}
    (hb : SameProgress certain strict around (b s w) (b t v))
    (hf : ∀ x s₁ w₁ t₁ v₁, b s w = ((.ok x, s₁), w₁) → s₁.Alike strict w₁.database.reachable t₁ →
      w₁.Alike strict around v₁ → SameProgress certain strict around (f x s₁ w₁) (f x t₁ v₁)) :
    SameProgress certain strict around ((b >>= f) s w) ((b >>= f) t v) := by
  obtain ⟨hanswer, hsession, hworld⟩ := hb
  rw [Block.bind_apply, Block.bind_apply]
  rcases hw : b s w with ⟨⟨r, s₁⟩, w₁⟩
  rcases hv : b t v with ⟨⟨r', t₁⟩, v₁⟩
  rw [hw, hv] at hanswer hsession hworld
  cases hanswer with
  | errors hc e e' => exact ⟨.errors hc e e', hsession, hworld⟩
  | same =>
    cases r with
    | error e => exact ⟨.same _, hsession, hworld⟩
    | ok x => exact hf x s₁ w₁ t₁ v₁ hw hsession hworld

lemma SameProgress.map {b : Block α} (hb : SameProgress certain strict around (b s w) (b t v))
    (f : α → β) : SameProgress certain strict around ((f <$> b) s w) ((f <$> b) t v) := by
  obtain ⟨hanswer, hsession, hworld⟩ := hb
  rw [Block.map_apply, Block.map_apply]
  exact ⟨hanswer.map f, hsession, hworld⟩

lemma SameEffect.outside {a : Action α} (ha : SameEffect certain strict around (a w) (a v))
    (hreachable : (a w).2.database.reachable = w.database.reachable)
    (hst : s.Alike strict w.database.reachable t) :
    SameProgress certain strict around (Block.outside a s w) (Block.outside a t v) := by
  refine ⟨ha.1, ?_, ha.2⟩
  change s.Alike strict (a w).2.database.reachable t
  rwa [hreachable]

lemma Action.Even.outside {a : Action α} (ha : a.Even strict around) (hquiet : a.Quiet)
    (hst : s.Alike strict w.database.reachable t) (h : w.Alike strict around v) :
    SameProgress certain strict around (Block.outside a s w) (Block.outside a t v) :=
  (ha w v h).effect.outside
    (congrArg Database.reachable (World.database_of_ground (hquiet w))) hst

namespace Store

lemma handOver_alike (h : w.Alike strict around v) (hst : s.Alike strict w.database.reachable t)
    {i : Option Stamp → Insertion α}
    (hi : certain → s.Settles strict w.database (i w.stamp?).obstacle) :
    SameProgress certain strict around (handOver i s w) (handOver i t v) := by
  obtain ⟨hsession, hworld⟩ := h.attach hst
  have hg := World.ground_attach s w
  have hsettles : certain → (w.attach s).1.Settles strict (w.attach s).2.database
      (i (w.attach s).2.stamp?).obstacle := by
    rw [World.database_of_ground hg, World.stamp_of_ground hg]
    unfold Session.Settles
    rw [World.stage_attach]
    exact hi
  rw [← World.database_of_ground hg] at hsession
  obtain ⟨hanswer, hafter, hdatabase⟩ := Session.execute_alike hsession hsettles
  unfold handOver
  refine ⟨?_, ?_, ?_⟩
  all_goals
    dsimp only
    rw [hworld.database, hworld.stamp]
  · exact hanswer
  · simp only [World.database_raising, Session.reachable_execute]
    exact hafter
  · rw [hdatabase]
    exact (hworld.with_database _).raising _ _

lemma insert_alike (h : w.Alike strict around v) (hst : s.Alike strict w.database.reachable t)
    {i : Option Stamp → Insertion α}
    (hi : certain → s.Settles strict w.database (i w.stamp?).obstacle) :
    ∃ x y, (store.insert i s w).1.1 = .ok x ∧ (store.insert i t v).1.1 = .ok y ∧
      SameProgress certain strict around ((x, (store.insert i s w).1.2), (store.insert i s w).2)
        ((y, (store.insert i t v).1.2), (store.insert i t v).2) := by
  have hassigned := h.assigned
  unfold insert
  rw [h.tasks]
  dsimp only
  split
  · exact ⟨_, _, rfl, rfl, .same _, hst, hassigned.raising _ _⟩
  split
  · refine ⟨_, _, rfl, rfl, .same _, ⟨rfl, fun hs => by rw [hst.same hs], ?_⟩, ?_⟩
    · simp only [World.database_raising, Session.reachable_release]
      exact hst.bare
    · dsimp only
      rw [Session.release_congr hst.stage]
      exact (hassigned.change_database s.release).raising _ _
  obtain ⟨hanswer, hsession, hworld⟩ := handOver_alike hassigned hst hi
  rcases hw : handOver i s w.assigned with ⟨⟨r, s₁⟩, w₁⟩
  rcases hv : handOver i t v.assigned with ⟨⟨r', t₁⟩, v₁⟩
  rw [hw, hv] at hanswer hsession hworld
  cases hanswer with
  | errors hc e e' => exact ⟨_, _, rfl, rfl, .errors hc _ _, hsession, hworld⟩
  | same =>
    cases r with
    | error e => exact ⟨_, _, rfl, rfl, .same _, hsession, hworld⟩
    | ok a =>
      dsimp only
      split
      · exact ⟨_, _, rfl, rfl, .same _, hsession, hworld.raising _ _⟩
      · exact ⟨_, _, rfl, rfl, .same _, hsession, hworld⟩

/-- Where what an insert comes to is passed on, the same may be said of what becomes of it. -/
lemma insert_bind_alike (h : w.Alike strict around v)
    (hst : s.Alike strict w.database.reachable t) {i : Option Stamp → Insertion α}
    (hi : certain → s.Settles strict w.database (i w.stamp?).obstacle)
    {g : Except Refusal α → Block β} {f : α → β} {c : Refusal → Cause}
    (hok : ∀ a, g (.ok a) = pure (f a)) (herror : ∀ r, g (.error r) = fail (c r)) :
    SameProgress certain strict around ((store.insert i >>= g) s w) ((store.insert i >>= g) t v) := by
  obtain ⟨x, y, hx, hy, hanswer, hsession, hworld⟩ := insert_alike h hst hi
  rcases hw : store.insert i s w with ⟨⟨r, s₁⟩, w₁⟩
  rcases hv : store.insert i t v with ⟨⟨r', t₁⟩, v₁⟩
  rw [hw] at hx hsession hworld
  rw [hv] at hy hsession hworld
  cases hx
  cases hy
  rw [Block.bind_apply, Block.bind_apply, hw, hv]
  dsimp only at hanswer ⊢
  cases hanswer with
  | errors hc r r' =>
    rw [herror, herror]
    exact ⟨.errors hc _ _, hsession, hworld⟩
  | same =>
    cases x with
    | error r =>
      rw [herror]
      exact ⟨.same _, hsession, hworld⟩
    | ok a =>
      rw [hok]
      exact ⟨.same _, hsession, hworld⟩

lemma rollBack_alike (h : w.Alike strict around v) (hst : s.Alike strict w.database.reachable t)
    (faults : Faults) {f f' : Failure}
    (hf : Agree certain (.error f : Except Failure α) (.error f')) :
    SameEffect certain strict around
      (rollBack faults f s w : Except Failure α × World) (rollBack faults f' t v) := by
  have hdetached := (h.change_database s.release).detach hst
  unfold rollBack
  dsimp only
  rw [Session.release_congr hst.stage]
  cases faults.rollback with
  | none => exact ⟨hf, hdetached⟩
  | some message =>
    refine ⟨?_, hdetached.write⟩
    cases hf with
    | same => exact .same _
    | errors hc => exact .errors hc _ _

lemma finish_alike (h : w.Alike strict around v) (hst : s.Alike strict w.database.reachable t)
    {x y : Except Failure α} (hxy : Agree certain x y) :
    SameEffect certain strict around (store.finish x s w) (store.finish y t v) := by
  have hassigned := h.assigned
  unfold finish
  rw [h.tasks]
  dsimp only
  cases hxy with
  | errors hc f f' => exact rollBack_alike hassigned hst _ (.errors hc f f')
  | same =>
    cases x with
    | error failure => exact rollBack_alike hassigned hst _ (.same _)
    | ok a =>
      dsimp only
      rw [Session.commit?_congr hst.stage, hassigned.database]
      split
      · exact rollBack_alike (hassigned.raising _ _) hst _ (.same _)
      · exact ⟨.same _, (hassigned.with_database _).detach hst⟩

lemma transaction_alike {body : Block α}
    (hbody : SameProgress certain strict around (body {} w) (body {} v)) :
    SameEffect certain strict around (store.transaction body w) (store.transaction body v) := by
  obtain ⟨hanswer, hsession, hworld⟩ := hbody
  exact finish_alike hworld hsession hanswer

/-! ### Inserts of users and tokens -/

lemma insertUser_alike (h : w.Alike strict around v) (hst : s.Alike strict w.database.reachable t)
    {id username : Option Text} (isStaff : Flag)
    (hi : certain → s.Settles strict w.database ([id, username].findSome? textObstacle?)) :
    SameProgress certain strict around (store.insertUser id username isStaff s w)
      (store.insertUser id username isStaff t v) :=
  insert_bind_alike h hst hi (fun _ => rfl) fun _ => rfl

lemma expiryStamp_alike (h : w.Alike strict around v) (hst : s.Alike strict w.database.reachable t)
    (expiresAt : Option DateTime) :
    SameProgress certain strict around (expiryStamp expiresAt s w) (expiryStamp expiresAt t v) := by
  cases expiresAt with
  | none => exact ⟨.same _, hst, h⟩
  | some e =>
    unfold expiryStamp DateTime.universal
    refine SameProgress.map ?_ _
    cases e.toUniversal? with
    | none => exact ⟨.same _, hst, h⟩
    | some u => exact ⟨.same _, hst, h⟩

lemma expiryStamp_ok {expiresAt : Option DateTime} {expiry : Option Stamp} {s₁ : Session}
    {w₁ : World} (h : expiryStamp expiresAt s w = ((.ok expiry, s₁), w₁)) : s₁ = s ∧ w₁ = w := by
  obtain ⟨f, hexpiry⟩ | hexpiry := expiryStamp_cases expiresAt s w
  · rw [hexpiry] at h
    cases h
  · rw [hexpiry] at h
    cases h
    exact ⟨rfl, rfl⟩

lemma insertToken_alike (h : w.Alike strict around v) (hst : s.Alike strict w.database.reachable t)
    {id userId secret : Option Text} {name : Label} (expiresAt : Option DateTime)
    (hi : certain → s.Settles strict w.database
      (([id, userId, secret].findSome? textObstacle?).or name.obstacle?)) :
    SameProgress certain strict around (store.insertToken id userId secret name expiresAt s w)
      (store.insertToken id userId secret name expiresAt t v) := by
  refine SameProgress.bind (expiryStamp_alike h hst expiresAt) fun expiry s₁ w₁ t₁ v₁ hexpiry => ?_
  obtain ⟨rfl, rfl⟩ := expiryStamp_ok hexpiry
  intro hsession hworld
  exact insert_bind_alike hworld hsession hi (fun _ => rfl) fun _ => rfl

end Store

end BearerAccess
