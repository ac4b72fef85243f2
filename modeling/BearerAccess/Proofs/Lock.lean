import BearerAccess.Proofs.AlikeCall
import BearerAccess.Proofs.Careful
import BearerAccess.Proofs.Rejected
import BearerAccess.Proofs.Working

/-!
# The write lock

What a call comes to while another client holds the write lock of the database. It comes to what it
would come to without the lock, and then changes nothing, or it is refused with the failure by which
calls of its kind tell that they could not write. Calls that only read are never refused.
-/

namespace BearerAccess

variable {α β : Type} {refusal : Option Cause} {cause : Cause} {w v : World} {s t : Session}

/-! ### The world without the lock -/

/-- The database as it would be if nobody held its write lock. -/
def Database.unlocked (db : Database) : Database := { db with locked := false }

namespace World

def unlocked (w : World) : World := { w with database := w.database.unlocked }

lemma unlocked_of_open (h : w.database.locked = false) : w.unlocked = w := by
  have hdb : w.database.unlocked = w.database := by rw [Database.unlocked, ← h]
  rw [unlocked, hdb]

lemma connect_unlocked (w : World) : w.unlocked.connect = (w.connect.1, w.connect.2.unlocked) := by
  unfold connect
  rw [show w.unlocked.idle = w.idle from rfl]
  split <;> rfl

lemma giveBack_unlocked (w : World) (c : Connection) :
    w.unlocked.giveBack c = (w.giveBack c).unlocked := by
  unfold giveBack
  rw [apply_ite unlocked]
  rfl

lemma write_unlocked (w : World) (severity : Severity) (source : Source) (message : Text) :
    w.unlocked.write severity source message = (w.write severity source message).unlocked := by
  unfold write keep
  rw [apply_ite unlocked]
  rfl

lemma turn_unlocked (w : World) : w.unlocked.turn = w.turn.unlocked := by
  unfold turn
  rw [connect_unlocked, apply_ite unlocked, ← giveBack_unlocked]
  rfl

lemma attach_unlocked (w : World) (s : Session) :
    w.unlocked.attach s = ((w.attach s).1, (w.attach s).2.unlocked) := by
  unfold attach
  rw [connect_unlocked, show w.unlocked.database.reachable = w.database.reachable from rfl]
  split <;> rfl

lemma visit_unlocked (query : Option Store.Query) (w : World) :
    w.unlocked.visit query = ((w.visit query).1, (w.visit query).2.unlocked) := by
  unfold visit
  rw [connect_unlocked, ← giveBack_unlocked]
  rfl

lemma draw_unlocked (size : Nat) (w : World) :
    w.unlocked.draw size = ((w.draw size).1, (w.draw size).2.unlocked) := by
  unfold draw
  rw [show w.unlocked.entropy = w.entropy from rfl, show w.unlocked.draws = w.draws from rfl]
  dsimp only
  split <;> rfl

end World

lemma newIdentifier_unlocked (w : World) :
    newIdentifier w.unlocked = ((newIdentifier w).1, (newIdentifier w).2.unlocked) := by
  rw [newIdentifier_apply, newIdentifier_apply, World.draw_unlocked,
    show w.unlocked.clock = w.clock from rfl]
  split
  · rfl
  split
  · rfl
  · rfl

lemma moment_unlocked (now : Option DateTime) (w : World) :
    moment now w.unlocked = ((moment now w).1, w.unlocked) := by
  cases now with
  | none =>
    simp only [moment, presentTime, Action.bind_apply, Action.get_apply]
    rw [show w.unlocked.clock = w.clock from rfl]
    cases DateTime.ofClock? w.clock <;> rfl
  | some now =>
    simp only [moment, Action.liftExcept_apply]

/-! ### Inserts -/

lemma Action.bind_error {a : Action α} (f : α → Action β) {e : Failure} (h : (a w).1 = .error e) :
    ((a >>= f) w).1 = .error e := by
  rw [bind_apply]
  rcases ha : a w with ⟨x, w'⟩
  rw [ha] at h
  dsimp only at h
  subst h
  rfl

lemma Block.bind_error {b : Block α} (f : α → Block β) {e : Failure}
    (h : (b s w).1.1 = .error e) : ((b >>= f) s w).1.1 = .error e := by
  rw [bind_apply]
  rcases hb : b s w with ⟨⟨x, s'⟩, w'⟩
  rw [hb] at h
  dsimp only at h
  subst h
  rfl

lemma Store.transaction_error {body : Block α} {e : Failure} (h : (body {} w).1.1 = .error e) :
    (({} : Store).transaction body w).1 = .error e := by
  unfold transaction
  rcases hb : body {} w with ⟨⟨x, s'⟩, w'⟩
  rw [hb] at h
  dsimp only at h
  subst h
  rfl

/-- What fails in one world fails in the other in the same way, or with the given cause. -/
def Thwarted (cause : Cause) (x y : Except Failure α) : Prop :=
  ∃ f, x = .error f ∧ (f = ⟨cause, none⟩ ∨ y = .error f)

namespace Thwarted

lemma of_error (f : Failure) : Thwarted cause (.error f : Except Failure α) (.error f) :=
  ⟨f, rfl, .inr rfl⟩

lemma of_imp {x y : Except Failure α} {x' y' : Except Failure β} (h : Thwarted cause x y)
    (hx : ∀ f, x = .error f → x' = .error f) (hy : ∀ f, y = .error f → y' = .error f) :
    Thwarted cause x' y' := by
  obtain ⟨f, hf, hother⟩ := h
  exact ⟨f, hx f hf, hother.imp_right (hy f)⟩

lemma bind {a : Action α} (h : Thwarted cause (a w).1 (a v).1) (f : α → Action β) :
    Thwarted cause ((a >>= f) w).1 ((a >>= f) v).1 :=
  h.of_imp (fun _ => Action.bind_error f) fun _ => Action.bind_error f

lemma block_bind {b : Block α} (h : Thwarted cause (b s w).1.1 (b t v).1.1) (f : α → Block β) :
    Thwarted cause ((b >>= f) s w).1.1 ((b >>= f) t v).1.1 :=
  h.of_imp (fun _ => Block.bind_error f) fun _ => Block.bind_error f

lemma transaction {body : Block α} (h : Thwarted cause (body {} w).1.1 (body {} v).1.1) :
    Thwarted cause (({} : Store).transaction body w).1 (({} : Store).transaction body v).1 :=
  h.of_imp (fun _ => Store.transaction_error) fun _ => Store.transaction_error

end Thwarted

/-- Rows that others keep from being changed take no insert. -/
lemma Session.attempt_shut (rows? : Option Tables) (shut known : Bool) (i : Insertion α) :
    ∃ e, attempt rows? true known i = .error e ∧
      (e = .refused ∨ attempt rows? shut known i = .error e) := by
  unfold attempt
  split
  · exact ⟨_, rfl, .inl rfl⟩
  split
  · exact ⟨_, rfl, .inr rfl⟩
  · exact ⟨_, rfl, .inl rfl⟩
  · exact ⟨_, rfl, .inl rfl⟩

namespace Store

lemma handOver_fst (i : Option Stamp → Insertion α) (s : Session) (w : World) :
    (handOver i s w).1.1 =
      ((w.attach s).1.verdict (w.attach s).2.database (i w.stamp?)).map Prod.fst := by
  rw [← World.stamp_of_ground (World.ground_attach s w)]
  unfold handOver
  dsimp only
  rw [Session.execute_eq]
  rcases (w.attach s).1.verdict (w.attach s).2.database (i (w.attach s).2.stamp?) with e | ⟨a, rows⟩
  · rfl
  · rfl

/-- While another client holds the lock, an insert of a new session fails. -/
lemma handOver_locked (hl : w.database.locked = true) (i : Option Stamp → Insertion α) :
    ∃ e, (handOver i {} w).1.1 = .error e ∧
      (e = .refused ∨ (handOver i {} w.unlocked).1.1 = .error e) := by
  have hdb := World.database_of_ground (World.ground_attach {} w)
  have hshut : (w.attach {}).2.database.isShut = true := by
    rw [hdb, Database.isShut, hl, Bool.true_or]
  obtain ⟨e, hlocked, hopen⟩ := Session.attempt_shut (w.attach {}).2.database.rows?
    (w.attach {}).2.unlocked.database.isShut ((w.attach {}).1.knows (i w.stamp?)) (i w.stamp?)
  refine ⟨e, ?_, hopen.imp_right fun hopen => ?_⟩
  · rw [handOver_fst, Session.verdict, World.stage_attach]
    dsimp only
    rw [hshut, hlocked]
    rfl
  · rw [handOver_fst, World.attach_unlocked, Session.verdict, World.stage_attach]
    exact congrArg (Except.map Prod.fst) hopen

lemma insert_locked (hl : w.database.locked = true) (i : Option Stamp → Insertion α) :
    ∃ e, (({} : Store).insert i {} w).1.1 = .ok (.error (.rejected e)) ∧
      (e = .refused ∨ (({} : Store).insert i {} w.unlocked).1.1 = .ok (.error (.rejected e))) := by
  obtain ⟨e, hlocked, hopen⟩ := handOver_locked (w := w.assigned) hl i
  exact ⟨e, (insert_of_error rfl rfl hlocked).1,
    hopen.imp_right fun h => (insert_of_error rfl rfl h).1⟩

/-- Where a failed insert is told by a cause, so is one that the lock keeps out. -/
lemma insert_bind_locked (hl : w.database.locked = true) (i : Option Stamp → Insertion α)
    {g : Except Refusal α → Block β} {told : Refusal → Cause}
    (herror : ∀ r, g (.error r) = fail (told r)) (hcause : told (.rejected .refused) = cause) :
    Thwarted cause ((({} : Store).insert i >>= g) {} w).1.1
      ((({} : Store).insert i >>= g) {} w.unlocked).1.1 := by
  have hfails : ∀ {x : World} {e : Rejection},
      (({} : Store).insert i {} x).1.1 = .ok (.error (.rejected e)) →
      ((({} : Store).insert i >>= g) {} x).1.1 = .error ⟨told (.rejected e), none⟩ := by
    intro x e hx
    rw [Block.bind_apply]
    rcases hi : ({} : Store).insert i {} x with ⟨⟨r, s₁⟩, w₁⟩
    rw [hi] at hx
    dsimp only at hx
    subst hx
    dsimp only
    rw [herror]
    rfl
  obtain ⟨e, hlocked, hopen⟩ := insert_locked hl i
  refine ⟨_, hfails hlocked, hopen.imp ?_ hfails⟩
  rintro rfl
  rw [hcause]

lemma insertUser_locked (hl : w.database.locked = true) (id username : Option Text)
    (isStaff : Flag) : Thwarted (.store .userNotInserted)
      (({} : Store).insertUser id username isStaff {} w).1.1
      (({} : Store).insertUser id username isStaff {} w.unlocked).1.1 :=
  insert_bind_locked hl _ (fun _ => rfl) rfl

lemma insertToken_locked (hl : w.database.locked = true) (id userId secret : Option Text)
    (name : Label) (expiresAt : Option DateTime) : Thwarted (.store .tokenNotInserted)
      (({} : Store).insertToken id userId secret name expiresAt {} w).1.1
      (({} : Store).insertToken id userId secret name expiresAt {} w.unlocked).1.1 := by
  cases huniversal : expiresAt.all (·.toUniversal?.isSome) with
  | true =>
    unfold insertToken
    rw [Block.bind_apply, Block.bind_apply, expiryStamp_of_universal huniversal,
      expiryStamp_of_universal huniversal]
    exact insert_bind_locked hl _ (fun _ => rfl) rfl
  | false =>
    obtain ⟨e, rfl, hnone⟩ := overflows_of_not_all huniversal
    rw [insertToken_overflow {} hnone, insertToken_overflow {} hnone]
    exact .of_error _

end Store

lemma createUser_locked (hl : w.database.locked = true) (username : Option Text) (isStaff : Flag)
    (tokenName : Label) (expiresAt : Option DateTime) : Thwarted (.store .userNotInserted)
      (createUser {} username isStaff tokenName expiresAt w).1
      (createUser {} username isStaff tokenName expiresAt w.unlocked).1 := by
  unfold createUser
  cases checkedUsername username with
  | error problem => exact .of_error _
  | ok name =>
    dsimp only
    rw [Action.bind_apply, Action.bind_apply, newIdentifier_unlocked]
    rcases hid : newIdentifier w with ⟨e | userId, w₁⟩
    · exact .of_error e
    · have hl₁ : w₁.database.locked = true := by
        rw [World.database_of_ground (newIdentifier_quiet.ground_eq hid), hl]
      exact (Thwarted.transaction ((Store.insertUser_locked hl₁ _ _ _).block_bind _)).bind _

/-! ### Calls -/

/-- What an action comes to while the lock is held: what it comes to without the lock, and then it
changes nothing in the database unless it fails, or a refusal. -/
inductive HeldUp (refusal : Option Cause) (a : Action α) (w : World) : Prop where
  | answered (answer : α) (h : (a w).1 = .ok answer) (hopen : (a w.unlocked).1 = .ok answer)
      (hdb : (a w.unlocked).2.database = w.unlocked.database)
  | failed (f : Failure) (h : (a w).1 = .error f) (hopen : (a w.unlocked).1 = .error f)
  | refused (cause : Cause) (hcause : cause ∈ refusal) (h : (a w).1 = .error ⟨cause, none⟩)

lemma Thwarted.heldUp {a : Action α} (h : Thwarted cause (a w).1 (a w.unlocked).1) :
    HeldUp (some cause) a w := by
  obtain ⟨f, hlocked, rfl | hopen⟩ := h
  · exact .refused cause rfl hlocked
  · exact .failed f hlocked hopen

namespace HeldUp

/-- What follows an action and touches nothing does not matter. -/
lemma bind {a : Action α} {f : α → Action β} (h : HeldUp refusal a w)
    (hf : ∀ x, ∃ r, ∀ v, f x v = (r, v)) : HeldUp refusal (a >>= f) w := by
  cases h with
  | failed e h hopen => exact .failed e (Action.bind_error f h) (Action.bind_error f hopen)
  | refused cause hcause h => exact .refused cause hcause (Action.bind_error f h)
  | answered x h hopen hdb =>
    obtain ⟨r, hr⟩ := hf x
    have hends : ∀ {v : World}, (a v).1 = .ok x → (a >>= f) v = (r, (a v).2) := by
      intro v hv
      rw [Action.bind_apply]
      rcases hav : a v with ⟨y, v'⟩
      rw [hav] at hv
      dsimp only at hv
      subst hv
      exact hr v'
    cases r with
    | error e =>
      exact .failed e (congrArg Prod.fst (hends h)) (congrArg Prod.fst (hends hopen))
    | ok y =>
      refine .answered y (congrArg Prod.fst (hends h)) (congrArg Prod.fst (hends hopen)) ?_
      rw [hends hopen]
      exact hdb

/-- What comes before an action and has nothing to do with the lock does not matter. -/
lemma after {a : Action α} {f : α → Action β} {x : α} {w₁ : World} (ha : a w = (.ok x, w₁))
    (hopen : a w.unlocked = (.ok x, w₁.unlocked)) (hdb : w₁.database = w.database)
    (h : HeldUp refusal (f x) w₁) : HeldUp refusal (a >>= f) w := by
  have hw : (a >>= f) w = f x w₁ := by rw [Action.bind_apply, ha]
  have hv : (a >>= f) w.unlocked = f x w₁.unlocked := by rw [Action.bind_apply, hopen]
  cases h with
  | answered y h hopen hrest =>
    refine .answered y (by rw [hw, h]) (by rw [hv, hopen]) ?_
    rw [hv, hrest, World.unlocked, World.unlocked, hdb]
  | failed e h hopen => exact .failed e (by rw [hw, h]) (by rw [hv, hopen])
  | refused cause hcause h => exact .refused cause hcause (by rw [hw, h])

lemma map {a : Action α} (h : HeldUp refusal a w) (f : α → β) : HeldUp refusal (f <$> a) w := by
  rw [map_eq_pure_bind]
  exact h.bind fun x => ⟨.ok (f x), fun _ => rfl⟩

end HeldUp

namespace Store

/-- An operation is refused if it would change the rows. -/
lemma operate_heldUp (hl : w.database.locked = true) {name : String} {query : Option Query}
    {work : Work α}
    (hwork : ∀ rows a left, work rows = .ok (a, some left) →
      refusal = some (.store (.inOperation name))) :
    HeldUp refusal (({} : Store).operate name query work) w := by
  have hshut : w.database.isShut = true := by rw [Database.isShut, hl, Bool.true_or]
  have hlocked := operate_apply {} name query work w
  have hopen := operate_apply {} name query work w.unlocked
  rw [show w.unlocked.assigned = w.assigned.unlocked from rfl, World.visit_unlocked,
    show w.unlocked.database.reachable = w.database.reachable from rfl] at hopen
  have hvisited := World.database_of_ground (World.ground_visit query w.assigned)
  generalize w.assigned.visit query = visited at hlocked hopen hvisited
  obtain ⟨met, w₁⟩ := visited
  cases hr : w.database.reachable with
  | false =>
    rw [hr] at hlocked hopen
    exact .failed _ (congrArg Prod.fst hlocked) (congrArg Prod.fst hopen)
  | true =>
    rw [hr] at hlocked hopen
    cases met with
    | error e => exact .failed _ (congrArg Prod.fst hlocked) (congrArg Prod.fst hopen)
    | ok rows =>
      dsimp only at hlocked hopen hvisited
      rcases hmade : work rows with cause | ⟨a, left⟩
      · rw [hmade] at hlocked hopen
        exact .failed _ (congrArg Prod.fst hlocked) (congrArg Prod.fst hopen)
      rw [hmade] at hlocked hopen
      cases left with
      | none =>
        refine .answered a (congrArg Prod.fst hlocked) (congrArg Prod.fst hopen) ?_
        exact (congrArg (·.2.database) hopen).trans (congrArg Database.unlocked hvisited)
      | some left =>
        rw [hshut] at hlocked
        exact .refused _ (hwork rows a left hmade) (congrArg Prod.fst hlocked)

/-- A locked database can be changed by no statement, and the lock is the last reason for that. -/
lemma schemaFailure_locked {db : Database} (hl : db.locked = true) (statement : String)
    (changes : Bool) :
    schemaFailure? db statement changes = some (.schema (Schema.keptOut statement)) ∨
      (schemaFailure? db statement changes = schemaFailure? db.unlocked statement changes ∧
        (schemaFailure? db statement changes = none → changes = false)) := by
  cases changes with
  | false => exact .inr ⟨rfl, fun _ => rfl⟩
  | true =>
    have hshut : schemaFailure? db statement true ≠ none := by
      intro hnone
      have hopen := open_of_schemaFailure hnone
      rw [Database.isShut, hl, Bool.true_or] at hopen
      cases hopen
    obtain ⟨tables, reachable, locked, barrier⟩ := db
    cases hl
    cases reachable with
    | false => exact .inr ⟨rfl, fun hnone => absurd hnone hshut⟩
    | true =>
      cases barrier with
      | none => exact .inl rfl
      | some b => cases b <;> exact .inr ⟨rfl, fun hnone => absurd hnone hshut⟩

lemma changeTables_fst (statement : String) (change : Option Tables → Option Tables) (w : World) :
    (changeTables statement change w).1 =
      (schemaFailure? w.database statement
        (decide (change w.database.tables ≠ w.database.tables))).elim (.ok ())
        fun cause => .error ⟨cause, none⟩ := by
  rw [← World.database_of_ground (World.ground_turn w)]
  unfold changeTables
  simp only [Action.bind_apply, Action.get_apply, Action.modify_apply]
  cases schemaFailure? w.turn.database statement
    (decide (change w.turn.database.tables ≠ w.turn.database.tables)) <;> rfl

/-- A change of the set of tables is refused if it is one. -/
lemma changeTables_heldUp (hl : w.database.locked = true) (statement : String)
    (change : Option Tables → Option Tables) :
    HeldUp (some (.schema (Schema.keptOut statement))) (changeTables statement change) w := by
  have hlocked := changeTables_fst statement change w
  have hopen := changeTables_fst statement change w.unlocked
  obtain hrefused | ⟨hsame, hidle⟩ := schemaFailure_locked hl statement
    (decide (change w.database.tables ≠ w.database.tables))
  · rw [hrefused] at hlocked
    exact .refused _ rfl hlocked
  rw [show w.unlocked.database = w.database.unlocked from rfl,
    show w.database.unlocked.tables = w.database.tables from rfl, ← hsame] at hopen
  cases hfailure : schemaFailure? w.database statement
      (decide (change w.database.tables ≠ w.database.tables)) with
  | some cause =>
    rw [hfailure] at hlocked hopen
    exact .failed _ hlocked hopen
  | none =>
    rw [hfailure] at hlocked hopen
    have hstill : change w.database.tables = w.database.tables := by
      simpa using hidle hfailure
    refine .answered () hlocked hopen ?_
    obtain ⟨-, hg⟩ | ⟨-, -, hg⟩ :=
      changeTables_cases (Prod.eta (changeTables statement change w.unlocked)).symm
    · exact World.database_of_ground hg
    · refine (congrArg Ground.database hg).trans ?_
      exact congrArg (fun tables => { w.unlocked.database with tables }) hstill

end Store

namespace Store

lemma userByToken_heldUp (hl : w.database.locked = true) (secret : Option Text)
    (now : Option DateTime) : HeldUp none (({} : Store).userByToken secret now) w := by
  obtain ⟨⟨f, hfails⟩, -⟩ | ⟨u, hmoment, -⟩ := moment_cases now w
  · have hopen := moment_unlocked now w
    rw [hfails] at hopen
    refine .failed f ?_ ?_
    all_goals
      unfold userByToken
      rw [Action.bind_apply]
    · rw [hfails]
    · rw [hopen]
  · have hopen := moment_unlocked now w
    rw [hmoment] at hopen
    refine .after hmoment hopen rfl (operate_heldUp hl fun rows a left h => ?_)
    cases reading_left h

end Store

lemma authenticate_heldUp (hl : w.database.locked = true) (secret : Option Text)
    (now : Option DateTime) : HeldUp none (authenticate {} secret now) w := by
  unfold authenticate
  by_cases hempty : secret.getD [] = []
  · rw [if_pos hempty]
    exact .failed _ rfl rfl
  · rw [if_neg hempty]
    refine (Store.userByToken_heldUp hl secret now).bind fun found => ?_
    cases found with
    | none => exact ⟨_, fun _ => rfl⟩
    | some identity => exact ⟨_, fun _ => rfl⟩

namespace Call

/-- How a call tells that it could not write. -/
def refusal? : Call → Option Cause
  | insertUser _ _ _ | issue _ _ _ _ _ | bootstrap _ _ => some (.store .userNotInserted)
  | insertToken _ _ _ _ _ => some (.store .tokenNotInserted)
  | deleteUser _ => some (.store (.inOperation "delete_user"))
  | deleteToken _ => some (.store (.inOperation "delete_token"))
  | createTables => some (.schema (Schema.keptOut Schema.makeUsers))
  | dropTables => some (.schema (Schema.keptOut Schema.removeTokens))
  | _ => none

lemma perform_heldUp (hl : w.database.locked = true) (c : Call) :
    HeldUp c.refusal? (c.perform {}) w := by
  cases c with
  | insertUser id username isStaff =>
    exact (Store.insertUser_locked hl id username isStaff).transaction.heldUp.map _
  | insertToken id userId secret name expiresAt =>
    exact (Store.insertToken_locked hl id userId secret name expiresAt).transaction.heldUp.map _
  | userByToken secret now => exact (Store.userByToken_heldUp hl secret now).map _
  | authenticate secret now => exact (authenticate_heldUp hl secret now).map _
  | userById id =>
    refine (Store.operate_heldUp hl fun rows a left h => ?_).map _
    cases Store.required_left h
  | userByUsername username =>
    refine (Store.operate_heldUp hl fun rows a left h => ?_).map _
    cases Store.required_left h
  | users =>
    refine (Store.operate_heldUp hl fun rows a left h => ?_).map _
    cases Store.reading_left h
  | tokensOf userId =>
    refine (Store.operate_heldUp hl fun rows a left h => ?_).map _
    cases Store.reading_left h
  | deleteUser id => exact (Store.operate_heldUp hl fun _ _ _ _ => rfl).map _
  | deleteToken id => exact (Store.operate_heldUp hl fun _ _ _ _ => rfl).map _
  | isAvailable =>
    have hsame : (Store.isAvailable w.unlocked).1 = (Store.isAvailable w).1 := by
      rw [Store.isAvailable_apply, Store.isAvailable_apply, World.turn_unlocked]
      rfl
    exact .answered (.truth (Store.isAvailable w).1) rfl
      (congrArg (fun b => Except.ok (Answer.truth b)) hsame)
      (World.database_of_ground (Store.isAvailable_quiet w.unlocked))
  | createTables => exact (Store.changeTables_heldUp hl _ _).map _
  | dropTables => exact (Store.changeTables_heldUp hl _ _).map _
  | disconnect => exact .answered .nothing rfl rfl rfl
  | issue actor username isStaff tokenName expiresAt =>
    refine HeldUp.map ?_ _
    obtain ⟨cause, -, hrefused⟩ | ⟨a, -, -, hcreates⟩ := issueUser_decides actor
    · rw [hrefused]
      exact .failed _ rfl rfl
    · rw [hcreates]
      exact (createUser_locked hl username isStaff tokenName expiresAt).heldUp
  | bootstrap username tokenName =>
    refine HeldUp.map ?_ _
    have hdb (message : Text) : (w.write .info .issuance message).database = w.database :=
      World.database_of_ground (World.ground_write w _ _ _)
    exact .after rfl (congrArg _ (World.write_unlocked w _ _ _)) (hdb _)
      (createUser_locked ((congrArg Database.locked (hdb _)).trans hl) _ _ _ _).heldUp

/-- While the lock is held, a call leaves alone what the rows come from. -/
lemma ground_locked {store : Store} {c : Call} {r : Except Failure Answer}
    (hl : w.database.locked = true) (h : c.perform store w = (r, v)) : v.ground = w.ground := by
  have hc := perform_commits h
  have ht := hc.shut (by rw [Database.isShut, hl, Bool.true_or])
  have hdb : v.database = w.database := by
    change Database.mk _ _ _ _ = Database.mk _ _ _ _
    rw [ht, hc.reachable, hc.locked, hc.barrier]
  rw [World.ground, World.ground, hc.clock, hc.spelling, hc.databaseUrl, hdb]

/-- A call that is answered under the lock as without it changes nothing without it either. -/
lemma ground_unlocked (hl : w.database.locked = true) {c : Call}
    (hsame : (c.perform {} w.unlocked).1 = (c.perform {} w).1) :
    (c.perform {} w.unlocked).2.ground = w.unlocked.ground := by
  have hc := perform_commits (Prod.eta (c.perform {} w.unlocked)).symm
  cases c.perform_heldUp hl with
  | answered answer h hopen hdb =>
    rw [World.ground, hc.clock, hc.spelling, hc.databaseUrl, hdb]
    rfl
  | failed f h hopen => exact perform_error_ground (Prod.ext hopen rfl)
  | refused cause hcause h => exact perform_error_ground (Prod.ext (hsame.trans h) rfl)

end Call

end BearerAccess
