import BearerAccess.Proofs.Duplicate
import BearerAccess.Proofs.Unmasked

/-!
# Checks before the issue of a user

Whoever asks for a new user must be there and be staff, and the name must fit. These checks come in
this order and before all else, so that a request that fails one of them has the same answer in every
world and changes nothing. What passes them fails for other causes only, and for a wrong value only if
the name of the user or of the token cannot be handed to the database. It goes on in the same way as a
bootstrap does, which differs by one line in the log.
-/

namespace BearerAccess

variable {α β : Type} {store : Store} {w w' : World} {s s' : Session} {spoilt : Prop}

/-! ### Texts that cannot be handed over -/

section

variable {position : Nat} {run : List CodePoint}

namespace Session

lemma attempt_unencodable {rows? : Option Tables} {shut known : Bool} {i : Insertion α}
    (h : attempt rows? shut known i = .error (.unencodable position run)) :
    i.obstacle = some (.unencodable position run) := by
  unfold attempt at h
  split at h
  · cases h
  split at h
  · rename_i hobstacle _
    cases h
    exact hobstacle
  · split at h
    · cases h
    · split at h <;> cases h
  · cases h

lemma verdict_unencodable {db : Database} {i : Insertion α}
    (h : s.verdict db i = .error (.unencodable position run)) :
    i.obstacle = some (.unencodable position run) := by
  unfold verdict at h
  split at h
  · cases h
  · exact attempt_unencodable h
  · exact attempt_unencodable h

end Session

namespace Store

/-- An insert is rejected for a text only if this text keeps it from being handed over. -/
lemma insert_unencodable {i : Option Stamp → Insertion α} {w w' : World}
    (h : store.insert i s w =
      ((.ok (.error (.rejected (.unencodable position run))), s'), w')) :
    (i w.stamp?).obstacle = some (.unencodable position run) := by
  unfold insert at h
  dsimp only at h
  split at h
  · cases h
  split at h
  · cases h
  rcases hx : handOver i s w.assigned with ⟨⟨e | a, s₁⟩, w₁⟩
  · rw [hx] at h
    cases h
    have hverdict := handOver_fst i s w.assigned
    rw [hx] at hverdict
    cases hmade : (w.assigned.attach s).1.verdict (w.assigned.attach s).2.database
        (i w.assigned.stamp?) with
    | ok result =>
      rw [hmade] at hverdict
      cases hverdict
    | error e =>
      rw [hmade] at hverdict
      cases hverdict
      exact Session.verdict_unencodable hmade
  · rw [hx] at h
    dsimp only at h
    split at h <;> cases h

end Store

/-- A name that keeps a token from being handed over is a text that cannot be. -/
lemma Label.not_plain_of_obstacle {name : Label}
    (h : name.obstacle? = some (.unencodable position run)) : ¬BearerAccess.Plain name.text? := by
  intro hplain
  cases name with
  | text t =>
    have hnone : textObstacle? (some t) = none := hplain.no_obstacle
    rw [obstacle?, hnone] at h
    cases h
  | _ => cases h

end

/-! ### Causes of failures -/

namespace Cause

/-- A cause that a check before the issue of a user tells. -/
def OfCheck : Cause → Prop
  | .actorMissing | .actorNotStaff | .username _ => True
  | _ => False

/-- A cause for which the issue of a user fails after the checks. -/
def OfIssue (c : Cause) : Prop := c.OfInsert ∨ c = .noRandomness ∨ c = .entropyUnavailable

/-- A cause that is a wrong value to whoever asks for a user: the name does not fit, or a text cannot
be handed to the database. -/
def OfValue : Cause → Prop
  | .username _ | .unencodable _ _ => True
  | _ => False

/-- A cause for which the issue of a user fails after the checks, and which is a wrong value only if
something is spoilt. -/
def Late (spoilt : Prop) (c : Cause) : Prop := c.OfIssue ∧ (c.OfValue → spoilt)

lemma OfIssue.not_check {c : Cause} (h : c.OfIssue) : ¬c.OfCheck := by
  intro hcheck
  obtain hinsert | rfl | rfl := h
  · cases c <;> first | exact hinsert | exact hcheck
  · exact hcheck
  · exact hcheck

lemma OfDraw.late {c : Cause} (h : c.OfDraw) : c.Late spoilt := by
  cases c with
  | range problem => exact ⟨.inl trivial, False.elim⟩
  | noRandomness => exact ⟨.inr (.inl rfl), False.elim⟩
  | entropyUnavailable => exact ⟨.inr (.inr rfl), False.elim⟩
  | _ => exact h.elim

end Cause

namespace Store

variable {id username userId secret : Option Text} {tokenName : Label} {refusal : Refusal}

lemma userFailure_ofValue (h : (userFailure username refusal).OfValue) :
    ∃ position run, refusal = .rejected (.unencodable position run) := by
  unfold userFailure at h
  split at h
  · split at h <;> exact h.elim
  · exact ⟨_, _, rfl⟩
  · exact h.elim

lemma tokenFailure_ofValue (h : (tokenFailure refusal).OfValue) :
    ∃ position run, refusal = .rejected (.unencodable position run) := by
  unfold tokenFailure at h
  split at h
  · exact ⟨_, _, rfl⟩
  · exact h.elim
  · exact h.elim

/-- What follows an insert is told that it was rejected for a text only if a text keeps it from being
handed over. -/
lemma insert_bind_failsFor {C : Cause → Prop} {i : Option Stamp → Insertion α}
    {g : Except Refusal α → Block β} (hanswered : ∀ a, (g (.ok a)).FailsFor C)
    (hrefused : ∀ refusal, (∀ position run, refusal = .rejected (.unencodable position run) →
      ∃ now, (i now).obstacle = some (.unencodable position run)) →
        (g (.error refusal)).FailsFor C) : (store.insert i >>= g).FailsFor C := by
  intro s w f hf
  rcases hx : (store.insert i >>= g) s w with ⟨⟨x, s'⟩, w'⟩
  rw [hx] at hf
  obtain ⟨e, he, rfl⟩ | ⟨answer, s₁, w₁, hinsert, hrest⟩ := Block.bind_cases hx
  · cases hf
    exact store.insert_failsFor i s w f (by rw [he])
  have hfails : (g answer s₁ w₁).1.1 = .error f := by rw [hrest]; exact hf
  cases answer with
  | ok a => exact hanswered a s₁ w₁ f hfails
  | error refusal =>
    refine hrefused refusal ?_ s₁ w₁ f hfails
    rintro position run rfl
    exact ⟨_, insert_unencodable hinsert⟩

lemma insertUser_failsLate (store : Store) (isStaff : Flag) (hid : Plain id)
    (hname : ¬Plain username → spoilt) :
    (store.insertUser id username isStaff).FailsFor (Cause.Late spoilt) := by
  refine insert_bind_failsFor (fun row => Block.failsFor_pure _) fun refusal hrejected => ?_
  refine Block.failsFor_fail ⟨.inl (userFailure_ofInsert _ _), fun hvalue => hname fun hplain => ?_⟩
  obtain ⟨position, run, hrefusal⟩ := userFailure_ofValue hvalue
  obtain ⟨now, hobstacle⟩ := hrejected position run hrefusal
  have hnone : [id, username].findSome? textObstacle? = none :=
    no_obstacle_of_plain (by simp [hid, hplain])
  exact nomatch hnone.symm.trans hobstacle

lemma expiryStamp_failsLate (expiresAt : Option DateTime) :
    (expiryStamp expiresAt).FailsFor (Cause.Late spoilt) := by
  cases expiresAt with
  | none => exact Block.failsFor_pure none
  | some e =>
    unfold expiryStamp DateTime.universal
    dsimp only
    rw [map_eq_pure_bind]
    refine Block.FailsFor.bind ?_ fun u => Block.failsFor_pure _
    cases e.toUniversal? with
    | none => exact Block.failsFor_fail ⟨.inl trivial, False.elim⟩
    | some u => exact Block.failsFor_pure u

lemma insertToken_failsLate (store : Store) (expiresAt : Option DateTime) (hid : Plain id)
    (howner : Plain userId) (hsecret : Plain secret) (hname : ¬Plain tokenName.text? → spoilt) :
    (store.insertToken id userId secret tokenName expiresAt).FailsFor (Cause.Late spoilt) := by
  refine (expiryStamp_failsLate expiresAt).bind fun expiry => ?_
  refine insert_bind_failsFor (fun row => Block.failsFor_pure _) fun refusal hrejected => ?_
  refine Block.failsFor_fail ⟨.inl (tokenFailure_ofInsert _), fun hvalue => hname ?_⟩
  obtain ⟨position, run, hrefusal⟩ := tokenFailure_ofValue hvalue
  obtain ⟨now, hobstacle⟩ := hrejected position run hrefusal
  have hnone : [id, userId, secret].findSome? textObstacle? = none :=
    no_obstacle_of_plain (by simp [hid, howner, hsecret])
  rw [tokenInsertion, hnone] at hobstacle
  exact Label.not_plain_of_obstacle hobstacle

end Store

lemma makeCredentials_failsLate (store : Store) (userId : String) {name : Text} (isStaff : Flag)
    {tokenName : Label} (expiresAt : Option DateTime) (hname : ¬Plain (some name) → spoilt)
    (htoken : ¬Plain tokenName.text? → spoilt) :
    (makeCredentials store userId name isStaff tokenName expiresAt).FailsFor (Cause.Late spoilt) := by
  refine (store.insertUser_failsLate isStaff (plain_ofString _) hname).bind fun user => ?_
  refine (Block.failsFor_outside (newIdentifier_failsFor fun _ => Cause.OfDraw.late)).bind
    fun tokenId => ?_
  refine (Block.failsFor_outside (newSecret_failsFor (fun _ => Cause.OfDraw.late) _)).bind
    fun secret => ?_
  refine Block.FailsFor.bind ?_ fun token => Block.failsFor_pure _
  exact store.insertToken_failsLate expiresAt (plain_ofString _) (plain_ofString _)
    (plain_ofString _) htoken

lemma createUser_failsLate {username : Option Text} {name : Text}
    (h : checkedUsername username = .ok name) (store : Store) (isStaff : Flag) (tokenName : Label)
    (expiresAt : Option DateTime) :
    (createUser store username isStaff tokenName expiresAt).FailsFor
      (Cause.Late ¬(Plain username ∧ Plain tokenName.text?)) := by
  obtain rfl := eq_of_checkedUsername h
  unfold createUser
  rw [h]
  refine (newIdentifier_failsFor fun _ => Cause.OfDraw.late).bind fun userId => ?_
  refine (store.transaction_failsFor ⟨.inl trivial, False.elim⟩ ?_).bind fun made => ?_
  · exact makeCredentials_failsLate store userId isStaff expiresAt
      (fun hname h => hname h.1) (fun htoken h => htoken h.2)
  · rintro w f ⟨⟩

/-! ### What stands in the log before -/

namespace World

/-- The world, with more in the log before all that stands there. -/
def behind (log : List LogEntry) (w : World) : World := { w with log := log ++ w.log }

variable (log : List LogEntry)

lemma connect_behind (w : World) :
    (w.behind log).connect = (w.connect.1, w.connect.2.behind log) := by
  unfold connect
  rw [show (w.behind log).idle = w.idle from rfl]
  split <;> rfl

lemma giveBack_behind (w : World) (c : Connection) :
    (w.behind log).giveBack c = (w.giveBack c).behind log := by
  unfold giveBack
  rw [apply_ite (behind log)]
  rfl

lemma write_behind (w : World) (severity : Severity) (source : Source) (message : Text) :
    (w.behind log).write severity source message = (w.write severity source message).behind log := by
  unfold write keep
  rw [show (w.behind log).threshold = w.threshold from rfl]
  split
  · exact congrArg (fun log => { w with log }) (List.append_assoc _ _ _)
  · rfl

lemma attach_behind (w : World) (s : Session) :
    (w.behind log).attach s = ((w.attach s).1, (w.attach s).2.behind log) := by
  unfold attach
  rw [connect_behind, show (w.behind log).database = w.database from rfl]
  split <;> rfl

lemma detach_behind (w : World) (s : Session) :
    (w.behind log).detach s = (w.detach s).behind log := by
  unfold detach
  cases s.connection with
  | none => rfl
  | some c => exact giveBack_behind log w c

lemma draw_behind (size : Nat) (w : World) :
    (w.behind log).draw size = ((w.draw size).1, (w.draw size).2.behind log) := by
  unfold draw
  rw [show (w.behind log).entropy = w.entropy from rfl, show (w.behind log).draws = w.draws from rfl]
  dsimp only
  split <;> rfl

end World

/-- An action that does the same whatever stands in the log before. -/
def Action.Blind (a : Action α) : Prop :=
  ∀ log w, a (w.behind log) = ((a w).1, (a w).2.behind log)

def Block.Blind (b : Block α) : Prop :=
  ∀ log s w, b s (w.behind log) = ((b s w).1, (b s w).2.behind log)

lemma Action.Blind.bind {a : Action α} {g : α → Action β} (ha : a.Blind) (hg : ∀ x, (g x).Blind) :
    (a >>= g).Blind := by
  intro log w
  rw [bind_apply, bind_apply, ha log w]
  rcases a w with ⟨e | x, w₁⟩
  · rfl
  · exact hg x log w₁

namespace Block

lemma composes_blind : Composes Blind where
  pure _ _ _ _ := rfl
  fail _ _ _ _ _ := rfl
  bind {α β b g} hb hg log s w := by
    rw [bind_apply, bind_apply, hb log s w]
    rcases b s w with ⟨⟨e | a, s₁⟩, w₁⟩
    · rfl
    · exact hg a log s₁ w₁

lemma blind_outside {a : Action α} (ha : a.Blind) : (Block.outside a).Blind := by
  intro log s w
  unfold outside
  rw [ha log w]
  rfl

end Block

lemma newIdentifier_blind : newIdentifier.Blind := by
  intro log w
  rw [newIdentifier_apply, newIdentifier_apply, World.draw_behind,
    show (w.behind log).clock = w.clock from rfl]
  split
  · rfl
  split <;> rfl

lemma newSecret_blind (size : Nat) : (newSecret size).Blind := by
  intro log w
  rw [newSecret_apply, newSecret_apply, World.draw_behind]
  rfl

namespace Store

lemma handOver_behind (i : Option Stamp → Insertion α) (log : List LogEntry) (s : Session)
    (w : World) :
    handOver i s (w.behind log) = ((handOver i s w).1, (handOver i s w).2.behind log) := by
  unfold handOver
  rw [World.attach_behind]
  rfl

lemma insert_blind (store : Store) (i : Option Stamp → Insertion α) : (store.insert i).Blind := by
  intro log s w
  unfold insert
  dsimp only
  rw [show (w.behind log).tasks = w.tasks from rfl,
    show (w.behind log).assigned = w.assigned.behind log from rfl, handOver_behind]
  split
  · rfl
  split
  · rfl
  rcases handOver i s w.assigned with ⟨⟨e | a, s₁⟩, w₁⟩
  · rfl
  · dsimp only
    split <;> rfl

lemma rollBack_behind (faults : Faults) (f : Failure) (log : List LogEntry) (s : Session)
    (w : World) : (rollBack faults f s (w.behind log) : Except Failure α × World) =
      ((rollBack faults f s w).1, (rollBack faults f s w : Except Failure α × World).2.behind log) := by
  have hdetached := World.detach_behind log { w with database := s.release w.database } s
  unfold rollBack
  dsimp only
  rw [show ({ w.behind log with database := s.release (w.behind log).database } : World) =
    ({ w with database := s.release w.database } : World).behind log from rfl, hdetached]
  cases faults.rollback with
  | none => rfl
  | some message => exact congrArg (Prod.mk _) (World.write_behind log _ _ _ _)

lemma finish_behind (result : Except Failure α) (log : List LogEntry) (s : Session) (w : World) :
    store.finish result s (w.behind log) =
      ((store.finish result s w).1, (store.finish result s w).2.behind log) := by
  unfold finish
  rw [show (w.behind log).tasks = w.tasks from rfl,
    show (w.behind log).assigned = w.assigned.behind log from rfl]
  cases result with
  | error f => exact rollBack_behind _ f log s _
  | ok a =>
    dsimp only
    rw [show (w.assigned.behind log).database = w.assigned.database from rfl]
    cases s.commit? (store.faults w.tasks) w.assigned.database with
    | none => exact rollBack_behind _ _ log s (w.assigned.raising _)
    | some db =>
      exact congrArg (Prod.mk _) (World.detach_behind log { w.assigned with database := db } s)

lemma transaction_blind (store : Store) {body : Block α} (h : body.Blind) :
    (store.transaction body).Blind := by
  intro log w
  unfold transaction
  rw [h log {} w]
  exact finish_behind _ _ _ _

end Store

lemma createUser_blind (store : Store) (username : Option Text) (isStaff : Flag) (tokenName : Label)
    (expiresAt : Option DateTime) :
    (createUser store username isStaff tokenName expiresAt).Blind := by
  unfold createUser
  cases checkedUsername username with
  | error problem => exact fun _ _ => rfl
  | ok name =>
    refine newIdentifier_blind.bind fun userId => ?_
    refine (store.transaction_blind ?_).bind fun made => ?_
    · exact Block.composes_blind.makeCredentials store.insert_blind
        (Block.blind_outside newIdentifier_blind) (Block.blind_outside (newSecret_blind _)) _ _ _ _ _
    · exact fun log w => congrArg (Prod.mk _) (World.write_behind log w _ _ _)

/-! ### The checks -/

/-- A name that no user can be created under: there is none, it is blank, or it is too long. -/
def Unfit (username : Option Text) : Prop :=
  ∀ t ∈ username, (∀ p ∈ t, p.isBlank = true) ∨ 100 < t.length

lemma unfit_iff {username : Option Text} :
    Unfit username ↔ ∃ problem, checkedUsername username = .error problem := by
  unfold Unfit checkedUsername
  cases username with
  | none => simp
  | some t =>
    have hblank : t.isBlank = true ↔ ∀ p ∈ t, p.isBlank = true := List.all_eq_true
    simp only [Option.mem_some_iff, forall_eq', ← hblank]
    by_cases h : t.isBlank = true
    · simp [h]
    · by_cases hlong : usernameLimit < t.length
      · simp [h, hlong, show 100 < t.length from hlong]
      · simp [h, hlong, show ¬100 < t.length from hlong]

/-- The line that tells of a bootstrap, if the log takes it. -/
def bootstrapLine (w : World) (username : Option Text) : List LogEntry :=
  if w.threshold ≤ Severity.info.rank then
    [⟨.info, .issuance, "Bootstrapping staff user " ++ username.getD "None", none⟩] else []

/-- A bootstrap does what the creation of a staff user does, with one line more in the log. -/
lemma bootstrapStaffUser_eq (store : Store) (username : Option Text) (tokenName : Label) (w : World) :
    ∃ written, (createUser store username (.value true) tokenName none w).2.log = w.log ++ written ∧
      bootstrapStaffUser store username tokenName w =
        ((createUser store username (.value true) tokenName none w).1,
          { (createUser store username (.value true) tokenName none w).2 with
            log := w.log ++ bootstrapLine w username ++ written }) := by
  -- Both start behind what stands in the log by then, from a world whose log is empty.
  have hblind := createUser_blind store username (.value true) tokenName none
  have hplain : w = ({ w with log := [] } : World).behind w.log :=
    congrArg (fun log => { w with log }) (List.append_nil w.log).symm
  have hnoted : w.write .info .issuance ("Bootstrapping staff user " ++
      username.getD (Text.ofString (usernameText none))) =
      ({ w with log := [] } : World).behind (w.log ++ bootstrapLine w username) := by
    rw [World.write_eq]
    exact congrArg (fun log => { w with log }) (List.append_nil _).symm
  have hcreated := hblind w.log { w with log := [] }
  rw [← hplain] at hcreated
  rw [bootstrapStaffUser_apply, hnoted, hblind, hcreated]
  exact ⟨_, rfl, rfl⟩

section

variable {actor : Option Identity} {username : Option Text}

/-- How the checks of an issue come out: one of them fails, and then the issue is the same in every store
and world, or it goes on. -/
lemma issueUser_cases (actor : Option Identity) (username : Option Text) (isStaff : Flag)
    (tokenName : Label) (expiresAt : Option DateTime) :
    (actor = none ∧ ∀ store w, issueUser store actor username isStaff tokenName expiresAt w =
        (.error Cause.actorMissing, w)) ∨
      ((∃ a, actor = some a ∧ a.isStaff = false) ∧ ∀ store w,
        issueUser store actor username isStaff tokenName expiresAt w =
          (.error Cause.actorNotStaff, w)) ∨
      ((∃ a, actor = some a ∧ a.isStaff = true) ∧ Unfit username ∧ ∃ p, ∀ store w,
        issueUser store actor username isStaff tokenName expiresAt w =
          (.error (Cause.username p), w)) ∨
      ((∃ a, actor = some a ∧ a.isStaff = true) ∧ ¬Unfit username ∧ ∀ store,
        (issueUser store actor username isStaff tokenName expiresAt).FailsFor
          (Cause.Late ¬(Plain username ∧ Plain tokenName.text?))) := by
  obtain ⟨cause, hwho, hrefused⟩ | ⟨a, ha, hstaff, hcreates⟩ := issueUser_decides actor
  · cases hwho with
    | missing => exact .inl ⟨rfl, fun store w => by rw [hrefused, Action.fail_apply]⟩
    | notStaff hother =>
      exact .inr (.inl ⟨⟨_, rfl, hother⟩, fun store w => by rw [hrefused, Action.fail_apply]⟩)
  cases hname : checkedUsername username with
  | error p =>
    refine .inr (.inr (.inl ⟨⟨a, ha, hstaff⟩, unfit_iff.mpr ⟨p, hname⟩, p, fun store w => ?_⟩))
    rw [hcreates]
    unfold createUser
    rw [hname]
    rfl
  | ok name =>
    refine .inr (.inr (.inr ⟨⟨a, ha, hstaff⟩, fun hunfit => ?_, fun store => ?_⟩))
    · obtain ⟨p, hp⟩ := unfit_iff.mp hunfit
      rw [hname] at hp
      cases hp
    · rw [hcreates]
      exact createUser_failsLate hname store isStaff tokenName expiresAt

/-- What an issue comes to, and what its checks have to do with it. -/
structure Checked (store : Store) (actor : Option Identity) (username : Option Text) (isStaff : Flag)
    (tokenName : Label) (expiresAt : Option DateTime) (w : World) (r : Except Failure Credentials)
    (w' : World) : Prop where
  actorMissing : (∃ f, r = .error f ∧ f.cause = .actorMissing) ↔ actor = none
  actorNotStaff : (∃ f, r = .error f ∧ f.cause = .actorNotStaff) ↔
    ∃ a, actor = some a ∧ a.isStaff = false
  unfit : (∃ f, r = .error f ∧ ∃ p, f.cause = .username p) ↔
    (∃ a, actor = some a ∧ a.isStaff = true) ∧ Unfit username
  /-- Where the names can be handed to the database, no other value is wrong. -/
  wrongValue : Plain username → Plain tokenName.text? →
    ((∃ f, r = .error f ∧ f.cause.OfValue) ↔
      (∃ a, actor = some a ∧ a.isStaff = true) ∧ Unfit username)
  /-- A check that fails touches nothing, and fails in every store and world. -/
  untouched : ∀ f, r = .error f → f.cause.OfCheck → w' = w ∧
    ∀ other v, issueUser other actor username isStaff tokenName expiresAt v = (r, v)
  later : ∀ f, r = .error f → f.cause.OfCheck ∨ f.cause.OfIssue
  /-- A bootstrap does what an issue on behalf of staff does, with one line more in the log. -/
  bootstrap : (∃ a, actor = some a ∧ a.isStaff = true) →
    let (r, w') := issueUser store actor username (.value true) tokenName none w
    ∃ written, w'.log = w.log ++ written ∧ bootstrapStaffUser store username tokenName w =
      (r, { w' with log := w.log ++ bootstrapLine w username ++ written })

/-- Checks of the issue of a user come first and touch nothing. The issue tells that there is nobody who
asks, else that they are not staff, else that the name does not fit, exactly if that is so; if the names
of the user and of the token can be handed to the database, it tells of no other wrong value. What it
tells then it tells in every world and store, and the world stays as it was. Otherwise it fails for none
of the causes of the checks, and a bootstrap comes to the same with the same name, and leaves the same
world but for one line in the log. -/
theorem issueUser_checks (store : Store) (actor : Option Identity) (username : Option Text)
    (isStaff : Flag) (tokenName : Label) (expiresAt : Option DateTime) (w : World) :
    let (r, w') := issueUser store actor username isStaff tokenName expiresAt w
    Checked store actor username isStaff tokenName expiresAt w r w' := by
  have hboot : (∃ a, actor = some a ∧ a.isStaff = true) →
      let (r, w') := issueUser store actor username (.value true) tokenName none w
      ∃ written, w'.log = w.log ++ written ∧ bootstrapStaffUser store username tokenName w =
        (r, { w' with log := w.log ++ bootstrapLine w username ++ written }) := by
    rintro ⟨a, rfl, hstaff⟩
    rw [issueUser_of_staff hstaff]
    exact bootstrapStaffUser_eq store username tokenName w
  obtain ⟨hnobody, h⟩ | ⟨hother, h⟩ | ⟨hstaff, hunfit, p, h⟩ | ⟨hstaff, hfit, h⟩ :=
    issueUser_cases actor username isStaff tokenName expiresAt
  · obtain rfl := hnobody
    rw [h store w]
    refine ⟨by simp, by simp, by simp, fun _ _ => by simp [Cause.OfValue], ?_, ?_, hboot⟩
    · rintro f ⟨⟩ -
      exact ⟨rfl, h⟩
    · rintro f ⟨⟩
      exact .inl trivial
  · obtain ⟨a, rfl, hother⟩ := hother
    rw [h store w]
    refine ⟨by simp, by simp [hother], by simp [hother], fun _ _ => by simp [Cause.OfValue, hother],
      ?_, ?_, hboot⟩
    · rintro f ⟨⟩ -
      exact ⟨rfl, h⟩
    · rintro f ⟨⟩
      exact .inl trivial
  · obtain ⟨a, rfl, hstaff⟩ := hstaff
    rw [h store w]
    refine ⟨by simp, by simp [hstaff], by simp [hstaff, hunfit],
      fun _ _ => iff_of_true ⟨_, rfl, trivial⟩ ⟨⟨a, rfl, hstaff⟩, hunfit⟩, ?_, ?_, hboot⟩
    · rintro f ⟨⟩ -
      exact ⟨rfl, h⟩
    · rintro f ⟨⟩
      exact .inl trivial
  · obtain ⟨a, rfl, hstaff⟩ := hstaff
    have hlate := h store w
    rcases hx : issueUser store (some a) username isStaff tokenName expiresAt w with ⟨r, w'⟩
    rw [hx] at hlate
    have hpasses : ∀ f, r = .error f → ¬f.cause.OfCheck := fun f hf => (hlate f hf).1.not_check
    refine ⟨iff_of_false ?_ nofun, iff_of_false ?_ (by simp [hstaff]),
      iff_of_false ?_ fun hunfit => hfit hunfit.2, fun hname htoken => iff_of_false ?_ ?_,
      fun f hf hcheck => absurd hcheck (hpasses f hf), fun f hf => .inr (hlate f hf).1, hboot⟩
    · rintro ⟨f, hf, hcause⟩
      exact hpasses f hf (by rw [hcause]; trivial)
    · rintro ⟨f, hf, hcause⟩
      exact hpasses f hf (by rw [hcause]; trivial)
    · rintro ⟨f, hf, p, hcause⟩
      exact hpasses f hf (by rw [hcause]; trivial)
    · rintro ⟨f, hf, hvalue⟩
      exact (hlate f hf).2 hvalue ⟨hname, htoken⟩
    · exact fun hunfit => hfit hunfit.2

/-- Ann, who is staff. -/
def chief : Identity := ⟨Text.ofString "a", Text.ofString "ann", true⟩

/-- Ann issues nobody under a blank name, whatever the world; and Bob is issued by her as he is in a
bootstrap, which writes one line before. -/
theorem issueUser_checks_chief :
    (∀ store w, issueUser store (some chief) (some (Text.ofString " \t")) .unset .missing none w =
        (.error (Cause.username .missing), w)) ∧
      (bootstrapStaffUser {} (some (Text.ofString "bob")) .missing {}).2.log =
        ⟨.info, .issuance, Text.ofString "Bootstrapping staff user bob", none⟩ ::
          (issueUser {} (some chief) (some (Text.ofString "bob")) (.value true) .missing none {}).2.log := by
  have hblank := issueUser_checks {} (some chief) (some (Text.ofString " \t")) .unset .missing none {}
  have hboot := (issueUser_checks {} (some chief) (some (Text.ofString "bob")) (.value true) .missing
    none {}).bootstrap ⟨chief, rfl, rfl⟩
  refine ⟨(hblank.untouched _ rfl trivial).2, ?_⟩
  generalize issueUser {} (some chief) (some (Text.ofString "bob")) (.value true) .missing none {} =
    issued at hboot ⊢
  obtain ⟨written, hlog, hbooted⟩ := hboot
  rw [hbooted, hlog]
  rfl

/-- A lone surrogate fits as a name, and yet it is a wrong value: the issue fails for it after a draw,
and for something else where the database cannot be reached. -/
theorem issueUser_wrong_value :
    let t : Text := [⟨0xD800, by decide⟩]
    let issued := issueUser {} (some chief) (some t) .unset .missing none
    ¬Unfit (some t) ∧ (issued {}).1 = .error (Cause.unencodable 0 t) ∧
      (Cause.unencodable 0 t).OfValue ∧ (issued {}).2.draws = 1 ∧
      (issued { database := { reachable := false } }).1 = .error (Cause.store .userNotInserted) := by
  intro t issued
  refine ⟨fun hunfit => ?_, by rfl, trivial, by decide +kernel, by rfl⟩
  obtain ⟨p, hp⟩ := unfit_iff.mp hunfit
  have hfits : checkedUsername (some t) = .ok t := by rfl
  rw [hfits] at hp
  cases hp

end

end BearerAccess
