import BearerAccess.Proofs.AlikeStore
import BearerAccess.Proofs.Block

/-!
# Calls and blocks in worlds that are alike

Calls and blocks leave worlds alike that are alike, and come to the same there if their texts are
plain. Where the database is furnished, or the likeness is strict, the texts do not matter.
-/

namespace BearerAccess

variable {certain : Prop} {strict : Bool} {around : Surroundings → Surroundings → Prop}
  {store : Store} {w v : World} {s t : Session}

lemma no_obstacle_of_plain {texts : List (Option Text)} (h : ∀ t ∈ texts, Plain t) :
    texts.findSome? textObstacle? = none :=
  List.findSome?_eq_none_iff.mpr fun t ht => (h t ht).no_obstacle

/-! ### Issuance -/

lemma Store.stage_of_insertUser {id username : Option Text} {isStaff : Flag} {u : User}
    {s' : Session} {w' : World}
    (h : store.insertUser id username isStaff s w = ((.ok u, s'), w')) : s'.stage ≠ .fresh := by
  obtain ⟨e, -, he⟩ | ⟨result, s₁, w₁, hinsert, hrest⟩ := Block.bind_cases h
  · cases he
  cases result with
  | error e => cases hrest
  | ok row =>
    cases hrest
    obtain ⟨f, rows, rows', -, -, hstage, -⟩ := Store.insert_applies hinsert
    rw [hstage]
    exact Stage.noConfusion

lemma makeCredentials_alike (h : w.Alike strict around v) (userId : String) {name : Text}
    (isStaff : Flag) (tokenName : Label) (expiresAt : Option DateTime)
    (hname : certain → Settled strict (Plain (some name)) w.database) :
    SameProgress certain strict around
      (makeCredentials store userId name isStaff tokenName expiresAt {} w)
      (makeCredentials store userId name isStaff tokenName expiresAt {} v) := by
  have huser : certain → ({} : Session).Settles strict w.database
      ([some (Text.ofString userId), some name].findSome? textObstacle?) := by
    intro hc
    obtain hs | hplain | hfurnished := hname hc
    · exact .inl hs
    · refine .inr (.inl (.inl (no_obstacle_of_plain ?_)))
      simp [hplain, plain_ofString]
    · exact .inr (.inr (.inr hfurnished))
  unfold makeCredentials
  refine .bind (Store.insertUser_alike h .start isStaff huser)
    fun user s₁ w₁ t₁ v₁ hinserted hst h₁ => ?_
  have hstage : s₁.stage ≠ .fresh := Store.stage_of_insertUser hinserted
  refine .bind (newIdentifier_even.outside newIdentifier_quiet hst h₁)
    fun tokenId s₂ w₂ t₂ v₂ hid hst₂ h₂ => ?_
  obtain ⟨rfl, -⟩ := Block.outside_cases hid
  refine .bind ((newSecret_even _).outside (fun w => (newSecret_cases rfl).1) hst₂ h₂)
    fun secret s₃ w₃ t₃ v₃ hsecret hst₃ h₃ => ?_
  obtain ⟨rfl, -⟩ := Block.outside_cases hsecret
  exact (Store.insertToken_alike h₃ hst₃ expiresAt fun _ => .inr (.inr (.inl hstage))).bind
    fun token s₄ w₄ t₄ v₄ _ hst₄ h₄ => ⟨.same _, hst₄, h₄⟩

lemma createUser_alike (h : w.Alike strict around v) {username : Option Text} (isStaff : Flag)
    (tokenName : Label) (expiresAt : Option DateTime)
    (hname : certain → Settled strict (Plain username) w.database) :
    SameEffect certain strict around (createUser store username isStaff tokenName expiresAt w)
      (createUser store username isStaff tokenName expiresAt v) := by
  unfold createUser
  cases hchecked : checkedUsername username with
  | error problem => exact ⟨.same _, h⟩
  | ok name =>
    refine (newIdentifier_even w v h).effect.bind fun userId w₁ v₁ hid h₁ => ?_
    rw [← World.database_of_ground (newIdentifier_quiet.ground_eq hid),
      eq_of_checkedUsername hchecked] at hname
    refine (Store.transaction_alike (makeCredentials_alike h₁ userId isStaff tokenName expiresAt
      hname)).bind fun made w₂ v₂ _ h₂ => ?_
    refine SameAnswer.effect ?_
    exact (Action.even_writeLog _ _ _).bind (fun _ => Action.even_pure _) w₂ v₂ h₂

lemma issueUser_alike (h : w.Alike strict around v) (actor : Option Identity)
    {username : Option Text} (isStaff : Flag) (tokenName : Label) (expiresAt : Option DateTime)
    (hname : certain → Settled strict (Plain username) w.database) :
    SameEffect certain strict around (issueUser store actor username isStaff tokenName expiresAt w)
      (issueUser store actor username isStaff tokenName expiresAt v) := by
  obtain ⟨cause, -, hrefused⟩ | ⟨a, -, -, hcreates⟩ := issueUser_decides actor
  · rw [hrefused]
    exact ⟨.same _, h⟩
  · rw [hcreates]
    exact createUser_alike h isStaff tokenName expiresAt hname

lemma bootstrapStaffUser_alike (h : w.Alike strict around v) {username : Option Text}
    (tokenName : Label)
    (hname : certain → Settled strict (Plain username) w.database) :
    SameEffect certain strict around (bootstrapStaffUser store username tokenName w)
      (bootstrapStaffUser store username tokenName v) := by
  rw [bootstrapStaffUser_apply, bootstrapStaffUser_apply]
  refine createUser_alike h.write _ tokenName none ?_
  rwa [World.database_of_ground (World.ground_write _ _ _ _)]

/-! ### Calls -/

/-- A label has a form that can be handed to the database, or is none that it could store. -/
def Label.Plain (l : Label) : Prop := l.obstacle? = none ∨ l.obstacle? = some .refused

/-- All that a call hands to the database has a form that can be handed to it. -/
def Call.Plain : Call → Prop
  | insertUser id username _ => ∀ t ∈ [id, username], BearerAccess.Plain t
  | insertToken id userId secret name _ =>
    (∀ t ∈ [id, userId, secret], BearerAccess.Plain t) ∧ name.Plain
  | userByToken t _ | authenticate t _ | userById t | userByUsername t | tokensOf t | deleteUser t
  | deleteToken t | issue _ t _ _ _ | bootstrap t _ => BearerAccess.Plain t
  | _ => True

lemma settles_user {id username : Option Text} {db : Database}
    (h : certain → Settled strict (∀ t ∈ [id, username], Plain t) db) (s : Session)
    (hc : certain) : s.Settles strict db ([id, username].findSome? textObstacle?) :=
  (h hc).imp_right (.imp (fun htexts => .inl (no_obstacle_of_plain htexts)) .inr)

lemma settles_token {texts : List (Option Text)} {name : Label} {db : Database}
    (h : certain → Settled strict ((∀ t ∈ texts, Plain t) ∧ name.Plain) db) (s : Session)
    (hc : certain) : s.Settles strict db ((texts.findSome? textObstacle?).or name.obstacle?) := by
  refine (h hc).imp_right (.imp ?_ .inr)
  rintro ⟨htexts, hname⟩
  rw [no_obstacle_of_plain htexts, Option.none_or]
  exact hname

/-- Calls come to the same in worlds that are alike, or fail there. One that gives up the connections
does so where it does not matter for what surrounds the store. -/
lemma Call.perform_alike (h : w.Alike strict around v) {c : Call}
    (hc : certain → Settled strict c.Plain w.database)
    (hrenewals : c = .disconnect → ∀ a b : Surroundings, around a b →
      around { a with renewals := a.renewals + 1 } { b with renewals := b.renewals + 1 }) :
    SameEffect certain strict around (c.perform store w) (c.perform store v) := by
  cases c with
  | insertUser id username isStaff =>
    exact (Store.transaction_alike
      (Store.insertUser_alike h .start isStaff (settles_user hc _))).map _
  | insertToken id userId secret name expiresAt =>
    exact (Store.transaction_alike
      (Store.insertToken_alike h .start expiresAt (settles_token hc _))).map _
  | userByToken secret now => exact (Store.userByToken_alike h now hc).map _
  | authenticate secret now => exact (authenticate_alike h now hc).map _
  | userById id => exact (Store.operate_alike h fun ht => Store.answerable (hc ht)).map _
  | userByUsername username => exact (Store.operate_alike h fun ht => Store.answerable (hc ht)).map _
  | users => exact (Store.operate_even rfl w v h).effect.map _
  | tokensOf userId => exact (Store.operate_alike h fun ht => Store.answerable (hc ht)).map _
  | deleteUser id => exact (Store.operate_alike h fun ht => Store.answerable (hc ht)).map _
  | deleteToken id => exact (Store.operate_alike h fun ht => Store.answerable (hc ht)).map _
  | isAvailable =>
    obtain ⟨hanswer, hworld⟩ := Store.isAvailable_alike h
    exact ⟨.of_eq (congrArg (fun b => Except.ok (Answer.truth b)) hanswer), hworld⟩
  | createTables => exact (Store.changeTables_even _ _ w v h).effect.map _
  | dropTables => exact (Store.changeTables_even _ _ w v h).effect.map _
  | disconnect =>
    refine ⟨.same _, ?_, fun _ => rfl, hrenewals rfl _ _ h.surroundings⟩
    exact congrArg (fun c : Core => { c with renewals := c.renewals + 1 }) h.core
  | issue actor username isStaff tokenName expiresAt =>
    exact (issueUser_alike h actor isStaff tokenName expiresAt hc).map _
  | bootstrap username tokenName => exact (bootstrapStaffUser_alike h tokenName hc).map _

lemma Call.surroundings_perform {c : Call} (hc : c ≠ .disconnect) (w : World) :
    (c.perform store w).2.surroundings = w.surroundings :=
  World.surroundings_of_alike
    (fun _ _ _ h =>
      (Call.perform_alike h (fun _ : False => .inl rfl) fun hd => absurd hd hc).2) w

/-! ### Blocks -/

namespace BlockStep

/-- All that a step of a block hands to the database has a form that can be handed to it. -/
def Plain : BlockStep → Prop
  | insertUser id username _ => ∀ t ∈ [id, username], BearerAccess.Plain t
  | insertToken id userId secret name _ =>
    (∀ t ∈ [id, userId, secret], BearerAccess.Plain t) ∧ name.Plain
  | raise _ => True
  | outside call | nested call => call.Plain

end BlockStep

section Blocks

variable (hrenewals : ∀ a b : Surroundings, around a b →
  around { a with renewals := a.renewals + 1 } { b with renewals := b.renewals + 1 })

include hrenewals

lemma BlockStep.perform_alike (hst : s.Alike strict w.database.reachable t)
    (h : w.Alike strict around v)
    {step : BlockStep} (hstep : certain → Settled strict step.Plain w.database) :
    SameProgress certain strict around (step.perform store s w) (step.perform store t v) := by
  have hbeside : ∀ {c : Call}, (certain → Settled strict c.Plain w.database) →
      SameProgress certain strict around (Block.outside (c.perform store) s w)
        (Block.outside (c.perform store) t v) := by
    intro c hc
    have heffect : SameEffect certain strict around (c.perform store w) (c.perform store v) :=
      Call.perform_alike h hc fun _ => hrenewals
    exact heffect.outside (Call.perform_commits (Prod.eta _).symm).reachable hst
  cases step with
  | insertUser id username isStaff =>
    exact (Store.insertUser_alike h hst isStaff (settles_user hstep _)).map _
  | insertToken id userId secret name expiresAt =>
    exact (Store.insertToken_alike h hst expiresAt (settles_token hstep _)).map _
  | raise failure => exact ⟨.same _, hst, h⟩
  | outside call => exact hbeside hstep
  | nested call => exact hbeside hstep

namespace BlockScript

/-- What is handed to the database by the steps of a block that are carried out is settled. -/
def Settled (strict : Bool) (store : Store) (script : BlockScript) (s : Session) (w : World) : Prop :=
  ∀ x ∈ script.trace store s w, BearerAccess.Settled strict x.step.Plain x.world.database

/-- The steps of a block leave worlds alike that are alike, and come to the same there if they are
settled. A step that is not fails either way, and so lets the block go on or not. -/
lemma perform_alike {script : BlockScript} (hst : s.Alike strict w.database.reachable t)
    (h : w.Alike strict around v) :
    (script.Settled strict store s w →
        (perform store script t v).1.1.1 = (perform store script s w).1.1.1) ∧
      SameProgress (script.Settled strict store s w) strict around
        (((perform store script s w).1.1.2, (perform store script s w).1.2),
          (perform store script s w).2)
        (((perform store script t v).1.1.2, (perform store script t v).1.2),
          (perform store script t v).2) := by
  induction script generalizing s t w v with
  | nil => exact ⟨fun _ => rfl, .same _, hst, h⟩
  | cons head rest ih =>
    obtain ⟨step, caught⟩ := head
    rcases hw : step.perform store s w with ⟨⟨r, s₁⟩, w₁⟩
    rcases hv : step.perform store t v with ⟨⟨r', t₁⟩, v₁⟩
    have hhead : Agree (BearerAccess.Settled strict step.Plain w.database) r r' ∧
        s₁.Alike strict w₁.database.reachable t₁ ∧ w₁.Alike strict around v₁ := by
      have hstep : SameProgress (BearerAccess.Settled strict step.Plain w.database) strict around
          (step.perform store s w) (step.perform store t v) :=
        BlockStep.perform_alike hrenewals hst h id
      rwa [hw, hv] at hstep
    obtain ⟨hagree, hsession, hworld⟩ := hhead
    have hok : r'.isOk = r.isOk := by cases hagree <;> rfl
    by_cases hon : r.isOk ∨ caught || step.isOutside
    · obtain ⟨hperform, htrace⟩ := perform_on rest hw hon
      have hparts : Settled strict store ((step, caught) :: rest) s w →
          BearerAccess.Settled strict step.Plain w.database ∧ Settled strict store rest s₁ w₁ := by
        intro hscript
        unfold Settled at hscript
        rw [htrace, List.forall_mem_cons] at hscript
        exact hscript
      obtain ⟨hresults, hending, hlast⟩ := ih hsession hworld
      rw [hperform, (perform_on rest hv (hok ▸ hon)).1]
      refine ⟨fun hscript => ?_, hending.mono fun hscript => (hparts hscript).2, hlast⟩
      rw [hagree.eq (hparts hscript).1, hresults (hparts hscript).2]
    · obtain ⟨⟨f, rfl, hperform⟩, htrace⟩ := perform_off rest hw hon
      obtain ⟨⟨f', rfl, hperform'⟩, -⟩ := perform_off rest hv (hok ▸ hon)
      have hhead : Settled strict store ((step, caught) :: rest) s w →
          BearerAccess.Settled strict step.Plain w.database := by
        intro hscript
        unfold Settled at hscript
        rw [htrace, List.forall_mem_singleton] at hscript
        exact hscript
      rw [hperform, hperform']
      refine ⟨fun hscript => by rw [hagree.eq (hhead hscript)], ?_, hsession, hworld⟩
      cases hagree with
      | same => exact .same _
      | errors hn => exact .errors (fun hscript => hn (hhead hscript)) _ _

/-- Blocks leave worlds alike that are alike, and come to the same there if they are settled. -/
lemma run_alike {script : BlockScript} (h : w.Alike strict around v) :
    SameEnding (script.Settled strict store {} w) strict around (run store script w)
      (run store script v) := by
  obtain ⟨hresults, hprogress⟩ :
      (script.Settled strict store {} w → _) ∧ SameProgress _ strict around _ _ :=
    perform_alike hrenewals .start h
  obtain ⟨hending, hsession, hworld⟩ := hprogress
  obtain ⟨houtcome, hlast⟩ :
      SameEffect (script.Settled strict store {} w) strict around (store.finish _ _ _)
        (store.finish _ _ _) := Store.finish_alike hworld hsession hending
  exact ⟨fun hscript => congrArg₂ Prod.mk (hresults hscript) (houtcome.eq hscript), hlast⟩

end BlockScript

end Blocks

end BearerAccess
