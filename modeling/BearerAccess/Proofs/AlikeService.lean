import BearerAccess.Proofs.AlikeCall
import BearerAccess.Proofs.Application

/-!
# The service in worlds that are alike

Requests leave worlds alike that are alike, and one whose secret is plain is answered alike there. A
username that is not plain does no harm: a caller is known only while there are tables. An application
counts for what it serves by, and where there is none, the one that would be made counts.
-/

namespace BearerAccess

variable {α β : Type} {certain : Prop} {strict : Bool}
  {around : Surroundings → Surroundings → Prop} {store : Store}
  {tokenName : Label} {r : Request} {w v : World}

/-! ### Parts that cannot fail, and handlers -/

namespace SameAnswer

lemma follow {a : StateM World α} {f : α → StateM World β}
    (ha : SameAnswer strict around (a w) (a v))
    (hf : ∀ x w₁ v₁, a w = (x, w₁) → w₁.Alike strict around v₁ →
      SameAnswer strict around (f x w₁) (f x v₁)) :
    SameAnswer strict around ((a >>= f) w) ((a >>= f) v) := by
  obtain ⟨hanswer, hworld⟩ := ha
  rw [Computation.bind_apply, Computation.bind_apply, hanswer]
  exact hf _ _ _ rfl hworld

lemma look {f : World → StateM World β} (hf : SameAnswer strict around (f w w) (f v v)) :
    SameAnswer strict around ((get >>= f) w) ((get >>= f) v) := hf

lemma outcome {a : Action α} (ha : SameAnswer strict around (a w) (a v)) :
    SameAnswer strict around (outcome a w) (outcome a v) :=
  ⟨congrArg Except.ok ha.1, ha.2⟩

/-- What ends the same after a beginning that is answered alike. -/
lemma lead {a : StateM World α} {f : α → StateM World β}
    (ha : SameAnswer strict around (a w) (a v))
    (hf : ∀ x w₁ v₁, a w = (x, w₁) → w₁.Alike strict around v₁ →
      SameEnding certain strict around (f x w₁) (f x v₁)) :
    SameEnding certain strict around ((a >>= f) w) ((a >>= f) v) := by
  obtain ⟨hanswer, hworld⟩ := ha
  rw [Computation.bind_apply, Computation.bind_apply, hanswer]
  exact hf _ _ _ rfl hworld

end SameAnswer

lemma SameEnding.look {f : World → StateM World β}
    (hf : SameEnding certain strict around (f w w) (f v v)) :
    SameEnding certain strict around ((get >>= f) w) ((get >>= f) v) := hf

namespace SameEffect

lemma handle {a : Handler α} {f : α → Handler β}
    (ha : SameEffect certain strict around (a w) (a v))
    (hf : ∀ x w₁ v₁, a w = (.ok x, w₁) → w₁.Alike strict around v₁ →
      SameEffect certain strict around (f x w₁) (f x v₁)) :
    SameEffect certain strict around ((a >>= f) w) ((a >>= f) v) := by
  change SameEffect certain strict around (ExceptT.bindCont f (a w).1 (a w).2)
    (ExceptT.bindCont f (a v).1 (a v).2)
  rcases hw : a w with ⟨x, w₁⟩
  rcases hv : a v with ⟨y, v₁⟩
  rw [hw, hv] at ha
  obtain ⟨hanswer, hworld⟩ := ha
  cases hanswer with
  | errors hc p p' => exact ⟨.errors hc p p', hworld⟩
  | same =>
    cases x with
    | error p => exact ⟨.same _, hworld⟩
    | ok x => exact hf x w₁ v₁ hw hworld

lemma perform {a : Action α} (ha : SameEffect certain strict around (a w) (a v)) :
    SameEffect certain strict around (Handler.perform a w) (Handler.perform a v) := by
  unfold Handler.perform
  rcases hw : a w with ⟨x, w₁⟩
  rcases hv : a v with ⟨y, v₁⟩
  rw [hw, hv] at ha
  obtain ⟨hanswer, hworld⟩ := ha
  cases hanswer with
  | errors hc f f' => exact ⟨.errors hc _ _, hworld⟩
  | same =>
    cases x with
    | ok x => exact ⟨.same _, hworld⟩
    | error f => exact ⟨.same _, hworld⟩

/-- What ends the same, if that is certain, and else after any two errors leaves worlds alike. -/
lemma conclude {ε : Type} {a : StateM World (Except ε α)} {f : Except ε α → StateM World β}
    (ha : SameEffect certain strict around (a w) (a v))
    (hsame : ∀ x w₁ v₁, w₁.Alike strict around v₁ → SameAnswer strict around (f x w₁) (f x v₁))
    (herrors : ∀ e e' w₁ v₁, w₁.Alike strict around v₁ →
      (f (.error e) w₁).2.Alike strict around (f (.error e') v₁).2) :
    SameEnding certain strict around ((a >>= f) w) ((a >>= f) v) := by
  rw [Computation.bind_apply, Computation.bind_apply]
  rcases hw : a w with ⟨x, w₁⟩
  rcases hv : a v with ⟨y, v₁⟩
  rw [hw, hv] at ha
  obtain ⟨hanswer, hworld⟩ := ha
  cases hanswer with
  | errors hc e e' => exact ⟨fun ht => absurd ht hc, herrors e e' w₁ v₁ hworld⟩
  | same => exact (hsame x w₁ v₁ hworld).ending

end SameEffect

/-! ### Callers -/

lemma Guard.check_even (guard : Guard) (caller : Caller) :
    (guard.check caller).Even strict around := by
  unfold check
  obtain ⟨_ | identity, _ | refusal⟩ := caller
  · exact (Action.even_writeLog _ _ _).bind fun _ => Action.even_fail _
  · exact (Action.even_writeLog _ _ _).bind fun _ => Action.even_throw _
  · refine .ite (fun _ => ?_) fun _ => Action.even_pure _
    exact (Action.even_writeLog _ _ _).bind fun _ => (Action.even_fail _).bind fun _ =>
      Action.even_pure _
  · exact (Action.even_writeLog _ _ _).bind fun _ => Action.even_throw _

lemma Store.furnished_of_userByToken {secret : Option Text} {now : Option DateTime}
    {found : Option Identity} {w' : World}
    (h : store.userByToken secret now w = (.ok found, w')) : w.database.Furnished := by
  obtain ⟨rows, stamp, hrows, -⟩ := userByToken_ok h
  intro _
  rw [Database.tables_of_rows hrows, Option.isSome_some]

lemma furnished_of_authenticate {secret : Option Text} {now : Option DateTime}
    {identity : Identity} {w' : World}
    (h : authenticate store secret now w = (.ok identity, w')) : w.database.Furnished := by
  unfold authenticate at h
  by_cases hempty : secret.getD [] = []
  · rw [if_pos hempty, Action.bind_apply] at h
    cases h
  rw [if_neg hempty] at h
  obtain ⟨e, -, he⟩ | ⟨found, w₁, hfound, -⟩ := Action.bind_cases h
  · cases he
  · exact Store.furnished_of_userByToken hfound

/-- The secret that a header presents, if it presents one, has a form that can be handed to the
database. -/
def PlainHeader (header : Option Text) : Prop :=
  ∀ secret, bearerSecret header = .ok secret → Plain (some secret)

namespace Service

lemma look_alike (h : w.Alike strict around v) {header : Text}
    (hheader : certain → Settled strict (PlainHeader (some header)) w.database) :
    SameEffect certain strict around (look store header w) (look store header v) := by
  unfold look
  cases hsecret : bearerSecret (some header) with
  | error problem => exact ⟨.same _, h⟩
  | ok secret =>
    refine authenticate_alike h none fun hc => ?_
    exact (hheader hc).imp_right (.imp_left fun hplain => hplain secret hsecret)

lemma furnished_of_look {header : Text} {identity : Identity} {w' : World}
    (h : look store header w = (.ok identity, w')) : w.database.Furnished := by
  unfold look at h
  cases hsecret : bearerSecret (some header) with
  | error problem =>
    rw [hsecret] at h
    cases h
  | ok secret =>
    rw [hsecret] at h
    exact furnished_of_authenticate h

/-- A secret that is refused has been settled. -/
lemma settled_of_refusal {header : Text} {f : Failure} {w' : World}
    (h : look store header w = (.error f, w')) (hf : f.Refuses) :
    Settled strict (PlainHeader (some header)) w.database := by
  unfold look at h
  cases hsecret : bearerSecret (some header) with
  | error problem =>
    refine .inr (.inl fun secret hs => ?_)
    rw [hsecret] at hs
    cases hs
  | ok secret =>
    rw [hsecret] at h
    change authenticate store (some secret) none w = _ at h
    unfold authenticate at h
    by_cases hempty : (some secret).getD [] = []
    · refine .inr (.inl fun s hs => ?_)
      rw [hsecret] at hs
      cases hs
      rintro _ ⟨⟩
      rw [show secret = [] from hempty]
      rfl
    · rw [if_neg hempty] at h
      obtain ⟨e, he, hfe⟩ | ⟨found, w₁, hfound, -⟩ := Action.bind_cases h
      · cases hfe
        exact absurd hf (Store.userByToken_error he)
      · exact .inr (.inr (Store.furnished_of_userByToken hfound))

lemma findCaller_throws {header : Text} {f : Failure} {w' : World}
    (hheader : r.authorization = some header) (h : look store header w = (.error f, w'))
    (hf : ¬f.Refuses) : findCaller store r w = (.error f, w') := by
  have hfound : outcome (look store header) w = (.ok (.error f), w') :=
    congrArg (fun x : Except Failure Identity × World => (Except.ok x.1, x.2)) h
  obtain ⟨cause, noted⟩ := f
  unfold findCaller
  rw [hheader]
  change (outcome (look store header) >>= _) w = _
  rw [Action.bind_apply, hfound]
  cases cause
  all_goals first | rfl | exact absurd trivial hf

lemma findCaller_alike (h : w.Alike strict around v)
    (hheader : certain → Settled strict (PlainHeader r.authorization) w.database) :
    SameEffect certain strict around (findCaller store r w) (findCaller store r v) := by
  cases hgiven : r.authorization with
  | none =>
    unfold findCaller
    rw [hgiven]
    exact SameEffect.bind ⟨.same _, h.write⟩ fun _ _ _ _ h₁ => ⟨.same _, h₁⟩
  | some header =>
    rw [hgiven] at hheader
    have hlook : SameEffect (Settled strict (PlainHeader (some header)) w.database) strict around
        (look store header w) (look store header v) := look_alike h id
    rcases hw : look store header w with ⟨x, w₁⟩
    rcases hv : look store header v with ⟨y, v₁⟩
    have hsame := hlook
    rw [hw, hv] at hsame
    obtain ⟨hanswer, hworld⟩ := hsame
    cases hanswer with
    | errors hn f f' =>
      have hrefuses' : ¬f'.Refuses := fun hf => hn (h.database ▸ settled_of_refusal hv hf)
      rw [findCaller_throws hgiven hw fun hf => hn (settled_of_refusal hw hf),
        findCaller_throws hgiven hv hrefuses']
      exact ⟨.errors (mt hheader hn) f f', hworld⟩
    | same =>
      have hequal : SameAnswer strict around (look store header w) (look store header v) := by
        rw [hw, hv]
        exact ⟨rfl, hworld⟩
      unfold findCaller
      rw [hgiven]
      refine hequal.outcome.effect.bind fun found w₂ v₂ _ h₂ => ?_
      refine SameAnswer.effect ((?_ : Action.Even strict around _) w₂ v₂ h₂)
      cases found with
      | ok identity => exact (Action.even_writeLog _ _ _).bind fun _ => Action.even_pure _
      | error failure =>
        dsimp only
        split
        · exact (Action.even_writeLog _ _ _).bind fun _ => Action.even_pure _
        · exact (Action.even_writeLog _ _ _).bind fun _ => Action.even_pure _
        · exact Action.even_throw _

/-! ### Endpoints -/

lemma createUser_alike (h : w.Alike strict around v) (caller : Identity)
    (hfurnished : w.database.Furnished) :
    SameEffect certain strict around (createUser store tokenName caller r w)
      (createUser store tokenName caller r v) := by
  unfold createUser
  refine SameEffect.handle ⟨.same _, h⟩ fun fields w₁ v₁ hfields h₁ => ?_
  obtain ⟨-, rfl⟩ := Prod.mk.inj hfields
  refine SameEffect.handle ⟨.same _, h₁⟩ fun isStaff w₂ v₂ hflag h₂ => ?_
  obtain ⟨-, rfl⟩ := Prod.mk.inj hflag
  have hissue : SameEffect True strict around
      (issueUser store (some caller) (some (requestedUsername fields)) (.value isStaff) tokenName
        none w)
      (issueUser store (some caller) (some (requestedUsername fields)) (.value isStaff) tokenName
        none v₂) := issueUser_alike h₂ _ _ _ _ fun _ => .inr (.inr hfurnished)
  refine (hissue.answer trivial).outcome.effect.perform.handle fun issued w₃ v₃ _ h₃ => ?_
  cases issued with
  | ok credentials => exact ⟨.same _, h₃⟩
  | error failure =>
    obtain ⟨cause, noted⟩ := failure
    cases cause <;> exact ⟨.same _, h₃⟩

lemma guarded_alike {guard : Guard} {caller : Caller} {next : Identity → Handler Response}
    (h : w.Alike strict around v)
    (hnext : ∀ identity w₁ v₁, caller.identity = some identity → w₁.database = w.database →
      w₁.Alike strict around v₁ →
        SameEffect certain strict around (next identity w₁) (next identity v₁)) :
    SameEffect certain strict around ((Handler.perform (guard.check caller) >>= next) w)
      ((Handler.perform (guard.check caller) >>= next) v) :=
  (guard.check_even caller w v h).effect.perform.handle fun identity w₁ v₁ hguard h₁ =>
    hnext identity w₁ v₁ (Handler.guard_ok hguard).1
      (World.database_of_ground (Handler.perform_quiet (Guard.check_quiet _ _) hguard)) h₁

lemma take_alike (h : w.Alike strict around v) {caller : Caller} (e : Endpoint)
    (hknown : caller.identity.isSome → w.database.Furnished) :
    SameEffect certain strict around (take store tokenName caller r e w)
      (take store tokenName caller r e v) := by
  cases e with
  | showStatus =>
    obtain ⟨hanswer, hworld⟩ := Store.isAvailable_alike h
    have hasked : SameEffect certain strict around
        ((Store.isAvailable : Handler Bool) w) ((Store.isAvailable : Handler Bool) v) :=
      ⟨.of_eq (congrArg Except.ok hanswer), hworld⟩
    refine hasked.handle fun available w₁ v₁ _ h₁ => ?_
    cases available with
    | true => exact ⟨.same _, h₁⟩
    | false => exact ⟨.same _, h₁⟩
  | listUsers =>
    refine guarded_alike h fun identity w₁ v₁ _ _ h₁ => ?_
    exact (Store.operate_even rfl w₁ v₁ h₁).effect.perform.handle
      fun _ _ _ _ h₂ => ⟨.same _, h₂⟩
  | createUser =>
    refine guarded_alike h fun identity w₁ v₁ hidentity hdatabase h₁ => ?_
    refine createUser_alike h₁ identity ?_
    rw [hdatabase]
    exact hknown (by rw [hidentity, Option.isSome_some])
  | showCaller => exact guarded_alike h fun identity w₁ v₁ _ _ h₁ => ⟨.same _, h₁⟩
  | deleteUser id =>
    refine guarded_alike h fun identity w₁ v₁ _ _ h₁ => ?_
    have hdelete : (store.deleteUser (some (Text.ofString id))).Even strict around :=
      Store.operate_even (plain_ofString id).no_obstacle
    refine (hdelete w₁ v₁ h₁).effect.perform.handle fun _ w₂ v₂ _ h₂ => ?_
    exact (Action.even_writeLog _ _ _ w₂ v₂ h₂).effect.perform.handle
      fun _ _ _ _ h₃ => ⟨.same _, h₃⟩
  | sendFile name => exact ⟨.same _, h⟩

/-! ### Requests -/

lemma respond_alike (h : w.Alike strict around v)
    (hheader : certain → Settled strict (PlainHeader r.authorization) w.database) :
    SameEffect certain strict around (respond store tokenName r w)
      (respond store tokenName r v) := by
  unfold respond
  refine (findCaller_alike h hheader).perform.handle fun caller w₁ v₁ hcaller h₁ => ?_
  by_cases hname : r.misnamed
  · simp only [if_pos hname]
    exact ⟨.same _, h₁⟩
  simp only [if_neg hname]
  cases Destination.find r.method r.path r.forSocket with
  | endpoint e =>
    refine take_alike h₁ e fun hknown => ?_
    obtain ⟨identity, hidentity⟩ := Option.isSome_iff_exists.mp hknown
    obtain ⟨f, -, he⟩ | ⟨found, hfound, he⟩ := Handler.perform_cases hcaller
    · cases he
    cases he
    obtain ⟨header, w₂, -, hlook⟩ := findCaller_look hfound hidentity
    rw [World.database_of_ground ((findCaller_quiet _ _).ground_eq hfound)]
    exact furnished_of_look hlook
  | nowhere => exact ⟨.same _, h₁⟩
  | wrongMethod => exact ⟨.same _, h₁⟩
  | noSocket => exact ⟨.same _, h₁⟩
  | moved => exact ⟨.same _, h₁⟩
  | methods names => exact ⟨.same _, h₁⟩

lemma report_eq (r : Request) (p : Problem) (w : World) : ∃ log, report r p w = { w with log } := by
  unfold report
  cases p with
  | failure cause =>
    dsimp only
    split
    · exact ⟨w.log, rfl⟩
    · exact w.keep_eq _
    · exact w.keep_eq _
  | _ => exact ⟨w.log, rfl⟩

lemma report_alike (h : w.Alike strict around v) (r : Request) (p p' : Problem) :
    (report r p w).Alike strict around (report r p' v) := by
  obtain ⟨log, hw⟩ := report_eq r p w
  obtain ⟨log', hv⟩ := report_eq r p' v
  rw [hw, hv]
  exact h.change h.core h.idle rfl rfl

/-- Requests leave worlds alike that are alike, and are answered alike there if they are settled. -/
lemma answer_alike (h : w.Alike strict around v)
    (hheader : certain → Settled strict (PlainHeader r.authorization) w.database) :
    SameEnding certain strict around (answer store tokenName r w) (answer store tokenName r v) := by
  unfold answer
  refine SameAnswer.lead ⟨rfl, h.write⟩ fun _ w₁ v₁ hwritten h₁ => SameEnding.look ?_
  obtain ⟨-, rfl⟩ := Prod.mk.inj hwritten
  rw [← World.database_of_ground (World.ground_write w _ _ _)] at hheader
  rw [h₁.clock]
  refine SameEffect.conclude
    (a := (respond store tokenName { r with method := upperCase r.method }).run)
    (respond_alike h₁ hheader) (fun answered w₂ v₂ h₂ => ?_) fun p p' w₂ v₂ h₂ => ?_
  · cases answered with
    | ok response =>
      refine SameAnswer.follow (a := pure response) ⟨rfl, h₂⟩ fun _ w₃ v₃ _ h₃ =>
        SameAnswer.look ?_
      rw [h₃.clock]
      exact SameAnswer.follow ⟨rfl, h₃.write⟩ fun _ _ _ _ h₄ => ⟨rfl, h₄⟩
    | error problem =>
      refine SameAnswer.follow ⟨rfl, report_alike h₂ _ problem problem⟩ fun _ w₃ v₃ _ h₃ => ?_
      refine SameAnswer.follow (a := pure _) ⟨rfl, h₃⟩ fun _ w₄ v₄ _ h₄ => SameAnswer.look ?_
      rw [h₄.clock]
      exact SameAnswer.follow ⟨rfl, h₄.write⟩ fun _ _ _ _ h₅ => ⟨rfl, h₅⟩
  · exact (report_alike h₂ _ p p').write

end Service

/-! ### Applications -/

/-- What an application serves by: the name that it goes by, the name of new tokens, and whether it
has a store of its own. -/
structure Application.Manner where
  serverName : Option ServerName
  tokenName : Label
  ownStore : Bool

namespace Application

def manner (a : Application) : Manner := ⟨a.settings.serverName, a.settings.tokenName, a.ownStore⟩

/-- The manner of the application that is made where there is none. -/
def Manner.standard : Manner := ⟨none, .text Settings.defaultTokenName, false⟩

end Application

def Surroundings.manner (s : Surroundings) : Application.Manner :=
  (s.application.map Application.manner).getD .standard

/-- Surroundings that are the same as far as it matters for what is answered. -/
structure Surroundings.Same (a b : Surroundings) : Prop where
  folders : b.folders = a.folders
  files : ∀ path, b.files.lookup path = a.files.lookup path
  manner : b.manner = a.manner

lemma Surroundings.Same.renewed {a b : Surroundings} (h : a.Same b) :
    Same { a with renewals := a.renewals + 1 } { b with renewals := b.renewals + 1 } :=
  ⟨h.folders, h.files, h.manner⟩

/-- Settings for which nothing but an address is given have their defaults. -/
lemma Settings.read_standard (address : Text) : ∃ s, read [("DATABASE_URL", address)] = .ok s ∧
    s.logLevel = .named "INFO" ∧ s.createTables = false ∧ s.serverName = none ∧
    s.tokenName = .text defaultTokenName := by
  have hsize : integerSetting "25" = .ok 25 := by decide +kernel
  have hcreate : integerSetting "0" = .ok 0 := by decide +kernel
  obtain ⟨timeout, htimeout⟩ : ∃ x, numberSetting "30" = .ok x := ⟨_, rfl⟩
  obtain ⟨limit, hlimit⟩ : ∃ x, numberSetting "10" = .ok x := ⟨_, rfl⟩
  have hread : read [("DATABASE_URL", address)] = .ok ⟨"asdf1234", none, .named "INFO", address, 25,
      timeout, some (.real limit), false, .text defaultTokenName⟩ := by
    simp [read, List.lookup_cons, List.lookup_nil, hsize, hcreate, htimeout, hlimit]
    rfl
  exact ⟨_, hread, rfl, rfl, rfl, rfl⟩

lemma openDatabase_even (address : Text) (request : PoolRequest) :
    (openDatabase address request).Even strict around := by
  refine Action.Even.bind ?_ fun opened => Action.even_liftExcept _
  refine (Action.even_liftExcept _).bind fun url => ?_
  refine (Action.even_liftExcept _).bind fun options => ?_
  refine (Action.even_liftExcept _).bind fun shown => ?_
  exact (Action.even_writeLog _ _ _).bind fun _ => Action.even_pure _

namespace Application

lemma make_even (b : Blueprint) : (make b).Even strict around := by
  refine Action.even_get_bind fun w v h => ?_
  rw [h.databaseUrl]
  refine SameAnswer.bind (Action.even_liftExcept _ w v h) fun settings w₁ v₁ _ h₁ => ?_
  refine SameAnswer.bind (Action.even_liftExcept _ w₁ v₁ h₁) fun rank w₂ v₂ _ h₂ => ?_
  refine SameAnswer.bind ⟨rfl, h₂.change h₂.core h₂.idle rfl rfl⟩ fun _ w₃ v₃ _ h₃ => ?_
  have hlast : (if settings.createTables then Store.createTables >>= fun _ =>
      pure ⟨settings, b.hasStore⟩ else pure ⟨settings, b.hasStore⟩ :
      Action Application).Even strict around :=
    .ite (fun _ => (Store.changeTables_even _ _).bind fun _ => Action.even_pure _)
      fun _ => Action.even_pure _
  by_cases hstore : b.hasStore
  · simp only [if_pos hstore]
    exact (openDatabase_even _ _).bind (fun _ => hlast) w₃ v₃ h₃
  · simp only [if_neg hstore]
    exact hlast w₃ v₃ h₃

lemma install_even (b : Blueprint) : (install b).Even strict Surroundings.Same := by
  have hplaced : ∀ {w v : World} (a : Option Application), w.Alike strict Surroundings.Same v →
      ({ w with application := a } : World).Alike strict Surroundings.Same
        { v with application := a } :=
    fun a h => ⟨h.core, h.idle, h.surroundings.folders, h.surroundings.files, rfl⟩
  refine (Action.even_modify fun w v h => hplaced none h).bind fun _ => ?_
  refine (make_even b).bind fun a => ?_
  exact (Action.even_modify fun w v h => hplaced (some a) h).bind fun _ => Action.even_pure _

/-- Where nothing is asked for, an application can be made, and it changes nothing in the world
besides. -/
lemma install_standard (w : World) : ∃ a, install (.givenStore {}) w =
    (.ok a, { w with threshold := 20, application := some a }) ∧ a.manner = .standard := by
  obtain ⟨s, hread, hlevel, htables, hserver, htoken⟩ := Settings.read_standard w.databaseUrl
  have hsettings : (Blueprint.givenStore {}).settings w.databaseUrl = .ok s := by
    rw [Blueprint.settings, hread]
    rfl
  have hrank : s.logLevel.rank? = .ok 20 := by
    rw [hlevel]
    decide +kernel
  have hmake : make (.givenStore {}) { w with application := none } =
      (.ok ⟨s, false⟩, { w with application := none, threshold := 20 }) := by
    simp [make, Action.bind_apply, Action.map_apply, hsettings, hrank, Blueprint.hasStore, htables]
    rfl
  refine ⟨⟨s, false⟩, ?_, ?_⟩
  · rw [install, Action.bind_apply, Action.modify_apply]
    dsimp only
    rw [Action.bind_apply, hmake]
    rfl
  · rw [manner, hserver, htoken]
    rfl

/-- There always is an application to serve a request, in the manner of the surroundings. -/
lemma current_apply (w : World) : ∃ a threshold, current w =
    (.ok a, { w with threshold, application := some a }) ∧ a.manner = w.surroundings.manner := by
  unfold current
  rw [Action.bind_apply, Action.get_apply]
  dsimp only
  cases happ : w.application with
  | some a =>
    refine ⟨a, w.threshold, ?_, ?_⟩
    · change (Except.ok a, w) = _
      rw [← happ]
    · rw [Surroundings.manner, World.surroundings, happ]
      rfl
  | none =>
    obtain ⟨a, hinstall, hmanner⟩ := install_standard w
    refine ⟨a, 20, hinstall, ?_⟩
    rw [hmanner, Surroundings.manner, World.surroundings, happ]
    rfl

/-- An application that is made where there is none puts the default level in force. -/
lemma current_threshold (w : World) :
    (current w).2.threshold = w.application.elim 20 fun _ => w.threshold := by
  unfold current
  rw [Action.bind_apply, Action.get_apply]
  dsimp only
  cases w.application with
  | some a => rfl
  | none =>
    obtain ⟨a, hinstall, -⟩ := install_standard w
    dsimp only
    rw [hinstall]
    rfl

end Application

/-- What is done apart from the connections at hand is done with none, so with the same ones. -/
lemma World.Alike.apart {a : StateM World α} (h : w.Alike strict around v)
    (ha : ∀ w v, w.Alike true around v → SameAnswer true around (a w) (a v)) :
    SameAnswer strict around (World.apart a w) (World.apart a v) := by
  obtain ⟨hanswer, hworld⟩ :=
    ha { w with idle := [] } { v with idle := [] } ⟨h.core, fun _ => rfl, h.surroundings⟩
  exact ⟨hanswer, hworld.core, h.idle, hworld.surroundings⟩

namespace Application

/-- Requests leave worlds alike that are alike, and are served alike there if they are settled. Where
the application has a store of its own, no connection is used that has been used before. -/
lemma serve_alike (h : w.Alike strict Surroundings.Same v) {given own : Store}
    {draft : RequestDraft} (hdraft : certain → w.surroundings.manner.ownStore = false →
      Settled strict (PlainHeader draft.authorization) w.database) :
    SameEnding certain strict Surroundings.Same (serve given own draft w)
      (serve given own draft v) := by
  obtain ⟨a, threshold, hw, ha⟩ := current_apply w
  obtain ⟨b, threshold', hv, hb⟩ := current_apply v
  have hmanner : b.manner = a.manner := by rw [ha, hb, h.surroundings.manner]
  have hserver : b.settings.serverName = a.settings.serverName := congrArg Manner.serverName hmanner
  have htoken : b.settings.tokenName = a.settings.tokenName := congrArg Manner.tokenName hmanner
  have hown : b.ownStore = a.ownStore := congrArg Manner.ownStore hmanner
  have hready : ({ w with threshold, application := some a } : World).Alike strict Surroundings.Same
      { v with threshold := threshold', application := some b } :=
    ⟨h.core, h.idle, h.surroundings.folders, h.surroundings.files, hmanner⟩
  unfold serve
  rw [Action.bind_apply, Action.bind_apply, hw, hv]
  dsimp only
  rw [hserver, htoken, hown, Action.bind_apply, Action.bind_apply, Action.liftExcept_apply,
    Action.liftExcept_apply]
  cases hsent : draft.sent a.settings.serverName with
  | error f => exact ⟨fun _ => rfl, hready⟩
  | ok r =>
    rw [← RequestDraft.parts_of_sent hsent, ← ha] at hdraft
    dsimp only
    cases hstore : a.ownStore with
    | true =>
      obtain ⟨hanswer, hworld⟩ := hready.apart (a := Service.answer own a.settings.tokenName r)
        fun w v h => (Service.answer_alike h fun _ => .inl rfl).answer trivial
      exact ⟨fun _ => congrArg Except.ok hanswer, hworld⟩
    | false =>
      obtain ⟨hanswer, hworld⟩ : SameEnding certain strict Surroundings.Same
          (Service.answer given a.settings.tokenName r _)
          (Service.answer given a.settings.tokenName r _) :=
        Service.answer_alike hready fun hc => hdraft hc hstore
      exact ⟨fun hc => congrArg Except.ok (hanswer hc), hworld⟩

end Application

end BearerAccess
