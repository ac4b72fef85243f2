import BearerAccess.Proofs.Twin

/-!
# Calls, blocks and applications in twin worlds

Every call comes to the same in two worlds that are twins, but for the secrets that its answer tells,
and so does every block. Applications are made alike in both. Of the responses, only the one that shows
the credentials of a new user tells a secret.
-/

namespace BearerAccess

variable {r : Renaming} {w v : World} {store : Store}

/-! ### Responses -/

lemma Parallel.eq_map {α α' : Type} {f : α → α'} {x : Except Failure α} {y : Except Failure α'}
    (h : Parallel (Failure.Kin True) (Twins.Under f) x y) : y = x.map f := by
  cases h with
  | answers h =>
    obtain rfl := h
    rfl
  | errors h =>
    rw [h.eq]
    rfl

lemma Parallel.same {α : Type} {x y : Except Failure α} (h : Parallel (Failure.Kin True) Eq x y) :
    y = x :=
  (h.mono (fun _ _ => Failure.Kin.eq) fun _ _ => id).eq.symm

lemma Json.mapField_record (name : String) (f : Json → Json) (fields : List (String × Json)) :
    (Json.record fields).mapField name f =
      Json.record (fields.map fun x => (x.1, if x.1 = name then f x.2 else x.2)) := by
  simp only [record, mapField, List.map_map, Function.comp_def, Text.ofString_injective.eq_iff]

lemma Token.toJson?_renamed (k : Token) : (k.renamed r).toDatum.toJson? =
    k.toDatum.toJson?.map (Json.mapField "token" (Json.mapString r.text)) := by
  cases hexpiry : (Datum.ofTime? k.expiresAt).toJson? with
  | none =>
    simp [toDatum, renamed, Datum.toJson?, Datum.fieldsToJson?, Datum.ofString, Datum.ofText, hexpiry]
  | some expiry =>
    cases htime : (Datum.ofTime? k.createdAt).toJson? with
    | none =>
      simp [toDatum, renamed, Datum.toJson?, Datum.fieldsToJson?, Datum.ofString, Datum.ofText, hexpiry,
        htime]
    | some time =>
      have hshown (k' : Token) (he : k'.expiresAt = k.expiresAt) (hc : k'.createdAt = k.createdAt) :
          k'.toDatum.toJson? = some (Json.record [("token_id", .ofString k'.tokenId),
            ("user_id", .ofString k'.userId), ("token", .ofString k'.secret),
            ("name", .ofString k'.name), ("expires_at", expiry), ("created_at", time)]) := by
        simp only [toDatum, Datum.toJson?, Datum.fieldsToJson?, he, hc, hexpiry, htime, Datum.ofString,
          Datum.ofText, Option.bind_eq_bind, Option.bind_some, Option.pure_def, Option.map_some]
        rfl
      rw [hshown k rfl rfl, hshown (k.renamed r) rfl rfl, Option.map_some, Json.mapField_record]
      simp [renamed, Json.ofString, Json.mapString, Renaming.ofString_string]

/-- What is shown of credentials with another secret. -/
lemma Credentials.shown_renamed (c : Credentials) : (c.renamed r).toDatum.shown =
    Json.mapField "token" (Json.mapField "token" (Json.mapString r.text)) c.toDatum.shown := by
  have hshown (c : Credentials) : c.toDatum.shown = ((c.user.toDatum.toJson?.bind fun user =>
      c.token.toDatum.toJson?.map fun token => Json.record [("user", user), ("token", token)])).getD
        .null := by
    simp only [Datum.shown, toDatum, Datum.toObject?, Datum.toJson?, Datum.fieldsToJson?,
      Option.bind_eq_bind, Option.pure_def]
    cases c.user.toDatum.toJson? <;> cases c.token.toDatum.toJson? <;> rfl
  rw [hshown, hshown, show (c.renamed r).user = c.user from rfl,
    show (c.renamed r).token = c.token.renamed r from rfl, Token.toJson?_renamed]
  cases c.user.toDatum.toJson? with
  | none => rfl
  | some user =>
    cases c.token.toDatum.toJson? with
    | none => rfl
    | some token =>
      simp only [Option.bind_some, Option.map_some, Option.getD_some, Json.mapField_record]
      rfl

lemma Response.Same.renamed {x y : Response}
    (h : Response.Same (Twins.Under (Credentials.renamed r)) x y) : y = x.renamed r := by
  cases h with
  | same _ h =>
    unfold Response.renamed
    split
    · rename_i hstatus
      obtain hother | hnone := h
      · exact absurd hstatus hother
      · obtain ⟨status, contentType, content, allow⟩ := x
        obtain rfl : content = none := hnone
        rfl
    · rfl
  | created h =>
    obtain rfl := h
    rw [Credentials.shown_renamed]
    rfl

/-! ### Calls -/

namespace Twins

variable {told : Prop} {store' : Store}

lemma changeTables (h : w.Twin r told v) (statement : String)
    {change : Option Tables → Option Tables}
    (hchange : ∀ t : Option Tables, change (t.map (·.renamed r)) = (change t).map (·.renamed r)) :
    Actions r told Eq (Store.changeTables statement change w) (Store.changeTables statement change v) := by
  have hturn : w.turn.Twin r told v.turn := (Nearness.twins r told).turn h
  unfold Store.changeTables
  simp only [Action.bind_apply, Action.get_apply, Action.modify_apply]
  rw [database hturn]
  have htables : (w.turn.database.renamed r).tables = w.turn.database.tables.map (·.renamed r) := rfl
  have hchanges : change (w.turn.database.tables.map (·.renamed r)) ≠
      w.turn.database.tables.map (·.renamed r) ↔
        change w.turn.database.tables ≠ w.turn.database.tables := by
    rw [hchange, ne_eq, (Option.map_injective Tables.renamed_injective).eq_iff]
  have hfailure : Store.schemaFailure? (w.turn.database.renamed r) statement =
      Store.schemaFailure? w.turn.database statement := rfl
  rw [htables, decide_eq_decide.mpr hchanges, hfailure, hchange]
  cases Store.schemaFailure? w.turn.database statement
      (decide (change w.turn.database.tables ≠ w.turn.database.tables)) with
  | some cause => exact ⟨.errors (.refl _), hturn⟩
  | none => exact ⟨.answers rfl, with_database hturn rfl⟩

lemma createTables (h : w.Twin r told v) :
    Actions r told Eq (Store.createTables w) (Store.createTables v) :=
  changeTables h _ fun t => by cases t <;> rfl

/-- An operation that is given no secret comes to the same if what it makes of rows commutes with
renaming them. -/
lemma operate {α α' : Type} (h : w.Twin r told v) (hstore : store.Kin told store') {f : α → α'}
    {name : String} {query : Option Store.Query} {work : Store.Work α} {work' : Store.Work α'}
    (hquery : (Nearness.twins r told).Queries query query)
    (hwork : ∀ t : Tables,
      work' (t.renamed r) = (work t).map fun x => (f x.1, x.2.map (·.renamed r))) :
    Actions r told (Under f) (store.operate name query work w)
      (store'.operate name query work' v) := by
  refine (Nearness.twins r told).operate h hstore hquery fun a b hrows => ?_
  obtain rfl := hrows
  rw [hwork]
  cases work a with
  | error cause => exact .errors rfl
  | ok x =>
    obtain ⟨x, left⟩ := x
    refine .answers ⟨rfl, ?_⟩
    cases left with
    | none => exact .none
    | some left => exact .some rfl

/-- Calls come to the same with other secrets. -/
lemma call (h : w.Twin r told v) (hstore : store.Kin told store') (c : Call) :
    Actions r told (Under (Answer.renamed r)) (c.perform store w)
      ((c.renamed r).perform store' v) := by
  have hsame {α : Type} {f : α → Answer} (hf : ∀ a, (f a).renamed r = f a) (a a' : α) (ha : a = a') :
      Under (Answer.renamed r) (f a) (f a') := by
    rw [Under, hf, ha]
  cases c with
  | insertUser id username isStaff =>
    exact (transaction hstore (insertUser h hstore id username isStaff {})).map
      (hsame fun _ => rfl)
  | insertToken id userId secret name expiresAt =>
    exact (transaction hstore (insertToken h hstore id userId secret name expiresAt {})).map
      fun _ _ ha => congrArg Answer.token ha
  | userByToken secret now => exact (userByToken h hstore secret now).map (hsame fun _ => rfl)
  | authenticate secret now => exact (authenticate h hstore secret now).map (hsame fun _ => rfl)
  | userById userId =>
    refine Coupled.map (V := Under id) (operate h hstore (.named (by decide) _) fun t => ?_)
      fun _ _ ha => congrArg Answer.user ha
    change Store.required (t.userById? (stored? userId)) = _
    cases t.userById? (stored? userId) <;> rfl
  | userByUsername username =>
    refine Coupled.map (V := Under id) (operate h hstore (.named (by decide) _) fun t => ?_)
      fun _ _ ha => congrArg Answer.user ha
    change Store.required (t.userByUsername? (stored? username)) = _
    cases t.userByUsername? (stored? username) <;> rfl
  | users => exact ((Nearness.twins r told).users h hstore).map (hsame fun _ => rfl)
  | tokensOf userId =>
    refine Coupled.map (V := Under (List.map (Token.renamed r)))
      (operate h hstore (.named (by decide) _) fun t => ?_) fun _ _ ha => congrArg Answer.tokens ha
    rw [Tables.tokensOf_renamed, List.map_map]
    simp only [Store.reading, Except.map, List.map_map, Option.map_none]
    rfl
  | deleteUser id => exact ((Nearness.twins r told).deleteUser h hstore id).map (hsame fun _ => rfl)
  | deleteToken tokenId =>
    refine Coupled.map (V := Under id) (operate h hstore (.named (by decide) _) fun t => ?_)
      fun _ _ _ => rfl
    rw [Tables.tokenById?_renamed]
    cases t.tokenById? (stored? tokenId) with
    | none => rfl
    | some row => exact congrArg (fun rows => Except.ok ((), some rows)) (t.deleteToken_renamed row.id)
  | isAvailable =>
    obtain ⟨hanswer, hworld⟩ := (Nearness.twins r told).isAvailable h
    exact ⟨.answers (congrArg Answer.truth hanswer.symm), hworld⟩
  | createTables => exact (createTables h).map (hsame fun _ => rfl)
  | dropTables => exact (changeTables h _ fun t => by cases t <;> rfl).map (hsame fun _ => rfl)
  | disconnect =>
    obtain ⟨log, rfl, hlog⟩ := h
    exact ⟨.answers rfl, log, rfl, hlog⟩
  | issue actor username isStaff tokenName expiresAt =>
    exact (issueUser h hstore actor username isStaff tokenName expiresAt).map
      fun _ _ ha => congrArg Answer.credentials ha
  | bootstrap username tokenName =>
    have hissued : Actions r told (Under (Credentials.renamed r))
        (bootstrapStaffUser store username tokenName w)
        (bootstrapStaffUser store' username tokenName v) :=
      Coupled.bind (V := Eq) ⟨.answers rfl, h.write fun _ => rfl⟩ fun _ _ w₁ v₁ _ h₁ =>
        createUser h₁ hstore username (.value true) tokenName none
    exact hissued.map fun _ _ ha => congrArg Answer.credentials ha

/-! ### Blocks -/

lemma step (h : w.Twin r told v) (hstore : store.Kin told store') (b : BlockStep) (s : Session) :
    Blocks r told (Under (Answer.renamed r)) (b.perform store s w)
      ((b.renamed r).perform store' (s.renamed r) v) := by
  cases b with
  | insertUser id username isStaff =>
    exact (insertUser h hstore id username isStaff s).mapStep fun _ _ ha => by rw [ha]; rfl
  | insertToken id userId secret name expiresAt =>
    exact (insertToken h hstore id userId secret name expiresAt s).mapStep
      fun _ _ ha => congrArg Answer.token ha
  | raise failure => exact ⟨⟨.errors (.refl _), rfl⟩, h⟩
  | outside c => exact (call h hstore c).outside rfl
  | nested c => exact (call h hstore c).outside rfl

lemma isOutside (b : BlockStep) : (b.renamed r).isOutside = b.isOutside := by
  cases b <;> rfl

/-- What becomes of a block, with other secrets in the answers to its steps. -/
def ending (r : Renaming) (x : List (Except Failure Answer) × Except Failure Unit) :
    List (Except Failure Answer) × Except Failure Unit :=
  (x.1.map (·.map (·.renamed r)), x.2)

/-- The steps of a block come to the same with other secrets. A step fails with them if it fails
without, and so lets the block go on or not. -/
lemma steps (h : w.Twin r True v) (script : BlockScript) (s : Session) :
    Coupled (Coupled (Under (ending r)) (Under (Session.renamed r))) (World.Twin r True)
      (script.perform store s w) ((script.renamed r).perform store (s.renamed r) v) := by
  induction script generalizing s w v with
  | nil => exact ⟨⟨rfl, rfl⟩, h⟩
  | cons head rest ih =>
    obtain ⟨b, caught⟩ := head
    have hcons : BlockScript.renamed r ((b, caught) :: rest) =
        (b.renamed r, caught) :: BlockScript.renamed r rest := rfl
    rw [hcons]
    rcases hw : b.perform store s w with ⟨⟨x, s₁⟩, w₁⟩
    rcases hv : (b.renamed r).perform store (s.renamed r) v with ⟨⟨y, t₁⟩, v₁⟩
    obtain ⟨rfl, rfl, hworld⟩ :
        y = x.map (·.renamed r) ∧ t₁ = s₁.renamed r ∧ w₁.Twin r True v₁ := by
      obtain ⟨⟨hanswer, hsession⟩, hworld⟩ := step h (.refl store) b s
      rw [hw, hv] at hanswer hsession hworld
      exact ⟨hanswer.eq_map, hsession, hworld⟩
    have hgoes : (x.map (·.renamed r)).isOk ∨ caught || (b.renamed r).isOutside ↔
        x.isOk ∨ caught || b.isOutside := by
      rw [isOutside]
      cases x <;> rfl
    by_cases hon : x.isOk ∨ caught || b.isOutside
    · obtain ⟨⟨hending, hsession⟩, hlast⟩ := ih hworld s₁
      rw [(BlockScript.perform_on rest hw hon).1,
        (BlockScript.perform_on (BlockScript.renamed r rest) hv (hgoes.mpr hon)).1]
      exact ⟨⟨by rw [hending]; rfl, hsession⟩, hlast⟩
    · obtain ⟨⟨f, rfl, hperform⟩, -⟩ := BlockScript.perform_off rest hw hon
      obtain ⟨⟨f', hf, hperform'⟩, -⟩ :=
        BlockScript.perform_off (BlockScript.renamed r rest) hv (mt hgoes.mp hon)
      obtain rfl : f = f' := Except.error.inj hf
      rw [hperform, hperform']
      exact ⟨⟨rfl, rfl⟩, hworld⟩

lemma block (h : w.Twin r True v) (store : Store) (script : BlockScript) :
    Coupled (Under (ending r)) (World.Twin r True) (script.run store w)
      ((script.renamed r).run store v) := by
  have hsteps : Coupled (Coupled (Under (ending r)) (Under (Session.renamed r))) (World.Twin r True)
      (script.perform store {} w) ((script.renamed r).perform store {} v) := steps h script {}
  unfold BlockScript.run
  rcases hw : script.perform store {} w with ⟨⟨⟨results, x⟩, s⟩, w₁⟩
  rcases hv : (script.renamed r).perform store {} v with ⟨⟨⟨results', y⟩, t⟩, v₁⟩
  rw [hw, hv] at hsteps
  obtain ⟨⟨hending, rfl⟩, hworld⟩ := hsteps
  obtain ⟨rfl, rfl⟩ := Prod.mk.inj hending
  obtain ⟨houtcome, hlast⟩ : Actions r True Eq (store.finish y s w₁) (store.finish y (s.renamed r) v₁) :=
    finish hworld (.refl store) (.rfl' .refl y) s
  exact ⟨congrArg (Prod.mk _) houtcome.same, hlast⟩

/-! ### Applications -/

lemma lift {α : Type} (h : w.Twin r told v) (x : Except Failure α) :
    Actions r told Eq ((liftExcept x : Action α) w) ((liftExcept x : Action α) v) := by
  rw [Action.liftExcept_apply, Action.liftExcept_apply]
  exact ⟨.rfl' .refl x, h⟩

lemma openDatabase (h : w.Twin r told v) (address : Text) (request : PoolRequest) :
    Actions r told Eq (openDatabase address request w) (openDatabase address request v) := by
  refine Coupled.bind (V := Eq) ?_ fun opened _ w₁ v₁ hopened h₁ => ?_
  · refine Coupled.bind (lift h _) fun url _ w₁ v₁ hurl h₁ => ?_
    obtain rfl := hurl
    refine Coupled.bind (lift h₁ _) fun options _ w₂ v₂ hoptions h₂ => ?_
    obtain rfl := hoptions
    refine Coupled.bind (lift h₂ _) fun shown _ w₃ v₃ hshown h₃ => ?_
    obtain rfl := hshown
    exact Coupled.bind (V := Eq) ⟨.answers rfl, h₃.write fun _ => rfl⟩
      fun _ _ _ _ _ h₄ => ⟨.answers rfl, h₄⟩
  · obtain rfl := hopened
    exact lift h₁ _

lemma make (h : w.Twin r told v) (b : Blueprint) :
    Actions r told Eq (Application.make b w) (Application.make b v) := by
  have hurl : v.databaseUrl = w.databaseUrl := by
    obtain ⟨log, rfl, -⟩ := h
    rfl
  unfold Application.make
  rw [Action.bind_apply, Action.bind_apply, Action.get_apply, Action.get_apply]
  dsimp only
  rw [hurl]
  refine Coupled.bind (lift h _) fun settings _ w₁ v₁ hsettings h₁ => ?_
  obtain rfl := hsettings
  refine Coupled.bind (lift h₁ _) fun rank _ w₂ v₂ hrank h₂ => ?_
  obtain rfl := hrank
  refine Coupled.bind (V := Eq) ⟨.answers rfl, ?_⟩ fun _ _ w₃ v₃ _ h₃ => ?_
  · obtain ⟨log, rfl, hlog⟩ := h₂
    exact ⟨log, rfl, hlog⟩
  have hlast {w v : World} (h : w.Twin r told v) : Actions r told Eq
      ((if settings.createTables then Store.createTables >>= fun _ => pure ⟨settings, b.hasStore⟩
        else pure ⟨settings, b.hasStore⟩ : Action Application) w)
      ((if settings.createTables then Store.createTables >>= fun _ => pure ⟨settings, b.hasStore⟩
        else pure ⟨settings, b.hasStore⟩ : Action Application) v) := by
    by_cases htables : settings.createTables
    · rw [if_pos htables]
      exact Coupled.bind (createTables h) fun _ _ _ _ _ h₁ => ⟨.answers rfl, h₁⟩
    · rw [if_neg htables]
      exact ⟨.answers rfl, h⟩
  by_cases hstore : b.hasStore
  · simp only [if_pos hstore]
    exact Coupled.bind (openDatabase h₃ _ _) fun _ _ _ _ _ h₄ => hlast h₄
  · simp only [if_neg hstore]
    exact hlast h₃

lemma with_application (h : w.Twin r told v) (a : Option Application) :
    ({ w with application := a } : World).Twin r told { v with application := a } := by
  obtain ⟨log, rfl, hlog⟩ := h
  exact ⟨log, rfl, hlog⟩

lemma install (h : w.Twin r told v) (b : Blueprint) :
    Actions r told Eq (Application.install b w) (Application.install b v) := by
  refine Coupled.bind (V := Eq) ⟨.answers rfl, with_application h none⟩ fun _ _ w₁ v₁ _ h₁ => ?_
  refine Coupled.bind (make h₁ b) fun a _ w₂ v₂ ha h₂ => ?_
  obtain rfl := ha
  exact Coupled.bind (V := Eq) ⟨.answers rfl, with_application h₂ (some a)⟩
    fun _ _ w₃ v₃ _ h₃ => ⟨.answers rfl, h₃⟩

lemma current (h : w.Twin r told v) :
    Actions r told Eq (Application.current w) (Application.current v) := by
  have hthere : v.application = w.application := by
    obtain ⟨log, rfl, -⟩ := h
    rfl
  unfold Application.current
  rw [Action.bind_apply, Action.bind_apply, Action.get_apply, Action.get_apply]
  dsimp only
  rw [hthere]
  cases w.application with
  | none => exact install h _
  | some a => exact ⟨.answers rfl, h⟩

end Twins

end BearerAccess
