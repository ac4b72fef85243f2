import BearerAccess.Issuance
import BearerAccess.Proofs.Numerals
import BearerAccess.Proofs.Text
import BearerAccess.Proofs.Transaction

/-!
# Issuance

A user is created with a token in one transaction, so that both are committed or neither is, wherever
the creation fails.
-/

namespace BearerAccess

/-! ### Draws -/

namespace World

lemma length_fitted (size : Nat) (bytes : List UInt8) : (fitted size bytes).length = size := by
  rw [fitted, List.length_append, List.length_replicate, List.length_drop]
  omega

lemma length_draw {size : Nat} {w : World} {bytes : List UInt8} (h : (w.draw size).1 = some bytes) :
    bytes.length = size := by
  unfold draw at h
  dsimp only at h
  split at h
  · rw [← Option.some.inj h, length_fitted]
  · rw [← Option.some.inj h, bytes_positional.length]
  · cases h

end World

lemma drawBytes_quiet (size : Nat) : (drawBytes size).Quiet := by
  refine Action.Quiet.bind (Action.quiet_modifyGet (World.ground_draw size)) fun drawn => ?_
  cases drawn with
  | none => exact Action.quiet_fail _
  | some bytes => exact Action.quiet_pure bytes

lemma newIdentifier_quiet : newIdentifier.Quiet := by
  intro w
  have hdraw := (drawBytes_quiet 10).map (identifier w.clock.toNat) w
  by_cases hneg : w.clock < 0
  · simp [newIdentifier, Action.bind_apply, hneg]
  · by_cases hlate : clockLimit ≤ w.clock
    · simp [newIdentifier, Action.bind_apply, hneg, hlate]
    · simpa [newIdentifier, Action.bind_apply, hneg, hlate] using hdraw

lemma newSecret_cases {size : Nat} {w w' : World} {r : Except Failure String}
    (h : newSecret size w = (r, w')) : w'.ground = w.ground ∧
      ∀ secret, r = .ok secret → ∃ bytes, bytes.length = size ∧ secret = w.spelling bytes := by
  have hg := World.ground_draw size w
  unfold newSecret at h
  rw [Action.bind_apply, Action.modifyGet_apply] at h
  dsimp only at h
  cases hdrawn : (w.draw size).1 with
  | none =>
    rw [hdrawn] at h
    cases h
    exact ⟨hg, no_answer⟩
  | some bytes =>
    rw [hdrawn] at h
    cases h
    refine ⟨hg, ?_⟩
    rintro _ ⟨⟩
    exact ⟨bytes, World.length_draw hdrawn, congrArg (Ground.spelling · bytes) hg⟩

/-! ### Creation -/

/-- The rows that have been added when credentials are answered with. -/
def Credentials.added (now : Option Stamp) (expiresAt : Option DateTime) (c : Credentials) :
    List Change :=
  c.user.added now ++ c.token.added now expiresAt

/-- Credentials as they are made: the user and the token are those of rows, the token is the user's
own, its secret spells random bytes, and the username is one that a user may have. -/
structure Credentials.Sound (spelling : List UInt8 → String) (c : Credentials) : Prop where
  user : ∃ row : UserRow, c.user = row.toUser
  token : ∃ row : TokenRow, c.token = row.toToken
  owner : c.token.userId = c.user.userId
  secret : ∃ bytes, bytes.length = secretSize ∧ c.token.secret = spelling bytes
  username : ∃ name, checkedUsername (some name) = .ok name ∧
    stored? (some name) = some c.user.username

/-- Changes that leave no user without a token and no token without a user. -/
inductive Paired (spelling : List UInt8 → String) (now : Option Stamp) : List Change → Prop where
  | nothing : Paired spelling now []
  | added {c : Credentials} {expiresAt : Option DateTime} (h : c.Sound spelling) :
    Paired spelling now (c.added now expiresAt)
  | removed (id : String) : Paired spelling now [.removeUser id]
  | cleared : Paired spelling now [.clear]

lemma eq_of_checkedUsername {username : Option Text} {name : Text}
    (h : checkedUsername username = .ok name) : username = some name := by
  unfold checkedUsername at h
  cases username with
  | none => cases h
  | some t =>
    dsimp only at h
    split at h
    · cases h
    · split at h
      · cases h
      · rw [Except.ok.inj h]

lemma checkedUsername_ok {username : Option Text} {name : Text}
    (h : checkedUsername username = .ok name) : checkedUsername (some name) = .ok name :=
  eq_of_checkedUsername h ▸ h

lemma Block.outside_cases {α : Type} {a : Action α} {s s' : Session} {w w' : World}
    {r : Except Failure α} (h : Block.outside a s w = ((r, s'), w')) : s' = s ∧ a w = (r, w') := by
  obtain ⟨hr, rfl⟩ := Prod.mk.inj h
  obtain ⟨rfl, rfl⟩ := Prod.mk.inj hr
  exact ⟨rfl, rfl⟩

variable {store : Store} {isStaff : Flag} {tokenName : Label} {expiresAt : Option DateTime}
  {w w' : World}

/-- Credentials come out of a creation only with both rows in the transaction. -/
lemma makeCredentials_progress {userId : String} {name : Text}
    (hname : checkedUsername (some name) = .ok name) {s : Session} {r : Except Failure Credentials}
    (h : makeCredentials store userId name isStaff tokenName expiresAt {} w = ((r, s), w')) :
    ∃ own, Progress w [] own s w' ∧ ∀ c, r = .ok c →
      own = c.added w.stamp? expiresAt ∧ c.Sound w.spelling := by
  obtain ⟨e, huser, rfl⟩ | ⟨user, s₁, w₁, huser, hrest⟩ := Block.bind_cases h
  · obtain ⟨settled, -, -, -, hp⟩ := (Progress.start w).insertUser huser
    exact ⟨_, hp, no_answer⟩
  obtain ⟨settled, -, -, hrow, hp⟩ := (Progress.start w).insertUser huser
  obtain ⟨rfl, userRow, rfl, -, hstored⟩ := hrow user rfl
  obtain ⟨e, hout, rfl⟩ | ⟨tokenId, s₂, w₂, hout, hlast⟩ := Block.bind_cases hrest
  · obtain ⟨rfl, hid⟩ := Block.outside_cases hout
    exact ⟨_, hp.quiet (newIdentifier_quiet.ground_eq hid), no_answer⟩
  obtain ⟨rfl, hid⟩ := Block.outside_cases hout
  have hp₂ := hp.quiet (newIdentifier_quiet.ground_eq hid)
  obtain ⟨e, hout, rfl⟩ | ⟨secret, s₃, w₃, hout, hend⟩ := Block.bind_cases hlast
  · obtain ⟨rfl, hdrawn⟩ := Block.outside_cases hout
    exact ⟨_, hp₂.quiet (newSecret_cases hdrawn).1, no_answer⟩
  obtain ⟨rfl, hdrawn⟩ := Block.outside_cases hout
  obtain ⟨hg, hsecret⟩ := newSecret_cases hdrawn
  obtain ⟨bytes, hlength, rfl⟩ := hsecret secret rfl
  have hp₃ := hp₂.quiet hg
  obtain ⟨e, htoken, rfl⟩ | ⟨token, s₄, w₄, htoken, hdone⟩ := Block.bind_cases hend
  · obtain ⟨settled, -, -, -, hp₄⟩ := hp₃.insertToken htoken
    exact ⟨_, hp₄, no_answer⟩
  obtain ⟨settled, -, -, hrow, hp₄⟩ := hp₃.insertToken htoken
  obtain ⟨rfl, tokenRow, rfl, howner, hspelt⟩ := hrow token rfl
  cases hdone
  refine ⟨_, hp₄, ?_⟩
  rintro _ ⟨⟩
  refine ⟨by rw [hp₃.toSteady.stamp]; rfl, ⟨userRow, rfl⟩, ⟨tokenRow, rfl⟩, ?_,
    ⟨bytes, hlength, ?_⟩, ⟨name, hname, hstored⟩⟩
  · exact Option.some.inj (howner.symm.trans (stored?_ofString _))
  · rw [← hp₂.toSteady.spelling]
    exact Option.some.inj (hspelt.symm.trans (stored?_ofString _))

/-- A user is created with its token, or nothing is. -/
lemma createUser_commits {username : Option Text} {r : Except Failure Credentials}
    (h : createUser store username isStaff tokenName expiresAt w = (r, w')) :
    w.Commits (changesOf (·.added w.stamp? expiresAt) r) w' ∧
      ∀ c, r = .ok c → c.Sound w.spelling := by
  unfold createUser at h
  cases hname : checkedUsername username with
  | error problem =>
    rw [hname] at h
    cases h
    exact ⟨.refl w, no_answer⟩
  | ok name =>
    rw [hname] at h
    obtain ⟨e, hid, rfl⟩ | ⟨userId, w₁, hid, hrest⟩ := Action.bind_cases h
    · exact ⟨.of_ground (newIdentifier_quiet.ground_eq hid), no_answer⟩
    have hg := newIdentifier_quiet.ground_eq hid
    obtain ⟨e, hmade, rfl⟩ | ⟨made, w₂, hmade, hnote⟩ := Action.bind_cases hrest
    all_goals
      obtain ⟨result, s, w₃, hbody, hend⟩ := Store.transaction_cases hmade
      obtain ⟨own, hp, hsound⟩ := makeCredentials_progress (checkedUsername_ok hname) hbody
    · obtain ⟨a, -, he, -⟩ | ⟨f, -, hc⟩ := hend own hp
      · cases he
      · exact ⟨hc.after_ground hg, no_answer⟩
    · obtain ⟨a, rfl, he, hc⟩ | ⟨f, he, -⟩ := hend own hp
      · cases he
        obtain ⟨rfl, hmadeSound⟩ := hsound made rfl
        cases hnote
        rw [World.stamp_of_ground hg] at hc
        rw [(World.Steady.of_ground hg).spelling] at hmadeSound
        refine ⟨(hc.after_ground hg).before_ground (World.ground_write _ _ _ _), ?_⟩
        rintro _ ⟨⟩
        exact hmadeSound
      · cases he

/-- Nobody who is staff is refused the creation of a user for being who they are. -/
lemma issueUser_of_staff {actor : Identity} (h : actor.isStaff = true) (store : Store)
    (username : Option Text) (isStaff : Flag) (tokenName : Label) (expiresAt : Option DateTime) :
    issueUser store (some actor) username isStaff tokenName expiresAt =
      createUser store username isStaff tokenName expiresAt := by
  unfold issueUser
  simp only [h]
  rfl

/-- Who may not have a user created, and what they are told. -/
inductive Refused : Option Identity → Cause → Prop where
  | missing : Refused none .actorMissing
  | notStaff {actor : Identity} (h : actor.isStaff = false) : Refused (some actor) .actorNotStaff

/-- Whoever may not have a user created is refused whatever they ask for. -/
lemma issueUser_decides (actor : Option Identity) :
    (∃ cause, Refused actor cause ∧ ∀ store username isStaff tokenName expiresAt,
      issueUser store actor username isStaff tokenName expiresAt = fail cause) ∨
      ∃ a, actor = some a ∧ a.isStaff = true ∧ ∀ store username isStaff tokenName expiresAt,
        issueUser store actor username isStaff tokenName expiresAt =
          createUser store username isStaff tokenName expiresAt := by
  cases actor with
  | none => exact .inl ⟨_, .missing, fun _ _ _ _ _ => rfl⟩
  | some a =>
    cases hstaff : a.isStaff with
    | false =>
      refine .inl ⟨_, .notStaff hstaff, fun _ _ _ _ _ => ?_⟩
      unfold issueUser
      simp only [hstaff]
      rfl
    | true => exact .inr ⟨a, rfl, hstaff, issueUser_of_staff hstaff⟩

lemma createUser_of_issueUser {actor : Option Identity} {username : Option Text} {c : Credentials}
    (h : issueUser store actor username isStaff tokenName expiresAt w = (.ok c, w')) :
    createUser store username isStaff tokenName expiresAt w = (.ok c, w') := by
  obtain ⟨cause, -, hrefused⟩ | ⟨a, -, -, hcreates⟩ := issueUser_decides actor
  · rw [hrefused] at h
    cases h
  · rwa [hcreates] at h

/-- Only staff may have a user created. -/
lemma issueUser_commits {actor : Option Identity} {username : Option Text}
    {r : Except Failure Credentials}
    (h : issueUser store actor username isStaff tokenName expiresAt w = (r, w')) :
    w.Commits (changesOf (·.added w.stamp? expiresAt) r) w' ∧
      ∀ c, r = .ok c → c.Sound w.spelling ∧ ∃ a, actor = some a ∧ a.isStaff = true := by
  obtain ⟨cause, -, hrefused⟩ | ⟨a, ha, hstaff, hcreates⟩ := issueUser_decides actor
  · rw [hrefused] at h
    cases h
    exact ⟨.refl w, no_answer⟩
  · rw [hcreates] at h
    obtain ⟨hc, hsound⟩ := createUser_commits h
    exact ⟨hc, fun c hr => ⟨hsound c hr, a, ha, hstaff⟩⟩

lemma bootstrapStaffUser_apply (store : Store) (username : Option Text) (tokenName : Label) (w : World) :
    bootstrapStaffUser store username tokenName w =
      createUser store username (.value true) tokenName none (w.write .info .issuance
        ("Bootstrapping staff user " ++ username.getD (Text.ofString (usernameText none)))) := rfl

lemma bootstrapStaffUser_commits {username : Option Text} {r : Except Failure Credentials}
    (h : bootstrapStaffUser store username tokenName w = (r, w')) :
    w.Commits (changesOf (·.added w.stamp? none) r) w' ∧ ∀ c, r = .ok c → c.Sound w.spelling := by
  rw [bootstrapStaffUser_apply] at h
  have hg := World.ground_write w .info .issuance
    ("Bootstrapping staff user " ++ username.getD (Text.ofString (usernameText none)))
  obtain ⟨hc, hsound⟩ := createUser_commits h
  rw [World.stamp_of_ground hg] at hc
  exact ⟨hc.after_ground hg, fun c hr => (World.Steady.of_ground hg).spelling ▸ hsound c hr⟩

end BearerAccess
