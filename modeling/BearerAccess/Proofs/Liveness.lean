import BearerAccess.Proofs.Privilege

/-!
# Live tokens

Whether a token may be used is decided twice: by the token itself, which compares instants, and by
the lookup of its secret, which compares the texts that the database keeps. The two agree on every
token that is stored.
-/

namespace BearerAccess

/-! ### The token's own answer -/

lemma moment_universal {now : Option DateTime} {w : World} (hvalid : ∀ n ∈ now, n.Valid)
    (hasked : (w.askedAt? now).isSome) : ∃ u : DateTime, u.Universal ∧ moment now w = (.ok u, w) ∧
      w.askedAt? now = some (Stamp.ofDateTime u) := by
  obtain ⟨-, hnone⟩ | ⟨u, hmoment, hu⟩ := moment_cases now w
  · rw [hnone] at hasked
    cases hasked
  refine ⟨u, ?_, hmoment, hu⟩
  cases now with
  | none =>
    simp only [moment, presentTime, Action.bind_apply, Action.get_apply] at hmoment
    cases hclock : DateTime.ofClock? w.clock with
    | none =>
      rw [hclock] at hmoment
      cases hmoment
    | some n =>
      rw [hclock] at hmoment
      cases hmoment
      exact (DateTime.ofInstant?_spec hclock).1
  | some given =>
    simp only [moment, DateTime.universal, Action.liftExcept_apply] at hmoment
    cases hgiven : given.toUniversal? with
    | none =>
      rw [hgiven] at hmoment
      cases hmoment
    | some n =>
      rw [hgiven] at hmoment
      cases hmoment
      exact (DateTime.toUniversal?_spec (hvalid given rfl) hgiven).1

/-- A stored token says of itself what the text of its expiry says. -/
lemma TokenRow.isLive_toToken {k : TokenRow} (hdated : ∀ e ∈ k.expiresAt, e.Sound)
    {now : Option DateTime} {w : World} {u : DateTime} (hu : u.Universal)
    (hmoment : moment now w = (.ok u, w)) :
    (k.toToken.isLive now w).1 = .ok (k.expiresAt.all (·.isAfter (.ofDateTime u))) := by
  cases hexpiry : k.expiresAt with
  | none =>
    have hnone : k.toToken.expiresAt = none := by rw [toToken, hexpiry, Option.bind_none]
    rw [Token.isLive, hnone]
    rfl
  | some e =>
    obtain ⟨v, hv, rfl⟩ := hdated e hexpiry
    have hread : k.toToken.expiresAt = some { v with offset := none } := by
      rw [toToken, hexpiry, Option.bind_some, Stamp.toDateTime?_ofDateTime hv.valid]
    have hback : ({ v with offset := none } : DateTime).toUniversal? = some v := by
      change some { v with offset := some 0 } = some v
      rw [← hv.offset]
    have hsame := (DateTime.toUniversal?_eq_some_iff hu.valid).mpr ⟨hu, rfl⟩
    have hanswer : k.toToken.isLiveAt? u = some (decide (u.instant < v.instant)) := by
      simp only [Token.isLiveAt?, hread, hback, hsame, bind, Option.bind_some, pure]
    have htext : decide (u.instant < v.instant) =
        (Stamp.ofDateTime v).isAfter (.ofDateTime u) := by
      rw [Bool.eq_iff_iff, decide_eq_true_iff, hv.isAfter_iff hu]
    rw [Token.isLive, hread, if_neg (by simp), Action.bind_apply, hmoment]
    simp only [hanswer, htext, Option.all_some]
    rfl

/-! ### The answer of the lookup -/

/-- Among consistent rows the secret of a token leads to its owner as long as the text of its expiry
is greater than that of the moment. -/
lemma Tables.ownerOfSecret?_eq {t : Tables} (h : t.Consistent) {k : TokenRow} {u : UserRow}
    (hk : k ∈ t.tokens) (hu : u ∈ t.users) (hid : u.id = k.userId) (now : Stamp) :
    t.ownerOfSecret? (some k.secret) now =
      if k.expiresAt.all (·.isAfter now) then some u else none := by
  by_cases hlive : k.expiresAt.all (·.isAfter now) = true
  · rw [if_pos hlive]
    exact (ownerOfSecret?_iff h).mpr ⟨k, hk, rfl, hlive, hu, hid⟩
  · rw [if_neg hlive]
    cases hfound : t.ownerOfSecret? (some k.secret) now with
    | none => rfl
    | some v =>
      obtain ⟨l, hl, hsecret, hexpiry, -⟩ := ownerOfSecret?_some hfound
      have hlk : l = k := List.inj_on_of_nodup_map h.secrets hl hk (Option.some.inj hsecret)
      rw [hlk] at hexpiry
      exact absurd hexpiry hlive

lemma Store.userByToken_eq {store : Store} {w : World} {now : Option DateTime} {rows : Tables}
    {secret : String} {u : DateTime} (hfaults : store.faults w.tasks = {})
    (hrows : w.database.rows? = some rows) (hmoment : moment now w = (.ok u, w)) :
    (store.userByToken (some (Text.ofString secret)) now w).1 =
      .ok ((rows.ownerOfSecret? (some secret) (.ofDateTime u)).map UserRow.toIdentity) := by
  unfold userByToken
  rw [Action.bind_apply, hmoment]
  refine (operate_reads hfaults hrows (textObstacle?_of_stored (stored?_ofString secret))).trans ?_
  rw [stored?_ofString]

/-! ### Tokens that are answered with -/

/-- A token is that of a stored row. -/
def World.Keeps (w : World) (t : Token) : Prop := ∃ k ∈ w.stored.tokens, t = k.toToken

/-- A token that is answered with is that of the row that has been added for it. -/
def Token.Written (now : Option Stamp) (expiresAt : Option DateTime) (t : Token) : Prop :=
  ∃ k : TokenRow, t = k.toToken ∧ t.added now expiresAt = [.addToken k]

/-- A user that is answered with is that of the row that has been added for it. -/
def User.Written (now : Option Stamp) (u : User) : Prop :=
  ∃ row : UserRow, u = row.toUser ∧ u.added now = [.addUser row]

/-- The user and the token of credentials are those of the rows that have been added for them. -/
structure Credentials.Written (now : Option Stamp) (expiresAt : Option DateTime) (c : Credentials) :
    Prop where
  user : c.user.Written now
  token : c.token.Written now expiresAt

/-- The tokens in an answer. -/
def Answer.tokensIn : Answer → List Token
  | token t => [t]
  | tokens list => list
  | credentials c => [c.token]
  | _ => []

variable {store : Store} {w w' : World}

lemma World.Commits.keeps {changes : List Change} {expiresAt : Option DateTime} {t : Token}
    (h : w.Commits (changes ++ t.added w.stamp? expiresAt) w')
    (ht : t.Written w.stamp? expiresAt) : w'.Keeps t := by
  obtain ⟨k, hk, hadded⟩ := ht
  refine ⟨k, ?_, hk⟩
  rw [h.stored, hadded, Tables.after_append]
  exact Tables.mem_tokens_apply.mpr (.inr rfl)

lemma Store.insertUser_written {id username : Option Text} {isStaff : Flag} {s s' : Session}
    {u : User} (h : store.insertUser id username isStaff s w = ((.ok u, s'), w')) :
    u.Written w.stamp? := by
  unfold Store.insertUser at h
  obtain ⟨e, hinsert, he⟩ | ⟨result, s₁, w₁, hinsert, hrest⟩ := Block.bind_cases h
  · cases he
  cases result with
  | error e => cases hrest
  | ok row =>
    cases hrest
    obtain ⟨f, rows, rows', hf, hok, -⟩ := Store.insert_applies hinsert
    obtain ⟨hnow, -⟩ := Store.userInsertion_puts hf hok
    refine ⟨row, rfl, ?_⟩
    rw [hnow]
    rfl

lemma Store.insertToken_written {id userId secret : Option Text} {name : Label}
    {expiresAt : Option DateTime} {s s' : Session} {t : Token}
    (h : store.insertToken id userId secret name expiresAt s w = ((.ok t, s'), w')) :
    t.Written w.stamp? expiresAt := by
  unfold Store.insertToken at h
  obtain ⟨f, hexpiry⟩ | hexpiry := Store.expiryStamp_cases expiresAt s w
  · rw [Block.bind_apply, hexpiry] at h
    cases h
  rw [Block.bind_apply, hexpiry] at h
  dsimp only at h
  obtain ⟨e, hinsert, he⟩ | ⟨result, s₁, w₁, hinsert, hrest⟩ := Block.bind_cases h
  · cases he
  cases result with
  | error e => cases hrest
  | ok row =>
    cases hrest
    obtain ⟨f, rows, rows', hf, hok, -⟩ := Store.insert_applies hinsert
    obtain ⟨hnow, hexp, -⟩ := Store.tokenInsertion_puts hf hok
    refine ⟨row, rfl, ?_⟩
    rw [hnow, Token.added, hexp]
    rfl

lemma makeCredentials_written {userId : String} {name : Text} {isStaff : Flag} {tokenName : Label}
    {expiresAt : Option DateTime} {s : Session} {c : Credentials}
    (h : makeCredentials store userId name isStaff tokenName expiresAt {} w = ((.ok c, s), w')) :
    c.Written w.stamp? expiresAt := by
  obtain ⟨e, -, he⟩ | ⟨user, s₁, w₁, huser, hrest⟩ := Block.bind_cases h
  · cases he
  obtain ⟨settled, -, -, -, hp⟩ := (Progress.start w).insertUser huser
  obtain ⟨e, -, he⟩ | ⟨tokenId, s₂, w₂, hid, hlast⟩ := Block.bind_cases hrest
  · cases he
  have hp₂ := hp.quiet (newIdentifier_quiet.ground_eq (Block.outside_cases hid).2)
  obtain ⟨e, -, he⟩ | ⟨secret, s₃, w₃, hsecret, hend⟩ := Block.bind_cases hlast
  · cases he
  have hp₃ := hp₂.quiet (newSecret_cases (Block.outside_cases hsecret).2).1
  obtain ⟨e, -, he⟩ | ⟨token, s₄, w₄, htoken, hdone⟩ := Block.bind_cases hend
  · cases he
  cases hdone
  refine ⟨Store.insertUser_written huser, ?_⟩
  rw [← hp₃.toSteady.stamp]
  exact Store.insertToken_written htoken

lemma createUser_written {username : Option Text} {isStaff : Flag} {tokenName : Label}
    {expiresAt : Option DateTime} {c : Credentials}
    (h : createUser store username isStaff tokenName expiresAt w = (.ok c, w')) :
    c.Written w.stamp? expiresAt := by
  unfold createUser at h
  cases hname : checkedUsername username with
  | error problem =>
    rw [hname] at h
    cases h
  | ok name =>
    rw [hname] at h
    obtain ⟨e, -, he⟩ | ⟨userId, w₁, hid, hrest⟩ := Action.bind_cases h
    · cases he
    obtain ⟨e, -, he⟩ | ⟨made, w₂, hmade, hnote⟩ := Action.bind_cases hrest
    · cases he
    cases hnote
    obtain ⟨result, s, w₃, hbody, hend⟩ := Store.transaction_cases hmade
    obtain ⟨own, hp, -⟩ := makeCredentials_progress (checkedUsername_ok hname) hbody
    obtain ⟨a, rfl, ha, -⟩ | ⟨f, hf, -⟩ := hend own hp
    · cases ha
      rw [← World.stamp_of_ground (newIdentifier_quiet.ground_eq hid)]
      exact makeCredentials_written hbody
    · cases hf

lemma issueUser_written {actor : Option Identity} {username : Option Text} {isStaff : Flag}
    {tokenName : Label} {expiresAt : Option DateTime} {c : Credentials}
    (h : issueUser store actor username isStaff tokenName expiresAt w = (.ok c, w')) :
    c.Written w.stamp? expiresAt :=
  createUser_written (createUser_of_issueUser h)

lemma bootstrapStaffUser_written {username : Option Text} {tokenName : Label} {c : Credentials}
    (h : bootstrapStaffUser store username tokenName w = (.ok c, w')) :
    c.Written w.stamp? none := by
  rw [bootstrapStaffUser_apply] at h
  have hwritten := createUser_written h
  rwa [World.stamp_of_ground (World.ground_write _ _ _ _)] at hwritten

lemma Action.map_ok {α β : Type} {f : α → β} {a : Action α} {b : β} (h : (f <$> a) w = (.ok b, w')) :
    ∃ x, a w = (.ok x, w') ∧ f x = b := by
  rw [Action.map_apply] at h
  rcases ha : a w with ⟨e | x, w₁⟩
  · rw [ha] at h
    cases h
  · rw [ha] at h
    cases h
    exact ⟨x, rfl, rfl⟩

/-- The tokens that a call answers with are stored afterwards. -/
lemma Call.perform_keeps {call : Call} {answer : Answer}
    (h : call.perform store w = (.ok answer, w')) : ∀ t ∈ answer.tokensIn, w'.Keeps t := by
  intro t ht
  cases call with
  | insertToken id userId secret name expiresAt =>
    obtain ⟨k, hk, rfl⟩ := Action.map_ok h
    obtain rfl := List.mem_singleton.mp ht
    obtain ⟨result, s, w₁, hbody, hend⟩ := Store.transaction_cases hk
    obtain ⟨settled, -, -, hrow, hp⟩ := (Progress.start w).insertToken hbody
    obtain ⟨a, rfl, ha, hc⟩ | ⟨f, hf, -⟩ := hend _ hp
    · cases ha
      rw [(hrow t rfl).1] at hc
      exact hc.keeps (Store.insertToken_written hbody)
    · cases hf
  | tokensOf userId =>
    obtain ⟨list, hlist, rfl⟩ := Action.map_ok h
    obtain ⟨rfl, hg⟩ := Store.tokensOf_ok hlist
    obtain ⟨k, hk, rfl⟩ := List.mem_map.mp ht
    refine ⟨k, ?_, rfl⟩
    rw [World.stored_of_ground hg]
    exact (List.mem_filter.mp (List.mem_mergeSort.mp hk)).1
  | issue actor username isStaff tokenName expiresAt =>
    obtain ⟨c, hc, rfl⟩ := Action.map_ok h
    obtain rfl := List.mem_singleton.mp ht
    exact (issueUser_commits hc).1.keeps (issueUser_written hc).token
  | bootstrap username tokenName =>
    obtain ⟨c, hc, rfl⟩ := Action.map_ok h
    obtain rfl := List.mem_singleton.mp ht
    exact (bootstrapStaffUser_commits hc).1.keeps (bootstrapStaffUser_written hc).token
  | isAvailable =>
    cases h
    cases ht
  | disconnect =>
    cases h
    cases ht
  | _ =>
    obtain ⟨x, -, rfl⟩ := Action.map_ok h
    cases ht

/-! ### The two answers -/

namespace Event

/-- The lookup of the secret of a stored token finds its owner just if the token says of itself that
it may be used, at whatever moment both are asked about, and finds nobody else. The tokens that calls
answer with are stored tokens. -/
theorem userByToken_iff_isLive {events : List (Mishaps × Event)} {w : World}
    (hempty : w.stored = {}) (htimely : ∀ e ∈ events, e.2.Timely)
    (hreachable : (run events w).2.database.reachable = true) {now : Option DateTime}
    (hvalid : ∀ n ∈ now, n.Valid) (hconvertible : ((run events w).2.askedAt? now).isSome) :
    (∀ t, (run events w).2.Keeps t → ∃ u ∈ (run events w).2.stored.users, u.id = t.userId ∧
      ∃ live, (t.isLive now (run events w).2).1 = .ok live ∧
        (({} : Store).userByToken (some (Text.ofString t.secret)) now (run events w).2).1 =
          .ok (if live then some u.toIdentity else none)) ∧
    ∀ (store : Store) (call : Call) answer v, call.perform store (run events w).2 = (.ok answer, v) →
      ∀ t ∈ answer.tokensIn, v.Keeps t := by
  refine ⟨?_, fun store call answer v => Call.perform_keeps⟩
  rintro t ⟨k, hk, rfl⟩
  have hconsistent : (run events w).2.stored.Consistent := run_consistent hempty
  obtain ⟨u, hu, hid⟩ := hconsistent.owned k hk
  obtain ⟨n, hn, hmoment, -⟩ := moment_universal hvalid hconvertible
  have hrows : (run events w).2.database.rows? = some (run events w).2.stored := by
    cases htables : (run events w).2.database.tables with
    | none =>
      rw [World.stored, htables] at hk
      cases hk
    | some rows => rw [Database.rows?, hreachable, if_pos rfl, World.stored, htables, Option.getD_some]
  refine ⟨u, hu, hid, _, TokenRow.isLive_toToken (run_dated hempty htimely k hk) hn hmoment, ?_⟩
  rw [Store.userByToken_eq rfl hrows hmoment]
  change Except.ok (Option.map _ (Tables.ownerOfSecret? _ (some k.secret) _)) = _
  rw [Tables.ownerOfSecret?_eq hconsistent hk hu hid]
  split <;> rfl

/-- The token of b as it is answered with. -/
def movingToken : Token :=
  { tokenId := "c", userId := "a", secret := "d", name := "e"
    expiresAt := some { endOfYear 2030 with offset := none }
    createdAt := some ⟨2020, 9, 13, 12, 26, 40, 0, none⟩ }

/-- At the end of 2029 the token of b says that it may be used, and its secret leads to b. -/
theorem userByToken_iff_isLive_moving :
    (({} : World).stored = {} ∧ (∀ e ∈ moving, e.2.Timely) ∧
      (run moving {}).2.database.reachable = true ∧ (∀ n ∈ some (endOfYear 2029), n.Valid) ∧
      ((run moving {}).2.askedAt? (some (endOfYear 2029))).isSome) ∧
    (run moving {}).2.Keeps movingToken ∧ ∃ u ∈ (run moving {}).2.stored.users,
      u.id = movingToken.userId ∧
      ∃ live, (movingToken.isLive (some (endOfYear 2029)) (run moving {}).2).1 = .ok live ∧
        (({} : Store).userByToken (some (Text.ofString movingToken.secret)) (some (endOfYear 2029))
          (run moving {}).2).1 = .ok (if live then some u.toIdentity else none) := by
  have hreachable : (run moving {}).2.database.reachable = true := by rfl
  have hvalid : ∀ n ∈ some (endOfYear 2029), n.Valid := by
    rintro _ ⟨⟩
    decide
  have hasked : ((run moving {}).2.askedAt? (some (endOfYear 2029))).isSome := by decide +kernel
  have hkeeps : (run moving {}).2.Keeps movingToken := by
    change ∃ k ∈ (run moving {}).2.stored.tokens, movingToken = k.toToken
    decide +kernel
  refine ⟨⟨rfl, moving_timely, hreachable, hvalid, hasked⟩, hkeeps, ?_⟩
  exact (userByToken_iff_isLive rfl moving_timely hreachable hvalid hasked).1 movingToken hkeeps

end Event

end BearerAccess
