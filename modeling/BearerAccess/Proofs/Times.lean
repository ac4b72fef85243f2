import BearerAccess.Proofs.Creation
import BearerAccess.Proofs.Liveness
import BearerAccess.Proofs.Timeline

/-!
# Times that survive storage

A token shows the instant that was given for its expiry, and every user and token shows the
millisecond at which it was inserted: when an insert answers with it, and in every later answer. An
expiry without a universal time is refused, and nothing is stored.
-/

namespace BearerAccess

variable {store : Store} {w w' : World}

/-! ### What records show -/

/-- A record shows a universal time in a field: it carries a time of the same instant there, and its
JSON form has the ISO form of the universal time. -/
structure Datum.Shows (record : Datum) (field : String) (carried : Option DateTime) (u : DateTime) :
    Prop where
  instant : carried.map DateTime.instant = some u.instant
  text : record.shown.at? field = some (Json.ofString u.isoText)

/-- A record shows the millisecond of the clock at its creation. -/
def Datum.ShowsCreation (record : Datum) (carried : Option DateTime) (clock : Int) : Prop :=
  ∃ u, DateTime.ofClock? clock = some u ∧ u.instant = DateTime.epoch + clock * 1000 ∧
    record.Shows "created_at" carried u

def User.Created (u : User) (clock : Int) : Prop := u.toDatum.ShowsCreation u.createdAt clock

def Token.Created (t : Token) (clock : Int) : Prop := t.toDatum.ShowsCreation t.createdAt clock

/-- A token shows the instant of a given time as its expiry, in the form of the universal time that
it is converted to. -/
def Token.Expires (t : Token) (given : DateTime) : Prop :=
  ∃ u, given.toUniversal? = some u ∧ u.instant = given.instant ∧
    t.toDatum.Shows "expires_at" t.expiresAt u

/-- A universal time that is stored and read back has the same instant and the same ISO form. -/
lemma Stamp.reads_back {u : DateTime} (hu : u.Universal) :
    (ofDateTime u).toDateTime?.map DateTime.instant = some u.instant ∧
      (Datum.ofTime? (ofDateTime u).toDateTime?).toJson? = some (Json.ofString u.isoText) := by
  have hback : ({ u with offset := none } : DateTime).toUniversal? = some u := by
    change some { u with offset := some 0 } = some u
    rw [← hu.offset]
  rw [toDateTime?_ofDateTime hu.valid]
  refine ⟨?_, ?_⟩
  · rw [Option.map_some, DateTime.instant, DateTime.instant, hu.offset]
    rfl
  · rw [Datum.ofTime?, Datum.toJson?, hback]
    rfl

/-! ### Rows -/

section

variable {clock : Int}

lemma stampAt?_eq_some {s : Stamp} (h : stampAt? clock = some s) :
    ∃ u, DateTime.ofClock? clock = some u ∧ u.Universal ∧
      u.instant = DateTime.epoch + clock * 1000 ∧ s = Stamp.ofDateTime u := by
  obtain ⟨u, hu, rfl⟩ := Option.map_eq_some_iff.mp h
  obtain ⟨huniversal, hinstant⟩ := DateTime.ofInstant?_spec hu
  exact ⟨u, hu, huniversal, hinstant, rfl⟩

lemma UserRow.created_toUser {row : UserRow} (h : stampAt? clock = some row.createdAt) :
    row.toUser.Created clock := by
  obtain ⟨u, hu, huniversal, hinstant, hrow⟩ := stampAt?_eq_some h
  obtain ⟨hmeans, htext⟩ := Stamp.reads_back huniversal
  rw [← hrow] at hmeans htext
  refine ⟨u, hu, hinstant, hmeans, ?_⟩
  rw [User.shown_eq htext, Json.at?_record]
  rfl

lemma TokenRow.created_toToken {k : TokenRow} (h : stampAt? clock = some k.createdAt) :
    k.toToken.Created clock := by
  obtain ⟨u, hu, huniversal, hinstant, hrow⟩ := stampAt?_eq_some h
  obtain ⟨hmeans, htext⟩ := Stamp.reads_back huniversal
  rw [← hrow] at hmeans htext
  obtain ⟨expiry, hexpiry⟩ := shown_of_stamp? k.expiresAt
  refine ⟨u, hu, hinstant, hmeans, ?_⟩
  rw [Token.shown_eq hexpiry htext, Json.at?_record]
  rfl

lemma TokenRow.expires_toToken {k : TokenRow} {given : DateTime} (hvalid : given.Valid)
    (hconverts : given.toUniversal?.isSome) (h : k.expiresAt = storedExpiry (some given)) :
    k.toToken.Expires given := by
  obtain ⟨u, hu⟩ := Option.isSome_iff_exists.mp hconverts
  obtain ⟨huniversal, hinstant⟩ := DateTime.toUniversal?_spec hvalid hu
  have hkept : k.expiresAt = some (Stamp.ofDateTime u) := by
    rw [h, storedExpiry, Option.bind_some, hu, Option.map_some]
  have hread : k.toToken.expiresAt = (Stamp.ofDateTime u).toDateTime? := by
    rw [toToken, hkept, Option.bind_some]
  obtain ⟨hmeans, htext⟩ := Stamp.reads_back huniversal
  rw [← hread] at hmeans htext
  obtain ⟨creation, hcreation⟩ := shown_of_stamp k.createdAt
  refine ⟨u, hu, hinstant, hmeans, ?_⟩
  rw [Token.shown_eq htext hcreation, Json.at?_record]
  rfl

end

/-! ### Rows that are answered with -/

section

variable {now : Option Stamp} {expiresAt : Option DateTime}

lemma User.Written.row {u : User} (h : u.Written now) :
    ∃ row : UserRow, u = row.toUser ∧ u.added now = [.addUser row] ∧ now = some row.createdAt := by
  obtain ⟨row, hu, hadded⟩ := h
  refine ⟨row, hu, hadded, ?_⟩
  have hmem : Change.addUser row ∈ u.added now := hadded ▸ List.mem_singleton_self _
  exact User.added_stamped hmem

lemma Token.Written.row {t : Token} (h : t.Written now expiresAt) : ∃ k : TokenRow,
    t = k.toToken ∧ t.added now expiresAt = [.addToken k] ∧ now = some k.createdAt ∧
      k.expiresAt = storedExpiry expiresAt := by
  obtain ⟨k, hk, hadded⟩ := h
  have hmem : Change.addToken k ∈ t.added now expiresAt := hadded ▸ List.mem_singleton_self _
  refine ⟨k, hk, hadded, Token.added_stamped hmem, ?_⟩
  obtain ⟨s, -, hs⟩ := List.mem_map.mp hmem
  cases hs
  rfl

lemma User.Written.created {u : User} (h : u.Written w.stamp?) : u.Created w.clock := by
  obtain ⟨row, rfl, -, hstamp⟩ := h.row
  exact UserRow.created_toUser hstamp

lemma Token.Written.created {t : Token} (h : t.Written w.stamp? expiresAt) : t.Created w.clock := by
  obtain ⟨k, rfl, -, hstamp, -⟩ := h.row
  exact TokenRow.created_toToken hstamp

lemma Token.Written.expires {t : Token} {given : DateTime} (h : t.Written now (some given))
    (hvalid : given.Valid) (hconverts : given.toUniversal?.isSome) : t.Expires given := by
  obtain ⟨k, rfl, -, -, hexpiry⟩ := h.row
  exact TokenRow.expires_toToken hvalid hconverts hexpiry

end

/-! ### Expiries without a universal time -/

section

variable {given : DateTime}

lemma Store.converts_of_insertToken {id userId secret : Option Text} {name : Label} {s s' : Session}
    {t : Token} (h : store.insertToken id userId secret name (some given) s w = ((.ok t, s'), w')) :
    given.toUniversal?.isSome := by
  cases hnone : given.toUniversal? with
  | some u => rfl
  | none =>
    rw [store.insertToken_overflow hnone] at h
    cases h

/-- Credentials are not made with such an expiry. Where they would be made without it, they fail for
its date. -/
lemma makeCredentials_overflow (store : Store) (h : given.toUniversal? = none) (userId : String)
    (name : Text) (isStaff : Flag) (tokenName : Label) (s : Session) (w : World) :
    ∃ f s' w', makeCredentials store userId name isStaff tokenName (some given) s w =
        ((.error f, s'), w') ∧
      ∀ c s'' w'', makeCredentials store userId name isStaff tokenName none s w =
        ((.ok c, s''), w'') → f = Cause.range .date := by
  rcases huser : store.insertUser (some (Text.ofString userId)) (some name) isStaff s w
    with ⟨⟨e | user, s₁⟩, w₁⟩
  · refine ⟨e, s₁, w₁, ?_, fun c s'' w'' hmade => ?_⟩
    · rw [makeCredentials, Block.bind_apply, huser]
    · rw [makeCredentials, Block.bind_apply, huser] at hmade
      cases hmade
  rw [makeCredentials_of_user tokenName _ huser, makeCredentials_of_user tokenName _ huser]
  rcases newIdentifier w₁ with ⟨e | tokenId, w₂⟩
  · exact ⟨e, s₁, w₂, rfl, fun c s'' w'' hmade => by cases hmade⟩
  dsimp only
  rcases newSecret secretSize w₂ with ⟨e | secret, w₃⟩
  · exact ⟨e, s₁, w₃, rfl, fun c s'' w'' hmade => by cases hmade⟩
  dsimp only
  rw [store.insertToken_overflow h]
  exact ⟨_, _, _, rfl, fun _ _ _ _ => rfl⟩

lemma createUser_overflow (store : Store) (h : given.toUniversal? = none)
    (username : Option Text) (isStaff : Flag) (tokenName : Label) (w : World) :
    ∃ f w', createUser store username isStaff tokenName (some given) w = (.error f, w') ∧
      ∀ c w'', createUser store username isStaff tokenName none w = (.ok c, w'') →
        f.cause = .range .date := by
  unfold createUser
  cases checkedUsername username with
  | error problem => exact ⟨_, w, rfl, fun c w'' hmade => by cases hmade⟩
  | ok name =>
    dsimp only
    rw [Action.bind_apply, Action.bind_apply]
    rcases newIdentifier w with ⟨e | userId, w₁⟩
    · exact ⟨e, w₁, rfl, fun c w'' hmade => by cases hmade⟩
    dsimp only
    obtain ⟨f, s, w₂, hbody, hcause⟩ :=
      makeCredentials_overflow store h userId name isStaff tokenName {} w₁
    obtain ⟨f', w₃, hend, hsame⟩ : ∃ f' w₃,
        store.finish (.error f : Except Failure Credentials) s w₂ = (.error f', w₃) ∧
          f'.cause = f.cause := Store.finish_error s w₂
    have htransaction : store.transaction (makeCredentials store userId name isStaff tokenName
        (some given)) w₁ = (.error f', w₃) := by
      rw [Store.transaction, hbody]
      exact hend
    refine ⟨f', w₃, ?_, fun c w'' hmade => ?_⟩
    · rw [Action.bind_apply, htransaction]
    · obtain ⟨e, -, he⟩ | ⟨made, w₄, hmade, -⟩ := Action.bind_cases hmade
      · cases he
      obtain ⟨result, s', w₅, hplain, hend'⟩ := Store.transaction_cases hmade
      cases result with
      | error e =>
        obtain ⟨e', w₆, hfails, -⟩ : ∃ e' w₆,
            store.finish (.error e : Except Failure Credentials) s' w₅ = (.error e', w₆) ∧
              e'.cause = e.cause := Store.finish_error s' w₅
        rw [Store.transaction, hplain] at hmade
        cases hfails.symm.trans hmade
      | ok made' => rw [hsame, hcause made' s' w₅ hplain]

lemma issueUser_overflow (store : Store) (h : given.toUniversal? = none)
    (actor : Option Identity) (username : Option Text) (isStaff : Flag) (tokenName : Label)
    (w : World) :
    ∃ f w', issueUser store actor username isStaff tokenName (some given) w = (.error f, w') ∧
      ∀ c w'', issueUser store actor username isStaff tokenName none w = (.ok c, w'') →
        f.cause = .range .date := by
  obtain ⟨cause, -, hrefused⟩ | ⟨a, -, -, hcreates⟩ := issueUser_decides actor
  · rw [hrefused, hrefused]
    exact ⟨_, w, rfl, fun c w'' hmade => by cases hmade⟩
  · rw [hcreates, hcreates]
    exact createUser_overflow store h username isStaff tokenName w

end

/-! ### Calls -/

/-- The users in an answer. -/
def Answer.usersIn : Answer → List User
  | user u => [u]
  | users list => list
  | credentials c => [c.user]
  | _ => []

/-- A call that inserts a token with a given expiry, alone or with its user, answers with the
token. -/
inductive Call.Gives : Call → Answer → Token → DateTime → Prop where
  | inserted {id userId secret : Option Text} {name : Label} {given : DateTime} {t : Token} :
    Gives (.insertToken id userId secret name (some given)) (.token t) t given
  | issued {actor : Option Identity} {username : Option Text} {isStaff : Flag} {tokenName : Label}
      {given : DateTime} {c : Credentials} :
    Gives (.issue actor username isStaff tokenName (some given)) (.credentials c) c.token given

/-- What has been added by changes that only add is stored. -/
lemma World.Commits.shows {changes : List Change} (h : w.Commits changes w')
    (hadds : ∀ c ∈ changes, c.Adds) : ∀ c ∈ changes, c.Shows w'.stored := by
  intro c hc
  rw [h.stored]
  exact Tables.shows_after hadds hc

lemma Credentials.Written.users {c : Credentials} {now : Option Stamp} {expiresAt : Option DateTime}
    (h : c.Written now expiresAt) (hc : ∀ x ∈ c.added now expiresAt, x.Shows w'.stored) :
    ∃ row ∈ w'.stored.users, c.user = row.toUser := by
  obtain ⟨row, hrow, hadded⟩ := h.user
  have hmem : Change.addUser row ∈ c.added now expiresAt :=
    List.mem_append_left _ (hadded ▸ List.mem_singleton_self _)
  exact ⟨row, hc _ hmem, hrow⟩

namespace Call

/-- The users that a call answers with are stored afterwards. -/
lemma perform_keeps_users {call : Call} {answer : Answer}
    (h : call.perform store w = (.ok answer, w')) :
    ∀ u ∈ answer.usersIn, ∃ row ∈ w'.stored.users, u = row.toUser := by
  have hcommits := perform_commits h
  intro u hu
  cases call with
  | insertUser id username isStaff =>
    obtain ⟨v, hinsert, rfl⟩ := Action.map_ok h
    obtain rfl := List.mem_singleton.mp hu
    obtain ⟨result, s, w₁, hbody, hend⟩ := Store.transaction_cases hinsert
    obtain ⟨settled, -, -, -, hp⟩ := (Progress.start w).insertUser hbody
    obtain ⟨a, rfl, ha, -⟩ | ⟨f, hf, -⟩ := hend _ hp
    · cases ha
      obtain ⟨row, hrow, hadded⟩ := Store.insertUser_written hbody
      have hmem : Change.addUser row ∈ u.added w.stamp? := hadded ▸ List.mem_singleton_self _
      exact ⟨row, hcommits.shows (User.added_adds _ _) _ hmem, hrow⟩
    · cases hf
  | userById id =>
    obtain ⟨v, hfound, rfl⟩ := Action.map_ok h
    obtain rfl := List.mem_singleton.mp hu
    obtain ⟨row, hrow, rfl, hg⟩ := Store.required_ok hfound
    rw [World.stored_of_ground hg]
    exact ⟨row, List.mem_of_find?_eq_some hrow, rfl⟩
  | userByUsername username =>
    obtain ⟨v, hfound, rfl⟩ := Action.map_ok h
    obtain rfl := List.mem_singleton.mp hu
    obtain ⟨row, hrow, rfl, hg⟩ := Store.required_ok hfound
    rw [World.stored_of_ground hg]
    exact ⟨row, List.mem_of_find?_eq_some hrow, rfl⟩
  | users =>
    obtain ⟨list, hlist, rfl⟩ := Action.map_ok h
    obtain ⟨rfl, hg⟩ := Store.users_ok hlist
    obtain ⟨row, hrow, rfl⟩ := List.mem_map.mp hu
    rw [World.stored_of_ground hg]
    exact ⟨row, List.mem_mergeSort.mp hrow, rfl⟩
  | issue actor username isStaff tokenName expiresAt =>
    obtain ⟨c, hc, rfl⟩ := Action.map_ok h
    obtain rfl := List.mem_singleton.mp hu
    exact (issueUser_written hc).users (hcommits.shows (Credentials.added_adds _ _ _))
  | bootstrap username tokenName =>
    obtain ⟨c, hc, rfl⟩ := Action.map_ok h
    obtain rfl := List.mem_singleton.mp hu
    exact (bootstrapStaffUser_written hc).users (hcommits.shows (Credentials.added_adds _ _ _))
  | isAvailable =>
    cases h
    cases hu
  | disconnect =>
    cases h
    cases hu
  | _ =>
    obtain ⟨x, -, rfl⟩ := Action.map_ok h
    cases hu

/-- A token that is inserted with a given expiry shows it when it is answered with. -/
lemma perform_gives {call : Call} {answer : Answer} (h : call.perform store w = (.ok answer, w'))
    {t : Token} {given : DateTime} (hgives : call.Gives answer t given) (hvalid : given.Valid) :
    t.Expires given ∧ t.Created w.clock ∧ w'.Keeps t := by
  have hkeeps := perform_keeps h
  cases hgives with
  | inserted =>
    obtain ⟨k, hinsert, hk⟩ := Action.map_ok h
    cases hk
    obtain ⟨result, s, w₁, hbody, hend⟩ := Store.transaction_cases hinsert
    obtain ⟨settled, -, -, -, hp⟩ := (Progress.start w).insertToken hbody
    obtain ⟨a, rfl, ha, -⟩ | ⟨f, hf, -⟩ := hend _ hp
    · cases ha
      have hwritten := Store.insertToken_written hbody
      exact ⟨hwritten.expires hvalid (Store.converts_of_insertToken hbody), hwritten.created,
        hkeeps _ (List.mem_singleton_self _)⟩
    · cases hf
  | @issued actor username isStaff tokenName =>
    obtain ⟨c, hissue, hc⟩ := Action.map_ok h
    cases hc
    have hwritten := (issueUser_written hissue).token
    have hconverts : given.toUniversal?.isSome := by
      cases hnone : given.toUniversal? with
      | some u => rfl
      | none =>
        obtain ⟨f, v, hfails, -⟩ :=
          issueUser_overflow store hnone actor username isStaff tokenName w
        rw [hissue] at hfails
        cases hfails
    exact ⟨hwritten.expires hvalid hconverts, hwritten.created,
      hkeeps _ (List.mem_singleton_self _)⟩

end Call

namespace Call

variable {given : DateTime}

lemma insertToken_fails (store : Store) (h : given.toUniversal? = none) (w : World)
    (id userId secret : Option Text) (name : Label) : ∃ f w',
      (Call.insertToken id userId secret name (some given)).perform store w = (.error f, w') ∧
        f.cause = .range .date ∧ w'.database = w.database := by
  obtain ⟨f, w', hend, hcause⟩ : ∃ f w',
      store.finish (.error (Cause.range .date) : Except Failure Token) {} w = (.error f, w') ∧
        f.cause = .range .date := Store.finish_error {} w
  have hfails : (Call.insertToken id userId secret name (some given)).perform store w =
      (.error f, w') := by
    rw [perform, Action.map_apply, Store.transaction, store.insertToken_overflow h]
    dsimp only
    rw [hend]
    rfl
  exact ⟨f, w', hfails, hcause, World.database_of_ground (perform_error_ground hfails)⟩

lemma issue_fails (store : Store) (h : given.toUniversal? = none) (w : World)
    (actor : Option Identity) (username : Option Text) (isStaff : Flag) (name : Label) : ∃ f w',
      (Call.issue actor username isStaff name (some given)).perform store w = (.error f, w') ∧
        w'.database = w.database ∧
          ∀ answer w'', (Call.issue actor username isStaff name none).perform store w =
            (.ok answer, w'') → f.cause = .range .date := by
  obtain ⟨f, w', hissue, hcause⟩ :=
    issueUser_overflow store h actor username isStaff name w
  have hfails : (Call.issue actor username isStaff name (some given)).perform store w =
      (.error f, w') := by
    rw [perform, Action.map_apply, hissue]
    rfl
  refine ⟨f, w', hfails, World.database_of_ground (perform_error_ground hfails),
    fun answer w'' hmade => ?_⟩
  obtain ⟨c, hc, -⟩ := Action.map_ok hmade
  exact hcause c w'' hc

end Call

/-! ### Blocks -/

namespace BlockScript

/-- What a block answers at a step is what the step has come to. -/
lemma mem_trace_of_mem_zip {script : BlockScript} {s : Session} {x : BlockStep × Bool}
    {r : Except Failure Answer}
    (h : (x, r) ∈ script.zip (script.perform store s w).1.1.1) :
    ∃ t ∈ script.trace store s w, t.step = x.1 ∧ t.result = r := by
  induction script generalizing s w with
  | nil => cases h
  | cons head rest ih =>
    obtain ⟨step, caught⟩ := head
    rcases hstep : step.perform store s w with ⟨⟨r₁, s₁⟩, w₁⟩
    by_cases hon : r₁.isOk ∨ caught || step.isOutside
    · obtain ⟨hperform, htrace⟩ := perform_on rest hstep hon
      rw [hperform, List.zip_cons_cons] at h
      rw [htrace]
      obtain h | h := List.mem_cons.mp h
      · cases h
        exact ⟨_, List.mem_cons_self, rfl, rfl⟩
      · obtain ⟨t, ht, htaken⟩ := ih h
        exact ⟨t, List.mem_cons_of_mem _ ht, htaken⟩
    · obtain ⟨⟨f, -, hperform⟩, htrace⟩ := perform_off rest hstep hon
      rw [hperform, List.zip_cons_cons, List.zip_nil_right] at h
      rw [htrace]
      cases List.mem_singleton.mp h
      exact ⟨_, List.mem_singleton_self _, rfl, rfl⟩

/-- A token that a block has inserted and answered with shows its expiry, and it is stored if the
block is committed. -/
lemma run_inserted {script : BlockScript} {results : List (Except Failure Answer)}
    {outcome : Except Failure Unit} (h : script.run store w = ((results, outcome), w'))
    {id userId secret : Option Text} {name : Label} {given : DateTime} {caught : Bool} {k : Token}
    (hk : ((.insertToken id userId secret name (some given), caught), .ok (.token k)) ∈
      script.zip results) (hvalid : given.Valid) :
    k.Expires given ∧ k.Created w.clock ∧ (outcome = .ok () → w'.Keeps k) := by
  have hresults : results = (script.perform store {} w).1.1.1 := (congrArg (·.1.1) h).symm
  rw [hresults] at hk
  obtain ⟨t, ht, hstep, hresult⟩ := mem_trace_of_mem_zip hk
  have hstamp := stamp_of_mem_trace ht
  obtain ⟨before, later, htrace⟩ := List.append_of_mem ht
  obtain ⟨rest, s₁, w₁, hperform, -⟩ := trace_split htrace
  rw [hstep, hresult] at hperform
  obtain ⟨k', hinsert, hsame⟩ := Block.map_ok hperform
  cases hsame
  have hwritten := Store.insertToken_written hinsert
  rw [hstamp] at hwritten
  refine ⟨hwritten.expires hvalid (Store.converts_of_insertToken hinsert), hwritten.created, ?_⟩
  rintro rfl
  obtain ⟨row, hrow, hadded⟩ := hwritten
  have hown : t.own store = [.addToken row] := by
    rw [Taken.own, hresult, hstep, hstamp]
    exact hadded
  have hmem : Change.addToken row ∈ (script.trace store {} w).flatMap (Taken.own store) :=
    List.mem_flatMap.mpr ⟨t, ht, hown ▸ List.mem_singleton_self _⟩
  have hstored := (run_commits h).2.stored
  rw [changes, changesOf, Tables.after_append] at hstored
  refine ⟨row, ?_, hrow⟩
  rw [hstored]
  refine Tables.shows_after (fun c hc => ?_) hmem
  obtain ⟨u, -, hc⟩ := List.mem_flatMap.mp hc
  exact u.own_adds store c hc

end BlockScript

/-! ### Later listings -/

/-- A token that has been stored is listed under its owner, as it was, unless a change has ended it
since. -/
lemma Accounts.lists {line more : List (Int × Change)} {v v' v'' : World} (h : Accounts line v)
    (h' : Accounts (line ++ more) v') {k : TokenRow} (hk : k ∈ v.stored.tokens)
    (hstays : ∀ x ∈ more, ¬x.2.EndsToken k) {userId : Option Text} {list : List Token}
    (howner : stored? userId = some k.userId) (hlist : store.tokensOf userId v' = (.ok list, v'')) :
    k.toToken ∈ list ∧ ∀ t ∈ list, t.tokenId = k.id → t = k.toToken := by
  have hk' : k ∈ v'.stored.tokens := by
    rw [h'.stored, List.map_append, Tables.after_append, ← h.stored]
    refine Tables.mem_tokens_after.mpr (.inl ⟨hk, fun c hc => ?_⟩)
    obtain ⟨x, hx, rfl⟩ := List.mem_map.mp hc
    exact hstays x hx
  obtain ⟨rfl, -⟩ := Store.tokensOf_ok hlist
  refine ⟨List.mem_map_of_mem ?_, fun t ht hid => ?_⟩
  · exact List.mem_mergeSort.mpr (List.mem_filter.mpr ⟨hk', by simp [howner]⟩)
  · obtain ⟨l, hl, rfl⟩ := List.mem_map.mp ht
    have hl' := (List.mem_filter.mp (List.mem_mergeSort.mp hl)).1
    rw [List.inj_on_of_nodup_map h'.consistent.tokenIds hl' hk' hid]

lemma Accounts.user_created {line : List (Int × Change)} {v : World} (h : Accounts line v)
    {u : User} (hu : ∃ row ∈ v.stored.users, u = row.toUser) :
    ∃ clock row, (clock, .addUser row) ∈ line ∧ u = row.toUser ∧ u.Created clock := by
  obtain ⟨row, hrow, rfl⟩ := hu
  obtain ⟨clock, hline, hstamp⟩ := h.user_added hrow
  exact ⟨clock, row, hline, rfl, UserRow.created_toUser hstamp⟩

lemma Accounts.token_created {line : List (Int × Change)} {v : World} (h : Accounts line v)
    {t : Token} (ht : v.Keeps t) :
    ∃ clock k, (clock, .addToken k) ∈ line ∧ t = k.toToken ∧ t.Created clock := by
  obtain ⟨k, hk, rfl⟩ := ht
  obtain ⟨clock, hline, hstamp⟩ := h.token_added hk
  exact ⟨clock, k, hline, rfl, TokenRow.created_toToken hstamp⟩

/-! ### Through a run -/

/-- A token that has been answered with shows the given instant as its expiry and the millisecond of the
clock, and it is kept so. -/
structure Token.Survives (t : Token) (given : DateTime) (v v' : World) : Prop where
  expires : t.Expires given
  created : t.Created v.clock
  kept : v'.Keeps t

/-- An answer shows users and tokens of a timeline as they were inserted, each with the millisecond of
its insert. -/
structure Answer.Follows (answer : Answer) (line : List (Int × Change)) : Prop where
  users : ∀ u ∈ answer.usersIn, ∃ clock row,
    (clock, .addUser row) ∈ line ∧ u = row.toUser ∧ u.Created clock
  tokens : ∀ t ∈ answer.tokensIn, ∃ clock k,
    (clock, .addToken k) ∈ line ∧ t = k.toToken ∧ t.Created clock

/-- An expiry is refused for its date. In a session nothing is changed at all; alone and in an issue
nothing is stored, and an issue that would come through without it fails for the date. -/
structure DateTime.Refused (given : DateTime) (store : Store) (v : World) : Prop where
  inserted : ∀ id userId secret name s,
    store.insertToken id userId secret name (some given) s v = ((.error (Cause.range .date), s), v)
  called : ∀ id userId secret name, ∃ f v',
    (Call.insertToken id userId secret name (some given)).perform store v = (.error f, v') ∧
      f.cause = .range .date ∧ v'.database = v.database
  issued : ∀ actor username isStaff name, ∃ f v',
    (Call.issue actor username isStaff name (some given)).perform store v = (.error f, v') ∧
      v'.database = v.database ∧
        ∀ answer v'', (Call.issue actor username isStaff name none).perform store v =
          (.ok answer, v'') → f.cause = .range .date

namespace Event

/-- What storage does to times. -/
structure TimesSurvive (w : World) : Prop where
  user : ∀ (store : Store) id username isStaff s v u s' v',
    store.insertUser id username isStaff s v = ((.ok u, s'), v') → u.Created v.clock
  token : ∀ (store : Store) id userId secret name given s v t s' v', given.Valid →
    store.insertToken id userId secret name (some given) s v = ((.ok t, s'), v') →
      t.Expires given ∧ t.Created v.clock
  call : ∀ (store : Store) (call : Call) v answer v' t given,
    call.perform store v = (.ok answer, v') → call.Gives answer t given → given.Valid →
      t.Survives given v v'
  block : ∀ mishaps (script : BlockScript) v results v' id userId secret name given caught t,
    (Event.block script).happen mishaps v = (.block results (.ok ()), v') → given.Valid →
      ((.insertToken id userId secret name (some given), caught), .ok (.token t)) ∈
        script.zip results → t.Survives given v v'
  /-- From empty tables on, answers show what has been inserted so far. -/
  answers : ∀ line v, Meets w line v → ∀ (store : Store) (call : Call) answer v',
    call.perform store v = (.ok answer, v') →
      answer.Follows (line ++ (call.changes v.stamp? (.ok answer)).map (v.clock, ·))
  /-- A stored token is listed as it was until a change ends it. -/
  lists : ∀ line v more v', Meets w line v → Meets w (line ++ more) v' →
    ∀ k ∈ v.stored.tokens, (∀ x ∈ more, ¬x.2.EndsToken k) →
      ∀ (store : Store) userId list v'', stored? userId = some k.userId →
        store.tokensOf userId v' = (.ok list, v'') →
          k.toToken ∈ list ∧ ∀ t ∈ list, t.tokenId = k.id → t = k.toToken
  overflow : ∀ given : DateTime, given.toUniversal? = none → ∀ (store : Store) v,
    given.Refused store v

/-- Expiries and times of creation survive storage. A token shows the given instant as its expiry,
and a user or a token the millisecond of the clock at its insert, when the insert answers with it,
alone, in a block or in an issue. From empty tables on, every answer of a call shows the users and
the tokens that have been inserted so far, each with the millisecond of its insert, and a stored
token is listed as it was until a change ends it. An expiry without a universal time is refused for
its date and changes nothing, in whatever session; an issue with it stores nothing, and where it
would come through without an expiry it fails for the date. -/
theorem times_survive {w : World} (hempty : w.stored = {}) : TimesSurvive w where
  user store id username isStaff s v u s' v' h := (Store.insertUser_written h).created
  token store id userId secret name given s v t s' v' hvalid h := by
    have hwritten := Store.insertToken_written h
    exact ⟨hwritten.expires hvalid (Store.converts_of_insertToken h), hwritten.created⟩
  call store call v answer v' t given h hgives hvalid := by
    obtain ⟨hexpires, hcreated, hkept⟩ := Call.perform_gives h hgives hvalid
    exact ⟨hexpires, hcreated, hkept⟩
  block mishaps script v results v' id userId secret name given caught t h hvalid ht := by
    rcases hrun : script.run ⟨mishaps.store⟩ v.anew with ⟨⟨answers, outcome⟩, v₁⟩
    rw [happen, occur, Computation.bind_apply, hrun] at h
    cases h
    obtain ⟨hexpires, hcreated, hkeeps⟩ := BlockScript.run_inserted hrun ht hvalid
    exact ⟨hexpires, hcreated, hkeeps rfl⟩
  answers line v hmeets store call answer v' h := by
    have haccounts := (hmeets.accounts hempty).call h
    exact ⟨fun u hu => haccounts.user_created (Call.perform_keeps_users h u hu),
      fun t ht => haccounts.token_created (Call.perform_keeps h t ht)⟩
  lists line v more v' hmeets hmeets' k hk hstays store userId list v'' :=
    (hmeets.accounts hempty).lists (hmeets'.accounts hempty) hk hstays
  overflow given hnone store v :=
    ⟨fun id userId secret name s => store.insertToken_overflow hnone id userId secret name s v,
      Call.insertToken_fails store hnone v, Call.issue_fails store hnone v⟩

/-- The token of b shows the end of 2030 and the clock at its insert, and it is listed so. -/
theorem times_survive_moving :
    (({} : World).stored = {} ∧ (endOfYear 2030).Valid) ∧
      (movingToken.Expires (endOfYear 2030) ∧ movingToken.Created ({} : World).clock) ∧
      ∃ k, movingToken = TokenRow.toToken k ∧ ∀ list v,
        ({} : Store).tokensOf (some (Text.ofString "a")) (run moving {}).2 = (.ok list, v) →
          movingToken ∈ list := by
  have hsurvive := times_survive (w := {}) rfl
  have hvalid : (endOfYear 2030).Valid := by decide
  have hhappen : (block [(.insertUser (some "a") (some "b") (.value true), false),
      (.insertToken (some "c") (some "a") (some "d") (.text "e") (some (endOfYear 2030)),
        false)]).happen {} {} = (.block [.ok (.user ⟨"a", "b", true, movingToken.createdAt⟩),
          .ok (.token movingToken)] (.ok ()), (run moving {}).2) := by rfl
  obtain ⟨hexpires, hcreated, k, hk, hsame⟩ := hsurvive.block _ _ _ _ _ _ _ _ _ _ false _ hhappen
    hvalid (List.mem_cons_of_mem _ (List.mem_singleton_self _))
  refine ⟨⟨rfl, hvalid⟩, ⟨hexpires, hcreated⟩, k, hsame, fun list v hlist => ?_⟩
  have howner : stored? (some (Text.ofString "a")) = some k.userId := by
    rw [stored?_ofString]
    exact congrArg (some ∘ Token.userId) hsame
  have hmeets : Meets {} (timeline moving {} ++ []) (run moving {}).2 := by
    rw [List.append_nil]
    exact .between moving
  have hlisted := hsurvive.lists _ _ [] _ (.between moving) hmeets k hk nofun {} _ list v howner hlist
  rw [hsame]
  exact hlisted.1

end Event

end BearerAccess
