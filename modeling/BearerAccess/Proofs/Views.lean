import BearerAccess.Proofs.Expired
import BearerAccess.Proofs.Listing

/-!
# Views of the users

The listing of the users, the lookup of a user by id or by name, the owner of a secret and the listing of
a user's tokens are all views of the same rows. What one of them shows, the others show as well, and it
is what the insert of the row has answered.
-/

namespace BearerAccess

variable {store : Store} {w v v' : World} {line more : List (Int × Change)} {list : List User}

/-! ### Lookups of a user -/

/-- The lookup of a user by a text agrees with a listing. It answers with the user listed that has the
text as its name; it says that there is no such user just if none is listed and the text can be stored;
and a text that has no UTF-8 form is refused. -/
structure Store.LooksUp (lookup : Option Text → Action User) (v : World) (list : List User)
    (name : User → String) (t : Text) : Prop where
  found : ∀ x, (∃ v', lookup (some t) v = (.ok x, v')) ↔ x ∈ list ∧ Text.ofString (name x) = t
  missing : (∃ v', lookup (some t) v = (.error (Cause.noSuchUser : Failure), v')) ↔
    t.toString?.isSome ∧ ∀ x ∈ list, Text.ofString (name x) ≠ t
  refused : t.toString? = none → ∃ v', lookup (some t) v =
    (.error (Cause.unencodable t.firstSurrogates.1 t.firstSurrogates.2 : Failure), v')

namespace Store

variable {name : String} {statement : Statement} {t : Text}

/-- Where rows can be read, a lookup answers with the row that it finds. -/
lemma lookup_of_readable (name : String) (statement : Statement) (t : Text)
    (h : ¬Unreadable (store.faults v.tasks) v.database) (find : Tables → Option UserRow) :
    ∃ v', store.operate name (some ⟨statement, some t⟩) (fun rows => required (find rows)) v =
      (match t.toString? with
        | none => .error (undone (store.faults v.tasks)
          (.unencodable t.firstSurrogates.1 t.firstSurrogates.2))
        | some _ => match find v.stored with
          | some row => .ok row.toUser
          | none => .error (undone (store.faults v.tasks) .noSuchUser), v') := by
  simp only [Unreadable, not_or, Bool.not_eq_true, ← ne_eq, Option.ne_none_iff_exists'] at h
  obtain ⟨⟨hq, hflush, hcommit⟩, rows, hrows⟩ := h
  have hassigned : v.assigned.database.rows? = some rows := hrows
  have hstored : v.stored = rows := by
    rw [World.stored, Database.tables_of_rows hrows, Option.getD_some]
  have hopen : ((store.faults v.tasks).query.isSome || (store.faults v.tasks).flush.isSome ||
      !v.database.reachable) = false := by
    rw [hq, hflush, Database.reachable_of_rows hrows]
    rfl
  refine ⟨(v.assigned.visit (some ⟨statement, some t⟩)).2, ?_⟩
  rw [operate_apply]
  dsimp only
  rw [hopen, if_neg Bool.false_ne_true, World.visit_fst hassigned, hstored]
  cases ht : t.toString? with
  | none => simp [textObstacle?, surrogates?, ht, Rejection.raised, fallOut]
  | some s =>
    cases hfind : find rows with
    | none => simp [textObstacle?, surrogates?, ht, required, conclude, hfind, fallOut]
    | some row =>
      simp [textObstacle?, surrogates?, ht, required, reading, conclude, hfind, hcommit, World.leave]

/-- Where something has been read, rows can be read. -/
lemma readable_of_ok {α : Type} {query : Option Query} {read : Tables → α} {a : α}
    (h : store.operate name query (fun rows => reading (read rows)) v = (.ok a, v')) :
    ¬Unreadable (store.faults v.tasks) v.database := by
  intro hun
  obtain ⟨cause, u, -, hfails⟩ : ∃ cause u, Cause.Broken name cause ∧
      store.operate name query (fun rows => reading (read rows)) v =
        (.error (undone (store.faults v.tasks) cause), u) := operate_of_breaks hun.breaks
  rw [hfails] at h
  cases h

lemma readable_of_userByToken {secret : Option Text} {now : Option DateTime}
    {found : Option Identity} (h : store.userByToken secret now v = (.ok found, v')) :
    ¬Unreadable (store.faults v.tasks) v.database := by
  unfold userByToken at h
  obtain ⟨⟨f, hmoment⟩, -⟩ | ⟨u, hmoment, -⟩ := moment_cases now v
  · rw [Action.bind_apply, hmoment] at h
    cases h
  · rw [Action.bind_apply, hmoment] at h
    exact readable_of_ok h

/-- By a key that no two rows share, the user is found that a listing of the rows holds with this key. -/
lemma found_listed {rows : List UserRow} {key : UserRow → String} (hkeys : (rows.map key).Nodup)
    {shown : User → String} (hshown : ∀ u : UserRow, shown u.toUser = key u)
    (hlist : ∀ x, x ∈ list ↔ ∃ u ∈ rows, x = u.toUser) (t : Text) (x : User) :
    (rows.find? fun u => some (key u) = stored? (some t)).map UserRow.toUser = some x ↔
      x ∈ list ∧ Text.ofString (shown x) = t := by
  have htext : ∀ u : UserRow, some (key u) = stored? (some t) ↔ Text.ofString (shown u.toUser) = t := by
    intro u
    rw [hshown]
    refine ⟨fun hu => Text.ofString_toString? hu.symm, ?_⟩
    rintro rfl
    exact (Text.toString?_ofString _).symm
  rw [hlist, Option.map_eq_some_iff]
  constructor
  · rintro ⟨u, hu, rfl⟩
    obtain ⟨hmem, hkey⟩ := (Tables.find?_iff_of_nodup hkeys).mp hu
    exact ⟨⟨u, hmem, rfl⟩, (htext u).mp hkey⟩
  · rintro ⟨⟨u, hmem, rfl⟩, hx⟩
    exact ⟨u, (Tables.find?_iff_of_nodup hkeys).mpr ⟨hmem, (htext u).mpr hx⟩, rfl⟩

/-- A lookup by a key that no two rows share agrees with every listing of the rows. -/
lemma looksUp_of_key {lookup : Option Text → Action User}
    (h : ¬Unreadable (store.faults v.tasks) v.database)
    (hrollback : (store.faults v.tasks).rollback = none) {key : UserRow → String}
    (hkeys : (v.stored.users.map key).Nodup) {shown : User → String}
    (hshown : ∀ u : UserRow, shown u.toUser = key u)
    (hlist : ∀ x, x ∈ list ↔ ∃ u ∈ v.stored.users, x = u.toUser)
    (hlookup : lookup (some t) = store.operate name (some ⟨statement, some t⟩) fun rows =>
      required (rows.users.find? fun u => some (key u) = stored? (some t))) :
    LooksUp lookup v list shown t := by
  have hundone (cause : Cause) : undone (store.faults v.tasks) cause = cause := by
    rw [undone, hrollback]
  obtain ⟨v', hv'⟩ := lookup_of_readable name statement t h
    fun rows => rows.users.find? fun u => some (key u) = stored? (some t)
  rw [← hlookup, hundone, hundone] at hv'
  have hfound := found_listed hkeys hshown hlist t
  generalize v.stored.users.find? (fun u => some (key u) = stored? (some t)) = row at hv' hfound
  have hmissing : row = none ↔ ∀ x ∈ list, Text.ofString (shown x) ≠ t := by
    have hnone : row = none ↔ row.map UserRow.toUser = none := Option.map_eq_none_iff.symm
    rw [hnone, Option.eq_none_iff_forall_ne_some]
    simp only [ne_eq, hfound, not_and]
  have hanswer : ∀ r, (∃ v', lookup (some t) v = (r, v')) ↔ (lookup (some t) v).1 = r :=
    fun r => ⟨fun ⟨v', h⟩ => by rw [h], fun h => ⟨_, Prod.ext h rfl⟩⟩
  -- The three outcomes of the lookup are told apart by whether the text can be stored and a row is found.
  refine ⟨fun x => ?_, ?_, fun ht => ?_⟩
  · rw [hanswer, hv', ← hfound]
    cases ht : t.toString? with
    | none =>
      refine ⟨nofun, fun hx => ?_⟩
      rw [← ((hfound x).mp hx).2, Text.toString?_ofString] at ht
      cases ht
    | some s =>
      cases row with
      | none => exact ⟨nofun, nofun⟩
      | some u => simp only [Option.map_some, Option.some.injEq, Except.ok.injEq]
  · rw [hanswer, hv', ← hmissing]
    cases t.toString? with
    | none => exact ⟨nofun, fun ⟨hs, _⟩ => nomatch hs⟩
    | some s =>
      cases row with
      | none => exact ⟨fun _ => ⟨rfl, rfl⟩, fun _ => rfl⟩
      | some u => exact ⟨nofun, fun ⟨_, hrow⟩ => nomatch hrow⟩
  · rw [ht] at hv'
    exact ⟨v', hv'⟩

end Store

/-! ### What is listed -/

lemma Store.mem_listed (hlist : store.users v = (.ok list, v')) {x : User} :
    x ∈ list ↔ ∃ u ∈ v.stored.users, x = u.toUser := by
  obtain ⟨rfl, -⟩ := Store.users_ok hlist
  simp only [List.mem_map, Tables.usersByAge, List.mem_mergeSort, eq_comm]

namespace Accounts

/-- The users listed are those that the timeline has added and not ended since. -/
lemma mem_listed_iff (h : Accounts line v) (hlist : store.users v = (.ok list, v')) {x : User} :
    x ∈ list ↔ ∃ before clock row later, line = before ++ (clock, .addUser row) :: later ∧
      x = row.toUser ∧ stampAt? clock = some row.createdAt ∧
      ∀ y ∈ later, ¬y.2.EndsUser row := by
  rw [Store.mem_listed hlist]
  constructor
  · rintro ⟨row, hrow, rfl⟩
    rw [h.stored, Tables.mem_users_after] at hrow
    obtain ⟨hnone, -⟩ | ⟨before, later, hline, hlater⟩ := hrow
    · cases hnone
    obtain ⟨before, rest, rfl, -, hrest⟩ := List.map_eq_append_iff.mp hline
    obtain ⟨⟨clock, c⟩, later, rfl, rfl, rfl⟩ := List.map_eq_cons_iff.mp hrest
    refine ⟨before, clock, row, later, rfl, rfl, ?_, fun y hy => ?_⟩
    · exact h.stamped _ (List.mem_append_right _ List.mem_cons_self)
    · exact hlater y.2 (List.mem_map_of_mem hy)
  · rintro ⟨before, clock, row, later, rfl, rfl, -, hlater⟩
    refine ⟨row, ?_, rfl⟩
    rw [h.stored, Tables.mem_users_after]
    refine .inr ⟨before.map Prod.snd, later.map Prod.snd, ?_, fun c hc => ?_⟩
    · rw [List.map_append, List.map_cons]
    · obtain ⟨y, hy, rfl⟩ := List.mem_map.mp hc
      exact hlater y hy

/-- A user that has been stored is listed as it was, unless a change has ended it since. -/
lemma lists_user (h : Accounts line v) {u : World} (h' : Accounts (line ++ more) u) {row : UserRow}
    (hrow : row ∈ v.stored.users) (hstays : ∀ y ∈ more, ¬y.2.EndsUser row)
    (hlist : store.users u = (.ok list, v')) :
    row.toUser ∈ list ∧ ∀ x ∈ list, x.userId = row.id → x = row.toUser := by
  have hkept : row ∈ u.stored.users := by
    rw [h'.stored, List.map_append, Tables.after_append, ← h.stored]
    refine Tables.mem_users_after.mpr (.inl ⟨hrow, fun c hc => ?_⟩)
    obtain ⟨y, hy, rfl⟩ := List.mem_map.mp hc
    exact hstays y hy
  refine ⟨(Store.mem_listed hlist).mpr ⟨row, hkept, rfl⟩, fun x hx hid => ?_⟩
  obtain ⟨other, hother, rfl⟩ := (Store.mem_listed hlist).mp hx
  rw [List.inj_on_of_nodup_map h'.consistent.userIds hother hkept hid]

end Accounts

/-! ### The owner of a secret -/

section

variable {α β : Type} {key : α → String} {a : α} {l : List α}

/-- Where keys are unique, one element has the key of an element that is there. -/
lemma filter_of_nodup_map (h : (l.map key).Nodup) (ha : a ∈ l) :
    l.filter (fun x => key x = key a) = [a] := by
  induction l with
  | nil => cases ha
  | cons b rest ih =>
    rw [List.map_cons, List.nodup_cons] at h
    obtain ⟨hfresh, hrest⟩ := h
    obtain rfl | ha := List.mem_cons.mp ha
    · rw [List.filter_cons_of_pos (by simp), List.filter_eq_nil_iff.mpr]
      intro x hx
      simpa using fun heq : key x = key a => hfresh (heq ▸ List.mem_map_of_mem hx)
    · have hne : key b ≠ key a := fun heq => hfresh (heq ▸ List.mem_map_of_mem ha)
      rw [List.filter_cons_of_neg (by simpa using hne), ih hrest ha]

/-- What only one element of a list contributes is contributed once. -/
lemma flatMap_of_nodup_map (h : (l.map key).Nodup) (ha : a ∈ l) {f : α → List β}
    (hf : ∀ x ∈ l, key x ≠ key a → f x = []) : l.flatMap f = f a := by
  induction l with
  | nil => cases ha
  | cons b rest ih =>
    rw [List.map_cons, List.nodup_cons] at h
    obtain ⟨hfresh, hrest⟩ := h
    rw [List.flatMap_cons]
    obtain rfl | ha := List.mem_cons.mp ha
    · rw [List.flatMap_eq_nil_iff.mpr, List.append_nil]
      intro x hx
      exact hf x (List.mem_cons_of_mem _ hx) fun heq => hfresh (heq ▸ List.mem_map_of_mem hx)
    · rw [hf b List.mem_cons_self fun heq => hfresh (heq ▸ List.mem_map_of_mem ha),
        List.nil_append, ih hrest ha fun x hx => hf x (List.mem_cons_of_mem _ hx)]

end

namespace Accounts

variable {secret : Option Text} {now : Option DateTime} {i : Identity} {reader : Store}

/-- The tokens listed under a user are the stored ones that it owns. -/
lemma tokens_listed {x : User} {tokens : List Token}
    (hlist : store.tokensOf (some (Text.ofString x.userId)) v = (.ok tokens, v')) :
    tokens.Perm ((v.stored.tokens.filter (·.userId = x.userId)).map TokenRow.toToken) := by
  obtain ⟨rfl, -⟩ := Store.tokensOf_ok hlist
  have hperm : (v.stored.tokensOf (some x.userId)).Perm
      (v.stored.tokens.filter fun k => some k.userId = some x.userId) := List.mergeSort_perm _ _
  simp only [Option.some.injEq] at hperm
  rw [stored?_ofString]
  exact hperm.map _

/-- A token is listed once under its owner. -/
lemma filter_of_owner (h : Accounts line v) {k : TokenRow} (hk : k ∈ v.stored.tokens) {x : User}
    (hx : k.userId = x.userId) {tokens : List Token}
    (hlist : store.tokensOf (some (Text.ofString x.userId)) v = (.ok tokens, v')) :
    k.toToken ∈ tokens ∧ tokens.filter (·.secret = k.secret) = [k.toToken] := by
  have hlisted := tokens_listed hlist
  have hmine : k.toToken ∈ tokens := hlisted.mem_iff.mpr
    (List.mem_map_of_mem (List.mem_filter.mpr ⟨hk, decide_eq_true hx⟩))
  have hsecrets : (tokens.map Token.secret).Nodup := by
    rw [(hlisted.map _).nodup_iff, List.map_map]
    exact Tables.nodup_map_filter _ h.consistent.secrets
  exact ⟨hmine, filter_of_nodup_map hsecrets hmine⟩

/-- Under nobody but its owner is a token listed with the secret. -/
lemma filter_of_others (h : Accounts line v) {k : TokenRow} (hk : k ∈ v.stored.tokens) {y : User}
    (hne : y.userId ≠ k.userId) {tokens : List Token}
    (hlist : store.tokensOf (some (Text.ofString y.userId)) v = (.ok tokens, v')) :
    tokens.filter (·.secret = k.secret) = [] := by
  rw [List.filter_eq_nil_iff]
  intro l hl
  obtain ⟨row, hrow, rfl⟩ := List.mem_map.mp ((tokens_listed hlist).mem_iff.mp hl)
  obtain ⟨hrow, howns⟩ := List.mem_filter.mp hrow
  rw [decide_eq_true_iff]
  intro hsame
  obtain rfl : row = k := List.inj_on_of_nodup_map h.consistent.secrets hrow hk hsame
  exact hne (of_decide_eq_true howns).symm

/-- A secret that is found belongs to a user listed, and to one token of all that are listed, which is
listed under this user. -/
lemma owner_listed (h : Accounts line v) (hlist : store.users v = (.ok list, v'))
    (hfound : reader.userByToken secret now v = (.ok (some i), w)) :
    ∃ x ∈ list, i = ⟨Text.ofString x.userId, Text.ofString x.username, x.isStaff⟩ ∧
      ∃ k : Token, secret = some (Text.ofString k.secret) ∧ k.userId = x.userId ∧
        ∀ tokens : User → List Token,
          (∀ y ∈ list, ∃ (reader : Store) (u : World),
            reader.tokensOf (some (Text.ofString y.userId)) v = (.ok (tokens y), u)) →
          (list.flatMap tokens).filter (·.secret = k.secret) = [k] ∧ k ∈ tokens x := by
  obtain ⟨rows, stamp, hrows, -, howner⟩ := Store.userByToken_ok hfound
  obtain ⟨u, hu, rfl⟩ := Option.map_eq_some_iff.mp howner.symm
  obtain ⟨k, hk, hsecret, -, hu, hid⟩ := Tables.ownerOfSecret?_some hu
  have hstored : v.stored = rows := by
    rw [World.stored, Database.tables_of_rows hrows, Option.getD_some]
  rw [← hstored] at hk hu
  have hx : u.toUser ∈ list := (Store.mem_listed hlist).mpr ⟨u, hu, rfl⟩
  obtain ⟨t, rfl⟩ : ∃ t, secret = some t := by
    cases secret with
    | none => cases hsecret
    | some t => exact ⟨t, rfl⟩
  refine ⟨u.toUser, hx, rfl, k.toToken, ?_, hid.symm, fun tokens htokens => ?_⟩
  · exact congrArg some (Text.ofString_toString? hsecret.symm).symm
  obtain ⟨reader, v'', hread⟩ := htokens _ hx
  obtain ⟨hmine, honce⟩ := h.filter_of_owner hk hid.symm hread
  refine ⟨?_, hmine⟩
  have hothers : ∀ y ∈ list, y.userId ≠ u.toUser.userId →
      (tokens y).filter (fun l => l.secret = k.toToken.secret) = [] := by
    intro y hy hne
    obtain ⟨reader, v'', hread⟩ := htokens y hy
    exact h.filter_of_others hk (fun heq => hne (heq.trans hid.symm)) hread
  obtain ⟨-, hids, -⟩ := h.listed_users hlist
  rw [List.filter_flatMap, flatMap_of_nodup_map hids hx hothers]
  exact honce

end Accounts

/-! ### Users that were answered -/

/-- A user that a block has inserted and answered with is stored if the block is committed. -/
lemma BlockScript.run_inserted_user {script : BlockScript} {results : List (Except Failure Answer)}
    (h : script.run store v = ((results, .ok ()), v')) {id username : Option Text} {isStaff : Flag}
    {caught : Bool} {u : User}
    (hu : ((.insertUser id username isStaff, caught), .ok (.user u)) ∈ script.zip results) :
    ∃ row ∈ v'.stored.users, u = row.toUser := by
  have hresults : results = (script.perform store {} v).1.1.1 := (congrArg (·.1.1) h).symm
  rw [hresults] at hu
  obtain ⟨t, ht, hstep, hresult⟩ := mem_trace_of_mem_zip hu
  obtain ⟨before, later, htrace⟩ := List.append_of_mem ht
  obtain ⟨rest, s₁, w₁, hperform, -⟩ := trace_split htrace
  rw [hstep, hresult] at hperform
  obtain ⟨_, hinsert, hsame⟩ := Block.map_ok hperform
  cases hsame
  obtain ⟨row, hrow, hadded⟩ := Store.insertUser_written hinsert
  have hown : t.own store = [.addUser row] := by
    rw [Taken.own, hresult, hstep]
    exact hadded
  have hmem : Change.addUser row ∈ (script.trace store {} v).flatMap (Taken.own store) :=
    List.mem_flatMap.mpr ⟨t, ht, hown ▸ List.mem_singleton_self _⟩
  have hstored := (run_commits h).2.stored
  rw [changes, changesOf, Tables.after_append] at hstored
  refine ⟨row, ?_, hrow⟩
  rw [hstored]
  refine Tables.shows_after (fun c hc => ?_) hmem
  obtain ⟨taken, -, hc⟩ := List.mem_flatMap.mp hc
  exact taken.own_adds store c hc

namespace Event

/-- From a point of a run on, a user is listed as it was answered, until a change ends it. -/
def Lists (w : World) (line : List (Int × Change)) (u : User) : Prop :=
  ∃ row : UserRow, u = row.toUser ∧ ∀ more v, Meets w (line ++ more) v →
    (∀ y ∈ more, ¬y.2.EndsUser row) → ∀ (store : Store) list v', store.users v = (.ok list, v') →
      u ∈ list ∧ ∀ x ∈ list, x.userId = u.userId → x = u

lemma lists_of_stored (hempty : w.stored = {}) (h : Accounts line v) {u : User}
    (hu : ∃ row ∈ v.stored.users, u = row.toUser) : Lists w line u := by
  obtain ⟨row, hrow, rfl⟩ := hu
  refine ⟨row, rfl, fun more v' hmeets hstays store list v'' hlist => ?_⟩
  exact h.lists_user (hmeets.accounts hempty) hrow hstays hlist

/-- A secret speaks for a user: the user is listed, its id and name and whether it is staff are those of
the identity that the secret was answered with, it is found by this id, and the secret is that of one
token among all that are listed, found under this user. -/
structure SpeaksFor (reader : Store) (v : World) (list : List User) (secret : Option Text)
    (i : Identity) (x : User) : Prop where
  listed : x ∈ list
  identity : i = ⟨Text.ofString x.userId, Text.ofString x.username, x.isStaff⟩
  found : ∃ u, reader.userById (some i.userId) v = (.ok x, u)
  single : ∃ k : Token, secret = some (Text.ofString k.secret) ∧ k.userId = x.userId ∧
    ∀ tokens : User → List Token,
      (∀ y ∈ list, ∃ (other : Store) (u : World),
        other.tokensOf (some (Text.ofString y.userId)) v = (.ok (tokens y), u)) →
      (list.flatMap tokens).filter (·.secret = k.secret) = [k] ∧ k ∈ tokens x

/-- A listing of the users agrees with the lookups, with what has been inserted, and with the secrets. -/
structure ListingAgrees (line : List (Int × Change)) (v : World) (list : List User) : Prop where
  lookups : ∀ reader : Store, ¬Store.Unreadable (reader.faults v.tasks) v.database →
    (reader.faults v.tasks).rollback = none → ∀ t,
      Store.LooksUp reader.userById v list User.userId t ∧
        Store.LooksUp reader.userByUsername v list User.username t
  added : ∀ x, x ∈ list ↔ ∃ before clock row later, line = before ++ (clock, .addUser row) :: later ∧
    x = row.toUser ∧ stampAt? clock = some row.createdAt ∧ ∀ y ∈ later, ¬y.2.EndsUser row
  owners : ∀ (reader : Store) secret now i v'',
    reader.userByToken secret now v = (.ok (some i), v'') → ∃ x, SpeaksFor reader v list secret i x

/-- What the ways to read the users have in common after the changes of a timeline. -/
structure ViewsAgree (w : World) (line : List (Int × Change)) (v : World) : Prop where
  listings : ∀ (store : Store) list v', store.users v = (.ok list, v') → ListingAgrees line v list
  readable : ∀ store : Store, ¬Store.Unreadable (store.faults v.tasks) v.database →
    ∃ list v', store.users v = (.ok list, v')
  /-- A user that a call has answered with is listed just so until a change ends it. -/
  answered : ∀ (store : Store) (call : Call) answer v', call.perform store v = (.ok answer, v') →
    ∀ u ∈ answer.usersIn,
      Lists w (line ++ (call.changes v.stamp? (.ok answer)).map (v.clock, ·)) u
  /-- So is one that a step of a committed block has answered with. -/
  inserted : ∀ mishaps (script : BlockScript) results v' id username isStaff caught u,
    (block script).happen mishaps v = (.block results (.ok ()), v') →
      ((.insertUser id username isStaff, caught), .ok (.user u)) ∈ script.zip results →
        Lists w (line ++ ((block script).changes mishaps v.anew
          (.block results (.ok ()))).map (v.clock, ·)) u

lemma listing_agrees (h : Accounts line v) (hlist : store.users v = (.ok list, v')) :
    ListingAgrees line v list where
  lookups reader hreadable hrollback t :=
    ⟨Store.looksUp_of_key hreadable hrollback h.consistent.userIds (fun _ => rfl)
        (fun _ => Store.mem_listed hlist) rfl,
      Store.looksUp_of_key hreadable hrollback h.consistent.usernames (fun _ => rfl)
        (fun _ => Store.mem_listed hlist) rfl⟩
  added _ := h.mem_listed_iff hlist
  owners reader secret now i v'' hfound := by
    obtain ⟨x, hx, rfl, htoken⟩ := h.owner_listed hlist hfound
    obtain ⟨row, hrow, rfl⟩ := (Store.mem_listed hlist).mp hx
    have hfind : v.stored.userById? (stored? (some (Text.ofString row.id))) = some row := by
      rw [stored?_ofString, Tables.userById?_iff h.consistent]
      exact ⟨hrow, rfl⟩
    obtain ⟨u, hu⟩ := Store.lookup_of_readable "get_user_by_id" .userById
      (Text.ofString row.id) (Store.readable_of_userByToken hfound)
      fun rows => rows.userById? (stored? (some (Text.ofString row.id)))
    rw [Text.toString?_ofString, hfind] at hu
    exact ⟨_, hx, rfl, ⟨u, hu⟩, htoken⟩

/-- All ways to read the users show the same. In whatever store a run from empty tables meets, the
lookups of a user by id and by name answer with what the listing holds, and say that there is no such
user just if it holds none; a text without a UTF-8 form, which no user can have as id or name, is refused
instead. The users listed are those that inserts have added and nothing has ended since. An identity that
a secret speaks for is that of a user listed and looked up, and the secret is that of one token among all
that are listed, found under this user. Where the rows can be read there is a listing; and a user that a
call, or a step of a committed block, has answered with is listed just so until a change ends it. -/
theorem views_agree {w v : World} {line : List (Int × Change)} (hempty : w.stored = {})
    (hmeets : Meets w line v) : ViewsAgree w line v where
  listings store list v' hlist := listing_agrees (hmeets.accounts hempty) hlist
  readable store hreadable := by
    obtain ⟨rows, v', -, hlist⟩ := Store.users_of_readable hreadable
    exact ⟨_, v', hlist⟩
  answered store call answer v' h u hu :=
    lists_of_stored hempty ((hmeets.accounts hempty).call h) (Call.perform_keeps_users h u hu)
  inserted mishaps script results v' id username isStaff caught u h hu := by
    have hfollows := happen_follows h
    rcases hrun : script.run ⟨mishaps.store⟩ v.anew with ⟨⟨answers, outcome⟩, v₁⟩
    rw [happen, occur, Computation.bind_apply, hrun] at h
    cases h
    refine lists_of_stored hempty ((hmeets.accounts hempty).follows hfollows fun c hc => ?_)
      (BlockScript.run_inserted_user hrun hu)
    have hstamped := changes_stamped hc
    exact hstamped

/-- The owner of the secret d is listed, and found by the id that the secret speaks for. -/
theorem views_agree_moving :
    (({} : World).stored = {} ∧ Meets {} (timeline moving {}) (run moving {}).2) ∧
      ∃ list v', ({} : Store).users (run moving {}).2 = (.ok list, v') ∧
        ∃ x ∈ list, Text.ofString x.username = "b" ∧
          ∃ u, ({} : Store).userById (some "a") (run moving {}).2 = (.ok x, u) := by
  have hmeets : Meets {} (timeline moving {}) (run moving {}).2 := .between moving
  have hagree := views_agree rfl hmeets
  obtain ⟨list, v', hlist⟩ := hagree.readable {} (Store.not_unreadable rfl)
  have hfound : (({} : Store).userByToken (some "d") none (run moving {}).2).1 =
      .ok (some ⟨"a", "b", true⟩) := by rfl
  obtain ⟨x, hx⟩ := (hagree.listings {} list v' hlist).owners {} _ _ _ _ (Prod.ext hfound rfl)
  exact ⟨⟨rfl, hmeets⟩, list, v', hlist, x, hx.listed,
    (congrArg Identity.username hx.identity).symm, hx.found⟩

/-- Nobody is listed, and yet a lookup by a lone surrogate does not say that there is no such user. -/
theorem views_disagree :
    let t : Text := [⟨0xD800, by decide⟩]
    Meets {} [] {} ∧ (({} : Store).users {}).1 = .ok [] ∧
      (({} : Store).userById (some t) {}).1 = .error (Cause.unencodable 0 t : Failure) ∧
      ¬∃ v', ({} : Store).userById (some t) {} = (.error (Cause.noSuchUser : Failure), v') := by
  intro t
  have hrefused : (({} : Store).userById (some t) {}).1 =
      .error (Cause.unencodable 0 t : Failure) := by rfl
  refine ⟨.between [], by decide +kernel, hrefused, ?_⟩
  rintro ⟨v', h⟩
  rw [h] at hrefused
  cases hrefused

end Event

end BearerAccess
