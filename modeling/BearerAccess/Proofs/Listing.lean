import BearerAccess.Proofs.Admission
import BearerAccess.Proofs.Age
import BearerAccess.Proofs.Disturbance
import BearerAccess.Proofs.Times

/-!
# Listings

A listing holds each of its rows once, in the order of creation or the other way round. The rows stand
in the tables in the order in which they were inserted. If the clock went on from each insert to the
next, then the stamps follow the same order, so that the listing is what has been inserted and not been
deleted since, as it came.
-/

namespace BearerAccess

variable {α : Type} {store : Store} {w v v' : World} {line : List (Int × Change)}

/-! ### The order of creation -/

/-- What was created at a time under an id comes no later than something else: it was created before
it, or at the same instant under an id whose bytes are no greater. -/
def ComesUpTo (a b : Option DateTime × String) : Prop :=
  ∃ i j, a.1.map DateTime.instant = some i ∧ b.1.map DateTime.instant = some j ∧
    (i < j ∨ i = j ∧ Tables.utf8Bytes a.2 ≤ Tables.utf8Bytes b.2)

def User.ComesUpTo (a b : User) : Prop :=
  BearerAccess.ComesUpTo (a.createdAt, a.userId) (b.createdAt, b.userId)

def Token.ComesUpTo (a b : Token) : Prop :=
  BearerAccess.ComesUpTo (a.createdAt, a.tokenId) (b.createdAt, b.tokenId)

lemma Stamp.text_lt_of_instant {d u : DateTime} (hd : d.Universal) (hu : u.Universal) :
    (ofDateTime d).text < (ofDateTime u).text ↔ d.instant < u.instant := by
  rw [← hu.isAfter_iff hd, Stamp.isAfter, decide_eq_true_iff]

/-- Stamps of the clock stand in the order of what the clock showed. -/
lemma text_lt_of_clock {clock clock' : Int} {s s' : Stamp} (h : stampAt? clock = some s)
    (h' : stampAt? clock' = some s') (hlt : clock < clock') : s.text < s'.text := by
  obtain ⟨d, -, hd, hinstant, rfl⟩ := stampAt?_eq_some h
  obtain ⟨u, -, hu, hinstant', rfl⟩ := stampAt?_eq_some h'
  rw [Stamp.text_lt_of_instant hd hu]
  omega

lemma sound_of_clock {clock : Int} {s : Stamp} (h : stampAt? clock = some s) : s.Sound := by
  obtain ⟨u, -, hu, -, rfl⟩ := stampAt?_eq_some h
  exact ⟨u, hu, rfl⟩

/-- The order in which rows are sorted is that of creation. -/
lemma comesUpTo_of_createdBefore {s s' : Stamp} {id id' : String} (hs : s.Sound) (hs' : s'.Sound)
    (h : Tables.createdBefore (s, id) (s', id') = true) :
    ComesUpTo (s.toDateTime?, id) (s'.toDateTime?, id') := by
  obtain ⟨d, hd, rfl⟩ := hs
  obtain ⟨u, hu, rfl⟩ := hs'
  refine ⟨d.instant, u.instant, (Stamp.reads_back hd).1, (Stamp.reads_back hu).1, ?_⟩
  obtain hlt | ⟨heq, hle⟩ := Tables.createdBefore_iff.mp h
  · exact .inl ((Stamp.text_lt_of_instant hd hu).mp hlt)
  · dsimp only at heq
    have hnot : ¬d.instant < u.instant := by
      rw [← Stamp.text_lt_of_instant hd hu, heq]
      exact String.lt_irrefl _
    have hnot' : ¬u.instant < d.instant := by
      rw [← Stamp.text_lt_of_instant hu hd, heq]
      exact String.lt_irrefl _
    exact .inr ⟨by omega, hle⟩

/-! ### What a history leaves, in order -/

namespace Change

instance (u : UserRow) : DecidablePred (EndsUser u)
  | removeUser id => inferInstanceAs (Decidable (u.id = id))
  | clear => .isTrue trivial
  | addUser _ | addToken _ | removeToken _ => .isFalse id

instance (k : TokenRow) : DecidablePred (EndsToken k)
  | removeUser id => inferInstanceAs (Decidable (k.userId = id))
  | removeToken id => inferInstanceAs (Decidable (k.id = id))
  | clear => .isTrue trivial
  | addUser _ | addToken _ => .isFalse id

/-- What a history adds and does not end later on, in the order of addition. -/
def left (added? : Change → Option α) (Ends : α → Change → Prop) [∀ a, DecidablePred (Ends a)] :
    List Change → List α
  | [] => []
  | c :: rest =>
    (added? c).toList.filter (fun a => ∀ later ∈ rest, ¬Ends a later) ++ left added? Ends rest

end Change

/-- Rows of one kind that each change filters, before it adds its own, are at the end those that were
there and those that were added, as far as nothing has ended them. -/
lemma Tables.part_after (part : Tables → List α) {added? : Change → Option α}
    {Ends : α → Change → Prop} [∀ a, DecidablePred (Ends a)]
    (hstep : ∀ t c, part (c.apply t) = (part t).filter (¬Ends · c) ++ (added? c).toList)
    (t : Tables) (history : List Change) : part (t.after history) =
      (part t).filter (fun a => ∀ c ∈ history, ¬Ends a c) ++ Change.left added? Ends history := by
  induction history generalizing t with
  | nil => simp [Change.left]
  | cons c rest ih =>
    rw [after_cons, ih, hstep, Change.left, List.filter_append, List.filter_filter,
      List.append_assoc]
    simp only [List.forall_mem_cons, Bool.decide_and, Bool.and_comm]

/-- The users that a history has added to empty tables and not deleted since. -/
def usersLeft (history : List Change) : List UserRow :=
  Change.left Change.user? Change.EndsUser history

def tokensLeft (history : List Change) : List TokenRow :=
  Change.left Change.token? Change.EndsToken history

lemma Tables.users_after (history : List Change) :
    (({} : Tables).after history).users = usersLeft history := by
  refine (part_after Tables.users (fun t c => ?_) {} history).trans (List.nil_append _)
  cases c with
  | removeUser id => exact (List.append_nil _).symm
  | _ => simp [Change.apply, Change.EndsUser, Change.user?, deleteToken]

lemma Tables.tokens_after (history : List Change) :
    (({} : Tables).after history).tokens = tokensLeft history := by
  refine (part_after Tables.tokens (fun t c => ?_) {} history).trans (List.nil_append _)
  cases c with
  | removeUser id => exact (List.append_nil _).symm
  | removeToken id => exact (List.append_nil _).symm
  | _ => simp [Change.apply, Change.EndsToken, Change.token?]

/-- What a timeline adds of one kind, each with what the clock showed. -/
def additions (added? : Change → Option α) (line : List (Int × Change)) : List (Int × α) :=
  line.filterMap fun x => (added? x.2).map (x.1, ·)

/-- The clock goes on from each addition of a kind to the next. -/
def InTurn (added? : Change → Option α) (line : List (Int × Change)) : Prop :=
  (additions added? line).Pairwise fun x y => x.1 < y.1

lemma left_sublist (added? : Change → Option α) (Ends : α → Change → Prop)
    [∀ a, DecidablePred (Ends a)] (line : List (Int × Change)) :
    (Change.left added? Ends (line.map Prod.snd)).Sublist ((additions added? line).map Prod.snd) := by
  induction line with
  | nil => exact List.Sublist.slnil
  | cons x rest ih =>
    have hhead : ((x :: rest).filterMap fun x => (added? x.2).map (x.1, ·)).map Prod.snd =
        (added? x.2).toList ++ (additions added? rest).map Prod.snd := by
      cases hx : added? x.2 with
      | none => simp [hx, additions]
      | some a => simp [hx, additions]
    rw [List.map_cons, Change.left, additions, hhead]
    exact List.filter_sublist.append ih

/-- What is left of rows that were added in turn has stamps that follow one another. -/
lemma InTurn.left {added? : Change → Option α} {Ends : α → Change → Prop}
    [∀ a, DecidablePred (Ends a)] {stamp : α → Stamp} (h : InTurn added? line)
    (hstamp : ∀ x ∈ line, ∀ a, added? x.2 = some a → stampAt? x.1 = some (stamp a)) :
    (Change.left added? Ends (line.map Prod.snd)).Pairwise
      fun a b => (stamp a).text < (stamp b).text := by
  refine List.Pairwise.sublist (left_sublist added? Ends line) ?_
  have hadded : ∀ y ∈ additions added? line, stampAt? y.1 = some (stamp y.2) := by
    intro y hy
    obtain ⟨x, hx, hmap⟩ := List.mem_filterMap.mp hy
    obtain ⟨a, ha, rfl⟩ := Option.map_eq_some_iff.mp hmap
    exact hstamp x hx a ha
  rw [List.pairwise_map]
  exact h.imp_of_mem fun ha hb hlt => text_lt_of_clock (hadded _ ha) (hadded _ hb) hlt

/-! ### The rows of a world -/

namespace Accounts

variable (h : Accounts line v)

include h

lemma users_left : v.stored.users = usersLeft (line.map Prod.snd) := by
  rw [h.stored, Tables.users_after]

lemma tokens_left : v.stored.tokens = tokensLeft (line.map Prod.snd) := by
  rw [h.stored, Tables.tokens_after]

lemma users_pairwise (hturn : InTurn Change.user? line) :
    v.stored.users.Pairwise fun a b => a.createdAt.text < b.createdAt.text := by
  rw [h.users_left]
  refine hturn.left fun x hx row hrow => ?_
  obtain ⟨clock, c⟩ := x
  cases c with
  | addUser added =>
    cases hrow
    exact h.stamped _ hx
  | _ => cases hrow

lemma tokens_pairwise (hturn : InTurn Change.token? line) :
    v.stored.tokens.Pairwise fun a b => a.createdAt.text < b.createdAt.text := by
  rw [h.tokens_left]
  refine hturn.left fun x hx row hrow => ?_
  obtain ⟨clock, c⟩ := x
  cases c with
  | addToken added =>
    cases hrow
    exact h.stamped _ hx
  | _ => cases hrow

lemma user_sound {u : UserRow} (hu : u ∈ v.stored.users) : u.createdAt.Sound := by
  obtain ⟨clock, -, hstamp⟩ := h.user_added hu
  exact sound_of_clock hstamp

lemma token_sound {k : TokenRow} (hk : k ∈ v.stored.tokens) : k.createdAt.Sound := by
  obtain ⟨clock, -, hstamp⟩ := h.token_added hk
  exact sound_of_clock hstamp

/-- A listing of the users holds every stored user once, in the order of creation. If they were
inserted in turn, it holds those who are left as they came. -/
lemma listed_users {list : List User} (hlist : store.users v = (.ok list, v')) :
    list.Perm (v.stored.users.map UserRow.toUser) ∧ (list.map User.userId).Nodup ∧
      list.Pairwise User.ComesUpTo ∧
      (InTurn Change.user? line → list = (usersLeft (line.map Prod.snd)).map UserRow.toUser) := by
  obtain ⟨rfl, -⟩ := Store.users_ok hlist
  have hperm : v.stored.usersByAge.Perm v.stored.users := List.mergeSort_perm _ _
  have hids : (v.stored.usersByAge.map (·.id)).Nodup :=
    (hperm.map _).nodup_iff.mpr h.consistent.userIds
  refine ⟨hperm.map _, ?_, ?_, fun hturn => ?_⟩
  · rw [List.map_map]
    exact hids
  · rw [List.pairwise_map]
    refine (Tables.createdBefore_linear.pairwise_mergeSort _).imp_of_mem fun ha hb hab => ?_
    have hcreated := comesUpTo_of_createdBefore (h.user_sound (List.mem_mergeSort.mp ha))
      (h.user_sound (List.mem_mergeSort.mp hb)) hab
    exact hcreated
  · rw [← h.users_left]
    refine congrArg _ (List.mergeSort_of_pairwise ((h.users_pairwise hturn).imp fun hlt => ?_))
    exact Tables.createdBefore_iff.mpr (.inl hlt)

/-- A listing of the tokens of a user holds every one of them once, and nobody else's, against the
order of creation. If they were inserted in turn, it holds those that are left, the last one first. -/
lemma listed_tokens {userId : Option Text} {list : List Token}
    (hlist : store.tokensOf userId v = (.ok list, v')) :
    list.Perm ((v.stored.tokens.filter (some ·.userId = stored? userId)).map TokenRow.toToken) ∧
      (list.map Token.tokenId).Nodup ∧ list.Pairwise (fun a b => b.ComesUpTo a) ∧
      (InTurn Change.token? line → list =
        ((tokensLeft (line.map Prod.snd)).filter (some ·.userId = stored? userId)).reverse.map
          TokenRow.toToken) := by
  obtain ⟨rfl, -⟩ := Store.tokensOf_ok hlist
  have hperm : (v.stored.tokensOf (stored? userId)).Perm
      (v.stored.tokens.filter (some ·.userId = stored? userId)) := List.mergeSort_perm _ _
  have hids : ((v.stored.tokens.filter (some ·.userId = stored? userId)).map (·.id)).Nodup :=
    Tables.nodup_map_filter _ h.consistent.tokenIds
  have hlistedIds : ((v.stored.tokensOf (stored? userId)).map (·.id)).Nodup :=
    (hperm.map _).nodup_iff.mpr hids
  have hsound {k : TokenRow} (hk : k ∈ v.stored.tokensOf (stored? userId)) : k.createdAt.Sound :=
    h.token_sound (List.mem_filter.mp (hperm.mem_iff.mp hk)).1
  refine ⟨hperm.map _, ?_, ?_, fun hturn => ?_⟩
  · rw [List.map_map]
    exact hlistedIds
  · rw [List.pairwise_map]
    refine (Tables.createdBefore_linear.flip.pairwise_mergeSort _).imp_of_mem fun ha hb hab => ?_
    have hcreated := comesUpTo_of_createdBefore (hsound hb) (hsound ha) hab
    exact hcreated
  · rw [← h.tokens_left]
    refine congrArg _ (Tables.createdBefore_linear.mergeSort_flip_of_pairwise
      (Tables.nodup_keys hids) (((h.tokens_pairwise hturn).filter _).imp fun hlt => ?_))
    exact Tables.createdBefore_iff.mpr (.inl hlt)

end Accounts

/-! ### Listings that are answered -/

lemma Store.users_of_readable (h : ¬Unreadable (store.faults v.tasks) v.database) :
    ∃ rows v', v.database.rows? = some rows ∧
      store.users v = (.ok (rows.usersByAge.map UserRow.toUser), v') :=
  operate_of_readable h rfl

lemma Store.tokensOf_of_readable (h : ¬Unreadable (store.faults v.tasks) v.database)
    {userId : Option Text} (hid : surrogates? userId = none) :
    ∃ list v', store.tokensOf userId v = (.ok list, v') := by
  have hquery : (some ⟨.tokensOf, userId⟩ : Option Query).bind (textObstacle? ·.subject) = none := by
    rw [Option.bind_some, textObstacle?, hid]
    rfl
  obtain ⟨rows, v', -, hlist⟩ := operate_of_readable h hquery
  exact ⟨_, v', hlist⟩

lemma Store.not_unreadable {tasks : Nat} (h : v.database.rows?.isSome) :
    ¬Unreadable (({} : Store).faults tasks) v.database := by
  rintro ((hquery | hflush | hcommit) | hrows)
  · cases hquery
  · cases hflush
  · cases hcommit
  · rw [hrows] at h
    cases h

namespace Service

variable {r : Request} {secret : Text} {u : UserRow}

/-- Staff who ask for the users get the listing. -/
lemma answer_listUsers (hv : v.Working) (hr : r.Guarded .listUsers .staffOnly)
    (hoffers : r.Offers secret) (hspeaks : v.Speaks secret u) (hstaff : u.isStaff = true)
    (tokenName : Label) : ∃ list v', ({} : Store).users v = (.ok list, v') ∧
      (answer {} tokenName r v).1 =
        .document 200 (.record [("users", .array (list.map (·.toDatum.shown)))]) := by
  have hresponse := answer_of_speaker hv hr tokenName hoffers hspeaks
  dsimp only at hresponse
  rw [if_neg (by rw [hstaff]; exact fun h => Bool.noConfusion h.2)] at hresponse
  obtain ⟨w₁, hcaller, hresponse, -, -⟩ := hresponse
  have hdatabase : w₁.database = v.database :=
    (World.database_of_ground ((findCaller_quiet _ _).ground_eq hcaller)).trans (database_begun _ v)
  obtain ⟨rows, v', hrows, hlist⟩ := Store.users_of_readable (Store.not_unreadable hv.rows)
  obtain ⟨rows', w₂, hrows', hlist'⟩ :=
    Store.users_of_readable (v := w₁) (Store.not_unreadable (hdatabase ▸ hv.rows))
  obtain rfl : rows' = rows := by
    rw [hdatabase, hrows] at hrows'
    exact (Option.some.inj hrows').symm
  refine ⟨_, v', hlist, ?_⟩
  rw [hresponse, act, Handler.bind_apply, Handler.perform_of_ok hlist']
  rfl

end Service

/-! ### Listings of a run -/

namespace Event

/-- Listings are complete and in the order of creation. In whatever store a run from empty tables
meets, the listing of the users holds every stored user once, by the instant of creation and then by
the bytes of the id; that of the tokens of a user holds each of these once, and no other, the other
way round. If the clock has gone on from each insert of a user to the next, then the users listed are
those who have been added and not deleted, as they came; so it is with tokens, the last one first.
Where the rows can be read there is a listing, and staff who ask for the users get it. -/
theorem listings_by_creation {w v : World} {line : List (Int × Change)} (hempty : w.stored = {})
    (hmeets : Meets w line v) :
    (∀ (store : Store) list v', store.users v = (.ok list, v') →
      list.Perm (v.stored.users.map UserRow.toUser) ∧ (list.map User.userId).Nodup ∧
        list.Pairwise User.ComesUpTo ∧
        (InTurn Change.user? line → list = (usersLeft (line.map Prod.snd)).map UserRow.toUser)) ∧
    (∀ (store : Store) userId list v', store.tokensOf userId v = (.ok list, v') →
      list.Perm ((v.stored.tokens.filter (some ·.userId = stored? userId)).map TokenRow.toToken) ∧
        (list.map Token.tokenId).Nodup ∧ list.Pairwise (fun a b => b.ComesUpTo a) ∧
        (InTurn Change.token? line → list =
          ((tokensLeft (line.map Prod.snd)).filter (some ·.userId = stored? userId)).reverse.map
            TokenRow.toToken)) ∧
    (∀ store : Store, ¬Store.Unreadable (store.faults v.tasks) v.database →
      (∃ list v', store.users v = (.ok list, v')) ∧
        ∀ userId, surrogates? userId = none → ∃ list v', store.tokensOf userId v = (.ok list, v')) ∧
    ∀ r secret u, v.Working → Request.Guarded r .listUsers .staffOnly → r.Offers secret →
      v.Speaks secret u → u.isStaff = true → ∀ tokenName, ∃ list v',
        ({} : Store).users v = (.ok list, v') ∧
          (Service.answer {} tokenName r v).1 =
            .document 200 (.record [("users", .array (list.map (·.toDatum.shown)))]) := by
  have haccounts := hmeets.accounts hempty
  refine ⟨fun store list v' => haccounts.listed_users,
    fun store userId list v' => haccounts.listed_tokens, fun store hreadable => ⟨?_, ?_⟩,
    fun r secret u hv hr hoffers hspeaks hstaff tokenName =>
      Service.answer_listUsers hv hr hoffers hspeaks hstaff tokenName⟩
  · obtain ⟨rows, v', -, hlist⟩ := Store.users_of_readable hreadable
    exact ⟨_, v', hlist⟩
  · exact fun userId hid => Store.tokensOf_of_readable hreadable hid

/-- After b three more events: two users who come in turn, with ids before a, and the first of them
is deleted. -/
def gathering : List (Mishaps × Event) :=
  moving ++ [.tick 1, .call (.insertUser (some "B") (some "f") .unset), .tick 1,
    .call (.insertUser (some "A") (some "g") .unset), .call (.deleteUser (some "B"))].map
      fun e => (({} : Mishaps), e)

lemma gathering_working : (run gathering {}).2.Working := by
  refine ⟨⟨gathering, {}, rfl, fun e he => ?_, rfl⟩, by decide +kernel, by decide +kernel⟩
  unfold gathering at he
  obtain he | he := List.mem_append.mp he
  · exact moving_timely e he
  · obtain ⟨later, hlater, rfl⟩ := List.mem_map.mp he
    simp only [List.mem_cons, List.not_mem_nil, or_false] at hlater
    obtain rfl | rfl | rfl | rfl | rfl := hlater <;> trivial

/-- The user b asks for the users. -/
def everybody : Request :=
  { method := "GET", path := "/users", authorization := some (Text.ofString "Bearer d") }

lemma everybody_guarded : everybody.Guarded .listUsers .staffOnly := by
  refine ⟨?_, rfl, rfl, ?_⟩
  · rw [show upperCase everybody.method = "GET" by decide +kernel]
    exact .listUsers
  · rintro _ ⟨⟩ p hp
    exact Text.isSurrogate_of_mem_ofString hp

/-- The users who are left are listed as they came, though their ids stand the other way round. -/
theorem listings_by_creation_gathering :
    (({} : World).stored = {} ∧ Meets {} (timeline gathering {}) (run gathering {}).2 ∧
      InTurn Change.user? (timeline gathering {}) ∧ (run gathering {}).2.Working) ∧
    ∃ list : List User, list.map (·.userId) = ["a", "A"] ∧
      (Service.answer {} .missing everybody (run gathering {}).2).1 =
        .document 200 (.record [("users", .array (list.map (·.toDatum.shown)))]) := by
  have hmeets : Meets {} (timeline gathering {}) (run gathering {}).2 := .between gathering
  have hturn : InTurn Change.user? (timeline gathering {}) := by
    unfold InTurn
    decide +kernel
  refine ⟨⟨rfl, hmeets, hturn, gathering_working⟩, ?_⟩
  obtain ⟨hlists, -, -, hanswer⟩ := listings_by_creation rfl hmeets
  obtain ⟨u, hu, hidentity⟩ : ∃ u, (run gathering {}).2.Speaks "d" u ∧
      u.toIdentity = ⟨"a", "b", true⟩ := by
    refine Service.speaks_of_found gathering_working ?_ (by decide +kernel)
    rw [Text.toString?_ofString]
    rfl
  have hstaff : u.isStaff = true := congrArg Identity.isStaff hidentity
  have hoffers : everybody.Offers "d" := ⟨_, rfl, bearerSecret_iff.mp (by decide +kernel)⟩
  obtain ⟨list, v', hlist, hresponse⟩ := hanswer everybody "d" u gathering_working
    everybody_guarded hoffers hu hstaff .missing
  refine ⟨list, ?_, hresponse⟩
  obtain ⟨-, -, -, horder⟩ := hlists {} list v' hlist
  have hleft : (usersLeft ((timeline gathering {}).map Prod.snd)).map UserRow.id = ["a", "A"] := by
    decide +kernel
  rw [horder hturn, List.map_map]
  exact hleft

end Event

end BearerAccess
