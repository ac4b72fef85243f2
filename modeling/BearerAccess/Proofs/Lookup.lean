import BearerAccess.Proofs.Expiry
import Mathlib.Data.List.Nodup

/-!
# Lookups of secrets

A secret speaks for the user that the history of the store gives it: the owner of the token that was
added with it, as long as nothing has ended the token since.
-/

namespace BearerAccess

/-! ### Among consistent rows -/

namespace Tables

variable {t : Tables} {secret : Option String} {now : Stamp} {u : UserRow}

lemma ownerOfSecret?_some (h : t.ownerOfSecret? secret now = some u) :
    ∃ k ∈ t.tokens, some k.secret = secret ∧ k.expiresAt.all (·.isAfter now) = true ∧ u ∈ t.users ∧
      u.id = k.userId := by
  obtain ⟨k, hk, hfound⟩ := List.exists_of_findSome?_eq_some h
  by_cases hlive : some k.secret = secret ∧ k.expiresAt.all (·.isAfter now) = true
  · rw [if_pos hlive] at hfound
    have hid := List.find?_some hfound
    exact ⟨k, hk, hlive.1, hlive.2, List.mem_of_find?_eq_some hfound, of_decide_eq_true hid⟩
  · rw [if_neg hlive] at hfound
    cases hfound

/-- Among consistent rows a secret belongs to one token, and the token to one user. -/
lemma ownerOfSecret?_iff (h : t.Consistent) : t.ownerOfSecret? secret now = some u ↔
    ∃ k ∈ t.tokens, some k.secret = secret ∧ k.expiresAt.all (·.isAfter now) = true ∧ u ∈ t.users ∧
      u.id = k.userId := by
  refine ⟨ownerOfSecret?_some, ?_⟩
  rintro ⟨k, hk, rfl, hlive, hu, hid⟩
  cases hfound : t.ownerOfSecret? (some k.secret) now with
  | none =>
    have hnone := List.findSome?_eq_none_iff.mp hfound k hk
    rw [if_pos ⟨rfl, hlive⟩, List.find?_eq_none] at hnone
    exact absurd (decide_eq_true hid) (hnone u hu)
  | some v =>
    obtain ⟨l, hl, hsecret, -, hv, hvid⟩ := ownerOfSecret?_some hfound
    have hlk : l = k := List.inj_on_of_nodup_map h.secrets hl hk (Option.some.inj hsecret)
    rw [hlk, ← hid] at hvid
    rw [List.inj_on_of_nodup_map h.userIds hv hu hvid]

end Tables

/-! ### Lookups that nothing disturbs -/

lemma textObstacle?_of_stored {t : Option Text} {s : String} (h : stored? t = some s) :
    textObstacle? t = none := by
  cases t with
  | none => cases h
  | some t =>
    have hs : t.toString?.isSome = true := by
      rw [show t.toString? = some s from h, Option.isSome_some]
    rw [textObstacle?, surrogates?, Option.bind_some, if_pos hs, Option.map_none]

namespace Store

variable {store : Store} {w : World}

lemma operate_reads {α : Type} {name : String} {query : Query} {read : Tables → α} {rows : Tables}
    (hfaults : store.faults w.tasks = {}) (hrows : w.database.rows? = some rows)
    (hquery : textObstacle? query.subject = none) :
    (store.operate name (some query) (fun rows => reading (read rows)) w).1 = .ok (read rows) := by
  have hdb : w.assigned.connect.2.database = w.database :=
    World.database_of_ground (World.ground_connect _)
  have hput (c : Connection) : (putQuery (some rows) (some query) c).1 = .ok rows := by
    simp only [putQuery, Option.bind_some, hquery]
  have hup : w.assigned.database.reachable = true := Database.reachable_of_rows hrows
  unfold operate
  simp only [Action.bind_apply, Action.get_apply, Action.modify_apply, hfaults]
  rw [if_neg (by simp [hup])]
  simp only [Action.bind_apply, Action.get_apply, Action.modify_apply, Action.modifyGet_apply, hdb,
    hrows, hput, reading]
  rfl

lemma userByToken_iff {secret : Option Text} {now : Option DateTime} {stamp : Stamp} {rows : Tables}
    {identity : Identity} (hfaults : store.faults w.tasks = {})
    (hrows : w.database.rows? = some rows) (hasked : w.askedAt? now = some stamp) :
    (store.userByToken secret now w).1 = .ok (some identity) ↔
      ∃ u, rows.ownerOfSecret? (stored? secret) stamp = some u ∧ identity = u.toIdentity := by
  constructor
  · intro h
    obtain ⟨rows', stamp', hrows', hasked', hfound⟩ :=
      userByToken_ok (Prod.ext h rfl : store.userByToken secret now w = (.ok (some identity), _))
    rw [hrows] at hrows'
    rw [hasked] at hasked'
    cases hrows'
    cases hasked'
    obtain ⟨u, hu, hidentity⟩ := Option.map_eq_some_iff.mp hfound.symm
    exact ⟨u, hu, hidentity.symm⟩
  · rintro ⟨u, hu, rfl⟩
    obtain ⟨k, -, hk, -⟩ := Tables.ownerOfSecret?_some hu
    obtain ⟨-, hnone⟩ | ⟨n, hmoment, hn⟩ := moment_cases now w
    · rw [hasked] at hnone
      cases hnone
    · rw [hasked] at hn
      cases hn
      unfold userByToken
      rw [Action.bind_apply, hmoment]
      refine (operate_reads hfaults hrows (textObstacle?_of_stored hk.symm)).trans ?_
      rw [hu, Option.map_some]

end Store

/-! ### In a history -/

/-- A user was added and later a token of this user, and neither has been removed since. -/
def Holds (history : List Change) (u : UserRow) (k : TokenRow) : Prop :=
  u.id = k.userId ∧ ∃ before between later,
    history = before ++ .addUser u :: between ++ .addToken k :: later ∧
      (∀ c ∈ between, ¬c.EndsUser u) ∧ ∀ c ∈ later, ¬c.EndsToken k

lemma Change.endsToken_of_endsUser {c : Change} {u : UserRow} {k : TokenRow} (hid : u.id = k.userId)
    (h : c.EndsUser u) : c.EndsToken k := by
  cases c with
  | removeUser id => exact hid.symm.trans h
  | clear => trivial
  | addUser row => cases h
  | addToken row => cases h
  | removeToken id => cases h

/-- The users and tokens that a history has left are those that hold in it. -/
lemma holds_iff {history : List Change} (h : ({} : Tables).Admits history) {u : UserRow}
    {k : TokenRow} : Holds history u k ↔
      k ∈ (({} : Tables).after history).tokens ∧ u ∈ (({} : Tables).after history).users ∧
        u.id = k.userId := by
  constructor
  · rintro ⟨hid, before, between, later, rfl, hbetween, hlater⟩
    refine ⟨Tables.mem_tokens_after.mpr (.inr ⟨_, later, rfl, hlater⟩), ?_, hid⟩
    refine Tables.mem_users_after.mpr (.inr ⟨before, between ++ .addToken k :: later, ?_, ?_⟩)
    · rw [List.append_assoc, List.cons_append]
    · intro c hc
      obtain hc | hc := List.mem_append.mp hc
      · exact hbetween c hc
      · obtain rfl | hc := List.mem_cons.mp hc
        · exact id
        · exact fun hends => hlater c hc (Change.endsToken_of_endsUser hid hends)
  · rintro ⟨hk, hu, hid⟩
    have hconsistent := Tables.consistent_empty.after h
    obtain ⟨hnone, -⟩ | ⟨earlier, later, rfl, hlater⟩ := Tables.mem_tokens_after.mp hk
    · cases hnone
    -- The token fitted when it was added, so its owner was there; it has not gone without the token.
    obtain ⟨hearlier, ⟨-, v, hv, hvid⟩, -⟩ := Tables.admits_append.mp h
    obtain ⟨hnone, -⟩ | ⟨before, between, rfl, hbetween⟩ := Tables.mem_users_after.mp hv
    · cases hnone
    have hstays : v ∈ (({} : Tables).after
        (before ++ .addUser v :: between ++ .addToken k :: later)).users := by
      rw [Tables.after_append, Tables.mem_users_after]
      refine .inl ⟨hv, fun c hc => ?_⟩
      obtain rfl | hc := List.mem_cons.mp hc
      · exact id
      · exact fun hends => hlater c hc (Change.endsToken_of_endsUser hvid hends)
    have hvu : v = u :=
      List.inj_on_of_nodup_map hconsistent.userIds hstays hu (hvid.trans hid.symm)
    subst hvu
    exact ⟨hid, before, between, later, rfl, hbetween, hlater⟩

lemma Holds.mem {history : List Change} {u : UserRow} {k : TokenRow} (h : Holds history u k) :
    .addToken k ∈ history := by
  obtain ⟨-, before, between, later, rfl, -, -⟩ := h
  exact List.mem_append_right _ List.mem_cons_self

/-- A secret authenticates exactly as the history says. It speaks for a user just if a token with
this secret was added for the user, neither of the two has been removed since, and the token has no
expiry or one after the moment that is asked about. -/
theorem Event.userByToken_iff_history {events : List (Mishaps × Event)} {w : World}
    (hempty : w.stored = {}) (htimely : ∀ e ∈ events, e.2.Timely)
    (htables : (run events w).2.database.rows?.isSome) {now : DateTime} (hnow : now.Valid)
    (hconvertible : now.toUniversal?.isSome) (secret : Text) (identity : Identity) :
    (({} : Store).userByToken (some secret) (some now) (run events w).2).1 = .ok (some identity) ↔
      ∃ u k, Holds (history events w) u k ∧ secret = Text.ofString k.secret ∧
        k.toToken.LiveAt now.instant ∧ identity = u.toIdentity := by
  obtain ⟨rows, hrows⟩ := Option.isSome_iff_exists.mp htables
  obtain ⟨n, hn⟩ := Option.isSome_iff_exists.mp hconvertible
  obtain ⟨huniversal, hinstant⟩ := DateTime.toUniversal?_spec hnow hn
  have hasked : (run events w).2.askedAt? (some now) = some (Stamp.ofDateTime n) := by
    rw [World.askedAt?, hn, Option.map_some]
  obtain ⟨-, hadmits, hstored⟩ := run_follows events w
  have hconsistent : (run events w).2.stored.Consistent := run_consistent hempty
  have hfinal : (run events w).2.stored = rows := by
    rw [World.stored, Database.tables_of_rows hrows, Option.getD_some]
  rw [hempty] at hadmits hstored
  rw [hfinal] at hconsistent hstored
  have hlive : ∀ {u k}, Holds (history events w) u k → (k.toToken.LiveAt now.instant ↔
      k.expiresAt.all (·.isAfter (.ofDateTime n)) = true) := by
    intro u k hholds
    rw [← hinstant]
    exact TokenRow.liveAt_iff (history_dated htimely w _ hholds.mem) huniversal
  rw [Store.userByToken_iff rfl hrows hasked]
  constructor
  · rintro ⟨u, hu, rfl⟩
    obtain ⟨k, hk, hsecret, hexpiry, hu, hid⟩ := Tables.ownerOfSecret?_some hu
    rw [hstored] at hk hu
    have hholds := (holds_iff hadmits).mpr ⟨hk, hu, hid⟩
    exact ⟨u, k, hholds, (ofString_of_stored hsecret.symm).symm, (hlive hholds).mpr hexpiry, rfl⟩
  · rintro ⟨u, k, hholds, rfl, hexpiry, rfl⟩
    obtain ⟨hk, hu, hid⟩ := (holds_iff hadmits).mp hholds
    rw [← hstored] at hk hu
    refine ⟨u, ?_, rfl⟩
    rw [stored?_ofString, Tables.ownerOfSecret?_iff hconsistent]
    exact ⟨k, hk, rfl, (hlive hholds).mp hexpiry, hu, hid⟩

def endOfYear (year : Nat) : DateTime := ⟨year, 12, 31, 23, 59, 59, 999999, some 0⟩

/-- A user called b is stored, with a token d until the end of 2030. -/
def Event.moving : List (Mishaps × Event) :=
  [({}, .block [(.insertUser (some "a") (some "b") (.value true), false),
    (.insertToken (some "c") (some "a") (some "d") (.text "e") (some (endOfYear 2030)), false)])]

lemma Event.moving_timely : ∀ e ∈ moving, e.2.Timely := by
  intro e he
  rw [List.mem_singleton.mp he]
  intro step hstep
  obtain rfl | hstep := List.mem_cons.mp hstep
  · trivial
  · rw [List.mem_singleton.mp hstep]
    rintro _ ⟨⟩
    decide

/-- The token of b speaks for b at the end of 2029. -/
theorem Event.userByToken_iff_history_moving :
    (({} : World).stored = {} ∧ ∀ e ∈ moving, e.2.Timely) ∧
      ((run moving {}).2.database.rows?.isSome ∧ (endOfYear 2029).Valid ∧
        (endOfYear 2029).toUniversal?.isSome) ∧
      ∃ u k, Holds (history moving {}) u k ∧ "d" = Text.ofString k.secret ∧
        k.toToken.LiveAt (endOfYear 2029).instant ∧ ⟨"a", "b", true⟩ = u.toIdentity := by
  have htables : (run moving {}).2.database.rows?.isSome := by rfl
  have hvalid : (endOfYear 2029).Valid := by decide
  have hconvertible : (endOfYear 2029).toUniversal?.isSome := by decide +kernel
  refine ⟨⟨rfl, moving_timely⟩, ⟨htables, hvalid, hconvertible⟩, ?_⟩
  exact (userByToken_iff_history rfl moving_timely htables hvalid hconvertible _ _).mp rfl

end BearerAccess
