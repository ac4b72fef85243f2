import BearerAccess.Proofs.Entry
import BearerAccess.Proofs.Expired

/-!
# The order of entries

The rows that entries leave are those that were there and those that they add, whatever the order. So
they keep to the constraints in every order if they do so in one, and no constraint but that of the
owner of a token can tell what came first. No lookup and no listing tells in which order the rows stand.
-/

namespace BearerAccess

variable {t t' rows : Tables} {now : Option Stamp} {c d : Change} {e later : Entry}
  {entries others : List Entry}

/-! ### Rows in another order -/

namespace Tables

/-- Consistent rows, and the same rows in another order. -/
structure Reordered (t t' : Tables) : Prop where
  consistent : t.Consistent
  users : t.users.Perm t'.users
  tokens : t.tokens.Perm t'.tokens

namespace Reordered

lemma consistent' (h : t.Reordered t') : t'.Consistent where
  userIds := (h.users.map _).nodup_iff.mp h.consistent.userIds
  usernames := (h.users.map _).nodup_iff.mp h.consistent.usernames
  tokenIds := (h.tokens.map _).nodup_iff.mp h.consistent.tokenIds
  secrets := (h.tokens.map _).nodup_iff.mp h.consistent.secrets
  owned k hk := by
    obtain ⟨u, hu, hid⟩ := h.consistent.owned k (h.tokens.mem_iff.mpr hk)
    exact ⟨u, h.users.mem_iff.mp hu, hid⟩

lemma sameLive (h : t.Reordered t') (now : Option Stamp) : t.SameLive now t' :=
  ⟨h.consistent, h.consistent', fun _ => h.users.mem_iff, fun _ _ _ _ => h.tokens.mem_iff⟩

lemma userByUsername? (h : t.Reordered t') (username : Option String) :
    t'.userByUsername? username = t.userByUsername? username := by
  refine Option.ext fun u => ?_
  rw [Tables.userByUsername?, Tables.userByUsername?, find?_iff_of_nodup h.consistent'.usernames,
    find?_iff_of_nodup h.consistent.usernames, h.users.mem_iff]

lemma usersByAge (h : t.Reordered t') : t'.usersByAge = t.usersByAge :=
  (usersByAge_eq_of_mem h.consistent h.consistent' fun _ => h.users.mem_iff).symm

lemma tokensOf (h : t.Reordered t') (userId : Option String) :
    t'.tokensOf userId = t.tokensOf userId := by
  refine createdBefore_linear.flip.mergeSort_eq_of_mem (nodup_keys ?_) (nodup_keys ?_) fun k => ?_
  · exact nodup_map_filter _ h.consistent'.tokenIds
  · exact nodup_map_filter _ h.consistent.tokenIds
  · rw [List.mem_filter, List.mem_filter, h.tokens.mem_iff]

end Reordered

/-- What is added in another order leaves the same rows. -/
lemma after_reordered {changes more : List Change} (hadds : ∀ c ∈ changes, c.Adds)
    (hperm : changes.Perm more) (h : (t.after changes).Consistent) :
    (t.after changes).Reordered (t.after more) := by
  have hadds' : ∀ c ∈ more, c.Adds := fun c hc => hadds c (hperm.mem_iff.mpr hc)
  refine ⟨h, ?_, ?_⟩
  · rw [after_of_adds hadds, after_of_adds hadds']
    exact (hperm.filterMap _).append_left _
  · rw [after_of_adds hadds, after_of_adds hadds']
    exact (hperm.filterMap _).append_left _

end Tables

/-! ### Changes in another order -/

/-- A token is given to the user that another change adds. -/
def Change.OwnedBy : Change → Change → Prop
  | addToken k, addUser u => u.id = k.userId
  | _, _ => False

namespace Tables

lemma ne_of_nodup_map {ι κ : Type} {key : ι → κ} {before after : List ι} {x : ι}
    (h : ((before ++ [x] ++ after).map key).Nodup) : ∀ y ∈ before, key y ≠ key x := by
  intro y hy heq
  rw [List.append_assoc, List.map_append, List.nodup_append] at h
  exact h.2.2 (key y) (List.mem_map_of_mem hy) (key x)
    (List.mem_map_of_mem (List.mem_append_left _ (List.mem_singleton_self x))) heq

/-- Rows that are added fit if all are consistent in the end and no token comes before its owner: what
is unique in the end has been so before, and an owner who is there in the end cannot have come later. -/
lemma admits_of_consistent {changes : List Change} (hadds : ∀ c ∈ changes, c.Adds)
    (howners : changes.Pairwise fun c later => ¬c.OwnedBy later)
    (h : (t.after changes).Consistent) : t.Admits changes := by
  induction changes generalizing t with
  | nil => trivial
  | cons c rest ih =>
    obtain ⟨hc, hrest⟩ := List.forall_mem_cons.mp hadds
    obtain ⟨hfirst, hlater⟩ := List.pairwise_cons.mp howners
    refine ⟨?_, ih hrest hlater h⟩
    rw [after_cons, after_of_adds hrest] at h
    cases c with
    | addUser row =>
      exact fun u hu => ⟨ne_of_nodup_map h.usernames u hu, ne_of_nodup_map h.userIds u hu⟩
    | addToken row =>
      refine ⟨fun k hk => ⟨ne_of_nodup_map h.secrets k hk, ne_of_nodup_map h.tokenIds k hk⟩, ?_⟩
      have hrow : row ∈ t.tokens ++ [row] ++ rest.filterMap Change.token? :=
        List.mem_append_left _ (List.mem_append_right _ (List.mem_singleton_self row))
      obtain ⟨u, hu, hid⟩ := h.owned row hrow
      obtain hu | hu := List.mem_append.mp hu
      · exact ⟨u, hu, hid⟩
      · obtain ⟨d, hd, hadded⟩ := List.mem_filterMap.mp hu
        cases d with
        | addUser owner =>
          cases hadded
          exact absurd hid (hfirst _ hd)
        | _ => cases hadded
    | removeUser id => exact hc.elim
    | removeToken id => exact hc.elim
    | clear => exact hc.elim

end Tables

/-! ### Entries in another order -/

namespace Entry

/-- A token is given to the user that another entry inserts. -/
def OwnedBy : Entry → Entry → Prop
  | token _ userId _ _ _, user id _ _ => userId = id
  | _, _ => False

instance : DecidableRel OwnedBy
  | token _ userId _ _ _, user id _ _ => inferInstanceAs (Decidable (userId = id))
  | token .., token .. | user .., user .. | user .., token .. => .isFalse id

/-- No token is inserted before its owner. -/
def OwnersFirst (entries : List Entry) : Prop := entries.Pairwise fun e later => ¬e.OwnedBy later

instance (entries : List Entry) : Decidable (OwnersFirst entries) :=
  inferInstanceAs (Decidable (entries.Pairwise fun e later => ¬e.OwnedBy later))

lemma changes_adds : ∀ c ∈ changes now entries, c.Adds := by
  intro c hc
  obtain ⟨e, -, he⟩ := List.mem_filterMap.mp hc
  cases e with
  | user id username isStaff =>
    obtain ⟨row, rfl, -⟩ := change?_user he
    trivial
  | token id userId secret name expiresAt =>
    obtain ⟨-, row, rfl, -⟩ := change?_token he
    trivial

lemma ownedBy_of_change (hc : e.change? now = some c) (hd : later.change? now = some d)
    (h : c.OwnedBy d) : e.OwnedBy later := by
  cases e with
  | user id username isStaff =>
    obtain ⟨row, rfl, -⟩ := change?_user hc
    exact h.elim
  | token id userId secret name expiresAt =>
    obtain ⟨-, k, rfl, -, -, howner, -⟩ := change?_token hc
    cases later with
    | user id username isStaff =>
      obtain ⟨u, rfl, -, hid, -⟩ := change?_user hd
      exact stored?_injective howner (hid.trans (congrArg some h))
    | token id userId secret name expiresAt =>
      obtain ⟨-, l, rfl, -⟩ := change?_token hd
      exact h.elim

lemma OwnersFirst.changes (h : OwnersFirst entries) :
    (changes now entries).Pairwise fun c later => ¬c.OwnedBy later :=
  h.filterMap _ fun _ _ hfirst _ hc _ hd howned => hfirst (ownedBy_of_change hc hd howned)

/-- Entries that fit consistent rows fit them in every order that has the owners first, and leave the
same rows. -/
lemma Fit.reordered (h : Fit now rows entries) (hrows : rows.Consistent)
    (hperm : others.Perm entries) (howners : OwnersFirst others) :
    Fit now rows others ∧ (added now rows entries).Reordered (added now rows others) := by
  have hreordered : (added now rows entries).Reordered (added now rows others) :=
    Tables.after_reordered changes_adds (hperm.symm.filterMap _) (hrows.after h.admits)
  refine ⟨⟨fun e he => h.adds e (hperm.mem_iff.mp he), ?_⟩, hreordered⟩
  exact Tables.admits_of_consistent changes_adds howners.changes hreordered.consistent'

end Entry

/-! ### Lookups and listings -/

/-- A lookup of a user by id, by username or by a secret, or a listing. -/
inductive Call.Looks : Call → Prop where
  | userById (id : Option Text) : Looks (.userById id)
  | userByUsername (username : Option Text) : Looks (.userByUsername username)
  | userByToken (secret : Option Text) (now : Option DateTime) : Looks (.userByToken secret now)
  | authenticate (secret : Option Text) (now : Option DateTime) : Looks (.authenticate secret now)
  | users : Looks .users
  | tokensOf (userId : Option Text) : Looks (.tokensOf userId)

/-- Lookups and listings do not tell in which order the rows stand. -/
lemma Call.Looks.perform_fst {call : Call} (h : call.Looks) {store : Store} {w v : World}
    (hrows : w.database.rows? = some t) (hrows' : v.database.rows? = some t')
    (htasks : v.tasks = w.tasks) (hclock : v.clock = w.clock) (hsame : t.Reordered t') :
    (call.perform store v).1 = (call.perform store w).1 := by
  have hmap {α β : Type} {f : α → β} {a : Action α} (ha : (a v).1 = (a w).1) :
      ((f <$> a) v).1 = ((f <$> a) w).1 := by
    rw [Action.map_apply, Action.map_apply, ha]
  cases h with
  | userById id =>
    refine hmap (Store.operate_fst_congr hrows hrows' htasks ?_ fun _ _ => Store.required_left)
    rw [(hsame.sameLive none).userById?]
  | userByUsername username =>
    refine hmap (Store.operate_fst_congr hrows hrows' htasks ?_ fun _ _ => Store.required_left)
    rw [hsame.userByUsername?]
  | userByToken secret now =>
    exact hmap (Store.userByToken_fst_congr hrows hrows' htasks (fun _ => hclock)
      (hsame.sameLive _) secret)
  | authenticate secret now =>
    exact hmap (authenticate_fst_congr hrows hrows' htasks (fun _ => hclock) (hsame.sameLive _)
      secret store)
  | users =>
    refine hmap (Store.operate_fst_congr hrows hrows' htasks ?_ fun _ _ => Store.reading_left)
    rw [hsame.usersByAge]
  | tokensOf userId =>
    refine hmap (Store.operate_fst_congr hrows hrows' htasks ?_ fun _ _ => Store.reading_left)
    rw [hsame.tokensOf]

/-! ### Batches in another order -/

lemma eq_nil_of_entriesOf {batches : List Batch} (h : entriesOf batches = []) : batches = [] := by
  cases batches with
  | nil => rfl
  | cons b rest =>
    have hb := (List.append_eq_nil_iff.mp h).1
    cases b with
    | alone e => cases hb
    | block first rest => cases hb

namespace Batch

/-- The order of entries does not matter. In a world that a run from empty tables has reached, let
entries come through one after the other, each with a transaction of its own or in blocks. Then they
come through in every order that inserts no token before its owner, in whatever way this is divided
into transactions. Every entry answers with the same row as before, and afterwards every lookup and
every listing answers the same. -/
theorem run_reordered {events : List (Mishaps × Event)} {w₀ : World} (hempty : w₀.stored = {})
    {given : List (Mishaps × Batch)} {told : List Answer}
    (htold : AllTold (given.map Prod.snd)
      (Event.run (eventsOf given) (Event.run events w₀).2).1 told)
    {batches : List Batch} (hperm : (entriesOf batches).Perm (entriesOf (given.map Prod.snd)))
    (howners : Entry.OwnersFirst (entriesOf batches)) :
    let w := (Event.run events w₀).2
    let left := (Event.run (eventsOf given) w).2
    let left' := (Event.run (eventsOf (undisturbed batches)) w).2
    ∃ answer : Entry → Answer, told = (entriesOf (given.map Prod.snd)).map answer ∧
      AllTold batches (Event.run (eventsOf (undisturbed batches)) w).1
        ((entriesOf batches).map answer) ∧
      ∀ call : Call, call.Looks → ∀ mishaps,
        ((Event.call call).happen mishaps left').1 = ((Event.call call).happen mishaps left).1 := by
  have hconsistent : (Event.run events w₀).2.stored.Consistent := Event.run_consistent hempty
  generalize (Event.run events w₀).2 = w at *
  dsimp only
  cases given with
  | nil =>
    cases htold
    obtain rfl := eq_nil_of_entriesOf hperm.eq_nil
    exact ⟨fun _ => .nothing, rfl, .nil, fun _ _ _ => rfl⟩
  | cons head rest =>
    obtain ⟨rows, htakes⟩ : ∃ rows, w.Takes rows := by
      obtain ⟨mishaps, b⟩ := head
      cases htold with
      | cons hfirst _ =>
        obtain ⟨rows, hadded⟩ := happen_ok rfl hfirst
        exact ⟨rows, hadded.takes⟩
    have hrows : w.stored = rows := by
      rw [World.stored, Database.tables_of_rows htakes.1, Option.getD_some]
    have hadded := run_ok htakes htold
    obtain ⟨hfit, hsame⟩ := hadded.fit.reordered (hrows ▸ hconsistent) hperm howners
    obtain ⟨told', htold', hadded'⟩ := run_of_fit htakes hfit
    rw [hadded'.told] at htold'
    refine ⟨Entry.answer w.stamp?, hadded.told, htold', fun call hlooks mishaps => ?_⟩
    refine congrArg Reaction.answer (hlooks.perform_fst ?_ ?_ rfl ?_ hsame)
    · exact hadded.later.1
    · exact hadded'.later.1
    · exact hadded'.clock.trans hadded.clock.symm

/-- A user v with a token in a block, a token for the user a, and a user y. -/
def arrivals : List Batch :=
  [.block (.user (some "u") (some "v") .unset, false)
      [(.token (some "t") (some "u") (some "s") (.text "n") none, false)],
    .alone (.token (some "k") (some "a") (some "r") (.text "n") none),
    .alone (.user (some "x") (some "y") .unset)]

/-- The same entries in another order and in other transactions. -/
def shuffled : List Batch :=
  [.alone (.user (some "x") (some "y") .unset),
    .block (.token (some "k") (some "a") (some "r") (.text "n") none, true)
      [(.user (some "u") (some "v") .unset, true)],
    .alone (.token (some "t") (some "u") (some "s") (.text "n") none)]

/-- After the user a has come, the others arrive in either order. -/
theorem run_reordered_arrivals :
    (({} : World).stored = {} ∧ Entry.OwnersFirst (entriesOf shuffled) ∧
      (entriesOf shuffled).Perm (entriesOf ((undisturbed arrivals).map Prod.snd))) ∧
    ∃ told, AllTold ((undisturbed arrivals).map Prod.snd)
        (Event.run (eventsOf (undisturbed arrivals)) (Event.run Event.moving {}).2).1 told ∧
      ∃ answer : Entry → Answer,
        told = (entriesOf ((undisturbed arrivals).map Prod.snd)).map answer ∧
        AllTold shuffled
          (Event.run (eventsOf (undisturbed shuffled)) (Event.run Event.moving {}).2).1
          ((entriesOf shuffled).map answer) := by
  have howners : Entry.OwnersFirst (entriesOf shuffled) := by decide
  have hperm : (entriesOf shuffled).Perm (entriesOf ((undisturbed arrivals).map Prod.snd)) := by
    decide
  have htakes : (Event.run Event.moving {}).2.Takes (Event.run Event.moving {}).2.stored :=
    ⟨by decide +kernel, by decide +kernel⟩
  have hfit : Entry.Fit (Event.run Event.moving {}).2.stamp? (Event.run Event.moving {}).2.stored
      (entriesOf arrivals) := by
    decide +kernel
  obtain ⟨told, hfirst, -⟩ := run_of_fit htakes hfit
  have htold : AllTold ((undisturbed arrivals).map Prod.snd)
      (Event.run (eventsOf (undisturbed arrivals)) (Event.run Event.moving {}).2).1 told := hfirst
  obtain ⟨answer, hanswer, hall, -⟩ := run_reordered rfl htold hperm howners
  exact ⟨⟨rfl, howners, hperm⟩, told, htold, answer, hanswer, hall⟩

end Batch

end BearerAccess
