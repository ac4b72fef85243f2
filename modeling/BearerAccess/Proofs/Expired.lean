import BearerAccess.Proofs.Age
import BearerAccess.Proofs.AlikeEvent
import BearerAccess.Proofs.NearnessService
import BearerAccess.Proofs.Privilege

/-!
# Expired tokens

A token that is no longer live is as good as none. Where two stores have the same users and the same
live tokens, a secret comes to the same in both, and so does a request that creates no user: it gets the
same response and writes the same messages. Only a new user may meet the rows of an expired token, whose
id and secret are still taken.
-/

namespace BearerAccess

/-! ### Rows -/

namespace Tables

/-- Where keys are unique, the row that is found by a key is the one that has it. -/
lemma find?_iff_of_nodup {ι : Type} {key : ι → String} {list : List ι} (h : (list.map key).Nodup)
    {wanted : Option String} {x : ι} :
    list.find? (fun y => some (key y) = wanted) = some x ↔ x ∈ list ∧ some (key x) = wanted := by
  constructor
  · intro hfound
    exact ⟨List.mem_of_find?_eq_some hfound, (Store.some_id_of_find hfound).symm⟩
  · rintro ⟨hx, rfl⟩
    cases hfound : list.find? fun y => some (key y) = some (key x) with
    | none => exact absurd (decide_eq_true rfl) (List.find?_eq_none.mp hfound x hx)
    | some y =>
      have hkey : key y = key x := Option.some.inj (Store.some_id_of_find hfound).symm
      rw [List.inj_on_of_nodup_map h (List.mem_of_find?_eq_some hfound) hx hkey]

lemma userById?_iff {t : Tables} (h : t.Consistent) {id : Option String} {u : UserRow} :
    t.userById? id = some u ↔ u ∈ t.users ∧ some u.id = id :=
  find?_iff_of_nodup h.userIds

/-- Consistent rows that differ in nothing but tokens that are not live at a moment. -/
structure SameLive (now : Option Stamp) (a b : Tables) : Prop where
  consistent : a.Consistent
  consistent' : b.Consistent
  users : ∀ u, u ∈ a.users ↔ u ∈ b.users
  tokens : ∀ stamp ∈ now, ∀ k : TokenRow, k.expiresAt.all (·.isAfter stamp) = true →
    (k ∈ a.tokens ↔ k ∈ b.tokens)

namespace SameLive

variable {now : Option Stamp} {a b : Tables}

lemma ownerOfSecret? {stamp : Stamp} (h : a.SameLive now b) (hnow : now = some stamp)
    (secret : Option String) : b.ownerOfSecret? secret stamp = a.ownerOfSecret? secret stamp := by
  refine Option.ext fun u => ?_
  rw [ownerOfSecret?_iff h.consistent', ownerOfSecret?_iff h.consistent]
  refine exists_congr fun k => ?_
  constructor
  · rintro ⟨hk, hsecret, hlive, hu, hid⟩
    exact ⟨(h.tokens stamp hnow k hlive).mpr hk, hsecret, hlive, (h.users u).mpr hu, hid⟩
  · rintro ⟨hk, hsecret, hlive, hu, hid⟩
    exact ⟨(h.tokens stamp hnow k hlive).mp hk, hsecret, hlive, (h.users u).mp hu, hid⟩

lemma userById? (h : a.SameLive now b) (id : Option String) : b.userById? id = a.userById? id := by
  refine Option.ext fun u => ?_
  rw [userById?_iff h.consistent', userById?_iff h.consistent, h.users]

lemma deleteUser (h : a.SameLive now b) (id : String) :
    (a.deleteUser id).SameLive now (b.deleteUser id) := by
  refine ⟨h.consistent.apply (c := .removeUser id) trivial,
    h.consistent'.apply (c := .removeUser id) trivial, fun u => ?_, fun stamp hstamp k hlive => ?_⟩
  · simp only [Tables.deleteUser, List.mem_filter, h.users]
  · simp only [Tables.deleteUser, List.mem_filter, h.tokens stamp hstamp k hlive]

end SameLive

end Tables

/-! ### Worlds -/

namespace World

lemma giveBack_connect (w : World) (c : Connection) :
    ∃ idle, w.connect.2.giveBack c = { w with idle } := by
  obtain ⟨idle, hconnect⟩ := w.connect_eq
  rw [hconnect]
  exact giveBack_eq _ c

lemma turn_eq (w : World) : ∃ idle, w.turn = { w with idle } := by
  unfold turn
  split
  · exact w.giveBack_connect _
  · exact ⟨w.idle, rfl⟩

lemma visit_eq (w : World) (query : Option Store.Query) : ∃ idle, (w.visit query).2 = { w with idle } :=
  w.giveBack_connect _

/-- Two worlds in which the same has been written to the log after what stood there before, and which
differ otherwise in nothing that requests and their messages depend on but tokens that are not
live. -/
structure Indistinct (now : Option Stamp) (before before' : List LogEntry) (w v : World) : Prop where
  clock : v.clock = w.clock
  stamp : w.stamp? = now
  tasks : v.tasks = w.tasks
  origin : v.origin = w.origin
  threshold : v.threshold = w.threshold
  reachable : v.database.reachable = w.database.reachable
  isShut : v.database.isShut = w.database.isShut
  log : ∃ written, w.log = before ++ written ∧ v.log = before' ++ written
  rows : ∃ a b, w.database.tables = some a ∧ v.database.tables = some b ∧ a.SameLive now b

namespace Indistinct

variable {now : Option Stamp} {before before' : List LogEntry} {w v : World}

/-- The connections at hand do not matter. -/
lemma idle (h : w.Indistinct now before before' v) (idle idle' : List Connection) :
    Indistinct now before before' { w with idle } { v with idle := idle' } :=
  ⟨h.clock, h.stamp, h.tasks, h.origin, h.threshold, h.reachable, h.isShut, h.log, h.rows⟩

lemma keep (h : w.Indistinct now before before' v) (e : LogEntry) :
    (w.keep e).Indistinct now before before' (v.keep e) := by
  unfold World.keep
  by_cases hkept : w.threshold ≤ e.severity.rank
  · rw [if_pos hkept, if_pos (h.threshold.trans_le hkept)]
    obtain ⟨written, hw, hv⟩ := h.log
    refine ⟨h.clock, h.stamp, h.tasks, h.origin, h.threshold, h.reachable, h.isShut, ?_, h.rows⟩
    exact ⟨written ++ [e], by rw [hw, List.append_assoc], by rw [hv, List.append_assoc]⟩
  · rw [if_neg hkept, if_neg fun hv => hkept (h.threshold.symm.trans_le hv)]
    exact h

lemma visit (h : w.Indistinct now before before' v) (hreachable : w.database.reachable = true)
    {q q' : Option Store.Query} (hq : Store.Query.Same q q') :
    Coupled (Parallel Eq (Tables.SameLive now)) (Indistinct now before before') (w.visit q)
      (v.visit q') := by
  obtain ⟨a, b, ha, hb, hrows⟩ := h.rows
  have hw : w.database.rows? = some a := by rw [Database.rows?, if_pos hreachable, ha]
  have hv : v.database.rows? = some b := by rw [Database.rows?, h.reachable, if_pos hreachable, hb]
  obtain ⟨idle, hidle⟩ := w.visit_eq q
  obtain ⟨idle', hidle'⟩ := v.visit_eq q'
  refine ⟨?_, ?_⟩
  · rw [visit_fst hw, visit_fst hv, hq.obstacle]
    cases q.bind (textObstacle? ·.subject) with
    | none => exact .answers hrows
    | some obstacle => exact .errors rfl
  · rw [hidle, hidle']
    exact h.idle _ _

lemma leave (h : w.Indistinct now before before' v) {left left' : Option Tables}
    (hleft : Option.Rel (Tables.SameLive now) left left') :
    (w.leave left).Indistinct now before before' (v.leave left') := by
  cases hleft with
  | none => exact h
  | some hrows =>
    exact ⟨h.clock, h.stamp, h.tasks, h.origin, h.threshold, h.reachable, h.isShut, h.log, _, _, rfl,
      rfl, hrows⟩

end Indistinct

end World

/-- The nearness of worlds that differ in expired tokens. -/
def Nearness.expired (now : Option Stamp) (before before' : List LogEntry) : Nearness where
  near := World.Indistinct now before before'
  rows := Tables.SameLive now
  told := True
  clock h := h.clock
  tasks h := h.tasks
  reachable h := h.reachable
  isShut h := h.isShut
  write := by
    intro w v severity source message message' h hmessage
    rw [hmessage trivial]
    exact h.keep _
  writeException := by
    intro w v severity source message message' cause cause' h hsame
    obtain ⟨rfl, rfl⟩ := hsame trivial
    unfold World.writeException
    rw [h.origin]
    exact h.keep _
  origins := Eq
  veiled _ := rfl
  raising := by
    intro w v origin origin' h horigin
    have hraised : origin'.or v.origin = origin.or w.origin := by
      rw [h.origin]
      cases horigin trivial with
      | none => rfl
      | some hsame => rw [hsame]
    exact ⟨h.clock, h.stamp, h.tasks, hraised, h.threshold, h.reachable, h.isShut, h.log, h.rows⟩
  assigned := by
    intro w v h
    have htasks : v.tasks + 1 = w.tasks + 1 := by rw [h.tasks]
    exact ⟨h.clock, h.stamp, htasks, h.origin, h.threshold, h.reachable, h.isShut, h.log, h.rows⟩
  turn := by
    intro w v h
    obtain ⟨idle, hw⟩ := w.turn_eq
    obtain ⟨idle', hv⟩ := v.turn_eq
    rw [hw, hv]
    exact h.idle _ _
  visit h hreachable hq := h.visit hreachable hq
  leave h hleft := h.leave hleft
  bare h := h.idle _ _
  rejoin _ h := h.idle _ _
  usersByAge h := (Tables.usersByAge_eq_of_mem h.consistent h.consistent' h.users).symm
  userById id h := h.userById? id
  withoutUser id h := h.deleteUser id

/-! ### Secrets that are presented -/

namespace Expired

open Nearness

variable {store : Store} {now : Option Stamp} {before before' : List LogEntry} {w v : World}

/-- What an action comes to in two worlds that differ in expired tokens: the same. -/
abbrev Actions {α : Type} (now : Option Stamp) (before before' : List LogEntry) (V : α → α → Prop)
    (x y : Except Failure α × World) : Prop :=
  Coupled (Parallel (Failure.Kin True) V) (World.Indistinct now before before') x y

lemma present (h : w.Indistinct now before before' v) :
    Actions now before before' (fun u u' => u' = u ∧ now = some (Stamp.ofDateTime u))
      (moment none w) (moment none v) := by
  obtain ⟨hsame, hworld⟩ := Nearness.moment (L := .expired now before before') h none
  refine ⟨?_, hworld⟩
  obtain ⟨⟨f, hmoment⟩, -⟩ | ⟨u, hmoment, hstamp⟩ := moment_cases none w
  · rw [hmoment] at hsame ⊢
    generalize (moment none v).1 = y at hsame
    cases hsame with
    | errors hf => exact .errors hf
  · rw [hmoment] at hsame ⊢
    generalize (moment none v).1 = y at hsame
    cases hsame with
    | answers hu => exact .answers ⟨hu.symm, h.stamp.symm.trans hstamp⟩

lemma userByToken (h : w.Indistinct now before before' v) (secret : Option Text) :
    Actions now before before' Eq (store.userByToken secret none w)
      (store.userByToken secret none v) := by
  refine Coupled.bind (present h) fun u u' w₁ v₁ hu h₁ => ?_
  obtain ⟨rfl, hnow⟩ := hu
  exact operate (L := .expired now before before') h₁ (.refl store) ⟨.refl _, rfl⟩ fun a b hrows =>
    reading (by rw [hrows.ownerOfSecret? hnow])

/-- Every header is heard alike in worlds that differ in expired tokens. -/
lemma hears (store : Store) (header : Option Text) :
    (Nearness.expired now before before').Hears store store header header := by
  cases header with
  | none => exact .none
  | some header =>
    refine .some fun w v h => ?_
    unfold Service.look
    cases bearerSecret (some header) with
    | ok secret => exact (Nearness.expired now before before').authenticate h .rfl (userByToken h _)
    | error problem => exact ⟨.errors (.refl _), h⟩

end Expired

/-! ### Secrets that are asked about -/

/-- Worlds whose clocks show the same are at the same moment. -/
lemma moment_congr {w v : World} {now : Option DateTime} (hclock : now = none → v.clock = w.clock) :
    moment now v = ((moment now w).1, v) := by
  cases now with
  | none =>
    simp only [moment, presentTime, Action.bind_apply, Action.get_apply, hclock rfl]
    cases DateTime.ofClock? w.clock <;> rfl
  | some now => simp only [moment, DateTime.universal, Action.liftExcept_apply]

namespace Store

variable {α : Type} {store : Store} {w v : World} {rows rows' : Tables} {name : String}
  {query : Option Query} {work : Work α}

/-- Where there are rows, what is made of them decides the answer of an operation that changes
nothing. -/
lemma operate_fst_congr (hrows : w.database.rows? = some rows)
    (hrows' : v.database.rows? = some rows') (htasks : v.tasks = w.tasks)
    (hwork : work rows' = work rows) (hleft : ∀ a left, work rows = .ok (a, left) → left = none) :
    (store.operate name query work v).1 = (store.operate name query work w).1 := by
  have hassigned {w : World} {rows : Tables} (h : w.database.rows? = some rows) :
      w.assigned.database.rows? = some rows := h
  rw [operate_apply, operate_apply, htasks, Database.reachable_of_rows hrows,
    Database.reachable_of_rows hrows',
    World.visit_fst (hassigned hrows), World.visit_fst (hassigned hrows')]
  dsimp only
  split
  · rfl
  cases query.bind (textObstacle? ·.subject) with
  | some obstacle => rfl
  | none =>
    dsimp only
    rw [hwork]
    rcases hmade : work rows with cause | ⟨a, left⟩
    · rfl
    · obtain rfl := hleft a left hmade
      dsimp only [conclude]
      split <;> rfl

lemma userByToken_fst_congr {now : Option DateTime} (hrows : w.database.rows? = some rows)
    (hrows' : v.database.rows? = some rows') (htasks : v.tasks = w.tasks)
    (hclock : now = none → v.clock = w.clock) (hlive : rows.SameLive (w.askedAt? now) rows')
    (secret : Option Text) :
    (store.userByToken secret now v).1 = (store.userByToken secret now w).1 := by
  unfold userByToken
  rw [Action.bind_apply, Action.bind_apply, moment_congr hclock]
  obtain ⟨⟨f, hm⟩, -⟩ | ⟨u, hm, hasked⟩ := moment_cases now w
  · rw [hm]
  · rw [hm]
    refine operate_fst_congr hrows hrows' htasks ?_ fun _ _ => reading_left
    rw [hlive.ownerOfSecret? hasked]

end Store

/-- A secret is authenticated with the same outcome in worlds that differ in tokens that are not live
at the moment that is asked about. -/
lemma authenticate_fst_congr {w v : World} {rows rows' : Tables} {now : Option DateTime}
    (hrows : w.database.rows? = some rows) (hrows' : v.database.rows? = some rows')
    (htasks : v.tasks = w.tasks) (hclock : now = none → v.clock = w.clock)
    (hlive : rows.SameLive (w.askedAt? now) rows') (secret : Option Text) (store : Store) :
    (authenticate store secret now v).1 = (authenticate store secret now w).1 := by
  unfold authenticate
  by_cases hempty : secret.getD [] = []
  · rw [if_pos hempty]
    rfl
  · rw [if_neg hempty]
    have hsame : (store.userByToken secret now v).1 = (store.userByToken secret now w).1 :=
      Store.userByToken_fst_congr hrows hrows' htasks hclock hlive secret
    dsimp only
    rw [Action.bind_apply, Action.bind_apply]
    rcases hw : store.userByToken secret now w with ⟨x, w'⟩
    rcases hv : store.userByToken secret now v with ⟨y, v'⟩
    rw [hw, hv] at hsame
    obtain rfl := hsame
    cases y with
    | error f => rfl
    | ok found => cases found <;> rfl

/-! ### Requests -/

namespace World

/-- The stored rows of two worlds differ in nothing but tokens that are not live at an instant. -/
structure SameLive (instant : Int) (w v : World) : Prop where
  users : ∀ u, u ∈ w.stored.users ↔ u ∈ v.stored.users
  tokens : ∀ k : TokenRow, k.toToken.LiveAt instant → (k ∈ w.stored.tokens ↔ k ∈ v.stored.tokens)

/-- Two worlds in which requests meet the same conditions at an instant: it is the present, the
database can be changed or not, and the same application serves by the same level of the log. -/
structure SameService (instant : Int) (w v : World) : Prop where
  present : w.instant = instant
  present' : v.instant = instant
  isShut : v.database.isShut = w.database.isShut
  application : v.application = w.application
  threshold : v.threshold = w.threshold

lemma SameLive.tables {instant : Int} {w v : World} (h : w.SameLive instant v)
    (hconsistent : w.stored.Consistent) (hconsistent' : v.stored.Consistent) (hdated : w.Dated)
    (hdated' : v.Dated) {now : Option DateTime}
    (hnow : ∀ u ∈ now, u.Universal ∧ u.instant = instant) :
    w.stored.SameLive (now.map Stamp.ofDateTime) v.stored := by
  refine ⟨hconsistent, hconsistent', h.users, fun stamp hstamp k hlive => ?_⟩
  obtain ⟨u, hu, rfl⟩ := Option.map_eq_some_iff.mp hstamp
  obtain ⟨huniversal, rfl⟩ := hnow u hu
  constructor
  · intro hk
    exact (h.tokens k ((TokenRow.liveAt_iff (hdated k hk) huniversal).mpr hlive)).mp hk
  · intro hk
    exact (h.tokens k ((TokenRow.liveAt_iff (hdated' k hk) huniversal).mpr hlive)).mpr hk

end World

/-- A draft that is sent to create a user, where the service goes by a name. -/
def RequestDraft.CreatesUser (draft : RequestDraft) (server : Option ServerName) : Prop :=
  ∃ r, draft.sent server = .ok r ∧ upperCase r.method = "POST" ∧ r.path = "/users"

namespace Expired

variable {now : Option Stamp} {before before' : List LogEntry} {w v : World}

/-- The application that serves makes no difference to worlds that differ in expired tokens. -/
lemma current (h : w.Indistinct now before before' v) (happ : v.application = w.application) :
    ∃ a b w₁ v₁, Application.current w = (.ok a, w₁) ∧ Application.current v = (.ok b, v₁) ∧
      b.manner = a.manner ∧ w₁.Indistinct now before before' v₁ := by
  obtain ⟨a, threshold, hw, ha⟩ := Application.current_apply w
  obtain ⟨b, threshold', hv, hb⟩ := Application.current_apply v
  have hthreshold : threshold' = threshold := by
    have hw' := Application.current_threshold w
    have hv' := Application.current_threshold v
    rw [hw] at hw'
    rw [hv, happ, h.threshold] at hv'
    exact hv'.trans hw'.symm
  refine ⟨a, b, _, _, hw, hv, ?_, ?_⟩
  · rw [ha, hb, Surroundings.manner, Surroundings.manner, World.surroundings, World.surroundings, happ]
  · exact ⟨h.clock, h.stamp, h.tasks, h.origin, hthreshold, h.reachable, h.isShut, h.log, h.rows⟩

/-- Requests that create no user are served alike in worlds that differ in expired tokens. -/
lemma serve (h : w.Indistinct now before before' v) (happ : v.application = w.application)
    {draft : RequestDraft} (hdraft : ¬draft.CreatesUser (Application.nameIn w)) (given own : Store) :
    (Application.serve given own draft v).1 = (Application.serve given own draft w).1 ∧
      (Application.serve given own draft w).2.Indistinct now before before'
        (Application.serve given own draft v).2 := by
  obtain ⟨a, b, w₁, v₁, hw, hv, hmanner, h₁⟩ := current h happ
  have hissues : ∀ r, draft.sent a.settings.serverName = .ok r →
      Destination.find (upperCase r.method) r.path r.forSocket = .endpoint .createUser →
      ∀ store, (Nearness.expired now before before').Issues (fun _ _ => False) store store
        a.settings.tokenName := by
    intro r hsent hd
    rw [Application.current_ok hw] at hsent
    exact absurd ⟨r, hsent, Destination.place_of_createUser hd⟩ hdraft
  obtain ⟨hanswer, hworld⟩ :
      (Nearness.expired now before before').Actions (Response.Same fun _ _ => False)
        (Application.serve given own draft w)
        (Application.serve given own (draft.withHeader draft.authorization) v) :=
    Nearness.serve hw hv hmanner h₁ rfl (fun store => hears store _) hissues given own
  refine ⟨?_, hworld⟩
  have hgiven : draft.withHeader draft.authorization = draft := rfl
  rw [hgiven] at hanswer
  generalize (Application.serve given own draft w).1 = x at hanswer ⊢
  generalize (Application.serve given own draft v).1 = y at hanswer ⊢
  cases hanswer with
  | errors hf => exact congrArg Except.error hf.eq.symm
  | answers hsame =>
    cases hsame with
    | same => rfl
    | created hmade => exact hmade.elim

end Expired

/-! ### After any two runs -/

namespace World

variable {w v : World}

lemma rows_of_isSome (h : w.database.rows?.isSome) : w.database.rows? = some w.stored := by
  obtain ⟨rows, hrows⟩ := Option.isSome_iff_exists.mp h
  rw [stored, Database.tables_of_rows hrows, Option.getD_some, hrows]

lemma SameService.clock {instant : Int} (h : w.SameService instant v) : v.clock = w.clock := by
  have hpresent := h.present'.trans h.present.symm
  unfold World.instant at hpresent
  omega

/-- Before a request the worlds differ in expired tokens at the present. -/
lemma SameService.indistinct {instant : Int} (h : w.SameService instant v)
    (hrows : w.database.rows? = some w.stored) (hrows' : v.database.rows? = some v.stored)
    (hlive : w.stored.SameLive w.stamp? v.stored) :
    w.anew.Indistinct w.stamp? w.log v.log v.anew where
  clock := h.clock
  stamp := rfl
  tasks := rfl
  origin := rfl
  threshold := h.threshold
  reachable := (Database.reachable_of_rows hrows').trans (Database.reachable_of_rows hrows).symm
  isShut := h.isShut
  log := ⟨[], (List.append_nil _).symm, (List.append_nil _).symm⟩
  rows := ⟨_, _, Database.tables_of_rows hrows, Database.tables_of_rows hrows', hlive⟩

end World

namespace Event

lemma authenticate_reaction (mishaps : Mishaps) (secret : Option Text) (now : Option DateTime)
    (w : World) : ((call (.authenticate secret now)).happen mishaps w).1 =
      .answer ((authenticate ⟨mishaps.store⟩ secret now w.anew).1.map
        (Answer.identity ∘ some)) := by
  change Reaction.answer (((Answer.identity ∘ some) <$> authenticate ⟨mishaps.store⟩ secret now)
    w.anew).1 = _
  rw [Action.map_apply]

/-- Nobody can tell an expired token from one that was never there. After any two runs that leave the
same users and the same tokens live at a moment, every secret is authenticated with the same outcome
at that moment; and at that moment every request that creates no user gets the same response and
writes the same messages, whatever methods fail. -/
theorem happen_sameLive {events events' : List (Mishaps × Event)} {w₀ v₀ : World}
    (hempty : w₀.stored = {}) (hempty' : v₀.stored = {}) (htimely : ∀ e ∈ events, e.2.Timely)
    (htimely' : ∀ e ∈ events', e.2.Timely) (hrows : (run events w₀).2.database.rows?.isSome)
    (hrows' : (run events' v₀).2.database.rows?.isSome) {now : DateTime} (hnow : now.Valid)
    (hlive : (run events w₀).2.SameLive now.instant (run events' v₀).2) :
    let w := (run events w₀).2
    let v := (run events' v₀).2
    (∀ mishaps secret, ((call (.authenticate secret (some now))).happen mishaps v).1 =
      ((call (.authenticate secret (some now))).happen mishaps w).1) ∧
    (w.SameService now.instant v →
      ∀ mishaps draft, ¬draft.CreatesUser (Application.nameIn w) →
        ((request draft).happen mishaps v).1 = ((request draft).happen mishaps w).1 ∧
        ∃ written, ((request draft).happen mishaps w).2.log = w.log ++ written ∧
          ((request draft).happen mishaps v).2.log = v.log ++ written) := by
  have htables {u : Option DateTime} (hu : ∀ n ∈ u, n.Universal ∧ n.instant = now.instant) :
      (run events w₀).2.stored.SameLive (u.map Stamp.ofDateTime) (run events' v₀).2.stored :=
    hlive.tables (run_consistent hempty) (run_consistent hempty') (run_dated hempty htimely)
      (run_dated hempty' htimely') hu
  have hw := World.rows_of_isSome hrows
  have hv := World.rows_of_isSome hrows'
  generalize (run events w₀).2 = w at *
  generalize (run events' v₀).2 = v at *
  refine ⟨fun mishaps secret => ?_, fun hservice mishaps draft hdraft => ?_⟩
  · have hw' : w.anew.database.rows? = some w.stored := hw
    have hv' : v.anew.database.rows? = some v.stored := hv
    have hasked : w.stored.SameLive (w.anew.askedAt? (some now)) v.stored :=
      htables fun _ hu => DateTime.toUniversal?_spec hnow hu
    have hsame := authenticate_fst_congr hw' hv' rfl (fun h => by cases h) hasked secret
      ⟨mishaps.store⟩
    rw [authenticate_reaction, authenticate_reaction, hsame]
  · have hpresent : w.stored.SameLive w.stamp? v.stored := htables fun u hu => by
      obtain ⟨huniversal, hinstant⟩ := DateTime.ofInstant?_spec hu
      exact ⟨huniversal, hinstant.trans hservice.present⟩
    obtain ⟨hanswer, hworld⟩ := Expired.serve (hservice.indistinct hw hv hpresent)
      hservice.application hdraft ⟨mishaps.store⟩ ⟨mishaps.others⟩
    unfold happen
    rw [request_apply, request_apply]
    exact ⟨congrArg served hanswer, hworld.log⟩

/-- As before, with a second token for b: that of the secret x, until the end of 2010. -/
def lapsing : List (Mishaps × Event) :=
  moving ++ [(({} : Mishaps), .call (.insertToken (some "f") (some "a") (some "x") (.text "e")
    (some (endOfYear 2010))))]

lemma lapsing_timely : ∀ e ∈ lapsing, e.2.Timely := by
  intro e he
  unfold lapsing at he
  obtain he | he := List.mem_append.mp he
  · exact moving_timely e he
  · rw [List.mem_singleton.mp he]
    rintro _ ⟨⟩
    decide

/-- The time that the clock shows at first. -/
def outset : DateTime := ⟨2020, 9, 13, 12, 26, 40, 0, some 0⟩

def lapsedRow : TokenRow :=
  ⟨"f", "a", "x", "e", some (.ofDateTime (endOfYear 2010)), .ofDateTime outset⟩

/-- Somebody with the secret x asks who they are. -/
def lapsedVisit : RequestDraft :=
  { method := "GET", authorization := some (Text.ofString "Bearer x"), target := "/users/me" }

lemma lapsing_sameLive : (run moving {}).2.SameLive outset.instant (run lapsing {}).2 := by
  have husers : (run lapsing {}).2.stored.users = (run moving {}).2.stored.users := by
    decide +kernel
  have htokens : (run lapsing {}).2.stored.tokens = (run moving {}).2.stored.tokens ++ [lapsedRow] := by
    decide +kernel
  have hexpired : ¬lapsedRow.toToken.LiveAt outset.instant := by
    unfold Token.LiveAt
    decide +kernel
  refine ⟨fun u => by rw [husers], fun k hlive => ?_⟩
  rw [htokens, List.mem_append, List.mem_singleton]
  refine ⟨.inl, fun hk => ?_⟩
  obtain hk | rfl := hk
  · exact hk
  · exact absurd hlive hexpired

lemma lapsing_sameService : (run moving {}).2.SameService outset.instant (run lapsing {}).2 where
  present := by decide +kernel
  present' := by decide +kernel
  isShut := by decide +kernel
  application := by
    have hmoving : (run moving {}).2.application.isNone := by decide +kernel
    have hlapsing : (run lapsing {}).2.application.isNone := by decide +kernel
    rw [Option.isNone_iff_eq_none.mp hmoving, Option.isNone_iff_eq_none.mp hlapsing]
  threshold := by decide +kernel

lemma lapsedVisit_creates (server : Option ServerName) : ¬lapsedVisit.CreatesUser server := by
  rintro ⟨r, hsent, hmethod, -⟩
  rw [RequestDraft.parts_of_sent hsent] at hmethod
  exact absurd hmethod (by decide +kernel)

/-- In the middle of 2020 the secret of the token that ended in 2010 comes to the same as if there had
never been that token. -/
theorem happen_sameLive_lapsing :
    (({} : World).stored = {} ∧ (∀ e ∈ moving, e.2.Timely) ∧ ∀ e ∈ lapsing, e.2.Timely) ∧
      ((run moving {}).2.database.rows?.isSome ∧ (run lapsing {}).2.database.rows?.isSome) ∧
      (outset.Valid ∧ (run moving {}).2.SameLive outset.instant (run lapsing {}).2) ∧
      ((run moving {}).2.SameService outset.instant (run lapsing {}).2 ∧
        ¬lapsedVisit.CreatesUser (Application.nameIn (run moving {}).2)) ∧
      (∀ mishaps, ((call (.authenticate (some "x") (some outset))).happen mishaps (run lapsing {}).2).1 =
        ((call (.authenticate (some "x") (some outset))).happen mishaps (run moving {}).2).1) ∧
      ∀ mishaps, ((request lapsedVisit).happen mishaps (run lapsing {}).2).1 =
        ((request lapsedVisit).happen mishaps (run moving {}).2).1 ∧
        ∃ written, ((request lapsedVisit).happen mishaps (run moving {}).2).2.log =
            (run moving {}).2.log ++ written ∧
          ((request lapsedVisit).happen mishaps (run lapsing {}).2).2.log =
            (run lapsing {}).2.log ++ written := by
  have hrows : (run moving {}).2.database.rows?.isSome := by decide +kernel
  have hrows' : (run lapsing {}).2.database.rows?.isSome := by decide +kernel
  have hvalid : outset.Valid := by decide
  have hempty : ({} : World).stored = {} := rfl
  have hcreates := lapsedVisit_creates (Application.nameIn (run moving {}).2)
  obtain ⟨hauthenticated, hrequested⟩ := happen_sameLive hempty hempty moving_timely lapsing_timely
    hrows hrows' hvalid lapsing_sameLive
  exact ⟨⟨hempty, moving_timely, lapsing_timely⟩, ⟨hrows, hrows'⟩, ⟨hvalid, lapsing_sameLive⟩,
    ⟨lapsing_sameService, hcreates⟩, fun mishaps => hauthenticated mishaps (some "x"),
    fun mishaps => hrequested lapsing_sameService mishaps lapsedVisit hcreates⟩

end Event

end BearerAccess
